import Deminify.Proofs.Printer.Yield
import Deminify.Proofs.Tree.Node
import Deminify.Printer.Statement

/-!
# The parts that are printed

A printer does not look at every child of a node. The name of a function, the key of a property that
is not computed, the block of a function, the specifiers of an import: of these it takes what it
needs, a name or a list of statements, and passes over the node itself – and over its comments. Where
it does print a child, it depends on the *seat* of that child whether its comments are printed with
it: both those in front and those behind for a statement, an expression or a property, those in front
only for a declarator, a member of a class or a case, none for a pattern.

* `Deminify.Printer.Seat` – the places in which a node is printed, and the comments shown there;
* `Deminify.Printer.Seat.parts` – the parts that are printed of a node, each with its seat;
* `Deminify.Printer.Shown` – **the comments that are printed**: those of a node that is reached from
  part to part, under a key that its seat shows for comments of their sort.

The nothing between the braces of an element is a place of its own. What is printed there is trimmed, so
a comment between slashes and stars is shown and one to the end of the line may lose its last blanks.

`Deminify.Printer.Bears` says that a comment of some text is printed with a node in a seat: it hangs on
a node that is reached from part to part, under a key that is shown there. Every printer puts together
the texts of its parts, so if the printers of the roles below print what they are to show
(`Deminify.Printer.Faithful`), then so does each printer that is made of them; there is one lemma for
each. `Deminify.Proofs.Printer.Whole` has those of whole expressions and statements, and ties the knot.
-/

set_option mvcgen.warning false

open Std.Do

namespace Deminify.Printer

/-- A place in which a node is printed. -/
inductive Seat where
  | program
  | statement
  | expression
  | pattern
  | property
  | patternProperty
  | declarator
  | member
  | switchCase
  | nothing
  deriving DecidableEq, Repr

/-- The comments of a sort that are printed with a node: in front of it, behind it, or both. The sort
matters in front of nothing only. -/
def Seat.shownKeys (block : Bool) : Seat → List String
  | .nothing => if block then ["leadingComments"] else []
  | .program => ["trailingComments"]
  | .statement | .expression | .property | .patternProperty => ["leadingComments", "trailingComments"]
  | .declarator | .member | .switchCase => ["leadingComments"]
  | .pattern => []

/-- Parts of a node, each with its seat. -/
abbrev Parts := List (Seat × Tree)

/-- Parts that share a seat. -/
def seated (seat : Seat) (items : List Tree) : Parts := items.map (seat, ·)

section Parts

variable (t : Tree)

/-! ### What several kinds have in common -/

/-- Whether a value is the name that a key has, so that the name is written once. -/
def repeatsKey (key value : Tree) : Bool :=
  key.isIdentifier && value.isIdentifier && (value.get "name").str? == (key.get "name").str?

/-- The parts of a block, or of what holds statements as one does. -/
def blockParts : Parts := seated .statement (t.get "body").items

/-- The parts of the body of a branch or a loop. -/
def nestedParts : Parts := if t.kind == "EmptyStatement" then [] else [(.statement, t)]

def functionParts : Parts := seated .pattern (t.get "params").items ++ blockParts (t.get "body")

def declarationParts : Parts := seated .declarator (t.get "declarations").items

/-- The parts of the part of a loop's head that may declare. -/
def headParts : Parts :=
  if t.kind == "VariableDeclaration" then declarationParts t else [(.expression, t)]

/-- The parts of the key of a property: a name is written as it is. -/
def keyParts : Parts :=
  let key := t.get "key"
  if !(t.get "computed").truthy && (key.kind == "Identifier" || key.kind == "PrivateIdentifier") then []
  else [(.expression, key)]

def methodParts : Parts := keyParts t ++ functionParts (t.get "value")

def classParts : Parts :=
  (.expression, t.get "superClass") :: seated .member ((t.get "body").get "body").items

/-- The holes of a template: each follows one of its stretches. -/
def holeParts : Parts :=
  seated .expression ((t.get "expressions").items.take (t.get "quasis").items.length)

/-- The parts of an attribute of an element. -/
def attributeParts : Parts :=
  if t.kind == "JSXSpreadAttribute" then [(.expression, t.get "argument")]
  else if (t.get "value").kind == "Literal" then []
  else [(.expression, t.get "value")]

/-- The children of an element, those apart that only ask for lines of their own. -/
def childParts : Parts :=
  seated .expression ((t.get "children").items.filter fun child => !(child.get "synthetic").truthy)

def elementParts : Parts :=
  let opening := t.get "openingElement"
  (opening.get "attributes").items.flatMap attributeParts
    ++ if (opening.get "selfClosing").truthy || (t.get "closingElement").isNull then [] else childParts t

/-! ### By seat -/

def statementParts : Parts :=
  match t.kind with
  | "ExpressionStatement" | "Directive" =>
    if !(t.get "directive").isNull && (t.get "expression").kind == "Literal" then []
    else [(.expression, t.get "expression")]
  | "BlockStatement" | "StaticBlock" => blockParts t
  | "VariableDeclaration" => declarationParts t
  | "FunctionDeclaration" => functionParts t
  | "ClassDeclaration" => classParts t
  | "ReturnStatement" | "ThrowStatement" => [(.expression, t.get "argument")]
  | "LabeledStatement" => [(.statement, t.get "body")]
  | "IfStatement" =>
    (.expression, t.get "test") :: nestedParts (t.get "consequent") ++ nestedParts (t.get "alternate")
  | "ForStatement" =>
    headParts (t.get "init") ++ (.expression, t.get "test") :: (.expression, t.get "update")
      :: nestedParts (t.get "body")
  | "ForInStatement" | "ForOfStatement" =>
    headParts (t.get "left") ++ (.expression, t.get "right") :: nestedParts (t.get "body")
  | "WhileStatement" | "DoWhileStatement" =>
    (.expression, t.get "test") :: nestedParts (t.get "body")
  | "WithStatement" => (.expression, t.get "object") :: nestedParts (t.get "body")
  | "TryStatement" =>
    let handler := t.get "handler"
    blockParts (t.get "block") ++ (.pattern, handler.get "param") :: blockParts (handler.get "body")
      ++ blockParts (t.get "finalizer")
  | "SwitchStatement" =>
    (.expression, t.get "discriminant") :: seated .switchCase (t.get "cases").items
  | "ExportNamedDeclaration" => [(.statement, t.get "declaration")]
  | "ExportDefaultDeclaration" =>
    let value := t.get "declaration"
    if value.kind == "FunctionDeclaration" || value.kind == "ClassDeclaration" then [(.statement, value)]
    else [(.expression, value)]
  | _ => []

def expressionParts : Parts :=
  match t.kind with
  | "TemplateLiteral" => holeParts t
  | "TaggedTemplateExpression" => (.expression, t.get "tag") :: holeParts (t.get "quasi")
  | "ArrayExpression" => seated .expression (t.get "elements").items
  | "ObjectExpression" => seated .property (t.get "properties").items
  | "FunctionExpression" => functionParts t
  | "ArrowFunctionExpression" =>
    let body := t.get "body"
    seated .pattern (t.get "params").items
      ++ if body.kind == "BlockStatement" then blockParts body else [(.expression, body)]
  | "ClassExpression" => classParts t
  | "SequenceExpression" => seated .expression (t.get "expressions").items
  | "UnaryExpression" | "UpdateExpression" | "SpreadElement" | "AwaitExpression"
  | "YieldExpression" => [(.expression, t.get "argument")]
  | "BinaryExpression" | "LogicalExpression" =>
    [(.expression, t.get "left"), (.expression, t.get "right")]
  | "AssignmentExpression" => [(.pattern, t.get "left"), (.expression, t.get "right")]
  | "ConditionalExpression" =>
    [(.expression, t.get "test"), (.expression, t.get "consequent"), (.expression, t.get "alternate")]
  | "CallExpression" | "NewExpression" =>
    (.expression, t.get "callee") :: seated .expression (t.get "arguments").items
  | "MemberExpression" =>
    (.expression, t.get "object")
      :: if (t.get "computed").truthy then [(.expression, t.get "property")] else []
  | "ObjectPattern" | "ArrayPattern" | "AssignmentPattern" | "RestElement" => [(.pattern, t)]
  | "JSXElement" => elementParts t
  | "JSXFragment" => childParts t
  | "JSXExpressionContainer" =>
    let inner := t.get "expression"
    [(if inner.kind == "JSXEmptyExpression" then .nothing else .expression, inner)]
  | "JSXSpreadChild" => [(.expression, t.get "expression")]
  | _ => []

def patternParts : Parts :=
  match t.kind with
  | "ObjectPattern" => seated .patternProperty (t.get "properties").items
  | "ArrayPattern" => seated .pattern (t.get "elements").items
  | "AssignmentPattern" => [(.pattern, t.get "left"), (.expression, t.get "right")]
  | "RestElement" => [(.pattern, t.get "argument")]
  | "VariableDeclaration" => declarationParts t
  | _ => [(.expression, t)]

def propertyParts : Parts :=
  let kind := kindField t "init"
  let value := t.get "value"
  if t.kind == "SpreadElement" || t.kind == "RestElement" then [(.expression, t.get "argument")]
  else if kind == "get" || kind == "set" || (t.get "method").truthy then methodParts t
  else if (t.get "shorthand").truthy && !(t.get "computed").truthy && repeatsKey (t.get "key") value then []
  else keyParts t ++ [(Seat.expression, value)]

/-- Whether the key of a property of a pattern is a text that is written as a name. -/
def barePatternKey : Bool :=
  let key := t.get "key"
  !(t.get "computed").truthy && key.kind == "Literal" && (key.get "raw").isNull
    && ((key.get "value").str?).any isIdentifierName

def patternPropertyParts : Parts :=
  let key := t.get "key"
  let value := t.get "value"
  let isBare := !(t.get "computed").truthy
  if t.kind == "RestElement" then [(.pattern, t.get "argument")]
  else if isBare && repeatsKey key value then []
  else if isBare && value.kind == "AssignmentPattern" && repeatsKey key (value.get "left") then
    [(.pattern, value)]
  else if barePatternKey t then [(.pattern, value)]
  else keyParts t ++ [(Seat.pattern, value)]

def memberParts : Parts :=
  match t.kind with
  | "MethodDefinition" => methodParts t
  | "PropertyDefinition" | "ClassProperty" => keyParts t ++ [(Seat.expression, t.get "value")]
  | "StaticBlock" => blockParts t
  | _ => []

end Parts

/-- **The parts that are printed of a node**, each with its seat. -/
def Seat.parts : Seat → Tree → Parts
  | .program => blockParts
  | .statement => statementParts
  | .expression => expressionParts
  | .pattern => patternParts
  | .property => propertyParts
  | .patternProperty => patternPropertyParts
  | .declarator => fun t => [(.pattern, t.get "id"), (.expression, t.get "init")]
  | .member => memberParts
  | .switchCase => fun t =>
    (.expression, t.get "test") :: seated .statement (t.get "consequent").items
  | .nothing => fun _ => []

/-- **The comments of a sort that are printed with a node in a seat**: those of a node that is reached
from part to part, under a key that its seat shows. -/
inductive Shown (block : Bool) : Seat → Tree → Tree → String → Prop where
  | here {seat : Seat} {t : Tree} {key : String} (hk : key ∈ seat.shownKeys block) :
      Shown block seat t t key
  | part {seat : Seat} {t n : Tree} {key : String} {p : Seat × Tree} (hp : p ∈ seat.parts t)
      (h : Shown block p.1 p.2 n key) : Shown block seat t n key

/-! ### Comments that are shown -/

/-- The text of a comment, with its delimiters. -/
def commentText (comment : Tree) : String :=
  let value := ((comment.get "value").str?).getD ""
  if comment.kind == "Line" then "//" ++ value else "/*" ++ value ++ "*/"

/-- Whether a text is that of a comment between slashes and stars. -/
def isBlockText (text : String) : Bool := text.toList.take 2 == ['/', '*']

theorem isBlockText_commentText (c : Tree) : isBlockText (commentText c) = (c.kind != "Line") := by
  rw [isBlockText, commentText]
  cases h : c.kind == "Line" <;> simp [bne, h]

/-- Whether a node has a comment of the given text under a key. -/
def HasComment (text key : String) (t : Tree) : Prop :=
  ∃ comment ∈ (t.get key).items, commentText comment = text

/-- Whether a comment of the given text is printed with a node in a seat. -/
def Bears (text : String) (seat : Seat) (t : Tree) : Prop :=
  ∃ n key, Shown (isBlockText text) seat t n key ∧ HasComment text key n

/-- Whether one of the parts has such a comment. -/
def PartBears (text : String) (parts : Parts) : Prop := ∃ p ∈ parts, Bears text p.1 p.2

section Bears

variable {text : String} {seat : Seat} {t : Tree} {p : Seat × Tree} {parts parts' : Parts}

/-- A node bears the comments on it that its seat shows, and those that its parts bear. -/
theorem bears_iff : Bears text seat t ↔
    (∃ key ∈ seat.shownKeys (isBlockText text), HasComment text key t) ∨ PartBears text (seat.parts t) := by
  constructor
  · rintro ⟨n, key, hs | ⟨hp, hs⟩, hc⟩
    · exact .inl ⟨key, ‹_›, hc⟩
    · exact .inr ⟨_, hp, n, key, hs, hc⟩
  · rintro (⟨key, hk, hc⟩ | ⟨p, hp, n, key, hs, hc⟩)
    · exact ⟨t, key, .here hk, hc⟩
    · exact ⟨n, key, .part hp hs, hc⟩

/-- What is printed with a node in a seat that shows both kinds of comments. -/
theorem bears_iff_both (h : seat.shownKeys (isBlockText text) = ["leadingComments", "trailingComments"]) : Bears text seat t ↔
    HasComment text "leadingComments" t ∨ HasComment text "trailingComments" t ∨
      PartBears text (seat.parts t) := by
  rw [bears_iff, h]
  simp [or_assoc]

/-- What is printed with a node in a seat that shows the comments in front only. -/
theorem bears_iff_leading (h : seat.shownKeys (isBlockText text) = ["leadingComments"]) : Bears text seat t ↔
    HasComment text "leadingComments" t ∨ PartBears text (seat.parts t) := by
  rw [bears_iff, h]
  simp

@[simp, grind =] theorem partBears_nil : PartBears text [] ↔ False := by simp [PartBears]

@[simp, grind =] theorem partBears_cons :
    PartBears text (p :: parts) ↔ Bears text p.1 p.2 ∨ PartBears text parts := by
  simp [PartBears]

@[simp, grind =] theorem partBears_append :
    PartBears text (parts ++ parts') ↔ PartBears text parts ∨ PartBears text parts' := by
  simp [PartBears, or_and_right, exists_or]

/-- Further parts bear no less. -/
theorem PartBears.mono (h : PartBears text parts) (hs : parts ⊆ parts') : PartBears text parts' := by
  obtain ⟨p, hp, hb⟩ := h
  exact ⟨p, hs hp, hb⟩

@[simp, grind =] theorem partBears_seated_nil : PartBears text (seated seat []) ↔ False := partBears_nil

@[simp, grind =] theorem partBears_seated_cons {items : List Tree} :
    PartBears text (seated seat (t :: items)) ↔ Bears text seat t ∨ PartBears text (seated seat items) :=
  partBears_cons

@[simp, grind .] theorem not_hasComment_null {key : String} : ¬HasComment text key .null := by
  rintro ⟨c, hc, -⟩
  cases hc

theorem not_bears_null (h : PartBears text (seat.parts .null) → False) : ¬Bears text seat .null := by
  rw [bears_iff]
  rintro (⟨key, -, hc⟩ | hp)
  · exact not_hasComment_null hc
  · exact h hp

@[simp, grind .] theorem not_bears_statement_null : ¬Bears text .statement .null :=
  not_bears_null partBears_nil.mp

@[simp, grind .] theorem not_bears_expression_null : ¬Bears text .expression .null :=
  not_bears_null partBears_nil.mp

@[simp, grind .] theorem not_bears_pattern_null : ¬Bears text .pattern .null := by
  refine not_bears_null ?_
  show PartBears text [(.expression, .null)] → False
  simp

end Bears

/-! ### A comment itself -/

theorem isLineComment_yields (c : Tree) : Yields (isLineComment c) fun isLine =>
    isLine = (c.kind == "Line") :=
  kindOf_spec.bind fun _ h => yields_pure (h ▸ rfl)

/-- Comments that are printed one by one, each with its delimiters and whatever stands around it. -/
theorem comments_yields {t : Tree} {key : String} (around : Bool → String → String)
    (h : ∀ isLine value, Shows (around isLine value)
      (if isLine then "//" ++ value else "/*" ++ value ++ "*/")) :
    Yields ((commentsOf t key).mapM fun c => do
        let isLine ← isLineComment c
        let value ← c.textField "value"
        return around isLine value) fun texts =>
      ∀ text, HasComment text key t → ShowsAny texts text := by
  have one (c : Tree) : Yields (do
        let isLine ← isLineComment c
        let value ← c.textField "value"
        return around isLine value) fun s => Shows s (commentText c) :=
    (isLineComment_yields c).bind fun isLine hl => textField_spec.bind fun value hv => by
      refine yields_pure ?_
      rw [commentText, hv, ← hl]
      exact h isLine value
  refine (Yields.mapM fun c _ => one c).mono fun texts ht => ?_
  rintro text ⟨c, hc, rfl⟩
  exact ht c hc

/-- The comments in front of a node are all printed. -/
@[spec] theorem leadingComments_yields {t : Tree} {statement : Bool} :
    Yields (leadingComments t statement) fun s =>
      ∀ text, HasComment text "leadingComments" t → Shows s text := by
  refine pad_spec.bind fun indent _ => (comments_yields (fun isLine value =>
    if isLine then "//" ++ value ++ "\n" ++ indent
    else if statement then "/*" ++ value ++ "*/\n" ++ indent else "/*" ++ value ++ "*/ ") ?_).bind
      fun _ ht => yields_pure fun text hc => (ht text hc).join
  intro isLine value
  cases isLine with
  | true => exact ⟨[], '\n' :: indent.toList, by simp⟩
  | false =>
    cases statement with
    | true => exact ⟨[], '\n' :: indent.toList, by simp⟩
    | false => exact ⟨[], [' '], by simp⟩

/-- The comments behind a node are all printed. -/
@[spec] theorem trailingComments_yields {t : Tree} {statement : Bool} :
    Yields (trailingComments t statement) fun s =>
      ∀ text, HasComment text "trailingComments" t → Shows s text := by
  refine pad_spec.bind fun indent _ => (comments_yields (fun isLine value =>
    if isLine then " //" ++ value ++ (if statement then "" else "\n" ++ indent)
    else " /*" ++ value ++ "*/") ?_).bind fun _ ht => yields_pure fun text hc => (ht text hc).join
  intro isLine value
  cases isLine with
  | true => exact ⟨[' '], (if statement then "" else "\n" ++ indent).toList, by simp⟩
  | false => exact ⟨[' '], [], by simp⟩

/-! ### What the printers have in common -/

/-- Printers of the roles that print what they show: a comment that is printed with a node in a seat is in
the text of the node there. -/
structure Faithful (go : Roles) (text : String) : Prop where
  statement : ∀ t, Yields (go .statement t) fun s => Bears text .statement t → Shows s text
  expression : ∀ least t, Yields (go (.expression least) t) fun s =>
      Bears text .expression t → Shows s text
  pattern : ∀ t, Yields (go .pattern t) fun s => Bears text .pattern t → Shows s text

@[spec] theorem blankBetween_spec {t u : Tree} : Yields (blankBetween t u) fun _ => True := yields_any _

@[spec] theorem literal_spec {t : Tree} : Yields (literal t) fun _ => True := yields_any _

@[spec] theorem operatorLevel_spec {t : Tree} : Yields t.operatorLevel fun _ => True := yields_any _

@[spec] theorem isNamed_spec {t : Tree} {name : String} : Yields (t.isNamed name) fun b =>
    b = (t.isIdentifier && (t.get "name").str? == some name) := by
  mvcgen [Tree.isNamed]
  all_goals grind [Tree.str?]

@[spec] theorem braced_spec {lines : List String} :
    Yields (braced lines) fun s => ∀ text, ShowsAny lines text → Shows s text := by
  mvcgen [braced]
  grind

/-- Where no part is printed there is nothing to show. -/
theorem nothing_yields {text : String} (act : Printing String) :
    Yields act fun s => PartBears text [] → Shows s text :=
  (yields_any act).mono fun _ _ hb => (partBears_nil.mp hb).elim

/-- The items of a list, each with parts of its own, printed one by one. -/
theorem flatMap_yields {text : String} {parts : Tree → Parts} {print : Tree → Printing String}
    {items : List Tree} (hp : ∀ t ∈ items, Yields (print t) fun s =>
        PartBears text (parts t) → Shows s text) :
    Yields (items.mapM print) fun texts =>
        PartBears text (items.flatMap parts) → ShowsAny texts text := by
  refine (Yields.mapM hp).mono fun texts ht hb => ?_
  obtain ⟨p, hm, hb⟩ := hb
  obtain ⟨t, hi, hm⟩ := List.mem_flatMap.mp hm
  obtain ⟨s, hs, hst⟩ := ht t hi
  exact ⟨s, hs, hst ⟨p, hm, hb⟩⟩

/-- The parts of a list, printed one by one. -/
theorem seated_yields (text : String) (seat : Seat) {print : Tree → Printing String} {items : List Tree}
    (hp : ∀ t ∈ items, Yields (print t) fun s => Bears text seat t → Shows s text) :
    Yields (items.mapM print) fun texts =>
        PartBears text (seated seat items) → ShowsAny texts text := by
  rw [seated, List.map_eq_flatMap]
  refine flatMap_yields fun t ht => (hp t ht).mono fun s hs hb => hs ?_
  simpa using hb

/-- Items are printed with what they bear, holes bear nothing. -/
theorem arrayItems_yields {text : String} {seat : Seat} {print : Tree → Printing String}
    (hnull : ¬Bears text seat .null) (hp : ∀ t, Yields (print t) fun s => Bears text seat t → Shows s text) (items : List Tree) :
    Yields (arrayItems print items) fun s => PartBears text (seated seat items) → Shows s text := by
  refine (seated_yields text seat fun t _ => ?_).bind fun texts ht => yields_pure ?_
  · split
    · rename_i ht
      rw [eq_null_of_isNull ht]
      exact yields_pure fun hb => (hnull hb).elim
    · exact hp t
  · grind

namespace Faithful

variable {go : Roles} {text : String} (h : Faithful go text)
include h

theorem statementLines (previous : Option Tree) (body : List Tree) :
    Yields (statementLines go previous body) fun lines =>
      PartBears text (seated .statement body) → ShowsAny lines text := by
  induction body generalizing previous with
  | nil => exact (yields_any _).mono fun _ _ hb => (partBears_seated_nil.mp hb).elim
  | cons t rest ih =>
    have ht := h.statement t
    mvcgen [Printer.statementLines, ht, ih]
    all_goals grind

/-- Statements show what they bear. -/
theorem statements (body : List Tree) : Yields (statements go body) fun s =>
    PartBears text (seated .statement body) → Shows s text :=
  (h.statementLines none body).bind fun _ hl => yields_pure fun hb => (hl hb).intercalate

/-- A block shows what its statements bear. -/
theorem block (t : Tree) : Yields (block go t) fun s =>
    PartBears text (blockParts t) → Shows s text := by
  have hs (body : List Tree) := (h.statements body).deeper
  mvcgen [Printer.block, hs]
  all_goals grind -ring -linarith [blockParts]

theorem patterns (items : List Tree) : Yields (items.mapM (go .pattern)) fun texts =>
    PartBears text (seated .pattern items) → ShowsAny texts text :=
  seated_yields text .pattern fun t _ => h.pattern t

theorem expressions (least : Nat) (items : List Tree) :
    Yields (items.mapM (go (.expression least))) fun texts =>
      PartBears text (seated .expression items) → ShowsAny texts text :=
  seated_yields text .expression fun t _ => h.expression least t

theorem params (items : List Tree) : Yields (params go items) fun s =>
    PartBears text (seated .pattern items) → Shows s text := by
  have hp := h.patterns
  mvcgen [Printer.params, hp]
  grind

/-- A function shows what its parameters and its body bear. -/
theorem function (t : Tree) : Yields (function go t) fun s =>
    PartBears text (functionParts t) → Shows s text := by
  have hp := h.params
  have hb := h.block
  mvcgen [Printer.function, hp, hb]
  all_goals grind [functionParts]

theorem propertyKey (t : Tree) : Yields (propertyKey go t) fun s =>
    PartBears text (keyParts t) → Shows s text := by
  have he := h.expression
  mvcgen [Printer.propertyKey, he]
  all_goals grind [keyParts]

theorem method (t : Tree) (kind : String) (isStatic : Bool) :
    Yields (method go t kind isStatic) fun s => PartBears text (methodParts t) → Shows s text := by
  have hk := h.propertyKey
  have hp := h.params
  have hb := h.block
  mvcgen [Printer.method, hk, hp, hb]
  all_goals grind [methodParts, functionParts]

/-! ### Properties and classes -/

/-- A property shows what its parts bear. -/
theorem objectMember (t : Tree) : Yields (objectMember go t) fun s =>
    PartBears text (propertyParts t) → Shows s text := by
  have he := h.expression
  have hk := h.propertyKey
  have hm := h.method
  mvcgen [Printer.objectMember, he, hk, hm]
  all_goals grind [propertyParts, repeatsKey, Tree.str?]

theorem patternProperty (t : Tree) : Yields (patternProperty go t) fun s =>
    PartBears text (patternPropertyParts t) → Shows s text := by
  have hp := h.pattern
  have hk := h.propertyKey
  mvcgen [Printer.patternProperty, hp, hk]
  all_goals grind [patternPropertyParts, repeatsKey, barePatternKey, Tree.str?]

theorem objectProperties (items : List Tree) (isPattern : Bool) :
    Yields (objectProperties go items isPattern) fun s =>
      PartBears text (seated (if isPattern then .patternProperty else .property) items) → Shows s text := by
  have hl (print : Tree → Printing String) {seat : Seat}
      (hs : seat.shownKeys (isBlockText text) = ["leadingComments", "trailingComments"])
      (hp : ∀ t, Yields (print t) fun s => PartBears text (seat.parts t) → Shows s text) (items : List Tree) :
      Yields (propertyLines print items) fun lines =>
        PartBears text (seated seat items) → ShowsAny lines text := by
    induction items with
    | nil => exact (yields_any _).mono fun _ _ hb => (partBears_seated_nil.mp hb).elim
    | cons t rest ih =>
      have ht := hp t
      mvcgen [propertyLines, ht, ih]
      all_goals grind [bears_iff_both hs]
  have hd : Yields (deeper (propertyLines (if isPattern then Printer.patternProperty go
      else Printer.objectMember go) items)) fun lines =>
      PartBears text (seated (if isPattern then .patternProperty else .property) items) →
        ShowsAny lines text := by
    cases isPattern with
    | true => exact (@hl (Printer.patternProperty go) .patternProperty rfl h.patternProperty items).deeper
    | false => exact (@hl (Printer.objectMember go) .property rfl h.objectMember items).deeper
  mvcgen [Printer.objectProperties, hd]
  all_goals grind -ring -linarith

theorem classMember (t : Tree) : Yields (classMember go t) fun s =>
    Bears text .member t → Shows s text := by
  have hm := h.method
  have hk := h.propertyKey
  have he := h.expression
  have hb := h.block
  have hseat : Bears text .member t ↔ HasComment text "leadingComments" t ∨ PartBears text (memberParts t) :=
    bears_iff_leading rfl
  mvcgen [Printer.classMember, hm, hk, he, hb]
  all_goals grind [memberParts]

/-- A class shows what its parts bear. -/
theorem class_ (t : Tree) : Yields (class_ go t) fun s =>
    PartBears text (classParts t) → Shows s text := by
  have he := h.expression
  have hm (items : List Tree) : Yields (deeper (items.mapM fun m => do
      let text ← Printer.classMember go m
      return (← pad) ++ text)) fun lines =>
          PartBears text (seated .member items) → ShowsAny lines text := by
    refine (seated_yields text .member fun t _ => ?_).deeper
    have hc := h.classMember t
    mvcgen [hc]
    grind
  mvcgen [Printer.class_, he, hm]
  all_goals grind -ring -linarith [classParts]

/-! ### Declarations and patterns -/

/-- A declaration shows what its declarators bear. -/
theorem declaration (t : Tree) : Yields (declaration go t) fun s =>
    PartBears text (declarationParts t) → Shows s text := by
  refine listField_spec.bind fun items hi =>
    (seated_yields text .declarator fun d _ => ?_).bind fun texts ht => ?_
  · have hp := h.pattern
    have he := h.expression
    have hseat : Bears text .declarator d ↔ HasComment text "leadingComments" d ∨
        PartBears text [(.pattern, d.get "id"), (.expression, d.get "init")] := bears_iff_leading rfl
    mvcgen [hp, he]
    all_goals grind
  · mvcgen
    grind [declarationParts]

/-- A pattern shows what its parts bear. -/
theorem patternText (t : Tree) : Yields (Printer.pattern go t) fun s =>
    PartBears text (patternParts t) → Shows s text := by
  have ho := h.objectProperties
  have hi := arrayItems_yields not_bears_pattern_null h.pattern
  have hp := h.pattern
  have he := h.expression
  have hd := h.declaration
  mvcgen [Printer.pattern, ho, hi, hp, he, hd]
  all_goals grind [patternParts]

/-! ### Elements -/

theorem tagAttribute (t : Tree) : Yields (tagAttribute go t) fun s =>
    PartBears text (attributeParts t) → Shows s text := by
  have he := h.expression
  have hn (t : Tree) : Yields (tagName t) fun _ => True := yields_any _
  mvcgen [Printer.tagAttribute, he, hn]
  all_goals grind [attributeParts]

theorem tagChildren (t : Tree) : Yields (tagChildren go (t.get "children").items) fun s =>
    PartBears text (childParts t) → Shows s text := by
  have hl (items : List Tree) : Yields (deeper (items.mapM fun c => do
      return (← pad) ++ (← go (.expression 0) c))) fun lines =>
        PartBears text (seated .expression items) → ShowsAny lines text := by
    have he := h.expression
    refine (seated_yields text .expression fun t _ => ?_).deeper
    mvcgen [he]
    grind
  have ha := h.expressions
  have hm : PartBears text (childParts t) → PartBears text (seated .expression (t.get "children").items) :=
    (·.mono (List.map_subset _ (List.filter_subset_self _)))
  mvcgen [Printer.tagChildren, hl, ha]
  all_goals grind [childParts]

/-- An element shows what its parts bear. -/
theorem element (t : Tree) : Yields (element go t) fun s =>
    PartBears text (elementParts t) → Shows s text := by
  have hn (t : Tree) : Yields (tagName t) fun _ => True := yields_any _
  have hc := h.tagChildren
  have ha (items : List Tree) : Yields (items.mapM fun a => do
      return " " ++ (← Printer.tagAttribute go a)) fun texts =>
      PartBears text (items.flatMap attributeParts) → ShowsAny texts text := by
    have ht := h.tagAttribute
    refine flatMap_yields fun t _ => ?_
    mvcgen [ht]
    grind
  mvcgen [Printer.element, hn, hc, ha]
  all_goals grind [elementParts]

/-- Where nothing is shown but a comment between slashes and stars, the last character stays. -/
theorem shows_stripEnd {s : String} (hb : Bears text .nothing t)
    (hs : HasComment text "leadingComments" t → Shows s text) : Shows (Text.stripEnd s) text := by
  have hparts : ¬PartBears text (Seat.nothing.parts t) := partBears_nil.mp
  obtain ⟨key, hk, hc⟩ := (bears_iff.mp hb).resolve_right hparts
  cases hblock : isBlockText text with
  | false =>
    rw [hblock] at hk
    cases hk
  | true =>
    rw [hblock] at hk
    obtain rfl := List.mem_singleton.mp hk
    have hshows := hs hc
    obtain ⟨c, -, rfl⟩ := hc
    rw [isBlockText_commentText, bne_iff_ne] at hblock
    have hend : (commentText c).toList = ("/*" ++ ((c.get "value").str?).getD "" ++ "*").toList ++ ['/'] := by
      simp [commentText, hblock]
    exact hshows.stripEnd hend (by decide)

theorem container (t : Tree) : Yields (container go t) fun s =>
    PartBears text [(if (t.get "expression").kind == "JSXEmptyExpression" then .nothing
      else .expression, t.get "expression")] → Shows s text := by
  have he := h.expression
  mvcgen [Printer.container, he]
  all_goals grind [shows_stripEnd]

/-! ### Operators, calls and templates -/

theorem unary (t : Tree) : Yields (unary go t) fun s =>
    Bears text .expression (t.get "argument") → Shows s text := by
  have he := h.expression
  mvcgen [Printer.unary, he]
  all_goals grind

theorem operand (operator : String) (t : Tree) (least : Nat) :
    Yields (operand go operator t least) fun s => Bears text .expression t → Shows s text := by
  have he := h.expression
  mvcgen [Printer.operand, he]
  all_goals grind

/-- Both operands show what they bear. -/
theorem binary (t : Tree) : Yields (binary go t) fun s =>
    PartBears text [(.expression, t.get "left"), (.expression, t.get "right")] → Shows s text := by
  have ho := h.operand
  mvcgen [Printer.binary, ho]
  all_goals grind

theorem arguments (items : List Tree) : Yields (arguments go items) fun s =>
    PartBears text (seated .expression items) → Shows s text := by
  have he := h.expressions
  mvcgen [Printer.arguments, he]
  grind

/-- A call shows what its callee and its arguments bear. -/
theorem call (t : Tree) : Yields (call go t) fun s =>
    PartBears text ((.expression, t.get "callee") :: seated .expression (t.get "arguments").items) →
      Shows s text := by
  have he := h.expression
  have ha := h.arguments
  mvcgen [Printer.call, he, ha]
  all_goals grind

theorem newCall (t : Tree) : Yields (newCall go t) fun s =>
    PartBears text ((.expression, t.get "callee") :: seated .expression (t.get "arguments").items) →
      Shows s text := by
  have he := h.expression
  have ha := h.arguments
  have hc (fuel : Nat) (t : Tree) : Yields (chainStart fuel t) fun _ => True := yields_any _
  mvcgen [Printer.newCall, he, ha, hc]
  all_goals grind

/-- An access shows what the object bears, and the property if it is computed. -/
theorem member (t : Tree) : Yields (member go t) fun s =>
    PartBears text ((.expression, t.get "object")
      :: if (t.get "computed").truthy then [(.expression, t.get "property")] else []) → Shows s text := by
  have he := h.expression
  mvcgen [Printer.member, he]
  all_goals grind

theorem templateParts (quasis holes : List Tree) : Yields (templateParts go quasis holes) fun texts =>
    PartBears text (seated .expression (holes.take quasis.length)) → ShowsAny texts text := by
  induction quasis generalizing holes with
  | nil => exact (yields_any _).mono fun _ _ hb => (partBears_seated_nil.mp hb).elim
  | cons quasi quasis ih =>
    have he := h.expression
    mvcgen [Printer.templateParts, he, ih]
    all_goals grind

/-- A template shows what stands in its holes. -/
theorem template (t : Tree) : Yields (template go t) fun s =>
    PartBears text (holeParts t) → Shows s text := by
  have ht := h.templateParts
  mvcgen [Printer.template, ht]
  grind [holeParts]

/-- An arrow function shows what its parameters and its body bear. -/
theorem arrow (t : Tree) : Yields (arrow go t) fun s =>
    PartBears text (seated .pattern (t.get "params").items
      ++ if (t.get "body").kind == "BlockStatement" then blockParts (t.get "body")
        else [(.expression, t.get "body")]) → Shows s text := by
  have hp := h.params
  have hb := h.block
  have he := h.expression
  have hl (t : Tree) : Yields t.leftmost fun _ => True := yields_any _
  mvcgen [Printer.arrow, hp, hb, he, hl]
  all_goals grind

end Faithful

end Deminify.Printer
