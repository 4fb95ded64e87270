import Deminify.Text.Word
import Deminify.Tree.Basic

/-!
# Kinds of nodes

The questions that the rules ask about a node: whether it is a name, a literal of some sort, a
member access by a fixed name, and what fixed name a key or an access has. A question about a field
that the node lacks fails.

* `Deminify.Tree.isIdentifier`, `Deminify.Tree.isLiteral` and the literals by value;
* `Deminify.Tree.isUndefined` – `undefined` or `void` of a number;
* `Deminify.Tree.isMemberOf`, `Deminify.Tree.staticName`, `Deminify.Tree.keyName`;
* `Deminify.isIdentifierName` – whether a text may stand as a bare key.
-/

namespace Deminify

/-- Words that no new name may be. -/
def reservedWords : List String := [
  "break", "case", "catch", "class", "const", "continue", "debugger", "default",
  "delete", "do", "else", "enum", "export", "extends", "false", "finally", "for",
  "function", "if", "import", "in", "instanceof", "new", "null", "return", "super",
  "switch", "this", "throw", "true", "try", "typeof", "var", "void", "while", "with",
  "yield", "let", "static", "implements", "interface", "package", "private",
  "protected", "public", "await", "arguments", "eval", "undefined", "NaN", "Infinity"]

/-- The characters before a final line break. -/
def beforeLastBreak (cs : List Char) : List Char :=
  if cs.getLast? == some '\n' then cs.dropLast else cs

/-- Whether a character may start a bare key. -/
def isKeyStart (c : Char) : Bool := c.isAlpha || c == '_' || c == '$'

/-- Whether a text may stand as a bare key, reserved words included. A final line break is
overlooked. -/
def isIdentifierName (s : String) : Bool :=
  match beforeLastBreak s.toList with
  | [] => false
  | c :: rest => isKeyStart c && rest.all fun c => Text.isWord c || c == '$'

namespace Tree

/-- The kinds whose nodes hold a list of statements. -/
def isStatementListParent (kind : String) : Bool :=
  ["Program", "BlockStatement", "SwitchCase", "StaticBlock"].contains kind

/-- The kinds of functions. -/
def isFunctionKind (kind : String) : Bool :=
  ["FunctionDeclaration", "FunctionExpression", "ArrowFunctionExpression"].contains kind

/-- The kinds of patterns. -/
def isPatternKind (kind : String) : Bool :=
  ["ObjectPattern", "ArrayPattern", "AssignmentPattern", "RestElement"].contains kind

/-- The kinds that may stand as a child of an element. -/
def isElementChildKind (kind : String) : Bool :=
  ["JSXElement", "JSXFragment", "JSXText", "JSXExpressionContainer", "JSXSpreadChild"].contains kind

/-- The kinds of loops. -/
def isLoopKind (kind : String) : Bool :=
  ["ForStatement", "ForInStatement", "ForOfStatement", "WhileStatement",
    "DoWhileStatement"].contains kind

/-! ### Literals -/

/-- A name. -/
def isIdentifier (t : Tree) : Bool := t.isKind "Identifier"

/-- A literal. -/
def isLiteral (t : Tree) : Bool := t.isKind "Literal"

/-- A literal with a text. -/
def isStringLiteral (t : Tree) : Bool :=
  t.isLiteral && match t.get "value" with
    | .str _ => true
    | _ => false

/-- A literal with a number; a truth value is none. -/
def isNumericLiteral (t : Tree) : Bool :=
  t.isLiteral && match t.get "value" with
    | .int _ => true
    | .real _ => true
    | _ => false

/-- A literal with a truth value. -/
def isBooleanLiteral (t : Tree) : Bool :=
  t.isLiteral && match t.get "value" with
    | .bool _ => true
    | _ => false

/-- The literal `null`; a regular expression has no value either. -/
def isNullLiteral (t : Tree) : Bool :=
  t.isLiteral && (t.get "value").isNull && (t.get? "regex").isNone
    && match t.get? "raw" with
      | none => true
      | some (.str s) => s == "null"
      | some _ => false

/-- The literal `true`. -/
def isTrueLiteral (t : Tree) : Bool :=
  t.isLiteral && match t.get "value" with
    | .bool b => b
    | _ => false

/-- A literal that is no regular expression. -/
def isPrimitiveLiteral (t : Tree) : Bool := t.isLiteral && (t.get? "regex").isNone

section Failing

variable {m : Type → Type} [Monad m] [MonadExceptOf Failure m]

/-! ### Names -/

/-- The given name. -/
def isNamed (t : Tree) (name : String) : m Bool := do
  if t.isIdentifier then
    match ← t.field "name" with
    | .str s => pure (s == name)
    | _ => pure false
  else pure false

/-- The given name, or any name when none is given. -/
def isNamed? (t : Tree) (name : Option String) : m Bool :=
  match name with
  | none => pure t.isIdentifier
  | some name => t.isNamed name

/-- `undefined`, or `void` of a number. -/
def isUndefined (t : Tree) : m Bool := do
  if ← t.isNamed "undefined" then pure true
  else if t.isKind "UnaryExpression" then
    match ← t.field "operator" with
    | .str "void" => pure (← t.field "argument").isNumericLiteral
    | _ => pure false
  else pure false

/-- An access `object.property` by names, each the given one if one is given. -/
def isMemberOf (t : Tree) (object property : Option String) : m Bool := do
  if !t.isKind "MemberExpression" || (t.get "computed").truthy then pure false
  else if !(← (← t.field "object").isNamed? object) then pure false
  else (← t.field "property").isNamed? property

/-- The name read by `object.name` or `object["name"]`. -/
def staticName (t : Tree) : m (Option String) := do
  let property ← t.field "property"
  let computed := (t.get "computed").truthy
  if !computed && property.isIdentifier then pure (some (← property.textField "name"))
  else if computed && property.isStringLiteral then pure ((property.get "value").str?)
  else pure none

/-- The fixed key of a property of an object or a pattern. -/
def keyName (t : Tree) : m (Option String) := do
  let key := t.get "key"
  if (t.get "computed").truthy then
    pure (if key.isStringLiteral then (key.get "value").str? else none)
  else if key.isIdentifier then pure (some (← key.textField "name"))
  else if key.isLiteral && !(key.get "value").isNull then pure (some (key.get "value").display)
  else pure none

end Failing

end Tree

end Deminify
