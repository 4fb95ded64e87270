import Deminify.Proofs.Element.Text
import Deminify.Proofs.Printer.Yield
import Deminify.Proofs.Rule.Ending
import Deminify.Proofs.Tree.Shape
import Deminify.Rules.Element.Restore

/-!
# The children of an element

A call of a factory is given children as arguments. Those that show something (`Deminify.Rules.Element.offered`) become
texts, braces and elements (`Deminify.Rules.Element.written`), each on a line of its own unless there is only a text, and
are printed so (`Deminify.Rules.Element.pieces`, `Deminify.Rules.Element.tagChildren_eq`).

**What is printed gives the children that were given, exactly if no two texts come together**
(`Deminify.Rules.Element.children_kept`): texts on two lines are one text. An element that brings a comment is left
aside, since a comment between tags is text as well.
-/

namespace Deminify

open Printer

namespace Rules.Element

/-! ### What is printed -/

/-- What a child is printed as. -/
def pieceOf (t : Tree) : Piece :=
  if t.isKind "JSXText" then .text (((t.get "raw").str?).getD "")
  else if t.isKind "JSXExpressionContainer" then .braces (t.get "expression")
  else if t.isKind "JSXSpreadChild" then .spread (t.get "expression")
  else .element t

/-- Whether a child stands for a line break. -/
def isBreak (t : Tree) : Bool := (t.get "synthetic").truthy

/-- A new line that is so many levels further in. -/
def newLine (levels : Nat) : String := "\n" ++ String.ofList (List.replicate (2 * levels) ' ')

/-- **What children are printed as** at an indentation: line by line, if one of them asks for it. -/
def pieces (indent : Nat) (children : List Tree) : List Piece :=
  if children.any isBreak then
    ((children.filter (!isBreak ·)).flatMap fun c => [.text (newLine (indent + 1)), pieceOf c]) ++
      [Piece.text (newLine indent)]
  else children.map pieceOf

/-- The layout in which children are printed. -/
def inside (layout : Layout) (children : List Tree) : Layout :=
  if children.any isBreak then { layout with indent := layout.indent + 1 } else layout

/-- Prints a piece. An element is printed without comments. -/
def Piece.print (go : Roles) : Piece → Printing String
  | .text s => return s
  | .braces t => return "\x7b" ++ (← go (.expression 0) t) ++ "\x7d"
  | .spread t => return "\x7b..." ++ (← go (.expression 0) t) ++ "\x7d"
  | .element t => expressionText go t

/-- Prints pieces. -/
def printPieces (go : Roles) (pieces : List Piece) : Printing String := String.join <$> pieces.mapM (Piece.print go)

/-- Whether a text puts another between tags. A tag that closes itself has nothing between. -/
inductive Encloses (inner : String) : String → Prop
  | tags (opening closing : String) : Encloses inner ("<" ++ opening ++ ">" ++ inner ++ "</" ++ closing ++ ">")
  | closed (opening : String) (h : inner = "") : Encloses inner ("<" ++ opening ++ " />")

/-- An element or a fragment. -/
def isElement (t : Tree) : Bool := t.isKind "JSXElement" || t.isKind "JSXFragment"

/-- What is made of an argument: a text, braces, a spread, or an element without comments. -/
inductive IsChild : Tree → Prop
  | text (s : String) : IsChild (.tagText s)
  | braces {t : Tree} {kind : String} (hk : t.get? "type" = some (.str kind)) (he : kind ≠ "JSXEmptyExpression") :
    IsChild (.tagContainer t)
  | spread (t : Tree) : IsChild (.tagSpreadChild t)
  | element {t : Tree} (he : isElement t = true) (hb : IsBare t) (hbreak : isBreak t = false) : IsChild t

section Printed

variable {go : Roles} {t : Tree} {cs children : List Tree}

theorem IsChild.isBreak (h : IsChild t) : isBreak t = false := by
  cases h with
  | element _ _ h => exact h
  | _ => rfl

theorem get?_of_isElement (h : isElement t = true) :
    ∃ kind, t.get? "type" = some (.str kind) ∧ (kind = "JSXElement" ∨ kind = "JSXFragment") := by
  rcases Bool.or_eq_true_iff.mp h with h | h
  · exact ⟨_, Tree.get?_of_isKind h, .inl rfl⟩
  · exact ⟨_, Tree.get?_of_isKind h, .inr rfl⟩

@[simp] theorem pieceOf_text (s : String) : pieceOf (.tagText s) = .text s := rfl

@[simp] theorem pieceOf_container (t : Tree) : pieceOf (.tagContainer t) = .braces t := rfl

@[simp] theorem pieceOf_spreadChild (t : Tree) : pieceOf (.tagSpreadChild t) = .spread t := rfl

theorem pieceOf_element (h : isElement t = true) : pieceOf t = .element t := by
  obtain ⟨kind, hk, rfl | rfl⟩ := get?_of_isElement h <;> simp [pieceOf, Tree.isKind_eq hk]

/-- **A child is printed as its piece.** -/
theorem IsChild.print (h : IsChild t) : expression go 0 t = (pieceOf t).print go := by
  cases h with
  | text s =>
    have hk : (Tree.tagText s).get? "type" = some (.str "JSXText") := rfl
    rw [expression_of_bare ⟨rfl, rfl⟩ hk (by decide) (by decide), expressionText, Tree.kindOf,
      Tree.textField_of_get? hk, pure_bind]
    exact Tree.textField_of_get? rfl
  | @braces t kind hkind hempty =>
    have hk : (Tree.tagContainer t).get? "type" = some (.str "JSXExpressionContainer") := rfl
    have hinner : (Tree.tagContainer t).get? "expression" = some t := rfl
    rw [expression_of_bare ⟨rfl, rfl⟩ hk (by decide) (by decide), expressionText, Tree.kindOf,
      Tree.textField_of_get? hk, pure_bind]
    show container go (Tree.tagContainer t) = _
    rw [container, Tree.field_of_get? hinner, pure_bind, Tree.kindOf, Tree.textField_of_get? hkind, pure_bind,
      if_neg (by simpa using hempty)]
    rfl
  | spread t =>
    have hk : (Tree.tagSpreadChild t).get? "type" = some (.str "JSXSpreadChild") := rfl
    have hinner : (Tree.tagSpreadChild t).get? "expression" = some t := rfl
    rw [expression_of_bare ⟨rfl, rfl⟩ hk (by decide) (by decide), expressionText, Tree.kindOf,
      Tree.textField_of_get? hk, pure_bind]
    show (do return "\x7b..." ++ (← go (.expression 0) (← (Tree.tagSpreadChild t).field "expression")) ++ "\x7d") = _
    rw [Tree.field_of_get? hinner, pure_bind]
    rfl
  | element he hb hbreak =>
    rw [pieceOf_element he]
    obtain ⟨kind, hk, rfl | rfl⟩ := get?_of_isElement he
    · exact expression_of_bare hb hk (by decide) (by decide)
    · exact expression_of_bare hb hk (by decide) (by decide)

/-! Printing goes on in one layout, so that it is enough to compare what is printed in it. -/

theorem mapM_at {α β : Type} (f : α → Printing β) (xs : List α) (layout : Layout) :
    xs.mapM f layout = xs.mapM fun x => f x layout := by
  induction xs with
  | nil => rfl
  | cons x rest ih =>
    rw [List.mapM_cons, List.mapM_cons, ← ih]
    rfl

theorem mapM_lines {α : Type} (f : α → Except Failure String) (indent : String) (xs : List α) :
    (xs.mapM fun x => (indent ++ ·) <$> f x) = List.map (indent ++ ·) <$> xs.mapM f := by
  induction xs with
  | nil => rfl
  | cons x rest ih => simp [List.mapM_cons, ih]

theorem mapM_spaced {α : Type} (f : Piece → Except Failure String) (hf : ∀ s, f (.text s) = pure s) (g : α → Piece)
    (between behind : String) (xs : List α) :
    (xs.flatMap (fun x => [Piece.text between, g x]) ++ [Piece.text behind]).mapM f =
      (fun texts => texts.flatMap (fun x => [between, x]) ++ [behind]) <$> xs.mapM fun x => f (g x) := by
  induction xs with
  | nil => simp [hf]
  | cons x rest ih =>
    rw [List.flatMap_cons, List.append_assoc, List.cons_append, List.cons_append, List.nil_append, List.mapM_cons,
      List.mapM_cons, ih, hf, List.mapM_cons]
    simp

theorem join_lines (indent behind text : String) (texts : List String) :
    "\n" ++ String.intercalate "\n" ((text :: texts).map (indent ++ ·)) ++ behind =
      String.join ((text :: texts).flatMap (fun x => ["\n" ++ indent, x]) ++ [behind]) := by
  induction texts generalizing text with
  | nil => simp [String.append_assoc]
  | cons next rest ih =>
    have h := ih next
    simp only [List.map_cons, List.flatMap_cons, List.cons_append, List.nil_append, String.join_cons,
      String.intercalate_cons_cons, String.append_assoc] at h ⊢
    rw [h]

theorem mapM_congr {α β : Type} {f g : α → Printing β} {xs : List α} (h : ∀ x ∈ xs, f x = g x) :
    xs.mapM f = xs.mapM g := by
  induction xs with
  | nil => rfl
  | cons x rest ih =>
    obtain ⟨hx, hrest⟩ := List.forall_mem_cons.mp h
    rw [List.mapM_cons, List.mapM_cons, hx, ih hrest]

/-- **Children are printed as their pieces.** -/
theorem tagChildren_eq {outer : Roles}
    (hc : ∀ c ∈ children, isBreak c = false → outer (.expression 0) c = (pieceOf c).print go)
    (hsome : children.any isBreak = true → ∃ c ∈ children, isBreak c = false) (layout : Layout) :
    tagChildren outer children layout = printPieces go (pieces layout.indent children) (inside layout children) := by
  have hbreak : (children.any fun t => (t.get "synthetic").truthy) = children.any isBreak := rfl
  rw [tagChildren]
  dsimp only
  rw [hbreak, pieces, inside]
  -- with a break among them the children are put on lines of their own, and these are the pieces joined
  split
  · rename_i hany
    obtain ⟨c, hm, hnot⟩ := hsome hany
    obtain ⟨first, rest, hshown⟩ := List.exists_cons_of_ne_nil
      (List.ne_nil_of_mem (List.mem_filter.mpr ⟨hm, by rw [hnot]; rfl⟩ : c ∈ children.filter (!isBreak ·)))
    have hprint (c : Tree) (hm : c ∈ first :: rest) : outer (.expression 0) c = (pieceOf c).print go := by
      rw [← hshown, List.mem_filter] at hm
      exact hc c hm.1 (by simpa using hm.2)
    have hfilter : children.filter (fun t => !(t.get "synthetic").truthy) = first :: rest := hshown
    rw [hfilter, hshown]
    let deep : Layout := { layout with indent := layout.indent + 1 }
    let indent : String := String.ofList (List.replicate (2 * (layout.indent + 1)) ' ')
    have hline (c : Tree) : (do return (← pad) ++ (← (pieceOf c).print go) : Printing String) deep =
        (indent ++ ·) <$> (pieceOf c).print go deep := by
      show ((pieceOf c).print go >>= fun text => pure (indent ++ text) : Printing String) deep = _
      rw [bind_pure_comp]
      rfl
    have hlines : deeper ((first :: rest).mapM fun c => do return (← pad) ++ (← outer (.expression 0) c)) layout =
        List.map (indent ++ ·) <$> (first :: rest).mapM fun c => (pieceOf c).print go deep := by
      rw [mapM_congr (g := fun c => do return (← pad) ++ (← (pieceOf c).print go)) fun c hm => by rw [hprint c hm],
        ← mapM_lines]
      exact (mapM_at _ _ deep).trans (congrArg (fun f => List.mapM f _) (funext hline))
    have hpieces := (mapM_at (Piece.print go) _ deep).trans
      (mapM_spaced (fun p => p.print go deep) (fun _ => rfl) pieceOf (newLine (layout.indent + 1)) (newLine layout.indent)
        (first :: rest))
    show (deeper _ layout >>= fun lines => pure ("\n" ++ "\n".intercalate lines ++ "\n" ++
      String.ofList (List.replicate (2 * layout.indent) ' ')) : Except Failure String) =
        String.join <$> (List.mapM (Piece.print go) _ deep)
    rw [hlines, hpieces, List.mapM_cons]
    simp only [map_eq_pure_bind, bind_assoc, pure_bind]
    refine bind_congr fun text => bind_congr fun texts => congrArg pure ?_
    rw [String.append_assoc]
    exact join_lines indent (newLine layout.indent) text texts
  · rename_i hany
    have hprint (c : Tree) (hm : c ∈ children) : outer (.expression 0) c = (pieceOf c).print go :=
      hc c hm (by simpa using fun h => hany (List.any_eq_true.mpr ⟨c, hm, h⟩))
    rw [mapM_congr hprint, printPieces, List.mapM_map, bind_pure_comp]
    rfl

end Printed

/-! ### What is offered -/

/-- Whether an argument shows nothing as a child. -/
def showsNothing (t : Tree) : Bool :=
  (t.isIdentifier && (t.get "name").str? == some "undefined")
    || (t.isKind "UnaryExpression" && (t.get "operator").str? == some "void" && (t.get "argument").isNumericLiteral)
    || t.isBooleanLiteral || t.isNullLiteral

/-- **The children that arguments give.** -/
def offered (args : List Tree) : List Child := (args.filter (!showsNothing ·)).map .of

/-- Whether an argument is written as a text between tags. -/
def isText (t : Tree) : Bool := t.isStringLiteral && isChildText (((t.get "value").str?).getD "")

/-- Whether no two of the arguments that show something come together as texts. -/
def TextsApart (args : List Tree) : Prop :=
  (args.filter (!showsNothing ·)).IsChain fun a b => ¬(isText a = true ∧ isText b = true)

/-- The kinds of arguments that are neither items nor elements. -/
def isValueKind (kind : String) : Bool :=
  !Tree.isElementChildKind kind && kind != "SpreadElement" && kind != "RestElement" && kind != "JSXEmptyExpression"

/-- What a call can be given as a child: the items of a value, an element without comments, or any other expression, of
which can be asked whether it shows nothing. -/
inductive IsArgument : Tree → Prop
  | spread {t a : Tree} (hk : t.get? "type" = some (.str "SpreadElement")) (ha : t.get? "argument" = some a) :
    IsArgument t
  | element {t : Tree} (he : isElement t = true) (hb : IsBare t) (hbreak : isBreak t = false) : IsArgument t
  | value {t : Tree} {kind : String} (hk : t.get? "type" = some (.str kind)) (hv : isValueKind kind = true)
    (hname : kind = "Identifier" → ∃ s, t.get? "name" = some (.str s))
    (hunary : kind = "UnaryExpression" →
      ∃ op a, t.get? "operator" = some (.str op) ∧ t.get? "argument" = some a) : IsArgument t

/-- What an argument that shows something is written as. -/
def written (t : Tree) : Tree :=
  if isElement t then t
  else if t.isKind "SpreadElement" then .tagSpreadChild (t.get "argument")
  else if isText t then .tagText (((t.get "value").str?).getD "")
  else .tagContainer t

section Offered

variable {t : Tree} {kind : String} {shown args : List Tree}

/-- A value is asked whether it is undefined. -/
theorem isUndefined_eq (hk : t.get? "type" = some (.str kind))
    (hname : kind = "Identifier" → ∃ s, t.get? "name" = some (.str s))
    (hunary : kind = "UnaryExpression" →
      ∃ op a, t.get? "operator" = some (.str op) ∧ t.get? "argument" = some a) :
    (t.isUndefined : Editing Bool) = pure ((t.isIdentifier && (t.get "name").str? == some "undefined") ||
      (t.isKind "UnaryExpression" && (t.get "operator").str? == some "void" && (t.get "argument").isNumericLiteral)) := by
  have hid : t.isIdentifier = (kind == "Identifier") := Tree.isKind_eq hk _
  unfold Tree.isUndefined Tree.isNamed
  rw [hid, Tree.isKind_eq hk]
  by_cases hi : kind = "Identifier"
  · obtain ⟨s, hs⟩ := hname hi
    subst hi
    rw [Tree.field_of_get? hs, Tree.get_of_get? hs]
    by_cases h : s = "undefined"
    · subst h
      rfl
    · have hne : (s == "undefined") = false := beq_eq_false_iff_ne.mpr h
      simp [Tree.str?, hne]
  · have hne : (kind == "Identifier") = false := beq_eq_false_iff_ne.mpr hi
    rw [hne]
    by_cases hu : kind = "UnaryExpression"
    · obtain ⟨op, a, hop, ha⟩ := hunary hu
      subst hu
      rw [Tree.field_of_get? hop, Tree.field_of_get? ha, Tree.get_of_get? hop, Tree.get_of_get? ha]
      by_cases h : op = "void"
      · subst h
        simp [Tree.str?]
      · have hne : (op == "void") = false := beq_eq_false_iff_ne.mpr h
        simp [Tree.str?, h]
        rw [hne, Bool.false_and]
    · have hne : (kind == "UnaryExpression") = false := beq_eq_false_iff_ne.mpr hu
      rw [hne]
      rfl

theorem isBlankChild_eq (hk : t.get? "type" = some (.str kind)) (hrest : kind ≠ "RestElement")
    (hname : kind = "Identifier" → ∃ s, t.get? "name" = some (.str s))
    (hunary : kind = "UnaryExpression" →
      ∃ op a, t.get? "operator" = some (.str op) ∧ t.get? "argument" = some a) :
    isBlankChild t = pure (showsNothing t) := by
  have hne : (kind == "RestElement") = false := beq_eq_false_iff_ne.mpr hrest
  unfold isBlankChild
  rw [isUndefined_eq hk hname hunary, pure_bind, Tree.isKind_eq hk "RestElement", hne, Bool.or_false, showsNothing,
    Bool.or_assoc]
  split
  · rename_i h
    rw [h, Bool.true_or]
  · rename_i h
    rw [Bool.eq_false_iff.mpr h, Bool.false_or]

theorem showsNothing_of_isKind {kind : String} (hk : t.get? "type" = some (.str kind)) (hi : kind ≠ "Identifier")
    (hu : kind ≠ "UnaryExpression") (hl : kind ≠ "Literal") : showsNothing t = false := by
  have hid : t.isIdentifier = false := (Tree.isKind_eq hk _).trans (beq_eq_false_iff_ne.mpr hi)
  have hlit : t.isLiteral = false := (Tree.isKind_eq hk _).trans (beq_eq_false_iff_ne.mpr hl)
  have hun : t.isKind "UnaryExpression" = false := (Tree.isKind_eq hk _).trans (beq_eq_false_iff_ne.mpr hu)
  simp [showsNothing, Tree.isBooleanLiteral, Tree.isNullLiteral, hid, hlit, hun]

theorem isStringLiteral_of_isKind {kind : String} (hk : t.get? "type" = some (.str kind)) (hl : kind ≠ "Literal") :
    t.isStringLiteral = false := by
  have hlit : t.isLiteral = false := (Tree.isKind_eq hk _).trans (beq_eq_false_iff_ne.mpr hl)
  rw [Tree.isStringLiteral, hlit, Bool.false_and]

theorem exists_of_isStringLiteral (h : t.isStringLiteral = true) : ∃ s, t.get "value" = .str s := by
  rw [Tree.isStringLiteral, Bool.and_eq_true] at h
  cases hv : t.get "value" with
  | str s => exact ⟨s, rfl⟩
  | _ => rw [hv] at h; cases h.2

theorem apart_of_isValueKind (hk : t.get? "type" = some (.str kind)) (hv : isValueKind kind = true) :
    isElement t = false ∧ t.isKind "SpreadElement" = false ∧ (kind == "JSXExpressionContainer") = false ∧
      Tree.isElementChildKind kind = false := by
  simp only [isValueKind, Bool.and_eq_true, Bool.not_eq_true', bne_iff_ne] at hv
  obtain ⟨⟨⟨hchild, hspread⟩, -⟩, -⟩ := hv
  refine ⟨?_, (Tree.isKind_eq hk _).trans (beq_eq_false_iff_ne.mpr hspread), ?_, hchild⟩
  · rw [isElement, Tree.isKind_eq hk, Tree.isKind_eq hk, Bool.or_eq_false_iff, beq_eq_false_iff_ne, beq_eq_false_iff_ne]
    constructor <;> (rintro rfl; cases hchild)
  · rw [beq_eq_false_iff_ne]
    rintro rfl
    cases hchild

theorem ne_rest_of_isValueKind (hv : isValueKind kind = true) : kind ≠ "RestElement" := by
  simp only [isValueKind, Bool.and_eq_true, bne_iff_ne] at hv
  exact hv.1.2

theorem ne_empty_of_isValueKind (hv : isValueKind kind = true) : kind ≠ "JSXEmptyExpression" := by
  simp only [isValueKind, Bool.and_eq_true, bne_iff_ne] at hv
  exact hv.2

/-- **What an argument is asked is answered**, and the child it makes is written as told. -/
theorem childOf?_eq (h : IsArgument t) :
    childOf? t = pure (if showsNothing t = true then none else some (written t)) := by
  obtain ⟨fuel, hfuel⟩ := Nat.exists_eq_succ_of_ne_zero (Tree.height_pos t).ne'
  rw [childOf?, hfuel, childWithin, written]
  cases h with
  | element he hb hbreak =>
    rw [if_pos he]
    obtain ⟨kind, hk, rfl | rfl⟩ := get?_of_isElement he <;>
      rw [showsNothing_of_isKind hk (by decide) (by decide) (by decide), Tree.kindOf, Tree.textField_of_get? hk] <;> rfl
  | spread hk ha =>
    have hnothing := showsNothing_of_isKind hk (by decide) (by decide) (by decide)
    rw [isBlankChild_eq hk (by decide) (absurd · (by decide)) (absurd · (by decide)), hnothing, isStringLiteral_of_isKind hk (by decide),
      Tree.field_of_get? ha, Tree.get_of_get? ha, isElement, Tree.isKind_eq hk, Tree.isKind_eq hk, Tree.isKind_eq hk,
      Tree.kindOf, Tree.textField_of_get? hk]
    rfl
  | @value kind hk hv hname hunary =>
    obtain ⟨helement, hspread, hcontainer, hchild⟩ := apart_of_isValueKind hk hv
    rw [isBlankChild_eq hk (ne_rest_of_isValueKind hv) hname hunary, helement, hspread, Tree.kindOf,
      Tree.textField_of_get? hk, pure_bind, hcontainer, if_neg Bool.false_ne_true, hchild, if_neg Bool.false_ne_true,
      pure_bind, if_neg Bool.false_ne_true, if_neg Bool.false_ne_true]
    cases showsNothing t with
    | true => rfl
    | false =>
      have hspread' : (kind == "SpreadElement") = false := (Tree.isKind_eq hk _).symm.trans hspread
      rw [if_neg Bool.false_ne_true, if_neg Bool.false_ne_true, hspread', isText]
      cases hlit : t.isStringLiteral with
      | false => simp
      | true =>
        obtain ⟨s, hs⟩ := exists_of_isStringLiteral hlit
        rw [hs]
        rfl

theorem filterMapM_childOf? (ha : ∀ a ∈ args, IsArgument a) :
    (args.filterMapM childOf? : Editing (List Tree)) = pure ((args.filter (!showsNothing ·)).map written) := by
  induction args with
  | nil => rfl
  | cons a rest ih =>
    obtain ⟨h, hrest⟩ := List.forall_mem_cons.mp ha
    rw [List.filterMapM_cons, childOf?_eq h, pure_bind, ih hrest]
    cases hs : showsNothing a with
    | true =>
      rw [List.filter_cons_of_neg (by rw [hs]; decide)]
      rfl
    | false =>
      rw [List.filter_cons_of_pos (by rw [hs]; rfl)]
      rfl

/-! ### Reading what is written -/

/-- Whether a piece ends a text and is read as a child of its own. -/
def Piece.IsOwn (p : Piece) (c : Child) : Prop :=
  ∀ before rest, readFrom before (p :: rest) = textChild before ++ c :: readFrom [] rest

/-- **An argument is read as the child it gives**: as a text, or on its own. -/
theorem written_cases (h : IsArgument t) :
    (∃ s, isText t = true ∧ isChildText s = true ∧ pieceOf (written t) = .text s ∧ Child.of t = .text s) ∨
      (isText t = false ∧ (pieceOf (written t)).IsOwn (.of t)) := by
  cases h with
  | element he hb hbreak =>
    obtain ⟨kind, hk, hkind⟩ := get?_of_isElement he
    have hl : kind ≠ "Literal" := by rcases hkind with rfl | rfl <;> decide
    have hs : kind ≠ "SpreadElement" := by rcases hkind with rfl | rfl <;> decide
    refine .inr ⟨by rw [isText, isStringLiteral_of_isKind hk hl]; rfl, ?_⟩
    rw [written, if_pos he, pieceOf_element he, Child.of, isStringLiteral_of_isKind hk hl, Tree.isKind_eq hk,
      beq_eq_false_iff_ne.mpr hs]
    exact fun _ _ => rfl
  | spread hk ha =>
    have hstring := isStringLiteral_of_isKind hk (by decide)
    refine .inr ⟨by rw [isText, hstring]; rfl, ?_⟩
    rw [written, isElement, Tree.isKind_eq hk, Tree.isKind_eq hk, Tree.isKind_eq hk, Child.of, Tree.isKind_eq hk]
    exact fun _ _ => rfl
  | @value kind hk hv hname hunary =>
    obtain ⟨helement, hspread, -, -⟩ := apart_of_isValueKind hk hv
    rw [written, helement, hspread, Child.of, hspread]
    cases hlit : t.isStringLiteral with
    | false =>
      have htext : isText t = false := by rw [isText, hlit]; rfl
      rw [htext]
      refine .inr ⟨rfl, fun before rest => ?_⟩
      have hof : Child.of t = .value t := by rw [Child.of, hspread, hlit]; rfl
      exact congrArg (fun c => textChild before ++ c :: readFrom [] rest) hof
    | true =>
      cases htext : isText t with
      | true =>
        rw [isText, hlit, Bool.true_and] at htext
        exact .inl ⟨_, rfl, htext, rfl, rfl⟩
      | false =>
        refine .inr ⟨rfl, fun before rest => ?_⟩
        have hof : Child.of t = .text (((t.get "value").str?).getD "") := by rw [Child.of, hspread, hlit]; rfl
        exact congrArg (fun c => textChild before ++ c :: readFrom [] rest) hof

theorem isChild_written (h : IsArgument t) : IsChild (written t) := by
  cases h with
  | element he hb hbreak =>
    rw [written, if_pos he]
    exact .element he hb hbreak
  | spread hk ha =>
    rw [written, isElement, Tree.isKind_eq hk, Tree.isKind_eq hk, Tree.isKind_eq hk]
    exact .spread _
  | value hk hv hname hunary =>
    obtain ⟨helement, hspread, -, -⟩ := apart_of_isValueKind hk hv
    rw [written, helement, hspread, if_neg Bool.false_ne_true, if_neg Bool.false_ne_true]
    split
    · exact .text _
    · exact .braces hk (ne_empty_of_isValueKind hv)

/-- Children on lines of their own. -/
def spaced (between behind : String) (children : List Tree) : List Piece :=
  children.flatMap (fun c => [.text between, pieceOf c]) ++ [Piece.text behind]

theorem spaced_cons (between behind : String) (c : Tree) (rest : List Tree) :
    spaced between behind (c :: rest) = .text between :: pieceOf c :: spaced between behind rest := rfl

theorem textChild_around {cs : List Char} (h : IsAround cs) : textChild cs = [] := by
  rw [textChild, textSaid?_nothing h]
  rfl

/-- **Lines are read as what is written on them**, behind what says nothing or behind a text, if no two texts come
together. -/
theorem readFrom_spaced {between behind : String} (hb : IsAround between.toList) (hf : IsAround behind.toList)
    (ha : ∀ a ∈ shown, IsArgument a)
    (hchain : shown.IsChain fun a b => ¬(isText a = true ∧ isText b = true)) :
    (∀ before, IsAround before → readFrom before (spaced between behind (shown.map written)) = shown.map .of) ∧
      (∀ before s, IsAround before → isChildText s = true → (∀ a ∈ shown.head?, isText a = false) →
        readFrom (before ++ s.toList) (spaced between behind (shown.map written)) = .text s :: shown.map .of) := by
  induction shown with
  | nil =>
    refine ⟨fun before h => ?_, fun before s h hs _ => ?_⟩
    · exact textChild_around fun c hc => (List.mem_append.mp hc).elim (h c) (hf c)
    · show textChild (before ++ s.toList ++ behind.toList) = _
      rw [textChild, List.append_assoc, textSaid?_around hs h hf]
      rfl
  | cons a rest ih =>
    obtain ⟨h, hrest⟩ := List.forall_mem_cons.mp ha
    obtain ⟨ihplain, ihtext⟩ := ih hrest hchain.tail
    rw [List.map_cons, spaced_cons]
    refine ⟨fun before hbefore => ?_, fun before s hbefore hs hhead => ?_⟩
    · have haround : IsAround (before ++ between.toList) := fun c hc =>
        (List.mem_append.mp hc).elim (hbefore c) (hb c)
      rw [readFrom]
      obtain ⟨s, htext, hs, hpiece, hof⟩ | ⟨-, hown⟩ := written_cases h
      · rw [hpiece, readFrom, List.map_cons, hof]
        refine ihtext _ s haround hs fun b hm => ?_
        obtain ⟨more, rfl⟩ := List.head?_eq_some_iff.mp hm
        exact Bool.eq_false_iff.mpr fun hb => (List.isChain_cons_cons.mp hchain).1 ⟨htext, hb⟩
      · rw [hown, textChild_around haround, ihplain [] (fun _ hc => absurd hc List.not_mem_nil)]
        rfl
    · have hnot := hhead a rfl
      rw [readFrom]
      obtain ⟨_, htext, -⟩ | ⟨-, hown⟩ := written_cases h
      · rw [htext] at hnot
        cases hnot
      · rw [hown, ihplain [] (fun _ hc => absurd hc List.not_mem_nil), textChild, List.append_assoc,
          textSaid?_around hs hbefore hb]
        rfl

theorem length_textChild_le (cs : List Char) : (textChild cs).length ≤ 1 := by
  rw [textChild]
  cases textSaid? cs <;> simp

/-- How often two texts come together. -/
def meetings : List Tree → Nat
  | a :: b :: rest => (if isText a && isText b then 1 else 0) + meetings (b :: rest)
  | _ => 0

theorem meetings_pos (h : ¬shown.IsChain fun a b => ¬(isText a = true ∧ isText b = true)) : 0 < meetings shown := by
  induction shown with
  | nil => exact absurd .nil h
  | cons a rest ih =>
    cases rest with
    | nil => exact absurd (.singleton a) h
    | cons b rest =>
      rw [List.isChain_cons_cons, Classical.not_and_iff_not_or_not, not_not] at h
      rw [meetings]
      rcases h with ⟨ha, hb⟩ | h
      · rw [ha, hb]
        exact Nat.lt_add_right _ Nat.one_pos
      · exact Nat.add_pos_right _ (ih h)

/-- **Lines give a child less for every two texts that come together**, behind what says nothing; a text in front may be
a child more. -/
theorem length_readFrom_spaced {between behind : String} (hb : IsAround between.toList) (hf : IsAround behind.toList)
    (ha : ∀ a ∈ shown, IsArgument a) :
    (∀ before, (readFrom before (spaced between behind (shown.map written))).length + meetings shown +
      (if shown.head?.any isText then 1 else 0) ≤ shown.length + 1) ∧
      (∀ before, IsAround before →
        (readFrom before (spaced between behind (shown.map written))).length + meetings shown ≤ shown.length) := by
  induction shown with
  | nil =>
    refine ⟨fun before => length_textChild_le _, fun before h => ?_⟩
    have : IsAround (before ++ behind.toList) := fun c hc => (List.mem_append.mp hc).elim (h c) (hf c)
    exact (congrArg List.length (textChild_around this)).le
  | cons a rest ih =>
    obtain ⟨h, hrest⟩ := List.forall_mem_cons.mp ha
    obtain ⟨ihopen, ihplain⟩ := ih hrest
    have hnone := ihplain [] fun _ hc => absurd hc List.not_mem_nil
    have hmeet : meetings (a :: rest) = (if isText a && rest.head?.any isText then 1 else 0) + meetings rest := by
      cases rest with
      | nil => simp [meetings]
      | cons b rest => rfl
    rw [List.map_cons, spaced_cons, hmeet, List.head?_cons, Option.any_some, List.length_cons]
    refine ⟨fun before => ?_, fun before hbefore => ?_⟩ <;> rw [readFrom]
    · have hlength := length_textChild_le (before ++ between.toList)
      obtain ⟨s, htext, -, hpiece, -⟩ | ⟨htext, hown⟩ := written_cases h
      · have := ihopen (before ++ between.toList ++ s.toList)
        rw [hpiece, readFrom, htext, Bool.true_and, if_pos rfl]
        omega
      · rw [hown, htext, Bool.false_and, if_neg Bool.false_ne_true, List.length_append, List.length_cons]
        omega
    · have haround : IsAround (before ++ between.toList) := fun c hc =>
        (List.mem_append.mp hc).elim (hbefore c) (hb c)
      obtain ⟨s, htext, -, hpiece, -⟩ | ⟨htext, hown⟩ := written_cases h
      · have := ihopen (before ++ between.toList ++ s.toList)
        rw [hpiece, readFrom, htext, Bool.true_and]
        omega
      · rw [hown, htext, Bool.false_and, if_neg Bool.false_ne_true, textChild_around haround, List.nil_append,
          List.length_cons]
        omega

theorem isAround_newLine (levels : Nat) : IsAround (newLine levels).toList := by
  intro c hc
  rw [newLine, String.toList_append, List.mem_append] at hc
  rcases hc with hc | hc
  · rw [List.mem_singleton.mp (show c ∈ ['\n'] from hc)]
    exact .inr rfl
  · rw [String.toList_ofList] at hc
    rw [List.eq_of_mem_replicate hc]
    exact .inl rfl

theorem filter_laidOut {children : List Tree} (hc : ∀ c ∈ children, isBreak c = false) :
    (laidOut children).filter (!isBreak ·) = children := by
  have hbreak : isBreak Tree.tagLineBreak = true := rfl
  have hlines (cs : List Tree) (hc : ∀ c ∈ cs, isBreak c = false) :
      (cs.flatMap fun c => [c, Tree.tagLineBreak]).filter (!isBreak ·) = cs := by
    induction cs with
    | nil => rfl
    | cons c rest ih =>
      obtain ⟨h, hrest⟩ := List.forall_mem_cons.mp hc
      rw [List.flatMap_cons, List.filter_append, ih hrest]
      simp [hbreak, h]
  unfold laidOut
  split
  · rfl
  · rename_i c
    have h := hc c List.mem_cons_self
    split <;> simp [hbreak, h]
  · rw [List.filter_cons_of_neg (by rw [hbreak]; decide), hlines _ hc]

/-- **Children that are laid out are written line by line**, unless there is only a text. -/
theorem pieces_laidOut (indent : Nat) {children : List Tree} (hc : ∀ c ∈ children, isBreak c = false) :
    pieces indent (laidOut children) = [] ∧ children = [] ∨
      (∃ c, children = [c] ∧ c.isKind "JSXText" = true ∧ pieces indent (laidOut children) = [pieceOf c]) ∨
      pieces indent (laidOut children) = spaced (newLine (indent + 1)) (newLine indent) children := by
  have hbreak : isBreak Tree.tagLineBreak = true := rfl
  have hspaced (h : (laidOut children).any isBreak = true) :
      pieces indent (laidOut children) = spaced (newLine (indent + 1)) (newLine indent) children := by
    rw [pieces, if_pos h, filter_laidOut hc]
    rfl
  unfold laidOut at hspaced ⊢
  split at hspaced
  · exact .inl ⟨rfl, rfl⟩
  · rename_i c
    split at hspaced
    · rename_i htext
      rw [if_pos htext]
      refine .inr (.inl ⟨c, rfl, htext, ?_⟩)
      rw [pieces, if_neg (by simp [hc c List.mem_cons_self])]
      rfl
    · rename_i htext
      rw [if_neg htext]
      exact .inr (.inr (hspaced (by simp [hbreak])))
  · exact .inr (.inr (hspaced (by simp [hbreak])))

/-- **What is laid out is read as the children that were offered, exactly if no two texts come together.** -/
theorem read_pieces_iff (indent : Nat) (ha : ∀ a ∈ args, IsArgument a) :
    read (pieces indent (laidOut ((args.filter (!showsNothing ·)).map written))) = offered args ↔ TextsApart args := by
  have hshown : ∀ a ∈ args.filter (!showsNothing ·), IsArgument a := fun a hm => ha a (List.mem_of_mem_filter hm)
  rw [offered, TextsApart]
  generalize args.filter (!showsNothing ·) = shown at hshown ⊢
  have hc : ∀ c ∈ shown.map written, isBreak c = false := by
    intro c hm
    obtain ⟨a, hma, rfl⟩ := List.mem_map.mp hm
    exact (isChild_written (hshown a hma)).isBreak
  obtain ⟨hp, hnil⟩ | ⟨c, hone, htext, hp⟩ | hp := pieces_laidOut indent hc
  · rw [hp, List.map_eq_nil_iff.mp hnil]
    exact iff_of_true rfl .nil
  · obtain ⟨a, rfl, rfl⟩ := List.map_eq_singleton_iff.mp hone
    have h := hshown a List.mem_cons_self
    rw [hp, List.map_cons, List.map_nil]
    refine iff_of_true ?_ (.singleton a)
    obtain ⟨s, -, hs, hpiece, hof⟩ | ⟨-, hown⟩ := written_cases h
    · rw [hpiece, hof]
      have hnothing : IsAround [] := fun _ hc => absurd hc List.not_mem_nil
      have := textSaid?_around hs hnothing hnothing
      rw [List.nil_append, List.append_nil] at this
      show textChild ([] ++ s.toList) = _
      rw [List.nil_append, textChild, this]
      rfl
    · show readFrom [] [_] = _
      rw [hown]
      rfl
  · rw [hp, read]
    constructor
    · intro heq
      by_contra hchain
      have hlength := (length_readFrom_spaced (isAround_newLine (indent + 1)) (isAround_newLine indent) hshown).2 []
        (by rintro _ ⟨⟩)
      have := meetings_pos hchain
      rw [heq, List.length_map] at hlength
      omega
    · intro hchain
      exact (readFrom_spaced (isAround_newLine _) (isAround_newLine _) hshown hchain).1 [] (by rintro _ ⟨⟩)

/-- What is printed first was printed. -/
theorem exists_of_bind_eq_ok {α β : Type} {x : Printing α} {f : α → Printing β} {layout : Layout} {b : β}
    (h : (x >>= f) layout = .ok b) : ∃ a, x layout = .ok a ∧ f a layout = .ok b := by
  have h' : (x layout >>= fun a => f a layout) = .ok b := h
  cases hx : x layout with
  | ok a => exact ⟨a, rfl, by rw [hx] at h'; exact h'⟩
  | error e => rw [hx] at h'; cases h'

/-- **An element is printed with its children between its tags.** -/
theorem encloses_of_print {f : Factories} {outer : Roles} {tag : Tree} {attributes children : List Tree}
    {layout : Layout} {text : String} (h : expressionText outer (elementWith f tag attributes children) layout = .ok text) :
    ∃ inner, tagChildren outer children layout = .ok inner ∧ Encloses inner text := by
  unfold elementWith at h
  split at h
  · have h' : (do return "<>" ++ (← tagChildren outer children) ++ "</>" : Printing String) layout = .ok text := h
    obtain ⟨inner, hinner, htext⟩ := exists_of_bind_eq_ok h'
    cases htext
    refine ⟨inner, hinner, ?_⟩
    have : Encloses inner _ := .tags "" ""
    simpa [String.append_assoc] using this
  · have h' : Printer.element outer (Tree.element tag attributes children) layout = .ok text := h
    unfold Printer.element at h'
    obtain ⟨opening, ho, h'⟩ := exists_of_bind_eq_ok h'
    cases ho
    obtain ⟨_, -, h'⟩ := exists_of_bind_eq_ok h'
    obtain ⟨name, -, h'⟩ := exists_of_bind_eq_ok h'
    obtain ⟨texts, -, h'⟩ := exists_of_bind_eq_ok h'
    cases children with
    | nil =>
      have htext : ("<" ++ name ++ String.join texts ++ " />" : String) = text := Except.ok.inj h'
      have : Encloses "" _ := .closed (name ++ String.join texts) rfl
      rw [← htext]
      exact ⟨"", rfl, by simpa [String.append_assoc] using this⟩
    | cons c rest =>
      obtain ⟨_, -, h'⟩ := exists_of_bind_eq_ok h'
      obtain ⟨closing, -, h'⟩ := exists_of_bind_eq_ok h'
      obtain ⟨inner, hinner, h'⟩ := exists_of_bind_eq_ok h'
      have htext : ("<" ++ name ++ String.join texts ++ ">" ++ inner ++ "</" ++ closing ++ ">" : String) = text :=
        Except.ok.inj h'
      refine ⟨inner, hinner, ?_⟩
      have : Encloses inner _ := .tags (name ++ String.join texts) closing
      rw [← htext]
      simpa [String.append_assoc] using this

/-- Children as they are laid out are printed as their pieces. -/
theorem tagChildren_laidOut (ha : ∀ a ∈ shown, IsArgument a) (levels : Nat) (layout : Layout) :
    tagChildren (roles (levels + 1)) (laidOut (shown.map written)) layout =
      printPieces (roles levels) (pieces layout.indent (laidOut (shown.map written)))
        (inside layout (laidOut (shown.map written))) := by
  have hchild (c : Tree) (hm : c ∈ shown.map written) : IsChild c := by
    obtain ⟨a, hma, rfl⟩ := List.mem_map.mp hm
    exact isChild_written (ha a hma)
  have hfilter := filter_laidOut fun c hm => (hchild c hm).isBreak
  refine tagChildren_eq (fun c hm hbreak => ?_) (fun hany => ?_) layout
  · have hm' : c ∈ shown.map written := by
      rw [← hfilter]
      exact List.mem_filter.mpr ⟨hm, by rw [hbreak]; rfl⟩
    exact (hchild c hm').print
  · obtain ⟨c, hm⟩ : ∃ c, c ∈ shown.map written := by
      refine List.exists_mem_of_ne_nil _ fun hnil => ?_
      rw [hnil] at hany
      cases hany
    rw [← hfilter, List.mem_filter, Bool.not_eq_true'] at hm
    exact ⟨c, hm⟩

/-- **Between the tags of the element that a call becomes is printed what gives the children the call was given, exactly
if no two texts come together.** The call is one that takes its children as arguments. -/
theorem children_kept {f : Factories} {pragma : String} {tag props : Tree} {attributes : List Tree} {c c' : Context}
    (hp : automaticPragmas.contains pragma = false) (hattr : (attributesOf props).run.run c = (.ok attributes, c'))
    (hno : attributes.any isChildren = false) (ha : ∀ a ∈ args, IsArgument a) :
    ∃ t children, (elementFrom? f pragma tag props args).run.run c = (.ok (some t), c') ∧
      (∀ levels layout text, expressionText (roles (levels + 1)) t layout = .ok text →
        ∃ inner, printPieces (roles levels) (pieces layout.indent children) (inside layout children) = .ok inner ∧
          Encloses inner text) ∧
      ∀ indent, read (pieces indent children) = offered args ↔ TextsApart args := by
  have hshown : ∀ a ∈ args.filter (!showsNothing ·), IsArgument a := fun a hm => ha a (List.mem_of_mem_filter hm)
  let children := laidOut ((args.filter (!showsNothing ·)).map written)
  have hrun : (elementFrom? f pragma tag props args).run.run c =
      (.ok (some (elementWith f tag attributes children)), c') := by
    rw [elementFrom?, Editing.run_bind_of_ok hattr, hno, hp, filterMapM_childOf? ha]
    rfl
  refine ⟨elementWith f tag attributes children, children, hrun, fun levels layout text h => ?_,
    fun indent => read_pieces_iff indent ha⟩
  obtain ⟨inner, hinner, hencloses⟩ := encloses_of_print h
  rw [tagChildren_laidOut hshown] at hinner
  exact ⟨inner, hinner, hencloses⟩

end Offered

/-- A text literal. -/
theorem isArgument_literal (s : String) : IsArgument (.node "Literal" [("value", .str s)]) :=
  .value rfl rfl nofun nofun

theorem isArgument_identifier (name : String) : IsArgument (Tree.identifier name) :=
  .value rfl rfl (fun _ => ⟨name, rfl⟩) nofun

/-- A text, a name, what shows nothing, and a text. -/
theorem children_kept_apart :
    ∃ t children, (elementFrom? (Factories.ofOptions {}) "createElement" (.tagIdentifier "a")
        (.node "Literal" [("value", .null)]) [.node "Literal" [("value", .str "b")], Tree.identifier "c", Tree.identifier "undefined",
          .node "Literal" [("value", .str "d")]]).run.run ⟨.ofTree .null 1, none, "", none, #[]⟩ =
        (.ok (some t), ⟨.ofTree .null 1, none, "", none, #[]⟩) ∧
      ∀ indent, read (pieces indent children) = [.text "b", .value (Tree.identifier "c"), .text "d"] := by
  have hargs : ∀ a ∈ [.node "Literal" [("value", .str "b")], Tree.identifier "c", Tree.identifier "undefined",
      .node "Literal" [("value", .str "d")]], IsArgument a := by
    simp only [List.forall_mem_cons]
    exact ⟨isArgument_literal _, isArgument_identifier _, isArgument_identifier _, isArgument_literal _, by simp⟩
  have hattributes : (attributesOf (.node "Literal" [("value", .null)])).run.run ⟨.ofTree .null 1, none, "", none, #[]⟩ =
      (.ok [], ⟨.ofTree .null 1, none, "", none, #[]⟩) := rfl
  obtain ⟨t, children, hrun, -, hread⟩ := @children_kept _ (Factories.ofOptions {}) _ (.tagIdentifier "a") _ _ _ _
    (by decide : automaticPragmas.contains "createElement" = false) hattributes rfl hargs
  exact ⟨t, children, hrun, fun indent => (hread indent).mpr (by unfold TextsApart; decide)⟩

/-- **Two texts that come together are read as one.** -/
theorem children_not_kept : ∃ args : List Tree,
    args = [.node "Literal" [("value", .str "b")], .node "Literal" [("value", .str "c")]] ∧
    (args.filterMapM childOf? : Editing (List Tree)) = pure (args.map written) ∧
    offered args = [.text "b", .text "c"] ∧ read (pieces 0 (laidOut (args.map written))) = [.text "b c"] := by
  refine ⟨_, rfl, ?_, rfl, by rfl⟩
  rfl

end Rules.Element

end Deminify
