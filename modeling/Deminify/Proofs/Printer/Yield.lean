import Mathlib
import Deminify.Printer.Statement
import Deminify.Proofs.Token.Spelled
import Deminify.Proofs.Tree.Core
import Deminify.Proofs.Tree.Node
import Deminify.Tree.Build

/-!
# What printing yields

Printing puts texts together, and never takes one apart again: whatever shows in the text of a part
shows in the text of the whole. `Deminify.Printer.Shows` is that relation, with one lemma for each
way in which texts are put together; `Deminify.Printer.Yields act P` says that *if* `act` prints
something, under whatever layout, then it satisfies `P`. The statements about single printers are
generated from their definitions, so all that this module adds is what a field, a kind, a list and a
deeper level give.

A tree without comments that is the same as another one apart from labels and places
(`Deminify.Tree.StandsFor`) is printed like it. **Where each part can be printed, so can the whole**
(`Deminify.Printer.Prints`): there is one rule for each way of putting printing together.
-/

set_option mvcgen.warning false

open Std.Do

namespace Deminify

namespace Printer

/-! ### What a text shows -/

/-- Whether a text shows another, all of it and in one piece. -/
def Shows (text part : String) : Prop := part.toList <:+: text.toList

instance (text part : String) : Decidable (Shows text part) :=
  inferInstanceAs (Decidable (_ <:+: _))

section Shows

variable {part a b : String}

theorem Shows.refl (text : String) : Shows text text := List.infix_rfl

@[grind ←] theorem Shows.left (h : Shows a part) : Shows (a ++ b) part := by
  rw [Shows, String.toList_append]
  exact List.IsInfix.trans h (List.prefix_append _ _).isInfix

@[grind ←] theorem Shows.right (h : Shows b part) : Shows (a ++ b) part := by
  rw [Shows, String.toList_append]
  exact List.IsInfix.trans h (List.suffix_append _ _).isInfix

-- Steps over several texts at once, so that little of a long text is out of reach.
@[grind ←] theorem Shows.front {c d e : String} (h : Shows a part) : Shows (a ++ b ++ c ++ d ++ e) part :=
  h.left.left.left.left

@[grind ←] theorem Shows.inside {c : String} (h : Shows b part) : Shows (a ++ b ++ c) part := h.right.left

@[grind ←] theorem Shows.parenthesized (h : Shows a part) : Shows (parenthesized a) part :=
  h.right.left

/-- An empty text shows what any text shows that is empty. -/
theorem Shows.of_isEmpty (h : Shows a part) (he : a.isEmpty = true) : Shows b part := by
  rw [String.isEmpty_iff] at he
  subst he
  rw [Shows, String.toList_empty, List.infix_nil] at h
  rw [Shows, h]
  exact List.nil_infix

/-- Without the blanks at its end, a text still shows what ends with none. -/
theorem Shows.stripEnd {front : List Char} {c : Char} (h : Shows a part) (hpart : part.toList = front ++ [c])
    (hc : Text.isBlank c = false) : Shows (Text.stripEnd a) part := by
  have hdrop (l r : List Char) : Text.dropBlanks (l ++ c :: r) = Text.dropBlanks l ++ c :: r := by
    rw [Text.dropBlanks, List.dropWhile_append]
    split
    · rename_i hnil
      rw [Text.dropBlanks, List.isEmpty_iff.mp hnil, List.dropWhile_cons_of_neg (by simp [hc]), List.nil_append]
    · rfl
  obtain ⟨before, behind, h⟩ := h
  have hreverse : a.toList.reverse = behind.reverse ++ c :: (front.reverse ++ before.reverse) := by
    rw [← h, hpart]
    simp
  refine ⟨before, (Text.dropBlanks behind.reverse).reverse, ?_⟩
  rw [Text.stripEnd, hreverse, hdrop, String.toList_ofList, hpart]
  simp

/-- Whether some of several texts shows another. -/
def ShowsAny (texts : List String) (part : String) : Prop := ∃ text ∈ texts, Shows text part

@[simp, grind =] theorem showsAny_nil : ShowsAny [] part ↔ False := by simp [ShowsAny]

@[simp, grind =] theorem showsAny_cons {texts : List String} :
    ShowsAny (a :: texts) part ↔ Shows a part ∨ ShowsAny texts part := by
  simp [ShowsAny]

@[simp, grind =] theorem showsAny_append {texts texts' : List String} :
    ShowsAny (texts ++ texts') part ↔ ShowsAny texts part ∨ ShowsAny texts' part := by
  simp [ShowsAny, or_and_right, exists_or]

@[grind ←] theorem ShowsAny.join {texts : List String} (h : ShowsAny texts part) :
    Shows (String.join texts) part := by
  induction texts with
  | nil => exact (showsAny_nil.mp h).elim
  | cons x rest ih =>
    rw [String.join_cons]
    exact (showsAny_cons.mp h).elim (·.left) fun h => (ih h).right

@[grind ←] theorem ShowsAny.intercalate {sep : String} {texts : List String} (h : ShowsAny texts part) :
    Shows (String.intercalate sep texts) part := by
  induction texts with
  | nil => exact (showsAny_nil.mp h).elim
  | cons x rest ih =>
    cases rest with
    | nil =>
      rw [String.intercalate_singleton]
      exact (showsAny_cons.mp h).resolve_right showsAny_nil.mp
    | cons y rest =>
      rw [String.intercalate_cons_cons]
      exact (showsAny_cons.mp h).elim (·.left.left) fun h => (ih h).right

@[grind ←] theorem ShowsAny.commas {texts : List String} (h : ShowsAny texts part) :
    Shows (commas texts) part := h.intercalate

end Shows

/-! ### What a printer yields -/

/-- Whatever is printed satisfies the property. -/
abbrev Yields {α : Type} (act : Printing α) (P : α → Prop) : Prop := ⦃⌜True⌝⦄ act ⦃⇓? a => ⌜P a⌝⦄

theorem yields_iff {α : Type} {act : Printing α} {P : α → Prop} :
    Yields act P ↔ ∀ layout a, act layout = .ok a → P a := by
  have key : ∀ layout, (wp⟦act⟧ (⇓? a => ⌜P a⌝) layout).down ↔ ∀ a, act layout = .ok a → P a := by
    intro layout
    have run : wp⟦act⟧ (⇓? a => ⌜P a⌝) layout = wp⟦act layout⟧ (⇓? a => ⌜P a⌝) := rfl
    rw [run]
    cases hp : act layout with
    | error e => exact iff_of_true trivial fun _ h => nomatch h
    | ok r => exact ⟨fun h a he => by cases he; exact h, fun h => h _ rfl⟩
  exact ⟨fun h layout => (key layout).mp (h layout trivial), fun h layout _ => (key layout).mpr (h layout)⟩

theorem Yields.mono {α : Type} {act : Printing α} {P Q : α → Prop} (h : Yields act P)
    (hpq : ∀ a, P a → Q a) : Yields act Q :=
  yields_iff.mpr fun layout a ha => hpq a (yields_iff.mp h layout a ha)

theorem yields_any {α : Type} (act : Printing α) : Yields act fun _ => True :=
  yields_iff.mpr fun _ _ _ => trivial

theorem yields_pure {α : Type} {a : α} {P : α → Prop} (h : P a) : Yields (pure a) P :=
  yields_iff.mpr fun _ _ ha => by cases ha; exact h

/-- What goes on with what another printer yields. -/
theorem Yields.bind {α β : Type} {act : Printing α} {f : α → Printing β} {Q : α → Prop} {P : β → Prop}
    (h : Yields act Q) (hf : ∀ a, Q a → Yields (f a) P) : Yields (act >>= f) P := by
  refine yields_iff.mpr fun layout b hb => ?_
  obtain ⟨a, ha, hb⟩ := bind_eq_ok.mp hb
  exact yields_iff.mp (hf a (yields_iff.mp h layout a ha)) layout b hb

/-- What fails yields nothing. -/
@[spec high] theorem throw_spec {α : Type} {e : Failure} :
    Yields (throw e : Printing α) fun _ => False := yields_iff.mpr fun _ _ h => nomatch h

/-! ### Fields -/

section Fields

variable {t : Tree} {key : String}

@[spec] theorem field_spec : Yields (t.field key) fun v => v = t.get key := by
  refine yields_iff.mpr fun layout v h => ?_
  cases t with
  | obj label fields =>
    rw [Tree.get, Tree.get?_obj]
    rw [Tree.field] at h
    cases hv : fields.lookup key with
    | none =>
      rw [hv] at h
      cases h
    | some value =>
      rw [hv] at h
      cases h
      rfl
  | _ => cases h

@[spec] theorem listField_spec : Yields (t.listField key) fun items => items = (t.get key).items := by
  mvcgen [Tree.listField]
  all_goals grind [Tree.items]

@[spec] theorem textField_spec : Yields (t.textField key) fun s => t.get key = .str s := by
  mvcgen [Tree.textField]
  all_goals grind

@[spec] theorem kindOf_spec : Yields t.kindOf fun kind => kind = t.kind := by
  refine textField_spec.mono fun s hs => ?_
  rw [Tree.kind]
  rw [Tree.get] at hs
  cases hv : t.get? "type" with
  | none =>
    rw [hv] at hs
    cases hs
  | some v =>
    rw [hv] at hs
    cases hs
    rfl

end Fields

theorem eq_null_of_isNull {t : Tree} (h : t.isNull = true) : t = .null := by
  cases t with
  | null => rfl
  | _ => cases h

/-! ### Layouts and lists -/

theorem Yields.deeper {α : Type} {act : Printing α} {P : α → Prop} (h : Yields act P) :
    Yields (deeper act) P :=
  yields_iff.mpr fun layout a ha => yields_iff.mp h { layout with indent := layout.indent + 1 } a ha

theorem Yields.withNoIn {α : Type} {act : Printing α} {P : α → Prop} (h : Yields act P) (noIn : Bool) :
    Yields (withNoIn noIn act) P :=
  yields_iff.mpr fun layout a ha => yields_iff.mp h { layout with noIn } a ha

@[spec] theorem pad_spec : Yields pad fun _ => True := yields_any _

@[spec] theorem padBy_spec {extra : Nat} : Yields (padBy extra) fun _ => True := yields_any _

/-- Each item of a list gives what it yields. -/
theorem Yields.mapM {α β : Type} {f : α → Printing β} {Q : α → β → Prop} {xs : List α}
    (h : ∀ x ∈ xs, Yields (f x) (Q x)) : Yields (xs.mapM f) fun ys => ∀ x ∈ xs, ∃ y ∈ ys, Q x y := by
  induction xs with
  | nil => exact (yields_any _).mono fun _ _ _ hx => nomatch hx
  | cons x rest ih =>
    have hx := h x List.mem_cons_self
    have hrest := ih fun x hx => h x (List.mem_cons_of_mem _ hx)
    rw [List.mapM_cons]
    mvcgen [hx, hrest]
    grind

/-! ### Nodes without comments -/

section Bare

variable {go : Roles} {t : Tree} {kind : String}

/-- Whether a node has no comments. -/
def IsBare (t : Tree) : Prop := (t.get "leadingComments").items = [] ∧ (t.get "trailingComments").items = []

instance (t : Tree) : Decidable (IsBare t) := inferInstanceAs (Decidable (_ ∧ _))

theorem leadingComments_of_bare (h : IsBare t) (b : Bool) : leadingComments t b = pure "" := by
  have hcomments : commentsOf t "leadingComments" = [] := h.1
  rw [leadingComments, hcomments]
  rfl

theorem trailingComments_of_bare (h : IsBare t) (b : Bool) : trailingComments t b = pure "" := by
  have hcomments : commentsOf t "trailingComments" = [] := h.2
  rw [trailingComments, hcomments]
  rfl

theorem statement_of_bare (h : IsBare t) : statement go t = statementText go t := by
  rw [statement]
  simp only [leadingComments_of_bare h, trailingComments_of_bare h, pure_bind, String.append_empty,
    String.empty_append, bind_pure]

/-- Whether the nodes of a kind bind equally tightly. -/
def isLevelKind (kind : String) : Bool := kind != "BinaryExpression" && kind != "LogicalExpression"

/-- An expression that binds tightly enough is printed without parentheses. -/
theorem expression_of_bare (h : IsBare t) (hk : t.get? "type" = some (.str kind)) (hlevel : isLevelKind kind = true)
    {least : Nat} (hl : least ≤ Tree.kindPrecedence kind) : expression go least t = expressionText go t := by
  simp only [isLevelKind, Bool.and_eq_true, bne_iff_ne] at hlevel
  obtain ⟨hbinary, hlogical⟩ := hlevel
  have hkind : (t.kindOf : Printing String) = pure kind := Tree.textField_of_get? hk
  have hprecedence : (t.precedence : Printing Nat) = pure (Tree.kindPrecedence kind) := by
    rw [Tree.precedence, hkind, pure_bind, if_neg (by simp [hbinary, hlogical])]
  have hin : (kind == "BinaryExpression") = false := beq_eq_false_iff_ne.mpr hbinary
  unfold expression
  simp only [hkind, hprecedence, leadingComments_of_bare h, trailingComments_of_bare h, hin, pure_bind, Bool.and_false,
    Bool.false_eq_true, if_false, Nat.not_lt_of_le hl, String.append_empty, String.empty_append, bind_pure]
  rfl

end Bare

end Printer

open Printer Token

/-! ### Trees that stand for others -/

namespace Tree

/-- Whether a tree stands for another one: it is the same apart from labels and places, and has no
comments. -/
structure StandsFor (t u : Tree) : Prop where
  core : t.core = u
  bare : ∀ n ∈ t.subtree, IsBare n

namespace StandsFor

variable {t u v : Tree} {k : String} {fields : List (String × Tree)}

theorem isBare (h : t.StandsFor u) : IsBare t := h.bare t (mem_subtree_self t)

theorem get? (h : t.StandsFor u) {key : String} (hk : isShapeKey key = true) (hv : u.get? key = some v) :
    ∃ w, t.get? key = some w ∧ w.core = v := by
  have hcore := get?_core t hk
  rw [h.core, hv] at hcore
  exact Option.map_eq_some_iff.mp hcore.symm

theorem absent (h : t.StandsFor u) (key : String) (hk : isShapeKey key = true) (hv : u.get? key = none) :
    t.get key = .null := by
  have hcore := get?_core t hk
  rw [h.core, hv] at hcore
  rw [get, Option.map_eq_none_iff.mp hcore.symm]
  rfl

/-- A field that is no node is the same. -/
theorem leaf (h : t.StandsFor u) (key : String) (hk : isShapeKey key = true) (hv : u.get? key = some v)
    (hl : v.isLeaf = true) : t.get? key = some v := by
  obtain ⟨w, hw, hcore⟩ := h.get? hk hv
  have hwl : w.isLeaf = true := by rw [← isLeaf_core, hcore, hl]
  rw [hw, ← hcore]
  cases w <;> first | rfl | cases hwl

theorem kind (h : t.StandsFor (.node k fields)) : t.get? "type" = some (.str k) := h.leaf "type" rfl rfl rfl

/-- A field that is a node stands for that of the other tree. -/
theorem part (h : t.StandsFor u) (key : String) (hk : holdsChildren key = true) (hv : u.get? key = some v)
    (hn : v.isNode = true) : ∃ w, t.get? key = some w ∧ w.StandsFor v ∧ w.height < t.height := by
  obtain ⟨w, hw, hcore⟩ := h.get? (isShapeKey_of_holdsChildren hk) hv
  have hchild : w ∈ t.children :=
    mem_children.mpr ⟨by rw [← isNode_core, hcore, hn], key, w, mem_of_lookup hw, hk, .inl rfl⟩
  exact ⟨w, hw, ⟨hcore, fun n hm => h.bare n (subtree_subset_of_mem_children hchild hm)⟩,
    height_lt_of_mem_children hchild⟩

/-- A field that is a list of nodes stands for that of the other tree, item by item. -/
theorem parts (h : t.StandsFor u) (key : String) (hk : holdsChildren key = true) {vs : List Tree}
    (hv : u.get? key = some (.list vs)) (hn : ∀ v ∈ vs, v.isNode = true) :
    ∃ us, t.get? key = some (.list us) ∧ List.Forall₂ StandsFor us vs ∧ ∀ u ∈ us, u.height < t.height := by
  obtain ⟨w, hw, hcore⟩ := h.get? (isShapeKey_of_holdsChildren hk) hv
  obtain ⟨us, rfl⟩ : ∃ us, w = .list us := by
    cases w with
    | list us => exact ⟨us, rfl⟩
    | _ => cases hcore
  have hitems : us.map Tree.core = vs := by
    rw [Tree.core, coreItems_eq] at hcore
    exact Tree.list.inj hcore
  subst hitems
  have hchild (u : Tree) (hu : u ∈ us) : u ∈ t.children :=
    mem_children.mpr ⟨by rw [← isNode_core]; exact hn _ (List.mem_map_of_mem hu), key, _, mem_of_lookup hw, hk, .inr hu⟩
  refine ⟨us, hw, ?_, fun u hu => height_lt_of_mem_children (hchild u hu)⟩
  rw [List.forall₂_map_right_iff, List.forall₂_same]
  exact fun u hu => ⟨rfl, fun n hm => h.bare n (subtree_subset_of_mem_children (hchild u hu) hm)⟩

end StandsFor

end Tree

/-! ### Printing that goes through -/

namespace Printer

/-- **Printing goes through** under a layout; what is printed is as told. -/
def Prints {α : Type} (act : Printing α) (layout : Layout) (Q : α → Prop) : Prop := ∃ a, act layout = .ok a ∧ Q a

section Prints

variable {α β : Type} {act : Printing α} {layout : Layout} {Q : α → Prop}

theorem prints_pure {a : α} (h : Q a) : Prints (pure a) layout Q := ⟨a, rfl, h⟩

theorem Prints.bind (h : Prints act layout Q) {f : α → Printing β} {R : β → Prop}
    (hf : ∀ a, Q a → Prints (f a) layout R) : Prints (act >>= f) layout R := by
  obtain ⟨a, ha, hQ⟩ := h
  obtain ⟨b, hb, hR⟩ := hf a hQ
  refine ⟨b, ?_, hR⟩
  show (act layout >>= fun a => f a layout) = _
  rw [ha]
  exact hb

theorem Prints.mono (h : Prints act layout Q) {R : α → Prop} (hQR : ∀ a, Q a → R a) : Prints act layout R := by
  obtain ⟨a, ha, hQ⟩ := h
  exact ⟨a, ha, hQR a hQ⟩

theorem prints_deeper : Prints (deeper act) layout Q ↔ Prints act { layout with indent := layout.indent + 1 } Q := .rfl

theorem prints_withNoIn {noIn : Bool} : Prints (withNoIn noIn act) layout Q ↔ Prints act { layout with noIn } Q := .rfl

theorem prints_pad : Prints pad layout fun text => IsGap text.toList := by
  refine ⟨_, rfl, fun c hc => ?_⟩
  rw [String.toList_ofList] at hc
  exact .inl (List.eq_of_mem_replicate hc)

end Prints

end Printer

end Deminify
