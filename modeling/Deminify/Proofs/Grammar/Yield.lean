import Mathlib
import Deminify.Grammar.Binding
import Deminify.Proofs.Tree.Shape

/-!
# What reading yields

A statement about the grammar says of what kind the trees are that it reads, whatever the text and
the state of the reading are: `Deminify.Grammar.Yields p P` says that *if* `p` reads something, then
it satisfies `P`. The proofs generate their conditions from the rules; this module gives them the
steps that all rules are made of – taking tokens, changing the setting, repeating – and the one step
that makes a node, `Deminify.Grammar.finish`. Taking a token says nothing about what was taken
(`Deminify.Grammar.yields_any`), unless it has been looked at before: the token ahead is the one that is
taken next (`Deminify.Grammar.next_ahead`).
-/

set_option mvcgen.warning false

open Std.Do

namespace Deminify

/-- Whether a token is the given punctuator. -/
def Token.isPunctuator (word : String) (token : Token) : Bool :=
  token.type == .punctuator && token.value == word

namespace Grammar

/-- Whatever is read satisfies the property. -/
abbrev Yields {α : Type} (p : Grammar α) (P : α → Prop) : Prop := ⦃⌜True⌝⦄ p ⦃⇓? a => ⌜P a⌝⦄

/-- **What a statement about states says**: it is about the runs that succeed. -/
theorem triple_iff {α : Type} {p : Grammar α} {P : Reading → Prop} {Q : α → Reading → Prop} :
    ⦃fun _ s => ⌜P s⌝⦄ p ⦃⇓? a => fun _ s => ⌜Q a s⌝⦄ ↔
      ∀ source s a s', P s → p source s = .ok (a, s') → Q a s' := by
  have key : ∀ source s, (wp⟦p⟧ (⇓? a => fun _ s => ⌜Q a s⌝) source s).down ↔
      ∀ a s', p source s = .ok (a, s') → Q a s' := by
    intro source s
    have run : wp⟦p⟧ (⇓? a => fun _ s => ⌜Q a s⌝) source s = wp⟦p source s⟧ (⇓? r => ⌜Q r.1 r.2⌝) := rfl
    rw [run]
    cases hp : p source s with
    | error e => exact iff_of_true trivial fun _ _ h => nomatch h
    | ok r => exact ⟨fun h a s' he => by cases he; exact h, fun h => h _ _ rfl⟩
  constructor
  · exact fun h source s a s' hs => (key source s).mp (h source s hs) a s'
  · exact fun h source s hs => (key source s).mpr fun a s' => h source s a s' hs

theorem yields_iff {α : Type} {p : Grammar α} {P : α → Prop} :
    Yields p P ↔ ∀ source s a s', p source s = .ok (a, s') → P a :=
  triple_iff.trans (by simp)

theorem Yields.mono {α : Type} {p : Grammar α} {P Q : α → Prop} (h : Yields p P)
    (hpq : ∀ a, P a → Q a) : Yields p Q :=
  yields_iff.mpr fun source s a s' hp => hpq a (yields_iff.mp h source s a s' hp)

theorem Yields.and {α : Type} {p : Grammar α} {P Q : α → Prop} (hp : Yields p P) (hq : Yields p Q) :
    Yields p fun a => P a ∧ Q a :=
  yields_iff.mpr fun source s a s' h => ⟨yields_iff.mp hp source s a s' h, yields_iff.mp hq source s a s' h⟩

theorem yields_any {α : Type} (p : Grammar α) : Yields p fun _ => True :=
  yields_iff.mpr fun _ _ _ _ _ => trivial

/-! ### Taking tokens -/

section Take

variable {word : String} {words : List String} {token : Token}

@[spec] theorem next_spec : Yields next fun _ => True := yields_any _

@[spec] theorem skip_spec : Yields skip fun _ => True := yields_any _

@[spec] theorem sees_spec : Yields (sees word) fun _ => True := yields_any _

@[spec] theorem seesOneOf_spec : Yields (seesOneOf words) fun _ => True := yields_any _

@[spec] theorem seesKeyword_spec : Yields (seesKeyword word) fun _ => True := yields_any _

@[spec] theorem seesName_spec : Yields (seesName word) fun _ => True := yields_any _

@[spec] theorem seesType_spec {type : TokenType} : Yields (seesType type) fun _ => True :=
  yields_any _

@[spec] theorem expect_spec : Yields (expect word) fun _ => True := yields_any _

@[spec] theorem expectKeyword_spec : Yields (expectKeyword word) fun _ => True := yields_any _

@[spec] theorem accept_spec : Yields (accept word) fun _ => True := yields_any _

@[spec] theorem endStatement_spec : Yields endStatement fun _ => True := yields_any _

@[spec] theorem here_spec : Yields here fun _ => True := yields_any _

@[spec] theorem written_spec : Yields (written token) fun _ => True := yields_any _

end Take

/-! ### The token ahead -/

section Ahead

variable {token : Token}

/-- What a scanner does to the state of the reading: it moves the cursor. -/
theorem scanning_eq {α : Type} (scan : Scan α) (source : Source) (s : Reading) :
    scanning scan source s = (scan.run s.cursor).map fun r => (r.1, { s with cursor := r.2 }) := by
  have start {β : Type} (f : Reading → Grammar β) : (get >>= f) source s = f s source s := rfl
  rw [scanning, start]
  cases scan.run s.cursor <;> rfl

theorem scanning_ahead {α : Type} {scan : Scan α} :
    ⦃fun _ s => ⌜s.ahead = token⌝⦄ scanning scan ⦃⇓? _ => fun _ s => ⌜s.ahead = token⌝⦄ := by
  refine triple_iff.mpr fun source s a s' hs hrun => ?_
  rw [scanning_eq] at hrun
  cases h : scan.run s.cursor with
  | error e =>
    rw [h] at hrun
    cases hrun
  | ok r =>
    rw [h] at hrun
    cases hrun
    exact hs

theorem skipGaps_ahead :
    ⦃fun _ s => ⌜s.ahead = token⌝⦄ skipGaps ⦃⇓? _ => fun _ s => ⌜s.ahead = token⌝⦄ := by
  mvcgen [skipGaps, scanning_ahead]
  all_goals grind

/-- What is taken is the token ahead. -/
theorem next_ahead : ⦃fun _ s => ⌜s.ahead = token⌝⦄ next ⦃⇓? t => ⌜t = token⌝⦄ := by
  mvcgen [next, -next_spec, scanning_ahead, skipGaps_ahead]
  grind

/-- Looking at the token ahead leaves it there. -/
theorem sees_ahead {word : String} : ⦃fun _ s => ⌜s.ahead = token⌝⦄ sees word
    ⦃⇓? b => fun _ s => ⌜s.ahead = token ∧ b = token.isPunctuator word⌝⦄ := by
  mvcgen [sees, -sees_spec]
  grind [Token.isPunctuator]

theorem seesOneOf_ahead {words : List String} :
    ⦃fun _ s => ⌜s.ahead = token⌝⦄ seesOneOf words ⦃⇓? _ => fun _ s => ⌜s.ahead = token⌝⦄ := by
  mvcgen [seesOneOf, -seesOneOf_spec]

end Ahead

/-! ### The setting -/

@[spec] theorem setting_spec : Yields setting fun _ => True := yields_any _

@[spec] theorem adjust_spec {f : Setting → Setting} : Yields (adjust f) fun _ => True := yields_any _

@[spec] theorem plainValue_spec : Yields plainValue fun _ => True := yields_any _

@[spec] theorem memberValue_spec : Yields memberValue fun _ => True := yields_any _

@[spec] theorem noteBound_spec {token : Token} : Yields (noteBound token) fun _ => True :=
  yields_any _

section Around

variable {α : Type} {p : Grammar α} {P : α → Prop}

theorem Yields.withIn (h : Yields p P) {allowed : Bool} : Yields (withIn allowed p) P := by
  mvcgen [Grammar.withIn, h]

theorem Yields.isolate (h : Yields p P) : Yields (isolate p) P := by
  mvcgen [Grammar.isolate, h]

theorem Yields.inherit (h : Yields p P) : Yields (inherit p) P := by
  mvcgen [Grammar.inherit, h]

theorem Yields.collecting (h : Yields p P) : Yields (collecting p) fun r => P r.1 := by
  mvcgen [Grammar.collecting, h]

end Around

/-! ### Repetition -/

section Repeat

variable {α : Type} {P : α → Prop}

theorem Yields.repeated {p : Grammar (Option α)} (h : Yields p fun a? => ∀ a ∈ a?, P a)
    (fuel : Nat) {found : Array α} (hf : ∀ a ∈ found, P a) :
    Yields (repeated p fuel found) fun all => ∀ a ∈ all, P a := by
  induction fuel generalizing found with
  | zero => exact yields_iff.mpr fun _ _ _ _ h => nomatch h
  | succ fuel ih =>
    mvcgen [Grammar.repeated, h, ih]
    intro _ _ ha a hm
    rcases Array.mem_push.mp hm with hm | rfl
    · exact hf a hm
    · exact ha a rfl

theorem Yields.many {p : Grammar (Option α)} (h : Yields p fun a? => ∀ a ∈ a?, P a) :
    Yields (many p) fun all => ∀ a ∈ all, P a := by
  have hr (fuel : Nat) : Yields (Grammar.repeated p fuel #[]) fun all => ∀ a ∈ all, P a :=
    h.repeated fuel (by simp)
  mvcgen [Grammar.many, hr]
  simpa

theorem Yields.manyUntil {p : Grammar α} (h : Yields p P) {close : String} :
    Yields (manyUntil close p) fun all => ∀ a ∈ all, P a := by
  apply Yields.many
  mvcgen [h]
  all_goals simp_all

theorem Yields.separatedUntil {p : Grammar α} (h : Yields p P) {close : String} :
    Yields (separatedUntil close p) fun all => ∀ a ∈ all, P a := by
  apply Yields.manyUntil
  mvcgen [h]

theorem Yields.manyAfterComma {p : Grammar α} (h : Yields p P) :
    Yields (manyAfterComma p) fun all => ∀ a ∈ all, P a := by
  apply Yields.many
  mvcgen [h]
  all_goals simp_all

end Repeat

/-! ### Nodes -/

section Nodes

variable {start : Nat}

/-- A node whose fields suit its kind is well formed. -/
@[spec] theorem finish_spec {kind : String} {fields : List (String × Tree)} :
    Yields (finish start kind fields) fun t =>
      ∀ kinds : String → Bool, kinds kind = true → Suits kind fields → t.Is kinds := by
  mvcgen [finish]
  exact fun kinds hk hs => is_of_suits hk hs

@[spec] theorem nameNode_spec {name : String} :
    Yields (nameNode start name) (Tree.Is (· == "Identifier")) := by
  refine finish_spec.mono fun t h => h _ rfl ?_
  simp [Suits, schema, schemaTable, Tree.isKnownField]

theorem isLeaf_literalValue (token : Token) : (literalValue token).isLeaf = true := by
  rw [literalValue]
  split
  · cases token.number <;> rfl
  all_goals rfl

@[spec] theorem literalNode_spec {token : Token} :
    Yields (literalNode start token) (Tree.Is (· == "Literal")) := by
  mvcgen [literalNode]
  intro _ _ h
  refine h _ rfl ?_
  simp [Suits, schema, schemaTable, Tree.isKnownField, isLeaf_literalValue]

/-- The literal of a text or a number can be a key as it stands. -/
theorem literalNode_plain {token : Token} (h : token.type = .string ∨ token.type = .number) :
    Yields (literalNode start token) fun t => t.isPlainKey = true := by
  have hvalue : ∀ raw stop, (Tree.obj 0 (("type", .str "Literal") :: [("value", literalValue token),
      ("raw", .str raw)] ++ [("range", Tree.list [.int start, .int stop])])).isPlainKey = true := by
    intro raw stop
    rw [literalValue]
    rcases h with h | h
    · rw [h]
      rfl
    · rw [h]
      cases token.number <;> rfl
  mvcgen [literalNode, -literalNode_spec, finish, -finish_spec]
  exact hvalue _ _

/-- The literal of a text has a text for its value. -/
theorem literalNode_text {start : Nat} {token : Token} (h : token.type = .string) :
    Yields (literalNode start token) fun t => (t.get "value").str?.isSome = true := by
  have hvalue : literalValue token = .str token.value := by rw [literalValue, h]
  mvcgen [literalNode, -literalNode_spec, finish, -finish_spec]
  rw [hvalue]
  rfl

end Nodes

end Grammar

end Deminify
