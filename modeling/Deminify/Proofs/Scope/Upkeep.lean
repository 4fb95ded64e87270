import Deminify.Proofs.Document.Spelling
import Deminify.Proofs.Scope.Growth

/-!
# Keeping a view in step

A rule that edits a program changes the view of its scopes along with it: names are declared, used and
forgotten, bindings are removed, renamed and merged, and what a change renames in the view is respelled
in the document (`Deminify.Upkeep.Change`, `Deminify.Upkeep.apply`). A name that comes in must not be
known to the view yet, a binding that is removed or renamed must be held by a scope; apart from that
anything goes, also renaming to a name that is taken (`Deminify.Upkeep.Allowed`).

What every change keeps is `Deminify.Upkeep.InStep`: each name has one owner and is spelled as that
owner is called. A change hands names from one owner to another as a whole, and respells just these
names, so the others stay as they are. It follows that **names stay consistent**
(`Deminify.Upkeep.names_stay_consistent`): after any changes to the view of any program, every scope
holds its bindings under the names that they are spelled by, and so do the lists of global names.
-/

namespace Deminify

namespace ScopeTree

/-- The bindings that some scope holds. -/
def held (s : ScopeTree) : List Nat := s.scopes.toList.flatMap fun c => c.bindings.map (·.2)

/-- The labels of all names that the view keeps track of. -/
def tracked (s : ScopeTree) : List Nat :=
  s.held.flatMap (fun b => (s.binding b).identifiers) ++ s.globals.flatMap (·.2.toList)

/-- The labels of all uses that are recorded, also of bindings that no scope holds any more. -/
def recorded (s : ScopeTree) : List Nat :=
  s.bindings.toList.flatMap (fun b => (usesOf b).toList) ++ s.globals.flatMap (·.2.toList)

section Tracked

variable {s : ScopeTree} (h : s.Filed)

include h

theorem Filed.boundIn_iff {k b : Nat} {x : String} :
    s.boundIn k x = some b ↔ ∃ c, s.scopes[k]? = some c ∧ (x, b) ∈ c.bindings := by
  rw [boundIn, Option.bind_eq_some_iff]
  refine exists_congr fun c => and_congr_right fun hc => ?_
  rw [(h.keyed hc).mem_iff]

theorem Filed.mem_held {b : Nat} : b ∈ s.held ↔ s.Holds b := by
  rw [held, List.mem_flatMap]
  constructor
  · rintro ⟨c, hc, hb⟩
    obtain ⟨⟨x, b'⟩, hx, rfl⟩ := List.mem_map.mp hb
    obtain ⟨k, hk⟩ := List.mem_iff_getElem?.mp hc
    exact ⟨k, x, h.boundIn_iff.mpr ⟨c, by simpa using hk, hx⟩⟩
  · rintro ⟨k, x, hb⟩
    obtain ⟨c, hc, hx⟩ := h.boundIn_iff.mp hb
    exact ⟨c, Array.mem_toList_iff.mpr (Array.mem_of_getElem? hc), List.mem_map.mpr ⟨_, hx, rfl⟩⟩

/-- What is tracked is owned. -/
theorem Filed.mem_tracked {l : Nat} : l ∈ s.tracked ↔ ∃ o, s.Owns o l := by
  rw [tracked, List.mem_append, List.mem_flatMap, List.mem_flatMap]
  constructor
  · rintro (⟨b, hb, hl⟩ | ⟨⟨x, labels⟩, hx, hl⟩)
    · exact ⟨.binding b, h.mem_held.mp hb, hl⟩
    · refine ⟨.global x, ?_⟩
      rw [Owns, listed, h.globals.mem_iff.mp hx]
      exact Array.mem_toList_iff.mp hl
  · rintro ⟨o, ho⟩
    cases o with
    | binding b => exact .inl ⟨b, h.mem_held.mpr ho.1, ho.2⟩
    | global x =>
      rw [Owns, listed] at ho
      cases hx : s.globals.lookup x with
      | none => simp [hx] at ho
      | some labels =>
        rw [hx] at ho
        exact .inr ⟨(x, labels), mem_of_lookup hx, Array.mem_toList_iff.mpr ho⟩

end Tracked

end ScopeTree

open ScopeTree

/-- A view of the scopes of a document, and the document. -/
structure Upkeep where
  view : ScopeTree
  doc : Document

namespace Upkeep

/-- A change of a view. -/
inductive Change where
  /-- A name is declared in a scope. -/
  | declare (scope label : Nat) (kind : String) (node : Option Tree)
  /-- A name is used, or written to, in a scope. -/
  | addReference (label scope : Nat) (parent : Option (Nat × String)) (writes : Bool)
  | removeReference (label : Nat)
  | removeBinding (b : Nat)
  | renameBinding (b : Nat) (new : String)
  /-- What a name means in a scope is renamed. -/
  | rename (scope : Nat) (old new : String)
  | renameGlobal (old new : String)
  /-- What a name means in a scope is merged into what another means there. -/
  | merge (scope : Nat) (name into : String)
  /-- The document is edited otherwise. -/
  | edit (doc : Document)

/-- Takes over a changed view and respells the names that it has renamed. -/
def respell (u : Upkeep) (changed : ScopeTree × List Nat) (name : String) : Upkeep :=
  ⟨changed.1, u.doc.rename changed.2 name⟩

/-- **Carries a change out.** -/
def apply (u : Upkeep) : Change → Upkeep
  | .declare scope label kind node =>
    { u with view := (u.view.declare scope label (u.doc.spelling label) kind node).1 }
  | .addReference label scope parent writes =>
    { u with view := (u.view.addReference label (u.doc.spelling label) scope parent writes).1 }
  | .removeReference label =>
    { u with view := u.view.removeReference label (u.doc.spelling label) }
  | .removeBinding b => { u with view := u.view.removeBinding b }
  | .renameBinding b new => u.respell (u.view.renameBinding b new) new
  | .rename scope old new => u.respell (u.view.renameFrom scope old new) new
  | .renameGlobal old new => u.respell (u.view.renameGlobal old new) new
  | .merge scope name into =>
    let (view, spelling, labels) := u.view.merge scope name into
    u.respell (view, labels) spelling
  | .edit doc => { u with doc }

/-- **Whether a change may be made**: names that come in are not tracked yet, uses that go are
recorded, and bindings that go or get another name are held by a scope. Other edits of the document
leave the names that are tracked as they are. -/
def Allowed (u : Upkeep) : Change → Prop
  | .declare scope label _ _ => scope < u.view.scopes.size ∧ label ∉ u.view.tracked ∧
    u.doc.Spells label (u.doc.spelling label)
  | .addReference label scope _ _ => scope < u.view.scopes.size ∧ label ∉ u.view.tracked ∧
    u.doc.Spells label (u.doc.spelling label)
  | .removeReference label => label ∈ u.view.recorded
  | .removeBinding b => b ∈ u.view.held
  | .renameBinding b _ => b ∈ u.view.held
  | .rename .. => True
  | .renameGlobal .. => True
  | .merge .. => True
  | .edit doc => ∀ l ∈ u.view.tracked, doc.Spells l (u.doc.spelling l)

instance (u : Upkeep) : (c : Change) → Decidable (u.Allowed c)
  | .declare .. => inferInstanceAs (Decidable (_ ∧ _ ∧ _))
  | .addReference .. => inferInstanceAs (Decidable (_ ∧ _ ∧ _))
  | .removeReference label => inferInstanceAs (Decidable (label ∈ u.view.recorded))
  | .removeBinding b => inferInstanceAs (Decidable (b ∈ u.view.held))
  | .renameBinding b _ => inferInstanceAs (Decidable (b ∈ u.view.held))
  | .rename .. => inferInstanceAs (Decidable True)
  | .renameGlobal .. => inferInstanceAs (Decidable True)
  | .merge .. => inferInstanceAs (Decidable True)
  | .edit doc => inferInstanceAs (Decidable (∀ l ∈ u.view.tracked, doc.Spells l (u.doc.spelling l)))

/-- Carries changes out one after the other. -/
def run (u : Upkeep) (changes : List Change) : Upkeep := changes.foldl apply u

/-- Whether changes may be made one after the other. -/
def AllAllowed (u : Upkeep) : List Change → Prop
  | [] => True
  | c :: rest => u.Allowed c ∧ (u.apply c).AllAllowed rest

instance decidableAllAllowed : (u : Upkeep) → (changes : List Change) → Decidable (u.AllAllowed changes)
  | _, [] => inferInstanceAs (Decidable True)
  | u, c :: rest =>
    have := decidableAllAllowed (u.apply c) rest
    inferInstanceAs (Decidable (_ ∧ _))

/-! ### What each change keeps -/

/-- **Whether view and document are in step**: each name has one owner and is spelled as that is
called, and global writes are among the global uses. -/
structure InStep (u : Upkeep) : Prop where
  filed : u.view.Filed
  spelled : ∀ {o l}, u.view.Owns o l → u.doc.Spells l (u.view.nameOf o)
  apart : ∀ {o o' l}, u.view.Owns o l → u.view.Owns o' l → o = o'
  writes : ∀ x l, (listed u.view.globalWrites x).count l ≤ (listed u.view.globals x).count l

namespace InStep

variable {u u' : Upkeep}

/-- A change that hands names over from owner to owner, and may let one name in. -/
theorem handOver (h : u.InStep) (hfiled : u'.view.Filed)
    (hspelled : ∀ {o l}, u'.view.Owns o l → u'.doc.Spells l (u'.view.nameOf o))
    (hwrites : ∀ x l,
      (listed u'.view.globalWrites x).count l ≤ (listed u'.view.globals x).count l)
    (moves : Owner → Owner) (new : Owner)
    (howns : ∀ {o l}, u'.view.Owns o l → (∃ o', u.view.Owns o' l ∧ o = moves o') ∨
      o = new ∧ ∀ o', ¬u.view.Owns o' l) : u'.InStep := by
  refine ⟨hfiled, hspelled, fun {o o' l} ho ho' => ?_, hwrites⟩
  rcases howns ho with ⟨p, hp, rfl⟩ | ⟨rfl, hnone⟩
  · rcases howns ho' with ⟨p', hp', rfl⟩ | ⟨-, hnone⟩
    · rw [h.apart hp hp']
    · exact absurd hp (hnone p)
  · rcases howns ho' with ⟨p', hp', -⟩ | ⟨rfl, -⟩
    · exact absurd hp' (hnone p')
    · rfl

/-- What is not tracked has no owner. -/
theorem not_owns (h : u.InStep) {l : Nat} (hl : l ∉ u.view.tracked) (o : Owner) : ¬u.view.Owns o l :=
  fun ho => hl (h.filed.mem_tracked.mpr ⟨o, ho⟩)

/-! ### Names that come in -/

section Names

variable {k l : Nat} {x : String}

/-- **A name that is declared.** -/
theorem declare (h : u.InStep) (hk : k < u.view.scopes.size) (hnew : ∀ o, ¬u.view.Owns o l)
    (hx : u.doc.Spells l x) (kind : String) (node : Option Tree) :
    InStep ⟨(u.view.declare k l x kind node).1, u.doc⟩ := by
  have hfiled := filed_declare l kind node h.filed (x := x) hk
  obtain ⟨hglobals, hwrites⟩ := @globals_declare u.view k x l kind node
  refine h.handOver hfiled (fun ho => ?_) ?_ id
    (.binding (u.view.declare k l x kind node).2) (fun ho => ?_)
  · rcases owns_declare l kind node h.filed hk ho with hold | ⟨rfl, rfl⟩
    · -- what is bound stays bound to the same binding, so owners keep their names
      have hname := nameOf_eq hfiled h.filed (fun {k' x' b} hb => by
        rw [boundIn_declare l kind node hk]
        split
        · rename_i hc
          rw [hc.1, hc.2] at hb
          rcases declare_snd l kind node h.filed (k := k) (x := x) with ⟨hnone, -⟩ | hsome
          · rw [hnone] at hb
            cases hb
          · exact hsome.symm.trans hb
        · exact hb) hold
      rw [← hname]
      exact h.spelled hold
    · rw [nameOf, (named_declare _ kind node h.filed).2]
      exact hx
  · rw [hglobals, hwrites]
    exact h.writes
  · rcases owns_declare l kind node h.filed hk ho with hold | ⟨rfl, rfl⟩
    · exact .inl ⟨_, hold, rfl⟩
    · exact .inr ⟨rfl, hnew⟩

/-- **A name that is used.** -/
theorem addReference (h : u.InStep) (hnew : ∀ o, ¬u.view.Owns o l) (hx : u.doc.Spells l x) (k : Nat)
    (parent : Option (Nat × String)) (writes : Bool) :
    InStep ⟨(u.view.addReference l x k parent writes).1, u.doc⟩ := by
  have hfiled := filed_addReference l k parent writes h.filed (x := x)
  have hscopes := scopes_addReference l k parent writes (s := u.view) (x := x)
  refine h.handOver hfiled (fun ho => ?_) (fun y m => ?_) id (u.view.ownerOf k x) (fun ho => ?_)
  · rw [nameOf_eq h.filed hfiled (fun hb => by rwa [boundIn_of_scopes hscopes] at hb) ho]
    rcases owns_addReference l k parent writes h.filed ho with hold | ⟨rfl, rfl⟩
    · exact h.spelled hold
    · rw [nameOf_ownerOf h.filed]
      exact hx
  · cases hl : u.view.lookup k x with
    | some b =>
      rw [addReference_of_found l k parent writes hl]
      exact h.writes y m
    | none =>
      have hle := h.writes y m
      rw [addReference_of_missing l k parent writes hl]
      cases writes
      · dsimp only
        rw [if_neg (by simp), listed_pushLabel]
        split
        · rename_i hy
          rw [count_push, ← hy]
          exact Nat.le_add_right_of_le hle
        · exact hle
      · dsimp only
        rw [if_pos rfl, listed_pushLabel, listed_pushLabel]
        split
        · rename_i hy
          rw [count_push, count_push, ← hy]
          exact Nat.add_le_add_right hle _
        · exact hle
  · rcases owns_addReference l k parent writes h.filed ho with hold | ⟨rfl, rfl⟩
    · exact .inl ⟨_, hold, rfl⟩
    · exact .inr ⟨rfl, hnew⟩

end Names

/-! ### Names that go -/

/-- **A use that is forgotten.** -/
theorem removeReference (h : u.InStep) (l : Nat) (x : String) :
    InStep ⟨u.view.removeReference l x, u.doc⟩ := by
  have hfiled := filed_removeReference l h.filed (x := x)
  have hscopes := scopes_removeReference l (s := u.view) (x := x)
  refine h.handOver hfiled (fun ho => ?_) (fun y m => ?_) id (.global x) fun ho =>
    .inl ⟨_, owns_removeReference l h.filed ho, rfl⟩
  · rw [nameOf_eq h.filed hfiled (fun hb => by rwa [boundIn_of_scopes hscopes] at hb) ho]
    exact h.spelled (owns_removeReference l h.filed ho)
  · have hle := h.writes y m
    cases hb : u.view.bindingFor l with
    | some b =>
      rw [removeReference_of_bound l hb]
      exact hle
    | none =>
      rw [removeReference_of_global l hb]
      dsimp only
      rw [listed_dropLabel, listed_dropLabel]
      split
      · rename_i hy
        rw [← hy, Array.count_erase, Array.count_erase]
        exact Nat.sub_le_sub_right hle _
      · exact hle

/-- **A binding that is removed.** -/
theorem removeBinding (h : u.InStep) {b : Nat} (hb : u.view.Holds b) :
    InStep ⟨u.view.removeBinding b, u.doc⟩ := by
  have hfiled := filed_removeBinding h.filed hb
  refine h.handOver hfiled (fun ho => ?_) h.writes id (.binding b) fun ho =>
    .inl ⟨_, (owns_removeBinding h.filed hb ho).1, rfl⟩
  have hkept {k : Nat} {x : String} {b' : Nat}
      (hb' : (u.view.removeBinding b).boundIn k x = some b') : u.view.boundIn k x = some b' :=
    (h.filed.boundIn_of_unbind hb hb').1
  rw [nameOf_eq h.filed hfiled hkept ho]
  exact h.spelled (owns_removeBinding h.filed hb ho).1

/-! ### Names that are renamed -/

/-- Names that somebody owns have a spelling, so they can be respelled. -/
theorem spells_rename (h : u.InStep) {o : Owner} {l : Nat} (ho : u.view.Owns o l) {labels : List Nat}
    (hlabels : ∀ m ∈ labels, ∃ p, u.view.Owns p m) (new : String) :
    (u.doc.rename labels new).Spells l (if l ∈ labels then new else u.view.nameOf o) :=
  (h.spelled ho).rename (fun m hm => (hlabels m hm).elim fun _ hp => ⟨_, h.spelled hp⟩) new

/-- **A binding that is renamed**, also to a name that is taken. -/
theorem renameBinding (h : u.InStep) {b : Nat} (hb : u.view.Holds b) (new : String) :
    (u.respell (u.view.renameBinding b new) new).InStep := by
  refine h.handOver (filed_renameBinding new h.filed hb) (fun {o l} ho => ?_) h.writes id
    (.binding b) fun ho => .inl ⟨_, owns_renameBinding new h.filed hb ho, rfl⟩
  have hold := owns_renameBinding new h.filed hb ho
  -- the names of the binding are those that are respelled
  have hmine : l ∈ (u.view.binding b).identifiers ↔ o = .binding b := by
    constructor
    · exact fun hl => h.apart hold ⟨hb, hl⟩
    · rintro rfl
      exact hold.2
  have hspelled := h.spells_rename hold (fun m hm => ⟨.binding b, hb, hm⟩) new
  have hname := nameOf_renameBinding new h.filed hold (b := b)
  rw [respell, hname]
  simp only [hmine] at hspelled
  exact hspelled

/-- **A name that is renamed** where it is bound. -/
theorem renameFrom (h : u.InStep) (k : Nat) (old new : String) :
    (u.respell (u.view.renameFrom k old new) new).InStep := by
  have hsame : (u.respell (u.view, []) new).InStep := h
  rw [ScopeTree.renameFrom]
  split
  · exact hsame
  · split
    · rename_i b hb
      obtain ⟨i, hi⟩ := exists_boundIn_of_lookup hb
      exact h.renameBinding ⟨i, old, hi⟩ new
    · exact hsame

/-- **A global name that is renamed.** -/
theorem renameGlobal (h : u.InStep) (old new : String) :
    (u.respell (u.view.renameGlobal old new) new).InStep := by
  have hlabels : ∀ m ∈ (listed u.view.globals old).toList, ∃ p, u.view.Owns p m :=
    fun m hm => ⟨.global old, Array.mem_toList_iff.mp hm⟩
  refine h.handOver (filed_renameGlobal h.filed old new) (fun {o l} ho => ?_) (fun y m => ?_)
    (fun o => if o = .global old then .global new else o) (.global old) (fun ho => .inl ?_)
  · rcases owns_renameGlobal ho with ⟨hold, hne⟩ | ⟨rfl, hold⟩
    · have hl : l ∉ (listed u.view.globals old).toList := fun hl =>
        hne (h.apart hold (show u.view.Owns (.global old) l from Array.mem_toList_iff.mp hl))
      have hspelled := h.spells_rename hold hlabels new
      rw [if_neg hl] at hspelled
      cases o <;> exact hspelled
    · have hspelled := h.spells_rename hold hlabels new
      rwa [if_pos (Array.mem_toList_iff.mpr hold)] at hspelled
  · have hle := h.writes y m
    have hmoved := h.writes old m
    show (listed (moveLabels u.view.globalWrites old new) y).count m ≤
      (listed (moveLabels u.view.globals old new) y).count m
    rw [listed_moveLabels, listed_moveLabels, Array.count_append, Array.count_append]
    refine Nat.add_le_add ?_ ?_
    · split
      · exact Nat.le_refl _
      · exact hle
    · split
      · exact hmoved
      · exact Nat.le_refl _
  · rcases owns_renameGlobal ho with ⟨hold, hne⟩ | ⟨rfl, hold⟩
    · exact ⟨_, hold, (if_neg hne).symm⟩
    · exact ⟨_, hold, (if_pos rfl).symm⟩

/-- **Two names that are merged.** -/
theorem merge (h : u.InStep) (k : Nat) (name into : String) :
    (u.apply (.merge k name into)).InStep := by
  rcases merge_cases u.view k name into with ⟨b, target, hb, ht, hne⟩ | hnothing
  · obtain ⟨i, hi⟩ := exists_boundIn_of_lookup hb
    have huses {l : Nat} (hl : l ∈ usesOf (u.view.binding b)) : u.view.Owns (.binding b) l :=
      ⟨⟨i, name, hi⟩, mem_identifiers_of_usesOf hl⟩
    have hlabels : ∀ m ∈ (usesOf (u.view.binding b)).toList, ∃ p, u.view.Owns p m :=
      fun m hm => ⟨.binding b, huses (Array.mem_toList_iff.mp hm)⟩
    have hfiled := filed_merge hb ht hne h.filed
    have happly : u.apply (.merge k name into) = ⟨(u.view.merge k name into).1,
        u.doc.rename (usesOf (u.view.binding b)).toList
          ((u.view.merge k name into).1.nameOf (.binding target))⟩ := by
      rw [apply, merge_of_ne hb ht hne]
      rfl
    rw [happly]
    refine h.handOver hfiled (fun {o l} ho => ?_) ?_
      (fun o => if o = .binding b then .binding target else o) (.binding b) (fun ho => .inl ?_)
    · rcases owns_merge hb ht hne h.filed ho with ⟨hold, hother⟩ | ⟨rfl, hl⟩
      · have hl : l ∉ (usesOf (u.view.binding b)).toList := fun hl =>
          hother (h.apart hold (huses (Array.mem_toList_iff.mp hl)))
        have hspelled := h.spells_rename hold hlabels
          ((u.view.merge k name into).1.nameOf (.binding target))
        rw [if_neg hl] at hspelled
        rw [nameOf_eq h.filed hfiled (boundIn_of_merge hb ht hne h.filed) ho]
        exact hspelled
      · have hspelled := h.spells_rename (huses hl) hlabels
          ((u.view.merge k name into).1.nameOf (.binding target))
        rwa [if_pos (Array.mem_toList_iff.mpr hl)] at hspelled
    · rw [merge_of_ne hb ht hne]
      exact h.writes
    · rcases owns_merge hb ht hne h.filed ho with ⟨hold, hother⟩ | ⟨rfl, hl⟩
      · exact ⟨_, hold, (if_neg hother).symm⟩
      · exact ⟨_, huses hl, (if_pos rfl).symm⟩
  · have happly : u.apply (.merge k name into) = u.respell (u.view, []) into := by
      rw [apply, hnothing]
    rw [happly]
    exact h

/-- **Every change keeps view and document in step.** -/
theorem apply (h : u.InStep) {c : Change} (hc : u.Allowed c) : (u.apply c).InStep := by
  cases c with
  | declare k l kind node =>
    obtain ⟨hk, hl, hx⟩ := hc
    exact h.declare hk (h.not_owns hl) hx kind node
  | addReference l k parent writes =>
    obtain ⟨-, hl, hx⟩ := hc
    exact h.addReference (h.not_owns hl) hx k parent writes
  | removeReference l => exact h.removeReference l _
  | removeBinding b => exact h.removeBinding (h.filed.mem_held.mp hc)
  | renameBinding b new => exact h.renameBinding (h.filed.mem_held.mp hc) new
  | rename k old new => exact h.renameFrom k old new
  | renameGlobal old new => exact h.renameGlobal old new
  | merge k name into => exact h.merge k name into
  | edit doc =>
    refine ⟨h.filed, fun {o l} ho => ?_, h.apart, h.writes⟩
    have hspelled := hc l (h.filed.mem_tracked.mpr ⟨o, ho⟩)
    rwa [(h.spelled ho).spelling_eq] at hspelled

/-- **All changes.** -/
theorem run (h : u.InStep) {changes : List Change} (hall : u.AllAllowed changes) :
    (u.run changes).InStep := by
  induction changes generalizing u with
  | nil => exact h
  | cons c rest ih => exact ih (h.apply hall.1) hall.2

end InStep

/-! ### The scopes themselves -/

theorem bare_editScope {s : ScopeTree} {f : Scope → Scope} (hf : ∀ c, (f c).bare = c.bare) (id : Nat) :
    (s.editScope id f).scopes.map Scope.bare = s.scopes.map Scope.bare := by
  refine Array.ext_getElem? fun i => ?_
  rw [editScope, Array.getElem?_map, Array.getElem?_map, Array.getElem?_modify]
  split
  · cases s.scopes[i]? with
    | none => rfl
    | some c => exact congrArg some (hf c)
  · rfl

theorem bare_unbind (s : ScopeTree) (b : Nat) :
    (s.unbind b).scopes.map Scope.bare = s.scopes.map Scope.bare := by
  refine bare_editScope (fun c => ?_) _
  split <;> rfl

theorem bare_renameBinding (s : ScopeTree) (b : Nat) (new : String) :
    (s.renameBinding b new).1.scopes.map Scope.bare = s.scopes.map Scope.bare := by
  let unbound := (s.unbind b).editBinding b fun binding => { binding with name := new }
  have hput : (s.renameBinding b new).1.scopes.map Scope.bare = unbound.scopes.map Scope.bare :=
    @bare_editScope unbound (fun c => { c with bindings := putKey c.bindings new b }) (fun _ => rfl)
      (s.binding b).scope
  rw [hput]
  exact bare_unbind s b

theorem bare_declare (s : ScopeTree) (k l : Nat) (x kind : String) (node : Option Tree) :
    (s.declare k l x kind node).1.scopes.map Scope.bare = s.scopes.map Scope.bare := by
  rw [ScopeTree.declare]
  dsimp only
  split
  · refine bare_editScope ?_ k
    exact fun _ => rfl
  · dsimp only
    split <;> rfl

theorem bare_renameFrom (s : ScopeTree) (k : Nat) (old new : String) :
    (s.renameFrom k old new).1.scopes.map Scope.bare = s.scopes.map Scope.bare := by
  rw [renameFrom]
  split
  · rfl
  · split
    · exact bare_renameBinding s _ new
    · rfl

theorem bare_merge (s : ScopeTree) (k : Nat) (name into : String) :
    (s.merge k name into).1.scopes.map Scope.bare = s.scopes.map Scope.bare := by
  rcases merge_cases s k name into with ⟨b, target, hb, ht, hne⟩ | hnothing
  · rw [merge_of_ne hb ht hne]
    exact bare_unbind (s.handedOver b target) b
  · rw [hnothing]

/-- No change opens a scope, closes one or moves it. -/
theorem bare_apply (u : Upkeep) (c : Change) :
    (u.apply c).view.scopes.map Scope.bare = u.view.scopes.map Scope.bare := by
  cases c with
  | declare k l kind node => exact bare_declare u.view k l _ kind node
  | addReference l k parent writes => rw [apply, scopes_addReference]
  | removeReference l => rw [apply, scopes_removeReference]
  | removeBinding b => exact bare_unbind u.view b
  | renameBinding b new => exact bare_renameBinding u.view b new
  | rename k old new => exact bare_renameFrom u.view k old new
  | renameGlobal old new => rfl
  | merge k name into => exact bare_merge u.view k name into
  | edit doc => rfl

theorem bare_run (u : Upkeep) (changes : List Change) :
    (u.run changes).view.scopes.map Scope.bare = u.view.scopes.map Scope.bare := by
  induction changes generalizing u with
  | nil => rfl
  | cons c rest ih => exact (ih (u.apply c)).trans (bare_apply u c)

/-! ### The start -/

/-- The view of a program, with the program as the document. -/
def start (view : ScopeTree) (p : Program) : Upkeep := ⟨view, ⟨p.tree, [], p.next⟩⟩

section Start

variable {source : String} {p : Program} (h : Program.read source = .ok p)

include h

/-- A name of a program is spelled as the walk over it has found. -/
theorem spells_of_namedAs {l : Nat} {x : String} (hx : NamedAs p.tree l x) :
    Document.Spells ⟨p.tree, [], p.next⟩ l x := by
  obtain ⟨e, ⟨q, hq, he⟩, hl, hname⟩ := hx
  have hp := Program.is_of_read h
  have hlabels := Program.nodup_labels_of_read h
  obtain ⟨hql, -⟩ := Site.name_of_mem_events he hl
  have hrecords : (⟨p.tree, [], p.next⟩ : Document).records = p.tree.records := List.append_nil _
  have hmem : q.node ∈ p.tree.records := Tree.subtree_subset_records hp.2.isObj hq.mem_subtree
  refine ⟨List.ne_nil_of_mem (Document.mem_recordsAt.mpr ⟨hrecords ▸ hmem, hql⟩), fun r hr => ?_⟩
  obtain ⟨hr, hrl⟩ := Document.mem_recordsAt.mp hr
  rw [hrecords] at hr
  obtain rfl := Tree.eq_of_label_eq hlabels hp.2.isObj hq.mem_subtree hr (hrl.trans hql.symm)
  obtain ⟨y, hy⟩ := exists_name_of_named hp hlabels ⟨e, ⟨q, hq, he⟩, hrl ▸ hl⟩ hr
  have hget : (q.node.get "name").str? = some y := by rw [Tree.get_of_get? hy]; rfl
  rw [hget, Site.name?_of_mem_events he hname, hget, Option.getD_some]

theorem inStep_start {view : ScopeTree} (hv : build p.tree = .ok view) : (start view p).InStep := by
  obtain ⟨notes, -, ht, rfl⟩ := exists_notes h hv
  refine ht.induct (P := fun s => InStep ⟨s, ⟨p.tree, [], p.next⟩⟩) (fun hs => hs.filed) ?_ ?_ ?_ ?_
  · intro s t hsame hs
    refine ⟨hsame.filed hs.filed, fun ho => ?_, fun ho ho' => ?_, ?_⟩
    · rw [hsame.nameOf]
      rw [hsame.owns] at ho
      exact hs.spelled ho
    · rw [hsame.owns] at ho ho'
      exact hs.apart ho ho'
    · rw [hsame.globals, hsame.globalWrites]
      exact hs.writes
  · intro s k l x kind node hk hnew hx hs
    exact hs.declare hk hnew (spells_of_namedAs h hx) kind node
  · intro s l x k parent writes hnew hx hs
    exact hs.addReference hnew (spells_of_namedAs h hx) k parent writes
  · exact ⟨filed_opening _, fun ho => absurd ho (not_owns_opening _ _),
      fun ho => absurd ho (not_owns_opening _ _), fun _ _ => Nat.le_refl _⟩

end Start

/-! ### Any changes to the view of any program -/

/-- **Whether names are filed as they are spelled.** Every entry of a scope is a binding of that name in
that scope, and all names that the binding knows of are spelled so; the uses of a global name are
spelled as the name, and those that write to it are among them. -/
structure Consistent (u : Upkeep) : Prop where
  bindings : ∀ (k : Nat) (c : Scope), u.view.scopes[k]? = some c → ∀ x b, (x, b) ∈ c.bindings →
    ∃ binding, u.view.bindings[b]? = some binding ∧ binding.name = x ∧ binding.scope = k ∧
      ∀ l ∈ binding.identifiers, u.doc.Spells l x
  globals : ∀ x labels, (x, labels) ∈ u.view.globals → ∀ l ∈ labels, u.doc.Spells l x
  globalWrites : ∀ x labels, (x, labels) ∈ u.view.globalWrites → ∀ l ∈ labels,
    ∃ uses, (x, uses) ∈ u.view.globals ∧ l ∈ uses

theorem InStep.consistent {u : Upkeep} (h : u.InStep) : u.Consistent := by
  refine ⟨fun k c hc x b hx => ?_, fun x labels hx l hl => ?_, fun x labels hx l hl => ?_⟩
  · have hb := h.filed.boundIn_iff.mpr ⟨c, hc, hx⟩
    obtain ⟨hlt, hscope, hname⟩ := h.filed.named hb
    have hget := Array.getElem?_eq_getElem hlt
    have hself : u.view.binding b = u.view.bindings[b] := by rw [binding, hget, Option.getD_some]
    refine ⟨_, hget, hself ▸ hname, hself ▸ hscope, fun l hl => ?_⟩
    have hspelled := h.spelled (show u.view.Owns (.binding b) l from ⟨⟨k, x, hb⟩, hself ▸ hl⟩)
    rwa [nameOf, hname] at hspelled
  · refine h.spelled (show u.view.Owns (.global x) l from ?_)
    rw [Owns, listed, h.filed.globals.mem_iff.mp hx]
    exact hl
  · have hpos : 0 < (listed u.view.globalWrites x).count l := by
      rw [listed, h.filed.globalWrites.mem_iff.mp hx]
      exact Array.count_pos_iff.mpr hl
    have hmem := Array.count_pos_iff.mp (Nat.lt_of_lt_of_le hpos (h.writes x l))
    rw [listed] at hmem
    cases hx : u.view.globals.lookup x with
    | none => simp [hx] at hmem
    | some uses =>
      rw [hx] at hmem
      exact ⟨uses, mem_of_lookup hx, hmem⟩

/-- **Names stay consistent.** A program that has been read has a view, and whatever changes are made to
it, one after the other: names are filed as they are spelled, and the scopes are those of the program,
nested as they were. -/
theorem names_stay_consistent {source : String} {p : Program} (h : Program.read source = .ok p) :
    ∃ view, build p.tree = .ok view ∧ ∀ changes, (start view p).AllAllowed changes →
      ((start view p).run changes).Consistent ∧
        ((start view p).run changes).view.scopes.map Scope.bare = view.scopes.map Scope.bare := by
  obtain ⟨notes, hw, -⟩ := exists_tells (Program.is_of_read h) (Program.labelled_of_read h)
  have hv : build p.tree = .ok (ofNotes p.tree.label notes) := by
    rw [build, hw]
    rfl
  refine ⟨_, hv, fun changes hall => ?_⟩
  exact ⟨((inStep_start h hv).run hall).consistent, bare_run _ changes⟩

/-- A binding that is merged into another, which then takes the name of a third, and a global name that
is renamed to a name in use. -/
theorem names_stay_consistent_taken : ∃ p view,
    Program.read "var a = 1, b = 2, c = 3; d(a, b, c);" = .ok p ∧ build p.tree = .ok view ∧
      (start view p).AllAllowed [.merge 0 "b" "a", .renameBinding 0 "c", .renameGlobal "d" "c"] ∧
      ((start view p).run
        [.merge 0 "b" "a", .renameBinding 0 "c", .renameGlobal "d" "c"]).Consistent := by
  obtain ⟨p, view, hp, hv, hcheck⟩ := @exists_of_check "var a = 1, b = 2, c = 3; d(a, b, c);"
    (fun p view => decide
      ((start view p).AllAllowed [.merge 0 "b" "a", .renameBinding 0 "c", .renameGlobal "d" "c"]))
    (by decide +kernel)
  have hall := of_decide_eq_true hcheck
  obtain ⟨view', hv', hkept⟩ := names_stay_consistent hp
  obtain rfl : view' = view := Except.ok.inj (hv'.symm.trans hv)
  exact ⟨p, view', hp, hv, hall, (hkept _ hall).1⟩

end Upkeep

end Deminify
