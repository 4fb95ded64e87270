import Deminify.Proofs.Scope.Upkeep

/-!
# The index of bindings

A view knows the binding of a name by its label, apart from the lists in which the bindings keep their
names. The two tell the same of the view of a program, and nearly every change updates both alike
(`Deminify.ScopeTree.Indexed`).

What stands out is a name that a binding has in two of its lists: one that declares the binding once
more and gives it a value counts as a declaration and as a write. Two changes take such a name for one
of the two only. Forgetting its use takes it out of the index, although it still declares the binding;
and merging the binding into another hands the name over as a use, after which the removal of the first
binding takes its declarations out of the index, this name included. A change that does neither *spares*
the names that are listed twice (`Deminify.Upkeep.Spares`).

So **the index agrees with the lists for as long as all changes spare such names, and no longer**
(`Deminify.Upkeep.index_agrees_iff`). That the second part is not empty is
`Deminify.Upkeep.index_fails_merged`: one merge in a program of three declarations.
-/

namespace Deminify

namespace Binding

/-- The labels of the names that declare a binding. -/
def declaring (b : Binding) : List Nat := b.identifier :: b.redeclarations.toList

end Binding

namespace ScopeTree

/-! ### Tables by label -/

section Tables

variable {α : Type} (table : Std.TreeMap Nat α) (labels : List Nat) (m : Nat)

/-- A label that is taken out of the index is unknown. -/
theorem get?_erase (l : Nat) : (table.erase l).get? m = if l = m then none else table.get? m := by
  rw [Std.TreeMap.get?_eq_getElem?, Std.TreeMap.getElem?_erase]
  simp

/-- Labels that are taken out of the index are unknown. -/
theorem get?_eraseAll : (labels.foldl (fun table l => table.erase l) table).get? m =
    if m ∈ labels then none else table.get? m := by
  induction labels generalizing table with
  | nil => simp
  | cons l rest ih =>
    rw [List.foldl_cons, ih, get?_erase]
    by_cases hm : m ∈ rest
    · simp [hm]
    · simp [hm, eq_comm]

/-- Labels that are put into the index lead to the binding. -/
theorem get?_insertAll (a : α) : (labels.foldl (fun table l => table.insert l a) table).get? m =
    if m ∈ labels then some a else table.get? m := by
  induction labels generalizing table with
  | nil => simp
  | cons l rest ih =>
    rw [List.foldl_cons, ih, get?_insert]
    by_cases hm : m ∈ rest
    · simp [hm]
    · simp [hm, eq_comm]

end Tables

/-! ### What the index knows -/

/-- **Whether the index agrees with the lists**: the names that a binding knows of, if some scope holds
it, are known to be its own. -/
def IndexAgrees (s : ScopeTree) : Prop :=
  ∀ b ∈ s.held, ∀ l ∈ (s.binding b).identifiers, s.bindingFor l = some b

instance (s : ScopeTree) : Decidable s.IndexAgrees :=
  inferInstanceAs (Decidable (∀ b ∈ s.held, ∀ l ∈ (s.binding b).identifiers, s.bindingFor l = some b))

/-- What is known of the index along with its agreement: a name is a use of its binding once. -/
structure Indexed (s : ScopeTree) : Prop where
  agrees : ∀ {b l}, s.Owns (.binding b) l → s.bindingFor l = some b
  once : ∀ {b} l, s.Holds b → (usesOf (s.binding b)).count l ≤ 1

/-- The index agrees if each name of a binding leads to it. -/
theorem indexAgrees_iff {s : ScopeTree} (h : s.Filed) :
    s.IndexAgrees ↔ ∀ {b l}, s.Owns (.binding b) l → s.bindingFor l = some b := by
  constructor
  · exact fun ha b l ho => ha b (h.mem_held.mpr ho.1) l ho.2
  · exact fun ha b hb l hl => ha ⟨h.mem_held.mp hb, hl⟩

section Changes

variable {s t : ScopeTree} {k b l : Nat} {x : String}

theorem Indexed.congr (h : s.Indexed) (hsame : SameFiling s t) : t.Indexed := by
  refine ⟨fun {b l} ho => ?_, fun {b} l hb => ?_⟩
  · rw [hsame.owns] at ho
    rw [bindingFor, hsame.bindingOf]
    exact h.agrees ho
  · rw [Holds, hsame.boundIn] at hb
    rw [hsame.binding]
    exact h.once l hb

/-- What declares a binding is a name of it. -/
theorem mem_identifiers_of_declaring {binding : Binding} (h : l ∈ binding.declaring) :
    l ∈ binding.identifiers :=
  mem_identifiers_iff.mpr ((List.mem_cons.mp h).imp_right fun h => .inl (Array.mem_toList_iff.mp h))

theorem count_usesOf_eq_zero {binding : Binding} (h : l ∉ binding.identifiers) :
    (usesOf binding).count l = 0 :=
  Array.count_eq_zero.mpr fun hl => h (mem_identifiers_of_usesOf hl)

theorem count_withoutUse_le (l m : Nat) (binding : Binding) :
    (usesOf (withoutUse l binding)).count m ≤ (usesOf binding).count m := by
  have herase (labels : Array Nat) : (without labels l).count m ≤ labels.count m := by
    rw [without, Array.count_erase]
    exact Nat.sub_le _ _
  rw [usesOf, usesOf, Array.count_append, Array.count_append]
  exact Nat.add_le_add (herase _) (herase _)

/-- A name that nothing owns may become a use. -/
theorem Indexed.count_le (h : s.Indexed) (hb : s.Holds b) (hnew : ∀ o, ¬s.Owns o l) {n : Nat}
    (m : Nat) (hn : n ≤ (usesOf (s.binding b)).count m + if l = m then 1 else 0) : n ≤ 1 := by
  by_cases hl : l = m
  · subst hl
    rwa [count_usesOf_eq_zero fun hl => hnew (.binding b) ⟨hb, hl⟩, if_pos rfl] at hn
  · rw [if_neg hl] at hn
    exact Nat.le_trans hn (h.once m hb)

/-! ### Names that come in -/

/-- The index is kept by the declaration of a new name. -/
theorem Indexed.declare (h : s.Indexed) (hs : s.Filed) (hk : k < s.scopes.size)
    (hnew : ∀ o, ¬s.Owns o l) (kind : String) (node : Option Tree) :
    (s.declare k l x kind node).1.Indexed := by
  refine ⟨fun {b m} ho => ?_, fun {b} m hb => ?_⟩
  · rw [bindingFor, bindingOf_declare]
    rcases owns_declare l kind node hs hk ho with hold | ⟨he, rfl⟩
    · have hne : l ≠ m := fun hl => hnew _ (hl ▸ hold)
      rw [if_neg hne]
      exact h.agrees hold
    · rw [if_pos rfl, Owner.binding.inj he]
  · obtain ⟨i, y, hb⟩ := hb
    rw [boundIn_declare l kind node hk] at hb
    rw [binding_declare l kind node hs]
    split at hb
    · cases hb
      rw [if_pos rfl]
      split
      · simp [usesOf]
      · rename_i hsome
        rcases declare_snd l kind node hs (k := k) (x := x) with ⟨hnone, -⟩ | hbound
        · exact absurd hnone hsome
        · refine h.count_le ⟨k, x, hbound⟩ hnew m ?_
          unfold Binding.declaredAgain
          split
          · exact Nat.le_add_right _ _
          · cases node.any initializes <;> simp [usesOf, Array.count_push, Nat.add_assoc]
    · rename_i hc
      rw [if_neg (ne_declare l kind node hs hb hc)]
      exact h.once m ⟨i, y, hb⟩

/-- The index is kept by a new use. -/
theorem Indexed.addReference (h : s.Indexed) (hs : s.Filed) (hnew : ∀ o, ¬s.Owns o l) (k : Nat)
    (parent : Option (Nat × String)) (writes : Bool) :
    (s.addReference l x k parent writes).1.Indexed := by
  have howns {o : Owner} {m : Nat} (ho : (s.addReference l x k parent writes).1.Owns o m) :=
    owns_addReference l k parent writes hs ho
  cases hl : s.lookup k x with
  | none =>
    have hglobal : s.ownerOf k x = .global x := by rw [ownerOf, hl]
    rw [hglobal] at howns
    rw [addReference_of_missing l k parent writes hl] at howns ⊢
    refine ⟨fun {b m} ho => ?_, h.once⟩
    rcases howns ho with hold | ⟨he, -⟩
    · exact h.agrees hold
    · cases he
  | some b =>
    have hbound : s.ownerOf k x = .binding b := by rw [ownerOf, hl]
    rw [hbound] at howns
    rw [addReference_of_found l k parent writes hl] at howns ⊢
    refine ⟨fun {c m} ho => ?_, fun {c} m hc => ?_⟩
    · rw [bindingFor, get?_insert]
      rcases howns ho with hold | ⟨he, rfl⟩
      · have hne : l ≠ m := fun hl => hnew _ (hl ▸ hold)
        rw [if_neg hne]
        exact h.agrees hold
      · rw [if_pos rfl, Owner.binding.inj he]
    · have hheld : s.Holds c := hc
      obtain ⟨i, y, hc⟩ := hc
      rw [@binding_modify s _ c _ _ rfl (hs.named hc).1]
      split
      · refine h.count_le hheld hnew m (Nat.le_of_eq ?_)
        cases writes <;> simp [withUse, usesOf, Array.count_push] <;> omega
      · exact h.once m hheld

/-! ### Names that go -/

/-- Forgetting a use keeps the index if the name declares nothing. -/
theorem Indexed.removeReference (h : s.Indexed) (hs : s.Filed)
    (hspared : ∀ b, s.Holds b → l ∉ (s.binding b).declaring) : (s.removeReference l x).Indexed := by
  have howns {o : Owner} {m : Nat} (ho : (s.removeReference l x).Owns o m) :=
    owns_removeReference l hs ho
  cases hl : s.bindingFor l with
  | none =>
    rw [removeReference_of_global l hl] at howns ⊢
    exact ⟨fun ho => h.agrees (howns ho), h.once⟩
  | some b =>
    rw [removeReference_of_bound l hl] at howns ⊢
    refine ⟨fun {c m} ho => ?_, fun {c} m hc => ?_⟩
    · have hold := h.agrees (howns ho)
      rw [bindingFor, get?_erase]
      by_cases hm : l = m
      · -- the name would be a use of its binding twice
        subst hm
        obtain rfl : b = c := Option.some.inj (hl.symm.trans hold)
        obtain ⟨hheld, hmem⟩ := ho
        have hb : s.Holds b := hheld
        obtain ⟨i, y, hbound⟩ := hheld
        rw [@binding_modify s _ b _ _ rfl (hs.named hbound).1, if_pos rfl] at hmem
        have hnot := hspared b hb
        have honce := h.once l hb
        rw [usesOf, Array.count_append] at honce
        rw [mem_identifiers_iff, withoutUse, without, without] at hmem
        rcases hmem with hmem | hmem | hmem | hmem
        · exact absurd (List.mem_cons.mpr (.inl hmem)) hnot
        · exact absurd (List.mem_cons.mpr (.inr (Array.mem_toList_iff.mpr hmem))) hnot
        · have hpos := Array.count_pos_iff.mpr hmem
          rw [Array.count_erase_self] at hpos
          omega
        · have hpos := Array.count_pos_iff.mpr hmem
          rw [Array.count_erase_self] at hpos
          omega
      · rw [if_neg hm]
        exact hold
    · have hheld : s.Holds c := hc
      obtain ⟨i, y, hbound⟩ := hc
      have hle := h.once m hheld
      rw [@binding_modify s _ c _ _ rfl (hs.named hbound).1]
      split
      · exact Nat.le_trans (count_withoutUse_le l m _) hle
      · exact hle

/-- Forgetting the use of a name that declares its binding loses it. -/
theorem Indexed.not_removeReference (h : s.Indexed) (hs : s.Filed) (hb : s.Holds b)
    (hl : l ∈ (s.binding b).declaring) : ¬(s.removeReference l x).IndexAgrees := by
  rw [indexAgrees_iff (filed_removeReference l hs)]
  intro hbad
  have hknown := h.agrees (show s.Owns (.binding b) l from ⟨hb, mem_identifiers_of_declaring hl⟩)
  rw [removeReference_of_bound l hknown] at hbad
  have hheld := hb
  obtain ⟨i, y, hbound⟩ := hb
  have hlost := hbad (b := b) (l := l) ⟨hheld, by
    rw [@binding_modify s _ b _ _ rfl (hs.named hbound).1, if_pos rfl]
    exact mem_identifiers_of_declaring hl⟩
  rw [bindingFor, get?_erase, if_pos rfl] at hlost
  cases hlost

/-- What is known of names once a binding is removed: those that declare it are not. -/
theorem bindingFor_removeBinding (m : Nat) : (s.removeBinding b).bindingFor m =
    if m ∈ (s.binding b).declaring then none else s.bindingFor m :=
  get?_eraseAll s.bindingOf (s.binding b).declaring m

/-- The index is kept by the removal of a binding. -/
theorem Indexed.removeBinding (h : s.Indexed) (hs : s.Filed) (hb : s.Holds b) :
    (s.removeBinding b).Indexed := by
  refine ⟨fun {c m} ho => ?_, fun {c} m hc => ?_⟩
  · obtain ⟨hold, hne⟩ := owns_removeBinding hs hb ho
    have hknown := h.agrees hold
    rw [bindingFor_removeBinding, if_neg]
    · exact hknown
    · intro hm
      -- the name would have two bindings
      have hother := h.agrees (show s.Owns (.binding b) m from ⟨hb, mem_identifiers_of_declaring hm⟩)
      rw [hknown] at hother
      exact hne (congrArg Owner.binding (Option.some.inj hother))
  · obtain ⟨i, y, hc⟩ := hc
    exact h.once m ⟨i, y, (hs.boundIn_of_unbind hb hc).1⟩

/-! ### Names that are renamed -/

/-- The index is kept by the renaming of a binding. -/
theorem Indexed.renameBinding (h : s.Indexed) (hs : s.Filed) (hb : s.Holds b) (new : String) :
    (s.renameBinding b new).1.Indexed := by
  refine ⟨fun ho => h.agrees (owns_renameBinding new hs hb ho), fun {c} m hc => ?_⟩
  obtain ⟨i, y, hc⟩ := hc
  have hheld : s.Holds c := by
    rcases hs.boundIn_of_rename new hb hc with ⟨-, -, rfl⟩ | ⟨hc, -⟩
    · exact hb
    · exact ⟨i, y, hc⟩
  have hle := h.once m hheld
  obtain ⟨j, z, hbound⟩ := hheld
  rw [binding_rename new (hs.named hbound).1]
  split <;> exact hle

/-- The index is kept by a renaming as seen from a scope. -/
theorem Indexed.renameFrom (h : s.Indexed) (hs : s.Filed) (k : Nat) (old new : String) :
    (s.renameFrom k old new).1.Indexed := by
  rw [ScopeTree.renameFrom]
  split
  · exact h
  · split
    · rename_i b hb
      obtain ⟨i, hi⟩ := exists_boundIn_of_lookup hb
      exact h.renameBinding hs ⟨i, old, hi⟩ new
    · exact h

/-- The index is kept by the renaming of a global name. -/
theorem Indexed.renameGlobal (h : s.Indexed) (old new : String) :
    (s.renameGlobal old new).1.Indexed :=
  ⟨fun ho => h.agrees ho, fun m hb => h.once m hb⟩

/-! ### Names that are merged -/

section Merge

variable {target : Nat} {name into : String} (hb : s.lookup k name = some b)
  (ht : s.lookup k into = some target) (hne : b ≠ target)

include hb ht hne

/-- What is known of names once a binding is merged into another. -/
theorem bindingFor_merge (hs : s.Filed) (m : Nat) : (s.merge k name into).1.bindingFor m =
    if m ∈ (s.binding b).declaring then none
    else if m ∈ usesOf (s.binding b) then some target else s.bindingFor m := by
  obtain ⟨i, hi⟩ := exists_boundIn_of_lookup hb
  have hdeclaring : ((s.handedOver b target).binding b).declaring = (s.binding b).declaring := by
    rw [binding_handedOver hne (hs.named hi).1, if_pos rfl]
    rfl
  have huses : (s.handedOver b target).bindingFor m =
      if m ∈ usesOf (s.binding b) then some target else s.bindingFor m := by
    rw [bindingFor, handedOver, ← Array.foldl_toList, get?_insertAll]
    simp only [Array.mem_toList_iff]
    rfl
  rw [merge_of_ne hb ht hne, bindingFor_removeBinding, hdeclaring, huses]

/-- Merging keeps the index if no use of the binding declares it. -/
theorem Indexed.merge (h : s.Indexed) (hs : s.Filed)
    (hspared : ∀ l ∈ usesOf (s.binding b), l ∉ (s.binding b).declaring) :
    (s.merge k name into).1.Indexed := by
  obtain ⟨i, hi⟩ := exists_boundIn_of_lookup hb
  obtain ⟨j, hj⟩ := exists_boundIn_of_lookup ht
  have hheld : s.Holds b := ⟨i, name, hi⟩
  have htarget : s.Holds target := ⟨j, into, hj⟩
  have hmine {m : Nat} (hm : m ∈ (s.binding b).identifiers) : s.bindingFor m = some b :=
    h.agrees (show s.Owns (.binding b) m from ⟨hheld, hm⟩)
  refine ⟨fun {c m} ho => ?_, fun {c} m hc => ?_⟩
  · rw [bindingFor_merge hb ht hne hs]
    rcases owns_merge hb ht hne hs ho with ⟨hold, hother⟩ | ⟨he, hm⟩
    · have hknown := h.agrees hold
      have hnot : m ∉ (s.binding b).identifiers := fun hm =>
        hother (congrArg Owner.binding (Option.some.inj (hknown.symm.trans (hmine hm))))
      rw [if_neg (mt mem_identifiers_of_declaring hnot), if_neg (mt mem_identifiers_of_usesOf hnot)]
      exact hknown
    · rw [if_neg (hspared m hm), if_pos hm, Owner.binding.inj he]
  · obtain ⟨i', y, hc⟩ := hc
    have hbound := boundIn_of_merge hb ht hne hs hc
    have hle := h.once m ⟨i', y, hbound⟩
    rw [merge_of_ne hb ht hne]
    show (usesOf ((s.handedOver b target).binding c)).count m ≤ 1
    rw [binding_handedOver hne (hs.named hbound).1]
    split
    · exact Nat.zero_le _
    · split
      · rename_i htc
        subst htc
        have hsum : (usesOf (withUsesOf (s.binding b) (s.binding target))).count m =
            (usesOf (s.binding target)).count m + (usesOf (s.binding b)).count m := by
          simp only [usesOf, withUsesOf, Array.count_append]
          omega
        -- no name is a use of both bindings
        by_cases hm : m ∈ (s.binding b).identifiers
        · have hnot : m ∉ (s.binding target).identifiers := fun hmt =>
            hne (Option.some.inj ((hmine hm).symm.trans
              (h.agrees (show s.Owns (.binding target) m from ⟨htarget, hmt⟩))))
          rw [hsum, count_usesOf_eq_zero hnot, Nat.zero_add]
          exact h.once m hheld
        · rw [hsum, count_usesOf_eq_zero hm, Nat.add_zero]
          exact hle
      · exact hle

/-- Merging a binding that a use of it declares loses that use. -/
theorem Indexed.not_merge (hs : s.Filed) {l : Nat} (hl : l ∈ usesOf (s.binding b))
    (hdeclares : l ∈ (s.binding b).declaring) : ¬(s.merge k name into).1.IndexAgrees := by
  rw [indexAgrees_iff (filed_merge hb ht hne hs)]
  intro hbad
  obtain ⟨i, hi⟩ := exists_boundIn_of_lookup hb
  obtain ⟨j, hj⟩ := exists_boundIn_of_lookup ht
  have hfiled := filed_handedOver hne hs
  have hself := hfiled.boundIn_self (show (s.handedOver b target).boundIn i name = some b from hi)
  have hbound : ((s.handedOver b target).removeBinding b).boundIn j into = some target := by
    show ((s.handedOver b target).unbind b).boundIn j into = some target
    rw [boundIn_unbind hself, if_neg]
    · exact hj
    · rintro ⟨hscope, hname⟩
      rw [← hscope, ← hname] at hself
      exact hne (Option.some.inj (hself.symm.trans hj))
  have hlost := hbad (b := target) (l := l) (by
    rw [merge_of_ne hb ht hne]
    refine ⟨⟨j, into, hbound⟩, ?_⟩
    show l ∈ ((s.handedOver b target).binding target).identifiers
    rw [binding_handedOver hne (hs.named hj).1, if_neg hne, if_pos rfl, mem_identifiers_iff]
    rw [usesOf, Array.mem_append] at hl
    simp only [withUsesOf, Array.mem_append]
    tauto)
  rw [bindingFor_merge hb ht hne hs, if_pos hdeclares] at hlost
  cases hlost

end Merge

end Changes

end ScopeTree

open ScopeTree

namespace Upkeep

/-- **Whether a change spares the names that a binding has in two of its lists.** Forgetting a use does
if the name declares no binding, and merging does if no use of the binding that goes declares it. -/
def Spares (u : Upkeep) : Change → Prop
  | .removeReference label => ∀ b ∈ u.view.held, label ∉ (u.view.binding b).declaring
  | .merge scope name into => ∀ b target, u.view.lookup scope name = some b →
    u.view.lookup scope into = some target → b ≠ target →
      ∀ l ∈ usesOf (u.view.binding b), l ∉ (u.view.binding b).declaring
  | _ => True

/-- Whether all changes do, one after the other. -/
def AllSpare (u : Upkeep) : List Change → Prop
  | [] => True
  | c :: rest => u.Spares c ∧ (u.apply c).AllSpare rest

section Steps

variable {u : Upkeep} {c : Change}

/-- **A change that spares such names keeps the index.** -/
theorem indexed_apply (h : u.InStep) (hi : u.view.Indexed) (hc : u.Allowed c) (hs : u.Spares c) :
    (u.apply c).view.Indexed := by
  cases c with
  | declare k l kind node => exact hi.declare h.filed hc.1 (h.not_owns hc.2.1) kind node
  | addReference l k parent writes =>
    exact hi.addReference h.filed (h.not_owns hc.2.1) k parent writes
  | removeReference l =>
    exact hi.removeReference h.filed fun b hb => hs b (h.filed.mem_held.mpr hb)
  | removeBinding b => exact hi.removeBinding h.filed (h.filed.mem_held.mp hc)
  | renameBinding b new => exact hi.renameBinding h.filed (h.filed.mem_held.mp hc) new
  | rename k old new => exact hi.renameFrom h.filed k old new
  | renameGlobal old new => exact hi.renameGlobal old new
  | merge k name into =>
    show (u.view.merge k name into).1.Indexed
    rcases merge_cases u.view k name into with ⟨b, target, hb, ht, hne⟩ | hnothing
    · exact hi.merge hb ht hne h.filed (hs b target hb ht hne)
    · rw [hnothing]
      exact hi
  | edit doc => exact hi

/-- **A change that does not spare them loses the index.** -/
theorem not_agrees_apply (h : u.InStep) (hi : u.view.Indexed) (hs : ¬u.Spares c) :
    ¬(u.apply c).view.IndexAgrees := by
  cases c with
  | removeReference l =>
    simp only [Spares, not_forall, not_not] at hs
    obtain ⟨b, hb, hl⟩ := hs
    exact hi.not_removeReference h.filed (h.filed.mem_held.mp hb) hl
  | merge k name into =>
    simp only [Spares, not_forall, not_not] at hs
    obtain ⟨b, target, hb, ht, hne, l, hl, hdeclares⟩ := hs
    exact Indexed.not_merge hb ht hne h.filed hl hdeclares
  | _ => exact absurd trivial hs

/-- The index agrees throughout a run if and only if all its changes spare such names. -/
theorem agrees_run_iff {changes : List Change} (h : u.InStep) (hi : u.view.Indexed)
    (hall : u.AllAllowed changes) :
    (∀ n, (u.run (changes.take n)).view.IndexAgrees) ↔ u.AllSpare changes := by
  induction changes generalizing u with
  | nil =>
    refine iff_of_true (fun n => ?_) trivial
    rw [List.take_nil]
    exact (indexAgrees_iff h.filed).mpr hi.agrees
  | cons c rest ih =>
    obtain ⟨hc, hrest⟩ := hall
    by_cases hs : u.Spares c
    · have hrun := ih (h.apply hc) (indexed_apply h hi hc hs) hrest
      constructor
      · exact fun ha => ⟨hs, hrun.mp fun n => ha (n + 1)⟩
      · rintro ⟨-, ha⟩ n
        cases n with
        | zero => exact (indexAgrees_iff h.filed).mpr hi.agrees
        | succ n => exact hrun.mpr ha n
    · exact iff_of_false (fun ha => not_agrees_apply h hi hs (ha 1)) fun ha => hs ha.1

end Steps

/-- The view of a program has its index. -/
theorem indexed_build {source : String} {p : Program} (h : Program.read source = .ok p)
    {view : ScopeTree} (hv : build p.tree = .ok view) : view.Indexed := by
  obtain ⟨notes, -, ht, rfl⟩ := exists_notes h hv
  have hboth := ht.induct (P := fun s => s.Filed ∧ s.Indexed) (fun hs => hs.1)
    (fun hsame hs => ⟨hsame.filed hs.1, hs.2.congr hsame⟩)
    (fun hk hnew _ hs => ⟨filed_declare _ _ _ hs.1 hk, hs.2.declare hs.1 hk hnew _ _⟩)
    (fun hnew _ hs => ⟨filed_addReference _ _ _ _ hs.1, hs.2.addReference hs.1 hnew _ _ _⟩)
    ⟨filed_opening _, fun ho => absurd ho (not_owns_opening _ _), fun {b} l hb => ?_⟩
  · exact hboth.2
  · obtain ⟨k, x, hb⟩ := hb
    rw [boundIn_opening] at hb
    cases hb

/-- **The index agrees with the lists for as long as names that are listed twice are spared.** A program
that has been read has a view, and whatever changes are made to it, one after the other: the index
agrees with the lists throughout if and only if every change spares the names that a binding has in two
of its lists. -/
theorem index_agrees_iff {source : String} {p : Program} (h : Program.read source = .ok p) :
    ∃ view, build p.tree = .ok view ∧ ∀ changes, (start view p).AllAllowed changes →
      ((∀ n, ((start view p).run (changes.take n)).view.IndexAgrees) ↔
        (start view p).AllSpare changes) := by
  obtain ⟨view, hv, -⟩ := names_stay_consistent h
  exact ⟨view, hv, fun changes hall =>
    agrees_run_iff (inStep_start h hv) (indexed_build h hv) hall⟩

/-- A binding that takes the place of another and is then renamed once more. -/
theorem index_agrees_iff_renamed : ∃ p view,
    Program.read "var a = 1; var b = 2; var b = 3; f(a, b);" = .ok p ∧ build p.tree = .ok view ∧
      ∀ n, ((start view p).run
        (List.take n [.renameBinding 1 "a", .rename 0 "a" "f"])).view.IndexAgrees := by
  obtain ⟨p, view, hp, hv, hcheck⟩ := @exists_of_check
    "var a = 1; var b = 2; var b = 3; f(a, b);"
    (fun p view => decide ((start view p).AllAllowed [.renameBinding 1 "a", .rename 0 "a" "f"]))
    (by decide +kernel)
  obtain ⟨view', hv', hagrees⟩ := index_agrees_iff hp
  obtain rfl : view' = view := Except.ok.inj (hv'.symm.trans hv)
  exact ⟨p, view', hp, hv, (hagrees _ (of_decide_eq_true hcheck)).mpr ⟨trivial, trivial, trivial⟩⟩

/-- **A merge that loses a name.** The second declaration of `b` gives it a value, so it is a use as
well; it goes to `a` and is not known any more. -/
theorem index_fails_merged : ∃ p view,
    Program.read "var a = 1; var b = 1; var b = 2;" = .ok p ∧ build p.tree = .ok view ∧
      (start view p).AllAllowed [.merge 0 "b" "a"] ∧
      0 ∈ ((start view p).run [.merge 0 "b" "a"]).view.held ∧
      12 ∈ (((start view p).run [.merge 0 "b" "a"]).view.binding 0).identifiers ∧
      ((start view p).run [.merge 0 "b" "a"]).view.bindingFor 12 = none := by
  obtain ⟨p, view, hp, hv, hcheck⟩ := @exists_of_check "var a = 1; var b = 1; var b = 2;"
    (fun p view => decide ((start view p).AllAllowed [.merge 0 "b" "a"] ∧
      0 ∈ ((start view p).run [.merge 0 "b" "a"]).view.held ∧
      12 ∈ (((start view p).run [.merge 0 "b" "a"]).view.binding 0).identifiers ∧
      ((start view p).run [.merge 0 "b" "a"]).view.bindingFor 12 = none)) (by decide +kernel)
  exact ⟨p, view, hp, hv, of_decide_eq_true hcheck⟩

end Upkeep

end Deminify
