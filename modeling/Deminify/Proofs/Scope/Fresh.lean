import Mathlib
import Deminify.Proofs.Scope.Binding

/-!
# Names that are free

A name is free in a scope if nothing reserved or global has it, and if it is bound neither in the
scopes around the scope nor in those inside. Two things have to be shown. The search for the scopes
inside is a walk with a stack and reaches all of them within its fuel
(`Deminify.ScopeTree.Nested.mem_descendants`). The search for a free name tries more names than are in
use, so that **the name it comes up with is free** (`Deminify.ScopeTree.nameInUse_generateName`).
-/

namespace Deminify

namespace ScopeTree

/-! ### The scopes inside a scope -/

/-- The number of the scope around a scope. -/
def outerOf (s : ScopeTree) (k : Nat) : Option Nat := (s.shape k).bind (·.2)

/-- The scopes listed as inside a scope. -/
def childrenOf (s : ScopeTree) (k : Nat) : List Nat :=
  ((s.scopes[k]?.map (·.children)).getD #[]).toList

namespace Nested

variable {s : ScopeTree} (hs : s.Nested) {a b c d k : Nat}

include hs

theorem outerOf_lt (h : s.outerOf c = some k) : k < c := by
  obtain ⟨x, hx, he⟩ := Option.bind_eq_some_iff.mp h
  rcases hs.outer hx with hn | ⟨p, hp, hn⟩
  · rw [hn] at he
    cases he
  · rw [hn] at he
    cases he
    exact hp

/-- What is around a scope: itself, and what is around the scope around it. -/
theorem mem_ancestors : a ∈ s.ancestors k ↔
    a = k ∧ k < s.scopes.size ∨ ∃ p, s.outerOf k = some p ∧ a ∈ s.ancestors p := by
  constructor
  · intro h
    by_cases hk : k < s.scopes.size
    · obtain ⟨x, hx⟩ := exists_shape hk
      rw [hs.ancestors_eq hx] at h
      rcases List.mem_cons.mp h with rfl | h
      · exact .inl ⟨rfl, hk⟩
      · rcases hs.outer hx with he | ⟨p, -, he⟩
        · rw [he] at h
          cases h
        · rw [he, Option.elim_some] at h
          exact .inr ⟨p, by rw [outerOf, hx, Option.bind_some, he], h⟩
    · have hnone : s.scopes[k]? = none := Array.getElem?_eq_none (Nat.le_of_not_lt hk)
      rw [ancestors] at h
      cases hsize : s.scopes.size with
      | zero =>
        rw [hsize] at h
        cases h
      | succ n =>
        rw [hsize, ancestorsWithin, hnone] at h
        cases h
  · rintro (⟨rfl, hk⟩ | ⟨p, hp, h⟩)
    · exact hs.mem_ancestors_self hk
    · obtain ⟨x, hx, he⟩ := Option.bind_eq_some_iff.mp hp
      rw [hs.ancestors_eq hx, he]
      exact List.mem_cons_of_mem _ h

/-- What is around a scope is around what is inside it. -/
theorem mem_ancestors_trans (h : a ∈ s.ancestors b) (h' : b ∈ s.ancestors c) : a ∈ s.ancestors c := by
  induction c using Nat.strongRecOn with
  | _ c ih =>
    rcases hs.mem_ancestors.mp h' with ⟨rfl, -⟩ | ⟨p, hp, h'⟩
    · exact h
    · exact hs.mem_ancestors.mpr (.inr ⟨p, hp, ih p (hs.outerOf_lt hp) h'⟩)

/-- Of two scopes around a third, one is around the other. -/
theorem mem_ancestors_total (ha : a ∈ s.ancestors k) (hb : b ∈ s.ancestors k) :
    a ∈ s.ancestors b ∨ b ∈ s.ancestors a := by
  induction k using Nat.strongRecOn with
  | _ k ih =>
    rcases hs.mem_ancestors.mp ha with ⟨rfl, -⟩ | ⟨p, hp, ha'⟩
    · exact .inr hb
    · rcases hs.mem_ancestors.mp hb with ⟨rfl, -⟩ | ⟨q, hq, hb'⟩
      · exact .inl ha
      · rw [hp] at hq
        cases hq
        exact ih p (hs.outerOf_lt hp) ha' hb'

theorem mem_childrenOf : c ∈ s.childrenOf k ↔ s.outerOf c = some k := by
  have hcount : (s.childrenOf k).count c = s.childCount k c := by
    rw [childrenOf, childCount, Array.count_toList]
    cases s.scopes[k]? <;> rfl
  rw [← List.count_pos_iff, hcount, hs.children]
  split <;> simp_all [outerOf]

theorem nodup_childrenOf : (s.childrenOf k).Nodup := by
  refine List.nodup_iff_count.mpr fun c => ?_
  have hcount : (s.childrenOf k).count c = s.childCount k c := by
    rw [childrenOf, childCount, Array.count_toList]
    cases s.scopes[k]? <;> rfl
  rw [hcount, hs.children]
  split <;> omega

theorem child_lt (h : c ∈ s.childrenOf k) : k < c ∧ c < s.scopes.size := by
  have ho := hs.mem_childrenOf.mp h
  obtain ⟨x, hx, -⟩ := Option.bind_eq_some_iff.mp ho
  exact ⟨hs.outerOf_lt ho, lt_of_shape hx⟩

/-- What is around a scope listed inside another: itself, and what is around the other. -/
theorem mem_ancestors_child (h : c ∈ s.childrenOf k) :
    a ∈ s.ancestors c ↔ a = c ∨ a ∈ s.ancestors k := by
  rw [hs.mem_ancestors, hs.mem_childrenOf.mp h]
  constructor
  · rintro (⟨rfl, -⟩ | ⟨p, hp, ha⟩)
    · exact .inl rfl
    · cases hp
      exact .inr ha
  · rintro (rfl | ha)
    · exact .inl ⟨rfl, (hs.child_lt h).2⟩
    · exact .inr ⟨k, rfl, ha⟩

theorem not_mem_ancestors_of_child (h : c ∈ s.childrenOf k) : c ∉ s.ancestors k := by
  intro hm
  have hlt := (hs.child_lt h).1
  have hle := (hs.le_of_mem_ancestors hm).1
  omega

theorem mem_ancestors_of_child (h : c ∈ s.childrenOf k) : k ∈ s.ancestors c := by
  have hlt := hs.child_lt h
  exact (hs.mem_ancestors_child h).mpr (.inr (hs.mem_ancestors_self (Nat.lt_trans hlt.1 hlt.2)))

/-- A scope around another, if it is not the same, has one inside that is around the other, too. -/
theorem exists_child (h : k ∈ s.ancestors d) (hne : d ≠ k) :
    ∃ c ∈ s.childrenOf k, c ∈ s.ancestors d := by
  induction d using Nat.strongRecOn with
  | _ d ih =>
    rcases hs.mem_ancestors.mp h with ⟨rfl, -⟩ | ⟨p, hp, h'⟩
    · exact absurd rfl hne
    · have hd : d < s.scopes.size := by
        obtain ⟨x, hx, -⟩ := Option.bind_eq_some_iff.mp hp
        exact lt_of_shape hx
      by_cases hpk : p = k
      · exact ⟨d, hs.mem_childrenOf.mpr (hpk ▸ hp), hs.mem_ancestors_self hd⟩
      · obtain ⟨c, hc, hcp⟩ := ih p (hs.outerOf_lt hp) h' hpk
        exact ⟨c, hc, hs.mem_ancestors.mpr (.inr ⟨p, hp, hcp⟩)⟩

end Nested

/-! ### The walk over the scopes inside -/

/-- Whether neither of two scopes is around the other. -/
def Apart (s : ScopeTree) (a b : Nat) : Prop := a ∉ s.ancestors b ∧ b ∉ s.ancestors a

/-- The scopes at or inside those of a stack. -/
def covered (s : ScopeTree) (stack : List Nat) : List Nat :=
  (List.range s.scopes.size).filter fun d => stack.any ((s.ancestors d).contains ·)

/-- The scopes that are still to come are those inside the ones on the stack. -/
theorem mem_covered {s : ScopeTree} {stack : List Nat} {d : Nat} :
    d ∈ s.covered stack ↔ d < s.scopes.size ∧ ∃ a ∈ stack, a ∈ s.ancestors d := by
  simp [covered]

theorem nodup_covered (s : ScopeTree) (stack : List Nat) : (s.covered stack).Nodup :=
  List.nodup_range.filter _

section Walk

variable {s : ScopeTree} (hs : s.Nested) {stack : List Nat} {id : Nat}

include hs

/-- The scopes inside the top of the stack take its place. -/
theorem Nested.pairwise_apart (h : (id :: stack).Pairwise s.Apart) :
    ((s.childrenOf id).reverse ++ stack).Pairwise s.Apart := by
  obtain ⟨htop, hrest⟩ := List.pairwise_cons.mp h
  refine List.pairwise_append.mpr ⟨?_, hrest, ?_⟩
  · rw [List.pairwise_reverse]
    refine List.Pairwise.imp_of_mem ?_ hs.nodup_childrenOf
    intro c c' hc hc' hne
    refine ⟨fun hm => ?_, fun hm => ?_⟩
    · exact ((hs.mem_ancestors_child hc).mp hm).elim (fun he => hne he.symm)
        (hs.not_mem_ancestors_of_child hc')
    · exact ((hs.mem_ancestors_child hc').mp hm).elim hne (hs.not_mem_ancestors_of_child hc)
  · intro c hc r hr
    rw [List.mem_reverse] at hc
    have hown := hs.mem_ancestors_of_child hc
    refine ⟨fun hm => (htop r hr).1 (hs.mem_ancestors_trans hown hm), fun hm => ?_⟩
    rcases (hs.mem_ancestors_child hc).mp hm with rfl | hm
    · exact (htop r hr).1 hown
    · exact (htop r hr).2 hm

/-- The top of the stack is covered no more once the scopes inside it have taken its place. -/
theorem Nested.not_mem_covered (h : (id :: stack).Pairwise s.Apart) :
    id ∉ s.covered ((s.childrenOf id).reverse ++ stack) := by
  intro hm
  obtain ⟨-, a, ha, hia⟩ := mem_covered.mp hm
  rcases List.mem_append.mp ha with ha | ha
  · exact hs.not_mem_ancestors_of_child (List.mem_reverse.mp ha) hia
  · exact ((List.pairwise_cons.mp h).1 a ha).2 hia

/-- Taking a scope off the stack brings in no others. -/
theorem Nested.covered_subset :
    s.covered ((s.childrenOf id).reverse ++ stack) ⊆ s.covered (id :: stack) := by
  intro d hd
  obtain ⟨hlt, a, ha, hda⟩ := mem_covered.mp hd
  refine mem_covered.mpr ⟨hlt, ?_⟩
  rcases List.mem_append.mp ha with ha | ha
  · exact ⟨id, List.mem_cons_self,
      hs.mem_ancestors_trans (hs.mem_ancestors_of_child (List.mem_reverse.mp ha)) hda⟩
  · exact ⟨a, List.mem_cons_of_mem _ ha, hda⟩

theorem Nested.mem_covered_top (hid : id < s.scopes.size) : id ∈ s.covered (id :: stack) :=
  mem_covered.mpr ⟨hid, id, List.mem_cons_self, hs.mem_ancestors_self hid⟩

/-- Taking a scope off the stack leaves fewer of them to come. -/
theorem Nested.length_covered_lt (h : (id :: stack).Pairwise s.Apart) (hid : id < s.scopes.size) :
    (s.covered ((s.childrenOf id).reverse ++ stack)).length < (s.covered (id :: stack)).length :=
  (List.nodup_cons.mpr ⟨hs.not_mem_covered h, nodup_covered s _⟩).length_le_of_subset
    (List.cons_subset.mpr ⟨hs.mem_covered_top hid, hs.covered_subset⟩)

/-- What takes the place of the top of the stack is a scope, too. -/
theorem Nested.lt_of_mem_inside (hlt : ∀ a ∈ id :: stack, a < s.scopes.size) :
    ∀ a ∈ (s.childrenOf id).reverse ++ stack, a < s.scopes.size := by
  intro a ha
  rcases List.mem_append.mp ha with ha | ha
  · exact (hs.child_lt (List.mem_reverse.mp ha)).2
  · exact hlt a (List.mem_cons_of_mem _ ha)

/-- **The walk reaches nothing else**, and nothing twice. -/
theorem Nested.descendantsWithin_covered {fuel : Nat} (hp : stack.Pairwise s.Apart)
    (hlt : ∀ a ∈ stack, a < s.scopes.size) :
    s.descendantsWithin fuel stack ⊆ s.covered stack ∧ (s.descendantsWithin fuel stack).Nodup := by
  induction fuel generalizing stack with
  | zero => exact ⟨List.nil_subset _, List.nodup_nil⟩
  | succ fuel ih =>
    cases stack with
    | nil => exact ⟨List.nil_subset _, List.nodup_nil⟩
    | cons id rest =>
      obtain ⟨hsub, hnodup⟩ := ih (hs.pairwise_apart hp) (hs.lt_of_mem_inside hlt)
      rw [descendantsWithin]
      refine ⟨List.cons_subset.mpr ⟨hs.mem_covered_top (hlt id List.mem_cons_self), fun d hd => ?_⟩,
        List.nodup_cons.mpr ⟨fun hid => hs.not_mem_covered hp (hsub hid), hnodup⟩⟩
      exact hs.covered_subset (hsub hd)

/-- **The walk reaches everything at or inside the scopes of the stack.** -/
theorem Nested.mem_descendantsWithin {fuel : Nat} (hp : stack.Pairwise s.Apart)
    (hlt : ∀ a ∈ stack, a < s.scopes.size) (hf : (s.covered stack).length ≤ fuel) {d : Nat}
    (hd : d ∈ s.covered stack) : d ∈ s.descendantsWithin fuel stack := by
  induction fuel generalizing stack with
  | zero =>
    rw [List.length_eq_zero_iff.mp (Nat.le_zero.mp hf)] at hd
    cases hd
  | succ fuel ih =>
    obtain ⟨hdlt, a, ha, hda⟩ := mem_covered.mp hd
    cases stack with
    | nil => cases ha
    | cons id rest =>
      rw [descendantsWithin]
      by_cases he : d = id
      · exact he ▸ List.mem_cons_self
      refine List.mem_cons_of_mem _ (ih (hs.pairwise_apart hp) (hs.lt_of_mem_inside hlt) ?_ ?_)
      · have hless := hs.length_covered_lt hp (hlt id List.mem_cons_self)
        exact Nat.le_of_lt_succ (Nat.lt_of_lt_of_le hless hf)
      · refine mem_covered.mpr ⟨hdlt, ?_⟩
        rcases List.mem_cons.mp ha with rfl | ha
        · obtain ⟨c, hc, hdc⟩ := hs.exists_child hda he
          exact ⟨c, List.mem_append_left _ (List.mem_reverse.mpr hc), hdc⟩
        · exact ⟨a, List.mem_append_right _ ha, hda⟩

/-- The walk starts with scopes apart from each other. -/
theorem Nested.pairwise_childrenOf (k : Nat) : (s.childrenOf k).reverse.Pairwise s.Apart := by
  have hstart := hs.pairwise_apart (List.pairwise_singleton s.Apart k)
  rwa [List.append_nil] at hstart

/-- **The scopes inside a scope are all found.** -/
theorem Nested.mem_descendants {k d : Nat} (h : k ∈ s.ancestors d) (hne : d ≠ k) :
    d ∈ s.descendants k := by
  have hd : d < s.scopes.size := by
    rcases hs.mem_ancestors.mp h with ⟨rfl, hd⟩ | ⟨p, hp, -⟩
    · exact hd
    · obtain ⟨x, hx, -⟩ := Option.bind_eq_some_iff.mp hp
      exact lt_of_shape hx
  obtain ⟨c, hc, hdc⟩ := hs.exists_child h hne
  refine hs.mem_descendantsWithin (hs.pairwise_childrenOf k) (fun a ha => ?_) ?_
    (mem_covered.mpr ⟨hd, c, List.mem_reverse.mpr hc, hdc⟩)
  · exact (hs.child_lt (List.mem_reverse.mp ha)).2
  · exact Nat.le_trans (List.length_filter_le _ _) (Nat.le_of_eq List.length_range)

/-- **The scopes inside a scope are exactly those that it is around**, each found once. -/
theorem Nested.descendants_exact (k : Nat) :
    (s.descendants k).Nodup ∧ ∀ d, d ∈ s.descendants k ↔ d ≠ k ∧ k ∈ s.ancestors d := by
  have hwalk := @Nested.descendantsWithin_covered s hs _ s.scopes.size (hs.pairwise_childrenOf k)
    fun a ha => (hs.child_lt (List.mem_reverse.mp ha)).2
  refine ⟨hwalk.2, fun d => ⟨fun hd => ?_, fun h => hs.mem_descendants h.2 h.1⟩⟩
  obtain ⟨-, c, hc, hcd⟩ := mem_covered.mp (hwalk.1 hd)
  rw [List.mem_reverse] at hc
  refine ⟨?_, hs.mem_ancestors_trans (hs.mem_ancestors_of_child hc) hcd⟩
  rintro rfl
  exact hs.not_mem_ancestors_of_child hc hcd

end Walk

/-! ### Free names -/

section Free

variable {s : ScopeTree} {k : Nat} {name : String}

/-- Whether a name is free in all scopes around a scope and inside it. -/
def FreeAround (s : ScopeTree) (k : Nat) (name : String) : Prop :=
  ∀ i, k ∈ s.ancestors i → ∀ a ∈ s.ancestors i, s.boundIn a name = none

/-- A name that is free around a binding is free in its scope. -/
theorem FreeAround.boundIn (h : s.FreeAround k name) (hs : s.Nested) {old : String} {b : Nat}
    (hb : s.boundIn k old = some b) : s.boundIn k name = none := by
  have hk : k < s.scopes.size := by
    refine Nat.lt_of_not_le fun hle => ?_
    rw [ScopeTree.boundIn, Array.getElem?_eq_none hle] at hb
    cases hb
  exact h k (hs.mem_ancestors_self hk) k (hs.mem_ancestors_self hk)

/-- **A name that is not in use is free around.** -/
theorem Nested.freeAround (hs : s.Nested) (h : s.nameInUse k name = false) : s.FreeAround k name := by
  simp only [nameInUse, Bool.or_eq_false_iff] at h
  obtain ⟨⟨-, hlookup⟩, hinside⟩ := h
  have houter {a : Nat} (ha : a ∈ s.ancestors k) : s.boundIn a name = none := by
    rw [lookup_eq, Option.isSome_eq_false_iff, Option.isNone_iff_eq_none,
      List.findSome?_eq_none_iff] at hlookup
    exact hlookup a ha
  intro i hk a ha
  rcases hs.mem_ancestors_total ha hk with h | h
  · exact houter h
  · by_cases hak : a = k
    · exact houter (hak ▸ h)
    · have hnone := List.any_eq_false.mp hinside a (hs.mem_descendants h hak)
      rw [ScopeTree.boundIn]
      cases hc : s.scopes[a]? with
      | none => rfl
      | some scope =>
        rw [hc, Option.any_some, Bool.not_eq_true, Option.isSome_eq_false_iff,
          Option.isNone_iff_eq_none] at hnone
        exact hnone

/-- The names that can be in use anywhere. -/
def namesInUse (s : ScopeTree) : List String :=
  reservedWords ++ s.globals.map (·.1) ++ s.bindings.toList.map (·.name)

theorem length_namesInUse (s : ScopeTree) :
    s.namesInUse.length = s.bindings.size + s.globals.length + reservedWords.length := by
  simp only [namesInUse, List.length_append, List.length_map, Array.length_toList]
  omega

/-- A name that is in use is among finitely many. -/
theorem mem_namesInUse (hb : ∀ {k x b}, s.boundIn k x = some b →
      ∃ binding, s.bindings[b]? = some binding ∧ binding.name = x)
    (h : s.nameInUse k name = true) : name ∈ s.namesInUse := by
  have hbound {a : Nat} (ha : (s.boundIn a name).isSome = true) :
      name ∈ s.bindings.toList.map (·.name) := by
    obtain ⟨b, hb'⟩ := Option.isSome_iff_exists.mp ha
    obtain ⟨binding, hbinding, hname⟩ := hb hb'
    exact List.mem_map.mpr ⟨binding, Array.mem_toList_iff.mpr (Array.mem_of_getElem? hbinding), hname⟩
  simp only [nameInUse, Bool.or_eq_true] at h
  rw [namesInUse, List.mem_append, List.mem_append]
  rcases h with ((h | h) | h) | h
  · exact .inl (.inl (by simpa using h))
  · refine .inl (.inr ?_)
    cases hl : s.globals.lookup name with
    | none => simp [hl] at h
    | some labels => exact List.mem_map.mpr ⟨_, mem_of_lookup hl, rfl⟩
  · obtain ⟨b, hl⟩ := Option.isSome_iff_exists.mp h
    rw [lookup_eq] at hl
    obtain ⟨a, -, ha⟩ := List.exists_of_findSome?_eq_some hl
    exact .inr (hbound (by rw [ha]; rfl))
  · obtain ⟨d, -, hd⟩ := List.any_eq_true.mp h
    refine .inr (hbound (a := d) ?_)
    rw [boundIn]
    cases hscope : s.scopes[d]? with
    | none => simp [hscope] at hd
    | some scope => simpa [hscope] using hd

/-- The numbered names. -/
def candidate (base : String) (i : Nat) : String := s!"{base}_{i}"

theorem candidate_eq (base : String) (i : Nat) : candidate base i = base ++ ("_" ++ i.repr) := by
  rw [← String.append_assoc]
  rfl

/-- Different attempts are different names. -/
theorem candidate_inj {base : String} {i j : Nat} (h : candidate base i = candidate base j) : i = j := by
  rw [candidate_eq, candidate_eq, String.append_right_inj, String.append_right_inj] at h
  exact Nat.repr_inj.mp h

theorem candidate_ne (base : String) (i : Nat) : candidate base i ≠ base := by
  intro h
  have hlength := congrArg String.length h
  rw [candidate_eq, String.length_append, String.length_append] at hlength
  have hone : "_".length = 1 := rfl
  omega

/-- The names that are tried in turn: one as it is, and then with numbers. -/
def attempt (base : String) : Nat → String
  | 0 => base
  | i + 1 => candidate base (i + 1)

/-- No two attempts are the same name. -/
theorem attempt_inj {base : String} {i j : Nat} (h : attempt base i = attempt base j) : i = j := by
  cases i with
  | zero =>
    cases j with
    | zero => rfl
    | succ j => exact absurd h.symm (candidate_ne base _)
  | succ i =>
    cases j with
    | zero => exact absurd h (candidate_ne base _)
    | succ j => exact candidate_inj h

/-- The name found is the first that is free, unless all that are tried are in use. -/
theorem firstFree_cases (s : ScopeTree) (k : Nat) (base : String) (fuel i : Nat) :
    (∃ n ≥ i, s.firstFree k base fuel (i + 1) = attempt base (n + 1) ∧
      s.nameInUse k (attempt base (n + 1)) = false ∧
      ∀ m ≥ i, m < n → s.nameInUse k (attempt base (m + 1)) = true) ∨
    ∀ m ≥ i, m < i + fuel → s.nameInUse k (attempt base (m + 1)) = true := by
  induction fuel generalizing i with
  | zero => exact .inr fun m h1 h2 => by omega
  | succ fuel ih =>
    rw [firstFree]
    split
    · rename_i hused
      -- an attempt from `i` on is the one at `i`, or one of those that come after it
      have hfrom {m : Nat} (h : m ≥ i) : m = i ∨ m ≥ i + 1 := by omega
      refine (ih (i + 1)).imp ?_ ?_
      · rintro ⟨n, hn, he, hfree, hbefore⟩
        refine ⟨n, by omega, he, hfree, fun m h1 h2 => ?_⟩
        rcases hfrom h1 with rfl | h1
        · exact hused
        · exact hbefore m h1 h2
      · intro hall m h1 h2
        rcases hfrom h1 with rfl | h1
        · exact hused
        · exact hall m h1 (by omega)
    · rename_i hfree
      exact .inl ⟨i, Nat.le_refl i, rfl, by simpa [attempt, candidate] using hfree, fun m h1 h2 => by omega⟩

/-- **The name that is generated is the first that is free.** -/
theorem exists_generateName (hb : ∀ {k x b}, s.boundIn k x = some b →
      ∃ binding, s.bindings[b]? = some binding ∧ binding.name = x) (base : String) (k : Nat) :
    ∃ n, s.generateName base k = attempt (Name.sanitize base) n ∧
      s.nameInUse k (attempt (Name.sanitize base) n) = false ∧
      ∀ m < n, s.nameInUse k (attempt (Name.sanitize base) m) = true := by
  rw [generateName]
  split
  · rename_i hbase
    rcases firstFree_cases s k (Name.sanitize base) _ 0 with ⟨n, -, he, hfree, hbefore⟩ | hall
    · refine ⟨n + 1, he, hfree, fun m hm => ?_⟩
      cases m with
      | zero => exact hbase
      | succ m => exact hbefore m (Nat.zero_le m) (Nat.lt_of_succ_lt_succ hm)
    · -- the names that are tried are more than those in use
      let tried := (List.range (s.namesInUse.length + 1)).map (attempt (Name.sanitize base))
      have hnodup : tried.Nodup := List.nodup_range.map fun _ _ => attempt_inj
      have hsub : tried ⊆ s.namesInUse := by
        intro x hx
        obtain ⟨i, hi, rfl⟩ := List.mem_map.mp hx
        refine @mem_namesInUse s k _ hb ?_
        rw [List.mem_range, length_namesInUse] at hi
        cases i with
        | zero => exact hbase
        | succ i => exact hall i (Nat.zero_le i) (by omega)
      have hle := hnodup.length_le_of_subset hsub
      rw [List.length_map, List.length_range] at hle
      omega
  · rename_i hfree
    exact ⟨0, rfl, by simpa [attempt] using hfree, fun m hm => absurd hm (Nat.not_lt_zero m)⟩

/-- **The name that is generated is free.** -/
theorem nameInUse_generateName (hb : ∀ {k x b}, s.boundIn k x = some b →
      ∃ binding, s.bindings[b]? = some binding ∧ binding.name = x) (base : String) (k : Nat) :
    s.nameInUse k (s.generateName base k) = false := by
  obtain ⟨n, he, hfree, -⟩ := exists_generateName hb base k
  rw [he]
  exact hfree

end Free

/-! ### How free names are spelled -/

section Plain

theorem isPlain_toUpper {c : Char} (h : Name.isPlain c = true) : Name.isPlain c.toUpper = true := by
  by_cases hl : c.isLower = true
  · have halpha : c.toUpper.isAlpha = true := by
      rw [Char.isAlpha_toUpper_eq_isAlpha, Char.isAlpha, hl, Bool.or_true]
    simp [Name.isPlain, Char.isAlphanum, halpha]
  · rwa [Char.toUpper_eq_of_not_isLower hl]

theorem isPlain_of_mem_wordsFrom {word text : List Char} (hw : ∀ c ∈ word, Name.isPlain c = true) :
    ∀ w ∈ Name.wordsFrom word text, ∀ c ∈ w, Name.isPlain c = true := by
  induction text generalizing word with
  | nil =>
    intro w hm
    rw [Name.wordsFrom] at hm
    split at hm
    · cases hm
    · cases List.mem_singleton.mp hm
      exact fun c hc => hw c (List.mem_reverse.mp hc)
  | cons a rest ih =>
    intro w hm
    rw [Name.wordsFrom] at hm
    split at hm
    · rename_i ha
      refine ih (fun c hc => ?_) w hm
      rcases List.mem_cons.mp hc with rfl | hc
      · exact ha
      · exact hw c hc
    · split at hm
      · exact ih (by simp) w hm
      · rcases List.mem_cons.mp hm with rfl | hm
        · exact fun c hc => hw c (List.mem_reverse.mp hc)
        · exact ih (by simp) w hm

/-- A base that is made from a text has plain characters only. -/
theorem isPlain_sanitize (text : String) : ∀ c ∈ (Name.sanitize text).toList, Name.isPlain c = true := by
  have hwords := @isPlain_of_mem_wordsFrom [] text.toList (by simp)
  unfold Name.sanitize
  split
  · intro c hc
    cases List.mem_singleton.mp hc
    rfl
  · rename_i first rest hsplit
    rw [hsplit] at hwords
    have hname : ∀ c ∈ first ++ (rest.map Name.capitalized).flatten, Name.isPlain c = true := by
      intro c hc
      rcases List.mem_append.mp hc with hc | hc
      · exact hwords first List.mem_cons_self c hc
      · obtain ⟨w, hw, hcw⟩ := List.mem_flatten.mp hc
        obtain ⟨v, hv, rfl⟩ := List.mem_map.mp hw
        have hplain := hwords v (List.mem_cons_of_mem _ hv)
        cases v with
        | nil => cases hcw
        | cons a as =>
          rcases List.mem_cons.mp hcw with rfl | hcw
          · exact isPlain_toUpper (hplain a List.mem_cons_self)
          · exact hplain c (List.mem_cons_of_mem _ hcw)
    intro c hc
    rw [String.toList_ofList] at hc
    split at hc
    · rcases List.mem_cons.mp hc with rfl | hc
      · decide
      · exact hname c hc
    · exact hname c hc

/-- The number at the end of a name is made of plain characters. -/
theorem isPlain_number (i : Nat) : ∀ c ∈ ("_" ++ i.repr).toList, Name.isPlain c = true := by
  intro c hc
  rw [String.toList_append] at hc
  rcases List.mem_append.mp hc with hc | hc
  · cases List.mem_singleton.mp hc
    decide
  · rw [Nat.toList_repr] at hc
    have hdigit := Nat.isDigit_of_mem_toDigits (by decide) (by decide) hc
    simp [Name.isPlain, Char.isAlphanum, hdigit]

/-- The name that is found has plain characters only. -/
theorem isPlain_firstFree (s : ScopeTree) (k : Nat) {base : String}
    (h : ∀ c ∈ base.toList, Name.isPlain c = true) (fuel counter : Nat) :
    ∀ c ∈ (s.firstFree k base fuel counter).toList, Name.isPlain c = true := by
  have hcandidate (i : Nat) : ∀ c ∈ (candidate base i).toList, Name.isPlain c = true := by
    intro c hc
    rw [candidate_eq, String.toList_append] at hc
    rcases List.mem_append.mp hc with hc | hc
    · exact h c hc
    · exact isPlain_number i c hc
  induction fuel generalizing counter with
  | zero => exact hcandidate counter
  | succ fuel ih =>
    rw [firstFree]
    split
    · exact ih _
    · exact hcandidate counter

/-- Names that are generated are made of plain characters. -/
theorem isPlain_generateName (s : ScopeTree) (base : String) (k : Nat) :
    ∀ c ∈ (s.generateName base k).toList, Name.isPlain c = true := by
  rw [generateName]
  split
  · exact isPlain_firstFree s k (isPlain_sanitize base) _ _
  · exact isPlain_sanitize base

end Plain

end ScopeTree

end Deminify
