import Deminify.Proofs.Scope.Standing

/-!
# Names of the program and what covers them

A name that the program itself binds is used wherever no scope inside declares it. A view that is kept in step with
edits need not know each such use by its binding – some declared names may have come to stand in between – but it must
not miss one: **a use is recorded with the binding, or it is covered by a scope inside the program that declares the
name** (`Deminify.ScopeTree.Covers`). This holds of the view that is built for a program
(`Deminify.ScopeTree.Tells.covers`). Conversely, **if all uses of a name are covered, the view of the program knows of
none** (`Deminify.ScopeTree.Tells.spares`) but by bindings inside.

Edits of the view that concern new labels and new names carry on what was known
(`Deminify.ScopeTree.CarriesOn`): what a name of the program means from a scope stays the same, so that a new use of it
is recorded with the binding unless it is covered.
-/

namespace Deminify

/-- Whether one of the scopes inside a program declares a name. -/
def DeclaredInside (program : Tree) (frames : List Frame) (x : String) : Prop :=
  ∃ f ∈ frames, f.kind ≠ "program" ∧ DeclaredIn program f x

namespace ScopeTree

/-- **Whether a view knows of no use of a name of the program**: the name is not global, nothing reads it, and what
writes it declares it again. -/
structure Spares (s : ScopeTree) (x : String) : Prop where
  global : listed s.globals x = #[]
  reads : ∀ b, s.boundIn 0 x = some b → (s.binding b).references = #[]
  writes : ∀ b, s.boundIn 0 x = some b → ∀ l ∈ (s.binding b).writes, l ∈ (s.binding b).redeclarations

/-- Whether a label is recorded as a use of a binding. -/
def Records (s : ScopeTree) (b l : Nat) : Prop := l ∈ (s.binding b).references ∨ l ∈ (s.binding b).writes

/-- **Whether a view misses no use of a name of the program.** -/
def Covers (program : Tree) (start s : ScopeTree) : Prop :=
  ∀ {x b}, start.boundIn 0 x = some b → ∀ {l w frames}, Happens program (.use l x w frames) →
    DeclaredInside program frames x ∨ s.Records b l

/-! ### Scopes inside -/

section Inside

variable {s : ScopeTree}

/-- A look-up finds a name inside if a scope inside binds it. -/
theorem Nested.lookup_inside (hs : s.Nested) {k : Nat} (hk : k < s.scopes.size) {x : String} {a b : Nat}
    (ha : a ∈ s.ancestors k) (h0 : a ≠ 0) (hb : s.boundIn a x = some b) :
    ∃ a' ≠ 0, ∃ b', s.boundIn a' x = some b' ∧ s.lookup k x = some b' := by
  induction k using Nat.strongRecOn with
  | _ k ih =>
    obtain ⟨⟨frame, parent⟩, hy⟩ := exists_shape hk
    rw [hs.ancestors_eq hy] at ha
    rw [lookup_eq, hs.ancestors_eq hy, List.findSome?_cons]
    have hne : k ≠ 0 := by
      rintro rfl
      obtain ⟨frame, hroot⟩ := hs.root
      obtain rfl := congrArg Prod.snd (Option.some.inj (hy.symm.trans hroot))
      exact h0 (List.mem_singleton.mp ha)
    cases hbound : s.boundIn k x with
    | some b' => exact ⟨k, hne, b', hbound, rfl⟩
    | none =>
      obtain ⟨p, hp, rfl⟩ := hs.around hy hne
      refine ih p hp (Nat.lt_trans hp hk) ((List.mem_cons.mp ha).resolve_left ?_)
      rintro rfl
      rw [hb] at hbound
      cases hbound

/-- A look-up finds a name in the outermost scope if no scope inside binds it. -/
theorem Nested.lookup_outside (hs : s.Nested) {k : Nat} (hk : k < s.scopes.size) {x : String}
    (hnone : ∀ a ∈ s.ancestors k, a ≠ 0 → s.boundIn a x = none) : s.lookup k x = s.boundIn 0 x := by
  induction k using Nat.strongRecOn with
  | _ k ih =>
    obtain ⟨⟨frame, parent⟩, hy⟩ := exists_shape hk
    rw [hs.ancestors_eq hy] at hnone
    rw [lookup_eq, hs.ancestors_eq hy, List.findSome?_cons]
    by_cases h0 : k = 0
    · subst h0
      obtain ⟨frame, hroot⟩ := hs.root
      obtain rfl := congrArg Prod.snd (Option.some.inj (hy.symm.trans hroot))
      cases s.boundIn 0 x <;> rfl
    · obtain ⟨p, hp, rfl⟩ := hs.around hy h0
      rw [hnone k List.mem_cons_self h0]
      exact ih p hp (Nat.lt_trans hp hk) fun a ha => hnone a (List.mem_cons_of_mem _ ha)

end Inside

namespace Tells

variable {program : Tree} {notes : List Note} (h : Tells program notes)

include h

/-- Only the outermost scope is that of the program. -/
theorem kind_frameOf_ne {k : Nat} (hk : k < (declared program.label notes).scopes.size) (h0 : k ≠ 0) :
    ((declared program.label notes).frameOf k).kind ≠ "program" := by
  have hlt : k < (declared program.label notes).frames.length := by simpa [frames] using hk
  rw [frameOf_eq_getElem hlt]
  have hmem : (declared program.label notes).frames[k] ∈ notes.filterMap Note.frame? := by
    have hframes := frames_declared program.label notes
    rw [List.getElem_of_eq hframes hlt]
    cases k with
    | zero => exact absurd rfl h0
    | succ k =>
      rw [List.getElem_cons_succ]
      exact List.getElem_mem _
  obtain ⟨n, hn, hf⟩ := List.mem_filterMap.mp hmem
  cases n with
  | opens kind node parent =>
    rw [Note.frame?] at hf
    rw [← Option.some.inj hf]
    exact kind_ne_program (h.happens.mp (List.mem_filterMap.mpr ⟨_, hn, rfl⟩))
  | _ => cases hf

omit h in
theorem frameOf_zero : (declared program.label notes).frameOf 0 = ⟨program.label, "program"⟩ := by
  have hframes := frames_declared program.label notes
  have hlt : 0 < (declared program.label notes).frames.length := by
    rw [hframes]
    exact Nat.succ_pos _
  rw [frameOf_eq_getElem hlt, List.getElem_of_eq hframes hlt]
  rfl

/-- **From a scope, a name of the program means the binding there**, unless a scope inside declares it. -/
theorem lookup_or_declaredInside {k : Nat} (hk : k < (declared program.label notes).scopes.size) {x : String} {b : Nat}
    (hb : (declared program.label notes).boundIn 0 x = some b) :
    DeclaredInside program ((declared program.label notes).framesAround k) x ∨
      (declared program.label notes).lookup k x = some b := by
  by_cases hall : ∀ a ∈ (declared program.label notes).ancestors k, a ≠ 0 →
      (declared program.label notes).boundIn a x = none
  · exact .inr ((h.nested.lookup_outside hk hall).trans hb)
  · push Not at hall
    obtain ⟨a, ha, hne, hbound⟩ := hall
    have hlt := (h.nested.le_of_mem_ancestors ha).2
    exact .inl ⟨_, List.mem_map_of_mem ha, h.kind_frameOf_ne hlt hne,
      (h.declaredIn_iff hlt).mpr (Option.ne_none_iff_exists'.mp hbound)⟩

/-- **The view of a program misses no use.** -/
theorem covers : Covers program (ofNotes program.label notes) (ofNotes program.label notes) := by
  intro x b hb l w frames he
  obtain ⟨u, hu, rfl, rfl, rfl, rfl⟩ := h.happens_use_iff.mp he
  rw [boundIn_ofNotes] at hb
  refine (h.lookup_or_declaredInside (h.scope_lt hu) hb).imp id fun hl => ?_
  replace hl : (declared program.label notes).lookup u.scope u.name = some b := hl
  have hrecorded := h.recordedAs_use hu
  rw [hl, recordsOf] at hrecorded
  cases hw : u.writes with
  | true =>
    right
    have := hrecorded (.writes b)
    rw [hw, if_pos rfl, List.count_singleton_self, recordCount] at this
    exact Array.count_pos_iff.mp (by omega)
  | false =>
    left
    have := hrecorded (.reads b)
    rw [hw, if_neg Bool.false_ne_true, List.count_singleton_self, recordCount] at this
    exact Array.count_pos_iff.mp (by omega)

/-- **A use that is covered belongs to a binding inside the program.** -/
theorem lookup_of_declaredInside {u : Use} (hu : Note.uses u ∈ notes)
    (hin : DeclaredInside program ((declared program.label notes).framesAround u.scope) u.name) :
    ∃ a ≠ 0, ∃ b, (declared program.label notes).boundIn a u.name = some b ∧
      (declared program.label notes).lookup u.scope u.name = some b := by
  obtain ⟨f, hf, hkind, hd⟩ := hin
  obtain ⟨a, ha, rfl⟩ := List.mem_map.mp hf
  have hne : a ≠ 0 := by
    rintro rfl
    exact hkind (congrArg Frame.kind frameOf_zero)
  obtain ⟨b, hb⟩ := (h.declaredIn_iff (h.nested.le_of_mem_ancestors ha).2).mp hd
  exact h.nested.lookup_inside (h.scope_lt hu) ha hne hb

/-- **The view knows of no use of a name** if all are covered. -/
theorem spares {x : String} (hall : ∀ {l w frames}, Happens program (.use l x w frames) → DeclaredInside program frames x) :
    (ofNotes program.label notes).Spares x := by
  have hinside (u : Use) (hu : Note.uses u ∈ notes) (hx : u.name = x) : ∃ a ≠ 0, ∃ b,
      (declared program.label notes).boundIn a x = some b ∧ (declared program.label notes).lookup u.scope x = some b := by
    subst hx
    exact h.lookup_of_declaredInside hu (hall (h.happens_use_iff.mpr ⟨u, hu, rfl, rfl, rfl, rfl⟩))
  -- what is found from the place of a use is not bound outside
  have hfound {u : Use} {b : Nat} (hu : Note.uses u ∈ notes)
      (hl : (declared program.label notes).lookup u.scope u.name = some b)
      (hb : (ofNotes program.label notes).boundIn 0 x = some b) : False := by
    obtain ⟨-, hscope, hname⟩ := h.leads.filed.named hb
    obtain ⟨i, hi⟩ := exists_boundIn_of_lookup hl
    rw [← boundIn_ofNotes] at hi
    obtain ⟨-, -, hname'⟩ := h.leads.filed.named hi
    have hx : u.name = x := hname'.symm.trans hname
    obtain ⟨a, hne, b', hb', hl'⟩ := hinside u hu hx
    rw [hx, hl'] at hl
    rw [← boundIn_ofNotes, Option.some.inj hl] at hb'
    exact hne ((h.leads.filed.named hb').2.1.symm.trans hscope)
  refine ⟨?_, fun b hb => ?_, fun b hb l hl => ?_⟩
  · refine Array.eq_empty_iff_forall_not_mem.mpr fun l hl => ?_
    have hpos : 0 < (ofNotes program.label notes).recordCount l (.global x) := Array.count_pos_iff.mpr hl
    rcases h.recordCount_pos.mp hpos with ⟨d, -, -, hr⟩ | ⟨u, hu, -, hr⟩
    · obtain ⟨_, -, hr⟩ := exists_of_mem_rewriteRecords hr
      cases hr
    · cases hl : (declared program.label notes).lookup u.scope u.name with
      | none =>
        have hx : u.name = x := by
          rw [hl] at hr
          cases hw : u.writes <;> simp_all [recordsOf]
        obtain ⟨_, -, _, -, hl'⟩ := hinside u hu hx
        rw [hx, hl'] at hl
        cases hl
      | some b =>
        rw [hl] at hr
        cases hw : u.writes <;> simp_all [recordsOf]
  · refine Array.eq_empty_iff_forall_not_mem.mpr fun l hl => ?_
    have hpos : 0 < (ofNotes program.label notes).recordCount l (.reads b) := Array.count_pos_iff.mpr hl
    rcases h.recordCount_pos.mp hpos with ⟨d, -, -, hr⟩ | ⟨u, hu, -, hr⟩
    · obtain ⟨_, -, hr⟩ := exists_of_mem_rewriteRecords hr
      cases hr
    · exact hfound hu ((found_of_mem_recordsOf hr).1 rfl) hb
  · have hpos : 0 < (ofNotes program.label notes).recordCount l (.writes b) := Array.count_pos_iff.mpr hl
    rcases h.recordCount_pos.mp hpos with ⟨d, hd, rfl, hr⟩ | ⟨u, hu, -, hr⟩
    · have hlt : b < (declared program.label notes).bindings.size := by
        rw [← size_ofNotes]
        exact (h.leads.filed.named hb).1
      rw [rewriteRecords] at hr
      split at hr
      · rename_i b' hbound
        split at hr
        · rename_i hrewrites
          obtain rfl : b = b' := Record.writes.inj (List.mem_singleton.mp hr)
          rw [rewrites, Bool.and_eq_true, bne_iff_ne] at hrewrites
          refine ((h.declares_iff hlt).mpr ⟨d, hd, rfl, hbound⟩).resolve_left fun he => hrewrites.2 ?_
          exact ((congrArg (·.identifier) (bare_ofNotes program.label notes b)).symm.trans he.symm)
        · cases hr
      · cases hr
    · exact (hfound hu ((found_of_mem_recordsOf hr).2 rfl) hb).elim

/-- **What declares a name for the whole program** is bound outside. -/
theorem boundIn_of_bindingFor {l b : Nat} {x : String} {initializes : Bool}
    (hd : Happens program (.declares l x ⟨program.label, "program"⟩ initializes))
    (hb : (ofNotes program.label notes).bindingFor l = some b) : (ofNotes program.label notes).boundIn 0 x = some b := by
  obtain ⟨d, hmem, hl, rfl, hhome, -⟩ := h.happens_declares_iff.mp hd
  have hnone : ∀ u ∈ notes.filterMap Note.use?, u.label ≠ l := fun u hu hul =>
    h.not_declares_of_use (h.happens_use_iff.mpr ⟨u, mem_uses.mp hu, hul, rfl, rfl, rfl⟩) hd
  have hdeclared : (declared program.label notes).bindingOf.get? l = some b :=
    (bindingFor_resolveAll_of_not_mem hnone).symm.trans hb
  rw [h.binds.known, Option.bind_eq_some_iff] at hdeclared
  obtain ⟨d', hd', hbound⟩ := hdeclared
  have hmem' := List.mem_reverse.mp (List.mem_of_find?_eq_some hd')
  -- nothing else is declared by the label
  have hsame : d' = d := by
    obtain ⟨n, hn, hnd⟩ := List.mem_filterMap.mp hmem
    cases n with
    | declares scope hoisted label name kind node =>
      have honce := declarations_namings (declared program.label notes) notes l
      rw [h.namings_eq hn (congrArg some ((congrArg Declaration.label (Option.some.inj hnd)).trans hl))] at honce
      have hin : d' ∈ ((declared program.label notes).declarations notes).filter (·.label == l) :=
        List.mem_filter.mpr ⟨hmem', by simpa using List.find?_some hd'⟩
      rw [← honce] at hin
      exact (List.mem_singleton.mp hin).trans (Option.some.inj hnd)
    | _ => cases hnd
  subst hsame
  have hzero : d'.home = 0 := by
    by_contra hne
    refine h.kind_frameOf_ne (h.home_lt hmem) hne ?_
    rw [hhome]
  rw [boundIn_ofNotes, ← hzero]
  exact hbound

end Tells

/-! ### Views that carry on -/

/-- **Whether a view carries on another** after edits that concern new labels and new names, the new labels being those
from `next` on: the scopes are the same, a name of the program is bound where it was, and labels have lost their bindings
at most. -/
structure CarriesOn (start : ScopeTree) (next : Nat) (s : ScopeTree) : Prop where
  filed : s.Filed
  shape : s.shape = start.shape
  scopeFor : ∀ {l}, l < next → s.scopeFor l = start.scopeFor l
  boundIn : ∀ {x}, start.boundIn 0 x ≠ none → ∀ k, s.boundIn k x = start.boundIn k x
  bindingFor : ∀ {l}, l < next → s.bindingFor l = start.bindingFor l ∨ s.bindingFor l = none

namespace CarriesOn

variable {start s : ScopeTree} {next k l b m : Nat} {x y : String}

theorem refl (h : s.Filed) : CarriesOn s next s := ⟨h, rfl, fun _ => rfl, fun _ _ => rfl, fun _ => .inl rfl⟩

variable (h : CarriesOn start next s)

include h

theorem size_eq : s.scopes.size = start.scopes.size := size_congr h.shape

/-- What a name of the program means from a scope stays the same. -/
theorem lookup (hx : start.boundIn 0 x ≠ none) (k : Nat) : s.lookup k x = start.lookup k x := by
  rw [lookup_eq, lookup_eq, ancestors_congr h.shape]
  exact congrArg (List.findSome? · _) (funext fun a => h.boundIn hx a)

/-- A name that is free in a scope is no name of the program. -/
theorem boundIn_generateName (hs : start.Nested) (hk : k < start.scopes.size) (base : String) :
    start.boundIn 0 (s.generateName base k) = none := by
  by_contra hx
  have hnone := h.filed.lookup_generateName base k
  rw [h.lookup hx] at hnone
  by_cases hall : ∀ a ∈ start.ancestors k, a ≠ 0 → start.boundIn a (s.generateName base k) = none
  · exact hx ((hs.lookup_outside hk hall).symm.trans hnone)
  · push Not at hall
    obtain ⟨a, ha, hne, hbound⟩ := hall
    obtain ⟨b, hb⟩ := Option.ne_none_iff_exists'.mp hbound
    obtain ⟨-, -, b', -, hl⟩ := hs.lookup_inside hk ha hne hb
    rw [hnone] at hl
    cases hl

theorem setScope (hl : next ≤ l) (k : Nat) : CarriesOn start next (s.setScope l k) where
  filed := h.filed.of_eq rfl rfl h.filed.globals h.filed.globalWrites
  shape := h.shape
  scopeFor hm := by
    rw [scopeFor_insert, if_neg (by omega)]
    exact h.scopeFor hm
  boundIn := h.boundIn
  bindingFor := h.bindingFor

/-- A new name is declared. -/
theorem declare (hk : k < s.scopes.size) (hx : start.boundIn 0 x = none) (hl : next ≤ l) (kind : String)
    (node : Option Tree) : CarriesOn start next (s.declare k l x kind node).1 where
  filed := filed_declare l kind node h.filed hk
  shape := (shape_declare k l x kind node).trans h.shape
  scopeFor hm := by
    rw [ScopeTree.scopeFor, scopeOf_declare]
    exact h.scopeFor hm
  boundIn {y} hy k' := by
    rw [boundIn_declare l kind node hk, if_neg]
    · exact h.boundIn hy k'
    · rintro ⟨-, rfl⟩
      exact hy hx
  bindingFor {m} hm := by
    rw [ScopeTree.bindingFor, bindingOf_declare, if_neg (by omega)]
    exact h.bindingFor hm

theorem addReference (hl : next ≤ l) (k : Nat) (parent : Option (Nat × String)) (writes : Bool) :
    CarriesOn start next (s.addReference l x k parent writes).1 where
  filed := filed_addReference l k parent writes h.filed
  shape := by
    rw [← h.shape]
    funext k'
    rw [ScopeTree.shape, ScopeTree.shape, scopes_addReference]
  scopeFor hm := by
    rw [ScopeTree.scopeFor, scopeOf_addReference]
    exact h.scopeFor hm
  boundIn {y} hy k' := by
    rw [ScopeTree.boundIn, scopes_addReference]
    exact h.boundIn hy k'
  bindingFor {m} hm := by
    cases hf : s.lookup k x with
    | none =>
      rw [addReference_of_missing l k parent writes hf]
      exact h.bindingFor hm
    | some b =>
      rw [addReference_of_found l k parent writes hf, ScopeTree.bindingFor]
      dsimp only
      rw [get?_insert, if_neg (by omega)]
      exact h.bindingFor hm

theorem removeReference (l : Nat) (x : String) : CarriesOn start next (s.removeReference l x) where
  filed := filed_removeReference l h.filed
  shape := by
    rw [← h.shape]
    funext k'
    rw [ScopeTree.shape, ScopeTree.shape, scopes_removeReference]
  scopeFor hm := by
    cases hb : s.bindingFor l with
    | some b =>
      rw [removeReference_of_bound l hb]
      exact h.scopeFor hm
    | none =>
      rw [removeReference_of_global l hb]
      exact h.scopeFor hm
  boundIn {y} hy k' := by
    rw [ScopeTree.boundIn, scopes_removeReference]
    exact h.boundIn hy k'
  bindingFor {m} hm := by
    cases hb : s.bindingFor l with
    | some b =>
      rw [removeReference_of_bound l hb, ScopeTree.bindingFor]
      dsimp only
      rw [get?_erase]
      split
      · exact .inr rfl
      · exact h.bindingFor hm
    | none =>
      rw [removeReference_of_global l hb]
      exact h.bindingFor hm

end CarriesOn

/-! ### What stays recorded -/

section Records

variable {s : ScopeTree} {k l b m : Nat} {x : String}

theorem Records.congr {t : ScopeTree} (h : s.Records b m) (hsame : t.binding b = s.binding b) : t.Records b m := by
  rwa [Records, hsame]

theorem Records.setScope (hm : s.Records b m) (l k : Nat) : (s.setScope l k).Records b m := hm

theorem Records.declare (hm : s.Records b m) (hs : s.Filed) (hb : b < s.bindings.size) (hx : s.boundIn k x = none)
    (kind : String) (node : Option Tree) : (s.declare k l x kind node).1.Records b m := by
  refine hm.congr ?_
  rw [binding_declare l kind node hs, if_neg]
  rw [(declare_of_missing l kind node hx).1]
  exact Nat.ne_of_lt hb

theorem Records.addReference (hm : s.Records b m) (hb : b < s.bindings.size) (l k : Nat) (x : String)
    (parent : Option (Nat × String)) (writes : Bool) : (s.addReference l x k parent writes).1.Records b m := by
  cases hf : s.lookup k x with
  | none =>
    rw [addReference_of_missing l k parent writes hf]
    exact hm
  | some b' =>
    rw [addReference_of_found l k parent writes hf, Records, binding_modify rfl hb]
    split
    · cases writes
      · exact hm.imp (fun h => Array.mem_push.mpr (.inl h)) id
      · exact hm.imp id fun h => Array.mem_push.mpr (.inl h)
    · exact hm

/-- A new use is recorded with the binding that is found for it. -/
theorem records_addReference (hb : b < s.bindings.size) (hf : s.lookup k x = some b) (l : Nat)
    (parent : Option (Nat × String)) (writes : Bool) : (s.addReference l x k parent writes).1.Records b l := by
  rw [addReference_of_found l k parent writes hf, Records, binding_modify rfl hb, if_pos rfl]
  cases writes
  · exact .inl (Array.mem_push.mpr (.inr rfl))
  · exact .inr (Array.mem_push.mpr (.inr rfl))

theorem Records.removeReference (hm : s.Records b m) (hb : b < s.bindings.size) (hne : m ≠ l) (x : String) :
    (s.removeReference l x).Records b m := by
  cases hf : s.bindingFor l with
  | none =>
    rw [removeReference_of_global l hf]
    exact hm
  | some b' =>
    rw [removeReference_of_bound l hf, Records, binding_modify rfl hb]
    split
    · exact hm.imp (fun h => (Array.mem_erase_of_ne hne).mpr h) fun h => (Array.mem_erase_of_ne hne).mpr h
    · exact hm

end Records

namespace CarriesOn

variable {start s : ScopeTree} {next k l b m : Nat} {x : String} (h : CarriesOn start next s)

include h

theorem lt_of_boundIn (hb : start.boundIn 0 x = some b) : b < s.bindings.size := by
  rw [← h.boundIn (by rw [hb]; nofun)] at hb
  exact (h.filed.named hb).1

/-- **A name that is free in a scope is declared there.** -/
theorem declare_generateName (hs : start.Nested) (hk : k < start.scopes.size) (hl : next ≤ l) (base kind : String)
    (node : Option Tree) : CarriesOn start next (s.declare k l (s.generateName base k) kind node).1 ∧
      ∀ {x b m}, start.boundIn 0 x = some b → s.Records b m →
        (s.declare k l (s.generateName base k) kind node).1.Records b m :=
  ⟨h.declare (h.size_eq.symm ▸ hk) (h.boundIn_generateName hs hk base) hl kind node,
    fun hb hm => hm.declare h.filed (h.lt_of_boundIn hb) (h.filed.boundIn_generateName base k) kind node⟩

omit h in
/-- **A new use of a name of the program** is recorded with the binding there, unless a scope inside declares the name. -/
theorem records_addReference {program : Tree} {notes : List Note} (ht : Tells program notes)
    (h : CarriesOn (ofNotes program.label notes) next s) (hk : k < (declared program.label notes).scopes.size)
    (hb : (ofNotes program.label notes).boundIn 0 x = some b) (l : Nat) (parent : Option (Nat × String)) (writes : Bool) :
    DeclaredInside program ((declared program.label notes).framesAround k) x ∨
      (s.addReference l x k parent writes).1.Records b l := by
  have hbare := hb
  rw [boundIn_ofNotes] at hbare
  refine (ht.lookup_or_declaredInside hk hbare).imp id fun hl => ?_
  refine ScopeTree.records_addReference (h.lt_of_boundIn hb) ?_ l parent writes
  rw [h.lookup (by rw [hb]; nofun), lookup_congr (scopes_ofNotes program.label notes), hl]

end CarriesOn

end ScopeTree

end Deminify
