import Deminify.Proofs.Scope.Rename
import Deminify.Proofs.Scope.Tag

/-!
# Renaming a binding to a free name

The names to be spelled anew are those that the binding knows of, and these are the names that declare
it and the uses that are resolved to it (`Deminify.ScopeTree.Tells.mem_identifiers`). So the notes of
the program are spelled anew just where the state is, and the scopes of the renamed program are those
of the program with the one name spelled otherwise. The view that is renamed in place answers in the
same way: **renaming a binding to a name that is generated for it captures nothing**
(`Deminify.ScopeTree.rename_captures_nothing`).
-/

namespace Deminify

/-- A scope without its names. -/
def Scope.bare (c : Scope) : Scope := { c with bindings := [] }

namespace ScopeTree

theorem mem_uses {notes : List Note} {u : Use} :
    u ∈ notes.filterMap Note.use? ↔ Note.uses u ∈ notes := by
  rw [List.mem_filterMap]
  constructor
  · rintro ⟨n, hn, hu⟩
    cases n <;> cases hu
    exact hn
  · exact fun hu => ⟨_, hu, rfl⟩

/-! ### Before the uses and after -/

section Uses

variable (program : Nat) (notes : List Note)

theorem scopes_ofNotes : (ofNotes program notes).scopes = (declared program notes).scopes :=
  scopes_resolveAll _

/-- Uses bind nothing. -/
theorem boundIn_ofNotes : (ofNotes program notes).boundIn = (declared program notes).boundIn :=
  boundIn_of_scopes (scopes_ofNotes program notes)

theorem size_ofNotes : (ofNotes program notes).bindings.size = (declared program notes).bindings.size :=
  size_resolveAll _

/-- Uses leave the declarations alone. -/
theorem bare_ofNotes (b : Nat) :
    ((ofNotes program notes).binding b).bare = ((declared program notes).binding b).bare :=
  bare_resolveAll _ b

end Uses

/-- A write by a declaration is one to the binding that it repeats. -/
theorem exists_of_mem_rewriteRecords {s : ScopeTree} {d : Declaration} {r : Record}
    (h : r ∈ s.rewriteRecords d) : ∃ b, s.boundIn d.home d.name = some b ∧ r = .writes b := by
  unfold rewriteRecords at h
  split at h
  · rename_i b hb
    split at h
    · exact ⟨b, hb, List.mem_singleton.mp h⟩
    · cases h
  · cases h

/-- What is recorded of a use goes to what it has found. -/
theorem found_of_mem_recordsOf {name : String} {writes : Bool} {found : Option Nat} {r : Record} {b : Nat}
    (h : r ∈ recordsOf name writes found) :
    (r = .reads b → found = some b) ∧ (r = .writes b → found = some b) := by
  cases found with
  | none =>
    have hglobal : r = .global name ∨ r = .globalWrite name := by
      cases writes <;> simp_all [recordsOf]
    rcases hglobal with rfl | rfl <;> simp
  | some c => cases writes <;> simp_all [recordsOf]

namespace Tells

variable {program : Tree} {notes : List Note} (h : Tells program notes)

include h

/-! ### The names of a binding -/

/-- What is recorded, entry by entry. -/
theorem recordCount_pos {l : Nat} {r : Record} : 0 < (ofNotes program.label notes).recordCount l r ↔
    (∃ d ∈ (declared program.label notes).declarations notes, d.label = l ∧
      r ∈ (declared program.label notes).rewriteRecords d) ∨
    ∃ u, Note.uses u ∈ notes ∧ u.label = l ∧
      r ∈ recordsOf u.name u.writes ((declared program.label notes).lookup u.scope u.name) := by
  obtain ⟨hg, hw⟩ := globals_carryOutAll (opening program.label) notes
  rw [show ofNotes program.label notes =
      (notes.filterMap Note.use?).foldl resolve (declared program.label notes) from rfl,
    recordCount_resolveAll (fun _ _ _ => h.binds.lookup_lt), h.binds.recordCount_eq hg hw,
    Nat.add_pos_iff_pos_or_pos, List.count_pos_iff, List.count_pos_iff, declarationRecords, useRecords]
  simp only [List.mem_flatMap, List.mem_filter, beq_iff_eq, mem_uses]
  constructor
  · rintro (⟨d, ⟨hd, hl⟩, hr⟩ | ⟨u, ⟨hu, hl⟩, hr⟩)
    · exact .inl ⟨d, hd, hl, hr⟩
    · exact .inr ⟨u, hu, hl, hr⟩
  · rintro (⟨d, hd, hl, hr⟩ | ⟨u, hu, hl, hr⟩)
    · exact .inl ⟨d, ⟨hd, hl⟩, hr⟩
    · exact .inr ⟨u, ⟨hu, hl⟩, hr⟩

/-- The names that declare a binding are those that are declared where it is bound. -/
theorem declares_iff {b l : Nat} (hb : b < (declared program.label notes).bindings.size) :
    l = ((ofNotes program.label notes).binding b).identifier ∨
      l ∈ ((ofNotes program.label notes).binding b).redeclarations ↔
      ∃ d ∈ (declared program.label notes).declarations notes, d.label = l ∧
        (declared program.label notes).boundIn d.home d.name = some b := by
  let known := declared program.label notes
  let view := ofNotes program.label notes
  have hbare : (view.binding b).bare = (known.binding b).bare := bare_ofNotes _ notes b
  have hnum := h.binds.numbered (Array.getElem?_eq_getElem hb)
  obtain ⟨first, more, hfilter, hof⟩ := h.binds.binding_of hnum
  have hident : (view.binding b).identifier = first.label :=
    (congrArg (·.identifier) hbare).trans hof.identifier
  have hagain : (view.binding b).redeclarations.toList =
      (more.filter (·.label != first.label)).map (·.label) :=
    (congrArg (·.redeclarations.toList) hbare).trans hof.redeclarations
  have hdeclares (d : Declaration) : d ∈ first :: more ↔
      d ∈ known.declarations notes ∧ known.boundIn d.home d.name = some b := by
    rw [← hfilter, List.mem_filter]
    refine and_congr_right fun _ => ?_
    simp only [Declaration.isOf, Bool.and_eq_true, beq_iff_eq]
    constructor
    · rintro ⟨hk, hn⟩
      rw [hk, hn]
      exact hnum
    · intro hd
      obtain ⟨_, _, -, hof'⟩ := h.binds.binding_of hd
      exact ⟨hof'.scope.symm.trans hof.scope, hof'.name.symm.trans hof.name⟩
  rw [hident, ← Array.mem_toList_iff, hagain]
  constructor
  · rintro (rfl | hl)
    · obtain ⟨hd, hbound⟩ := (hdeclares first).mp List.mem_cons_self
      exact ⟨first, hd, rfl, hbound⟩
    · obtain ⟨d, hd, rfl⟩ := List.mem_map.mp hl
      obtain ⟨hd, hbound⟩ := (hdeclares d).mp (List.mem_cons_of_mem _ (List.mem_filter.mp hd).1)
      exact ⟨d, hd, rfl, hbound⟩
  · rintro ⟨d, hd, rfl, hbound⟩
    rcases List.mem_cons.mp ((hdeclares d).mpr ⟨hd, hbound⟩) with rfl | hm
    · exact .inl rfl
    · by_cases he : d.label = first.label
      · exact .inl he
      · exact .inr (List.mem_map.mpr ⟨d, List.mem_filter.mpr ⟨hm, by simpa using he⟩, rfl⟩)

/-- **The names that a binding knows of** are those that declare it and those that are resolved to
it. -/
theorem mem_identifiers {b l : Nat} (hb : b < (declared program.label notes).bindings.size) :
    l ∈ ((ofNotes program.label notes).binding b).identifiers ↔
      (∃ u, Note.uses u ∈ notes ∧ u.label = l ∧
        (declared program.label notes).lookup u.scope u.name = some b) ∨
      ∃ d ∈ (declared program.label notes).declarations notes, d.label = l ∧
        (declared program.label notes).boundIn d.home d.name = some b := by
  have hsplit : l ∈ ((ofNotes program.label notes).binding b).identifiers ↔
      (l = ((ofNotes program.label notes).binding b).identifier ∨
        l ∈ ((ofNotes program.label notes).binding b).redeclarations) ∨
      0 < (ofNotes program.label notes).recordCount l (.reads b) ∨
        0 < (ofNotes program.label notes).recordCount l (.writes b) := by
    simp [Binding.identifiers, recordCount, Array.count_pos_iff, or_assoc]
  rw [hsplit, h.declares_iff hb, h.recordCount_pos, h.recordCount_pos]
  constructor
  · rintro (hd | (⟨d, -, -, hr⟩ | ⟨u, hu, hl, hr⟩) | ⟨d, hd, hl, hr⟩ | ⟨u, hu, hl, hr⟩)
    · exact .inr hd
    · obtain ⟨_, -, hr⟩ := exists_of_mem_rewriteRecords hr
      cases hr
    · exact .inl ⟨u, hu, hl, (found_of_mem_recordsOf hr).1 rfl⟩
    · obtain ⟨_, hbound, hr⟩ := exists_of_mem_rewriteRecords hr
      cases hr
      exact .inr ⟨d, hd, hl, hbound⟩
    · exact .inl ⟨u, hu, hl, (found_of_mem_recordsOf hr).2 rfl⟩
  · rintro (⟨u, hu, hl, hfound⟩ | hd)
    · by_cases hw : u.writes = true
      · refine .inr (.inr (.inr ⟨u, hu, hl, ?_⟩))
        simp [hfound, recordsOf, hw]
      · refine .inr (.inl (.inr ⟨u, hu, hl, ?_⟩))
        simp [hfound, recordsOf, hw]
    · exact .inl hd

/-- The scopes of a view that is built are nested. -/
theorem nested_ofNotes : (ofNotes program.label notes).Nested := by
  have hscopes := scopes_ofNotes program.label notes
  have hshape := shape_of_scopes hscopes
  refine ⟨hshape ▸ h.nested.root, hshape ▸ h.nested.around, fun k d => ?_⟩
  rw [childCount, hscopes, hshape]
  exact h.nested.children k d

/-- A name that is not in use is free in what the notes declare. -/
theorem freeAround {k : Nat} {new : String} (hfree : (ofNotes program.label notes).nameInUse k new = false) :
    (declared program.label notes).FreeAround k new := by
  have hscopes := scopes_ofNotes program.label notes
  have hshape := shape_of_scopes hscopes
  have hfree := h.nested_ofNotes.freeAround hfree
  rwa [FreeAround, ancestors_congr hshape, boundIn_of_scopes hscopes] at hfree

end Tells

/-! ### A free name for a binding -/

/-- A binding of a program, the scope and the name that it has, and a name that is free there. -/
structure Renames (program : Tree) (notes : List Note) (b k : Nat) (old new : String) : Prop where
  tells : Tells program notes
  bound : (declared program.label notes).boundIn k old = some b
  free : (ofNotes program.label notes).nameInUse k new = false

/-- The spelling in which a binding has a new name. -/
def spelling (program : Nat) (notes : List Note) (b : Nat) (new : String) : Nat → String → String :=
  Tree.renamed ((ofNotes program notes).binding b).identifiers new

namespace Renames

variable {program : Tree} {notes : List Note} {b k : Nat} {old new : String}
  (h : Renames program notes b k old new)

include h

theorem freeAround : (declared program.label notes).FreeAround k new := h.tells.freeAround h.free

theorem boundIn_new : (declared program.label notes).boundIn k new = none :=
  h.freeAround.boundIn h.tells.nested h.bound

theorem old_ne : old ≠ new := by
  rintro rfl
  have hnew := h.boundIn_new
  rw [h.bound] at hnew
  cases hnew

/-- No other name has the binding. -/
theorem bound_iff {i : Nat} {x : String} :
    (declared program.label notes).boundIn i x = some b ↔ i = k ∧ x = old := by
  constructor
  · intro hb
    obtain ⟨_, _, -, hof⟩ := h.tells.binds.binding_of h.bound
    obtain ⟨_, _, -, hof'⟩ := h.tells.binds.binding_of hb
    exact ⟨hof'.scope.symm.trans hof.scope, hof'.name.symm.trans hof.name⟩
  · rintro ⟨rfl, rfl⟩
    exact h.bound

/-! ### What is spelled anew -/

/-- A name that is declared is spelled anew if it declares the binding. -/
theorem mem_identifiers_declares {scope : Nat} {hoisted : Bool} {l : Nat} {x kind : String} {node : Tree}
    (hn : Note.declares scope hoisted l x kind node ∈ notes) :
    l ∈ ((ofNotes program.label notes).binding b).identifiers ↔
      (declared program.label notes).home hoisted scope = k ∧ x = old := by
  have honly := h.tells.namings_eq hn rfl
  rw [h.tells.mem_identifiers (h.tells.binds.lt h.bound), ← h.bound_iff]
  constructor
  · rintro (⟨u, hu, rfl, -⟩ | ⟨d, hd, rfl, hb⟩)
    · rw [h.tells.namings_eq hu rfl] at honly
      simp at honly
    · obtain ⟨m, hm, hmd⟩ := List.mem_filterMap.mp hd
      cases m with
      | declares scope' hoisted' l' x' kind' node' =>
        cases hmd
        rw [h.tells.namings_eq hm rfl] at honly
        simp only [List.cons.injEq, Note.declares.injEq, and_true] at honly
        obtain ⟨rfl, rfl, -, rfl, -⟩ := honly
        exact hb
      | _ => cases hmd
  · exact fun hb => .inr ⟨_, List.mem_filterMap.mpr ⟨_, hn, rfl⟩, rfl, hb⟩

/-- A name that is used is spelled anew if it is resolved to the binding. -/
theorem mem_identifiers_uses {u : Use} (hu : Note.uses u ∈ notes) :
    u.label ∈ ((ofNotes program.label notes).binding b).identifiers ↔
      (declared program.label notes).lookup u.scope u.name = some b := by
  have honly := h.tells.namings_eq hu rfl
  rw [h.tells.mem_identifiers (h.tells.binds.lt h.bound)]
  constructor
  · rintro (⟨w, hw, hl, hb⟩ | ⟨d, hd, hl, -⟩)
    · rw [h.tells.namings_eq hw (congrArg some hl)] at honly
      simp only [List.cons.injEq, Note.uses.injEq, and_true] at honly
      exact honly ▸ hb
    · obtain ⟨m, hm, hmd⟩ := List.mem_filterMap.mp hd
      cases m with
      | declares scope hoisted l x kind node =>
        cases hmd
        rw [h.tells.namings_eq hm (congrArg some hl)] at honly
        simp at honly
      | _ => cases hmd
  · exact fun hb => .inl ⟨u, hu, rfl, hb⟩

/-- **Declarations are spelled as the state is.** -/
theorem spelledAs {n : Note} (hn : n ∈ notes) :
    n.SpelledAs k old new (spelling program.label notes b new) (declared program.label notes) := by
  cases n with
  | declares scope hoisted l x kind node =>
    refine ⟨?_, fun hc => ?_⟩
    · rw [spelling, Tree.renamed]
      simp only [List.contains_eq_mem, decide_eq_true_eq, h.mem_identifiers_declares hn]
    · obtain ⟨c, hbound⟩ := h.tells.binds.exists_boundIn (List.mem_filterMap.mpr ⟨_, hn, rfl⟩)
      rw [hc.1, hc.2, h.boundIn_new] at hbound
      cases hbound
  | _ => trivial

/-- A use of the new name from inside the scope would be global, so there is none. -/
theorem not_mem_ancestors {u : Use} (hu : Note.uses u ∈ notes) (hx : u.name = new) :
    k ∉ (declared program.label notes).ancestors u.scope := by
  intro hk
  have hnone : (declared program.label notes).lookup u.scope u.name = none := by
    rw [lookup_eq, List.findSome?_eq_none_iff, hx]
    exact h.freeAround u.scope hk
  have hcount := h.tells.recordedAs_use hu (.global new)
  have hfree := h.free
  simp only [nameInUse, Bool.or_eq_false_iff, Bool.not_eq_false', Array.isEmpty_iff] at hfree
  rw [hnone, hx, recordCount, hfree.1.1.2] at hcount
  cases hw : u.writes <;> simp [recordsOf, hw] at hcount

/-- **Uses are spelled as the state is.** -/
theorem spelledAs_use {u : Use} (hu : Note.uses u ∈ notes) :
    u.SpelledAs k old new (spelling program.label notes b new) (declared program.label notes) := by
  have hi : u.scope < (declared program.label notes).scopes.size := h.tells.scope_lt hu
  by_cases hb : (declared program.label notes).lookup u.scope u.name = some b
  · have hmem := (h.mem_identifiers_uses hu).mpr hb
    have hσ : spelling program.label notes b new u.label u.name = new := by
      simp [spelling, Tree.renamed, hmem]
    -- the scope of the binding is one of those around the use
    have hk : k ∈ (declared program.label notes).ancestors u.scope := by
      rw [lookup_eq] at hb
      obtain ⟨a, ha, hab⟩ := List.exists_of_findSome?_eq_some hb
      exact (h.bound_iff.mp hab).1 ▸ ha
    refine ⟨?_, fun hnone => ?_⟩
    · rw [hσ, lookup_spelled_new h.tells.nested h.freeAround h.old_ne h.bound hi hk, hb]
    · rw [hb] at hnone
      cases hnone
  · have hmem := mt (h.mem_identifiers_uses hu).mp hb
    have hσ : spelling program.label notes b new u.label u.name = u.name := by
      simp [spelling, Tree.renamed, hmem]
    refine ⟨?_, fun _ => hσ⟩
    rw [hσ, lookup_spelled_other h.tells.nested h.boundIn_new h.old_ne h.bound hi
      (h.not_mem_ancestors hu) hb]

/-- **The scopes that the respelled notes tell of** are those of the program with the one name spelled
otherwise. -/
theorem ofNotes_respell :
    ofNotes program.label (notes.map (Note.respell (spelling program.label notes b new))) =
      (ofNotes program.label notes).spelled k old new := by
  have hopening : (opening program.label).spelled k old new = opening program.label := by
    have hscopes : (opening program.label).scopes.modify k (Scope.spelled old new) =
        (opening program.label).scopes := by
      refine Array.ext_getElem? fun i => ?_
      rw [Array.getElem?_modify]
      cases i <;> simp [opening, newScope, Scope.spelled]
    rw [spelled, hscopes, show (opening program.label).bindings = #[] from rfl, Array.map_empty]
    rfl
  have huses : (notes.map (Note.respell (spelling program.label notes b new))).filterMap Note.use? =
      (notes.filterMap Note.use?).map (Use.respell (spelling program.label notes b new)) := by
    rw [List.filterMap_map, List.map_filterMap]
    refine List.filterMap_congr fun n _ => ?_
    cases n <;> rfl
  have hdeclared := carryOutAll_spelled (nested_opening program.label) h.tells.bounded
    (show (opening program.label).boundIn k new = none by cases k <;> rfl) h.old_ne
    (fun n hn => h.spelledAs hn)
  rw [hopening] at hdeclared
  rw [show ofNotes program.label (notes.map (Note.respell (spelling program.label notes b new))) =
      ((notes.map (Note.respell (spelling program.label notes b new))).filterMap Note.use?).foldl resolve
        ((notes.map (Note.respell (spelling program.label notes b new))).foldl carryOut
          (opening program.label)) from rfl, huses, hdeclared]
  exact resolveAll_spelled fun u hu => h.spelledAs_use (mem_uses.mp hu)

end Renames

/-! ### Taking a binding from its scope -/

section Unbind

variable {s : ScopeTree} {b : Nat}
  (hown : s.boundIn (s.binding b).scope (s.binding b).name = some b)

include hown

/-- What is bound once a binding is taken from its scope. -/
theorem boundIn_unbind (i : Nat) (x : String) : (s.unbind b).boundIn i x =
    if i = (s.binding b).scope ∧ x = (s.binding b).name then none else s.boundIn i x := by
  rw [unbind, boundIn_editScope]
  by_cases hi : (s.binding b).scope = i
  · subst hi
    cases hc : s.scopes[(s.binding b).scope]? with
    | none => simp [boundIn, hc]
    | some c =>
      have hbound : c.bindings.lookup (s.binding b).name = some b := by
        simpa [boundIn, hc] using hown
      simp [hbound, boundIn, hc, @eq_comm _ (s.binding b).name]
  · rw [if_neg hi, if_neg fun hc => hi hc.1.symm]

/-- What is bound once a binding has another name. -/
theorem boundIn_rename (new : String) (i : Nat) (x : String) :
    (s.renameBinding b new).1.boundIn i x = if i = (s.binding b).scope ∧ x = new then some b
      else if i = (s.binding b).scope ∧ x = (s.binding b).name then none else s.boundIn i x := by
  let unbound := (s.unbind b).editBinding b fun binding => { binding with name := new }
  have hunbound (i : Nat) (x : String) : unbound.boundIn i x = (s.unbind b).boundIn i x := rfl
  rw [← boundIn_unbind hown, ← hunbound, show (s.renameBinding b new).1 =
    unbound.editScope (s.binding b).scope fun c => { c with bindings := putKey c.bindings new b } from rfl,
    boundIn_editScope]
  by_cases hi : (s.binding b).scope = i
  · subst hi
    have hlt : (s.binding b).scope < unbound.scopes.size := by
      refine Nat.lt_of_not_le fun hle => ?_
      rw [boundIn, Array.getElem?_eq_none (by simpa [unbound, unbind, editBinding, editScope] using hle)]
        at hown
      cases hown
    have hget := Array.getElem?_eq_getElem hlt
    rw [if_pos rfl, hget, Option.bind_some, lookup_putKey, boundIn, hget, Option.bind_some]
    simp
  · rw [if_neg hi, if_neg fun hc => hi hc.1.symm]

end Unbind

/-! ### Renaming in place -/

section InPlace

variable {s : ScopeTree} {b : Nat} {new : String}
  (hnum : ∀ {i binding}, s.bindings[i]? = some binding →
    s.boundIn binding.scope binding.name = some i)
  (hb : b < s.bindings.size)

/-- A renaming changes no shape. -/
theorem shape_renameBinding (s : ScopeTree) (b : Nat) (new : String) :
    (s.renameBinding b new).1.shape = s.shape := by
  let unbound := (s.unbind b).editBinding b fun binding => { binding with name := new }
  have hunbind : unbound.shape = s.shape := by
    refine @shape_editScope s _ (fun c => ?_) (s.binding b).scope
    split <;> exact ⟨rfl, rfl, rfl⟩
  have hput : (s.renameBinding b new).1.shape = unbound.shape :=
    @shape_editScope unbound (fun c => { c with bindings := putKey c.bindings new b })
      (fun _ => ⟨rfl, rfl, rfl⟩) (s.binding b).scope
  rw [hput, hunbind]

include hnum hb

theorem boundIn_binding : s.boundIn (s.binding b).scope (s.binding b).name = some b := by
  have hget := Array.getElem?_eq_getElem hb
  rw [binding, hget, Option.getD_some]
  exact hnum hget

/-- A renaming in place has the bindings of the spelling. -/
theorem bindings_renameBinding : (s.renameBinding b new).1.bindings =
    (s.spelled (s.binding b).scope (s.binding b).name new).bindings := by
  refine Array.ext_getElem? fun i => ?_
  rw [show (s.renameBinding b new).1.bindings =
      s.bindings.modify b fun binding => { binding with name := new } from rfl,
    show (s.spelled (s.binding b).scope (s.binding b).name new).bindings =
      s.bindings.map (Binding.spelled (s.binding b).scope (s.binding b).name new) from rfl,
    Array.getElem?_modify, Array.getElem?_map]
  cases hi : s.bindings[i]? with
  | none => simp
  | some found =>
    by_cases he : b = i
    · subst he
      have hfound : s.binding b = found := by rw [binding, hi, Option.getD_some]
      simp [Binding.spelled, hfound]
    · have hne : ¬(found.scope = (s.binding b).scope ∧ found.name = (s.binding b).name) := by
        rintro ⟨hscope, hname⟩
        have hother := hnum hi
        rw [hscope, hname, boundIn_binding hnum hb] at hother
        exact he (Option.some.inj hother)
      simp [Binding.spelled, he, hne]

/-- **A renaming in place binds what the new spelling binds.** -/
theorem boundIn_renameBinding (hfree : s.boundIn (s.binding b).scope new = none) :
    (s.renameBinding b new).1.boundIn =
      (s.spelled (s.binding b).scope (s.binding b).name new).boundIn := by
  have hown := boundIn_binding hnum hb
  have hne : (s.binding b).name ≠ new := by
    rintro he
    rw [he, hfree] at hown
    cases hown
  funext i x
  rw [boundIn_spelled hfree hne, boundIn_rename hown]
  by_cases hi : i = (s.binding b).scope
  · subst hi
    by_cases hx : x = new
    · simp [hx, hown]
    · simp [hx]
  · simp [hi]

end InPlace

/-! ### A program -/

/-- The label of the name that declares what the name with a label means. -/
def declarerOf (s : ScopeTree) (l : Nat) : Option Nat :=
  (s.bindingFor l).map fun b => (s.binding b).identifier

/-- What is known of the binding that a name with a label has. -/
def bindingOf? (s : ScopeTree) (l : Nat) : Option Binding := (s.bindingFor l).map s.binding

/-- A name that is found is no markup tag if it does not begin with a small letter. -/
theorem isMarkupName_generateName (s : ScopeTree) (base : String) (k : Nat)
    (h : ∀ c ∈ (s.generateName base k).toList.head?, c.isLower = false) :
    isMarkupName (s.generateName base k) = false := by
  have hdash : (s.generateName base k).toList.contains '-' = false := by
    rw [List.contains_eq_mem, decide_eq_false_iff_not]
    exact fun hm => absurd (isPlain_generateName s base k _ hm) (by decide)
  rw [isMarkupName, hdash, Bool.or_false]
  split
  · rename_i c rest hc
    rw [hc] at h
    have hlower := h c rfl
    simpa [Char.isLower, Char.le_def, and_comm] using hlower
  · rfl

section Program

variable {source : String} {p : Program} (h : Program.read source = .ok p)

include h

/-- The scopes of a program come from notes that tell of it. -/
theorem exists_notes {view : ScopeTree} (hv : build p.tree = .ok view) :
    ∃ notes, walk p.tree.height (allChildren p.tree 0 .normal) 1 = .ok notes ∧ Tells p.tree notes ∧
      view = ofNotes p.tree.label notes := by
  obtain ⟨notes, hw, ht⟩ := exists_tells (Program.is_of_read h) (Program.labelled_of_read h)
  refine ⟨notes, hw, ht, ?_⟩
  rw [build, hw] at hv
  exact (Except.ok.inj hv).symm

omit h in
/-- The bindings of a program are those of their names. -/
theorem Tells.numbered {program : Tree} {notes : List Note} (ht : Tells program notes) {i : Nat}
    {binding : Binding} (hi : (ofNotes program.label notes).bindings[i]? = some binding) :
    (ofNotes program.label notes).boundIn binding.scope binding.name = some i := by
  have hlt : i < (declared program.label notes).bindings.size := by
    rw [← size_ofNotes]
    exact (Array.getElem?_eq_some_iff.mp hi).1
  have hbare := bare_ofNotes program.label notes i
  rw [ScopeTree.binding, hi, Option.getD_some] at hbare
  rw [boundIn_ofNotes, show binding.scope = _ from congrArg (·.scope) hbare,
    show binding.name = _ from congrArg (·.name) hbare]
  exact boundIn_binding ht.binds.numbered hlt

omit h in
/-- A name that is generated for a program is not in use. -/
theorem Tells.nameInUse_generateName {program : Tree} {notes : List Note} (ht : Tells program notes)
    (base : String) (k : Nat) : (ofNotes program.label notes).nameInUse k
      ((ofNotes program.label notes).generateName base k) = false := by
  refine ScopeTree.nameInUse_generateName (fun {k x c} hc => ?_) base _
  rw [boundIn_ofNotes] at hc
  have hlt : c < (ofNotes program.label notes).bindings.size := by
    rw [size_ofNotes]
    exact ht.binds.lt hc
  obtain ⟨_, _, -, hof⟩ := ht.binds.binding_of hc
  have hget := Array.getElem?_eq_getElem hlt
  have hbare := bare_ofNotes program.label notes c
  rw [binding, hget, Option.getD_some] at hbare
  exact ⟨_, hget, (congrArg (·.name) hbare).trans hof.name⟩

omit h in
/-- A binding of a program and a name that is generated for it. -/
theorem Tells.renames {program : Tree} {notes : List Note} (ht : Tells program notes) {b : Nat}
    (hb : b < (ofNotes program.label notes).bindings.size) (base : String) :
    Renames program notes b ((ofNotes program.label notes).binding b).scope
      ((ofNotes program.label notes).binding b).name
      ((ofNotes program.label notes).generateName base ((ofNotes program.label notes).binding b).scope) := by
  have hown := boundIn_binding ht.numbered hb
  rw [boundIn_ofNotes] at hown
  exact ⟨ht, hown, ht.nameInUse_generateName base _⟩

/-- **Renaming a binding captures nothing.** Let a binding of a program that has been read get a name
that is generated for its scope. Unless the name starts like one of the markup and some element is
called by the binding, the scopes of the renamed program are those of the program: every name means
what it meant, global names included, and the binding has the new name. The view that is renamed in
place says the same of every name, and finds the same for every name from every scope. -/
theorem rename_captures_nothing {d : Document} (hd : d.root = p.tree) {view : ScopeTree}
    (hv : build p.tree = .ok view) {b : Nat} (hb : b < view.bindings.size) (base : String)
    (hmarkup : (∀ c ∈ (view.generateName base (view.binding b).scope).toList.head?, c.isLower = false) ∨
      ∀ t ∈ p.tree.subtree, isTag t → (t.get "name").label ∉ (view.binding b).identifiers) :
    let name := view.generateName base (view.binding b).scope
    let renamed := view.renameBinding b name
    ∃ fresh, build (d.rename renamed.2 name).root = .ok fresh ∧
      fresh.scopes.map Scope.bare = view.scopes.map Scope.bare ∧ fresh.scopeFor = view.scopeFor ∧
      (∀ l, fresh.declarerOf l = view.declarerOf l) ∧ fresh.globals = view.globals ∧
      fresh.globalWrites = view.globalWrites ∧
      fresh.bindings = view.bindings.modify b (fun binding => { binding with name }) ∧
      (∀ l, renamed.1.bindingOf? l = fresh.bindingOf? l) ∧
      ∀ k x, renamed.1.binding? k x = fresh.binding? k x := by
  intro name renamed
  obtain ⟨notes, hw, ht, rfl⟩ := exists_notes h hv
  let view := ofNotes p.tree.label notes
  have hp := Program.is_of_read h
  have hr := ht.renames hb base
  -- what is renamed are names only: each identifier of the binding is used or declared somewhere
  have hnamed : ∀ l ∈ (view.binding b).identifiers, Named p.tree l := by
    intro l hl
    rcases (ht.mem_identifiers (ht.binds.lt hr.bound)).mp hl with ⟨u, hu, rfl, -⟩ | ⟨e, he, rfl, -⟩
    · exact ⟨_, ht.happens_use_iff.mpr ⟨u, hu, rfl, rfl, rfl, rfl⟩, rfl⟩
    · exact ⟨_, ht.happens_declares_iff.mpr ⟨e, he, rfl, rfl, rfl, rfl⟩, rfl⟩
  have hthis : name ≠ "this" := by
    intro he
    have hfree := hr.free
    rw [show view.generateName base (view.binding b).scope = "this" from he] at hfree
    simp [nameInUse, reservedWords] at hfree
  -- to rename these is to respell the tree, and the scopes of a respelled tree are built from respelled notes
  have hroot : (d.rename renamed.2 name).root =
      p.tree.respell (spelling p.tree.label notes b name) := by
    rw [Document.rename, if_neg (by simp [renamed, renameBinding, Binding.identifiers]), hd]
    exact Tree.mapObjs_rename name fun r hrec hl =>
      exists_name_of_named hp (Program.nodup_labels_of_read h) (hnamed _ hl) hrec
  have htags := tagKept_renamed hp (Program.labelled_of_read h) hnamed hthis
    (hmarkup.imp_left (isMarkupName_generateName view base _))
  have hbuild := build_respell (spelling p.tree.label notes b name) hp htags hw
  rw [hr.ofNotes_respell] at hbuild
  have hbindings := @bindings_renameBinding view b name ht.numbered hb
  have hfree : view.boundIn (view.binding b).scope name = none := by
    rw [boundIn_ofNotes]
    exact hr.boundIn_new
  -- the view that is renamed in place is of the same shape, and binds the same names, as the one built anew
  have hlookup : renamed.1.lookup =
      (view.spelled (view.binding b).scope (view.binding b).name name).lookup :=
    lookup_of_shape ((shape_renameBinding view b name).trans (shape_spelled _ _ _).symm)
      (boundIn_renameBinding ht.numbered hb hfree)
  have hbinding : renamed.1.binding =
      (view.spelled (view.binding b).scope (view.binding b).name name).binding := by
    funext i
    rw [binding, binding, hbindings]
  refine ⟨view.spelled (view.binding b).scope (view.binding b).name name, hroot ▸ hbuild, ?_, rfl, fun l => ?_, rfl, rfl, hbindings.symm, fun l => ?_, fun k x => ?_⟩
  · refine Array.ext_getElem? fun i => ?_
    simp only [spelled, Array.getElem?_map, Array.getElem?_modify]
    split
    · cases view.scopes[i]? <;> rfl
    · rfl
  · simp only [declarerOf, identifier_spelled]
    rfl
  · rw [bindingOf?, bindingOf?, hbinding]
    rfl
  · rw [binding?, binding?, hlookup, hbinding]

end Program

/-- A check of a program and its scopes that succeeds. -/
theorem exists_of_check {source : String} {check : Program → ScopeTree → Bool}
    (h : ((Program.read source).toOption.bind fun p => (build p.tree).toOption.map (check p)) =
      some true) :
    ∃ p view, Program.read source = .ok p ∧ build p.tree = .ok view ∧ check p view = true := by
  obtain ⟨p, hp, h⟩ := Option.bind_eq_some_iff.mp h
  obtain ⟨view, hv, hcheck⟩ := Option.map_eq_some_iff.mp h
  exact ⟨p, view, eq_ok_of_toOption hp, eq_ok_of_toOption hv, hcheck⟩

/-- A check of the scopes of a program that succeeds. -/
theorem exists_of_checked {source : String} {check : ScopeTree → Bool}
    (h : ((Program.read source).toOption.bind fun p => (build p.tree).toOption).any check = true) :
    ∃ p view, Program.read source = .ok p ∧ build p.tree = .ok view ∧ check view = true := by
  obtain ⟨view, hv, hcheck⟩ := Option.any_eq_true _ _ |>.mp h
  obtain ⟨p, hp, hv⟩ := Option.bind_eq_some_iff.mp hv
  exact ⟨p, view, eq_ok_of_toOption hp, eq_ok_of_toOption hv, hcheck⟩

/-- A program with an element, whose first binding gets a name that a function inside has taken. -/
theorem rename_captures_nothing_element :
    ∃ p view fresh, Program.read "var A = 1; function f(B) { return <A b={B} />; }" = .ok p ∧
      build p.tree = .ok view ∧ view.generateName "B" (view.binding 0).scope = "B_1" ∧
      build ((⟨p.tree, [], p.next⟩ : Document).rename (view.renameBinding 0 "B_1").2 "B_1").root =
        .ok fresh ∧
      (∀ l, fresh.declarerOf l = view.declarerOf l) ∧ fresh.globals = view.globals := by
  obtain ⟨p, view, hp, hv, hcheck⟩ := @exists_of_checked
    "var A = 1; function f(B) { return <A b={B} />; }"
    (fun view => 0 < view.bindings.size && view.generateName "B" (view.binding 0).scope == "B_1")
    (by decide +kernel)
  simp only [Bool.and_eq_true, decide_eq_true_eq, beq_iff_eq] at hcheck
  obtain ⟨hb, hname⟩ := hcheck
  have hlower : ∀ c ∈ (view.generateName "B" (view.binding 0).scope).toList.head?, c.isLower = false := by
    intro c hc
    rw [hname, show "B_1".toList.head? = some 'B' from rfl] at hc
    cases hc
    rfl
  obtain ⟨fresh, hbuild, -, -, hdeclarer, hglobals, -⟩ :=
    @rename_captures_nothing _ _ hp ⟨p.tree, [], p.next⟩ rfl _ hv 0 hb "B" (.inl hlower)
  rw [hname] at hbuild
  exact ⟨p, view, fresh, hp, hv, hname, hbuild, hdeclarer, hglobals⟩

end ScopeTree

end Deminify
