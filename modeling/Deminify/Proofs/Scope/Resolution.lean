import Deminify.Proofs.Scope.Account

/-!
# Names are resolved lexically

The scopes of a program are found in two steps, and so is the proof: the declarations are all carried
out first (`Deminify.ScopeTree.Binds`), and then each use is looked up from the scope it stands in
and recorded. What is recorded is counted, entry by entry (`Deminify.ScopeTree.recordCount`): one
more use adds one to its own entries (`Deminify.ScopeTree.recordCount_resolve`), so the uses together
add up (`Deminify.ScopeTree.recordCount_resolveAll`).

The chain of scopes that a look-up goes through is the list of frames around the name, and **the
binding found is the one of the innermost scope that declares the name**
(`Deminify.ScopeTree.Tells.resolves_lookup`). Since a name is noted once, every use is recorded once,
where it belongs, and nothing else is (`Deminify.ScopeTree.uses_recorded_lexically`).
-/

namespace Deminify

/-- What a binding is but for its uses. -/
def Binding.bare (binding : Binding) : Binding := { binding with references := #[], writes := #[] }

namespace ScopeTree

/-! ### What is recorded -/

/-- An entry under which a use is recorded. -/
inductive Record where
  /-- Among the places that read a binding. -/
  | reads (binding : Nat)
  /-- Among the places that write to a binding. -/
  | writes (binding : Nat)
  /-- Among the global uses of a name. -/
  | global (name : String)
  /-- Among the global writes to a name. -/
  | globalWrite (name : String)
  deriving DecidableEq

/-- How often a label stands under an entry. -/
def recordCount (s : ScopeTree) (label : Nat) : Record → Nat
  | .reads b => (s.binding b).references.count label
  | .writes b => (s.binding b).writes.count label
  | .global name => ((s.globals.lookup name).getD #[]).count label
  | .globalWrite name => ((s.globalWrites.lookup name).getD #[]).count label

/-- **Whether a label is recorded under the given entries**, once each, and under no others. -/
def RecordedAs (s : ScopeTree) (label : Nat) (records : List Record) : Prop :=
  ∀ r, s.recordCount label r = records.count r

/-- The entries of a use of a name, given the binding that is found for it. -/
def recordsOf (name : String) (writes : Bool) : Option Nat → List Record
  | some b => [if writes then .writes b else .reads b]
  | none => if writes then [.global name, .globalWrite name] else [.global name]

/-! ### One use -/

section Resolve

variable {s : ScopeTree}

theorem scopes_resolve (u : Use) : (s.resolve u).scopes = s.scopes := by
  unfold resolve addReference
  dsimp only
  split
  · split <;> rfl
  · rfl

/-- What is found depends on the shape of the scopes and on what is bound in each. -/
theorem lookup_of_shape {t : ScopeTree} (h : t.shape = s.shape) (hb : t.boundIn = s.boundIn) :
    t.lookup = s.lookup := by
  funext k name
  rw [lookup_eq, lookup_eq, ancestors_congr h, hb]

theorem shape_of_scopes {t : ScopeTree} (h : t.scopes = s.scopes) : t.shape = s.shape := by
  funext k
  rw [shape, shape, h]

/-- What is bound depends on the scopes alone. -/
theorem boundIn_of_scopes {t : ScopeTree} (h : t.scopes = s.scopes) : t.boundIn = s.boundIn := by
  funext k name
  rw [boundIn, boundIn, h]

/-- What is found depends on the scopes alone. -/
theorem lookup_congr {t : ScopeTree} (h : t.scopes = s.scopes) : t.lookup = s.lookup :=
  lookup_of_shape (shape_of_scopes h) (boundIn_of_scopes h)

/-- A use that is resolved changes nothing that is found. -/
theorem lookup_resolve (u : Use) : (s.resolve u).lookup = s.lookup := lookup_congr (scopes_resolve u)

theorem size_resolve (u : Use) : (s.resolve u).bindings.size = s.bindings.size := by
  unfold resolve addReference
  dsimp only
  split
  · split <;> rfl
  · exact Array.size_modify

theorem count_push (labels : Array Nat) (a l : Nat) :
    (labels.push a).count l = labels.count l + if a = l then 1 else 0 := by
  simp [Array.count_push]

/-- A label that is listed counts once more for its name. -/
theorem count_pushLabel (table : List (String × Array Nat)) (name name' : String) (a l : Nat) :
    (((pushLabel table name a).lookup name').getD #[]).count l =
      ((table.lookup name').getD #[]).count l + if a = l ∧ name' = name then 1 else 0 := by
  rw [pushLabel, lookup_putKey]
  by_cases h : name' = name
  · subst h
    rw [if_pos rfl, Option.getD_some, count_push]
    simp
  · rw [if_neg h]
    simp [h]

/-- **One more use** adds one to the entries of its own. -/
theorem recordCount_resolve (hb : ∀ k name b, s.lookup k name = some b → b < s.bindings.size) (u : Use)
    (l : Nat) (r : Record) : (s.resolve u).recordCount l r = s.recordCount l r +
      if u.label = l then (recordsOf u.name u.writes (s.lookup u.scope u.name)).count r else 0 := by
  unfold resolve addReference
  dsimp only
  rw [@lookup_congr s { s with parentOf := s.parentOf.insert u.label u.parent } rfl]
  cases hl : s.lookup u.scope u.name with
  | none =>
    dsimp only
    cases r with
    | reads b => cases u.writes <;> simp [recordCount, recordsOf, binding]
    | writes b => cases u.writes <;> simp [recordCount, recordsOf, binding]
    | global name =>
      have hcount := count_pushLabel s.globals u.name name u.label l
      cases u.writes <;> by_cases h : u.label = l <;> by_cases hn : name = u.name <;>
        simp_all [recordCount, recordsOf, eq_comm]
    | globalWrite name =>
      have hcount := count_pushLabel s.globalWrites u.name name u.label l
      cases u.writes <;> by_cases h : u.label = l <;> by_cases hn : name = u.name <;>
        simp_all [recordCount, recordsOf, eq_comm]
  | some b =>
    have hsize := hb _ _ _ hl
    dsimp only
    cases r with
    | reads b' =>
      by_cases h : b = b'
      · subst h
        cases u.writes <;>
          simp [recordCount, recordsOf, binding, editBinding, Array.getElem?_modify,
            Array.getElem?_eq_getElem hsize, Array.count_push]
      · cases u.writes <;> simp [recordCount, recordsOf, binding, editBinding, Array.getElem?_modify, h]
    | writes b' =>
      by_cases h : b = b'
      · subst h
        cases u.writes <;>
          simp [recordCount, recordsOf, binding, editBinding, Array.getElem?_modify,
            Array.getElem?_eq_getElem hsize, Array.count_push]
      · cases u.writes <;> simp [recordCount, recordsOf, binding, editBinding, Array.getElem?_modify, h]
    | global name => cases u.writes <;> simp [recordCount, recordsOf, editBinding]
    | globalWrite name => cases u.writes <;> simp [recordCount, recordsOf, editBinding]

/-- The entries of the uses with a label, given the bindings that are found. -/
def useRecords (s : ScopeTree) (uses : List Use) (l : Nat) : List Record :=
  (uses.filter (·.label == l)).flatMap fun u => recordsOf u.name u.writes (s.lookup u.scope u.name)

/-- **All uses.** -/
theorem recordCount_resolveAll (hb : ∀ k name b, s.lookup k name = some b → b < s.bindings.size)
    (uses : List Use) (l : Nat) (r : Record) : (uses.foldl resolve s).recordCount l r =
      s.recordCount l r + (s.useRecords uses l).count r := by
  induction uses generalizing s with
  | nil => simp [useRecords]
  | cons u rest ih =>
    have hb' : ∀ k name b, (s.resolve u).lookup k name = some b → b < (s.resolve u).bindings.size := by
      rw [lookup_resolve, size_resolve]
      exact hb
    have hrest : (s.resolve u).useRecords rest l = s.useRecords rest l := by
      rw [useRecords, lookup_resolve, useRecords]
    rw [List.foldl_cons, ih hb', hrest, recordCount_resolve hb]
    by_cases h : u.label = l
    · simp [useRecords, h, Nat.add_assoc]
    · simp [useRecords, h]

/-- Uses do not change what the bindings are. -/
theorem bare_resolve (u : Use) (b : Nat) : ((s.resolve u).binding b).bare = (s.binding b).bare := by
  unfold resolve addReference
  dsimp only
  split
  · split <;> rfl
  · simp only [binding, editBinding, Array.getElem?_modify]
    split
    · cases s.bindings[b]? with
      | none => rfl
      | some found => cases u.writes <;> rfl
    · rfl

theorem scopes_resolveAll (uses : List Use) : (uses.foldl resolve s).scopes = s.scopes := by
  induction uses generalizing s with
  | nil => rfl
  | cons u rest ih => rw [List.foldl_cons, ih, scopes_resolve]

theorem size_resolveAll (uses : List Use) :
    (uses.foldl resolve s).bindings.size = s.bindings.size := by
  induction uses generalizing s with
  | nil => rfl
  | cons u rest ih => rw [List.foldl_cons, ih, size_resolve]

/-- Uses that are resolved change no declarations. -/
theorem bare_resolveAll (uses : List Use) (b : Nat) :
    ((uses.foldl resolve s).binding b).bare = (s.binding b).bare := by
  induction uses generalizing s with
  | nil => rfl
  | cons u rest ih => rw [List.foldl_cons, ih, bare_resolve]

end Resolve

/-! ### What is recorded before the uses -/

section Declared

variable {s : ScopeTree} {ds : List Declaration}

/-- What is bound is a binding. -/
theorem Binds.lt (h : s.Binds ds) {k b : Nat} {name : String} (hb : s.boundIn k name = some b) :
    b < s.bindings.size := by
  obtain ⟨binding, -, -, hbinding, -⟩ := h.found hb
  exact (Array.getElem?_eq_some_iff.mp hbinding).1

/-- What is found is a binding. -/
theorem Binds.lookup_lt (h : s.Binds ds) {k b : Nat} {name : String} (hb : s.lookup k name = some b) :
    b < s.bindings.size := by
  rw [lookup_eq] at hb
  obtain ⟨a, -, ha⟩ := List.exists_of_findSome?_eq_some hb
  exact h.lt ha

/-- The binding of a name, and its declarations. -/
theorem Binds.binding_of (h : s.Binds ds) {k b : Nat} {name : String} (hb : s.boundIn k name = some b) :
    ∃ first more, ds.filter (Declaration.isOf k name) = first :: more ∧
      (s.binding b).Of k name first more := by
  obtain ⟨binding, first, more, hbinding, hfilter, hof⟩ := h.found hb
  exact ⟨first, more, hfilter, by rwa [ScopeTree.binding, hbinding, Option.getD_some]⟩

/-- Whether a declaration counts as a write: another one has declared the name before, and this one
gives it a value. -/
def rewrites (s : ScopeTree) (b : Nat) (d : Declaration) : Bool :=
  d.initializes && (s.binding b).identifier != d.label

/-- The entries of a declaration. -/
def rewriteRecords (s : ScopeTree) (d : Declaration) : List Record :=
  match s.boundIn d.home d.name with
  | some b => if s.rewrites b d then [.writes b] else []
  | none => []

/-- The entries of the declarations with a label. -/
def declarationRecords (s : ScopeTree) (ds : List Declaration) (l : Nat) : List Record :=
  (ds.filter (·.label == l)).flatMap s.rewriteRecords

/-- A declaration that gives a value writes to the binding that it repeats. -/
theorem count_rewriteRecords (s : ScopeTree) (d : Declaration) (b : Nat) :
    (s.rewriteRecords d).count (.writes b) =
      if s.boundIn d.home d.name = some b ∧ s.rewrites b d = true then 1 else 0 := by
  unfold rewriteRecords
  split
  · rename_i b' hb
    rw [hb]
    by_cases h : b' = b
    · subst h
      cases s.rewrites b' d <;> simp
    · split <;> simp [h]
  · rename_i hb
    simp [hb]

theorem sum_map_ite {α : Type} (p : α → Prop) [DecidablePred p] (xs : List α) :
    (xs.map fun x => if p x then 1 else 0).sum = xs.countP p := by
  induction xs with
  | nil => rfl
  | cons x rest ih => simp [List.countP_cons, ih, Nat.add_comm]

/-- Declarations count as writes, of those that write. -/
theorem Binds.recordCount_eq (h : s.Binds ds) (hg : s.globals = []) (hw : s.globalWrites = []) (l : Nat)
    (r : Record) : s.recordCount l r = (s.declarationRecords ds l).count r := by
  have hnone (hr : ∀ b, r ≠ .writes b) : (s.declarationRecords ds l).count r = 0 := by
    rw [List.count_eq_zero]
    intro hm
    obtain ⟨d, -, hd⟩ := List.mem_flatMap.mp hm
    unfold rewriteRecords at hd
    split at hd
    · split at hd
      · exact hr _ (List.mem_singleton.mp hd)
      · cases hd
    · cases hd
  cases r with
  | reads b =>
    rw [hnone (by simp), recordCount]
    cases hb : s.bindings[b]? with
    | none => simp [binding, hb, default, instInhabitedBinding.default]
    | some binding =>
      obtain ⟨_, _, -, hof⟩ := h.binding_of (h.numbered hb)
      simp [hof.references]
  | global name => simp [hnone, recordCount, hg]
  | globalWrite name => simp [hnone, recordCount, hw]
  | writes b =>
    rw [declarationRecords, List.count_flatMap]
    simp only [Function.comp_def, count_rewriteRecords]
    rw [sum_map_ite, List.countP_filter, recordCount]
    cases hb : s.bindings[b]? with
    | none =>
      have hnone : ∀ d ∈ ds, ¬(decide (s.boundIn d.home d.name = some b ∧ s.rewrites b d = true) &&
          d.label == l) = true := by
        intro d _ hd
        simp only [Bool.and_eq_true, decide_eq_true_eq] at hd
        have := h.lt hd.1.1
        simp [Array.getElem?_eq_getElem this] at hb
      rw [List.countP_eq_zero.mpr hnone]
      simp [binding, hb, default, instInhabitedBinding.default]
    | some binding =>
      have hnum := h.numbered hb
      obtain ⟨first, more, hfilter, hof⟩ := h.binding_of hnum
      have hbound (d : Declaration) : s.boundIn d.home d.name = some b ↔
          d.isOf binding.scope binding.name = true := by
        simp only [Declaration.isOf, Bool.and_eq_true, beq_iff_eq]
        constructor
        · intro hd
          obtain ⟨_, _, -, hof'⟩ := h.binding_of hd
          exact ⟨hof'.scope.symm.trans hof.scope, hof'.name.symm.trans hof.name⟩
        · rintro ⟨hs, hn⟩
          rw [hs, hn, hnum]
      -- the declarations of the binding, the first of which is its identifier
      have hcount : ds.countP (fun d => decide (s.boundIn d.home d.name = some b ∧
          s.rewrites b d = true) && d.label == l) =
            (ds.filter (Declaration.isOf binding.scope binding.name)).countP fun d =>
              first.isRewrittenBy d && d.label == l := by
        rw [List.countP_filter]
        refine List.countP_congr fun d _ => ?_
        simp only [hbound, rewrites, hof.identifier, Declaration.isRewrittenBy, Bool.and_eq_true,
          decide_eq_true_eq, bne_iff_ne, beq_iff_eq, ne_eq, @eq_comm _ first.label]
        tauto
      rw [hcount, hfilter, List.countP_cons, ← Array.count_toList, hof.writes, List.count_eq_countP,
        List.countP_map, List.countP_filter]
      simp [Declaration.isRewrittenBy, Bool.and_comm]

end Declared

/-! ### A program -/

/-- The number of the binding of a name in the scope with a frame. -/
def bindingAt (s : ScopeTree) (frame : Frame) (name : String) : Option Nat :=
  s.boundIn (s.frames.idxOf frame) name

theorem bindingAt_congr {s t : ScopeTree} (h : t.scopes = s.scopes) : t.bindingAt = s.bindingAt := by
  funext frame name
  simp only [bindingAt, frames, boundIn, h]

/-- Notes that are carried out list no global names. -/
theorem globals_carryOutAll (s : ScopeTree) (notes : List Note) :
    (notes.foldl ScopeTree.carryOut s).globals = s.globals ∧
      (notes.foldl ScopeTree.carryOut s).globalWrites = s.globalWrites := by
  induction notes generalizing s with
  | nil => exact ⟨rfl, rfl⟩
  | cons n rest ih =>
    have hstep : (s.carryOut n).globals = s.globals ∧ (s.carryOut n).globalWrites = s.globalWrites := by
      cases n with
      | declares scope hoisted label name kind node => exact globals_declare label kind (some node)
      | stands label scope =>
        rw [carryOut]
        split <;> exact ⟨rfl, rfl⟩
      | _ => exact ⟨rfl, rfl⟩
    rw [List.foldl_cons, (ih _).1, (ih _).2]
    exact hstep

namespace Tells

variable {program : Tree} {notes : List Note} (h : Tells program notes)

include h

/-- What is bound at the frame of a scope is bound in the scope. -/
theorem bindingAt_frameOf {k : Nat} (hk : k < (declared program.label notes).scopes.size)
    (name : String) : (declared program.label notes).bindingAt
      ((declared program.label notes).frameOf k) name =
        (declared program.label notes).boundIn k name := by
  have hlt : k < (declared program.label notes).frames.length := by simpa [frames] using hk
  rw [bindingAt, frameOf_eq_getElem hlt, h.nodup_frames.idxOf_getElem]

/-- **A look-up finds the scope that the name belongs to**, and its binding there. -/
theorem resolves_lookup {k : Nat} (hk : k < (declared program.label notes).scopes.size)
    (name : String) :
    (∃ frame b, Resolves program name ((declared program.label notes).framesAround k) (some frame) ∧
      (declared program.label notes).bindingAt frame name = some b ∧
        (declared program.label notes).lookup k name = some b) ∨
    (Resolves program name ((declared program.label notes).framesAround k) none ∧
      (declared program.label notes).lookup k name = none) := by
  induction k using Nat.strongRecOn with
  | _ k ih =>
    obtain ⟨x, hx⟩ := exists_shape hk
    rw [h.nested.framesAround_eq hx, lookup_eq, h.nested.ancestors_eq hx, List.findSome?_cons,
      ← frameOf_of_shape hx]
    cases hb : (declared program.label notes).boundIn k name with
    | some b =>
      refine .inl ⟨_, b, .here ((h.declaredIn_iff hk).mpr ⟨b, hb⟩), ?_, rfl⟩
      rw [h.bindingAt_frameOf hk, hb]
    | none =>
      have hnot : ¬DeclaredIn program ((declared program.label notes).frameOf k) name := by
        intro hd
        obtain ⟨b, hb'⟩ := (h.declaredIn_iff hk).mp hd
        rw [hb] at hb'
        cases hb'
      rcases h.nested.outer hx with he | ⟨p, hp, he⟩
      · rw [he]
        exact .inr ⟨.outer hnot .none, rfl⟩
      · rw [he]
        rcases ih p hp (Nat.lt_trans hp hk) with ⟨frame, b, hr, hat, hl⟩ | ⟨hr, hl⟩
        · exact .inl ⟨frame, b, .outer hnot hr, hat, hl⟩
        · exact .inr ⟨.outer hnot hr, hl⟩

/-- **What is recorded of a name**: its declarations that write, and its uses. -/
theorem recordedAs (l : Nat) : (ofNotes program.label notes).RecordedAs l
    ((declared program.label notes).declarationRecords
        ((declared program.label notes).declarations (namings notes l)) l ++
      (declared program.label notes).useRecords ((namings notes l).filterMap Note.use?) l) := by
  intro r
  obtain ⟨hg, hw⟩ := globals_carryOutAll (opening program.label) notes
  have hfilter {α : Type} (p : α → Bool) (xs : List α) : (xs.filter p).filter p = xs.filter p := by
    simp
  rw [show ofNotes program.label notes =
      (notes.filterMap Note.use?).foldl resolve (declared program.label notes) from rfl,
    recordCount_resolveAll (fun _ _ _ => h.binds.lookup_lt), h.binds.recordCount_eq hg hw,
    List.count_append, declarations_namings, uses_namings, declarationRecords, declarationRecords,
    useRecords, useRecords, hfilter, hfilter]

/-- A use is recorded under what is found for it. -/
theorem recordedAs_use {u : Use} (hu : Note.uses u ∈ notes) :
    (ofNotes program.label notes).RecordedAs u.label
      (recordsOf u.name u.writes ((declared program.label notes).lookup u.scope u.name)) := by
  have hrecorded := h.recordedAs u.label
  rw [h.namings_eq hu rfl] at hrecorded
  simpa [declarations, declarationRecords, useRecords, Note.use?] using hrecorded

/-- A declaration is recorded as a write if it is not the first and gives a value. -/
theorem recordedAs_declaration {d : Declaration}
    (hd : d ∈ (declared program.label notes).declarations notes) :
    (ofNotes program.label notes).RecordedAs d.label
      ((declared program.label notes).rewriteRecords d) := by
  have hrecorded := h.recordedAs d.label
  obtain ⟨n, hn, hnd⟩ := List.mem_filterMap.mp hd
  cases n with
  | declares scope hoisted label name kind node =>
    cases hnd
    rw [h.namings_eq hn rfl] at hrecorded
    simpa [declarations, declarationRecords, useRecords, Note.use?, List.filterMap_cons] using hrecorded
  | _ => cases hnd

/-- What is neither used nor declared is not recorded. -/
theorem recordedAs_nothing {l : Nat}
    (hu : ∀ name writes around, ¬Happens program (.use l name writes around))
    (hd : ∀ name home initializes, ¬Happens program (.declares l name home initializes)) :
    (ofNotes program.label notes).RecordedAs l [] := by
  have hnone : namings notes l = [] := by
    rw [namings, List.filter_eq_nil_iff]
    intro n hn hl
    cases n with
    | uses u =>
      have hlabel : u.label = l := by simpa [Note.label?] using hl
      exact hu _ _ _ (h.happens_use_iff.mpr ⟨u, hn, hlabel, rfl, rfl, rfl⟩)
    | declares scope hoisted label name kind node =>
      have hlabel : label = l := by simpa [Note.label?] using hl
      exact hd _ _ _ (h.happens_declares_iff.mpr
        ⟨_, List.mem_filterMap.mpr ⟨_, hn, rfl⟩, hlabel, rfl, rfl, rfl⟩)
    | _ => simp [Note.label?] at hl
  have hrecorded := h.recordedAs l
  rw [hnone] at hrecorded
  exact hrecorded

/-- **A use is recorded where it belongs**: under the binding in the scope that the name belongs to, or as global. -/
theorem recordedAs_of_happens {label : Nat} {name : String} {writes : Bool} {around : List Frame}
    (he : Happens program (.use label name writes around)) :
    (∃ frame b, Resolves program name around (some frame) ∧
      (ofNotes program.label notes).bindingAt frame name = some b ∧
        (ofNotes program.label notes).RecordedAs label (recordsOf name writes (some b))) ∨
    (Resolves program name around none ∧
      (ofNotes program.label notes).RecordedAs label (recordsOf name writes none)) := by
  obtain ⟨u, hu, rfl, rfl, rfl, rfl⟩ := h.happens_use_iff.mp he
  have hrecorded := h.recordedAs_use hu
  have hat : (ofNotes program.label notes).bindingAt = (declared program.label notes).bindingAt :=
    bindingAt_congr (scopes_resolveAll _)
  rw [hat]
  rcases h.resolves_lookup (h.scope_lt hu) u.name with ⟨frame, b, hr, hb, hl⟩ | ⟨hr, hl⟩
  · exact .inl ⟨frame, b, hr, hb, hl ▸ hrecorded⟩
  · exact .inr ⟨hr, hl ▸ hrecorded⟩

end Tells

/-- **Names are resolved lexically, and all of them.** The scopes of a program that has been read hold
a binding of a name under a frame only if the name is declared there. A use is recorded under the
binding in the innermost scope around it that declares the name, or as global if there is none; it is
recorded once. A declaration is recorded as a write if it gives a value to a name that has been
declared before, and nothing else is recorded. -/
theorem uses_recorded_lexically {source : String} {p : Program} (h : Program.read source = .ok p) :
    ∃ view, build p.tree = .ok view ∧
      (∀ frame name b, view.bindingAt frame name = some b → (view.binding b).name = name ∧
        ∃ initializes, Happens p.tree (.declares (view.binding b).identifier name frame initializes)) ∧
      (∀ label name writes around, Happens p.tree (.use label name writes around) →
        (∃ frame b, Resolves p.tree name around (some frame) ∧ view.bindingAt frame name = some b ∧
          view.RecordedAs label (recordsOf name writes (some b))) ∨
        (Resolves p.tree name around none ∧ view.RecordedAs label (recordsOf name writes none))) ∧
      (∀ label name home initializes, Happens p.tree (.declares label name home initializes) →
        ∃ b, view.bindingAt home name = some b ∧ view.RecordedAs label
          (if initializes && (view.binding b).identifier != label then [.writes b] else [])) ∧
      (∀ label, (∀ name writes around, ¬Happens p.tree (.use label name writes around)) →
        (∀ name home initializes, ¬Happens p.tree (.declares label name home initializes)) →
          view.RecordedAs label []) := by
  obtain ⟨notes, hwalk, ht⟩ := exists_tells (Program.is_of_read h) (Program.labelled_of_read h)
  let known := declared p.tree.label notes
  let view := ofNotes p.tree.label notes
  -- to resolve the uses adds records to the bindings and leaves everything else about them
  have hat : view.bindingAt = known.bindingAt := bindingAt_congr (scopes_resolveAll _)
  have hbare (b : Nat) : (view.binding b).bare = (known.binding b).bare := bare_resolveAll _ b
  have hname (b : Nat) : (view.binding b).name = (known.binding b).name :=
    congrArg (·.name) (hbare b)
  have hident (b : Nat) : (view.binding b).identifier = (known.binding b).identifier :=
    congrArg (·.identifier) (hbare b)
  refine ⟨view, by rw [build, hwalk]; rfl, ?_, ?_, ?_, ?_⟩
  · intro frame name b hb
    rw [hat] at hb
    obtain ⟨first, more, hfilter, hof⟩ := ht.binds.binding_of hb
    obtain ⟨hmem, his⟩ := List.mem_filter.mp (hfilter ▸ List.mem_cons_self : first ∈ _)
    simp only [Declaration.isOf, Bool.and_eq_true, beq_iff_eq] at his
    refine ⟨(hname b).trans hof.name, first.initializes, ht.happens_declares_iff.mpr
      ⟨first, hmem, ((hident b).trans hof.identifier).symm, his.2, ?_, rfl⟩⟩
    have hlt : known.frames.idxOf frame < known.frames.length := by
      rw [← his.1, frames, List.length_map, Array.length_toList]
      exact ht.home_lt hmem
    rw [his.1, frameOf_eq_getElem hlt, List.getElem_idxOf]
  · exact fun label name writes around he => ht.recordedAs_of_happens he
  · intro label name home initializes he
    obtain ⟨d, hd, rfl, rfl, rfl, rfl⟩ := ht.happens_declares_iff.mp he
    obtain ⟨b, hb⟩ := ht.binds.exists_boundIn hd
    refine ⟨b, by rw [hat, ht.bindingAt_frameOf (ht.home_lt hd), hb], ?_⟩
    have hrecorded := ht.recordedAs_declaration hd
    rw [rewriteRecords, hb] at hrecorded
    rw [hident]
    exact hrecorded
  · intro label hu hd
    exact ht.recordedAs_nothing hu hd

/-- A name that is read before its declaration, in a program that can be read. -/
theorem uses_recorded_lexically_hoisted : ∃ p view, Program.read "f(a); var a = 1;" = .ok p ∧
    build p.tree = .ok view ∧ ∀ label name writes around,
      Happens p.tree (.use label name writes around) →
        (∃ frame b, Resolves p.tree name around (some frame) ∧ view.bindingAt frame name = some b ∧
          view.RecordedAs label (recordsOf name writes (some b))) ∨
        (Resolves p.tree name around none ∧ view.RecordedAs label (recordsOf name writes none)) := by
  obtain ⟨p, hp⟩ : ∃ p, Program.read "f(a); var a = 1;" = .ok p :=
    Program.exists_of_isOk (by decide +kernel)
  obtain ⟨view, hbuild, -, huses, -⟩ := uses_recorded_lexically hp
  exact ⟨p, view, hp, hbuild, huses⟩

end ScopeTree

end Deminify
