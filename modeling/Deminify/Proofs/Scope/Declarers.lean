import Deminify.Proofs.Scope.Capture
import Deminify.Proofs.Scope.Index

/-!
# The declarations and the writes of a name

There are three ways to write to a name after it has been declared: it is the target of an assignment,
of an increment or of a loop (`Deminify.AssignsTo`), it is declared once more with a value
(`Deminify.GivesValue`), or it is declared in the head of a loop over keys or items, which gives it a
value in each round (`Deminify.GetsRounds`). The first is found where names are used and the second
where they are declared.

**These two are recorded, and exactly these** (`Deminify.ScopeTree.writes_recorded`): the third goes
unseen, since a declaration counts as a write by its initial value alone, which a declaration in the
head of a loop does not have. So a binding that is constant by its records is not assigned to and not
declared again with a value, but it may well be written to by a loop
(`Deminify.ScopeTree.constant_rewritten_by_loop`).

The scopes of a program know of each use to which binding it belongs, and of each binding by which names
it is declared. So they know of each use which names declare it (`Deminify.ScopeTree.declarersOf`), and
**these are the declarations in the scope that the name belongs to**
(`Deminify.ScopeTree.Tells.mem_declarersOf`). The other way round, the uses of what a name declares
(`Deminify.UsedBy`) are the names that its binding knows of and that do not declare it
(`Deminify.ScopeTree.usedBy_iff`).
-/

namespace Deminify

/-! ### Ways to write to a name -/

/-- **Whether a name is a target** that means the name declared in a scope: of an assignment, of an
increment, or of a loop over keys or items. -/
def AssignsTo (program : Tree) (frame : Frame) (name : String) (l : Nat) : Prop :=
  ∃ around, Happens program (.use l name true around) ∧ Resolves program name around (some frame)

/-- Whether a name is declared in a scope and gets a value there. -/
def GivesValue (program : Tree) (frame : Frame) (name : String) (l : Nat) : Prop :=
  Happens program (.declares l name frame true)

/-- The names that are declared in the heads of loops over keys or items. -/
def Tree.headNames (t : Tree) : List Tree :=
  (t.subtree.filter fun loop => loop.isKind "ForInStatement" || loop.isKind "ForOfStatement").flatMap
    fun loop => if (loop.get "left").isKind "VariableDeclaration" then
      ((loop.get "left").get "declarations").items.flatMap fun d => (d.get "id").boundNodes else []

/-- Whether a name is declared in a scope by the head of a loop over keys or items. -/
def GetsRounds (program : Tree) (frame : Frame) (name : String) (l : Nat) : Prop :=
  l ∈ program.headNames.map Tree.label ∧
    ∃ initializes, Happens program (.declares l name frame initializes)

/-- A name belongs to one scope. -/
theorem Resolves.unique {program : Tree} {name : String} {around : List Frame} {found found' : Option Frame}
    (h : Resolves program name around found) (h' : Resolves program name around found') :
    found = found' := by
  induction h with
  | none => cases h' with
    | none => rfl
  | here hd => cases h' with
    | here => rfl
    | outer hnot => exact absurd hd hnot
  | outer hnot _ ih => cases h' with
    | here hd => exact absurd hd hnot
    | outer _ ho => exact ih ho

namespace ScopeTree

theorem mem_rewriteRecords {s : ScopeTree} {d : Declaration} {b : Nat} :
    .writes b ∈ s.rewriteRecords d ↔
      s.boundIn d.home d.name = some b ∧ s.rewrites b d = true := by
  rw [← List.count_pos_iff, count_rewriteRecords]
  split <;> simp_all

theorem mem_recordsOf_writes {name : String} {writes : Bool} {found : Option Nat} {b : Nat} :
    .writes b ∈ recordsOf name writes found ↔ writes = true ∧ found = some b := by
  cases found <;> cases writes <;> simp [recordsOf, eq_comm]

namespace Tells

variable {program : Tree} {notes : List Note} (h : Tells program notes)

include h

/-- The binding of a name under a frame is that in the scope with the frame. -/
theorem bindingAt_eq_some {frame : Frame} {name : String} {b : Nat} :
    (ofNotes program.label notes).bindingAt frame name = some b ↔
      ∃ k < (declared program.label notes).scopes.size,
        (declared program.label notes).frameOf k = frame ∧
          (declared program.label notes).boundIn k name = some b := by
  rw [bindingAt_congr (scopes_ofNotes program.label notes)]
  constructor
  · intro hb
    have hlt : (declared program.label notes).frames.idxOf frame <
        (declared program.label notes).scopes.size := by
      refine Nat.lt_of_not_le fun hle => ?_
      rw [bindingAt, boundIn, Array.getElem?_eq_none hle] at hb
      cases hb
    have hlen : (declared program.label notes).frames.idxOf frame <
        (declared program.label notes).frames.length := by simpa [frames] using hlt
    exact ⟨_, hlt, by rw [frameOf_eq_getElem hlen, List.getElem_idxOf], hb⟩
  · rintro ⟨k, hk, rfl, hb⟩
    rw [h.bindingAt_frameOf hk, hb]

section At

variable {frame : Frame} {name : String} {b : Nat}
  (hb : (ofNotes program.label notes).bindingAt frame name = some b)

include hb

/-- A binding is found under one frame and one name. -/
theorem frame_eq {k : Nat} {x : String}
    (hx : (declared program.label notes).boundIn k x = some b) :
    (declared program.label notes).frameOf k = frame ∧ x = name := by
  obtain ⟨i, -, hframe, hi⟩ := h.bindingAt_eq_some.mp hb
  obtain ⟨_, _, -, hof⟩ := h.binds.binding_of hi
  obtain ⟨_, _, -, hof'⟩ := h.binds.binding_of hx
  obtain rfl : k = i := hof'.scope.symm.trans hof.scope
  exact ⟨hframe, hof'.name.symm.trans hof.name⟩

/-- The declarations of a binding are those of its name in its scope. -/
theorem boundIn_declaration_iff {d : Declaration}
    (hd : d ∈ (declared program.label notes).declarations notes) :
    (declared program.label notes).boundIn d.home d.name = some b ↔
      (declared program.label notes).frameOf d.home = frame ∧ d.name = name := by
  refine ⟨fun hbound => h.frame_eq hb hbound, ?_⟩
  rintro ⟨hframe, hname⟩
  obtain ⟨i, hi, hframe', hbound⟩ := h.bindingAt_eq_some.mp hb
  rw [h.frameOf_inj (h.home_lt hd) hi (hframe.trans hframe'.symm), hname]
  exact hbound

/-- The uses of a binding are those of its name that belong to its scope. -/
theorem lookup_use_iff {u : Use} (hu : Note.uses u ∈ notes) :
    (declared program.label notes).lookup u.scope u.name = some b ↔
      Resolves program u.name ((declared program.label notes).framesAround u.scope) (some frame) ∧
        u.name = name := by
  have hscope : u.scope < (declared program.label notes).scopes.size := h.scope_lt hu
  have hfound := h.resolves_lookup hscope u.name
  have hcongr := bindingAt_congr (scopes_ofNotes program.label notes)
  constructor
  · intro hl
    rcases hfound with ⟨frame', b', hr, hat, hl'⟩ | ⟨-, hnone⟩
    · obtain rfl : b' = b := Option.some.inj (hl'.symm.trans hl)
      rw [← hcongr] at hat
      obtain ⟨k, -, hframe, hk'⟩ := h.bindingAt_eq_some.mp hat
      obtain ⟨hsame, hname⟩ := h.frame_eq hb hk'
      rw [← hsame, hframe]
      exact ⟨hr, hname⟩
    · rw [hnone] at hl
      cases hl
  · rintro ⟨hr, hname⟩
    rcases hfound with ⟨frame', b', hr', hat, hl⟩ | ⟨hr', -⟩
    · obtain rfl : frame' = frame := Option.some.inj (hr'.unique hr)
      rw [← hcongr, hname, hb] at hat
      rw [hl, ← hat]
    · cases hr'.unique hr

/-- **What is recorded as a write to a binding.** -/
theorem mem_writes_iff (l : Nat) : l ∈ ((ofNotes program.label notes).binding b).writes ↔
    AssignsTo program frame name l ∨ GivesValue program frame name l ∧
      l ≠ ((ofNotes program.label notes).binding b).identifier := by
  have hident : ((ofNotes program.label notes).binding b).identifier =
      ((declared program.label notes).binding b).identifier :=
    congrArg (·.identifier) (bare_ofNotes program.label notes b)
  have hpos : l ∈ ((ofNotes program.label notes).binding b).writes ↔
      0 < (ofNotes program.label notes).recordCount l (.writes b) := Array.count_pos_iff.symm
  rw [hpos, h.recordCount_pos, hident, or_comm]
  refine or_congr ?_ ?_
  · constructor
    · rintro ⟨u, hu, hl, hr⟩
      obtain ⟨hw, hlookup⟩ := mem_recordsOf_writes.mp hr
      obtain ⟨hres, hname⟩ := (h.lookup_use_iff hb hu).mp hlookup
      subst hname
      exact ⟨_, h.happens_use_iff.mpr ⟨u, hu, hl, rfl, hw, rfl⟩, hres⟩
    · rintro ⟨around, he, hres⟩
      obtain ⟨u, hu, hl, rfl, hw, rfl⟩ := h.happens_use_iff.mp he
      exact ⟨u, hu, hl, mem_recordsOf_writes.mpr ⟨hw, (h.lookup_use_iff hb hu).mpr ⟨hres, rfl⟩⟩⟩
  · constructor
    · rintro ⟨d, hd, rfl, hr⟩
      obtain ⟨hbound, hrewrites⟩ := mem_rewriteRecords.mp hr
      obtain ⟨hframe, hname⟩ := (h.boundIn_declaration_iff hb hd).mp hbound
      simp only [rewrites, Bool.and_eq_true, bne_iff_ne] at hrewrites
      exact ⟨h.happens_declares_iff.mpr ⟨d, hd, rfl, hname, hframe, hrewrites.1⟩, hrewrites.2.symm⟩
    · rintro ⟨he, hne⟩
      obtain ⟨d, hd, rfl, hname, hframe, hinit⟩ := h.happens_declares_iff.mp he
      refine ⟨d, hd, rfl, mem_rewriteRecords.mpr ⟨?_, ?_⟩⟩
      · exact (h.boundIn_declaration_iff hb hd).mpr ⟨hframe, hname⟩
      · simp [rewrites, hinit, Ne.symm hne]

/-- The names that declare a binding once more are declarations of its name in its scope. -/
theorem happens_of_mem_redeclarations {l : Nat}
    (hl : l ∈ ((ofNotes program.label notes).binding b).redeclarations) :
    ∃ initializes, Happens program (.declares l name frame initializes) := by
  obtain ⟨k, hk, hframe, hbound⟩ := h.bindingAt_eq_some.mp hb
  obtain ⟨first, more, hfilter, hof⟩ := h.binds.binding_of hbound
  have hbare : ((ofNotes program.label notes).binding b).redeclarations =
      ((declared program.label notes).binding b).redeclarations :=
    congrArg (·.redeclarations) (bare_ofNotes program.label notes b)
  rw [hbare, ← Array.mem_toList_iff, hof.redeclarations] at hl
  obtain ⟨d, hd, rfl⟩ := List.mem_map.mp hl
  have hmem : d ∈ first :: more := List.mem_cons_of_mem _ (List.mem_filter.mp hd).1
  rw [← hfilter, List.mem_filter] at hmem
  obtain ⟨hd, hof⟩ := hmem
  simp only [Declaration.isOf, Bool.and_eq_true, beq_iff_eq] at hof
  exact ⟨d.initializes, h.happens_declares_iff.mpr
    ⟨d, hd, rfl, hof.2, by rw [hof.1, hframe], rfl⟩⟩

end At

/-- A name that is declared is no target. -/
theorem not_assignsTo {l : Nat} {x : String} {home : Frame} {initializes : Bool}
    (hd : Happens program (.declares l x home initializes)) (frame : Frame) (name : String) :
    ¬AssignsTo program frame name l := by
  rintro ⟨around, he, -⟩
  obtain ⟨u, hu, hul, -⟩ := h.happens_use_iff.mp he
  obtain ⟨d, hdecl, hl, -⟩ := h.happens_declares_iff.mp hd
  obtain ⟨n, hn, hnd⟩ := List.mem_filterMap.mp hdecl
  have honly := h.namings_eq hu (congrArg some hul)
  cases n with
  | declares scope hoisted label name kind node =>
    cases hnd
    rw [h.namings_eq hn (congrArg some hl)] at honly
    simp at honly
  | _ => cases hnd

end Tells

/-- **What is recorded as a write.** The scopes of a program that has been read hold each binding under a
frame and a name, and the writes that are recorded of it are the names that are targets and the
declarations that give it a value, the one it is known by apart. So it is constant if it is no target
and only that one gives it a value; what the head of a loop declares without a value is not recorded. -/
theorem writes_recorded {source : String} {p : Program} (h : Program.read source = .ok p) :
    ∃ view, build p.tree = .ok view ∧
      (∀ b < view.bindings.size, ∃ frame, view.bindingAt frame (view.binding b).name = some b) ∧
      ∀ frame name b, view.bindingAt frame name = some b →
        (∀ l, l ∈ (view.binding b).writes ↔ AssignsTo p.tree frame name l ∨
          GivesValue p.tree frame name l ∧ l ≠ (view.binding b).identifier) ∧
        ((view.binding b).constant = true ↔ (∀ l, ¬AssignsTo p.tree frame name l) ∧
          ∀ l, GivesValue p.tree frame name l → l = (view.binding b).identifier) ∧
        ∀ l, GetsRounds p.tree frame name l → ¬GivesValue p.tree frame name l →
          l ∉ (view.binding b).writes := by
  obtain ⟨notes, hwalk, ht⟩ := exists_tells (Program.is_of_read h) (Program.labelled_of_read h)
  refine ⟨ofNotes p.tree.label notes, by rw [build, hwalk]; rfl, fun b hb => ?_,
    fun frame name b hb => ?_⟩
  · have hown := boundIn_binding ht.numbered hb
    rw [boundIn_ofNotes] at hown
    have hlt : ((ofNotes p.tree.label notes).binding b).scope <
        (declared p.tree.label notes).scopes.size := by
      refine Nat.lt_of_not_le fun hle => ?_
      rw [boundIn, Array.getElem?_eq_none hle] at hown
      cases hown
    exact ⟨_, ht.bindingAt_eq_some.mpr ⟨_, hlt, rfl, hown⟩⟩
  · have hwrites := ht.mem_writes_iff hb
    refine ⟨hwrites, ?_, fun l hround hvalue hl => ?_⟩
    · rw [Binding.constant, Array.isEmpty_iff, Array.eq_empty_iff_forall_not_mem]
      constructor
      · intro hnone
        refine ⟨fun l ha => hnone l ((hwrites l).mpr (.inl ha)), fun l hv => ?_⟩
        by_contra hne
        exact hnone l ((hwrites l).mpr (.inr ⟨hv, hne⟩))
      · rintro ⟨hassign, hvalue⟩ l hl
        rcases (hwrites l).mp hl with ha | ⟨hv, hne⟩
        · exact hassign l ha
        · exact hne (hvalue l hv)
    · obtain ⟨-, initializes, hd⟩ := hround
      rcases (hwrites l).mp hl with ha | ⟨hv, -⟩
      · exact ht.not_assignsTo hd frame name ha
      · exact hvalue hv

/-- An assignment and a second declaration with a value. -/
theorem writes_recorded_twice : ∃ p view, Program.read "var x = 1; x = 2; var x = 3;" = .ok p ∧
    build p.tree = .ok view ∧ view.bindingAt ⟨p.tree.label, "program"⟩ "x" = some 0 ∧
      ¬((∀ l, ¬AssignsTo p.tree ⟨p.tree.label, "program"⟩ "x" l) ∧
        ∀ l, GivesValue p.tree ⟨p.tree.label, "program"⟩ "x" l → l = (view.binding 0).identifier) := by
  obtain ⟨p, view, hp, hv, hcheck⟩ := @exists_of_check "var x = 1; x = 2; var x = 3;"
    (fun p view => view.bindingAt ⟨p.tree.label, "program"⟩ "x" == some 0 &&
      !(view.binding 0).constant) (by decide +kernel)
  simp only [Bool.and_eq_true, beq_iff_eq, Bool.not_eq_true'] at hcheck
  obtain ⟨view', hv', -, hrecorded⟩ := writes_recorded hp
  obtain rfl : view' = view := Except.ok.inj (hv'.symm.trans hv)
  refine ⟨p, view', hp, hv, hcheck.1, fun hconstant => ?_⟩
  have htrue := (hrecorded _ _ _ hcheck.1).2.1.mpr hconstant
  rw [hcheck.2] at htrue
  cases htrue

/-- **A constant that a loop writes to.** The second declaration of `x` gets a value in each round, and
is not the one that the binding is known by. -/
theorem constant_rewritten_by_loop : ∃ p view l,
    Program.read "var x = 1; for (var x of xs) f(x);" = .ok p ∧ build p.tree = .ok view ∧
      view.bindingAt ⟨p.tree.label, "program"⟩ "x" = some 0 ∧
      GetsRounds p.tree ⟨p.tree.label, "program"⟩ "x" l ∧ l ≠ (view.binding 0).identifier ∧
      l ∉ (view.binding 0).writes ∧ (view.binding 0).constant = true := by
  obtain ⟨p, view, hp, hv, hcheck⟩ := @exists_of_check "var x = 1; for (var x of xs) f(x);"
    (fun p view => decide (view.bindingAt ⟨p.tree.label, "program"⟩ "x" = some 0 ∧
      ∃ l ∈ (view.binding 0).redeclarations, l ∈ p.tree.headNames.map Tree.label ∧
        l ≠ (view.binding 0).identifier ∧ l ∉ (view.binding 0).writes ∧
          (view.binding 0).constant = true)) (by decide +kernel)
  obtain ⟨hat, l, hagain, hhead, hne, hnot, hconstant⟩ := of_decide_eq_true hcheck
  obtain ⟨notes, -, ht, rfl⟩ := exists_notes hp hv
  exact ⟨p, _, l, hp, hv, hat, ⟨hhead, ht.happens_of_mem_redeclarations hat hagain⟩, hne, hnot,
    hconstant⟩

end ScopeTree

/-! ### What declares a name that is used -/

/-- Whether a label is that of a declaration in the scope that a name belongs to. -/
def DeclaredBy (program : Tree) (name : String) (frames : List Frame) (l : Nat) : Prop :=
  ∃ f initializes, Resolves program name frames (some f) ∧
    Happens program (.declares l name f initializes)

/-- A name belongs to no scope if and only if nothing declares it. -/
theorem resolves_none_iff {program : Tree} {name : String} {frames : List Frame} :
    Resolves program name frames none ↔ ∀ l, ¬DeclaredBy program name frames l := by
  constructor
  · rintro hnone l ⟨f, initializes, hr, -⟩
    cases hr.unique hnone
  · intro hno
    induction frames with
    | nil => exact .none
    | cons f rest ih =>
      by_cases hd : DeclaredIn program f name
      · obtain ⟨l, initializes, he⟩ := hd
        exact absurd ⟨f, initializes, .here ⟨l, initializes, he⟩, he⟩ (hno l)
      · refine .outer hd (ih fun l => ?_)
        rintro ⟨g, initializes, hr, he⟩
        exact hno l ⟨g, initializes, .outer hd hr, he⟩

/-- **The uses of what a label declares** in a program. -/
def UsedBy (program : Tree) (t l : Nat) : Prop :=
  ∃ name writes frames, Happens program (.use l name writes frames) ∧ DeclaredBy program name frames t

namespace ScopeTree

/-- **The names that declare what is used** under a label. -/
def declarersOf (s : ScopeTree) (l : Nat) : List Nat :=
  ((s.bindingFor l).map fun b => (s.binding b).declaring).getD []

/-! ### The binding of a use -/

section Uses

variable {s : ScopeTree}

theorem bindingFor_resolve (u : Use) (l : Nat) : (s.resolve u).bindingFor l =
    if u.label = l then (s.lookup u.scope u.name).or (s.bindingFor l) else s.bindingFor l := by
  rw [resolve]
  cases hx : s.lookup u.scope u.name with
  | none =>
    rw [addReference_of_missing _ _ _ _ hx, bindingFor, bindingFor, Option.none_or, ite_self]
  | some b =>
    rw [addReference_of_found _ _ _ _ hx, bindingFor, get?_insert, bindingFor, Option.some_or]

theorem bindingFor_resolveAll_of_not_mem {uses : List Use} {l : Nat} (h : ∀ u ∈ uses, u.label ≠ l) :
    (uses.foldl resolve s).bindingFor l = s.bindingFor l := by
  induction uses generalizing s with
  | nil => rfl
  | cons u rest ih =>
    rw [List.foldl_cons, ih fun v hv => h v (List.mem_cons_of_mem _ hv), bindingFor_resolve,
      if_neg (h u List.mem_cons_self)]

/-- A use that is the only one with its label belongs to what is found for it. -/
theorem bindingFor_resolveAll {uses : List Use} {u : Use} (h : uses.filter (·.label == u.label) = [u])
    (hnone : s.bindingFor u.label = none) :
    (uses.foldl resolve s).bindingFor u.label = s.lookup u.scope u.name := by
  induction uses generalizing s with
  | nil => cases h
  | cons v rest ih =>
    rw [List.foldl_cons]
    by_cases hv : v.label = u.label
    · rw [List.filter_cons_of_pos (by simpa using hv), List.cons.injEq] at h
      obtain ⟨rfl, hrest⟩ := h
      have hother : ∀ w ∈ rest, w.label ≠ v.label := fun w hw => by
        simpa using List.filter_eq_nil_iff.mp hrest w hw
      rw [bindingFor_resolveAll_of_not_mem hother, bindingFor_resolve, if_pos rfl, hnone, Option.or_none]
    · rw [List.filter_cons_of_neg (by simpa using hv)] at h
      rw [ih h (by rw [bindingFor_resolve, if_neg hv, hnone]), lookup_resolve]

end Uses

namespace Tells

variable {program : Tree} {notes : List Note} (h : Tells program notes)

include h

theorem bindingFor_use {u : Use} (hu : Note.uses u ∈ notes) :
    (ofNotes program.label notes).bindingFor u.label =
      (declared program.label notes).lookup u.scope u.name := by
  have honce := h.namings_eq hu rfl
  refine bindingFor_resolveAll ?_ ?_
  · rw [← uses_namings, honce]
    rfl
  · -- a name that is used is not declared
    have hnone : (declared program.label notes).declarations (namings notes u.label) = [] := by
      rw [honce]
      rfl
    rw [declarations_namings, List.filter_eq_nil_iff] at hnone
    have hknown := h.binds.known u.label
    rw [List.find?_eq_none.mpr fun d hd => hnone d (List.mem_reverse.mp hd), Option.bind_none] at hknown
    exact hknown

/-- **The names that declare what is used** are those that are declared in the scope that the name
belongs to. -/
theorem mem_declarersOf {u : Nat} {name : String} {writes : Bool} {frames : List Frame}
    (hu : Happens program (.use u name writes frames)) (l : Nat) :
    l ∈ (ofNotes program.label notes).declarersOf u ↔ DeclaredBy program name frames l := by
  obtain ⟨use, huse, rfl, rfl, -, rfl⟩ := h.happens_use_iff.mp hu
  rw [declarersOf, h.bindingFor_use huse]
  have hscope : use.scope < (declared program.label notes).scopes.size := h.scope_lt huse
  rcases h.resolves_lookup hscope use.name with ⟨frame, b, hr, hat, hl⟩ | ⟨hr, hl⟩
  · have hb := h.binds.lookup_lt hl
    rw [hl, Option.map_some, Option.getD_some, Binding.declaring, List.mem_cons, Array.mem_toList_iff,
      h.declares_iff hb]
    rw [← bindingAt_congr (scopes_ofNotes program.label notes)] at hat
    constructor
    · rintro ⟨d, hd, rfl, hbound⟩
      obtain ⟨hframe, hname⟩ := (h.boundIn_declaration_iff hat hd).mp hbound
      exact ⟨frame, d.initializes, hr, h.happens_declares_iff.mpr ⟨d, hd, rfl, hname, hframe, rfl⟩⟩
    · rintro ⟨f, initializes, hr', hdeclares⟩
      obtain rfl : f = frame := Option.some.inj (hr'.unique hr)
      obtain ⟨d, hd, hlabel, hname, hframe, -⟩ := h.happens_declares_iff.mp hdeclares
      exact ⟨d, hd, hlabel, (h.boundIn_declaration_iff hat hd).mpr ⟨hframe, hname⟩⟩
  · rw [hl]
    exact iff_of_false List.not_mem_nil (resolves_none_iff.mp hr l)

/-- What is neither used nor declared has no declarations. -/
theorem declarersOf_eq_nil {l : Nat} (hu : ∀ name writes around, ¬Happens program (.use l name writes around))
    (hd : ∀ name home initializes, ¬Happens program (.declares l name home initializes)) :
    (ofNotes program.label notes).declarersOf l = [] := by
  have hnone : (ofNotes program.label notes).bindingFor l = none := by
    refine (bindingFor_resolveAll_of_not_mem fun u huse hl => ?_).trans ?_
    · exact hu _ _ _ (h.happens_use_iff.mpr ⟨u, mem_uses.mp huse, hl, rfl, rfl, rfl⟩)
    · have hknown := h.binds.known l
      rw [List.find?_eq_none.mpr fun d hmem he => ?_, Option.bind_none] at hknown
      · exact hknown
      · exact hd _ _ _ (h.happens_declares_iff.mpr
          ⟨d, List.mem_reverse.mp hmem, beq_iff_eq.mp he, rfl, rfl, rfl⟩)
  rw [declarersOf, hnone]
  rfl

end Tells

/-! ### The uses of a binding, in a program and in its view -/

namespace Tells

variable {program : Tree} {notes : List Note} (h : Tells program notes) {l b : Nat}

include h

/-- What the index leads to knows of the name. -/
theorem mem_identifiers_of_bindingFor (hb : (ofNotes program.label notes).bindingFor l = some b) :
    l ∈ ((ofNotes program.label notes).binding b).identifiers := by
  by_cases huse : ∃ u, Note.uses u ∈ notes ∧ u.label = l
  · obtain ⟨u, hu, rfl⟩ := huse
    rw [h.bindingFor_use hu] at hb
    exact (h.mem_identifiers (h.binds.lookup_lt hb)).mpr (.inl ⟨u, hu, rfl, hb⟩)
  · have hnone : ∀ u ∈ notes.filterMap Note.use?, u.label ≠ l :=
      fun u hu hl => huse ⟨u, mem_uses.mp hu, hl⟩
    have hdeclared : (declared program.label notes).bindingOf.get? l = some b :=
      (bindingFor_resolveAll_of_not_mem hnone).symm.trans hb
    rw [h.binds.known, Option.bind_eq_some_iff] at hdeclared
    obtain ⟨d, hd, hbound⟩ := hdeclared
    have hmem := List.mem_reverse.mp (List.mem_of_find?_eq_some hd)
    exact (h.mem_identifiers (h.binds.lt hbound)).mpr
      (.inr ⟨d, hmem, by simpa using List.find?_some hd, hbound⟩)

/-- A name that is used is not declared. -/
theorem not_declares_of_use {x y : String} {writes initializes : Bool} {frames : List Frame} {frame : Frame}
    (hu : Happens program (.use l x writes frames)) : ¬Happens program (.declares l y frame initializes) := by
  intro hd
  obtain ⟨u, hu, hul, -⟩ := h.happens_use_iff.mp hu
  obtain ⟨d, hdecl, hl, -⟩ := h.happens_declares_iff.mp hd
  obtain ⟨n, hn, hnd⟩ := List.mem_filterMap.mp hdecl
  have honly := h.namings_eq hu (congrArg some hul)
  cases n with
  | declares scope hoisted label name kind node =>
    cases hnd
    rw [h.namings_eq hn (congrArg some hl)] at honly
    simp at honly
  | _ => cases hnd

end Tells

/-- **The uses of a declared name** are the names that its binding knows of and that do not declare it. -/
theorem usedBy_iff {source : String} {p : Program} (h : Program.read source = .ok p) {view : ScopeTree}
    (hv : build p.tree = .ok view) {t b l : Nat} (hb : view.bindingFor t = some b)
    (ht : t ∈ (view.binding b).declaring) :
    UsedBy p.tree t l ↔ l ∈ (view.binding b).identifiers ∧ l ∉ (view.binding b).declaring := by
  have hindexed := Upkeep.indexed_build h hv
  obtain ⟨notes, -, htells, rfl⟩ := exists_notes h hv
  have hlt : b < (declared p.tree.label notes).bindings.size := by
    obtain ⟨i, x, hbound⟩ := htells.leads.held hb
    rw [← size_ofNotes]
    exact (htells.leads.filed.named hbound).1
  constructor
  · rintro ⟨name, writes, frames, hu, hd⟩
    have hdeclarer := (htells.mem_declarersOf hu t).mpr hd
    rw [declarersOf] at hdeclarer
    cases hl : (ofNotes p.tree.label notes).bindingFor l with
    | none =>
      rw [hl] at hdeclarer
      cases hdeclarer
    | some b' =>
      rw [hl] at hdeclarer
      have howns : (ofNotes p.tree.label notes).Owns (.binding b') t :=
        ⟨htells.leads.held hl, mem_identifiers_of_declaring hdeclarer⟩
      obtain rfl : b' = b := Option.some.inj ((hindexed.agrees howns).symm.trans hb)
      refine ⟨htells.mem_identifiers_of_bindingFor hl, fun hdeclares => ?_⟩
      rw [Binding.declaring, List.mem_cons, Array.mem_toList_iff, htells.declares_iff hlt] at hdeclares
      obtain ⟨d, hd, rfl, -⟩ := hdeclares
      exact htells.not_declares_of_use hu
        (htells.happens_declares_iff.mpr ⟨d, hd, rfl, rfl, rfl, rfl⟩)
  · rintro ⟨hl, hnot⟩
    rcases (htells.mem_identifiers hlt).mp hl with ⟨u, hu, rfl, hlookup⟩ | hdeclares
    · have huse := htells.happens_use_iff.mpr ⟨u, hu, rfl, rfl, rfl, rfl⟩
      refine ⟨_, _, _, huse, (htells.mem_declarersOf huse t).mp ?_⟩
      rw [declarersOf, htells.bindingFor_use hu, hlookup]
      exact ht
    · rw [Binding.declaring, List.mem_cons, Array.mem_toList_iff, htells.declares_iff hlt] at hnot
      exact absurd hdeclares hnot

end ScopeTree

end Deminify
