import Deminify.Proofs.Scope.Report

/-!
# What the walk notes

The report of one visit, taken through the whole walk. The scopes behind the numbers are those that
the notes themselves open (`Deminify.ScopeTree.framesAfter`); with them, **the walk over a
well-formed program succeeds, and its notes tell of what happens in the program, each event as often
as it happens** (`Deminify.ScopeTree.walk_program`).

Scopes are numbered in the order in which they open, so that a scope comes after the one around it
(`Deminify.ScopeTree.Nested`). The chain from a scope outwards is therefore found within the fuel
that the definitions grant (`Deminify.ScopeTree.Nested.ancestors_eq`), and it stays as it is when
more scopes open (`Deminify.ScopeTree.Extends`). Notes open scopes one by one, and the scopes that come
out are those behind the numbers of the walk (`Deminify.ScopeTree.carryOut_nested`): **the frames around
a scope are those of its chain** (`Deminify.ScopeTree.framesAround`).
-/

namespace Deminify

namespace ScopeTree

/-! ### The scopes behind the numbers -/

/-- The scopes behind the numbers once notes are carried out, the next scope to open having the
number `next`. -/
def framesAfter (frames : Nat → List Frame) : Nat → List Note → Nat → List Frame
  | _, [] => frames
  | next, .opens kind node parent :: rest =>
    framesAfter (fun i => if i = next then ⟨node, kind⟩ :: frames parent else frames i) (next + 1) rest
  | next, _ :: rest => framesAfter frames next rest

/-- Older scopes keep their frames. -/
theorem framesAfter_of_lt {frames : Nat → List Frame} {next i : Nat} (h : i < next)
    (notes : List Note) : framesAfter frames next notes i = frames i := by
  induction notes generalizing frames next with
  | nil => rfl
  | cons n rest ih =>
    cases n with
    | opens kind node parent =>
      rw [framesAfter, ih (Nat.lt_succ_of_lt h), if_neg (Nat.ne_of_lt h)]
    | _ => exact ih h

/-- Scopes that are noted within bounds have the frames that they open. -/
theorem framed_framesAfter {frames : Nat → List Frame} {next : Nat} {notes : List Note}
    (h : Bounded next notes) : Framed (framesAfter frames next notes) next notes := by
  induction notes generalizing frames next with
  | nil => trivial
  | cons n rest ih =>
    cases n with
    | opens kind node parent =>
      have hp : parent < next := h.1
      refine ⟨?_, ih h.2⟩
      rw [framesAfter, framesAfter_of_lt (Nat.lt_succ_self next), if_pos rfl,
        framesAfter_of_lt (Nat.lt_succ_of_lt hp), if_neg (Nat.ne_of_lt hp)]
    | _ => exact ih h.2

/-- A visit agrees with a site by its own scope and the outermost one. -/
theorem Agrees.congr {frames frames' : Nat → List Frame} {v : Visit} {p : Site}
    (h : Agrees frames v p) (hv : frames' v.scope = frames v.scope) (h0 : frames' 0 = frames 0) :
    Agrees frames' v p :=
  ⟨h.node, h.fit, h.mode, hv.trans h.around, h.nonempty, by rw [h.root, h0]⟩

/-! ### The whole walk -/

/-- A visit that agrees with a site finds something, and the visits below agree with theirs, once
the scopes that open at the node have numbers as well. -/
theorem Agrees.visit {frames : Nat → List Frame} {v : Visit} {p : Site} (h : Agrees frames v p)
    {next : Nat} (hv : v.scope < next) : ∃ f frames', ScopeTree.visit v next = .ok f ∧
      Reports frames' p next f ∧ ∀ w ∈ f.below, Agrees frames' w (placeBelow p w) := by
  obtain ⟨f, hf, hr⟩ := reports_visit h hv
  have h' : Agrees (framesAfter frames next f.notes) v p :=
    h.congr (framesAfter_of_lt hv _) (framesAfter_of_lt (Nat.lt_of_le_of_lt (Nat.zero_le _) hv) _)
  obtain ⟨f', hf', hr'⟩ := reports_visit h' hv
  obtain rfl : f' = f := Except.ok.inj (hf'.symm.trans hf)
  exact ⟨f', _, hf, hr', hr'.agrees (framed_framesAfter hr'.bounded)⟩

/-- **The walk succeeds**, and speaks only of scopes that are open. -/
theorem walk_succeeds {fuel : Nat} {visits : List Visit} {next : Nat} {frames : Nat → List Frame}
    {site : Visit → Site} (hh : ∀ v ∈ visits, v.node.height ≤ fuel)
    (hs : ∀ v ∈ visits, v.scope < next) (ha : ∀ v ∈ visits, Agrees frames v (site v)) :
    ∃ notes, walk fuel visits next = .ok notes ∧ Bounded next notes := by
  induction fuel generalizing visits next frames site with
  | zero => exact ⟨[], rfl, trivial⟩
  | succ fuel ih =>
    rw [walk]
    induction visits generalizing next with
    | nil => exact ⟨[], rfl, trivial⟩
    | cons v rest ihr =>
      obtain ⟨f, frames', hf, hr, hbelow⟩ :=
        (ha v List.mem_cons_self).visit (hs v List.mem_cons_self)
      have hlow : ∀ w ∈ f.below, w.node.height ≤ fuel := by
        intro w hw
        have hlt := Tree.height_lt_of_mem_below (hr.inside w hw)
        have hle := hh v List.mem_cons_self
        rw [(ha v List.mem_cons_self).node] at hle
        omega
      obtain ⟨inner, hi, hbi⟩ := ih hlow hr.scopes hbelow
      let notes := .stands v.node.label v.scope :: f.notes ++ inner
      have hb : Bounded next notes := by
        simp only [notes, List.cons_append, Bounded, Note.isOpening, Note.scope]
        exact ⟨hs v List.mem_cons_self, bounded_append.mpr ⟨hr.bounded, hbi⟩⟩
      have hsr : ∀ w ∈ rest, w.scope < next + openings notes :=
        fun w hw => Nat.lt_add_right _ (hs w (List.mem_cons_of_mem _ hw))
      obtain ⟨after, hafter, hba⟩ := ihr (fun w hw => hh w (List.mem_cons_of_mem _ hw)) hsr
        (fun w hw => ha w (List.mem_cons_of_mem _ hw))
      refine ⟨notes ++ after, ?_, bounded_append.mpr ⟨hb, hba⟩⟩
      rw [walkEach, hf, ok_bind, hi, ok_bind]
      dsimp only
      rw [hafter]
      rfl

/-- **The notes of the walk tell of what happens at the sites and below**, but for the names that
are declared above them. -/
theorem walk_weights {fuel : Nat} {visits : List Visit} {next : Nat} {frames : Nat → List Frame}
    {site : Visit → Site} {notes : List Note} (hh : ∀ v ∈ visits, v.node.height ≤ fuel)
    (hs : ∀ v ∈ visits, v.scope < next) (ha : ∀ v ∈ visits, Agrees frames v (site v))
    (hw : walk fuel visits next = .ok notes) (hf : Framed frames next notes) (φ : Event → Nat) :
    notesWeight frames φ notes + (visits.map fun v => (site v).reserved φ).sum =
      (visits.map fun v => (site v).weigh φ).sum := by
  induction fuel generalizing visits next site notes with
  | zero =>
    cases visits with
    | nil => cases hw; rfl
    | cons v rest => exact absurd (hh v List.mem_cons_self) (by have := v.node.height_pos; omega)
  | succ fuel ih =>
    rw [walk] at hw
    induction visits generalizing next notes with
    | nil => cases hw; rfl
    | cons v rest ihr =>
      have hv : v.scope < next := hs v List.mem_cons_self
      have hp := ha v List.mem_cons_self
      obtain ⟨f, hfound, hr⟩ := reports_visit hp hv
      rw [walkEach, hfound, ok_bind] at hw
      obtain ⟨inner, hi, hw⟩ := bind_eq_ok.mp hw
      obtain ⟨after, hafter, hw⟩ := bind_eq_ok.mp hw
      obtain rfl := (Except.ok.inj hw).symm
      obtain ⟨hfhere, hfafter⟩ := framed_append.mp hf
      replace hfhere : Framed frames next (f.notes ++ inner) := hfhere
      rw [framed_append] at hfhere
      have hlow : ∀ w ∈ f.below, w.node.height ≤ fuel := by
        intro w hw
        have hlt := Tree.height_lt_of_mem_below (hr.inside w hw)
        have hle := hh v List.mem_cons_self
        rw [hp.node] at hle
        omega
      have hinner := ih hlow hr.scopes (hr.agrees hfhere.1) hi hfhere.2
      have hrest := ihr (fun w hw => hh w (List.mem_cons_of_mem _ hw))
        (fun w hw => Nat.lt_add_right _ (hs w (List.mem_cons_of_mem _ hw)))
        (fun w hw => ha w (List.mem_cons_of_mem _ hw)) hafter hfafter
      have hhere := hr.weights hfhere.1 φ
      simp only [List.cons_append, notesWeight_cons, notesWeight_append, noteWeight, List.map_cons,
        List.sum_cons]
      omega

/-- The walk begins in the scope of the program. -/
theorem scope_allChildren (program : Tree) : ∀ v ∈ allChildren program 0 .normal, v.scope < 1 := by
  intro v hv
  obtain ⟨x, hx, rfl⟩ := List.mem_map.mp hv
  exact Nat.zero_lt_one

section Program

variable {program : Tree} (h : program.Is (· == "Program"))

include h

theorem roleAt_root (key : String) : (Site.root program).roleAt key = .reads := by
  simp [Site.root, Site.roleAt, Site.roleByKind, beq_iff_eq.mp h.kinds]

theorem openedKinds_root : (Site.root program).openedKinds = [] := by
  simp [Site.root, Site.openedKinds, beq_iff_eq.mp h.kinds]

/-- The visits that a walk starts with agree with the sites below that of the program. -/
theorem agrees_allChildren {frames : Nat → List Frame}
    (h0 : frames 0 = [⟨program.label, "program"⟩]) :
    ∀ v ∈ allChildren program 0 .normal,
      Agrees frames v ((Site.root program).below v.parent.2 v.node) := by
  intro v hv
  obtain ⟨x, hx, rfl⟩ := List.mem_map.mp hv
  have hframes : (Site.root program).framesAt x.1.key = frames 0 := by
    rw [framesAt_of_openedKinds (openedKinds_root h), h0]
    rfl
  obtain ⟨hfit, hmode⟩ := fit_of_takes (p := Site.root program) h.2
    (by simp [Site.root, beq_iff_eq.mp h.kinds]) hx
    (show Takes _ Mode.normal _ by rw [roleAt_root h]; rfl)
  refine ⟨rfl, hfit, hmode, hframes.symm, ?_, ?_⟩
  · rw [Site.below, hframes, h0]
    simp
  · rw [Site.below, hframes, h0]
    rfl

/-- **The walk over a program succeeds, and its notes tell of what happens in the program.** -/
theorem walk_program :
    ∃ notes, walk program.height (allChildren program 0 .normal) 1 = .ok notes ∧ Bounded 1 notes ∧
      ∀ frames : Nat → List Frame, frames 0 = [⟨program.label, "program"⟩] → Framed frames 1 notes →
        ∀ φ, notesWeight frames φ notes = (Site.root program).weigh φ := by
  have hevents : (Site.root program).events = [] :=
    events_of_openedKinds (openedKinds_root h) (by simp [Site.root, beq_iff_eq.mp h.kinds])
      (by simp [Site.root, beq_iff_eq.mp h.kinds])
  have hh : ∀ v ∈ allChildren program 0 .normal, v.node.height ≤ program.height := by
    intro v hv
    obtain ⟨x, hx, rfl⟩ := List.mem_map.mp hv
    exact Nat.le_of_lt (Tree.height_lt_of_mem_children (Tree.mem_children_of_mem_slots hx))
  have hs := scope_allChildren program
  obtain ⟨notes, hw, hb⟩ := walk_succeeds hh hs
    (@agrees_allChildren program h (fun _ => [⟨program.label, "program"⟩]) rfl)
  refine ⟨notes, hw, hb, fun frames h0 hf φ => ?_⟩
  have hweights := walk_weights hh hs (agrees_allChildren h h0) hw hf φ
  have hzero : ((allChildren program 0 .normal).map fun v =>
      ((Site.root program).below v.parent.2 v.node).reserved φ).sum = 0 := by
    rw [List.sum_eq_zero_iff_forall_eq_nat]
    intro w hw
    obtain ⟨v, -, rfl⟩ := List.mem_map.mp hw
    exact Site.reserved_eq_zero φ (.inl (roleAt_root h _))
  have hroot := (Site.root program).weigh_eq φ
  rw [hevents] at hroot
  simp only [List.map_nil, List.sum_nil, Nat.zero_add] at hroot
  rw [hzero, Nat.add_zero] at hweights
  rw [hweights, hroot, allChildren, List.map_map]
  rfl

end Program

/-! ### How scopes nest -/

/-- What does not change about a scope once it is open: its frame and the scope around it. -/
def shape (s : ScopeTree) (k : Nat) : Option (Frame × Option Nat) :=
  s.scopes[k]?.map fun scope => (⟨scope.node, scope.kind⟩, scope.parent)

/-- The frame of a scope. -/
def frameOf (s : ScopeTree) (k : Nat) : Frame := ((s.shape k).map (·.1)).getD default

/-- How often a scope is listed as a child of another. -/
def childCount (s : ScopeTree) (k d : Nat) : Nat := (s.scopes[k]?.map (·.children.count d)).getD 0

/-- **Whether scopes nest**: only the first has none around it, the others come after the one around
them and are listed there. -/
structure Nested (s : ScopeTree) : Prop where
  root : ∃ frame, s.shape 0 = some (frame, none)
  around : ∀ {k frame parent}, s.shape k = some (frame, parent) → k ≠ 0 → ∃ p < k, parent = some p
  children : ∀ k d, s.childCount k d = if (s.shape d).bind (·.2) = some k then 1 else 0

/-- Whether the scopes of one state are scopes of another. -/
def Extends (s t : ScopeTree) : Prop := ∀ k x, s.shape k = some x → t.shape k = some x

theorem Extends.refl (s : ScopeTree) : Extends s s := fun _ _ h => h

theorem Extends.trans {s t u : ScopeTree} (h : Extends s t) (h' : Extends t u) : Extends s u :=
  fun k x hk => h' k x (h k x hk)

section Shape

variable {s t : ScopeTree} {k : Nat}

/-- The scopes with a shape are those that there are. -/
theorem shape_isSome : (s.shape k).isSome = true ↔ k < s.scopes.size := by
  simp [shape]

theorem exists_shape (h : k < s.scopes.size) : ∃ x, s.shape k = some x :=
  Option.isSome_iff_exists.mp (shape_isSome.mpr h)

theorem lt_of_shape {x : Frame × Option Nat} (h : s.shape k = some x) : k < s.scopes.size :=
  shape_isSome.mp (by rw [h]; rfl)

theorem frameOf_of_shape {x : Frame × Option Nat} (h : s.shape k = some x) : s.frameOf k = x.1 := by
  rw [frameOf, h]
  rfl

/-- A scope keeps its frame when others come. -/
theorem Extends.frameOf (h : Extends s t) (hk : k < s.scopes.size) : t.frameOf k = s.frameOf k := by
  obtain ⟨x, hx⟩ := exists_shape hk
  rw [frameOf_of_shape hx, frameOf_of_shape (h k x hx)]

theorem Extends.lt (h : Extends s t) (hk : k < s.scopes.size) : k < t.scopes.size := by
  obtain ⟨x, hx⟩ := exists_shape hk
  exact lt_of_shape (h k x hx)

end Shape

/-! ### Outwards -/

section Ancestors

variable {s t : ScopeTree} {k : Nat}

/-- Around a scope there is nothing, or a scope that comes before it. -/
theorem Nested.outer (hs : s.Nested) {x : Frame × Option Nat} (h : s.shape k = some x) :
    x.2 = none ∨ ∃ p < k, x.2 = some p := by
  by_cases h0 : k = 0
  · obtain ⟨frame, hroot⟩ := hs.root
    rw [h0, hroot] at h
    exact .inl (by cases h; rfl)
  · exact .inr (hs.around h h0)

/-- The way out from a scope begins with it. -/
theorem ancestorsWithin_succ (s : ScopeTree) (fuel k : Nat) : s.ancestorsWithin (fuel + 1) k =
    match s.shape k with
    | some x => k :: x.2.elim [] (s.ancestorsWithin fuel)
    | none => [] := by
  rw [ancestorsWithin, shape]
  cases s.scopes[k]? with
  | none => rfl
  | some scope => cases hp : scope.parent <;> simp [hp]

/-- As many scopes are there as have a shape. -/
theorem size_congr (h : t.shape = s.shape) : t.scopes.size = s.scopes.size := by
  have hlt (k : Nat) : k < t.scopes.size ↔ k < s.scopes.size := by
    rw [← shape_isSome, h, shape_isSome]
  have hs := hlt s.scopes.size
  have ht := hlt t.scopes.size
  omega

/-- The scopes around a scope depend on the shape alone. -/
theorem ancestors_congr (h : t.shape = s.shape) : t.ancestors = s.ancestors := by
  have hwithin : t.ancestorsWithin = s.ancestorsWithin := by
    funext fuel
    induction fuel with
    | zero => rfl
    | succ fuel ih =>
      funext k
      rw [ancestorsWithin_succ, ancestorsWithin_succ, h, ih]
  funext k
  rw [ancestors, ancestors, hwithin, size_congr h]

/-- Fuel beyond the number of the scope is enough. -/
theorem Nested.ancestorsWithin_eq (hs : s.Nested) {fuel fuel' : Nat} (h : k < fuel) (h' : k < fuel') :
    s.ancestorsWithin fuel k = s.ancestorsWithin fuel' k := by
  induction fuel generalizing k fuel' with
  | zero => omega
  | succ fuel ih =>
    obtain ⟨fuel', rfl⟩ : ∃ n, fuel' = n + 1 := ⟨fuel' - 1, by omega⟩
    rw [ancestorsWithin_succ, ancestorsWithin_succ]
    cases hk : s.shape k with
    | none => rfl
    | some x =>
      rcases hs.outer hk with he | ⟨p, hp, he⟩
      · simp only [he, Option.elim_none]
      · simp only [he, Option.elim_some]
        rw [ih (by omega : p < fuel) (by omega : p < fuel')]

/-- **The chain from a scope outwards** goes on with that of the scope around it. -/
theorem Nested.ancestors_eq (hs : s.Nested) {x : Frame × Option Nat} (h : s.shape k = some x) :
    s.ancestors k = k :: x.2.elim [] s.ancestors := by
  have hlt := lt_of_shape h
  obtain ⟨n, hn⟩ : ∃ n, s.scopes.size = n + 1 := ⟨s.scopes.size - 1, by omega⟩
  rw [ancestors, hn, ancestorsWithin_succ, h]
  rcases hs.outer h with he | ⟨p, hp, he⟩
  · simp only [he, Option.elim_none]
  · simp only [he, Option.elim_some, ancestors]
    rw [hs.ancestorsWithin_eq (by omega : p < n) (by omega : p < s.scopes.size)]

/-- The scopes of a chain come before its start. -/
theorem Nested.le_of_mem_ancestors (hs : s.Nested) {a : Nat} (h : a ∈ s.ancestors k) :
    a ≤ k ∧ a < s.scopes.size := by
  induction k using Nat.strongRecOn with
  | _ k ih =>
    by_cases hk : k < s.scopes.size
    · obtain ⟨x, hx⟩ := exists_shape hk
      rw [hs.ancestors_eq hx] at h
      rcases List.mem_cons.mp h with rfl | h
      · exact ⟨Nat.le_refl _, hk⟩
      · rcases hs.outer hx with he | ⟨p, hp, he⟩
        · rw [he] at h
          cases h
        · rw [he, Option.elim_some] at h
          have := ih p hp h
          exact ⟨by omega, this.2⟩
    · have hnone : s.shape k = none := by
        rw [Option.eq_none_iff_forall_ne_some]
        exact fun x hx => hk (lt_of_shape hx)
      rw [ancestors] at h
      cases hn : s.scopes.size with
      | zero => rw [hn] at h; cases h
      | succ n => rw [hn, ancestorsWithin_succ, hnone] at h; cases h

/-- A scope is on its own way out. -/
theorem Nested.mem_ancestors_self (hs : s.Nested) (h : k < s.scopes.size) : k ∈ s.ancestors k := by
  obtain ⟨x, hx⟩ := exists_shape h
  rw [hs.ancestors_eq hx]
  exact List.mem_cons_self

/-- The chain stays as it is when more scopes open. -/
theorem Extends.ancestors (h : Extends s t) (hs : s.Nested) (ht : t.Nested) (hk : k < s.scopes.size) :
    t.ancestors k = s.ancestors k := by
  induction k using Nat.strongRecOn with
  | _ k ih =>
    obtain ⟨x, hx⟩ := exists_shape hk
    rw [hs.ancestors_eq hx, ht.ancestors_eq (h k x hx)]
    rcases hs.outer hx with he | ⟨p, hp, he⟩
    · rw [he, Option.elim_none, Option.elim_none]
    · rw [he, Option.elim_some, Option.elim_some, ih p hp (by omega)]

/-- The frames of a scope and those around it, from the inside out. -/
def framesAround (s : ScopeTree) (k : Nat) : List Frame := (s.ancestors k).map s.frameOf

/-- The frames around a scope are its own and those around its parent. -/
theorem Nested.framesAround_eq (hs : s.Nested) {x : Frame × Option Nat} (h : s.shape k = some x) :
    s.framesAround k = x.1 :: x.2.elim [] s.framesAround := by
  rw [framesAround, hs.ancestors_eq h, List.map_cons, frameOf_of_shape h]
  cases x.2 <;> rfl

end Ancestors

/-! ### Carrying out notes -/

section CarryOut

variable {s : ScopeTree} {k d : Nat}

/-- A change of the scopes that leaves frames, what is around and what is listed. -/
theorem shape_editScope {f : Scope → Scope}
    (hf : ∀ c, (f c).node = c.node ∧ (f c).kind = c.kind ∧ (f c).parent = c.parent) (id : Nat) :
    (s.editScope id f).shape = s.shape := by
  funext k
  simp only [shape, editScope, Array.getElem?_modify]
  split
  · cases s.scopes[k]? with
    | none => rfl
    | some c => simp [hf c]
  · rfl

/-- An edit that leaves the children alone leaves their numbers. -/
theorem childCount_editScope {f : Scope → Scope} (hf : ∀ c, (f c).children = c.children) (id : Nat) :
    (s.editScope id f).childCount = s.childCount := by
  funext k d
  simp only [childCount, editScope, Array.getElem?_modify]
  split
  · cases s.scopes[k]? with
    | none => rfl
    | some c => simp [hf c]
  · rfl

/-- A declaration changes no shape. -/
theorem shape_declare (id label : Nat) (name kind : String) (node : Option Tree) :
    (s.declare id label name kind node).1.shape = s.shape := by
  unfold declare
  split
  · exact shape_editScope (s := { s with bindings := _, bindingOf := _ }) (by simp) id
  · dsimp only
    split <;> rfl

theorem childCount_declare (id label : Nat) (name kind : String) (node : Option Tree) :
    (s.declare id label name kind node).1.childCount = s.childCount := by
  unfold declare
  split
  · exact childCount_editScope (s := { s with bindings := _, bindingOf := _ }) (by simp) id
  · dsimp only
    split <;> rfl

/-- A note that opens nothing changes no shape. -/
theorem shape_carryOut {n : Note} (h : n.isOpening = false) : (s.carryOut n).shape = s.shape := by
  cases n with
  | opens kind node parent => cases h
  | stands label scope =>
    rw [carryOut]
    split <;> rfl
  | shares label scope => rfl
  | declares scope hoisted label name kind node => exact shape_declare ..
  | uses use => rfl

theorem childCount_carryOut {n : Note} (h : n.isOpening = false) :
    (s.carryOut n).childCount = s.childCount := by
  cases n with
  | opens kind node parent => cases h
  | stands label scope =>
    rw [carryOut]
    split <;> rfl
  | shares label scope => rfl
  | declares scope hoisted label name kind node => exact childCount_declare ..
  | uses use => rfl

/-- A scope that is opened is the only one with a new shape. -/
theorem shape_opens (kind : String) (node parent k : Nat) :
    (s.carryOut (.opens kind node parent)).shape k =
      if k = s.scopes.size then some (⟨node, kind⟩, some parent) else s.shape k := by
  have hedit := congrFun (shape_editScope (s := { s with
    scopes := s.scopes.push { kind, node, parent := some parent }
    scopeOf := s.scopeOf.insert node s.scopes.size })
    (f := fun scope => { scope with children := scope.children.push s.scopes.size }) (by simp) parent) k
  refine hedit.trans ?_
  rw [shape, Array.getElem?_push]
  split <;> rfl

/-- A scope that is opened is one more child of its parent. -/
theorem childCount_opens (kind : String) (node parent : Nat) (hp : parent < s.scopes.size) :
    (s.carryOut (.opens kind node parent)).childCount k d =
      s.childCount k d + if k = parent ∧ d = s.scopes.size then 1 else 0 := by
  simp only [carryOut, newScope, childCount, editScope, Array.getElem?_modify, Array.getElem?_push]
  by_cases hk : k = s.scopes.size
  · subst hk
    simp [Nat.ne_of_lt hp, Nat.ne_of_gt hp]
  · by_cases hkp : k = parent
    · subst hkp
      simp only [hk, if_false, if_true, true_and]
      rw [Array.getElem?_eq_getElem hp]
      simp only [Option.map_some, Option.getD_some, Array.count_push, beq_iff_eq,
        eq_comm (a := s.scopes.size)]
    · simp [hk, hkp, Ne.symm hkp]

theorem size_eq_of_shape {t : ScopeTree} (h : t.shape = s.shape) : t.scopes.size = s.scopes.size := by
  have hiff (k : Nat) : k < t.scopes.size ↔ k < s.scopes.size := by
    rw [← shape_isSome, ← shape_isSome, h]
  have h1 := hiff s.scopes.size
  have h2 := hiff t.scopes.size
  omega

theorem size_opens (kind : String) (node parent : Nat) :
    (s.carryOut (.opens kind node parent)).scopes.size = s.scopes.size + 1 := by
  simp [carryOut, newScope, editScope]

/-- **One note keeps the nesting.** -/
theorem Nested.carryOut (hs : s.Nested) {n : Note} (hn : n.scope < s.scopes.size) :
    (s.carryOut n).Nested ∧ Extends s (s.carryOut n) ∧
      (s.carryOut n).scopes.size = s.scopes.size + if n.isOpening then 1 else 0 := by
  by_cases ho : n.isOpening = false
  · have hshape := shape_carryOut (s := s) ho
    refine ⟨⟨?_, ?_, ?_⟩, ?_, ?_⟩
    · rw [hshape]
      exact hs.root
    · rw [hshape]
      exact hs.around
    · rw [hshape, childCount_carryOut ho]
      exact hs.children
    · intro k x hx
      rwa [hshape]
    · rw [ho, size_eq_of_shape hshape]
      rfl
  · cases n with
    | opens kind node parent =>
      have hp : parent < s.scopes.size := hn
      have hroot : (0 : Nat) ≠ s.scopes.size := by omega
      refine ⟨⟨?_, ?_, ?_⟩, ?_, size_opens ..⟩
      · obtain ⟨frame, hr⟩ := hs.root
        exact ⟨frame, by rw [shape_opens, if_neg hroot, hr]⟩
      · intro k frame parent' hx h0
        rw [shape_opens] at hx
        split at hx
        · cases hx
          exact ⟨parent, by omega, rfl⟩
        · exact hs.around hx h0
      · intro k d
        rw [childCount_opens kind node parent hp, shape_opens, hs.children]
        by_cases hd : d = s.scopes.size
        · subst hd
          have hnone : s.shape s.scopes.size = none := by
            simp [shape]
          simp [hnone, eq_comm]
        · simp [hd]
      · intro k x hx
        rw [shape_opens, if_neg (Nat.ne_of_lt (lt_of_shape hx)), hx]
    | _ => simp [Note.isOpening] at ho

/-- What comes after a note speaks of scopes that are there then. -/
theorem Nested.bounded_carryOut (hs : s.Nested) {n : Note} {rest : List Note}
    (hb : Bounded s.scopes.size (n :: rest)) : Bounded (s.carryOut n).scopes.size rest := by
  obtain ⟨hn, hrest⟩ := hb
  rw [(hs.carryOut hn).2.2]
  cases ho : n.isOpening
  · rwa [ho] at hrest
  · rwa [ho] at hrest

/-- **Notes keep the nesting**, and open the scopes behind the numbers. -/
theorem Nested.carryOutAll (hs : s.Nested) {notes : List Note} (hb : Bounded s.scopes.size notes) :
    (notes.foldl ScopeTree.carryOut s).Nested ∧ Extends s (notes.foldl ScopeTree.carryOut s) ∧
      Framed (notes.foldl ScopeTree.carryOut s).framesAround s.scopes.size notes := by
  induction notes generalizing s with
  | nil => exact ⟨hs, .refl s, trivial⟩
  | cons n rest ih =>
    obtain ⟨hn, he, hsize⟩ := hs.carryOut hb.1
    rw [List.foldl_cons]
    have hb' := hs.bounded_carryOut hb
    obtain ⟨hnested, hextends, hframed⟩ := ih hn hb'
    refine ⟨hnested, he.trans hextends, ?_⟩
    cases n with
    | opens kind node parent =>
      rw [size_opens] at hframed
      refine ⟨?_, hframed⟩
      have hshape := hextends s.scopes.size (⟨node, kind⟩, some parent) (by rw [shape_opens, if_pos rfl])
      rw [hnested.framesAround_eq hshape]
      rfl
    | _ =>
      rw [hsize] at hframed
      exact hframed

end CarryOut

/-! ### The scope that receives a declaration -/

section Home

variable {s t : ScopeTree} {k : Nat}

/-- The scope that a declaration puts its names into. -/
def home (s : ScopeTree) (hoisted : Bool) (scope : Nat) : Nat :=
  if hoisted then s.functionScope scope else scope

theorem find?_congr {p q : Nat → Bool} {chain : List Nat} (h : ∀ a ∈ chain, p a = q a) :
    chain.find? p = chain.find? q := by
  induction chain with
  | nil => rfl
  | cons a rest ih =>
    rw [List.find?_cons, List.find?_cons, h a List.mem_cons_self,
      ih fun b hb => h b (List.mem_cons_of_mem _ hb)]

/-- A scope receives declarations by the kind of its frame. -/
theorem find?_receiving (s : ScopeTree) (chain : List Nat) (h : ∀ a ∈ chain, a < s.scopes.size) :
    chain.find? (fun a => (s.scopes[a]?).any (receivesVars ·.kind)) =
      chain.find? fun a => receivesVars (s.frameOf a).kind :=
  find?_congr fun a ha => by
    rw [frameOf, shape, Array.getElem?_eq_getElem (h a ha)]
    rfl

/-- The scope that receives a declaration is one of those around it. -/
theorem Nested.home_mem (hs : s.Nested) (hk : k < s.scopes.size) (hoisted : Bool) :
    s.home hoisted k ∈ s.ancestors k := by
  rw [home]
  split
  · rw [functionScope]
    split
    · rename_i hfind
      exact List.mem_of_find?_eq_some hfind
    · have hne : s.ancestors k ≠ [] := List.ne_nil_of_mem (hs.mem_ancestors_self hk)
      rw [List.getLast?_eq_some_getLast hne]
      exact List.getLast_mem hne
  · exact hs.mem_ancestors_self hk

/-- **The scope that receives a declaration, by its frame.** -/
theorem Nested.homeFrame_eq (hs : s.Nested) (hk : k < s.scopes.size) (hoisted : Bool) :
    homeFrame hoisted (s.framesAround k) = s.frameOf (s.home hoisted k) := by
  have hmem := hs.mem_ancestors_self hk
  cases hoisted with
  | false =>
    obtain ⟨x, hx⟩ := exists_shape hk
    rw [hs.framesAround_eq hx]
    exact (frameOf_of_shape hx).symm
  | true =>
    rw [homeFrame, if_pos rfl, home, if_pos rfl, functionScope, nearestFunction, framesAround,
      List.find?_map, find?_receiving s _ fun a ha => (hs.le_of_mem_ancestors ha).2]
    dsimp only [Function.comp_def]
    split
    · rename_i hfind
      rw [hfind]
      rfl
    · rename_i hfind
      rw [hfind]
      have hne : s.ancestors k ≠ [] := List.ne_nil_of_mem hmem
      simp [outermost, List.getLastD_eq_getLast?, List.getLast?_eq_some_getLast hne]

/-- A declaration goes to the same scope when others come. -/
theorem Extends.home (h : Extends s t) (hs : s.Nested) (ht : t.Nested) (hk : k < s.scopes.size)
    (hoisted : Bool) : t.home hoisted k = s.home hoisted k := by
  have hin {a : Nat} (ha : a ∈ s.ancestors k) := (hs.le_of_mem_ancestors ha).2
  have hframes : (s.ancestors k).find? (fun a => receivesVars (t.frameOf a).kind) =
      (s.ancestors k).find? fun a => receivesVars (s.frameOf a).kind :=
    find?_congr fun a ha => by rw [h.frameOf (hin ha)]
  rw [ScopeTree.home, ScopeTree.home, functionScope, functionScope, h.ancestors hs ht hk,
    find?_receiving s _ fun a ha => hin ha, find?_receiving t _ fun a ha => h.lt (hin ha), hframes]

end Home

end ScopeTree

end Deminify
