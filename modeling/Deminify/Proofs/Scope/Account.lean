import Deminify.Proofs.Program
import Deminify.Proofs.Scope.Binding

/-!
# The notes of a program

The walk over a program leaves notes, and the notes are carried out one by one. This module sums up
what is known of both, for a program whose nodes have labels of their own
(`Deminify.ScopeTree.Tells`): the notes tell of what happens in the program and of nothing else, and
a name is noted once. Every scope then has a frame of its own
(`Deminify.ScopeTree.Tells.frameOf_inj`), and **a name is bound in a scope if and only if it is
declared there** (`Deminify.ScopeTree.Tells.declaredIn_iff`).
-/

namespace Deminify

namespace ScopeTree

/-! ### The events of notes -/

/-- The event that a note tells of, given the scopes behind the numbers. -/
def Note.event? (frames : Nat → List Frame) : Note → Option Event
  | .opens kind node _ => some (.opens ⟨node, kind⟩)
  | .stands _ _ | .shares _ _ => none
  | .declares scope hoisted label name _ node =>
    some (.declares label name (homeFrame hoisted (frames scope)) (initializes node))
  | .uses use => some (.use use.label use.name use.writes (frames use.scope))

theorem notesWeight_eq_sum (frames : Nat → List Frame) (φ : Event → Nat) (notes : List Note) :
    notesWeight frames φ notes = ((notes.filterMap (Note.event? frames)).map φ).sum := by
  induction notes with
  | nil => rfl
  | cons n rest ih =>
    rw [notesWeight_cons, ih]
    cases n <;> simp [Note.event?, noteWeight, List.filterMap_cons]

/-! ### The scopes that open -/

/-- The state in which a program is opened. -/
def opening (program : Nat) : ScopeTree := (({} : ScopeTree).newScope "program" program none).1

/-- The state once all notes but the uses are carried out. -/
def declared (program : Nat) (notes : List Note) : ScopeTree :=
  notes.foldl ScopeTree.carryOut (opening program)

theorem nested_opening (program : Nat) : (opening program).Nested := by
  have hshape (k : Nat) : (opening program).shape k =
      if k = 0 then some (⟨program, "program"⟩, none) else none := by
    cases k <;> rfl
  refine ⟨⟨_, hshape 0⟩, ?_, ?_⟩
  · intro k frame parent h h0
    rw [hshape, if_neg h0] at h
    cases h
  · intro k d
    rw [hshape]
    cases k <;> split <;> rfl

theorem binds_opening (program : Nat) : (opening program).Binds [] := by
  have hbound (k : Nat) (name : String) : (opening program).boundIn k name = none := by
    cases k <;> rfl
  refine ⟨?_, fun _ => rfl, ?_, fun l => ?_⟩
  · intro k name b h
    rw [hbound] at h
    cases h
  · intro b binding h
    exact absurd h (by simp [opening, newScope])
  · simp [opening, newScope]

/-- The frames of all scopes, in the order of their numbers. -/
def frames (s : ScopeTree) : List Frame := s.scopes.toList.map fun scope => ⟨scope.node, scope.kind⟩

theorem frames_eq_of_shape {s t : ScopeTree} (h : t.shape = s.shape) : t.frames = s.frames := by
  refine List.ext_getElem? fun k => ?_
  have hk := congrArg (Option.map Prod.fst) (congrFun h k)
  simpa [frames, shape, Function.comp_def] using hk

theorem frameOf_eq_getElem {s : ScopeTree} {k : Nat} (h : k < s.frames.length) :
    s.frameOf k = s.frames[k] := by
  have hk : k < s.scopes.size := by simpa [frames] using h
  simp [frames, frameOf, shape, Array.getElem?_eq_getElem hk]

/-- The frame that a note opens. -/
def Note.frame? : Note → Option Frame
  | .opens kind node _ => some ⟨node, kind⟩
  | _ => none

theorem frames_carryOut (s : ScopeTree) (n : Note) :
    (s.carryOut n).frames = s.frames ++ n.frame?.toList := by
  by_cases ho : n.isOpening = false
  · have hnone : n.frame? = none := by cases n <;> first | rfl | cases ho
    rw [frames_eq_of_shape (shape_carryOut ho), hnone, Option.toList_none, List.append_nil]
  · cases n with
    | opens kind node parent =>
      refine List.ext_getElem? fun k => ?_
      have hk := congrArg (Option.map Prod.fst) (@shape_opens s kind node parent k)
      have hlen : s.frames.length = s.scopes.size := by simp [frames]
      rw [List.getElem?_append, hlen]
      have hleft (t : ScopeTree) : t.frames[k]? = (t.shape k).map Prod.fst := by
        simp [frames, shape, Function.comp_def]
      rw [hleft, hk]
      by_cases h : k = s.scopes.size
      · simp [h, Note.frame?]
      · rw [if_neg h, ← hleft]
        split
        · rfl
        · rw [List.getElem?_eq_none (by omega), Note.frame?, Option.toList_some,
            List.getElem?_eq_none (by simp; omega)]
    | _ => exact absurd rfl ho

theorem frames_declared (program : Nat) (notes : List Note) :
    (declared program notes).frames = ⟨program, "program"⟩ :: notes.filterMap Note.frame? := by
  have hall (s : ScopeTree) :
      (notes.foldl ScopeTree.carryOut s).frames = s.frames ++ notes.filterMap Note.frame? := by
    induction notes generalizing s with
    | nil => simp
    | cons n rest ih =>
      rw [List.foldl_cons, ih, frames_carryOut, List.append_assoc]
      cases hn : n.frame? <;> simp [hn]
  exact hall (opening program)

/-- Notes speak of scopes that are there in the end. -/
theorem Nested.scope_lt {s : ScopeTree} (hs : s.Nested) {notes : List Note}
    (hb : Bounded s.scopes.size notes) {n : Note} (hn : n ∈ notes) :
    n.scope < (notes.foldl ScopeTree.carryOut s).scopes.size := by
  induction notes generalizing s with
  | nil => cases hn
  | cons m rest ih =>
    obtain ⟨hm, -, -⟩ := hs.carryOut hb.1
    obtain ⟨-, he, -⟩ := hs.carryOutAll hb
    rcases List.mem_cons.mp hn with rfl | hn
    · exact he.lt hb.1
    · exact ih hm (hs.bounded_carryOut hb) hn

/-! ### The names in notes -/

/-- The label of the name that a note declares or uses. -/
def Note.label? : Note → Option Nat
  | .declares _ _ label _ _ _ => some label
  | .uses use => some use.label
  | _ => none

/-- The notes of the name with a label. -/
def namings (notes : List Note) (l : Nat) : List Note := notes.filter (·.label? == some l)

theorem declarations_namings (t : ScopeTree) (notes : List Note) (l : Nat) :
    t.declarations (namings notes l) = (t.declarations notes).filter (·.label == l) := by
  induction notes with
  | nil => rfl
  | cons n rest ih =>
    have hhead : t.declarations (namings [n] l) = (t.declarations [n]).filter (·.label == l) := by
      cases n with
      | declares scope hoisted label name kind node =>
        by_cases h : label = l <;> simp [namings, declarations, Note.label?, h]
      | uses use => by_cases h : use.label = l <;> simp [namings, declarations, Note.label?, h]
      | _ => rfl
    rw [← List.singleton_append, namings, List.filter_append, declarations_append, declarations_append,
      List.filter_append, ← hhead, ← ih]
    rfl

theorem uses_namings (notes : List Note) (l : Nat) :
    (namings notes l).filterMap Note.use? = (notes.filterMap Note.use?).filter (·.label == l) := by
  induction notes with
  | nil => rfl
  | cons n rest ih =>
    have hhead : (namings [n] l).filterMap Note.use? =
        ([n].filterMap Note.use?).filter (·.label == l) := by
      cases n with
      | declares scope hoisted label name kind node =>
        by_cases h : label = l <;> simp [namings, Note.use?, Note.label?, List.filterMap_cons, h]
      | uses use => by_cases h : use.label = l <;> simp [namings, Note.use?, Note.label?, h]
      | _ => rfl
    rw [← List.singleton_append, namings, List.filter_append, List.filterMap_append,
      List.filterMap_append, List.filter_append, ← hhead, ← ih]
    rfl

/-! ### What the notes of a program tell of -/

/-- The events that the notes of a program tell of. -/
def eventsOf (program : Nat) (notes : List Note) : List Event :=
  notes.filterMap (Note.event? (declared program notes).framesAround)

/-- **What is known of the notes of a program.** -/
structure Tells (program : Tree) (notes : List Note) : Prop where
  bounded : Bounded 1 notes
  happens : ∀ {e}, e ∈ eventsOf program.label notes ↔ Happens program e
  once : ∀ l kind, ((eventsOf program.label notes).map (Event.atNode l kind)).sum ≤ 1

/-- **The scopes of a program come from notes that tell of it.** -/
theorem exists_tells {program : Tree} (h : program.Is (· == "Program")) (hl : program.Labelled) :
    ∃ notes, walk program.height (allChildren program 0 .normal) 1 = .ok notes ∧
      Tells program notes := by
  obtain ⟨notes, hw, hb, hweigh⟩ := walk_program h
  obtain ⟨hnested, hextends, hframed⟩ := (nested_opening program.label).carryOutAll hb
  have hroot : (opening program.label).shape 0 = some (⟨program.label, "program"⟩, none) := rfl
  have h0 : (declared program.label notes).framesAround 0 = [⟨program.label, "program"⟩] := by
    rw [declared, hnested.framesAround_eq (hextends 0 _ hroot)]
    rfl
  have hsum (φ : Event → Nat) : ((eventsOf program.label notes).map φ).sum =
      (Site.root program).weigh φ := by
    rw [eventsOf, ← notesWeight_eq_sum]
    exact hweigh _ h0 hframed φ
  refine ⟨notes, hw, hb, ?_, fun l kind => ?_⟩
  · intro e
    -- an event is told of if and only if the weight that picks it out is positive
    rw [show Happens program e ↔ _ from Site.weigh_pos.symm, ← hsum, List.sum_pos_iff_exists_pos_nat]
    constructor
    · exact fun he => ⟨_, List.mem_map_of_mem he, by simp⟩
    · rintro ⟨_, hm, hpos⟩
      obtain ⟨e', he, rfl⟩ := List.mem_map.mp hm
      split at hpos
      · rename_i heq
        exact heq ▸ he
      · cases hpos
  · rw [hsum]
    exact Site.weigh_le_one hl l kind

/-- The scopes that open at a site are those that its node opens. -/
theorem mem_opened_of_mem_events {p : Site} {frame : Frame} (h : .opens frame ∈ p.events) : frame ∈ p.opened := by
  unfold Site.events at h
  dsimp only at h
  repeat' split at h
  all_goals simp_all

/-- No node opens the scope of a program. -/
theorem kind_ne_program {program : Tree} {frame : Frame} (hf : Happens program (.opens frame)) :
    frame.kind ≠ "program" := by
  obtain ⟨p, -, he⟩ := hf
  obtain ⟨kind, hk, rfl⟩ := List.mem_map.mp (mem_opened_of_mem_events he)
  rintro rfl
  unfold Site.openedKinds at hk
  repeat' split at hk
  all_goals simp at hk

namespace Tells

variable {program : Tree} {notes : List Note} (h : Tells program notes)

include h

theorem nested : (declared program.label notes).Nested :=
  ((nested_opening _).carryOutAll h.bounded).1

theorem scope_lt {n : Note} (hn : n ∈ notes) : n.scope < (declared program.label notes).scopes.size :=
  (nested_opening _).scope_lt h.bounded hn

/-- The bindings are those of the declarations. -/
theorem binds : (declared program.label notes).Binds
    ((declared program.label notes).declarations notes) :=
  (binds_opening program.label).carryOutAll (nested_opening _) h.bounded

/-! ### Frames -/

theorem nodup_frames : (declared program.label notes).frames.Nodup := by
  have hopens : (notes.filterMap Note.frame?).map Event.opens =
      (eventsOf program.label notes).filter fun e => e matches .opens _ := by
    rw [eventsOf]
    generalize (declared program.label notes).framesAround = frames
    clear h
    induction notes with
    | nil => rfl
    | cons n rest ih => cases n <;> simp [Note.frame?, Note.event?, List.filterMap_cons, ih]
  rw [frames_declared, List.nodup_cons]
  refine ⟨fun hm => ?_, List.nodup_iff_count.mpr fun frame => ?_⟩
  · have he : Event.opens ⟨program.label, "program"⟩ ∈ (notes.filterMap Note.frame?).map Event.opens :=
      List.mem_map_of_mem hm
    rw [hopens] at he
    exact kind_ne_program (h.happens.mp (List.mem_filter.mp he).1) rfl
  · obtain ⟨node, kind⟩ := frame
    refine Nat.le_trans ?_ (h.once node kind)
    have hcount : (notes.filterMap Note.frame?).count ⟨node, kind⟩ =
        ((eventsOf program.label notes).filter fun e => e matches .opens _).count
          (.opens ⟨node, kind⟩) := by
      rw [← hopens, List.count_map_of_injective _ _ fun _ _ => Event.opens.inj]
    rw [hcount]
    clear hcount hopens h
    induction eventsOf program.label notes with
    | nil => exact Nat.le_refl _
    | cons e rest ih =>
      cases e <;> simp [List.count_cons, Event.atNode] at ih ⊢ <;> omega

/-- **Scopes are told apart by their frames.** -/
theorem frameOf_inj {k k' : Nat} (hk : k < (declared program.label notes).scopes.size)
    (hk' : k' < (declared program.label notes).scopes.size)
    (he : (declared program.label notes).frameOf k = (declared program.label notes).frameOf k') :
    k = k' := by
  have hlen : (declared program.label notes).frames.length = (declared program.label notes).scopes.size := by
    simp [frames]
  rw [← hlen] at hk hk'
  rw [frameOf_eq_getElem hk, frameOf_eq_getElem hk'] at he
  exact (h.nodup_frames.getElem_inj_iff).mp he

/-! ### Names -/

/-- **A name is noted once.** -/
theorem namings_eq {n : Note} {l : Nat} (hn : n ∈ notes) (hl : n.label? = some l) :
    namings notes l = [n] := by
  have hle : (namings notes l).length ≤ 1 := by
    refine Nat.le_trans ?_ (h.once l "")
    rw [eventsOf, ← notesWeight_eq_sum, namings, ← List.countP_eq_length_filter]
    generalize (declared program.label notes).framesAround = frames
    clear h hn
    induction notes with
    | nil => exact Nat.le_refl _
    | cons n rest ih =>
      have hhead : (if (n.label? == some l) = true then 1 else 0) ≤
          noteWeight frames (Event.atNode l "") n := by
        cases n <;> simp [Note.label?, noteWeight, Event.atNode]
      rw [List.countP_cons, notesWeight_cons, Nat.add_comm]
      exact Nat.add_le_add hhead ih
  have hmem : n ∈ namings notes l := List.mem_filter.mpr ⟨hn, by simp [hl]⟩
  obtain ⟨m, hm⟩ := List.length_eq_one_iff.mp
    (Nat.le_antisymm hle (List.length_pos_iff.mpr (List.ne_nil_of_mem hmem)))
  rw [hm] at hmem ⊢
  rw [List.mem_singleton.mp hmem]

/-- The uses that are noted are those that happen. -/
theorem happens_use_iff {label : Nat} {name : String} {writes : Bool} {around : List Frame} :
    Happens program (.use label name writes around) ↔ ∃ u, Note.uses u ∈ notes ∧ u.label = label ∧
      u.name = name ∧ u.writes = writes ∧
        (declared program.label notes).framesAround u.scope = around := by
  rw [← h.happens, eventsOf, List.mem_filterMap]
  constructor
  · rintro ⟨n, hn, he⟩
    cases n with
    | uses u =>
      cases he
      exact ⟨u, hn, rfl, rfl, rfl, rfl⟩
    | _ => cases he
  · rintro ⟨u, hu, rfl, rfl, rfl, rfl⟩
    exact ⟨_, hu, rfl⟩

/-! ### Declarations -/

/-- A declaration that is noted puts its name into a scope that is there. -/
theorem home_lt {d : Declaration} (hd : d ∈ (declared program.label notes).declarations notes) :
    d.home < (declared program.label notes).scopes.size := by
  obtain ⟨n, hn, hnd⟩ := List.mem_filterMap.mp hd
  cases n with
  | declares scope hoisted label name kind node =>
    cases hnd
    exact (h.nested.le_of_mem_ancestors (h.nested.home_mem (h.scope_lt hn) hoisted)).2
  | _ => cases hnd

/-- The declarations that are noted are those that happen. -/
theorem happens_declares_iff {label : Nat} {name : String} {home : Frame} {initializes : Bool} :
    Happens program (.declares label name home initializes) ↔
      ∃ d ∈ (declared program.label notes).declarations notes, d.label = label ∧ d.name = name ∧
        (declared program.label notes).frameOf d.home = home ∧ d.initializes = initializes := by
  rw [← h.happens, eventsOf, List.mem_filterMap]
  constructor
  · rintro ⟨n, hn, he⟩
    cases n with
    | declares scope hoisted label' name' kind node =>
      cases he
      exact ⟨_, List.mem_filterMap.mpr ⟨_, hn, rfl⟩, rfl, rfl,
        (h.nested.homeFrame_eq (h.scope_lt hn) hoisted).symm, rfl⟩
    | _ => cases he
  · rintro ⟨d, hd, rfl, rfl, rfl, rfl⟩
    obtain ⟨n, hn, hnd⟩ := List.mem_filterMap.mp hd
    cases n with
    | declares scope hoisted label' name' kind node =>
      cases hnd
      have hhome := h.nested.homeFrame_eq (h.scope_lt hn) hoisted
      exact ⟨_, hn, congrArg (fun home => some (Event.declares label' name' home _)) hhome⟩
    | _ => cases hnd

/-- **A name is bound in a scope if and only if it is declared there.** -/
theorem declaredIn_iff {k : Nat} {name : String}
    (hk : k < (declared program.label notes).scopes.size) :
    DeclaredIn program ((declared program.label notes).frameOf k) name ↔
      ∃ b, (declared program.label notes).boundIn k name = some b := by
  constructor
  · rintro ⟨label, initializes, he⟩
    obtain ⟨d, hd, -, rfl, hframe, -⟩ := h.happens_declares_iff.mp he
    have hhome := h.frameOf_inj (h.home_lt hd) hk hframe
    exact hhome ▸ h.binds.exists_boundIn hd
  · rintro ⟨b, hb⟩
    obtain ⟨-, first, more, -, hfilter, -⟩ := h.binds.found hb
    obtain ⟨hmem, hof⟩ := List.mem_filter.mp (hfilter ▸ List.mem_cons_self : first ∈ _)
    simp only [Declaration.isOf, Bool.and_eq_true, beq_iff_eq] at hof
    exact ⟨_, _, h.happens_declares_iff.mpr ⟨first, hmem, rfl, hof.2, by rw [hof.1], rfl⟩⟩

end Tells

end ScopeTree

end Deminify
