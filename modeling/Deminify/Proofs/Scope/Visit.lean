import Deminify.Proofs.Scope.Fit

/-!
# What one visit finds

The walk numbers the scopes and knows a site only by a scope number and a mode. This module says
what the visit of one node has to do with its site. Given the scopes behind the numbers (`frames`),
a note tells of an event, and a visit agrees with a site (`Deminify.ScopeTree.Agrees`) if the scope
number and the mode are right for it. **One visit reports what happens at the site and leaves the
rest to the visits below** (`Deminify.ScopeTree.reports_visit`): the weights of the notes and of the
sites below add up to that of the site.

Declared names need a second account. They are noted where the declaration stands, above the
patterns that hold them, and are passed over when the walk comes to the pattern; they are *reserved*
(`Deminify.Site.reserved`) until then.
-/

namespace Deminify

namespace Site

/-- The mode in which a site is walked over; some sites are not. -/
def mode? (p : Site) : Option ScopeTree.Mode :=
  match p.role with
  | .reads | .declarator _ => some .normal
  | .writes =>
    some (if ["Identifier", "Property", "MethodDefinition"].contains p.node.kind then .assigns
      else .normal)
  | .binds _ _ => some .declares
  | .body => some .shared
  | _ => none

/-- The weight of a declared name. -/
def declareWeight (φ : Event → Nat) (home : Frame) (initializes : Bool) (name : Tree) : Nat :=
  φ (.declares name.label ((name.get "name").str?.getD "") home initializes)

/-- The weight of the names below a site that are declared above it. -/
def reserved (φ : Event → Nat) (p : Site) : Nat :=
  match p.role with
  | .binds home initializes => (p.node.partNames.map (declareWeight φ home initializes)).sum
  | .declarator home =>
    ((p.node.get "id").boundNodes.map (declareWeight φ home !(p.node.get "init").isNull)).sum
  | _ => 0

/-- The weight of the names below a key that are declared above it. -/
def reservedAt (φ : Event → Nat) (p : Site) (key : String) : Nat :=
  p.node.sumAt (fun key c => (p.below key c).reserved φ) key

/-- Nothing is reserved unless it is declared. -/
theorem reserved_eq_zero (φ : Event → Nat) {p : Site}
    (h : p.role = .reads ∨ p.role = .writes ∨ p.role = .body) : p.reserved φ = 0 := by
  rcases h with h | h | h <;> rw [reserved, h]

/-- Nothing is reserved where names are used or a body stands. -/
theorem reservedAt_eq_zero (φ : Event → Nat) {p : Site} {key : String}
    (h : p.roleAt key = .reads ∨ p.roleAt key = .writes ∨ p.roleAt key = .body) :
    p.reservedAt φ key = 0 := by
  rw [reservedAt, Tree.sumAt, List.sum_eq_zero_iff_forall_eq_nat]
  intro w hw
  obtain ⟨c, -, rfl⟩ := List.mem_map.mp hw
  exact reserved_eq_zero φ h

/-- The role of a child of a site that is walked over depends on the kind of the node. -/
theorem roleAt_eq {p : Site} (h : p.mode?.isSome = true) (key : String) :
    p.roleAt key = p.roleByKind key := by
  unfold mode? at h
  unfold roleAt
  split at h <;> simp_all

/-- Nothing is reserved in what is no pattern. -/
theorem reserved_of_kind (φ : Event → Nat) {p : Site} (h : p.Fit)
    (hk : ["Identifier", "VariableDeclarator", "Property", "MethodDefinition", "ObjectPattern",
      "ArrayPattern", "AssignmentPattern", "RestElement"].contains p.node.kind = false) :
    p.reserved φ = 0 := by
  simp only [List.contains_cons, List.contains_nil, Bool.or_false, Bool.or_eq_false_iff,
    beq_eq_false_iff_ne] at hk
  obtain ⟨h1, h2, h3, h4, h5, h6, h7, h8⟩ := hk
  unfold reserved
  split
  · have hp : p.node.partNames = [] := by
      rw [Tree.partNames_eq h3 h4, Tree.boundNodes_eq h.1]
      split <;> first | contradiction | rfl
    rw [hp]
    rfl
  · rename_i home hr
    have := h.2
    rw [hr] at this
    exact absurd this h2
  · rfl

end Site

namespace ScopeTree

/-! ### Notes and events -/

section Notes

variable (frames : Nat → List Frame) (φ : Event → Nat)

/-- The weight of the event that a note tells of. -/
def noteWeight : Note → Nat
  | .opens kind node _ => φ (.opens ⟨node, kind⟩)
  | .stands _ _ | .shares _ _ => 0
  | .declares scope hoisted label name _ node =>
    φ (.declares label name (homeFrame hoisted (frames scope)) (initializes node))
  | .uses use => φ (.use use.label use.name use.writes (frames use.scope))

/-- The weight of notes. -/
def notesWeight (notes : List Note) : Nat := (notes.map (noteWeight frames φ)).sum

@[simp] theorem notesWeight_nil : notesWeight frames φ [] = 0 := rfl

@[simp] theorem notesWeight_cons (n : Note) (notes : List Note) :
    notesWeight frames φ (n :: notes) = noteWeight frames φ n + notesWeight frames φ notes := by
  rw [notesWeight, List.map_cons, List.sum_cons, notesWeight]

@[simp] theorem notesWeight_append (a b : List Note) :
    notesWeight frames φ (a ++ b) = notesWeight frames φ a + notesWeight frames φ b := by
  rw [notesWeight, List.map_append, List.sum_append, notesWeight, notesWeight]

/-- Whether `frames` gives the scopes behind the numbers, as far as notes open them from the number
`next` on. -/
@[simp] def Framed : Nat → List Note → Prop
  | _, [] => True
  | next, .opens kind node parent :: rest =>
    frames next = ⟨node, kind⟩ :: frames parent ∧ Framed (next + 1) rest
  | next, _ :: rest => Framed next rest

/-- The number of the scope that a note speaks of. -/
def Note.scope : Note → Nat
  | .opens _ _ parent => parent
  | .stands _ scope | .shares _ scope | .declares scope _ _ _ _ _ => scope
  | .uses use => use.scope

/-- Whether notes speak only of scopes that are open, those below `next` being open at the start. -/
@[simp] def Bounded : Nat → List Note → Prop
  | _, [] => True
  | next, n :: rest => n.scope < next ∧ Bounded (if n.isOpening then next + 1 else next) rest

end Notes

@[simp] theorem openings_nil : openings [] = 0 := rfl

@[simp] theorem openings_cons (n : Note) (notes : List Note) :
    openings (n :: notes) = openings notes + if n.isOpening then 1 else 0 := by
  rw [openings, List.countP_cons, openings]

@[simp] theorem openings_append (a b : List Note) : openings (a ++ b) = openings a + openings b := by
  rw [openings, List.countP_append, openings, openings]

theorem framed_append {frames : Nat → List Frame} {next : Nat} {a b : List Note} :
    Framed frames next (a ++ b) ↔ Framed frames next a ∧ Framed frames (next + openings a) b := by
  induction a generalizing next with
  | nil => simp
  | cons n rest ih =>
    cases n with
    | opens kind node parent =>
      simp only [List.cons_append, Framed, ih, openings_cons, Note.isOpening, if_true, and_assoc]
      rw [show next + 1 + openings rest = next + (openings rest + 1) by omega]
    | _ => simp [ih, Note.isOpening]

theorem bounded_append {next : Nat} {a b : List Note} :
    Bounded next (a ++ b) ↔ Bounded next a ∧ Bounded (next + openings a) b := by
  induction a generalizing next with
  | nil => simp
  | cons n rest ih =>
    simp only [List.cons_append, Bounded, ih, openings_cons, and_assoc]
    refine and_congr_right fun _ => and_congr_right fun _ => ?_
    split
    · rw [show next + 1 + openings rest = next + (openings rest + 1) by omega]
    · rfl

theorem bounded_of_no_openings {notes : List Note} {next : Nat}
    (h : ∀ n ∈ notes, n.isOpening = false ∧ n.scope < next) : Bounded next notes := by
  induction notes with
  | nil => trivial
  | cons n rest ih =>
    obtain ⟨ho, hs⟩ := h n List.mem_cons_self
    simp only [Bounded, ho]
    exact ⟨hs, ih fun m hm => h m (List.mem_cons_of_mem _ hm)⟩

theorem openings_eq_zero {notes : List Note} (h : ∀ n ∈ notes, n.isOpening = false) :
    openings notes = 0 := by
  rw [openings, List.countP_eq_zero]
  exact fun n hn => by simp [h n hn]

/-! ### Visits and sites -/

/-- The mode as far as it makes a difference for a node: assigning to what is no name and no
property is walking over it. -/
def Mode.seen (t : Tree) : Mode → Mode
  | .assigns =>
    if ["Identifier", "Property", "MethodDefinition"].contains t.kind then .assigns else .normal
  | mode => mode

/-- Whether a visit comes with the scope number and the mode that are right for a site. -/
structure Agrees (frames : Nat → List Frame) (v : Visit) (p : Site) : Prop where
  node : v.node = p.node
  fit : p.Fit
  mode : p.mode? = some (v.mode.seen v.node)
  around : frames v.scope = p.frames
  nonempty : p.frames ≠ []
  root : outermost p.frames = innermost (frames 0)

/-- The site of a visit below a site. -/
def placeBelow (p : Site) (v : Visit) : Site :=
  -- what an export gives out is two levels down
  if p.node.kind = "ExportNamedDeclaration" then ⟨v.node, .reads, p.frames⟩
  else p.below v.parent.2 v.node

/-- What is found at a site when it is visited. -/
structure Reports (frames : Nat → List Frame) (p : Site) (next : Nat) (f : Finding) : Prop where
  bounded : Bounded next f.notes
  scopes : ∀ w ∈ f.below, w.scope < next + openings f.notes
  inside : ∀ w ∈ f.below, w.node ∈ p.node.children.flatMap Tree.subtree
  reached : ∀ w ∈ f.below, Reaches p (placeBelow p w)
  agrees : Framed frames next f.notes → ∀ w ∈ f.below, Agrees frames w (placeBelow p w)
  weights : Framed frames next f.notes → ∀ φ,
    notesWeight frames φ f.notes + (f.below.map fun w => (placeBelow p w).weigh φ).sum + p.reserved φ =
      p.weigh φ + (f.below.map fun w => (placeBelow p w).reserved φ).sum

/-! ### Visits of children -/

/-- The visits of the children under a key. -/
def visitsAt (t : Tree) (key : String) (scope : Nat) (mode : Mode) : List Visit :=
  (t.nodesAt key).map fun c => ⟨c, (t.label, key), scope, mode⟩

section VisitsAt

variable {t : Tree} {key : String} {scope : Nat} {mode : Mode} {kinds : String → Bool}

theorem child_node (h : t.WellFormed) (hs : Tree.fieldSort t.kind key = some (.node kinds)) :
    child t key (t.get key) scope mode = visitsAt t key scope mode := by
  have hi := h.held hs
  rw [child, if_pos (Tree.truthy_of_isNode hi.isNode), visitsAt,
    Tree.nodesAt_of_is (Tree.holdsChildren_of_fieldSort hs) hi]
  rfl

theorem child_optional (h : t.WellFormed) (hs : Tree.fieldSort t.kind key = some (.optional kinds)) :
    child t key (t.get key) scope mode = visitsAt t key scope mode := by
  rcases h.held hs with hi | hi
  · rw [visitsAt, Tree.nodesAt_of_isLeaf (by rw [hi]; rfl), child, hi]
    rfl
  · rw [child, if_pos (Tree.truthy_of_isNode hi.isNode), visitsAt,
      Tree.nodesAt_of_is (Tree.holdsChildren_of_fieldSort hs) hi]
    rfl

theorem part_node (h : t.WellFormed) (hs : Tree.fieldSort t.kind key = some (.node kinds)) :
    part t key scope mode = .ok (visitsAt t key scope mode) := by
  rw [part, h.field_eq hs]
  exact congrArg Except.ok (child_node h hs)

theorem items_nodes (h : t.WellFormed) (hs : Tree.fieldSort t.kind key = some (.nodes kinds)) :
    (t.get key).items.map (⟨·, (t.label, key), scope, mode⟩) = visitsAt t key scope mode := by
  rw [visitsAt, h.nodesAt_nodes hs]

theorem mem_slots_of_mem_nodesAt {c : Tree} (h : c ∈ t.nodesAt key) :
    ∃ slot : Slot, slot.key = key ∧ (slot, c) ∈ t.slots := by
  obtain ⟨⟨slot, c⟩, hx, rfl⟩ := List.mem_map.mp h
  have hkey := Tree.key_of_mem_fieldSlots hx
  subst hkey
  refine ⟨slot, rfl, Tree.mem_slots_iff.mpr ⟨t.get slot.key, ?_, hx⟩⟩
  cases hv : t.get? slot.key with
  | none =>
    rw [Tree.get, hv, Option.getD_none, Tree.fieldSlots_of_isLeaf rfl] at hx
    cases hx
  | some value =>
    rw [Tree.get_of_get? hv]
    exact mem_of_lookup hv

/-- A child is reached in one step. -/
theorem reaches_of_mem_nodesAt {p : Site} {c : Tree} (h : c ∈ p.node.nodesAt key) :
    Reaches p (p.below key c) := by
  obtain ⟨slot, rfl, hslot⟩ := mem_slots_of_mem_nodesAt h
  exact .step hslot (.refl _)

theorem sum_visitsAt (g : Visit → Nat) : ((visitsAt t key scope mode).map g).sum =
    t.sumAt (fun key c => g ⟨c, (t.label, key), scope, mode⟩) key := by
  rw [visitsAt, List.map_map, Tree.sumAt]
  rfl

theorem scope_of_mem_visitsAt {w : Visit} (h : w ∈ visitsAt t key scope mode) : w.scope = scope := by
  obtain ⟨c, -, rfl⟩ := List.mem_map.mp h
  rfl

theorem inside_of_mem_visitsAt {w : Visit} (h : w ∈ visitsAt t key scope mode) :
    w.node ∈ t.children.flatMap Tree.subtree := by
  obtain ⟨c, hc, rfl⟩ := List.mem_map.mp h
  obtain ⟨slot, -, hslot⟩ := mem_slots_of_mem_nodesAt hc
  exact List.mem_flatMap.mpr ⟨c, Tree.mem_children_of_mem_slots hslot, Tree.mem_subtree_self c⟩

end VisitsAt

/-- The modes in which a child in a role can be visited. -/
def Takes (c : Tree) (mode : Mode) : NameRole → Prop
  | .reads => mode = .normal
  | .writes => mode.seen c = Mode.assigns.seen c
  | .binds _ _ => mode = .declares
  | _ => False

section Agrees

variable {frames : Nat → List Frame} {v : Visit} {p : Site}

/-- What a child that is no declarator can be. -/
theorem kind_ne_of_slot {t c : Tree} (h : t.WellFormed) (hk : t.kind ≠ "VariableDeclaration")
    {slot : Slot} (hc : (slot, c) ∈ t.slots) : c.WellFormed ∧ c.kind ≠ "VariableDeclarator" := by
  obtain ⟨spec, hs⟩ := h.exists_schema
  obtain ⟨hw, sort, hm, ha⟩ := h.admits hs hc
  refine ⟨hw, fun hck => ?_⟩
  have table : ∀ entry ∈ schemaTable, entry.1 ≠ "VariableDeclaration" →
      ∀ field ∈ entry.2, field.2.admits "VariableDeclarator" = false := by decide +kernel
  rw [hck, table _ (mem_of_lookup hs) hk _ hm] at ha
  cases ha

theorem outermost_append (a : List Frame) {b : List Frame} (hb : b ≠ []) :
    outermost (a ++ b) = outermost b := by
  rw [outermost, outermost, List.getLastD_eq_getLast?, List.getLastD_eq_getLast?,
    List.getLast?_append, List.getLast?_eq_some_getLast hb]
  rfl

/-- A visit below agrees with its site if its scope number, its role and its mode are right. -/
theorem Agrees.below (h : Agrees frames v p) {l : Nat} {key : String} {c : Tree} {scope : Nat}
    {mode : Mode} (hf : frames scope = p.framesAt key) (hfit : (p.below key c).Fit)
    (hm : (p.below key c).mode? = some (mode.seen c)) :
    Agrees frames ⟨c, (l, key), scope, mode⟩ (p.below key c) where
  node := rfl
  fit := hfit
  mode := hm
  around := hf
  nonempty := by
    rw [Site.below, Site.framesAt]
    dsimp only
    split
    · exact List.append_ne_nil_of_right_ne_nil _ h.nonempty
    · exact h.nonempty
  root := by
    rw [← h.root, Site.below, Site.framesAt]
    dsimp only
    split
    · exact outermost_append _ h.nonempty
    · rfl

theorem fit_of_takes (hw : p.node.WellFormed) (hk : p.node.kind ≠ "VariableDeclaration")
    {slot : Slot} {c : Tree} (hc : (slot, c) ∈ p.node.slots) {mode : Mode}
    (hr : Takes c mode (p.roleAt slot.key)) :
    (p.below slot.key c).Fit ∧ (p.below slot.key c).mode? = some (mode.seen c) := by
  obtain ⟨hwc, hne⟩ := kind_ne_of_slot hw hk hc
  refine ⟨⟨hwc, ?_⟩, ?_⟩
  · simp only [Site.below]
    split <;> simp_all [Takes]
  · simp only [Site.mode?, Site.below]
    split <;> simp_all [Takes, Mode.seen]

end Agrees

/-! ### What is reported -/

section Reports

variable {frames : Nat → List Frame} {v : Visit} {p : Site} {next : Nat}

theorem placeBelow_eq (he : p.node.kind ≠ "ExportNamedDeclaration") (w : Visit) :
    placeBelow p w = p.below w.parent.2 w.node := if_neg he

/-- The report of a visit that goes on with all children alike. -/
theorem reports_all (h : Agrees frames v p) (hd : p.node.kind ≠ "VariableDeclaration")
    (he : p.node.kind ≠ "ExportNamedDeclaration") {notes : List Note} {scope : Nat} {mode : Mode}
    (hb : Bounded next notes) (hscope : scope < next + openings notes)
    (hf : Framed frames next notes → ∀ key, frames scope = p.framesAt key)
    (ht : ∀ slot c, (slot, c) ∈ p.node.slots → Takes c mode (p.roleAt slot.key))
    (hr : ∀ φ, p.reserved φ = (p.node.slots.map fun x => (p.below x.1.key x.2).reserved φ).sum)
    (hw : Framed frames next notes → ∀ φ, notesWeight frames φ notes = (p.events.map φ).sum) :
    Reports frames p next ⟨notes, allChildren p.node scope mode⟩ where
  bounded := hb
  scopes := by
    intro w hm
    obtain ⟨x, -, rfl⟩ := List.mem_map.mp hm
    exact hscope
  inside := by
    intro w hm
    obtain ⟨x, hx, rfl⟩ := List.mem_map.mp hm
    exact List.mem_flatMap.mpr ⟨_, Tree.mem_children_of_mem_slots hx, Tree.mem_subtree_self _⟩
  reached := by
    intro w hm
    obtain ⟨x, hx, rfl⟩ := List.mem_map.mp hm
    rw [placeBelow_eq he]
    exact .step hx (.refl _)
  agrees := by
    intro hframed w hm
    obtain ⟨x, hx, rfl⟩ := List.mem_map.mp hm
    rw [placeBelow_eq he]
    obtain ⟨hfit, hm⟩ := fit_of_takes h.fit.1 hd hx (ht _ _ hx)
    exact h.below (hf hframed _) hfit hm
  weights := by
    intro hframed φ
    simp only [allChildren, List.map_map, Function.comp_def, placeBelow_eq he]
    rw [hw hframed, p.weigh_eq, hr]

theorem sum_parts (he : p.node.kind ≠ "ExportNamedDeclaration") (parts : List (String × Nat × Mode))
    (g : Site → Nat) :
    ((parts.flatMap fun x => visitsAt p.node x.1 x.2.1 x.2.2).map fun w => g (placeBelow p w)).sum =
      (parts.map fun x => p.node.sumAt (fun key c => g (p.below key c)) x.1).sum := by
  induction parts with
  | nil => rfl
  | cons x rest ih =>
    rw [List.flatMap_cons, List.map_append, List.sum_append, List.map_cons, List.sum_cons,
      sum_visitsAt, ih]
    simp only [placeBelow_eq he]

/-- The report of a visit that goes on with the children under given keys. -/
theorem reports_parts (h : Agrees frames v p) (he : p.node.kind ≠ "ExportNamedDeclaration")
    {spec : List (String × FieldSort)} (hs : schema p.node.kind = some spec) (notes : List Note)
    (parts : List (String × Nat × Mode)) (hb : Bounded next notes)
    (hscope : ∀ x ∈ parts, x.2.1 < next + openings notes)
    (ha : Framed frames next notes → ∀ x ∈ parts, frames x.2.1 = p.framesAt x.1 ∧
      ∀ c ∈ p.node.nodesAt x.1, (p.below x.1 c).Fit ∧ (p.below x.1 c).mode? = some (x.2.2.seen c))
    (hw : Framed frames next notes → ∀ φ,
      notesWeight frames φ notes + (parts.map fun x => p.weighAt φ x.1).sum + p.reserved φ =
        (p.events.map φ).sum + (spec.map fun entry => p.weighAt φ entry.1).sum +
          (parts.map fun x => p.reservedAt φ x.1).sum) :
    Reports frames p next ⟨notes, parts.flatMap fun x => visitsAt p.node x.1 x.2.1 x.2.2⟩ where
  bounded := hb
  scopes := by
    intro w hm
    obtain ⟨x, hx, hm⟩ := List.mem_flatMap.mp hm
    rw [scope_of_mem_visitsAt hm]
    exact hscope x hx
  inside := by
    intro w hm
    obtain ⟨x, -, hm⟩ := List.mem_flatMap.mp hm
    exact inside_of_mem_visitsAt hm
  reached := by
    intro w hm
    obtain ⟨x, -, hm⟩ := List.mem_flatMap.mp hm
    obtain ⟨c, hc, rfl⟩ := List.mem_map.mp hm
    rw [placeBelow_eq he]
    exact reaches_of_mem_nodesAt hc
  agrees := by
    intro hframed w hm
    obtain ⟨x, hx, hm⟩ := List.mem_flatMap.mp hm
    obtain ⟨c, hc, rfl⟩ := List.mem_map.mp hm
    obtain ⟨hf, hc'⟩ := ha hframed x hx
    rw [placeBelow_eq he]
    exact h.below hf (hc' c hc).1 (hc' c hc).2
  weights := by
    intro hframed φ
    rw [sum_parts he parts (Site.weigh φ), sum_parts he parts (Site.reserved φ),
      p.weigh_eq_sum φ h.fit.1 hs]
    exact hw hframed φ

/-- The report of a visit that goes on with the children under given keys, none of them a
declarator. -/
theorem reports_takes (h : Agrees frames v p) (hd : p.node.kind ≠ "VariableDeclaration")
    (he : p.node.kind ≠ "ExportNamedDeclaration") {spec : List (String × FieldSort)}
    (hs : schema p.node.kind = some spec) (notes : List Note) (parts : List (String × Nat × Mode))
    (hb : Bounded next notes) (hscope : ∀ x ∈ parts, x.2.1 < next + openings notes)
    (ha : Framed frames next notes → ∀ x ∈ parts, frames x.2.1 = p.framesAt x.1)
    (ht : ∀ x ∈ parts, ∀ c ∈ p.node.nodesAt x.1, Takes c x.2.2 (p.roleAt x.1))
    (hw : Framed frames next notes → ∀ φ,
      notesWeight frames φ notes + (parts.map fun x => p.weighAt φ x.1).sum + p.reserved φ =
        (p.events.map φ).sum + (spec.map fun entry => p.weighAt φ entry.1).sum +
          (parts.map fun x => p.reservedAt φ x.1).sum) :
    Reports frames p next ⟨notes, parts.flatMap fun x => visitsAt p.node x.1 x.2.1 x.2.2⟩ := by
  refine reports_parts h he hs notes parts hb hscope (fun hf x hx => ⟨ha hf x hx, fun c hc => ?_⟩) hw
  obtain ⟨slot, hkey, hslot⟩ := mem_slots_of_mem_nodesAt hc
  rw [← hkey]
  exact fit_of_takes h.fit.1 hd hslot (hkey ▸ ht x hx c hc)

end Reports

end ScopeTree

end Deminify
