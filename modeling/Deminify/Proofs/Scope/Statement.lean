import Deminify.Proofs.Scope.Expression

/-!
# What is found in statements and declarations

The kinds of nodes that open scopes and declare names, one after the other, and those that are
visited like all others; `Deminify.ScopeTree.reports_visit` puts all kinds together.
-/

namespace Deminify

namespace ScopeTree

section Reports

variable {frames : Nat → List Frame} {v : Visit} {p : Site} {next : Nat}

/-! ### Statements -/

/-- Nodes in which no name means anything. -/
theorem reports_silent (h : Agrees frames v p)
    (hk : p.node.kind = "ExportAllDeclaration" ∨ p.node.kind = "BreakStatement" ∨
      p.node.kind = "ContinueStatement" ∨ p.node.kind = "MetaProperty") :
    Reports frames p next {} := by
  obtain ⟨-, hevents, hreserved⟩ := quiet h
    (by rcases hk with hk | hk | hk | hk <;> simp [Site.openedKinds, hk])
    (by rcases hk with hk | hk | hk | hk <;> simp [hk])
  have hrole (key : String) : p.roleAt key = .inert := by
    rw [h.roleAt]
    rcases hk with hk | hk | hk | hk <;> simp [Site.roleByKind, hk]
  refine ⟨trivial, by simp, by simp, by simp, by simp, fun _ φ => ?_⟩
  have hzero : (p.node.slots.map fun x => (p.below x.1.key x.2).weigh φ).sum = 0 := by
    rw [List.sum_eq_zero_iff_forall_eq_nat]
    intro w hw
    obtain ⟨x, -, rfl⟩ := List.mem_map.mp hw
    exact Site.weigh_inert φ (hrole _)
  simp [p.weigh_eq, hzero, hevents, hreserved]

theorem reports_labeled (h : Agrees frames v p) (hn : v.scope < next)
    (hk : p.node.kind = "LabeledStatement") :
    ∃ visits, part p.node "body" v.scope .normal = .ok visits ∧
      Reports frames p next { below := visits } := by
  have hw := h.fit.1
  have hs : schema p.node.kind = some [("label", .name), ("body", .node isStatementKind)] := by
    rw [hk]; rfl
  have body : Tree.fieldSort p.node.kind "body" = some (.node isStatementKind) := by rw [hk]; rfl
  obtain ⟨hframes, hevents, hreserved⟩ := quiet h (by simp [Site.openedKinds, hk]) (by simp [hk])
  have hlabel : p.roleAt "label" = .inert := by
    simp [h.roleAt, Site.roleByKind, hk]
  have hbody : p.roleAt "body" = .reads := by
    simp [h.roleAt, Site.roleByKind, hk]
  refine ⟨_, ?_, reports_takes h (by simp [hk]) (by simp [hk]) hs [] [("body", v.scope, .normal)]
    trivial ?_ ?_ ?_ ?_⟩
  · simp only [part_node hw body, List.flatMap_cons, List.flatMap_nil, List.append_nil]
  · simpa using hn
  · simp [hframes, h.around]
  · simp [hbody, Takes]
  · intro _ φ
    simp [hevents, hreserved, p.weighAt_inert φ hlabel, p.reservedAt_eq_zero φ (.inl hbody)]

theorem reports_attribute (h : Agrees frames v p) (hn : v.scope < next)
    (hk : p.node.kind = "JSXAttribute") :
    Reports frames p next
      { below := child p.node "value" (p.node.get "value") v.scope .normal } := by
  have hw := h.fit.1
  have hs : schema p.node.kind = some [("name", .node isAttributeNameKind),
    ("value", .optional isAttributeValueKind)] := by rw [hk]; rfl
  have value : Tree.fieldSort p.node.kind "value" = some (.optional isAttributeValueKind) := by
    rw [hk]; rfl
  obtain ⟨hframes, hevents, hreserved⟩ := quiet h (by simp [Site.openedKinds, hk]) (by simp [hk])
  have hname : p.roleAt "name" = .inert := by
    simp [h.roleAt, Site.roleByKind, hk]
  have hvalue : p.roleAt "value" = .reads := by
    simp [h.roleAt, Site.roleByKind, hk]
  have hreports : Reports frames p next _ := reports_takes h (by simp [hk]) (by simp [hk]) hs []
    [("value", v.scope, .normal)] trivial (by simpa using hn) (by simp [hframes, h.around])
    (by simp [hvalue, Takes]) (fun _ φ => by
      simp [hevents, hreserved, p.weighAt_inert φ hname, p.reservedAt_eq_zero φ (.inl hvalue)])
  rwa [List.flatMap_singleton, ← child_optional hw value] at hreports

/-- Nodes whose children are all walked over alike, in the same scope or in one that opens. -/
theorem reports_reads (h : Agrees frames v p) (hn : v.scope < next)
    (hk : ["Identifier", "VariableDeclaration", "VariableDeclarator", "Property", "MethodDefinition",
      "ObjectPattern", "ArrayPattern", "AssignmentPattern", "RestElement",
      "ExportNamedDeclaration"].contains p.node.kind = false)
    (hrole : ∀ key, p.roleByKind key = .reads) (hinside : ∀ key, p.isInside key = true)
    (kind : Option String) (ho : p.openedKinds = kind.toList) :
    Reports frames p next ⟨kind.toList.map fun kind => .opens kind p.node.label v.scope,
      allChildren p.node (if kind.isSome then next else v.scope) .normal⟩ := by
  simp only [List.contains_cons, List.contains_nil, Bool.or_false, Bool.or_eq_false_iff,
    beq_eq_false_iff_ne] at hk
  obtain ⟨h1, h2, h3, h4, h5, h6, h7, h8, h9, h10⟩ := hk
  have hzero (φ : Event → Nat) :
      (p.node.slots.map fun x => (p.below x.1.key x.2).reserved φ).sum = 0 := by
    rw [List.sum_eq_zero_iff_forall_eq_nat]
    intro w hw
    obtain ⟨x, -, rfl⟩ := List.mem_map.mp hw
    exact Site.reserved_eq_zero φ (.inl (by rw [Site.below, h.roleAt, hrole]))
  refine reports_all h h2 h10 ?_ ?_ ?_ ?_ ?_ ?_
  · cases kind <;> simp [Note.scope, hn]
  · cases kind <;> simp [Note.isOpening, hn]
  · intro hf key
    rw [Site.framesAt, hinside, if_pos rfl, Site.opened, ho, ← h.around]
    cases kind with
    | none => rfl
    | some kind => simpa using hf
  · intro slot c _
    rw [h.roleAt, hrole]
    rfl
  · intro φ
    rw [hzero, Site.reserved_of_kind φ h.fit (by simp [*])]
  · intro _ φ
    rw [h.events h1, Site.opened, ho]
    cases kind <;> simp [noteWeight]

theorem reports_block (h : Agrees frames v p) (hn : v.scope < next)
    (hk : p.node.kind = "BlockStatement") :
    ∃ f, visitBlock p.node v.scope next v.mode = .ok f ∧ Reports frames p next f := by
  have hm := h.mode
  have hseen : v.mode.seen p.node = .shared ↔ v.mode = .shared := by
    cases v.mode <;> simp [Mode.seen, hk]
  rw [h.node] at hm
  have hbody : p.role = .body ↔ v.mode = .shared := by
    rw [← hseen]
    constructor
    · intro hr
      rw [Site.mode?, hr] at hm
      exact (Option.some.inj hm).symm
    · intro hs
      rw [hs, Site.mode?] at hm
      cases hr : p.role <;> simp [hr, hk] at hm ⊢
  by_cases hr : v.mode = .shared
  · refine ⟨_, ?_, reports_reads h hn (by simp [hk]) (by simp [Site.roleByKind, hk])
      (by simp [Site.isInside, hk]) none ?_⟩
    · rw [visitBlock, hr]
      rfl
    · simp [Site.openedKinds, hk, hbody.mpr hr]
  · refine ⟨_, ?_, reports_reads h hn (by simp [hk]) (by simp [Site.roleByKind, hk])
      (by simp [Site.isInside, hk]) (some "block") ?_⟩
    · rw [visitBlock, if_neg (by simpa using hr)]
      rfl
    · have hne : p.role ≠ .body := fun he => hr (hbody.mp he)
      simp [Site.openedKinds, hk, hne]

/-- What happens at a node that opens one scope. -/
theorem events_opened (h : Agrees frames v p) {kind : String} (ho : p.openedKinds = [kind]) :
    p.events = [.opens ⟨p.node.label, kind⟩] := by
  rw [h.events fun hk => by simp [Site.openedKinds, hk] at ho, Site.opened, ho]
  rfl

theorem reports_loop (h : Agrees frames v p) (hn : v.scope < next)
    (hk : p.node.kind = "ForInStatement" ∨ p.node.kind = "ForOfStatement") :
    ∃ f, visitLoopOver p.node v.scope next = .ok f ∧ Reports frames p next f := by
  have hw := h.fit.1
  have hs : schema p.node.kind = some [("left", .node isLoopHeadKind), ("right", .expression),
      ("body", .node isStatementKind)] := by
    rcases hk with hk | hk <;> rw [hk] <;> rfl
  have left : Tree.fieldSort p.node.kind "left" = some (.node isLoopHeadKind) := by
    rw [Tree.fieldSort, hs]; rfl
  have right : Tree.fieldSort p.node.kind "right" = some .expression := by
    rw [Tree.fieldSort, hs]; rfl
  have body : Tree.fieldSort p.node.kind "body" = some (.node isStatementKind) := by
    rw [Tree.fieldSort, hs]; rfl
  have hopened : p.openedKinds = ["for"] := by
    rcases hk with hk | hk <;> simp [Site.openedKinds, hk]
  have hinside (key : String) : p.isInside key = true := by
    rcases hk with hk | hk <;> simp [Site.isInside, hk]
  have hevents := events_opened h hopened
  have hreserved (φ : Event → Nat) : p.reserved φ = 0 := by
    rcases hk with hk | hk <;> exact Site.reserved_of_kind φ h.fit (by simp [hk])
  have hleft : p.roleAt "left" = .writes := by
    rw [h.roleAt]
    rcases hk with hk | hk <;> simp [Site.roleByKind, hk]
  have hright : p.roleAt "right" = .reads := by
    rw [h.roleAt]
    rcases hk with hk | hk <;> simp [Site.roleByKind, hk]
  have hbody : p.roleAt "body" = .reads := by
    rw [h.roleAt]
    rcases hk with hk | hk <;> simp [Site.roleByKind, hk]
  -- one scope is opened, and head, object and body are all visited in it
  refine ⟨_, ?_, reports_takes h (by rcases hk with hk | hk <;> simp [hk])
    (by rcases hk with hk | hk <;> simp [hk]) hs [.opens "for" p.node.label v.scope]
    [("left", next, if (p.node.get "left").kind == "VariableDeclaration" then .normal else .assigns),
      ("right", next, .normal), ("body", next, .normal)] ?_ ?_ ?_ ?_ ?_⟩
  · simp only [visitLoopOver, hw.field_eq left, hw.field_eq right, hw.field_eq body, ok_bind,
      (hw.held left).2.kindOf_eq, child_node hw left, child_node hw right, child_node hw body,
      List.flatMap_cons, List.flatMap_nil, List.append_nil]
    rw [List.append_assoc]
    rfl
  · simpa [Note.scope] using hn
  · simp [Note.isOpening]
  · intro hf
    have hf : frames next = ⟨p.node.label, "for"⟩ :: frames v.scope := hf.1
    simp [Site.framesAt, Site.opened, hopened, hinside, hf, h.around]
  · simp only [List.forall_mem_cons, hleft, hright, hbody]
    refine ⟨fun c hc => ?_, fun c _ => rfl, fun c _ => rfl, by simp⟩
    rw [Tree.nodesAt_of_is (Tree.holdsChildren_of_fieldSort left) (hw.held left),
      List.mem_singleton] at hc
    subst hc
    split
    · rename_i hv
      simp [Takes, Mode.seen, beq_iff_eq.mp hv]
    · rfl
  · intro _ φ
    simp [hevents, hreserved, noteWeight, p.reservedAt_eq_zero φ (.inr (.inl hleft)),
      p.reservedAt_eq_zero φ (.inl hright), p.reservedAt_eq_zero φ (.inl hbody)]

theorem reports_switch (h : Agrees frames v p) (hn : v.scope < next)
    (hk : p.node.kind = "SwitchStatement") :
    ∃ f, visitSwitch p.node v.scope next = .ok f ∧ Reports frames p next f := by
  have hw := h.fit.1
  have hs : schema p.node.kind = some [("discriminant", .expression),
    ("cases", .nodes (· == "SwitchCase"))] := by rw [hk]; rfl
  have discriminant : Tree.fieldSort p.node.kind "discriminant" = some .expression := by
    rw [hk]; rfl
  have cases : Tree.fieldSort p.node.kind "cases" = some (.nodes (· == "SwitchCase")) := by
    rw [hk]; rfl
  have hopened : p.openedKinds = ["switch"] := by simp [Site.openedKinds, hk]
  have hevents := events_opened h hopened
  have hreserved (φ : Event → Nat) := Site.reserved_of_kind φ h.fit (by simp [hk])
  have hrole (key : String) : p.roleAt key = .reads := by
    simp [h.roleAt, Site.roleByKind, hk]
  refine ⟨_, ?_, reports_takes h (by simp [hk]) (by simp [hk]) hs
    [.opens "switch" p.node.label v.scope]
    [("discriminant", v.scope, .normal), ("cases", next, .normal)] ?_ ?_ ?_ ?_ ?_⟩
  · simp only [visitSwitch, hw.field_eq discriminant, hw.listField_eq cases, ok_bind,
      child_node hw discriminant, items_nodes hw cases, List.flatMap_cons, List.flatMap_nil,
      List.append_nil]
    rfl
  · simpa [Note.scope] using hn
  · simp only [List.forall_mem_cons]
    exact ⟨by simp [Note.isOpening]; omega, by simp [Note.isOpening], by simp⟩
  · intro hf
    have hf : frames next = ⟨p.node.label, "switch"⟩ :: frames v.scope := hf.1
    simp [Site.framesAt, Site.opened, hopened, Site.isInside, hk, hf, h.around]
  · simp [hrole, Takes]
  · intro _ φ
    simp [hevents, hreserved, noteWeight, p.reservedAt_eq_zero φ (.inl (hrole _))]

/-! ### Declarations -/

/-- The note of a declared name. -/
def declareNote (scope : Nat) (hoisted : Bool) (kind : String) (node name : Tree) : Note :=
  .declares scope hoisted name.label ((name.get "name").str?.getD "") kind node

theorem declaring_eq {scope : Nat} {hoisted : Bool} {name node : Tree} {kind : String}
    (h : name.Is (· == "Identifier")) :
    declaring scope hoisted name kind node = .ok (declareNote scope hoisted kind node name) := by
  have hs : Tree.fieldSort name.kind "name" = some .text := by
    rw [beq_iff_eq.mp h.kinds]; rfl
  rw [declaring, h.2.textField_eq hs]
  rfl

theorem declaringPattern_eq {scope : Nat} {hoisted : Bool} {pattern node : Tree} {kind : String}
    (h : pattern.WellFormed) : declaringPattern scope hoisted pattern kind node =
      .ok (pattern.boundNodes.map (declareNote scope hoisted kind node)) := by
  rw [declaringPattern, Tree.patternIdentifiers_eq h, ok_bind]
  exact Tree.mapM_eq_ok fun name hn => declaring_eq (Tree.is_of_mem_boundNames h hn)

theorem noteWeight_declareNote (φ : Event → Nat) (scope : Nat) (hoisted : Bool) (kind : String)
    (node name : Tree) : noteWeight frames φ (declareNote scope hoisted kind node name) =
      Site.declareWeight φ (homeFrame hoisted (frames scope)) (initializes node) name := rfl

theorem notesWeight_declareNotes (φ : Event → Nat) (scope : Nat) (hoisted : Bool) (kind : String)
    (node : Tree) (names : List Tree) :
    notesWeight frames φ (names.map (declareNote scope hoisted kind node)) =
      (names.map (Site.declareWeight φ (homeFrame hoisted (frames scope)) (initializes node))).sum := by
  rw [notesWeight, List.map_map]
  rfl

theorem isOpening_declareNotes {scope : Nat} {hoisted : Bool} {kind : String} {node : Tree}
    {names : List Tree} : ∀ n ∈ names.map (declareNote scope hoisted kind node),
      n.isOpening = false ∧ n.scope = scope := by
  intro n hn
  obtain ⟨name, -, rfl⟩ := List.mem_map.mp hn
  exact ⟨rfl, rfl⟩

/-- Only declarators give values right away. -/
theorem initializes_eq_false {t : Tree} (h : t.kind ≠ "VariableDeclarator") : initializes t = false := by
  rw [initializes, Bool.and_eq_false_iff]
  refine .inl ?_
  cases hk : t.isKind "VariableDeclarator" with
  | false => rfl
  | true =>
    rw [Tree.isKind, Bool.and_eq_true, beq_iff_eq] at hk
    exact absurd (by rw [Tree.kind, hk.2]; rfl) h

theorem reports_declarator (h : Agrees frames v p) (hn : v.scope < next)
    (hk : p.node.kind = "VariableDeclarator") :
    ∃ f, visitDeclarator p.node v.scope = .ok f ∧ Reports frames p next f := by
  have hw := h.fit.1
  have hs : schema p.node.kind = some [("id", .expression), ("init", .optional isExpressionKind)] := by
    rw [hk]; rfl
  have id : Tree.fieldSort p.node.kind "id" = some .expression := by rw [hk]; rfl
  have init : Tree.fieldSort p.node.kind "init" = some (.optional isExpressionKind) := by rw [hk]; rfl
  have hopened : p.openedKinds = [] := by simp [Site.openedKinds, hk]
  have hframes := framesAt_of_openedKinds hopened
  have hevents := events_of_openedKinds hopened (by simp [hk]) (by simp [hk])
  obtain ⟨home, hrole⟩ : ∃ home, p.role = .declarator home := by
    have hfit := h.fit.2
    have hm := h.mode
    cases hr : p.role with
    | declarator home => exact ⟨home, rfl⟩
    | reads | writes | binds => rw [hr] at hfit; exact absurd hk hfit
    | body => rw [hr] at hfit; simp [hk] at hfit
    | _ => simp [Site.mode?, hr] at hm
  have hid : p.roleAt "id" = .binds home !(p.node.get "init").isNull := by
    simp [h.roleAt, Site.roleByKind, hk, hrole]
  have hinit : p.roleAt "init" = .reads := by
    simp [h.roleAt, Site.roleByKind, hk]
  have hreserved (φ : Event → Nat) : p.reserved φ = p.reservedAt φ "id" := by
    rw [Site.reservedAt, hw.sumAt_node id]
    simp only [Site.reserved, Site.below, hrole, hid, (hw.held id).partNames_eq]
  refine ⟨_, ?_, reports_takes h (by simp [hk]) (by simp [hk]) hs []
    [("id", v.scope, .declares), ("init", v.scope, .normal)] trivial ?_ ?_ ?_ ?_⟩
  · simp only [visitDeclarator, part_node hw id, child_optional hw init, ok_bind, List.flatMap_cons,
      List.flatMap_nil, List.append_nil]
    rfl
  · simpa using hn
  · simp [hframes, h.around]
  · simp [hid, hinit, Takes]
  · intro _ φ
    simp [hevents, hreserved, p.reservedAt_eq_zero φ (.inl hinit)]

theorem reports_declaration (h : Agrees frames v p) (hn : v.scope < next)
    (hk : p.node.kind = "VariableDeclaration") :
    ∃ f, visitDeclaration p.node v.scope = .ok f ∧ Reports frames p next f := by
  have hw := h.fit.1
  have hs : schema p.node.kind = some [("declarations", .nodes (· == "VariableDeclarator")),
    ("kind", .text)] := by rw [hk]; rfl
  have declarations : Tree.fieldSort p.node.kind "declarations" =
    some (.nodes (· == "VariableDeclarator")) := by rw [hk]; rfl
  have kind : Tree.fieldSort p.node.kind "kind" = some .text := by rw [hk]; rfl
  obtain ⟨hframes, hevents, hreserved⟩ := quiet h (by simp [Site.openedKinds, hk]) (by simp [hk])
  let hoisted := (p.node.get "kind").str?.getD "" == "var"
  have hhoisted : ((p.node.get "kind").str? == some "var") = hoisted := by
    obtain ⟨s, hv⟩ := hw.held kind
    simp only [hoisted, hv, Tree.str?]
    rfl
  have hrole : p.roleAt "declarations" = .declarator (homeFrame hoisted p.frames) := by
    simp only [h.roleAt, Site.roleByKind, hk, hhoisted]
  have hitems := hw.held_items declarations
  have hid {d : Tree} (hd : d ∈ (p.node.get "declarations").items) :
      Tree.fieldSort d.kind "id" = some .expression := by
    rw [beq_iff_eq.mp (hitems d hd).kinds]; rfl
  -- all names of a declaration are noted before its declarators are visited
  let notesOf (d : Tree) : List Note :=
    (d.get "id").boundNodes.map (declareNote v.scope hoisted ((p.node.get "kind").str?.getD "") d)
  have hbound : (p.node.get "declarations").items.mapM (fun d => do
      declaringPattern v.scope hoisted (← d.field "id") ((p.node.get "kind").str?.getD "") d) =
        .ok ((p.node.get "declarations").items.map notesOf) := by
    refine Tree.mapM_eq_ok fun d hd => ?_
    rw [(hitems d hd).2.field_eq (hid hd), ok_bind,
      declaringPattern_eq ((hitems d hd).2.held (hid hd)).2]
  have hplain : ∀ n ∈ ((p.node.get "declarations").items.map notesOf).flatten,
      n.isOpening = false ∧ n.scope = v.scope := by
    intro n hm
    obtain ⟨notes, hm, hnotes⟩ := List.mem_flatten.mp hm
    obtain ⟨d, -, rfl⟩ := List.mem_map.mp hm
    exact isOpening_declareNotes n hnotes
  have hopenings : openings ((p.node.get "declarations").items.map notesOf).flatten = 0 :=
    openings_eq_zero fun n hm => (hplain n hm).1
  -- what these notes weigh is what is reserved at the declarators, where it is not weighed once more
  have hweights (φ : Event → Nat) :
      notesWeight frames φ ((p.node.get "declarations").items.map notesOf).flatten =
        p.reservedAt φ "declarations" := by
    rw [Site.reservedAt, hw.sumAt_nodes declarations, notesWeight, ← List.flatMap_def, sum_flatMap]
    refine congrArg List.sum (List.map_congr_left fun d hd => ?_)
    have hinit : initializes d = !(d.get "init").isNull := by
      rw [initializes, (hitems d hd).2.isKind_iff.mpr (beq_iff_eq.mp (hitems d hd).kinds)]
      rfl
    simp only [Site.reserved, Site.below, hrole]
    rw [← h.around, ← hinit]
    exact notesWeight_declareNotes φ v.scope hoisted _ d (d.get "id").boundNodes
  refine ⟨_, ?_, reports_parts h (by simp [hk]) hs
    ((p.node.get "declarations").items.map notesOf).flatten [("declarations", v.scope, .normal)]
    ?_ ?_ ?_ ?_⟩
  · simp only [visitDeclaration, hw.textField_eq kind, hw.listField_eq declarations, ok_bind,
      List.flatMap_cons, List.flatMap_nil, List.append_nil]
    rw [hbound, items_nodes hw declarations]
    rfl
  · exact bounded_of_no_openings fun n hm => ⟨(hplain n hm).1, (hplain n hm).2 ▸ hn⟩
  · simpa [hopenings] using hn
  · intro _
    simp only [List.forall_mem_cons, List.not_mem_nil, false_implies, implies_true, and_true]
    refine ⟨by rw [hframes, h.around], fun c hc => ?_⟩
    rw [hw.nodesAt_nodes declarations] at hc
    refine ⟨⟨(hitems c hc).2, ?_⟩, ?_⟩
    · simp only [Site.below, hrole]
      exact beq_iff_eq.mp (hitems c hc).kinds
    · simp only [Site.mode?, Site.below, hrole]
      rfl
  · intro _ φ
    simp [hweights, hevents, hreserved, p.weighAt_leaf φ hw kind]
    omega

/-- What is reserved in the patterns under a key that are declared in one scope. -/
theorem reservedAt_binds {t : Tree} (ht : t = p.node) {key : String} {home : Frame}
    {initializes : Bool} (hr : p.roleAt key = .binds home initializes)
    (hi : ∀ c ∈ t.nodesAt key, c.Is isExpressionKind) (φ : Event → Nat) :
    p.reservedAt φ key = ((t.nodesAt key).map fun c =>
      (c.boundNodes.map (Site.declareWeight φ home initializes)).sum).sum := by
  subst ht
  rw [Site.reservedAt, Tree.sumAt]
  refine congrArg List.sum (List.map_congr_left fun c hc => ?_)
  simp only [Site.reserved, Site.below, hr, (hi c hc).partNames_eq]

/-- The weight of the name of a function or a class. -/
theorem weighAt_name (hw : p.node.WellFormed) {key : String}
    (hs : Tree.fieldSort p.node.kind key = some (.optional (· == "Identifier")))
    {home : Frame} (hr : p.roleAt key = .names home) (φ : Event → Nat) :
    p.weighAt φ key = if (p.node.get key).truthy then
      Site.declareWeight φ home false (p.node.get key) else 0 := by
  rw [Site.weighAt, hw.sumAt_optional hs]
  split
  · rename_i ht
    rcases hw.held hs with hi | hi
    · rw [hi] at ht
      cases ht
    · have hk := beq_iff_eq.mp hi.kinds
      rw [Site.weigh_identifier φ hi.2 (.inl hk)]
      simp only [Site.events, Site.below, hk, hr]
      rfl
  · rfl

theorem reports_catch (h : Agrees frames v p) (hn : v.scope < next)
    (hk : p.node.kind = "CatchClause") :
    ∃ f, visitCatch p.node v.scope next = .ok f ∧ Reports frames p next f := by
  have hw := h.fit.1
  have hs : schema p.node.kind = some [("param", .expression), ("body", .block)] := by rw [hk]; rfl
  have param : Tree.fieldSort p.node.kind "param" = some .expression := by rw [hk]; rfl
  have body : Tree.fieldSort p.node.kind "body" = some .block := by rw [hk]; rfl
  have hopened : p.openedKinds = ["catch"] := by simp [Site.openedKinds, hk]
  have hevents := events_opened h hopened
  have hreserved (φ : Event → Nat) := Site.reserved_of_kind φ h.fit (by simp [hk])
  have hparam : p.roleAt "param" = .binds ⟨p.node.label, "catch"⟩ false := by
    simp [h.roleAt, Site.roleByKind, hk]
  have hbody : p.roleAt "body" = .body := by
    simp [h.roleAt, Site.roleByKind, hk]
  have htruthy := Tree.truthy_of_isNode (hw.held param).isNode
  -- the parameter is declared in the scope that is opened here, and the body shares this scope
  let bound := (p.node.get "param").boundNodes.map (declareNote next false "catch" p.node)
  have hopenings : openings bound = 0 := openings_eq_zero fun n hm => (isOpening_declareNotes n hm).1
  refine ⟨_, ?_, reports_parts h (by simp [hk]) hs
    (Note.opens "catch" p.node.label v.scope :: bound ++ [Note.shares (p.node.get "body").label next])
    [("param", next, .declares), ("body", next, .shared)] ?_ ?_ ?_ ?_⟩
  · simp only [visitCatch, htruthy, if_true, declaringPattern_eq (hw.held param).2, hw.field_eq body,
      ok_bind, child_node hw param, child_node hw body, List.flatMap_cons, List.flatMap_nil,
      List.append_nil]
    rfl
  · have hb : Bounded (next + 1) bound := bounded_of_no_openings fun n hm => by
      obtain ⟨ho, hsc⟩ := isOpening_declareNotes n hm
      exact ⟨ho, by omega⟩
    simp [Note.scope, hn, Note.isOpening, bounded_append, hb, hopenings]
  · simp [Note.isOpening, hopenings]
  · intro hf
    have hf : frames next = ⟨p.node.label, "catch"⟩ :: frames v.scope := hf.1
    have hframes (key : String) : frames next = p.framesAt key := by
      simp [Site.framesAt, Site.opened, hopened, Site.isInside, hk, hf, h.around]
    simp only [List.forall_mem_cons, List.not_mem_nil, false_implies, implies_true, and_true]
    refine ⟨⟨hframes _, fun c hc => ?_⟩, hframes _, fun c hc => ?_⟩
    · obtain ⟨slot, hkey, hslot⟩ := mem_slots_of_mem_nodesAt hc
      rw [← hkey]
      refine fit_of_takes hw (by simp [hk]) hslot ?_
      rw [hkey, hparam]
      rfl
    · rw [Tree.nodesAt_of_is (Tree.holdsChildren_of_fieldSort body) (hw.held body),
        List.mem_singleton] at hc
      subst hc
      refine ⟨⟨(hw.held body).2, ?_⟩, ?_⟩
      · simp only [Site.below, hbody]
        exact beq_iff_eq.mp (hw.held body).kinds
      · simp only [Site.mode?, Site.below, hbody]
        rfl
  · intro hf φ
    have hf : frames next = ⟨p.node.label, "catch"⟩ :: frames v.scope := hf.1
    have hweights : notesWeight frames φ bound = p.reservedAt φ "param" := by
      have hitems : ∀ c ∈ p.node.nodesAt "param", c.Is isExpressionKind := by
        rw [Tree.nodesAt_of_is (Tree.holdsChildren_of_fieldSort param) (hw.held param)]
        simpa using hw.held param
      rw [reservedAt_binds rfl hparam hitems,
        Tree.nodesAt_of_is (Tree.holdsChildren_of_fieldSort param) (hw.held param),
        notesWeight_declareNotes, initializes_eq_false (by simp [hk]), hf]
      simp [homeFrame, innermost]
    simp [hevents, hreserved, noteWeight, hweights, p.reservedAt_eq_zero φ (.inr (.inr hbody))]
    omega

/-! ### Classes -/

/-- The notes of the name of a class. -/
def classNotes (t : Tree) (scope next : Nat) : List Note :=
  if (t.get "id").truthy then
    [if t.kind = "ClassDeclaration" then declareNote scope false "class" t (t.get "id")
      else declareNote next false "local" t (t.get "id")]
  else []

theorem plain_classNotes (t : Tree) {scope next : Nat} (hn : scope < next) :
    ∀ n ∈ classNotes t scope next, n.isOpening = false ∧ n.scope < next + 1 := by
  intro n hm
  rw [classNotes] at hm
  split at hm
  · cases List.mem_singleton.mp hm
    split
    · exact ⟨rfl, Nat.lt_succ_of_lt hn⟩
    · exact ⟨rfl, Nat.lt_succ_self _⟩
  · cases hm

section Class

variable (hk : p.node.kind = "ClassDeclaration" ∨ p.node.kind = "ClassExpression")

include hk

theorem schema_class : schema p.node.kind = some classFields := by
  rcases hk with hk | hk <;> rw [hk] <;> rfl

theorem namingClass_eq (hw : p.node.WellFormed) (scope next : Nat) :
    namingClass p.node p.node.kind scope next = .ok (classNotes p.node scope next) := by
  have id : Tree.fieldSort p.node.kind "id" = some (.optional (· == "Identifier")) := by
    rw [Tree.fieldSort, schema_class hk]
    rfl
  simp only [classNotes, namingClass]
  split
  · rename_i ht
    have hi : (p.node.get "id").Is (· == "Identifier") := by
      rcases hw.held id with hi | hi
      · rw [hi] at ht
        cases ht
      · exact hi
    rw [declaring_eq hi, declaring_eq hi]
    rcases hk with hk | hk <;> simp [hk]
  · rfl

/-- The name of a class is what its notes tell of. -/
theorem weights_classNotes (h : Agrees frames v p)
    (hf : frames next = ⟨p.node.label, "class"⟩ :: frames v.scope) (φ : Event → Nat) :
    notesWeight frames φ (classNotes p.node v.scope next) = p.weighAt φ "id" := by
  have id : Tree.fieldSort p.node.kind "id" = some (.optional (· == "Identifier")) := by
    rw [Tree.fieldSort, schema_class hk]
    rfl
  have hid : p.roleAt "id" = .names (if p.node.kind = "ClassDeclaration" then innermost p.frames
      else ⟨p.node.label, "class"⟩) := by
    rw [h.roleAt]
    rcases hk with hk | hk <;> simp [Site.roleByKind, hk]
  have hinit : initializes p.node = false :=
    initializes_eq_false (by rcases hk with hk | hk <;> simp [hk])
  rw [weighAt_name h.fit.1 id hid, classNotes]
  split
  · rcases hk with hk | hk <;>
      simp [hk, noteWeight_declareNote, homeFrame, innermost, hinit, hf, h.around]
  · rfl

/-- **The report of a class.** -/
theorem reports_class (h : Agrees frames v p) (hn : v.scope < next) :
    ∃ f, visitClass p.node p.node.kind v.scope next = .ok f ∧ Reports frames p next f := by
  have hw := h.fit.1
  have hs := schema_class hk
  have superClass : Tree.fieldSort p.node.kind "superClass" = some (.optional isExpressionKind) := by
    rw [Tree.fieldSort, hs]; rfl
  have body : Tree.fieldSort p.node.kind "body" = some (.node (· == "ClassBody")) := by
    rw [Tree.fieldSort, hs]; rfl
  have hopened : p.openedKinds = ["class"] := by
    rcases hk with hk | hk <;> simp [Site.openedKinds, hk]
  have hevents := events_opened h hopened
  have hreserved (φ : Event → Nat) : p.reserved φ = 0 := by
    rcases hk with hk | hk <;> exact Site.reserved_of_kind φ h.fit (by simp [hk])
  have hsuper : p.roleAt "superClass" = .reads := by
    rw [h.roleAt]
    rcases hk with hk | hk <;> simp [Site.roleByKind, hk]
  have hbody : p.roleAt "body" = .reads := by
    rw [h.roleAt]
    rcases hk with hk | hk <;> simp [Site.roleByKind, hk]
  have hplain := plain_classNotes p.node hn
  have hopenings := openings_eq_zero fun n hm => (hplain n hm).1
  refine ⟨_, ?_, reports_takes h (by rcases hk with hk | hk <;> simp [hk])
    (by rcases hk with hk | hk <;> simp [hk]) hs
    (.opens "class" p.node.label v.scope :: classNotes p.node v.scope next)
    [("superClass", v.scope, .normal), ("body", next, .normal)] ?_ ?_ ?_ ?_ ?_⟩
  · simp only [visitClass, namingClass_eq hk hw, hw.field_eq body, ok_bind, child_optional hw superClass,
      child_node hw body, List.flatMap_cons, List.flatMap_nil, List.append_nil]
    rfl
  · have hb : Bounded (next + 1) (classNotes p.node v.scope next) := bounded_of_no_openings hplain
    simp [Note.scope, hn, Note.isOpening, hb]
  · simp only [List.forall_mem_cons]
    exact ⟨by simp [Note.isOpening]; omega, by simp [Note.isOpening], by simp⟩
  · intro hf
    have hf : frames next = ⟨p.node.label, "class"⟩ :: frames v.scope := hf.1
    rcases hk with hk | hk <;>
      simp [Site.framesAt, Site.opened, hopened, Site.isInside, hk, hf, h.around]
  · simp [hsuper, hbody, Takes]
  · intro hf φ
    simp [classFields, hevents, hreserved, noteWeight, weights_classNotes hk h hf.1 φ,
      p.reservedAt_eq_zero φ (.inl hsuper), p.reservedAt_eq_zero φ (.inl hbody)]
    omega

end Class

/-! ### Functions -/

/-- Whether nodes of the kind are functions. -/
def isFunction (kind : String) : Prop :=
  kind = "FunctionDeclaration" ∨ kind = "FunctionExpression" ∨ kind = "ArrowFunctionExpression"

/-- The notes of the name of a function. -/
def functionNotes (t : Tree) (scope next : Nat) : List Note :=
  if t.kind = "FunctionDeclaration" ∧ (t.get "id").truthy = true then
    [declareNote scope false "function" t (t.get "id")]
  else if hasOwnName t t.kind then
    [.opens "named-function" t.label scope, declareNote next false "local" t (t.get "id")]
  else []

section Function

variable (hk : isFunction p.node.kind)

include hk

theorem sum_function (hw : p.node.WellFormed) : ∃ spec, schema p.node.kind = some spec ∧
    ∀ φ, (spec.map fun entry => p.weighAt φ entry.1).sum =
      (if p.node.kind = "ArrowFunctionExpression" then 0 else p.weighAt φ "id") +
        p.weighAt φ "params" + p.weighAt φ "body" := by
  rcases hk with hk | hk | hk
  all_goals
    refine ⟨_, by rw [hk]; rfl, fun φ => ?_⟩
    have generator : Tree.fieldSort p.node.kind "generator" = some .flag := by rw [hk]; rfl
    have async : Tree.fieldSort p.node.kind "async" = some .flag := by rw [hk]; rfl
    have expression : Tree.fieldSort p.node.kind "expression" = some .flag := by rw [hk]; rfl
    simp [functionFields, hk, p.weighAt_leaf φ hw generator, p.weighAt_leaf φ hw async,
      p.weighAt_leaf φ hw expression]
    try omega

theorem id_function (hw : p.node.WellFormed) (ht : (p.node.get "id").truthy = true)
    (hne : p.node.kind ≠ "ArrowFunctionExpression") : (p.node.get "id").Is (· == "Identifier") := by
  have id : Tree.fieldSort p.node.kind "id" = some (.optional (· == "Identifier")) := by
    rcases hk with hk | hk | hk
    · rw [hk]; rfl
    · rw [hk]; rfl
    · contradiction
  rcases hw.held id with hi | hi
  · rw [hi] at ht
    cases ht
  · exact hi

theorem namingFunction_eq (hw : p.node.WellFormed) (scope next : Nat) :
    namingFunction p.node p.node.kind scope next = .ok (functionNotes p.node scope next) := by
  have hid := id_function hk hw
  rcases hk with hk | hk | hk
  · by_cases ht : (p.node.get "id").truthy = true
    · simp only [namingFunction, functionNotes, hk, ht]
      rw [declaring_eq (hid ht (by simp [hk]))]
      rfl
    · simp [namingFunction, functionNotes, hasOwnName, hk, ht]
      rfl
  · by_cases ht : (p.node.get "id").truthy = true
    · have hi := hid ht (by simp [hk])
      simp only [namingFunction, functionNotes, hasOwnName, hk, ht]
      rw [declaring_eq hi, declaring_eq hi]
      rfl
    · simp [namingFunction, functionNotes, hasOwnName, hk, ht]
      rfl
  · simp [namingFunction, functionNotes, hasOwnName, hk]
    rfl

theorem openings_functionNotes (scope next : Nat) :
    openings (functionNotes p.node scope next) = if hasOwnName p.node p.node.kind then 1 else 0 := by
  by_cases ht : (p.node.get "id").truthy = true <;> rcases hk with hk | hk | hk <;>
    simp [functionNotes, hasOwnName, hk, ht, declareNote, Note.isOpening]

theorem bounded_functionNotes {scope next : Nat} (hn : scope < next) :
    Bounded next (functionNotes p.node scope next) := by
  by_cases ht : (p.node.get "id").truthy = true <;> rcases hk with hk | hk | hk <;>
    simp [functionNotes, hasOwnName, hk, ht, declareNote, Note.isOpening, Note.scope, hn]

/-- The scopes of a function are those that its notes open. -/
theorem framed_functionNotes (h : Agrees frames v p)
    (hf : Framed frames next (functionNotes p.node v.scope next))
    {outer inner : Nat} (ho : outer = if hasOwnName p.node p.node.kind then next else v.scope)
    (hi : frames inner = ⟨p.node.label, "function"⟩ :: frames outer) (key : String) :
    frames inner = p.framesAt key := by
  subst ho
  rw [hi]
  by_cases ht : (p.node.get "id").truthy = true <;> rcases hk with hk | hk | hk <;>
    simp_all [functionNotes, hasOwnName, declareNote, Site.framesAt, Site.isInside, Site.opened,
      Site.openedKinds, h.around]

/-- The name of a function is what its notes tell of. -/
theorem weights_functionNotes (h : Agrees frames v p)
    (hf : Framed frames next (functionNotes p.node v.scope next)) (φ : Event → Nat) :
    notesWeight frames φ (functionNotes p.node v.scope next) +
      φ (.opens ⟨p.node.label, "function"⟩) = (p.events.map φ).sum +
        if p.node.kind = "ArrowFunctionExpression" then 0 else p.weighAt φ "id" := by
  have hw := h.fit.1
  have hevents := h.events (by rcases hk with hk | hk | hk <;> simp [hk])
  have hinit : initializes p.node = false :=
    initializes_eq_false (by rcases hk with hk | hk | hk <;> simp [hk])
  have hid (hne : p.node.kind ≠ "ArrowFunctionExpression") :
      p.weighAt φ "id" = if (p.node.get "id").truthy then Site.declareWeight φ
        (if p.node.kind = "FunctionExpression" then ⟨p.node.label, "named-function"⟩
          else innermost p.frames) false (p.node.get "id") else 0 := by
    refine weighAt_name hw ?_ ?_ φ
    · rcases hk with hk | hk | hk
      · rw [hk]; rfl
      · rw [hk]; rfl
      · contradiction
    · rw [h.roleAt]
      rcases hk with hk | hk | hk
      · simp [Site.roleByKind, hk]
      · simp [Site.roleByKind, hk]
      · contradiction
  rw [hevents]
  by_cases ht : (p.node.get "id").truthy = true <;> rcases hk with hk | hk | hk <;>
    simp_all [functionNotes, hasOwnName, homeFrame, innermost, h.around, Site.opened,
      Site.openedKinds, declareNote, noteWeight, Site.declareWeight]
  all_goals omega

/-! #### Parameters and body -/

/-- The scope around that of a function, which is the one of its own name if it has such a name. -/
def outerScope (t : Tree) (scope next : Nat) : Nat := if hasOwnName t t.kind then next else scope

/-- The scope of the parameters and of the body of a function. -/
def innerScope (t : Tree) (next : Nat) : Nat := if hasOwnName t t.kind then next + 1 else next

/-- The notes of the parameters of a function. -/
def paramNotes (t : Tree) (scope : Nat) : List Note :=
  ((t.get "params").items.map fun c => c.boundNodes.map (declareNote scope false "param" t)).flatten

/-- The notes of the body of a function: a block has the scope of the parameters. -/
def bodyNotes (t : Tree) (scope : Nat) : List Note :=
  if (t.get "body").kind == "BlockStatement" then [.shares (t.get "body").label scope] else []

/-- How the body of a function is walked over. -/
def bodyMode (t : Tree) : Mode := if (t.get "body").kind == "BlockStatement" then .shared else .normal

omit hk in
theorem plain_paramNotes (t : Tree) (scope : Nat) :
    ∀ n ∈ paramNotes t scope, n.isOpening = false ∧ n.scope = scope := by
  intro n hm
  obtain ⟨notes, hm, hnotes⟩ := List.mem_flatten.mp hm
  obtain ⟨d, -, rfl⟩ := List.mem_map.mp hm
  exact isOpening_declareNotes n hnotes

omit hk in
theorem plain_bodyNotes (t : Tree) (scope : Nat) :
    ∀ n ∈ bodyNotes t scope, n.isOpening = false ∧ n.scope = scope := by
  intro n hm
  rw [bodyNotes] at hm
  split at hm
  · cases List.mem_singleton.mp hm
    exact ⟨rfl, rfl⟩
  · cases hm

theorem fieldSort_params : Tree.fieldSort p.node.kind "params" = some (.nodes isExpressionKind) := by
  rcases hk with hk | hk | hk <;> rw [hk] <;> rfl

theorem exists_fieldSort_body : ∃ kinds, Tree.fieldSort p.node.kind "body" = some (.node kinds) := by
  rcases hk with hk | hk | hk <;> exact ⟨_, by rw [hk]; rfl⟩

theorem is_body (hw : p.node.WellFormed) : ∃ kinds, (p.node.get "body").Is kinds := by
  obtain ⟨kinds, hs⟩ := exists_fieldSort_body hk
  exact ⟨kinds, hw.held hs⟩

theorem nodesAt_body (hw : p.node.WellFormed) : p.node.nodesAt "body" = [p.node.get "body"] := by
  obtain ⟨kinds, hs⟩ := exists_fieldSort_body hk
  exact Tree.nodesAt_of_is (Tree.holdsChildren_of_fieldSort hs) (hw.held hs)

theorem roleAt_params (h : Agrees frames v p) : p.roleAt "params" = .binds ⟨p.node.label, "function"⟩ false := by
  rw [h.roleAt]
  rcases hk with hk | hk | hk <;> simp [Site.roleByKind, hk]

theorem roleAt_body (h : Agrees frames v p) :
    p.roleAt "body" = if (p.node.get "body").kind = "BlockStatement" then .body else .reads := by
  obtain ⟨kinds, hbody⟩ := is_body hk h.fit.1
  rw [h.roleAt]
  rcases hk with hk | hk | hk <;> simp [Site.roleByKind, hk, hbody.2.isKind_iff]

theorem innerScope_eq (scope next : Nat) :
    innerScope p.node next = next + openings (functionNotes p.node scope next) := by
  rw [openings_functionNotes hk, innerScope]
  split <;> rfl

/-- **The visit of a function** succeeds: its name, its parameters and its body have the notes above. -/
theorem visitFunction_eq (hw : p.node.WellFormed) (scope next : Nat) :
    visitFunction p.node p.node.kind scope next = .ok
      ⟨functionNotes p.node scope next ++ .opens "function" p.node.label (outerScope p.node scope next) ::
          paramNotes p.node (innerScope p.node next) ++ bodyNotes p.node (innerScope p.node next),
        [("params", innerScope p.node next, .declares), ("body", innerScope p.node next, bodyMode p.node)].flatMap
          fun x => visitsAt p.node x.1 x.2.1 x.2.2⟩ := by
  obtain ⟨kinds, body⟩ := exists_fieldSort_body hk
  have params := fieldSort_params hk
  have hbound : (p.node.get "params").items.mapM
      (fun c => declaringPattern (innerScope p.node next) false c "param" p.node) =
        .ok ((p.node.get "params").items.map fun c =>
          c.boundNodes.map (declareNote (innerScope p.node next) false "param" p.node)) :=
    Tree.mapM_eq_ok fun c hc => declaringPattern_eq (hw.held_items params c hc).2
  have hvisit : visitsAt p.node "body" (innerScope p.node next) (bodyMode p.node) =
      [⟨p.node.get "body", (p.node.label, "body"), innerScope p.node next, bodyMode p.node⟩] := by
    rw [visitsAt, nodesAt_body hk hw]
    rfl
  rw [innerScope] at hbound
  simp only [visitFunction, namingFunction_eq hk hw, hw.listField_eq params, ok_bind,
    List.flatMap_cons, List.flatMap_nil, List.append_nil, hvisit]
  rw [← items_nodes hw params, hbound]
  simp only [ok_bind, hw.field_eq body, (hw.held body).2.kindOf_eq]
  rfl

/-- What a function notes opens its scopes one inside the other. -/
theorem bounded_function {scope next : Nat} (hn : scope < next) : Bounded next
    (functionNotes p.node scope next ++ .opens "function" p.node.label (outerScope p.node scope next) ::
      paramNotes p.node (innerScope p.node next) ++ bodyNotes p.node (innerScope p.node next)) := by
  have hplain := plain_paramNotes p.node (innerScope p.node next)
  have hbody := plain_bodyNotes p.node (innerScope p.node next)
  have hparams : Bounded (innerScope p.node next + 1) (paramNotes p.node (innerScope p.node next)) :=
    bounded_of_no_openings fun n hm => ⟨(hplain n hm).1, by rw [(hplain n hm).2]; omega⟩
  have hshares : Bounded (innerScope p.node next + 1) (bodyNotes p.node (innerScope p.node next)) :=
    bounded_of_no_openings fun n hm => ⟨(hbody n hm).1, by rw [(hbody n hm).2]; omega⟩
  have hopenings := openings_eq_zero fun n hm => (hplain n hm).1
  have houter : outerScope p.node scope next < innerScope p.node next := by
    rw [outerScope, innerScope]
    split <;> omega
  rw [List.append_assoc, bounded_append]
  refine ⟨bounded_functionNotes hk hn, ?_⟩
  rw [← innerScope_eq hk]
  simp [Note.scope, Note.isOpening, houter, bounded_append, hparams, hopenings, hshares]

theorem kind_ne_of_isFunction : p.node.kind ≠ "VariableDeclaration" ∧ p.node.kind ≠ "ExportNamedDeclaration" := by
  rcases hk with hk | hk | hk <;> simp [hk]

theorem fits_params (h : Agrees frames v p) {c : Tree} (hc : c ∈ p.node.nodesAt "params") :
    (p.below "params" c).Fit ∧ (p.below "params" c).mode? = some (Mode.declares.seen c) := by
  obtain ⟨slot, hkey, hslot⟩ := mem_slots_of_mem_nodesAt hc
  rw [← hkey]
  refine fit_of_takes h.fit.1 (kind_ne_of_isFunction hk).1 hslot ?_
  rw [hkey, roleAt_params hk h]
  rfl

theorem fits_body (h : Agrees frames v p) {c : Tree} (hc : c ∈ p.node.nodesAt "body") :
    (p.below "body" c).Fit ∧ (p.below "body" c).mode? = some ((bodyMode p.node).seen c) := by
  have hw := h.fit.1
  have hrole := roleAt_body hk h
  obtain ⟨kinds, hbody⟩ := is_body hk hw
  by_cases hb : (p.node.get "body").kind = "BlockStatement"
  · rw [nodesAt_body hk hw, List.mem_singleton] at hc
    subst hc
    rw [if_pos hb] at hrole
    refine ⟨⟨hbody.2, ?_⟩, ?_⟩
    · simp only [Site.below, hrole]
      exact hb
    · simp only [Site.mode?, Site.below, hrole, hb, bodyMode]
      rfl
  · obtain ⟨slot, hkey, hslot⟩ := mem_slots_of_mem_nodesAt hc
    rw [← hkey]
    refine fit_of_takes hw (kind_ne_of_isFunction hk).1 hslot ?_
    rw [hkey, hrole, if_neg hb, bodyMode, if_neg (by simpa using hb)]
    rfl

/-- The names of the parameters are what their notes tell of. -/
theorem weights_paramNotes (h : Agrees frames v p) {inner : Nat} {rest : List Frame}
    (hf : frames inner = ⟨p.node.label, "function"⟩ :: rest) (φ : Event → Nat) :
    notesWeight frames φ (paramNotes p.node inner) = p.reservedAt φ "params" := by
  have hw := h.fit.1
  have params := fieldSort_params hk
  have hinit : initializes p.node = false :=
    initializes_eq_false (by rcases hk with hk | hk | hk <;> simp [hk])
  have hhome : homeFrame false (frames inner) = ⟨p.node.label, "function"⟩ := by
    rw [hf]
    rfl
  rw [reservedAt_binds rfl (roleAt_params hk h) (by rw [hw.nodesAt_nodes params]; exact hw.held_items params),
    hw.nodesAt_nodes params, notesWeight, paramNotes, ← List.flatMap_def, sum_flatMap]
  refine congrArg List.sum (List.map_congr_left fun c _ => ?_)
  have hnotes : notesWeight frames φ _ = _ :=
    notesWeight_declareNotes φ inner false "param" p.node c.boundNodes
  rw [hinit, hhome] at hnotes
  exact hnotes

theorem weights_body (h : Agrees frames v p) (φ : Event → Nat) (inner : Nat) :
    notesWeight frames φ (bodyNotes p.node inner) = 0 ∧ p.reservedAt φ "body" = 0 := by
  constructor
  · rw [bodyNotes]
    split <;> rfl
  · refine p.reservedAt_eq_zero φ ?_
    rw [roleAt_body hk h]
    split
    · exact .inr (.inr rfl)
    · exact .inl rfl

/-- **The report of a function.** -/
theorem reports_function (h : Agrees frames v p) (hn : v.scope < next) :
    ∃ f, visitFunction p.node p.node.kind v.scope next = .ok f ∧ Reports frames p next f := by
  obtain ⟨spec, hs, hsum⟩ := sum_function hk h.fit.1
  have hinner := innerScope_eq hk v.scope next
  refine ⟨_, visitFunction_eq hk h.fit.1 v.scope next,
    reports_parts h (kind_ne_of_isFunction hk).2 hs _ _ (bounded_function hk hn) ?_ ?_ ?_⟩
  · simp only [List.forall_mem_cons, openings_append, openings_cons, Note.isOpening, hinner]
    exact ⟨by simp; omega, by simp; omega, by simp⟩
  · intro hf
    rw [List.append_assoc, framed_append, ← hinner] at hf
    obtain ⟨hnamed, hf, -⟩ := hf
    have hframes := framed_functionNotes hk h hnamed rfl hf
    simp only [List.forall_mem_cons, List.not_mem_nil, false_implies, implies_true, and_true]
    exact ⟨⟨hframes _, fun c => fits_params hk h⟩, hframes _, fun c => fits_body hk h⟩
  · intro hf φ
    rw [List.append_assoc, framed_append, ← hinner] at hf
    obtain ⟨hnamed, hf, -⟩ := hf
    have hparams := weights_paramNotes hk h hf φ
    obtain ⟨hbody, hreserved⟩ := weights_body hk h φ (innerScope p.node next)
    have hself : p.reserved φ = 0 := by
      rcases hk with hk | hk | hk <;> exact Site.reserved_of_kind φ h.fit (by simp [hk])
    have hname := weights_functionNotes hk h hnamed φ
    simp only [notesWeight_append, notesWeight_cons, hparams, hbody, noteWeight, hself, hsum,
      hreserved, List.map_cons, List.map_nil, List.sum_cons, List.sum_nil]
    omega

end Function

end Reports

end ScopeTree

end Deminify
