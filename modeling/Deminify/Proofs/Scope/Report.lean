import Deminify.Proofs.Scope.Statement

/-!
# What is found at any node

Imports, exports and the tags of elements are looked into more than one level deep; they come last.
With them every kind of node is settled: **the visit of a node of a well-formed program succeeds and
reports what happens there** (`Deminify.ScopeTree.reports_visit`).
-/

namespace Deminify

namespace ScopeTree

section Reports

variable {frames : Nat → List Frame} {v : Visit} {p : Site} {next : Nat}

/-! ### Imports -/

/-- The weight of a name that a declaration is about. -/
theorem weigh_names (φ : Event → Nat) {name : Tree} (h : name.Is (· == "Identifier")) (home : Frame)
    (around : List Frame) :
    Site.weigh φ ⟨name, .names home, around⟩ = Site.declareWeight φ home false name := by
  have hk := beq_iff_eq.mp h.kinds
  rw [Site.weigh_identifier φ h.2 (.inl hk)]
  simp only [Site.events, hk]
  rfl

/-- The weight of what an import brings in is that of its local name. -/
theorem weigh_imported (φ : Event → Nat) {s : Tree} (h : s.Is isImportNameKind) (around : List Frame) :
    Site.weigh φ ⟨s, .imported, around⟩ =
      Site.declareWeight φ (outermost around) false (s.get "local") := by
  have hk : s.kind = "ImportSpecifier" ∨ s.kind = "ImportDefaultSpecifier" ∨
      s.kind = "ImportNamespaceSpecifier" := by simpa [isImportNameKind] using h.kinds
  have hlocal : Tree.fieldSort s.kind "local" = some .name := by
    rcases hk with hk | hk | hk <;> rw [hk] <;> rfl
  let q : Site := ⟨s, .imported, around⟩
  have hopened : q.openedKinds = [] := by
    rcases hk with hk | hk | hk <;> simp [q, Site.openedKinds, hk]
  have hevents : q.events = [] := events_of_openedKinds hopened
    (by rcases hk with hk | hk | hk <;> simp [q, hk]) (by rcases hk with hk | hk | hk <;> simp [q, hk])
  have hweight : q.weighAt φ "local" =
      Site.declareWeight φ (outermost around) false (s.get "local") := by
    rw [Site.weighAt, h.2.sumAt_node hlocal]
    exact weigh_names φ (h.2.held hlocal) _ _
  have hother : q.weighAt φ "imported" = 0 := q.weighAt_inert φ rfl
  obtain ⟨spec, hs, hsum⟩ : ∃ spec, schema s.kind = some spec ∧
      (spec.map fun entry => q.weighAt φ entry.1).sum = q.weighAt φ "local" := by
    rcases hk with hk | hk | hk <;> exact ⟨_, by rw [hk]; rfl, by simp [hother]⟩
  rw [← hweight, ← hsum]
  have := q.weigh_eq_sum φ h.2 hs
  simpa [hevents] using this

theorem reports_import (h : Agrees frames v p) (hn : v.scope < next)
    (hk : p.node.kind = "ImportDeclaration") :
    ∃ f, visitImport p.node = .ok f ∧ Reports frames p next f := by
  have hw := h.fit.1
  have hs : schema p.node.kind = some [("specifiers", .nodes isImportNameKind),
    ("source", .node (· == "Literal"))] := by rw [hk]; rfl
  have specifiers : Tree.fieldSort p.node.kind "specifiers" = some (.nodes isImportNameKind) := by
    rw [hk]; rfl
  obtain ⟨hframes, hevents, hreserved⟩ := quiet h (by simp [Site.openedKinds, hk]) (by simp [hk])
  have hspecifiers : p.roleAt "specifiers" = .imported := by
    simp [h.roleAt, Site.roleByKind, hk]
  have hsource : p.roleAt "source" = .inert := by
    simp [h.roleAt, Site.roleByKind, hk]
  have hitems := hw.held_items specifiers
  have hlocal {s : Tree} (hm : s ∈ (p.node.get "specifiers").items) :
      Tree.fieldSort s.kind "local" = some .name := by
    have hsk : s.kind = "ImportSpecifier" ∨ s.kind = "ImportDefaultSpecifier" ∨
        s.kind = "ImportNamespaceSpecifier" := by simpa [isImportNameKind] using (hitems s hm).kinds
    rcases hsk with hsk | hsk | hsk <;> rw [hsk] <;> rfl
  -- the names of an import are declared in the outermost scope, and nothing below it is visited
  let noteOf (s : Tree) : Note := declareNote 0 false "module" s (s.get "local")
  have hplain : ∀ n ∈ (p.node.get "specifiers").items.map noteOf,
      n.isOpening = false ∧ n.scope < next := by
    intro n hm
    obtain ⟨s, -, rfl⟩ := List.mem_map.mp hm
    exact ⟨rfl, Nat.lt_of_le_of_lt (Nat.zero_le _) hn⟩
  have hweights (φ : Event → Nat) : notesWeight frames φ ((p.node.get "specifiers").items.map noteOf) =
      p.weighAt φ "specifiers" := by
    rw [Site.weighAt, hw.sumAt_nodes specifiers, notesWeight, List.map_map]
    refine congrArg List.sum (List.map_congr_left fun s hm => ?_)
    have hinit : initializes s = false := by
      refine initializes_eq_false fun he => ?_
      have := (hitems s hm).kinds
      simp [he, isImportNameKind] at this
    simp only [Site.below, hspecifiers, hframes]
    rw [weigh_imported φ (hitems s hm), h.root, Function.comp_apply, noteWeight_declareNote, hinit]
    rfl
  refine ⟨_, ?_, reports_parts h (by simp [hk]) hs ((p.node.get "specifiers").items.map noteOf) []
    (bounded_of_no_openings hplain) (by simp) (by simp) (fun _ φ => ?_)⟩
  · have hbound : (p.node.get "specifiers").items.mapM (fun s => do
        declaring 0 false (← s.field "local") "module" s) =
          .ok ((p.node.get "specifiers").items.map noteOf) := by
      refine Tree.mapM_eq_ok fun s hm => ?_
      rw [(hitems s hm).2.field_eq (hlocal hm), ok_bind,
        declaring_eq ((hitems s hm).2.held (hlocal hm))]
    rw [visitImport, hbound]
    rfl
  · simp [hweights, hevents, hreserved, p.weighAt_inert φ hsource]

/-! ### Exports -/

/-- Whether a visit goes on in the scope of another one, to a node that is read there. -/
structure Follows (v w : Visit) : Prop where
  scope : w.scope = v.scope
  mode : w.mode = .normal
  wellFormed : w.node.WellFormed
  kind : w.node.kind ≠ "VariableDeclarator"

/-- The visit of what a specifier of an export gives out. -/
def exportedVisit (scope : Nat) (s : Tree) : Visit := ⟨s.get "local", (s.label, "local"), scope, .normal⟩

theorem fieldSort_local_of_isExportName {s : Tree} (h : s.Is isExportNameKind) :
    Tree.fieldSort s.kind "local" = some .name := by
  have hk : s.kind = "ExportSpecifier" ∨ s.kind = "ExportDefaultSpecifier" := by
    simpa [isExportNameKind] using h.kinds
  rcases hk with hk | hk <;> rw [hk] <;> rfl

theorem follows_exportedVisit (v : Visit) {s : Tree} (h : s.Is isExportNameKind) :
    Follows v (exportedVisit v.scope s) := by
  have hi := h.2.held (fieldSort_local_of_isExportName h)
  refine ⟨rfl, rfl, hi.2, ?_⟩
  rw [exportedVisit, beq_iff_eq.mp hi.kinds]
  decide

/-- The weight of what an export gives out is that of its local name. -/
theorem weigh_exported (φ : Event → Nat) {s : Tree} (h : s.Is isExportNameKind) (around : List Frame) :
    Site.weigh φ ⟨s, .exported, around⟩ = Site.weigh φ ⟨s.get "local", .reads, around⟩ := by
  have hk : s.kind = "ExportSpecifier" ∨ s.kind = "ExportDefaultSpecifier" := by
    simpa [isExportNameKind] using h.kinds
  have hlocal := fieldSort_local_of_isExportName h
  let q : Site := ⟨s, .exported, around⟩
  have hopened : q.openedKinds = [] := by
    rcases hk with hk | hk <;> simp [q, Site.openedKinds, hk]
  have hevents : q.events = [] := events_of_openedKinds hopened
    (by rcases hk with hk | hk <;> simp [q, hk]) (by rcases hk with hk | hk <;> simp [q, hk])
  have hweight : q.weighAt φ "local" = Site.weigh φ ⟨s.get "local", .reads, around⟩ := by
    rw [Site.weighAt, h.2.sumAt_node hlocal, Site.below, framesAt_of_openedKinds hopened]
    rfl
  have hother : q.weighAt φ "exported" = 0 := q.weighAt_inert φ rfl
  obtain ⟨spec, hs, hsum⟩ : ∃ spec, schema s.kind = some spec ∧
      (spec.map fun entry => q.weighAt φ entry.1).sum = q.weighAt φ "local" := by
    rcases hk with hk | hk <;> exact ⟨_, by rw [hk]; rfl, by simp [hother]⟩
  rw [← hweight, ← hsum]
  have := q.weigh_eq_sum φ h.2 hs
  simpa [hevents] using this

/-- What an export gives out is reached from its specifier. -/
theorem reaches_exported {s : Tree} (h : s.Is isExportNameKind) {q : Site} {around : List Frame}
    (hq : q.node = s ∧ q.role = .exported) (hframes : q.frames = around) :
    Reaches q ⟨s.get "local", .reads, around⟩ := by
  obtain ⟨rfl, hrole⟩ := hq
  have hk : q.node.kind = "ExportSpecifier" ∨ q.node.kind = "ExportDefaultSpecifier" := by
    simpa [isExportNameKind] using h.kinds
  have hlocal := fieldSort_local_of_isExportName h
  have hopened : q.openedKinds = [] := by
    rcases hk with hk | hk <;> simp [Site.openedKinds, hk]
  have hin : q.node.get "local" ∈ q.node.nodesAt "local" := by
    rw [Tree.nodesAt_of_is (Tree.holdsChildren_of_fieldSort hlocal) (h.2.held hlocal)]
    exact List.mem_singleton_self _
  have hsite : q.below "local" (q.node.get "local") = ⟨q.node.get "local", .reads, around⟩ := by
    rw [Site.below, framesAt_of_openedKinds hopened, hframes, Site.roleAt, hrole]
    rfl
  exact hsite ▸ reaches_of_mem_nodesAt hin

section Export

variable (h : Agrees frames v p) (hk : p.node.kind = "ExportNamedDeclaration")

include hk

/-- Below an export all is read as if it stood where the export stands. -/
theorem placeBelow_export (w : Visit) : placeBelow p w = ⟨w.node, .reads, p.frames⟩ := if_pos hk

theorem fieldSort_declaration : Tree.fieldSort p.node.kind "declaration" = some (.optional isStatementKind) := by
  rw [hk]
  rfl

theorem fieldSort_specifiers : Tree.fieldSort p.node.kind "specifiers" = some (.nodes isExportNameKind) := by
  rw [hk]
  rfl

include h

theorem framesAt_export (key : String) : p.framesAt key = p.frames :=
  (quiet h (by simp [Site.openedKinds, hk]) (by simp [hk])).1 key

/-- What an export weighs: its declaration and the names that it lists. -/
theorem weigh_export (φ : Event → Nat) :
    p.weigh φ = p.weighAt φ "declaration" + p.weighAt φ "specifiers" := by
  have hs : schema p.node.kind = some [("declaration", .optional isStatementKind),
    ("specifiers", .nodes isExportNameKind), ("source", .optional (· == "Literal"))] := by rw [hk]; rfl
  obtain ⟨-, hevents, -⟩ := quiet h (by simp [Site.openedKinds, hk]) (by simp [hk])
  have hsource : p.roleAt "source" = .inert := by simp [h.roleAt, Site.roleByKind, hk]
  rw [p.weigh_eq_sum φ h.fit.1 hs, hevents]
  simp [p.weighAt_inert φ hsource]

/-- **The report of an export** goes by the visits that follow it, if these weigh as much as it does. -/
theorem reports_follows (hn : v.scope < next) {below : List Visit} (hfollows : ∀ w ∈ below, Follows v w)
    (hinside : ∀ w ∈ below, w.node ∈ p.node.children.flatMap Tree.subtree)
    (hreached : ∀ w ∈ below, Reaches p (placeBelow p w))
    (hsum : ∀ φ, (below.map fun w => (placeBelow p w).weigh φ).sum = p.weigh φ) :
    Reports frames p next { below := below } where
  bounded := trivial
  scopes w hw := by rw [(hfollows w hw).scope]; exact hn
  inside := hinside
  reached := hreached
  agrees _ w hw := by
    obtain ⟨hscope, hmode, hwf, hne⟩ := hfollows w hw
    rw [placeBelow_export hk]
    exact ⟨rfl, ⟨hwf, hne⟩, by rw [hmode]; rfl, by rw [hscope]; exact h.around, h.nonempty, h.root⟩
  weights _ φ := by
    have hzero : (below.map fun w => (placeBelow p w).reserved φ).sum = 0 := by
      rw [List.sum_eq_zero_iff_forall_eq_nat]
      intro x hx
      obtain ⟨w, -, rfl⟩ := List.mem_map.mp hx
      rw [placeBelow_export hk]
      rfl
    obtain ⟨-, -, hreserved⟩ := quiet h (by simp [Site.openedKinds, hk]) (by simp [hk])
    rw [hzero, hsum, hreserved]
    simp

/-! #### The declaration -/

theorem roleAt_declaration : p.roleAt "declaration" = .reads := by
  simp [h.roleAt, Site.roleByKind, hk]

theorem follows_declaration {w : Visit} (hm : w ∈ visitsAt p.node "declaration" v.scope .normal) : Follows v w := by
  obtain ⟨c, hc, rfl⟩ := List.mem_map.mp hm
  obtain ⟨slot, -, hslot⟩ := mem_slots_of_mem_nodesAt hc
  obtain ⟨hwf, hne⟩ := kind_ne_of_slot h.fit.1 (by simp [hk]) hslot
  exact ⟨rfl, rfl, hwf, hne⟩

theorem reaches_declaration {w : Visit} (hm : w ∈ visitsAt p.node "declaration" v.scope .normal) :
    Reaches p (placeBelow p w) := by
  obtain ⟨c, hc, rfl⟩ := List.mem_map.mp hm
  have hbelow := @reaches_of_mem_nodesAt _ p c hc
  rw [Site.below, roleAt_declaration h hk, framesAt_export h hk] at hbelow
  rwa [placeBelow_export hk]

theorem sum_declaration (φ : Event → Nat) : ((visitsAt p.node "declaration" v.scope .normal).map fun w =>
    (placeBelow p w).weigh φ).sum = p.weighAt φ "declaration" := by
  rw [sum_visitsAt, Site.weighAt]
  simp only [placeBelow_export hk, Site.below, roleAt_declaration h hk, framesAt_export h hk, Tree.sumAt]

/-! #### The names -/

theorem roleAt_specifiers :
    p.roleAt "specifiers" = if (p.node.get "source").isNull then .exported else .inert := by
  simp [h.roleAt, Site.roleByKind, hk]

omit h in
theorem isExportName_of_mem (hw : p.node.WellFormed) {s : Tree} (hm : s ∈ (p.node.get "specifiers").items) :
    s.Is isExportNameKind := hw.held_items (fieldSort_specifiers hk) s hm

omit h in
theorem inside_exportedVisit (hw : p.node.WellFormed) {s : Tree} (hm : s ∈ (p.node.get "specifiers").items)
    (scope : Nat) : (exportedVisit scope s).node ∈ p.node.children.flatMap Tree.subtree := by
  have hs := isExportName_of_mem hk hw hm
  have hlocal := fieldSort_local_of_isExportName hs
  have hchild : s ∈ p.node.nodesAt "specifiers" := (hw.nodesAt_nodes (fieldSort_specifiers hk)) ▸ hm
  have hlow : s.get "local" ∈ s.nodesAt "local" := by
    rw [Tree.nodesAt_of_is (Tree.holdsChildren_of_fieldSort hlocal) (hs.2.held hlocal)]
    exact List.mem_singleton_self _
  obtain ⟨slot, -, hslot⟩ := mem_slots_of_mem_nodesAt hchild
  obtain ⟨slot', -, hslot'⟩ := mem_slots_of_mem_nodesAt hlow
  exact List.mem_flatMap.mpr ⟨s, Tree.mem_children_of_mem_slots hslot,
    Tree.subtree_subset_of_mem_children (Tree.mem_children_of_mem_slots hslot') (Tree.mem_subtree_self _)⟩

/-- **The report of an export of names**, which goes on to what it lists. -/
theorem reports_export_names (hn : v.scope < next) (hsource : (p.node.get "source").isNull = true) :
    ∃ f, visitExport p.node v.scope = .ok f ∧ Reports frames p next f := by
  have hw := h.fit.1
  have hspecifiers := roleAt_specifiers h hk
  rw [if_pos hsource] at hspecifiers
  have hnames : ((p.node.get "specifiers").items.mapM fun s => do
      return ⟨← s.field "local", (s.label, "local"), v.scope, .normal⟩ : Except Failure (List Visit)) =
        .ok ((p.node.get "specifiers").items.map (exportedVisit v.scope)) := by
    refine Tree.mapM_eq_ok fun s hm => ?_
    have hs := isExportName_of_mem hk hw hm
    rw [hs.2.field_eq (fieldSort_local_of_isExportName hs)]
    rfl
  have hweights (φ : Event → Nat) : (((p.node.get "specifiers").items.map (exportedVisit v.scope)).map fun w =>
      (placeBelow p w).weigh φ).sum = p.weighAt φ "specifiers" := by
    rw [Site.weighAt, hw.sumAt_nodes (fieldSort_specifiers hk), List.map_map]
    refine congrArg List.sum (List.map_congr_left fun s hm => ?_)
    simp only [Function.comp_apply, placeBelow_export hk, Site.below, hspecifiers, framesAt_export h hk]
    exact (weigh_exported φ (isExportName_of_mem hk hw hm) p.frames).symm
  refine ⟨{ below := visitsAt p.node "declaration" v.scope .normal ++
    (p.node.get "specifiers").items.map (exportedVisit v.scope) }, ?_, reports_follows h hk hn ?_ ?_ ?_ ?_⟩
  · simp only [visitExport, hsource, if_true, child_optional hw (fieldSort_declaration hk)]
    rw [hnames]
    rfl
  · intro w hm
    rcases List.mem_append.mp hm with hm | hm
    · exact follows_declaration h hk hm
    · obtain ⟨s, hsm, rfl⟩ := List.mem_map.mp hm
      exact follows_exportedVisit v (isExportName_of_mem hk hw hsm)
  · intro w hm
    rcases List.mem_append.mp hm with hm | hm
    · exact inside_of_mem_visitsAt hm
    · obtain ⟨s, hsm, rfl⟩ := List.mem_map.mp hm
      exact inside_exportedVisit hk hw hsm v.scope
  · intro w hm
    rcases List.mem_append.mp hm with hm | hm
    · exact reaches_declaration h hk hm
    · -- the specifier is on the way
      obtain ⟨s, hsm, rfl⟩ := List.mem_map.mp hm
      obtain ⟨slot, hkey, hs⟩ := mem_slots_of_mem_nodesAt (hw.nodesAt_nodes (fieldSort_specifiers hk) ▸ hsm)
      refine .step hs ?_
      rw [hkey, placeBelow_export hk]
      exact reaches_exported (isExportName_of_mem hk hw hsm) ⟨rfl, hspecifiers⟩ (framesAt_export h hk _)
  · intro φ
    rw [List.map_append, List.sum_append, sum_declaration h hk, hweights, weigh_export h hk]

/-- **The report of an export from another module**, whose names are none of this program. -/
theorem reports_export_from (hn : v.scope < next) (hsource : (p.node.get "source").isNull = false) :
    ∃ f, visitExport p.node v.scope = .ok f ∧ Reports frames p next f := by
  have hspecifiers := roleAt_specifiers h hk
  rw [if_neg (by simp [hsource])] at hspecifiers
  refine ⟨{ below := visitsAt p.node "declaration" v.scope .normal }, ?_, reports_follows h hk hn
    (fun w => follows_declaration h hk) (fun w => inside_of_mem_visitsAt) (fun w => reaches_declaration h hk)
    fun φ => ?_⟩
  · simp only [visitExport, hsource, child_optional h.fit.1 (fieldSort_declaration hk)]
    rfl
  · rw [sum_declaration h hk, weigh_export h hk, p.weighAt_inert φ hspecifiers, Nat.add_zero]

theorem reports_export (hn : v.scope < next) :
    ∃ f, visitExport p.node v.scope = .ok f ∧ Reports frames p next f := by
  cases hsource : (p.node.get "source").isNull with
  | true => exact reports_export_names h hk hn hsource
  | false => exact reports_export_from h hk hn hsource

end Export

/-! ### Tags -/

/-- The weight of an access in the name of an element is that of what it is taken from. -/
theorem weigh_access (φ : Event → Nat) {t : Tree} (h : t.Is (· == "JSXMemberExpression"))
    {role : NameRole} (hr : role = .tag ∨ role = .tagRoot) (around : List Frame) :
    Site.weigh φ ⟨t, role, around⟩ = Site.weigh φ ⟨t.get "object", .tagRoot, around⟩ := by
  have hk := beq_iff_eq.mp h.kinds
  let q : Site := ⟨t, role, around⟩
  have hs : schema t.kind = some [("object", .node isTagObjectKind),
    ("property", .node (· == "JSXIdentifier"))] := by rw [hk]; rfl
  have object : Tree.fieldSort t.kind "object" = some (.node isTagObjectKind) := by rw [hk]; rfl
  have hopened : q.openedKinds = [] := by simp [q, Site.openedKinds, hk]
  have hevents : q.events = [] := events_of_openedKinds hopened (by simp [q, hk]) (by simp [q, hk])
  have hobject : q.roleAt "object" = .tagRoot := by
    rcases hr with hr | hr <;> simp [q, Site.roleAt, hr, hk]
  have hproperty : q.roleAt "property" = .inert := by
    rcases hr with hr | hr <;> simp [q, Site.roleAt, hr]
  have hweight : q.weighAt φ "object" = Site.weigh φ ⟨t.get "object", .tagRoot, around⟩ := by
    rw [Site.weighAt, h.2.sumAt_node object, Site.below, framesAt_of_openedKinds hopened, hobject]
  have := q.weigh_eq_sum φ h.2 hs
  simpa [hevents, hweight, q.weighAt_inert φ hproperty] using this

/-- The innermost access is found, and what it is taken from is what the whole name is taken from. -/
theorem innermostAccess_eq {t : Tree} (h : t.Is (· == "JSXMemberExpression")) {fuel : Nat}
    (hf : t.height ≤ fuel) : ∃ access, innermostAccess fuel t = .ok access ∧
      access.Is (· == "JSXMemberExpression") ∧ (access.get "object").Is (· == "JSXIdentifier") ∧
      ∀ φ around role, role = .tag ∨ role = .tagRoot → Site.weigh φ ⟨t, role, around⟩ =
        Site.weigh φ ⟨access.get "object", .tagRoot, around⟩ := by
  induction fuel generalizing t with
  | zero => exact absurd (Tree.height_pos t) (by omega)
  | succ fuel ih =>
    have hk := beq_iff_eq.mp h.kinds
    have object : Tree.fieldSort t.kind "object" = some (.node isTagObjectKind) := by rw [hk]; rfl
    have hi := h.2.held object
    rw [innermostAccess, h.2.field_eq object, ok_bind, hi.2.kindOf_eq, ok_bind]
    by_cases hm : (t.get "object").kind = "JSXMemberExpression"
    · have hlt : (t.get "object").height < t.height := by
        rcases Tree.height_get_lt t "object" with hg | hg
        · rw [hg] at hm
          simp [Tree.kind, Tree.get?, Tree.fields] at hm
        · exact hg
      have hobj : (t.get "object").Is (· == "JSXMemberExpression") :=
        Tree.is_iff.mpr ⟨hi.2, by simp [hm]⟩
      obtain ⟨access, ha, hia, hio, hwa⟩ := ih hobj (by omega)
      rw [if_pos (by simp [hm])]
      refine ⟨access, ha, hia, hio, fun φ around role hr => ?_⟩
      rw [weigh_access φ h hr, hwa φ around .tagRoot (.inr rfl)]
    · have hid : (t.get "object").Is (· == "JSXIdentifier") := by
        refine Tree.is_iff.mpr ⟨hi.2, ?_⟩
        rcases Bool.or_eq_true_iff.mp hi.kinds with hj | hj
        · exact hj
        · exact absurd (beq_iff_eq.mp hj) hm
      rw [if_neg (by simpa using hm)]
      exact ⟨t, rfl, h, hid, fun φ around role hr => weigh_access φ h hr around⟩

/-- The use in the name of an element is what happens there. -/
theorem usingTagName_eq (frames : Nat → List Frame) (t : Tree) {name : Tree}
    (h : name.Is isTagNameKind) (scope : Nat) :
    ∃ notes, usingTagName t name scope = .ok notes ∧
      (∀ n ∈ notes, n.isOpening = false ∧ n.scope = scope) ∧
      ∀ φ, notesWeight frames φ notes = Site.weigh φ ⟨name, .tag, frames scope⟩ := by
  have hk : name.kind = "JSXIdentifier" ∨ name.kind = "JSXMemberExpression" ∨
      name.kind = "JSXNamespacedName" := by simpa [isTagNameKind] using h.kinds
  -- a plain name, an access, which is used by the name it begins with, and a name with a namespace, which uses nothing
  rcases hk with hk | hk | hk
  · have hs : Tree.fieldSort name.kind "name" = some .text := by rw [hk]; rfl
    have hweigh (φ : Event → Nat) : Site.weigh φ ⟨name, .tag, frames scope⟩ =
        (Site.events ⟨name, .tag, frames scope⟩ |>.map φ).sum :=
      Site.weigh_identifier φ h.2 (.inr hk)
    simp only [usingTagName, h.2.kindOf_eq, hk, h.2.textField_eq hs, using_, ok_bind]
    by_cases hm : isMarkupName ((name.get "name").str?.getD "") = true
    · rw [if_pos hm]
      exact ⟨[], rfl, by simp, fun φ => by simp [hweigh, Site.events, hk, hm]⟩
    · rw [if_neg hm]
      exact ⟨_, rfl, by simp [Note.isOpening, Note.scope],
        fun φ => by simp [hweigh, Site.events, hk, hm, noteWeight]⟩
  · have hi : name.Is (· == "JSXMemberExpression") := Tree.is_iff.mpr ⟨h.2, by simp [hk]⟩
    obtain ⟨access, ha, hia, hio, hwa⟩ := innermostAccess_eq hi (Nat.le_refl _)
    have object : Tree.fieldSort access.kind "object" = some (.node isTagObjectKind) := by
      rw [beq_iff_eq.mp hia.kinds]; rfl
    have hok := beq_iff_eq.mp hio.kinds
    have hs : Tree.fieldSort (access.get "object").kind "name" = some .text := by rw [hok]; rfl
    have hweigh (φ : Event → Nat) : Site.weigh φ ⟨name, .tag, frames scope⟩ =
        (Site.events ⟨access.get "object", .tagRoot, frames scope⟩ |>.map φ).sum := by
      rw [hwa φ _ .tag (.inl rfl)]
      exact Site.weigh_identifier φ hio.2 (.inr hok)
    simp only [usingTagName, h.2.kindOf_eq, hk, ha, hia.2.field_eq object, hio.2.kindOf_eq, hok,
      hio.2.textField_eq hs, using_, ok_bind]
    rw [if_neg (by simp)]
    by_cases hthis : (((access.get "object").get "name").str?.getD "") = "this"
    · rw [if_pos (by simp [hthis])]
      exact ⟨[], rfl, by simp, fun φ => by simp [hweigh, Site.events, hok, hthis]⟩
    · rw [if_neg (by simpa using hthis)]
      exact ⟨_, rfl, by simp [Note.isOpening, Note.scope],
        fun φ => by simp [hweigh, Site.events, hok, hthis, noteWeight]⟩
  · let q : Site := ⟨name, .tag, frames scope⟩
    have hs : schema name.kind = some [("namespace", .node (· == "JSXIdentifier")),
      ("name", .node (· == "JSXIdentifier"))] := by rw [hk]; rfl
    have hopened : q.openedKinds = [] := by simp [q, Site.openedKinds, hk]
    have hevents : q.events = [] := events_of_openedKinds hopened (by simp [q, hk]) (by simp [q, hk])
    have hrole (key : String) : q.roleAt key = .inert := by simp [q, Site.roleAt, hk]
    refine ⟨[], ?_, by simp, fun φ => ?_⟩
    · simp only [usingTagName, h.2.kindOf_eq, hk, ok_bind]
      rfl
    · have := q.weigh_eq_sum φ h.2 hs
      simpa [hevents, q.weighAt_inert φ (hrole _), eq_comm] using this

theorem reports_tag (h : Agrees frames v p) (hn : v.scope < next)
    (hk : p.node.kind = "JSXOpeningElement" ∨ p.node.kind = "JSXClosingElement") :
    ∃ f, visitTag p.node v.scope = .ok f ∧ Reports frames p next f := by
  have hw := h.fit.1
  have name : Tree.fieldSort p.node.kind "name" = some (.node isTagNameKind) := by
    rcases hk with hk | hk <;> rw [hk] <;> rfl
  obtain ⟨notes, hnotes, hplain, hweights⟩ := usingTagName_eq frames p.node (hw.held name) v.scope
  obtain ⟨hframes, hevents, hreserved⟩ := quiet h
    (by rcases hk with hk | hk <;> simp [Site.openedKinds, hk])
    (by rcases hk with hk | hk <;> simp [hk])
  have hname : p.roleAt "name" = .tag := by
    rw [h.roleAt]
    rcases hk with hk | hk <;> simp [Site.roleByKind, hk]
  have hattributes : p.roleAt "attributes" = .reads := by
    rw [h.roleAt]
    rcases hk with hk | hk <;> simp [Site.roleByKind, hk]
  have hweigh (φ : Event → Nat) : p.weighAt φ "name" = notesWeight frames φ notes := by
    rw [Site.weighAt, hw.sumAt_node name, hweights, Site.below, hname, hframes, h.around]
  have hopenings : openings notes = 0 := openings_eq_zero fun n hm => (hplain n hm).1
  have hbounded : Bounded next notes :=
    bounded_of_no_openings fun n hm => ⟨(hplain n hm).1, (hplain n hm).2 ▸ hn⟩
  rcases hk with hk | hk
  · have hs : schema p.node.kind = some [("name", .node isTagNameKind), ("selfClosing", .flag),
      ("attributes", .nodes isAttributeKind)] := by rw [hk]; rfl
    have selfClosing : Tree.fieldSort p.node.kind "selfClosing" = some .flag := by rw [hk]; rfl
    have attributes : Tree.fieldSort p.node.kind "attributes" = some (.nodes isAttributeKind) := by
      rw [hk]; rfl
    refine ⟨_, ?_, reports_takes h (by simp [hk]) (by simp [hk]) hs notes
      [("attributes", v.scope, .normal)] hbounded ?_ ?_ ?_ ?_⟩
    · simp only [visitTag, hw.field_eq name, ok_bind, hnotes, items_nodes hw attributes,
        List.flatMap_cons, List.flatMap_nil, List.append_nil]
      rfl
    · simpa [hopenings] using hn
    · simp [hframes, h.around]
    · simp [hattributes, Takes]
    · intro _ φ
      simp [hevents, hreserved, hweigh, p.weighAt_leaf φ hw selfClosing,
        p.reservedAt_eq_zero φ (.inl hattributes)]
  · have hs : schema p.node.kind = some [("name", .node isTagNameKind)] := by rw [hk]; rfl
    -- a closing tag has no attributes
    have hnone : (p.node.get "attributes").items = [] := by
      cases hv : p.node.get? "attributes" with
      | none => rw [Tree.get, hv]; rfl
      | some value =>
        have hknown := hw.known hs hv
        have hleaf : value.isLeaf = true := by
          simpa [Tree.isKnownField, Tree.holdsChildren, Tree.childlessFields] using hknown
        rw [Tree.get_of_get? hv]
        cases value <;> first | rfl | simp [Tree.isLeaf] at hleaf
    refine ⟨_, ?_, reports_takes h (by simp [hk]) (by simp [hk]) hs notes [] hbounded (by simp)
      (by simp) (by simp) ?_⟩
    · simp only [visitTag, hw.field_eq name, ok_bind, hnotes, hnone, List.flatMap_nil]
      rfl
    · intro _ φ
      simp [hevents, hreserved, hweigh]

/-! ### Every kind of node -/

/-- **The visit of a node succeeds and reports what happens there.** -/
theorem reports_visit (h : Agrees frames v p) (hn : v.scope < next) :
    ∃ f, visit v next = .ok f ∧ Reports frames p next f := by
  have hw := h.fit.1
  simp only [visit, h.node, hw.kindOf_eq, ok_bind]
  -- one case for each branch of the visit, in its order; two branches are of kinds that no well-formed node has
  split <;> rename_i hk
  · exact reports_name h hn hk
  · exact reports_declaration h hn hk
  · exact reports_declarator h hn hk
  · exact hk ▸ reports_function (.inl hk) h hn
  · exact hk ▸ reports_function (.inr (.inl hk)) h hn
  · exact hk ▸ reports_function (.inr (.inr hk)) h hn
  · exact hk ▸ reports_class (.inl hk) h hn
  · exact hk ▸ reports_class (.inr hk) h hn
  · exact reports_block h hn hk
  · obtain ⟨spec, hs⟩ := hw.exists_schema
    rw [hk] at hs
    cases hs
  · exact ⟨_, rfl, reports_reads h hn (by simp [hk]) (by simp [Site.roleByKind, hk])
      (by simp [Site.isInside, hk]) (some "for") (by simp [Site.openedKinds, hk])⟩
  · exact reports_loop h hn (.inl hk)
  · exact reports_loop h hn (.inr hk)
  · exact reports_catch h hn hk
  · exact reports_switch h hn hk
  · exact reports_import h hn hk
  · exact reports_export h hk hn
  · exact ⟨_, rfl, reports_silent h (.inl hk)⟩
  · exact reports_member h hn hk
  · exact reports_property h hn (.inl hk)
  · exact reports_property h hn (.inr hk)
  · obtain ⟨spec, hs⟩ := hw.exists_schema
    rw [hk] at hs
    cases hs
  · exact ⟨_, rfl, reports_pattern h hn (.inl hk)⟩
  · exact ⟨_, rfl, reports_pattern h hn (.inr (.inl hk))⟩
  · exact ⟨_, rfl, reports_pattern h hn (.inr (.inr hk))⟩
  · exact reports_fallback h hn hk
  · exact reports_assignment h hn hk
  · exact reports_update h hn hk
  · obtain ⟨visits, hv, hr⟩ := reports_labeled h hn hk
    exact ⟨_, by rw [hv]; rfl, hr⟩
  · exact ⟨_, rfl, reports_silent h (.inr (.inl hk))⟩
  · exact ⟨_, rfl, reports_silent h (.inr (.inr (.inl hk)))⟩
  · exact ⟨_, rfl, reports_silent h (.inr (.inr (.inr hk)))⟩
  · exact reports_tag h hn (.inl hk)
  · exact reports_tag h hn (.inr hk)
  · exact ⟨_, rfl, reports_attribute h hn hk⟩
  · exact ⟨_, rfl, reports_reads h hn (by simp_all) (by simp [Site.roleByKind, *])
      (by simp [Site.isInside, *]) none (by simp [Site.openedKinds, *])⟩
end Reports

end ScopeTree

end Deminify
