import Deminify.Proofs.Scope.Standing
import Deminify.Proofs.Tree.Change

/-!
# What the walk passes

Not every node of a program is visited when its scopes are found: keys, labels and what an import brings in mean
nothing by themselves. But **a node is visited if its role is one in which nodes are walked over**
(`Deminify.NameRole.isWalked`). The visit of a node goes on with all children in such a role
(`Deminify.ScopeTree.Agrees.goesOn`), and what is around a node in such a role is in one itself, unless the node is a
name (`Deminify.isWalked_of_reaches`). Hence **a node that opens no scope is known to stand where it stands**, and
whether a name is declared around it can be asked of the scopes (`Deminify.ScopeTree.Tells.lookup_scopeFor`).
-/

namespace Deminify

/-- Whether nodes in a role are walked over when scopes are found. -/
def NameRole.isWalked : NameRole → Bool
  | .reads | .writes | .binds _ _ | .declarator _ | .body => true
  | _ => false

/-! ### All sites -/

/-- The sites that are reached from a site, if nodes nest `fuel` levels below it at most. -/
def Site.reachedWithin : Nat → Site → List Site
  | 0, _ => []
  | fuel + 1, p => p :: p.node.slots.flatMap fun x => (p.below x.1.key x.2).reachedWithin fuel

theorem mem_reachedWithin_iff {fuel : Nat} {p q : Site} (hh : p.node.height ≤ fuel) :
    q ∈ p.reachedWithin fuel ↔ Reaches p q := by
  induction fuel generalizing p with
  | zero => exact absurd hh (by have := p.node.height_pos; omega)
  | succ fuel ih =>
    have hlow {x : Slot × Tree} (hx : x ∈ p.node.slots) : (p.below x.1.key x.2).node.height ≤ fuel := by
      have hlt := Tree.height_lt_of_mem_children (Tree.mem_children_of_mem_slots hx)
      have hnode : (p.below x.1.key x.2).node = x.2 := rfl
      rw [hnode]
      omega
    rw [Site.reachedWithin, List.mem_cons, List.mem_flatMap]
    constructor
    · rintro (rfl | ⟨x, hx, hq⟩)
      · exact .refl q
      · exact .step hx ((ih (hlow hx)).mp hq)
    · intro h
      cases h with
      | refl => exact .inl rfl
      | step hx hq => exact .inr ⟨_, hx, (ih (hlow hx)).mpr hq⟩

/-- What is asked of all sites of a program can be found out. -/
instance decidableForallStands (program : Tree) (P : Site → Prop) [DecidablePred P] :
    Decidable (∀ q, Stands program q → P q) :=
  decidable_of_iff (∀ q ∈ (Site.root program).reachedWithin program.height, P q)
    (forall_congr' fun q => imp_congr_left (@mem_reachedWithin_iff _ (Site.root program) q (Nat.le_refl _)))

/-! ### Outwards -/

/-- A name that is called `local` is a name. -/
theorem kind_of_local {t c : Tree} (h : t.WellFormed) {slot : Slot} (hc : (slot, c) ∈ t.slots) (hkey : slot.key = "local") :
    c.kind = "Identifier" := by
  obtain ⟨spec, hs⟩ := h.exists_schema
  obtain ⟨hw, sort, hm, ha⟩ := h.admits hs hc
  obtain ⟨spec', hs'⟩ := hw.exists_schema
  have table : ∀ entry ∈ schemaTable, ∀ field ∈ entry.2, field.1 = "local" →
      ∀ entry' ∈ schemaTable, field.2.admits entry'.1 = true → entry'.1 = "Identifier" := by decide +kernel
  exact table _ (mem_of_lookup hs) _ hm hkey _ (mem_of_lookup hs') ha

/-- **What is around a node that is walked over** is walked over, too, unless the node is a name. -/
theorem isWalked_of_reaches {p q : Site} (h : Reaches p q) (hw : p.node.WellFormed) (hq : q.role.isWalked = true)
    (hk : q.node.kind ≠ "Identifier") : p.role.isWalked = true := by
  induction h with
  | refl p => exact hq
  | @step p q slot child hx hr ih =>
    have hchild := hw.child (Tree.mem_children_of_mem_slots hx)
    have hwalked : (p.roleAt slot.key).isWalked = true := ih hchild hq hk
    unfold Site.roleAt at hwalked
    split at hwalked
    · cases hwalked
    · cases hwalked
    · split at hwalked <;> cases hwalked
    · -- what is exported under another name is a name
      split at hwalked
      · rename_i hkey
        have hname := kind_of_local hw hx (beq_iff_eq.mp hkey)
        cases hr with
        | refl => exact absurd hname hk
        | @step _ _ slot' c hx' _ =>
          have hnone : (slot', c) ∈ child.slots := hx'
          rw [Tree.slots_of_atom hchild.hasFields (.inl hname)] at hnone
          cases hnone
      · cases hwalked
    · split at hwalked <;> cases hwalked
    · split at hwalked <;> cases hwalked
    · rename_i h1 h2 h3 h4 h5 h6
      cases hrole : p.role with
      | names home => exact absurd hrole (h1 home)
      | inert => exact absurd hrole h2
      | imported => exact absurd hrole h3
      | exported => exact absurd hrole h4
      | tag => exact absurd hrole h5
      | tagRoot => exact absurd hrole h6
      | _ => rfl

namespace ScopeTree

/-! ### Onwards -/

/-- **Whether visits go on with what a node holds** under a key. -/
def GoesOn (t : Tree) (below : List Visit) (key : String) : Prop := ∃ scope mode, visitsAt t key scope mode ⊆ below

section GoesOn

variable {t : Tree} {below more : List Visit} {key : String} {scope next : Nat} {mode : Mode} {f : Finding}

theorem goesOn_self : GoesOn t (visitsAt t key scope mode) key := ⟨scope, mode, List.Subset.refl _⟩

theorem GoesOn.left (h : GoesOn t below key) : GoesOn t (below ++ more) key := by
  obtain ⟨scope, mode, h⟩ := h
  exact ⟨scope, mode, List.Subset.trans h (List.subset_append_left _ _)⟩

theorem GoesOn.right (h : GoesOn t below key) : GoesOn t (more ++ below) key := by
  obtain ⟨scope, mode, h⟩ := h
  exact ⟨scope, mode, List.Subset.trans h (List.subset_append_right _ _)⟩

theorem goesOn_allChildren : GoesOn t (allChildren t scope mode) key := by
  refine ⟨scope, mode, fun w hw => ?_⟩
  obtain ⟨c, hc, rfl⟩ := List.mem_map.mp hw
  obtain ⟨slot, rfl, hslot⟩ := mem_slots_of_mem_nodesAt hc
  exact List.mem_map_of_mem hslot

/-- A child that is visited by itself. -/
theorem visitsAt_node (hw : t.WellFormed) {kinds : String → Bool} (hs : Tree.fieldSort t.kind key = some (.node kinds)) :
    visitsAt t key scope mode = [⟨t.get key, (t.label, key), scope, mode⟩] := by
  rw [visitsAt, Tree.nodesAt_of_is (Tree.holdsChildren_of_fieldSort hs) (hw.held hs), List.map_singleton]

/-- A child that must be there. -/
theorem goesOn_part (hw : t.WellFormed) {kinds : String → Bool} (hs : Tree.fieldSort t.kind key = some (.node kinds))
    (h : part t key scope mode = .ok below) : GoesOn t below key := by
  rw [part_node hw hs] at h
  cases h
  exact goesOn_self

variable (hw : t.WellFormed)

include hw

theorem goesOn_visitDeclaration (hk : t.kind = "VariableDeclaration") (h : visitDeclaration t scope = .ok f) :
    GoesOn t f.below "declarations" := by
  have declarations : Tree.fieldSort t.kind "declarations" = some (.nodes (· == "VariableDeclarator")) := by
    rw [hk]
    rfl
  simp only [visitDeclaration, bind_eq_ok] at h
  obtain ⟨kind, -, declarators, hget, bound, -, h⟩ := h
  cases h
  rw [hw.listField_eq declarations] at hget
  cases hget
  dsimp only
  rw [items_nodes hw declarations]
  exact goesOn_self

theorem goesOn_visitDeclarator (hk : t.kind = "VariableDeclarator") (h : visitDeclarator t scope = .ok f) :
    GoesOn t f.below "id" ∧ GoesOn t f.below "init" := by
  have id : Tree.fieldSort t.kind "id" = some .expression := by rw [hk]; rfl
  have init : Tree.fieldSort t.kind "init" = some (.optional isExpressionKind) := by rw [hk]; rfl
  simp only [visitDeclarator, bind_eq_ok] at h
  obtain ⟨visits, hid, h⟩ := h
  cases h
  rw [child_optional hw init]
  exact ⟨(goesOn_part hw id hid).left, goesOn_self.right⟩

theorem goesOn_visitFunction {kind : String}
    (hk : t.kind = "FunctionDeclaration" ∨ t.kind = "FunctionExpression" ∨ t.kind = "ArrowFunctionExpression")
    (h : visitFunction t kind scope next = .ok f) : GoesOn t f.below "params" ∧ GoesOn t f.below "body" := by
  have params : Tree.fieldSort t.kind "params" = some (.nodes isExpressionKind) := by
    rcases hk with hk | hk | hk <;> rw [hk] <;> rfl
  obtain ⟨kinds, body⟩ : ∃ kinds, Tree.fieldSort t.kind "body" = some (.node kinds) := by
    rcases hk with hk | hk | hk <;> rw [hk] <;> exact ⟨_, rfl⟩
  simp only [visitFunction, bind_eq_ok] at h
  obtain ⟨named, -, items, hparams, bound, -, block, hbody, kind', -, h⟩ := h
  cases h
  rw [hw.listField_eq params] at hparams
  rw [hw.field_eq body] at hbody
  cases hparams
  cases hbody
  dsimp only
  rw [items_nodes hw params]
  refine ⟨goesOn_self.left, .right ?_⟩
  rw [← visitsAt_node hw body]
  exact goesOn_self

theorem goesOn_visitClass {kind : String} (hk : t.kind = "ClassDeclaration" ∨ t.kind = "ClassExpression")
    (h : visitClass t kind scope next = .ok f) : GoesOn t f.below "superClass" ∧ GoesOn t f.below "body" := by
  have superClass : Tree.fieldSort t.kind "superClass" = some (.optional isExpressionKind) := by
    rcases hk with hk | hk <;> rw [hk] <;> rfl
  have body : Tree.fieldSort t.kind "body" = some (.node (· == "ClassBody")) := by
    rcases hk with hk | hk <;> rw [hk] <;> rfl
  simp only [visitClass, bind_eq_ok, hw.field_eq body] at h
  obtain ⟨named, -, block, hbody, h⟩ := h
  cases h
  cases hbody
  dsimp only
  rw [child_optional hw superClass, child_node hw body]
  exact ⟨goesOn_self.left, goesOn_self.right⟩

theorem goesOn_visitLoopOver (hk : t.kind = "ForInStatement" ∨ t.kind = "ForOfStatement")
    (h : visitLoopOver t scope next = .ok f) :
    GoesOn t f.below "left" ∧ GoesOn t f.below "right" ∧ GoesOn t f.below "body" := by
  have left : Tree.fieldSort t.kind "left" = some (.node isLoopHeadKind) := by
    rcases hk with hk | hk <;> rw [hk] <;> rfl
  have right : Tree.fieldSort t.kind "right" = some .expression := by
    rcases hk with hk | hk <;> rw [hk] <;> rfl
  have body : Tree.fieldSort t.kind "body" = some (.node isStatementKind) := by
    rcases hk with hk | hk <;> rw [hk] <;> rfl
  simp only [visitLoopOver, bind_eq_ok, hw.field_eq left, hw.field_eq right, hw.field_eq body] at h
  obtain ⟨head, hhead, kind, -, value, hvalue, block, hblock, h⟩ := h
  cases h
  cases hhead
  cases hvalue
  cases hblock
  dsimp only
  rw [child_node hw left, child_node hw right, child_node hw body]
  exact ⟨goesOn_self.left.left, goesOn_self.right.left, goesOn_self.right⟩

theorem goesOn_visitCatch (hk : t.kind = "CatchClause") (h : visitCatch t scope next = .ok f) :
    GoesOn t f.below "param" ∧ GoesOn t f.below "body" := by
  have param : Tree.fieldSort t.kind "param" = some .expression := by rw [hk]; rfl
  have body : Tree.fieldSort t.kind "body" = some .block := by rw [hk]; rfl
  have htruthy := Tree.truthy_of_isNode (hw.held param).isNode
  simp only [visitCatch, htruthy, if_true, bind_eq_ok, hw.field_eq body] at h
  obtain ⟨bound, -, block, hblock, h⟩ := h
  cases h
  cases hblock
  dsimp only
  rw [child_node hw param, child_node hw body]
  exact ⟨goesOn_self.left, goesOn_self.right⟩

theorem goesOn_visitSwitch (hk : t.kind = "SwitchStatement") (h : visitSwitch t scope next = .ok f) :
    GoesOn t f.below "discriminant" ∧ GoesOn t f.below "cases" := by
  have discriminant : Tree.fieldSort t.kind "discriminant" = some .expression := by rw [hk]; rfl
  have cases : Tree.fieldSort t.kind "cases" = some (.nodes (· == "SwitchCase")) := by rw [hk]; rfl
  simp only [visitSwitch, bind_eq_ok, hw.field_eq discriminant, hw.listField_eq cases] at h
  obtain ⟨on, hon, items, hitems, h⟩ := h
  cases h
  cases hon
  cases hitems
  dsimp only
  rw [child_node hw discriminant, items_nodes hw cases]
  exact ⟨goesOn_self.left, goesOn_self.right⟩

theorem goesOn_visitExport (hk : t.kind = "ExportNamedDeclaration") (h : visitExport t scope = .ok f) :
    GoesOn t f.below "declaration" := by
  have declaration : Tree.fieldSort t.kind "declaration" = some (.optional isStatementKind) := by rw [hk]; rfl
  rw [visitExport, child_optional hw declaration] at h
  split at h
  · obtain ⟨names, -, h⟩ := bind_eq_ok.mp h
    cases h
    exact goesOn_self.left
  · cases h
    exact goesOn_self

theorem goesOn_visitMember (hk : t.kind = "MemberExpression") (h : visitMember t scope = .ok f) :
    GoesOn t f.below "object" ∧ ((t.get "computed").truthy = true → GoesOn t f.below "property") := by
  have object : Tree.fieldSort t.kind "object" = some .expression := by rw [hk]; rfl
  have property : Tree.fieldSort t.kind "property" = some .expression := by rw [hk]; rfl
  obtain ⟨visits, hobject, h⟩ := bind_eq_ok.mp h
  have hvisits := goesOn_part hw object hobject
  split at h
  · obtain ⟨more, hproperty, h⟩ := bind_eq_ok.mp h
    cases h
    exact ⟨hvisits.left, fun _ => (goesOn_part hw property hproperty).right⟩
  · rename_i hplain
    cases h
    exact ⟨hvisits, fun hc => absurd hc hplain⟩

theorem goesOn_visitProperty (hk : t.kind = "Property" ∨ t.kind = "MethodDefinition")
    (h : visitProperty t scope mode = .ok f) :
    GoesOn t f.below "value" ∧ ((t.get "computed").truthy = true → GoesOn t f.below "key") := by
  have key : Tree.fieldSort t.kind "key" = some .expression := by rcases hk with hk | hk <;> rw [hk] <;> rfl
  have value : Tree.fieldSort t.kind "value" = some .expression := by rcases hk with hk | hk <;> rw [hk] <;> rfl
  rw [visitProperty, child_node hw value] at h
  split at h
  · obtain ⟨visits, hkey, h⟩ := bind_eq_ok.mp h
    cases h
    exact ⟨goesOn_self.right, fun _ => (goesOn_part hw key hkey).left⟩
  · rename_i hplain
    cases h
    exact ⟨goesOn_self.right, fun hc => absurd hc hplain⟩

theorem goesOn_visitFallback (hk : t.kind = "AssignmentPattern") (h : visitFallback t scope mode = .ok f) :
    GoesOn t f.below "left" ∧ GoesOn t f.below "right" := by
  have left : Tree.fieldSort t.kind "left" = some .expression := by rw [hk]; rfl
  have right : Tree.fieldSort t.kind "right" = some .expression := by rw [hk]; rfl
  simp only [visitFallback, bind_eq_ok] at h
  obtain ⟨visits, hleft, more, hright, h⟩ := h
  cases h
  exact ⟨(goesOn_part hw left hleft).left, (goesOn_part hw right hright).right⟩

theorem goesOn_visitAssignment (hk : t.kind = "AssignmentExpression") (h : visitAssignment t scope = .ok f) :
    GoesOn t f.below "left" ∧ GoesOn t f.below "right" := by
  have left : Tree.fieldSort t.kind "left" = some .expression := by rw [hk]; rfl
  have right : Tree.fieldSort t.kind "right" = some .expression := by rw [hk]; rfl
  simp only [visitAssignment, bind_eq_ok] at h
  obtain ⟨target, -, kind, -, visits, hleft, more, hright, h⟩ := h
  cases h
  exact ⟨(goesOn_part hw left hleft).left, (goesOn_part hw right hright).right⟩

theorem goesOn_visitUpdate (hk : t.kind = "UpdateExpression") (h : visitUpdate t scope = .ok f) :
    GoesOn t f.below "argument" := by
  have argument : Tree.fieldSort t.kind "argument" = some .expression := by rw [hk]; rfl
  simp only [visitUpdate, bind_eq_ok] at h
  obtain ⟨target, -, kind, -, visits, hvisits, h⟩ := h
  cases h
  exact goesOn_part hw argument hvisits

theorem goesOn_visitTag (hk : t.kind = "JSXOpeningElement") (h : visitTag t scope = .ok f) :
    GoesOn t f.below "attributes" := by
  have attributes : Tree.fieldSort t.kind "attributes" = some (.nodes isAttributeKind) := by rw [hk]; rfl
  simp only [visitTag, bind_eq_ok] at h
  obtain ⟨name, -, notes, -, h⟩ := h
  cases h
  dsimp only
  rw [items_nodes hw attributes]
  exact goesOn_self

end GoesOn

/-! ### Every kind of node -/

section Visits

variable {frames : Nat → List Frame} {v : Visit} {p : Site} {next : Nat} {f : Finding} {slot : Slot} {c : Tree}

/-- Whether visits go on with what is under a key if its role is one in which nodes are walked over. -/
def Passes (p : Site) (below : List Visit) (c : Tree) (entry : String × FieldSort) : Prop :=
  entry.2.admits c.kind = true → (p.roleAt entry.1).isWalked = true → GoesOn p.node below entry.1

theorem goesOn_of_passes (hw : p.node.WellFormed) {spec : List (String × FieldSort)} (hs : schema p.node.kind = some spec)
    (hc : (slot, c) ∈ p.node.slots) (hrole : (p.roleAt slot.key).isWalked = true) {below : List Visit}
    (h : ∀ entry ∈ spec, Passes p below c entry) : GoesOn p.node below slot.key := by
  obtain ⟨-, sort, hm, ha⟩ := hw.admits hs hc
  exact h _ hm ha hrole

theorem passes_of_not {entry : String × FieldSort} {below : List Visit} (h : (p.roleAt entry.1).isWalked = false) :
    Passes p below c entry := by
  intro _ hrole
  rw [h] at hrole
  cases hrole

theorem passes_of_leaf {entry : String × FieldSort} {below : List Visit} (h : entry.2.admits c.kind = false) :
    Passes p below c entry := by
  intro ha
  rw [h] at ha
  cases ha

/-- The visits of a function go on with its parameters and its body. -/
theorem goesOn_function (h : Agrees frames v p) (hc : (slot, c) ∈ p.node.slots)
    (hrole : (p.roleAt slot.key).isWalked = true) {below : List Visit}
    (hk : p.node.kind = "FunctionDeclaration" ∨ p.node.kind = "FunctionExpression" ∨
      p.node.kind = "ArrowFunctionExpression")
    (hbelow : GoesOn p.node below "params" ∧ GoesOn p.node below "body") : GoesOn p.node below slot.key := by
  obtain ⟨hparams, hbody⟩ := hbelow
  have hid : (p.roleAt "id").isWalked = false := by
    rw [h.roleAt]
    rcases hk with hk | hk | hk <;> simp [Site.roleByKind, hk, NameRole.isWalked]
  have hfields : schema p.node.kind = some functionFields → GoesOn p.node below slot.key := by
    intro hs
    refine @goesOn_of_passes p slot c h.fit.1 _ hs hc hrole _ ?_
    simp only [functionFields, List.forall_mem_cons]
    exact ⟨passes_of_leaf rfl, passes_of_leaf rfl, passes_of_not hid, fun _ _ => hparams, fun _ _ => hbody,
      passes_of_leaf rfl, List.forall_mem_nil _⟩
  rcases hk with hk | hk | hk
  · exact hfields (by rw [hk]; rfl)
  · exact hfields (by rw [hk]; rfl)
  · refine @goesOn_of_passes p slot c h.fit.1 _ (by rw [hk]; rfl) hc hrole _ ?_
    simp only [List.forall_mem_cons]
    exact ⟨passes_of_leaf rfl, passes_of_leaf rfl, fun _ _ => hparams, fun _ _ => hbody, passes_of_leaf rfl,
      List.forall_mem_nil _⟩

theorem goesOn_class (h : Agrees frames v p) (hc : (slot, c) ∈ p.node.slots)
    (hrole : (p.roleAt slot.key).isWalked = true) {below : List Visit}
    (hk : p.node.kind = "ClassDeclaration" ∨ p.node.kind = "ClassExpression")
    (hbelow : GoesOn p.node below "superClass" ∧ GoesOn p.node below "body") : GoesOn p.node below slot.key := by
  have hs : schema p.node.kind = some classFields := by rcases hk with hk | hk <;> rw [hk] <;> rfl
  have hid : (p.roleAt "id").isWalked = false := by
    rw [h.roleAt]
    rcases hk with hk | hk <;> simp [Site.roleByKind, hk, NameRole.isWalked]
  refine @goesOn_of_passes p slot c h.fit.1 _ hs hc hrole _ ?_
  simp only [classFields, List.forall_mem_cons]
  exact ⟨passes_of_not hid, fun _ _ => hbelow.1, fun _ _ => hbelow.2, List.forall_mem_nil _⟩

theorem goesOn_loopOver (h : Agrees frames v p) (hc : (slot, c) ∈ p.node.slots)
    (hrole : (p.roleAt slot.key).isWalked = true) {below : List Visit}
    (hk : p.node.kind = "ForInStatement" ∨ p.node.kind = "ForOfStatement")
    (hbelow : GoesOn p.node below "left" ∧ GoesOn p.node below "right" ∧ GoesOn p.node below "body") :
    GoesOn p.node below slot.key := by
  obtain ⟨hleft, hright, hbody⟩ := hbelow
  have hs : schema p.node.kind = some [("left", .node isLoopHeadKind), ("right", .expression),
      ("body", .node isStatementKind)] := by
    rcases hk with hk | hk <;> rw [hk] <;> rfl
  refine @goesOn_of_passes p slot c h.fit.1 _ hs hc hrole _ ?_
  simp only [List.forall_mem_cons]
  exact ⟨fun _ _ => hleft, fun _ _ => hright, fun _ _ => hbody, List.forall_mem_nil _⟩

theorem goesOn_visitBlock {t : Tree} {scope : Nat} {mode : Mode} {key : String}
    (h : visitBlock t scope next mode = .ok f) : GoesOn t f.below key := by
  rw [visitBlock] at h
  split at h
  · cases h
    exact goesOn_allChildren
  · cases h
    exact goesOn_allChildren

/-- The visits of a property go on with its value, and with its key if that is computed. -/
theorem goesOn_property (h : Agrees frames v p) (hc : (slot, c) ∈ p.node.slots)
    (hrole : (p.roleAt slot.key).isWalked = true) {below : List Visit}
    (hk : p.node.kind = "Property" ∨ p.node.kind = "MethodDefinition")
    (hbelow : GoesOn p.node below "value" ∧ ((p.node.get "computed").truthy = true → GoesOn p.node below "key")) :
    GoesOn p.node below slot.key := by
  obtain ⟨hvalue, hkey⟩ := hbelow
  have hcomputed (hr : (p.roleAt "key").isWalked = true) : (p.node.get "computed").truthy = true := by
    by_contra hplain
    rw [h.roleAt] at hr
    rcases hk with hk | hk <;> simp [Site.roleByKind, hk, hplain, NameRole.isWalked] at hr
  rcases hk with hk | hk
  all_goals
    refine @goesOn_of_passes p slot c h.fit.1 _ (by rw [hk]; rfl) hc hrole _ ?_
    simp only [List.forall_mem_cons]
  · exact ⟨fun _ hr => hkey (hcomputed hr), passes_of_leaf rfl, fun _ _ => hvalue, passes_of_leaf rfl,
      passes_of_leaf rfl, passes_of_leaf rfl, List.forall_mem_nil _⟩
  · exact ⟨fun _ hr => hkey (hcomputed hr), passes_of_leaf rfl, fun _ _ => hvalue, passes_of_leaf rfl,
      passes_of_leaf rfl, List.forall_mem_nil _⟩

/-- The visits of a member go on with the object, and with the property if that is computed. -/
theorem goesOn_member (h : Agrees frames v p) (hc : (slot, c) ∈ p.node.slots)
    (hrole : (p.roleAt slot.key).isWalked = true) {below : List Visit} (hk : p.node.kind = "MemberExpression")
    (hbelow : GoesOn p.node below "object" ∧ ((p.node.get "computed").truthy = true → GoesOn p.node below "property")) :
    GoesOn p.node below slot.key := by
  obtain ⟨hobject, hproperty⟩ := hbelow
  refine @goesOn_of_passes p slot c h.fit.1 _ (by rw [hk]; rfl) hc hrole _ ?_
  simp only [List.forall_mem_cons]
  refine ⟨passes_of_leaf rfl, fun _ _ => hobject, fun _ hr => hproperty ?_, List.forall_mem_nil _⟩
  by_contra hplain
  rw [Bool.not_eq_true] at hplain
  simp [h.roleAt, Site.roleByKind, hk, hplain, NameRole.isWalked] at hr

/-- The names that an export lists are passed over: what they mean is visited right away. -/
theorem goesOn_export (h : Agrees frames v p) (hc : (slot, c) ∈ p.node.slots)
    (hrole : (p.roleAt slot.key).isWalked = true) {below : List Visit} (hk : p.node.kind = "ExportNamedDeclaration")
    (hbelow : GoesOn p.node below "declaration") : GoesOn p.node below slot.key := by
  refine @goesOn_of_passes p slot c h.fit.1 _ (by rw [hk]; rfl) hc hrole _ ?_
  simp only [List.forall_mem_cons]
  refine ⟨fun _ _ => hbelow, passes_of_not ?_, passes_of_not ?_, List.forall_mem_nil _⟩
  · simp only [h.roleAt, Site.roleByKind, hk]
    split
    · split <;> rfl
    · rfl
  · simp [h.roleAt, Site.roleByKind, hk, NameRole.isWalked]

/-- The visits of a labelled statement go on with the statement. -/
theorem goesOn_labeled (h : Agrees frames v p) (hc : (slot, c) ∈ p.node.slots)
    (hrole : (p.roleAt slot.key).isWalked = true) {below : List Visit} (hk : p.node.kind = "LabeledStatement")
    (hbelow : GoesOn p.node below "body") : GoesOn p.node below slot.key := by
  refine @goesOn_of_passes p slot c h.fit.1 _ (by rw [hk]; rfl) hc hrole _ ?_
  simp only [List.forall_mem_cons]
  refine ⟨passes_of_not ?_, fun _ _ => hbelow, List.forall_mem_nil _⟩
  simp [h.roleAt, Site.roleByKind, hk, NameRole.isWalked]

/-- The visits of a node with two fields go on with both. -/
theorem goesOn_both (h : Agrees frames v p) (hc : (slot, c) ∈ p.node.slots)
    (hrole : (p.roleAt slot.key).isWalked = true) {below : List Visit} {first last : String × FieldSort}
    (hs : schema p.node.kind = some [first, last])
    (hbelow : GoesOn p.node below first.1 ∧ GoesOn p.node below last.1) : GoesOn p.node below slot.key := by
  refine @goesOn_of_passes p slot c h.fit.1 _ hs hc hrole _ ?_
  simp only [List.forall_mem_cons]
  exact ⟨fun _ _ => hbelow.1, fun _ _ => hbelow.2, List.forall_mem_nil _⟩

/-- **The visit of a node goes on** with all children in roles in which nodes are walked over. -/
theorem Agrees.goesOn (h : Agrees frames v p) (hf : ScopeTree.visit v next = .ok f) (hc : (slot, c) ∈ p.node.slots)
    (hrole : (p.roleAt slot.key).isWalked = true) : GoesOn p.node f.below slot.key := by
  have hw := h.fit.1
  simp only [ScopeTree.visit, h.node, hw.kindOf_eq, ok_bind] at hf
  have hsilent (hr : ∀ key, p.roleAt key = .inert) : GoesOn p.node f.below slot.key := by
    rw [hr] at hrole
    cases hrole
  -- one case for each branch of the visit, in its order; a kind whose children are passed over has only inert ones
  split at hf <;> rename_i hk
  · rw [Tree.slots_of_atom hw.hasFields (.inl hk)] at hc
    cases hc
  · refine @goesOn_of_passes p slot c hw _ (by rw [hk]; rfl) hc hrole _ ?_
    simp only [List.forall_mem_cons]
    exact ⟨fun _ _ => goesOn_visitDeclaration hw hk hf, passes_of_leaf rfl, List.forall_mem_nil _⟩
  · exact goesOn_both h hc hrole (by rw [hk]; rfl) (goesOn_visitDeclarator hw hk hf)
  · exact goesOn_function h hc hrole (.inl hk) (goesOn_visitFunction hw (.inl hk) hf)
  · exact goesOn_function h hc hrole (.inr (.inl hk)) (goesOn_visitFunction hw (.inr (.inl hk)) hf)
  · exact goesOn_function h hc hrole (.inr (.inr hk)) (goesOn_visitFunction hw (.inr (.inr hk)) hf)
  · exact goesOn_class h hc hrole (.inl hk) (goesOn_visitClass hw (.inl hk) hf)
  · exact goesOn_class h hc hrole (.inr hk) (goesOn_visitClass hw (.inr hk) hf)
  · exact goesOn_visitBlock hf
  · exact goesOn_visitBlock hf
  · cases hf
    exact goesOn_allChildren
  · exact goesOn_loopOver h hc hrole (.inl hk) (goesOn_visitLoopOver hw (.inl hk) hf)
  · exact goesOn_loopOver h hc hrole (.inr hk) (goesOn_visitLoopOver hw (.inr hk) hf)
  · exact goesOn_both h hc hrole (by rw [hk]; rfl) (goesOn_visitCatch hw hk hf)
  · exact goesOn_both h hc hrole (by rw [hk]; rfl) (goesOn_visitSwitch hw hk hf)
  · simp only [h.roleAt, Site.roleByKind, hk] at hrole
    split at hrole <;> cases hrole
  · exact goesOn_export h hc hrole hk (goesOn_visitExport hw hk hf)
  · exact hsilent fun key => by simp [h.roleAt, Site.roleByKind, hk]
  · exact goesOn_member h hc hrole hk (goesOn_visitMember hw hk hf)
  · exact goesOn_property h hc hrole (.inl hk) (goesOn_visitProperty hw (.inl hk) hf)
  · exact goesOn_property h hc hrole (.inr hk) (goesOn_visitProperty hw (.inr hk) hf)
  · obtain ⟨spec, hs⟩ := hw.exists_schema
    rw [hk] at hs
    cases hs
  · cases hf
    exact goesOn_allChildren
  · cases hf
    exact goesOn_allChildren
  · cases hf
    exact goesOn_allChildren
  · exact goesOn_both h hc hrole (by rw [hk]; rfl) (goesOn_visitFallback hw hk hf)
  · obtain ⟨hleft, hright⟩ := goesOn_visitAssignment hw hk hf
    refine @goesOn_of_passes p slot c hw _ (by rw [hk]; rfl) hc hrole _ ?_
    simp only [operationFields, List.forall_mem_cons]
    exact ⟨passes_of_leaf rfl, fun _ _ => hleft, fun _ _ => hright, List.forall_mem_nil _⟩
  · refine @goesOn_of_passes p slot c hw _ (by rw [hk]; rfl) hc hrole _ ?_
    simp only [List.forall_mem_cons]
    exact ⟨passes_of_leaf rfl, fun _ _ => goesOn_visitUpdate hw hk hf, passes_of_leaf rfl, List.forall_mem_nil _⟩
  · obtain ⟨visits, hbody, hf⟩ := bind_eq_ok.mp hf
    cases hf
    have body : Tree.fieldSort p.node.kind "body" = some (.node isStatementKind) := by rw [hk]; rfl
    exact goesOn_labeled h hc hrole hk (goesOn_part hw body hbody)
  · exact hsilent fun key => by simp [h.roleAt, Site.roleByKind, hk]
  · exact hsilent fun key => by simp [h.roleAt, Site.roleByKind, hk]
  · exact hsilent fun key => by simp [h.roleAt, Site.roleByKind, hk]
  · refine @goesOn_of_passes p slot c hw _ (by rw [hk]; rfl) hc hrole _ ?_
    simp only [List.forall_mem_cons]
    refine ⟨passes_of_not ?_, passes_of_leaf rfl, fun _ _ => goesOn_visitTag hw hk hf, List.forall_mem_nil _⟩
    simp [h.roleAt, Site.roleByKind, hk, NameRole.isWalked]
  · refine @goesOn_of_passes p slot c hw _ (by rw [hk]; rfl) hc hrole _ ?_
    simp only [List.forall_mem_cons]
    refine ⟨passes_of_not ?_, List.forall_mem_nil _⟩
    simp [h.roleAt, Site.roleByKind, hk, NameRole.isWalked]
  · cases hf
    have value : Tree.fieldSort p.node.kind "value" = some (.optional isAttributeValueKind) := by rw [hk]; rfl
    refine @goesOn_of_passes p slot c hw _ (by rw [hk]; rfl) hc hrole _ ?_
    simp only [List.forall_mem_cons]
    refine ⟨passes_of_not ?_, fun _ _ => ?_, List.forall_mem_nil _⟩
    · simp [h.roleAt, Site.roleByKind, hk, NameRole.isWalked]
    · dsimp only
      rw [child_optional hw value]
      exact goesOn_self
  · cases hf
    exact goesOn_allChildren

/-- What is found at a child that is gone on with. -/
theorem Agrees.exists_below (h : Agrees frames v p) (hf : ScopeTree.visit v next = .ok f) (hc : (slot, c) ∈ p.node.slots)
    (hrole : (p.roleAt slot.key).isWalked = true) : ∃ w ∈ f.below, placeBelow p w = p.below slot.key c := by
  obtain ⟨scope, mode, hsub⟩ := h.goesOn hf hc hrole
  refine ⟨_, hsub (List.mem_map_of_mem ((Tree.mem_nodesAt_iff h.fit.1.distinct).mpr ⟨slot, rfl, hc⟩)), ?_⟩
  by_cases he : p.node.kind = "ExportNamedDeclaration"
  · have hreads : p.roleAt slot.key = .reads := by
      simp only [h.roleAt, Site.roleByKind, he] at hrole ⊢
      split
      · rename_i hkey
        rw [if_pos hkey] at hrole
        split at hrole <;> cases hrole
      · rename_i hkey
        rw [if_neg hkey] at hrole
        split
        · rfl
        · rename_i hkey
          rw [if_neg hkey] at hrole
          cases hrole
    rw [placeBelow, if_pos he, Site.below, hreads,
      framesAt_of_openedKinds (show p.openedKinds = [] by simp [Site.openedKinds, he])]
  · rw [placeBelow_eq he]

end Visits

/-! ### The whole walk -/

section Walk

variable {frames : Nat → List Frame}

/-- **What is walked over is visited.** By induction on the fuel, and on the visits at one level. -/
theorem stands_of_walk {fuel : Nat} {visits : List Visit} {next : Nat} {site : Visit → Site} {notes : List Note}
    (hh : ∀ v ∈ visits, v.node.height ≤ fuel) (hs : ∀ v ∈ visits, v.scope < next)
    (ha : ∀ v ∈ visits, Agrees frames v (site v)) (hw : walk fuel visits next = .ok notes)
    (hf : Framed frames next notes) {v : Visit} (hv : v ∈ visits) {q : Site} (hq : Reaches (site v) q)
    (hrole : q.role.isWalked = true) (hk : q.node.kind ≠ "Identifier") : ∃ k, .stands q.node.label k ∈ notes := by
  induction fuel generalizing visits next site notes v with
  | zero => exact absurd (hh v hv) (by have := v.node.height_pos; omega)
  | succ fuel ih =>
    rw [walk] at hw
    induction visits generalizing next notes with
    | nil => cases hv
    | cons u rest ihr =>
      have hu : u.scope < next := hs u List.mem_cons_self
      have hp := ha u List.mem_cons_self
      obtain ⟨f, hfound, hr⟩ := reports_visit hp hu
      rw [walkEach, hfound, ok_bind] at hw
      obtain ⟨inner, hi, hw⟩ := bind_eq_ok.mp hw
      obtain ⟨after, hafter, hw⟩ := bind_eq_ok.mp hw
      obtain rfl := (Except.ok.inj hw).symm
      obtain ⟨hfhere, hfafter⟩ := framed_append.mp hf
      replace hfhere : Framed frames next (f.notes ++ inner) := hfhere
      rw [framed_append] at hfhere
      rcases List.mem_cons.mp hv with rfl | hv
      · cases hq with
        | refl =>
          refine ⟨v.scope, ?_⟩
          rw [← hp.node]
          exact List.mem_cons_self
        | @step _ _ slot child hx hq =>
          -- the child is walked over, too, so that it is visited below
          have hchild : (((site v).below slot.key child).role).isWalked = true :=
            isWalked_of_reaches hq (hp.fit.1.child (Tree.mem_children_of_mem_slots hx)) hrole hk
          obtain ⟨w, hw, hplace⟩ := hp.exists_below hfound hx hchild
          have hlow : ∀ w ∈ f.below, w.node.height ≤ fuel := by
            intro w hw
            have hlt := Tree.height_lt_of_mem_below (hr.inside w hw)
            have hle := hh v List.mem_cons_self
            rw [hp.node] at hle
            omega
          obtain ⟨k, hk⟩ := ih hlow hr.scopes (hr.agrees hfhere.1) hi hfhere.2 hw (hplace ▸ hq)
          exact ⟨k, List.mem_append_left _ (List.mem_append_right _ hk)⟩
      · obtain ⟨k, hk⟩ := ihr (fun w hw => hh w (List.mem_cons_of_mem _ hw))
          (fun w hw => Nat.lt_add_right _ (hs w (List.mem_cons_of_mem _ hw)))
          (fun w hw => ha w (List.mem_cons_of_mem _ hw)) hafter hfafter hv
        exact ⟨k, List.mem_append_right _ hk⟩

end Walk

namespace Tells

variable {program : Tree} {notes : List Note} (h : Tells program notes) (hp : program.Is (· == "Program"))
  (hl : program.Labelled) (hw : walk program.height (allChildren program 0 .normal) 1 = .ok notes)

include h hp hw

/-- **A scope is known for each node that is walked over** and is no name. -/
theorem isSome_scopeFor {q : Site} (hq : Stands program q) (hrole : q.role.isWalked = true)
    (hk : q.node.kind ≠ "Identifier") : ((ofNotes program.label notes).scopeFor q.node.label).isSome = true := by
  rw [scopeFor, ofNotes, scopeOf_resolveAll]
  cases hq with
  | refl =>
    refine isSome_scopeFor_carryOutAll (.inl ?_)
    show ((opening program.label).scopeFor program.label).isSome = true
    rw [opening, newScope, scopeFor]
    dsimp only
    rw [get?_insert, if_pos rfl]
    rfl
  | @step _ _ slot child hx hq =>
    obtain ⟨-, -, hframed⟩ := (nested_opening program.label).carryOutAll h.bounded
    have hroot : (opening program.label).shape 0 = some (⟨program.label, "program"⟩, none) := rfl
    have hframes : (declared program.label notes).framesAround 0 = [⟨program.label, "program"⟩] := by
      obtain ⟨hnested, hextends, -⟩ := (nested_opening program.label).carryOutAll h.bounded
      rw [declared, hnested.framesAround_eq (hextends 0 _ hroot)]
      rfl
    have hh : ∀ v ∈ allChildren program 0 .normal, v.node.height ≤ program.height := by
      intro v hv
      obtain ⟨x, hx, rfl⟩ := List.mem_map.mp hv
      exact Nat.le_of_lt (Tree.height_lt_of_mem_children (Tree.mem_children_of_mem_slots hx))
    have hv : (⟨child, (program.label, slot.key), 0, .normal⟩ : Visit) ∈ allChildren program 0 .normal :=
      List.mem_map_of_mem hx
    exact isSome_scopeFor_carryOutAll (.inr (stands_of_walk hh (scope_allChildren program)
      (agrees_allChildren hp hframes) hw hframed hv hq hrole hk))

include hl

/-- **What the scopes find from where a node stands** is what its name belongs to there, if the node is walked over,
opens no scope and shares none. -/
theorem lookup_scopeFor {q : Site} (hq : Stands program q) (hrole : q.role.isWalked = true)
    (hopened : q.openedKinds = []) (hname : q.node.kind ≠ "Identifier") (hblock : q.node.kind ≠ "BlockStatement")
    (hprogram : q.node.kind ≠ "Program") (x : String) :
    (ofNotes program.label notes).lookup (((ofNotes program.label notes).scopeFor q.node.label).getD 0) x = none ↔
      Resolves program x q.frames none := by
  obtain ⟨k, hk⟩ := Option.isSome_iff_exists.mp (h.isSome_scopeFor hp hw hq hrole hname)
  obtain ⟨hlt, hframes⟩ := h.framesAround_scopeFor hp hl hw hq hopened hblock hprogram hk
  rw [hk, Option.getD_some, lookup_congr (scopes_ofNotes program.label notes), ← hframes]
  rcases h.resolves_lookup hlt x with ⟨frame, b, hr, -, hlookup⟩ | ⟨hr, hlookup⟩
  · rw [hlookup]
    refine iff_of_false (Option.some_ne_none b) fun hnone => ?_
    cases hr.unique hnone
  · exact iff_of_true hlookup hr

end Tells

end ScopeTree

end Deminify
