import Deminify.Proofs.Scope.Visit

/-!
# What is found in expressions and patterns

Each kind of node that is visited in a way of its own has its lemma: the visit succeeds, and what it
finds is what happens at the site. Here are those of expressions, names and patterns.
-/

namespace Deminify

namespace ScopeTree

theorem ok_bind {α β : Type} (a : α) (f : α → Except Failure β) : (.ok a >>= f) = f a := rfl

section Reports

variable {frames : Nat → List Frame} {v : Visit} {p : Site} {next : Nat}

theorem Agrees.mode?_isSome (h : Agrees frames v p) : p.mode?.isSome = true := by
  rw [h.mode]
  rfl

theorem Agrees.roleAt (h : Agrees frames v p) (key : String) : p.roleAt key = p.roleByKind key :=
  Site.roleAt_eq h.mode?_isSome key

/-- What happens at a node that is walked over and is no name: the scopes open that it opens. -/
theorem Agrees.events (h : Agrees frames v p) (hk : p.node.kind ≠ "Identifier") :
    p.events = p.opened.map .opens := by
  have hmode := h.mode?_isSome
  unfold Site.events
  split
  · contradiction
  · rename_i hk
    rw [Site.opened, show p.openedKinds = [] by simp [Site.openedKinds, hk]]
    cases hr : p.role <;> simp [Site.mode?, hr] at hmode ⊢
  · rw [if_neg]
    intro hr
    simp [Site.mode?, hr] at hmode

/-- Around the children of a node that opens nothing are the scopes around the node. -/
theorem framesAt_of_openedKinds (h : p.openedKinds = []) (key : String) : p.framesAt key = p.frames := by
  simp [Site.framesAt, Site.opened, h]

/-- At a node that is no name and opens nothing, nothing happens. -/
theorem events_of_openedKinds (h : p.openedKinds = []) (h1 : p.node.kind ≠ "Identifier")
    (h2 : p.node.kind ≠ "JSXIdentifier") : p.events = [] := by
  unfold Site.events
  split
  · contradiction
  · contradiction
  · simp [Site.opened, h]

/-- A node that is no name, no pattern and opens nothing. -/
theorem quiet (h : Agrees frames v p) (ho : p.openedKinds = [])
    (hk : ["Identifier", "JSXIdentifier", "VariableDeclarator", "Property", "MethodDefinition",
      "ObjectPattern", "ArrayPattern", "AssignmentPattern", "RestElement"].contains p.node.kind = false) :
    (∀ key, p.framesAt key = p.frames) ∧ p.events = [] ∧ ∀ φ, p.reserved φ = 0 := by
  simp only [List.contains_cons, List.contains_nil, Bool.or_false, Bool.or_eq_false_iff,
    beq_eq_false_iff_ne] at hk
  obtain ⟨h1, h2, h3, h4, h5, h6, h7, h8, h9⟩ := hk
  refine ⟨framesAt_of_openedKinds ho, events_of_openedKinds ho h1 h2, fun φ => ?_⟩
  exact Site.reserved_of_kind φ h.fit (by simp [*])

/-- A target that is no name can be walked over. -/
theorem takes_target {t c : Tree} (ht : t.WellFormed) {key : String}
    (hs : Tree.fieldSort t.kind key = some .expression) (hc : c ∈ t.nodesAt key) {mode : Mode}
    (hm : mode = .assigns ∨ mode = .normal ∧ (t.get key).kind ≠ "Identifier") :
    Takes c mode .writes := by
  have hi := ht.held hs
  rw [Tree.nodesAt_of_is (Tree.holdsChildren_of_fieldSort hs) hi, List.mem_singleton] at hc
  subst hc
  rcases hm with rfl | ⟨rfl, hne⟩
  · rfl
  · have hk := hi.kinds
    have h1 : (t.get key).kind ≠ "Property" := fun he => by simp [he, isExpressionKind] at hk
    have h2 : (t.get key).kind ≠ "MethodDefinition" := fun he => by simp [he, isExpressionKind] at hk
    simp [Takes, Mode.seen, hne, h1, h2]

/-! ### Expressions -/

theorem reports_member (h : Agrees frames v p) (hn : v.scope < next)
    (hk : p.node.kind = "MemberExpression") :
    ∃ f, visitMember p.node v.scope = .ok f ∧ Reports frames p next f := by
  have hw := h.fit.1
  have hs : schema p.node.kind = some [("computed", .flag), ("object", .expression),
    ("property", .expression)] := by rw [hk]; rfl
  have object : Tree.fieldSort p.node.kind "object" = some .expression := by rw [hk]; rfl
  have property : Tree.fieldSort p.node.kind "property" = some .expression := by rw [hk]; rfl
  have computed : Tree.fieldSort p.node.kind "computed" = some .flag := by rw [hk]; rfl
  obtain ⟨hframes, hevents, hreserved⟩ := quiet h (by simp [Site.openedKinds, hk]) (by simp [hk])
  have hobject : p.roleAt "object" = .reads := by
    simp [h.roleAt, Site.roleByKind, hk]
  by_cases hc : (p.node.get "computed").truthy = true
  · have hproperty : p.roleAt "property" = .reads := by
      simp [h.roleAt, Site.roleByKind, hk, hc]
    refine ⟨_, ?_, reports_takes h (by simp [hk]) (by simp [hk]) hs []
      [("object", v.scope, .normal), ("property", v.scope, .normal)] trivial ?_ ?_ ?_ ?_⟩
    · simp only [visitMember, part_node hw object, part_node hw property, ok_bind, if_pos hc,
        List.flatMap_cons, List.flatMap_nil, List.append_nil]
      rfl
    · simpa using hn
    · simp [hframes, h.around]
    · simp [hobject, hproperty, Takes]
    · intro _ φ
      simp [hevents, hreserved, p.weighAt_leaf φ hw computed,
        p.reservedAt_eq_zero φ (.inl hobject), p.reservedAt_eq_zero φ (.inl hproperty)]
  · have hproperty : p.roleAt "property" = .inert := by
      simp [h.roleAt, Site.roleByKind, hk, hc]
    refine ⟨_, ?_, reports_takes h (by simp [hk]) (by simp [hk]) hs []
      [("object", v.scope, .normal)] trivial ?_ ?_ ?_ ?_⟩
    · simp only [visitMember, part_node hw object, ok_bind, if_neg hc, List.flatMap_singleton]
      rfl
    · simpa using hn
    · simp [hframes, h.around]
    · simp [hobject, Takes]
    · intro _ φ
      simp [hevents, hreserved, p.weighAt_leaf φ hw computed, p.weighAt_inert φ hproperty,
        p.reservedAt_eq_zero φ (.inl hobject)]

/-- The mode that a property hands on to its value. -/
theorem takes_value (h : Agrees frames v p)
    (hk : p.node.kind = "Property" ∨ p.node.kind = "MethodDefinition") (c : Tree) :
    Takes c v.mode.orNormal p.role.orReads := by
  have hm := h.mode
  have hfit := h.fit.2
  have hseen : v.mode.seen p.node = v.mode := by
    cases hv : v.mode <;> rcases hk with hk | hk <;> simp [Mode.seen, hk]
  have hsensitive : ["Identifier", "Property", "MethodDefinition"].contains p.node.kind = true := by
    rcases hk with hk | hk <;> simp [hk]
  rw [h.node, hseen, Site.mode?] at hm
  cases hrole : p.role with
  | reads =>
    rw [hrole] at hm
    exact Option.some.inj hm ▸ rfl
  | writes =>
    simp only [hrole, hsensitive, if_true] at hm
    exact Option.some.inj hm ▸ rfl
  | binds home initializes =>
    rw [hrole] at hm
    exact Option.some.inj hm ▸ rfl
  | declarator home =>
    rw [hrole] at hfit
    rcases hk with hk | hk <;> simp [hk] at hfit
  | body =>
    rw [hrole] at hfit
    rcases hk with hk | hk <;> simp [hk] at hfit
  | _ => simp [hrole] at hm

theorem reserved_property (h : p.Fit)
    (hk : p.node.kind = "Property" ∨ p.node.kind = "MethodDefinition") (hr : p.mode?.isSome = true)
    (φ : Event → Nat) : p.reserved φ = p.reservedAt φ "value" := by
  have hfit := h.2
  have value : Tree.fieldSort p.node.kind "value" = some .expression := by
    rcases hk with hk | hk <;> rw [hk] <;> rfl
  have hrole : p.roleAt "value" = p.role.orReads := by
    rw [Site.roleAt_eq hr]
    rcases hk with hk | hk <;> simp [Site.roleByKind, hk]
  rw [Site.reservedAt, h.1.sumAt_node value, Site.reserved, Site.reserved, Site.below]
  dsimp only
  rw [hrole]
  cases hr : p.role with
  | binds home initializes =>
    rw [NameRole.orReads, (h.1.held value).partNames_eq, Tree.partNames, if_pos]
    rcases hk with hk | hk <;> simp [hk]
  | declarator home =>
    rw [hr] at hfit
    rcases hk with hk | hk <;> simp [hk] at hfit
  | _ => rfl

theorem reports_property (h : Agrees frames v p) (hn : v.scope < next)
    (hk : p.node.kind = "Property" ∨ p.node.kind = "MethodDefinition") :
    ∃ f, visitProperty p.node v.scope v.mode = .ok f ∧ Reports frames p next f := by
  have hw := h.fit.1
  obtain ⟨spec, hs, hsum⟩ : ∃ spec, schema p.node.kind = some spec ∧
      ∀ φ, (spec.map fun entry => p.weighAt φ entry.1).sum = p.weighAt φ "key" + p.weighAt φ "value" := by
    rcases hk with hk | hk
    · refine ⟨_, by rw [hk]; rfl, fun φ => ?_⟩
      have computed : Tree.fieldSort p.node.kind "computed" = some .flag := by rw [hk]; rfl
      have kind : Tree.fieldSort p.node.kind "kind" = some .text := by rw [hk]; rfl
      have method : Tree.fieldSort p.node.kind "method" = some .flag := by rw [hk]; rfl
      have shorthand : Tree.fieldSort p.node.kind "shorthand" = some .flag := by rw [hk]; rfl
      simp [p.weighAt_leaf φ hw computed, p.weighAt_leaf φ hw kind, p.weighAt_leaf φ hw method,
        p.weighAt_leaf φ hw shorthand]
    · refine ⟨_, by rw [hk]; rfl, fun φ => ?_⟩
      have computed : Tree.fieldSort p.node.kind "computed" = some .flag := by rw [hk]; rfl
      have kind : Tree.fieldSort p.node.kind "kind" = some .text := by rw [hk]; rfl
      have static : Tree.fieldSort p.node.kind "static" = some .flag := by rw [hk]; rfl
      simp [p.weighAt_leaf φ hw computed, p.weighAt_leaf φ hw kind, p.weighAt_leaf φ hw static]
  have key : Tree.fieldSort p.node.kind "key" = some .expression := by
    rcases hk with hk | hk <;> rw [hk] <;> rfl
  have value : Tree.fieldSort p.node.kind "value" = some .expression := by
    rcases hk with hk | hk <;> rw [hk] <;> rfl
  have hopened : p.openedKinds = [] := by
    rcases hk with hk | hk <;> simp [Site.openedKinds, hk]
  have hframes := framesAt_of_openedKinds hopened
  have hevents : p.events = [] := by
    rcases hk with hk | hk <;> exact events_of_openedKinds hopened (by simp [hk]) (by simp [hk])
  have hd : p.node.kind ≠ "VariableDeclaration" := by rcases hk with hk | hk <;> simp [hk]
  have he : p.node.kind ≠ "ExportNamedDeclaration" := by rcases hk with hk | hk <;> simp [hk]
  have hvalue : p.roleAt "value" = p.role.orReads := by
    rw [h.roleAt]
    rcases hk with hk | hk <;> simp [Site.roleByKind, hk]
  have hreserved := reserved_property h.fit hk h.mode?_isSome
  -- a key is visited only if it is computed, while the value has the role of the property either way
  by_cases hc : (p.node.get "computed").truthy = true
  · have hkey : p.roleAt "key" = .reads := by
      rw [h.roleAt]
      rcases hk with hk | hk <;> simp [Site.roleByKind, hk, hc]
    refine ⟨_, ?_, reports_takes h hd he hs []
      [("key", v.scope, .normal), ("value", v.scope, v.mode.orNormal)] trivial ?_ ?_ ?_ ?_⟩
    · simp only [visitProperty, part_node hw key, child_node hw value, ok_bind, if_pos hc,
        List.flatMap_cons, List.flatMap_nil, List.append_nil]
      rfl
    · simpa using hn
    · simp [hframes, h.around]
    · simp only [List.forall_mem_cons, hkey, hvalue]
      exact ⟨fun c _ => rfl, fun c _ => takes_value h hk c, by simp⟩
    · intro _ φ
      simp [hevents, hreserved, hsum, p.reservedAt_eq_zero φ (.inl hkey)]
  · have hkey : p.roleAt "key" = .inert := by
      rw [h.roleAt]
      rcases hk with hk | hk <;> simp [Site.roleByKind, hk, hc]
    refine ⟨_, ?_, reports_takes h hd he hs [] [("value", v.scope, v.mode.orNormal)] trivial ?_ ?_ ?_ ?_⟩
    · simp only [visitProperty, child_node hw value, if_neg hc, List.flatMap_cons, List.flatMap_nil,
        List.append_nil]
      rfl
    · simpa using hn
    · simp [hframes, h.around]
    · simp only [List.forall_mem_cons, hvalue]
      exact ⟨fun c _ => takes_value h hk c, by simp⟩
    · intro _ φ
      simp [hevents, hreserved, hsum, p.weighAt_inert φ hkey]

theorem reports_assignment (h : Agrees frames v p) (hn : v.scope < next)
    (hk : p.node.kind = "AssignmentExpression") :
    ∃ f, visitAssignment p.node v.scope = .ok f ∧ Reports frames p next f := by
  have hw := h.fit.1
  have hs : schema p.node.kind = some operationFields := by rw [hk]; rfl
  have left : Tree.fieldSort p.node.kind "left" = some .expression := by rw [hk]; rfl
  have right : Tree.fieldSort p.node.kind "right" = some .expression := by rw [hk]; rfl
  have operator : Tree.fieldSort p.node.kind "operator" = some .text := by rw [hk]; rfl
  obtain ⟨hframes, hevents, hreserved⟩ := quiet h (by simp [Site.openedKinds, hk]) (by simp [hk])
  have hleft : p.roleAt "left" = .writes := by
    simp [h.roleAt, Site.roleByKind, hk]
  have hright : p.roleAt "right" = .reads := by
    simp [h.roleAt, Site.roleByKind, hk]
  have hi := hw.held left
  refine ⟨_, ?_, reports_takes h (by simp [hk]) (by simp [hk]) hs []
    [("left", v.scope, if ["Identifier", "ObjectPattern", "ArrayPattern"].contains
      (p.node.get "left").kind then .assigns else .normal), ("right", v.scope, .normal)]
    trivial ?_ ?_ ?_ ?_⟩
  · simp only [visitAssignment, hw.field_eq left, hi.2.kindOf_eq, part_node hw left,
      part_node hw right, ok_bind, List.flatMap_cons, List.flatMap_nil, List.append_nil]
    rfl
  · simpa using hn
  · simp [hframes, h.around]
  · simp only [List.forall_mem_cons, hleft, hright]
    refine ⟨fun c hc => takes_target hw left hc ?_, fun c _ => rfl, by simp⟩
    split
    · exact .inl rfl
    · exact .inr ⟨rfl, by simp_all⟩
  · intro _ φ
    simp [operationFields, hevents, hreserved, p.weighAt_leaf φ hw operator,
      p.reservedAt_eq_zero φ (.inr (.inl hleft)), p.reservedAt_eq_zero φ (.inl hright)]

theorem reports_update (h : Agrees frames v p) (hn : v.scope < next)
    (hk : p.node.kind = "UpdateExpression") :
    ∃ f, visitUpdate p.node v.scope = .ok f ∧ Reports frames p next f := by
  have hw := h.fit.1
  have hs : schema p.node.kind = some [("operator", .text), ("argument", .expression),
    ("prefix", .flag)] := by rw [hk]; rfl
  have argument : Tree.fieldSort p.node.kind "argument" = some .expression := by rw [hk]; rfl
  have operator : Tree.fieldSort p.node.kind "operator" = some .text := by rw [hk]; rfl
  have isPrefix : Tree.fieldSort p.node.kind "prefix" = some .flag := by rw [hk]; rfl
  obtain ⟨hframes, hevents, hreserved⟩ := quiet h (by simp [Site.openedKinds, hk]) (by simp [hk])
  have hargument : p.roleAt "argument" = .writes := by
    simp [h.roleAt, Site.roleByKind, hk]
  refine ⟨_, ?_, reports_takes h (by simp [hk]) (by simp [hk]) hs []
    [("argument", v.scope, if (p.node.get "argument").kind == "Identifier" then .assigns else .normal)]
    trivial ?_ ?_ ?_ ?_⟩
  · simp only [visitUpdate, hw.field_eq argument, (hw.held argument).2.kindOf_eq,
      part_node hw argument, ok_bind, List.flatMap_cons, List.flatMap_nil, List.append_nil]
    rfl
  · simpa using hn
  · simp [hframes, h.around]
  · simp only [List.forall_mem_cons, hargument]
    refine ⟨fun c hc => takes_target hw argument hc ?_, by simp⟩
    split
    · exact .inl rfl
    · exact .inr ⟨rfl, by simp_all⟩
  · intro _ φ
    simp [hevents, hreserved, p.weighAt_leaf φ hw operator, p.weighAt_leaf φ hw isPrefix,
      p.reservedAt_eq_zero φ (.inr (.inl hargument))]

/-! ### Names and patterns -/

theorem reports_name (h : Agrees frames v p) (hn : v.scope < next) (hk : p.node.kind = "Identifier") :
    ∃ f, visitName v = .ok f ∧ Reports frames p next f := by
  have hw := h.fit.1
  have name : Tree.fieldSort p.node.kind "name" = some .text := by rw [hk]; rfl
  have hm := h.mode
  have hfit := h.fit.2
  have hseen : v.mode.seen p.node = v.mode := by
    cases hv : v.mode <;> simp [Mode.seen, hk]
  have hweigh (φ : Event → Nat) := p.weigh_identifier φ hw (.inl hk)
  have hnames : p.node.partNames = [p.node] := by
    rw [Tree.partNames_eq (by simp [hk]) (by simp [hk]), Tree.boundNodes_eq hw, hk]
    rfl
  rw [h.node, hseen, Site.mode?] at hm
  -- the role decides on the mode of the visit, and the mode on what is noted
  cases hrole : p.role with
  | reads =>
    rw [hrole] at hm
    have hm : v.mode = .normal := (Option.some.inj hm).symm
    have hevents : p.events = [.use p.node.label ((p.node.get "name").str?.getD "") false p.frames] := by
      simp only [Site.events, hk, hrole]
    refine ⟨{ notes := [.uses ⟨p.node.label, (p.node.get "name").str?.getD "", v.parent, v.scope,
      false⟩] }, ?_, ?_, by simp, by simp, by simp, by simp, ?_⟩
    · simp only [visitName, hm, using_, h.node, hw.textField_eq name, ok_bind]
      rfl
    · simpa [Note.scope] using hn
    · intro _ φ
      simp [hweigh, hevents, noteWeight, h.around, p.reserved_eq_zero φ (.inl hrole)]
  | writes =>
    simp only [hrole, hk, List.contains_cons, beq_self_eq_true, Bool.true_or, if_true] at hm
    have hm : v.mode = .assigns := (Option.some.inj hm).symm
    have hevents : p.events = [.use p.node.label ((p.node.get "name").str?.getD "") true p.frames] := by
      simp only [Site.events, hk, hrole]
    refine ⟨{ notes := [.uses ⟨p.node.label, (p.node.get "name").str?.getD "", v.parent, v.scope,
      true⟩] }, ?_, ?_, by simp, by simp, by simp, by simp, ?_⟩
    · simp only [visitName, hm, using_, h.node, hw.textField_eq name, ok_bind]
      rfl
    · simpa [Note.scope] using hn
    · intro _ φ
      simp [hweigh, hevents, noteWeight, h.around, p.reserved_eq_zero φ (.inr (.inl hrole))]
  | binds home initializes =>
    rw [hrole] at hm
    have hm : v.mode = .declares := (Option.some.inj hm).symm
    have hevents : p.events =
        [.declares p.node.label ((p.node.get "name").str?.getD "") home initializes] := by
      simp only [Site.events, hk, hrole]
    -- the name has been noted where the pattern around it was met, and its weight is reserved there
    refine ⟨{}, by rw [visitName, hm]; rfl, trivial, by simp, by simp, by simp, by simp, ?_⟩
    intro _ φ
    simp [hweigh, hevents, Site.reserved, hrole, hnames, Site.declareWeight]
  | declarator home =>
    rw [hrole] at hfit
    simp [hk] at hfit
  | body =>
    rw [hrole] at hfit
    simp [hk] at hfit
  | _ => simp [hrole] at hm

/-- Whether nodes of the kind are patterns. -/
def isPattern (kind : String) : Prop :=
  kind = "ObjectPattern" ∨ kind = "ArrayPattern" ∨ kind = "RestElement" ∨ kind = "AssignmentPattern"

/-- The mode that a pattern hands on to its parts. -/
theorem takes_part (h : Agrees frames v p) (hk : isPattern p.node.kind) (c : Tree) :
    Takes c v.mode.orAssigns p.role.orWrites := by
  have hm := h.mode
  have hfit := h.fit.2
  have hplain : ["Identifier", "Property", "MethodDefinition"].contains p.node.kind = false := by
    rcases hk with hk | hk | hk | hk <;> simp [hk]
  have hassigns : v.mode.seen p.node = .normal → v.mode.orAssigns = .assigns := by
    cases v.mode <;> simp [Mode.seen, Mode.orAssigns]
  have hdeclares : v.mode.seen p.node = .declares → v.mode.orAssigns = .declares := by
    cases v.mode <;> simp only [Mode.seen, Mode.orAssigns, hplain] <;> simp
  rw [h.node, Site.mode?] at hm
  cases hrole : p.role with
  | reads =>
    rw [hrole] at hm
    rw [hassigns (Option.some.inj hm).symm]
    rfl
  | writes =>
    simp only [hrole, hplain, Bool.false_eq_true, if_false] at hm
    rw [hassigns (Option.some.inj hm).symm]
    rfl
  | binds home initializes =>
    rw [hrole] at hm
    exact hdeclares (Option.some.inj hm).symm
  | declarator home =>
    rw [hrole] at hfit
    rcases hk with hk | hk | hk | hk <;> simp [hk] at hfit
  | body =>
    rw [hrole] at hfit
    rcases hk with hk | hk | hk | hk <;> simp [hk] at hfit
  | _ => simp [hrole] at hm

theorem sum_flatMap {α β : Type} (l : List α) (f : α → List β) (g : β → Nat) :
    ((l.flatMap f).map g).sum = (l.map fun a => ((f a).map g).sum).sum := by
  induction l with
  | nil => rfl
  | cons a rest ih =>
    rw [List.flatMap_cons, List.map_append, List.sum_append, ih, List.map_cons, List.sum_cons]

/-- The key under which a pattern has its parts. -/
def partKey (kind : String) : String :=
  if kind = "ObjectPattern" then "properties"
  else if kind = "ArrayPattern" then "elements"
  else if kind = "RestElement" then "argument"
  else "left"

theorem roleAt_partKey (hk : isPattern p.node.kind) (hm : p.mode?.isSome = true) :
    p.roleAt (partKey p.node.kind) = p.role.orWrites := by
  rw [Site.roleAt_eq hm]
  rcases hk with hk | hk | hk | hk <;> simp [Site.roleByKind, partKey, hk]

/-- The names that a pattern declares are those of its parts. -/
theorem sum_boundNodes {t : Tree} (h : t.WellFormed) (hk : isPattern t.kind) (g : Tree → Nat) :
    (t.partNames.map g).sum = t.sumAt (fun _ c => (c.partNames.map g).sum) (partKey t.kind) := by
  have hone {key : String} (hs : Tree.fieldSort t.kind key = some .expression) :
      ((t.get key).boundNodes.map g).sum = t.sumAt (fun _ c => (c.partNames.map g).sum) key := by
    rw [h.sumAt_node hs, (h.held hs).partNames_eq]
  rcases hk with hk | hk | hk | hk
  all_goals
    rw [Tree.partNames_eq (by simp [hk]) (by simp [hk]), Tree.boundNodes_eq h]
    simp only [hk, partKey, String.reduceEq, if_true, if_false]
  · have hs : Tree.fieldSort t.kind "properties" = some (.nodes isPropertyPatternKind) := by
      rw [hk]; rfl
    rw [sum_flatMap, h.sumAt_nodes hs]
  · have hs : Tree.fieldSort t.kind "elements" = some (.holes isExpressionKind) := by
      rw [hk]; rfl
    obtain ⟨items, hv, hi⟩ := h.held hs
    rw [sum_flatMap, Tree.sumAt, Tree.nodesAt_of_list (Tree.holdsChildren_of_fieldSort hs) hv, hv,
      Tree.items_list]
    clear hv
    induction items with
    | nil => rfl
    | cons c rest ih =>
      have ih := ih fun c hc => hi c (List.mem_cons_of_mem _ hc)
      rw [List.map_cons, List.sum_cons, ih, List.filter_cons]
      rcases hi c List.mem_cons_self with rfl | hc
      · rw [if_neg (by simp [Tree.isNode, Tree.isObj]), Tree.boundNodes, Tree.boundWithin_null]
        exact Nat.zero_add _
      · rw [if_pos hc.isNode, List.map_cons, List.sum_cons, hc.partNames_eq]
  · have hs : Tree.fieldSort t.kind "argument" = some .expression := by
      rw [hk]; rfl
    exact hone hs
  · have hs : Tree.fieldSort t.kind "left" = some .expression := by
      rw [hk]; rfl
    exact hone hs

/-- What is reserved in a pattern is reserved in its parts. -/
theorem reserved_pattern (h : p.Fit) (hk : isPattern p.node.kind) (hm : p.mode?.isSome = true)
    (φ : Event → Nat) : p.reserved φ = p.reservedAt φ (partKey p.node.kind) := by
  have hfit := h.2
  have hkey := roleAt_partKey hk hm
  cases hr : p.role with
  | reads =>
    rw [p.reserved_eq_zero φ (.inl hr), p.reservedAt_eq_zero φ (.inr (.inl (by rw [hkey, hr]; rfl)))]
  | writes =>
    rw [p.reserved_eq_zero φ (.inr (.inl hr)),
      p.reservedAt_eq_zero φ (.inr (.inl (by rw [hkey, hr]; rfl)))]
  | binds home initializes =>
    rw [Site.reserved, hr]
    dsimp only
    rw [sum_boundNodes h.1 hk, Site.reservedAt, Tree.sumAt, Tree.sumAt]
    simp only [Site.reserved, Site.below, hkey, hr, NameRole.orWrites]
  | declarator home =>
    rw [hr] at hfit
    rcases hk with hk | hk | hk | hk <;> simp [hk] at hfit
  | body =>
    rw [hr] at hfit
    rcases hk with hk | hk | hk | hk <;> simp [hk] at hfit
  | _ => simp [Site.mode?, hr] at hm

theorem reports_pattern (h : Agrees frames v p) (hn : v.scope < next)
    (hk : p.node.kind = "ObjectPattern" ∨ p.node.kind = "ArrayPattern" ∨ p.node.kind = "RestElement") :
    Reports frames p next { below := allChildren p.node v.scope v.mode.orAssigns } := by
  have hw := h.fit.1
  have hpattern : isPattern p.node.kind := by
    rcases hk with hk | hk | hk <;> simp [isPattern, hk]
  have hs : schema p.node.kind = some [(partKey p.node.kind,
      if p.node.kind = "ObjectPattern" then .nodes isPropertyPatternKind
      else if p.node.kind = "ArrayPattern" then .holes isExpressionKind else .expression)] := by
    rcases hk with hk | hk | hk <;> rw [hk] <;> rfl
  have hopened : p.openedKinds = [] := by
    rcases hk with hk | hk | hk <;> simp [Site.openedKinds, hk]
  have hevents : p.events = [] := by
    rcases hk with hk | hk | hk <;>
      exact events_of_openedKinds hopened (by simp [hk]) (by simp [hk])
  have hrole (key : String) : p.roleAt key = p.role.orWrites := by
    rw [h.roleAt]
    rcases hk with hk | hk | hk <;> simp [Site.roleByKind, hk]
  refine reports_all h ?_ ?_ trivial (by simpa using hn) ?_ ?_ ?_ ?_
  · rcases hk with hk | hk | hk <;> simp [hk]
  · rcases hk with hk | hk | hk <;> simp [hk]
  · intro _ key
    rw [framesAt_of_openedKinds hopened, h.around]
  · intro slot c _
    rw [hrole]
    exact takes_part h hpattern c
  · intro φ
    have hsum := hw.sum_slots (g := fun key c => (p.below key c).reserved φ) hs
    rw [hsum, reserved_pattern h.fit hpattern h.mode?_isSome]
    exact (Nat.add_zero _).symm
  · intro _ φ
    rw [hevents]
    rfl

theorem reports_fallback (h : Agrees frames v p) (hn : v.scope < next)
    (hk : p.node.kind = "AssignmentPattern") :
    ∃ f, visitFallback p.node v.scope v.mode = .ok f ∧ Reports frames p next f := by
  have hw := h.fit.1
  have hpattern : isPattern p.node.kind := .inr (.inr (.inr hk))
  have hs : schema p.node.kind = some [("left", .expression), ("right", .expression)] := by
    rw [hk]; rfl
  have left : Tree.fieldSort p.node.kind "left" = some .expression := by rw [hk]; rfl
  have right : Tree.fieldSort p.node.kind "right" = some .expression := by rw [hk]; rfl
  have hopened : p.openedKinds = [] := by simp [Site.openedKinds, hk]
  have hframes := framesAt_of_openedKinds hopened
  have hevents := events_of_openedKinds hopened (by simp [hk]) (by simp [hk])
  have hleft : p.roleAt "left" = p.role.orWrites := by
    simp [h.roleAt, Site.roleByKind, hk]
  have hright : p.roleAt "right" = .reads := by
    simp [h.roleAt, Site.roleByKind, hk]
  have hreserved (φ : Event → Nat) : p.reserved φ = p.reservedAt φ "left" := by
    rw [reserved_pattern h.fit hpattern h.mode?_isSome, hk]
    rfl
  refine ⟨_, ?_, reports_takes h (by simp [hk]) (by simp [hk]) hs []
    [("left", v.scope, v.mode.orAssigns), ("right", v.scope, .normal)] trivial ?_ ?_ ?_ ?_⟩
  · simp only [visitFallback, part_node hw left, part_node hw right, ok_bind, List.flatMap_cons,
      List.flatMap_nil, List.append_nil]
    rfl
  · simpa using hn
  · simp [hframes, h.around]
  · simp only [List.forall_mem_cons, hleft, hright]
    exact ⟨fun c _ => takes_part h hpattern c, fun c _ => rfl, by simp⟩
  · intro _ φ
    simp [hevents, hreserved, p.reservedAt_eq_zero φ (.inl hright)]

end Reports

end ScopeTree

end Deminify
