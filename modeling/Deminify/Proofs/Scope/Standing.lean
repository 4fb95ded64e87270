import Deminify.Proofs.Scope.Declarers

/-!
# Where statements and calls stand

Besides names, the scopes of a program know in which scope a node stands (`Deminify.ScopeTree.scopeFor`). A note of the
walk comes from the visit of a site (`Deminify.ScopeTree.ComesFrom`), and what is noted there suits the node: only a
node that opens a scope, or a block that shares one, is given another scope than that of its site. Hence **a node that
does neither is known to stand where it stands** (`Deminify.ScopeTree.Tells.framesAround_scopeFor`), if a scope is known
for it at all; and one is known for a declaration of which a declarator declares a binding
(`Deminify.ScopeTree.Tells.exists_node`), because it has been visited.
-/

namespace Deminify

/-- The node that a field must hold. -/
theorem Tree.WellFormed.get_mem_children {t : Tree} (h : t.WellFormed) {key : String} {kinds : String → Bool}
    (hs : fieldSort t.kind key = some (.node kinds)) : t.get key ∈ t.children := by
  have hin : t.get key ∈ t.nodesAt key := by
    rw [nodesAt_of_is (holdsChildren_of_fieldSort hs) (h.held hs)]
    exact List.mem_singleton_self _
  obtain ⟨slot, -, hslot⟩ := ScopeTree.mem_slots_of_mem_nodesAt hin
  exact mem_children_of_mem_slots hslot

/-- A node in a list that a field must hold. -/
theorem Tree.WellFormed.mem_children_of_items {t c : Tree} (h : t.WellFormed) {key : String} {kinds : String → Bool}
    (hs : fieldSort t.kind key = some (.nodes kinds)) (hc : c ∈ (t.get key).items) : c ∈ t.children := by
  obtain ⟨slot, -, hslot⟩ := ScopeTree.mem_slots_of_mem_nodesAt (h.nodesAt_nodes hs ▸ hc)
  exact mem_children_of_mem_slots hslot

/-- Whether a node can be what declares a name where another is visited: it is that node or part of it, and if it is a
declarator, the other is its declaration. -/
def Tree.Declares (node t : Tree) : Prop :=
  node ∈ t.subtree ∧ (node.kind = "VariableDeclarator" →
    t.kind = "VariableDeclaration" ∧ node ∈ (t.get "declarations").items)

namespace ScopeTree

/-! ### Where notes come from -/

/-- **Where a note comes from**: the visit of a site of the program, whose scope is noted, too. -/
def ComesFrom (frames : Nat → List Frame) (program : Tree) (notes : List Note) (n : Note) : Prop :=
  ∃ v p f next, Stands program p ∧ Agrees frames v p ∧ visit v next = .ok f ∧
    (n = .stands v.node.label v.scope ∨ n ∈ f.notes) ∧ Note.stands v.node.label v.scope ∈ notes

section Walk

variable {frames : Nat → List Frame} {program : Tree} {notes : List Note}

theorem ComesFrom.mono {n : Note} (h : ComesFrom frames program notes n) {notes' : List Note}
    (hsub : notes ⊆ notes') : ComesFrom frames program notes' n := by
  obtain ⟨v, p, f, next, hp, ha, hf, hn, hs⟩ := h
  exact ⟨v, p, f, next, hp, ha, hf, hn, hsub hs⟩

/-- By induction on the fuel, and on the visits at one level. -/
theorem comesFrom_of_walk {fuel : Nat} {visits : List Visit} {next : Nat} {site : Visit → Site}
    (hs : ∀ v ∈ visits, v.scope < next) (ha : ∀ v ∈ visits, Agrees frames v (site v))
    (hp : ∀ v ∈ visits, Stands program (site v)) (hw : walk fuel visits next = .ok notes)
    (hf : Framed frames next notes) : ∀ n ∈ notes, ComesFrom frames program notes n := by
  induction fuel generalizing visits next site notes with
  | zero =>
    cases hw
    exact List.forall_mem_nil _
  | succ fuel ih =>
    rw [walk] at hw
    induction visits generalizing next notes with
    | nil =>
      cases hw
      exact List.forall_mem_nil _
    | cons v rest ihr =>
      have hv := hs v List.mem_cons_self
      obtain ⟨f, hfound, hr⟩ := reports_visit (ha v List.mem_cons_self) hv
      rw [walkEach, hfound, ok_bind] at hw
      obtain ⟨inner, hi, hw⟩ := bind_eq_ok.mp hw
      obtain ⟨after, hafter, hw⟩ := bind_eq_ok.mp hw
      obtain rfl := (Except.ok.inj hw).symm
      obtain ⟨hfhere, hfafter⟩ := framed_append.mp hf
      replace hfhere : Framed frames next (f.notes ++ inner) := hfhere
      rw [framed_append] at hfhere
      have hbelow := ih hr.scopes (hr.agrees hfhere.1)
        (fun w hw => (hp v List.mem_cons_self).trans (hr.reached w hw)) hi hfhere.2
      have hrest := ihr (fun w hw => Nat.lt_add_right _ (hs w (List.mem_cons_of_mem _ hw)))
        (fun w hw => ha w (List.mem_cons_of_mem _ hw)) (fun w hw => hp w (List.mem_cons_of_mem _ hw)) hafter hfafter
      have hhere {n : Note} (hn : n = .stands v.node.label v.scope ∨ n ∈ f.notes) :
          ComesFrom frames program (.stands v.node.label v.scope :: f.notes ++ inner ++ after) n :=
        ⟨v, site v, f, next, hp v List.mem_cons_self, ha v List.mem_cons_self, hfound, hn, List.mem_cons_self⟩
      intro n hn
      rcases List.mem_append.mp hn with hn | hn
      · rcases List.mem_append.mp hn with hn | hn
        · exact hhere (List.mem_cons.mp hn)
        · exact (hbelow n hn).mono fun m hm => List.mem_append_left _ (List.mem_append_right _ hm)
      · exact (hrest n hn).mono fun m hm => List.mem_append_right _ hm

/-- The notes of a program. -/
theorem Tells.comesFrom (h : Tells program notes) (hp : program.Is (· == "Program"))
    (hw : walk program.height (allChildren program 0 .normal) 1 = .ok notes) :
    ∀ n ∈ notes, ComesFrom (declared program.label notes).framesAround program notes n := by
  obtain ⟨hnested, hextends, hframed⟩ := (nested_opening program.label).carryOutAll h.bounded
  have hroot : (opening program.label).shape 0 = some (⟨program.label, "program"⟩, none) := rfl
  have h0 : (declared program.label notes).framesAround 0 = [⟨program.label, "program"⟩] := by
    rw [declared, hnested.framesAround_eq (hextends 0 _ hroot)]
    rfl
  refine comesFrom_of_walk (scope_allChildren program) (agrees_allChildren hp h0) (fun v hv => ?_) hw hframed
  obtain ⟨x, hx, rfl⟩ := List.mem_map.mp hv
  exact .step hx (.refl _)

end Walk

/-! ### What is noted at a node -/

/-- **Whether a note suits the node at which it is made.** -/
def Note.Suits (t : Tree) : Note → Prop
  | .stands _ _ => False
  | .shares l _ => ∃ b ∈ t.children, b.label = l ∧ b.kind = "BlockStatement"
  | .declares _ _ _ _ _ node => node.Declares t
  | .opens .. | .uses _ => True

section Suits

variable {t : Tree} {scope next : Nat} {f : Finding} {notes : List Note}

theorem forall_of_mapM {α β : Type} {g : α → Except Failure β} {P : β → Prop} {xs : List α} {ys : List β}
    (h : xs.mapM g = .ok ys) (hg : ∀ x ∈ xs, ∀ y, g x = .ok y → P y) : ∀ y ∈ ys, P y := by
  induction xs generalizing ys with
  | nil =>
    cases h
    exact List.forall_mem_nil _
  | cons x rest ih =>
    rw [List.mapM_cons] at h
    obtain ⟨y, hy, h⟩ := bind_eq_ok.mp h
    obtain ⟨ys, hys, h⟩ := bind_eq_ok.mp h
    cases h
    intro z hz
    rcases List.mem_cons.mp hz with rfl | hz
    · exact hg x List.mem_cons_self _ hy
    · exact ih hys (fun x hx => hg x (List.mem_cons_of_mem _ hx)) z hz

/-- A node declares for itself, unless a declaration does it. -/
theorem declares_self (h : t.kind ≠ "VariableDeclarator") : t.Declares t :=
  ⟨Tree.mem_subtree_self t, fun he => absurd he h⟩

/-- The note of a name that is declared suits the node that declares it. -/
theorem suits_declaring {hoisted : Bool} {name node : Tree} {kind : String} {n : Note}
    (h : declaring scope hoisted name kind node = .ok n)
    (hnode : node.Declares t) :
    n.Suits t := by
  obtain ⟨x, -, h⟩ := bind_eq_ok.mp h
  cases h
  exact hnode

/-- The notes of a pattern suit the node that declares its names. -/
theorem suits_declaringPattern {hoisted : Bool} {pattern node : Tree} {kind : String}
    (h : declaringPattern scope hoisted pattern kind node = .ok notes)
    (hnode : node.Declares t) :
    ∀ n ∈ notes, n.Suits t := by
  obtain ⟨names, -, h⟩ := bind_eq_ok.mp h
  exact forall_of_mapM h fun name _ n hn => suits_declaring hn hnode

/-- The note of a use suits every node. -/
theorem suits_using {name : Tree} {parent : Nat × String} {writes : Bool} {n : Note}
    (h : using_ name parent scope writes = .ok n) : n.Suits t := by
  obtain ⟨x, -, h⟩ := bind_eq_ok.mp h
  cases h
  trivial

theorem suits_namingFunction {kind : String} (hk : t.kind ≠ "VariableDeclarator")
    (h : namingFunction t kind scope next = .ok notes) : ∀ n ∈ notes, n.Suits t := by
  rw [namingFunction] at h
  split at h
  · obtain ⟨n, hn, h⟩ := bind_eq_ok.mp h
    cases h
    simpa using suits_declaring hn (declares_self hk)
  · split at h
    · obtain ⟨n, hn, h⟩ := bind_eq_ok.mp h
      cases h
      simpa [Note.Suits] using suits_declaring hn (declares_self hk)
    · cases h
      exact List.forall_mem_nil _

/-- What is noted at a function suits it. -/
theorem suits_visitFunction (hw : t.WellFormed) {kind : String}
    (hk : t.kind = "FunctionDeclaration" ∨ t.kind = "FunctionExpression" ∨ t.kind = "ArrowFunctionExpression")
    (h : visitFunction t kind scope next = .ok f) : ∀ n ∈ f.notes, n.Suits t := by
  have hne : t.kind ≠ "VariableDeclarator" := by rcases hk with hk | hk | hk <;> simp [hk]
  obtain ⟨kinds, hbody⟩ : ∃ kinds, Tree.fieldSort t.kind "body" = some (.node kinds) := by
    rcases hk with hk | hk | hk <;> rw [hk] <;> exact ⟨_, rfl⟩
  have his := hw.held hbody
  simp only [visitFunction, bind_eq_ok] at h
  obtain ⟨named, hnamed, params, -, bound, hbound, body, hget, kind', hkind, h⟩ := h
  cases h
  rw [hw.field_eq hbody] at hget
  cases hget
  obtain rfl := kind_of_kindOf his.2 hkind
  intro n hn
  dsimp only at hn
  rw [List.append_assoc, List.mem_append, List.mem_append, List.mem_cons] at hn
  rcases hn with hn | (rfl | hn) | hn
  · exact suits_namingFunction hne hnamed n hn
  · trivial
  · obtain ⟨part, hpart, hn⟩ := List.mem_flatten.mp hn
    exact forall_of_mapM (P := fun part => ∀ n ∈ part, n.Suits t) hbound
      (fun p _ part h => suits_declaringPattern h (declares_self hne)) part hpart n hn
  · split at hn
    · rename_i hblock
      rw [List.mem_singleton] at hn
      subst hn
      exact ⟨_, hw.get_mem_children hbody, rfl, beq_iff_eq.mp hblock⟩
    · cases hn

/-- What is noted at a class suits it. -/
theorem suits_visitClass {kind : String} (hk : t.kind ≠ "VariableDeclarator")
    (h : visitClass t kind scope next = .ok f) : ∀ n ∈ f.notes, n.Suits t := by
  simp only [visitClass, bind_eq_ok] at h
  obtain ⟨named, hnamed, body, -, h⟩ := h
  cases h
  intro n hn
  rcases List.mem_cons.mp hn with rfl | hn
  · trivial
  rw [namingClass] at hnamed
  split at hnamed
  · split at hnamed
    all_goals
      obtain ⟨m, hm, hnamed⟩ := bind_eq_ok.mp hnamed
      cases hnamed
      obtain rfl := List.mem_singleton.mp hn
      exact suits_declaring hm (declares_self hk)
  · cases hnamed
    cases hn

/-- What is noted at a declaration suits its declarators. -/
theorem suits_visitDeclaration (hk : t.kind = "VariableDeclaration") (hw : t.WellFormed)
    (h : visitDeclaration t scope = .ok f) : ∀ n ∈ f.notes, n.Suits t := by
  have declarations : Tree.fieldSort t.kind "declarations" = some (.nodes (· == "VariableDeclarator")) := by
    rw [hk]
    rfl
  simp only [visitDeclaration, bind_eq_ok] at h
  obtain ⟨kind, -, declarators, hget, bound, hbound, h⟩ := h
  cases h
  rw [hw.listField_eq declarations] at hget
  cases hget
  intro n hn
  obtain ⟨part, hpart, hn⟩ := List.mem_flatten.mp hn
  refine forall_of_mapM (P := fun part => ∀ n ∈ part, n.Suits t) hbound (fun d hd part hpart => ?_) part hpart n hn
  obtain ⟨id, -, hpart⟩ := bind_eq_ok.mp hpart
  refine suits_declaringPattern hpart ⟨?_, fun _ => ⟨hk, hd⟩⟩
  exact Tree.subtree_subset_of_mem_children (hw.mem_children_of_items declarations hd) (Tree.mem_subtree_self d)

/-- What is noted at a handler suits it. -/
theorem suits_visitCatch (hk : t.kind = "CatchClause") (hw : t.WellFormed)
    (h : visitCatch t scope next = .ok f) : ∀ n ∈ f.notes, n.Suits t := by
  have hbody : Tree.fieldSort t.kind "body" = some (.node (· == "BlockStatement")) := by
    rw [hk]
    rfl
  obtain ⟨bound, hbound, hnotes⟩ : ∃ bound, (bound = [] ∨
      declaringPattern next false (t.get "param") "catch" t = .ok bound) ∧
        f.notes = Note.opens "catch" t.label scope :: bound ++ [Note.shares (t.get "body").label next] := by
    rw [visitCatch] at h
    split at h
    · obtain ⟨bound, hbound, h⟩ := bind_eq_ok.mp h
      dsimp only at h
      rw [hw.field_eq hbody, ok_bind] at h
      cases h
      exact ⟨bound, .inr hbound, rfl⟩
    · rw [hw.field_eq hbody] at h
      cases h
      exact ⟨[], .inl rfl, rfl⟩
  intro n hn
  rw [hnotes, List.mem_append, List.mem_cons, List.mem_singleton] at hn
  rcases hn with (rfl | hn) | rfl
  · trivial
  · rcases hbound with rfl | hbound
    · cases hn
    · exact suits_declaringPattern hbound (declares_self (by simp [hk])) n hn
  · exact ⟨_, hw.get_mem_children hbody, rfl, beq_iff_eq.mp (hw.held hbody).kinds⟩

/-- What is noted at an import suits its specifiers. -/
theorem suits_visitImport (hk : t.kind = "ImportDeclaration") (hw : t.WellFormed)
    (h : visitImport t = .ok f) : ∀ n ∈ f.notes, n.Suits t := by
  have specifiers : Tree.fieldSort t.kind "specifiers" = some (.nodes isImportNameKind) := by
    rw [hk]
    rfl
  simp only [visitImport, bind_eq_ok] at h
  obtain ⟨bound, hbound, h⟩ := h
  cases h
  refine forall_of_mapM hbound fun s hs n hn => ?_
  obtain ⟨name, -, hn⟩ := bind_eq_ok.mp hn
  have hin := Tree.subtree_subset_of_mem_children (hw.mem_children_of_items specifiers hs) (Tree.mem_subtree_self s)
  refine suits_declaring hn ⟨hin, fun he => ?_⟩
  have hkind := (hw.held_items specifiers s hs).kinds
  rw [he] at hkind
  cases hkind

theorem suits_opens {kind : String} {l : Nat} : ∀ n ∈ [Note.opens kind l scope], n.Suits t := by
  simp [Note.Suits]

theorem suits_visitBlock {mode : Mode} (h : visitBlock t scope next mode = .ok f) : ∀ n ∈ f.notes, n.Suits t := by
  rw [visitBlock] at h
  split at h
  · cases h
    exact List.forall_mem_nil _
  · cases h
    exact suits_opens

theorem suits_visitLoopOver (h : visitLoopOver t scope next = .ok f) : ∀ n ∈ f.notes, n.Suits t := by
  simp only [visitLoopOver, bind_eq_ok] at h
  obtain ⟨_, -, _, -, _, -, _, -, h⟩ := h
  cases h
  exact suits_opens

theorem suits_visitSwitch (h : visitSwitch t scope next = .ok f) : ∀ n ∈ f.notes, n.Suits t := by
  simp only [visitSwitch, bind_eq_ok] at h
  obtain ⟨_, -, _, -, h⟩ := h
  cases h
  exact suits_opens

/-! Nothing is noted at these. -/

theorem notes_visitExport (h : visitExport t scope = .ok f) : f.notes = [] := by
  rw [visitExport] at h
  split at h
  · obtain ⟨_, -, h⟩ := bind_eq_ok.mp h
    cases h
    rfl
  · cases h
    rfl

theorem notes_visitMember (h : visitMember t scope = .ok f) : f.notes = [] := by
  obtain ⟨_, -, h⟩ := bind_eq_ok.mp h
  split at h
  · obtain ⟨_, -, h⟩ := bind_eq_ok.mp h
    cases h
    rfl
  · cases h
    rfl

theorem notes_visitProperty {mode : Mode} (h : visitProperty t scope mode = .ok f) : f.notes = [] := by
  rw [visitProperty] at h
  split at h
  · obtain ⟨_, -, h⟩ := bind_eq_ok.mp h
    cases h
    rfl
  · cases h
    rfl

theorem notes_visitFallback {mode : Mode} (h : visitFallback t scope mode = .ok f) : f.notes = [] := by
  simp only [visitFallback, bind_eq_ok] at h
  obtain ⟨_, -, _, -, h⟩ := h
  cases h
  rfl

theorem notes_visitAssignment (h : visitAssignment t scope = .ok f) : f.notes = [] := by
  simp only [visitAssignment, bind_eq_ok] at h
  obtain ⟨_, -, _, -, _, -, _, -, h⟩ := h
  cases h
  rfl

theorem notes_visitUpdate (h : visitUpdate t scope = .ok f) : f.notes = [] := by
  simp only [visitUpdate, bind_eq_ok] at h
  obtain ⟨_, -, _, -, _, -, h⟩ := h
  cases h
  rfl

theorem suits_visitTag (h : visitTag t scope = .ok f) : ∀ n ∈ f.notes, n.Suits t := by
  simp only [visitTag, bind_eq_ok] at h
  obtain ⟨name, -, notes, hnotes, h⟩ := h
  cases h
  simp only [usingTagName, bind_eq_ok] at hnotes
  obtain ⟨kind, -, hnotes⟩ := hnotes
  split at hnotes
  · obtain ⟨text, -, hnotes⟩ := bind_eq_ok.mp hnotes
    split at hnotes
    · cases hnotes
      exact List.forall_mem_nil _
    · obtain ⟨n, hn, hnotes⟩ := bind_eq_ok.mp hnotes
      cases hnotes
      simpa using suits_using hn
  · obtain ⟨access, -, hnotes⟩ := bind_eq_ok.mp hnotes
    obtain ⟨root, -, hnotes⟩ := bind_eq_ok.mp hnotes
    obtain ⟨kind', -, hnotes⟩ := bind_eq_ok.mp hnotes
    split at hnotes
    · cases hnotes
      exact List.forall_mem_nil _
    · obtain ⟨text, -, hnotes⟩ := bind_eq_ok.mp hnotes
      split at hnotes
      · cases hnotes
        exact List.forall_mem_nil _
      · obtain ⟨n, hn, hnotes⟩ := bind_eq_ok.mp hnotes
        cases hnotes
        simpa using suits_using hn
  · cases hnotes
    exact List.forall_mem_nil _

/-- **What a visit notes suits the node.** -/
theorem suits_visit {v : Visit} (hw : v.node.WellFormed) (h : visit v next = .ok f) :
    ∀ n ∈ f.notes, n.Suits v.node := by
  simp only [visit, hw.kindOf_eq, ok_bind] at h
  -- one case for each branch of the visit, in its order; most of them note nothing
  split at h <;> rename_i hk
  · rw [visitName] at h
    split at h
    · obtain ⟨n, hn, h⟩ := bind_eq_ok.mp h
      cases h
      simpa using suits_using hn
    · obtain ⟨n, hn, h⟩ := bind_eq_ok.mp h
      cases h
      simpa using suits_using hn
    · cases h
      exact List.forall_mem_nil _
  · exact suits_visitDeclaration hk hw h
  · simp only [visitDeclarator, bind_eq_ok] at h
    obtain ⟨_, -, h⟩ := h
    cases h
    exact List.forall_mem_nil _
  · exact suits_visitFunction hw (.inl hk) h
  · exact suits_visitFunction hw (.inr (.inl hk)) h
  · exact suits_visitFunction hw (.inr (.inr hk)) h
  · exact suits_visitClass (by simp [hk]) h
  · exact suits_visitClass (by simp [hk]) h
  · exact suits_visitBlock h
  · exact suits_visitBlock h
  · cases h
    exact suits_opens
  · exact suits_visitLoopOver h
  · exact suits_visitLoopOver h
  · exact suits_visitCatch hk hw h
  · exact suits_visitSwitch h
  · exact suits_visitImport hk hw h
  · rw [notes_visitExport h]
    exact List.forall_mem_nil _
  · cases h
    exact List.forall_mem_nil _
  · rw [notes_visitMember h]
    exact List.forall_mem_nil _
  · rw [notes_visitProperty h]
    exact List.forall_mem_nil _
  · rw [notes_visitProperty h]
    exact List.forall_mem_nil _
  · rw [notes_visitProperty h]
    exact List.forall_mem_nil _
  · cases h
    exact List.forall_mem_nil _
  · cases h
    exact List.forall_mem_nil _
  · cases h
    exact List.forall_mem_nil _
  · rw [notes_visitFallback h]
    exact List.forall_mem_nil _
  · rw [notes_visitAssignment h]
    exact List.forall_mem_nil _
  · rw [notes_visitUpdate h]
    exact List.forall_mem_nil _
  · obtain ⟨_, -, h⟩ := bind_eq_ok.mp h
    cases h
    exact List.forall_mem_nil _
  · cases h
    exact List.forall_mem_nil _
  · cases h
    exact List.forall_mem_nil _
  · cases h
    exact List.forall_mem_nil _
  · exact suits_visitTag h
  · exact suits_visitTag h
  · cases h
    exact List.forall_mem_nil _
  · cases h
    exact List.forall_mem_nil _

end Suits

/-! ### The scopes that are known -/

section ScopeOf

variable {s : ScopeTree} {l k : Nat}

theorem scopeOf_declare (id label : Nat) (name kind : String) (node : Option Tree) :
    (s.declare id label name kind node).1.scopeOf = s.scopeOf := by
  unfold declare
  split
  · rfl
  · dsimp only
    split <;> rfl

theorem scopeOf_addReference (label : Nat) (name : String) (id : Nat) (parent : Option (Nat × String))
    (writes : Bool) : (s.addReference label name id parent writes).1.scopeOf = s.scopeOf := by
  unfold addReference
  cases parent <;> dsimp only <;> split <;> first | rfl | (split <;> rfl)

/-- A node whose scope is set has that one. -/
theorem scopeFor_insert {scope : Nat} : (s.setScope l scope).scopeFor k = if l = k then some scope else s.scopeFor k :=
  get?_insert

/-- A node that opens a scope has that one. -/
theorem scopeFor_opens {kind : String} {node parent : Nat} : (s.carryOut (.opens kind node parent)).scopeFor l =
    if node = l then some s.scopes.size else s.scopeFor l := get?_insert

/-- Where the scope that is known of a node comes from. -/
theorem scopeFor_carryOut {n : Note} (h : (s.carryOut n).scopeFor l = some k) : s.scopeFor l = some k ∨
    n = .stands l k ∨ (∃ kind parent, n = .opens kind l parent) ∨ n = .shares l k := by
  cases n with
  | opens kind node parent =>
    rw [scopeFor_opens] at h
    split at h
    · rename_i he
      exact .inr (.inr (.inl ⟨kind, parent, he ▸ rfl⟩))
    · exact .inl h
  | stands label scope =>
    rw [carryOut] at h
    split at h
    · exact .inl h
    · rw [scopeFor_insert] at h
      split at h
      · rename_i he
        cases h
        exact .inr (.inl (he ▸ rfl))
      · exact .inl h
  | shares label scope =>
    rw [carryOut, scopeFor_insert] at h
    split at h
    · rename_i he
      cases h
      exact .inr (.inr (.inr (he ▸ rfl)))
    · exact .inl h
  | declares scope hoisted label name kind node =>
    rw [carryOut, scopeFor, scopeOf_declare] at h
    exact .inl h
  | uses use => exact .inl h

/-- The scope of a node is noted where the node stands, opens one or shares one. -/
theorem scopeFor_carryOutAll {notes : List Note} (h : (notes.foldl carryOut s).scopeFor l = some k) :
    s.scopeFor l = some k ∨ .stands l k ∈ notes ∨ (∃ kind parent, .opens kind l parent ∈ notes) ∨
      .shares l k ∈ notes := by
  induction notes generalizing s with
  | nil => exact .inl h
  | cons n rest ih =>
    rcases ih h with h | h | ⟨kind, parent, h⟩ | h
    · rcases scopeFor_carryOut h with h | rfl | ⟨kind, parent, rfl⟩ | rfl
      · exact .inl h
      · exact .inr (.inl List.mem_cons_self)
      · exact .inr (.inr (.inl ⟨kind, parent, List.mem_cons_self⟩))
      · exact .inr (.inr (.inr List.mem_cons_self))
    · exact .inr (.inl (List.mem_cons_of_mem _ h))
    · exact .inr (.inr (.inl ⟨kind, parent, List.mem_cons_of_mem _ h⟩))
    · exact .inr (.inr (.inr (List.mem_cons_of_mem _ h)))

/-- A node whose scope is known keeps one. -/
theorem isSome_scopeFor_carryOut (n : Note) (h : (s.scopeFor l).isSome = true) :
    ((s.carryOut n).scopeFor l).isSome = true := by
  cases n with
  | opens kind node parent =>
    rw [scopeFor_opens]
    split
    · rfl
    · exact h
  | stands label scope =>
    rw [carryOut]
    split
    · exact h
    · rw [scopeFor_insert]
      split
      · rfl
      · exact h
  | shares label scope =>
    rw [carryOut, scopeFor_insert]
    split
    · rfl
    · exact h
  | declares scope hoisted label name kind node =>
    rw [carryOut, scopeFor, scopeOf_declare]
    exact h
  | uses use => exact h

/-- A node that has been visited has a scope. -/
theorem isSome_scopeFor_carryOutAll {notes : List Note}
    (h : (s.scopeFor l).isSome = true ∨ ∃ k, .stands l k ∈ notes) :
    ((notes.foldl carryOut s).scopeFor l).isSome = true := by
  induction notes generalizing s with
  | nil =>
    rcases h with h | ⟨k, h⟩
    · exact h
    · cases h
  | cons n rest ih =>
    refine ih ?_
    rcases h with h | ⟨k, h⟩
    · exact .inl (isSome_scopeFor_carryOut n h)
    rcases List.mem_cons.mp h with rfl | h
    · refine .inl ?_
      rw [carryOut]
      split
      · rename_i hc
        rw [scopeFor, Std.TreeMap.get?_eq_getElem?, ← Std.TreeMap.contains_eq_isSome_getElem?]
        exact hc
      · rw [scopeFor_insert, if_pos rfl]
        rfl
    · exact .inr ⟨k, h⟩

theorem scopeOf_resolveAll (uses : List Use) : (uses.foldl resolve s).scopeOf = s.scopeOf := by
  induction uses generalizing s with
  | nil => rfl
  | cons u rest ih => rw [List.foldl_cons, ih, resolve, scopeOf_addReference]

end ScopeOf

/-! ### Nodes that declare -/

section Declarers

variable {s : ScopeTree} {P : Nat → Prop}

/-- The node that a binding is known by has declared a name. -/
theorem node_carryOutAll {notes : List Note} {b l : Nat}
    (h : ((notes.foldl carryOut s).binding b).node = some l) : (s.binding b).node = some l ∨
      ∃ scope hoisted label name kind node, .declares scope hoisted label name kind node ∈ notes ∧ node.label = l := by
  induction notes generalizing s with
  | nil => exact .inl h
  | cons n rest ih =>
    rcases ih h with h | ⟨scope, hoisted, label, name, kind, node, hn, hl⟩
    · by_cases hsame : (s.carryOut n).bindings = s.bindings
      · left
        rwa [binding, hsame] at h
      cases n with
      | declares scope hoisted label name kind node =>
        rw [carryOut] at h
        unfold declare at h
        split at h
        · simp only [binding, editScope, Array.getElem?_push] at h
          split at h
          · right
            exact ⟨scope, hoisted, label, name, kind, node, List.mem_cons_self, by simpa using h⟩
          · exact .inl h
        · left
          dsimp only at h
          split at h
          · exact h
          · simp only [binding, editBinding, Array.getElem?_modify] at h
            rw [binding]
            split at h
            · cases hb : s.bindings[b]? <;> simp_all
            · exact h
      | stands label scope =>
        refine absurd ?_ hsame
        rw [carryOut]
        split <;> rfl
      | _ => exact absurd rfl hsame
    · exact .inr ⟨scope, hoisted, label, name, kind, node, List.mem_cons_of_mem _ hn, hl⟩

end Declarers

/-! ### A program -/

namespace Tells

variable {program : Tree} {notes : List Note} (h : Tells program notes) (hp : program.Is (· == "Program"))
  (hl : program.Labelled) (hw : walk program.height (allChildren program 0 .normal) 1 = .ok notes)

include h hp hl hw

/-- **A node that opens no scope and shares none stands where it is known to stand.** -/
theorem framesAround_scopeFor {q : Site} (hq : Stands program q) (hopened : q.openedKinds = [])
    (hblock : q.node.kind ≠ "BlockStatement") (hprogram : q.node.kind ≠ "Program") {k : Nat}
    (hk : (ofNotes program.label notes).scopeFor q.node.label = some k) :
    k < (declared program.label notes).scopes.size ∧
      (declared program.label notes).framesAround k = q.frames := by
  have hcomes := h.comesFrom hp hw
  have hsite {p : Site} (hp : Stands program p) (he : p.node.label = q.node.label) : p = q := hp.unique hl hq he
  rw [scopeFor, ofNotes, scopeOf_resolveAll] at hk
  rcases scopeFor_carryOutAll hk with hk | hk | ⟨kind, parent, hk⟩ | hk
  · have hstart : (opening program.label).scopeFor q.node.label = some k := hk
    rw [opening, scopeFor, newScope] at hstart
    dsimp only at hstart
    rw [get?_insert] at hstart
    split at hstart
    · rename_i he
      obtain rfl := hsite (.refl _) he
      exact absurd (beq_iff_eq.mp hp.kinds) hprogram
    · cases hstart
  · refine ⟨h.scope_lt hk, ?_⟩
    obtain ⟨v, p, f, next, hstands, ha, hf, hn, -⟩ := hcomes _ hk
    rcases hn with hn | hn
    · obtain ⟨hlabel, rfl⟩ := Note.stands.inj hn
      obtain rfl := hsite hstands (by rw [← ha.node, ← hlabel])
      exact ha.around
    · exact (suits_visit (ha.node ▸ ha.fit.1) hf _ hn).elim
  · have hopens : Event.opens ⟨q.node.label, kind⟩ ∈ eventsOf program.label notes :=
      List.mem_filterMap.mpr ⟨_, hk, rfl⟩
    obtain ⟨p, hstands, he⟩ := h.happens.mp hopens
    obtain ⟨kind', hm, he⟩ := List.mem_map.mp (mem_opened_of_mem_events he)
    obtain rfl := hsite hstands (congrArg Frame.node he)
    rw [hopened] at hm
    cases hm
  · obtain ⟨v, p, f, next, hstands, ha, hf, hn, -⟩ := hcomes _ hk
    rcases hn with hn | hn
    · cases hn
    · obtain ⟨b, hb, hlabel, hkind⟩ := suits_visit (ha.node ▸ ha.fit.1) hf _ hn
      rw [ha.node] at hb
      obtain ⟨x, hx, rfl⟩ := List.mem_map.mp hb
      obtain rfl := hsite (hstands.trans (.step hx (.refl _))) hlabel
      exact absurd hkind hblock

omit hl in
/-- **What has declared a binding is in the program**; if it is a declarator, its declaration has a scope. -/
theorem exists_node {b l : Nat} (hb : ((ofNotes program.label notes).binding b).node = some l) :
    ∃ c ∈ program.subtree, c.label = l ∧ (c.kind = "VariableDeclarator" → ∃ t ∈ program.subtree,
      t.kind = "VariableDeclaration" ∧ c ∈ (t.get "declarations").items ∧
        ((ofNotes program.label notes).scopeFor t.label).isSome = true) := by
  have hbare : ((declared program.label notes).binding b).node = some l :=
    (congrArg Binding.node (bare_resolveAll (notes.filterMap Note.use?) b)).symm.trans hb
  obtain hnone | ⟨scope, hoisted, label, name, kind, node, hn, rfl⟩ := node_carryOutAll hbare
  · simp [opening, newScope, binding, default, instInhabitedBinding.default] at hnone
  obtain ⟨v, p, f, next, hstands, ha, hf, hn, hvisited⟩ := h.comesFrom hp hw _ hn
  rcases hn with hn | hn
  · cases hn
  have hsuits : node.Declares v.node := suits_visit (ha.node ▸ ha.fit.1) hf _ hn
  rw [ha.node] at hsuits hvisited
  refine ⟨node, Tree.subtree_subset hstands.mem_subtree hsuits.1, rfl, fun hkind => ?_⟩
  obtain ⟨hk, hm⟩ := hsuits.2 hkind
  refine ⟨p.node, hstands.mem_subtree, hk, hm, ?_⟩
  rw [scopeFor, ofNotes, scopeOf_resolveAll]
  exact isSome_scopeFor_carryOutAll (.inr ⟨v.scope, hvisited⟩)

end Tells

end ScopeTree

end Deminify
