import Deminify.Proofs.DirectCall.Calls

/-!
# Names of required modules

A name is taken out of a required module by an object pattern next to the declaration of the module. In such a pattern
names are declared and nothing is used (`Deminify.Site.Declares.events`); in a new declaration with a pattern the one
use is that of the module (`Deminify.Reaches.use_of_declaration`), at the place of its declaration. **Taking a method
out keeps what is known of the program** (`Deminify.Rules.DirectCall.ends_requireLocal`).
-/

namespace Deminify

/-! ### Patterns that take names out of an object -/

/-- Whether a node is a name, or it takes names out of an object by names. -/
def Tree.IsPlainPattern (n : Tree) : Prop :=
  n.kind = "Identifier" ∨ n.kind = "ObjectPattern" ∨ n.kind = "Property" ∧ (n.get "computed").truthy = false

/-- Whether names are declared at a site, or they mean nothing. -/
def Site.Declares (p : Site) : Prop := (∃ home initializes, p.role = .binds home initializes) ∨ p.role = .inert

section Pattern

variable {p q : Site} {e : Event}

theorem Site.Declares.below (h : p.Declares) (hk : p.node.IsPlainPattern) (hne : p.node.kind ≠ "Identifier") (key : String)
    (c : Tree) : (p.below key c).Declares := by
  show (∃ home initializes, p.roleAt key = .binds home initializes) ∨ p.roleAt key = .inert
  rcases h with ⟨home, initializes, h⟩ | h
  · rcases hk with hk | hk | ⟨hk, hc⟩
    · exact absurd hk hne
    · refine .inl ⟨home, initializes, ?_⟩
      simp [Site.roleAt, Site.roleByKind, h, hk, NameRole.orWrites]
    · by_cases hkey : key = "key"
      · refine .inr ?_
        simp [Site.roleAt, Site.roleByKind, h, hk, hkey, hc]
      · refine .inl ⟨home, initializes, ?_⟩
        simp [Site.roleAt, Site.roleByKind, h, hk, hkey, NameRole.orReads]
  · exact .inr (by rw [Site.roleAt, h])

theorem Reaches.of_pattern (hq : Reaches p q) (h : p.Declares) (hf : ∀ n ∈ p.node.subtree, n.hasFields = true)
    (hk : ∀ n ∈ p.node.subtree, n.IsPlainPattern) : q.Declares ∧ q.node.IsPlainPattern := by
  induction hq with
  | refl p => exact ⟨h, hk _ (Tree.mem_subtree_self _)⟩
  | @step p q slot child hx _ ih =>
    have hchild := Tree.mem_children_of_mem_slots hx
    have hsub := Tree.subtree_subset_of_mem_children hchild
    refine ih (h.below (hk _ (Tree.mem_subtree_self _)) (fun hid => ?_) _ _) (fun n hn => hf n (hsub hn)) fun n hn =>
      hk n (hsub hn)
    rw [Tree.children_atom (hf _ (Tree.mem_subtree_self _)) (.inl hid)] at hchild
    cases hchild

/-- **In such a pattern names are declared**, and nothing else happens. -/
theorem Site.Declares.events (h : p.Declares) (hk : p.node.IsPlainPattern) (he : e ∈ p.events) :
    ∃ l x home initializes, e = .declares l x home initializes := by
  rcases hk with hk | hk | ⟨hk, -⟩
  · rw [Site.events, hk] at he
    rcases h with ⟨home, initializes, h⟩ | h <;> rw [h] at he
    · exact ⟨_, _, _, _, List.mem_singleton.mp he⟩
    · cases he
  all_goals
    have hopened : p.opened = [] := by simp [Site.opened, Site.openedKinds, hk]
    rw [Site.events, hk] at he
    simp [hopened] at he

end Pattern

/-! ### Declarators -/

theorem Site.declares_of_declarator {p : Site} {n : Tree} (hk : p.node.kind = "VariableDeclaration")
    (hn : n.kind = "VariableDeclarator") (c : Tree) : ((p.below "declarations" n).below "id" c).Declares := by
  have hrole : (∃ home, p.roleAt "declarations" = .declarator home) ∨ p.roleAt "declarations" = .inert := by
    simp only [Site.roleAt, Site.roleByKind, hk]
    cases p.role <;> simp
  show (∃ home initializes, (p.below "declarations" n).roleAt "id" = .binds home initializes) ∨
    (p.below "declarations" n).roleAt "id" = .inert
  rcases hrole with ⟨home, hrole⟩ | hrole
  · refine .inl ⟨home, !(n.get "init").isNull, ?_⟩
    have hq : (p.below "declarations" n).role = .declarator home := hrole
    have hqk : (p.below "declarations" n).node.kind = "VariableDeclarator" := hn
    simp only [Site.roleAt, Site.roleByKind, hq, hqk]
    rfl
  · have hq : (p.below "declarations" n).role = .inert := hrole
    exact .inr (by rw [Site.roleAt, hq])

/-- What is reached is the site itself, or it is below a child under a key of the kind. -/
theorem Reaches.eq_or_below {p q : Site} (hq : Reaches p q) (h : p.node.hasFields = true)
    {spec : List (String × FieldSort)} (hs : schema p.node.kind = some spec) : q = p ∨ ∃ key sort c,
      (key, sort) ∈ spec ∧ sort.admits c.kind = true ∧ c ∈ p.node.nodesAt key ∧ Reaches (p.below key c) q := by
  cases hq with
  | refl => exact .inl rfl
  | @step _ _ slot c hx hq =>
    obtain ⟨sort, hm, ha⟩ := Tree.admits_of_hasFields h hs hx
    exact .inr ⟨slot.key, sort, c, hm, ha, (Tree.mem_nodesAt_iff (Tree.distinct_of_hasFields h)).mpr ⟨slot, rfl, hx⟩, hq⟩

/-- What initializes a name is read, or it means nothing. -/
theorem Site.reads_of_declarator {p : Site} (hk : p.node.kind = "VariableDeclarator") (c : Tree) :
    (p.below "init" c).role = .reads ∨ (p.below "init" c).role = .inert := by
  show p.roleAt "init" = .reads ∨ p.roleAt "init" = .inert
  simp only [Site.roleAt, Site.roleByKind, hk]
  cases p.role <;> simp

/-- **The one use in a declaration that takes names out of an object** is that of the object. -/
theorem Reaches.use_of_declaration {p q : Site} {n : Tree} (hf : ∀ m ∈ p.node.subtree, m.hasFields = true)
    (hk : p.node.kind = "VariableDeclaration") (hn : (p.node.get "declarations").items = [n])
    (hplain : ∀ m ∈ (n.get "id").subtree, m.IsPlainPattern) (hinit : (n.get "init").kind = "Identifier")
    (hq : Reaches p q) {l : Nat} {y : String} {w : Bool} {frames : List Frame}
    (he : Event.use l y w frames ∈ q.events) :
    l = (n.get "init").label ∧ y = (((n.get "init").get "name").str?).getD "" ∧ frames = p.frames := by
  have hs : Tree.fieldSort p.node.kind "declarations" = some (.nodes (· == "VariableDeclarator")) := by
    rw [hk]
    rfl
  have hsub {r c : Tree} (hr : r ∈ p.node.subtree) {key : String} (hc : c ∈ r.nodesAt key) : c ∈ p.node.subtree :=
    Tree.subtree_subset hr (Tree.subtree_subset_of_mem_children
      (Tree.mem_children_of_nodesAt (hf r hr) hc) (Tree.mem_subtree_self c))
  have hself := Tree.mem_subtree_self p.node
  have hin : n ∈ p.node.nodesAt "declarations" := (Tree.mem_nodesAt_nodes (hf _ hself) hs).mpr (by rw [hn]; exact .head _)
  have hnin := hsub hself hin
  have hnk : n.kind = "VariableDeclarator" := by
    obtain ⟨items, hlist, hof⟩ := Tree.exists_list_of_nodes (hf _ hself) hs
    rw [hlist, Tree.items_list] at hn
    exact beq_iff_eq.mp (Tree.kinds_of_isOf (hof n (hn ▸ .head _)))
  -- down the declaration and its one declarator, neither of which is a use itself
  rcases hq.eq_or_below (hf _ hself) (by rw [hk]; rfl) with rfl | ⟨key, sort, c, hm, ha, hc, hq⟩
  · rw [Site.events, hk] at he
    simp [Site.opened, Site.openedKinds, hk] at he
  simp only [List.mem_cons, Prod.mk.injEq, List.not_mem_nil, or_false] at hm
  rcases hm with ⟨rfl, -⟩ | ⟨-, rfl⟩
  swap
  · cases ha
  rw [Tree.mem_nodesAt_nodes (hf _ hself) hs, hn, List.mem_singleton] at hc
  subst hc
  have hframes : (p.below "declarations" c).frames = p.frames := by
    show p.framesAt "declarations" = p.frames
    simp [Site.framesAt, Site.opened, Site.openedKinds, hk]
  rcases hq.eq_or_below (hf c hnin) (by rw [show (p.below "declarations" c).node.kind = _ from hnk]; rfl) with
    rfl | ⟨key, sort, m, hm, ha, hmc, hq⟩
  · rw [Site.events, show (p.below "declarations" c).node.kind = _ from hnk] at he
    simp [Site.opened, Site.openedKinds, show (p.below "declarations" c).node.kind = _ from hnk] at he
  have hmin := hsub hnin hmc
  simp only [List.mem_cons, Prod.mk.injEq, List.not_mem_nil, or_false] at hm
  rcases hm with ⟨rfl, -⟩ | ⟨rfl, -⟩
  -- in the pattern names are declared and none is used
  · obtain rfl := (Tree.mem_nodesAt_node (hf c hnin) (by rw [hnk]; rfl)).mp hmc
    obtain ⟨hdeclares, hplain⟩ := hq.of_pattern (p.declares_of_declarator hk hnk _)
      (fun m hm => hf m (Tree.subtree_subset hmin hm)) hplain
    obtain ⟨_, _, _, _, he⟩ := hdeclares.events hplain he
    cases he
  -- the value is a name, so that there is no place below it
  · obtain rfl : m = c.get "init" := by
      refine (Tree.mem_nodesAt hmc).2.2.resolve_right fun (hm : m ∈ (c.get "init").items) => ?_
      cases hv : c.get "init" with
      | list items =>
        rw [hv] at hinit
        exact absurd hinit (by rw [show (Tree.list items).kind = "" from rfl]; decide)
      | _ =>
        rw [hv] at hm
        cases hm
    obtain rfl : q = (p.below "declarations" c).below "init" (c.get "init") := by
      cases hq with
      | refl => rfl
      | step hslot _ =>
        have hm : _ ∈ (c.get "init").children := Tree.mem_children_of_mem_slots hslot
        rw [Tree.children_atom (hf _ hmin) (.inl hinit)] at hm
        cases hm
    obtain ⟨rfl, rfl, rfl, rfl⟩ :=
      Event.use.inj (Site.event_of_identifier (Site.reads_of_declarator hnk _) hinit he)
    refine ⟨rfl, rfl, ?_⟩
    show (p.below "declarations" c).framesAt "init" = p.frames
    have hck : (p.below "declarations" c).node.kind = "VariableDeclarator" := hnk
    simp [Site.framesAt, Site.opened, Site.openedKinds, hck, hframes]

/-- Whether a site of a program is that of an object pattern that declares names. -/
structure IsPattern (d : Document) (q : Site) : Prop where
  stands : Stands d.root q
  kind : q.node.kind = "ObjectPattern"
  declares : q.Declares

/-- A pattern to which a declarator gives a value declares names. -/
theorem isPattern_of_declarator {d : Document} (hd : d.InOrder) {t n : Tree} (ht : t ∈ d.root.subtree)
    (hk : t.kind = "VariableDeclaration") (hn : n ∈ (t.get "declarations").items)
    (hid : (n.get "id").isKind "ObjectPattern" = true) : ∃ q, IsPattern d q ∧ q.node = n.get "id" := by
  have hs : Tree.fieldSort t.kind "declarations" = some (.nodes (· == "VariableDeclarator")) := by
    rw [hk]
    rfl
  have hnin := hd.mem_items ht hs hn
  have hnk : n.kind = "VariableDeclarator" := by
    obtain ⟨items, hlist, hof⟩ := Tree.exists_list_of_nodes (hd.fields t ht) hs
    rw [hlist] at hn
    exact beq_iff_eq.mp (Tree.kinds_of_isOf (hof n hn))
  have hsid : Tree.fieldSort n.kind "id" = some .expression := by
    rw [hnk]
    rfl
  obtain ⟨p, hp, rfl⟩ := exists_reaches (p := Site.root d.root) ht
  have hp' : Stands d.root (p.below "declarations" n) :=
    Reaches.trans hp (ScopeTree.reaches_of_mem_nodesAt ((hd.mem_nodesAt ht hs).mpr hn))
  have hq : Stands d.root ((p.below "declarations" n).below "id" (n.get "id")) :=
    Reaches.trans hp' (ScopeTree.reaches_of_mem_nodesAt ((Tree.mem_nodesAt_node (hd.fields n hnin) hsid).mpr rfl))
  exact ⟨_, ⟨hq, (Tree.kind_of_isKind hid).2, p.declares_of_declarator hk hnk _⟩, rfl⟩

namespace Rules.DirectCall

open Editing ScopeTree

section Required

variable {start d : Document} {s₀ s : ScopeTree} {calls : List (Nat × Nat)} {touched : Nat → Prop} {x : Tree} {k : Nat}

/-- **A pattern takes out one name more**, a free one. -/
theorem Directs.takeOut (h : Directs start s₀ calls d s) (hs₀ : s₀.Nested) (hcalls : ∀ call ∈ calls, call.2 < start.next)
    {p : Site} (hp : IsPattern d p) (hk : k < s₀.scopes.size) (hnew : d.New x) (hx : x.Is (· == "Property"))
    (hplain : ∀ n ∈ x.subtree, n.IsPlainPattern) (hlabels : ∀ l ∈ x.labels, start.next ≤ l) (base : String)
    (node : Option Tree) (touched : Nat → Prop) :
    Directs start s₀ calls (d.editList p.node.label "properties" (· ++ [x]))
        (s.declare k (x.get "value").label (s.generateName base k) "const" node).1 ∧
      Gains touched d (d.editList p.node.label "properties" (· ++ [x])) := by
  have hd := h.order
  have hin := hp.stands.mem_subtree
  have hxk : x.kind = "Property" := beq_iff_eq.mp hx.kinds
  have hs : Tree.fieldSort p.node.kind "properties" = some (.nodes isPropertyPatternKind) := by
    rw [hp.kind]
    rfl
  have hvalue : Tree.fieldSort x.kind "value" = some .expression := by
    rw [hxk]
    rfl
  obtain ⟨hcarries, hrecords⟩ := h.carries.declare_generateName hs₀ hk
    (next_le_label hx.2.hasFields hvalue hlabels) base "const" node
  have huses (p' q : Site) (hp' : Stands d.root p') (he : p'.node = p.node) (hq : Reaches (p'.below "properties" x) q)
      (l : Nat) (y : String) (w : Bool) (frames : List Frame) (hev : Event.use l y w frames ∈ q.events) (b : Nat)
      (_ : s₀.boundIn 0 y = some b) : DeclaredInside start.root frames y ∨
        (s.declare k (x.get "value").label (s.generateName base k) "const" node).1.Records b l := by
    obtain rfl := hp'.unique hd.labelled hp.stands (congrArg Tree.label he)
    have hbelow := hp.declares.below (.inr (.inl hp.kind)) (by rw [hp.kind]; decide) "properties" x
    obtain ⟨hdeclares, hplain⟩ := hq.of_pattern hbelow (fun n hn => hnew.fields n hn) hplain
    obtain ⟨_, _, _, _, he⟩ := hdeclares.events hplain hev
    cases he
  obtain ⟨ha, hset⟩ := h.insert hcalls hin hs (.inr (by decide)) (by decide) (by rw [hp.kind]; decide) hnew
    (by rw [hxk]; rfl) hlabels (List.perm_append_singleton x _) hcarries hrecords huses
  rw [hd.editList_eq hin]
  refine ⟨hset, .insert hd hs ha (List.perm_append_singleton x _) (by rw [hp.kind]; rfl) (by rw [hp.kind]; decide) ?_⟩
  intro n hn he
  rcases hplain n hn with hk | hk | ⟨hk, -⟩ <;> rw [hk] at he <;> exact absurd he (by decide)

end Required

/-! ### A new declaration -/

/-- What owns statements has a list of them. -/
theorem fieldSort_of_statementKey {t : Tree} {key : String} (hf : t.hasFields = true)
    (h : Tree.statementKey t.kind = some key) :
    Tree.fieldSort t.kind key = some (.nodes isStatementKind) ∧ (key = "body" ∨ key ∉ Tree.siteKeys) ∧ key ≠ "value" ∧
      t.kind ∈ ["Program", "BlockStatement", "SwitchCase"] := by
  obtain ⟨spec, hspec⟩ := Tree.exists_schema_of_hasFields hf
  rw [Tree.statementKey] at h
  split at h
  · rename_i hk
    rw [beq_iff_eq.mp hk]
    cases h
    exact ⟨rfl, .inr (by decide), by decide, by decide⟩
  · split at h
    · rename_i hk
      cases h
      have hmem : t.kind ∈ ["Program", "BlockStatement", "SwitchCase", "StaticBlock"] := by
        simpa [Tree.isStatementListParent] using hk
      simp only [List.mem_cons, List.not_mem_nil, or_false] at hmem
      rcases hmem with hk | hk | hk | hk <;> rw [hk] at hspec ⊢
      · exact ⟨rfl, .inl rfl, by decide, by decide⟩
      · exact ⟨rfl, .inl rfl, by decide, by decide⟩
      · rename_i hne _
        exact absurd (beq_iff_eq.mpr hk) hne
      · cases hspec
    · cases h

section NewPattern

variable {start d : Document} {notes : List Note} {s : ScopeTree} {calls : List (Nat × Nat)} {touched : Nat → Prop}
  {r t x n : Tree} {key name : String} {k : Nat}

/-- **A declaration that takes names out of an object is put behind the one of the object.** -/
theorem Directs.takeApart (h : Directs start (ofNotes start.root.label notes) calls d s) (hs : Starts start notes)
    (hcalls : ∀ call ∈ calls, call.2 < start.next) (hr : r ∈ start.root.subtree)
    (hkey : Tree.statementKey r.kind = some key) (ht : t ∈ (r.get key).items) (hk : t.kind = "VariableDeclaration")
    (hscope : (ofNotes start.root.label notes).scopeFor t.label = some k) (hnew : d.New x)
    (hx : x.Is (· == "VariableDeclaration")) (hlabels : ∀ l ∈ x.labels, start.next ≤ l)
    (hn : (x.get "declarations").items = [n]) (hplain : ∀ m ∈ (n.get "id").subtree, m.IsPlainPattern)
    (hinit : (n.get "init").kind = "Identifier") (hname : (((n.get "init").get "name").str?).getD "" = name)
    (hlabel : start.next ≤ (n.get "init").label) (hkinds : ∀ m ∈ x.subtree, m.kind ≠ "ImportDeclaration")
    (touched : Nat → Prop) :
    let d' := d.editList r.label key fun body => body.flatMap fun m => if m.label == t.label then [m, x] else [m]
    Directs start (ofNotes start.root.label notes) calls d'
        ((s.setScope (n.get "init").label k).addReference (n.get "init").label name k (some (n.label, "init")) false).1 ∧
      Gains touched d d' ∧ x ∈ d'.root.subtree := by
  have hd := h.order
  obtain ⟨r', hr', hl, hkind, hsub⟩ := h.lists hr hkey
  have hrf := hd.fields r' hr'
  obtain ⟨hs', hkey', hvalue, hmem⟩ := fieldSort_of_statementKey hrf (hkind ▸ hkey)
  obtain ⟨t', ht', htl⟩ := List.mem_map.mp (hsub (List.mem_map_of_mem ht))
  have hxk : x.kind = "VariableDeclaration" := beq_iff_eq.mp hx.kinds
  have hperm := Tree.insertAfter_perm (hd.nodup_items hr' hs') (hsub (List.mem_map_of_mem ht)) x
  have hcarries := h.carries.setScope hlabel k
  have huses (p q : Site) (hp : Stands d.root p) (he : p.node = r') (hq : Reaches (p.below key x) q) (l : Nat)
      (y : String) (w : Bool) (frames : List Frame) (hev : Event.use l y w frames ∈ q.events) (b : Nat)
      (hb : (ofNotes start.root.label notes).boundIn 0 y = some b) : DeclaredInside start.root frames y ∨
        ((s.setScope (n.get "init").label k).addReference (n.get "init").label name k
          (some (n.label, "init")) false).1.Records b l := by
    obtain ⟨rfl, rfl, rfl⟩ := hq.use_of_declaration (fun m hm => hnew.fields m hm) hxk hn hplain hinit hev
    -- the declaration stands where the one of the object stands
    have ht₀ := hs.order.mem_items hr (fieldSort_of_statementKey (hs.order.fields r hr) hkey).1 ht
    have hstands : Stands d.root (p.below key t') := by
      subst he
      exact Reaches.trans hp (reaches_of_mem_nodesAt ((hd.mem_nodesAt hr' hs').mpr ht'))
    obtain ⟨hlt, hframes⟩ := h.frames_eq hs ht₀ (by rw [hk]; rfl) (fun _ _ => by simp [Site.openedKinds, hk])
      (by rw [hk]; decide) (by rw [hk]; decide) hstands htl hscope
    rw [hname] at hb ⊢
    have hsame : (p.below key x).frames = (declared start.root.label notes).framesAround k := hframes.symm
    rw [hsame]
    exact hcarries.records_addReference hs.tells hlt hb _ _ _
  have howner : isCalleePart r'.kind = false ∧ r'.kind ≠ "CallExpression" ∧ r'.kind ≠ "Property" ∧
      isImportPart r'.kind = false ∧ r'.kind ≠ "ImportDeclaration" := by
    generalize r'.kind = kind at hmem
    revert kind
    decide
  obtain ⟨ha, hset⟩ := h.insert hcalls hr' hs' hkey' hvalue ⟨howner.1, howner.2.1, howner.2.2.1⟩ hnew
    (by rw [hxk]; rfl) hlabels hperm (hcarries.addReference (x := name) hlabel k (some (n.label, "init")) false)
    (fun hb hm => (hm.setScope _ _).addReference (hcarries.lt_of_boundIn hb) _ k name _ false) huses
  intro d'
  have hd' : d' = d.set r'.label key (.list ((r'.get key).items.flatMap fun m =>
      if m.label == t.label then [m, x] else [m])) := by
    rw [← hd.editList_eq hr', hl]
  rw [hd']
  refine ⟨hset, .insert hd hs' ha hperm howner.2.2.2.1 howner.2.2.2.2 hkinds,
    Tree.subtree_subset (hd.set_mem ha) (Tree.subtree_subset_of_mem_children ?_ (Tree.mem_subtree_self x))⟩
  exact Tree.mem_children_of_nodesAt ha.fields ((ha.mem_nodesAt hd hs').mpr (hperm.mem_iff.mpr (.head _)))

end NewPattern

section NewPattern

theorem answers_keyName {c : Context} {t : Tree} (h : (t.get "key").hasFields = true) :
    Answers t.keyName c fun _ => True := by
  unfold Tree.keyName
  dsimp only
  split
  · exact answers_pure trivial
  split
  · rename_i hid
    exact (answers_name h (Tree.kind_of_isKind hid).2).bind fun _ _ => answers_pure trivial
  split
  · exact answers_pure trivial
  · exact answers_pure trivial

variable {start : Document} {notes : List Note} {s : ScopeTree} {calls : List (Nat × Nat)} {origin : Origin} {k : Nat}
  {c : Context}

/-- **Whether an origin is the declaration of a required module** in a list of statements. -/
structure IsRequired (start : Document) (s₀ : ScopeTree) (origin : Origin) (k : Nat) : Prop where
  declared : ∃ r ∈ start.root.subtree, r.label = origin.owner ∧ Tree.statementKey r.kind = some origin.key ∧
    ∃ t ∈ (r.get origin.key).items, t.label = origin.statement ∧ t.kind = "VariableDeclaration"
  scope : s₀.scopeFor origin.statement = some k

theorem ends_newPattern (h : Directs start (ofNotes start.root.label notes) calls c.doc s) (hview : c.view = some s)
    (hs : Starts start notes) (hcalls : ∀ call ∈ calls, call.2 < start.next)
    (ho : IsRequired start (ofNotes start.root.label notes) origin k) (touched : Nat → Prop) :
    Ends (newPattern origin k) c fun n c' => ∃ s', c'.view = some s' ∧
      Directs start (ofNotes start.root.label notes) calls c'.doc s' ∧ Gains touched c.doc c'.doc ∧
      ∃ q, IsPattern c'.doc q ∧ q.node = n.get "id" := by
  obtain ⟨r, hr, hrl, hkey, t, ht, htl, hk⟩ := ho.declared
  refine (ends_view (Q := fun a c' => c = c' ∧ s = a) ⟨rfl, by rw [hview]; rfl⟩).bind ?_
  rintro _ _ ⟨rfl, rfl⟩
  generalize (s.binding origin.binding).name = name
  have hdeclarator := Tree.is_variableDeclarator (Tree.is_objectPattern_nil rfl) (Tree.is_identifier name rfl)
  obtain ⟨h₁, hnew₁, hn, hlabels⟩ := h.adopted hdeclarator (Tree.labels_variableDeclarator name)
  have hdeclaration := Tree.is_variableDeclaration "const" (List.forall_mem_singleton.mpr hn)
  have hfresh := h.order.fresh_around (Document.fresh_of_unlabelled hdeclarator.2
    (Tree.labels_variableDeclarator name)) hdeclaration.2 (Tree.labels_variableDeclaration "const" _)
  -- the names in the declarator are as they were made
  have hn' : (c.doc.adopt ((Tree.objectPattern []).variableDeclarator (Tree.identifier name))).1 = .obj c.doc.next
      [("type", .str "VariableDeclarator"), ("id", .obj (c.doc.next + 1) (Tree.objectPattern []).fields),
        ("init", .obj (c.doc.next + 2) (Tree.identifier name).fields)] := rfl
  refine (ends_adopt (Q := fun a c' => c' = _ ∧ a = _) ⟨rfl, rfl⟩).bind ?_
  rintro _ _ ⟨rfl, rfl⟩
  have hgains₁ := Gains.adopt touched c.doc ((Tree.objectPattern []).variableDeclarator (Tree.identifier name))
  generalize c.doc.adopt ((Tree.objectPattern []).variableDeclarator (Tree.identifier name)) = adopted at *
  obtain ⟨n, d₁⟩ := adopted
  dsimp only at *
  have hx := d₁.adopt_variableDeclaration "const" fun hm => absurd (hnew₁.given 0 hm).1 (Nat.lt_irrefl 0)
  have hX := hdeclaration.number d₁.next
  have hnew := h₁.order.new_adopt hfresh
  have hlabels' : ∀ l ∈ (d₁.adopt (Tree.variableDeclaration "const" [n])).1.labels, start.next ≤ l := fun l hl => by
    refine h₁.order.next_le_of_adopt h₁.next ?_ hl
    rw [Tree.labels_variableDeclaration]
    exact List.forall_mem_cons.mpr ⟨.inl rfl, fun l hl => .inr (hlabels l hl)⟩
  refine (ends_adopt (Q := fun a c' => c' = _ ∧ a = _) ⟨rfl, rfl⟩).bind ?_
  rintro _ _ ⟨rfl, rfl⟩
  refine (ends_updateDoc (Q := fun _ c' => c' = _) rfl).bind ?_
  rintro _ _ rfl
  refine (ends_updateView (Q := fun _ c' => c' = _) rfl).bind ?_
  rintro _ _ rfl
  have h₂ := h₁.adopt (Tree.variableDeclaration "const" [n])
  have hXn : ((d₁.adopt (Tree.variableDeclaration "const" [n])).1.get "declarations").items = [n] := by
    rw [hx]
    rfl
  have hkinds : ∀ m ∈ (d₁.adopt (Tree.variableDeclaration "const" [n])).1.subtree, m.kind ≠ "ImportDeclaration" := by
    rw [hx, hn']
    intro m hm he
    have hk : m.kind ∈ ["VariableDeclaration", "VariableDeclarator", "ObjectPattern", "Identifier"] :=
      List.mem_map_of_mem (f := Tree.kind) hm
    rw [he] at hk
    exact absurd hk (by decide)
  have hinit : start.next ≤ (n.get "init").label := hlabels _ (by
    rw [hn']
    exact .tail _ (.tail _ (.head _)))
  have hplain : ∀ m ∈ (n.get "id").subtree, m.IsPlainPattern := by
    rw [hn']
    exact List.forall_mem_singleton.mpr (.inr (.inl rfl))
  obtain ⟨hset, hgains, hin⟩ := h₂.takeApart hs hcalls hr hkey ht hk (htl ▸ ho.scope) hnew hX hlabels' hXn hplain
    (by rw [hn']; rfl) (show (((n.get "init").get "name").str?).getD "" = name by rw [hn']; rfl) hinit hkinds touched
  rw [hrl, htl] at hset hgains hin
  refine ends_pure ⟨_, congrArg (Option.map _) hview, hset, (hgains₁.trans (.adopt touched d₁ _)).trans hgains, ?_⟩
  exact isPattern_of_declarator hset.order hin (beq_iff_eq.mp hX.kinds) (by rw [hXn]; exact .head _) (by rw [hn']; rfl)

/-! ### Names of required modules -/

theorem ends_patternLocal? {d : Document} (hd : d.InOrder) {n : Tree} (hn : n.get "id" ∈ d.root.subtree)
    (hk : (n.get "id").kind = "ObjectPattern") (name : String) :
    Answers (patternLocal? n name) c fun _ => True := by
  have hs : Tree.fieldSort (n.get "id").kind "properties" = some (.nodes isPropertyPatternKind) := by
    rw [hk]
    rfl
  refine (answers_findSomeM? (R := fun _ _ => True) fun x hx => ?_).mono fun _ _ => trivial
  have hxin := hd.mem_items hn hs hx
  split
  · rename_i hxk
    have hkind := (Tree.isKind_iff_of_hasFields (hd.fields x hxin)).mp hxk
    have hkey : Tree.fieldSort x.kind "key" = some .expression := by
      rw [hkind]
      rfl
    have hvalue : Tree.fieldSort x.kind "value" = some .expression := by
      rw [hkind]
      rfl
    refine (answers_keyName (hd.fields _ (hd.mem_get hxin hkey).1)).bind fun key _ => ?_
    split
    · refine (answers_fieldOf (hd.fields x hxin) hvalue).bind fun v hv => ?_
      subst hv
      dsimp only
      split
      · rename_i hid
        refine (answers_name (hd.fields _ (hd.mem_get hxin hvalue).1) (Tree.kind_of_isKind hid).2).bind fun y _ => ?_
        exact answers_pure fun _ _ => trivial
      · exact answers_pure fun _ _ => trivial
    · exact answers_pure fun _ _ => trivial
  · exact answers_pure fun _ _ => trivial

/-- What a declarator after the declaration of the module takes out of it. -/
theorem isPattern_of_patternAfter (h : Directs start (ofNotes start.root.label notes) calls c.doc s)
    (ho : IsRequired start (ofNotes start.root.label notes) origin k) {n : Tree}
    (hn : patternAfter? c.doc s origin = some n) : ∃ q, IsPattern c.doc q ∧ q.node = n.get "id" := by
  have hd := h.order
  obtain ⟨r, hr, hrl, hkey, -⟩ := ho.declared
  obtain ⟨r', hr', hl, hkind, -⟩ := h.lists hr hkey
  obtain ⟨hs, -⟩ := fieldSort_of_statementKey (hd.fields r' hr') (hkind ▸ hkey)
  have hlist : c.doc.listAt origin.owner origin.key = (r'.get origin.key).items := by
    rw [Document.listAt, ← hrl, ← hl, hd.get_label hr']
  rw [patternAfter?, hlist] at hn
  dsimp only at hn
  split at hn
  · rename_i t ht
    split at hn
    · rename_i htk
      have hmem := (List.dropWhile_sublist _).subset (List.mem_of_mem_tail (List.mem_of_mem_head? ht))
      have htin := hd.mem_items hr' hs hmem
      obtain ⟨hnin, hid⟩ := And.intro (List.mem_of_find?_eq_some hn) (List.find?_some hn)
      simp only [Bool.and_eq_true] at hid
      exact isPattern_of_declarator hd htin ((Tree.isKind_iff_of_hasFields (hd.fields t htin)).mp htk) hnin hid.1.1
    · cases hn
  · cases hn

theorem ends_takeOut {s₀ : ScopeTree} (h : Directs start s₀ calls c.doc s) (hview : c.view = some s) (hs₀ : s₀.Nested)
    (hcalls : ∀ call ∈ calls, call.2 < start.next) (hk : k < s₀.scopes.size) {n : Tree}
    (hq : ∃ q, IsPattern c.doc q ∧ q.node = n.get "id") (touched : Nat → Prop) (base : String) :
    Ends (do
      let name := (← Editing.view).generateName base k
      let property ← Editing.adopt (Tree.property (Tree.identifier base) (Tree.identifier name) (name == base))
      Editing.updateDoc (·.editList (n.get "id").label "properties" (· ++ [property]))
      Editing.updateView fun s => (s.declare k (property.get "value").label name "const" (some n)).1
      return name) c fun _ c' => ∃ s', c'.view = some s' ∧ Directs start s₀ calls c'.doc s' ∧
        Gains touched c.doc c'.doc := by
  obtain ⟨q, hq, hqn⟩ := hq
  refine (ends_view (Q := fun a c' => c = c' ∧ s = a) ⟨rfl, by rw [hview]; rfl⟩).bind ?_
  rintro _ _ ⟨rfl, rfl⟩
  dsimp only
  generalize hname : s.generateName base k = name
  obtain ⟨h', hnew, hx, hlabels⟩ := h.adopted (Tree.is_property base name (name == base)) (Tree.labels_property _ _ _)
  have hplain : ∀ m ∈ (c.doc.adopt (Tree.property (Tree.identifier base) (Tree.identifier name) (name == base))).1.subtree,
      m.IsPlainPattern :=
    List.forall_mem_cons.mpr ⟨.inr (.inr ⟨rfl, rfl⟩), List.forall_mem_cons.mpr ⟨.inl rfl,
      List.forall_mem_singleton.mpr (.inl rfl)⟩⟩
  refine (ends_adopt (Q := fun a c' => c' = _ ∧ a = _) ⟨rfl, rfl⟩).bind ?_
  rintro _ _ ⟨rfl, rfl⟩
  refine (ends_updateDoc (Q := fun _ c' => c' = _) rfl).bind ?_
  rintro _ _ rfl
  refine (ends_updateView (Q := fun _ c' => c' = _) rfl).bind ?_
  rintro _ _ rfl
  obtain ⟨hset, hgains⟩ := h'.takeOut hs₀ hcalls (p := q) ⟨hq.stands, hq.kind, hq.declares⟩ hk hnew hx hplain
    hlabels base (some n) touched
  rw [hqn, hname] at hset
  rw [hqn] at hgains
  exact ends_pure ⟨_, congrArg (Option.map _) hview, hset, (Gains.adopt touched c.doc _).trans hgains⟩

/-- **A method of a required module is taken out of it.** -/
theorem ends_requireLocal {method : Method} (h : Directs start (ofNotes start.root.label notes) calls c.doc s)
    (hview : c.view = some s) (hs : Starts start notes) (hcalls : ∀ call ∈ calls, call.2 < start.next)
    (ho : IsRequired start (ofNotes start.root.label notes) method.origin k) (touched : Nat → Prop) :
    Ends (requireLocal method) c fun _ c' => ∃ s', c'.view = some s' ∧
      Directs start (ofNotes start.root.label notes) calls c'.doc s' ∧ Gains touched c.doc c'.doc := by
  obtain ⟨r, hr, hrl, hkey, t, ht, htl, hk⟩ := ho.declared
  have htin := hs.order.mem_items hr (fieldSort_of_statementKey (hs.order.fields r hr) hkey).1 ht
  have hscope : scopeOf s method.origin = k := by
    rw [scopeOf, h.carries.scopeFor (htl ▸ (hs.order.given _ (hs.order.label_mem htin)).2), ho.scope]
    rfl
  have hlt : k < (ofNotes start.root.label notes).scopes.size := by
    obtain ⟨q, hq, rfl⟩ := exists_reaches (p := Site.root start.root) htin
    obtain ⟨q', hq', hstays⟩ := h.stands q hq (by rw [hk]; rfl)
    rw [scopes_ofNotes]
    exact (h.frames_eq hs hq.mem_subtree (by rw [hk]; rfl) (fun _ _ => by simp [Site.openedKinds, hk])
      (by rw [hk]; decide) (by rw [hk]; decide) hq' hstays.label (htl ▸ ho.scope)).1
  refine (ends_view (Q := fun a c' => c = c' ∧ s = a) ⟨rfl, by rw [hview]; rfl⟩).bind ?_
  rintro _ _ ⟨rfl, rfl⟩
  refine (ends_doc (Q := fun a c' => c = c' ∧ c.doc = a) ⟨rfl, rfl⟩).bind ?_
  rintro _ _ ⟨rfl, rfl⟩
  refine (ends_view (Q := fun a c' => c = c' ∧ s = a) ⟨rfl, by rw [hview]; rfl⟩).bind ?_
  rintro _ _ ⟨rfl, rfl⟩
  rw [hscope]
  have hs₀ : (ofNotes start.root.label notes).Nested := hs.tells.nested_ofNotes
  cases hpresent : patternAfter? c.doc s method.origin with
  | some n =>
    obtain ⟨q, hq, hqn⟩ := isPattern_of_patternAfter h ho hpresent
    refine (ends_patternLocal? h.order (hqn ▸ hq.stands.mem_subtree) (hqn ▸ hq.kind) method.name).bind fun known _ => ?_
    cases known with
    | some name => exact ends_pure ⟨s, hview, h, .refl touched _⟩
    | none =>
      refine (ends_pure (Q := fun a c' => c = c' ∧ n = a) ⟨rfl, rfl⟩).bind ?_
      rintro _ _ ⟨rfl, rfl⟩
      exact ends_takeOut h hview hs₀ hcalls hlt ⟨q, hq, hqn⟩ touched method.name
  | none =>
    refine (ends_pure (Q := fun a c' => c = c' ∧ none = a) ⟨rfl, rfl⟩).bind ?_
    rintro _ _ ⟨rfl, rfl⟩
    refine (ends_newPattern h hview hs hcalls ho touched).bind ?_
    rintro n c' ⟨s', hview', h', hgains, hq⟩
    refine (ends_takeOut h' hview' hs₀ hcalls hlt hq touched method.name).mono ?_
    rintro - c'' ⟨s'', hview'', h'', hgains'⟩
    exact ⟨s'', hview'', h'', hgains.trans hgains'⟩

end NewPattern

end Rules.DirectCall

end Deminify
