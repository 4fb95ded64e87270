import Deminify.Proofs.DirectCall.Import
import Deminify.Proofs.Document.Change
import Deminify.Proofs.Rule.Ending
import Deminify.Proofs.Scope.Cover
import Deminify.Rules.DirectCall

/-!
# Programs in which calls are made direct

Three kinds of edits make calls direct: an import gets a name, a declaration takes a name out of a module, and a call
gets another callee. What is lost by such an edit has only used names, and what is new uses names that the view knows of
(`Deminify.Rules.DirectCall.Directs.set`). **So the view misses no use of a name that the program declared at the
start**, statements stay in their lists, and a call keeps its callee until the callee is replaced
(`Deminify.Rules.DirectCall.Directs`).

Several calls may be recorded for one object and one method. An object is found in the callee of its own call
(`Deminify.Rules.DirectCall.IsCall`), so that what the view forgets is gone from the program, too.

While calls are made direct, imports get names and lose nothing (`Deminify.Rules.DirectCall.Gains`). **A method of an
imported module is imported by name** (`Deminify.Rules.DirectCall.ends_importLocal`), by a name that is free in the
whole program.

A call gets a name for its callee in place of the access to the object. The name is looked up from the scope in which
the call is known to stand, and that is the scope in which it stands (`Deminify.Rules.DirectCall.Directs.frames_eq`), as
no edit moves a call. **So the new use is recorded where it belongs** (`Deminify.Rules.DirectCall.Redirects.direct`).
-/

namespace Deminify

/-! ### Callees -/

/-- The kinds of what is in the callee of an indirect call. -/
def isCalleePart (kind : String) : Bool :=
  ["SequenceExpression", "Literal", "MemberExpression", "Identifier"].contains kind

theorem statementKey_of_callee {kind : String} (hk : isCalleePart kind = true) : Tree.statementKey kind = none := by
  simp only [isCalleePart, List.contains_cons, List.contains_nil, Bool.or_false, Bool.or_eq_true, beq_iff_eq] at hk
  rcases hk with hk | hk | hk | hk <;> rw [hk] <;> rfl

section Callee

variable {p q : Site} {e : Event}

/-- Below a callee nothing is declared. -/
theorem Site.roleAt_of_callee (hrole : p.role = .reads ∨ p.role = .inert) (hk : isCalleePart p.node.kind = true)
    (key : String) : p.roleAt key = .reads ∨ p.roleAt key = .inert := by
  rcases hrole with hrole | hrole
  · simp only [isCalleePart, List.contains_cons, List.contains_nil, Bool.or_false, Bool.or_eq_true, beq_iff_eq] at hk
    rcases hk with hk | hk | hk | hk <;> simp only [Site.roleAt, Site.roleByKind, hrole, hk]
    · exact .inl rfl
    · exact .inl rfl
    · split
      · exact .inr rfl
      · exact .inl rfl
    · exact .inl rfl
  · exact .inr (by rw [Site.roleAt, hrole])

/-- A name that is read is used as it is called. -/
theorem Site.event_of_identifier (hrole : p.role = .reads ∨ p.role = .inert) (hk : p.node.kind = "Identifier")
    (he : e ∈ p.events) : e = .use p.node.label (((p.node.get "name").str?).getD "") false p.frames := by
  rw [Site.events, hk] at he
  rcases hrole with hrole | hrole <;> rw [hrole] at he
  · exact List.mem_singleton.mp he
  · cases he

/-- The callee of a call is read, or it means nothing, and it stands in the scopes around the call. -/
theorem Site.below_callee (hk : p.node.kind = "CallExpression") (c : Tree) :
    ((p.below "callee" c).role = .reads ∨ (p.below "callee" c).role = .inert) ∧
      (p.below "callee" c).frames = p.frames := by
  refine ⟨?_, ?_⟩
  · show p.roleAt "callee" = .reads ∨ p.roleAt "callee" = .inert
    simp only [Site.roleAt, Site.roleByKind, hk]
    cases p.role <;> simp
  · show p.framesAt "callee" = p.frames
    simp [Site.framesAt, Site.opened, Site.openedKinds, hk]

/-- What is reached in a callee is read, or it means nothing. -/
theorem Reaches.of_callee (hq : Reaches p q) (hrole : p.role = .reads ∨ p.role = .inert)
    (hk : ∀ n ∈ p.node.subtree, isCalleePart n.kind = true) :
    (q.role = .reads ∨ q.role = .inert) ∧ isCalleePart q.node.kind = true := by
  induction hq with
  | refl p => exact ⟨hrole, hk _ (Tree.mem_subtree_self _)⟩
  | @step p q slot child hx _ ih =>
    refine ih (p.roleAt_of_callee hrole (hk _ (Tree.mem_subtree_self _)) _) fun n hn => hk n ?_
    exact Tree.subtree_subset_of_mem_children (Tree.mem_children_of_mem_slots hx) hn

/-- **In a callee names are used**, and nothing else happens. -/
theorem Site.events_of_callee (hrole : p.role = .reads ∨ p.role = .inert) (hk : isCalleePart p.node.kind = true)
    (he : e ∈ p.events) : ∃ l x frames, e = .use l x false frames := by
  have hopened : p.node.kind ≠ "Identifier" → p.opened = [] := fun _ => by
    simp only [isCalleePart, List.contains_cons, List.contains_nil, Bool.or_false, Bool.or_eq_true, beq_iff_eq] at hk
    rcases hk with hk | hk | hk | hk <;> simp [Site.opened, Site.openedKinds, hk]
  unfold Site.events at he
  dsimp only at he
  split at he
  · rcases hrole with hrole | hrole <;> rw [hrole] at he
    · exact ⟨_, _, _, List.mem_singleton.mp he⟩
    · cases he
  · rename_i hkind
    rw [hkind] at hk
    cases hk
  · rename_i hne _
    rw [hopened hne, List.map_nil, ite_self] at he
    cases he

end Callee

/-- Whether a site is of the same node as another one, and the node stands alike there. -/
structure Site.Stays (p q : Site) : Prop where
  label : q.node.label = p.node.label
  kind : q.node.kind = p.node.kind
  role : q.role = p.role
  frames : q.frames = p.frames

namespace Rules.DirectCall

open ScopeTree

/-! ### Programs in which calls are made direct -/

/-- Whether a node is the call of a pair: the name of the object is in the callee, if it is anywhere. -/
structure IsCall (d : Document) (call : Nat × Nat) (c : Tree) : Prop where
  mem : c ∈ d.root.subtree
  label : c.label = call.1
  kind : c.kind = "CallExpression"
  parts : ∀ n ∈ (c.get "callee").subtree, isCalleePart n.kind = true
  object : call.2 ∈ d.root.labels → call.2 ∈ (c.get "callee").labels

/-- **What is known of a program and of the view of its scopes while calls are made direct.** -/
structure Directs (start : Document) (s₀ : ScopeTree) (calls : List (Nat × Nat)) (d : Document) (s : ScopeTree) :
    Prop where
  order : d.InOrder
  label : d.root.label = start.root.label
  next : start.next ≤ d.next
  old : ∀ l < start.next, d.root.labels.count l ≤ start.root.labels.count l
  stands : ∀ p, Stands start.root p → isCalleePart p.node.kind = false → ∃ q, Stands d.root q ∧ p.Stays q
  inside : ∀ {f x}, DeclaredIn start.root f x → DeclaredIn d.root f x
  /-- Statements stay in their lists. -/
  lists : ∀ {r key}, r ∈ start.root.subtree → Tree.statementKey r.kind = some key → ∃ r' ∈ d.root.subtree,
    r'.label = r.label ∧ r'.kind = r.kind ∧ (r.get key).items.map Tree.label ⊆ (r'.get key).items.map Tree.label
  carries : CarriesOn s₀ start.next s
  covers : Covers d.root s₀ s
  callees : ∀ call ∈ calls, ∃ c, IsCall d call c

namespace Directs

variable {start d : Document} {s₀ s s' : ScopeTree} {calls : List (Nat × Nat)} {r value : Tree} {key : String}

section Set

variable (h : Directs start s₀ calls d s) (ha : d.Amends r key value)
  (hlost : ∀ p c q, Stands d.root p → p.node = r → c ∈ r.nodesAt key → c ∉ (r.set key value).nodesAt key →
    Reaches (p.below key c) q → isCalleePart q.node.kind = true ∧ ∀ e ∈ q.events, ∃ l x frames, e = .use l x false frames)
  (hvalue : ∀ l < start.next, value.labels.count l ≤ (r.get key).labels.count l)

include h ha

include hvalue in
/-- An old label does not get more frequent. -/
theorem count_set_le {l : Nat} (hl : l < start.next) :
    (d.set r.label key value).root.labels.count l ≤ d.root.labels.count l := by
  have hcount := h.order.count_set ha l
  have := hvalue l hl
  omega

include hlost

theorem declaredIn_set {f : Frame} {x : String} (hd : DeclaredIn d.root f x) :
    DeclaredIn (d.set r.label key value).root f x := by
  obtain ⟨l, initializes, he⟩ := hd
  rcases h.order.happens_set ha he with he | ⟨p, c, q, hp, hr, hc, hnot, hq, he⟩
  · exact ⟨l, initializes, he⟩
  · obtain ⟨_, _, _, he⟩ := (hlost p c q hp hr hc hnot hq).2 _ he
    cases he

/-- A node that is no part of a callee stands where it stood. -/
theorem stands_set {p : Site} (hp : Stands start.root p) (hk : isCalleePart p.node.kind = false) :
    ∃ q, Stands (d.set r.label key value).root q ∧ p.Stays q := by
  obtain ⟨q, hq, hs⟩ := h.stands p hp hk
  rcases h.order.stands_set ha hq with hq | ⟨p', c, hp', hr, hc, hnot, hq⟩
  · exact ⟨_, hq, (Tree.label_setAt _).trans hs.label, (Tree.kind_setAt ha.key_ne.1 _).trans hs.kind, hs.role, hs.frames⟩
  · have hpart := (hlost p' c q hp' hr hc hnot hq).1
    rw [hs.kind, hk] at hpart
    cases hpart

theorem lists_set (hlist : Tree.statementKey r.kind = some key →
      (r.get key).items.map Tree.label ⊆ value.items.map Tree.label) {t : Tree} {k : String}
    (ht : t ∈ start.root.subtree) (hk : Tree.statementKey t.kind = some k) :
    ∃ t' ∈ (d.set r.label key value).root.subtree, t'.label = t.label ∧ t'.kind = t.kind ∧
      (t.get k).items.map Tree.label ⊆ (t'.get k).items.map Tree.label := by
  have hd := h.order
  obtain ⟨t', ht', hl, hkind, hsub⟩ := h.lists ht hk
  refine ⟨t'.setAt r.label key value, ?_, (Tree.label_setAt t').trans hl,
    (Tree.kind_setAt ha.key_ne.1 t').trans hkind, ?_⟩
  · obtain ⟨q, hq, rfl⟩ := exists_reaches (p := Site.root d.root) ht'
    rcases hd.stands_set ha hq with hq | ⟨p, c, hp, hr, hc, hnot, hq⟩
    · exact hq.mem_subtree
    · have hpart := (hlost p c q hp hr hc hnot hq).1
      rw [hkind] at hpart
      exact absurd hk (statementKey_of_callee hpart ▸ nofun)
  · by_cases hne : t' = r
    · subst hne
      rw [hd.setAt_self ha]
      by_cases hkey : k = key
      · subst hkey
        rw [Tree.get_set_self (hd.isObj ht')]
        exact fun _ hm => hlist (hkind ▸ hk) (hsub hm)
      · rwa [Tree.get_set_of_ne (hd.isObj ht') hkey]
    · have hlabels : ((t'.get k).items.map (·.setAt r.label key value)).map Tree.label =
          (t'.get k).items.map Tree.label := by
        rw [List.map_map]
        exact List.map_congr_left fun c _ => Tree.label_setAt c
      rwa [Tree.get_setAt_of_ne fun hl => hne (hd.eq_of_label ha.mem (hd.mem_records ht') hl), Tree.items_setAt, hlabels]

include hvalue

/-- **A call stays a call with the same callee** if it is not edited itself. -/
theorem isCall_set (hk : isCalleePart r.kind = false) {call : Nat × Nat} (hobject : call.2 < start.next) {c : Tree}
    (hc : IsCall d call c) (hne : c ≠ r) :
    IsCall (d.set r.label key value) call (c.setAt r.label key value) := by
  have hd := h.order
  have hcallee : Tree.fieldSort c.kind "callee" = some .expression := by
    rw [hc.kind]
    rfl
  have hin := Tree.subtree_subset hc.mem (Tree.subtree_subset_of_mem_children (Tree.mem_children_of_nodesAt
    (hd.fields c hc.mem) ((Tree.mem_nodesAt_node (hd.fields c hc.mem) hcallee).mpr rfl)) (Tree.mem_subtree_self _))
  have hsame : (c.setAt r.label key value).get "callee" = c.get "callee" := by
    rw [Tree.get_setAt_of_ne fun hl => hne (hd.eq_of_label ha.mem (hd.mem_records hc.mem) hl)]
    refine hd.setAt_eq ha hin fun hm => ?_
    rw [hc.parts r hm] at hk
    cases hk
  refine ⟨?_, (Tree.label_setAt c).trans hc.label, (Tree.kind_setAt ha.key_ne.1 c).trans hc.kind,
    by rw [hsame]; exact hc.parts, fun hl => ?_⟩
  · obtain ⟨q, hq, rfl⟩ := exists_reaches (p := Site.root d.root) hc.mem
    rcases hd.stands_set ha hq with hq | ⟨p, c', hp, hr, hc', hnot, hq⟩
    · exact hq.mem_subtree
    · have hpart := (hlost p c' q hp hr hc' hnot hq).1
      rw [hc.kind] at hpart
      cases hpart
  · rw [hsame]
    have hle := h.count_set_le ha hvalue hobject
    have hpos := List.count_pos_iff.mpr hl
    exact hc.object (List.count_pos_iff.mp (by omega))

/-- **One edit**: what is lost only used names, and what is new uses names that the view knows of. -/
theorem set (hlist : Tree.statementKey r.kind = some key →
      (r.get key).items.map Tree.label ⊆ value.items.map Tree.label)
    (hcarries : CarriesOn s₀ start.next s')
    (hrecords : ∀ {x b l}, s₀.boundIn 0 x = some b → l ∈ (d.set r.label key value).root.labels → s.Records b l →
      s'.Records b l)
    (hnew : ∀ p c q, Stands d.root p → p.node = r → c ∈ (r.set key value).nodesAt key → c ∉ r.nodesAt key →
      Reaches (p.below key c) q → ∀ l x w frames, Event.use l x w frames ∈ q.events → ∀ b, s₀.boundIn 0 x = some b →
        DeclaredInside start.root frames x ∨ s'.Records b l)
    (hcallees : ∀ call ∈ calls, ∃ c, IsCall (d.set r.label key value) call c) :
    Directs start s₀ calls (d.set r.label key value) s' where
  order := h.order.set ha
  label := (Tree.label_setAt _).trans h.label
  next := h.next
  old l hl := (h.count_set_le ha hvalue hl).trans (h.old l hl)
  stands p hp hk := h.stands_set ha hlost hp hk
  inside hd := h.declaredIn_set ha hlost (h.inside hd)
  lists ht hk := h.lists_set ha hlost hlist ht hk
  carries := hcarries
  covers {x b} hb {l w frames} he := by
    have hin : l ∈ (d.set r.label key value).root.labels := by
      obtain ⟨q, hq, he⟩ := he
      rw [← (Site.name_of_mem_events he rfl).1]
      exact (h.order.set ha).label_mem hq.mem_subtree
    rcases h.order.happens_of_set ha he with he | ⟨p, c, q, hp, hr, hc, hnot, hq, he⟩
    · refine (h.covers hb he).imp ?_ (hrecords hb hin)
      rintro ⟨f, hf, hk, hd⟩
      exact ⟨f, hf, hk, h.declaredIn_set ha hlost hd⟩
    · refine (hnew p c q hp hr hc hnot hq l x w frames he b hb).imp ?_ id
      rintro ⟨f, hf, hk, hd⟩
      exact ⟨f, hf, hk, h.declaredIn_set ha hlost (h.inside hd)⟩
  callees := hcallees

end Set

/-- Labels are given out. -/
theorem adopt (h : Directs start s₀ calls d s) (t : Tree) : Directs start s₀ calls (d.adopt t).2 s where
  order := h.order.adopt
  label := h.label
  next := h.next.trans (Tree.givenOut_number t h.order.next_pos 0).le
  old := h.old
  stands := h.stands
  inside := h.inside
  lists := h.lists
  carries := h.carries
  covers := h.covers
  callees call hcall := by
    obtain ⟨c, hc⟩ := h.callees call hcall
    exact ⟨c, hc.mem, hc.label, hc.kind, hc.parts, hc.object⟩

/-- What had no labels is new after that. -/
theorem adopted (h : Directs start s₀ calls d s) {t : Tree} {kinds : String → Bool} (ht : t.Is kinds)
    (h0 : ∀ l ∈ t.labels, l = 0) : Directs start s₀ calls (d.adopt t).2 s ∧ (d.adopt t).2.New (d.adopt t).1 ∧
      (d.adopt t).1.Is kinds ∧ ∀ l ∈ (d.adopt t).1.labels, start.next ≤ l :=
  ⟨h.adopt t, h.order.new_adopt (Document.fresh_of_unlabelled ht.2 h0), ht.number d.next,
    fun _ hl => h.order.next_le_of_adopt h.next (fun l hl => .inl (h0 l hl)) hl⟩

/-- **Something new is put on a list.** -/
theorem insert (h : Directs start s₀ calls d s) (hcalls : ∀ call ∈ calls, call.2 < start.next)
    (hr : r ∈ d.root.subtree) {kinds : String → Bool} (hs : Tree.fieldSort r.kind key = some (.nodes kinds))
    (hkey : key = "body" ∨ key ∉ Tree.siteKeys) (hvalue : key ≠ "value")
    (hkind : isCalleePart r.kind = false ∧ r.kind ≠ "CallExpression" ∧ r.kind ≠ "Property") {x : Tree} (hx : d.New x)
    (hxk : kinds x.kind = true) (hlabels : ∀ l ∈ x.labels, start.next ≤ l) {items : List Tree}
    (hitems : items.Perm (x :: (r.get key).items)) (hcarries : CarriesOn s₀ start.next s')
    (hrecords : ∀ {y b l}, s₀.boundIn 0 y = some b → s.Records b l → s'.Records b l)
    (huses : ∀ p q, Stands d.root p → p.node = r → Reaches (p.below key x) q → ∀ l y w frames,
      Event.use l y w frames ∈ q.events → ∀ b, s₀.boundIn 0 y = some b →
        DeclaredInside start.root frames y ∨ s'.Records b l) :
    d.Amends r key (.list items) ∧ Directs start s₀ calls (d.set r.label key (.list items)) s' := by
  have ha := h.order.amends_insert hr hs hkind.2.2 hkey hvalue hx hxk hitems
  have hold (c : Tree) : c ∈ r.nodesAt key ↔ c ∈ (r.get key).items := Tree.mem_nodesAt_nodes (h.order.fields r hr) hs
  have hin (c : Tree) : c ∈ (r.set key (.list items)).nodesAt key ↔ c = x ∨ c ∈ (r.get key).items := by
    rw [Tree.mem_nodesAt_nodes ha.fields (by rw [ha.alike.kind]; exact hs), Tree.get_set_self (h.order.isObj hr),
      Tree.items_list, hitems.mem_iff, List.mem_cons]
  have hlost (p : Site) (c : Tree) (q : Site) (_ : Stands d.root p) (_ : p.node = r) (hc : c ∈ r.nodesAt key)
      (hnot : c ∉ (r.set key (.list items)).nodesAt key) (_ : Reaches (p.below key c) q) :
      isCalleePart q.node.kind = true ∧ ∀ e ∈ q.events, ∃ l x frames, e = .use l x false frames :=
    absurd ((hin c).mpr (.inr ((hold c).mp hc))) hnot
  have hcount (l : Nat) (hl : l < start.next) : (Tree.list items).labels.count l ≤ (r.get key).labels.count l := by
    rw [Tree.labels_list, (hitems.flatMap_right _).count_eq, List.flatMap_cons, List.count_append,
      List.count_eq_zero_of_not_mem fun hm => absurd (hlabels l hm) (by omega),
      Tree.labels_get_nodes (h.order.fields r hr) hs, Nat.zero_add]
  have hlist : (r.get key).items.map Tree.label ⊆ (Tree.list items).items.map Tree.label := by
    rw [Tree.items_list]
    exact fun l hl => (hitems.map _).mem_iff.mpr (List.mem_cons_of_mem _ hl)
  refine ⟨ha, h.set ha hlost hcount (fun _ => hlist) hcarries (fun hb _ => hrecords hb)
    (fun p c q hp he hc hnot hq => ?_) fun call hcall => ?_⟩
  · obtain rfl := ((hin c).mp hc).resolve_right fun hm => hnot ((hold c).mpr hm)
    exact huses p q hp he hq
  · obtain ⟨c, hc⟩ := h.callees call hcall
    exact ⟨_, h.isCall_set ha hlost hcount hkind.1 (hcalls call hcall) hc fun he => hkind.2.1 (he ▸ hc.kind)⟩

end Directs

end Rules.DirectCall

namespace Document

variable {d : Document} {r c : Tree} {key : String} {kinds : String → Bool} {items : List Tree}

theorem InOrder.mem_nodesAt (h : d.InOrder) (hr : r ∈ d.root.subtree)
    (hs : Tree.fieldSort r.kind key = some (.nodes kinds)) : c ∈ r.nodesAt key ↔ c ∈ (r.get key).items :=
  Tree.mem_nodesAt_nodes (h.fields r hr) hs

theorem Amends.mem_nodesAt (h : d.InOrder) (ha : d.Amends r key (.list items))
    (hs : Tree.fieldSort r.kind key = some (.nodes kinds)) : c ∈ (r.set key (.list items)).nodesAt key ↔ c ∈ items := by
  rw [Tree.mem_nodesAt_nodes ha.fields (by rw [ha.alike.kind]; exact hs), Tree.get_set_self (h.isObj ha.mem),
    Tree.items_list]

end Document

namespace Rules.DirectCall

open Editing ScopeTree

/-! ### Imports that get names -/

/-- Whether an import has only got further names. -/
structure Enlarged (touched : Nat → Prop) (i i' : Tree) : Prop where
  label : i'.label = i.label
  source : sourceOf i' = sourceOf i
  specifiers : ∃ names, i'.specifiers = i.specifiers ++ names ∧ (∀ x ∈ names, isNamedSpecifier x = true) ∧
    (names ≠ [] → touched i.label)

/-- **Whether the imports of a program have only got further names.** -/
structure Gains (touched : Nat → Prop) (start d : Document) : Prop where
  imports : ∀ i ∈ start.root.imports, ∃ i' ∈ d.root.imports, Enlarged touched i i'
  known : ∀ i' ∈ d.root.imports, ∃ i ∈ start.root.imports, Enlarged touched i i'

section Gains

variable {touched : Nat → Prop} {i i' i'' x : Tree} {d d' d'' : Document}

theorem Enlarged.refl (i : Tree) : Enlarged touched i i := ⟨rfl, rfl, [], (List.append_nil _).symm, nofun, (absurd rfl ·)⟩

theorem Enlarged.trans (h : Enlarged touched i i') (h' : Enlarged touched i' i'') : Enlarged touched i i'' := by
  obtain ⟨names, hs, hn, ht⟩ := h.specifiers
  obtain ⟨names', hs', hn', ht'⟩ := h'.specifiers
  refine ⟨h'.label.trans h.label, h'.source.trans h.source, names ++ names', by rw [hs', hs, List.append_assoc],
    List.forall_mem_append.mpr ⟨hn, hn'⟩, fun hne => ?_⟩
  by_cases hnil : names = []
  · rw [← h.label]
    exact ht' fun hnil' => hne (by rw [hnil, hnil']; rfl)
  · exact ht hnil

namespace Gains

theorem refl (touched : Nat → Prop) (d : Document) : Gains touched d d :=
  ⟨fun i hi => ⟨i, hi, .refl i⟩, fun i hi => ⟨i, hi, .refl i⟩⟩

/-- Labels are given out. -/
theorem adopt (touched : Nat → Prop) (d : Document) (t : Tree) : Gains touched d (d.adopt t).2 :=
  ⟨(Gains.refl touched d).imports, (Gains.refl touched d).known⟩

theorem trans (h : Gains touched d d') (h' : Gains touched d' d'') : Gains touched d d'' where
  imports i hi := by
    obtain ⟨i', hi', he⟩ := h.imports i hi
    obtain ⟨i'', hi'', he'⟩ := h'.imports i' hi'
    exact ⟨i'', hi'', he.trans he'⟩
  known i'' hi'' := by
    obtain ⟨i', hi', he'⟩ := h'.known i'' hi''
    obtain ⟨i, hi, he⟩ := h.known i' hi'
    exact ⟨i, hi, he.trans he'⟩

/-- An edit of something else. -/
theorem set (hd : d.InOrder) {r value : Tree} {key : String} (ha : d.Amends r key value)
    (hr : isImportPart r.kind = false) (hk : r.kind ≠ "ImportDeclaration")
    (hlost : ∀ c ∈ r.nodesAt key, c ∉ (r.set key value).nodesAt key → ∀ n ∈ c.subtree, n.kind ≠ "ImportDeclaration")
    (hnew : ∀ c ∈ (r.set key value).nodesAt key, c ∉ r.nodesAt key → ∀ n ∈ c.subtree, n.kind ≠ "ImportDeclaration") :
    Gains touched d (d.set r.label key value) where
  imports i hi := by
    refine ⟨i, (hd.mem_imports_set ha hr hk hi).resolve_right ?_, .refl i⟩
    rintro ⟨c, hc, hnot, hic⟩
    exact hlost c hc hnot i hic (hd.mem_imports.mp hi).2
  known i hi := by
    refine ⟨i, (hd.mem_imports_of_set ha hr hk hi).resolve_right ?_, .refl i⟩
    rintro ⟨hik, c, hc, hnot, hic⟩
    exact hnew c hc hnot i hic hik

/-- Something else is put on a list. -/
theorem insert (hd : d.InOrder) {r : Tree} {key : String} {kinds : String → Bool} {items : List Tree}
    (hs : Tree.fieldSort r.kind key = some (.nodes kinds)) (ha : d.Amends r key (.list items))
    (hitems : items.Perm (x :: (r.get key).items)) (hr : isImportPart r.kind = false) (hk : r.kind ≠ "ImportDeclaration")
    (hx : ∀ n ∈ x.subtree, n.kind ≠ "ImportDeclaration") : Gains touched d (d.set r.label key (.list items)) := by
  have hold (c : Tree) : c ∈ r.nodesAt key ↔ c ∈ (r.get key).items := hd.mem_nodesAt ha.mem hs
  have hin (c : Tree) : c ∈ (r.set key (.list items)).nodesAt key ↔ c = x ∨ c ∈ (r.get key).items := by
    rw [ha.mem_nodesAt hd hs, hitems.mem_iff, List.mem_cons]
  refine .set hd ha hr hk (fun c hc hnot => absurd ((hin c).mpr (.inr ((hold c).mp hc))) hnot) fun c hc hnot => ?_
  obtain rfl := ((hin c).mp hc).resolve_right fun hm => hnot ((hold c).mpr hm)
  exact hx

/-- An import gets a name. -/
theorem append (hd : d.InOrder) (hi : i ∈ d.root.imports)
    (ha : d.Amends i "specifiers" (.list (i.specifiers ++ [x]))) (hx : isNamedSpecifier x = true)
    (ht : touched i.label) : Gains touched d (d.set i.label "specifiers" (.list (i.specifiers ++ [x]))) := by
  obtain ⟨hin, hk⟩ := hd.mem_imports.mp hi
  have himports (n : Tree) := hd.mem_imports_set_self (n := n) hi ha
  have he : Enlarged touched i (i.set "specifiers" (.list (i.specifiers ++ [x]))) := by
    refine ⟨Tree.label_set i _ _, ?_, [x], ?_, List.forall_mem_singleton.mpr hx, fun _ => ht⟩
    · rw [sourceOf, Tree.get_set_of_ne (hd.isObj hin) (by decide)]
      rfl
    · rw [Tree.specifiers, Tree.get_set_self (hd.isObj hin), Tree.items_list]
  refine ⟨fun n hn => ?_, fun n hn => ?_⟩
  · by_cases hni : n = i
    · exact ⟨_, (himports _).mpr (.inl rfl), hni ▸ he⟩
    · exact ⟨n, (himports n).mpr (.inr ⟨hn, hni⟩), .refl n⟩
  · rcases (himports n).mp hn with rfl | ⟨hn, -⟩
    · exact ⟨i, hi, he⟩
    · exact ⟨n, hn, .refl n⟩

end Gains

/-- Whether an import with a label takes something by name. -/
def IsNamed (d : Document) (l : Nat) : Prop :=
  ∃ i ∈ d.root.imports, i.label = l ∧ i.specifiers.any isNamedSpecifier = true

/-- An import with a name keeps one. -/
theorem Gains.isNamed (h : Gains touched d d') {l : Nat} (hn : IsNamed d l) : IsNamed d' l := by
  obtain ⟨i, hi, rfl, hany⟩ := hn
  obtain ⟨i', hi', he⟩ := h.imports i hi
  obtain ⟨names, hs, -⟩ := he.specifiers
  exact ⟨i', hi', he.label, by rw [hs, List.any_append, hany]; rfl⟩

end Gains

/-! ### Names of imports -/

section Imported

variable {start : Document} {s₀ s : ScopeTree} {calls : List (Nat × Nat)} {touched : Nat → Prop} {c : Context}
  {method : Method} {i x : Tree} {d' : Document}

/-- A part of what is new has a label of its own. -/
theorem next_le_label {t : Tree} {key : String} {kinds : String → Bool} {n : Nat} (h : t.hasFields = true)
    (hs : Tree.fieldSort t.kind key = some (.node kinds)) (hl : ∀ l ∈ t.labels, n ≤ l) : n ≤ (t.get key).label :=
  hl _ (Tree.mem_labels_of_mem_subtree (Tree.isObj_of_hasFields h) (Tree.subtree_subset_of_mem_children
    (Tree.mem_children_of_nodesAt h ((Tree.mem_nodesAt_node h hs).mpr rfl)) (Tree.mem_subtree_self _)))

/-- **An import gets a name that is free.** -/
theorem Directs.importName {d : Document} (h : Directs start s₀ calls d s) (hs₀ : s₀.Nested)
    (hcalls : ∀ call ∈ calls, call.2 < start.next) (hi : i ∈ d.root.imports) (ht : touched i.label)
    (hnew : d.New x) (hx : x.Is (· == "ImportSpecifier")) (hlabels : ∀ l ∈ x.labels, start.next ≤ l) (base : String) :
    Directs start s₀ calls (d.editList i.label "specifiers" (· ++ [x]))
        (s.declare 0 (x.get "local").label (s.generateName base 0) "module" (some x)).1 ∧
      Gains touched d (d.editList i.label "specifiers" (· ++ [x])) ∧
      IsNamed (d.editList i.label "specifiers" (· ++ [x])) i.label := by
  have hd := h.order
  obtain ⟨hin, hk⟩ := hd.mem_imports.mp hi
  have hxk : x.kind = "ImportSpecifier" := beq_iff_eq.mp hx.kinds
  have hlocal : Tree.fieldSort x.kind "local" = some .name := by
    rw [hxk]
    rfl
  have hpos : 0 < s₀.scopes.size := lt_of_shape hs₀.root.choose_spec
  obtain ⟨hcarries, hrecords⟩ := h.carries.declare_generateName hs₀ hpos
    (next_le_label hx.2.hasFields hlocal hlabels) base "module" (some x)
  have huses (p q : Site) (_ : Stands d.root p) (hp : p.node = i) (hq : Reaches (p.below "specifiers" x) q) (l : Nat)
      (y : String) (w : Bool) (frames : List Frame) (he : Event.use l y w frames ∈ q.events) (b : Nat)
      (_ : s₀.boundIn 0 y = some b) : DeclaredInside start.root frames y ∨
        (s.declare 0 (x.get "local").label (s.generateName base 0) "module" (some x)).1.Records b l := by
    rcases (hq.inImport (p.inImport_below (hp ▸ hk) (.inl rfl) x)).events he with ⟨_, _, he⟩ | ⟨_, he⟩ <;> cases he
  obtain ⟨ha, hset⟩ := h.insert hcalls hin (hd.fieldSort_specifiers hi) (.inr (by decide)) (by decide)
    (by rw [hk]; decide) hnew (by rw [hxk]; rfl) hlabels (List.perm_append_singleton x _) hcarries hrecords huses
  rw [hd.editList_eq hin]
  have hnamed : isNamedSpecifier x = true := hx.2.isKind_iff.mpr hxk
  refine ⟨hset, Gains.append hd hi ha hnamed ht, _, (hd.mem_imports_set_self hi ha).mpr (.inl rfl),
    Tree.label_set i _ _, ?_⟩
  rw [Tree.specifiers, Tree.get_set_self (hd.isObj hin), Tree.items_list, List.any_append]
  simp [hnamed]

theorem answers_fieldOf {t : Tree} {key : String} {sort : FieldSort} (h : t.hasFields = true)
    (hs : Tree.fieldSort t.kind key = some sort) : Answers (t.field key) c (· = t.get key) := by
  obtain ⟨spec, hspec, hm⟩ := Tree.exists_of_fieldSort hs
  obtain ⟨v, hv, -⟩ := Tree.takes_of_hasFields h hspec hm
  rw [Tree.get_of_get? hv]
  exact answers_field hv

/-- A name has a text. -/
theorem answers_name {t : Tree} (h : t.hasFields = true) (hk : t.kind = "Identifier") :
    Answers (t.textField "name") c fun _ => True := by
  obtain ⟨v, hv, htakes⟩ := Tree.takes_of_hasFields h (by rw [hk]; rfl) (List.mem_singleton_self ("name", .text))
  cases v with
  | str s => exact (answers_textField hv).mono fun _ _ => trivial
  | _ => cases htakes

/-- **A method of an imported module is imported by name.** -/
theorem ends_importLocal (h : Directs start s₀ calls c.doc s) (hview : c.view = some s) (hs₀ : s₀.Nested)
    (hcalls : ∀ call ∈ calls, call.2 < start.next) (hi : i ∈ c.doc.root.imports)
    (hl : i.label = method.origin.statement) (ht : touched method.origin.statement) :
    Ends (importLocal method) c fun _ c' => ∃ s', c'.view = some s' ∧ Directs start s₀ calls c'.doc s' ∧
      Gains touched c.doc c'.doc ∧ IsNamed c'.doc method.origin.statement := by
  have hd := h.order
  obtain ⟨hin, hk⟩ := hd.mem_imports.mp hi
  refine (ends_node (Q := fun a c' => c = c' ∧ i = a) ⟨rfl, ?_⟩).bind ?_
  · rw [← hl, hd.get_label hin]
  rintro _ _ ⟨rfl, rfl⟩
  dsimp only
  refine (answers_findSomeM? (R := fun x _ => x.isKind "ImportSpecifier" = true) fun x hx => ?_).bind fun known hknown => ?_
  · split
    · rename_i hxk
      have hxin := hd.mem_items hin (hd.fieldSort_specifiers hi) hx
      have hxf := hd.fields x hxin
      have hkind := (Tree.isKind_iff_of_hasFields hxf).mp hxk
      -- both names of a specifier can be read
      have hname {key : String} (hs : Tree.fieldSort x.kind key = some .name) {β : Type}
          {f : String → Editing β} {R : β → Context → Prop} (hf : ∀ y, Ends (f y) c R) :
          Ends (do f (← (← x.field key).textField "name")) c R := by
        obtain ⟨hin, hk⟩ := hd.mem_get hxin hs
        refine (answers_fieldOf hxf hs).bind fun v hv => ?_
        subst hv
        exact (answers_name (hd.fields _ hin) (beq_iff_eq.mp hk)).bind fun y _ => hf y
      refine hname (by rw [hkind]; rfl) fun y => ?_
      split
      · exact hname (by rw [hkind]; rfl) fun y => answers_pure fun _ _ => hxk
      · exact answers_pure nofun
    · exact answers_pure nofun
  cases known with
  | some name =>
    obtain ⟨x, hx, hxk⟩ := hknown name rfl
    exact ends_pure ⟨s, hview, h, .refl touched _, i, hi, hl, List.any_eq_true.mpr ⟨x, hx, hxk⟩⟩
  | none =>
    refine (ends_view (Q := fun a c' => c = c' ∧ s = a) ⟨rfl, by rw [hview]; rfl⟩).bind ?_
    rintro _ _ ⟨rfl, rfl⟩
    refine (ends_adopt (Q := fun a c' => c' = _ ∧ a = _) ⟨rfl, rfl⟩).bind ?_
    rintro _ _ ⟨rfl, rfl⟩
    obtain ⟨h', hnew, hx, hlabels⟩ := h.adopted (Tree.is_importSpecifier method.name (s.generateName method.name 0))
      (Tree.labels_importSpecifier _ _)
    refine (ends_updateDoc (Q := fun _ c' => c' = _) rfl).bind ?_
    rintro _ _ rfl
    refine (ends_updateView (Q := fun _ c' => c' = _) rfl).bind ?_
    rintro _ _ rfl
    obtain ⟨hset, hgains, hnamed⟩ := h'.importName hs₀ hcalls hi (hl ▸ ht) hnew hx hlabels method.name
    refine ends_pure ⟨_, congrArg (Option.map _) hview, hset, ⟨hgains.imports, hgains.known⟩, ?_⟩
    rw [← hl]
    exact hnamed

end Imported

/-! ### Calls by name -/

/-- **What is known of a program before its calls are made direct**: notes tell of it. -/
structure Starts (start : Document) (notes : List Note) : Prop where
  order : start.InOrder
  is : start.root.Is (· == "Program")
  tells : Tells start.root notes
  walked : walk start.root.height (allChildren start.root 0 .normal) 1 = .ok notes

/-- Whether a pair is of a call of the program and of a name in it. -/
structure OldCall (start : Document) (call : Nat × Nat) : Prop where
  caller : ∃ c ∈ start.root.subtree, c.label = call.1 ∧ c.kind = "CallExpression"
  object : ∃ o ∈ start.root.subtree, o.label = call.2

section Direct

variable {start d : Document} {notes : List Note} {s : ScopeTree} {calls : List (Nat × Nat)} {touched : Nat → Prop}
  {call : Nat × Nat} {r x : Tree} {name : String}

/-- The name of an old call has a label of the program. -/
theorem OldCall.lt (h : OldCall start call) (hs : start.InOrder) :
    call.2 < start.next ∧ start.root.labels.count call.2 ≤ 1 := by
  obtain ⟨o, ho, he⟩ := h.object
  rw [← he]
  exact ⟨(hs.given _ (hs.label_mem ho)).2, hs.once o ho⟩

/-- **A node stands in the scopes in which it stood**, as the view knows them. -/
theorem Directs.frames_eq (h : Directs start (ofNotes start.root.label notes) calls d s) (hs : Starts start notes)
    {t₀ : Tree} (ht₀ : t₀ ∈ start.root.subtree) (hk : isCalleePart t₀.kind = false)
    (hopens : ∀ role frames, (Site.mk t₀ role frames).openedKinds = []) (hblock : t₀.kind ≠ "BlockStatement")
    (hprogram : t₀.kind ≠ "Program") {p : Site} (hp : Stands d.root p) (hl : p.node.label = t₀.label) {k : Nat}
    (hscope : (ofNotes start.root.label notes).scopeFor t₀.label = some k) :
    k < (declared start.root.label notes).scopes.size ∧ (declared start.root.label notes).framesAround k = p.frames := by
  obtain ⟨q₀, hq₀, rfl⟩ := exists_reaches (p := Site.root start.root) ht₀
  obtain ⟨hlt, hframes⟩ := hs.tells.framesAround_scopeFor hs.is hs.order.labelled hs.walked hq₀ (hopens _ _) hblock
    hprogram hscope
  obtain ⟨q, hq, hstays⟩ := h.stands q₀ hq₀ hk
  obtain rfl := hp.unique h.order.labelled hq (hl.trans hstays.label.symm)
  exact ⟨hlt, hframes.trans hstays.frames.symm⟩

/-- **Whether a callee can be replaced by a new name**: the call is one of the old ones, and the name stands nowhere. -/
structure Redirects (start : Document) (notes : List Note) (calls : List (Nat × Nat)) (d : Document) (s : ScopeTree)
    (call : Nat × Nat) (r x : Tree) : Prop where
  directs : Directs start (ofNotes start.root.label notes) calls d s
  starts : Starts start notes
  old : ∀ call ∈ calls, OldCall start call
  mem : call ∈ calls
  isCall : IsCall d call r
  new : d.New x
  is : x.Is (· == "Identifier")
  labels : ∀ l ∈ x.labels, start.next ≤ l

namespace Redirects

variable (h : Redirects start notes calls d s call r x)

include h

theorem order : d.InOrder := h.directs.order

theorem kind_name : x.kind = "Identifier" := beq_iff_eq.mp h.is.kinds

theorem fieldSort : Tree.fieldSort r.kind "callee" = some .expression := by
  rw [h.isCall.kind]
  rfl

theorem amends : d.Amends r "callee" x :=
  h.order.amends_node h.isCall.mem h.fieldSort (by rw [h.isCall.kind]; decide) (by decide) (by decide) h.new
    (by rw [h.kind_name]; rfl)

theorem mem_old {c : Tree} : c ∈ r.nodesAt "callee" ↔ c = r.get "callee" :=
  Tree.mem_nodesAt_node (h.order.fields r h.isCall.mem) h.fieldSort

theorem mem_new {c : Tree} : c ∈ (r.set "callee" x).nodesAt "callee" ↔ c = x := by
  rw [Tree.mem_nodesAt_node h.amends.fields (by rw [h.amends.alike.kind]; exact h.fieldSort),
    Tree.get_set_self (h.order.isObj h.isCall.mem)]

theorem subtree_name : x.subtree = [x] := by
  rw [Tree.subtree_eq, Tree.children_atom h.is.2.hasFields (.inl h.kind_name), List.flatMap_nil]

theorem le_label : start.next ≤ x.label := h.labels _ (Tree.mem_labels_self h.is.2.isObj)

theorem count_name {l : Nat} (hl : l < start.next) : x.labels.count l = 0 :=
  List.count_eq_zero_of_not_mem fun hm => absurd (h.labels l hm) (by omega)

theorem count_le {l : Nat} (hl : l < start.next) : x.labels.count l ≤ (r.get "callee").labels.count l := by
  rw [h.count_name hl]
  exact Nat.zero_le _

/-- The name of the object is gone with the callee. -/
theorem not_mem_object {call' : Nat × Nat} (hcall : call' ∈ calls) (hc : IsCall d call' r) :
    call'.2 ∉ (d.set r.label "callee" x).root.labels := fun hm => by
  obtain ⟨hlt, hone⟩ := (h.old call' hcall).lt h.starts.order
  have hset := h.order.count_set h.amends call'.2
  rw [h.count_name hlt] at hset
  have hpos := List.count_pos_iff.mpr hm
  have hin := List.count_pos_iff.mpr (hc.object (List.count_pos_iff.mp (by omega)))
  have hle := h.directs.old _ hlt
  omega

/-- Nothing but reads is lost with the callee. -/
theorem lost (p : Site) (c : Tree) (q : Site) (_ : Stands d.root p) (hp : p.node = r) (hc : c ∈ r.nodesAt "callee")
    (_ : c ∉ (r.set "callee" x).nodesAt "callee") (hq : Reaches (p.below "callee" c) q) :
    isCalleePart q.node.kind = true ∧ ∀ e ∈ q.events, ∃ l x frames, e = .use l x false frames := by
  obtain rfl := h.mem_old.mp hc
  obtain ⟨hrole, hpart⟩ := hq.of_callee (p.below_callee (hp ▸ h.isCall.kind) _).1 h.isCall.parts
  exact ⟨hpart, fun e he => q.events_of_callee hrole hpart he⟩

/-- What is below the call is the new name alone, in the scopes around the call. -/
theorem below_eq {p q : Site} (hp : p.node = r) (hq : Reaches (p.below "callee" x) q) :
    q = p.below "callee" x ∧ ((p.below "callee" x).role = .reads ∨ (p.below "callee" x).role = .inert) ∧
      (p.below "callee" x).frames = p.frames := by
  obtain ⟨hrole, hframes⟩ := p.below_callee (hp ▸ h.isCall.kind) x
  refine ⟨?_, hrole, hframes⟩
  cases hq with
  | refl => rfl
  | step hslot _ =>
    have hmem : _ ∈ x.children := Tree.mem_children_of_mem_slots hslot
    rw [Tree.children_atom h.is.2.hasFields (.inl h.kind_name)] at hmem
    cases hmem

/-- **The new name is recorded where it belongs**, if the scope of the call is the one that is looked up. -/
theorem records {s' : ScopeTree} {k : Nat} (hcarries : CarriesOn (ofNotes start.root.label notes) start.next s')
    (hcarries' : CarriesOn (ofNotes start.root.label notes) start.next (s'.setScope x.label k))
    (hk : (s'.scopeFor call.1).getD 0 = k) {p : Site} (hp : Stands d.root p) (hpr : p.node = r)
    {name : String} {b : Nat} (hb : (ofNotes start.root.label notes).boundIn 0 name = some b) :
    DeclaredInside start.root p.frames name ∨
      ((s'.setScope x.label k).addReference x.label name k (some (call.1, "callee")) false).1.Records b x.label := by
  obtain ⟨c₀, hc₀, hl₀, hk₀⟩ := (h.old call h.mem).caller
  have hold : call.1 < start.next := hl₀ ▸ (h.starts.order.given _ (h.starts.order.label_mem hc₀)).2
  cases hscope : s'.scopeFor call.1 with
  | none =>
    -- the name is looked up from the outermost scope
    rw [hscope] at hk
    obtain rfl : 0 = k := hk
    refine .inr (records_addReference (hcarries'.lt_of_boundIn hb) (lookup_of_boundIn ?_) _ _ _)
    rw [hcarries'.boundIn (by rw [hb]; nofun), hb]
  | some k' =>
    rw [hscope] at hk
    obtain rfl : k' = k := hk
    rw [hcarries.scopeFor hold, ← hl₀] at hscope
    obtain ⟨hlt, hsame⟩ := h.directs.frames_eq h.starts hc₀ (by rw [hk₀]; rfl)
      (fun _ _ => by simp [Site.openedKinds, hk₀]) (by rw [hk₀]; decide) (by rw [hk₀]; decide) hp
      (by rw [hpr, h.isCall.label, hl₀]) hscope
    rw [← hsame]
    exact hcarries'.records_addReference h.starts.tells hlt hb _ _ _

/-- The calls stay calls: this one has the name for its callee. -/
theorem exists_isCall {call' : Nat × Nat} (hcall : call' ∈ calls) :
    ∃ c, IsCall (d.set r.label "callee" x) call' c := by
  have hd := h.order
  obtain ⟨c, hc⟩ := h.directs.callees call' hcall
  by_cases hcr : c = r
  · subst hcr
    refine ⟨c.set "callee" x, ?_, (Tree.label_set c _ _).trans hc.label, (Tree.kind_set (by decide)).trans hc.kind, ?_,
      fun hm => absurd hm (h.not_mem_object hcall hc)⟩
    · rw [← hd.setAt_self h.amends]
      refine (hd.mem_subtree_set h.amends hc.mem).resolve_right ?_
      rintro ⟨c', hc', -, hm⟩
      obtain rfl := h.mem_old.mp hc'
      have hpart := hc.parts c hm
      rw [hc.kind] at hpart
      cases hpart
    · rw [Tree.get_set_self (hd.isObj hc.mem), h.subtree_name]
      simp [h.kind_name, isCalleePart]
  · exact ⟨_, h.directs.isCall_set h.amends h.lost (fun _ => h.count_le) (by rw [h.isCall.kind]; rfl)
      ((h.old call' hcall).lt h.starts.order).1 hc hcr⟩

/-- A call that is made direct touches no import. -/
theorem gains (touched : Nat → Prop) : Gains touched d (d.set r.label "callee" x) := by
  refine Gains.set h.order h.amends (by rw [h.isCall.kind]; rfl) (by rw [h.isCall.kind]; decide)
    (fun c hc _ n hn hnk => ?_) (fun c hc _ n hn hnk => ?_)
  · obtain rfl := h.mem_old.mp hc
    have hpart := h.isCall.parts n hn
    rw [hnk] at hpart
    cases hpart
  · obtain rfl := h.mem_new.mp hc
    rw [h.subtree_name, List.mem_singleton] at hn
    rw [hn, h.kind_name] at hnk
    exact absurd hnk (by decide)

/-- **A call is made direct.** -/
theorem direct {name : String} (hname : ((x.get "name").str?).getD "" = name) (spelling : String) {k : Nat}
    (hk : ((s.removeReference call.2 spelling).scopeFor call.1).getD 0 = k) :
    Directs start (ofNotes start.root.label notes) calls (d.set r.label "callee" x)
      (((s.removeReference call.2 spelling).setScope x.label k).addReference x.label name k
        (some (call.1, "callee")) false).1 := by
  have hcarries := h.directs.carries.removeReference call.2 spelling
  have hcarries' := hcarries.setScope h.le_label k
  refine h.directs.set h.amends h.lost (fun _ => h.count_le) (by rw [h.isCall.kind]; nofun)
    (hcarries'.addReference (x := name) h.le_label k (some (call.1, "callee")) false)
    (fun {y b l} hb hin hm => ?_) (fun p c q hp hpr hc _ hq l y w frames hev b hb => ?_) fun call' => h.exists_isCall
  · have hne : l ≠ call.2 := fun he => h.not_mem_object h.mem h.isCall (he ▸ hin)
    have hkept := hm.removeReference (h.directs.carries.lt_of_boundIn hb) hne spelling
    exact (hkept.setScope x.label k).addReference (hcarries'.lt_of_boundIn hb) x.label k name _ false
  · obtain rfl := h.mem_new.mp hc
    obtain ⟨rfl, hrole, hframes⟩ := h.below_eq hpr hq
    obtain ⟨rfl, rfl, rfl, rfl⟩ := Event.use.inj (Site.event_of_identifier hrole h.kind_name hev)
    have hcalled : (((p.below "callee" c).node.get "name").str?).getD "" = name := hname
    rw [hcalled] at hb
    rw [hframes, hcalled]
    exact h.records hcarries hcarries' hk hp hpr hb

end Redirects

theorem name_identifier (d : Document) (name : String) :
    (((d.adopt (Tree.identifier name)).1.get "name").str?).getD "" = name := rfl

/-- **A call is made direct, and what is known of the program stays true.** -/
theorem ends_callDirectly {c : Context} (h : Directs start (ofNotes start.root.label notes) calls c.doc s)
    (hview : c.view = some s) (hs : Starts start notes) (hcalls : ∀ call ∈ calls, OldCall start call)
    (hcall : call ∈ calls) (touched : Nat → Prop) (name : String) :
    Ends (callDirectly name call.1 call.2) c fun _ c' => ∃ s', c'.view = some s' ∧
      Directs start (ofNotes start.root.label notes) calls c'.doc s' ∧ Gains touched c.doc c'.doc := by
  obtain ⟨h', hnew, hx, hlabels⟩ := h.adopted
    (show (Tree.identifier name).Is (· == "Identifier") from Tree.is_identifier name rfl) (Tree.labels_identifier name)
  obtain ⟨r, hr⟩ := h'.callees call hcall
  refine (ends_adopt (Q := fun a c' => c' = _ ∧ a = _) ⟨rfl, rfl⟩).bind ?_
  rintro _ _ ⟨rfl, rfl⟩
  refine (ends_node (Q := fun a c' => c' = _ ∧ a = _) ⟨rfl, rfl⟩).bind ?_
  rintro _ _ ⟨rfl, rfl⟩
  refine (ends_updateDoc (Q := fun _ c' => c' = _) rfl).bind ?_
  rintro _ _ rfl
  have hredirects : Redirects start notes calls _ s call r _ := ⟨h', hs, hcalls, hcall, hr, hnew, hx, hlabels⟩
  have hset := hredirects.direct (name_identifier c.doc name)
    ((((c.doc.adopt (Tree.identifier name)).2.get call.2).get "name").str?.getD "") rfl
  have hgains := hredirects.gains touched
  rw [hr.label] at hset hgains
  refine ends_updateView ⟨_, congrArg (Option.map _) hview, hset, ⟨hgains.imports, hgains.known⟩⟩

end Direct

end Rules.DirectCall

end Deminify
