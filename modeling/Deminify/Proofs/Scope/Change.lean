import Deminify.Proofs.Scope.Excerpt
import Deminify.Proofs.Tree.Change

/-!
# Where the nodes of an edited program stand

A field of one record is set, and the record keeps all that the scopes and the roles of its children depend on
(`Deminify.Tree.Alike`). Then every node stands where it stood, unless it was below a child that the record has lost
(`Deminify.Reaches.setAt`); and what stands in the edited program stood in the old one, or it is below a child that is
new (`Deminify.exists_of_reaches_setAt`). Both are proved along the way from the root to the node: the only step at which
something can change is the one through the record.
-/

namespace Deminify

namespace Tree

/-- **Whether two nodes are alike** in all that the scopes and the roles of their children depend on. -/
structure Alike (t t' : Tree) : Prop where
  label : t'.label = t.label
  kind : t'.kind = t.kind
  name : (t'.get "name").str? = (t.get "name").str?
  word : (t'.get "kind").str? = (t.get "kind").str?
  id : (t'.get "id").truthy = (t.get "id").truthy
  init : (t'.get "init").isNull = (t.get "init").isNull
  body : (t'.get "body").isKind "BlockStatement" = (t.get "body").isKind "BlockStatement"
  computed : (t'.get "computed").truthy = (t.get "computed").truthy
  source : (t'.get "source").isNull = (t.get "source").isNull

/-- The fields that scopes and roles depend on. -/
def siteKeys : List String := ["name", "kind", "id", "init", "body", "computed", "source"]

section Settable

variable {t r c n : Tree} {label : Nat} {key : String} {value : Tree}

/-- A field that nothing depends on. -/
theorem alike_set (ht : t.isObj = true) (htype : key ≠ "type") (hkey : key ∉ siteKeys) :
    Alike t (t.set key value) := by
  have hget {k : String} (hk : k ∈ siteKeys) : (t.set key value).get k = t.get k :=
    get_set_of_ne ht fun he => hkey (he ▸ hk)
  refine ⟨label_set t key value, kind_set htype, ?_, ?_, ?_, ?_, ?_, ?_, ?_⟩ <;> rw [hget (by decide)]

/-- A list of statements. -/
theorem alike_set_list (ht : t.isObj = true) {items items' : List Tree} (hlist : t.get key = .list items)
    (hkey : key = "body" ∨ key ∉ siteKeys) (htype : key ≠ "type") : Alike t (t.set key (.list items')) := by
  rcases hkey with rfl | hkey
  · have hget {k : String} (hk : k ≠ "body") : (t.set "body" (.list items')).get k = t.get k := get_set_of_ne ht hk
    refine ⟨label_set t _ _, kind_set htype, ?_, ?_, ?_, ?_, ?_, ?_, ?_⟩
    iterate 4 rw [hget (by decide)]
    · rw [get_set_self ht, hlist]
      rfl
    all_goals rw [hget (by decide)]
  · exact alike_set ht htype hkey

/-- **Whether a field can be set at a label**: it stands once, at a node whose keys differ and that stays alike. -/
structure Settable (t : Tree) (label : Nat) (key : String) (value : Tree) : Prop where
  once : t.labels.count label ≤ 1
  key_ne : key ≠ "type"
  node : ∀ r ∈ t.records, r.label = label → r.isNode = true ∧ DistinctKeys r.fields ∧ Alike r (r.set key value)

/-- What can be set in a tree can be set in its records. -/
theorem Settable.mono (h : t.Settable label key value) (hr : r ∈ t.records) : r.Settable label key value :=
  ⟨Nat.le_trans (count_labels_of_mem_records hr label) h.once, h.key_ne,
    fun x hx => h.node x (records_subset_of_mem_records hr hx)⟩

/-- What can be set in a node can be set in its children. -/
theorem Settable.child (h : t.Settable label key value) (hc : c ∈ t.children) : c.Settable label key value :=
  h.mono (records_subset_of_mem_children hc (mem_records_self (isObj_of_isNode (mem_children.mp hc).1)))

/-- One node of the tree is enough. -/
theorem settable_of_mem (honce : t.labels.count r.label ≤ 1) (hr : r ∈ t.records) (hnode : r.isNode = true)
    (hd : DistinctKeys r.fields) (htype : key ≠ "type") (ha : Alike r (r.set key value)) :
    t.Settable r.label key value := by
  refine ⟨honce, htype, fun x hx hl => ?_⟩
  obtain rfl := eq_of_label_of_count hx hr hl (hl ▸ honce)
  exact ⟨hnode, hd, ha⟩

theorem Settable.truthy_setAt (h : t.Settable label key value) : (t.setAt label key value).truthy = t.truthy := by
  cases t with
  | obj l fields =>
    rw [setAt, edit]
    by_cases hl : l = label
    · -- a record that is a node has fields, before and after
      have hnode := truthy_of_isNode (h.node _ (mem_records_self rfl) hl).1
      rw [if_pos hl, hnode]
      have hset : ((obj l (editFields label (·.set key value) fields)).set key value).truthy = true := by
        rw [set, truthy]
        cases editFields label (·.set key value) fields with
        | nil => rfl
        | cons f rest =>
          rw [putKey]
          split <;> rfl
      exact hset
    · rw [if_neg hl, truthy, truthy, editFields_eq, List.isEmpty_map]
  | list items => rw [setAt, edit, editItems_eq, truthy, truthy, List.isEmpty_map]
  | _ => rfl

/-- The value of a field, for which the same holds if it is a record. -/
theorem Settable.truthy_get (h : t.Settable label key value) (k : String) :
    ((t.get k).setAt label key value).truthy = (t.get k).truthy := by
  cases hv : t.get k with
  | obj l fields =>
    have hr : obj l fields ∈ t.records := by
      refine (sublist_records_get t k).subset ?_
      rw [hv]
      exact mem_records_self rfl
    exact (h.mono hr).truthy_setAt
  | list items => rw [setAt, edit, editItems_eq, truthy, truthy, List.isEmpty_map]
  | _ => rfl

/-- **Every node stays alike.** -/
theorem Settable.alike (h : t.Settable label key value) (ht : t.isObj = true) : Alike t (t.setAt label key value) := by
  by_cases hl : t.label = label
  · rw [← hl, setAt_self ht (hl.symm ▸ h.once)]
    exact (h.node t (mem_records_self ht) hl).2.2
  · have hget (k : String) : (t.setAt label key value).get k = (t.get k).setAt label key value :=
      get_setAt_of_ne hl k
    refine ⟨label_setAt t, kind_setAt h.key_ne t, ?_, ?_, ?_, ?_, ?_, ?_, ?_⟩
    · rw [hget, str?_setAt]
    · rw [hget, str?_setAt]
    · rw [hget, h.truthy_get]
    · rw [hget, isNull_setAt]
    · rw [hget, isKind_setAt h.key_ne]
    · rw [hget, h.truthy_get]
    · rw [hget, isNull_setAt]

end Settable

end Tree

/-! ### Sites -/

namespace Site

variable {p p' : Site} (h : p.node.Alike p'.node) (hrole : p'.role = p.role) (hframes : p'.frames = p.frames)

include h hrole

/-- Nodes that are alike open the same scopes. -/
theorem openedKinds_alike : p'.openedKinds = p.openedKinds := by
  simp only [openedKinds, h.kind, h.id, hrole]

theorem opened_alike : p'.opened = p.opened := by
  rw [opened, opened, openedKinds_alike h hrole, h.label]

include hframes

theorem framesAt_alike (key : String) : p'.framesAt key = p.framesAt key := by
  have hinside : p'.isInside key = p.isInside key := by simp only [isInside, h.kind]
  rw [framesAt, framesAt, hinside, opened_alike h hrole, hframes]

/-- Nodes that are alike give the same roles. -/
theorem roleAt_alike (key : String) : p'.roleAt key = p.roleAt key := by
  have hkind : p'.roleByKind key = p.roleByKind key := by
    simp only [roleByKind, h.kind, h.label, h.word, h.init, h.body, h.computed, h.source, hrole, hframes]
  simp only [roleAt, hkind, h.kind, hrole, hframes]

theorem below_alike (key : String) (child : Tree) : p'.below key child = p.below key child := by
  rw [below, below, roleAt_alike h hrole hframes, framesAt_alike h hrole hframes]

/-- What happens at a site depends on nothing else. -/
theorem events_alike : p'.events = p.events := by
  simp only [events, h.kind, h.label, h.name, hrole, hframes, opened_alike h hrole]

end Site

/-- The site of a node in which a field is set. -/
def Site.setAt (p : Site) (label : Nat) (key : String) (value : Tree) : Site :=
  ⟨p.node.setAt label key value, p.role, p.frames⟩

section Sites

variable {p q q' : Site} {label : Nat} {key : String} {value : Tree}

/-- The sites below change with the site. -/
theorem Site.setAt_below (h : p.node.Settable label key value) (hp : p.node.isObj = true) (k : String) (child : Tree) :
    (p.setAt label key value).below k (child.setAt label key value) = (p.below k child).setAt label key value := by
  have hbelow (c : Tree) : (p.setAt label key value).below k c = p.below k c :=
    @Site.below_alike p (p.setAt label key value) (h.alike hp) rfl rfl k c
  rw [hbelow]
  rfl

/-- A site without the label stays as it is. -/
theorem Site.setAt_of_not_mem (h : label ∉ p.node.labels) : p.setAt label key value = p := by
  rw [Site.setAt, Tree.setAt_of_not_mem h]

/-- A label does not occur below the record that has it. -/
theorem Tree.Settable.not_mem_child {t c : Tree} (h : t.Settable label key value) (ht : t.isObj = true)
    (hl : t.label = label) {k : String} (hc : c ∈ t.nodesAt k) : label ∉ c.labels := by
  intro hm
  obtain ⟨-, -, hc⟩ := Tree.mem_nodesAt hc
  have hget := Tree.count_labels_get (l := label) ht k
  rw [if_pos hl] at hget
  have hpos : 0 < (t.get k).labels.count label := by
    refine List.count_pos_iff.mpr ?_
    rcases hc with rfl | hc
    · exact hm
    · rw [Tree.labels_eq_map_records] at hm ⊢
      obtain ⟨r, hr, rfl⟩ := List.mem_map.mp hm
      exact List.mem_map_of_mem ((Tree.sublist_records_item hc).subset hr)
  have := h.once
  omega

/-- **A node stands where it stood**, unless it was below a child that the record has lost. -/
theorem Reaches.setAt (hq : Reaches p q) (h : p.node.Settable label key value) (hp : p.node.isObj = true) :
    Reaches (p.setAt label key value) (q.setAt label key value) ∨
      ∃ r c, Reaches p r ∧ r.node.label = label ∧ c ∈ r.node.nodesAt key ∧
        c ∉ (r.node.set key value).nodesAt key ∧ Reaches (r.below key c) q := by
  induction hq with
  | refl p => exact .inl (.refl _)
  | @step p q slot child hx hq ih =>
    have hchild := Tree.mem_children_of_mem_slots hx
    have hobj := Tree.isObj_of_isNode (Tree.mem_children.mp hchild).1
    have hbelow := Site.setAt_below h hp slot.key child
    by_cases hl : p.node.label = label
    · obtain ⟨-, hd, -⟩ := h.node _ (Tree.mem_records_self hp) hl
      have hnode : p.node.setAt label key value = p.node.set key value := by
        rw [← hl, Tree.setAt_self hp (hl.symm ▸ h.once)]
      have hin : child ∈ p.node.nodesAt slot.key := (Tree.mem_nodesAt_iff hd).mpr ⟨slot, rfl, hx⟩
      have hnot := h.not_mem_child hp hl hin
      -- the child is still one of the record, or it is lost
      by_cases hkept : child ∈ (p.node.set key value).nodesAt slot.key
      · obtain ⟨slot', hkey, hslot⟩ := (Tree.mem_nodesAt_iff (Tree.distinctKeys_set hd)).mp hkept
        refine (ih (h.child hchild) hobj).imp (fun hr => ?_) ?_
        · have hslot' : (slot', child) ∈ (p.setAt label key value).node.slots := by
            rw [Site.setAt, hnode]
            exact hslot
          refine .step hslot' ?_
          rw [hkey, ← Tree.setAt_of_not_mem hnot, hbelow]
          exact hr
        · rintro ⟨r, c, hr, hlr, hrest⟩
          have hmem := Tree.subtree_subset_records hobj hr.mem_subtree
          exact absurd (Tree.labels_subset_of_mem_records hmem
            (hlr ▸ Tree.mem_labels_self (Tree.isObj_of_mem_records hmem))) hnot
      · by_cases hkey : slot.key = key
        · subst hkey
          exact .inr ⟨p, child, .refl p, hl, hin, hkept, hq⟩
        · rw [Tree.nodesAt_set_of_ne hp hkey] at hkept
          exact absurd hin hkept
    · refine (ih (h.child hchild) hobj).imp (fun hr => ?_) ?_
      · have hslot : (slot, child.setAt label key value) ∈ (p.setAt label key value).node.slots := by
          rw [Site.setAt, Tree.slots_setAt h.key_ne hl]
          exact List.mem_map_of_mem hx
        refine .step hslot ?_
        rw [hbelow]
        exact hr
      · rintro ⟨r, c, hr, hrest⟩
        exact ⟨r, c, .step hx hr, hrest⟩

/-- **What stands in the edited program** stood in the old one, or it is below a child that is new. -/
theorem exists_of_reaches_setAt (hq : Reaches (p.setAt label key value) q') (h : p.node.Settable label key value)
    (hp : p.node.isObj = true) : (∃ q, Reaches p q ∧ q.setAt label key value = q') ∨
      ∃ r c, Reaches p r ∧ r.node.label = label ∧ c ∈ (r.node.set key value).nodesAt key ∧
        c ∉ r.node.nodesAt key ∧ Reaches (r.below key c) q' := by
  generalize hs : p.setAt label key value = s at hq
  induction hq generalizing p with
  | refl s => exact .inl ⟨p, .refl p, hs⟩
  | @step s q' slot child hx hq ih =>
    subst hs
    have hbelow (c : Tree) : (p.setAt label key value).below slot.key c = p.below slot.key c :=
      @Site.below_alike p (p.setAt label key value) (h.alike hp) rfl rfl slot.key c
    -- at the node that is edited a child is an old one, and then nothing below it is edited, or it is new
    by_cases hl : p.node.label = label
    · obtain ⟨-, hd, -⟩ := h.node _ (Tree.mem_records_self hp) hl
      have hnode : p.node.setAt label key value = p.node.set key value := by
        rw [← hl, Tree.setAt_self hp (hl.symm ▸ h.once)]
      have hin : child ∈ (p.node.set key value).nodesAt slot.key :=
        (Tree.mem_nodesAt_iff (Tree.distinctKeys_set hd)).mpr
          ⟨slot, rfl, hnode ▸ (show (slot, child) ∈ (p.setAt label key value).node.slots from hx)⟩
      by_cases hold : child ∈ p.node.nodesAt slot.key
      · obtain ⟨slot', hkey, hslot⟩ := (Tree.mem_nodesAt_iff hd).mp hold
        have hchild := Tree.mem_children_of_mem_slots hslot
        have hobj := Tree.isObj_of_isNode (Tree.mem_children.mp hchild).1
        have hnot := h.not_mem_child hp hl hold
        have hsame : (p.below slot.key child).setAt label key value =
            (p.setAt label key value).below slot.key child := by
          rw [Site.setAt_of_not_mem hnot, hbelow]
        refine (ih (h.child hchild) hobj hsame).imp ?_ ?_
        · rintro ⟨q, hr, he⟩
          exact ⟨q, .step hslot (hkey ▸ hr), he⟩
        · rintro ⟨r, c, hr, hrest⟩
          exact ⟨r, c, .step hslot (hkey ▸ hr), hrest⟩
      · have hkey : slot.key = key := by
          by_contra hne
          rw [Tree.nodesAt_set_of_ne hp hne] at hin
          exact hold hin
        rw [hkey] at hin hold hq hbelow
        exact .inr ⟨p, child, .refl p, hl, hin, hold, hbelow child ▸ hq⟩
    · have hslots : (slot, child) ∈ (p.node.setAt label key value).slots := hx
      rw [Tree.slots_setAt h.key_ne hl] at hslots
      obtain ⟨⟨slot, c⟩, hslot, he⟩ := List.mem_map.mp hslots
      cases he
      have hchild := Tree.mem_children_of_mem_slots hslot
      have hobj := Tree.isObj_of_isNode (Tree.mem_children.mp hchild).1
      refine (ih (h.child hchild) hobj (Site.setAt_below h hp slot.key c).symm).imp ?_ ?_
      · rintro ⟨q, hr, he⟩
        exact ⟨q, .step hslot hr, he⟩
      · rintro ⟨r, c', hr, hrest⟩
        exact ⟨r, c', .step hslot hr, hrest⟩

end Sites

/-! ### Programs -/

section Programs

variable {t n n' : Tree} {label : Nat} {key : String} {value : Tree} (h : t.Settable label key value)
  (ht : t.isObj = true)

theorem Site.root_setAt : Site.root (t.setAt label key value) = (Site.root t).setAt label key value := by
  rw [Site.root, Tree.label_setAt]
  rfl

/-- What stands in the program that has changed is reached from its root. -/
theorem stands_root_setAt {q' : Site} : Stands (t.setAt label key value) q' ↔
    Reaches ((Site.root t).setAt label key value) q' := by
  rw [Stands, Site.root_setAt]

include h ht

/-- The nodes of the edited tree. -/
theorem Tree.exists_of_mem_subtree_setAt (hn : n' ∈ (t.setAt label key value).subtree) :
    (∃ n ∈ t.subtree, n.setAt label key value = n') ∨ ∃ r ∈ t.subtree, r.label = label ∧
      ∃ c ∈ (r.set key value).nodesAt key, c ∉ r.nodesAt key ∧ n' ∈ c.subtree := by
  obtain ⟨q', hq, rfl⟩ := exists_reaches (p := (Site.root t).setAt label key value) hn
  refine (exists_of_reaches_setAt hq h ht).imp ?_ ?_
  · rintro ⟨q, hr, rfl⟩
    exact ⟨q.node, hr.mem_subtree, rfl⟩
  · rintro ⟨r, c, hr, hl, hin, hnew, hbelow⟩
    exact ⟨r.node, hr.mem_subtree, hl, c, hin, hnew, hbelow.mem_subtree⟩

/-- The nodes of the old tree. -/
theorem Tree.mem_subtree_setAt (hn : n ∈ t.subtree) :
    n.setAt label key value ∈ (t.setAt label key value).subtree ∨ ∃ r ∈ t.subtree, r.label = label ∧
      ∃ c ∈ r.nodesAt key, c ∉ (r.set key value).nodesAt key ∧ n ∈ c.subtree := by
  obtain ⟨q, hq, rfl⟩ := exists_reaches (p := Site.root t) hn
  refine (Reaches.setAt hq h ht).imp (fun hr => hr.mem_subtree) ?_
  rintro ⟨r, c, hr, hl, hin, hlost, hbelow⟩
  exact ⟨r.node, hr.mem_subtree, hl, c, hin, hlost, hbelow.mem_subtree⟩

/-- **An edit changes no events** of the nodes that stay. -/
theorem events_setAt {q : Site} (hq : Stands t q) : (q.setAt label key value).events = q.events := by
  have hmem := Tree.subtree_subset_records ht hq.mem_subtree
  exact @Site.events_alike q (q.setAt label key value)
    ((h.mono hmem).alike (Tree.isObj_of_mem_records hmem)) rfl rfl

/-- **What happens in the edited program** happened in the old one, or it happens at or below a new child. -/
theorem happens_of_setAt {e : Event} (he : Happens (t.setAt label key value) e) : Happens t e ∨
    ∃ r c, Stands t r ∧ r.node.label = label ∧ c ∈ (r.node.set key value).nodesAt key ∧ c ∉ r.node.nodesAt key ∧
      ∃ q, Reaches (r.below key c) q ∧ e ∈ q.events := by
  obtain ⟨q', hq, he⟩ := he
  rcases exists_of_reaches_setAt (stands_root_setAt.mp hq) h ht with
    ⟨q, hr, rfl⟩ | ⟨r, c, hr, hl, hin, hnew, hbelow⟩
  · exact .inl ⟨q, hr, by rwa [events_setAt h ht hr] at he⟩
  · exact .inr ⟨r, c, hr, hl, hin, hnew, q', hbelow, he⟩

/-- **What happened in the old program** happens in the edited one, or it happened at or below a child that is
lost. -/
theorem happens_setAt {e : Event} (he : Happens t e) : Happens (t.setAt label key value) e ∨
    ∃ r c, Stands t r ∧ r.node.label = label ∧ c ∈ r.node.nodesAt key ∧ c ∉ (r.node.set key value).nodesAt key ∧
      ∃ q, Reaches (r.below key c) q ∧ e ∈ q.events := by
  obtain ⟨q, hq, he⟩ := he
  rcases Reaches.setAt hq h ht with hr | ⟨r, c, hr, hl, hin, hlost, hbelow⟩
  · exact .inl ⟨_, stands_root_setAt.mpr hr, by rwa [events_setAt h ht hq]⟩
  · exact .inr ⟨r, c, hr, hl, hin, hlost, q, hbelow, he⟩

end Programs

/-! ### Nodes that an edit leaves alone -/

namespace Tree

theorem sublist_labels_children (t : Tree) (ht : t.isObj = true) :
    (t.label :: t.children.flatMap labels).Sublist t.labels := by
  have hfield (key : String) (value : Tree) :
      (((fieldSlots key value).map (·.2)).flatMap labels).Sublist value.labels := by
    rw [fieldSlots.eq_def]
    split
    · split
      · rename_i items
        rw [map_itemSlots, labels_list]
        exact List.filter_sublist.flatMap labels
      · split
        · rw [List.map_singleton, List.flatMap_singleton]
        · exact List.nil_sublist _
    · exact List.nil_sublist _
  cases t with
  | obj l fields =>
    rw [children, slots, fields_obj, List.map_flatMap, List.flatMap_assoc, labels, labelsFields_eq, label_obj]
    exact .cons_cons l (List.Sublist.flatMap_right fields fun f _ => hfield f.1 f.2)
  | _ => cases ht

/-- **What has a label in a node** is part of the node. -/
theorem mem_subtree_of_label {t n r : Tree} (ht : t.isObj = true) (honce : t.labels.count r.label ≤ 1)
    (hn : n ∈ t.subtree) (hr : r ∈ t.subtree) (hl : r.label ∈ n.labels) : r ∈ n.subtree := by
  induction hh : t.height using Nat.strongRecOn generalizing t with
  | _ height ih =>
    subst hh
    have hsub := sublist_labels_children t ht
    have hcount := hsub.count_le r.label
    rcases mem_subtree.mp hn with rfl | ⟨c, hc, hn⟩
    · exact hr
    have hobj := isObj_of_isNode (mem_children.mp hc).1
    have hin : r.label ∈ c.labels := labels_subset_of_mem_records (subtree_subset_records hobj hn) hl
    rcases mem_subtree.mp hr with rfl | ⟨c', hc', hr⟩
    · -- the label of the whole would stand once more in a part
      have hpos : 0 < (r.children.flatMap labels).count r.label :=
        List.count_pos_iff.mpr (List.mem_flatMap.mpr ⟨c, hc, hin⟩)
      rw [List.count_cons_self] at hcount
      omega
    · have hobj' := isObj_of_isNode (mem_children.mp hc').1
      have hin' : r.label ∈ c'.labels := by
        have hmem := subtree_subset_records hobj' hr
        exact labels_subset_of_mem_records hmem (mem_labels_self (isObj_of_mem_records hmem))
      have hbelow : (t.children.flatMap labels).count r.label ≤ 1 :=
        Nat.le_trans ((List.sublist_cons_self _ _).count_le _) (Nat.le_trans hcount honce)
      obtain ⟨before, after, he, -, hother⟩ := exists_split_of_once hc hin hbelow
      obtain rfl : c' = c := by
        rw [he] at hc'
        rcases List.mem_append.mp hc' with hb | hb
        · exact absurd hin' (hother _ (List.mem_append_left _ hb))
        · rcases List.mem_cons.mp hb with rfl | hb
          · rfl
          · exact absurd hin' (hother _ (List.mem_append_right _ hb))
      have hle := count_labels_of_mem_records (records_subset_of_mem_children hc (mem_records_self hobj)) r.label
      exact ih _ (height_lt_of_mem_children hc) hobj (Nat.le_trans hle honce) hn hr rfl

/-- **An edit leaves a node alone** that the record is no part of. -/
theorem setAt_of_not_mem_subtree {t n r : Tree} {key : String} {value : Tree} (ht : t.isObj = true)
    (honce : t.labels.count r.label ≤ 1) (hn : n ∈ t.subtree) (hr : r ∈ t.subtree) (h : r ∉ n.subtree) :
    n.setAt r.label key value = n :=
  setAt_of_not_mem fun hl => h (mem_subtree_of_label ht honce hn hr hl)

end Tree

end Deminify
