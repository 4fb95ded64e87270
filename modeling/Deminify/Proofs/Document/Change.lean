import Deminify.Proofs.Scope.Change
import Deminify.Tree.Build

/-!
# Programs under edit

Between its edits a program need not be well formed: an import may bind for a while what cannot stand together. What
does hold after every edit is that the program is *in order* (`Deminify.Document.InOrder`): each node has a label of its
own and the fields of its kind. An edit sets a field of a node, and whether it *amends* the program can be seen from the
node and from what is new below it (`Deminify.Document.Amends`); **then the program stays in order**
(`Deminify.Document.InOrder.set`).

The comments of a node may be shared when a part of it is copied, so no more is asked of labels that no node has than
that they have been given out.

An edit that puts something new into a program makes it first and has it labelled. A value whose records have no labels
yet, or labels that the program does not know, is *fresh* (`Deminify.Document.Fresh`); **when it is adopted it can be
put into the program** (`Deminify.Document.InOrder.new_adopt`).
-/

namespace Deminify

namespace Tree

variable {t r : Tree} {label : Nat} {key : String} {value : Tree}

/-- What a node holds under a key of its kind. -/
theorem takes_of_fieldSort (h : t.hasFields = true) {sort : FieldSort} (hs : fieldSort t.kind key = some sort) :
    sort.takes (t.get key) = true := by
  obtain ⟨spec, hspec, hm⟩ := exists_of_fieldSort hs
  obtain ⟨v, hv, ht⟩ := takes_of_hasFields h hspec hm
  rwa [get_of_get? hv]

section Fields

variable {t c : Tree} {key : String} {value : Tree} {kinds : String → Bool} {sort : FieldSort}

/-- A node with the fields of its kind is of the kinds that its kind is one of. -/
theorem isOf_of_hasFields (h : t.hasFields = true) (hk : kinds t.kind = true) : t.isOf kinds = true :=
  isOf_iff.mpr ⟨_, isObj_of_hasFields h, get?_type_of_hasFields h, hk⟩

theorem key_ne_type (hs : fieldSort t.kind key = some sort) : key ≠ "type" := by
  rintro rfl
  exact absurd (holdsChildren_of_fieldSort hs) (by decide)

/-- **A node keeps the fields of its kind** when one of them is set to what it can hold. -/
theorem hasFields_set (h : t.hasFields = true) (hs : fieldSort t.kind key = some sort) (hv : sort.takes value = true)
    (hp : t.kind ≠ "Property") : (t.set key value).hasFields = true := by
  obtain ⟨spec, hspec, hm⟩ := exists_of_fieldSort hs
  have hd := distinct_of_hasFields h
  have htakes {k : String} {sort : FieldSort} (hk : (k, sort) ∈ spec) :
      ((t.set key value).get? k).any sort.takes = true := by
    rw [get?_set (isObj_of_hasFields h)]
    split
    · rename_i hkey
      -- the keys of a kind differ, so that the sort is the same
      subst hkey
      rw [fieldSort, hspec, Option.bind_some] at hs
      obtain rfl : sort = _ := by
        have hone := nodup_of_schema hspec
        exact congrArg Prod.snd (List.inj_on_of_nodup_map hone hk (mem_of_lookup hs) rfl)
      exact hv
    · obtain ⟨v, hv, ht⟩ := takes_of_hasFields h hspec hk
      rw [hv]
      exact ht
  have hknown (f : String × Tree) (hf : f ∈ (t.set key value).fields) : isKnownField spec f = true := by
    by_cases hkey : holdsChildren f.1 = true
    · have hget : (t.set key value).get? f.1 = some f.2 :=
        (distinctKeys_set hd).lookup (isShapeKey_of_holdsChildren hkey) hf
      rw [get?_set (isObj_of_hasFields h)] at hget
      split at hget
      · rename_i he
        rw [isKnownField, he, List.lookup_isSome_iff.mpr ⟨_, hm, by simp⟩]
        rfl
      · exact known_of_hasFields h hspec hget
    · rw [isKnownField, Bool.eq_false_of_not_eq_true hkey]
      simp
  rw [hasFields, kind_set (key_ne_type hs), hspec]
  simp only [Bool.and_eq_true, decide_eq_true_eq, List.all_eq_true, Bool.or_eq_true, bne_iff_ne]
  exact ⟨⟨⟨distinctKeys_set hd, fun f hf => htakes hf⟩, hknown⟩, .inl hp⟩

/-- A field for nodes holds a list of nodes of its kinds. -/
theorem exists_list_of_nodes (h : t.hasFields = true) (hs : fieldSort t.kind key = some (.nodes kinds)) :
    ∃ items, t.get key = .list items ∧ ∀ c ∈ items, c.isOf kinds = true := by
  have htakes := takes_of_fieldSort h hs
  rw [FieldSort.takes, Bool.and_eq_true, List.all_eq_true] at htakes
  cases hv : t.get key with
  | list items =>
    rw [hv] at htakes
    exact ⟨items, rfl, htakes.2⟩
  | _ =>
    rw [hv] at htakes
    cases htakes.1

/-- The nodes in a list of nodes. -/
theorem mem_nodesAt_nodes (h : t.hasFields = true) (hs : fieldSort t.kind key = some (.nodes kinds)) :
    c ∈ t.nodesAt key ↔ c ∈ (t.get key).items := by
  obtain ⟨items, hlist, hitems⟩ := exists_list_of_nodes h hs
  rw [nodesAt_of_list (holdsChildren_of_fieldSort hs) hlist, List.mem_filter, hlist, items_list, and_iff_left_iff_imp]
  exact fun hc => isNode_of_isOf (hitems c hc)

/-- The labels under a field for nodes are those of its items. -/
theorem labels_get_nodes (h : t.hasFields = true) (hs : fieldSort t.kind key = some (.nodes kinds)) :
    (t.get key).labels = (t.get key).items.flatMap labels := by
  obtain ⟨items, hlist, -⟩ := exists_list_of_nodes h hs
  rw [hlist, labels_list, items_list]

/-- The nodes in a field for one node. -/
theorem mem_nodesAt_node (h : t.hasFields = true) (hs : fieldSort t.kind key = some (.node kinds)) :
    c ∈ t.nodesAt key ↔ c = t.get key := by
  have hnode := isNode_of_isOf (takes_of_fieldSort h hs)
  have hobj := isObj_of_isNode hnode
  rw [nodesAt, mem_fieldSlots]
  constructor
  · rintro ⟨-, -, rfl | hc⟩
    · rfl
    · cases hv : t.get key with
      | obj l fields =>
        rw [hv] at hc
        cases hc
      | _ =>
        rw [hv] at hobj
        cases hobj
  · rintro rfl
    exact ⟨hnode, holdsChildren_of_fieldSort hs, .inl rfl⟩

theorem get_mem_nodesAt (hs : fieldSort t.kind key = some sort) (hn : (t.get key).isNode = true) :
    t.get key ∈ t.nodesAt key :=
  mem_fieldSlots.mpr ⟨hn, holdsChildren_of_fieldSort hs, .inl rfl⟩

/-- The nodes under a field are children. -/
theorem mem_children_of_nodesAt (h : t.hasFields = true) (hc : c ∈ t.nodesAt key) : c ∈ t.children := by
  obtain ⟨slot, rfl, hslot⟩ := (mem_nodesAt_iff (distinct_of_hasFields h)).mp hc
  exact mem_children_of_mem_slots hslot

end Fields

/-- **A change of the records with a label** that sets a field of them, where none of them is inside another. -/
theorem edit_eq_setAt {change : Tree → Tree}
    (hinside : ∀ r ∈ t.records, r.label = label → label ∉ labelsFields r.fields)
    (h : ∀ r ∈ t.records, r.label = label → change r = r.set key value) : t.edit label change = t.setAt label key value := by
  induction t using Tree.induction with
  | leaf t ht => cases t <;> first | rfl | simp [isLeaf] at ht
  | list items ih =>
    rw [edit, setAt, edit, editItems_eq, editItems_eq]
    have hsub {c : Tree} (hc : c ∈ items) : c.records ⊆ (list items).records := by
      rw [records, recordsItems_eq]
      exact fun r hr => List.mem_flatMap.mpr ⟨c, hc, hr⟩
    exact congrArg list (List.map_congr_left fun c hc =>
      ih c hc (fun r hr => hinside r (hsub hc hr)) fun r hr => h r (hsub hc hr))
  | obj l fields ih =>
    have hin : obj l fields ∈ (obj l fields).records := mem_records_self rfl
    rw [edit, setAt, edit]
    split
    · rename_i hl
      subst hl
      have hnot : l ∉ labelsFields fields := hinside _ hin rfl
      rw [editFields_of_not_mem hnot, editFields_of_not_mem hnot]
      exact h _ hin rfl
    · have hsub {f : String × Tree} (hf : f ∈ fields) : f.2.records ⊆ (obj l fields).records :=
        records_subset_of_mem_fields hf
      refine congrArg (obj l) ?_
      rw [editFields_eq, editFields_eq]
      exact List.map_congr_left fun f hf => Prod.ext rfl
        (ih f hf (fun r hr => hinside r (hsub hf hr)) fun r hr => h r (hsub hf hr))

/-- A record whose label stands once is not inside another with its label. -/
theorem not_mem_labelsFields_of_once (honce : t.labels.count label ≤ 1) (hr : r ∈ t.records) (hl : r.label = label) :
    label ∉ labelsFields r.fields := by
  have hle := Nat.le_trans (count_labels_of_mem_records hr label) honce
  have hobj := isObj_of_mem_records hr
  cases r with
  | obj l fields =>
    obtain rfl : l = label := hl
    rw [labels, List.count_cons_self] at hle
    rw [fields_obj]
    exact fun hm => absurd (List.count_pos_iff.mpr hm) (by omega)
  | _ => cases hobj

/-- **A field that is set** exchanges the labels of what it held for those of what it holds. -/
theorem count_labels_setAt (hr : r ∈ t.records) (honce : t.labels.count r.label ≤ 1) (l : Nat) :
    (t.setAt r.label key value).labels.count l + (r.get key).labels.count l =
      t.labels.count l + value.labels.count l := by
  have hedit : (t.setAt r.label key value).labels.count l + r.labels.count l =
      t.labels.count l + (r.set key value).labels.count l := count_labels_edit_of_once hr rfl honce
  have hset := count_labels_set_add (l := l) (isObj_of_mem_records hr) key value
  omega

/-- A child of a node is what it holds under a key of its kind, or on the list there. -/
theorem exists_of_mem_children {c : Tree} (h : t.hasFields = true) (hc : c ∈ t.children) : ∃ spec key sort,
    schema t.kind = some spec ∧ (key, sort) ∈ spec ∧ sort.admits c.kind = true ∧ c ∈ t.nodesAt key ∧
      (c = t.get key ∨ c ∈ (t.get key).items) := by
  obtain ⟨⟨slot, c⟩, hslot, rfl⟩ := List.mem_map.mp hc
  obtain ⟨spec, hs⟩ := exists_schema_of_hasFields h
  obtain ⟨sort, hm, ha⟩ := admits_of_hasFields h hs hslot
  have hin : c ∈ t.nodesAt slot.key := (mem_nodesAt_iff (distinct_of_hasFields h)).mpr ⟨slot, rfl, hslot⟩
  exact ⟨spec, slot.key, sort, hs, hm, ha, hin, (mem_nodesAt hin).2.2⟩

/-- **The kinds of the nodes in a tree** are among those that can be reached in the table. -/
theorem kinds_of_mem_subtree {K : String → Bool} (hK : ∀ entry ∈ schemaTable, K entry.1 = true →
    ∀ field ∈ entry.2, ∀ entry' ∈ schemaTable, field.2.admits entry'.1 = true → K entry'.1 = true)
    (h : ∀ n ∈ t.subtree, n.hasFields = true) (ht : K t.kind = true) {n : Tree} (hn : n ∈ t.subtree) :
    K n.kind = true := by
  induction hh : t.height using Nat.strongRecOn generalizing t with
  | _ height ih =>
    subst hh
    rcases mem_subtree.mp hn with rfl | ⟨c, hc, hn⟩
    · exact ht
    have hsub := subtree_subset_of_mem_children hc
    obtain ⟨spec, key, sort, hspec, hm, ha, -⟩ := exists_of_mem_children (h t (mem_subtree_self t)) hc
    obtain ⟨spec', hspec'⟩ := exists_schema_of_hasFields (h c (hsub (mem_subtree_self c)))
    exact ih _ (height_lt_of_mem_children hc) (fun m hm => h m (hsub hm))
      (hK _ (mem_of_lookup hspec) ht _ hm _ (mem_of_lookup hspec') ha) hn rfl

/-- Nodes of some kinds have no children. -/
theorem children_eq_nil (h : t.hasFields = true)
    (hk : ∀ spec, schema t.kind = some spec → ∀ field ∈ spec, ∀ kind, field.2.admits kind = false) :
    t.children = [] := by
  refine List.eq_nil_iff_forall_not_mem.mpr fun c hc => ?_
  obtain ⟨spec, key, sort, hspec, hm, ha, -⟩ := exists_of_mem_children h hc
  rw [hk spec hspec _ hm] at ha
  cases ha

/-- Nothing is below a name or a literal. -/
theorem children_atom (h : t.hasFields = true) (hk : t.kind = "Identifier" ∨ t.kind = "Literal") : t.children = [] := by
  refine children_eq_nil h fun spec hspec field hm kind => ?_
  rcases hk with hk | hk
  all_goals
    rw [hk] at hspec
    cases hspec
    rw [List.mem_singleton] at hm
    subst hm
    rfl

/-- There is nothing below names and literals. -/
theorem subtree_atom (h : t.hasFields = true) (hk : t.kind = "Identifier" ∨ t.kind = "Literal") : t.subtree = [t] := by
  rw [subtree_eq, children_atom h hk, List.flatMap_nil]

/-- Below a node that can hold nodes under one key alone, and holds a literal there, is nothing but the literal. -/
theorem subtree_of_literal (h : t.hasFields = true) {spec : List (String × FieldSort)} (hspec : schema t.kind = some spec)
    {key : String} (hkey : ∀ field ∈ spec, ∀ kind, field.2.admits kind = true → field.1 = key)
    (hliteral : (t.get key).isKind "Literal" = true) {c : Tree} (hc : c ∈ t.children) (hfields : c.hasFields = true) :
    c.kind = "Literal" ∧ c.subtree = [c] := by
  obtain ⟨spec', key', sort, hspec', hm, ha, -, hcv⟩ := exists_of_mem_children h hc
  obtain rfl : spec' = spec := Option.some.inj (hspec'.symm.trans hspec)
  obtain rfl : key' = key := hkey _ hm _ ha
  have hnone : (t.get key').items = [] := by
    cases hv : t.get key' with
    | list items =>
      rw [hv] at hliteral
      cases hliteral
    | _ => rfl
  obtain rfl : c = t.get key' := hcv.resolve_right fun hin => by rw [hnone] at hin; cases hin
  have hkind : (t.get key').kind = "Literal" := (kind_of_isKind hliteral).2
  exact ⟨hkind, subtree_atom hfields (.inr hkind)⟩

theorem mem_labels_of_mem_subtree {n : Tree} (ht : t.isObj = true) (hn : n ∈ t.subtree) : n.label ∈ t.labels :=
  (labels_subtree ht).subset (List.mem_map_of_mem hn)

end Tree

namespace Document

/-- **Whether a program is in order**: its nodes have labels of their own and the fields of their kinds, and all labels
have been given out. -/
structure InOrder (d : Document) : Prop where
  loose : d.loose = []
  kind : d.root.kind = "Program"
  once : ∀ n ∈ d.root.subtree, d.root.labels.count n.label ≤ 1
  given : ∀ l ∈ d.root.labels, 0 < l ∧ l < d.next
  fields : ∀ n ∈ d.root.subtree, n.hasFields = true

/-- **Whether a field of a node can be set**: the node stays alike and keeps the fields of its kind, and what is new
below it has labels of its own. -/
structure Amends (d : Document) (r : Tree) (key : String) (value : Tree) : Prop where
  mem : r ∈ d.root.subtree
  key_ne : key ≠ "type" ∧ key ≠ "value"
  alike : r.Alike (r.set key value)
  fields : (r.set key value).hasFields = true
  given : ∀ l ∈ value.labels, 0 < l ∧ l < d.next
  old : ∀ n ∈ d.root.subtree, value.labels.count n.label ≤ (r.get key).labels.count n.label
  new : ∀ c ∈ (r.set key value).nodesAt key, c ∉ r.nodesAt key → ∀ n ∈ c.subtree, n.hasFields = true ∧
    d.root.labels.count n.label = 0 ∧ value.labels.count n.label ≤ 1

/-- **A program that has been read is in order.** -/
theorem inOrder_of_read {source : String} {p : Program} (h : Program.read source = .ok p) :
    InOrder ⟨p.tree, [], p.next⟩ where
  loose := rfl
  kind := beq_iff_eq.mp (Program.is_of_read h).kinds
  once _ _ := (Program.count_labels_of_read h _).1
  given l hl := (Program.count_labels_of_read h l).2.1 (List.count_pos_iff.mpr hl)
  fields n hn := (Bool.and_eq_true_iff.mp ((Program.is_of_read h).2 n hn)).1

namespace InOrder

variable {d : Document} (h : d.InOrder) {n r : Tree} {key : String} {value : Tree}

include h

theorem isObj (hn : n ∈ d.root.subtree) : n.isObj = true := Tree.isObj_of_hasFields (h.fields n hn)

theorem mem_records (hn : n ∈ d.root.subtree) : n ∈ d.root.records :=
  Tree.subtree_subset_records (h.isObj (Tree.mem_subtree_self _)) hn

theorem label_mem (hn : n ∈ d.root.subtree) : n.label ∈ d.root.labels :=
  Tree.mem_labels_of_mem_subtree (h.isObj (Tree.mem_subtree_self _)) hn

/-- A record with the label of a node is that node. -/
theorem eq_of_label (hn : n ∈ d.root.subtree) (hr : r ∈ d.root.records) (hl : r.label = n.label) : r = n :=
  Tree.eq_of_label_of_count hr (h.mem_records hn) hl (hl ▸ h.once n hn)

/-- Nothing in the program has the label of the program. -/
theorem label_ne_root (hn : n ∈ d.root.subtree) (hk : n.kind ≠ "Program") : n.label ≠ d.root.label := fun hl =>
  hk (h.eq_of_label (Tree.mem_subtree_self _) (h.mem_records hn) hl ▸ h.kind)

theorem labelled : d.root.Labelled := by
  have hsub := Tree.labels_subtree (h.isObj (Tree.mem_subtree_self _))
  refine List.nodup_iff_count.mpr fun l => ?_
  by_cases hl : l ∈ d.root.subtree.map Tree.label
  · obtain ⟨n, hn, rfl⟩ := List.mem_map.mp hl
    exact Nat.le_trans (hsub.count_le _) (h.once n hn)
  · rw [List.count_eq_zero_of_not_mem hl]
    exact Nat.zero_le _

/-- **A node is found by its label.** -/
theorem find?_label (hn : n ∈ d.root.subtree) : d.find? n.label = some n := by
  have hin := h.mem_records hn
  rw [find?, h.loose, Tree.findItems?, Option.or_none, Tree.find?_eq]
  cases hf : d.root.records.find? (·.label == n.label) with
  | none =>
    have hnone := List.find?_eq_none.mp hf n hin
    simp at hnone
  | some u =>
    have hu := List.find?_some hf
    rw [h.eq_of_label hn (List.mem_of_find?_eq_some hf) (beq_iff_eq.mp hu)]

/-- A node is found by its label. -/
theorem get_label (hn : n ∈ d.root.subtree) : d.get n.label = n := by
  rw [Document.get, h.find?_label hn, Option.getD_some]

/-- Labels that are given out later do no harm. -/
theorem mono {next : Nat} (hle : d.next ≤ next) : InOrder { d with next } :=
  ⟨h.loose, h.kind, h.once, fun l hl => ⟨(h.given l hl).1, Nat.lt_of_lt_of_le (h.given l hl).2 hle⟩, h.fields⟩

/-- A list of a node. -/
theorem editList_eq (hr : r ∈ d.root.subtree) (change : List Tree → List Tree) :
    d.editList r.label key change = d.set r.label key (.list (change (r.get key).items)) := by
  have hroot : d.root.edit r.label (fun t => t.set key (.list (change (t.get key).items))) =
      d.root.setAt r.label key (.list (change (r.get key).items)) :=
    Tree.edit_eq_setAt (fun u hu hl => Tree.not_mem_labelsFields_of_once (h.once r hr) hu hl) fun u hu hl => by
      rw [h.eq_of_label hr hu hl]
  rw [editList, set, edit, edit, h.loose, hroot]
  rfl

section Amends

variable (ha : d.Amends r key value)

include ha

theorem settable : d.root.Settable r.label key value :=
  Tree.settable_of_mem (h.once r ha.mem) (h.mem_records ha.mem) (Tree.isNode_of_hasFields (h.fields r ha.mem))
    (Tree.distinct_of_hasFields (h.fields r ha.mem)) ha.key_ne.1 ha.alike

/-- The labels of the document change as those of the record do. -/
theorem count_set (l : Nat) : (d.set r.label key value).root.labels.count l + (r.get key).labels.count l =
    d.root.labels.count l + value.labels.count l :=
  Tree.count_labels_setAt (h.mem_records ha.mem) (h.once r ha.mem) l

/-- The nodes of the amended program. -/
theorem exists_of_mem_subtree_set (hn : n ∈ (d.set r.label key value).root.subtree) :
    (∃ m ∈ d.root.subtree, m.setAt r.label key value = n) ∨
      ∃ c ∈ (r.set key value).nodesAt key, c ∉ r.nodesAt key ∧ n ∈ c.subtree := by
  refine (Tree.exists_of_mem_subtree_setAt (h.settable ha) (h.isObj (Tree.mem_subtree_self _)) hn).imp id ?_
  rintro ⟨u, hu, hl, c, hc, hnew, hin⟩
  obtain rfl := h.eq_of_label ha.mem (h.mem_records hu) hl
  exact ⟨c, hc, hnew, hin⟩

/-- The nodes that are kept. -/
theorem mem_subtree_set (hn : n ∈ d.root.subtree) :
    n.setAt r.label key value ∈ (d.set r.label key value).root.subtree ∨
      ∃ c ∈ r.nodesAt key, c ∉ (r.set key value).nodesAt key ∧ n ∈ c.subtree := by
  refine (Tree.mem_subtree_setAt (h.settable ha) (h.isObj (Tree.mem_subtree_self _)) hn).imp id ?_
  rintro ⟨u, hu, hl, c, hc, hlost, hin⟩
  obtain rfl := h.eq_of_label ha.mem (h.mem_records hu) hl
  exact ⟨c, hc, hlost, hin⟩

/-- A node that the amended one is no part of stays what it was. -/
theorem setAt_eq (hn : n ∈ d.root.subtree) (hnot : r ∉ n.subtree) : n.setAt r.label key value = n :=
  Tree.setAt_of_not_mem_subtree (h.isObj (Tree.mem_subtree_self _)) (h.once r ha.mem) hn ha.mem hnot

/-- **The program stays in order.** -/
theorem set : (d.set r.label key value).InOrder where
  loose := by
    rw [Document.set, edit, h.loose]
    rfl
  kind := (Tree.kind_setAt ha.key_ne.1 d.root).trans h.kind
  once n hn := by
    have hcount := h.count_set ha n.label
    rcases h.exists_of_mem_subtree_set ha hn with ⟨m, hm, rfl⟩ | ⟨c, hc, hnew, hin⟩
    · have hold := ha.old m hm
      have honce := h.once m hm
      rw [Tree.label_setAt] at hcount ⊢
      omega
    · obtain ⟨-, hzero, hone⟩ := ha.new c hc hnew n hin
      omega
  given l hl := by
    by_cases hv : l ∈ value.labels
    · exact ha.given l hv
    · have hcount := h.count_set ha l
      rw [List.count_eq_zero_of_not_mem hv] at hcount
      have hpos := List.count_pos_iff.mpr hl
      exact h.given l (List.count_pos_iff.mp (by omega))
  fields n hn := by
    rcases h.exists_of_mem_subtree_set ha hn with ⟨m, hm, rfl⟩ | ⟨c, hc, hnew, hin⟩
    · by_cases hl : m.label = r.label
      · obtain rfl := h.eq_of_label ha.mem (h.mem_records hm) hl
        rw [Tree.setAt_self (h.isObj hm)]
        · exact ha.fields
        · exact Nat.le_trans (Tree.count_labels_of_mem_records (h.mem_records hm) _) (h.once m hm)
      · rw [Tree.hasFields_setAt ha.key_ne.1 ha.key_ne.2 hl]
        exact h.fields m hm
    · exact (ha.new c hc hnew n hin).1

/-- The amended node. -/
theorem setAt_self : r.setAt r.label key value = r.set key value :=
  Tree.setAt_self (h.isObj ha.mem)
    (Nat.le_trans (Tree.count_labels_of_mem_records (h.mem_records ha.mem) _) (h.once r ha.mem))

/-- A record that is amended stands in the program. -/
theorem set_mem : r.set key value ∈ (d.set r.label key value).root.subtree := by
  rw [← h.setAt_self ha]
  refine (h.mem_subtree_set ha ha.mem).resolve_right ?_
  rintro ⟨c, hc, -, hr⟩
  have hchild := Tree.mem_children_of_nodesAt (h.fields r ha.mem) hc
  exact Nat.lt_irrefl _ (Tree.height_lt_of_mem_below (List.mem_flatMap.mpr ⟨c, hchild, hr⟩))

/-! ### Where things stand in the amended program -/

/-- What stood in the program stands where it stood, or it was below a child that is lost. -/
theorem stands_set {q : Site} (hq : Stands d.root q) :
    Stands (d.set r.label key value).root (q.setAt r.label key value) ∨ ∃ p c, Stands d.root p ∧ p.node = r ∧
      c ∈ r.nodesAt key ∧ c ∉ (r.set key value).nodesAt key ∧ Reaches (p.below key c) q := by
  refine (hq.setAt (h.settable ha) (h.isObj (Tree.mem_subtree_self _))).imp stands_root_setAt.mpr ?_
  rintro ⟨p, c, hp, hl, hc, hlost, hq⟩
  have he := h.eq_of_label ha.mem (h.mem_records hp.mem_subtree) hl
  exact ⟨p, c, hp, he, he ▸ hc, he ▸ hlost, hq⟩

/-- What happens in the amended program happened before, or it happens at or below a child that is new. -/
theorem happens_of_set {e : Event} (he : Happens (d.set r.label key value).root e) : Happens d.root e ∨
    ∃ p c q, Stands d.root p ∧ p.node = r ∧ c ∈ (r.set key value).nodesAt key ∧ c ∉ r.nodesAt key ∧
      Reaches (p.below key c) q ∧ e ∈ q.events := by
  refine (happens_of_setAt (h.settable ha) (h.isObj (Tree.mem_subtree_self _)) he).imp id ?_
  rintro ⟨p, c, hp, hl, hc, hnew, q, hq, he⟩
  have hr := h.eq_of_label ha.mem (h.mem_records hp.mem_subtree) hl
  exact ⟨p, c, q, hp, hr, hr ▸ hc, hr ▸ hnew, hq, he⟩

/-- What happened before happens in the amended program, or it happened at or below a child that is lost. -/
theorem happens_set {e : Event} (he : Happens d.root e) : Happens (d.set r.label key value).root e ∨
    ∃ p c q, Stands d.root p ∧ p.node = r ∧ c ∈ r.nodesAt key ∧ c ∉ (r.set key value).nodesAt key ∧
      Reaches (p.below key c) q ∧ e ∈ q.events := by
  refine (happens_setAt (h.settable ha) (h.isObj (Tree.mem_subtree_self _)) he).imp id ?_
  rintro ⟨p, c, hp, hl, hc, hlost, q, hq, he⟩
  have hr := h.eq_of_label ha.mem (h.mem_records hp.mem_subtree) hl
  exact ⟨p, c, q, hp, hr, hr ▸ hc, hr ▸ hlost, hq, he⟩

end Amends

end InOrder

/-! ### What can be set -/

/-- **Whether a new node can be put into a program**: it has labels of its own, and its nodes have the fields of their
kinds. -/
structure New (d : Document) (c : Tree) : Prop where
  given : ∀ l ∈ c.labels, 0 < l ∧ l < d.next
  apart : ∀ n ∈ d.root.subtree, n.label ∉ c.labels
  fields : ∀ n ∈ c.subtree, n.hasFields = true
  once : ∀ n ∈ c.subtree, n.label ∉ d.root.labels ∧ c.labels.count n.label ≤ 1

namespace InOrder

variable {d : Document} (h : d.InOrder) {c r : Tree} (hr : r ∈ d.root.subtree) {key : String} {kinds : String → Bool}

include h hr

/-- A field for one node can hold a new one. -/
theorem amends_node (hs : Tree.fieldSort r.kind key = some (.node kinds)) (hp : r.kind ≠ "Property")
    (hkey : key ∉ Tree.siteKeys) (hvalue : key ≠ "value") (hc : d.New c) (hk : kinds c.kind = true) :
    d.Amends r key c := by
  have hobj := h.isObj hr
  have htype := Tree.key_ne_type hs
  have hkind := Tree.isOf_of_hasFields (hc.fields c (Tree.mem_subtree_self c)) hk
  have hset : (r.set key c).hasFields = true := Tree.hasFields_set (h.fields r hr) hs hkind hp
  refine ⟨hr, ⟨htype, hvalue⟩, Tree.alike_set hobj htype hkey, hset, hc.given, fun n hn => ?_, ?_⟩
  · rw [List.count_eq_zero_of_not_mem (hc.apart n hn)]
    exact Nat.zero_le _
  · rintro c' hc' - n hn
    rw [Tree.mem_nodesAt_node hset ((Tree.kind_set htype).symm ▸ hs), Tree.get_set_self hobj] at hc'
    subst hc'
    obtain ⟨hnot, honce⟩ := hc.once n hn
    exact ⟨hc.fields n hn, List.count_eq_zero_of_not_mem hnot, honce⟩

/-- What is in a field for one node. -/
theorem mem_get (hs : Tree.fieldSort r.kind key = some (.node kinds)) :
    r.get key ∈ d.root.subtree ∧ kinds (r.get key).kind = true :=
  ⟨Tree.subtree_subset hr (Tree.subtree_subset_of_mem_children (Tree.mem_children_of_nodesAt (h.fields r hr)
    ((Tree.mem_nodesAt_node (h.fields r hr) hs).mpr rfl)) (Tree.mem_subtree_self _)),
    Tree.kinds_of_isOf (Tree.takes_of_fieldSort (h.fields r hr) hs)⟩

variable (hs : Tree.fieldSort r.kind key = some (.nodes kinds))

include hs

theorem mem_items (hc : c ∈ (r.get key).items) : c ∈ d.root.subtree :=
  Tree.subtree_subset hr (Tree.subtree_subset_of_mem_children (Tree.mem_children_of_nodesAt (h.fields r hr)
    ((Tree.mem_nodesAt_nodes (h.fields r hr) hs).mpr hc)) (Tree.mem_subtree_self c))

/-- A label stands no more often in a list than in the program. -/
theorem count_items_le (l : Nat) : ((r.get key).items.flatMap Tree.labels).count l ≤ d.root.labels.count l := by
  have hcount := Tree.count_labels_get_of_mem_records (h.isObj (Tree.mem_subtree_self _)) (h.mem_records hr) key l
  rw [Tree.labels_get_nodes (h.fields r hr) hs] at hcount
  omega

/-- The nodes on a list have labels of their own. -/
theorem nodup_items : ((r.get key).items.map Tree.label).Nodup := by
  have hsub : ((r.get key).items.map Tree.label).Sublist ((r.get key).items.flatMap Tree.labels) := by
    rw [List.map_eq_flatMap]
    refine List.Sublist.flatMap_right _ fun c hc => ?_
    have hobj := h.isObj (h.mem_items hr hs hc)
    cases c with
    | obj l fields => exact .cons_cons l (List.nil_sublist _)
    | _ => cases hobj
  refine List.nodup_iff_count.mpr fun l => ?_
  by_cases hl : l ∈ (r.get key).items.map Tree.label
  · obtain ⟨c, hc, rfl⟩ := List.mem_map.mp hl
    exact Nat.le_trans (hsub.count_le _) (Nat.le_trans (h.count_items_le hr hs _) (h.once c (h.mem_items hr hs hc)))
  · rw [List.count_eq_zero_of_not_mem hl]
    exact Nat.zero_le _

variable (hp : r.kind ≠ "Property") (hkey : key = "body" ∨ key ∉ Tree.siteKeys) (hvalue : key ≠ "value")
  {items : List Tree}

include hp hkey hvalue

/-- A list can hold what it held and new nodes. -/
theorem amends_list (hitems : ∀ c ∈ items, c ∈ (r.get key).items ∨ d.New c ∧ kinds c.kind = true)
    (hold : ∀ n ∈ d.root.subtree,
      (items.flatMap Tree.labels).count n.label ≤ ((r.get key).items.flatMap Tree.labels).count n.label)
    (hnew : ∀ c ∈ items, c ∉ (r.get key).items → ∀ n ∈ c.subtree, (items.flatMap Tree.labels).count n.label ≤ 1) :
    d.Amends r key (.list items) := by
  obtain ⟨before, hlist, hkinds⟩ := Tree.exists_list_of_nodes (h.fields r hr) hs
  have htype := Tree.key_ne_type hs
  have hset : (r.set key (.list items)).hasFields = true := by
    refine Tree.hasFields_set (h.fields r hr) hs ?_ hp
    rw [FieldSort.takes, Tree.isList, Tree.items_list, Bool.true_and, List.all_eq_true]
    intro c hc
    rcases hitems c hc with hc | ⟨hc, hk⟩
    · rw [hlist] at hc
      exact hkinds c hc
    · exact Tree.isOf_of_hasFields (hc.fields c (Tree.mem_subtree_self c)) hk
  refine ⟨hr, ⟨htype, hvalue⟩, Tree.alike_set_list (h.isObj hr) hlist hkey htype, hset, fun l hl => ?_, fun n hn => ?_, ?_⟩
  · rw [Tree.labels_list] at hl
    obtain ⟨c, hc, hl⟩ := List.mem_flatMap.mp hl
    rcases hitems c hc with hc | ⟨hc, -⟩
    · exact h.given l (Tree.labels_subset_of_mem_records (h.mem_records (h.mem_items hr hs hc)) hl)
    · exact hc.given l hl
  · rw [Tree.labels_list, Tree.labels_get_nodes (h.fields r hr) hs]
    exact hold n hn
  · intro c hc hnot n hn
    rw [Tree.mem_nodesAt_nodes hset ((Tree.kind_set htype).symm ▸ hs), Tree.get_set_self (h.isObj hr)] at hc
    rw [Tree.mem_nodesAt_nodes (h.fields r hr) hs] at hnot
    obtain ⟨hc', -⟩ := (hitems c hc).resolve_left hnot
    rw [Tree.labels_list]
    exact ⟨hc'.fields n hn, List.count_eq_zero_of_not_mem (hc'.once n hn).1, hnew c hc hnot n hn⟩

/-- Nodes can be taken from a list. -/
theorem amends_sublist (hsub : items.Sublist (r.get key).items) : d.Amends r key (.list items) :=
  h.amends_list hr hs hp hkey hvalue (fun _ hc => .inl (hsub.subset hc)) (fun _ _ => (hsub.flatMap _).count_le _)
    fun _ hc hnot => absurd (hsub.subset hc) hnot

/-- A new node can be put on a list. -/
theorem amends_insert (hc : d.New c) (hk : kinds c.kind = true) (hitems : items.Perm (c :: (r.get key).items)) :
    d.Amends r key (.list items) := by
  have hcount (l : Nat) : (items.flatMap Tree.labels).count l =
      c.labels.count l + ((r.get key).items.flatMap Tree.labels).count l := by
    rw [(hitems.flatMap_right Tree.labels).count_eq, List.flatMap_cons, List.count_append]
  refine h.amends_list hr hs hp hkey hvalue (fun c' hc' => ?_) (fun n hn => ?_) fun c' hc' hnot n hn => ?_
  · rcases List.mem_cons.mp (hitems.subset hc') with rfl | hc'
    · exact .inr ⟨hc, hk⟩
    · exact .inl hc'
  · rw [hcount, List.count_eq_zero_of_not_mem (hc.apart n hn), Nat.zero_add]
  · obtain rfl := (List.mem_cons.mp (hitems.subset hc')).resolve_right hnot
    obtain ⟨hout, honce⟩ := hc.once n hn
    have hle := h.count_items_le hr hs n.label
    rw [List.count_eq_zero_of_not_mem hout] at hle
    rw [hcount]
    omega

end InOrder

end Document

namespace Tree

/-- Labelled trees are the nodes that they were. -/
theorem Is.number {kinds : String → Bool} {t : Tree} (h : t.Is kinds) (next : Nat) : (t.number next).1.Is kinds :=
  (is_congr (core_number t next)).mpr h

theorem WellFormed.number {t : Tree} (h : t.WellFormed) (next : Nat) : (t.number next).1.WellFormed := by
  rwa [← wellFormed_core, core_number, wellFormed_core]

/-! ### Nodes that are made -/

section Build

theorem is_identifier (name : String) {kinds : String → Bool} (hk : kinds "Identifier" = true) :
    (identifier name).Is kinds :=
  is_of_fits rfl hk ⟨.of_nodup (by simp), by simp [schema, schemaTable, isKnownField, holdsChildren,
    childlessFields], (absurd · (by decide)), (absurd · (by decide))⟩

theorem is_importSpecifier (imported name : String) :
    (importSpecifier imported name).Is (· == "ImportSpecifier") :=
  is_of_fits rfl rfl ⟨.of_nodup (by simp), by simp [schema, schemaTable, isKnownField, holdsChildren,
    childlessFields, is_identifier], (absurd · (by decide)), (absurd · (by decide))⟩

theorem is_objectPattern_nil {kinds : String → Bool} (hk : kinds "ObjectPattern" = true) : (objectPattern []).Is kinds :=
  is_of_fits rfl hk ⟨.of_nodup (by simp), by simp [schema, schemaTable, isKnownField, holdsChildren,
    childlessFields], (absurd · (by decide)), (absurd · (by decide))⟩

theorem is_property (key name : String) (shorthand : Bool) :
    (property (identifier key) (identifier name) shorthand).Is (· == "Property") :=
  is_of_fits rfl rfl ⟨.of_nodup (by simp), by simp [schema, schemaTable, isKnownField, holdsChildren,
    childlessFields, is_identifier, isExpressionKind], fun _ => rfl, (absurd · (by decide))⟩

theorem labels_identifier (name : String) : ∀ l ∈ (identifier name).labels, l = 0 := by
  simp [identifier, node, labels, labelsFields]

theorem labels_importSpecifier (imported name : String) : ∀ l ∈ (importSpecifier imported name).labels, l = 0 := by
  simp [importSpecifier, identifier, node, labels, labelsFields]

theorem labels_property (key name : String) (shorthand : Bool) :
    ∀ l ∈ (property (identifier key) (identifier name) shorthand).labels, l = 0 := by
  simp [property, identifier, node, labels, labelsFields]

theorem labels_variableDeclaration (kind : String) (t : Tree) : (variableDeclaration kind [t]).labels = 0 :: t.labels := by
  simp [variableDeclaration, node, labels, labelsFields, labelsItems]

theorem labels_variableDeclarator (name : String) :
    ∀ l ∈ (variableDeclarator (objectPattern []) (identifier name)).labels, l = 0 := by
  simp [variableDeclarator, objectPattern, identifier, node, labels, labelsFields, labelsItems]

variable {target init : Tree} {declarations : List Tree}

theorem is_variableDeclarator (ht : target.Is isExpressionKind) (hi : init.Is isExpressionKind) :
    (variableDeclarator target init).Is (· == "VariableDeclarator") :=
  is_of_fits rfl rfl ⟨.of_nodup (by simp), by simp [schema, schemaTable, isKnownField, holdsChildren,
    childlessFields, ht, hi], (absurd · (by decide)), (absurd · (by decide))⟩

/-- A declaration that is made is well formed if its declarators are. -/
theorem is_variableDeclaration (kind : String) (hd : ∀ c ∈ declarations, c.Is (· == "VariableDeclarator")) :
    (variableDeclaration kind declarations).Is (· == "VariableDeclaration") :=
  is_of_fits rfl rfl ⟨.of_nodup (by simp), by simpa [schema, schemaTable, isKnownField, holdsChildren,
    childlessFields] using hd, (absurd · (by decide)), (absurd · (by decide))⟩

end Build

end Tree

/-! ### What is adopted -/

namespace Document

variable {d : Document} {t : Tree}

/-- A declaration of something labelled only gets a label itself. -/
theorem adopt_variableDeclaration (kind : String) (h : 0 ∉ t.labels) :
    d.adopt (Tree.variableDeclaration kind [t]) =
      (.obj d.next (Tree.variableDeclaration kind [t]).fields, { d with next := d.next + 1 }) := by
  have hitems : (Tree.list [t]).number (d.next + 1) = (.list [t], d.next + 1) :=
    Tree.number_of_labelled (by simpa [Tree.labels_list]) _
  rw [adopt, Tree.variableDeclaration, Tree.node, Tree.number]
  simp only [Tree.numberFields_cons, hitems, Tree.number_of_isLeaf (t := .str _) rfl]
  rfl

/-- **Whether a value is fresh**: it is well formed, and the labels that it has already are of its own. -/
structure Fresh (d : Document) (t : Tree) : Prop where
  wellFormed : t.WellFormed
  labels : ∀ l ∈ t.labels, l ≠ 0 → l < d.next ∧ l ∉ d.root.labels ∧ t.labels.count l ≤ 1

/-- A value without labels is fresh. -/
theorem fresh_of_unlabelled (h : t.WellFormed) (h0 : ∀ l ∈ t.labels, l = 0) : d.Fresh t :=
  ⟨h, fun l hl hne => absurd (h0 l hl) hne⟩

namespace InOrder

variable (h : d.InOrder) (ht : d.Fresh t)

include h

theorem next_pos : 0 < d.next := by
  have := h.given _ (h.label_mem (Tree.mem_subtree_self _))
  omega

/-- A document stays in order when it adopts a node. -/
theorem adopt : (d.adopt t).2.InOrder := h.mono (Tree.givenOut_number t h.next_pos 0).le

include ht

/-- How often a label occurs in what is adopted. -/
theorem count_adopt (l : Nat) : ((d.adopt t).1.labels.count l ≤ 1) ∧ (l ∈ (d.adopt t).1.labels →
    0 < l ∧ l < (d.adopt t).2.next ∧ l ∉ d.root.labels) := by
  obtain ⟨hle, hzero, hgiven, hother⟩ := Tree.givenOut_number t h.next_pos l
  show ((t.number d.next).1.labels.count l ≤ 1) ∧
    (l ∈ (t.number d.next).1.labels → 0 < l ∧ l < (t.number d.next).2 ∧ l ∉ d.root.labels)
  rw [← List.count_pos_iff (a := l) (l := (t.number d.next).1.labels)]
  by_cases h0 : l = 0
  · rw [hzero h0]
    omega
  · by_cases hnew : d.next ≤ l ∧ l < (t.number d.next).2
    · have hnot : l ∉ t.labels := fun hm => by
        have := (ht.labels l hm h0).1
        omega
      rw [hgiven hnew.1 hnew.2, List.count_eq_zero_of_not_mem hnot]
      refine ⟨Nat.le_refl _, fun _ => ⟨by omega, hnew.2, fun hm => ?_⟩⟩
      have := (h.given l hm).2
      omega
    · rw [hother h0 (by omega)]
      by_cases hm : l ∈ t.labels
      · obtain ⟨hlt, hnot, hone⟩ := ht.labels l hm h0
        exact ⟨hone, fun _ => ⟨by omega, by omega, hnot⟩⟩
      · rw [List.count_eq_zero_of_not_mem hm]
        omega

/-- **What is adopted can be put into the program.** -/
theorem new_adopt : (d.adopt t).2.New (d.adopt t).1 where
  given l hl := ⟨((h.count_adopt ht l).2 hl).1, ((h.count_adopt ht l).2 hl).2.1⟩
  apart n hn hl := ((h.count_adopt ht _).2 hl).2.2 (h.label_mem hn)
  fields n hn := (Bool.and_eq_true_iff.mp (ht.wellFormed.number d.next n hn)).1
  once n hn := by
    refine ⟨fun hl => ?_, (h.count_adopt ht _).1⟩
    have hobj := (ht.wellFormed.number d.next).isObj
    exact ((h.count_adopt ht _).2 (Tree.mem_labels_of_mem_subtree hobj hn)).2.2 hl

/-- Something new may be put around what is adopted. -/
theorem fresh_around {u : Tree} (hu : u.WellFormed) (hl : u.labels = 0 :: (d.adopt t).1.labels) :
    (d.adopt t).2.Fresh u := by
  refine ⟨hu, fun l hm hne => ?_⟩
  rw [hl, List.mem_cons] at hm
  obtain ⟨hone, hgiven⟩ := h.count_adopt ht l
  obtain ⟨-, hlt, hnot⟩ := hgiven (hm.resolve_left hne)
  rw [hl, List.count_cons_of_ne (Ne.symm hne)]
  exact ⟨hlt, hnot, hone⟩

omit ht in
/-- The labels of what is adopted are new if those that it had are. -/
theorem next_le_of_adopt {n : Nat} (hn : n ≤ d.next) (h0 : ∀ l ∈ t.labels, l = 0 ∨ n ≤ l) {l : Nat}
    (hl : l ∈ (d.adopt t).1.labels) : n ≤ l := by
  obtain ⟨hle, hzero, hgiven, hother⟩ := Tree.givenOut_number t h.next_pos l
  have hpos : 0 < (t.number d.next).1.labels.count l := List.count_pos_iff.mpr hl
  by_contra hlt
  have hne : l ≠ 0 := fun he => by
    rw [hzero he] at hpos
    omega
  rw [hother hne (by omega)] at hpos
  exact hlt ((h0 l (List.count_pos_iff.mp hpos)).resolve_left hne)

end InOrder

end Document

end Deminify
