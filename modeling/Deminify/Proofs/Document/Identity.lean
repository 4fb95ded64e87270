import Deminify.Proofs.Document.Change
import Deminify.Proofs.Tree.Mapped

/-!
# One record for each label

A label stands for one thing, also where a document shows it several times: a node that was taken out of the tree stays
known as a loose node, and a part of it may have been put back into a new node. So whatever has the same label is the same
record (`Deminify.Document.Distinct`), while within the tree, and within each loose node, no two nodes have the same label.

A record exchanges what one of its fields holds. Then each record of the document is what it was, with the field of that
one record set wherever it stands (`Deminify.Document.Exchange.get_label`), and the document goes on to be distinct
(`Deminify.Document.Exchange.distinct`) and to know each node that it knew (`Deminify.Document.Exchange.mem_nodes`). What
is asked of the new nodes is that they are new, or parts of the node whose place they take
(`Deminify.Document.Takes`).
-/

namespace Deminify

namespace Tree

variable {t r c n x : Tree} {label l : Nat} {key : String} {value : Tree}

/-! ### The parts of a field -/

/-- The values that a field holds: the items of a list, or else the value itself. -/
def parts : Tree → List Tree
  | .list items => items
  | .null => []
  | other => [other]

theorem parts_of_isNode (h : t.isNode = true) : t.parts = [t] := by
  cases t with
  | obj l fields => rfl
  | _ => cases h

/-- The records of a value are those of its parts. -/
theorem records_eq_parts (v : Tree) : v.records = v.parts.flatMap records := by
  cases v with
  | list items => rw [records, recordsItems_eq, parts]
  | null => rfl
  | _ => exact (List.flatMap_singleton ..).symm

/-- The nodes in a field. -/
def nodesIn (v : Tree) : List Tree := (v.parts.filter isNode).flatMap subtree

/-- The places of a field hold those parts of it that are nodes. -/
theorem map_fieldSlots (hkey : holdsChildren key = true) (v : Tree) :
    (fieldSlots key v).map (·.2) = v.parts.filter isNode := by
  unfold fieldSlots
  rw [if_pos hkey]
  cases v with
  | list items => exact map_itemSlots key 0 items
  | obj l fields =>
    show (if (obj l fields).isNode then [((⟨key, none⟩ : Slot), obj l fields)] else []).map Prod.snd =
      [obj l fields].filter isNode
    rw [List.filter_singleton]
    cases (obj l fields).isNode <;> rfl
  | _ => rfl

theorem nodesIn_subset_records (v : Tree) : v.nodesIn ⊆ v.records := by
  intro n hn
  obtain ⟨c, hc, hn⟩ := List.mem_flatMap.mp hn
  obtain ⟨hc, hnode⟩ := List.mem_filter.mp hc
  rw [records_eq_parts]
  exact List.mem_flatMap.mpr ⟨c, hc, subtree_subset_records (isObj_of_isNode hnode) hn⟩

/-- The nodes of a record are itself and those that its fields hold. -/
theorem subtree_eq_fields (l : Nat) (fields : List (String × Tree)) : (obj l fields).subtree =
    obj l fields :: fields.flatMap fun f => if holdsChildren f.1 then f.2.nodesIn else [] := by
  rw [subtree, fields_obj, subtreeFields_eq]
  refine congrArg (_ :: ·) (List.flatMap_congr fun f _ => ?_)
  obtain ⟨k, v⟩ := f
  by_cases hk : holdsChildren k = true
  · dsimp only
    rw [if_pos hk, nodesIn, ← map_fieldSlots hk, List.flatMap_map]
  · simp [fieldSlots, hk]

/-- **Setting a field** exchanges the nodes in it. -/
theorem count_nodes_set (ht : t.isObj = true) (hkey : holdsChildren key = true) (l : Nat) :
    ((t.set key value).subtree.map Tree.label).count l + ((t.get key).nodesIn.map Tree.label).count l =
      (t.subtree.map Tree.label).count l + (value.nodesIn.map Tree.label).count l := by
  cases t with
  | obj l' fields =>
    rw [set, subtree_eq_fields, subtree_eq_fields, List.map_cons, List.map_cons, List.count_cons, List.count_cons,
      label_obj, label_obj, get, get?_obj]
    suffices h : (((putKey fields key value).flatMap fun f => if holdsChildren f.1 then f.2.nodesIn else []).map
          Tree.label).count l + (((fields.lookup key).getD .null).nodesIn.map Tree.label).count l =
        ((fields.flatMap fun f => if holdsChildren f.1 then f.2.nodesIn else []).map Tree.label).count l +
          (value.nodesIn.map Tree.label).count l by omega
    clear ht
    induction fields with
    | nil => simp [putKey, hkey, nodesIn, parts]
    | cons f rest ih =>
      obtain ⟨k, v⟩ := f
      rw [putKey, lookup_cons_ite]
      by_cases hk : k = key
      · subst hk
        rw [if_pos rfl, if_pos rfl, Option.getD_some]
        simp only [List.flatMap_cons, List.map_append, List.count_append, hkey, if_true]
        omega
      · rw [if_neg hk, if_neg (Ne.symm hk)]
        simp only [List.flatMap_cons, List.map_append, List.count_append]
        omega
  | _ => cases ht

/-- The nodes that a field holds are children. -/
theorem mem_children_of_parts (hc : c.isNode = true) (hkey : holdsChildren key = true) (hin : c ∈ (t.get key).parts) :
    c ∈ t.children := by
  refine mem_children_of_get hc hkey ?_
  cases hv : t.get key with
  | list items =>
    rw [hv] at hin
    exact .inr hin
  | null =>
    rw [hv] at hin
    cases hin
  | _ =>
    rw [hv] at hin
    exact .inl (List.mem_singleton.mp hin)

theorem nodesIn_get_subset (hkey : holdsChildren key = true) : (t.get key).nodesIn ⊆ t.subtree := by
  intro n hn
  obtain ⟨c, hc, hn⟩ := List.mem_flatMap.mp hn
  obtain ⟨hc, hnode⟩ := List.mem_filter.mp hc
  exact subtree_subset_of_mem_children (mem_children_of_parts hnode hkey hc) hn

/-- The nodes in a field are among those of the record. -/
theorem count_nodesIn_get_le (ht : t.isObj = true) (hkey : holdsChildren key = true) (l : Nat) :
    ((t.get key).nodesIn.map Tree.label).count l ≤ (t.subtree.map Tree.label).count l := by
  have hset := @count_nodes_set t key .null ht hkey l
  rw [show nodesIn .null = [] from rfl, List.map_nil, List.count_nil] at hset
  omega

/-- The nodes below a node stand together. -/
theorem sublist_subtree (h : n ∈ t.subtree) : n.subtree.Sublist t.subtree := by
  induction hh : t.height using Nat.strongRecOn generalizing t with
  | _ height ih =>
    subst hh
    rcases mem_subtree.mp h with rfl | ⟨c, hc, hn⟩
    · exact List.Sublist.refl _
    · rw [subtree_eq t]
      exact ((ih _ (height_lt_of_mem_children hc) hn rfl).trans
        (List.sublist_flatten_of_mem (List.mem_map_of_mem hc))).cons t

/-- A label stands no more often below a node than around it. -/
theorem count_nodes_le (h : n ∈ t.subtree) (l : Nat) :
    (n.subtree.map Tree.label).count l ≤ (t.subtree.map Tree.label).count l :=
  ((sublist_subtree h).map Tree.label).count_le l

theorem labels_flatMap_subtree {ns : List Tree} (h : ∀ n ∈ ns, n.isNode = true) :
    ((ns.flatMap subtree).map Tree.label).Sublist (ns.flatMap labels) := by
  induction ns with
  | nil => exact List.nil_sublist _
  | cons n rest ih =>
    rw [List.flatMap_cons, List.flatMap_cons, List.map_append]
    exact (labels_subtree (isObj_of_isNode (h n List.mem_cons_self))).append
      (ih fun m hm => h m (List.mem_cons_of_mem _ hm))

/-! ### Records inside a record -/

/-- A record is no higher than what it stands in. -/
theorem height_le_of_mem_records (h : x ∈ t.records) : x.height ≤ t.height := by
  induction t using Tree.induction with
  | leaf t ht =>
    rw [records_of_isLeaf ht] at h
    cases h
  | list items ih =>
    rw [records, recordsItems_eq] at h
    obtain ⟨u, hu, h⟩ := List.mem_flatMap.mp h
    exact Nat.le_trans (ih u hu h) (height_lt_of_mem_items (t := list items) hu).le
  | obj l fields ih =>
    rw [records, recordsFields_eq] at h
    rcases List.mem_cons.mp h with rfl | h
    · exact Nat.le_refl _
    · obtain ⟨f, hf, h⟩ := List.mem_flatMap.mp h
      exact Nat.le_trans (ih f hf h) (height_lt_of_mem_fields (t := obj l fields) hf).le

/-- What is inside a record is lower. -/
theorem height_lt_of_mem_recordsFields (h : x ∈ recordsFields t.fields) : x.height < t.height := by
  rw [recordsFields_eq] at h
  obtain ⟨⟨k, v⟩, hf, h⟩ := List.mem_flatMap.mp h
  exact Nat.lt_of_le_of_lt (height_le_of_mem_records h) (height_lt_of_mem_fields hf)

theorem records_get_subset (t : Tree) (key : String) : (t.get key).records ⊆ recordsFields t.fields := by
  intro x hx
  cases h : t.get? key with
  | none =>
    rw [get, h] at hx
    cases hx
  | some value =>
    rw [get_of_get? h] at hx
    rw [recordsFields_eq]
    exact List.mem_flatMap.mpr ⟨_, mem_of_lookup h, hx⟩

/-- A label under fields is that of a record there. -/
theorem mem_labelsFields {fields : List (String × Tree)} :
    l ∈ labelsFields fields ↔ ∃ x ∈ recordsFields fields, x.label = l := by
  rw [labelsFields_eq, recordsFields_eq]
  simp only [List.mem_flatMap, labels_eq_map_records, List.mem_map]
  constructor
  · rintro ⟨f, hf, x, hx, hl⟩
    exact ⟨x, ⟨f, hf, hx⟩, hl⟩
  · rintro ⟨x, ⟨f, hf, hx⟩, hl⟩
    exact ⟨f, hf, x, hx, hl⟩

theorem recordsFields_subset (t : Tree) : recordsFields t.fields ⊆ t.records := by
  cases t with
  | obj l fields => exact List.subset_cons_self _ _
  | _ => exact List.nil_subset _

/-! ### A field of records that are not inside each other -/

section SetAt

/-- **Whether no record with a label is inside another.** -/
def Flat (t : Tree) (label : Nat) : Prop := ∀ r ∈ t.records, r.label = label → label ∉ labelsFields r.fields

/-- Records that are not inside each other are not so in a part either. -/
theorem Flat.mono {u : Tree} (h : t.Flat label) (hu : u.records ⊆ t.records) : u.Flat label := fun r hr => h r (hu hr)

/-- What is inside a record with the label stays as it is. -/
theorem Flat.setAt_inside (h : t.Flat label) (hr : r ∈ t.records) (hl : r.label = label)
    (hx : x ∈ recordsFields r.fields) : x.setAt label key value = x := by
  refine setAt_of_not_mem fun hin => h r hr hl (mem_labelsFields.mpr ?_)
  rw [labels_eq_map_records] at hin
  obtain ⟨y, hy, rfl⟩ := List.mem_map.mp hin
  rw [recordsFields_eq] at hx ⊢
  obtain ⟨f, hf, hx⟩ := List.mem_flatMap.mp hx
  exact ⟨y, List.mem_flatMap.mpr ⟨f, hf, records_subset_of_mem_records hx hy⟩, rfl⟩

/-- A record with the label gets the value. -/
theorem Flat.setAt_self (h : t.Flat label) (hr : r ∈ t.records) (hl : r.label = label) :
    r.setAt label key value = r.set key value := by
  have hnot := h r hr hl
  have hobj := isObj_of_mem_records hr
  cases r with
  | obj l fields =>
    obtain rfl : l = label := hl
    rw [fields_obj] at hnot
    rw [setAt, edit, if_pos rfl, editFields_of_not_mem hnot]
  | _ => cases hobj

/-- Other records keep their keys. -/
theorem distinctKeys_setAt_of_ne (hl : t.label ≠ label) (hd : DistinctKeys t.fields) :
    DistinctKeys (t.setAt label key value).fields := by
  cases t with
  | obj l fields =>
    rw [label_obj] at hl
    rw [setAt, edit, if_neg hl, fields_obj, editFields_eq, DistinctKeys, List.map_map]
    exact hd
  | _ => exact hd

theorem mem_putKey {fields : List (String × Tree)} {f : String × Tree} (hf : f ∈ fields) :
    f ∈ putKey fields key value ∨ fields.lookup key = some f.2 := by
  induction fields with
  | nil => cases hf
  | cons g rest ih =>
    obtain ⟨k, v⟩ := g
    rw [putKey, lookup_cons_ite]
    by_cases hk : k = key
    · rw [if_pos hk, if_pos hk.symm]
      exact (List.mem_cons.mp hf).elim (fun h => .inr (by rw [h])) fun h => .inl (List.mem_cons_of_mem _ h)
    · rw [if_neg hk, if_neg (Ne.symm hk)]
      rcases List.mem_cons.mp hf with rfl | hf
      · exact .inl List.mem_cons_self
      · exact (ih hf).imp_left (List.mem_cons_of_mem _)

/-- **The records of the changed tree** are those of the old one, changed, and those of the value. -/
theorem exists_of_mem_records_setAt (h : t.Flat label) (hx : x ∈ (t.setAt label key value).records) :
    (∃ u ∈ t.records, x = u.setAt label key value) ∨ x ∈ value.records := by
  refine forall_records_edit (P := fun x => (∃ u ∈ t.records, x = u.setAt label key value) ∨ x ∈ value.records)
    (fun l fields hmem hne => .inl ⟨_, hmem, ?_⟩) (fun fields hmem _ x hx => ?_) x hx
  · rw [setAt, edit, if_neg hne]
  · have hnot : label ∉ labelsFields fields := h _ hmem rfl
    rw [editFields_of_not_mem hnot] at hx
    rcases mem_records_set rfl hx with rfl | hx | hx
    · exact .inl ⟨_, hmem, (h.setAt_self hmem rfl).symm⟩
    · exact .inl ⟨x, records_subset_of_mem_records hmem (recordsFields_subset _ hx), (h.setAt_inside hmem rfl hx).symm⟩
    · exact .inr hx

/-- **The records of the old tree** are still there, unless they were in the field. -/
theorem mem_records_setAt (h : t.Flat label) (hx : x ∈ t.records) : x.setAt label key value ∈
    (t.setAt label key value).records ∨ ∃ u ∈ t.records, u.label = label ∧ x ∈ (u.get key).records := by
  induction t using Tree.induction with
  | leaf t ht =>
    rw [records_of_isLeaf ht] at hx
    cases hx
  | list items ih =>
    have hsub {u : Tree} (hu : u ∈ items) : u.records ⊆ (list items).records := by
      rw [records, recordsItems_eq]
      exact fun r hr => List.mem_flatMap.mpr ⟨u, hu, hr⟩
    rw [records, recordsItems_eq] at hx
    obtain ⟨u, hu, hx⟩ := List.mem_flatMap.mp hx
    rcases ih u hu (h.mono (hsub hu)) hx with hin | ⟨v, hv, hrest⟩
    · refine .inl ?_
      rw [setAt, edit, editItems_eq, records, recordsItems_eq, List.flatMap_map]
      exact List.mem_flatMap.mpr ⟨u, hu, hin⟩
    · exact .inr ⟨v, hsub hu hv, hrest⟩
  | obj l fields ih =>
    have hself : obj l fields ∈ (obj l fields).records := mem_records_self rfl
    have hfields := hx
    rw [records, recordsFields_eq] at hfields
    rcases List.mem_cons.mp hfields with rfl | hfields
    · exact .inl (mem_records_self (isObj_setAt _))
    · obtain ⟨f, hf, hxf⟩ := List.mem_flatMap.mp hfields
      have hsub : f.2.records ⊆ (obj l fields).records := records_subset_of_mem_fields hf
      by_cases hl : l = label
      · rw [h.setAt_self hself hl, h.setAt_inside hself hl (recordsFields_eq fields ▸ hfields)]
        rcases @mem_putKey key value _ _ hf with hput | hlookup
        · exact .inl (records_subset_of_mem_fields (t := (obj l fields).set key value) hput hxf)
        · refine .inr ⟨_, hself, hl, ?_⟩
          rwa [get, get?_obj, hlookup, Option.getD_some]
      · rcases ih f hf (h.mono hsub) hxf with hin | ⟨v, hv, hrest⟩
        · refine .inl ?_
          rw [setAt, edit, if_neg hl, records, recordsFields_eq, editFields_eq, List.flatMap_map]
          exact List.mem_cons_of_mem _ (List.mem_flatMap.mpr ⟨f, hf, hin⟩)
        · exact .inr ⟨v, hsub hv, hrest⟩

variable (hkey : holdsChildren key = true)

theorem key_ne_type_of_holdsChildren (hkey : holdsChildren key = true) : key ≠ "type" := by
  rintro rfl
  exact absurd hkey (by decide)

include hkey

/-- The nodes of the changed tree. -/
theorem exists_of_mem_nodes_setAt (h : t.Flat label) (ht : t.isObj = true)
    (hn : n ∈ (t.setAt label key value).subtree) :
    (∃ m ∈ t.subtree, n = m.setAt label key value) ∨ n ∈ value.nodesIn := by
  induction hh : t.height using Nat.strongRecOn generalizing t with
  | _ height ih =>
    subst hh
    by_cases hl : t.label = label
    · have hself := mem_records_self ht
      have hset : t.setAt label key value = t.set key value := h.setAt_self hself hl
      rw [hset] at hn
      cases t with
      | obj l fields =>
        rw [set, subtree_eq_fields] at hn
        rcases List.mem_cons.mp hn with rfl | hn
        · exact .inl ⟨_, mem_subtree_self _, hset.symm⟩
        · obtain ⟨f, hf, hn⟩ := List.mem_flatMap.mp hn
          split at hn
          · rename_i hholds
            rcases mem_of_mem_putKey hf with hf | hf
            · have hin : n ∈ (obj l fields).subtree := by
                rw [subtree_eq_fields]
                exact List.mem_cons_of_mem _ (List.mem_flatMap.mpr ⟨f, hf, by rwa [if_pos hholds]⟩)
              refine .inl ⟨n, hin, (h.setAt_inside hself hl ?_).symm⟩
              rw [fields_obj, recordsFields_eq]
              exact List.mem_flatMap.mpr ⟨f, hf, nodesIn_subset_records f.2 hn⟩
            · exact .inr (hf ▸ hn)
          · cases hn
      | _ => cases ht
    · rcases mem_subtree.mp hn with rfl | ⟨c, hc, hn⟩
      · exact .inl ⟨t, mem_subtree_self t, rfl⟩
      · rw [children, slots_setAt (key_ne_type_of_holdsChildren hkey) hl, List.map_map] at hc
        obtain ⟨⟨slot, c⟩, hslot, rfl⟩ := List.mem_map.mp hc
        have hchild := mem_children_of_mem_slots hslot
        rcases ih _ (height_lt_of_mem_children hchild) (h.mono (records_subset_of_mem_children hchild))
          (isObj_of_isNode (mem_children.mp hchild).1) hn rfl with ⟨m, hm, hrest⟩ | hrest
        · exact .inl ⟨m, subtree_subset_of_mem_children hchild hm, hrest⟩
        · exact .inr hrest

/-- **The labels of the nodes of the changed tree**: each node with the label exchanges those in its field. -/
theorem count_nodes_setAt (h : t.Flat label) (ht : t.isObj = true)
    (hone : ∀ x ∈ t.records, x.label = label → x = r) (l : Nat) :
    ((t.setAt label key value).subtree.map Tree.label).count l +
        (t.subtree.map Tree.label).count label * ((r.get key).nodesIn.map Tree.label).count l =
      (t.subtree.map Tree.label).count l +
        (t.subtree.map Tree.label).count label * (value.nodesIn.map Tree.label).count l := by
  induction hh : t.height using Nat.strongRecOn generalizing t with
  | _ height ih =>
    subst hh
    have hself := mem_records_self ht
    -- at the one node of the label its field is exchanged, and the label is not below it; elsewhere the children add up
    by_cases hl : t.label = label
    · obtain rfl := hone t hself hl
      have hset := @count_nodes_set _ _ value ht hkey l
      have hnot : ((t.children.flatMap subtree).map Tree.label).count label = 0 := by
        refine List.count_eq_zero_of_not_mem fun hin => ?_
        obtain ⟨n, hn, hnl⟩ := List.mem_map.mp hin
        have hlt := height_lt_of_mem_below hn
        rw [hone n (subtree_subset_records ht (subtree_eq t ▸ List.mem_cons_of_mem _ hn)) hnl] at hlt
        exact Nat.lt_irrefl _ hlt
      have hcount : (t.subtree.map Tree.label).count label = 1 := by
        rw [subtree_eq, List.map_cons, hl, List.count_cons_self, hnot]
      rw [h.setAt_self hself hl, hcount]
      omega
    · have hchildren : (t.setAt label key value).children = t.children.map (·.setAt label key value) := by
        rw [children, slots_setAt (key_ne_type_of_holdsChildren hkey) hl, List.map_map, children, List.map_map]
        rfl
      have hbelow : ∀ cs, cs ⊆ t.children →
          (((cs.map (·.setAt label key value)).flatMap subtree).map Tree.label).count l +
              ((cs.flatMap subtree).map Tree.label).count label * ((r.get key).nodesIn.map Tree.label).count l =
            ((cs.flatMap subtree).map Tree.label).count l +
              ((cs.flatMap subtree).map Tree.label).count label * (value.nodesIn.map Tree.label).count l := by
        intro cs hcs
        induction cs with
        | nil => simp
        | cons c rest ihr =>
          obtain ⟨hc, hrest⟩ := List.cons_subset.mp hcs
          have hsub := records_subset_of_mem_children hc
          have hhead := ih _ (height_lt_of_mem_children hc) (h.mono hsub) (isObj_of_isNode (mem_children.mp hc).1)
            (fun x hx => hone x (hsub hx)) rfl
          have htail := ihr hrest
          simp only [List.map_cons, List.flatMap_cons, List.map_append, List.count_append, Nat.add_mul]
          omega
      have hall := hbelow t.children (List.Subset.refl _)
      have hcount : (t.subtree.map Tree.label).count label = ((t.children.flatMap subtree).map Tree.label).count label := by
        rw [subtree_eq, List.map_cons, List.count_cons_of_ne hl]
      rw [hcount, subtree_eq, subtree_eq t, hchildren, List.map_cons, List.map_cons, List.count_cons, List.count_cons,
        label_setAt]
      omega

end SetAt

end Tree

namespace Document

variable {d : Document} {r c x n : Tree} {key : String} {value : Tree} {new kept : List Tree} {l : Nat}

/-- The tree of a document and its loose nodes. -/
def values (d : Document) : List Tree := d.root :: d.loose

/-- The nodes of the tree and of the loose nodes. -/
def nodes (d : Document) : List Tree := d.values.flatMap Tree.subtree

theorem records_eq_values (d : Document) : d.records = d.values.flatMap Tree.records := rfl

/-- **Whether labels tell the records of a document apart**: those with the same label are the same record, and no two
nodes of the tree, or of a loose node, have the same label. -/
structure Distinct (d : Document) : Prop where
  one : ∀ r ∈ d.records, ∀ r' ∈ d.records, r.label = r'.label → r = r'
  isNode : ∀ t ∈ d.values, t.isNode = true
  nodup : ∀ t ∈ d.values, (t.subtree.map Tree.label).Nodup
  keys : ∀ n ∈ d.nodes, Tree.DistinctKeys n.fields

namespace Distinct

variable (hd : d.Distinct)

include hd

theorem mem_records (hn : n ∈ d.nodes) : n ∈ d.records := by
  obtain ⟨t, ht, hn⟩ := List.mem_flatMap.mp hn
  exact List.mem_flatMap.mpr ⟨t, ht, Tree.subtree_subset_records (Tree.isObj_of_isNode (hd.isNode t ht)) hn⟩

theorem isNode_of_mem (hn : n ∈ d.nodes) : n.isNode = true := by
  obtain ⟨t, ht, hn⟩ := List.mem_flatMap.mp hn
  have hchild (u : Tree) (hu : u.isNode = true) : ∀ n ∈ u.subtree, n.isNode = true := by
    induction hh : u.height using Nat.strongRecOn generalizing u with
    | _ height ih =>
      subst hh
      intro n hn
      rcases Tree.mem_subtree.mp hn with rfl | ⟨c, hc, hn⟩
      · exact hu
      · exact ih _ (Tree.height_lt_of_mem_children hc) c (Tree.mem_children.mp hc).1 rfl n hn
  exact hchild t (hd.isNode t ht) n hn

/-- **A label finds its record.** -/
theorem get_label (hr : r ∈ d.records) : d.get r.label = r := by
  have hin := mem_recordsAt.mpr ⟨hr, rfl⟩
  rw [Document.get, find?_eq]
  cases hall : d.recordsAt r.label with
  | nil =>
    rw [hall] at hin
    cases hin
  | cons u rest =>
    obtain ⟨hu, hl⟩ := mem_recordsAt.mp (hall ▸ List.mem_cons_self : u ∈ d.recordsAt r.label)
    exact hd.one u hu r hr hl

/-- The records with one label are not inside each other. -/
theorem flat {t : Tree} (ht : t ∈ d.values) (l : Nat) : t.Flat l := by
  intro r hr hl hin
  have hsub {x : Tree} (hx : x ∈ t.records) : x ∈ d.records := List.mem_flatMap.mpr ⟨t, ht, hx⟩
  obtain ⟨x, hx, rfl⟩ := Tree.mem_labelsFields.mp hin
  have hlt := Tree.height_lt_of_mem_recordsFields hx
  rw [hd.one x (hsub (Tree.records_subset_of_mem_records hr (Tree.recordsFields_subset r hx))) r (hsub hr) hl.symm] at hlt
  exact Nat.lt_irrefl _ hlt

/-- What is inside a record does not have that one inside. -/
theorem setAt_inside (hr : r ∈ d.records) (hx : x ∈ Tree.recordsFields r.fields) :
    x.setAt r.label key value = x := by
  obtain ⟨t, ht, hr⟩ := List.mem_flatMap.mp (records_eq_values d ▸ hr)
  exact (hd.flat ht r.label).setAt_inside hr rfl hx

/-- A record whose field is set changes there alone. -/
theorem setAt_self (hr : r ∈ d.records) : r.setAt r.label key value = r.set key value := by
  obtain ⟨t, ht, hr⟩ := List.mem_flatMap.mp (records_eq_values d ▸ hr)
  exact (hd.flat ht r.label).setAt_self hr rfl

end Distinct

/-- **Where every record has a label of its own**, labels tell the records apart. -/
theorem distinct_of_nodup {t : Tree} {next : Nat} (ht : t.isNode = true) (hn : t.labels.Nodup)
    (hk : ∀ n ∈ t.subtree, Tree.DistinctKeys n.fields) : (Document.mk t [] next).Distinct := by
  have hvalue {u : Tree} (hu : u ∈ (Document.mk t [] next).values) : u = t := List.mem_singleton.mp hu
  have hrecords : (Document.mk t [] next).records = t.records := List.append_nil _
  refine ⟨fun r hr r' hr' hl => ?_, fun u hu => hvalue hu ▸ ht, fun u hu => ?_, fun n hn => ?_⟩
  · rw [hrecords] at hr hr'
    rw [Tree.labels_eq_map_records] at hn
    exact List.inj_on_of_nodup_map hn hr hr' hl
  · rw [hvalue hu]
    exact hn.sublist (Tree.labels_subtree (Tree.isObj_of_isNode ht))
  · obtain ⟨u, hu, hn⟩ := List.mem_flatMap.mp hn
    exact hk n (hvalue hu ▸ hn)

/-- **What can take the place of a node**: nodes made of new records and of what the node is. -/
structure Takes (d : Document) (c : Tree) (new : List Tree) : Prop where
  isNode : ∀ n ∈ new, n.isNode = true
  records : ∀ x ∈ new.flatMap Tree.records, x ∈ c.records ∨ x.label ∉ d.records.map Tree.label
  nodes : ∀ n ∈ new.flatMap Tree.subtree, n ∈ c.subtree ∨ n.label ∉ d.records.map Tree.label
  one : ∀ x ∈ new.flatMap Tree.records, ∀ y ∈ new.flatMap Tree.records, x.label = y.label → x = y
  nodup : ((new.flatMap Tree.subtree).map Tree.label).Nodup
  keys : ∀ n ∈ new.flatMap Tree.subtree, Tree.DistinctKeys n.fields

theorem takes_nil (d : Document) (c : Tree) : d.Takes c [] := ⟨nofun, nofun, nofun, nofun, .nil, nofun⟩

/-- **New nodes can be put next to a node.** -/
theorem takes_beside {first last : List Tree} (hd : d.Distinct) (hc : c ∈ d.nodes)
    (hnode : ∀ n ∈ first ++ last, n.isNode = true) (hfresh : ∀ l ∈ (first ++ last).flatMap Tree.labels,
      l ∉ d.records.map Tree.label) (hnodup : ((first ++ last).flatMap Tree.labels).Nodup)
    (hkeys : ∀ n ∈ (first ++ last).flatMap Tree.subtree, Tree.DistinctKeys n.fields) :
    d.Takes c (first ++ c :: last) := by
  obtain ⟨t, ht, hct⟩ := List.mem_flatMap.mp hc
  have hold {x : Tree} (hx : x ∈ c.records) : x ∈ d.records := List.mem_flatMap.mpr ⟨t, ht,
    Tree.records_subset_of_mem_records (Tree.subtree_subset_records (Tree.isObj_of_isNode (hd.isNode t ht)) hct) hx⟩
  have hlabels : (first ++ last).flatMap Tree.labels = ((first ++ last).flatMap Tree.records).map Tree.label := by
    rw [List.map_flatMap]
    exact List.flatMap_congr fun n _ => Tree.labels_eq_map_records n
  -- everything here is part of the node that was there or of a new one, and the new ones have fresh labels
  have hsplit {α : Type} (f : Tree → List α) {x : α} (hx : x ∈ (first ++ c :: last).flatMap f) :
      x ∈ f c ∨ x ∈ (first ++ last).flatMap f := by
    simp only [List.flatMap_append, List.flatMap_cons, List.mem_append] at hx ⊢
    tauto
  have hnodes := hnodup.sublist (Tree.labels_flatMap_subtree hnode)
  rw [hlabels] at hfresh hnodup
  have hunused {x : Tree} (hx : x ∈ (first ++ last).flatMap Tree.records) : x.label ∉ d.records.map Tree.label :=
    hfresh _ (List.mem_map_of_mem hx)
  have hin {n : Tree} (hn : n ∈ (first ++ last).flatMap Tree.subtree) : n ∈ (first ++ last).flatMap Tree.records := by
    obtain ⟨u, hu, hn⟩ := List.mem_flatMap.mp hn
    exact List.mem_flatMap.mpr ⟨u, hu, Tree.subtree_subset_records (Tree.isObj_of_isNode (hnode u hu)) hn⟩
  refine ⟨fun n hn => ?_, fun x hx => (hsplit _ hx).imp_right hunused, fun n hn => (hsplit _ hn).imp_right fun hn => hunused (hin hn),
    fun x hx y hy hl => ?_, ?_, fun n hn => ?_⟩
  · rcases List.mem_append.mp hn with hn | hn
    · exact hnode n (List.mem_append_left _ hn)
    · rcases List.mem_cons.mp hn with rfl | hn
      · exact hd.isNode_of_mem hc
      · exact hnode n (List.mem_append_right _ hn)
  · rcases hsplit _ hx with hx | hx <;> rcases hsplit _ hy with hy | hy
    · exact hd.one x (hold hx) y (hold hy) hl
    · exact absurd (hl ▸ List.mem_map_of_mem (hold hx)) (hunused hy)
    · exact absurd (hl ▸ List.mem_map_of_mem (hold hy)) (hunused hx)
    · exact List.inj_on_of_nodup_map hnodup hx hy hl
  · have hperm : (first ++ c :: last).Perm (c :: (first ++ last)) := List.perm_middle
    refine ((hperm.flatMap_right Tree.subtree).map Tree.label).nodup_iff.mpr ?_
    rw [List.flatMap_cons, List.map_append, List.nodup_append]
    refine ⟨(hd.nodup t ht).sublist ((Tree.sublist_subtree hct).map Tree.label), hnodes, fun l hl l' hl' he => ?_⟩
    obtain ⟨x, hx, rfl⟩ := List.mem_map.mp hl
    obtain ⟨y, hy, rfl⟩ := List.mem_map.mp hl'
    exact hunused (hin hy) (he ▸ List.mem_map_of_mem (hd.mem_records
      (List.mem_flatMap.mpr ⟨t, ht, Tree.subtree_subset hct hx⟩)))
  · rcases hsplit _ hn with hn | hn
    · exact hd.keys n (List.mem_flatMap.mpr ⟨t, ht, Tree.subtree_subset hct hn⟩)
    · exact hkeys n hn

/-- **A field of a node exchanges a part for new ones**; the old part is still among them, or it is kept. -/
structure Swaps (d : Document) (r : Tree) (key : String) (value c : Tree) (new kept : List Tree) : Prop where
  mem : r ∈ d.nodes
  holds : Tree.holdsChildren key = true
  isNode : c.isNode = true
  parts : ∃ before after, (r.get key).parts = before ++ c :: after ∧ value.parts = before ++ new ++ after
  takes : d.Takes c new
  kept_eq : ∀ t ∈ kept, t = c
  stays : c ∈ kept ∨ c ∈ new.flatMap Tree.subtree

/-- The document in which a field of a node is set, and which knows further nodes. -/
def swapped (d : Document) (r : Tree) (key : String) (value : Tree) (kept : List Tree) : Document :=
  { d.set r.label key value with loose := (d.set r.label key value).loose ++ kept }

theorem values_swapped : (d.swapped r key value kept).values = d.values.map (·.setAt r.label key value) ++ kept := rfl

namespace Swaps

variable (hd : d.Distinct) (h : d.Swaps r key value c new kept)

include h

theorem mem_records_new (hx : x ∈ new.flatMap Tree.records) : x ∈ value.records := by
  obtain ⟨before, after, -, hparts⟩ := h.parts
  rw [Tree.records_eq_parts, hparts, List.flatMap_append, List.flatMap_append]
  exact List.mem_append_left _ (List.mem_append_right _ hx)

/-- What a part holds, the field holds. -/
theorem records_part : c.records ⊆ (r.get key).records := by
  obtain ⟨before, after, hparts, -⟩ := h.parts
  rw [Tree.records_eq_parts (r.get key), hparts]
  exact fun x hx => List.mem_flatMap.mpr ⟨c, by simp, hx⟩

/-- What was in the field and is not part of the old node is still in it. -/
theorem mem_value_or (hx : x ∈ (r.get key).records) : x ∈ value.records ∨ x ∈ c.records := by
  obtain ⟨before, after, hparts, hvalue⟩ := h.parts
  rw [Tree.records_eq_parts, hparts] at hx
  rw [Tree.records_eq_parts value, hvalue]
  simp only [List.flatMap_append, List.flatMap_cons, List.mem_append] at hx ⊢
  tauto

/-- What is in the field was in it, or it is new. -/
theorem mem_field_or (hx : x ∈ value.records) :
    x ∈ (r.get key).records ∨ x ∈ new.flatMap Tree.records ∧ x.label ∉ d.records.map Tree.label := by
  obtain ⟨before, after, hparts, hvalue⟩ := h.parts
  have hnew := h.takes.records x
  rw [Tree.records_eq_parts, hvalue] at hx
  rw [Tree.records_eq_parts (r.get key), hparts]
  simp only [List.flatMap_append, List.flatMap_cons, List.mem_append] at hx ⊢
  tauto

include hd

theorem mem_inside (hx : x ∈ (r.get key).records) : x ∈ d.records ∧ x.setAt r.label key value = x := by
  have hr := hd.mem_records h.mem
  have hin := Tree.records_get_subset r key hx
  obtain ⟨t, ht, hrt⟩ := List.mem_flatMap.mp (records_eq_values d ▸ hr)
  exact ⟨List.mem_flatMap.mpr ⟨t, ht, Tree.records_subset_of_mem_records hrt (Tree.recordsFields_subset r hin)⟩,
    hd.setAt_inside hr hin⟩

/-- **The records after the exchange** are those from before, with the field set, and new ones. -/
theorem exists_of_mem_records (hx : x ∈ (d.swapped r key value kept).records) :
    (∃ u ∈ d.records, x = u.setAt r.label key value) ∨
      x ∈ new.flatMap Tree.records ∧ x.label ∉ d.records.map Tree.label := by
  have hfield {x : Tree} (hx : x ∈ (r.get key).records) : ∃ u ∈ d.records, x = u.setAt r.label key value :=
    ⟨x, (h.mem_inside hd hx).1, (h.mem_inside hd hx).2.symm⟩
  rw [records_eq_values, values_swapped, List.flatMap_append, List.flatMap_map] at hx
  rcases List.mem_append.mp hx with hx | hx
  · obtain ⟨t, ht, hx⟩ := List.mem_flatMap.mp hx
    rcases Tree.exists_of_mem_records_setAt (hd.flat ht r.label) hx with ⟨u, hu, rfl⟩ | hx
    · exact .inl ⟨u, List.mem_flatMap.mpr ⟨t, ht, hu⟩, rfl⟩
    · exact (h.mem_field_or hx).imp_left hfield
  · obtain ⟨t, ht, hx⟩ := List.mem_flatMap.mp hx
    exact .inl (hfield (h.records_part (h.kept_eq t ht ▸ hx)))

theorem mem_records_value (hx : x ∈ value.records) : x ∈ (d.swapped r key value kept).records := by
  have hr := hd.mem_records h.mem
  obtain ⟨t, ht, hrt⟩ := List.mem_flatMap.mp (records_eq_values d ▸ hr)
  have hflat := hd.flat ht r.label
  have hobj := Tree.isObj_of_mem_records hrt
  have hset : r.setAt r.label key value ∈ (t.setAt r.label key value).records := by
    refine (Tree.mem_records_setAt hflat hrt).resolve_right ?_
    rintro ⟨u, hu, hl, hin⟩
    obtain rfl := hd.one u (List.mem_flatMap.mpr ⟨t, ht, hu⟩) r hr hl
    exact Nat.lt_irrefl _ (Tree.height_lt_of_mem_recordsFields (Tree.records_get_subset u key hin))
  rw [records_eq_values, values_swapped, List.flatMap_append, List.flatMap_map]
  refine List.mem_append_left _ (List.mem_flatMap.mpr ⟨t, ht, ?_⟩)
  refine Tree.records_subset_of_mem_records hset ?_
  rw [hflat.setAt_self hrt rfl]
  have hget : (r.set key value).get key = value := Tree.get_set_self hobj
  exact (Tree.sublist_records_get (r.set key value) key).subset (hget.symm ▸ hx)

/-- **The records from before are still known**, with the field set. -/
theorem mem_records (hx : x ∈ d.records) : x.setAt r.label key value ∈ (d.swapped r key value kept).records := by
  obtain ⟨t, ht, hxt⟩ := List.mem_flatMap.mp (records_eq_values d ▸ hx)
  rcases Tree.mem_records_setAt (hd.flat ht r.label) hxt with hin | ⟨u, hu, hl, hin⟩
  · rw [records_eq_values, values_swapped, List.flatMap_append, List.flatMap_map]
    exact List.mem_append_left _ (List.mem_flatMap.mpr ⟨t, ht, hin⟩)
  · obtain rfl := hd.one u (List.mem_flatMap.mpr ⟨t, ht, hu⟩) r (hd.mem_records h.mem) hl
    rw [(h.mem_inside hd hin).2]
    rcases h.mem_value_or hin with hin | hin
    · exact h.mem_records_value hd hin
    · rcases h.stays with hc | hc
      · rw [records_eq_values, values_swapped, List.flatMap_append]
        exact List.mem_append_right _ (List.mem_flatMap.mpr ⟨c, hc, hin⟩)
      · obtain ⟨w, hw, hc⟩ := List.mem_flatMap.mp hc
        have hcw := Tree.subtree_subset_records (Tree.isObj_of_isNode (h.takes.isNode w hw)) hc
        exact h.mem_records_value hd (h.mem_records_new
          (List.mem_flatMap.mpr ⟨w, hw, Tree.records_subset_of_mem_records hcw hin⟩))

/-- Records with the same label are still the same. -/
theorem eq_of_label {y : Tree} (hx : x ∈ (d.swapped r key value kept).records)
    (hy : y ∈ (d.swapped r key value kept).records) (hl : x.label = y.label) : x = y := by
  rcases h.exists_of_mem_records hd hx with ⟨u, hu, rfl⟩ | ⟨hx, hfresh⟩
  · rcases h.exists_of_mem_records hd hy with ⟨v, hv, rfl⟩ | ⟨hy, hfresh⟩
    · rw [Tree.label_setAt, Tree.label_setAt] at hl
      rw [hd.one u hu v hv hl]
    · rw [← hl, Tree.label_setAt] at hfresh
      exact absurd (List.mem_map_of_mem hu) hfresh
  · rcases h.exists_of_mem_records hd hy with ⟨v, hv, rfl⟩ | ⟨hy, -⟩
    · rw [hl, Tree.label_setAt] at hfresh
      exact absurd (List.mem_map_of_mem hv) hfresh
    · exact h.takes.one x hx y hy hl

/-! The nodes -/

omit hd in
/-- The nodes of the field are those of the new ones in the place of the old one. -/
theorem exists_nodesIn : ∃ before after, (r.get key).nodesIn = before ++ (c.subtree ++ after) ∧
    value.nodesIn = before ++ (new.flatMap Tree.subtree ++ after) := by
  obtain ⟨before, after, hparts, hvalue⟩ := h.parts
  have hnew : new.filter Tree.isNode = new := List.filter_eq_self.mpr h.takes.isNode
  refine ⟨(before.filter Tree.isNode).flatMap Tree.subtree, (after.filter Tree.isNode).flatMap Tree.subtree, ?_, ?_⟩
  · rw [Tree.nodesIn, hparts, List.filter_append, List.filter_cons_of_pos h.isNode, List.flatMap_append, List.flatMap_cons]
  · rw [Tree.nodesIn, hvalue, List.filter_append, List.filter_append, hnew, List.flatMap_append, List.flatMap_append,
      List.append_assoc]

theorem isObj : r.isObj = true := by
  obtain ⟨t, -, hr⟩ := List.mem_flatMap.mp (records_eq_values d ▸ hd.mem_records h.mem)
  exact Tree.isObj_of_mem_records hr

/-- What was in the field was in one of the values. -/
theorem exists_value : ∃ t ∈ d.values, r ∈ t.subtree ∧ t.isObj = true ∧
    ∀ l, ((r.get key).nodesIn.map Tree.label).count l ≤ (t.subtree.map Tree.label).count l := by
  obtain ⟨t, ht, hr⟩ := List.mem_flatMap.mp h.mem
  exact ⟨t, ht, hr, Tree.isObj_of_isNode (hd.isNode t ht), fun l =>
    Nat.le_trans (Tree.count_nodesIn_get_le (h.isObj hd) h.holds l) (Tree.count_nodes_le hr l)⟩

omit h in
theorem not_mem_of_count {t : Tree} (ht : t ∈ d.values) (hl : l ∉ d.records.map Tree.label) :
    (t.subtree.map Tree.label).count l = 0 := by
  refine List.count_eq_zero_of_not_mem fun hin => ?_
  obtain ⟨n, hn, rfl⟩ := List.mem_map.mp hin
  exact hl (List.mem_map_of_mem (hd.mem_records (List.mem_flatMap.mpr ⟨t, ht, hn⟩)))

omit hd in
/-- A label that was known is not in the field more often than before. -/
theorem count_value_le (hl : l ∈ d.records.map Tree.label) :
    (value.nodesIn.map Tree.label).count l ≤ ((r.get key).nodesIn.map Tree.label).count l := by
  obtain ⟨before, after, hold, hnew⟩ := h.exists_nodesIn
  have hle : ((new.flatMap Tree.subtree).map Tree.label).count l ≤ (c.subtree.map Tree.label).count l := by
    by_cases hin : l ∈ (new.flatMap Tree.subtree).map Tree.label
    · obtain ⟨n, hn, rfl⟩ := List.mem_map.mp hin
      have hc := (h.takes.nodes n hn).resolve_right (not_not_intro hl)
      exact Nat.le_trans (List.nodup_iff_count.mp h.takes.nodup _) (List.count_pos_iff.mpr (List.mem_map_of_mem hc))
    · rw [List.count_eq_zero_of_not_mem hin]
      exact Nat.zero_le _
  rw [hold, hnew]
  simp only [List.map_append, List.count_append]
  omega

/-- A new label is in the field once at most. -/
theorem count_value_le_one (hl : l ∉ d.records.map Tree.label) : (value.nodesIn.map Tree.label).count l ≤ 1 := by
  obtain ⟨before, after, hold, hnew⟩ := h.exists_nodesIn
  obtain ⟨t, ht, -, -, hle⟩ := h.exists_value hd
  have hzero := hle l
  rw [not_mem_of_count hd ht hl, hold] at hzero
  have hone := List.nodup_iff_count.mp h.takes.nodup l
  rw [hnew]
  simp only [List.map_append, List.count_append] at hzero ⊢
  omega

/-- The labels of the nodes of a value after the exchange. -/
theorem count_nodes {t : Tree} (ht : t ∈ d.values) (l : Nat) :
    ((t.setAt r.label key value).subtree.map Tree.label).count l +
        (t.subtree.map Tree.label).count r.label * ((r.get key).nodesIn.map Tree.label).count l =
      (t.subtree.map Tree.label).count l +
        (t.subtree.map Tree.label).count r.label * (value.nodesIn.map Tree.label).count l :=
  Tree.count_nodes_setAt h.holds (hd.flat ht r.label) (Tree.isObj_of_isNode (hd.isNode t ht))
    (fun x hx hl => hd.one x (List.mem_flatMap.mpr ⟨t, ht, hx⟩) r (hd.mem_records h.mem) hl) l

/-- Each node stands once where the field has been set. -/
theorem nodup_setAt {t : Tree} (ht : t ∈ d.values) : ((t.setAt r.label key value).subtree.map Tree.label).Nodup := by
  refine List.nodup_iff_count.mpr fun l => ?_
  have hcount := h.count_nodes hd ht l
  have hone := List.nodup_iff_count.mp (hd.nodup t ht)
  by_cases hl : l ∈ d.records.map Tree.label
  · have hle := Nat.mul_le_mul_left ((t.subtree.map Tree.label).count r.label) (h.count_value_le hl)
    have := hone l
    omega
  · have hle := Nat.mul_le_mul (hone r.label) (h.count_value_le_one hd hl)
    rw [not_mem_of_count hd ht hl] at hcount
    omega

theorem part_mem_nodes : c ∈ d.nodes ∧ (c.subtree.map Tree.label).Nodup := by
  obtain ⟨t, ht, hr, -, hle⟩ := h.exists_value hd
  obtain ⟨before, after, hold, -⟩ := h.exists_nodesIn
  have hchild : c ∈ r.children := by
    obtain ⟨before, after, hparts, -⟩ := h.parts
    exact Tree.mem_children_of_parts h.isNode h.holds (by rw [hparts]; simp)
  refine ⟨List.mem_flatMap.mpr ⟨t, ht, Tree.subtree_subset hr
    (Tree.subtree_subset_of_mem_children hchild (Tree.mem_subtree_self c))⟩, List.nodup_iff_count.mpr fun l => ?_⟩
  have hone := List.nodup_iff_count.mp (hd.nodup t ht) l
  have hle := hle l
  rw [hold] at hle
  simp only [List.map_append, List.count_append] at hle
  omega

/-- The labels of new nodes are known. -/
theorem mem_nodes_new (hn : n ∈ new.flatMap Tree.subtree) :
    n.label ∈ (d.swapped r key value kept).nodes.map Tree.label := by
  obtain ⟨t, ht, hr, hobj, hle⟩ := h.exists_value hd
  obtain ⟨before, after, -, hnew⟩ := h.exists_nodesIn
  have hcount := h.count_nodes hd ht n.label
  have hself : (t.subtree.map Tree.label).count r.label = 1 :=
    Nat.le_antisymm (List.nodup_iff_count.mp (hd.nodup t ht) _) (List.count_pos_iff.mpr (List.mem_map_of_mem hr))
  have hpos : 0 < (value.nodesIn.map Tree.label).count n.label := by
    refine List.count_pos_iff.mpr (List.mem_map_of_mem ?_)
    rw [hnew]
    exact List.mem_append_right _ (List.mem_append_left _ hn)
  have hle := hle n.label
  rw [hself, Nat.one_mul, Nat.one_mul] at hcount
  have hin : n.label ∈ (t.setAt r.label key value).subtree.map Tree.label := List.count_pos_iff.mp (by omega)
  obtain ⟨m, hm, hl⟩ := List.mem_map.mp hin
  refine List.mem_map.mpr ⟨m, List.mem_flatMap.mpr ⟨_, ?_, hm⟩, hl⟩
  rw [values_swapped]
  exact List.mem_append_left _ (List.mem_map_of_mem ht)

/-- **The nodes that were known are still known.** -/
theorem mem_nodes (hl : l ∈ d.nodes.map Tree.label) : l ∈ (d.swapped r key value kept).nodes.map Tree.label := by
  obtain ⟨n, hn, rfl⟩ := List.mem_map.mp hl
  obtain ⟨t, ht, hn⟩ := List.mem_flatMap.mp hn
  by_cases hc : n.label ∈ c.subtree.map Tree.label
  · -- what has been taken out is kept, or is part of what is new
    obtain ⟨m, hm, hl⟩ := List.mem_map.mp hc
    rcases h.stays with hk | hk
    · refine List.mem_map.mpr ⟨m, List.mem_flatMap.mpr ⟨c, ?_, hm⟩, hl⟩
      rw [values_swapped]
      exact List.mem_append_right _ hk
    · obtain ⟨w, hw, hcw⟩ := List.mem_flatMap.mp hk
      rw [← hl]
      exact h.mem_nodes_new hd (List.mem_flatMap.mpr ⟨w, hw, Tree.subtree_subset hcw hm⟩)
  · obtain ⟨before, after, hold, hnew⟩ := h.exists_nodesIn
    have hcount := h.count_nodes hd ht n.label
    have hzero := List.count_eq_zero_of_not_mem hc
    have hle : ((r.get key).nodesIn.map Tree.label).count n.label ≤ (value.nodesIn.map Tree.label).count n.label := by
      rw [hold, hnew]
      simp only [List.map_append, List.count_append]
      omega
    have hle := Nat.mul_le_mul_left ((t.subtree.map Tree.label).count r.label) hle
    have hpos := List.count_pos_iff.mpr (List.mem_map_of_mem (f := Tree.label) hn)
    have hin : n.label ∈ (t.setAt r.label key value).subtree.map Tree.label := List.count_pos_iff.mp (by omega)
    obtain ⟨m, hm, hl⟩ := List.mem_map.mp hin
    refine List.mem_map.mpr ⟨m, List.mem_flatMap.mpr ⟨_, ?_, hm⟩, hl⟩
    rw [values_swapped]
    exact List.mem_append_left _ (List.mem_map_of_mem ht)

/-- The keys of a node differ after the exchange. -/
theorem distinctKeys (hn : n ∈ (d.swapped r key value kept).nodes) : Tree.DistinctKeys n.fields := by
  have hkey := Tree.key_ne_type_of_holdsChildren h.holds
  obtain ⟨t', ht', hn⟩ := List.mem_flatMap.mp hn
  rw [values_swapped] at ht'
  rcases List.mem_append.mp ht' with ht' | ht'
  · obtain ⟨t, ht, rfl⟩ := List.mem_map.mp ht'
    rcases Tree.exists_of_mem_nodes_setAt h.holds (hd.flat ht r.label) (Tree.isObj_of_isNode (hd.isNode t ht)) hn with
      ⟨m, hm, rfl⟩ | hn
    · have hm := List.mem_flatMap.mpr ⟨t, ht, hm⟩
      by_cases hl : m.label = r.label
      · obtain rfl := hd.one m (hd.mem_records hm) r (hd.mem_records h.mem) hl
        rw [hd.setAt_self (hd.mem_records hm)]
        exact Tree.distinctKeys_set (hd.keys m hm)
      · exact Tree.distinctKeys_setAt_of_ne hl (hd.keys m hm)
    · obtain ⟨before, after, hold, hnew⟩ := h.exists_nodesIn
      have hfield (hin : n ∈ (r.get key).nodesIn) : Tree.DistinctKeys n.fields := by
        obtain ⟨t, ht, hr⟩ := List.mem_flatMap.mp h.mem
        exact hd.keys n (List.mem_flatMap.mpr ⟨t, ht, Tree.subtree_subset hr (Tree.nodesIn_get_subset h.holds hin)⟩)
      rw [hold] at hfield
      rw [hnew] at hn
      rcases List.mem_append.mp hn with hn | hn
      · exact hfield (List.mem_append_left _ hn)
      · exact (List.mem_append.mp hn).elim (h.takes.keys n) fun hn =>
          hfield (List.mem_append_right _ (List.mem_append_right _ hn))
  · obtain rfl := h.kept_eq t' ht'
    obtain ⟨t, ht, hc⟩ := List.mem_flatMap.mp (h.part_mem_nodes hd).1
    exact hd.keys n (List.mem_flatMap.mpr ⟨t, ht, Tree.subtree_subset hc hn⟩)

/-- **Labels still tell the records apart.** -/
theorem distinct : (d.swapped r key value kept).Distinct where
  one x hx y hy hl := h.eq_of_label hd hx hy hl
  isNode t' ht' := by
    rw [values_swapped] at ht'
    rcases List.mem_append.mp ht' with ht' | ht'
    · obtain ⟨t, ht, rfl⟩ := List.mem_map.mp ht'
      rw [Tree.isNode_setAt (Tree.key_ne_type_of_holdsChildren h.holds)]
      exact hd.isNode t ht
    · exact h.kept_eq t' ht' ▸ h.isNode
  nodup t' ht' := by
    rw [values_swapped] at ht'
    rcases List.mem_append.mp ht' with ht' | ht'
    · obtain ⟨t, ht, rfl⟩ := List.mem_map.mp ht'
      exact h.nodup_setAt hd ht
    · exact h.kept_eq t' ht' ▸ (h.part_mem_nodes hd).2
  keys n hn := h.distinctKeys hd hn

/-- **What a label finds after the exchange** is what it found before, with the field set. -/
theorem get_label (hx : x ∈ d.records) : (d.swapped r key value kept).get x.label = x.setAt r.label key value := by
  rw [← @Tree.label_setAt r.label key value x]
  exact (h.distinct hd).get_label (h.mem_records hd hx)

end Swaps

end Document

end Deminify
