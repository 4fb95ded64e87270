import Deminify.Proofs.Interface.Outline

/-!
# Trees whose nodes are changed

A tree with every node changed, from the leaves up, seen from its nodes: a node is changed after its
children, which stay where they are (`Deminify.Tree.slots_mapNodesFields`). **If no node is to be changed the
tree stays as it is** (`Deminify.Tree.mapNodes_eq_self`), and if labels do not matter to the change it can as well
be made without them (`Deminify.Tree.renewed_mapNodes`). A change of all records that touches only those with the
labels of nodes is one of all nodes (`Deminify.Tree.mapObjs_eq_mapNodes`).
-/

namespace Deminify.Tree

section MapNodes

variable {change : Tree → Tree} {t : Tree} {l : Nat} {fields : List (String × Tree)}

theorem mapNodesItem_eq (change : Tree → Tree) (t : Tree) :
    mapNodesItem change t = if t.isNode then t.mapNodes change else t := by
  cases t with
  | obj l fields =>
    rw [mapNodesItem]
    rfl
  | _ => rfl

theorem isList_of_isNode (h : t.isNode = true) : t.isList = false := by
  cases t <;> first | rfl | cases h

theorem mapNodesValue_eq (change : Tree → Tree) (t : Tree) : mapNodesValue change t =
    if t.isList then .list (t.items.map (mapNodesItem change)) else mapNodesItem change t := by
  cases t with
  | list items =>
    rw [mapNodesValue, mapNodesItems_eq]
    rfl
  | obj l fields =>
    rw [mapNodesValue, mapNodesItem]
    rfl
  | _ => rfl

/-- What holds of a node if it holds of its children holds of all nodes. -/
theorem children_induct {P : Tree → Prop} (t : Tree)
    (h : ∀ n ∈ t.subtree, (∀ c ∈ n.children, P c) → P n) : P t := by
  induction hn : t.height using Nat.strongRecOn generalizing t with
  | _ n ih =>
    subst hn
    refine h t (mem_subtree_self t) fun c hc => ?_
    exact ih _ (height_lt_of_mem_children hc) c (fun n hn => h n (subtree_subset_of_mem_children hc hn)) rfl

/-- A node that a record holds under a key is one of its children. -/
theorem mem_children_of_get {n c : Tree} {key : String} (hnode : c.isNode = true) (hkey : holdsChildren key = true)
    (hc : c = n.get key ∨ c ∈ (n.get key).items) : c ∈ n.children := by
  cases hv : n.get? key with
  | none =>
    rw [get, hv] at hc
    rcases hc with rfl | hc
    · cases hnode
    · cases hc
  | some v =>
    rw [get_of_get? hv] at hc
    exact mem_children.mpr ⟨hnode, key, v, mem_of_lookup hv, hkey, hc⟩

theorem mem_subtree_of_mem_children {n c : Tree} (hn : n ∈ t.subtree) (hc : c ∈ n.children) : c ∈ t.subtree :=
  subtree_subset hn (subtree_subset_of_mem_children hc (mem_subtree_self c))

theorem isKind_mapNodesFields (l : Nat) (fields : List (String × Tree)) (kind : String) :
    (obj l (mapNodesFields change fields)).isKind kind = (obj l fields).isKind kind := by
  have htype : (obj l (mapNodesFields change fields)).get? "type" = (obj l fields).get? "type" := by
    rw [get?_obj, get?_obj, lookup_mapNodesFields]
    exact Option.map_id'
  rw [isKind, isKind, htype]
  rfl

/-! ### Nothing to change -/

theorem mapNodesItem_eq_self (h : t.isNode = true → t.mapNodes change = t) : mapNodesItem change t = t := by
  rw [mapNodesItem_eq]
  split
  · rename_i hn
    exact h hn
  · rfl

theorem mapNodesValue_eq_self {key : String} (hf : (key, t) ∈ fields) (hk : holdsChildren key = true)
    (h : ∀ c ∈ (obj l fields).children, c.mapNodes change = c) : mapNodesValue change t = t := by
  have hchild (c : Tree) (hc : c = t ∨ c ∈ t.items) : mapNodesItem change c = c :=
    mapNodesItem_eq_self fun hn => h c (mem_children.mpr ⟨hn, key, t, hf, hk, hc⟩)
  rw [mapNodesValue_eq]
  split
  · rename_i hlist
    cases t with
    | list items =>
      rw [List.map_congr_left fun c hc => hchild c (.inr hc), List.map_id', items_list]
    | _ => cases hlist
  · exact hchild t (.inl rfl)

theorem mapNodesFields_eq_self (h : ∀ c ∈ (obj l fields).children, c.mapNodes change = c) :
    mapNodesFields change fields = fields := by
  rw [mapNodesFields_eq]
  refine (List.map_congr_left fun f hf => ?_).trans (List.map_id' fields)
  split
  · rename_i hk
    rw [mapNodesValue_eq_self hf hk h]
  · rfl

/-- **A tree of which no node is changed stays as it is.** -/
theorem mapNodes_eq_self (h : ∀ n ∈ t.subtree, change n = n) : t.mapNodes change = t := by
  refine @children_induct (fun t => t.mapNodes change = t) t fun n hn ih => ?_
  cases n with
  | obj l fields => rw [mapNodes, mapNodesFields_eq_self ih, h _ hn]
  | _ => rfl

/-! ### Slots -/

section Slots

variable (hnode : ∀ t, t.isNode = true → (change t).isNode = true)

include hnode in
theorem isNode_mapNodes (ht : t.isNode = true) : (t.mapNodes change).isNode = true := by
  cases t with
  | obj l fields =>
    refine hnode _ ?_
    rw [isNode, get?_obj, lookup_mapNodesFields, Option.isSome_map]
    exact ht
  | _ => cases ht

include hnode in
theorem isNode_mapNodesItem (t : Tree) : (mapNodesItem change t).isNode = t.isNode := by
  rw [mapNodesItem_eq]
  split
  · rename_i ht
    rw [ht, isNode_mapNodes hnode ht]
  · rfl

include hnode in
theorem itemSlots_map (key : String) (start : Nat) (items : List Tree) :
    itemSlots key start (items.map (mapNodesItem change)) =
      (itemSlots key start items).map fun slot => (slot.1, slot.2.mapNodes change) := by
  induction items generalizing start with
  | nil => rfl
  | cons t rest ih =>
    rw [List.map_cons, itemSlots, itemSlots, isNode_mapNodesItem hnode, ih]
    split
    · rename_i ht
      rw [mapNodesItem_eq, if_pos ht, List.map_cons]
    · rfl

theorem fieldSlots_of_not_isList {key : String} {value : Tree} (hk : holdsChildren key = true)
    (h : value.isList = false) : fieldSlots key value = if value.isNode then [(⟨key, none⟩, value)] else [] := by
  unfold fieldSlots
  rw [if_pos hk]
  cases value <;> first | rfl | cases h

include hnode in
theorem fieldSlots_map (key : String) (value : Tree) :
    fieldSlots key (if holdsChildren key then mapNodesValue change value else value) =
      (fieldSlots key value).map fun slot => (slot.1, slot.2.mapNodes change) := by
  by_cases hk : holdsChildren key = true
  · rw [if_pos hk, mapNodesValue_eq]
    split
    · rename_i hlist
      cases value with
      | list items =>
        rw [fieldSlots, fieldSlots, if_pos hk, if_pos hk]
        exact itemSlots_map hnode key 0 items
      | _ => cases hlist
    · rename_i hlist
      rw [mapNodesItem_eq, fieldSlots_of_not_isList hk (Bool.eq_false_iff.mpr hlist)]
      split
      · rename_i hn
        have hnode' := isNode_mapNodes hnode hn
        rw [fieldSlots_of_not_isList hk (isList_of_isNode hnode'), if_pos hnode', List.map_singleton]
      · rename_i hn
        rw [fieldSlots_of_not_isList hk (Bool.eq_false_iff.mpr hlist), if_neg hn, List.map_nil]
  · unfold fieldSlots
    rw [if_neg hk, if_neg hk, List.map_nil]

include hnode in
/-- **The children of a node are changed where they stand.** -/
theorem slots_mapNodesFields :
    (obj l (mapNodesFields change fields)).slots =
      (obj l fields).slots.map fun slot => (slot.1, slot.2.mapNodes change) := by
  rw [slots, slots, fields_obj, fields_obj, mapNodesFields_eq, List.flatMap_map, List.map_flatMap]
  exact List.flatMap_congr fun f _ => fieldSlots_map hnode f.1 f.2

include hnode in
theorem children_mapNodesFields :
    (obj l (mapNodesFields change fields)).children = (obj l fields).children.map (mapNodes change) := by
  rw [children, children, slots_mapNodesFields hnode, List.map_map, List.map_map]
  rfl

end Slots

/-! ### Trees without their labels -/

section Renewed

theorem renewed_list (items : List Tree) : (list items).renewed = list (items.map renewed) := by
  rw [renewed, mapObjs, mapObjsItems_eq]
  rfl

theorem renewed_obj (l : Nat) (fields : List (String × Tree)) :
    (obj l fields).renewed = obj 0 (fields.map fun f => (f.1, f.2.renewed)) := by
  rw [renewed, mapObjs, mapObjsFields_eq]
  rfl

theorem get?_renewed (t : Tree) (key : String) : t.renewed.get? key = (t.get? key).map renewed := by
  cases t with
  | obj l fields => rw [renewed_obj, get?_obj, get?_obj, lookup_map_snd]
  | list items => rw [renewed_list]; rfl
  | _ => rfl

theorem get_renewed (t : Tree) (key : String) : t.renewed.get key = (t.get key).renewed := by
  rw [get, get, get?_renewed]
  cases t.get? key <;> rfl

theorem isObj_renewed (t : Tree) : t.renewed.isObj = t.isObj := by
  cases t with
  | obj l fields => rw [renewed_obj]; rfl
  | list items => rw [renewed_list]; rfl
  | _ => rfl

theorem isNode_renewed (t : Tree) : t.renewed.isNode = t.isNode := by
  rw [isNode, isNode, isObj_renewed, get?_renewed, Option.isSome_map]

theorem isList_renewed (t : Tree) : t.renewed.isList = t.isList := by
  cases t with
  | obj l fields => rw [renewed_obj]; rfl
  | list items => rw [renewed_list]; rfl
  | _ => rfl

theorem items_renewed (t : Tree) : t.renewed.items = t.items.map renewed := by
  cases t with
  | obj l fields => rw [renewed_obj]; rfl
  | list items => rw [renewed_list]; rfl
  | _ => rfl

theorem truthy_renewed (t : Tree) : t.renewed.truthy = t.truthy := by
  cases t with
  | obj l fields => rw [renewed_obj, truthy, truthy, List.isEmpty_map]
  | list items => rw [renewed_list, truthy, truthy, List.isEmpty_map]
  | _ => rfl

theorem isNull_renewed (t : Tree) : t.renewed.isNull = t.isNull := by
  cases t with
  | obj l fields => rw [renewed_obj]; rfl
  | list items => rw [renewed_list]; rfl
  | _ => rfl

theorem isKind_renewed (t : Tree) (kind : String) : t.renewed.isKind kind = t.isKind kind := by
  have hstr (v : Tree) : v.renewed.str? = v.str? := by
    cases v with
    | obj l fields => rw [renewed_obj]; rfl
    | list items => rw [renewed_list]; rfl
    | _ => rfl
  rw [isKind, isKind, isObj_renewed, get?_renewed, Option.bind_map]
  exact congrArg _ (congrArg (· == some kind) (Option.bind_congr fun v _ => hstr v))

theorem renewed_mapNodesItem {F : Tree → Tree} (h : t.isNode = true → (t.mapNodes change).renewed = t.renewed.mapNodes F) :
    (mapNodesItem change t).renewed = mapNodesItem F t.renewed := by
  rw [mapNodesItem_eq, mapNodesItem_eq, isNode_renewed]
  split
  · rename_i hn
    exact h hn
  · rfl

theorem renewed_mapNodesFields {F : Tree → Tree}
    (h : ∀ c ∈ (obj l fields).children, (c.mapNodes change).renewed = c.renewed.mapNodes F) :
    (mapNodesFields change fields).map (fun f => (f.1, f.2.renewed)) =
      mapNodesFields F (fields.map fun f => (f.1, f.2.renewed)) := by
  rw [mapNodesFields_eq, mapNodesFields_eq, List.map_map, List.map_map]
  refine List.map_congr_left fun f hf => congrArg (Prod.mk f.1) ?_
  dsimp only [Function.comp_apply]
  split
  · rename_i hkey
    have hchild (c : Tree) (hc : c = f.2 ∨ c ∈ f.2.items) : (mapNodesItem change c).renewed = mapNodesItem F c.renewed :=
      renewed_mapNodesItem fun hn => h c (mem_children.mpr ⟨hn, f.1, f.2, hf, hkey, hc⟩)
    rw [mapNodesValue_eq, mapNodesValue_eq, isList_renewed]
    split
    · rw [renewed_list, items_renewed, List.map_map, List.map_map]
      exact congrArg list (List.map_congr_left fun c hc => hchild c (.inr hc))
    · exact hchild f.2 (.inl rfl)
  · rfl

/-- **Without labels**, a changed tree is the tree without labels, changed. -/
theorem renewed_mapNodes {F : Tree → Tree} (h : ∀ l fields, obj l fields ∈ t.subtree →
    (change (obj l (mapNodesFields change fields))).renewed = F (obj l (mapNodesFields change fields)).renewed) :
    (t.mapNodes change).renewed = t.renewed.mapNodes F := by
  refine @children_induct (fun t => (t.mapNodes change).renewed = t.renewed.mapNodes F) t fun n hn ih => ?_
  cases n with
  | obj l fields =>
    rw [mapNodes, h l fields hn, renewed_obj, renewed_obj, mapNodes, renewed_mapNodesFields ih]
  | list items =>
    show (list items).renewed = _
    rw [renewed_list]
    rfl
  | _ => rfl

end Renewed

/-! ### Records and nodes -/

section Seen

variable {touched : Nat → Prop}

theorem forall_count_le {α : Type} {xs : List α} {f g : α → List Nat} {l : Nat}
    (hle : (xs.flatMap f).count l ≤ (xs.flatMap g).count l) (h : ∀ x ∈ xs, (g x).count l ≤ (f x).count l) :
    ∀ x ∈ xs, (f x).count l ≤ (g x).count l := by
  induction xs with
  | nil => exact nofun
  | cons y rest ih =>
    rw [List.flatMap_cons, List.flatMap_cons, List.count_append, List.count_append] at hle
    obtain ⟨hy, hrest⟩ := List.forall_mem_cons.mp h
    have hall : (rest.flatMap g).count l ≤ (rest.flatMap f).count l := by
      clear ih hle h
      induction rest with
      | nil => exact Nat.le_refl _
      | cons z rest ih =>
        obtain ⟨hz, hrest⟩ := List.forall_mem_cons.mp hrest
        have hle := ih hrest
        rw [List.flatMap_cons, List.flatMap_cons, List.count_append, List.count_append]
        omega
    exact List.forall_mem_cons.mpr ⟨by omega, ih (by omega) hrest⟩

/-- Whether the labels that are touched occur only as those of the nodes. -/
def Seen (touched : Nat → Prop) (labels : List Nat) (nodes : List Tree) : Prop :=
  ∀ l, touched l → labels.count l ≤ (nodes.map label).count l

theorem Seen.of_flatMap {α : Type} {xs : List α} {f : α → List Nat} {g : α → List Tree}
    (h : Seen touched (xs.flatMap f) (xs.flatMap g)) (hsub : ∀ x ∈ xs, ((g x).map label).Sublist (f x)) :
    ∀ x ∈ xs, Seen touched (f x) (g x) := by
  intro x hx l hl
  have hle := h l hl
  rw [List.map_flatMap] at hle
  exact forall_count_le hle (fun x hx => (hsub x hx).count_le l) x hx

theorem subtreeFields_eq_flatMap (fields : List (String × Tree)) :
    subtreeFields fields = fields.flatMap fun f => if holdsChildren f.1 then subtreeValue f.2 else [] := by
  induction fields with
  | nil => rfl
  | cons f rest ih => rw [subtreeFields, ih, List.flatMap_cons]

theorem subtreeItems_eq_flatMap (items : List Tree) : subtreeItems items = items.flatMap subtreeItem := by
  induction items with
  | nil => rfl
  | cons t rest ih => rw [subtreeItems, ih, List.flatMap_cons]

theorem labels_subtreeItem (t : Tree) : ((subtreeItem t).map label).Sublist t.labels := by
  cases t with
  | obj l fields => exact labels_subtreeValue (obj l fields)
  | _ => exact List.nil_sublist _

variable (hid : ∀ l fields, ¬touched l → change (obj l fields) = obj l fields)

include hid

/-- Where no label is touched nothing is changed. -/
theorem mapObjs_eq_self_of_untouched (h : ∀ l ∈ t.labels, ¬touched l) : t.mapObjs change = t := by
  induction t using Tree.induction with
  | leaf t ht => exact mapObjs_of_isLeaf ht change
  | list items ih =>
    rw [labels_list] at h
    rw [mapObjs, mapObjsItems_eq, List.map_congr_left fun u hu =>
      ih u hu fun l hl => h l (List.mem_flatMap.mpr ⟨u, hu, hl⟩), List.map_id']
  | obj l fields ih =>
    rw [labels, labelsFields_eq] at h
    have hfields : fields.map (fun f => (f.1, f.2.mapObjs change)) = fields := by
      refine (List.map_congr_left fun f hf => ?_).trans (List.map_id' fields)
      rw [ih f hf fun l hl => h l (List.mem_cons_of_mem _ (List.mem_flatMap.mpr ⟨f, hf, hl⟩))]
    rw [mapObjs, mapObjsFields_eq, hfields, hid l fields (h l List.mem_cons_self)]

theorem mapObjs_of_seen_nil (h : Seen touched t.labels []) : t.mapObjs change = t := by
  refine mapObjs_eq_self_of_untouched hid fun l hl ht => ?_
  have hle := h l ht
  have hpos := List.count_pos_iff.mpr hl
  rw [List.map_nil, List.count_nil] at hle
  omega

/-- The fields of a record are changed node by node if their values are. -/
theorem mapObjsFields_eq_mapNodesFields
    (ih : ∀ f ∈ fields, Seen touched f.2.labels (subtreeValue f.2) → f.2.mapObjs change = mapNodesValue change f.2)
    (h : Seen touched (labelsFields fields) (subtreeFields fields)) :
    mapObjsFields change fields = mapNodesFields change fields := by
  rw [labelsFields_eq, subtreeFields_eq_flatMap] at h
  rw [mapNodesFields_eq, mapObjsFields_eq]
  refine List.map_congr_left fun f hf => congrArg (Prod.mk f.1) ?_
  have hseen := h.of_flatMap (fun f _ => ?_) f hf
  · split at hseen
    · rename_i hkey
      rw [if_pos hkey, ih f hf hseen]
    · rename_i hkey
      rw [if_neg hkey, mapObjs_of_seen_nil hid hseen]
  · split
    · exact labels_subtreeValue f.2
    · exact List.nil_sublist _

/-- A value is changed node by node, and so is an item. -/
theorem mapObjs_eq_mapNodesValue (t : Tree) :
    (Seen touched t.labels (subtreeValue t) → t.mapObjs change = mapNodesValue change t) ∧
      (Seen touched t.labels (subtreeItem t) → t.mapObjs change = mapNodesItem change t) := by
  induction t using Tree.induction with
  | leaf t ht =>
    rw [mapObjs_of_isLeaf ht]
    cases t <;> first | exact ⟨fun _ => rfl, fun _ => rfl⟩ | simp [isLeaf] at ht
  | list items ih =>
    refine ⟨fun h => ?_, fun h => mapObjs_of_seen_nil hid h⟩
    rw [labels_list, subtreeValue, subtreeItems_eq_flatMap] at h
    rw [mapObjs, mapObjsItems_eq, mapNodesValue, mapNodesItems_eq]
    refine congrArg list (List.map_congr_left fun u hu => (ih u hu).2 ?_)
    exact h.of_flatMap (fun u _ => labels_subtreeItem u) u hu
  | obj l fields ih =>
    have hboth (h : Seen touched (obj l fields).labels (subtreeItem (obj l fields))) :
        (obj l fields).mapObjs change = mapNodesItem change (obj l fields) := by
      rw [subtreeItem] at h
      rw [mapNodesItem]
      split at h
      · rename_i hnode
        rw [if_pos hnode, mapObjs, mapObjsFields_eq_mapNodesFields hid fun f hf => (ih f hf).1]
        intro k hk
        have hle := h k hk
        rw [labels, List.map_cons, label_obj, List.count_cons, List.count_cons] at hle
        omega
      · rename_i hnode
        rw [if_neg hnode, mapObjs_of_seen_nil hid h]
    exact ⟨hboth, hboth⟩

/-- **If the labels that are touched are those of nodes**, to change all records is to change all nodes. -/
theorem mapObjs_eq_mapNodes (ht : t.isObj = true) (h : Seen touched t.labels t.subtree) :
    t.mapObjs change = t.mapNodes change := by
  cases t with
  | obj l fields =>
    rw [mapObjs, mapNodes, mapObjsFields_eq_mapNodesFields hid fun f _ => (mapObjs_eq_mapNodesValue hid f.2).1]
    intro k hk
    have hle := h k hk
    rw [labels, subtree, fields_obj, List.map_cons, label_obj, List.count_cons, List.count_cons] at hle
    omega
  | _ => cases ht

end Seen

end MapNodes

end Deminify.Tree
