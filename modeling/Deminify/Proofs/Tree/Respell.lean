import Mathlib.Data.List.Nodup
import Deminify.Proofs.Tree.Label

/-!
# Spelling names anew

A name is a node with a text under `name`. Spelling the names of a tree anew
(`Deminify.Tree.respell`) changes these texts, each depending on the label of its node, and nothing
else: kinds, labels, children and all other fields stay. This module says so for each way of looking
at a node; every function that looks at a tree only in these ways then treats a respelled tree as it
does the tree itself.

Renaming the names with given labels is the case at hand (`Deminify.Tree.mapObjs_rename`), provided
that what has one of the labels is a name.
-/

namespace Deminify

/-! ### Fields -/

section Fields

variable {α β : Type}

theorem lookup_map_snd (f : α → β) (fields : List (String × α)) (key : String) :
    (fields.map fun x => (x.1, f x.2)).lookup key = (fields.lookup key).map f := by
  induction fields with
  | nil => rfl
  | cons x rest ih =>
    rw [List.map_cons, lookup_cons_ite, lookup_cons_ite, ih]
    split <;> rfl

theorem putKey_of_lookup {fields : List (String × α)} {key : String} {value : α}
    (h : fields.lookup key = some value) : putKey fields key value = fields := by
  induction fields with
  | nil => simp at h
  | cons x rest ih =>
    rw [lookup_cons_ite] at h
    rw [putKey]
    by_cases hk : key = x.1
    · rw [if_pos hk] at h
      rw [if_pos hk.symm, ← Option.some.inj h]
    · rw [if_neg hk] at h
      rw [if_neg (Ne.symm hk), ih h]

/-- Replacing a value by one that counts for as much. -/
theorem flatMap_putKey {fields : List (String × α)} {key : String} {value value' : α}
    {f : String × α → List β} (h : fields.lookup key = some value) (hf : f (key, value') = f (key, value)) :
    (putKey fields key value').flatMap f = fields.flatMap f := by
  induction fields with
  | nil => simp at h
  | cons x rest ih =>
    rw [lookup_cons_ite] at h
    rw [putKey]
    by_cases hk : key = x.1
    · rw [if_pos hk] at h
      subst hk
      rw [if_pos rfl, List.flatMap_cons, List.flatMap_cons, hf, ← Option.some.inj h]
    · rw [if_neg hk] at h
      rw [if_neg (Ne.symm hk), List.flatMap_cons, List.flatMap_cons, ih h]

end Fields

namespace Tree

/-! ### The respelled tree -/

/-- A text spelled anew; other values stay. -/
def spell (σ : String → String) : Tree → Tree
  | .str x => .str (σ x)
  | t => t

/-- The fields with the text under `name` spelled anew. -/
def spellFields (σ : String → String) (fields : List (String × Tree)) : List (String × Tree) :=
  match fields.lookup "name" with
  | some (.str x) => putKey fields "name" (.str (σ x))
  | _ => fields

/-- The record with its name spelled anew, if it has one. -/
def spellRecord (σ : Nat → String → String) : Tree → Tree
  | .obj label fields => .obj label (spellFields (σ label) fields)
  | t => t

/-- **The tree with its names spelled anew.** -/
def respell (σ : Nat → String → String) (t : Tree) : Tree := t.mapObjs (spellRecord σ)

theorem lookup_spellFields (σ : String → String) (fields : List (String × Tree)) (key : String) :
    (spellFields σ fields).lookup key =
      if key = "name" then (fields.lookup "name").map (spell σ) else fields.lookup key := by
  unfold spellFields
  split
  · rename_i x hx
    rw [lookup_putKey, hx]
    rfl
  · rename_i hx
    split
    · rename_i hk
      subst hk
      cases hv : fields.lookup "name" with
      | none => rfl
      | some v => cases v <;> first | rfl | exact absurd hv (hx _)
    · rfl

section Respell

variable (σ : Nat → String → String) (t : Tree) {key : String}

theorem respell_of_isLeaf {t : Tree} (h : t.isLeaf = true) : t.respell σ = t := mapObjs_of_isLeaf h _

@[simp] theorem respell_null : null.respell σ = null := rfl

@[simp] theorem respell_str (s : String) : (str s).respell σ = str s := rfl

@[simp] theorem respell_list (items : List Tree) :
    (list items).respell σ = list (items.map (respell σ)) := by
  rw [respell, mapObjs, mapObjsItems_eq]
  rfl

/-- A node is spelled by its label, and then what it holds. -/
theorem respell_obj (label : Nat) (fields : List (String × Tree)) :
    (obj label fields).respell σ =
      obj label (spellFields (σ label) (fields.map fun x => (x.1, x.2.respell σ))) := by
  rw [respell, mapObjs, mapObjsFields_eq]
  rfl

/-! ### Looking at a respelled tree -/

@[simp] theorem label_respell : (t.respell σ).label = t.label := by
  cases t <;> rfl

@[simp] theorem isObj_respell : (t.respell σ).isObj = t.isObj := by
  cases t <;> rfl

@[simp] theorem isNull_respell : (t.respell σ).isNull = t.isNull := by
  cases t <;> rfl

@[simp] theorem str?_respell : (t.respell σ).str? = t.str? := by
  cases t <;> rfl

@[simp] theorem items_respell : (t.respell σ).items = t.items.map (respell σ) := by
  cases t with
  | list items => rw [respell_list, items_list, items_list]
  | obj label fields => rw [respell_obj]; rfl
  | _ => rfl

theorem get?_respell_name : (t.respell σ).get? "name" =
    (t.get? "name").map fun v => (v.respell σ).spell (σ t.label) := by
  cases t with
  | obj label fields =>
    rw [respell_obj, get?_obj, get?_obj, lookup_spellFields, if_pos rfl, lookup_map_snd, Option.map_map]
    rfl
  | _ => rfl

/-- Other fields than the name hold what is spelled anew. -/
theorem get?_respell (h : key ≠ "name") : (t.respell σ).get? key = (t.get? key).map (respell σ) := by
  cases t with
  | obj label fields =>
    rw [respell_obj, get?_obj, get?_obj, lookup_spellFields, if_neg h, lookup_map_snd]
  | _ => rfl

theorem get_respell (h : key ≠ "name") : (t.respell σ).get key = (t.get key).respell σ := by
  rw [get, get, get?_respell σ t h]
  cases t.get? key <;> rfl

@[simp] theorem isNode_respell : (t.respell σ).isNode = t.isNode := by
  rw [isNode, isNode, isObj_respell, get?_respell σ t (by decide), Option.isSome_map]

@[simp] theorem kind_respell : (t.respell σ).kind = t.kind := by
  rw [kind, kind, get?_respell σ t (by decide)]
  cases t.get? "type" with
  | none => rfl
  | some v => simp

@[simp] theorem isKind_respell (kind : String) : (t.respell σ).isKind kind = t.isKind kind := by
  rw [isKind, isKind, isObj_respell, get?_respell σ t (by decide)]
  cases t.get? "type" with
  | none => rfl
  | some v => simp

@[simp] theorem truthy_respell : (t.respell σ).truthy = t.truthy := by
  cases t with
  | list items => simp [truthy]
  | obj label fields =>
    rw [respell_obj, truthy, truthy]
    cases fields with
    | nil => rfl
    | cons x rest =>
      unfold spellFields
      split
      · rw [List.map_cons, putKey]
        split <;> rfl
      · rfl
  | _ => rfl

/-! ### The children of a respelled tree -/

theorem itemSlots_respell (key : String) (start : Nat) (items : List Tree) :
    itemSlots key start (items.map (respell σ)) =
      (itemSlots key start items).map fun x => (x.1, x.2.respell σ) := by
  induction items generalizing start with
  | nil => rfl
  | cons t rest ih =>
    rw [List.map_cons, itemSlots, itemSlots, isNode_respell, ih]
    split <;> rfl

theorem fieldSlots_respell (key : String) : fieldSlots key (t.respell σ) =
    (fieldSlots key t).map fun x => (x.1, x.2.respell σ) := by
  rw [fieldSlots.eq_def, fieldSlots.eq_def]
  split
  · cases t with
    | list items => rw [respell_list]; exact itemSlots_respell σ key 0 items
    | obj label fields =>
      have hnode := isNode_respell σ (obj label fields)
      have hobj := respell_obj σ label fields
      generalize (obj label fields).respell σ = u at *
      subst hobj
      dsimp only
      rw [hnode]
      split
      · rw [List.map_singleton, respell_obj]
      · rfl
    | _ => rfl
  · rfl

/-- **The children of a respelled tree** are those of the tree, respelled. -/
theorem slots_respell : (t.respell σ).slots = t.slots.map fun x => (x.1, x.2.respell σ) := by
  cases t with
  | obj label fields =>
    rw [respell_obj, slots, slots, fields_obj, fields_obj, List.map_flatMap]
    have hmap : (fields.map fun x => (x.1, x.2.respell σ)).flatMap (fun x => fieldSlots x.1 x.2) =
        fields.flatMap fun x => (fieldSlots x.1 x.2).map fun y => (y.1, y.2.respell σ) := by
      rw [List.flatMap_map]
      exact congrArg (List.flatMap · fields) (funext fun x => fieldSlots_respell σ x.2 x.1)
    refine Eq.trans ?_ hmap
    unfold spellFields
    split
    · rename_i x hx
      exact flatMap_putKey hx rfl
    · rfl
  | _ => rfl

theorem heightFields_putKey {fields : List (String × Tree)} {value value' : Tree}
    (h : fields.lookup key = some value) (hh : value'.height = value.height) :
    heightFields (putKey fields key value') = heightFields fields := by
  induction fields with
  | nil => simp at h
  | cons x rest ih =>
    rw [lookup_cons_ite] at h
    rw [putKey]
    by_cases hk : key = x.1
    · rw [if_pos hk] at h
      rw [if_pos hk.symm, heightFields, heightFields, hh, ← Option.some.inj h]
    · rw [if_neg hk] at h
      rw [if_neg (Ne.symm hk), heightFields, heightFields, ih h]

@[simp] theorem height_respell : (t.respell σ).height = t.height := by
  induction t using Tree.induction with
  | leaf t ht => rw [respell_of_isLeaf σ ht]
  | list items ih =>
    rw [respell_list, height, height]
    congr 1
    induction items with
    | nil => rfl
    | cons t rest ihr =>
      rw [List.map_cons, heightItems, heightItems, ih t List.mem_cons_self,
        ihr fun u hu => ih u (List.mem_cons_of_mem _ hu)]
  | obj label fields ih =>
    have hmap : heightFields (fields.map fun x => (x.1, x.2.respell σ)) = heightFields fields := by
      induction fields with
      | nil => rfl
      | cons x rest ihr =>
        rw [List.map_cons, heightFields, heightFields, ih x List.mem_cons_self,
          ihr fun u hu => ih u (List.mem_cons_of_mem _ hu)]
    rw [respell_obj, height, height]
    congr 1
    rw [← hmap]
    unfold spellFields
    split
    · rename_i x hx
      exact heightFields_putKey hx rfl
    · rfl

/-! ### Fields that must be there -/

theorem field_respell (h : key ≠ "name") :
    (t.respell σ).field (m := Except Failure) key = respell σ <$> t.field (m := Except Failure) key := by
  cases t with
  | obj label fields =>
    have hget := get?_respell σ (obj label fields) h
    rw [respell_obj] at hget ⊢
    rw [get?_obj, get?_obj] at hget
    rw [field, field, hget]
    cases fields.lookup key <;> rfl
  | list items => rw [respell_list]; rfl
  | _ => rfl

/-- The name of a respelled node. -/
theorem field_respell_name : (t.respell σ).field (m := Except Failure) "name" =
    (fun v => (v.respell σ).spell (σ t.label)) <$> t.field (m := Except Failure) "name" := by
  cases t with
  | obj label fields =>
    have hget := get?_respell_name σ (obj label fields)
    rw [respell_obj] at hget ⊢
    rw [get?_obj, get?_obj] at hget
    rw [field, field, hget]
    cases fields.lookup "name" <;> rfl
  | list items => rw [respell_list]; rfl
  | _ => rfl

theorem listField_respell (h : key ≠ "name") : (t.respell σ).listField (m := Except Failure) key =
    List.map (respell σ) <$> t.listField (m := Except Failure) key := by
  rw [listField, listField, field_respell σ t h]
  cases t.field (m := Except Failure) key with
  | error e => rfl
  | ok v =>
    cases v with
    | list items => simp [Functor.map, Except.map, bind, Except.bind, pure, Except.pure]
    | obj label fields => simp [Functor.map, Except.map, bind, Except.bind, respell_obj]; rfl
    | _ => rfl

theorem textField_respell (h : key ≠ "name") :
    (t.respell σ).textField (m := Except Failure) key = t.textField (m := Except Failure) key := by
  rw [textField, textField, field_respell σ t h]
  cases t.field (m := Except Failure) key with
  | error e => rfl
  | ok v =>
    cases v with
    | list items => simp [Functor.map, Except.map, bind, Except.bind]; rfl
    | obj label fields => simp [Functor.map, Except.map, bind, Except.bind, respell_obj]; rfl
    | _ => rfl

theorem textField_respell_name : (t.respell σ).textField (m := Except Failure) "name" =
    σ t.label <$> t.textField (m := Except Failure) "name" := by
  rw [textField, textField, field_respell_name]
  cases t.field (m := Except Failure) "name" with
  | error e => rfl
  | ok v =>
    cases v with
    | list items => simp [Functor.map, Except.map, bind, Except.bind, spell]; rfl
    | obj label fields => simp [Functor.map, Except.map, bind, Except.bind, respell_obj, spell]; rfl
    | _ => rfl

@[simp] theorem kindOf_respell :
    (t.respell σ).kindOf (m := Except Failure) = t.kindOf (m := Except Failure) :=
  textField_respell σ t (by decide)

end Respell

/-! ### Records -/

mutual

/-- All records of a tree. -/
def records (t : Tree) : List Tree :=
  match t with
  | .list items => recordsItems items
  | .obj label fields => .obj label fields :: recordsFields fields
  | _ => []
termination_by structural t

/-- All records of the items. -/
def recordsItems (items : List Tree) : List Tree :=
  match items with
  | [] => []
  | t :: rest => t.records ++ recordsItems rest
termination_by structural items

/-- All records of the fields. -/
def recordsFields (fields : List (String × Tree)) : List Tree :=
  match fields with
  | [] => []
  | (_, t) :: rest => t.records ++ recordsFields rest
termination_by structural fields

end

theorem recordsItems_eq (items : List Tree) : recordsItems items = items.flatMap records := by
  induction items with
  | nil => rfl
  | cons t rest ih => rw [recordsItems, ih, List.flatMap_cons]

theorem recordsFields_eq (fields : List (String × Tree)) :
    recordsFields fields = fields.flatMap (·.2.records) := by
  induction fields with
  | nil => rfl
  | cons f rest ih => rw [recordsFields, ih, List.flatMap_cons]

theorem labels_eq_map_records (t : Tree) : t.labels = t.records.map label := by
  induction t using Tree.induction with
  | leaf t ht => cases t <;> first | rfl | simp [isLeaf] at ht
  | list items ih =>
    rw [labels_list, records, recordsItems_eq, List.map_flatMap]
    induction items with
    | nil => rfl
    | cons t rest ihr =>
      rw [List.flatMap_cons, List.flatMap_cons, ih t List.mem_cons_self,
        ihr fun u hu => ih u (List.mem_cons_of_mem _ hu)]
  | obj label fields ih =>
    rw [labels, records, recordsFields_eq, List.map_cons, List.map_flatMap, label_obj]
    congr 1
    induction fields with
    | nil => rfl
    | cons f rest ihr =>
      rw [labelsFields_cons, List.flatMap_cons, ih f List.mem_cons_self,
        ihr fun g hg => ih g (List.mem_cons_of_mem _ hg)]

theorem mem_records_self {t : Tree} (h : t.isObj = true) : t ∈ t.records := by
  cases t with
  | obj label fields => exact List.mem_cons_self
  | _ => simp [isObj] at h

/-- The records below a field are records of the whole. -/
theorem records_subset_of_mem_fields {t : Tree} {f : String × Tree} (h : f ∈ t.fields) :
    f.2.records ⊆ t.records := by
  cases t with
  | obj label fields =>
    intro r hr
    rw [records, recordsFields_eq]
    exact List.mem_cons_of_mem _ (List.mem_flatMap.mpr ⟨f, h, hr⟩)
  | _ => simp [fields] at h

theorem sublist_records_get (t : Tree) (key : String) : (t.get key).records.Sublist t.records := by
  cases h : t.get? key with
  | none =>
    rw [get, h]
    exact List.nil_sublist _
  | some value =>
    rw [get_of_get? h]
    cases t with
    | obj label fields =>
      have hm : value.records ∈ fields.map (·.2.records) := List.mem_map_of_mem (mem_of_lookup h)
      rw [records, recordsFields_eq]
      exact (List.sublist_flatten_of_mem hm).cons _
    | _ => simp [get?, fields] at h

theorem sublist_records_items (t : Tree) : (t.items.flatMap records).Sublist t.records := by
  cases t with
  | list items => rw [records, recordsItems_eq, items_list]
  | _ => exact List.nil_sublist _

theorem sublist_records_item {t item : Tree} (h : item ∈ t.items) : item.records.Sublist t.records :=
  (List.sublist_flatten_of_mem (List.mem_map_of_mem h)).trans (sublist_records_items t)

theorem records_subset_of_mem_children {t c : Tree} (h : c ∈ t.children) : c.records ⊆ t.records := by
  obtain ⟨-, key, value, hf, -, rfl | hi⟩ := mem_children.mp h
  · exact records_subset_of_mem_fields hf
  · refine fun r hr => records_subset_of_mem_fields hf ?_
    cases value with
    | list items =>
      rw [records, recordsItems_eq]
      exact List.mem_flatMap.mpr ⟨c, hi, hr⟩
    | _ => simp [items] at hi

/-- The nodes of a tree are records of it. -/
theorem subtree_subset_records {t : Tree} (h : t.isObj = true) : t.subtree ⊆ t.records := by
  induction hn : t.height using Nat.strongRecOn generalizing t with
  | _ n ih =>
    subst hn
    intro r hr
    rcases mem_subtree.mp hr with rfl | ⟨c, hc, hr⟩
    · exact mem_records_self h
    · have hnode := isObj_of_isNode (mem_children.mp hc).1
      exact records_subset_of_mem_children hc (ih _ (height_lt_of_mem_children hc) hnode rfl hr)

/-- Where labels tell records apart, a record with the label of a node is the node. -/
theorem eq_of_label_eq {t n r : Tree} (h : t.labels.Nodup) (ht : t.isObj = true) (hn : n ∈ t.subtree)
    (hr : r ∈ t.records) (hl : r.label = n.label) : r = n := by
  rw [labels_eq_map_records] at h
  exact List.inj_on_of_nodup_map h hr (subtree_subset_records ht hn) hl

/-! ### Renaming -/

/-- The spelling that gives one name to the given labels. -/
def renamed (labels : List Nat) (name : String) (label : Nat) (x : String) : String :=
  if labels.contains label then name else x

/-- **Renaming the names with given labels** spells them anew. -/
theorem mapObjs_rename {t : Tree} {labels : List Nat} (name : String)
    (h : ∀ r ∈ t.records, r.label ∈ labels → ∃ x, r.get? "name" = some (.str x)) :
    t.mapObjs (fun r => if labels.contains r.label then r.set "name" (.str name) else r) =
      t.respell (renamed labels name) := by
  induction t using Tree.induction with
  | leaf t ht => rw [mapObjs_of_isLeaf ht, respell_of_isLeaf _ ht]
  | list items ih =>
    rw [mapObjs, mapObjsItems_eq, respell_list]
    congr 1
    refine List.map_congr_left fun t ht => ih t ht fun r hr => h r ?_
    rw [records, recordsItems_eq]
    exact List.mem_flatMap.mpr ⟨t, ht, hr⟩
  | obj label fields ih =>
    have hfields : (fields.map fun f => (f.1, f.2.mapObjs fun r =>
        if labels.contains r.label then r.set "name" (.str name) else r)) =
          fields.map fun f => (f.1, f.2.respell (renamed labels name)) := by
      refine List.map_congr_left fun f hf => ?_
      rw [ih f hf fun r hr => h r (@records_subset_of_mem_fields (obj label fields) f hf r hr)]
    rw [mapObjs, mapObjsFields_eq, hfields, respell_obj, label_obj]
    have hname := lookup_map_snd (respell (renamed labels name)) fields "name"
    unfold spellFields
    by_cases hl : labels.contains label = true
    · obtain ⟨x, hx⟩ := h _ List.mem_cons_self (by simpa using hl)
      rw [get?_obj] at hx
      rw [hx] at hname
      rw [if_pos hl, hname]
      simp only [Option.map_some, respell_str, renamed, hl, if_true]
      rfl
    · rw [if_neg hl]
      split
      · rename_i x hx
        simp only [renamed, if_neg hl]
        rw [putKey_of_lookup hx]
      · rfl

end Tree

end Deminify
