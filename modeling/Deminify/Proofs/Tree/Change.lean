import Deminify.Proofs.Tree.Record
import Deminify.Proofs.Scope.Weight

/-!
# A tree in which one record has changed

An edit of a program sets one field of one record (`Deminify.Tree.setAt`). As long as the label of the record stands
once in the tree, that is all there is to it: the record becomes one with another field
(`Deminify.Tree.setAt_self`), what is below the record stays what it was, and every other node keeps its kind, its
label and its children, these edited in turn (`Deminify.Tree.slots_setAt`). What the table of kinds says of
a node can be seen from its children's kinds, so that **no other node gains or loses a field**
(`Deminify.Tree.hasFields_setAt`).
-/

namespace Deminify

namespace Tree

variable {t r c : Tree} {label : Nat} {key k : String} {value : Tree}

/-! ### Children by key -/

/-- Where keys differ, a child stands in the field that its key finds. -/
theorem mem_nodesAt_iff (hd : DistinctKeys t.fields) :
    c ∈ t.nodesAt k ↔ ∃ slot : Slot, slot.key = k ∧ (slot, c) ∈ t.slots := by
  constructor
  · intro h
    obtain ⟨⟨slot, c⟩, hx, rfl⟩ := List.mem_map.mp h
    obtain rfl := key_of_mem_fieldSlots hx
    refine ⟨slot, rfl, mem_slots_iff.mpr ⟨t.get slot.key, ?_, hx⟩⟩
    cases hv : t.get? slot.key with
    | none =>
      rw [get, hv, Option.getD_none, fieldSlots_of_isLeaf rfl] at hx
      cases hx
    | some value =>
      rw [get_of_get? hv]
      exact mem_of_lookup hv
  · rintro ⟨slot, rfl, h⟩
    obtain ⟨value, hm, hs⟩ := mem_slots_iff.mp h
    have hholds : holdsChildren slot.key = true := by
      by_contra hnot
      rw [fieldSlots.eq_def, if_neg hnot] at hs
      cases hs
    have hget : t.get slot.key = value := get_of_get? (hd.lookup (isShapeKey_of_holdsChildren hholds) hm)
    exact List.mem_map.mpr ⟨(slot, c), hget ▸ hs, rfl⟩

theorem mem_nodesAt (h : c ∈ t.nodesAt k) :
    c.isNode = true ∧ holdsChildren k = true ∧ (c = t.get k ∨ c ∈ (t.get k).items) := mem_fieldSlots.mp h

theorem distinctKeys_set (h : DistinctKeys t.fields) : DistinctKeys (t.set key value).fields := by
  cases t with
  | obj l fields => exact h.putKey
  | _ => exact h

theorem nodesAt_set_of_ne (ht : t.isObj = true) (hk : k ≠ key) : (t.set key value).nodesAt k = t.nodesAt k := by
  rw [nodesAt, nodesAt, get, get, get?_set ht, if_neg hk]

theorem get_set_of_ne (ht : t.isObj = true) (hk : k ≠ key) : (t.set key value).get k = t.get k := by
  rw [get, get?_set ht, if_neg hk, get]

theorem get_set_self (ht : t.isObj = true) : (t.set key value).get key = value := by
  rw [get, get?_set ht, if_pos rfl, Option.getD_some]

/-! ### One field of one record -/

/-- The tree in which the records with a label have another field. -/
def setAt (t : Tree) (label : Nat) (key : String) (value : Tree) : Tree := t.edit label (·.set key value)

theorem setAt_of_not_mem (h : label ∉ t.labels) : t.setAt label key value = t := edit_of_not_mem h

/-- A record whose label stands once in it. -/
theorem setAt_self (ht : t.isObj = true) (h : t.labels.count t.label ≤ 1) :
    t.setAt t.label key value = t.set key value := by
  cases t with
  | obj l fields =>
    have hnot : l ∉ labelsFields fields := by
      rw [label_obj, labels, List.count_cons_self] at h
      exact fun hm => absurd (List.count_pos_iff.mpr hm) (by omega)
    rw [setAt, label_obj, edit, if_pos rfl, editFields_of_not_mem hnot]
  | _ => cases ht

@[simp] theorem label_setAt (t : Tree) : (t.setAt label key value).label = t.label :=
  label_edit (fun t => label_set t key value) t

@[simp] theorem isObj_setAt (t : Tree) : (t.setAt label key value).isObj = t.isObj :=
  isObj_edit (fun t => isObj_set t key value) t

theorem str?_setAt (t : Tree) : (t.setAt label key value).str? = t.str? :=
  str?_edit (fun t ht => (isObj_set t key value).trans ht) t

theorem get_setAt (hk : k ≠ key) : (t.setAt label key value).get k = (t.get k).setAt label key value :=
  get_edit_set value hk

theorem get_setAt_of_ne (h : t.label ≠ label) (k : String) :
    (t.setAt label key value).get k = (t.get k).setAt label key value := get_edit_of_ne h k

theorem get?_setAt (hk : k ≠ key) :
    (t.setAt label key value).get? k = (t.get? k).map (·.setAt label key value) := by
  cases t with
  | obj l fields =>
    rw [setAt, edit]
    split
    · rw [get?_set rfl, if_neg hk, get?_obj, lookup_editFields]
      rfl
    · rw [get?_obj, lookup_editFields]
      rfl
  | _ => rfl

theorem get?_setAt_of_ne (h : t.label ≠ label) (k : String) :
    (t.setAt label key value).get? k = (t.get? k).map (·.setAt label key value) := by
  cases t with
  | obj l fields =>
    rw [label_obj] at h
    rw [setAt, edit, if_neg h, get?_obj, lookup_editFields]
    rfl
  | _ => rfl

theorem isNull_setAt (t : Tree) : (t.setAt label key value).isNull = t.isNull := by
  cases t with
  | obj l fields =>
    rw [setAt, edit]
    split <;> rfl
  | _ => rfl

theorem isLeaf_setAt (t : Tree) : (t.setAt label key value).isLeaf = t.isLeaf := by
  cases t with
  | obj l fields =>
    rw [setAt, edit]
    split <;> rfl
  | _ => rfl

theorem isList_setAt (t : Tree) : (t.setAt label key value).isList = t.isList := by
  cases t with
  | obj l fields =>
    rw [setAt, edit]
    split <;> rfl
  | _ => rfl

theorem items_setAt (t : Tree) : (t.setAt label key value).items = t.items.map (·.setAt label key value) := by
  cases t with
  | list items =>
    rw [setAt, edit, editItems_eq, items_list, items_list]
    rfl
  | obj l fields =>
    rw [setAt, edit]
    split <;> rfl
  | _ => rfl

theorem isTrue_setAt (t : Tree) : (t.setAt label key value).isTrue = t.isTrue := by
  cases t with
  | obj l fields =>
    rw [setAt, edit]
    split <;> rfl
  | _ => rfl

section Kinds

variable (hkey : key ≠ "type")

include hkey

theorem isNode_setAt (t : Tree) : (t.setAt label key value).isNode = t.isNode := by
  rw [isNode, isNode, isObj_setAt, get?_setAt (Ne.symm hkey), Option.isSome_map]

theorem type_setAt (t : Tree) :
    ((t.setAt label key value).get? "type").bind str? = (t.get? "type").bind str? := by
  rw [get?_setAt (Ne.symm hkey)]
  cases t.get? "type" with
  | none => rfl
  | some v => exact str?_setAt v

theorem kind_setAt (t : Tree) : (t.setAt label key value).kind = t.kind := by
  rw [kind, kind, type_setAt hkey]

theorem isKind_setAt (t : Tree) (kind : String) : (t.setAt label key value).isKind kind = t.isKind kind := by
  rw [isKind, isKind, isObj_setAt, type_setAt hkey]

theorem isOf_setAt (kinds : String → Bool) (t : Tree) : (t.setAt label key value).isOf kinds = t.isOf kinds := by
  rw [isOf, isOf, isObj_setAt, type_setAt hkey]

/-! ### Children -/

theorem itemSlots_setAt (k : String) (start : Nat) (items : List Tree) :
    itemSlots k start (items.map (·.setAt label key value)) =
      (itemSlots k start items).map fun x => (x.1, x.2.setAt label key value) := by
  induction items generalizing start with
  | nil => rfl
  | cons t rest ih =>
    rw [List.map_cons, itemSlots, itemSlots, isNode_setAt hkey, ih]
    split <;> rfl

theorem fieldSlots_setAt (k : String) (t : Tree) : fieldSlots k (t.setAt label key value) =
    (fieldSlots k t).map fun x => (x.1, x.2.setAt label key value) := by
  rw [fieldSlots.eq_def, fieldSlots.eq_def]
  split
  · cases t with
    | list items =>
      rw [setAt, edit, editItems_eq]
      exact itemSlots_setAt hkey k 0 items
    | obj l fields =>
      have hnode : ((obj l fields).setAt label key value).isNode = (obj l fields).isNode := isNode_setAt hkey _
      have hobj : ((obj l fields).setAt label key value).isObj = (obj l fields).isObj := isObj_setAt _
      generalize hu : (obj l fields).setAt label key value = u at *
      cases u with
      | obj l' fields' =>
        dsimp only
        rw [hnode]
        split
        · rw [List.map_singleton, hu]
        · rfl
      | _ => cases hobj
    | _ => rfl
  · rfl

/-- **The children of any other record** are those that it had, edited. -/
theorem slots_setAt (h : t.label ≠ label) : (t.setAt label key value).slots =
    t.slots.map fun x => (x.1, x.2.setAt label key value) := by
  cases t with
  | obj l fields =>
    rw [label_obj] at h
    rw [setAt, edit, if_neg h, slots, slots, fields_obj, fields_obj, editFields_eq, List.flatMap_map, List.map_flatMap]
    exact congrArg (List.flatMap · fields) (funext fun f => fieldSlots_setAt hkey f.1 f.2)
  | _ => rfl

/-! ### Fields -/

theorem takes_setAt (sort : FieldSort) (t : Tree) : sort.takes (t.setAt label key value) = sort.takes t := by
  cases sort with
  | text => rw [FieldSort.takes, FieldSort.takes, str?_setAt]
  | flag =>
    cases t with
    | obj l fields =>
      rw [setAt, edit]
      split <;> rfl
    | _ => rfl
  | leaf => rw [FieldSort.takes, FieldSort.takes, isLeaf_setAt]
  | record => rw [FieldSort.takes, FieldSort.takes, isObj_setAt, isNode_setAt hkey]
  | node kinds => rw [FieldSort.takes, FieldSort.takes, isOf_setAt hkey]
  | optional kinds => rw [FieldSort.takes, FieldSort.takes, isNull_setAt, isOf_setAt hkey]
  | nodes kinds =>
    rw [FieldSort.takes, FieldSort.takes, isList_setAt, items_setAt, List.all_map]
    simp only [Function.comp_def, isOf_setAt hkey]
  | holes kinds =>
    rw [FieldSort.takes, FieldSort.takes, isList_setAt, items_setAt, List.all_map]
    simp only [Function.comp_def, isNull_setAt, isOf_setAt hkey]

theorem isPlainKey_setAt (hvalue : key ≠ "value") (t : Tree) : (t.setAt label key value).isPlainKey = t.isPlainKey := by
  rw [isPlainKey, isPlainKey, isKind_setAt hkey, isKind_setAt hkey, get_setAt (Ne.symm hvalue)]
  cases t.get "value" with
  | obj l fields =>
    rw [setAt, edit]
    by_cases h : l = label
    · rw [if_pos h]
      rfl
    · rw [if_neg h]
  | _ => rfl

/-- **Any other record keeps the fields of its kind.** -/
theorem hasFields_setAt (hvalue : key ≠ "value") (h : t.label ≠ label) :
    (t.setAt label key value).hasFields = t.hasFields := by
  cases t with
  | obj l fields =>
    have hget (k : String) : ((obj l fields).setAt label key value).get? k =
        ((obj l fields).get? k).map (·.setAt label key value) := get?_setAt_of_ne h k
    have hkind : ((obj l fields).setAt label key value).kind = (obj l fields).kind := kind_setAt hkey _
    have hfields : ((obj l fields).setAt label key value).fields =
        fields.map fun f => (f.1, f.2.setAt label key value) := by
      rw [label_obj] at h
      rw [setAt, edit, if_neg h, fields_obj, editFields_eq]
      rfl
    have hplain : keepsKey ((obj l fields).setAt label key value).fields = keepsKey fields := by
      show ((((obj l fields).setAt label key value).get? "computed").any isTrue ||
        (((obj l fields).setAt label key value).get? "key").any isPlainKey) = _
      rw [hget, hget, Option.any_map, Option.any_map]
      simp only [isTrue_setAt, isPlainKey_setAt hkey hvalue]
      rfl
    rw [hasFields, hasFields, hkind]
    cases schema (obj l fields).kind with
    | none => rfl
    | some spec =>
      dsimp only
      have hdistinct : decide (DistinctKeys ((obj l fields).setAt label key value).fields) =
          decide (DistinctKeys fields) := by
        refine decide_eq_decide.mpr ?_
        unfold DistinctKeys
        rw [hfields, List.map_map]
        rfl
      have hall : spec.all (fun entry => (((obj l fields).setAt label key value).get? entry.1).any entry.2.takes) =
          spec.all (fun entry => ((obj l fields).get? entry.1).any entry.2.takes) := by
        refine List.all_congr rfl fun entry => ?_
        rw [hget, Option.any_map]
        simp only [takes_setAt hkey]
      have hknown : ((obj l fields).setAt label key value).fields.all (isKnownField spec) =
          fields.all (isKnownField spec) := by
        rw [hfields, List.all_map]
        refine List.all_congr rfl fun f => ?_
        rw [Function.comp_apply, isKnownField, isKnownField, isLeaf_setAt]
      rw [hdistinct, hknown, hplain, fields_obj]
      exact congrArg (fun b => (_ && b && _ && _)) hall
  | _ => rfl

end Kinds

end Tree

end Deminify
