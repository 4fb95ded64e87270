import Mathlib.Logic.Function.Basic
import Deminify.Proofs.Document.Place
import Deminify.Proofs.Scope.Weight
import Deminify.Proofs.Tree.Mapped
import Deminify.Proofs.Tree.Record

/-!
# Trees in which nodes are exchanged

Some nodes of a tree are exchanged for others, each for one that is made of it and gets a label of its own
(`Deminify.Tree.exchange`). What is made of a node may take over what the node holds, exchanged in turn, and
adds nothing of its own that has an old label (`Deminify.Tree.Makes`). So it does not matter in which order
the nodes are exchanged: **putting one more node in the place of another by its label is one more exchange**
(`Deminify.Tree.edit_exchange`).

A slot of one record is where a node is put (`Deminify.Tree.edit_setSlot`). The record is still there when
others have been exchanged, and it still holds the node, unless an exchange has dropped it
(`Deminify.Tree.exchange_mem_records`, `Deminify.Tree.exists_heldAt?_exchange`).

A rule that replaces a node makes a new one out of parts of the old one and hands it the comments of that
(`Deminify.Tree.successor`). Such nodes are fit for an exchange (`Deminify.Tree.Parts.makes`), and they are what
a new value becomes when its records are labelled (`Deminify.Tree.Parts.number_raw`).
-/

namespace Deminify

namespace Tree

/-- What becomes of a record: if a new label is given to it, what is made of it under that label. -/
def exchangeNode (make : Nat → Tree → Tree) (new : Nat → Option Nat) (n : Tree) : Tree :=
  match new n.label with
  | some m => make m n
  | none => n

/-- **The tree with nodes exchanged**, each after its parts. -/
def exchange (make : Nat → Tree → Tree) (new : Nat → Option Nat) (t : Tree) : Tree :=
  t.mapObjs (exchangeNode make new)

/-- **How nodes are made for an exchange**: out of the fields of the old one and of new parts, which get
labels from `m` on. What the old one held under some keys the new one holds there too. -/
structure Makes (make : Nat → Tree → Tree) (kept : List String) : Prop where
  isNode : ∀ m n, (make m n).isNode = true
  label : ∀ m n, (make m n).label = m
  edit : ∀ {m l : Nat} {change : Tree → Tree} {n n' : Tree}, l < m →
    (∀ key, n'.get key = (n.get key).edit l change) → (∀ key, (n'.get key).truthy = (n.get key).truthy) →
      (make m n).edit l change = make m n'
  keeps : ∀ {m : Nat} {n : Tree} {key : String}, key ∈ kept → (n.get key).truthy = true →
    (make m n).get? key = n.get? key

section Exchange

variable {make : Nat → Tree → Tree} {kept : List String} {new : Nat → Option Nat} {t n p r c v : Tree} {l m : Nat}
  {fields : List (String × Tree)}

@[simp] theorem exchange_of_isLeaf (h : t.isLeaf = true) : t.exchange make new = t := mapObjs_of_isLeaf h _

theorem exchange_list (items : List Tree) :
    (list items).exchange make new = list (items.map (exchange make new)) := by
  rw [exchange, mapObjs, mapObjsItems_eq]
  rfl

/-- The fields of a record with what is in them exchanged. -/
def exchangeFields (make : Nat → Tree → Tree) (new : Nat → Option Nat) (fields : List (String × Tree)) :
    List (String × Tree) := fields.map fun f => (f.1, f.2.exchange make new)

theorem exchange_obj (l : Nat) (fields : List (String × Tree)) :
    (obj l fields).exchange make new = exchangeNode make new (obj l (exchangeFields make new fields)) := by
  rw [exchange, mapObjs, mapObjsFields_eq]
  rfl

theorem exchange_obj_of_none (h : new l = none) :
    (obj l fields).exchange make new = obj l (exchangeFields make new fields) := by
  rw [exchange_obj, exchangeNode, label_obj, h]

theorem exchange_obj_of_some (h : new l = some m) :
    (obj l fields).exchange make new = make m (obj l (exchangeFields make new fields)) := by
  rw [exchange_obj, exchangeNode, label_obj, h]

theorem lookup_exchangeFields (fields : List (String × Tree)) (key : String) :
    (exchangeFields make new fields).lookup key = (fields.lookup key).map (exchange make new) :=
  lookup_map_snd _ _ _

theorem get_exchangeFields (l : Nat) (fields : List (String × Tree)) (key : String) :
    (obj l (exchangeFields make new fields)).get key = ((obj l fields).get key).exchange make new := by
  rw [get, get?_obj, lookup_exchangeFields, get, get?_obj]
  cases fields.lookup key <;> rfl

theorem isObj_exchange (h : Makes make kept) (t : Tree) : (t.exchange make new).isObj = t.isObj := by
  cases t with
  | obj l fields =>
    cases hl : new l with
    | none => rw [exchange_obj_of_none hl]; rfl
    | some m => rw [exchange_obj_of_some hl, isObj_of_isNode (h.isNode _ _)]; rfl
  | _ => rfl

theorem label_exchange (h : Makes make kept) (ht : t.isObj = true) :
    (t.exchange make new).label = (new t.label).getD t.label := by
  cases t with
  | obj l fields =>
    cases hl : new l with
    | none => rw [exchange_obj_of_none hl, label_obj, label_obj, hl]; rfl
    | some m => rw [exchange_obj_of_some hl, h.label, label_obj, hl]; rfl
  | _ => cases ht

/-- An exchange for something makes no difference to whether there is something. -/
theorem truthy_exchange (h : Makes make kept) (ht : ∀ m, new t.label = some m → t.isObj = true → t.truthy = true) :
    (t.exchange make new).truthy = t.truthy := by
  cases t with
  | list items => rw [exchange_list, truthy, truthy, List.isEmpty_map]
  | obj l fields =>
    cases hl : new l with
    | none => rw [exchange_obj_of_none hl, truthy, truthy, exchangeFields, List.isEmpty_map]
    | some m => rw [exchange_obj_of_some hl, truthy_of_isNode (h.isNode _ _), ht m hl rfl]
  | _ => rfl

/-- Where no label is given a new one nothing is exchanged. -/
theorem exchange_eq_self (h : ∀ l ∈ t.labels, new l = none) : t.exchange make new = t := by
  induction t using Tree.induction with
  | leaf t ht => exact exchange_of_isLeaf ht
  | list items ih =>
    rw [labels_list] at h
    rw [exchange_list, List.map_congr_left fun u hu => ih u hu fun l hl => h l (List.mem_flatMap.mpr ⟨u, hu, hl⟩),
      List.map_id']
  | obj l fields ih =>
    rw [labels, labelsFields_eq] at h
    have hfields : exchangeFields make new fields = fields := by
      refine (List.map_congr_left fun f hf => ?_).trans (List.map_id' fields)
      rw [ih f hf fun l hl => h l (List.mem_cons_of_mem _ (List.mem_flatMap.mpr ⟨f, hf, hl⟩))]
    rw [exchange_obj_of_none (h l List.mem_cons_self), hfields]

/-- Only the labels that occur matter. -/
theorem exchange_congr {new' : Nat → Option Nat} (h : ∀ l ∈ t.labels, new l = new' l) :
    t.exchange make new = t.exchange make new' := by
  induction t using Tree.induction with
  | leaf t ht => rw [exchange_of_isLeaf ht, exchange_of_isLeaf ht]
  | list items ih =>
    rw [labels_list] at h
    rw [exchange_list, exchange_list, List.map_congr_left fun u hu =>
      ih u hu fun l hl => h l (List.mem_flatMap.mpr ⟨u, hu, hl⟩)]
  | obj l fields ih =>
    rw [labels, labelsFields_eq] at h
    have hfields : exchangeFields make new fields = exchangeFields make new' fields := by
      refine List.map_congr_left fun f hf => ?_
      rw [ih f hf fun l hl => h l (List.mem_cons_of_mem _ (List.mem_flatMap.mpr ⟨f, hf, hl⟩))]
    have hself := h l List.mem_cons_self
    cases hl : new l with
    | none => rw [exchange_obj_of_none hl, exchange_obj_of_none (hself ▸ hl), hfields]
    | some m => rw [exchange_obj_of_some hl, exchange_obj_of_some (hself ▸ hl), hfields]

/-! ### One more exchange -/

/-- **To put what is made of one more node in its place is one more exchange.** -/
theorem edit_exchange (h : Makes make kept) (hr : ∀ r ∈ t.records, r.label = l → r = n)
    (honce : t.labels.count l ≤ 1) (hnone : new l = none) (hnew : ∀ l' m', new l' = some m' → l < m')
    (hthere : ∀ r ∈ t.records, (Function.update new l (some m) r.label).isSome = true → r.truthy = true) :
    (t.exchange make new).edit l (fun _ => make m (n.exchange make new)) =
      t.exchange make (Function.update new l (some m)) := by
  have hsame (l' : Nat) (hl' : l' ≠ l) : Function.update new l (some m) l' = new l' :=
    Function.update_of_ne hl' _ _
  induction t using Tree.induction with
  | leaf t ht => rw [exchange_of_isLeaf ht, exchange_of_isLeaf ht, edit_of_not_mem (by simp [labels_of_isLeaf ht])]
  | list items ih =>
    have hpart {u : Tree} (hu : u ∈ items) : u.records ⊆ (list items).records := by
      rw [records, recordsItems_eq]
      exact fun r hr => List.mem_flatMap.mpr ⟨u, hu, hr⟩
    rw [labels_list] at honce
    rw [exchange_list, edit, editItems_eq, exchange_list, List.map_map]
    refine congrArg list (List.map_congr_left fun u hu => ih u hu (fun r hr' => hr r (hpart hu hr')) ?_
      fun r hr' => hthere r (hpart hu hr'))
    exact Nat.le_trans (count_le_count_flatMap hu l) honce
  | obj l' fields ih =>
    have hpart {f : String × Tree} (hf : f ∈ fields) : f.2.records ⊆ (obj l' fields).records :=
      records_subset_of_mem_fields hf
    rw [labels, labelsFields_eq, List.count_cons] at honce
    by_cases hl : l' = l
    · -- the node itself: nothing below it has its label
      subst hl
      have hbelow : ∀ f ∈ fields, l' ∉ f.2.labels := fun f hf hm => by
        have hpos : 0 < (fields.flatMap (·.2.labels)).count l' :=
          List.count_pos_iff.mpr (List.mem_flatMap.mpr ⟨f, hf, hm⟩)
        rw [if_pos (beq_self_eq_true l')] at honce
        omega
      have hfields : exchangeFields make (Function.update new l' (some m)) fields = exchangeFields make new fields := by
        refine List.map_congr_left fun f hf => ?_
        rw [exchange_congr fun k hk => hsame k fun he => hbelow f hf (he ▸ hk)]
      obtain rfl := hr _ (mem_records_self rfl) rfl
      rw [exchange_obj_of_some (Function.update_self ..), hfields, exchange_obj_of_none hnone, edit, if_pos rfl]
    · have hfields : editFields l (fun _ => make m (n.exchange make new)) (exchangeFields make new fields) =
          exchangeFields make (Function.update new l (some m)) fields := by
        rw [editFields_eq, exchangeFields, List.map_map]
        refine List.map_congr_left fun f hf => congrArg (Prod.mk f.1) (ih f hf (fun r hr' => hr r (hpart hf hr')) ?_
          fun r hr' => hthere r (hpart hf hr'))
        have hle := count_le_count_flatMap (f := fun f : String × Tree => f.2.labels) hf l
        omega
      cases hm : new l' with
      | none =>
        rw [exchange_obj_of_none hm, exchange_obj_of_none ((hsame l' hl).trans hm), edit, if_neg hl, hfields]
      | some m' =>
        -- what is made of a node around is made of what the node holds
        rw [exchange_obj_of_some hm, exchange_obj_of_some ((hsame l' hl).trans hm)]
        refine h.edit (hnew l' m' hm) (fun key => ?_) fun key => ?_
        · rw [← hfields, get, get?_obj, lookup_editFields, get, get?_obj]
          cases (exchangeFields make new fields).lookup key <;> rfl
        · have hsub : ((obj l' fields).get key).records ⊆ (obj l' fields).records := (sublist_records_get _ key).subset
          rw [get_exchangeFields, get_exchangeFields, truthy_exchange h, truthy_exchange h]
          · intro k hk ho
            refine hthere _ (hsub (mem_records_self ho)) ?_
            rw [Function.update_apply]
            split
            · rfl
            · exact Option.isSome_of_eq_some hk
          · exact fun k hk ho => hthere _ (hsub (mem_records_self ho)) (Option.isSome_of_eq_some hk)

/-! ### Nodes -/

/-- **If the labels that are given new ones are those of nodes**, the nodes are all that is exchanged. -/
theorem exchange_eq_mapNodes (ht : t.isObj = true)
    (h : ∀ l, (new l).isSome = true → t.labels.count l ≤ (t.subtree.map label).count l) :
    t.exchange make new = t.mapNodes (exchangeNode make new) := by
  have hsame (l : Nat) (fields : List (String × Tree)) (hl : ¬(new l).isSome = true) :
      exchangeNode make new (obj l fields) = obj l fields := by
    rw [exchangeNode, label_obj, Option.not_isSome_iff_eq_none.mp hl]
  exact mapObjs_eq_mapNodes hsame ht h

/-! ### What is still there -/

theorem isNode_exchange (h : Makes make kept) (ht : t.isNode = true) : (t.exchange make new).isNode = true := by
  cases t with
  | obj l fields =>
    cases hl : new l with
    | none =>
      rw [exchange_obj_of_none hl, isNode, get?_obj, lookup_exchangeFields, Option.isSome_map]
      exact ht
    | some m => rw [exchange_obj_of_some hl, h.isNode]
  | _ => cases ht

/-- What is under a key that is kept is exchanged there. -/
theorem get?_exchange (h : Makes make kept) (ht : t.isObj = true) {key : String}
    (hkey : (new t.label).isSome = true → key ∈ kept ∧ ((t.get key).exchange make new).truthy = true) :
    (t.exchange make new).get? key = (t.get? key).map (exchange make new) := by
  cases t with
  | obj l fields =>
    have hfields : (obj l (exchangeFields make new fields)).get? key = ((obj l fields).get? key).map (exchange make new) :=
      lookup_exchangeFields fields key
    cases hl : new l with
    | none => rw [exchange_obj_of_none hl, hfields]
    | some m =>
      obtain ⟨hkept, htruthy⟩ := hkey (Option.isSome_of_eq_some hl)
      rw [exchange_obj_of_some hl, h.keeps hkept (by rw [get_exchangeFields]; exact htruthy), hfields]
  | _ => cases ht

section Child

variable (h : Makes make kept) {key : String} (hp : DistinctKeys p.fields) (hv : (key, v) ∈ p.fields)
  (hkey : holdsChildren key = true) (hc : c = v ∨ c ∈ v.items) (hnode : c.isNode = true)
  (hkept : (new p.label).isSome = true → key ∈ kept)

include h hp hv hkey hc hnode hkept in
/-- What holds a node still holds what has become of it. -/
theorem get?_exchange_of_child : p.get? key = some v ∧ p.isObj = true ∧
    (p.exchange make new).get? key = some (v.exchange make new) := by
  have hobj : p.isObj = true := by
    cases p with
    | obj l fields => rfl
    | _ => cases hv
  have hget : p.get? key = some v := by
    cases p with
    | obj l fields => exact hp.lookup (isShapeKey_of_holdsChildren hkey) hv
    | _ => cases hv
  have htruthy : (v.exchange make new).truthy = true := by
    rcases hc with rfl | hc
    · exact truthy_of_isNode (isNode_exchange h hnode)
    · cases v with
      | list items =>
        rw [exchange_list, truthy, List.isEmpty_map, Bool.not_eq_true', List.isEmpty_eq_false_iff]
        exact List.ne_nil_of_mem hc
      | _ => cases hc
  refine ⟨hget, hobj, ?_⟩
  rw [get?_exchange h hobj fun hs => ⟨hkept hs, by rwa [get_of_get? hget]⟩, hget, Option.map_some]

include h hp hv hkey hc hnode hkept in
/-- **What holds a node still holds it when others have been exchanged.** -/
theorem exists_heldAt?_exchange (hnew : new c.label = none) :
    ∃ slot, (p.exchange make new).heldAt? key c.label = some slot := by
  obtain ⟨-, -, hget⟩ := get?_exchange_of_child h hp hv hkey hc hnode hkept
  have hlabel : (c.exchange make new).label? = some c.label := by
    have hobj := isObj_of_isNode hnode
    have hl : (c.exchange make new).label = (new c.label).getD c.label := label_exchange h hobj
    rw [hnew, Option.getD_none] at hl
    have hobj' : (c.exchange make new).isObj = true := (isObj_exchange h c).trans hobj
    cases he : c.exchange make new with
    | obj l fields =>
      rw [he, label_obj] at hl
      rw [label?, hl]
    | _ =>
      rw [he] at hobj'
      cases hobj'
  rw [heldAt?, hget]
  rcases hc with rfl | hc
  · cases he : c.exchange make new with
    | obj l fields =>
      rw [he] at hlabel
      exact ⟨_, if_pos (by rw [hlabel, beq_self_eq_true])⟩
    | _ =>
      rw [he] at hlabel
      cases hlabel
  · cases v with
    | list items =>
      rw [exchange_list]
      have hany : ((items.map (exchange make new)).findIdx? fun item => item.label? == some c.label).isSome = true := by
        rw [List.findIdx?_isSome, List.any_eq_true]
        exact ⟨_, List.mem_map_of_mem hc, by rw [hlabel, beq_self_eq_true]⟩
      obtain ⟨i, hi⟩ := Option.isSome_iff_exists.mp hany
      exact ⟨⟨key, some i⟩, by dsimp only; rw [hi, Option.map_some]⟩
    | _ => cases hc

include h hp hv hkey hc hnode hkept in
theorem records_exchange_subset : (c.exchange make new).records ⊆ (p.exchange make new).records := by
  obtain ⟨-, -, hget⟩ := get?_exchange_of_child h hp hv hkey hc hnode hkept
  have hsub := (sublist_records_get (p.exchange make new) key).subset
  rw [get_of_get? hget] at hsub
  refine fun r hr => hsub ?_
  rcases hc with rfl | hc
  · exact hr
  · cases v with
    | list items =>
      rw [exchange_list, records, recordsItems_eq, List.flatMap_map]
      exact List.mem_flatMap.mpr ⟨c, hc, hr⟩
    | _ => cases hc

end Child

/-- **A node is still there when others have been exchanged**, unless an exchange above it drops it. -/
theorem exchange_mem_records (h : Makes make kept) (hp : p ∈ t.subtree) (ht : t.isObj = true)
    (hdistinct : ∀ n ∈ t.subtree, DistinctKeys n.fields)
    (hkept : ∀ n ∈ t.subtree, (new n.label).isSome = true → ∀ slot c, (slot, c) ∈ n.slots → p ∈ c.subtree →
      slot.key ∈ kept) : p.exchange make new ∈ (t.exchange make new).records := by
  induction hh : t.height using Nat.strongRecOn generalizing t with
  | _ height ih =>
    subst hh
    rcases mem_subtree.mp hp with rfl | ⟨c, hc, hpc⟩
    · exact mem_records_self ((isObj_exchange h _).trans ht)
    · obtain ⟨⟨slot, c⟩, hslot, rfl⟩ := List.mem_map.mp hc
      obtain ⟨v, hv, hin⟩ := mem_slots_iff.mp hslot
      obtain ⟨hnode, hkey, hcv⟩ := mem_fieldSlots.mp (List.mem_map_of_mem (f := Prod.snd) hin)
      have hsub := subtree_subset_of_mem_children hc
      refine records_exchange_subset h (hdistinct t (mem_subtree_self t)) hv hkey hcv hnode
        (fun hs => hkept t (mem_subtree_self t) hs slot c hslot hpc) ?_
      exact ih _ (height_lt_of_mem_children hc) hpc (isObj_of_isNode hnode) (fun n hn => hdistinct n (hsub hn))
        (fun n hn => hkept n (hsub hn)) rfl

end Exchange

/-! ### Slots -/

section Slots

variable {t r x value : Tree} {key : String} {slot : Slot} {l : Nat}

theorem edit_label (h : t.isObj = true) : (t.edit t.label fun _ => value) = value := by
  cases t with
  | obj l fields => exact if_pos rfl
  | _ => cases h

/-- The item with a label is replaced by its index. -/
theorem map_edit_eq_set {items : List Tree} {i : Nat} (hi : items[i]? = some x) (hx : x.label? = some l)
    (honce : (items.flatMap labels).count l ≤ 1) : items.map (edit l fun _ => value) = items.set i value := by
  have hmem : l ∈ x.labels := by
    obtain ⟨hobj, rfl⟩ := isObj_of_label? hx
    exact mem_labels_self hobj
  have hpos {rest : List Tree} (h : x ∈ rest) : 0 < (rest.flatMap labels).count l :=
    List.count_pos_iff.mpr (List.mem_flatMap.mpr ⟨x, h, hmem⟩)
  induction items generalizing i with
  | nil => cases hi
  | cons u rest ih =>
    rw [List.flatMap_cons, List.count_append] at honce
    cases i with
    | zero =>
      obtain rfl : u = x := Option.some.inj hi
      have hrest : rest.map (edit l fun _ => value) = rest := by
        refine (List.map_congr_left fun y hy => edit_of_not_mem fun hm => ?_).trans (List.map_id' rest)
        have hother := List.count_pos_iff.mpr (List.mem_flatMap.mpr ⟨y, hy, hm⟩)
        have hself := List.count_pos_iff.mpr hmem
        omega
      obtain ⟨hobj, rfl⟩ := isObj_of_label? hx
      rw [List.map_cons, hrest, List.set_cons_zero, edit_label hobj]
    | succ i =>
      rw [List.getElem?_cons_succ] at hi
      have hnot : l ∉ u.labels := fun hm => by
        have hother := hpos (List.mem_of_getElem? hi)
        have hself := List.count_pos_iff.mpr hm
        omega
      rw [List.map_cons, edit_of_not_mem hnot, List.set_cons_succ, ih hi (by omega)]

/-- The field with a label below it is the one that an edit there changes. -/
theorem editFields_eq_putKey {fields : List (String × Tree)} {v : Tree} {change : Tree → Tree}
    (hv : fields.lookup key = some v) (hl : l ∈ v.labels) (honce : (labelsFields fields).count l ≤ 1) :
    editFields l change fields = putKey fields key (v.edit l change) := by
  induction fields with
  | nil => cases hv
  | cons f rest ih =>
    obtain ⟨k, u⟩ := f
    rw [labelsFields, List.count_append] at honce
    rw [editFields, putKey]
    by_cases hk : k = key
    · subst hk
      rw [List.lookup_cons, beq_self_eq_true] at hv
      obtain rfl : u = v := Option.some.inj hv
      have hrest : l ∉ labelsFields rest := fun hm => by
        have hother := List.count_pos_iff.mpr hm
        have hself := List.count_pos_iff.mpr hl
        omega
      rw [editFields_of_not_mem hrest, if_pos rfl]
    · have hv' : rest.lookup key = some v := by
        rw [List.lookup_cons, beq_false_of_ne (Ne.symm hk)] at hv
        exact hv
      have hpos : 0 < (labelsFields rest).count l :=
        List.count_pos_iff.mpr (labelsFields_eq rest ▸ List.mem_flatMap.mpr ⟨_, mem_of_lookup hv', hl⟩)
      have hu : l ∉ u.labels := fun hm => by
        have hself := List.count_pos_iff.mpr hm
        omega
      rw [edit_of_not_mem hu, ih hv' (by omega), if_neg hk]

/-- **To fill the slot of a record is to replace what it held.** -/
theorem setSlot_eq_edit (hheld : r.heldAt? key l = some slot) (honce : r.labels.count l ≤ 1) :
    r.setSlot slot value = r.edit l fun _ => value := by
  cases r with
  | obj l' fields =>
    rw [labels, List.count_cons] at honce
    have hne {v : Tree} (hv : fields.lookup key = some v) (hl : l ∈ v.labels) : l' ≠ l := fun he => by
      have hpos : 0 < (labelsFields fields).count l :=
        List.count_pos_iff.mpr (labelsFields_eq fields ▸ List.mem_flatMap.mpr ⟨_, mem_of_lookup hv, hl⟩)
      rw [if_pos (beq_iff_eq.mpr he)] at honce
      omega
    have hfields {v : Tree} (hv : fields.lookup key = some v) (hl : l ∈ v.labels) :
        (obj l' fields).edit l (fun _ => value) = (obj l' fields).set key (v.edit l fun _ => value) := by
      rw [edit, if_neg (hne hv hl), set, editFields_eq_putKey hv hl (by omega)]
    rw [heldAt?, get?_obj] at hheld
    split at hheld
    · rename_i items hv
      obtain ⟨i, hi, rfl⟩ := Option.map_eq_some_iff.mp hheld
      obtain ⟨hlt, hlabel, -⟩ := List.findIdx?_eq_some_iff_getElem.mp hi
      have hitem : items[i]? = some items[i] := List.getElem?_eq_getElem hlt
      have hlabel := beq_iff_eq.mp hlabel
      have hl : l ∈ (list items).labels := by
        obtain ⟨hobj, hl⟩ := isObj_of_label? hlabel
        rw [labels_list]
        exact List.mem_flatMap.mpr ⟨_, List.mem_of_getElem? hitem, hl ▸ mem_labels_self hobj⟩
      have hcount : (list items).labels.count l ≤ (labelsFields fields).count l := by
        rw [labelsFields_eq]
        exact count_le_count_flatMap (f := fun f : String × Tree => f.2.labels) (mem_of_lookup hv) l
      rw [hfields hv hl, setSlot, get, get?_obj, hv, Option.getD_some, items_list, edit, editItems_eq,
        map_edit_eq_set hitem hlabel (by rw [← labels_list]; omega)]
    · rename_i other _ hv
      split at hheld
      · rename_i hlabel
        cases hheld
        obtain ⟨hobj, rfl⟩ := isObj_of_label? (beq_iff_eq.mp hlabel)
        rw [hfields hv (mem_labels_self hobj), edit_label hobj, setSlot]
      · cases hheld
    · cases hheld
  | _ => cases hheld

theorem mem_labels_of_heldAt? (hheld : r.heldAt? key l = some slot) : l ∈ r.labels := by
  obtain ⟨-, c, hholds, hobj, rfl⟩ := holdsAt_of_heldAt? hheld
  have hfield {k : String} {v : Tree} (hv : (k, v) ∈ r.fields) (hc : c.label ∈ v.labels) : c.label ∈ r.labels := by
    cases r with
    | obj l fields =>
      rw [labels, labelsFields_eq]
      exact List.mem_cons_of_mem _ (List.mem_flatMap.mpr ⟨_, hv, hc⟩)
    | _ => cases hv
  rw [HoldsAt] at hholds
  split at hholds
  · exact hfield hholds (mem_labels_self hobj)
  · obtain ⟨items, hv, hc⟩ := hholds
    exact hfield hv (labels_list items ▸ List.mem_flatMap.mpr ⟨c, List.mem_of_getElem? hc, mem_labels_self hobj⟩)

/-- **What a record of a tree holds is replaced through its slot.** -/
theorem edit_setSlot (hr : r ∈ t.records) (hheld : r.heldAt? key l = some slot)
    (honce : ∀ k ∈ r.labels, t.labels.count k ≤ 1) :
    t.edit r.label (·.setSlot slot value) = t.edit l fun _ => value := by
  have hobj := isObj_of_mem_records hr
  have hself := mem_labels_self hobj
  have hin := mem_labels_of_heldAt? hheld
  -- beside the part with the record neither label occurs
  have hpart {α : Type} {f : α → Tree} {xs : List α} {x : α} (hx : x ∈ xs) (hrx : r ∈ (f x).records)
      (honce : ∀ k ∈ r.labels, (xs.flatMap fun y => (f y).labels).count k ≤ 1)
      (h : (∀ k ∈ r.labels, (f x).labels.count k ≤ 1) →
        (f x).edit r.label (·.setSlot slot value) = (f x).edit l fun _ => value) :
      ∀ y ∈ xs, (f y).edit r.label (·.setSlot slot value) = (f y).edit l fun _ => value := by
    have hx' := h fun k hk => Nat.le_trans (count_le_count_flatMap (f := fun y => (f y).labels) hx k) (honce k hk)
    obtain ⟨before, after, rfl⟩ := List.append_of_mem hx
    have hnot {y : α} (hy : y ∈ before ++ after) {k : Nat} (hk : k ∈ r.labels) : k ∉ (f y).labels := fun hm => by
      have hin := List.count_pos_iff.mpr (labels_subset_of_mem_records hrx hk)
      have hother : 0 < ((before ++ after).flatMap fun y => (f y).labels).count k :=
        List.count_pos_iff.mpr (List.mem_flatMap.mpr ⟨y, hy, hm⟩)
      have hle := honce k hk
      simp only [List.flatMap_append, List.flatMap_cons, List.count_append] at hle hother
      omega
    intro y hy
    rcases List.mem_append.mp hy with hy | hy
    · have hy := List.mem_append_left after hy
      rw [edit_of_not_mem (hnot hy hself), edit_of_not_mem (hnot hy hin)]
    · rcases List.mem_cons.mp hy with rfl | hy
      · exact hx'
      · have hy := List.mem_append_right before hy
        rw [edit_of_not_mem (hnot hy hself), edit_of_not_mem (hnot hy hin)]
  induction t using Tree.induction with
  | leaf t ht =>
    rw [records_of_isLeaf ht] at hr
    cases hr
  | list items ih =>
    rw [records, recordsItems_eq] at hr
    obtain ⟨u, hu, hru⟩ := List.mem_flatMap.mp hr
    rw [labels_list] at honce
    rw [edit, edit, editItems_eq, editItems_eq]
    exact congrArg list (List.map_congr_left (hpart (f := fun u => u) hu hru honce (ih u hu hru)))
  | obj l' fields ih =>
    rw [records, recordsFields_eq] at hr
    rcases List.mem_cons.mp hr with rfl | hr
    · have hfields : l' ∉ labelsFields fields := fun hm => by
        have hle := honce l' hself
        have hpos := List.count_pos_iff.mpr hm
        rw [labels, List.count_cons_self] at hle
        omega
      rw [← setSlot_eq_edit hheld (honce l hin), label_obj, edit, if_pos rfl, editFields_of_not_mem hfields]
    · obtain ⟨f, hf, hrf⟩ := List.mem_flatMap.mp hr
      have hne {k : Nat} (hk : k ∈ r.labels) : l' ≠ k := by
        rintro rfl
        have hle := honce l' hk
        have hpos : 0 < (fields.flatMap (·.2.labels)).count l' :=
          List.count_pos_iff.mpr (List.mem_flatMap.mpr ⟨f, hf, labels_subset_of_mem_records hrf hk⟩)
        rw [labels, List.count_cons_self, labelsFields_eq] at hle
        omega
      rw [edit, edit, if_neg (hne hself), if_neg (hne hin), editFields_eq, editFields_eq]
      refine congrArg (obj l') (List.map_congr_left fun g hg => congrArg (Prod.mk g.1) ?_)
      refine hpart (f := Prod.snd) hf hrf (fun k hk => ?_) (ih f hf hrf) g hg
      have hle := honce k hk
      rw [labels, labelsFields_eq] at hle
      exact Nat.le_trans List.count_le_count_cons hle

end Slots

/-! ### Fields behind others -/

section Successor

variable {n n' : Tree} {l m k : Nat} {change : Tree → Tree} {fields rest : List (String × Tree)}

theorem putKey_of_lookup_none {key : String} {value : Tree} (h : fields.lookup key = none) :
    putKey fields key value = fields ++ [(key, value)] := by
  induction fields with
  | nil => rfl
  | cons f rest ih =>
    obtain ⟨k, v⟩ := f
    rw [lookup_cons_ite] at h
    split at h
    · cases h
    · rename_i hk
      rw [putKey, if_neg fun he => hk he.symm, ih h, List.cons_append]

theorem labelsFields_append (fields rest : List (String × Tree)) :
    labelsFields (fields ++ rest) = labelsFields fields ++ labelsFields rest := by
  rw [labelsFields_eq, labelsFields_eq, labelsFields_eq, List.flatMap_append]

/-- Fields whose records have labels stay as they are. -/
theorem numberFields_append (h : 0 ∉ labelsFields rest) (next : Nat) :
    numberFields next (fields ++ rest) = ((numberFields next fields).1 ++ rest, (numberFields next fields).2) := by
  induction fields generalizing next with
  | nil =>
    induction rest generalizing next with
    | nil => rfl
    | cons f rest ih =>
      rw [labelsFields_cons, List.mem_append, not_or] at h
      rw [List.nil_append] at ih ⊢
      rw [numberFields_cons, number_of_labelled h.1, ih h.2]
      rfl
  | cons f fields ih => rw [List.cons_append, numberFields_cons, numberFields_cons, ih]; rfl

/-! ### The comments of a node -/

/-- The field with the comments of a node under a key, if it has any there. -/
def commentField (n : Tree) (key : String) : List (String × Tree) :=
  if (n.get key).truthy then [(key, n.get key)] else []

/-- The comments of a node, as fields of another. -/
def commentFields (n : Tree) : List (String × Tree) :=
  n.commentField "leadingComments" ++ n.commentField "trailingComments"

theorem withCommentsAt_eq {key : String} (h : fields.lookup key = none) :
    (obj m fields).withCommentsAt n key = obj m (fields ++ n.commentField key) := by
  rw [withCommentsAt, commentField]
  split
  · rw [set, putKey_of_lookup_none h]
  · rw [List.append_nil]

theorem lookup_commentField_of_ne {key key' : String} (h : key ≠ key') : (n.commentField key').lookup key = none := by
  rw [commentField]
  split
  · rw [lookup_cons_ite, if_neg h]
    rfl
  · rfl

theorem withCommentsOf_eq (hleading : fields.lookup "leadingComments" = none)
    (htrailing : fields.lookup "trailingComments" = none) :
    (obj m fields).withCommentsOf n = obj m (fields ++ n.commentFields) := by
  rw [withCommentsOf, withCommentsAt_eq hleading, withCommentsAt_eq, List.append_assoc, commentFields]
  rw [List.lookup_append, htrailing, lookup_commentField_of_ne (by decide)]
  rfl

theorem items_lookup_commentField (n : Tree) (key : String) :
    (((n.commentField key).lookup key).getD .null).items = (n.get key).items := by
  rw [commentField]
  split
  · rw [lookup_cons_ite, if_pos rfl, Option.getD_some]
  · rename_i h
    cases hv : n.get key with
    | list items =>
      cases items with
      | nil => rfl
      | cons _ _ => rw [hv] at h; exact absurd rfl h
    | _ => rfl

/-- Comments are no children. -/
theorem holdsChildren_of_mem_commentFields {key : String} {v : Tree} (h : (key, v) ∈ n.commentFields) :
    holdsChildren key = false := by
  rw [commentFields, commentField, commentField] at h
  rcases List.mem_append.mp h with h | h
  all_goals
    split at h
    · cases List.mem_singleton.mp h
      rfl
    · cases h

theorem count_labels_commentFields (n : Tree) (l : Nat) : (labelsFields n.commentFields).count l ≤
    (n.get "leadingComments").labels.count l + (n.get "trailingComments").labels.count l := by
  have hone (key : String) : (labelsFields (n.commentField key)).count l ≤ (n.get key).labels.count l := by
    rw [commentField]
    split
    · rw [labelsFields_cons]
      exact Nat.le_of_eq (congrArg _ (List.append_nil _))
    · exact Nat.zero_le _
  rw [commentFields, labelsFields_append, List.count_append]
  exact Nat.add_le_add (hone _) (hone _)

theorem editFields_commentFields (h : ∀ key, n'.get key = (n.get key).edit l change)
    (htruthy : ∀ key, (n'.get key).truthy = (n.get key).truthy) :
    editFields l change n.commentFields = n'.commentFields := by
  have hone (key : String) : editFields l change (n.commentField key) = n'.commentField key := by
    rw [commentField, commentField, htruthy, h]
    split <;> rfl
  rw [commentFields, commentFields, editFields_eq, List.map_append, ← editFields_eq, ← editFields_eq, hone, hone]

/-! ### What takes the place of a node -/

/-- **What takes the place of a node**: a node of given fields with the comments of the old one. The parts that
are new get the labels behind its own. -/
def successor (part : Nat → Tree → List (String × Tree)) (m : Nat) (n : Tree) : Tree :=
  obj m (part (m + 1) n ++ n.commentFields)

/-- **The comments of a node come along.** -/
theorem comments_successor {part : Nat → Tree → List (String × Tree)}
    (hleading : (part (m + 1) n).lookup "leadingComments" = none)
    (htrailing : (part (m + 1) n).lookup "trailingComments" = none) : (successor part m n).comments = n.comments := by
  have hitems (key : String) (hpart : (part (m + 1) n).lookup key = none)
      (hfields : n.commentFields.lookup key = (n.commentField key).lookup key) :
      ((successor part m n).get key).items = (n.get key).items := by
    rw [get, successor, get?_obj, List.lookup_append, hpart, Option.none_or, hfields, items_lookup_commentField]
  rw [comments, comments, leadingComments, leadingComments, trailingComments, trailingComments]
  rw [hitems _ hleading, hitems _ htrailing]
  · rw [commentFields, List.lookup_append, lookup_commentField_of_ne (by decide), Option.none_or]
  · have hother : (n.commentField "trailingComments").lookup "leadingComments" = none :=
      lookup_commentField_of_ne (by decide)
    rw [commentFields, List.lookup_append, hother, Option.or_none]

/-- Comments do not say what a node is. -/
theorem core_successor (part : Nat → Tree → List (String × Tree)) (m : Nat) (n : Tree) :
    (successor part m n).core = (obj m (part (m + 1) n)).core := by
  have hnone (key : String) (hkey : isShapeKey key = false) (rest : List (String × Tree)) :
      coreFields (n.commentField key ++ rest) = coreFields rest := by
    rw [commentField]
    split
    · rw [List.singleton_append, coreFields_cons, hkey, if_neg (by decide)]
    · rfl
  have hcomments : coreFields n.commentFields = [] := by
    rw [commentFields, hnone _ (by decide), ← List.append_nil (n.commentField _), hnone _ (by decide)]
    rfl
  have happend (fields : List (String × Tree)) : coreFields (fields ++ n.commentFields) = coreFields fields := by
    induction fields with
    | nil => exact hcomments
    | cons f rest ih => rw [List.cons_append, coreFields_cons, coreFields_cons, ih]
  rw [successor, core, core, happend]

/-- How the fields are made of a node, once all is labelled and before that (`raw`). -/
structure Parts (part : Nat → Tree → List (String × Tree)) (raw : Tree → List (String × Tree))
    (kept : List String) : Prop where
  isNode : ∀ k n, ((part k n).lookup "type").isSome = true
  edit : ∀ {k l : Nat} {change : Tree → Tree} {n n' : Tree}, l < k →
    (∀ key, n'.get key = (n.get key).edit l change) → (∀ key, (n'.get key).truthy = (n.get key).truthy) →
      editFields l change (part k n) = part k n'
  keeps : ∀ {k : Nat} {n : Tree} {key : String}, key ∈ kept → (n.get key).truthy = true →
    (part k n).lookup key = n.get? key
  number : ∀ {k : Nat} {n : Tree}, n.isObj = true → 0 ∉ n.labels → (numberFields k (raw n)).1 = part k n
  count_le : ∀ {n : Tree} {l : Nat}, n.isObj = true → l ≠ 0 → (labelsFields (raw n)).count l +
    ((n.get "leadingComments").labels.count l + (n.get "trailingComments").labels.count l) ≤ n.labels.count l

namespace Parts

variable {part : Nat → Tree → List (String × Tree)} {raw : Tree → List (String × Tree)} {kept : List String}
  (h : Parts part raw kept)

include h

/-- **The successors of nodes are fit for an exchange.** -/
theorem makes : Makes (successor part) kept where
  isNode m n := by
    rw [Tree.isNode, successor, get?_obj, List.lookup_append, Option.isSome_or, h.isNode]
    rfl
  label _ _ := rfl
  edit {m l change n n'} hl hget htruthy := by
    rw [successor, Tree.edit, if_neg (Nat.ne_of_gt hl), editFields_eq, List.map_append, ← editFields_eq, ← editFields_eq,
      h.edit (Nat.lt_succ_of_lt hl) hget htruthy, editFields_commentFields hget htruthy, successor]
  keeps {m n key} hkey htruthy := by
    have hsome : (n.get? key).isSome = true := by
      rw [get] at htruthy
      cases hv : n.get? key with
      | none =>
        rw [hv] at htruthy
        cases htruthy
      | some v => rfl
    obtain ⟨v, hv⟩ := Option.isSome_iff_exists.mp hsome
    rw [successor, get?_obj, List.lookup_append, h.keeps hkey htruthy, hv, Option.some_or]

/-- **The successor of a node is a new value** whose records have been labelled. -/
theorem number_raw (hn : n.isObj = true) (hlabelled : 0 ∉ n.labels) :
    ((obj 0 (raw n ++ n.commentFields)).number m).1 = successor part m n := by
  have hcomments : 0 ∉ labelsFields n.commentFields := fun hz => by
    have hpos := List.count_pos_iff.mpr hz
    have hle := count_labels_commentFields n 0
    have hall := count_labels_get_of_nodup (l := 0) hn ["leadingComments", "trailingComments"] (by decide)
    have hnone := List.count_eq_zero.mpr hlabelled
    simp only [List.flatMap_cons, List.flatMap_nil, List.count_append, List.count_nil] at hall
    omega
  rw [Tree.number, numberFields_append hcomments]
  show obj m _ = _
  rw [h.number hn hlabelled, successor]

theorem count_labels_raw (hn : n.isObj = true) (hl : l ≠ 0) :
    (obj 0 (raw n ++ n.commentFields)).labels.count l ≤ n.labels.count l := by
  have hraw := h.count_le hn hl
  have hcomments := count_labels_commentFields n l
  rw [labels, List.count_cons, if_neg (by simpa using hl.symm), labelsFields_append, List.count_append]
  omega

end Parts

end Successor

end Tree

end Deminify
