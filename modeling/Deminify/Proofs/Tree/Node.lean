import Mathlib.Data.List.Perm.Basic
import Deminify.Tree.Walk

/-!
# Records, children and subtrees

What the rest of the theory needs to know of trees. Fields are looked up in lists, so a field that
is set is found again and no other field is touched. The nodes below a node are reached child by
child: `Deminify.Tree.subtree_eq` gives the document order as a recursion over children, and a child
is always lower than its parent (`Deminify.Tree.height_lt_of_mem_children`), which is what every
induction over a walk goes by.
-/

namespace Deminify

/-- A computation that goes on after another succeeds when both do. -/
theorem bind_eq_ok {ε α β : Type} {x : Except ε α} {f : α → Except ε β} {b : β} :
    x >>= f = .ok b ↔ ∃ a, x = .ok a ∧ f a = .ok b := by
  cases x with
  | error e =>
    constructor
    · intro h
      cases h
    · rintro ⟨_, h, -⟩
      cases h
  | ok a =>
    constructor
    · exact fun h => ⟨a, rfl, h⟩
    · rintro ⟨_, h, hf⟩
      cases h
      exact hf

/-- What goes on after a guard gives something when the guard holds and it does. -/
theorem guard_bind_eq_some {β : Type} {p : Prop} [Decidable p] {f : Unit → Option β} {b : β} :
    (guard p >>= f) = some b ↔ p ∧ f () = some b := by
  show (ite p (pure ()) failure >>= f) = some b ↔ _
  by_cases hp : p
  · rw [if_pos hp]
    exact ⟨fun h => ⟨hp, h⟩, And.right⟩
  · rw [if_neg hp]
    exact iff_of_false (fun h => by cases h) fun h => hp h.1

/-! ### Fields -/

@[simp] theorem lookup_cons_ite {α : Type} {fields : List (String × α)} {key k : String} {value : α} :
    ((k, value) :: fields).lookup key = if key = k then some value else fields.lookup key := by
  rw [List.lookup_cons]
  by_cases h : key = k
  · simp [h]
  · rw [beq_eq_false_iff_ne.mpr h, if_neg h]

section PutKey

variable {α : Type} {fields : List (String × α)} {key k : String} {value : α}

@[simp] theorem lookup_putKey :
    (putKey fields key value).lookup k = if k = key then some value else fields.lookup k := by
  induction fields with
  | nil => simp [putKey, lookup_cons_ite]
  | cons f rest ih =>
    obtain ⟨k', v'⟩ := f
    by_cases h' : k' = key
    · subst h'
      by_cases h : k = k' <;> simp [putKey, lookup_cons_ite, h]
    · rw [putKey, if_neg h', lookup_cons_ite, lookup_cons_ite, ih]
      by_cases h : k = k'
      · subst h
        simp [h']
      · simp [h]

/-- A key that is put goes behind the others, unless it is there. -/
theorem keys_putKey :
    (putKey fields key value).map (·.1) =
      if key ∈ fields.map (·.1) then fields.map (·.1) else fields.map (·.1) ++ [key] := by
  induction fields with
  | nil => simp [putKey]
  | cons f rest ih =>
    obtain ⟨k', v'⟩ := f
    by_cases h' : k' = key
    · simp [putKey, h']
    · have hk : key ≠ k' := fun h => h' h.symm
      rw [putKey, if_neg h', List.map_cons, ih]
      simp only [List.map_cons, List.mem_cons, hk, false_or]
      split <;> simp

theorem mem_of_mem_putKey {f : String × α} (h : f ∈ putKey fields key value) : f ∈ fields ∨ f.2 = value := by
  induction fields with
  | nil =>
    rw [putKey, List.mem_singleton] at h
    exact .inr (h ▸ rfl)
  | cons g rest ih =>
    obtain ⟨k, v⟩ := g
    rw [putKey] at h
    split at h <;> rcases List.mem_cons.mp h with rfl | h
    · exact .inr rfl
    · exact .inl (List.mem_cons_of_mem _ h)
    · exact .inl List.mem_cons_self
    · exact (ih h).imp_left (List.mem_cons_of_mem _)

end PutKey

theorem mem_of_lookup {α : Type} {fields : List (String × α)} {key : String} {value : α}
    (h : fields.lookup key = some value) : (key, value) ∈ fields := by
  induction fields with
  | nil => simp at h
  | cons f rest ih =>
    obtain ⟨k, v⟩ := f
    rw [lookup_cons_ite] at h
    split at h
    · rename_i hk
      cases h
      rw [hk]
      exact List.mem_cons_self
    · exact List.mem_cons_of_mem _ (ih h)

@[simp] theorem lookup_filter_ne {α : Type} {fields : List (String × α)} {key k : String} :
    (fields.filter (·.1 != key)).lookup k = if key = k then none else fields.lookup k := by
  induction fields with
  | nil => simp
  | cons f rest ih =>
    obtain ⟨k', v⟩ := f
    by_cases h' : k' = key
    · subst h'
      rw [List.filter_cons_of_neg (by simp), ih, lookup_cons_ite]
      by_cases h : k' = k
      · rw [if_pos h, if_pos h]
      · rw [if_neg h, if_neg h, if_neg (Ne.symm h)]
    · rw [List.filter_cons_of_pos (by simp [h']), lookup_cons_ite, lookup_cons_ite, ih]
      by_cases h : k = k'
      · rw [if_pos h, if_neg (h ▸ Ne.symm h'), if_pos h]
      · rw [if_neg h, if_neg h]

namespace Tree

@[simp] theorem fields_obj (l : Nat) (fields : List (String × Tree)) : (obj l fields).fields = fields :=
  rfl

@[simp] theorem label_obj (l : Nat) (fields : List (String × Tree)) : (obj l fields).label = l := rfl

@[simp] theorem get?_obj (l : Nat) (fields : List (String × Tree)) (key : String) :
    (obj l fields).get? key = fields.lookup key := rfl

@[simp] theorem items_list (items : List Tree) : (list items).items = items := rfl

theorem get_of_get? {t value : Tree} {key : String} (h : t.get? key = some value) :
    t.get key = value := by
  rw [get, h, Option.getD_some]

@[simp] theorem label_set (t : Tree) (key : String) (value : Tree) :
    (t.set key value).label = t.label := by
  cases t <;> rfl

@[simp] theorem isObj_set (t : Tree) (key : String) (value : Tree) :
    (t.set key value).isObj = t.isObj := by
  cases t <;> rfl

/-- A field that is set is the only one to change. -/
theorem get?_set {t : Tree} (h : t.isObj = true) (key k : String) (value : Tree) :
    (t.set key value).get? k = if k = key then some value else t.get? k := by
  cases t with
  | obj l fields => exact lookup_putKey
  | _ => simp [isObj] at h

/-- A node is a record, and not empty. -/
theorem truthy_of_isNode {t : Tree} (h : t.isNode = true) : t.truthy = true := by
  cases t with
  | obj l fields => cases fields <;> simp_all [isNode, truthy, get?]
  | _ => simp [isNode, isObj] at h

theorem isObj_of_isNode {t : Tree} (h : t.isNode = true) : t.isObj = true := by
  rw [isNode, Bool.and_eq_true] at h
  exact h.1

/-! ### Fields that are there -/

section Fields

variable {m : Type → Type} [Monad m] [MonadExceptOf Failure m] {t v : Tree} {key s : String}

theorem field_of_get? (h : t.get? key = some v) : t.field (m := m) key = pure v := by
  cases t with
  | obj l fields =>
    have hl : fields.lookup key = some v := h
    rw [field, hl]
  | _ => cases h

theorem textField_of_get? [LawfulMonad m] (h : t.get? key = some (.str s)) :
    t.textField (m := m) key = pure s := by
  rw [textField, field_of_get? h, pure_bind]

theorem listField_of_get? [LawfulMonad m] {items : List Tree} (h : t.get? key = some (.list items)) :
    t.listField (m := m) key = pure items := by
  rw [listField, field_of_get? h, pure_bind]

theorem isKind_eq {kind : String} (h : t.get? "type" = some (.str kind)) (other : String) :
    t.isKind other = (kind == other) := by
  cases t with
  | obj l fields =>
    rw [isKind, h]
    rfl
  | _ => cases h

theorem get?_of_isKind {kind : String} (h : t.isKind kind = true) : t.get? "type" = some (.str kind) := by
  rw [isKind, Bool.and_eq_true, beq_iff_eq, Option.bind_eq_some_iff] at h
  obtain ⟨-, v, hv, hs⟩ := h
  cases v with
  | str s => rw [hv, ← Option.some.inj hs]
  | _ => cases hs

end Fields

/-! ### Children -/

theorem mem_itemSlots {key : String} {start : Nat} {items : List Tree} {c : Tree} :
    c ∈ (itemSlots key start items).map (·.2) ↔ c.isNode = true ∧ c ∈ items := by
  induction items generalizing start with
  | nil => simp [itemSlots]
  | cons t rest ih =>
    rw [itemSlots]
    split
    · rename_i ht
      rw [List.map_cons, List.mem_cons, ih, List.mem_cons]
      constructor
      · rintro (rfl | ⟨h, hm⟩)
        · exact ⟨ht, .inl rfl⟩
        · exact ⟨h, .inr hm⟩
      · rintro ⟨h, rfl | hm⟩
        · exact .inl rfl
        · exact .inr ⟨h, hm⟩
    · rename_i ht
      rw [ih, List.mem_cons]
      constructor
      · exact fun ⟨h, hm⟩ => ⟨h, .inr hm⟩
      · rintro ⟨h, rfl | hm⟩
        · exact absurd h ht
        · exact ⟨h, hm⟩

theorem mem_fieldSlots {key : String} {value c : Tree} :
    c ∈ (fieldSlots key value).map (·.2) ↔
      c.isNode = true ∧ holdsChildren key = true ∧ (c = value ∨ c ∈ value.items) := by
  unfold fieldSlots
  by_cases hk : holdsChildren key = true
  · rw [if_pos hk]
    cases value with
    | list items =>
      rw [mem_itemSlots]
      constructor
      · exact fun ⟨h, hm⟩ => ⟨h, hk, .inr hm⟩
      · rintro ⟨h, -, rfl | hm⟩
        · simp [isNode, isObj] at h
        · exact ⟨h, hm⟩
    | _ =>
      -- what is no list is the one child, if it is a node at all
      simp only [items, List.not_mem_nil, or_false]
      split
      · rename_i hn
        simp only [List.map_cons, List.map_nil, List.mem_singleton]
        exact ⟨fun h => ⟨h ▸ hn, hk, h⟩, fun h => h.2.2⟩
      · rename_i hn
        simp only [List.map_nil, List.not_mem_nil, false_iff]
        rintro ⟨h, -, rfl⟩
        exact hn h
  · rw [if_neg hk]
    simp [hk]

/-- The children are the nodes among the fields and the items of list fields. -/
theorem mem_children {t c : Tree} :
    c ∈ t.children ↔ c.isNode = true ∧
      ∃ key value, (key, value) ∈ t.fields ∧ holdsChildren key = true ∧ (c = value ∨ c ∈ value.items) := by
  simp only [children, slots, List.map_flatMap, List.mem_flatMap]
  constructor
  · rintro ⟨⟨key, value⟩, hf, hc⟩
    obtain ⟨hn, hk, hv⟩ := mem_fieldSlots.mp hc
    exact ⟨hn, key, value, hf, hk, hv⟩
  · rintro ⟨hn, key, value, hf, hk, hv⟩
    exact ⟨(key, value), hf, mem_fieldSlots.mpr ⟨hn, hk, hv⟩⟩

theorem key_of_mem_itemSlots {key : String} {start : Nat} {items : List Tree} {x : Slot × Tree}
    (h : x ∈ itemSlots key start items) : x.1.key = key := by
  induction items generalizing start with
  | nil => simp [itemSlots] at h
  | cons t rest ih =>
    rw [itemSlots] at h
    split at h
    · rcases List.mem_cons.mp h with rfl | h
      · rfl
      · exact ih h
    · exact ih h

theorem key_of_mem_fieldSlots {key : String} {value : Tree} {x : Slot × Tree}
    (h : x ∈ fieldSlots key value) : x.1.key = key := by
  unfold fieldSlots at h
  split at h
  · split at h
    · exact key_of_mem_itemSlots h
    · split at h
      · cases List.mem_singleton.mp h
        rfl
      · simp at h
  · simp at h

/-- A child stands in a field, at a place of it. -/
theorem mem_slots_iff {t c : Tree} {slot : Slot} :
    (slot, c) ∈ t.slots ↔ ∃ value, (slot.key, value) ∈ t.fields ∧ (slot, c) ∈ fieldSlots slot.key value := by
  simp only [slots, List.mem_flatMap]
  constructor
  · rintro ⟨⟨key, value⟩, hm, hs⟩
    cases key_of_mem_fieldSlots hs
    exact ⟨value, hm, hs⟩
  · rintro ⟨value, hm, hs⟩
    exact ⟨_, hm, hs⟩

theorem mem_children_of_mem_slots {t c : Tree} {slot : Slot} (h : (slot, c) ∈ t.slots) :
    c ∈ t.children := List.mem_map.mpr ⟨_, h, rfl⟩

/-! ### Height -/

theorem height_le_heightItems {items : List Tree} {t : Tree} (h : t ∈ items) :
    t.height ≤ heightItems items := by
  induction items with
  | nil => simp at h
  | cons u rest ih =>
    rw [heightItems]
    rcases List.mem_cons.mp h with rfl | h
    · omega
    · have := ih h
      omega

theorem height_le_heightFields {fields : List (String × Tree)} {key : String} {t : Tree}
    (h : (key, t) ∈ fields) : t.height ≤ heightFields fields := by
  induction fields with
  | nil => simp at h
  | cons f rest ih =>
    obtain ⟨k, u⟩ := f
    rw [heightFields]
    rcases List.mem_cons.mp h with h | h
    · cases h
      omega
    · have := ih h
      omega

theorem height_pos (t : Tree) : 0 < t.height := by
  cases t <;> simp [height]

/-- What a field holds is lower than the node. -/
theorem height_lt_of_mem_fields {t : Tree} {key : String} {value : Tree}
    (h : (key, value) ∈ t.fields) : value.height < t.height := by
  cases t with
  | obj l fields =>
    rw [height]
    exact Nat.lt_succ_of_le (height_le_heightFields h)
  | _ => simp [fields] at h

theorem height_lt_of_mem_items {t item : Tree} (h : item ∈ t.items) : item.height < t.height := by
  cases t with
  | list items =>
    rw [height]
    exact Nat.lt_succ_of_le (height_le_heightItems h)
  | _ => simp [items] at h

/-- A child is lower than its parent. -/
theorem height_lt_of_mem_children {t c : Tree} (h : c ∈ t.children) : c.height < t.height := by
  obtain ⟨-, key, value, hf, -, rfl | hv⟩ := mem_children.mp h
  · exact height_lt_of_mem_fields hf
  · exact Nat.lt_trans (height_lt_of_mem_items hv) (height_lt_of_mem_fields hf)

/-! ### Subtrees -/

theorem subtreeItem_eq (t : Tree) : subtreeItem t = if t.isNode then t.subtree else [] := by
  cases t with
  | obj l fields => rw [subtreeItem]; rfl
  | _ => simp [subtreeItem, isNode, isObj]

theorem subtreeItems_eq (items : List Tree) (key : String) (start : Nat) :
    subtreeItems items = (itemSlots key start items).flatMap (·.2.subtree) := by
  induction items generalizing start with
  | nil => rw [subtreeItems]; rfl
  | cons t rest ih =>
    rw [subtreeItems, subtreeItem_eq, itemSlots, ih (start + 1)]
    split <;> simp

theorem subtreeFields_eq (fields : List (String × Tree)) :
    subtreeFields fields = fields.flatMap fun (key, value) =>
      (fieldSlots key value).flatMap (·.2.subtree) := by
  induction fields with
  | nil => rw [subtreeFields]; rfl
  | cons f rest ih =>
    obtain ⟨key, value⟩ := f
    rw [subtreeFields, ih, List.flatMap_cons]
    congr 1
    unfold fieldSlots
    by_cases hk : holdsChildren key = true
    · simp only [if_pos hk]
      cases value with
      | list items => rw [subtreeValue]; exact subtreeItems_eq items key 0
      | obj l fields =>
        rw [subtreeValue]
        by_cases hn : (obj l fields).isNode = true
        · simp [hn, subtree]
        · simp [hn]
      | _ => simp [subtreeValue, isNode, isObj]
    · simp [if_neg hk]

/-- **Document order**: a node, then its children in order, each with what is below it. -/
theorem subtree_eq (t : Tree) : t.subtree = t :: t.children.flatMap subtree := by
  rw [subtree, subtreeFields_eq, children, slots, List.map_flatMap, List.flatMap_assoc]
  simp only [List.flatMap_map]

/-- A node is below another one if it is that one or below a child of it. -/
theorem mem_subtree {t n : Tree} : n ∈ t.subtree ↔ n = t ∨ ∃ c ∈ t.children, n ∈ c.subtree := by
  rw [subtree_eq, List.mem_cons, List.mem_flatMap]

theorem mem_subtree_self (t : Tree) : t ∈ t.subtree := mem_subtree.mpr (.inl rfl)

theorem subtree_subset_of_mem_children {t c : Tree} (h : c ∈ t.children) : c.subtree ⊆ t.subtree :=
  fun _ hn => mem_subtree.mpr (.inr ⟨c, h, hn⟩)

/-- The nodes below a node of a tree are nodes of the tree. -/
theorem subtree_subset {t n : Tree} (h : n ∈ t.subtree) : n.subtree ⊆ t.subtree := by
  induction hn : t.height using Nat.strongRecOn generalizing t with
  | _ k ih =>
    subst hn
    rcases mem_subtree.mp h with rfl | ⟨c, hc, hm⟩
    · exact List.Subset.refl _
    · have hbelow := ih _ (height_lt_of_mem_children hc) hm rfl
      exact fun _ hx => subtree_subset_of_mem_children hc (hbelow hx)

/-- What is below a node is lower. -/
theorem height_lt_of_mem_below {t n : Tree} (h : n ∈ t.children.flatMap subtree) :
    n.height < t.height := by
  induction hn : t.height using Nat.strongRecOn generalizing t with
  | _ k ih =>
    subst hn
    obtain ⟨c, hc, hm⟩ := List.mem_flatMap.mp h
    have hlt := height_lt_of_mem_children hc
    rw [subtree_eq] at hm
    rcases List.mem_cons.mp hm with rfl | hm
    · exact hlt
    · exact Nat.lt_trans (ih _ hlt hm rfl) hlt

/-- All nodes but the root are children. -/
theorem subtree_perm (t : Tree) : (t :: t.subtree.flatMap children).Perm t.subtree := by
  induction hh : t.height using Nat.strongRecOn generalizing t with
  | _ height ih =>
    subst hh
    rw [subtree_eq, List.flatMap_cons, List.flatMap_assoc]
    refine .cons t ?_
    have hsplit := List.map_append_flatMap_perm t.children id fun c => c.subtree.flatMap children
    rw [List.map_id] at hsplit
    refine hsplit.trans (List.Perm.flatMap_left _ fun c hc => ?_)
    exact ih _ (height_lt_of_mem_children hc) c rfl

end Tree

end Deminify
