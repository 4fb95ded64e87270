import Deminify.Proofs.Tree.Shape

/-!
# What well-formedness depends on

Labels, places in the text and comments come and go while a program is being read; none of them says
what a node is. The *core* of a tree is what is left without them, and a tree is well formed exactly
when its core is (`Deminify.Tree.wellFormed_core`). So whatever keeps the core keeps a tree well
formed: giving out labels does (`Deminify.Tree.core_number`), and so does any change of the records
that keeps their cores (`Deminify.Tree.core_mapObjs`).
-/

namespace Deminify

namespace Tree

/-! ### Induction -/

/-- What holds of leaves, of lists if it holds of their items and of records if it holds of their
fields, holds of all trees. -/
@[elab_as_elim] theorem induction {P : Tree → Prop} (leaf : ∀ t, t.isLeaf = true → P t)
    (list : ∀ items, (∀ t ∈ items, P t) → P (.list items))
    (obj : ∀ label fields, (∀ f ∈ fields, P f.2) → P (.obj label fields)) (t : Tree) : P t := by
  induction hn : t.height using Nat.strongRecOn generalizing t with
  | _ n ih =>
    subst hn
    cases t with
    | list items => exact list items fun u hu => ih _ (height_lt_of_mem_items hu) u rfl
    | obj label fields => exact obj label fields fun f hf => ih _ (height_lt_of_mem_fields hf) f.2 rfl
    | _ => exact leaf _ rfl

theorem mapObjsItems_eq (change : Tree → Tree) (items : List Tree) :
    mapObjsItems change items = items.map (mapObjs change) := by
  induction items with
  | nil => rfl
  | cons t rest ih => rw [mapObjsItems, ih, List.map_cons]

theorem mapObjsFields_eq (change : Tree → Tree) (fields : List (String × Tree)) :
    mapObjsFields change fields = fields.map fun f => (f.1, f.2.mapObjs change) := by
  induction fields with
  | nil => rfl
  | cons f rest ih => rw [mapObjsFields, ih, List.map_cons]

theorem mapObjs_of_isLeaf {t : Tree} (h : t.isLeaf = true) (change : Tree → Tree) :
    t.mapObjs change = t := by
  cases t <;> first | rfl | simp [isLeaf] at h

/-! ### Cores -/

mutual

/-- The tree without labels and without the fields that do not say what a node is. -/
def core (t : Tree) : Tree :=
  match t with
  | .list items => .list (coreItems items)
  | .obj _ fields => .obj 0 (coreFields fields)
  | other => other
termination_by structural t

/-- The cores of the items. -/
def coreItems (items : List Tree) : List Tree :=
  match items with
  | [] => []
  | t :: rest => t.core :: coreItems rest
termination_by structural items

/-- The cores of the fields that say what a node is. -/
def coreFields (fields : List (String × Tree)) : List (String × Tree) :=
  match fields with
  | [] => []
  | (key, t) :: rest =>
    if isShapeKey key then (key, t.core) :: coreFields rest else coreFields rest
termination_by structural fields

end

theorem coreItems_eq (items : List Tree) : coreItems items = items.map core := by
  induction items with
  | nil => rfl
  | cons t rest ih => rw [coreItems, ih, List.map_cons]

theorem coreFields_cons (f : String × Tree) (rest : List (String × Tree)) :
    coreFields (f :: rest) =
      if isShapeKey f.1 then (f.1, f.2.core) :: coreFields rest else coreFields rest := by
  rw [coreFields]

theorem keys_coreFields (fields : List (String × Tree)) :
    (coreFields fields).map (·.1) = (fields.map (·.1)).filter isShapeKey := by
  induction fields with
  | nil => rfl
  | cons f rest ih =>
    rw [coreFields_cons, List.map_cons, List.filter_cons]
    split
    · rw [List.map_cons, ih]
    · exact ih

/-- The core has the cores of the fields that matter. -/
theorem mem_coreFields {fields : List (String × Tree)} {key : String} {value : Tree} :
    (key, value) ∈ coreFields fields ↔
      isShapeKey key = true ∧ ∃ v, (key, v) ∈ fields ∧ value = v.core := by
  induction fields with
  | nil => simp [coreFields]
  | cons f rest ih =>
    obtain ⟨k, v⟩ := f
    rw [coreFields_cons]
    split
    · rename_i hk
      rw [List.mem_cons, ih]
      constructor
      · rintro (h | ⟨hs, v', hm, hv⟩)
        · cases h
          exact ⟨hk, v, List.mem_cons_self, rfl⟩
        · exact ⟨hs, v', List.mem_cons_of_mem _ hm, hv⟩
      · rintro ⟨hs, v', hm, rfl⟩
        rcases List.mem_cons.mp hm with h | hm
        · cases h
          exact .inl rfl
        · exact .inr ⟨hs, v', hm, rfl⟩
    · rename_i hk
      rw [ih]
      constructor
      · exact fun ⟨hs, v', hm, hv⟩ => ⟨hs, v', List.mem_cons_of_mem _ hm, hv⟩
      · rintro ⟨hs, v', hm, rfl⟩
        rcases List.mem_cons.mp hm with h | hm
        · cases h
          exact absurd hs hk
        · exact ⟨hs, v', hm, rfl⟩

/-- A field that matters is found in the core. -/
theorem lookup_coreFields {fields : List (String × Tree)} {key : String}
    (hk : isShapeKey key = true) : (coreFields fields).lookup key = (fields.lookup key).map core := by
  induction fields with
  | nil => rfl
  | cons f rest ih =>
    obtain ⟨k, v⟩ := f
    rw [coreFields_cons, lookup_cons_ite]
    by_cases hkey : key = k
    · subst hkey
      rw [if_pos hk, lookup_cons_ite, if_pos rfl, if_pos rfl]
      rfl
    · rw [if_neg hkey]
      split
      · rw [lookup_cons_ite, if_neg hkey, ih]
      · exact ih

/-- A field that does not matter may be put. -/
theorem coreFields_putKey {fields : List (String × Tree)} {key : String} {value : Tree}
    (hk : isShapeKey key = false) : coreFields (putKey fields key value) = coreFields fields := by
  induction fields with
  | nil => simp [putKey, coreFields, hk]
  | cons f rest ih =>
    rw [putKey]
    split
    · rename_i hf
      subst hf
      simp [coreFields_cons, hk]
    · rw [coreFields_cons, coreFields_cons, ih]

/-! ### A tree and its core -/

section Core

variable (t : Tree)

@[simp] theorem isObj_core : t.core.isObj = t.isObj := by
  cases t <;> rfl

@[simp] theorem isLeaf_core : t.core.isLeaf = t.isLeaf := by
  cases t <;> rfl

@[simp] theorem isNull_core : t.core.isNull = t.isNull := by
  cases t <;> rfl

@[simp] theorem isList_core : t.core.isList = t.isList := by
  cases t <;> rfl

@[simp] theorem str?_core : t.core.str? = t.str? := by
  cases t <;> rfl

@[simp] theorem items_core : t.core.items = t.items.map core := by
  cases t with
  | list items => exact coreItems_eq items
  | _ => rfl

@[simp] theorem fields_core : t.core.fields = coreFields t.fields := by
  cases t <;> rfl

theorem get?_core {key : String} (hk : isShapeKey key = true) :
    t.core.get? key = (t.get? key).map core := by
  rw [get?, fields_core, lookup_coreFields hk, get?]

@[simp] theorem isNode_core : t.core.isNode = t.isNode := by
  rw [isNode, isNode, isObj_core, get?_core t rfl, Option.isSome_map]

theorem kind?_core : (t.core.get? "type").bind str? = (t.get? "type").bind str? := by
  rw [get?_core t rfl]
  cases t.get? "type" with
  | none => rfl
  | some v => exact str?_core v

@[simp] theorem kind_core : t.core.kind = t.kind := by
  rw [kind, kind?_core, kind]

@[simp] theorem isOf_core (kinds : String → Bool) : t.core.isOf kinds = t.isOf kinds := by
  rw [isOf, isOf, isObj_core, kind?_core]

end Core

end Tree

@[simp] theorem FieldSort.takes_core (sort : FieldSort) (t : Tree) :
    sort.takes t.core = sort.takes t := by
  cases sort with
  | text => exact congrArg Option.isSome (Tree.str?_core t)
  | flag => cases t <;> rfl
  | leaf => exact Tree.isLeaf_core t
  | record => simp [FieldSort.takes]
  | node kinds => exact Tree.isOf_core t kinds
  | optional kinds => simp [FieldSort.takes]
  | nodes kinds => simp [FieldSort.takes, List.all_map, Function.comp_def]
  | holes kinds => simp [FieldSort.takes, List.all_map, Function.comp_def]

namespace Tree

theorem isKnownField_core (spec : List (String × FieldSort)) (key : String) (value : Tree) :
    isKnownField spec (key, value.core) = isKnownField spec (key, value) := by
  simp [isKnownField]

theorem distinctKeys_coreFields {fields : List (String × Tree)} :
    DistinctKeys (coreFields fields) ↔ DistinctKeys fields := by
  rw [DistinctKeys, DistinctKeys, keys_coreFields, List.filter_filter]
  simp only [Bool.and_self]

theorem isKind_core (t : Tree) (kind : String) : t.core.isKind kind = t.isKind kind := by
  rw [isKind, isKind, isObj_core, kind?_core]

theorem get_core (t : Tree) {key : String} (hk : isShapeKey key = true) :
    t.core.get key = (t.get key).core := by
  rw [get, get, get?_core t hk]
  cases t.get? key <;> rfl

theorem isTrue_core (t : Tree) : t.core.isTrue = t.isTrue := by
  cases t <;> rfl

theorem isPlainKey_core (t : Tree) : t.core.isPlainKey = t.isPlainKey := by
  rw [isPlainKey, isPlainKey, isKind_core, isKind_core, get_core t (by decide)]
  cases t.get "value" <;> rfl

theorem keepsKey_coreFields (fields : List (String × Tree)) :
    keepsKey (coreFields fields) = keepsKey fields := by
  rw [keepsKey, keepsKey, lookup_coreFields (by decide), lookup_coreFields (by decide),
    Option.any_map, Option.any_map]
  simp only [isTrue_core, isPlainKey_core]

/-- The core has the fields that the tree has. -/
theorem hasFields_core (t : Tree) : t.core.hasFields = t.hasFields := by
  rw [hasFields, hasFields, kind_core]
  cases hs : schema t.kind with
  | none => rfl
  | some spec =>
    have hkeys : ∀ entry ∈ spec, (t.core.get? entry.1).any entry.2.takes =
        (t.get? entry.1).any entry.2.takes := by
      intro entry he
      rw [get?_core t (isShapeKey_of_holdsChildren (holdsChildren_of_schema hs he))]
      cases t.get? entry.1 with
      | none => rfl
      | some v => exact FieldSort.takes_core _ v
    have hknown : t.core.fields.all (isKnownField spec) = t.fields.all (isKnownField spec) := by
      rw [fields_core, Bool.eq_iff_iff, List.all_eq_true, List.all_eq_true]
      constructor
      · rintro h ⟨key, value⟩ hm
        by_cases hkey : holdsChildren key = true
        · rw [← isKnownField_core]
          exact h _ (mem_coreFields.mpr ⟨isShapeKey_of_holdsChildren hkey, value, hm, rfl⟩)
        · simp [isKnownField, hkey]
      · rintro h ⟨key, value⟩ hm
        obtain ⟨-, v, hv, rfl⟩ := mem_coreFields.mp hm
        rw [isKnownField_core]
        exact h _ hv
    have hall : spec.all (fun entry => (t.core.get? entry.1).any entry.2.takes) =
        spec.all (fun entry => (t.get? entry.1).any entry.2.takes) := by
      rw [Bool.eq_iff_iff, List.all_eq_true, List.all_eq_true]
      exact forall₂_congr fun entry he => by rw [hkeys entry he]
    simp only [hknown, hall]
    simp only [fields_core, distinctKeys_coreFields, keepsKey_coreFields]

theorem bindsTogether_core (specifiers : List Tree) :
    bindsTogether (specifiers.map core) = bindsTogether specifiers := by
  simp only [bindsTogether, bindsKind, List.countP_map, List.any_map, Function.comp_def, isKind_core]

theorem keepsImport_coreFields (fields : List (String × Tree)) :
    keepsImport (coreFields fields) = keepsImport fields := by
  rw [keepsImport, keepsImport, lookup_coreFields (by decide), lookup_coreFields (by decide),
    Option.any_map, Option.any_map]
  simp only [items_core, bindsTogether_core, get_core _ (show isShapeKey "value" = true by decide), str?_core]

/-- The core conforms if the tree does. -/
theorem conforms_core (t : Tree) : t.core.conforms = t.conforms := by
  rw [conforms, conforms, hasFields_core, kind_core, fields_core, keepsImport_coreFields]

/-- The children of the core are the cores of the children. -/
theorem mem_children_core {t c : Tree} : c ∈ t.core.children ↔ ∃ d ∈ t.children, c = d.core := by
  rw [mem_children]
  constructor
  · rintro ⟨hn, key, value, hm, hk, hc⟩
    rw [fields_core] at hm
    obtain ⟨-, v, hv, rfl⟩ := mem_coreFields.mp hm
    rcases hc with rfl | hc
    · rw [isNode_core] at hn
      exact ⟨v, mem_children.mpr ⟨hn, key, v, hv, hk, .inl rfl⟩, rfl⟩
    · rw [items_core] at hc
      obtain ⟨d, hd, rfl⟩ := List.mem_map.mp hc
      rw [isNode_core] at hn
      exact ⟨d, mem_children.mpr ⟨hn, key, v, hv, hk, .inr hd⟩, rfl⟩
  · rintro ⟨d, hd, rfl⟩
    obtain ⟨hn, key, v, hm, hk, hc⟩ := mem_children.mp hd
    rw [isNode_core, fields_core]
    refine ⟨hn, key, v.core, mem_coreFields.mpr ⟨isShapeKey_of_holdsChildren hk, v, hm, rfl⟩, hk, ?_⟩
    rcases hc with rfl | hc
    · exact .inl rfl
    · rw [items_core]
      exact .inr (List.mem_map.mpr ⟨d, hc, rfl⟩)

/-- **A tree is well formed when its core is.** -/
theorem wellFormed_core (t : Tree) : t.core.WellFormed ↔ t.WellFormed := by
  induction hn : t.height using Nat.strongRecOn generalizing t with
  | _ n ih =>
    subst hn
    rw [wellFormed_iff, wellFormed_iff, conforms_core]
    refine and_congr_right fun _ => ⟨fun h c hc => ?_, fun h c hc => ?_⟩
    · rw [← ih _ (height_lt_of_mem_children hc) c rfl]
      exact h _ (mem_children_core.mpr ⟨c, hc, rfl⟩)
    · obtain ⟨d, hd, rfl⟩ := mem_children_core.mp hc
      rw [ih _ (height_lt_of_mem_children hd) d rfl]
      exact h d hd

/-- Trees with the same core are the same kinds of nodes. -/
theorem is_congr {t u : Tree} (h : t.core = u.core) {kinds : String → Bool} :
    t.Is kinds ↔ u.Is kinds := by
  rw [Is, Is, ← isOf_core t, ← isOf_core u, ← wellFormed_core t, ← wellFormed_core u, h]

/-! ### What keeps the core -/

/-- Changes of the records that keep their cores keep that of the tree. -/
theorem core_mapObjs {change : Tree → Tree}
    (h : ∀ label fields, (change (.obj label fields)).core = (obj label fields).core) (t : Tree) :
    (t.mapObjs change).core = t.core := by
  induction t using Tree.induction with
  | leaf t ht => rw [mapObjs_of_isLeaf ht]
  | list items ih =>
    simp only [mapObjs, core, mapObjsItems_eq, coreItems_eq, List.map_map]
    congr 1
    exact List.map_congr_left fun t ht => ih t ht
  | obj label fields ih =>
    rw [mapObjs, h, core, core, mapObjsFields_eq]
    congr 1
    induction fields with
    | nil => rfl
    | cons f rest ihr =>
      rw [List.map_cons, coreFields_cons, coreFields_cons,
        ihr fun f hf => ih f (List.mem_cons_of_mem _ hf), ih f List.mem_cons_self]

/-- New labels do not matter to the core. -/
theorem core_renewed (t : Tree) : t.renewed.core = t.core :=
  core_mapObjs (fun _ _ => rfl) t

/-- Giving out labels keeps the core. -/
theorem core_number (t : Tree) (next : Nat) : (t.number next).1.core = t.core := by
  have ofFields : ∀ (fields : List (String × Tree)) (next : Nat),
      (∀ f ∈ fields, ∀ n, (f.2.number n).1.core = f.2.core) →
        coreFields (numberFields next fields).1 = coreFields fields := by
    intro fields
    induction fields with
    | nil => exact fun _ _ => rfl
    | cons f rest ih =>
      intro next h
      rw [numberFields, coreFields_cons, coreFields_cons, h f List.mem_cons_self,
        ih _ fun f hf => h f (List.mem_cons_of_mem _ hf)]
  induction t using Tree.induction generalizing next with
  | leaf t ht => cases t <;> first | rfl | simp [isLeaf] at ht
  | list items ih =>
    rw [number, core, core]
    congr 1
    induction items generalizing next with
    | nil => rfl
    | cons t rest ihr =>
      rw [numberItems, coreItems, coreItems, ih t List.mem_cons_self,
        ihr (fun t ht => ih t (List.mem_cons_of_mem _ ht))]
  | obj label fields ih =>
    cases label with
    | zero => rw [number, core, core, ofFields fields _ ih]
    | succ label =>
      rw [number, core, core, ofFields fields _ ih]
      simp

end Tree

end Deminify
