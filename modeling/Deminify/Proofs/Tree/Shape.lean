import Deminify.Proofs.Tree.Node
import Deminify.Proofs.Tree.Schema

/-!
# Well-formed trees

How well-formed trees are put together and taken apart. A tree is well formed when its root conforms
and its children are well formed (`Deminify.Tree.wellFormed_iff`). From that come the two lemmas that
everything else uses: a record with the right fields is a well-formed node of its kind
(`Deminify.Tree.is_of_fits`), and a well-formed node has each field of its kind, holding what it
should hold, well formed again (`Deminify.Tree.WellFormed.field`).
-/

namespace Deminify

namespace Tree

/-! ### Distinct keys -/

section DistinctKeys

variable {fields : List (String × Tree)} {key : String} {value : Tree}

theorem isShapeKey_of_holdsChildren (h : holdsChildren key = true) : isShapeKey key = true :=
  Bool.or_eq_true_iff.mpr (.inr h)

theorem DistinctKeys.of_nodup (h : (fields.map (·.1)).Nodup) : DistinctKeys fields :=
  h.sublist List.filter_sublist

theorem DistinctKeys.filter (h : DistinctKeys fields) (p : String × Tree → Bool) :
    DistinctKeys (fields.filter p) :=
  h.sublist ((List.filter_sublist.map _).filter _)

theorem DistinctKeys.putKey (h : DistinctKeys fields) : DistinctKeys (putKey fields key value) := by
  rw [DistinctKeys, keys_putKey]
  split
  · exact h
  · rename_i hk
    rw [List.filter_append, List.nodup_append]
    refine ⟨h, (by simp : [key].Nodup).sublist List.filter_sublist, fun a ha b hb => ?_⟩
    rintro rfl
    have hak : a = key := List.mem_singleton.mp (List.mem_filter.mp hb).1
    exact hk (hak ▸ (List.mem_filter.mp ha).1)

/-- Where keys differ, a field that is there is the one that is found. -/
theorem DistinctKeys.lookup (hd : DistinctKeys fields) (hk : isShapeKey key = true)
    (h : (key, value) ∈ fields) : fields.lookup key = some value := by
  induction fields with
  | nil => simp at h
  | cons f rest ih =>
    obtain ⟨k, v⟩ := f
    rw [lookup_cons_ite]
    rw [DistinctKeys, List.map_cons] at hd
    have hrest : DistinctKeys rest := hd.sublist ((List.sublist_cons_self _ _).filter _)
    rcases List.mem_cons.mp h with hm | hm
    · cases hm
      rw [if_pos rfl]
    · have hne : key ≠ k := by
        rintro rfl
        rw [List.filter_cons_of_pos hk, List.nodup_cons] at hd
        exact hd.1 (List.mem_filter.mpr ⟨List.mem_map.mpr ⟨_, hm, rfl⟩, hk⟩)
      rw [if_neg hne, ih hrest hm]

end DistinctKeys

/-! ### Well-formed nodes -/

/-- A node is well formed if it conforms and its children do. -/
theorem wellFormed_iff {t : Tree} :
    t.WellFormed ↔ t.conforms = true ∧ ∀ c ∈ t.children, c.WellFormed := by
  constructor
  · intro h
    exact ⟨h t (mem_subtree_self t), fun c hc n hn => h n (subtree_subset_of_mem_children hc hn)⟩
  · rintro ⟨ht, hc⟩ n hn
    rcases mem_subtree.mp hn with rfl | ⟨c, hm, hn⟩
    · exact ht
    · exact hc c hm n hn

/-- The children of a well-formed node are well formed. -/
theorem WellFormed.child {t c : Tree} (h : t.WellFormed) (hc : c ∈ t.children) : c.WellFormed :=
  (wellFormed_iff.mp h).2 c hc

@[simp] theorem isLeaf_null : null.isLeaf = true := rfl

@[simp] theorem isLeaf_bool {b : Bool} : (bool b).isLeaf = true := rfl

@[simp] theorem isLeaf_str {s : String} : (str s).isLeaf = true := rfl

/-- A well-formed node of one of the kinds. -/
def Is (kinds : String → Bool) (t : Tree) : Prop := t.isOf kinds = true ∧ t.WellFormed

theorem isOf_iff {kinds : String → Bool} {t : Tree} :
    t.isOf kinds = true ↔ ∃ kind, t.isObj = true ∧ t.get? "type" = some (.str kind) ∧ kinds kind = true := by
  rw [isOf, Bool.and_eq_true, Option.any_eq_true]
  constructor
  · rintro ⟨ho, kind, hk, hp⟩
    refine ⟨kind, ho, ?_, hp⟩
    obtain ⟨v, hv, hs⟩ := Option.bind_eq_some_iff.mp hk
    cases v <;> simp_all [str?]
  · rintro ⟨kind, ho, hk, hp⟩
    exact ⟨ho, kind, by simp [hk, str?], hp⟩

theorem kind_of_get? {t : Tree} {kind : String} (h : t.get? "type" = some (.str kind)) : t.kind = kind := by
  simp [Tree.kind, h, str?]

theorem isNode_of_isOf {kinds : String → Bool} {t : Tree} (h : t.isOf kinds = true) :
    t.isNode = true := by
  obtain ⟨kind, ho, hk, -⟩ := isOf_iff.mp h
  simp [isNode, ho, hk]

/-- A node is of the kinds that it is one of. -/
theorem kinds_of_isOf {kinds : String → Bool} {t : Tree} (h : t.isOf kinds = true) :
    kinds t.kind = true := by
  obtain ⟨kind, -, hk, hp⟩ := isOf_iff.mp h
  rwa [kind_of_get? hk]

theorem Is.isNode {kinds : String → Bool} {t : Tree} (h : t.Is kinds) : t.isNode = true :=
  isNode_of_isOf h.1

theorem Is.kinds {kinds : String → Bool} {t : Tree} (h : t.Is kinds) : kinds t.kind = true :=
  kinds_of_isOf h.1

/-- A node of some kinds is of more. -/
theorem Is.mono {p q : String → Bool} {t : Tree} (h : t.Is p) (hpq : ∀ k, p k = true → q k = true) :
    t.Is q := by
  obtain ⟨kind, ho, hk, hp⟩ := isOf_iff.mp h.1
  exact ⟨isOf_iff.mpr ⟨kind, ho, hk, hpq kind hp⟩, h.2⟩

/-- A node of a kind is of the kinds that this is one of. -/
theorem Is.widen {kinds : String → Bool} {kind : String} {t : Tree} (h : t.Is (· == kind))
    (hk : kinds kind = true) : t.Is kinds :=
  h.mono fun _ hp => beq_iff_eq.mp hp ▸ hk

end Tree

/-! ### What fields hold -/

/-- Whether a value is of the sort, the nodes in it being well formed. -/
def FieldSort.Holds : FieldSort → Tree → Prop
  | .text, t => ∃ s, t = .str s
  | .flag, t => ∃ b, t = .bool b
  | .leaf, t => t.isLeaf = true
  | .record, t => t.isObj = true ∧ t.isNode = false
  | .node kinds, t => t.Is kinds
  | .optional kinds, t => t = .null ∨ t.Is kinds
  | .nodes kinds, t => ∃ items, t = .list items ∧ ∀ item ∈ items, item.Is kinds
  | .holes kinds, t => ∃ items, t = .list items ∧ ∀ item ∈ items, item = .null ∨ item.Is kinds

namespace FieldSort

@[simp] theorem holds_text {s : String} : FieldSort.text.Holds (.str s) := ⟨s, rfl⟩

@[simp] theorem holds_flag {b : Bool} : FieldSort.flag.Holds (.bool b) := ⟨b, rfl⟩

@[simp] theorem holds_leaf {t : Tree} : FieldSort.leaf.Holds t ↔ t.isLeaf = true := Iff.rfl

@[simp] theorem holds_node {kinds : String → Bool} {t : Tree} :
    (FieldSort.node kinds).Holds t ↔ t.Is kinds := Iff.rfl

@[simp] theorem holds_optional {kinds : String → Bool} {t : Tree} :
    (FieldSort.optional kinds).Holds t ↔ t = .null ∨ t.Is kinds := Iff.rfl

@[simp] theorem holds_nodes {kinds : String → Bool} {items : List Tree} :
    (FieldSort.nodes kinds).Holds (.list items) ↔ ∀ item ∈ items, item.Is kinds := by
  simp [Holds]

@[simp] theorem holds_holes {kinds : String → Bool} {items : List Tree} :
    (FieldSort.holes kinds).Holds (.list items) ↔ ∀ item ∈ items, item = .null ∨ item.Is kinds := by
  simp [Holds]

@[simp] theorem holds_expression {t : Tree} : expression.Holds t ↔ t.Is isExpressionKind := Iff.rfl

@[simp] theorem holds_name {t : Tree} : name.Holds t ↔ t.Is (· == "Identifier") := Iff.rfl

@[simp] theorem holds_block {t : Tree} : block.Holds t ↔ t.Is (· == "BlockStatement") := Iff.rfl

/-- A field takes what it holds. -/
theorem Holds.takes {sort : FieldSort} {t : Tree} (h : sort.Holds t) : sort.takes t = true := by
  cases sort with
  | text => obtain ⟨s, rfl⟩ := h; rfl
  | flag => obtain ⟨b, rfl⟩ := h; rfl
  | leaf => exact h
  | record => simp [FieldSort.takes, h.1, h.2]
  | node kinds => exact h.1
  | optional kinds =>
    rcases h with rfl | h
    · rfl
    · simp [FieldSort.takes, h.1]
  | nodes kinds =>
    obtain ⟨items, rfl, h⟩ := h
    simpa [FieldSort.takes, Tree.isList, Tree.items] using fun i hi => (h i hi).1
  | holes kinds =>
    obtain ⟨items, rfl, h⟩ := h
    simp only [FieldSort.takes, Tree.isList, Tree.items, Bool.true_and, List.all_eq_true,
      Bool.or_eq_true]
    intro i hi
    rcases h i hi with rfl | hi
    · exact .inl rfl
    · exact .inr hi.1

/-- The nodes in a value of a sort are well formed. -/
theorem Holds.wellFormed {sort : FieldSort} {t c : Tree} (h : sort.Holds t) (hn : c.isNode = true)
    (hc : c = t ∨ c ∈ t.items) : c.WellFormed := by
  have leafless : ∀ {t : Tree}, t.isLeaf = true → ¬(c = t ∨ c ∈ t.items) := by
    rintro t ht (rfl | hc)
    · cases c <;> simp_all [Tree.isLeaf, Tree.isNode, Tree.isObj]
    · cases t <;> simp_all [Tree.isLeaf, Tree.items]
  have ofNode : ∀ {kinds : String → Bool} {t : Tree}, t.Is kinds → c = t ∨ c ∈ t.items →
      c.WellFormed := by
    rintro kinds t ht (rfl | hc)
    · exact ht.2
    · have := Tree.isObj_of_isNode ht.isNode
      cases t <;> simp_all [Tree.isObj, Tree.items]
  cases sort with
  | text => obtain ⟨s, rfl⟩ := h; exact absurd hc (leafless rfl)
  | flag => obtain ⟨b, rfl⟩ := h; exact absurd hc (leafless rfl)
  | leaf => exact absurd hc (leafless h)
  | record =>
    rcases hc with rfl | hc
    · simp [h.2] at hn
    · have := h.1
      cases t <;> simp_all [Tree.isObj, Tree.items]
  | node kinds => exact ofNode h hc
  | optional kinds =>
    rcases h with rfl | h
    · exact absurd hc (leafless rfl)
    · exact ofNode h hc
  | nodes kinds =>
    obtain ⟨items, rfl, h⟩ := h
    rcases hc with rfl | hc
    · simp [Tree.isNode, Tree.isObj] at hn
    · exact (h c hc).2
  | holes kinds =>
    obtain ⟨items, rfl, h⟩ := h
    rcases hc with rfl | hc
    · simp [Tree.isNode, Tree.isObj] at hn
    · rcases h c hc with rfl | h
      · simp [Tree.isNode, Tree.isObj] at hn
      · exact h.2

/-- What a field takes, with well-formed children, it holds. -/
theorem holds_of_takes {sort : FieldSort} {t : Tree} (h : sort.takes t = true)
    (hw : ∀ c, c.isNode = true → c = t ∨ c ∈ t.items → c.WellFormed) : sort.Holds t := by
  have ofItem : ∀ {kinds : String → Bool} {c : Tree}, c.isOf kinds = true → c = t ∨ c ∈ t.items →
      c.Is kinds := fun hk hc => ⟨hk, hw _ (Tree.isNode_of_isOf hk) hc⟩
  cases sort with
  | text => cases t <;> simp_all [FieldSort.takes, Tree.str?, Holds]
  | flag => cases t <;> simp_all [FieldSort.takes, Holds]
  | leaf => exact h
  | record => simpa [FieldSort.takes, Holds] using h
  | node kinds => exact ofItem h (.inl rfl)
  | optional kinds =>
    rcases Bool.or_eq_true_iff.mp h with h | h
    · cases t <;> simp_all [Tree.isNull, Holds]
    · exact .inr (ofItem h (.inl rfl))
  | nodes kinds =>
    obtain ⟨hl, h⟩ := Bool.and_eq_true_iff.mp h
    cases t with
    | list items => exact ⟨items, rfl, fun i hi => ofItem (List.all_eq_true.mp h i hi) (.inr hi)⟩
    | _ => simp [Tree.isList] at hl
  | holes kinds =>
    obtain ⟨hl, h⟩ := Bool.and_eq_true_iff.mp h
    cases t with
    | list items =>
      refine ⟨items, rfl, fun i hi => ?_⟩
      rcases Bool.or_eq_true_iff.mp (List.all_eq_true.mp h i hi) with hn | hk
      · exact .inl (by cases i <;> simp_all [Tree.isNull])
      · exact .inr (ofItem hk (.inr hi))
    | _ => simp [Tree.isList] at hl

end FieldSort

/-! ### Putting nodes together -/

/-- Whether the record has each of the fields, holding what it should. -/
@[simp] def Fills (fields : List (String × Tree)) : List (String × FieldSort) → Prop
  | [] => True
  | (key, sort) :: rest =>
    (∃ value, fields.lookup key = some value ∧ sort.Holds value) ∧ Fills fields rest

/-- Fields fill a specification if each is there and holds what it may. -/
theorem fills_iff {fields : List (String × Tree)} {spec : List (String × FieldSort)} :
    Fills fields spec ↔
      ∀ entry ∈ spec, ∃ value, fields.lookup entry.1 = some value ∧ entry.2.Holds value := by
  induction spec with
  | nil => simp
  | cons entry rest ih => rw [Fills, ih, List.forall_mem_cons]

/-- Whether the fields are those of the kind, each holding what it should. -/
structure Fits (kind : String) (fields : List (String × Tree)) : Prop where
  distinct : Tree.DistinctKeys fields
  known : ∃ spec, schema kind = some spec ∧ Fills fields spec ∧
    ∀ field ∈ fields, Tree.isKnownField spec field = true
  plain : kind = "Property" → Tree.keepsKey fields = true
  together : kind = "ImportDeclaration" → Tree.keepsImport fields = true

namespace Tree

/-- **A record with the fields of its kind is a well-formed node.** -/
theorem is_of_fits {kinds : String → Bool} {kind : String} {label : Nat}
    {fields : List (String × Tree)} (ht : fields.lookup "type" = some (.str kind))
    (hk : kinds kind = true) (h : Fits kind fields) : (obj label fields).Is kinds := by
  obtain ⟨hn, ⟨spec, hs, hf, hu⟩, hplain, htogether⟩ := h
  have kind_eq : (obj label fields).kind = kind := kind_of_get? ht
  refine ⟨isOf_iff.mpr ⟨kind, rfl, ht, hk⟩, wellFormed_iff.mpr ⟨?_, ?_⟩⟩
  · simp only [conforms, hasFields, kind_eq, hs, fields_obj, hn, decide_true, Bool.true_and,
      Bool.and_eq_true, List.all_eq_true, Bool.or_eq_true, bne_iff_ne, ne_eq]
    refine ⟨⟨⟨fun entry he => ?_, hu⟩, Decidable.not_or_of_imp hplain⟩, Decidable.not_or_of_imp htogether⟩
    obtain ⟨value, hv, hh⟩ := fills_iff.mp hf entry he
    simp [hv, hh.takes]
  · intro c hc
    obtain ⟨hnode, key, value, hm, hkey, hcv⟩ := mem_children.mp hc
    have hknown := hu _ hm
    rw [isKnownField, Bool.or_eq_true, Bool.or_eq_true] at hknown
    rcases hknown with (hl | hl) | hl
    · obtain ⟨sort, hsort⟩ := Option.isSome_iff_exists.mp hl
      obtain ⟨v, hv, hh⟩ := fills_iff.mp hf _ (mem_of_lookup hsort)
      rw [hn.lookup (isShapeKey_of_holdsChildren hkey) hm] at hv
      cases hv
      exact hh.wellFormed hnode hcv
    · simp [hkey] at hl
    · exact (FieldSort.holds_leaf.mpr hl).wellFormed hnode hcv

end Tree

/-- Whether the fields are those of the kind, apart from the kind itself and from the place in the
text. -/
def Suits (kind : String) (fields : List (String × Tree)) : Prop :=
  (∃ spec, schema kind = some spec ∧ Fills fields spec ∧ (fields.map (·.1)).Nodup ∧
    ∀ field ∈ fields, field.1 ≠ "type" ∧ field.1 ≠ "range" ∧ Tree.isKnownField spec field = true) ∧
  (kind = "Property" → Tree.keepsKey fields = true) ∧
  (kind = "ImportDeclaration" → Tree.keepsImport fields = true)

/-- **A node with the fields of its kind and a place in the text is well formed.** -/
theorem is_of_suits {kinds : String → Bool} {kind : String} {fields : List (String × Tree)}
    {label start stop : Nat} (hk : kinds kind = true) (hs : Suits kind fields) :
    (Tree.obj label (("type", .str kind) :: fields ++
      [("range", Tree.list [.int start, .int stop])])).Is kinds := by
  obtain ⟨⟨spec, hspec, hf, hn, hu⟩, hplain, htogether⟩ := hs
  refine Tree.is_of_fits (by simp) hk
    ⟨.of_nodup ?_, ⟨spec, hspec, fills_iff.mpr fun entry he => ?_, ?_⟩, fun hkind => ?_, fun hkind => ?_⟩
  · have htype : "type" ∉ fields.map (·.1) := fun hm => by
      obtain ⟨f, hf, he⟩ := List.mem_map.mp hm
      exact (hu f hf).1 he
    have hrange : "range" ∉ fields.map (·.1) := fun hm => by
      obtain ⟨f, hf, he⟩ := List.mem_map.mp hm
      exact (hu f hf).2.1 he
    simp only [List.cons_append, List.map_cons, List.map_append, List.map_nil, List.nodup_cons,
      List.mem_append, List.mem_singleton, List.nodup_append]
    refine ⟨fun hm => hm.elim htype (by decide), hn, by simp, fun a ha b hb => ?_⟩
    rintro rfl
    exact hrange (hb ▸ ha)
  · obtain ⟨value, hv, hh⟩ := fills_iff.mp hf entry he
    refine ⟨value, ?_, hh⟩
    have hne : entry.1 ≠ "type" := (hu _ (mem_of_lookup hv)).1
    rw [List.cons_append, lookup_cons_ite, if_neg hne, List.lookup_append, hv]
    rfl
  · intro field hm
    rcases List.mem_cons.mp hm with rfl | hm
    · exact Bool.or_eq_true_iff.mpr (.inl (Bool.or_eq_true_iff.mpr (.inr rfl)))
    · rcases List.mem_append.mp hm with hm | hm
      · exact (hu field hm).2.2
      · cases List.mem_singleton.mp hm
        exact Bool.or_eq_true_iff.mpr (.inl (Bool.or_eq_true_iff.mpr (.inr rfl)))
  · -- the kind and the place are under other keys
    simpa [Tree.keepsKey, List.lookup_append] using hplain hkind
  · simpa [Tree.keepsImport, List.lookup_append] using htogether hkind

namespace Tree

/-! ### Taking nodes apart -/

theorem WellFormed.conforms {t : Tree} (h : t.WellFormed) : t.conforms = true :=
  (wellFormed_iff.mp h).1

theorem WellFormed.hasFields {t : Tree} (h : t.WellFormed) : t.hasFields = true :=
  (Bool.and_eq_true_iff.mp h.conforms).1

section Fields

variable {t : Tree} (h : t.hasFields = true)

include h

theorem exists_schema_of_hasFields : ∃ spec, schema t.kind = some spec := by
  rw [hasFields] at h
  split at h
  · exact ⟨_, ‹_›⟩
  · simp at h

theorem distinct_of_hasFields : DistinctKeys t.fields := by
  rw [hasFields] at h
  split at h
  · simp only [Bool.and_eq_true, decide_eq_true_eq] at h
    exact h.1.1.1
  · simp at h

theorem kind_ne_of_hasFields : t.kind ≠ "" := by
  obtain ⟨spec, hs⟩ := exists_schema_of_hasFields h
  intro hk
  rw [hk] at hs
  simp [schema, schemaTable] at hs

theorem get?_type_of_hasFields : t.get? "type" = some (.str t.kind) := by
  have hk := kind_ne_of_hasFields h
  rw [kind] at hk ⊢
  cases ht : t.get? "type" with
  | none => simp [ht] at hk
  | some v => cases v <;> simp_all [str?]

theorem isObj_of_hasFields : t.isObj = true := by
  have := get?_type_of_hasFields h
  cases t <;> simp_all [get?, fields, isObj]

theorem isNode_of_hasFields : t.isNode = true := by
  simp [isNode, isObj_of_hasFields h, get?_type_of_hasFields h]

theorem isKind_iff_of_hasFields {kind : String} : t.isKind kind = true ↔ t.kind = kind := by
  simp [isKind, isObj_of_hasFields h, get?_type_of_hasFields h, str?]

/-- A node has each field of its kind, as far as can be seen without looking into the nodes there. -/
theorem takes_of_hasFields {spec : List (String × FieldSort)} (hs : schema t.kind = some spec) {key : String}
    {sort : FieldSort} (hm : (key, sort) ∈ spec) : ∃ value, t.get? key = some value ∧ sort.takes value = true := by
  simp only [hasFields, hs, Bool.and_eq_true, List.all_eq_true] at h
  exact Option.any_eq_true _ _ |>.mp (h.1.1.2 _ hm)

theorem known_of_hasFields {spec : List (String × FieldSort)} (hs : schema t.kind = some spec) {key : String}
    {value : Tree} (hv : t.get? key = some value) : isKnownField spec (key, value) = true := by
  simp only [hasFields, hs, Bool.and_eq_true, List.all_eq_true] at h
  exact h.1.2 _ (mem_of_lookup hv)

end Fields

theorem WellFormed.exists_schema {t : Tree} (h : t.WellFormed) : ∃ spec, schema t.kind = some spec :=
  exists_schema_of_hasFields h.hasFields

theorem WellFormed.distinct {t : Tree} (h : t.WellFormed) : DistinctKeys t.fields :=
  distinct_of_hasFields h.hasFields

theorem WellFormed.kind_ne {t : Tree} (h : t.WellFormed) : t.kind ≠ "" := kind_ne_of_hasFields h.hasFields

theorem WellFormed.get?_type {t : Tree} (h : t.WellFormed) : t.get? "type" = some (.str t.kind) :=
  get?_type_of_hasFields h.hasFields

theorem WellFormed.isObj {t : Tree} (h : t.WellFormed) : t.isObj = true := isObj_of_hasFields h.hasFields

theorem WellFormed.isKind_iff {t : Tree} (h : t.WellFormed) {kind : String} :
    t.isKind kind = true ↔ t.kind = kind := isKind_iff_of_hasFields h.hasFields

/-- A node is of some kinds if it is well formed and its kind is one of them. -/
theorem is_iff {kinds : String → Bool} {t : Tree} :
    t.Is kinds ↔ t.WellFormed ∧ kinds t.kind = true :=
  ⟨fun h => ⟨h.2, h.kinds⟩, fun h => ⟨isOf_iff.mpr ⟨_, h.1.isObj, h.1.get?_type, h.2⟩, h.1⟩⟩

theorem Is.isKind_eq {kind : String} {t : Tree} (h : t.Is (· == kind)) (other : String) :
    t.isKind other = (kind == other) := by
  rw [Bool.eq_iff_iff, h.2.isKind_iff, beq_iff_eq.mp h.kinds, beq_iff_eq]

theorem Is.of_isKind {kinds : String → Bool} {t : Tree} (h : t.Is kinds) {kind : String}
    (hk : t.isKind kind = true) : t.Is (· == kind) :=
  is_iff.mpr ⟨h.2, beq_iff_eq.mpr (h.2.isKind_iff.mp hk)⟩

/-- The fields of a kind are among those that can hold children. -/
theorem holdsChildren_of_schema {kind : String} {spec : List (String × FieldSort)}
    (hs : schema kind = some spec) {key : String} {sort : FieldSort} (hm : (key, sort) ∈ spec) :
    holdsChildren key = true := by
  have table : schemaTable.all (fun entry => entry.2.all fun field => holdsChildren field.1) = true := by
    decide +kernel
  exact List.all_eq_true.mp (List.all_eq_true.mp table _ (mem_of_lookup hs)) _ hm

/-- **A well-formed node has each field of its kind**, holding what it should. -/
theorem WellFormed.field {t : Tree} (h : t.WellFormed) {spec : List (String × FieldSort)}
    (hs : schema t.kind = some spec) {key : String} {sort : FieldSort} (hm : (key, sort) ∈ spec) :
    ∃ value, t.get? key = some value ∧ sort.Holds value := by
  obtain ⟨value, hv, ht⟩ := takes_of_hasFields h.hasFields hs hm
  refine ⟨value, hv, FieldSort.holds_of_takes ht fun c hn hcv => h.child (mem_children.mpr ?_)⟩
  exact ⟨hn, key, value, mem_of_lookup hv, holdsChildren_of_schema hs hm, hcv⟩

/-- What a field of a kind holds. -/
def fieldSort (kind key : String) : Option FieldSort := (schema kind).bind (·.lookup key)

/-- A field with a sort is one of the kind. -/
theorem exists_of_fieldSort {kind key : String} {sort : FieldSort}
    (hs : fieldSort kind key = some sort) : ∃ spec, schema kind = some spec ∧ (key, sort) ∈ spec := by
  obtain ⟨spec, hspec, hl⟩ := Option.bind_eq_some_iff.mp hs
  exact ⟨spec, hspec, mem_of_lookup hl⟩

theorem holdsChildren_of_fieldSort {kind key : String} {sort : FieldSort}
    (hs : fieldSort kind key = some sort) : holdsChildren key = true := by
  obtain ⟨spec, hspec, hm⟩ := exists_of_fieldSort hs
  exact holdsChildren_of_schema hspec hm

/-- What is held under a key of a well-formed node. -/
theorem WellFormed.held {t : Tree} (h : t.WellFormed) {key : String} {sort : FieldSort}
    (hs : fieldSort t.kind key = some sort) : sort.Holds (t.get key) := by
  obtain ⟨spec, hspec, hm⟩ := exists_of_fieldSort hs
  obtain ⟨value, hv, hi⟩ := h.field hspec hm
  rwa [get_of_get? hv]

/-- The nodes in a list field of a well-formed node. -/
theorem WellFormed.items {t : Tree} (h : t.WellFormed) {spec : List (String × FieldSort)}
    (hs : schema t.kind = some spec) {key : String} {kinds : String → Bool}
    (hm : (key, .nodes kinds) ∈ spec) : ∀ c ∈ (t.get key).items, c.Is kinds := by
  obtain ⟨value, hv, items, rfl, hi⟩ := h.field hs hm
  simpa [get_of_get? hv] using hi

/-- A field of a well-formed node is one of its kind, or holds no children. -/
theorem WellFormed.known {t : Tree} (h : t.WellFormed) {spec : List (String × FieldSort)}
    (hs : schema t.kind = some spec) {key : String} {value : Tree}
    (hv : t.get? key = some value) : isKnownField spec (key, value) = true := known_of_hasFields h.hasFields hs hv

/-- A key of a well-formed property that is not computed stands for itself. -/
theorem WellFormed.plain {t : Tree} (h : t.WellFormed) (hk : t.kind = "Property") :
    keepsKey t.fields = true := by
  obtain ⟨spec, hs⟩ := h.exists_schema
  have hconf := h.hasFields
  simp only [Tree.hasFields, hs, Bool.and_eq_true, Bool.or_eq_true, bne_iff_ne, ne_eq] at hconf
  exact hconf.2.resolve_left (not_not_intro hk)

/-- What a well-formed import binds can stand together, and its module is named by a text. -/
theorem WellFormed.together {t : Tree} (h : t.WellFormed) (hk : t.kind = "ImportDeclaration") :
    keepsImport t.fields = true := by
  have hconf := h.conforms
  rw [Tree.conforms, Bool.and_eq_true, Bool.or_eq_true, bne_iff_ne] at hconf
  exact hconf.2.resolve_left (not_not_intro hk)

/-! ### Changing nodes -/

/-- **A well-formed node can be changed into one of another kind**, by fields that fill the new
kind; the fields that stay must not be lacking in it. -/
theorem WellFormed.recast {t : Tree} (h : t.WellFormed) {spec spec' : List (String × FieldSort)}
    (hs : schema t.kind = some spec) {kinds : String → Bool} {kind : String}
    (hk : kinds kind = true) (hs' : schema kind = some spec') {label : Nat}
    {fields : List (String × Tree)} (hn : DistinctKeys fields)
    (ht : fields.lookup "type" = some (.str kind)) (hf : Fills fields spec')
    (hl : ∀ key value, fields.lookup key = some value → key = "type" ∨ (spec'.lookup key).isSome = true ∨
      t.get? key = some value ∧ ((spec.lookup key).isSome = true → (spec'.lookup key).isSome = true))
    (hp : kind = "Property" → keepsKey fields = true)
    (hi : kind = "ImportDeclaration" → keepsImport fields = true) : (obj label fields).Is kinds := by
  refine is_of_fits ht hk ⟨hn, ⟨spec', hs', hf, ?_⟩, hp, hi⟩
  rintro ⟨key, value⟩ hm
  rw [isKnownField, Bool.or_eq_true, Bool.or_eq_true]
  by_cases hkey : holdsChildren key = true
  · rcases hl key value (hn.lookup (isShapeKey_of_holdsChildren hkey) hm) with rfl | hsome | ⟨hget, himp⟩
    · exact .inl (.inr rfl)
    · exact .inl (.inl hsome)
    · have hknown := h.known hs hget
      rw [isKnownField, Bool.or_eq_true, Bool.or_eq_true] at hknown
      exact hknown.imp_left (Or.imp_left himp)
  · exact .inl (.inr (by simp [hkey]))

/-- A field of a well-formed node can be set to what it can hold. -/
theorem WellFormed.setField {t : Tree} (h : t.WellFormed) {spec : List (String × FieldSort)}
    (hs : schema t.kind = some spec) {key : String} {value : Tree}
    (hkey : ∃ sort, (key, sort) ∈ spec) (hv : ∀ sort, (key, sort) ∈ spec → sort.Holds value)
    (hp : t.kind ≠ "Property") (hi : t.kind ≠ "ImportDeclaration") : (t.set key value).Is (· == t.kind) := by
  obtain ⟨sort, hm⟩ := hkey
  have htype : "type" ≠ key := by
    rintro rfl
    exact absurd (holdsChildren_of_schema hs hm) (by decide)
  have hobj := h.isObj
  cases t with
  | obj label fields =>
    refine h.recast hs (by simp) hs h.distinct.putKey ?_
      (fills_iff.mpr fun entry he => ?_) (fun k' v hv' => ?_) (fun hk => absurd hk hp) fun hk => absurd hk hi
    · rw [lookup_putKey, if_neg htype]
      exact h.get?_type
    · rw [lookup_putKey]
      split
      · rename_i hk
        exact ⟨value, rfl, hv _ (hk ▸ he)⟩
      · exact h.field hs he
    · rw [lookup_putKey] at hv'
      split at hv'
      · rename_i hk
        refine .inr (.inl ?_)
        rw [hk, List.lookup_isSome_iff]
        exact ⟨_, hm, by simp⟩
      · exact .inr (.inr ⟨hv', id⟩)
  | _ => simp [Tree.isObj] at hobj

end Tree

end Deminify
