import Deminify.Proofs.Document.Place
import Deminify.Proofs.Interface.Outline

/-!
# Editing around the outline

A document is edited by label, and the outline of its program is touched only by edits of what is on
it. That can be told from the labels as long as those of the outline occur once
(`Deminify.Document.Outlined`): then what is found by another label has no part in the outline at all
(`Deminify.Document.Outlined.apart_get`), and what is found under a label of the outline is the very
node that was passed (`Deminify.Tree.exists_passed`). Every edit that the rules make keeps a document
outlined: setting a field, changing a list of statements, putting a node in the place of another.
-/

namespace Deminify

/-- The label is not on the outline. -/
def Off (o : List Passed) (l : Nat) : Prop := ∀ p ∈ o, p.label ≠ l

/-- An element of two parts of a list, of which it occurs in one only: the parts are the same. -/
theorem eq_of_count_flatMap_le_one {α β : Type} [BEq β] [LawfulBEq β] {f : α → List β} {l : List α}
    {a a' : α} {b : β} (ha : a ∈ l) (ha' : a' ∈ l) (hb : b ∈ f a) (hb' : b ∈ f a')
    (h : (l.flatMap f).count b ≤ 1) : a = a' := by
  induction l with
  | nil => cases ha
  | cons c rest ih =>
    rw [List.flatMap_cons, List.count_append] at h
    have hrest {d : α} (hd : d ∈ rest) (hbd : b ∈ f d) : 0 < (rest.flatMap f).count b :=
      List.count_pos_iff.mpr (List.mem_flatMap.mpr ⟨d, hd, hbd⟩)
    rcases List.mem_cons.mp ha with hac | har
    · rcases List.mem_cons.mp ha' with hac' | har'
      · rw [hac, hac']
      · have hone : 0 < (f c).count b := List.count_pos_iff.mpr (hac ▸ hb)
        have htwo := hrest har' hb'
        omega
    · rcases List.mem_cons.mp ha' with hac' | har'
      · have hone : 0 < (f c).count b := List.count_pos_iff.mpr (hac' ▸ hb')
        have htwo := hrest har hb
        omega
      · exact ih har har' (by omega)

namespace Tree

variable {kind key : String} {isItem : Bool} {t r : Tree} {l : Nat}

/-! ### What is on the outline -/

theorem records_of_isLeaf (h : t.isLeaf = true) : t.records = [] := by
  cases t <;> first | rfl | simp [isLeaf] at h

/-- A label occurs in a record at most as often as in the tree. -/
theorem count_labels_of_mem_records (h : r ∈ t.records) (l : Nat) :
    r.labels.count l ≤ t.labels.count l := by
  induction t using Tree.induction with
  | leaf t ht =>
    rw [records_of_isLeaf ht] at h
    cases h
  | list items ih =>
    rw [records, recordsItems_eq] at h
    obtain ⟨t, ht, h⟩ := List.mem_flatMap.mp h
    rw [labels_list]
    exact Nat.le_trans (ih t ht h) (count_le_count_flatMap ht l)
  | obj l' fields ih =>
    rw [records, recordsFields_eq] at h
    rcases List.mem_cons.mp h with rfl | h
    · exact Nat.le_refl _
    · obtain ⟨f, hf, h⟩ := List.mem_flatMap.mp h
      rw [labels, labelsFields_eq, List.count_cons]
      have hle := count_le_count_flatMap (f := fun f : String × Tree => f.2.labels) hf l
      exact Nat.le_trans (ih f hf h) (Nat.le_trans hle (Nat.le_add_right _ _))

theorem labels_subset_of_mem_records (h : r ∈ t.records) : r.labels ⊆ t.labels := fun l hl =>
  List.count_pos_iff.mp (Nat.lt_of_lt_of_le (List.count_pos_iff.mpr hl) (count_labels_of_mem_records h l))

theorem records_subset_of_mem_records (h : r ∈ t.records) : r.records ⊆ t.records := by
  induction t using Tree.induction with
  | leaf t ht =>
    rw [records_of_isLeaf ht] at h
    cases h
  | list items ih =>
    rw [records, recordsItems_eq] at h ⊢
    obtain ⟨t, ht, h⟩ := List.mem_flatMap.mp h
    exact fun u hu => List.mem_flatMap.mpr ⟨t, ht, ih t ht h hu⟩
  | obj l' fields ih =>
    rw [records, recordsFields_eq] at h ⊢
    rcases List.mem_cons.mp h with rfl | h
    · rw [records, recordsFields_eq]
      exact fun u hu => hu
    · obtain ⟨f, hf, h⟩ := List.mem_flatMap.mp h
      exact fun u hu => List.mem_cons_of_mem _ (List.mem_flatMap.mpr ⟨f, hf, ih f hf h hu⟩)

theorem mem_labels_self (h : t.isObj = true) : t.label ∈ t.labels := by
  cases t with
  | obj l fields => exact List.mem_cons_self
  | _ => simp [isObj] at h

/-- A label that occurs once belongs to one record. -/
theorem eq_of_label_of_count {r' : Tree} (hr : r ∈ t.records) (hr' : r' ∈ t.records)
    (hl : r.label = r'.label) (hcount : t.labels.count r.label ≤ 1) : r = r' := by
  rw [labels_eq_map_records, List.map_eq_flatMap] at hcount
  exact eq_of_count_flatMap_le_one hr hr' (List.mem_singleton.mpr rfl) (List.mem_singleton.mpr hl) hcount

/-- What is passed are records of the tree. -/
theorem mem_labels_of_passed (h : l ∈ (outlineAt kind key isItem t).map Passed.label) :
    l ∈ t.labels := by
  induction t using Tree.induction generalizing kind key isItem with
  | leaf t ht =>
    rw [outlineAt_of_isLeaf ht] at h
    cases h
  | list items ih =>
    cases isItem with
    | true => rw [outlineAt_list_item] at h; cases h
    | false =>
      rw [outlineAt_list, List.map_flatMap, List.mem_flatMap] at h
      obtain ⟨t, ht, h⟩ := h
      rw [labels_list]
      exact List.mem_flatMap.mpr ⟨t, ht, ih t ht h⟩
  | obj l' fields ih =>
    rw [outlineAt_of_isObj rfl] at h
    split at h
    · rw [List.map_cons, outlineFields_eq, List.map_flatMap] at h
      rw [labels, labelsFields_eq]
      rcases List.mem_cons.mp h with rfl | h
      · exact List.mem_cons_self
      · obtain ⟨f, hf, h⟩ := List.mem_flatMap.mp h
        exact List.mem_cons_of_mem _ (List.mem_flatMap.mpr ⟨f, hf, ih f hf h⟩)
    · cases h

/-- A record that is passed counts where it stands. -/
theorem leadsTo_of_passed (hobj : t.isObj = true)
    (h : l ∈ (outlineAt kind key isItem t).map Passed.label) :
    leadsTo kind key isItem t.kind = true ∧
      (l = t.label ∨ ∃ f ∈ t.fields, l ∈ (outlineAt t.kind f.1 false f.2).map Passed.label) := by
  rw [outlineAt_of_isObj hobj] at h
  split at h
  · rename_i hleads
    rw [List.map_cons, outlineFields_eq, List.map_flatMap] at h
    rcases List.mem_cons.mp h with h | h
    · exact ⟨hleads, .inl h⟩
    · exact ⟨hleads, .inr (List.mem_flatMap.mp h)⟩
  · cases h

/-- What is passed from a field of a record that counts is passed from the record. -/
theorem outlineAt_get_subset (h : leadsTo kind key isItem t.kind = true) (hobj : t.isObj = true)
    (key' : String) : outlineAt t.kind key' false (t.get key') ⊆ outlineAt kind key isItem t := by
  rw [outlineAt_of_isObj hobj, if_pos h, outlineFields_eq, get, get?]
  cases hl : t.fields.lookup key' with
  | none =>
    rw [Option.getD_none, outlineAt_of_isLeaf rfl]
    exact List.nil_subset _
  | some value =>
    exact fun e he => List.mem_cons_of_mem _ (List.mem_flatMap.mpr ⟨_, mem_of_lookup hl, he⟩)

/-- The records of a tree are records. -/
theorem isObj_of_mem_records (h : r ∈ t.records) : r.isObj = true := by
  induction t using Tree.induction with
  | leaf t ht =>
    rw [records_of_isLeaf ht] at h
    cases h
  | list items ih =>
    rw [records, recordsItems_eq] at h
    obtain ⟨t, ht, h⟩ := List.mem_flatMap.mp h
    exact ih t ht h
  | obj l' fields ih =>
    rw [records, recordsFields_eq] at h
    rcases List.mem_cons.mp h with rfl | h
    · rfl
    · obtain ⟨f, hf, h⟩ := List.mem_flatMap.mp h
      exact ih f hf h

/-- **A record that holds something of the outline is on the outline**, if that occurs once. -/
theorem exists_passed (hr : r ∈ t.records) (hl : l ∈ r.labels) (hcount : t.labels.count l ≤ 1)
    (h : l ∈ (outlineAt kind key isItem t).map Passed.label) :
    ∃ kind' key' isItem', l ∈ (outlineAt kind' key' isItem' r).map Passed.label ∧
      outlineAt kind' key' isItem' r ⊆ outlineAt kind key isItem t := by
  induction t using Tree.induction generalizing kind key isItem with
  | leaf t ht =>
    rw [outlineAt_of_isLeaf ht] at h
    cases h
  | list items ih =>
    rw [records, recordsItems_eq] at hr
    obtain ⟨u, hu, hru⟩ := List.mem_flatMap.mp hr
    cases isItem with
    | true => rw [outlineAt_list_item] at h; cases h
    | false =>
      rw [outlineAt_list] at h ⊢
      rw [List.map_flatMap] at h
      obtain ⟨v, hv, hlv⟩ := List.mem_flatMap.mp h
      rw [labels_list] at hcount
      obtain rfl := eq_of_count_flatMap_le_one hu hv (labels_subset_of_mem_records hru hl)
        (mem_labels_of_passed hlv) hcount
      obtain ⟨kind', key', isItem', hmem, hsub⟩ :=
        ih u hu hru (Nat.le_trans (count_le_count_flatMap hu l) hcount) hlv
      exact ⟨kind', key', isItem', hmem, fun e he => List.mem_flatMap.mpr ⟨u, hu, hsub he⟩⟩
  | obj l' fields ih =>
    rw [records] at hr
    rcases List.mem_cons.mp hr with rfl | hr
    · exact ⟨kind, key, isItem, h, fun e he => he⟩
    rw [recordsFields_eq] at hr
    obtain ⟨f, hf, hrf⟩ := List.mem_flatMap.mp hr
    have hlf : l ∈ f.2.labels := labels_subset_of_mem_records hrf hl
    rw [labels, labelsFields_eq, List.count_cons] at hcount
    obtain ⟨hleads, hll | ⟨g, hg, hlg⟩⟩ := leadsTo_of_passed rfl h
    · -- the label of the node itself would occur again below it
      have hbelow : 0 < (fields.flatMap (·.2.labels)).count l :=
        List.count_pos_iff.mpr (List.mem_flatMap.mpr ⟨f, hf, hlf⟩)
      rw [label_obj] at hll
      rw [if_pos (beq_iff_eq.mpr hll.symm)] at hcount
      omega
    · obtain rfl := eq_of_count_flatMap_le_one (f := fun f : String × Tree => f.2.labels) hf hg hlf
        (mem_labels_of_passed hlg) (by omega)
      have hle := count_le_count_flatMap (f := fun f : String × Tree => f.2.labels) hf l
      obtain ⟨kind', key', isItem', hmem, hsub⟩ := ih f hf hrf (by omega) hlg
      refine ⟨kind', key', isItem', hmem, fun e he => ?_⟩
      rw [outlineAt_of_isObj rfl, if_pos hleads, outlineFields_eq]
      exact List.mem_cons_of_mem _ (List.mem_flatMap.mpr ⟨f, hf, hsub he⟩)

/-- **An item of a list that is on the outline counts where it stands.** -/
theorem leadsTo_of_mem_items {c : Tree} {key' : String} {items : List Tree} (hr : r ∈ t.records)
    (hf : (key', .list items) ∈ r.fields) (hc : c ∈ items) (hobj : c.isObj = true)
    (hcount : t.labels.count c.label ≤ 1)
    (h : c.label ∈ (outlineAt kind key isItem t).map Passed.label) :
    leadsTo r.kind key' true c.kind = true := by
  have hself := mem_labels_self hobj
  have hlist : c.label ∈ (list items).labels := by
    rw [labels_list]
    exact List.mem_flatMap.mpr ⟨c, hc, hself⟩
  have hrobj : r.isObj = true := by
    cases r with
    | obj l fields => rfl
    | _ => simp [fields] at hf
  have hbelow : c.label ∈ r.fields.flatMap (·.2.labels) := List.mem_flatMap.mpr ⟨_, hf, hlist⟩
  have hlabels : r.labels = r.label :: r.fields.flatMap (·.2.labels) := by
    cases r with
    | obj l fields => rw [labels, labelsFields_eq]; rfl
    | _ => simp [isObj] at hrobj
  have hrcount := Nat.le_trans (count_labels_of_mem_records hr c.label) hcount
  rw [hlabels, List.count_cons] at hrcount
  obtain ⟨kind', key'', isItem', hmem, -⟩ :=
    exists_passed hr (hlabels ▸ List.mem_cons_of_mem _ hbelow) hcount h
  obtain ⟨-, hown | ⟨g, hg, hlg⟩⟩ := leadsTo_of_passed hrobj hmem
  · have hpos := List.count_pos_iff.mpr hbelow
    rw [if_pos (beq_iff_eq.mpr hown.symm)] at hrcount
    omega
  · have heq := eq_of_count_flatMap_le_one (f := fun f : String × Tree => f.2.labels) hf hg hlist
      (mem_labels_of_passed hlg) (by omega)
    subst heq
    rw [outlineAt_list, List.map_flatMap] at hlg
    obtain ⟨c', hc', hlc'⟩ := List.mem_flatMap.mp hlg
    have hle := count_le_count_flatMap (f := fun f : String × Tree => f.2.labels) hf c.label
    dsimp only at hle
    rw [labels_list] at hle
    obtain rfl := eq_of_count_flatMap_le_one hc hc' hself (mem_labels_of_passed hlc') (by omega)
    exact (leadsTo_of_passed hobj hlc').1

/-! ### What is not on it -/

/-- No record of the tree is on the outline. -/
def Apart (o : List Passed) (t : Tree) : Prop := ∀ p ∈ o, p.label ∉ t.labels

section Apart

variable {o : List Passed}

/-- What is apart has no labels of the outline. -/
theorem Apart.count (h : t.Apart o) {p : Passed} (hp : p ∈ o) : t.labels.count p.label = 0 :=
  List.count_eq_zero.mpr (h p hp)

theorem apart_of_isLeaf (h : t.isLeaf = true) : t.Apart o := by
  intro p _
  rw [labels_of_isLeaf h]
  exact List.not_mem_nil

/-- A list is apart if its items are. -/
theorem apart_list {items : List Tree} : (list items).Apart o ↔ ∀ t ∈ items, t.Apart o := by
  simp only [Apart, labels_list, List.mem_flatMap, not_exists, not_and]
  exact ⟨fun h t ht p hp => h p hp t ht, fun h p hp t ht => h t ht p hp⟩

/-- The records of what is apart are apart. -/
theorem Apart.of_mem_records (h : t.Apart o) (hr : r ∈ t.records) : r.Apart o :=
  fun p hp hl => h p hp (labels_subset_of_mem_records hr hl)

theorem Apart.of_mem_fields (h : t.Apart o) {f : String × Tree} (hf : f ∈ t.fields) : f.2.Apart o := by
  cases t with
  | obj l fields =>
    intro p hp hl
    refine h p hp ?_
    rw [labels, labelsFields_eq]
    exact List.mem_cons_of_mem _ (List.mem_flatMap.mpr ⟨f, hf, hl⟩)
  | _ => simp [fields] at hf

/-- What is apart holds nothing of the outline. -/
theorem Apart.get (h : t.Apart o) (key : String) : (t.get key).Apart o := by
  rw [Tree.get, get?]
  cases hl : t.fields.lookup key with
  | none => exact apart_of_isLeaf rfl
  | some value => exact h.of_mem_fields (mem_of_lookup hl)

theorem Apart.of_mem_items (h : t.Apart o) (hr : r ∈ t.items) : r.Apart o := by
  cases t with
  | list items => exact apart_list.mp h r hr
  | _ => simp [items] at hr

/-- The label of a record that is apart is not on the outline. -/
theorem Apart.off (h : t.Apart o) (hobj : t.isObj = true) : Off o t.label :=
  fun p hp heq => h p hp (heq ▸ mem_labels_self hobj)

/-- A record is apart if its label and its fields are. -/
theorem apart_obj {l : Nat} {fields : List (String × Tree)} (hl : Off o l)
    (hf : ∀ f ∈ fields, f.2.Apart o) : (obj l fields).Apart o := by
  intro p hp hmem
  rw [labels, labelsFields_eq] at hmem
  rcases List.mem_cons.mp hmem with heq | hmem
  · exact hl p hp heq
  · obtain ⟨f, hf', hl⟩ := List.mem_flatMap.mp hmem
    exact hf f hf' p hp hl

theorem Apart.off_label (h : t.Apart o) (hzero : Off o 0) : Off o t.label := by
  cases t with
  | obj l fields => exact h.off rfl
  | _ => exact hzero

/-- What is apart stays so under a label that is off the outline. -/
theorem Apart.relabel (h : t.Apart o) (hl : Off o l) : (t.relabel l).Apart o := by
  cases t with
  | obj l' fields => exact apart_obj hl fun f hf => h.of_mem_fields hf
  | _ => exact h

/-- What is apart stays so with a field that is. -/
theorem Apart.set (h : t.Apart o) {value : Tree} (hv : value.Apart o) (key : String) :
    (t.set key value).Apart o := by
  intro p hp
  rw [← List.count_eq_zero]
  have hle := @count_labels_set t value key p.label (by rw [hv.count hp]; exact Nat.zero_le _)
  rw [h.count hp] at hle
  omega

end Apart

end Tree

namespace Document

/-- **A document whose program has the given outline**, with labels that occur once in the program and
nowhere else. -/
structure Outlined (o : List Passed) (d : Document) : Prop where
  outline : d.root.outline = o
  once : ∀ p ∈ o, d.root.labels.count p.label ≤ 1
  loose : ∀ t ∈ d.loose, t.Apart o
  labelled : ∀ p ∈ o, 0 < p.label ∧ p.label < d.next
  distinct : ∀ p ∈ o, p.isDistinct = true

namespace Outlined

variable {o : List Passed} {d : Document} {label : Nat}

/-- New nodes have no label yet, and so none of the outline. -/
theorem off_zero (h : d.Outlined o) : Off o 0 := fun p hp => Nat.pos_iff_ne_zero.mp (h.labelled p hp).1

/-! ### Looking up -/

/-- What is found by a label is a record of the program, or has no part in the outline. -/
theorem exists_of_find? (h : d.Outlined o) {r : Tree} (hr : d.find? label = some r) :
    r.label = label ∧ r.isObj = true ∧ (r ∈ d.root.records ∨ r.Apart o) := by
  rcases Option.or_eq_some_iff.mp hr with hr | ⟨-, hr⟩
  · obtain ⟨hmem, hl, hobj⟩ := Tree.exists_of_find? hr
    exact ⟨hl, hobj, .inl hmem⟩
  · have hlist : (Tree.list d.loose).find? label = some r := by rw [Tree.find?, hr]
    obtain ⟨hmem, hl, hobj⟩ := Tree.exists_of_find? hlist
    exact ⟨hl, hobj, .inr ((Tree.apart_list.mpr h.loose).of_mem_records hmem)⟩

/-- A record of the program that holds something of the outline is noted in it. -/
theorem passed_mem (h : d.Outlined o) {r : Tree} (hr : r ∈ d.root.records) (hobj : r.isObj = true)
    {p : Passed} (hp : p ∈ o) (hmem : p.label ∈ r.labels) : r.passed ∈ o := by
  have houtline : p.label ∈ d.root.outline.map Passed.label := by
    rw [h.outline]
    exact List.mem_map.mpr ⟨p, hp, rfl⟩
  obtain ⟨kind, key, isItem, hpassed, hsub⟩ := Tree.exists_passed hr hmem (h.once p hp) houtline
  rw [← h.outline]
  refine hsub ?_
  rw [Tree.outlineAt_of_isObj hobj, if_pos (Tree.leadsTo_of_passed hobj hpassed).1]
  exact List.mem_cons_self

/-- A record of the program whose label is not on the outline is apart from it. -/
theorem apart_of_mem_records (h : d.Outlined o) {r : Tree} (hr : r ∈ d.root.records)
    (hobj : r.isObj = true) (hl : Off o r.label) : r.Apart o :=
  fun _ hp hmem => hl r.passed (h.passed_mem hr hobj hp hmem) rfl

/-- **What is found by a label that is not on the outline is apart from it.** -/
theorem apart_get (h : d.Outlined o) (hl : Off o label) : (d.get label).Apart o := by
  rw [Document.get]
  cases hr : d.find? label with
  | none => exact Tree.apart_of_isLeaf rfl
  | some r =>
    obtain ⟨rfl, hobj, hmem | hapart⟩ := h.exists_of_find? hr
    · exact h.apart_of_mem_records hmem hobj hl
    · exact hapart

/-- What is found off the outline is off it. -/
theorem off_label_get (h : d.Outlined o) (hl : Off o label) : Off o (d.get label).label := by
  rw [Document.get]
  cases hr : d.find? label with
  | none => exact h.off_zero
  | some r => rwa [Option.getD_some, (h.exists_of_find? hr).1]

/-- **What is found and has no kind of names is not on the outline.** -/
theorem off_of_kind (h : d.Outlined o) (hnamed : ∀ p ∈ o, isNamingKind p.kind = true) {r : Tree}
    (hr : r ∈ d.root.records) (hkind : isNamingKind r.kind = false) : Off o r.label := by
  intro p hp heq
  have hobj := Tree.isObj_of_mem_records hr
  have hpassed := hnamed _ (h.passed_mem hr hobj hp (heq ▸ Tree.mem_labels_self hobj))
  exact absurd (hkind.symm.trans hpassed) nofun

/-- A node with no kind of names is off the outline. -/
theorem off_of_find? (h : d.Outlined o) (hnamed : ∀ p ∈ o, isNamingKind p.kind = true) {r : Tree}
    (hr : d.find? label = some r) (hkind : isNamingKind r.kind = false) : Off o label := by
  obtain ⟨rfl, hobj, hmem | hapart⟩ := h.exists_of_find? hr
  · exact h.off_of_kind hnamed hmem hkind
  · exact hapart.off hobj

/-! ### Edits -/

/-- **An edit keeps a document outlined** if it keeps kinds, adds no label of the outline, and keeps
the outline of the record it changes. -/
theorem edit (h : d.Outlined o) {change : Tree → Tree} (hkinds : Tree.KeepsKinds change)
    (hcount : ∀ t, t.isObj = true → ∀ p ∈ o, (change t).labels.count p.label ≤ t.labels.count p.label)
    (hout : (∃ p ∈ o, p.label = label) → ∀ r ∈ d.root.records, r.label = label → ∀ kind key isItem,
      Tree.outlineAt kind key isItem r ⊆ o →
        Tree.outlineAt kind key isItem (change r) = Tree.outlineAt kind key isItem r) :
    (d.edit label change).Outlined o where
  outline := by
    rw [← h.outline]
    by_cases hl : ∃ p ∈ o, p.label = label
    · obtain ⟨p, hp, rfl⟩ := hl
      refine Tree.outlineAt_edit_of_mem hkinds (h.once p hp) fun r hr hrl kind key isItem hsub => ?_
      exact hout ⟨p, hp, rfl⟩ r hr hrl kind key isItem (h.outline ▸ hsub)
    · refine Tree.outlineAt_edit_of_not_mem hkinds _ fun hmem => hl ?_
      obtain ⟨p, hp, hpl⟩ := List.mem_map.mp hmem
      exact ⟨p, h.outline ▸ hp, hpl⟩
  once p hp := Nat.le_trans (Tree.count_labels_edit (fun t ht _ => hcount t ht p hp) _) (h.once p hp)
  loose := by
    intro t ht p hp
    obtain ⟨u, hu, rfl⟩ := List.mem_map.mp ht
    have hle := Tree.count_labels_edit (fun t ht (_ : t.label = label) => hcount t ht p hp) u
    rw [(h.loose u hu).count hp] at hle
    exact List.count_eq_zero.mp (by omega)
  labelled := h.labelled
  distinct := h.distinct

/-- A field that exports nothing may be set, and so may any field off the outline. -/
theorem set (h : d.Outlined o) {key : String} {value : Tree} (hv : value.Apart o)
    (hkey : (∀ kind, isExportKey kind key = false) ∨ Off o label) (htype : key ≠ "type")
    (hname : key ≠ "name") : (d.set label key value).Outlined o := by
  refine h.edit (fun t ht => ⟨by rwa [Tree.isObj_set], Tree.kind_set htype⟩) (fun t _ p hp => ?_) ?_
  · refine Tree.count_labels_set ?_
    rw [hv.count hp]
    exact Nat.zero_le _
  · rintro ⟨p, hp, hl⟩ r - - kind key' isItem -
    rcases hkey with hkey | hoff
    · exact Tree.outlineAt_set_of_not_isExportKey (hkey r.kind) htype (fun hk => absurd hk hname) kind key' isItem
    · exact absurd hl (hoff p hp)

/-- A field of a record of the program may be set to a value with the same outline, and that needs to
be shown only if the record is on the outline. -/
theorem outlineAt_set_of_leadsTo {r value : Tree} {key : String} (hobj : r.isObj = true)
    (htype : key ≠ "type") (hname : key = "name" → value.str? = (r.get "name").str?)
    (h : isExportKey r.kind key = true → Tree.outlineAt r.kind key false (r.get key) ⊆ o →
      Tree.outlineAt r.kind key false value = Tree.outlineAt r.kind key false (r.get key))
    {kind key' : String} {isItem : Bool} (hsub : Tree.outlineAt kind key' isItem r ⊆ o) :
    Tree.outlineAt kind key' isItem (r.set key value) = Tree.outlineAt kind key' isItem r := by
  cases hexport : isExportKey r.kind key with
  | false => exact Tree.outlineAt_set_of_not_isExportKey hexport htype hname _ _ _
  | true =>
    by_cases hleads : leadsTo kind key' isItem r.kind = true
    · have hget : Tree.outlineAt r.kind key false (r.get key) ⊆ o :=
        fun _ hp => hsub (Tree.outlineAt_get_subset hleads hobj key hp)
      exact Tree.outlineAt_set (h hexport hget) htype hname _ _ _
    · rw [Tree.outlineAt_of_isObj (by rwa [Tree.isObj_set]), Tree.outlineAt_of_isObj hobj,
        Tree.kind_set htype, if_neg hleads, if_neg hleads]

theorem items_labels_le (t : Tree) (l : Nat) : (Tree.list t.items).labels.count l ≤ t.labels.count l := by
  cases t with
  | list items => exact Nat.le_refl _
  | _ => exact Nat.zero_le _

/-- **A list of statements may be changed** in a way that adds no label of the outline and keeps the
outline of statements. -/
theorem editStatements (h : d.Outlined o) {key : String} (hkey : key = "body" ∨ key = "consequent")
    {change : List Tree → List Tree}
    (hcount : ∀ items, ∀ p ∈ o, (Tree.list (change items)).labels.count p.label ≤
      (Tree.list items).labels.count p.label)
    (hout : ∀ items, Tree.statementOutline items ⊆ o →
      Tree.statementOutline (change items) = Tree.statementOutline items) :
    (d.editList label key change).Outlined o := by
  have htype : key ≠ "type" := by rcases hkey with rfl | rfl <;> decide
  have hname : key ≠ "name" := by rcases hkey with rfl | rfl <;> decide
  refine h.edit (fun t ht => ⟨by rwa [Tree.isObj_set], Tree.kind_set htype⟩) (fun t _ p hp => ?_) ?_
  · exact Tree.count_labels_set (Nat.le_trans (hcount _ p hp) (items_labels_le _ _))
  · intro _ r hr _ kind key' isItem hsub
    refine outlineAt_set_of_leadsTo (Tree.isObj_of_mem_records hr) htype (fun hk => absurd hk hname)
      (fun hexport hget => ?_) hsub
    obtain ⟨hkind, rfl⟩ := Tree.kind_eq_program hkey hexport
    rw [hkind, Tree.outlineAt_body] at hget ⊢
    rw [Tree.outlineAt_body]
    exact hout _ hget

/-- A list off the outline may be changed in a way that adds no label of the outline. -/
theorem editList_of_off (h : d.Outlined o) (hoff : Off o label) {key : String}
    (htype : key ≠ "type") {change : List Tree → List Tree}
    (hcount : ∀ items, ∀ p ∈ o, (Tree.list (change items)).labels.count p.label ≤
      (Tree.list items).labels.count p.label) : (d.editList label key change).Outlined o := by
  refine h.edit (fun t ht => ⟨by rwa [Tree.isObj_set], Tree.kind_set htype⟩) (fun t _ p hp => ?_) ?_
  · exact Tree.count_labels_set (Nat.le_trans (hcount _ p hp) (items_labels_le _ _))
  · rintro ⟨p, hp, hl⟩
    exact absurd hl (hoff p hp)

/-! ### New nodes -/

/-- New nodes get labels that are not on the outline. -/
theorem adopt (h : d.Outlined o) {t : Tree} (ht : t.Apart o) :
    (d.adopt t).1.Apart o ∧ (d.adopt t).2.Outlined o := by
  have hgiven (p : Passed) (hp : p ∈ o) := t.givenOut_number
    (Nat.lt_trans (h.labelled p hp).1 (h.labelled p hp).2) p.label
  constructor
  · intro p hp
    have hsame := (hgiven p hp).other (Nat.pos_iff_ne_zero.mp (h.labelled p hp).1)
      (.inl (h.labelled p hp).2)
    rw [ht.count hp] at hsame
    exact List.count_eq_zero.mp hsame
  · exact ⟨h.outline, h.once, h.loose,
      fun p hp => ⟨(h.labelled p hp).1, Nat.lt_of_lt_of_le (h.labelled p hp).2 (hgiven p hp).le⟩, h.distinct⟩

/-- What is apart may be kept aside. -/
theorem keep (h : d.Outlined o) {t : Tree} (ht : t.Apart o) : (d.keep t).Outlined o where
  outline := h.outline
  once := h.once
  loose := by
    intro u hu
    rcases List.mem_append.mp hu with hu | hu
    · exact h.loose u hu
    · rw [List.mem_singleton.mp hu]
      exact ht
  labelled := h.labelled
  distinct := h.distinct

/-! ### Places -/

/-- Whether nodes of the kind are passed only where all nodes are. -/
def isOutsider (kind : String) : Bool :=
  exportParts.all fun part => part.2.2.2.all fun kinds => !kinds.contains kind

/-- Where an outsider counts, everything does. -/
theorem leadsTo_of_isOutsider {kind key part : String} {isItem : Bool} (h : isOutsider part = true)
    (hleads : leadsTo kind key isItem part = true) (other : String) :
    leadsTo kind key isItem other = true := by
  simp only [leadsTo, List.any_eq_true, Bool.and_eq_true] at hleads ⊢
  obtain ⟨⟨k, f, inList, parts⟩, hmem, hplace, hpart⟩ := hleads
  refine ⟨_, hmem, hplace, ?_⟩
  cases parts with
  | none => rfl
  | some kinds =>
    have hnot := List.all_eq_true.mp h _ hmem
    simp only [Option.all_some] at hnot hpart
    rw [hpart] at hnot
    cases hnot

theorem flatMap_set {α β : Type} {f : α → List β} {l : List α} {i : Nat} {a b : α} (h : l[i]? = some a)
    (hf : f b = f a) : (l.set i b).flatMap f = l.flatMap f := by
  induction l generalizing i with
  | nil => rfl
  | cons c rest ih =>
    cases i with
    | zero =>
      cases h
      rw [List.set_cons_zero, List.flatMap_cons, List.flatMap_cons, hf]
    | succ i => rw [List.set_cons_succ, List.flatMap_cons, List.flatMap_cons, ih h]

/-- Where the naming keys differ, a field under one of them is the one that is found. -/
theorem get_of_mem_fields {r value : Tree} {key : String} (hd : r.namingKeys.Nodup)
    (hkey : Tree.isNamingKey r.kind key = true) (h : (key, value) ∈ r.fields) : r.get key = value := by
  refine Tree.get_of_get? ?_
  rw [Tree.get?]
  rw [Tree.namingKeys] at hd
  generalize r.fields = fields at hd h
  induction fields with
  | nil => cases h
  | cons f rest ih =>
    obtain ⟨k, v⟩ := f
    rw [lookup_cons_ite]
    rw [List.map_cons] at hd
    rcases List.mem_cons.mp h with hm | hm
    · cases hm
      rw [if_pos rfl]
    · have hne : key ≠ k := by
        rintro rfl
        rw [List.filter_cons_of_pos hkey, List.nodup_cons] at hd
        exact hd.1 (List.mem_filter.mpr ⟨List.mem_map.mpr ⟨_, hm, rfl⟩, hkey⟩)
      rw [if_neg hne]
      exact ih (hd.sublist ((List.sublist_cons_self _ _).filter _)) hm

/-- **The node in a slot may be replaced by an outsider**, if it is not on the outline itself. -/
theorem outlineAt_setSlot {r c new : Tree} {slot : Slot} (hd : r.namingKeys.Nodup)
    (hholds : r.HoldsAt slot c) (hc : c.isObj = true) (hoff : Off o c.label)
    (hobj : new.isObj = true) (hnew : isOutsider new.kind = true) (htype : slot.key ≠ "type")
    {kind key : String} {isItem : Bool} (hsub : Tree.outlineAt kind key isItem r ⊆ o) :
    Tree.outlineAt kind key isItem (r.setSlot slot new) = Tree.outlineAt kind key isItem r := by
  -- neither the old node nor the new one is passed
  have hold {key : String} {isItem : Bool} (h : Tree.outlineAt r.kind key isItem c ⊆ o) :
      leadsTo r.kind key isItem c.kind = false := by
    rw [Bool.eq_false_iff]
    intro hleads
    refine hoff c.passed (h ?_) rfl
    rw [Tree.outlineAt_of_isObj hc, if_pos hleads]
    exact List.mem_cons_self
  have hnone {key : String} {isItem : Bool} (h : Tree.outlineAt r.kind key isItem c ⊆ o) :
      Tree.outlineAt r.kind key isItem new = Tree.outlineAt r.kind key isItem c := by
    have hnot : leadsTo r.kind key isItem new.kind = false := by
      rw [Bool.eq_false_iff]
      intro hleads
      have := leadsTo_of_isOutsider hnew hleads c.kind
      rw [hold h] at this
      cases this
    rw [Tree.outlineAt_of_isObj hobj, Tree.outlineAt_of_isObj hc, hnot, hold h]
    rfl
  have hr := hholds.isObj
  have hname (value : Tree) (h : slot.key = "name") (hf : (slot.key, value) ∈ r.fields) :
      r.get "name" = value := by
    rw [h] at hf
    exact get_of_mem_fields hd (by simp [Tree.isNamingKey]) hf
  rw [Tree.setSlot]
  cases hindex : slot.index with
  | none =>
    rw [Tree.HoldsAt, hindex] at hholds
    refine outlineAt_set_of_leadsTo hr htype (fun h => ?_) (fun hexport hget => ?_) hsub
    · rw [hname c h hholds, Tree.str?_of_isObj hobj, Tree.str?_of_isObj hc]
    · have hkey : Tree.isNamingKey r.kind slot.key = true := by rw [Tree.isNamingKey, hexport]; rfl
      rw [get_of_mem_fields hd hkey hholds] at hget ⊢
      exact hnone hget
  | some i =>
    rw [Tree.HoldsAt, hindex] at hholds
    obtain ⟨items, hf, hi⟩ := hholds
    refine outlineAt_set_of_leadsTo hr htype (fun h => ?_) (fun hexport hget => ?_) hsub
    · rw [hname _ h hf]
      rfl
    · have hkey : Tree.isNamingKey r.kind slot.key = true := by rw [Tree.isNamingKey, hexport]; rfl
      rw [get_of_mem_fields hd hkey hf, Tree.outlineAt_list] at hget
      rw [get_of_mem_fields hd hkey hf, Tree.outlineAt_list, Tree.outlineAt_list, Tree.items_list]
      refine flatMap_set hi (hnone fun e he => hget ?_)
      exact List.mem_flatMap.mpr ⟨c, List.mem_of_getElem? hi, he⟩

theorem count_flatMap_set_le {α β : Type} [BEq β] {f : α → List β} {b : α} {x : β} {l : List α} {i : Nat}
    (h : ∀ a, l[i]? = some a → (f b).count x ≤ (f a).count x) :
    ((l.set i b).flatMap f).count x ≤ (l.flatMap f).count x := by
  induction l generalizing i with
  | nil => exact Nat.le_refl _
  | cons c rest ih =>
    cases i with
    | zero =>
      rw [List.set_cons_zero, List.flatMap_cons, List.flatMap_cons, List.count_append, List.count_append]
      exact Nat.add_le_add_right (h c rfl) _
    | succ i =>
      rw [List.set_cons_succ, List.flatMap_cons, List.flatMap_cons, List.count_append, List.count_append]
      exact Nat.add_le_add_left (ih h) _

theorem keepsKinds_setSlot {slot : Slot} (h : slot.key ≠ "type") (new : Tree) :
    Tree.KeepsKinds (·.setSlot slot new) := by
  intro t ht
  dsimp only
  rw [Tree.setSlot]
  split
  · exact ⟨by rwa [Tree.isObj_set], Tree.kind_set h⟩
  · exact ⟨by rwa [Tree.isObj_set], Tree.kind_set h⟩

theorem count_labels_setSlot {t new : Tree} {slot : Slot} (hnew : new.Apart o) {p : Passed} (hp : p ∈ o) :
    (t.setSlot slot new).labels.count p.label ≤ t.labels.count p.label := by
  rw [Tree.setSlot]
  split
  · refine Tree.count_labels_set ?_
    rw [hnew.count hp]
    exact Nat.zero_le _
  · rename_i i _
    refine Tree.count_labels_set (Nat.le_trans ?_ (items_labels_le _ _))
    rw [Tree.labels_list, Tree.labels_list]
    exact count_flatMap_set_le fun a _ => by rw [hnew.count hp]; exact Nat.zero_le _

/-- **A node may be put in the place of another** if that is not on the outline and the new one is an
outsider. -/
theorem replaceAt (h : d.Outlined o) {places places' : Array Place} {i : Nat} {new : Tree} {d' : Document}
    (hr : d.replaceAt places i new = .ok (d', places'))
    (hoff : Off o (placeAt places i).node) (htype : (placeAt places i).key ≠ some "type")
    (hobj : new.isObj = true) (hnew : new.Apart o) (hkind : isOutsider new.kind = true) :
    d'.Outlined o ∧ places' = places.modify i fun place => { place with node := new.label } := by
  obtain ⟨⟨owner, slot⟩, hlocate, hr⟩ := bind_eq_ok.mp hr
  cases hr
  obtain ⟨label, found, r, c, hfind, hmem, hl, hholds, hc, hnode, hkey⟩ := exists_of_locate hlocate
  have hslot : slot.key ≠ "type" := by
    rintro heq
    rcases hkey with hkey | hkey
    · cases hplace : (placeAt places i).key with
      | none => simp [hplace, heq] at hkey
      | some key =>
        rw [hplace, Option.getD_some, heq] at hkey
        exact htype (hkey ▸ hplace)
    · rw [heq] at hkey
      cases hkey
  refine ⟨keep (h.edit (keepsKinds_setSlot hslot new) ?_ ?_) (h.apart_get hoff), rfl⟩
  · exact fun t _ p hp => count_labels_setSlot hnew hp
  · rintro ⟨p, hp, rfl⟩ r' hr' hl' kind key isItem hsub
    -- the record that was located is the one on the outline
    obtain ⟨-, -, hfound | hfound⟩ := h.exists_of_find? hfind
    · have hmem' := Tree.records_subset_of_mem_records hfound hmem
      obtain rfl := Tree.eq_of_label_of_count hmem' hr' (hl.trans hl'.symm) (hl ▸ h.once p hp)
      have hpassed := h.passed_mem hr' hholds.isObj hp (hl ▸ Tree.mem_labels_self hholds.isObj)
      have hd : r.namingKeys.Nodup := of_decide_eq_true (h.distinct _ hpassed)
      exact outlineAt_setSlot hd hholds hc (fun q hq => hnode ▸ hoff q hq) hobj hkind hslot hsub
    · exact absurd hl.symm ((hfound.of_mem_records hmem).off hholds.isObj _ hp)

end Outlined

/-- **The document of a tree is outlined**, if its labels have been given out once each. -/
theorem outlined_ofTree {t : Tree} {next : Nat}
    (h : ∀ l, t.labels.count l ≤ 1 ∧ (0 < t.labels.count l → 0 < l ∧ l < next) ∧ 0 < next)
    (hd : ∀ p ∈ t.outline, p.isDistinct = true) :
    (ofTree t next).Outlined (ofTree t next).root.outline := by
  have hcount (l : Nat) : (ofTree t next).root.labels.count l ≤ 1 ∧
      (0 < (ofTree t next).root.labels.count l → 0 < l ∧ l < (ofTree t next).next) := by
    obtain ⟨hone, hlt, hnext⟩ := h l
    obtain ⟨hle, hz, hg, ho⟩ := t.givenOut_number hnext l
    rw [ofTree]
    dsimp only
    omega
  refine ⟨rfl, fun p _ => (hcount p.label).1, nofun, fun p hp => (hcount p.label).2 ?_, fun p hp => ?_⟩
  · exact List.count_pos_iff.mpr (Tree.mem_labels_of_passed (List.mem_map_of_mem hp))
  · have hfaces : (ofTree t next).root.outline.map Passed.face = t.outline.map Passed.face :=
      Tree.outline_congr (Tree.core_number t next)
    obtain ⟨q, hq, heq⟩ := List.mem_map.mp (hfaces ▸ List.mem_map_of_mem hp)
    rw [← hd q hq]
    exact congrArg (·.2.2) heq.symm

end Document

end Deminify
