import Mathlib.Data.List.Forall2
import Deminify.Proofs.Document.Spelling
import Deminify.Proofs.Interface.Statement

/-!
# The records of a tree that is changed

What becomes of the records of a tree when records with a label are edited and when new records are labelled.
An edit keeps a property of records if it keeps it where it touches them (`Deminify.Tree.forall_records_edit`),
and an edit of a record that has its label for itself changes the number of labels by that record alone
(`Deminify.Tree.count_labels_edit_of_once`). A field that is set is the only one to get another value
(`Deminify.Tree.get_edit_set`).
-/

namespace Deminify

section Fields

variable {α β : Type} {fields : List (String × α)} {key : String}

theorem map_putKey (g : α → β) (value : α) :
    (putKey fields key value).map (fun f => (f.1, g f.2)) =
      putKey (fields.map fun f => (f.1, g f.2)) key (g value) := by
  induction fields with
  | nil => rfl
  | cons f rest ih =>
    rw [putKey, List.map_cons, putKey]
    split
    · rw [List.map_cons]
    · rw [List.map_cons, ih]

theorem filter_putKey_of_ne {value : α} {p : String × α → Bool} (hp : ∀ value, p (key, value) = false) :
    (putKey fields key value).filter p = fields.filter p := by
  induction fields with
  | nil => simp [putKey, hp]
  | cons f rest ih =>
    rw [putKey]
    split
    · rename_i hf
      obtain ⟨k, v⟩ := f
      cases hf
      rw [List.filter_cons_of_neg (by simp [hp]), List.filter_cons_of_neg (by simp [hp])]
    · rw [List.filter_cons, List.filter_cons, ih]

end Fields

namespace Tree

/-! ### Edits -/

section Edit

variable {t r : Tree} {label l : Nat} {change : Tree → Tree}

/-- **What holds of all records of an edited tree**: what the edit of the parts of a record brings about,
and the change of a record with the label. -/
theorem forall_records_edit {P : Tree → Prop}
    (hparts : ∀ l fields, obj l fields ∈ t.records → l ≠ label → P (obj l (editFields label change fields)))
    (hchange : ∀ fields, obj label fields ∈ t.records →
      (∀ r ∈ recordsFields (editFields label change fields), P r) →
        ∀ r ∈ (change (obj label (editFields label change fields))).records, P r) :
    ∀ r ∈ (t.edit label change).records, P r := by
  induction t using Tree.induction with
  | leaf t ht =>
    intro r hr
    rw [edit_of_not_mem (by simp [labels_of_isLeaf ht]), records_of_isLeaf ht] at hr
    cases hr
  | list items ih =>
    intro r hr
    rw [edit, editItems_eq, records, recordsItems_eq, List.flatMap_map] at hr
    obtain ⟨u, hu, hr⟩ := List.mem_flatMap.mp hr
    have hsub : u.records ⊆ (list items).records := by
      rw [records, recordsItems_eq]
      exact fun v hv => List.mem_flatMap.mpr ⟨u, hu, hv⟩
    exact ih u hu (fun l fields h => hparts l fields (hsub h)) (fun fields h => hchange fields (hsub h)) r hr
  | obj l fields ih =>
    have hself : obj l fields ∈ (obj l fields).records := mem_records_self rfl
    have hfields : ∀ r ∈ recordsFields (editFields label change fields), P r := by
      intro r hr
      rw [editFields_eq, recordsFields_eq, List.flatMap_map] at hr
      obtain ⟨f, hf, hr⟩ := List.mem_flatMap.mp hr
      have hsub : f.2.records ⊆ (obj l fields).records := records_subset_of_mem_fields hf
      exact ih f hf (fun l fields h => hparts l fields (hsub h)) (fun fields h => hchange fields (hsub h)) r hr
    intro r hr
    rw [edit] at hr
    split at hr
    · rename_i hl
      subst hl
      exact hchange fields hself hfields r hr
    · rename_i hne
      rw [records] at hr
      rcases List.mem_cons.mp hr with rfl | hr
      · exact hparts l fields hself hne
      · exact hfields r hr

/-- The records of a record whose field is set. -/
theorem mem_records_set {value : Tree} {key : String} (ht : t.isObj = true) :
    r ∈ (t.set key value).records →
      r = t.set key value ∨ r ∈ recordsFields t.fields ∨ r ∈ value.records := by
  cases t with
  | obj l fields =>
    intro hr
    rw [set, records, recordsFields_eq] at hr
    rcases List.mem_cons.mp hr with rfl | hr
    · exact .inl rfl
    · obtain ⟨f, hf, hr⟩ := List.mem_flatMap.mp hr
      rcases mem_of_mem_putKey hf with hf | hf
      · exact .inr (.inl (recordsFields_eq fields ▸ List.mem_flatMap.mpr ⟨f, hf, hr⟩))
      · exact .inr (.inr (hf ▸ hr))
  | _ => cases ht

/-- Among parts of which one has a label, an edit there reaches that one. -/
theorem exists_split_of_once {α : Type} {f : α → Tree} {xs : List α} {x : α} (hx : x ∈ xs)
    (hl : label ∈ (f x).labels) (honce : (xs.flatMap fun y => (f y).labels).count label ≤ 1) :
    ∃ before after, xs = before ++ x :: after ∧ (f x).labels.count label ≤ 1 ∧
      ∀ y ∈ before ++ after, label ∉ (f y).labels := by
  obtain ⟨before, after, rfl⟩ := List.append_of_mem hx
  have hpos := List.count_pos_iff.mpr hl
  rw [List.flatMap_append, List.flatMap_cons, List.count_append, List.count_append] at honce
  refine ⟨before, after, rfl, by omega, fun y hy hm => ?_⟩
  have hother : 0 < ((before ++ after).flatMap fun y => (f y).labels).count label :=
    List.count_pos_iff.mpr (List.mem_flatMap.mpr ⟨y, hy, hm⟩)
  rw [List.flatMap_append, List.count_append] at hother
  omega

/-- **An edit of a record that has its label for itself** takes its labels away and puts those of the
changed record in. -/
theorem count_labels_edit_of_once (hr : r ∈ t.records) (hlabel : r.label = label)
    (honce : t.labels.count label ≤ 1) : (t.edit label change).labels.count l + r.labels.count l =
      t.labels.count l + (change r).labels.count l := by
  have hmem {u : Tree} (h : r ∈ u.records) : label ∈ u.labels := by
    rw [labels_eq_map_records]
    exact hlabel ▸ List.mem_map_of_mem h
  have hkept {α : Type} {f : α → Tree} {ys : List α} (h : ∀ y ∈ ys, label ∉ (f y).labels) :
      (ys.flatMap fun y => ((f y).edit label change).labels) = ys.flatMap fun y => (f y).labels :=
    List.flatMap_congr fun y hy => by rw [edit_of_not_mem (h y hy)]
  induction t using Tree.induction with
  | leaf t ht =>
    rw [records_of_isLeaf ht] at hr
    cases hr
  | list items ih =>
    rw [records, recordsItems_eq] at hr
    obtain ⟨u, hu, hru⟩ := List.mem_flatMap.mp hr
    rw [labels_list] at honce
    -- the label is inside one of the items, and the edit leaves the others as they are
    obtain ⟨before, after, rfl, hu', hrest⟩ :=
      exists_split_of_once (f := fun u => u) hu (hmem hru) honce
    have hedited := ih u hu hru hu'
    have hbefore : (before.flatMap fun y => (y.edit label change).labels) = before.flatMap labels :=
      hkept fun y hy => hrest y (List.mem_append_left _ hy)
    have hafter : (after.flatMap fun y => (y.edit label change).labels) = after.flatMap labels :=
      hkept fun y hy => hrest y (List.mem_append_right _ hy)
    rw [edit, editItems_eq, labels_list, labels_list, List.flatMap_map, List.flatMap_append,
      List.flatMap_cons, hbefore, hafter, List.flatMap_append, List.flatMap_cons]
    simp only [List.count_append]
    omega
  | obj l' fields ih =>
    rw [labels, labelsFields_eq, List.count_cons] at honce
    rw [records, recordsFields_eq] at hr
    rcases List.mem_cons.mp hr with rfl | hr
    · obtain rfl : l' = label := hlabel
      have hnot : l' ∉ labelsFields fields := by
        rw [labelsFields_eq]
        intro hm
        have hpos := List.count_pos_iff.mpr hm
        rw [if_pos (beq_self_eq_true l')] at honce
        omega
      rw [edit, if_pos rfl, editFields_of_not_mem hnot, Nat.add_comm]
    · obtain ⟨f, hf, hrf⟩ := List.mem_flatMap.mp hr
      have hpos : 0 < (fields.flatMap (·.2.labels)).count label :=
        List.count_pos_iff.mpr (List.mem_flatMap.mpr ⟨f, hf, hmem hrf⟩)
      have hne : l' ≠ label := fun he => by
        rw [if_pos (beq_iff_eq.mpr he)] at honce
        omega
      obtain ⟨before, after, rfl, hf', hrest⟩ :=
        exists_split_of_once (f := Prod.snd) hf (hmem hrf) (by omega)
      have hedited := ih f hf hrf hf'
      rw [edit, if_neg hne, labels, labels, labelsFields_eq, labelsFields_eq, editFields_eq,
        List.flatMap_map, List.flatMap_append, List.flatMap_cons,
        hkept (f := Prod.snd) fun y hy => hrest y (List.mem_append_left _ hy),
        hkept (f := Prod.snd) fun y hy => hrest y (List.mem_append_right _ hy), List.flatMap_append,
        List.flatMap_cons]
      simp only [List.count_cons, List.count_append]
      omega

end Edit

/-! ### Fields of an edited record -/

section Field

variable {t : Tree} {label : Nat} {key : String}

theorem get_edit_of_ne {change : Tree → Tree} (h : t.label ≠ label) (k : String) :
    (t.edit label change).get k = (t.get k).edit label change := by
  cases t with
  | obj l fields =>
    rw [label_obj] at h
    rw [edit, if_neg h, get, get, get?_obj, get?_obj, lookup_editFields]
    cases fields.lookup k <;> rfl
  | _ => rfl

theorem get_edit_set (value : Tree) {k : String} (hk : k ≠ key) :
    (t.edit label (·.set key value)).get k = (t.get k).edit label (·.set key value) := by
  by_cases h : t.label = label
  · cases t with
    | obj l fields =>
      rw [label_obj] at h
      rw [edit, if_pos h, get, get?_set rfl, if_neg hk, get?_obj, lookup_editFields, get, get?_obj]
      cases fields.lookup k <;> rfl
    | _ => rfl
  · exact get_edit_of_ne h k

theorem label_edit {change : Tree → Tree} (hchange : ∀ t, (change t).label = t.label) (t : Tree) :
    (t.edit label change).label = t.label := by
  cases t with
  | obj l fields =>
    rw [edit]
    split
    · rw [hchange, label_obj, label_obj]
    · rfl
  | _ => rfl

theorem isObj_edit {change : Tree → Tree} (hchange : ∀ t, (change t).isObj = t.isObj) (t : Tree) :
    (t.edit label change).isObj = t.isObj := by
  cases t with
  | obj l fields =>
    rw [edit]
    split
    · exact hchange _
    · rfl
  | _ => rfl

/-- A field of a record inside another shares no label with that one's own. -/
theorem count_labels_get_of_mem_records {r : Tree} (ht : t.isObj = true) (hr : r ∈ t.records) (key : String)
    (l : Nat) : (if t.label = l then 1 else 0) + (r.get key).labels.count l ≤ t.labels.count l := by
  cases t with
  | obj l' fields =>
    rw [records, recordsFields_eq] at hr
    rcases List.mem_cons.mp hr with rfl | hr
    · exact count_labels_get rfl key
    · obtain ⟨f, hf, hr⟩ := List.mem_flatMap.mp hr
      have hget := count_labels_get (l := l) (isObj_of_mem_records hr) key
      have hle := count_labels_of_mem_records hr l
      have hfield := count_le_count_flatMap (f := fun f : String × Tree => f.2.labels) hf l
      rw [label_obj, labels, labelsFields_eq, List.count_cons]
      simp only [beq_iff_eq]
      omega
  | _ => cases ht

end Field

/-! ### New labels -/

section Number

variable {t : Tree} {next : Nat}

theorem number_of_isLeaf (h : t.isLeaf = true) (next : Nat) : t.number next = (t, next) := by
  cases t <;> first | rfl | simp [isLeaf] at h

theorem numberFields_cons (f : String × Tree) (rest : List (String × Tree)) (next : Nat) :
    numberFields next (f :: rest) = ((f.1, (f.2.number next).1) :: (numberFields (f.2.number next).2 rest).1,
      (numberFields (f.2.number next).2 rest).2) := rfl

end Number

end Tree

end Deminify
