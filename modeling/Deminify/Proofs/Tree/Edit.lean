import Deminify.Document
import Deminify.Proofs.Tree.Respell

/-!
# Edits by label

An edit by label changes the records with that label and nothing else: where the label does not occur,
nothing happens (`Deminify.Tree.edit_of_not_mem`). What is looked up by label is a record of the tree
(`Deminify.Tree.exists_of_find?`). How often a label occurs is counted, as when labels are given out: a
change that adds no label to the records it is made to adds none to the tree
(`Deminify.Tree.count_labels_edit`).
-/

namespace Deminify

namespace Tree

theorem str?_of_isObj {t : Tree} (h : t.isObj = true) : t.str? = none := by
  cases t with
  | obj l fields => rfl
  | _ => simp [isObj] at h

theorem labelsFields_eq (fields : List (String × Tree)) :
    labelsFields fields = fields.flatMap (·.2.labels) := by
  induction fields with
  | nil => rfl
  | cons f rest ih => rw [labelsFields_cons, ih, List.flatMap_cons]

/-- What occurs in a part occurs at least as often in the whole. -/
theorem count_le_count_flatMap {α β : Type} [BEq β] {f : α → List β} {l : List α} {a : α} (h : a ∈ l)
    (b : β) : (f a).count b ≤ (l.flatMap f).count b := by
  rw [List.flatMap_def]
  exact (List.sublist_flatten_of_mem (List.mem_map_of_mem h)).count_le b

section Edit

variable {label : Nat} {change : Tree → Tree}

theorem editItems_eq (items : List Tree) :
    editItems label change items = items.map (edit label change) := by
  induction items with
  | nil => rfl
  | cons t rest ih => rw [editItems, ih, List.map_cons]

theorem editFields_eq (fields : List (String × Tree)) :
    editFields label change fields = fields.map fun f => (f.1, f.2.edit label change) := by
  induction fields with
  | nil => rfl
  | cons f rest ih => rw [editFields, ih, List.map_cons]

/-- An edit by label is a change of all records that looks at their labels. -/
theorem edit_eq_mapObjs (t : Tree) :
    t.edit label change = t.mapObjs fun r => if r.label = label then change r else r := by
  induction t using Tree.induction with
  | leaf t ht => cases t <;> first | rfl | simp [isLeaf] at ht
  | list items ih =>
    rw [edit, mapObjs, editItems_eq, mapObjsItems_eq]
    congr 1
    exact List.map_congr_left ih
  | obj l fields ih =>
    have hfields : fields.map (fun f => (f.1, f.2.edit label change)) = fields.map fun f =>
        (f.1, f.2.mapObjs fun r => if r.label = label then change r else r) :=
      List.map_congr_left fun f hf => by rw [ih f hf]
    rw [edit, mapObjs, editFields_eq, mapObjsFields_eq, hfields]
    rfl

/-- An edit by label does nothing where the label does not occur. -/
theorem edit_of_not_mem {t : Tree} (h : label ∉ t.labels) : t.edit label change = t := by
  induction t using Tree.induction with
  | leaf t ht => cases t <;> first | rfl | simp [isLeaf] at ht
  | list items ih =>
    rw [labels_list, List.mem_flatMap] at h
    rw [edit, editItems_eq]
    congr 1
    exact (List.map_congr_left fun t ht => ih t ht fun hl => h ⟨t, ht, hl⟩).trans (List.map_id _)
  | obj l fields ih =>
    rw [labels, labelsFields_eq, List.mem_cons, List.mem_flatMap] at h
    have hfields : fields.map (fun f => (f.1, f.2.edit label change)) = fields.map id :=
      List.map_congr_left fun f hf => by rw [ih f hf fun hl => h (.inr ⟨f, hf, hl⟩)]; rfl
    rw [edit, editFields_eq, hfields, List.map_id, if_neg fun hl => h (.inl hl.symm)]

theorem editFields_of_not_mem {fields : List (String × Tree)} (h : label ∉ labelsFields fields) :
    editFields label change fields = fields := by
  rw [labelsFields_eq, List.mem_flatMap] at h
  rw [editFields_eq]
  refine (List.map_congr_left fun f hf => ?_).trans (List.map_id _)
  rw [edit_of_not_mem fun hl => h ⟨f, hf, hl⟩]
  rfl

theorem lookup_editFields (fields : List (String × Tree)) (key : String) :
    (editFields label change fields).lookup key = (fields.lookup key).map (edit label change) := by
  rw [editFields_eq, lookup_map_snd]

section Shape

variable (hchange : ∀ t, t.isObj = true → (change t).isObj = true)

include hchange in
theorem str?_edit (t : Tree) : (t.edit label change).str? = t.str? := by
  cases t with
  | obj l fields =>
    rw [edit]
    split
    · exact str?_of_isObj (hchange _ rfl)
    · rfl
  | _ => rfl

include hchange in
theorem kind_editFields (l : Nat) (fields : List (String × Tree)) :
    (obj l (editFields label change fields)).kind = (obj l fields).kind := by
  rw [kind, kind, get?_obj, lookup_editFields, get?_obj]
  cases fields.lookup "type" with
  | none => rfl
  | some v => exact congrArg (·.getD "") (str?_edit hchange v)

end Shape

/-! ### Labels -/

/-- **An edit adds a label to a tree only if it adds it to a record.** -/
theorem count_labels_edit {l : Nat}
    (h : ∀ t, t.isObj = true → t.label = label → (change t).labels.count l ≤ t.labels.count l) (t : Tree) :
    (t.edit label change).labels.count l ≤ t.labels.count l := by
  rw [edit_eq_mapObjs]
  refine count_labels_mapObjs (fun l' fields => ?_) t
  split
  · exact h _ rfl ‹_›
  · exact Nat.le_refl _

end Edit

/-- Setting a field adds a label only if the value has it more often than the old one. -/
theorem count_labels_set {t value : Tree} {key : String} {l : Nat}
    (h : value.labels.count l ≤ (t.get key).labels.count l) :
    (t.set key value).labels.count l ≤ t.labels.count l := by
  cases t with
  | obj l' fields =>
    have hput := count_labelsFields_putKey fields key value l
    rw [get, get?_obj] at h
    rw [set, labels, labels, List.count_cons, List.count_cons]
    omega
  | _ => exact Nat.le_refl _

/-- Giving out labels changes nothing where all records have theirs. -/
theorem number_of_labelled {t : Tree} (h : 0 ∉ t.labels) (next : Nat) : t.number next = (t, next) := by
  induction t using Tree.induction generalizing next with
  | leaf t ht => cases t <;> first | rfl | simp [isLeaf] at ht
  | list items ih =>
    rw [labels_list] at h
    have hitems : numberItems next items = (items, next) := by
      induction items generalizing next with
      | nil => rfl
      | cons t rest ihr =>
        rw [List.flatMap_cons, List.mem_append, not_or] at h
        rw [numberItems, ih t List.mem_cons_self h.1]
        simp only
        rw [ihr (fun t ht => ih t (List.mem_cons_of_mem _ ht)) h.2]
    rw [number, hitems]
  | obj label fields ih =>
    rw [labels, labelsFields_eq, List.mem_cons, not_or] at h
    obtain ⟨hlabel, h⟩ := h
    have hfields : numberFields next fields = (fields, next) := by
      clear hlabel
      induction fields generalizing next with
      | nil => rfl
      | cons f rest ihr =>
        rw [List.flatMap_cons, List.mem_append, not_or] at h
        rw [numberFields, ih f List.mem_cons_self h.1]
        simp only
        rw [ihr (fun f hf => ih f (List.mem_cons_of_mem _ hf)) _ h.2]
    cases label with
    | zero => exact absurd rfl hlabel
    | succ label =>
      rw [number, hfields]
      simp

/-! ### Looking up -/

/-- What is found by a label is a record with that label. -/
theorem exists_of_find? {t r : Tree} {l : Nat} (h : t.find? l = some r) :
    r ∈ t.records ∧ r.label = l ∧ r.isObj = true := by
  induction t using Tree.induction with
  | leaf t ht => cases t <;> first | cases h | simp [isLeaf] at ht
  | list items ih =>
    rw [find?] at h
    rw [records, recordsItems_eq]
    induction items with
    | nil => cases h
    | cons t rest ihr =>
      rw [findItems?] at h
      rw [List.flatMap_cons, List.mem_append]
      rcases Option.or_eq_some_iff.mp h with h | ⟨-, h⟩
      · obtain ⟨hmem, hr⟩ := ih t List.mem_cons_self h
        exact ⟨.inl hmem, hr⟩
      · obtain ⟨hmem, hr⟩ := ihr (fun u hu => ih u (List.mem_cons_of_mem _ hu)) h
        exact ⟨.inr hmem, hr⟩
  | obj l' fields ih =>
    rw [find?] at h
    rw [records, List.mem_cons]
    split at h
    · rename_i hl
      cases h
      exact ⟨.inl rfl, hl, rfl⟩
    · suffices hfields : r ∈ recordsFields fields ∧ r.label = l ∧ r.isObj = true from
        ⟨.inr hfields.1, hfields.2⟩
      induction fields with
      | nil => cases h
      | cons f rest ihr =>
        rw [findFields?] at h
        rw [recordsFields, List.mem_append]
        rcases Option.or_eq_some_iff.mp h with h | ⟨-, h⟩
        · obtain ⟨hmem, hr⟩ := ih f List.mem_cons_self h
          exact ⟨.inl hmem, hr⟩
        · obtain ⟨hmem, hr⟩ := ihr (fun g hg => ih g (List.mem_cons_of_mem _ hg)) h
          exact ⟨.inr hmem, hr⟩

end Tree

end Deminify
