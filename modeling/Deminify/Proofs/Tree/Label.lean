import Deminify.Proofs.Tree.Core

/-!
# Labels

A program that has been read tells all of its nodes apart by their labels. The proof counts: giving
out labels from `next` on gives each of them to one record, takes the label zero from all, and leaves
the others as they are (`Deminify.Tree.count_labels_number`).
-/

namespace Deminify

namespace Tree

mutual

/-- The labels of all records of a tree. -/
def labels (t : Tree) : List Nat :=
  match t with
  | .list items => labelsItems items
  | .obj label fields => label :: labelsFields fields
  | _ => []
termination_by structural t

/-- The labels of all records of the items. -/
def labelsItems (items : List Tree) : List Nat :=
  match items with
  | [] => []
  | t :: rest => t.labels ++ labelsItems rest
termination_by structural items

/-- The labels of all records of the fields. -/
def labelsFields (fields : List (String × Tree)) : List Nat :=
  match fields with
  | [] => []
  | (_, t) :: rest => t.labels ++ labelsFields rest
termination_by structural fields

end

theorem labelsFields_cons (f : String × Tree) (rest : List (String × Tree)) :
    labelsFields (f :: rest) = f.2.labels ++ labelsFields rest := by
  rw [labelsFields]

theorem labels_of_isLeaf {t : Tree} (h : t.isLeaf = true) : t.labels = [] := by
  cases t <;> first | rfl | simp [isLeaf] at h

theorem labels_list (items : List Tree) : (list items).labels = items.flatMap labels := by
  rw [labels]
  induction items with
  | nil => rfl
  | cons t rest ih => rw [labelsItems, ih, List.flatMap_cons]

/-! ### Giving out labels -/

/-- How often a label occurs before and after the labels from `next` to `stop` have been given out:
each of them once more than before, zero not at all, and the others as often as before. -/
structure GivenOut (l next stop before after : Nat) : Prop where
  le : next ≤ stop
  zero : l = 0 → after = 0
  given : next ≤ l → l < stop → after = before + 1
  other : l ≠ 0 → l < next ∨ stop ≤ l → after = before

theorem GivenOut.refl {l next before : Nat} (h : l = 0 → before = 0) :
    GivenOut l next next before before :=
  ⟨Nat.le_refl _, h, fun _ _ => by omega, fun _ _ => rfl⟩

theorem GivenOut.trans {l next mid stop b b' a a' : Nat} (hn : 0 < next)
    (h : GivenOut l next mid b a) (h' : GivenOut l mid stop b' a') :
    GivenOut l next stop (b + b') (a + a') := by
  obtain ⟨hle, hz, hg, ho⟩ := h
  obtain ⟨hle', hz', hg', ho'⟩ := h'
  exact ⟨by omega, by omega, by omega, by omega⟩

theorem givenOut_numberItems {l : Nat} {items : List Tree}
    (h : ∀ t ∈ items, ∀ next, 0 < next → GivenOut l next (t.number next).2 (t.labels.count l)
      ((t.number next).1.labels.count l)) {next : Nat} (hn : 0 < next) :
    GivenOut l next (numberItems next items).2 ((labelsItems items).count l)
      ((labelsItems (numberItems next items).1).count l) := by
  induction items generalizing next with
  | nil => exact .refl fun _ => rfl
  | cons t rest ih =>
    have ht := h t List.mem_cons_self next hn
    have hr := ih (fun t ht => h t (List.mem_cons_of_mem _ ht)) (Nat.lt_of_lt_of_le hn ht.le)
    simp only [numberItems, labelsItems, List.count_append]
    exact ht.trans hn hr

theorem givenOut_numberFields {l : Nat} {fields : List (String × Tree)}
    (h : ∀ f ∈ fields, ∀ next, 0 < next → GivenOut l next (f.2.number next).2 (f.2.labels.count l)
      ((f.2.number next).1.labels.count l)) {next : Nat} (hn : 0 < next) :
    GivenOut l next (numberFields next fields).2 ((labelsFields fields).count l)
      ((labelsFields (numberFields next fields).1).count l) := by
  induction fields generalizing next with
  | nil => exact .refl fun _ => rfl
  | cons f rest ih =>
    have hf := h f List.mem_cons_self next hn
    have hr := ih (fun f hf => h f (List.mem_cons_of_mem _ hf)) (Nat.lt_of_lt_of_le hn hf.le)
    simp only [numberFields, labelsFields, List.count_append]
    exact hf.trans hn hr

/-- **Numbering gives each new record a label of its own** and leaves the others as they are. -/
theorem givenOut_number (t : Tree) {next : Nat} (hn : 0 < next) (l : Nat) :
    GivenOut l next (t.number next).2 (t.labels.count l) ((t.number next).1.labels.count l) := by
  induction t using Tree.induction generalizing next with
  | leaf t ht =>
    have hnum : t.number next = (t, next) := by
      cases t <;> first | rfl | simp [isLeaf] at ht
    rw [hnum, labels_of_isLeaf ht]
    exact .refl fun _ => rfl
  | list items ih =>
    simp only [number, labels]
    exact givenOut_numberItems (fun t ht _ hn => ih t ht hn) hn
  | obj label fields ih =>
    cases label with
    | zero =>
      have hn' : 0 < next + 1 := by omega
      obtain ⟨hle, hz, hg, ho⟩ := givenOut_numberFields (fun f hf _ hn => ih f hf hn) hn'
      simp only [number, labels, List.count_cons, beq_iff_eq]
      refine ⟨by omega, fun hl => ?_, fun h1 h2 => ?_, fun h0 h => ?_⟩
      · rw [hz hl, if_neg (by omega)]
      · have hl : ¬0 = l := by omega
        rw [if_neg hl]
        split <;> omega
      · rw [if_neg (by omega), if_neg (by omega), ho h0 (by omega)]
    | succ label =>
      obtain ⟨hle, hz, hg, ho⟩ := givenOut_numberFields (fun f hf _ hn => ih f hf hn) hn
      have hnum : (obj (label + 1) fields).number next =
          (obj (label + 1) (numberFields next fields).1, (numberFields next fields).2) := by
        rw [number]
        simp
      simp only [hnum, labels, List.count_cons, beq_iff_eq]
      refine ⟨hle, fun hl => ?_, fun h1 h2 => ?_, fun h0 h => ?_⟩
      · rw [hz hl, if_neg (by omega)]
      · rw [hg h1 h2]
        omega
      · rw [ho h0 h]

/-! ### Changing records -/

/-- Changes of the records that add no label do not add one to the tree. -/
theorem count_labels_mapObjs {change : Tree → Tree} {l : Nat}
    (h : ∀ label fields,
      (change (.obj label fields)).labels.count l ≤ (obj label fields).labels.count l) (t : Tree) :
    (t.mapObjs change).labels.count l ≤ t.labels.count l := by
  induction t using Tree.induction with
  | leaf t ht => exact Nat.le_of_eq (by rw [mapObjs_of_isLeaf ht])
  | list items ih =>
    rw [mapObjs, mapObjsItems_eq, labels_list, labels_list]
    induction items with
    | nil => exact Nat.le_refl _
    | cons t rest ihr =>
      simp only [List.map_cons, List.flatMap_cons, List.count_append]
      exact Nat.add_le_add (ih t List.mem_cons_self)
        (ihr fun t ht => ih t (List.mem_cons_of_mem _ ht))
  | obj label fields ih =>
    rw [mapObjs, mapObjsFields_eq]
    refine Nat.le_trans (h _ _) ?_
    rw [labels, labels, List.count_cons, List.count_cons]
    refine Nat.add_le_add_right ?_ _
    induction fields with
    | nil => exact Nat.le_refl _
    | cons f rest ihr =>
      rw [List.map_cons, labelsFields_cons, labelsFields_cons, List.count_append, List.count_append]
      exact Nat.add_le_add (ih f List.mem_cons_self)
        (ihr fun f hf => ih f (List.mem_cons_of_mem _ hf))

theorem count_labels_renewed (t : Tree) {l : Nat} (hl : l ≠ 0) : t.renewed.labels.count l = 0 := by
  induction t using Tree.induction with
  | leaf t ht => rw [renewed, mapObjs_of_isLeaf ht, labels_of_isLeaf ht, List.count_nil]
  | list items ih =>
    rw [renewed, mapObjs, mapObjsItems_eq, labels_list, List.count_eq_zero, List.mem_flatMap]
    rintro ⟨u, hu, hm⟩
    obtain ⟨t, ht, rfl⟩ := List.mem_map.mp hu
    exact List.count_eq_zero.mp (ih t ht) hm
  | obj label fields ih =>
    rw [renewed, mapObjs, relabel, mapObjsFields_eq, labels, List.count_cons_of_ne (Ne.symm hl)]
    induction fields with
    | nil => rfl
    | cons f rest ihr =>
      rw [List.map_cons, labelsFields_cons, List.count_append,
        ihr fun f hf => ih f (List.mem_cons_of_mem _ hf), Nat.add_zero]
      exact ih f List.mem_cons_self

theorem count_labelsFields_putKey (fields : List (String × Tree)) (key : String) (value : Tree)
    (l : Nat) : (labelsFields (putKey fields key value)).count l +
        ((fields.lookup key).getD .null).labels.count l =
      (labelsFields fields).count l + value.labels.count l := by
  induction fields with
  | nil => simp [putKey, labelsFields, labels]
  | cons f rest ih =>
    obtain ⟨k, v⟩ := f
    rw [putKey, lookup_cons_ite]
    split
    · rename_i hk
      subst hk
      simp only [if_true, Option.getD_some, labelsFields_cons, List.count_append]
      omega
    · rename_i hk
      rw [if_neg (Ne.symm hk)]
      simp only [labelsFields_cons, List.count_append]
      omega

/-! ### The labels of nodes -/

theorem labels_subtreeFields {fields : List (String × Tree)}
    (h : ∀ f ∈ fields, ((subtreeValue f.2).map label).Sublist f.2.labels) :
    ((subtreeFields fields).map label).Sublist (labelsFields fields) := by
  induction fields with
  | nil => exact List.nil_sublist _
  | cons f rest ih =>
    obtain ⟨key, value⟩ := f
    rw [subtreeFields, List.map_append, labelsFields_cons]
    refine List.Sublist.append ?_ (ih fun f hf => h f (List.mem_cons_of_mem _ hf))
    split
    · exact h _ List.mem_cons_self
    · exact List.nil_sublist _

theorem labels_subtreeValue (t : Tree) : ((subtreeValue t).map label).Sublist t.labels := by
  induction t using Tree.induction with
  | leaf t ht => cases t <;> first | exact List.nil_sublist _ | simp [isLeaf] at ht
  | list items ih =>
    rw [subtreeValue, labels]
    induction items with
    | nil => exact List.nil_sublist _
    | cons t rest ihr =>
      rw [subtreeItems, List.map_append, labelsItems]
      refine List.Sublist.append ?_ (ihr fun t ht => ih t (List.mem_cons_of_mem _ ht))
      cases t with
      | obj l fields => exact ih _ List.mem_cons_self
      | _ => exact List.nil_sublist _
  | obj l fields ih =>
    rw [subtreeValue]
    split
    · exact (labels_subtreeFields ih).cons_cons l
    · exact List.nil_sublist _

/-- The nodes of a tree are among its records. -/
theorem labels_subtree {t : Tree} (h : t.isObj = true) : (t.subtree.map label).Sublist t.labels := by
  cases t with
  | obj l fields => exact (labels_subtreeFields fun f _ => labels_subtreeValue f.2).cons_cons l
  | _ => simp [isObj] at h

/-- Whether the labels of the nodes of a tree tell them apart. -/
def Labelled (t : Tree) : Prop := (t.subtree.map label).Nodup

end Tree

end Deminify
