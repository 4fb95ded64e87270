import Mathlib.Algebra.GroupWithZero.Nat
import Deminify.Text.Position

/-!
# The parts of a text between marks

A text and its parts determine each other, as long as no part has the mark in it
(`Deminify.Text.intercalate_partsAt`, `Deminify.Text.partsAt_intercalate`). The parts know how often the mark
stands in the text and how long the text is (`Deminify.Text.length_splitOn`, `Deminify.Text.sum_length_splitOn`),
and a text that ends with a mark keeps its parts when it goes on (`Deminify.Text.exists_parts_of_closed`): so an
offset of a text is found again among its parts.
-/

namespace Deminify.Text

/-! ### Lists between marks -/

section Lists

variable {α : Type} {a : α} {xs us : List α}

theorem not_mem_of_mem_splitOnP {p : α → Bool} {part : List α} (h : part ∈ xs.splitOnP p) :
    ∀ x ∈ part, p x = false := by
  induction xs generalizing part with
  | nil =>
    rw [List.splitOnP_nil, List.mem_singleton] at h
    simp [h]
  | cons y ys ih =>
    rw [List.splitOnP_cons_eq_if_modifyHead] at h
    split at h
    · rcases List.mem_cons.mp h with rfl | h
      · simp
      · exact ih h
    · rename_i hy
      -- the first part goes on with `y`, the others are those of the rest
      obtain ⟨first, more, hparts⟩ := List.exists_cons_of_ne_nil (List.splitOnP_ne_nil p ys)
      rw [hparts, List.modifyHead_cons] at h
      rcases List.mem_cons.mp h with rfl | h
      · intro x hx
        rcases List.mem_cons.mp hx with rfl | hx
        · exact Bool.not_eq_true _ ▸ hy
        · exact ih (hparts ▸ List.mem_cons_self) x hx
      · exact ih (hparts ▸ List.mem_cons_of_mem _ h)

variable [BEq α]

theorem length_splitOn : (xs.splitOn a).length = xs.count a + 1 := by
  induction xs with
  | nil => simp
  | cons x xs ih =>
    rw [List.splitOn_cons_eq_if_modifyHead, List.count_cons]
    split
    · rw [List.length_cons, ih]
    · rw [List.length_modifyHead, ih, Nat.add_zero]

/-- With a mark behind each part, the parts are as long as what they make up with a mark behind it. -/
theorem sum_length_splitOn : ((xs.splitOn a).map fun part => part.length + 1).sum = xs.length + 1 := by
  induction xs with
  | nil => simp
  | cons x xs ih =>
    obtain ⟨first, more, hparts⟩ := List.exists_cons_of_ne_nil (List.splitOn_ne_nil a xs)
    rw [List.splitOn_cons_eq_if_modifyHead, List.length_cons]
    rw [hparts, List.map_cons, List.sum_cons] at ih
    split
    · rw [hparts, List.map_cons, List.sum_cons, List.map_cons, List.sum_cons, ih, List.length_nil]
      omega
    · rw [hparts, List.modifyHead_cons, List.map_cons, List.sum_cons, List.length_cons]
      omega

variable [LawfulBEq α]

/-- What has no mark goes in front of the first part. -/
theorem splitOn_append_of_not_mem (h : a ∉ us) : (us ++ xs).splitOn a = (xs.splitOn a).modifyHead (us ++ ·) := by
  obtain ⟨first, more, hparts⟩ := List.exists_cons_of_ne_nil (List.splitOn_ne_nil a xs)
  rw [hparts, List.modifyHead_cons]
  induction us with
  | nil => exact hparts
  | cons u us ih =>
    rw [List.mem_cons, not_or] at h
    rw [List.cons_append, List.splitOn_cons_eq_if_modifyHead, ih h.2, if_neg (by simpa using Ne.symm h.1)]
    rfl

/-- The text starts with its first part. -/
theorem prefix_of_splitOn_cons {first : List α} {more : List (List α)} (h : xs.splitOn a = first :: more) :
    first <+: xs := by
  rw [← @List.intercalate_splitOn _ xs _ _ a, h]
  cases more with
  | nil => simp
  | cons next more =>
    rw [List.intercalate_cons_cons, List.append_assoc]
    exact List.prefix_append _ _

/-- A front that is empty or ends with a mark has its own parts, whatever follows. -/
theorem exists_parts_of_closed (h : us = [] ∨ ∃ vs, us = vs ++ [a]) : ∃ parts : List (List α),
    (∀ xs, (us ++ xs).splitOn a = parts ++ xs.splitOn a) ∧ parts.length = us.count a ∧
      (parts.map fun part => part.length + 1).sum = us.length := by
  rcases h with rfl | ⟨vs, rfl⟩
  · exact ⟨[], fun xs => rfl, by simp, rfl⟩
  · refine ⟨vs.splitOn a, fun xs => ?_, ?_, ?_⟩
    · rw [List.append_assoc, List.singleton_append, List.splitOn_eq_splitOnP]
      exact List.splitOnP_append_cons vs xs BEq.rfl
    · rw [length_splitOn, List.count_append, List.count_singleton_self]
    · rw [sum_length_splitOn, List.length_append, List.length_singleton]

end Lists

/-! ### Texts between marks -/

variable {mark : Char} {text : String}

theorem not_mem_of_mem_partsAt {part : String} (h : part ∈ partsAt mark text) : mark ∉ part.toList := by
  obtain ⟨cs, hcs, rfl⟩ := List.mem_map.mp h
  intro hc
  rw [String.toList_ofList] at hc
  rw [List.splitOn_eq_splitOnP] at hcs
  simpa using not_mem_of_mem_splitOnP hcs _ hc

theorem partsAt_ne_nil : partsAt mark text ≠ [] := by
  rw [partsAt, Ne, List.map_eq_nil_iff]
  exact List.splitOn_ne_nil _ _

/-- A text is its parts with marks between them. -/
theorem intercalate_partsAt : String.intercalate (String.singleton mark) (partsAt mark text) = text := by
  rw [← String.toList_inj, String.toList_intercalate, partsAt, List.map_map, String.toList_singleton]
  simp only [Function.comp_def, String.toList_ofList, List.map_id']
  exact List.intercalate_splitOn mark

/-- Parts without marks are the parts of the text that they make up. -/
theorem partsAt_intercalate {parts : List String} (hne : parts ≠ []) (h : ∀ part ∈ parts, mark ∉ part.toList) :
    partsAt mark (String.intercalate (String.singleton mark) parts) = parts := by
  have hsplit : ([mark].intercalate (parts.map String.toList)).splitOn mark = parts.map String.toList := by
    refine List.splitOn_intercalate mark ?_ (by simpa using hne)
    rintro _ hcs
    obtain ⟨part, hpart, rfl⟩ := List.mem_map.mp hcs
    exact h part hpart
  rw [partsAt, String.toList_intercalate, String.toList_singleton, hsplit, List.map_map]
  simp [Function.comp_def]

end Deminify.Text
