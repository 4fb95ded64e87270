import Deminify.Bundle.Registry
import Deminify.Proofs.Text.Parts

/-!
# File names of modules

A module is written to a file below the output directory, and the name of that file comes from one of
two places. **A name that is made from a path is always below the directory**
(`Deminify.Bundle.below_fileName`): what stands between its slashes is known exactly
(`Deminify.Bundle.slashParts_fileName`), and with it when two paths are given one name
(`Deminify.Bundle.fileName_eq_iff`) and which names are given to themselves
(`Deminify.Bundle.fileName_eq_self_iff`). A name that is made from an id is as good as the id: only what
stands at the two ends of the id is mended by what the name adds there
(`Deminify.Bundle.below_fileName_id`).

## Parts and names

Both facts are facts about the parts of a name, the texts between its slashes. A name and its parts
determine each other, as long as no part has a slash in it, and so a question about names is put to
their parts first.
-/

namespace Deminify.Bundle

/-! ### The parts of a name -/

/-- What stands between the slashes of a name. -/
def slashParts (name : String) : List String := (name.toList.splitOn '/').map String.ofList

/-- Whether a part of a name says something and does not lead upwards. -/
def IsProper (part : String) : Prop := part ∉ ["", ".", ".."]

instance (part : String) : Decidable (IsProper part) := inferInstanceAs (Decidable (_ ∉ _))

/-- **A name below a directory**: it does not start at the root, and every part of it is proper. -/
def Below (name : String) : Prop :=
  name.toList.head? ≠ some '/' ∧ ∀ part ∈ slashParts name, IsProper part

instance (name : String) : Decidable (Below name) := inferInstanceAs (Decidable (_ ∧ _))

theorem slash_not_mem_of_mem_slashParts {name part : String} (h : part ∈ slashParts name) :
    '/' ∉ part.toList := Text.not_mem_of_mem_partsAt h

theorem slashParts_ne_nil (name : String) : slashParts name ≠ [] := Text.partsAt_ne_nil

/-- A name is its parts with slashes between them. -/
theorem intercalate_slashParts (name : String) : String.intercalate "/" (slashParts name) = name :=
  Text.intercalate_partsAt

/-- Parts without slashes are the parts of their name. -/
theorem slashParts_intercalate {parts : List String} (hne : parts ≠ [])
    (h : ∀ part ∈ parts, '/' ∉ part.toList) : slashParts (String.intercalate "/" parts) = parts :=
  Text.partsAt_intercalate hne h

theorem slashParts_inj {name other : String} : slashParts name = slashParts other ↔ name = other := by
  refine ⟨fun h => ?_, congrArg slashParts⟩
  rw [← intercalate_slashParts name, h, intercalate_slashParts]

/-- A name of one part. -/
theorem slashParts_of_not_mem {name : String} (h : '/' ∉ name.toList) : slashParts name = [name] := by
  have hone := slashParts_intercalate (List.cons_ne_nil name []) (by simpa using h)
  rwa [String.intercalate_singleton] at hone

/-- A name that starts at the root has an empty part there. -/
theorem below_iff {name : String} : Below name ↔ ∀ part ∈ slashParts name, IsProper part := by
  refine and_iff_right_of_imp fun h hroot => ?_
  have hempty : "" ∈ slashParts name := by
    obtain ⟨cs, hcs⟩ : ∃ cs, name.toList = '/' :: cs := by
      cases hn : name.toList with
      | nil => rw [hn] at hroot; cases hroot
      | cons c cs => rw [hn] at hroot; cases hroot; exact ⟨cs, rfl⟩
    rw [slashParts, hcs, List.splitOn_cons_eq_if_modifyHead]
    simp
  exact h _ hempty (by decide)

/-! ### Names made from paths -/

theorem segments_proper {path part : String} (h : part ∈ segments path) : IsProper part := by
  have hpart := (List.mem_filter.mp h).2
  simpa [IsProper] using hpart

/-- No separator is left in a part of a path. -/
theorem not_mem_of_mem_segments {path part : String} {c : Char} (hc : (c == '/' || c == '\\') = true)
    (h : part ∈ segments path) : c ∉ part.toList := by
  obtain ⟨cs, hcs, rfl⟩ := List.mem_map.mp (List.mem_filter.mp h).1
  rw [String.toList_ofList]
  intro hmem
  have hnot := Text.not_mem_of_mem_splitOnP hcs c hmem
  rw [hc] at hnot
  cases hnot

/-- The part with an extension of a program, `.js` if it has none. -/
def withExtension (part : String) : String := if isScriptName part then part else part ++ ".js"

/-- The parts with an extension at the last. -/
def completed : List String → List String
  | [] => []
  | [part] => [withExtension part]
  | part :: next :: rest => part :: completed (next :: rest)

/-- **The parts of the file name of a path**: those that are proper, or `index` if there are none, with
an extension at the last. -/
def scriptParts (path : String) : List String :=
  completed (if (segments path).isEmpty then ["index"] else segments path)

/-- An extension stands behind the last slash. -/
theorem suffix_append_slash {extension : List Char} (h : '/' ∉ extension) (front rest : List Char) :
    extension <:+ front ++ '/' :: rest ↔ extension <:+ rest := by
  constructor
  · intro hsuffix
    induction front with
    | nil =>
      rcases List.suffix_cons_iff.mp hsuffix with rfl | hrest
      · exact absurd List.mem_cons_self h
      · exact hrest
    | cons c front ih =>
      rcases List.suffix_cons_iff.mp hsuffix with rfl | hrest
      · exact absurd (List.mem_cons_of_mem _ (List.mem_append_right _ List.mem_cons_self)) h
      · exact ih hrest
  · exact fun hrest => (hrest.trans (List.suffix_cons _ _)).trans (List.suffix_append _ _)

theorem isScriptName_append_slash (front rest : String) :
    isScriptName (front ++ "/" ++ rest) = isScriptName rest := by
  have hends (extension : String) (h : '/' ∉ extension.toList) :
      (front ++ "/" ++ rest).endsWith extension = rest.endsWith extension := by
    rw [Bool.eq_iff_iff, String.endsWith_eq_endsWith_toSlice, String.endsWith_eq_endsWith_toSlice,
      String.Slice.endsWith_string_iff, String.Slice.endsWith_string_iff]
    simpa using suffix_append_slash h front.toList rest.toList
  simp only [isScriptName, List.any_cons, List.any_nil]
  rw [hends ".js" (by decide), hends ".mjs" (by decide), hends ".cjs" (by decide),
    hends ".jsx" (by decide)]

theorem completed_ne_nil {parts : List String} (h : parts ≠ []) : completed parts ≠ [] := by
  match parts, h with
  | [_], _ => simp [completed]
  | _ :: _ :: _, _ => simp [completed]

/-- Completing the last part completes the name. -/
theorem intercalate_completed {parts : List String} (h : parts ≠ []) :
    String.intercalate "/" (completed parts) = withExtension (String.intercalate "/" parts) := by
  induction parts with
  | nil => exact absurd rfl h
  | cons part rest ih =>
    cases rest with
    | nil => simp [completed]
    | cons next rest =>
      have hne : next :: rest ≠ [] := List.cons_ne_nil _ _
      rw [completed, String.intercalate_cons_of_ne_nil (completed_ne_nil hne), ih hne,
        String.intercalate_cons_of_ne_nil hne, withExtension, withExtension,
        isScriptName_append_slash]
      split
      · rfl
      · rw [String.append_assoc, String.append_assoc, String.append_assoc]

theorem fileName_eq_intercalate (path : String) :
    fileName path = String.intercalate "/" (scriptParts path) := by
  rw [scriptParts, intercalate_completed (by split <;> simp_all), fileName, withExtension]
  by_cases h : (segments path).isEmpty
  · simp [h]
  · simp [h]

/-- What holds of every part and of every part with an extension holds of the completed parts. -/
theorem completed_induct {P : String → Prop} {parts : List String} (h : ∀ part ∈ parts, P part)
    (hext : ∀ part, P part → P (withExtension part)) : ∀ part ∈ completed parts, P part := by
  induction parts with
  | nil => simp [completed]
  | cons part rest ih =>
    cases rest with
    | nil => simpa [completed] using hext part (h part List.mem_cons_self)
    | cons next rest =>
      intro q hq
      rcases List.mem_cons.mp hq with rfl | hq
      · exact h q List.mem_cons_self
      · exact ih (fun r hr => h r (List.mem_cons_of_mem _ hr)) q hq

theorem not_mem_withExtension {part : String} {c : Char} (hc : c ∉ ".js".toList) (h : c ∉ part.toList) :
    c ∉ (withExtension part).toList := by
  rw [withExtension]
  split
  · exact h
  · rw [String.toList_append, List.mem_append, not_or]
    exact ⟨h, hc⟩

/-- What is not proper is short. -/
theorem isProper_of_length {part : String} (h : 2 < part.length) : IsProper part := by
  have hshort : ∀ s ∈ ["", ".", ".."], s.length ≤ 2 := by decide
  exact fun hmem => Nat.not_le.mpr h (hshort part hmem)

theorem isProper_append_js (part : String) : IsProper (part ++ ".js") := by
  refine isProper_of_length ?_
  rw [String.length_append, show ".js".length = 3 from rfl]
  omega

theorem isProper_withExtension {part : String} (h : IsProper part) : IsProper (withExtension part) := by
  rw [withExtension]
  split
  · exact h
  · exact isProper_append_js part

/-- What holds of the parts of a path and of `index`, and is kept by an extension, holds of the parts
of its file name. -/
theorem scriptParts_induct {P : String → Prop} {path : String} (hindex : P "index")
    (h : ∀ part ∈ segments path, P part) (hext : ∀ part, P part → P (withExtension part)) :
    ∀ part ∈ scriptParts path, P part := by
  refine completed_induct ?_ hext
  split
  · simpa using hindex
  · exact h

theorem scriptParts_ne_nil (path : String) : scriptParts path ≠ [] :=
  completed_ne_nil (by split <;> simp_all)

/-- **What stands between the slashes of the file name of a path.** -/
theorem slashParts_fileName (path : String) : slashParts (fileName path) = scriptParts path := by
  rw [fileName_eq_intercalate]
  refine slashParts_intercalate (scriptParts_ne_nil path) ?_
  exact scriptParts_induct (by decide) (fun part => not_mem_of_mem_segments rfl)
    fun part => not_mem_withExtension (by decide)

/-- **The file name of a path is below the directory**, wherever the path leads. -/
theorem below_fileName (path : String) : Below (fileName path) := by
  rw [below_iff, slashParts_fileName]
  exact scriptParts_induct (by decide) (fun part => segments_proper) fun part => isProper_withExtension

/-- Two paths have one file name if their parts are the same once the extension is there. -/
theorem fileName_eq_iff {path other : String} :
    fileName path = fileName other ↔ scriptParts path = scriptParts other := by
  rw [← slashParts_inj, slashParts_fileName, slashParts_fileName]

theorem fileName_ne_empty (path : String) : fileName path ≠ "" := by
  intro h
  have hbelow := below_fileName path
  rw [h] at hbelow
  exact absurd hbelow (by decide)

/-! ### Names that are kept -/

theorem isScriptName_iff {name : String} : isScriptName name = true ↔
    ∃ extension ∈ [".js", ".mjs", ".cjs", ".jsx"], extension.toList <:+ name.toList := by
  have hends (extension : String) : name.endsWith extension = true ↔ extension.toList <:+ name.toList := by
    rw [String.endsWith_eq_endsWith_toSlice, String.Slice.endsWith_string_iff, String.copy_toSlice]
  simp only [isScriptName, List.any_eq_true, hends]

theorem isScriptName_withExtension (part : String) : isScriptName (withExtension part) = true := by
  rw [withExtension]
  split
  · assumption
  · exact isScriptName_iff.mpr ⟨".js", List.mem_cons_self, by rw [String.toList_append]; exact List.suffix_append _ _⟩

/-- **A name that paths are given**: below the directory, without a backslash, and with an extension of a
program. -/
structure IsFileName (name : String) : Prop where
  below : Below name
  backslash : '\\' ∉ name.toList
  extension : isScriptName name = true

/-- A name holds what its parts hold, and slashes. -/
theorem exists_of_mem_name {name : String} {c : Char} (h : c ∈ name.toList) :
    c = '/' ∨ ∃ part ∈ slashParts name, c ∈ part.toList := by
  rw [← intercalate_slashParts name] at h
  generalize slashParts name = parts at h ⊢
  induction parts with
  | nil => simp at h
  | cons part rest ih =>
    cases rest with
    | nil => exact .inr ⟨part, List.mem_cons_self, by simpa using h⟩
    | cons next rest =>
      rw [String.intercalate_cons_cons, String.toList_append, String.toList_append, List.append_assoc] at h
      rcases List.mem_append.mp h with h | h
      · exact .inr ⟨part, List.mem_cons_self, h⟩
      rcases List.mem_cons.mp h with h | h
      · exact .inl h
      · exact (ih h).imp_right fun ⟨q, hq, hc⟩ => ⟨q, List.mem_cons_of_mem _ hq, hc⟩

theorem isFileName_fileName (path : String) : IsFileName (fileName path) where
  below := below_fileName path
  backslash := by
    intro h
    rcases exists_of_mem_name h with h | ⟨part, hpart, h⟩
    · cases h
    · rw [slashParts_fileName] at hpart
      exact scriptParts_induct (by decide) (fun part => not_mem_of_mem_segments rfl)
        (fun part => not_mem_withExtension (by decide)) part hpart h
  extension := isScriptName_withExtension _

example : fileName "..\\./a//b\\..js/" = "a/b/..js" := by decide +kernel

theorem splitOnP_congr {α : Type} {p q : α → Bool} {xs : List α} (h : ∀ x ∈ xs, p x = q x) :
    xs.splitOnP p = xs.splitOnP q := by
  induction xs with
  | nil => rw [List.splitOnP_nil, List.splitOnP_nil]
  | cons x xs ih =>
    obtain ⟨hx, hxs⟩ := List.forall_mem_cons.mp h
    rw [List.splitOnP_cons_eq_if_modifyHead, List.splitOnP_cons_eq_if_modifyHead, hx, ih hxs]

/-- The parts of a name that paths are given are those of the path that it is. -/
theorem segments_eq_slashParts {name : String} (hbelow : Below name) (hback : '\\' ∉ name.toList) :
    segments name = slashParts name := by
  have hsplit : name.toList.splitOnP (fun c => c == '/' || c == '\\') = name.toList.splitOn '/' := by
    rw [List.splitOn_eq_splitOnP]
    refine splitOnP_congr fun c hc => ?_
    have hne : c ≠ '\\' := fun heq => hback (heq ▸ hc)
    rw [beq_eq_false_iff_ne.mpr hne, Bool.or_false]
  rw [segments, hsplit]
  refine List.filter_eq_self.mpr fun part hpart => ?_
  simpa [IsProper] using below_iff.mp hbelow part hpart

/-- **The names that paths are given are the ones that are kept.** -/
theorem fileName_eq_self_iff {name : String} : fileName name = name ↔ IsFileName name := by
  refine ⟨fun h => h ▸ isFileName_fileName name, fun h => ?_⟩
  have hne : (slashParts name).isEmpty = false := by
    rw [List.isEmpty_eq_false_iff]
    exact slashParts_ne_nil name
  rw [fileName, segments_eq_slashParts h.below h.backslash, hne, intercalate_slashParts]
  exact if_pos h.extension

/-- **The file name made from a file name is that name.** -/
theorem fileName_fileName (path : String) : fileName (fileName path) = fileName path :=
  fileName_eq_self_iff.mpr (isFileName_fileName path)

/-- **The name that a path is given is safe and stable**: it is not empty, stays below the directory, has no backslash
and an extension of a program, and it is the name that it is given itself. -/
theorem fileName_safe_and_kept (path : String) :
    fileName path ≠ "" ∧ '\\' ∉ (fileName path).toList ∧ (fileName path).toList.head? ≠ some '/' ∧
      (∀ part ∈ slashParts (fileName path), part ≠ "" ∧ part ≠ "." ∧ part ≠ "..") ∧
      (∃ extension ∈ [".js", ".mjs", ".cjs", ".jsx"], extension.toList <:+ (fileName path).toList) ∧
      fileName (fileName path) = fileName path := by
  have h := isFileName_fileName path
  refine ⟨fileName_ne_empty path, h.backslash, h.below.1, fun part hpart => ?_, isScriptName_iff.mp h.extension,
    fileName_fileName path⟩
  simpa [IsProper] using h.below.2 part hpart

/-! ### Names made from ids -/

/-- The parts of a text between its first slash and its last. -/
def innerParts (text : String) : List String := (slashParts text).tail.dropLast

theorem intercalate_append_last (parts : List String) (last extension : String) :
    String.intercalate "/" (parts ++ [last ++ extension]) =
      String.intercalate "/" (parts ++ [last]) ++ extension := by
  by_cases h : parts = []
  · simp [h]
  · rw [String.intercalate_append_of_ne_nil h (List.cons_ne_nil _ _),
      String.intercalate_append_of_ne_nil h (List.cons_ne_nil _ _), String.intercalate_singleton,
      String.intercalate_singleton, String.append_assoc, String.append_assoc, String.append_assoc]

/-- The name of an id adds to the first part of the id and to the last. -/
theorem slashParts_fileName_id {id : ModuleId} {first last : String} {inner : List String}
    (h : slashParts id.text = first :: (inner ++ [last])) :
    slashParts id.fileName = ("module-" ++ first) :: (inner ++ [last ++ ".js"]) := by
  have hname : id.fileName =
      String.intercalate "/" (("module-" ++ first) :: (inner ++ [last ++ ".js"])) := by
    rw [ModuleId.fileName, String.intercalate_cons_append, ← List.cons_append,
      intercalate_append_last, List.cons_append, ← h, intercalate_slashParts, String.append_assoc]
  have hslash (part : String) (hpart : part ∈ first :: (inner ++ [last])) : '/' ∉ part.toList :=
    slash_not_mem_of_mem_slashParts (h ▸ hpart)
  rw [hname]
  refine slashParts_intercalate (List.cons_ne_nil _ _) fun part hpart => ?_
  rcases List.mem_cons.mp hpart with rfl | hpart
  · simpa using hslash first (by simp)
  rcases List.mem_append.mp hpart with hpart | hpart
  · exact hslash part (by simp [hpart])
  · rw [List.mem_singleton.mp hpart]
    simpa using hslash last (by simp)

/-- **The file name of an id is below the directory if the inner parts of the id are proper.** At both
ends the name adds what makes a part proper. -/
theorem below_fileName_id (id : ModuleId) :
    Below id.fileName ↔ ∀ part ∈ innerParts id.text, IsProper part := by
  obtain ⟨first, rest, hparts⟩ := List.exists_cons_of_ne_nil (slashParts_ne_nil id.text)
  rcases List.eq_nil_or_concat rest with rfl | ⟨inner, last, rfl⟩
  · -- an id without slashes
    have hone : '/' ∉ id.fileName.toList := by
      have htext : id.text = first := by
        rw [← intercalate_slashParts id.text, hparts, String.intercalate_singleton]
      have hfirst := @slash_not_mem_of_mem_slashParts id.text first (by simp [hparts])
      simpa [ModuleId.fileName, htext] using hfirst
    rw [below_iff, slashParts_of_not_mem hone, innerParts, hparts]
    simp [ModuleId.fileName, isProper_append_js]
  · rw [List.concat_eq_append] at hparts
    have hfirst : IsProper ("module-" ++ first) := by
      refine isProper_of_length ?_
      rw [String.length_append, show "module-".length = 7 from rfl]
      omega
    rw [below_iff, slashParts_fileName_id hparts, innerParts, hparts]
    simp [hfirst, isProper_append_js, or_imp, forall_and]

/-- An id without a slash has a name below the directory. -/
theorem below_fileName_id_of_not_mem {id : ModuleId} (h : '/' ∉ id.text.toList) : Below id.fileName := by
  rw [below_fileName_id, innerParts, slashParts_of_not_mem h]
  simp

end Deminify.Bundle
