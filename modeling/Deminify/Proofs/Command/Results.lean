import Mathlib.Data.List.Nodup
import Deminify.Command.Files

/-!
# Where the results of files go

A command works on the files that its operands stand for and writes each result below the output
directory. This module says which files those are and which of them have their results at the same
path.

Every operand stands for the files below some directory: itself, or the directory that a named file
lies in (`Deminify.Command.base`). A file lies below that directory exactly as its result lies below
the output directory (`Deminify.Command.InputFile.IsBelow`), so the path of a result says where the
file lies but not below what. Files are told apart by their own paths
(`Deminify.Command.nodup_inputFiles`), results are not: **two files have their results at one path if
and only if they lie at that path below two different directories**
(`Deminify.Command.result_eq_iff`), and then one result takes the place of the other.
-/

namespace Deminify

/-! ### Paths below a directory -/

namespace Path

/-- Double points are followed part by part. -/
theorem resolved_join {p q : Path} (hq : q.absolute = false) :
    (p.join q).resolved = q.parts.foldl step p.resolved := by
  rw [join, hq, resolved, resolved]
  exact List.foldl_append

end Path

namespace Command

/-! ### Files not met before -/

section Unseen

variable {seen : List Path} {files : List InputFile} {f : InputFile}

theorem mem_of_mem_unseen (h : f ∈ unseen seen files) : f ∈ files ∧ f.file.resolved ∉ seen := by
  induction files generalizing seen with
  | nil => cases h
  | cons g rest ih =>
    rw [unseen] at h
    split at h
    · exact ⟨List.mem_cons_of_mem _ (ih h).1, (ih h).2⟩
    · rename_i hg
      rcases List.mem_cons.mp h with rfl | h
      · exact ⟨List.mem_cons_self, by simpa using hg⟩
      · obtain ⟨hm, hs⟩ := ih h
        exact ⟨List.mem_cons_of_mem _ hm, fun hc => hs (List.mem_cons_of_mem _ hc)⟩

/-- No two of them are the same file. -/
theorem nodup_unseen (seen : List Path) (files : List InputFile) :
    ((unseen seen files).map (·.file.resolved)).Nodup := by
  induction files generalizing seen with
  | nil => exact List.nodup_nil
  | cons g rest ih =>
    rw [unseen]
    split
    · exact ih seen
    · refine List.nodup_cons.mpr ⟨fun hm => ?_, ih _⟩
      obtain ⟨f, hf, hfg⟩ := List.mem_map.mp hm
      exact (mem_of_mem_unseen hf).2 (hfg ▸ List.mem_cons_self)

/-- No file is lost. -/
theorem exists_mem_unseen (hf : f ∈ files) (hs : f.file.resolved ∉ seen) :
    ∃ g ∈ unseen seen files, g.file.resolved = f.file.resolved := by
  induction files generalizing seen with
  | nil => cases hf
  | cons g rest ih =>
    rw [unseen]
    split
    · rename_i hg
      rcases List.mem_cons.mp hf with rfl | hf
      · exact absurd (by simpa using hg) hs
      · exact ih hf hs
    · rcases List.mem_cons.mp hf with rfl | hf
      · exact ⟨f, List.mem_cons_self, rfl⟩
      · by_cases hfg : f.file.resolved = g.file.resolved
        · exact ⟨g, List.mem_cons_self, hfg.symm⟩
        · obtain ⟨k, hk, hkf⟩ := ih hf fun hc => (List.mem_cons.mp hc).elim hfg hs
          exact ⟨k, List.mem_cons_of_mem _ hk, hkf⟩

end Unseen

/-! ### Candidates -/

/-- The directory below which the files lie that an operand stands for. -/
def base (d : Disk) (operand : Path) : Path := if d.isFile operand then operand.parent else operand

/-- Whether a file lies below a directory as its result lies below the output directory. -/
def InputFile.IsBelow (f : InputFile) (directory : Path) : Prop :=
  f.file = directory.join f.result ∧ f.result.absolute = false

/-- What has no parts is a directory. -/
theorem parts_ne_nil_of_isFile {d : Disk} {p : Path} (h : d.isFile p = true) : p.parts ≠ [] := by
  intro hnil
  have hreach : d.reach p = .ok { absolute := p.absolute } ∨ ∃ f, d.reach p = .error f := by
    rw [Disk.reach, hnil]
    split
    · exact .inr ⟨_, rfl⟩
    · split
      · exact .inr ⟨_, rfl⟩
      · exact .inl rfl
  rcases hreach with hq | ⟨f, hq⟩ <;> simp [Disk.isFile, Disk.find?, hq, Disk.entry?] at h

/-- **The files that an operand stands for** lie below its directory as their results do. -/
theorem isBelow_of_mem_candidates {d : Disk} {operand : Path} {f : InputFile}
    (h : f ∈ candidates d operand) : f.IsBelow (base d operand) := by
  rw [candidates] at h
  rw [base]
  split at h
  · rename_i hfile
    obtain rfl := List.mem_singleton.mp h
    have hparts : operand.parts.dropLast ++ [operand.name] = operand.parts := by
      have hne := parts_ne_nil_of_isFile hfile
      rw [Path.name, List.getLast?_eq_some_getLast hne, Option.getD_some,
        List.dropLast_append_getLast hne]
    refine ⟨?_, rfl⟩
    rw [if_pos hfile, Path.join, Path.parent]
    simp [hparts]
  · rename_i hfile
    obtain ⟨parts, -, hparts⟩ := List.mem_filterMap.mp h
    rw [if_neg hfile]
    dsimp only at hparts
    split at hparts
    · cases hparts
      exact ⟨rfl, rfl⟩
    · cases hparts

/-- Where the files of an operand lie, the result of a file says which it is. -/
theorem resolved_of_isBelow {f g : InputFile} {p q : Path} (hf : f.IsBelow p) (hg : g.IsBelow q)
    (hpq : p.resolved = q.resolved) (h : f.result = g.result) : f.file.resolved = g.file.resolved := by
  rw [hf.1, hg.1, Path.resolved_join hf.2, Path.resolved_join hg.2, hpq, h]

/-! ### The files to work on -/

section InputFiles

variable {d : Disk} {operands : List Path} {skipped : List String} {f g : InputFile}

theorem mem_candidates_of_mem_inputFiles (h : f ∈ inputFiles d operands skipped) :
    ∃ o ∈ operands, f ∈ candidates d o :=
  List.mem_flatMap.mp (List.mem_filter.mp (mem_of_mem_unseen h).1).1

/-- **No file is taken twice.** -/
theorem nodup_inputFiles (d : Disk) (operands : List Path) (skipped : List String) :
    ((inputFiles d operands skipped).map (·.file.resolved)).Nodup := nodup_unseen _ _

theorem eq_of_resolved (hf : f ∈ inputFiles d operands skipped)
    (hg : g ∈ inputFiles d operands skipped) (h : f.file.resolved = g.file.resolved) : f = g :=
  List.inj_on_of_nodup_map (nodup_inputFiles d operands skipped) hf hg h

/-- Two files whose results are at one path lie at that path below different directories. -/
theorem exists_bases_of_result_eq (hf : f ∈ inputFiles d operands skipped)
    (hg : g ∈ inputFiles d operands skipped) (hne : f ≠ g) (h : f.result = g.result) :
    ∃ o ∈ operands, ∃ p ∈ operands, (base d o).resolved ≠ (base d p).resolved ∧
      f = ⟨(base d o).join f.result, f.result⟩ ∧ g = ⟨(base d p).join f.result, f.result⟩ := by
  obtain ⟨o, ho, hfo⟩ := mem_candidates_of_mem_inputFiles hf
  obtain ⟨p, hp, hgp⟩ := mem_candidates_of_mem_inputFiles hg
  have hbf := isBelow_of_mem_candidates hfo
  have hbg := isBelow_of_mem_candidates hgp
  refine ⟨o, ho, p, hp, fun hop => hne ?_, ?_, ?_⟩
  · exact eq_of_resolved hf hg (resolved_of_isBelow hbf hbg hop h)
  · rw [← hbf.1]
  · rw [h, ← hbg.1]

end InputFiles

/-- **Which results are at one path.** A command takes no file twice and loses none that it does not
skip. Two of the files it takes have their results at one path if and only if they lie at that path
below two different directories that operands stand for; so if all operands stand for one directory,
every file has a result of its own. -/
theorem result_eq_iff (d : Disk) (operands : List Path) (skipped : List String) :
    ((inputFiles d operands skipped).map (·.file.resolved)).Nodup ∧
    (∀ o ∈ operands, ∀ f ∈ candidates d o, isSkipped skipped f.file = false →
      ∃ g ∈ inputFiles d operands skipped, g.file.resolved = f.file.resolved) ∧
    (∀ f ∈ inputFiles d operands skipped, ∀ g ∈ inputFiles d operands skipped, f ≠ g →
      (f.result = g.result ↔ ∃ o ∈ operands, ∃ p ∈ operands, ∃ place,
        (base d o).resolved ≠ (base d p).resolved ∧
          f = ⟨(base d o).join place, place⟩ ∧ g = ⟨(base d p).join place, place⟩)) ∧
    ((∀ o ∈ operands, ∀ p ∈ operands, (base d o).resolved = (base d p).resolved) →
      ((inputFiles d operands skipped).map (·.result)).Nodup) := by
  refine ⟨nodup_inputFiles d operands skipped, ?_, ?_, fun hone => ?_⟩
  · intro o ho f hf hskip
    refine exists_mem_unseen ?_ List.not_mem_nil
    exact List.mem_filter.mpr ⟨List.mem_flatMap.mpr ⟨o, ho, hf⟩, by rw [hskip]; rfl⟩
  · intro f hf g hg hne
    constructor
    · intro h
      obtain ⟨o, ho, p, hp, hop, hfo, hgp⟩ := exists_bases_of_result_eq hf hg hne h
      exact ⟨o, ho, p, hp, f.result, hop, hfo, hgp⟩
    · rintro ⟨o, -, p, -, place, -, rfl, rfl⟩
      rfl
  · refine List.Nodup.map_on (fun f hf g hg h => ?_) (List.Nodup.of_map _ (nodup_inputFiles d operands skipped))
    by_contra hne
    obtain ⟨o, ho, p, hp, hop, -⟩ := exists_bases_of_result_eq hf hg hne h
    exact hop (hone o ho p hp)

/-- A directory with two files of one name, one of which is named besides: each has a result of its
own. -/
theorem result_eq_iff_directory :
    let file (parts : List String) : Path × Disk.Entry := (⟨false, parts, false⟩, .file .empty)
    let directory (parts : List String) : Path × Disk.Entry := (⟨false, parts, false⟩, .directory)
    let d : Disk := ⟨[directory ["s"], file ["s", "x.js"], directory ["s", "t"], file ["s", "t", "x.js"]]⟩
    let operands : List Path := [⟨false, ["s", "x.js"], false⟩, ⟨false, ["s"], false⟩]
    (∀ o ∈ operands, ∀ p ∈ operands, (base d o).resolved = (base d p).resolved) ∧
      ((inputFiles d operands ["y"]).map (·.result)).Nodup := by
  intro file directory d operands
  have h : ∀ o ∈ operands, ∀ p ∈ operands, (base d o).resolved = (base d p).resolved := by decide +kernel
  exact ⟨h, (result_eq_iff d operands ["y"]).2.2.2 h⟩

/-- Two files of one name in two directories: their results are at one path. -/
theorem not_nodup_results : ∃ d operands, ¬((inputFiles d operands []).map (·.result)).Nodup := by
  let directory (name : String) : Path × Disk.Entry := (⟨false, [name], false⟩, .directory)
  let file (name : String) : Path := ⟨false, [name, "x.js"], false⟩
  refine ⟨⟨[directory "a", (file "a", .file .empty), directory "b", (file "b", .file .empty)]⟩,
    [file "a", file "b"], ?_⟩
  decide +kernel

end Command

end Deminify
