import Mathlib.Data.List.Basic
import Deminify.Proofs.Bundle.Unpacked

/-!
# The names of the modules of a webpack bundle

The file name of a module is made from a path, which is its id if that looks like one, or else what a comment
says. So **a file name that is the id of a module too is the file name of that module**
(`Deminify.Bundle.eq_of_mem_names`), for three reasons. An id that looks like a path has the file name that is
made from it, whatever a comment says (`Deminify.Bundle.Registry.NamesPaths`); a file name looks like a path
(`Deminify.Bundle.isPathLike_fileName`); and the file name made from a file name is that name
(`Deminify.Bundle.fileName_fileName`).
-/

namespace Deminify

/-! ### File names look like paths -/

namespace Bundle

/-- A text that ends with an extension looks like a path. -/
theorem isPathLike_append {front : List Char} {first : Char} {more : List Char} (hfirst : first.isAlpha = true)
    (hword : (first :: more).all Text.isWord = true) :
    isPathLike (String.ofList (front ++ '.' :: first :: more)) = true := by
  rw [List.all_eq_true] at hword
  have hne : first :: more ≠ [] := List.cons_ne_nil first more
  have hlast : ¬((front ++ '.' :: first :: more).getLast? == some '\n') = true := by
    rw [beq_iff_eq, List.append_cons, List.getLast?_append_of_ne_nil _ hne]
    intro hlast
    have hbreak := hword _ (List.mem_of_getLast? hlast)
    exact absurd hbreak (by decide)
  have hreverse : (front ++ '.' :: first :: more).reverse = (first :: more).reverse ++ '.' :: front.reverse := by
    rw [List.reverse_append, List.reverse_cons, List.append_assoc, List.singleton_append]
  have hall : ∀ c ∈ (first :: more).reverse, Text.isWord c = true := fun c hc => hword c (List.mem_reverse.mp hc)
  have hdot : Text.isWord '.' = false := by decide
  have htake : ((first :: more).reverse ++ '.' :: front.reverse).takeWhile Text.isWord = (first :: more).reverse := by
    rw [List.takeWhile_append_of_pos hall, List.takeWhile_cons_of_neg (by rw [hdot]; decide), List.append_nil]
  have hdrop : ((first :: more).reverse ++ '.' :: front.reverse).dropWhile Text.isWord = '.' :: front.reverse := by
    rw [List.dropWhile_append_of_pos hall, List.dropWhile_cons_of_neg (by rw [hdot]; decide)]
  simp only [isPathLike, String.toList_ofList, beforeLastBreak, if_neg hlast, hreverse, htake, hdrop]
  rw [List.getLast?_reverse, List.head?_cons, List.head?_cons, Option.any_some, hfirst, beq_self_eq_true,
    Bool.and_self, Bool.or_true]

/-- A name with an extension looks like a path. -/
theorem isPathLike_of_isScriptName {name : String} (h : isScriptName name = true) : isPathLike name = true := by
  have hwords : ∀ extension ∈ [".js", ".mjs", ".cjs", ".jsx"], ∃ first more,
      extension.toList = '.' :: first :: more ∧ first.isAlpha = true ∧
        (first :: more).all Text.isWord = true := by
    simp only [List.forall_mem_cons]
    exact ⟨⟨'j', ['s'], rfl, rfl, rfl⟩, ⟨'m', ['j', 's'], rfl, rfl, rfl⟩, ⟨'c', ['j', 's'], rfl, rfl, rfl⟩,
      ⟨'j', ['s', 'x'], rfl, rfl, rfl⟩, nofun⟩
  obtain ⟨extension, hmem, hends⟩ := isScriptName_iff.mp h
  obtain ⟨first, more, hlist, hfirst, hword⟩ := hwords extension hmem
  rw [hlist] at hends
  obtain ⟨front, hfront⟩ := hends
  have hpath : isPathLike (String.ofList (front ++ '.' :: first :: more)) = true := isPathLike_append hfirst hword
  rw [hfront] at hpath
  simpa using hpath

theorem isPathLike_fileName (path : String) : isPathLike (fileName path) = true :=
  isPathLike_of_isScriptName (isFileName_fileName path).extension

/-! ### The names of a webpack bundle -/

namespace Registry

/-- A module whose id looks like a path has the file name that is made from its id. -/
def NamesPaths (r : Registry) : Prop :=
  ∀ s name, (ModuleId.name s, name) ∈ r.names → isPathLike s = true → name = Bundle.fileName s

variable {r r' : Registry} {origin : Origin} {id : ModuleId}

theorem namesPaths_empty : ({} : Registry).NamesPaths := nofun

/-- A path is noted of an id that looks like one only if it is the id, or if it comes too late. -/
theorem NamesPaths.addPath (h : r.NamesPaths) {path : Option String}
    (hid : ∀ s, id = .name s → isPathLike s = true → (r.names.lookup id).isSome = true ∨ ∀ p ∈ path, p = s) :
    (r.addPath id path).NamesPaths := by
  cases path with
  | none => exact h
  | some p =>
    rw [Registry.addPath]
    split
    · exact h
    · rename_i hnew
      rw [Bool.or_eq_true, not_or] at hnew
      intro s name hmem hlike
      rcases List.mem_append.mp hmem with hmem | hmem
      · exact h s name hmem hlike
      · cases List.mem_singleton.mp hmem
        rcases hid s rfl hlike with hknown | hown
        · exact absurd hknown hnew.2
        · rw [hown p rfl]

/-- Once an id that looks like a path has been noted, the module has a name. -/
theorem isSome_addPath_id (hr : r.InStep) {s : String} (hlike : isPathLike s = true) :
    ((r.addPath (.name s) ((ModuleId.name s).name?.filter isPathLike)).names.lookup (.name s)).isSome = true := by
  have hne : s ≠ "" := by
    rintro rfl
    exact absurd hlike (by decide)
  rw [(hr.addPath _ _).lookup, Option.isSome_map, ModuleId.name?, Option.filter_some, if_pos hlike]
  exact isSome_addPath_self hr _ hne

theorem readObject_namesPaths {object : Tree} (h : readObject origin r object = .ok r') (hr : r.InStep)
    (hn : r.NamesPaths) : r'.NamesPaths := by
  refine And.right (foldlM_induct (P := fun r => r.InStep ∧ r.NamesPaths) h ⟨hr, hn⟩ ?_)
  intro r property r' _ hkept h
  obtain ⟨hr, hn⟩ := hkept
  simp only at h
  split at h
  · cases h
    exact ⟨hr, hn⟩
  split at h
  · cases h
    exact ⟨hr, hn⟩
  rename_i id hid
  split at h
  · cases h
    exact ⟨hr, hn⟩
  obtain ⟨code, -, rfl⟩ := addFactory_eq_ok h
  refine ⟨(hr.addPath _ _).addPath _ _, (hn.addPath ?_).addPath ?_⟩
  · rintro s rfl hlike
    refine .inr fun p hp => ?_
    rw [ModuleId.name?, Option.filter_some, if_pos hlike] at hp
    exact (Option.some.inj hp).symm
  · rintro s rfl hlike
    exact .inl (isSome_addPath_id hr hlike)

theorem readArray_namesPaths {elements : List Tree} (h : readArray origin r elements = .ok r') (hn : r.NamesPaths) :
    r'.NamesPaths := by
  refine foldlM_induct (P := NamesPaths) h hn ?_
  intro r element r' _ hn h
  simp only at h
  split at h
  · cases h
    exact hn
  obtain ⟨code, -, rfl⟩ := addFactory_eq_ok h
  exact hn.addPath nofun

end Registry

section Webpack

variable {origin : Origin} {call : Tree} {b : Bundle}

theorem exists_namesPaths_of_readBootstrap? (h : readBootstrap? origin call = .ok (some b)) :
    ∃ r : Registry, b.names ⊆ r.names ∧ r.InStep ∧ r.NamesPaths := by
  rw [readBootstrap?] at h
  split at h
  · simp only at h
    split at h <;> obtain ⟨r, hread, h⟩ := bind_eq_ok.mp h <;> cases h
    · obtain ⟨hr, -⟩ := Registry.readArray_keeps hread Registry.inStep_empty Registry.slashesHavePaths_empty
      exact ⟨r, List.filter_subset_self _, hr, Registry.readArray_namesPaths hread Registry.namesPaths_empty⟩
    · obtain ⟨hr, -⟩ := Registry.readObject_keeps hread Registry.inStep_empty Registry.slashesHavePaths_empty
      exact ⟨r, List.filter_subset_self _, hr,
        Registry.readObject_namesPaths hread Registry.inStep_empty Registry.namesPaths_empty⟩
  · cases h

theorem exists_namesPaths_of_readRuntime? (h : readRuntime? origin call = .ok (some b)) :
    ∃ r : Registry, b.names ⊆ r.names ∧ r.InStep ∧ r.NamesPaths := by
  rw [readRuntime?] at h
  split at h
  · cases h
  obtain ⟨r, hread, h⟩ := bind_eq_ok.mp h
  obtain ⟨hr, -⟩ := Registry.readObject_keeps hread Registry.inStep_empty Registry.slashesHavePaths_empty
  have hn := Registry.readObject_namesPaths hread Registry.inStep_empty Registry.namesPaths_empty
  simp only at h
  split at h
  · cases h
    exact ⟨r, List.filter_subset_self _, hr, hn⟩
  · obtain ⟨entry, -, h⟩ := bind_eq_ok.mp h
    cases h
    exact ⟨r, List.filter_subset_self _, hr, hn⟩

/-- **The names of a webpack bundle are file names**, and an id that looks like a path has the one made from
it. -/
theorem names_of_unpack {source : String} (h : unpack source = .ok b) (hb : b.bundler ≠ "browserify")
    {id : ModuleId} {name : String} (hmem : (id, name) ∈ b.names) :
    (∃ path, name = fileName path) ∧ ∀ s, id = .name s → isPathLike s = true → name = fileName s := by
  obtain ⟨r, hsub, hr, hn⟩ : ∃ r : Registry, b.names ⊆ r.names ∧ r.InStep ∧ r.NamesPaths := by
    obtain ⟨p, -, call, -, hcall⟩ := exists_of_unpack h
    rcases readCall?_cases hcall with h | h | h
    · exact absurd (bundler_of_readDefinitions? h) hb
    · exact exists_namesPaths_of_readBootstrap? h
    · exact exists_namesPaths_of_readRuntime? h
  have hmem := hsub hmem
  refine ⟨?_, ?_⟩
  · rw [hr] at hmem
    obtain ⟨⟨id', path⟩, -, heq⟩ := List.mem_map.mp hmem
    cases heq
    exact ⟨path, rfl⟩
  · rintro s rfl hlike
    exact hn s name hmem hlike

/-- **A file name that is an id too stands for itself.** -/
theorem eq_of_mem_names {source : String} (h : unpack source = .ok b) (hb : b.bundler ≠ "browserify") {id : ModuleId}
    {name other : String} (hname : (id, name) ∈ b.names) (hother : (.name name, other) ∈ b.names) : other = name := by
  obtain ⟨⟨path, rfl⟩, -⟩ := names_of_unpack h hb hname
  obtain ⟨-, hown⟩ := names_of_unpack h hb hother
  rw [hown _ rfl (isPathLike_fileName path), fileName_fileName]

end Webpack

end Bundle

end Deminify
