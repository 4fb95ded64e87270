import Std.Data.String.ToInt
import Deminify.Bundle.Unpack
import Deminify.Proofs.Bundle.FileName
import Deminify.Proofs.Tree.Node

/-!
# The files of an unpacked bundle

Two questions about the files that the modules of a bundle are written to: **which of them are below
the output directory** (`Deminify.Bundle.below_fileNameOf_iff`), and **which modules are written to one
file**, so that the later one takes the place of the earlier
(`Deminify.Bundle.fileNameOf_eq_iff`, with the ways it can happen in `Deminify.Bundle.Clash`).

Whatever the form of a bundle, what is read of it is kept in a registry, and a registry gets its
modules and their paths from two operations only. So what holds of the files of a bundle is what these
two keep: paths and file names are noted together (`Deminify.Bundle.Registry.InStep`), and where the
ids are looked at, one with a slash in it has a path before its module is added
(`Deminify.Bundle.Registry.SlashesHavePaths`).

## Where the files go astray

The ids of definitions are never looked at, and so a name that is made from such an id leads wherever
the id does (`Deminify.Bundle.not_below_fileNameOf_definition`). And a path is what one module calls
another by, which is relative to the one that calls: two modules may go by one path
(`Deminify.Bundle.fileNameOf_eq_required`).
-/

namespace Deminify

/-- What every step of a fold keeps is kept by the fold. -/
theorem foldlM_induct {α β ε : Type} {P : β → Prop} {step : β → α → Except ε β} {l : List α} {b c : β}
    (h : l.foldlM step b = .ok c) (hb : P b)
    (hstep : ∀ {b a c}, a ∈ l → P b → step b a = .ok c → P c) : P c := by
  induction l generalizing b with
  | nil =>
    cases h
    exact hb
  | cons a rest ih =>
    rw [List.foldlM_cons] at h
    obtain ⟨next, hnext, h⟩ := bind_eq_ok.mp h
    exact ih h (hstep List.mem_cons_self hb hnext) fun ha => hstep (List.mem_cons_of_mem _ ha)

/-- What is found among items is found for one of them. -/
theorem exists_of_findSomeM? {α β ε : Type} {question : α → Except ε (Option β)} {l : List α} {b : β}
    (h : l.findSomeM? question = .ok (some b)) : ∃ a ∈ l, question a = .ok (some b) := by
  induction l with
  | nil => cases h
  | cons a rest ih =>
    rw [List.findSomeM?_cons] at h
    obtain ⟨answer, ha, h⟩ := bind_eq_ok.mp h
    cases answer with
    | some found =>
      cases h
      exact ⟨a, List.mem_cons_self, ha⟩
    | none =>
      obtain ⟨a', ha', hfound⟩ := ih h
      exact ⟨a', List.mem_cons_of_mem _ ha', hfound⟩

section Lookup

variable {α β γ : Type} [BEq α] {table : List (α × β)} {key : α}

theorem lookup_map_value (f : β → γ) :
    (table.map fun entry => (entry.1, f entry.2)).lookup key = (table.lookup key).map f := by
  induction table with
  | nil => rfl
  | cons entry rest ih =>
    rw [List.map_cons, List.lookup_cons, List.lookup_cons, ih]
    split <;> rfl

/-- A key that is kept is found as before. -/
theorem lookup_filter_key [LawfulBEq α] {p : α → Bool} (h : p key = true) :
    (table.filter fun entry => p entry.1).lookup key = table.lookup key := by
  induction table with
  | nil => rfl
  | cons entry rest ih =>
    obtain ⟨k, value⟩ := entry
    by_cases hk : key = k
    · subst hk
      rw [List.filter_cons, if_pos h, List.lookup_cons_self, List.lookup_cons_self]
    · have hne : (key == k) = false := by simpa using hk
      rw [List.lookup_cons, hne, List.filter_cons]
      split
      · rw [List.lookup_cons, hne]
        exact ih
      · exact ih

end Lookup

namespace Bundle

/-! ### Registries -/

namespace Registry

/-- Every file name is that of a path, and a path is known of the same modules. -/
def InStep (r : Registry) : Prop :=
  r.names = r.paths.map fun entry => (entry.1, Bundle.fileName entry.2)

/-- A path is known of every module whose id has a slash in it. -/
def SlashesHavePaths (r : Registry) : Prop :=
  ∀ m ∈ r.modules, '/' ∈ m.id.text.toList → (r.paths.lookup m.id).isSome

variable {r : Registry} {id : ModuleId}

theorem InStep.lookup (h : r.InStep) (id : ModuleId) :
    r.names.lookup id = (r.paths.lookup id).map Bundle.fileName := by
  rw [h, lookup_map_value]

/-- What noting a path can do: nothing, or add the path and its file name. -/
theorem addPath_cases (r : Registry) (id : ModuleId) (path : Option String) :
    r.addPath id path = r ∨ ∃ p, r.addPath id path =
      { r with names := r.names ++ [(id, Bundle.fileName p)], paths := r.paths ++ [(id, p)] } := by
  cases path with
  | none => exact .inl rfl
  | some p =>
    rw [addPath]
    split
    · exact .inl rfl
    · exact .inr ⟨p, rfl⟩

@[simp] theorem modules_addPath (r : Registry) (id : ModuleId) (path : Option String) :
    (r.addPath id path).modules = r.modules := by
  obtain h | ⟨_, h⟩ := addPath_cases r id path <;> rw [h]

theorem InStep.addPath (h : r.InStep) (id : ModuleId) (path : Option String) :
    (r.addPath id path).InStep := by
  obtain heq | ⟨p, heq⟩ := addPath_cases r id path
  · rw [heq]
    exact h
  · rw [heq, InStep, List.map_append, ← h]
    rfl

/-- A path that is known stays known. -/
theorem isSome_addPath {other : ModuleId} (path : Option String) (h : (r.paths.lookup id).isSome) :
    ((r.addPath other path).paths.lookup id).isSome := by
  obtain heq | ⟨p, heq⟩ := addPath_cases r other path
  · rwa [heq]
  · rw [heq, List.lookup_append, Option.isSome_or, h, Bool.true_or]

/-- A path that is noted is known, or another was. -/
theorem isSome_addPath_self (h : r.InStep) (id : ModuleId) {p : String} (hp : p ≠ "") :
    ((r.addPath id (some p)).paths.lookup id).isSome := by
  have hempty : p.isEmpty = false := by simpa using hp
  rw [addPath, hempty, Bool.false_or]
  split
  · rename_i hknown
    rwa [h.lookup, Option.isSome_map] at hknown
  · rw [List.lookup_append, Option.isSome_or, List.lookup_cons_self, Option.isSome_some, Bool.or_true]

theorem addFactory_eq_ok {origin : Origin} {parameters : List String} {factory : Tree} {r' : Registry}
    (h : r.addFactory origin parameters id factory = .ok r') :
    ∃ code, factoryCode origin parameters factory = .ok code ∧
      r' = { r with modules := r.modules ++ [⟨id, code, false, none⟩] } := by
  obtain ⟨code, hcode, h⟩ := bind_eq_ok.mp h
  cases h
  exact ⟨code, hcode, rfl⟩

theorem InStep.addFactory {origin : Origin} {parameters : List String} {factory : Tree} {r' : Registry}
    (hr : r.InStep) (h : r.addFactory origin parameters id factory = .ok r') : r'.InStep := by
  obtain ⟨code, -, rfl⟩ := addFactory_eq_ok h
  exact hr

/-- A module that has a path, or an id without a slash, may be added. -/
theorem SlashesHavePaths.append (h : r.SlashesHavePaths) {m : Module}
    (hm : '/' ∈ m.id.text.toList → (r.paths.lookup m.id).isSome) :
    { r with modules := r.modules ++ [m] }.SlashesHavePaths := by
  intro n hn
  rcases List.mem_append.mp hn with hn | hn
  · exact h n hn
  · rw [List.mem_singleton.mp hn]
    exact hm

theorem SlashesHavePaths.addPath (h : r.SlashesHavePaths) (id : ModuleId) (path : Option String) :
    (r.addPath id path).SlashesHavePaths := by
  intro m hm hslash
  rw [modules_addPath] at hm
  exact isSome_addPath path (h m hm hslash)

/-- The file name of a module of the bundle is made from its path, or else from its id. -/
theorem fileNameOf_bundle (h : r.InStep) {bundler : String} {m : Module}
    (hm : m ∈ (r.bundle bundler).modules) :
    (r.bundle bundler).fileNameOf m = (m.path.map Bundle.fileName).getD m.id.fileName := by
  obtain ⟨n, hn, rfl⟩ := List.mem_map.mp hm
  have hknown : (r.modules.any (·.id == n.id)) = true := List.any_eq_true.mpr ⟨n, hn, beq_self_eq_true _⟩
  have hlookup : (r.bundle bundler).names.lookup n.id = (r.paths.lookup n.id).map Bundle.fileName := by
    rw [← h.lookup]
    exact @lookup_filter_key _ _ _ r.names n.id _ (fun id => r.modules.any (·.id == id)) hknown
  rw [fileNameOf]
  simp only [hlookup]
  cases r.paths.lookup n.id with
  | none => rfl
  | some path => simp [fileName_ne_empty]

end Registry

/-! ### Reading registries -/

theorem slash_not_mem_number (n : Int) : '/' ∉ (ModuleId.number n).text.toList := by
  have hdigits (k : Nat) : '/' ∉ k.repr.toList := by
    intro hmem
    rw [Nat.toList_repr] at hmem
    exact absurd (Nat.isDigit_of_mem_toDigits (by decide) (by decide) hmem) (by decide)
  rw [ModuleId.text, Int.toString_eq_repr, Int.repr_eq_if]
  split
  · exact hdigits _
  · simpa using hdigits _

namespace Registry

variable {r r' : Registry} {origin : Origin}

/-- An id with a slash is a path of its own. -/
theorem isSome_addPath_of_slash (h : r.InStep) {id : ModuleId} (hslash : '/' ∈ id.text.toList) :
    ((r.addPath id (id.name?.filter isPathLike)).paths.lookup id).isSome := by
  cases id with
  | number n => exact absurd hslash (slash_not_mem_number n)
  | name s =>
    have hlike : isPathLike s = true := by
      have hmem : '/' ∈ s.toList := hslash
      simp [isPathLike, hmem]
    have hne : s ≠ "" := by
      rintro rfl
      cases hslash
    rw [ModuleId.name?, Option.filter_some, if_pos hlike]
    exact isSome_addPath_self h _ hne

theorem readObject_keeps {object : Tree} (h : readObject origin r object = .ok r') (hr : r.InStep)
    (hp : r.SlashesHavePaths) : r'.InStep ∧ r'.SlashesHavePaths := by
  refine foldlM_induct (P := fun r => r.InStep ∧ r.SlashesHavePaths) h ⟨hr, hp⟩ ?_
  intro r property r' _ hkept h
  obtain ⟨hr, hp⟩ := hkept
  simp only at h
  split at h
  · cases h
    exact ⟨hr, hp⟩
  split at h
  · cases h
    exact ⟨hr, hp⟩
  rename_i id hid
  split at h
  · cases h
    exact ⟨hr, hp⟩
  obtain ⟨code, -, rfl⟩ := addFactory_eq_ok h
  refine ⟨(hr.addPath _ _).addPath _ _, ((hp.addPath _ _).addPath _ _).append fun hslash => ?_⟩
  exact isSome_addPath _ (isSome_addPath_of_slash hr hslash)

theorem readArray_keeps {elements : List Tree} (h : readArray origin r elements = .ok r') (hr : r.InStep)
    (hp : r.SlashesHavePaths) : r'.InStep ∧ r'.SlashesHavePaths := by
  refine foldlM_induct (P := fun r => r.InStep ∧ r.SlashesHavePaths) h ⟨hr, hp⟩ ?_
  intro r element r' _ hkept h
  obtain ⟨hr, hp⟩ := hkept
  simp only at h
  split at h
  · cases h
    exact ⟨hr, hp⟩
  obtain ⟨code, -, rfl⟩ := addFactory_eq_ok h
  exact ⟨hr.addPath _ _, (hp.addPath _ _).append fun hslash => absurd hslash (slash_not_mem_number _)⟩

theorem InStep.addDependencies (h : r.InStep) (dependencies : Tree) :
    (addDependencies r dependencies).InStep := by
  rw [Bundle.addDependencies]
  induction (dependencies.get "properties").items generalizing r with
  | nil => exact h
  | cons dependency rest ih =>
    refine ih ?_
    simp only
    split
    · split
      · exact h.addPath _ _
      · exact h
    · exact h

/-- **What is known of a registry that a bundle comes from.** Only for definitions are the ids not
looked at. -/
structure Gives (r : Registry) (b : Bundle) : Prop where
  eq_bundle : b = r.bundle b.bundler
  inStep : r.InStep
  slashes : b.bundler ≠ "browserify" → r.SlashesHavePaths

theorem inStep_empty : ({} : Registry).InStep := rfl

theorem slashesHavePaths_empty : ({} : Registry).SlashesHavePaths := by
  intro m hm
  cases hm

end Registry

variable {origin : Origin} {call : Tree} {b : Bundle}

theorem exists_of_readDefinitions? (h : readDefinitions? origin call = .ok (some b)) :
    ∃ r : Registry, r.Gives b := by
  rw [readDefinitions?] at h
  split at h
  · cases h
  obtain ⟨r, hfold, h⟩ := bind_eq_ok.mp h
  cases h
  have hr : r.InStep := by
    refine foldlM_induct (P := Registry.InStep) hfold Registry.inStep_empty ?_
    intro r definition r' _ hr h
    obtain ⟨added, hadded, h⟩ := bind_eq_ok.mp h
    cases h
    exact (hr.addFactory hadded).addDependencies _
  exact ⟨_, rfl, hr, fun hne => absurd rfl hne⟩

theorem bundler_of_readDefinitions? (h : readDefinitions? origin call = .ok (some b)) : b.bundler = "browserify" := by
  rw [readDefinitions?] at h
  split at h
  · cases h
  obtain ⟨r, -, h⟩ := bind_eq_ok.mp h
  cases h
  rfl

theorem exists_of_readBootstrap? (h : readBootstrap? origin call = .ok (some b)) :
    ∃ r : Registry, r.Gives b := by
  rw [readBootstrap?] at h
  split at h
  · simp only at h
    split at h <;> obtain ⟨r, hread, h⟩ := bind_eq_ok.mp h <;> cases h
    · obtain ⟨hr, hp⟩ :=
        Registry.readArray_keeps hread Registry.inStep_empty Registry.slashesHavePaths_empty
      exact ⟨_, rfl, hr, fun _ => hp⟩
    · obtain ⟨hr, hp⟩ :=
        Registry.readObject_keeps hread Registry.inStep_empty Registry.slashesHavePaths_empty
      exact ⟨_, rfl, hr, fun _ => hp⟩
  · cases h

theorem bundler_of_readBootstrap? (h : readBootstrap? origin call = .ok (some b)) : b.bundler = "webpack4" := by
  rw [readBootstrap?] at h
  split at h
  · simp only at h
    split at h <;> obtain ⟨r, -, h⟩ := bind_eq_ok.mp h <;> cases h <;> rfl
  · cases h

theorem id_inlineEntry {statements : List Tree} {require : String} {entry : Module}
    (h : inlineEntry origin statements require = .ok entry) : entry.id = .name "entry" := by
  have hlast {d : Document} (h : (do return (⟨.name "entry", ← d.root.print (some origin.source), true,
      none⟩ : Module)) = Except.ok entry) : entry.id = .name "entry" := by
    obtain ⟨code, -, h⟩ := bind_eq_ok.mp h
    cases h
    rfl
  simp only [inlineEntry] at h
  split at h
  · obtain ⟨d, -, h⟩ := bind_eq_ok.mp h
    exact hlast h
  · obtain ⟨s, -, h⟩ := bind_eq_ok.mp h
    obtain ⟨d, -, h⟩ := bind_eq_ok.mp h
    exact hlast h

theorem exists_of_readRuntime? (h : readRuntime? origin call = .ok (some b)) :
    ∃ r : Registry, r.Gives b := by
  rw [readRuntime?] at h
  split at h
  · cases h
  obtain ⟨r, hread, h⟩ := bind_eq_ok.mp h
  obtain ⟨hr, hp⟩ :=
    Registry.readObject_keeps hread Registry.inStep_empty Registry.slashesHavePaths_empty
  simp only at h
  split at h
  · cases h
    exact ⟨_, rfl, hr, fun _ => hp⟩
  · obtain ⟨entry, hinline, h⟩ := bind_eq_ok.mp h
    cases h
    refine ⟨_, rfl, hr, fun _ => hp.append fun hslash => ?_⟩
    rw [id_inlineEntry hinline] at hslash
    exact absurd hslash (by decide)

/-- The forms that a call may be a bundle of. -/
theorem readCall?_cases (h : readCall? origin call = .ok (some b)) :
    readDefinitions? origin call = .ok (some b) ∨ readBootstrap? origin call = .ok (some b) ∨
      readRuntime? origin call = .ok (some b) := by
  obtain ⟨definitions, hdefinitions, h⟩ := bind_eq_ok.mp h
  cases definitions with
  | some bundle =>
    cases h
    exact .inl hdefinitions
  | none =>
    obtain ⟨bootstrap, hbootstrap, h⟩ := bind_eq_ok.mp h
    cases bootstrap with
    | some bundle =>
      cases h
      exact .inr (.inl hbootstrap)
    | none => exact .inr (.inr h)

/-- A bundle that is unpacked is that of one of the calls of the program. -/
theorem exists_of_unpack {source : String} (h : unpack source = .ok b) :
    ∃ p, Program.read source = .ok p ∧ ∃ call ∈ candidateCalls (p.tree.get "body").items,
      readCall? ⟨source, p.next⟩ call = .ok (some b) := by
  delta unpack at h
  split at h
  · cases h
  rename_i p hp
  obtain ⟨found, hfound, h⟩ := bind_eq_ok.mp h
  cases found with
  | none => cases h
  | some bundle =>
    cases h
    exact ⟨p, hp, exists_of_findSomeM? hfound⟩

/-- Every bundle that is unpacked comes from a registry. -/
theorem exists_registry {source : String} (h : unpack source = .ok b) : ∃ r : Registry, r.Gives b := by
  obtain ⟨p, -, call, -, hcall⟩ := exists_of_unpack h
  rcases readCall?_cases hcall with h | h | h
  · exact exists_of_readDefinitions? h
  · exact exists_of_readBootstrap? h
  · exact exists_of_readRuntime? h

/-! ### A small bundle -/

/-- A check of an unpacked bundle that succeeds. -/
theorem exists_of_unpacked {source : String} {check : Bundle → Bool}
    (h : (unpack source).toOption.any check = true) : ∃ b, unpack source = .ok b ∧ check b = true := by
  cases hb : unpack source with
  | error e => simp [hb, Except.toOption] at h
  | ok b => exact ⟨b, rfl, by simpa [hb, Except.toOption] using h⟩

/-- Three definitions. The first requires the second by the name by which that requires the third. -/
def threeDefinitions : String :=
  "f(\x7b1:[()=>1,\x7b\"../a\":2\x7d],2:[()=>1,\x7b\"../a\":3\x7d],3:[()=>1,\x7b\x7d]\x7d,\x7b\x7d,[])"

theorem exists_threeDefinitions :
    ∃ b, unpack threeDefinitions = .ok b ∧ ∃ l ∈ b.modules, ∃ m ∈ b.modules, ∃ n ∈ b.modules,
      (l.id = .number 1 ∧ l.path = none) ∧ (m.id = .number 2 ∧ m.path = some "../a") ∧
        n.id = .number 3 ∧ n.path = some "../a" := by
  have hcheck : (unpack threeDefinitions).toOption.any (fun b => b.modules.any fun l =>
      b.modules.any fun m => b.modules.any fun n => l.id == .number 1 && l.path == none &&
        (m.id == .number 2 && m.path == some "../a") && (n.id == .number 3 && n.path == some "../a")) =
      true := by decide +kernel
  obtain ⟨b, hb, hcheck⟩ := exists_of_unpacked hcheck
  simp only [List.any_eq_true, Bool.and_eq_true, beq_iff_eq] at hcheck
  obtain ⟨l, hl, m, hm, n, hn, ⟨hone, htwo⟩, hthree⟩ := hcheck
  exact ⟨b, hb, l, hl, m, hm, n, hn, hone, htwo, hthree⟩

/-! ### Files below the output directory -/

/-- A module without a path has no slash in its id, unless the ids are not looked at. -/
theorem Registry.Gives.slash_not_mem {r : Registry} (hr : r.Gives b) (hb : b.bundler ≠ "browserify")
    {m : Module} (hm : m ∈ b.modules) (hpath : m.path = none) : '/' ∉ m.id.text.toList := by
  intro hslash
  rw [hr.eq_bundle] at hm
  obtain ⟨n, hn, rfl⟩ := List.mem_map.mp hm
  have hsome := hr.slashes hb n hn hslash
  rw [show r.paths.lookup n.id = none from hpath] at hsome
  cases hsome

theorem Registry.Gives.fileNameOf {r : Registry} (hr : r.Gives b) {m : Module} (hm : m ∈ b.modules) :
    b.fileNameOf m = (m.path.map fileName).getD m.id.fileName := by
  have heq := hr.eq_bundle
  rw [heq] at hm ⊢
  exact fileNameOf_bundle hr.inStep hm

/-- **Which modules are written below the output directory.** All of them, if the ids are looked at.
Of a bundle of definitions it is those that another module requires by some name, and those whose ids
have nothing between two slashes that is empty or leads upwards. -/
theorem below_fileNameOf_iff {source : String} (h : unpack source = .ok b) {m : Module}
    (hm : m ∈ b.modules) :
    Below (b.fileNameOf m) ↔
      b.bundler ≠ "browserify" ∨ m.path.isSome ∨ ∀ part ∈ innerParts m.id.text, IsProper part := by
  obtain ⟨r, hr⟩ := exists_registry h
  rw [hr.fileNameOf hm]
  cases hpath : m.path with
  | some path => simp [below_fileName]
  | none =>
    simp only [Option.map_none, Option.getD_none, Option.isSome_none, Bool.false_eq_true, false_or]
    constructor
    · exact fun hbelow => .inr ((below_fileName_id m.id).mp hbelow)
    · rintro (hb | hinner)
      · exact below_fileName_id_of_not_mem (hr.slash_not_mem hb hm hpath)
      · exact (below_fileName_id m.id).mpr hinner

/-- A definition whose id leads out of the directory. -/
theorem not_below_fileNameOf_definition :
    ∃ b m, unpack "f(\x7b\"a/../../x\":[()=>1,\x7b\x7d]\x7d,\x7b\x7d,[])" = .ok b ∧ m ∈ b.modules ∧
      b.fileNameOf m = "module-a/../../x.js" ∧ ¬Below (b.fileNameOf m) := by
  obtain ⟨b, hb, hcheck⟩ := @exists_of_unpacked
    "f(\x7b\"a/../../x\":[()=>1,\x7b\x7d]\x7d,\x7b\x7d,[])"
    (fun b => b.modules.any fun m => b.fileNameOf m == "module-a/../../x.js") (by decide +kernel)
  simp only [List.any_eq_true, beq_iff_eq] at hcheck
  obtain ⟨m, hm, hname⟩ := hcheck
  exact ⟨b, m, hb, hm, hname, hname ▸ by decide⟩

/-- A definition that another requires by a name that leads upwards. -/
theorem below_fileNameOf_required :
    ∃ b m, unpack threeDefinitions = .ok b ∧ m ∈ b.modules ∧ m.path = some "../a" ∧
      Below (b.fileNameOf m) := by
  obtain ⟨b, hb, -, -, m, hm, -, -, -, ⟨-, hpath⟩, -⟩ := exists_threeDefinitions
  exact ⟨b, m, hb, hm, hpath, (below_fileNameOf_iff hb hm).mpr (.inr (.inl (hpath ▸ rfl)))⟩

/-! ### Modules with one file -/

/-- **Two modules that are given one file name**: their paths come to the same parts; or the path of
one comes to the name that the id of the other makes; or, without paths, one id is a number and the
other is its text. -/
inductive Clash : Module → Module → Prop
  | paths {m n : Module} {path other : String} (hm : m.path = some path) (hn : n.path = some other)
      (h : scriptParts path = scriptParts other) : Clash m n
  | pathOfId {m n : Module} {path : String} (hm : m.path = some path) (hn : n.path = none)
      (h : scriptParts path = slashParts n.id.fileName) : Clash m n
  | idOfPath {m n : Module} {path : String} (hm : m.path = none) (hn : n.path = some path)
      (h : slashParts m.id.fileName = scriptParts path) : Clash m n
  | numeral {m n : Module} {k : Int} (hm : m.path = none) (hn : n.path = none)
      (hid : m.id = .number k ∧ n.id = .name (toString k) ∨ m.id = .name (toString k) ∧ n.id = .number k) :
      Clash m n

/-- Two ids that make one file name are a number and its text. -/
theorem exists_number_of_fileName_eq {id other : ModuleId} (hne : id ≠ other)
    (h : id.fileName = other.fileName) :
    ∃ k, id = .number k ∧ other = .name (toString k) ∨ id = .name (toString k) ∧ other = .number k := by
  have htext : id.text = other.text := by
    have htoList := congrArg String.toList h
    simp only [ModuleId.fileName, String.toList_append] at htoList
    exact String.toList_inj.mp (List.append_cancel_left (List.append_cancel_right htoList))
  cases id with
  | number j =>
    cases other with
    | number k =>
      rw [ModuleId.text, ModuleId.text, Int.toString_eq_repr, Int.toString_eq_repr] at htext
      exact absurd (congrArg ModuleId.number (Int.repr_inj.mp htext)) hne
    | name s => exact ⟨j, .inl ⟨rfl, congrArg ModuleId.name htext.symm⟩⟩
  | name s =>
    cases other with
    | number k => exact ⟨k, .inr ⟨congrArg ModuleId.name htext, rfl⟩⟩
    | name t => exact absurd (congrArg ModuleId.name htext) hne

/-- **Which modules are written to one file**: those that clash, and no others. -/
theorem fileNameOf_eq_iff {source : String} (h : unpack source = .ok b) {m n : Module}
    (hm : m ∈ b.modules) (hn : n ∈ b.modules) (hne : m.id ≠ n.id) :
    b.fileNameOf m = b.fileNameOf n ↔ Clash m n := by
  obtain ⟨r, hr⟩ := exists_registry h
  rw [hr.fileNameOf hm, hr.fileNameOf hn]
  constructor
  · intro heq
    cases hp : m.path with
    | some path =>
      cases hq : n.path with
      | some other =>
        rw [hp, hq, Option.map_some, Option.map_some, Option.getD_some, Option.getD_some,
          fileName_eq_iff] at heq
        exact .paths hp hq heq
      | none =>
        rw [hp, hq, Option.map_some, Option.map_none, Option.getD_some, Option.getD_none,
          ← slashParts_inj, slashParts_fileName] at heq
        exact .pathOfId hp hq heq
    | none =>
      cases hq : n.path with
      | some other =>
        rw [hp, hq, Option.map_some, Option.map_none, Option.getD_some, Option.getD_none,
          ← slashParts_inj, slashParts_fileName] at heq
        exact .idOfPath hp hq heq
      | none =>
        rw [hp, hq, Option.map_none, Option.getD_none, Option.getD_none] at heq
        obtain ⟨k, hk⟩ := exists_number_of_fileName_eq hne heq
        exact .numeral hp hq hk
  · rintro (⟨hp, hq, hparts⟩ | ⟨hp, hq, hparts⟩ | ⟨hp, hq, hparts⟩ | ⟨hp, hq, hk⟩)
    · rw [hp, hq, Option.map_some, Option.map_some, Option.getD_some, Option.getD_some,
        fileName_eq_iff, hparts]
    · rw [hp, hq, Option.map_some, Option.map_none, Option.getD_some, Option.getD_none,
        ← slashParts_inj, slashParts_fileName, hparts]
    · rw [hp, hq, Option.map_some, Option.map_none, Option.getD_some, Option.getD_none,
        ← slashParts_inj, slashParts_fileName, hparts]
    · rw [hp, hq, Option.map_none, Option.getD_none, Option.getD_none]
      rcases hk with ⟨hk, hl⟩ | ⟨hk, hl⟩ <;> rw [hk, hl] <;> rfl

/-- Two modules of one bundle that are required by one name, from different places. -/
theorem fileNameOf_eq_required :
    ∃ b m n, unpack threeDefinitions = .ok b ∧ m ∈ b.modules ∧ n ∈ b.modules ∧ m.id ≠ n.id ∧
      b.fileNameOf m = b.fileNameOf n := by
  obtain ⟨b, hb, -, -, m, hm, n, hn, -, ⟨hid, hpath⟩, hid', hpath'⟩ := exists_threeDefinitions
  obtain ⟨r, hr⟩ := exists_registry hb
  refine ⟨b, m, n, hb, hm, hn, ?_, ?_⟩
  · rw [hid, hid']
    decide
  · rw [hr.fileNameOf hm, hr.fileNameOf hn, hpath, hpath']
    rfl

/-- A module that nothing requires, beside one that has a path. -/
theorem fileNameOf_ne_required :
    ∃ b l m, unpack threeDefinitions = .ok b ∧ l ∈ b.modules ∧ m ∈ b.modules ∧ l.id = .number 1 ∧
      m.id = .number 2 ∧ b.fileNameOf l ≠ b.fileNameOf m := by
  obtain ⟨b, hb, l, hl, m, hm, -, -, ⟨hid, hpath⟩, ⟨hid', hpath'⟩, -⟩ := exists_threeDefinitions
  refine ⟨b, l, m, hb, hl, hm, hid, hid', ?_⟩
  rw [Ne, fileNameOf_eq_iff hb hl hm (by rw [hid, hid']; decide)]
  rintro (⟨hp, hq, hparts⟩ | ⟨hp, hq, hparts⟩ | ⟨hp, hq, hparts⟩ | ⟨hp, hq, hk⟩)
  · rw [hpath] at hp
    cases hp
  · rw [hpath] at hp
    cases hp
  · rw [hpath'] at hq
    cases hq
    rw [hid] at hparts
    exact absurd hparts (by decide)
  · rw [hpath'] at hq
    cases hq

end Bundle

end Deminify
