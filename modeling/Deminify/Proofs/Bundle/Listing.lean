import Deminify.Proofs.Bundle.Call
import Deminify.Proofs.Bundle.Factory
import Deminify.Proofs.Bundle.Unpacked
import Deminify.Proofs.Program

/-!
# One module for each factory

A bundle lists its factories in one of four forms: definitions, an array, an object, or an object
inside a runtime (`Deminify.Bundle.Lists`). **What is unpacked is one module for each factory of the
listing, in order**, with its id and the program of the factory alone; a runtime may add its entry, and
nothing else is added (`Deminify.Bundle.exists_listing_of_unpack`).

The readers leave two things open that this needs. An object loses no factory, since a key that is not
computed always stands for an id (`Deminify.Bundle.exists_ofTree?`): that is what the grammar reads as a
key. And the factories of a listing are parts of one tree that lie apart (`Deminify.Bundle.Factories`),
so that their programs are also those of the factories renamed in place
(`Deminify.Bundle.Factories.codesInPlace_eq`).
-/

namespace Deminify

/-- A question that is always answered gives all answers. -/
theorem mapM_some {α β : Type} (f : α → β) (l : List α) : l.mapM (fun a => some (f a)) = some (l.map f) :=
  List.mapM_pure

namespace Bundle

variable {origin : Origin} {names : List String}

/-! ### Listings -/

/-- The properties of an object that hold factories. -/
def factoryProperties (object : Tree) : List Tree :=
  (object.get "properties").items.filter fun p =>
    p.isKind "Property" && !(p.get "computed").truthy && isFunction (p.get "value")

/-- The factories of an object, each with the id that its key stands for. -/
def objectListing? (object : Tree) : Option (List (ModuleId × Tree)) :=
  (factoryProperties object).mapM fun p => (ModuleId.ofTree? (p.get "key")).map (·, p.get "value")

/-- The factories of an array, each with its place as the id. -/
def arrayListing (array : Tree) : List (ModuleId × Tree) :=
  ((array.get "elements").items.zipIdx.filter fun e => isFunction e.1).map fun e => (.number e.2, e.1)

/-- **What a call lists** if it is a bundle: the factories with their ids, and the names that a factory
takes. Every property of an object of definitions is one. -/
inductive Lists (call : Tree) : String → List String → List (ModuleId × Tree) → Prop
  | definitions {modules cache entries : Tree} {found : List Definition}
      (harguments : (call.get "arguments").items = [modules, cache, entries])
      (hkind : modules.isKind "ObjectExpression")
      (hfound : (modules.get "properties").items.mapM definitionOf? = some found) :
      Lists call "browserify" ["require", "module", "exports"] (found.map fun d => (d.id, d.factory))
  | array {registry : Tree} {rest : List Tree} (hbootstrap : (bootstrapOf? call).isSome)
      (harguments : (call.get "arguments").items = registry :: rest)
      (hkind : registry.isKind "ArrayExpression") :
      Lists call "webpack4" webpackParameters (arrayListing registry)
  | object {registry : Tree} {rest : List Tree} {listing : List (ModuleId × Tree)}
      (hbootstrap : (bootstrapOf? call).isSome)
      (harguments : (call.get "arguments").items = registry :: rest)
      (hkind : registry.isKind "ObjectExpression") (hlisting : objectListing? registry = some listing) :
      Lists call "webpack4" webpackParameters listing
  | runtime {runtime : Runtime} {listing : List (ModuleId × Tree)}
      (hruntime : runtimeOf? call = some runtime)
      (hlisting : objectListing? (runtime.registry.get "init") = some listing) :
      Lists call "webpack5" webpackParameters listing

/-- Whether a module is that of a factory: it has its id, and its program is that of the factory
alone. -/
def Prints (origin : Origin) (names : List String) (entry : ModuleId × Tree) (m : Module) : Prop :=
  m.id = entry.1 ∧ factoryCode origin names entry.2 = .ok m.code

/-- **Whether a bundle consists of the modules of a listing**, one for each factory, in order, followed
at most by the entry of a runtime; it names files for its modules only. -/
structure ConsistsOf (b : Bundle) (origin : Origin) (names : List String)
    (listing : List (ModuleId × Tree)) : Prop where
  modules : ∃ listed rest, b.modules = listed ++ rest ∧
    List.Forall₂ (Prints origin names) listing listed ∧ rest.length ≤ 1 ∧ ∀ m ∈ rest, b.bundler = "webpack5" ∧ m.id = .name "entry"
  names : ∀ entry ∈ b.names, ∃ m ∈ b.modules, m.id = entry.1

theorem consistsOf_bundle {r : Registry} {bundler : String} {listing : List (ModuleId × Tree)}
    {listed rest : List Module} (h : r.modules = listed ++ rest)
    (hlisted : List.Forall₂ (Prints origin names) listing listed) (hlength : rest.length ≤ 1)
    (hrest : ∀ m ∈ rest, bundler = "webpack5" ∧ m.id = .name "entry") :
    ConsistsOf (r.bundle bundler) origin names listing := by
  refine ⟨⟨_, _, (congrArg _ h).trans List.map_append, ?_, ?_, ?_⟩, ?_⟩
  · exact List.forall₂_map_right_iff.mpr hlisted
  · rwa [List.length_map]
  · intro m hm
    obtain ⟨n, hn, rfl⟩ := List.mem_map.mp hm
    exact hrest n hn
  · intro entry hentry
    obtain ⟨m, hm, hid⟩ := List.any_eq_true.mp (List.mem_filter.mp hentry).2
    exact ⟨_, List.mem_map_of_mem hm, beq_iff_eq.mp hid⟩

/-- A bundle of listed modules only. -/
theorem consistsOf_listed {r : Registry} {bundler : String} {listing : List (ModuleId × Tree)}
    (h : List.Forall₂ (Prints origin names) listing r.modules) :
    ConsistsOf (r.bundle bundler) origin names listing :=
  consistsOf_bundle (List.append_nil _).symm h (Nat.zero_le _) nofun

/-! ### Reading a listing -/

theorem prints_addFactory {r r' : Registry} {id : ModuleId} {factory : Tree}
    (h : r.addFactory origin names id factory = .ok r') :
    ∃ m, Prints origin names (id, factory) m ∧ r'.modules = r.modules ++ [m] := by
  obtain ⟨code, hcode, rfl⟩ := Registry.addFactory_eq_ok h
  exact ⟨_, ⟨rfl, hcode⟩, rfl⟩

/-- **A fold over what a bundle lists.** Where each step adds the module of what it keeps, and nothing
for the rest, the fold adds those modules in order. -/
theorem exists_of_foldlM {α : Type} {step : Registry → α → Except Failure Registry} {keep : α → Bool}
    {read? : α → Option (ModuleId × Tree)} {l : List α} {r r' : Registry} (h : l.foldlM step r = .ok r')
    (hstep : ∀ {r a r'}, a ∈ l → step r a = .ok r' → keep a = false ∧ r'.modules = r.modules ∨
      keep a = true ∧ ∃ e m, read? a = some e ∧ Prints origin names e m ∧ r'.modules = r.modules ++ [m]) :
    ∃ listing listed, (l.filter keep).mapM read? = some listing ∧
      List.Forall₂ (Prints origin names) listing listed ∧ r'.modules = r.modules ++ listed := by
  induction l generalizing r with
  | nil =>
    cases h
    exact ⟨[], [], rfl, .nil, (List.append_nil _).symm⟩
  | cons a rest ih =>
    rw [List.foldlM_cons] at h
    obtain ⟨next, hnext, h⟩ := bind_eq_ok.mp h
    obtain ⟨listing, listed, hlisting, hlisted, hmodules⟩ :=
      ih h fun ha => hstep (List.mem_cons_of_mem _ ha)
    rcases hstep List.mem_cons_self hnext with ⟨hkeep, hsame⟩ | ⟨hkeep, e, m, he, hm, hadded⟩
    · rw [List.filter_cons_of_neg (by simp [hkeep])]
      exact ⟨listing, listed, hlisting, hlisted, by rw [hmodules, hsame]⟩
    · rw [List.filter_cons_of_pos hkeep]
      refine ⟨e :: listing, m :: listed, ?_, .cons hm hlisted, ?_⟩
      · rw [List.mapM_cons, he, hlisting]
        rfl
      · rw [hmodules, hadded, List.append_assoc]
        rfl

/-- The modules of an array. -/
theorem exists_of_readArray {array : Tree} {r r' : Registry}
    (h : readArray origin r (array.get "elements").items = .ok r') :
    ∃ listed, List.Forall₂ (Prints origin webpackParameters) (arrayListing array) listed ∧
      r'.modules = r.modules ++ listed := by
  obtain ⟨listing, listed, hlisting, hlisted, hmodules⟩ := @exists_of_foldlM origin webpackParameters _ _
    (fun e => isFunction e.1) (fun e => some (ModuleId.number e.2, e.1)) _ _ _ h fun {r e r'} _ h => by
      simp only at h
      split at h
      · cases h
        exact .inl ⟨by simp_all, rfl⟩
      · obtain ⟨m, hm, hmodules⟩ := prints_addFactory h
        exact .inr ⟨by simp_all, _, m, rfl, hm, by rw [hmodules, Registry.modules_addPath]⟩
  rw [mapM_some] at hlisting
  cases hlisting
  exact ⟨listed, hlisted, hmodules⟩

/-- **A key that is not computed stands for an id.** -/
theorem exists_ofTree? {p : Tree} (h : p.WellFormed) (hk : p.kind = "Property")
    (hc : (p.get "computed").truthy = false) : ∃ id, ModuleId.ofTree? (p.get "key") = some id := by
  have key : Tree.fieldSort p.kind "key" = some .expression := by rw [hk]; rfl
  have hkey : (p.get "key").WellFormed := (h.held key).2
  rcases Bool.or_eq_true_iff.mp (h.plain hk) with hcomputed | hplain
  · obtain ⟨value, hvalue, htrue⟩ := (Option.any_eq_true _ _).mp hcomputed
    rw [Tree.get_of_get? hvalue] at hc
    cases value with
    | bool b => simp_all [Tree.isTrue, Tree.truthy]
    | _ => simp [Tree.isTrue] at htrue
  · obtain ⟨value, hvalue, hplain⟩ := (Option.any_eq_true _ _).mp hplain
    rw [Tree.get_of_get? hvalue] at hkey ⊢
    rcases Bool.or_eq_true_iff.mp hplain with hname | hliteral
    · have hkind := hkey.isKind_iff.mp hname
      have name : Tree.fieldSort value.kind "name" = some .text := by rw [hkind]; rfl
      obtain ⟨x, hx⟩ := hkey.held name
      have hliteral : value.isLiteral = false := by
        simp [Tree.isLiteral, Bool.eq_false_iff, hkey.isKind_iff, hkind]
      exact ⟨.name x, by simp [ModuleId.ofTree?, hliteral, Tree.isIdentifier, hname, hx, Tree.str?]⟩
    · obtain ⟨hkind, hvalue⟩ := Bool.and_eq_true_iff.mp hliteral
      rw [ModuleId.ofTree?, if_pos (show value.isLiteral = true from hkind)]
      cases hx : value.get "value" with
      | str _ => exact ⟨_, rfl⟩
      | int _ => exact ⟨_, rfl⟩
      | real x =>
        cases hn : x.toInt? <;> simp [hn]
      | _ => simp [hx] at hvalue

/-- The modules of an object. -/
theorem exists_of_readObject {root object : Tree} (ho : Tree.Within root object)
    (hk : object.kind = "ObjectExpression") {r r' : Registry} (h : readObject origin r object = .ok r') :
    ∃ listing listed, objectListing? object = some listing ∧
      List.Forall₂ (Prints origin webpackParameters) listing listed ∧ r'.modules = r.modules ++ listed := by
  refine exists_of_foldlM h fun {r p r'} hp h => ?_
  have hwell := (ho.item hk rfl hp).wellFormed
  simp only at h
  split at h
  · rename_i hother
    cases h
    exact .inl ⟨by rcases Bool.or_eq_true_iff.mp hother with hother | hother <;> simp_all, rfl⟩
  rename_i hproperty
  simp only [Bool.or_eq_true, Bool.not_eq_true', not_or, Bool.not_eq_false, Bool.not_eq_true] at hproperty
  obtain ⟨id, hid⟩ := exists_ofTree? hwell (hwell.isKind_iff.mp hproperty.1) hproperty.2
  rw [hid] at h
  simp only at h
  split at h
  · cases h
    exact .inl ⟨by simp_all, rfl⟩
  · obtain ⟨m, hm, hmodules⟩ := prints_addFactory h
    refine .inr ⟨by simp_all, _, m, by rw [hid]; rfl, hm, ?_⟩
    rw [hmodules, Registry.modules_addPath, Registry.modules_addPath]

@[simp] theorem modules_addDependencies (r : Registry) (dependencies : Tree) :
    (addDependencies r dependencies).modules = r.modules := by
  rw [addDependencies]
  induction (dependencies.get "properties").items generalizing r with
  | nil => rfl
  | cons dependency rest ih =>
    rw [List.foldl_cons, ih]
    simp only
    split
    · split <;> simp
    · rfl

/-! ### Bundles -/

section Readers

variable {root call : Tree} {b : Bundle}

theorem exists_listing_of_readDefinitions? (h : readDefinitions? origin call = .ok (some b)) :
    ∃ names listing, Lists call b.bundler names listing ∧ ConsistsOf b origin names listing := by
  rw [readDefinitions?] at h
  split at h
  · cases h
  rename_i found entries hfound
  obtain ⟨r, hfold, h⟩ := bind_eq_ok.mp h
  cases h
  obtain ⟨listing, listed, hlisting, hlisted, hmodules⟩ :=
    @exists_of_foldlM origin ["require", "module", "exports"] _ _ (fun _ => true)
      (fun d => some (d.id, d.factory)) _ _ _ hfold fun {r d r'} _ h => by
        obtain ⟨added, hadded, h⟩ := bind_eq_ok.mp h
        cases h
        obtain ⟨m, hm, hmodules⟩ := prints_addFactory hadded
        exact .inr ⟨rfl, _, m, rfl, hm, by rw [modules_addDependencies, hmodules]⟩
  rw [List.filter_true, mapM_some] at hlisting
  cases hlisting
  obtain ⟨modules, cache, list, harguments, hkind, hfound⟩ := exists_of_definitionsOf? hfound
  exact ⟨_, _, .definitions harguments hkind hfound,
    consistsOf_listed (hmodules ▸ hlisted)⟩

theorem exists_listing_of_readBootstrap? (hcall : Tree.Within root call)
    (hk : call.kind = "CallExpression") (h : readBootstrap? origin call = .ok (some b)) :
    ∃ names listing, Lists call b.bundler names listing ∧ ConsistsOf b origin names listing := by
  rw [readBootstrap?] at h
  split at h
  · rename_i bootstrap require registry rest hbootstrap harguments
    have hsome : (bootstrapOf? call).isSome := hbootstrap ▸ rfl
    have hregistry := hcall.item hk rfl (harguments ▸ List.mem_cons_self)
    simp only at h
    split at h <;> rename_i hkind <;> obtain ⟨r, hread, h⟩ := bind_eq_ok.mp h <;> cases h
    · obtain ⟨listed, hlisted, hmodules⟩ := exists_of_readArray hread
      exact ⟨_, _, .array hsome harguments hkind,
        consistsOf_listed (hmodules ▸ hlisted)⟩
    · have hobject := (isKind_of_bootstrapOf? hbootstrap harguments).resolve_left hkind
      obtain ⟨listing, listed, hlisting, hlisted, hmodules⟩ :=
        exists_of_readObject hregistry (hregistry.kind_eq hobject) hread
      exact ⟨_, _, .object hsome harguments hobject hlisting,
        consistsOf_listed (hmodules ▸ hlisted)⟩
  · cases h

theorem exists_listing_of_readRuntime? (hcall : Tree.Within root call)
    (hk : call.kind = "CallExpression") (h : readRuntime? origin call = .ok (some b)) :
    ∃ names listing, Lists call b.bundler names listing ∧ ConsistsOf b origin names listing := by
  rw [readRuntime?] at h
  split at h
  · cases h
  rename_i runtime hruntime
  obtain ⟨r, hread, h⟩ := bind_eq_ok.mp h
  obtain ⟨hregistry, hobject⟩ := within_of_runtimeOf? hcall hk hruntime
  obtain ⟨listing, listed, hlisting, hlisted, hmodules⟩ := exists_of_readObject hregistry hobject hread
  simp only at h
  split at h
  · cases h
    exact ⟨_, _, .runtime hruntime hlisting,
      consistsOf_listed (hmodules ▸ hlisted)⟩
  · obtain ⟨entry, hentry, h⟩ := bind_eq_ok.mp h
    cases h
    refine ⟨_, _, .runtime hruntime hlisting,
      consistsOf_bundle (congrArg (· ++ [entry]) hmodules) hlisted (Nat.le_refl 1) ?_⟩
    exact List.forall_mem_singleton.mpr ⟨rfl, id_inlineEntry hentry⟩

theorem exists_listing_of_readCall? (hcall : Tree.Within root call) (hk : call.kind = "CallExpression")
    (h : readCall? origin call = .ok (some b)) :
    ∃ names listing, Lists call b.bundler names listing ∧ ConsistsOf b origin names listing := by
  rw [readCall?] at h
  obtain ⟨definitions, hdefinitions, h⟩ := bind_eq_ok.mp h
  cases definitions with
  | some bundle =>
    cases h
    exact exists_listing_of_readDefinitions? hdefinitions
  | none =>
    obtain ⟨bootstrap, hbootstrap, h⟩ := bind_eq_ok.mp h
    cases bootstrap with
    | some bundle =>
      cases h
      exact exists_listing_of_readBootstrap? hcall hk hbootstrap
    | none => exact exists_listing_of_readRuntime? hcall hk h

end Readers

/-! ### Factories that lie apart -/

/-- **Whether factories lie apart in a tree**, one after the other. -/
structure Factories (root : Tree) (factories : List Tree) : Prop where
  kinds : ∀ f ∈ factories, f.Is isExpressionKind
  records : (factories.flatMap Tree.records).Sublist root.records

section Apart

variable {root call : Tree} {listing : List (ModuleId × Tree)}

/-- Factories that are found one to each part lie apart as the parts do. -/
theorem factories_of_mapM {α : Type} {parts : List Tree} {find? : Tree → Option α} {factory : α → Tree}
    {found : List α} (h : parts.mapM find? = some found)
    (hparts : (parts.flatMap Tree.records).Sublist root.records)
    (hfind : ∀ p ∈ parts, ∀ a, find? p = some a →
      (factory a).Is isExpressionKind ∧ (factory a).records.Sublist p.records) :
    Factories root (found.map factory) := by
  suffices hall : (∀ a ∈ found, (factory a).Is isExpressionKind) ∧
      (found.flatMap fun a => (factory a).records).Sublist (parts.flatMap Tree.records) by
    refine ⟨List.forall_mem_map.mpr hall.1, ?_⟩
    rw [List.flatMap_map]
    exact hall.2.trans hparts
  clear hparts
  induction parts generalizing found with
  | nil =>
    cases h
    exact ⟨nofun, .refl _⟩
  | cons p rest ih =>
    rw [List.mapM_cons] at h
    obtain ⟨a, ha, h⟩ := Option.bind_eq_some_iff.mp h
    obtain ⟨more, hmore, h⟩ := Option.bind_eq_some_iff.mp h
    cases h
    obtain ⟨his, hsub⟩ := hfind p List.mem_cons_self a ha
    obtain ⟨hkinds, hsubs⟩ := ih hmore fun q hq => hfind q (List.mem_cons_of_mem _ hq)
    exact ⟨List.forall_mem_cons.mpr ⟨his, hkinds⟩, hsub.append hsubs⟩

/-- A function among the elements of an array is no hole. -/
theorem is_of_isFunction {t f : Tree} (ht : t.WellFormed) (hk : t.kind = "ArrayExpression")
    (hf : f ∈ (t.get "elements").items) (hfunction : isFunction f = true) : f.Is isExpressionKind := by
  have elements : Tree.fieldSort t.kind "elements" = some (.holes isExpressionKind) := by rw [hk]; rfl
  obtain ⟨items, hitems, hall⟩ := ht.held elements
  rw [hitems] at hf
  rcases hall f hf with hnull | his
  · rw [isFunction, hnull] at hfunction
    cases hfunction
  · exact his

theorem factories_arrayListing {array : Tree} (ha : Tree.Within root array)
    (hk : array.kind = "ArrayExpression") : Factories root ((arrayListing array).map (·.2)) := by
  rw [arrayListing, List.map_map]
  refine ⟨List.forall_mem_map.mpr fun e he => ?_, ?_⟩
  · obtain ⟨hmem, hfunction⟩ := List.mem_filter.mp he
    exact is_of_isFunction ha.wellFormed hk (List.fst_mem_of_mem_zipIdx hmem) hfunction
  · have hsub := (List.filter_sublist (p := fun e : Tree × Nat => isFunction e.1)
      (l := (array.get "elements").items.zipIdx)).map Prod.fst
    rw [List.zipIdx_map_fst] at hsub
    exact (hsub.flatMap _).trans (ha.sublist_items "elements")

theorem factories_of_objectListing? {object : Tree} (ho : Tree.Within root object)
    (hk : object.kind = "ObjectExpression") (h : objectListing? object = some listing) :
    Factories root (listing.map (·.2)) := by
  refine factories_of_mapM h ((List.filter_sublist.flatMap _).trans (ho.sublist_items "properties"))
    fun p hp entry hentry => ?_
  obtain ⟨hmem, hkeep⟩ := List.mem_filter.mp hp
  obtain ⟨id, -, rfl⟩ := Option.map_eq_some_iff.mp hentry
  have hwell := (ho.item hk rfl hmem).wellFormed
  simp only [Bool.and_eq_true] at hkeep
  have value : Tree.fieldSort p.kind "value" = some .expression := by
    rw [hwell.isKind_iff.mp hkeep.1.1]; rfl
  exact ⟨hwell.held value, Tree.sublist_records_get p "value"⟩

theorem factories_of_definitions {modules : Tree} {found : List Definition} (hm : Tree.Within root modules)
    (hk : modules.kind = "ObjectExpression")
    (h : (modules.get "properties").items.mapM definitionOf? = some found) :
    Factories root (found.map Definition.factory) := by
  refine factories_of_mapM h (hm.sublist_items "properties") fun p hp d hd => ?_
  have hpart := hm.item hk rfl hp
  obtain ⟨hproperty, harray, dependencies, helements, hfunction⟩ := eq_of_definitionOf? hd
  have hvalue := @Tree.Within.node _ _ _ "value" _ hpart (hpart.kind_eq hproperty) rfl
  have hfactory : d.factory ∈ ((p.get "value").get "elements").items := helements ▸ List.mem_cons_self
  refine ⟨is_of_isFunction hvalue.wellFormed (hvalue.kind_eq harray) hfactory hfunction, ?_⟩
  exact ((Tree.sublist_records_item hfactory).trans (Tree.sublist_records_get _ _)).trans
    (Tree.sublist_records_get _ _)

/-- **The factories of a listing lie apart** in the program. -/
theorem Lists.factories {bundler : String} (h : Lists call bundler names listing)
    (hcall : Tree.Within root call) (hk : call.kind = "CallExpression") :
    Factories root (listing.map (·.2)) := by
  have hargument {t : Tree} (ht : t ∈ (call.get "arguments").items) {kind : String}
      (hkind : t.isKind kind = true) : Tree.Within root t ∧ t.kind = kind :=
    ⟨hcall.item hk rfl ht, (hcall.item hk rfl ht).kind_eq hkind⟩
  cases h with
  | definitions harguments hkind hfound =>
    obtain ⟨hwithin, hobject⟩ := hargument (harguments ▸ List.mem_cons_self) hkind
    rw [List.map_map]
    exact factories_of_definitions hwithin hobject hfound
  | array _ harguments hkind =>
    obtain ⟨hwithin, harray⟩ := hargument (harguments ▸ List.mem_cons_self) hkind
    exact factories_arrayListing hwithin harray
  | object _ harguments hkind hlisting =>
    obtain ⟨hwithin, hobject⟩ := hargument (harguments ▸ List.mem_cons_self) hkind
    exact factories_of_objectListing? hwithin hobject hlisting
  | runtime hruntime hlisting =>
    obtain ⟨hwithin, hobject⟩ := within_of_runtimeOf? hcall hk hruntime
    exact factories_of_objectListing? hwithin hobject hlisting

/-- **Factories that lie apart are renamed in place as they are renamed alone**, whichever of them and in
whichever order. -/
theorem Factories.codesInPlace_eq {source : String} {p : Program} (hp : Program.read source = .ok p)
    {factories chosen : List Tree} (h : Factories p.tree factories) (hchosen : chosen.Subperm factories)
    (names : List String) :
    codesInPlace ⟨source, p.next⟩ names ⟨p.tree, [], p.next⟩ (chosen.map Tree.label) =
      chosen.mapM (factoryCode ⟨source, p.next⟩ names) := by
  have hlabels : (factories.flatMap Tree.labels).Sublist p.tree.labels := by
    have hsub := h.records.map Tree.label
    rwa [List.map_flatMap, ← Tree.labels_eq_map_records, ← funext Tree.labels_eq_map_records] at hsub
  have hnodup := Program.nodup_labels_of_read hp
  obtain ⟨hown, hapart⟩ := List.nodup_flatMap.mp (hnodup.sublist hlabels)
  have hmem {f : Tree} (hf : f ∈ chosen) : f ∈ factories := hchosen.subset hf
  refine Bundle.codesInPlace_eq (fun f hf => ⟨hown f (hmem hf), fun l hl => ?_⟩)
    (fun f hf => h.kinds f (hmem hf)) ?_ names (fun f hf => ?_) rfl
  · have hin : l ∈ p.tree.labels := hlabels.subset (List.mem_flatMap.mpr ⟨f, hmem hf, hl⟩)
    exact (Program.count_labels_of_read hp l).2.1 (List.count_pos_iff.mpr hin)
  · obtain ⟨sub, hperm, hsub⟩ := hchosen
    exact (hperm.pairwise_iff fun h => h.symm).mp (hapart.sublist hsub)
  · have hrecords : (⟨p.tree, [], p.next⟩ : Document).records = p.tree.records := List.append_nil _
    refine Document.shows_of_sublist ?_ ?_
    · rwa [hrecords, ← Tree.labels_eq_map_records]
    · rw [hrecords]
      exact (List.sublist_flatten_of_mem (List.mem_map_of_mem (hmem hf))).trans h.records

end Apart

/-- **One module for each factory.** What is unpacked consists of the modules of the factories that a
call of the program lists, in order, and of the entry of a runtime if there is one. The program of a
module is that of its factory alone; and whichever of the factories are renamed in place in the tree of
the bundle, in whichever order, their programs are the same. -/
theorem exists_listing_of_unpack {source : String} {b : Bundle} (h : unpack source = .ok b) :
    ∃ p call names listing, Program.read source = .ok p ∧
      call ∈ candidateCalls (p.tree.get "body").items ∧ Lists call b.bundler names listing ∧
      ConsistsOf b ⟨source, p.next⟩ names listing ∧
      ∀ factories : List Tree, factories.Subperm (listing.map (·.2)) →
        codesInPlace ⟨source, p.next⟩ names ⟨p.tree, [], p.next⟩ (factories.map Tree.label) =
          factories.mapM (factoryCode ⟨source, p.next⟩ names) := by
  delta unpack at h
  split at h
  · cases h
  rename_i p hp
  obtain ⟨found, hfound, h⟩ := bind_eq_ok.mp h
  cases found with
  | none => cases h
  | some bundle =>
    cases h
    obtain ⟨call, hmem, hcall⟩ := exists_of_findSomeM? hfound
    obtain ⟨hwithin, hk⟩ := within_of_mem_candidateCalls (Program.is_of_read hp) hmem
    obtain ⟨names, listing, hlists, hconsists⟩ := exists_listing_of_readCall? hwithin hk hcall
    exact ⟨p, call, names, listing, hp, hmem, hlists, hconsists, fun factories hsub =>
      (hlists.factories hwithin hk).codesInPlace_eq hp hsub names⟩

/-- Three definitions, whichever is renamed first. -/
theorem exists_listing_threeDefinitions : ∃ b p call names listing, unpack threeDefinitions = .ok b ∧
    Program.read threeDefinitions = .ok p ∧ Lists call b.bundler names listing ∧
      ConsistsOf b ⟨threeDefinitions, p.next⟩ names listing ∧
        codesInPlace ⟨threeDefinitions, p.next⟩ names ⟨p.tree, [], p.next⟩
            ((listing.map (·.2)).reverse.map Tree.label) =
          (listing.map (·.2)).reverse.mapM (factoryCode ⟨threeDefinitions, p.next⟩ names) := by
  obtain ⟨b, hb, -⟩ := exists_threeDefinitions
  obtain ⟨p, call, names, listing, hp, -, hlists, hconsists, hinPlace⟩ := exists_listing_of_unpack hb
  exact ⟨b, p, call, names, listing, hb, hp, hlists, hconsists,
    hinPlace _ (List.reverse_perm _).subperm⟩

end Bundle

end Deminify
