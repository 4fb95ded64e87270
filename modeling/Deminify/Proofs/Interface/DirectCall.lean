import Deminify.Proofs.Interface.Replacement
import Deminify.Rules.DirectCall

/-!
# Calls made direct

Making calls direct changes imports and the statements next to a `require`: a name is imported or taken
out of a pattern, an import that nothing uses any more goes. Exports stand among these statements, and
their specifiers have the same key as those of imports; but the rule goes by labels, and the labels it
goes by are those of imports and of the patterns in plain declarations. **None of them is on the outline**
(`Deminify.Rules.DirectCall.Known`), so that the rule keeps it (`Deminify.Rules.DirectCall.keeps_run`).
-/

namespace Deminify.Rules.DirectCall

open Document Editing

variable {o : List Passed}

/-- What is known of where an object is bound: it is in a list of statements, and if it is imported, by
a statement that is not on the outline. -/
structure Known (o : List Passed) (origin : Origin) : Prop where
  key : origin.key = "body" ∨ origin.key = "consequent"
  statement : origin.imported = true → Off o origin.statement

/-! ### Finding the calls -/

section Questions

variable {I : Document → Prop}

theorem keeps_indirect? (callee : Tree) : Keeps I (indirect? callee) fun _ => True := by
  refine (keeps_kindOf callee).forget.after fun kind => ?_
  split
  · exact keeps_pure trivial
  refine (keeps_listField callee _).forget.after fun expressions => ?_
  split
  · exact keeps_pure trivial
  split
  · exact keeps_pure trivial
  · refine (keeps_kindOf _).forget.after fun kind => ?_
    split
    · exact keeps_pure trivial
    refine (keeps_field _ _).forget.after fun object => ?_
    split
    · exact keeps_pure trivial
    · exact (keeps_staticName _).after fun _ => keeps_pure trivial

theorem keeps_isRequire (t : Tree) : Keeps I (isRequire t) fun _ => True := by
  unfold isRequire
  split
  · exact keeps_pure trivial
  refine (keeps_kindOf t).forget.after fun kind => ?_
  split
  · exact keeps_pure trivial
  refine (keeps_field t _).forget.after fun callee => (keeps_isNamed callee _).after fun named => ?_
  split
  · exact keeps_pure trivial
  · refine (keeps_listField t _).forget.after fun arguments => ?_
    split <;> exact keeps_pure trivial

end Questions

theorem keeps_originOf? {d : Document} (hd : d.Outlined o) (s : ScopeTree) (b : Nat) :
    Keeps (Outlined o) (originOf? d s b) fun origin? => ∀ origin ∈ origin?, Known o origin := by
  unfold originOf?
  dsimp only
  split
  · exact keeps_pure nofun
  split
  · refine keeps_pure fun origin horigin => ?_
    obtain ⟨statement, hstatement, rfl⟩ := Option.map_eq_some_iff.mp horigin
    refine ⟨.inl rfl, fun _ => ?_⟩
    have hfound := List.find?_some hstatement
    obtain ⟨hobj, hkind⟩ := Tree.kind_of_isKind (Bool.and_eq_true_iff.mp hfound).1
    have hapart := hd.apart_of_mem_listAt (List.mem_of_find?_eq_some hstatement) hobj (.inl rfl)
      (by rw [hkind]; rfl)
    exact hapart.off hobj
  · split
    · refine (keeps_isRequire _).after fun isRequired => ?_
      split
      · refine (keeps_statementLists _).bind fun lists hlists => keeps_pure fun origin horigin => ?_
        obtain ⟨entry, hentry, hfound⟩ := List.exists_of_findSome?_eq_some horigin
        obtain ⟨statement, -, rfl⟩ := Option.map_eq_some_iff.mp hfound
        exact ⟨hlists entry hentry, nofun⟩
      · exact keeps_pure nofun
    · exact keeps_pure nofun

theorem keeps_addCall {d : Document} (hd : d.Outlined o) (s : ScopeTree) {methods : List Method}
    (h : ∀ method ∈ methods, Known o method.origin) (call : Tree) :
    Keeps (Outlined o) (addCall d s methods call) fun methods => ∀ method ∈ methods, Known o method.origin := by
  refine (keeps_field call _).forget.after fun callee => (keeps_indirect? callee).after fun found => ?_
  split
  · exact keeps_pure h
  · split
    · exact keeps_pure h
    · dsimp only
      split
      · refine keeps_pure fun method hmethod => ?_
        obtain ⟨old, hold, rfl⟩ := List.mem_map.mp hmethod
        split <;> exact h old hold
      · refine (keeps_originOf? hd s _).bind fun origin? horigin => ?_
        split
        · exact keeps_pure h
        · refine keeps_pure fun method hmethod => ?_
          rcases List.mem_append.mp hmethod with hmethod | hmethod
          · exact h method hmethod
          · rw [List.mem_singleton.mp hmethod]
            exact horigin _ rfl

/-! ### Steps -/

/-- A node is added to a list whose owner is not on the outline. -/
theorem keeps_append {label : Nat} (hl : Off o label) {key : String} (hkey : key ≠ "type") {t : Tree}
    (ht : t.Apart o) :
    Keeps (Outlined o) (updateDoc (·.editList label key (· ++ [t]))) fun _ => True := by
  refine keeps_updateDoc fun d hd => hd.editList_of_off hl hkey fun items p hp => ?_
  rw [Tree.labels_list, Tree.labels_list, List.flatMap_append, List.count_append, List.flatMap_singleton,
    ht.count hp]
  exact Nat.le_refl _

/-- A field of a node that is not on the outline is set. -/
theorem keeps_setField {label : Nat} (hl : Off o label) {key : String} (htype : key ≠ "type")
    (hname : key ≠ "name") {value : Tree} (hv : value.Apart o) :
    Keeps (Outlined o) (setField label key value) fun _ => True :=
  keeps_updateDoc fun _ hd => hd.set hv (.inr hl) htype hname

/-- A statement that is no export is put behind another. -/
theorem keeps_insertAfter {owner : Nat} {key : String} (hkey : key = "body" ∨ key = "consequent")
    {new : Tree} (hnew : new.Apart o) (hout : Tree.outlineAt "Program" "body" true new = [])
    (follows : Tree → Bool) :
    Keeps (Outlined o) (updateDoc (·.editList owner key fun body =>
      body.flatMap fun t => if follows t then [t, new] else [t])) fun _ => True := by
  refine keeps_updateDoc fun d hd => hd.editStatements hkey (fun items p hp => ?_) fun items _ => ?_
  · refine Nat.le_of_eq ?_
    rw [Tree.labels_list, Tree.labels_list, Tree.count_labels_insertAfter (hnew.count hp)]
  · exact Tree.statementOutline_insertAfter hout follows items

/-! ### Imports -/

theorem keeps_importLocal {method : Method} (h : Off o method.origin.statement) :
    Keeps (Outlined o) (importLocal method) fun _ => True := by
  refine (keeps_node _).bind ?_
  rintro _ ⟨d, hd, rfl⟩
  dsimp only
  refine (keeps_findSomeM? fun specifier _ => ?_).after fun known => ?_
  · split
    · refine (keeps_field specifier _).forget.after fun imported =>
        (keeps_textField imported _).forget.after fun name => ?_
      split
      · exact (keeps_field specifier _).forget.after fun bound =>
          (keeps_textField bound _).forget.after fun _ => keeps_pure trivial
      · exact keeps_pure trivial
    · exact keeps_pure trivial
  · split
    · exact keeps_pure trivial
    · refine keeps_view.after fun s => ?_
      have hnew : (Tree.importSpecifier method.name (s.generateName method.name 0)).Apart o :=
        Tree.apart_node hd.off_zero _ (by simp [Tree.apart_identifier hd.off_zero])
      refine (keeps_adopt_apart hnew).bind ?_
      rintro specifier ⟨hspecifier, -⟩
      exact (keeps_append (hd.off_label_get h) (by decide) hspecifier).after fun _ =>
        (keeps_updateView _).after fun _ => keeps_pure trivial

/-- What is left of specifiers are some of them. -/
theorem keeps_dropUnused {I : Document → Prop} (specifiers : List Tree) :
    Keeps I (dropUnused specifiers) fun kept => ∀ t ∈ kept, t ∈ specifiers := by
  have hfilter : Keeps I (dropUnused specifiers) fun kept => ∀ t ∈ kept, t ∈ specifiers ∧ True := by
    refine keeps_filterM fun specifier _ => ?_
    split
    · exact keeps_pure fun _ => trivial
    · refine keeps_view.after fun s => ?_
      split
      · exact keeps_pure fun _ => trivial
      · dsimp only
        split
        · exact (keeps_updateView _).after fun _ => keeps_pure nofun
        · exact keeps_pure fun _ => trivial
  exact hfilter.mono fun kept hkept t ht => (hkept t ht).1

theorem keeps_tidyOther (hnamed : ∀ p ∈ o, isNamingKind p.kind = true) {origin : Origin} (h : Known o origin)
    (source : Tree) (label : Nat) : Keeps (Outlined o) (tidyOther origin source label) fun _ => True := by
  refine (keeps_node label).bind ?_
  rintro _ ⟨d, hd, rfl⟩
  dsimp only
  split
  · exact keeps_pure trivial
  rename_i hkind
  split
  · exact keeps_pure trivial
  simp only [Bool.or_eq_true, not_or, Bool.not_eq_true', Bool.not_eq_false] at hkind
  have hoff : Off o label := hd.off_of_isKind hnamed hkind.1.2 rfl
  refine (keeps_dropUnused _).bind fun kept hkept => ?_
  have hapart : (Tree.list kept).Apart o :=
    Tree.apart_list.mpr fun t ht => ((hd.apart_get hoff).get _).of_mem_items (hkept t ht)
  refine (keeps_setField hoff (by decide) (by decide) hapart).after fun _ => ?_
  split
  · refine keeps_updateDoc fun d hd => hd.editStatements h.key (fun items p _ => ?_) fun items hitems => ?_
    · rw [Tree.labels_list, Tree.labels_list]
      exact Tree.count_labels_sublist List.eraseP_sublist
    · exact Tree.statementOutline_eraseP hitems hoff
  · exact keeps_pure trivial

theorem keeps_tidyImport (hnamed : ∀ p ∈ o, isNamingKind p.kind = true) {origin : Origin} (h : Known o origin)
    (hoff : Off o origin.statement) : Keeps (Outlined o) (tidyImport origin) fun _ => True := by
  refine (keeps_node _).forget.after fun first => keeps_doc.forget.after fun d => ?_
  dsimp only
  refine (keeps_forIn (S := fun _ => True) trivial fun other _ _ _ => ?_).after fun _ => ?_
  · exact (keeps_tidyOther hnamed h _ _).after fun _ => keeps_pure trivial
  refine (keeps_node _).bind ?_
  rintro _ ⟨d, hd, rfl⟩
  have hdeclaration : (d.get origin.statement).Apart o := hd.apart_get hoff
  have hlabel : Off o (d.get origin.statement).label := hd.off_label_get hoff
  refine (keeps_dropUnused _).bind fun kept hkept => ?_
  have hparts {items : List Tree} (hitems : ∀ t ∈ items, t ∈ kept) : (Tree.list items).Apart o :=
    Tree.apart_list.mpr fun t ht => (hdeclaration.get _).of_mem_items (hkept t (hitems t ht))
  split
  · refine (keeps_setField hlabel (by decide) (by decide)
      (hparts fun t ht => (List.mem_filter.mp ht).1)).after fun _ => ?_
    have hnew : (Tree.importDeclaration (kept.filter isNamedSpecifier)
        (((d.get origin.statement).get "source").relabel 0)).Apart o := by
      refine Tree.apart_node hd.off_zero _ (List.forall_mem_cons.mpr ⟨?_, List.forall_mem_singleton.mpr ?_⟩)
      · exact hparts fun t ht => (List.mem_filter.mp ht).1
      · exact (hdeclaration.get _).relabel hd.off_zero
    refine (keeps_adopt_apart hnew).bind ?_
    rintro named ⟨hnamed, hobj, hkind⟩
    exact keeps_insertAfter h.key hnamed (Tree.outlineAt_of_not_leadsTo hobj (by rw [hkind]; rfl)) _
  · refine (keeps_setField hlabel (by decide) (by decide) (hparts fun t ht => ht)).after fun _ => ?_
    split
    · refine keeps_updateDoc fun d hd => hd.editStatements h.key (fun items p _ => ?_) fun items hitems => ?_
      · rw [Tree.labels_list, Tree.labels_list]
        exact Tree.count_labels_sublist List.eraseP_sublist
      · exact Tree.statementOutline_eraseP hitems hlabel
    · exact keeps_pure trivial

/-! ### Required modules -/

theorem keeps_newPattern (hzero : Off o 0) {origin : Origin} (h : Known o origin) (scope : Nat) :
    Keeps (Outlined o) (newPattern origin scope) fun declarator => declarator.Apart o := by
  refine keeps_view.after fun s => ?_
  dsimp only
  have hpattern : (Tree.objectPattern []).Apart o :=
    Tree.apart_node hzero _ (List.forall_mem_singleton.mpr (Tree.apart_list.mpr nofun))
  have hdeclarator : (Tree.variableDeclarator (Tree.objectPattern [])
      (Tree.identifier (s.binding origin.binding).name)).Apart o :=
    Tree.apart_node hzero _ (by simp [hpattern, Tree.apart_identifier hzero])
  refine (keeps_adopt_apart hdeclarator).bind ?_
  rintro declarator ⟨hdeclarator, -⟩
  have hdeclaration : (Tree.variableDeclaration "const" [declarator]).Apart o := by
    refine Tree.apart_node hzero _ (List.forall_mem_cons.mpr ⟨?_, List.forall_mem_singleton.mpr ?_⟩)
    · exact Tree.apart_list.mpr (List.forall_mem_singleton.mpr hdeclarator)
    · exact Tree.apart_of_isLeaf rfl
  refine (keeps_adopt_apart hdeclaration).bind ?_
  rintro declaration ⟨hdeclaration, hobj, hkind⟩
  refine (keeps_insertAfter h.key hdeclaration
    (Tree.outlineAt_of_not_leadsTo hobj (by rw [hkind]; rfl)) _).after fun _ => ?_
  exact (keeps_updateView _).after fun _ => keeps_pure hdeclarator

theorem keeps_patternLocal? {I : Document → Prop} (declarator : Tree) (method : String) :
    Keeps I (patternLocal? declarator method) fun _ => True := by
  refine keeps_findSomeM? fun property _ => ?_
  split
  · refine (keeps_keyName property).after fun key => ?_
    split
    · refine (keeps_field property _).forget.after fun value => ?_
      split
      · exact (keeps_textField value _).forget.after fun _ => keeps_pure trivial
      · exact keeps_pure trivial
    · exact keeps_pure trivial
  · exact keeps_pure trivial

/-- The pattern after a `require` is in a plain declaration. -/
theorem apart_of_patternAfter? {d : Document} (hd : d.Outlined o) (s : ScopeTree) {origin : Origin}
    (h : Known o origin) {declarator : Tree} (hp : patternAfter? d s origin = some declarator) :
    declarator.Apart o := by
  rw [patternAfter?] at hp
  split at hp
  · rename_i following hfollowing
    split at hp
    · rename_i hkind
      obtain ⟨hobj, hkind⟩ := Tree.kind_of_isKind hkind
      have hmem : following ∈ d.listAt origin.owner origin.key :=
        List.dropWhile_sublist _ |>.mem (List.mem_of_mem_tail (List.mem_of_head? hfollowing))
      have hapart := hd.apart_of_mem_listAt hmem hobj h.key (by rw [hkind]; rfl)
      exact (hapart.get _).of_mem_items (List.mem_of_find?_eq_some hp)
    · cases hp
  · cases hp

/-- A method is taken out of a pattern that is not on the outline. -/
theorem keeps_takeOut (hzero : Off o 0) {declarator : Tree} (h : declarator.Apart o) (method : String) (scope : Nat) :
    Keeps (Outlined o) (do
      let name := (← view).generateName method scope
      let property ← adopt (Tree.property (Tree.identifier method) (Tree.identifier name) (name == method))
      updateDoc (·.editList (declarator.get "id").label "properties" (· ++ [property]))
      updateView fun s => (s.declare scope (property.get "value").label name "const" (some declarator)).1
      return name) fun _ => True := by
  refine keeps_view.after fun s => ?_
  have hproperty {name : String} {shorthand : Bool} : (Tree.property (Tree.identifier method)
      (Tree.identifier name) shorthand).Apart o :=
    Tree.apart_node hzero _ (by
      simp only [List.forall_mem_cons]
      have hflag {b : Bool} : (Tree.bool b).Apart o := Tree.apart_of_isLeaf rfl
      exact ⟨Tree.apart_identifier hzero method, hflag, Tree.apart_identifier hzero name,
        Tree.apart_of_isLeaf rfl, hflag, hflag, nofun⟩)
  refine (keeps_adopt_apart hproperty).bind ?_
  rintro property ⟨hproperty, -⟩
  refine (keeps_append ((h.get _).off_label hzero) (by decide) hproperty).after fun _ => ?_
  exact (keeps_updateView _).after fun _ => keeps_pure trivial

theorem keeps_requireLocal {method : Method} (h : Known o method.origin) :
    Keeps (Outlined o) (requireLocal method) fun _ => True := by
  refine keeps_view.after fun s => keeps_doc.bind fun d hd => keeps_view.after fun s' => ?_
  have hzero := hd.off_zero
  dsimp only
  cases hp : patternAfter? d s' method.origin with
  | some declarator =>
    refine (keeps_patternLocal? declarator _).after fun known => ?_
    split
    · exact keeps_pure trivial
    · exact (keeps_pure (apart_of_patternAfter? hd s' h hp)).bind fun _ hapart => keeps_takeOut hzero hapart _ _
  | none =>
    refine (keeps_pure trivial).after fun known => ?_
    split
    · exact keeps_pure trivial
    · exact (keeps_newPattern hzero h _).bind fun _ hapart => keeps_takeOut hzero hapart _ _

/-! ### Call sites -/

/-- No export starts with the callee of a call. -/
theorem keeps_callDirectly (hzero : Off o 0) (name : String) (call object : Nat) :
    Keeps (Outlined o) (callDirectly name call object) fun _ => True := by
  refine (keeps_adopt_apart (Tree.apart_identifier hzero name)).bind ?_
  rintro callee ⟨hcallee, -⟩
  refine (keeps_node object).forget.after fun old => ?_
  refine (keeps_updateDoc fun d hd => ?_).after fun _ => keeps_updateView _
  exact hd.set hcallee (.inl (not_isExportKey (by decide))) (by decide) (by decide)

theorem keeps_makeDirect (hzero : Off o 0) {method : Method} (h : Known o method.origin) :
    Keeps (Outlined o) (makeDirect method) fun _ => True := by
  have hnone : Keeps (Outlined o) (pure false) fun _ => True := keeps_pure trivial
  have hsome (name : String) : Keeps (Outlined o) (do
      for x in method.calls do callDirectly name x.1 x.2
      return true) fun _ => True := by
    refine (keeps_forIn (S := fun _ => True) trivial fun entry _ _ _ => ?_).after fun _ => keeps_pure trivial
    exact (keeps_callDirectly hzero _ _ _).after fun _ => keeps_pure trivial
  refine keeps_view.after fun s => ?_
  dsimp only
  split
  · exact ((keeps_importLocal (h.statement ‹_›)).map fun _ _ => trivial).afterOption hnone hsome
  · split
    · exact ((keeps_requireLocal h).map fun _ _ => trivial).afterOption hnone hsome
    · exact (keeps_pure trivial).afterOption hnone hsome

/-- The origins are gathered without repetition. -/
theorem mem_of_mem_foldl {origins found : List Origin} {origin : Origin}
    (h : origin ∈ origins.foldl (fun found origin =>
      if found.any fun (o : Origin) => o.statement == origin.statement then found
      else found ++ [origin]) found) : origin ∈ found ∨ origin ∈ origins := by
  induction origins generalizing found with
  | nil => exact .inl h
  | cons first rest ih =>
    rw [List.foldl_cons] at h
    rcases ih h with h | h
    · split at h
      · exact .inl h
      · rcases List.mem_append.mp h with h | h
        · exact .inl h
        · exact .inr (List.mem_singleton.mp h ▸ List.mem_cons_self)
    · exact .inr (List.mem_cons_of_mem _ h)

/-- **Making calls direct keeps the outline.** -/
theorem keeps_run (hnamed : ∀ p ∈ o, isNamingKind p.kind = true) :
    Keeps (Outlined o) run fun _ => True := by
  refine keeps_scopes.after fun s => keeps_doc.bind fun d hd => ?_
  dsimp only
  refine (keeps_foldlM nofun fun call _ methods hmethods => keeps_addCall hd s hmethods call).bind
    fun methods hmethods => ?_
  refine (keeps_forIn (S := fun _ => True) trivial fun method hmethod _ _ => ?_).after fun _ => ?_
  · exact (keeps_makeDirect hd.off_zero (hmethods method hmethod)).discard.after fun _ => keeps_pure trivial
  refine (keeps_forIn (S := fun _ => True) trivial fun origin horigin _ _ => ?_).after fun _ => keeps_pure trivial
  rcases mem_of_mem_foldl horigin with horigin | horigin
  · cases horigin
  · obtain ⟨hmem, himported⟩ := List.mem_filter.mp horigin
    obtain ⟨method, hmethod, rfl⟩ := List.mem_map.mp hmem
    have hknown := hmethods method hmethod
    exact (keeps_tidyImport hnamed hknown (hknown.statement himported)).after fun _ => keeps_pure trivial

end Deminify.Rules.DirectCall
