import Deminify.Proofs.DirectCall.Methods

/-!
# The imports of a program whose calls are made direct

The rule adds names to imports, drops what nothing uses any more, and puts names apart from namespaces. **The imports
that come out can stand, and they bind what was bound before unless nothing uses it**
(`Deminify.Rules.DirectCall.imports_kept`).
-/

namespace Deminify

/-- The name that a specifier binds. -/
def Tree.localName (specifier : Tree) : String := (((specifier.get "local").get "name").str?).getD ""

namespace Rules.DirectCall

open Editing ScopeTree

/-- How often a specifier is imported. -/
def importCount (program specifier : Tree) : Nat :=
  ((program.imports.flatMap Tree.specifiers).map Tree.label).count specifier.label

/-- **Whether the imports of a program stay valid and complete** as another program comes of it, of which the scopes are
given. -/
structure ImportsKept (before after : Tree) (scopes : ScopeTree) : Prop where
  /-- No namespace stands next to names. -/
  apart : ∀ i ∈ after.imports, ¬(Tree.bindsKind i.specifiers "ImportNamespaceSpecifier" = true ∧
    Tree.bindsKind i.specifiers "ImportSpecifier" = true)
  defaults : ∀ i ∈ after.imports, i.specifiers.countP (·.isKind "ImportDefaultSpecifier") ≤ 1
  /-- A specifier is imported once from the same module, or it is not, and nothing uses what it bound. -/
  specifiers : ∀ i ∈ before.imports, ∀ x ∈ i.specifiers,
    importCount after x = 1 ∧ (∃ i' ∈ after.imports, sourceOf i' = sourceOf i ∧ x ∈ i'.specifiers) ∨
    importCount after x = 0 ∧ scopes.Spares x.localName
  /-- An import is still there, or it bound something, and nothing uses that. -/
  declarations : ∀ i ∈ before.imports, (∃ i' ∈ after.imports, i'.label = i.label) ∨
    i.specifiers ≠ [] ∧ ∀ x ∈ i.specifiers, scopes.Spares x.localName
  sources : ∀ i ∈ before.imports, ∃ i' ∈ after.imports, sourceOf i' = sourceOf i

/-! ### The start -/

section Start

variable {source : String} {p : Program} {start : Document} {notes : List Note}

theorem exists_starts (h : Program.read source = .ok p) : ∃ notes, Starts ⟨p.tree, [], p.next⟩ notes ∧
    build p.tree = .ok (ofNotes p.tree.label notes) := by
  obtain ⟨notes, hw, ht⟩ := exists_tells (Program.is_of_read h) (Program.labelled_of_read h)
  refine ⟨notes, ⟨Document.inOrder_of_read h, Program.is_of_read h, ht, hw⟩, ?_⟩
  rw [build, hw]
  rfl

theorem Starts.directs (hs : Starts start notes) {calls : List (Nat × Nat)}
    (hcalls : ∀ call ∈ calls, ∃ c, IsCall start call c) :
    Directs start (ofNotes start.root.label notes) calls start (ofNotes start.root.label notes) where
  order := hs.order
  label := rfl
  next := Nat.le_refl _
  old _ _ := Nat.le_refl _
  stands q hq _ := ⟨q, hq, rfl, rfl, rfl, rfl⟩
  inside := id
  lists {r _} hr _ := ⟨r, hr, rfl, rfl, List.Subset.refl _⟩
  carries := .refl hs.tells.leads.filed
  covers := hs.tells.covers
  callees := hcalls

end Start

/-! ### The imports to tidy -/

section Pending

variable {start d : Document} {notes : List Note} {s₀ s : ScopeTree} {calls : List (Nat × Nat)} {touched : Nat → Prop}
  {i : Tree}

theorem keepsImport_iff (hf : i.hasFields = true) (hk : i.kind = "ImportDeclaration") :
    Tree.keepsImport i.fields = true ↔ (∃ m, sourceOf i = .str m) ∧ Tree.bindsTogether i.specifiers = true := by
  have hobj := Tree.isObj_of_hasFields hf
  have hlookup {key : String} {sort : FieldSort} (hs : Tree.fieldSort i.kind key = some sort) :
      i.fields.lookup key = some (i.get key) := by
    obtain ⟨spec, hspec, hm⟩ := Tree.exists_of_fieldSort hs
    obtain ⟨v, hv, -⟩ := Tree.takes_of_hasFields hf hspec hm
    rw [Tree.get_of_get? hv, ← hv]
    cases i with
    | obj => rfl
    | _ => cases hobj
  rw [Tree.keepsImport, hlookup (by rw [hk]; rfl), hlookup (by rw [hk]; rfl), Bool.and_eq_true, Option.any_some,
    Option.any_some, sourceOf, Tree.specifiers]
  refine and_congr_left fun _ => ?_
  cases (i.get "source").get "value" <;> simp [Tree.str?]

theorem Starts.together (hs : Starts start notes) (hi : i ∈ start.root.imports) :
    (∃ m, sourceOf i = .str m) ∧ Tree.bindsTogether i.specifiers = true := by
  obtain ⟨hin, hk⟩ := hs.order.mem_imports.mp hi
  have hwf : i.WellFormed := fun n hn => hs.is.2 n (Tree.subtree_subset hin hn)
  exact (keepsImport_iff hwf.hasFields hk).mp (hwf.together hk)

/-- **What is known of the imports** when the calls have been made direct. -/
theorem Starts.tidying (hs : Starts start notes) (h : Directs start s₀ calls d s) (hgains : Gains touched start d)
    (pending : List Nat) (htouched : ∀ l, touched l → l ∈ pending)
    (hpending : ∀ l ∈ pending, l ∈ start.body.map Tree.label ∧ IsNamed d l) : Tidying d s pending d s where
  tidies := .refl h.order
  fades := .refl s
  kept := .inl
  known := id
  imports i hi := .inl ⟨i, hi, rfl, List.Subset.refl _, .inl fun _ => .inl⟩
  sources i hi := ⟨i, hi, rfl⟩
  text i hi := by
    obtain ⟨i₀, hi₀, he⟩ := hgains.known i hi
    rw [he.source]
    exact (hs.together hi₀).1
  defaults i hi := by
    obtain ⟨i₀, hi₀, he⟩ := hgains.known i hi
    obtain ⟨names, hspecifiers, hnamed, -⟩ := he.specifiers
    have htogether := (hs.together hi₀).2
    rw [Tree.bindsTogether, Bool.and_eq_true, decide_eq_true_eq] at htogether
    have hnone : names.countP (·.isKind "ImportDefaultSpecifier") = 0 := List.countP_eq_zero.mpr fun x hx hk =>
      absurd ((Tree.kind_of_isKind (hnamed x hx)).2.symm.trans (Tree.kind_of_isKind hk).2) (by decide)
    rw [hspecifiers, List.countP_append, hnone]
    exact htogether.1
  together i hi := by
    obtain ⟨i₀, hi₀, he⟩ := hgains.known i hi
    obtain ⟨names, hspecifiers, -, ht⟩ := he.specifiers
    by_cases hnames : names = []
    · rw [hspecifiers, hnames, List.append_nil]
      exact .inr (hs.together hi₀).2
    · exact .inl (he.label ▸ htouched _ (ht hnames))
  pending l hl := by
    obtain ⟨hbody, hnamed⟩ := hpending l hl
    refine ⟨?_, hnamed⟩
    obtain ⟨r, hr, hrl, -, hsub⟩ := h.lists (Tree.mem_subtree_self start.root) 
      (show Tree.statementKey start.root.kind = some "body" by rw [hs.order.kind]; rfl)
    obtain rfl := h.order.eq_of_label (Tree.mem_subtree_self _) (h.order.mem_records hr) (hrl.trans h.label.symm)
    exact hsub hbody

end Pending

/-- The origins of different imports. -/
theorem foldl_distinct (origins : List Origin) {found : List Origin} (hn : (found.map Origin.statement).Nodup) :
    let all := origins.foldl (fun found origin =>
      if found.any fun (o : Origin) => o.statement == origin.statement then found else found ++ [origin]) found
    (all.map Origin.statement).Nodup ∧ (∀ o ∈ all, o ∈ found ∨ o ∈ origins) ∧
      (∀ o, o ∈ found ∨ o ∈ origins → o.statement ∈ all.map Origin.statement) := by
  induction origins generalizing found with
  | nil => exact ⟨hn, fun o ho => .inl ho, fun o ho => List.mem_map_of_mem (ho.resolve_right List.not_mem_nil)⟩
  | cons origin rest ih =>
    rw [List.foldl_cons]
    split
    · rename_i hany
      obtain ⟨o', ho', hsame⟩ := List.any_eq_true.mp hany
      obtain ⟨hnodup, hsub, hall⟩ := ih hn
      refine ⟨hnodup, fun o ho => (hsub o ho).imp id (List.mem_cons_of_mem _), fun o ho => ?_⟩
      rcases ho with ho | ho
      · exact hall o (.inl ho)
      · rcases List.mem_cons.mp ho with rfl | ho
        · exact beq_iff_eq.mp hsame ▸ hall o' (.inl ho')
        · exact hall o (.inr ho)
    · rename_i hany
      have hnew : origin.statement ∉ found.map Origin.statement := fun hm => hany <| by
        obtain ⟨o, ho, he⟩ := List.mem_map.mp hm
        exact List.any_eq_true.mpr ⟨o, ho, beq_iff_eq.mpr he⟩
      have hn' : ((found ++ [origin]).map Origin.statement).Nodup := by
        rw [List.map_append, List.map_singleton, ← List.concat_eq_append]
        exact hn.concat hnew
      obtain ⟨hnodup, hsub, hall⟩ := ih hn'
      refine ⟨hnodup, fun o ho => ?_, fun o ho => hall o ?_⟩
      · have := hsub o ho
        simp only [List.mem_append, List.mem_cons] at this ⊢
        tauto
      · simp only [List.mem_append, List.mem_cons] at ho ⊢
        tauto

/-! ### What is dropped -/

section Dropped

variable {start d d' : Document} {notes notes' : List Note} {s : ScopeTree} {calls : List (Nat × Nat)} {i x : Tree}
  {b : Nat}

theorem fieldSort_local (hwhole : isWhole x = true) : Tree.fieldSort x.kind "local" = some .name := by
  rw [isWhole, Bool.or_eq_true] at hwhole
  rcases hwhole with hk | hk <;> rw [(Tree.kind_of_isKind hk).2] <;> rfl

/-- **What a specifier binds is bound for the whole program.** -/
theorem Starts.boundIn (hs : Starts start notes) (hi : i ∈ start.root.imports) (hx : x ∈ i.specifiers)
    (hwhole : isWhole x = true) (hb : (ofNotes start.root.label notes).bindingFor (x.get "local").label = some b) :
    (ofNotes start.root.label notes).boundIn 0 x.localName = some b := by
  have hd := hs.order
  obtain ⟨hin, hk⟩ := hd.mem_imports.mp hi
  have hxin := hd.mem_items hin (hd.fieldSort_specifiers hi) hx
  have hlocal := fieldSort_local hwhole
  obtain ⟨e, ⟨q, hq, he⟩, hl⟩ := hs.tells.named_of_bindingFor hb _ (hs.tells.mem_identifiers_of_bindingFor hb)
  -- the name stands in the import
  obtain ⟨p, hp, rfl⟩ := exists_reaches (p := Site.root start.root) hin
  have hp' : Stands start.root ((p.below "specifiers" x).below "local" (x.get "local")) :=
    Reaches.trans hp (.trans (reaches_of_mem_nodesAt ((hd.mem_nodesAt hin (hd.fieldSort_specifiers hi)).mpr hx))
      (reaches_of_mem_nodesAt ((Tree.mem_nodesAt_node (hd.fields x hxin) hlocal).mpr rfl)))
  obtain rfl := hp'.unique hd.labelled hq (Site.name_of_mem_events he hl).1.symm
  have himport := ((p.inImport_below hk (.inl rfl) x).below "local" (x.get "local")).events he
  rcases himport with ⟨l, y, rfl⟩ | ⟨f, rfl⟩
  · obtain rfl : l = (x.get "local").label := Option.some.inj hl
    obtain rfl : y = x.localName := Site.name?_of_mem_events he rfl
    have hdeclared : Happens start.root
        (.declares (x.get "local").label x.localName ⟨start.root.label, "program"⟩ false) := by
      refine ⟨_, hq, ?_⟩
      rw [← Stands.outermost hp]
      exact he
    exact hs.tells.boundIn_of_bindingFor hdeclared hb
  · cases hl

/-- **Nothing uses what a specifier bound that is dropped.** -/
theorem Starts.spares (hs : Starts start notes) (h : Directs start (ofNotes start.root.label notes) calls d s)
    (ht : d.Tidies d') (hfresh : Tells d'.root notes') (hi : i ∈ start.root.imports) (hx : x ∈ i.specifiers)
    (hunused : Unused s x) : (ofNotes d'.root.label notes').Spares x.localName := by
  obtain ⟨hwhole, b, hb, hreferences, hwrites⟩ := hunused
  have hxin := hs.order.mem_items (hs.order.mem_imports.mp hi).1 (hs.order.fieldSort_specifiers hi) hx
  have hold := (hs.order.given _ (hs.order.label_mem (hs.order.mem_get hxin (fieldSort_local hwhole)).1)).2
  have hb₀ : (ofNotes start.root.label notes).bindingFor (x.get "local").label = some b := by
    rcases h.carries.bindingFor hold with he | he
    · exact he.symm.trans hb
    · rw [he] at hb
      cases hb
  refine hfresh.spares fun hu => ?_
  rcases h.covers (hs.boundIn hi hx hwhole hb₀) (ht.uses hu) with hin | hrecorded
  · obtain ⟨f, hf, hk, hd⟩ := hin
    exact ⟨f, hf, hk, ht.inside hk hd⟩
  · rw [Records, Array.isEmpty_iff.mp hreferences, Array.isEmpty_iff.mp hwrites] at hrecorded
    simp at hrecorded

end Dropped

/-! ### What comes out -/

section Result

variable {start d : Document} {s₁ s : ScopeTree}

/-- The specifiers of a program have labels of their own. -/
theorem nodup_specifiers (h : d.InOrder) : ((d.root.imports.flatMap Tree.specifiers).map Tree.label).Nodup := by
  rw [List.map_flatMap, List.nodup_flatMap]
  have hin {i x : Tree} (hi : i ∈ d.root.imports) (hx : x ∈ i.specifiers) : x ∈ d.root.subtree :=
    h.mem_items (h.mem_imports.mp hi).1 (h.fieldSort_specifiers hi) hx
  refine ⟨fun i hi => h.nodup_items (h.mem_imports.mp hi).1 (h.fieldSort_specifiers hi), ?_⟩
  have hnodup : d.root.imports.Nodup := (List.Nodup.of_map _ h.labelled).filter _
  refine List.Pairwise.imp_of_mem (fun {i j} hi hj hne => ?_) hnodup
  intro l hl hl'
  obtain ⟨x, hx, rfl⟩ := List.mem_map.mp hl
  obtain ⟨y, hy, hyx⟩ := List.mem_map.mp hl'
  obtain rfl := h.eq_of_label (hin hi hx) (h.mem_records (hin hj hy)) hyx
  exact hne (h.import_eq hi hj hx hy)

theorem importCount_of_mem (h : d.InOrder) {i x : Tree} (hi : i ∈ d.root.imports) (hx : x ∈ i.specifiers) :
    importCount d.root x = 1 :=
  List.count_eq_one_of_mem (nodup_specifiers h) (List.mem_map_of_mem (List.mem_flatMap.mpr ⟨i, hi, hx⟩))

/-- **A program whose imports have been tidied is well formed.** -/
theorem Tidying.is (h : Tidying start s₁ [] d s) : d.root.Is (· == "Program") := by
  have hd := h.tidies.order
  refine ⟨Tree.isOf_of_hasFields (hd.fields _ (Tree.mem_subtree_self _)) (by rw [hd.kind]; rfl), fun n hn => ?_⟩
  rw [Tree.conforms, Bool.and_eq_true, Bool.or_eq_true, bne_iff_ne]
  refine ⟨hd.fields n hn, Decidable.or_iff_not_imp_left.mpr fun hk => ?_⟩
  have hi := hd.mem_imports.mpr ⟨hn, not_not.mp hk⟩
  exact (keepsImport_iff (hd.fields n hn) (not_not.mp hk)).mpr
    ⟨h.text n hi, (h.together n hi).resolve_left List.not_mem_nil⟩

variable {before : Document} {notes notes' : List Note} {calls : List (Nat × Nat)} {touched : Nat → Prop}

/-- **The imports are kept** from the start to the end. -/
theorem Starts.importsKept (hs : Starts before notes)
    (h : Directs before (ofNotes before.root.label notes) calls start s₁) (hgains : Gains touched before start)
    (ht : Tidying start s₁ [] d s) (hfresh : Tells d.root notes') :
    ImportsKept before.root d.root (ofNotes d.root.label notes') := by
  have hd := ht.tidies.order
  have hstart := h.order
  have hspared {i x : Tree} (hi : i ∈ before.root.imports) (hx : x ∈ i.specifiers) (hunused : Unused s₁ x) :=
    hs.spares h ht.tidies hfresh hi hx hunused
  -- what is not imported any more is unused
  have hdropped {source x : Tree} (hx : Binds start source x) (hgone : ∀ source, ¬Binds d source x) : Unused s₁ x :=
    (ht.kept hx).resolve_left (hgone source)
  have htogether {i : Tree} (hi : i ∈ d.root.imports) := (ht.together i hi).resolve_left List.not_mem_nil
  refine ⟨fun i hi => ?_, ht.defaults, fun i₀ hi₀ x hx => ?_, fun i₀ hi₀ => ?_, fun i₀ hi₀ => ?_⟩
  · have h := htogether hi
    rw [Tree.bindsTogether, Bool.and_eq_true, Bool.not_eq_true', Bool.and_eq_false_iff] at h
    rintro ⟨hspaces, hnames⟩
    simp [hspaces, hnames] at h
  · obtain ⟨i, hi, he⟩ := hgains.imports i₀ hi₀
    obtain ⟨names, hspecifiers, -⟩ := he.specifiers
    have hx' : x ∈ i.specifiers := by
      rw [hspecifiers]
      exact List.mem_append_left _ hx
    by_cases hstill : ∃ source, Binds d source x
    · obtain ⟨source, i', hi', hsource, hxi'⟩ := hstill
      obtain ⟨j, hj, hjs, hxj⟩ := ht.known ⟨i', hi', rfl, hxi'⟩
      obtain rfl := hstart.import_eq hi hj hx' hxj
      exact .inl ⟨importCount_of_mem hd hi' hxi', i', hi', hjs.symm.trans he.source, hxi'⟩
    · push Not at hstill
      refine .inr ⟨List.count_eq_zero_of_not_mem fun hm => ?_, hspared hi₀ hx (hdropped ⟨i, hi, rfl, hx'⟩ hstill)⟩
      obtain ⟨y, hy, hyx⟩ := List.mem_map.mp hm
      obtain ⟨i', hi', hyi'⟩ := List.mem_flatMap.mp hy
      obtain ⟨j, hj, -, hyj⟩ := ht.known ⟨i', hi', rfl, hyi'⟩
      have hin {i x : Tree} (hi : i ∈ start.root.imports) (hx : x ∈ i.specifiers) : x ∈ start.root.subtree :=
        hstart.mem_items (hstart.mem_imports.mp hi).1 (hstart.fieldSort_specifiers hi) hx
      obtain rfl := hstart.eq_of_label (hin hi hx') (hstart.mem_records (hin hj hyj)) hyx
      exact hstill _ ⟨i', hi', rfl, hyi'⟩
  · obtain ⟨i, hi, he⟩ := hgains.imports i₀ hi₀
    obtain ⟨names, hspecifiers, hnamed, -⟩ := he.specifiers
    refine (ht.imports i hi).imp ?_ ?_
    · rintro ⟨i', hi', hl, -⟩
      exact ⟨i', hi', hl.trans he.label⟩
    · rintro ⟨hne, hgone⟩
      have hunused {x : Tree} (hx : x ∈ i.specifiers) : Unused s₁ x := hdropped ⟨i, hi, rfl, hx⟩ (hgone x hx)
      rw [hspecifiers] at hunused hne
      refine ⟨fun hnil => hne ?_, fun x hx => hspared hi₀ hx (hunused (List.mem_append_left _ hx))⟩
      -- a name is not dropped
      rw [hnil, List.nil_append, List.eq_nil_iff_forall_not_mem]
      intro x hx
      have hwhole := (hunused (List.mem_append_right _ hx)).1
      have hk := (Tree.kind_of_isKind (hnamed x hx)).2
      rw [isWhole, Bool.or_eq_true] at hwhole
      rcases hwhole with hw | hw <;> exact absurd (hk.symm.trans (Tree.kind_of_isKind hw).2) (by decide)
  · obtain ⟨i, hi, he⟩ := hgains.imports i₀ hi₀
    obtain ⟨i', hi', hsource⟩ := ht.sources i hi
    exact ⟨i', hi', hsource.trans he.source⟩

end Result

section Run

variable {source : String} {p : Program} {c : Context}

/-- **Imports stay valid and complete** when calls are made direct. -/
theorem imports_kept (h : Program.read source = .ok p) (hdoc : c.doc = ⟨p.tree, [], p.next⟩) (hview : c.view = none) :
    ∃ c' scopes, run.run.run c = (.ok (), c') ∧ build c'.doc.root = .ok scopes ∧
      ImportsKept p.tree c'.doc.root scopes := by
  obtain ⟨notes, hs, hbuild⟩ := exists_starts h
  rw [← hdoc] at hs
  have hroot : c.doc.root = p.tree := by rw [hdoc]
  rw [← hroot] at hbuild ⊢
  suffices hends : Ends run c fun _ c' => ∃ scopes, build c'.doc.root = .ok scopes ∧
      ImportsKept c.doc.root c'.doc.root scopes by
    obtain ⟨_, c', hrun, scopes, hb, hk⟩ := hends
    exact ⟨c', scopes, hrun, hb, hk⟩
  refine (ends_scopes hview hbuild).bind ?_
  rintro _ _ ⟨rfl, rfl⟩
  refine Ends.bind (ends_doc (Q := fun a c' => { c with view := some (ofNotes c.doc.root.label notes) } = c' ∧ c.doc = a)
    ⟨rfl, rfl⟩) ?_
  rintro _ _ ⟨rfl, rfl⟩
  refine (answers_methods hs fun call hcall => ?_).bind fun methods hm => ?_
  · obtain ⟨hin, hk⟩ := List.mem_filter.mp hcall
    exact ⟨hin, (Tree.kind_of_isKind hk).2⟩
  have hcalls {call : Nat × Nat} (hcall : call ∈ methods.flatMap Method.calls) :
      OldCall c.doc call ∧ ∃ r, IsCall c.doc call r := by
    obtain ⟨m, hmem, hcall⟩ := List.mem_flatMap.mp hcall
    exact (hm m hmem).calls call hcall
  let touched (l : Nat) : Prop := ∃ m ∈ methods, m.origin.imported = true ∧ m.origin.statement = l
  refine (ends_makeAllDirect (c := { c with view := some (ofNotes c.doc.root.label notes) })
    (hs.directs fun call hcall => (hcalls hcall).2) rfl hs (fun call hcall => (hcalls hcall).1)
    (.refl touched c.doc) fun m hmem =>
      ⟨hm m hmem, fun call hcall => List.mem_flatMap.mpr ⟨m, hmem, hcall⟩, fun hi => ⟨m, hmem, hi, rfl⟩⟩).bind ?_
  rintro - c₁ ⟨s₁, hview₁, h₁, hgains, hnamed⟩
  dsimp only
  obtain ⟨hnodup, hsub, hall⟩ := foldl_distinct ((methods.map (·.origin)).filter (·.imported))
    (show (List.map Origin.statement []).Nodup from List.nodup_nil)
  generalize List.foldl _ [] _ = imports at *
  -- each import that is tidied is that of a method
  have horigin {o : Origin} (ho : o ∈ imports) : IsImported c.doc o ∧ ∃ m ∈ methods, m.origin = o ∧ o.imported = true := by
    obtain ⟨ho, hi⟩ := List.mem_filter.mp ((hsub o ho).resolve_left List.not_mem_nil)
    obtain ⟨m, hmem, rfl⟩ := List.mem_map.mp ho
    have horigin := (hm m hmem).origin
    rw [IsOrigin, if_pos hi] at horigin
    exact ⟨horigin, m, hmem, rfl, hi⟩
  have htidying := hs.tidying h₁ hgains (imports.map Origin.statement) ?_ ?_
  · refine (ends_tidyImports htidying hview₁ (fun o ho => ?_) hnodup).bind ?_
    · rw [h₁.label]
      exact ⟨(horigin ho).1.owner, (horigin ho).1.key⟩
    rintro - c₂ ⟨s₂, ht⟩
    obtain ⟨notes', hw, hfresh⟩ := exists_tells ht.is ht.tidies.order.labelled
    refine ends_pure ⟨ofNotes c₂.doc.root.label notes', ?_, hs.importsKept h₁ hgains ht hfresh⟩
    rw [build, hw]
    rfl
  · rintro _ ⟨m, hmem, hi, rfl⟩
    exact hall m.origin (.inr (List.mem_filter.mpr ⟨List.mem_map_of_mem hmem, hi⟩))
  · intro l hl
    obtain ⟨o, ho, rfl⟩ := List.mem_map.mp hl
    obtain ⟨himported, m, hmem, rfl, hi⟩ := horigin ho
    obtain ⟨i, hin, -, hil⟩ := himported.declared
    exact ⟨hil ▸ List.mem_map_of_mem hin, hnamed m hmem hi⟩

/-- Names are taken from a module next to a namespace, and a default import goes. -/
theorem imports_kept_next_to_namespace : ∃ p c' scopes,
    Program.read "import m, * as n from 'm'; (0, m.f)(); (0, n.g)(n);" = .ok p ∧
    run.run.run { doc := ⟨p.tree, [], p.next⟩ } = (.ok (), c') ∧ build c'.doc.root = .ok scopes ∧
    ImportsKept p.tree c'.doc.root scopes := by
  have hsome : (Program.read "import m, * as n from 'm'; (0, m.f)(); (0, n.g)(n);").toOption.isSome = true := by
    decide +kernel
  obtain ⟨p, hp⟩ := Option.isSome_iff_exists.mp hsome
  obtain ⟨c', scopes, hrun⟩ := imports_kept (eq_ok_of_toOption hp) (c := { doc := ⟨p.tree, [], p.next⟩ }) rfl rfl
  exact ⟨p, c', scopes, eq_ok_of_toOption hp, hrun⟩

end Run

end Rules.DirectCall

end Deminify
