import Deminify.Rules.DirectCall
import Deminify.Proofs.DirectCall.Import
import Deminify.Proofs.Rule.Ending
import Deminify.Proofs.Scope.Index

/-!
# Imports that are tidied

An import loses the specifiers that stand for a whole module and that nothing uses, by the view of the scopes at that
time. The view forgets a binding with its specifier (`Deminify.Rules.DirectCall.Fades`), so that nothing becomes unused
on the way. What is known of the imports while they are tidied is kept by each of the edits
(`Deminify.Rules.DirectCall.Tidying`): an import goes only when it has lost all that it bound, and only next to another
of the same module. **At the end no import is pending** (`Deminify.Rules.DirectCall.ends_tidyImports`).
-/

namespace Deminify

namespace Tree

/-- **A node has one parent.** -/
theorem Labelled.parent_eq {t i j c : Tree} (h : t.Labelled) (hi : i ∈ t.subtree) (hj : j ∈ t.subtree)
    (hc : c ∈ i.children) (hc' : c ∈ j.children) : i = j := by
  have hnodup := ((subtree_perm t).map label).nodup_iff.mpr h
  rw [List.map_cons, List.nodup_cons, List.map_flatMap, List.nodup_flatMap] at hnodup
  have hsymm : Std.Symm (Function.onFun List.Disjoint fun n : Tree => n.children.map label) := ⟨fun _ _ hd => hd.symm⟩
  by_contra hne
  exact hnodup.2.2.forall hi hj hne (List.mem_map_of_mem hc) (List.mem_map_of_mem hc')

/-- **The root is no child**, nor is anything with its label. -/
theorem Labelled.label_ne_of_mem_children {t i c : Tree} (h : t.Labelled) (hi : i ∈ t.subtree) (hc : c ∈ i.children) :
    c.label ≠ t.label := by
  have hnodup := ((subtree_perm t).map label).nodup_iff.mpr h
  rw [List.map_cons, List.nodup_cons] at hnodup
  exact fun hl => hnodup.1 (hl ▸ List.mem_map_of_mem (List.mem_flatMap.mpr ⟨i, hi, hc⟩))

end Tree

namespace Document.InOrder

variable {d : Document} (h : d.InOrder) {i j x : Tree}

include h

theorem mem_children_of_specifiers (hi : i ∈ d.root.imports) (hx : x ∈ i.specifiers) : x ∈ i.children := by
  have hf := h.fields i (h.mem_imports.mp hi).1
  exact Tree.mem_children_of_nodesAt hf ((Tree.mem_nodesAt_nodes hf (h.fieldSort_specifiers hi)).mpr hx)

/-- **A specifier is in one import.** -/
theorem import_eq (hi : i ∈ d.root.imports) (hj : j ∈ d.root.imports) (hx : x ∈ i.specifiers) (hx' : x ∈ j.specifiers) :
    i = j :=
  h.labelled.parent_eq (h.mem_imports.mp hi).1 (h.mem_imports.mp hj).1 (h.mem_children_of_specifiers hi hx)
    (h.mem_children_of_specifiers hj hx')

end Document.InOrder

namespace Rules.DirectCall

open Editing ScopeTree

/-! ### What nothing uses -/

/-- **Whether nothing uses what a specifier binds**, the specifier standing for a whole module. -/
def Unused (s : ScopeTree) (x : Tree) : Prop :=
  isWhole x = true ∧ ∃ b, s.bindingFor (x.get "local").label = some b ∧
    (s.binding b).references.isEmpty = true ∧ (s.binding b).writes.isEmpty = true

/-- **Whether a view has only forgotten bindings** of another. -/
structure Fades (s s' : ScopeTree) : Prop where
  binding : s'.binding = s.binding
  bindingFor : ∀ l, s'.bindingFor l = s.bindingFor l ∨ s'.bindingFor l = none

namespace Fades

variable {s s' s'' : ScopeTree} {x : Tree}

theorem refl (s : ScopeTree) : Fades s s := ⟨rfl, fun _ => .inl rfl⟩

theorem trans (h : Fades s s') (h' : Fades s' s'') : Fades s s'' := by
  refine ⟨h'.binding.trans h.binding, fun l => ?_⟩
  rcases h'.bindingFor l with he | he
  · exact he ▸ h.bindingFor l
  · exact .inr he

theorem removeBinding (s : ScopeTree) (b : Nat) : Fades s (s.removeBinding b) := by
  refine ⟨rfl, fun l => ?_⟩
  rw [bindingFor_removeBinding]
  split
  · exact .inr rfl
  · exact .inl rfl

/-- What is unused afterwards was unused before. -/
theorem unused (h : Fades s s') (hx : Unused s' x) : Unused s x := by
  obtain ⟨hwhole, b, hb, hnone⟩ := hx
  rw [h.binding] at hnone
  refine ⟨hwhole, b, ?_, hnone⟩
  rcases h.bindingFor (x.get "local").label with he | he
  · rw [← he, hb]
  · rw [he] at hb
    cases hb

end Fades

/-- **What is dropped is unused, and what is kept is not**; the rest has not been looked at. -/
structure Drops (s s' : ScopeTree) (specifiers rest kept : List Tree) : Prop where
  fades : Fades s s'
  sublist : (kept ++ rest).Sublist specifiers
  dropped : ∀ x ∈ specifiers, x ∉ kept → x ∉ rest → Unused s x
  used : ∀ x ∈ kept, ¬Unused s' x

namespace Drops

variable {s s' : ScopeTree} {x : Tree} {specifiers rest kept : List Tree}

theorem keep (h : Drops s s' specifiers (x :: rest) kept) (hx : ¬Unused s' x) :
    Drops s s' specifiers rest (kept ++ [x]) where
  fades := h.fades
  sublist := by
    rw [List.append_assoc]
    exact h.sublist
  dropped y hy hnot hrest := by
    rw [List.mem_append, List.mem_singleton, not_or] at hnot
    exact h.dropped y hy hnot.1 fun hm => (List.mem_cons.mp hm).elim hnot.2 hrest
  used := List.forall_mem_append.mpr ⟨h.used, List.forall_mem_singleton.mpr hx⟩

theorem kept_sublist (h : Drops s s' specifiers [] kept) : kept.Sublist specifiers := by simpa using h.sublist

theorem drop (h : Drops s s' specifiers (x :: rest) kept) (hx : Unused s' x) {s'' : ScopeTree} (hs : Fades s' s'') :
    Drops s s'' specifiers rest kept where
  fades := h.fades.trans hs
  sublist := ((List.sublist_cons_self x rest).append_left kept).trans h.sublist
  dropped y hy hnot hrest := by
    by_cases hyx : y = x
    · exact hyx ▸ h.fades.unused hx
    · exact h.dropped y hy hnot fun hm => (List.mem_cons.mp hm).elim hyx hrest
  used y hy hu := h.used y hy (hs.unused hu)

end Drops

theorem ends_dropUnused {c : Context} {s : ScopeTree} (hview : c.view = some s) (specifiers : List Tree) :
    Ends (dropUnused specifiers) c fun kept c' =>
      ∃ s', c' = { c with view := some s' } ∧ Drops s s' specifiers [] kept := by
  refine ends_filterM (I := fun rest kept c' => ∃ s', c' = { c with view := some s' } ∧
    Drops s s' specifiers rest kept) ?_ ⟨s, by rw [← hview], .refl s, .refl _, fun x hx _ hnot => absurd hx hnot, nofun⟩
  rintro x rest kept _ ⟨s', rfl, h⟩
  split
  · rename_i hwhole
    refine ends_pure ⟨s', rfl, h.keep fun hx => ?_⟩
    rw [hx.1] at hwhole
    cases hwhole
  · rename_i hwhole
    have hwhole : isWhole x = true := by simpa using hwhole
    refine (ends_view (Q := fun a c' => s' = a ∧ c' = { c with view := some s' }) ⟨rfl, rfl⟩).bind ?_
    rintro _ _ ⟨rfl, rfl⟩
    split
    · rename_i hnone
      refine ends_pure ⟨s', rfl, h.keep ?_⟩
      rintro ⟨-, b, hb, -⟩
      rw [hnone] at hb
      cases hb
    · rename_i b hb
      dsimp only
      split
      · -- the binding goes, and the specifier with it
        rename_i hempty
        refine (ends_updateView (Q := fun _ c' => c' = { c with view := some (s'.removeBinding b) }) rfl).bind ?_
        rintro _ _ rfl
        rw [Bool.and_eq_true] at hempty
        exact ends_pure ⟨_, rfl, h.drop ⟨hwhole, b, hb, hempty⟩ (.removeBinding s' b)⟩
      · rename_i hempty
        refine ends_pure ⟨s', rfl, h.keep ?_⟩
        rintro ⟨-, b', hb', hempty'⟩
        rw [hb] at hb'
        cases hb'
        exact hempty (Bool.and_eq_true_iff.mpr hempty')

/-! ### Imports while they are tidied -/

/-- Whether a program binds a specifier to what it takes from a module. -/
def Binds (d : Document) (source x : Tree) : Prop := ∃ i ∈ d.root.imports, sourceOf i = source ∧ x ∈ i.specifiers

/-- **What is known of the imports of a program while they are tidied**, some that have new names being still to be
done. -/
structure Tidying (start : Document) (s₁ : ScopeTree) (pending : List Nat) (d : Document) (s : ScopeTree) : Prop where
  tidies : start.Tidies d
  fades : Fades s₁ s
  /-- What is bound no more is unused. -/
  kept : ∀ {source x}, Binds start source x → Binds d source x ∨ Unused s₁ x
  known : ∀ {source x}, Binds d source x → Binds start source x
  /-- An import that is gone has lost what it bound. Until then it has all that is still bound, or it keeps
  something. -/
  imports : ∀ i ∈ start.root.imports,
    (∃ i' ∈ d.root.imports, i'.label = i.label ∧ i'.specifiers ⊆ i.specifiers ∧
      ((∀ x ∈ i.specifiers, x ∈ i'.specifiers ∨ ∀ source, ¬Binds d source x) ∨ ∃ w ∈ i'.specifiers, ¬Unused s w)) ∨
    i.specifiers ≠ [] ∧ ∀ x ∈ i.specifiers, ∀ source, ¬Binds d source x
  sources : ∀ i ∈ start.root.imports, ∃ i' ∈ d.root.imports, sourceOf i' = sourceOf i
  text : ∀ i ∈ d.root.imports, ∃ m, sourceOf i = .str m
  defaults : ∀ i ∈ d.root.imports, i.specifiers.countP (·.isKind "ImportDefaultSpecifier") ≤ 1
  together : ∀ i ∈ d.root.imports, i.label ∈ pending ∨ Tree.bindsTogether i.specifiers = true
  pending : ∀ l ∈ pending, l ∈ d.body.map Tree.label ∧
    ∃ i ∈ d.root.imports, i.label = l ∧ i.specifiers.any isNamedSpecifier = true

namespace Tidying

variable {start d d' : Document} {s₁ s s' : ScopeTree} {pending pending' : List Nat} {i : Tree} {kept parts : List Tree}

/-- **An import is replaced by parts of it** that bind what is kept. -/
theorem replace (h : Tidying start s₁ pending d s) (parts : List Tree) (hi : i ∈ d.root.imports) (hd : d.Tidies d')
    (hdrops : Drops s s' i.specifiers [] kept)
    (himports : ∀ n, n ∈ d'.root.imports ↔ n ∈ parts ∨ n ∈ d.root.imports ∧ n ≠ i)
    (hsource : ∀ n ∈ parts, sourceOf n = sourceOf i) (hkept : ∀ x, x ∈ kept ↔ ∃ n ∈ parts, x ∈ n.specifiers)
    (hself : ∃ n ∈ parts, n.label = i.label ∧
      ((∀ x ∈ kept, x ∈ n.specifiers) ∨ ∃ w ∈ n.specifiers, ¬Unused s' w))
    (hsub : pending' ⊆ pending) (hbody : ∀ l ∈ pending', l ∈ d.body.map Tree.label → l ∈ d'.body.map Tree.label)
    (hdefaults : ∀ n ∈ parts, n.specifiers.countP (·.isKind "ImportDefaultSpecifier") ≤ 1)
    (htogether : ∀ n ∈ parts, n.label ∈ pending' ∨ Tree.bindsTogether n.specifiers = true)
    (hothers : ∀ n ∈ d.root.imports, n ≠ i → n.label ∈ pending → n.label ∈ pending')
    (hnamed : i.label ∈ pending' → ∃ n ∈ parts, n.label = i.label ∧ n.specifiers.any isNamedSpecifier = true) :
    Tidying start s₁ pending' d' s' := by
  have hparts {x : Tree} (hx : x ∈ kept) : x ∈ i.specifiers := hdrops.kept_sublist.subset hx
  -- what is bound afterwards was bound, and by the import itself if it is in one of the parts
  have hknown {source x : Tree} (hb : Binds d' source x) : Binds d source x := by
    obtain ⟨n, hn, rfl, hx⟩ := hb
    rcases (himports n).mp hn with hn | ⟨hn, -⟩
    · exact ⟨i, hi, (hsource n hn).symm, hparts ((hkept x).mpr ⟨n, hn, hx⟩)⟩
    · exact ⟨n, hn, rfl, hx⟩
  have hlost {x : Tree} (hx : x ∈ i.specifiers) (hnot : x ∉ kept) (source : Tree) : ¬Binds d' source x := by
    rintro ⟨n, hn, rfl, hxn⟩
    rcases (himports n).mp hn with hn | ⟨hn, hne⟩
    · exact hnot ((hkept x).mpr ⟨n, hn, hxn⟩)
    · exact hne (h.tidies.order.import_eq hn hi hxn hx)
  refine ⟨h.tidies.trans hd, h.fades.trans hdrops.fades, fun {source x} hb => ?_, fun hb => h.known (hknown hb),
    fun j hj => ?_, fun j hj => ?_, fun n hn => ?_, fun n hn => ?_, fun n hn => ?_, fun l hl => ?_⟩
  · rcases h.kept hb with ⟨n, hn, rfl, hx⟩ | hu
    · by_cases hni : n = i
      · subst hni
        by_cases hxk : x ∈ kept
        · obtain ⟨m, hm, hxm⟩ := (hkept x).mp hxk
          exact .inl ⟨m, (himports m).mpr (.inl hm), hsource m hm, hxm⟩
        · exact .inr (h.fades.unused (hdrops.dropped x hx hxk nofun))
      · exact .inl ⟨n, (himports n).mpr (.inr ⟨hn, hni⟩), rfl, hx⟩
    · exact .inr hu
  · rcases h.imports j hj with ⟨n, hn, hlabel, hsubset, hrest⟩ | ⟨hne, hgone⟩
    · left
      by_cases hni : n = i
      · subst hni
        obtain ⟨m, hm, hml, hm'⟩ := hself
        refine ⟨m, (himports m).mpr (.inl hm), hml.trans hlabel,
          fun x hx => hsubset (hparts ((hkept x).mpr ⟨m, hm, hx⟩)), ?_⟩
        rcases hm' with hall | hw
        · rcases hrest with hrest | ⟨w, hw, hu⟩
          · refine .inl fun x hx => ?_
            rcases hrest x hx with hx | hx
            · by_cases hxk : x ∈ kept
              · exact .inl (hall x hxk)
              · exact .inr (hlost hx hxk)
            · exact .inr fun source hb => hx source (hknown hb)
          · have hwk : w ∈ kept := by_contra fun hnot => hu (hdrops.dropped w hw hnot nofun)
            exact .inr ⟨w, hall w hwk, hdrops.used w hwk⟩
        · exact .inr hw
      · refine ⟨n, (himports n).mpr (.inr ⟨hn, hni⟩), hlabel, hsubset, hrest.imp (fun hall x hx => ?_) ?_⟩
        · exact (hall x hx).imp id fun hx source hb => hx source (hknown hb)
        · rintro ⟨w, hw, hu⟩
          exact ⟨w, hw, fun hu' => hu (hdrops.fades.unused hu')⟩
    · exact .inr ⟨hne, fun x hx source hb => hgone x hx source (hknown hb)⟩
  · obtain ⟨n, hn, hs⟩ := h.sources j hj
    by_cases hni : n = i
    · obtain ⟨m, hm, -⟩ := hself
      exact ⟨m, (himports m).mpr (.inl hm), by rw [hsource m hm, ← hni, hs]⟩
    · exact ⟨n, (himports n).mpr (.inr ⟨hn, hni⟩), hs⟩
  · rcases (himports n).mp hn with hn | ⟨hn, -⟩
    · rw [hsource n hn]
      exact h.text i hi
    · exact h.text n hn
  · rcases (himports n).mp hn with hn | ⟨hn, -⟩
    · exact hdefaults n hn
    · exact h.defaults n hn
  · rcases (himports n).mp hn with hn | ⟨hn, hne⟩
    · exact htogether n hn
    · exact (h.together n hn).imp (hothers n hn hne) id
  · obtain ⟨hlist, n, hn, rfl, hany⟩ := h.pending l (hsub hl)
    refine ⟨hbody _ hl hlist, ?_⟩
    by_cases hni : n = i
    · subst hni
      obtain ⟨m, hm, hlabel, hm'⟩ := hnamed hl
      exact ⟨m, (himports m).mpr (.inl hm), hlabel, hm'⟩
    · exact ⟨n, (himports n).mpr (.inr ⟨hn, hni⟩), rfl, hany⟩

/-- **An import that binds nothing any more is taken out**, another of its module being left. -/
theorem erase (h : Tidying start s₁ pending d s) (hi : i ∈ d.root.imports) (hempty : i.specifiers = [])
    (hbound : ∀ j ∈ start.root.imports, j.label = i.label → j.specifiers ≠ []) (hpending : i.label ∉ pending)
    (hother : ∃ j ∈ d.root.imports, j ≠ i ∧ sourceOf j = sourceOf i) :
    Tidying start s₁ pending (d.editList d.root.label "body" (·.eraseP (·.label == i.label))) s ∧
      (∀ n ∈ d.root.imports, n ≠ i →
        n ∈ (d.editList d.root.label "body" (·.eraseP (·.label == i.label))).root.imports) ∧
      ∀ l ∈ d.body.map Tree.label, l ≠ i.label →
        l ∈ (d.editList d.root.label "body" (·.eraseP (·.label == i.label))).body.map Tree.label := by
  have hd := h.tidies.order
  obtain ⟨hin, hk⟩ := hd.mem_imports.mp hi
  have hsub : (d.body.eraseP (·.label == i.label)).Sublist d.body := List.eraseP_sublist
  have hstays {c : Tree} (hc : c ∈ d.body) (hne : c.label ≠ i.label) : c ∈ d.body.eraseP (·.label == i.label) :=
    (List.mem_eraseP_of_neg (by simpa using hne)).mpr hc
  have hlost (c : Tree) (hc : c ∈ d.body) (hnot : c ∉ d.body.eraseP (·.label == i.label)) :
      c.kind = "ImportDeclaration" := by
    by_contra hne
    refine hnot (hstays hc fun hl => hne ?_)
    rw [hd.eq_of_label hin (hd.mem_records (hd.mem_of_body hc)) hl, hk]
  obtain ⟨htidies, hold⟩ := hd.tidies_body_sublist hsub hlost
  have hleft {n : Tree} (hn : n ∈ d.root.imports) (hne : n ≠ i) :
      n ∈ (d.set d.root.label "body" (.list (d.body.eraseP (·.label == i.label)))).root.imports := by
    refine hd.mem_imports_body_sublist hsub hlost hn fun hb => hstays hb fun hl => hne ?_
    exact hd.eq_of_label hin (hd.mem_records (hd.mem_of_body hb)) hl
  have hbody := hd.body_editList (·.eraseP (·.label == i.label))
  have heq : d.editList d.root.label "body" (·.eraseP (·.label == i.label)) =
      d.set d.root.label "body" (.list (d.body.eraseP (·.label == i.label))) :=
    hd.editList_eq (Tree.mem_subtree_self _) _
  rw [heq] at hbody ⊢
  -- nothing is bound that was not bound before, as the document has only lost an import
  have hknown {source x : Tree}
      (hb : Binds (d.set d.root.label "body" (.list (d.body.eraseP (·.label == i.label)))) source x) :
      Binds d source x := by
    obtain ⟨n, hn, hs⟩ := hb
    exact ⟨n, hold n hn, hs⟩
  have hlist (l : Nat) (hl : l ∈ d.body.map Tree.label) (hne : l ≠ i.label) :
      l ∈ (d.set d.root.label "body" (.list (d.body.eraseP (·.label == i.label)))).body.map Tree.label := by
    obtain ⟨t, ht, rfl⟩ := List.mem_map.mp hl
    rw [hbody]
    exact List.mem_map_of_mem (hstays ht hne)
  refine ⟨⟨h.tidies.trans htidies, h.fades, fun {source x} hb => ?_, fun hb => h.known (hknown hb), fun j hj => ?_,
    fun j hj => ?_, fun n hn => h.text n (hold n hn), fun n hn => h.defaults n (hold n hn),
    fun n hn => h.together n (hold n hn), fun l hl => ?_⟩, fun n hn hne => hleft hn hne, hlist⟩
  -- the import that goes binds nothing, so whatever binds a name is another one and stays
  · rcases h.kept hb with ⟨n, hn, hs, hx⟩ | hu
    · refine .inl ⟨n, hleft hn ?_, hs, hx⟩
      rintro rfl
      rw [hempty] at hx
      cases hx
    · exact .inr hu
  · rcases h.imports j hj with ⟨n, hn, hlabel, hsubset, hrest⟩ | ⟨hne, hgone⟩
    · by_cases hni : n = i
      · subst hni
        rw [hempty] at hrest
        refine .inr ⟨hbound j hj hlabel.symm, fun x hx source hb => ?_⟩
        rcases hrest with hall | ⟨w, hw, -⟩
        · exact (hall x hx).elim nofun fun hnot => hnot source (hknown hb)
        · cases hw
      · refine .inl ⟨n, hleft hn hni, hlabel, hsubset, hrest.imp (fun hall x hx => ?_) id⟩
        exact (hall x hx).imp id fun hnot source hb => hnot source (hknown hb)
    · exact .inr ⟨hne, fun x hx source hb => hgone x hx source (hknown hb)⟩
  · obtain ⟨n, hn, hs⟩ := h.sources j hj
    by_cases hni : n = i
    · subst hni
      obtain ⟨m, hm, hne, hms⟩ := hother
      exact ⟨m, hleft hm hne, hms.trans hs⟩
    · exact ⟨n, hleft hn hni, hs⟩
  · obtain ⟨hin, n, hn, rfl, hany⟩ := h.pending l hl
    have hne : n.label ≠ i.label := fun he => hpending (he ▸ hl)
    exact ⟨hlist _ hin hne, n, hleft hn fun he => hne (congrArg _ he), rfl, hany⟩

/-- An import that binds something bound something. -/
theorem specifiers_ne (h : Tidying start s₁ pending d s) (hi : i ∈ d.root.imports) (hne : i.specifiers ≠ [])
    {j : Tree} (hj : j ∈ start.root.imports) (hl : j.label = i.label) : j.specifiers ≠ [] := by
  rcases h.imports j hj with ⟨n, hn, hlabel, hsub, -⟩ | ⟨hj, -⟩
  · have hd := h.tidies.order
    obtain rfl : n = i := hd.eq_of_label (hd.mem_imports.mp hi).1 (hd.mem_records (hd.mem_imports.mp hn).1)
      (hlabel.trans hl)
    exact fun he => hne (List.eq_nil_of_subset_nil (he ▸ hsub))
  · exact hj

/-- What is bound can still stand together when some of it is dropped. -/
theorem bindsTogether_of_sublist {specifiers : List Tree} (h : Tree.bindsTogether specifiers = true)
    (hsub : kept.Sublist specifiers) : Tree.bindsTogether kept = true := by
  have hany (kind : String) (hk : Tree.bindsKind kept kind = true) : Tree.bindsKind specifiers kind = true := by
    obtain ⟨x, hx, hk⟩ := List.any_eq_true.mp hk
    exact List.any_eq_true.mpr ⟨x, hsub.subset hx, hk⟩
  simp only [Tree.bindsTogether, Bool.and_eq_true, decide_eq_true_eq, Bool.not_eq_true'] at h ⊢
  refine ⟨(hsub.countP_le).trans h.1, Bool.eq_false_of_not_eq_true fun hb => ?_⟩
  rw [Bool.and_eq_true] at hb
  have := h.2
  rw [hany _ hb.1, hany _ hb.2] at this
  cases this

/-- What is dropped of an import is dropped from the program. -/
theorem drop (h : Tidying start s₁ pending d s) (hi : i ∈ d.root.imports) (hdrops : Drops s s' i.specifiers [] kept)
    (hsub : pending' ⊆ pending) (hothers : ∀ l ∈ pending, l ≠ i.label → l ∈ pending')
    (htogether : i.label ∈ pending' ∨ Tree.bindsTogether kept = true)
    (hnamed : i.label ∈ pending' → kept.any isNamedSpecifier = true) :
    i.set "specifiers" (.list kept) ∈ (d.set i.label "specifiers" (.list kept)).root.imports ∧
      (∀ n ∈ d.root.imports, n ≠ i → n ∈ (d.set i.label "specifiers" (.list kept)).root.imports) ∧
      (d.set i.label "specifiers" (.list kept)).body.map Tree.label = d.body.map Tree.label ∧
      Tidying start s₁ pending' (d.set i.label "specifiers" (.list kept)) s' := by
  have hd := h.tidies.order
  obtain ⟨hin, hk⟩ := hd.mem_imports.mp hi
  have hkept := hdrops.kept_sublist
  obtain ⟨ha, htidies⟩ := hd.tidies_specifiers hi hkept
  have himports (n : Tree) := hd.mem_imports_set_self (n := n) hi ha
  have hget : (i.set "specifiers" (.list kept)).specifiers = kept := by
    rw [Tree.specifiers, Tree.get_set_self (hd.isObj hin), Tree.items_list]
  have hroot := hd.label_ne_root hin (by rw [hk]; decide)
  have hbody : (d.set i.label "specifiers" (.list kept)).body.map Tree.label = d.body.map Tree.label :=
    Document.InOrder.body_set hroot
  have hlabel : (i.set "specifiers" (.list kept)).label = i.label := Tree.label_set i _ _
  refine ⟨(himports _).mpr (.inl rfl), fun n hn hne => (himports n).mpr (.inr ⟨hn, hne⟩), hbody, ?_⟩
  refine h.replace [i.set "specifiers" (.list kept)] hi htidies hdrops ?_ ?_ ?_ ?_ hsub ?_ ?_ ?_ ?_ ?_
  · simpa using himports
  · rw [List.forall_mem_singleton, sourceOf, Tree.get_set_of_ne (hd.isObj hin) (by decide)]
    rfl
  · simp [hget]
  · exact ⟨_, List.mem_singleton_self _, hlabel, .inl fun x hx => by rwa [hget]⟩
  · rw [hbody]
    exact fun _ _ => id
  · rw [List.forall_mem_singleton, hget]
    exact hkept.countP_le.trans (h.defaults i hi)
  · rwa [List.forall_mem_singleton, hget, hlabel]
  · exact fun n hn hne hp => hothers _ hp fun hl => hne (hd.eq_of_label hin (hd.mem_records (hd.mem_imports.mp hn).1) hl)
  · exact fun hp => ⟨_, List.mem_singleton_self _, hlabel, by rw [hget]; exact hnamed hp⟩

/-- **The names of an import go to an import of their own.** -/
theorem split (h : Tidying start s₁ pending d s) (hi : i ∈ d.root.imports) (hdrops : Drops s s' i.specifiers [] kept)
    (hspace : kept.any (·.isKind "ImportNamespaceSpecifier") = true) (hbody : i.label ∈ d.body.map Tree.label)
    (hsub : pending' ⊆ pending) (hothers : ∀ l ∈ pending, l ≠ i.label → l ∈ pending') (hnot : i.label ∉ pending') :
    ∃ N d', (d.set i.label "specifiers" (.list (kept.filter (!isNamedSpecifier ·)))).adopt
        (Tree.importDeclaration (kept.filter isNamedSpecifier) ((i.get "source").relabel 0)) = (N, d') ∧
      d'.root.label = d.root.label ∧
      Tidying start s₁ pending' (d'.editList d.root.label "body" fun body =>
        body.flatMap fun t => if t.label == i.label then [t, N] else [t]) s' := by
  have hd := h.tidies.order
  obtain ⟨hin, hk⟩ := hd.mem_imports.mp hi
  have hkept := hdrops.kept_sublist
  have hfilter (p : Tree → Bool) : (kept.filter p).Sublist i.specifiers := List.filter_sublist.trans hkept
  obtain ⟨ha, htidies⟩ := hd.tidies_specifiers hi (hfilter (!isNamedSpecifier ·))
  have himports (n : Tree) := hd.mem_imports_set_self (n := n) hi ha
  -- the two imports share out what was kept, so that no label comes to stand in both of them
  have hcount (l : Nat) : ((kept.filter isNamedSpecifier).flatMap Tree.labels).count l +
      ((kept.filter (!isNamedSpecifier ·)).flatMap Tree.labels).count l ≤ (i.specifiers.flatMap Tree.labels).count l := by
    have hperm := (List.filter_append_perm isNamedSpecifier kept).flatMap_right Tree.labels
    rw [← List.count_append, ← List.flatMap_append, hperm.count_eq]
    exact (hkept.flatMap _).count_le l
  obtain ⟨N, hadopt, hN, hNk, hNs, hNsource⟩ :=
    (Document.Splits.mk hd hi (hfilter isNamedSpecifier).subset (hfilter (!isNamedSpecifier ·)).subset hcount ha).new_import
      rfl
  have hset : (i.set "specifiers" (.list (kept.filter (!isNamedSpecifier ·)))).specifiers =
      kept.filter (!isNamedSpecifier ·) := by
    rw [Tree.specifiers, Tree.get_set_self (hd.isObj hin), Tree.items_list]
  have hlabel : (i.set "specifiers" (.list (kept.filter (!isNamedSpecifier ·)))).label = i.label := Tree.label_set i _ _
  have hroot := hd.label_ne_root hin (by rw [hk]; decide)
  have hD := (hd.set ha).mono (Nat.le_add_right d.next 2)
  generalize hdoc : d.set i.label "specifiers" (.list (kept.filter (!isNamedSpecifier ·))) = d₁ at *
  have hlist : d₁.body.map Tree.label = d.body.map Tree.label := hdoc ▸ Document.InOrder.body_set hroot
  -- behind the old import, which has its new names, the new one is the only statement that is added
  have hperm := Tree.insertAfter_perm hD.nodup_body (hlist ▸ hbody) N
  obtain ⟨hnew, himports'⟩ := hD.tidies_body_insert hN hNk hperm
  refine ⟨N, _, hadopt, htidies.label, ?_⟩
  rw [← htidies.label]
  have hbody' := hD.body_editList fun body => body.flatMap fun t => if t.label == i.label then [t, N] else [t]
  rw [hD.editList_eq (Tree.mem_subtree_self _)] at hbody' ⊢
  have hothersNamed (x : Tree) (hx : x ∈ kept.filter (!isNamedSpecifier ·)) : x.isKind "ImportSpecifier" = false := by
    simpa [isNamedSpecifier] using (List.mem_filter.mp hx).2
  have hnamed (x : Tree) (hx : x ∈ kept.filter isNamedSpecifier) : x.kind = "ImportSpecifier" :=
    (Tree.kind_of_isKind (List.mem_filter.mp hx).2).2
  have hnone (kind : String) (hne : kind ≠ "ImportSpecifier") :
      (kept.filter isNamedSpecifier).countP (·.isKind kind) = 0 := by
    refine List.countP_eq_zero.mpr fun x hx hxk => hne ?_
    rw [← hnamed x hx, (Tree.kind_of_isKind hxk).2]
  have hdefaults : (kept.filter (!isNamedSpecifier ·)).countP (·.isKind "ImportDefaultSpecifier") ≤ 1 :=
    (hfilter _).countP_le.trans (h.defaults i hi)
  -- two imports stand for one: what is asked of the import is asked of each of them
  refine h.replace [_, N] hi ((⟨hD, htidies.label, htidies.uses, htidies.inside⟩ : d.Tidies _).trans hnew)
    hdrops (fun n => ?_) ?_ (fun x => ?_) ⟨_, List.mem_cons_self, hlabel, .inr ?_⟩ hsub (fun l _ hl => ?_) ?_ ?_
    (fun n hn hne hp => ?_) fun hp => absurd hp hnot
  · refine (himports' n).trans ?_
    show n ∈ d₁.root.imports ∨ n = N ↔ _
    rw [himports n, List.mem_cons, List.mem_singleton]
    tauto
  · refine List.forall_mem_cons.mpr ⟨?_, List.forall_mem_singleton.mpr hNsource⟩
    rw [sourceOf, Tree.get_set_of_ne (hd.isObj hin) (by decide)]
    rfl
  · simp only [List.exists_mem_cons_iff, List.not_mem_nil, false_and, exists_false, or_false, hset, hNs]
    rw [List.mem_filter, List.mem_filter, ← and_or_left]
    cases isNamedSpecifier x <;> simp
  · obtain ⟨w, hw, hwk⟩ := List.any_eq_true.mp hspace
    refine ⟨w, ?_, hdrops.used w hw⟩
    have hne : isNamedSpecifier w = false := Bool.eq_false_of_not_eq_true fun hn =>
      absurd ((Tree.kind_of_isKind hn).2.symm.trans (Tree.kind_of_isKind hwk).2) (by decide)
    rw [hset, List.mem_filter, hne]
    exact ⟨hw, rfl⟩
  · rw [hbody', (hperm.map _).mem_iff, List.map_cons, List.mem_cons]
    exact .inr (hlist ▸ hl)
  · refine List.forall_mem_cons.mpr ⟨by rwa [hset], List.forall_mem_singleton.mpr ?_⟩
    rw [hNs, hnone _ (by decide)]
    exact Nat.zero_le 1
  · have hspaces : Tree.bindsKind (kept.filter isNamedSpecifier) "ImportNamespaceSpecifier" = false := by
      rw [Tree.bindsKind, List.any_eq_false]
      exact List.countP_eq_zero.mp (hnone _ (by decide))
    have hnames : Tree.bindsKind (kept.filter (!isNamedSpecifier ·)) "ImportSpecifier" = false :=
      List.any_eq_false.mpr fun x hx => by simp [hothersNamed x hx]
    refine List.forall_mem_cons.mpr ⟨.inr ?_, List.forall_mem_singleton.mpr (.inr ?_)⟩
    · simp [hset, Tree.bindsTogether, hdefaults, hnames]
    · simp [hNs, Tree.bindsTogether, hnone "ImportDefaultSpecifier" (by decide), hspaces]
  · exact hothers _ hp fun hl => hne (hd.eq_of_label hin (hd.mem_records (hd.mem_imports.mp hn).1) hl)

/-- **What an import takes by name stays**, so that one that is pending keeps something. -/
theorem kept_ne_nil (h : Tidying start s₁ pending d s) (hi : i ∈ d.root.imports) (hp : i.label ∈ pending)
    (hdrops : Drops s s' i.specifiers [] kept) : kept ≠ [] := by
  obtain ⟨-, n, hn, hl, hany⟩ := h.pending _ hp
  have hd := h.tidies.order
  obtain rfl := hd.eq_of_label (hd.mem_imports.mp hi).1 (hd.mem_records (hd.mem_imports.mp hn).1) hl
  obtain ⟨x, hx, hname⟩ := List.any_eq_true.mp hany
  have hused : x ∈ kept := by
    by_contra hnot
    have hwhole := (hdrops.dropped x hx hnot nofun).1
    have hkind := (Tree.kind_of_isKind hname).2
    rw [isWhole, Bool.or_eq_true] at hwhole
    rcases hwhole with hwhole | hwhole <;> simp [(Tree.kind_of_isKind hwhole).2] at hkind
  exact List.ne_nil_of_mem hused

end Tidying

section Steps

variable {start : Document} {s₁ s : ScopeTree} {c : Context} {origin : Origin} {o : Tree}

theorem mem_imports_of_body {d : Document} (hd : d.InOrder) {label : Nat} (hl : label ∈ d.body.map Tree.label)
    (hk : (d.get label).isKind "ImportDeclaration" = true) : ∃ i ∈ d.root.imports, i.label = label ∧ d.get label = i := by
  obtain ⟨i, hi, rfl⟩ := List.mem_map.mp hl
  have hin := hd.mem_of_body hi
  rw [hd.get_label hin] at hk ⊢
  exact ⟨i, hd.mem_imports.mpr ⟨hin, (Tree.kind_of_isKind hk).2⟩, rfl, rfl⟩

theorem ends_tidyOther {pending : List Nat} (h : Tidying start s₁ pending c.doc s) (hview : c.view = some s)
    (howner : origin.owner = start.root.label) (hkey : origin.key = "body")
    (ho : o ∈ c.doc.root.imports) (hol : o.label = origin.statement) {label : Nat}
    (hl : label ∈ c.doc.body.map Tree.label) :
    Ends (tidyOther origin (sourceOf o) label) c fun _ c' => ∃ s', c'.view = some s' ∧
      Tidying start s₁ pending c'.doc s' ∧ o ∈ c'.doc.root.imports ∧
      ∀ l ∈ c.doc.body.map Tree.label, l ≠ label → l ∈ c'.doc.body.map Tree.label := by
  have hd := h.tidies.order
  refine (ends_node (Q := fun a c' => c = c' ∧ c.doc.get label = a) ⟨rfl, rfl⟩).bind ?_
  rintro _ _ ⟨rfl, rfl⟩
  dsimp only
  split
  · exact ends_pure ⟨s, hview, h, ho, fun _ hm _ => hm⟩
  split
  · exact ends_pure ⟨s, hview, h, ho, fun _ hm _ => hm⟩
  rename_i hother hsame
  simp only [Bool.or_eq_true, not_or, Bool.not_eq_true', Bool.not_eq_false, beq_iff_eq] at hother hsame
  obtain ⟨⟨hne, hk⟩, hbinds⟩ := hother
  -- what is left is another import of the same module, which takes nothing by name and so is not pending
  obtain ⟨i, hi, rfl, hget⟩ := mem_imports_of_body hd hl (by simpa using hk)
  rw [hget] at hbinds hsame ⊢
  obtain ⟨hsource, hnamed⟩ := hsame
  have hin := (hd.mem_imports.mp hi).1
  have heq {n : Tree} (hn : n ∈ c.doc.root.imports) (hl : n.label = i.label) : n = i :=
    hd.eq_of_label hin (hd.mem_records (hd.mem_imports.mp hn).1) hl
  have hnot : i.label ∉ pending := fun hp => by
    obtain ⟨-, n, hn, hl, hany⟩ := h.pending _ hp
    rw [heq hn hl] at hany
    exact hnamed hany
  have hoi : o ≠ i := fun he => hne (by rw [← he, hol])
  have hnonempty : i.specifiers ≠ [] := fun he => by
    rw [Tree.specifiers] at he
    exact hbinds (by rw [he]; rfl)
  have hsources : sourceOf o = sourceOf i := by
    obtain ⟨m, hm⟩ := h.text i hi
    obtain ⟨m', hm'⟩ := h.text o ho
    rw [hm, hm'] at hsource ⊢
    rw [beq_iff_eq.mp hsource]
  refine (ends_dropUnused hview _).bind ?_
  rintro kept _ ⟨s', rfl, hdrops⟩
  refine (ends_updateDoc (Q := fun _ c' => c' = _) rfl).bind ?_
  rintro _ _ rfl
  obtain ⟨hself, hstays, hbody, h'⟩ := h.drop hi hdrops (List.Subset.refl _) (fun _ hl _ => hl)
    (.inr (Tidying.bindsTogether_of_sublist ((h.together i hi).resolve_left hnot) hdrops.kept_sublist))
    fun hp => absurd hp hnot
  -- if nothing of it is used it goes, and the import of the origin stands for its module
  have ho' := hstays o ho hoi
  dsimp only
  split
  · rename_i hempty
    obtain rfl := List.isEmpty_iff.mp hempty
    refine ends_updateDoc ⟨s', rfl, ?_⟩
    rw [howner, hkey, ← h'.tidies.label]
    have hlabel : (i.set "specifiers" (.list [])).label = i.label := Tree.label_set i _ _
    have hoi' : o ≠ i.set "specifiers" (.list []) := fun he => hne (by rw [← hol, he, hlabel])
    have hsource' : sourceOf o = sourceOf (i.set "specifiers" (.list [])) := by
      rw [hsources, sourceOf, sourceOf, Tree.get_set_of_ne (hd.isObj hin) (by decide)]
    obtain ⟨herase, hleft, hlist⟩ := h'.erase hself (by
      rw [Tree.specifiers, Tree.get_set_self (hd.isObj hin), Tree.items_list])
      (fun j hj hl => h.specifiers_ne hi hnonempty hj (hl.trans hlabel)) (by rwa [hlabel]) ⟨o, ho', hoi', hsource'⟩
    rw [hlabel] at herase hleft hlist
    exact ⟨herase, hleft o ho' hoi', fun l hm hl => hlist l (hbody ▸ hm) hl⟩
  · refine ends_pure ⟨s', rfl, h', ho', fun l hm _ => ?_⟩
    rwa [hbody]

/-- **An import is tidied**, and other imports of its module with it. -/
theorem ends_tidyImport {pending : List Nat} (h : Tidying start s₁ (origin.statement :: pending) c.doc s)
    (hview : c.view = some s) (howner : origin.owner = start.root.label) (hkey : origin.key = "body")
    (hnot : origin.statement ∉ pending) :
    Ends (tidyImport origin) c fun _ c' => ∃ s', c'.view = some s' ∧ Tidying start s₁ pending c'.doc s' := by
  have hd := h.tidies.order
  obtain ⟨hbody, o, ho, hol, -⟩ := h.pending _ List.mem_cons_self
  have hget {d : Document} (hd : d.InOrder) (ho : o ∈ d.root.imports) : d.get origin.statement = o := by
    rw [← hol, hd.get_label (hd.mem_imports.mp ho).1]
  refine (ends_node (Q := fun a c' => c = c' ∧ c.doc.get origin.statement = a) ⟨rfl, rfl⟩).bind ?_
  rintro _ _ ⟨rfl, rfl⟩
  rw [hget hd ho]
  refine (ends_doc (Q := fun a c' => c = c' ∧ c.doc = a) ⟨rfl, rfl⟩).bind ?_
  rintro _ _ ⟨rfl, rfl⟩
  have hlist : c.doc.listAt origin.owner origin.key = c.doc.body := by
    rw [howner, hkey, ← h.tidies.label, hd.listAt_root]
  rw [hlist]
  -- what is left to look at is still there: only what is looked at goes
  refine (ends_forIn (I := fun rest c' => ∃ s', c'.view = some s' ∧
    Tidying start s₁ (origin.statement :: pending) c'.doc s' ∧ o ∈ c'.doc.root.imports ∧
    (rest.map Tree.label).Nodup ∧ rest.map Tree.label ⊆ c'.doc.body.map Tree.label)
    ?_ ⟨s, hview, h, ho, hd.nodup_body, List.Subset.refl _⟩).bind ?_
  · rintro x rest c ⟨s, hview, h, ho, hnodup, hsub⟩
    rw [List.map_cons, List.nodup_cons] at hnodup
    rw [List.map_cons, List.cons_subset] at hsub
    refine (ends_tidyOther h hview howner hkey ho hol hsub.1).mono ?_
    rintro - c' ⟨s', hview', h', ho', hleft⟩
    exact ⟨s', hview', h', ho', hnodup.2, fun l hl => hleft l (hsub.2 hl) fun he => hnodup.1 (he ▸ hl)⟩
  rintro - c ⟨s, hview, h, ho, -, -⟩
  have hd := h.tidies.order
  refine (ends_node (Q := fun a c' => c = c' ∧ c.doc.get origin.statement = a) ⟨rfl, rfl⟩).bind ?_
  rintro _ _ ⟨rfl, rfl⟩
  rw [hget hd ho]
  refine (ends_dropUnused hview _).bind ?_
  rintro kept _ ⟨s', rfl, hdrops⟩
  have hothers : ∀ l ∈ origin.statement :: pending, l ≠ o.label → l ∈ pending :=
    fun l hl hne => (List.mem_cons.mp hl).resolve_left fun he => hne (he.trans hol.symm)
  dsimp only
  split
  · rename_i hsplit
    rw [Bool.and_eq_true] at hsplit
    refine (ends_updateDoc (Q := fun _ c' => c' = _) rfl).bind ?_
    rintro _ _ rfl
    obtain ⟨hbody, -⟩ := h.pending _ List.mem_cons_self
    obtain ⟨N, d', hadopt, hlabel, h'⟩ := h.split ho hdrops hsplit.1 (hol ▸ hbody) (List.subset_cons_self _ _) hothers
      (hol ▸ hnot)
    refine (ends_adopt (Q := fun a c' => N = a ∧ c'.doc = d' ∧ c'.view = some s') ?_).bind ?_
    · exact ⟨(congrArg Prod.fst hadopt).symm, congrArg Prod.snd hadopt, rfl⟩
    rintro _ c' ⟨rfl, rfl, hview'⟩
    refine ends_updateDoc ⟨s', hview', ?_⟩
    rw [howner, hkey, ← h.tidies.label]
    exact h'
  · rename_i hsplit
    refine (ends_updateDoc (Q := fun _ c' => c' = _) rfl).bind ?_
    rintro _ _ rfl
    -- a name is never dropped, so that something is left of the import
    rw [if_neg (by rw [List.isEmpty_iff]; exact h.kept_ne_nil ho (hol ▸ List.mem_cons_self) hdrops)]
    refine ends_pure ⟨s', rfl, ?_⟩
    refine (h.drop ho hdrops (List.subset_cons_self _ _) hothers (.inr ?_) fun hp => absurd hp (hol ▸ hnot)).2.2.2
    have hdefaults := hdrops.kept_sublist.countP_le.trans (h.defaults o ho)
    rw [Tree.bindsTogether, Bool.and_eq_true, Bool.not_eq_true', decide_eq_true_eq]
    refine ⟨hdefaults, Bool.eq_false_of_not_eq_true fun hboth => hsplit ?_⟩
    rw [Bool.and_eq_true] at hboth
    obtain ⟨x, hx, hxk⟩ := List.any_eq_true.mp hboth.2
    refine Bool.and_eq_true_iff.mpr ⟨hboth.1, ?_⟩
    rw [Bool.not_eq_true', List.isEmpty_eq_false_iff_exists_mem]
    exact ⟨x, List.mem_filter.mpr ⟨hx, hxk⟩⟩

/-- **Imports are tidied one after the other.** -/
theorem ends_tidyImports {imports : List Origin} (h : Tidying start s₁ (imports.map Origin.statement) c.doc s)
    (hview : c.view = some s) (howner : ∀ o ∈ imports, o.owner = start.root.label ∧ o.key = "body")
    (hnodup : (imports.map Origin.statement).Nodup) :
    Ends (forIn imports PUnit.unit fun o _ => do tidyImport o; pure (ForInStep.yield PUnit.unit)) c fun _ c' =>
      ∃ s', Tidying start s₁ [] c'.doc s' := by
  refine (ends_forIn (I := fun rest c' => (∃ s', c'.view = some s' ∧
    Tidying start s₁ (rest.map Origin.statement) c'.doc s') ∧ (∀ o ∈ rest, o.owner = start.root.label ∧ o.key = "body") ∧
    (rest.map Origin.statement).Nodup) ?_ ⟨⟨s, hview, h⟩, howner, hnodup⟩).mono ?_
  · rintro origin rest c ⟨⟨s, hview, h⟩, howner, hnodup⟩
    obtain ⟨hhome, howner⟩ := List.forall_mem_cons.mp howner
    obtain ⟨hnot, hnodup⟩ := List.nodup_cons.mp hnodup
    exact (ends_tidyImport h hview hhome.1 hhome.2 hnot).mono fun _ c' h' => ⟨h', howner, hnodup⟩
  · rintro - c' ⟨⟨s', -, h'⟩, -⟩
    exact ⟨s', h'⟩

end Steps

end Rules.DirectCall

end Deminify
