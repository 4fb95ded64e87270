import Deminify.Bundle.Registry
import Deminify.Proofs.Document.Spelling
import Deminify.Proofs.Scope.Growth

/-!
# Factories that share a document

The program of a factory is made from the factory alone: it is put into a program of its own, its
parameters are renamed there, and its body is printed (`Deminify.Bundle.factoryCode`). The factories of a
bundle could as well be renamed where they stand, one after the other, each on top of what the renaming
of the others has left (`Deminify.Bundle.codesInPlace`).

**Both ways print the same programs** (`Deminify.Bundle.codesInPlace_eq`), whichever of the factories are
renamed and in whichever order. What carries the proof is that a renaming depends on the part of the
document that it is made in, and on nothing else (`Deminify.Bundle.exists_renameParameter`): the names
that are renamed are names of the factory, so a document that shows the factory goes on to show it
renamed, and shows everything that lies apart from it as before.
-/

namespace Deminify

namespace Tree

/-- **A value with labels of its own**, all of which have been given out before `next`. -/
structure Settled (next : Nat) (t : Tree) : Prop where
  nodup : t.labels.Nodup
  given : ∀ l ∈ t.labels, 0 < l ∧ l < next

/-- A program that consists of one expression. -/
def alone (next : Nat) (t : Tree) : Tree :=
  .obj next [("type", .str "Program"),
    ("body", .list [.obj (next + 1) [("type", .str "ExpressionStatement"), ("expression", t)]]),
    ("sourceType", .str "script")]

theorem records_alone (next : Nat) (t : Tree) : (alone next t).records =
    alone next t :: .obj (next + 1) [("type", .str "ExpressionStatement"), ("expression", t)] ::
      t.records := by
  simp [alone, records, recordsFields, recordsItems]

section Alone

variable {next : Nat} {t : Tree}

theorem ofTree_alone (h : t.Settled next) : Document.ofTree (Tree.program [expressionStatement t]) next =
    ⟨alone next t, [], next + 2⟩ := by
  have ht : t.number (next + 1 + 1) = (t, next + 1 + 1) :=
    number_of_labelled (fun h0 => absurd (h.given 0 h0).1 (Nat.lt_irrefl 0)) _
  simp [Document.ofTree, Tree.program, expressionStatement, node, number, numberFields, numberItems, ht,
    alone]

theorem nodup_alone (h : t.Settled next) : (alone next t).labels.Nodup := by
  rw [labels_eq_map_records, records_alone, List.map_cons, List.map_cons, ← labels_eq_map_records]
  have hfresh {l : Nat} (hl : next ≤ l) : l ∉ t.labels := fun hm => by
    have := (h.given l hm).2
    omega
  refine List.nodup_cons.mpr ⟨?_, List.nodup_cons.mpr ⟨hfresh (Nat.le_succ _), h.nodup⟩⟩
  rw [List.mem_cons, not_or]
  exact ⟨by simp [alone], hfresh (Nat.le_refl _)⟩

theorem shows_alone (h : t.Settled next) : Document.Shows ⟨alone next t, [], next + 2⟩ t := by
  have hrecords : (⟨alone next t, [], next + 2⟩ : Document).records = (alone next t).records :=
    List.append_nil _
  refine Document.shows_of_sublist ?_ ?_
  · rw [hrecords, ← labels_eq_map_records]
    exact nodup_alone h
  · rw [hrecords, records_alone]
    exact (List.sublist_cons_self _ _).trans (List.sublist_cons_self _ _)

theorem is_alone (next : Nat) (h : t.Is isExpressionKind) : (alone next t).Is (· == "Program") := by
  have hstatement : (obj (next + 1) [("type", .str "ExpressionStatement"), ("expression", t)]).Is
      isStatementKind :=
    is_of_fits rfl rfl ⟨.of_nodup (by simp), by simpa [schema, schemaTable, isKnownField, holdsChildren,
      childlessFields] using h, (absurd · (by decide)), (absurd · (by decide))⟩
  refine is_of_fits rfl rfl ⟨.of_nodup (by simp), ?_, (absurd · (by decide)), (absurd · (by decide))⟩
  simpa [schema, schemaTable, isKnownField, holdsChildren, childlessFields] using hstatement

end Alone

end Tree

open ScopeTree

namespace Bundle

variable {origin : Origin} {names : List String} {factory : Tree}

/-! ### The view of a part -/

/-- **Whether the bindings of a view are those of a part**: what the index leads to has names in the
part. -/
def Covers (t : Tree) (s : ScopeTree) : Prop :=
  ∀ {l b}, s.bindingFor l = some b → ∀ m ∈ (s.binding b).identifiers, t.IsNameAt m

/-- The view of a part on its own. -/
theorem exists_view (hf : factory.Settled origin.next) (hk : factory.Is isExpressionKind) :
    ∃ s, build (Tree.alone origin.next factory) = .ok s ∧ Covers factory s := by
  let program := Tree.alone origin.next factory
  have hp := Tree.is_alone origin.next hk
  have hnodup := Tree.nodup_alone hf
  obtain ⟨notes, hwalk, ht⟩ := exists_tells hp (hnodup.sublist (Tree.labels_subtree hp.2.isObj))
  refine ⟨ofNotes program.label notes, by rw [build, hwalk]; rfl, fun {l b} hb m hm => ?_⟩
  have hnamed := ht.named_of_bindingFor hb m hm
  have hname {r : Tree} (hr : r ∈ program.records) (hrm : r.label = m) :
      ∃ x, r.get? "name" = some (.str x) := exists_name_of_named hp hnodup (hrm ▸ hnamed) hr
  have hrecords : program.records = _ := Tree.records_alone origin.next factory
  refine ⟨?_, fun r hr hrm => hname (hrecords ▸ .tail _ (.tail _ hr)) hrm⟩
  -- the name is a node of the program, and the nodes around the part have no name
  obtain ⟨e, ⟨q, hq, he⟩, hl⟩ := hnamed
  obtain ⟨hql, -⟩ := Site.name_of_mem_events he hl
  have hmem : q.node ∈ program.records := Tree.subtree_subset_records hp.2.isObj hq.mem_subtree
  obtain ⟨x, hx⟩ := hname hmem hql
  rw [hrecords, List.mem_cons, List.mem_cons] at hmem
  rcases hmem with heq | heq | hmem
  · rw [heq] at hx
    simp [Tree.alone] at hx
  · rw [heq] at hx
    simp at hx
  · rw [Tree.labels_eq_map_records, ← hql]
    exact List.mem_map_of_mem hmem

/-! ### Renaming the parameters -/

theorem identifiers_renameBinding (s : ScopeTree) (b : Nat) (new : String) (b' : Nat) :
    ((s.renameBinding b new).1.binding b').identifiers = (s.binding b').identifiers := by
  rw [binding, show (s.renameBinding b new).1.bindings =
    s.bindings.modify b fun binding => { binding with name := new } from rfl, Array.getElem?_modify, binding]
  split
  · cases s.bindings[b']? <;> rfl
  · rfl

/-- **What renaming a parameter does** in whatever document shows the part: it renames some names of the
part, and the view and the part alone decide which. -/
theorem exists_renameParameter {s : ScopeTree} {t : Tree} (hs : Covers t s) (scope : Nat)
    {parameter : Tree} (hparameter : parameter.isIdentifier = true → parameter.label ∈ t.labels)
    (wanted : String) : ∃ s' labels new, (∀ l ∈ labels, t.IsNameAt l) ∧
      Covers (t.respell (Tree.renamed labels new)) s' ∧
      ∀ d : Document, d.Shows t → renameParameter scope (s, d) parameter wanted = (s', d.rename labels new) := by
  -- where nothing is renamed, no labels are
  have hnothing (h : ∀ d : Document, d.Shows t →
      renameParameter scope (s, d) parameter wanted = (s, d)) :
      ∃ s' labels new, (∀ l ∈ labels, t.IsNameAt l) ∧ Covers (t.respell (Tree.renamed labels new)) s' ∧
        ∀ d : Document, d.Shows t →
          renameParameter scope (s, d) parameter wanted = (s', d.rename labels new) := by
    refine ⟨s, [], wanted, nofun, ?_, h⟩
    rwa [Tree.respell_renamed_of_apart (fun _ _ => List.not_mem_nil)]
  by_cases hname : parameter.isIdentifier = true
  · have hget {d : Document} (hd : d.Shows t) := hd.get (hparameter hname)
    let spelling := (((Document.recordsIn t parameter.label).head?.getD .null).get "name").str?
    by_cases hspelling : spelling = some wanted
    · refine hnothing fun d hd => ?_
      rw [renameParameter, hget hd]
      exact if_neg fun hc => (bne_iff_ne.mp (Bool.and_eq_true_iff.mp hc).2) hspelling
    · cases hb : s.bindingFor parameter.label with
      | none =>
        refine hnothing fun d hd => ?_
        simp [renameParameter, hb]
      | some b =>
        let new := s.generateName wanted scope
        refine ⟨(s.renameBinding b new).1, (s.binding b).identifiers, new, hs hb, ?_, fun d hd => ?_⟩
        · intro l b' hb' m hm
          rw [identifiers_renameBinding] at hm
          exact (hs hb' m hm).respell _
        · rw [renameParameter, hget hd]
          dsimp only
          rw [if_pos (Bool.and_eq_true_iff.mpr ⟨hname, bne_iff_ne.mpr hspelling⟩), hb]
          rfl
  · exact hnothing fun d _ => by simp [renameParameter, hname]

/-- Renames parameters, one after the other. -/
def renameAll (scope : Nat) (state : ScopeTree × Document) (renames : List (Tree × String)) :
    ScopeTree × Document :=
  renames.foldl (fun state (parameter, wanted) => renameParameter scope state parameter wanted) state

/-- **What has become of a document** in which a part has been renamed: it shows the renamed part, and
what lies apart from it as before. -/
structure Renamed (t t' : Tree) (d d' : Document) : Prop where
  shows : d'.Shows t'
  apart : ∀ other : Tree, d.Shows other → t.labels.Disjoint other.labels → d'.Shows other
  next : d'.next = d.next

theorem next_rename (d : Document) (labels : List Nat) (new : String) :
    (d.rename labels new).next = d.next := by
  rw [Document.rename]
  split <;> rfl

/-- **What renaming parameters does** in whatever document shows the part. -/
theorem exists_renameAll {s : ScopeTree} {t : Tree} (hs : Covers t s) (scope : Nat)
    {renames : List (Tree × String)}
    (hparameters : ∀ r ∈ renames, r.1.isIdentifier = true → r.1.label ∈ t.labels) :
    ∃ t', t'.label = t.label ∧ t'.isObj = t.isObj ∧ t'.labels = t.labels ∧
      ∀ d : Document, d.Shows t → Renamed t t' d (renameAll scope (s, d) renames).2 := by
  induction renames generalizing s t with
  | nil => exact ⟨t, rfl, rfl, rfl, fun d hd => ⟨hd, fun _ ho _ => ho, rfl⟩⟩
  | cons r rest ih =>
    obtain ⟨s', labels, new, hlabels, hs', hstep⟩ :=
      exists_renameParameter hs scope (hparameters r List.mem_cons_self) r.2
    have hkept := Tree.labels_respell (Tree.renamed labels new) t
    obtain ⟨t', hlabel, hobj, hall, hrest⟩ := ih hs' fun r hr hname => by
      rw [hkept]
      exact hparameters r (List.mem_cons_of_mem _ hr) hname
    rw [Tree.label_respell] at hlabel
    rw [Tree.isObj_respell] at hobj
    refine ⟨t', hlabel, hobj, hall.trans hkept, fun d hd => ?_⟩
    obtain ⟨hshows, hapart, hnext⟩ := hrest _ (hd.rename hlabels new)
    have hfirst : renameAll scope (s, d) (r :: rest) = renameAll scope (s', d.rename labels new) rest :=
      congrArg (renameAll scope · rest) (hstep d hd)
    rw [hfirst]
    refine ⟨hshows, fun other ho hdisjoint => ?_, hnext.trans (next_rename d labels new)⟩
    refine hapart other (hd.rename_apart ho hlabels hdisjoint new) ?_
    rwa [hkept]

/-! ### Renaming in place -/

/-- A document in which the parameters of the factory with a label are renamed where it stands; what
they are called there is found out from the factory alone. -/
def renameInPlace (names : List String) (d : Document) (label : Nat) : Except Failure Document := do
  let factory := d.get label
  let alone := Document.ofTree (Tree.program [Tree.expressionStatement factory]) d.next
  let s ← ScopeTree.build alone.root
  let scope := (s.scopeFor label).getD 0
  return (renameAll scope (s, d) ((factory.get "params").items.zip names)).2

/-- The program of a factory whose parameters have been renamed. -/
def bodyCode (origin : Origin) (factory : Tree) : Except Failure String := do
  let body := factory.get "body"
  let statements := if body.isKind "BlockStatement" then (body.get "body").items
    else [Tree.expressionStatement body]
  (Tree.program statements).print (some origin.source)

/-- **The programs of factories of a document** that are renamed where they stand, each after the ones
before it. -/
def codesInPlace (origin : Origin) (names : List String) :
    Document → List Nat → Except Failure (List String)
  | _, [] => return []
  | d, label :: rest => do
    let d ← renameInPlace names d label
    let code ← bodyCode origin (d.get label)
    return code :: (← codesInPlace origin names d rest)

theorem factoryCode_eq (origin : Origin) (names : List String) (factory : Tree) :
    factoryCode origin names factory = renameParameters origin names factory >>= bodyCode origin := rfl

/-- The parameters of a factory are nodes of it. -/
theorem label_mem_of_parameter {parameter : Tree} (h : parameter ∈ (factory.get "params").items)
    (hname : parameter.isIdentifier = true) : parameter.label ∈ factory.labels := by
  have hobj : parameter.isObj = true := (Bool.and_eq_true_iff.mp hname).1
  cases hp : factory.get? "params" with
  | none => simp [Tree.get, hp, Tree.items] at h
  | some value =>
    rw [Tree.get_of_get? hp] at h
    cases value with
    | list items =>
      rw [Tree.labels_eq_map_records]
      refine List.mem_map_of_mem (Tree.records_subset_of_mem_fields (mem_of_lookup hp) ?_)
      rw [Tree.records, Tree.recordsItems_eq]
      exact List.mem_flatMap.mpr ⟨parameter, h, Tree.mem_records_self hobj⟩
    | _ => simp [Tree.items] at h

/-- **A factory is renamed in place as it is renamed alone**, and what lies apart from it stays. -/
theorem exists_renameInPlace (hf : factory.Settled origin.next) (hk : factory.Is isExpressionKind)
    (names : List String) {d : Document} (hd : d.Shows factory) (hnext : d.next = origin.next) :
    ∃ renamed d', renameParameters origin names factory = .ok renamed ∧
      renameInPlace names d factory.label = .ok d' ∧ d'.get factory.label = renamed ∧
      Renamed factory renamed d d' := by
  obtain ⟨s, hs, hcovers⟩ := exists_view hf hk
  let renames := (factory.get "params").items.zip names
  have hparameters : ∀ r ∈ renames, r.1.isIdentifier = true → r.1.label ∈ factory.labels :=
    fun r hr => label_mem_of_parameter (List.of_mem_zip hr).1
  obtain ⟨renamed, hlabel, hobj, -, hrenamed⟩ :=
    exists_renameAll hcovers ((s.scopeFor factory.label).getD 0) hparameters
  have hisObj : renamed.isObj = true := hobj.trans hk.2.isObj
  have halone := Tree.ofTree_alone hf
  have hown := hrenamed _ (Tree.shows_alone hf)
  have hshared := hrenamed d hd
  have hgetOwn := hown.shows.get_label hisObj
  have hgetShared := hshared.shows.get_label hisObj
  rw [hlabel] at hgetOwn hgetShared
  refine ⟨renamed, _, ?_, ?_, hgetShared, hshared⟩
  · rw [renameParameters, halone]
    show (ScopeTree.build (Tree.alone origin.next factory) >>= fun s => _) = _
    rw [hs]
    exact congrArg Except.ok hgetOwn
  · rw [renameInPlace, hd.get_label hk.2.isObj, hnext, halone]
    show (ScopeTree.build (Tree.alone origin.next factory) >>= fun s => _) = _
    rw [hs]
    rfl

/-- **Factories do not interfere.** Factories that lie apart are renamed in place, one after the other:
the programs are those of the factories alone. -/
theorem codesInPlace_eq {factories : List Tree} (hsettled : ∀ f ∈ factories, f.Settled origin.next)
    (hkinds : ∀ f ∈ factories, f.Is isExpressionKind)
    (hapart : factories.Pairwise fun f g => f.labels.Disjoint g.labels) (names : List String)
    {d : Document} (hshows : ∀ f ∈ factories, d.Shows f) (hnext : d.next = origin.next) :
    codesInPlace origin names d (factories.map Tree.label) = factories.mapM (factoryCode origin names) := by
  induction factories generalizing d with
  | nil => rfl
  | cons factory rest ih =>
    obtain ⟨hrest, hapart⟩ := List.pairwise_cons.mp hapart
    obtain ⟨renamed, d', halone, hplace, hget, hrenamed⟩ := exists_renameInPlace
      (hsettled _ List.mem_cons_self) (hkinds _ List.mem_cons_self) names (hshows _ List.mem_cons_self) hnext
    have hlater := ih (fun f hf => hsettled f (List.mem_cons_of_mem _ hf))
      (fun f hf => hkinds f (List.mem_cons_of_mem _ hf)) hapart
      (fun f hf => hrenamed.apart f (hshows f (List.mem_cons_of_mem _ hf)) (hrest f hf))
      (hrenamed.next.trans hnext)
    rw [List.map_cons, codesInPlace, hplace, List.mapM_cons, factoryCode_eq, halone]
    show (bodyCode origin (d'.get factory.label) >>= fun code => _) = _
    rw [hget, hlater]
    rfl

end Bundle

end Deminify
