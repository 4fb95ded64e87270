import Deminify.Proofs.Document.Spelling
import Deminify.Proofs.Scope.Declarers

/-!
# Renaming global names

The global uses of a name are those that belong to no scope (`Deminify.ScopeTree.Tells.mem_renameGlobal`).
Where these get another name, nothing is declared otherwise than before, so every other name means what it
meant (`Deminify.UsedOnly.declaredBy_iff`). And if the new name is generated for the program as a whole, no
scope declares it: **the names that are renamed have no declarations afterwards, as before**
(`Deminify.ScopeTree.Tells.exists_renameGlobal`).

Other than for bindings that are renamed (`Deminify.ScopeTree.rename_captures_nothing`), the walk over the
respelled program may find less than the walk over the program: an element that is called by a name that
starts with a capital becomes one of the markup when its name is replaced by one that does not. Hence the
detour by way of sites, at which what is no use any more declares nothing either.
-/

namespace Deminify

namespace Tree

/-! ### Respelled programs -/

variable {σ : Nat → String → String}

@[simp] theorem isLeaf_respell (t : Tree) : (t.respell σ).isLeaf = t.isLeaf := by
  cases t <;> rfl

@[simp] theorem isList_respell (t : Tree) : (t.respell σ).isList = t.isList := by
  cases t <;> rfl

@[simp] theorem isTrue_respell (t : Tree) : (t.respell σ).isTrue = t.isTrue := by
  cases t <;> rfl

@[simp] theorem isOf_respell (kinds : String → Bool) (t : Tree) :
    (t.respell σ).isOf kinds = t.isOf kinds := by
  rw [isOf, isOf, isObj_respell, get?_respell σ t (by decide)]
  cases t.get? "type" with
  | none => rfl
  | some v => simp

@[simp] theorem isPlainKey_respell (t : Tree) : (t.respell σ).isPlainKey = t.isPlainKey := by
  rw [isPlainKey, isPlainKey, isKind_respell, isKind_respell, get_respell σ t (by decide)]
  cases t.get "value" <;> rfl

/-- A field takes what it took before names are spelled otherwise. -/
theorem takes_respell (sort : FieldSort) (t : Tree) : sort.takes (t.respell σ) = sort.takes t := by
  cases sort with
  | flag => cases t <;> rfl
  | _ => simp [FieldSort.takes, Function.comp_def]

theorem takes_spell (sort : FieldSort) (f : String → String) (t : Tree) :
    sort.takes (t.spell f) = sort.takes t := by
  cases t with
  | str x => cases sort <;> rfl
  | _ => rfl

/-- What does not look at texts, nor into nodes, sees the fields as they were. -/
theorem map_fields_respell {α : Type} {f : String × Tree → α}
    (hf : ∀ key x y, f (key, .str x) = f (key, .str y))
    (hr : ∀ key v, f (key, v.respell σ) = f (key, v)) (t : Tree) :
    (t.respell σ).fields.map f = t.fields.map f := by
  cases t with
  | obj label fields =>
    have hfields : (fields.map fun x => (x.1, x.2.respell σ)).map f = fields.map f := by
      rw [List.map_map]
      exact List.map_congr_left fun x _ => hr x.1 x.2
    rw [respell_obj, fields_obj, fields_obj, ← hfields, spellFields]
    split
    · rename_i x hx
      have hput := @flatMap_putKey _ _ _ _ _ (.str (σ label x)) (fun y => [f y]) hx (by rw [hf "name" _ x])
      rwa [← List.map_eq_flatMap, ← List.map_eq_flatMap] at hput
    · rfl
  | list items => rw [respell_list]; rfl
  | _ => rfl

theorem takesAt_respell (t : Tree) (key : String) (sort : FieldSort) :
    ((t.respell σ).get? key).any sort.takes = (t.get? key).any sort.takes := by
  by_cases hk : key = "name"
  · rw [hk, get?_respell_name]
    cases t.get? "name" <;> simp [takes_respell, takes_spell]
  · rw [get?_respell σ t hk]
    cases t.get? key <;> simp [takes_respell]

/-- Spelling changes no fields. -/
theorem hasFields_respell (t : Tree) : (t.respell σ).hasFields = t.hasFields := by
  have hkeys : DistinctKeys (t.respell σ).fields ↔ DistinctKeys t.fields := by
    rw [DistinctKeys, DistinctKeys, map_fields_respell (fun _ _ _ => rfl) fun _ _ => rfl]
  have hknown (spec : List (String × FieldSort)) :
      (t.respell σ).fields.all (isKnownField spec) = t.fields.all (isKnownField spec) := by
    have hmap := @map_fields_respell σ _ (isKnownField spec) (fun _ _ _ => rfl)
      (fun key v => by rw [isKnownField, isKnownField, isLeaf_respell]) t
    have hall := congrArg (List.all · id) hmap
    rwa [List.all_map, List.all_map] at hall
  have hplain : keepsKey (t.respell σ).fields = keepsKey t.fields := by
    show (((t.respell σ).get? "computed").any isTrue || ((t.respell σ).get? "key").any isPlainKey) = _
    rw [get?_respell σ t (by decide), get?_respell σ t (by decide), Option.any_map, Option.any_map]
    simp only [isTrue_respell, isPlainKey_respell]
    rfl
  simp only [hasFields, kind_respell, hkeys, hknown, hplain, takesAt_respell]

/-- What can be imported together can be however it is spelled. -/
theorem bindsTogether_respell (specifiers : List Tree) :
    bindsTogether (specifiers.map (respell σ)) = bindsTogether specifiers := by
  simp only [bindsTogether, bindsKind, List.countP_map, List.any_map, Function.comp_def, isKind_respell]

theorem keepsImport_respell (t : Tree) : keepsImport (t.respell σ).fields = keepsImport t.fields := by
  show (((t.respell σ).get? "source").any _ && ((t.respell σ).get? "specifiers").any _) = _
  rw [get?_respell σ t (by decide), get?_respell σ t (by decide), Option.any_map, Option.any_map]
  simp only [items_respell, bindsTogether_respell, get_respell σ _ (show "value" ≠ "name" by decide), str?_respell]
  rfl

/-- A respelled node has the fields of its kind if it had them before. -/
theorem conforms_respell (t : Tree) : (t.respell σ).conforms = t.conforms := by
  rw [conforms, conforms, hasFields_respell, kind_respell, keepsImport_respell]

/-- The children of a node are spelled with it. -/
theorem children_respell (t : Tree) : (t.respell σ).children = t.children.map (respell σ) := by
  rw [children, slots_respell, List.map_map, children, List.map_map]
  rfl

/-- The nodes of a respelled tree are those of the tree, respelled. -/
theorem subtree_respell (t : Tree) : (t.respell σ).subtree = t.subtree.map (respell σ) := by
  induction hn : t.height using Nat.strongRecOn generalizing t with
  | _ n ih =>
    subst hn
    rw [subtree_eq, subtree_eq t, List.map_cons, children_respell, List.flatMap_map, List.map_flatMap]
    congr 1
    exact List.flatMap_congr fun c hc => ih _ (height_lt_of_mem_children hc) c rfl

/-- **A program stays well formed** however it is spelled. -/
theorem WellFormed.respell {t : Tree} (h : t.WellFormed) : (t.respell σ).WellFormed := by
  intro n hn
  rw [subtree_respell] at hn
  obtain ⟨m, hm, rfl⟩ := List.mem_map.mp hn
  rw [conforms_respell]
  exact h m hm

/-- **A respelled program is well formed.** -/
theorem Is.respell {kinds : String → Bool} {t : Tree} (h : t.Is kinds) : (t.respell σ).Is kinds :=
  ⟨(isOf_respell kinds t).trans h.1, h.2.respell⟩

theorem Labelled.respell {t : Tree} (h : t.Labelled) : (t.respell σ).Labelled := by
  rwa [Labelled, subtree_respell, List.map_map, show label ∘ Tree.respell σ = label from
    funext (label_respell σ)]

/-- A name is spelled by its label. -/
theorem str?_get_name_respell (t : Tree) :
    ((t.respell σ).get "name").str? = ((t.get "name").str?).map (σ t.label) := by
  have hspell (v : Tree) : (v.spell (σ t.label)).str? = v.str?.map (σ t.label) := by
    cases v <;> rfl
  rw [get, get?_respell_name, get]
  cases t.get? "name" with
  | none => rfl
  | some v => rw [Option.map_some, Option.getD_some, hspell, str?_respell, Option.getD_some]

end Tree

/-! ### Respelled sites -/

namespace Site

variable {σ : Nat → String → String} {p : Site}

/-- The site of a respelled node. -/
def respell (σ : Nat → String → String) (p : Site) : Site := ⟨p.node.respell σ, p.role, p.frames⟩

/-- Spelling opens no scopes. -/
theorem openedKinds_respell : (p.respell σ).openedKinds = p.openedKinds := by
  obtain ⟨t, role, frames⟩ := p
  have hid : (t.respell σ).get "id" = (t.get "id").respell σ := Tree.get_respell σ t (by decide)
  simp only [openedKinds, respell, Tree.kind_respell, hid, Tree.truthy_respell]
  rfl

theorem opened_respell : (p.respell σ).opened = p.opened := by
  rw [opened, opened, openedKinds_respell, show (p.respell σ).node.label = p.node.label from
    Tree.label_respell σ p.node]

theorem framesAt_respell (key : String) : (p.respell σ).framesAt key = p.framesAt key := by
  have hinside : (p.respell σ).isInside key = p.isInside key := by
    simp only [isInside, respell, Tree.kind_respell]
  rw [framesAt, framesAt, hinside, opened_respell]
  rfl

/-- Spelling changes no roles. -/
theorem roleAt_respell (key : String) : (p.respell σ).roleAt key = p.roleAt key := by
  have hkind : (p.respell σ).roleByKind key = p.roleByKind key := by
    obtain ⟨t, role, frames⟩ := p
    have hget {k : String} (hk : k ≠ "name") : (t.respell σ).get k = (t.get k).respell σ :=
      Tree.get_respell σ t hk
    simp only [roleByKind, respell, Tree.kind_respell, Tree.label_respell, hget (k := "kind") (by decide),
      hget (k := "init") (by decide), hget (k := "body") (by decide), hget (k := "computed") (by decide),
      hget (k := "source") (by decide), Tree.str?_respell, Tree.isNull_respell, Tree.isKind_respell,
      Tree.truthy_respell]
  rw [roleAt, roleAt, hkind]
  simp only [respell, Tree.kind_respell]

/-- The sites below are spelled with the site. -/
theorem below_respell (key : String) (child : Tree) :
    (p.respell σ).below key (child.respell σ) = (p.below key child).respell σ := by
  rw [below, roleAt_respell, framesAt_respell]
  rfl

end Site

/-- What is reached is reached in the program that is spelled otherwise. -/
theorem Reaches.respell {σ : Nat → String → String} {p q : Site} (h : Reaches p q) :
    Reaches (p.respell σ) (q.respell σ) := by
  induction h with
  | refl p => exact .refl _
  | @step p q slot child hx _ ih =>
    have hslot : (slot, child.respell σ) ∈ (p.respell σ).node.slots :=
      (Tree.slots_respell σ p.node).symm ▸ List.mem_map_of_mem hx
    exact .step hslot (by rwa [Site.below_respell])

/-- What is reached in the program that is spelled otherwise was reached before. -/
theorem exists_of_reaches_respell {σ : Nat → String → String} {p q' : Site}
    (h : Reaches (p.respell σ) q') : ∃ q, Reaches p q ∧ q.respell σ = q' := by
  generalize hs : p.respell σ = s at h
  induction h generalizing p with
  | refl s => exact ⟨p, .refl p, hs⟩
  | @step s q' slot child hx hq ih =>
    subst hs
    have hslots : (slot, child) ∈ (p.node.respell σ).slots := hx
    rw [Tree.slots_respell] at hslots
    obtain ⟨x, hmem, he⟩ := List.mem_map.mp hslots
    cases he
    obtain ⟨q, hreaches, he⟩ := ih (Site.below_respell x.1.key x.2).symm
    exact ⟨q, .step hmem hreaches, he⟩

/-- **The sites of a respelled program** are those of the program, respelled. -/
theorem stands_respell_iff {σ : Nat → String → String} {program : Tree} {q' : Site} :
    Stands (program.respell σ) q' ↔ ∃ q, Stands program q ∧ q.respell σ = q' := by
  have hroot : Site.root (program.respell σ) = (Site.root program).respell σ := by
    rw [Site.root, Tree.label_respell]
    rfl
  rw [Stands, hroot]
  constructor
  · exact exists_of_reaches_respell
  · rintro ⟨q, hq, rfl⟩
    exact Reaches.respell hq

/-! ### Uses that are spelled anew -/

section Uses

variable {program : Tree} {labels : List Nat} {new : String}

/-- What is not renamed goes on as before. -/
theorem Site.events_respell_of_not_mem {p : Site} (h : p.node.label ∉ labels) :
    (p.respell (Tree.renamed labels new)).events = p.events := by
  have hname : ((p.node.respell (Tree.renamed labels new)).get "name").str? = (p.node.get "name").str? := by
    rw [Tree.str?_get_name_respell, show Tree.renamed labels new p.node.label = id from
      funext fun x => if_neg (by simpa using h), Option.map_id]
    rfl
  have hopened := @Site.opened_respell (Tree.renamed labels new) p
  obtain ⟨t, role, frames⟩ := p
  simp only [events, respell, Tree.kind_respell, Tree.label_respell, hname]
  rw [← hopened]
  rfl

/-- Nothing happens at a name that is used but its use. -/
theorem Site.eq_use_of_mem_events {p : Site} {l : Nat} {x : String} {writes : Bool} {frames : List Frame}
    (h : .use l x writes frames ∈ p.events) {e : Event} (he : e ∈ p.events) : e = .use l x writes frames := by
  unfold Site.events at h he
  dsimp only at h he
  repeat' split at h
  all_goals simp_all

/-- A name that is used and renamed is used under its new name, if at all. -/
theorem Site.eq_use_of_mem_events_respell {p : Site} {l : Nat} {x : String} {writes : Bool}
    {frames : List Frame} (h : .use l x writes frames ∈ p.events) (hl : l ∈ labels) {y : String}
    (hy : p.node.get? "name" = some (.str y)) {e : Event}
    (he : e ∈ (p.respell (Tree.renamed labels new)).events) : e = .use l new writes frames := by
  obtain ⟨rfl, -⟩ := Site.name_of_mem_events h rfl
  have hname : ((p.node.respell (Tree.renamed labels new)).get "name").str? = some new := by
    rw [Tree.str?_get_name_respell, Tree.get_of_get? hy]
    exact congrArg some (if_pos (by simpa using hl))
  obtain ⟨t, role, frames'⟩ := p
  unfold Site.events at h he
  simp only [respell, Tree.kind_respell, Tree.label_respell, hname] at h he
  repeat' split at h
  all_goals simp_all

end Uses

/-- Nothing else happens at a name that is used. -/
theorem eq_use_of_happens {program : Tree} (hl : program.Labelled) {l : Nat} {x : String} {writes : Bool}
    {frames : List Frame} (hu : Happens program (.use l x writes frames)) {e : Event} (he : Happens program e)
    (hlabel : e.label? = some l) : e = .use l x writes frames := by
  obtain ⟨p, hp, hu⟩ := hu
  obtain ⟨q, hq, he⟩ := he
  obtain ⟨hpl, -⟩ := Site.name_of_mem_events hu rfl
  obtain ⟨hql, -⟩ := Site.name_of_mem_events he hlabel
  obtain rfl := hp.unique hl hq (hpl.trans hql.symm)
  exact Site.eq_use_of_mem_events hu he

/-- What is not renamed is used as before. -/
theorem happens_use_respell {program : Tree} {labels : List Nat} {new : String} {l : Nat} (hl : l ∉ labels)
    {x : String} {writes : Bool} {frames : List Frame} :
    Happens (program.respell (Tree.renamed labels new)) (.use l x writes frames) ↔
      Happens program (.use l x writes frames) := by
  have hsame {q : Site} (hq : q.node.label = l) :
      (q.respell (Tree.renamed labels new)).events = q.events :=
    Site.events_respell_of_not_mem (hq ▸ hl)
  constructor
  · rintro ⟨q', hq', he⟩
    obtain ⟨q, hq, rfl⟩ := stands_respell_iff.mp hq'
    obtain ⟨hlabel, -⟩ := Site.name_of_mem_events he rfl
    rw [hsame ((Tree.label_respell _ _).symm.trans hlabel)] at he
    exact ⟨q, hq, he⟩
  · rintro ⟨q, hq, he⟩
    obtain ⟨hlabel, -⟩ := Site.name_of_mem_events he rfl
    refine ⟨_, stands_respell_iff.mpr ⟨q, hq, rfl⟩, ?_⟩
    rwa [hsame hlabel]

/-- The scope that a name belongs to depends on which scopes declare it, and on nothing else. -/
theorem Resolves.congr {program program' : Tree} {x : String} {frames : List Frame} {found : Option Frame}
    (hd : ∀ f, DeclaredIn program f x ↔ DeclaredIn program' f x) (h : Resolves program x frames found) :
    Resolves program' x frames found := by
  induction h with
  | none => exact .none
  | here h => exact .here ((hd _).mp h)
  | outer h _ ih => exact .outer (mt (hd _).mpr h) ih

/-- **Labels of names that are used** in a program that has been read. -/
structure UsedOnly (program : Tree) (labels : List Nat) : Prop where
  is : program.Is (· == "Program")
  nodup : program.labels.Nodup
  uses : ∀ l ∈ labels, ∃ x writes frames, Happens program (.use l x writes frames)

namespace UsedOnly

variable {program : Tree} {labels : List Nat} {new : String} (h : UsedOnly program labels)

include h

theorem labelled : program.Labelled := h.nodup.sublist (Tree.labels_subtree h.is.2.isObj)

/-- What is renamed is a name. -/
theorem exists_name {r : Tree} (hr : r ∈ program.records) (hl : r.label ∈ labels) :
    ∃ x, r.get? "name" = some (.str x) := by
  obtain ⟨x, writes, frames, hu⟩ := h.uses _ hl
  exact ScopeTree.exists_name_of_named h.is h.nodup ⟨_, hu, rfl⟩ hr

/-- What stands at a label that is renamed. -/
theorem exists_use {p : Site} (hs : Stands program p) (hl : p.node.label ∈ labels) :
    (∃ x writes frames, .use p.node.label x writes frames ∈ p.events) ∧
      ∃ y, p.node.get? "name" = some (.str y) := by
  refine ⟨?_, h.exists_name (Tree.subtree_subset_records h.is.2.isObj hs.mem_subtree) hl⟩
  -- the name stands at one site only
  obtain ⟨x, writes, frames, q, hq, he⟩ := h.uses _ hl
  obtain ⟨hlabel, -⟩ := Site.name_of_mem_events he rfl
  obtain rfl := hq.unique h.labelled hs hlabel
  exact ⟨x, writes, frames, he⟩

/-- **Where uses are renamed, the same names are declared.** -/
theorem happens_declares_iff {l : Nat} {x : String} {home : Frame} {initializes : Bool} :
    Happens (program.respell (Tree.renamed labels new)) (.declares l x home initializes) ↔
      Happens program (.declares l x home initializes) := by
  constructor
  · rintro ⟨q', hq', he⟩
    obtain ⟨q, hq, rfl⟩ := stands_respell_iff.mp hq'
    by_cases hl : q.node.label ∈ labels
    · obtain ⟨⟨x, writes, frames, hu⟩, y, hy⟩ := h.exists_use hq hl
      cases Site.eq_use_of_mem_events_respell hu hl hy he
    · rw [Site.events_respell_of_not_mem hl] at he
      exact ⟨q, hq, he⟩
  · rintro ⟨q, hq, he⟩
    refine ⟨_, stands_respell_iff.mpr ⟨q, hq, rfl⟩, ?_⟩
    rwa [Site.events_respell_of_not_mem fun hl => ?_]
    obtain ⟨⟨x, writes, frames, hu⟩, -⟩ := h.exists_use hq hl
    cases Site.eq_use_of_mem_events hu he

/-- What is renamed has its new name. -/
theorem eq_of_happens_use {l : Nat} (hl : l ∈ labels) {x : String} {writes : Bool} {frames : List Frame}
    (hu : Happens (program.respell (Tree.renamed labels new)) (.use l x writes frames)) : x = new := by
  obtain ⟨q', hq', he⟩ := hu
  obtain ⟨q, hq, rfl⟩ := stands_respell_iff.mp hq'
  obtain ⟨hlabel, -⟩ := Site.name_of_mem_events he rfl
  obtain rfl : q.node.label = l := (Tree.label_respell _ _).symm.trans hlabel
  obtain ⟨⟨y, writes, frames, hu⟩, z, hz⟩ := h.exists_use hq hl
  cases Site.eq_use_of_mem_events_respell hu hl hz he
  rfl

/-- The same names are declared when global uses are spelled anew. -/
theorem declaredIn_iff (frame : Frame) (x : String) :
    DeclaredIn (program.respell (Tree.renamed labels new)) frame x ↔ DeclaredIn program frame x := by
  simp only [DeclaredIn, h.happens_declares_iff]

/-- Names resolve as they did. -/
theorem resolves_iff (x : String) (frames : List Frame) (found : Option Frame) :
    Resolves (program.respell (Tree.renamed labels new)) x frames found ↔
      Resolves program x frames found :=
  ⟨.congr fun f => h.declaredIn_iff f x, .congr fun f => (h.declaredIn_iff f x).symm⟩

/-- **Where uses are renamed, a name means what it meant.** -/
theorem declaredBy_iff (x : String) (frames : List Frame) (d : Nat) :
    DeclaredBy (program.respell (Tree.renamed labels new)) x frames d ↔
      DeclaredBy program x frames d := by
  simp only [DeclaredBy, h.resolves_iff, h.happens_declares_iff]

end UsedOnly

/-- The scope of the program is around every scope. -/
theorem ScopeTree.Nested.zero_mem_ancestors {s : ScopeTree} (hs : s.Nested) {k : Nat} (hk : k < s.scopes.size) :
    0 ∈ s.ancestors k := by
  induction k using Nat.strongRecOn with
  | _ k ih =>
    obtain ⟨x, hx⟩ := exists_shape hk
    by_cases h0 : k = 0
    · exact h0 ▸ hs.mem_ancestors_self hk
    · obtain ⟨p, hp, he⟩ := hs.around hx h0
      rw [hs.ancestors_eq hx, he]
      exact List.mem_cons_of_mem _ (ih p hp (Nat.lt_trans hp hk))

namespace ScopeTree.Tells

variable {program : Tree} {notes : List Note} (h : Tells program notes)

include h

/-! ### Renaming global uses -/

/-- **The global uses of a name** are those that belong to no scope. -/
theorem mem_renameGlobal {old new : String} {l : Nat} :
    l ∈ ((ofNotes program.label notes).renameGlobal old new).2 ↔ ∃ writes frames,
      Happens program (.use l old writes frames) ∧ Resolves program old frames none := by
  have hpos : l ∈ ((ofNotes program.label notes).renameGlobal old new).2 ↔
      0 < (ofNotes program.label notes).recordCount l (.global old) := by
    rw [renameGlobal, recordCount, Array.mem_toList_iff, Array.count_pos_iff]
  have hrecord {x : String} {writes : Bool} {found : Option Nat} :
      Record.global old ∈ recordsOf x writes found ↔ found = none ∧ x = old := by
    cases found <;> cases writes <;> simp [recordsOf, eq_comm]
  rw [hpos, h.recordCount_pos]
  constructor
  · rintro (⟨d, -, -, hr⟩ | ⟨u, hu, rfl, hr⟩)
    · obtain ⟨_, -, hr⟩ := exists_of_mem_rewriteRecords hr
      cases hr
    · obtain ⟨hnone, rfl⟩ := hrecord.mp hr
      refine ⟨u.writes, _, h.happens_use_iff.mpr ⟨u, hu, rfl, rfl, rfl, rfl⟩, ?_⟩
      rcases h.resolves_lookup (h.scope_lt hu) u.name with ⟨_, _, -, -, hl⟩ | ⟨hresolves, -⟩
      · exact absurd (hl.symm.trans hnone) (Option.some_ne_none _)
      · exact hresolves
  · rintro ⟨writes, frames, he, hresolves⟩
    obtain ⟨u, hu, rfl, rfl, -, rfl⟩ := h.happens_use_iff.mp he
    refine .inr ⟨u, hu, rfl, hrecord.mpr ⟨?_, rfl⟩⟩
    rcases h.resolves_lookup (h.scope_lt hu) u.name with ⟨_, _, hr, -, -⟩ | ⟨-, hl⟩
    · cases hr.unique hresolves
    · exact hl

/-- The uses of a global name are names that are used only. -/
theorem usedOnly_renameGlobal (hp : program.Is (· == "Program")) (hl : program.labels.Nodup) (old new : String) :
    UsedOnly program ((ofNotes program.label notes).renameGlobal old new).2 :=
  ⟨hp, hl, fun l hm => by
    obtain ⟨writes, frames, he, -⟩ := h.mem_renameGlobal.mp hm
    exact ⟨old, writes, frames, he⟩⟩

/-- A name that is generated for the program as a whole is declared nowhere. -/
theorem not_declaredIn_generateName (base : String) (frame : Frame) :
    ¬DeclaredIn program frame ((ofNotes program.label notes).generateName base 0) := by
  rintro ⟨l, initializes, he⟩
  obtain ⟨d, hd, rfl, hname, -⟩ := h.happens_declares_iff.mp he
  have hlt := h.home_lt hd
  have hroot := h.nested.zero_mem_ancestors hlt
  have hfree := h.freeAround (h.nameInUse_generateName base 0) d.home hroot d.home
    (h.nested.mem_ancestors_self hlt)
  obtain ⟨b, hb⟩ := h.binds.exists_boundIn hd
  rw [hname, hfree] at hb
  cases hb

/-- **Renaming the global uses of a name** to one that is generated leaves all names the declarations that
they have. -/
theorem exists_renameGlobal (hp : program.Is (· == "Program")) (hl : program.labels.Nodup) (old base : String) :
    let view := ofNotes program.label notes
    let new := view.generateName base 0
    ∃ fresh, build (program.respell (Tree.renamed (view.renameGlobal old new).2 new)) = .ok fresh ∧
      ∀ {u x writes frames}, Happens program (.use u x writes frames) → ∀ d, d ∈ fresh.declarersOf u ↔
        d ∈ view.declarersOf u := by
  intro view new
  let labels := (view.renameGlobal old new).2
  have hused : UsedOnly program labels := h.usedOnly_renameGlobal hp hl old new
  obtain ⟨notes', hwalk, ht⟩ :=
    @exists_tells (program.respell (Tree.renamed labels new)) hp.respell hused.labelled.respell
  refine ⟨ofNotes _ notes', by rw [build, hwalk]; rfl, fun {u x writes frames} hu d => ?_⟩
  rw [h.mem_declarersOf hu]
  by_cases hm : u ∈ labels
  · -- a global use has no declarations, and its new name has none
    obtain ⟨writes', frames', hu', hnone⟩ := h.mem_renameGlobal.mp hm
    have hbefore : ¬DeclaredBy program x frames d := by
      cases eq_use_of_happens hused.labelled hu hu' rfl
      exact resolves_none_iff.mp hnone d
    refine iff_of_false (fun hd => ?_) hbefore
    by_cases hafter : ∃ x writes frames,
        Happens (program.respell (Tree.renamed labels new)) (.use u x writes frames)
    · obtain ⟨x', writes', frames', hafter⟩ := hafter
      obtain rfl := hused.eq_of_happens_use hm hafter
      obtain ⟨f, initializes, -, hdeclares⟩ := (ht.mem_declarersOf hafter d).mp hd
      exact h.not_declaredIn_generateName base f ⟨d, initializes, hused.happens_declares_iff.mp hdeclares⟩
    · have hnothing : (ofNotes _ notes').declarersOf u = [] :=
        ht.declarersOf_eq_nil (fun x' writes' frames' hu' => hafter ⟨x', writes', frames', hu'⟩)
          fun x' home initializes hd => ?_
      · rw [hnothing] at hd
        cases hd
      · cases eq_use_of_happens hused.labelled hu (hused.happens_declares_iff.mp hd) rfl
  · rw [ht.mem_declarersOf ((happens_use_respell hm).mpr hu), hused.declaredBy_iff]

end ScopeTree.Tells

end Deminify
