import Deminify.Proofs.Document.Change
import Deminify.Tree.Build

/-!
# Imports of a program

What happens in an import is that names are declared for the whole program (`Deminify.Reaches.events_import`). An edit
that only takes names from imports, takes imports away or puts new ones in *tidies* the program
(`Deminify.Document.Tidies`): **what is used is used as before, and the scopes inside declare what they declared.** A
node may move with its label from one import to another (`Deminify.Document.Splits.new_import`), which is why the new
one is put in after the node is taken from the old one.
-/

namespace Deminify

/-! ### Below an import -/

/-- The kinds of what is below an import. -/
def isImportPart (kind : String) : Bool := isImportNameKind kind || kind == "Identifier" || kind == "Literal"

namespace Tree

variable {i c n : Tree}

/-- Below an import there are only its names and its module. -/
theorem isImportPart_of_mem_child (h : i.hasFields = true) (hi : i.kind = "ImportDeclaration") (hc : c ∈ i.children)
    (hf : ∀ n ∈ c.subtree, n.hasFields = true) (hn : n ∈ c.subtree) : isImportPart n.kind = true := by
  obtain ⟨spec, key, sort, hspec, hm, ha, -⟩ := exists_of_mem_children h hc
  have table : ∀ entry ∈ schemaTable, (isImportPart entry.1 || entry.1 == "ImportDeclaration") = true →
      ∀ field ∈ entry.2, ∀ entry' ∈ schemaTable, field.2.admits entry'.1 = true → isImportPart entry'.1 = true := by
    decide +kernel
  obtain ⟨spec', hspec'⟩ := exists_schema_of_hasFields (hf c (mem_subtree_self c))
  refine kinds_of_mem_subtree (fun entry he hk => table entry he (by rw [hk]; rfl)) hf ?_ hn
  exact table _ (mem_of_lookup hspec) (by rw [hi]; rfl) _ hm _ (mem_of_lookup hspec') ha

/-- **No import is in another.** -/
theorem eq_of_mem_import (h : ∀ n ∈ i.subtree, n.hasFields = true) (hi : i.kind = "ImportDeclaration")
    (hn : n ∈ i.subtree) (hk : isImportPart n.kind = false) : n = i := by
  refine (mem_subtree.mp hn).resolve_right ?_
  rintro ⟨c, hc, hn⟩
  have hsub := subtree_subset_of_mem_children hc
  rw [isImportPart_of_mem_child (h i (mem_subtree_self i)) hi hc (fun m hm => h m (hsub hm)) hn] at hk
  cases hk

end Tree

/-- The outermost of the scopes around a site is that around all sites below. -/
theorem Reaches.outermost {p q : Site} (h : Reaches p q) (hp : p.frames ≠ []) :
    q.frames ≠ [] ∧ Deminify.outermost q.frames = Deminify.outermost p.frames := by
  induction h with
  | refl p => exact ⟨hp, rfl⟩
  | @step p q slot child hx hq ih =>
    have hbelow : (p.below slot.key child).frames ≠ [] ∧
        Deminify.outermost (p.below slot.key child).frames = Deminify.outermost p.frames := by
      rw [Site.below, Site.framesAt]
      split
      · exact ⟨fun he => hp (List.append_eq_nil_iff.mp he).2, ScopeTree.outermost_append _ hp⟩
      · exact ⟨hp, rfl⟩
    exact ⟨(ih hbelow.1).1, (ih hbelow.1).2.trans hbelow.2⟩

/-- The outermost scope around a node is that of the program. -/
theorem Stands.outermost {program : Tree} {p : Site} (h : Stands program p) :
    Deminify.outermost p.frames = ⟨program.label, "program"⟩ := (Reaches.outermost h (List.cons_ne_nil _ _)).2

/-- The roles below an import: names are declared for the whole program, or they mean nothing. -/
def Site.InImport (home : Frame) (q : Site) : Prop :=
  q.role = .inert ∨ q.role = .names home ∨ q.role = .imported ∧ outermost q.frames = home

section Import

variable {p q : Site} {home : Frame}

theorem Site.InImport.below (h : q.InImport home) (key : String) (c : Tree) : (q.below key c).InImport home := by
  rcases h with h | h | ⟨h, hf⟩
  · exact .inl (by rw [Site.below, Site.roleAt, h])
  · exact .inl (by rw [Site.below, Site.roleAt, h])
  · by_cases hkey : key = "local"
    · exact .inr (.inl (by rw [Site.below, Site.roleAt, h, hkey, ← hf]; rfl))
    · refine .inl ?_
      rw [Site.below, Site.roleAt, h]
      exact if_neg (by simpa using hkey)

/-- What is reached in an import is in it. -/
theorem Reaches.inImport (hq : Reaches p q) (h : p.InImport home) : q.InImport home := by
  induction hq with
  | refl p => exact h
  | step hx _ ih => exact ih (h.below _ _)

/-- In an import names are declared and nothing else happens. -/
theorem Site.InImport.events (h : q.InImport home) {e : Event} (he : e ∈ q.events) :
    (∃ l x, e = .declares l x home false) ∨ ∃ f, e = .opens f := by
  unfold Site.events at he
  dsimp only at he
  split at he
  · split at he <;> rcases h with h | h | ⟨h, -⟩ <;> simp_all
  · split at he <;> rcases h with h | h | ⟨h, -⟩ <;> simp_all
  · split at he
    · cases he
    · obtain ⟨f, -, rfl⟩ := List.mem_map.mp he
      exact .inr ⟨f, rfl⟩

theorem Site.inImport_below (hk : p.node.kind = "ImportDeclaration") {key : String}
    (hkey : key = "specifiers" ∨ key = "source") (c : Tree) : (p.below key c).InImport (Deminify.outermost p.frames) := by
  have hopened : p.opened = [] := by
    rw [Site.opened, Site.openedKinds, hk]
    rfl
  have hframes : (p.below key c).frames = p.frames := by
    rw [Site.below, Site.framesAt, hopened]
    split <;> rfl
  have hrole : p.roleAt key = .inert ∨ p.roleAt key = .imported := by
    rw [Site.roleAt, Site.roleByKind]
    simp only [hk]
    cases p.role <;> rcases hkey with hkey | hkey <;> simp [hkey]
  rcases hrole with hrole | hrole
  · exact .inl hrole
  · exact .inr (.inr ⟨hrole, congrArg _ hframes⟩)

/-- **What happens in an import**: names are declared for the whole program. -/
theorem Reaches.events_import (h : p.node.hasFields = true) (hk : p.node.kind = "ImportDeclaration") (hq : Reaches p q)
    {e : Event} (he : e ∈ q.events) :
    (∃ l x, e = .declares l x (Deminify.outermost p.frames) false) ∨ ∃ f, e = .opens f := by
  cases hq with
  | refl p =>
    have hopened : p.opened = [] := by
      rw [Site.opened, Site.openedKinds, hk]
      rfl
    rw [Site.events, hk] at he
    change e ∈ (if p.role = .inert then [] else p.opened.map Event.opens) at he
    rw [hopened, List.map_nil, ite_self] at he
    cases he
  | @step _ _ slot child hx hq =>
    refine (hq.inImport (p.inImport_below hk ?_ child)).events he
    obtain ⟨spec, hs⟩ := Tree.exists_schema_of_hasFields h
    obtain ⟨sort, hm, -⟩ := Tree.admits_of_hasFields h hs hx
    rw [hk] at hs
    cases hs
    simp only [List.mem_cons, Prod.mk.injEq, List.not_mem_nil, or_false] at hm
    exact hm.imp And.left And.left

end Import

/-! ### The imports of a program -/

namespace Tree

/-- The imports of a program. -/
def imports (t : Tree) : List Tree := t.subtree.filter (·.isKind "ImportDeclaration")

/-- What an import binds. -/
def specifiers (t : Tree) : List Tree := (t.get "specifiers").items

end Tree

section InsertAfter

variable {body : List Tree} {l : Nat}

theorem Tree.insertAfter_of_not_mem (h : l ∉ body.map Tree.label) (c : Tree) :
    (body.flatMap fun t => if t.label == l then [t, c] else [t]) = body := by
  induction body with
  | nil => rfl
  | cons t rest ih =>
    rw [List.map_cons, List.mem_cons, not_or] at h
    rw [List.flatMap_cons, if_neg (by simpa using Ne.symm h.1), ih h.2]
    rfl

/-- A node that is put behind the one with a label is one more. -/
theorem Tree.insertAfter_perm (hn : (body.map Tree.label).Nodup) (h : l ∈ body.map Tree.label) (c : Tree) :
    (body.flatMap fun t => if t.label == l then [t, c] else [t]).Perm (c :: body) := by
  induction body with
  | nil => cases h
  | cons t rest ih =>
    rw [List.map_cons, List.nodup_cons] at hn
    rw [List.flatMap_cons]
    by_cases hl : t.label = l
    · rw [if_pos (beq_iff_eq.mpr hl), Tree.insertAfter_of_not_mem (hl ▸ hn.1)]
      exact .swap c t rest
    · rw [if_neg (by simpa using hl)]
      rw [List.map_cons, List.mem_cons] at h
      exact ((ih hn.2 (h.resolve_left (Ne.symm hl))).cons t).trans (.swap c t rest)

end InsertAfter

namespace Document

variable {d : Document} {i n r c : Tree} {key : String} {value : Tree}

namespace InOrder

variable (h : d.InOrder)

include h

/-- The imports of a program are the nodes of that kind. -/
theorem mem_imports : n ∈ d.root.imports ↔ n ∈ d.root.subtree ∧ n.kind = "ImportDeclaration" := by
  rw [Tree.imports, List.mem_filter]
  exact and_congr_right fun hn => Tree.isKind_iff_of_hasFields (h.fields n hn)

theorem fieldSort_specifiers (hi : i ∈ d.root.imports) :
    Tree.fieldSort i.kind "specifiers" = some (.nodes isImportNameKind) := by
  rw [(h.mem_imports.mp hi).2]
  rfl

theorem fields_below (hn : n ∈ d.root.subtree) : ∀ m ∈ n.subtree, m.hasFields = true :=
  fun m hm => h.fields m (Tree.subtree_subset hn hm)

/-- An import keeps out of an edit of anything else. -/
theorem setAt_import (ha : d.Amends r key value) (hi : i ∈ d.root.imports) (hne : i ≠ r)
    (hr : isImportPart r.kind = false) : i.setAt r.label key value = i := by
  obtain ⟨hin, hk⟩ := h.mem_imports.mp hi
  exact h.setAt_eq ha hin fun hm => hne (Tree.eq_of_mem_import (h.fields_below hin) hk hm hr).symm

/-- The imports after an edit of something else. -/
theorem mem_imports_of_set (ha : d.Amends r key value) (hr : isImportPart r.kind = false)
    (hk : r.kind ≠ "ImportDeclaration") (hn : n ∈ (d.set r.label key value).root.imports) : n ∈ d.root.imports ∨
      n.kind = "ImportDeclaration" ∧ ∃ c ∈ (r.set key value).nodesAt key, c ∉ r.nodesAt key ∧ n ∈ c.subtree := by
  obtain ⟨hin, hkind⟩ := (h.set ha).mem_imports.mp hn
  refine (h.exists_of_mem_subtree_set ha hin).imp ?_ fun hnew => ⟨hkind, hnew⟩
  rintro ⟨m, hm, rfl⟩
  rw [Tree.kind_setAt ha.key_ne.1] at hkind
  have hmi := h.mem_imports.mpr ⟨hm, hkind⟩
  rwa [h.setAt_import ha hmi (fun he => hk (he ▸ hkind)) hr]

/-- An import stays where another field is set, unless it stood there. -/
theorem mem_imports_set (ha : d.Amends r key value) (hr : isImportPart r.kind = false)
    (hk : r.kind ≠ "ImportDeclaration") (hn : n ∈ d.root.imports) : n ∈ (d.set r.label key value).root.imports ∨
      ∃ c ∈ r.nodesAt key, c ∉ (r.set key value).nodesAt key ∧ n ∈ c.subtree := by
  obtain ⟨hin, hkind⟩ := h.mem_imports.mp hn
  refine (h.mem_subtree_set ha hin).imp (fun hkept => ?_) id
  rw [h.setAt_import ha hn (fun he => hk (he ▸ hkind)) hr] at hkept
  exact (h.set ha).mem_imports.mpr ⟨hkept, hkind⟩

/-- **The imports after an edit of one of them.** -/
theorem mem_imports_set_self (hi : i ∈ d.root.imports) (ha : d.Amends i key value) :
    n ∈ (d.set i.label key value).root.imports ↔ n = i.set key value ∨ n ∈ d.root.imports ∧ n ≠ i := by
  obtain ⟨hin, hk⟩ := h.mem_imports.mp hi
  have hpart : isImportPart i.kind = false := by
    rw [hk]
    decide
  have hnot {c : Tree} (hp : isImportPart c.kind = true) : c.kind ≠ "ImportDeclaration" := fun he => by
    rw [he] at hp
    revert hp
    decide
  constructor
  · intro hn
    obtain ⟨hin', hkind⟩ := (h.set ha).mem_imports.mp hn
    rcases h.exists_of_mem_subtree_set ha hin' with ⟨m, hm, rfl⟩ | ⟨c, hc, hnew, hn⟩
    · by_cases hmi : m = i
      · subst hmi
        exact .inl (h.setAt_self ha)
      · rw [Tree.kind_setAt ha.key_ne.1] at hkind
        have hm' := h.mem_imports.mpr ⟨hm, hkind⟩
        rw [h.setAt_import ha hm' hmi hpart]
        exact .inr ⟨hm', hmi⟩
    · refine absurd hkind (hnot (Tree.isImportPart_of_mem_child ha.fields ?_
        (Tree.mem_children_of_nodesAt ha.fields hc) (fun m hm => (ha.new c hc hnew m hm).1) hn))
      exact ha.alike.kind.trans hk
  · intro hn
    have hlost {m c : Tree} (hm : m.kind = "ImportDeclaration") (hc : c ∈ i.nodesAt key) : m ∉ c.subtree := fun hmc => by
      have hchild := Tree.mem_children_of_nodesAt (h.fields i hin) hc
      have hf (x : Tree) (hx : x ∈ c.subtree) : x.hasFields = true :=
        h.fields_below hin x (Tree.subtree_subset_of_mem_children hchild hx)
      exact hnot (Tree.isImportPart_of_mem_child (h.fields i hin) hk hchild hf hmc) hm
    have hkept {m : Tree} (hm : m ∈ d.root.imports) :
        m.setAt i.label key value ∈ (d.set i.label key value).root.imports := by
      obtain ⟨hmin, hmk⟩ := h.mem_imports.mp hm
      refine (h.set ha).mem_imports.mpr ⟨(h.mem_subtree_set ha hmin).resolve_right ?_, ?_⟩
      · rintro ⟨c, hc, -, hmc⟩
        exact hlost hmk hc hmc
      · rw [Tree.kind_setAt ha.key_ne.1, hmk]
    rcases hn with rfl | ⟨hn, hne⟩
    · rw [← h.setAt_self ha]
      exact hkept hi
    · have := hkept hn
      rwa [h.setAt_import ha hn hne hpart] at this

end InOrder

/-! ### Edits of imports -/

/-- **Whether an edit only concerns imports**: no name is used that was not, and what scopes inside declare they declare
still. -/
structure Tidies (d d' : Document) : Prop where
  order : d'.InOrder
  label : d'.root.label = d.root.label
  uses : ∀ {l x w frames}, Happens d'.root (.use l x w frames) → Happens d.root (.use l x w frames)
  inside : ∀ {f x}, f.kind ≠ "program" → DeclaredIn d.root f x → DeclaredIn d'.root f x

namespace Tidies

variable {d' d'' : Document}

theorem refl (h : d.InOrder) : d.Tidies d := ⟨h, rfl, id, fun _ => id⟩

theorem trans (h : d.Tidies d') (h' : d'.Tidies d'') : d.Tidies d'' :=
  ⟨h'.order, h'.label.trans h.label, fun hu => h.uses (h'.uses hu), fun hf hd => h'.inside hf (h.inside hf hd)⟩

end Tidies

/-- The statements of a program. -/
def body (d : Document) : List Tree := (d.root.get "body").items

namespace InOrder

variable (h : d.InOrder)

include h

theorem fieldSort_body : Tree.fieldSort d.root.kind "body" = some (.nodes isStatementKind) := by
  rw [h.kind]
  rfl

theorem listAt_root : d.listAt d.root.label "body" = d.body := by
  rw [listAt, h.get_label (Tree.mem_subtree_self _), body]

theorem mem_of_body (hn : n ∈ d.body) : n ∈ d.root.subtree := h.mem_items (Tree.mem_subtree_self _) h.fieldSort_body hn

/-- The statements of a program differ in their labels. -/
theorem nodup_body : (d.body.map Tree.label).Nodup := h.nodup_items (Tree.mem_subtree_self _) h.fieldSort_body

omit h in
/-- The statements after an edit of something else. -/
theorem body_set (hr : r.label ≠ d.root.label) :
    (d.set r.label key value).body.map Tree.label = d.body.map Tree.label := by
  have hset : (d.set r.label key value).root = d.root.setAt r.label key value := rfl
  rw [body, hset, Tree.get_setAt_of_ne (Ne.symm hr), Tree.items_setAt, List.map_map]
  exact List.map_congr_left fun c _ => Tree.label_setAt c

/-- The statements after an edit of their list. -/
theorem body_editList (change : List Tree → List Tree) : (d.editList d.root.label "body" change).body = change d.body := by
  have hset : (d.editList d.root.label "body" change).root = d.root.setAt d.root.label "body" (.list (change d.body)) :=
    congrArg Document.root (h.editList_eq (Tree.mem_subtree_self _) change)
  rw [body, hset, Tree.setAt_self (h.isObj (Tree.mem_subtree_self _)) (h.once _ (Tree.mem_subtree_self _)),
    Tree.get_set_self (h.isObj (Tree.mem_subtree_self _)), Tree.items_list]

/-- An edit that loses nothing but imports and what they bind, and brings in nothing else. -/
theorem tidies_set (ha : d.Amends r key value)
    (hlost : ∀ p c, Stands d.root p → p.node = r → c ∈ r.nodesAt key → c ∉ (r.set key value).nodesAt key →
      r.kind = "ImportDeclaration" ∨ c.kind = "ImportDeclaration")
    (hnew : ∀ c ∈ (r.set key value).nodesAt key, c ∉ r.nodesAt key → c.kind = "ImportDeclaration") :
    d.Tidies (d.set r.label key value) where
  order := h.set ha
  label := Tree.label_setAt d.root
  uses hu := by
    rcases h.happens_of_set ha hu with hu | ⟨p, c, q, -, -, hc, hnot, hq, he⟩
    · exact hu
    · have hfields := (ha.new c hc hnot c (Tree.mem_subtree_self c)).1
      rcases hq.events_import hfields (hnew c hc hnot) he with ⟨_, _, he⟩ | ⟨_, he⟩ <;> cases he
  inside {f x} hf := by
    rintro ⟨l, initializes, hd⟩
    rcases h.happens_set ha hd with hd | ⟨p, c, q, hp, hr, hc, hnot, hq, he⟩
    · exact ⟨l, initializes, hd⟩
    · refine absurd ?_ hf
      have hbelow : Reaches p (p.below key c) := ScopeTree.reaches_of_mem_nodesAt (hr ▸ hc)
      -- the import in which the name was declared
      obtain ⟨i, hi, hik, hiq⟩ : ∃ i, Stands d.root i ∧ i.node.kind = "ImportDeclaration" ∧ Reaches i q := by
        rcases hlost p c hp hr hc hnot with hk | hk
        · exact ⟨p, hp, hr ▸ hk, hbelow.trans hq⟩
        · exact ⟨_, Reaches.trans hp hbelow, hk, hq⟩
      rcases hiq.events_import (h.fields _ hi.mem_subtree) hik he with ⟨_, _, he⟩ | ⟨_, he⟩
      · cases he
        rw [hi.outermost]
      · cases he

/-- Specifiers are taken from an import. -/
theorem tidies_specifiers (hi : i ∈ d.root.imports) {kept : List Tree} (hsub : kept.Sublist i.specifiers) :
    d.Amends i "specifiers" (.list kept) ∧ d.Tidies (d.set i.label "specifiers" (.list kept)) := by
  obtain ⟨hin, hk⟩ := h.mem_imports.mp hi
  have hs := h.fieldSort_specifiers hi
  have ha := h.amends_sublist hin hs (by rw [hk]; decide) (.inr (by decide)) (by decide) hsub
  refine ⟨ha, h.tidies_set ha (fun _ _ _ _ _ _ => .inl hk) fun c hc hnot => absurd ?_ hnot⟩
  rw [Tree.mem_nodesAt_nodes (h.fields i hin) hs]
  rw [Tree.mem_nodesAt_nodes ha.fields (by rw [ha.alike.kind]; exact hs), Tree.get_set_self (h.isObj hin)] at hc
  exact hsub.subset hc

section Body

variable {items : List Tree}

/-- Imports are taken from the statements. -/
theorem tidies_body_sublist (hsub : items.Sublist d.body) (hl : ∀ i ∈ d.body, i ∉ items → i.kind = "ImportDeclaration") :
    d.Tidies (d.set d.root.label "body" (.list items)) ∧
      ∀ n, n ∈ (d.set d.root.label "body" (.list items)).root.imports → n ∈ d.root.imports := by
  have hroot := Tree.mem_subtree_self d.root
  have hs := h.fieldSort_body
  have ha := h.amends_sublist hroot hs (by rw [h.kind]; decide) (.inl rfl) (by decide) hsub
  have hold (c : Tree) : c ∈ d.root.nodesAt "body" ↔ c ∈ d.body := Tree.mem_nodesAt_nodes (h.fields _ hroot) hs
  have hitems (c : Tree) : c ∈ (d.root.set "body" (.list items)).nodesAt "body" ↔ c ∈ items := by
    rw [Tree.mem_nodesAt_nodes ha.fields (by rw [ha.alike.kind]; exact hs), Tree.get_set_self (h.isObj hroot),
      Tree.items_list]
  have hnew (c : Tree) (hc : c ∈ (d.root.set "body" (.list items)).nodesAt "body") : c ∈ d.root.nodesAt "body" :=
    (hold c).mpr (hsub.subset ((hitems c).mp hc))
  refine ⟨h.tidies_set ha (fun p c _ _ hc hnot => .inr (hl c ((hold c).mp hc) fun hm => hnot ((hitems c).mpr hm)))
    fun c hc hnot => absurd (hnew c hc) hnot, fun n hn => ?_⟩
  refine (h.mem_imports_of_set ha (by rw [h.kind]; decide) (by rw [h.kind]; decide) hn).resolve_right ?_
  rintro ⟨-, c, hc, hnot, -⟩
  exact hnot (hnew c hc)

/-- The imports that stay are those that are left among the statements. -/
theorem mem_imports_body_sublist (hsub : items.Sublist d.body) (hl : ∀ i ∈ d.body, i ∉ items → i.kind = "ImportDeclaration")
    (hn : n ∈ d.root.imports) (hkept : n ∈ d.body → n ∈ items) :
    n ∈ (d.set d.root.label "body" (.list items)).root.imports := by
  have hroot := Tree.mem_subtree_self d.root
  have hs := h.fieldSort_body
  have ha := h.amends_sublist hroot hs (by rw [h.kind]; decide) (.inl rfl) (by decide) hsub
  refine (h.mem_imports_set ha (by rw [h.kind]; decide) (by rw [h.kind]; decide) hn).resolve_right ?_
  rintro ⟨c, hc, hnot, hnc⟩
  rw [Tree.mem_nodesAt_nodes ha.fields (by rw [ha.alike.kind]; exact hs), Tree.get_set_self (h.isObj hroot),
    Tree.items_list] at hnot
  have hb : c ∈ d.body := (Tree.mem_nodesAt_nodes (h.fields _ hroot) hs).mp hc
  obtain rfl := Tree.eq_of_mem_import (h.fields_below (h.mem_of_body hb)) (hl c hb hnot) hnc
    (by rw [(h.mem_imports.mp hn).2]; decide)
  exact hnot (hkept hb)

/-- A new import is put among the statements. -/
theorem tidies_body_insert (hc : d.New c) (hk : c.kind = "ImportDeclaration") (hperm : items.Perm (c :: d.body)) :
    d.Tidies (d.set d.root.label "body" (.list items)) ∧
      ∀ n, n ∈ (d.set d.root.label "body" (.list items)).root.imports ↔ n ∈ d.root.imports ∨ n = c := by
  have hroot := Tree.mem_subtree_self d.root
  have hs := h.fieldSort_body
  have ha := h.amends_insert hroot hs (by rw [h.kind]; decide) (.inl rfl) (by decide) hc (by rw [hk]; decide) hperm
  have hold (n : Tree) : n ∈ d.root.nodesAt "body" ↔ n ∈ d.body := Tree.mem_nodesAt_nodes (h.fields _ hroot) hs
  have hitems (n : Tree) : n ∈ (d.root.set "body" (.list items)).nodesAt "body" ↔ n = c ∨ n ∈ d.body := by
    rw [Tree.mem_nodesAt_nodes ha.fields (by rw [ha.alike.kind]; exact hs), Tree.get_set_self (h.isObj hroot),
      Tree.items_list, hperm.mem_iff, List.mem_cons]
  have hnew (n : Tree) (hn : n ∈ (d.root.set "body" (.list items)).nodesAt "body") (hnot : n ∉ d.root.nodesAt "body") :
      n = c := ((hitems n).mp hn).resolve_right fun hb => hnot ((hold n).mpr hb)
  have hin : c ∈ (d.root.set "body" (.list items)).nodesAt "body" := (hitems c).mpr (.inl rfl)
  refine ⟨h.tidies_set ha (fun p n _ _ hn hnot => absurd ((hitems n).mpr (.inr ((hold n).mp hn))) hnot)
    fun n hn hnot => hnew n hn hnot ▸ hk, fun n => ⟨fun hn => ?_, ?_⟩⟩
  · refine (h.mem_imports_of_set ha (by rw [h.kind]; decide) (by rw [h.kind]; decide) hn).imp id ?_
    rintro ⟨hnk, m, hm, hnot, hnm⟩
    obtain rfl := hnew m hm hnot
    exact Tree.eq_of_mem_import hc.fields hk hnm (by rw [hnk]; decide)
  · rintro (hn | rfl)
    · refine (h.mem_imports_set ha (by rw [h.kind]; decide) (by rw [h.kind]; decide) hn).resolve_right ?_
      rintro ⟨m, hm, hnot, -⟩
      exact hnot ((hitems m).mpr (.inr ((hold m).mp hm)))
    · refine (h.set ha).mem_imports.mpr ⟨?_, hk⟩
      have hroot' : (d.set d.root.label "body" (.list items)).root = d.root.set "body" (.list items) := h.setAt_self ha
      rw [hroot']
      exact Tree.subtree_subset_of_mem_children (Tree.mem_children_of_nodesAt ha.fields hin) (Tree.mem_subtree_self n)

end Body

end InOrder

end Document

/-! ### An import of its own for some names -/

theorem Tree.numberFields_of_labelled {fields : List (String × Tree)} (h : 0 ∉ labelsFields fields) (next : Nat) :
    numberFields next fields = (fields, next) := by
  induction fields with
  | nil => rfl
  | cons f rest ih =>
    rw [labelsFields_cons, List.mem_append, not_or] at h
    rw [numberFields_cons, number_of_labelled h.1, ih h.2]

section NewImport

variable {n : Nat} {names : List Tree} {source : Tree}

theorem Tree.labels_importDeclaration :
    ((importDeclaration names source).relabel n).labels = n :: (names.flatMap labels ++ source.labels) := by
  rw [← labels_list]
  simp [importDeclaration, node, relabel, labels, labelsFields]

/-- A new import gets labels for itself and its module if all else has some. -/
theorem Tree.number_importDeclaration {fields : List (String × Tree)} (hn : 0 ∉ names.flatMap labels)
    (hf : 0 ∉ labelsFields fields) (next : Nat) : (importDeclaration names (.obj 0 fields)).number next =
      ((importDeclaration names (.obj (next + 1) fields)).relabel next, next + 2) := by
  have hkind : (str "ImportDeclaration").number (next + 1) = (str "ImportDeclaration", next + 1) :=
    number_of_isLeaf rfl _
  have hitems : (list names).number (next + 1) = (list names, next + 1) :=
    number_of_labelled (by rwa [labels_list]) _
  have hsource : (obj 0 fields).number (next + 1) = (obj (next + 1) fields, next + 2) := by
    rw [number, numberFields_of_labelled hf]
  rw [importDeclaration, node, number]
  simp only [numberFields_cons, hkind, hitems, hsource]
  rfl

/-- The nodes of an import: itself, those of its names, and those of its module. -/
theorem Tree.mem_subtree_importDeclaration {m : Tree} (hs : source.isObj = true)
    (hm : m ∈ ((importDeclaration names source).relabel n).subtree) :
    m = (importDeclaration names source).relabel n ∨ (∃ x ∈ names, m ∈ x.subtree) ∨ m ∈ source.subtree := by
  refine (mem_subtree.mp hm).imp id ?_
  rintro ⟨c, hc, hmc⟩
  obtain ⟨hnode, key, value, hkey, -, hcv⟩ := mem_children.mp hc
  simp only [importDeclaration, node, relabel, fields_obj, List.mem_cons, Prod.mk.injEq, List.not_mem_nil, or_false] at hkey
  rcases hkey with ⟨-, rfl⟩ | ⟨-, rfl⟩ | ⟨-, rfl⟩
  · rcases hcv with rfl | hcv
    · cases hnode
    · cases hcv
  · rcases hcv with rfl | hcv
    · cases hnode
    · exact .inl ⟨c, hcv, hmc⟩
  · rcases hcv with rfl | hcv
    · exact .inr hmc
    · cases value with
      | obj => cases hcv
      | _ => cases hs

theorem Tree.hasFields_importDeclaration (hnames : ∀ x ∈ names, x.isOf isImportNameKind = true)
    (hs : source.isOf (· == "Literal") = true) : ((importDeclaration names source).relabel n).hasFields = true := by
  have hspec : schema ((importDeclaration names source).relabel n).kind =
      some [("specifiers", .nodes isImportNameKind), ("source", .node (· == "Literal"))] := rfl
  have htakes : (FieldSort.nodes isImportNameKind).takes (.list names) = true := List.all_eq_true.mpr hnames
  rw [hasFields, hspec]
  simp only [Bool.and_eq_true, List.all_cons, List.all_nil, Bool.or_eq_true]
  exact ⟨⟨⟨rfl, htakes, hs, trivial⟩, rfl⟩, .inl rfl⟩

end NewImport

namespace Document.InOrder

variable {d : Document} (h : d.InOrder) {i : Tree} (hi : i ∈ d.root.imports)

include h hi

/-- The module of an import is a literal, and nothing is below it. -/
theorem source_spec : ∃ l fields, i.get "source" = .obj l fields ∧ i.get "source" ∈ d.root.subtree ∧
    (i.get "source").isKind "Literal" = true ∧ (i.get "source").children = [] := by
  obtain ⟨hin, hk⟩ := h.mem_imports.mp hi
  have hf := h.fields i hin
  have hs : Tree.fieldSort i.kind "source" = some (.node (· == "Literal")) := by
    rw [hk]
    rfl
  have hof : (i.get "source").isOf (· == "Literal") = true := Tree.takes_of_fieldSort hf hs
  have hkind : (i.get "source").kind = "Literal" := by simpa using Tree.kinds_of_isOf hof
  have hmem := Tree.subtree_subset hin (Tree.subtree_subset_of_mem_children
    (Tree.mem_children_of_nodesAt hf ((Tree.mem_nodesAt_node hf hs).mpr rfl)) (Tree.mem_subtree_self _))
  have hobj := h.isObj hmem
  cases hv : i.get "source" with
  | obj l fields =>
    rw [hv] at hmem hkind
    refine ⟨l, fields, rfl, hmem, (Tree.isKind_iff_of_hasFields (h.fields _ hmem)).mpr hkind,
      Tree.children_atom (h.fields _ hmem) (.inr hkind)⟩
  | _ =>
    rw [hv] at hobj
    cases hobj

/-- The parts of the module of an import are no nodes. -/
theorem not_mem_labels_source {l : Nat} {fields : List (String × Tree)} (hsource : i.get "source" = .obj l fields)
    {m : Tree} (hm : m ∈ d.root.subtree) : m.label ∉ Tree.labelsFields fields := by
  obtain ⟨_, _, -, hin, -, hchildren⟩ := h.source_spec hi
  intro hl
  have hmem := Tree.mem_subtree_of_label (h.isObj (Tree.mem_subtree_self _)) (h.once m hm) hin hm (by
    rw [hsource, Tree.labels]
    exact List.mem_cons_of_mem _ hl)
  rw [Tree.subtree_eq, hchildren, List.flatMap_nil, List.mem_singleton] at hmem
  subst hmem
  have hcount := Nat.le_trans (Tree.count_labels_of_mem_records (h.mem_records hin) (i.get "source").label) (h.once _ hin)
  rw [hsource, Tree.label_obj] at hl hcount
  rw [Tree.labels, List.count_cons_self] at hcount
  have hpos := List.count_pos_iff.mpr hl
  omega

end Document.InOrder

namespace Document

/-- **Whether the names of an import are shared out**: some are for an import of their own, and others stay. -/
structure Splits (d : Document) (i : Tree) (names others : List Tree) : Prop where
  order : d.InOrder
  mem : i ∈ d.root.imports
  taken : names ⊆ i.specifiers
  stays : others ⊆ i.specifiers
  count : ∀ l, (names.flatMap Tree.labels).count l + (others.flatMap Tree.labels).count l ≤
    (i.specifiers.flatMap Tree.labels).count l
  amends : d.Amends i "specifiers" (.list others)

/-- The import of their own, from the same module: it and its module are labelled next. -/
def ownImport (d : Document) (names : List Tree) (fields : List (String × Tree)) : Tree :=
  (Tree.importDeclaration names (.obj (d.next + 1) fields)).relabel d.next

namespace Splits

variable {d : Document} {i : Tree} {names others : List Tree} (h : d.Splits i names others)

include h

theorem fieldSort : Tree.fieldSort i.kind "specifiers" = some (.nodes isImportNameKind) :=
  h.order.fieldSort_specifiers h.mem

theorem mem_subtree : i ∈ d.root.subtree := (h.order.mem_imports.mp h.mem).1

theorem name_mem {x : Tree} (hx : x ∈ names) : x ∈ d.root.subtree :=
  h.order.mem_items h.mem_subtree h.fieldSort (h.taken hx)

/-- Labels of the old import do not stay twice. -/
theorem count_left (k : Nat) : (d.set i.label "specifiers" (.list others)).root.labels.count k +
    (i.specifiers.flatMap Tree.labels).count k = d.root.labels.count k + (others.flatMap Tree.labels).count k := by
  have hset := h.order.count_set h.amends k
  rwa [Tree.labels_get_nodes (h.order.fields i h.mem_subtree) h.fieldSort, Tree.labels_list] at hset

/-- **A node is left, or it goes to the new import.** -/
theorem not_mem_names {m : Tree} (hm : m ∈ d.root.subtree)
    (hleft : m.label ∈ (d.set i.label "specifiers" (.list others)).root.labels) :
    m.label ∉ names.flatMap Tree.labels := fun hmn => by
  have hset := h.count_left m.label
  have hparts := h.count m.label
  have honce := h.order.once m hm
  have hpos := List.count_pos_iff.mpr hleft
  have hpos' := List.count_pos_iff.mpr hmn
  omega

/-- The nodes that are left keep their labels. -/
theorem exists_of_left {n : Tree} (hn : n ∈ (d.set i.label "specifiers" (.list others)).root.subtree) :
    ∃ m ∈ d.root.subtree, m.label = n.label := by
  have hiin := h.mem_subtree
  rcases h.order.exists_of_mem_subtree_set h.amends hn with ⟨m, hm, rfl⟩ | ⟨c, hc, hnot, -⟩
  · exact ⟨m, hm, (Tree.label_setAt m).symm⟩
  · rw [Tree.mem_nodesAt_nodes h.amends.fields (by rw [h.amends.alike.kind]; exact h.fieldSort),
      Tree.get_set_self (h.order.isObj hiin)] at hc
    rw [Tree.mem_nodesAt_nodes (h.order.fields i hiin) h.fieldSort] at hnot
    exact absurd (h.stays hc) hnot

theorem lt_of_left {l : Nat} (hl : l ∈ (d.set i.label "specifiers" (.list others)).root.labels) : l < d.next :=
  ((h.order.set h.amends).given l hl).2

section Own

variable {l : Nat} {fields : List (String × Tree)} (hsource : i.get "source" = .obj l fields)

include hsource

theorem given {k : Nat} (hk : k ∈ names.flatMap Tree.labels ∨ k ∈ Tree.labelsFields fields) : 0 < k ∧ k < d.next := by
  rcases hk with hk | hk
  · obtain ⟨x, hx, hk⟩ := List.mem_flatMap.mp hk
    exact h.order.given k (Tree.labels_subset_of_mem_records (h.order.mem_records (h.name_mem hx)) hk)
  · obtain ⟨_, _, -, hin, -⟩ := h.order.source_spec h.mem
    refine h.order.given k (Tree.labels_subset_of_mem_records (h.order.mem_records hin) ?_)
    rw [hsource, Tree.labels]
    exact List.mem_cons_of_mem _ hk

theorem fresh {k : Nat} (hk : d.next ≤ k) : k ∉ names.flatMap Tree.labels ∧ k ∉ Tree.labelsFields fields :=
  ⟨fun hm => by have := (h.given hsource (.inl hm)).2; omega,
    fun hm => by have := (h.given hsource (.inr hm)).2; omega⟩

omit h hsource in
theorem labels_ownImport : (d.ownImport names fields).labels =
    d.next :: (names.flatMap Tree.labels ++ (d.next + 1) :: Tree.labelsFields fields) := by
  rw [ownImport, Tree.labels_importDeclaration, Tree.labels]

/-- The nodes of the new import: itself, those of its names, and its module. -/
theorem mem_subtree_ownImport {m : Tree} (hm : m ∈ (d.ownImport names fields).subtree) :
    m = d.ownImport names fields ∨ (∃ x ∈ names, m ∈ x.subtree) ∨ m = .obj (d.next + 1) fields := by
  refine (Tree.mem_subtree_importDeclaration rfl hm).imp id (Or.imp id fun hm => ?_)
  obtain ⟨_, _, -, -, -, hchildren⟩ := h.order.source_spec h.mem
  rw [hsource] at hchildren
  have hnone : (Tree.obj (d.next + 1) fields).children = [] := hchildren
  rwa [Tree.subtree_eq, hnone, List.flatMap_nil, List.mem_singleton] at hm

/-- The labels of the new import are given out. -/
theorem given_ownImport {k : Nat} (hk : k ∈ (d.ownImport names fields).labels) : 0 < k ∧ k < d.next + 2 := by
  have hroot := h.order.given _ (h.order.label_mem (Tree.mem_subtree_self _))
  rw [labels_ownImport] at hk
  simp only [List.mem_cons, List.mem_append] at hk
  rcases hk with rfl | hk | rfl | hk
  · exact ⟨Nat.lt_trans hroot.1 hroot.2, by omega⟩
  · have hgiven := h.given hsource (.inl hk)
    omega
  · omega
  · have hgiven := h.given hsource (.inr hk)
    omega

/-- What is left shares no label with the new import. -/
theorem apart_ownImport {m : Tree} (hm : m ∈ (d.set i.label "specifiers" (.list others)).root.subtree) :
    m.label ∉ (d.ownImport names fields).labels := by
  obtain ⟨u, hu, hul⟩ := h.exists_of_left hm
  have hleft := (h.order.set h.amends).label_mem hm
  have hlt := h.lt_of_left hleft
  rw [labels_ownImport]
  simp only [List.mem_cons, List.mem_append, not_or]
  refine ⟨by omega, ?_, by omega, ?_⟩
  · rw [← hul] at hleft ⊢
    exact h.not_mem_names hu hleft
  · rw [← hul]
    exact h.order.not_mem_labels_source h.mem hsource hu

/-- The nodes of the new import have their fields. -/
theorem hasFields_ownImport {m : Tree} (hm : m ∈ (d.ownImport names fields).subtree) : m.hasFields = true := by
  obtain ⟨_, _, -, hin, hkind, -⟩ := h.order.source_spec h.mem
  have hliteral := h.order.fields _ hin
  rcases h.mem_subtree_ownImport hsource hm with rfl | ⟨x, hx, hm⟩ | rfl
  · refine Tree.hasFields_importDeclaration (fun x hx => ?_) ?_
    · obtain ⟨items, hlist, hof⟩ := Tree.exists_list_of_nodes (h.order.fields i h.mem_subtree) h.fieldSort
      have hx' := h.taken hx
      rw [Tree.specifiers, hlist] at hx'
      exact hof x hx'
    · have hof : (i.get "source").isOf (· == "Literal") = true :=
        Tree.isOf_of_hasFields hliteral (by rw [(Tree.isKind_iff_of_hasFields hliteral).mp hkind]; rfl)
      rw [hsource] at hof
      exact hof
  · exact h.order.fields m (Tree.subtree_subset (h.name_mem hx) hm)
  · rw [hsource] at hliteral
    exact hliteral

/-- Each label stands once in the new import, and in no node that is left. -/
theorem once_ownImport {m : Tree} (hm : m ∈ (d.ownImport names fields).subtree) :
    m.label ∉ (d.set i.label "specifiers" (.list others)).root.labels ∧
      (d.ownImport names fields).labels.count m.label ≤ 1 := by
  have hroot {k : Nat} (hk : d.next ≤ k) : k ∉ (d.set i.label "specifiers" (.list others)).root.labels :=
    fun hm => by have := h.lt_of_left hm; omega
  rw [labels_ownImport]
  rcases h.mem_subtree_ownImport hsource hm with rfl | ⟨x, hx, hm⟩ | rfl
  · have hfresh := h.fresh hsource (Nat.le_refl _)
    refine ⟨hroot (Nat.le_refl _), ?_⟩
    show List.count d.next _ ≤ 1
    rw [List.count_cons_self, List.count_append, List.count_cons_of_ne (by omega),
      List.count_eq_zero_of_not_mem hfresh.1, List.count_eq_zero_of_not_mem hfresh.2]
  · have hin := Tree.subtree_subset (h.name_mem hx) hm
    have hlabel := (h.order.given _ (h.order.label_mem hin)).2
    refine ⟨fun hleft => h.not_mem_names hin hleft ?_, ?_⟩
    · exact List.mem_flatMap.mpr ⟨x, hx, Tree.mem_labels_of_mem_subtree (h.order.isObj (h.name_mem hx)) hm⟩
    · have hparts := h.count m.label
      have hle := h.order.count_items_le h.mem_subtree h.fieldSort m.label
      have honce := h.order.once m hin
      rw [Tree.specifiers] at hparts
      rw [List.count_cons_of_ne (by omega), List.count_append, List.count_cons_of_ne (by omega),
        List.count_eq_zero_of_not_mem (h.order.not_mem_labels_source h.mem hsource hin)]
      omega
  · have hfresh := h.fresh hsource (Nat.le_succ d.next)
    refine ⟨hroot (Nat.le_succ _), ?_⟩
    show List.count (d.next + 1) _ ≤ 1
    rw [List.count_cons_of_ne (by omega), List.count_append, List.count_cons_self,
      List.count_eq_zero_of_not_mem hfresh.1, List.count_eq_zero_of_not_mem hfresh.2]

end Own

/-- **An import of its own for some names**, next to what else is imported from a module. -/
theorem new_import {d' : Document} (hd : d' = d.set i.label "specifiers" (.list others)) :
    ∃ N, d'.adopt (Tree.importDeclaration names ((i.get "source").relabel 0)) = (N, { d' with next := d.next + 2 }) ∧
      New { d' with next := d.next + 2 } N ∧ N.kind = "ImportDeclaration" ∧ N.specifiers = names ∧
      (N.get "source").get "value" = (i.get "source").get "value" := by
  subst hd
  obtain ⟨l, fields, hsource, -⟩ := h.order.source_spec h.mem
  have hnumber := Tree.number_importDeclaration
    (fun hz : 0 ∈ names.flatMap Tree.labels => absurd (h.given hsource (.inl hz)).1 (Nat.lt_irrefl 0))
    (fun hz : 0 ∈ Tree.labelsFields fields => absurd (h.given hsource (.inr hz)).1 (Nat.lt_irrefl 0)) d.next
  refine ⟨d.ownImport names fields, ?_, ⟨fun k => h.given_ownImport hsource, fun m => h.apart_ownImport hsource,
    fun m => h.hasFields_ownImport hsource, fun m => h.once_ownImport hsource⟩, rfl, rfl, ?_⟩
  · rw [hsource]
    exact congrArg (fun x => (x.1, { d.set i.label "specifiers" (.list others) with next := x.2 })) hnumber
  · rw [hsource]
    rfl

end Splits

end Document

end Deminify
