import Deminify.Proofs.Scope.Declarers

/-!
# Statements taken out of a program

A program can be made of statements of another (`Deminify.Excerpts`). The nodes are the same, and so are
the scopes that they open, but the scopes that were around the statements are gone: in their place there is
one, the scope of the new program. `Deminify.Excerpt` says what becomes of scopes, roles and sites, and the
one fact that carries everything is that this commutes with going from a node to its children
(`Deminify.Excerpt.site_below`). So what happens in the excerpt is what happens in the program at the nodes
that are kept (`Deminify.Excerpts.happens_iff`).

For this the scopes around a site of the excerpt must be its own first and those that are gone after them
(`Deminify.Excerpt.Cuts`). They are, since a scope is opened by a node that what stands in it is a part of
(`Deminify.Rooted`), and no statement is a part of another.

What a name means in the excerpt follows by the scopes around it, from the inside out: if it belongs to one
that is kept, it has the declarations that it had (`Deminify.Excerpts.declaredBy_iff_of_has`); if not, it
has **all declarations of that name that are kept, whichever of the scopes that are gone received them**
(`Deminify.Excerpts.declaredBy_iff_of_not`).
-/

namespace Deminify

/-! ### Frames of an excerpt -/

theorem mem_outermost {frames : List Frame} (h : frames ≠ []) : outermost frames ∈ frames := by
  rw [outermost, List.getLastD_eq_getLast?, List.getLast?_eq_some_getLast h]
  exact List.getLast_mem h

/-- The statements of a program that make up another, by the labels of their nodes, and the scope of
that other program. -/
structure Excerpt where
  kept : List Nat
  home : Frame

namespace Excerpt

variable (x : Excerpt)

/-- Whether a scope is one of the excerpt. -/
def has (f : Frame) : Bool := decide (f.node ∈ x.kept)

/-- What becomes of a scope: those around the statements are one. -/
def frame (f : Frame) : Frame := if x.has f then f else x.home

/-- What becomes of the scopes around a site. -/
def around (frames : List Frame) : List Frame := frames.filter x.has ++ [x.home]

/-- What becomes of a role. -/
def role : NameRole → NameRole
  | .binds home initializes => .binds (x.frame home) initializes
  | .declarator home => .declarator (x.frame home)
  | .names home => .names (x.frame home)
  | other => other

@[simp] theorem role_binds {home : Frame} {initializes : Bool} :
    x.role (.binds home initializes) = .binds (x.frame home) initializes := rfl

@[simp] theorem role_declarator {home : Frame} : x.role (.declarator home) = .declarator (x.frame home) := rfl

@[simp] theorem role_names {home : Frame} : x.role (.names home) = .names (x.frame home) := rfl

@[simp] theorem role_reads : x.role .reads = .reads := rfl

@[simp] theorem role_writes : x.role .writes = .writes := rfl

@[simp] theorem role_body : x.role .body = .body := rfl

@[simp] theorem role_imported : x.role .imported = .imported := rfl

@[simp] theorem role_exported : x.role .exported = .exported := rfl

@[simp] theorem role_tag : x.role .tag = .tag := rfl

@[simp] theorem role_tagRoot : x.role .tagRoot = .tagRoot := rfl

@[simp] theorem role_inert : x.role .inert = .inert := rfl

/-- What becomes of a site. -/
def site (p : Site) : Site := ⟨p.node, x.role p.role, x.around p.frames⟩

/-- What becomes of what happens at a site. -/
def event : Event → Event
  | .use label name writes frames => .use label name writes (x.around frames)
  | .declares label name home initializes => .declares label name (x.frame home) initializes
  | .opens frame => .opens frame

/-- **Scopes around a site of the excerpt**: its own, and then those that are not. -/
inductive Cuts : List Frame → Prop
  | outer {f : Frame} {frames : List Frame} (h : ∀ g ∈ f :: frames, x.has g = false) : Cuts (f :: frames)
  | inner {f : Frame} {frames : List Frame} (h : x.has f = true) (hf : Cuts frames) : Cuts (f :: frames)

section Frames

variable {x} {f : Frame} {frames : List Frame}

theorem frame_of_has (h : x.has f = true) : x.frame f = f := if_pos h

theorem frame_of_not (h : x.has f = false) : x.frame f = x.home := by
  rw [frame, h, if_neg Bool.false_ne_true]

theorem around_cons (h : x.has f = true) : x.around (f :: frames) = f :: x.around frames := by
  rw [around, List.filter_cons_of_pos h, List.cons_append, around]

theorem around_of_not (h : ∀ g ∈ frames, x.has g = false) : x.around frames = [x.home] := by
  rw [around, List.filter_eq_nil_iff.mpr fun g hg => by simp [h g hg], List.nil_append]

theorem innermost_around (h : x.Cuts frames) : innermost (x.around frames) = x.frame (innermost frames) := by
  cases h with
  | outer h =>
    rw [around_of_not h]
    exact (frame_of_not (h _ List.mem_cons_self)).symm
  | inner h hf =>
    rw [around_cons h]
    exact (frame_of_has h).symm

theorem outermost_cons {g : Frame} : outermost (f :: g :: frames) = outermost (g :: frames) := by
  rw [outermost, outermost, List.getLastD_cons]
  rfl

theorem Cuts.ne_nil (h : x.Cuts frames) : frames ≠ [] := by
  cases h <;> exact List.cons_ne_nil _ _

/-- The outermost scope around a site of the excerpt is not its own. -/
theorem has_outermost (h : x.Cuts frames) : x.has (outermost frames) = false := by
  induction h with
  | outer h => exact h _ (mem_outermost (List.cons_ne_nil _ _))
  | inner h hf ih =>
    obtain ⟨g, rest, rfl⟩ := List.exists_cons_of_ne_nil hf.ne_nil
    rwa [outermost_cons]

theorem outermost_around (h : x.Cuts frames) : outermost (x.around frames) = x.frame (outermost frames) := by
  rw [frame_of_not (has_outermost h), outermost, around, List.getLastD_concat]

theorem nearestFunction_of_receives (h : ScopeTree.receivesVars f.kind = true) :
    nearestFunction (f :: frames) = f := by
  simp [nearestFunction, h]

theorem nearestFunction_of_not {g : Frame} (h : ScopeTree.receivesVars f.kind = false) :
    nearestFunction (f :: g :: frames) = nearestFunction (g :: frames) := by
  simp [nearestFunction, outermost_cons, h]

theorem nearestFunction_around (hk : ScopeTree.receivesVars x.home.kind = true) (h : x.Cuts frames) :
    nearestFunction (x.around frames) = x.frame (nearestFunction frames) := by
  induction h with
  | @outer f frames h =>
    have hout : x.has (nearestFunction (f :: frames)) = false := by
      rw [nearestFunction]
      cases hfind : (f :: frames).find? fun frame => ScopeTree.receivesVars frame.kind with
      | none => exact has_outermost (.outer h)
      | some g => exact h g (List.mem_of_find?_eq_some hfind)
    rw [frame_of_not hout, around_of_not h, nearestFunction_of_receives hk]
  | @inner f frames h hf ih =>
    rw [around_cons h]
    cases hr : ScopeTree.receivesVars f.kind with
    | true =>
      rw [nearestFunction_of_receives hr, nearestFunction_of_receives hr, frame_of_has h]
    | false =>
      obtain ⟨g, rest, rfl⟩ := List.exists_cons_of_ne_nil hf.ne_nil
      obtain ⟨g', rest', he⟩ := List.exists_cons_of_ne_nil (l := x.around (g :: rest)) (by simp [around])
      rw [nearestFunction_of_not hr, ← ih, he, nearestFunction_of_not hr]

theorem homeFrame_around (hk : ScopeTree.receivesVars x.home.kind = true) (h : x.Cuts frames)
    (hoisted : Bool) : homeFrame hoisted (x.around frames) = x.frame (homeFrame hoisted frames) := by
  cases hoisted with
  | true => exact nearestFunction_around hk h
  | false => exact innermost_around h

end Frames

/-! ### Sites of an excerpt -/

section Sites

variable {x} {p : Site}

theorem role_eq_body : x.role p.role = .body ↔ p.role = .body := by
  cases p.role <;> simp [role]

theorem openedKinds_site : (x.site p).openedKinds = p.openedKinds := by
  obtain ⟨t, r, frames⟩ := p
  have hbody : (if x.role r = .body then [] else ["block"]) = if r = .body then [] else ["block"] :=
    if_congr (role_eq_body (p := ⟨t, r, frames⟩)) rfl rfl
  show Site.openedKinds ⟨t, x.role r, x.around frames⟩ = _
  unfold Site.openedKinds
  dsimp only
  rw [hbody]

theorem opened_site : (x.site p).opened = p.opened := by
  rw [Site.opened, Site.opened, openedKinds_site]
  rfl

variable (hp : p.node.label ∈ x.kept)
include hp

theorem has_label (kind : String) : x.has ⟨p.node.label, kind⟩ = true := decide_eq_true hp

theorem has_of_mem_opened {f : Frame} (hf : f ∈ p.opened) : x.has f = true := by
  obtain ⟨kind, -, rfl⟩ := List.mem_map.mp hf
  exact has_label hp kind

theorem around_opened (frames : List Frame) : x.around (p.opened ++ frames) = p.opened ++ x.around frames := by
  rw [around, List.filter_append, List.filter_eq_self.mpr fun f hf => has_of_mem_opened hp hf,
    List.append_assoc, around]

theorem framesAt_site (key : String) : (x.site p).framesAt key = x.around (p.framesAt key) := by
  have hinside : (x.site p).isInside key = p.isInside key := rfl
  rw [Site.framesAt, Site.framesAt, hinside, opened_site]
  split
  · exact (around_opened hp p.frames).symm
  · rfl

variable (hk : ScopeTree.receivesVars x.home.kind = true) (hc : x.Cuts p.frames)
include hk hc

theorem roleByKind_site (key : String) : (x.site p).roleByKind key = x.role (p.roleByKind key) := by
  obtain ⟨t, r, frames⟩ := p
  have hhome := homeFrame_around hk hc
  have hinner := innermost_around hc
  have hlabel (kind : String) : x.frame ⟨t.label, kind⟩ = ⟨t.label, kind⟩ := frame_of_has (has_label hp kind)
  have hwrites : (x.role r).orWrites = x.role r.orWrites := by cases r <;> rfl
  have hreads : (x.role r).orReads = x.role r.orReads := by cases r <;> rfl
  show Site.roleByKind ⟨t, x.role r, x.around frames⟩ key = _
  unfold Site.roleByKind
  dsimp only
  split
  case h_2 => cases r <;> cases key == "id" <;> rfl
  all_goals simp only [apply_ite x.role, apply_ite x.frame, hwrites, hreads, hhome, hinner,
    hlabel, role_binds, role_declarator, role_names, role_reads, role_writes, role_body, role_imported,
    role_exported, role_tag, role_inert]

theorem roleAt_site (key : String) : (x.site p).roleAt key = x.role (p.roleAt key) := by
  have hkind := roleByKind_site hp hk hc key
  have houtermost := outermost_around hc
  obtain ⟨t, r, frames⟩ := p
  show Site.roleAt ⟨t, x.role r, x.around frames⟩ key = _
  unfold Site.roleAt
  cases r with
  | imported => simp only [role_imported, houtermost, apply_ite x.role, role_names, role_inert]
  | exported => simp only [role_exported, apply_ite x.role, role_reads, role_inert]
  | tag => simp only [role_tag, apply_ite x.role, role_tagRoot, role_inert]
  | tagRoot => simp only [apply_ite x.role, role_tagRoot, role_inert]
  | names home => rfl
  | inert => rfl
  | _ => exact hkind

/-- **The excerpt commutes with going below.** -/
theorem site_below (key : String) (child : Tree) : (x.site p).below key child = x.site (p.below key child) := by
  show (⟨child, (x.site p).roleAt key, (x.site p).framesAt key⟩ : Site) = _
  rw [roleAt_site hp hk hc, framesAt_site hp]
  rfl

omit hk in
theorem cuts_framesAt (key : String) : x.Cuts (p.framesAt key) := by
  have hopened {opened : List Frame} (h : ∀ f ∈ opened, x.has f = true) : x.Cuts (opened ++ p.frames) := by
    induction opened with
    | nil => exact hc
    | cons f rest ih =>
      exact .inner (h f List.mem_cons_self) (ih fun g hg => h g (List.mem_cons_of_mem _ hg))
  rw [Site.framesAt]
  split
  · exact hopened fun f hf => has_of_mem_opened hp hf
  · exact hc

omit hk hc in
theorem events_site : (x.site p).events = p.events.map x.event := by
  have hopened : ((x.site p).opened.map Event.opens) = (p.opened.map Event.opens).map x.event := by
    rw [opened_site, List.map_map]
    rfl
  obtain ⟨t, r, frames⟩ := p
  have hinert : x.role r = .inert ↔ r = .inert := by cases r <;> simp
  show Site.events ⟨t, x.role r, x.around frames⟩ = _
  unfold Site.events
  dsimp only
  split
  · cases r <;> rfl
  · cases r with
    | tag =>
      simp only [role_tag, apply_ite (List.map x.event)]
      rfl
    | tagRoot =>
      simp only [role_tagRoot, apply_ite (List.map x.event)]
      rfl
    | _ => rfl
  · by_cases h : r = .inert
    · rw [if_pos h, if_pos (hinert.mpr h)]
      rfl
    · rw [if_neg h, if_neg (mt hinert.mp h)]
      exact hopened

end Sites

end Excerpt

/-! ### What scopes belong to -/

/-- A name belongs to one of the scopes around it. -/
theorem Resolves.mem {program : Tree} {name : String} {frames : List Frame} {f : Frame}
    (h : Resolves program name frames (some f)) : f ∈ frames := by
  generalize hfound : some f = found at h
  induction h with
  | none => cases hfound
  | here hd =>
    cases hfound
    exact List.mem_cons_self
  | outer _ _ ih => exact List.mem_cons_of_mem _ (ih hfound)

theorem resolves_outer {program : Tree} {name : String} {frame : Frame} {frames : List Frame}
    {found : Option Frame} (hd : ¬DeclaredIn program frame name) :
    Resolves program name (frame :: frames) found ↔ Resolves program name frames found := by
  constructor
  · intro h
    cases h with
    | here h => exact absurd h hd
    | outer _ h => exact h
  · exact .outer hd

/-- The scope that a role puts names into. -/
def NameRole.home? : NameRole → Option Frame
  | .binds home _ => some home
  | .declarator home => some home
  | .names home => some home
  | _ => none

/-- **Whether scopes belong to what is around a site**: those around it and the one that its role puts
names into are opened by nodes that the site is a part of. -/
structure Rooted (program : Tree) (p : Site) : Prop where
  node : p.node ∈ program.subtree
  frames : p.frames ≠ []
  opener : ∀ f, f ∈ p.frames ∨ p.role.home? = some f →
    ∃ n ∈ program.subtree, n.label = f.node ∧ p.node ∈ n.subtree

theorem Site.frames_of_use {p : Site} {l : Nat} {name : String} {writes : Bool} {frames : List Frame}
    (h : .use l name writes frames ∈ p.events) : frames = p.frames := by
  unfold Site.events at h
  dsimp only at h
  repeat' split at h
  all_goals simp_all

theorem Site.home?_of_declares {p : Site} {l : Nat} {name : String} {home : Frame} {initializes : Bool}
    (h : .declares l name home initializes ∈ p.events) : p.role.home? = some home := by
  unfold Site.events at h
  dsimp only at h
  repeat' split at h
  all_goals simp_all [NameRole.home?]

theorem mem_homeFrame {frames : List Frame} (h : frames ≠ []) (hoisted : Bool) :
    homeFrame hoisted frames ∈ frames := by
  cases hoisted with
  | false =>
    obtain ⟨f, rest, rfl⟩ := List.exists_cons_of_ne_nil h
    exact List.mem_cons_self
  | true =>
    show nearestFunction frames ∈ frames
    rw [nearestFunction]
    cases hfind : frames.find? fun frame => ScopeTree.receivesVars frame.kind with
    | none => exact mem_outermost h
    | some g => exact List.mem_of_find?_eq_some hfind

theorem home?_orWrites {role : NameRole} {f : Frame} (h : role.orWrites.home? = some f) :
    role.home? = some f := by
  cases role <;> first | exact h | cases h

theorem home?_orReads {role : NameRole} {f : Frame} (h : role.orReads.home? = some f) :
    role.home? = some f := by
  cases role <;> first | exact h | cases h

theorem home?_roleByKind {p : Site} (hp : p.frames ≠ []) {key : String} {f : Frame}
    (h : (p.roleByKind key).home? = some f) :
    p.role.home? = some f ∨ f ∈ p.frames ∨ f.node = p.node.label := by
  have hhome := mem_homeFrame hp
  have hinner : innermost p.frames ∈ p.frames := hhome false
  unfold Site.roleByKind at h
  dsimp only at h
  split at h
  -- a declaration, and the names that patterns and properties pass on
  case h_1 =>
    cases h
    exact .inr (.inl (hhome _))
  case h_2 =>
    split at h
    · split at h
      · rename_i hrole
        cases h
        exact .inl (by rw [hrole]; rfl)
      · cases h
    · cases h
  all_goals
    repeat' split at h
    all_goals first
      | exact .inl (home?_orWrites h)
      | exact .inl (home?_orReads h)
      | (cases h; exact .inr (.inl hinner))
      | (cases h; exact .inr (.inr rfl))
      | cases h

/-- Where a child puts names: where its parent does, in a scope around it, or in one that the parent
opens. -/
theorem home?_roleAt {p : Site} (hp : p.frames ≠ []) {key : String} {f : Frame}
    (h : (p.roleAt key).home? = some f) : p.role.home? = some f ∨ f ∈ p.frames ∨ f.node = p.node.label := by
  have houter := mem_outermost hp
  have hkind := @home?_roleByKind p hp key f
  unfold Site.roleAt at h
  split at h
  case h_1 | h_2 => cases h
  case h_3 =>
    split at h
    · cases h
      exact .inr (.inl houter)
    · cases h
  case h_4 | h_5 | h_6 => split at h <;> cases h
  case h_7 => exact hkind h

theorem Rooted.below {program : Tree} {p : Site} (h : Rooted program p) {slot : Slot} {child : Tree}
    (hc : (slot, child) ∈ p.node.slots) : Rooted program (p.below slot.key child) := by
  have hchild := Tree.mem_children_of_mem_slots hc
  have hdown : child ∈ p.node.subtree := Tree.mem_subtree.mpr (.inr ⟨child, hchild, Tree.mem_subtree_self _⟩)
  -- what is around the parent is around the child, and the parent itself is
  have hself {f : Frame} (hf : f.node = p.node.label) :
      ∃ n ∈ program.subtree, n.label = f.node ∧ child ∈ n.subtree := ⟨p.node, h.node, hf.symm, hdown⟩
  have hup {f : Frame} (hf : f ∈ p.frames ∨ p.role.home? = some f) :
      ∃ n ∈ program.subtree, n.label = f.node ∧ child ∈ n.subtree := by
    obtain ⟨n, hn, hl, hm⟩ := h.opener f hf
    exact ⟨n, hn, hl, Tree.subtree_subset hm hdown⟩
  refine ⟨Tree.subtree_subset h.node hdown, ?_, fun f hf => ?_⟩
  · show p.framesAt slot.key ≠ []
    rw [Site.framesAt]
    split
    · exact List.append_ne_nil_of_right_ne_nil _ h.frames
    · exact h.frames
  · rcases hf with hf | hf
    · have hf : f ∈ p.framesAt slot.key := hf
      rw [Site.framesAt] at hf
      split at hf
      · rcases List.mem_append.mp hf with hf | hf
        · obtain ⟨kind, -, rfl⟩ := List.mem_map.mp hf
          exact hself rfl
        · exact hup (.inl hf)
      · exact hup (.inl hf)
    · rcases home?_roleAt h.frames hf with hf | hf | hf
      · exact hup (.inr hf)
      · exact hup (.inl hf)
      · exact hself hf

theorem Reaches.rooted {program : Tree} {p q : Site} (h : Reaches p q) (hp : Rooted program p) :
    Rooted program q := by
  induction h with
  | refl p => exact hp
  | step hx _ ih => exact ih (hp.below hx)

theorem Stands.rooted {program : Tree} {p : Site} (h : Stands program p) : Rooted program p := by
  refine Reaches.rooted h ⟨Tree.mem_subtree_self _, List.cons_ne_nil _ _, fun f hf => ?_⟩
  rcases hf with hf | hf
  · cases List.mem_singleton.mp hf
    exact ⟨program, Tree.mem_subtree_self _, rfl, Tree.mem_subtree_self _⟩
  · cases hf

/-! ### A program made of statements of another -/

/-- The excerpt that a program is, by its statements and its scope. -/
def Tree.excerpt (entry : Tree) : Excerpt where
  kept := entry.children.flatMap fun s => s.subtree.map Tree.label
  home := ⟨entry.label, "program"⟩

/-- **Whether a program is made of statements of another**, each of which is read where it stands
there. -/
structure Excerpts (program entry : Tree) : Prop where
  labelled : program.Labelled
  is : entry.Is (· == "Program")
  own : entry.Labelled
  stands : ∀ s ∈ entry.children, ∃ p slot, Stands program p ∧ (slot, s) ∈ p.node.slots ∧
    p.roleAt slot.key = .reads

theorem Tree.Labelled.eq_of_label {t n m : Tree} (h : t.Labelled) (hn : n ∈ t.subtree) (hm : m ∈ t.subtree)
    (he : n.label = m.label) : n = m := List.inj_on_of_nodup_map h hn hm he

theorem mem_kept {entry : Tree} {l : Nat} :
    l ∈ entry.excerpt.kept ↔ ∃ s ∈ entry.children, ∃ n ∈ s.subtree, n.label = l := by
  simp [Tree.excerpt]

namespace Excerpts

variable {program entry : Tree} (h : Excerpts program entry)
include h

theorem statement_mem {s : Tree} (hs : s ∈ entry.children) : s ∈ program.subtree := by
  obtain ⟨p, slot, hp, hslot, -⟩ := h.stands s hs
  exact Tree.subtree_subset hp.mem_subtree
    (Tree.mem_subtree.mpr (.inr ⟨s, Tree.mem_children_of_mem_slots hslot, Tree.mem_subtree_self _⟩))

/-- A node of the program that the excerpt keeps is part of one of its statements. -/
theorem exists_statement {n : Tree} (hn : n ∈ program.subtree) (hl : n.label ∈ entry.excerpt.kept) :
    ∃ s ∈ entry.children, n ∈ s.subtree := by
  obtain ⟨s, hs, m, hm, he⟩ := mem_kept.mp hl
  obtain rfl := h.labelled.eq_of_label hn (Tree.subtree_subset (h.statement_mem hs) hm) he.symm
  exact ⟨s, hs, hm⟩

theorem nodup_kept : entry.excerpt.kept.Nodup ∧ entry.label ∉ entry.excerpt.kept := by
  have hown := h.own
  rw [Tree.Labelled, Tree.subtree_eq, List.map_cons, List.nodup_cons, List.map_flatMap] at hown
  exact ⟨hown.2, hown.1⟩

/-- Two statements of the excerpt that share a node are one. -/
theorem statement_eq {s s' n : Tree} (hs : s ∈ entry.children) (hs' : s' ∈ entry.children)
    (hn : n ∈ s.subtree) (hn' : n ∈ s'.subtree) : s = s' := by
  obtain ⟨hnodup, -⟩ := h.nodup_kept
  by_contra hne
  have hsymm : Std.Symm (Function.onFun List.Disjoint fun s : Tree => s.subtree.map Tree.label) :=
    ⟨fun _ _ hd => hd.symm⟩
  have hd := (List.nodup_flatMap.mp hnodup).2.forall hs hs' hne
  exact hd (List.mem_map_of_mem hn) (List.mem_map_of_mem hn')

/-- The scopes around a statement are not of the excerpt. -/
theorem cuts_statement {s : Tree} (hs : s ∈ entry.children) {p : Site} {slot : Slot} (hp : Stands program p)
    (hslot : (slot, s) ∈ p.node.slots) : ∀ f ∈ p.framesAt slot.key, entry.excerpt.has f = false := by
  intro f hf
  have hchild := Tree.mem_children_of_mem_slots hslot
  -- the scope is opened by a node that the parent of the statement is a part of
  obtain ⟨n, hn, hl, hm⟩ : ∃ n ∈ program.subtree, n.label = f.node ∧ p.node ∈ n.subtree := by
    rw [Site.framesAt] at hf
    split at hf
    · rcases List.mem_append.mp hf with hf | hf
      · obtain ⟨kind, -, rfl⟩ := List.mem_map.mp hf
        exact ⟨p.node, hp.rooted.node, rfl, Tree.mem_subtree_self _⟩
      · exact hp.rooted.opener f (.inl hf)
    · exact hp.rooted.opener f (.inl hf)
  refine decide_eq_false fun hkept => ?_
  obtain ⟨s', hs', hn'⟩ := h.exists_statement hn (hl ▸ hkept)
  have hparent : p.node ∈ s'.subtree := Tree.subtree_subset hn' hm
  have hbelow : s ∈ s'.subtree :=
    Tree.subtree_subset hparent (Tree.subtree_subset_of_mem_children hchild (Tree.mem_subtree_self _))
  obtain rfl := h.statement_eq hs hs' (Tree.mem_subtree_self _) hbelow
  -- but then the statement would be a part of itself
  have hlt := Tree.height_lt_of_mem_children hchild
  rcases Tree.mem_subtree.mp hparent with he | ⟨c, hc, hm⟩
  · rw [he] at hlt
    exact Nat.lt_irrefl _ hlt
  · have hlt' := Tree.height_lt_of_mem_below (List.mem_flatMap.mpr ⟨c, hc, hm⟩)
    omega

omit h in
theorem receivesVars_home : ScopeTree.receivesVars entry.excerpt.home.kind = true := rfl

/-- **Where a statement stands in the program and where it stands in the excerpt.** -/
theorem exists_site {s : Tree} (hs : s ∈ entry.children) : ∃ p, Stands program p ∧ p.node = s ∧
    entry.excerpt.Cuts p.frames ∧ Stands entry (entry.excerpt.site p) := by
  obtain ⟨p, slot, hp, hslot, hrole⟩ := h.stands s hs
  have hout := h.cuts_statement hs hp hslot
  obtain ⟨⟨slot', child⟩, hslot', rfl⟩ := List.mem_map.mp hs
  have hrooted := hp.rooted.below hslot
  refine ⟨p.below slot.key child, Reaches.trans hp (.step hslot (.refl _)), rfl, ?_, ?_⟩
  · obtain ⟨f, rest, he⟩ := List.exists_cons_of_ne_nil hrooted.frames
    rw [he]
    exact .outer (he ▸ hout)
  · -- in the excerpt, too, the statement is read, and there is one scope around it
    have hframes : entry.excerpt.around (p.framesAt slot.key) = (Site.root entry).framesAt slot'.key := by
      rw [Excerpt.around_of_not hout, Site.framesAt, Site.opened, ScopeTree.openedKinds_root h.is]
      simp [Site.root, Tree.excerpt]
    have he : entry.excerpt.site (p.below slot.key child) = (Site.root entry).below slot'.key child := by
      rw [Excerpt.site, Site.below, Site.below, ScopeTree.roleAt_root h.is, ← hframes, hrole,
        Excerpt.role_reads]
    rw [he]
    exact .step hslot' (.refl _)

omit h in
/-- Sites below a site of the excerpt are sites of the excerpt. -/
theorem site_of_reaches {p q : Site} (hpq : Reaches p q)
    (hkept : ∀ n ∈ p.node.subtree, n.label ∈ entry.excerpt.kept) (hc : entry.excerpt.Cuts p.frames) : entry.excerpt.Cuts q.frames ∧
      Reaches (entry.excerpt.site p) (entry.excerpt.site q) := by
  induction hpq with
  | refl p => exact ⟨hc, .refl _⟩
  | @step p q slot child hx hq ih =>
    have hp := hkept _ (Tree.mem_subtree_self _)
    have hchild := Tree.subtree_subset_of_mem_children (Tree.mem_children_of_mem_slots hx)
    obtain ⟨hcuts, hreaches⟩ := ih (fun n hn => hkept n (hchild hn)) (Excerpt.cuts_framesAt hp hc slot.key)
    refine ⟨hcuts, .step (show (slot, child) ∈ (entry.excerpt.site p).node.slots from hx) ?_⟩
    rw [Excerpt.site_below hp receivesVars_home hc]
    exact hreaches

omit h in
/-- Sites below a site of the excerpt come from sites of the program. -/
theorem exists_of_reaches_site {p q' : Site} (hpq : Reaches (entry.excerpt.site p) q')
    (hkept : ∀ n ∈ p.node.subtree, n.label ∈ entry.excerpt.kept) (hc : entry.excerpt.Cuts p.frames) :
    ∃ q, Reaches p q ∧ entry.excerpt.site q = q' := by
  generalize hs : entry.excerpt.site p = s at hpq
  induction hpq generalizing p with
  | refl s => exact ⟨p, .refl p, hs⟩
  | @step s q' slot child hx hq ih =>
    subst hs
    have hx : (slot, child) ∈ p.node.slots := hx
    have hp := hkept _ (Tree.mem_subtree_self _)
    have hchild := Tree.subtree_subset_of_mem_children (Tree.mem_children_of_mem_slots hx)
    obtain ⟨q, hreaches, he⟩ := @ih (p.below slot.key child) (fun n hn => hkept n (hchild hn))
      (Excerpt.cuts_framesAt hp hc slot.key) (Excerpt.site_below hp receivesVars_home hc _ _).symm
    exact ⟨q, .step hx hreaches, he⟩

/-- **The sites of the excerpt** are its own and those of the program that it keeps. -/
theorem site_of_stands {q : Site} (hq : Stands program q) (hl : q.node.label ∈ entry.excerpt.kept) :
    entry.excerpt.Cuts q.frames ∧ Stands entry (entry.excerpt.site q) := by
  obtain ⟨s, hs, hn⟩ := h.exists_statement hq.rooted.node hl
  obtain ⟨p, hp, rfl, hc, hentry⟩ := h.exists_site hs
  obtain ⟨q', hpq', he⟩ := exists_reaches hn
  -- the node stands at one site only
  obtain rfl := Reaches.unique h.labelled (Reaches.trans hp hpq') hq (congrArg Tree.label he)
  obtain ⟨hcuts, hreaches⟩ := site_of_reaches hpq'
    (fun n hn => mem_kept.mpr ⟨_, hs, n, hn, rfl⟩) hc
  exact ⟨hcuts, hentry.trans hreaches⟩

theorem exists_of_stands {q' : Site} (hq : Stands entry q') : q' = .root entry ∨
    ∃ q, Stands program q ∧ q.node.label ∈ entry.excerpt.kept ∧ entry.excerpt.site q = q' := by
  cases hq with
  | refl => exact .inl rfl
  | @step _ _ slot s hx hbelow =>
    have hs : s ∈ entry.children := Tree.mem_children_of_mem_slots hx
    obtain ⟨p, hp, rfl, hc, hentry⟩ := h.exists_site hs
    have he : (Site.root entry).below slot.key p.node = entry.excerpt.site p :=
      Reaches.unique h.own (.step hx (.refl _)) hentry rfl
    rw [he] at hbelow
    have hkept : ∀ n ∈ p.node.subtree, n.label ∈ entry.excerpt.kept :=
      fun n hn => mem_kept.mpr ⟨_, hs, n, hn, rfl⟩
    obtain ⟨q, hpq, rfl⟩ := exists_of_reaches_site hbelow hkept hc
    exact .inr ⟨q, Reaches.trans hp hpq, hkept _ hpq.mem_subtree, rfl⟩

/-! ### What happens in an excerpt -/

theorem events_root : (Site.root entry).events = [] := by
  have hopened : (Site.root entry).opened = [] := by rw [Site.opened, ScopeTree.openedKinds_root h.is]; rfl
  have hk : (Site.root entry).node.kind = "Program" := beq_iff_eq.mp h.is.kinds
  rw [Site.events, hk]
  simp [hopened]

/-- **What happens in the excerpt** is what happens in the program at the nodes that are kept. -/
theorem happens_iff {e : Event} : Happens entry e ↔ ∃ q, Stands program q ∧
    q.node.label ∈ entry.excerpt.kept ∧ ∃ e' ∈ q.events, entry.excerpt.event e' = e := by
  constructor
  · rintro ⟨q', hq', he⟩
    rcases h.exists_of_stands hq' with rfl | ⟨q, hq, hl, rfl⟩
    · rw [h.events_root] at he
      cases he
    · rw [Excerpt.events_site hl] at he
      obtain ⟨e', he', rfl⟩ := List.mem_map.mp he
      exact ⟨q, hq, hl, e', he', rfl⟩
  · rintro ⟨q, hq, hl, e', he', rfl⟩
    refine ⟨_, (h.site_of_stands hq hl).2, ?_⟩
    rw [Excerpt.events_site hl]
    exact List.mem_map_of_mem he'

/-- The scopes around a name of the excerpt. -/
theorem cuts_of_use {l : Nat} {name : String} {writes : Bool} {frames : List Frame}
    (hl : l ∈ entry.excerpt.kept) (hu : Happens program (.use l name writes frames)) :
    entry.excerpt.Cuts frames := by
  obtain ⟨q, hq, he⟩ := hu
  obtain ⟨rfl, -⟩ := Site.name_of_mem_events he rfl
  rw [Site.frames_of_use he]
  exact (h.site_of_stands hq hl).1

/-- The names that are used in the excerpt. -/
theorem happens_use_iff {l : Nat} {name : String} {writes : Bool} {around : List Frame} :
    Happens entry (.use l name writes around) ↔ l ∈ entry.excerpt.kept ∧ ∃ frames,
      Happens program (.use l name writes frames) ∧ around = entry.excerpt.around frames := by
  rw [h.happens_iff]
  constructor
  · rintro ⟨q, hq, hl, e', he', he⟩
    cases e' with
    | use l' name' writes' frames =>
      cases he
      obtain ⟨hlabel, -⟩ := Site.name_of_mem_events he' rfl
      exact ⟨hlabel ▸ hl, frames, ⟨q, hq, he'⟩, rfl⟩
    | _ => cases he
  · rintro ⟨hl, frames, ⟨q, hq, he⟩, rfl⟩
    obtain ⟨hlabel, -⟩ := Site.name_of_mem_events he rfl
    exact ⟨q, hq, hlabel ▸ hl, _, he, rfl⟩

/-- The names that are declared in the excerpt. -/
theorem happens_declares_iff {l : Nat} {name : String} {home : Frame} {initializes : Bool} :
    Happens entry (.declares l name home initializes) ↔ l ∈ entry.excerpt.kept ∧ ∃ home',
      Happens program (.declares l name home' initializes) ∧ home = entry.excerpt.frame home' := by
  rw [h.happens_iff]
  constructor
  · rintro ⟨q, hq, hl, e', he', he⟩
    cases e' with
    | declares l' name' home' initializes' =>
      cases he
      obtain ⟨hlabel, -⟩ := Site.name_of_mem_events he' rfl
      exact ⟨hlabel ▸ hl, home', ⟨q, hq, he'⟩, rfl⟩
    | _ => cases he
  · rintro ⟨hl, home', ⟨q, hq, he⟩, rfl⟩
    obtain ⟨hlabel, -⟩ := Site.name_of_mem_events he rfl
    exact ⟨q, hq, hlabel ▸ hl, _, he, rfl⟩

/-! ### What names mean in an excerpt -/

/-- A scope of the excerpt declares what it declares in the program. -/
theorem happens_declares_iff_of_has {f : Frame} (hf : entry.excerpt.has f = true) {l : Nat} {name : String}
    {initializes : Bool} : Happens entry (.declares l name f initializes) ↔
      Happens program (.declares l name f initializes) := by
  rw [h.happens_declares_iff]
  constructor
  · rintro ⟨-, home', hd, he⟩
    rw [Excerpt.frame] at he
    split at he
    · exact he ▸ hd
    · -- the scope of the excerpt as a whole is not one of those that are kept
      rw [he] at hf
      exact absurd (of_decide_eq_true hf) h.nodup_kept.2
  · intro hd
    refine ⟨?_, f, hd, (Excerpt.frame_of_has hf).symm⟩
    -- the name is declared somewhere in the node that opens the scope
    obtain ⟨q, hq, he⟩ := hd
    obtain ⟨hlabel, -⟩ := Site.name_of_mem_events he rfl
    obtain ⟨n, hn, hl, hm⟩ := hq.rooted.opener f (.inr (Site.home?_of_declares he))
    obtain ⟨s, hs, hns⟩ := h.exists_statement hn (hl ▸ of_decide_eq_true hf)
    exact mem_kept.mpr ⟨s, hs, _, Tree.subtree_subset hns hm, hlabel⟩

theorem declaredIn_iff {f : Frame} (hf : entry.excerpt.has f = true) (name : String) :
    DeclaredIn entry f name ↔ DeclaredIn program f name := by
  simp only [DeclaredIn, h.happens_declares_iff_of_has hf]

/-- **The declarations that the scope of the excerpt receives**: those of scopes that are not kept. -/
theorem happens_declares_home {l : Nat} {name : String} {initializes : Bool} :
    Happens entry (.declares l name entry.excerpt.home initializes) ↔ l ∈ entry.excerpt.kept ∧
      ∃ f, entry.excerpt.has f = false ∧ Happens program (.declares l name f initializes) := by
  rw [h.happens_declares_iff]
  refine and_congr_right fun _ => exists_congr fun f => ?_
  constructor
  · rintro ⟨hd, he⟩
    refine ⟨Bool.eq_false_iff.mpr fun hf => ?_, hd⟩
    rw [Excerpt.frame_of_has hf] at he
    subst he
    exact h.nodup_kept.2 (of_decide_eq_true hf)
  · rintro ⟨hf, hd⟩
    exact ⟨hd, (Excerpt.frame_of_not hf).symm⟩

/-- **What a name means in the excerpt.** Either it belongs to a scope that is kept, the same in the program
and in the excerpt, or it belongs to no such scope in either. -/
theorem resolves_cases {frames : List Frame} (hc : entry.excerpt.Cuts frames) (name : String) :
    (∃ f, entry.excerpt.has f = true ∧ Resolves program name frames (some f) ∧
      Resolves entry name (entry.excerpt.around frames) (some f)) ∨
    ((∀ f, Resolves program name frames (some f) → entry.excerpt.has f = false) ∧
      ∀ found, Resolves entry name (entry.excerpt.around frames) found ↔
        Resolves entry name [entry.excerpt.home] found) := by
  induction hc with
  | outer hout =>
    refine .inr ⟨fun f hr => hout f hr.mem, fun found => ?_⟩
    rw [Excerpt.around_of_not hout]
  | @inner f frames hf hc ih =>
    rw [Excerpt.around_cons hf]
    by_cases hd : DeclaredIn program f name
    · exact .inl ⟨f, hf, .here hd, .here ((h.declaredIn_iff hf name).mpr hd)⟩
    · have hd' : ¬DeclaredIn entry f name := mt (h.declaredIn_iff hf name).mp hd
      rcases ih with ⟨g, hg, hr, hr'⟩ | ⟨hout, hsame⟩
      · exact .inl ⟨g, hg, .outer hd hr, .outer hd' hr'⟩
      · refine .inr ⟨fun g hr => hout g ((resolves_outer hd).mp hr), fun found => ?_⟩
        rw [resolves_outer hd', hsame found]

/-- **A name that belongs to a scope that is kept** has the declarations that it has in the program. -/
theorem declaredBy_iff_of_has {frames : List Frame} (hc : entry.excerpt.Cuts frames) {name : String} {f : Frame}
    (hf : entry.excerpt.has f = true) (hr : Resolves program name frames (some f)) (l : Nat) :
    DeclaredBy entry name (entry.excerpt.around frames) l ↔ DeclaredBy program name frames l := by
  rcases h.resolves_cases hc name with ⟨g, hg, hrg, hrg'⟩ | ⟨hout, -⟩
  · constructor
    · rintro ⟨f', initializes, hr', hd⟩
      obtain rfl : f' = g := Option.some.inj (hr'.unique hrg')
      exact ⟨f', initializes, hrg, (h.happens_declares_iff_of_has hg).mp hd⟩
    · rintro ⟨f', initializes, hr', hd⟩
      obtain rfl : f' = g := Option.some.inj (hr'.unique hrg)
      exact ⟨f', initializes, hrg', (h.happens_declares_iff_of_has hg).mpr hd⟩
  · rw [hout f hr] at hf
    cases hf

/-- **Any other name** has all declarations of that name that are kept, wherever the scopes are that
received them. -/
theorem declaredBy_iff_of_not {frames : List Frame} (hc : entry.excerpt.Cuts frames) {name : String}
    (hout : ∀ f, Resolves program name frames (some f) → entry.excerpt.has f = false) (l : Nat) :
    DeclaredBy entry name (entry.excerpt.around frames) l ↔ l ∈ entry.excerpt.kept ∧
      ∃ f initializes, entry.excerpt.has f = false ∧ Happens program (.declares l name f initializes) := by
  rcases h.resolves_cases hc name with ⟨g, hg, hrg, -⟩ | ⟨-, hsame⟩
  · rw [hout g hrg] at hg
    cases hg
  · constructor
    · rintro ⟨f, initializes, hr, hd⟩
      obtain rfl : f = entry.excerpt.home := List.mem_singleton.mp ((hsame _).mp hr).mem
      obtain ⟨hl, g, hg, hd⟩ := h.happens_declares_home.mp hd
      exact ⟨hl, g, initializes, hg, hd⟩
    · rintro ⟨hl, f, initializes, hf, hd⟩
      have hd' := h.happens_declares_home.mpr ⟨hl, f, hf, hd⟩
      exact ⟨_, initializes, (hsame _).mpr (.here ⟨l, initializes, hd'⟩), hd'⟩

end Excerpts

end Deminify
