import Mathlib.Logic.Relation
import Deminify.Proofs.Scope.Fresh
import Deminify.Proofs.Scope.Upkeep

/-!
# The tree of scopes

The scopes of a view are a table in which each scope names the one around it and lists those inside it. A walk over
a program fills the table, and nothing that is done to a view afterwards (`Deminify.ScopeTree.Step`) opens a scope,
closes one or moves it. So the table is a tree at any time (`Deminify.ScopeTree.scopes_stay_a_tree`), **and the two
ways to go through it are exact**: outwards each scope around is met once, the scope of the program last, and inwards
each scope inside is met once, and no other.

What the scopes bind does change, but each entry stays under the name of its binding, whatever the changes are: also
if a binding is renamed that no scope holds any more, or a name is declared that is known already
(`Deminify.ScopeTree.Step.filed`). So there are fewer names in use than are tried when a name is generated, and
**the first that is free is found** (`Deminify.ScopeTree.generated_names_are_free`): what can stand in a name is taken
from a text, and numbers are tried in turn. It is a name however it comes about, as a number at the end does no harm to
what a name starts with.
-/

namespace Deminify.ScopeTree

variable {s t : ScopeTree} {k b : Nat} {x : String}

/-! ### Changes of a view -/

/-- **A change of a view.** A scope in which something is declared is one of the view, and a binding that is removed
or renamed has been declared once; nothing else is asked. -/
inductive Step (s : ScopeTree) : ScopeTree → Prop
  | declare (k label : Nat) (name kind : String) (node : Option Tree) (hk : k < s.scopes.size) :
    Step s (s.declare k label name kind node).1
  | addReference (label : Nat) (name : String) (k : Nat) (parent : Option (Nat × String)) (writes : Bool) :
    Step s (s.addReference label name k parent writes).1
  | removeReference (label : Nat) (name : String) : Step s (s.removeReference label name)
  | removeBinding (b : Nat) (hb : b < s.bindings.size) : Step s (s.removeBinding b)
  | renameBinding (b : Nat) (new : String) (hb : b < s.bindings.size) : Step s (s.renameBinding b new).1
  | renameFrom (k : Nat) (old new : String) : Step s (s.renameFrom k old new).1
  | renameGlobal (old new : String) : Step s (s.renameGlobal old new).1
  | merge (k : Nat) (name into : String) : Step s (s.merge k name into).1
  | setScope (label k : Nat) : Step s (s.setScope label k)
  | markStale : Step s s.markStale

/-! ### Scopes stay -/

/-- **No change opens a scope, closes one or moves it.** -/
theorem Step.bare (h : Step s t) : t.scopes.map Scope.bare = s.scopes.map Scope.bare := by
  cases h with
  | declare k label name kind node => exact Upkeep.bare_declare s k label name kind node
  | addReference => rw [scopes_addReference]
  | removeReference => rw [scopes_removeReference]
  | removeBinding b => exact Upkeep.bare_unbind s b
  | renameBinding b new => exact Upkeep.bare_renameBinding s b new
  | renameFrom k old new => exact Upkeep.bare_renameFrom s k old new
  | renameGlobal => rfl
  | merge k name into => exact Upkeep.bare_merge s k name into
  | setScope => rfl
  | markStale => rfl

/-- Whether scopes nest does not depend on what they bind. -/
theorem Nested.of_bare (hs : s.Nested) (h : t.scopes.map Scope.bare = s.scopes.map Scope.bare) : t.Nested := by
  have hget (k : Nat) : (t.scopes[k]?).map Scope.bare = (s.scopes[k]?).map Scope.bare := by
    rw [← Array.getElem?_map, h, Array.getElem?_map]
  have hshape : t.shape = s.shape := by
    funext k
    have hbare (u : ScopeTree) : u.shape k =
        ((u.scopes[k]?).map Scope.bare).map fun c => (⟨c.node, c.kind⟩, c.parent) := by
      rw [Option.map_map]
      rfl
    rw [hbare, hbare, hget]
  have hcount : t.childCount = s.childCount := by
    funext k d
    have hbare (u : ScopeTree) : u.childCount k d =
        (((u.scopes[k]?).map Scope.bare).map fun c => c.children.count d).getD 0 := by
      rw [Option.map_map]
      rfl
    rw [hbare, hbare, hget]
  exact ⟨hshape ▸ hs.root, hshape ▸ hs.around, hshape ▸ hcount ▸ hs.children⟩

/-! ### Entries stay under their names -/

/-- What stays bound when a binding is taken from its scope, if it is there. -/
theorem Filed.boundIn_of_taken (h : s.Filed) {b' : Nat} (hb' : (s.unbind b).boundIn k x = some b') :
    s.boundIn k x = some b' ∧ b' ≠ b := by
  by_cases hb : s.Holds b
  · exact h.boundIn_of_unbind hb hb'
  · have hsame : (s.unbind b).boundIn k x = s.boundIn k x := by
      rw [unbind, boundIn_editScope]
      split
      · rename_i hk
        rw [boundIn]
        cases hc : s.scopes[k]? with
        | none => rfl
        | some c =>
          rw [Option.bind_some, Option.bind_some, if_neg fun hown => hb ⟨k, (s.binding b).name, ?_⟩]
          rw [boundIn, hc]
          exact beq_iff_eq.mp hown
      · rfl
    rw [hsame] at hb'
    exact ⟨hb', fun he => hb ⟨k, x, he ▸ hb'⟩⟩

/-- A binding that is renamed is filed under its new name, also if it had been removed. -/
theorem Filed.renamed (h : s.Filed) (hb : b < s.bindings.size) (new : String) : (s.renameBinding b new).1.Filed := by
  refine ⟨fun hc => ?_, fun {i y b'} hb' => ?_, h.globals, h.globalWrites⟩
  · exact keyed_editScope (fun hc => keyed_unbind h hc) (fun _ hc => hc.putKey) hc
  · have hsize : (s.renameBinding b new).1.bindings.size = s.bindings.size := Array.size_modify
    rw [hsize]
    have hcases : i = (s.binding b).scope ∧ y = new ∧ b' = b ∨ (s.unbind b).boundIn i y = some b' := by
      replace hb' : (((s.unbind b).editBinding b fun binding => { binding with name := new }).editScope
        (s.binding b).scope fun c => { c with bindings := putKey c.bindings new b }).boundIn i y = some b' := hb'
      rw [boundIn_editScope] at hb'
      split at hb'
      · rename_i hi
        obtain ⟨c, hc, hlookup⟩ := Option.bind_eq_some_iff.mp hb'
        rw [lookup_putKey] at hlookup
        split at hlookup
        · rename_i hy
          exact .inl ⟨hi.symm, hy, (Option.some.inj hlookup).symm⟩
        · refine .inr ?_
          rw [boundIn]
          exact Option.bind_eq_some_iff.mpr ⟨c, hc, hlookup⟩
      · exact .inr hb'
    rcases hcases with ⟨rfl, rfl, rfl⟩ | hold
    · rw [binding_rename _ hb, if_pos rfl]
      exact ⟨hb, rfl, rfl⟩
    · obtain ⟨hold, hne⟩ := h.boundIn_of_taken hold
      have hnamed := h.named hold
      rw [binding_rename _ hnamed.1, if_neg (Ne.symm hne)]
      exact hnamed

/-- **Every change leaves each entry under the name of its binding.** -/
theorem Step.filed (h : Step s t) (hs : s.Filed) : t.Filed := by
  cases h with
  | declare k label name kind node hk => exact filed_declare label kind node hs hk
  | addReference label name k parent writes => exact filed_addReference label k parent writes hs
  | removeReference label name => exact filed_removeReference label hs
  | removeBinding b =>
    exact ⟨fun hc => keyed_unbind hs hc, fun hb => hs.named (hs.boundIn_of_taken hb).1, hs.globals, hs.globalWrites⟩
  | renameBinding b new hb => exact hs.renamed hb new
  | renameFrom k old new =>
    rw [ScopeTree.renameFrom]
    split
    · exact hs
    · split
      · rename_i hb
        obtain ⟨i, hi⟩ := exists_boundIn_of_lookup hb
        exact hs.renamed (hs.named hi).1 new
      · exact hs
  | renameGlobal old new => exact filed_renameGlobal hs old new
  | merge k name into =>
    rcases merge_cases s k name into with ⟨b, target, hb, ht, hne⟩ | hnothing
    · exact filed_merge hb ht hne hs
    · rw [hnothing]
      exact hs
  | setScope label k => exact hs.of_eq rfl rfl hs.globals hs.globalWrites
  | markStale => exact hs.of_eq rfl rfl hs.globals hs.globalWrites

/-! ### From the view of a program on -/

/-- Notes keep entries under their names, if scopes nest. -/
theorem Filed.carryOutAll (h : s.Filed) (hs : s.Nested) {notes : List Note} (hb : Bounded s.scopes.size notes) :
    (notes.foldl carryOut s).Filed := by
  induction notes generalizing s with
  | nil => exact h
  | cons n rest ih =>
    refine ih ?_ (hs.carryOut hb.1).1 (hs.bounded_carryOut hb)
    by_cases hd : declaredLabels [n] = []
    · exact (sameFiling_carryOut s hd).filed h
    · cases n with
      | declares scope hoisted label name kind node =>
        exact filed_declare label kind (some node) h (hs.le_of_mem_ancestors (hs.home_mem hb.1 hoisted)).2
      | _ => exact absurd rfl hd

/-- Names that are resolved leave entries under their names. -/
theorem Filed.resolveAll (h : s.Filed) (uses : List Use) : (uses.foldl resolve s).Filed := by
  induction uses generalizing s with
  | nil => exact h
  | cons u rest ih => exact ih (filed_addReference u.label u.scope (some u.parent) u.writes h)

/-- **A program has a view**, and after any changes its scopes nest and file what they bind. -/
theorem exists_view {program : Tree} (h : program.Is (· == "Program")) : ∃ view, build program = .ok view ∧
    ∀ s, Relation.ReflTransGen Step view s →
      s.scopes.map Scope.bare = view.scopes.map Scope.bare ∧ s.Nested ∧ s.Filed := by
  obtain ⟨notes, hw, hb, -⟩ := walk_program h
  have hnested : (declared program.label notes).Nested := ((nested_opening program.label).carryOutAll hb).1
  have hfiled : (declared program.label notes).Filed :=
    (filed_opening program.label).carryOutAll (nested_opening program.label) hb
  have hview : (ofNotes program.label notes).Filed := hfiled.resolveAll _
  refine ⟨ofNotes program.label notes, by rw [build, hw]; rfl, fun s hs => ?_⟩
  induction hs with
  | refl => exact ⟨rfl, hnested.of_bare (by rw [scopes_ofNotes]), hview⟩
  | tail _ hstep ih =>
    have hbare := hstep.bare
    exact ⟨hbare.trans ih.1, ih.2.1.of_bare hbare, hstep.filed ih.2.2⟩

/-! ### Outwards and inwards -/

/-- Whether a scope is the one around another. -/
def IsAround (s : ScopeTree) (a b : Nat) : Prop := ∃ c, s.scopes[b]? = some c ∧ c.parent = some a

theorem isAround_iff {a : Nat} : s.IsAround a k ↔ s.outerOf k = some a := by
  rw [outerOf, shape]
  cases hc : s.scopes[k]? with
  | none => simp [IsAround, hc]
  | some c => simp [IsAround, hc]

/-- The ways out of a scope, from the scope itself to that of the program. -/
structure IsWayOut (s : ScopeTree) (k : Nat) (way : List Nat) : Prop where
  starts : way.head? = some k
  ends : way.getLast? = some 0
  steps : way.IsChain fun inner outer => s.IsAround outer inner
  once : way.Nodup
  complete : ∀ a, a ∈ way ↔ Relation.ReflTransGen s.IsAround a k

/-- **Whether the scopes of a view are a tree** with the scope of the program at the root, and the ways through it are
exact. -/
structure IsTree (s : ScopeTree) : Prop where
  root : ∃ c, s.scopes[0]? = some c ∧ c.parent = none
  around : ∀ k c, s.scopes[k]? = some c → k ≠ 0 → ∃ p outer, c.parent = some p ∧ p < k ∧ s.scopes[p]? = some outer ∧
    outer.children.count k = 1
  inside : ∀ k c d, s.scopes[k]? = some c → d ∈ c.children → s.IsAround k d
  outwards : ∀ k < s.scopes.size, s.IsWayOut k (s.ancestors k)
  inwards : ∀ k < s.scopes.size, (s.descendants k).Nodup ∧ ∀ d, d ∈ s.descendants k ↔ d ≠ k ∧ k ∈ s.ancestors d

/-- The scope of the program is around all others. -/
theorem Nested.getLast_ancestors (hs : s.Nested) (hk : k < s.scopes.size) : (s.ancestors k).getLast? = some 0 := by
  induction k using Nat.strongRecOn with
  | _ k ih =>
    obtain ⟨x, hx⟩ := exists_shape hk
    rw [hs.ancestors_eq hx]
    by_cases h0 : k = 0
    · obtain ⟨frame, hroot⟩ := hs.root
      rw [h0, hroot] at hx
      cases hx
      rw [h0]
      rfl
    · obtain ⟨p, hp, he⟩ := hs.around hx h0
      rw [he, Option.elim_some, List.getLast?_cons, ih p hp (Nat.lt_trans hp hk)]
      rfl

/-- What is around a scope is found once. -/
theorem Nested.nodup_ancestors (hs : s.Nested) (k : Nat) : (s.ancestors k).Nodup := by
  induction k using Nat.strongRecOn with
  | _ k ih =>
    cases hx : s.shape k with
    | none =>
      have hempty : s.ancestors k = [] := by
        refine List.eq_nil_iff_forall_not_mem.mpr fun a ha => ?_
        rcases hs.mem_ancestors.mp ha with ⟨-, hk⟩ | ⟨p, hp, -⟩
        · obtain ⟨x, hx'⟩ := exists_shape hk
          rw [hx] at hx'
          cases hx'
        · rw [outerOf, hx] at hp
          cases hp
      rw [hempty]
      exact List.nodup_nil
    | some x =>
      rw [hs.ancestors_eq hx]
      rcases hs.outer hx with he | ⟨p, hp, he⟩
      · rw [he]
        exact List.nodup_singleton k
      · rw [he, Option.elim_some]
        refine List.nodup_cons.mpr ⟨fun hm => ?_, ih p hp⟩
        have hle := (hs.le_of_mem_ancestors hm).1
        omega

/-- Each scope on the way out is around the one before it. -/
theorem Nested.isChain_ancestors (hs : s.Nested) (hk : k < s.scopes.size) :
    (s.ancestors k).IsChain fun inner outer => s.IsAround outer inner := by
  induction k using Nat.strongRecOn with
  | _ k ih =>
    obtain ⟨x, hx⟩ := exists_shape hk
    rw [hs.ancestors_eq hx]
    rcases hs.outer hx with he | ⟨p, hp, he⟩
    · rw [he]
      exact List.isChain_singleton k
    · have hp' : p < s.scopes.size := Nat.lt_trans hp hk
      obtain ⟨y, hy⟩ := exists_shape hp'
      have hrest := ih p hp hp'
      rw [he, Option.elim_some]
      rw [hs.ancestors_eq hy] at hrest ⊢
      refine List.isChain_cons_cons.mpr ⟨isAround_iff.mpr ?_, hrest⟩
      rw [outerOf, hx, Option.bind_some, he]

/-- **The way out of a scope meets what is around it**, step by step. -/
theorem Nested.mem_ancestors_iff (hs : s.Nested) (hk : k < s.scopes.size) {a : Nat} :
    a ∈ s.ancestors k ↔ Relation.ReflTransGen s.IsAround a k := by
  induction k using Nat.strongRecOn with
  | _ k ih =>
    rw [hs.mem_ancestors, Relation.ReflTransGen.cases_tail_iff]
    constructor
    · rintro (⟨rfl, -⟩ | ⟨p, hp, ha⟩)
      · exact .inl rfl
      · have hlt := hs.outerOf_lt hp
        exact .inr ⟨p, (ih p hlt (Nat.lt_trans hlt hk)).mp ha, isAround_iff.mpr hp⟩
    · rintro (rfl | ⟨p, ha, hp⟩)
      · exact .inl ⟨rfl, hk⟩
      · have hlt := hs.outerOf_lt (isAround_iff.mp hp)
        exact .inr ⟨p, isAround_iff.mp hp, (ih p hlt (Nat.lt_trans hlt hk)).mpr ha⟩

/-- **Scopes that nest are a tree.** -/
theorem Nested.isTree (hs : s.Nested) : s.IsTree where
  root := by
    obtain ⟨frame, hroot⟩ := hs.root
    obtain ⟨c, hc, he⟩ := Option.map_eq_some_iff.mp hroot
    exact ⟨c, hc, congrArg Prod.snd he⟩
  around := by
    intro k c hc h0
    have hx : s.shape k = some (⟨c.node, c.kind⟩, c.parent) := by rw [shape, hc, Option.map_some]
    obtain ⟨p, hp, he⟩ := hs.around hx h0
    obtain ⟨outer, houter⟩ : ∃ outer, s.scopes[p]? = some outer :=
      ⟨_, Array.getElem?_eq_getElem (Nat.lt_trans hp (lt_of_shape hx))⟩
    refine ⟨p, outer, he, hp, houter, ?_⟩
    have hcount := hs.children p k
    rwa [hx, Option.bind_some, he, if_pos rfl, childCount, houter, Option.map_some, Option.getD_some] at hcount
  inside := by
    intro k c d hc hd
    refine isAround_iff.mpr (hs.mem_childrenOf.mp ?_)
    rw [childrenOf, hc, Option.map_some, Option.getD_some]
    exact Array.mem_toList_iff.mpr hd
  outwards := by
    intro k hk
    obtain ⟨x, hx⟩ := exists_shape hk
    exact {
      starts := by rw [hs.ancestors_eq hx, List.head?_cons]
      ends := hs.getLast_ancestors hk
      steps := hs.isChain_ancestors hk
      once := hs.nodup_ancestors k
      complete := fun _ => hs.mem_ancestors_iff hk }
  inwards := fun k _ => hs.descendants_exact k

/-- **The scopes of a program stay a tree**, whatever is done to its view. -/
theorem scopes_stay_a_tree {program : Tree} (h : program.Is (· == "Program")) : ∃ view, build program = .ok view ∧
    ∀ s, Relation.ReflTransGen Step view s → s.IsTree ∧ s.scopes.map Scope.bare = view.scopes.map Scope.bare := by
  obtain ⟨view, hview, hall⟩ := exists_view h
  refine ⟨view, hview, fun s hs => ?_⟩
  obtain ⟨hbare, hnested, -⟩ := hall s hs
  exact ⟨hnested.isTree, hbare⟩

/-- A name is declared in the function of a program, and then the function is renamed. -/
theorem scopes_stay_a_tree_declaring : ∃ p view,
    Program.read "function f(a) { return () => a; }" = .ok p ∧ build p.tree = .ok view ∧
      ((view.declare 1 100 "b" "let" none).1.renameBinding 0 "g").1.ancestors 2 = [2, 1, 0] ∧
      ((view.declare 1 100 "b" "let" none).1.renameBinding 0 "g").1.IsTree := by
  obtain ⟨p, view, hp, hv, hcheck⟩ := @exists_of_check "function f(a) { return () => a; }"
    (fun _ view => decide (1 < view.scopes.size ∧ 0 < (view.declare 1 100 "b" "let" none).1.bindings.size ∧
      ((view.declare 1 100 "b" "let" none).1.renameBinding 0 "g").1.ancestors 2 = [2, 1, 0]))
    (by decide +kernel)
  obtain ⟨hscope, hbinding, hout⟩ := of_decide_eq_true hcheck
  obtain ⟨view', hv', htree⟩ := scopes_stay_a_tree (Program.is_of_read hp)
  obtain rfl : view' = view := Except.ok.inj (hv'.symm.trans hv)
  refine ⟨p, view', hp, hv, hout, (htree _ ?_).1⟩
  exact .tail (.single (.declare 1 100 "b" "let" none hscope)) (.renameBinding 0 "g" hbinding)

end Deminify.ScopeTree

namespace Deminify

/-! ### What names are made of -/

namespace Name

/-- Whether a character can start a new name. -/
def isStart (c : Char) : Bool := c.isAlpha || c == '_' || c == '$'

/-- **Whether a text is a plain name**: a letter, `_` or `$`, and then any of these and digits. -/
def IsPlainName (text : String) : Prop :=
  ∃ c rest, text.toList = c :: rest ∧ isStart c = true ∧ ∀ d ∈ rest, isPlain d = true

theorem isStart_of_isPlain {c : Char} (h : isPlain c = true) (hd : c.isDigit = false) : isStart c = true := by
  rw [isPlain, Char.isAlphanum, hd, Bool.or_false] at h
  exact h

/-- The runs that a text is split into are not empty. -/
theorem ne_nil_of_mem_wordsFrom {word text : List Char} : ∀ w ∈ wordsFrom word text, w ≠ [] := by
  induction text generalizing word with
  | nil =>
    intro w hw
    rw [wordsFrom] at hw
    split at hw
    · cases hw
    · rename_i hword
      obtain rfl := List.mem_singleton.mp hw
      simpa using hword
  | cons c rest ih =>
    intro w hw
    rw [wordsFrom] at hw
    split at hw
    · exact ih w hw
    · split at hw
      · exact ih w hw
      · rename_i hword
        rcases List.mem_cons.mp hw with rfl | hw
        · simpa using hword
        · exact ih w hw

/-- **Any text gives a name.** -/
theorem isPlainName_sanitize (text : String) : IsPlainName (sanitize text) := by
  have hplain := ScopeTree.isPlain_sanitize text
  suffices hstart : ∃ c rest, (sanitize text).toList = c :: rest ∧ isStart c = true by
    obtain ⟨c, rest, he, hc⟩ := hstart
    exact ⟨c, rest, he, hc, fun d hd => hplain d (he ▸ List.mem_cons_of_mem c hd)⟩
  have hwords := @ne_nil_of_mem_wordsFrom [] text.toList
  unfold sanitize at hplain ⊢
  split
  · exact ⟨'_', [], rfl, rfl⟩
  · rename_i first rest hsplit
    rw [hsplit] at hwords hplain
    rw [String.toList_ofList] at hplain ⊢
    split
    · exact ⟨'_', _, rfl, rfl⟩
    · rename_i hgood
      rw [if_neg hgood] at hplain
      obtain ⟨c, cs, rfl⟩ := List.exists_cons_of_ne_nil (hwords first List.mem_cons_self)
      rw [Bool.or_eq_true, not_or] at hgood
      exact ⟨c, _, rfl, isStart_of_isPlain (hplain c List.mem_cons_self) (by simpa using hgood.1)⟩

end Name

namespace ScopeTree

variable {s : ScopeTree} {k : Nat}

/-- A name stays one with a number at its end. -/
theorem isPlainName_attempt {base : String} (h : Name.IsPlainName base) (i : Nat) :
    Name.IsPlainName (attempt base i) := by
  cases i with
  | zero => exact h
  | succ i =>
    obtain ⟨c, rest, he, hc, hrest⟩ := h
    refine ⟨c, rest ++ ("_" ++ (i + 1).repr).toList, ?_, hc, fun d hd => ?_⟩
    · rw [attempt, candidate_eq, String.toList_append, he, List.cons_append]
    · rcases List.mem_append.mp hd with hd | hd
      · exact hrest d hd
      · exact isPlain_number (i + 1) d hd

/-! ### Names that are free -/

/-- **What a generated name is**: the first that is free of those that are tried, a name that is not reserved, bound
in no scope around or inside, and not the name of something global. -/
structure IsFirstFree (s : ScopeTree) (k : Nat) (base name : String) : Prop where
  first : ∃ n, name = attempt (Name.sanitize base) n ∧ s.nameInUse k name = false ∧
    ∀ m < n, s.nameInUse k (attempt (Name.sanitize base) m) = true
  plain : Name.IsPlainName name
  reserved : name ∉ reservedWords
  bound : ∀ i, Relation.ReflTransGen s.IsAround i k ∨ Relation.ReflTransGen s.IsAround k i → s.boundIn i name = none
  global : (s.globals.lookup name).getD #[] = #[]

/-- Scopes that are around others are scopes, and so are those inside. -/
theorem lt_of_isAround {i : Nat} (h : Relation.ReflTransGen s.IsAround k i) (hk : k < s.scopes.size) :
    i < s.scopes.size := by
  rcases Relation.ReflTransGen.cases_tail h with rfl | ⟨p, -, c, hc, -⟩
  · exact hk
  · exact (Array.getElem?_eq_some_iff.mp hc).1

/-- **The name that is generated is the first that is free**, if scopes nest and file what they bind. -/
theorem Nested.isFirstFree (hs : s.Nested) (hf : s.Filed) (base : String) (hk : k < s.scopes.size) :
    s.IsFirstFree k base (s.generateName base k) := by
  have hnamed {i x b} (hb : s.boundIn i x = some b) : ∃ binding, s.bindings[b]? = some binding ∧ binding.name = x := by
    obtain ⟨hlt, -, hname⟩ := hf.named hb
    rw [binding, Array.getElem?_eq_getElem hlt, Option.getD_some] at hname
    exact ⟨_, Array.getElem?_eq_getElem hlt, hname⟩
  obtain ⟨n, he, hfree, hbefore⟩ := exists_generateName hnamed base k
  rw [he]
  have haround := hs.freeAround hfree
  have hfree' := hfree
  simp only [nameInUse, Bool.or_eq_false_iff] at hfree'
  obtain ⟨⟨⟨hreserved, hglobal⟩, -⟩, -⟩ := hfree'
  exact {
    first := ⟨n, rfl, hfree, hbefore⟩
    plain := isPlainName_attempt (Name.isPlainName_sanitize base) n
    reserved := by simpa using hreserved
    bound := by
      rintro i (hi | hi)
      · exact haround k (hs.mem_ancestors_self hk) i ((hs.mem_ancestors_iff hk).mpr hi)
      · have hlt := lt_of_isAround hi hk
        exact haround i ((hs.mem_ancestors_iff hlt).mpr hi) i (hs.mem_ancestors_self hlt)
    global := by simpa using hglobal }

/-- **Generated names are free**, whatever has been done to the view of a program. -/
theorem generated_names_are_free {program : Tree} (h : program.Is (· == "Program")) :
    ∃ view, build program = .ok view ∧ ∀ s, Relation.ReflTransGen Step view s →
      ∀ (base : String), ∀ k < s.scopes.size, s.IsFirstFree k base (s.generateName base k) := by
  obtain ⟨view, hview, hall⟩ := exists_view h
  refine ⟨view, hview, fun s hs base k hk => ?_⟩
  obtain ⟨-, hnested, hfiled⟩ := hall s hs
  exact hnested.isFirstFree hfiled base hk

/-- A name that a scope inside has taken, and the next one, which has been declared since. -/
theorem generated_names_are_free_declared : ∃ p view,
    Program.read "var b = 1; function f(a_b) { return a; }" = .ok p ∧ build p.tree = .ok view ∧
      (view.declare 0 100 "a_b_1" "let" none).1.generateName "a_b" 0 = "a_b_2" ∧
      (view.declare 0 100 "a_b_1" "let" none).1.IsFirstFree 0 "a_b" "a_b_2" := by
  obtain ⟨p, view, hp, hv, hcheck⟩ := @exists_of_check "var b = 1; function f(a_b) { return a; }"
    (fun _ view => decide (0 < view.scopes.size ∧ 0 < (view.declare 0 100 "a_b_1" "let" none).1.scopes.size ∧
      (view.declare 0 100 "a_b_1" "let" none).1.generateName "a_b" 0 = "a_b_2"))
    (by decide +kernel)
  obtain ⟨hscope, hdeclared, hname⟩ := of_decide_eq_true hcheck
  obtain ⟨view', hv', hfree⟩ := generated_names_are_free (Program.is_of_read hp)
  obtain rfl : view' = view := Except.ok.inj (hv'.symm.trans hv)
  refine ⟨p, view', hp, hv, hname, ?_⟩
  rw [← hname]
  exact hfree _ (.single (.declare 0 100 "a_b_1" "let" none hscope)) "a_b" 0 hdeclared

end ScopeTree

end Deminify
