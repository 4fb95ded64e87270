import Deminify.Proofs.Scope.Fresh
import Deminify.Proofs.Scope.Resolution
import Deminify.Proofs.Scope.Respell

/-!
# Renaming captures nothing

A binding is renamed to a free name by spelling its names anew in the program. The scopes of the
respelled program could be found from scratch; this module shows that they are those of the program
with the one name spelled otherwise (`Deminify.ScopeTree.spelled`). Both builds are run side by side,
note by note: **declaring keeps the two in step** (`Deminify.ScopeTree.declare_spelled`), since the new
name is free in its scope, and **so does resolving a use** (`Deminify.ScopeTree.resolve_spelled`),
since the new name is free in all scopes on the way.
-/

namespace Deminify

/-! ### The state with a name spelled otherwise -/

/-- The scope with a name spelled otherwise. -/
def Scope.spelled (old new : String) (c : Scope) : Scope :=
  { c with bindings := c.bindings.map fun e => (if e.1 = old then new else e.1, e.2) }

/-- The binding with its name spelled otherwise, if it is the one of the name in the scope. -/
def Binding.spelled (k : Nat) (old new : String) (b : Binding) : Binding :=
  if b.scope = k ∧ b.name = old then { b with name := new } else b

section Keys

variable {old new x : String} {table : List (String × Nat)}

/-- In the table, the new name is where the old one was. -/
theorem lookup_spelled (hfree : table.lookup new = none) (hne : old ≠ new) :
    (table.map fun e => (if e.1 = old then new else e.1, e.2)).lookup x =
      if x = new then table.lookup old else if x = old then none else table.lookup x := by
  induction table with
  | nil => simp
  | cons e rest ih =>
    rw [lookup_cons_ite] at hfree
    have hkey : new ≠ e.1 := fun he => by simp [he] at hfree
    rw [if_neg hkey] at hfree
    rw [List.map_cons, lookup_cons_ite, ih hfree, lookup_cons_ite, lookup_cons_ite]
    by_cases he : e.1 = old
    · subst he
      by_cases hx : x = new
      · simp [hx]
      · by_cases hxo : x = e.1
        · simp [hxo, hne]
        · simp [hx, hxo]
    · rw [if_neg he, if_neg (Ne.symm he)]
      by_cases hx : x = new
      · subst hx
        simp [hkey]
      · by_cases hxo : x = old
        · subst hxo
          simp [hne, Ne.symm he]
        · simp [hx, hxo]

/-- A name is entered alike before and after. -/
theorem putKey_spelled (hfree : table.lookup new = none) (hx : x ≠ new) (b : Nat) :
    putKey (table.map fun e => (if e.1 = old then new else e.1, e.2)) (if x = old then new else x) b =
      (putKey table x b).map fun e => (if e.1 = old then new else e.1, e.2) := by
  induction table with
  | nil => rfl
  | cons e rest ih =>
    rw [lookup_cons_ite] at hfree
    have hkey : new ≠ e.1 := fun he => by simp [he] at hfree
    rw [if_neg hkey] at hfree
    have hsame : (if e.1 = old then new else e.1) = (if x = old then new else x) ↔ e.1 = x := by
      by_cases he : e.1 = old <;> by_cases ho : x = old
      · simp [he, ho]
      · simp [he, ho, Ne.symm hx, Ne.symm ho]
      · simp [he, ho, Ne.symm hkey]
      · simp [he, ho]
    rw [List.map_cons, putKey, putKey, ih hfree]
    by_cases he : e.1 = x
    · rw [if_pos (hsame.mpr he), if_pos he, List.map_cons]
    · rw [if_neg (mt hsame.mp he), if_neg he, List.map_cons]

end Keys

namespace ScopeTree

variable (k : Nat) (old new : String)

/-- **The state with a name of a scope spelled otherwise.** -/
def spelled (s : ScopeTree) : ScopeTree :=
  { s with
    scopes := s.scopes.modify k (Scope.spelled old new)
    bindings := s.bindings.map (Binding.spelled k old new) }

section Spelled

variable {s : ScopeTree}

theorem shape_spelled : (s.spelled k old new).shape = s.shape :=
  @shape_editScope s (Scope.spelled old new) (fun _ => ⟨rfl, rfl, rfl⟩) k

theorem childCount_spelled : (s.spelled k old new).childCount = s.childCount :=
  @childCount_editScope s (Scope.spelled old new) (fun _ => rfl) k

/-- Scopes nest however names are spelled. -/
theorem nested_spelled (hs : s.Nested) : (s.spelled k old new).Nested := by
  refine ⟨?_, ?_, ?_⟩
  · rw [shape_spelled]
    exact hs.root
  · rw [shape_spelled]
    exact hs.around
  · rw [shape_spelled, childCount_spelled]
    exact hs.children

theorem extends_spelled : Extends s (s.spelled k old new) := by
  intro i x hx
  rwa [shape_spelled]

/-- A binding keeps the name that declares it. -/
theorem identifier_spelled (b : Nat) :
    ((s.spelled k old new).binding b).identifier = (s.binding b).identifier := by
  simp only [spelled, binding, Array.getElem?_map]
  cases s.bindings[b]? with
  | none => rfl
  | some binding =>
    simp only [Option.map_some, Option.getD_some, Binding.spelled]
    split <;> rfl

variable {k old new}

/-- In its scope the new name is bound to what the old one was; elsewhere all stays. -/
theorem boundIn_spelled (hfree : s.boundIn k new = none) (hne : old ≠ new) (i : Nat) (x : String) :
    (s.spelled k old new).boundIn i x =
      if i = k then if x = new then s.boundIn k old else if x = old then none else s.boundIn k x
      else s.boundIn i x := by
  have hedit := @boundIn_editScope s i x (Scope.spelled old new) k
  rw [show (s.spelled k old new).boundIn i x = (s.editScope k (Scope.spelled old new)).boundIn i x from rfl,
    hedit]
  by_cases hi : i = k
  · subst hi
    rw [if_pos rfl, if_pos rfl]
    cases hc : s.scopes[i]? with
    | none => simp [boundIn, hc]
    | some c =>
      have hfree' : c.bindings.lookup new = none := by simpa [boundIn, hc] using hfree
      simp only [Option.bind_some, Scope.spelled, lookup_spelled hfree' hne]
      simp [boundIn, hc]
  · rw [if_neg (Ne.symm hi), if_neg hi]

/-- A name is bound as before where it is declared. -/
theorem boundIn_spelled_declared (hfree : s.boundIn k new = none) (hne : old ≠ new) {i : Nat} {x : String}
    (hx : ¬(i = k ∧ x = new)) :
    (s.spelled k old new).boundIn i (if i = k ∧ x = old then new else x) = s.boundIn i x := by
  rw [boundIn_spelled hfree hne]
  by_cases hi : i = k
  · subst hi
    by_cases ho : x = old
    · simp [ho]
    · have hn : x ≠ new := fun h => hx ⟨rfl, h⟩
      simp [ho, hn]
  · simp [hi]

end Spelled

/-! ### Declaring -/

section Declare

variable {k old new} {s : ScopeTree}

/-- Two changes of an array in the other order. -/
theorem modify_swap {α : Type} {xs : Array α} {i j : Nat} {f f' g : α → α}
    (h : i = j → ∀ a, xs[i]? = some a → f' (g a) = g (f a)) (hne : i ≠ j → f' = f) :
    (xs.modify j g).modify i f' = (xs.modify i f).modify j g := by
  refine Array.ext_getElem? fun l => ?_
  simp only [Array.getElem?_modify]
  by_cases hij : i = j
  · subst hij
    by_cases hi : i = l
    · subst hi
      cases ha : xs[i]? with
      | none => simp
      | some a => simp [h rfl a ha]
    · simp [hi]
  · rw [hne hij]
    by_cases hi : i = l <;> by_cases hj : j = l
    · exact absurd (hi.trans hj.symm) hij
    · simp [hi, hj]
    · simp [hi, hj]
    · simp [hi, hj]

theorem map_modify {α : Type} (xs : Array α) {i : Nat} {f g : α → α} (h : ∀ a, f (g a) = g (f a)) :
    (xs.map g).modify i f = (xs.modify i f).map g := by
  refine Array.ext_getElem? fun l => ?_
  simp only [Array.getElem?_modify, Array.getElem?_map]
  split
  · cases xs[l]? with
    | none => rfl
    | some a => simp [h]
  · rfl

/-- **One more declaration** keeps the two states in step. -/
theorem declare_spelled (hfree : s.boundIn k new = none) (hne : old ≠ new) {id label : Nat}
    {name kind : String} {node node' : Tree} (hx : ¬(id = k ∧ name = new)) (hl : node'.label = node.label)
    (hi : initializes node' = initializes node) :
    ((s.spelled k old new).declare id label (if id = k ∧ name = old then new else name) kind
      (some node')).1 = (s.declare id label name kind (some node)).1.spelled k old new := by
  have hbound := boundIn_spelled_declared hfree hne hx
  -- both states know the name in this scope or neither does: a binding is added to both, or the declaration is a write
  -- of the same binding
  cases hb : s.boundIn id name with
  | none =>
    rw [hb] at hbound
    unfold declare
    rw [show (((s.spelled k old new).scopes[id]?).bind fun c =>
        c.bindings.lookup (if id = k ∧ name = old then new else name)) = none from hbound,
      show ((s.scopes[id]?).bind fun c => c.bindings.lookup name) = none from hb]
    let put (x : String) (c : Scope) : Scope := { c with bindings := putKey c.bindings x s.bindings.size }
    have hscopes : (s.scopes.modify k (Scope.spelled old new)).modify id
        (put (if id = k ∧ name = old then new else name)) =
          (s.scopes.modify id (put name)).modify k (Scope.spelled old new) := by
      refine modify_swap (fun hid c hc => ?_) fun hid => by simp [hid]
      subst hid
      have hfree' : c.bindings.lookup new = none := by simpa [boundIn, hc] using hfree
      have hput := @putKey_spelled old new name c.bindings hfree' (fun h => hx ⟨rfl, h⟩) s.bindings.size
      simp only [put, Scope.spelled, true_and, hput]
    have hnew : Binding.spelled k old new
        { name := name, kind := kind, identifier := label, node := some node.label, scope := id } =
        { name := if id = k ∧ name = old then new else name, kind := kind, identifier := label,
          node := some node.label, scope := id } := by
      unfold Binding.spelled
      split <;> rfl
    simp only [put] at hscopes
    simp only [spelled, editScope, Array.size_map, Option.map_some, hl, hscopes, Array.map_push, hnew]
  | some b =>
    rw [hb] at hbound
    unfold declare
    rw [show (((s.spelled k old new).scopes[id]?).bind fun c =>
        c.bindings.lookup (if id = k ∧ name = old then new else name)) = some b from hbound,
      show ((s.scopes[id]?).bind fun c => c.bindings.lookup name) = some b from hb]
    dsimp only
    rw [identifier_spelled]
    split
    · rfl
    · simp only [spelled, editBinding, Option.any_some, hi]
      congr 1
      refine map_modify _ fun binding => ?_
      unfold Binding.spelled
      dsimp only
      split <;> rfl

end Declare

/-! ### Carrying out notes -/

section CarryOut

variable {k old new} {s t : ScopeTree} {σ : Nat → String → String}

/-- Whether a note is spelled in the way that the state is. -/
def Note.SpelledAs (k : Nat) (old new : String) (σ : Nat → String → String) (t : ScopeTree) :
    Note → Prop
  | .declares scope hoisted label name _ _ =>
    σ label name = (if t.home hoisted scope = k ∧ name = old then new else name) ∧
      ¬(t.home hoisted scope = k ∧ name = new)
  | _ => True

/-- A scope is opened alike before and after. -/
theorem opens_spelled (kind : String) (node parent : Nat) :
    (s.spelled k old new).carryOut (.opens kind node parent) =
      (s.carryOut (.opens kind node parent)).spelled k old new := by
  have hpush : (s.scopes.modify k (Scope.spelled old new)).push { kind, node, parent := some parent } =
      (s.scopes.push { kind, node, parent := some parent }).modify k (Scope.spelled old new) := by
    refine Array.ext_getElem? fun l => ?_
    rw [Array.getElem?_modify, Array.getElem?_push, Array.getElem?_push, Array.size_modify,
      Array.getElem?_modify]
    by_cases hl : l = s.scopes.size
    · simp [hl, Scope.spelled]
    · simp [hl]
  have hparent : ((s.scopes.push { kind, node, parent := some parent }).modify k
      (Scope.spelled old new)).modify parent
        (fun scope => { scope with children := scope.children.push s.scopes.size }) =
      ((s.scopes.push { kind, node, parent := some parent }).modify parent
        fun scope => { scope with children := scope.children.push s.scopes.size }).modify k
          (Scope.spelled old new) := modify_swap (fun _ _ _ => rfl) fun _ => rfl
  simp only [carryOut, newScope, editScope, spelled, Array.size_modify, hpush, hparent]

/-- One note keeps the two states in step. -/
theorem carryOut_spelled (hs : s.Nested) (hfree : s.boundIn k new = none) (hne : old ≠ new) {n : Note}
    (hn : n.scope < s.scopes.size) (hσ : n.SpelledAs k old new σ s) :
    (s.spelled k old new).carryOut (n.respell σ) = (s.carryOut n).spelled k old new := by
  cases n with
  | opens kind node parent => exact opens_spelled kind node parent
  | stands label scope =>
    rw [Note.respell, carryOut, carryOut, show (s.spelled k old new).scopeOf = s.scopeOf from rfl]
    · split <;> rfl
    · simp
    · simp
  | shares label scope => rfl
  | uses use => rfl
  | declares scope hoisted label name kind node =>
    have hhome : (s.spelled k old new).home hoisted scope = s.home hoisted scope :=
      (extends_spelled k old new).home hs (nested_spelled k old new hs) hn hoisted
    have hinit : initializes (node.respell σ) = initializes node := by
      rw [initializes, initializes, Tree.isKind_respell, Tree.get_respell σ node (by decide),
        Tree.isNull_respell]
    have hstep := @declare_spelled k old new s hfree hne (s.home hoisted scope) label name kind node
      (node.respell σ) hσ.2 (Tree.label_respell σ node) hinit
    rw [← hσ.1] at hstep
    rw [← hhome] at hstep
    rw [Note.respell, carryOut, carryOut]
    rw [show (if hoisted = true then (s.spelled k old new).functionScope scope else scope) =
      (s.spelled k old new).home hoisted scope from rfl, hstep, hhome]
    rfl

/-- A name that is free stays free under notes that are spelled anew. -/
theorem boundIn_carryOut (hs : s.Nested) (hfree : s.boundIn k new = none) {n : Note}
    (hn : n.scope < s.scopes.size) (hσ : n.SpelledAs k old new σ s) :
    (s.carryOut n).boundIn k new = none := by
  cases n with
  | opens kind node parent => rw [boundIn_opens, hfree]
  | stands label scope =>
    rw [carryOut]
    split <;> exact hfree
  | shares label scope => exact hfree
  | uses use => exact hfree
  | declares scope hoisted label name kind node =>
    have hin : s.home hoisted scope < s.scopes.size :=
      (hs.le_of_mem_ancestors (hs.home_mem hn hoisted)).2
    rw [show s.carryOut (.declares scope hoisted label name kind node) =
      (s.declare (s.home hoisted scope) label name kind (some node)).1 from rfl,
      boundIn_declare label kind (some node) hin, if_neg, hfree]
    exact fun hc => hσ.2 ⟨hc.1.symm, hc.2.symm⟩

/-- **All notes.** -/
theorem carryOutAll_spelled (hs : s.Nested) {notes : List Note} (hb : Bounded s.scopes.size notes)
    (hfree : s.boundIn k new = none) (hne : old ≠ new)
    (hσ : ∀ n ∈ notes, n.SpelledAs k old new σ (notes.foldl carryOut s)) :
    (notes.map (Note.respell σ)).foldl carryOut (s.spelled k old new) =
      (notes.foldl carryOut s).spelled k old new := by
  obtain ⟨ht, -, -⟩ := hs.carryOutAll hb
  generalize hend : notes.foldl carryOut s = t at ht hσ
  induction notes generalizing s with
  | nil =>
    rw [List.foldl_nil] at hend
    rw [← hend]
    rfl
  | cons n rest ih =>
    obtain ⟨hn, -, -⟩ := hs.carryOut hb.1
    obtain ⟨-, he, -⟩ := hs.carryOutAll hb
    rw [hend] at he
    rw [List.foldl_cons] at hend
    have hb' := hs.bounded_carryOut hb
    -- the scope that receives the declaration is that of the end
    have hhead : n.SpelledAs k old new σ s := by
      have := hσ n List.mem_cons_self
      cases n with
      | declares scope hoisted label name kind node =>
        have hhome : t.home hoisted scope = s.home hoisted scope := he.home hs ht hb.1 hoisted
        rwa [Note.SpelledAs, hhome] at this
      | _ => trivial
    rw [List.map_cons, List.foldl_cons, carryOut_spelled hs hfree hne hb.1 hhead]
    exact ih hn hb' (boundIn_carryOut hs hfree hb.1 hhead) hend
      fun m hm => hσ m (List.mem_cons_of_mem _ hm)

end CarryOut

/-! ### Looking up -/

section Lookup

variable {k old new} {s : ScopeTree} {b i : Nat} {x : String}

theorem findSome?_of_mem {f : Nat → Option Nat} {chain : List Nat} (hk : k ∈ chain) (hb : f k = some b)
    (h : ∀ a ∈ chain, a ≠ k → f a = none) : chain.findSome? f = some b := by
  induction chain with
  | nil => cases hk
  | cons a rest ih =>
    rw [List.findSome?_cons]
    by_cases ha : a = k
    · rw [ha, hb]
    · rw [h a List.mem_cons_self ha]
      exact ih ((List.mem_cons.mp hk).resolve_left (Ne.symm ha))
        fun c hc => h c (List.mem_cons_of_mem _ hc)

theorem findSome?_congr_of_ne {f g : Nat → Option Nat} {chain : List Nat}
    (h : ∀ a ∈ chain, a ≠ k → g a = f a) (hk : k ∈ chain → f k = g k ∨ f k = some b)
    (hb : chain.findSome? f ≠ some b) : chain.findSome? g = chain.findSome? f := by
  induction chain with
  | nil => rfl
  | cons a rest ih =>
    rw [List.findSome?_cons] at hb ⊢
    rw [List.findSome?_cons]
    have hhead : g a = f a := by
      by_cases ha : a = k
      · rcases hk (ha ▸ List.mem_cons_self) with he | he
        · rw [ha, he]
        · rw [ha, he] at hb
          exact absurd rfl hb
      · exact h a List.mem_cons_self ha
    rw [hhead]
    cases hf : f a with
    | some c => rfl
    | none =>
      rw [hf] at hb
      exact ih (fun c hc => h c (List.mem_cons_of_mem _ hc))
        (fun hm => hk (List.mem_cons_of_mem _ hm)) hb

/-- Names are looked up along the same way out. -/
theorem lookup_spelled_eq (hs : s.Nested) (hi : i < s.scopes.size) : (s.spelled k old new).lookup i x =
    (s.ancestors i).findSome? ((s.spelled k old new).boundIn · x) := by
  rw [lookup_eq, (extends_spelled k old new).ancestors hs (nested_spelled k old new hs) hi]

/-- Where the old name led to the binding, the new one does. -/
theorem lookup_spelled_new (hs : s.Nested) (hfree : s.FreeAround k new) (hne : old ≠ new)
    (hb : s.boundIn k old = some b) (hi : i < s.scopes.size) (hk : k ∈ s.ancestors i) :
    (s.spelled k old new).lookup i new = some b := by
  have hbound := @boundIn_spelled k old new s (hfree.boundIn hs hb) hne
  rw [lookup_spelled_eq hs hi]
  refine findSome?_of_mem hk ?_ fun a ha hak => ?_
  · rw [hbound, if_pos rfl, if_pos rfl, hb]
  · rw [hbound, if_neg hak, hfree i hk a ha]

/-- What did not lead to the binding leads to where it did. -/
theorem lookup_spelled_other (hs : s.Nested) (hfree : s.boundIn k new = none) (hne : old ≠ new)
    (hb : s.boundIn k old = some b) (hi : i < s.scopes.size) (hx : x = new → k ∉ s.ancestors i)
    (hl : s.lookup i x ≠ some b) : (s.spelled k old new).lookup i x = s.lookup i x := by
  have hbound := @boundIn_spelled k old new s hfree hne
  rw [lookup_spelled_eq hs hi, lookup_eq]
  refine @findSome?_congr_of_ne k b _ _ _ (fun a _ hak => ?_) (fun hk => ?_) hl
  · rw [hbound, if_neg hak]
  · by_cases ho : x = old
    · exact .inr (ho ▸ hb)
    · rw [hbound, if_pos rfl, if_neg fun hn => hx hn hk, if_neg ho]
      exact .inl rfl

end Lookup

/-! ### Resolving uses -/

section Resolve

variable {k old new} {s : ScopeTree} {σ : Nat → String → String}

/-- Whether a use is spelled in the way that the state is: it is resolved alike, and a global one
keeps its name. -/
structure Use.SpelledAs (k : Nat) (old new : String) (σ : Nat → String → String) (s : ScopeTree)
    (u : Use) : Prop where
  lookup : (s.spelled k old new).lookup u.scope (σ u.label u.name) = s.lookup u.scope u.name
  global : s.lookup u.scope u.name = none → σ u.label u.name = u.name

/-- **One more use** keeps the two states in step. -/
theorem resolve_spelled {u : Use} (h : u.SpelledAs k old new σ s) :
    (s.spelled k old new).resolve (u.respell σ) = (s.resolve u).spelled k old new := by
  obtain ⟨label, name, parent, scope, writes⟩ := u
  obtain ⟨hlookup, hglobal⟩ := h
  have hsame (t : ScopeTree) := @lookup_congr t { t with parentOf := t.parentOf.insert label parent } rfl
  simp only [resolve, Use.respell, addReference, hsame, hlookup]
  cases hl : s.lookup scope name with
  | none =>
    rw [hglobal hl]
    cases writes <;> rfl
  | some b =>
    simp only [spelled, editBinding]
    congr 1
    refine map_modify _ fun binding => ?_
    by_cases hc : binding.scope = k ∧ binding.name = old <;> cases writes <;> simp [Binding.spelled, hc]

/-- **Uses resolve alike** before and after. -/
theorem resolveAll_spelled {uses : List Use} (h : ∀ u ∈ uses, u.SpelledAs k old new σ s) :
    (uses.map (Use.respell σ)).foldl resolve (s.spelled k old new) =
      (uses.foldl resolve s).spelled k old new := by
  induction uses generalizing s with
  | nil => rfl
  | cons u rest ih =>
    rw [List.map_cons, List.foldl_cons, List.foldl_cons, resolve_spelled (h u List.mem_cons_self)]
    refine ih fun w hw => ?_
    have hscopes : ((s.resolve u).spelled k old new).scopes = (s.spelled k old new).scopes := by
      rw [spelled, scopes_resolve]
      rfl
    obtain ⟨hlookup, hglobal⟩ := h w (List.mem_cons_of_mem _ hw)
    exact ⟨by rw [lookup_congr hscopes, lookup_resolve, hlookup], by rwa [lookup_resolve]⟩

end Resolve

end ScopeTree

end Deminify
