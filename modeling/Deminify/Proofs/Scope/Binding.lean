import Deminify.Proofs.Scope.Walk

/-!
# What the declarations come to

Carrying out the notes of declarations, one by one, fills the scopes with bindings. What comes out
depends only on the declarations themselves, in their order (`Deminify.Declaration`): a name is bound
in a scope if it is declared there at all, the first declaration gives the binding its identifier,
and the later ones count as declarations once more, and as writes if they give the name a value.
`Deminify.ScopeTree.Binds` says this of a state; **declaring one more name keeps it**
(`Deminify.ScopeTree.Binds.declare`), so it holds when all notes are carried out
(`Deminify.ScopeTree.Binds.carryOutAll`).
-/

namespace Deminify

/-- A name that is declared: the scope that receives it, the label of the name, its spelling, and
whether it gets a value right away. -/
structure Declaration where
  home : Nat
  label : Nat
  name : String
  initializes : Bool

/-- Whether a declaration puts a name into a scope. -/
def Declaration.isOf (k : Nat) (name : String) (d : Declaration) : Bool := d.home == k && d.name == name

/-- Whether another declaration of the same name gives it a value. -/
def Declaration.isRewrittenBy (first d : Declaration) : Bool :=
  d.label != first.label && d.initializes

theorem filter_isOf_append (ds : List Declaration) (d : Declaration) (k : Nat) (name : String) :
    (ds ++ [d]).filter (Declaration.isOf k name) =
      ds.filter (Declaration.isOf k name) ++ if k = d.home ∧ name = d.name then [d] else [] := by
  rw [List.filter_append]
  congr 1
  by_cases h : k = d.home ∧ name = d.name
  · simp [Declaration.isOf, h.1, h.2]
  · rw [if_neg h, List.filter_cons, if_neg, List.filter_nil]
    simp only [Declaration.isOf, Bool.and_eq_true, beq_iff_eq]
    exact fun hc => h ⟨hc.1.symm, hc.2.symm⟩

namespace Binding

/-- What a binding knows of the declarations of its name in its scope, of which there is a first. -/
structure Of (binding : Binding) (k : Nat) (name : String) (first : Declaration)
    (more : List Declaration) : Prop where
  name : binding.name = name
  scope : binding.scope = k
  identifier : binding.identifier = first.label
  references : binding.references = #[]
  redeclarations : binding.redeclarations.toList =
    (more.filter (·.label != first.label)).map (·.label)
  writes : binding.writes.toList = (more.filter first.isRewrittenBy).map (·.label)

/-- What a binding takes from one more declaration of its name. -/
def declaredAgain (binding : Binding) (label : Nat) (initializes : Bool) : Binding :=
  if binding.identifier == label then binding
  else { binding with
    redeclarations := binding.redeclarations.push label
    writes := if initializes then binding.writes.push label else binding.writes }

theorem Of.declaredAgain {binding : Binding} {k : Nat} {name : String} {first : Declaration}
    {more : List Declaration} (h : binding.Of k name first more) (d : Declaration) :
    (binding.declaredAgain d.label d.initializes).Of k name first (more ++ [d]) := by
  obtain ⟨hn, hs, hi, hr, hd, hw⟩ := h
  unfold Binding.declaredAgain
  by_cases hl : first.label = d.label
  · rw [if_pos (by simp [hi, hl])]
    exact ⟨hn, hs, hi, hr, by simp [hd, hl], by simp [hw, hl, Declaration.isRewrittenBy]⟩
  · rw [if_neg (by simp [hi, hl])]
    refine ⟨hn, hs, hi, hr, by simp [hd, Ne.symm hl], ?_⟩
    cases hinit : d.initializes <;> simp [hw, Ne.symm hl, hinit, Declaration.isRewrittenBy]

end Binding

namespace ScopeTree

/-- The number of the binding of a name in a scope. -/
def boundIn (s : ScopeTree) (k : Nat) (name : String) : Option Nat :=
  (s.scopes[k]?).bind (·.bindings.lookup name)

theorem lookup_eq (s : ScopeTree) (k : Nat) (name : String) :
    s.lookup k name = (s.ancestors k).findSome? (s.boundIn · name) := rfl

/-- **Whether the bindings are those of the declarations.** -/
structure Binds (s : ScopeTree) (ds : List Declaration) : Prop where
  found : ∀ {k name b}, s.boundIn k name = some b → ∃ binding first more,
    s.bindings[b]? = some binding ∧ ds.filter (Declaration.isOf k name) = first :: more ∧
      binding.Of k name first more
  missing : ∀ {k name}, s.boundIn k name = none → ds.filter (Declaration.isOf k name) = []
  numbered : ∀ {b binding}, s.bindings[b]? = some binding →
    s.boundIn binding.scope binding.name = some b
  known : ∀ l, s.bindingOf.get? l =
    (ds.reverse.find? (·.label == l)).bind fun d => s.boundIn d.home d.name

/-! ### Declaring one name -/

section Declare

variable {s : ScopeTree} {k b : Nat} {name : String} (label : Nat) (kind : String) (node : Option Tree)

theorem boundIn_editScope {f : Scope → Scope} {id : Nat} : (s.editScope id f).boundIn k name =
    if id = k then (s.scopes[k]?).bind fun c => (f c).bindings.lookup name else s.boundIn k name := by
  simp only [boundIn, editScope, Array.getElem?_modify]
  split
  · cases s.scopes[k]? <;> rfl
  · rfl

/-- A name that is declared is bound, and other names are bound as before. -/
theorem boundIn_declare (hk : k < s.scopes.size) (k' : Nat) (name' : String) :
    (s.declare k label name kind node).1.boundIn k' name' =
      if k' = k ∧ name' = name then some (s.declare k label name kind node).2
      else s.boundIn k' name' := by
  unfold declare
  cases hb : (s.scopes[k]?).bind (·.bindings.lookup name) with
  | none =>
    dsimp only
    rw [boundIn_editScope]
    by_cases h : k = k'
    · subst h
      simp only [if_true, true_and, lookup_putKey, boundIn, Array.getElem?_eq_getElem hk,
        Option.bind_some]
    · rw [if_neg h, if_neg fun hc => h hc.1.symm]
      rfl
  | some b =>
    have hsame : ∀ t : ScopeTree, t.scopes = s.scopes → t.boundIn k' name' =
        if k' = k ∧ name' = name then some b else s.boundIn k' name' := by
      intro t ht
      rw [boundIn, ht]
      split
      · rename_i h
        rw [h.1, h.2, hb]
      · rfl
    refine hsame _ ?_
    dsimp only
    split <;> rfl

theorem get?_insert {α : Type} {table : Std.TreeMap Nat α} {key l : Nat} {a : α} :
    (table.insert key a).get? l = if key = l then some a else table.get? l := by
  rw [Std.TreeMap.get?_eq_getElem?, Std.TreeMap.getElem?_insert]
  simp

theorem bindingOf_declare (l : Nat) : (s.declare k label name kind node).1.bindingOf.get? l =
    if label = l then some (s.declare k label name kind node).2 else s.bindingOf.get? l := by
  unfold declare
  split
  · exact get?_insert
  · dsimp only
    split <;> exact get?_insert

/-- A declaration does not touch what is global. -/
theorem globals_declare : (s.declare k label name kind node).1.globals = s.globals ∧
    (s.declare k label name kind node).1.globalWrites = s.globalWrites := by
  unfold declare
  split
  · exact ⟨rfl, rfl⟩
  · dsimp only
    split <;> exact ⟨rfl, rfl⟩

/-- A name that is not bound gets a new binding. -/
theorem declare_of_missing (h : s.boundIn k name = none) :
    (s.declare k label name kind node).2 = s.bindings.size ∧
      (s.declare k label name kind node).1.bindings =
        s.bindings.push { name, kind, identifier := label, node := node.map Tree.label, scope := k } := by
  unfold declare
  rw [show (s.scopes[k]?).bind (·.bindings.lookup name) = none from h]
  exact ⟨rfl, rfl⟩

/-- A name that is bound is declared once more. -/
theorem declare_of_found {binding : Binding} (h : s.boundIn k name = some b)
    (hb : s.bindings[b]? = some binding) :
    (s.declare k label name kind node).2 = b ∧
      (s.declare k label name kind node).1.bindings =
        s.bindings.modify b (·.declaredAgain label (node.any initializes)) := by
  have hself : s.binding b = binding := by rw [ScopeTree.binding, hb, Option.getD_some]
  unfold declare
  rw [show (s.scopes[k]?).bind (·.bindings.lookup name) = some b from h]
  refine ⟨rfl, ?_⟩
  dsimp only
  rw [hself]
  refine Array.ext_getElem? fun i => ?_
  by_cases hi : b = i
  · subst hi
    by_cases hl : binding.identifier = label
    · simp [hl, hb, Array.getElem?_modify, Binding.declaredAgain]
    · simp [hl, hb, Array.getElem?_modify, Binding.declaredAgain, editBinding]
  · split <;> simp [hi, Array.getElem?_modify, editBinding]

end Declare

section Kept

variable {s : ScopeTree} {ds : List Declaration} {k : Nat} {name : String}

/-- What is declared is bound. -/
theorem Binds.exists_boundIn (h : s.Binds ds) {d : Declaration} (hd : d ∈ ds) :
    ∃ b, s.boundIn d.home d.name = some b := by
  cases hb : s.boundIn d.home d.name with
  | some b => exact ⟨b, rfl⟩
  | none =>
    have hmem : d ∈ ds.filter (Declaration.isOf d.home d.name) :=
      List.mem_filter.mpr ⟨hd, by simp [Declaration.isOf]⟩
    rw [h.missing hb] at hmem
    cases hmem

variable (label : Nat) (kind : String) (node : Tree)

/-- The binding of a name once it is declared, with all its declarations. -/
theorem Binds.declared (h : s.Binds ds) : ∃ binding first more,
    (s.declare k label name kind (some node)).1.bindings[(s.declare k label name kind (some node)).2]? =
      some binding ∧
    ds.filter (Declaration.isOf k name) ++ [⟨k, label, name, initializes node⟩] = first :: more ∧
      binding.Of k name first more := by
  cases hb : s.boundIn k name with
  | none =>
    obtain ⟨h2, h1⟩ := declare_of_missing label kind (some node) hb
    refine ⟨{ name, kind, identifier := label, node := some node.label, scope := k },
      ⟨k, label, name, initializes node⟩, [], ?_, ?_, ⟨rfl, rfl, rfl, rfl, rfl, rfl⟩⟩
    · rw [h1, h2, Array.getElem?_push_size, Option.map_some]
    · rw [h.missing hb, List.nil_append]
  | some b =>
    obtain ⟨binding, first, more, hbinding, hfilter, hof⟩ := h.found hb
    obtain ⟨h2, h1⟩ := declare_of_found label kind (some node) hb hbinding
    refine ⟨_, first, more ++ [_], ?_, ?_, hof.declaredAgain ⟨k, label, name, initializes node⟩⟩
    · rw [h1, h2, Array.getElem?_modify, if_pos rfl, hbinding]
      rfl
    · rw [hfilter, List.cons_append]

/-- Other bindings stay as they are. -/
theorem Binds.declare_ne (h : s.Binds ds) {b : Nat} (hb : b ≠ (s.declare k label name kind (some node)).2) :
    (s.declare k label name kind (some node)).1.bindings[b]? = s.bindings[b]? := by
  cases hbound : s.boundIn k name with
  | none =>
    obtain ⟨h2, h1⟩ := declare_of_missing label kind (some node) hbound
    rw [h1, Array.getElem?_push, if_neg (by rwa [h2] at hb)]
  | some b' =>
    obtain ⟨binding, first, more, hbinding, -⟩ := h.found hbound
    obtain ⟨h2, h1⟩ := declare_of_found label kind (some node) hbound hbinding
    rw [h1, Array.getElem?_modify, if_neg (by rw [h2] at hb; exact Ne.symm hb)]

/-- The name keeps its binding if it has one. -/
theorem Binds.declare_snd (h : s.Binds ds) {b : Nat} (hb : s.boundIn k name = some b) :
    (s.declare k label name kind (some node)).2 = b := by
  obtain ⟨binding, first, more, hbinding, -⟩ := h.found hb
  exact (declare_of_found label kind (some node) hb hbinding).1

/-- The binding that a name gets belongs to no other. -/
theorem Binds.boundIn_ne (h : s.Binds ds) {k' b : Nat} {name' : String}
    (hb : s.boundIn k' name' = some b) (hne : ¬(k' = k ∧ name' = name)) :
    b ≠ (s.declare k label name kind (some node)).2 := by
  rintro rfl
  obtain ⟨binding, first, more, hbinding, -, hof⟩ := h.found hb
  cases hbound : s.boundIn k name with
  | none =>
    rw [(declare_of_missing label kind (some node) hbound).1] at hbinding
    simp at hbinding
  | some b' =>
    obtain ⟨binding', first', more', hbinding', -, hof'⟩ := h.found hbound
    rw [h.declare_snd label kind node hbound, hbinding'] at hbinding
    cases hbinding
    exact hne ⟨hof.scope.symm.trans hof'.scope, hof.name.symm.trans hof'.name⟩

/-- **One more declaration.** -/
theorem Binds.declare (h : s.Binds ds) (hk : k < s.scopes.size) :
    (s.declare k label name kind (some node)).1.Binds (ds ++ [⟨k, label, name, initializes node⟩]) := by
  obtain ⟨binding, first, more, hbinding, hfilter, hof⟩ :=
    @Binds.declared s ds k name label kind node h
  have hbound := @boundIn_declare s k name label kind (some node) hk
  -- each part asks whether the name is the one that is declared now, in the scope where it is declared
  refine ⟨?_, ?_, ?_, ?_⟩
  · intro k' name' b hb
    rw [hbound] at hb
    rw [filter_isOf_append]
    split at hb
    · rename_i hc
      obtain ⟨rfl, rfl⟩ := hc
      cases hb
      exact ⟨binding, first, more, hbinding, by simpa using hfilter, hof⟩
    · rename_i hc
      rw [if_neg hc, List.append_nil, h.declare_ne label kind node (h.boundIn_ne label kind node hb hc)]
      exact h.found hb
  · intro k' name' hb
    rw [hbound] at hb
    rw [filter_isOf_append]
    split at hb
    · cases hb
    · rename_i hc
      rw [if_neg hc, List.append_nil, h.missing hb]
  · intro b binding' hb
    rw [hbound]
    by_cases hne : b = (s.declare k label name kind (some node)).2
    · subst hne
      rw [hbinding] at hb
      cases hb
      rw [if_pos ⟨hof.scope, hof.name⟩]
    · rw [h.declare_ne label kind node hne] at hb
      have hnum := h.numbered hb
      rw [if_neg, hnum]
      rintro ⟨hs, hn⟩
      rw [hs, hn] at hnum
      exact hne (h.declare_snd label kind node hnum).symm
  · intro l
    rw [bindingOf_declare, List.reverse_append, List.reverse_singleton, List.singleton_append,
      List.find?_cons]
    by_cases hl : label = l
    · rw [if_pos hl, beq_iff_eq.mpr hl, Option.bind_some, hbound, if_pos ⟨rfl, rfl⟩]
    · rw [if_neg hl, beq_eq_false_iff_ne.mpr hl, h.known l]
      cases hfind : ds.reverse.find? (·.label == l) with
      | none => rfl
      | some d =>
        obtain ⟨b, hb⟩ := h.exists_boundIn (List.mem_reverse.mp (List.mem_of_find?_eq_some hfind))
        rw [Option.bind_some, Option.bind_some, hb, hbound]
        split
        · rename_i hc
          rw [hc.1, hc.2] at hb
          rw [h.declare_snd label kind node hb]
        · exact hb.symm

end Kept

/-! ### Carrying out notes -/

section CarryOut

variable {s t : ScopeTree} {ds : List Declaration}

/-- The declarations among notes, given the scopes that receive them. -/
def declarations (t : ScopeTree) (notes : List Note) : List Declaration :=
  notes.filterMap fun
    | .declares scope hoisted label name _ node =>
      some ⟨t.home hoisted scope, label, name, initializes node⟩
    | _ => none

theorem declarations_append (t : ScopeTree) (a b : List Note) :
    t.declarations (a ++ b) = t.declarations a ++ t.declarations b :=
  List.filterMap_append

theorem Binds.congr (h : s.Binds ds) (hbound : t.boundIn = s.boundIn) (hbindings : t.bindings = s.bindings)
    (hknown : t.bindingOf = s.bindingOf) : t.Binds ds :=
  ⟨by rw [hbound, hbindings]; exact h.found, by rw [hbound]; exact h.missing,
    by rw [hbound, hbindings]; exact h.numbered, by rw [hbound, hknown]; exact h.known⟩

theorem boundIn_opens (kind : String) (node parent : Nat) :
    (s.carryOut (.opens kind node parent)).boundIn = s.boundIn := by
  funext k name
  have hpush : ((s.scopes.push { kind, node, parent := some parent })[k]?).bind (·.bindings.lookup name) =
      s.boundIn k name := by
    rw [Array.getElem?_push]
    split
    · rename_i hk
      simp [boundIn, hk]
    · rfl
  rw [carryOut, newScope]
  dsimp only
  rw [boundIn_editScope]
  split
  · exact hpush
  · exact hpush

/-- One note: a declaration counts, and nothing else does. -/
theorem Binds.carryOut (h : s.Binds ds) (hs : s.Nested) (ht : t.Nested) (he : Extends s t) {n : Note}
    (hn : n.scope < s.scopes.size) : (s.carryOut n).Binds (ds ++ declarations t [n]) := by
  cases n with
  | declares scope hoisted label name kind node =>
    have hhome : s.home hoisted scope = t.home hoisted scope := (he.home hs ht hn hoisted).symm
    have hin := (hs.le_of_mem_ancestors (hs.home_mem hn hoisted)).2
    have hstep := @Binds.declare s ds (s.home hoisted scope) name label kind node h hin
    rw [hhome] at hstep
    simp only [ScopeTree.carryOut, declarations, List.filterMap_cons, List.filterMap_nil]
    rw [← hhome] at hstep ⊢
    exact hstep
  | opens kind node parent =>
    simp only [declarations, List.filterMap_cons, List.filterMap_nil, List.append_nil]
    exact h.congr (boundIn_opens kind node parent) rfl rfl
  | stands label scope =>
    simp only [declarations, List.filterMap_cons, List.filterMap_nil, List.append_nil]
    rw [ScopeTree.carryOut]
    split
    · exact h
    · exact h.congr rfl rfl rfl
  | shares label scope =>
    simp only [declarations, List.filterMap_cons, List.filterMap_nil, List.append_nil]
    exact h.congr rfl rfl rfl
  | uses use =>
    simp only [declarations, List.filterMap_cons, List.filterMap_nil, List.append_nil]
    exact h

/-- **All notes.** -/
theorem Binds.carryOutAll (h : s.Binds ds) (hs : s.Nested) {notes : List Note}
    (hb : Bounded s.scopes.size notes) :
    (notes.foldl ScopeTree.carryOut s).Binds
      (ds ++ declarations (notes.foldl ScopeTree.carryOut s) notes) := by
  obtain ⟨ht, -, -⟩ := hs.carryOutAll hb
  -- the scopes that receive the declarations are those at the end, so the end is fixed first
  generalize hend : notes.foldl ScopeTree.carryOut s = t at ht
  induction notes generalizing s ds with
  | nil =>
    rw [List.foldl_nil] at hend
    simpa [declarations, ← hend] using h
  | cons n rest ih =>
    obtain ⟨hn, -, -⟩ := hs.carryOut hb.1
    rw [List.foldl_cons] at hend
    have hb' := hs.bounded_carryOut hb
    obtain ⟨-, he, -⟩ := hs.carryOutAll hb
    rw [List.foldl_cons, hend] at he
    have hstep := h.carryOut hs ht he hb.1
    have hrest := ih hstep hn hb' hend
    rwa [List.append_assoc, ← declarations_append, List.singleton_append] at hrest

end CarryOut

end ScopeTree

end Deminify
