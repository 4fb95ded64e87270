import Deminify.Proofs.Scope.Capture

/-!
# Who owns a name

A name that a view keeps track of is owned either by a binding that some scope holds or by the list of
a global name (`Deminify.ScopeTree.Owns`). What a change of the view does is said once for each change,
in these terms: a name that is owned afterwards was owned before, by the same owner or by the one that
has handed its names over, or it is the one name that came in. Along with that each change keeps the
filing in order (`Deminify.ScopeTree.Filed`): a scope holds a binding under its name, and no table has
a name twice.
-/

namespace Deminify

/-! ### Tables -/

section Tables

variable {α : Type} {fields : List (String × α)} {key : String} {value : α}

/-- Whether a table has each name once at most. -/
def Keyed (fields : List (String × α)) : Prop := (fields.map (·.1)).Nodup

theorem Keyed.nil : Keyed ([] : List (String × α)) := List.nodup_nil

/-- What a table holds is what it finds. -/
theorem Keyed.mem_iff (h : Keyed fields) : (key, value) ∈ fields ↔ fields.lookup key = some value := by
  refine ⟨fun hm => ?_, mem_of_lookup⟩
  induction fields with
  | nil => cases hm
  | cons f rest ih =>
    obtain ⟨k, v⟩ := f
    obtain ⟨hk, hrest⟩ := List.nodup_cons.mp h
    rw [lookup_cons_ite]
    rcases List.mem_cons.mp hm with he | hin
    · cases he
      rw [if_pos rfl]
    · have hne : key ≠ k := by
        rintro rfl
        exact hk (List.mem_map.mpr ⟨_, hin, rfl⟩)
      rw [if_neg hne]
      exact ih hrest hin

theorem Keyed.putKey (h : Keyed fields) : Keyed (Deminify.putKey fields key value) := by
  rw [Keyed, keys_putKey]
  split
  · exact h
  · rename_i hnew
    refine List.nodup_append.mpr ⟨h, List.nodup_singleton _, ?_⟩
    rintro a ha b hb rfl
    exact hnew (List.mem_singleton.mp hb ▸ ha)

theorem Keyed.filter (h : Keyed fields) (p : String × α → Bool) : Keyed (fields.filter p) :=
  h.sublist (List.filter_sublist.map _)

end Tables

namespace ScopeTree

/-! ### Lists of labels by name -/

section Labels

variable {table : List (String × Array Nat)}

/-- The labels that a table has under a name. -/
def listed (table : List (String × Array Nat)) (x : String) : Array Nat := (table.lookup x).getD #[]

/-- A label is put behind those of its name. -/
theorem listed_pushLabel (x : String) (l : Nat) (y : String) :
    listed (pushLabel table x l) y = if y = x then (listed table x).push l else listed table y := by
  rw [listed, pushLabel, lookup_putKey]
  split <;> rfl

/-- A label is taken out once, of its name. -/
theorem listed_dropLabel (x : String) (l : Nat) (y : String) :
    listed (dropLabel table x l) y = if y = x then (listed table x).erase l else listed table y := by
  rw [listed, dropLabel]
  split
  · rename_i hempty
    rw [lookup_filter_ne]
    by_cases hy : y = x
    · rw [if_pos hy.symm, if_pos hy]
      exact (Array.isEmpty_iff.mp hempty).symm
    · rw [if_neg (Ne.symm hy), if_neg hy]
      rfl
  · rw [lookup_putKey]
    split <;> rfl

/-- The labels of a name go behind those of another one. -/
theorem listed_moveLabels (old new y : String) : listed (moveLabels table old new) y =
    (if y = old then #[] else listed table y) ++ if y = new then listed table old else #[] := by
  have hrest : listed (table.filter (·.1 != old)) y = if y = old then #[] else listed table y := by
    rw [listed, lookup_filter_ne]
    by_cases hy : y = old
    · rw [if_pos hy.symm, if_pos hy]
      rfl
    · rw [if_neg (Ne.symm hy), if_neg hy]
      rfl
  rw [← hrest, moveLabels]
  split
  · rename_i hempty
    have hold : listed table old = #[] := Array.isEmpty_iff.mp hempty
    rw [hold]
    split <;> exact Array.append_empty.symm
  · rw [listed, lookup_putKey]
    by_cases hy : y = new
    · subst hy
      rw [if_pos rfl, if_pos rfl]
      rfl
    · rw [if_neg hy, if_neg hy, Array.append_empty]
      rfl

theorem keyed_pushLabel (h : Keyed table) (x : String) (l : Nat) :
    Keyed (pushLabel table x l) := h.putKey

theorem keyed_dropLabel (h : Keyed table) (x : String) (l : Nat) :
    Keyed (dropLabel table x l) := by
  rw [dropLabel]
  split
  · exact h.filter _
  · exact h.putKey

theorem keyed_moveLabels (h : Keyed table) (old new : String) :
    Keyed (moveLabels table old new) := by
  rw [moveLabels]
  split
  · exact h.filter _
  · exact (h.filter _).putKey

end Labels

/-! ### Filing -/

/-- **Whether a view files what it knows under the right names.** -/
structure Filed (s : ScopeTree) : Prop where
  keyed : ∀ {k : Nat} {c : Scope}, s.scopes[k]? = some c → Keyed c.bindings
  named : ∀ {k x b}, s.boundIn k x = some b →
    b < s.bindings.size ∧ (s.binding b).scope = k ∧ (s.binding b).name = x
  globals : Keyed s.globals
  globalWrites : Keyed s.globalWrites

section Filed

variable {s t : ScopeTree} {k b : Nat} {x : String}

theorem binding_modify {f : Binding → Binding} {id : Nat} (ht : t.bindings = s.bindings.modify id f)
    (hb : b < s.bindings.size) :
    t.binding b = if id = b then f (s.binding b) else s.binding b := by
  rw [binding, ht, Array.getElem?_modify, binding, Array.getElem?_eq_getElem hb]
  split <;> rfl

/-- Names stay apart in a scope if an edit keeps them apart. -/
theorem keyed_editScope (h : ∀ {k : Nat} {c : Scope}, s.scopes[k]? = some c → Keyed c.bindings)
    {f : Scope → Scope} (hf : ∀ c, Keyed c.bindings → Keyed (f c).bindings) {id : Nat} {c : Scope}
    (hc : (s.editScope id f).scopes[k]? = some c) : Keyed c.bindings := by
  rw [editScope, Array.getElem?_modify] at hc
  split at hc
  · obtain ⟨c', hc', rfl⟩ := Option.map_eq_some_iff.mp hc
    exact hf c' (h hc')
  · exact h hc

/-- What is found is bound in some scope. -/
theorem exists_boundIn_of_lookup {id : Nat} (h : s.lookup id x = some b) :
    ∃ k, s.boundIn k x = some b := by
  rw [lookup_eq] at h
  obtain ⟨k, -, hk⟩ := List.exists_of_findSome?_eq_some h
  exact ⟨k, hk⟩

/-- What is bound in a scope is found from there. -/
theorem lookup_of_boundIn {x : String} (h : s.boundIn k x = some b) : s.lookup k x = some b := by
  rw [boundIn, Option.bind_eq_some_iff] at h
  obtain ⟨c, hc, hb⟩ := h
  have hpos : 0 < s.scopes.size := Nat.zero_lt_of_lt (Array.getElem?_eq_some_iff.mp hc).1
  obtain ⟨n, hn⟩ := Nat.exists_eq_succ_of_ne_zero hpos.ne'
  simp only [lookup, ancestors, hn, ancestorsWithin, hc, List.findSome?_cons, Option.bind_some, hb]

namespace Filed

/-- A name that is made up means nothing from the scope. -/
theorem lookup_generateName (h : s.Filed) (base : String) (k : Nat) :
    s.lookup k (s.generateName base k) = none := by
  have hfree : s.nameInUse k (s.generateName base k) = false := by
    refine nameInUse_generateName (fun {k x b} hb => ?_) base k
    obtain ⟨hlt, -, hname⟩ := h.named hb
    refine ⟨s.bindings[b], Array.getElem?_eq_getElem hlt, ?_⟩
    rw [← hname, binding, Array.getElem?_eq_getElem hlt, Option.getD_some]
  simp only [nameInUse, Bool.or_eq_false_iff] at hfree
  simpa using hfree.1.2

/-- A name that is generated for a scope is not bound there. -/
theorem boundIn_generateName (h : s.Filed) (base : String) (k : Nat) :
    s.boundIn k (s.generateName base k) = none := by
  cases hb : s.boundIn k (s.generateName base k) with
  | none => rfl
  | some b =>
    have hnone := h.lookup_generateName base k
    rw [lookup_of_boundIn hb] at hnone
    cases hnone

/-- A binding is filed under its own name in its own scope. -/
theorem boundIn_self (h : s.Filed) (hb : s.boundIn k x = some b) :
    s.boundIn (s.binding b).scope (s.binding b).name = some b := by
  obtain ⟨-, hscope, hname⟩ := h.named hb
  rw [hscope, hname]
  exact hb

/-- A binding is filed once. -/
theorem unique (h : s.Filed) {k' : Nat} {x' : String} (hb : s.boundIn k x = some b)
    (hb' : s.boundIn k' x' = some b) : k' = k ∧ x' = x := by
  obtain ⟨-, hscope, hname⟩ := h.named hb
  obtain ⟨-, hscope', hname'⟩ := h.named hb'
  exact ⟨hscope'.symm.trans hscope, hname'.symm.trans hname⟩

/-- Filing is kept where the scopes stay and bindings keep their places. -/
theorem of_modify (h : s.Filed) (hscopes : t.scopes = s.scopes) {f : Binding → Binding} {id : Nat}
    (ht : t.bindings = s.bindings.modify id f)
    (hf : ∀ c, (f c).scope = c.scope ∧ (f c).name = c.name)
    (hglobals : Keyed t.globals) (hwrites : Keyed t.globalWrites) : t.Filed := by
  refine ⟨fun hc => h.keyed (hscopes ▸ hc), fun hb => ?_, hglobals, hwrites⟩
  rw [boundIn_of_scopes hscopes] at hb
  obtain ⟨hlt, hscope, hname⟩ := h.named hb
  refine ⟨by rwa [ht, Array.size_modify], ?_⟩
  rw [binding_modify ht hlt]
  split
  · exact ⟨(hf _).1.trans hscope, (hf _).2.trans hname⟩
  · exact ⟨hscope, hname⟩

/-- Filing is kept where scopes and bindings stay. -/
theorem of_eq (h : s.Filed) (hscopes : t.scopes = s.scopes) (ht : t.bindings = s.bindings)
    (hglobals : Keyed t.globals) (hwrites : Keyed t.globalWrites) : t.Filed := by
  refine ⟨fun hc => h.keyed (hscopes ▸ hc), fun hb => ?_, hglobals, hwrites⟩
  rw [boundIn_of_scopes hscopes] at hb
  rw [binding, ht]
  exact h.named hb

end Filed

end Filed

/-! ### Owners -/

/-- What owns a name: a binding, or the list of a global name. -/
inductive Owner where
  | binding (b : Nat)
  | global (name : String)
  deriving DecidableEq

/-- Whether some scope holds a binding. -/
def Holds (s : ScopeTree) (b : Nat) : Prop := ∃ k x, s.boundIn k x = some b

/-- **Whether the name with a label is owned.** -/
def Owns (s : ScopeTree) : Owner → Nat → Prop
  | .binding b, l => s.Holds b ∧ l ∈ (s.binding b).identifiers
  | .global x, l => l ∈ listed s.globals x

/-- The name of what an owner owns. -/
def nameOf (s : ScopeTree) : Owner → String
  | .binding b => (s.binding b).name
  | .global x => x

/-- Owners keep their names where bindings stay filed as they are. -/
theorem nameOf_eq {s t : ScopeTree} (hs : s.Filed) (ht : t.Filed)
    (hbound : ∀ {k x b}, t.boundIn k x = some b → s.boundIn k x = some b) {o : Owner} {l : Nat}
    (ho : t.Owns o l) : t.nameOf o = s.nameOf o := by
  cases o with
  | global x => rfl
  | binding b =>
    obtain ⟨⟨k, x, hb⟩, -⟩ := ho
    exact (ht.named hb).2.2.trans (hs.named (hbound hb)).2.2.symm

section Changes

variable {s : ScopeTree}

/-- The names of a binding: its own, its redeclarations, its references and its writes. -/
theorem mem_identifiers_iff {binding : Binding} {l : Nat} : l ∈ binding.identifiers ↔
    l = binding.identifier ∨ l ∈ binding.redeclarations ∨ l ∈ binding.references ∨
      l ∈ binding.writes := by
  simp [Binding.identifiers]

/-! ### Declaring a name -/

section Declare

variable {k b l : Nat} {x : String} (label : Nat) (kind : String) (node : Option Tree)

/-- The binding that a name gets is the one that it has, or a new one. -/
theorem declare_snd (h : s.Filed) :
    (s.boundIn k x = none ∧ (s.declare k label x kind node).2 = s.bindings.size) ∨
      s.boundIn k x = some (s.declare k label x kind node).2 := by
  cases hb : s.boundIn k x with
  | none => exact .inl ⟨rfl, (declare_of_missing label kind node hb).1⟩
  | some b =>
    have hget := Array.getElem?_eq_getElem (h.named hb).1
    exact .inr (congrArg some (declare_of_found label kind node hb hget).1.symm)

/-- What the bindings are once a name is declared. -/
theorem binding_declare (h : s.Filed) (b : Nat) : (s.declare k label x kind node).1.binding b =
    if b = (s.declare k label x kind node).2 then
      if s.boundIn k x = none then
        { name := x, kind, identifier := label, node := node.map Tree.label, scope := k }
      else (s.binding b).declaredAgain label (node.any initializes)
    else s.binding b := by
  cases hb : s.boundIn k x with
  | none =>
    obtain ⟨h2, h1⟩ := declare_of_missing label kind node hb
    rw [binding, h1, h2, Array.getElem?_push]
    split <;> rfl
  | some b' =>
    have hget := Array.getElem?_eq_getElem (h.named hb).1
    obtain ⟨h2, h1⟩ := declare_of_found label kind node hb hget
    rw [h2]
    by_cases he : b = b'
    · subst he
      rw [if_pos rfl, if_neg (Option.some_ne_none b), binding, h1, Array.getElem?_modify, if_pos rfl,
        binding, hget]
      rfl
    · rw [if_neg he, binding, h1, Array.getElem?_modify, if_neg (Ne.symm he)]
      rfl

/-- A declaration that comes in is one more name of the binding. -/
theorem mem_identifiers_declaredAgain {binding : Binding} {initializes : Bool} :
    l ∈ (binding.declaredAgain label initializes).identifiers ↔
      l ∈ binding.identifiers ∨ l = label := by
  unfold Binding.declaredAgain
  by_cases hi : binding.identifier = label
  · simp only [hi, beq_self_eq_true, if_true, mem_identifiers_iff]
    tauto
  · cases initializes <;> simp [hi, mem_identifiers_iff] <;> tauto

/-- A declaration has a binding, and no binding goes. -/
theorem size_declare (h : s.Filed) :
    s.bindings.size ≤ (s.declare k label x kind node).1.bindings.size ∧
      (s.declare k label x kind node).2 < (s.declare k label x kind node).1.bindings.size := by
  cases hb : s.boundIn k x with
  | none =>
    obtain ⟨h2, h1⟩ := declare_of_missing label kind node hb
    rw [h1, h2, Array.size_push]
    exact ⟨Nat.le_succ _, Nat.lt_succ_self _⟩
  | some b =>
    have hlt := (h.named hb).1
    obtain ⟨h2, h1⟩ := declare_of_found label kind node hb (Array.getElem?_eq_getElem hlt)
    rw [h1, h2, Array.size_modify]
    exact ⟨Nat.le_refl _, hlt⟩

/-- The binding that a name gets is known by that name. -/
theorem named_declare (h : s.Filed) :
    ((s.declare k label x kind node).1.binding (s.declare k label x kind node).2).scope = k ∧
      ((s.declare k label x kind node).1.binding (s.declare k label x kind node).2).name = x := by
  rw [binding_declare label kind node h, if_pos rfl]
  split
  · exact ⟨rfl, rfl⟩
  · rename_i hb
    rcases declare_snd label kind node h (k := k) (x := x) with ⟨hnone, -⟩ | hsome
    · exact absurd hnone hb
    · obtain ⟨-, hscope, hname⟩ := h.named hsome
      unfold Binding.declaredAgain
      split <;> exact ⟨hscope, hname⟩

/-- A binding that another name has is not the one that the name gets. -/
theorem ne_declare (h : s.Filed) {k' : Nat} {x' : String} (hb : s.boundIn k' x' = some b)
    (hne : ¬(k' = k ∧ x' = x)) : b ≠ (s.declare k label x kind node).2 := by
  rintro rfl
  rcases declare_snd label kind node h (k := k) (x := x) with ⟨-, hsize⟩ | hsome
  · have hlt := (h.named hb).1
    rw [hsize] at hlt
    exact Nat.lt_irrefl _ hlt
  · exact hne (h.unique hsome hb)

/-- Filing outlasts a declaration. -/
theorem filed_declare (h : s.Filed) (hk : k < s.scopes.size) :
    (s.declare k label x kind node).1.Filed := by
  obtain ⟨hle, hlt⟩ := size_declare label kind node h (k := k) (x := x)
  refine ⟨fun {i c} hc => ?_, fun hb => ?_, ?_, ?_⟩
  · unfold declare at hc
    split at hc
    · exact keyed_editScope (fun hc => h.keyed hc) (fun _ hc => hc.putKey) hc
    · dsimp only at hc
      split at hc <;> exact h.keyed hc
  · rw [boundIn_declare label kind node hk] at hb
    split at hb
    · rename_i hc
      cases hb
      rw [hc.1, hc.2]
      exact ⟨hlt, named_declare label kind node h⟩
    · rename_i hc
      obtain ⟨hsize, hnamed⟩ := h.named hb
      rw [binding_declare label kind node h, if_neg (ne_declare label kind node h hb hc)]
      exact ⟨Nat.lt_of_lt_of_le hsize hle, hnamed⟩
  · rw [(globals_declare label kind node).1]
    exact h.globals
  · rw [(globals_declare label kind node).2]
    exact h.globalWrites

/-- **Declaring a name** gives it to its binding and leaves all others with their owners. -/
theorem owns_declare (h : s.Filed) (hk : k < s.scopes.size) {o : Owner}
    (ho : (s.declare k label x kind node).1.Owns o l) :
    s.Owns o l ∨ o = .binding (s.declare k label x kind node).2 ∧ l = label := by
  cases o with
  | global y =>
    rw [Owns, (globals_declare label kind node).1] at ho
    exact .inl ho
  | binding b =>
    obtain ⟨⟨k', x', hb⟩, hl⟩ := ho
    rw [boundIn_declare label kind node hk] at hb
    rw [binding_declare label kind node h] at hl
    split at hb
    · cases hb
      rw [if_pos rfl] at hl
      split at hl
      · exact .inr ⟨rfl, by simpa [Binding.identifiers] using hl⟩
      · rename_i hsome
        rcases declare_snd label kind node h (k := k) (x := x) with ⟨hnone, -⟩ | hbound
        · exact absurd hnone hsome
        · rcases (mem_identifiers_declaredAgain label).mp hl with hold | rfl
          · exact .inl ⟨⟨k, x, hbound⟩, hold⟩
          · exact .inr ⟨rfl, rfl⟩
    · rename_i hc
      rw [if_neg (ne_declare label kind node h hb hc)] at hl
      exact .inl ⟨⟨k', x', hb⟩, hl⟩

end Declare

/-! ### Uses -/

section Uses

variable {b l m : Nat} {x : String} {o : Owner}

/-- What owns the use of a name. -/
def ownerOf (s : ScopeTree) (k : Nat) (x : String) : Owner :=
  match s.lookup k x with
  | some b => .binding b
  | none => .global x

/-- What owns the use of a name goes by that name. -/
theorem nameOf_ownerOf (h : s.Filed) (k : Nat) (x : String) : s.nameOf (s.ownerOf k x) = x := by
  unfold ownerOf
  split
  · rename_i b hb
    obtain ⟨k', hb'⟩ := exists_boundIn_of_lookup hb
    exact (h.named hb').2.2
  · rfl

variable (l) (k : Nat) (parent : Option (Nat × String)) (writes : Bool)

/-- The parents that are known once a name is used. -/
def parentsWith (s : ScopeTree) : Std.TreeMap Nat (Nat × String) :=
  match parent with
  | some p => s.parentOf.insert l p
  | none => s.parentOf

/-- A binding with one more use. -/
def withUse (binding : Binding) : Binding :=
  if writes then { binding with writes := binding.writes.push l }
  else { binding with references := binding.references.push l }

/-- The use of a name that nothing binds is global. -/
theorem addReference_of_missing (h : s.lookup k x = none) : (s.addReference l x k parent writes).1 =
    { s with
      parentOf := s.parentsWith l parent
      globals := pushLabel s.globals x l
      globalWrites := if writes then pushLabel s.globalWrites x l else s.globalWrites } := by
  unfold addReference
  cases parent with
  | none =>
    dsimp only
    rw [h]
    cases writes <;> rfl
  | some p =>
    dsimp only
    rw [@lookup_congr s { s with parentOf := s.parentOf.insert l p } rfl, h]
    cases writes <;> rfl

/-- The use of a name that is bound goes to its binding. -/
theorem addReference_of_found (h : s.lookup k x = some b) : (s.addReference l x k parent writes).1 =
    { s with
      parentOf := s.parentsWith l parent
      bindings := s.bindings.modify b (withUse l writes)
      bindingOf := s.bindingOf.insert l b } := by
  unfold addReference
  cases parent with
  | none =>
    dsimp only
    rw [h]
    rfl
  | some p =>
    dsimp only
    rw [@lookup_congr s { s with parentOf := s.parentOf.insert l p } rfl, h]
    rfl

/-- A use changes no scope. -/
theorem scopes_addReference : (s.addReference l x k parent writes).1.scopes = s.scopes := by
  cases hl : s.lookup k x with
  | none => rw [addReference_of_missing l k parent writes hl]
  | some b => rw [addReference_of_found l k parent writes hl]

/-- Filing outlasts a use. -/
theorem filed_addReference (h : s.Filed) : (s.addReference l x k parent writes).1.Filed := by
  cases hl : s.lookup k x with
  | none =>
    rw [addReference_of_missing l k parent writes hl]
    refine h.of_eq rfl rfl (keyed_pushLabel h.globals x l) ?_
    cases writes
    · exact h.globalWrites
    · exact keyed_pushLabel h.globalWrites x l
  | some b =>
    rw [addReference_of_found l k parent writes hl]
    refine h.of_modify rfl rfl (fun c => ?_) h.globals h.globalWrites
    cases writes <;> exact ⟨rfl, rfl⟩

/-- A use that comes in is one more name of the binding. -/
theorem mem_identifiers_withUse {binding : Binding} :
    m ∈ (withUse l writes binding).identifiers ↔ m ∈ binding.identifiers ∨ m = l := by
  cases writes <;> simp [withUse, mem_identifiers_iff] <;> tauto

/-- **A use** goes to what owns the name from there, and all others stay with their owners. -/
theorem owns_addReference (h : s.Filed) (ho : (s.addReference l x k parent writes).1.Owns o m) :
    s.Owns o m ∨ o = s.ownerOf k x ∧ m = l := by
  cases hl : s.lookup k x with
  | none =>
    rw [addReference_of_missing l k parent writes hl] at ho
    rw [ownerOf, hl]
    cases o with
    | binding b => exact .inl ho
    | global y =>
      rw [Owns, listed_pushLabel] at ho
      split at ho
      · rename_i hy
        rw [hy]
        exact (Array.mem_push.mp ho).imp_right fun hm => ⟨rfl, hm⟩
      · exact .inl ho
  | some b =>
    rw [addReference_of_found l k parent writes hl] at ho
    rw [ownerOf, hl]
    cases o with
    | global y => exact .inl ho
    | binding b' =>
      obtain ⟨⟨k', x', hb'⟩, hm⟩ := ho
      have hlt := (h.named hb').1
      rw [@binding_modify s _ b' _ _ rfl hlt] at hm
      split at hm
      · rename_i he
        subst he
        exact ((mem_identifiers_withUse l writes).mp hm).imp (fun hm => ⟨⟨k', x', hb'⟩, hm⟩)
          fun hm => ⟨rfl, hm⟩
      · exact .inl ⟨⟨k', x', hb'⟩, hm⟩

/-- A binding with one use less. -/
def withoutUse (binding : Binding) : Binding := { binding with
  references := without binding.references l
  writes := without binding.writes l }

/-- Forgetting the use of a name that is bound. -/
theorem removeReference_of_bound (h : s.bindingFor l = some b) : s.removeReference l x =
    { s with
      parentOf := s.parentOf.erase l
      bindings := s.bindings.modify b (withoutUse l)
      bindingOf := s.bindingOf.erase l } := by
  unfold removeReference
  dsimp only
  rw [show ({ s with parentOf := s.parentOf.erase l } : ScopeTree).bindingFor l = some b from h]
  rfl

/-- Forgetting the use of a name that is not bound. -/
theorem removeReference_of_global (h : s.bindingFor l = none) : s.removeReference l x =
    { s with
      parentOf := s.parentOf.erase l
      globals := dropLabel s.globals x l
      globalWrites := dropLabel s.globalWrites x l } := by
  unfold removeReference
  dsimp only
  rw [show ({ s with parentOf := s.parentOf.erase l } : ScopeTree).bindingFor l = none from h]

theorem scopes_removeReference : (s.removeReference l x).scopes = s.scopes := by
  cases hb : s.bindingFor l with
  | some b => rw [removeReference_of_bound l hb]
  | none => rw [removeReference_of_global l hb]

/-- Filing outlasts the removal of a use. -/
theorem filed_removeReference (h : s.Filed) : (s.removeReference l x).Filed := by
  cases hb : s.bindingFor l with
  | some b =>
    rw [removeReference_of_bound l hb]
    exact h.of_modify rfl rfl (fun _ => ⟨rfl, rfl⟩) h.globals h.globalWrites
  | none =>
    rw [removeReference_of_global l hb]
    exact h.of_eq rfl rfl (keyed_dropLabel h.globals x l) (keyed_dropLabel h.globalWrites x l)

/-- What is left when a use goes was there. -/
theorem mem_identifiers_of_withoutUse {binding : Binding}
    (h : m ∈ (withoutUse l binding).identifiers) : m ∈ binding.identifiers := by
  rw [mem_identifiers_iff] at h ⊢
  exact h.imp_right (Or.imp_right (Or.imp Array.mem_of_mem_erase Array.mem_of_mem_erase))

/-- **Forgetting a use** gives no name to another owner. -/
theorem owns_removeReference (h : s.Filed) (ho : (s.removeReference l x).Owns o m) : s.Owns o m := by
  cases hb : s.bindingFor l with
  | some b =>
    rw [removeReference_of_bound l hb] at ho
    cases o with
    | global y => exact ho
    | binding b' =>
      obtain ⟨⟨k', x', hb'⟩, hm⟩ := ho
      rw [@binding_modify s _ b' _ _ rfl (h.named hb').1] at hm
      split at hm
      · exact ⟨⟨k', x', hb'⟩, mem_identifiers_of_withoutUse l hm⟩
      · exact ⟨⟨k', x', hb'⟩, hm⟩
  | none =>
    rw [removeReference_of_global l hb] at ho
    cases o with
    | binding b' => exact ho
    | global y =>
      rw [Owns, listed_dropLabel] at ho
      split at ho
      · rename_i hy
        rw [hy]
        exact Array.mem_of_mem_erase ho
      · exact ho

end Uses

/-! ### Removing and renaming a binding -/

section Bindings

variable {k b l : Nat} {x : String} {o : Owner}

/-- Names stay apart when one is unbound. -/
theorem keyed_unbind (h : s.Filed) {c : Scope} (hc : (s.unbind b).scopes[k]? = some c) :
    Keyed c.bindings := by
  refine keyed_editScope (fun hc => h.keyed hc) (fun c hc => ?_) hc
  split
  · exact hc.filter _
  · exact hc

/-- What stays bound when a binding is taken from its scope. -/
theorem Filed.boundIn_of_unbind (h : s.Filed) (hb : s.Holds b) {b' : Nat}
    (hb' : (s.unbind b).boundIn k x = some b') : s.boundIn k x = some b' ∧ b' ≠ b := by
  obtain ⟨i, y, hb⟩ := hb
  rw [boundIn_unbind (h.boundIn_self hb)] at hb'
  split at hb'
  · cases hb'
  · rename_i hne
    refine ⟨hb', ?_⟩
    rintro rfl
    exact hne (h.unique (h.boundIn_self hb) hb')

/-- Filing outlasts the removal of a binding. -/
theorem filed_removeBinding (h : s.Filed) (hb : s.Holds b) : (s.removeBinding b).Filed :=
  ⟨fun hc => keyed_unbind h hc, fun hb' => h.named (h.boundIn_of_unbind hb hb').1, h.globals,
    h.globalWrites⟩

/-- **A binding that is removed** owns nothing, and no name gets another owner. -/
theorem owns_removeBinding (h : s.Filed) (hb : s.Holds b) (ho : (s.removeBinding b).Owns o l) :
    s.Owns o l ∧ o ≠ .binding b := by
  cases o with
  | global y => exact ⟨ho, nofun⟩
  | binding b' =>
    obtain ⟨⟨i, y, hb'⟩, hl⟩ := ho
    obtain ⟨hb', hne⟩ := h.boundIn_of_unbind hb hb'
    exact ⟨⟨⟨i, y, hb'⟩, hl⟩, fun he => hne (Owner.binding.inj he)⟩

section Rename

variable (new : String)

/-- The bindings that stay when one is renamed, apart from itself. -/
theorem Filed.boundIn_of_rename (h : s.Filed) (hb : s.Holds b) {b' : Nat}
    (hb' : (s.renameBinding b new).1.boundIn k x = some b') :
    k = (s.binding b).scope ∧ x = new ∧ b' = b ∨ s.boundIn k x = some b' ∧ b' ≠ b := by
  obtain ⟨i, y, hb⟩ := hb
  have hself := h.boundIn_self hb
  rw [boundIn_rename hself] at hb'
  split at hb'
  · rename_i hc
    cases hb'
    exact .inl ⟨hc.1, hc.2, rfl⟩
  · rw [← boundIn_unbind hself] at hb'
    exact .inr (h.boundIn_of_unbind ⟨i, y, hb⟩ hb')

/-- A binding that is renamed differs by its name alone. -/
theorem binding_rename {b' : Nat} (hlt : b' < s.bindings.size) :
    (s.renameBinding b new).1.binding b' =
      if b = b' then { s.binding b' with name := new } else s.binding b' :=
  @binding_modify s _ b' (fun c => { c with name := new }) b rfl hlt

/-- Filing outlasts the renaming of a binding. -/
theorem filed_renameBinding (h : s.Filed) (hb : s.Holds b) : (s.renameBinding b new).1.Filed := by
  refine ⟨fun hc => ?_, fun {i y b'} hb' => ?_, h.globals, h.globalWrites⟩
  · exact keyed_editScope (fun hc => keyed_unbind h hc) (fun _ hc => hc.putKey) hc
  · have hsize : (s.renameBinding b new).1.bindings.size = s.bindings.size := Array.size_modify
    rw [hsize]
    rcases h.boundIn_of_rename new hb hb' with ⟨rfl, rfl, rfl⟩ | ⟨hb', hne⟩
    · obtain ⟨_, _, hb⟩ := hb
      have hlt := (h.named hb).1
      rw [binding_rename _ hlt, if_pos rfl]
      exact ⟨hlt, rfl, rfl⟩
    · have hnamed := h.named hb'
      rw [binding_rename _ hnamed.1, if_neg (Ne.symm hne)]
      exact hnamed

/-- **A binding that is renamed** keeps its names, also if it takes the place of another, which then
owns nothing. -/
theorem owns_renameBinding (h : s.Filed) (hb : s.Holds b)
    (ho : (s.renameBinding b new).1.Owns o l) : s.Owns o l := by
  cases o with
  | global y => exact ho
  | binding b' =>
    obtain ⟨⟨i, y, hb'⟩, hl⟩ := ho
    rcases h.boundIn_of_rename new hb hb' with ⟨-, -, rfl⟩ | ⟨hb', hne⟩
    · have hheld := hb
      obtain ⟨_, _, hb⟩ := hb
      rw [binding_rename _ (h.named hb).1, if_pos rfl] at hl
      exact ⟨hheld, hl⟩
    · rw [binding_rename _ (h.named hb').1, if_neg (Ne.symm hne)] at hl
      exact ⟨⟨i, y, hb'⟩, hl⟩

/-- The name of what owns a name once a binding is renamed. -/
theorem nameOf_renameBinding (h : s.Filed) (ho : s.Owns o l) : (s.renameBinding b new).1.nameOf o =
    if o = .binding b then new else s.nameOf o := by
  cases o with
  | global y => rfl
  | binding b' =>
    obtain ⟨⟨i, y, hb'⟩, -⟩ := ho
    rw [nameOf, binding_rename _ (h.named hb').1]
    by_cases he : b = b'
    · rw [if_pos he, if_pos (congrArg Owner.binding he.symm)]
    · rw [if_neg he, if_neg fun hc => he (Owner.binding.inj hc).symm, nameOf]

end Rename

end Bindings

/-! ### Global names -/

/-- Filing outlasts the renaming of a global name. -/
theorem filed_renameGlobal (h : s.Filed) (old new : String) : (s.renameGlobal old new).1.Filed :=
  h.of_eq rfl rfl (keyed_moveLabels h.globals old new) (keyed_moveLabels h.globalWrites old new)

/-- **A global name that is renamed** hands its uses over to the new one. -/
theorem owns_renameGlobal {old new : String} {o : Owner} {l : Nat}
    (ho : (s.renameGlobal old new).1.Owns o l) :
    s.Owns o l ∧ o ≠ .global old ∨ o = .global new ∧ s.Owns (.global old) l := by
  cases o with
  | binding b => exact .inl ⟨ho, nofun⟩
  | global y =>
    have hl : l ∈ listed (moveLabels s.globals old new) y := ho
    rw [listed_moveLabels, Array.mem_append] at hl
    rcases hl with hl | hl
    · split at hl
      · simp at hl
      · rename_i hy
        exact .inl ⟨hl, fun he => hy (Owner.global.inj he)⟩
    · split at hl
      · rename_i hy
        rw [hy]
        exact .inr ⟨rfl, hl⟩
      · simp at hl

/-! ### Merging two bindings -/

section Merge

variable {k b target l : Nat} {name into : String} {o : Owner}

/-- The uses of a binding, those that read it first. -/
def usesOf (binding : Binding) : Array Nat := binding.references ++ binding.writes

/-- A binding with the uses of another one. -/
def withUsesOf (other binding : Binding) : Binding := { binding with
  references := binding.references ++ other.references
  writes := binding.writes ++ other.writes }

/-- A binding without its uses. -/
def withoutUses (binding : Binding) : Binding := { binding with references := #[], writes := #[] }

/-- The view in which a binding has handed its uses over to another one. -/
def handedOver (s : ScopeTree) (b target : Nat) : ScopeTree := { s with
  bindings := (s.bindings.modify target (withUsesOf (s.binding b))).modify b withoutUses
  bindingOf := (usesOf (s.binding b)).foldl (fun table label => table.insert label target) s.bindingOf }

/-- What becomes of a binding that is merged into another one. -/
theorem merge_of_ne (hb : s.lookup k name = some b) (ht : s.lookup k into = some target)
    (hne : b ≠ target) : s.merge k name into =
      ((s.handedOver b target).removeBinding b, ((s.handedOver b target).binding target).name,
        (usesOf (s.binding b)).toList) := by
  unfold merge
  rw [hb, ht]
  dsimp only
  rw [if_neg (by simpa using hne)]
  rfl

/-- Merging either hands the uses of one binding over to another or does nothing. -/
theorem merge_cases (s : ScopeTree) (k : Nat) (name into : String) :
    (∃ b target, s.lookup k name = some b ∧ s.lookup k into = some target ∧ b ≠ target) ∨
      s.merge k name into = (s, into, []) := by
  rw [merge]
  cases hb : s.lookup k name with
  | none => exact .inr rfl
  | some b =>
    cases ht : s.lookup k into with
    | none => exact .inr rfl
    | some target =>
      by_cases hne : b = target
      · exact .inr (if_pos (by simpa using hne))
      · exact .inl ⟨b, target, rfl, rfl, hne⟩

/-- The uses of a binding are names of it. -/
theorem mem_identifiers_of_usesOf {binding : Binding} (h : l ∈ usesOf binding) :
    l ∈ binding.identifiers := by
  rw [usesOf, Array.mem_append] at h
  exact mem_identifiers_iff.mpr (.inr (.inr h))

section HandedOver

variable (hne : b ≠ target)

include hne

/-- What is handed over goes from one binding to the other. -/
theorem binding_handedOver {i : Nat} (hlt : i < s.bindings.size) : (s.handedOver b target).binding i =
    if b = i then withoutUses (s.binding i)
    else if target = i then withUsesOf (s.binding b) (s.binding i) else s.binding i := by
  let mid := s.editBinding target (withUsesOf (s.binding b))
  have hmid : mid.binding i =
      if target = i then withUsesOf (s.binding b) (s.binding i) else s.binding i :=
    @binding_modify s mid i (withUsesOf (s.binding b)) target rfl hlt
  have hsize : i < mid.bindings.size := by
    rw [show mid.bindings.size = s.bindings.size from Array.size_modify]
    exact hlt
  rw [@binding_modify mid (s.handedOver b target) i withoutUses b rfl hsize, hmid]
  by_cases hi : b = i
  · subst hi
    rw [if_pos rfl, if_pos rfl, if_neg hne.symm]
  · rw [if_neg hi, if_neg hi]

/-- Filing outlasts the handing over of uses. -/
theorem filed_handedOver (h : s.Filed) : (s.handedOver b target).Filed := by
  refine ⟨fun hc => h.keyed hc, fun {i y b'} hb' => ?_, h.globals, h.globalWrites⟩
  obtain ⟨hlt, hscope, hname⟩ := h.named (show s.boundIn i y = some b' from hb')
  refine ⟨?_, ?_⟩
  · rw [handedOver, Array.size_modify, Array.size_modify]
    exact hlt
  · rw [binding_handedOver hne hlt]
    split
    · exact ⟨hscope, hname⟩
    · split <;> exact ⟨hscope, hname⟩

/-- A label that is handed over was a use of the first binding. -/
theorem owns_handedOver (h : s.Filed) (ho : (s.handedOver b target).Owns o l) :
    s.Owns o l ∨ o = .binding target ∧ l ∈ usesOf (s.binding b) := by
  cases o with
  | global y => exact .inl ho
  | binding b' =>
    obtain ⟨⟨i, y, hb'⟩, hl⟩ := ho
    have hbound : s.boundIn i y = some b' := hb'
    rw [binding_handedOver hne (h.named hbound).1] at hl
    split at hl
    · refine .inl ⟨⟨i, y, hbound⟩, mem_identifiers_iff.mpr ?_⟩
      have hdeclares := mem_identifiers_iff.mp hl
      simp only [withoutUses, Array.not_mem_empty, or_false] at hdeclares
      exact hdeclares.imp_right .inl
    · split at hl
      · rename_i he
        subst he
        have hmem := mem_identifiers_iff.mp hl
        simp only [withUsesOf, Array.mem_append] at hmem
        have hsplit : l ∈ (s.binding target).identifiers ∨ l ∈ usesOf (s.binding b) := by
          rw [mem_identifiers_iff, usesOf, Array.mem_append]
          tauto
        exact hsplit.imp (fun hl => ⟨⟨i, y, hbound⟩, hl⟩) fun hl => ⟨rfl, hl⟩
      · exact .inl ⟨⟨i, y, hbound⟩, hl⟩

end HandedOver

section Merged

variable (hb : s.lookup k name = some b) (ht : s.lookup k into = some target) (hne : b ≠ target)

include hb ht hne

/-- Filing outlasts a merge. -/
theorem filed_merge (h : s.Filed) : (s.merge k name into).1.Filed := by
  rw [merge_of_ne hb ht hne]
  obtain ⟨i, hi⟩ := exists_boundIn_of_lookup hb
  exact filed_removeBinding (filed_handedOver hne h) ⟨i, name, hi⟩

/-- A merge binds nothing that was not bound. -/
theorem boundIn_of_merge (h : s.Filed) {i c : Nat} {y : String}
    (hc : (s.merge k name into).1.boundIn i y = some c) : s.boundIn i y = some c := by
  rw [merge_of_ne hb ht hne] at hc
  obtain ⟨j, hj⟩ := exists_boundIn_of_lookup hb
  exact ((filed_handedOver hne h).boundIn_of_unbind ⟨j, name, hj⟩ hc).1

/-- **A binding that is merged into another one** hands its uses over and owns nothing. -/
theorem owns_merge (h : s.Filed) (ho : (s.merge k name into).1.Owns o l) :
    s.Owns o l ∧ o ≠ .binding b ∨ o = .binding target ∧ l ∈ usesOf (s.binding b) := by
  rw [merge_of_ne hb ht hne] at ho
  obtain ⟨i, hi⟩ := exists_boundIn_of_lookup hb
  obtain ⟨ho, hnot⟩ := owns_removeBinding (filed_handedOver hne h) ⟨i, name, hi⟩ ho
  exact (owns_handedOver hne h ho).imp_left fun ho => ⟨ho, hnot⟩

end Merged

end Merge

end Changes

end ScopeTree

end Deminify
