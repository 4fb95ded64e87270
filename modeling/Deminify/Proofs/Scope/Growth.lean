import Deminify.Proofs.Scope.Owner

/-!
# A view grows name by name

The view of a program comes about like one that is kept up by hand: names are declared and used one
after the other, and no name twice. So what holds of the view in which nothing is bound yet, and is kept
when scopes open, when a name that nothing owns is declared and when one is used, holds of the view of
every program (`Deminify.ScopeTree.Tells.induct`).
-/

namespace Deminify

/-- The spelling of the name that an event is about. -/
def Event.name? : Event → Option String
  | .use _ name _ _ => some name
  | .declares _ name _ _ => some name
  | .opens _ => none

theorem Site.name?_of_mem_events {p : Site} {e : Event} {x : String} (h : e ∈ p.events)
    (hx : e.name? = some x) : x = ((p.node.get "name").str?).getD "" := by
  unfold Site.events at h
  dsimp only at h
  repeat' split at h
  all_goals simp_all [Event.name?]
  all_goals
    obtain ⟨frame, -, rfl⟩ := h
    cases hx

namespace ScopeTree

/-- Whether a program has a name with a label, spelled as told. -/
def NamedAs (program : Tree) (l : Nat) (x : String) : Prop :=
  ∃ e, Happens program e ∧ e.label? = some l ∧ e.name? = some x

/-- At the start nothing is bound. -/
theorem boundIn_opening (program k : Nat) (x : String) : (opening program).boundIn k x = none := by
  cases hb : (opening program).boundIn k x with
  | none => rfl
  | some b =>
    obtain ⟨_, _, _, -, hfilter, -⟩ := (binds_opening program).found hb
    cases hfilter

theorem not_owns_opening {program : Nat} (o : Owner) (l : Nat) : ¬(opening program).Owns o l := by
  cases o with
  | global x => simp [Owns, listed, opening, newScope]
  | binding b =>
    rintro ⟨⟨k, x, hb⟩, -⟩
    rw [boundIn_opening] at hb
    cases hb

theorem filed_opening (program : Nat) : (opening program).Filed := by
  refine ⟨fun {k c} hc => ?_, fun {k x b} hb => ?_, .nil, .nil⟩
  · have hempty : c.bindings = [] := by
      cases k with
      | zero =>
        cases hc
        rfl
      | succ k => cases hc
    rw [hempty]
    exact .nil
  · rw [boundIn_opening] at hb
    cases hb

/-- **Whether two views file the same.** The scopes may differ in what they do not bind. -/
structure SameFiling (s t : ScopeTree) : Prop where
  boundIn : t.boundIn = s.boundIn
  bindings : t.bindings = s.bindings
  bindingOf : t.bindingOf = s.bindingOf
  globals : t.globals = s.globals
  globalWrites : t.globalWrites = s.globalWrites
  keyed : (∀ {k : Nat} {c : Scope}, s.scopes[k]? = some c → Keyed c.bindings) →
    ∀ {k : Nat} {c : Scope}, t.scopes[k]? = some c → Keyed c.bindings

namespace SameFiling

variable {s t : ScopeTree} (h : SameFiling s t)

include h

theorem binding (b : Nat) : t.binding b = s.binding b := by
  rw [ScopeTree.binding, ScopeTree.binding, h.bindings]

theorem filed (hs : s.Filed) : t.Filed := by
  refine ⟨h.keyed fun hc => hs.keyed hc, fun hb => ?_, ?_, ?_⟩
  · rw [h.boundIn] at hb
    rw [h.bindings, h.binding]
    exact hs.named hb
  · rw [h.globals]
    exact hs.globals
  · rw [h.globalWrites]
    exact hs.globalWrites

theorem owns : t.Owns = s.Owns := by
  funext o l
  cases o with
  | binding b => rw [Owns, Owns, Holds, Holds, h.boundIn, h.binding]
  | global x => rw [Owns, Owns, h.globals]

theorem nameOf : t.nameOf = s.nameOf := by
  funext o
  cases o with
  | binding b => rw [ScopeTree.nameOf, ScopeTree.nameOf, h.binding]
  | global x => rfl

end SameFiling

/-- The labels of the names that are declared, in their order. -/
def declaredLabels (notes : List Note) : List Nat :=
  notes.filterMap fun
    | .declares _ _ label _ _ _ => some label
    | _ => none

/-- The labels of the names that are used, in their order. -/
def usedLabels (notes : List Note) : List Nat := (notes.filterMap Note.use?).map Use.label

/-- Notes other than declarations file nothing. -/
theorem sameFiling_carryOut (s : ScopeTree) {n : Note} (hn : declaredLabels [n] = []) :
    SameFiling s (s.carryOut n) := by
  cases n with
  | declares scope hoisted l x kind node => cases hn
  | opens kind node parent =>
    refine ⟨boundIn_opens kind node parent, rfl, rfl, rfl, rfl, fun hs {k c} hc => ?_⟩
    let pushed : ScopeTree := { s with
      scopes := s.scopes.push { kind, node, parent := some parent }
      scopeOf := s.scopeOf.insert node s.scopes.size }
    have hpushed : ∀ {k : Nat} {c : Scope}, pushed.scopes[k]? = some c → Keyed c.bindings := by
      intro k c hc
      rw [Array.getElem?_push] at hc
      split at hc
      · cases hc
        exact .nil
      · exact hs hc
    exact @keyed_editScope pushed k hpushed
      (fun around => { around with children := around.children.push s.scopes.size })
      (fun _ hc => hc) parent c hc
  | stands l scope =>
    rw [carryOut]
    split <;> exact ⟨rfl, rfl, rfl, rfl, rfl, fun hs => hs⟩
  | shares l scope => exact ⟨rfl, rfl, rfl, rfl, rfl, fun hs => hs⟩
  | uses use => exact ⟨rfl, rfl, rfl, rfl, rfl, fun hs => hs⟩

namespace Tells

variable {program : Tree} {notes : List Note}

/-- How often a label is declared or used is how often it is noted. -/
theorem count_labels (notes : List Note) (l : Nat) :
    (declaredLabels notes ++ usedLabels notes).count l = (namings notes l).length := by
  induction notes with
  | nil => rfl
  | cons n rest ih =>
    have hhead : (declaredLabels [n] ++ usedLabels [n]).count l = (namings [n] l).length := by
      cases n with
      | declares scope hoisted m x kind node =>
        by_cases hm : m = l <;>
          simp [declaredLabels, usedLabels, namings, Note.use?, Note.label?, List.filterMap_cons, hm]
      | uses use =>
        by_cases hm : use.label = l <;>
          simp [declaredLabels, usedLabels, namings, Note.use?, Note.label?, hm]
      | _ => rfl
    have hdeclared : declaredLabels (n :: rest) = declaredLabels [n] ++ declaredLabels rest :=
      List.filterMap_append (l := [n])
    have hused : usedLabels (n :: rest) = usedLabels [n] ++ usedLabels rest := by
      rw [usedLabels, ← List.singleton_append, List.filterMap_append, List.map_append]
      rfl
    have hnamings : namings (n :: rest) l = namings [n] l ++ namings rest l :=
      List.filter_append [n] rest
    rw [List.count_append] at hhead ih ⊢
    rw [hdeclared, hused, hnamings, List.count_append, List.count_append, List.length_append]
    omega

/-- No name is noted twice. -/
theorem nodup_labels (h : Tells program notes) : (declaredLabels notes ++ usedLabels notes).Nodup := by
  refine List.nodup_iff_count.mpr fun l => ?_
  rw [count_labels]
  cases hn : namings notes l with
  | nil => exact Nat.zero_le _
  | cons n rest =>
    obtain ⟨hmem, hl⟩ := List.mem_filter.mp (hn ▸ List.mem_cons_self : n ∈ namings notes l)
    rw [← hn, h.namings_eq hmem (beq_iff_eq.mp hl)]
    exact Nat.le_refl _

section Induct

variable {P : ScopeTree → Prop} (hfiled : ∀ {s}, P s → s.Filed)
  (hsame : ∀ {s t}, SameFiling s t → P s → P t)
  (hdeclare : ∀ {s k l x kind node}, k < s.scopes.size → (∀ o, ¬s.Owns o l) → NamedAs program l x →
    P s → P (s.declare k l x kind node).1)
  (huse : ∀ {s l x k parent writes}, (∀ o, ¬s.Owns o l) → NamedAs program l x → P s →
    P (s.addReference l x k parent writes).1)

include hfiled hsame hdeclare in
/-- What the declarations keep. No name that is still to come is owned. -/
theorem declared_induct {s : ScopeTree} (hs : s.Nested) {notes : List Note}
    (hb : Bounded s.scopes.size notes) {later : List Nat}
    (hnames : ∀ {scope hoisted l x kind node}, Note.declares scope hoisted l x kind node ∈ notes →
      NamedAs program l x)
    (hnodup : (declaredLabels notes ++ later).Nodup)
    (hfree : ∀ l ∈ declaredLabels notes ++ later, ∀ o, ¬s.Owns o l) (hp : P s) :
    P (notes.foldl ScopeTree.carryOut s) ∧
      ∀ l ∈ later, ∀ o, ¬(notes.foldl ScopeTree.carryOut s).Owns o l := by
  induction notes generalizing s with
  | nil => exact ⟨hp, hfree⟩
  | cons n rest ih =>
    obtain ⟨hn, -, -⟩ := hs.carryOut hb.1
    have hb' := hs.bounded_carryOut hb
    have hrest : ∀ {scope hoisted l x kind node}, Note.declares scope hoisted l x kind node ∈ rest →
        NamedAs program l x := fun hm => hnames (List.mem_cons_of_mem _ hm)
    by_cases hd : declaredLabels [n] = []
    · have hsames := sameFiling_carryOut s hd
      have hlabels : declaredLabels (n :: rest) = declaredLabels [n] ++ declaredLabels rest :=
        List.filterMap_append (l := [n])
      rw [hlabels, hd, List.nil_append] at hnodup hfree
      refine ih hn hb' hrest hnodup (fun l hl o => ?_) (hsame hsames hp)
      rw [hsames.owns]
      exact hfree l hl o
    · cases n with
      | declares scope hoisted l x kind node =>
        have hhome : s.home hoisted scope < s.scopes.size :=
          (hs.le_of_mem_ancestors (hs.home_mem hb.1 hoisted)).2
        have hlabels : declaredLabels (.declares scope hoisted l x kind node :: rest) =
            l :: declaredLabels rest := rfl
        rw [hlabels, List.cons_append] at hnodup hfree
        obtain ⟨hnew, hnodup⟩ := List.nodup_cons.mp hnodup
        have hstep := @hdeclare s (s.home hoisted scope) l x kind (some node) hhome
          (hfree l List.mem_cons_self) (hnames List.mem_cons_self) hp
        refine ih hn hb' hrest hnodup (fun m hm o ho => ?_) hstep
        rcases owns_declare l kind (some node) (hfiled hp) hhome ho with hold | ⟨-, rfl⟩
        · exact hfree m (List.mem_cons_of_mem _ hm) o hold
        · exact hnew hm
      | _ => exact absurd rfl hd

include hfiled huse in
/-- What the uses keep. -/
theorem used_induct {s : ScopeTree} {uses : List Use}
    (hnames : ∀ u ∈ uses, NamedAs program u.label u.name) (hnodup : (uses.map Use.label).Nodup)
    (hfree : ∀ l ∈ uses.map Use.label, ∀ o, ¬s.Owns o l) (hp : P s) : P (uses.foldl resolve s) := by
  induction uses generalizing s with
  | nil => exact hp
  | cons u rest ih =>
    rw [List.map_cons] at hnodup hfree
    obtain ⟨hnew, hnodup⟩ := List.nodup_cons.mp hnodup
    refine ih (fun w hw => hnames w (List.mem_cons_of_mem _ hw)) hnodup (fun m hm o ho => ?_)
      (huse (hfree _ List.mem_cons_self) (hnames u List.mem_cons_self) hp)
    rcases owns_addReference u.label u.scope (some u.parent) u.writes (hfiled hp) ho with hold | ⟨-, rfl⟩
    · exact hfree m (List.mem_cons_of_mem _ hm) o hold
    · exact hnew hm

include hfiled hsame hdeclare huse in
/-- **What every view of a program satisfies**: what holds at the start and is kept by each name. -/
theorem induct (h : Tells program notes) (hopening : P (opening program.label)) :
    P (ofNotes program.label notes) := by
  have hdeclares {scope : Nat} {hoisted : Bool} {l : Nat} {x kind : String} {node : Tree}
      (hm : Note.declares scope hoisted l x kind node ∈ notes) : NamedAs program l x :=
    ⟨_, h.happens_declares_iff.mpr ⟨_, List.mem_filterMap.mpr ⟨_, hm, rfl⟩, rfl, rfl, rfl, rfl⟩,
      rfl, rfl⟩
  have huses : ∀ u ∈ notes.filterMap Note.use?, NamedAs program u.label u.name := fun u hu =>
    ⟨_, h.happens_use_iff.mpr ⟨u, mem_uses.mp hu, rfl, rfl, rfl, rfl⟩, rfl, rfl⟩
  obtain ⟨hdeclared, hlater⟩ := declared_induct hfiled hsame hdeclare (nested_opening program.label)
    h.bounded hdeclares h.nodup_labels (fun l _ o => not_owns_opening o l) hopening
  exact used_induct hfiled huse huses (List.nodup_append.mp h.nodup_labels).2.1 hlater hdeclared

end Induct

/-- **What a view of a program leads to**: the index leads to bindings that are held, and what these
know of are names of the program. -/
structure Leads (program : Tree) (s : ScopeTree) : Prop where
  filed : s.Filed
  held : ∀ {l b}, s.bindingFor l = some b → s.Holds b
  named : ∀ {o l}, s.Owns o l → Named program l

theorem leads (h : Tells program notes) : Leads program (ofNotes program.label notes) := by
  refine h.induct (P := Leads program) (fun hs => hs.filed) ?_ ?_ ?_ ?_
  · intro s t hsame hs
    refine ⟨hsame.filed hs.filed, fun {l b} hb => ?_, fun ho => ?_⟩
    · rw [bindingFor, hsame.bindingOf] at hb
      rw [Holds, hsame.boundIn]
      exact hs.held hb
    · rw [hsame.owns] at ho
      exact hs.named ho
  · intro s k l x kind node hk _ ⟨e, he, hl, _⟩ hs
    have hbound (k' : Nat) (x' : String) : (s.declare k l x kind node).1.boundIn k' x' =
        if k' = k ∧ x' = x then some (s.declare k l x kind node).2 else s.boundIn k' x' :=
      boundIn_declare l kind node hk k' x'
    refine ⟨filed_declare l kind node hs.filed hk, fun {m b} hb => ?_, fun ho => ?_⟩
    · rw [bindingFor, bindingOf_declare] at hb
      split at hb
      · cases hb
        exact ⟨k, x, by rw [hbound, if_pos ⟨rfl, rfl⟩]⟩
      · obtain ⟨i, y, hy⟩ := hs.held hb
        refine ⟨i, y, ?_⟩
        rw [hbound]
        split
        · rename_i hsame
          obtain ⟨rfl, rfl⟩ := hsame
          -- what is bound stays bound to the same binding
          rcases declare_snd l kind node hs.filed (k := i) (x := y) with ⟨hnone, -⟩ | hsome
          · rw [hnone] at hy
            cases hy
          · exact hsome.symm.trans hy
        · exact hy
    · rcases owns_declare l kind node hs.filed hk ho with hold | ⟨-, rfl⟩
      · exact hs.named hold
      · exact ⟨e, he, hl⟩
  · intro s l x k parent writes _ ⟨e, he, hl, _⟩ hs
    refine ⟨filed_addReference l k parent writes hs.filed, fun {m b} hb => ?_, fun ho => ?_⟩
    · rw [Holds, boundIn_of_scopes (scopes_addReference l k parent writes)]
      cases hx : s.lookup k x with
      | none =>
        rw [addReference_of_missing l k parent writes hx] at hb
        exact hs.held hb
      | some found =>
        rw [addReference_of_found l k parent writes hx, bindingFor, get?_insert] at hb
        split at hb
        · cases hb
          obtain ⟨i, hi⟩ := exists_boundIn_of_lookup hx
          exact ⟨i, x, hi⟩
        · exact hs.held hb
    · rcases owns_addReference l k parent writes hs.filed ho with hold | ⟨-, rfl⟩
      · exact hs.named hold
      · exact ⟨e, he, hl⟩
  · exact ⟨filed_opening _, fun {l b} hb => by simp [bindingFor, opening, newScope] at hb,
      fun ho => absurd ho (not_owns_opening _ _)⟩

/-- The names of the binding that the index leads to are names of the program. -/
theorem named_of_bindingFor (h : Tells program notes) {l b : Nat}
    (hb : (ofNotes program.label notes).bindingFor l = some b) :
    ∀ m ∈ ((ofNotes program.label notes).binding b).identifiers, Named program m := fun _ hm =>
  h.leads.named (show Owns _ (.binding b) _ from ⟨h.leads.held hb, hm⟩)

end Tells

end ScopeTree

end Deminify
