import Mathlib.Data.List.Forall2
import Deminify.Proofs.Document.Change
import Deminify.Proofs.Document.Exchange
import Deminify.Proofs.Rule.Editing
import Deminify.Proofs.Tree.Exchange

/-!
# How an edit ends

An edit that has nothing to fail at goes through, and what it returns and leaves behind can be described
together (`Deminify.Editing.Ends`): one rule for each way of putting edits together, as for what an edit
keeps, but with the contexts before and after in view.

Many rules go through the places of the nodes they have found and replace some of them. How such a loop ends
(`Deminify.Editing.ends_foldlM_targets`) follows from what a step does to one node that is still there; that
no node is met twice is settled here. In a program that has been read the nodes to be replaced can be exchanged
(`Deminify.Editing.exchangeable_of_read`).
-/

namespace Deminify.Editing

/-- **An edit goes through** from a context; what it returns and the context that it leaves are as
told. -/
def Ends {α : Type} (x : Editing α) (c : Context) (Q : α → Context → Prop) : Prop :=
  ∃ a c', x.run.run c = (.ok a, c') ∧ Q a c'

section Steps

variable {α β : Type} {c : Context} {x : Editing α} {Q : α → Context → Prop}

theorem ends_pure {a : α} (h : Q a c) : Ends (pure a) c Q := ⟨a, c, rfl, h⟩

/-- One edit after the other. -/
theorem run_bind_of_ok {f : α → Editing β} {a : α} {c' : Context} (h : x.run.run c = (.ok a, c')) :
    (x >>= f).run.run c = (f a).run.run c' := by
  show (ExceptT.bind x f).run.run c = _
  rw [ExceptT.bind, ExceptT.run_mk]
  show (StateT.bind x.run (ExceptT.bindCont f)) c = _
  have hx : x.run c = (.ok a, c') := h
  rw [StateT.bind, hx]
  rfl

/-- What ends goes on with what comes next. -/
theorem Ends.bind (hx : Ends x c Q) {f : α → Editing β} {R : β → Context → Prop}
    (hf : ∀ a c', Q a c' → Ends (f a) c' R) : Ends (x >>= f) c R := by
  obtain ⟨a, c', hrun, hQ⟩ := hx
  obtain ⟨b, c'', hrun', hR⟩ := hf a c' hQ
  exact ⟨b, c'', (run_bind_of_ok hrun).trans hrun', hR⟩

/-- What ends in one way ends in a weaker one. -/
theorem Ends.mono (hx : Ends x c Q) {R : α → Context → Prop} (h : ∀ a c', Q a c' → R a c') :
    Ends x c R := by
  obtain ⟨a, c', hrun, hQ⟩ := hx
  exact ⟨a, c', hrun, h a c' hQ⟩

/-- What an edit returns can be changed. -/
theorem Ends.map (hx : Ends x c Q) (f : α → β) : Ends (f <$> x) c fun b c' => ∃ a, f a = b ∧ Q a c' := by
  rw [← bind_pure_comp]
  exact hx.bind fun a _ h => ends_pure ⟨a, rfl, h⟩

/-- What an edit returns can be left alone. -/
theorem Ends.discard (hx : Ends x c Q) : Ends (discard x) c fun _ c' => ∃ a, Q a c' :=
  (hx.map fun _ => PUnit.unit).mono fun _ _ h => h.imp fun _ h => h.2

end Steps

/-! ### Loops -/

section Loops

variable {α β : Type} {xs : List α}

/-- A loop that hands a value on: what holds of it and of the elements that are left holds at the end,
when none is. -/
theorem ends_foldlM {f : β → α → Editing β} {I : List α → β → Context → Prop}
    (h : ∀ a rest b c, I (a :: rest) b c → Ends (f b a) c (I rest)) {b : β} {c : Context}
    (hb : I xs b c) : Ends (xs.foldlM f b) c (I []) := by
  induction xs generalizing b c with
  | nil => exact ends_pure hb
  | cons a rest ih =>
    rw [List.foldlM_cons]
    exact (h a rest b c hb).bind fun b c hb => ih hb

/-- A loop over a list that only changes the context. -/
theorem ends_forIn {f : α → Editing Unit} {I : List α → Context → Prop}
    (h : ∀ a rest c, I (a :: rest) c → Ends (f a) c fun _ => I rest) {c : Context} (hc : I xs c) :
    Ends (forIn xs PUnit.unit fun a _ => do f a; pure (ForInStep.yield PUnit.unit)) c fun _ => I [] := by
  induction xs generalizing c with
  | nil => exact ends_pure hc
  | cons a rest ih =>
    rw [List.forIn_cons, bind_assoc]
    exact (h a rest c hc).bind fun _ c hc => ih hc

/-- A loop that keeps some of the elements: what holds of those that are left and those that are kept so far. -/
theorem ends_filterM {f : α → Editing Bool} {I : List α → List α → Context → Prop}
    (h : ∀ a rest kept c, I (a :: rest) kept c →
      Ends (f a) c fun b => I rest (if b = true then kept ++ [a] else kept)) {c : Context} (hc : I xs [] c) :
    Ends (xs.filterM f) c (I []) := by
  -- the elements that are kept are collected in reverse
  have haux (ys found : List α) (c : Context) (hc : I ys found.reverse c) :
      Ends (List.filterAuxM f ys found) c fun kept => I [] kept.reverse := by
    induction ys generalizing found c with
    | nil => exact ends_pure hc
    | cons a rest ih =>
      rw [List.filterAuxM]
      refine (h a rest _ c hc).bind fun b c hb => ih _ c ?_
      cases b with
      | true =>
        show I rest (a :: found).reverse c
        rw [List.reverse_cons]
        exact hb
      | false => exact hb
  exact (haux xs [] c hc).bind fun kept c hkept => ends_pure hkept

end Loops

/-! ### The document and its scopes -/

section Context

variable {c : Context}

theorem ends_doc {Q : Document → Context → Prop} (h : Q c.doc c) : Ends doc c Q := ⟨c.doc, c, rfl, h⟩

theorem ends_node {l : Nat} {Q : Tree → Context → Prop} (h : Q (c.doc.get l) c) : Ends (node l) c Q :=
  ⟨c.doc.get l, c, rfl, h⟩

theorem ends_updateDoc {f : Document → Document} {Q : Unit → Context → Prop}
    (h : Q () { c with doc := f c.doc }) : Ends (updateDoc f) c Q := ⟨(), _, rfl, h⟩

theorem ends_updateView {f : ScopeTree → ScopeTree} {Q : Unit → Context → Prop}
    (h : Q () { c with view := c.view.map f }) : Ends (updateView f) c Q := ⟨(), _, rfl, h⟩

theorem ends_view {Q : ScopeTree → Context → Prop} (h : Q (c.view.getD {}) c) : Ends view c Q :=
  ⟨_, c, rfl, h⟩

theorem ends_adopt {t : Tree} {Q : Tree → Context → Prop}
    (h : Q (c.doc.adopt t).1 { c with doc := (c.doc.adopt t).2 }) : Ends (adopt t) c Q := ⟨_, _, rfl, h⟩

theorem ends_ask {α : Type} {question : Except Failure α} {a : α} (hq : question = .ok a)
    {Q : α → Context → Prop} (h : Q a c) : Ends (ask question) c Q := by
  subst hq
  exact ⟨a, c, rfl, h⟩

/-- The view is built where there is none. -/
theorem ends_scopes {s : ScopeTree} (hview : c.view = none) (hs : ScopeTree.build c.doc.root = .ok s) :
    Ends scopes c fun a c' => s = a ∧ { c with view := some s } = c' := by
  unfold scopes
  refine Ends.bind (x := get) (Q := fun a c' => c = a ∧ c = c') ⟨c, c, rfl, rfl, rfl⟩ ?_
  rintro _ _ ⟨rfl, rfl⟩
  rw [hview]
  dsimp only
  rw [hs]
  exact ⟨s, _, rfl, rfl, rfl⟩

end Context

/-! ### Questions about nodes -/

/-- **A question is answered**: the context stays, and the answer is as told. -/
def Answers {α : Type} (x : Editing α) (c : Context) (Q : α → Prop) : Prop := Ends x c fun a c' => c' = c ∧ Q a

section Questions

variable {α β : Type} {c : Context} {x : Editing α} {Q : α → Prop} {t v : Tree} {key name : String}

theorem answers_pure {a : α} (h : Q a) : Answers (pure a) c Q := ends_pure ⟨rfl, h⟩

/-- What is answered goes on with the answer. -/
theorem Answers.bind (hx : Answers x c Q) {f : α → Editing β} {R : β → Context → Prop}
    (hf : ∀ a, Q a → Ends (f a) c R) : Ends (x >>= f) c R := by
  refine Ends.bind hx fun a c' ha => ?_
  obtain ⟨rfl, ha⟩ := ha
  exact hf a ha

theorem Answers.mono (hx : Answers x c Q) {R : α → Prop} (h : ∀ a, Q a → R a) : Answers x c R :=
  Ends.mono hx fun _ _ ha => ⟨ha.1, h _ ha.2⟩

theorem answers_field (hv : t.get? key = some v) : Answers (t.field key) c (· = v) := by
  cases t with
  | obj l fields =>
    have hl : fields.lookup key = some v := hv
    rw [Tree.field, hl]
    exact answers_pure rfl
  | _ => cases hv

theorem answers_textField {s : String} (hv : t.get? key = some (.str s)) : Answers (t.textField key) c (· = s) :=
  (answers_field hv).bind fun _ hv => hv ▸ answers_pure rfl

/-- The first answer to a question about the elements of a list. -/
theorem answers_findSomeM? {xs : List α} {f : α → Editing (Option β)} {R : α → β → Prop}
    (h : ∀ a ∈ xs, Answers (f a) c fun b? => ∀ b, b? = some b → R a b) :
    Answers (xs.findSomeM? f) c fun b? => ∀ b, b? = some b → ∃ a ∈ xs, R a b := by
  induction xs with
  | nil => exact answers_pure nofun
  | cons a rest ih =>
    rw [List.findSomeM?_cons]
    refine (h a List.mem_cons_self).bind fun b? hb => ?_
    cases b? with
    | none =>
      refine (ih fun a ha => h a (List.mem_cons_of_mem _ ha)).mono fun b? hb b he => ?_
      exact (hb b he).imp fun _ ha => ⟨List.mem_cons_of_mem _ ha.1, ha.2⟩
    | some b =>
      refine answers_pure ?_
      rintro _ ⟨⟩
      exact ⟨a, List.mem_cons_self, hb b rfl⟩

/-- The answers to a question about the elements of a list. -/
theorem answers_filterMapM {xs : List α} {f : α → Editing (Option β)} {R : α → β → Prop}
    (h : ∀ a ∈ xs, Answers (f a) c fun b? => ∀ b, b? = some b → R a b) :
    Answers (xs.filterMapM f) c fun all => ∀ b ∈ all, ∃ a ∈ xs, R a b := by
  induction xs with
  | nil => exact answers_pure nofun
  | cons a rest ih =>
    rw [List.filterMapM_cons]
    refine (h a List.mem_cons_self).bind fun b? hb => ?_
    have hrest := ih fun a ha => h a (List.mem_cons_of_mem _ ha)
    have hmore {all : List β} (hall : ∀ b ∈ all, ∃ a ∈ rest, R a b) (b : β) (hb : b ∈ all) :
        ∃ a' ∈ a :: rest, R a' b :=
      (hall b hb).imp fun _ ha => ⟨List.mem_cons_of_mem _ ha.1, ha.2⟩
    cases b? with
    | none => exact hrest.mono fun all hall => hmore hall
    | some b =>
      refine hrest.bind fun all hall => answers_pure ?_
      exact List.forall_mem_cons.mpr ⟨⟨a, List.mem_cons_self, hb b rfl⟩, hmore hall⟩

end Questions

/-! ### Nodes that are replaced, place by place -/

open Document

variable {c : Context} {t : Tree} {found : Tree → Bool}

/-- Putting a node in the place of another, where that can be done. -/
theorem ends_replaceAt {places places' : Array Place} {i : Nat} {new : Tree} {d : Document}
    (h : c.doc.replaceAt places i new = .ok (d, places')) {Q : Array Place → Context → Prop}
    (hQ : Q places' { c with doc := d }) : Ends (Editing.replaceAt places i new) c Q := by
  have hask : Ends (ask (c.doc.replaceAt places i new)) c fun a c' => a = (d, places') ∧ c' = c :=
    ends_ask h ⟨rfl, rfl⟩
  refine Ends.bind (Q := fun d' c' => d' = c.doc ∧ c' = c) (ends_doc ⟨rfl, rfl⟩) fun d' c' hd => ?_
  rw [hd.1, hd.2]
  refine hask.bind fun a c' ha => ?_
  rw [ha.1, ha.2]
  exact ⟨places', _, rfl, hQ⟩

/-- **To take a new node in and put it in the place of an old one** goes through and is one more exchange. -/
theorem ends_exchange {β : Type} {make : Nat → Tree → Tree} {raw : Tree → Tree} {kept : List String}
    {targets : Nat → Prop} {start i : Nat} {new : Nat → Option Nat} {places : Array Place} {n : Tree}
    (he : Exchangeable make raw kept t targets start) (hc : Exchanged make t targets start new c.doc places)
    (hn : t.subtree[i]? = some n) (ht : targets n.label) (hnew : new n.label = none)
    {f : Tree → Array Place → Editing β} {Q : β → Context → Prop}
    (hf : ∀ d places', Exchanged make t targets start (Function.update new n.label (some c.doc.next)) d places' →
      Ends (f (make c.doc.next (n.exchange make new)) places') { c with doc := d } Q) :
    Ends (adopt (raw (n.exchange make new)) >>= fun x => Editing.replaceAt places i x >>= f x) c Q := by
  obtain ⟨d, places', hreplace, hnext⟩ := hc.replaceAt he hn ht hnew
  have hadopt := hc.adopt_target he hn ht
  refine Ends.bind (Q := fun x c' => x = make c.doc.next (n.exchange make new) ∧
    c' = { c with doc := { c.doc with next := ((raw (n.exchange make new)).number c.doc.next).2 } })
    (ends_adopt (by rw [hadopt]; exact ⟨rfl, rfl⟩)) fun x c' hx => ?_
  rw [hx.1, hx.2]
  have hput : Ends (Editing.replaceAt places i (make c.doc.next (n.exchange make new)))
      { c with doc := { c.doc with next := ((raw (n.exchange make new)).number c.doc.next).2 } }
      fun ps c' => ps = places' ∧ c' = { c with doc := d } := ends_replaceAt hreplace ⟨rfl, rfl⟩
  refine hput.bind fun ps c' hps => ?_
  rw [hps.1, hps.2]
  exact hf d places' hnext

/-- The numbers of the nodes that a rule has found. -/
def foundIn (found : Tree → Bool) (t : Tree) : List Nat := (t.subtree.zipIdx.filter fun x => found x.1).map (·.2)

/-- The places that are found are those of the nodes that are looked for. -/
theorem mem_foundIn {i : Nat} : i ∈ foundIn found t ↔ ∃ n, t.subtree[i]? = some n ∧ found n = true := by
  rw [foundIn, List.mem_map]
  constructor
  · rintro ⟨⟨n, j⟩, hx, rfl⟩
    obtain ⟨hmem, hfound⟩ := List.mem_filter.mp hx
    exact ⟨n, List.mem_zipIdx_iff_getElem?.mp hmem, hfound⟩
  · rintro ⟨n, hn, hfound⟩
    exact ⟨(n, i), List.mem_filter.mpr ⟨List.mem_zipIdx_iff_getElem?.mpr hn, hfound⟩, rfl⟩

theorem nodup_foundIn (found : Tree → Bool) (t : Tree) : (foundIn found t).Nodup := by
  have hall : (t.subtree.zipIdx.map (·.2)).Nodup := by
    rw [List.zipIdx_map_snd]
    exact List.nodup_range'
  exact hall.sublist (List.filter_sublist.map _)

/-- **How a loop over the nodes found ends.** Each step gives a new label to the node it comes to or leaves it,
and which of the two is told by the node; `J` is what holds between the steps. -/
theorem ends_foldlM_targets {f : Array Place → Nat → Editing (Array Place)} {P : Tree → Prop}
    {J : (Nat → Option Nat) → Array Place → Context → Prop} (hlabels : (t.subtree.map Tree.label).Nodup)
    (hstep : ∀ i n new places c, t.subtree[i]? = some n → found n = true → new n.label = none → J new places c →
      Ends (f places i) c fun places c => ∃ new', J new' places c ∧ (∀ l, l ≠ n.label → new' l = new l) ∧
        ((new' n.label).isSome = true ↔ P n))
    {places : Array Place} (hJ : J (fun _ => none) places c) :
    Ends ((foundIn found t).foldlM f places) c fun places c => ∃ new, J new places c ∧
      ∀ n ∈ t.subtree, found n = true → ((new n.label).isSome = true ↔ P n) := by
  -- two places of one label are the same
  have hinj {i j : Nat} {n u : Tree} (hn : t.subtree[i]? = some n) (hu : t.subtree[j]? = some u)
      (hl : u.label = n.label) : i = j := by
    have hi : (t.subtree.map Tree.label)[i]? = some n.label := by rw [List.getElem?_map, hn, Option.map_some]
    have hj : (t.subtree.map Tree.label)[j]? = some n.label := by rw [List.getElem?_map, hu, Option.map_some, hl]
    exact (List.getElem?_inj (List.getElem?_eq_some_iff.mp hi).1 hlabels).mp (hi.trans hj.symm)
  let I (rest : List Nat) (places : Array Place) (c : Context) : Prop := ∃ new, J new places c ∧ rest.Nodup ∧
    (∀ i ∈ rest, ∃ n, t.subtree[i]? = some n ∧ found n = true ∧ new n.label = none) ∧
    ∀ i n, t.subtree[i]? = some n → found n = true → i ∉ rest → ((new n.label).isSome = true ↔ P n)
  have hstart : I (foundIn found t) places c := by
    refine ⟨_, hJ, nodup_foundIn found t, fun i hi => ?_, fun i n hn hfound hi => ?_⟩
    · obtain ⟨n, hn, hfound⟩ := mem_foundIn.mp hi
      exact ⟨n, hn, hfound, rfl⟩
    · exact absurd (mem_foundIn.mpr ⟨n, hn, hfound⟩) hi
  refine (ends_foldlM (I := I) (fun i rest places c hI => ?_) hstart).mono fun places c hI => ?_
  · obtain ⟨new, hJ, hnodup, hleft, hdone⟩ := hI
    obtain ⟨hi, hrest⟩ := List.nodup_cons.mp hnodup
    obtain ⟨n, hn, hfound, hnone⟩ := hleft i List.mem_cons_self
    refine (hstep i n new places c hn hfound hnone hJ).mono fun places c h => ?_
    obtain ⟨new', hJ', hsame, hP⟩ := h
    refine ⟨new', hJ', hrest, fun j hj => ?_, fun j u hu hfoundu hj => ?_⟩
    · obtain ⟨u, hu, hfoundu, hnoneu⟩ := hleft j (List.mem_cons_of_mem _ hj)
      refine ⟨u, hu, hfoundu, ?_⟩
      rw [hsame _ fun hl => hi (hinj hn hu hl ▸ hj), hnoneu]
    · by_cases hij : i = j
      · subst hij
        cases hn.symm.trans hu
        exact hP
      · rw [hsame _ fun hl => hij (hinj hn hu hl)]
        exact hdone j u hu hfoundu fun hmem => (List.mem_cons.mp hmem).elim (fun h => hij h.symm) hj
  · obtain ⟨new, hJ, -, -, hdone⟩ := hI
    refine ⟨new, hJ, fun n hn hfound => ?_⟩
    obtain ⟨i, hi⟩ := List.getElem?_of_mem hn
    exact hdone i n hi hfound List.not_mem_nil

/-! ### Nodes of a program that has been read -/

section Program

variable {source : String} {p : Program}

/-- Whether a label is that of a node found. -/
def IsFound (found : Tree → Bool) (t : Tree) (l : Nat) : Prop := ∃ n ∈ t.subtree, found n = true ∧ n.label = l

/-- The nodes of a program that has been read differ in their labels. -/
theorem eq_of_label_of_read (h : Program.read source = .ok p) {n u : Tree} (hn : n ∈ p.tree.subtree)
    (hu : u ∈ p.tree.subtree) (hl : u.label = n.label) : u = n :=
  (inOrder_of_read h).eq_of_label hn ((inOrder_of_read h).mem_records hu) hl

/-- A label is one that is found if its node is. -/
theorem isFound_label (h : Program.read source = .ok p) {n : Tree} (hn : n ∈ p.tree.subtree) :
    IsFound found p.tree n.label ↔ found n = true := by
  refine ⟨?_, fun hfound => ⟨n, hn, hfound, rfl⟩⟩
  rintro ⟨u, hu, hfound, hl⟩
  rwa [eq_of_label_of_read h hn hu hl] at hfound

/-- **Nodes of a program that has been read can be exchanged** for their successors, if those below one of them are
under keys that are kept. -/
theorem exchangeable_of_read (h : Program.read source = .ok p) {part : Nat → Tree → List (String × Tree)}
    {raw : Tree → List (String × Tree)} {kept : List String} (hparts : Tree.Parts part raw kept)
    {make : Tree → Tree} (hmake : ∀ n, make n = .obj 0 (raw n ++ n.commentFields))
    (hkind : ∀ n ∈ p.tree.subtree, found n = true → n.kind ≠ "Program")
    (hbelow : ∀ n ∈ p.tree.subtree, found n = true → ∀ slot c, (slot, c) ∈ n.slots → ∀ x ∈ c.subtree,
      found x = true → slot.key ∈ kept) :
    Exchangeable (Tree.successor part) make kept p.tree (IsFound found p.tree) p.next where
  makes := hparts.makes
  number hn hl := by rw [hmake, hparts.number_raw hn hl]
  count_le hn hl := by rw [hmake]; exact hparts.count_labels_raw hn hl
  isObj := (Program.is_of_read h).2.isObj
  once l := (Program.count_labels_of_read h l).1
  given := (inOrder_of_read h).given
  distinct n hn := Tree.distinct_of_hasFields ((inOrder_of_read h).fields n hn)
  mem := by
    rintro l ⟨n, hn, -, hl⟩
    exact ⟨n, hn, hl, Tree.isNode_of_hasFields ((inOrder_of_read h).fields n hn)⟩
  root hroot := by
    have hself := Tree.mem_subtree_self p.tree
    exact hkind _ hself ((isFound_label h hself).mp hroot) (inOrder_of_read h).kind
  below n hn hl slot c hslot x hx hlx := by
    have hxt := Tree.subtree_subset hn (Tree.subtree_subset_of_mem_children (Tree.mem_children_of_mem_slots hslot) hx)
    exact hbelow n hn ((isFound_label h hn).mp hl) slot c hslot x hx ((isFound_label h hxt).mp hlx)

end Program

end Deminify.Editing
