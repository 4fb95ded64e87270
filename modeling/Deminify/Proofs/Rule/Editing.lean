import Deminify.Rule.Context
import Deminify.Proofs.Tree.Node

/-!
# What an edit keeps

An edit may fail, and what it has done by then stays done. So a property of the document that is to
survive a rule has to survive each of its steps (`Deminify.Editing.Keeps`), and then it holds after the
rule however that ends. What a step returns is described along with it.

The steps of the rules are of two sorts: questions, which do not touch the document and of which often
nothing is needed but that, and edits proper, for which `Deminify.Editing.keeps_updateDoc` asks what
the change of the document does.
-/

namespace Deminify.Editing

/-- **An edit keeps a property of the document**, whether it succeeds or fails, and what it returns
satisfies another. -/
def Keeps {α : Type} (I : Document → Prop) (x : Editing α) (Q : α → Prop) : Prop :=
  ∀ c : Context, I c.doc → I (x.run.run c).2.doc ∧ ∀ a, (x.run.run c).1 = .ok a → Q a

section Steps

variable {α β : Type} {I : Document → Prop} {x : Editing α} {Q : α → Prop}

theorem keeps_pure {a : α} (h : Q a) : Keeps I (pure a) Q := by
  intro c hc
  refine ⟨hc, fun b hb => ?_⟩
  cases hb
  exact h

theorem keeps_throw {f : Failure} : Keeps I (throw f : Editing α) Q :=
  fun _ hc => ⟨hc, fun _ h => nomatch h⟩

/-- One step after the other. -/
theorem Keeps.bind (hx : Keeps I x Q) {f : α → Editing β} {R : β → Prop}
    (hf : ∀ a, Q a → Keeps I (f a) R) : Keeps I (x >>= f) R := by
  intro c hc
  obtain ⟨hI, hQ⟩ := hx c hc
  rcases hr : x.run.run c with ⟨r, c'⟩
  rw [hr] at hI hQ
  have hrun : (x >>= f).run.run c = (match r with
      | .ok a => (f a).run.run c'
      | .error e => (.error e, c')) := by
    show (ExceptT.bind x f).run.run c = _
    rw [ExceptT.bind, ExceptT.run_mk]
    show (StateT.bind x.run (ExceptT.bindCont f)) c = _
    have hx' : x.run c = (r, c') := hr
    rw [StateT.bind, hx']
    cases r <;> rfl
  rw [hrun]
  cases r with
  | ok a => exact hf a (hQ a rfl) c' hI
  | error e => exact ⟨hI, fun _ h => nomatch h⟩

/-- A step of whose result nothing needs to be known. -/
theorem Keeps.after (hx : Keeps I x fun _ => True) {f : α → Editing β} {R : β → Prop}
    (hf : ∀ a, Keeps I (f a) R) : Keeps I (x >>= f) R := hx.bind fun a _ => hf a

/-- A step that may find nothing: what follows keeps the property in both cases. -/
theorem Keeps.afterOption {x : Editing (Option α)} (hx : Keeps I x fun _ => True)
    {f : Option α → Editing β} {R : β → Prop} (hnone : Keeps I (f none) R)
    (hsome : ∀ a, Keeps I (f (some a)) R) : Keeps I (x >>= f) R :=
  hx.after fun a? => a?.casesOn hnone hsome

theorem Keeps.mono (hx : Keeps I x Q) {R : α → Prop} (h : ∀ a, Q a → R a) : Keeps I x R :=
  fun c hc => ⟨(hx c hc).1, fun a ha => h a ((hx c hc).2 a ha)⟩

theorem Keeps.forget (hx : Keeps I x Q) : Keeps I x fun _ => True := hx.mono fun _ _ => trivial

theorem Keeps.map (hx : Keeps I x Q) {f : α → β} {R : β → Prop} (h : ∀ a, Q a → R (f a)) :
    Keeps I (f <$> x) R := by
  rw [map_eq_pure_bind]
  exact hx.bind fun a ha => keeps_pure (h a ha)

theorem Keeps.discard (hx : Keeps I x Q) : Keeps I (discard x) fun _ => True :=
  hx.map fun _ _ => trivial

end Steps

/-! ### Loops -/

section Loops

variable {α β : Type} {I : Document → Prop} {xs : List α}

theorem keeps_forIn {b : β} {f : α → β → Editing (ForInStep β)} {S : β → Prop} (hb : S b)
    (h : ∀ a ∈ xs, ∀ b, S b → Keeps I (f a b) fun step => S step.value) : Keeps I (forIn xs b f) S := by
  induction xs generalizing b with
  | nil => exact keeps_pure hb
  | cons a rest ih =>
    rw [List.forIn_cons]
    refine (h a List.mem_cons_self b hb).bind fun step hstep => ?_
    cases step with
    | done b => exact keeps_pure hstep
    | yield b => exact ih hstep fun a ha => h a (List.mem_cons_of_mem _ ha)

theorem keeps_foldlM {b : β} {f : β → α → Editing β} {S : β → Prop} (hb : S b)
    (h : ∀ a ∈ xs, ∀ b, S b → Keeps I (f b a) S) : Keeps I (xs.foldlM f b) S := by
  induction xs generalizing b with
  | nil => exact keeps_pure hb
  | cons a rest ih =>
    rw [List.foldlM_cons]
    exact (h a List.mem_cons_self b hb).bind fun b hb =>
      ih hb fun a ha => h a (List.mem_cons_of_mem _ ha)

theorem keeps_mapM {f : α → Editing β} {R : β → Prop} (h : ∀ a ∈ xs, Keeps I (f a) R) :
    Keeps I (xs.mapM f) fun all => ∀ b ∈ all, R b := by
  induction xs with
  | nil => exact keeps_pure nofun
  | cons a rest ih =>
    rw [List.mapM_cons]
    refine (h a List.mem_cons_self).bind fun b hb =>
      (ih fun a ha => h a (List.mem_cons_of_mem _ ha)).bind fun all hall => keeps_pure ?_
    exact List.forall_mem_cons.mpr ⟨hb, hall⟩

theorem keeps_filterMapM {f : α → Editing (Option β)} {R : β → Prop}
    (h : ∀ a ∈ xs, Keeps I (f a) fun b? => ∀ b ∈ b?, R b) :
    Keeps I (xs.filterMapM f) fun all => ∀ b ∈ all, R b := by
  induction xs with
  | nil => exact keeps_pure nofun
  | cons a rest ih =>
    have hrest := ih fun a ha => h a (List.mem_cons_of_mem _ ha)
    rw [List.filterMapM_cons]
    refine (h a List.mem_cons_self).bind fun b? hb => ?_
    cases b? with
    | none => exact hrest
    | some b => exact hrest.bind fun all hall => keeps_pure (List.forall_mem_cons.mpr ⟨hb b rfl, hall⟩)

theorem keeps_filterM {f : α → Editing Bool} {R : α → Prop}
    (h : ∀ a ∈ xs, Keeps I (f a) fun b => b = true → R a) :
    Keeps I (xs.filterM f) fun kept => ∀ a ∈ kept, a ∈ xs ∧ R a := by
  have haux (ys found : List α) (hys : ∀ a ∈ ys, a ∈ xs) (hfound : ∀ a ∈ found, a ∈ xs ∧ R a) :
      Keeps I (List.filterAuxM f ys found) fun kept => ∀ a ∈ kept, a ∈ xs ∧ R a := by
    induction ys generalizing found with
    | nil => exact keeps_pure hfound
    | cons a rest ih =>
      have hrest (b : α) (hb : b ∈ rest) : b ∈ xs := hys b (List.mem_cons_of_mem _ hb)
      have ha : a ∈ xs := hys a List.mem_cons_self
      rw [List.filterAuxM]
      refine (h a ha).bind fun b hb => ih _ hrest ?_
      cases b with
      | true => exact List.forall_mem_cons.mpr ⟨⟨ha, hb rfl⟩, hfound⟩
      | false => exact hfound
  refine (haux xs [] (fun a ha => ha) nofun).bind fun kept hkept => keeps_pure fun a ha => ?_
  exact hkept a (List.mem_reverse.mp ha)

theorem keeps_anyM {f : α → Editing Bool} (h : ∀ a ∈ xs, Keeps I (f a) fun _ => True) :
    Keeps I (xs.anyM f) fun _ => True := by
  induction xs with
  | nil => exact keeps_pure trivial
  | cons a rest ih =>
    rw [List.anyM_cons]
    refine (h a List.mem_cons_self).after fun b => ?_
    split
    · exact keeps_pure trivial
    · exact ih fun a ha => h a (List.mem_cons_of_mem _ ha)

theorem keeps_findSomeM? {f : α → Editing (Option β)} (h : ∀ a ∈ xs, Keeps I (f a) fun _ => True) :
    Keeps I (xs.findSomeM? f) fun _ => True := by
  induction xs with
  | nil => exact keeps_pure trivial
  | cons a rest ih =>
    rw [List.findSomeM?_cons]
    refine (h a List.mem_cons_self).after fun b? => ?_
    split
    · exact keeps_pure trivial
    · exact ih fun a ha => h a (List.mem_cons_of_mem _ ha)

end Loops

/-! ### The document and its scopes -/

section Context

variable {I : Document → Prop}

theorem keeps_doc : Keeps I doc I := by
  intro c hc
  refine ⟨hc, fun d hd => ?_⟩
  cases hd
  exact hc

theorem keeps_root : Keeps I root fun t => ∃ d, I d ∧ d.root = t := by
  intro c hc
  refine ⟨hc, fun t ht => ?_⟩
  cases ht
  exact ⟨c.doc, hc, rfl⟩

theorem keeps_node (label : Nat) : Keeps I (node label) fun t => ∃ d, I d ∧ d.get label = t :=
  keeps_doc.bind fun d hd => keeps_pure ⟨d, hd, rfl⟩

theorem keeps_updateDoc {f : Document → Document} (h : ∀ d, I d → I (f d)) :
    Keeps I (updateDoc f) fun _ => True := fun c hc => ⟨h c.doc hc, fun _ _ => trivial⟩

theorem keeps_view : Keeps I view fun _ => True := fun _ hc => ⟨hc, fun _ _ => trivial⟩

theorem keeps_updateView (f : ScopeTree → ScopeTree) : Keeps I (updateView f) fun _ => True :=
  fun _ hc => ⟨hc, fun _ _ => trivial⟩

theorem keeps_resetView : Keeps I resetView fun _ => True := fun _ hc => ⟨hc, fun _ _ => trivial⟩

theorem keeps_get : Keeps I (get : Editing Context) fun c => I c.doc := by
  intro c hc
  refine ⟨hc, fun c' hc' => ?_⟩
  cases hc'
  exact hc

theorem keeps_set {c : Context} (h : I c.doc) : Keeps I (set c : Editing Unit) fun _ => True :=
  fun _ _ => ⟨h, fun _ _ => trivial⟩

/-- Finding the scopes does not touch the document. -/
theorem keeps_scopes : Keeps I scopes fun _ => True := by
  refine keeps_get.bind fun c hc => ?_
  dsimp only
  split
  · exact keeps_pure trivial
  · split
    · exact (keeps_set hc).after fun _ => keeps_pure trivial
    · exact keeps_throw

theorem keeps_ask {α : Type} (question : Except Failure α) :
    Keeps I (ask question) fun a => question = .ok a := by
  cases question with
  | ok a => exact keeps_pure rfl
  | error f => exact keeps_throw

theorem keeps_adopt {t : Tree} (h : ∀ d, I d → I (d.adopt t).2) {Q : Tree → Prop}
    (hQ : ∀ d, I d → Q (d.adopt t).1) : Keeps I (adopt t) Q := by
  refine keeps_doc.bind fun d hd => (keeps_updateDoc fun _ _ => h d hd).after fun _ => ?_
  exact keeps_pure (hQ d hd)

end Context

/-! ### Questions about nodes -/

section Questions

variable {I : Document → Prop}

theorem keeps_field (t : Tree) (key : String) : Keeps I (t.field key) fun v => t.get? key = some v := by
  unfold Tree.field
  split
  · split
    · rename_i hv
      exact keeps_pure hv
    · exact keeps_throw
  · exact keeps_throw

theorem keeps_listField (t : Tree) (key : String) :
    Keeps I (t.listField key) fun items => t.get? key = some (.list items) := by
  refine (keeps_field t key).bind fun v hv => ?_
  split
  · exact keeps_pure hv
  · exact keeps_throw

theorem keeps_textField (t : Tree) (key : String) :
    Keeps I (t.textField key) fun s => t.get? key = some (.str s) := by
  refine (keeps_field t key).bind fun v hv => ?_
  split
  · exact keeps_pure hv
  · exact keeps_throw

theorem keeps_kindOf (t : Tree) : Keeps I t.kindOf fun kind => t.get? "type" = some (.str kind) :=
  keeps_textField t "type"

theorem keeps_isNamed (t : Tree) (name : String) : Keeps I (t.isNamed name) fun _ => True := by
  unfold Tree.isNamed
  split
  · refine (keeps_field t "name").forget.after fun value => ?_
    split <;> exact keeps_pure trivial
  · exact keeps_pure trivial

theorem keeps_staticName (t : Tree) : Keeps I t.staticName fun _ => True := by
  refine (keeps_field t "property").forget.after fun property => ?_
  dsimp only
  split
  · exact (keeps_textField property "name").forget.after fun _ => keeps_pure trivial
  · split <;> exact keeps_pure trivial

theorem keeps_keyName (t : Tree) : Keeps I t.keyName fun _ => True := by
  unfold Tree.keyName
  dsimp only
  split
  · exact keeps_pure trivial
  · split
    · exact (keeps_textField (t.get "key") "name").forget.after fun _ => keeps_pure trivial
    · split <;> exact keeps_pure trivial

/-- The lists of statements are under two keys. -/
theorem keeps_statementLists (t : Tree) : Keeps I t.statementLists fun lists =>
    ∀ entry ∈ lists, entry.2 = "body" ∨ entry.2 = "consequent" := by
  refine keeps_filterMapM fun n _ => ?_
  split
  · exact keeps_pure nofun
  · rename_i key hkey
    refine (keeps_field n key).discard.after fun _ => keeps_pure ?_
    rintro _ ⟨⟩
    unfold Tree.statementKey at hkey
    split at hkey
    · cases hkey
      exact .inr rfl
    · split at hkey
      · cases hkey
        exact .inl rfl
      · cases hkey

end Questions

end Deminify.Editing
