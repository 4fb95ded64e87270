import Deminify.Proofs.Printer.Attached
import Deminify.Proofs.Program
import Deminify.Proofs.Rule.Ending
import Deminify.Proofs.Scope.Trade
import Deminify.Proofs.Scope.Visited
import Deminify.Rules.Undefined

/-!
# `undefined` for `void` of a number

The rule asks for each `void` of a number whether the scopes find a declaration of `undefined` from where it stands,
and while it goes from one to the next it notes the names that it has written. **What it asks stays the same**: a name
that is used opens no scope and declares nothing.

The names that are written are looked up anew in the scopes of what has become of the program. **They belong to no scope
there, and all other names mean what they meant** (`Deminify.Rules.Undefined.KeepsNames`), if each `void` of a number
stands where an expression is read (`Deminify.Rules.Undefined.AreRead`). The parser takes some for parameters.
-/

namespace Deminify.Rules.Undefined

open Editing Document ScopeTree

variable {t n : Tree} {m k l : Nat} {fields : List (String × Tree)}

/-! ### What is replaced -/

/-- Whether a node is `void` of a number. -/
def IsVoid (t : Tree) : Bool :=
  t.isKind "UnaryExpression" && (t.get "operator").str? == some "void" && (t.get "argument").isNumericLiteral

/-- **Whether the scopes find no declaration of `undefined`** from where the node with a label stands. -/
def FindsNone (view : ScopeTree) (l : Nat) : Prop := view.lookup ((view.scopeFor l).getD 0) "undefined" = none

instance (view : ScopeTree) (l : Nat) : Decidable (FindsNone view l) := inferInstanceAs (Decidable (_ = _))

/-- The fields of the name that is written for a node, apart from comments. -/
def part (_ : Nat) (_ : Tree) : List (String × Tree) := [("type", .str "Identifier"), ("name", .str "undefined")]

theorem withCommentsOf_eq (n : Tree) :
    (Tree.identifier "undefined").withCommentsOf n = .obj 0 (part 0 n ++ n.commentFields) :=
  Tree.withCommentsOf_eq rfl rfl

theorem parts : Tree.Parts part (part 0) [] where
  isNode _ _ := rfl
  edit _ _ _ := rfl
  keeps := nofun
  number _ _ := rfl
  count_le {n l} hn hl := by
    have hall := Tree.count_labels_get_of_nodup (l := l) hn ["leadingComments", "trailingComments"] (by decide)
    simp only [List.flatMap_cons, List.flatMap_nil, List.count_append, List.count_nil] at hall
    rw [show Tree.labelsFields (part 0 n) = [] from rfl, List.count_nil]
    omega

/-! ### The nodes that are looked at -/

section Program

variable {source : String} {p : Program}

/-- The fields of an operation on one operand. -/
def unaryFields : List (String × FieldSort) := [("prefix", .flag), ("operator", .text), ("argument", .expression)]

theorem schema_unary (h : n.isKind "UnaryExpression" = true) : schema n.kind = some unaryFields := by
  rw [(Tree.kind_of_isKind h).2]
  rfl

theorem isVoid_eq (h : n.hasFields = true) : isVoid (m := Editing) n = pure (IsVoid n) := by
  rw [isVoid, IsVoid]
  cases hk : n.isKind "UnaryExpression" with
  | false => rfl
  | true =>
    obtain ⟨operator, hoperator, htext⟩ := @Tree.takes_of_hasFields _ h _ (schema_unary hk) "operator" .text
      (by simp [unaryFields])
    obtain ⟨argument, hargument, -⟩ := @Tree.takes_of_hasFields _ h _ (schema_unary hk) "argument"
      .expression (by simp [unaryFields])
    rw [if_pos rfl, Tree.field_of_get? hoperator, pure_bind, Tree.get_of_get? hoperator, Tree.get_of_get? hargument]
    cases operator with
    | str s =>
      split
      · rename_i hs
        cases hs
        rw [Tree.field_of_get? hargument, pure_bind]
        rfl
      · rename_i hs
        have hne : s ≠ "void" := fun he => hs (by rw [he])
        rw [Tree.str?, Bool.true_and, Option.some_beq_some, beq_eq_false_iff_ne.mpr hne, Bool.false_and]
    | _ => cases htext

/-- The name has nothing below it. -/
theorem children_successor (m : Nat) (n : Tree) : (Tree.successor part m n).children = [] := by
  refine List.eq_nil_iff_forall_not_mem.mpr fun c hc => ?_
  obtain ⟨hnode, key, v, hv, hkey, hcv⟩ := Tree.mem_children.mp hc
  rcases List.mem_append.mp hv with hv | hv
  · rw [part, List.mem_cons, List.mem_singleton] at hv
    rcases hv with hv | hv
    all_goals
      cases hv
      rcases hcv with rfl | hcv
      · cases hnode
      · cases hcv
  · rw [Tree.holdsChildren_of_mem_commentFields hv] at hkey
    cases hkey

/-- What is below a node that is replaced is a literal. -/
theorem literal_below (h : Program.read source = .ok p) (hn : n ∈ p.tree.subtree) (hvoid : IsVoid n = true) {c : Tree}
    (hc : c ∈ n.children) : c.kind = "Literal" ∧ c.subtree = [c] := by
  obtain ⟨hunary, hargument⟩ := Bool.and_eq_true_iff.mp hvoid
  have hin := inOrder_of_read h
  exact @Tree.subtree_of_literal _ (hin.fields n hn) _ (schema_unary (Bool.and_eq_true_iff.mp hunary).1)
    "argument" (by simp [unaryFields, FieldSort.admits]) (Bool.and_eq_true_iff.mp hargument).1 _ hc
    (hin.fields c (Tree.mem_subtree_of_mem_children hn hc))

/-- Nothing that is replaced is below something else that is. -/
theorem not_isVoid_below (h : Program.read source = .ok p) (hn : n ∈ p.tree.subtree) (hvoid : IsVoid n = true) {c : Tree}
    (hc : c ∈ n.children) : ∀ x ∈ c.subtree, IsVoid x = false := by
  obtain ⟨hliteral, honly⟩ := literal_below h hn hvoid hc
  intro x hx
  rw [honly] at hx
  obtain rfl := List.mem_singleton.mp hx
  refine Bool.eq_false_iff.mpr fun hx => ?_
  have hkind := (Tree.kind_of_isKind (Bool.and_eq_true_iff.mp (Bool.and_eq_true_iff.mp hx).1).1).2
  rw [hliteral] at hkind
  exact absurd hkind (by decide)

/-- **The nodes that are replaced can be exchanged.** -/
theorem exchangeable (h : Program.read source = .ok p) : Exchangeable (Tree.successor part)
    (fun n => (Tree.identifier "undefined").withCommentsOf n) [] p.tree (IsFound IsVoid p.tree) p.next :=
  exchangeable_of_read h parts withCommentsOf_eq
    (fun n hn hvoid hk => by
      rw [(Tree.kind_of_isKind (Bool.and_eq_true_iff.mp (Bool.and_eq_true_iff.mp hvoid).1).1).2] at hk
      exact absurd hk (by decide))
    fun n hn hvoid slot c hslot x hx hxvoid => by
      rw [not_isVoid_below h hn hvoid (Tree.mem_children_of_mem_slots hslot) x hx] at hxvoid
      cases hxvoid

end Program

/-! ### What the scopes tell -/

section View

variable {view s : ScopeTree} {next : Nat}

/-- **Whether a view still tells what another told** about the labels below `next`. -/
structure Still (view : ScopeTree) (next : Nat) (s : ScopeTree) : Prop where
  scopes : s.scopes = view.scopes
  scopeFor : ∀ l < next, s.scopeFor l = view.scopeFor l

theorem Still.findsNone (h : Still view next s) (hl : l < next) : FindsNone s l ↔ FindsNone view l := by
  rw [FindsNone, FindsNone, lookup_congr h.scopes, h.scopeFor l hl]

/-- A name that is written is noted. -/
theorem Still.addReference (h : Still view next s) (hm : next ≤ m) (k : Nat) (parent : Option (Nat × String)) :
    Still view next ((s.setScope m k).addReference m "undefined" k parent false).1 where
  scopes := by rw [scopes_addReference]; exact h.scopes
  scopeFor l hl := by
    rw [ScopeTree.scopeFor, scopeOf_addReference]
    exact (scopeFor_insert.trans (if_neg (by omega))).trans (h.scopeFor l hl)

end View

/-! ### The run -/

section Run

variable {source : String} {p : Program} {view : ScopeTree}

/-- What holds between two replacements. -/
def Between (p : Program) (view : ScopeTree) (new : Nat → Option Nat) (places : Array Place) (c : Context) : Prop :=
  Exchanged (Tree.successor part) p.tree (IsFound IsVoid p.tree) p.next new c.doc places ∧
    ∃ s, c.view = some s ∧ Still view p.next s

/-- **A node is replaced** if the scopes find no declaration from where it stands. -/
theorem ends_replace (h : Program.read source = .ok p) {c : Context} {new : Nat → Option Nat} {places : Array Place} {i : Nat}
    (hc : Between p view new places c) (hn : p.tree.subtree[i]? = some n) (hvoid : IsVoid n = true) (hnew : new n.label = none) :
    Ends (replace places i) c fun places c' => ∃ new', Between p view new' places c' ∧ (∀ l, l ≠ n.label → new' l = new l) ∧
      ((new' n.label).isSome = true ↔ FindsNone view n.label) := by
  obtain ⟨hexchanged, s, hview, hstill⟩ := hc
  have hex := exchangeable h
  have hmem := List.mem_of_getElem? hn
  have htarget := (isFound_label h hmem).mpr hvoid
  have hlt : n.label < p.next := (hex.given _ ((inOrder_of_read h).label_mem hmem)).2
  have hold : c.doc.nodeAt places i = n.exchange (Tree.successor part) new := hexchanged.nodeAt_target hex hn htarget
  have hlabel : (n.exchange (Tree.successor part) new).label = n.label := by
    rw [Tree.label_exchange parts.makes ((inOrder_of_read h).isObj hmem), hnew, Option.getD_none]
  rw [replace]
  refine Ends.bind (Q := fun d c' => d = c.doc ∧ c' = c) (ends_doc ⟨rfl, rfl⟩) fun d c' hd => ?_
  rw [hd.1, hd.2]
  dsimp only
  refine Ends.bind (Q := fun s' c' => s' = s ∧ c' = c) (ends_view ⟨by rw [hview]; rfl, rfl⟩) fun s' c' hs => ?_
  rw [hs.1, hs.2, hold, hlabel]
  have hfinds := hstill.findsNone hlt
  split
  · rename_i hdeclared
    refine ends_pure ⟨new, ⟨hexchanged, s, hview, hstill⟩, fun _ _ => rfl, ?_⟩
    rw [hnew, ← hfinds, FindsNone]
    rw [Option.isSome_iff_ne_none] at hdeclared
    exact iff_of_false (by simp) hdeclared
  · rename_i hfree
    refine ends_exchange hex hexchanged hn htarget hnew fun d places' hd => ?_
    have hnewLabel : (Tree.successor part c.doc.next (n.exchange (Tree.successor part) new)).label = c.doc.next :=
      parts.makes.label _ _
    refine Ends.bind (Q := fun _ c' => c' = { c with doc := d }) (ends_doc rfl) fun _ c' hc' => ?_
    rw [hc', hnewLabel]
    refine Ends.bind (Q := fun _ c' => c'.doc = d ∧ ∃ s, c'.view = some s ∧ Still view p.next s)
      (ends_updateView ⟨rfl, _, by rw [hview]; rfl, hstill.addReference hexchanged.le _ _⟩) fun _ c' hc' => ?_
    obtain ⟨hdoc, hstill'⟩ := hc'
    refine ends_pure ⟨_, ⟨hdoc ▸ hd, hstill'⟩, fun l hl => Function.update_of_ne hl _ _, ?_⟩
    rw [Function.update_self, ← hfinds, FindsNone]
    exact iff_of_true rfl (Option.not_isSome_iff_eq_none.mp hfree)

/-- Questions that are answered by a test pick what passes it. -/
theorem filterM_eq_pure {α : Type} {f : α → Editing Bool} {g : α → Bool} {xs : List α} (h : ∀ x ∈ xs, f x = pure (g x)) :
    xs.filterM f = pure (xs.filter g) := by
  have haux (found : List α) : List.filterAuxM f xs found = pure ((xs.filter g).reverse ++ found) := by
    induction xs generalizing found with
    | nil => rfl
    | cons x rest ih =>
      rw [List.filterAuxM, h x List.mem_cons_self, pure_bind, ih fun y hy => h y (List.mem_cons_of_mem _ hy),
        List.filter_cons]
      cases g x <;> simp
  rw [List.filterM, haux, pure_bind]
  simp

/-- **How the run ends**: the `void`s from where the scopes find no declaration have been exchanged. -/
theorem ends_run (h : Program.read source = .ok p) (hbuild : ScopeTree.build p.tree = .ok view) {c : Context}
    (hdoc : c.doc = ⟨p.tree, [], p.next⟩) (hview : c.view = none) : Ends run c fun _ c' => ∃ places new,
      Between p view new places c' ∧
      ∀ n ∈ p.tree.subtree, IsVoid n = true → ((new n.label).isSome = true ↔ FindsNone view n.label) := by
  have hroot : c.doc.root = p.tree := by rw [hdoc]
  have hfold := @ends_foldlM_targets { c with view := some view } p.tree IsVoid replace (fun n => FindsNone view n.label)
    (fun new places c' => Between p view new places c') (Program.labelled_of_read h)
    (fun i n new places c' hn hvoid hnew hJ => ends_replace h hJ hn hvoid hnew) p.tree.places
    ⟨(exchangeable h).exchanged hroot (by rw [hdoc]), view, rfl, rfl, fun _ _ => rfl⟩
  rw [run]
  refine (ends_scopes hview (hroot ▸ hbuild)).discard.bind fun _ c' hc => ?_
  obtain ⟨_, -, rfl⟩ := hc
  refine Ends.bind (Q := fun t c' => t = p.tree ∧ c' = { c with view := some view }) ⟨_, _, rfl, hroot, rfl⟩ fun t c' ht => ?_
  rw [ht.1, ht.2]
  dsimp only
  have hfound : p.tree.subtree.zipIdx.filterM (fun x => isVoid (m := Editing) x.1) =
      pure (p.tree.subtree.zipIdx.filter fun x => IsVoid x.1) :=
    filterM_eq_pure fun x hx => isVoid_eq ((inOrder_of_read h).fields _ (List.fst_mem_of_mem_zipIdx hx))
  rw [hfound, pure_bind]
  exact hfold.discard.mono fun _ c' hc => by
    obtain ⟨places, new, hb, hall⟩ := hc
    exact ⟨places, new, hb, hall⟩

/-! ### What the names mean -/

/-- **Whether each `void` of a number stands where an expression is read.** -/
def AreRead (program : Tree) : Prop := ∀ q, Stands program q → IsVoid q.node = true → q.role = .reads

instance (program : Tree) : Decidable (AreRead program) :=
  decidableForallStands program fun q => IsVoid q.node = true → q.role = .reads

/-- **Whether only the names that are written mean something new**, in what has become of a program and in its scopes:
they are used where they stand and belong to no scope, and all other names belong where they belonged. -/
structure KeepsNames (program after : Tree) (new : Nat → Option Nat) (view fresh : ScopeTree) : Prop where
  happens : ∀ e, Happens after e ↔ Happens program e ∨
    ∃ q m, Stands program q ∧ new q.node.label = some m ∧ e = .use m "undefined" false q.frames
  unresolved : ∀ q m, Stands program q → new q.node.label = some m →
    Resolves after "undefined" q.frames none ∧ fresh.RecordedAs m [.global "undefined"]
  resolves : ∀ x frames found, Resolves after x frames found ↔ Resolves program x frames found
  declared : ∀ l x writes frames, Happens program (.use l x writes frames) →
    ∀ d, d ∈ fresh.declarersOf l ↔ d ∈ view.declarersOf l

/-- The name that is written has the fields of a name. -/
theorem conforms_successor (m : Nat) (n : Tree) : (Tree.successor part m n).conforms = true := by
  rw [← Tree.conforms_core, Tree.core_successor]
  show (Tree.identifier "undefined").core.conforms = true
  decide

end Run

section Names

variable {source : String} {p : Program} (h : Program.read source = .ok p)

include h

/-- The `void`s that are replaced are exchanged for names. -/
theorem traded_of_exchanged (hread : AreRead p.tree) {new : Nat → Option Nat} {d : Document} {places : Array Place}
    (he : Exchanged (Tree.successor part) p.tree (IsFound IsVoid p.tree) p.next new d places) :
    Traded (Tree.successor part) new "undefined" p.tree := by
  have hvoid {n : Tree} (hn : n ∈ p.tree.subtree) (hs : (new n.label).isSome = true) : IsVoid n = true := by
    obtain ⟨m, hm⟩ := Option.isSome_iff_exists.mp hs
    exact (isFound_label h hn).mp (he.named _ m hm).1
  have hobj : d.root.isObj = true := by
    rw [he.root, Tree.isObj_exchange (exchangeable h).makes]
    exact (exchangeable h).isObj
  refine ⟨⟨fun _ _ => rfl, fun _ _ => rfl, conforms_successor, fun n hn hs => ?_, fun n hn hs c hc => ?_⟩,
    Program.is_of_read h, fun _ _ => rfl, ?_, fun q hq hs => hread q hq (hvoid hq.mem_subtree hs)⟩
  · exact (Tree.kind_of_isKind (Bool.and_eq_true_iff.mp (Bool.and_eq_true_iff.mp (hvoid hn hs)).1).1).2
  · exact (literal_below h hn (hvoid hn hs) hc).1
  · rw [← he.root_eq_mapNodes (exchangeable h)]
    exact (List.nodup_iff_count.mpr he.once).sublist (Tree.labels_subtree hobj)

/-- What the rule asks of the scopes is what the name belongs to. -/
theorem findsNone_iff (hread : AreRead p.tree) {notes : List Note} (ht : Tells p.tree notes)
    (hwalk : walk p.tree.height (allChildren p.tree 0 .normal) 1 = .ok notes) {q : Site} (hq : Stands p.tree q)
    (hvoid : IsVoid q.node = true) :
    FindsNone (ofNotes p.tree.label notes) q.node.label ↔ Resolves p.tree "undefined" q.frames none := by
  have hkind := (Tree.kind_of_isKind (Bool.and_eq_true_iff.mp (Bool.and_eq_true_iff.mp hvoid).1).1).2
  exact ht.lookup_scopeFor (Program.is_of_read h) (Program.labelled_of_read h) hwalk hq (by rw [hread q hq hvoid]; rfl)
    (by simp [Site.openedKinds, hkind]) (by simp [hkind]) (by simp [hkind]) (by simp [hkind]) "undefined"

end Names

section Result

variable {source : String} {p : Program}

/-- **What becomes of a program.** The nodes that are replaced are the `void`s of numbers from where the scopes find no
declaration of `undefined`. Each becomes the name `undefined` with a new label and with the comments of the node, but
without what was below it; every other node stays what it was. If the `void`s stand where expressions are read, those
that are replaced are the ones where `undefined` belongs to no scope, and in the scopes of what has become of the program
only the names that are written mean something new. -/
theorem voids_replaced (h : Program.read source = .ok p) {c : Context} (hdoc : c.doc = ⟨p.tree, [], p.next⟩)
    (hview : c.view = none) : ∃ view c' new, ScopeTree.build p.tree = .ok view ∧ run.run.run c = (.ok (), c') ∧
      c'.doc.root = p.tree.mapNodes (Tree.exchangeNode (Tree.successor part) new) ∧
      (∀ n ∈ p.tree.subtree, (new n.label).isSome = true ↔ IsVoid n = true ∧ FindsNone view n.label) ∧
      (∀ l m, new l = some m → p.next ≤ m ∧ ∀ l', new l' = some m → l' = l) ∧
      (∀ m n, (Tree.successor part m n).comments = n.comments ∧ (Tree.successor part m n).children = []) ∧
      (AreRead p.tree → (∀ q, Stands p.tree q → ((new q.node.label).isSome = true ↔
          IsVoid q.node = true ∧ Resolves p.tree "undefined" q.frames none)) ∧
        ∃ fresh, ScopeTree.build c'.doc.root = .ok fresh ∧ KeepsNames p.tree c'.doc.root new view fresh) := by
  obtain ⟨notes, hwalk, ht⟩ := ScopeTree.exists_tells (Program.is_of_read h) (Program.labelled_of_read h)
  have hbuild : ScopeTree.build p.tree = .ok (ScopeTree.ofNotes p.tree.label notes) := by
    rw [ScopeTree.build, hwalk]
    rfl
  obtain ⟨u, c', hrun, places, new, ⟨hexchanged, -⟩, hall⟩ := ends_run h hbuild hdoc hview
  have hroot := hexchanged.root_eq_mapNodes (exchangeable h)
  have hreplaced : ∀ n ∈ p.tree.subtree, (new n.label).isSome = true ↔
      IsVoid n = true ∧ FindsNone (ofNotes p.tree.label notes) n.label := fun n hn => by
    refine ⟨fun hs => ?_, fun hn' => (hall n hn hn'.1).mpr hn'.2⟩
    obtain ⟨m, hm⟩ := Option.isSome_iff_exists.mp hs
    have hvoid := (isFound_label h hn).mp (hexchanged.named _ m hm).1
    exact ⟨hvoid, (hall n hn hvoid).mp hs⟩
  refine ⟨_, c', new, hbuild, hrun, hroot, hreplaced,
    fun l m hm => ⟨(hexchanged.named l m hm).2.1, fun l' hm' => hexchanged.inj l' l m hm' hm⟩,
    fun m n => ⟨Tree.comments_successor rfl rfl, children_successor m n⟩, fun hread => ?_⟩
  have htraded := traded_of_exchanged h hread hexchanged
  have hwhere (q : Site) (hq : Stands p.tree q) : (new q.node.label).isSome = true ↔
      IsVoid q.node = true ∧ Resolves p.tree "undefined" q.frames none := by
    rw [hreplaced q.node hq.mem_subtree]
    exact and_congr_right fun hvoid => findsNone_iff h hread ht hwalk hq hvoid
  obtain ⟨fresh, hfresh, hrecorded, hdeclared⟩ := htraded.exists_fresh ht
  have hnone {q : Site} {m : Nat} (hq : Stands p.tree q) (hm : new q.node.label = some m) :
      Resolves p.tree "undefined" q.frames none := ((hwhere q hq).mp (Option.isSome_of_eq_some hm)).2
  refine ⟨hwhere, fresh, hroot ▸ hfresh, ?_⟩
  rw [hroot]
  exact ⟨fun _ => htraded.happens_iff, fun q m hq hm => ⟨(htraded.resolves_iff _ _ _).mpr (hnone hq hm),
    hrecorded q m hq hm (hnone hq hm)⟩, htraded.resolves_iff, hdeclared⟩

/-- A `void` that stays because of a parameter, and one that goes. -/
theorem voids_replaced_but_shadowed : ∃ p view c' new fresh,
    Program.read "a = void 0; function f(undefined) { return void 0; }" = .ok p ∧ AreRead p.tree ∧
      ScopeTree.build p.tree = .ok view ∧ run.run.run { doc := ⟨p.tree, [], p.next⟩ } = (.ok (), c') ∧
      c'.doc.root = p.tree.mapNodes (Tree.exchangeNode (Tree.successor part) new) ∧
      (p.tree.subtree.filter IsVoid).map (fun n => (new n.label).isSome) = [true, false] ∧
      ScopeTree.build c'.doc.root = .ok fresh ∧ KeepsNames p.tree c'.doc.root new view fresh := by
  obtain ⟨p, hp, hcheck⟩ := @Program.exists_of_any "a = void 0; function f(undefined) { return void 0; }"
    (fun p => decide (AreRead p.tree) && (ScopeTree.build p.tree).toOption.any fun view =>
      ((p.tree.subtree.filter IsVoid).map fun n => decide (FindsNone view n.label)) == [true, false]) (by decide +kernel)
  obtain ⟨hread, hcheck⟩ := Bool.and_eq_true_iff.mp hcheck
  obtain ⟨view, c', new, hbuild, hrun, hroot, hnew, -, -, hnames⟩ :=
    @voids_replaced _ p hp { doc := ⟨p.tree, [], p.next⟩ } rfl rfl
  obtain ⟨-, fresh, hfresh, hkeeps⟩ := hnames (of_decide_eq_true hread)
  rw [hbuild] at hcheck
  refine ⟨p, view, c', new, fresh, hp, of_decide_eq_true hread, hbuild, hrun, hroot,
    Eq.trans (List.map_congr_left fun n hn => ?_) (beq_iff_eq.mp hcheck), hfresh, hkeeps⟩
  obtain ⟨hmem, hvoid⟩ := List.mem_filter.mp hn
  rw [Bool.eq_iff_iff, decide_eq_true_iff, hnew n hmem]
  exact and_iff_right hvoid

/-- What the parser takes for a parameter is not read. -/
example : (Program.read "async (void 0) => void 0;").toOption.any (fun p => !decide (AreRead p.tree)) = true := by
  decide +kernel

/-- A comment inside of a node that is replaced goes with it. -/
theorem operand_comments_not_kept : ∃ p c', Program.read "x = void /* c */ 0;" = .ok p ∧
    p.tree.subtree.flatMap Tree.comments ≠ [] ∧ run.run.run { doc := ⟨p.tree, [], p.next⟩ } = (.ok (), c') ∧
    c'.doc.root.subtree.flatMap Tree.comments = [] := by
  obtain ⟨p, hp, hcheck⟩ := @Program.exists_of_any "x = void /* c */ 0;"
    (fun p => !(p.tree.subtree.flatMap Tree.comments).isEmpty &&
      ((run.run.run { doc := ⟨p.tree, [], p.next⟩ }).2.doc.root.subtree.flatMap Tree.comments).isEmpty)
    (by simp only [Program.read, Program.attachComments, Program.neighbours_of_eq]; decide +kernel)
  obtain ⟨hbefore, hafter⟩ := Bool.and_eq_true_iff.mp hcheck
  obtain ⟨notes, hwalk, -⟩ := ScopeTree.exists_tells (Program.is_of_read hp) (Program.labelled_of_read hp)
  have hbuild : ScopeTree.build p.tree = .ok (ScopeTree.ofNotes p.tree.label notes) := by
    rw [ScopeTree.build, hwalk]
    rfl
  obtain ⟨u, c', hrun, -⟩ := @ends_run _ p _ hp hbuild { doc := ⟨p.tree, [], p.next⟩ } rfl rfl
  rw [hrun] at hafter
  exact ⟨p, c', hp, by simpa using hbefore, hrun, by simpa using hafter⟩

end Result

end Deminify.Rules.Undefined
