import Deminify.Proofs.Program
import Deminify.Proofs.Rule.Ending
import Deminify.Proofs.Tree.Mapped
import Deminify.Proofs.Tree.Exchange
import Deminify.Rules.WhileLoop

/-!
# `while` loops for `for` loops

The rule finds all bare `for` loops before it replaces the first, and by the time it comes to one the loop
around it has been replaced. **It ends with the tree in which each has been changed where it stands**
(`Deminify.Rules.WhileLoop.run_eq_mapNodes`): a `for` loop holds other loops in its test and its body alone, and there
the `while` loop holds them too.
-/

namespace Deminify.Rules.WhileLoop

open Editing Document

variable {t n : Tree} {m k l : Nat} {fields : List (String × Tree)}

/-- **What becomes of a node**: the `while` loop of a bare `for` loop; any other node stays. -/
def toWhile (t : Tree) : Tree := if isBareFor t then whileOf t (t.get "body") else t

/-! ### The loop that is put in -/

/-- The test of a loop; a loop without a test gets a literal with the given label. -/
def testOf (k : Nat) (loop : Tree) : Tree :=
  if (loop.get "test").truthy then loop.get "test"
  else .obj k [("type", .str "Literal"), ("value", .bool true), ("raw", .str "true")]

/-- The fields of the `while` loop of a `for` loop. -/
def part (k : Nat) (loop : Tree) : List (String × Tree) :=
  [("type", .str "WhileStatement"), ("test", testOf k loop), ("body", loop.get "body")]

theorem whileOf_eq (loop : Tree) :
    whileOf loop (loop.get "body") = .obj 0 (part 0 loop ++ loop.commentFields) := Tree.withCommentsOf_eq rfl rfl

theorem count_labels_testOf (hl : l ≠ k) : (testOf k n).labels.count l ≤ (n.get "test").labels.count l := by
  rw [testOf]
  split
  · exact Nat.le_refl _
  · rw [Tree.labels, List.count_cons_of_ne hl.symm]
    exact Nat.zero_le _

theorem parts : Tree.Parts part (part 0) ["test", "body"] where
  isNode _ _ := rfl
  edit {k l change n n'} hl hget htruthy := by
    have htest : (testOf k n).edit l change = testOf k n' := by
      rw [testOf, testOf, htruthy, hget]
      split
      · rfl
      · exact Tree.edit_of_not_mem (by simpa [Tree.labels, Tree.labelsFields] using Nat.ne_of_lt hl)
    rw [part, part, Tree.editFields_eq, List.map_cons, List.map_cons, List.map_cons, List.map_nil, htest, ← hget]
    rfl
  keeps {k n key} hkey htruthy := by
    have hsome : n.get? key = some (n.get key) := by
      rw [Tree.get] at htruthy ⊢
      cases hv : n.get? key with
      | none =>
        rw [hv] at htruthy
        cases htruthy
      | some v => rfl
    rw [hsome]
    rcases List.mem_cons.mp hkey with rfl | hkey
    · show some (testOf k n) = _
      rw [testOf, if_pos htruthy]
    · rw [List.mem_singleton.mp hkey]
      rfl
  number {k n} hn hlabelled := by
    have hget (key : String) (next : Nat) : (n.get key).number next = (n.get key, next) := by
      refine Tree.number_of_labelled (fun hz => ?_) next
      have hpos := List.count_pos_iff.mpr hz
      have hle := Tree.count_labels_get (l := 0) hn key
      rw [List.count_eq_zero.mpr hlabelled] at hle
      omega
    have htest : ((testOf 0 n).number k).1 = testOf k n := by
      rw [testOf, testOf]
      split
      · rw [hget]
      · rfl
    have htype : (Tree.str "WhileStatement").number k = (.str "WhileStatement", k) := rfl
    simp only [part, Tree.numberFields_cons, htype, htest, hget]
    rfl
  count_le {n l} hn hl := by
    have hall := Tree.count_labels_get_of_nodup (l := l) hn ["test", "body", "leadingComments", "trailingComments"]
      (by decide)
    have htest := count_labels_testOf (n := n) hl
    simp only [List.flatMap_cons, List.flatMap_nil, List.count_append, List.count_nil] at hall
    rw [part, Tree.labelsFields_cons, Tree.labelsFields_cons, Tree.labelsFields_cons, List.count_append,
      List.count_append, List.count_append]
    simp only [Tree.labelsFields, Tree.labels, List.count_nil]
    omega

theorem renewed_successor (m : Nat) (n : Tree) :
    (Tree.successor part m n).renewed = whileOf n.renewed (n.renewed.get "body") := by
  have hcomments (key : String) : (n.commentField key).map (fun f => (f.1, f.2.renewed)) = n.renewed.commentField key := by
    rw [Tree.commentField, Tree.commentField, Tree.get_renewed, Tree.truthy_renewed]
    split <;> rfl
  have htest : (testOf (m + 1) n).renewed = testOf 0 n.renewed := by
    rw [testOf, testOf, Tree.get_renewed, Tree.truthy_renewed]
    split <;> rfl
  rw [whileOf_eq, Tree.successor, Tree.renewed_obj, List.map_append, Tree.commentFields, List.map_append, hcomments,
    hcomments, part, part, Tree.get_renewed]
  simp only [List.map_cons, List.map_nil, htest]
  rfl

theorem isBareFor_renewed (t : Tree) : isBareFor t.renewed = isBareFor t := by
  rw [isBareFor, isBareFor, Tree.isKind_renewed, Tree.get_renewed, Tree.get_renewed, Tree.isNull_renewed,
    Tree.isNull_renewed]

theorem renewed_toWhile (m : Nat) (h : isBareFor n = true) :
    (Tree.successor part m n).renewed = toWhile n.renewed := by
  rw [toWhile, isBareFor_renewed, if_pos h, renewed_successor]

/-- A node is a bare `for` loop whatever becomes of the nodes below it. -/
theorem isBareFor_mapNodesFields {change : Tree → Tree} (h : ∀ t, t.isNode = true → (change t).isNode = true) :
    isBareFor (.obj l (Tree.mapNodesFields change fields)) = isBareFor (.obj l fields) := by
  have hnull (v : Tree) : (Tree.mapNodesValue change v).isNull = v.isNull := by
    rw [Tree.mapNodesValue_eq]
    split
    · cases v <;> first | rfl | simp_all [Tree.isList]
    · rw [Tree.mapNodesItem_eq]
      split
      · rename_i hn
        have hnode := Tree.isNode_mapNodes h hn
        have hnot {u : Tree} (hu : u.isNode = true) : u.isNull = false := by cases u <;> first | rfl | cases hu
        rw [hnot hnode, hnot hn]
      · rfl
  have hget {key : String} (hkey : Tree.holdsChildren key = true) :
      ((Tree.obj l (Tree.mapNodesFields change fields)).get key).isNull = ((Tree.obj l fields).get key).isNull := by
    rw [Tree.get, Tree.get, Tree.get?_obj, Tree.get?_obj, Tree.lookup_mapNodesFields]
    cases fields.lookup key with
    | none => rfl
    | some v => rw [Option.map_some, Option.getD_some, Option.getD_some, if_pos hkey, hnull]
  rw [isBareFor, isBareFor, Tree.isKind_mapNodesFields, hget (by decide), hget (by decide)]

/-! ### The loops of a program -/

section Program

variable {source : String} {p : Program}

theorem kind_of_isBareFor (h : isBareFor n = true) : n.isObj = true ∧ n.kind = "ForStatement" :=
  Tree.kind_of_isKind (Bool.and_eq_true_iff.mp (Bool.and_eq_true_iff.mp h).1).1

/-- A bare `for` loop holds nodes in its test and its body alone. -/
theorem key_of_slot (hn : n.hasFields = true) (h : isBareFor n = true) {slot : Slot} {c : Tree}
    (hslot : (slot, c) ∈ n.slots) : slot.key ∈ ["test", "body"] := by
  obtain ⟨hfor, hupdate⟩ := Bool.and_eq_true_iff.mp h
  have hinit := (Bool.and_eq_true_iff.mp hfor).2
  obtain ⟨v, hv, hin⟩ := Tree.mem_slots_iff.mp hslot
  obtain ⟨hnode, hkey, hcv⟩ := Tree.mem_fieldSlots.mp (List.mem_map_of_mem (f := Prod.snd) hin)
  have hget : n.get? slot.key = some v := by
    cases n with
    | obj l fields => exact (Tree.distinct_of_hasFields hn).lookup (Tree.isShapeKey_of_holdsChildren hkey) hv
    | _ => cases hv
  have hspec : schema n.kind = some [("init", .optional isLoopHeadKind), ("test", .optional isExpressionKind),
      ("update", .optional isExpressionKind), ("body", .node isStatementKind)] := by
    rw [(kind_of_isBareFor h).2]
    rfl
  have hknown := Tree.known_of_hasFields hn hspec hget
  -- what holds a node is no leaf
  have hleaf : v.isLeaf = false := by
    rcases hcv with rfl | hcv
    · cases c <;> first | rfl | cases hnode
    · cases v <;> first | rfl | cases hcv
  have hnull {key : String} (hn : (n.get key).isNull = true) : slot.key ≠ key := by
    rintro rfl
    rw [Tree.get_of_get? hget] at hn
    cases v <;> simp_all [Tree.isLeaf, Tree.isNull]
  rw [Tree.isKnownField, hkey, hleaf, Bool.not_true, Bool.or_false, Bool.or_false, Option.isSome_iff_exists] at hknown
  obtain ⟨sort, hsort⟩ := hknown
  have hkeys := List.mem_map_of_mem (f := Prod.fst) (mem_of_lookup hsort)
  simp only [List.map_cons, List.map_nil, List.mem_cons, List.not_mem_nil, or_false] at hkeys ⊢
  rcases hkeys with hk | hk | hk | hk
  · exact absurd hk (hnull hinit)
  · exact .inl hk
  · exact absurd hk (hnull hupdate)
  · exact .inr hk

/-- **The loops of a program that has been read can be exchanged.** -/
theorem exchangeable (h : Program.read source = .ok p) : Exchangeable (Tree.successor part)
    (fun n => whileOf n (n.get "body")) ["test", "body"] p.tree (IsFound isBareFor p.tree) p.next :=
  exchangeable_of_read h parts whileOf_eq
    (fun n hn hloop hk => by rw [(kind_of_isBareFor hloop).2] at hk; exact absurd hk (by decide))
    fun n hn hloop slot c hslot _ _ _ => key_of_slot ((inOrder_of_read h).fields n hn) hloop hslot

/-- A loop still has its body when others have been exchanged. -/
theorem get?_body (h : Program.read source = .ok p) (hn : n ∈ p.tree.subtree) (hloop : isBareFor n = true)
    {new : Nat → Option Nat} (hnew : new n.label = none) :
    ∃ body, (n.exchange (Tree.successor part) new).get? "body" = some body := by
  obtain ⟨hobj, hkind⟩ := kind_of_isBareFor hloop
  obtain ⟨v, hv, -⟩ := @Tree.takes_of_hasFields _ ((inOrder_of_read h).fields n hn)
    [("init", .optional isLoopHeadKind), ("test", .optional isExpressionKind),
      ("update", .optional isExpressionKind), ("body", .node isStatementKind)] (by rw [hkind]; rfl)
    "body" (.node isStatementKind) (by simp)
  have hkept : (new n.label).isSome = true →
      "body" ∈ ["test", "body"] ∧ ((n.get "body").exchange (Tree.successor part) new).truthy = true := fun hs => by
    rw [hnew] at hs
    cases hs
  exact ⟨v.exchange (Tree.successor part) new, by rw [Tree.get?_exchange parts.makes hobj hkept, hv, Option.map_some]⟩

/-- **To replace a loop is one more exchange.** -/
theorem ends_replace (h : Program.read source = .ok p) {c : Context} {new : Nat → Option Nat} {places : Array Place}
    {i : Nat} (hc : Exchanged (Tree.successor part) p.tree (IsFound isBareFor p.tree) p.next new c.doc places)
    (hn : p.tree.subtree[i]? = some n) (hloop : isBareFor n = true) (hnew : new n.label = none) :
    Ends (replace places i) c fun places c' => c' = { c with doc := c'.doc } ∧
      Exchanged (Tree.successor part) p.tree (IsFound isBareFor p.tree) p.next
        (Function.update new n.label (some c.doc.next)) c'.doc places := by
  have hex := exchangeable h
  have hmem := List.mem_of_getElem? hn
  have htarget := (isFound_label h hmem).mpr hloop
  obtain ⟨body, hbody⟩ := get?_body h hmem hloop hnew
  have hloopNow : c.doc.nodeAt places i = n.exchange (Tree.successor part) new := hc.nodeAt_target hex hn htarget
  have hstep := ends_exchange (f := fun _ places => pure places) hex hc hn htarget hnew fun d places' hd =>
    ends_pure (Q := fun places c' => c' = { c with doc := c'.doc } ∧ Exchanged (Tree.successor part) p.tree
      (IsFound isBareFor p.tree) p.next (Function.update new n.label (some c.doc.next)) c'.doc places) ⟨rfl, hd⟩
  simp only [bind_pure] at hstep
  rw [replace]
  refine Ends.bind (Q := fun d c' => d = c.doc ∧ c' = c) (ends_doc ⟨rfl, rfl⟩) fun d c' hd => ?_
  rw [hd.1, hd.2]
  dsimp only
  rw [hloopNow]
  refine (answers_field hbody).bind fun v hv => ?_
  rw [hv, ← Tree.get_of_get? hbody]
  exact hstep

end Program

/-! ### What is left -/

/-- The nodes that a `while` loop holds are those that the `for` loop held in its test and its body, and the
literal that stands for a test. -/
theorem mem_children_successor {c : Tree} (hc : c ∈ (Tree.successor part m n).children) :
    c ∈ n.children ∨ (c.children = [] ∧ isBareFor c = false) := by
  obtain ⟨hnode, key, v, hv, hkey, hcv⟩ := Tree.mem_children.mp hc
  rcases List.mem_append.mp hv with hv | hv
  · rw [part, List.mem_cons, List.mem_cons, List.mem_singleton] at hv
    rcases hv with hv | hv | hv
    · cases hv
      cases hkey
    · cases hv
      rw [testOf] at hcv
      split at hcv
      · exact .inl (Tree.mem_children_of_get hnode hkey hcv)
      · rcases hcv with rfl | hcv
        · exact .inr ⟨rfl, rfl⟩
        · cases hcv
    · cases hv
      exact .inl (Tree.mem_children_of_get hnode hkey hcv)
  · rw [Tree.holdsChildren_of_mem_commentFields hv] at hkey
    cases hkey

theorem isNode_exchangeNode (new : Nat → Option Nat) (t : Tree) (ht : t.isNode = true) :
    (Tree.exchangeNode (Tree.successor part) new t).isNode = true := by
  rw [Tree.exchangeNode]
  split
  · exact parts.makes.isNode _ _
  · exact ht

/-- **No bare `for` loop is left** when each has been exchanged. -/
theorem not_isBareFor_of_exchanged {new : Nat → Option Nat} (t : Tree)
    (h : ∀ n ∈ t.subtree, isBareFor n = true → (new n.label).isSome = true) :
    ∀ n ∈ (t.mapNodes (Tree.exchangeNode (Tree.successor part) new)).subtree, isBareFor n = false := by
  refine @Tree.children_induct (fun t => ∀ n ∈ (t.mapNodes (Tree.exchangeNode (Tree.successor part) new)).subtree,
    isBareFor n = false) t fun n hn ih u hu => ?_
  cases n with
  | obj l fields =>
    have hnodes (c : Tree) (hc : c ∈ (Tree.obj l (Tree.mapNodesFields (Tree.exchangeNode (Tree.successor part) new) fields)).children) :
        ∀ u ∈ c.subtree, isBareFor u = false := by
      rw [Tree.children_mapNodesFields (isNode_exchangeNode new)] at hc
      obtain ⟨d, hd, rfl⟩ := List.mem_map.mp hc
      exact ih d hd
    rw [Tree.mapNodes, Tree.exchangeNode, Tree.label_obj] at hu
    cases hnew : new l with
    | some m =>
      rw [hnew] at hu
      rcases Tree.mem_subtree.mp hu with rfl | ⟨c, hc, hu⟩
      · rfl
      · rcases mem_children_successor hc with hc | ⟨hnone, hbare⟩
        · exact hnodes c hc u hu
        · rw [Tree.subtree_eq, hnone, List.flatMap_nil] at hu
          rwa [List.mem_singleton.mp hu]
    | none =>
      rw [hnew] at hu
      rcases Tree.mem_subtree.mp hu with rfl | ⟨c, hc, hu⟩
      · rw [isBareFor_mapNodesFields (isNode_exchangeNode new)]
        by_contra hbare
        have hsome := h _ hn (Bool.of_not_eq_false hbare)
        rw [Tree.label_obj, hnew] at hsome
        cases hsome
      · exact hnodes c hc u hu
  | _ =>
    obtain rfl := List.mem_singleton.mp hu
    rfl

/-- **A program is left with no bare `for` loop**, and is what the loops changed where they stand make of it. -/
theorem run_eq_mapNodes {source : String} {p : Program} (h : Program.read source = .ok p) {c : Context}
    (hdoc : c.doc = ⟨p.tree, [], p.next⟩) :
    ∃ c', run.run.run c = (.ok (), c') ∧ c'.doc.root.renewed = p.tree.renewed.mapNodes toWhile ∧
      (∀ n ∈ c'.doc.root.subtree, isBareFor n = false) ∧ run.run.run c' = (.ok (), c') := by
  have hex := exchangeable h
  have hfold := @ends_foldlM_targets c p.tree isBareFor replace (fun _ => True)
    (fun new places c' => c' = { c with doc := c'.doc } ∧ Exchanged (Tree.successor part) p.tree
      (IsFound isBareFor p.tree) p.next new c'.doc places) (Program.labelled_of_read h)
    (fun i n new places c' hn hloop hnew hJ => by
      refine (ends_replace h hJ.2 hn hloop hnew).mono fun places c'' hc => ?_
      refine ⟨_, ⟨?_, hc.2⟩, fun l hl => Function.update_of_ne hl _ _, ?_⟩
      · rw [hc.1, hJ.1]
      · rw [Function.update_self]
        exact iff_of_true rfl trivial)
    _ ⟨rfl, hex.exchanged (by rw [hdoc]) (by rw [hdoc])⟩
  have hrun : Ends run c fun _ c' => ∃ new, (c'.doc.root = p.tree.mapNodes (Tree.exchangeNode (Tree.successor part) new)) ∧
      ∀ n ∈ p.tree.subtree, (new n.label).isSome = true ↔ isBareFor n = true := by
    have hrest (c' : Context) (hc : ∃ places new, (c' = { c with doc := c'.doc } ∧ Exchanged (Tree.successor part) p.tree
        (IsFound isBareFor p.tree) p.next new c'.doc places) ∧
        ∀ n ∈ p.tree.subtree, isBareFor n = true → ((new n.label).isSome = true ↔ True)) :
        ∃ new, (c'.doc.root = p.tree.mapNodes (Tree.exchangeNode (Tree.successor part) new)) ∧
          ∀ n ∈ p.tree.subtree, (new n.label).isSome = true ↔ isBareFor n = true := by
      obtain ⟨places, new, ⟨-, hexchanged⟩, hall⟩ := hc
      refine ⟨new, hexchanged.root_eq_mapNodes hex, fun n hn => ⟨fun hs => ?_, fun hloop => (hall n hn hloop).mpr trivial⟩⟩
      obtain ⟨m, hm⟩ := Option.isSome_iff_exists.mp hs
      exact (isFound_label h hn).mp (hexchanged.named _ m hm).1
    rw [run]
    refine Ends.bind (Q := fun t c' => t = p.tree ∧ c' = c) ⟨_, c, rfl, by rw [hdoc], rfl⟩ fun t c' ht => ?_
    rw [ht.1, ht.2]
    refine hfold.discard.bind fun _ c' hc => ?_
    split
    · exact ⟨(), _, rfl, hrest c' hc⟩
    · exact ends_pure (hrest c' hc)
  obtain ⟨u, c', hrun, new, hroot, hnew⟩ := hrun
  have hleft := not_isBareFor_of_exchanged p.tree fun n hn hloop => (hnew n hn).mpr hloop
  rw [← hroot] at hleft
  refine ⟨c', hrun, ?_, hleft, ?_⟩
  · rw [hroot]
    refine Tree.renewed_mapNodes fun l fields hn => ?_
    have hbare := @isBareFor_mapNodesFields l fields _ (isNode_exchangeNode new)
    by_cases hloop : isBareFor (.obj l fields) = true
    · obtain ⟨m, hm⟩ := Option.isSome_iff_exists.mp ((hnew _ hn).mpr hloop)
      rw [Tree.exchangeNode, Tree.label_obj, show new l = some m from hm]
      exact renewed_toWhile m (hbare.trans hloop)
    · have hnone : new l = none := Option.not_isSome_iff_eq_none.mp fun hs => hloop ((hnew _ hn).mp hs)
      rw [Tree.exchangeNode, Tree.label_obj, hnone, toWhile, isBareFor_renewed, hbare, if_neg hloop]
  · -- there is nothing left to do
    have hnone : foundIn isBareFor c'.doc.root = [] :=
      List.eq_nil_iff_forall_not_mem.mpr fun i hi => by
        obtain ⟨n, hn, hbare⟩ := mem_foundIn.mp hi
        rw [hleft n (List.mem_of_getElem? hn)] at hbare
        cases hbare
    rw [foundIn, List.map_eq_nil_iff] at hnone
    have hidle : Ends run c' fun _ c'' => c'' = c' := by
      rw [run]
      refine Ends.bind (Q := fun t c'' => t = c'.doc.root ∧ c'' = c') ⟨_, c', rfl, rfl, rfl⟩ fun t c'' ht => ?_
      rw [ht.1, ht.2]
      dsimp only
      rw [hnone]
      exact ⟨(), c', rfl, rfl⟩
    obtain ⟨v, c'', hrun, rfl⟩ := hidle
    exact hrun

/-- A loop that is the body of another, and one without a test in its body. -/
theorem run_eq_mapNodes_nested : ∃ p c', Program.read "for (;;) for (; a;) { for (;;) b(); }" = .ok p ∧
    (foundIn isBareFor p.tree).length = 3 ∧
    run.run.run { doc := ⟨p.tree, [], p.next⟩ } = (.ok (), c') ∧
    c'.doc.root.renewed = p.tree.renewed.mapNodes toWhile := by
  obtain ⟨p, hp, hcheck⟩ := @Program.exists_of_any "for (;;) for (; a;) { for (;;) b(); }"
    (fun p => (foundIn isBareFor p.tree).length == 3) (by decide +kernel)
  obtain ⟨c', hrun, hroot, -⟩ := @run_eq_mapNodes _ p hp { doc := ⟨p.tree, [], p.next⟩ } rfl
  exact ⟨p, c', hp, beq_iff_eq.mp hcheck, hrun, hroot⟩

end Deminify.Rules.WhileLoop
