import Mathlib.Algebra.BigOperators.Group.List.Basic
import Mathlib.Algebra.Order.Group.Multiset
import Deminify.Proofs.Printer.Attached
import Deminify.Proofs.Rule.StrictDirective

/-!
# The comments of strict directives

A directive that is taken out hands its comments to a neighbour. What is handed on are the comments of the statement
itself, and a body of which nothing is left has no neighbours: **the comments below the directives that go are lost, and
all comments of the directives of a body that is left empty** (`Deminify.Rules.StrictDirective.lost`). No other comment
is (`Deminify.Rules.StrictDirective.comments_kept_or_lost`).
-/

namespace Deminify.Rules.StrictDirective

open Editing Document

variable {t n s : Tree} {body : List Tree} {fuel i : Nat}

/-! ### The comments in a tree -/

section Comments

/-- **The comments of the nodes of a tree**, each as often as it is there. -/
def commentsIn (t : Tree) : Multiset Tree := t.subtree.flatMap Tree.comments

/-- The comments of the nodes below a node. -/
def commentsBelow (t : Tree) : Multiset Tree := (t.children.map commentsIn).sum

/-- The comments in a node are those on it and those below it. -/
theorem commentsIn_eq (t : Tree) : commentsIn t = t.comments + commentsBelow t := by
  have hsum (items : List Tree) : ((items.flatMap fun c => c.subtree.flatMap Tree.comments : List Tree) : Multiset Tree) =
      (items.map commentsIn).sum := by
    induction items with
    | nil => rfl
    | cons c rest ih => rw [List.flatMap_cons, ← Multiset.coe_add, ih, List.map_cons, List.sum_cons, commentsIn]
  rw [commentsIn, Tree.subtree_eq, List.flatMap_cons, ← Multiset.coe_add, List.flatMap_assoc, hsum, commentsBelow]

theorem commentsBelow_withoutComments (t : Tree) : commentsBelow t.withoutComments = commentsBelow t := by
  rw [commentsBelow, commentsBelow, children_withoutComments]

/-- The comments that a record holds under a key are set, and nothing is below them. -/
theorem items_get_set (hs : s.isObj = true) (key k : String) (items : List Tree) :
    ((s.set key (.list items)).get k).items = if k = key then items else (s.get k).items := by
  rw [Tree.get, Tree.get?_set hs]
  split <;> rfl

/-- Comments that are put in front are in the node. -/
theorem commentsIn_prependComments (hs : s.isObj = true) (comments : List Tree) :
    commentsIn (s.prependComments comments) = comments + commentsIn s := by
  have hown : ((s.prependComments comments).comments : Multiset Tree) = comments + s.comments := by
    rw [Tree.prependComments]
    split
    · rename_i hempty
      rw [List.isEmpty_iff.mp hempty, Multiset.coe_nil, zero_add]
    · rw [Tree.comments, Tree.leadingComments, Tree.trailingComments, items_get_set hs, items_get_set hs, if_pos rfl,
        if_neg (by decide), List.append_assoc, ← Multiset.coe_add]
      rfl
  rw [commentsIn_eq, hown, commentsIn_eq, ← commentsBelow_withoutComments, withoutComments_prependComments,
    commentsBelow_withoutComments, add_assoc]

/-- Comments that are put behind are in the node. -/
theorem commentsIn_appendComments (hs : s.isObj = true) (comments : List Tree) :
    commentsIn (s.appendComments comments) = comments + commentsIn s := by
  have hown : ((s.appendComments comments).comments : Multiset Tree) = comments + s.comments := by
    rw [Tree.appendComments]
    split
    · rename_i hempty
      rw [List.isEmpty_iff.mp hempty, Multiset.coe_nil, zero_add]
    · rw [Tree.comments, Tree.leadingComments, Tree.trailingComments, Tree.trailingComments, items_get_set hs,
        items_get_set hs, if_pos rfl, if_neg (by decide), ← List.append_assoc, ← Multiset.coe_add, add_comm]
      rfl
  rw [commentsIn_eq, hown, commentsIn_eq, ← commentsBelow_withoutComments, withoutComments_appendComments,
    commentsBelow_withoutComments, add_assoc]

end Comments

/-! ### Taking out a statement -/

section Statements

theorem sum_changeAt {put : Tree → Tree} {comments : List Tree}
    (hput : ∀ s : Tree, s.isObj = true → commentsIn (put s) = comments + commentsIn s) (hbody : ∀ s ∈ body, s.isObj = true)
    (hi : i < body.length) : ((changeAt put i body).map commentsIn).sum = comments + (body.map commentsIn).sum := by
  induction body generalizing i with
  | nil => cases hi
  | cons s rest ih =>
    obtain ⟨hs, hrest⟩ := List.forall_mem_cons.mp hbody
    cases i with
    | zero => rw [changeAt, List.map_cons, List.sum_cons, hput s hs, List.map_cons, List.sum_cons, add_assoc]
    | succ i =>
      rw [changeAt, List.map_cons, List.sum_cons, ih hrest (Nat.lt_of_succ_lt_succ hi), List.map_cons, List.sum_cons,
        add_left_comm]

/-- **A statement with a neighbour** hands on its comments, and not those below it. -/
theorem sum_removeStatement (hbody : ∀ s ∈ body, s.isObj = true) (hi : body[i]? = some s) (hleft : removeStatement body i ≠ []) :
    (body.map commentsIn).sum = ((removeStatement body i).map commentsIn).sum + commentsBelow s := by
  obtain ⟨hlt, rfl⟩ := List.getElem?_eq_some_iff.mp hi
  have hsum : commentsIn body[i] + ((body.eraseIdx i).map commentsIn).sum = (body.map commentsIn).sum := by
    have hmap := List.CommMonoid.add_sum_eraseIdx (l := body.map commentsIn) (i := i) (by rwa [List.length_map])
    rwa [List.getElem_map, List.eraseIdx_map] at hmap
  have hkept : ∀ s ∈ body.eraseIdx i, s.isObj = true := fun s hs => hbody s (List.mem_of_mem_eraseIdx hs)
  rw [removeStatement, hi] at hleft ⊢
  dsimp only at hleft ⊢
  suffices ((if i < (body.eraseIdx i).length then changeAt (·.prependComments body[i].comments) i (body.eraseIdx i)
      else if 0 < i then changeAt (·.appendComments body[i].comments) (i - 1) (body.eraseIdx i)
      else body.eraseIdx i).map commentsIn).sum = body[i].comments + ((body.eraseIdx i).map commentsIn).sum by
    rw [this, ← hsum, commentsIn_eq, add_right_comm]
  split
  · exact sum_changeAt (fun s hs => commentsIn_prependComments hs _) hkept ‹_›
  · rename_i hnext
    rw [if_neg hnext] at hleft
    split
    · refine sum_changeAt (fun s hs => commentsIn_appendComments hs _) hkept ?_
      rw [List.length_eraseIdx_of_lt hlt]
      omega
    · rename_i hfirst
      rw [if_neg hfirst] at hleft
      have hpos := List.length_pos_iff.mpr hleft
      omega

/-- The directives that go. -/
def gone (body : List Tree) : List Tree := (body.takeWhile isDirective).filter isStrict

/-- The leading run ends where no directive is. -/
theorem gone_of_not (h : isDirective s = false) : gone (s :: body) = [] := by
  rw [gone, List.takeWhile_cons_of_neg (by simp [h]), List.filter_nil]

/-- A strict directive goes. -/
theorem gone_of_strict (h : isDirective s = true) (hs : isStrict s = true) : gone (s :: body) = s :: gone body := by
  rw [gone, List.takeWhile_cons_of_pos h, List.filter_cons_of_pos hs, gone]

/-- Another directive stays, and the run goes on. -/
theorem gone_of_not_strict (h : isDirective s = true) (hs : isStrict s = false) : gone (s :: body) = gone body := by
  rw [gone, List.takeWhile_cons_of_pos h, List.filter_cons_of_neg (by simp [hs]), gone]

theorem gone_map {φ : Tree → Tree} (hd : ∀ s ∈ body, isDirective (φ s) = isDirective s)
    (hs : ∀ s ∈ body, isStrict (φ s) = isStrict s) : gone (body.map φ) = (gone body).map φ := by
  induction body with
  | nil => rfl
  | cons s rest ih =>
    obtain ⟨hd, hdrest⟩ := List.forall_mem_cons.mp hd
    obtain ⟨hs, hsrest⟩ := List.forall_mem_cons.mp hs
    have ih := ih hdrest hsrest
    rw [List.map_cons]
    cases hdirective : isDirective s with
    | false => rw [gone_of_not (hd.trans hdirective), gone_of_not hdirective, List.map_nil]
    | true =>
      cases hstrict : isStrict s with
      | true =>
        rw [gone_of_strict (hd.trans hdirective) (hs.trans hstrict), gone_of_strict hdirective hstrict, List.map_cons, ih]
      | false => rw [gone_of_not_strict (hd.trans hdirective) (hs.trans hstrict), gone_of_not_strict hdirective hstrict, ih]

/-- If nothing is left everything has gone. -/
theorem gone_of_clean_eq_nil (h : clean body = []) : gone body = body := by
  induction body with
  | nil => rfl
  | cons s rest ih =>
    cases hdirective : isDirective s with
    | false => rw [clean_of_not hdirective] at h; cases h
    | true =>
      cases hstrict : isStrict s with
      | true => rw [clean_of_strict hdirective hstrict] at h; rw [gone_of_strict hdirective hstrict, ih h]
      | false => rw [clean_of_not_strict hdirective hstrict] at h; cases h

/-- What is below the directives that go, when comments are put elsewhere. -/
theorem sum_gone_withoutComments (body : List Tree) :
    ((gone (body.map Tree.withoutComments)).map commentsBelow).sum = ((gone body).map commentsBelow).sum := by
  rw [gone_map (fun s _ => overlooks_withoutComments.directive s) fun s _ => overlooks_withoutComments.strict s, List.map_map]
  exact congrArg List.sum (List.map_congr_left fun s _ => commentsBelow_withoutComments s)

theorem stripFrom_nil (fuel i : Nat) : stripFrom fuel [] i = [] := by cases fuel <;> rfl

/-- **If a statement is left** only what is below the directives that go is lost. -/
theorem sum_stripFrom (hbody : ∀ s ∈ body, s.isObj = true) (hfuel : body.length ≤ i + fuel) (hleft : stripFrom fuel body i ≠ []) :
    (body.map commentsIn).sum =
      ((stripFrom fuel body i).map commentsIn).sum + ((gone (body.drop i)).map commentsBelow).sum := by
  induction fuel generalizing body i with
  | zero =>
    rw [List.drop_of_length_le (Nat.add_zero i ▸ hfuel)]
    exact (add_zero _).symm
  | succ fuel ih =>
    rw [stripFrom] at hleft ⊢
    cases hs : body[i]? with
    | none =>
      rw [List.drop_of_length_le (List.getElem?_eq_none_iff.mp hs)]
      exact (add_zero _).symm
    | some s =>
      obtain ⟨hi, rfl⟩ := List.getElem?_eq_some_iff.mp hs
      rw [hs] at hleft
      dsimp only at hleft ⊢
      rw [List.drop_eq_getElem_cons hi]
      split
      · rename_i hdirective
        rw [if_pos hdirective] at hleft
        split
        · rename_i hstrict
          rw [if_pos hstrict] at hleft
          have hne : removeStatement body i ≠ [] := fun hnil => hleft (by rw [hnil, stripFrom_nil])
          have hlength := length_removeStatement overlooks_withoutComments hi
          have hobj : ∀ s ∈ removeStatement body i, s.isObj = true := by
            have hmap := Tree.map_removeStatement (f := Tree.isObj) (fun t _ => by rw [Tree.prependComments]; split <;> simp)
              (fun t _ => by rw [Tree.appendComments]; split <;> simp) body i
            intro s hs
            have hin := hmap ▸ List.mem_map_of_mem (f := Tree.isObj) hs
            obtain ⟨u, hu, he⟩ := List.mem_map.mp (List.mem_of_mem_eraseIdx hin)
            exact he ▸ hbody u hu
          -- what a neighbour is given changes neither which of the statements behind go nor what is below them
          have hrest : ((gone ((removeStatement body i).drop i)).map commentsBelow).sum =
              ((gone (body.drop (i + 1))).map commentsBelow).sum := by
            have htake : ((body.map Tree.withoutComments).take i).length = i := by
              rw [List.length_take, List.length_map]
              omega
            rw [← sum_gone_withoutComments, ← sum_gone_withoutComments (body.drop (i + 1)), List.map_drop, List.map_drop,
              Tree.map_removeStatement withoutComments_prependComments withoutComments_appendComments,
              List.eraseIdx_eq_take_drop_succ, List.drop_left' htake]
          rw [sum_removeStatement hbody hs hne, ih hobj (by omega) hleft, hrest, gone_of_strict hdirective hstrict,
            List.map_cons, List.sum_cons, add_assoc, add_comm (commentsBelow _)]
        · rename_i hstrict
          rw [if_neg hstrict] at hleft
          rw [ih hbody (by omega) hleft, gone_of_not_strict hdirective (Bool.eq_false_iff.mpr hstrict)]
      · rename_i hdirective
        rw [gone_of_not (Bool.eq_false_iff.mpr hdirective)]
        exact (add_zero _).symm

/-- **What a body loses**: what is below the directives that go, and all of their comments if nothing is left. -/
def lostOf (body : List Tree) : Multiset Tree :=
  ((gone body).map (if (clean body).isEmpty then commentsIn else commentsBelow)).sum

/-- **What a body loses** is what stands inside the directives that go. -/
theorem sum_strip (hbody : ∀ s ∈ body, s.isObj = true) :
    (body.map commentsIn).sum = ((strip body).map commentsIn).sum + lostOf body := by
  have hempty : (strip body).map Tree.withoutComments = (clean body).map Tree.withoutComments := by
    rw [map_strip overlooks_withoutComments,
      clean_map (fun s _ => overlooks_withoutComments.directive s) fun s _ => overlooks_withoutComments.strict s]
  rw [lostOf]
  split
  · rename_i hclean
    rw [List.isEmpty_iff] at hclean
    rw [hclean, List.map_nil, List.map_eq_nil_iff] at hempty
    rw [hempty, gone_of_clean_eq_nil hclean, List.map_nil, List.sum_nil, zero_add]
  · rename_i hclean
    refine sum_stripFrom hbody (Nat.le_of_eq (Nat.zero_add _).symm) fun hnil => hclean ?_
    rw [show strip body = [] from hnil, List.map_nil, eq_comm, List.map_eq_nil_iff] at hempty
    rw [hempty, List.isEmpty_nil]

end Statements

/-! ### Stripping a record -/

section Records

variable {l : Nat} {fields : List (String × Tree)}

theorem sum_putKey {α M : Type} [AddCommMonoid M] {fields : List (String × α)} {key : String} {v v' : α}
    {f : String × α → M} (h : fields.lookup key = some v) :
    (fields.map f).sum + f (key, v') = ((putKey fields key v').map f).sum + f (key, v) := by
  induction fields with
  | nil => cases h
  | cons x rest ih =>
    rw [lookup_cons_ite] at h
    rw [putKey, List.map_cons, List.sum_cons]
    obtain ⟨k, value⟩ := x
    by_cases hk : key = k
    · subst hk
      rw [if_pos rfl] at h
      rw [if_pos rfl, List.map_cons, List.sum_cons, ← Option.some.inj h, add_right_comm, add_comm (f (key, value)),
        add_right_comm]
    · rw [if_neg hk] at h
      rw [if_neg (Ne.symm hk), List.map_cons, List.sum_cons, add_assoc, ih h, add_assoc]

/-- The comments of the nodes under a key. -/
def commentsUnder (f : String × Tree) : Multiset Tree := (((Tree.fieldSlots f.1 f.2).map (·.2)).map commentsIn).sum

theorem commentsBelow_obj (l : Nat) (fields : List (String × Tree)) :
    commentsBelow (.obj l fields) = (fields.map commentsUnder).sum := by
  rw [commentsBelow, Tree.children, Tree.slots, Tree.fields_obj, List.map_map, List.map_flatMap, List.flatMap_def,
    List.sum_flatten, List.map_map]
  refine congrArg List.sum (List.map_congr_left fun f _ => ?_)
  rw [commentsUnder, List.map_map]
  rfl

theorem commentsUnder_body (hnode : ∀ s ∈ body, s.isNode = true) :
    commentsUnder ("body", .list body) = (body.map commentsIn).sum := by
  have hitems (start : Nat) : (Tree.itemSlots "body" start body).map (·.2) = body := by
    induction body generalizing start with
    | nil => rfl
    | cons s rest ih =>
      obtain ⟨hs, hrest⟩ := List.forall_mem_cons.mp hnode
      rw [Tree.itemSlots, if_pos hs, List.map_cons, ih hrest]
  show (((Tree.itemSlots "body" 0 body).map (·.2)).map commentsIn).sum = _
  rw [hitems]

/-- **A record loses what its body loses.** -/
theorem commentsIn_stripBody (hbody : fields.lookup "body" = some (.list body)) (hnode : ∀ s ∈ body, s.isNode = true) :
    commentsIn (.obj l fields) = commentsIn (stripBody (.obj l fields)) + lostOf body := by
  have hget : (Tree.obj l fields).get "body" = .list body := Tree.get_of_get? hbody
  have hown : (stripBody (.obj l fields)).comments = (Tree.obj l fields).comments := by
    rw [stripBody, Tree.comments, Tree.leadingComments, Tree.trailingComments, items_get_set rfl, items_get_set rfl,
      if_neg (by decide), if_neg (by decide)]
    rfl
  have hstrip : stripBody (.obj l fields) = .obj l (putKey fields "body" (.list (strip body))) := by
    rw [stripBody, hget, Tree.items_list, Tree.set]
  have hbelow := @sum_putKey _ _ _ _ _ _ (.list (strip body)) commentsUnder hbody
  rw [commentsUnder_body hnode, commentsUnder_body (isNode_of_mem_strip hnode),
    sum_strip fun s hs => Tree.isObj_of_isNode (hnode s hs), add_comm _ (lostOf body), ← add_assoc] at hbelow
  rw [commentsIn_eq, commentsIn_eq (stripBody _), hown, hstrip, commentsBelow_obj, commentsBelow_obj,
    add_right_cancel hbelow, add_assoc]

end Records

/-! ### Statements of which nodes are changed -/

section Nodes

variable {change : Tree → Tree} (h : Slight change)

include h

theorem get_mapNodes (t : Tree) {key : String} (hkey : key = "expression" ∨ key = "value") :
    (t.mapNodes change).get key = Tree.mapNodesValue change (t.get key) := by
  have hholds : Tree.holdsChildren key = true := by rcases hkey with rfl | rfl <;> rfl
  cases t with
  | obj l fields =>
    rw [Tree.mapNodes, Tree.get, h.get? _ key (.inr hkey), Tree.get?_obj, Tree.lookup_mapNodesFields, Tree.get,
      Tree.get?_obj]
    cases fields.lookup key with
    | none => rfl
    | some v => rw [Option.map_some, if_pos hholds, Option.getD_some, Option.getD_some]
  | _ => rfl

theorem isKind_mapNodes (t : Tree) (kind : String) : (t.mapNodes change).isKind kind = t.isKind kind := by
  cases t with
  | obj l fields =>
    rw [Tree.mapNodes, Tree.isKind, h.isObj, h.get? _ "type" (.inl rfl), ← @Tree.isKind_mapNodesFields change]
    rfl
  | _ => rfl

/-- What is changed below a statement does not make a directive of it, nor another one. -/
theorem isDirective_mapNodes (s : Tree) :
    isDirective (s.mapNodes change) = isDirective s ∧ isStrict (s.mapNodes change) = isStrict s := by
  -- the expression is a node that is changed, or stays
  have hvalue (e : Tree) : (Tree.mapNodesValue change e).isKind "Literal" = e.isKind "Literal" ∧
      ((Tree.mapNodesValue change e).get "value").str? = (e.get "value").str? := by
    have hnode : (e.mapNodes change).isKind "Literal" = e.isKind "Literal" ∧
        ((e.mapNodes change).get "value").str? = (e.get "value").str? := by
      refine ⟨isKind_mapNodes h e _, ?_⟩
      rw [get_mapNodes h e (.inr rfl), Tree.str?_mapNodesValue fun t ht => (h.isObj t).trans ht]
    rw [Tree.mapNodesValue_eq]
    split
    · cases e <;> first | exact ⟨rfl, rfl⟩ | simp_all [Tree.isList]
    · rw [Tree.mapNodesItem_eq]
      split
      · exact hnode
      · exact ⟨rfl, rfl⟩
  refine isDirective_congr (isKind_mapNodes h s _) ?_ ?_ <;> rw [get_mapNodes h s (.inl rfl)]
  · exact (hvalue _).1
  · exact (hvalue _).2

end Nodes

/-! ### The comments of a program -/

section Program

/-- **What a program loses**: what each body loses that may start with directives. -/
def lost (t : Tree) : Multiset Tree :=
  ((t.subtree.filter fun n => StartsWithDirectives t n.label).map fun n => lostOf (n.get "body").items).sum

/-- What the bodies with the given labels lose. -/
def lostIn (S : List Nat) (t : Tree) : Multiset Tree :=
  (t.subtree.map fun n => if n.label ∈ S then lostOf (n.get "body").items else 0).sum

/-- All bodies together lose what the program loses. -/
theorem lostIn_owners (t : Tree) : lostIn (owners t) t = lost t := by
  rw [lostIn, lost]
  generalize t.subtree = nodes
  induction nodes with
  | nil => rfl
  | cons n rest ih =>
    rw [List.map_cons, List.sum_cons, ih]
    by_cases hn : n.label ∈ owners t
    · rw [if_pos hn, List.filter_cons, if_pos (decide_eq_true (mem_owners_iff.mp hn)), List.map_cons, List.sum_cons]
    · rw [if_neg hn, zero_add, List.filter_cons, if_neg (by simpa using mt mem_owners_iff.mpr hn)]

/-- A node loses what its body loses and what its children lose. -/
theorem lostIn_eq (S : List Nat) (t : Tree) :
    lostIn S t = (if t.label ∈ S then lostOf (t.get "body").items else 0) + (t.children.map (lostIn S)).sum := by
  rw [lostIn, Tree.subtree_eq, List.map_cons, List.sum_cons, List.map_flatMap, List.flatMap_def, List.sum_flatten,
    List.map_map]
  rfl

theorem lostOf_map {φ : Tree → Tree} (hd : ∀ s ∈ body, isDirective (φ s) = isDirective s)
    (hs : ∀ s ∈ body, isStrict (φ s) = isStrict s) (hsame : ∀ s ∈ body, isDirective s = true → φ s = s) :
    lostOf (body.map φ) = lostOf body := by
  have hgone : (gone body).map φ = gone body := by
    refine (List.map_congr_left fun s hs => ?_).trans (List.map_id' _)
    have hin := List.mem_of_mem_filter hs
    exact hsame s ((List.takeWhile_sublist _).subset hin) (List.mem_takeWhile_imp hin)
  rw [lostOf, lostOf, clean_map hd hs, gone_map hd hs, hgone, List.isEmpty_map]

variable {source : String} {p : Program} (h : Program.read source = .ok p)

include h

/-- Nothing is stripped inside of a directive. -/
theorem mapNodes_of_isDirective (hs : s ∈ p.tree.subtree) (hdirective : isDirective s = true) :
    s.mapNodes (onOwners (owners p.tree) stripBody) = s := by
  have hin := inOrder_of_read h
  obtain ⟨hstatement, htext⟩ := Bool.and_eq_true_iff.mp hdirective
  have hkind := (Tree.kind_of_isKind hstatement).2
  have hkinds : ∀ n ∈ s.subtree, n.kind = "ExpressionStatement" ∨ n.kind = "Literal" := by
    intro n hn
    rcases Tree.mem_subtree.mp hn with rfl | ⟨c, hc, hn⟩
    · exact .inl hkind
    · obtain ⟨hliteral, honly⟩ := @Tree.subtree_of_literal _ (hin.fields s hs) [("expression", .expression)]
        (by rw [hkind]; rfl) _ (by simp) (Bool.and_eq_true_iff.mp htext).1 _ hc
        (hin.fields c (Tree.mem_subtree_of_mem_children hs hc))
      rw [honly] at hn
      exact .inr (List.mem_singleton.mp hn ▸ hliteral)
  refine Tree.mapNodes_eq_self fun n hn => if_neg fun hl => ?_
  have howner := kind_of_mem_owners h (Tree.subtree_subset hs hn) hl
  rcases hkinds n hn with hk | hk <;> rw [hk] at howner <;> simp at howner

theorem commentsIn_mapNodes (hn : n ∈ p.tree.subtree) :
    commentsIn n = commentsIn (n.mapNodes (onOwners (owners p.tree) stripBody)) + lostIn (owners p.tree) n := by
  refine @Tree.children_induct (fun n => commentsIn n = commentsIn (n.mapNodes (onOwners (owners p.tree) stripBody)) +
    lostIn (owners p.tree) n) n fun m hm ih => ?_
  replace hm := Tree.subtree_subset hn hm
  have hask := askable_of_hasFields ((inOrder_of_read h).fields m hm)
  cases m with
  | obj l fields =>
    let φ := onOwners (owners p.tree) stripBody
    have hchildren : (Tree.obj l (Tree.mapNodesFields φ fields)).children =
        (Tree.obj l fields).children.map (Tree.mapNodes φ) := Tree.children_mapNodesFields isNode_onOwners
    have hown : (Tree.obj l (Tree.mapNodesFields φ fields)).comments = (Tree.obj l fields).comments := by
      have hget {key : String} (hkey : Tree.holdsChildren key = false) :
          (Tree.obj l (Tree.mapNodesFields φ fields)).get key = (Tree.obj l fields).get key := by
        rw [Tree.get, Tree.get, Tree.get?_obj, Tree.lookup_mapNodesFields, hkey]
        exact congrArg (Option.getD · _) Option.map_id'
      rw [Tree.comments, Tree.leadingComments, Tree.trailingComments, hget rfl, hget rfl]
      rfl
    have hbelow : commentsBelow (.obj l fields) = commentsBelow (.obj l (Tree.mapNodesFields φ fields)) +
        ((Tree.obj l fields).children.map (lostIn (owners p.tree))).sum := by
      rw [commentsBelow, commentsBelow, hchildren, List.map_map, ← List.sum_map_add]
      exact congrArg List.sum (List.map_congr_left fun c hc => ih c hc)
    -- below a node the comments are accounted for by induction, and its own are not touched
    have hinner : commentsIn (.obj l fields) = commentsIn (.obj l (Tree.mapNodesFields φ fields)) +
        ((Tree.obj l fields).children.map (lostIn (owners p.tree))).sum := by
      rw [commentsIn_eq, commentsIn_eq, hown, hbelow, add_assoc]
    rw [hinner, lostIn_eq, Tree.mapNodes, onOwners, Tree.label_obj, Tree.label_obj]
    split
    · rename_i hl
      obtain ⟨body, hbody, hnode⟩ := hask.statements (kind_of_mem_owners h hm hl)
      have hget : (Tree.obj l fields).get "body" = .list body := Tree.get_of_get? hbody
      have hitem (s : Tree) (hs : s ∈ body) : Tree.mapNodesItem φ s = s.mapNodes φ := by
        rw [Tree.mapNodesItem_eq, if_pos (hnode s hs)]
      have hmem (s : Tree) (hs : s ∈ body) : s ∈ p.tree.subtree := by
        refine Tree.mem_subtree_of_mem_children hm (@Tree.mem_children_of_get _ _ "body" (hnode s hs) rfl (.inr ?_))
        rwa [hget]
      have hnode' : ∀ s ∈ body.map (Tree.mapNodesItem φ), s.isNode = true := by
        intro s hs
        obtain ⟨u, hu, rfl⟩ := List.mem_map.mp hs
        rw [Tree.isNode_mapNodesItem isNode_onOwners, hnode u hu]
      have hslight := slight_onOwners (owners p.tree)
      -- what a body loses is the same before and after the edits inside its statements
      have hlost : lostOf (body.map (Tree.mapNodesItem φ)) = lostOf body := by
        refine lostOf_map (fun s hs => ?_) (fun s hs => ?_) fun s hs hdirective => ?_ <;> rw [hitem s hs]
        · exact (isDirective_mapNodes hslight s).1
        · exact (isDirective_mapNodes hslight s).2
        · exact mapNodes_of_isDirective h (hmem s hs) hdirective
      have hlookup : fields.lookup "body" = some (.list body) := hbody
      rw [commentsIn_stripBody (lookup_body_mapNodesFields hlookup) hnode', hlost, hget, Tree.items_list, add_assoc]
    · rw [zero_add]
  | _ => cases hask.kind

/-- **A program keeps its comments** but for those that are lost. -/
theorem commentsIn_stripped : commentsIn p.tree = commentsIn (stripped p.tree) + lost p.tree := by
  rw [stripped, ← lostIn_owners]
  exact commentsIn_mapNodes h (Tree.mem_subtree_self _)

end Program

/-- **Every comment is kept or is lost with a directive**: what a run leaves of the comments of a program and what is
lost are the comments that were there, each as often. -/
theorem comments_kept_or_lost {source : String} {p : Program} (h : Program.read source = .ok p) {c : Context}
    (hdoc : c.doc = ⟨p.tree, [], p.next⟩) :
    ∃ c', run.run.run c = (.ok (), c') ∧ commentsIn p.tree = commentsIn c'.doc.root + lost p.tree := by
  obtain ⟨u, c', hrun, hc⟩ := ends_run_program h hdoc
  refine ⟨c', hrun, ?_⟩
  rw [hc]
  exact commentsIn_stripped h

/-- Comments in front of a directive and behind it go to the statement after it. -/
theorem comments_kept_or_lost_handed : ∃ p c', Program.read "/* a */ 'use strict'; /* b */ c();" = .ok p ∧
    run.run.run { doc := ⟨p.tree, [], p.next⟩ } = (.ok (), c') ∧ (commentsIn p.tree).card = 2 ∧
    commentsIn p.tree = commentsIn c'.doc.root := by
  obtain ⟨p, hp, hcheck⟩ := @Program.exists_of_any "/* a */ 'use strict'; /* b */ c();"
    (fun p => (commentsIn p.tree).card == 2 && (lost p.tree).card == 0) (by simp only [Program.read, Program.attachComments, Program.neighbours_of_eq]; decide +kernel)
  obtain ⟨c', hrun, hall⟩ := @comments_kept_or_lost _ p hp { doc := ⟨p.tree, [], p.next⟩ } rfl
  simp only [Bool.and_eq_true, beq_iff_eq, Multiset.card_eq_zero] at hcheck
  rw [hcheck.2, add_zero] at hall
  exact ⟨p, c', hp, hrun, hcheck.1, hall⟩

/-- A comment inside of a directive goes with it, though there is a statement to take it. -/
theorem comments_not_kept : ∃ p c', Program.read "(/* c */ 'use strict'); f();" = .ok p ∧
    run.run.run { doc := ⟨p.tree, [], p.next⟩ } = (.ok (), c') ∧ commentsIn c'.doc.root ≠ commentsIn p.tree := by
  obtain ⟨p, hp, hcheck⟩ := @Program.exists_of_any "(/* c */ 'use strict'); f();"
    (fun p => (lost p.tree).card == 1) (by simp only [Program.read, Program.attachComments, Program.neighbours_of_eq]; decide +kernel)
  obtain ⟨u, c', hrun, hc⟩ := @ends_run_program _ p hp { doc := ⟨p.tree, [], p.next⟩ } rfl
  refine ⟨p, c', hp, hrun, fun hsame => ?_⟩
  have hall := commentsIn_stripped hp
  rw [show stripped p.tree = c'.doc.root by rw [hc], hsame, left_eq_add] at hall
  rw [hall] at hcheck
  cases hcheck

end Deminify.Rules.StrictDirective
