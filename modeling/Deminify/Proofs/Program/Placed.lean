import Deminify.Proofs.Printer.Attached
import Deminify.Proofs.Tree.Record

/-!
# Where comments are placed

Every comment of a program goes to one node, in front of it or behind it, and nothing else about the program
changes. **A comment goes to a node that stands next to it** (`Deminify.Program.comments_placed`): to the widest
of the nodes that start next behind it, or to a node that ended last in front of it, inside the node that reaches
around both; or else to the program.

The nodes are looked up in two lists, sorted by where they start and by where they end. What is found in them is
what a sorted list and a search by halving give (`Deminify.Program.firstAtLeast_spec`): the first node that starts
behind the comment, and the last node that ends in front of it.

## Where it stops

The program itself is not among the nodes that are looked up, although it starts with its first statement and
reaches further (`Deminify.Program.not_widest_of_program`).
-/

namespace Deminify.Program

/-! ### The nodes that are looked up -/

section Candidates

variable {parent : Option (Option (Nat × Nat))} {flag : Bool} {rest : List Candidate} {c : Candidate}
  {t n : Tree} {l : Nat} {fields : List (String × Tree)}

/-- What is found in front of other candidates does not depend on them. -/
theorem mem_candidatesInFields_iff
    (hvalue : ∀ f ∈ fields, ∀ rest, c ∈ candidatesInValue parent flag f.2 rest ↔
      c ∈ rest ∨ c ∈ candidatesInValue parent flag f.2 []) :
    c ∈ candidatesInFields parent flag fields rest ↔
      c ∈ rest ∨ ∃ f ∈ fields, Tree.holdsChildren f.1 = true ∧ c ∈ candidatesInValue parent flag f.2 [] := by
  induction fields generalizing rest with
  | nil => simp [candidatesInFields]
  | cons f more ih =>
    rw [candidatesInFields, ih fun f hf => hvalue f (List.mem_cons_of_mem _ hf)]
    split
    · rename_i hk
      rw [hvalue f List.mem_cons_self, or_assoc]
      simp only [List.mem_cons, exists_eq_or_imp, hk, true_and]
    · rename_i hk
      simp only [List.mem_cons, exists_eq_or_imp, hk, Bool.false_eq_true, false_and, false_or]

theorem mem_candidatesInItems_iff {items : List Tree}
    (hitem : ∀ t ∈ items, ∀ rest, c ∈ candidatesIn parent flag t rest ↔
      c ∈ rest ∨ c ∈ candidatesIn parent flag t []) :
    c ∈ candidatesInItems parent flag items rest ↔
      c ∈ rest ∨ ∃ t ∈ items, c ∈ candidatesIn parent flag t [] := by
  induction items generalizing rest with
  | nil => simp [candidatesInItems]
  | cons t more ih =>
    rw [candidatesInItems, ih fun t ht => hitem t (List.mem_cons_of_mem _ ht), hitem t List.mem_cons_self,
      or_assoc]
    simp only [List.mem_cons, exists_eq_or_imp]

theorem candidatesInValue_eq (h : t.isList = false) :
    candidatesInValue parent flag t rest = candidatesIn parent false t rest := by
  cases t with
  | obj l fields => rw [candidatesInValue, candidatesIn]
  | list items => cases h
  | _ => rfl

theorem candidatesIn_of_not_isNode (h : t.isNode = false) : candidatesIn parent flag t rest = rest := by
  cases t with
  | obj l fields =>
    rw [candidatesIn]
    exact if_neg (Bool.eq_false_iff.mp h)
  | _ => rfl

/-- The candidates in a node: the node itself, if it has a place, and those in its fields. -/
theorem mem_candidatesIn_iff (h : n.isNode = true) : c ∈ candidatesIn parent flag n rest ↔
    (placeOf? n = some (c.start, c.stop) ∧ c.label = n.label ∧ c.parent = parent ∧ c.inList = flag) ∨
      c ∈ candidatesInFields (some (placeOf? n)) (holdsLines n.kind) n.fields rest := by
  cases n with
  | obj l fields =>
    rw [candidatesIn]
    dsimp only
    rw [if_pos h]
    cases hp : placeOf? (.obj l fields) with
    | none => simp [Tree.fields]
    | some place =>
      obtain ⟨start, stop⟩ := place
      simp only [List.mem_cons, Tree.label_obj, Tree.fields]
      refine or_congr_left ⟨?_, ?_⟩
      · rintro rfl
        exact ⟨rfl, rfl, rfl, rfl⟩
      · rintro ⟨hplace, hlabel, hparent, hflag⟩
        obtain ⟨cstart, cstop, clabel, cparent, cflag⟩ := c
        cases hplace
        cases hlabel
        cases hparent
        cases hflag
        rfl
  | _ => cases h

theorem mem_candidatesInValue_rest (t : Tree) (parent : Option (Option (Nat × Nat))) (flag : Bool)
    (rest : List Candidate) :
    (c ∈ candidatesInValue parent flag t rest ↔ c ∈ rest ∨ c ∈ candidatesInValue parent flag t []) ∧
    (c ∈ candidatesIn parent flag t rest ↔ c ∈ rest ∨ c ∈ candidatesIn parent flag t []) := by
  induction t using Tree.induction generalizing parent flag rest with
  | leaf t ht =>
    have hn : t.isNode = false := by cases t <;> first | rfl | simp [Tree.isLeaf] at ht
    have hl : t.isList = false := by cases t <;> first | rfl | simp [Tree.isLeaf] at ht
    simp [candidatesInValue_eq hl, candidatesIn_of_not_isNode hn]
  | list items ih =>
    have hitem (t) (ht : t ∈ items) (rest) := (ih t ht parent flag rest).2
    refine ⟨?_, by simp [candidatesIn]⟩
    rw [candidatesInValue, candidatesInValue, mem_candidatesInItems_iff hitem, mem_candidatesInItems_iff hitem]
    simp
  | obj l fields ih =>
    have hin (flag) : c ∈ candidatesIn parent flag (.obj l fields) rest ↔
        c ∈ rest ∨ c ∈ candidatesIn parent flag (.obj l fields) [] := by
      cases hn : (Tree.obj l fields).isNode with
      | false => simp [candidatesIn_of_not_isNode hn]
      | true =>
        have hvalue (f) (hf : f ∈ fields) (rest) := (ih f hf (some (placeOf? (.obj l fields)))
          (holdsLines (Tree.obj l fields).kind) rest).1
        rw [mem_candidatesIn_iff hn, mem_candidatesIn_iff hn, Tree.fields, mem_candidatesInFields_iff hvalue,
          mem_candidatesInFields_iff hvalue]
        simp only [List.not_mem_nil, false_or]
        exact or_left_comm
    rw [candidatesInValue_eq rfl, candidatesInValue_eq rfl]
    exact ⟨hin false, hin flag⟩

/-- **The candidates in the fields of a node are those in its children.** -/
theorem mem_candidatesInFields_children : c ∈ candidatesInFields parent flag fields rest ↔
    c ∈ rest ∨ ∃ f ∈ fields, Tree.holdsChildren f.1 = true ∧
      (c ∈ candidatesIn parent false f.2 [] ∨ ∃ u ∈ f.2.items, c ∈ candidatesIn parent flag u []) := by
  rw [mem_candidatesInFields_iff fun f _ rest => (mem_candidatesInValue_rest f.2 _ _ rest).1]
  refine or_congr_right (exists_congr fun f => and_congr_right fun _ => and_congr_right fun _ => ?_)
  cases hv : f.2 with
  | list items =>
    rw [candidatesInValue, mem_candidatesInItems_iff fun t _ rest => (mem_candidatesInValue_rest t _ _ rest).2]
    simp [candidatesIn]
  | _ =>
    rw [candidatesInValue_eq rfl]
    simp [Tree.items]

/-- Whether a candidate stands for a node below another, with what is known of the parent of that node. -/
def Candidate.IsBelow (c : Candidate) (t : Tree) (parent : Option (Option (Nat × Nat))) : Prop :=
  ∃ p ∈ t.subtree, ∃ n ∈ p.children, placeOf? n = some (c.start, c.stop) ∧ c.label = n.label ∧
    (c.parent = some (placeOf? p) ∨ p = t ∧ c.parent = parent)

theorem exists_of_mem_candidatesInFields (h : c ∈ candidatesInFields parent flag n.fields []) :
    ∃ m ∈ n.children, ∃ flag, c ∈ candidatesIn parent flag m [] := by
  have hnode {m : Tree} {flag} (h : c ∈ candidatesIn parent flag m []) : m.isNode = true := by
    cases hm : m.isNode with
    | true => rfl
    | false =>
      rw [candidatesIn_of_not_isNode hm] at h
      cases h
  obtain h | ⟨⟨key, value⟩, hf, hk, h⟩ := mem_candidatesInFields_children.mp h
  · cases h
  · rcases h with h | ⟨m, hm, h⟩
    · exact ⟨_, Tree.mem_children.mpr ⟨hnode h, key, value, hf, hk, .inl rfl⟩, _, h⟩
    · exact ⟨m, Tree.mem_children.mpr ⟨hnode h, key, value, hf, hk, .inr hm⟩, _, h⟩

theorem mem_candidatesInFields_of_mem_children {m : Tree} (hm : m ∈ n.children) :
    ∃ flag', ∀ c ∈ candidatesIn parent flag' m [], c ∈ candidatesInFields parent flag n.fields [] := by
  obtain ⟨-, key, value, hf, hk, rfl | hm⟩ := Tree.mem_children.mp hm
  · exact ⟨false, fun c h => mem_candidatesInFields_children.mpr (.inr ⟨_, hf, hk, .inl h⟩)⟩
  · exact ⟨flag, fun c h => mem_candidatesInFields_children.mpr (.inr ⟨_, hf, hk, .inr ⟨m, hm, h⟩⟩)⟩

/-- A candidate found in the fields of a node stands for a node below it. -/
theorem isBelow_of_mem_candidatesInFields (h : c ∈ candidatesInFields parent flag n.fields []) :
    c.IsBelow n parent := by
  induction hh : n.height using Nat.strongRecOn generalizing n parent flag with
  | _ k ih =>
    subst hh
    obtain ⟨m, hm, flag', h⟩ := exists_of_mem_candidatesInFields h
    rcases (mem_candidatesIn_iff (Tree.mem_children.mp hm).1).mp h with ⟨hplace, hlabel, hparent, -⟩ | h
    · exact ⟨n, Tree.mem_subtree_self n, m, hm, hplace, hlabel, .inr ⟨rfl, hparent⟩⟩
    · -- the node is below a child, whose place its own children know
      obtain ⟨p, hp, u, hu, hplace, hlabel, hparent⟩ := ih _ (Tree.height_lt_of_mem_children hm) h rfl
      refine ⟨p, Tree.subtree_subset_of_mem_children hm hp, u, hu, hplace, hlabel, .inl ?_⟩
      rcases hparent with hparent | ⟨rfl, hparent⟩
      · exact hparent
      · exact hparent

/-- Every node below another that has a place is found in its fields. -/
theorem exists_candidate_of_mem_subtree {p m : Tree} {start stop : Nat} (hp : p ∈ n.subtree)
    (hm : m ∈ p.children) (hplace : placeOf? m = some (start, stop)) :
    ∃ c ∈ candidatesInFields parent flag n.fields [], c.start = start ∧ c.stop = stop := by
  induction hh : n.height using Nat.strongRecOn generalizing n parent flag with
  | _ k ih =>
    subst hh
    rcases Tree.mem_subtree.mp hp with rfl | ⟨u, hu, hp⟩
    · obtain ⟨flag', hsub⟩ := @mem_candidatesInFields_of_mem_children parent flag _ _ hm
      exact ⟨⟨start, stop, m.label, parent, flag'⟩, hsub _ ((mem_candidatesIn_iff
        (Tree.mem_children.mp hm).1).mpr (.inl ⟨hplace, rfl, rfl, rfl⟩)), rfl, rfl⟩
    · obtain ⟨flag', hsub⟩ := @mem_candidatesInFields_of_mem_children parent flag _ _ hu
      obtain ⟨c, hc, he⟩ := ih _ (Tree.height_lt_of_mem_children hu) hp rfl
      exact ⟨c, hsub c ((mem_candidatesIn_iff (Tree.mem_children.mp hu).1).mpr (.inr hc)), he⟩

end Candidates

/-! ### Searching by halving -/

section Search

variable {numbers : Array Nat} {n : Nat}

theorem getElem_le_of_pairwise (hmono : numbers.toList.Pairwise (· ≤ ·)) {i j : Nat} (hij : i ≤ j)
    (hj : j < numbers.size) : numbers[i] ≤ numbers[j] := by
  rcases Nat.eq_or_lt_of_le hij with rfl | hlt
  · exact Nat.le_refl _
  · exact List.pairwise_iff_getElem.mp hmono i j (Nat.lt_trans hlt hj) hj hlt

/-- What is known of the indices outside of those that are left narrows the search down to one of them. -/
theorem firstAtLeast_between (hmono : numbers.toList.Pairwise (· ≤ ·)) {lo hi : Nat} (hle : lo ≤ hi)
    (hhi : hi ≤ numbers.size) (hbelow : ∀ j (h : j < numbers.size), j < lo → numbers[j] < n)
    (habove : ∀ j (h : j < numbers.size), hi ≤ j → n ≤ numbers[j]) :
    ∀ j (h : j < numbers.size), j < firstAtLeast numbers n lo hi ↔ numbers[j] < n := by
  fun_induction firstAtLeast numbers n lo hi with
  | case1 lo hi hlt mid hmid ih =>
    have hsize : mid < numbers.size := by omega
    rw [Array.getElem?_eq_getElem hsize, Option.getD_some] at hmid
    refine ih (by omega) hhi (fun j h hj => ?_) habove
    exact Nat.lt_of_le_of_lt (getElem_le_of_pairwise hmono (Nat.lt_succ_iff.mp hj) hsize) hmid
  | case2 lo hi hlt mid hmid ih =>
    have hsize : mid < numbers.size := by omega
    rw [Array.getElem?_eq_getElem hsize, Option.getD_some] at hmid
    refine ih (by omega) (by omega) hbelow fun j h hj => ?_
    exact Nat.le_trans (Nat.le_of_not_lt hmid) (getElem_le_of_pairwise hmono hj h)
  | case3 lo hi hlt =>
    refine fun j h => ⟨hbelow j h, fun hj => Nat.lt_of_not_le fun hle' => ?_⟩
    exact absurd hj (Nat.not_lt.mpr (habove j h (by omega)))

/-- **The search finds where the numbers that ascend become as large as another.** -/
theorem firstAtLeast_spec (hmono : numbers.toList.Pairwise (· ≤ ·)) {j : Nat} (h : j < numbers.size) :
    j < firstAtLeast numbers n 0 numbers.size ↔ numbers[j] < n :=
  firstAtLeast_between hmono (Nat.zero_le _) (Nat.le_refl _) (fun _ _ h => absurd h (Nat.not_lt_zero _))
    (fun _ h hj => absurd h (Nat.not_lt.mpr hj)) j h

variable {α : Type} {l : List α} {f : α → Nat} {R : α → α → Prop} {a : α}

theorem lt_firstAtLeast_iff (hsorted : l.Pairwise R) (hR : ∀ {a b}, R a b → f a ≤ f b) {j : Nat}
    (h : j < l.length) : j < firstAtLeast (l.toArray.map f) n 0 l.toArray.size ↔ f l[j] < n := by
  have hmono : (l.toArray.map f).toList.Pairwise (· ≤ ·) := by
    rw [Array.toList_map]
    exact List.pairwise_map.mpr (hsorted.imp hR)
  simpa using @firstAtLeast_spec (l.toArray.map f) n hmono j (by simpa using h)

/-- What stands where the search ends: it comes before all that is as large as the number. -/
theorem of_getElem?_firstAtLeast (hsorted : l.Pairwise R) (hR : ∀ {a b}, R a b → f a ≤ f b)
    (h : l.toArray[firstAtLeast (l.toArray.map f) n 0 l.toArray.size]? = some a) :
    n ≤ f a ∧ ∀ b ∈ l, n ≤ f b → b = a ∨ R a b := by
  rw [List.getElem?_toArray] at h
  obtain ⟨hi, rfl⟩ := List.getElem?_eq_some_iff.mp h
  refine ⟨Nat.le_of_not_lt fun hlt => Nat.lt_irrefl _ ((lt_firstAtLeast_iff hsorted hR hi).mpr hlt),
    fun b hb hle => ?_⟩
  obtain ⟨j, hj, rfl⟩ := List.getElem_of_mem hb
  have hij := Nat.le_of_not_lt (mt (lt_firstAtLeast_iff hsorted hR hj).mp (Nat.not_lt.mpr hle))
  rcases Nat.eq_or_lt_of_le hij with heq | hlt
  · exact .inl (getElem_congr rfl heq.symm _)
  · exact .inr (List.pairwise_iff_getElem.mp hsorted _ _ _ _ hlt)

/-- What stands in front of where the search ends: it comes after all that is smaller than the number. -/
theorem of_getElem?_pred_firstAtLeast (hsorted : l.Pairwise R) (hR : ∀ {a b}, R a b → f a ≤ f b)
    (hpos : firstAtLeast (l.toArray.map f) n 0 l.toArray.size ≠ 0)
    (h : l.toArray[firstAtLeast (l.toArray.map f) n 0 l.toArray.size - 1]? = some a) :
    f a < n ∧ ∀ b ∈ l, f b < n → b = a ∨ R b a := by
  rw [List.getElem?_toArray] at h
  obtain ⟨hi, rfl⟩ := List.getElem?_eq_some_iff.mp h
  refine ⟨(lt_firstAtLeast_iff hsorted hR hi).mp (Nat.sub_one_lt hpos), fun b hb hlt => ?_⟩
  obtain ⟨j, hj, rfl⟩ := List.getElem_of_mem hb
  have hij := Nat.le_sub_one_of_lt ((lt_firstAtLeast_iff hsorted hR hj).mpr hlt)
  rcases Nat.eq_or_lt_of_le hij with heq | hlt
  · exact .inl (getElem_congr rfl heq _)
  · exact .inr (List.pairwise_iff_getElem.mp hsorted _ _ _ _ hlt)

end Search

/-! ### Neighbours of a comment -/

section Neighbours

variable {found : List Candidate} {comment : Comment} {c : Candidate}

/-- Whether a candidate comes first among those sorted by where they start. -/
def Candidate.startsFirst (a b : Candidate) : Bool :=
  a.start < b.start || (a.start == b.start && b.stop ≤ a.stop)

/-- Whether a candidate comes first among those sorted by where they end. -/
def Candidate.stopsFirst (a b : Candidate) : Bool :=
  a.stop < b.stop || (a.stop == b.stop && b.start ≤ a.start)

theorem neighbours_of (found : List Candidate) : Neighbours.of found =
    ⟨(found.mergeSort Candidate.startsFirst).toArray,
      ((found.mergeSort Candidate.startsFirst).mergeSort Candidate.stopsFirst).toArray⟩ := rfl

theorem pairwise_startsFirst (found : List Candidate) :
    (found.mergeSort Candidate.startsFirst).Pairwise fun a b => a.startsFirst b = true :=
  List.pairwise_mergeSort (by simp only [Candidate.startsFirst]; grind)
    (by simp only [Candidate.startsFirst]; grind) found

theorem pairwise_stopsFirst (found : List Candidate) :
    (found.mergeSort Candidate.stopsFirst).Pairwise fun a b => a.stopsFirst b = true :=
  List.pairwise_mergeSort (by simp only [Candidate.stopsFirst]; grind)
    (by simp only [Candidate.stopsFirst]; grind) found

/-- **What follows a comment is the widest of the nodes that start next.** -/
theorem of_following (h : (Neighbours.of found).following comment = some c) :
    c ∈ found ∧ c.encloses comment = true ∧ comment.stop ≤ c.start ∧ ∀ d ∈ found, comment.stop ≤ d.start →
      c.start ≤ d.start ∧ (c.start = d.start → d.stop ≤ c.stop) := by
  have hmem := mem_of_following h
  rw [neighbours_of, Neighbours.following] at h
  obtain ⟨h, henc⟩ := Option.filter_eq_some_iff.mp h
  obtain ⟨hle, hfirst⟩ := of_getElem?_firstAtLeast (pairwise_startsFirst found)
    (fun {a b} hab => by simp only [Candidate.startsFirst] at hab; grind) h
  refine ⟨hmem, henc, hle, fun d hd hstart => ?_⟩
  rcases hfirst d (List.mem_mergeSort.mpr hd) hstart with rfl | hcd
  · exact ⟨Nat.le_refl _, fun _ => Nat.le_refl _⟩
  · simp only [Candidate.startsFirst] at hcd
    grind

/-- **What precedes a comment is a node that ended last.** -/
theorem of_preceding (h : (Neighbours.of found).preceding comment = some c) :
    c ∈ found ∧ c.encloses comment = true ∧ c.stop ≤ comment.start ∧
      ∀ d ∈ found, d.stop ≤ comment.start → d.stop ≤ c.stop := by
  have hmem := mem_of_preceding h
  rw [neighbours_of, Neighbours.preceding] at h
  split at h
  · cases h
  · rename_i hpos
    obtain ⟨h, henc⟩ := Option.filter_eq_some_iff.mp h
    obtain ⟨hlt, hlast⟩ := of_getElem?_pred_firstAtLeast (pairwise_stopsFirst _)
      (fun {a b} hab => by simp only [Candidate.stopsFirst] at hab; grind) (by simpa using hpos) h
    refine ⟨hmem, henc, Nat.le_of_lt_succ hlt, fun d hd hstop => ?_⟩
    rcases hlast d (List.mem_mergeSort.mpr (List.mem_mergeSort.mpr hd)) (Nat.lt_succ_of_le hstop) with rfl | hdc
    · exact Nat.le_refl _
    · simp only [Candidate.stopsFirst] at hdc
      grind

end Neighbours

/-! ### Where a comment belongs -/

/-- Whether a node is the program or reaches around a comment. -/
def ReachesAround (t p : Tree) (comment : Comment) : Prop :=
  p = t ∨ ∃ first last, placeOf? p = some (first, last) ∧ first ≤ comment.start ∧ comment.stop ≤ last

/-- Where a comment belongs in a program: to a node next to it whose parent reaches around it, or to the
program. -/
inductive Belongs (t : Tree) (comment : Comment) : Nat × String → Prop
  /-- In front of a node that is the widest of those that start next. -/
  | leading {p n : Tree} {start stop : Nat} (hp : p ∈ t.subtree) (hn : n ∈ p.children)
      (place : placeOf? n = some (start, stop)) (around : ReachesAround t p comment)
      (behind : comment.stop ≤ start)
      (next : ∀ q ∈ t.subtree, ∀ m ∈ q.children, ∀ start' stop', placeOf? m = some (start', stop') →
        comment.stop ≤ start' → start ≤ start' ∧ (start = start' → stop' ≤ stop)) :
      Belongs t comment (n.label, "leadingComments")
  /-- Behind a node that ended last. -/
  | trailing {p n : Tree} {start stop : Nat} (hp : p ∈ t.subtree) (hn : n ∈ p.children)
      (place : placeOf? n = some (start, stop)) (around : ReachesAround t p comment)
      (inFront : stop ≤ comment.start)
      (last : ∀ q ∈ t.subtree, ∀ m ∈ q.children, ∀ start' stop', placeOf? m = some (start', stop') →
        stop' ≤ comment.start → stop' ≤ stop) :
      Belongs t comment (n.label, "trailingComments")
  /-- At the end of the program. -/
  | program : Belongs t comment (t.label, "trailingComments")

section Belongs

variable {t : Tree} {comment : Comment} {c : Candidate}

theorem exists_of_encloses (hc : c ∈ candidates t) (henc : c.encloses comment = true) :
    ∃ p ∈ t.subtree, ∃ n ∈ p.children, placeOf? n = some (c.start, c.stop) ∧ c.label = n.label ∧
      ReachesAround t p comment := by
  obtain ⟨p, hp, n, hn, hplace, hlabel, hparent⟩ := isBelow_of_mem_candidatesInFields hc
  refine ⟨p, hp, n, hn, hplace, hlabel, ?_⟩
  rcases hparent with hparent | ⟨rfl, -⟩
  · rw [Candidate.encloses, hparent] at henc
    cases hq : placeOf? p with
    | none =>
      rw [hq] at henc
      cases henc
    | some place =>
      rw [hq] at henc
      exact .inr ⟨place.1, place.2, hq, by simpa using henc⟩
  · exact .inl rfl

theorem Belongs.of_following (h : (Neighbours.of (candidates t)).following comment = some c) :
    Belongs t comment (c.label, "leadingComments") := by
  obtain ⟨hc, henc, hle, hnext⟩ := Program.of_following h
  obtain ⟨p, hp, n, hn, hplace, hlabel, haround⟩ := exists_of_encloses hc henc
  rw [hlabel]
  refine .leading hp hn hplace haround hle fun q hq m hm start stop hm' hstart => ?_
  obtain ⟨d, hd, rfl, rfl⟩ := exists_candidate_of_mem_subtree hq hm hm'
  exact hnext d hd hstart

theorem Belongs.of_preceding (h : (Neighbours.of (candidates t)).preceding comment = some c) :
    Belongs t comment (c.label, "trailingComments") := by
  obtain ⟨hc, henc, hle, hlast⟩ := Program.of_preceding h
  obtain ⟨p, hp, n, hn, hplace, hlabel, haround⟩ := exists_of_encloses hc henc
  rw [hlabel]
  refine .trailing hp hn hplace haround hle fun q hq m hm start stop hm' hstop => ?_
  obtain ⟨d, hd, rfl, rfl⟩ := exists_candidate_of_mem_subtree hq hm hm'
  exact hlast d hd hstop

/-- **A comment is taken by what it belongs to.** -/
theorem belongs_takerOf (source : Source) (t : Tree) (comment : Comment) :
    Belongs t comment (takerOf source t.label (Neighbours.of (candidates t)) comment) := by
  rw [takerOf]
  split
  · rename_i p following hp
    split
    · exact .of_preceding hp
    · split
      · rename_i f hf
        exact .of_following hf
      · exact .of_preceding hp
  · rename_i f hp hf
    exact .of_following hf
  · exact .program

/-- What takes a comment is one record. -/
theorem Belongs.count_label {taker : Nat × String} (h : Belongs t comment taker) (ht : t.isObj = true)
    (hlabels : t.labels.Nodup) : t.labels.count taker.1 = 1 := by
  have hmem {n : Tree} (hn : n ∈ t.subtree) : t.labels.count n.label = 1 :=
    List.count_eq_one_of_mem hlabels ((Tree.labels_subtree ht).subset (List.mem_map_of_mem hn))
  have hchild {p n : Tree} (hp : p ∈ t.subtree) (hn : n ∈ p.children) : n ∈ t.subtree :=
    Tree.subtree_subset hp (Tree.subtree_subset_of_mem_children hn (Tree.mem_subtree_self n))
  cases h with
  | leading hp hn => exact hmem (hchild hp hn)
  | trailing hp hn => exact hmem (hchild hp hn)
  | program => exact hmem (Tree.mem_subtree_self t)

end Belongs

/-! ### What a node is given -/

/-- Whether a change of records gives each comment to the record that takes it, and does nothing else. -/
structure Gives (comments : List Comment) (taker : Comment → Nat × String) (give : Tree → Tree) : Prop where
  /-- A record that takes no comment stays as it is. -/
  other : ∀ u, (∀ c ∈ comments, (taker c).1 ≠ u.label) → give u = u
  /-- Of a record only its comments change. -/
  rest : ∀ u, (give u).withoutComments = u.withoutComments
  /-- The comments that a record takes come behind those that it had, in their order. -/
  lists : ∀ u, u.isObj = true → ∀ key, isCommentKey key = true → ((give u).get key).items =
    (u.get key).items ++ (comments.filter fun c => taker c == (u.label, key)).map commentTree

section Giving

variable {entries : List (String × Comment)} {t : Tree}

theorem withoutComments_addComment {key : String} (h : isCommentKey key = true) (t : Tree) (c : Comment) :
    (addComment t key c).withoutComments = t.withoutComments := by
  cases t with
  | obj l fields =>
    simp only [Tree.withoutComments, addComment, Tree.set, Tree.drop, List.filter_filter]
    rw [filter_putKey_of_ne]
    intro value
    rcases Bool.or_eq_true_iff.mp h with h | h <;> simp [beq_iff_eq.mp h]
  | _ => rfl

theorem get_addComment (ht : t.isObj = true) (key key' : String) (c : Comment) :
    ((addComment t key' c).get key).items =
      (t.get key).items ++ if key' = key then [commentTree c] else [] := by
  rw [addComment, Tree.get, Tree.get?_set ht]
  split
  · rename_i hk
    rw [if_pos hk.symm, hk]
    rfl
  · rename_i hk
    rw [if_neg (Ne.symm hk), List.append_nil, Tree.get]

theorem get_addComments (ht : t.isObj = true) (key : String) :
    ((entries.foldl (fun node e => addComment node e.1 e.2) t).get key).items =
      (t.get key).items ++ (entries.filter fun e => e.1 == key).map fun e => commentTree e.2 := by
  induction entries generalizing t with
  | nil => simp
  | cons e rest ih =>
    rw [List.foldl_cons, ih (by rw [addComment, Tree.isObj_set, ht]), get_addComment ht, List.append_assoc,
      List.filter_cons]
    split <;> rename_i hk <;> simp [hk]

theorem withoutComments_addComments (h : ∀ e ∈ entries, isCommentKey e.1 = true) (t : Tree) :
    (entries.foldl (fun node e => addComment node e.1 e.2) t).withoutComments = t.withoutComments := by
  induction entries generalizing t with
  | nil => rfl
  | cons e rest ih =>
    rw [List.foldl_cons, ih fun e he => h e (List.mem_cons_of_mem _ he),
      withoutComments_addComment (h e List.mem_cons_self)]

/-- What has been taken for a label: the comments that its record takes, in their order. -/
theorem getD_taken (taker : Comment → Nat × String) (comments : List Comment)
    (taken : Std.TreeMap Nat (List (String × Comment))) (l : Nat) :
    (comments.foldl (fun taken c =>
      let (label, key) := taker c
      taken.insert label ((taken.getD label []) ++ [(key, c)])) taken).getD l [] =
    taken.getD l [] ++ (comments.filter fun c => (taker c).1 == l).map fun c => ((taker c).2, c) := by
  induction comments generalizing taken with
  | nil => simp
  | cons c rest ih =>
    rw [List.foldl_cons, ih, Std.TreeMap.getD_insert, List.filter_cons]
    by_cases hl : (taker c).1 = l
    · subst hl
      simp
    · simp [hl]

/-- Adding to each record what has been taken for its label gives each comment to what takes it. -/
theorem gives_taken {taker : Comment → Nat × String} (hkeys : ∀ c, isCommentKey (taker c).2 = true)
    (comments : List Comment) : Gives comments taker fun node =>
      ((comments.filter fun c => (taker c).1 == node.label).map fun c => ((taker c).2, c)).foldl
        (fun node e => addComment node e.1 e.2) node where
  other u hu := by
    rw [List.filter_eq_nil_iff.mpr fun c hc => by simpa using hu c hc]
    rfl
  rest u := withoutComments_addComments (fun e he => by
    obtain ⟨c, -, rfl⟩ := List.mem_map.mp he
    exact hkeys c) u
  lists u hu key _ := by
    rw [get_addComments hu, List.filter_map, List.map_map, List.filter_filter]
    have hboth : (fun c => (taker c).2 == key && (taker c).1 == u.label) = fun c => taker c == (u.label, key) := by
      funext c
      rw [Bool.and_comm]
      rfl
    exact congrArg _ (congrArg _ (congrArg (List.filter · comments) hboth))

end Giving

theorem mapObjs_eq_self {change : Tree → Tree} (h : ∀ u, change u = u) (t : Tree) : t.mapObjs change = t := by
  induction t using Tree.induction with
  | leaf t ht => exact Tree.mapObjs_of_isLeaf ht change
  | list items ih => rw [Tree.mapObjs, Tree.mapObjsItems_eq, List.map_congr_left ih, List.map_id']
  | obj l fields ih =>
    rw [Tree.mapObjs, h, Tree.mapObjsFields_eq, List.map_congr_left fun f hf => by rw [ih f hf], List.map_id']

/-- **Every comment is placed next to the node that it belongs to, and nothing else is changed.** Of a program
whose records have labels of their own, each comment goes to one list of comments of one node, in front of it or
behind it; a node that has a comment in front of it is the widest of the nodes below the program that start next,
one that has it behind ended last of them, and the parent of the node reaches around the comment. -/
theorem comments_placed (source : Source) {t : Tree} (ht : t.isObj = true) (hlabels : t.labels.Nodup)
    (comments : List Comment) : ∃ (taker : Comment → Nat × String) (give : Tree → Tree),
      attachComments source t comments = t.mapObjs give ∧ Gives comments taker give ∧
        ∀ c ∈ comments, t.labels.count (taker c).1 = 1 ∧ Belongs t c (taker c) := by
  let taker := takerOf source t.label (Neighbours.of (candidates t))
  refine ⟨taker, _, ?_, gives_taken (isCommentKey_takerOf source _ _) comments, fun c _ =>
    ⟨(belongs_takerOf source t c).count_label ht hlabels, belongs_takerOf source t c⟩⟩
  rw [attachComments]
  split
  · rename_i hempty
    rw [List.isEmpty_iff.mp hempty]
    exact (mapObjs_eq_self (fun _ => rfl) t).symm
  · refine congrArg (Tree.mapObjs · t) (funext fun node => ?_)
    rw [getD_taken taker comments {} node.label]
    rfl

/-- The statements `a;` and `b;`, behind five characters. -/
def twoStatements : Tree :=
  .obj 1 [("type", .str "Program"), ("range", .list [.int 5, .int 9]), ("body", .list [
    .obj 2 [("type", .str "ExpressionStatement"), ("range", .list [.int 5, .int 7]),
      ("expression", .obj 3 [("type", .str "Identifier"), ("name", .str "a"), ("range", .list [.int 5, .int 6])])],
    .obj 4 [("type", .str "ExpressionStatement"), ("range", .list [.int 7, .int 9]),
      ("expression", .obj 5 [("type", .str "Identifier"), ("name", .str "b"), ("range", .list [.int 7, .int 8])])]])]

/-- A comment in front of two statements is placed. -/
theorem comments_placed_twoStatements : twoStatements.isObj = true ∧ twoStatements.labels.Nodup ∧
    ∃ (taker : Comment → Nat × String) (give : Tree → Tree),
      attachComments (.ofString "/*c*/a;b;") twoStatements [⟨true, "c", 0, 5⟩] = twoStatements.mapObjs give ∧
        Gives [⟨true, "c", 0, 5⟩] taker give ∧ ∀ c ∈ [(⟨true, "c", 0, 5⟩ : Comment)],
          twoStatements.labels.count (taker c).1 = 1 ∧ Belongs twoStatements c (taker c) :=
  ⟨rfl, by decide, comments_placed (.ofString "/*c*/a;b;") rfl (by decide) _⟩

/-- **The program is not among the nodes that are looked up.** Of two statements behind a comment the first
carries it, although the program starts where it does and reaches further. -/
theorem not_widest_of_program : ∃ p n comment, read "/*c*/a;b;" = .ok p ∧ comment ∈ p.comments ∧
    n ∈ p.tree.subtree ∧ Carries n "leadingComments" comment ∧
      ∃ m ∈ p.tree.subtree, ∃ start stop stop', placeOf? n = some (start, stop) ∧
        placeOf? m = some (start, stop') ∧ comment.stop ≤ start ∧ stop < stop' := by
  have h : ((read "/*c*/a;b;").toOption.any fun p => p.comments.any fun c =>
      p.tree.children.any fun n => (n.get "leadingComments").items.any (isTreeOf c) &&
        decide (placeOf? n = some (5, 7) ∧ placeOf? p.tree = some (5, 9) ∧ c.stop ≤ 5)) = true := by
    simp only [read, attachComments, neighbours_of_eq]
    decide +kernel
  generalize read "/*c*/a;b;" = r at h ⊢
  cases r with
  | error e => cases h
  | ok p =>
    obtain ⟨c, hc, h⟩ := List.any_eq_true.mp h
    obtain ⟨n, hn, h⟩ := List.any_eq_true.mp h
    obtain ⟨hcarries, h⟩ := Bool.and_eq_true_iff.mp h
    obtain ⟨hplace, hroot, hstop⟩ := of_decide_eq_true h
    exact ⟨p, n, c, rfl, hc, Tree.mem_subtree.mpr (.inr ⟨n, hn, Tree.mem_subtree_self n⟩),
      List.any_eq_true.mp hcarries, p.tree, Tree.mem_subtree_self _, 5, 7, 9, hplace, hroot, hstop, by decide⟩

end Deminify.Program
