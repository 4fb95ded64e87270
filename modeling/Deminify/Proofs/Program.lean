import Deminify.Program
import Deminify.Proofs.Grammar.Program
import Deminify.Proofs.Tree.Label

/-!
# Programs that have been read

**Reading a program gives a well-formed tree whose nodes have labels of their own**
(`Deminify.Program.is_of_read`, `Deminify.Program.nodup_labels_of_read`). The grammar already yields a
well-formed tree; what comes after it – labels, then comments, then labels for the comments – does
not touch what the nodes are.
-/

namespace Deminify

theorem eq_ok_of_toOption {ε α : Type} {x : Except ε α} {a : α} (h : x.toOption = some a) : x = .ok a := by
  cases x with
  | error e => cases h
  | ok b => rw [Option.some.inj h]

namespace Program

/-! ### Comments -/

/-- Whether a field holds comments. -/
def isCommentKey (key : String) : Bool := key == "leadingComments" || key == "trailingComments"

theorem isShapeKey_of_isCommentKey {key : String} (h : isCommentKey key = true) :
    Tree.isShapeKey key = false := by
  rcases Bool.or_eq_true_iff.mp h with h | h <;> rw [beq_iff_eq.mp h] <;> decide

theorem isCommentKey_takerOf (source : Source) (root : Nat) (n : Neighbours) (c : Comment) :
    isCommentKey (takerOf source root n c).2 = true := by
  simp only [takerOf]
  repeat' split
  all_goals rfl

theorem core_addComment {t : Tree} {key : String} (h : isCommentKey key = true) (c : Comment) :
    (addComment t key c).core = t.core := by
  rw [addComment]
  cases t with
  | obj label fields =>
    rw [Tree.set, Tree.core, Tree.core, Tree.coreFields_putKey (isShapeKey_of_isCommentKey h)]
  | _ => rfl

/-- A comment brings no label with it. -/
theorem count_labels_addComment (t : Tree) (key : String) (c : Comment) {l : Nat} (hl : l ≠ 0) :
    (addComment t key c).labels.count l ≤ t.labels.count l := by
  rw [addComment]
  cases t with
  | obj label fields =>
    have hput := Tree.count_labelsFields_putKey fields key
      (.list (((Tree.obj label fields).get key).items ++ [commentTree c])) l
    have hcomment : (commentTree c).labels.count l = 0 := by
      simp [commentTree, Tree.labels, Tree.labelsFields, Tree.labelsItems, Ne.symm hl]
    have hitems : (((Tree.obj label fields).get key).items.flatMap Tree.labels).count l ≤
        ((fields.lookup key).getD .null).labels.count l := by
      rw [Tree.get, Tree.get?_obj]
      cases (fields.lookup key).getD .null with
      | list items => rw [Tree.labels_list]; exact Nat.le_refl _
      | _ => exact Nat.zero_le _
    rw [Tree.labels_list, List.flatMap_append, List.count_append, List.flatMap_singleton,
      hcomment] at hput
    rw [Tree.set, Tree.labels, Tree.labels, List.count_cons, List.count_cons]
    omega
  | _ => exact Nat.le_refl _

/-- What a node takes are comments, under the keys that hold such. -/
theorem isCommentKey_of_mem_taken (source : Source) (root : Nat) (n : Neighbours)
    (comments : List Comment) (taken : Std.TreeMap Nat (List (String × Comment)))
    (h : ∀ label, ∀ entry ∈ taken.getD label [], isCommentKey entry.1 = true) (label : Nat) :
    ∀ entry ∈ (comments.foldl (fun taken c =>
      let (label, key) := takerOf source root n c
      taken.insert label ((taken.getD label []) ++ [(key, c)])) taken).getD label [],
      isCommentKey entry.1 = true := by
  induction comments generalizing taken with
  | nil => exact h label
  | cons c rest ih =>
    refine ih _ fun label entry he => ?_
    rw [Std.TreeMap.getD_insert] at he
    split at he
    · rcases List.mem_append.mp he with he | he
      · exact h _ entry he
      · cases List.mem_singleton.mp he
        exact isCommentKey_takerOf source root n c
    · exact h _ entry he

/-- Comments do not change what the nodes are. -/
theorem core_attachComments (source : Source) (t : Tree) (comments : List Comment) :
    (attachComments source t comments).core = t.core := by
  rw [attachComments]
  split
  · rfl
  · refine Tree.core_mapObjs (fun label fields => ?_) t
    have htaken := isCommentKey_of_mem_taken source t.label (Neighbours.of (candidates t)) comments
      {} (by simp) label
    -- the comments are added one after the other
    revert htaken
    rw [Tree.label_obj]
    generalize Std.TreeMap.getD _ label [] = entries
    generalize Tree.obj label fields = node
    intro htaken
    induction entries generalizing node with
    | nil => rfl
    | cons entry rest ih =>
      rw [List.foldl_cons, ih _ fun e he => htaken e (List.mem_cons_of_mem _ he)]
      exact core_addComment (htaken entry List.mem_cons_self) _

theorem count_labels_attachComments (source : Source) (t : Tree) (comments : List Comment) {l : Nat}
    (hl : l ≠ 0) : (attachComments source t comments).labels.count l ≤ t.labels.count l := by
  rw [attachComments]
  split
  · exact Nat.le_refl _
  · refine Tree.count_labels_mapObjs (fun label fields => ?_) t
    generalize Std.TreeMap.getD _ _ [] = entries
    generalize Tree.obj label fields = node
    induction entries generalizing node with
    | nil => exact Nat.le_refl _
    | cons entry rest ih =>
      rw [List.foldl_cons]
      exact Nat.le_trans (ih _) (count_labels_addComment _ _ _ hl)

/-! ### Reading -/

theorem exists_of_isOk {source : String} (h : (read source).isOk = true) : ∃ p, read source = .ok p := by
  cases hr : read source with
  | ok p => exact ⟨p, rfl⟩
  | error e =>
    rw [hr] at h
    cases h

theorem exists_of_any {source : String} {check : Program → Bool} (h : (read source).toOption.any check = true) :
    ∃ p, read source = .ok p ∧ check p = true := by
  cases hr : read source with
  | ok p => exact ⟨p, rfl, by rwa [hr] at h⟩
  | error e =>
    rw [hr] at h
    cases h

/-- The tree of a program and its first free label, out of the tree that the grammar yields. -/
theorem exists_of_read {source : String} {p : Program} (h : read source = .ok p) :
    ∃ src isModule tree, Grammar.readProgram src isModule = .ok (tree, p.comments) ∧
      p.tree = ((attachComments src (tree.renewed.number 1).1 p.comments).number
        (tree.renewed.number 1).2).1 ∧
      p.next = ((attachComments src (tree.renewed.number 1).1 p.comments).number
        (tree.renewed.number 1).2).2 := by
  unfold read at h
  extract_lets src cs asModule finish at h
  split at h
  · rename_i result hr
    cases h
    exact ⟨_, _, result.1, hr, rfl, rfl⟩
  · split at h
    · cases h
    · split at h
      · rename_i result hr
        cases h
        exact ⟨_, _, result.1, hr, rfl, rfl⟩
      · split at h <;> cases h

/-- **A program that has been read is a well-formed program.** -/
theorem is_of_read {source : String} {p : Program} (h : read source = .ok p) :
    p.tree.Is (· == "Program") := by
  obtain ⟨src, isModule, tree, hr, ht, -⟩ := exists_of_read h
  have hcore : p.tree.core = tree.core := by
    rw [ht, Tree.core_number, core_attachComments, Tree.core_number, Tree.core_renewed]
  exact (Tree.is_congr hcore).mpr (Grammar.is_of_readProgram hr)

/-- How often a label occurs in a program that has been read: once if it has been given out, and not
at all otherwise. -/
theorem count_labels_of_read {source : String} {p : Program} (h : read source = .ok p) (l : Nat) :
    p.tree.labels.count l ≤ 1 ∧ (0 < p.tree.labels.count l → 0 < l ∧ l < p.next) ∧ 0 < p.next := by
  obtain ⟨src, isModule, tree, -, ht, hnext⟩ := exists_of_read h
  have first := tree.renewed.givenOut_number Nat.one_pos l
  have second := (attachComments src (tree.renewed.number 1).1 p.comments).givenOut_number
    (Nat.lt_of_lt_of_le Nat.one_pos first.le) l
  rw [ht, hnext]
  by_cases hl : l = 0
  · rw [second.zero hl]
    have hle := first.le
    have hle' := second.le
    omega
  · have hnew := tree.count_labels_renewed hl
    have hkept := count_labels_attachComments src (tree.renewed.number 1).1 p.comments hl
    obtain ⟨hle, -, hg, ho⟩ := first
    obtain ⟨hle', -, hg', ho'⟩ := second
    omega

/-- **The records of a program that has been read have labels of their own.** -/
theorem nodup_labels_of_read {source : String} {p : Program} (h : read source = .ok p) :
    p.tree.labels.Nodup := List.nodup_iff_count.mpr fun l => (count_labels_of_read h l).1

/-- **The nodes of a program that has been read have labels of their own.** -/
theorem labelled_of_read {source : String} {p : Program} (h : read source = .ok p) :
    p.tree.Labelled :=
  (nodup_labels_of_read h).sublist (Tree.labels_subtree (is_of_read h).2.isObj)

end Program

end Deminify
