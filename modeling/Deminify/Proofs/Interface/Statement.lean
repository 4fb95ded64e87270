import Mathlib.Data.List.InsertIdx
import Deminify.Proofs.Interface.Document
import Deminify.Tree.Comments

/-!
# Statements that come and go

A statement that is no export may be taken out of a program or put in. When it goes, its comments move
on to a neighbour, which may well be an export: that changes nothing about what is exported
(`Deminify.Tree.statementOutline_removeStatement`), and no label becomes more frequent by it
(`Deminify.Tree.count_labels_removeStatement`).
-/

namespace Deminify

namespace Tree

theorem kind_of_isKind {t : Tree} {kind : String} (h : t.isKind kind = true) :
    t.isObj = true ∧ t.kind = kind := by
  rw [isKind, Bool.and_eq_true, beq_iff_eq] at h
  rw [Tree.kind, h.2, Option.getD_some]
  exact ⟨h.1, rfl⟩

/-- A statement of a kind that does not count is not on the outline. -/
theorem outlineAt_statement {t : Tree} {kind : String} (h : t.isKind kind = true)
    (hkind : leadsTo "Program" "body" true kind = false) : outlineAt "Program" "body" true t = [] := by
  obtain ⟨hobj, rfl⟩ := kind_of_isKind h
  exact outlineAt_of_not_leadsTo hobj hkind

/-! ### What stays on the outline -/

theorem outlineAt_prependComments (t : Tree) (comments : List Tree) (kind key : String) (isItem : Bool) :
    outlineAt kind key isItem (t.prependComments comments) = outlineAt kind key isItem t := by
  rw [prependComments]
  split
  · rfl
  · exact outlineAt_set_of_not_isExportKey (not_isExportKey (by decide) _) (by decide)
      (fun h => absurd h (by decide)) _ _ _

theorem outlineAt_appendComments (t : Tree) (comments : List Tree) (kind key : String) (isItem : Bool) :
    outlineAt kind key isItem (t.appendComments comments) = outlineAt kind key isItem t := by
  rw [appendComments]
  split
  · rfl
  · exact outlineAt_set_of_not_isExportKey (not_isExportKey (by decide) _) (by decide)
      (fun h => absurd h (by decide)) _ _ _

theorem isObj_withCommentsOf (t other : Tree) : (t.withCommentsOf other).isObj = t.isObj := by
  simp only [withCommentsOf, withCommentsAt]
  repeat' split
  all_goals simp

theorem kind_withCommentsOf (t other : Tree) : (t.withCommentsOf other).kind = t.kind := by
  simp only [withCommentsOf, withCommentsAt]
  repeat' split
  all_goals simp [kind_set]

theorem statementOutline_changeAt {change : Tree → Tree}
    (h : ∀ t, outlineAt "Program" "body" true (change t) = outlineAt "Program" "body" true t)
    (i : Nat) (body : List Tree) : statementOutline (changeAt change i body) = statementOutline body := by
  induction body generalizing i with
  | nil => cases i <;> rfl
  | cons t rest ih =>
    cases i with
    | zero => rw [changeAt, statementOutline, List.flatMap_cons, h]; rfl
    | succ i =>
      rw [changeAt, statementOutline, List.flatMap_cons, ← statementOutline, ih]
      rfl

theorem statementOutline_eraseIdx {body : List Tree} {i : Nat} {t : Tree} (hi : body[i]? = some t)
    (ht : outlineAt "Program" "body" true t = []) :
    statementOutline (body.eraseIdx i) = statementOutline body := by
  induction body generalizing i with
  | nil => rfl
  | cons u rest ih =>
    cases i with
    | zero =>
      cases hi
      rw [List.eraseIdx_cons_zero, statementOutline, statementOutline, List.flatMap_cons, ht, List.nil_append]
    | succ i =>
      rw [List.eraseIdx_cons_succ, statementOutline, List.flatMap_cons, ← statementOutline, ih hi]
      rfl

/-- **Taking out a statement that is no export keeps the outline**, its comments notwithstanding. -/
theorem statementOutline_removeStatement {body : List Tree} {i : Nat} {t : Tree} (hi : body[i]? = some t)
    (ht : outlineAt "Program" "body" true t = []) :
    statementOutline (removeStatement body i) = statementOutline body := by
  have herase := statementOutline_eraseIdx hi ht
  rw [removeStatement, hi]
  dsimp only
  split
  · rw [statementOutline_changeAt (fun u => outlineAt_prependComments u _ _ _ _), herase]
  · split
    · rw [statementOutline_changeAt (fun u => outlineAt_appendComments u _ _ _ _), herase]
    · exact herase

/-- Putting a statement that is no export behind others keeps the outline. -/
theorem statementOutline_insertAfter {new : Tree} (h : outlineAt "Program" "body" true new = [])
    (follows : Tree → Bool) (body : List Tree) :
    statementOutline (body.flatMap fun t => if follows t then [t, new] else [t]) = statementOutline body := by
  rw [statementOutline, List.flatMap_assoc]
  refine List.flatMap_congr fun t _ => ?_
  split
  · rw [List.flatMap_cons, List.flatMap_singleton, h, List.append_nil]
  · rw [List.flatMap_singleton]

/-- What has a label that is not on the outline may be taken out. -/
theorem statementOutline_eraseP {o : List Passed} {body : List Tree} (hbody : statementOutline body ⊆ o)
    {label : Nat} (hoff : Off o label) :
    statementOutline (body.eraseP (·.label == label)) = statementOutline body := by
  induction body with
  | nil => rfl
  | cons t rest ih =>
    rw [statementOutline, List.flatMap_cons] at hbody
    obtain ⟨ht, hrest⟩ := List.append_subset.mp hbody
    rw [List.eraseP_cons]
    cases hl : t.label == label with
    | false =>
      rw [cond_false, statementOutline, List.flatMap_cons, ← statementOutline, ih hrest]
      rfl
    | true =>
      have hnone : outlineAt "Program" "body" true t = [] := by
        cases t with
        | list items => exact outlineAt_list_item items
        | obj l fields =>
          rw [outlineAt_of_isObj rfl] at ht ⊢
          split at ht
          · exact absurd (beq_iff_eq.mp hl) (hoff _ (ht List.mem_cons_self))
          · rw [if_neg ‹_›]
        | _ => rfl
      rw [cond_true, statementOutline, statementOutline, List.flatMap_cons, hnone, List.nil_append]

/-! ### How often labels occur -/

section Labels

variable {l : Nat}

/-- A field that is set takes the place of what it held. -/
theorem count_labels_set_add {t : Tree} (h : t.isObj = true) (key : String) (value : Tree) :
    (t.set key value).labels.count l + (t.get key).labels.count l =
      t.labels.count l + value.labels.count l := by
  cases t with
  | obj l' fields =>
    have hput := count_labelsFields_putKey fields key value l
    rw [set, get, get?_obj, labels, labels, List.count_cons, List.count_cons]
    omega
  | _ => cases h

/-- The labels of several fields are among those of the record, beside its own. -/
theorem count_labels_get_of_nodup {t : Tree} (ht : t.isObj = true) (keys : List String) (h : keys.Nodup) :
    (if t.label = l then 1 else 0) + (keys.flatMap fun key => (t.get key).labels).count l ≤
      t.labels.count l := by
  induction keys generalizing t with
  | nil =>
    have hself := mem_labels_self ht
    split
    · rename_i hl
      exact List.count_pos_iff.mpr (hl ▸ hself)
    · exact Nat.zero_le _
  | cons key rest ih =>
    -- what the key holds is taken away, and the other keys do not notice
    rw [List.nodup_cons] at h
    have hrest := ih ((isObj_set t key .null).trans ht) h.2
    have hset := count_labels_set_add (l := l) ht key .null
    have hsame (k : String) (hk : k ∈ rest) : ((t.set key .null).get k).labels = (t.get k).labels := by
      have hne : k ≠ key := fun he => h.1 (he ▸ hk)
      rw [get, get?_set ht, if_neg hne, get]
    rw [label_set, List.flatMap_def, List.map_congr_left hsame, ← List.flatMap_def] at hrest
    rw [labels_of_isLeaf (t := .null) rfl, List.count_nil] at hset
    rw [List.flatMap_cons, List.count_append]
    omega

/-- The labels of a field are among those of the record, beside its own. -/
theorem count_labels_get {t : Tree} (ht : t.isObj = true) (key : String) :
    (if t.label = l then 1 else 0) + (t.get key).labels.count l ≤ t.labels.count l := by
  have hone := count_labels_get_of_nodup (l := l) ht [key] (List.nodup_singleton key)
  rwa [List.flatMap_singleton] at hone

/-- The labels of two fields are among those of the record. -/
theorem count_labels_get_two (t : Tree) {key key' : String} (h : key ≠ key') :
    (t.get key).labels.count l + (t.get key').labels.count l ≤ t.labels.count l := by
  by_cases ht : t.isObj = true
  · have htwo := count_labels_get_of_nodup (l := l) ht [key, key'] (by simpa using h)
    simp only [List.flatMap_cons, List.flatMap_nil, List.count_append, List.count_nil] at htwo
    omega
  · cases t <;> first | exact Nat.zero_le _ | exact absurd rfl ht

theorem count_labels_items (t : Tree) : (t.items.flatMap labels).count l ≤ t.labels.count l := by
  cases t with
  | list items => rw [labels_list]; exact Nat.le_refl _
  | _ => exact Nat.zero_le _

theorem count_labels_comments (t : Tree) : (t.comments.flatMap labels).count l ≤ t.labels.count l := by
  rw [comments, List.flatMap_append, List.count_append]
  have hleading := count_labels_items (l := l) (t.get "leadingComments")
  have htrailing := count_labels_items (l := l) (t.get "trailingComments")
  have htwo := t.count_labels_get_two (l := l) (show "leadingComments" ≠ "trailingComments" by decide)
  rw [leadingComments, trailingComments]
  omega

/-- A list that is made longer gets the labels of what is added. -/
theorem count_labels_set_list (t : Tree) (key : String) {items added : List Tree}
    (h : (items.flatMap labels).count l =
      ((t.get key).items.flatMap labels).count l + (added.flatMap labels).count l) :
    (t.set key (.list items)).labels.count l ≤ t.labels.count l + (added.flatMap labels).count l := by
  cases t with
  | obj l' fields =>
    have hput := count_labelsFields_putKey fields key (.list items) l
    have hitems := count_labels_items (l := l) ((obj l' fields).get key)
    rw [labels_list] at hput
    rw [get, get?_obj] at h hitems
    rw [set, labels, labels, List.count_cons, List.count_cons]
    omega
  | _ => exact Nat.le_add_right _ _

theorem count_labels_prependComments (t : Tree) (comments : List Tree) :
    (t.prependComments comments).labels.count l ≤ t.labels.count l + (comments.flatMap labels).count l := by
  rw [prependComments]
  split
  · exact Nat.le_add_right _ _
  · refine t.count_labels_set_list _ ?_
    rw [List.flatMap_append, List.count_append, leadingComments, Nat.add_comm]

theorem count_labels_appendComments (t : Tree) (comments : List Tree) :
    (t.appendComments comments).labels.count l ≤ t.labels.count l + (comments.flatMap labels).count l := by
  rw [appendComments]
  split
  · exact Nat.le_add_right _ _
  · refine t.count_labels_set_list _ ?_
    rw [List.flatMap_append, List.count_append, trailingComments]

theorem count_labels_changeAt {change : Tree → Tree} {n : Nat}
    (h : ∀ t, (change t).labels.count l ≤ t.labels.count l + n) (i : Nat) (body : List Tree) :
    ((changeAt change i body).flatMap labels).count l ≤ (body.flatMap labels).count l + n := by
  induction body generalizing i with
  | nil => cases i <;> exact Nat.le_add_right _ _
  | cons t rest ih =>
    cases i with
    | zero =>
      have ht := h t
      rw [changeAt, List.flatMap_cons, List.flatMap_cons, List.count_append, List.count_append]
      omega
    | succ i =>
      have hrest := ih i
      rw [changeAt, List.flatMap_cons, List.flatMap_cons, List.count_append, List.count_append]
      omega

theorem count_labels_eraseIdx {body : List Tree} {i : Nat} {t : Tree} (hi : body[i]? = some t) :
    ((body.eraseIdx i).flatMap labels).count l + t.labels.count l = (body.flatMap labels).count l := by
  induction body generalizing i with
  | nil => cases hi
  | cons u rest ih =>
    cases i with
    | zero =>
      cases hi
      rw [List.eraseIdx_cons_zero, List.flatMap_cons, List.count_append, Nat.add_comm]
    | succ i =>
      have hrest := ih hi
      rw [List.eraseIdx_cons_succ, List.flatMap_cons, List.flatMap_cons, List.count_append,
        List.count_append]
      omega

theorem count_labels_sublist {items items' : List Tree} (h : items.Sublist items') :
    (items.flatMap labels).count l ≤ (items'.flatMap labels).count l := by
  induction h with
  | slnil => exact Nat.le_refl _
  | cons t _ ih =>
    rw [List.flatMap_cons, List.count_append]
    exact Nat.le_trans ih (Nat.le_add_left _ _)
  | cons_cons t _ ih =>
    rw [List.flatMap_cons, List.flatMap_cons, List.count_append, List.count_append]
    exact Nat.add_le_add_left ih _

theorem count_labels_insertAfter {new : Tree} (h : new.labels.count l = 0) (follows : Tree → Bool)
    (body : List Tree) : ((body.flatMap fun t => if follows t then [t, new] else [t]).flatMap labels).count l =
      (body.flatMap labels).count l := by
  induction body with
  | nil => rfl
  | cons t rest ih =>
    rw [List.flatMap_cons, List.flatMap_append, List.count_append, ih, List.flatMap_cons, List.count_append]
    split
    · rw [List.flatMap_cons, List.flatMap_singleton, List.count_append, h, Nat.add_zero]
    · rw [List.flatMap_singleton]

/-- What taking out a statement leaves of the labels: those of the statement go, but for its comments. -/
theorem count_labels_removeStatement_add {body : List Tree} {i : Nat} {t : Tree} (hi : body[i]? = some t) :
    ((removeStatement body i).flatMap labels).count l + t.labels.count l ≤
      (body.flatMap labels).count l + (t.comments.flatMap labels).count l := by
  have herase := count_labels_eraseIdx (l := l) hi
  rw [removeStatement, hi]
  dsimp only
  split
  · have hchange := count_labels_changeAt (fun u => u.count_labels_prependComments (l := l) t.comments) i
      (body.eraseIdx i)
    omega
  · split
    · have hchange := count_labels_changeAt (fun u => u.count_labels_appendComments (l := l) t.comments)
        (i - 1) (body.eraseIdx i)
      omega
    · omega

theorem map_changeAt {α β : Type} {change : α → α} {f : α → β} (h : ∀ a, f (change a) = f a) (i : Nat)
    (body : List α) : (changeAt change i body).map f = body.map f := by
  induction body generalizing i with
  | nil => cases i <;> rfl
  | cons a rest ih =>
    cases i with
    | zero => rw [changeAt, List.map_cons, List.map_cons, h]
    | succ i => rw [changeAt, List.map_cons, List.map_cons, ih]

theorem label_prependComments (t : Tree) (comments : List Tree) :
    (t.prependComments comments).label = t.label := by
  rw [prependComments]
  split
  · rfl
  · exact label_set t _ _

theorem label_appendComments (t : Tree) (comments : List Tree) :
    (t.appendComments comments).label = t.label := by
  rw [appendComments]
  split
  · rfl
  · exact label_set t _ _

/-- **The other statements stay as they are**, for what does not look at comments. -/
theorem map_removeStatement {α : Type} {f : Tree → α} (hprepend : ∀ t comments, f (prependComments t comments) = f t)
    (happend : ∀ t comments, f (appendComments t comments) = f t) (body : List Tree) (i : Nat) :
    (removeStatement body i).map f = (body.map f).eraseIdx i := by
  rw [removeStatement]
  cases hi : body[i]? with
  | none =>
    have hle : (body.map f).length ≤ i := by
      rw [List.length_map]
      exact List.getElem?_eq_none_iff.mp hi
    exact (List.eraseIdx_of_length_le hle).symm
  | some t =>
    dsimp only
    rw [List.eraseIdx_map]
    split
    · exact map_changeAt (fun u => hprepend u _) _ _
    · split
      · exact map_changeAt (fun u => happend u _) _ _
      · rfl

/-- The other statements keep their order. -/
theorem map_label_removeStatement (body : List Tree) (i : Nat) :
    (removeStatement body i).map label = (body.map label).eraseIdx i :=
  map_removeStatement label_prependComments label_appendComments body i

/-- **Taking out a statement makes no label more frequent.** -/
theorem count_labels_removeStatement (body : List Tree) (i : Nat) :
    ((removeStatement body i).flatMap labels).count l ≤ (body.flatMap labels).count l := by
  cases hi : body[i]? with
  | none => exact Nat.le_of_eq (by rw [removeStatement, hi])
  | some t =>
    have hremoved := count_labels_removeStatement_add (l := l) hi
    have hcomments := t.count_labels_comments (l := l)
    omega

end Labels

end Tree

namespace Document.Outlined

variable {o : List Passed} {d : Document} {owner : Nat} {key : String}

/-- What a label stands for has no kind of names, so the label is not on the outline. -/
theorem off_of_isKind (h : d.Outlined o) (hnamed : ∀ p ∈ o, isNamingKind p.kind = true) {label : Nat}
    {kind : String} (hget : (d.get label).isKind kind = true) (hkind : isNamingKind kind = false) :
    Off o label := by
  obtain ⟨hobj, rfl⟩ := Tree.kind_of_isKind hget
  rw [Document.get] at hobj hkind
  cases hr : d.find? label with
  | none =>
    rw [hr] at hobj
    cases hobj
  | some r =>
    rw [hr] at hkind
    exact h.off_of_find? hnamed hr hkind

/-- **A statement that is no export is apart from the outline.** -/
theorem apart_of_mem_listAt (h : d.Outlined o) {t : Tree} (ht : t ∈ d.listAt owner key)
    (hobj : t.isObj = true) (hkey : key = "body" ∨ key = "consequent")
    (hnot : leadsTo "Program" "body" true t.kind = false) : t.Apart o := by
  rw [listAt, Document.get] at ht
  cases hr : d.find? owner with
  | none =>
    rw [hr] at ht
    cases ht
  | some r =>
    rw [hr, Option.getD_some] at ht
    obtain ⟨-, -, hmem | hapart⟩ := h.exists_of_find? hr
    · -- the field that holds the list
      obtain ⟨items, hf, hitem⟩ : ∃ items, (key, Tree.list items) ∈ r.fields ∧ t ∈ items := by
        rw [Tree.get, Tree.get?] at ht
        cases hl : r.fields.lookup key with
        | none =>
          rw [hl] at ht
          cases ht
        | some value =>
          rw [hl, Option.getD_some] at ht
          cases value with
          | list items => exact ⟨items, mem_of_lookup hl, ht⟩
          | _ => cases ht
      have htmem : t ∈ d.root.records := by
        refine Tree.records_subset_of_mem_records hmem (Tree.records_subset_of_mem_fields hf ?_)
        rw [Tree.records, Tree.recordsItems_eq]
        exact List.mem_flatMap.mpr ⟨t, hitem, Tree.mem_records_self hobj⟩
      refine h.apart_of_mem_records htmem hobj fun p hp heq => ?_
      have hpassed : t.label ∈ (Tree.outlineAt "" "" false d.root).map Passed.label := by
        rw [show Tree.outlineAt "" "" false d.root = o from h.outline]
        exact List.mem_map.mpr ⟨p, hp, heq⟩
      have hleads := Tree.leadsTo_of_mem_items hmem hf hitem hobj (heq ▸ h.once p hp) hpassed
      obtain ⟨hkind, rfl⟩ := Tree.kind_eq_program hkey (isExportKey_of_leadsTo hleads)
      rw [hkind, hnot] at hleads
      cases hleads
    · exact (hapart.get key).of_mem_items ht

end Document.Outlined

end Deminify
