import Deminify.Proofs.Printer.Whole
import Deminify.Proofs.Program

/-!
# The comments of a program that has been read

A comment is given to a node next to it, whatever that node is: to the one that starts behind it, to
the one that ends in front of it, or to the program. So **every comment is carried by some node**
(`Deminify.Program.exists_carries_of_read`). Whether it is printed depends on that node alone:
**a comment that is carried where the printer looks for comments is printed**, with its delimiters and
in one piece (`Deminify.Program.comments_printed`). Where it does not look for them
(`Deminify.Printer.Shown` says where it does), comments are lost.
-/

namespace Deminify

theorem mem_putKey_of_ne {α : Type} {fields : List (String × α)} {f : String × α} {key : String} {value : α}
    (h : f ∈ fields) (hne : f.1 ≠ key) : f ∈ putKey fields key value := by
  induction fields with
  | nil => cases h
  | cons g rest ih =>
    rw [putKey]
    rcases List.mem_cons.mp h with rfl | h
    · rw [if_neg hne]
      exact List.mem_cons_self
    · split
      · exact List.mem_cons_of_mem _ h
      · exact List.mem_cons_of_mem _ (ih h)

namespace Tree

/-! ### Nodes stay below their parents -/

/-- What relates two nodes and, below them, each child of the one to a child of the other, relates each
node below the one to a node below the other. -/
theorem exists_mem_subtree {R : Tree → Tree → Prop}
    (hR : ∀ {t u}, R t u → ∀ c ∈ t.children, ∃ d ∈ u.children, R c d) {t u n : Tree} (h : R t u)
    (hn : n ∈ t.subtree) : ∃ m ∈ u.subtree, R n m := by
  induction hh : t.height using Nat.strongRecOn generalizing t u with
  | _ k ih =>
    subst hh
    rcases mem_subtree.mp hn with rfl | ⟨c, hc, hm⟩
    · exact ⟨u, mem_subtree_self u, h⟩
    · obtain ⟨d, hd, hcd⟩ := hR h c hc
      obtain ⟨m, hm, hnm⟩ := ih _ (height_lt_of_mem_children hc) hcd hm rfl
      exact ⟨m, subtree_subset_of_mem_children hd hm, hnm⟩

/-- Below a record there are only records. -/
theorem isObj_below {t n : Tree} (ht : t.isObj = true) (hn : n ∈ t.subtree) : n.isObj = true := by
  obtain ⟨m, -, -, hm⟩ := exists_mem_subtree (R := fun t u => t = u ∧ t.isObj = true)
    (fun {t u} h c hc => ⟨c, h.1 ▸ hc, rfl, isObj_of_isNode (mem_children.mp hc).1⟩) ⟨rfl, ht⟩ hn
  exact hm

theorem isNode_congr {t u : Tree} (h : t.core = u.core) : t.isNode = u.isNode := by
  rw [← isNode_core, h, isNode_core]

section Number

variable {key : String}

theorem mem_numberItems {u : Tree} {items : List Tree} (h : u ∈ items) (next : Nat) :
    ∃ k, (u.number k).1 ∈ (numberItems next items).1 := by
  induction items generalizing next with
  | nil => cases h
  | cons t rest ih =>
    rw [numberItems]
    rcases List.mem_cons.mp h with rfl | h
    · exact ⟨next, List.mem_cons_self⟩
    · obtain ⟨k, hk⟩ := ih h (t.number next).2
      exact ⟨k, List.mem_cons_of_mem _ hk⟩

theorem mem_numberFields {value : Tree} {fields : List (String × Tree)} (h : (key, value) ∈ fields)
    (next : Nat) : ∃ k, (key, (value.number k).1) ∈ (numberFields next fields).1 := by
  induction fields generalizing next with
  | nil => cases h
  | cons f rest ih =>
    rw [numberFields]
    rcases List.mem_cons.mp h with rfl | h
    · exact ⟨next, List.mem_cons_self⟩
    · obtain ⟨k, hk⟩ := ih h (f.2.number next).2
      exact ⟨k, List.mem_cons_of_mem _ hk⟩

theorem lookup_numberFields (fields : List (String × Tree)) (next : Nat) :
    ∃ k, (numberFields next fields).1.lookup key = (fields.lookup key).map fun v => (v.number k).1 := by
  induction fields generalizing next with
  | nil => exact ⟨0, rfl⟩
  | cons f rest ih =>
    obtain ⟨name, value⟩ := f
    obtain ⟨k, hk⟩ := ih (value.number next).2
    rw [numberFields]
    simp only [lookup_cons_ite]
    split
    · exact ⟨next, rfl⟩
    · exact ⟨k, hk⟩

theorem fields_number (t : Tree) (next : Nat) :
    ∃ k, (t.number next).1.fields = (numberFields k t.fields).1 := by
  cases t with
  | obj label fields =>
    cases label with
    | zero => exact ⟨next + 1, rfl⟩
    | succ label => exact ⟨next, rfl⟩
  | _ => exact ⟨0, rfl⟩

theorem items_number (t : Tree) (next : Nat) : (t.number next).1.items = (numberItems next t.items).1 := by
  cases t with
  | obj label fields => cases label <;> rfl
  | _ => rfl

/-- A numbered node has the children that it had, numbered. -/
theorem mem_children_number {t c : Tree} (h : c ∈ t.children) (next : Nat) :
    ∃ k, (c.number k).1 ∈ (t.number next).1.children := by
  obtain ⟨hn, key, value, hf, hk, hc⟩ := mem_children.mp h
  obtain ⟨k, hfields⟩ := fields_number t next
  obtain ⟨j, hj⟩ := mem_numberFields hf k
  have hnode (i : Nat) : (c.number i).1.isNode = true := (isNode_congr (core_number c i)).trans hn
  rcases hc with rfl | hc
  · exact ⟨j, mem_children.mpr ⟨hnode j, key, _, hfields ▸ hj, hk, .inl rfl⟩⟩
  · obtain ⟨i, hi⟩ := mem_numberItems hc j
    exact ⟨i, mem_children.mpr ⟨hnode i, key, _, hfields ▸ hj, hk, .inr (items_number value j ▸ hi)⟩⟩

/-- A field of a numbered node is the one that it had, numbered. -/
theorem get_number (t : Tree) (key : String) (next : Nat) :
    ∃ k, (t.number next).1.get key = ((t.get key).number k).1 := by
  obtain ⟨k, hfields⟩ := fields_number t next
  obtain ⟨j, hj⟩ := lookup_numberFields t.fields k
  refine ⟨j, ?_⟩
  rw [get, get, get?, get?, hfields, hj]
  cases t.fields.lookup key <;> rfl

/-- Items are labelled one by one. -/
theorem mem_items_number {t u : Tree} (h : u ∈ (t.get key).items) (next : Nat) :
    ∃ k, (u.number k).1 ∈ ((t.number next).1.get key).items := by
  obtain ⟨k, hk⟩ := get_number t key next
  rw [hk, items_number]
  exact mem_numberItems h k

theorem str?_number (t : Tree) (next : Nat) : (t.number next).1.str? = t.str? := by
  rw [← str?_core, core_number, str?_core]

/-- New labels change no kinds. -/
theorem kind_number (t : Tree) (next : Nat) : (t.number next).1.kind = t.kind := by
  rw [← kind_core, core_number, kind_core]

end Number

/-- Where the records are changed and their children are not, a node has the children that it had, changed. -/
theorem mem_children_mapObjs {change : Tree → Tree}
    (hcore : ∀ label fields, (change (.obj label fields)).core = (obj label fields).core)
    (hfields : ∀ label fields, ∀ f ∈ fields, holdsChildren f.1 = true →
      f ∈ (change (.obj label fields)).fields)
    {t c : Tree} (h : c ∈ t.children) : c.mapObjs change ∈ (t.mapObjs change).children := by
  obtain ⟨hn, key, value, hf, hk, hc⟩ := mem_children.mp h
  have hnode : (c.mapObjs change).isNode = true := (isNode_congr (core_mapObjs hcore c)).trans hn
  cases t with
  | obj label fields =>
    have hmem : (key, value.mapObjs change) ∈ ((obj label fields).mapObjs change).fields := by
      rw [mapObjs, mapObjsFields_eq]
      exact hfields label _ _ (List.mem_map_of_mem hf) hk
    refine mem_children.mpr ⟨hnode, key, _, hmem, hk, hc.imp (congrArg _) fun hc => ?_⟩
    cases value with
    | list items =>
      rw [mapObjs, mapObjsItems_eq]
      exact List.mem_map_of_mem hc
    | _ => cases hc
  | _ => cases hf

end Tree

/-- A comment with its delimiters. -/
def Comment.text (comment : Comment) : String :=
  if comment.block then "/*" ++ comment.value ++ "*/" else "//" ++ comment.value

namespace Program

/-! ### What takes a comment -/

section Candidates

variable {parent : Option (Option (Nat × Nat))} {flag : Bool} {rest : List Candidate} {c : Candidate}

theorem mem_candidatesInFields {fields : List (String × Tree)}
    (hvalue : ∀ f ∈ fields, ∀ rest, c ∈ candidatesInValue parent flag f.2 rest →
      c ∈ rest ∨ ∃ n ∈ Tree.subtreeValue f.2, n.label = c.label)
    (h : c ∈ candidatesInFields parent flag fields rest) :
    c ∈ rest ∨ ∃ n ∈ Tree.subtreeFields fields, n.label = c.label := by
  induction fields generalizing rest with
  | nil => exact .inl h
  | cons f more ih =>
    obtain ⟨key, value⟩ := f
    rw [candidatesInFields] at h
    rw [Tree.subtreeFields]
    rcases ih (fun f hf => hvalue f (List.mem_cons_of_mem _ hf)) h with h | ⟨n, hn, hl⟩
    · split at h
      · rename_i hk
        rcases hvalue _ List.mem_cons_self _ h with h | ⟨n, hn, hl⟩
        · exact .inl h
        · exact .inr ⟨n, List.mem_append_left _ (by rwa [if_pos hk]), hl⟩
      · exact .inl h
    · exact .inr ⟨n, List.mem_append_right _ hn, hl⟩

theorem mem_candidatesInItems {items : List Tree}
    (hitem : ∀ t ∈ items, ∀ rest, c ∈ candidatesIn parent flag t rest →
      c ∈ rest ∨ ∃ n ∈ Tree.subtreeItem t, n.label = c.label)
    (h : c ∈ candidatesInItems parent flag items rest) :
    c ∈ rest ∨ ∃ n ∈ Tree.subtreeItems items, n.label = c.label := by
  induction items generalizing rest with
  | nil => exact .inl h
  | cons t more ih =>
    rw [candidatesInItems] at h
    rw [Tree.subtreeItems]
    rcases ih (fun t ht => hitem t (List.mem_cons_of_mem _ ht)) h with h | ⟨n, hn, hl⟩
    · rcases hitem t List.mem_cons_self _ h with h | ⟨n, hn, hl⟩
      · exact .inl h
      · exact .inr ⟨n, List.mem_append_left _ hn, hl⟩
    · exact .inr ⟨n, List.mem_append_right _ hn, hl⟩

/-- A candidate is a node of the value, or of the item, in which it was found. -/
theorem mem_candidatesInValue (t : Tree) :
    (c ∈ candidatesInValue parent flag t rest →
      c ∈ rest ∨ ∃ n ∈ Tree.subtreeValue t, n.label = c.label) ∧
    (c ∈ candidatesIn parent flag t rest →
      c ∈ rest ∨ ∃ n ∈ Tree.subtreeItem t, n.label = c.label) := by
  induction t using Tree.induction generalizing parent flag rest with
  | leaf t ht => cases t <;> first | exact ⟨.inl, .inl⟩ | simp [Tree.isLeaf] at ht
  | list items ih =>
    refine ⟨fun h => ?_, .inl⟩
    rw [candidatesInValue] at h
    rw [Tree.subtreeValue]
    exact mem_candidatesInItems (fun t ht _ => (ih t ht).2) h
  | obj label fields ih =>
    have below {parent flag} (h : c ∈ candidatesInFields parent flag fields rest) :
        c ∈ rest ∨ ∃ n ∈ Tree.obj label fields :: Tree.subtreeFields fields, n.label = c.label := by
      rcases mem_candidatesInFields (fun f hf _ => (ih f hf).1) h with h | ⟨n, hn, hl⟩
      · exact .inl h
      · exact .inr ⟨n, List.mem_cons_of_mem _ hn, hl⟩
    rw [candidatesInValue, candidatesIn, Tree.subtreeValue, Tree.subtreeItem]
    constructor
    all_goals
      intro h
      dsimp only at h
      split at h
      · rename_i hn
        rw [if_pos hn]
        split at h
        · rcases List.mem_cons.mp h with rfl | h
          · exact .inr ⟨_, List.mem_cons_self, rfl⟩
          · exact below h
        · exact below h
      · exact .inl h

end Candidates

/-- A candidate is a node of the program. -/
theorem exists_of_mem_candidates {t : Tree} {c : Candidate} (h : c ∈ candidates t) :
    ∃ n ∈ t.subtree, n.label = c.label := by
  obtain h | ⟨n, hn, hl⟩ := mem_candidatesInFields (fun f _ _ => (mem_candidatesInValue f.2).1) h
  · cases h
  · exact ⟨n, List.mem_cons_of_mem _ hn, hl⟩

/-- A node in front of which a comment stands has been found. -/
theorem mem_of_following {found : List Candidate} {comment : Comment} {c : Candidate}
    (h : (Neighbours.of found).following comment = some c) : c ∈ found := by
  obtain ⟨h, -⟩ := Option.filter_eq_some_iff.mp h
  simpa [Neighbours.of] using Array.mem_of_getElem? h

/-- A node behind which a comment stands has been found. -/
theorem mem_of_preceding {found : List Candidate} {comment : Comment} {c : Candidate}
    (h : (Neighbours.of found).preceding comment = some c) : c ∈ found := by
  rw [Neighbours.preceding] at h
  split at h
  · cases h
  · obtain ⟨h, -⟩ := Option.filter_eq_some_iff.mp h
    simpa [Neighbours.of] using Array.mem_of_getElem? h

/-- **What takes a comment is a node of the program.** -/
theorem exists_takerOf (source : Source) (t : Tree) (comment : Comment) :
    ∃ n ∈ t.subtree, n.label = (takerOf source t.label (Neighbours.of (candidates t)) comment).1 := by
  rw [takerOf]
  split
  · rename_i p following hp
    have htaken := exists_of_mem_candidates (mem_of_preceding hp)
    split
    · exact htaken
    · split
      · rename_i f hf
        exact exists_of_mem_candidates (mem_of_following hf)
      · exact htaken
  · rename_i f hp hf
    exact exists_of_mem_candidates (mem_of_following hf)
  · exact ⟨t, Tree.mem_subtree_self t, rfl⟩

/-! ### Comments that have been taken -/

/-- Whether a value is a comment as plain data: its kind, its text and its place. -/
def isTreeOf (comment : Comment) (u : Tree) : Bool :=
  u.kind == (if comment.block then "Block" else "Line") && (u.get "value").str? == some comment.value
    && Printer.rangeOf? u == some ((comment.start : Int), (comment.stop : Int))

/-- Whether a node carries a comment under a key. -/
def Carries (t : Tree) (key : String) (comment : Comment) : Prop :=
  ∃ u ∈ (t.get key).items, isTreeOf comment u = true

theorem isTreeOf_commentTree (comment : Comment) : isTreeOf comment (commentTree comment) = true := by
  simp [isTreeOf, commentTree, Printer.rangeOf?, Tree.kind, Tree.get, Tree.get?, Tree.fields, Tree.str?,
    List.lookup]

/-- New labels move nothing. -/
theorem rangeOf?_number {u : Tree} {place : Int × Int} (h : Printer.rangeOf? u = some place) (next : Nat) :
    Printer.rangeOf? (u.number next).1 = some place := by
  obtain ⟨k, hk⟩ := Tree.get_number u "range" next
  rw [Printer.rangeOf?] at h
  split at h
  · rename_i hv
    rw [Printer.rangeOf?, hk, hv]
    exact h
  · cases h

/-- A comment stays what it is when it gets a label. -/
theorem isTreeOf_number {comment : Comment} {u : Tree} (h : isTreeOf comment u = true) (next : Nat) :
    isTreeOf comment (u.number next).1 = true := by
  obtain ⟨k, hk⟩ := Tree.get_number u "value" next
  rw [isTreeOf, Bool.and_eq_true, beq_iff_eq] at h ⊢
  rw [Tree.kind_number, hk, Tree.str?_number]
  exact ⟨h.1, rangeOf?_number h.2 next⟩

/-- A node carries the comment that is added to it. -/
theorem carries_addComment {t : Tree} (h : t.isObj = true) (key : String) (comment : Comment) :
    Carries (addComment t key comment) key comment := by
  refine ⟨commentTree comment, ?_, isTreeOf_commentTree comment⟩
  rw [addComment, Tree.get_of_get? (by rw [Tree.get?_set h, if_pos rfl])]
  simp [Tree.items]

/-- A node still carries a comment when others are added. -/
theorem Carries.addComment {t : Tree} {key : String} {comment : Comment} (h : Carries t key comment)
    (key' : String) (comment' : Comment) : Carries (addComment t key' comment') key comment := by
  obtain ⟨u, hu, he⟩ := h
  refine ⟨u, ?_, he⟩
  cases ht : t.isObj with
  | false =>
    rw [Program.addComment]
    cases t <;> first | exact hu | cases ht
  | true =>
    rw [Program.addComment, Tree.get, Tree.get?_set ht]
    split
    · rename_i hk
      subst hk
      exact List.mem_append_left _ hu
    · exact hu

/-- The comments that are added to a node are carried by it. -/
theorem carries_of_mem {key : String} {comment : Comment} {entries : List (String × Comment)} {t : Tree}
    (ht : t.isObj = true) (h : (key, comment) ∈ entries ∨ Carries t key comment) :
    Carries (entries.foldl (fun node e => addComment node e.1 e.2) t) key comment := by
  induction entries generalizing t with
  | nil => exact h.resolve_left List.not_mem_nil
  | cons e rest ih =>
    rw [List.foldl_cons]
    have ht' : (addComment t e.1 e.2).isObj = true := by rw [addComment, Tree.isObj_set, ht]
    refine ih ht' ?_
    rcases h with h | h
    · rcases List.mem_cons.mp h with rfl | h
      · exact .inr (carries_addComment ht _ _)
      · exact .inl h
    · exact .inr (h.addComment _ _)

/-- Each comment is handed to what takes it. -/
theorem mem_taken (taker : Comment → Nat × String) {comments : List Comment} {comment : Comment}
    (taken : Std.TreeMap Nat (List (String × Comment)))
    (h : comment ∈ comments ∨ ((taker comment).2, comment) ∈ taken.getD (taker comment).1 []) :
    ((taker comment).2, comment) ∈ (comments.foldl (fun taken c =>
      let (label, key) := taker c
      taken.insert label ((taken.getD label []) ++ [(key, c)])) taken).getD (taker comment).1 [] := by
  induction comments generalizing taken with
  | nil => exact h.resolve_left List.not_mem_nil
  | cons c rest ih =>
    refine ih _ ?_
    rcases h with h | h
    · rcases List.mem_cons.mp h with rfl | h
      · right
        simp
      · exact .inl h
    · right
      dsimp only
      rw [Std.TreeMap.getD_insert]
      split
      · rename_i he
        rw [Std.LawfulEqCmp.compare_eq_iff_eq.mp he]
        exact List.mem_append_left _ h
      · exact h

section Added

variable {entries : List (String × Comment)} (h : ∀ e ∈ entries, isCommentKey e.1 = true)
include h

/-- Comments do not matter to the core. -/
theorem core_addComments (t : Tree) :
    (entries.foldl (fun node e => addComment node e.1 e.2) t).core = t.core := by
  induction entries generalizing t with
  | nil => rfl
  | cons e rest ih =>
    rw [List.foldl_cons, ih fun e he => h e (List.mem_cons_of_mem _ he)]
    exact core_addComment (h e List.mem_cons_self) _

theorem mem_fields_addComments {t : Tree} {f : String × Tree} (hf : f ∈ t.fields)
    (hk : Tree.holdsChildren f.1 = true) :
    f ∈ (entries.foldl (fun node e => addComment node e.1 e.2) t).fields := by
  induction entries generalizing t with
  | nil => exact hf
  | cons e rest ih =>
    refine ih (fun e he => h e (List.mem_cons_of_mem _ he)) ?_
    have hne : f.1 ≠ e.1 := by
      rintro he
      have hshape := Tree.isShapeKey_of_holdsChildren hk
      rw [he, isShapeKey_of_isCommentKey (h e List.mem_cons_self)] at hshape
      cases hshape
    cases t with
    | obj label fields => exact mem_putKey_of_ne hf hne
    | _ => cases hf

end Added

/-- **A comment is carried by a node of the program to which it was given.** -/
theorem exists_carries_attachComments (source : Source) {t : Tree} (ht : t.isObj = true)
    {comments : List Comment} {comment : Comment} (h : comment ∈ comments) :
    ∃ n ∈ (attachComments source t comments).subtree, ∃ key,
      isCommentKey key = true ∧ Carries n key comment := by
  let taker := takerOf source t.label (Neighbours.of (candidates t))
  have hne : comments.isEmpty = false := by
    cases comments with
    | nil => cases h
    | cons c rest => rfl
  obtain ⟨n, hn, hl⟩ := exists_takerOf source t comment
  have hobj : n.isObj = true := Tree.isObj_below ht hn
  have hmem := mem_taken taker {} (.inl h)
  rw [attachComments, hne, if_neg Bool.false_ne_true]
  dsimp only
  have hkeys := isCommentKey_of_mem_taken source t.label (Neighbours.of (candidates t)) comments {} (by simp)
  generalize comments.foldl _ _ = taken at hmem hkeys ⊢
  obtain ⟨m, hm, rfl⟩ := Tree.exists_mem_subtree (R := fun t u => u = t.mapObjs fun node =>
    (taken.getD node.label []).foldl (fun node e => addComment node e.1 e.2) node)
    (fun {t u} hu c hc => hu ▸ ⟨_, Tree.mem_children_mapObjs
      (fun label fields => core_addComments (hkeys label) _)
      (fun label fields f hf hk => mem_fields_addComments (hkeys label) hf hk) hc, rfl⟩) rfl hn
  refine ⟨_, hm, (taker comment).2, isCommentKey_takerOf _ _ _ _, ?_⟩
  cases n with
  | obj label fields =>
    refine carries_of_mem rfl (.inl ?_)
    exact hl ▸ hmem
  | _ => cases hobj

/-- **Every comment of a program that has been read is carried by one of its nodes.** -/
theorem exists_carries_of_read {source : String} {p : Program} (h : read source = .ok p) {comment : Comment}
    (hc : comment ∈ p.comments) :
    ∃ n ∈ p.tree.subtree, ∃ key, isCommentKey key = true ∧ Carries n key comment := by
  obtain ⟨src, isModule, tree, hr, ht, -⟩ := exists_of_read h
  have hobj : (tree.renewed.number 1).1.isObj = true := by
    rw [← Tree.isObj_core, Tree.core_number, Tree.core_renewed, Tree.isObj_core]
    exact Tree.isObj_of_isNode (Grammar.is_of_readProgram hr).isNode
  obtain ⟨n, hn, key, hk, u, hu, he⟩ := exists_carries_attachComments src hobj hc
  rw [ht]
  obtain ⟨m, hm, k, rfl⟩ := Tree.exists_mem_subtree (R := fun t u => ∃ k, u = (t.number k).1)
    (fun {t u} hu c hc => by
      obtain ⟨k, rfl⟩ := hu
      obtain ⟨j, hj⟩ := Tree.mem_children_number hc k
      exact ⟨_, hj, j, rfl⟩) ⟨_, rfl⟩ hn
  obtain ⟨j, hj⟩ := Tree.mem_items_number hu k
  exact ⟨_, hm, key, hk, _, hj, isTreeOf_number he j⟩

/-! ### Comments that are printed -/

/-- A comment is printed as it was written. -/
theorem commentText_of_isTreeOf {comment : Comment} {u : Tree} (h : isTreeOf comment u = true) :
    Printer.commentText u = comment.text := by
  simp only [isTreeOf, Bool.and_eq_true, beq_iff_eq] at h
  obtain ⟨⟨hkind, hvalue⟩, -⟩ := h
  rw [Printer.commentText, Comment.text, hkind, hvalue]
  cases comment.block <;> rfl

theorem isBlockText_text (comment : Comment) : Printer.isBlockText comment.text = comment.block := by
  rw [Printer.isBlockText, Comment.text]
  cases comment.block <;> simp

/-- **No comment whose place is shown is lost.** Every comment of a program that has been read is carried
by one of its nodes, and each is printed, in one piece and with its delimiters, if it is carried under a
key that is shown, for comments of its sort, at a place from which the printer takes a node with its
comments. -/
theorem comments_printed {source : String} {p : Program} (h : read source = .ok p) {comment : Comment}
    (hc : comment ∈ p.comments) :
    (∃ n ∈ p.tree.subtree, ∃ key, isCommentKey key = true ∧ Carries n key comment) ∧
      ∀ from? code, p.tree.print from? = .ok code →
        (∃ n key, Printer.Shown comment.block .program p.tree n key ∧ Carries n key comment) →
          Printer.Shows code comment.text := by
  refine ⟨exists_carries_of_read h hc, fun from? code hcode ⟨n, key, hs, u, hu, he⟩ => ?_⟩
  have hkind : p.tree.kind = "Program" := beq_iff_eq.mp (is_of_read h).kinds
  rw [← isBlockText_text comment] at hs
  exact Printer.shows_print hkind hcode ⟨n, key, hs, u, hu, commentText_of_isTreeOf he⟩

/-- Something comes behind all that it may follow. -/
theorem orderedInsert_of_split {α : Type} {r : α → α → Prop} [DecidableRel r] {a : α} {l₁ l₂ : List α}
    (hfront : ∀ b ∈ l₁, ¬r a b) (hback : ∀ b ∈ l₂, r a b) :
    (l₁ ++ l₂).orderedInsert r a = l₁ ++ a :: l₂ := by
  induction l₁ with
  | nil =>
    cases l₂ with
    | nil => rfl
    | cons b rest => exact List.orderedInsert_cons_of_le r rest (hback b List.mem_cons_self)
  | cons b rest ih =>
    rw [List.cons_append, List.orderedInsert, if_neg (hfront b List.mem_cons_self),
      ih fun c hc => hfront c (List.mem_cons_of_mem _ hc)]
    rfl

/-- A stable sort puts one item after the other where it belongs. -/
theorem mergeSort_eq_insertionSort {α : Type} {le : α → α → Bool} (trans : ∀ a b c, le a b → le b c → le a c)
    (total : ∀ a b, le a b || le b a) (l : List α) :
    l.mergeSort le = l.insertionSort fun a b => le a b = true := by
  induction l with
  | nil => simp
  | cons a rest ih =>
    obtain ⟨l₁, l₂, hsplit, hrest, hfront⟩ := List.mergeSort_cons trans total a rest
    have hsorted := List.pairwise_mergeSort trans total (a :: rest)
    rw [hsplit] at hsorted
    have hback := (List.pairwise_cons.mp (List.pairwise_append.mp hsorted).2.1).1
    rw [hsplit, List.insertionSort_cons, ← ih, hrest,
      orderedInsert_of_split (fun b hb => by simpa using hfront b hb) hback]

/-- The neighbours of a comment, by a sort that can be run on a small program. -/
theorem neighbours_of_eq (found : List Candidate) : Neighbours.of found =
    let byStart := found.insertionSort fun a b =>
      a.start < b.start ∨ a.start = b.start ∧ b.stop ≤ a.stop
    let byStop := byStart.insertionSort fun a b =>
      a.stop < b.stop ∨ a.stop = b.stop ∧ b.start ≤ a.start
    ⟨byStart.toArray, byStop.toArray⟩ := by
  rw [Neighbours.of, mergeSort_eq_insertionSort (by grind) (by grind),
    mergeSort_eq_insertionSort (by grind) (by grind)]
  simp

/-- A program with comments and the text that is printed of it, if a check of the two succeeds for one of
the comments. -/
theorem exists_of_printed {source : String} {check : Program → String → Comment → Bool}
    (h : ((read source).toOption.bind fun p => (p.tree.print (some source)).toOption.map fun code =>
      p.comments.any (check p code)) = some true) :
    ∃ p comment code, read source = .ok p ∧ comment ∈ p.comments ∧ p.tree.print (some source) = .ok code ∧
      check p code comment = true := by
  obtain ⟨p, hp, h⟩ := Option.bind_eq_some_iff.mp h
  obtain ⟨code, hcode, h⟩ := Option.map_eq_some_iff.mp h
  obtain ⟨comment, hc, h⟩ := List.any_eq_true.mp h
  exact ⟨p, comment, code, eq_ok_of_toOption hp, hc, eq_ok_of_toOption hcode, h⟩

/-- A comment between two statements: the second of them carries it, and it is printed. -/
theorem comments_printed_between : ∃ p comment code,
    read "a; /* c */ b;" = .ok p ∧ comment ∈ p.comments ∧
      p.tree.print (some "a; /* c */ b;") = .ok code ∧
      (∃ n key, Printer.Shown comment.block .program p.tree n key ∧ Carries n key comment) ∧
      Printer.Shows code comment.text := by
  obtain ⟨p, comment, code, hp, hc, hcode, hcheck⟩ := @exists_of_printed "a; /* c */ b;"
    (fun p _ c => (p.tree.get "body").items.any fun t => (t.get "leadingComments").items.any (isTreeOf c))
    (by simp only [read, attachComments, neighbours_of_eq]; decide +kernel)
  obtain ⟨t, ht, hcheck⟩ := List.any_eq_true.mp hcheck
  have hshown : ∃ n key, Printer.Shown comment.block .program p.tree n key ∧ Carries n key comment :=
    ⟨t, "leadingComments", .part (List.mem_map_of_mem ht) (.here (by simp [Printer.Seat.shownKeys])),
      List.any_eq_true.mp hcheck⟩
  exact ⟨p, comment, code, hp, hc, hcode, hshown, (comments_printed hp hc).2 _ code hcode hshown⟩

/-- A comment at the end of a case: the case carries it, and it is lost. -/
theorem not_shows_comment_of_case : ∃ p comment code,
    read "switch (a) \x7b case 1: /* c */ \x7d" = .ok p ∧ comment ∈ p.comments ∧
      p.tree.print (some "switch (a) \x7b case 1: /* c */ \x7d") = .ok code ∧
      ¬Printer.Shows code comment.text := by
  obtain ⟨p, comment, code, hp, hc, hcode, hcheck⟩ := @exists_of_printed
    "switch (a) \x7b case 1: /* c */ \x7d" (fun _ code c => decide ¬Printer.Shows code c.text)
    (by simp only [read, attachComments, neighbours_of_eq]; decide +kernel)
  exact ⟨p, comment, code, hp, hc, hcode, of_decide_eq_true hcheck⟩

end Program

end Deminify
