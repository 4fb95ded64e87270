import Deminify.Proofs.DirectCall.Tidy
import Deminify.Proofs.Interface.Rules
import Deminify.Proofs.Rule.Directive
import Deminify.Proofs.Rule.Ending
import Deminify.Proofs.Tree.Mapped

/-!
# Strict directives of a program

What may start with directives is found before the first directive goes: the program, and each block that is the
body of a function (`Deminify.Rules.StrictDirective.StartsWithDirectives`). One after the other is then edited by
its label. None of them stands in the list of another, and so **the rule ends with the program in which each has
been stripped where it stands** (`Deminify.Rules.StrictDirective.foldl_edit`), whatever the order.
-/

namespace Deminify.Rules.StrictDirective

open Editing Document

variable {t n r : Tree} {l k : Nat} {S : List Nat}

/-! ### Records that are stripped -/

/-- A record without the strict directives of its body. -/
def stripBody (n : Tree) : Tree := n.set "body" (.list (strip (n.get "body").items))

/-- **A record with the statements of its body that are left**, as they were. -/
def cleanBody (n : Tree) : Tree := n.set "body" (.list (clean (n.get "body").items))

/-- A change of the records with the given labels. -/
def onOwners (S : List Nat) (change : Tree → Tree) (n : Tree) : Tree := if n.label ∈ S then change n else n

theorem slight_set_body (value : Tree → Tree) : Slight fun n => n.set "body" (value n) where
  isObj n := Tree.isObj_set n _ _
  get? n key hkey := by
    by_cases hn : n.isObj = true
    · rw [Tree.get?_set hn, if_neg]
      rcases hkey with rfl | rfl | rfl <;> decide
    · cases n <;> first | rfl | exact absurd rfl hn

theorem slight_onOwners (S : List Nat) : Slight (onOwners S stripBody) := (slight_set_body _).ite (·.label ∈ S)

theorem label_stripBody (n : Tree) : (stripBody n).label = n.label := Tree.label_set n _ _

theorem count_labels_stripBody (n : Tree) (l : Nat) : (stripBody n).labels.count l ≤ n.labels.count l := by
  refine Tree.count_labels_set ?_
  rw [Tree.labels_list]
  exact Nat.le_trans (count_labels_strip _ l) (Tree.count_labels_items _)

theorem label_onOwners (S : List Nat) (n : Tree) : (onOwners S stripBody n).label = n.label := by
  rw [onOwners]
  split
  · exact label_stripBody n
  · rfl

theorem label_mapObjs (S : List Nat) (t : Tree) : (t.mapObjs (onOwners S stripBody)).label = t.label := by
  cases t with
  | obj k fields => rw [Tree.mapObjs, label_onOwners]; rfl
  | _ => rfl

theorem count_labels_mapObjs (S : List Nat) (t : Tree) (l : Nat) :
    (t.mapObjs (onOwners S stripBody)).labels.count l ≤ t.labels.count l := by
  refine Tree.count_labels_mapObjs (fun k fields => ?_) t
  rw [onOwners]
  split
  · exact count_labels_stripBody _ l
  · exact Nat.le_refl _

/-- What is stripped has nothing left to be stripped. -/
theorem stripBody_of_stripped {body : List Tree} (h : n.get? "body" = some (.list (strip body))) : stripBody n = n := by
  rw [stripBody, Tree.get_of_get? h, Tree.items_list, strip_strip overlooks_withoutComments]
  cases n with
  | obj k fields => exact congrArg (Tree.obj k) (putKey_of_lookup h)
  | _ => rfl

theorem stripBody_stripBody (n : Tree) : stripBody (stripBody n) = stripBody n := by
  by_cases hn : n.isObj = true
  · exact stripBody_of_stripped (by rw [stripBody, Tree.get?_set hn, if_pos rfl])
  · cases n <;> first | rfl | exact absurd rfl hn

/-! ### One after the other -/

/-- The record itself is edited, and nothing below it. -/
theorem edit_of_once {change : Tree → Tree} (hn : n.isObj = true) (h : n.labels.count n.label ≤ 1) :
    n.edit n.label change = change n := by
  cases n with
  | obj l fields =>
    have hnot : l ∉ Tree.labelsFields fields := fun hm => by
      have hpos := List.count_pos_iff.mpr hm
      rw [Tree.labels, Tree.label_obj, List.count_cons_self] at h
      omega
    rw [Tree.label_obj, Tree.edit, if_pos rfl, Tree.editFields_of_not_mem hnot]
  | _ => cases hn

theorem get_body_mapObjs (S : List Nat) (fields : List (String × Tree)) (k : Nat) :
    (Tree.obj k (Tree.mapObjsFields (onOwners S stripBody) fields)).get "body" =
      ((Tree.obj k fields).get "body").mapObjs (onOwners S stripBody) := by
  rw [Tree.get, Tree.get, Tree.get?_obj, Tree.get?_obj, Tree.mapObjsFields_eq, lookup_map_snd]
  cases fields.lookup "body" <;> rfl

/-- What is stripped can be edited below its statements before or afterwards. -/
theorem edit_stripBody (hn : n.label ≠ l) (hbody : ∀ s ∈ (n.get "body").items, s.label ≠ l) :
    (stripBody n).edit l stripBody = stripBody (n.edit l stripBody) := by
  have hslight : Slight stripBody := slight_set_body _
  rw [stripBody, edit_set hn, Tree.edit, Tree.editItems_eq, ← strip_map_edit hslight hbody, ← items_edit hslight,
    ← Tree.get_edit_of_ne hn]
  rfl

/-- **To strip one more is to strip it where it stands**, though it may be inside one that has been stripped. -/
theorem edit_mapObjs (honce : t.labels.count l ≤ 1)
    (hapart : ∀ r ∈ t.records, r.label ∈ S → ∀ s ∈ (r.get "body").items, s.label ≠ l) :
    (t.mapObjs (onOwners S stripBody)).edit l stripBody = t.mapObjs (onOwners (l :: S) stripBody) := by
  induction t using Tree.induction with
  | leaf t ht =>
    rw [Tree.mapObjs_of_isLeaf ht, Tree.mapObjs_of_isLeaf ht, Tree.edit_of_not_mem (by simp [Tree.labels_of_isLeaf ht])]
  | list items ih =>
    rw [Tree.labels_list] at honce
    rw [Tree.mapObjs, Tree.mapObjs, Tree.mapObjsItems_eq, Tree.mapObjsItems_eq, Tree.edit, Tree.editItems_eq,
      List.map_map]
    refine congrArg Tree.list (List.map_congr_left fun u hu => ih u hu ?_ fun r hr => hapart r ?_)
    · exact Nat.le_trans (Tree.count_le_count_flatMap hu l) honce
    · rw [Tree.records, Tree.recordsItems_eq]
      exact List.mem_flatMap.mpr ⟨u, hu, hr⟩
  | obj k fields ih =>
    have hfields : Tree.editFields l stripBody (Tree.mapObjsFields (onOwners S stripBody) fields) =
        Tree.mapObjsFields (onOwners (l :: S) stripBody) fields := by
      rw [Tree.editFields_eq, Tree.mapObjsFields_eq, Tree.mapObjsFields_eq, List.map_map]
      refine List.map_congr_left fun f hf => congrArg (Prod.mk f.1) (ih f hf ?_ fun r hr => hapart r ?_)
      · refine Nat.le_trans (Tree.count_le_count_flatMap (f := fun f : String × Tree => f.2.labels) hf l) ?_
        rw [Tree.labels, Tree.labelsFields_eq] at honce
        exact Nat.le_trans List.count_le_count_cons honce
      · exact Tree.records_subset_of_mem_fields hf hr
    have hcount := Nat.le_trans (count_labels_mapObjs S (.obj k fields) l) honce
    have hlabel : (onOwners S stripBody (.obj k (Tree.mapObjsFields (onOwners S stripBody) fields))).label = k :=
      label_onOwners S _
    rw [Tree.mapObjs] at hcount ⊢
    -- the edit ends at the record of the label; from any other record it goes on below, where the directives that are
    -- gone are not what it looks for
    by_cases hkl : k = l
    · subst hkl
      have hobj : (onOwners S stripBody (.obj k (Tree.mapObjsFields (onOwners S stripBody) fields))).isObj = true :=
        (slight_onOwners S).isObj _
      have hnot : k ∉ Tree.labelsFields (Tree.mapObjsFields (onOwners S stripBody) fields) := fun hm => by
        rw [Tree.mapObjsFields_eq, Tree.labelsFields_eq, List.flatMap_map] at hm
        obtain ⟨f, hf, hm⟩ := List.mem_flatMap.mp hm
        have hpos := Nat.lt_of_lt_of_le (List.count_pos_iff.mpr hm) (count_labels_mapObjs S f.2 k)
        have hin : k ∈ Tree.labelsFields fields := by
          rw [Tree.labelsFields_eq]
          exact List.mem_flatMap.mpr ⟨f, hf, List.count_pos_iff.mp hpos⟩
        rw [Tree.labels, List.count_cons_self] at honce
        exact absurd (List.count_pos_iff.mpr hin) (by omega)
      have honly := @edit_of_once _ stripBody hobj (by rwa [hlabel])
      rw [hlabel] at honly
      rw [honly, Tree.mapObjs, ← hfields, Tree.editFields_of_not_mem hnot, onOwners, onOwners, Tree.label_obj,
        if_pos List.mem_cons_self]
      split
      · exact stripBody_stripBody _
      · rfl
    · have hedit : (Tree.obj k (Tree.mapObjsFields (onOwners S stripBody) fields)).edit l stripBody =
          .obj k (Tree.mapObjsFields (onOwners (l :: S) stripBody) fields) := by
        rw [Tree.edit, if_neg hkl, hfields]
      have hmem : k ∈ l :: S ↔ k ∈ S := List.mem_cons.trans (or_iff_right hkl)
      rw [Tree.mapObjs, onOwners, onOwners, Tree.label_obj, Tree.label_obj]
      by_cases hk : k ∈ S
      · rw [if_pos hk, if_pos (hmem.mpr hk), edit_stripBody (n := .obj k _) hkl, hedit]
        intro s hs
        rw [get_body_mapObjs, items_mapObjs (slight_onOwners S)] at hs
        obtain ⟨u, hu, rfl⟩ := List.mem_map.mp hs
        rw [label_mapObjs]
        exact hapart _ (Tree.mem_records_self rfl) hk u hu
      · rw [if_neg hk, if_neg (mt hmem.mp hk), hedit]

/-- **One after the other** each is stripped where it stands. -/
theorem foldl_edit {rest : List Nat} (honce : ∀ l ∈ rest, t.labels.count l ≤ 1)
    (hapart : ∀ r ∈ t.records, r.label ∈ rest ++ S → ∀ s ∈ (r.get "body").items, s.label ∉ rest) :
    rest.foldl (fun t l => t.edit l stripBody) (t.mapObjs (onOwners S stripBody)) =
      t.mapObjs (onOwners (rest.reverse ++ S) stripBody) := by
  induction rest generalizing S with
  | nil => rfl
  | cons l rest ih =>
    have hmem {k : Nat} : k ∈ rest ++ l :: S ↔ k ∈ (l :: rest) ++ S := by
      simp only [List.mem_append, List.mem_cons]
      tauto
    rw [List.foldl_cons, edit_mapObjs (honce l List.mem_cons_self), ih fun k hk => honce k (List.mem_cons_of_mem _ hk),
      List.reverse_cons, List.append_assoc, List.singleton_append]
    · exact fun r hr hl s hs hk => hapart r hr (hmem.mp hl) s hs (List.mem_cons_of_mem _ hk)
    · exact fun r hr hl s hs hk => hapart r hr (List.mem_append_right _ hl) s hs (hk ▸ List.mem_cons_self)

/-! ### What may start with directives -/

section Owners

/-- **What may start with directives**: the program, and each block that is the body of a function. -/
def StartsWithDirectives (t : Tree) (l : Nat) : Prop :=
  l = t.label ∨ ∃ f ∈ t.subtree, Tree.isFunctionKind f.kind = true ∧ (f.get "body").isKind "BlockStatement" = true ∧
    (f.get "body").label = l

theorem mem_owners_iff : l ∈ owners t ↔ StartsWithDirectives t l := by
  rw [owners, List.mem_cons, List.mem_filterMap, StartsWithDirectives]
  refine or_congr Iff.rfl (exists_congr fun f => and_congr Iff.rfl ?_)
  split
  · rename_i hf
    rw [Bool.and_eq_true] at hf
    simp [hf]
  · rename_i hf
    rw [Bool.and_eq_true] at hf
    simp only [reduceCtorEq, false_iff]
    exact fun h => hf ⟨h.1, h.2.1⟩

instance (t : Tree) (l : Nat) : Decidable (StartsWithDirectives t l) := decidable_of_iff _ mem_owners_iff

end Owners

/-! ### What the rule asks for -/

section Asking

/-- **What the rule asks of a node.** -/
structure Askable (n : Tree) : Prop where
  kind : n.get? "type" = some (.str n.kind)
  function : Tree.isFunctionKind n.kind = true → ∃ body, n.get? "body" = some body ∧ body.isNode = true
  statements : n.kind = "Program" ∨ n.kind = "BlockStatement" →
    ∃ body, n.get? "body" = some (.list body) ∧ ∀ s ∈ body, s.isNode = true
  expression : n.kind = "ExpressionStatement" → (n.get? "expression").isSome = true

theorem askable_of_hasFields (h : n.hasFields = true) : Askable n where
  kind := Tree.get?_type_of_hasFields h
  function hk := by
    have hspec : ∃ spec kinds, schema n.kind = some spec ∧ ("body", FieldSort.node kinds) ∈ spec := by
      rw [Tree.isFunctionKind, List.contains_iff_mem] at hk
      simp only [List.mem_cons, List.not_mem_nil, or_false] at hk
      rcases hk with hk | hk | hk <;> rw [hk]
      · exact ⟨functionFields, (· == "BlockStatement"), rfl, by simp [functionFields, FieldSort.block]⟩
      · exact ⟨functionFields, (· == "BlockStatement"), rfl, by simp [functionFields, FieldSort.block]⟩
      · exact ⟨_, isBodyKind, rfl, by simp⟩
    obtain ⟨spec, kinds, hs, hm⟩ := hspec
    obtain ⟨body, hbody, htakes⟩ := Tree.takes_of_hasFields h hs hm
    exact ⟨body, hbody, Tree.isNode_of_isOf htakes⟩
  statements hk := by
    have hspec : ∃ spec kinds, schema n.kind = some spec ∧ ("body", FieldSort.nodes kinds) ∈ spec := by
      rcases hk with hk | hk <;> rw [hk]
      · exact ⟨_, isStatementKind, rfl, by simp⟩
      · exact ⟨_, isStatementKind, rfl, by simp⟩
    obtain ⟨spec, kinds, hs, hm⟩ := hspec
    obtain ⟨body, hbody, htakes⟩ := Tree.takes_of_hasFields h hs hm
    rw [FieldSort.takes, Bool.and_eq_true, List.all_eq_true] at htakes
    cases body with
    | list body => exact ⟨body, hbody, fun s hs => Tree.isNode_of_isOf (htakes.2 s hs)⟩
    | _ => cases htakes.1
  expression hk := by
    obtain ⟨e, he, -⟩ := @Tree.takes_of_hasFields _ h [("expression", FieldSort.expression)] (by rw [hk]; rfl) _ _
      (List.mem_singleton.mpr rfl)
    rw [he]
    rfl

theorem Askable.kindOf_eq (h : Askable n) : n.kindOf = (pure n.kind : Except Failure String) :=
  Tree.textField_of_get? h.kind

theorem check_eq_ok {body : List Tree} (h : ∀ s ∈ body, Askable s) : check body = .ok () := by
  induction body with
  | nil => rfl
  | cons s rest ih =>
    obtain ⟨hs, hrest⟩ := List.forall_mem_cons.mp h
    rw [check, hs.kindOf_eq, pure_bind]
    split
    · rename_i hk
      obtain ⟨e, he⟩ := Option.isSome_iff_exists.mp (hs.expression (beq_iff_eq.mp hk))
      rw [Tree.field_of_get? he, pure_bind]
      split
      · exact ih hrest
      · rfl
    · rfl

theorem exists_filterMapM {α β ε : Type} {xs : List α} {f : α → Except ε (Option β)} {R : β → Prop}
    (h : ∀ a ∈ xs, ∃ b?, f a = .ok b? ∧ ∀ b ∈ b?, R b) : ∃ all, xs.filterMapM f = .ok all ∧ ∀ b ∈ all, R b := by
  induction xs with
  | nil => exact ⟨[], rfl, nofun⟩
  | cons a rest ih =>
    obtain ⟨⟨b?, ha, hb⟩, hrest⟩ := List.forall_mem_cons.mp h
    obtain ⟨all, hall, hR⟩ := ih hrest
    rw [List.filterMapM_cons, ha]
    cases b? with
    | none => exact ⟨all, hall, hR⟩
    | some b =>
      refine ⟨b :: all, ?_, List.forall_mem_cons.mpr ⟨hb b rfl, hR⟩⟩
      show (rest.filterMapM f >>= fun bs => pure (b :: bs)) = _
      rw [hall]
      rfl

/-- **The bodies are found**, and their statements are nodes of the tree. -/
theorem exists_bodies (hroot : t.kind = "Program") (h : ∀ n ∈ t.subtree, Askable n) :
    ∃ all, bodies t = .ok all ∧ ∀ body ∈ all, ∀ s ∈ body, s ∈ t.subtree := by
  have hstatements {n : Tree} (hn : n ∈ t.subtree) (hk : n.kind = "Program" ∨ n.kind = "BlockStatement") :
      ∃ body, n.get? "body" = some (.list body) ∧ ∀ s ∈ body, s ∈ t.subtree := by
    obtain ⟨body, hbody, hnode⟩ := (h n hn).statements hk
    refine ⟨body, hbody, fun s hs => Tree.subtree_subset hn (Tree.subtree_subset_of_mem_children ?_ (Tree.mem_subtree_self s))⟩
    exact Tree.mem_children.mpr ⟨hnode s hs, "body", .list body, mem_of_lookup hbody, rfl, .inr hs⟩
  obtain ⟨first, hfirst, hin⟩ := hstatements (Tree.mem_subtree_self t) (.inl hroot)
  have hrest := @exists_filterMapM _ _ Failure t.subtree
    (fun t => do
      if Tree.isFunctionKind (← t.kindOf) then
        let body ← t.field "body"
        if (← body.kindOf) == "BlockStatement" then return some (← body.listField "body")
      return none) (fun body => ∀ s ∈ body, s ∈ t.subtree) fun n hn => by
    rw [(h n hn).kindOf_eq, pure_bind]
    by_cases hk : Tree.isFunctionKind n.kind = true
    · obtain ⟨body, hbody, hnode⟩ := (h n hn).function hk
      have hmem : body ∈ t.subtree := Tree.subtree_subset hn (Tree.subtree_subset_of_mem_children
        (Tree.mem_children.mpr ⟨hnode, "body", body, mem_of_lookup hbody, rfl, .inl rfl⟩) (Tree.mem_subtree_self body))
      by_cases hblock : body.kind = "BlockStatement"
      · obtain ⟨items, hitems, hall⟩ := hstatements hmem (.inr hblock)
        refine ⟨some items, ?_, fun _ he => Option.mem_some.mp he ▸ hall⟩
        simp only [hk, ↓reduceIte, Tree.field_of_get? hbody, pure_bind, (h body hmem).kindOf_eq, hblock, beq_self_eq_true,
          Tree.listField_of_get? hitems]
        rfl
      · refine ⟨none, ?_, nofun⟩
        simp only [hk, ↓reduceIte, Tree.field_of_get? hbody, pure_bind, (h body hmem).kindOf_eq, beq_iff_eq, hblock]
        rfl
    · refine ⟨none, ?_, nofun⟩
      rw [if_neg hk]
      rfl
  obtain ⟨rest, hall, hR⟩ := hrest
  refine ⟨first :: rest, ?_, List.forall_mem_cons.mpr ⟨hin, hR⟩⟩
  rw [bodies, Tree.field_of_get? hfirst, pure_bind, hall]
  rfl

end Asking

/-! ### The nodes that are left -/

section Left

/-- Whether a node is what becomes of another one, apart from its comments. -/
def Becomes (S : List Nat) (m n : Tree) : Prop :=
  n.withoutComments = (m.mapNodes (onOwners S stripBody)).withoutComments

theorem children_withoutComments (t : Tree) : t.withoutComments.children = t.children := by
  have hslots : t.withoutComments.slots = t.slots := by
    cases t with
    | obj l fields =>
      show ((fields.filter _).filter _).flatMap _ = fields.flatMap _
      rw [List.filter_filter]
      induction fields with
      | nil => rfl
      | cons f rest ih =>
        rw [List.filter_cons, List.flatMap_cons]
        split
        · rw [List.flatMap_cons, ih]
        · rename_i hf
          have hkey : f.1 = "leadingComments" ∨ f.1 = "trailingComments" := by
            simp at hf
            tauto
          have hnone : Tree.holdsChildren f.1 = false := by
            rcases hkey with hk | hk <;> rw [hk] <;> rfl
          have hslots : Tree.fieldSlots f.1 f.2 = [] := by
            rw [Tree.fieldSlots.eq_def, hnone]
            rfl
          rw [ih]
          exact (congrArg (· ++ _) hslots).symm
    | _ => rfl
  rw [Tree.children, Tree.children, hslots]

theorem isNode_withoutComments (t : Tree) : t.withoutComments.isNode = t.isNode := by
  rw [Tree.isNode, Tree.isNode, slight_withoutComments.isObj, slight_withoutComments.get? t "type" (.inl rfl)]

theorem isNode_onOwners (t : Tree) (ht : t.isNode = true) : (onOwners S stripBody t).isNode = true := by
  rwa [Tree.isNode, (slight_onOwners S).isObj, (slight_onOwners S).get? t "type" (.inl rfl)]

/-- What is left in a list comes from the list. -/
theorem exists_of_mem_strip {body : List Tree} {s : Tree} (hs : s ∈ strip body) :
    ∃ u ∈ body, s.withoutComments = u.withoutComments := by
  have hmem : s.withoutComments ∈ (strip body).map Tree.withoutComments := List.mem_map_of_mem hs
  rw [map_strip overlooks_withoutComments] at hmem
  obtain ⟨u, hu, he⟩ := List.mem_map.mp ((clean_sublist _).subset hmem)
  exact ⟨u, hu, he.symm⟩

theorem isNode_of_mem_strip {body : List Tree} (hnode : ∀ s ∈ body, s.isNode = true) : ∀ s ∈ strip body, s.isNode = true := by
  intro s hs
  obtain ⟨u, hu, he⟩ := exists_of_mem_strip hs
  rw [← isNode_withoutComments, he, isNode_withoutComments, hnode u hu]

theorem exists_of_mem_children_stripBody {c : Tree} (hc : c ∈ (stripBody n).children) :
    ∃ u ∈ n.children, c.withoutComments = u.withoutComments := by
  obtain ⟨hnode, key, v, hv, hkey, hcv⟩ := Tree.mem_children.mp hc
  cases n with
  | obj l fields =>
    rcases mem_of_mem_putKey hv with hv | rfl
    · exact ⟨c, Tree.mem_children.mpr ⟨hnode, key, v, hv, hkey, hcv⟩, rfl⟩
    · rcases hcv with rfl | hcv
      · cases hnode
      · obtain ⟨u, hu, he⟩ := exists_of_mem_strip hcv
        refine ⟨u, Tree.mem_children_of_get ?_ rfl (.inr hu), he⟩
        rw [← isNode_withoutComments, ← he, isNode_withoutComments, hnode]
  | _ => exact ⟨c, hc, rfl⟩

theorem exists_of_mem_children {c : Tree} (hc : c ∈ (t.mapNodes (onOwners S stripBody)).children) :
    ∃ u ∈ t.children, Becomes S u c := by
  have hsub {n : Tree} (hc : c ∈ (onOwners S stripBody n).children) :
      ∃ u ∈ n.children, c.withoutComments = u.withoutComments := by
    rw [onOwners] at hc
    split at hc
    · exact exists_of_mem_children_stripBody hc
    · exact ⟨c, hc, rfl⟩
  cases t with
  | obj l fields =>
    rw [Tree.mapNodes] at hc
    obtain ⟨u, hu, he⟩ := hsub hc
    rw [Tree.children_mapNodesFields isNode_onOwners] at hu
    obtain ⟨v, hv, rfl⟩ := List.mem_map.mp hu
    exact ⟨v, hv, he⟩
  | _ => cases hc

/-- **The nodes below what becomes of a node** are what becomes of nodes below it. -/
theorem exists_becomes {x : Tree} (h : Becomes S t n) (hx : x ∈ n.subtree) : ∃ m ∈ t.subtree, Becomes S m x := by
  refine @Tree.children_induct (fun t => ∀ n, Becomes S t n → ∀ x ∈ n.subtree, ∃ m ∈ t.subtree, Becomes S m x) t
    (fun m hm ih n h x hx => ?_) n h x hx
  rcases Tree.mem_subtree.mp hx with rfl | ⟨c, hc, hx⟩
  · exact ⟨m, Tree.mem_subtree_self m, h⟩
  · rw [← children_withoutComments, show n.withoutComments = _ from h, children_withoutComments] at hc
    obtain ⟨u, hu, hbecomes⟩ := exists_of_mem_children hc
    obtain ⟨v, hv, hx⟩ := ih u hu c hbecomes x hx
    exact ⟨v, Tree.subtree_subset_of_mem_children hu hv, hx⟩

theorem get?_of_becomes {fields : List (String × Tree)} (h : Becomes S (.obj l fields) n) {key : String}
    (hleading : key ≠ "leadingComments") (htrailing : key ≠ "trailingComments") (hbody : key = "body" → l ∉ S) :
    n.get? key = (fields.lookup key).map fun v =>
      if Tree.holdsChildren key then Tree.mapNodesValue (onOwners S stripBody) v else v := by
  have hkept (t : Tree) (hl : t.label = l) : (onOwners S stripBody t).get? key = t.get? key := by
    rw [onOwners]
    split
    · rename_i hS
      by_cases ht : t.isObj = true
      · rw [stripBody, Tree.get?_set ht, if_neg fun hk => hbody hk (hl ▸ hS)]
      · cases t <;> first | rfl | exact absurd rfl ht
    · rfl
  rw [← get?_withoutComments n hleading htrailing, show n.withoutComments = _ from h,
    get?_withoutComments _ hleading htrailing, Tree.mapNodes, hkept _ rfl, Tree.get?_obj, Tree.lookup_mapNodesFields]

theorem get?_type_of_becomes {m : Tree} (h : Becomes S m n) : n.get? "type" = m.get? "type" := by
  cases m with
  | obj l fields =>
    rw [get?_of_becomes h (by decide) (by decide) (fun hk => absurd hk (by decide))]
    exact Option.map_id'
  | _ =>
    rw [← get?_withoutComments n (by decide) (by decide), show n.withoutComments = _ from h]
    rfl

theorem kind_of_becomes {m : Tree} (h : Becomes S m n) : n.kind = m.kind := by
  rw [Tree.kind, Tree.kind, get?_type_of_becomes h]

/-- The body of a function becomes the body of what becomes of the function. -/
theorem get?_body_of_becomes {fields : List (String × Tree)} (h : Becomes S (.obj l fields) n) (hS : l ∉ S) {body : Tree}
    (hbody : (Tree.obj l fields).get? "body" = some body) (hnode : body.isNode = true) :
    n.get? "body" = some (body.mapNodes (onOwners S stripBody)) := by
  rw [get?_of_becomes h (by decide) (by decide) fun _ => hS, show fields.lookup "body" = _ from hbody, Option.map_some]
  show some (Tree.mapNodesValue _ body) = _
  rw [Tree.mapNodesValue_eq, Tree.isList_of_isNode hnode, Tree.mapNodesItem_eq, hnode]
  rfl

theorem lookup_body_mapNodesFields {change : Tree → Tree} {fields : List (String × Tree)} {body : List Tree}
    (hbody : fields.lookup "body" = some (.list body)) :
    (Tree.mapNodesFields change fields).lookup "body" = some (.list (body.map (Tree.mapNodesItem change))) := by
  rw [Tree.lookup_mapNodesFields, hbody, Option.map_some, if_pos (by decide), Tree.mapNodesValue_eq]
  rfl

/-- The statements of a body become nodes. -/
theorem exists_body_of_becomes {fields : List (String × Tree)} (h : Becomes S (.obj l fields) n) {body : List Tree}
    (hbody : (Tree.obj l fields).get? "body" = some (.list body)) (hnode : ∀ s ∈ body, s.isNode = true) :
    ∃ body', n.get? "body" = some (.list body') ∧ ∀ s ∈ body', s.isNode = true := by
  have hinner : (Tree.obj l (Tree.mapNodesFields (onOwners S stripBody) fields)).get? "body" =
      some (.list (body.map (Tree.mapNodesItem (onOwners S stripBody)))) := lookup_body_mapNodesFields hbody
  have hall : ∀ s ∈ body.map (Tree.mapNodesItem (onOwners S stripBody)), s.isNode = true := by
    intro s hs
    obtain ⟨u, hu, rfl⟩ := List.mem_map.mp hs
    rw [Tree.isNode_mapNodesItem isNode_onOwners, hnode u hu]
  rw [← get?_withoutComments n (by decide) (by decide), show n.withoutComments = _ from h,
    get?_withoutComments _ (by decide) (by decide), Tree.mapNodes, onOwners]
  split
  · refine ⟨strip (body.map (Tree.mapNodesItem (onOwners S stripBody))), ?_, fun s hs => ?_⟩
    · rw [stripBody, Tree.get?_set rfl, if_pos rfl, Tree.get_of_get? hinner, Tree.items_list]
    · exact isNode_of_mem_strip hall s hs
  · exact ⟨_, hinner, hall⟩

/-- **What becomes of a node can be asked the same.** -/
theorem askable_of_becomes {m : Tree} (hm : Askable m)
    (hS : m.label ∈ S → m.kind = "Program" ∨ m.kind = "BlockStatement") (h : Becomes S m n) : Askable n := by
  cases m with
  | obj l fields =>
    have hkind := kind_of_becomes h
    refine ⟨by rw [get?_type_of_becomes h, hkind, hm.kind], fun hk => ?_, fun hk => ?_, fun hk => ?_⟩ <;> rw [hkind] at hk
    · obtain ⟨body, hbody, hnode⟩ := hm.function hk
      have hnot : l ∉ S := fun hin => by
        rcases hS hin with hp | hp <;> rw [hp] at hk <;> exact absurd hk (by decide)
      exact ⟨_, get?_body_of_becomes h hnot hbody hnode, Tree.isNode_mapNodes isNode_onOwners hnode⟩
    · obtain ⟨body, hbody, hnode⟩ := hm.statements hk
      exact exists_body_of_becomes h hbody hnode
    · have he := hm.expression hk
      rw [get?_of_becomes h (by decide) (by decide) fun hk => absurd hk (by decide), Option.isSome_map]
      exact he
  | _ => cases hm.kind

end Left

/-! ### Without comments -/

section Uncommented

theorem uncommented_obj (k : Nat) (fields : List (String × Tree)) :
    uncommented (.obj k fields) = (Tree.obj k (fields.map fun f => (f.1, uncommented f.2))).withoutComments := by
  rw [uncommented, Tree.mapObjs, Tree.mapObjsFields_eq]
  rfl

theorem uncommented_list (items : List Tree) : uncommented (.list items) = .list (items.map uncommented) := by
  rw [uncommented, Tree.mapObjs, Tree.mapObjsItems_eq]
  rfl

/-- Without comments a record is stripped by cleaning it, and it can be cleaned before or afterwards. -/
theorem uncommented_stripBody (k : Nat) (fields : List (String × Tree)) :
    uncommented (stripBody (.obj k fields)) =
        (cleanBody (.obj k (fields.map fun f => (f.1, uncommented f.2)))).withoutComments ∧
      uncommented (cleanBody (.obj k fields)) =
        (cleanBody (.obj k (fields.map fun f => (f.1, uncommented f.2)))).withoutComments := by
  have hitems : ((Tree.obj k (fields.map fun f => (f.1, uncommented f.2))).get "body").items =
      ((Tree.obj k fields).get "body").items.map uncommented := by
    refine Eq.trans (congrArg Tree.items ?_) (items_mapObjs slight_withoutComments _)
    rw [Tree.get, Tree.get, Tree.get?_obj, Tree.get?_obj, lookup_map_snd]
    cases fields.lookup "body" <;> rfl
  have hset (value value' : Tree) (hvalue : uncommented value = value') :
      uncommented ((Tree.obj k fields).set "body" value) =
        ((Tree.obj k (fields.map fun f => (f.1, uncommented f.2))).set "body" value').withoutComments := by
    rw [Tree.set, Tree.set, uncommented_obj, map_putKey, hvalue]
  refine ⟨hset _ _ ?_, hset _ _ ?_⟩
  · rw [uncommented_list, map_strip overlooks_uncommented, hitems]
  · rw [uncommented_list, hitems]
    exact congrArg Tree.list (clean_map_mapObjs slight_withoutComments _).symm

/-- **Without comments** the records of a tree are stripped by cleaning them. -/
theorem uncommented_mapObjs (S : List Nat) (t : Tree) :
    uncommented (t.mapObjs (onOwners S stripBody)) = uncommented (t.mapObjs (onOwners S cleanBody)) := by
  induction t using Tree.induction with
  | leaf t ht => rw [Tree.mapObjs_of_isLeaf ht, Tree.mapObjs_of_isLeaf ht]
  | list items ih =>
    rw [Tree.mapObjs, Tree.mapObjs, Tree.mapObjsItems_eq, Tree.mapObjsItems_eq, uncommented_list, uncommented_list,
      List.map_map, List.map_map]
    exact congrArg Tree.list (List.map_congr_left ih)
  | obj k fields ih =>
    have hfields : (Tree.mapObjsFields (onOwners S stripBody) fields).map (fun f => (f.1, uncommented f.2)) =
        (Tree.mapObjsFields (onOwners S cleanBody) fields).map fun f => (f.1, uncommented f.2) := by
      rw [Tree.mapObjsFields_eq, Tree.mapObjsFields_eq, List.map_map, List.map_map]
      exact List.map_congr_left fun f hf => congrArg (Prod.mk f.1) (ih f hf)
    rw [Tree.mapObjs, Tree.mapObjs, onOwners, onOwners, Tree.label_obj, Tree.label_obj]
    split
    · rw [(uncommented_stripBody k _).1, (uncommented_stripBody k _).2, hfields]
    · rw [uncommented_obj, uncommented_obj, hfields]

end Uncommented

/-! ### The bodies of a program -/

section Program

theorem onOwners_congr {S S' : List Nat} (h : ∀ l, l ∈ S ↔ l ∈ S') (change : Tree → Tree) :
    onOwners S change = onOwners S' change := by
  funext n
  rw [onOwners, onOwners]
  exact ite_congr (propext (h n.label)) (fun _ => rfl) fun _ => rfl

theorem body_mem_children {f : Tree} (h : (f.get "body").isKind "BlockStatement" = true) : f.get "body" ∈ f.children := by
  refine Tree.mem_children_of_get ?_ rfl (.inl rfl)
  rw [Tree.isNode, (Tree.kind_of_isKind h).1, Tree.get?_of_isKind h]
  rfl

variable {source : String} {p : Program} (h : Program.read source = .ok p)

/-- What may start with directives is a node. -/
theorem exists_owner (hl : l ∈ owners t) : ∃ n ∈ t.subtree, n.label = l := by
  rcases mem_owners_iff.mp hl with rfl | ⟨f, hf, -, hblock, rfl⟩
  · exact ⟨t, Tree.mem_subtree_self t, rfl⟩
  · exact ⟨_, Tree.mem_subtree_of_mem_children hf (body_mem_children hblock), rfl⟩

include h

/-- What may start with directives are the program itself and blocks. -/
theorem kind_of_mem_owners (hn : n ∈ p.tree.subtree) (hl : n.label ∈ owners p.tree) :
    n.kind = "Program" ∨ n.kind = "BlockStatement" := by
  rcases mem_owners_iff.mp hl with hroot | ⟨f, hf, -, hblock, hl⟩
  · rw [← eq_of_label_of_read h hn (Tree.mem_subtree_self _) hroot.symm]
    exact .inl (inOrder_of_read h).kind
  · have hmem := Tree.mem_subtree_of_mem_children hf (body_mem_children hblock)
    rw [← eq_of_label_of_read h hn hmem hl]
    exact .inr (Tree.kind_of_isKind hblock).2

/-- **No body stands in the list of another.** -/
theorem owners_apart {s : Tree} (hr : r ∈ p.tree.records) (hl : r.label ∈ owners p.tree) (hs : s ∈ (r.get "body").items) :
    s.label ∉ owners p.tree := by
  have hin := inOrder_of_read h
  -- a record with the label of a node is the node
  obtain ⟨n, hn, hnl⟩ := exists_owner hl
  obtain rfl : r = n := hin.eq_of_label hn hr hnl.symm
  have hkind := kind_of_mem_owners h hn hl
  obtain ⟨body, hbody, hall⟩ := (askable_of_hasFields (hin.fields r hn)).statements hkind
  have hchild : s ∈ r.children := by
    have hs' := hs
    rw [Tree.get_of_get? hbody, Tree.items_list] at hs'
    exact Tree.mem_children_of_get (hall s hs') rfl (.inr hs)
  intro hsl
  rcases mem_owners_iff.mp hsl with hroot | ⟨f, hf, hfunction, hblock, hfl⟩
  · exact hin.labelled.label_ne_of_mem_children hn hchild hroot
  · -- the function and the body would both be the parent
    have hbelow := body_mem_children hblock
    have hmem := Tree.mem_subtree_of_mem_children hf hbelow
    rw [eq_of_label_of_read h (Tree.mem_subtree_of_mem_children hn hchild) hmem hfl] at hbelow
    obtain rfl := hin.labelled.parent_eq hf hn hbelow hchild
    rcases hkind with hk | hk <;> rw [hk] at hfunction <;> exact absurd hfunction (by decide)

/-- The tree with every body stripped where it stands. -/
theorem foldl_edit_owners {rest : List Nat} (hrest : ∀ l ∈ rest, l ∈ owners p.tree) {S : List Nat}
    (hS : ∀ l ∈ S, l ∈ owners p.tree) :
    rest.foldl (fun t l => t.edit l stripBody) (p.tree.mapObjs (onOwners S stripBody)) =
      p.tree.mapObjs (onOwners (rest.reverse ++ S) stripBody) := by
  refine foldl_edit (fun l _ => (Program.count_labels_of_read h l).1) fun r hr hl s hs hin => ?_
  have howner : r.label ∈ owners p.tree := (List.mem_append.mp hl).elim (hrest _) (hS _)
  exact owners_apart h hr howner hs (hrest _ hin)

/-- To change the bodies of a program is to change nodes. -/
theorem mapObjs_onOwners (change : Tree → Tree) :
    p.tree.mapObjs (onOwners (owners p.tree) change) = p.tree.mapNodes (onOwners (owners p.tree) change) := by
  refine Tree.mapObjs_eq_mapNodes (fun l fields (hl : l ∉ owners p.tree) => if_neg hl)
    (Program.is_of_read h).2.isObj fun l hl => ?_
  obtain ⟨n, hn, hnl⟩ := exists_owner hl
  have hmem : l ∈ p.tree.subtree.map Tree.label := hnl ▸ List.mem_map_of_mem hn
  exact Nat.le_trans (Program.count_labels_of_read h l).1 (List.count_pos_iff.mpr hmem)

/-- What the rule leaves of the tree. -/
def stripped (t : Tree) : Tree := t.mapNodes (onOwners (owners t) stripBody)

theorem foldl_edit_program : (owners p.tree).foldl (fun t l => t.edit l stripBody) p.tree = stripped p.tree := by
  have hnone : p.tree.mapObjs (onOwners [] stripBody) = p.tree :=
    @Tree.mapObjs_eq_self_of_untouched _ _ (fun _ => False) (fun _ _ _ => if_neg List.not_mem_nil) fun _ _ => id
  have hfold := foldl_edit_owners h (fun _ => id) (S := []) nofun
  rw [hnone, @onOwners_congr _ (owners p.tree) (by simp)] at hfold
  rw [hfold, mapObjs_onOwners h, stripped]

/-- Nothing new may start with directives. -/
theorem owners_stripped (hl : l ∈ owners (stripped p.tree)) : l ∈ owners p.tree := by
  have hroot : (stripped p.tree).label = p.tree.label := by
    rw [stripped, ← mapObjs_onOwners h, label_mapObjs]
  rcases mem_owners_iff.mp hl with rfl | ⟨f, hf, hfunction, hblock, hl⟩
  · rw [hroot]
    exact List.mem_cons_self
  · obtain ⟨m, hm, hbecomes⟩ := exists_becomes (t := p.tree) rfl hf
    have hask := askable_of_hasFields ((inOrder_of_read h).fields m hm)
    cases m with
    | obj k fields =>
      rw [kind_of_becomes hbecomes] at hfunction
      obtain ⟨body, hbody, hnode⟩ := hask.function hfunction
      have hnot : k ∉ owners p.tree := fun hk => by
        rcases kind_of_mem_owners h hm hk with hp | hp <;> rw [hp] at hfunction <;> exact absurd hfunction (by decide)
      have hget := Tree.get_of_get? (get?_body_of_becomes hbecomes hnot hbody hnode)
      rw [hget] at hblock hl
      cases body with
      | obj j inner =>
        have htype := Tree.get?_of_isKind hblock
        rw [get?_type_of_becomes (S := owners p.tree) rfl] at htype
        refine mem_owners_iff.mpr (.inr ⟨_, hm, hfunction, ?_, ?_⟩) <;> rw [Tree.get_of_get? hbody]
        · rw [Tree.isKind_eq htype, beq_self_eq_true]
        · rw [← hl, Tree.mapNodes, label_onOwners]
          rfl
      | _ => cases hnode
    | _ => cases hask.kind

/-- **To strip what has been stripped** changes nothing. -/
theorem foldl_edit_stripped : (owners (stripped p.tree)).foldl (fun t l => t.edit l stripBody) (stripped p.tree) =
    stripped p.tree := by
  have hsub : ∀ l ∈ owners (stripped p.tree), l ∈ owners p.tree := fun l hl => owners_stripped h hl
  have hfold := foldl_edit_owners h hsub (S := owners p.tree) fun _ => id
  have hsame (l : Nat) : l ∈ (owners (stripped p.tree)).reverse ++ owners p.tree ↔ l ∈ owners p.tree := by
    rw [List.mem_append, List.mem_reverse]
    exact or_iff_right_of_imp (hsub l)
  rw [onOwners_congr hsame, mapObjs_onOwners h] at hfold
  exact hfold

end Program

/-! ### The run -/

section Run

/-- **A run ends with one body stripped after the other**, if what is asked is there. -/
theorem ends_run {c : Context} (hloose : c.doc.loose = []) (hroot : c.doc.root.kind = "Program")
    (hask : ∀ n ∈ c.doc.root.subtree, Askable n) : Ends run c fun _ c' =>
      c' = { c with doc := ⟨(owners c.doc.root).foldl (fun t l => t.edit l stripBody) c.doc.root, [], c.doc.next⟩ } := by
  obtain ⟨all, hall, hin⟩ := exists_bodies hroot hask
  have hchecks : all.forM check = .ok () := by
    clear hall
    induction all with
    | nil => rfl
    | cons body rest ih =>
      obtain ⟨hbody, hrest⟩ := List.forall_mem_cons.mp hin
      show (check body >>= fun _ => rest.forM check) = _
      rw [check_eq_ok fun s hs => hask s (hbody s hs)]
      exact ih hrest
  have hloop := @ends_forIn _ (owners c.doc.root) (fun owner => updateDoc (·.editList owner "body" strip))
    (fun rest c' => ∃ t, c' = { c with doc := ⟨t, [], c.doc.next⟩ } ∧
      rest.foldl (fun t l => t.edit l stripBody) t = (owners c.doc.root).foldl (fun t l => t.edit l stripBody) c.doc.root)
    (fun l rest c' hI => ends_updateDoc ?_) c ⟨c.doc.root, by rw [← hloose], rfl⟩
  · rw [run]
    refine Ends.bind (Q := fun t c' => t = c.doc.root ∧ c' = c) ⟨_, c, rfl, rfl, rfl⟩ fun t c' ht => ?_
    rw [ht.1, ht.2]
    refine Ends.bind (Q := fun a c' => a = all ∧ c' = c) (ends_ask hall ⟨rfl, rfl⟩) fun a c' ha => ?_
    rw [ha.1, ha.2]
    refine Ends.bind (Q := fun _ c' => c' = c) (ends_ask hchecks rfl) fun _ c' hc => ?_
    rw [hc]
    refine Ends.bind (Q := fun t c' => t = c.doc.root ∧ c' = c) ⟨_, c, rfl, rfl, rfl⟩ fun t c' ht => ?_
    rw [ht.1, ht.2]
    refine hloop.bind fun _ c' hc => ends_pure ?_
    obtain ⟨t, rfl, rfl⟩ := hc
    rfl
  · obtain ⟨t, rfl, hfold⟩ := hI
    exact ⟨t.edit l stripBody, rfl, hfold⟩

/-- **A run over a program** leaves it stripped. -/
theorem ends_run_program {source : String} {p : Program} (h : Program.read source = .ok p) {c : Context}
    (hdoc : c.doc = ⟨p.tree, [], p.next⟩) :
    Ends run c fun _ c' => c' = { c with doc := ⟨stripped p.tree, [], p.next⟩ } := by
  have hin := inOrder_of_read h
  have hask : ∀ n ∈ c.doc.root.subtree, Askable n := by
    rw [hdoc]
    exact fun n hn => askable_of_hasFields (hin.fields n hn)
  have hrun := ends_run (c := c) (by rw [hdoc]) (by rw [hdoc]; exact hin.kind) hask
  rwa [hdoc, foldl_edit_program h] at hrun

/-- **A program is left with its directives but for the strict ones**: without comments, each body is what cleaning
its statements leaves, and nothing else has changed. -/
theorem uncommented_run {source : String} {p : Program} (h : Program.read source = .ok p) {c : Context}
    (hdoc : c.doc = ⟨p.tree, [], p.next⟩) :
    ∃ c', run.run.run c = (.ok (), c') ∧ uncommented c'.doc.root = uncommented (p.tree.mapNodes fun n =>
      if StartsWithDirectives p.tree n.label then cleanBody n else n) ∧ run.run.run c' = (.ok (), c') := by
  have hin := inOrder_of_read h
  obtain ⟨u, c', hrun, hc⟩ := ends_run_program h hdoc
  have hroot : c'.doc.root = stripped p.tree := by rw [hc]
  -- the second run finds the same bodies, or fewer
  have hask' : ∀ n ∈ (stripped p.tree).subtree, Askable n := fun n hn => by
    obtain ⟨m, hm, hbecomes⟩ := exists_becomes (t := p.tree) rfl hn
    exact askable_of_becomes (askable_of_hasFields (hin.fields m hm)) (kind_of_mem_owners h hm) hbecomes
  have hkind : (stripped p.tree).kind = "Program" := (kind_of_becomes (S := owners p.tree) rfl).trans hin.kind
  obtain ⟨u', c'', hrun', hc'⟩ := ends_run (c := c') (by rw [hc]) (by rw [hroot, hkind]) (by rw [hroot]; exact hask')
  rw [hroot, foldl_edit_stripped h, ← hroot] at hc'
  refine ⟨c', hrun, ?_, by rw [hrun', hc', hc]⟩
  have hclean : (onOwners (owners p.tree) cleanBody) = fun n =>
      if StartsWithDirectives p.tree n.label then cleanBody n else n := by
    funext n
    exact ite_congr (propext mem_owners_iff) (fun _ => rfl) fun _ => rfl
  rw [hroot, stripped, ← mapObjs_onOwners h, uncommented_mapObjs, mapObjs_onOwners h, hclean]

/-- A directive in the body of a function that is a default, one that is not strict, and one that comes too late. -/
theorem uncommented_run_nested : ∃ p c',
    Program.read "'use strict'; class A \x7b m(a = () => \x7b 'use asm'; 'use strict'; b(); \x7d) \x7b c(); 'use strict'; \x7d \x7d" = .ok p ∧
    (owners p.tree).length = 3 ∧ run.run.run { doc := ⟨p.tree, [], p.next⟩ } = (.ok (), c') ∧
    uncommented c'.doc.root = uncommented (p.tree.mapNodes fun n =>
      if StartsWithDirectives p.tree n.label then cleanBody n else n) := by
  obtain ⟨p, hp, hcheck⟩ := @Program.exists_of_any
    "'use strict'; class A \x7b m(a = () => \x7b 'use asm'; 'use strict'; b(); \x7d) \x7b c(); 'use strict'; \x7d \x7d"
    (fun p => (owners p.tree).length == 3) (by decide +kernel)
  obtain ⟨c', hrun, hroot, -⟩ := @uncommented_run _ p hp { doc := ⟨p.tree, [], p.next⟩ } rfl
  exact ⟨p, c', hp, beq_iff_eq.mp hcheck, hrun, hroot⟩

end Run

end Deminify.Rules.StrictDirective
