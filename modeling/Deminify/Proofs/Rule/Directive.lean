import Deminify.Proofs.Tree.Record
import Deminify.Rules.StrictDirective

/-!
# Lists of statements without strict directives

Taking the strict directives out of a list leaves the list in which each is left out that belongs to the leading
run of directives (`Deminify.Rules.StrictDirective.clean`), with comments that have moved. **For what does not look
at comments it is that list** (`Deminify.Rules.StrictDirective.map_strip`), and so nothing is left to be taken out
(`Deminify.Rules.StrictDirective.strip_strip`).

What is changed below the statements does not matter to how they are taken out, comments and all
(`Deminify.Rules.StrictDirective.strip_map_edit`).
-/

namespace Deminify.Rules.StrictDirective

variable {α : Type} {s : Tree} {body : List Tree} {fuel i l : Nat}

/-! ### The statements that are left -/

/-- **The statements without the strict directives** of their leading run. -/
def clean (body : List Tree) : List Tree :=
  (body.takeWhile isDirective).filter (!isStrict ·) ++ body.dropWhile isDirective

theorem clean_of_not (h : isDirective s = false) : clean (s :: body) = s :: body := by
  rw [clean, List.takeWhile_cons_of_neg (by simp [h]), List.dropWhile_cons_of_neg (by simp [h]), List.filter_nil,
    List.nil_append]

theorem clean_of_strict (h : isDirective s = true) (hs : isStrict s = true) : clean (s :: body) = clean body := by
  rw [clean, List.takeWhile_cons_of_pos h, List.dropWhile_cons_of_pos h, List.filter_cons_of_neg (by simp [hs]), clean]

theorem clean_of_not_strict (h : isDirective s = true) (hs : isStrict s = false) :
    clean (s :: body) = s :: clean body := by
  rw [clean, List.takeWhile_cons_of_pos h, List.dropWhile_cons_of_pos h, List.filter_cons_of_pos (by simp [hs]), clean,
    List.cons_append]

/-- What does not matter to whether statements are directives can as well be done before. -/
theorem clean_map {φ : Tree → Tree} (hd : ∀ s ∈ body, isDirective (φ s) = isDirective s)
    (hs : ∀ s ∈ body, isStrict (φ s) = isStrict s) : clean (body.map φ) = (clean body).map φ := by
  induction body with
  | nil => rfl
  | cons s rest ih =>
    obtain ⟨hd, hdrest⟩ := List.forall_mem_cons.mp hd
    obtain ⟨hs, hsrest⟩ := List.forall_mem_cons.mp hs
    have ih := ih hdrest hsrest
    rw [List.map_cons]
    cases hdirective : isDirective s with
    | false => rw [clean_of_not (hd.trans hdirective), clean_of_not hdirective, List.map_cons]
    | true =>
      cases hstrict : isStrict s with
      | true => rw [clean_of_strict (hd.trans hdirective) (hs.trans hstrict), clean_of_strict hdirective hstrict, ih]
      | false =>
        rw [clean_of_not_strict (hd.trans hdirective) (hs.trans hstrict), clean_of_not_strict hdirective hstrict,
          List.map_cons, ih]

theorem clean_clean (body : List Tree) : clean (clean body) = clean body := by
  induction body with
  | nil => rfl
  | cons s rest ih =>
    cases hdirective : isDirective s with
    | false => rw [clean_of_not hdirective, clean_of_not hdirective]
    | true =>
      cases hstrict : isStrict s with
      | true => rw [clean_of_strict hdirective hstrict, ih]
      | false => rw [clean_of_not_strict hdirective hstrict, clean_of_not_strict hdirective hstrict, ih]

theorem clean_sublist (body : List Tree) : (clean body).Sublist body := by
  have hall := (List.filter_sublist (p := (!isStrict ·)) (l := body.takeWhile isDirective)).append_right
    (body.dropWhile isDirective)
  rwa [List.takeWhile_append_dropWhile] at hall

/-! ### Comments do not matter -/

section Comments

/-- What looks at statements as far as the rule does, and not at their comments. -/
structure Overlooks (φ : Tree → Tree) : Prop where
  directive : ∀ s, isDirective (φ s) = isDirective s
  strict : ∀ s, isStrict (φ s) = isStrict s
  prepend : ∀ s comments, φ (s.prependComments comments) = φ s
  append : ∀ s comments, φ (s.appendComments comments) = φ s

variable {φ : Tree → Tree} (h : Overlooks φ)

include h

theorem length_removeStatement (hi : i < body.length) : (removeStatement body i).length + 1 = body.length := by
  have hmap := congrArg List.length (Tree.map_removeStatement h.prepend h.append body i)
  rw [List.length_map, List.length_eraseIdx_of_lt (by rwa [List.length_map]), List.length_map] at hmap
  omega

omit h in
theorem eq_take_append_clean (hi : body.length ≤ i) : body = body.take i ++ clean (body.drop i) := by
  rw [List.take_of_length_le hi, List.drop_of_length_le hi]
  exact (List.append_nil _).symm

theorem map_stripFrom (hfuel : body.length ≤ i + fuel) :
    (stripFrom fuel body i).map φ = (body.map φ).take i ++ clean ((body.map φ).drop i) := by
  induction fuel generalizing body i with
  | zero => exact eq_take_append_clean (by rwa [List.length_map])
  | succ fuel ih =>
    rw [stripFrom]
    cases hs : body[i]? with
    | none => exact eq_take_append_clean (by rw [List.length_map]; exact List.getElem?_eq_none_iff.mp hs)
    | some s =>
      obtain ⟨hi, rfl⟩ := List.getElem?_eq_some_iff.mp hs
      have hdrop : (body.map φ).drop i = φ body[i] :: (body.map φ).drop (i + 1) := by
        rw [List.drop_eq_getElem_cons (by rwa [List.length_map]), List.getElem_map]
      dsimp only
      split
      · rename_i hdirective
        replace hdirective := (h.directive _).trans hdirective
        split
        · rename_i hstrict
          have hlength := length_removeStatement h hi
          have htake : ((body.map φ).take i).length = i := by
            rw [List.length_take, List.length_map]
            omega
          rw [ih (by omega), Tree.map_removeStatement h.prepend h.append, List.eraseIdx_eq_take_drop_succ,
            List.take_left' htake, List.drop_left' htake, hdrop, clean_of_strict hdirective ((h.strict _).trans hstrict)]
        · rename_i hstrict
          rw [ih (by omega), hdrop, clean_of_not_strict hdirective ((h.strict _).trans (Bool.eq_false_iff.mpr hstrict)),
            List.take_succ_eq_append_getElem (by rwa [List.length_map]), List.getElem_map, List.append_assoc]
          rfl
      · rename_i hdirective
        rw [hdrop, clean_of_not ((h.directive _).trans (Bool.eq_false_iff.mpr hdirective)), ← hdrop, List.take_append_drop]

/-- **For what does not look at comments** the strict directives of the leading run have gone, and no other
statement. -/
theorem map_strip (body : List Tree) : (strip body).map φ = clean (body.map φ) := by
  rw [strip, map_stripFrom h (by omega), List.take_zero, List.drop_zero, List.nil_append]

/-- What has been cleaned stays as it is. -/
theorem strip_eq_self (hclean : clean (body.map φ) = body.map φ) : strip body = body := by
  -- what is left of the list has nothing to be taken out
  suffices ∀ fuel i, clean ((body.map φ).drop i) = (body.map φ).drop i → stripFrom fuel body i = body from
    this _ 0 hclean
  intro fuel
  induction fuel with
  | zero => exact fun _ _ => rfl
  | succ fuel ih =>
    intro i hrest
    rw [stripFrom]
    cases hs : body[i]? with
    | none => rfl
    | some s =>
      obtain ⟨hi, rfl⟩ := List.getElem?_eq_some_iff.mp hs
      have hdrop : (body.map φ).drop i = φ body[i] :: (body.map φ).drop (i + 1) := by
        rw [List.drop_eq_getElem_cons (by rwa [List.length_map]), List.getElem_map]
      rw [hdrop] at hrest
      dsimp only
      split
      · rename_i hdirective
        replace hdirective := (h.directive _).trans hdirective
        split
        · rename_i hstrict
          rw [clean_of_strict hdirective ((h.strict _).trans hstrict)] at hrest
          have hlength := (clean_sublist ((body.map φ).drop (i + 1))).length_le
          rw [hrest, List.length_cons] at hlength
          omega
        · rename_i hstrict
          rw [clean_of_not_strict hdirective ((h.strict _).trans (Bool.eq_false_iff.mpr hstrict))] at hrest
          exact ih (i + 1) (List.cons_inj_right _ |>.mp hrest)
      · rfl

theorem strip_strip (body : List Tree) : strip (strip body) = strip body := by
  refine strip_eq_self h ?_
  rw [map_strip h, clean_clean]

end Comments

/-! ### Nodes without their comments -/

section WithoutComments

theorem get?_drop (t : Tree) {key k : String} (h : k ≠ key) : (t.drop key).get? k = t.get? k := by
  cases t with
  | obj l fields =>
    show (fields.filter _).lookup k = fields.lookup k
    induction fields with
    | nil => rfl
    | cons f rest ih =>
      obtain ⟨k', v⟩ := f
      rw [List.filter_cons, lookup_cons_ite]
      split
      · rw [lookup_cons_ite, ih]
      · rename_i hk
        obtain rfl : k' = key := by simpa using hk
        rw [if_neg h, ih]
  | _ => rfl

theorem get?_withoutComments (t : Tree) {key : String} (hleading : key ≠ "leadingComments")
    (htrailing : key ≠ "trailingComments") : t.withoutComments.get? key = t.get? key := by
  rw [Tree.withoutComments, get?_drop _ htrailing, get?_drop _ hleading]

theorem withoutComments_set (t value : Tree) {key : String} (h : key = "leadingComments" ∨ key = "trailingComments") :
    (t.set key value).withoutComments = t.withoutComments := by
  cases t with
  | obj l fields =>
    simp only [Tree.withoutComments, Tree.set, Tree.drop, List.filter_filter]
    rw [filter_putKey_of_ne]
    intro value
    rcases h with rfl | rfl <;> simp
  | _ => rfl

theorem withoutComments_prependComments (t : Tree) (comments : List Tree) :
    (t.prependComments comments).withoutComments = t.withoutComments := by
  rw [Tree.prependComments]
  split
  · rfl
  · exact withoutComments_set t _ (.inl rfl)

theorem withoutComments_appendComments (t : Tree) (comments : List Tree) :
    (t.appendComments comments).withoutComments = t.withoutComments := by
  rw [Tree.appendComments]
  split
  · rfl
  · exact withoutComments_set t _ (.inr rfl)

/-- Whether a statement is a directive, and which, is told by its kind and its expression. -/
theorem isDirective_congr {s s' : Tree} (hkind : s'.isKind "ExpressionStatement" = s.isKind "ExpressionStatement")
    (hliteral : (s'.get "expression").isKind "Literal" = (s.get "expression").isKind "Literal")
    (hvalue : ((s'.get "expression").get "value").str? = ((s.get "expression").get "value").str?) :
    isDirective s' = isDirective s ∧ isStrict s' = isStrict s := by
  have htext (t : Tree) : t.isStringLiteral = (t.isKind "Literal" && (t.get "value").str?.isSome) := by
    rw [Tree.isStringLiteral, Tree.isLiteral]
    cases t.get "value" <;> rfl
  refine ⟨?_, by rw [isStrict, isStrict, hvalue]⟩
  rw [isDirective, isDirective, hkind, htext, htext, hliteral, hvalue]

theorem isKind_withoutComments (t : Tree) (kind : String) : t.withoutComments.isKind kind = t.isKind kind := by
  have hobj : t.withoutComments.isObj = t.isObj := by cases t <;> rfl
  rw [Tree.isKind, Tree.isKind, hobj, get?_withoutComments t (by decide) (by decide)]

theorem overlooks_withoutComments : Overlooks Tree.withoutComments := by
  have hlook (s : Tree) : isDirective s.withoutComments = isDirective s ∧ isStrict s.withoutComments = isStrict s := by
    have hget : s.withoutComments.get "expression" = s.get "expression" := by
      rw [Tree.get, Tree.get, get?_withoutComments s (by decide) (by decide)]
    exact isDirective_congr (isKind_withoutComments s _) (by rw [hget]) (by rw [hget])
  exact ⟨fun s => (hlook s).1, fun s => (hlook s).2, withoutComments_prependComments, withoutComments_appendComments⟩

end WithoutComments

/-! ### Statements of which parts are changed -/

section Slight

/-- **A change of records that leaves alone what the rule looks at.** -/
structure Slight (change : Tree → Tree) : Prop where
  isObj : ∀ t, (change t).isObj = t.isObj
  get? : ∀ t key, key = "type" ∨ key = "expression" ∨ key = "value" → (change t).get? key = t.get? key

theorem slight_withoutComments : Slight Tree.withoutComments where
  isObj t := by cases t <;> rfl
  get? t key hkey := by
    rcases hkey with rfl | rfl | rfl <;> exact get?_withoutComments t (by decide) (by decide)

variable {change : Tree → Tree} (h : Slight change)

include h

theorem Slight.ite (p : Tree → Prop) [DecidablePred p] : Slight fun r => if p r then change r else r where
  isObj t := by
    split
    · exact h.isObj t
    · rfl
  get? t key hkey := by
    split
    · exact h.get? t key hkey
    · rfl

theorem isObj_mapObjs (t : Tree) : (t.mapObjs change).isObj = t.isObj := by
  cases t with
  | obj l fields => rw [Tree.mapObjs, h.isObj]; rfl
  | _ => rfl

theorem get_mapObjs (t : Tree) {key : String} (hkey : key = "type" ∨ key = "expression" ∨ key = "value") :
    (t.mapObjs change).get key = (t.get key).mapObjs change := by
  cases t with
  | obj l fields =>
    rw [Tree.mapObjs, Tree.get, h.get? _ key hkey, Tree.mapObjsFields_eq, Tree.get, Tree.get?_obj, Tree.get?_obj,
      lookup_map_snd]
    cases fields.lookup key <;> rfl
  | _ => rfl

theorem str?_mapObjs (t : Tree) : (t.mapObjs change).str? = t.str? := by
  cases t with
  | obj l fields =>
    have hobj := isObj_mapObjs h (.obj l fields)
    cases hm : (Tree.obj l fields).mapObjs change with
    | obj l' fields' => rfl
    | _ =>
      rw [hm] at hobj
      cases hobj
  | _ => rfl

theorem items_mapObjs (t : Tree) : (t.mapObjs change).items = t.items.map (Tree.mapObjs change) := by
  cases t with
  | list items => rw [Tree.mapObjs, Tree.mapObjsItems_eq, Tree.items_list, Tree.items_list]
  | obj l fields =>
    have hobj := isObj_mapObjs h (.obj l fields)
    cases hm : (Tree.obj l fields).mapObjs change with
    | obj _ _ => rfl
    | _ =>
      rw [hm] at hobj
      cases hobj
  | _ => rfl

theorem isKind_mapObjs (t : Tree) (kind : String) : (t.mapObjs change).isKind kind = t.isKind kind := by
  have htype (u : Tree) : (u.get? "type").bind Tree.str? = (u.get "type").str? := by
    rw [Tree.get]
    cases u.get? "type" <;> rfl
  rw [Tree.isKind, Tree.isKind, isObj_mapObjs h, htype, htype, get_mapObjs h t (.inl rfl), str?_mapObjs h]

/-- What is changed inside of a statement does not make a directive of it, nor another one. -/
theorem isDirective_mapObjs (s : Tree) :
    isDirective (s.mapObjs change) = isDirective s ∧ isStrict (s.mapObjs change) = isStrict s := by
  have hexpression := get_mapObjs h s (.inr (.inl rfl))
  refine isDirective_congr (isKind_mapObjs h s _) (by rw [hexpression, isKind_mapObjs h]) ?_
  rw [hexpression, get_mapObjs h _ (.inr (.inr rfl)), str?_mapObjs h]

theorem clean_map_mapObjs (body : List Tree) :
    clean (body.map (Tree.mapObjs change)) = (clean body).map (Tree.mapObjs change) :=
  clean_map (fun s _ => (isDirective_mapObjs h s).1) fun s _ => (isDirective_mapObjs h s).2

end Slight

/-- The tree without its comments. -/
def uncommented (t : Tree) : Tree := t.mapObjs Tree.withoutComments

theorem uncommented_set (t value : Tree) {key : String} (h : key = "leadingComments" ∨ key = "trailingComments") :
    uncommented (t.set key value) = uncommented t := by
  cases t with
  | obj l fields =>
    rw [uncommented, Tree.set, Tree.mapObjs, Tree.mapObjsFields_eq, map_putKey, uncommented, Tree.mapObjs,
      Tree.mapObjsFields_eq]
    exact withoutComments_set (.obj l _) _ h
  | _ => rfl

theorem overlooks_uncommented : Overlooks uncommented where
  directive s := (isDirective_mapObjs slight_withoutComments s).1
  strict s := (isDirective_mapObjs slight_withoutComments s).2
  prepend s comments := by
    rw [Tree.prependComments]
    split
    · rfl
    · exact uncommented_set s _ (.inl rfl)
  append s comments := by
    rw [Tree.appendComments]
    split
    · rfl
    · exact uncommented_set s _ (.inr rfl)

/-! ### Statements in front of which comments are put -/

section Edit

variable {change : Tree → Tree} (h : Slight change)

include h

theorem items_edit (t : Tree) : (t.edit l change).items = t.items.map (Tree.edit l change) := by
  rw [Tree.edit_eq_mapObjs, items_mapObjs (h.ite (·.label = l))]
  exact List.map_congr_left fun u _ => (Tree.edit_eq_mapObjs u).symm

omit h in
theorem edit_set (hs : s.label ≠ l) (key : String) (value : Tree) :
    (s.set key value).edit l change = (s.edit l change).set key (value.edit l change) := by
  cases s with
  | obj k fields =>
    rw [Tree.label_obj] at hs
    rw [Tree.set, Tree.edit, if_neg hs, Tree.edit, if_neg hs, Tree.set, Tree.editFields_eq, Tree.editFields_eq, map_putKey]
  | _ => rfl

/-- An edit elsewhere and the comments of a statement do not meet. -/
theorem comments_edit (hs : s.label ≠ l) : (s.edit l change).comments = s.comments.map (Tree.edit l change) := by
  rw [Tree.comments, Tree.comments, Tree.leadingComments, Tree.leadingComments, Tree.trailingComments,
    Tree.trailingComments, Tree.get_edit_of_ne hs, Tree.get_edit_of_ne hs, items_edit h, items_edit h, List.map_append]

theorem edit_prependComments (hs : s.label ≠ l) (comments : List Tree) :
    (s.prependComments comments).edit l change = (s.edit l change).prependComments (comments.map (Tree.edit l change)) := by
  rw [Tree.prependComments, Tree.prependComments, List.isEmpty_map]
  split
  · rfl
  · rw [edit_set hs, Tree.edit, Tree.editItems_eq, List.map_append, Tree.leadingComments, Tree.leadingComments,
      Tree.get_edit_of_ne hs, items_edit h]

theorem edit_appendComments (hs : s.label ≠ l) (comments : List Tree) :
    (s.appendComments comments).edit l change = (s.edit l change).appendComments (comments.map (Tree.edit l change)) := by
  rw [Tree.appendComments, Tree.appendComments, List.isEmpty_map]
  split
  · rfl
  · rw [edit_set hs, Tree.edit, Tree.editItems_eq, List.map_append, Tree.trailingComments, Tree.trailingComments,
      Tree.get_edit_of_ne hs, items_edit h]

/-- An edit below statements and taking out one of them do not meet. -/
theorem removeStatement_map_edit (hbody : ∀ s ∈ body, s.label ≠ l) (i : Nat) :
    removeStatement (body.map (Tree.edit l change)) i = (removeStatement body i).map (Tree.edit l change) := by
  have hchange {put put' : Tree → Tree} (hput : ∀ s, s.label ≠ l → put' (s.edit l change) = (put s).edit l change)
      (j : Nat) (body : List Tree) (hbody : ∀ s ∈ body, s.label ≠ l) :
      changeAt put' j (body.map (Tree.edit l change)) = (changeAt put j body).map (Tree.edit l change) := by
    induction body generalizing j with
    | nil => cases j <;> rfl
    | cons s rest ih =>
      obtain ⟨hs, hrest⟩ := List.forall_mem_cons.mp hbody
      cases j with
      | zero => rw [List.map_cons, changeAt, changeAt, List.map_cons, hput s hs]
      | succ j => rw [List.map_cons, changeAt, changeAt, List.map_cons, ih j hrest]
  rw [removeStatement, removeStatement, List.getElem?_map]
  cases hi : body[i]? with
  | none => rfl
  | some removed =>
    have hremoved := hbody removed (List.mem_of_getElem? hi)
    have hkept : ∀ s ∈ body.eraseIdx i, s.label ≠ l := fun s hs => hbody s (List.mem_of_mem_eraseIdx hs)
    rw [Option.map_some]
    dsimp only
    rw [List.eraseIdx_map, List.length_map, comments_edit h hremoved]
    split
    · exact hchange (fun s hs => (edit_prependComments h hs _).symm) _ _ hkept
    · split
      · exact hchange (fun s hs => (edit_appendComments h hs _).symm) _ _ hkept
      · rfl

omit h in
theorem label_ne_of_mem_removeStatement (hbody : ∀ s ∈ body, s.label ≠ l) (i : Nat) :
    ∀ s ∈ removeStatement body i, s.label ≠ l := by
  intro s hs hl
  have hmem : l ∈ (removeStatement body i).map Tree.label := hl ▸ List.mem_map_of_mem hs
  rw [Tree.map_label_removeStatement] at hmem
  obtain ⟨u, hu, hul⟩ := List.mem_map.mp (List.mem_of_mem_eraseIdx hmem)
  exact hbody u hu hul

/-- **An edit below statements and taking out directives do not meet.** -/
theorem strip_map_edit (hbody : ∀ s ∈ body, s.label ≠ l) :
    strip (body.map (Tree.edit l change)) = (strip body).map (Tree.edit l change) := by
  have hlook (s : Tree) : isDirective (s.edit l change) = isDirective s ∧ isStrict (s.edit l change) = isStrict s := by
    rw [Tree.edit_eq_mapObjs]
    exact isDirective_mapObjs (h.ite (·.label = l)) s
  suffices ∀ fuel body i, (∀ s ∈ body, s.label ≠ l) → stripFrom fuel (body.map (Tree.edit l change)) i =
      (stripFrom fuel body i).map (Tree.edit l change) by
    rw [strip, List.length_map, this _ _ _ hbody, strip]
  intro fuel
  induction fuel with
  | zero => exact fun _ _ _ => rfl
  | succ fuel ih =>
    intro body i hbody
    rw [stripFrom, stripFrom, List.getElem?_map]
    cases body[i]? with
    | none => rfl
    | some s =>
      rw [Option.map_some]
      dsimp only
      rw [(hlook s).1, (hlook s).2, removeStatement_map_edit h hbody, ih _ _ (label_ne_of_mem_removeStatement hbody i),
        ih _ _ hbody]
      split
      · split <;> rfl
      · rfl

end Edit

end Deminify.Rules.StrictDirective
