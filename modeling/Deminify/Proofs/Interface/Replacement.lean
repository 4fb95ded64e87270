import Deminify.Proofs.Interface.Statement
import Deminify.Proofs.Rule.Editing
import Deminify.Rules.ExtendsHelper
import Deminify.Rules.Undefined
import Deminify.Rules.WhileLoop

/-!
# Rules that replace nodes

Three rules put nodes in the place of others: a name for `void 0`, a `while` loop for a `for` loop, and an
object for a call of the helper that copies properties. What they replace is no name, and so never on the
outline of a program that has been read; what they put there is nothing that an export would start with.
The places that they go by stay off the outline from one replacement to the next (`Deminify.Tracked`), and
so **all three keep the outline**.
-/

namespace Deminify

open Document Editing

variable {o : List Passed}

/-! ### Steps -/

/-- A value that is apart stays so when it is taken in. -/
theorem Editing.keeps_adopt_apart {t : Tree} (ht : t.Apart o) :
    Keeps (Outlined o) (adopt t) fun t' => t'.Apart o ∧ t'.isObj = t.isObj ∧ t'.kind = t.kind := by
  refine keeps_adopt (fun d hd => (hd.adopt ht).2) fun d hd => ⟨(hd.adopt ht).1, ?_, ?_⟩
  · rw [← Tree.isObj_core, Document.adopt, Tree.core_number, Tree.isObj_core]
  · rw [← Tree.kind_core, Document.adopt, Tree.core_number, Tree.kind_core]

/-- The places with the given numbers are off the outline. -/
def Tracked (o : List Passed) (is : List Nat) (places : Array Place) : Prop :=
  ∀ i ∈ is, Off o (placeAt places i).node ∧ (placeAt places i).key ≠ some "type"

theorem Tracked.modify {is : List Nat} {places : Array Place} (h : Tracked o is places) (i : Nat) {l : Nat}
    (hl : Off o l) : Tracked o is (places.modify i fun place => { place with node := l }) := by
  intro j hj
  obtain ⟨hnode, hkey⟩ := h j hj
  rw [placeAt, Array.getElem?_modify]
  rw [placeAt] at hnode hkey
  split
  · cases hp : places[j]? with
    | none =>
      rw [hp] at hnode hkey
      exact ⟨hnode, hkey⟩
    | some place =>
      rw [hp] at hkey
      exact ⟨hl, hkey⟩
  · exact ⟨hnode, hkey⟩

/-- **Replacing a node at a tracked place** keeps the outline and the places tracked. -/
theorem Editing.keeps_replaceAt {is : List Nat} {places : Array Place} {i : Nat} (h : Tracked o is places)
    (hi : i ∈ is) {new : Tree} (hobj : new.isObj = true) (hnew : new.Apart o)
    (hkind : Outlined.isOutsider new.kind = true) :
    Keeps (Outlined o) (Editing.replaceAt places i new) (Tracked o is) := by
  refine keeps_doc.bind fun d hd => (keeps_ask _).bind fun result hresult => ?_
  obtain ⟨hoff, hkey⟩ := h i hi
  obtain ⟨hout, hplaces⟩ := hd.replaceAt hresult hoff hkey hobj hnew hkind
  refine (keeps_updateDoc fun _ _ => hout).after fun _ => keeps_pure ?_
  rw [hplaces]
  exact h.modify i (hnew.off hobj)

/-- The places of nodes that have no kind of names are tracked. -/
theorem tracked_places {d : Document} (hd : d.Outlined o) (hnamed : ∀ p ∈ o, isNamingKind p.kind = true)
    {found : List (Tree × Nat)} (hfound : ∀ x ∈ found, x ∈ d.root.subtree.zipIdx ∧ x.1.isObj = true ∧
      isNamingKind x.1.kind = false) : Tracked o (found.map (·.2)) d.root.places := by
  intro i hi
  obtain ⟨⟨t, j⟩, hx, rfl⟩ := List.mem_map.mp hi
  obtain ⟨hmem, hobj, hkind⟩ := hfound _ hx
  have ht : d.root.subtree[j]? = some t := List.mem_zipIdx_iff_getElem?.mp hmem
  have hsub := List.mem_of_getElem? ht
  refine ⟨?_, Tree.key_placeAt_ne _ _⟩
  rw [Tree.node_placeAt ht]
  exact hd.off_of_kind hnamed (Tree.subtree_subset_records (Tree.isObj_of_mem_subtree hsub hobj) hsub) hkind

theorem Tree.Apart.withCommentsOf {t other : Tree} (h : t.Apart o) (hother : other.Apart o) :
    (t.withCommentsOf other).Apart o := by
  have hone {t : Tree} (h : t.Apart o) (key : String) : (t.withCommentsAt other key).Apart o := by
    rw [Tree.withCommentsAt]
    split
    · exact h.set (hother.get key) key
    · exact h
  exact hone (hone h _) _

/-- A new node is apart if its fields are. -/
theorem Tree.apart_node (h : Off o 0) (kind : String) {fields : List (String × Tree)}
    (hf : ∀ f ∈ fields, f.2.Apart o) : (Tree.node kind fields).Apart o :=
  Tree.apart_obj h (List.forall_mem_cons.mpr ⟨Tree.apart_of_isLeaf rfl, hf⟩)

theorem Tree.apart_identifier (h : Off o 0) (name : String) : (Tree.identifier name).Apart o :=
  Tree.apart_node h _ (List.forall_mem_singleton.mpr (Tree.apart_of_isLeaf rfl))

namespace Rules

/-! ### The value `undefined` -/

namespace Undefined

theorem keeps_isVoid {I : Document → Prop} (t : Tree) :
    Keeps I (isVoid t) fun b => b = true → t.isKind "UnaryExpression" = true := by
  unfold isVoid
  split
  · rename_i hkind
    refine (keeps_field t "operator").forget.after fun operator => ?_
    split
    · exact (keeps_field t "argument").forget.after fun _ => keeps_pure fun _ => hkind
    · exact keeps_pure fun _ => hkind
  · exact keeps_pure nofun

theorem keeps_replace {is : List Nat} {places : Array Place} {i : Nat} (h : Tracked o is places)
    (hi : i ∈ is) : Keeps (Outlined o) (replace places i) (Tracked o is) := by
  refine keeps_doc.bind fun d hd => keeps_view.after fun s => ?_
  dsimp only
  split
  · exact keeps_pure h
  have hold : (d.nodeAt places i).Apart o := hd.apart_get (h i hi).1
  refine (keeps_adopt_apart ((Tree.apart_identifier hd.off_zero _).withCommentsOf hold)).bind ?_
  rintro new ⟨hnew, hobj, hkind⟩
  rw [Tree.isObj_withCommentsOf] at hobj
  rw [Tree.kind_withCommentsOf] at hkind
  refine (keeps_replaceAt h hi hobj hnew (by rw [hkind]; rfl)).bind fun places hplaces => ?_
  exact keeps_doc.forget.after fun _ => (keeps_updateView _).after fun _ => keeps_pure hplaces

/-- **Writing `undefined` keeps the outline.** -/
theorem keeps_run (hnamed : ∀ p ∈ o, isNamingKind p.kind = true) :
    Keeps (Outlined o) run fun _ => True := by
  refine keeps_scopes.discard.after fun _ => keeps_root.bind ?_
  rintro _ ⟨d, hd, rfl⟩
  refine (keeps_filterM fun x _ => keeps_isVoid x.1).bind fun voids hvoids => ?_
  have htracked : Tracked o (voids.map (·.2)) d.root.places := by
    refine tracked_places hd hnamed fun x hx => ⟨(hvoids x hx).1, ?_⟩
    obtain ⟨hobj, hkind⟩ := Tree.kind_of_isKind (hvoids x hx).2
    exact ⟨hobj, by rw [hkind]; rfl⟩
  exact (keeps_foldlM htracked fun i hi places hplaces => keeps_replace hplaces hi).discard

end Undefined

/-! ### Loops -/

namespace WhileLoop

theorem apart_whileOf (h : Off o 0) {loop body : Tree} (hloop : loop.Apart o) (hbody : body.Apart o) :
    (whileOf loop body).Apart o := by
  refine Tree.Apart.withCommentsOf (Tree.apart_node h _ (List.forall_mem_cons.mpr ⟨?_, ?_⟩)) hloop
  · dsimp only
    split
    · exact hloop.get "test"
    · exact Tree.apart_node h _ (List.forall_mem_cons.mpr
        ⟨Tree.apart_of_isLeaf rfl, List.forall_mem_singleton.mpr (Tree.apart_of_isLeaf rfl)⟩)
  · exact List.forall_mem_singleton.mpr hbody

theorem keeps_replace {is : List Nat} {places : Array Place} {i : Nat} (h : Tracked o is places)
    (hi : i ∈ is) : Keeps (Outlined o) (replace places i) (Tracked o is) := by
  refine keeps_doc.bind fun d hd => (keeps_field _ "body").bind fun body hbody => ?_
  have hloop : (d.nodeAt places i).Apart o := hd.apart_get (h i hi).1
  have hwhile := apart_whileOf hd.off_zero hloop (Tree.get_of_get? hbody ▸ hloop.get "body")
  refine (keeps_adopt_apart hwhile).bind ?_
  rintro new ⟨hnew, hobj, hkind⟩
  rw [whileOf, Tree.isObj_withCommentsOf] at hobj
  rw [whileOf, Tree.kind_withCommentsOf] at hkind
  exact keeps_replaceAt h hi hobj hnew (by rw [hkind]; rfl)

/-- **Turning `for` into `while` keeps the outline.** -/
theorem keeps_run (hnamed : ∀ p ∈ o, isNamingKind p.kind = true) :
    Keeps (Outlined o) run fun _ => True := by
  refine keeps_root.bind ?_
  rintro _ ⟨d, hd, rfl⟩
  dsimp only
  have htracked : Tracked o ((d.root.subtree.zipIdx.filter fun x => isBareFor x.1).map (·.2))
      d.root.places := by
    refine tracked_places hd hnamed fun x hx => ?_
    obtain ⟨hmem, hbare⟩ := List.mem_filter.mp hx
    obtain ⟨hobj, hkind⟩ := Tree.kind_of_isKind (Bool.and_eq_true_iff.mp (Bool.and_eq_true_iff.mp hbare).1).1
    exact ⟨hmem, hobj, by rw [hkind]; rfl⟩
  refine (keeps_foldlM htracked fun i hi places hplaces => keeps_replace hplaces hi).discard.after fun _ => ?_
  split
  · exact keeps_resetView
  · exact keeps_pure trivial

end WhileLoop

/-! ### The helper that copies properties -/

namespace ExtendsHelper

section Questions

variable {I : Document → Prop}

theorem keeps_requiredSourceWithin (fuel : Nat) (init : Tree) :
    Keeps I (requiredSourceWithin fuel init) fun _ => True := by
  induction fuel generalizing init with
  | zero => exact keeps_pure trivial
  | succ fuel ih =>
    unfold requiredSourceWithin
    split
    · exact keeps_pure trivial
    refine (keeps_kindOf init).forget.after fun kind => ?_
    split
    · exact keeps_pure trivial
    refine (keeps_listField init _).forget.after fun arguments =>
      (keeps_field init _).forget.after fun callee => (keeps_isNamed callee _).after fun named => ?_
    split
    · split <;> exact keeps_pure trivial
    · split
      · exact ih _
      · exact keeps_pure trivial

theorem keeps_helpersOf (s : ScopeTree) (sources : List String) (statement : Tree) :
    Keeps I (helpersOf s sources statement) fun _ => True := by
  unfold helpersOf
  dsimp only
  refine (keeps_kindOf statement).forget.after fun kind => ?_
  split
  · refine (keeps_field statement _).forget.after fun source => ?_
    split
    · refine (keeps_filterMapM (R := fun _ => True) fun specifier _ => ?_).forget
      split
      · exact (keeps_field specifier _).forget.after fun _ => keeps_pure fun _ _ => trivial
      · exact keeps_pure nofun
    · exact keeps_pure trivial
  · refine (keeps_listField statement _).forget.after fun declarations => ?_
    refine (keeps_filterMapM (R := fun _ => True) fun declarator _ => ?_).forget
    refine (keeps_field declarator _).forget.after fun target => ?_
    split
    · exact keeps_pure nofun
    · refine (keeps_requiredSourceWithin _ _).after fun source => ?_
      split
      · exact keeps_pure nofun
      · exact keeps_pure fun _ _ => trivial
  · exact keeps_pure trivial

theorem keeps_helperBindings (s : ScopeTree) (sources : List String) (root : Tree) :
    Keeps I (helperBindings s sources root) fun _ => True :=
  (keeps_listField root _).forget.after fun _ =>
    (keeps_mapM fun statement _ => keeps_helpersOf s sources statement).forget.after fun _ =>
      keeps_pure trivial

theorem keeps_calledIn? (callee : Tree) : Keeps I (calledIn? callee) fun _ => True := by
  refine (keeps_kindOf callee).forget.after fun kind => ?_
  split
  · exact keeps_pure trivial
  · refine (keeps_listField callee _).forget.after fun expressions => ?_
    split <;> exact keeps_pure trivial

theorem keeps_withoutDefault? (callee : Tree) : Keeps I (withoutDefault? callee) fun _ => True := by
  refine (keeps_kindOf callee).forget.after fun kind => ?_
  split
  · exact keeps_pure trivial
  · refine (keeps_field callee _).forget.after fun property => ?_
    split
    · exact keeps_pure trivial
    · refine (keeps_isNamed property _).after fun named => ?_
      split
      · exact (keeps_field callee _).forget.after fun _ => keeps_pure trivial
      · exact keeps_pure trivial

theorem keeps_helperName? (s : ScopeTree) (helpers : List Nat) (callee : Tree) :
    Keeps I (helperName? s helpers callee) fun _ => True := by
  refine (keeps_calledIn? callee).after fun called => ?_
  split
  · exact keeps_pure trivial
  · refine (keeps_withoutDefault? _).after fun name => ?_
    split
    · exact keeps_pure trivial
    · split <;> exact keeps_pure trivial

end Questions

/-! The object that takes the place of a call is made of parts of that call. -/

theorem apart_of_listField {t : Tree} (h : t.Apart o) {key : String} {items : List Tree}
    (hget : t.get? key = some (.list items)) : ∀ item ∈ items, item.Apart o :=
  Tree.apart_list.mp (Tree.get_of_get? hget ▸ h.get key)

theorem keeps_merged (hzero : Off o 0) {arguments : List Tree} (h : ∀ a ∈ arguments, a.Apart o) :
    Keeps (Outlined o) (merged arguments) fun parts => ∀ t ∈ parts, t.Apart o := by
  have hpart (a : Tree) (ha : a ∈ arguments) : Keeps (Outlined o) (do
      if (← a.kindOf) == "ObjectExpression" then a.listField "properties"
      else return [Tree.spreadElement a]) fun parts => ∀ t ∈ parts, t.Apart o := by
    refine (keeps_kindOf a).forget.after fun kind => ?_
    split
    · exact (keeps_listField a _).mono fun items hitems => apart_of_listField (h a ha) hitems
    · refine keeps_pure (List.forall_mem_singleton.mpr ?_)
      exact Tree.apart_node hzero _ (List.forall_mem_singleton.mpr (h a ha))
  refine (keeps_mapM hpart).bind fun parts hparts => keeps_pure fun t ht => ?_
  obtain ⟨part, hmem, ht⟩ := List.mem_flatten.mp ht
  exact hparts part hmem t ht

theorem keeps_objectOf? (hzero : Off o 0) {arguments : List Tree} (h : ∀ a ∈ arguments, a.Apart o) :
    Keeps (Outlined o) (objectOf? arguments) fun object? => ∀ object ∈ object?,
      object.Apart o ∧ object.isObj = true ∧ object.kind = "ObjectExpression" := by
  unfold objectOf?
  split
  · exact keeps_pure nofun
  · rename_i first _
    refine (keeps_kindOf first).forget.after fun kind => ?_
    split
    · exact keeps_pure nofun
    · refine (keeps_anyM fun a _ => (keeps_kindOf a).forget.after fun _ => keeps_pure trivial).after fun spread => ?_
      split
      · exact keeps_pure nofun
      · refine (keeps_merged hzero h).bind fun parts hparts => keeps_pure ?_
        rintro _ ⟨⟩
        refine ⟨?_, rfl, rfl⟩
        exact Tree.apart_node hzero _ (List.forall_mem_singleton.mpr (Tree.apart_list.mpr hparts))

theorem keeps_restore {helpers : List Nat} {is : List Nat} {places : Array Place} {i : Nat}
    (h : Tracked o is places) (hi : i ∈ is) :
    Keeps (Outlined o) (restore helpers places i) (Tracked o is) := by
  refine keeps_doc.bind fun d hd => ?_
  have hcall : (d.nodeAt places i).Apart o := hd.apart_get (h i hi).1
  dsimp only
  refine keeps_view.after fun s => (keeps_field _ _).forget.after fun callee =>
    (keeps_helperName? s helpers callee).after fun name? => ?_
  split
  · exact keeps_pure h
  refine (keeps_listField _ _).bind fun arguments harguments => ?_
  refine (keeps_objectOf? hd.off_zero (apart_of_listField hcall harguments)).bind fun object? hobject => ?_
  split
  · exact keeps_pure h
  · obtain ⟨hapart, hobj, hkind⟩ := hobject _ rfl
    refine (keeps_updateView _).after fun _ => (keeps_adopt_apart (hapart.withCommentsOf hcall)).bind ?_
    rintro new ⟨hnew, hnewObj, hnewKind⟩
    rw [Tree.isObj_withCommentsOf] at hnewObj
    rw [Tree.kind_withCommentsOf, hkind] at hnewKind
    exact keeps_replaceAt h hi (hnewObj.trans hobj) hnew (by rw [hnewKind]; rfl)

/-! Where nothing uses the helper any more, what binds it goes: imports and variables, but no exports. -/

theorem not_leadsTo_of_bindingKey? {statement : Tree} {key : String} (h : bindingKey? statement = some key) :
    statement.isObj = true ∧ leadsTo "Program" "body" true statement.kind = false ∧ key ≠ "type" := by
  unfold bindingKey? at h
  split at h
  · rename_i hkind
    cases h
    obtain ⟨hobj, hkind⟩ := Tree.kind_of_isKind hkind
    exact ⟨hobj, by rw [hkind]; rfl, by decide⟩
  · split at h
    · rename_i hkind
      cases h
      obtain ⟨hobj, hkind⟩ := Tree.kind_of_isKind hkind
      exact ⟨hobj, by rw [hkind]; rfl, by decide⟩
    · cases h

/-- A statement that binds something is no export, and it does not become one when it binds less. -/
theorem outlineAt_of_bindingKey? {statement : Tree} {key : String} (h : bindingKey? statement = some key) :
    Tree.outlineAt "Program" "body" true statement = [] ∧
      ∀ value, Tree.outlineAt "Program" "body" true (statement.set key value) = [] := by
  obtain ⟨hobj, hnot, htype⟩ := not_leadsTo_of_bindingKey? h
  refine ⟨Tree.outlineAt_of_not_leadsTo hobj hnot, fun value => ?_⟩
  exact Tree.outlineAt_of_not_leadsTo (by rwa [Tree.isObj_set]) (by rwa [Tree.kind_set htype])

theorem statementOutline_dropNodesFrom (nodes : List Nat) (fuel : Nat) (body : List Tree) (index : Nat) :
    Tree.statementOutline (dropNodesFrom nodes fuel body index) = Tree.statementOutline body := by
  induction fuel generalizing body index with
  | zero => rfl
  | succ fuel ih =>
    rw [dropNodesFrom]
    cases hi : body[index]? with
    | none => rfl
    | some statement =>
      dsimp only
      cases hkey : bindingKey? statement with
      | none => exact ih _ _
      | some key =>
        obtain ⟨hnot, hset⟩ := outlineAt_of_bindingKey? hkey
        dsimp only
        split
        · exact ih _ _
        · split
          · rw [ih, Tree.statementOutline_removeStatement hi hnot]
          · rw [ih, Tree.statementOutline, Document.Outlined.flatMap_set hi]
            · rfl
            · rw [hset, hnot]

theorem count_labels_dropNodesFrom (nodes : List Nat) (fuel : Nat) (body : List Tree) (index l : Nat) :
    ((dropNodesFrom nodes fuel body index).flatMap Tree.labels).count l ≤ (body.flatMap Tree.labels).count l := by
  induction fuel generalizing body index with
  | zero => exact Nat.le_refl _
  | succ fuel ih =>
    rw [dropNodesFrom]
    cases hi : body[index]? with
    | none => exact Nat.le_refl _
    | some statement =>
      dsimp only
      cases hkey : bindingKey? statement with
      | none => exact ih _ _
      | some key =>
        dsimp only
        split
        · exact ih _ _
        · split
          · exact Nat.le_trans (ih _ _) (Tree.count_labels_removeStatement body index)
          · refine Nat.le_trans (ih _ _) (Outlined.count_flatMap_set_le fun a ha => ?_)
            obtain rfl := Option.some.inj (hi.symm.trans ha)
            refine Tree.count_labels_set ?_
            rw [Tree.labels_list]
            refine Nat.le_trans ?_ (Tree.count_labels_items _)
            exact Tree.count_labels_sublist List.filter_sublist

theorem keeps_removeUnused (helpers : List Nat) : Keeps (Outlined o) (removeUnused helpers) fun _ => True := by
  refine keeps_view.after fun s => ?_
  dsimp only
  split
  · exact keeps_pure trivial
  refine keeps_root.forget.after fun root => (keeps_statementLists root).bind fun lists hlists => ?_
  have hdrop {nodes : List Nat} {entry : Nat × String} (hentry : entry ∈ lists) (d : Document) (hd : d.Outlined o) :
      (d.editList entry.1 entry.2 (dropNodes nodes)).Outlined o := by
    refine hd.editStatements (hlists entry hentry) (fun items p _ => ?_) fun items _ => ?_
    · rw [Tree.labels_list, Tree.labels_list]
      exact count_labels_dropNodesFrom nodes _ _ _ _
    · exact statementOutline_dropNodesFrom nodes _ _ _
  refine (keeps_forIn (S := fun _ => True) trivial fun entry hentry _ _ => ?_).after fun _ => ?_
  · exact (keeps_updateDoc (hdrop hentry)).after fun _ => keeps_pure trivial
  · refine (keeps_forIn (S := fun _ => True) trivial fun b _ _ _ => ?_).after fun _ => keeps_pure trivial
    exact (keeps_updateView _).after fun _ => keeps_pure trivial

/-- **Restoring spreads keeps the outline.** -/
theorem keeps_run (hnamed : ∀ p ∈ o, isNamingKind p.kind = true) (options : Options) :
    Keeps (Outlined o) (run options) fun _ => True := by
  refine keeps_scopes.after fun s => keeps_root.bind ?_
  rintro _ ⟨d, hd, rfl⟩
  refine (keeps_helperBindings s _ _).after fun helpers => ?_
  split
  · exact keeps_pure trivial
  dsimp only
  have htracked : Tracked o ((d.root.subtree.zipIdx.filter (·.1.isKind "CallExpression")).map (·.2))
      d.root.places := by
    refine tracked_places hd hnamed fun x hx => ?_
    obtain ⟨hmem, hkind⟩ := List.mem_filter.mp hx
    obtain ⟨hobj, hkind⟩ := Tree.kind_of_isKind hkind
    exact ⟨hmem, hobj, by rw [hkind]; rfl⟩
  refine (keeps_foldlM htracked fun i hi places hplaces => ?_).discard.after fun _ => keeps_removeUnused helpers
  exact keeps_restore hplaces (List.mem_reverse.mp hi)

end ExtendsHelper

end Rules

end Deminify
