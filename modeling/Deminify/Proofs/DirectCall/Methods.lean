import Deminify.Proofs.DirectCall.Required
import Deminify.Proofs.DirectCall.Tidy

/-!
# The methods of a program

The calls `(0, object.method)(…)` of a program are collected by object and method. The object is the one name in its
callee that matters (`Deminify.Rules.DirectCall.answers_indirect?`), and it comes from an import or from a declaration
with a known scope (`Deminify.Rules.DirectCall.answers_originOf?`). **All the questions are answered, and the calls of
all methods are made direct** (`Deminify.Rules.DirectCall.ends_makeAllDirect`).
-/

namespace Deminify

namespace Rules.DirectCall

open Editing ScopeTree

/-! ### Questions about the nodes of a program -/

section Questions

variable {c : Context} {d : Document} (hd : d.InOrder) {t : Tree} (ht : t ∈ d.root.subtree)

theorem answers_kindOf (h : t.hasFields = true) : Answers t.kindOf c (· = t.kind) :=
  answers_textField (Tree.get?_type_of_hasFields h)

theorem answers_listFieldOf (h : t.hasFields = true) {key : String} {kinds : String → Bool}
    (hs : Tree.fieldSort t.kind key = some (.nodes kinds)) : Answers (t.listField key) c (· = (t.get key).items) := by
  obtain ⟨items, hlist, -⟩ := Tree.exists_list_of_nodes h hs
  refine (answers_fieldOf h hs).bind fun v hv => ?_
  subst hv
  rw [hlist]
  exact answers_pure rfl

include hd ht

/-- What a member takes is a name or a text, if it is fixed. -/
theorem answers_staticName (hk : t.kind = "MemberExpression") : Answers t.staticName c fun name? =>
    ∀ name, name? = some name → (t.get "property").kind = "Identifier" ∨ (t.get "property").kind = "Literal" := by
  have hs : Tree.fieldSort t.kind "property" = some .expression := by
    rw [hk]
    rfl
  refine (answers_fieldOf (hd.fields t ht) hs).bind fun v hv => ?_
  subst hv
  dsimp only
  have hf := hd.fields _ (hd.mem_get ht hs).1
  split
  · rename_i hid
    have hid := (Tree.kind_of_isKind (Bool.and_eq_true_iff.mp hid).2).2
    exact (answers_name hf hid).bind fun y _ => answers_pure fun _ _ => .inl hid
  split
  · rename_i hlit
    rw [Bool.and_eq_true, Tree.isStringLiteral, Bool.and_eq_true] at hlit
    exact answers_pure fun _ _ => .inr (Tree.kind_of_isKind hlit.2.1).2
  · exact answers_pure nofun

omit ht in
theorem isCalleePart_of_atom {n m : Tree} (hn : n ∈ d.root.subtree) (hk : n.kind = "Identifier" ∨ n.kind = "Literal")
    (hm : m ∈ n.subtree) : isCalleePart m.kind = true := by
  rw [Tree.subtree_atom (hd.fields n hn) hk, List.mem_singleton] at hm
  subst hm
  rcases hk with hk | hk <;> rw [hk] <;> rfl

/-- The parts of a member are those of a callee, if it takes a name or a text from a name. -/
theorem isCalleePart_of_member (hk : t.kind = "MemberExpression") (hobject : (t.get "object").kind = "Identifier")
    (hproperty : (t.get "property").kind = "Identifier" ∨ (t.get "property").kind = "Literal") {m : Tree}
    (hm : m ∈ t.subtree) : isCalleePart m.kind = true := by
  have hf := hd.fields t ht
  rcases Tree.mem_subtree.mp hm with rfl | ⟨c, hc, hm⟩
  · rw [hk]
    rfl
  have object : Tree.fieldSort t.kind "object" = some .expression := by rw [hk]; rfl
  have property : Tree.fieldSort t.kind "property" = some .expression := by rw [hk]; rfl
  obtain ⟨spec, key, sort, hspec, hs, ha, hc, -⟩ := Tree.exists_of_mem_children hf hc
  rw [hk] at hspec
  cases hspec
  simp only [List.mem_cons, Prod.mk.injEq, List.not_mem_nil, or_false] at hs
  rcases hs with ⟨-, rfl⟩ | ⟨rfl, -⟩ | ⟨rfl, -⟩
  · cases ha
  · obtain rfl := (Tree.mem_nodesAt_node hf object).mp hc
    exact isCalleePart_of_atom hd (hd.mem_get ht object).1 (.inl hobject) hm
  · obtain rfl := (Tree.mem_nodesAt_node hf property).mp hc
    exact isCalleePart_of_atom hd (hd.mem_get ht property).1 hproperty hm

/-- The parts of a sequence are those of a callee, if there are but literals in front of the last one. -/
theorem isCalleePart_of_sequence (hk : t.kind = "SequenceExpression") {member : Tree}
    (hlast : (t.get "expressions").items.getLast? = some member)
    (hliterals : ∀ x ∈ (t.get "expressions").items.dropLast, x.isKind "Literal" = true)
    (hmember : ∀ m ∈ member.subtree, isCalleePart m.kind = true) {m : Tree} (hm : m ∈ t.subtree) :
    isCalleePart m.kind = true := by
  have hf := hd.fields t ht
  rcases Tree.mem_subtree.mp hm with rfl | ⟨c, hc, hm⟩
  · rw [hk]
    rfl
  have hs : Tree.fieldSort t.kind "expressions" = some (.nodes isExpressionKind) := by rw [hk]; rfl
  obtain ⟨spec, key, sort, hspec, hkey, -, hc, -⟩ := Tree.exists_of_mem_children hf hc
  rw [hk] at hspec
  cases hspec
  obtain ⟨rfl, -⟩ := Prod.mk.inj (List.mem_singleton.mp hkey)
  have hc := (Tree.mem_nodesAt_nodes hf hs).mp hc
  rw [← List.dropLast_append_getLast? _ hlast, List.mem_append, List.mem_singleton] at hc
  rcases hc with hc | rfl
  · have hlit := (Tree.kind_of_isKind (hliterals c hc)).2
    exact isCalleePart_of_atom hd (hd.mem_items ht hs (List.dropLast_subset _ hc)) (.inr hlit) hm
  · exact hmember m hm

/-- The callee of an indirect call has parts of some kinds, and the object is one of them. -/
theorem answers_indirect? : Answers (indirect? t) c fun found => ∀ object name, found = some (object, name) →
    (∀ n ∈ t.subtree, isCalleePart n.kind = true) ∧ object ∈ t.subtree := by
  have hf := hd.fields t ht
  -- the questions are followed in their order, and each one that goes on says of what kind the part is
  refine (answers_kindOf hf).bind fun kind hkind => ?_
  subst hkind
  split
  · exact answers_pure nofun
  rename_i hk
  have hk : t.kind = "SequenceExpression" := by simpa using hk
  have hs : Tree.fieldSort t.kind "expressions" = some (.nodes isExpressionKind) := by
    rw [hk]
    rfl
  refine (answers_listFieldOf hf hs).bind fun expressions he => ?_
  subst he
  dsimp only
  split
  · exact answers_pure nofun
  rename_i hlits
  rw [Bool.or_eq_true, not_or, Bool.not_eq_true', Bool.not_eq_false, List.all_eq_true] at hlits
  split
  · exact answers_pure nofun
  rename_i member hlast
  have hmem := List.mem_of_getLast? hlast
  have hin := hd.mem_items ht hs hmem
  refine (answers_kindOf (hd.fields _ hin)).bind fun kind hkind => ?_
  subst hkind
  split
  · exact answers_pure nofun
  rename_i hmk
  have hmk : member.kind = "MemberExpression" := by simpa using hmk
  have hobject : Tree.fieldSort member.kind "object" = some .expression := by
    rw [hmk]
    rfl
  refine (answers_fieldOf (hd.fields _ hin) hobject).bind fun object ho => ?_
  subst ho
  split
  · exact answers_pure nofun
  rename_i hid
  have hid : (member.get "object").kind = "Identifier" := (Tree.kind_of_isKind (by simpa [Tree.isIdentifier] using hid)).2
  refine (answers_staticName hd hin hmk).bind fun name? hname => answers_pure fun object name hfound => ?_
  obtain ⟨method, rfl, hmethod⟩ := Option.bind_eq_some_iff.mp hfound
  obtain ⟨rfl, -⟩ : member.get "object" = object ∧ method = name := by
    split at hmethod
    · simpa using hmethod
    · cases hmethod
  refine ⟨fun n => isCalleePart_of_sequence hd ht hk hlast hlits.2 fun m =>
    isCalleePart_of_member hd hin hmk hid (hname _ rfl), ?_⟩
  refine Tree.subtree_subset_of_mem_children
    (Tree.mem_children_of_nodesAt hf ((Tree.mem_nodesAt_nodes hf hs).mpr hmem)) ?_
  exact Tree.subtree_subset_of_mem_children (Tree.mem_children_of_nodesAt (hd.fields _ hin)
    ((Tree.mem_nodesAt_node (hd.fields _ hin) hobject).mpr rfl)) (Tree.mem_subtree_self _)

theorem answers_isRequire (hk : t.kind = "VariableDeclarator") : Answers (isRequire (t.get "init")) c fun _ => True := by
  have hs : Tree.fieldSort t.kind "init" = some (.optional isExpressionKind) := by
    rw [hk]
    rfl
  unfold isRequire
  split
  · exact answers_pure trivial
  rename_i hnull
  have htakes := Tree.takes_of_fieldSort (hd.fields t ht) hs
  rw [FieldSort.takes, Bool.or_eq_true] at htakes
  have hnode := Tree.isNode_of_isOf (htakes.resolve_left hnull)
  have hin : t.get "init" ∈ d.root.subtree := Tree.subtree_subset ht (Tree.subtree_subset_of_mem_children
    (Tree.mem_children_of_nodesAt (hd.fields t ht) (Tree.get_mem_nodesAt hs hnode)) (Tree.mem_subtree_self _))
  have hf := hd.fields _ hin
  refine (answers_kindOf hf).bind fun kind hkind => ?_
  subst hkind
  split
  · exact answers_pure trivial
  rename_i hcall
  have hcall : (t.get "init").kind = "CallExpression" := by simpa using hcall
  have hcallee : Tree.fieldSort (t.get "init").kind "callee" = some .expression := by
    rw [hcall]
    rfl
  have harguments : Tree.fieldSort (t.get "init").kind "arguments" = some (.nodes isExpressionKind) := by
    rw [hcall]
    rfl
  refine (answers_fieldOf hf hcallee).bind fun callee hc => ?_
  subst hc
  have hcf := hd.fields _ (hd.mem_get hin hcallee).1
  -- whatever the answers are, only that each question has one matters here
  have hnamed : Answers (((t.get "init").get "callee").isNamed "require") c fun _ => True := by
    unfold Tree.isNamed
    split
    · rename_i hid
      have hname : Tree.fieldSort ((t.get "init").get "callee").kind "name" = some .text := by
        rw [(Tree.kind_of_isKind hid).2]
        rfl
      refine (answers_fieldOf hcf hname).bind fun v _ => ?_
      split <;> exact answers_pure trivial
    · exact answers_pure trivial
  refine hnamed.bind fun named _ => ?_
  split
  · exact answers_pure trivial
  refine (answers_listFieldOf hf harguments).bind fun arguments _ => ?_
  split <;> exact answers_pure trivial

end Questions

theorem answers_statementLists {c : Context} {d : Document} (hd : d.InOrder) :
    Answers d.root.statementLists c fun lists => ∀ list ∈ lists, ∃ r ∈ d.root.subtree, r.label = list.1 ∧
      Tree.statementKey r.kind = some list.2 := by
  refine answers_filterMapM fun r hr => ?_
  split
  · exact answers_pure nofun
  · rename_i key hkey
    have hs := (fieldSort_of_statementKey (hd.fields r hr) hkey).1
    refine (answers_fieldOf (hd.fields r hr) hs).discard.bind ?_
    rintro - _ ⟨-, rfl, -⟩
    refine answers_pure ?_
    rintro _ ⟨⟩
    exact ⟨rfl, hkey⟩

/-! ### Where objects come from -/

/-- **Whether an origin is an import** of a program. -/
structure IsImported (start : Document) (origin : Origin) : Prop where
  declared : ∃ i ∈ start.body, i.kind = "ImportDeclaration" ∧ i.label = origin.statement
  owner : origin.owner = start.root.label
  key : origin.key = "body"

/-- Whether an origin is the import or the declaration of a module. -/
def IsOrigin (start : Document) (s₀ : ScopeTree) (origin : Origin) : Prop :=
  if origin.imported = true then IsImported start origin else ∃ k, IsRequired start s₀ origin k

section Origins

variable {c : Context} {start : Document} {notes : List Note}

theorem mem_of_statementOf? {d : Document} {owner l : Nat} {listKey kind key : String} {t : Tree}
    (h : statementOf? d owner listKey kind key l = some t) : t ∈ d.listAt owner listKey ∧ t.isKind kind = true ∧
      ∃ m ∈ (t.get key).items, m.label = l := by
  have hfound := List.find?_some h
  rw [Bool.and_eq_true, List.any_eq_true] at hfound
  obtain ⟨hk, m, hm, hl⟩ := hfound
  exact ⟨List.mem_of_find?_eq_some h, hk, m, hm, beq_iff_eq.mp hl⟩

theorem answers_originOf? (hs : Starts start notes) (b : Nat) :
    Answers (originOf? start (ofNotes start.root.label notes) b) c fun origin? =>
      ∀ origin, origin? = some origin → IsOrigin start (ofNotes start.root.label notes) origin := by
  have hd := hs.order
  unfold originOf?
  dsimp only
  split
  · exact answers_pure nofun
  rename_i node hnode
  obtain ⟨l, hl, hfind⟩ := Option.bind_eq_some_iff.mp hnode
  obtain ⟨n, hn, rfl, hscope⟩ := hs.tells.exists_node hs.is hs.walked hl
  obtain rfl := Option.some.inj ((hd.find?_label hn).symm.trans hfind)
  split
  · -- an import
    refine answers_pure fun origin ho => ?_
    obtain ⟨t, ht, rfl⟩ := Option.map_eq_some_iff.mp ho
    obtain ⟨hmem, hk, -⟩ := mem_of_statementOf? ht
    rw [hd.listAt_root] at hmem
    rw [IsOrigin, if_pos rfl]
    exact ⟨⟨t, hmem, (Tree.kind_of_isKind hk).2, rfl⟩, rfl, rfl⟩
  split
  · rename_i hk
    have hk := (Tree.kind_of_isKind hk).2
    refine (answers_isRequire hd hn hk).bind fun required _ => ?_
    split
    · refine (answers_statementLists hd).bind fun lists hlists => answers_pure fun origin ho => ?_
      obtain ⟨⟨owner, key⟩, hlist, ho⟩ := List.exists_of_findSome?_eq_some ho
      obtain ⟨t, ht, rfl⟩ := Option.map_eq_some_iff.mp ho
      obtain ⟨r, hr, rfl, hkey⟩ := hlists _ hlist
      obtain ⟨hmem, htk, m, hm, hml⟩ := mem_of_statementOf? ht
      obtain ⟨hs, -⟩ := fieldSort_of_statementKey (hd.fields r hr) hkey
      rw [Document.listAt, hd.get_label hr] at hmem
      have htin := hd.mem_items hr hs hmem
      have htk := (Tree.kind_of_isKind htk).2
      -- the declarator is in one declaration only
      have hdeclarations {u : Tree} (hu : u.kind = "VariableDeclaration") :
          Tree.fieldSort u.kind "declarations" = some (.nodes (· == "VariableDeclarator")) := by
        rw [hu]
        rfl
      have hchild {u : Tree} (hu : u ∈ start.root.subtree) (huk : u.kind = "VariableDeclaration")
          (hin : n ∈ (u.get "declarations").items) : n ∈ u.children :=
        Tree.mem_children_of_nodesAt (hd.fields u hu)
          ((Tree.mem_nodesAt_nodes (hd.fields u hu) (hdeclarations huk)).mpr hin)
      obtain ⟨t', ht', hk', hin, hsome⟩ := hscope hk
      obtain rfl : n = m := (hd.eq_of_label hn (hd.mem_records (hd.mem_items htin (hdeclarations htk) hm)) hml).symm
      obtain rfl := hd.labelled.parent_eq ht' htin (hchild ht' hk' hin) (hchild htin htk hm)
      obtain ⟨k, hk⟩ := Option.isSome_iff_exists.mp hsome
      rw [IsOrigin, if_neg Bool.false_ne_true]
      exact ⟨k, ⟨r, hr, rfl, hkey, t', hmem, rfl, htk⟩, hk⟩
    · exact answers_pure nofun
  · exact answers_pure nofun

end Origins

/-! ### Methods -/

/-- **Whether a method is of a module**, and its calls are those of a program. -/
structure IsMethod (start : Document) (s₀ : ScopeTree) (method : Method) : Prop where
  origin : IsOrigin start s₀ method.origin
  calls : ∀ call ∈ method.calls, OldCall start call ∧ ∃ c, IsCall start call c

section Methods

variable {c : Context} {start : Document} {notes : List Note} {calls : List (Nat × Nat)} {methods : List Method}
  {method : Method} {s : ScopeTree} {touched : Nat → Prop}

theorem answers_addCall (hs : Starts start notes) {call : Tree} (hc : call ∈ start.root.subtree)
    (hk : call.kind = "CallExpression") (hm : ∀ m ∈ methods, IsMethod start (ofNotes start.root.label notes) m) :
    Answers (addCall start (ofNotes start.root.label notes) methods call) c fun methods' =>
      ∀ m ∈ methods', IsMethod start (ofNotes start.root.label notes) m := by
  have hd := hs.order
  have hcallee : Tree.fieldSort call.kind "callee" = some .expression := by
    rw [hk]
    rfl
  have hin := (hd.mem_get hc hcallee).1
  refine (answers_fieldOf (hd.fields call hc) hcallee).bind fun callee he => ?_
  subst he
  refine (answers_indirect? hd hin).bind fun found hfound => ?_
  cases found with
  | none => exact answers_pure hm
  | some found =>
  obtain ⟨object, name⟩ := found
  obtain ⟨hparts, ho⟩ := hfound object name rfl
  have hobject := Tree.mem_labels_of_mem_subtree (hd.isObj hin) ho
  have hcall : OldCall start (call.label, object.label) ∧ ∃ c, IsCall start (call.label, object.label) c :=
    ⟨⟨⟨call, hc, rfl, hk⟩, object, Tree.subtree_subset hin ho, rfl⟩, call, hc, rfl, hk, hparts, fun _ => hobject⟩
  dsimp only
  split
  · exact answers_pure hm
  rename_i b _
  split
  · refine answers_pure fun m hmem => ?_
    obtain ⟨m', hm', rfl⟩ := List.mem_map.mp hmem
    split
    · exact ⟨(hm m' hm').origin, List.forall_mem_append.mpr ⟨(hm m' hm').calls, List.forall_mem_singleton.mpr hcall⟩⟩
    · exact hm m' hm'
  · refine (answers_originOf? hs b).bind fun origin? horigin => ?_
    cases origin? with
    | none => exact answers_pure hm
    | some origin =>
      refine answers_pure (List.forall_mem_append.mpr ⟨hm, List.forall_mem_singleton.mpr ?_⟩)
      exact ⟨horigin origin rfl, List.forall_mem_singleton.mpr hcall⟩

/-- **The methods that are found** are of modules. -/
theorem answers_methods (hs : Starts start notes) {found : List Tree}
    (hfound : ∀ call ∈ found, call ∈ start.root.subtree ∧ call.kind = "CallExpression") :
    Answers (found.foldlM (addCall start (ofNotes start.root.label notes)) []) c fun methods =>
      ∀ m ∈ methods, IsMethod start (ofNotes start.root.label notes) m := by
  refine (ends_foldlM (I := fun rest methods c' => c' = c ∧
    (∀ m ∈ methods, IsMethod start (ofNotes start.root.label notes) m) ∧
    ∀ call ∈ rest, call ∈ start.root.subtree ∧ call.kind = "CallExpression") ?_
    ⟨rfl, fun _ hm => absurd hm List.not_mem_nil, hfound⟩).mono fun _ _ h => ⟨h.1, h.2.1⟩
  rintro call rest methods _ ⟨rfl, hm, hrest⟩
  obtain ⟨⟨hc, hk⟩, hrest⟩ := List.forall_mem_cons.mp hrest
  exact (answers_addCall hs hc hk hm).mono fun _ h => ⟨h, hrest⟩

theorem ends_calls (touched : Nat → Prop) {P : Document → Prop} (hP : ∀ {d d'}, Gains touched d d' → P d → P d')
    (h : Directs start (ofNotes start.root.label notes) calls c.doc s) (hview : c.view = some s)
    (hs : Starts start notes) (hcalls : ∀ call ∈ calls, OldCall start call) {these : List (Nat × Nat)}
    (hsub : these ⊆ calls) (hdoc : P c.doc) (name : String) :
    Ends (forIn these PUnit.unit fun call _ => do
      callDirectly name call.1 call.2; pure (ForInStep.yield PUnit.unit)) c fun _ c' => ∃ s', c'.view = some s' ∧
        Directs start (ofNotes start.root.label notes) calls c'.doc s' ∧ P c'.doc := by
  have hloop := ends_forIn (c := c) (f := fun call => callDirectly name call.1 call.2)
    (I := fun rest c' => rest ⊆ calls ∧ ∃ s', c'.view = some s' ∧
      Directs start (ofNotes start.root.label notes) calls c'.doc s' ∧ P c'.doc) ?_ ⟨hsub, s, hview, h, hdoc⟩
  · exact hloop.mono fun _ _ h => h.2
  rintro call rest c ⟨hrest, s, hview, h, hdoc⟩
  obtain ⟨hin, hrest⟩ := List.cons_subset.mp hrest
  refine (ends_callDirectly h hview hs hcalls hin touched name).mono ?_
  rintro - c' ⟨s', hview', h', hgains⟩
  exact ⟨hrest, s', hview', h', hP hgains hdoc⟩

/-- **The calls of a method are made direct**; if it is imported, it is so by name. -/
theorem ends_makeDirect (h : Directs start (ofNotes start.root.label notes) calls c.doc s) (hview : c.view = some s)
    (hs : Starts start notes) (hcalls : ∀ call ∈ calls, OldCall start call) (hgains : Gains touched start c.doc)
    (hm : IsMethod start (ofNotes start.root.label notes) method) (hsub : method.calls ⊆ calls)
    (ht : method.origin.imported = true → touched method.origin.statement) :
    Ends (makeDirect method) c fun _ c' => ∃ s', c'.view = some s' ∧
      Directs start (ofNotes start.root.label notes) calls c'.doc s' ∧ Gains touched c.doc c'.doc ∧
      (method.origin.imported = true → IsNamed c'.doc method.origin.statement) := by
  have hs₀ : (ofNotes start.root.label notes).Nested := hs.tells.nested_ofNotes
  have hlt (call : Nat × Nat) (hc : call ∈ calls) : call.2 < start.next := ((hcalls call hc).lt hs.order).1
  have horigin := hm.origin
  refine (ends_view (Q := fun a c' => c = c' ∧ s = a) ⟨rfl, by rw [hview]; rfl⟩).bind ?_
  rintro _ _ ⟨rfl, rfl⟩
  dsimp only
  split
  · rename_i himported
    rw [IsOrigin, if_pos himported] at horigin
    obtain ⟨i₀, hi₀, hk, hl⟩ := horigin.declared
    obtain ⟨i, hi, he⟩ := hgains.imports i₀ (hs.order.mem_imports.mpr ⟨hs.order.mem_of_body hi₀, hk⟩)
    refine ((ends_importLocal h hview hs₀ hlt hi (he.label.trans hl) (ht himported)).map some).bind ?_
    rintro _ c₁ ⟨name, rfl, s₁, hview₁, h₁, hgains₁, hnamed⟩
    refine (ends_calls touched (P := fun d => Gains touched c.doc d ∧ IsNamed d method.origin.statement)
      (fun hg hP => ⟨hP.1.trans hg, hg.isNamed hP.2⟩) h₁ hview₁ hs hcalls hsub ⟨hgains₁, hnamed⟩ name).bind ?_
    rintro - c₂ ⟨s₂, hview₂, h₂, hgains₂, hnamed₂⟩
    exact ends_pure ⟨s₂, hview₂, h₂, hgains₂, fun _ => hnamed₂⟩
  split
  · rename_i himported _
    rw [IsOrigin, if_neg himported] at horigin
    obtain ⟨k, hrequired⟩ := horigin
    refine ((ends_requireLocal h hview hs hlt hrequired touched).map some).bind ?_
    rintro _ c₁ ⟨name, rfl, s₁, hview₁, h₁, hgains₁⟩
    refine (ends_calls touched (P := fun d => Gains touched c.doc d) (fun hg hP => hP.trans hg) h₁ hview₁ hs
      hcalls hsub hgains₁ name).bind ?_
    rintro - c₂ ⟨s₂, hview₂, h₂, hgains₂⟩
    exact ends_pure ⟨s₂, hview₂, h₂, hgains₂, fun hi => absurd hi himported⟩
  · rename_i himported _
    exact ends_pure ⟨s, hview, h, .refl touched _, fun hi => absurd hi himported⟩

/-- **The calls of all methods are made direct.** -/
theorem ends_makeAllDirect (h : Directs start (ofNotes start.root.label notes) calls c.doc s) (hview : c.view = some s)
    (hs : Starts start notes) (hcalls : ∀ call ∈ calls, OldCall start call) (hgains : Gains touched start c.doc)
    (hm : ∀ m ∈ methods, IsMethod start (ofNotes start.root.label notes) m ∧ m.calls ⊆ calls ∧
      (m.origin.imported = true → touched m.origin.statement)) :
    Ends (forIn methods PUnit.unit fun m _ => do discard (makeDirect m); pure (ForInStep.yield PUnit.unit)) c
      fun _ c' => ∃ s', c'.view = some s' ∧ Directs start (ofNotes start.root.label notes) calls c'.doc s' ∧
        Gains touched start c'.doc ∧
        ∀ m ∈ methods, m.origin.imported = true → IsNamed c'.doc m.origin.statement := by
  have hloop := ends_forIn (c := c) (f := fun m => discard (makeDirect m))
    (I := fun rest c' => rest ⊆ methods ∧ ∃ s', c'.view = some s' ∧
      Directs start (ofNotes start.root.label notes) calls c'.doc s' ∧ Gains touched start c'.doc ∧
      ∀ m ∈ methods, m ∈ rest ∨ (m.origin.imported = true → IsNamed c'.doc m.origin.statement)) ?_
    ⟨List.Subset.refl _, s, hview, h, hgains, fun m hm => .inl hm⟩
  · refine hloop.mono ?_
    rintro - c' ⟨-, s', hview', h', hgains', hnamed⟩
    exact ⟨s', hview', h', hgains', fun m hm => (hnamed m hm).resolve_left List.not_mem_nil⟩
  rintro method rest c ⟨hrest, s, hview, h, hgains, hnamed⟩
  obtain ⟨hin, hrest⟩ := List.cons_subset.mp hrest
  obtain ⟨hmethod, hsub, ht⟩ := hm method hin
  refine (ends_makeDirect h hview hs hcalls hgains hmethod hsub ht).discard.mono ?_
  rintro - c' ⟨-, s', hview', h', hgains', hnamed'⟩
  refine ⟨hrest, s', hview', h', hgains.trans hgains', fun m hmem => ?_⟩
  rcases hnamed m hmem with hm | hm
  · rcases List.mem_cons.mp hm with rfl | hm
    · exact .inr hnamed'
    · exact .inl hm
  · exact .inr fun hi => hgains'.isNamed (hm hi)

end Methods

end Rules.DirectCall

end Deminify
