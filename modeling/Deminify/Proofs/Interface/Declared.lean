import Deminify.Proofs.Interface.Outline
import Deminify.Proofs.Program

/-!
# What is declared has names

The fields of a declaration could hold any expression as far as the shape of a node goes. What the
grammar puts there are patterns that bind names and nothing else, so that **the outline of a program
that has been read has nodes of a few kinds only** (`Deminify.Program.isNamingKind_of_read`): no call
and no operation is ever on the way to an exported name.

Of the statements only the declarations and the exports matter. The other rules are not looked into:
they end by making a node of their own kind, whatever they read before
(`Deminify.Grammar.statement_named`).
-/

set_option mvcgen.warning false

open Std.Do

namespace Deminify

/-- The kinds of the declarations and specifiers that have one name in one field. -/
def declaresName (kind : String) : Bool :=
  ["FunctionDeclaration", "ClassDeclaration", "ExportSpecifier", "ExportDefaultSpecifier"].contains kind

/-- Whether what is in a field of the sort are nodes, one or several. -/
def FieldSort.isOfNodes : FieldSort → Bool
  | .node _ => true
  | .optional _ => true
  | .nodes _ => true
  | .holes _ => true
  | _ => false

namespace Tree

/-- What is passed from a value under a key of a node of the given kind has kinds of names. -/
def NamedAt (kind key : String) (isItem : Bool) (t : Tree) : Prop :=
  ∀ p ∈ outlineAt kind key isItem t, isNamingKind p.kind = true

/-- Nothing but names is passed from the value, wherever it stands. -/
def BindsNames (t : Tree) : Prop := ∀ kind key isItem, t.NamedAt kind key isItem

/-- Nothing but names is passed from a statement, in the program or behind `export`. -/
def NamedItem (t : Tree) : Prop :=
  t.NamedAt "Program" "body" true ∧ t.NamedAt "ExportNamedDeclaration" "declaration" false

section Named

variable {kind key : String} {isItem : Bool}

theorem namedAt_list {items : List Tree} (h : ∀ t ∈ items, t.NamedAt kind key true) :
    (list items).NamedAt kind key isItem := by
  intro p hp
  cases isItem with
  | true => rw [outlineAt_list_item] at hp; cases hp
  | false =>
    rw [outlineAt_list] at hp
    obtain ⟨t, ht, hp⟩ := List.mem_flatMap.mp hp
    exact h t ht p hp

@[simp] theorem bindsNames_list {items : List Tree} (h : ∀ t ∈ items, t.BindsNames) :
    (list items).BindsNames := fun _ _ _ => namedAt_list fun t ht => h t ht _ _ _

@[simp] theorem bindsNames_null : null.BindsNames := fun _ _ _ _ hp => nomatch hp

/-- A node that counts has a kind of names itself, and its fields lead to names. -/
theorem namedAt_of_fields {t : Tree} (hobj : t.isObj = true)
    (h : leadsTo kind key isItem t.kind = true → isNamingKind t.kind = true ∧
      ∀ f ∈ t.fields, isExportKey t.kind f.1 = true → f.2.NamedAt t.kind f.1 false) :
    t.NamedAt kind key isItem := by
  intro p hp
  rw [outlineAt_of_isObj hobj] at hp
  split at hp
  · rename_i hleads
    obtain ⟨hkind, hfields⟩ := h hleads
    rcases List.mem_cons.mp hp with rfl | hp
    · exact hkind
    · rw [outlineFields_eq] at hp
      obtain ⟨f, hf, hp⟩ := List.mem_flatMap.mp hp
      by_cases hkey : isExportKey t.kind f.1 = true
      · exact hfields f hf hkey p hp
      · rw [outlineAt_of_not_isExportKey (Bool.eq_false_iff.mpr hkey)] at hp
        cases hp
  · cases hp

/-- A name binds names. -/
theorem bindsNames_of_is {t : Tree} (h : t.Is (· == "Identifier")) : t.BindsNames := by
  intro kind key isItem
  refine namedAt_of_fields (isObj_of_isNode h.isNode) fun _ => ?_
  rw [beq_iff_eq.mp h.kinds]
  exact ⟨rfl, fun f _ hkey => absurd hkey (by simp [isExportKey, exportParts])⟩

/-- A field that counts holds what its sort says. -/
theorem holds_of_mem_fields {t : Tree} (h : t.WellFormed) {f : String × Tree} (hf : f ∈ t.fields)
    (hkey : isExportKey t.kind f.1 = true) {sort : FieldSort} (hs : fieldSort t.kind f.1 = some sort) :
    sort.Holds f.2 := by
  have hget := get_of_get? (h.distinct.lookup (isShapeKey_of_isExportKey hkey) hf)
  exact hget ▸ h.held hs

/-- A value with nothing but well-formed nodes in it, at most in a list. -/
def Proper (t : Tree) : Prop :=
  (t.isObj = true → t.WellFormed) ∧ ∀ c ∈ t.items, (c.isObj = true → c.WellFormed) ∧ c.items = []

/-- What is well formed is no list. -/
theorem Is.proper {kinds : String → Bool} {t : Tree} (h : t.Is kinds) :
    (t.isObj = true → t.WellFormed) ∧ t.items = [] := by
  refine ⟨fun _ => h.2, ?_⟩
  have hobj := h.2.isObj
  cases t with
  | list items => simp [isObj] at hobj
  | _ => rfl

theorem proper_of_items {t : Tree} (h : t.isObj = true → t.WellFormed) (hitems : t.items = []) : t.Proper :=
  ⟨h, by rw [hitems]; exact List.forall_mem_nil _⟩

/-- What a field for nodes holds is well formed. -/
theorem proper_of_holds {sort : FieldSort} (hsort : sort.isOfNodes = true) {t : Tree} (h : sort.Holds t) :
    t.Proper := by
  have hnode {c : Tree} {kinds : String → Bool} (hc : c = .null ∨ c.Is kinds) :
      (c.isObj = true → c.WellFormed) ∧ c.items = [] := by
    rcases hc with rfl | hc
    · exact ⟨fun hobj => absurd hobj Bool.false_ne_true, rfl⟩
    · exact hc.proper
  have hlist {items : List Tree} {kinds : String → Bool} (hitems : ∀ c ∈ items, c = .null ∨ c.Is kinds) :
      (list items).Proper :=
    ⟨fun hobj => absurd hobj Bool.false_ne_true, fun c hc => hnode (hitems c hc)⟩
  cases sort with
  | node kinds => exact proper_of_items (Is.proper h).1 (Is.proper h).2
  | optional kinds => exact proper_of_items (hnode h).1 (hnode h).2
  | nodes kinds =>
    obtain ⟨items, rfl, hitems⟩ := h
    exact hlist fun c hc => .inr (hitems c hc)
  | holes kinds =>
    obtain ⟨items, rfl, hitems⟩ := h
    exact hlist hitems
  | text => cases hsort
  | flag => cases hsort
  | leaf => cases hsort
  | record => cases hsort

/-- The fields through which names are exported hold nodes. -/
theorem proper_of_mem_fields {t : Tree} (h : t.WellFormed) {f : String × Tree} (hf : f ∈ t.fields)
    (hkey : isExportKey t.kind f.1 = true) : f.2.Proper := by
  have table : ∀ part ∈ exportParts, part.1 = "" ∨
      (fieldSort part.1 part.2.1).any (·.isOfNodes) = true := by decide +kernel
  have hpart := hkey
  simp only [isExportKey, List.any_eq_true, Bool.and_eq_true, beq_iff_eq] at hpart
  obtain ⟨part, hmem, hkind, hpk⟩ := hpart
  rcases table part hmem with hempty | hsort
  · exact absurd (hkind.symm.trans hempty) h.kind_ne
  rw [hkind, hpk] at hsort
  obtain ⟨sort, hs, hsort⟩ := (Option.any_eq_true _ _).mp hsort
  exact proper_of_holds hsort (holds_of_mem_fields h hf hkey hs)

/-- The nodes that are passed in a well-formed tree have the fields that count once each. -/
theorem isDistinct_of_proper {t : Tree} (h : t.Proper) {p : Passed} (hp : p ∈ outlineAt kind key isItem t) :
    p.isDistinct = true := by
  induction t using Tree.induction generalizing kind key isItem with
  | leaf t ht =>
    rw [outlineAt_of_isLeaf ht] at hp
    cases hp
  | list items ih =>
    cases isItem with
    | true => rw [outlineAt_list_item] at hp; cases hp
    | false =>
      rw [outlineAt_list] at hp
      obtain ⟨t, ht, hp⟩ := List.mem_flatMap.mp hp
      obtain ⟨hwf, hitems⟩ := h.2 t ht
      exact ih t ht ⟨hwf, by rw [hitems]; nofun⟩ hp
  | obj l fields ih =>
    have hwf := h.1 rfl
    rw [outlineAt_of_isObj rfl] at hp
    split at hp
    · rcases List.mem_cons.mp hp with rfl | hp
      · have hsub : (obj l fields).namingKeys.Sublist ((fields.map (·.1)).filter isShapeKey) := by
          rw [namingKeys, fields_obj]
          exact List.monotone_filter_right _ fun key hkey => isShapeKey_of_isNamingKey hkey
        exact decide_eq_true (List.Nodup.sublist hsub hwf.distinct)
      · rw [outlineFields_eq] at hp
        obtain ⟨f, hf, hp⟩ := List.mem_flatMap.mp hp
        by_cases hkey : isExportKey (obj l fields).kind f.1 = true
        · exact ih f hf (proper_of_mem_fields hwf hf hkey) hp
        · rw [outlineAt_of_not_isExportKey (Bool.eq_false_iff.mpr hkey)] at hp
          cases hp
    · cases hp

/-- Where the shape of a node says that it has a name or none, nothing else is passed. -/
theorem bindsNames_of_wellFormed {t : Tree} (h : t.WellFormed) (hkind : declaresName t.kind = true) :
    t.BindsNames := by
  simp only [declaresName, List.contains_eq_mem, List.mem_cons, List.not_mem_nil, or_false,
    decide_eq_true_eq] at hkind
  have hname {f : String × Tree} (hf : f ∈ t.fields) (hkey : isExportKey t.kind f.1 = true) :
      f.2 = .null ∨ f.2.Is (· == "Identifier") := by
    have holds := @holds_of_mem_fields t h f hf hkey
    rcases hkind with hk | hk | hk | hk <;> rw [hk] at holds hkey <;>
      simp only [isExportKey, exportParts] at hkey <;> simp at hkey <;> rw [← hkey] at holds
    · exact holds rfl
    · exact holds rfl
    · exact .inr (holds rfl)
    · exact .inr (holds rfl)
  refine fun kind key isItem => namedAt_of_fields h.isObj fun _ => ⟨?_, fun f hf hkey => ?_⟩
  · rcases hkind with hk | hk | hk | hk <;> rw [hk] <;> rfl
  · rcases hname hf hkey with hnull | his
    · rw [hnull]
      exact bindsNames_null _ _ _
    · exact bindsNames_of_is his _ _ _

theorem BindsNames.namedItem {t : Tree} (h : t.BindsNames) : t.NamedItem := ⟨h _ _ _, h _ _ _⟩

/-- What is passed depends on the core only, apart from labels. -/
theorem namedAt_congr {t u : Tree} (h : t.core = u.core) (hu : u.NamedAt kind key isItem) :
    t.NamedAt kind key isItem := by
  intro p hp
  have hfaces : (outlineAt kind key isItem t).map Passed.face = (outlineAt kind key isItem u).map Passed.face := by
    rw [← outlineAt_core t, h, outlineAt_core]
  have hface : p.face ∈ (outlineAt kind key isItem u).map Passed.face := hfaces ▸ List.mem_map_of_mem hp
  obtain ⟨q, hq, heq⟩ := List.mem_map.mp hface
  have hkind : q.kind = p.kind := congrArg Prod.fst heq
  exact hkind ▸ hu q hq

theorem NamedItem.declaration {t : Tree} (h : t.NamedItem) :
    t.NamedAt "ExportNamedDeclaration" "declaration" false := h.2

/-- What leads to no names is named. -/
theorem namedItem_of_not_leadsTo {t : Tree} (hobj : t.isObj = true)
    (hbody : leadsTo "Program" "body" true t.kind = false)
    (hdeclaration : leadsTo "ExportNamedDeclaration" "declaration" false t.kind = false) : t.NamedItem :=
  ⟨namedAt_of_fields hobj fun h => absurd (hbody.symm.trans h) nofun,
    namedAt_of_fields hobj fun h => absurd (hdeclaration.symm.trans h) nofun⟩

end Named

end Tree

namespace Grammar

variable {go : Rules}

/-! ### Nodes -/

/-- The node that is made has the given kind and fields. -/
theorem finish_fields {start : Nat} {kind : String} {fields : List (String × Tree)} :
    Yields (finish start kind fields) fun t => t.isObj = true ∧ t.kind = kind ∧
      ∀ f ∈ t.fields, isExportKey kind f.1 = true → f ∈ fields := by
  refine yields_iff.mpr fun source s t s' h => ?_
  cases h
  refine ⟨rfl, rfl, fun f hf hkey => ?_⟩
  rw [Tree.fields_obj] at hf
  rcases List.mem_cons.mp hf with rfl | hf
  · have hnot : isExportKey kind "type" = false := not_isExportKey (by decide) kind
    exact absurd (hnot.symm.trans hkey) nofun
  rcases List.mem_append.mp hf with hf | hf
  · exact hf
  · have hnot : isExportKey kind "range" = false := not_isExportKey (by decide) kind
    rw [List.mem_singleton.mp hf] at hkey
    exact absurd (hnot.symm.trans hkey) nofun

/-- A node that counts has a kind of names, and fields that lead to names. -/
theorem finish_named {start : Nat} {kind : String} {fields : List (String × Tree)} :
    Yields (finish start kind fields) fun t => ∀ kind' key isItem,
      (leadsTo kind' key isItem kind = true → isNamingKind kind = true ∧
        ∀ f ∈ fields, isExportKey kind f.1 = true → f.2.NamedAt kind f.1 false) →
      t.NamedAt kind' key isItem := by
  refine finish_fields.mono fun t ⟨hobj, hkind, hfields⟩ kind' key isItem h => ?_
  subst hkind
  refine Tree.namedAt_of_fields hobj fun hleads => ⟨(h hleads).1, fun f hf hkey => ?_⟩
  exact (h hleads).2 f (hfields f hf hkey) hkey

/-! ### Patterns -/

/-- Rules that read patterns of names, and items that declare names. -/
structure Naming (go : Rules) : Prop where
  pattern (kind : String) : Yields (go (.pattern kind)) Tree.BindsNames
  item : Yields (go .item) Tree.NamedItem

/-- A pattern binds names if its parts do. -/
theorem finish_bindsNames {start : Nat} {kind : String} {fields : List (String × Tree)} :
    Yields (finish start kind fields) fun t => isNamingKind kind = true →
      (∀ f ∈ fields, isExportKey kind f.1 = true → f.2.BindsNames) → t.BindsNames :=
  finish_named.mono fun _ h hkind hfields kind' key isItem => h kind' key isItem fun _ =>
    ⟨hkind, fun f hf hkey => hfields f hf hkey _ _ _⟩

theorem variableName_bindsNames {kind : String} : Yields (variableName kind) Tree.BindsNames :=
  variableName_spec.mono fun _ => Tree.bindsNames_of_is

theorem nameNode_bindsNames {start : Nat} {name : String} :
    Yields (nameNode start name) Tree.BindsNames :=
  nameNode_spec.mono fun _ => Tree.bindsNames_of_is

theorem defaultNode_bindsNames {start : Nat} {left right : Tree} :
    Yields (defaultNode start left right) fun t => left.BindsNames → t.BindsNames := by
  refine finish_bindsNames.mono fun t h hl => h rfl ?_
  simpa [isExportKey, exportParts] using hl

theorem propertyNode_bindsNames {start : Nat} {kind : String} {key value : Tree}
    {computed method shorthand : Bool} :
    Yields (propertyNode start kind key computed value method shorthand) fun t =>
      value.BindsNames → t.BindsNames := by
  refine finish_bindsNames.mono fun t h hv => h rfl ?_
  simpa [isExportKey, exportParts] using hv

theorem patternWithDefault_bindsNames (h : Naming go) (kind : String) :
    Yields (patternWithDefault go kind) Tree.BindsNames := by
  have htarget := h.pattern kind
  have hright : Yields (isolate (go .assignment)) fun _ => True := yields_any _
  mvcgen [patternWithDefault, htarget, hright, -defaultNode_spec, defaultNode_bindsNames]
  simp +contextual [*]

theorem arrayRest_bindsNames (h : Naming go) (kind : String) :
    Yields (arrayRest go kind) Tree.BindsNames := by
  have hargument := h.pattern kind
  mvcgen [arrayRest, hargument, -finish_spec, finish_bindsNames]
  simp +contextual [isNamingKind, isExportKey, exportParts, *]

theorem arrayPattern_bindsNames (h : Naming go) (kind : String) :
    Yields (arrayPattern go kind) Tree.BindsNames := by
  have hrest := arrayRest_bindsNames h kind
  have helement := patternWithDefault_bindsNames h kind
  have helements {p : Grammar Tree} (hp : Yields p Tree.BindsNames) :
      Yields (manyUntil "]" p) _ := hp.manyUntil
  mvcgen [arrayPattern, hrest, helement, helements, -finish_spec, finish_bindsNames]
  all_goals simp +contextual [isNamingKind, isExportKey, exportParts, *]

theorem propertyPattern_bindsNames (h : Naming go) (kind : String) :
    Yields (propertyPattern go kind) Tree.BindsNames := by
  have hright : Yields (go .assignment) fun _ => True := yields_any _
  have hvalue := patternWithDefault_bindsNames h kind
  have hkey : Yields (propertyKey go) fun _ => True := yields_any _
  mvcgen [propertyPattern, hright, hvalue, hkey, -nameNode_spec, nameNode_bindsNames,
    -defaultNode_spec, defaultNode_bindsNames, -propertyNode_spec, propertyNode_bindsNames]
  all_goals simp +contextual [*]

theorem objectRest_bindsNames (h : Naming go) : Yields (objectRest go) Tree.BindsNames := by
  have hargument := h.pattern ""
  mvcgen [objectRest, hargument, -finish_spec, finish_bindsNames]
  simp +contextual [isNamingKind, isExportKey, exportParts, *]

theorem objectPattern_bindsNames (h : Naming go) (kind : String) :
    Yields (objectPattern go kind) Tree.BindsNames := by
  have hrest := objectRest_bindsNames h
  have hproperty := propertyPattern_bindsNames h kind
  have hproperties {p : Grammar Tree} (hp : Yields p Tree.BindsNames) :
      Yields (separatedUntil "\x7d" p) _ := hp.separatedUntil
  mvcgen [objectPattern, hrest, hproperty, hproperties, -finish_spec, finish_bindsNames]
  simp +contextual [isNamingKind, isExportKey, exportParts, *]

/-- **A pattern binds names.** -/
theorem pattern_bindsNames (h : Naming go) (kind : String) :
    Yields (pattern go kind) Tree.BindsNames := by
  have harray := arrayPattern_bindsNames h kind
  have hobject := objectPattern_bindsNames h kind
  mvcgen [pattern, harray, hobject, -variableName_spec, variableName_bindsNames]

/-! ### Declarations -/

theorem declaratorNode_bindsNames {start : Nat} {target init : Tree} :
    Yields (declaratorNode start target init) fun t => target.BindsNames → t.BindsNames := by
  refine finish_bindsNames.mono fun t h ht => h rfl ?_
  simpa [isExportKey, exportParts] using ht

theorem declarationNode_named {start : Nat} {kind : String} {declarations : List Tree} :
    Yields (declarationNode start kind declarations) fun t =>
      (∀ d ∈ declarations, d.BindsNames) → t.NamedItem := by
  refine finish_bindsNames.mono fun t h hd => (h rfl ?_).namedItem
  simpa [isExportKey, exportParts] using Tree.bindsNames_list hd

theorem variableDeclarator_bindsNames (h : Naming go) (inFor : Bool) :
    Yields (variableDeclarator go inFor) Tree.BindsNames := by
  have htarget := (pattern_bindsNames h "var").collecting
  have hinit : Yields (isolate (go .assignment)) fun _ => True := yields_any _
  mvcgen [variableDeclarator, htarget, hinit, -declaratorNode_spec, declaratorNode_bindsNames]
  all_goals simp +contextual [*]

theorem lexicalDeclarator_bindsNames (h : Naming go) (kind : String) (inFor : Bool) :
    Yields (lexicalDeclarator go kind inFor) Tree.BindsNames := by
  have htarget := (pattern_bindsNames h kind).collecting
  have hinit : Yields (isolate (go .assignment)) fun _ => True := yields_any _
  mvcgen [lexicalDeclarator, htarget, hinit, -declaratorNode_spec, declaratorNode_bindsNames]
  all_goals simp +contextual [*]

theorem variableStatement_named (h : Naming go) : Yields (variableStatement go) Tree.NamedItem := by
  have hfirst := variableDeclarator_bindsNames h false
  have hrest := (variableDeclarator_bindsNames h false).manyAfterComma
  mvcgen [variableStatement, variableDeclarators, hfirst, hrest, -declarationNode_spec,
    declarationNode_named]
  simp_all +contextual

theorem lexicalDeclaration_named (h : Naming go) : Yields (lexicalDeclaration go) Tree.NamedItem := by
  have hfirst (kind : String) := lexicalDeclarator_bindsNames h kind false
  have hrest (kind : String) := (lexicalDeclarator_bindsNames h kind false).manyAfterComma
  mvcgen [lexicalDeclaration, lexicalDeclarators, hfirst, hrest, -declarationNode_spec,
    declarationNode_named]
  simp_all +contextual

/-! ### Functions, classes and specifiers -/

theorem functionDeclaration_named (h : go.Sound) (nameOptional : Bool) :
    Yields (functionDeclaration go nameOptional) Tree.NamedItem :=
  (functionDeclaration_spec h nameOptional).mono fun _ ht =>
    (Tree.bindsNames_of_wellFormed ht.2 (by rw [beq_iff_eq.mp ht.kinds]; rfl)).namedItem

theorem classDeclaration_named (h : go.Sound) (nameOptional : Bool) :
    Yields (classDeclaration go nameOptional) Tree.NamedItem :=
  (classDeclaration_spec h nameOptional).mono fun _ ht =>
    (Tree.bindsNames_of_wellFormed ht.2 (by rw [beq_iff_eq.mp ht.kinds]; rfl)).namedItem

/-! ### Statements -/

/-- What is read last counts, whatever was read before. -/
theorem Yields.after {α β : Type} {x : Grammar α} {f : α → Grammar β} {P : β → Prop}
    (h : ∀ a, Yields (f a) P) : Yields (x >>= f) P := by
  have hx : Yields x fun _ => True := yields_any x
  mvcgen [hx, h]

/-- A node of a kind that does not count where statements stand. -/
theorem finish_plain {start : Nat} {kind : String} {fields : List (String × Tree)}
    (hbody : leadsTo "Program" "body" true kind = false)
    (hdeclaration : leadsTo "ExportNamedDeclaration" "declaration" false kind = false) :
    Yields (finish start kind fields) Tree.NamedItem := by
  refine finish_fields.mono fun t ⟨hobj, hkind, _⟩ => ?_
  subst hkind
  exact Tree.namedItem_of_not_leadsTo hobj hbody hdeclaration

theorem unexpected_named {token : Token} : Yields (unexpected token) Tree.NamedItem :=
  yields_iff.mpr fun _ _ _ _ h => nomatch h

theorem expressionStatement_named : Yields (expressionStatement go) Tree.NamedItem := by
  unfold expressionStatement
  repeat' with_reducible refine Yields.after fun _ => ?_
  exact finish_plain rfl rfl

/-- **A statement is named.** -/
theorem statement_named (hs : go.Sound) (h : Naming go) : Yields (statement go) Tree.NamedItem := by
  have hfunction := functionDeclaration_named hs false
  have hvar := variableStatement_named h
  have hexpression := @expressionStatement_named go
  unfold statement keywordStatement labelledStatement block tryStatement ifStatement forStatement
    whileStatement doWhileStatement returnStatement throwStatement withStatement switchStatement
    breakStatement continueStatement
  dsimp only
  -- apart from declarations, each rule ends by making a node of its own kind
  repeat' first
    | with_reducible assumption
    | with_reducible exact unexpected_named
    | with_reducible exact finish_plain rfl rfl
    | with_reducible refine Yields.after fun _ => ?_
    | split

/-! ### Exports -/

theorem exportNode_named {start : Nat} {declaration source : Tree} {specifiers : List Tree} :
    Yields (exportNode start declaration specifiers source) fun t =>
      declaration.NamedAt "ExportNamedDeclaration" "declaration" false →
        (∀ s ∈ specifiers, s.Is isExportNameKind) → t.NamedItem := by
  refine finish_named.mono fun t h hd hn => ⟨h _ _ _ fun _ => ⟨rfl, ?_⟩, h _ _ _ nofun⟩
  have hspecifiers : (Tree.list specifiers).NamedAt "ExportNamedDeclaration" "specifiers" false := by
    refine Tree.namedAt_list fun s hs => Tree.bindsNames_of_wellFormed (hn s hs).2 ?_ _ _ _
    rcases Bool.or_eq_true_iff.mp (hn s hs).kinds with hk | hk <;> rw [beq_iff_eq.mp hk] <;> rfl
  simpa [isExportKey, exportParts] using ⟨hd, hspecifiers⟩

theorem namedExports_named {start : Nat} : Yields (namedExports start) Tree.NamedItem := by
  mvcgen [namedExports, -namedExports_spec, -exportNode_spec, exportNode_named]
  all_goals
    intro _ _ hnode
    refine hnode (Tree.bindsNames_null _ _ _) (List.forall_mem_map.mpr ?_)
    simp_all

theorem exportedDeclaration_named (h : Naming go) :
    Yields (exportedDeclaration go) Tree.NamedItem := by
  have hlexical := lexicalDeclaration_named h
  have hitem := h.item
  mvcgen [exportedDeclaration, hlexical, hitem]

theorem exportDeclaration_named (hs : go.Sound) (h : Naming go) :
    Yields (exportDeclaration go) Tree.NamedItem := by
  have hdefault : Yields (defaultValue go) fun _ => True := yields_any _
  have hexported := exportedDeclaration_named h
  have hfunction := functionDeclaration_named hs false
  mvcgen [exportDeclaration, hdefault, hexported, hfunction, -finish_spec, finish_named,
    -exportNode_spec, exportNode_named, -namedExports_spec, namedExports_named]
  · intro _ _ hnode
    refine ⟨hnode _ _ _ fun _ => ⟨rfl, by simp [isExportKey, exportParts]⟩, hnode _ _ _ fun h => ?_⟩
    exact absurd h (by decide)
  · exact fun _ _ hnode => ⟨hnode _ _ _ fun h => absurd h (by decide), hnode _ _ _ fun h => absurd h (by decide)⟩
  all_goals exact fun _ _ hnode => hnode (Tree.NamedItem.declaration ‹_›) (List.forall_mem_nil _)

/-! ### The whole grammar -/

theorem item_named (hs : go.Sound) (h : Naming go) : Yields (item go) Tree.NamedItem := by
  have hexport := exportDeclaration_named hs h
  have himport : Yields importDeclaration Tree.NamedItem := by
    unfold importDeclaration
    dsimp only
    repeat' first
      | with_reducible exact finish_plain rfl rfl
      | with_reducible refine Yields.after fun _ => ?_
      | split
  have hexpression := @expressionStatement_named go
  have hlexical := lexicalDeclaration_named h
  have hfunction := functionDeclaration_named hs false
  have hclass := classDeclaration_named hs false
  have hstatement := statement_named hs h
  mvcgen [item, hexport, -importDeclaration_spec, himport, hexpression, hlexical, hfunction, hclass, hstatement]

/-- **All rules name what they read.** -/
theorem naming_rules (levels : Nat) : Naming (rules levels) := by
  induction levels with
  | zero =>
    have none {α : Type} {P : α → Prop} : Yields (throw SyntaxError.tooDeep : Grammar α) P :=
      yields_iff.mpr fun _ _ _ _ h => nomatch h
    exact ⟨fun _ => none, none⟩
  | succ levels ih => exact ⟨pattern_bindsNames ih, item_named (sound_rules levels) ih⟩

theorem directive_named : Yields (directive go) fun r => r.1.NamedItem := by
  have hnode {start : Nat} {fields : List (String × Tree)} :
      Yields (finish start "ExpressionStatement" fields) Tree.NamedItem := finish_plain rfl rfl
  have hexpression : Yields (expression go) fun _ => True := yields_any _
  mvcgen [directive, hexpression, -finish_spec, hnode]

theorem Yields.moreDirectives {P : Tree → Prop} (h : Yields (directive go) fun r => P r.1) (fuel : Nat)
    {body : Array Tree} {octal : Option Token} (hb : ∀ t ∈ body, P t) :
    Yields (moreDirectives go fuel body octal) fun all => ∀ t ∈ all, P t := by
  induction fuel generalizing body octal with
  | zero => exact yields_iff.mpr fun _ _ _ _ h => nomatch h
  | succ fuel ih =>
    mvcgen [Grammar.moreDirectives, h, ih]
    all_goals grind

/-- **A program is named** all through. -/
theorem program_named (isModule : Bool) :
    Yields (program isModule) fun t => t.NamedAt "" "" false := by
  have hitem := (naming_rules levelLimit).item
  have hprologue {fuel : Nat} :
      Yields (moreDirectives (rules levelLimit) fuel #[] none) _ := directive_named.moreDirectives fuel (by simp)
  have hitems {p : Grammar (Option Tree)} (hp : Yields p fun t? => ∀ t ∈ t?, t.NamedItem) :
      Yields (many p) _ := hp.many
  have hnext : Yields (discard next) fun _ => True := yields_any _
  mvcgen [program, directives, hprologue, hitem, hitems, hnext, -finish_spec, finish_named]
  case vc3 | vc6 =>
    refine fun _ _ hnode => hnode _ _ _ fun _ => ⟨rfl, ?_⟩
    simp only [List.mem_cons, List.not_mem_nil, or_false, forall_eq_or_imp, forall_eq]
    refine ⟨fun h => absurd h (by decide), fun _ => Tree.namedAt_list fun t ht => ?_⟩
    rcases List.mem_append.mp ht with ht | ht
    · exact (‹∀ t ∈ _, Tree.NamedItem t› t ht).1
    · exact (‹∀ t ∈ _, Tree.NamedItem t› t ht).1
  all_goals simp [*]

end Grammar

/-- **The outline of a program that has been read has nodes of the kinds of names only.** -/
theorem Program.isNamingKind_of_read {source : String} {p : Program} (h : Program.read source = .ok p) :
    p.tree.NamedAt "" "" false := by
  obtain ⟨src, isModule, tree, hr, ht, -⟩ := exists_of_read h
  have hcore : p.tree.core = tree.core := by
    rw [ht, Tree.core_number, core_attachComments, Tree.core_number, Tree.core_renewed]
  obtain ⟨⟨t, reading⟩, hrun, he⟩ := bind_eq_ok.mp hr
  obtain ⟨rfl, -⟩ := Prod.mk.inj (Except.ok.inj he)
  have hnamed := Grammar.yields_iff.mp (Grammar.program_named isModule) src (Grammar.beginning src) _ _ hrun
  exact Tree.namedAt_congr hcore hnamed

end Deminify
