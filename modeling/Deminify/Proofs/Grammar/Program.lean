import Deminify.Grammar.Program
import Deminify.Grammar.Statement
import Deminify.Proofs.Grammar.Expression

/-!
# Programs are well formed

Declarations, loops, jumps and the other statements, and then imports and exports. With these, every rule of
the grammar is accounted for: the rules one level up are sound when those below are
(`Deminify.Grammar.sound_ruleAbove`), so all of them are, and **what the grammar reads is a well-formed
program** (`Deminify.Grammar.is_of_readProgram`).
-/

set_option mvcgen.warning false

open Std.Do

namespace Deminify.Grammar

variable {go : Rules}

/-! ### Declarations -/

@[spec] theorem checkVariable_spec {target : Tree} : Yields (checkVariable target) fun _ => True :=
  yields_any _

@[spec] theorem declaratorNode_spec {start : Nat} {target init : Tree} :
    Yields (declaratorNode start target init) fun t =>
      target.Is isExpressionKind → init = .null ∨ init.Is isExpressionKind →
        t.Is (· == "VariableDeclarator") := by
  refine finish_spec.mono fun t h ht hi => h _ rfl ?_
  simp [Suits, schema, schemaTable, Tree.isKnownField, ht, hi]

@[spec] theorem declarationNode_spec {start : Nat} {kind : String} {declarations : List Tree} :
    Yields (declarationNode start kind declarations) fun t =>
      (∀ d ∈ declarations, d.Is (· == "VariableDeclarator")) → t.Is (· == "VariableDeclaration") := by
  refine finish_spec.mono fun t h hd => h _ rfl ?_
  simpa [Suits, schema, schemaTable, Tree.isKnownField] using hd

theorem variableDeclarator_spec (h : go.Sound) (inFor : Bool) :
    Yields (variableDeclarator go inFor) (Tree.Is (· == "VariableDeclarator")) := by
  have htarget := (pattern_spec h "var").collecting
  have hinit := h.assignment.isolate
  mvcgen [variableDeclarator, htarget, hinit]
  all_goals simp +contextual [*]

theorem variableDeclarators_spec (h : go.Sound) (inFor : Bool) :
    Yields (variableDeclarators go inFor) fun all => ∀ d ∈ all, d.Is (· == "VariableDeclarator") := by
  have hfirst := variableDeclarator_spec h inFor
  have hrest := (variableDeclarator_spec h inFor).manyAfterComma
  mvcgen [variableDeclarators, hfirst, hrest]
  simp_all

theorem variableStatement_spec (h : go.Sound) :
    Yields (variableStatement go) (Tree.Is isStatementKind) := by
  have hdeclarations := variableDeclarators_spec h
  mvcgen [variableStatement, hdeclarations]
  exact fun _ _ hnode => (hnode ‹_›).widen rfl

theorem lexicalDeclarator_spec (h : go.Sound) (kind : String) (inFor : Bool) :
    Yields (lexicalDeclarator go kind inFor) (Tree.Is (· == "VariableDeclarator")) := by
  have htarget := (pattern_spec h kind).collecting
  have hinit := h.assignment.isolate
  mvcgen [lexicalDeclarator, htarget, hinit]
  all_goals simp +contextual [*]

theorem lexicalDeclarators_spec (h : go.Sound) (kind : String) (inFor : Bool) :
    Yields (lexicalDeclarators go kind inFor) fun all =>
      ∀ d ∈ all, d.Is (· == "VariableDeclarator") := by
  have hfirst := lexicalDeclarator_spec h kind inFor
  have hrest := (lexicalDeclarator_spec h kind inFor).manyAfterComma
  mvcgen [lexicalDeclarators, hfirst, hrest]
  simp_all

theorem lexicalDeclaration_spec (h : go.Sound) :
    Yields (lexicalDeclaration go) (Tree.Is isStatementKind) := by
  have hdeclarations := lexicalDeclarators_spec h
  mvcgen [lexicalDeclaration, hdeclarations]
  exact fun _ _ hnode => (hnode ‹_›).widen rfl

@[spec] theorem startsDeclaration_spec : Yields startsDeclaration fun _ => True := yields_any _

/-! ### Blocks and branches -/

theorem block_spec (h : go.Sound) : Yields (block go) (Tree.Is (· == "BlockStatement")) := by
  have hbody {close : String} : Yields (manyUntil close (go .item)) _ := h.item.manyUntil
  mvcgen [block, hbody]
  simp +contextual [Suits, schema, schemaTable, Tree.isKnownField, *]

theorem condition_spec (h : go.Sound) : Yields (condition go) (Tree.Is isExpressionKind) := by
  have htest := expression_spec h
  mvcgen [condition, htest]

theorem branch_spec (h : go.Sound) : Yields (branch go) (Tree.Is isStatementKind) := by
  have hstatement := h.statement
  mvcgen [branch, hstatement]

theorem ifStatement_spec (h : go.Sound) : Yields (ifStatement go) (Tree.Is isStatementKind) := by
  have htest := condition_spec h
  have hbranch := branch_spec h
  mvcgen [ifStatement, htest, hbranch]
  all_goals simp +contextual [Suits, schema, schemaTable, Tree.isKnownField, isStatementKind, *]

/-! ### Loops -/

theorem Yields.loopBody {α : Type} {p : Grammar α} {P : α → Prop} (h : Yields p P) :
    Yields (loopBody p) P := by
  mvcgen [Grammar.loopBody, h]

theorem doWhileStatement_spec (h : go.Sound) :
    Yields (doWhileStatement go) (Tree.Is isStatementKind) := by
  have htest := condition_spec h
  have hbody := h.statement.loopBody
  have haccept {word : String} : Yields (discard (accept word)) fun _ => True := yields_any _
  mvcgen [doWhileStatement, htest, hbody, haccept]
  simp +contextual [Suits, schema, schemaTable, Tree.isKnownField, isStatementKind, *]

theorem whileStatement_spec (h : go.Sound) :
    Yields (whileStatement go) (Tree.Is isStatementKind) := by
  have htest := condition_spec h
  have hbody := h.statement.loopBody
  mvcgen [whileStatement, htest, hbody]
  simp +contextual [Suits, schema, schemaTable, Tree.isKnownField, isStatementKind, *]

@[simp] theorem is_loopHead_of_declaration {t : Tree} (h : t.Is (· == "VariableDeclaration")) :
    t.Is isLoopHeadKind := h.widen rfl

@[simp] theorem is_loopHead_of_expression {t : Tree} (h : t.Is isExpressionKind) :
    t.Is isLoopHeadKind := h.mono fun _ hk => Bool.or_eq_true_iff.mpr (.inr hk)

/-- The parts of the head of a loop are well formed. -/
@[simp] def ForHead.Sound : ForHead → Prop
  | .steps init => init = .null ∨ init.Is isLoopHeadKind
  | .within left right => left.Is isLoopHeadKind ∧ right.Is isExpressionKind
  | .of left right => left.Is isLoopHeadKind ∧ right.Is isExpressionKind

theorem forKeys_spec (h : go.Sound) {left : Tree} (hl : left.Is isLoopHeadKind) :
    Yields (forKeys go left) ForHead.Sound := by
  have hright := expression_spec h
  mvcgen [forKeys, hright]

theorem forItems_spec (h : go.Sound) {left : Tree} (hl : left.Is isLoopHeadKind) :
    Yields (forItems go left) ForHead.Sound := by
  have hright := h.assignment
  mvcgen [forItems, hright]

theorem forVar_spec (h : go.Sound) : Yields (forVar go) ForHead.Sound := by
  have hdeclarations {allowed inFor : Bool} :
      Yields (withIn allowed (variableDeclarators go inFor)) _ := (variableDeclarators_spec h inFor).withIn
  have hkeys {left : Tree} (hl : left.Is isLoopHeadKind) := forKeys_spec h hl
  have hitems {left : Tree} (hl : left.Is isLoopHeadKind) := forItems_spec h hl
  mvcgen [forVar, hdeclarations, hkeys, hitems]
  all_goals simp_all

theorem forLexical_spec (h : go.Sound) : Yields (forLexical go) ForHead.Sound := by
  have hdeclarations {allowed inFor : Bool} {kind : String} :
      Yields (withIn allowed (lexicalDeclarators go kind inFor)) _ :=
    (lexicalDeclarators_spec h kind inFor).withIn
  have hkeys {left : Tree} (hl : left.Is isLoopHeadKind) := forKeys_spec h hl
  have hitems {left : Tree} (hl : left.Is isLoopHeadKind) := forItems_spec h hl
  mvcgen [forLexical, hdeclarations, hkeys, hitems]
  all_goals simp_all

theorem forExpression_spec (h : go.Sound) : Yields (forExpression go) ForHead.Sound := by
  have hinit {allowed : Bool} : Yields (withIn allowed (inherit (go .assignment))) _ :=
    h.assignment.inherit.withIn
  have hrest := h.assignment.isolate.manyAfterComma
  have hkeys {left : Tree} (hl : left.Is isLoopHeadKind) := forKeys_spec h hl
  have hitems {left : Tree} (hl : left.Is isLoopHeadKind) := forItems_spec h hl
  mvcgen [forExpression, hinit, hrest, hkeys, hitems]
  all_goals simp_all [Tree.Is.asPattern]

theorem forHead_spec (h : go.Sound) : Yields (forHead go) ForHead.Sound := by
  have hvar := forVar_spec h
  have hlexical := forLexical_spec h
  have hexpression := forExpression_spec h
  mvcgen [forHead, hvar, hlexical, hexpression]
  simp

theorem forStatement_spec (h : go.Sound) : Yields (forStatement go) (Tree.Is isStatementKind) := by
  have hhead := forHead_spec h
  have hexpression := expression_spec h
  have hbody := h.statement.isolate.loopBody
  mvcgen [forStatement, hhead, hexpression, hbody]
  all_goals
    simp_all +contextual [Suits, schema, schemaTable, Tree.isKnownField, isStatementKind]

/-! ### Jumps -/

@[spec] theorem jumpLabel_spec :
    Yields jumpLabel fun t => t = .null ∨ t.Is (· == "Identifier") := by
  mvcgen [jumpLabel]
  all_goals simp [*]

@[spec] theorem continueStatement_spec : Yields continueStatement (Tree.Is isStatementKind) := by
  mvcgen [continueStatement]
  simp +contextual [Suits, schema, schemaTable, Tree.isKnownField, isStatementKind, *]

@[spec] theorem breakStatement_spec : Yields breakStatement (Tree.Is isStatementKind) := by
  mvcgen [breakStatement]
  simp +contextual [Suits, schema, schemaTable, Tree.isKnownField, isStatementKind, *]

@[spec] theorem hasArgument_spec : Yields hasArgument fun _ => True := yields_any _

theorem returnStatement_spec (h : go.Sound) :
    Yields (returnStatement go) (Tree.Is isStatementKind) := by
  have hargument := expression_spec h
  mvcgen [returnStatement, hargument]
  all_goals simp +contextual [Suits, schema, schemaTable, Tree.isKnownField, isStatementKind, *]

theorem throwStatement_spec (h : go.Sound) :
    Yields (throwStatement go) (Tree.Is isStatementKind) := by
  have hargument := expression_spec h
  mvcgen [throwStatement, hargument]
  simp +contextual [Suits, schema, schemaTable, Tree.isKnownField, isStatementKind, *]

/-! ### Other statements -/

theorem withStatement_spec (h : go.Sound) : Yields (withStatement go) (Tree.Is isStatementKind) := by
  have hobject := condition_spec h
  have hbody := h.statement
  mvcgen [withStatement, hobject, hbody]
  simp +contextual [Suits, schema, schemaTable, Tree.isKnownField, isStatementKind, *]

theorem switchCase_spec (h : go.Sound) : Yields (switchCase go) (Tree.Is (· == "SwitchCase")) := by
  have htest := expression_spec h
  have hitem := h.item
  have hitems {p : Grammar (Option Tree)} (hp : Yields p fun t? => ∀ t ∈ t?, t.Is isStatementKind) :
      Yields (many p) _ := hp.many
  mvcgen [switchCase, htest, hitem, hitems]
  all_goals simp +contextual [Suits, schema, schemaTable, Tree.isKnownField, *]

theorem moreCases_spec (h : go.Sound) (fuel : Nat) {hasDefault : Bool} {found : Array Tree}
    (hf : ∀ t ∈ found, t.Is (· == "SwitchCase")) :
    Yields (moreCases go fuel hasDefault found) fun all => ∀ t ∈ all, t.Is (· == "SwitchCase") := by
  induction fuel generalizing hasDefault found with
  | zero => exact yields_iff.mpr fun _ _ _ _ h => nomatch h
  | succ fuel ih =>
    have hclause := switchCase_spec h
    mvcgen [moreCases, hclause, ih]
    all_goals grind

theorem switchStatement_spec (h : go.Sound) :
    Yields (switchStatement go) (Tree.Is isStatementKind) := by
  have hdiscriminant := condition_spec h
  have hcases {fuel : Nat} : Yields (moreCases go fuel false #[]) _ := moreCases_spec h fuel (by simp)
  mvcgen [switchStatement, hdiscriminant, hcases]
  simp +contextual [Suits, schema, schemaTable, Tree.isKnownField, isStatementKind, *]

theorem functionStatement_spec (h : go.Sound) (nameOptional : Bool) :
    Yields (functionDeclaration go nameOptional) (Tree.Is isStatementKind) :=
  (functionDeclaration_spec h nameOptional).mono fun _ h => h.widen rfl

theorem labelledBody_spec (h : go.Sound) : Yields (labelledBody go) (Tree.Is isStatementKind) := by
  have hfunction := functionStatement_spec h
  have hstatement := h.statement
  mvcgen [labelledBody, hfunction, hstatement]

theorem labelledStatement_spec (h : go.Sound) :
    Yields (labelledStatement go) (Tree.Is isStatementKind) := by
  have hexpression := expression_spec h
  have hbody := labelledBody_spec h
  mvcgen [labelledStatement, hexpression, hbody]
  · have hkind := (Bool.and_eq_true_iff.mp ‹(Tree.isKind _ "Identifier" && _) = true›).1
    have hlabel := Tree.Is.of_isKind ‹_› hkind
    simp +contextual [Suits, schema, schemaTable, Tree.isKnownField, isStatementKind, *]
  · simp +contextual [Suits, schema, schemaTable, Tree.isKnownField, isStatementKind, *]

theorem catchClause_spec (h : go.Sound) : Yields (catchClause go) (Tree.Is (· == "CatchClause")) := by
  have hparam := (pattern_spec h "").collecting
  have hbody := block_spec h
  mvcgen [catchClause, hparam, hbody]
  all_goals simp +contextual [Suits, schema, schemaTable, Tree.isKnownField, *]

theorem tryStatement_spec (h : go.Sound) : Yields (tryStatement go) (Tree.Is isStatementKind) := by
  have hblock := block_spec h
  have hhandler := catchClause_spec h
  mvcgen [tryStatement, hblock, hhandler]
  all_goals simp +contextual [Suits, schema, schemaTable, Tree.isKnownField, isStatementKind, *]

theorem expressionStatement_spec (h : go.Sound) :
    Yields (expressionStatement go) (Tree.Is isStatementKind) := by
  have hexpression := expression_spec h
  mvcgen [expressionStatement, hexpression]
  simp +contextual [Suits, schema, schemaTable, Tree.isKnownField, isStatementKind, *]

theorem keywordStatement_spec (h : go.Sound) (keyword : String) :
    Yields (keywordStatement go keyword) (Tree.Is isStatementKind) := by
  have hdo := doWhileStatement_spec h
  have hfor := forStatement_spec h
  have hfunction := functionStatement_spec h
  have hif := ifStatement_spec h
  have hreturn := returnStatement_spec h
  have hswitch := switchStatement_spec h
  have hthrow := throwStatement_spec h
  have htry := tryStatement_spec h
  have hvar := variableStatement_spec h
  have hwhile := whileStatement_spec h
  have hwith := withStatement_spec h
  have hexpression := expressionStatement_spec h
  mvcgen [keywordStatement, hdo, hfor, hfunction, hif, hreturn, hswitch, hthrow, htry, hvar, hwhile,
    hwith, hexpression]
  simp +contextual [Suits, schema, schemaTable, isStatementKind]

theorem statement_spec (h : go.Sound) : Yields (statement go) (Tree.Is isStatementKind) := by
  have hblock : Yields (block go) (Tree.Is isStatementKind) :=
    (block_spec h).mono fun _ h => h.widen rfl
  have hexpression := expressionStatement_spec h
  have hfunction := functionStatement_spec h
  have hlabelled := labelledStatement_spec h
  have hkeyword := keywordStatement_spec h
  mvcgen [statement, hblock, hexpression, hfunction, hlabelled, hkeyword]
  simp +contextual [Suits, schema, schemaTable, isStatementKind]

/-! ### Imports -/

/-- A module is named by a text. -/
theorem moduleSpecifier_ahead {token : Token} : ⦃fun _ s => ⌜s.ahead = token⌝⦄
    moduleSpecifier ⦃⇓? t => ⌜t.Is (· == "Literal") ∧ (t.get "value").str?.isSome = true⌝⦄ := by
  have hliteral {start : Nat} {token : Token} (ht : token.type = .string) :
      Yields (literalNode start token) _ := literalNode_spec.and (literalNode_text ht)
  mvcgen [moduleSpecifier, hliteral, -literalNode_spec, here, -here_spec, seesType, -seesType_spec, next_ahead,
    -next_spec]
  intro _ _ htoken
  rw [htoken]
  exact beq_iff_eq.mp ‹_›

@[spec] theorem moduleSpecifier_spec :
    Yields moduleSpecifier fun t => t.Is (· == "Literal") ∧ (t.get "value").str?.isSome = true :=
  yields_iff.mpr fun source s a s' hrun => triple_iff.mp moduleSpecifier_ahead source s a s' rfl hrun

@[spec] theorem wrongWord_spec {α : Type} : Yields (wrongWord : Grammar α) fun _ => True := yields_any _

@[spec] theorem expectFrom_spec : Yields expectFrom fun _ => True := yields_any _

theorem not_isKind_of_all {kind other : String} {all : List Tree} (h : ∀ t ∈ all, t.Is (· == kind))
    (hne : kind ≠ other) : ∀ t ∈ all, ¬t.isKind other = true := by
  intro t ht
  rw [(h t ht).isKind_eq]
  simpa using hne

theorem bindsTogether_nil : Tree.bindsTogether [] = true := rfl

theorem bindsTogether_names {names : List Tree} (h : ∀ t ∈ names, t.Is (· == "ImportSpecifier")) :
    Tree.bindsTogether names = true := by
  have hdefaults := List.countP_eq_zero.mpr (not_isKind_of_all h (show _ ≠ "ImportDefaultSpecifier" by decide))
  have hspaces : Tree.bindsKind names "ImportNamespaceSpecifier" = false := by
    simpa [Tree.bindsKind] using not_isKind_of_all h (show _ ≠ "ImportNamespaceSpecifier" by decide)
  simp [Tree.bindsTogether, hdefaults, hspaces]

/-- A name for the default of a module can stand next to others. -/
theorem bindsTogether_cons {first : Tree} (hfirst : first.Is (· == "ImportDefaultSpecifier")) {rest : List Tree}
    (hrest : ∀ t ∈ rest, ¬t.isKind "ImportDefaultSpecifier" = true) (h : Tree.bindsTogether rest = true) :
    Tree.bindsTogether (first :: rest) = true := by
  have hdefaults := List.countP_eq_zero.mpr hrest
  simp only [Tree.bindsTogether, Tree.bindsKind, List.countP_cons, List.any_cons, hfirst.isKind_eq, hdefaults] at h ⊢
  simpa using h

/-- A name for the whole of a module can stand alone. -/
theorem bindsTogether_space {space : Tree} (h : space.Is (· == "ImportNamespaceSpecifier")) :
    Tree.bindsTogether [space] = true := by
  simp [Tree.bindsTogether, Tree.bindsKind, h.isKind_eq]

@[spec] theorem importSpecifier_spec : Yields importSpecifier (Tree.Is (· == "ImportSpecifier")) := by
  mvcgen [importSpecifier]
  all_goals simp +contextual [Suits, schema, schemaTable, Tree.isKnownField, *]

@[spec] theorem namedImports_spec :
    Yields namedImports fun all => ∀ t ∈ all, t.Is (· == "ImportSpecifier") := by
  have hall {close : String} : Yields (separatedUntil close importSpecifier) _ :=
    importSpecifier_spec.separatedUntil
  mvcgen [namedImports, hall]

@[spec] theorem namespaceImport_spec :
    Yields namespaceImport (Tree.Is (· == "ImportNamespaceSpecifier")) := by
  mvcgen [namespaceImport]
  simp +contextual [Suits, schema, schemaTable, Tree.isKnownField, *]

@[spec] theorem defaultImport_spec :
    Yields defaultImport (Tree.Is (· == "ImportDefaultSpecifier")) := by
  mvcgen [defaultImport]
  simp +contextual [Suits, schema, schemaTable, Tree.isKnownField, *]

/-- **What an import binds can stand together.** -/
@[spec] theorem importClause_spec : Yields importClause fun all =>
    (∀ t ∈ all, t.Is isImportNameKind) ∧ Tree.bindsTogether all = true := by
  have hdefault {t : Tree} (h : t.Is (· == "ImportDefaultSpecifier")) : t.Is isImportNameKind := h.widen rfl
  have hspace {t : Tree} (h : t.Is (· == "ImportNamespaceSpecifier")) : t.Is isImportNameKind := h.widen rfl
  have hnames {all : List Tree} (h : ∀ t ∈ all, t.Is (· == "ImportSpecifier")) : ∀ t ∈ all, t.Is isImportNameKind :=
    fun t ht => (h t ht).widen rfl
  mvcgen [importClause]
  case vc1 => exact fun _ _ hall => ⟨hnames hall, bindsTogether_names hall⟩
  case vc2 =>
    exact ⟨List.forall_mem_singleton.mpr (hspace (by assumption)), bindsTogether_space (by assumption)⟩
  case vc3 =>
    refine ⟨List.forall_mem_cons.mpr ⟨hdefault (by assumption), List.forall_mem_singleton.mpr
      (hspace (by assumption))⟩, bindsTogether_cons (by assumption) ?_ (bindsTogether_space (by assumption))⟩
    exact not_isKind_of_all (List.forall_mem_singleton.mpr (by assumption)) (by decide)
  case vc4 =>
    refine ⟨List.forall_mem_cons.mpr ⟨hdefault (by assumption), hnames (by assumption)⟩,
      bindsTogether_cons (by assumption) (not_isKind_of_all (by assumption) (by decide))
        (bindsTogether_names (by assumption))⟩
  case vc6 =>
    exact ⟨List.forall_mem_singleton.mpr (hdefault (by assumption)), bindsTogether_cons (by assumption) (by simp) rfl⟩

@[spec] theorem importDeclaration_spec : Yields importDeclaration (Tree.Is isStatementKind) := by
  mvcgen [importDeclaration]
  all_goals
    simp +contextual [Suits, schema, schemaTable, Tree.isKnownField, isStatementKind, Tree.keepsImport,
      bindsTogether_nil, *]

/-! ### Exports -/

@[spec] theorem exportSpecifier_spec : Yields exportSpecifier (Tree.Is isExportNameKind) := by
  mvcgen [exportSpecifier]
  all_goals simp +contextual [Suits, schema, schemaTable, Tree.isKnownField, isExportNameKind, *]

@[spec] theorem bareExportSpecifier_spec :
    Yields bareExportSpecifier (Tree.Is isExportNameKind) := by
  mvcgen [bareExportSpecifier]
  simp +contextual [Suits, schema, schemaTable, Tree.isKnownField, isExportNameKind, *]

theorem defaultValue_spec (h : go.Sound) : Yields (defaultValue go) (Tree.Is isDefaultKind) := by
  have widen {t : Tree} (h : t.Is isExpressionKind) : t.Is isDefaultKind :=
    h.mono fun _ hk => Bool.or_eq_true_iff.mpr (.inr hk)
  have hfunction (nameOptional : Bool) :
      Yields (functionDeclaration go nameOptional) (Tree.Is isDefaultKind) :=
    (functionDeclaration_spec h nameOptional).mono fun _ h => h.widen rfl
  have hclass (nameOptional : Bool) :
      Yields (classDeclaration go nameOptional) (Tree.Is isDefaultKind) :=
    (classDeclaration_spec h nameOptional).mono fun _ h => h.widen rfl
  have hobject := (objectLiteral_spec h).mono fun _ => widen
  have harray := (arrayLiteral_spec h).mono fun _ => widen
  have hvalue := h.assignment.mono fun _ => widen
  mvcgen [defaultValue, hfunction, hclass, hobject, harray, hvalue]

@[spec] theorem exportNode_spec {start : Nat} {declaration source : Tree} {specifiers : List Tree} :
    Yields (exportNode start declaration specifiers source) fun t =>
      (declaration = .null ∨ declaration.Is isStatementKind) →
        (∀ s ∈ specifiers, s.Is isExportNameKind) → (source = .null ∨ source.Is (· == "Literal")) →
          t.Is isStatementKind := by
  refine finish_spec.mono fun t h hd hn hs => h _ rfl ?_
  simpa [Suits, schema, schemaTable, Tree.isKnownField, hd, hs] using hn

@[spec] theorem bracedExports_spec :
    Yields bracedExports fun all => ∀ s ∈ all, s.1.Is isExportNameKind := by
  have hall {close : String} {p : Grammar (Tree × Bool)}
      (hp : Yields p fun s => s.1.Is isExportNameKind) : Yields (separatedUntil close p) _ :=
    hp.separatedUntil
  mvcgen [bracedExports, hall]

@[spec] theorem namedExports_spec {start : Nat} :
    Yields (namedExports start) (Tree.Is isStatementKind) := by
  mvcgen [namedExports]
  all_goals
    intro _ _ hnode
    refine hnode (by simp) (List.forall_mem_map.mpr ?_) (by simp [*])
    simp_all

theorem exportedDeclaration_spec (h : go.Sound) :
    Yields (exportedDeclaration go) (Tree.Is isStatementKind) := by
  have hlexical := lexicalDeclaration_spec h
  have hitem := h.item
  mvcgen [exportedDeclaration, hlexical, hitem]

theorem exportDeclaration_spec (h : go.Sound) :
    Yields (exportDeclaration go) (Tree.Is isStatementKind) := by
  have hdefault := defaultValue_spec h
  have hexported := exportedDeclaration_spec h
  have hfunction := functionStatement_spec h
  mvcgen [exportDeclaration, hdefault, hexported, hfunction]
  all_goals simp +contextual [Suits, schema, schemaTable, Tree.isKnownField, isStatementKind, *]

/-! ### The whole grammar -/

theorem item_spec (h : go.Sound) : Yields (item go) (Tree.Is isStatementKind) := by
  have hexport := exportDeclaration_spec h
  have hexpression := expressionStatement_spec h
  have hlexical := lexicalDeclaration_spec h
  have hfunction := functionStatement_spec h
  have hclass : Yields (classDeclaration go false) (Tree.Is isStatementKind) :=
    (classDeclaration_spec h false).mono fun _ h => h.widen rfl
  have hstatement := statement_spec h
  mvcgen [item, hexport, hexpression, hlexical, hfunction, hclass, hstatement]

/-- The rules one level above sound ones are sound. -/
theorem sound_ruleAbove (h : go.Sound) : (ruleAbove go).Sound where
  assignment := assignment_spec h
  exponent := exponent_spec h
  unary := unary_spec h
  call := callExpression_spec h
  callee := callee_spec h
  pattern := pattern_spec h
  statement := statement_spec h
  item := item_spec h
  element := element_spec h

/-- All rules are sound. -/
theorem sound_rules (levels : Nat) : (rules levels).Sound := by
  induction levels with
  | zero =>
    have none {α : Type} {P : α → Prop} : Yields (throw SyntaxError.tooDeep : Grammar α) P :=
      yields_iff.mpr fun _ _ _ _ h => nomatch h
    exact ⟨none, none, none, none, none, fun _ => none, none, none, none⟩
  | succ levels ih => exact sound_ruleAbove ih

theorem program_spec (isModule : Bool) : Yields (program isModule) (Tree.Is (· == "Program")) := by
  have h := sound_rules levelLimit
  have hprologue := directives_spec h
  have hitem := h.item
  have hitems {p : Grammar (Option Tree)} (hp : Yields p fun t? => ∀ t ∈ t?, t.Is isStatementKind) :
      Yields (many p) _ := hp.many
  have hnext : Yields (discard next) fun _ => True := yields_any _
  mvcgen [program, hprologue, hitem, hitems, hnext]
  all_goals
    simp +contextual [Suits, schema, schemaTable, Tree.isKnownField, or_imp, *]

/-- **What the grammar reads is a well-formed program.** -/
theorem is_of_readProgram {src : Source} {isModule : Bool} {tree : Tree} {comments : List Comment}
    (h : readProgram src isModule = .ok (tree, comments)) : tree.Is (· == "Program") := by
  obtain ⟨⟨t, reading⟩, hrun, he⟩ := bind_eq_ok.mp h
  cases he
  exact yields_iff.mp (program_spec isModule) src (beginning src) _ _ hrun

end Deminify.Grammar
