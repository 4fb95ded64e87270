import Deminify.Proofs.Grammar.Pattern
import Deminify.Grammar.Function
import Deminify.Grammar.Literal

/-!
# What functions, classes and literals yield

The parameters of a function are gathered one by one, with the faults found in them, so what is said
of them is an invariant of the gathering: `Deminify.Formals.Sound`.

Arrays, objects and templates gather their parts in a loop each, and the invariant of the loop is
that the parts found so far are well formed.
-/

set_option mvcgen.warning false

open Std.Do

namespace Deminify

/-! ### Parameters -/

/-- The parameters are well formed. -/
def Formals.Sound (f : Formals) : Prop := ∀ param ∈ f.params, param.Is isExpressionKind

theorem Formals.params_bind (f : Formals) (strict : Bool) (culprit : Culprit) (name : String) :
    (f.bind strict culprit name).params = f.params := by
  unfold Formals.bind
  grind

theorem Formals.params_foldl_bind {α : Type} (items : List α) (strict : Bool) (culprit : α → Culprit)
    (name : α → String) (f : Formals) :
    (items.foldl (fun f a => f.bind strict (culprit a) (name a)) f).params = f.params := by
  induction items generalizing f with
  | nil => rfl
  | cons a rest ih => rw [List.foldl_cons, ih, Formals.params_bind]

theorem Formals.Sound.push {f : Formals} (h : f.Sound) {param : Tree}
    (hp : param.Is isExpressionKind) : (f.push param).Sound := by
  intro p hm
  rcases List.mem_append.mp hm with hm | hm
  · exact h p hm
  · exact List.mem_singleton.mp hm ▸ hp

/-- A parameter is added after the names that it binds. -/
theorem Formals.Sound.foldl_push {α : Type} {f : Formals} (h : f.Sound) {param : Tree}
    (hp : param.Is isExpressionKind) (items : List α) (strict : Bool) (culprit : α → Culprit)
    (name : α → String) :
    ((items.foldl (fun f a => f.bind strict (culprit a) (name a)) f).push param).Sound := by
  refine Formals.Sound.push ?_ hp
  intro p hm
  rw [Formals.params_foldl_bind] at hm
  exact h p hm

namespace Grammar

variable {go : Rules}

theorem restParameter_spec (h : go.Sound) :
    Yields (restParameter go) (Tree.Is isExpressionKind) := by
  have hargument := h.pattern ""
  mvcgen [restParameter, hargument]
  simp +contextual [Suits, schema, schemaTable, Tree.isKnownField, isExpressionKind, *]

theorem formal_spec (h : go.Sound) {f : Formals} (hf : f.Sound) :
    Yields (formal go f) Formals.Sound := by
  have hrest := restParameter_spec h
  have hparam := patternWithDefault_spec h ""
  have hboth {p : Grammar Tree} (hp : Yields p (Tree.Is isExpressionKind)) :
      Yields (collecting p) _ := hp.collecting
  mvcgen [formal, hrest, hparam, hboth]
  exact hf.foldl_push ‹_› _ _ _ _

theorem moreFormals_spec (h : go.Sound) (fuel : Nat) {f : Formals} (hf : f.Sound) :
    Yields (moreFormals go fuel f) Formals.Sound := by
  induction fuel generalizing f with
  | zero => exact yields_iff.mpr fun _ _ _ _ h => nomatch h
  | succ fuel ih =>
    have hformal := formal_spec h hf
    mvcgen [moreFormals, hformal, ih]
    intro _ _
    assumption

theorem formals_spec (h : go.Sound) {fault : Option Culprit} :
    Yields (formals go fault) Formals.Sound := by
  have hnone : Formals.Sound { latentFault := fault } := fun _ hm => nomatch hm
  have hmore {fuel : Nat} := moreFormals_spec h fuel hnone
  mvcgen [formals, hmore]

@[spec] theorem checkFormals_spec {f : Formals} {message : Option String} :
    Yields (checkFormals f message) fun _ => True := yields_any _

/-! ### Bodies -/

@[spec] theorem sequenceNode_spec {start : Nat} {expressions : List Tree} :
    Yields (sequenceNode start expressions) fun t =>
      (∀ e ∈ expressions, e.Is isExpressionKind) → t.Is isExpressionKind := by
  refine finish_spec.mono fun t h he => h _ rfl ?_
  simpa [Suits, schema, schemaTable, Tree.isKnownField] using he

theorem expression_spec (h : go.Sound) : Yields (expression go) (Tree.Is isExpressionKind) := by
  have hfirst := h.assignment.isolate
  have hrest := h.assignment.isolate.manyAfterComma
  mvcgen [expression, hfirst, hrest]
  simp +contextual [*]

theorem directive_spec (h : go.Sound) :
    Yields (directive go) fun r => r.1.Is isStatementKind := by
  have he := expression_spec h
  mvcgen [directive, he]
  all_goals
    simp_all [Suits, schema, schemaTable, Tree.isKnownField, isStatementKind]

theorem moreDirectives_spec (h : go.Sound) (fuel : Nat) {body : Array Tree} {octal : Option Token}
    (hb : ∀ t ∈ body, t.Is isStatementKind) :
    Yields (moreDirectives go fuel body octal) fun all => ∀ t ∈ all, t.Is isStatementKind := by
  induction fuel generalizing body octal with
  | zero => exact yields_iff.mpr fun _ _ _ _ h => nomatch h
  | succ fuel ih =>
    have hdirective := directive_spec h
    mvcgen [moreDirectives, hdirective, ih]
    all_goals grind

theorem directives_spec (h : go.Sound) :
    Yields (directives go) fun all => ∀ t ∈ all, t.Is isStatementKind := by
  have hmore {fuel : Nat} : Yields (moreDirectives go fuel #[] none) _ :=
    moreDirectives_spec h fuel (by simp)
  mvcgen [directives, hmore]

theorem functionBody_spec (h : go.Sound) :
    Yields (functionBody go) (Tree.Is (· == "BlockStatement")) := by
  have hprologue := directives_spec h
  have hitem := h.item
  have hitems {p : Grammar (Option Tree)} (hp : Yields p fun t? => ∀ t ∈ t?, t.Is isStatementKind) :
      Yields (many p) _ := hp.many
  mvcgen [functionBody, hprologue, hitem, hitems]
  on_goal -1 =>
    simp +contextual [Suits, schema, schemaTable, Tree.isKnownField, or_imp, *]
  all_goals simp [*]

/-! ### Functions -/

/-- Whether the name, the parameters and the body of a function are well formed. -/
@[simp] def FunctionParts (name : Tree) (params : List Tree) (body : Tree) : Prop :=
  (name = .null ∨ name.Is (· == "Identifier")) ∧ (∀ param ∈ params, param.Is isExpressionKind) ∧
    body.Is (· == "BlockStatement")

section FunctionNode

variable {start : Nat} {isAsync isGenerator : Bool} {name : Tree} {params : List Tree} {body : Tree}

theorem functionNode_spec {kind : String} (hs : schema kind = some functionFields) :
    Yields (functionNode start kind isAsync isGenerator name params body) fun t =>
      FunctionParts name params body → t.Is (· == kind) := by
  have hkind : kind ≠ "Property" ∧ kind ≠ "ImportDeclaration" := by
    constructor <;> rintro rfl <;> simp [schema, schemaTable, functionFields] at hs
  rw [functionNode]
  split
  all_goals
    refine finish_spec.mono fun t h hparts => h _ (beq_self_eq_true kind) ?_
    simpa [Suits, hs, hkind.1, hkind.2, functionFields, Tree.isKnownField] using hparts

@[spec] theorem functionDeclarationNode_spec :
    Yields (functionNode start "FunctionDeclaration" isAsync isGenerator name params body) fun t =>
      FunctionParts name params body → t.Is (· == "FunctionDeclaration") :=
  functionNode_spec (by simp [schema, schemaTable])

@[spec] theorem functionExpressionNode_spec :
    Yields (functionNode start "FunctionExpression" isAsync isGenerator name params body) fun t =>
      FunctionParts name params body → t.Is isExpressionKind :=
  (functionNode_spec (by simp [schema, schemaTable])).mono fun _ h hparts => (h hparts).widen rfl

end FunctionNode

@[spec] theorem seesAsyncFunction_spec : Yields seesAsyncFunction fun _ => True := yields_any _

@[spec] theorem functionHead_spec : Yields functionHead fun _ => True := yields_any _

@[spec] theorem nameFault_spec {token : Token} : Yields (nameFault token) fun _ => True := yields_any _

theorem functionRest_spec (h : go.Sound) (fault : Option (Culprit × String)) :
    Yields (functionRest go fault) fun r =>
      (∀ param ∈ r.1, param.Is isExpressionKind) ∧ r.2.Is (· == "BlockStatement") := by
  have hformals : Yields (formals go (fault.map (·.1))) _ := formals_spec h
  have hbody := functionBody_spec h
  mvcgen [functionRest, hformals, hbody]

theorem functionDeclaration_spec (h : go.Sound) (nameOptional : Bool) :
    Yields (functionDeclaration go nameOptional) (Tree.Is (· == "FunctionDeclaration")) := by
  have hrest := functionRest_spec h
  mvcgen [functionDeclaration, hrest]
  all_goals simp +contextual [*]

theorem functionExpression_spec (h : go.Sound) :
    Yields (functionExpression go) (Tree.Is isExpressionKind) := by
  have hrest := functionRest_spec h
  mvcgen [functionExpression, hrest]
  all_goals simp +contextual [*]

/-! ### Methods -/

theorem methodBody_spec (h : go.Sound) (f : Formals) :
    Yields (methodBody go f) (Tree.Is (· == "BlockStatement")) := by
  have hbody := (functionBody_spec h).isolate
  mvcgen [methodBody, hbody]

@[spec] theorem checkArity_spec {sort : MethodSort} {params : List Tree} :
    Yields (checkArity sort params) fun _ => True := yields_any _

theorem methodFunction_spec (h : go.Sound) (sort : MethodSort) :
    Yields (methodFunction go sort) (Tree.Is isExpressionKind) := by
  have hformals : Yields (formals go none) fun f => ∀ param ∈ f.params, param.Is isExpressionKind :=
    formals_spec h
  have hbody := methodBody_spec h
  mvcgen [methodFunction, hformals, hbody]
  all_goals simp +contextual [*]

/-! ### Classes -/

/-- The key is well formed, if there is one. -/
@[simp] def MemberStart.Sound (m : MemberStart) : Prop := ∀ key ∈ m.key, key.Is isExpressionKind

theorem staticStart_spec (h : go.Sound) {m : MemberStart} (hm : m.Sound) :
    Yields (staticStart go m) MemberStart.Sound := by
  have hkey := propertyKey_spec h
  mvcgen [staticStart, hkey]
  simp [*]

theorem asyncStart_spec (h : go.Sound) {m : MemberStart} (hm : m.Sound) :
    Yields (asyncStart go m) MemberStart.Sound := by
  have hkey := propertyKey_spec h
  mvcgen [asyncStart, hkey]
  simp [*]

theorem memberStart_spec (h : go.Sound) : Yields (memberStart go) MemberStart.Sound := by
  have hkey := propertyKey_spec h
  have hstatic {m : MemberStart} (hm : m.Sound) := staticStart_spec h hm
  have hasync {m : MemberStart} (hm : m.Sound) := asyncStart_spec h hm
  mvcgen [memberStart, hkey, hstatic, hasync]
  all_goals simp [*]

theorem memberRest_spec (h : go.Sound) {m : MemberStart} (hm : m.Sound) :
    Yields (memberRest go m) fun r? =>
      ∀ r ∈ r?, r.2.1.Is isExpressionKind ∧ r.2.2.2.Is isExpressionKind := by
  have hkey := propertyKey_spec h
  have hmethod := methodFunction_spec h
  mvcgen [memberRest, hkey, hmethod]
  all_goals simp_all

theorem classMember_spec (h : go.Sound) {hasConstructor : Bool} :
    Yields (classMember go hasConstructor) fun r => r.1.Is (· == "MethodDefinition") := by
  have hstart := memberStart_spec h
  have hrest {m : MemberStart} (hm : m.Sound) := memberRest_spec h hm
  mvcgen [classMember, hstart, hrest]
  on_goal 1 => exact fun _ _ _ => trivial
  all_goals simp_all [Suits, schema, schemaTable, Tree.isKnownField]

theorem moreMembers_spec (h : go.Sound) (fuel : Nat) {hasConstructor : Bool} {found : Array Tree}
    (hf : ∀ t ∈ found, t.Is (· == "MethodDefinition")) :
    Yields (moreMembers go fuel hasConstructor found) fun all =>
      ∀ t ∈ all, t.Is (· == "MethodDefinition") := by
  induction fuel generalizing hasConstructor found with
  | zero => exact yields_iff.mpr fun _ _ _ _ h => nomatch h
  | succ fuel ih =>
    have hmember : ∀ {hasConstructor}, Yields (classMember go hasConstructor) _ := classMember_spec h
    mvcgen [moreMembers, hmember, ih]
    all_goals grind

theorem classBody_spec (h : go.Sound) : Yields (classBody go) (Tree.Is (· == "ClassBody")) := by
  have hmembers {fuel : Nat} : Yields (moreMembers go fuel false #[]) _ :=
    moreMembers_spec h fuel (by simp)
  mvcgen [classBody, hmembers]
  simp +contextual [Suits, schema, schemaTable, Tree.isKnownField, *]

theorem classNode_spec (h : go.Sound) {kind : String} (hs : schema kind = some classFields)
    (named : Token → Bool) : Yields (classNode go kind named) (Tree.Is (· == kind)) := by
  have hparent := h.call.isolate
  have hbody := classBody_spec h
  obtain ⟨hproperty, himport⟩ : kind ≠ "Property" ∧ kind ≠ "ImportDeclaration" := by
    constructor <;> rintro rfl <;> simp [schema, schemaTable, classFields] at hs
  mvcgen [classNode, hparent, hbody]
  all_goals simp +contextual [Suits, classFields, Tree.isKnownField, *]

theorem classDeclaration_spec (h : go.Sound) (nameOptional : Bool) :
    Yields (classDeclaration go nameOptional) (Tree.Is (· == "ClassDeclaration")) :=
  classNode_spec h (by simp [schema, schemaTable]) _

theorem classExpression_spec (h : go.Sound) :
    Yields (classExpression go) (Tree.Is isExpressionKind) :=
  (classNode_spec h (by simp [schema, schemaTable]) _).mono fun _ h => h.widen rfl

/-! ### Arrays and objects -/

theorem spread_spec (h : go.Sound) : Yields (spread go) (Tree.Is (· == "SpreadElement")) := by
  have hargument := h.assignment.inherit
  mvcgen [spread, hargument]
  simp +contextual [Suits, schema, schemaTable, Tree.isKnownField, *]

theorem arrayLiteral_spec (h : go.Sound) : Yields (arrayLiteral go) (Tree.Is isExpressionKind) := by
  have hspread : Yields (spread go) (Tree.Is isExpressionKind) :=
    (spread_spec h).mono fun _ h => h.widen rfl
  have helement := h.assignment.inherit
  have helements {p : Grammar Tree} (hp : Yields p fun t => t = .null ∨ t.Is isExpressionKind) :
      Yields (manyUntil "]" p) _ := hp.manyUntil
  mvcgen [arrayLiteral, hspread, helement, helements]
  on_goal -1 =>
    simp +contextual [Suits, schema, schemaTable, Tree.isKnownField, isExpressionKind, *]
  all_goals simp [*]

theorem propertyValue_spec (h : go.Sound) {start : Nat} {first : Token} {key : Tree}
    {computed isAsync hasProto : Bool} (hkey : IsKey computed key) :
    Yields (propertyValue go start first key computed isAsync hasProto) fun r =>
      r.1.Is isPropertyKind := by
  have hvalue := h.assignment.inherit
  have hright := h.assignment.isolate
  have hmethod := methodFunction_spec h
  mvcgen [propertyValue, hvalue, hright, hmethod]
  all_goals simp_all

theorem objectProperty_spec (h : go.Sound) {hasProto : Bool} :
    Yields (objectProperty go hasProto) fun r => r.1.Is isPropertyKind := by
  have hkey {token : Token} := @propertyKey_ahead go h token
  have hmethod := methodFunction_spec h
  have hvalue {start first key computed isAsync} (hkey : IsKey computed key) :
      Yields (propertyValue go start first key computed isAsync hasProto) _ := propertyValue_spec h hkey
  mvcgen [objectProperty, hkey, hmethod, hvalue, sees_ahead, -sees_spec, seesOneOf_ahead, -seesOneOf_spec]
  all_goals grind [IsKey.of_name]

theorem moreProperties_spec (h : go.Sound) (fuel : Nat) {hasProto : Bool} {found : Array Tree}
    (hf : ∀ t ∈ found, t.Is isPropertyKind) :
    Yields (moreProperties go fuel hasProto found) fun all => ∀ t ∈ all, t.Is isPropertyKind := by
  induction fuel generalizing hasProto found with
  | zero => exact yields_iff.mpr fun _ _ _ _ h => nomatch h
  | succ fuel ih =>
    have hspread : Yields (spread go) (Tree.Is isPropertyKind) :=
      (spread_spec h).mono fun _ h => h.widen rfl
    have hproperty {hasProto : Bool} : Yields (objectProperty go hasProto) _ := objectProperty_spec h
    mvcgen [moreProperties, hspread, hproperty, ih]
    all_goals grind

theorem objectLiteral_spec (h : go.Sound) :
    Yields (objectLiteral go) (Tree.Is isExpressionKind) := by
  have hproperties {fuel : Nat} : Yields (moreProperties go fuel false #[]) _ :=
    moreProperties_spec h fuel (by simp)
  mvcgen [objectLiteral, hproperties]
  simp +contextual [Suits, schema, schemaTable, Tree.isKnownField, isExpressionKind, *]

/-! ### Templates -/

@[spec] theorem templateElement_spec :
    Yields templateElement fun r => r.1.Is (· == "TemplateElement") := by
  mvcgen [templateElement]
  simp_all [Suits, schema, schemaTable, Tree.isKnownField, FieldSort.Holds, Tree.isObj, Tree.isNode]

theorem templateRest_spec (h : go.Sound) (fuel : Nat) {quasis expressions : Array Tree}
    (hq : ∀ t ∈ quasis, t.Is (· == "TemplateElement"))
    (he : ∀ t ∈ expressions, t.Is isExpressionKind) :
    Yields (templateRest go fuel quasis expressions) fun r =>
      (∀ t ∈ r.1, t.Is (· == "TemplateElement")) ∧ ∀ t ∈ r.2, t.Is isExpressionKind := by
  induction fuel generalizing quasis expressions with
  | zero => exact yields_iff.mpr fun _ _ _ _ h => nomatch h
  | succ fuel ih =>
    have hhole := expression_spec h
    mvcgen [templateRest, hhole, ih]
    all_goals grind

theorem templateLiteral_spec (h : go.Sound) :
    Yields (templateLiteral go) (Tree.Is (· == "TemplateLiteral")) := by
  have hrest {fuel : Nat} {quasi : Tree} (hq : quasi.Is (· == "TemplateElement")) :
      Yields (templateRest go fuel #[quasi] #[]) _ :=
    templateRest_spec h fuel (by simpa using hq) (by simp)
  mvcgen [templateLiteral, hrest]
  all_goals simp +contextual [Suits, schema, schemaTable, Tree.isKnownField, *]

end Grammar

end Deminify
