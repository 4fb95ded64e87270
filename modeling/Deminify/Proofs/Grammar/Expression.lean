import Deminify.Grammar.Element
import Deminify.Grammar.Expression
import Deminify.Proofs.Grammar.Function
import Deminify.Proofs.Grammar.Pattern

/-!
# What expressions yield

The elements that are still open while their contents are read stand on a stack; the invariant of
the reading is that what has been read of each of them is well formed (`Deminify.Grammar.OpenElement.Sound`).

The other expressions go from the atoms up to assignments. The parameters of an arrow function are read as
expressions and turned into patterns, so the lemmas on patterns come in where a group, a call or a target of an
assignment turns out to be one.
-/

set_option mvcgen.warning false

open Std.Do

namespace Deminify.Grammar

variable {go : Rules}

/-! ### Tokens of tags -/

section Tags

variable {word : String}

@[spec] theorem enterTags_spec : Yields enterTags fun _ => True := yields_any _

@[spec] theorem leaveTags_spec : Yields leaveTags fun _ => True := yields_any _

@[spec] theorem reenterTags_spec : Yields reenterTags fun _ => True := yields_any _

@[spec] theorem tagHere_spec : Yields tagHere fun _ => True := yields_any _

@[spec] theorem nextTag_spec : Yields nextTag fun _ => True := yields_any _

@[spec] theorem seesTag_spec : Yields (seesTag word) fun _ => True := yields_any _

@[spec] theorem seesTagEnd_spec : Yields seesTagEnd fun _ => True := yields_any _

@[spec] theorem expectTag_spec : Yields (expectTag word) fun _ => True := yields_any _

@[spec] theorem skipGaps_spec : Yields skipGaps fun _ => True := yields_any _

@[spec] theorem scanning_spec {α : Type} {scan : Scan α} : Yields (scanning scan) fun _ => True :=
  yields_any _

end Tags

/-! ### Names -/

@[spec] theorem tagName_spec : Yields tagName (Tree.Is (· == "JSXIdentifier")) := by
  mvcgen [tagName]
  simp +contextual [Suits, schema, schemaTable, Tree.isKnownField]

@[spec] theorem namespacedName_spec {start : Nat} {space : Tree} :
    Yields (namespacedName start space) fun t =>
      space.Is (· == "JSXIdentifier") → t.Is (· == "JSXNamespacedName") := by
  mvcgen [namespacedName]
  simp +contextual [Suits, schema, schemaTable, Tree.isKnownField, *]

@[spec] theorem memberName_spec {start : Nat} {object : Tree} :
    Yields (memberName start object) fun t => object.Is isTagObjectKind → t.Is isTagObjectKind := by
  mvcgen [memberName]
  simp +contextual [Suits, schema, schemaTable, Tree.isKnownField, isTagObjectKind, *]

theorem memberNames_spec {start : Nat} (fuel : Nat) {object : Tree} (ho : object.Is isTagObjectKind) :
    Yields (memberNames start fuel object) (Tree.Is isTagObjectKind) := by
  induction fuel generalizing object with
  | zero => exact yields_iff.mpr fun _ _ _ _ h => nomatch h
  | succ fuel ih =>
    mvcgen [memberNames, ih]
    simp +contextual [*]

@[spec] theorem elementName_spec : Yields elementName (Tree.Is isTagNameKind) := by
  have hmembers {start fuel : Nat} {object : Tree} (ho : object.Is (· == "JSXIdentifier")) :
      Yields (memberNames start fuel object) (Tree.Is isTagNameKind) := by
    refine (memberNames_spec fuel (ho.widen rfl)).mono fun t h => h.mono ?_
    intro kind hk
    rcases Bool.or_eq_true_iff.mp hk with hk | hk <;> exact beq_iff_eq.mp hk ▸ rfl
  mvcgen [elementName, hmembers]
  exact fun _ _ hspaced => (hspaced ‹_›).widen rfl

/-! ### Attributes -/

theorem attributeValue_spec (h : go.Sound) :
    Yields (attributeValue go) (Tree.Is isAttributeValueKind) := by
  have hvalue : Yields (go .assignment) (Tree.Is isContainedKind) :=
    h.assignment.mono fun _ h => h.mono fun _ hk => Bool.or_eq_true_iff.mpr (.inr hk)
  have helement : Yields (go .element) (Tree.Is isAttributeValueKind) :=
    h.element.mono fun _ h => h.widen rfl
  mvcgen [attributeValue, hvalue, helement]
  · simp +contextual [Suits, schema, schemaTable, Tree.isKnownField, isAttributeValueKind, *]
  · exact fun _ _ hliteral => hliteral.widen rfl

theorem attribute_spec (h : go.Sound) : Yields (attribute_ go) (Tree.Is isAttributeKind) := by
  have hargument := h.assignment
  have hvalue := attributeValue_spec h
  have hword {t : Tree} (h : t.Is (· == "JSXIdentifier")) : t.Is isAttributeNameKind := h.widen rfl
  have hspaced {t : Tree} (h : t.Is (· == "JSXNamespacedName")) : t.Is isAttributeNameKind :=
    h.widen rfl
  mvcgen [attribute_, hargument, hvalue]
  all_goals
    simp_all +contextual [Suits, schema, schemaTable, Tree.isKnownField, isAttributeKind]

theorem openingRest_spec (h : go.Sound) {start : Nat} :
    Yields (openingRest go start) fun r => r.1.Is (· == "JSXOpeningElement") := by
  have hattribute := attribute_spec h
  have hattributes {p : Grammar (Option Tree)} (hp : Yields p fun t? => ∀ t ∈ t?, t.Is isAttributeKind) :
      Yields (many p) _ := hp.many
  mvcgen [openingRest, hattribute, hattributes]
  all_goals simp_all [Suits, schema, schemaTable, Tree.isKnownField]

/-! ### Children -/

@[spec] theorem emptyContent_spec : Yields emptyContent (Tree.Is isContainedKind) := by
  mvcgen [emptyContent]
  simp_all [Suits, schema, schemaTable, Tree.isKnownField, isContainedKind]

theorem container_spec (h : go.Sound) : Yields (container go) (Tree.Is Tree.isElementChildKind) := by
  have hinner : Yields (go .assignment) (Tree.Is isContainedKind) :=
    h.assignment.mono fun _ h => h.mono fun _ hk => Bool.or_eq_true_iff.mpr (.inr hk)
  mvcgen [container, hinner]
  all_goals
    simp +contextual [Suits, schema, schemaTable, Tree.isKnownField, Tree.isElementChildKind, *]

@[spec] theorem textNode_spec {token : Token} :
    Yields (textNode token) (Tree.Is Tree.isElementChildKind) := by
  mvcgen [textNode]
  simp +contextual [Suits, schema, schemaTable, Tree.isKnownField, Tree.isElementChildKind]

theorem tagChildren_spec (h : go.Sound) (fuel : Nat) {found : Array Tree}
    (hf : ∀ t ∈ found, t.Is Tree.isElementChildKind) :
    Yields (tagChildren go fuel found) fun all => ∀ t ∈ all, t.Is Tree.isElementChildKind := by
  induction fuel generalizing found with
  | zero => exact yields_iff.mpr fun _ _ _ _ h => nomatch h
  | succ fuel ih =>
    have hcontainer := container_spec h
    mvcgen [tagChildren, hcontainer, ih]
    all_goals grind

/-- What has been read of an open element is well formed. -/
@[simp, grind] def OpenElement.Sound (e : OpenElement) : Prop :=
  e.opening.Is (· == "JSXOpeningElement") ∧ ∀ t ∈ e.children, t.Is Tree.isElementChildKind

@[spec] theorem elementNode_spec {e : OpenElement} {closing : Tree} :
    Yields (elementNode e closing) fun t =>
      e.Sound → closing = .null ∨ closing.Is (· == "JSXClosingElement") → t.Is (· == "JSXElement") := by
  refine finish_spec.mono fun t h he hc => h _ rfl ?_
  simpa [Suits, schema, schemaTable, Tree.isKnownField, he.1, hc] using he.2

@[spec] theorem closingRest_spec {start : Nat} :
    Yields (closingRest start) (Tree.Is (· == "JSXClosingElement")) := by
  mvcgen [closingRest]
  simp +contextual [Suits, schema, schemaTable, Tree.isKnownField, *]

theorem content_spec (h : go.Sound) (fuel : Nat) {e : OpenElement} {outer : List OpenElement}
    (he : e.Sound) (ho : ∀ e ∈ outer, e.Sound) :
    Yields (content go fuel e outer) fun r =>
      (∀ t ∈ r.1, t.Is Tree.isElementChildKind) ∧ (r.2 = .null ∨ r.2.Is (· == "JSXClosingElement")) := by
  induction fuel generalizing e outer with
  | zero => exact yields_iff.mpr fun _ _ _ _ h => nomatch h
  | succ fuel ih =>
    have hchildren {fuel : Nat} : Yields (tagChildren go fuel e.children) _ :=
      tagChildren_spec h fuel he.2
    have hopening {start : Nat} : Yields (openingRest go start) _ := openingRest_spec h
    have hchild {t : Tree} (h : t.Is (· == "JSXElement")) : t.Is Tree.isElementChildKind :=
      h.widen rfl
    cases outer with
    | nil =>
      mvcgen [content, hchildren, hopening, ih]
      all_goals grind
    | cons parent rest =>
      obtain ⟨hparent, hrest⟩ := List.forall_mem_cons.mp ho
      mvcgen [content, hchildren, hopening, ih]
      all_goals grind

theorem element_spec (h : go.Sound) : Yields (element go) (Tree.Is (· == "JSXElement")) := by
  have hopening {start : Nat} : Yields (openingRest go start) _ := openingRest_spec h
  have hcontent {fuel start : Nat} {opening : Tree} (ho : opening.Is (· == "JSXOpeningElement")) :
      Yields (content go fuel ⟨start, opening, #[]⟩ []) _ :=
    content_spec h fuel ⟨ho, by simp⟩ (by simp)
  mvcgen [element, hopening, hcontent]
  all_goals simp +contextual [*]

theorem rootElement_spec (h : go.Sound) : Yields (rootElement go) (Tree.Is isExpressionKind) := by
  have helement : Yields (element go) (Tree.Is isExpressionKind) :=
    (element_spec h).mono fun _ h => h.widen rfl
  mvcgen [rootElement, helement]

/-! ### Groups -/

/-- Expressions mark parameters once they are turned into patterns. -/
theorem is_arrowMark_asPattern {items : List Tree} {isAsync : Bool}
    (h : ∀ t ∈ items, t.Is isExpressionKind) :
    (arrowMark (items.map Tree.asPattern) isAsync).Is isExpressionKind := by
  refine is_arrowMark fun t ht => ?_
  obtain ⟨e, he, rfl⟩ := List.mem_map.mp ht
  exact (h e he).asPattern

@[spec] theorem markedParams_spec {params : List Tree} :
    Yields (markedParams params) fun t =>
      (∀ param ∈ params, param.Is isExpressionKind) → t.Is isExpressionKind := by
  mvcgen [markedParams]
  all_goals exact is_arrowMark

/-- What comes of a group is well formed. -/
@[simp, grind] def GroupRest.Sound : GroupRest → Prop
  | .params mark => mark.Is isExpressionKind
  | .sequence expressions => ∀ e ∈ expressions, e.Is isExpressionKind

theorem groupRest_spec (h : go.Sound) (fuel : Nat) {found : Array Tree}
    (hf : ∀ t ∈ found, t.Is isExpressionKind) :
    Yields (groupRest go fuel found) GroupRest.Sound := by
  induction fuel generalizing found with
  | zero => exact yields_iff.mpr fun _ _ _ _ h => nomatch h
  | succ fuel ih =>
    have hrest := (restParameter_spec h).collecting
    have hexpression := h.assignment.inherit
    mvcgen [groupRest, hrest, hexpression, ih]
    case' vc1 | vc2 | vc3 => refine is_arrowMark_asPattern ?_
    all_goals grind

theorem endGroup_spec {e : Tree} (he : e.Is isExpressionKind) :
    Yields (endGroup e) (Tree.Is isExpressionKind) := by
  mvcgen [endGroup]
  · exact is_arrowMark (by simpa using he)
  · refine is_arrowMark_asPattern ?_
    grind [is_of_sequence he]

theorem group_spec (h : go.Sound) : Yields (group go) (Tree.Is isExpressionKind) := by
  have hrest := (restParameter_spec h).collecting
  have hfirst := h.assignment.inherit
  have hgroup {fuel : Nat} {first : Tree} (hf : first.Is isExpressionKind) :
      Yields (groupRest go fuel #[first]) _ := groupRest_spec h fuel (by simpa using hf)
  have hend {e : Tree} (he : e.Is isExpressionKind) := endGroup_spec he
  mvcgen [group, hrest, hfirst, hgroup, hend]
  all_goals simp_all

/-! ### Calls and accesses -/

theorem argument_spec (h : go.Sound) (mayBeParam : Bool) :
    Yields (argument go mayBeParam) (Tree.Is isExpressionKind) := by
  have hspread : Yields (spread go) (Tree.Is isExpressionKind) :=
    (spread_spec h).mono fun _ h => h.widen rfl
  have hvalue := h.assignment
  have halone {p : Grammar Tree} (hp : Yields p (Tree.Is isExpressionKind)) :
      Yields (isolate p) _ := hp.isolate
  mvcgen [argument, hspread, hvalue, halone]

theorem arguments_spec (h : go.Sound) (mayBeParams : Bool) :
    Yields (arguments go mayBeParams) fun args => ∀ t ∈ args, t.Is isExpressionKind := by
  have hargs {close : String} : Yields (separatedUntil close (argument go mayBeParams)) _ :=
    (argument_spec h mayBeParams).separatedUntil
  mvcgen [arguments, hargs]

theorem access?_spec (h : go.Sound) (start : Nat) {object : Tree} (ho : object.Is isExpressionKind) :
    Yields (access? go start object) fun t? => ∀ t ∈ t?, t.Is isExpressionKind := by
  have hproperty := (expression_spec h).isolate
  have hquasi := templateLiteral_spec h
  mvcgen [access?, hproperty, hquasi]
  all_goals simp +contextual [Suits, schema, schemaTable, Tree.isKnownField, isExpressionKind, *]

theorem newExpression_spec (h : go.Sound) : Yields (newExpression go) (Tree.Is isExpressionKind) := by
  have hcallee := h.callee.isolate
  have hargs := arguments_spec h
  mvcgen [newExpression, hcallee, hargs]
  all_goals simp +contextual [Suits, schema, schemaTable, Tree.isKnownField, isExpressionKind, *]

@[spec] theorem seesImportCall_spec : Yields seesImportCall fun _ => True := yields_any _

@[spec] theorem patternLiteral_spec : Yields patternLiteral (Tree.Is isExpressionKind) := by
  mvcgen [patternLiteral]
  simp +contextual [Suits, schema, schemaTable, Tree.isKnownField, isExpressionKind,
    Tree.holdsChildren, Tree.childlessFields]

theorem keywordExpression_spec (h : go.Sound) :
    Yields (keywordExpression go) (Tree.Is isExpressionKind) := by
  have hfunction := functionExpression_spec h
  have hclass := classExpression_spec h
  mvcgen [keywordExpression, hfunction, hclass]
  all_goals simp +contextual [Suits, schema, schemaTable, Tree.isKnownField, isExpressionKind]

theorem primary_spec (h : go.Sound) : Yields (primary go) (Tree.Is isExpressionKind) := by
  have hfunction := functionExpression_spec h
  have htemplate : Yields (templateLiteral go) (Tree.Is isExpressionKind) :=
    (templateLiteral_spec h).mono fun _ h => h.widen rfl
  have helement := rootElement_spec h
  have hgroup := (group_spec h).inherit
  have harray := (arrayLiteral_spec h).inherit
  have hobject := (objectLiteral_spec h).inherit
  have hkeyword := keywordExpression_spec h
  mvcgen [primary, hfunction, htemplate, helement, hgroup, harray, hobject, hkeyword]
  all_goals simp +contextual

@[spec] theorem callNode_spec {start : Nat} {function : Tree} {args : List Tree} :
    Yields (callNode start function args) fun t =>
      function.Is isExpressionKind → (∀ arg ∈ args, arg.Is isExpressionKind) →
        t.Is isExpressionKind := by
  refine finish_spec.mono fun t h hf ha => h _ rfl ?_
  simpa [Suits, schema, schemaTable, Tree.isKnownField, hf] using ha

theorem callRest_spec (h : go.Sound) {first : Token} {maybeAsync : Bool} (fuel : Nat) {e : Tree}
    (he : e.Is isExpressionKind) :
    Yields (callRest go first maybeAsync fuel e) (Tree.Is isExpressionKind) := by
  induction fuel generalizing e with
  | zero => exact yields_iff.mpr fun _ _ _ _ h => nomatch h
  | succ fuel ih =>
    have hargs := arguments_spec h
    have haccess (start : Nat) := access?_spec h start he
    mvcgen [callRest, hargs, haccess, ih]
    · exact fun _ _ => is_arrowMark_asPattern ‹_›
    all_goals simp_all

theorem operand_spec (h : go.Sound) : Yields (operand go) (Tree.Is isExpressionKind) := by
  have hnew := newExpression_spec h
  have hprimary := primary_spec h
  mvcgen [operand, hnew, hprimary]

theorem callExpression_spec (h : go.Sound) : Yields (callExpression go) (Tree.Is isExpressionKind) := by
  have hoperand := (operand_spec h).inherit
  have hrest {first maybeAsync fuel e} (he : e.Is isExpressionKind) :
      Yields (callRest go first maybeAsync fuel e) _ := callRest_spec h fuel he
  have hwithin {p : Grammar Tree} (hp : Yields p (Tree.Is isExpressionKind)) :
      Yields (withIn true p) _ := hp.withIn
  mvcgen [callExpression, hoperand, hrest, hwithin]
  simp_all [Suits, schema, schemaTable, isExpressionKind]

theorem calleeRest_spec (h : go.Sound) {start : Nat} (fuel : Nat) {e : Tree}
    (he : e.Is isExpressionKind) :
    Yields (calleeRest go start fuel e) (Tree.Is isExpressionKind) := by
  induction fuel generalizing e with
  | zero => exact yields_iff.mpr fun _ _ _ _ h => nomatch h
  | succ fuel ih =>
    have haccess := access?_spec h start he
    mvcgen [calleeRest, haccess, ih]
    simp

theorem callee_spec (h : go.Sound) : Yields (callee go) (Tree.Is isExpressionKind) := by
  have hoperand := (operand_spec h).inherit
  have hrest {start fuel e} (he : e.Is isExpressionKind) :
      Yields (calleeRest go start fuel e) _ := calleeRest_spec h fuel he
  mvcgen [callee, hoperand, hrest]
  simp_all [Suits, schema, schemaTable, isExpressionKind]

/-! ### Operators -/

@[spec] theorem checkIncrement_spec {e : Tree} {message : String} :
    Yields (checkIncrement e message) fun _ => True := yields_any _

@[spec] theorem updateNode_spec {start : Nat} {operator : String} {argument : Tree} {inFront : Bool} :
    Yields (updateNode start operator argument inFront) fun t =>
      argument.Is isExpressionKind → t.Is isExpressionKind := by
  refine finish_spec.mono fun t h ha => h _ rfl ?_
  simp [Suits, schema, schemaTable, Tree.isKnownField, ha]

theorem update_spec (h : go.Sound) : Yields (update go) (Tree.Is isExpressionKind) := by
  have hunary := h.unary.inherit
  have hcall := (callExpression_spec h).inherit
  mvcgen [update, hunary, hcall]
  all_goals simp_all

theorem unary_spec (h : go.Sound) : Yields (unary go) (Tree.Is isExpressionKind) := by
  have hinner := h.unary
  have houter := h.unary.inherit
  have hupdate := update_spec h
  mvcgen [unary, hinner, houter, hupdate]
  all_goals simp_all [Suits, schema, schemaTable, Tree.isKnownField, isExpressionKind]

theorem exponent_spec (h : go.Sound) : Yields (exponent go) (Tree.Is isExpressionKind) := by
  have hleft := (unary_spec h).inherit
  have hright := h.exponent.isolate
  mvcgen [exponent, hleft, hright]
  simp +contextual [Suits, schema, schemaTable, operationFields, Tree.isKnownField, isExpressionKind, *]

@[spec] theorem binaryNode_spec {start : Nat} {operator : String} {left right : Tree} :
    Yields (binaryNode start operator left right) fun t =>
      left.Is isExpressionKind → right.Is isExpressionKind → t.Is isExpressionKind := by
  rw [binaryNode]
  refine finish_spec.mono fun t h hl hr => h _ ?_ ?_
  · split <;> rfl
  · split <;> simp [Suits, schema, schemaTable, operationFields, Tree.isKnownField, hl, hr]

theorem reduce_spec {limit start : Nat} {right : Tree} {pending : List Pending}
    (hr : right.Is isExpressionKind) (hp : ∀ p ∈ pending, p.operand.Is isExpressionKind) :
    Yields (reduce limit start right pending) fun r =>
      r.2.1.Is isExpressionKind ∧ ∀ p ∈ r.2.2, p.operand.Is isExpressionKind := by
  induction pending generalizing start right with
  | nil => mvcgen [reduce]
  | cons p rest ih =>
    obtain ⟨hp, hrest⟩ := List.forall_mem_cons.mp hp
    mvcgen [reduce, ih]
    all_goals simp_all

theorem binaryRest_spec (h : go.Sound) (fuel : Nat) {start : Nat} {e : Tree} {pending : List Pending}
    (he : e.Is isExpressionKind) (hp : ∀ p ∈ pending, p.operand.Is isExpressionKind) :
    Yields (binaryRest go fuel start e pending) (Tree.Is isExpressionKind) := by
  induction fuel generalizing start e pending with
  | zero => exact yields_iff.mpr fun _ _ _ _ h => nomatch h
  | succ fuel ih =>
    have hreduce {limit start : Nat} : Yields (reduce limit start e pending) _ := reduce_spec he hp
    have hright := (exponent_spec h).isolate
    mvcgen [binaryRest, hreduce, hright, ih]
    all_goals simp_all

theorem binary_spec (h : go.Sound) : Yields (binary go) (Tree.Is isExpressionKind) := by
  have hfirst := (exponent_spec h).inherit
  have hrest {fuel start : Nat} {e : Tree} (he : e.Is isExpressionKind) :
      Yields (binaryRest go fuel start e []) _ := binaryRest_spec h fuel he (by simp)
  mvcgen [binary, hfirst, hrest]

theorem conditional_spec (h : go.Sound) : Yields (conditional go) (Tree.Is isExpressionKind) := by
  have htest := (binary_spec h).inherit
  have hbranch := h.assignment.isolate
  have hfirst {allowed : Bool} : Yields (withIn allowed (isolate (go .assignment))) _ := hbranch.withIn
  mvcgen [conditional, htest, hbranch, hfirst]
  simp_all [Suits, schema, schemaTable, Tree.isKnownField, isExpressionKind]

/-! ### Assignments and arrow functions -/

@[spec] theorem startsExpression_spec : Yields startsExpression fun _ => True := yields_any _

theorem yieldExpression_spec (h : go.Sound) :
    Yields (yieldExpression go) (Tree.Is isExpressionKind) := by
  have hargument := h.assignment
  mvcgen [yieldExpression, hargument]
  all_goals simp +contextual [Suits, schema, schemaTable, Tree.isKnownField, isExpressionKind, *]

theorem yieldAsName_spec {param : Tree} (hp : param.Is isExpressionKind) :
    Yields (yieldAsName param) (Tree.Is isExpressionKind) := by
  mvcgen [yieldAsName]
  have hkinds := Bool.and_eq_true_iff.mp ‹_ = true›
  exact is_set_yieldName hp hkinds.1 hkinds.2

theorem bindArrowParam_spec {isAsync : Bool} {f : Formals} {param : Tree} (hf : f.Sound)
    (hp : param.Is isExpressionKind) : Yields (bindArrowParam isAsync f param) Formals.Sound := by
  have hnamed := yieldAsName_spec hp
  have hbind {named : Tree} (hn : named.Is isExpressionKind) : Yields (bindPattern f named) Formals.Sound := by
    mvcgen [bindPattern]
    exact hf.foldl_push hn _ _ _ _
  mvcgen [bindArrowParam, hnamed, hbind]
  exact fun _ _ hn => hn

theorem bindArrowParams_spec {isAsync : Bool} {f : Formals} {params : List Tree} (hf : f.Sound)
    (hp : ∀ param ∈ params, param.Is isExpressionKind) :
    Yields (bindArrowParams isAsync f params) Formals.Sound := by
  induction params generalizing f with
  | nil => mvcgen [bindArrowParams]
  | cons param rest ih =>
    obtain ⟨hparam, hrest⟩ := List.forall_mem_cons.mp hp
    have hfirst : Yields (bindArrowParam isAsync f param) _ := bindArrowParam_spec hf hparam
    mvcgen [bindArrowParams, hfirst, ih]
    · exact fun _ _ hf => hf
    · exact fun _ _ _ => hrest

theorem arrowFormals_spec {params : List Tree} {isAsync : Bool}
    (hp : ∀ param ∈ params, param.Is isExpressionKind) :
    Yields (arrowFormals params isAsync) Formals.Sound := by
  have hbind : Yields (bindArrowParams isAsync {} params) _ :=
    bindArrowParams_spec (fun _ hm => nomatch hm) hp
  have hfail {culprit message} : Yields (failOn culprit message : Grammar Unit) fun _ => True :=
    yields_any _
  mvcgen [arrowFormals, hbind, hfail]

theorem arrowFunction_spec (h : go.Sound) {start : Nat} {params : List Tree} {isAsync : Bool}
    (hp : ∀ param ∈ params, param.Is isExpressionKind) :
    Yields (arrowFunction go start params isAsync) (Tree.Is isExpressionKind) := by
  have hformals : Yields (arrowFormals params isAsync) fun f => ∀ param ∈ f.params, _ :=
    arrowFormals_spec hp
  have hblock {allowed : Bool} : Yields (withIn allowed (functionBody go)) (Tree.Is isBodyKind) :=
    (functionBody_spec h).withIn.mono fun _ h => h.widen rfl
  have hvalue : Yields (isolate (go .assignment)) (Tree.Is isBodyKind) :=
    h.assignment.isolate.mono fun _ h => h.mono fun _ hk => Bool.or_eq_true_iff.mpr (.inr hk)
  mvcgen [arrowFunction, hformals, hblock, hvalue]
  all_goals simp_all [Suits, schema, schemaTable, Tree.isKnownField, isExpressionKind]

@[spec] theorem checkTarget_spec {e : Tree} {token : Token} :
    Yields (checkTarget e token) fun _ => True := yields_any _

theorem assignment_spec (h : go.Sound) : Yields (assignment go) (Tree.Is isExpressionKind) := by
  have hyield := yieldExpression_spec h
  have hvalue := conditional_spec h
  have hparam := primary_spec h
  have hright := h.assignment.isolate
  have harrow {start params isAsync} (hp : ∀ param ∈ params, Tree.Is isExpressionKind param) :
      Yields (arrowFunction go start params isAsync) _ := arrowFunction_spec h hp
  have htarget {e : Tree} (simple : Bool) (he : e.Is isExpressionKind) :
      (if simple then e.asPattern else e).Is isExpressionKind := by
    split
    · exact he.asPattern
    · exact he
  mvcgen [assignment, hyield, hvalue, hparam, hright, harrow]
  case vc1 =>
    refine fun _ _ => is_of_arrowParams (is_arrowMark fun t ht => ?_) ‹arrowParams _ = _›
    rw [List.mem_singleton.mp ht]
    exact Tree.Is.asPattern ‹_›
  case vc6 => exact fun _ _ => is_of_arrowParams ‹_› ‹_›
  all_goals
    simp_all +zetaDelta [Suits, schema, schemaTable, operationFields, Tree.isKnownField,
      isExpressionKind]

end Deminify.Grammar
