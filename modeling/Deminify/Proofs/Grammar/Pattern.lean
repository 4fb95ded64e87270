import Deminify.Grammar.Formals
import Deminify.Proofs.Grammar.Yield
import Deminify.Proofs.Tree.Shape

/-!
# What names, keys and patterns yield

What is read as an expression may turn out to be a pattern. Turning it into one keeps it well formed
(`Deminify.Tree.Is.asPattern`): only arrays, objects, assignments and spreads change their kinds, and
the patterns in their place have the same fields.

Rules are sound when they read well-formed nodes of the kinds of their nonterminals
(`Deminify.Rules.Sound`). Here and in the modules that follow, the rules one level up are shown to
be sound when those below are; what is said of a rule is always the kind of the node it reads.
-/

set_option mvcgen.warning false

open Std.Do

namespace Deminify

namespace Tree

/-! ### The fields of the pattern -/

@[simp] theorem asPattern_list (items : List Tree) :
    (list items).asPattern = list (items.map asPattern) := by
  have h : ∀ items : List Tree, itemsAsPatterns items = items.map asPattern := by
    intro items
    induction items with
    | nil => rfl
    | cons t rest ih => rw [itemsAsPatterns, ih, List.map_cons]
  rw [asPattern, h]

@[simp] theorem asPattern_null : null.asPattern = null := rfl

@[simp] theorem keys_fieldAsPattern (key : String) (fields : List (String × Tree)) :
    (fieldAsPattern key fields).map (·.1) = fields.map (·.1) := by
  induction fields with
  | nil => rfl
  | cons f rest ih => rw [fieldAsPattern, List.map_cons, List.map_cons, ih]

@[simp] theorem lookup_fieldAsPattern (key k : String) (fields : List (String × Tree)) :
    (fieldAsPattern key fields).lookup k =
      if k = key then (fields.lookup k).map asPattern else fields.lookup k := by
  induction fields with
  | nil => simp [fieldAsPattern]
  | cons f rest ih =>
    obtain ⟨k', v⟩ := f
    rw [fieldAsPattern, lookup_cons_ite, lookup_cons_ite, ih]
    by_cases hk : k = k'
    · subst hk
      by_cases hkey : k = key <;> simp [hkey]
    · simp [hk]

/-! ### Well-formed patterns -/

/-- The kind of the pattern that an expression of the kind turns into. -/
def patternKind : String → String
  | "SpreadElement" => "RestElement"
  | "ArrayExpression" => "ArrayPattern"
  | "ObjectExpression" => "ObjectPattern"
  | "AssignmentExpression" => "AssignmentPattern"
  | kind => kind

theorem isExpressionKind_patternKind {kind : String} (h : isExpressionKind kind = true) :
    isExpressionKind (patternKind kind) = true := by
  unfold patternKind
  split
  all_goals first | rfl | exact h

theorem isPropertyPatternKind_patternKind {kind : String} (h : isPropertyKind kind = true) :
    isPropertyPatternKind (patternKind kind) = true := by
  rcases Bool.or_eq_true_iff.mp h with h | h <;> rw [beq_iff_eq.mp h] <;> rfl

/-- A node turns into one of another kind when one field turns, another one may be left out, and the
fields that the new kind has are those of the old. -/
theorem WellFormed.turned {t : Tree} (h : t.WellFormed) {spec spec' : List (String × FieldSort)}
    (hs : schema t.kind = some spec) {kind : String} (hs' : schema kind = some spec')
    (key : String) (gone : Option String) {fields : List (String × Tree)}
    (hn : DistinctKeys fields)
    (hl : ∀ k, fields.lookup k = if k = "type" then some (.str kind) else if gone = some k then none
      else if k = key then (t.get? k).map asPattern else t.get? k)
    (hkey : (spec'.lookup key).isSome = true)
    (hspec : ∀ entry ∈ spec', entry.1 ≠ "type" ∧ gone ≠ some entry.1 ∧ ∃ sort, (entry.1, sort) ∈ spec ∧
      if entry.1 = key then
        ∀ value, t.get? key = some value → sort.Holds value → entry.2.Holds value.asPattern
      else sort = entry.2)
    (hkeys : ∀ k, gone ≠ some k → (spec.lookup k).isSome = true → (spec'.lookup k).isSome = true)
    (hp : kind = "Property" → keepsKey fields = true)
    (hi : kind ≠ "ImportDeclaration" := by decide) :
    (obj t.label fields).Is (· == kind) := by
  refine h.recast hs ?_ hs' hn (by simp [hl]) (fills_iff.mpr fun entry he => ?_) (fun k value hv => ?_) hp
    (absurd · hi)
  · exact beq_self_eq_true kind
  · obtain ⟨htype, hgone, sort, hm, hsort⟩ := hspec entry he
    obtain ⟨value, hv, hh⟩ := h.field hs hm
    rw [hl, if_neg htype, if_neg hgone]
    split at hsort
    · rename_i hk
      rw [if_pos hk, hv]
      exact ⟨_, rfl, hsort value (hk ▸ hv) hh⟩
    · rename_i hk
      rw [if_neg hk]
      exact ⟨value, hv, hsort ▸ hh⟩
  · rw [hl] at hv
    split at hv
    · exact .inl ‹_›
    · split at hv
      · simp at hv
      · rename_i hgone
        split at hv
        · rename_i hk
          exact .inr (.inl (hk ▸ hkey))
        · exact .inr (.inr ⟨hv, hkeys k hgone⟩)

section Turned

variable {label : Nat} {fields : List (String × Tree)} (h : (obj label fields).WellFormed)
  (lower : ∀ c : Tree, c.height < (obj label fields).height → c.WellFormed → c.asPattern.Is (· == patternKind c.kind))

include lower

/-- What a field holds turns as a whole, since the nodes in it are lower than the node. -/
theorem turns_node {key : String} {value c : Tree} (hv : (obj label fields).get? key = some value)
    (hc : c = value ∨ c ∈ value.items) {kinds kinds' : String → Bool}
    (hkinds : ∀ kind, kinds kind = true → kinds' (patternKind kind) = true) (hi : c.Is kinds) :
    c.asPattern.Is kinds' := by
  have hlt : c.height < (obj label fields).height := by
    have hvt := height_lt_of_mem_fields (mem_of_lookup hv)
    rcases hc with rfl | hc
    · exact hvt
    · exact Nat.lt_trans (height_lt_of_mem_items hc) hvt
  exact (lower c hlt hi.2).mono fun kind hk => beq_iff_eq.mp hk ▸ hkinds _ hi.kinds

theorem turns_expression {key : String} {value : Tree} (hv : (obj label fields).get? key = some value)
    (hh : FieldSort.expression.Holds value) : FieldSort.expression.Holds value.asPattern :=
  turns_node lower hv (.inl rfl) (fun _ => isExpressionKind_patternKind) hh

include h

omit lower in
theorem distinctKeys_fieldAsPattern (key : String) : DistinctKeys (fieldAsPattern key fields) := by
  rw [DistinctKeys, keys_fieldAsPattern]
  exact h.distinct

theorem is_restElement (hk : (obj label fields).kind = "SpreadElement") :
    ((obj label (fieldAsPattern "argument" fields)).set "type" (.str "RestElement")).Is (· == "RestElement") := by
  have hs : schema "SpreadElement" = some [("argument", .expression)] := by simp [schema, schemaTable]
  have hs' : schema "RestElement" = some [("argument", .expression)] := by simp [schema, schemaTable]
  refine h.turned (hk ▸ hs) hs' "argument" none (distinctKeys_fieldAsPattern h _).putKey (by simp) (by simp) ?_
    (by simp) (by simp)
  simpa using fun value hv => turns_expression lower hv

theorem is_arrayPattern (hk : (obj label fields).kind = "ArrayExpression") :
    ((obj label (fieldAsPattern "elements" fields)).set "type" (.str "ArrayPattern")).Is (· == "ArrayPattern") := by
  have hs : schema "ArrayExpression" = some [("elements", .holes isExpressionKind)] := by simp [schema, schemaTable]
  have hs' : schema "ArrayPattern" = some [("elements", .holes isExpressionKind)] := by simp [schema, schemaTable]
  refine h.turned (hk ▸ hs) hs' "elements" none (distinctKeys_fieldAsPattern h _).putKey (by simp) (by simp) ?_
    (by simp) (by simp)
  simp only [List.mem_singleton, forall_eq]
  refine ⟨by decide, by decide, _, rfl, fun value hv => ?_⟩
  rintro ⟨items, rfl, hi⟩
  rw [asPattern_list, FieldSort.holds_holes]
  intro item hm
  obtain ⟨e, he, rfl⟩ := List.mem_map.mp hm
  rcases hi e he with rfl | hi
  · exact .inl rfl
  · exact .inr (turns_node lower hv (.inr he) (fun _ => isExpressionKind_patternKind) hi)

theorem is_objectPattern (hk : (obj label fields).kind = "ObjectExpression") :
    ((obj label (fieldAsPattern "properties" fields)).set "type" (.str "ObjectPattern")).Is (· == "ObjectPattern") := by
  have hs : schema "ObjectExpression" = some [("properties", .nodes isPropertyKind)] := by simp [schema, schemaTable]
  have hs' : schema "ObjectPattern" = some [("properties", .nodes isPropertyPatternKind)] := by
    simp [schema, schemaTable]
  refine h.turned (hk ▸ hs) hs' "properties" none (distinctKeys_fieldAsPattern h _).putKey (by simp) (by simp) ?_
    (by simp) (by simp)
  simp only [List.mem_singleton, forall_eq]
  refine ⟨by decide, by decide, _, rfl, fun value hv => ?_⟩
  rintro ⟨items, rfl, hi⟩
  rw [asPattern_list, FieldSort.holds_nodes]
  intro item hm
  obtain ⟨e, he, rfl⟩ := List.mem_map.mp hm
  exact turns_node lower hv (.inr he) (fun _ => isPropertyPatternKind_patternKind) (hi e he)

/-- The default of a pattern has lost its operator. -/
theorem is_assignmentPattern (hk : (obj label fields).kind = "AssignmentExpression") :
    (((obj label (fieldAsPattern "left" fields)).set "type" (.str "AssignmentPattern")).drop "operator").Is
      (· == "AssignmentPattern") := by
  have hs : schema "AssignmentExpression" = some operationFields := by simp [schema, schemaTable]
  have hs' : schema "AssignmentPattern" = some [("left", .expression), ("right", .expression)] := by
    simp [schema, schemaTable]
  refine h.turned (hk ▸ hs) hs' "left" (some "operator") ?_ ?_ (by simp) ?_ ?_ (by simp)
  · exact (distinctKeys_fieldAsPattern h _).putKey.filter _
  · intro k
    rw [lookup_filter_ne, lookup_putKey, lookup_fieldAsPattern]
    by_cases hk : k = "type" <;> simp [hk]
  · simpa [operationFields] using fun value hv => turns_expression lower hv
  · intro k hne
    have hk : k ≠ "operator" := fun hk => hne (by rw [hk])
    simp [operationFields, hk]

theorem is_propertyPattern (hk : (obj label fields).kind = "Property") :
    (obj label (fieldAsPattern "value" fields)).Is (· == "Property") := by
  have hs : schema "Property" = some [("key", .expression), ("computed", .flag), ("value", .expression),
      ("kind", .text), ("method", .flag), ("shorthand", .flag)] := by simp [schema, schemaTable]
  refine h.turned (hk ▸ hs) hs "value" none (distinctKeys_fieldAsPattern h _) ?_ (by simp) ?_ (by simp) fun _ => ?_
  · intro k
    rw [lookup_fieldAsPattern]
    by_cases hkt : k = "type"
    · simpa [hkt, hk] using h.get?_type
    · simp [hkt]
  · simpa using fun value hv => turns_expression lower hv
  · simpa [keepsKey] using h.plain hk

end Turned

/-- **A pattern is well formed** if the expression that it was made from is. -/
theorem WellFormed.asPattern {t : Tree} (h : t.WellFormed) :
    t.asPattern.Is (· == patternKind t.kind) := by
  induction hn : t.height using Nat.strongRecOn generalizing t with
  | ind n ih =>
    subst hn
    have lower (c : Tree) (hlt : c.height < t.height) (hc : c.WellFormed) : c.asPattern.Is (· == patternKind c.kind) :=
      ih c.height hlt hc rfl
    cases t with
    | obj label fields =>
      rw [Tree.asPattern]
      split
      case _ hk =>
        rw [hk]
        exact is_restElement h lower hk
      case _ hk =>
        rw [hk]
        exact is_arrayPattern h lower hk
      case _ hk =>
        rw [hk]
        exact is_objectPattern h lower hk
      case _ hk =>
        rw [hk]
        exact is_assignmentPattern h lower hk
      case _ hk =>
        rw [hk]
        exact is_propertyPattern h lower hk
      · refine is_iff.mpr ⟨h, ?_⟩
        unfold patternKind
        split <;> simp_all
    | _ => simpa [Tree.isObj] using h.isObj

theorem Is.asPattern {t : Tree} (h : t.Is isExpressionKind) : t.asPattern.Is isExpressionKind :=
  h.2.asPattern.mono fun _ hk => beq_iff_eq.mp hk ▸ isExpressionKind_patternKind h.kinds

end Tree

/-! ### Parameters of arrow functions -/

namespace Grammar

open Deminify.Tree

/-- The parameters that a group marks are well formed if the group is. -/
theorem is_arrowMark {params : List Tree} {isAsync : Bool}
    (h : ∀ param ∈ params, param.Is isExpressionKind) :
    (arrowMark params isAsync).Is isExpressionKind := by
  refine is_of_fits (by rfl) (by rfl) ⟨.of_nodup ?_, ?_, by simp, by simp⟩
  · simp
  · simpa [schema, schemaTable, isKnownField, holdsChildren, childlessFields] using h

theorem is_of_arrowParams {t : Tree} (h : t.Is isExpressionKind) {params : List Tree}
    (hp : arrowParams t = some params) : ∀ param ∈ params, param.Is isExpressionKind := by
  rw [arrowParams] at hp
  split at hp
  · cases hp
    simpa using h
  · split at hp
    · rename_i hk
      have hs : schema "ArrowParameterPlaceHolder" =
          some [("params", .nodes isExpressionKind), ("async", .flag)] := by
        simp [schema, schemaTable]
      rw [← h.2.isKind_iff.mp hk] at hs
      cases hp
      exact h.2.items hs List.mem_cons_self
    · simp at hp

/-- The expressions of a sequence are well formed if the sequence is. -/
theorem is_of_sequence {t : Tree} (h : t.Is isExpressionKind) (hk : t.isKind "SequenceExpression") :
    ∀ e ∈ (t.get "expressions").items, e.Is isExpressionKind := by
  have hs : schema "SequenceExpression" = some [("expressions", .nodes isExpressionKind)] := by
    simp [schema, schemaTable]
  rw [← h.2.isKind_iff.mp hk] at hs
  exact h.2.items hs List.mem_cons_self

/-- A default value `yield` turns into a name. -/
theorem is_yieldName {t : Tree} (h : t.Is (· == "YieldExpression")) :
    ((((t.set "type" (.str "Identifier")).drop "argument").drop "delegate").set "name"
      (.str "yield")).Is (· == "Identifier") := by
  have hs : schema t.kind = some [("argument", .optional isExpressionKind), ("delegate", .flag)] := by
    rw [beq_iff_eq.mp h.kinds]
    simp [schema, schemaTable]
  have hs' : schema "Identifier" = some [("name", .text)] := by
    simp [schema, schemaTable]
  have hobj := h.2.isObj
  cases t with
  | obj label fields =>
    have hl : ∀ k, (putKey (((putKey fields "type" (.str "Identifier")).filter
        (·.1 != "argument")).filter (·.1 != "delegate")) "name" (.str "yield")).lookup k =
        if k = "name" then some (.str "yield") else if "delegate" = k then none
        else if "argument" = k then none else if k = "type" then some (.str "Identifier")
        else fields.lookup k := by
      intro k
      rw [lookup_putKey, lookup_filter_ne, lookup_filter_ne, lookup_putKey]
    refine h.2.recast hs rfl hs' ?_ ((hl "type").trans (by simp)) ?_ (fun k value hv => ?_)
      (absurd · (by decide)) (absurd · (by decide))
    · exact ((h.2.distinct.putKey.filter _).filter _).putKey
    · exact ⟨⟨_, (hl "name").trans (if_pos rfl), FieldSort.holds_text⟩, trivial⟩
    · rw [hl] at hv
      by_cases h1 : k = "name"
      · exact .inr (.inl (by simp [h1]))
      by_cases h2 : "delegate" = k
      · simp [h1, h2] at hv
      by_cases h3 : "argument" = k
      · simp [h1, h2, h3] at hv
      by_cases h4 : k = "type"
      · exact .inl h4
      · rw [if_neg h1, if_neg h2, if_neg h3, if_neg h4] at hv
        exact .inr (.inr ⟨hv, by simp [Ne.symm h2, Ne.symm h3]⟩)
  | _ => simp [isObj] at hobj

theorem is_set_yieldName {param : Tree} (h : param.Is isExpressionKind)
    (hk : param.isKind "AssignmentPattern" = true)
    (hr : (param.get "right").isKind "YieldExpression" = true) :
    (param.set "right" (((((param.get "right").set "type" (.str "Identifier")).drop "argument").drop
      "delegate").set "name" (.str "yield"))).Is isExpressionKind := by
  have hkind := h.2.isKind_iff.mp hk
  have hs : schema param.kind = some [("left", .expression), ("right", .expression)] := by
    rw [hkind]
    simp [schema, schemaTable]
  obtain ⟨right, hget, hright⟩ := h.2.field hs (List.mem_cons_of_mem _ List.mem_cons_self)
  rw [get_of_get? hget] at hr ⊢
  refine (h.2.setField hs ⟨.expression, List.mem_cons_of_mem _ List.mem_cons_self⟩
    (fun sort hm => ?_) (by simp [hkind]) (by simp [hkind])).widen (hkind ▸ rfl)
  have hsort : sort = .expression := by simpa using hm
  rw [hsort]
  exact (is_yieldName (Is.of_isKind hright hr)).widen rfl

end Grammar

/-! ### Sound rules -/

/-- Rules that read well-formed nodes of the kinds of their nonterminals. -/
structure Rules.Sound (go : Rules) : Prop where
  assignment : Grammar.Yields (go .assignment) (Tree.Is isExpressionKind)
  exponent : Grammar.Yields (go .exponent) (Tree.Is isExpressionKind)
  unary : Grammar.Yields (go .unary) (Tree.Is isExpressionKind)
  call : Grammar.Yields (go .call) (Tree.Is isExpressionKind)
  callee : Grammar.Yields (go .callee) (Tree.Is isExpressionKind)
  pattern (kind : String) : Grammar.Yields (go (.pattern kind)) (Tree.Is isExpressionKind)
  statement : Grammar.Yields (go .statement) (Tree.Is isStatementKind)
  item : Grammar.Yields (go .item) (Tree.Is isStatementKind)
  element : Grammar.Yields (go .element) (Tree.Is (· == "JSXElement"))

namespace Tree

@[simp] theorem Is.expression_of_name {t : Tree} (h : t.Is (· == "Identifier")) : t.Is isExpressionKind :=
  h.widen rfl

@[simp] theorem Is.expression_of_literal {t : Tree} (h : t.Is (· == "Literal")) : t.Is isExpressionKind :=
  h.widen rfl

end Tree

namespace Grammar

variable {go : Rules}

/-! ### Names and keys -/

@[spec] theorem wordName_spec : Yields wordName (Tree.Is (· == "Identifier")) := by
  mvcgen [wordName]

@[spec] theorem variableName_spec {kind : String} :
    Yields (variableName kind) (Tree.Is (· == "Identifier")) := by
  mvcgen [variableName]

/-- Whether a key can stand in a property: it is an expression, and stands for itself unless it is
computed. -/
structure IsKey (computed : Bool) (key : Tree) : Prop where
  expression : key.Is isExpressionKind
  plain : computed = false → key.isPlainKey = true

theorem IsKey.of_name {key : Tree} (h : key.Is (· == "Identifier")) (computed : Bool) :
    IsKey computed key := by
  refine ⟨h.widen rfl, fun _ => ?_⟩
  rw [Tree.isPlainKey, h.2.isKind_iff.mpr (beq_iff_eq.mp h.kinds), Bool.true_or]

/-- **A key is computed only if a bracket is ahead.** -/
theorem propertyKey_ahead (h : go.Sound) {token : Token} : ⦃fun _ s => ⌜s.ahead = token⌝⦄
    propertyKey go ⦃⇓? key => ⌜IsKey (token.isPunctuator "[") key⌝⦄ := by
  have hcomputed := h.assignment.isolate
  have hliteral {start : Nat} {token : Token} (ht : token.type = .string ∨ token.type = .number) :
      Yields (literalNode start token) fun t => t.Is (· == "Literal") ∧ t.isPlainKey = true :=
    literalNode_spec.and (literalNode_plain ht)
  have hbad {token : Token} : Yields (unexpected token : Grammar Tree) fun _ => False :=
    yields_iff.mpr fun _ _ _ _ h => nomatch h
  mvcgen [propertyKey, hcomputed, hliteral, -literalNode_spec, here, -here_spec, next_ahead, -next_spec,
    hbad]
  case vc2 =>
    intro _ _ hkey hplain
    exact ⟨hkey.widen rfl, fun _ => hplain⟩
  case vc3 => simp_all
  case vc4 =>
    intro _ _ hkey
    exact .of_name hkey _
  case vc5 =>
    -- the token that was taken is the one that was ahead
    have hopens : token.isPunctuator "[" = true := by simp_all [Token.isPunctuator]
    exact ⟨by assumption, fun hother => absurd hopens (by rw [hother]; decide)⟩
  case vc6 => exact fun _ _ => False.elim

theorem propertyKey_spec (h : go.Sound) : Yields (propertyKey go) (Tree.Is isExpressionKind) :=
  yields_iff.mpr fun source s a s' hrun =>
    (triple_iff.mp (propertyKey_ahead h) source s a s' rfl hrun).expression

@[spec] theorem propertyNode_spec {start : Nat} {kind : String} {key value : Tree}
    {computed method shorthand : Bool} :
    Yields (propertyNode start kind key computed value method shorthand) fun t =>
      IsKey computed key → value.Is isExpressionKind →
        t.Is isPropertyKind ∧ t.Is isPropertyPatternKind := by
  refine finish_spec.mono fun t h hk hv => ?_
  have hsuits : Suits "Property" [("key", key), ("computed", .bool computed), ("value", value),
      ("kind", .str kind), ("method", .bool method), ("shorthand", .bool shorthand)] := by
    have hplain : Tree.isTrue (.bool computed) = true ∨ key.isPlainKey = true := by
      cases computed
      · exact .inr (hk.plain rfl)
      · exact .inl rfl
    simp [Suits, schema, schemaTable, Tree.isKnownField, Tree.keepsKey, hk.expression, hv, hplain]
  exact ⟨h _ rfl hsuits, h _ rfl hsuits⟩

/-! ### Patterns -/

@[spec] theorem defaultNode_spec {start : Nat} {left right : Tree} :
    Yields (defaultNode start left right) fun t =>
      left.Is isExpressionKind → right.Is isExpressionKind → t.Is isExpressionKind := by
  refine finish_spec.mono fun t h hl hr => h _ rfl ?_
  simp [Suits, schema, schemaTable, Tree.isKnownField, hl, hr]

theorem patternWithDefault_spec (h : go.Sound) (kind : String) :
    Yields (patternWithDefault go kind) (Tree.Is isExpressionKind) := by
  have htarget := h.pattern kind
  have hright := h.assignment.isolate
  mvcgen [patternWithDefault, htarget, hright]
  simp +contextual [*]

theorem arrayRest_spec (h : go.Sound) (kind : String) :
    Yields (arrayRest go kind) (Tree.Is isExpressionKind) := by
  have hargument := h.pattern kind
  mvcgen [arrayRest, hargument]
  simp +contextual [Suits, schema, schemaTable, Tree.isKnownField, isExpressionKind, *]

theorem arrayPattern_spec (h : go.Sound) (kind : String) :
    Yields (arrayPattern go kind) (Tree.Is isExpressionKind) := by
  have hrest := arrayRest_spec h kind
  have helement := patternWithDefault_spec h kind
  have helements {p : Grammar Tree} (hp : Yields p fun t => t = .null ∨ t.Is isExpressionKind) :
      Yields (manyUntil "]" p) _ := hp.manyUntil
  mvcgen [arrayPattern, hrest, helement, helements]
  on_goal -1 => simp +contextual [Suits, schema, schemaTable, Tree.isKnownField, isExpressionKind, *]
  all_goals simp [*]

theorem propertyPattern_spec (h : go.Sound) (kind : String) :
    Yields (propertyPattern go kind) (Tree.Is isPropertyPatternKind) := by
  have hright := h.assignment
  have hvalue := patternWithDefault_spec h kind
  have hkey {token : Token} := @propertyKey_ahead go h token
  mvcgen [propertyPattern, hright, hvalue, hkey, sees_ahead, -sees_spec]
  all_goals grind [IsKey.of_name, Tree.Is.expression_of_name]

theorem objectRest_spec (h : go.Sound) : Yields (objectRest go) (Tree.Is isPropertyPatternKind) := by
  have hargument := h.pattern ""
  mvcgen [objectRest, hargument]
  simp +contextual [Suits, schema, schemaTable, Tree.isKnownField, isPropertyPatternKind, *]

theorem objectPattern_spec (h : go.Sound) (kind : String) :
    Yields (objectPattern go kind) (Tree.Is isExpressionKind) := by
  have hrest := objectRest_spec h
  have hproperty := propertyPattern_spec h kind
  have hproperties {p : Grammar Tree} (hp : Yields p (Tree.Is isPropertyPatternKind)) :
      Yields (separatedUntil "\x7d" p) _ := hp.separatedUntil
  mvcgen [objectPattern, hrest, hproperty, hproperties]
  simp +contextual [Suits, schema, schemaTable, Tree.isKnownField, isExpressionKind, *]

theorem pattern_spec (h : go.Sound) (kind : String) :
    Yields (pattern go kind) (Tree.Is isExpressionKind) := by
  have harray := arrayPattern_spec h kind
  have hobject := objectPattern_spec h kind
  mvcgen [pattern, harray, hobject]
  simp +contextual

end Grammar

end Deminify
