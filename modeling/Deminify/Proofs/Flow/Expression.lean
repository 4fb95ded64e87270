import Deminify.Proofs.Flow.Syntax
import Deminify.Proofs.Grammar.Reads

/-!
# How names and calls are read

An expression is read by one rule after the other, from assignments down to atoms; each passes on what the
next one reads, since nothing that it looks for is ahead. **So the words of an expression are read as that
expression** (`Deminify.Flow.Expr.isReadBy`), if what follows closes it (`Deminify.Flow.closes`).
-/

namespace Deminify.Flow

open Token Grammar

/-- Reading goes on where the same statements may stand. -/
theorem Ground.of_past {src : Source} {s s' : Reading} {ws : List Word} {b : Bool} (h : Past src s s' ws b) :
    Ground.of s'.setting = Ground.of s.setting := by
  obtain ⟨x, hx⟩ := h.setting
  rw [hx]
  rfl

/-! ### Where an expression ends -/

/-- Whether an expression that starts with a name ends in front of words. -/
def closes (allowIn : Bool) (head : String) : List Word → Bool
  | ⟨.punctuator, value, _⟩ :: _ => [")", ",", ";", ":"].contains value
  | ⟨.keyword, value, _⟩ :: _ => value == "in" && !allowIn
  | ⟨.name, _, _⟩ :: _ => head != "async"
  | _ => false

section Closes

variable {allowIn : Bool} {head : String} {ws : List Word}

/-- Where an expression ends there is a mark, the keyword of a loop, or a name. -/
theorem exists_of_closes (h : closes allowIn head ws = true) : ∃ w more, ws = w :: more ∧
    ((w.type = .punctuator ∧ w.value ∈ [")", ",", ";", ":"]) ∨ (w.type = .keyword ∧ w.value = "in" ∧ allowIn = false) ∨
      (w.type = .name ∧ head ≠ "async")) := by
  unfold closes at h
  split at h
  · exact ⟨_, _, rfl, .inl ⟨rfl, List.contains_iff_mem.mp h⟩⟩
  · rw [Bool.and_eq_true, beq_iff_eq, Bool.not_eq_true'] at h
    exact ⟨_, _, rfl, .inr (.inl ⟨rfl, h⟩)⟩
  · exact ⟨_, _, rfl, .inr (.inr ⟨rfl, bne_iff_ne.mp h⟩)⟩
  · cases h

theorem beginsOneOf_of_closes (h : closes allowIn head ws = true) {values : List String}
    (hv : ∀ v ∈ [")", ",", ";", ":"], values.contains v = false) : beginsOneOf ws values = false := by
  obtain ⟨w, more, rfl, ⟨ht, hm⟩ | ⟨ht, -⟩ | ⟨ht, -⟩⟩ := exists_of_closes h
  · show (w.type == .punctuator && values.contains w.value) = false
    rw [hv _ hm, Bool.and_false]
  all_goals
    show (w.type == .punctuator && _) = false
    rw [ht]
    rfl

theorem begins_of_closes (h : closes allowIn head ws = true) {value : String}
    (hv : ∀ v ∈ [")", ",", ";", ":"], (v == value) = false) : begins ws .punctuator value = false := by
  obtain ⟨w, more, rfl, ⟨ht, hm⟩ | ⟨ht, -⟩ | ⟨ht, -⟩⟩ := exists_of_closes h
  · show (w.type == .punctuator && w.value == value) = false
    rw [hv _ hm, Bool.and_false]
  all_goals
    show (w.type == .punctuator && _) = false
    rw [ht]
    rfl

theorem not_keyword_of_closes (h : closes allowIn head ws = true) {value : String} (hv : ("in" == value) = false) :
    begins ws .keyword value = false := by
  obtain ⟨w, more, rfl, ⟨ht, -⟩ | ⟨-, hin, -⟩ | ⟨ht, -⟩⟩ := exists_of_closes h
  · show (w.type == .keyword && _) = false
    rw [ht]
    rfl
  · show (w.type == .keyword && w.value == value) = false
    rw [hin, hv, Bool.and_false]
  · show (w.type == .keyword && _) = false
    rw [ht]
    rfl

/-- No operator goes on where an expression ends. -/
theorem precedence_of_closes (h : closes allowIn head ws = true) {token : Token} (ht : token.type = typeOf ws)
    (hv : token.value = (ws.head?.map (·.value)).getD "") : precedence allowIn token = 0 := by
  obtain ⟨w, more, rfl, ⟨htype, hm⟩ | ⟨htype, hin, rfl⟩ | ⟨htype, -⟩⟩ := exists_of_closes h
  all_goals
    have htoken : token.type = w.type := ht
    have hvalue : token.value = w.value := hv
    rw [precedence, htoken, htype, hvalue]
  · have hnone : ∀ v ∈ [")", ",", ";", ":"], (precedences.lookup v).getD 0 = 0 := by decide
    exact hnone _ hm
  · rw [hin]
    rfl
  · rfl

end Closes

/-! ### Expressions -/

namespace Expr

variable {src : Source} {g : Ground} {e : Expr} {s : Reading} {joined : Bool} {ws : List Word} {go : Rules}
  {p : Grammar Tree}

/-- An expression begins with its head. -/
theorem words_eq (e : Expr) (joined : Bool) (ws : List Word) :
    ∃ more, e.words joined ws = nameWord joined e.head :: more := by
  cases e <;> exact ⟨_, rfl⟩

theorem allows_head (he : e.isLegal g = true) : g.allows e.head = true := by
  cases e with
  | name x => exact he
  | call f args => exact (Bool.and_eq_true_iff.mp he).1

theorem type_head (he : e.isLegal g = true) : wordType e.head = .name := by
  have h := allows_head he
  simp only [Ground.allows, Bool.and_eq_true, beq_iff_eq] at h
  exact h.1.1.2

/-- An expression begins with a name, so with no other word. -/
theorem begins_words (he : e.isLegal g = true) {type : TokenType} (ht : (TokenType.name == type) = false)
    (value : String) : begins (e.words joined ws) type value = false := by
  obtain ⟨more, hmore⟩ := e.words_eq joined ws
  rw [hmore]
  show (wordType e.head == type && _) = false
  rw [type_head he, ht, Bool.false_and]

theorem beginsOneOf_words (he : e.isLegal g = true) (values : List String) :
    beginsOneOf (e.words joined ws) values = false := by
  obtain ⟨more, hmore⟩ := e.words_eq joined ws
  rw [hmore]
  show (wordType e.head == .punctuator && _) = false
  rw [type_head he]
  rfl

/-- The token ahead of an expression is a name. -/
theorem type_of_faces (he : e.isLegal g = true) (h : Faces src s (e.words joined ws)) : s.ahead.type = .name := by
  obtain ⟨more, hmore⟩ := e.words_eq joined ws
  rw [h.type, hmore]
  exact type_head he

/-- The token ahead of an expression is its head. -/
theorem value_of_faces (h : Faces src s (e.words joined ws)) : s.ahead.value = e.head := by
  obtain ⟨more, hmore⟩ := e.words_eq joined ws
  rw [h.value, hmore]
  rfl

/-- Whether a rule reads an expression up to what closes it. What is read may be assigned to if it is a name. -/
def IsReadBy (src : Source) (g : Ground) (e : Expr) (p : Grammar Tree) : Prop :=
  ∀ ⦃s joined ws⦄, Ground.of s.setting = g → Faces src s (e.words joined ws) →
    closes s.setting.allowIn e.head ws = true →
      Reads src p s fun t s' => t.core = e.tree ∧ Past src s s' ws (e.isName && s.setting.isTarget)

theorem IsReadBy.inherit (h : e.IsReadBy src g p) : e.IsReadBy src g (inherit p) := by
  intro s joined ws hg hf hc
  have hread := Reads.inherit (h (s := s.put open_) hg hf.open_ hc)
  rwa [show (s.put open_).setting.isTarget = true from rfl, Bool.and_true] at hread

/-- On its own, an expression has no effect on what may be assigned to. -/
theorem IsReadBy.isolate (h : e.IsReadBy src g p) (hg : Ground.of s.setting = g) (hf : Faces src s (e.words joined ws))
    (hc : closes s.setting.allowIn e.head ws = true) :
    Reads src (isolate p) s fun t s' => t.core = e.tree ∧ Past src s s' ws s.setting.isTarget :=
  Reads.isolate (h (s := s.put open_) hg hf.open_ hc)

/-- Behind a call or a name there is no increment. -/
theorem IsReadBy.update (he : e.isLegal g = true) (h : e.IsReadBy src g (callExpression go)) :
    e.IsReadBy src g (update go) := by
  intro s joined ws hg hf hc
  rw [Grammar.update, reads_get, hf.seesOneOf, beginsOneOf_words he, if_neg Bool.false_ne_true]
  refine (h.inherit hg hf hc).bind fun t s' hread => ?_
  obtain ⟨ht, hp⟩ := hread
  rw [reads_get, hp.faces.seesOneOf, beginsOneOf_of_closes hc (by decide), Bool.and_false, if_neg Bool.false_ne_true]
  exact reads_pure ⟨ht, hp⟩

/-- The head of an expression is no operator. -/
theorem not_await (he : e.isLegal g = true) (hg : Ground.of s.setting = g) {b : Bool}
    (hb : b = true → (s.setting.isModule || s.setting.allowAwait) = true) : (b && e.head == "await") = false := by
  have h := allows_head he
  simp only [Ground.allows, Bool.and_eq_true, Bool.not_eq_true'] at h
  have hground : (g.await && e.head == "await") = false := h.2
  cases b with
  | false => rfl
  | true =>
    rw [← hg, show (Ground.of s.setting).await = true from hb rfl] at hground
    exact hground

theorem begins_name (e : Expr) (value : String) (he : e.isLegal g = true) :
    begins (e.words joined ws) .name value = (e.head == value) := by
  obtain ⟨more, hmore⟩ := e.words_eq joined ws
  rw [hmore]
  show (wordType e.head == .name && e.head == value) = _
  rw [type_head he]
  rfl

/-- In front of a call or a name there is no operator. -/
theorem IsReadBy.unary (he : e.isLegal g = true) (h : e.IsReadBy src g (callExpression go)) :
    e.IsReadBy src g (unary go) := by
  intro s joined ws hg hf hc
  rw [Grammar.unary, reads_get, if_neg, reads_setting, hf.seesName, begins_name e _ he,
    not_await he hg fun h => by rw [h, Bool.or_true]]
  · exact h.update he hg hf hc
  · rw [isUnaryOperator, type_of_faces he hf]
    exact Bool.false_ne_true

/-- The kind of what is read is that of the expression. -/
theorem isKind_of_core {t : Tree} (h : t.core = e.tree) (kind : String) : t.isKind kind = e.tree.isKind kind := by
  rw [← h, Tree.isKind_core]

theorem not_isKind (e : Expr) {kind : String} (hk : (["Identifier", "CallExpression"].contains kind) = false) :
    e.tree.isKind kind = false := by
  simp only [List.contains_cons, List.contains_nil, Bool.or_false, Bool.or_eq_false_iff] at hk
  cases e with
  | name x =>
    rw [Tree.isKind_eq (show (Expr.name x).tree.get? "type" = some (.str "Identifier") from rfl), Bool.beq_comm]
    exact hk.1
  | call f args =>
    rw [Tree.isKind_eq (show (Expr.call f args).tree.get? "type" = some (.str "CallExpression") from rfl),
      Bool.beq_comm]
    exact hk.2

theorem IsReadBy.exponent (he : e.isLegal g = true) (h : e.IsReadBy src g (callExpression go)) :
    e.IsReadBy src g (exponent go) := by
  intro s joined ws hg hf hc
  rw [Grammar.exponent, reads_get]
  refine ((h.unary he).inherit hg hf hc).bind fun t s' hread => ?_
  obtain ⟨ht, hp⟩ := hread
  rw [hp.faces.sees, begins_of_closes hc (by decide), Bool.and_false, if_neg Bool.false_ne_true]
  exact reads_pure ⟨ht, hp⟩

/-- Where an expression ends there is no operator between two of them. -/
theorem IsReadBy.binary (he : e.isLegal g = true) (h : e.IsReadBy src g (callExpression go)) :
    e.IsReadBy src g (binary go) := by
  intro s joined ws hg hf hc
  rw [Grammar.binary, reads_get]
  refine ((h.exponent he).inherit hg hf hc).bind fun t s' hread => ?_
  obtain ⟨ht, hp⟩ := hread
  have hallow : s'.setting.allowIn = s.setting.allowIn := by
    obtain ⟨x, hx⟩ := hp.setting
    rw [hx]
  rw [reads_source, binaryRest, reads_get, reads_setting, hallow,
    precedence_of_closes hc hp.faces.type hp.faces.value]
  exact reads_pure ⟨ht, hp⟩

/-- Where an expression ends there is no condition. -/
theorem IsReadBy.conditional (he : e.isLegal g = true) (h : e.IsReadBy src g (callExpression go)) :
    e.IsReadBy src g (conditional go) := by
  intro s joined ws hg hf hc
  rw [Grammar.conditional, reads_get]
  refine ((h.binary he).inherit hg hf hc).bind fun t s' hread => ?_
  obtain ⟨ht, hp⟩ := hread
  refine (reads_accept_none hp.faces (begins_of_closes hc (by decide))).bind fun taken s'' hread => ?_
  obtain ⟨htaken, hs⟩ := hread
  subst htaken hs
  exact reads_pure ⟨ht, hp⟩

/-- Where an expression ends there is neither an assignment nor an arrow. -/
theorem IsReadBy.assignment (he : e.isLegal g = true) (h : e.IsReadBy src g (callExpression go)) :
    e.IsReadBy src g (assignment go) := by
  intro s joined ws hg hf hc
  rw [Grammar.assignment, reads_setting, hf.seesKeyword, begins_words he rfl, Bool.and_false, if_neg Bool.false_ne_true,
    reads_get]
  refine ((h.conditional he) hg hf hc).bind fun t s' hread => ?_
  obtain ⟨ht, hp⟩ := hread
  rw [reads_get, hp.faces.seesKeyword, not_keyword_of_closes hc rfl, Bool.or_false]
  have hname : (s.ahead.type == .name && s.ahead.value == "async" && s.ahead.line == s'.ahead.line &&
      s'.ahead.type == .name) = false := by
    rw [value_of_faces hf]
    obtain ⟨w, more, rfl, ⟨hw, -⟩ | ⟨hw, -⟩ | ⟨-, hne⟩⟩ := exists_of_closes hc
    · rw [hp.faces.type, show typeOf (w :: more) = .punctuator from hw]
      exact Bool.and_false _
    · rw [hp.faces.type, show typeOf (w :: more) = .keyword from hw]
      exact Bool.and_false _
    · rw [beq_eq_false_iff_ne.mpr hne, Bool.and_false, Bool.false_and, Bool.false_and]
  rw [hname, if_neg Bool.false_ne_true, pure_bind, hp.faces.sees, begins_of_closes hc (by decide), Bool.or_false,
    isKind_of_core ht, not_isKind e rfl, if_neg Bool.false_ne_true, hp.faces.seesOneOf,
    beginsOneOf_of_closes hc (by decide), if_neg Bool.false_ne_true]
  exact reads_pure ⟨ht, hp⟩

theorem reads_nameNode (start : Nat) (x : String) :
    Reads src (nameNode start x) s fun t s' => t.core = Tree.identifier x ∧ s' = s :=
  reads_finish start "Identifier" [("name", .str x)] rfl

/-- A name is read as an atom, whatever closes it or calls it. -/
theorem reads_operand {x : String} {w : Word} (hx : (Expr.name x).isLegal g = true) (hg : Ground.of s.setting = g)
    (hf : Faces src s ((Expr.name x).words joined (w :: ws))) (hw : begins (w :: ws) .keyword "function" = false) :
    Reads src (operand go) s fun t s' => t.core = Tree.identifier x ∧ Past src s s' (w :: ws) s.setting.isTarget := by
  rw [operand, hf.seesKeyword, begins_words hx rfl, if_neg Bool.false_ne_true, primary, reads_here, reads_get,
    reads_setting, type_of_faces hx hf]
  dsimp only
  rw [value_of_faces hf, not_await hx hg id, if_neg Bool.false_ne_true]
  refine (reads_seesAsyncFunction hf hw).bind fun found s₁ hread => ?_
  obtain ⟨hfound, hp⟩ := hread
  rw [hfound, if_neg Bool.false_ne_true]
  refine (reads_skip hp.faces).bind fun _ s₂ hp' => ?_
  refine (reads_nameNode _ x).mono fun t s' hread => ?_
  obtain ⟨ht, hs⟩ := hread
  refine ⟨ht, ?_⟩
  subst hs
  rw [hp.target] at hp'
  exact hp.trans hp'

/-- Where an expression ends there is no access. -/
theorem reads_access_none {start : Nat} {object : Tree} {allowIn : Bool} {head : String} (hf : Faces src s ws)
    (hc : closes allowIn head ws = true) :
    Reads src (access? go start object) s fun r s' => r = none ∧ s' = s := by
  rw [access?, hf.sees, begins_of_closes hc (by decide), if_neg Bool.false_ne_true, hf.sees,
    begins_of_closes hc (by decide), if_neg Bool.false_ne_true, reads_get, reads_get]
  have htemplate : (s.ahead.type == .template) = false := by
    obtain ⟨w, more, rfl, ⟨hw, -⟩ | ⟨hw, -⟩ | ⟨hw, -⟩⟩ := exists_of_closes hc
    all_goals
      rw [hf.type]
      show (w.type == .template) = false
      rw [hw]
      rfl
  rw [htemplate, Bool.false_and, if_neg Bool.false_ne_true]
  exact reads_pure ⟨rfl, rfl⟩

/-- Where an expression ends there are no further arguments. -/
theorem reads_callRest_none {first : Token} {maybeAsync : Bool} {fuel : Nat} {t : Tree} {allowIn : Bool} {head : String}
    (hf : Faces src s ws) (hc : closes allowIn head ws = true) :
    Reads src (callRest go first maybeAsync (fuel + 1) t) s fun t' s' => t' = t ∧ s' = s := by
  rw [callRest, hf.sees, begins_of_closes hc (by decide), if_neg Bool.false_ne_true]
  refine (reads_access_none hf hc).bind fun r s' hread => ?_
  obtain ⟨hr, hs⟩ := hread
  subst hr hs
  exact reads_pure ⟨rfl, rfl⟩

theorem reads_inherited {x : String} {w : Word} (hx : (Expr.name x).isLegal g = true) (hg : Ground.of s.setting = g)
    (hf : Faces src s ((Expr.name x).words joined (w :: ws))) (hw : begins (w :: ws) .keyword "function" = false) :
    Reads src (inherit (operand go)) s fun t s' =>
      t.core = Tree.identifier x ∧ Past src s s' (w :: ws) s.setting.isTarget := by
  have hread : Reads src (inherit (operand go)) s _ := Reads.inherit (reads_operand hx hg hf.open_ hw)
  rwa [show (s.put open_).setting.isTarget = true from rfl, Bool.true_and] at hread

/-- The operand of a call expression is a name; what follows is read as told. -/
theorem reads_callExpression {x : String} {w : Word} {vs : List Word} {u : Tree} {b : Bool}
    (hx : (Expr.name x).isLegal g = true) (hg : Ground.of s.setting = g)
    (hf : Faces src s ((Expr.name x).words joined (w :: ws))) (hw : begins (w :: ws) .keyword "function" = false)
    (h : ∀ t s', t.core = Tree.identifier x → Ground.of s'.setting = g → s'.setting.isTarget = s.setting.isTarget →
      Faces src s' (w :: ws) →
        Reads src (callRest go s.ahead (x == "async") (src.size + 1) t) s' fun t' s'' =>
          t'.core = u ∧ Past src s' s'' vs b) :
    Reads src (callExpression go) s fun t s' => t.core = u ∧ Past src s s' vs b := by
  rw [callExpression, reads_get, hf.seesName, begins_name _ _ hx]
  refine Reads.withIn ?_
  have hf₁ : Faces src (s.put (allowing true)) ((Expr.name x).words joined (w :: ws)) := hf.put rfl
  rw [hf₁.seesKeyword, begins_words hx rfl, reads_setting, Bool.false_and, if_neg Bool.false_ne_true]
  refine (reads_inherited (s := s.put (allowing true)) hx hg hf₁ hw).bind fun t s' hread => ?_
  obtain ⟨ht, hp⟩ := hread
  dsimp only
  rw [reads_source]
  refine (h t s' ht ((Ground.of_past hp).trans hg) hp.target hp.faces).mono fun t' s'' hread => ?_
  obtain ⟨ht', hp'⟩ := hread
  exact ⟨ht', hp.trans hp'⟩

/-- **A name is read** as a name. -/
theorem name_isReadBy {x : String} (hx : (Expr.name x).isLegal g = true) :
    (Expr.name x).IsReadBy src g (callExpression go) := by
  intro s joined ws hg hf hc
  obtain ⟨w, more, rfl, -⟩ := exists_of_closes hc
  refine reads_callExpression hx hg hf (not_keyword_of_closes hc rfl) fun t s' ht _ htarget hf' => ?_
  refine (reads_callRest_none hf' hc).mono fun t' s'' hread => ?_
  obtain ⟨ht', hs⟩ := hread
  subst ht' hs
  refine ⟨ht, ?_⟩
  rw [show (Expr.name x).isName = true from rfl, Bool.true_and, ← htarget]
  exact .refl hf'

/-- What is read as an argument. -/
theorem reads_argument {maybeParam : Bool} (h : e.IsReadBy src g (go .assignment)) (he : e.isLegal g = true)
    (hg : Ground.of s.setting = g) (hf : Faces src s (e.words joined ws))
    (hc : closes s.setting.allowIn e.head ws = true) :
    Reads src (argument go maybeParam) s fun t s' => t.core = e.tree ∧ Past src s s' ws s.setting.isTarget := by
  rw [argument, hf.sees, begins_words he rfl, if_neg Bool.false_ne_true]
  refine Reads.isolate (b := e.isName && true) ?_
  refine (h (s := s.put open_) hg hf.open_ hc).bind fun t s' hread => ?_
  obtain ⟨ht, hp⟩ := hread
  cases maybeParam with
  | false => exact reads_pure ⟨ht, hp⟩
  | true =>
    rw [if_pos rfl, reads_adjust]
    obtain ⟨x, hx⟩ := hp.setting
    refine reads_pure ⟨ht, hp.faces.put rfl, x, ?_⟩
    show ({ s'.setting with patternOnly := _ } : Setting) = _
    rw [hx]
    rfl

end Expr

mutual

theorem Expr.length_words : ∀ (e : Expr) (joined : Bool) (ws : List Word), ws.length < (e.words joined ws).length
  | .name _, _, ws => Nat.lt_succ_self ws.length
  | .call f args, _, ws => by
    have h := args.length_words (Word.mark ")" :: ws)
    rw [Expr.words, List.length_cons, List.length_cons]
    rw [List.length_cons] at h
    omega

theorem Exprs.length_words : ∀ (args : Exprs) (ws : List Word), ws.length ≤ (args.words ws).length
  | .nil, _ => Nat.le_refl _
  | .cons e rest, ws => ((rest.length_moreWords ws).trans (e.length_words false _).le)

theorem Exprs.length_moreWords : ∀ (args : Exprs) (ws : List Word), ws.length ≤ (args.moreWords ws).length
  | .nil, _ => Nat.le_refl _
  | .cons e rest, ws =>
    ((rest.length_moreWords ws).trans (e.length_words false _).le).trans (Nat.le_succ _)

end

section Exprs

variable {src : Source} {g : Ground} {go : Rules} {maybeParams : Bool} {ws : List Word}

/-- **Arguments are read** one after the other, up to the closing parenthesis. -/
theorem Exprs.reads_repeated {p : Grammar (Option Tree)} {d : Nat}
    (hstop : ∀ {s}, Faces src s (Word.mark ")" :: ws) → Reads src p s fun r s' => r = none ∧ s' = s)
    (hitem : ∀ {e : Expr} {rest : Exprs} {s}, e.isLegal g = true → e.depth ≤ d → Ground.of s.setting = g →
      Faces src s (e.words false (rest.moreWords (Word.mark ")" :: ws))) →
        Reads src p s fun r s' =>
          ∃ t, r = some t ∧ t.core = e.tree ∧ Past src s s' (rest.words (Word.mark ")" :: ws)) s.setting.isTarget) :
    ∀ (args : Exprs) {s fuel found}, args.isLegal g = true → args.depth ≤ d → Ground.of s.setting = g →
      Faces src s (args.words (Word.mark ")" :: ws)) → (args.words (Word.mark ")" :: ws)).length ≤ fuel →
        Reads src (repeated p fuel found) s fun ts s' =>
          ts.toList.map Tree.core = found.toList.map Tree.core ++ args.trees ∧
            Past src s s' (Word.mark ")" :: ws) s.setting.isTarget
  | .nil, s, fuel, found, _, _, _, hf, hfuel => by
    obtain ⟨fuel, rfl⟩ : ∃ k, fuel = k + 1 := ⟨fuel - 1, by rw [Exprs.words, List.length_cons] at hfuel; omega⟩
    rw [repeated]
    refine (hstop hf).bind fun r s' hread => ?_
    obtain ⟨hr, hs⟩ := hread
    subst hr hs
    exact reads_pure ⟨(List.append_nil _).symm, .refl hf⟩
  | .cons e rest, s, fuel, found, hargs, hd, hg, hf, hfuel => by
    obtain ⟨he, hrest⟩ := Bool.and_eq_true_iff.mp hargs
    have hlonger := (e.length_words false (rest.moreWords (Word.mark ")" :: ws)))
    have hmore : (rest.words (Word.mark ")" :: ws)).length ≤ (rest.moreWords (Word.mark ")" :: ws)).length := by
      cases rest with
      | nil => exact Nat.le_refl _
      | cons => exact Nat.le_succ _
    obtain ⟨fuel, rfl⟩ : ∃ k, fuel = k + 1 := ⟨fuel - 1, by rw [Exprs.words] at hfuel; omega⟩
    rw [repeated]
    have hd' : max e.depth rest.depth ≤ d := hd
    refine (hitem he (by omega) hg hf).bind fun r s' hread => ?_
    obtain ⟨t, hr, ht, hp⟩ := hread
    subst hr
    refine (rest.reads_repeated hstop hitem hrest (by omega) ((Ground.of_past hp).trans hg) hp.faces
      (by rw [Exprs.words] at hfuel; omega)).mono fun ts s'' hread => ?_
    obtain ⟨hts, hp'⟩ := hread
    refine ⟨?_, ?_⟩
    · rw [hts, Array.toList_push, List.map_append, List.append_assoc, Exprs.trees, ← ht]
      rfl
    · rw [hp.target] at hp'
      exact hp.trans hp'

/-- Arguments are read with their parentheses. -/
theorem Exprs.reads_arguments (args : Exprs) {s : Reading} (hargs : args.isLegal g = true)
    (hg : Ground.of s.setting = g)
    (h : ∀ e : Expr, e.isLegal g = true → e.depth ≤ args.depth → e.IsReadBy src g (go .assignment))
    (hf : Faces src s (Word.mark "(" :: args.words (Word.mark ")" :: ws))) :
    Reads src (arguments go maybeParams) s fun ts s' =>
      ts.map Tree.core = args.trees ∧ Past src s s' ws s.setting.isTarget := by
  rw [Grammar.arguments]
  refine (reads_expect hf).bind fun _ s₁ hp₁ => ?_
  have hg₁ := (Ground.of_past hp₁).trans hg
  have hargs' : Reads src (separatedUntil ")" (argument go maybeParams)) s₁ fun ts s₂ =>
      ts.map Tree.core = args.trees ∧ Past src s₁ s₂ (Word.mark ")" :: ws) s₁.setting.isTarget := by
    refine reads_many (args.reads_repeated (d := args.depth) ?_ ?_ hargs (Nat.le_refl _) hg₁ hp₁.faces ?_)
    · exact fun hs => reads_untilStop hs rfl
    · intro e rest s he hd hg hf
      refine (reads_untilItem hf (Expr.begins_words he rfl _) (reads_separated
        (Expr.reads_argument (h e he hd) he hg hf ?_) ?_)).mono fun r s' hread => hread
      · cases rest <;> rfl
      · cases rest with
        | nil => exact .inl ⟨rfl, rfl⟩
        | cons => exact .inr ⟨rfl, rfl⟩
    · have := hp₁.faces.length_le
      omega
  refine hargs'.bind fun ts s₂ hread => ?_
  obtain ⟨hts, hp₂⟩ := hread
  refine (reads_expect hp₂.faces).bind fun _ s₃ hp₃ => reads_pure ⟨hts, ?_⟩
  rw [hp₂.target] at hp₃
  rw [hp₁.target] at hp₃
  exact hp₁.trans (hp₂.trans hp₃)

end Exprs

section Whole

variable {src : Source} {g : Ground} {go : Rules}

/-- **A call is read** as a call if its arguments are read. -/
theorem Expr.call_isReadBy {f : String} {args : Exprs} (hcall : (Expr.call f args).isLegal g = true)
    (h : ∀ e : Expr, e.isLegal g = true → e.depth ≤ args.depth → e.IsReadBy src g (go .assignment)) :
    (Expr.call f args).IsReadBy src g (callExpression go) := by
  intro s joined ws hg hf hc
  obtain ⟨hname, hargs⟩ := Bool.and_eq_true_iff.mp hcall
  have hsize : 2 ≤ src.size := by
    have hlength := hf.length_le
    have hmore := args.length_words (Word.mark ")" :: ws)
    obtain ⟨w, more, rfl, -⟩ := exists_of_closes hc
    rw [Expr.words, List.length_cons, List.length_cons] at hlength
    rw [List.length_cons, List.length_cons] at hmore
    omega
  refine reads_callExpression (x := f) hname hg hf rfl fun t s' ht hg' _ hf' => ?_
  rw [callRest, hf'.sees, begins_mark, if_pos rfl, reads_get, reads_plainValue]
  have hf₁ : Faces src (s'.put plain)
      (Word.mark "(" :: args.words (Word.mark ")" :: ws)) := hf'.put rfl
  refine (args.reads_arguments (s := s'.put plain) hargs hg' h hf₁).bind fun ts s₂ hread => ?_
  obtain ⟨hts, hp⟩ := hread
  have hplain : (t.isKind "Import" && ts.length != 1) = false := by
    rw [← Tree.isKind_core, ht]
    rfl
  rw [hplain, if_neg Bool.false_ne_true]
  refine (reads_finish s.ahead.start "CallExpression" [("callee", t), ("arguments", .list ts)] rfl).bind
    fun call s₃ hread => ?_
  obtain ⟨hcore, hs₃⟩ := hread
  subst hs₃
  rw [hp.faces.sees, begins_of_closes hc (by decide), Bool.and_false, if_neg Bool.false_ne_true]
  obtain ⟨fuel, hfuel⟩ : ∃ k, src.size = k + 1 := ⟨src.size - 1, by omega⟩
  rw [hfuel]
  refine (reads_callRest_none hp.faces hc).mono fun t' s'' hread => ?_
  obtain ⟨ht', hs⟩ := hread
  subst ht' hs
  refine ⟨?_, hp.faces, hp.setting⟩
  simp only [hcore, List.map_cons, List.map_nil, Tree.core_list, ht, hts]
  rfl

/-- **An expression is read** by the rules of enough levels. -/
theorem Expr.isReadBy {n : Nat} {e : Expr} (he : e.isLegal g = true) (hd : e.depth ≤ n) :
    e.IsReadBy src g (rules n .assignment) := by
  induction n generalizing e with
  | zero => cases e <;> exact absurd hd (Nat.not_succ_le_zero _)
  | succ n ih =>
    show e.IsReadBy src g (assignment (rules n))
    cases e with
    | name x => exact .assignment he (name_isReadBy he)
    | call f args =>
      exact .assignment he (call_isReadBy he fun e he' hd' => ih he' (hd'.trans (Nat.le_of_succ_le_succ hd)))

/-- An expression in front of what is no comma is read as a whole. -/
theorem Expr.reads_expression {e : Expr} {n : Nat} {s : Reading} {joined : Bool} {ws : List Word}
    (he : e.isLegal g = true) (hd : e.depth ≤ n) (hg : Ground.of s.setting = g) (hf : Faces src s (e.words joined ws))
    (hc : closes s.setting.allowIn e.head ws = true) (hcomma : begins ws .punctuator "," = false) :
    Reads src (Grammar.expression (rules n)) s fun t s' => t.core = e.tree ∧ Past src s s' ws s.setting.isTarget := by
  rw [Grammar.expression, reads_get]
  refine ((isReadBy he hd).isolate hg hf hc).bind fun t s' hread => ?_
  obtain ⟨ht, hp⟩ := hread
  rw [hp.faces.sees, hcomma, if_neg Bool.false_ne_true]
  exact reads_pure ⟨ht, hp⟩

end Whole

end Deminify.Flow
