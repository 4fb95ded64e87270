import Deminify.Grammar.Program
import Deminify.Proofs.Grammar.Yield
import Deminify.Proofs.Token.Spelled
import Deminify.Proofs.Tree.Core
import Deminify.Tree.Build

/-!
# Reading that goes through

What is read where the words ahead are known (`Deminify.Grammar.Faces`) can be followed from word to word
(`Deminify.Grammar.Reads`): there is one rule for each way of putting reading together, and each leaves
the words that it does not take. Nothing but what an expression may turn into changes in the setting on
the way (`Deminify.Grammar.Past`).
-/

namespace Deminify

theorem Tree.core_list (items : List Tree) : (Tree.list items).core = .list (items.map core) := by
  rw [core, coreItems_eq]

open Token

/-- The state with another setting. -/
def Reading.put (s : Reading) (change : Setting → Setting) : Reading := { s with setting := change s.setting }

namespace Grammar

/-- **Reading goes through** from a state; what it reads and the state that it leaves are as told. -/
def Reads {α : Type} (src : Source) (p : Grammar α) (s : Reading) (Q : α → Reading → Prop) : Prop :=
  ∃ a s', p src s = .ok (a, s') ∧ Q a s'

section Steps

variable {α β : Type} {src : Source} {s : Reading} {p : Grammar α} {Q : α → Reading → Prop}

theorem reads_pure {a : α} (h : Q a s) : Reads src (pure a) s Q := ⟨a, s, rfl, h⟩

/-- What is read first goes into what comes next. -/
theorem run_bind_of_ok {f : α → Grammar β} {a : α} {s' : Reading} (h : p src s = .ok (a, s')) :
    (p >>= f) src s = f a src s' := by
  show (p src s >>= fun r => f r.1 src r.2) = _
  rw [h]
  rfl

theorem Reads.bind (hp : Reads src p s Q) {f : α → Grammar β} {R : β → Reading → Prop}
    (hf : ∀ a s', Q a s' → Reads src (f a) s' R) : Reads src (p >>= f) s R := by
  obtain ⟨a, s', hrun, hQ⟩ := hp
  obtain ⟨b, s'', hrun', hR⟩ := hf a s' hQ
  exact ⟨b, s'', (run_bind_of_ok hrun).trans hrun', hR⟩

/-- What is read with more known is read with less. -/
theorem Reads.mono (hp : Reads src p s Q) {R : α → Reading → Prop} (h : ∀ a s', Q a s' → R a s') :
    Reads src p s R := by
  obtain ⟨a, s', hrun, hQ⟩ := hp
  exact ⟨a, s', hrun, h a s' hQ⟩

theorem Reads.map (hp : Reads src p s Q) (f : α → β) : Reads src (f <$> p) s fun b s' => ∃ a, f a = b ∧ Q a s' := by
  rw [← bind_pure_comp]
  exact hp.bind fun a _ h => reads_pure ⟨a, rfl, h⟩

/-! Looking at the state changes nothing, so what is seen can be put in its place. -/

variable {f : β → Grammar α} {k : Unit → Grammar α}

theorem reads_get {f : Reading → Grammar α} : Reads src (get >>= f) s Q ↔ Reads src (f s) s Q := .rfl

theorem reads_source {f : Source → Grammar α} : Reads src (read >>= f) s Q ↔ Reads src (f src) s Q := .rfl

theorem reads_setting {f : Setting → Grammar α} : Reads src (setting >>= f) s Q ↔ Reads src (f s.setting) s Q := .rfl

theorem reads_here {f : Nat → Grammar α} : Reads src (here >>= f) s Q ↔ Reads src (f s.start.index) s Q := .rfl

theorem reads_modify {g : Reading → Reading} : Reads src (modify g >>= k) s Q ↔ Reads src (k ()) (g s) Q := .rfl

theorem reads_adjust {g : Setting → Setting} :
    Reads src (adjust g >>= k) s Q ↔ Reads src (k ()) (s.put g) Q := .rfl

end Steps

/-! ### Words ahead -/

/-- Whether the first of the words is the given one; at the end it is none. -/
def begins (ws : List Word) (type : TokenType) (value : String) : Bool :=
  ws.head?.any fun w => w.type == type && w.value == value

/-- Whether the first of the words is one of the given punctuators. -/
def beginsOneOf (ws : List Word) (values : List String) : Bool :=
  ws.head?.any fun w => w.type == .punctuator && values.contains w.value

/-- A mark begins with itself. -/
theorem begins_mark (value : String) (ws : List Word) : begins (Word.mark value :: ws) .punctuator value = true := by
  simp [begins, Word.mark]

/-- The sort of the first of the words. -/
def typeOf (ws : List Word) : TokenType := (ws.head?.map (·.type)).getD .stop

/-- **Reading faces words**: the first one is ahead, and the text behind it spells the others. No hole of
a template is open. -/
structure Faces (src : Source) (s : Reading) (ws : List Word) : Prop where
  type : s.ahead.type = typeOf ws
  value : s.ahead.value = (ws.head?.map (·.value)).getD ""
  line : s.ahead.line = s.cursor.line
  joined : ∀ w ∈ ws.head?, w.joined = true → s.afterLineEnd = false
  blocks : Brace.hole ∉ s.cursor.braces
  spells : ∃ cs gap, src.rest s.cursor.index = cs ++ gap ∧ IsGap gap ∧ Spells s.setting.strict cs ws.tail

/-- Reading has gone on to the words that are left. What an expression may turn into is as told, if it is
a target; nothing else has changed in the setting. -/
structure Past (src : Source) (s s' : Reading) (ws : List Word) (target : Bool) : Prop where
  faces : Faces src s' ws
  setting : ∃ binding, s'.setting = { s.setting with isTarget := target, isBinding := binding }

section Words

variable {src : Source} {s s' s'' : Reading} {w : Word} {ws vs : List Word} {b b' : Bool}

/-- The same words are ahead in another setting, if names are reserved alike. -/
theorem Faces.put (h : Faces src s ws) {change : Setting → Setting}
    (hstrict : (change s.setting).strict = s.setting.strict) : Faces src (s.put change) ws where
  type := h.type
  value := h.value
  line := h.line
  joined := h.joined
  blocks := h.blocks
  spells := by
    rw [show (s.put change).setting.strict = s.setting.strict from hstrict]
    exact h.spells

theorem Past.refl (h : Faces src s ws) : Past src s s ws s.setting.isTarget := ⟨h, _, rfl⟩

/-- Words are passed one after the other. -/
theorem Past.trans (h : Past src s s' vs b) (h' : Past src s' s'' ws b') : Past src s s'' ws b' := by
  obtain ⟨x, hx⟩ := h.setting
  obtain ⟨y, hy⟩ := h'.setting
  exact ⟨h'.faces, y, by rw [hy, hx]⟩

theorem Past.target (h : Past src s s' ws b) : s'.setting.isTarget = b := by
  obtain ⟨x, hx⟩ := h.setting
  rw [hx]

/-- Whether a mark is ahead depends on the first word. -/
theorem Faces.sees (h : Faces src s ws) (value : String) {α : Type} {f : Bool → Grammar α} {Q : α → Reading → Prop} :
    Reads src (sees value >>= f) s Q ↔ Reads src (f (begins ws .punctuator value)) s Q := by
  have hsees : (s.ahead.type == .punctuator && s.ahead.value == value) = begins ws .punctuator value := by
    rw [h.type, h.value]
    cases ws <;> rfl
  rw [← hsees]
  rfl

theorem Faces.seesOneOf (h : Faces src s ws) (values : List String) {α : Type} {f : Bool → Grammar α}
    {Q : α → Reading → Prop} :
    Reads src (seesOneOf values >>= f) s Q ↔ Reads src (f (beginsOneOf ws values)) s Q := by
  have hsees : (s.ahead.type == .punctuator && values.contains s.ahead.value) = beginsOneOf ws values := by
    rw [h.type, h.value]
    cases ws <;> rfl
  rw [← hsees]
  rfl

/-- Whether a keyword is ahead depends on the first word. -/
theorem Faces.seesKeyword (h : Faces src s ws) (value : String) {α : Type} {f : Bool → Grammar α}
    {Q : α → Reading → Prop} :
    Reads src (seesKeyword value >>= f) s Q ↔ Reads src (f (begins ws .keyword value)) s Q := by
  have hsees : (s.ahead.type == .keyword && s.ahead.value == value) = begins ws .keyword value := by
    rw [h.type, h.value]
    cases ws <;> rfl
  rw [← hsees]
  rfl

/-- Whether a name is ahead depends on the first word. -/
theorem Faces.seesName (h : Faces src s ws) (value : String) {α : Type} {f : Bool → Grammar α}
    {Q : α → Reading → Prop} :
    Reads src (seesName value >>= f) s Q ↔ Reads src (f (begins ws .name value)) s Q := by
  have hsees : (s.ahead.type == .name && s.ahead.value == value) = begins ws .name value := by
    rw [h.type, h.value]
    cases ws <;> rfl
  rw [← hsees]
  rfl

/-- What sort of token is ahead depends on the first word. -/
theorem Faces.seesType (h : Faces src s ws) (type : TokenType) {α : Type} {f : Bool → Grammar α}
    {Q : α → Reading → Prop} :
    Reads src (seesType type >>= f) s Q ↔ Reads src (f (typeOf ws == type)) s Q := by
  rw [← h.type]
  rfl

/-- There are no more words ahead than characters. -/
theorem Faces.length_le (h : Faces src s ws) : ws.length ≤ src.size + 1 := by
  obtain ⟨cs, gap, hrest, -, hs⟩ := h.spells
  have htail := hs.length_le
  have hsize := congrArg List.length hrest
  rw [List.length_tail] at htail
  rw [Source.length_rest, List.length_append] at hsize
  omega

/-! ### Taking words -/

theorem reads_scanning {α : Type} {scan : Scan α} {a : α} {c : Cursor} (h : scan s.cursor = .ok (a, c)) :
    Reads src (scanning scan) s fun x s' => x = a ∧ s' = { s with cursor := c } := by
  refine ⟨a, { s with cursor := c }, ?_, rfl, rfl⟩
  rw [scanning_eq]
  show (scan s.cursor).map _ = _
  rw [h]
  rfl

theorem reads_skipGaps {c : Cursor} (h : Token.skipGaps src (!s.setting.isModule) s.cursor = .ok ([], c)) :
    Reads src skipGaps s fun _ s' => s' = { s with cursor := c } := by
  rw [skipGaps, reads_get, reads_source]
  refine (reads_scanning h).bind fun comments s' hs => ?_
  obtain ⟨rfl, rfl⟩ := hs
  exact reads_pure rfl

/-- A token that is not reserved stays a name in strict code. -/
theorem asInStrict_of_plain {strict : Bool} {token : Token}
    (h : strict = true → token.type = .name → isStrictReserved token.value = false) :
    asInStrict strict token = token := by
  refine if_neg fun hall => ?_
  simp only [Bool.and_eq_true, beq_iff_eq] at hall
  rw [h hall.1.1 hall.1.2] at hall
  cases hall.2

/-- What is ahead once the first of the words in a text has been reached. A setting that is put there later may be
strict, as far as the words can stand in strict code. -/
theorem reads_first {cs gap : List Char} {strict : Bool} (hrest : src.rest s.cursor.index = cs ++ gap) (hg : IsGap gap)
    (hs : Spells strict cs ws) (hb : Brace.hole ∉ s.cursor.braces) (hline : s.ahead.line = s.cursor.line)
    (hstrict : s.setting.strict = true → strict = true) :
    Reads src next s fun token s' => token = s.ahead ∧ s'.setting = s.setting ∧ s'.bound = s.bound ∧
      ∀ change : Setting → Setting, (change s'.setting).strict = strict → Faces src (s'.put change) ws := by
  obtain ⟨c₁, token, c₂, hskip, hscan, htype, hvalue, hlast, hblocks, hjoined, hplain, hspells⟩ :=
    @ahead_of_spells src s.cursor cs gap _ (!s.setting.isModule) _ hrest hg hs hb
  have hsame : asInStrict s.setting.strict token = token := asInStrict_of_plain fun h => hplain (hstrict h)
  rw [next, reads_modify]
  refine (reads_skipGaps (by exact hskip)).bind fun _ s₁ hs₁ => ?_
  subst hs₁
  rw [reads_modify, reads_source]
  refine (reads_scanning (by exact hscan)).bind fun t s₂ hs₂ => ?_
  obtain ⟨rfl, rfl⟩ := hs₂
  rw [reads_get, reads_modify]
  refine reads_pure ⟨rfl, rfl, rfl, fun change hchange => ⟨?_, ?_, ?_, fun v hv hj => ?_, hblocks, ?_⟩⟩
  · exact (congrArg Token.type hsame).trans htype
  · exact (congrArg Token.value hsame).trans hvalue
  · exact (congrArg Token.line hsame).trans hlast
  · show (s.ahead.line != t.line) = false
    rw [bne_eq_false_iff_eq, hline]
    exact (hjoined v hv hj).symm
  · obtain ⟨cs', gap', hrest', hg', hs'⟩ := hspells
    refine ⟨cs', gap', hrest', hg', ?_⟩
    show Spells (change _).strict _ _
    rw [hchange]
    exact hs'

/-- **The word ahead is taken**, and the next one is ahead. -/
theorem reads_next (h : Faces src s (w :: ws)) :
    Reads src next s fun token s' =>
      token = s.ahead ∧ Faces src s' ws ∧ s'.setting = s.setting ∧ s'.bound = s.bound := by
  obtain ⟨cs, gap, hrest, hg, hs⟩ := h.spells
  refine (reads_first hrest hg hs h.blocks h.line id).mono fun token s' hread => ?_
  obtain ⟨ht, hset, hbound, hfaces⟩ := hread
  exact ⟨ht, hfaces id (congrArg Setting.strict hset), hset, hbound⟩

theorem Past.of_next (h : Faces src s' ws ∧ s'.setting = s.setting ∧ s'.bound = s.bound) :
    Past src s s' ws s.setting.isTarget := ⟨h.1, s.setting.isBinding, h.2.1⟩

/-- **A word is taken.** -/
theorem reads_skip (h : Faces src s (w :: ws)) :
    Reads src skip s fun _ s' => Past src s s' ws s.setting.isTarget :=
  ((reads_next h).map fun _ => PUnit.unit).mono fun _ _ ⟨_, _, _, h⟩ => .of_next h

/-- A mark that is expected is taken. -/
theorem reads_expect {value : String} (h : Faces src s (Word.mark value :: ws)) :
    Reads src (expect value) s fun _ s' => Past src s s' ws s.setting.isTarget := by
  refine (reads_next h).bind fun token s' hread => ?_
  obtain ⟨htoken, h'⟩ := hread
  subst htoken
  rw [if_neg]
  · exact reads_pure (.of_next h')
  · rw [h.type, h.value]
    simp [typeOf, Word.mark]

theorem reads_expectKeyword {value : String} (h : Faces src s (⟨.keyword, value, b⟩ :: ws)) :
    Reads src (expectKeyword value) s fun _ s' => Past src s s' ws s.setting.isTarget := by
  refine (reads_next h).bind fun token s' hread => ?_
  obtain ⟨htoken, h'⟩ := hread
  subst htoken
  rw [if_neg]
  · exact reads_pure (.of_next h')
  · rw [h.type, h.value]
    simp [typeOf]

/-- A mark that is accepted is taken. -/
theorem reads_accept {value : String} (h : Faces src s (Word.mark value :: ws)) :
    Reads src (accept value) s fun taken s' => taken = true ∧ Past src s s' ws s.setting.isTarget := by
  rw [accept, h.sees]
  rw [if_pos (by simp [begins, Word.mark])]
  exact (reads_skip h).bind fun _ s' h' => reads_pure ⟨rfl, h'⟩

/-- Nothing is taken if another word is ahead. -/
theorem reads_accept_none {value : String} (h : Faces src s ws) (hnot : begins ws .punctuator value = false) :
    Reads src (accept value) s fun taken s' => taken = false ∧ s' = s := by
  rw [accept, h.sees, hnot]
  exact reads_pure ⟨rfl, rfl⟩

/-- A statement ends with its semicolon. -/
theorem reads_endStatement (h : Faces src s (Word.mark ";" :: ws)) :
    Reads src endStatement s fun _ s' => Past src s s' ws s.setting.isTarget := by
  rw [endStatement, h.sees]
  exact reads_skip h

/-- Looking beyond the word ahead changes nothing that matters. -/
theorem reads_peek (h : Faces src s (w :: ws)) :
    Reads src peek s fun token s' => token.type = typeOf ws ∧ token.value = (ws.head?.map (·.value)).getD "" ∧
      Faces src s' (w :: ws) ∧ s'.setting = s.setting ∧ s'.bound = s.bound := by
  obtain ⟨cs, gap, hrest, hg, hs⟩ := h.spells
  obtain ⟨c₁, token, c₂, hskip, hscan, htype, hvalue, -, hblocks, -, -, -⟩ :=
    @ahead_of_spells src s.cursor cs gap _ (!s.setting.isModule) _ hrest hg hs h.blocks
  rw [peek, reads_get]
  dsimp only
  rw [reads_get, reads_source]
  refine ((reads_scanning hskip).map _).bind fun _ s₁ hread => ?_
  obtain ⟨_, _, _, hs₁⟩ := hread
  subst hs₁
  rw [reads_source]
  refine (reads_scanning (by exact hscan)).bind fun t s₂ hs₂ => ?_
  obtain ⟨rfl, rfl⟩ := hs₂
  rw [reads_modify]
  exact reads_pure ⟨htype, hvalue, ⟨h.type, h.value, h.line, h.joined, hblocks, ⟨cs, gap, hrest, hg, hs⟩⟩, rfl,
    rfl⟩

/-- No function is ahead if the word behind `async` is not its keyword. -/
theorem reads_seesAsyncFunction (h : Faces src s (w :: ws)) (hnot : begins ws .keyword "function" = false) :
    Reads src seesAsyncFunction s fun found s' => found = false ∧ Past src s s' (w :: ws) s.setting.isTarget := by
  rw [seesAsyncFunction, h.seesName]
  split
  · rw [reads_get]
    refine (reads_peek h).bind fun token s' hread => ?_
    obtain ⟨htype, hvalue, h'⟩ := hread
    refine reads_pure ⟨?_, .of_next h'⟩
    have hfunction : (token.type == .keyword && token.value == "function") = begins ws .keyword "function" := by
      rw [htype, hvalue]
      cases ws <;> rfl
    rw [Bool.and_assoc, hfunction, hnot, Bool.and_false]
  · exact reads_pure ⟨rfl, .refl h⟩

/-! ### Nodes -/

/-- What is read is a node of a kind, with fields as told. -/
theorem reads_finish (start : Nat) (kind : String) (fields : List (String × Tree))
    (hkeys : (fields.map (·.1)).all Tree.isShapeKey = true) :
    Reads src (finish start kind fields) s fun t s' =>
      t.core = .node kind (fields.map fun f => (f.1, f.2.core)) ∧ s' = s := by
  refine ⟨_, s, rfl, ?_, rfl⟩
  have hfields (stop : Nat) : ∀ {fields : List (String × Tree)}, (fields.map (·.1)).all Tree.isShapeKey = true →
      Tree.coreFields (fields ++ [("range", Tree.list [.int start, .int stop])]) = fields.map fun f => (f.1, f.2.core) := by
    intro fields hkeys
    induction fields with
    | nil => rfl
    | cons f rest ih =>
      rw [List.map_cons, List.all_cons, Bool.and_eq_true] at hkeys
      rw [List.cons_append, Tree.coreFields_cons, if_pos hkeys.1, ih hkeys.2, List.map_cons]
  have htype : Tree.isShapeKey "type" = true := rfl
  rw [Tree.core, List.cons_append, Tree.coreFields_cons, if_pos htype, hfields _ hkeys]
  rfl

/-! ### Parts on their own -/

variable {α : Type} {p : Grammar α} {P : α → Prop}

/-- The setting in which an operand is read. -/
def open_ (σ : Setting) : Setting := { σ with isTarget := true, isBinding := true, patternOnly := none }

/-- The setting with `in` as an operator, or not. -/
def allowing (allowed : Bool) (σ : Setting) : Setting := { σ with allowIn := allowed }

/-- The setting after an expression that is neither a target nor a parameter. -/
def plain (σ : Setting) : Setting := { σ with isTarget := false, isBinding := false }

theorem reads_plainValue {β : Type} {k : Unit → Grammar β} {Q : β → Reading → Prop} :
    Reads src (plainValue >>= k) s Q ↔ Reads src (k ()) (s.put plain) Q := .rfl

theorem Faces.open_ (h : Faces src s ws) : Faces src (s.put open_) ws := h.put rfl

/-- A part that is read on its own leaves the setting as it was. -/
theorem Reads.isolate (h : Reads src p (s.put open_) fun a s' => P a ∧ Past src (s.put open_) s' ws b) :
    Reads src (isolate p) s fun a s' => P a ∧ Past src s s' ws s.setting.isTarget := by
  rw [Grammar.isolate, reads_setting, reads_adjust]
  refine Reads.bind (Q := fun a s' => P a ∧ Past src (s.put Grammar.open_) s' ws b) h fun a s' hread => ?_
  obtain ⟨ha, hs'⟩ := hread
  obtain ⟨x, hx⟩ := hs'.setting
  have hnone : s'.setting.patternOnly = none := by rw [hx]; rfl
  rw [reads_setting, hnone]
  show Reads src (adjust _ >>= fun _ => pure a) s' _
  rw [reads_adjust]
  refine reads_pure ⟨ha, hs'.faces.put rfl, s.setting.isBinding, ?_⟩
  show ({ s'.setting with isTarget := _, isBinding := _, patternOnly := _ } : Setting) = _
  rw [hx]
  rfl

/-- A part that is read in the setting may end its being a target. -/
theorem Reads.inherit (h : Reads src p (s.put open_) fun a s' => P a ∧ Past src (s.put open_) s' ws b) :
    Reads src (inherit p) s fun a s' => P a ∧ Past src s s' ws (b && s.setting.isTarget) := by
  rw [Grammar.inherit, reads_setting, reads_adjust]
  refine Reads.bind (Q := fun a s' => P a ∧ Past src (s.put Grammar.open_) s' ws b) h fun a s' hread => ?_
  obtain ⟨ha, hs'⟩ := hread
  obtain ⟨x, hx⟩ := hs'.setting
  rw [reads_adjust]
  refine reads_pure ⟨ha, hs'.faces.put rfl, x && s.setting.isBinding, ?_⟩
  show ({ s'.setting with isTarget := _, isBinding := _, patternOnly := _ } : Setting) = _
  rw [hx]
  simp [Grammar.open_, Reading.put]

/-- A part is read with or without the operator of a loop. -/
theorem Reads.withIn {allowed : Bool}
    (h : Reads src p (s.put (allowing allowed)) fun a s' => P a ∧ Past src (s.put (allowing allowed)) s' ws b) :
    Reads src (withIn allowed p) s fun a s' => P a ∧ Past src s s' ws b := by
  rw [Grammar.withIn, reads_setting, reads_adjust]
  refine Reads.bind (Q := fun a s' => P a ∧ Past src (s.put (allowing allowed)) s' ws b) h fun a s' hread => ?_
  obtain ⟨ha, hs'⟩ := hread
  obtain ⟨x, hx⟩ := hs'.setting
  rw [reads_adjust]
  refine reads_pure ⟨ha, hs'.faces.put rfl, x, ?_⟩
  show ({ s'.setting with allowIn := _ } : Setting) = _
  rw [hx]
  rfl

/-! ### Items one after the other -/

variable {item : Grammar α} {close : String} {Q : α → Reading → Prop}

theorem reads_many {item : Grammar (Option α)} {P : List α → Reading → Prop}
    (h : Reads src (repeated item (src.size + 2) #[]) s fun a s' => P a.toList s') : Reads src (many item) s P := by
  rw [many, reads_source]
  exact h.bind fun a s' ha => reads_pure ha

/-- Items end where the closing mark is. -/
theorem reads_untilStop (h : Faces src s ws) (hclose : begins ws .punctuator close = true) :
    Reads src (do
      if ← sees close then return none
      return some (← item)) s fun r s' => r = none ∧ s' = s := by
  rw [h.sees, hclose, if_pos rfl]
  exact reads_pure ⟨rfl, rfl⟩

/-- An item is read where the closing mark is not. -/
theorem reads_untilItem (h : Faces src s ws) (hclose : begins ws .punctuator close = false)
    (hitem : Reads src item s Q) :
    Reads src (do
      if ← sees close then return none
      return some (← item)) s fun r s' => ∃ a, r = some a ∧ Q a s' := by
  rw [h.sees, hclose, if_neg Bool.false_ne_true]
  exact hitem.bind fun a s' ha => reads_pure ⟨a, rfl, ha⟩

/-- An item is read with the comma behind it, unless it is the last one. -/
theorem reads_separated {P : α → Prop} (hitem : Reads src item s fun a s' => P a ∧ Past src s s' ws b)
    {vs : List Word} (hws : (vs = ws ∧ begins ws .punctuator close = true) ∨
      (ws = Word.mark "," :: vs ∧ begins ws .punctuator close = false)) :
    Reads src (do
      let a ← item
      unless ← sees close do expect ","
      return a) s fun a s' => P a ∧ Past src s s' vs b := by
  refine hitem.bind fun a s' hread => ?_
  obtain ⟨ha, hp⟩ := hread
  rw [hp.faces.sees]
  rcases hws with ⟨rfl, hclose⟩ | ⟨rfl, hclose⟩
  · rw [hclose, if_pos rfl]
    exact reads_pure ⟨ha, hp⟩
  · rw [hclose, if_neg Bool.false_ne_true]
    refine (reads_expect hp.faces).bind fun _ s'' hp' => reads_pure ⟨ha, ?_⟩
    rw [hp.target] at hp'
    exact hp.trans hp'

end Words

end Grammar

end Deminify
