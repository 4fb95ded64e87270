import Deminify.Proofs.Flow.Expression

/-!
# How statements are read

What is read up to some words is followed from state to state (`Deminify.Flow.past_then`), and **a statement is read
where it may stand, up to where it ends** (`Deminify.Flow.Stmt.IsRead`). Here are the lists of statements, the blocks,
the branches, the loops with a condition, and what starts with a name; the other kinds of statements follow in
`Deminify.Proofs.Flow.Program`.
-/

namespace Deminify.Flow

open Token Grammar

section Steps

variable {src : Source} {st s' s'' : Reading} {s : Stmt} {b : Stmts} {e : Expr} {n : Nat} {ws vs : List Word} {t : Bool}

/-! ### Going on -/

/-- Reading goes on, and what an expression may turn into with it. -/
theorem past_then (hp : Past src st s' vs t) {f : Bool → Bool} (hp' : Past src s' s'' ws (f s'.setting.isTarget)) :
    Past src st s'' ws (f t) := by
  rw [hp.target] at hp'
  exact hp.trans hp'

/-- What is passed can be passed on from. -/
theorem past_keep (hp : Past src st s' vs t) (hp' : Past src s' s'' ws s'.setting.isTarget) : Past src st s'' ws t :=
  past_then (f := id) hp hp'

/-- A statement may stand where reading has gone on to. -/
theorem isLegal_of_past (hp : Past src st s' vs t) {f : Ground → Ground} (h : s.isLegal (f (.of st.setting)) t = true) :
    s.isLegal (f (.of s'.setting)) s'.setting.isTarget = true := by
  rw [Ground.of_past hp, hp.target]
  exact h

theorem begins_keyword (value : String) (ws : List Word) : begins (keyword value :: ws) .keyword value = true := by
  simp [begins, keyword]

/-- The words that a statement starts with. -/
def starters : List String :=
  ["return", "throw", "break", "continue", "if", "for", "while", "do", "with", "try", "switch"]

/-- A statement starts with a name, with a keyword of its own, or with a mark. -/
theorem Stmt.exists_first {g : Ground} (h : s.isLegal g t = true) (ws : List Word) : ∃ w more, s.words ws = w :: more ∧
    (w.type = .name ∨ (w.type = .keyword ∧ w.value ∈ starters) ∨ (w.type = .punctuator ∧ w.value ∈ ["\x7b", ";"])) := by
  have hname {x : String} (hx : g.allows x = true) : wordType x = .name := by
    simp only [Ground.allows, Bool.and_eq_true, beq_iff_eq] at hx
    exact hx.1.1.2
  cases s with
  | block | empty => exact ⟨_, _, rfl, .inr (.inr ⟨rfl, by decide⟩)⟩
  | expression e =>
    obtain ⟨more, hmore⟩ := e.words_eq false (Word.mark ";" :: ws)
    exact ⟨_, more, hmore, .inl (Expr.type_head h)⟩
  | labeled l s =>
    simp only [Stmt.isLegal, Bool.and_eq_true] at h
    exact ⟨_, _, rfl, .inl (hname h.1.1)⟩
  | break_ l => cases l <;> exact ⟨_, _, rfl, .inr (.inl ⟨rfl, by decide⟩)⟩
  | continue_ l => cases l <;> exact ⟨_, _, rfl, .inr (.inl ⟨rfl, by decide⟩)⟩
  | _ => exact ⟨_, _, rfl, .inr (.inl ⟨rfl, by decide⟩)⟩

/-- Words with which no statement starts. -/
theorem Stmt.begins_words {g : Ground} (h : s.isLegal g t = true) (ws : List Word) {value : String} :
    (value ∉ starters → begins (s.words ws) .keyword value = false) ∧
      (value ∉ ["\x7b", ";"] → begins (s.words ws) .punctuator value = false) := by
  obtain ⟨w, more, hws, hw⟩ := s.exists_first h ws
  rw [hws]
  have hvalue {values : List String} (hm : w.value ∈ values) (hv : value ∉ values) : (w.value == value) = false :=
    beq_eq_false_iff_ne.mpr fun heq => hv (heq ▸ hm)
  refine ⟨fun hv => ?_, fun hv => ?_⟩
  · show (w.type == .keyword && w.value == value) = false
    rcases hw with ht | ⟨-, hm⟩ | ⟨ht, -⟩
    · rw [ht]
      rfl
    · rw [hvalue hm hv, Bool.and_false]
    · rw [ht]
      rfl
  · show (w.type == .punctuator && w.value == value) = false
    rcases hw with ht | ⟨ht, -⟩ | ⟨-, hm⟩
    · rw [ht]
      rfl
    · rw [ht]
      rfl
    · rw [hvalue hm hv, Bool.and_false]

/-- Whether a statement ends in front of words: no `else` and no `finally` there would go to it. -/
def Stmt.Ends (s : Stmt) (ws : List Word) : Prop :=
  (s.isOpen = true → begins ws .keyword "else" = false) ∧ begins ws .keyword "finally" = false

/-- **Whether a statement is read**, where it may stand, up to where it ends. -/
def Stmt.IsRead (src : Source) (s : Stmt) : Prop :=
  ∀ ⦃n st ws⦄, s.isLegal (.of st.setting) st.setting.isTarget = true → s.depth ≤ n → Faces src st (s.words ws) →
    s.Ends ws →
      Reads src (rules n .statement) st fun u s' => u.core = s.tree ∧ Past src st s' ws (s.target st.setting.isTarget)

/-- Whether statements are read one after the other, up to words at which reading stops. -/
def Stmts.IsRead (src : Source) (b : Stmts) : Prop :=
  ∀ ⦃p n st ws fuel found⦄, (∀ ⦃s⦄, Faces src s ws → Reads src p s fun r s' => r = none ∧ s' = s) →
    (∀ ⦃g t s vs st Q⦄, Stmt.isLegal s g t = true → Faces src st (s.words vs) → Reads src (rules n .item) st Q →
      Reads src p st fun r s' => ∃ u, r = some u ∧ Q u s') →
    begins ws .keyword "else" = false → begins ws .keyword "finally" = false →
      b.isLegal (.of st.setting) = true → b.depth ≤ n → Faces src st (b.words ws) → (b.words ws).length < fuel →
        Reads src (repeated p fuel found) st fun us s' =>
          us.toList.map Tree.core = found.toList.map Tree.core ++ b.trees ∧
            Past src st s' ws (b.target st.setting.isTarget)

/-! ### From the rules to the kinds of statements -/

theorem Stmt.depth_pos (s : Stmt) : 0 < s.depth := by
  cases s <;> simp only [Stmt.depth] <;> omega

/-- A statement is read by the rules that are one level up. -/
theorem Stmt.isRead_of (h : ∀ n st ws, s.isLegal (.of st.setting) st.setting.isTarget = true → s.depth ≤ n + 1 →
    Faces src st (s.words ws) → s.Ends ws →
      Reads src (statement (rules n)) st fun u s' =>
        u.core = s.tree ∧ Past src st s' ws (s.target st.setting.isTarget)) : s.IsRead src := by
  intro n st ws hl hd hf ho
  have := s.depth_pos
  obtain ⟨m, rfl⟩ : ∃ m, n = m + 1 := ⟨n - 1, by omega⟩
  exact h m st ws hl hd hf ho

/-- What starts with a keyword is read as the statement of that keyword. -/
theorem reads_keyword {k : String} {Q : Tree → Reading → Prop} {go : Rules} (hf : Faces src st (keyword k :: ws)) :
    Reads src (statement go) st Q ↔ Reads src (keywordStatement go k) st Q := by
  have htype : st.ahead.type = .keyword := hf.type
  have hvalue : st.ahead.value = k := hf.value
  rw [statement, reads_get]
  dsimp only
  rw [htype, hvalue]

/-- An item of a list is read as a statement, behind which all starts anew. -/
def fresh (σ : Setting) : Setting := { σ with isTarget := true, isBinding := true }

/-- What is no import and no export is read as a statement. -/
theorem reads_item {go : Rules} {Q : Tree → Reading → Prop}
    (hkeyword : st.ahead.type = .keyword → st.ahead.value ∈ starters) (h : Reads src (statement go) (st.put fresh) Q) :
    Reads src (item go) st Q := by
  rw [item, reads_adjust, reads_get]
  dsimp only
  split
  · rename_i hk
    have hm : st.ahead.value ∈ starters := hkeyword (beq_iff_eq.mp hk)
    rw [show (st.put fun s => { s with isTarget := true, isBinding := true }).ahead.value = st.ahead.value from rfl]
    revert hm
    generalize st.ahead.value = value
    intro hm
    simp only [starters, List.mem_cons, List.not_mem_nil, or_false] at hm
    rcases hm with rfl | rfl | rfl | rfl | rfl | rfl | rfl | rfl | rfl | rfl | rfl <;> exact h
  · exact h

/-! ### Lists of statements -/

theorem Stmts.nil_isRead : Stmts.nil.IsRead src := by
  intro p n st ws fuel found hstop _ _ _ _ _ hf hfuel
  obtain ⟨fuel, rfl⟩ : ∃ k, fuel = k + 1 := ⟨fuel - 1, by omega⟩
  rw [repeated]
  refine (hstop hf).bind fun r s' hread => ?_
  obtain ⟨hr, hs⟩ := hread
  subst hr hs
  exact reads_pure ⟨(List.append_nil _).symm, .refl hf⟩

theorem Stmts.cons_isRead (hs : s.IsRead src) (hb : b.IsRead src) (hlonger : ∀ ws, ws.length < (s.words ws).length) :
    (Stmts.cons s b).IsRead src := by
  intro p n st ws fuel found hstop hitem helse hfinally hl hd hf hfuel
  obtain ⟨hls, hlb⟩ := Bool.and_eq_true_iff.mp hl
  have hd : max s.depth b.depth ≤ n := hd
  have hf : Faces src st (s.words (b.words ws)) := hf
  have hfuel : (s.words (b.words ws)).length < fuel := hfuel
  have hless := hlonger (b.words ws)
  have hpos := s.depth_pos
  obtain ⟨m, rfl⟩ : ∃ m, n = m + 1 := ⟨n - 1, by omega⟩
  obtain ⟨fuel, rfl⟩ : ∃ k, fuel = k + 1 := ⟨fuel - 1, by omega⟩
  have hends : s.Ends (b.words ws) := by
    cases b with
    | nil => exact ⟨fun _ => helse, hfinally⟩
    | cons s' b' =>
      have hlegal := (Bool.and_eq_true_iff.mp hlb).1
      exact ⟨fun _ => (Stmt.begins_words hlegal _).1 (by decide), (Stmt.begins_words hlegal _).1 (by decide)⟩
  have hstatement := @hs (m + 1) (st.put fresh) _ hls (by omega) (hf.put rfl) hends
  have hkeyword : st.ahead.type = .keyword → st.ahead.value ∈ starters := by
    obtain ⟨w, more, hws, hw⟩ := s.exists_first hls (b.words ws)
    rw [hf.type, hf.value, hws]
    rintro (ht : w.type = .keyword)
    rcases hw with hw | ⟨-, hm⟩ | ⟨hw, -⟩
    · rw [ht] at hw; cases hw
    · exact hm
    · rw [ht] at hw; cases hw
  rw [repeated]
  refine (hitem hls hf (reads_item hkeyword hstatement)).bind fun r s₁ hread => ?_
  obtain ⟨u, hr, hu, hp⟩ := hread
  subst hr
  have hp₁ : Past src st s₁ (b.words ws) (s.target true) := ⟨hp.faces, hp.setting⟩
  refine (hb hstop hitem helse hfinally (Ground.of_past hp₁ ▸ hlb) (by omega) hp.faces
    (by omega)).mono fun us s₂ hread => ?_
  obtain ⟨hus, hp₂⟩ := hread
  refine ⟨?_, past_then hp₁ hp₂⟩
  rw [hus, Array.toList_push, List.map_append, List.append_assoc, Stmts.trees, ← hu]
  rfl

/-! ### Conditions, blocks and loops -/

/-- The mark that follows an expression closes it. -/
theorem closes_mark {allowIn : Bool} {head value : String} (h : [")", ",", ";", ":"].contains value = true) :
    closes allowIn head (Word.mark value :: ws) = true := h

/-- A condition is read in its brackets. -/
theorem reads_condition (he : e.isLegal (.of st.setting) = true) (hd : e.depth ≤ n)
    (hf : Faces src st (conditionWords e ws)) :
    Reads src (condition (rules n)) st fun u s' => u.core = e.tree ∧ Past src st s' ws st.setting.isTarget := by
  rw [condition]
  refine (reads_expect hf).bind fun _ s₁ hp₁ => ?_
  refine (Expr.reads_expression (Ground.of_past hp₁ ▸ he) hd rfl hp₁.faces (closes_mark rfl) rfl).bind
    fun u s₂ hread => ?_
  obtain ⟨hu, hp₂⟩ := hread
  have hp₂ := past_keep hp₁ hp₂
  exact (reads_expect hp₂.faces).bind fun _ s₃ hp₃ => reads_pure ⟨hu, past_keep hp₂ hp₃⟩

/-- **A block is read.** -/
theorem reads_block (hb : b.IsRead src) (hl : b.isLegal (.of st.setting) = true) (hd : b.depth ≤ n)
    (hf : Faces src st (blockWords b.words ws)) :
    Reads src (block (rules n)) st fun u s' =>
      u.core = blockTree b.trees ∧ Past src st s' ws (b.target st.setting.isTarget) := by
  rw [block, reads_here]
  refine (reads_expect hf).bind fun _ s₁ hp₁ => ?_
  have hitems : Reads src (manyUntil "\x7d" (rules n .item)) s₁ fun us s₂ =>
      us.map Tree.core = b.trees ∧ Past src s₁ s₂ (Word.mark "\x7d" :: ws) (b.target s₁.setting.isTarget) := by
    refine reads_many (hb (n := n) (fun s hs => reads_untilStop hs (begins_mark _ _)) ?_ rfl rfl
      (Ground.of_past hp₁ ▸ hl) hd hp₁.faces ?_)
    · intro g t s vs st Q hs hf h
      exact reads_untilItem hf ((Stmt.begins_words hs vs).2 (by decide)) h
    · have := hp₁.faces.length_le
      omega
  refine hitems.bind fun us s₂ hread => ?_
  obtain ⟨hus, hp₂⟩ := hread
  have hp₂ := past_then hp₁ hp₂
  refine (reads_expect hp₂.faces).bind fun _ s₃ hp₃ => ?_
  refine (reads_finish _ _ _ rfl).mono fun u s' hread => ?_
  obtain ⟨hu, hs⟩ := hread
  refine ⟨?_, hs ▸ past_keep hp₂ hp₃⟩
  simp only [hu, List.map_cons, List.map_nil, Tree.core_list, hus]
  rfl

theorem block_isRead (hb : b.IsRead src) : (Stmt.block b).IsRead src := by
  refine Stmt.isRead_of fun n st ws hl hd hf _ => ?_
  have htype : st.ahead.type = .punctuator := hf.type
  have hvalue : st.ahead.value = "\x7b" := hf.value
  rw [statement, reads_get]
  dsimp only
  rw [htype, hvalue]
  exact reads_block hb hl (Nat.le_of_succ_le_succ hd) hf

theorem empty_isRead : Stmt.empty.IsRead src := by
  refine Stmt.isRead_of fun n st ws hl hd hf _ => ?_
  have htype : st.ahead.type = .punctuator := hf.type
  have hvalue : st.ahead.value = ";" := hf.value
  rw [statement, reads_get]
  dsimp only
  rw [htype, hvalue]
  show Reads src (here >>= fun start => skip >>= fun _ => finish start "EmptyStatement" []) st _
  rw [reads_here]
  refine (reads_skip hf).bind fun _ s₁ hp₁ => ?_
  refine (reads_finish _ _ _ rfl).mono fun u s' hread => ?_
  obtain ⟨hu, hs⟩ := hread
  exact ⟨hu, hs ▸ hp₁⟩

/-- The setting in the body of a loop. -/
def looping (σ : Setting) : Setting := { σ with inIteration := true }

/-- The body of a loop is read as it would be elsewhere, with jumps allowed. -/
theorem reads_loopBody {α : Type} {p : Grammar α} {P : α → Prop}
    (h : Reads src p (st.put looping) fun a s' => P a ∧ Past src (st.put looping) s' ws t) :
    Reads src (loopBody p) st fun a s' => P a ∧ Past src st s' ws t := by
  rw [loopBody, reads_setting, reads_adjust]
  refine Reads.bind (Q := fun a s' => P a ∧ Past src (st.put looping) s' ws t) h fun a s' hread => ?_
  obtain ⟨ha, hp⟩ := hread
  obtain ⟨x, hx⟩ := hp.setting
  rw [reads_adjust]
  refine reads_pure ⟨ha, hp.faces.put rfl, x, ?_⟩
  show ({ s'.setting with inIteration := _ } : Setting) = _
  rw [hx]
  rfl

/-- The body of a loop. -/
theorem Stmt.IsRead.loop (hs : s.IsRead src) (hl : s.isLegal (Ground.of st.setting).loop st.setting.isTarget = true)
    (hd : s.depth ≤ n) (hf : Faces src st (s.words ws)) (ho : s.Ends ws) :
    Reads src (loopBody (rules n .statement)) st fun u s' =>
      u.core = s.tree ∧ Past src st s' ws (s.target st.setting.isTarget) :=
  reads_loopBody (@hs _ (st.put looping) _ hl hd (hf.put rfl) ho)

/-- The body of a loop with a head: what it may turn into does not matter. -/
theorem Stmt.IsRead.isolated (hs : s.IsRead src) (hl : s.isLegal (Ground.of st.setting).loop true = true)
    (hd : s.depth ≤ n) (hf : Faces src st (s.words ws)) (ho : s.Ends ws) :
    Reads src (loopBody (isolate (rules n .statement))) st fun u s' =>
      u.core = s.tree ∧ Past src st s' ws st.setting.isTarget :=
  reads_loopBody (Reads.isolate (@hs _ ((st.put looping).put open_) _ hl hd ((hf.put rfl).put rfl) ho))

theorem while_isRead (hs : s.IsRead src) : (Stmt.while_ e s).IsRead src := by
  refine Stmt.isRead_of fun n st ws hl hd hf ho => ?_
  obtain ⟨he, hls⟩ := Bool.and_eq_true_iff.mp hl
  have hd : max e.depth s.depth ≤ n := Nat.le_of_succ_le_succ hd
  rw [reads_keyword hf]
  show Reads src (whileStatement (rules n)) st _
  rw [whileStatement, reads_here]
  refine (reads_expectKeyword hf).bind fun _ s₁ hp₁ => ?_
  refine (reads_condition (Ground.of_past hp₁ ▸ he) (by omega) hp₁.faces).bind fun test s₂ hread => ?_
  obtain ⟨htest, hp₂⟩ := hread
  have hp₂ := past_keep hp₁ hp₂
  refine (hs.loop (isLegal_of_past hp₂ hls) (by omega) hp₂.faces ho).bind fun body s₃ hread => ?_
  obtain ⟨hbody, hp₃⟩ := hread
  refine (reads_finish _ _ _ rfl).mono fun u s' hread => ?_
  obtain ⟨hu, hs'⟩ := hread
  refine ⟨?_, hs' ▸ past_then hp₂ hp₃⟩
  simp only [hu, List.map_cons, List.map_nil, htest, hbody]
  rfl

theorem with_isRead (hs : s.IsRead src) : (Stmt.with_ e s).IsRead src := by
  refine Stmt.isRead_of fun n st ws hl hd hf ho => ?_
  simp only [Stmt.isLegal, Bool.and_eq_true, Bool.not_eq_true'] at hl
  obtain ⟨⟨hstrict, he⟩, hls⟩ := hl
  have hd : max e.depth s.depth ≤ n := Nat.le_of_succ_le_succ hd
  rw [reads_keyword hf]
  show Reads src (withStatement (rules n)) st _
  rw [withStatement, reads_setting, show st.setting.strict = false from hstrict, if_neg Bool.false_ne_true, reads_here]
  refine (reads_expectKeyword hf).bind fun _ s₁ hp₁ => ?_
  refine (reads_condition (Ground.of_past hp₁ ▸ he) (by omega) hp₁.faces).bind fun test s₂ hread => ?_
  obtain ⟨htest, hp₂⟩ := hread
  have hp₂ := past_keep hp₁ hp₂
  refine (hs (isLegal_of_past (f := id) hp₂ hls) (by omega) hp₂.faces ho).bind fun body s₃ hread => ?_
  obtain ⟨hbody, hp₃⟩ := hread
  refine (reads_finish _ _ _ rfl).mono fun u s' hread => ?_
  obtain ⟨hu, hs'⟩ := hread
  refine ⟨?_, hs' ▸ past_then hp₂ hp₃⟩
  simp only [hu, List.map_cons, List.map_nil, htest, hbody]
  rfl

theorem doWhile_isRead (hs : s.IsRead src) : (Stmt.doWhile s e).IsRead src := by
  refine Stmt.isRead_of fun n st ws hl hd hf ho => ?_
  obtain ⟨he, hls⟩ := Bool.and_eq_true_iff.mp hl
  have hd : max e.depth s.depth ≤ n := Nat.le_of_succ_le_succ hd
  rw [reads_keyword hf]
  show Reads src (doWhileStatement (rules n)) st _
  rw [doWhileStatement, reads_here]
  refine (reads_expectKeyword hf).bind fun _ s₁ hp₁ => ?_
  refine (hs.loop (isLegal_of_past hp₁ hls) (by omega) hp₁.faces ⟨fun _ => rfl, rfl⟩).bind
    fun body s₂ hread => ?_
  obtain ⟨hbody, hp₂⟩ := hread
  have hp₂ := past_then hp₁ hp₂
  refine (reads_expectKeyword hp₂.faces).bind fun _ s₃ hp₃ => ?_
  have hp₃ := past_keep hp₂ hp₃
  refine (reads_condition (Ground.of_past hp₃ ▸ he) (by omega) hp₃.faces).bind fun test s₄ hread => ?_
  obtain ⟨htest, hp₄⟩ := hread
  have hp₄ := past_keep hp₃ hp₄
  refine ((reads_accept hp₄.faces).map _).bind fun _ s₅ hread => ?_
  obtain ⟨_, _, _, hp₅⟩ := hread
  refine (reads_finish _ _ _ rfl).mono fun u s' hread => ?_
  obtain ⟨hu, hs'⟩ := hread
  refine ⟨?_, hs' ▸ past_keep hp₄ hp₅⟩
  simp only [hu, List.map_cons, List.map_nil, htest, hbody]
  rfl

/-! ### Branches -/

/-- A branch is read as a statement. -/
theorem reads_branch (hs : s.IsRead src) (hl : s.isLegal (.of st.setting) st.setting.isTarget = true) (hd : s.depth ≤ n)
    (hf : Faces src st (s.words ws)) (ho : s.Ends ws) :
    Reads src (branch (rules n)) st fun u s' => u.core = s.tree ∧ Past src st s' ws (s.target st.setting.isTarget) := by
  rw [branch, reads_setting, hf.seesKeyword, (Stmt.begins_words hl ws).1 (by decide), Bool.and_false,
    if_neg Bool.false_ne_true]
  exact hs hl hd hf ho

theorem if_isRead (hs : s.IsRead src) : (Stmt.if_ e s).IsRead src := by
  refine Stmt.isRead_of fun n st ws hl hd hf ho => ?_
  obtain ⟨he, hls⟩ := Bool.and_eq_true_iff.mp hl
  have hd : max e.depth s.depth ≤ n := Nat.le_of_succ_le_succ hd
  rw [reads_keyword hf]
  show Reads src (ifStatement (rules n)) st _
  rw [ifStatement, reads_here]
  refine (reads_expectKeyword hf).bind fun _ s₁ hp₁ => ?_
  refine (reads_condition (Ground.of_past hp₁ ▸ he) (by omega) hp₁.faces).bind fun test s₂ hread => ?_
  obtain ⟨htest, hp₂⟩ := hread
  have hp₂ := past_keep hp₁ hp₂
  refine (reads_branch hs (isLegal_of_past (f := id) hp₂ hls) (by omega) hp₂.faces ⟨fun _ => ho.1 rfl, ho.2⟩).bind
    fun yes s₃ hread => ?_
  obtain ⟨hyes, hp₃⟩ := hread
  have hp₃ := past_then hp₂ hp₃
  rw [hp₃.faces.seesKeyword, ho.1 rfl, if_neg Bool.false_ne_true]
  refine (reads_finish _ _ _ rfl).mono fun u s' hread => ?_
  obtain ⟨hu, hs'⟩ := hread
  refine ⟨?_, hs' ▸ hp₃⟩
  simp only [hu, List.map_cons, List.map_nil, htest, hyes]
  rfl

theorem ifElse_isRead {no : Stmt} (hs : s.IsRead src) (hno : no.IsRead src) : (Stmt.ifElse e s no).IsRead src := by
  refine Stmt.isRead_of fun n st ws hl hd hf ho => ?_
  simp only [Stmt.isLegal, Bool.and_eq_true, Bool.not_eq_true'] at hl
  obtain ⟨⟨⟨he, hclosed⟩, hls⟩, hln⟩ := hl
  have hd : max e.depth (max s.depth no.depth) ≤ n := Nat.le_of_succ_le_succ hd
  rw [reads_keyword hf]
  show Reads src (ifStatement (rules n)) st _
  rw [ifStatement, reads_here]
  refine (reads_expectKeyword hf).bind fun _ s₁ hp₁ => ?_
  refine (reads_condition (Ground.of_past hp₁ ▸ he) (by omega) hp₁.faces).bind fun test s₂ hread => ?_
  obtain ⟨htest, hp₂⟩ := hread
  have hp₂ := past_keep hp₁ hp₂
  refine (reads_branch hs (isLegal_of_past (f := id) hp₂ hls) (by omega) hp₂.faces ⟨fun h => ?_, rfl⟩).bind
    fun yes s₃ hread => ?_
  · rw [hclosed] at h
    cases h
  obtain ⟨hyes, hp₃⟩ := hread
  have hp₃ := past_then hp₂ hp₃
  rw [hp₃.faces.seesKeyword, begins_keyword, if_pos rfl]
  refine (reads_skip hp₃.faces).bind fun _ s₄ hp₄ => ?_
  have hp₄ := past_keep hp₃ hp₄
  refine (reads_branch hno (isLegal_of_past (f := id) hp₄ hln) (by omega) hp₄.faces ho).bind
    fun no s₅ hread => ?_
  obtain ⟨hno, hp₅⟩ := hread
  refine (reads_finish _ _ _ rfl).mono fun u s' hread => ?_
  obtain ⟨hu, hs'⟩ := hread
  refine ⟨?_, hs' ▸ past_then hp₄ hp₅⟩
  simp only [hu, List.map_cons, List.map_nil, htest, hyes, hno]
  rfl

/-! ### Expressions and labels -/

/-- What starts with a name is read as an expression or a label, not as a function. -/
theorem reads_labelled {w : Word} {x : String} {g : Ground} {joined : Bool} {Q : Tree → Reading → Prop} {go : Rules}
    (hx : g.allows x = true) (hf : Faces src st (nameWord joined x :: w :: ws))
    (hw : begins (w :: ws) .keyword "function" = false)
    (h : ∀ s', Past src st s' (nameWord joined x :: w :: ws) st.setting.isTarget →
      Reads src (labelledStatement go) s' Q) :
    Reads src (statement go) st Q := by
  have htype : st.ahead.type = .name := Expr.type_of_faces (e := .name x) hx hf
  rw [statement, reads_get]
  dsimp only
  rw [htype]
  refine (reads_seesAsyncFunction hf hw).bind fun found s₁ hread => ?_
  obtain ⟨hfound, hp₁⟩ := hread
  rw [hfound, if_neg Bool.false_ne_true]
  exact h s₁ hp₁

/-- Behind the head of an expression there is a word, and no function begins there. -/
theorem Expr.exists_words (e : Expr) (joined : Bool) (hw : begins ws .keyword "function" = false) (hne : ws ≠ []) :
    ∃ w more, e.words joined ws = nameWord joined e.head :: w :: more ∧
      begins (w :: more) .keyword "function" = false := by
  cases e with
  | name x =>
    cases ws with
    | nil => exact absurd rfl hne
    | cons w more => exact ⟨w, more, rfl, hw⟩
  | call f args => exact ⟨_, _, rfl, rfl⟩

theorem expression_isRead : (Stmt.expression e).IsRead src := by
  refine Stmt.isRead_of fun n st ws hl hd hf _ => ?_
  have hmark : begins (Word.mark ";" :: ws) .keyword "function" = false := rfl
  obtain ⟨w, more, hwords, hw⟩ := e.exists_words false hmark nofun
  have hf : Faces src st (e.words false (Word.mark ";" :: ws)) := hf
  rw [hwords] at hf
  refine reads_labelled (Expr.allows_head hl) hf hw fun s₁ hp₁ => ?_
  rw [← hwords] at hp₁
  rw [labelledStatement, reads_here]
  refine (Expr.reads_expression (Ground.of_past hp₁ ▸ hl) (Nat.le_of_succ_le_succ hd) rfl hp₁.faces
    (closes_mark rfl) rfl).bind fun u s₂ hread => ?_
  obtain ⟨hu, hp₂⟩ := hread
  have hp₂ := past_keep hp₁ hp₂
  rw [hp₂.faces.sees, show begins (Word.mark ";" :: ws) .punctuator ":" = false from rfl, Bool.and_false,
    if_neg Bool.false_ne_true]
  refine (reads_endStatement hp₂.faces).bind fun _ s₃ hp₃ => ?_
  refine (reads_finish _ _ _ rfl).mono fun u s' hread => ?_
  obtain ⟨hu', hs'⟩ := hread
  refine ⟨?_, hs' ▸ past_keep hp₂ hp₃⟩
  simp only [hu', List.map_cons, List.map_nil, hu]
  rfl

/-- The setting behind a label. -/
def labelling (labels : List String) (σ : Setting) : Setting := { σ with labels }

theorem labeled_isRead {l : String} (hs : s.IsRead src) : (Stmt.labeled l s).IsRead src := by
  refine Stmt.isRead_of fun n st ws hl hd hf ho => ?_
  simp only [Stmt.isLegal, Bool.and_eq_true, Bool.not_eq_true'] at hl
  obtain ⟨⟨hname, hfresh⟩, hls⟩ := hl
  have hd : max 1 s.depth ≤ n := Nat.le_of_succ_le_succ hd
  refine reads_labelled hname hf rfl fun s₁ hp₁ => ?_
  rw [labelledStatement, reads_here]
  refine (Expr.reads_expression (e := .name l) (Ground.of_past hp₁ ▸ hname) (by show 1 ≤ n; omega) rfl hp₁.faces
    (closes_mark rfl) rfl).bind fun u s₂ hread => ?_
  obtain ⟨hu, hp₂⟩ := hread
  have hp₂ := past_keep hp₁ hp₂
  have hlabel : (u.get "name").str?.getD "" = l := by
    rw [← Tree.str?_core, ← Tree.get_core u rfl, hu]
    rfl
  have hident : u.isKind "Identifier" = true := by
    rw [← Tree.isKind_core, hu]
    rfl
  rw [hp₂.faces.sees, begins_mark, hident, Bool.and_true, if_pos rfl]
  refine (reads_skip hp₂.faces).bind fun _ s₃ hp₃ => ?_
  have hp₃ := past_keep hp₂ hp₃
  have hlabels : s₃.setting.labels = st.setting.labels := congrArg Ground.labels (Ground.of_past hp₃)
  dsimp only
  rw [hlabel, reads_setting, hlabels, show st.setting.labels.contains l = false from hfresh, if_neg Bool.false_ne_true,
    reads_adjust]
  -- the body is read with the label among those around it, and these are put back behind it
  have hbody : Reads src (labelledBody (rules n)) (s₃.put (labelling (l :: st.setting.labels))) fun body s₄ =>
      body.core = s.tree ∧ Past src s₃ (s₄.put (labelling st.setting.labels)) ws (s.target s₃.setting.isTarget) := by
    have hf₃ : Faces src (s₃.put (labelling (l :: st.setting.labels))) (s.words ws) := hp₃.faces.put rfl
    have hls₃ : s.isLegal (.of (s₃.put (labelling (l :: st.setting.labels))).setting) s₃.setting.isTarget = true := by
      have hground :
          Ground.of (s₃.put (labelling (l :: st.setting.labels))).setting = (Ground.of st.setting).behind l := by
        rw [← Ground.of_past hp₃]
        show ({ Ground.of s₃.setting with labels := l :: st.setting.labels } : Ground) = _
        rw [← hlabels]
        rfl
      rw [hground, hp₃.target]
      exact hls
    rw [labelledBody, reads_get, hf₃.seesKeyword, (Stmt.begins_words hls₃ ws).1 (by decide), if_neg Bool.false_ne_true,
      hf₃.seesKeyword, (Stmt.begins_words hls₃ ws).1 (by decide), if_neg Bool.false_ne_true]
    refine (hs hls₃ (by omega) hf₃ ho).mono fun body s₄ hread => ?_
    obtain ⟨hbody, hp₄⟩ := hread
    refine ⟨hbody, hp₄.faces.put rfl, ?_⟩
    obtain ⟨x, hx⟩ := hp₄.setting
    refine ⟨x, ?_⟩
    show ({ s₄.setting with labels := _ } : Setting) = _
    rw [hx, ← hlabels]
    rfl
  refine Reads.bind hbody fun body s₄ hread => ?_
  obtain ⟨hbody, hp₄⟩ := hread
  rw [reads_adjust]
  refine (reads_finish _ _ _ rfl).mono fun u' s' hread => ?_
  obtain ⟨hu', hs'⟩ := hread
  refine ⟨?_, hs' ▸ past_then hp₃ hp₄⟩
  simp only [hu', List.map_cons, List.map_nil, hu, hbody]
  rfl

/-! ### Jumps -/

/-- Whether a `return` has a value is seen from what is ahead. -/
theorem reads_hasArgument {o : Option Expr} (he : Expr.isLegalOf (.of st.setting) o = true)
    (hf : Faces src st (Expr.wordsOf true o (Word.mark ";" :: ws))) :
    Reads src hasArgument st fun r s' => r = o.isSome ∧ s' = st := by
  rw [hasArgument, reads_get, hf.sees, hf.sees]
  refine reads_pure ⟨?_, rfl⟩
  cases o with
  | none =>
    rw [show st.ahead.type = .punctuator from hf.type,
      show begins (Expr.wordsOf true none (Word.mark ";" :: ws)) .punctuator ";" = true from begins_mark _ _]
    simp
  | some e =>
    have hf : Faces src st (e.words true (Word.mark ";" :: ws)) := hf
    have hline : st.afterLineEnd = false := by
      obtain ⟨more, hmore⟩ := e.words_eq true (Word.mark ";" :: ws)
      exact hf.joined (nameWord true e.head) (by rw [hmore]; rfl) rfl
    have hbegins (value : String) :
        begins (Expr.wordsOf true (some e) (Word.mark ";" :: ws)) .punctuator value = false :=
      Expr.begins_words he rfl value
    rw [hbegins, hbegins, Expr.type_of_faces he hf, hline]
    rfl

theorem return_isRead {o : Option Expr} : (Stmt.return_ o).IsRead src := by
  refine Stmt.isRead_of fun n st ws hl hd hf _ => ?_
  obtain ⟨hbody, he⟩ := Bool.and_eq_true_iff.mp hl
  have hd : Expr.depthOf o ≤ n := Nat.le_of_succ_le_succ hd
  rw [reads_keyword hf]
  show Reads src (returnStatement (rules n)) st _
  rw [returnStatement, reads_setting, show st.setting.inFunctionBody = true from hbody, if_pos rfl, reads_here]
  refine (reads_expectKeyword hf).bind fun _ s₁ hp₁ => ?_
  have he₁ : Expr.isLegalOf (.of s₁.setting) o = true := by rw [Ground.of_past hp₁]; exact he
  refine (reads_hasArgument he₁ hp₁.faces).bind fun r s₁ hread => ?_
  obtain ⟨hr, hs⟩ := hread
  subst hr hs
  have hend {u : Tree} {s₂ : Reading} (hu : u.core = Expr.treeOf o)
      (hp₂ : Past src st s₂ (Word.mark ";" :: ws) st.setting.isTarget) :
      Reads src (endStatement >>= fun _ => finish st.start.index "ReturnStatement" [("argument", u)]) s₂ fun u s' =>
        u.core = (Stmt.return_ o).tree ∧ Past src st s' ws st.setting.isTarget := by
    refine (reads_endStatement hp₂.faces).bind fun _ s₃ hp₃ => ?_
    refine (reads_finish _ _ _ rfl).mono fun u' s' hread => ?_
    obtain ⟨hu', hs'⟩ := hread
    refine ⟨?_, hs' ▸ past_keep hp₂ hp₃⟩
    simp only [hu', List.map_cons, List.map_nil, hu]
    rfl
  cases o with
  | none => exact hend rfl hp₁
  | some e =>
    refine (Expr.reads_expression he₁ hd rfl hp₁.faces (closes_mark rfl) rfl).bind fun u s₂ hread => ?_
    obtain ⟨hu, hp₂⟩ := hread
    exact hend hu (past_keep hp₁ hp₂)

theorem throw_isRead : (Stmt.throw_ e).IsRead src := by
  refine Stmt.isRead_of fun n st ws hl hd hf _ => ?_
  rw [reads_keyword hf]
  show Reads src (throwStatement (rules n)) st _
  rw [throwStatement, reads_here]
  refine (reads_expectKeyword hf).bind fun _ s₁ hp₁ => ?_
  have hline : s₁.afterLineEnd = false := by
    obtain ⟨more, hmore⟩ := e.words_eq true (Word.mark ";" :: ws)
    exact hp₁.faces.joined (nameWord true e.head) (by rw [hmore]; rfl) rfl
  rw [reads_get, hline, if_neg Bool.false_ne_true]
  refine (Expr.reads_expression (Ground.of_past hp₁ ▸ hl) (Nat.le_of_succ_le_succ hd) rfl hp₁.faces
    (closes_mark rfl) rfl).bind fun u s₂ hread => ?_
  obtain ⟨hu, hp₂⟩ := hread
  have hp₂ := past_keep hp₁ hp₂
  refine (reads_endStatement hp₂.faces).bind fun _ s₃ hp₃ => ?_
  refine (reads_finish _ _ _ rfl).mono fun u' s' hread => ?_
  obtain ⟨hu', hs'⟩ := hread
  refine ⟨?_, hs' ▸ past_keep hp₂ hp₃⟩
  simp only [hu', List.map_cons, List.map_nil, hu]
  rfl

/-- A name that is bound or refers to a label is read. -/
theorem reads_variableName {x : String} {joined : Bool} {kind : String} (hx : (Ground.of st.setting).allows x = true)
    (hf : Faces src st (nameWord joined x :: ws)) :
    Reads src (variableName kind) st fun u s' =>
      u.core = Tree.identifier x ∧ Past src st s' ws st.setting.isTarget ∧ s'.bound = st.bound := by
  have htype : st.ahead.type = .name := Expr.type_of_faces (e := .name x) hx hf
  have hvalue : st.ahead.value = x := hf.value
  rw [variableName, reads_here]
  refine (reads_next hf).bind fun token s₁ hread => ?_
  obtain ⟨htoken, h⟩ := hread
  have hground : Ground.of s₁.setting = Ground.of st.setting := by rw [h.2.1]
  subst htoken
  rw [reads_setting, htype, hvalue]
  have hawait := Expr.not_await (e := .name x) hx hground id
  rw [show (Expr.name x).head = x from rfl] at hawait
  rw [show (TokenType.name == TokenType.keyword && x == "yield") = false from rfl, if_neg Bool.false_ne_true,
    show (TokenType.name != TokenType.name) = false from rfl, if_neg Bool.false_ne_true, hawait,
    if_neg Bool.false_ne_true]
  refine (Expr.reads_nameNode _ x).mono fun u s' hread => ?_
  obtain ⟨hu, hs⟩ := hread
  exact ⟨hu, hs ▸ .of_next h, hs ▸ h.2.2⟩

/-- The label of a jump is read, if there is one. -/
theorem reads_jumpLabel {o : Option String} (ho : ∀ l ∈ o, (Ground.of st.setting).knows l = true)
    (hf : Faces src st (labelWords o ws)) :
    Reads src jumpLabel st fun u s' =>
      u.core = labelTree o ∧ Past src st s' (Word.mark ";" :: ws) st.setting.isTarget := by
  rw [jumpLabel, hf.seesType, reads_get]
  cases o with
  | none => exact reads_pure ⟨rfl, .refl hf⟩
  | some l =>
    obtain ⟨hname, hknown⟩ := Bool.and_eq_true_iff.mp (ho l rfl)
    have hline : st.afterLineEnd = false := hf.joined (nameWord true l) rfl rfl
    have hlegal : (Expr.name l).isLegal (.of st.setting) = true := hname
    have hfaces : Faces src st ((Expr.name l).words true (Word.mark ";" :: ws)) := hf
    have htype : typeOf (labelWords (some l) ws) = .name := hf.type.symm.trans (Expr.type_of_faces hlegal hfaces)
    rw [htype, hline, show (TokenType.name == TokenType.name && !false) = true from rfl, if_pos rfl]
    refine (reads_variableName hname hf).bind fun u s₁ hread => ?_
    obtain ⟨hu, hp₁, _⟩ := hread
    have hlabel : (u.get "name").str?.getD "" = l := by
      rw [← Tree.str?_core, ← Tree.get_core u rfl, hu]
      rfl
    have hknown₁ : s₁.setting.labels.contains l = true := by
      rw [show s₁.setting.labels = (Ground.of s₁.setting).labels from rfl, Ground.of_past hp₁]
      exact hknown
    dsimp only
    rw [hlabel, reads_setting, hknown₁, if_pos rfl]
    exact reads_pure ⟨hu, hp₁⟩

theorem isNull_of_label {u : Tree} {o : Option String} (hu : u.core = labelTree o) : u.isNull = o.isNone := by
  rw [← Tree.isNull_core, hu]
  cases o <;> rfl

theorem break_isRead {o : Option String} : (Stmt.break_ o).IsRead src := by
  refine Stmt.isRead_of fun n st ws hl _ hf _ => ?_
  have hknows : ∀ l ∈ o, (Ground.of st.setting).knows l = true := by
    rintro l rfl
    exact hl
  have hf : Faces src st (keyword "break" :: labelWords o ws) := hf
  rw [reads_keyword hf]
  show Reads src breakStatement st _
  rw [breakStatement, reads_here]
  refine (reads_expectKeyword hf).bind fun _ s₁ hp₁ => ?_
  refine (reads_jumpLabel (Ground.of_past hp₁ ▸ hknows) hp₁.faces).bind fun u s₂ hread => ?_
  obtain ⟨hu, hp₂⟩ := hread
  have hp₂ := past_keep hp₁ hp₂
  refine (reads_endStatement hp₂.faces).bind fun _ s₃ hp₃ => ?_
  have hp₃ := past_keep hp₂ hp₃
  have hinside : (u.isNull && !s₃.setting.inIteration && !s₃.setting.inSwitch) = false := by
    rw [isNull_of_label hu, show s₃.setting.inIteration = (Ground.of s₃.setting).inIteration from rfl,
      show s₃.setting.inSwitch = (Ground.of s₃.setting).inSwitch from rfl, Ground.of_past hp₃]
    cases o with
    | none =>
      have hl : ((Ground.of st.setting).inIteration || (Ground.of st.setting).inSwitch) = true := hl
      rw [Option.isNone_none, Bool.true_and, ← Bool.not_or, hl]
      rfl
    | some l => rfl
  rw [reads_setting, hinside, if_neg Bool.false_ne_true]
  refine (reads_finish _ _ _ rfl).mono fun u' s' hread => ?_
  obtain ⟨hu', hs'⟩ := hread
  refine ⟨?_, hs' ▸ hp₃⟩
  simp only [hu', List.map_cons, List.map_nil, hu]
  rfl

theorem continue_isRead {o : Option String} : (Stmt.continue_ o).IsRead src := by
  refine Stmt.isRead_of fun n st ws hl _ hf _ => ?_
  have hknows : ∀ l ∈ o, (Ground.of st.setting).knows l = true := by
    rintro l rfl
    exact hl
  have hf : Faces src st (keyword "continue" :: labelWords o ws) := hf
  rw [reads_keyword hf]
  show Reads src continueStatement st _
  rw [continueStatement, reads_here]
  refine (reads_expectKeyword hf).bind fun _ s₁ hp₁ => ?_
  refine (reads_jumpLabel (Ground.of_past hp₁ ▸ hknows) hp₁.faces).bind fun u s₂ hread => ?_
  obtain ⟨hu, hp₂⟩ := hread
  have hp₂ := past_keep hp₁ hp₂
  refine (reads_endStatement hp₂.faces).bind fun _ s₃ hp₃ => ?_
  have hp₃ := past_keep hp₂ hp₃
  have hinside : (u.isNull && !s₃.setting.inIteration) = false := by
    rw [isNull_of_label hu, show s₃.setting.inIteration = (Ground.of s₃.setting).inIteration from rfl,
      Ground.of_past hp₃]
    cases o with
    | none =>
      have hl : (Ground.of st.setting).inIteration = true := hl
      rw [hl]
      rfl
    | some l => rfl
  rw [reads_setting, hinside, if_neg Bool.false_ne_true]
  refine (reads_finish _ _ _ rfl).mono fun u' s' hread => ?_
  obtain ⟨hu', hs'⟩ := hread
  refine ⟨?_, hs' ▸ hp₃⟩
  simp only [hu', List.map_cons, List.map_nil, hu]
  rfl

end Steps

end Deminify.Flow
