import Deminify.Proofs.Flow.Printed
import Deminify.Proofs.Flow.Read
import Deminify.Proofs.Program

/-!
# Programs of control flow

The loops with a head, the handlers and the cases of a `switch` are read like the other statements, so **every
statement is read** (`Deminify.Flow.Stmt.isRead`). What is printed for a program spells its words
(`Deminify.Flow.programOf_isPrinted`), and what spells them is read as that program
(`Deminify.Flow.reads_programOf`). Both are said for whatever stands in a program, so that they also serve one that
consists of a function (`Deminify.Flow.read_back`).
-/

namespace Deminify.Flow

open Token Grammar

section Steps

variable {src : Source} {st s' s'' : Reading} {s : Stmt} {b : Stmts} {e : Expr} {n : Nat} {ws vs : List Word} {t : Bool}

/-! ### Loops with a head -/

/-- A part of the head of a loop, which may be missing, and what is done with it. -/
theorem reads_part {o : Option Expr} {close : String} {k : Tree → Grammar Tree} {Q : Tree → Reading → Prop}
    (he : Expr.isLegalOf (.of st.setting) o = true) (hd : Expr.depthOf o ≤ n)
    (hf : Faces src st (Expr.wordsOf false o (Word.mark close :: ws))) (hclose : [")", ";", ":"].contains close = true)
    (h : ∀ u s', u.core = Expr.treeOf o → Past src st s' (Word.mark close :: ws) st.setting.isTarget →
      Reads src (k u) s' Q) :
    Reads src (do
      if ← sees close then do
        let u ← pure .null
        k u
      else do
        let u ← expression (rules n)
        k u) st Q := by
  rw [hf.sees]
  cases o with
  | none =>
    rw [show begins (Expr.wordsOf false none (Word.mark close :: ws)) .punctuator close = true from begins_mark _ _,
      if_pos rfl]
    exact h .null st rfl (.refl hf)
  | some e =>
    have hcloses : ∀ {v}, [")", ";", ":"].contains v = true →
        [")", ",", ";", ":"].contains v = true ∧ (v == ",") = false := by
      intro v hv
      simp only [List.contains_cons, List.contains_nil, Bool.or_false, Bool.or_eq_true, beq_iff_eq] at hv
      rcases hv with rfl | rfl | rfl <;> decide
    rw [show begins (Expr.wordsOf false (some e) (Word.mark close :: ws)) .punctuator close = false from
      Expr.begins_words he rfl close, if_neg Bool.false_ne_true]
    refine (Expr.reads_expression he hd rfl hf (closes_mark (hcloses hclose).1) (hcloses hclose).2).bind
      fun u s' hread => ?_
    obtain ⟨hu, hp⟩ := hread
    exact h u s' hu hp

/-- The first expression in the head of a loop is read without `in` as an operator. -/
theorem reads_init (he : e.isLegal (.of st.setting) = true) (hd : e.depth ≤ n) (hf : Faces src st (e.words false ws))
    (hc : closes false e.head ws = true) :
    Reads src (withIn false (inherit (rules n .assignment))) st fun u s' =>
      u.core = e.tree ∧ Past src st s' ws (e.isName && st.setting.isTarget) :=
  Reads.withIn ((Expr.isReadBy he hd).inherit (s := st.put (allowing false)) rfl (hf.put rfl) hc)

/-- What starts the head of a loop is no separator, and declares nothing. -/
theorem reads_forHead {Q : ForHead → Reading → Prop} {go : Rules} (he : e.isLegal (.of st.setting) = true)
    (hf : Faces src st (e.words false ws)) (h : Reads src (forExpression go) st Q) : Reads src (forHead go) st Q := by
  rw [forHead]
  refine (reads_accept_none hf (Expr.begins_words he rfl _)).bind fun taken s' hread => ?_
  obtain ⟨htaken, hs⟩ := hread
  subst htaken hs
  rw [if_neg Bool.false_ne_true, hf.seesKeyword, Expr.begins_words he rfl, if_neg Bool.false_ne_true, hf.seesKeyword,
    Expr.begins_words he rfl, hf.seesKeyword, Expr.begins_words he rfl, Bool.or_false, if_neg Bool.false_ne_true]
  exact h

/-- The head of a loop with steps is read up to the first semicolon. -/
theorem reads_forSteps {o : Option Expr} (he : Expr.isLegalOf (.of st.setting) o = true) (hd : Expr.depthOf o ≤ n)
    (hf : Faces src st (Expr.wordsOf false o (Word.mark ";" :: ws))) :
    Reads src (forHead (rules n)) st fun r s' => ∃ u, r = .steps u ∧ u.core = Expr.treeOf o ∧
      Past src st s' ws (Expr.keepsTarget o && st.setting.isTarget) := by
  cases o with
  | none =>
    rw [forHead]
    refine (reads_accept hf).bind fun taken s' hread => ?_
    obtain ⟨htaken, hp⟩ := hread
    subst htaken
    exact reads_pure ⟨_, rfl, rfl, hp⟩
  | some e =>
    refine reads_forHead he hf ?_
    rw [forExpression, reads_get]
    refine (reads_init he hd hf (closes_mark rfl)).bind fun u s₁ hread => ?_
    obtain ⟨hu, hp₁⟩ := hread
    rw [reads_setting, hp₁.faces.seesKeyword, show begins (Word.mark ";" :: ws) .keyword "in" = false from rfl,
      if_neg Bool.false_ne_true, hp₁.faces.seesName, show begins (Word.mark ";" :: ws) .name "of" = false from rfl,
      if_neg Bool.false_ne_true, hp₁.faces.sees, show begins (Word.mark ";" :: ws) .punctuator "," = false from rfl,
      if_neg Bool.false_ne_true]
    exact (reads_expect hp₁.faces).bind fun _ s₂ hp₂ => reads_pure ⟨_, rfl, hu, past_keep hp₁ hp₂⟩

theorem for_isRead {i o u : Option Expr} (hs : s.IsRead src) : (Stmt.for_ i o u s).IsRead src := by
  refine Stmt.isRead_of fun n st ws hl hd hf ho => ?_
  simp only [Stmt.isLegal, Bool.and_eq_true] at hl
  obtain ⟨⟨⟨hli, hlo⟩, hlu⟩, hls⟩ := hl
  have hd : max (max (Expr.depthOf i) (Expr.depthOf o)) (max (Expr.depthOf u) s.depth) ≤ n := Nat.le_of_succ_le_succ hd
  rw [reads_keyword hf]
  show Reads src (forStatement (rules n)) st _
  rw [forStatement, reads_here]
  refine (reads_expectKeyword hf).bind fun _ s₁ hp₁ => ?_
  refine (reads_expect hp₁.faces).bind fun _ s₂ hp₂ => ?_
  have hp₂ := past_keep hp₁ hp₂
  refine (reads_forSteps (Ground.of_past hp₂ ▸ hli) (by omega) hp₂.faces).bind
    fun head s₃ hread => ?_
  obtain ⟨init, hhead, hinit, hp₃⟩ := hread
  subst hhead
  have hp₃ := past_then (f := fun t => Expr.keepsTarget i && t) hp₂ hp₃
  refine reads_part (Ground.of_past hp₃ ▸ hlo) (by omega) hp₃.faces rfl fun test s₄ htest hp₄ => ?_
  have hp₄ := past_keep hp₃ hp₄
  refine (reads_expect hp₄.faces).bind fun _ s₅ hp₅ => ?_
  have hp₅ := past_keep hp₄ hp₅
  refine reads_part (Ground.of_past hp₅ ▸ hlu) (by omega) hp₅.faces rfl fun update s₆ hupdate hp₆ => ?_
  have hp₆ := past_keep hp₅ hp₆
  refine (reads_expect hp₆.faces).bind fun _ s₇ hp₇ => ?_
  have hp₇ := past_keep hp₆ hp₇
  refine (hs.isolated (Ground.of_past hp₇ ▸ hls) (by omega) hp₇.faces ho).bind fun body s₈ hread => ?_
  obtain ⟨hbody, hp₈⟩ := hread
  refine (reads_finish _ _ _ rfl).mono fun u' s' hread => ?_
  obtain ⟨hu', hs'⟩ := hread
  refine ⟨?_, hs' ▸ past_keep hp₇ hp₈⟩
  simp only [hu', List.map_cons, List.map_nil, hinit, htest, hupdate, hbody]
  rfl

/-- A name is its own pattern. -/
theorem asPattern_of_core {u : Tree} {x : String} (h : u.core = Tree.identifier x) : u.asPattern = u := by
  cases u with
  | obj label fields =>
    have hkind : (Tree.obj label fields).kind = "Identifier" := by
      rw [← Tree.kind_core, h]
      rfl
    rw [Tree.asPattern, hkind]
    rfl
  | _ => cases h

theorem Expr.depth_pos (e : Expr) : 0 < e.depth := by
  cases e <;> simp only [Expr.depth] <;> omega

/-- The name in front of the word in the middle of a loop over keys or items. -/
theorem reads_loopName {x : String} {w : Word} (hx : (Ground.of st.setting).allows x = true) (hn : 1 ≤ n)
    (ht : st.setting.isTarget = true) (hf : Faces src st (nameWord false x :: w :: ws))
    (hc : closes false x (w :: ws) = true) :
    Reads src (withIn false (inherit (rules n .assignment))) st fun u s' =>
      u.core = Tree.identifier x ∧ u.isKind "AssignmentExpression" = false ∧ Past src st s' (w :: ws) true := by
  refine (reads_init (e := .name x) hx hn hf hc).mono fun u s₁ hread => ?_
  obtain ⟨hu, hp₁⟩ := hread
  refine ⟨hu, ?_, ?_⟩
  · rw [← Tree.isKind_core, hu]
    rfl
  · rw [ht] at hp₁
    exact hp₁

/-- The head of a loop over keys is read. -/
theorem reads_forKeys {x : String} (hx : (Ground.of st.setting).allows x = true) (ht : st.setting.isTarget = true)
    (he : e.isLegal (.of st.setting) = true) (hd : e.depth ≤ n)
    (hf : Faces src st (nameWord false x :: keyword "in" :: e.words false (Word.mark ")" :: ws))) :
    Reads src (forHead (rules n)) st fun r s' => ∃ u v, r = .within u v ∧ u.core = Tree.identifier x ∧ v.core = e.tree ∧
      Past src st s' (Word.mark ")" :: ws) true := by
  refine reads_forHead (e := .name x) hx hf ?_
  rw [forExpression, reads_get]
  refine (reads_loopName hx (Nat.lt_of_lt_of_le e.depth_pos hd) ht hf rfl).bind fun u s₁ hread => ?_
  obtain ⟨hu, hplain, hp₁⟩ := hread
  rw [reads_setting, hp₁.target, hplain]
  dsimp only
  rw [hp₁.faces.seesKeyword, begins_keyword, if_pos rfl, if_neg (by exact Bool.false_ne_true), asPattern_of_core hu,
    forKeys]
  refine (reads_skip hp₁.faces).bind fun _ s₂ hp₂ => ?_
  have hp₂ := past_keep hp₁ hp₂
  refine (Expr.reads_expression (Ground.of_past hp₂ ▸ he) hd rfl hp₂.faces (closes_mark rfl) rfl).bind
    fun v s₃ hread => ?_
  obtain ⟨hv, hp₃⟩ := hread
  exact reads_pure ⟨u, v, rfl, hu, hv, past_keep hp₂ hp₃⟩

/-- In a loop over items, what follows the name is read up to the end of the head, with no comma. -/
theorem reads_forItems {x : String} (hx : (Ground.of st.setting).allows x = true) (hasync : x ≠ "async")
    (ht : st.setting.isTarget = true) (he : e.isLegal (.of st.setting) = true) (hd : e.depth ≤ n)
    (hf : Faces src st (nameWord false x :: nameWord false "of" :: e.words false (Word.mark ")" :: ws))) :
    Reads src (forHead (rules n)) st fun r s' => ∃ u v, r = .of u v ∧ u.core = Tree.identifier x ∧ v.core = e.tree ∧
      Past src st s' (Word.mark ")" :: ws) e.isName := by
  refine reads_forHead (e := .name x) hx hf ?_
  rw [forExpression, reads_get]
  refine (reads_loopName hx (Nat.lt_of_lt_of_le e.depth_pos hd) ht hf (bne_iff_ne.mpr hasync)).bind
    fun u s₁ hread => ?_
  obtain ⟨hu, hplain, hp₁⟩ := hread
  have hof (ws : List Word) : begins (nameWord false "of" :: ws) .keyword "in" = false ∧
      begins (nameWord false "of" :: ws) .name "of" = true := ⟨rfl, rfl⟩
  rw [reads_setting, hp₁.target, hplain]
  dsimp only
  rw [hp₁.faces.seesKeyword, (hof _).1, if_neg Bool.false_ne_true, hp₁.faces.seesName, (hof _).2, if_pos rfl,
    if_neg (by exact Bool.false_ne_true), asPattern_of_core hu, Grammar.forItems]
  refine (reads_skip hp₁.faces).bind fun _ s₂ hp₂ => ?_
  have hp₂ := past_keep hp₁ hp₂
  refine (Expr.isReadBy (Ground.of_past hp₂ ▸ he) hd rfl hp₂.faces (closes_mark rfl)).bind
    fun v s₃ hread => ?_
  obtain ⟨hv, hp₃⟩ := hread
  have hp₃ := past_then (f := fun t => e.isName && t) hp₂ hp₃
  rw [Bool.and_true] at hp₃
  exact reads_pure ⟨u, v, rfl, hu, hv, hp₃⟩

theorem forIn_isRead {x : String} (hs : s.IsRead src) : (Stmt.forIn x e s).IsRead src := by
  refine Stmt.isRead_of fun n st ws hl hd hf ho => ?_
  simp only [Stmt.isLegal, Bool.and_eq_true] at hl
  obtain ⟨⟨⟨ht, hx⟩, he⟩, hls⟩ := hl
  have hd : max e.depth s.depth ≤ n := Nat.le_of_succ_le_succ hd
  rw [reads_keyword hf]
  show Reads src (forStatement (rules n)) st _
  rw [forStatement, reads_here]
  refine (reads_expectKeyword hf).bind fun _ s₁ hp₁ => ?_
  refine (reads_expect hp₁.faces).bind fun _ s₂ hp₂ => ?_
  have hp₂ := past_keep hp₁ hp₂
  refine (reads_forKeys (Ground.of_past hp₂ ▸ hx) (hp₂.target.trans ht) (Ground.of_past hp₂ ▸ he)
    (by omega) hp₂.faces).bind fun head s₃ hread => ?_
  obtain ⟨left, right, hhead, hleft, hright, hp₃⟩ := hread
  subst hhead
  have hp₃ := hp₂.trans hp₃
  refine (reads_expect hp₃.faces).bind fun _ s₄ hp₄ => ?_
  have hp₄ := past_keep hp₃ hp₄
  refine (hs.isolated (Ground.of_past hp₄ ▸ hls) (by omega) hp₄.faces ho).bind fun body s₅ hread => ?_
  obtain ⟨hbody, hp₅⟩ := hread
  have hp₅ := past_keep hp₄ hp₅
  refine (reads_finish _ _ _ rfl).mono fun u' s' hread => ?_
  obtain ⟨hu', hs'⟩ := hread
  refine ⟨?_, ?_⟩
  · simp only [hu', List.map_cons, List.map_nil, hleft, hright, hbody]
    rfl
  · rw [hs', show (Stmt.forIn x e s).target st.setting.isTarget = true from ht]
    exact hp₅

theorem forOf_isRead {x : String} (hs : s.IsRead src) : (Stmt.forOf x e s).IsRead src := by
  refine Stmt.isRead_of fun n st ws hl hd hf ho => ?_
  simp only [Stmt.isLegal, Bool.and_eq_true, bne_iff_ne] at hl
  obtain ⟨⟨⟨⟨ht, hx⟩, hasync⟩, he⟩, hls⟩ := hl
  have hd : max e.depth s.depth ≤ n := Nat.le_of_succ_le_succ hd
  rw [reads_keyword hf]
  show Reads src (forStatement (rules n)) st _
  rw [forStatement, reads_here]
  refine (reads_expectKeyword hf).bind fun _ s₁ hp₁ => ?_
  refine (reads_expect hp₁.faces).bind fun _ s₂ hp₂ => ?_
  have hp₂ := past_keep hp₁ hp₂
  refine (reads_forItems (Ground.of_past hp₂ ▸ hx) hasync (hp₂.target.trans ht)
    (Ground.of_past hp₂ ▸ he) (by omega) hp₂.faces).bind
    fun head s₃ hread => ?_
  obtain ⟨left, right, hhead, hleft, hright, hp₃⟩ := hread
  subst hhead
  have hp₃ := hp₂.trans hp₃
  refine (reads_expect hp₃.faces).bind fun _ s₄ hp₄ => ?_
  have hp₄ := past_keep hp₃ hp₄
  refine (hs.isolated (Ground.of_past hp₄ ▸ hls) (by omega) hp₄.faces ho).bind fun body s₅ hread => ?_
  obtain ⟨hbody, hp₅⟩ := hread
  have hp₅ := past_keep hp₄ hp₅
  refine (reads_finish _ _ _ rfl).mono fun u' s' hread => ?_
  obtain ⟨hu', hs'⟩ := hread
  refine ⟨?_, ?_⟩
  · simp only [hu', List.map_cons, List.map_nil, hleft, hright, hbody]
    rfl
  · rw [hs', show (Stmt.forOf x e s).target st.setting.isTarget = (e.isName && st.setting.isTarget) from rfl, ht,
      Bool.and_true]
    exact hp₅

/-! ### Handlers -/

/-- The state with other names noted as bound. -/
def noting (st : Reading) (bound : Array Token) : Reading := { st with bound }

theorem faces_noting (hf : Faces src st ws) (bound : Array Token) : Faces src (noting st bound) ws :=
  ⟨hf.type, hf.value, hf.line, hf.joined, hf.blocks, hf.spells⟩

/-- The parameter of a handler is a name, and binds nothing else. -/
theorem reads_param {x : String} {go : Rules} (hx : (Ground.of st.setting).allows x = true)
    (hf : Faces src st (nameWord false x :: ws)) :
    Reads src (collecting (Grammar.pattern go "")) st fun r s' =>
      r.1.core = Tree.identifier x ∧ (∃ token, r.2 = [token]) ∧ Past src st s' ws st.setting.isTarget := by
  have hf₀ : Faces src (noting st #[]) ((Expr.name x).words false ws) := faces_noting hf _
  have hpattern : Reads src (Grammar.pattern go "") (noting st #[]) fun u s' => u.core = Tree.identifier x ∧
      Past src st s' ws st.setting.isTarget ∧ s'.bound = #[st.ahead] := by
    rw [Grammar.pattern, hf₀.sees, Expr.begins_words (e := .name x) hx rfl, if_neg Bool.false_ne_true, hf₀.sees,
      Expr.begins_words (e := .name x) hx rfl, if_neg Bool.false_ne_true, reads_get, hf₀.seesKeyword,
      Expr.begins_words (e := .name x) hx rfl, Bool.false_and, if_neg Bool.false_ne_true, noteBound, reads_modify]
    have hf₁ : Faces src (noting st #[st.ahead]) (nameWord false x :: ws) := faces_noting hf _
    have hread : Reads src (variableName "") (noting st #[st.ahead]) _ := reads_variableName hx hf₁
    refine hread.mono fun u s' hread => ?_
    obtain ⟨hu, hp, hbound⟩ := hread
    exact ⟨hu, ⟨hp.faces, hp.setting⟩, hbound⟩
  rw [collecting, reads_get, reads_modify]
  refine Reads.bind hpattern fun u s₁ hread => ?_
  obtain ⟨hu, hp, hbound⟩ := hread
  rw [reads_get, reads_modify, hbound]
  exact reads_pure ⟨hu, ⟨_, rfl⟩, faces_noting hp.faces _, hp.setting⟩

/-- A handler is read: its name, and a block. -/
theorem reads_catchClause {x : String} (hb : b.IsRead src) (hx : (Ground.of st.setting).binds x = true)
    (hl : b.isLegal (.of st.setting) = true) (hd : b.depth ≤ n)
    (hf : Faces src st
      (keyword "catch" :: Word.mark "(" :: nameWord false x :: Word.mark ")" :: blockWords b.words ws)) :
    Reads src (catchClause (rules n)) st fun u s' =>
      u.core = handlerTree x b.trees ∧ Past src st s' ws (b.target st.setting.isTarget) := by
  obtain ⟨hname, hfree⟩ := Bool.and_eq_true_iff.mp hx
  rw [catchClause, reads_here]
  refine (reads_expectKeyword hf).bind fun _ s₁ hp₁ => ?_
  refine (reads_expect hp₁.faces).bind fun _ s₂ hp₂ => ?_
  have hp₂ := past_keep hp₁ hp₂
  have hname₂ : (Ground.of s₂.setting).allows x = true := by rw [Ground.of_past hp₂]; exact hname
  have hf₂ : Faces src s₂ ((Expr.name x).words false (Word.mark ")" :: blockWords b.words ws)) := hp₂.faces
  rw [hf₂.sees, Expr.begins_words (e := .name x) hname₂ rfl, if_neg Bool.false_ne_true]
  refine (reads_param hname₂ hp₂.faces).bind fun r s₃ hread => ?_
  obtain ⟨hparam, ⟨token, htoken⟩, hp₃⟩ := hread
  have hp₃ := past_keep hp₂ hp₃
  have hstrict : (s₃.setting.strict && r.1.isKind "Identifier" &&
      (r.1.get "name").str?.any isRestricted) = false := by
    have hvalue : (r.1.get "name").str? = some x := by
      rw [← Tree.str?_core, ← Tree.get_core r.1 rfl, hparam]
      rfl
    have hground : s₃.setting.strict = st.setting.strict := congrArg Ground.strict (Ground.of_past hp₃)
    have hfree : (st.setting.strict && isRestricted x) = false := by
      rw [← Bool.not_eq_true']
      exact hfree
    rw [hvalue, hground, Option.any_some, Bool.and_right_comm, hfree, Bool.false_and]
  obtain ⟨param, tokens⟩ := r
  obtain rfl : tokens = [token] := htoken
  dsimp only at hstrict hparam ⊢
  rw [show firstRepeated [token] [] = none from rfl]
  dsimp only
  rw [reads_setting, hstrict, if_neg Bool.false_ne_true]
  refine (reads_expect hp₃.faces).bind fun _ s₄ hp₄ => ?_
  have hp₄ := past_keep hp₃ hp₄
  refine (reads_block hb (Ground.of_past hp₄ ▸ hl) hd hp₄.faces).bind fun body s₅ hread => ?_
  obtain ⟨hbody, hp₅⟩ := hread
  refine (reads_finish _ _ _ rfl).mono fun u' s' hread => ?_
  obtain ⟨hu', hs'⟩ := hread
  refine ⟨?_, hs' ▸ past_then hp₄ hp₅⟩
  simp only [hu', List.map_cons, List.map_nil, hparam, hbody]
  rfl

section Try

variable {x : String} {h f : Stmts}

/-- A `finally` is read with its keyword. -/
theorem reads_finalizer {k : Tree → Grammar Tree} {Q : Tree → Reading → Prop} (hf : f.IsRead src)
    (hl : f.isLegal (.of st.setting) = true) (hd : f.depth ≤ n)
    (hfaces : Faces src st (keyword "finally" :: blockWords f.words ws))
    (hk : ∀ u s', u.core = blockTree f.trees → Past src st s' ws (f.target st.setting.isTarget) →
      Reads src (k u) s' Q) :
    Reads src (do
      if ← seesKeyword "finally" then do
        skip
        let u ← block (rules n)
        k u
      else do
        let u ← pure .null
        k u) st Q := by
  rw [hfaces.seesKeyword, begins_keyword, if_pos rfl]
  refine (reads_skip hfaces).bind fun _ s₁ hp₁ => ?_
  refine (reads_block hf (Ground.of_past hp₁ ▸ hl) hd hp₁.faces).bind
    fun u s₂ hread => ?_
  obtain ⟨hu, hp₂⟩ := hread
  exact hk u s₂ hu (past_then hp₁ hp₂)

theorem isNull_handler {u : Tree} (h : u.core = handlerTree x b.trees) : u.isNull = false := by
  rw [← Tree.isNull_core, h]
  rfl

theorem isNull_block {u : Tree} (h : u.core = blockTree b.trees) : u.isNull = false := by
  rw [← Tree.isNull_core, h]
  rfl

theorem tryCatch_isRead (hb : b.IsRead src) (hh : h.IsRead src) : (Stmt.tryCatch b x h).IsRead src := by
  refine Stmt.isRead_of fun n st ws hl hd hf ho => ?_
  simp only [Stmt.isLegal, Bool.and_eq_true] at hl
  obtain ⟨⟨hlb, hx⟩, hlh⟩ := hl
  have hd : max b.depth h.depth ≤ n := Nat.le_of_succ_le_succ hd
  rw [reads_keyword hf]
  show Reads src (tryStatement (rules n)) st _
  rw [tryStatement, reads_here]
  refine (reads_expectKeyword hf).bind fun _ s₁ hp₁ => ?_
  refine (reads_block hb (Ground.of_past hp₁ ▸ hlb) (by omega) hp₁.faces).bind fun body s₂ hread => ?_
  obtain ⟨hbody, hp₂⟩ := hread
  have hp₂ := past_then hp₁ hp₂
  rw [hp₂.faces.seesKeyword, begins_keyword, if_pos rfl]
  refine (reads_catchClause hh (Ground.of_past hp₂ ▸ hx) (Ground.of_past hp₂ ▸ hlh) (by omega)
    hp₂.faces).bind fun handler s₃ hread => ?_
  obtain ⟨hhandler, hp₃⟩ := hread
  have hp₃ := past_then hp₂ hp₃
  dsimp only
  rw [hp₃.faces.seesKeyword, ho.2, if_neg Bool.false_ne_true, isNull_handler hhandler, pure_bind, Bool.false_and,
    if_neg Bool.false_ne_true]
  refine (reads_finish _ _ _ rfl).mono fun u' s' hread => ?_
  obtain ⟨hu', hs'⟩ := hread
  refine ⟨?_, hs' ▸ hp₃⟩
  simp only [hu', List.map_cons, List.map_nil, hbody, hhandler]
  rfl

theorem tryFinally_isRead (hb : b.IsRead src) (hh : f.IsRead src) : (Stmt.tryFinally b f).IsRead src := by
  refine Stmt.isRead_of fun n st ws hl hd hf ho => ?_
  obtain ⟨hlb, hlf⟩ := Bool.and_eq_true_iff.mp hl
  have hd : max b.depth f.depth ≤ n := Nat.le_of_succ_le_succ hd
  rw [reads_keyword hf]
  show Reads src (tryStatement (rules n)) st _
  rw [tryStatement, reads_here]
  refine (reads_expectKeyword hf).bind fun _ s₁ hp₁ => ?_
  refine (reads_block hb (Ground.of_past hp₁ ▸ hlb) (by omega) hp₁.faces).bind fun body s₂ hread => ?_
  obtain ⟨hbody, hp₂⟩ := hread
  have hp₂ := past_then hp₁ hp₂
  rw [hp₂.faces.seesKeyword, show begins (keyword "finally" :: blockWords f.words ws) .keyword "catch" = false from rfl,
    if_neg Bool.false_ne_true]
  refine reads_finalizer hh (Ground.of_past hp₂ ▸ hlf) (by omega) hp₂.faces fun u s₃ hu hp₃ => ?_
  have hp₃ := past_then hp₂ hp₃
  rw [isNull_block hu, Bool.and_false, if_neg Bool.false_ne_true]
  refine (reads_finish _ _ _ rfl).mono fun u' s' hread => ?_
  obtain ⟨hu', hs'⟩ := hread
  refine ⟨?_, hs' ▸ hp₃⟩
  simp only [hu', List.map_cons, List.map_nil, hbody, hu]
  rfl

theorem tryBoth_isRead (hb : b.IsRead src) (hh : h.IsRead src) (hf' : f.IsRead src) :
    (Stmt.tryBoth b x h f).IsRead src := by
  refine Stmt.isRead_of fun n st ws hl hd hf ho => ?_
  simp only [Stmt.isLegal, Bool.and_eq_true] at hl
  obtain ⟨⟨⟨hlb, hx⟩, hlh⟩, hlf⟩ := hl
  have hd : max b.depth (max h.depth f.depth) ≤ n := Nat.le_of_succ_le_succ hd
  rw [reads_keyword hf]
  show Reads src (tryStatement (rules n)) st _
  rw [tryStatement, reads_here]
  refine (reads_expectKeyword hf).bind fun _ s₁ hp₁ => ?_
  refine (reads_block hb (Ground.of_past hp₁ ▸ hlb) (by omega) hp₁.faces).bind fun body s₂ hread => ?_
  obtain ⟨hbody, hp₂⟩ := hread
  have hp₂ := past_then hp₁ hp₂
  rw [hp₂.faces.seesKeyword, begins_keyword, if_pos rfl]
  refine (reads_catchClause hh (Ground.of_past hp₂ ▸ hx) (Ground.of_past hp₂ ▸ hlh) (by omega)
    hp₂.faces).bind fun handler s₃ hread => ?_
  obtain ⟨hhandler, hp₃⟩ := hread
  have hp₃ := past_then hp₂ hp₃
  refine reads_finalizer hf' (Ground.of_past hp₃ ▸ hlf) (by omega) hp₃.faces fun u s₄ hu hp₄ => ?_
  have hp₄ := past_then hp₃ hp₄
  rw [isNull_block hu, Bool.and_false, if_neg Bool.false_ne_true]
  refine (reads_finish _ _ _ rfl).mono fun u' s' hread => ?_
  obtain ⟨hu', hs'⟩ := hread
  refine ⟨?_, hs' ▸ hp₄⟩
  simp only [hu', List.map_cons, List.map_nil, hbody, hhandler, hu]
  rfl

end Try

/-! ### Cases -/

section Cases

variable {o : Option Expr} {cases : Cases}

/-- **Whether the cases of a `switch` are read** up to the closing brace. There is one default at most. -/
def Cases.IsRead (src : Source) (cases : Cases) : Prop :=
  ∀ ⦃n st ws fuel hasDefault found⦄, cases.isLegal (.of st.setting) = true → cases.depth ≤ n →
    cases.defaults + hasDefault.toNat ≤ 1 → Faces src st (cases.words (Word.mark "\x7d" :: ws)) →
      (cases.words (Word.mark "\x7d" :: ws)).length ≤ fuel →
        Reads src (moreCases (rules n) fuel hasDefault found) st fun us s' =>
          us.map Tree.core = found.toList.map Tree.core ++ cases.trees ∧
            Past src st s' (Word.mark "\x7d" :: ws) (cases.target st.setting.isTarget)

/-- A case ends in front of another one, or of the closing brace. -/
def EndsCase (ws : List Word) : Prop :=
  (begins ws .punctuator "\x7d" || begins ws .keyword "default" || begins ws .keyword "case") = true ∧
    begins ws .keyword "else" = false ∧ begins ws .keyword "finally" = false

/-- Behind a case comes another one, or the end. -/
theorem Cases.endsCase (cases : Cases) (ws : List Word) : EndsCase (cases.words (Word.mark "\x7d" :: ws)) := by
  cases cases with
  | nil => exact ⟨rfl, rfl, rfl⟩
  | cons o b rest => cases o <;> exact ⟨rfl, rfl, rfl⟩

/-- **A case is read** with its statements. -/
theorem reads_switchCase (ho : Expr.isLegalOf (.of st.setting) o = true) (hb : b.IsRead src)
    (hl : b.isLegal (.of st.setting) = true) (hd : max (Expr.depthOf o) b.depth ≤ n) (hends : EndsCase ws)
    (hf : Faces src st (caseWords o (b.words ws))) :
    Reads src (switchCase (rules n)) st fun u s' =>
      u.core = .node "SwitchCase" [("test", Expr.treeOf o), ("consequent", .list b.trees)] ∧
        Past src st s' ws (b.target st.setting.isTarget) := by
  -- behind its head a case is read alike, whether it has a test or is the default
  have hbody {test : Tree} {s₁ : Reading} (htest : test.core = Expr.treeOf o)
      (hp₁ : Past src st s₁ (Word.mark ":" :: b.words ws) st.setting.isTarget) :
      Reads src (do
        expect ":"
        let consequent ← many do
          if (← sees "\x7d") || (← seesKeyword "default") || (← seesKeyword "case") then return none
          return some (← rules n .item)
        finish st.start.index "SwitchCase" [("test", test), ("consequent", .list consequent)]) s₁ fun u s' =>
        u.core = .node "SwitchCase" [("test", Expr.treeOf o), ("consequent", .list b.trees)] ∧
          Past src st s' ws (b.target st.setting.isTarget) := by
    refine (reads_expect hp₁.faces).bind fun _ s₂ hp₂ => ?_
    have hp₂ := past_keep hp₁ hp₂
    refine Reads.bind (Q := fun us s₃ => us.map Tree.core = b.trees ∧ Past src s₂ s₃ ws (b.target s₂.setting.isTarget))
      (reads_many (hb (n := n) ?_ ?_ hends.2.1 hends.2.2 (Ground.of_past hp₂ ▸ hl) (by omega) hp₂.faces ?_))
      fun us s₃ hread => ?_
    · intro s hs
      rw [hs.sees, hs.seesKeyword, hs.seesKeyword, hends.1, if_pos rfl]
      exact reads_pure ⟨rfl, rfl⟩
    · intro g t s vs st Q hs hf h
      rw [hf.sees, hf.seesKeyword, hf.seesKeyword, (Stmt.begins_words hs vs).2 (by decide),
        (Stmt.begins_words hs vs).1 (by decide), (Stmt.begins_words hs vs).1 (by decide), if_neg (by decide)]
      exact h.bind fun u s' hu => reads_pure ⟨u, rfl, hu⟩
    · have := hp₂.faces.length_le
      omega
    · obtain ⟨hus, hp₃⟩ := hread
      refine (reads_finish _ _ _ rfl).mono fun u' s' hread => ?_
      obtain ⟨hu', hs'⟩ := hread
      refine ⟨?_, hs' ▸ past_then hp₂ hp₃⟩
      simp only [hu', List.map_cons, List.map_nil, Tree.core_list, htest, hus]
  rw [switchCase, reads_here, hf.seesKeyword]
  cases o with
  | none =>
    rw [show begins (caseWords none (b.words ws)) .keyword "default" = true from begins_keyword _ _, if_pos rfl]
    exact (reads_skip hf).bind fun _ s₁ hp₁ => hbody rfl hp₁
  | some e =>
    rw [show begins (caseWords (some e) (b.words ws)) .keyword "default" = false from rfl, if_neg Bool.false_ne_true]
    refine (reads_expectKeyword hf).bind fun _ s₁ hp₁ => ?_
    have hd : max e.depth b.depth ≤ n := hd
    refine (Expr.reads_expression (Ground.of_past hp₁ ▸ ho) (by omega) rfl hp₁.faces (closes_mark rfl) rfl).bind
      fun u s₂ hread => ?_
    obtain ⟨hu, hp₂⟩ := hread
    exact hbody hu (past_keep hp₁ hp₂)

theorem Cases.nil_isRead : Cases.nil.IsRead src := by
  intro n st ws fuel hasDefault found _ _ _ hf hfuel
  obtain ⟨fuel, rfl⟩ : ∃ k, fuel = k + 1 := ⟨fuel - 1, by rw [Cases.words, List.length_cons] at hfuel; omega⟩
  have hf : Faces src st (Word.mark "\x7d" :: ws) := hf
  rw [moreCases, hf.sees, begins_mark, if_pos rfl]
  exact reads_pure ⟨(List.append_nil _).symm, .refl hf⟩

theorem Cases.cons_isRead (hb : b.IsRead src) (hcases : cases.IsRead src)
    (hlonger : ∀ ws, ws.length ≤ (b.words ws).length) : (Cases.cons o b cases).IsRead src := by
  intro n st ws fuel hasDefault found hl hd hone hf hfuel
  simp only [Cases.isLegal, Bool.and_eq_true] at hl
  obtain ⟨⟨hlo, hlb⟩, hlc⟩ := hl
  have hd : max (Expr.depthOf o) (max b.depth cases.depth) ≤ n := hd
  have hf : Faces src st (caseWords o (b.words (cases.words (Word.mark "\x7d" :: ws)))) := hf
  have hfuel : (caseWords o (b.words (cases.words (Word.mark "\x7d" :: ws)))).length ≤ fuel := hfuel
  have hless : (cases.words (Word.mark "\x7d" :: ws)).length < fuel := by
    have := hlonger (cases.words (Word.mark "\x7d" :: ws))
    cases o with
    | none =>
      rw [caseWords, List.length_cons, List.length_cons] at hfuel
      omega
    | some e =>
      have := e.length_words false (Word.mark ":" :: b.words (cases.words (Word.mark "\x7d" :: ws)))
      rw [caseWords, List.length_cons] at hfuel
      rw [List.length_cons] at this
      omega
  obtain ⟨fuel, rfl⟩ : ∃ k, fuel = k + 1 := ⟨fuel - 1, by omega⟩
  have hopen : begins (caseWords o (b.words (cases.words (Word.mark "\x7d" :: ws)))) .punctuator "\x7d" = false := by
    cases o <;> rfl
  rw [moreCases, hf.sees, hopen, if_neg Bool.false_ne_true]
  refine (reads_switchCase hlo hb hlb (by omega) (cases.endsCase ws) hf).bind fun clause s₁ hread => ?_
  obtain ⟨hclause, hp₁⟩ := hread
  have hdefault : (clause.get "test").isNull = o.isNone := by
    rw [← Tree.isNull_core, ← Tree.get_core clause rfl, hclause]
    cases o with
    | none => rfl
    | some e => cases e <;> rfl
  have hdefaults : (Cases.cons o b cases).defaults = cases.defaults + o.isNone.toNat := by
    cases o <;> rfl
  rw [hdefaults] at hone
  have honce : (o.isNone && hasDefault) = false := by
    cases o <;> cases hasDefault <;> first | rfl | (simp at hone)
  dsimp only
  rw [hdefault, honce, if_neg Bool.false_ne_true]
  refine (hcases (Ground.of_past hp₁ ▸ hlc) (by omega) ?_ hp₁.faces (by omega)).mono
    fun us s' hread => ⟨?_, past_then hp₁ hread.2⟩
  · have : (hasDefault || o.isNone).toNat ≤ o.isNone.toNat + hasDefault.toNat := by
      cases hasDefault <;> cases o.isNone <;> decide
    omega
  · rw [hread.1, Array.toList_push, List.map_append, List.append_assoc, Cases.trees, ← hclause]
    rfl

/-- The setting in the cases of a `switch`. -/
def switching (σ : Setting) : Setting := { σ with inSwitch := true }

theorem switch_isRead (hcases : cases.IsRead src) : (Stmt.switch e cases).IsRead src := by
  refine Stmt.isRead_of fun n st ws hl hd hf ho => ?_
  simp only [Stmt.isLegal, Bool.and_eq_true, decide_eq_true_eq] at hl
  obtain ⟨⟨he, hlc⟩, hone⟩ := hl
  have hd : max e.depth cases.depth ≤ n := Nat.le_of_succ_le_succ hd
  rw [reads_keyword hf]
  show Reads src (switchStatement (rules n)) st _
  rw [switchStatement, reads_here]
  refine (reads_expectKeyword hf).bind fun _ s₁ hp₁ => ?_
  refine (reads_condition (Ground.of_past hp₁ ▸ he) (by omega) hp₁.faces).bind fun test s₂ hread => ?_
  obtain ⟨htest, hp₂⟩ := hread
  have hp₂ := past_keep hp₁ hp₂
  rw [reads_setting, reads_adjust]
  have hf₂ : Faces src (s₂.put switching) (blockWords cases.words ws) := hp₂.faces.put rfl
  refine Reads.bind
    (Q := fun _ s₃ => Past src (s₂.put switching) s₃ (cases.words (Word.mark "\x7d" :: ws)) s₂.setting.isTarget)
    (reads_expect hf₂) fun _ s₃ hp₃ => ?_
  rw [reads_source]
  have hground : Ground.of s₃.setting = (Ground.of st.setting).switch := by
    rw [Ground.of_past hp₃, ← Ground.of_past hp₂]
    rfl
  refine (hcases (by rw [hground]; exact hlc) (by omega) (by simpa using hone) hp₃.faces hp₃.faces.length_le).bind
    fun us s₄ hread => ?_
  obtain ⟨hus, hp₄⟩ := hread
  have hp₄ := past_then hp₃ hp₄
  refine (reads_expect hp₄.faces).bind fun _ s₅ hp₅ => ?_
  have hp₅ := past_keep hp₄ hp₅
  rw [reads_adjust]
  refine (reads_finish _ _ _ rfl).mono fun u' s' hread => ?_
  obtain ⟨hu', hs'⟩ := hread
  refine ⟨?_, ?_⟩
  · simp only [hu', List.map_cons, List.map_nil, Tree.core_list, htest, hus]
    rfl
  · subst hs'
    refine past_then hp₂ ⟨hp₅.faces.put rfl, ?_⟩
    obtain ⟨x, hx⟩ := hp₅.setting
    refine ⟨x, ?_⟩
    show ({ s₅.setting with inSwitch := _ } : Setting) = _
    rw [hx]
    rfl

end Cases

/-! ### Whole statements -/

theorem length_conditionWords (e : Expr) (ws : List Word) : ws.length < (conditionWords e ws).length := by
  have h := e.length_words false (Word.mark ")" :: ws)
  rw [List.length_cons] at h
  rw [conditionWords, List.length_cons]
  omega

theorem length_wordsOf (o : Option Expr) (joined : Bool) (ws : List Word) :
    ws.length ≤ (Expr.wordsOf joined o ws).length := by
  cases o with
  | none => exact Nat.le_refl _
  | some e => exact (e.length_words joined ws).le

theorem length_blockWords {body : List Word → List Word} (h : ∀ ws, ws.length ≤ (body ws).length) (ws : List Word) :
    ws.length < (blockWords body ws).length := by
  have h := h (Word.mark "\x7d" :: ws)
  rw [List.length_cons] at h
  rw [blockWords, List.length_cons]
  omega

theorem length_labelWords (o : Option String) (ws : List Word) : ws.length < (labelWords o ws).length := by
  cases o <;> simp only [labelWords, List.length_cons] <;> omega

theorem length_caseWords (o : Option Expr) (ws : List Word) : ws.length < (caseWords o ws).length := by
  cases o with
  | none =>
    rw [caseWords, List.length_cons, List.length_cons]
    omega
  | some e =>
    have h := e.length_words false (Word.mark ":" :: ws)
    rw [List.length_cons] at h
    rw [caseWords, List.length_cons]
    omega

mutual

/-- Every statement has words of its own. -/
theorem Stmt.length_words : ∀ (s : Stmt) (ws : List Word), ws.length < (s.words ws).length
  | .block b, ws => length_blockWords b.length_words ws
  | .empty, ws => Nat.lt_succ_self ws.length
  | .expression e, ws => (Nat.lt_succ_self ws.length).trans (e.length_words false (Word.mark ";" :: ws))
  | .return_ o, ws => by
    have h := length_wordsOf o true (Word.mark ";" :: ws)
    simp only [Stmt.words, List.length_cons] at h ⊢
    omega
  | .throw_ e, ws => by
    have h := e.length_words true (Word.mark ";" :: ws)
    simp only [Stmt.words, List.length_cons] at h ⊢
    omega
  | .break_ o, ws | .continue_ o, ws => (length_labelWords o ws).trans (Nat.lt_succ_self _)
  | .labeled l s, ws => (s.length_words ws).trans ((Nat.lt_succ_self _).trans (Nat.lt_succ_self _))
  | .if_ e s, ws | .while_ e s, ws | .with_ e s, ws =>
    ((s.length_words ws).trans (length_conditionWords e _)).trans (Nat.lt_succ_self _)
  | .ifElse e s s', ws => by
    -- from the last part to the first, each with the words of those behind it after its own
    have hs' := s'.length_words ws
    have hs := s.length_words (keyword "else" :: s'.words ws)
    have he := length_conditionWords e (s.words (keyword "else" :: s'.words ws))
    simp only [Stmt.words, List.length_cons] at hs ⊢
    omega
  | .for_ i o u s, ws => by
    have hs := s.length_words ws
    have hu := length_wordsOf u false (Word.mark ")" :: s.words ws)
    have ho := length_wordsOf o false (Word.mark ";" :: Expr.wordsOf false u (Word.mark ")" :: s.words ws))
    have hi := length_wordsOf i false (Word.mark ";" :: Expr.wordsOf false o
      (Word.mark ";" :: Expr.wordsOf false u (Word.mark ")" :: s.words ws)))
    simp only [Stmt.words, List.length_cons] at hu ho hi ⊢
    omega
  | .forIn x e s, ws | .forOf x e s, ws => by
    have hs := s.length_words ws
    have he := e.length_words false (Word.mark ")" :: s.words ws)
    simp only [Stmt.words, List.length_cons] at he ⊢
    omega
  | .doWhile s e, ws => by
    have he := length_conditionWords e (Word.mark ";" :: ws)
    have hs := s.length_words (keyword "while" :: conditionWords e (Word.mark ";" :: ws))
    simp only [Stmt.words, List.length_cons] at he hs ⊢
    omega
  | .tryCatch b x h, ws => by
    have hh := length_blockWords h.length_words ws
    have hb := length_blockWords b.length_words
      (keyword "catch" :: Word.mark "(" :: nameWord false x :: Word.mark ")" :: blockWords h.words ws)
    simp only [Stmt.words, List.length_cons] at hb ⊢
    omega
  | .tryFinally b f, ws => by
    have hf := length_blockWords f.length_words ws
    have hb := length_blockWords b.length_words (keyword "finally" :: blockWords f.words ws)
    simp only [Stmt.words, List.length_cons] at hb ⊢
    omega
  | .tryBoth b x h f, ws => by
    have hf := length_blockWords f.length_words ws
    have hh := length_blockWords h.length_words (keyword "finally" :: blockWords f.words ws)
    have hb := length_blockWords b.length_words
      (keyword "catch" :: Word.mark "(" :: nameWord false x :: Word.mark ")" ::
        blockWords h.words (keyword "finally" :: blockWords f.words ws))
    simp only [Stmt.words, List.length_cons] at hh hb ⊢
    omega
  | .switch e cases, ws =>
    ((length_blockWords cases.length_words ws).trans (length_conditionWords e _)).trans (Nat.lt_succ_self _)

theorem Stmts.length_words : ∀ (b : Stmts) (ws : List Word), ws.length ≤ (b.words ws).length
  | .nil, ws => Nat.le_refl ws.length
  | .cons s rest, ws => (rest.length_words ws).trans (s.length_words _).le

theorem Cases.length_words : ∀ (cases : Cases) (ws : List Word), ws.length ≤ (cases.words ws).length
  | .nil, ws => Nat.le_refl ws.length
  | .cons o b rest, ws => ((rest.length_words ws).trans (b.length_words _)).trans (length_caseWords o _).le

end

mutual

/-- **Every statement is read**, wherever it may stand. -/
theorem Stmt.isRead : ∀ (s : Stmt), s.IsRead src
  | .block b => block_isRead b.isRead
  | .empty => empty_isRead
  | .expression _ => expression_isRead
  | .return_ _ => return_isRead
  | .throw_ _ => throw_isRead
  | .break_ _ => break_isRead
  | .continue_ _ => continue_isRead
  | .labeled _ s => labeled_isRead s.isRead
  | .if_ _ s => if_isRead s.isRead
  | .ifElse _ s s' => ifElse_isRead s.isRead s'.isRead
  | .for_ _ _ _ s => for_isRead s.isRead
  | .forIn _ _ s => forIn_isRead s.isRead
  | .forOf _ _ s => forOf_isRead s.isRead
  | .while_ _ s => while_isRead s.isRead
  | .doWhile s _ => doWhile_isRead s.isRead
  | .with_ _ s => with_isRead s.isRead
  | .tryCatch b _ h => tryCatch_isRead b.isRead h.isRead
  | .tryFinally b f => tryFinally_isRead b.isRead f.isRead
  | .tryBoth b _ h f => tryBoth_isRead b.isRead h.isRead f.isRead
  | .switch _ cases => switch_isRead cases.isRead

theorem Stmts.isRead : ∀ (b : Stmts), b.IsRead src
  | .nil => Stmts.nil_isRead
  | .cons s rest => Stmts.cons_isRead s.isRead rest.isRead s.length_words

theorem Cases.isRead : ∀ (cases : Cases), cases.IsRead src
  | .nil => Cases.nil_isRead
  | .cons _ b rest => Cases.cons_isRead b.isRead rest.isRead b.length_words

end

end Steps

/-! ### Programs -/

section Program

/-- The setting in which the statements of a program are read. -/
def outside (isModule : Bool) : Setting := { isModule, strict := isModule }

/-- The tree of a program. -/
def programTree (isModule : Bool) (body : List Tree) : Tree :=
  .node "Program" [("sourceType", .str (if isModule then "module" else "script")), ("body", .list body)]

/-- What does not begin with a text has no directives. -/
theorem reads_directives {src : Source} {s : Reading} {go : Rules} (h : (s.ahead.type != .string) = true) :
    Reads src (directives go) s fun r s' => r = [] ∧ s' = s := by
  rw [directives, reads_source, moreDirectives, reads_get]
  dsimp only
  rw [if_pos h]
  exact reads_pure ⟨rfl, rfl⟩

/-- A statement begins with a name, a keyword or a mark. -/
theorem Stmt.typeOf_words {s : Stmt} {g : Ground} {t : Bool} (h : s.isLegal g t = true) (ws : List Word)
    {type : TokenType} (ht : type ∉ [TokenType.name, .keyword, .punctuator]) : typeOf (s.words ws) ≠ type := by
  obtain ⟨w, more, hws, hw⟩ := s.exists_first h ws
  rw [hws]
  rintro (rfl : w.type = type)
  rcases hw with hw | ⟨hw, -⟩ | ⟨hw, -⟩ <;> exact ht (by rw [hw]; decide)

/-- **A program is read** from a text that spells its words, if what stands in it is read. -/
theorem reads_programOf {src : Source} {ws : List Word} {trees : List Tree} {isModule : Bool}
    {cs gap : List Char} (hplain : typeOf ws ≠ .string)
    (hitems : ∀ {s : Reading}, s.setting = outside isModule → Faces src s ws →
      Reads src (many do
        if ← seesType .stop then return none
        return some (← rules levelLimit .item)) s fun us _ => us.map Tree.core = trees)
    (hrest : src.rest 0 = cs ++ gap) (hg : IsGap gap) (hs : Spells isModule cs ws) :
    Reads src (program isModule) (beginning src) fun u _ => u.core = programTree isModule trees := by
  -- both kinds of programs are read alike once the setting is that of the program
  have hbody {s : Reading} (hset : s.setting = outside isModule) (hf : Faces src s ws) :
      Reads src (do
        let start ← here
        let go := rules levelLimit
        let prologue ← directives go
        let body ← many do
          if ← seesType .stop then return none
          return some (← go .item)
        finish start "Program" [("sourceType", .str (if isModule then "module" else "script")),
          ("body", .list (prologue ++ body))]) s fun u _ => u.core = programTree isModule trees := by
    rw [reads_here]
    refine (reads_directives (by rw [hf.type, bne_iff_ne]; exact hplain)).bind fun prologue s₁ hread => ?_
    obtain ⟨hprologue, hs₁⟩ := hread
    subst hprologue hs₁
    refine (hitems hset hf).bind fun us s' hus => ?_
    refine (reads_finish _ _ _ rfl).mono fun u' s' hread => ?_
    obtain ⟨hu', _⟩ := hread
    simp only [hu', List.map_cons, List.map_nil, Tree.core_list, List.nil_append, hus]
    rfl
  rw [program]
  -- the first token is read before the setting is changed, so its words must be faced under the setting to come
  refine Reads.bind (Q := fun _ s₁ => s₁.setting = {} ∧
    ∀ change : Setting → Setting, (change s₁.setting).strict = isModule → Faces src (s₁.put change) ws) ?_ ?_
  · refine ((reads_first hrest hg hs List.not_mem_nil rfl (fun h => by cases h)).map _).mono
      fun _ s' hread => ?_
    obtain ⟨_, _, _, hset, _, hfaces⟩ := hread
    exact ⟨hset, hfaces⟩
  intro _ s₁ hafter
  obtain ⟨hset, hfaces⟩ := hafter
  have hf := hfaces (fun _ => outside isModule) rfl
  have hf {m : Marker} : Faces src { s₁ with last := m, setting := outside isModule } ws :=
    ⟨hf.type, hf.value, hf.line, hf.joined, hf.blocks, hf.spells⟩
  rw [reads_modify]
  cases isModule with
  | true =>
    rw [if_pos rfl, reads_adjust]
    refine hbody ?_ ?_
    · show ({ s₁.setting with isModule := true, strict := true } : Setting) = _
      rw [hset]
      rfl
    · have hstate :
          ({ s₁ with last := s₁.cursor.marker } : Reading).put (fun σ => { σ with isModule := true, strict := true }) =
            { s₁ with last := s₁.cursor.marker, setting := outside true } := by
        rw [Reading.put]
        dsimp only
        rw [hset]
        rfl
      rw [hstate]
      exact hf
  | false =>
    rw [if_neg Bool.false_ne_true]
    refine hbody hset ?_
    have hstate : ({ s₁ with last := s₁.cursor.marker } : Reading) =
        { s₁ with last := s₁.cursor.marker, setting := outside false } := by
      rw [show outside false = s₁.setting from hset.symm]
    rw [hstate]
    exact hf

/-- A program of statements is read from a text that spells their words. -/
theorem reads_program {src : Source} {b : Stmts} {isModule : Bool} {cs gap : List Char}
    (hl : b.isLegal (.of (outside isModule)) = true) (hd : b.depth ≤ levelLimit) (hrest : src.rest 0 = cs ++ gap)
    (hg : IsGap gap) (hs : Spells isModule cs (b.words [])) :
    Reads src (program isModule) (beginning src) fun u _ => u.core = programTree isModule b.trees := by
  refine reads_programOf ?_ (fun {s} hset hf => ?_) hrest hg hs
  · cases b with
    | nil =>
      intro h
      cases h
    | cons s' b' => exact Stmt.typeOf_words (Bool.and_eq_true_iff.mp hl).1 _ (by decide)
  refine reads_many ((b.isRead ?_ ?_ rfl rfl (by rw [hset]; exact hl) hd hf ?_).mono fun us _ hread => hread.1)
  · intro s hs
    rw [hs.seesType, show (typeOf [] == TokenType.stop) = true from rfl, if_pos rfl]
    exact reads_pure ⟨rfl, rfl⟩
  · intro g t s vs st Q hs hf h
    rw [hf.seesType, beq_eq_false_iff_ne.mpr (Stmt.typeOf_words hs vs (by decide)), if_neg Bool.false_ne_true]
    exact h.bind fun u s' hu => reads_pure ⟨u, rfl, hu⟩
  · have := hf.length_le
    omega

/-- What is read of a text is what the grammar reads. -/
theorem readProgram_of_reads {src : Source} {isModule : Bool} {P : Tree → Prop}
    (h : Reads src (program isModule) (beginning src) fun u _ => P u) :
    ∃ u comments, readProgram src isModule = .ok (u, comments) ∧ P u := by
  obtain ⟨u, s, hrun, hu⟩ := h
  refine ⟨u, s.comments.toList, ?_, hu⟩
  rw [readProgram]
  show (program isModule src (beginning src) >>= _) = _
  rw [hrun]
  rfl

/-! ### There and back -/

/-- **What is printed for a program spells its words**, up to the new line at the end, if what is
printed for its statements does. -/
theorem programOf_isPrinted (layout : Layout) {trees : List Tree} {ws : List Word} {isModule : Bool} {t : Tree}
    (hnodes : ∀ u ∈ trees, u.isNode = true)
    (hprint : ∀ {ts n}, List.Forall₂ Tree.StandsFor ts trees → (∀ u ∈ ts, u.height ≤ n) →
      Printer.Prints (Printer.statements (Printer.roles n) ts) layout fun text => Spells isModule text.toList ws)
    (ht : t.StandsFor (programTree isModule trees)) :
    Printer.Prints (Printer.node t) layout fun text =>
      ∃ cs gap, text.toList = cs ++ gap ∧ IsGap gap ∧ Spells isModule cs ws := by
  obtain ⟨ts, hts, hall, hlower⟩ := ht.parts "body" rfl rfl hnodes
  have hheights : ∀ u ∈ ts, u.height ≤ 3 * t.height + 3 := fun u hu => by have := hlower u hu; omega
  have hcomments : Printer.commentsOf t "trailingComments" = [] := ht.isBare.2
  rw [Printer.node, Tree.kindOf, Tree.textField_of_get? ht.kind, pure_bind]
  show Printer.Prints (Printer.program (Printer.roles (3 * t.height + 3)) t) layout _
  rw [Printer.program, Tree.listField_of_get? hts, pure_bind, hcomments]
  refine (hprint hall hheights).bind fun text hspells => Printer.prints_pure ?_
  refine ⟨text.toList, (if text.isEmpty then "" else "\n").toList, ?_, ?_, hspells⟩
  · rw [List.reverse_nil, String.join_nil, String.append_empty, String.toList_append]
  · split
    · nofun
    · exact isGap_newLine

/-- What is printed for a program of statements spells their words. -/
theorem program_isPrinted (layout : Layout) {b : Stmts} {isModule : Bool} {t : Tree}
    (hl : b.isLegal (.of (outside isModule)) = true) (ht : t.StandsFor (programTree isModule b.trees)) :
    Printer.Prints (Printer.node t) layout fun text =>
      ∃ cs gap, text.toList = cs ++ gap ∧ IsGap gap ∧ Spells isModule cs (b.words []) := by
  have hb : b.IsPrinted isModule := b.isPrinted hl
  refine programOf_isPrinted layout b.isNode_trees (fun {ts n} hall hheights => ?_) ht
  cases b with
  | nil =>
    cases hall
    exact Printer.prints_pure .nil
  | cons s rest =>
    refine (statements_printed hb hall hheights).mono fun text htext => ?_
    have hspells : Spells isModule (("\n" ++ text).toList ++ []) _ := htext .nil rfl
    rw [String.toList_append, List.append_nil] at hspells
    exact .of_newLine hspells

end Program

end Deminify.Flow
