import Deminify.Proofs.Flow.Program

/-!
# Bodies of functions

A `return` stands in no program, only in the body of a function, so statements are looked at in two places: in a program,
and in the body of a function that is all of a program (`Deminify.Flow.Place`). Nothing of the loops and labels around a
function reaches into its body, and a function of another kind takes names away and adds no statement, so what may stand
in the body of any function may stand in that of this one.

The words in front of a body are printed and read like others, and so **statements of control flow are read as they
were printed**, in a program and in a body (`Deminify.Flow.read_back`): every body of a loop and every `else` comes back
where it was. What is left out are three words that a head takes for something else. They are printed without the
parentheses that they were written in, and what is printed is then not read (`Deminify.Flow.let_not_read_back`).
-/

namespace Deminify.Flow

open Token Grammar

/-! ### Functions -/

/-- The tree of a function without parameters. -/
def functionTree (name : String) (body : List Tree) : Tree :=
  .node "FunctionDeclaration" [("expression", .bool false), ("async", .bool false),
    ("id", Tree.identifier name), ("params", .list []), ("body", blockTree body), ("generator", .bool false)]

/-- The words of a function, in front of others. -/
def functionWords (name : String) (body : List Word → List Word) (ws : List Word) : List Word :=
  keyword "function" :: nameWord false name :: Word.mark "(" :: Word.mark ")" :: blockWords body ws

/-- The ground in the body of a function. -/
def Ground.body (g : Ground) : Ground :=
  { g with inFunctionBody := true, inIteration := false, inSwitch := false, labels := [] }

/-- Whether a function may have a name, be its body strict or not. -/
def Ground.names (g : Ground) (x : String) : Bool := g.allows x && !isRestricted x && !isStrictReserved x

section Printed

open Printer

variable {g : Ground} {b : Stmts} {x : String} {t : Tree} {n : Nat} {layout : Layout}

/-- **What is printed for a function spells its words.** -/
theorem function_isPrinted (hx : g.allows x = true) (hb : b.IsPrinted g.strict)
    (ht : t.StandsFor (functionTree x b.trees)) (hn : t.height ≤ n) :
    Prints (roles n .statement t) layout fun text => Spelling g.strict text (functionWords x b.words) := by
  have := t.height_pos
  obtain ⟨m, rfl⟩ : ∃ m, n = m + 1 := ⟨n - 1, by omega⟩
  obtain ⟨id, hid, hide, -⟩ := ht.part "id" rfl rfl (v := Tree.identifier x) rfl
  obtain ⟨ts, hts, hall, -⟩ := ht.parts "params" rfl (rfl : _ = some (Tree.list [])) nofun
  obtain ⟨body, hbody, hbe, hbh⟩ := ht.part "body" rfl rfl (v := blockTree b.trees) rfl
  show Prints (statement (roles m) t) layout _
  rw [statement_of_bare ht.isBare, statementText, Tree.kindOf, Tree.textField_of_get? ht.kind, pure_bind]
  show Prints (function (roles m) t) layout _
  rw [function, Tree.get_of_get? (ht.leaf "generator" rfl rfl rfl), Tree.get_of_get? (ht.leaf "async" rfl rfl rfl),
    Tree.get_of_get? hid]
  have hnode : id.isNode = true := by
    rw [← Tree.isNode_core, hide.core]
    rfl
  dsimp only
  rw [if_pos (Tree.truthy_of_isNode hnode), Tree.textField_of_get? (hide.leaf "name" rfl rfl rfl),
    Tree.listField_of_get? hts, Tree.field_of_get? hbody]
  cases hall
  refine (block_printed hb hbe (by omega)).bind fun body hbody => prints_pure fun {cs ws} hspells hcs => ?_
  have hblock : Spells g.strict (' ' :: (body.toList ++ cs)) (blockWords b.words ws) :=
    spells_blank (List.cons_ne_nil _ _) (hbody hspells hcs)
  have hrest := Spells.mark (c := '(') (by decide) (.mark (c := ')') (by decide) hblock)
  have hname : Spelling g.strict x (nameWord false x :: ·) := spelling_name hx
  have hfunction := spells_keyword "function" rfl rfl rfl (spells_blank (List.cons_ne_nil _ _) (hname hrest rfl))
  have hinputs : parenthesized (commas []) = "()" := rfl
  simpa [Tree.truthy, hinputs, functionWords] using hfunction

/-- What is printed for a program that consists of a function spells its words. -/
theorem functions_isPrinted (hx : g.allows x = true) (hb : b.IsPrinted g.strict) {ts : List Tree}
    (hts : List.Forall₂ Tree.StandsFor ts [functionTree x b.trees]) (hn : ∀ u ∈ ts, u.height ≤ n) :
    Prints (statements (roles n) ts) layout fun text => Spells g.strict text.toList (functionWords x b.words []) := by
  cases hts with
  | @cons t _ more _ ht hmore =>
  cases hmore
  rw [statements, statementLines, pure_bind, bind_assoc]
  refine prints_pad.bind fun indent hindent => ?_
  rw [bind_assoc]
  refine (function_isPrinted hx hb ht (hn t List.mem_cons_self)).bind fun text htext => prints_pure ?_
  have hspells : Spells g.strict (indent.toList ++ (text.toList ++ [])) (functionWords x b.words []) :=
    spells_gap hindent rfl (htext .nil rfl)
  simpa [String.toList_append] using hspells

end Printed

section Read

variable {src : Source} {st : Reading} {b : Stmts} {x : String} {n : Nat} {ws : List Word}

/-- The setting in the body of a function. -/
def inside (σ : Setting) : Setting :=
  { σ with labels := [], inIteration := false, inSwitch := false, inFunctionBody := true }

/-- **The body of a function is read**, and nothing of the loops and labels around it reaches into it. -/
theorem reads_functionBody (hl : b.isLegal (Ground.of st.setting).body = true) (hd : b.depth ≤ n)
    (hf : Faces src st (blockWords b.words ws)) :
    Reads src (functionBody (rules n)) st fun u s' =>
      u.core = blockTree b.trees ∧ Past src st s' ws (b.target st.setting.isTarget) := by
  rw [functionBody, reads_here]
  refine (reads_expect hf).bind fun _ s₁ hp₁ => ?_
  have hplain : (s₁.ahead.type != .string) = true := by
    rw [hp₁.faces.type, bne_iff_ne]
    cases b with
    | nil =>
      intro h
      cases h
    | cons s b => exact Stmt.typeOf_words (Bool.and_eq_true_iff.mp hl).1 _ (by decide)
  refine (reads_directives hplain).bind fun prologue s₂ hread => ?_
  obtain ⟨hprologue, hs₂⟩ := hread
  subst hprologue hs₂
  -- the statements are read under the setting of a body, and the setting around is put back behind them
  rw [reads_setting, reads_adjust]
  have hf₁ : Faces src (s₂.put inside) (b.words (Word.mark "\x7d" :: ws)) := hp₁.faces.put rfl
  have hground : Ground.of (inside s₂.setting) = (Ground.of st.setting).body := by
    rw [← Ground.of_past hp₁]
    rfl
  have hitems : Reads src (many do
      if (← seesType .stop) || (← sees "\x7d") then return none
      return some (← rules n .item)) (s₂.put inside) fun us s' =>
      us.map Tree.core = b.trees ∧ Past src (s₂.put inside) s' (Word.mark "\x7d" :: ws) (b.target s₂.setting.isTarget) := by
    refine reads_many (b.isRead (fun s hs => ?_) (fun g t s vs st' Q hs hf h => ?_) rfl rfl
      (by rw [← hground] at hl; exact hl) hd hf₁ ?_)
    · rw [hs.seesType, hs.sees, show begins (Word.mark "\x7d" :: ws) .punctuator "\x7d" = true from begins_mark _ _,
        Bool.or_true, if_pos rfl]
      exact reads_pure ⟨rfl, rfl⟩
    · rw [hf.seesType, hf.sees, beq_eq_false_iff_ne.mpr (Stmt.typeOf_words hs vs (by decide)),
        (Stmt.begins_words hs vs).2 (by decide), Bool.or_false, if_neg Bool.false_ne_true]
      exact h.bind fun u s' hu => reads_pure ⟨u, rfl, hu⟩
    · have := hf₁.length_le
      omega
  refine Reads.bind hitems fun us s₃ hread => ?_
  obtain ⟨hus, hp₃⟩ := hread
  refine (reads_expect hp₃.faces).bind fun _ s₄ hp₄ => ?_
  have hp₄ := past_keep hp₃ hp₄
  rw [reads_adjust]
  refine (reads_finish _ _ _ rfl).mono fun u' s' hread => ?_
  obtain ⟨hu', hs'⟩ := hread
  refine ⟨?_, ?_⟩
  · simp only [hu', List.map_cons, List.map_nil, Tree.core_list, List.nil_append, hus]
    rfl
  · subst hs'
    refine past_then hp₁ ⟨hp₄.faces.put rfl, ?_⟩
    obtain ⟨y, hy⟩ := hp₄.setting
    refine ⟨y, ?_⟩
    show ({ s₄.setting with labels := _, inIteration := _, inSwitch := _, inFunctionBody := _ } : Setting) = _
    rw [hy]
    rfl

/-- No parameters are read, and they have no faults. -/
theorem reads_formals {go : Rules} (hf : Faces src st (Word.mark "(" :: Word.mark ")" :: ws)) :
    Reads src (formals go none) st fun f s' =>
      f = { latentFault := none } ∧ Past src st s' ws st.setting.isTarget := by
  rw [formals]
  refine (reads_expect hf).bind fun _ s₁ hp₁ => ?_
  dsimp only
  rw [hp₁.faces.sees, begins_mark, if_pos rfl, pure_bind]
  exact (reads_expect hp₁.faces).bind fun _ s₂ hp₂ => reads_pure ⟨rfl, past_keep hp₁ hp₂⟩

/-- The parameters and the body of a function without parameters. -/
theorem reads_functionRest (hl : b.isLegal (Ground.of st.setting).body = true) (hd : b.depth ≤ n)
    (hf : Faces src st (Word.mark "(" :: Word.mark ")" :: blockWords b.words ws)) :
    Reads src (functionRest (rules n) none) st fun r s' =>
      (r.1 = [] ∧ r.2.core = blockTree b.trees) ∧ Past src st s' ws (b.target st.setting.isTarget) := by
  rw [functionRest]
  refine (reads_formals hf).bind fun f s₁ hread => ?_
  obtain ⟨rfl, hp₁⟩ := hread
  rw [reads_setting, reads_adjust]
  have hl₁ : b.isLegal (Ground.of s₁.setting).body = true := Ground.of_past hp₁ ▸ hl
  refine Reads.bind (reads_functionBody (by exact hl₁) hd (hp₁.faces.put rfl)) fun body s₂ hread => ?_
  obtain ⟨hbody, hp₂⟩ := hread
  have hcheck : Reads src (checkFormals { latentFault := none } none) s₂ fun _ s' => s' = s₂ := by
    rw [checkFormals, reads_setting]
    split <;> exact reads_pure rfl
  refine hcheck.bind fun _ s₃ hs₃ => ?_
  subst hs₃
  rw [reads_adjust]
  refine reads_pure ⟨⟨rfl, hbody⟩, past_then hp₁ ?_⟩
  obtain ⟨y, hy⟩ := hp₂.setting
  refine ⟨hp₂.faces.put (congrArg Setting.strict hy).symm, y, ?_⟩
  show ({ s₃.setting with strict := _, allowStrictDirective := _ } : Setting) = _
  rw [hy]
  rfl

/-- The setting in which a function that is neither asynchronous nor a generator is read. -/
def plainly (σ : Setting) : Setting := { σ with allowAwait := false, allowYield := true }

/-- The words in front of the name of a function that is neither asynchronous nor a generator. -/
theorem reads_functionHead (hf : Faces src st (keyword "function" :: nameWord false x :: ws))
    (hx : wordType x = .name) :
    Reads src functionHead st fun r s' =>
      r = (false, false) ∧ Past src st s' (nameWord false x :: ws) st.setting.isTarget := by
  rw [functionHead, hf.seesName]
  dsimp only
  rw [show begins (keyword "function" :: nameWord false x :: ws) .name "async" = false from rfl,
    if_neg Bool.false_ne_true]
  simp only [pure_bind]
  refine (reads_expectKeyword hf).bind fun _ s₁ hp₁ => ?_
  have hstar : begins (nameWord false x :: ws) .punctuator "*" = false := by
    show (wordType x == .punctuator && _) = false
    rw [hx]
    rfl
  refine (reads_accept_none hp₁.faces hstar).bind fun _ s₂ hread => ?_
  obtain ⟨hplain, hs₂⟩ := hread
  subst hplain hs₂
  exact reads_pure ⟨rfl, hp₁⟩

/-- **A function is read** with its name and its body. -/
theorem reads_function (hx : (Ground.of st.setting).names x = true)
    (hl : b.isLegal (Ground.of (plainly st.setting)).body = true) (hd : b.depth ≤ n)
    (hf : Faces src st (functionWords x b.words ws)) :
    Reads src (functionDeclaration (rules n) false) st fun u s' =>
      u.core = functionTree x b.trees ∧ Past src st s' ws (b.target st.setting.isTarget) := by
  simp only [Ground.names, Bool.and_eq_true, Bool.not_eq_true'] at hx
  obtain ⟨⟨hname, hrestricted⟩, hreserved⟩ := hx
  rw [functionDeclaration, reads_here]
  refine (reads_functionHead hf (Ground.letters_of_allows hname).2.1).bind fun _ s₁ hread => ?_
  obtain ⟨rfl, hp₁⟩ := hread
  dsimp only
  rw [hp₁.faces.sees, Bool.false_and, if_neg Bool.false_ne_true, reads_get]
  have hname₁ : (Ground.of s₁.setting).allows x = true := Ground.of_past hp₁ ▸ hname
  refine (reads_variableName hname₁ hp₁.faces).bind fun id s₂ hread => ?_
  obtain ⟨hid, hp₂, -⟩ := hread
  have hvalue : s₁.ahead.value = x := hp₁.faces.value
  have hp₂ := past_keep hp₁ hp₂
  -- a name that is neither restricted nor reserved has no fault, in strict code or not
  have hfault : Reads src (nameFault s₁.ahead) s₂ fun fault s' => fault = none ∧ s' = s₂ := by
    rw [nameFault, reads_setting, hvalue, hrestricted, hreserved]
    split <;> exact reads_pure ⟨rfl, rfl⟩
  refine hfault.bind fun fault s₃ hread => ?_
  obtain ⟨rfl, rfl⟩ := hread
  rw [pure_bind, reads_setting, reads_adjust]
  have hground : Ground.of (plainly s₃.setting) = Ground.of (plainly st.setting) := by
    obtain ⟨y, hy⟩ := hp₂.setting
    rw [hy]
    rfl
  have hl₃ : b.isLegal (Ground.of (plainly s₃.setting)).body = true := by
    rw [hground]
    exact hl
  have hf₃ : Faces src (s₃.put plainly) (Word.mark "(" :: Word.mark ")" :: blockWords b.words ws) :=
    hp₂.faces.put rfl
  refine Reads.bind (reads_functionRest (by exact hl₃) hd hf₃) fun r s₄ hread => ?_
  obtain ⟨⟨hparams, hbody⟩, hp₄⟩ := hread
  rw [reads_adjust, functionNode, if_neg Bool.false_ne_true]
  refine (reads_finish _ _ _ rfl).mono fun u s' hread => ?_
  obtain ⟨hu, hs'⟩ := hread
  refine ⟨?_, hs' ▸ past_then hp₂ ?_⟩
  · simp only [hu, List.map_cons, List.map_nil, hid, hparams, hbody]
    rfl
  · obtain ⟨y, hy⟩ := hp₄.setting
    refine ⟨hp₄.faces.put rfl, y, ?_⟩
    show ({ s₄.setting with allowAwait := _, allowYield := _ } : Setting) = _
    rw [hy]
    rfl

/-- Among the items of a list, a function is read as one. -/
theorem reads_functionItem (hx : (Ground.of st.setting).names x = true)
    (hl : b.isLegal (Ground.of (plainly st.setting)).body = true) (hd : b.depth ≤ n)
    (hf : Faces src st (functionWords x b.words ws)) :
    Reads src (rules (n + 1) .item) st fun u s' => u.core = functionTree x b.trees ∧ Faces src s' ws := by
  have htype : st.ahead.type = .keyword := hf.type
  have hvalue : st.ahead.value = "function" := hf.value
  show Reads src (item (rules n)) st _
  rw [item, reads_adjust, reads_get]
  dsimp only [Reading.put]
  rw [htype, hvalue]
  have hf' : Faces src (st.put fresh) (functionWords x b.words ws) := hf.put rfl
  exact (reads_function (by exact hx) (by exact hl) hd hf').mono fun u s' hread => ⟨hread.1, hread.2.faces⟩

end Read

/-! ### There and back -/

/-- Where statements stand: in a program, or in the body of the only function of a program. -/
inductive Place where
  | program
  | function (name : String)

namespace Place

/-- The trees of a program with statements at the place. -/
def trees : Place → Stmts → List Tree
  | .program, b => b.trees
  | .function name, b => [functionTree name b.trees]

/-- The words of a program with statements at the place. -/
def words : Place → Stmts → List Word
  | .program, b => b.words []
  | .function name, b => functionWords name b.words []

/-- Whether statements may stand at the place. -/
def admits (isModule : Bool) : Place → Stmts → Bool
  | .program, b => b.isLegal (.of (outside isModule))
  | .function name, b => (Ground.of (outside isModule)).names name && b.isLegal (Ground.of (outside isModule)).body

/-- How deep statements at the place nest. -/
def depth : Place → Stmts → Nat
  | .program, b => b.depth
  | .function _, b => b.depth + 1

end Place

variable {place : Place} {b : Stmts} {isModule : Bool}

/-- **A program is read** from a text that spells its words, wherever its statements stand. -/
theorem reads_place {src : Source} {cs gap : List Char} (hl : place.admits isModule b = true)
    (hd : place.depth b ≤ levelLimit) (hrest : src.rest 0 = cs ++ gap) (hg : IsGap gap)
    (hs : Spells isModule cs (place.words b)) :
    Reads src (program isModule) (beginning src) fun u _ => u.core = programTree isModule (place.trees b) := by
  cases place with
  | program => exact reads_program hl hd hrest hg hs
  | function x =>
    obtain ⟨hx, hb⟩ := Bool.and_eq_true_iff.mp hl
    refine reads_programOf (fun h => by cases h) (fun {s} hset hf => reads_many ?_) hrest hg hs
    have hbody : b.isLegal (Ground.of (plainly s.setting)).body = true := by
      rw [hset]
      exact hb
    -- the function is all there is: an item is read, and then the end is seen
    rw [repeated]
    refine Reads.bind (Q := fun r s' => ∃ u : Tree, r = some u ∧ u.core = functionTree x b.trees ∧ Faces src s' [])
      ?_ fun r s₁ hread => ?_
    · rw [hf.seesType, show (typeOf ((Place.function x).words b) == TokenType.stop) = false from rfl,
        if_neg Bool.false_ne_true]
      exact (reads_functionItem (hset ▸ hx) hbody (Nat.le_of_succ_le_succ hd) hf).bind
        fun u s' hu => reads_pure ⟨u, rfl, hu⟩
    · obtain ⟨u, rfl, hu, hf₁⟩ := hread
      dsimp only
      rw [repeated, bind_assoc, hf₁.seesType, show (typeOf [] == TokenType.stop) = true from rfl, if_pos rfl, pure_bind]
      exact reads_pure (by simp [hu, Place.trees])

/-- What is printed for a program spells its words, wherever its statements stand. -/
theorem place_isPrinted (layout : Layout) {t : Tree} (hl : place.admits isModule b = true)
    (ht : t.StandsFor (programTree isModule (place.trees b))) :
    Printer.Prints (Printer.node t) layout fun text =>
      ∃ cs gap, text.toList = cs ++ gap ∧ IsGap gap ∧ Spells isModule cs (place.words b) := by
  cases place with
  | program => exact program_isPrinted layout hl ht
  | function x =>
    obtain ⟨hx, hb⟩ := Bool.and_eq_true_iff.mp hl
    simp only [Ground.names, Bool.and_eq_true] at hx
    have hprinted : b.IsPrinted isModule := b.isPrinted hb
    exact programOf_isPrinted layout (by simp; rfl)
      (functions_isPrinted hx.1.1 hprinted) ht

/-- **Statements of control flow are read as they were printed**, in a program and in the body of a function: each body
and each `else` comes back where it was. -/
theorem read_back {t : Tree} (source : Option String) (hl : place.admits isModule b = true)
    (hd : place.depth b ≤ levelLimit) (ht : t.StandsFor (programTree isModule (place.trees b))) :
    ∃ text u comments, t.print source = .ok text ∧ readProgram (.ofString text) isModule = .ok (u, comments) ∧
      u.core = t.core := by
  obtain ⟨text, hprint, cs, gap, htext, hg, hs⟩ :=
    place_isPrinted ⟨0, false, source.map Source.ofString⟩ hl ht
  have hrest : (Source.ofString text).rest 0 = cs ++ gap := (Source.rest_ofString text).trans htext
  obtain ⟨u, comments, hread, hu⟩ := readProgram_of_reads (reads_place hl hd hrest hg hs)
  exact ⟨text, u, comments, hprint, hread, hu.trans ht.core.symm⟩

/-- Two branches, one of them with an `if` of its own, a jump out of a loop, and one out of the function. -/
def sample : Stmts :=
  .cons (.ifElse (.name "a") (.block (.cons (.forOf "x" (.call "f" .nil) (.if_ (.name "x") (.return_ none))) .nil))
    (.labeled "l" (.while_ (.name "b") (.break_ (some "l")))))
    (.cons (.return_ (some (.call "a" (.cons (.name "b") .nil)))) .nil)

theorem sample_read_back : ∃ text u comments,
    (programTree false ((Place.function "g").trees sample)).print none = .ok text ∧
      readProgram (.ofString text) false = .ok (u, comments) ∧
        u.core = (programTree false ((Place.function "g").trees sample)).core := by
  have hadmits : (Place.function "g").admits false sample = true := by decide +kernel
  exact read_back none hadmits (by decide +kernel) ⟨rfl, by decide +kernel⟩

/-- **Without parentheses, the word `let` declares**: in front of the head of a loop they are not printed, and what is
printed is not read. -/
theorem let_not_read_back : ∃ t comments text, readProgram (.ofString "for ((let);;) a;") false = .ok (t, comments) ∧
    t.print none = .ok text ∧ (readProgram (.ofString text) false).toOption = none := by
  have hprint : (readProgram (.ofString "for ((let);;) a;") false).toOption.bind (fun r => (r.1.print none).toOption) =
      some "for (let;;)
  a;
" := by decide +kernel
  obtain ⟨⟨t, comments⟩, hread, htext⟩ := Option.bind_eq_some_iff.mp hprint
  refine ⟨t, comments, _, ?_, ?_, (by decide +kernel :
    (readProgram (.ofString "for (let;;)
  a;
") false).toOption.isNone = true) |> Option.isNone_iff_eq_none.mp⟩
  · exact eq_ok_of_toOption hread
  · exact eq_ok_of_toOption htext

end Deminify.Flow
