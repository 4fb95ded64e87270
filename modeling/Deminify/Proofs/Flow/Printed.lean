import Deminify.Proofs.Flow.Syntax
import Deminify.Proofs.Printer.Yield

/-!
# How statements of control flow are printed

**What is printed for a statement spells its words** (`Deminify.Flow.Stmt.isPrinted`), however deep it is
indented and whether or not blank lines are kept.
-/

namespace Deminify.Flow

open Printer Token

/-- **What a text spells**: it adds its words in front of those of any text that goes on with no letter. -/
def Spelling (strict : Bool) (text : String) (words : List Word → List Word) : Prop :=
  ∀ {cs ws}, Spells strict cs ws → cs.head?.any Text.isIdentifierPart = false →
    Spells strict (text.toList ++ cs) (words ws)

section Spelling

variable {strict joined : Bool} {g : Ground} {x : String} {cs : List Char} {ws : List Word}

/-- A name that is allowed is spelled with letters and is no reserved word. -/
theorem Ground.letters_of_allows (h : g.allows x = true) : isLetters x.toList = true ∧ wordType x = .name ∧
    (g.strict = true → isStrictReserved x = false) ∧ (g.await = true → x ≠ "await") := by
  simp only [allows, Bool.and_eq_true, beq_iff_eq, Bool.not_eq_true', Bool.and_eq_false_iff, beq_eq_false_iff_ne] at h
  obtain ⟨⟨⟨hl, ht⟩, hs⟩, ha⟩ := h
  exact ⟨hl, ht, fun h => hs.resolve_left (by rw [h]; decide), fun h => ha.resolve_left (by rw [h]; decide)⟩

/-- A name is spelled as it is. -/
theorem spelling_name (h : g.allows x = true) : Spelling g.strict x (nameWord joined x :: ·) := by
  obtain ⟨hl, -, hs, -⟩ := Ground.letters_of_allows h
  exact fun hspells hcs => .name joined hl (fun hstrict _ => hs hstrict) hcs hspells

/-- A keyword is spelled as it is, in front of what goes on with no name. -/
theorem spells_keyword (k : String) (hk : wordType k = .keyword) (hl : isLetters k.toList = true)
    (hcs : cs.head?.any Text.isIdentifierPart = false) (h : Spells strict cs ws) :
    Spells strict (k.toList ++ cs) (keyword k :: ws) := by
  have hs := Spells.name false hl (fun _ hname => by rw [hk] at hname; cases hname) hcs h
  rwa [hk] at hs

/-- A gap in front of a word that need not join on is not seen. -/
theorem spells_gap {gap : List Char} {w : Word} (hg : IsGap gap) (hw : w.joined = false)
    (h : Spells strict cs (w :: ws)) : Spells strict (gap ++ cs) (w :: ws) :=
  .gap hg (by rintro _ ⟨⟩ hj; rw [hw] at hj; cases hj) nofun h

theorem spells_blank (hne : ws ≠ []) (h : Spells strict cs ws) : Spells strict (' ' :: cs) ws :=
  Spells.gap (g := [' ']) (fun _ hc => .inl (List.mem_singleton.mp hc)) (fun _ _ _ => by decide) hne h

end Spelling

section Expr

variable {g : Ground} {t : Tree} {n least : Nat} {layout : Layout}

theorem Expr.isNode_tree (e : Expr) : e.tree.isNode = true := by
  cases e <;> rfl

theorem Exprs.isNode_trees (args : Exprs) : ∀ t ∈ args.trees, t.isNode = true :=
  match args with
  | .nil => nofun
  | .cons e rest => List.forall_mem_cons.mpr ⟨e.isNode_tree, rest.isNode_trees⟩

/-- Whether a text starts with a name. -/
def StartsWith (text name : String) : Prop :=
  ∃ more, text.toList = name.toList ++ more ∧ more.head?.any Text.isIdentifierPart = false

/-- A name is printed as it is. -/
theorem prints_name {x : String} (ht : t.StandsFor (Tree.identifier x)) (hn : t.height ≤ n)
    (hl : least ≤ 19) : Prints (roles n (.expression least) t) layout (x = ·) := by
  have := t.height_pos
  obtain ⟨m, rfl⟩ : ∃ m, n = m + 1 := ⟨n - 1, by omega⟩
  show Prints (expression (roles m) least t) layout _
  rw [expression_of_bare ht.isBare ht.kind rfl (Nat.le_succ_of_le hl), expressionText, Tree.kindOf,
    Tree.textField_of_get? ht.kind, pure_bind]
  show Prints (t.textField "name") layout _
  rw [Tree.textField_of_get? (ht.leaf "name" rfl rfl rfl)]
  exact prints_pure rfl

/-- The texts behind the first one each follow a comma. -/
theorem commas_cons (text : String) (texts : List String) :
    commas (text :: texts) = text ++ String.join (texts.map (", " ++ ·)) := by
  induction texts generalizing text with
  | nil => rw [commas, String.intercalate_singleton, List.map_nil, String.join_nil, String.append_empty]
  | cons next rest ih =>
    have hrest := ih next
    rw [commas] at hrest ⊢
    rw [String.intercalate_cons_cons, hrest, List.map_cons, String.join_cons, String.append_assoc, String.append_assoc]

theorem head?_join_commas {texts : List String} {cs : List Char} (hcs : cs.head?.any Text.isIdentifierPart = false) :
    ((String.join (texts.map (", " ++ ·))).toList ++ cs).head?.any Text.isIdentifierPart = false := by
  cases texts with
  | nil => exact hcs
  | cons text rest =>
    rw [List.map_cons, String.join_cons, String.toList_append, String.toList_append, List.append_assoc,
      List.append_assoc]
    rfl

mutual

/-- **What is printed for an expression spells its words**, and starts with its name. -/
theorem Expr.prints : ∀ (e : Expr), e.isLegal g = true → ∀ {t n least layout}, t.StandsFor e.tree → t.height ≤ n →
    least ≤ 19 → Prints (roles n (.expression least) t) layout fun text =>
      (∀ joined, Spelling g.strict text (e.words joined)) ∧ StartsWith text e.head
  | .name x, hg, t, n, least, layout, ht, hn, hl =>
    (prints_name ht hn hl).mono fun text htext => by
      subst htext
      exact ⟨fun _ => spelling_name hg, [], (List.append_nil _).symm, rfl⟩
  | .call f args, hg, t, n, least, layout, ht, hn, hl => by
    obtain ⟨hf, hargs⟩ := Bool.and_eq_true_iff.mp hg
    have := t.height_pos
    obtain ⟨m, rfl⟩ : ∃ m, n = m + 1 := ⟨n - 1, by omega⟩
    obtain ⟨callee, hcallee, hstands, hheight⟩ := ht.part "callee" rfl rfl (v := Tree.identifier f) rfl
    obtain ⟨ts, hts, hall, hheights⟩ := ht.parts "arguments" rfl rfl args.isNode_trees
    show Prints (expression (roles m) least t) layout _
    rw [expression_of_bare ht.isBare ht.kind rfl hl, expressionText, Tree.kindOf, Tree.textField_of_get? ht.kind,
      pure_bind]
    show Prints (call (roles m) t) layout _
    rw [call, Tree.field_of_get? hcallee, pure_bind, Tree.kindOf, Tree.textField_of_get? hstands.kind, pure_bind,
      if_neg (by decide)]
    refine (prints_name hstands (by omega) (Nat.le_refl 19)).bind fun text htext => ?_
    subst htext
    beta_reduce
    rw [Tree.listField_of_get? hts, pure_bind, Printer.arguments, bind_assoc]
    refine (args.prints hargs hall fun u hu => by have := hheights u hu; omega).bind fun texts hprint => ?_
    obtain ⟨hspell, _⟩ := hprint
    rw [pure_bind]
    refine prints_pure ⟨fun joined cs ws hs hcs => ?_, "(".toList ++ ((commas texts).toList ++ ")".toList), ?_, rfl⟩
    · rw [parenthesized, String.toList_append, String.toList_append, String.toList_append, List.append_assoc,
        List.append_assoc, List.append_assoc]
      exact spelling_name hf (.mark (by decide) (hspell (.mark (by decide) hs) rfl)) rfl
    · rw [parenthesized, String.toList_append, String.toList_append, String.toList_append, List.append_assoc]
      rfl

/-- What is printed for arguments spells their words, behind others or not. -/
theorem Exprs.prints : ∀ (args : Exprs), args.isLegal g = true → ∀ {ts n layout},
    List.Forall₂ Tree.StandsFor ts args.trees → (∀ t ∈ ts, t.height ≤ n) →
      Prints (ts.mapM (roles n (.expression 3))) layout fun texts => Spelling g.strict (commas texts) args.words ∧
        Spelling g.strict (String.join (texts.map (", " ++ ·))) args.moreWords
  | .nil, _, ts, n, layout, hts, _ => by
    cases hts
    exact prints_pure ⟨fun hs _ => hs, fun hs _ => hs⟩
  | .cons e rest, hg, ts, n, layout, hts, hn => by
    obtain ⟨he, hrest⟩ := Bool.and_eq_true_iff.mp hg
    cases hts with
    | @cons t _ more _ ht hmore =>
    obtain ⟨hnt, hnmore⟩ := List.forall_mem_cons.mp hn
    rw [List.mapM_cons]
    refine (e.prints he ht hnt (by decide)).bind fun text hprint => ?_
    obtain ⟨htext, _⟩ := hprint
    refine (rest.prints hrest hmore hnmore).bind fun texts hprint => ?_
    obtain ⟨_, htexts⟩ := hprint
    refine prints_pure ⟨fun hs hcs => ?_, fun hs hcs => ?_⟩
    · rw [commas_cons, String.toList_append, List.append_assoc]
      exact htext false (htexts hs hcs) (head?_join_commas hcs)
    · rw [List.map_cons, String.join_cons, String.toList_append, String.toList_append, List.append_assoc,
        List.append_assoc]
      exact .mark (by decide)
        (spells_blank (by cases e <;> nofun) (htext false (htexts hs hcs) (head?_join_commas hcs)))

end

end Expr

section Stmt

variable {g : Ground} {strict : Bool} {e : Expr} {s : Stmt} {b : Stmts} {t : Tree} {n : Nat} {layout : Layout}
  {cs : List Char} {ws : List Word}

theorem Stmt.isNode_tree (s : Stmt) : s.tree.isNode = true := by
  cases s <;> rfl

theorem Stmts.isNode_trees (b : Stmts) : ∀ t ∈ b.trees, t.isNode = true :=
  match b with
  | .nil => nofun
  | .cons s rest => List.forall_mem_cons.mpr ⟨s.isNode_tree, rest.isNode_trees⟩

theorem Cases.isNode_trees (cases : Cases) : ∀ t ∈ cases.trees, t.isNode = true :=
  match cases with
  | .nil => nofun
  | .cons _ _ rest => List.forall_mem_cons.mpr ⟨rfl, rest.isNode_trees⟩

/-- An expression has words. -/
theorem Expr.words_ne_nil (e : Expr) (joined : Bool) (ws : List Word) : e.words joined ws ≠ [] := by
  cases e <;> nofun

/-- An expression need not join on to what is in front of it. -/
theorem Expr.head_words (e : Expr) (ws : List Word) : ∀ w ∈ (e.words false ws).head?, w.joined = false := by
  cases e <;> rintro _ ⟨⟩ <;> rfl

/-- A statement may start a line. -/
theorem Stmt.head_words (s : Stmt) (ws : List Word) : s.words ws ≠ [] ∧ ∀ w ∈ (s.words ws).head?, w.joined = false := by
  cases s with
  | expression e => exact ⟨e.words_ne_nil false _, e.head_words _⟩
  | break_ l => cases l <;> exact ⟨nofun, by rintro _ ⟨⟩; rfl⟩
  | continue_ l => cases l <;> exact ⟨nofun, by rintro _ ⟨⟩; rfl⟩
  | _ => exact ⟨nofun, by rintro _ ⟨⟩; rfl⟩

/-- A statement may stand behind any gap. -/
theorem Stmt.spells_gap {gap : List Char} (hg : IsGap gap) (h : Spells strict cs (s.words ws)) :
    Spells strict (gap ++ cs) (s.words ws) := by
  obtain ⟨hne, hhead⟩ := s.head_words ws
  exact .gap hg (fun w hw hj => by rw [hhead w hw] at hj; cases hj) hne h

/-- **What is printed for a statement spells its words.** -/
def Stmt.IsPrinted (strict : Bool) (s : Stmt) : Prop :=
  ∀ {t n layout}, t.StandsFor s.tree → t.height ≤ n →
    Prints (roles n .statement t) layout fun text => Spelling strict text s.words

/-- What is printed for statements spells their words. -/
def Stmts.IsPrinted (strict : Bool) (b : Stmts) : Prop :=
  ∀ {ts n layout previous}, List.Forall₂ Tree.StandsFor ts b.trees → (∀ t ∈ ts, t.height ≤ n) →
    Prints (statementLines (roles n) previous ts) layout fun lines =>
      Spelling strict (String.join (lines.map ("\n" ++ ·))) b.words

/-- What is printed for cases spells their words. -/
def Cases.IsPrinted (strict : Bool) (cases : Cases) : Prop :=
  ∀ {ts n layout}, List.Forall₂ Tree.StandsFor ts cases.trees → (∀ t ∈ ts, t.height ≤ n) →
    Prints (ts.mapM (switchCase (roles n))) layout fun lines =>
      Spelling strict (String.join (lines.flatten.map ("\n" ++ ·))) cases.words

/-! ### Lines -/

theorem intercalate_lines (line : String) (lines : List String) :
    String.intercalate "\n" (line :: lines) = line ++ String.join (lines.map ("\n" ++ ·)) := by
  induction lines generalizing line with
  | nil => rw [String.intercalate_singleton, List.map_nil, String.join_nil, String.append_empty]
  | cons next rest ih =>
    rw [String.intercalate_cons_cons, ih next, List.map_cons, String.join_cons, String.append_assoc,
      String.append_assoc]

theorem head?_join_lines {lines : List String} {cs : List Char} (hcs : cs.head?.any Text.isIdentifierPart = false) :
    ((String.join (lines.map ("\n" ++ ·))).toList ++ cs).head?.any Text.isIdentifierPart = false := by
  cases lines with
  | nil => exact hcs
  | cons line rest =>
    rw [List.map_cons, String.join_cons, String.toList_append, String.toList_append, List.append_assoc,
      List.append_assoc]
    rfl

theorem isGap_newLine : IsGap ['\n'] := fun _ hc => .inr (List.mem_singleton.mp hc)

/-- A line break with the indentation behind it is a gap. -/
theorem isGap_line {indent : List Char} (h : IsGap indent) : IsGap ('\n' :: indent) :=
  List.forall_mem_cons.mpr ⟨.inr rfl, h⟩

/-- Whether a blank line stood between two statements can always be told. -/
theorem prints_blankBetween (previous current : Tree) :
    Prints (blankBetween previous current) layout fun _ => True := by
  have hlayout : Prints read layout (layout = ·) := ⟨layout, rfl, rfl⟩
  refine hlayout.bind fun l hl => ?_
  subst hl
  split
  · exact prints_pure trivial
  · exact prints_pure trivial

theorem Stmts.nil_isPrinted : Stmts.nil.IsPrinted strict := by
  intro ts n layout previous hts _
  cases hts
  exact prints_pure fun hs _ => hs

theorem Stmts.cons_isPrinted (hs : s.IsPrinted strict) (hb : b.IsPrinted strict) :
    (Stmts.cons s b).IsPrinted strict := by
  intro ts n layout previous hts hn
  cases hts with
  | @cons t _ more _ ht hmore =>
  obtain ⟨hnt, hnmore⟩ := List.forall_mem_cons.mp hn
  have hline (blank : Bool) : Prints (do
      let line := (← pad) ++ (← roles n .statement t)
      let lines ← statementLines (roles n) (some t) more
      return (if blank then [""] else []) ++ line :: lines) layout fun lines =>
        Spelling strict (String.join (lines.map ("\n" ++ ·))) (Stmts.cons s b).words := by
    refine prints_pad.bind fun indent hindent => ?_
    refine (hs ht hnt).bind fun text htext => ?_
    refine (hb hmore hnmore).bind fun lines hlines => prints_pure fun {cs ws} hspells hcs => ?_
    have hrest := htext (hlines hspells hcs) (head?_join_lines hcs)
    have hspells : Spells strict ('\n' :: indent.toList ++ (text.toList ++
        ((String.join (lines.map ("\n" ++ ·))).toList ++ cs))) (s.words (b.words ws)) :=
      s.spells_gap (isGap_line hindent) hrest
    show Spells strict _ (s.words (b.words ws))
    cases blank
    · simpa [String.toList_append] using hspells
    · simpa [String.toList_append] using s.spells_gap isGap_newLine hspells
  cases previous with
  | none => exact hline false
  | some p => exact (prints_blankBetween p t).bind fun blank _ => hline blank

/-- **Statements are printed** one a line. -/
theorem statements_printed {ts : List Tree} (hs : (Stmts.cons s b).IsPrinted strict)
    (hts : List.Forall₂ Tree.StandsFor ts (Stmts.cons s b).trees) (hn : ∀ t ∈ ts, t.height ≤ n) :
    Prints (statements (roles n) ts) layout fun text => Spelling strict ("\n" ++ text) (Stmts.cons s b).words := by
  refine (hs hts hn).bind fun lines hlines => prints_pure ?_
  cases lines with
  | nil => exact fun hspells hcs => s.spells_gap isGap_newLine (hlines hspells hcs)
  | cons line rest =>
    intro cs ws hspells hcs
    rw [intercalate_lines, ← String.append_assoc]
    simpa using hlines hspells hcs

/-- Statements in braces. -/
theorem block_printed (hb : b.IsPrinted strict) (ht : t.StandsFor (blockTree b.trees)) (hn : t.height ≤ n + 1) :
    Prints (block (roles n) t) layout fun text => Spelling strict text (blockWords b.words) := by
  obtain ⟨ts, hts, hall, hlower⟩ := ht.parts "body" rfl rfl b.isNode_trees
  have hheights : ∀ t ∈ ts, t.height ≤ n := fun t hm => by have := hlower t hm; omega
  rw [block, Tree.listField_of_get? hts, pure_bind]
  cases b with
  | nil =>
    cases hall
    exact prints_pure fun hs _ => .mark (by decide) (.mark (by decide) hs)
  | cons s b =>
    cases hall with
    | @cons t _ more _ ht hmore =>
    rw [if_neg nofun]
    refine (prints_deeper.mpr (statements_printed hb (.cons ht hmore) hheights)).bind fun inner hinner => ?_
    refine prints_pad.bind fun indent hindent => prints_pure fun hs hcs => ?_
    have hclose := spells_gap (isGap_line hindent) rfl (.mark (c := '\x7d') (by decide) hs)
    have hopen := Spells.mark (c := '\x7b') (by decide) (hinner hclose rfl)
    rw [blockWords]
    simpa [String.toList_append] using hopen

/-- Whether a text starts with no letter. -/
def StartsApart (text : String) : Prop := ∀ cs, (text.toList ++ cs).head?.any Text.isIdentifierPart = false

/-- The body of a branch or a loop. -/
theorem nested_printed (hs : s.IsPrinted strict) (ht : t.StandsFor s.tree) (hn : t.height ≤ n) :
    Prints (nested (roles n) t) layout fun text => Spelling strict text s.words ∧ StartsApart text := by
  have hplain (kind : String) (hk : t.get? "type" = some (.str kind)) (hblock : kind ≠ "BlockStatement")
      (hempty : kind ≠ "EmptyStatement") :
      Prints (nested (roles n) t) layout fun text => Spelling strict text s.words ∧ StartsApart text := by
    rw [nested, Tree.kindOf, Tree.textField_of_get? hk, pure_bind]
    split
    · contradiction
    · contradiction
    · refine prints_deeper.mpr (prints_pad.bind fun indent hindent => ?_)
      refine (hs ht hn).bind fun text htext => prints_pure ⟨fun hspells hcs => ?_, fun cs => ?_⟩
      · simpa [String.toList_append] using s.spells_gap (isGap_line hindent) (htext hspells hcs)
      · rw [String.toList_append, String.toList_append]
        rfl
  cases s with
  | block b =>
    rw [nested, Tree.kindOf, Tree.textField_of_get? ht.kind, pure_bind]
    refine (hs ht hn).bind fun text htext => prints_pure ⟨fun hspells hcs => ?_, fun cs => ?_⟩
    · rw [String.toList_append]
      exact spells_blank nofun (htext hspells hcs)
    · rw [String.toList_append]
      rfl
  | empty =>
    rw [nested, Tree.kindOf, Tree.textField_of_get? ht.kind, pure_bind]
    exact prints_pure ⟨fun hspells _ => .mark (by decide) hspells, fun _ => rfl⟩
  | _ => exact hplain _ ht.kind (by decide) (by decide)

/-- What is printed for a statement is what is printed for its kind. -/
theorem prints_statement {Q : String → Prop} (ht : t.StandsFor s.tree) (hn : t.height ≤ n)
    (h : ∀ m, t.height ≤ m + 1 → Prints (statementText (roles m) t) layout Q) :
    Prints (roles n .statement t) layout Q := by
  have := t.height_pos
  obtain ⟨m, rfl⟩ : ∃ m, n = m + 1 := ⟨n - 1, by omega⟩
  show Prints (statement (roles m) t) layout Q
  rw [statement_of_bare ht.isBare]
  exact h m hn

theorem block_isPrinted (hb : b.IsPrinted strict) : (Stmt.block b).IsPrinted strict := by
  intro t n layout ht hn
  refine prints_statement ht hn fun m hm => ?_
  rw [statementText, Tree.kindOf, Tree.textField_of_get? ht.kind, pure_bind]
  exact block_printed hb ht hm

theorem empty_isPrinted : Stmt.empty.IsPrinted strict := by
  intro t n layout ht hn
  refine prints_statement ht hn fun m hm => ?_
  rw [statementText, Tree.kindOf, Tree.textField_of_get? ht.kind, pure_bind]
  exact prints_pure fun hs _ => .mark (by decide) hs

/-- A keyword with a condition. -/
theorem spells_condition (k : String) (hk : wordType k = .keyword) (hl : isLetters k.toList = true) {test : String}
    (htest : ∀ joined, Spelling strict test (e.words joined)) (h : Spells strict cs ws) :
    Spells strict (k.toList ++ (' ' :: '(' :: (test.toList ++ (')' :: cs)))) (keyword k :: conditionWords e ws) :=
  spells_keyword k hk hl rfl (spells_blank nofun (.mark (c := '(') (by decide)
    (htest false (.mark (c := ')') (by decide) h) rfl)))

theorem if_isPrinted (he : e.isLegal g = true) (hs : s.IsPrinted g.strict) : (Stmt.if_ e s).IsPrinted g.strict := by
  intro t n layout ht hn
  refine prints_statement ht hn fun m hm => ?_
  obtain ⟨test, htest, hte, hth⟩ := ht.part "test" rfl rfl e.isNode_tree
  obtain ⟨yes, hyes, hye, hyh⟩ := ht.part "consequent" rfl rfl s.isNode_tree
  rw [statementText, Tree.kindOf, Tree.textField_of_get? ht.kind, pure_bind]
  show Prints (ifStatement (roles m) t) layout _
  rw [ifStatement, Tree.field_of_get? htest, Tree.field_of_get? hyes, pure_bind,
    Tree.get_of_get? (ht.leaf "alternate" rfl rfl rfl)]
  refine (e.prints he hte (by omega) (by decide)).bind fun test hprint => ?_
  obtain ⟨htest, _⟩ := hprint
  rw [pure_bind]
  refine (nested_printed hs hye (by omega)).bind fun yes hprint => ?_
  obtain ⟨hyes, _⟩ := hprint
  refine prints_pure fun hspells hcs => ?_
  simp only [String.toList_append, List.append_assoc]
  exact spells_condition "if" rfl rfl htest (hyes hspells hcs)

theorem exists_obj_of_get? {key : String} {v : Tree} (h : t.get? key = some v) :
    ∃ label fields, t = .obj label fields := by
  cases t with
  | obj label fields => exact ⟨label, fields, rfl⟩
  | _ => cases h

/-- What stands for a statement says its kind. -/
theorem Stmt.exists_kind (ht : t.StandsFor s.tree) : ∃ k, t.get? "type" = some (.str k) := by
  cases s <;> exact ⟨_, ht.kind⟩

/-- Between the body of a branch or a loop and the keyword behind it stands a gap. -/
theorem prints_gap {kind : String} {k : String → Printing String} {Q : String → Prop}
    (h : ∀ gap : String, IsGap gap.toList → StartsApart gap → Prints (k gap) layout Q) :
    Prints (if kind == "BlockStatement" then do
        let gap ← pure " "
        k gap
      else do
        let indent ← pad
        let gap ← pure ("\n" ++ indent)
        k gap) layout Q := by
  split
  · exact h " " (fun c hc => .inl (List.mem_singleton.mp hc)) fun _ => rfl
  · refine prints_pad.bind fun indent hindent => h ("\n" ++ indent) ?_ fun cs => ?_
    · rw [String.toList_append]
      exact isGap_line hindent
    · rw [String.toList_append]
      rfl

/-- An `if` behind an `else` stays on its line. -/
theorem prints_alternate {kind : String} {k : String → Printing String} {Q : String → Prop}
    (hs : s.IsPrinted strict) (ht : t.StandsFor s.tree) (hn : t.height ≤ n)
    (h : ∀ text : String, Spelling strict text s.words → StartsApart text → Prints (k text) layout Q) :
    Prints (if kind == "IfStatement" then do
        let text ← roles n .statement t
        let rest ← pure (" " ++ text)
        k rest
      else do
        let rest ← nested (roles n) t
        k rest) layout Q := by
  split
  · refine (hs ht hn).bind fun text htext => h (" " ++ text) (fun hspells hcs => ?_) fun cs => ?_
    · rw [String.toList_append]
      exact spells_blank (s.head_words _).1 (htext hspells hcs)
    · rw [String.toList_append]
      rfl
  · refine (nested_printed hs ht hn).bind fun rest hprint => ?_
    obtain ⟨hrest, hapart⟩ := hprint
    exact h rest hrest hapart

theorem ifElse_isPrinted {s' : Stmt} (he : e.isLegal g = true) (hs : s.IsPrinted g.strict)
    (hs' : s'.IsPrinted g.strict) : (Stmt.ifElse e s s').IsPrinted g.strict := by
  intro t n layout ht hn
  refine prints_statement ht hn fun m hm => ?_
  obtain ⟨test, htest, hte, hth⟩ := ht.part "test" rfl rfl e.isNode_tree
  obtain ⟨yes, hyes, hye, hyh⟩ := ht.part "consequent" rfl rfl s.isNode_tree
  obtain ⟨no, hno, hne, hnh⟩ := ht.part "alternate" rfl rfl s'.isNode_tree
  obtain ⟨yesKind, hyk⟩ := Stmt.exists_kind hye
  obtain ⟨noKind, hnk⟩ := Stmt.exists_kind hne
  obtain ⟨label, fields, rfl⟩ := exists_obj_of_get? hnk
  rw [statementText, Tree.kindOf, Tree.textField_of_get? ht.kind, pure_bind]
  show Prints (ifStatement (roles m) t) layout _
  rw [ifStatement, Tree.field_of_get? htest, Tree.field_of_get? hyes, pure_bind, Tree.get_of_get? hno]
  refine (e.prints he hte (by omega) (by decide)).bind fun test hprint => ?_
  obtain ⟨htest, _⟩ := hprint
  rw [pure_bind]
  refine (nested_printed hs hye (by omega)).bind fun yesText hprint => ?_
  obtain ⟨hyes, _⟩ := hprint
  dsimp only
  rw [Tree.kindOf, Tree.textField_of_get? hyk, pure_bind, Tree.kindOf, Tree.textField_of_get? hnk]
  refine prints_gap fun gap hgap hapart => ?_
  rw [pure_bind]
  refine prints_alternate hs' hne (by omega) fun rest hrest hstart => prints_pure fun hspells hcs => ?_
  simp only [String.toList_append, List.append_assoc]
  exact spells_condition "if" rfl rfl htest (hyes (spells_gap hgap rfl
    (spells_keyword "else" rfl rfl (hstart _) (hrest hspells hcs))) (hapart _))

/-- A condition in front of a body. -/
theorem while_isPrinted (he : e.isLegal g = true) (hs : s.IsPrinted g.strict) :
    (Stmt.while_ e s).IsPrinted g.strict := by
  intro t n layout ht hn
  refine prints_statement ht hn fun m hm => ?_
  obtain ⟨test, htest, hte, hth⟩ := ht.part "test" rfl rfl e.isNode_tree
  obtain ⟨body, hbody, hbe, hbh⟩ := ht.part "body" rfl rfl s.isNode_tree
  rw [statementText, Tree.kindOf, Tree.textField_of_get? ht.kind, pure_bind]
  dsimp only
  rw [Tree.field_of_get? htest, Tree.field_of_get? hbody, pure_bind]
  refine (e.prints he hte (by omega) (by decide)).bind fun test hprint => ?_
  obtain ⟨htest, _⟩ := hprint
  rw [pure_bind]
  refine (nested_printed hs hbe (by omega)).bind fun body hprint => ?_
  obtain ⟨hbody, _⟩ := hprint
  refine prints_pure fun hspells hcs => ?_
  simp only [String.toList_append, List.append_assoc]
  exact spells_condition "while" rfl rfl htest (hbody hspells hcs)

theorem with_isPrinted (he : e.isLegal g = true) (hs : s.IsPrinted g.strict) : (Stmt.with_ e s).IsPrinted g.strict := by
  intro t n layout ht hn
  refine prints_statement ht hn fun m hm => ?_
  obtain ⟨object, hobject, hoe, hoh⟩ := ht.part "object" rfl rfl e.isNode_tree
  obtain ⟨body, hbody, hbe, hbh⟩ := ht.part "body" rfl rfl s.isNode_tree
  rw [statementText, Tree.kindOf, Tree.textField_of_get? ht.kind, pure_bind]
  dsimp only
  rw [Tree.field_of_get? hobject, Tree.field_of_get? hbody, pure_bind]
  refine (e.prints he hoe (by omega) (by decide)).bind fun object hprint => ?_
  obtain ⟨hobject, _⟩ := hprint
  rw [pure_bind]
  refine (nested_printed hs hbe (by omega)).bind fun body hprint => ?_
  obtain ⟨hbody, _⟩ := hprint
  refine prints_pure fun hspells hcs => ?_
  simp only [String.toList_append, List.append_assoc]
  exact spells_condition "with" rfl rfl hobject (hbody hspells hcs)

theorem doWhile_isPrinted (he : e.isLegal g = true) (hs : s.IsPrinted g.strict) :
    (Stmt.doWhile s e).IsPrinted g.strict := by
  intro t n layout ht hn
  refine prints_statement ht hn fun m hm => ?_
  obtain ⟨test, htest, hte, hth⟩ := ht.part "test" rfl rfl e.isNode_tree
  obtain ⟨body, hbody, hbe, hbh⟩ := ht.part "body" rfl rfl s.isNode_tree
  obtain ⟨bodyKind, hbk⟩ := Stmt.exists_kind hbe
  rw [statementText, Tree.kindOf, Tree.textField_of_get? ht.kind, pure_bind]
  dsimp only
  rw [Tree.field_of_get? hbody, Tree.field_of_get? htest, pure_bind]
  refine (nested_printed hs hbe (by omega)).bind fun body hprint => ?_
  obtain ⟨hbody, hbegin⟩ := hprint
  rw [Tree.kindOf, Tree.textField_of_get? hbk, pure_bind]
  refine prints_gap fun gap hgap hapart => ?_
  rw [pure_bind]
  refine (e.prints he hte (by omega) (by decide)).bind fun test hprint => ?_
  obtain ⟨htest, _⟩ := hprint
  refine prints_pure fun hspells hcs => ?_
  simp only [String.toList_append, List.append_assoc]
  have htail := spells_condition "while" rfl rfl htest (.mark (c := ';') (by decide) hspells)
  exact spells_keyword "do" rfl rfl (hbegin _) (hbody (spells_gap hgap rfl htail) (hapart _))

theorem throw_isPrinted (he : e.isLegal g = true) : (Stmt.throw_ e).IsPrinted g.strict := by
  intro t n layout ht hn
  refine prints_statement ht hn fun m hm => ?_
  obtain ⟨argument, hargument, hae, hah⟩ := ht.part "argument" rfl rfl e.isNode_tree
  rw [statementText, Tree.kindOf, Tree.textField_of_get? ht.kind, pure_bind]
  dsimp only
  rw [Tree.field_of_get? hargument, pure_bind]
  refine (e.prints he hae (by omega) (by decide)).bind fun text hprint => ?_
  obtain ⟨htext, _⟩ := hprint
  refine prints_pure fun hspells hcs => ?_
  simp only [String.toList_append, List.append_assoc]
  exact spells_keyword "throw" rfl rfl rfl (spells_blank (e.words_ne_nil true _)
    (htext true (.mark (c := ';') (by decide) hspells) rfl))

theorem labeled_isPrinted {l : String} (hl : g.allows l = true) (hs : s.IsPrinted g.strict) :
    (Stmt.labeled l s).IsPrinted g.strict := by
  intro t n layout ht hn
  refine prints_statement ht hn fun m hm => ?_
  obtain ⟨label, hlabel, hle, -⟩ := ht.part "label" rfl rfl (v := Tree.identifier l) rfl
  obtain ⟨body, hbody, hbe, hbh⟩ := ht.part "body" rfl rfl s.isNode_tree
  rw [statementText, Tree.kindOf, Tree.textField_of_get? ht.kind, pure_bind]
  dsimp only
  rw [Tree.field_of_get? hlabel, Tree.field_of_get? hbody, pure_bind,
    Tree.textField_of_get? (hle.leaf "name" rfl rfl rfl), pure_bind, pure_bind]
  refine (hs hbe (by omega)).bind fun body hbody => prints_pure fun hspells hcs => ?_
  simp only [String.toList_append, List.append_assoc]
  exact spelling_name hl (.mark (c := ':') (by decide) (spells_blank (s.head_words _).1 (hbody hspells hcs))) rfl

/-- What stands for an expression is a name or a call. -/
theorem Expr.exists_kind (ht : t.StandsFor e.tree) :
    ∃ k, t.get? "type" = some (.str k) ∧ k ∈ ["Identifier", "CallExpression"] := by
  cases e <;> exact ⟨_, ht.kind, by decide⟩

theorem return_isPrinted {o : Option Expr} (he : Expr.isLegalOf g o = true) :
    (Stmt.return_ o).IsPrinted g.strict := by
  intro t n layout ht hn
  refine prints_statement ht hn fun m hm => ?_
  rw [statementText, Tree.kindOf, Tree.textField_of_get? ht.kind, pure_bind]
  show Prints (returnStatement (roles m) t) layout _
  rw [returnStatement]
  cases o with
  | none =>
    rw [Tree.get_of_get? (ht.leaf "argument" rfl rfl rfl)]
    exact prints_pure fun hspells _ => spells_keyword "return" rfl rfl rfl (.mark (c := ';') (by decide) hspells)
  | some e =>
    obtain ⟨argument, hargument, hae, hah⟩ := ht.part "argument" rfl rfl e.isNode_tree
    obtain ⟨kind, hkind, hplain⟩ := Expr.exists_kind hae
    have helement : ∀ k ∈ ["Identifier", "CallExpression"], (k == "JSXElement" || k == "JSXFragment") = false := by
      decide
    obtain ⟨label, fields, rfl⟩ := exists_obj_of_get? hkind
    rw [Tree.get_of_get? hargument]
    dsimp only
    rw [Tree.kindOf, Tree.textField_of_get? hkind, pure_bind, helement kind hplain, if_neg Bool.false_ne_true,
      pure_bind, Bool.false_and]
    refine (e.prints he hae (by omega) (by decide)).bind fun text hprint => ?_
    obtain ⟨htext, _⟩ := hprint
    refine prints_pure fun hspells hcs => ?_
    simp only [String.toList_append, List.append_assoc]
    exact spells_keyword "return" rfl rfl rfl (spells_blank (e.words_ne_nil true _)
      (htext true (.mark (c := ';') (by decide) hspells) rfl))

/-- What is printed for a jump spells its words. -/
theorem jump_printed (k : String) (hk : wordType k = .keyword) (hkl : isLetters k.toList = true) {l : Option String}
    (hl : ∀ x ∈ l, g.allows x = true) {kind : String} (ht : t.StandsFor (.node kind [("label", labelTree l)])) :
    Prints (jump k t) layout fun text => Spelling g.strict text (keyword k :: labelWords l ·) := by
  rw [jump]
  cases l with
  | none =>
    rw [Tree.get_of_get? (ht.leaf "label" rfl rfl rfl)]
    refine prints_pure fun hspells _ => ?_
    rw [String.toList_append, List.append_assoc]
    exact spells_keyword k hk hkl rfl (.mark (c := ';') (by decide) hspells)
  | some x =>
    obtain ⟨label, hlabel, hle, -⟩ := ht.part "label" rfl rfl (v := Tree.identifier x) rfl
    have hname := hle.leaf "name" rfl rfl rfl
    have htruthy : label.truthy = true := by
      obtain ⟨number, fields, rfl⟩ := exists_obj_of_get? hname
      cases fields with
      | nil => cases hname
      | cons => rfl
    rw [Tree.get_of_get? hlabel, if_pos htruthy, Tree.textField_of_get? hname, pure_bind]
    refine prints_pure fun hspells _ => ?_
    simp only [String.toList_append, List.append_assoc]
    exact spells_keyword k hk hkl rfl (spells_blank nofun
      (spelling_name (hl x rfl) (.mark (c := ';') (by decide) hspells) rfl))

theorem break_isPrinted {l : Option String} (hl : ∀ x ∈ l, g.allows x = true) : (Stmt.break_ l).IsPrinted g.strict := by
  intro t n layout ht hn
  refine prints_statement ht hn fun m hm => ?_
  rw [statementText, Tree.kindOf, Tree.textField_of_get? ht.kind, pure_bind]
  exact jump_printed "break" rfl rfl hl ht

theorem continue_isPrinted {l : Option String} (hl : ∀ x ∈ l, g.allows x = true) :
    (Stmt.continue_ l).IsPrinted g.strict := by
  intro t n layout ht hn
  refine prints_statement ht hn fun m hm => ?_
  rw [statementText, Tree.kindOf, Tree.textField_of_get? ht.kind, pure_bind]
  exact jump_printed "continue" rfl rfl hl ht

/-! ### Expressions as statements -/

/-- The letters with which a text starts, if something else stands behind them. -/
theorem eq_of_append {u v more rest : List Char} {p : Char → Bool} (h : u ++ more = v ++ rest)
    (hu : ∀ c ∈ u, p c = true) (hv : ∀ c ∈ v, p c = true) (hm : more.head?.any p = false)
    (hr : rest.head?.any p = false) : u = v := by
  have hfirst {w tail : List Char} (hw : ∀ c ∈ w, p c = true) (ht : tail.head?.any p = false) :
      (w ++ tail).takeWhile p = w := by
    rw [List.takeWhile_append_of_pos hw]
    cases tail with
    | nil => rw [List.takeWhile_nil, List.append_nil]
    | cons c tail => rw [List.takeWhile_cons_of_neg (Bool.eq_false_iff.mp (by exact ht)), List.append_nil]
  rw [← hfirst hu hm, h, hfirst hv hr]

theorem Expr.letters_head (he : e.isLegal g = true) : isLetters e.head.toList = true ∧ wordType e.head = .name := by
  cases e with
  | name x => exact ⟨(Ground.letters_of_allows he).1, (Ground.letters_of_allows he).2.1⟩
  | call f args =>
    obtain ⟨hf, -⟩ := Bool.and_eq_true_iff.mp he
    exact ⟨(Ground.letters_of_allows hf).1, (Ground.letters_of_allows hf).2.1⟩

/-- What starts with a name is not read as a declaration. -/
theorem not_startsWith_let {text : String} (he : e.isLegal g = true) (h : StartsWith text e.head) :
    startsWith text "let [" = false := by
  obtain ⟨hletters, htype⟩ := Expr.letters_head he
  obtain ⟨more, htext, hmore⟩ := h
  have hparts {u : List Char} (hu : isLetters u = true) (c : Char) (hc : c ∈ u) : Text.isIdentifierPart c = true := by
    rw [isLetters, Bool.and_eq_true, List.all_eq_true] at hu
    exact (Bool.and_eq_true_iff.mp (hu.2 c hc)).1
  refine Bool.eq_false_iff.mpr fun hprefix => ?_
  obtain ⟨tail, htail⟩ := List.isPrefixOf_iff_prefix.mp hprefix
  have hrest : e.head.toList ++ more = "let".toList ++ (' ' :: '[' :: tail) := htext.symm.trans htail.symm
  have hhead : e.head.toList = "let".toList := eq_of_append hrest (hparts hletters) (hparts rfl) hmore rfl
  rw [String.toList_inj.mp hhead] at htype
  cases htype

/-- No expression looks like a declaration, so none is put in brackets. -/
theorem not_startsAmbiguously (ht : t.StandsFor e.tree) :
    t.startsAmbiguously (m := Printing) = pure false := by
  obtain ⟨m, hm⟩ : ∃ m, t.height = m + 1 := ⟨t.height - 1, by have := t.height_pos; omega⟩
  have hname {x : String} {u : Tree} (hu : u.StandsFor (Tree.identifier x)) :
      (u.kindOf : Printing String) = pure "Identifier" ∧ ∀ fuel, u.leftmostWithin (m := Printing) fuel = pure u := by
    have hkind : (u.kindOf : Printing String) = pure "Identifier" := Tree.textField_of_get? hu.kind
    refine ⟨hkind, fun fuel => ?_⟩
    cases fuel with
    | zero => rfl
    | succ fuel =>
      rw [Tree.leftmostWithin, Tree.leading?, hkind, pure_bind]
      rfl
  rw [Tree.startsAmbiguously, Tree.leftmost, hm]
  cases e with
  | name x =>
    obtain ⟨hkind, hleft⟩ := hname ht
    rw [hleft, pure_bind, hkind]
    rfl
  | call f args =>
    obtain ⟨callee, hcallee, hstands, -⟩ := ht.part "callee" rfl rfl (v := Tree.identifier f) rfl
    obtain ⟨hkind, hleft⟩ := hname hstands
    have hcall : (t.kindOf : Printing String) = pure "CallExpression" := Tree.textField_of_get? ht.kind
    have hleading : t.leading? (m := Printing) = pure (some callee) := by
      rw [Tree.leading?, hcall, pure_bind]
      show some <$> t.field "callee" = _
      rw [Tree.field_of_get? hcallee, map_pure]
    rw [Tree.leftmostWithin, hleading, pure_bind]
    dsimp only
    rw [Tree.precedence, hkind, pure_bind, Tree.precedence, hcall, pure_bind, if_neg (by decide), if_neg (by decide),
      pure_bind, pure_bind, if_neg (by decide), pure_bind, pure_bind, hleft]
    rw [if_neg (by decide), pure_bind, hkind]
    rfl

theorem expression_isPrinted (he : e.isLegal g = true) : (Stmt.expression e).IsPrinted g.strict := by
  intro t n layout ht hn
  refine prints_statement ht hn fun m hm => ?_
  obtain ⟨inner, hinner, hie, hih⟩ := ht.part "expression" rfl rfl e.isNode_tree
  rw [statementText, Tree.kindOf, Tree.textField_of_get? ht.kind, pure_bind]
  show Prints (expressionStatement (roles m) t) layout _
  obtain ⟨kind, hkind, -⟩ := Expr.exists_kind hie
  rw [expressionStatement, Tree.field_of_get? hinner, pure_bind, ht.absent "directive" rfl rfl, Tree.kindOf,
    Tree.textField_of_get? hkind, pure_bind, if_neg (by exact Bool.false_ne_true)]
  refine (e.prints he hie (by omega) (by decide)).bind fun text hprint => ?_
  obtain ⟨htext, hstart⟩ := hprint
  rw [not_startsAmbiguously hie, pure_bind, not_startsWith_let he hstart]
  refine prints_pure fun hspells hcs => ?_
  show Spells _ ((text ++ ";").toList ++ _) _
  rw [String.toList_append, List.append_assoc]
  exact htext false (.mark (c := ';') (by decide) hspells) rfl

/-! ### Loops with a head -/

/-- A part that may be missing stands for nothing or for the expression. -/
theorem exists_optional {u : Tree} {o : Option Expr} (ht : t.StandsFor u) (key : String)
    (hk : Tree.holdsChildren key = true) (hv : u.get? key = some (Expr.treeOf o)) :
    (o = none ∧ t.get key = .null) ∨
      ∃ e, o = some e ∧ (t.get key).StandsFor e.tree ∧ (t.get key).height < t.height := by
  cases o with
  | none => exact .inl ⟨rfl, Tree.get_of_get? (ht.leaf key (Tree.isShapeKey_of_holdsChildren hk) hv rfl)⟩
  | some e =>
    obtain ⟨w, hw, hstands, hheight⟩ := ht.part key hk hv e.isNode_tree
    rw [Tree.get_of_get? hw]
    exact .inr ⟨e, rfl, hstands, hheight⟩

theorem Expr.isNull_of_standsFor (ht : t.StandsFor e.tree) : t.isNull = false := by
  obtain ⟨kind, hkind, -⟩ := Expr.exists_kind ht
  obtain ⟨label, fields, rfl⟩ := exists_obj_of_get? hkind
  rfl

/-- The start of a loop is printed as an expression. -/
theorem loopInit_printed {noIn : Bool} (he : e.isLegal g = true) (ht : t.StandsFor e.tree) (hn : t.height ≤ n) :
    Prints (loopInit (roles n) t noIn) layout fun text => Spelling g.strict text (e.words false) := by
  obtain ⟨kind, hkind, hplain⟩ := Expr.exists_kind ht
  have hdeclaration : ∀ k ∈ ["Identifier", "CallExpression"], (k == "VariableDeclaration") = false := by decide
  rw [loopInit, Expr.isNull_of_standsFor ht, if_neg Bool.false_ne_true, prints_withNoIn, Tree.kindOf,
    Tree.textField_of_get? hkind, pure_bind, hdeclaration kind hplain, if_neg Bool.false_ne_true]
  exact (e.prints he ht hn (by decide)).mono fun _ h => h.1 false

/-- The first part of the head of a loop. -/
theorem init_printed {u : Tree} {o : Option Expr} {key : String} (he : Expr.isLegalOf g o = true) (ht : t.StandsFor u)
    (hk : Tree.holdsChildren key = true) (hv : u.get? key = some (Expr.treeOf o)) (hn : t.height ≤ n + 1) :
    Prints (loopInit (roles n) (t.get key) true) layout fun text => Spelling g.strict text (Expr.wordsOf false o) := by
  rcases exists_optional ht key hk hv with ⟨rfl, hnull⟩ | ⟨e, rfl, hstands, hheight⟩
  · rw [hnull]
    exact prints_pure fun hspells _ => hspells
  · exact loopInit_printed he hstands (by omega)

/-- Another part of the head of a loop. -/
theorem part_printed {u : Tree} {o : Option Expr} {key : String} (he : Expr.isLegalOf g o = true) (ht : t.StandsFor u)
    (hk : Tree.holdsChildren key = true) (hv : u.get? key = some (Expr.treeOf o)) (hn : t.height ≤ n + 1) :
    Prints (loopPart (roles n) (t.get key)) layout fun text => Spelling g.strict text (Expr.wordsOf false o) := by
  rcases exists_optional ht key hk hv with ⟨rfl, hnull⟩ | ⟨e, rfl, hstands, hheight⟩
  · rw [hnull]
    exact prints_pure fun hspells _ => hspells
  · rw [loopPart, Expr.isNull_of_standsFor hstands, if_neg Bool.false_ne_true]
    refine (e.prints he hstands (by omega) (by decide)).bind fun text hprint => ?_
    obtain ⟨htext, _⟩ := hprint
    refine prints_pure fun hspells hcs => ?_
    split
    · rename_i hempty
      rw [String.isEmpty_iff.mp hempty] at htext
      exact htext false hspells hcs
    · rw [String.toList_append]
      exact spells_blank (e.words_ne_nil false _) (htext false hspells hcs)

theorem for_isPrinted {i o u : Option Expr} (hi : Expr.isLegalOf g i = true) (ho : Expr.isLegalOf g o = true)
    (hu : Expr.isLegalOf g u = true) (hs : s.IsPrinted g.strict) : (Stmt.for_ i o u s).IsPrinted g.strict := by
  intro t n layout ht hn
  refine prints_statement ht hn fun m hm => ?_
  obtain ⟨body, hbody, hbe, hbh⟩ := ht.part "body" rfl rfl s.isNode_tree
  rw [statementText, Tree.kindOf, Tree.textField_of_get? ht.kind, pure_bind]
  refine (init_printed hi ht rfl rfl hm).bind fun init hinit => ?_
  refine (part_printed ho ht rfl rfl hm).bind fun test htest => ?_
  refine (part_printed hu ht rfl rfl hm).bind fun update hupdate => ?_
  rw [Tree.field_of_get? hbody, pure_bind]
  refine (nested_printed hs hbe (by omega)).bind fun body hprint => ?_
  obtain ⟨hbody, _⟩ := hprint
  refine prints_pure fun hspells hcs => ?_
  simp only [String.toList_append, List.append_assoc]
  have hhead := hinit (.mark (c := ';') (by decide) (htest (.mark (c := ';') (by decide)
    (hupdate (.mark (c := ')') (by decide) (hbody hspells hcs)) rfl)) rfl)) rfl
  exact spells_keyword "for" rfl rfl rfl (spells_blank nofun (.mark (c := '(') (by decide) hhead))

/-- What is printed for a loop over keys or items: its first word, the name, the word between, and so on. -/
theorem loopOver_printed (middle : String) (w : Word) {least : Nat} {x : String} {u : Tree}
    (hmiddle : ∀ {cs ws}, Spells g.strict cs ws → cs.head?.any Text.isIdentifierPart = false →
      Spells g.strict (middle.toList ++ cs) (w :: ws))
    (hx : g.allows x = true) (he : e.isLegal g = true) (hs : s.IsPrinted g.strict) (hl : least ≤ 19)
    (ht : t.StandsFor u) (hleft : u.get? "left" = some (Tree.identifier x)) (hright : u.get? "right" = some e.tree)
    (hbody : u.get? "body" = some s.tree) (hn : t.height ≤ n + 1) :
    Prints (loopOver (roles n) t "for" (" " ++ middle ++ " ") least) layout fun text =>
      Spelling g.strict text fun ws => keyword "for" :: Word.mark "(" :: nameWord false x :: w ::
        e.words false (Word.mark ")" :: s.words ws) := by
  obtain ⟨left, hleft, hle, hlh⟩ := ht.part "left" rfl hleft rfl
  obtain ⟨right, hright, hre, hrh⟩ := ht.part "right" rfl hright e.isNode_tree
  obtain ⟨body, hbody, hbe, hbh⟩ := ht.part "body" rfl hbody s.isNode_tree
  rw [loopOver, Tree.field_of_get? hleft, Tree.field_of_get? hright, Tree.field_of_get? hbody, pure_bind]
  refine (loopInit_printed (e := .name x) hx hle (by omega)).bind fun left hleft => ?_
  rw [pure_bind]
  refine (e.prints he hre (by omega) hl).bind fun right hprint => ?_
  obtain ⟨hright, _⟩ := hprint
  rw [pure_bind]
  refine (nested_printed hs hbe (by omega)).bind fun body hprint => ?_
  obtain ⟨hbody, _⟩ := hprint
  refine prints_pure fun hspells hcs => ?_
  simp only [String.toList_append, List.append_assoc]
  have hrest := hmiddle (spells_blank (e.words_ne_nil false _)
    (hright false (.mark (c := ')') (by decide) (hbody hspells hcs)) rfl)) rfl
  exact spells_keyword "for" rfl rfl rfl (spells_blank nofun (.mark (c := '(') (by decide)
    (hleft (spells_blank nofun hrest) rfl)))

theorem forIn_isPrinted {x : String} (hx : g.allows x = true) (he : e.isLegal g = true) (hs : s.IsPrinted g.strict) :
    (Stmt.forIn x e s).IsPrinted g.strict := by
  intro t n layout ht hn
  refine prints_statement ht hn fun m hm => ?_
  rw [statementText, Tree.kindOf, Tree.textField_of_get? ht.kind, pure_bind]
  exact loopOver_printed "in" (keyword "in") (fun hspells hcs => spells_keyword "in" rfl rfl hcs hspells)
    hx he hs (by decide) ht rfl rfl rfl hm

theorem forOf_isPrinted {x : String} (hx : g.allows x = true) (he : e.isLegal g = true) (hs : s.IsPrinted g.strict) :
    (Stmt.forOf x e s).IsPrinted g.strict := by
  intro t n layout ht hn
  refine prints_statement ht hn fun m hm => ?_
  rw [statementText, Tree.kindOf, Tree.textField_of_get? ht.kind, pure_bind]
  show Prints (loopOver (roles m) t (if (t.get "await").truthy then "for await" else "for") " of " 3) layout _
  rw [ht.absent "await" rfl rfl]
  exact loopOver_printed "of" (nameWord false "of")
    (fun hspells hcs => .name false rfl (fun _ _ => rfl) hcs hspells) hx he hs (by decide) ht rfl rfl rfl hm

/-! ### Handlers -/

/-- A name is printed alike where it is a pattern. -/
theorem prints_pattern {x : String} (ht : t.StandsFor (Tree.identifier x)) (hn : t.height < n) :
    Prints (roles n .pattern t) layout (x = ·) := by
  obtain ⟨m, rfl⟩ : ∃ m, n = m + 1 := ⟨n - 1, by omega⟩
  show Prints (Printer.pattern (roles m) t) layout _
  rw [Printer.pattern, Tree.kindOf, Tree.textField_of_get? ht.kind, pure_bind]
  exact prints_name ht (by omega) (by decide)

section Try

variable {x : String} {h f : Stmts} {k : String → Printing String} {Q : String → Prop}

/-- What follows the parameter of a handler. -/
theorem prints_handler {param : Tree} (hx : g.binds x = true) (hh : h.IsPrinted g.strict)
    (ht : t.StandsFor (handlerTree x h.trees)) (hn : t.height ≤ n) (hparam : t.get? "param" = some param)
    (hk : ∀ text : String, (Spelling g.strict text fun ws => keyword "catch" :: Word.mark "(" :: nameWord false x ::
      Word.mark ")" :: blockWords h.words ws) → StartsApart text → Prints (k text) layout Q) :
    Prints (do
      let name ← roles n .pattern param
      let param ← pure (parenthesized name ++ " ")
      let body ← t.field "body"
      let text ← block (roles n) body
      let handler ← pure (" catch " ++ param ++ text)
      k handler) layout Q := by
  obtain ⟨_, hfield, hpe, hph⟩ := ht.part "param" rfl rfl (v := Tree.identifier x) rfl
  obtain rfl := Option.some.inj (hparam.symm.trans hfield)
  obtain ⟨body, hbody, hbe, hbh⟩ := ht.part "body" rfl rfl (v := blockTree h.trees) rfl
  refine (prints_pattern hpe (by omega)).bind fun name hname => ?_
  subst hname
  rw [pure_bind, Tree.field_of_get? hbody, pure_bind]
  refine (block_printed hh hbe (by omega)).bind fun text htext => ?_
  rw [pure_bind]
  refine hk _ (fun {cs ws} hspells hcs => ?_) fun cs => ?_
  · simp only [parenthesized, String.toList_append, List.append_assoc]
    have hbody : Spells g.strict _ (blockWords h.words ws) := spells_blank nofun (htext hspells hcs)
    have hname : Spells g.strict _ (nameWord false x :: _) :=
      spelling_name (Bool.and_eq_true_iff.mp hx).1 (.mark (c := ')') (by decide) hbody) rfl
    exact spells_blank nofun
      (spells_keyword "catch" rfl rfl rfl (spells_blank nofun (.mark (c := '(') (by decide) hname)))
  · simp only [String.toList_append, List.append_assoc]
    rfl

/-- A last block is printed behind its keyword. -/
theorem prints_finalizer (hf : f.IsPrinted strict) (ht : t.StandsFor (blockTree f.trees)) (hn : t.height ≤ n)
    (hk : ∀ text : String, (Spelling strict text fun ws => keyword "finally" :: blockWords f.words ws) →
      StartsApart text → Prints (k text) layout Q) :
    Prints (do
      let text ← block (roles n) t
      let finalizer ← pure (" finally " ++ text)
      k finalizer) layout Q := by
  refine (block_printed hf ht (by omega)).bind fun text htext => ?_
  rw [pure_bind]
  refine hk _ (fun hspells hcs => ?_) fun cs => ?_
  · rw [String.toList_append, List.append_assoc]
    exact spells_blank nofun (spells_keyword "finally" rfl rfl rfl (spells_blank nofun (htext hspells hcs)))
  · rw [String.toList_append]
    rfl

theorem tryCatch_isPrinted (hb : b.IsPrinted g.strict) (hx : g.binds x = true) (hh : h.IsPrinted g.strict) :
    (Stmt.tryCatch b x h).IsPrinted g.strict := by
  intro t n layout ht hn
  refine prints_statement ht hn fun m hm => ?_
  obtain ⟨block, hblock, hbe, hbh⟩ := ht.part "block" rfl rfl (v := blockTree b.trees) rfl
  obtain ⟨handler, hhandler, hhe, hhh⟩ := ht.part "handler" rfl rfl (v := handlerTree x h.trees) rfl
  obtain ⟨param, hparam, hpe, -⟩ := hhe.part "param" rfl rfl (v := Tree.identifier x) rfl
  obtain ⟨_, _, rfl⟩ := exists_obj_of_get? hhe.kind
  obtain ⟨_, _, rfl⟩ := exists_obj_of_get? hpe.kind
  rw [statementText, Tree.kindOf, Tree.textField_of_get? ht.kind, pure_bind]
  show Prints (tryStatement (roles m) t) layout _
  rw [tryStatement, Tree.field_of_get? hblock, pure_bind, Tree.get_of_get? hhandler,
    Tree.get_of_get? (ht.leaf "finalizer" rfl rfl rfl)]
  refine (block_printed hb hbe (by omega)).bind fun block hblock => ?_
  dsimp only
  rw [Tree.get_of_get? hparam]
  refine prints_handler hx hh hhe (by omega) hparam fun handler hhandler hapart => ?_
  refine prints_pure fun hspells hcs => ?_
  simp only [String.toList_append, List.append_assoc]
  exact spells_keyword "try" rfl rfl rfl (spells_blank nofun (hblock (hhandler hspells hcs) (hapart _)))

theorem tryFinally_isPrinted (hb : b.IsPrinted strict) (hf : f.IsPrinted strict) :
    (Stmt.tryFinally b f).IsPrinted strict := by
  intro t n layout ht hn
  refine prints_statement ht hn fun m hm => ?_
  obtain ⟨block, hblock, hbe, hbh⟩ := ht.part "block" rfl rfl (v := blockTree b.trees) rfl
  obtain ⟨finalizer, hfinalizer, hfe, hfh⟩ := ht.part "finalizer" rfl rfl (v := blockTree f.trees) rfl
  obtain ⟨_, _, rfl⟩ := exists_obj_of_get? hfe.kind
  rw [statementText, Tree.kindOf, Tree.textField_of_get? ht.kind, pure_bind]
  show Prints (tryStatement (roles m) t) layout _
  rw [tryStatement, Tree.field_of_get? hblock, pure_bind, Tree.get_of_get? (ht.leaf "handler" rfl rfl rfl),
    Tree.get_of_get? hfinalizer]
  refine (block_printed hb hbe (by omega)).bind fun block hblock => ?_
  refine prints_finalizer hf hfe (by omega) fun finalizer hfinalizer hapart => ?_
  refine prints_pure fun hspells hcs => ?_
  simp only [String.toList_append, List.append_assoc]
  exact spells_keyword "try" rfl rfl rfl (spells_blank nofun (hblock (hfinalizer hspells hcs) (hapart _)))

theorem tryBoth_isPrinted (hb : b.IsPrinted g.strict) (hx : g.binds x = true) (hh : h.IsPrinted g.strict)
    (hf : f.IsPrinted g.strict) : (Stmt.tryBoth b x h f).IsPrinted g.strict := by
  intro t n layout ht hn
  refine prints_statement ht hn fun m hm => ?_
  obtain ⟨block, hblock, hbe, hbh⟩ := ht.part "block" rfl rfl (v := blockTree b.trees) rfl
  obtain ⟨handler, hhandler, hhe, hhh⟩ := ht.part "handler" rfl rfl (v := handlerTree x h.trees) rfl
  obtain ⟨finalizer, hfinalizer, hfe, hfh⟩ := ht.part "finalizer" rfl rfl (v := blockTree f.trees) rfl
  obtain ⟨param, hparam, hpe, -⟩ := hhe.part "param" rfl rfl (v := Tree.identifier x) rfl
  obtain ⟨_, _, rfl⟩ := exists_obj_of_get? hhe.kind
  obtain ⟨_, _, rfl⟩ := exists_obj_of_get? hpe.kind
  obtain ⟨_, _, rfl⟩ := exists_obj_of_get? hfe.kind
  rw [statementText, Tree.kindOf, Tree.textField_of_get? ht.kind, pure_bind]
  show Prints (tryStatement (roles m) t) layout _
  rw [tryStatement, Tree.field_of_get? hblock, pure_bind, Tree.get_of_get? hhandler, Tree.get_of_get? hfinalizer]
  refine (block_printed hb hbe (by omega)).bind fun block hblock => ?_
  dsimp only
  rw [Tree.get_of_get? hparam]
  refine prints_handler hx hh hhe (by omega) hparam fun handler hhandler hapart => ?_
  refine prints_finalizer hf hfe (by omega) fun finalizer hfinalizer hapart' => ?_
  refine prints_pure fun hspells hcs => ?_
  simp only [String.toList_append, List.append_assoc]
  exact spells_keyword "try" rfl rfl rfl (spells_blank nofun
    (hblock (hhandler (hfinalizer hspells hcs) (hapart' _)) (hapart _)))

end Try

/-! ### Cases -/

section Cases

variable {o : Option Expr} {cases : Cases} {label : Tree}

/-- What follows the test of a case. -/
theorem case_printed {head : String} (hhead : Spelling strict head (caseWords o)) (hb : b.IsPrinted strict)
    (ht : t.StandsFor (.node "SwitchCase" [("test", label), ("consequent", .list b.trees)])) (hn : t.height ≤ n) :
    Prints (do
      let indent ← pad
      let comments ← leadingComments t true
      let line := indent ++ comments ++ head
      let body ← t.listField "consequent"
      if body.isEmpty then return [line]
      else do
        let text ← deeper (statements (roles n) body)
        return [line, text]) layout fun lines =>
      Spelling strict (String.join (lines.map ("\n" ++ ·))) fun ws => caseWords o (b.words ws) := by
  obtain ⟨ts, hts, hall, hlower⟩ := ht.parts "consequent" rfl rfl b.isNode_trees
  have hheights : ∀ t ∈ ts, t.height ≤ n := fun t hm => by have := hlower t hm; omega
  refine prints_pad.bind fun indent hindent => ?_
  rw [leadingComments_of_bare ht.isBare, pure_bind, Tree.listField_of_get? hts, pure_bind,
    String.append_empty]
  have hline {cs ws} (hs : Spells strict cs ws) (hcs : cs.head?.any Text.isIdentifierPart = false) :
      Spells strict (("\n" ++ (indent ++ head)).toList ++ cs) (caseWords o ws) := by
    simp only [String.toList_append, List.append_assoc]
    refine Spells.gap (g := '\n' :: indent.toList) (isGap_line hindent) ?_ ?_ (hhead hs hcs)
    · cases o <;> rintro _ ⟨⟩ hj <;> cases hj
    · cases o <;> nofun
  cases b with
  | nil =>
    cases hall
    refine prints_pure fun hspells hcs => ?_
    rw [List.map_singleton, String.join_cons, String.join_nil, String.append_empty]
    exact hline hspells hcs
  | cons s b =>
    cases hall with
    | @cons t _ more _ ht hmore =>
    rw [if_neg nofun]
    refine (prints_deeper.mpr (statements_printed hb (.cons ht hmore) hheights)).bind fun text htext => ?_
    refine prints_pure fun hspells hcs => ?_
    rw [List.map_cons, List.map_singleton, String.join_cons, String.join_cons, String.join_nil, String.append_empty,
      String.toList_append, List.append_assoc]
    refine hline (htext hspells hcs) ?_
    rw [String.toList_append]
    rfl

/-- **A case is printed** over the lines of its statements. -/
theorem switchCase_printed (ho : Expr.isLegalOf g o = true) (hb : b.IsPrinted g.strict)
    (ht : t.StandsFor (.node "SwitchCase" [("test", Expr.treeOf o), ("consequent", .list b.trees)]))
    (hn : t.height ≤ n) :
    Prints (switchCase (roles n) t) layout fun lines =>
      Spelling g.strict (String.join (lines.map ("\n" ++ ·))) fun ws => caseWords o (b.words ws) := by
  rw [switchCase]
  cases o with
  | none =>
    rw [Tree.get_of_get? (ht.leaf "test" rfl rfl rfl)]
    exact case_printed (o := none) (fun hspells _ => spells_keyword "default" rfl rfl rfl
      (.mark (c := ':') (by decide) hspells)) hb ht hn
  | some e =>
    obtain ⟨test, htest, hte, hth⟩ := ht.part "test" rfl rfl e.isNode_tree
    obtain ⟨kind, hkind, -⟩ := Expr.exists_kind hte
    obtain ⟨_, _, rfl⟩ := exists_obj_of_get? hkind
    rw [Tree.get_of_get? htest]
    refine (e.prints ho hte (by omega) (by decide)).bind fun test hprint => ?_
    obtain ⟨htest, _⟩ := hprint
    refine case_printed (o := some e) (fun hspells _ => ?_) hb ht hn
    simp only [String.toList_append, List.append_assoc]
    exact spells_keyword "case" rfl rfl rfl (spells_blank (e.words_ne_nil false _)
      (htest false (.mark (c := ':') (by decide) hspells) rfl))

theorem Cases.nil_isPrinted : Cases.nil.IsPrinted strict := by
  intro ts n layout hts _
  cases hts
  exact prints_pure fun hs _ => hs

theorem Cases.cons_isPrinted (ho : Expr.isLegalOf g o = true) (hb : b.IsPrinted g.strict)
    (hcases : cases.IsPrinted g.strict) : (Cases.cons o b cases).IsPrinted g.strict := by
  intro ts n layout hts hn
  cases hts with
  | @cons t _ more _ ht hmore =>
  obtain ⟨hnt, hnmore⟩ := List.forall_mem_cons.mp hn
  rw [List.mapM_cons]
  refine (switchCase_printed ho hb ht hnt).bind fun lines hlines => ?_
  refine (hcases hmore hnmore).bind fun rest hrest => prints_pure fun hspells hcs => ?_
  rw [List.flatten_cons, List.map_append, String.join_append, String.toList_append, List.append_assoc]
  exact hlines (hrest hspells hcs) (head?_join_lines hcs)

theorem switch_isPrinted (he : e.isLegal g = true) (hcases : cases.IsPrinted g.strict) :
    (Stmt.switch e cases).IsPrinted g.strict := by
  intro t n layout ht hn
  refine prints_statement ht hn fun m hm => ?_
  obtain ⟨test, htest, hte, hth⟩ := ht.part "discriminant" rfl rfl e.isNode_tree
  obtain ⟨ts, hts, hall, hlower⟩ := ht.parts "cases" rfl rfl cases.isNode_trees
  rw [statementText, Tree.kindOf, Tree.textField_of_get? ht.kind, pure_bind]
  show Prints (switchStatement (roles m) t) layout _
  rw [switchStatement, Tree.field_of_get? htest, pure_bind, Tree.listField_of_get? hts]
  refine (e.prints he hte (by omega) (by decide)).bind fun test hprint => ?_
  obtain ⟨htest, _⟩ := hprint
  rw [pure_bind]
  refine (prints_deeper.mpr (hcases hall fun u hu => by have := hlower u hu; omega)).bind fun lines hlines => ?_
  refine prints_pad.bind fun indent hindent => prints_pure fun hspells hcs => ?_
  rw [List.cons_append, intercalate_lines, List.map_append, String.join_append, List.map_singleton, String.join_cons,
    String.join_nil, String.append_empty]
  simp only [String.toList_append, List.append_assoc]
  have hclose := spells_gap (isGap_line hindent) rfl (.mark (c := '\x7d') (by decide) hspells)
  have hinner := hlines hclose rfl
  exact spells_condition "switch" rfl rfl htest (spells_blank nofun (.mark (c := '\x7b') (by decide) hinner))

end Cases

/-! ### Whole statements -/

mutual

/-- **What is printed for a statement spells its words**, wherever the statement may stand. -/
theorem Stmt.isPrinted : ∀ (s : Stmt) {g : Ground} {target : Bool}, s.isLegal g target = true → s.IsPrinted g.strict
  | .block b, g, _, h => block_isPrinted (b.isPrinted h)
  | .empty, _, _, _ => empty_isPrinted
  | .expression e, g, _, h => expression_isPrinted h
  | .return_ o, g, _, h => return_isPrinted (Bool.and_eq_true_iff.mp h).2
  | .throw_ e, g, _, h => throw_isPrinted h
  | .break_ none, g, _, h => break_isPrinted (by rintro _ ⟨⟩)
  | .break_ (some l), g, _, h => break_isPrinted (by rintro _ ⟨⟩; exact (Bool.and_eq_true_iff.mp h).1)
  | .continue_ none, g, _, h => continue_isPrinted (by rintro _ ⟨⟩)
  | .continue_ (some l), g, _, h => continue_isPrinted (by rintro _ ⟨⟩; exact (Bool.and_eq_true_iff.mp h).1)
  -- a statement inside another one is legal on the ground that the other one makes for it
  | .labeled l s, g, _, h => by
    simp only [Stmt.isLegal, Bool.and_eq_true] at h
    exact labeled_isPrinted h.1.1 (s.isPrinted (g := g.behind l) h.2)
  | .if_ e s, g, _, h => by
    simp only [Stmt.isLegal, Bool.and_eq_true] at h
    exact if_isPrinted h.1 (s.isPrinted h.2)
  | .ifElse e s s', g, _, h => by
    simp only [Stmt.isLegal, Bool.and_eq_true] at h
    exact ifElse_isPrinted h.1.1.1 (s.isPrinted h.1.2) (s'.isPrinted h.2)
  | .for_ i e u s, g, _, h => by
    simp only [Stmt.isLegal, Bool.and_eq_true] at h
    exact for_isPrinted h.1.1.1 h.1.1.2 h.1.2 (s.isPrinted (g := g.loop) h.2)
  | .forIn x e s, g, _, h => by
    simp only [Stmt.isLegal, Bool.and_eq_true] at h
    exact forIn_isPrinted h.1.1.2 h.1.2 (s.isPrinted (g := g.loop) h.2)
  | .forOf x e s, g, _, h => by
    simp only [Stmt.isLegal, Bool.and_eq_true] at h
    exact forOf_isPrinted h.1.1.1.2 h.1.2 (s.isPrinted (g := g.loop) h.2)
  | .while_ e s, g, _, h => by
    simp only [Stmt.isLegal, Bool.and_eq_true] at h
    exact while_isPrinted h.1 (s.isPrinted (g := g.loop) h.2)
  | .doWhile s e, g, _, h => by
    simp only [Stmt.isLegal, Bool.and_eq_true] at h
    exact doWhile_isPrinted h.1 (s.isPrinted (g := g.loop) h.2)
  | .with_ e s, g, _, h => by
    simp only [Stmt.isLegal, Bool.and_eq_true] at h
    exact with_isPrinted h.1.2 (s.isPrinted h.2)
  | .tryCatch b x f, g, _, h => by
    simp only [Stmt.isLegal, Bool.and_eq_true] at h
    exact tryCatch_isPrinted (b.isPrinted h.1.1) h.1.2 (f.isPrinted h.2)
  | .tryFinally b f, g, _, h => by
    simp only [Stmt.isLegal, Bool.and_eq_true] at h
    exact tryFinally_isPrinted (b.isPrinted h.1) (f.isPrinted h.2)
  | .tryBoth b x f f', g, _, h => by
    simp only [Stmt.isLegal, Bool.and_eq_true] at h
    exact tryBoth_isPrinted (b.isPrinted h.1.1.1) h.1.1.2 (f.isPrinted h.1.2) (f'.isPrinted h.2)
  | .switch e cs, g, _, h => by
    simp only [Stmt.isLegal, Bool.and_eq_true] at h
    exact switch_isPrinted h.1.1 (cs.isPrinted (g := g.switch) h.1.2)

/-- What is printed for statements spells their words. -/
theorem Stmts.isPrinted : ∀ (b : Stmts) {g : Ground}, b.isLegal g = true → b.IsPrinted g.strict
  | .nil, _, _ => Stmts.nil_isPrinted
  | .cons s rest, g, h => by
    obtain ⟨hs, hrest⟩ := Bool.and_eq_true_iff.mp h
    exact Stmts.cons_isPrinted (s.isPrinted hs) (rest.isPrinted hrest)

/-- What is printed for cases spells their words. -/
theorem Cases.isPrinted : ∀ (cs : Cases) {g : Ground}, cs.isLegal g = true → cs.IsPrinted g.strict
  | .nil, _, _ => Cases.nil_isPrinted
  | .cons o b rest, g, h => by
    simp only [Cases.isLegal, Bool.and_eq_true] at h
    exact Cases.cons_isPrinted h.1.1 (b.isPrinted h.1.2) (rest.isPrinted h.2)

end

end Stmt

end Deminify.Flow
