import Deminify.Proofs.Printer.Shown

/-!
# Whole programs show their comments

The printer of each role, by what it prints of an expression or a statement of each kind, and then by
how deeply nodes nest: **the printer of each role prints what it shows**
(`Deminify.Printer.faithful_roles`), and so **what is shown of a program is printed**
(`Deminify.Printer.shows_print`).
-/

set_option mvcgen.warning false

open Std.Do

namespace Deminify.Printer

namespace Faithful

variable {go : Roles} {text : String} (h : Faithful go text)
include h

theorem expressionText (t : Tree) : Yields (expressionText go t) fun s =>
    PartBears text (expressionParts t) → Shows s text := by
  have he := h.expression
  have hes := h.expressions
  have hp := h.pattern
  have hc := h.tagChildren
  refine kindOf_spec.bind fun kind hk => ?_
  split
  case h_36 => exact throw_spec.mono fun _ h => h.elim
  all_goals simp only [expressionParts, ← hk]
  -- a name, a literal or a word has no parts
  case h_1 | h_2 | h_3 | h_4 | h_5 | h_6 | h_33 => exact nothing_yields _
  · exact h.template t
  · have ht := h.template
    mvcgen [he, ht]
    grind
  · have ha := arrayItems_yields not_bears_expression_null (h.expression 3)
    mvcgen [ha]
    grind
  · have ho := h.objectProperties
    mvcgen [ho]
    grind
  · exact h.function t
  · exact h.arrow t
  · exact h.class_ t
  · mvcgen [hes]
    grind
  · simpa using h.unary t
  · mvcgen [he]
    all_goals grind
  · exact h.binary t
  · exact h.binary t
  · mvcgen [he, hp]
    grind
  · mvcgen [he]
    grind
  · exact h.call t
  · exact h.newCall t
  · exact h.member t
  · mvcgen [he]
    grind
  · mvcgen [he]
    grind
  · mvcgen [he]
    all_goals grind
  · simpa using hp t
  · simpa using hp t
  · simpa using hp t
  · simpa using hp t
  · exact h.element t
  · mvcgen [hc]
    grind
  · exact h.container t
  · mvcgen [he]
    grind

/-! ### Statements -/

theorem nested (t : Tree) : Yields (nested go t) fun s =>
    PartBears text (nestedParts t) → Shows s text := by
  have hs := h.statement
  have hd : Yields (deeper (do return "\n" ++ (← pad) ++ (← go .statement t))) fun s =>
      Bears text .statement t → Shows s text := by
    refine Yields.deeper ?_
    mvcgen [hs]
    grind
  mvcgen [Printer.nested, hs, hd]
  all_goals grind [nestedParts]

theorem expressionStatement (t : Tree) : Yields (expressionStatement go t) fun s =>
    PartBears text (if !(t.get "directive").isNull && (t.get "expression").kind == "Literal" then []
      else [(.expression, t.get "expression")]) → Shows s text := by
  have he := h.expression
  have ha (t : Tree) : Yields t.startsAmbiguously fun _ => True := yields_any _
  mvcgen [Printer.expressionStatement, he, ha]
  all_goals grind

theorem returnStatement (t : Tree) : Yields (returnStatement go t) fun s =>
    Bears text .expression (t.get "argument") → Shows s text := by
  have he := h.expression
  have hd (least : Nat) (t : Tree) := (h.expression least t).deeper
  mvcgen [Printer.returnStatement, he, hd]
  all_goals grind

theorem ifStatement (t : Tree) : Yields (ifStatement go t) fun s =>
    PartBears text ((.expression, t.get "test") :: nestedParts (t.get "consequent")
      ++ nestedParts (t.get "alternate")) → Shows s text := by
  have he := h.expression
  have hs := h.statement
  have hn := h.nested
  have hnull : ¬PartBears text (nestedParts .null) := by
    show ¬PartBears text [(.statement, .null)]
    simp
  have hif {t : Tree} (hk : (t.kind == "IfStatement") = true) : nestedParts t = [(.statement, t)] := by
    simp [nestedParts, beq_iff_eq.mp hk]
  mvcgen [Printer.ifStatement, he, hs, hn]
  all_goals grind

theorem loopInit (t : Tree) (noIn : Bool) : Yields (loopInit go t noIn) fun s =>
    PartBears text (headParts t) → Shows s text := by
  rw [Printer.loopInit]
  split
  · rename_i ht
    rw [eq_null_of_isNull ht]
    refine yields_pure fun hb => ?_
    have hb : PartBears text [(.expression, .null)] := hb
    simp at hb
  · have he := h.expression
    have hd := h.declaration
    refine Yields.withNoIn ?_ noIn
    mvcgen [he, hd]
    all_goals grind [headParts]

theorem loopPart (t : Tree) : Yields (loopPart go t) fun s =>
    Bears text .expression t → Shows s text := by
  have he := h.expression
  have hnull : t.isNull = true → ¬Bears text .expression t := fun ht => by
    rw [eq_null_of_isNull ht]
    exact not_bears_expression_null
  have hempty {s : String} (hs : Shows s text) (he : s.isEmpty = true) : Shows "" text := hs.of_isEmpty he
  mvcgen [Printer.loopPart, he]
  all_goals grind -ring -linarith

theorem loopOver (t : Tree) (word middle : String) (least : Nat) :
    Yields (loopOver go t word middle least) fun s =>
      PartBears text (headParts (t.get "left") ++ (.expression, t.get "right")
        :: nestedParts (t.get "body")) → Shows s text := by
  have hi := h.loopInit
  have he := h.expression
  have hn := h.nested
  mvcgen [Printer.loopOver, hi, he, hn]
  grind

theorem forStatement (t : Tree) : Yields (do
    let init ← Printer.loopInit go (t.get "init") true
    let test ← Printer.loopPart go (t.get "test")
    let update ← Printer.loopPart go (t.get "update")
    return "for (" ++ init ++ ";" ++ test ++ ";" ++ update ++ ")"
      ++ (← Printer.nested go (← t.field "body"))) fun s =>
    PartBears text (headParts (t.get "init") ++ (.expression, t.get "test") :: (.expression, t.get "update")
      :: nestedParts (t.get "body")) → Shows s text := by
  have hi := h.loopInit
  have hp := h.loopPart
  have hn := h.nested
  mvcgen [hi, hp, hn]
  grind

theorem tryStatement (t : Tree) : Yields (tryStatement go t) fun s =>
    PartBears text (blockParts (t.get "block") ++ (.pattern, (t.get "handler").get "param")
      :: blockParts ((t.get "handler").get "body") ++ blockParts (t.get "finalizer")) → Shows s text := by
  have hb := h.block
  have hp := h.pattern
  have hnull : ¬PartBears text (blockParts .null) := partBears_nil.mp
  have hparam : ¬Bears text .pattern (Tree.null.get "param") := not_bears_pattern_null
  have hbody : ¬PartBears text (blockParts (Tree.null.get "body")) := hnull
  mvcgen [Printer.tryStatement, hb, hp]
  all_goals grind

theorem switchCase (t : Tree) : Yields (switchCase go t) fun lines =>
    Bears text .switchCase t → ShowsAny lines text := by
  have he := h.expression
  have hs (body : List Tree) := (h.statements body).deeper
  have hseat : Bears text .switchCase t ↔ HasComment text "leadingComments" t ∨
      PartBears text ((.expression, t.get "test") :: seated .statement (t.get "consequent").items) :=
    bears_iff_leading rfl
  mvcgen [Printer.switchCase, he, hs]
  all_goals grind -ring -linarith

theorem switchStatement (t : Tree) : Yields (switchStatement go t) fun s =>
    PartBears text ((.expression, t.get "discriminant") :: seated .switchCase (t.get "cases").items) →
      Shows s text := by
  have he := h.expression
  have hc (cases : List Tree) : Yields (deeper (cases.mapM (Printer.switchCase go))) fun lines =>
      PartBears text (seated .switchCase cases) → ShowsAny lines.flatten text := by
    refine ((Yields.mapM fun t _ => h.switchCase t).mono fun lines hl hb => ?_).deeper
    obtain ⟨p, hm, hb⟩ := hb
    obtain ⟨t, ht, rfl⟩ := List.mem_map.mp hm
    obtain ⟨some, hs, hst⟩ := hl t ht
    obtain ⟨line, hline, hst⟩ := hst hb
    exact ⟨line, List.mem_flatten.mpr ⟨some, hs, hline⟩, hst⟩
  mvcgen [Printer.switchStatement, he, hc]
  grind

theorem exportNamed (t : Tree) : Yields (exportNamed go t) fun s =>
    Bears text .statement (t.get "declaration") → Shows s text := by
  have hs := h.statement
  rw [Printer.exportNamed]
  split
  · rename_i ht
    rw [ht]
    exact (yields_any _).mono fun _ _ hb => (not_bears_statement_null hb).elim
  · mvcgen [hs]
    grind

theorem exportDefault (t : Tree) : Yields (exportDefault go t) fun s =>
    PartBears text (if (t.get "declaration").kind == "FunctionDeclaration"
        || (t.get "declaration").kind == "ClassDeclaration" then [(.statement, t.get "declaration")]
      else [(.expression, t.get "declaration")]) → Shows s text := by
  have hs := h.statement
  have he := h.expression
  have ha (t : Tree) : Yields t.startsAmbiguously fun _ => True := yields_any _
  mvcgen [Printer.exportDefault, hs, he, ha]
  all_goals grind

/-- **A statement shows what its parts bear.** -/
theorem statementText (t : Tree) : Yields (statementText go t) fun s =>
    PartBears text (statementParts t) → Shows s text := by
  have he := h.expression
  have hs := h.statement
  have hn := h.nested
  refine kindOf_spec.bind fun kind hk => ?_
  split
  case h_28 => exact throw_spec.mono fun _ h => h.elim
  all_goals simp only [statementParts, ← hk]
  -- a word or a list of names has no parts
  case h_5 | h_6 | h_12 | h_13 | h_24 | h_27 => exact nothing_yields _
  · exact h.expressionStatement t
  · exact h.expressionStatement t
  · exact h.block t
  · have hb := h.block
    mvcgen [hb]
    grind
  · have hd := h.declaration
    mvcgen [hd]
    grind
  · exact h.function t
  · exact h.class_ t
  · simpa using h.returnStatement t
  · mvcgen [he]
    grind
  · mvcgen [hs]
    grind
  · exact h.ifStatement t
  · exact h.forStatement t
  · exact h.loopOver t _ _ _
  · exact h.loopOver t _ _ _
  · mvcgen [he, hn]
    grind
  · mvcgen [he, hn]
    all_goals grind
  · mvcgen [he, hn]
    grind
  · exact h.tryStatement t
  · exact h.switchStatement t
  · simpa using h.exportNamed t
  · exact h.exportDefault t

/-! ### With comments -/

/-- **A statement is printed with its comments.** -/
theorem statementWhole (t : Tree) : Yields (Printer.statement go t) fun s =>
    Bears text .statement t → Shows s text := by
  have ht := h.statementText
  have hseat : Bears text .statement t ↔ HasComment text "leadingComments" t ∨
      HasComment text "trailingComments" t ∨ PartBears text (statementParts t) := bears_iff_both rfl
  mvcgen [Printer.statement, ht]
  grind

/-- **An expression is printed with its comments.** -/
theorem expressionWhole (least : Nat) (t : Tree) : Yields (Printer.expression go least t) fun s =>
    Bears text .expression t → Shows s text := by
  have ht := h.expressionText
  have hin (t : Tree) := (h.expressionText t).withNoIn false
  have hp : Yields t.precedence fun _ => True := yields_any _
  have hseat : Bears text .expression t ↔ HasComment text "leadingComments" t ∨
      HasComment text "trailingComments" t ∨ PartBears text (expressionParts t) := bears_iff_both rfl
  mvcgen [Printer.expression, ht, hin, hp]
  all_goals grind

/-- **A pattern is printed with its comments.** -/
theorem patternWhole (t : Tree) : Yields (Printer.pattern go t) fun s =>
    Bears text .pattern t → Shows s text := by
  refine (h.patternText t).mono fun s hs hb => hs ?_
  rcases bears_iff.mp hb with ⟨key, hk, -⟩ | hp
  · cases hk
  · exact hp

end Faithful

/-! ### All levels -/

/-- **The printer of each role prints what it shows**, however deeply nodes nest. -/
theorem faithful_roles (text : String) (levels : Nat) : Faithful (roles levels) text := by
  induction levels with
  | zero =>
    have hfail (act : Printing String) (P : String → Prop)
        (hact : act = throw (Failure.shape "the tree is too deep")) : Yields act P := hact ▸ throw_spec.mono fun _ h => h.elim
    exact ⟨fun _ => hfail _ _ rfl, fun _ _ => hfail _ _ rfl, fun _ => hfail _ _ rfl⟩
  | succ levels ih => exact ⟨ih.statementWhole, ih.expressionWhole, ih.patternWhole⟩

/-- **A program shows what it bears.** -/
theorem program_yields {go : Roles} {text : String} (h : Faithful go text) (t : Tree) :
    Yields (program go t) fun s => Bears text .program t → Shows s text := by
  refine listField_spec.bind fun items hi => (h.statements items).bind fun body hb =>
    (comments_yields (fun isLine value =>
      (if isLine then "//" ++ value else "/*" ++ value ++ "*/") ++ "\n") fun _ _ => (Shows.refl _).left).bind
        fun comments hc => yields_pure fun ht => ?_
  rw [bears_iff] at ht
  rcases ht with ⟨key, hk, ht⟩ | ht
  · cases List.mem_singleton.mp hk
    exact (hc text ht).join.right
  · exact (hb (hi ▸ ht)).left.left

/-- **What is shown of a program is printed.** -/
theorem shows_print {t : Tree} {source : Option String} {code text : String} (hk : t.kind = "Program")
    (h : t.print source = .ok code) (hb : Bears text .program t) : Shows code text := by
  have hy : Yields (node t) fun s => Bears text .program t → Shows s text := by
    refine kindOf_spec.bind fun kind hkind => ?_
    rw [hkind, hk]
    exact program_yields (faithful_roles text _) t
  exact yields_iff.mp hy _ code h hb

end Deminify.Printer
