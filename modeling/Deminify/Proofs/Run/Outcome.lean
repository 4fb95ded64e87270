import Mathlib.Data.List.SplitBy
import Deminify.Run

/-!
# What a run comes to

A run folds rules over a file that is held as a text or as a tree. This module says what such a run
can come to without following the code that runs it: what one rule makes of what is held
(`Deminify.Run.Passes`), in which cases it ends the run and with what (`Deminify.Run.Ends`), and from
these what becomes of the whole (`Deminify.Run.Outcome`).

The one thing to keep track of is the text that a tree was read from. A rule may do anything to the
tree and to the context it works in, and may fail half way; the text that the tree was read from
stands beside the context and nothing a rule does reaches it. So **a rule that fails on the tree ends
the run with the text that was held before the tree rules began**
(`Deminify.Run.Passed.origin`), and a run has exactly the outcome described
(`Deminify.Run.rules_contained`).

A run notes each step it takes: reading a text, printing a tree, and every rule by its name. This
module says which steps those are without a run: cut the rules into the longest stretches that work
on the same thing; a stretch that works on the tree has one reading in front of it and one printing
behind it, and a stretch that works on the text has neither (`Deminify.Run.schedule`).

The code never sees a stretch. It sees one rule and whether a tree or a text is held, so the bridge
is the list of steps that are left from there (`Deminify.Run.stepsFrom`): one rule that is passed
without a fault takes the first of them (`Deminify.Run.Passes.steps`), and put together they are the
schedule (`Deminify.Run.stepsFrom_eq_schedule`). Hence **a run without a fault reads and prints
exactly where the rules change from one form to the other** (`Deminify.Run.steps_eq_schedule`), and
what the rules make of the file has no part in it.
-/

namespace Deminify

/-- Whether a rule works on the tree. -/
def Rule.isTree (rule : Rule) : Prop := ∃ prepare, rule.action = .tree prepare

namespace Run

/-! ### One rule -/

/-- The tree of what is held and the text it was read from: the tree at hand, or what the text at
hand is read as. -/
inductive Opened : Holding → Log → Context → String → Log → Prop
  | held (c : Context) (origin : String) (log : Log) : Opened (.tree c origin) log c origin log
  | read {s : String} {p : Program} (h : Program.read s = .ok p) (log : Log) :
      Opened (.text s) log { doc := Document.ofTree p.tree p.next, source := s } s (log.step "parse")

/-- The text of what is held: the text at hand, or what the tree at hand is printed as. -/
inductive Written : Holding → Log → String → Log → Prop
  | held (s : String) (log : Log) : Written (.text s) log s log
  | printed {c : Context} {origin s : String} (h : c.doc.root.print (some origin) = .ok s)
      (log : Log) : Written (.tree c origin) log s (log.step "generate")

/-- The context in which a rule finds the tree. -/
def contextFor (rule : Rule) (c : Context) (log : Log) : Context :=
  { c with rule := some rule.name, diagnostics := log.diagnostics }

/-- The log once a rule has worked on the tree, with all that the rule has reported. -/
def Log.worked (log : Log) (rule : Rule) (c : Context) : Log :=
  { log.step rule.name with diagnostics := c.diagnostics }

/-- The log with an error added. -/
def Log.error (log : Log) (message : String) (rule : Option String) : Log :=
  log.report { level := "error", message, rule }

/-- The log with the warning about a rule that has failed on the text. -/
def Log.warned (log : Log) (rule : Rule) (f : Failure) : Log :=
  (log.report { level := "warning", message := "Rule failed, output left unchanged: " ++ f.shown
                rule := some rule.name }).note (.ruleFailed rule.name true f)

section OneRule

variable (source : String) (params : Params) (rule : Rule)

/-- **A rule that does not end the run**, by what is held before it and after it. -/
inductive Passes : Holding → Log → Holding → Log → Prop
  /-- It edits the tree; the text that the tree was read from stays. -/
  | edits {prepare : Params → Except Failure (Editing Unit)} {edit : Editing Unit} {held : Holding}
      {log log' : Log} {c c' : Context} {origin : String} (ha : rule.action = .tree prepare)
      (ho : Opened held log c origin log') (hp : prepare params = .ok edit)
      (he : edit.run.run (contextFor rule c (log'.step rule.name)) = (.ok (), c')) :
      Passes held log (.tree c' origin) ((log'.worked rule c').note (.applied rule.name))
  /-- It returns a text. -/
  | changes {prepare : Params → Except Failure (String → Except Failure (Option String))}
      {change : String → Except Failure (Option String)} {held : Holding} {log log' : Log}
      {s new : String} (ha : rule.action = .text prepare) (hw : Written held log s log')
      (hp : prepare params = .ok change) (hc : change s = .ok (some new)) :
      Passes held log (.text new) (log'.step rule.name)
  /-- It returns none, and the text stays. -/
  | keeps {prepare : Params → Except Failure (String → Except Failure (Option String))}
      {change : String → Except Failure (Option String)} {held : Holding} {log log' : Log}
      {s : String} (ha : rule.action = .text prepare) (hw : Written held log s log')
      (hp : prepare params = .ok change) (hc : change s = .ok none) :
      Passes held log (.text s) (log'.step rule.name)
  /-- It refuses its options: there is a warning and the text stays. -/
  | refuses {prepare : Params → Except Failure (String → Except Failure (Option String))}
      {held : Holding} {log log' : Log} {s : String} {f : Failure}
      (ha : rule.action = .text prepare) (hw : Written held log s log')
      (hp : prepare params = .error f) : Passes held log (.text s) (log'.warned rule f)
  /-- It fails on the text: there is a warning and the text stays. -/
  | fails {prepare : Params → Except Failure (String → Except Failure (Option String))}
      {change : String → Except Failure (Option String)} {held : Holding} {log log' : Log}
      {s : String} {f : Failure} (ha : rule.action = .text prepare) (hw : Written held log s log')
      (hp : prepare params = .ok change) (hc : change s = .error f) :
      Passes held log (.text s) ((log'.step rule.name).warned rule f)

/-- **A rule that ends the run**, by what is held before it and the result. -/
inductive Ends : Holding → Log → Result → Prop
  /-- The text that it needs the tree of cannot be read. -/
  | unreadable {prepare : Params → Except Failure (Editing Unit)} {s : String} {e : SyntaxError}
      {log : Log} (ha : rule.action = .tree prepare) (hr : Program.read s = .error e) :
      Ends (.text s) log ⟨s, true, ((log.step "parse").report (readDiagnostic e s)).note
        (.unreadable e (readDiagnostic e s).frame)⟩
  /-- It refuses its options. -/
  | refuses {prepare : Params → Except Failure (Editing Unit)} {held : Holding} {log log' : Log}
      {c : Context} {origin : String} {f : Failure} (ha : rule.action = .tree prepare)
      (ho : Opened held log c origin log') (hp : prepare params = .error f) :
      Ends held log ⟨origin, true, (log'.error ("Rule failed: " ++ f.shown) (some rule.name)).note
        (.ruleFailed rule.name false f)⟩
  /-- It fails on the tree, whatever it has done to it. -/
  | fails {prepare : Params → Except Failure (Editing Unit)} {edit : Editing Unit} {held : Holding}
      {log log' : Log} {c c' : Context} {origin : String} {f : Failure}
      (ha : rule.action = .tree prepare) (ho : Opened held log c origin log')
      (hp : prepare params = .ok edit)
      (he : edit.run.run (contextFor rule c (log'.step rule.name)) = (.error f, c')) :
      Ends held log ⟨origin, true,
        ((log'.worked rule c').error ("Rule failed: " ++ f.shown) (some rule.name)).note
          (.ruleFailed rule.name false f)⟩
  /-- The tree that it needs the text of cannot be printed. -/
  | unprintable {prepare : Params → Except Failure (String → Except Failure (Option String))}
      {c : Context} {origin : String} {log : Log} {f : Failure} (ha : rule.action = .text prepare)
      (hp : c.doc.root.print (some origin) = .error f) :
      Ends (.tree c origin) log ⟨source, true,
        ((log.step "generate").error ("Failed to print program: " ++ f.shown) none).note
          (.unprintable f)⟩

end OneRule

/-! ### A run -/

section Run

variable (source : String) (params : Params)

/-- What is held after rules of which none has ended the run: the fold of the rules over text and
tree. -/
inductive Passed : List Rule → Holding → Log → Holding → Log → Prop
  | none (held : Holding) (log : Log) : Passed [] held log held log
  | some {rule : Rule} {rest : List Rule} {held held' held'' : Holding} {log log' log'' : Log}
      (h : Passes params rule held log held' log') (hr : Passed rest held' log' held'' log'') :
      Passed (rule :: rest) held log held'' log''

/-- **What a run comes to.** -/
inductive Outcome : List Rule → Holding → Log → Result → Prop
  /-- All rules are passed, and the result is the text of what is held then. -/
  | finished {rules : List Rule} {held held' : Holding} {log log' log'' : Log} {code : String}
      (h : Passed params rules held log held' log') (hw : Written held' log' code log'') :
      Outcome rules held log ⟨code, false, log''⟩
  /-- All rules are passed, but the tree that is held then cannot be printed. -/
  | unprintable {rules : List Rule} {held : Holding} {log log' : Log} {c : Context}
      {origin : String} {f : Failure} (h : Passed params rules held log (.tree c origin) log')
      (hp : c.doc.root.print (some origin) = .error f) :
      Outcome rules held log ⟨source, true,
        ((log'.step "generate").error ("Failed to print program: " ++ f.shown) none).note
          (.unprintable f)⟩
  /-- A rule ends the run; those behind it have no part in the result. -/
  | stopped {before : List Rule} {rule : Rule} {held held' : Holding} {log log' : Log} {r : Result}
      (h : Passed params before held log held' log') (he : Ends source params rule held' log' r)
      (behind : List Rule) : Outcome (before ++ rule :: behind) held log r

end Run

/-! ### The code, rule by rule -/

section Apply

variable {source : String} {params : Params} {rule : Rule} {held held' : Holding} {log log' : Log}
  {r : Result}

theorem asTree_of_opened {c : Context} {origin : String} (h : Opened held log c origin log') :
    asTree held log = .ok (c, origin, log') := by
  cases h with
  | held => rfl
  | read hr =>
    -- the equations of the definition would be found by reading the text
    unfold asTree
    simp only [hr]

theorem asText_of_written {s : String} (h : Written held log s log') :
    asText source held log = .ok (s, log') := by
  cases h with
  | held => rfl
  | printed hp => simp only [asText, hp]

/-- What is held is a tree, can be read as one, or is a text that cannot. -/
theorem opened_or (held : Holding) (log : Log) :
    (∃ c origin log', Opened held log c origin log') ∨
      ∃ s e, held = .text s ∧ Program.read s = .error e := by
  cases held with
  | tree c origin => exact .inl ⟨c, origin, log, .held c origin log⟩
  | text s =>
    cases hr : Program.read s with
    | ok p => exact .inl ⟨_, _, _, .read hr log⟩
    | error e => exact .inr ⟨s, e, rfl, hr⟩

/-- What is held is a text, can be printed, or is a tree that cannot. -/
theorem written_or (held : Holding) (log : Log) :
    (∃ s log', Written held log s log') ∨
      ∃ c origin f, held = .tree c origin ∧ c.doc.root.print (some origin) = .error f := by
  cases held with
  | text s => exact .inl ⟨s, log, .held s log⟩
  | tree c origin =>
    cases hp : c.doc.root.print (some origin) with
    | ok s => exact .inl ⟨s, _, .printed hp log⟩
    | error f => exact .inr ⟨c, origin, f, rfl, hp⟩

/-- What applying a rule to a tree is. -/
theorem apply_tree {prepare : Params → Except Failure (Editing Unit)} {c : Context}
    {origin : String} (ha : rule.action = .tree prepare) (ho : Opened held log c origin log') :
    apply source params rule held log =
      (editTree rule.name (prepare params) c origin log').map fun x => (.tree x.1 origin, x.2) := by
  simp only [apply, ha, asTree_of_opened ho]
  change (editTree rule.name (prepare params) c origin log' >>= fun x =>
    (.ok (Holding.tree x.1 origin, x.2) : Step (Holding × Log))) = _
  cases editTree rule.name (prepare params) c origin log' <;> rfl

/-- What applying a rule to a text is. -/
theorem apply_text {prepare : Params → Except Failure (String → Except Failure (Option String))}
    {s : String} (ha : rule.action = .text prepare) (hw : Written held log s log') :
    apply source params rule held log =
      .ok (.text (editText rule.name (prepare params) s log').1,
        (editText rule.name (prepare params) s log').2) := by
  simp only [apply, ha, asText_of_written hw]
  rfl

/-- **A rule that is passed** hands on what is held. -/
theorem apply_of_passes (h : Passes params rule held log held' log') :
    apply source params rule held log = .ok (held', log') := by
  cases h with
  | edits ha ho hp he =>
    rw [contextFor] at he
    rw [apply_tree ha ho, hp]
    simp only [editTree, he]
    rfl
  | changes ha hw hp hc =>
    rw [apply_text ha hw, hp]
    simp only [editText, hc]
  | keeps ha hw hp hc =>
    rw [apply_text ha hw, hp]
    simp only [editText, hc]
  | refuses ha hw hp =>
    rw [apply_text ha hw, hp]
    rfl
  | fails ha hw hp hc =>
    rw [apply_text ha hw, hp]
    simp only [editText, hc]
    rfl

/-- **A rule that ends the run** ends it with the result. -/
theorem apply_of_ends (h : Ends source params rule held log r) :
    apply source params rule held log = .error r := by
  cases h with
  | unreadable ha hr =>
    simp only [apply, ha]
    unfold asTree
    simp only [hr]
    rfl
  | refuses ha ho hp =>
    rw [apply_tree ha ho, hp]
    rfl
  | fails ha ho hp he =>
    rw [contextFor] at he
    rw [apply_tree ha ho, hp]
    simp only [editTree, he]
    rfl
  | unprintable ha hp =>
    simp only [apply, ha, asText, hp]
    rfl

/-- **Every rule is passed or ends the run.** -/
theorem passes_or_ends (source : String) (params : Params) (rule : Rule) (held : Holding) (log : Log) :
    (∃ held' log', Passes params rule held log held' log') ∨ ∃ r, Ends source params rule held log r := by
  cases ha : rule.action with
  | tree prepare =>
    rcases opened_or held log with ⟨c, origin, log', ho⟩ | ⟨s, e, rfl, hr⟩
    · cases hp : prepare params with
      | error f => exact .inr ⟨_, .refuses ha ho hp⟩
      | ok edit =>
        rcases he : edit.run.run (contextFor rule c (log'.step rule.name)) with ⟨_ | _, c'⟩
        · exact .inr ⟨_, .fails ha ho hp he⟩
        · exact .inl ⟨_, _, .edits ha ho hp he⟩
    · exact .inr ⟨_, .unreadable ha hr⟩
  | text prepare =>
    rcases written_or held log with ⟨s, log', hw⟩ | ⟨c, origin, f, rfl, hp⟩
    · cases hp : prepare params with
      | error f => exact .inl ⟨_, _, .refuses ha hw hp⟩
      | ok change =>
        cases hc : change s with
        | error f => exact .inl ⟨_, _, .fails ha hw hp hc⟩
        | ok new =>
          cases new with
          | none => exact .inl ⟨_, _, .keeps ha hw hp hc⟩
          | some new => exact .inl ⟨_, _, .changes ha hw hp hc⟩
    · exact .inr ⟨_, .unprintable ha hp⟩

end Apply

/-! ### The code, run by run -/

section Whole

variable {source : String} {params : Params} {rules : List Rule} {held held' : Holding}
  {log log' : Log} {r : Result}

/-- The result of a run from what is held. -/
def resultFrom (source : String) (params : Params) (rules : List Rule) (held : Holding) (log : Log) :
    Result :=
  match applyAll source params rules held log with
  | .ok (code, log) => ⟨code, false, log⟩
  | .error result => result

/-- Rules that are passed hand on what is held to those behind them. -/
theorem resultFrom_append (h : Passed params rules held log held' log') (behind : List Rule) :
    resultFrom source params (rules ++ behind) held log = resultFrom source params behind held' log' := by
  induction h with
  | none => rfl
  | some h _ ih =>
    rw [← ih, List.cons_append, resultFrom, applyAll, apply_of_passes h]
    rfl

/-- A run comes to what is described. -/
theorem outcome_resultFrom (source : String) (params : Params) (rules : List Rule) (held : Holding)
    (log : Log) : Outcome source params rules held log (resultFrom source params rules held log) := by
  induction rules generalizing held log with
  | nil =>
    rcases written_or held log with ⟨s, log', hw⟩ | ⟨c, origin, f, rfl, hp⟩
    · rw [resultFrom, applyAll, asText_of_written hw]
      exact .finished (.none held log) hw
    · rw [resultFrom, applyAll, asText]
      simp only [hp]
      exact .unprintable (.none _ log) hp
  | cons rule rest ih =>
    rcases passes_or_ends source params rule held log with ⟨held', log', h⟩ | ⟨r, h⟩
    · have hrun : resultFrom source params (rule :: rest) held log =
          resultFrom source params rest held' log' :=
        resultFrom_append (.some h (.none held' log')) rest
      rw [hrun]
      -- the first rule is passed, so it goes in front of those that are passed behind it
      have hrest := ih held' log'
      generalize resultFrom source params rest held' log' = r at hrest ⊢
      cases hrest with
      | finished hpassed hw => exact .finished (.some h hpassed) hw
      | unprintable hpassed hp => exact .unprintable (.some h hpassed) hp
      | stopped hpassed he behind => exact .stopped (.some h hpassed) he behind
    · rw [resultFrom, applyAll, apply_of_ends h]
      exact .stopped (.none held log) h rest

/-- **A tree was read from the text that was held before the tree rules began**, whatever they have
done to it since. -/
theorem Passed.origin (h : Passed params rules held log held' log') {c : Context} {origin : String}
    (hc : held' = .tree c origin) :
    (∃ c₀, held = .tree c₀ origin ∧ ∀ rule ∈ rules, rule.isTree) ∨
      ∃ before behind log₀, rules = before ++ behind ∧
        Passed params before held log (.text origin) log₀ ∧ ∀ rule ∈ behind, rule.isTree := by
  induction h with
  | none held log => exact .inl ⟨c, hc, by simp⟩
  | @some rule rest held held₁ held₂ log log₁ log₂ h hr ih =>
    rcases ih hc with ⟨c₀, hheld, htree⟩ | ⟨before, behind, log₀, rfl, hb, htree⟩
    · -- the tree comes out of the first rule, which has it from the text or kept it
      subst hheld
      cases h with
      | edits ha ho hp he =>
        have hall : ∀ r ∈ rule :: rest, r.isTree := by
          rintro r (_ | ⟨_, hr⟩)
          · exact ⟨_, ha⟩
          · exact htree r hr
        cases ho with
        | held => exact .inl ⟨_, rfl, hall⟩
        | read hr => exact .inr ⟨[], rule :: rest, log, rfl, .none _ _, hall⟩
    · exact .inr ⟨rule :: before, behind, log₀, rfl, .some h hb, htree⟩

/-! ### How a run is ended -/

variable {rule : Rule}

/-- A rule that ends the run makes it fail, with an error reported last. -/
theorem Ends.failed (h : Ends source params rule held log r) :
    r.failed = true ∧ ∃ d, r.log.diagnostics.back? = some d ∧ d.level = "error" := by
  cases h <;> exact ⟨rfl, _, Array.back?_push, rfl⟩

end Whole

end Run

/-- Whether two rules work on the same thing. -/
def Rule.worksLike (a b : Rule) : Bool := a.kind == b.kind

namespace Run

/-! ### The schedule -/

/-- The steps of rules that stand together and work on the same thing. -/
def stretchSteps (stretch : List Rule) : List String :=
  if stretch.head?.any (·.kind == "tree") then "parse" :: stretch.map (·.name) ++ ["generate"]
  else stretch.map (·.name)

/-- **The steps that rules call for**, stretch by stretch. -/
def schedule (rules : List Rule) : List String := (rules.splitBy Rule.worksLike).flatMap stretchSteps

/-- The steps left to take with rules, from where a tree is held or a text is. -/
def stepsFrom (onTree : Bool) : List Rule → List String
  | [] => if onTree then ["generate"] else []
  | rule :: rest =>
    if rule.kind == "tree" then (if onTree then [] else ["parse"]) ++ rule.name :: stepsFrom true rest
    else (if onTree then ["generate"] else []) ++ rule.name :: stepsFrom false rest

section Schedule

variable {a b : Rule} {l : List Rule}

theorem schedule_nil : schedule [] = [] := rfl

theorem schedule_singleton : schedule [a] = stretchSteps [a] := by
  rw [schedule, List.splitBy_of_isChain (List.cons_ne_nil a []) (List.isChain_singleton a),
    List.flatMap_singleton]

/-- Where the next rule works on something else, a stretch ends. -/
theorem schedule_cons_of_ne (h : a.worksLike b = false) :
    schedule (a :: b :: l) = stretchSteps [a] ++ schedule (b :: l) := by
  have hsplit : (a :: b :: l).splitBy Rule.worksLike = [a] :: (b :: l).splitBy Rule.worksLike := by
    refine (@List.splitBy_append_cons Rule Rule.worksLike [a] b l ?_).trans ?_
    · simpa using h
    · rw [List.splitBy_of_isChain (List.cons_ne_nil a []) (List.isChain_singleton a)]
      rfl
  rw [schedule, hsplit, List.flatMap_cons, schedule]

/-- Where the next rule works on the same thing, the stretch goes on. -/
theorem exists_splitBy_cons (h : a.worksLike b = true) :
    ∃ stretch rest, (b :: l).splitBy Rule.worksLike = (b :: stretch) :: rest ∧
      (a :: b :: l).splitBy Rule.worksLike = (a :: b :: stretch) :: rest := by
  obtain ⟨hflat, hne, hchain, hbreaks⟩ := List.splitBy_eq_iff.mp (rfl : (b :: l).splitBy Rule.worksLike = _)
  generalize (b :: l).splitBy Rule.worksLike = stretches at hflat hne hchain hbreaks
  match stretches with
  | [] => cases hflat
  | [] :: rest => exact absurd List.mem_cons_self hne
  | (c :: stretch) :: rest =>
    obtain rfl : b = c := by
      rw [List.flatten_cons, List.cons_append] at hflat
      exact (List.cons.inj hflat).1
    refine ⟨stretch, rest, rfl, List.splitBy_eq_iff.mpr ⟨?_, ?_, ?_, ?_⟩⟩
    · rw [hflat, List.flatten_cons, List.flatten_cons]
      rfl
    · simpa using fun hn => hne (List.mem_cons_of_mem _ hn)
    · intro m hm
      rcases List.mem_cons.mp hm with rfl | hm
      · exact List.isChain_cons_cons.mpr ⟨h, hchain _ List.mem_cons_self⟩
      · exact hchain m (List.mem_cons_of_mem _ hm)
    · cases rest with
      | nil => exact List.isChain_singleton _
      | cons next rest =>
        obtain ⟨⟨_, hb, hbreak⟩, htail⟩ := List.isChain_cons_cons.mp hbreaks
        refine List.isChain_cons_cons.mpr ⟨⟨List.cons_ne_nil a _, hb, ?_⟩, htail⟩
        rwa [List.getLast_cons (List.cons_ne_nil b stretch)]

/-- A rule for the text adds its own step in front. -/
theorem schedule_cons_text (ha : (a.kind == "tree") = false) : schedule (a :: l) = a.name :: schedule l := by
  match l with
  | [] =>
    rw [schedule_singleton]
    simp [stretchSteps, ha, schedule_nil]
  | b :: l =>
    cases h : a.worksLike b with
    | false =>
      rw [schedule_cons_of_ne h]
      simp [stretchSteps, ha]
    | true =>
      obtain ⟨stretch, rest, hb, hab⟩ := exists_splitBy_cons h
      have hkind : (b.kind == "tree") = false := by
        rw [← eq_of_beq (h : (a.kind == b.kind) = true)]
        exact ha
      rw [schedule, hab, schedule, hb]
      simp [stretchSteps, ha, hkind]

/-- A rule for the tree starts a stretch in front of a rule for the text. -/
theorem schedule_cons_tree_text (ha : (a.kind == "tree") = true) (hb : (b.kind == "tree") = false) :
    schedule (a :: b :: l) = "parse" :: a.name :: "generate" :: schedule (b :: l) := by
  have h : a.worksLike b = false := by
    rw [Rule.worksLike, eq_of_beq ha]
    exact Bool.eq_false_iff.mpr fun h => by simp [← eq_of_beq h] at hb
  rw [schedule_cons_of_ne h]
  simp [stretchSteps, ha]

/-- A rule for the tree lengthens a stretch of such behind its reading. -/
theorem schedule_cons_tree_tree (ha : (a.kind == "tree") = true) (hb : (b.kind == "tree") = true)
    {steps : List String} (h : schedule (b :: l) = "parse" :: steps) :
    schedule (a :: b :: l) = "parse" :: a.name :: steps := by
  have hab : a.worksLike b = true := by
    rw [Rule.worksLike, eq_of_beq ha, eq_of_beq hb]
    rfl
  obtain ⟨stretch, rest, hsplit, hsplit'⟩ := exists_splitBy_cons hab
  rw [schedule, hsplit, List.flatMap_cons] at h
  rw [schedule, hsplit', List.flatMap_cons]
  simp only [stretchSteps, List.head?_cons, Option.any_some, ha, hb, if_true, List.map_cons,
    List.cons_append, List.cons.injEq, true_and] at h ⊢
  exact h

end Schedule

/-- **The steps left to take are the schedule**, and behind a rule for the tree they are what remains
of it. -/
theorem stepsFrom_eq_schedule (rules : List Rule) : stepsFrom false rules = schedule rules ∧
    ∀ a : Rule, (a.kind == "tree") = true →
      "parse" :: a.name :: stepsFrom true rules = schedule (a :: rules) := by
  induction rules with
  | nil =>
    refine ⟨rfl, fun a ha => ?_⟩
    rw [schedule_singleton]
    simp [stretchSteps, ha, stepsFrom]
  | cons b rest ih =>
    obtain ⟨ihText, ihTree⟩ := ih
    cases hb : b.kind == "tree" with
    | true =>
      refine ⟨by simp [stepsFrom, hb, ← ihTree b hb], fun a ha => ?_⟩
      rw [schedule_cons_tree_tree ha hb (ihTree b hb).symm]
      simp [stepsFrom, hb]
    | false =>
      refine ⟨by simp [stepsFrom, hb, schedule_cons_text hb, ihText], fun a ha => ?_⟩
      rw [schedule_cons_tree_text ha hb, schedule_cons_text hb, ← ihText]
      simp [stepsFrom, hb]

/-- Only the names of the rules and what they work on matter. -/
theorem stepsFrom_congr {rules rules' : List Rule} (onTree : Bool)
    (h : rules'.map (fun rule => (rule.name, rule.kind)) =
      rules.map (fun rule => (rule.name, rule.kind))) :
    stepsFrom onTree rules' = stepsFrom onTree rules := by
  induction rules generalizing rules' onTree with
  | nil =>
    rw [List.map_nil, List.map_eq_nil_iff] at h
    rw [h]
  | cons rule rest ih =>
    obtain ⟨rule', rest', rfl, hrule, hrest⟩ := List.map_eq_cons_iff.mp h
    obtain ⟨hname, hkind⟩ := Prod.mk.inj hrule
    rw [stepsFrom, stepsFrom, hname, hkind, ih true hrest, ih false hrest]

/-! ### A run without a fault -/

/-- Whether something that happened is a fault: a text could not be read, a tree could not be printed,
or a rule has refused its options or failed. -/
def Event.isFault : Event → Bool
  | .applied _ => false
  | _ => true

/-- Whether nothing that happened is a fault. -/
def Log.Faultless (log : Log) : Prop := ∀ e ∈ log.events, e.isFault = false

instance (log : Log) : Decidable log.Faultless := inferInstanceAs (Decidable (∀ e ∈ log.events, _))

/-- Whether a tree is held. -/
def Holding.isTree : Holding → Bool
  | .tree _ _ => true
  | .text _ => false

section Faultless

variable {source : String} {params : Params} {rule : Rule} {rules : List Rule} {held held' : Holding}
  {log log' : Log}

theorem Log.faultless_note {e : Event} :
    (log.note e).Faultless ↔ log.Faultless ∧ e.isFault = false := by
  simp only [Log.Faultless, Log.note, Array.mem_push]
  constructor
  · exact fun h => ⟨fun e he => h e (.inl he), h e (.inr rfl)⟩
  · rintro ⟨h, he⟩ e' (he' | rfl)
    · exact h e' he'
    · exact he

/-- Opening what is held as a tree reads it, unless it is one. -/
theorem Opened.steps {c : Context} {origin : String} (h : Opened held log c origin log') :
    log'.steps.toList = log.steps.toList ++ (if held.isTree then [] else ["parse"]) ∧
      log'.events = log.events := by
  cases h <;> simp [Holding.isTree, Log.step]

/-- Writing what is held as a text prints it, unless it is one. -/
theorem Written.steps {s : String} (h : Written held log s log') :
    log'.steps.toList = log.steps.toList ++ (if held.isTree then ["generate"] else []) ∧
      log'.events = log.events := by
  cases h <;> simp [Holding.isTree, Log.step]

/-- **A rule that is passed without a fault** takes the first of the steps that are left. -/
theorem Passes.steps (h : Passes params rule held log held' log') (hf : log'.Faultless)
    (rest : List Rule) : log.Faultless ∧
      log'.steps.toList ++ stepsFrom held'.isTree rest =
        log.steps.toList ++ stepsFrom held.isTree (rule :: rest) := by
  cases h with
  | edits ha ho hp he =>
    obtain ⟨hsteps, hevents⟩ := ho.steps
    refine ⟨?_, ?_⟩
    · obtain ⟨hf, -⟩ := Log.faultless_note.mp hf
      simpa [Log.Faultless, Log.worked, Log.step, hevents] using hf
    · simp [Log.note, Log.worked, Log.step, hsteps, stepsFrom, Rule.kind, ha, Holding.isTree]
  | changes ha hw hp hc =>
    obtain ⟨hsteps, hevents⟩ := hw.steps
    refine ⟨by simpa [Log.Faultless, Log.step, hevents] using hf, ?_⟩
    simp [Log.step, hsteps, stepsFrom, Rule.kind, ha, Holding.isTree]
  | keeps ha hw hp hc =>
    obtain ⟨hsteps, hevents⟩ := hw.steps
    refine ⟨by simpa [Log.Faultless, Log.step, hevents] using hf, ?_⟩
    simp [Log.step, hsteps, stepsFrom, Rule.kind, ha, Holding.isTree]
  | refuses ha hw hp => exact absurd (Log.faultless_note.mp hf).2 (by simp [Event.isFault])
  | fails ha hw hp hc => exact absurd (Log.faultless_note.mp hf).2 (by simp [Event.isFault])

/-- Rules that are passed without a fault take theirs one after the other. -/
theorem Passed.steps (h : Passed params rules held log held' log') (hf : log'.Faultless) :
    log.Faultless ∧ log'.steps.toList ++ stepsFrom held'.isTree [] =
      log.steps.toList ++ stepsFrom held.isTree rules := by
  induction h with
  | none => exact ⟨hf, rfl⟩
  | some h _ ih =>
    obtain ⟨hf, hrest⟩ := ih hf
    obtain ⟨hf, hfirst⟩ := h.steps hf _
    exact ⟨hf, hrest.trans hfirst⟩

/-- A rule that ends the run leaves a fault behind. -/
theorem Ends.not_faultless {r : Result} (h : Ends source params rule held log r) :
    ¬r.log.Faultless := by
  cases h <;> exact fun hf => absurd (Log.faultless_note.mp hf).2 (by simp [Event.isFault])

/-- A run without a fault takes the steps that are left at its start, and does not fail. -/
theorem Outcome.steps {r : Result} (h : Outcome source params rules held log r)
    (hf : r.log.Faultless) : r.failed = false ∧
      r.log.steps.toList = log.steps.toList ++ stepsFrom held.isTree rules := by
  cases h with
  | finished h hw =>
    obtain ⟨hsteps, hevents⟩ := hw.steps
    refine ⟨rfl, ?_⟩
    rw [← (h.steps (by simpa [Log.Faultless, hevents] using hf)).2, hsteps]
    cases Holding.isTree _ <;> rfl
  | unprintable _ _ => exact absurd (Log.faultless_note.mp hf).2 (by simp [Event.isFault])
  | stopped _ he _ => exact absurd hf he.not_faultless

end Faultless

/-- **A run changes between text and tree only where it has to.** The steps of a run without a fault
are the names of its rules in order, with a reading right before each longest stretch of rules for
the tree and a printing right behind it. Any other run without a fault takes the same steps if its
rules have the same names and work on the same things, whatever they make of the file. -/
theorem steps_eq_schedule (source : String) (groups : List RuleGroup) (params : Params)
    (h : (Run.rules source (RuleGroup.flattenAll groups) params).log.Faultless) :
    (Run.rules source (RuleGroup.flattenAll groups) params).failed = false ∧
    (Run.rules source (RuleGroup.flattenAll groups) params).log.steps.toList =
      schedule (RuleGroup.flattenAll groups) ∧
    ∀ source' groups' params',
      (RuleGroup.flattenAll groups').map (fun rule => (rule.name, rule.kind)) =
        (RuleGroup.flattenAll groups).map (fun rule => (rule.name, rule.kind)) →
      (Run.rules source' (RuleGroup.flattenAll groups') params').log.Faultless →
      (Run.rules source' (RuleGroup.flattenAll groups') params').log.steps =
        (Run.rules source (RuleGroup.flattenAll groups) params).log.steps := by
  have hsteps (source : String) (groups : List RuleGroup) (params : Params)
      (h : (Run.rules source (RuleGroup.flattenAll groups) params).log.Faultless) :=
    (outcome_resultFrom source params (RuleGroup.flattenAll groups) (.text source) {}).steps h
  obtain ⟨hfailed, hrun⟩ := hsteps source groups params h
  refine ⟨hfailed, ?_, fun source' groups' params' hsame h' => Array.toList_inj.mp ?_⟩
  · exact hrun.trans (stepsFrom_eq_schedule _).1
  · refine (hsteps source' groups' params' h').2.trans (Eq.trans ?_ hrun.symm)
    rw [Holding.isTree, stepsFrom_congr false hsame]
    rfl

/-- Two stretches of rules for the tree, in nested groups, with a rule for the text between them. -/
theorem steps_eq_schedule_nested :
    let tree (name : String) : RuleGroup := .one { name, action := .tree fun _ => .ok (pure ()) }
    let text : RuleGroup := .one { name := "c", action := .text fun _ => .ok fun _ => .ok none }
    let groups := [tree "a", .all [tree "b", .all [text, tree "d"]]]
    (Run.rules "f();" (RuleGroup.flattenAll groups) {}).log.Faultless ∧
      (Run.rules "f();" (RuleGroup.flattenAll groups) {}).log.steps.toList =
        ["parse", "a", "b", "generate", "c", "parse", "d", "generate"] := by
  intro tree text groups
  have h : (Run.rules "f();" (RuleGroup.flattenAll groups) {}).log.Faultless := by decide +kernel
  exact ⟨h, (steps_eq_schedule "f();" groups {} h).2.1.trans (by decide +kernel)⟩

end Run

end Deminify
