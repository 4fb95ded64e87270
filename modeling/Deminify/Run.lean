import Deminify.Printer.Statement
import Deminify.Program
import Deminify.Rule.Basic

/-!
# Running rules over a file

A file is held as a text or as a tree, and changes from one to the other only when the next rule
needs it. A text that cannot be read ends the run with that text; a rule that fails on the tree ends
it with the text the tree was read from, since the tree may be half edited; a tree that cannot be
printed ends it with the source. A rule that fails on the text is reported and passed over.

This is what rules make of a file, and it only notes what happened. Saying so is a matter of the
command that runs them (`Deminify.Command.runRules`), and **what a rule or the reader has failed with
may keep the command from saying it**: then the run has no result.

* `Deminify.Run.Holding` – the file as it is held;
* `Deminify.Run.Log` – what happened;
* `Deminify.Run.Result` – the outcome;
* `Deminify.Run.rules` – **what rules in order make of a source**.
-/

namespace Deminify.Run

/-- Something that happened on the way. -/
inductive Event where
  /-- The text could not be read. -/
  | unreadable (error : SyntaxError) (frame : Option String)
  /-- The tree could not be printed. -/
  | unprintable (failure : Failure)
  /-- A rule failed, on the text if `onText` holds. -/
  | ruleFailed (rule : String) (onText : Bool) (failure : Failure)
  /-- A rule has edited the tree. -/
  | applied (rule : String)

/-- What happened: the diagnostics, the steps taken, and the events. -/
structure Log where
  diagnostics : Array Diagnostic := #[]
  steps : Array String := #[]
  events : Array Event := #[]

namespace Log

/-- Adds a diagnostic. -/
def report (log : Log) (d : Diagnostic) : Log := { log with diagnostics := log.diagnostics.push d }

/-- Adds a step. -/
def step (log : Log) (name : String) : Log := { log with steps := log.steps.push name }

/-- Adds an event. -/
def note (log : Log) (event : Event) : Log := { log with events := log.events.push event }

end Log

/-- The outcome of a run. -/
structure Result where
  code : String
  failed : Bool
  log : Log

/-- A file as it is held: as a text, or as the context of its tree with the text that the tree was
read from. -/
inductive Holding where
  | text (s : String)
  | tree (context : Context) (origin : String)

/-- A step of a run, which may end it. -/
abbrev Step := Except Result

/-- The diagnostic of a text that cannot be read. -/
def readDiagnostic (e : SyntaxError) (text : String) : Diagnostic :=
  let line := e.line.map Int.ofNat
  { level := "error", message := "Parse error: " ++ e.description, line, column := e.column
    frame := line.map fun l => codeFrame text l e.column 2 }

/-- The file as a tree, read from the text if need be, and the text that the tree was read from. -/
def asTree (holding : Holding) (log : Log) : Step (Context × String × Log) :=
  match holding with
  | .tree context origin => .ok (context, origin, log)
  | .text s =>
    let log := log.step "parse"
    match Program.read s with
    | .ok p => .ok ({ doc := Document.ofTree p.tree p.next, source := s }, s, log)
    | .error e =>
      let d := readDiagnostic e s
      .error ⟨s, true, (log.report d).note (.unreadable e d.frame)⟩

/-- The file as a text, printed from the tree if need be. -/
def asText (source : String) (holding : Holding) (log : Log) : Step (String × Log) :=
  match holding with
  | .text s => .ok (s, log)
  | .tree context origin =>
    let log := log.step "generate"
    match context.doc.root.print (some origin) with
    | .ok s => .ok (s, log)
    | .error f =>
      let d : Diagnostic :=
        { level := "error", message := "Failed to print program: " ++ f.shown }
      .error ⟨source, true, (log.report d).note (.unprintable f)⟩

/-- Ends a run in which a rule has failed on the tree. -/
def treeFailure (rule : String) (text : String) (f : Failure) (log : Log) : Result :=
  let d : Diagnostic := { level := "error", message := "Rule failed: " ++ f.shown, rule := some rule }
  ⟨text, true, (log.report d).note (.ruleFailed rule false f)⟩

/-- Lets a rule edit the tree. -/
def editTree (rule : String) (prepared : Except Failure (Editing Unit)) (context : Context)
    (origin : String) (log : Log) : Step (Context × Log) :=
  match prepared with
  | .error f => .error (treeFailure rule origin f log)
  | .ok edit =>
    let log := log.step rule
    let start := { context with rule := some rule, diagnostics := log.diagnostics }
    let (outcome, context) := edit.run.run start
    let log := { log with diagnostics := context.diagnostics }
    match outcome with
    | .ok () => .ok (context, log.note (.applied rule))
    | .error f => .error (treeFailure rule origin f log)

/-- Passes over a rule that has failed on the text. -/
def textFailure (rule : String) (f : Failure) (log : Log) : Log :=
  let d : Diagnostic :=
    { level := "warning", message := "Rule failed, output left unchanged: " ++ f.shown
      rule := some rule }
  (log.report d).note (.ruleFailed rule true f)

/-- Lets a rule change the text. -/
def editText (rule : String) (prepared : Except Failure (String → Except Failure (Option String)))
    (text : String) (log : Log) : String × Log :=
  match prepared with
  | .error f => (text, textFailure rule f log)
  | .ok change =>
    let log := log.step rule
    match change text with
    | .ok (some new) => (new, log)
    | .ok none => (text, log)
    | .error f => (text, textFailure rule f log)

/-- Applies one rule. -/
def apply (source : String) (params : Params) (rule : Rule) (holding : Holding) (log : Log) :
    Step (Holding × Log) := do
  match rule.action with
  | .tree prepare =>
    let (context, origin, log) ← asTree holding log
    let (context, log) ← editTree rule.name (prepare params) context origin log
    return (.tree context origin, log)
  | .text prepare =>
    let (text, log) ← asText source holding log
    let (text, log) := editText rule.name (prepare params) text log
    return (.text text, log)

/-- Applies rules in order and prints what they leave. -/
def applyAll (source : String) (params : Params) : List Rule → Holding → Log → Step (String × Log)
  | [], holding, log => asText source holding log
  | rule :: rest, holding, log => do
    let (holding, log) ← apply source params rule holding log
    applyAll source params rest holding log

/-- What rules in order make of a source, before anybody is told what happened. -/
def rules (source : String) (rules : List Rule) (params : Params) : Result :=
  match applyAll source params rules (.text source) {} with
  | .ok (code, log) => ⟨code, false, log⟩
  | .error result => result

end Deminify.Run
