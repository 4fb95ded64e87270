import Deminify.Command.Basic
import Deminify.Command.Files
import Deminify.Timing

/-!
# The command that restores files

Runs the rules over files and directories, writes each result below the output directory under the
path of its file, and sums up. **A file that cannot be read or restored does not stop the others**;
it is marked in the summary, and the command then ends with a code of its own.

* `Deminify.Command.FileReport` – what became of a file;
* `Deminify.Command.processFile` – works on one file;
* `Deminify.Command.unminify` – **the command**.
-/

namespace Deminify.Command

/-- What became of a file. A file that could not be read has no output. -/
structure FileReport where
  file : Path
  output : Option Path := none
  warnings : Nat := 0
  errors : Nat := 0
  error : Option String := none

/-- The report as data. -/
def FileReport.toJson (r : FileReport) : Json :=
  let output : List (String × Json) := match r.output with
    | some p =>
      [("output", .str p.text), ("warnings", .int r.warnings), ("errors", .int r.errors)]
    | none => []
  let error : List (String × Json) := match r.error with
    | some message => [("error", .str message)]
    | none => []
  .obj ([("file", .str r.file.text)] ++ output ++ error)

/-- The report as a row of the summary, in markup. -/
def FileReport.row (r : FileReport) : List String :=
  [r.file.text, (r.output.map Path.text).getD "-", toString r.warnings,
    if r.error.isNone then "✓" else "✗"]

/-- How many diagnostics have a level. -/
def countLevel (level : String) (log : Run.Log) : Nat :=
  (log.diagnostics.toList.filter (·.level == level)).length

/-- Why a run failed, if it did. -/
def failureOf (result : Run.Result) : Option String :=
  if result.failed then
    match result.log.diagnostics.toList.find? (·.level == "error") with
    | some d => some d.message
    | none => some "failed"
  else none

/-- What the steps of a run took. -/
def measurements (m : Machine) (file : String) (log : Run.Log) : List Timing.Measurement :=
  log.steps.toList.map fun step => { file, step, time := m.duration file step }

/-- Works on one file: what became of it, and what the steps took. -/
def processFile (input : InputFile) (output : Path) (rules : List Rule) (params : Params) :
    Command (FileReport × List Timing.Measurement) := do
  match (← disk).readText input.file with
  | .error f =>
    sayIn "red" ("Error reading " ++ input.file.text ++ ": " ++ f.message)
    return ({ file := input.file, error := some f.message }, [])
  | .ok source =>
    let name := input.file.name
    let result ← runRules source name rules params
    save result.code output true true
    let report : FileReport := {
      file := input.file
      output := some output
      warnings := countLevel "warning" result.log
      errors := countLevel "error" result.log
      error := failureOf result }
    let data := match report.toJson with
      | .obj fields => fields
      | _ => []
    note "info" ("Processed " ++ input.file.text) data
    return (report, measurements (← read) name result.log)

/-- The options of the command. -/
def unminifyOptions : List OptionForm := [
  ⟨["-o", "--output"], "output_dir", .value⟩,
  ⟨["-f", "--force"], "force", .switch true⟩,
  ⟨["--rules"], "rules", .value⟩,
  ⟨["--format"], "format_output", .switch true⟩,
  ⟨["--no-format"], "format_output", .switch false⟩,
  ⟨["--concurrency"], "concurrency", .value⟩,
  ⟨["--pragma"], "jsx_pragma", .value⟩,
  ⟨["--pragma-frag"], "jsx_pragma_frag", .value⟩,
  ⟨["--perf"], "perf", .switch true⟩,
  ⟨["--debug"], "debug", .switch true⟩,
  ⟨["--debug-file"], "debug_log_file", .value⟩,
  ⟨["--help"], "help", .switch true⟩]

/-- The path that was given as an option, as a setting. -/
def askedPath (a : Arguments) (name : String) : List (String × Json) :=
  match a.value? name with
  | some s => [(name, .str s)]
  | none => []

/-- The text that was given as an option, as a setting; an empty one counts as not given. -/
def askedText (a : Arguments) (name : String) : List (String × Json) :=
  (askedPath a name).filter fun (_, j) =>
    match j with
    | .str s => !s.isEmpty
    | _ => true

/-- The switch that was turned on, as a setting. -/
def askedOn (a : Arguments) (name : String) : List (String × Json) :=
  if a.isOn name then [(name, .bool true)] else []

/-- The switch that was turned on or off, as a setting. -/
def askedEither (a : Arguments) (name : String) : List (String × Json) :=
  match a.switch? name with
  | some on => [(name, .bool on)]
  | none => []

/-- The number of files at once that was given as an option, as a setting. A text that is no number,
or one below one, is a misuse. -/
def askedConcurrency (a : Arguments) : Command (List (String × Json)) := do
  match a.value? "concurrency" with
  | none => return []
  | some s =>
    match Text.integer? s with
    | some n => if 1 ≤ n then return [("concurrency", .int n)] else misused
    | none => misused

/-- Names of rules as data. -/
def rulesJson (given : Option String) (config : Config) : Json :=
  match given with
  | some s => .str s
  | none => (config.rules.map fun names => Json.list (names.map .str)).getD .null

/-- Shows a table of times. What they were spent on is written in markup. -/
def showTotals (title label : String) (totals : List (String × Binary64)) : Command Unit := do
  let shown ← totals.mapM fun (key, time) => do
    return (← orFail (Console.unstyled key), time)
  show_ (.times title label shown)

/-- Shows what the steps and the files took. -/
def showTimes (t : Timing) : Command Unit := do
  showTotals "Time per rule" "Step" t.byStep
  showTotals "Time per file" "File" t.byFile

/-- Works on files, one after the other, and sums up. -/
def processAll (config : Config) (rules : List Rule) (files : List InputFile) :
    Command (List FileReport) := do
  let params : Params := { settings := config.params }
  let results ← files.mapM fun f => processFile f (config.outputDir.join f.result) rules params
  let reports := results.map (·.1)
  let summary ← orFail (Console.Table.ofMarkup "Processing Summary"
    ["File", "Output", "Warnings", "Status"] (reports.map FileReport.row))
  show_ (.table summary)
  if config.perf then showTimes { collected := results.flatMap (·.2) }
  note "info" "Processing complete" [("results", .list (reports.map FileReport.toJson))]
  return reports

/-- Runs the rules over files and directories. -/
def unminify (args : List String) : Command Unit := do
  let some a := readArguments? unminifyOptions true args | misused
  if a.isOn "help" then exit 0
  let concurrency ← askedConcurrency a
  let d ← disk
  let operands := a.operands.map Path.ofText
  if a.operands.isEmpty || !a.operands.all (isOperand d) then misused
  let asked := askedPath a "output_dir" ++ askedOn a "force" ++ askedEither a "format_output"
    ++ concurrency ++ askedText a "jsx_pragma" ++ askedText a "jsx_pragma_frag" ++ askedOn a "perf"
    ++ askedPath a "debug_log_file"
  let config ← orFail (Config.read asked (← read).environment d)
  let named := (a.value? "rules").filter (!·.isEmpty)
  let wanted := a.isOn "debug"
  openJournal wanted config.journal [
    ("input_paths", .list (operands.map fun p => .str p.text)),
    ("output_dir", .str config.outputDir.text), ("rules", rulesJson named config),
    ("concurrency", .int config.concurrency)]
  let names := (named.map Config.namesIn).or config.rules
  let rules ← selectRules names config.format
  let files := inputFiles (← disk) operands config.skip
  if files.isEmpty then
    sayIn "yellow" "No JavaScript files found"
    closeJournal wanted
  else
    let count := files.length
    sayIn "blue" s!"Found {count} JavaScript files"
    prepareOutput config.outputDir config.force
    let reports ← processAll config rules files
    closeJournal wanted
    if reports.any (·.error.isSome) then exit 1

end Deminify.Command
