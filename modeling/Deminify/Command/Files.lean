import Deminify.Command.Basic
import Deminify.Config
import Deminify.Rules.Registry
import Deminify.Run

/-!
# Files of a command

Which files a command works on, and how it goes about one of them. A file that is named is taken as
it is; of a directory all programs in it are taken, in order, with the paths by which they lie below
it. **No file is taken twice**, by whatever paths it is named.

* `Deminify.Command.candidates`, `Deminify.Command.inputFiles` – the files to work on;
* `Deminify.Command.prepareOutput`, `Deminify.Command.save` – where the results go;
* `Deminify.Command.runRules` – **runs rules over a file and says what happened**; a message that
  cannot be said is a failure that escapes.
-/

namespace Deminify.Command

/-- The suffixes of programs. -/
def programSuffixes : List String := [".js", ".mjs", ".cjs", ".jsx"]

/-- A file to work on, and the path of its result below the output directory. -/
structure InputFile where
  file : Path
  result : Path
  deriving DecidableEq, Repr

/-- Whether an operand names something on the disk. One that asks for a directory names no file. -/
def isOperand (d : Disk) (operand : String) : Bool :=
  let path := Path.ofText operand
  !operand.isEmpty &&
    if Path.asksDirectory operand then d.isDirectory path else d.exists_ path

/-- The files that an operand stands for. -/
def candidates (d : Disk) (operand : Path) : List InputFile :=
  if d.isFile operand then [⟨operand, { parts := [operand.name] }⟩]
  else
    (d.below operand).filterMap fun parts =>
      let file := { operand with parts := operand.parts ++ parts }
      if d.isFile file && programSuffixes.contains file.suffix then some ⟨file, { parts }⟩ else none

/-- Whether the text of a path holds one of the patterns. -/
def isSkipped (patterns : List String) (file : Path) : Bool :=
  patterns.any fun pattern => (file.text.splitOn pattern).length > 1 || pattern.isEmpty

/-- The files among candidates that were not met before. -/
def unseen : List Path → List InputFile → List InputFile
  | _, [] => []
  | seen, f :: rest =>
    if seen.contains f.file.resolved then unseen seen rest
    else f :: unseen (f.file.resolved :: seen) rest

/-- The files to work on, without those whose path holds one of the patterns. -/
def inputFiles (d : Disk) (operands : List Path) (skipped : List String) : List InputFile :=
  unseen [] ((operands.flatMap (candidates d)).filter fun f => !isSkipped skipped f.file)

/-! ### Results -/

/-- Makes the output directory. One that holds something is refused, unless that is forced. -/
def prepareOutput (directory : Path) (force : Bool) : Command Unit := do
  let d ← disk
  if d.isFile directory then throw (.failure (.notDirectory directory.text))
  if d.exists_ directory && !d.isEmptyDirectory directory && !force then
    sayIn "red"
      ("Output directory is not empty: " ++ directory.text ++ " (use --force to overwrite)")
    exit 1
  change (·.makeDirectories directory)

/-- Saves a result, with the directory it goes to if that is to be made, and says so unless it is to
be quiet. -/
def save (code : String) (file : Path) (makeDirectory quiet : Bool) : Command Unit := do
  if makeDirectory then change (·.makeDirectories file.parent)
  change (·.writeText file code)
  if !quiet then sayIn "green" ("Saved output to: " ++ file.text)

/-! ### Rules -/

/-- The rules by name; an unknown one ends the command. -/
def selectRules (names : Option (List String)) (format : Bool) : Command (List Rule) := do
  match Rules.select (names.getD []) format with
  | .ok rules => return rules
  | .error f =>
    sayIn "red" f.message
    exit 1

/-- Says what happened while a file was worked on. -/
def report (file : String) : Run.Event → Command Unit
  | .unreadable e frame => do
    sayIn "red" (file ++ ": Parse error: " ++ e.description)
    match frame with
    | some frame => if !frame.isEmpty then sayPlain frame
    | none => pure ()
    note "ERROR" "Parse failure" [("file", .str file), ("error", .str e.shown)]
  | .unprintable f => do
    sayIn "red" (file ++ ": failed to print program: " ++ f.shown)
    note "ERROR" "Print failure" [("file", .str file), ("error", .str f.shown)]
  | .ruleFailed rule onText f => do
    sayIn (if onText then "yellow" else "red") (file ++ ": rule " ++ rule ++ " failed: " ++ f.shown)
    note (if onText then "WARNING" else "ERROR")
      (if onText then "Text rule failure" else "Rule failure")
      [("file", .str file), ("rule", .str rule), ("error", .str f.recorded)]
  | .applied rule => note "DEBUG" ("Applied " ++ rule) [("file", .str file)]

/-- Runs rules over a source and says what happened. The messages quote the words of failures, which
are read as markup: where these close what is not open, there is no result. -/
def runRules (source file : String) (rules : List Rule) (params : Params) : Command Run.Result := do
  let result := Run.rules source rules params
  for event in result.log.events do
    report file event
  return result

end Deminify.Command
