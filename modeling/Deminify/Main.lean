import Deminify.Journal
import Deminify.Command

/-!
# The program

The outermost layer. What a command may look at is read from the disk first, then the command runs
without touching it, and at the end what it changed is written and what it said is printed.
-/

namespace Deminify.Main

/-- Reads what stands at a path, at most so many directories deep. -/
def load (disk : Disk) (path : Path) : Nat → IO Disk
  | 0 => return disk
  | depth + 1 => do
    let here := (← IO.currentDir) / path.text
    let place := path.resolved
    if !(← here.pathExists) || (disk.entry? place).isSome && !place.parts.isEmpty then return disk
    else if ← here.isDir then
      let disk := if place.parts.isEmpty then disk else disk.place place none
      (← here.readDir).foldlM (fun disk entry => load disk (path.child entry.fileName) depth) disk
    else
      return disk.place place (some (← IO.FS.readBinFile here))

/-- The texts in arguments that may be paths: whole arguments, and values joined to options. -/
def possiblePaths (args : List String) : List String :=
  args.flatMap fun arg =>
    if arg.startsWith "--" then [String.ofList ((arg.toList.dropWhile (· != '=')).drop 1)]
    else if arg.startsWith "-" then [String.ofList (arg.toList.drop 2)]
    else [arg]

/-- The variables of the environment that the settings, or the file of variables, ask for. -/
def environment (disk : Disk) : IO (List (String × String)) := do
  let names := Config.settings.map fun (name, _) => Config.variableStart ++ name
  let references := match disk.readText Config.variablesFile with
    | .ok text => Config.referencesIn text.toList
    | .error _ => []
  let all := names ++ names.map String.toUpper ++ references
  all.filterMapM fun name => do
    return (← IO.getEnv name).map fun value => (name, value)

/-- The seconds since the start of 1970, read off a file that was just made. -/
def seconds : IO Int := do
  let (_, file) ← IO.FS.createTempFile
  let made := (← file.metadata).modified.sec
  IO.FS.removeFile file
  return made

/-- What a command finds. -/
def machine (args : List String) : IO Machine := do
  let disk ← load {} Config.variablesFile 1
  let environment ← environment disk
  let settings := match Config.read [] environment disk with
    | .ok config => config
    | .error _ => {}
  let paths := (possiblePaths args).filter (!·.isEmpty) ++ [settings.outputDir.text] ++
    (settings.journal.map Path.text).toList
  let disk ← paths.foldlM (fun disk path => load disk (Path.ofText path) 64) disk
  let moment := Clock.momentOf (← seconds)
  return { disk, environment, time := moment.shown, timeInNames := moment.inNames }

/-- Writes what a command changed. -/
def store (before after : Disk) : IO Unit := do
  let root ← IO.currentDir
  for (path, entry) in after.entries do
    let here := root / path.text
    match entry, before.entry? path with
    | .directory, some .directory => pure ()
    | .directory, _ => IO.FS.createDirAll here
    | .file octets, some (.file old) => if octets != old then IO.FS.writeBinFile here octets
    | .file octets, _ => IO.FS.writeBinFile here octets

/-- Prints what a command said. -/
def print (said : List Console.Block) : IO Unit :=
  for block in said do
    for line in block.lines do
      IO.println line

end Deminify.Main

/-- Runs the command that the arguments name. -/
def main (args : List String) : IO UInt32 := do
  let machine ← Deminify.Main.machine args
  let outcome := Deminify.Command.runLine machine args
  Deminify.Main.store machine.disk outcome.disk
  Deminify.Main.print outcome.said
  match outcome.escaped with
  | some failure =>
    IO.eprintln failure.message
    return 1
  | none => return outcome.code.toUInt32
