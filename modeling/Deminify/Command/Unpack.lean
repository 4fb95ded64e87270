import Deminify.Bundle.Unpack
import Deminify.Command.Unminify

/-!
# The command that unpacks a bundle

Takes a bundle apart and writes each module to a file of its own below the output directory, restored
by the rules unless that is not wanted. The rules know the file names of all modules. **A module that
cannot be restored is written as it came**, and counted.

* `Deminify.Command.unpackParams` – the parameters of the rules;
* `Deminify.Command.writeModule` – writes one module;
* `Deminify.Command.unpack` – **the command**.
-/

namespace Deminify.Command

/-- The options of the command. -/
def unpackOptions : List OptionForm := [
  ⟨["-o", "--output"], "output_dir", .value⟩,
  ⟨["-f", "--force"], "force", .switch true⟩,
  ⟨["--unminify"], "unminify", .switch true⟩,
  ⟨["--no-unminify"], "unminify", .switch false⟩,
  ⟨["--format"], "format_output", .switch true⟩,
  ⟨["--no-format"], "format_output", .switch false⟩,
  ⟨["--debug"], "debug", .switch true⟩,
  ⟨["--debug-file"], "debug_log_file", .value⟩,
  ⟨["--help"], "help", .switch true⟩]

/-- The one file that is given. Anything else is a misuse. -/
def onlyFile (a : Arguments) : Command Path := do
  match a.operands with
  | [operand] =>
    let file := Path.ofText operand
    let d ← disk
    if isOperand d operand && d.isFile file then return file else misused
  | _ => misused

/-- The id of a module as data. -/
def idJson : Bundle.ModuleId → Json
  | .number n => .int n
  | .name s => .str s

/-- The parameters of the rules: those of the settings, and the file names of the modules. -/
def unpackParams (config : Config) (bundle : Bundle) : Params where
  settings := config.params
  modules := some (bundle.names.map fun (id, name) => (idJson id, .str name))

/-- Writes a module, restored by the rules if there are any, and says whether they failed. -/
def writeModule (config : Config) (bundle : Bundle) (rules : Option (List Rule))
    (module_ : Bundle.Module) : Command Bool := do
  let file := Path.ofText (bundle.fileNameOf module_)
  let output := config.outputDir.join file
  match rules with
  | none =>
    save module_.code output true true
    return false
  | some rules =>
    let result ← runRules module_.code file.name rules (unpackParams config bundle)
    save result.code output true true
    return result.failed

/-- The entry of the journal about a bundle. -/
def bundleData (bundle : Bundle) : List (String × Json) := [
  ("bundler", .str bundle.bundler),
  ("modules", .list (bundle.modules.map fun m => .str m.id.text)),
  ("mapping", .obj (bundle.names.foldl (fun table (id, name) =>
    Json.put table id.text (.str name)) []))]

/-- The bundle of a source, or the end of the command if it is none. -/
def readBundle (source : String) (journal : Bool) : Command Bundle := do
  match Bundle.unpack source with
  | .ok bundle =>
    let bundler := bundle.bundler
    let count := bundle.modules.length
    sayIn "dim" s!"Detected {bundler} bundle with {count} modules"
    return bundle
  | .error f =>
    match f with
    | .bundleUnknown | .bundleUnreadable _ =>
      sayIn "red" f.message
      note "error" "Unpack failed"
        [("error", .str f.message), ("details", (f.details.map Json.str).getD .null)]
      closeJournal journal
      exit 1
    | _ => throw (.failure f)

/-- Takes a bundle apart into files. -/
def unpack (args : List String) : Command Unit := do
  let some a := readArguments? unpackOptions true args | misused
  if a.isOn "help" then exit 0
  let file ← onlyFile a
  let asked := askedPath a "output_dir" ++ askedOn a "force" ++ askedEither a "format_output"
  let config ← orFail (Config.read asked (← read).environment (← disk))
  let wanted := a.isOn "debug"
  openJournal wanted ((a.value? "debug_log_file").map Path.ofText)
    [("input_path", .str file.text), ("output_dir", .str config.outputDir.text)]
  let source ← orFail ((← disk).readText file)
  let bundle ← readBundle source wanted
  prepareOutput config.outputDir config.force
  let rules ←
    if (a.switch? "unminify").getD true then some <$> selectRules config.rules config.format
    else pure none
  let failed ← bundle.modules.mapM (writeModule config bundle rules)
  note "info" "Unpacked bundle" (bundleData bundle)
  let count := bundle.modules.length
  let bundler := bundle.bundler
  sayIn "green" (s!"Unpacked {count} modules ({bundler}) to: " ++ config.outputDir.text)
  let failures := (failed.filter id).length
  if failures > 0 then sayIn "yellow" s!"{failures} modules could not be fully unminified"
  closeJournal wanted

end Deminify.Command
