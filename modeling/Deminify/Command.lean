import Deminify.Command.Unpack

/-!
# The command line

The first operand names a command, and the rest is for that command. Options of the line itself stand
before it.

* `Deminify.Command.version` – the version;
* `Deminify.Command.runLine` – **runs a command line on a machine**.
-/

namespace Deminify.Command

/-!
## The commands that only show something

One command shows the scopes of a program with their bindings, another one the rules.

* `Deminify.Command.analyze` – the scopes of a program;
* `Deminify.Command.listRules` – the rules, the default ones first and in their order.
-/

/-- The one option of a command that has no others. -/
def helpOption : List OptionForm := [⟨["--help"], "help", .switch true⟩]

/-- Where a scope starts. -/
def scopeLocation (source : String) (doc : Document) (scope : Scope) : String :=
  match Program.positionOf source (doc.get scope.node) with
  | some start =>
    let line := start.row + 1
    s!"line {line}"
  | none => "synthetic"

/-- A binding on one line. -/
def bindingLine (b : Binding) : String :=
  let count := b.references.size
  let name := b.name
  let kind := b.kind
  let reassigned := if b.constant then "" else ", reassigned"
  s!"  - {name} ({kind}, {count} references{reassigned})"

/-- Shows a scope with its bindings. -/
def showScope (source : String) (doc : Document) (scopes : ScopeTree) (id : Nat) (scope : Scope) :
    Command Unit := do
  let kind := scope.kind
  let location := scopeLocation source doc scope
  say ("\n" ++ Console.styled "green" s!"Scope {id}" ++ s!" ({kind}, {location})")
  for (_, b) in scope.bindings do
    say (bindingLine (scopes.binding b))

/-- Shows the scopes and bindings of a program. -/
def analyze (args : List String) : Command Unit := do
  let some a := readArguments? helpOption true args | misused
  if a.isOn "help" then exit 0
  let file ← onlyFile a
  let source ← orFail ((← disk).readText file)
  match Program.read source with
  | .error e =>
    sayIn "red" ("Parse error: " ++ e.shown)
    exit 1
  | .ok p =>
    let doc := Document.ofTree p.tree p.next
    let scopes ← orFail (ScopeTree.build doc.root)
    say (Console.styled "blue" "File:" ++ " " ++ file.text)
    say (Console.styled "blue" "Source type:" ++ " " ++ if p.isModule then "module" else "script")
    let count := scopes.scopes.size
    say (Console.styled "blue" "Total scopes:" ++ s!" {count}")
    let globals := (scopes.globals.map (·.1)).mergeSort fun a b => !(b < a)
    if !globals.isEmpty then
      say (Console.styled "blue" "Globals:" ++ " " ++ String.intercalate ", " globals)
    for (scope, id) in scopes.scopes.toList.zipIdx do
      showScope source doc scopes id scope

/-- Shows the rules. -/
def listRules (args : List String) : Command Unit := do
  let some a := readArguments? helpOption true args | misused
  if a.isOn "help" then exit 0
  if !a.operands.isEmpty then misused
  let isDefault (r : Rule) : Bool := Rules.defaultOrder.contains r.name
  let ordered := Rules.all.filter isDefault ++ Rules.all.filter (!isDefault ·)
  show_ (.table ⟨"Rules", ["Name", "Kind", "Default", "Description"],
    ordered.map fun r => [r.name, r.kind, if isDefault r then "✓" else "", r.description]⟩)

/-- The version of the program. -/
def version : String := "0.1.0"

/-- The options of the line itself. -/
def lineOptions : List OptionForm := [
  ⟨["--version"], "version", .switch true⟩,
  ⟨["--help"], "help", .switch true⟩]

/-- Runs the command that a word names. -/
def named (word : String) (args : List String) : Command Unit :=
  match word with
  | "unminify" => unminify args
  | "unpack" => unpack args
  | "analyze" => analyze args
  | "rules" => listRules args
  | _ => misused

/-- Runs a command line. -/
def line (args : List String) : Command Unit := do
  let some a := readArguments? lineOptions false args | misused
  match a.switches with
  | ("version", _) :: _ => show_ (.line ("unmangle, version " ++ version))
  | _ :: _ => exit 0
  | [] =>
    match a.operands with
    | word :: rest => named word rest
    | [] => misused

/-- Runs a command line on a machine. -/
def runLine (machine : Machine) (args : List String) : Outcome := runOn machine (line args)

end Deminify.Command
