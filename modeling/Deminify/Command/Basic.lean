import Deminify.Console
import Deminify.Journal
import Deminify.Text.Numeral

/-!
# Commands

A command finds a disk and an environment, changes the disk, says something and ends with a code. It
may end early, and what it has done until then stays done. **A failure that no command expects
escapes**: the command then has no code of its own.

* `Deminify.Machine` – what a command finds;
* `Deminify.Session`, `Deminify.Command` – a command at work;
* `Deminify.Command.Outcome` – what it leaves behind.
-/

namespace Deminify.Command

/-!
## Arguments of commands

The arguments of a command are options, by a long or a short name, and operands. Short options may
stand together behind one dash, the last of them with its value; a value may also be joined to a long
name by an equals sign. Two dashes end the options. **An argument that fits nothing is a misuse.**

* `Deminify.Command.OptionForm` – the options that a command knows;
* `Deminify.Command.Arguments` – what was given;
* `Deminify.Command.readArguments?` – reads arguments.
-/

/-- What an option does: it takes a value, or it switches something on or off. -/
inductive OptionKind where
  | value
  | switch (on : Bool)
  deriving DecidableEq, Repr

/-- An option: the names by which it is given, what it is about, and what it does. -/
structure OptionForm where
  names : List String
  about : String
  kind : OptionKind
  deriving Repr

/-- What was given: the values and switches in order, and the operands. -/
structure Arguments where
  values : List (String × String) := []
  switches : List (String × Bool) := []
  operands : List String := []
  deriving Repr, Inhabited

namespace Arguments

/-- The value given last. -/
def value? (a : Arguments) (about : String) : Option String := a.values.reverse.lookup about

/-- The switch given last. -/
def switch? (a : Arguments) (about : String) : Option Bool := a.switches.reverse.lookup about

/-- Whether a switch was turned on last. -/
def isOn (a : Arguments) (about : String) : Bool := (a.switch? about).getD false

/-- Adds a value behind what was given. -/
def withValue (a : Arguments) (about value : String) : Arguments :=
  { a with values := a.values ++ [(about, value)] }

/-- Adds a switch behind what was given. -/
def withSwitch (a : Arguments) (about : String) (on : Bool) : Arguments :=
  { a with switches := a.switches ++ [(about, on)] }

/-- Adds operands behind those given. -/
def withOperands (a : Arguments) (more : List String) : Arguments :=
  { a with operands := a.operands ++ more }

end Arguments

/-- The option of a name. -/
def optionNamed? (forms : List OptionForm) (name : String) : Option OptionForm :=
  forms.find? fun f => f.names.contains name

/-- What an argument with options gives, and the option whose value is still missing. -/
abbrev Taken := Arguments × Option String

/-- Takes the letters of short options that stand together. -/
def takeLetters? (forms : List OptionForm) (a : Arguments) : List Char → Option Taken
  | [] => some (a, none)
  | c :: rest => do
    let form ← optionNamed? forms (String.ofList ['-', c])
    match form.kind with
    | .switch on => takeLetters? forms (a.withSwitch form.about on) rest
    | .value =>
      if rest.isEmpty then some (a, some form.about)
      else some (a.withValue form.about (String.ofList rest), none)

/-- Takes a long option, to which a value may be joined. -/
def takeLong? (forms : List OptionForm) (a : Arguments) (arg : String) : Option Taken := do
  let cs := arg.toList
  let joined := cs.dropWhile (· != '=')
  let form ← optionNamed? forms (String.ofList (cs.takeWhile (· != '=')))
  match form.kind, joined with
  | .switch on, [] => some (a.withSwitch form.about on, none)
  | .switch _, _ :: _ => none
  | .value, [] => some (a, some form.about)
  | .value, _ :: value => some (a.withValue form.about (String.ofList value), none)

/-- Takes an argument that starts with a dash. -/
def takeOption? (forms : List OptionForm) (a : Arguments) (arg : String) : Option Taken :=
  if arg.startsWith "--" then takeLong? forms a arg else takeLetters? forms a (arg.toList.drop 1)

/-- Reads arguments. Unless options may follow operands, the first operand ends them. None if an
option is not known, lacks its value or has one that it cannot take. -/
def readArgumentsFrom? (forms : List OptionForm) (mixed : Bool) (a : Arguments) :
    List String → Option Arguments
  | [] => some a
  | arg :: rest =>
    if arg == "--" then some (a.withOperands rest)
    else if arg.startsWith "-" && arg.length > 1 then
      match takeOption? forms a arg, rest with
      | none, _ => none
      | some (a, none), rest => readArgumentsFrom? forms mixed a rest
      | some (_, some _), [] => none
      | some (a, some about), value :: rest =>
        readArgumentsFrom? forms mixed (a.withValue about value) rest
    else if mixed then readArgumentsFrom? forms mixed (a.withOperands [arg]) rest
    else some (a.withOperands (arg :: rest))

/-- Reads arguments. -/
def readArguments? (forms : List OptionForm) (mixed : Bool) (args : List String) :
    Option Arguments :=
  readArgumentsFrom? forms mixed {} args

end Deminify.Command

namespace Deminify

/-- What a command finds: the disk, the environment, the time as entries of the journal and names of
files show it, and how long the steps of files take. -/
structure Machine where
  disk : Disk := {}
  environment : List (String × String) := []
  time : String := ""
  timeInNames : String := ""
  duration : (file step : String) → Binary64 := fun _ _ => Binary64.zero

/-- A command at work: the disk, the journal and what was said. -/
structure Session where
  disk : Disk := {}
  journal : Journal := {}
  said : Array Console.Block := #[]

/-- Why a command ends early. -/
inductive Command.Stop where
  | exit (code : Nat)
  | failure (f : Failure)

/-- A command, or a part of one. -/
abbrev Command := ReaderT Machine (ExceptT Command.Stop (StateM Session))

namespace Command

/-- What a command leaves behind. -/
structure Outcome where
  code : Nat
  said : List Console.Block
  disk : Disk
  escaped : Option Failure := none

/-- Ends the command. -/
def exit {α : Type} (code : Nat) : Command α := throw (.exit code)

/-- Ends the command because it is not used as it should be. -/
def misused {α : Type} : Command α := exit 2

/-- The value, or the failure that escapes. -/
def orFail {α : Type} : Except Failure α → Command α
  | .ok a => return a
  | .error f => throw (.failure f)

/-- The disk. -/
def disk : Command Disk := return (← get).disk

/-- Changes the disk. -/
def change (f : Disk → Except Failure Disk) : Command Unit := do
  let d ← orFail (f (← disk))
  modify fun s => { s with disk := d }

/-! ### Saying -/

/-- Shows a block. -/
def show_ (block : Console.Block) : Command Unit :=
  modify fun s => { s with said := s.said.push block }

/-- Shows the lines of a text. -/
def sayLines (text : String) : Command Unit :=
  for line in Console.shownLines text do
    show_ (.line line)

/-- Shows a text that holds no tags. -/
def sayPlain (text : String) : Command Unit :=
  sayLines (String.ofList (Console.Emoji.depicted text.toList))

/-- Shows a message. -/
def say (markup : String) : Command Unit := do sayLines (← orFail (Console.unstyled markup))

/-- Shows a message in a style. -/
def sayIn (style text : String) : Command Unit := say (Console.styled style text)

/-! ### The journal -/

/-- Writes an entry into the journal, if it is open. -/
def note (level message : String) (data : List (String × Json)) : Command Unit := do
  let time := (← read).time
  let journal := (← get).journal
  change fun d => journal.note d time level message (some (.obj data))

/-- The text of the path of the journal. -/
def journalName : Command String := return ((← get).journal.file.map Path.text).getD ""

/-- Opens the journal if it is asked for, with a first entry. -/
def openJournal (wanted : Bool) (file : Option Path) (data : List (String × Json)) :
    Command Unit := do
  if wanted then
    let stamp := (← read).timeInNames
    let file := file.getD { parts := ["unmangle_debug_" ++ stamp ++ ".log"] }
    let (d, journal) ← orFail (Journal.opened (← disk) file)
    modify fun s => { s with disk := d, journal }
    sayIn "yellow" ("Debug logging enabled: " ++ (← journalName))
    note "info" "Debug logging started" data

/-- Closes the journal if it was asked for. -/
def closeJournal (wanted : Bool) : Command Unit := do
  if wanted then
    say ("\n" ++ Console.styled "yellow" ("Debug log saved to: " ++ (← journalName)))
    modify fun s => { s with journal := Journal.closed }

/-- Runs a command on a machine. -/
def runOn (machine : Machine) (command : Command Unit) : Outcome :=
  let (ended, s) := (command.run machine).run.run { disk := machine.disk }
  let outcome : Outcome := { code := 0, said := s.said.toList, disk := s.disk }
  match ended with
  | .ok () => outcome
  | .error (.exit code) => { outcome with code }
  | .error (.failure f) => { outcome with escaped := some f }

end Command

end Deminify
