import Deminify.Disk.Basic
import Deminify.Json.Basic

/-!
# The journal

A record of what happens, kept in a file for those who look for a mistake. It is closed at first, and
while it is closed nothing is written. An entry has a time, a level and a message, and its data
follow on lines of their own. A journal that is opened where a file stands goes on with it.

* `Deminify.Journal`, `Deminify.Journal.opened`, `Deminify.Journal.closed`;
* `Deminify.Journal.Level` – what the word for a level asks for;
* `Deminify.Journal.entry` – the text of an entry;
* `Deminify.Journal.note` – **writes an entry**, if the journal is open.
-/

namespace Deminify.Clock

/-!
## Dates

A date and a time of day from the seconds since the start of 1970. Years are counted from the first
of March, so that the day that some years have more stands at their end.

* `Deminify.Clock.Moment`, `Deminify.Clock.momentOf` – the date and the time of day;
* `Deminify.Clock.Moment.shown`, `Deminify.Clock.Moment.inNames` – how they are written.
-/

/-- A date and a time of day. -/
structure Moment where
  year : Int
  month : Nat
  day : Nat
  hour : Nat
  minute : Nat
  second : Nat
  deriving DecidableEq, Repr

/-- The days from the first of March of the year zero to the start of 1970. -/
def daysBefore : Int := 719468

/-- The moment so many seconds after the start of 1970. -/
def momentOf (seconds : Int) : Moment :=
  let days := seconds.fdiv 86400 + daysBefore
  let rest := (seconds.fmod 86400).toNat
  -- four hundred years have always the same number of days
  let era := days.fdiv 146097
  let dayOfEra := (days.fmod 146097).toNat
  let yearOfEra :=
    (dayOfEra - dayOfEra / 1460 + dayOfEra / 36524 - dayOfEra / 146096) / 365
  let dayOfYear := dayOfEra - (365 * yearOfEra + yearOfEra / 4 - yearOfEra / 100)
  let shifted := (5 * dayOfYear + 2) / 153
  let month := if shifted < 10 then shifted + 3 else shifted - 9
  let year : Int := yearOfEra + era * 400
  { year := if month ≤ 2 then year + 1 else year
    month
    day := dayOfYear - (153 * shifted + 2) / 5 + 1
    hour := rest / 3600
    minute := rest / 60 % 60
    second := rest % 60 }

/-- A number with zeros in front to make up the width. -/
def digits (width : Nat) (n : Nat) : String :=
  let text := toString n
  String.ofList (List.replicate (width - text.length) '0') ++ text

namespace Moment

/-- The date and the time as running text shows them. -/
def shown (m : Moment) : String :=
  digits 4 m.year.toNat ++ "-" ++ digits 2 m.month ++ "-" ++ digits 2 m.day ++ " " ++
    digits 2 m.hour ++ ":" ++ digits 2 m.minute ++ ":" ++ digits 2 m.second

/-- The date and the time as names of files show them. -/
def inNames (m : Moment) : String :=
  digits 4 m.year.toNat ++ digits 2 m.month ++ digits 2 m.day ++ "_" ++
    digits 2 m.hour ++ digits 2 m.minute ++ digits 2 m.second

end Moment

example : (momentOf 951827696).shown = "2000-02-29 12:34:56" := by cbv

end Deminify.Clock

namespace Deminify

/-- The file into which entries go; none while the journal is closed. -/
structure Journal where
  file : Option Path := none
  deriving Inhabited

namespace Journal

/-- What the word for a level asks for: an entry under a name, with a line below the message, or no
entry; or it names something of the journal that takes no entries. -/
inductive Level where
  | named (name trace : String)
  | silent
  | refused (f : Failure)

/-- The words for things of the journal that take no entries, and what these things are. -/
def thingsByWord : List (String × String) := [
  ("name", "str"), ("level", "int"), ("parent", "RootLogger"), ("root", "RootLogger"),
  ("propagate", "bool"), ("disabled", "bool"), ("handlers", "list"), ("filters", "list"),
  ("manager", "Manager"), ("_cache", "dict")]

/-- What a word asks for. What is no level counts as information; an exception is an error with a
trace, and outside of one the trace is empty. -/
def levelOf (word : String) : Level :=
  match word.toLower with
  | "debug" => .named "DEBUG" ""
  | "warning" | "warn" => .named "WARNING" ""
  | "error" => .named "ERROR" ""
  | "exception" => .named "ERROR" "\nNoneType: None"
  | "critical" | "fatal" => .named "CRITICAL" ""
  | "filter" => .silent
  | "handle" => .refused (.lacks "str" "levelno")
  | "log" => .refused (.shape "Logger.log() missing 1 required positional argument: 'msg'")
  | word =>
    match thingsByWord.lookup word with
    | some thing => .refused (.shape s!"'{thing}' object is not callable")
    | none => .named "INFO" ""

/-- The data under a message; empty data are left out. -/
def dataText : Option Json → String
  | none | some .null | some (.obj []) | some (.list []) | some (.bool false) | some (.str "")
  | some (.int 0) => ""
  | some (.real x) => if x.isZero then "" else "\n" ++ (Json.real x).indented
  | some data => "\n" ++ data.indented

/-- The text of an entry. -/
def entry (time level message : String) (data : Option Json) : Except Failure String :=
  match levelOf level with
  | .named name trace =>
    let padding := String.ofList (List.replicate (8 - name.length) ' ')
    .ok (time ++ " | " ++ name ++ padding ++ " | " ++ message ++ dataText data ++ trace ++ "\n")
  | .silent => .ok ""
  | .refused f => .error f

/-- Opens the journal at a path; a file that is missing is made. -/
def opened (disk : Disk) (file : Path) : Except Failure (Disk × Journal) := do
  return (← disk.append file "", { file := some file })

/-- The journal after it was closed. -/
def closed : Journal := {}

/-- Writes an entry, if the journal is open. -/
def note (j : Journal) (disk : Disk) (time level message : String) (data : Option Json) :
    Except Failure Disk := do
  match j.file with
  | some file => disk.append file (← entry time level message data)
  | none => return disk

end Journal

end Deminify
