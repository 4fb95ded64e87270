import Deminify.Disk.Basic
import Deminify.Json.Basic
import Deminify.Rule.Params
import Deminify.Text.Case
import Deminify.Text.Word

/-!
# Configuration

The settings of a run. Each is looked for in three places: what was asked for, the environment, and
the file of variables in the current directory; **the first place that has it decides**. Variables
are named after the settings, behind a common start and in any case; a list in a variable is data,
and names of rules may also be parted by commas.

* `Deminify.Config` – the settings;
* `Deminify.Config.fromVariables` – the settings that variables give;
* `Deminify.Config.read` – **the settings of a run**;
* `Deminify.Config.params` – the parameters of the rules.
-/

namespace Deminify.Config

/-!
## Files of variables

A file of variables has a name and a value to a line, comments, and values between quotes that may
run over several lines and hold escapes. A line that cannot be read is passed over. A value may refer
to variables, `$` before braces, also with a default behind `:-`: **those set above it in the file go
before those of the environment**.

* `Deminify.Config.bindings` – the names and values of a file, as written;
* `Deminify.Config.readVariables` – the variables that a file sets.
-/

/-- A blank that ends no line. -/
def isInlineBlank (c : Char) : Bool := Text.isBlank c && c != '\r' && c != '\n'

/-- Without the blanks at the start that end no line. -/
def skipBlanks (cs : List Char) : List Char := cs.dropWhile isInlineBlank

/-- Whether the character stands within a line. -/
def isInLine (c : Char) : Bool := c != '\r' && c != '\n'

/-! ### Values -/

/-- The escapes that a quoted value may hold: the character behind the backslash, and what it
stands for. -/
def escapesIn (quote : Char) : List (Char × Char) :=
  if quote == '"' then
    [('\\', '\\'), ('\x27', '\x27'), ('"', '"'), ('a', '\x07'), ('b', '\x08'), ('f', '\x0c'),
      ('n', '\n'), ('r', '\r'), ('t', '\t'), ('v', '\x0b')]
  else [('\\', '\\'), ('\x27', '\x27')]

/-- The characters with their escapes resolved. -/
def unescape (escapes : List (Char × Char)) : List Char → List Char
  | [] => []
  | [c] => [c]
  | '\\' :: c :: rest =>
    match escapes.lookup c with
    | some meant => meant :: unescape escapes rest
    | none => '\\' :: unescape escapes (c :: rest)
  | c :: rest => c :: unescape escapes rest

/-- The number of characters before the quote that ends a value: the first one without a backslash
before it or, if there is none, the last one; `fallback` is that of those passed. -/
def quotedLength? (quote : Char) : Nat → Option Nat → List Char → Option Nat
  | _, fallback, [] => fallback
  | n, fallback, [c] => if c == quote then some n else fallback
  | n, fallback, c :: d :: rest =>
    if c == quote then some n
    else if c == '\\' && d == quote then quotedLength? quote (n + 2) (some (n + 1)) rest
    else quotedLength? quote (n + 1) fallback (d :: rest)

/-- A value without quotes: it ends before a comment that a blank precedes, and has no blanks at its
end. -/
def bareValue : List Char → List Char
  | [] => []
  | c :: rest =>
    if Text.isBlank c && (Text.dropBlanks rest).head? == some '#' then [] else c :: bareValue rest

/-- Reads a value: its text, and what follows. None if a quote is not closed. -/
def valueAt? (cs : List Char) : Option (String × List Char) :=
  match cs with
  | [] => some ("", [])
  | c :: rest =>
    if c == '"' || c == '\x27' then
      (quotedLength? c 0 none rest).map fun n =>
        (String.ofList (unescape (escapesIn c) (rest.take n)), rest.drop (n + 1))
    else
      let value := bareValue (cs.takeWhile isInLine)
      some (Text.stripEnd (String.ofList value), cs.dropWhile isInLine)

/-! ### Lines -/

/-- Reads a name: none if a comment starts here; what follows. -/
def nameAt? (cs : List Char) : Option (Option String × List Char) :=
  match cs with
  | '#' :: _ => some (none, cs)
  | '\x27' :: rest =>
    let name := rest.takeWhile (· != '\x27')
    match rest.drop name.length with
    | _ :: after => if name.isEmpty then none else some (some (String.ofList name), after)
    | [] => none
  | _ =>
    let name := cs.takeWhile fun c => c != '=' && c != '#' && !Text.isBlank c
    if name.isEmpty then none else some (some (String.ofList name), cs.drop name.length)

/-- Without the word that may stand before a name. -/
def skipExport (cs : List Char) : List Char :=
  let word := "export".toList
  if word.isPrefixOf cs && ((cs.drop word.length).head?.map isInlineBlank).getD false then
    skipBlanks (cs.drop word.length)
  else cs

/-- What follows the end of a line; none if something else stands there. -/
def lineEndAt? (cs : List Char) : Option (List Char) :=
  match skipBlanks cs with
  | [] => some []
  | '\r' :: '\n' :: rest => some rest
  | '\n' :: rest | '\r' :: rest => some rest
  | _ => none

/-- Without the comment that may stand here. -/
def skipComment (cs : List Char) : List Char :=
  if (skipBlanks cs).head? == some '#' then (skipBlanks cs).dropWhile isInLine else cs

/-- Without the rest of the line. -/
def skipLine (cs : List Char) : List Char := (cs.dropWhile isInLine).tail

/-- A name with its value, if it has one. -/
abbrev Variable := String × Option String

/-- Reads the value behind an equals sign. Blanks that lead to a comment leave it empty. -/
def valueAfterSign? (cs : List Char) : Option (String × List Char) :=
  let value := skipBlanks cs
  if value.head? == some '#' && value.length < cs.length then some ("", value) else valueAt? value

/-- Reads what is bound at the start, and what follows. -/
def bindingAt (cs : List Char) : Option Variable × List Char :=
  let cs := skipExport (Text.dropBlanks cs)
  match nameAt? cs with
  | none => (none, skipLine cs)
  | some (name, rest) =>
    let rest := skipBlanks rest
    let read : Option (Option String × List Char) :=
      if rest.head? == some '=' then
        (valueAfterSign? rest.tail).map fun (value, rest) => (some value, rest)
      else some (none, rest)
    match read with
    | none => (none, skipLine rest.tail)
    | some (value, rest) =>
      let rest := skipComment rest
      match lineEndAt? rest with
      | some rest => (name.map fun name => (name, value), rest)
      | none => (none, skipLine rest)

/-- Reads names and values, as many as `fuel` at most. -/
def bindingsFrom : Nat → List Char → List Variable
  | 0, _ => []
  | fuel + 1, cs =>
    if cs.isEmpty then []
    else
      let (found, rest) := bindingAt cs
      found.toList ++ bindingsFrom fuel rest

/-- The characters without the mark of the order of octets that may stand before them. -/
def withoutMark : List Char → List Char
  | '\ufeff' :: cs => cs
  | cs => cs

/-- The names and values of a file, as written. Each reading takes a character at least. -/
def bindings (text : String) : List Variable := bindingsFrom text.length (withoutMark text.toList)

/-! ### References -/

/-- The reference at the start, behind its opening brace: the name, its default, and what follows. -/
def referenceAt? (cs : List Char) : Option (String × String × List Char) :=
  let name := cs.takeWhile fun c => c != '\x7d' && c != ':'
  match cs.drop name.length with
  | '\x7d' :: rest => some (String.ofList name, "", rest)
  | ':' :: '-' :: rest =>
    let default := rest.takeWhile (· != '\x7d')
    match rest.drop default.length with
    | _ :: after => some (String.ofList name, String.ofList default, after)
    | [] => none
  | _ => none

/-- The characters with references replaced. -/
def interpolateFrom (value : String → Option String) : Nat → List Char → List Char
  | 0, cs => cs
  | _, [] => []
  | fuel + 1, '$' :: '\x7b' :: rest =>
    match referenceAt? rest with
    | some (name, default, after) =>
      ((value name).getD default).toList ++ interpolateFrom value fuel after
    | none => '$' :: interpolateFrom value fuel ('\x7b' :: rest)
  | fuel + 1, c :: rest => c :: interpolateFrom value fuel rest

/-- The text with references replaced. -/
def interpolate (value : String → Option String) (text : String) : String :=
  String.ofList (interpolateFrom value text.length text.toList)

/-- The names to which a text refers. -/
def referencesIn : List Char → List String
  | [] => []
  | '$' :: '\x7b' :: rest =>
    ((referenceAt? rest).map fun (name, _, _) => name).toList ++ referencesIn rest
  | _ :: rest => referencesIn rest

/-- The variables that a file sets, in an environment. -/
def readVariables (environment : List (String × String)) (text : String) : List Variable :=
  (bindings text).foldl (fun done (name, value) =>
    let known (n : String) : Option String :=
      match done.lookup n with
      | some set => some (set.getD "")
      | none => environment.lookup n
    putKey done name (value.map (interpolate known))) []

end Deminify.Config

namespace Deminify

/-- The settings of a run. -/
structure Config where
  outputDir : Path := { parts := ["out"] }
  force : Bool := false
  format : Bool := false
  concurrency : Int := 4
  rules : Option (List String) := none
  skip : List String := ["node_modules"]
  pragma : Option String := none
  fragment : Option String := none
  hostObjects : List String := ["document"]
  helperSources : Option (List String) := none
  perf : Bool := false
  journal : Option Path := none
  deriving Inhabited

namespace Config

/-! ### Variables -/

/-- How the text of a variable is read. -/
inductive Reading where
  /-- The text is the value. -/
  | plain
  /-- The text is data. -/
  | data
  /-- The text is data if it can be read so, and else the value. -/
  | either
  deriving DecidableEq

/-- The settings by name, and how their variables are read. -/
def settings : List (String × Reading) := [
  ("output_dir", .plain), ("force", .plain), ("format_output", .plain), ("concurrency", .plain),
  ("rules", .either), ("skip_patterns", .data), ("jsx_pragma", .plain), ("jsx_pragma_frag", .plain),
  ("jsx_host_objects", .data), ("babel_helper_sources", .either), ("perf", .plain),
  ("debug_log_file", .plain)]

/-- The start of the names of variables. -/
def variableStart : String := "unmangle_"

/-- The value of a variable, whatever the case of its name; of several the last one counts. -/
def variableValue? (vars : List Variable) (name : String) : Option String :=
  (vars.reverse.find? fun (n, _) => Text.lower n == name).bind (·.2)

/-- The value that the text of a variable gives a setting. -/
def valueOf (source setting : String) (reading : Reading) (text : String) :
    Except Failure (Option Json) :=
  let given : Json → Option Json
    | .null => none
    | j => some j
  match reading, Json.read? text with
  | .plain, _ => .ok (some (.str text))
  | _, some j => .ok (given j)
  | .either, none => .ok (some (.str text))
  | .data, none => .error (.unparsable setting source)

/-- The settings that variables give. -/
def fromVariables (source : String) (vars : List Variable) :
    Except Failure (List (String × Json)) :=
  settings.filterMapM fun (setting, reading) => do
    match variableValue? vars (variableStart ++ setting) with
    | none => return none
    | some text => return (← valueOf source setting reading text).map fun j => (setting, j)

/-! ### Values -/

/-- A path. -/
def pathSetting : Json → Checked Path
  | .str s => .ok (Path.ofText s)
  | _ => .error 1

/-- The names in a text, parted by commas. -/
def namesIn (text : String) : List String :=
  ((text.splitOn ",").map Text.strip).filter (!·.isEmpty)

/-- Names of rules: a list, or a text in which commas part them. A text without names leaves the
choice open. -/
def rulesSetting : Json → Checked (Option (List String))
  | .str s => .ok (if (namesIn s).isEmpty then none else some (namesIn s))
  | j => Setting.optional Setting.texts j

/-- The settings that were given, checked. -/
def check (given : List (String × Json)) : Checked Config :=
  let d : Config := {}
  let take {α : Type} (name : String) (default : α) (read : Json → Checked α) : Checked α :=
    Setting.orDefault default read (given.lookup name)
  let c := Config.mk <$> take "output_dir" d.outputDir pathSetting
  let c := c.apply (take "force" d.force Setting.truth)
  let c := c.apply (take "format_output" d.format Setting.truth)
  let c := c.apply (take "concurrency" d.concurrency (Setting.wholeFrom 1))
  let c := c.apply (take "rules" d.rules rulesSetting)
  let c := c.apply (take "skip_patterns" d.skip Setting.texts)
  let c := c.apply (take "jsx_pragma" d.pragma (Setting.optional Setting.text))
  let c := c.apply (take "jsx_pragma_frag" d.fragment (Setting.optional Setting.text))
  let c := c.apply (take "jsx_host_objects" d.hostObjects Setting.texts)
  let c := c.apply (take "babel_helper_sources" d.helperSources (Setting.optional Setting.texts))
  let c := c.apply (take "perf" d.perf Setting.truth)
  c.apply (take "debug_log_file" d.journal (Setting.optional pathSetting))

/-- The file of variables in the current directory. -/
def variablesFile : Path := { parts := [".env"] }

/-- The settings of a run: what was asked for, under names in any case, goes before the environment,
and that before the file. -/
def read (asked : List (String × Json)) (environment : List (String × String)) (disk : Disk) :
    Except Failure Config := do
  let asked := asked.map fun (name, value) => (Text.lower name, value)
  let fromEnvironment ←
    fromVariables "EnvSettingsSource" (environment.map fun (n, v) => (n, some v))
  let fromFile ←
    if disk.isFile variablesFile then do
      let text ← disk.readText variablesFile
      fromVariables "DotEnvSettingsSource" (readVariables environment text)
    else pure []
  Params.check "Config" (check (asked ++ fromEnvironment ++ fromFile))

/-- The parameters of the rules. -/
def params (c : Config) : List (String × Json) :=
  let texts (items : List String) : Json := .list (items.map .str)
  let named (name : String) : Option String → List (String × Json)
    | some s => if s.isEmpty then [] else [(name, .str s)]
    | none => []
  let sources := c.helperSources.getD []
  [("hostObjects", texts c.hostObjects)] ++ named "pragma" c.pragma ++
    named "pragmaFrag" c.fragment ++
    (if sources.isEmpty then [] else [("helperSources", texts sources)])

end Config

end Deminify
