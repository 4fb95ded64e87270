import Deminify.Text.Shown
import Deminify.Text.Utf8

/-!
# Failures

What can go wrong, as causes, and the wording of each in one place.

* `Deminify.SyntaxError` – a program text that cannot be read, with its position;
* `Deminify.Failure` – every cause;
* `Deminify.Failure.message` – the bare message of a cause;
* `Deminify.Failure.shown` – how a cause is worded inside another message;
* `Deminify.Failure.recorded` – how a cause is recorded in the journal.
-/

namespace Deminify

/-- A program text that cannot be read. A text that nests too deeply has no position. -/
structure SyntaxError where
  description : String
  line : Option Nat
  column : Option Int
  deriving DecidableEq, Repr, Inhabited

namespace SyntaxError

/-- The error at a position: its message names the line. -/
def positioned (line : Nat) (column : Int) (description : String) : SyntaxError where
  description := s!"Line {line}: {description}"
  line := some line
  column := some column

/-- The error without a position. -/
def unpositioned (description : String) : SyntaxError where
  description := description
  line := none
  column := none

/-- The text nests more deeply than the reader follows it. -/
def tooDeep : SyntaxError := unpositioned "Input nests too deeply to parse"

/-- A message behind the position it belongs to. -/
def located (line column : Option Int) (message : String) : String :=
  match line, column with
  | some l, some c => s!"{l}:{c}: {message}"
  | some l, none => s!"{l}: {message}"
  | none, _ => message

/-- The message behind its position. -/
def shown (e : SyntaxError) : String :=
  located (e.line.map Int.ofNat) e.column e.description

end SyntaxError

/-- The role in which a node was to be printed. -/
inductive PrintRole where
  | expression
  | statement
  | classMember
  | tagName
  deriving DecidableEq, Repr

/-- The name of a role in messages. -/
def PrintRole.name : PrintRole → String
  | .expression => "expression"
  | .statement => "statement"
  | .classMember => "class member"
  | .tagName => "JSX name"

/-- The causes of failure. -/
inductive Failure where
  /-- The program text cannot be read. -/
  | unreadable (e : SyntaxError)
  /-- A node of this kind cannot be printed in this role. -/
  | unprintable (role : PrintRole) (kind : String)
  /-- No statement encloses the element whose type needs a name. -/
  | noComponentPlace
  /-- The bundle text cannot be read. -/
  | bundleUnreadable (e : SyntaxError)
  /-- The program is no bundle of a known form. -/
  | bundleUnknown
  /-- A node lacks the field, or a table the entry. -/
  | missing (key : String)
  /-- There is no scope with this number. -/
  | noScope (id : Int)
  /-- No rule has this name. -/
  | unknownRule (name : String) (known : List String)
  /-- The root of a tree has no place that could be edited. -/
  | rootAddress
  /-- The node is no longer below its parent. -/
  | detached (kind : String)
  /-- A node can only be inserted next to a list item. -/
  | notInList (operation : String)
  /-- There is no tree to analyze. -/
  | noProgram
  /-- A search among the nodes of the tree found none. -/
  | exhausted
  /-- Some parameters do not fit the options of the model. -/
  | invalid (count : Nat) (model : String)
  /-- There is nothing at an index. -/
  | outOfRange (what : String)
  /-- Nothing can be taken from an empty list. -/
  | emptyList
  /-- A value of the tree has not the shape that was asked for. -/
  | shape (expected : String)
  /-- The file or its directory does not exist. -/
  | noFile (path : String)
  /-- A file stands where a directory is to be made. -/
  | fileExists (path : String)
  /-- A part of the path is a file. -/
  | notDirectory (path : String)
  /-- The path is a directory. -/
  | isDirectory (path : String)
  /-- The path or a part of it is longer than the disk takes. -/
  | pathTooLong (path : String)
  /-- A path holds the null character. -/
  | nullInPath
  /-- The octets of a file are no text. -/
  | undecodable (fault : Text.Utf8.Fault)
  /-- A variable of the environment or of a file of variables holds no data. -/
  | unparsable (setting source : String)
  /-- A rule gives up with its own words. -/
  | refused (message : String)
  /-- A text is no number in a base. -/
  | noNumeral (base : Nat) (text : String)
  /-- Something is asked of a value that such values lack. -/
  | lacks (kind what : String)
  /-- A tag of a message closes a style that is not open. -/
  | notOpen (tag : String) (position : Nat)
  /-- A tag of a message closes the last style where none is open. -/
  | nothingOpen (position : Nat)
  deriving Repr

namespace Failure

/-- The escape of a character that is not shown. -/
def escaped (c : Char) : List Char :=
  let n := c.toNat
  if n < 256 then '\\' :: 'x' :: (Text.hexFour n).drop 2
  else if n < 65536 then '\\' :: 'u' :: Text.hexFour n
  else '\\' :: 'U' :: Text.hexFour (n / 65536) ++ Text.hexFour (n % 65536)

/-- A text between single quotes, or double ones if it holds a single quote only. -/
def singleQuoted (s : String) : String :=
  let cs := s.toList
  let mark := if cs.contains '\x27' && !cs.contains '"' then '"' else '\x27'
  let written := cs.flatMap fun c =>
    if c = '\\' then ['\\', '\\']
    else if c = mark then ['\\', mark]
    else if c = '\n' then ['\\', 'n']
    else if c = '\r' then ['\\', 'r']
    else if c = '\t' then ['\\', 't']
    else if Text.isShown c then [c]
    else escaped c
  String.ofList (mark :: written ++ [mark])

/-- What the system says of a path, with its own number for it. -/
def systemMessage (number : Nat) (text path : String) : String :=
  s!"[Errno {number}] {text}: " ++ singleQuoted path

/-- What is said of octets that are no text. -/
def decodingMessage (fault : Text.Utf8.Fault) : String :=
  let reason := match fault.reason with
    | .start => "invalid start byte"
    | .continuation => "invalid continuation byte"
    | .tooShort => "unexpected end of data"
  let octet := fault.octet.toNat
  let hex := String.ofList [Text.hexDigit (octet / 16), Text.hexDigit (octet % 16)]
  let first := fault.first
  let last := fault.stop - 1
  let place :=
    if last = first then s!"byte 0x{hex} in position {first}" else s!"bytes in position {first}-{last}"
  s!"'utf-8' codec can't decode {place}: {reason}"

/-- The bare message of a cause. -/
def message : Failure → String
  | .unreadable e => e.description
  | .unprintable role kind => s!"Cannot print {role.name} {kind}"
  | .noComponentPlace => "No statement to attach the component binding to"
  | .bundleUnreadable e => s!"Failed to parse bundle: {e.shown}"
  | .bundleUnknown => "No webpack or browserify runtime found"
  | .missing key => key
  | .noScope id => toString id
  | .unknownRule name known => s!"Unknown rule: {name}. Available: " ++ String.intercalate ", " known
  | .rootAddress => "Cannot mutate the root path"
  | .detached kind => s!"{kind} is no longer attached to its parent"
  | .notInList operation => s!"{operation} needs a node inside a list"
  | .noProgram => "No program tree to analyze"
  | .exhausted => ""
  | .invalid 1 model => s!"1 validation error for {model}"
  | .invalid count model => s!"{count} validation errors for {model}"
  | .outOfRange what => s!"{what} out of range"
  | .emptyList => "pop from empty list"
  | .shape expected => expected
  | .noFile path => systemMessage 2 "No such file or directory" path
  | .fileExists path => systemMessage 17 "File exists" path
  | .notDirectory path => systemMessage 20 "Not a directory" path
  | .isDirectory path => systemMessage 21 "Is a directory" path
  | .pathTooLong path => systemMessage 36 "File name too long" path
  | .nullInPath => "embedded null byte"
  | .undecodable fault => decodingMessage fault
  | .unparsable setting source =>
    s!"error parsing value for field \"{setting}\" from source \"{source}\""
  | .refused message => message
  | .noNumeral base text => s!"invalid literal for int() with base {base}: " ++ singleQuoted text
  | .lacks kind what => s!"'{kind}' object has no attribute '{what}'"
  | .notOpen tag position =>
    s!"closing tag '[{tag}]' at position {position} doesn't match any open tag"
  | .nothingOpen position => s!"closing tag '[/]' at position {position} has nothing to close"

/-- How a cause is worded inside another message: a missing key is quoted, and an unreadable text
is shown with its position. -/
def shown : Failure → String
  | .unreadable e => e.shown
  | .missing key => singleQuoted key
  | .unknownRule name known => singleQuoted (message (.unknownRule name known))
  | f => f.message

/-- The name of the kind of a cause. -/
def kind : Failure → String
  | .unreadable _ => "ParseError"
  | .unprintable _ _ | .noComponentPlace => "UnsupportedConstruct"
  | .bundleUnreadable _ | .bundleUnknown => "UnrecognizedBundleFormat"
  | .missing _ | .noScope _ | .unknownRule _ _ => "KeyError"
  | .rootAddress | .detached _ | .notInList _ | .noProgram
  | .noNumeral _ _ | .nullInPath => "ValueError"
  | .exhausted => "StopIteration"
  | .invalid _ _ => "ValidationError"
  | .shape _ => "TypeError"
  | .outOfRange _ | .emptyList => "IndexError"
  | .noFile _ => "FileNotFoundError"
  | .fileExists _ => "FileExistsError"
  | .notDirectory _ => "NotADirectoryError"
  | .isDirectory _ => "IsADirectoryError"
  | .pathTooLong _ => "OSError"
  | .undecodable _ => "UnicodeDecodeError"
  | .unparsable _ _ => "SettingsError"
  | .refused _ => "RuntimeError"
  | .lacks _ _ => "AttributeError"
  | .notOpen _ _ | .nothingOpen _ => "MarkupError"

/-- How a cause is recorded in the journal: by its kind and its message. -/
def recorded : Failure → String
  | .exhausted => kind .exhausted ++ "()"
  | .noScope id => kind (.noScope id) ++ "(" ++ toString id ++ ")"
  | .invalid count model => message (.invalid count model)
  | f => f.kind ++ "(" ++ singleQuoted f.message ++ ")"

/-- What lies behind the message, for the causes that know more than they say. -/
def details : Failure → Option String
  | .unreadable e => if e == SyntaxError.tooDeep then none else some e.description
  | .bundleUnreadable e => some e.shown
  | _ => none

end Failure

end Deminify
