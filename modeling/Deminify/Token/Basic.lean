import Deminify.Token.Source
import Deminify.Tree.Basic

/-!
# Tokens

The words of a program, each with its place in the text, and the cursor that reads them.

* `Deminify.TokenType`, `Deminify.Token` – the tokens;
* `Deminify.Cursor` – where reading stands: an offset, its line, and the open braces;
* `Deminify.Scan` – reading from the cursor, which may fail at a position.
-/

namespace Deminify

/-- What sort of word a token is. -/
inductive TokenType where
  | truth
  | stop
  | name
  | keyword
  | null
  | number
  | punctuator
  | string
  | pattern
  | template
  | tagName
  | tagText
  deriving DecidableEq, Repr, Inhabited

/-- A token: its sort, its text, what it stands for, and its place. The line is that on which the
token ends. -/
structure Token where
  type : TokenType
  value : String
  /-- The value of a number. -/
  number : Int ⊕ Binary64 := .inl 0
  /-- Whether a literal uses an octal form. -/
  octal : Bool := false
  /-- What a stretch of a template stands for, and whether it opens and closes the template. -/
  cooked : String := ""
  head : Bool := false
  tail : Bool := false
  /-- The two parts of a regular expression. -/
  pattern : String := ""
  flags : String := ""
  line : Nat
  lineStart : Nat
  start : Nat
  stop : Nat
  deriving Repr, Inhabited

/-- What an open brace belongs to: the program, or a hole of a template. -/
inductive Brace where
  | block
  | hole
  deriving DecidableEq, Repr

/-- Where reading stands. -/
structure Cursor where
  index : Nat
  line : Nat
  lineStart : Nat
  braces : List Brace
  deriving Repr, Inhabited

namespace Cursor

/-- The cursor at the start of a text; an empty text has no line. -/
def start (src : Source) : Cursor := ⟨0, if src.size == 0 then 0 else 1, 0, []⟩

/-- The column of the cursor, counted from one; negative before the start of its line. -/
def column (c : Cursor) : Int := (c.index : Int) - c.lineStart + 1

/-- The error at the cursor. -/
def error (c : Cursor) (description : String) : SyntaxError :=
  SyntaxError.positioned c.line c.column description

/-- The cursor at the start of the next line, which starts at the offset. -/
def newLine (c : Cursor) (index : Nat) : Cursor :=
  { c with index, line := c.line + 1, lineStart := index }

end Cursor

/-- Reading from the cursor. -/
abbrev Scan := StateT Cursor (Except SyntaxError)

namespace Scan

/-- Fails at the cursor. -/
def fail {α : Type} (description : String) : Scan α := do
  throw ((← get).error description)

/-- Fails at the cursor on a character that starts no token. -/
def illegal {α : Type} : Scan α := fail "Unexpected token ILLEGAL"

/-- Moves the cursor along its line. -/
def moveTo (index : Nat) : Scan Unit := modify fun c => { c with index }

end Scan

namespace Token

/-- The offset after the line end at `i`: a carriage return takes a line feed along. -/
def afterLineEnd (src : Source) (i : Nat) : Nat :=
  if src.get i == '\r' && src.get (i + 1) == '\n' then i + 2 else i + 1

end Token

end Deminify
