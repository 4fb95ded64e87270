import Deminify.Pattern.Reader
import Deminify.Token.Comments
import Deminify.Token.Number
import Deminify.Token.Quote

/-!
# Reading tokens

* `Deminify.Token.scan` – **reads the token at the cursor**, which must not stand before a gap;
* `Deminify.Token.scanPattern` – reads a regular expression, where one may stand.
-/

namespace Deminify.Token

/-! ### Punctuators -/

/-- The punctuators of several characters, the longer ones first. -/
def longPunctuators : List String := [
  ">>>=",
  "===", "!==", ">>>", "<<=", ">>=", "**=",
  "&&", "||", "==", "!=", "+=", "-=", "*=", "/=", "++", "--", "<<", ">>", "&=", "|=", "^=", "%=",
  "<=", ">=", "=>", "**"]

/-- The characters that make up a punctuator on their own, whatever follows. -/
def singlePunctuators : List Char := ['(', ')', ';', ',', '[', ']', ':', '?', '~', '\x7b', '\x7d']

/-- The characters that make up a punctuator when no longer one starts with them. -/
def operatorCharacters : List Char := ['<', '>', '=', '!', '+', '-', '*', '%', '&', '|', '^', '/']

/-- The punctuator at an offset. -/
def punctuatorAt? (src : Source) (i : Nat) : Option String :=
  let c := src.get i
  if singlePunctuators.contains c then some (String.singleton c)
  else if c == '.' then some (if src.startsWith i "..." then "..." else ".")
  else
    match longPunctuators.find? (src.startsWith i ·) with
    | some p => some p
    | none => if operatorCharacters.contains c then some (String.singleton c) else none

/-- The open braces after a punctuator. -/
def bracesAfter (punctuator : String) (braces : List Brace) : List Brace :=
  if punctuator == "\x7b" then .block :: braces
  else if punctuator == "\x7d" then braces.tail
  else braces

/-- Reads the punctuator at the cursor. -/
def scanPunctuator (src : Source) : Scan Token := do
  let c ← get
  match punctuatorAt? src c.index with
  | some value =>
    let stop := c.index + value.length
    set { c with index := stop, braces := bracesAfter value c.braces }
    return { type := .punctuator, value, line := c.line, lineStart := c.lineStart, start := c.index,
             stop }
  | none => Scan.illegal

/-! ### Any token -/

/-- Reads the token at the cursor. At the end of the text it is the token that says so. -/
def scan (src : Source) : Scan Token := do
  let c ← get
  let letter := src.get c.index
  if src.size ≤ c.index then
    return { type := .stop, value := "", line := c.line, lineStart := c.lineStart, start := c.index,
             stop := c.index }
  else if Text.isIdentifierStart letter then scanWord src
  else if letter == '\x27' || letter == '"' then scanString src
  else if letter.isDigit || (letter == '.' && (src.get (c.index + 1)).isDigit) then scanNumber src
  else if letter == '\x60' || (letter == '\x7d' && c.braces.head? == some .hole) then
    scanTemplate src
  else scanPunctuator src

/-! ### Regular expressions -/

/-- The offset after the slash that closes a regular expression, or the offset at which it turns
out not to be closed. -/
def patternEnd (src : Source) : Nat → Nat → Bool → Nat ⊕ Nat
  | 0, i, _ => .inl i
  | fuel + 1, i, inSet =>
    let c := src.get i
    if src.size ≤ i then .inl i
    else if c == '\\' then
      if isLineEnd (src.get (i + 1)) then .inl (i + 2) else patternEnd src fuel (i + 2) inSet
    else if isLineEnd c then .inl (i + 1)
    else if inSet then patternEnd src fuel (i + 1) (c != ']')
    else if c == '/' then .inr (i + 1)
    else patternEnd src fuel (i + 1) (c == '[')

/-- Reads the flags of a regular expression, in which no escape may stand. -/
def patternFlags (src : Source) : Scan String := do
  let start := (← get).index
  let stop := src.skipWhile (fun c => Text.isIdentifierPart c && c != '\\') start
  if src.get stop == '\\' && stop + 1 < src.size then
    Scan.moveTo (stop + 1)
    if src.get (stop + 1) == 'u' then
      Scan.moveTo (stop + 2)
      if (← hexEscape? src 4).isNone then Scan.moveTo (stop + 2)
    Scan.illegal
  let stop := if src.get stop == '\\' then stop + 1 else stop
  Scan.moveTo stop
  return src.slice start stop

/-- Reads the regular expression at the cursor, which stands before its slash. -/
def scanPattern (src : Source) : Scan Token := do
  let start := (← get).index
  match patternEnd src (src.size + 1) (start + 1) false with
  | .inl index =>
    Scan.moveTo index
    Scan.fail "Invalid regular expression: missing /"
  | .inr stop =>
    Scan.moveTo stop
    let pattern := src.slice (start + 1) (stop - 1)
    let flags ← patternFlags src
    unless Pattern.accepts pattern do Scan.fail "Invalid regular expression"
    let c ← get
    return { type := .pattern, value := "", pattern, flags, line := c.line,
             lineStart := c.lineStart, start, stop := c.index }

end Deminify.Token
