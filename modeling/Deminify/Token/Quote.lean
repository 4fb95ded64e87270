import Deminify.Token.Words

/-!
# Strings and templates

Literals whose text holds escapes. A string ends at its quote and on its line, unless the line end
is escaped; a stretch of a template runs from a back quote or a closing brace to the next hole or
to the closing back quote.

* `Deminify.Token.scanString` – reads a string;
* `Deminify.Token.scanTemplate` – reads a stretch of a template.
-/

namespace Deminify.Token

/-- The character of a one-letter escape. -/
def controlEscape? : Char → Option Char
  | 'n' => some '\n'
  | 'r' => some '\r'
  | 't' => some '\t'
  | 'b' => some '\x08'
  | 'f' => some '\x0c'
  | 'v' => some '\x0b'
  | _ => none

/-- An octal escape whose first digit is given: its value, whether it counts as octal, and the
offset after its digits. The digit zero on its own is no octal escape. -/
def octalEscape (src : Source) (first : Char) (i : Nat) : Nat × Bool × Nat :=
  let digit (c : Char) : Nat := c.toNat - 48
  let is (i : Nat) : Bool := i < src.size && isOctalDigit (src.get i)
  if is i then
    let two := digit first * 8 + digit (src.get i)
    if ['0', '1', '2', '3'].contains first && is (i + 1) then
      (two * 8 + digit (src.get (i + 1)), true, i + 2)
    else (two, true, i + 1)
  else (digit first, first != '0', i)

/-- Reads an escape given by `u` and digits, after the `u`; none if the four digits are not
there. -/
def unicodeEscape (src : Source) : Scan (Option Nat) := do
  let c ← get
  if src.get c.index == '\x7b' then
    Scan.moveTo (c.index + 1)
    return some (← codePointEscape src)
  else hexEscape? src 4

/-- Reads an escape given by `x` and two digits, after the `x`. -/
def byteEscape (src : Source) : Scan Nat := do
  match ← hexEscape? src 2 with
  | some code => return code
  | none => Scan.fail "Invalid hexadecimal escape sequence"

/-- What has been read of a string: its code points, last first, and whether an escape was
octal. -/
structure Quoted where
  codes : List Nat
  octal : Bool

/-- Adds a code point. -/
def Quoted.push (q : Quoted) (code : Nat) : Quoted := { q with codes := code :: q.codes }

/-- Reads an escape of a string, after its backslash. -/
def stringEscape (src : Source) (q : Quoted) : Scan Quoted := do
  let c ← get
  let letter := src.get c.index
  if c.index < src.size && isLineEnd letter then
    set (c.newLine (afterLineEnd src c.index))
    return q
  Scan.moveTo (c.index + 1)
  if letter == 'u' then
    match ← unicodeEscape src with
    | some code => return q.push code
    | none => Scan.illegal
  else if letter == 'x' then return q.push (← byteEscape src)
  else if letter == '8' || letter == '9' then Scan.illegal
  else if isOctalDigit letter then
    let (code, octal, index) := octalEscape src letter (c.index + 1)
    Scan.moveTo index
    return ⟨code :: q.codes, q.octal || octal⟩
  else return q.push ((controlEscape? letter).getD letter).toNat

/-- Reads a string up to its quote; none if it does not end. -/
def stringRest (src : Source) (mark : Char) : Nat → Quoted → Scan (Option Quoted)
  | 0, _ => return none
  | fuel + 1, q => do
    let c ← get
    let letter := src.get c.index
    if src.size ≤ c.index then return none
    Scan.moveTo (c.index + 1)
    if letter == mark then return some q
    else if letter == '\\' then stringRest src mark fuel (← stringEscape src q)
    else if isLineEnd letter then return none
    else stringRest src mark fuel (q.push letter.toNat)

/-- Reads the string at the cursor. One that does not end is an error at its quote. -/
def scanString (src : Source) : Scan Token := do
  let start := (← get).index
  Scan.moveTo (start + 1)
  match ← stringRest src (src.get start) (src.size + 1) ⟨[], false⟩ with
  | some q =>
    let c ← get
    return { type := .string, value := String.ofList (textOfCodes q.codes.reverse),
             octal := q.octal, line := c.line, lineStart := c.lineStart, start, stop := c.index }
  | none =>
    Scan.moveTo start
    Scan.illegal

/-! ### Templates -/

/-- Reads an escape of a template, after its backslash: the code points it stands for. -/
def templateEscape (src : Source) : Scan (List Nat) := do
  let c ← get
  let letter := src.get c.index
  if c.index < src.size && isLineEnd letter then
    set (c.newLine (afterLineEnd src c.index))
    return []
  Scan.moveTo (c.index + 1)
  if letter == 'u' then
    match ← unicodeEscape src with
    | some code => return [code]
    | none =>
      Scan.moveTo (c.index + 1)
      return [letter.toNat]
  else if letter == 'x' then return [← byteEscape src]
  else if letter == '0' then
    if (src.get (c.index + 1)).isDigit then
      Scan.fail "Octal literals are not allowed in template strings."
    return [0]
  else if isOctalDigit letter then
    Scan.fail "Octal literals are not allowed in template strings."
  else return [((controlEscape? letter).getD letter).toNat]

/-- Reads a stretch of a template: its code points, last first, and whether it closes the
template. -/
def templateRest (src : Source) : Nat → List Nat → Scan (List Nat × Bool)
  | 0, _ => Scan.illegal
  | fuel + 1, codes => do
    let c ← get
    let letter := src.get c.index
    if src.size ≤ c.index then Scan.illegal
    else if letter == '\x60' then
      Scan.moveTo (c.index + 1)
      return (codes, true)
    else if letter == '$' && src.get (c.index + 1) == '\x7b' then
      set { c with index := c.index + 2, braces := .hole :: c.braces }
      return (codes, false)
    else if letter == '\\' then
      Scan.moveTo (c.index + 1)
      let more ← templateEscape src
      templateRest src fuel (more ++ codes)
    else if isLineEnd letter then
      set (c.newLine (afterLineEnd src c.index))
      templateRest src fuel ('\n'.toNat :: codes)
    else
      Scan.moveTo (c.index + 1)
      templateRest src fuel (letter.toNat :: codes)

/-- Reads the stretch of a template at the cursor. One that does not open the template closes a
hole. -/
def scanTemplate (src : Source) : Scan Token := do
  let start := (← get).index
  let head := src.get start == '\x60'
  Scan.moveTo (start + 1)
  let (codes, tail) ← templateRest src (src.size + 1) []
  unless head do modify fun c => { c with braces := c.braces.tail }
  let c ← get
  return { type := .template, value := src.slice (start + 1) (c.index - (if tail then 1 else 2)),
           cooked := String.ofList (textOfCodes codes.reverse), head, tail, line := c.line,
           lineStart := c.lineStart, start, stop := c.index }

end Deminify.Token
