import Deminify.Token.Basic

/-!
# Names and keywords

A word of the program is a name, a keyword or one of the literals `null`, `true` and `false`. Its
letters may be written as escapes, but those of a keyword may not.

* `Deminify.Token.isKeyword` and the words reserved in stricter settings;
* `Deminify.Token.hexEscape?`, `Deminify.Token.codePointEscape` – the escapes;
* `Deminify.Token.scanWord` – reads a word.
-/

namespace Deminify.Token

/-! ### Reserved words -/

/-- The keywords. -/
def keywords : List String := [
  "if", "in", "do", "var", "for", "new", "try", "let", "this", "else", "case", "void", "with",
  "enum", "while", "break", "catch", "throw", "const", "yield", "class", "super", "return",
  "typeof", "delete", "switch", "export", "import", "default", "finally", "extends", "function",
  "continue", "debugger", "instanceof"]

/-- Whether a word is a keyword. -/
def isKeyword (word : String) : Bool := keywords.contains word

/-- Whether a keyword has no use in a plain expression or statement. -/
def isFutureReserved (word : String) : Bool :=
  ["enum", "export", "import", "super"].contains word

/-- Whether a word is reserved in strict code. -/
def isStrictReserved (word : String) : Bool :=
  ["implements", "interface", "package", "private", "protected", "public", "static", "yield",
    "let"].contains word

/-- Whether a word may not be bound in strict code. -/
def isRestricted (word : String) : Bool := word == "eval" || word == "arguments"

/-! ### Escapes -/

/-- Reads up to `count` hexadecimal digits from an offset: the value if all are there, and the
offset after those that are. -/
def hexDigits (src : Source) (i : Nat) (value : Nat) : Nat → Option Nat × Nat
  | 0 => (some value, i)
  | count + 1 =>
    if i < src.size then
      match hexValue? (src.get i) with
      | some d => hexDigits src (i + 1) (16 * value + d) count
      | none => (none, i)
    else (none, i)

/-- Reads an escape of `count` hexadecimal digits at the cursor. -/
def hexEscape? (src : Source) (count : Nat) : Scan (Option Nat) := do
  let (value, index) := hexDigits src (← get).index 0 count
  Scan.moveTo index
  return value

/-- Reads the rest of an escape between braces, after the opening one. -/
def codePointEscape (src : Source) : Scan Nat := do
  let c ← get
  if src.get c.index == '\x7d' then Scan.illegal
  let stop := src.skipWhile isHexDigit c.index
  let value := valueIn 16 (src.slice c.index stop).toList
  Scan.moveTo (if stop < src.size then stop + 1 else stop)
  if 0x10FFFF < value || src.get stop != '\x7d' then Scan.illegal
  return value

/-! ### Words -/

/-- Reads an escaped letter of a word, after its backslash. A letter given by four digits must be
in the class; one between braces is taken as it is. -/
def escapedLetter (src : Source) (class_ : Char → Bool) : Scan Nat := do
  let c ← get
  if src.get c.index != 'u' then Scan.illegal
  if src.get (c.index + 1) == '\x7b' then
    Scan.moveTo (c.index + 2)
    codePointEscape src
  else
    Scan.moveTo (c.index + 1)
    match ← hexEscape? src 4 with
    | some code =>
      let letter := Char.ofNat code
      if letter == '\\' || letter == '\x00' || !class_ letter then Scan.illegal
      return code
    | none => Scan.illegal

/-- Reads the letters of a word after its first, escapes resolved; `done` holds the code points
read so far, last first. -/
def letters (src : Source) : Nat → List Nat → Scan (List Nat)
  | 0, done => return done.reverse
  | fuel + 1, done => do
    let c ← get
    let letter := src.get c.index
    if src.size ≤ c.index || !Text.isIdentifierPart letter then return done.reverse
    Scan.moveTo (c.index + 1)
    if letter == '\\' then
      let code ← escapedLetter src Text.isIdentifierPart
      letters src fuel (code :: done)
    else letters src fuel (letter.toNat :: done)

/-- Reads the letters of the word at the cursor. -/
def wordText (src : Source) : Scan String := do
  let c ← get
  let stop := src.skipWhile (fun l => Text.isIdentifierPart l && l != '\\') c.index
  if src.get c.index != '\\' && !(stop < src.size && src.get stop == '\\') then
    -- no escape in sight
    Scan.moveTo stop
    return src.slice c.index stop
  else
    Scan.moveTo (c.index + 1)
    let first ← if src.get c.index == '\\' then escapedLetter src Text.isIdentifierStart
      else pure (src.get c.index).toNat
    let codes ← letters src (src.size + 1) [first]
    return String.ofList (textOfCodes codes)

/-- The sort of a word. -/
def wordType (word : String) : TokenType :=
  if isKeyword word then .keyword
  else if word == "null" then .null
  else if word == "true" || word == "false" then .truth
  else .name

/-- Reads the word at the cursor. -/
def scanWord (src : Source) : Scan Token := do
  let start := (← get).index
  let word ← wordText src
  let type := wordType word
  let c ← get
  if type != .name && start + word.length != c.index then
    throw ({ c with index := start }.error "Keyword must not contain escaped characters")
  return { type, value := word, line := c.line, lineStart := c.lineStart, start, stop := c.index }

end Deminify.Token
