import Deminify.Token.Words

/-!
# Number literals

A number is written in base ten, with a fraction and an exponent, or in base two, eight or sixteen.
A numeral that starts with a zero and has octal digits only is octal as well, in the old style.

* `Deminify.Token.numberValue` – the value of a decimal literal: an integer whenever it is integral;
* `Deminify.Token.scanNumber` – reads a number.
-/

namespace Deminify.Token

/-- The value of a decimal literal: the nearest double, as an integer when it stands for one. -/
def numberValue (text : String) : Int ⊕ Binary64 :=
  let x := (Binary64.ofText? text).getD Binary64.zero
  match x.toInt? with
  | some n => .inl n
  | none => .inr x

/-- The number token that ends at the cursor. -/
def numberToken (start : Nat) (value : Int ⊕ Binary64) (octal : Bool) : Scan Token := do
  let c ← get
  return { type := .number, value := (Tree.ofNumber value).display, number := value, octal
           line := c.line, lineStart := c.lineStart, start, stop := c.index }

/-- Fails if a character of the class follows the number. -/
def endNumber (src : Source) (class_ : Char → Bool) : Scan Unit := do
  let i := (← get).index
  if i < src.size && class_ (src.get i) then Scan.illegal

/-- Reads the digits of a literal in a base after its two-letter mark. -/
def scanBased (src : Source) (start base : Nat) (digit follow : Char → Bool) : Scan Token := do
  let stop := src.skipWhile digit (start + 2)
  Scan.moveTo stop
  if stop == start + 2 then Scan.illegal
  endNumber src follow
  numberToken start (.inl (valueIn base (src.slice (start + 2) stop).toList)) false

/-- Reads an octal literal of the old style, from its leading zero. -/
def scanOldOctal (src : Source) (start : Nat) : Scan Token := do
  let stop := src.skipWhile isOctalDigit start
  Scan.moveTo stop
  endNumber src fun c => Text.isIdentifierStart c || c.isDigit
  numberToken start (.inl (valueIn 8 (src.slice start stop).toList)) true

/-- Whether a numeral with a leading zero is octal: its digits from `i` on are, up to the first
character that is no digit. -/
def isOldOctal (src : Source) (i : Nat) : Bool :=
  let stop := src.skipWhile isOctalDigit i
  !(src.get stop == '8' || src.get stop == '9')

/-- The offset after the exponent part of a decimal literal; none if its digits are missing, with
the offset where they should be. -/
def exponentEnd (src : Source) (i : Nat) : Nat ⊕ Nat :=
  if src.get i == 'e' || src.get i == 'E' then
    let sign := src.get (i + 1)
    let first := if sign == '+' || sign == '-' then i + 2 else i + 1
    if (src.get first).isDigit then .inr (src.skipWhile Char.isDigit first) else .inl first
  else .inr i

/-- Reads a decimal literal. -/
def scanDecimal (src : Source) (start : Nat) : Scan Token := do
  let whole := src.skipWhile Char.isDigit start
  let places := if src.get whole == '.' then src.skipWhile Char.isDigit (whole + 1) else whole
  match exponentEnd src places with
  | .inl index =>
    Scan.moveTo index
    Scan.illegal
  | .inr stop =>
    Scan.moveTo stop
    endNumber src Text.isIdentifierStart
    numberToken start (numberValue (src.slice start stop)) false

/-- Reads the number at the cursor. -/
def scanNumber (src : Source) : Scan Token := do
  let start := (← get).index
  let mark := src.get (start + 1)
  if src.get start == '0' then
    if mark == 'x' || mark == 'X' then scanBased src start 16 isHexDigit Text.isIdentifierStart
    else if mark == 'b' || mark == 'B' then
      scanBased src start 2 (fun c => c == '0' || c == '1')
        fun c => Text.isIdentifierStart c || c.isDigit
    else if mark == 'o' || mark == 'O' then
      scanBased src start 8 isOctalDigit fun c => Text.isIdentifierStart c || c.isDigit
    else if isOctalDigit mark && isOldOctal src (start + 2) then scanOldOctal src start
    else scanDecimal src start
  else scanDecimal src start

end Deminify.Token
