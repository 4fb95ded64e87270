import Deminify.Json.Basic
import Deminify.Text.Numeral

/-!
# Settings

Settings arrive as plain data and are read as what they stand for. A reader is lenient where the
meaning is plain (a whole number may be written as a text, a truth value as `yes`), and what it
cannot read it counts: **every invalid value is one fault**, and the faults of several settings add
up.

* `Deminify.Checked` – a value, or the number of faults;
* `Deminify.Checked.apply` – two readings together;
* `Deminify.Setting.text`, `Deminify.Setting.texts`, `Deminify.Setting.whole`,
  `Deminify.Setting.truth` – the readers.
-/

namespace Deminify

/-- A value, or the number of faults found in reading it. -/
abbrev Checked (α : Type) := Except Nat α

namespace Checked

variable {α β : Type}

/-- The number of faults. -/
def faults : Checked α → Nat
  | .ok _ => 0
  | .error n => n

/-- Applies a function to a value; the faults of both add up. -/
def apply (f : Checked (α → β)) (a : Checked α) : Checked β :=
  match f, a with
  | .ok f, .ok a => .ok (f a)
  | f, a => .error (faults f + faults a)

end Checked

namespace Setting

variable {α : Type}

/-- A setting that may be left out. -/
def orDefault (default : α) (read : Json → Checked α) : Option Json → Checked α
  | none => .ok default
  | some j => read j

/-- A value that may be null. -/
def optional (read : Json → Checked α) : Json → Checked (Option α)
  | .null => .ok none
  | j => some <$> read j

/-- A text. -/
def text : Json → Checked String
  | .str s => .ok s
  | _ => .error 1

/-- The texts of the items; each item that is none is a fault. -/
def textItems : List Json → Checked (List String)
  | [] => .ok []
  | j :: rest => Checked.apply (List.cons <$> text j) (textItems rest)

/-- A list of texts. -/
def texts : Json → Checked (List String)
  | .list items => textItems items
  | _ => .error 1

/-! ### Numbers and truth values -/

/-- Whether a character is white: a blank, but none of the four separators below the space. -/
def isWhite (c : Char) : Bool := Text.isBlank c && !(28 ≤ c.toNat && c.toNat < 32)

/-- The characters without the white ones at either end. -/
def trimmed (cs : List Char) : List Char :=
  (((cs.dropWhile isWhite).reverse).dropWhile isWhite).reverse

/-- The digits after the zeros at their start, among which underscores may stand; the last zero is
kept before a point and at the end. None if the start is no number. -/
def withoutZeros? (cs : List Char) : Option (List Char) :=
  match cs with
  | '0' :: _ =>
    let zeros := cs.takeWhile fun c => c == '0' || c == '_'
    match cs.drop zeros.length with
    | [] => some (zeros.drop (zeros.length - 1))
    | '.' :: rest => some (zeros.drop (zeros.length - 1) ++ '.' :: rest)
    | c :: rest => if c.isDigit then some (c :: rest) else none
  | c :: _ => if c.isDigit || c == '-' then some cs else none
  | [] => none

/-- The characters before a point that zeros follow and nothing else. -/
def withoutZeroFraction (cs : List Char) : List Char :=
  let whole := cs.takeWhile (· != '.')
  let fraction := (cs.drop whole.length).tail
  if !fraction.isEmpty && fraction.all (· == '0') then whole else cs

/-- The characters without single underscores, none of which stands at either end. -/
def withoutUnderscores (cs : List Char) : List Char :=
  let groups := (String.ofList cs).splitOn "_"
  if groups.any (·.isEmpty) then cs else cs.filter (· != '_')

/-- The number that digits write, if there are digits only. -/
def digitsOf? (cs : List Char) : Option Nat :=
  if !cs.isEmpty && cs.all Char.isDigit && cs.length ≤ Text.maxDigits then
    some (Binary64.digitsValue cs)
  else none

/-- The whole number that a text denotes: white characters around it, a sign, zeros before it and a
fraction of zeros are allowed, and underscores between digits. -/
def wholeOf? (s : String) : Option Int := do
  let unsigned ← match trimmed s.toList with
    | '+' :: '-' :: _ => none
    | '+' :: rest => some rest
    | cs => some cs
  match withoutUnderscores (withoutZeroFraction (← withoutZeros? unsigned)) with
  | '-' :: rest => (digitsOf? rest).map fun n => -(n : Int)
  | cs => (digitsOf? cs).map Int.ofNat

/-- The whole number that a double stands for, if it is one of 64 bits. -/
def wholeOfReal? (x : Binary64) : Option Int :=
  x.toInt?.filter fun n => n.natAbs < Binary64.twoTo 63

/-- A whole number, which may be given as a double without fraction, a text or a truth value. -/
def whole : Json → Checked Int
  | .int n => .ok n
  | .bool b => .ok (if b then 1 else 0)
  | .real x => (wholeOfReal? x).elim (.error 1) .ok
  | .str s => (wholeOf? s).elim (.error 1) .ok
  | _ => .error 1

/-- A whole number from a least one on. -/
def wholeFrom (least : Int) (j : Json) : Checked Int :=
  match whole j with
  | .ok n => if least ≤ n then .ok n else .error 1
  | .error n => .error n

/-- The texts for false and for true, whatever their case. -/
def truthOf? (s : String) : Option Bool :=
  let s := s.toLower
  if ["0", "off", "f", "false", "n", "no"].contains s then some false
  else if ["1", "on", "t", "true", "y", "yes"].contains s then some true
  else none

/-- A truth value, which may be given as zero or one or as a text. -/
def truth : Json → Checked Bool
  | .bool b => .ok b
  | .str s => (truthOf? s).elim (.error 1) .ok
  | j =>
    match whole j with
    | .ok 0 => .ok false
    | .ok 1 => .ok true
    | _ => .error 1

end Setting

end Deminify
