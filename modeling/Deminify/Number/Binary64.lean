/-!
# Double precision numbers as bit patterns

A number literal that is not integral carries a double. It is kept as its 64 bits, so that equality
is decidable and every question about it is a question about natural numbers: a finite double is
`m · 2 ^ q` for a significand `m < 2 ^ 53`. The main declarations are

* `Deminify.Binary64` – the pattern, with `Deminify.Binary64.significand` and
  `Deminify.Binary64.exponent`;
* `Deminify.Binary64.ofRatio` – **the nearest double of a quotient**, a tie going to the even
  significand;
* `Deminify.Binary64.ofDecimal`, `Deminify.Binary64.ofText?` – the nearest double of a decimal;
* `Deminify.Binary64.toInt?` – the integer a double stands for.
-/

namespace Deminify

/-- A double precision number, by its bits. -/
structure Binary64 where
  bits : UInt64
  deriving DecidableEq, Repr, Inhabited

namespace Binary64

/-- A power of two. -/
def twoTo (n : Nat) : Nat := Nat.pow 2 n

/-- A power of ten. -/
def tenTo (n : Nat) : Nat := Nat.pow 10 n

/-! ### Fields -/

/-- Whether the sign bit is set. -/
def negative (x : Binary64) : Bool := x.bits >>> 63 == 1

/-- The eleven exponent bits. -/
def exponentField (x : Binary64) : Nat := ((x.bits >>> 52) &&& 0x7FF).toNat

/-- The fifty-two fraction bits. -/
def fraction (x : Binary64) : Nat := (x.bits &&& 0xFFFFFFFFFFFFF).toNat

/-- Not a number. -/
def isNaN (x : Binary64) : Bool := x.exponentField == 2047 && x.fraction != 0

/-- An infinity of either sign. -/
def isInfinite (x : Binary64) : Bool := x.exponentField == 2047 && x.fraction == 0

/-- The `m` of `m · 2 ^ q`. -/
def significand (x : Binary64) : Nat :=
  if x.exponentField == 0 then x.fraction else x.fraction + twoTo 52

/-- The `q` of `m · 2 ^ q`. -/
def exponent (x : Binary64) : Int :=
  if x.exponentField == 0 then -1074 else (x.exponentField : Int) - 1075

/-- A zero of either sign. -/
def isZero (x : Binary64) : Bool := x.exponentField == 0 && x.fraction == 0

/-- The pattern with the given fields. -/
def ofFields (negative : Bool) (exponentField fraction : Nat) : Binary64 :=
  ⟨((if negative then twoTo 63 else 0) + exponentField * twoTo 52 + fraction).toUInt64⟩

/-- Zero. -/
def zero : Binary64 := ⟨0⟩

/-- An infinity. -/
def infinity (negative : Bool) : Binary64 := ofFields negative 2047 0

/-- The quiet pattern that is not a number. -/
def nan : Binary64 := ofFields false 2047 (twoTo 51)

/-! ### Rounding -/

/-- A quotient rounded to the nearest natural number, a tie going to the even one. -/
def roundDiv (num den : Nat) : Nat :=
  let q := num / den
  let r := num % den
  if 2 * r < den then q
  else if den < 2 * r then q + 1
  else if q % 2 == 0 then q else q + 1

/-- `num / den` divided by `2 ^ q`, as a numerator and a denominator. -/
def scaled (num den : Nat) (q : Int) : Nat × Nat :=
  if q < 0 then (num * twoTo q.natAbs, den) else (num, den * twoTo q.natAbs)

/-- The power of two at which `num / den` has a significand of fifty-three bits, but never below
the smallest double. -/
def scaleOf (num den : Nat) : Int :=
  let guess := (num.log2 : Int) - den.log2 - 52
  let (n, d) := scaled num den guess
  max (if n / d < twoTo 52 then guess - 1 else guess) (-1074)

/-- The double `m · 2 ^ q`, for `m ≤ 2 ^ 53`; too large a number is an infinity. -/
def pack (negative : Bool) (m : Nat) (q : Int) : Binary64 :=
  let (m, q) := if m == twoTo 53 then (twoTo 52, q + 1) else (m, q)
  if 971 < q then infinity negative
  else if m < twoTo 52 then ofFields negative 0 m
  else ofFields negative (q + 1075).toNat (m - twoTo 52)

/-- **The nearest double of a quotient**: the significand is the quotient at its scale, rounded. -/
def ofRatio (negative : Bool) (num den : Nat) : Binary64 :=
  if num == 0 then ofFields negative 0 0
  else
    let q := scaleOf num den
    let (n, d) := scaled num den q
    pack negative (roundDiv n d) q

/-- The nearest double of `digits · 10 ^ power`. Beyond the range of doubles the power is not
multiplied out. -/
def ofDecimal (negative : Bool) (digits : Nat) (power : Int) : Binary64 :=
  let size := (digits.log2 : Int) / 4 + power
  if digits == 0 then ofFields negative 0 0
  else if 400 < size then infinity negative
  else if (digits.log2 : Int) + power < -1000 then ofFields negative 0 0
  else if power < 0 then ofRatio negative digits (tenTo power.natAbs)
  else ofRatio negative (digits * tenTo power.natAbs) 1

/-- The double of an integer. -/
def ofInt (n : Int) : Binary64 := ofRatio (n < 0) n.natAbs 1

/-! ### Reading -/

/-- The value of a run of decimal digits. -/
def digitsValue (cs : List Char) : Nat :=
  cs.foldl (fun n c => 10 * n + (c.toNat - '0'.toNat)) 0

/-- The exponent part of a decimal: nothing, or a mark, an optional sign and digits. -/
def exponentOf? (cs : List Char) : Option Int :=
  match cs with
  | [] => some 0
  | mark :: rest =>
    let (minus, ds) : Bool × List Char := match rest with
      | '-' :: ds => (true, ds)
      | '+' :: ds => (false, ds)
      | ds => (false, ds)
    if (mark == 'e' || mark == 'E') && !ds.isEmpty && ds.all Char.isDigit then
      some (if minus then -(digitsValue ds : Int) else digitsValue ds)
    else none

/-- The decimal written by an unsigned number text, as digits and a power of ten. -/
def decimalOf? (cs : List Char) : Option (Nat × Int) :=
  let whole := cs.takeWhile Char.isDigit
  let afterWhole := cs.dropWhile Char.isDigit
  let (places, tail) : List Char × List Char := match afterWhole with
    | '.' :: rest => (rest.takeWhile Char.isDigit, rest.dropWhile Char.isDigit)
    | rest => ([], rest)
  if whole.isEmpty && places.isEmpty then none
  else (exponentOf? tail).map fun e => (digitsValue (whole ++ places), e - places.length)

/-- Reads a number text with an optional sign; `inf` and `nan` are numbers too. -/
def ofText? (s : String) : Option Binary64 :=
  let (minus, cs) : Bool × List Char := match s.toList with
    | '-' :: cs => (true, cs)
    | '+' :: cs => (false, cs)
    | cs => (false, cs)
  if cs == ['i', 'n', 'f'] then some (infinity minus)
  else if cs == ['n', 'a', 'n'] then some nan
  else (decimalOf? cs).map fun (digits, power) => ofDecimal minus digits power

/-! ### Integers -/

/-- The integer a double stands for, if it stands for one. -/
def toInt? (x : Binary64) : Option Int :=
  if x.exponentField == 2047 then none
  else
    let signed (n : Nat) : Int := if x.negative then -(n : Int) else n
    if 0 ≤ x.exponent then some (signed (x.significand * twoTo x.exponent.natAbs))
    else
      let unit := twoTo x.exponent.natAbs
      if x.significand % unit == 0 then some (signed (x.significand / unit)) else none

/-- Equality as numbers: the two zeros are equal, and nothing equals a pattern that is no
number. -/
def sameNumber (x y : Binary64) : Bool :=
  !x.isNaN && !y.isNaN && (x == y || (x.isZero && y.isZero))

end Binary64

end Deminify
