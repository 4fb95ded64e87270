import Deminify.Number.Binary64

/-!
# The shortest decimal that reads back

The decimals that round to a double form an interval around it. Among those with the fewest digits
the nearest one is chosen: for one digit, two digits and so on, only the two neighbours of the
double on that grid need to be looked at.

* `Deminify.Decimal` – digits times a power of ten;
* `Deminify.Binary64.shortest` – **the shortest decimal that reads back**;
* `Deminify.DecimalLayout`, `Deminify.Binary64.text` – how it is written down.
-/

namespace Deminify

/-- The number `digits · 10 ^ power`. -/
structure Decimal where
  digits : Nat
  power : Int
  deriving DecidableEq, Repr

namespace Binary64

/-- A quotient compared with another: `a / b ≤ c / d`. -/
def ratioLe (a b c d : Nat) : Bool := a * d ≤ c * b

/-- `m · 2 ^ q` as a numerator and a denominator. -/
def ratioOf (m : Nat) (q : Int) : Nat × Nat :=
  if q < 0 then (m, twoTo q.natAbs) else (m * twoTo q.natAbs, 1)

/-- The interval of numbers that round to the double: its two ends, over one denominator, and
whether the ends belong to it. The lower end is nearer when the significand is the smallest of its
binade. -/
def interval (x : Binary64) : Nat × Nat × Nat × Bool :=
  let m := x.significand
  let below := if m == twoTo 52 && -1074 < x.exponent then 4 * m - 1 else 4 * m - 2
  let (low, den) := ratioOf below (x.exponent - 2)
  let (high, _) := ratioOf (4 * m + 2) (x.exponent - 2)
  (low, high, den, m % 2 == 0)

/-- The number of decimal digits of a natural number. -/
def digitCount (n : Nat) : Nat := (Nat.toDigits 10 n).length

/-- A power of ten below which `num / den` lies: the least one or the next. -/
def magnitude (num den : Nat) : Int :=
  let guess := (digitCount num : Int) - digitCount den
  let (n, d) := if guess < 0 then (num * tenTo guess.natAbs, den) else (num, den * tenTo guess.natAbs)
  if d ≤ n then guess + 1 else guess

/-- The candidate of a grid that lies in the interval: of the two neighbours of `num / den` among
the multiples of `10 ^ power`, the one inside, and the nearer if both are. -/
def onGrid (x : Binary64) (num den : Nat) (power : Int) : Option Decimal :=
  let (low, high, bound, closed) := x.interval
  -- `num / den` in units of the grid
  let (n, d) := if power < 0 then (num * tenTo power.natAbs, den) else (num, den * tenTo power.natAbs)
  let floor := n / d
  -- a multiple of the grid, compared with the ends
  let value (k : Nat) : Nat × Nat :=
    if power < 0 then (k, tenTo power.natAbs) else (k * tenTo power.natAbs, 1)
  let inside (k : Nat) : Bool :=
    let (a, b) := value k
    if closed then ratioLe low bound a b && ratioLe a b high bound
    else !ratioLe a b low bound && !ratioLe high bound a b
  match inside floor, inside (floor + 1) with
  | true, true =>
    let rest := n % d
    let up := if 2 * rest < d then false else if d < 2 * rest then true else floor % 2 == 1
    some ⟨if up then floor + 1 else floor, power⟩
  | true, false => some ⟨floor, power⟩
  | false, true => some ⟨floor + 1, power⟩
  | false, false => none

/-- Tries the grids of `k`, `k + 1`, … digits, `fuel` of them. -/
def searchGrids (x : Binary64) (num den : Nat) (top : Int) : Nat → Nat → Decimal
  | 0, k => ⟨num / den, top - k⟩
  | fuel + 1, k =>
    match x.onGrid num den (top - k) with
    | some d => d
    | none => searchGrids x num den top fuel (k + 1)

/-- **The shortest decimal that reads back** as the finite double, and of those the nearest. -/
def shortest (x : Binary64) : Decimal :=
  if x.isZero then ⟨0, 0⟩
  else
    let (num, den) := ratioOf x.significand x.exponent
    searchGrids x num den (magnitude num den) 17 1

end Binary64

/-- The decisions of a number format that the digits leave open. -/
structure DecimalLayout where
  /-- The least exponent of the leading digit that is written positionally. -/
  lowest : Int
  /-- The least exponent of the leading digit that is written with a mark. -/
  highest : Int
  /-- The least number of digits after the mark. -/
  exponentWidth : Nat

/-- Numbers are written positionally from `10 ^ -4` up to `10 ^ 16`, always with a point; beyond,
with a signed exponent of at least two digits. -/
def numberLayout : DecimalLayout := ⟨-4, 16, 2⟩

namespace DecimalLayout

/-- The digits with a point after the first one, and no point after a single digit. -/
def pointed : List Char → List Char
  | [] => []
  | [c] => [c]
  | c :: rest => c :: '.' :: rest

/-- Writes the decimal with leading digit at `10 ^ lead`. -/
def write (layout : DecimalLayout) (digits : List Char) (lead : Int) : List Char :=
  if lead < layout.lowest || layout.highest ≤ lead then
    let size := Nat.toDigits 10 lead.natAbs
    pointed digits ++ ['e', if lead < 0 then '-' else '+']
      ++ List.replicate (layout.exponentWidth - size.length) '0' ++ size
  else if lead < 0 then
    ['0', '.'] ++ List.replicate (lead.natAbs - 1) '0' ++ digits
  else
    let whole := lead.natAbs + 1
    if digits.length ≤ whole then
      digits ++ List.replicate (whole - digits.length) '0' ++ ['.', '0']
    else digits.take whole ++ ['.'] ++ digits.drop whole

end DecimalLayout

namespace Binary64

/-- The digits without their trailing zeros. -/
def trimZeros (cs : List Char) : List Char := (cs.reverse.dropWhile (· == '0')).reverse

/-- The text of a double. -/
def text (x : Binary64) : String :=
  let sign := if x.negative && !x.isNaN then "-" else ""
  if x.isNaN then "nan"
  else if x.isInfinite then sign ++ "inf"
  else if x.isZero then sign ++ "0.0"
  else
    let d := x.shortest
    let all := Nat.toDigits 10 d.digits
    let lead := (all.length : Int) - 1 + d.power
    sign ++ String.ofList (numberLayout.write (trimZeros all) lead)

end Binary64

end Deminify
