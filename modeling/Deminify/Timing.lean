import Deminify.Json.Basic
import Deminify.Number.Shortest

/-!
# Timing

How long the steps of a run took, by file and step, and the totals of each, the longest first. Totals
that are equal stand in the order in which they were first met.

* `Deminify.Timing.Measurement`, `Deminify.Timing` – what was measured;
* `Deminify.Timing.totals` – **the totals by any key**.
-/

namespace Deminify.Binary64

/-!
## Sums and order of doubles

Two finite doubles are whole multiples of the smaller of their two powers of two, so that their sum
is a whole number of such units, **rounded once**.

* `Deminify.Binary64.multipleOf` – a double in units of a power of two;
* `Deminify.Binary64.add` – the sum;
* `Deminify.Binary64.less` – the order, in which nothing stands before or behind what is no number;
* `Deminify.Binary64.Order.slot` – the place of an item among sorted ones;
* `Deminify.Binary64.Order.ascending`, `Deminify.Binary64.Order.descending` – sorted lists.
-/

/-- A finite double in units of `2 ^ q`, for a `q` that does not exceed its exponent. -/
def multipleOf (x : Binary64) (q : Int) : Int :=
  let m : Nat := x.significand * twoTo (x.exponent - q).toNat
  if x.negative then -(m : Int) else m

/-- The sum of two doubles. -/
def add (x y : Binary64) : Binary64 :=
  if x.isNaN || y.isNaN then nan
  else if x.isInfinite then
    if y.isInfinite && x.negative != y.negative then nan else x
  else if y.isInfinite then y
  else
    let q := min x.exponent y.exponent
    let sum := x.multipleOf q + y.multipleOf q
    if sum == 0 then ofFields (x.negative && y.negative) 0 0
    else
      let (num, den) := ratioOf sum.natAbs q
      ofRatio (sum < 0) num den

/-- Minus one and one for the two infinities, zero for what lies between. -/
def side (x : Binary64) : Int := if !x.isInfinite then 0 else if x.negative then -1 else 1

/-- Whether the first double is the smaller one. -/
def less (x y : Binary64) : Bool :=
  if x.isNaN || y.isNaN then false
  else if x.isInfinite || y.isInfinite then x.side < y.side
  else
    let q := min x.exponent y.exponent
    x.multipleOf q < y.multipleOf q

/-!
### Sorting

A list is sorted by putting one item after the other into its place among those before it, which is
found by halves; a run that is sorted at the start, or sorted the other way round, is taken as it is.
For numbers this is the usual stable sort. **What is no number is neither below nor above another
one**, and stays where the search ends.
-/

namespace Order

variable {α : Type} (key : α → Binary64)

/-- Whether an item is below another one. -/
def below (a b : α) : Bool := (key a).less (key b)

/-- The place of an item among sorted ones, between two places. -/
def slot (sorted : Array α) (a : α) (low high : Nat) : Nat :=
  if low < high then
    let middle := low + (high - low) / 2
    if (sorted[middle]?).any (below key a) then slot sorted a low middle
    else slot sorted a (middle + 1) high
  else low
termination_by high - low
decreasing_by all_goals omega

/-- Puts an item into its place among sorted ones. -/
def place (sorted : Array α) (a : α) : Array α :=
  let n := slot key sorted a 0 sorted.size
  sorted.extract 0 n ++ #[a] ++ sorted.extract n sorted.size

/-- The number of items at the start, behind a first one, that go on with a run: each of them is below
the one before it, or none is. -/
def runLength (falling : Bool) (first : α) : List α → Nat
  | [] => 0
  | a :: rest => if below key a first == falling then 1 + runLength falling a rest else 0

/-- The run at the start, sorted, and what follows it. -/
def startRun : List α → List α × List α
  | [] => ([], [])
  | [a] => ([a], [])
  | a :: b :: rest =>
    let falling := below key b a
    let n := 1 + runLength key falling a (b :: rest)
    let run := (a :: b :: rest).take n
    (if falling then run.reverse else run, (a :: b :: rest).drop n)

/-- The list, the least item first. -/
def ascending (items : List α) : List α :=
  let (run, rest) := startRun key items
  (rest.foldl (place key) run.toArray).toList

/-- The list, the greatest item first; items that are equal keep their order. -/
def descending (items : List α) : List α := (ascending key items.reverse).reverse

end Order

end Deminify.Binary64

namespace Deminify

/-- The time of one step of one file, in milliseconds. -/
structure Timing.Measurement where
  file : String
  step : String
  time : Binary64
  deriving Repr

/-- What was measured, if anything is to be measured. -/
structure Timing where
  enabled : Bool := true
  collected : List Timing.Measurement := []

namespace Timing

/-- Notes a measurement, unless none is wanted. -/
def measure (t : Timing) (m : Measurement) : Timing :=
  if t.enabled then { t with collected := t.collected ++ [m] } else t

/-- Adds what another timing holds. -/
def merge (t other : Timing) : Timing := { t with collected := t.collected ++ other.collected }

/-- The sums of the times under each key, in the order in which the keys were first met. -/
def sums (key : Measurement → String) (ms : List Measurement) : List (String × Binary64) :=
  ms.foldl (fun sums m =>
    putKey sums (key m) (Binary64.add ((sums.lookup (key m)).getD Binary64.zero) m.time)) []

/-- The totals under each key, the longest first. -/
def totals (key : Measurement → String) (t : Timing) : List (String × Binary64) :=
  Binary64.Order.descending (·.2) (sums key t.collected)

/-- The totals of the steps. -/
def byStep (t : Timing) : List (String × Binary64) := t.totals (·.step)

/-- The totals of the files. -/
def byFile (t : Timing) : List (String × Binary64) := t.totals (·.file)

end Timing

end Deminify
