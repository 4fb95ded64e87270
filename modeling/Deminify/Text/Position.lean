/-!
# Positions in a text

* `Deminify.Position` – a row and a column, counted from zero;
* `Deminify.Position.before`, `Deminify.Position.upTo` – **reading order**, by row and then by column;
* `Deminify.Text.offsetIn` – an offset that may count from the end;
* `Deminify.Text.lines` – the lines of a text.
-/

namespace Deminify

/-- A row and a column, counted from zero. -/
structure Position where
  row : Int
  column : Int
  deriving DecidableEq, Repr

namespace Position

/-- Whether a position comes before another. -/
def before (a b : Position) : Bool := a.row < b.row || (a.row == b.row && a.column < b.column)

/-- Whether a position comes before another or is the same. -/
def upTo (a b : Position) : Bool := a == b || a.before b

end Position

/-- The offset into a text of the given length that a number stands for: one below zero counts from
the end, and one beyond either end is the end. -/
def Text.offsetIn (length : Nat) (i : Int) : Nat :=
  if i < 0 then (length + i).toNat else min length i.toNat

/-- What stands between the marks in a text. -/
def Text.partsAt (mark : Char) (text : String) : List String :=
  (text.toList.splitOn mark).map String.ofList

/-- The lines of a text. -/
def Text.lines (text : String) : List String := Text.partsAt '\n' text

end Deminify
