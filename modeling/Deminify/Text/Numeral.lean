import Deminify.Text.Word

/-!
# Whole numbers in words of digits

A whole number is written in decimal digits of any script, between which single underscores may
stand, with a sign before it and blanks around it.

* `Deminify.Text.digitValue` – the value of a digit;
* `Deminify.Text.integer?` – **the whole number that a text denotes**.
-/

namespace Deminify.Text

/-- The value of a decimal digit of any script: the digits of a script stand in order, from zero
on. -/
def digitValue (c : Char) : Nat :=
  if c.toNat < 128 then c.toNat - 48
  else
    match decimalRanges.bounds.find? fun (first, last) => first ≤ c.toNat && c.toNat ≤ last with
    | some (first, _) => (c.toNat - first) % 10
    | none => 0

/-- The number that decimal digits write. -/
def digitsNumber (cs : List Char) : Nat := cs.foldl (fun n c => 10 * n + digitValue c) 0

/-- No number with more digits is read. -/
def maxDigits : Nat := 4300

/-- The number of digits between which single underscores may stand. -/
def natural? (cs : List Char) : Option Nat :=
  let groups := (String.ofList cs).splitOn "_"
  let digits := groups.flatMap String.toList
  if groups.all (fun g => !g.isEmpty && g.toList.all isDecimal) && digits.length ≤ maxDigits then
    some (digitsNumber digits)
  else none

/-- The whole number that a text denotes. -/
def integer? (s : String) : Option Int :=
  match (strip s).toList with
  | '-' :: rest => (natural? rest).map fun n => -(n : Int)
  | '+' :: rest => (natural? rest).map Int.ofNat
  | cs => (natural? cs).map Int.ofNat

end Deminify.Text
