import Deminify.Text.Letter

/-!
# A program text by offsets

The text of a program as an array of characters, so that every position is an offset counted in
characters. Beyond its end the text reads as the null character.

* `Deminify.Source` – the text;
* `Deminify.Source.get`, `Deminify.Source.slice` – one character, and a stretch of text;
* `Deminify.Source.skipWhile` – the first offset at which a class of characters ends.
-/

namespace Deminify

/-- A program text. -/
structure Source where
  chars : Array Char

namespace Source

/-- The text of a string. -/
def ofString (s : String) : Source := ⟨s.toList.toArray⟩

/-- The number of characters. -/
def size (src : Source) : Nat := src.chars.size

/-- The character at an offset; the null character beyond the end. -/
def get (src : Source) (i : Nat) : Char := src.chars[i]?.getD '\x00'

/-- The text between two offsets. -/
def slice (src : Source) (start stop : Nat) : String :=
  String.ofList (src.chars.extract start stop).toList

/-- Whether the characters of a word stand at an offset. -/
def startsWith (src : Source) (i : Nat) (word : String) : Bool :=
  src.slice i (i + word.length) == word

/-- The first offset from `i` on whose character is outside the class, `steps` characters on at
most. -/
def skip (src : Source) (p : Char → Bool) : Nat → Nat → Nat
  | 0, i => i
  | steps + 1, i => if p (src.get i) then skip src p steps (i + 1) else i

/-- The first offset from `i` on whose character is outside the class, or the end. -/
def skipWhile (src : Source) (p : Char → Bool) (i : Nat) : Nat := src.skip p (src.size - i) i

end Source

namespace Token

/-- Whether a character ends a line of a program. -/
def isLineEnd (c : Char) : Bool := c == '\n' || c == '\r' || c == '\u2028' || c == '\u2029'

/-- Whether a character separates tokens within a line. -/
def isGap (c : Char) : Bool :=
  c == ' ' || c == '\t' || c == '\x0b' || c == '\x0c' || c == '\u00a0' || c == '\u1680'
    || c == '\u180e' || ('\u2000' ≤ c && c ≤ '\u200a') || c == '\u202f' || c == '\u205f'
    || c == '\u3000' || c == '\ufeff'

/-- Whether a character is an octal digit. -/
def isOctalDigit (c : Char) : Bool := '0' ≤ c && c ≤ '7'

/-- The value of a hexadecimal digit. -/
def hexValue? (c : Char) : Option Nat :=
  if c.isDigit then some (c.toNat - 48)
  else if 'a' ≤ c && c ≤ 'f' then some (c.toNat - 87)
  else if 'A' ≤ c && c ≤ 'F' then some (c.toNat - 55)
  else none

/-- Whether a character is a hexadecimal digit. -/
def isHexDigit (c : Char) : Bool := (hexValue? c).isSome

/-- The value of a run of digits in a base; other characters count as zero. -/
def valueIn (base : Nat) (cs : List Char) : Nat :=
  cs.foldl (fun n c => base * n + (hexValue? c).getD 0) 0

/-- The text of a list of code points, in which a high and a low surrogate make one character and a
surrogate on its own is replaced. -/
def textOfCodes : List Nat → List Char
  | [] => []
  | high :: rest =>
    if 0xD800 ≤ high && high < 0xDC00 then
      match rest with
      | low :: more =>
        if 0xDC00 ≤ low && low < 0xE000 then
          Char.ofNat (0x10000 + (high - 0xD800) * 0x400 + (low - 0xDC00)) :: textOfCodes more
        else '\ufffd' :: textOfCodes (low :: more)
      | [] => ['\ufffd']
    else if 0xDC00 ≤ high && high < 0xE000 then '\ufffd' :: textOfCodes rest
    else Char.ofNat high :: textOfCodes rest

end Token

end Deminify
