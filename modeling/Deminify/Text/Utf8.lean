/-!
# Texts as octets

A text is stored as octets, one to four to a character. The first octet of a character says how many
follow and bounds the second one, so that every character has one form only. Reading stops at the
first octet that no text has in its place.

* `Deminify.Text.Utf8.Fault` – where and why octets are no text;
* `Deminify.Text.Utf8.decode` – **the characters of octets**;
* `Deminify.Text.Utf8.decodeAnyway` – the same, with a mark for what is no text;
* `Deminify.Text.unifyLines` – a text in which every line ends alike.
-/

namespace Deminify.Text

namespace Utf8

/-- Why octets are no text. -/
inductive Reason where
  | start
  | continuation
  | tooShort
  deriving DecidableEq, Repr

/-- The octets that are no text: the offset of the first, the octet itself, the offset behind the
last, and the reason. -/
structure Fault where
  first : Nat
  octet : UInt8
  stop : Nat
  reason : Reason
  deriving DecidableEq, Repr

/-- What a first octet asks for: the number of octets that follow, the bounds of the second, and the
bits that the octet itself gives. -/
structure Lead where
  count : Nat
  low : UInt8 := 0x80
  high : UInt8 := 0xBF
  bits : Nat

/-- What a first octet of several asks for; none if it can be none. -/
def leadOf? (a : UInt8) : Option Lead :=
  if a < 0xC2 then none
  else if a < 0xE0 then some { count := 1, bits := a.toNat - 0xC0 }
  else if a < 0xF0 then
    some { count := 2, low := if a == 0xE0 then 0xA0 else 0x80,
           high := if a == 0xED then 0x9F else 0xBF, bits := a.toNat - 0xE0 }
  else if a < 0xF5 then
    some { count := 3, low := if a == 0xF0 then 0x90 else 0x80,
           high := if a == 0xF4 then 0x8F else 0xBF, bits := a.toNat - 0xF0 }
  else none

/-- The octets at the start that may follow a first one. -/
def followers (lead : Lead) (rest : List UInt8) : List UInt8 :=
  match rest.take lead.count with
  | [] => []
  | b :: more =>
    if lead.low ≤ b && b ≤ lead.high then b :: more.takeWhile fun c => 0x80 ≤ c && c ≤ 0xBF else []

/-- The character of a first octet and its followers. -/
def character (lead : Lead) (tail : List UInt8) : Char :=
  Char.ofNat (tail.foldl (fun n b => n * 64 + (b.toNat - 0x80)) lead.bits)

/-- The characters of octets, which start at an offset; `done` holds those before, last one
first. -/
def decodeFrom (offset : Nat) (done : List Char) (octets : List UInt8) : Except Fault (List Char) :=
  match octets with
  | [] => .ok done.reverse
  | a :: rest =>
    if a < 0x80 then decodeFrom (offset + 1) (Char.ofNat a.toNat :: done) rest
    else
      match leadOf? a with
      | none => .error ⟨offset, a, offset + 1, .start⟩
      | some lead =>
        let tail := followers lead rest
        if tail.length == lead.count then
          decodeFrom (offset + 1 + lead.count) (character lead tail :: done) (rest.drop lead.count)
        else
          .error ⟨offset, a, offset + 1 + tail.length,
            if rest.length == tail.length then .tooShort else .continuation⟩
termination_by octets.length

/-- The characters of octets. -/
def decode (octets : List UInt8) : Except Fault (List Char) := decodeFrom 0 [] octets

/-- The characters of octets, as far as `fuel` goes; a mark stands for octets that are no text. -/
def decodeAnywayFrom : Nat → List UInt8 → List Char
  | 0, _ => []
  | fuel + 1, octets =>
    match decode octets with
    | .ok cs => cs
    | .error fault =>
      let before := match decode (octets.take fault.first) with
        | .ok cs => cs
        | .error _ => []
      before ++ '\ufffd' :: decodeAnywayFrom fuel (octets.drop fault.stop)

/-- The characters of octets; a mark stands for octets that are no text. -/
def decodeAnyway (octets : List UInt8) : List Char := decodeAnywayFrom (octets.length + 1) octets

end Utf8

/-- The text in which every line ends alike. -/
def unifyLines : List Char → List Char
  | [] => []
  | '\r' :: '\n' :: rest => '\n' :: unifyLines rest
  | '\r' :: rest => '\n' :: unifyLines rest
  | c :: rest => c :: unifyLines rest

end Deminify.Text
