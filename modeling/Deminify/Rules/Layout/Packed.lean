import Deminify.Failure
import Deminify.Text.Utf8
import Deminify.Text.Word
import Deminify.Token.Source

/-!
# Escaped and packed texts

A text that was passed on in an address has no blanks: a plus sign stands for one, and every other
character that an address cannot hold is written as its octets, each as a percent sign with two
digits. **Such a text is read before it is laid out.** It is told from other texts by having no blank
but an escaped one, or more than three percent signs.

Some programs come packed: the texts in them are kept in a table at the start, or their words are
numbered and a function puts them back. **A text in one of these forms is unpacked before it is laid
out**; one that only resembles them stays as it is.

* `Deminify.Rules.Layout.isEscaped`, `Deminify.Rules.Layout.unescaped` – whether a text is escaped, and
  what it stands for;
* `Deminify.Rules.Layout.withoutTable` – a text with the table's texts in their places;
* `Deminify.Rules.Layout.unpackWords` – a text with its words in their places;
* `Deminify.Rules.Layout.unpacked` – **the text that is laid out**.
-/

namespace Deminify.Rules.Layout

/-! ### Escapes -/

/-- Whether a text looks like one from an address. -/
def isEscaped (text : String) : Bool :=
  !text.toList.contains ' ' &&
    ((text.splitOn "%20").length > 1 || text.toList.count '%' > 3)

/-- The octets of basic characters, each escape being one octet. -/
def octetsOf : List Char → List UInt8
  | '%' :: a :: b :: rest =>
    match Token.hexValue? a, Token.hexValue? b with
    | some high, some low => (16 * high + low).toUInt8 :: octetsOf rest
    | _, _ => '%'.toNat.toUInt8 :: octetsOf (a :: b :: rest)
  | c :: rest => c.toNat.toUInt8 :: octetsOf rest
  | [] => []

/-- The text that a run of characters stands for, which are all basic ones or none of them is. -/
def unescapedRun (run : List Char) : List Char :=
  if run.all fun c => c.toNat < 128 then Text.Utf8.decodeAnyway (octetsOf run) else run

/-- The text that an escaped one stands for. -/
def unescaped (text : String) : String :=
  let blanks := text.toList.map fun c => if c == '+' then ' ' else c
  let isBasic (c : Char) : Bool := c.toNat < 128
  String.ofList ((blanks.splitBy fun a b => isBasic a == isBasic b).flatMap unescapedRun)

/-! ### Looking for forms -/

/-- The first place at which a form fits: what stands before it, and what the form gives. -/
def firstFit? {α : Type} (form : List Char → Option α) : List Char → Option (List Char × α)
  | [] => (form []).map ([], ·)
  | c :: cs =>
    match form (c :: cs) with
    | some a => some ([], a)
    | none => (firstFit? form cs).map fun (before, a) => (c :: before, a)

/-- The last place at which a form fits: what stands before it, and what the form gives. -/
def lastFit? {α : Type} (form : List Char → Option α) : List Char → Option (List Char × α)
  | [] => (form []).map ([], ·)
  | c :: cs =>
    match lastFit? form cs with
    | some (before, a) => some (c :: before, a)
    | none => (form (c :: cs)).map ([], ·)

/-- What follows a text at the start. -/
def after? (text : String) (cs : List Char) : Option (List Char) :=
  if text.toList.isPrefixOf cs then some (cs.drop text.length) else none

/-- What follows texts at the start, between which there may be blanks. -/
def afterSpaced? : List String → List Char → Option (List Char)
  | [], cs => some cs
  | text :: texts, cs => do afterSpaced? texts ((← after? text cs).dropWhile (· == ' '))

/-- A run of characters at the start that is not empty, and what follows it. -/
def run? (p : Char → Bool) (cs : List Char) : Option (List Char × List Char) :=
  let run := cs.takeWhile p
  if run.isEmpty then none else some (run, cs.drop run.length)

/-- What follows a character, if it is at the start. -/
def pass (c : Char) : List Char → List Char
  | d :: rest => if c == d then rest else d :: rest
  | [] => []

/-! ### Tables of texts -/

/-- The start of a table at the start: the name of the variable that holds it, and what follows its
opening bracket. -/
def tableStart? (cs : List Char) : Option (List Char × List Char) := do
  let (digits, rest) ← run? (fun c => c.isDigit || ('a' ≤ c && c ≤ 'f')) (← after? "var _0x" cs)
  let rest ← after? "[" (pass ' ' (← after? "=" (pass ' ' rest)))
  return ("_0x".toList ++ digits, rest)

/-- The table at the start, which stands on one line: the name of its variable, what is in it, and
its length. -/
def table? (cs : List Char) : Option (String × List Char × Nat) := do
  let (name, rest) ← tableStart? cs
  let (inside, after) ← firstFit? (after? "];") rest
  if inside.contains '\n' then none
  return (String.ofList name, inside, cs.length - after.length)

/-- A quoted text behind its opening mark, without the closing one, and what follows it. -/
def quotedEntry : List Char → Except Failure (List Char × List Char)
  | [] => .ok ([], [])
  | '"' :: rest => .ok ([], rest)
  | '\\' :: c :: rest => do
    let (word, after) ← quotedEntry rest
    return ('\\' :: c :: word, after)
  | ['\\'] => .error (.outOfRange "string index")
  | c :: rest => do
    let (word, after) ← quotedEntry rest
    return (c :: word, after)

/-- The quoted texts of a table, as far as `fuel` goes. -/
def entriesFrom : Nat → List Char → Except Failure (List String)
  | 0, _ | _, [] => .ok []
  | fuel + 1, c :: cs => do
    if c == '"' then
      let (word, after) ← quotedEntry cs
      return String.ofList ('"' :: word ++ ['"']) :: (← entriesFrom fuel after)
    else entriesFrom fuel cs

/-- The text with every entry of a list in the places where it is asked for. -/
def putEntries (name : String) (entries : List String) (text : String) : String :=
  entries.zipIdx.foldl (fun text (entry, i) => text.replace (name ++ "[" ++ toString i ++ "]") entry)
    text

/-- The text with the table's texts in their places, if it starts with a table. -/
def withoutTable (text : String) : Except Failure String := do
  let cs := text.toList
  match tableStart? cs, firstFit? table? cs with
  | some _, some (_, name, inside, length) =>
    let entries ← entriesFrom inside.length inside
    return putEntries name entries (String.ofList (cs.drop length))
  | _, _ => return text

/-! ### Numbered words -/

/-- The call that unpacks a text: what stands before it, and what follows its start. -/
def unpackingCall? (cs : List Char) : Option (List Char × List Char) :=
  firstFit? (afterSpaced?
    ["eval", "(", "function", "(", "p", ",", "a", ",", "c", ",", "k", ",", "e", ","]) cs

/-- What follows the call that starts here. -/
def behindCall (cs : List Char) : List Char :=
  match firstFit? (after? "')))") cs, firstFit? (after? "\x7d))") cs with
  | some (_, rest), _ => rest
  | none, some (_, rest) => rest
  | none, none => []

/-- A packed text: the text itself, the base of its numbers, the number of words, and the words. -/
structure Packing where
  text : List Char
  base : Nat
  count : Nat
  words : List String

/-- The value of decimal digits. -/
def decimal (digits : List Char) : Nat := digits.foldl (fun n c => 10 * n + (c.toNat - 48)) 0

/-- A comma with blanks behind it, and a number. -/
def nextNumber? (cs : List Char) : Option (List Char × List Char) := do
  run? Char.isDigit (← afterSpaced? [","] cs)

/-- The numbers behind the text: the base, which may be left open, and the number of words. -/
def packingNumbers? (cs : List Char) : Option (Nat × Nat × List Char) := do
  let rest ← after? "'" cs
  let open_ := (afterSpaced? [","] rest).bind (after? "[]")
  let (base, rest) ← match open_ with
    | some rest => some (62, rest)
    | none => (nextNumber? rest).map fun (digits, rest) => (decimal digits, rest)
  let (count, rest) ← nextNumber? rest
  let rest ← after? "'" (← afterSpaced? [","] rest)
  return (base, decimal count, rest)

/-- What follows the words, if it is what may follow them. Where the call is `complete`, two further
arguments do. -/
def wordsEnd? (complete : Bool) (cs : List Char) : Option Unit := do
  let rest ← after? "'.split('|')" cs
  if complete then
    let (_, rest) ← nextNumber? rest
    let rest ← afterSpaced? [","] rest
    let _ ← firstFit? (after? "))") rest

/-- The packed text at the start. -/
def packing? (complete : Bool) (cs : List Char) : Option Packing := do
  let (text, (base, count), words) ← lastFit? (fun rest => do
    let (base, count, rest) ← packingNumbers? rest
    let (words, ()) ← lastFit? (wordsEnd? complete) rest
    return ((base, count), words)) (← after? "\x7d('" cs)
  return { text, base, count, words := (String.ofList words).splitOn "|" }

/-- The packed text somewhere in a text. -/
def findPacking? (cs : List Char) : Option Packing :=
  ((firstFit? (packing? true) cs).or (firstFit? (packing? false) cs)).map (·.2)

/-- Whether numbers can be written in a base. -/
def isBase (base : Nat) : Bool := (2 ≤ base && base ≤ 62) || base == 95

/-- The value of a letter or digit in numbers of a base. -/
def digitValue? (base : Nat) (c : Char) : Option Nat :=
  let value :=
    if base == 95 then some (c.toNat - 32)
    else if c.isDigit then some (c.toNat - 48)
    else if c.isLower then some (c.toNat - 87)
    else if c.isUpper then some (if base ≤ 36 then c.toNat - 55 else c.toNat - 29)
    else none
  value.filter (· < base)

/-- Whether a number of a small base is written as it should be: underscores part its digits. -/
def isNumeral (base : Nat) (word : List Char) : Bool :=
  (word.splitOnP (· == '_')).all fun part =>
    !part.isEmpty && part.all fun c => (digitValue? base c).isSome

/-- The number that a word of a packed text stands for. -/
def wordNumber (base : Nat) (word : List Char) : Except Failure Nat :=
  if base ≤ 36 then
    if isNumeral base word then
      .ok ((word.filterMap (digitValue? base)).foldl (fun n d => base * n + d) 0)
    else .error (.noNumeral base (String.ofList word))
  else
    match word.reverse.find? fun c => (digitValue? base c).isNone with
    | some c => .error (.missing (String.singleton c))
    | none => .ok ((word.filterMap (digitValue? base)).foldl (fun n d => base * n + d) 0)

/-- The word that a word of a packed text stands for: an empty one stands for itself. -/
def wordFor (p : Packing) (word : List Char) : Except Failure String := do
  let n ← wordNumber p.base word
  match p.words[n]? with
  | some "" => return String.ofList word
  | some found => return found
  | none => throw (.outOfRange "list index")

/-- Whether a character belongs to the words of a packed text. -/
def isPackedLetter (c : Char) : Bool := c.isAlphanum || c == '_'

/-- The text with its words in their places. -/
def Packing.restored (p : Packing) : Except Failure String := do
  let plain := ((String.ofList p.text).replace "\\\\" "\\").replace "\\'" "'"
  let runs := plain.toList.splitBy fun a b => isPackedLetter a == isPackedLetter b
  let parts ← runs.mapM fun run =>
    if run.any isPackedLetter then wordFor p run else .ok (String.ofList run)
  return String.join parts

/-- The list of texts at the start: the name of its variable, the texts, and its length. -/
def textList? (cs : List Char) : Option (String × List String × Nat) := do
  let rest := (← after? "var" cs).dropWhile (· == ' ')
  let (name, rest) ← run? Text.isWord (← after? "_" rest)
  let (inside, rest) ← firstFit? (after? "\"];") (← after? "=[\"" rest)
  return ("_" ++ String.ofList name, (String.ofList inside).splitOn "\",\"", cs.length - rest.length)

/-- The text with the texts of a list in their places; without a list, between what stood before the
call and behind it. -/
def withoutList (before behind : List Char) (text : String) : String :=
  match firstFit? textList? text.toList with
  | some (_, name, entries, length) =>
    let quoted := entries.map fun entry => "\"" ++ entry ++ "\""
    String.ofList ((putEntries name quoted text).toList.drop length)
  | none => String.ofList before ++ text ++ String.ofList behind

/-- The text with its words in their places, if the text as it was given has a call that unpacks one.
If the call cannot be followed, the given text stays as it is. -/
def unpackWords (given text : String) : Except Failure String := do
  match unpackingCall? given.toList with
  | none => return text
  | some (before, _) =>
    match (findPacking? text.toList).filter fun p => p.count == p.words.length && isBase p.base with
    | some p =>
      let behind := behindCall (given.toList.drop before.length)
      return withoutList before behind (← p.restored)
    | none => return given

/-! ### Whole texts -/

/-- The text that is laid out. Which forms a text has is seen before the first of them is undone. -/
def unpacked (text : String) : Except Failure String := do
  let plain := if isEscaped text then unescaped text else text
  let open_ ← if (tableStart? text.toList).isSome then withoutTable plain else pure plain
  unpackWords text open_

end Deminify.Rules.Layout
