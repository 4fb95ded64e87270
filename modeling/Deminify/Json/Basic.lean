import Deminify.Number.Shortest
import Deminify.Text.Shown

/-!
# Plain data

Parameters, settings and log entries are plain data: null, truth values, integers of any size,
doubles, texts, lists and records whose keys keep their order.

* `Deminify.Json` – the data;
* `Deminify.Json.put` – a record with a key set, **a repeated key keeping its first position**;
* `Deminify.Json.compact`, `Deminify.Json.indented` – its text on one line, and over many.
-/

namespace Deminify

/-- Plain data. -/
inductive Json where
  | null
  | bool (b : Bool)
  | int (n : Int)
  | real (x : Binary64)
  | str (s : String)
  | list (items : List Json)
  | obj (fields : List (String × Json))
  deriving Repr, Inhabited

/-! ### Ordered records -/

/-- Sets a key of an ordered record: a known key keeps its place, a new one goes to the end. -/
def putKey {α : Type} (fields : List (String × α)) (key : String) (value : α) : List (String × α) :=
  match fields with
  | [] => [(key, value)]
  | (k, v) :: rest => if k = key then (k, value) :: rest else (k, v) :: putKey rest key value

namespace Json

/-- The record with the key set. -/
def put (fields : List (String × Json)) (key : String) (value : Json) : List (String × Json) :=
  putKey fields key value

/-- The value of a key of a record. -/
def get? (j : Json) (key : String) : Option Json :=
  match j with
  | .obj fields => fields.lookup key
  | _ => none

/-! ### Text -/

/-- The text of a double in data; numbers without decimal text have names. -/
def realText (x : Binary64) : String :=
  if x.isNaN then "NaN"
  else if x.isInfinite then if x.negative then "-Infinity" else "Infinity"
  else x.text

mutual

/-- The text of the data on one line, with `gap` after each comma and colon. -/
def oneLine (gap : String) (j : Json) : String :=
  match j with
  | .null => "null"
  | .bool b => if b then "true" else "false"
  | .int n => toString n
  | .real x => realText x
  | .str s => Text.quote s
  | .list items => "[" ++ String.intercalate ("," ++ gap) (oneLineItems gap items) ++ "]"
  | .obj fields => "\x7b" ++ String.intercalate ("," ++ gap) (oneLineFields gap fields) ++ "\x7d"
termination_by structural j

/-- The texts of the items. -/
def oneLineItems (gap : String) (items : List Json) : List String :=
  match items with
  | [] => []
  | j :: rest => oneLine gap j :: oneLineItems gap rest
termination_by structural items

/-- The texts of the fields, each with its key. -/
def oneLineFields (gap : String) (fields : List (String × Json)) : List String :=
  match fields with
  | [] => []
  | (k, j) :: rest => (Text.quote k ++ ":" ++ gap ++ oneLine gap j) :: oneLineFields gap rest
termination_by structural fields

end

/-- The text of the data without any blank. -/
def compact (j : Json) : String := oneLine "" j

/-- A line break followed by `depth` steps of two blanks. -/
def lineBreak (depth : Nat) : String := "\n" ++ String.ofList (List.replicate (2 * depth) ' ')

mutual

/-- The text of the data with every item and field on a line of its own, at the given depth. -/
def indentedAt (depth : Nat) (j : Json) : String :=
  match j with
  | .list [] => "[]"
  | .list items =>
    "[" ++ lineBreak (depth + 1) ++ String.intercalate ("," ++ lineBreak (depth + 1))
      (indentedItems (depth + 1) items) ++ lineBreak depth ++ "]"
  | .obj [] => "\x7b\x7d"
  | .obj fields =>
    "\x7b" ++ lineBreak (depth + 1) ++ String.intercalate ("," ++ lineBreak (depth + 1))
      (indentedFields (depth + 1) fields) ++ lineBreak depth ++ "\x7d"
  | .null => "null"
  | .bool b => if b then "true" else "false"
  | .int n => toString n
  | .real x => realText x
  | .str s => Text.quote s
termination_by structural j

/-- The texts of the items of a list at the given depth. -/
def indentedItems (depth : Nat) (items : List Json) : List String :=
  match items with
  | [] => []
  | j :: rest => indentedAt depth j :: indentedItems depth rest
termination_by structural items

/-- The texts of the fields of a record at the given depth. -/
def indentedFields (depth : Nat) (fields : List (String × Json)) : List String :=
  match fields with
  | [] => []
  | (k, j) :: rest => (Text.quote k ++ ": " ++ indentedAt depth j) :: indentedFields depth rest
termination_by structural fields

end

/-- The text of the data over many lines, two blanks a level. -/
def indented (j : Json) : String := indentedAt 0 j

end Json

end Deminify

namespace Deminify.Json

/-!
## Reading plain data

A reader of the written form of plain data. It keeps the order of keys, reads an integer exactly
however large it is, knows words for the doubles that are no numbers, and joins a pair of escaped
surrogates into one character. **A surrogate alone is no character**: what holds one can be read, but
it is no text.

* `Deminify.Json.read?` – the data of a text, if it is one.
-/

/-- The characters after any blanks. -/
def skipBlanks (cs : List Char) : List Char :=
  cs.dropWhile fun c => c == ' ' || c == '\n' || c == '\t' || c == '\r'

/-- The value of a hexadecimal digit. -/
def hexValue? (c : Char) : Option Nat :=
  if c.isDigit then some (c.toNat - 48)
  else if 'a' ≤ c && c ≤ 'f' then some (c.toNat - 87)
  else if 'A' ≤ c && c ≤ 'F' then some (c.toNat - 55)
  else none

/-- Four hexadecimal digits and what follows. -/
def hexFour? : List Char → Option (Nat × List Char)
  | a :: b :: c :: d :: rest => do
    let a ← hexValue? a
    let b ← hexValue? b
    let c ← hexValue? c
    let d ← hexValue? d
    some (((a * 16 + b) * 16 + c) * 16 + d, rest)
  | _ => none

/-- The character of a single-letter escape. -/
def letterEscape? : Char → Option Char
  | '"' => some '"'
  | '\\' => some '\\'
  | '/' => some '/'
  | 'b' => some '\x08'
  | 'f' => some '\x0c'
  | 'n' => some '\n'
  | 'r' => some '\r'
  | 't' => some '\t'
  | _ => none

/-- The character written by four hexadecimal digits, a second escape completing a pair, with what
follows it. A surrogate alone writes none. -/
def unicodeEscape? (cs : List Char) : Option (Option Char × List Char) := do
  let (high, rest) ← hexFour? cs
  if 0xD800 ≤ high && high < 0xDC00 then
    match rest with
    | '\\' :: 'u' :: more =>
      match hexFour? more with
      | some (low, after) =>
        if 0xDC00 ≤ low && low < 0xE000 then
          some (some (Char.ofNat (0x10000 + (high - 0xD800) * 0x400 + (low - 0xDC00))), after)
        else some (none, rest)
      | none => some (none, rest)
    | _ => some (none, rest)
  else if 0xDC00 ≤ high && high < 0xE000 then some (none, rest)
  else some (some (Char.ofNat high), rest)

/-- The rest of a quoted text after its opening quote; `done` holds what was read, last first, a
surrogate alone being none. -/
def readChars (fuel : Nat) (cs : List Char) (done : List (Option Char)) :
    Option (List (Option Char) × List Char) :=
  match fuel, cs with
  | _, '"' :: rest => some (done.reverse, rest)
  | fuel + 1, '\\' :: 'u' :: rest => do
    let (c, after) ← unicodeEscape? rest
    readChars fuel after (c :: done)
  | fuel + 1, '\\' :: c :: rest => do
    let c ← letterEscape? c
    readChars fuel rest (some c :: done)
  | fuel + 1, c :: rest => if c.toNat < 32 then none else readChars fuel rest (some c :: done)
  | _, _ => none

/-- The rest of a key after its opening quote. -/
def readKey (cs : List Char) : Option (String × List Char) :=
  (readChars cs.length cs []).map fun (chars, rest) =>
    (String.ofList (chars.map (·.getD '\ufffd')), rest)

/-- What stands for a text that is none: it fits no setting. -/
def noText : Json := .real .nan

/-- The rest of a quoted text after its opening quote. -/
def readText (cs : List Char) : Option (Json × List Char) :=
  (readChars cs.length cs []).map fun (chars, rest) =>
    ((chars.mapM id).elim noText fun cs => .str (String.ofList cs), rest)

/-! ### Numbers -/

/-- The whole part of a number, which has no leading zero, and what follows it. -/
def wholePart? : List Char → Option (List Char × List Char)
  | '0' :: rest => some (['0'], rest)
  | cs =>
    let digits := cs.takeWhile Char.isDigit
    if digits.isEmpty then none else some (digits, cs.drop digits.length)

/-- The fraction that may follow, with its point, and what follows it. -/
def fractionPart : List Char → List Char × List Char
  | '.' :: rest =>
    let digits := rest.takeWhile Char.isDigit
    if digits.isEmpty then ([], '.' :: rest) else ('.' :: digits, rest.drop digits.length)
  | cs => ([], cs)

/-- The exponent that may follow, with its mark and sign, and what follows it. -/
def exponentPart (cs : List Char) : List Char × List Char :=
  match cs with
  | c :: rest =>
    if c == 'e' || c == 'E' then
      let sign := (rest.take 1).filter fun c => c == '+' || c == '-'
      let digits := (rest.drop sign.length).takeWhile Char.isDigit
      if digits.isEmpty then ([], cs)
      else (c :: sign ++ digits, rest.drop (sign.length + digits.length))
    else ([], cs)
  | [] => ([], [])

/-- No integer with more digits is read. -/
def maxDigits : Nat := 4300

/-- A number without its sign and what follows it: an integer unless it has a fraction or an
exponent. -/
def readNumber? (minus : Bool) (cs : List Char) : Option (Json × List Char) := do
  let (whole, rest) ← wholePart? cs
  let (fraction, rest) := fractionPart rest
  let (exponent, rest) := exponentPart rest
  if fraction.isEmpty && exponent.isEmpty then
    let n : Int := Binary64.digitsValue whole
    if maxDigits < whole.length then none else some (.int (if minus then -n else n), rest)
  else
    let sign := if minus then ['-'] else []
    let x ← Binary64.ofText? (String.ofList (sign ++ whole ++ fraction ++ exponent))
    some (.real x, rest)

/-- The words that stand for data, with what they stand for. -/
def words : List (String × Json) := [
  ("null", .null), ("true", .bool true), ("false", .bool false), ("NaN", .real .nan),
  ("Infinity", .real (.infinity false)), ("-Infinity", .real (.infinity true))]

/-- The word at the start, and what follows it. -/
def readWord? (cs : List Char) : Option (Json × List Char) :=
  words.findSome? fun (word, value) =>
    if word.toList.isPrefixOf cs then some (value, cs.drop word.length) else none

/-! ### Values -/

mutual

/-- A value and what follows it. -/
def readValue (fuel : Nat) (cs : List Char) : Option (Json × List Char) :=
  match fuel with
  | 0 => none
  | fuel + 1 =>
    match skipBlanks cs with
    | '"' :: rest => readText rest
    | '[' :: rest =>
      match skipBlanks rest with
      | ']' :: after => some (.list [], after)
      | _ => readItems fuel rest []
    | '\x7b' :: rest =>
      match skipBlanks rest with
      | '\x7d' :: after => some (.obj [], after)
      | _ => readFields fuel rest []
    | [] => none
    | cs =>
      match readWord? cs with
      | some read => some read
      | none =>
        match cs with
        | '-' :: rest => readNumber? true rest
        | _ => readNumber? false cs
termination_by structural fuel

/-- The items of a list up to its closing bracket. -/
def readItems (fuel : Nat) (cs : List Char) (done : List Json) : Option (Json × List Char) :=
  match fuel with
  | 0 => none
  | fuel + 1 =>
    match readValue fuel cs with
    | none => none
    | some (value, after) =>
      match skipBlanks after with
      | ',' :: rest => readItems fuel rest (value :: done)
      | ']' :: rest => some (.list (value :: done).reverse, rest)
      | _ => none
termination_by structural fuel

/-- The fields of a record up to its closing brace. -/
def readFields (fuel : Nat) (cs : List Char) (done : List (String × Json)) :
    Option (Json × List Char) :=
  match fuel with
  | 0 => none
  | fuel + 1 =>
    match skipBlanks cs with
    | '"' :: rest =>
      match readKey rest with
      | none => none
      | some (key, after) =>
        match skipBlanks after with
        | ':' :: rest =>
          match readValue fuel rest with
          | none => none
          | some (value, after) =>
            let done := put done key value
            match skipBlanks after with
            | ',' :: rest => readFields fuel rest done
            | '\x7d' :: rest => some (.obj done, rest)
            | _ => none
        | _ => none
    | _ => none
termination_by structural fuel

end

/-- The data a text writes, if it writes one and nothing else. -/
def read? (s : String) : Option Json :=
  let cs := s.toList
  match readValue (2 * cs.length + 2) cs with
  | some (value, after) => if (skipBlanks after).isEmpty then some value else none
  | none => none

end Deminify.Json
