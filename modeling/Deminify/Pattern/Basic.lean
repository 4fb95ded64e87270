import Deminify.Token.Source

/-!
# Regular expressions, piece by piece

A regular expression is read as a list of pieces, each a character or a character behind a
backslash. What the reader needs to know of the part it has read is only how it may be repeated and
how many characters it can match.

* `Deminify.Pattern.Piece` – the pieces, with `Deminify.Pattern.pieces?`;
* `Deminify.Pattern.Width` – the least and the greatest number of characters matched;
* `Deminify.Pattern.Reader` – reading from the pieces, which may fail.
-/

namespace Deminify.Pattern

/-- A character of a regular expression, by its code point, plain or behind a backslash. -/
inductive Piece where
  | plain (code : Nat)
  | escaped (code : Nat)
  deriving DecidableEq, Repr

/-- The pieces of a list of code points; none if a backslash ends it. -/
def pieces? : List Nat → Option (List Piece)
  | [] => some []
  | [code] => if code == '\\'.toNat then none else some [.plain code]
  | code :: next :: rest =>
    if code == '\\'.toNat then (pieces? rest).map (.escaped next :: ·)
    else (pieces? (next :: rest)).map (.plain code :: ·)

/-- Whether a piece is the given character. -/
def Piece.is (p : Piece) (c : Char) : Bool := p == .plain c.toNat

/-- The character of a plain piece, if it is one. -/
def Piece.char? : Piece → Option Char
  | .plain code => if code.isValidChar then some (Char.ofNat code) else none
  | .escaped _ => none

/-! ### Widths -/

/-- The least and the greatest number of characters that a part matches. -/
structure Width where
  least : Nat
  most : Nat
  deriving DecidableEq, Repr

namespace Width

/-- No width is counted beyond this one. -/
def limit : Nat := Nat.pow 2 64

/-- The width of the empty part. -/
def none : Width := ⟨0, 0⟩

/-- The width of one character. -/
def one : Width := ⟨1, 1⟩

/-- The width of one part after another. -/
def plus (a b : Width) : Width := ⟨min limit (a.least + b.least), min limit (a.most + b.most)⟩

/-- The width of either of two parts. -/
def either (a b : Width) : Width := ⟨min a.least b.least, max a.most b.most⟩

/-- The width of a repeated part; without an upper bound it is unlimited. -/
def times (a : Width) (least : Nat) (most : Option Nat) : Width :=
  ⟨min limit (a.least * least),
    match most with
    | some n => min limit (a.most * n)
    | Option.none => if a.most == 0 then 0 else limit⟩

/-- Whether all matches have the same width, and one that can be looked back over. -/
def fixed (a : Width) : Bool := a.least == a.most && a.least < Nat.pow 2 31

end Width

/-- How an item of a sequence may be repeated: a position cannot be, nor can what is repeated
already. -/
inductive Repeatable where
  | position
  | repeated
  | item
  deriving DecidableEq, Repr

/-- An item of a sequence. -/
structure Item where
  repeatable : Repeatable
  width : Width
  deriving Repr

namespace Item

/-- An item that matches one character. -/
def one : Item := ⟨.item, .one⟩

/-- An item that matches at a position. -/
def position : Item := ⟨.position, .none⟩

end Item

/-! ### Reading -/

/-- What reading keeps: the pieces ahead, the width of each group once it is closed, the names of
groups, the number of groups before the look-behind being read, the groups that conditions refer
to, the flags of the whole expression (which letters count, whether blanks are ignored, whether it
is a template), and whether something is repeated. -/
structure Progress where
  rest : List Piece
  groups : Array (Option Width) := #[none]
  names : List (List Piece × Nat) := []
  behind : Option Nat := none
  conditions : List Nat := []
  ascii : Bool := false
  unicode : Bool := false
  spaced : Bool := false
  template : Bool := false
  repeats : Bool := false

/-- Reading from the pieces. -/
abbrev Reader := StateT Progress Option

namespace Reader

/-- Gives up. -/
def reject {α : Type} : Reader α := fun _ => none

/-- The next piece, which stays ahead. -/
def peek : Reader (Option Piece) := return (← get).rest.head?

/-- Takes the next piece, if there is one. -/
def next : Reader (Option Piece) := do
  let s ← get
  set { s with rest := s.rest.tail }
  return s.rest.head?

/-- Takes the given character if it comes next. -/
def accept (c : Char) : Reader Bool := do
  match ← peek with
  | some p => if p.is c then do discard next; return true else return false
  | none => return false

/-- Takes the given character, which must come next. -/
def expect (c : Char) : Reader Unit := do
  unless ← accept c do reject

/-- Takes plain characters of a class, at most `count` of them. -/
def takeWhile (p : Char → Bool) : Nat → Reader (List Char)
  | 0 => return []
  | count + 1 => do
    match (← peek).bind Piece.char? with
    | some c =>
      if p c then do
        discard next
        return c :: (← takeWhile p count)
      else return []
    | none => return []

/-- Takes the pieces up to the given character, and that character; there must be some. -/
def takeUntil (c : Char) : Reader (List Piece) := do
  let s ← get
  let name := s.rest.takeWhile (!·.is c)
  match s.rest.drop name.length with
  | _ :: rest =>
    set { s with rest }
    if name.isEmpty then reject else return name
  | [] => reject

/-- The width of a group that is closed; a look-behind refers to groups before it only. -/
def groupWidth (group : Nat) : Reader Width := do
  let s ← get
  match s.groups[group]? with
  | some (some width) =>
    match s.behind with
    | some bound => if group < bound then return width else reject
    | none => return width
  | _ => reject

end Reader

end Deminify.Pattern
