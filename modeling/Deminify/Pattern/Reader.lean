import Deminify.Pattern.Basic
import Deminify.Text.CharName
import Deminify.Text.Numeral

/-!
# Which regular expressions are accepted

The grammar of regular expressions, read only to tell whether a text belongs to it: groups that are
captured, named, atomic or conditional, assertions, sets, repetitions – greedy, lazy and
possessive – and flags at the start or on a group. A look-behind must match texts of one length.

* `Deminify.Pattern.escapeItem`, `Deminify.Pattern.setEscape` – escapes outside and inside a set;
* `Deminify.Pattern.sequence`, `Deminify.Pattern.alternatives` – the grammar;
* `Deminify.Pattern.accepts` – **whether a regular expression is accepted**.
-/

namespace Deminify.Pattern

open Reader

/-! ### Escapes -/

/-- Reads exactly `count` hexadecimal digits. -/
def hexCode (count : Nat) : Reader Nat := do
  let digits ← takeWhile Token.isHexDigit count
  if digits.length == count then return Token.valueIn 16 digits else reject

/-- Reads the digits of an escape given by its letter, which must name a character. -/
def hexEscape (letter : Char) : Reader Nat := do
  if letter == 'x' then hexCode 2
  else if letter == 'u' then hexCode 4
  else
    let code ← hexCode 8
    if 0x10FFFF < code then reject else return code

/-- Whether an escape is given by digits. -/
def isHexLetter (c : Char) : Bool := c == 'x' || c == 'u' || c == 'U'

/-- Whether an escape stands for a class of characters. -/
def isClassLetter (c : Char) : Bool := ['d', 'D', 's', 'S', 'w', 'W'].contains c

/-- Whether an escape stands for a position. -/
def isPositionLetter (c : Char) : Bool := ['A', 'b', 'B', 'Z'].contains c

/-- The control character of an escape. -/
def controlCode? : Char → Option Nat
  | 'a' => some 7
  | 'b' => some 8
  | 't' => some 9
  | 'n' => some 10
  | 'v' => some 11
  | 'f' => some 12
  | 'r' => some 13
  | _ => none

/-- The character of a code point, and the null character for what is none. -/
def charOf (code : Nat) : Char := Char.ofNat code

/-- Reads an escape that starts with a digit other than zero: an octal escape of three digits, or a
reference to a closed group. -/
def referenceEscape (first : Char) : Reader Item := do
  let second ← takeWhile Char.isDigit 1
  let octal := (first :: second).all Token.isOctalDigit && second.length == 1
  let third ← if octal then takeWhile Token.isOctalDigit 1 else pure []
  if third.length == 1 then
    if 0o377 < Token.valueIn 8 (first :: second ++ third) then reject else return .one
  else return ⟨.item, ← groupWidth (Token.valueIn 10 (first :: second))⟩

/-- The text that pieces make up, if none is behind a backslash. -/
def textOf? (pieces : List Piece) : Option String := (pieces.mapM Piece.char?).map String.ofList

/-- Reads the name of a character between braces, after its letter. -/
def namedCharacter : Reader Nat := do
  expect '\x7b'
  match (textOf? (← takeUntil '\x7d')).bind Text.charNamed? with
  | some code => return code
  | none => reject

/-- Reads an escape outside a set, after its letter. -/
def escapeItem (code : Nat) : Reader Item := do
  let c := charOf code
  if isPositionLetter c then return .position
  else if isClassLetter c || (controlCode? c).isSome then return .one
  else if isHexLetter c then do
    discard (hexEscape c)
    return .one
  else if c == '0' then do
    discard (takeWhile Token.isOctalDigit 2)
    return .one
  else if c.isDigit then referenceEscape c
  else if c == 'N' then do
    discard namedCharacter
    return .one
  else if c.isAlpha then reject
  else return .one

/-- Reads an escape inside a set, after its letter: the code point, or nothing for a class. -/
def setEscape (code : Nat) : Reader (Option Nat) := do
  let c := charOf code
  match controlCode? c with
  | some control => return some control
  | none =>
    if isClassLetter c then return none
    else if isHexLetter c then return some (← hexEscape c)
    else if Token.isOctalDigit c then
      let value := Token.valueIn 8 (c :: (← takeWhile Token.isOctalDigit 2))
      if 0o377 < value then reject else return some value
    else if c == 'N' then return some (← namedCharacter)
    else if c.isAlphanum then reject
    else return some code

/-! ### Sets -/

/-- Reads a member of a set whose first piece is given. -/
def setMember : Piece → Reader (Option Nat)
  | .plain code => return some code
  | .escaped code => setEscape code

/-- Reads the members of a set up to its bracket; a bracket that comes first is a member. -/
def setRest : Nat → Bool → Reader Unit
  | 0, _ => reject
  | fuel + 1, isFirst => do
    match ← next with
    | none => reject
    | some p =>
      if p.is ']' && !isFirst then return
      let low ← setMember p
      if ← accept '-' then
        match ← next with
        | none => reject
        | some q =>
          if q.is ']' then return
          match low, ← setMember q with
          | some a, some b => if b < a then reject else setRest fuel false
          | _, _ => reject
      else setRest fuel false

/-! ### Repetitions -/

/-- The bound of repetitions. -/
def repeatLimit : Nat := 4294967295

/-- A bound of a repetition, which must not be too large. -/
def bound (digits : List Char) : Reader (Option Nat) := do
  if digits.isEmpty then return none
  let n := Token.valueIn 10 digits
  if repeatLimit ≤ n then reject else return some n

/-- Reads the bounds of a repetition after its brace; none, with nothing taken, if they are not
written like bounds. -/
def bounds? : Reader (Option (Nat × Option Nat)) := do
  let before ← get
  if (← peek).any (·.is '\x7d') then return none
  let low ← takeWhile Char.isDigit before.rest.length
  let high ← if ← accept ',' then takeWhile Char.isDigit before.rest.length else pure low
  if ← accept '\x7d' then
    let least := (← bound low).getD 0
    let most ← bound high
    if most.any (· < least) then reject
    return some (least, most)
  else
    set before
    return none

/-- Repeats the last of the items, given last first. -/
def repeated (items : List Item) (least : Nat) (most : Option Nat) : Reader (List Item) := do
  match items with
  | ⟨.item, width⟩ :: rest =>
    unless ← accept '?' do discard (accept '+')
    modify fun s => { s with repeats := true }
    return ⟨.repeated, width.times least most⟩ :: rest
  | _ => reject

/-! ### Flags -/

/-- The flags of a group. -/
def isFlag (c : Char) : Bool := ['i', 'L', 'm', 's', 'x', 'a', 't', 'u'].contains c

/-- Reads the flags that are turned off, up to the colon. -/
def flagsOff : Nat → List Char → Reader (List Char)
  | 0, _ => reject
  | fuel + 1, off => do
    match (← next).bind Piece.char? with
    | some c =>
      if c == ':' && !off.isEmpty then return off
      else if isFlag c && !(['a', 'u', 'L'].contains c) then flagsOff fuel (c :: off)
      else reject
    | none => reject

/-- Reads flags: those turned on and off, and whether they hold for the whole expression. -/
def flags : Nat → List Char → Reader (List Char × List Char × Bool)
  | 0, _ => reject
  | fuel + 1, on => do
    match (← next).bind Piece.char? with
    | some c =>
      if isFlag c && c != 'L' then
        if (c == 'a' && on.contains 'u') || (c == 'u' && on.contains 'a') then reject
        flags fuel (c :: on)
      else if c == ')' && !on.isEmpty then return (on, [], true)
      else if on.contains 't' then reject
      else if c == ':' && !on.isEmpty then return (on, [], false)
      else if c == '-' then
        let off ← flagsOff fuel []
        if off.contains 't' || on.any (off.contains ·) then reject
        return (on, off, false)
      else reject
    | none => reject

/-- Sets the flags of the whole expression; two ways to read letters exclude each other. -/
def setFlags (on : List Char) : Reader Unit := do
  let s ← get
  let ascii := s.ascii || on.contains 'a'
  let unicode := s.unicode || on.contains 'u'
  if ascii && unicode then reject
  set { s with
    ascii, unicode, spaced := s.spaced || on.contains 'x', template := s.template || on.contains 't' }

/-! ### Groups -/

/-- Whether a name may be given to a group. -/
def isGroupName (name : List Piece) : Bool := (textOf? name).any Text.isName

/-- Opens a group, under a name if one is given, and returns its number. -/
def openGroup (name : Option (List Piece)) : Reader Nat := do
  let s ← get
  let group := s.groups.size
  match name with
  | none => set { s with groups := s.groups.push none }
  | some name =>
    if (s.names.lookup name).isSome then reject
    set { s with groups := s.groups.push none, names := (name, group) :: s.names }
  return group

/-- Closes a group with its width. -/
def closeGroup (group : Nat) (width : Width) : Reader Unit :=
  modify fun s => { s with groups := s.groups.setIfInBounds group (some width) }

/-- The group that a condition names, by its name or its number. -/
def conditionGroup (name : List Piece) : Reader Nat := do
  let s ← get
  if isGroupName name then
    match s.names.lookup name with
    | some group => return group
    | none => reject
  else
    match (textOf? name).bind Text.integer? with
    | some number =>
      if number ≤ 0 then reject
      set { s with conditions := number.toNat :: s.conditions }
      return number.toNat
    | none => reject

/-- The sum of the widths of items. -/
def widthOf (items : List Item) : Width := items.foldl (fun w i => w.plus i.width) .none

mutual

/-- Reads alternatives. At the top, the first may start with flags for the whole expression. -/
def alternatives (fuel : Nat) (spaced top isFirst : Bool) : Reader Width := do
  match fuel with
  | 0 => reject
  | fuel + 1 =>
    let width := widthOf (← sequence fuel spaced (top && isFirst) [])
    if ← accept '|' then
      let flagged := (← get).spaced
      let spaced := if top then flagged else spaced
      return width.either (← alternatives fuel spaced top false)
    else return width

/-- Reads a sequence of items after the given ones, which come last first. -/
def sequence (fuel : Nat) (spaced start : Bool) (items : List Item) : Reader (List Item) := do
  match fuel with
  | 0 => reject
  | fuel + 1 =>
    match ← peek with
    | none => return items
    | some p =>
      if p.is '|' || p.is ')' then return items
      discard next
      match p with
      | .escaped code => sequence fuel spaced start ((← escapeItem code) :: items)
      | .plain code =>
        let c := charOf code
        if spaced && [' ', '\t', '\n', '\r', '\x0b', '\x0c'].contains c then
          sequence fuel spaced start items
        else if spaced && c == '#' then
          modify fun s => { s with rest := (s.rest.dropWhile (!·.is '\n')).tail }
          sequence fuel spaced start items
        else if c == '[' then
          discard (accept '^')
          setRest ((← get).rest.length + 1) true
          sequence fuel spaced start (.one :: items)
        else if c == '?' then sequence fuel spaced start (← repeated items 0 (some 1))
        else if c == '*' then sequence fuel spaced start (← repeated items 0 none)
        else if c == '+' then sequence fuel spaced start (← repeated items 1 none)
        else if c == '\x7b' then
          match ← bounds? with
          | some (least, most) => sequence fuel spaced start (← repeated items least most)
          | none => sequence fuel spaced start (.one :: items)
        else if c == '(' then
          if ← accept '?' then extension fuel spaced start items
          else
            let group ← openGroup none
            let width ← alternatives fuel spaced false true
            expect ')'
            closeGroup group width
            sequence fuel spaced start (⟨.item, width⟩ :: items)
        else if c == '^' || c == '$' then sequence fuel spaced start (.position :: items)
        else sequence fuel spaced start (.one :: items)

/-- Reads a group that is marked as special, and the sequence after it. -/
def extension (fuel : Nat) (spaced start : Bool) (items : List Item) : Reader (List Item) := do
  match fuel with
  | 0 => reject
  | fuel + 1 =>
    let before ← get
    match (← next).bind Piece.char? with
    | none => reject
    | some 'P' =>
      if ← accept '<' then
        let name ← takeUntil '>'
        unless isGroupName name do reject
        let group ← openGroup (some name)
        let width ← alternatives fuel spaced false true
        expect ')'
        closeGroup group width
        sequence fuel spaced start (⟨.item, width⟩ :: items)
      else
        expect '='
        let name ← takeUntil ')'
        match (← get).names.lookup name with
        | some group => sequence fuel spaced start (⟨.item, ← groupWidth group⟩ :: items)
        | none => reject
    | some '#' =>
      modify fun s => { s with rest := s.rest.dropWhile (!·.is ')') }
      expect ')'
      sequence fuel spaced start items
    | some '<' =>
      unless ← accept '=' do expect '!'
      let outer := (← get).behind
      modify fun s => { s with behind := outer.or (some s.groups.size) }
      let width ← alternatives fuel spaced false true
      modify fun s => { s with behind := outer }
      expect ')'
      unless width.fixed do reject
      sequence fuel spaced start (⟨.item, .none⟩ :: items)
    | some '(' =>
      let group ← conditionGroup (← takeUntil ')')
      if (← get).behind.isSome then discard (groupWidth group)
      let yes := widthOf (← sequence fuel spaced false [])
      let no ← if ← accept '|' then do pure (widthOf (← sequence fuel spaced false []))
        else pure .none
      expect ')'
      sequence fuel spaced start (⟨.item, yes.either no⟩ :: items)
    | some c =>
      if c == '=' || c == '!' then
        discard (alternatives fuel spaced false true)
        expect ')'
        sequence fuel spaced start (⟨.item, .none⟩ :: items)
      else if c == ':' || c == '>' then
        let width ← alternatives fuel spaced false true
        expect ')'
        sequence fuel spaced start (⟨.item, width⟩ :: items)
      else
        set before
        let (on, off, whole) ← flags (before.rest.length + 1) []
        if whole then
          if !start || !items.isEmpty then reject
          setFlags on
          sequence fuel (← get).spaced start items
        else
          let inner := (spaced || on.contains 'x') && !off.contains 'x'
          let width ← alternatives fuel inner false true
          expect ')'
          sequence fuel spaced start (⟨.item, width⟩ :: items)

end

/-- Whether the pieces make up a regular expression. Nothing is repeated in a template. -/
def acceptsPieces (pieces : List Piece) : Bool :=
  match (alternatives (3 * pieces.length + 3) false true true).run { rest := pieces } with
  | some (_, s) =>
    s.rest.isEmpty && s.conditions.all (· < s.groups.size) && !(s.template && s.repeats)
  | none => false

/-! ### Characters given by their numbers -/

/-- The code points of a text in which characters given by their number are put in: those beyond
four digits are replaced by one character. None if a number is no code point. -/
def resolve? : Nat → List Char → Option (List Nat)
  | 0, _ => some []
  | _, [] => some []
  | fuel + 1, '\\' :: 'u' :: rest =>
    let long := (rest.drop 1).takeWhile Token.isHexDigit
    if rest.head? == some '\x7b' && !long.isEmpty
        && (rest.drop (long.length + 1)).head? == some '\x7d' then
      put fuel (Token.valueIn 16 long) (rest.drop (long.length + 2))
    else if (rest.take 4).length == 4 && (rest.take 4).all Token.isHexDigit then
      put fuel (Token.valueIn 16 (rest.take 4)) (rest.drop 4)
    else (resolve? fuel ('u' :: rest)).map ('\\'.toNat :: ·)
  | fuel + 1, c :: rest => (resolve? fuel rest).map (c.toNat :: ·)
termination_by fuel => (fuel, 0)
where
  /-- Puts a character in. -/
  put (fuel code : Nat) (rest : List Char) : Option (List Nat) :=
    if 0x10FFFF < code then none
    else (resolve? fuel rest).map ((if code ≤ 0xFFFF then code else 0xFFFF) :: ·)
  termination_by (fuel, 1)

/-- The code points with each pair of surrogates replaced by one character. -/
def joinPairs : List Nat → List Nat
  | high :: low :: rest =>
    if 0xD800 ≤ high && high < 0xDC00 && 0xDC00 ≤ low && low < 0xE000 then
      0xFFFF :: joinPairs rest
    else high :: joinPairs (low :: rest)
  | codes => codes

/-- **Whether a regular expression is accepted.** -/
def accepts (body : String) : Bool :=
  match (resolve? (body.length + 1) body.toList).bind fun codes => pieces? (joinPairs codes) with
  | some pieces => acceptsPieces pieces
  | none => false

end Deminify.Pattern
