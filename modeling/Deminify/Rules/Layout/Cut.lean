import Deminify.Rules.Layout.Element

/-!
# Cutting a text into pieces

A text is cut from left to right. Whether a slash starts a regular expression, and whether a bracket
starts an element, is decided by the piece before it. Comments, and characters that fit nowhere, are
handed to the piece behind them. A comment can give orders: the text up to another comment can be
kept as it is.

* `Deminify.Rules.Layout.pieceAt` – the piece at the start of a text;
* `Deminify.Rules.Layout.itemsOf` – **cuts a text into pieces**.
-/

namespace Deminify.Rules.Layout

/-! ### Texts -/

/-- Whether a character separates pieces within a line. -/
def isGap (c : Char) : Bool := Token.isGap c && c != '\x0b' && c != '\x0c'

/-- The text with every line end written in one way. -/
def plainLineEnds : List Char → List Char
  | [] => []
  | '\r' :: '\n' :: rest => '\n' :: plainLineEnds rest
  | c :: rest => (if Token.isLineEnd c then '\n' else c) :: plainLineEnds rest

/-- The number of characters up to the end of the line, which is included. -/
def lineLength : List Char → Nat
  | [] => 0
  | '\r' :: '\n' :: _ => 2
  | c :: rest => if Token.isLineEnd c then 1 else 1 + lineLength rest

/-- The number of characters of a quoted text behind its opening mark. It ends at the mark or before
a line end. -/
def quotedLength (mark : Char) : List Char → Nat
  | [] => 0
  | '\\' :: '\r' :: '\n' :: rest => 3 + quotedLength mark rest
  | '\\' :: _ :: rest => 2 + quotedLength mark rest
  | c :: rest =>
    if c == mark then 1 else if Token.isLineEnd c then 0 else 1 + quotedLength mark rest

/-- The number of characters of a template behind its opening mark. The list says of what is open,
innermost first, whether it is a template or the inside of one. -/
def templateLength : List Bool → List Char → Nat
  | _, [] => 0
  | open_, '\\' :: _ :: rest => 2 + templateLength open_ rest
  | true :: outer, '$' :: '\x7b' :: rest => 2 + templateLength (false :: true :: outer) rest
  | true :: outer, c :: rest =>
    if c == '\x60' then
      if outer.isEmpty then 1 else 1 + templateLength outer rest
    else 1 + templateLength (true :: outer) rest
  | false :: outer, c :: rest =>
    if c == '\x7d' then 1 + templateLength outer rest
    else if c == '\x60' then 1 + templateLength (true :: false :: outer) rest
    else 1 + templateLength (false :: outer) rest
  | [], _ :: _ => 0

/-- The number of characters of a regular expression behind its opening slash. -/
def patternLength : Bool → List Char → Nat
  | _, [] => 0
  | inClass, '\\' :: c :: rest =>
    if Token.isLineEnd c then 1 else 2 + patternLength inClass rest
  | inClass, c :: rest =>
    if Token.isLineEnd c then 0
    else if c == '/' && !inClass then 1 + wordLength rest
    else 1 + patternLength (c == '[' || (inClass && c != ']')) rest

/-- The number of characters of a block comment behind its opening. -/
def blockLength : List Char → Nat
  | [] => 0
  | '*' :: '/' :: _ => 2
  | _ :: rest => 1 + blockLength rest

/-! ### Orders -/

/-- Whether a text is a word. -/
def isOrderWord (s : String) : Bool := !s.isEmpty && s.toList.all Text.isWord

/-- The order that a text gives: a name and a value. -/
def order? (s : String) : Option (String × String) :=
  match s.splitOn ":" with
  | [name, value] => if isOrderWord name && isOrderWord value then some (name, value) else none
  | _ => none

/-- The orders that a comment gives, the last one first. -/
def ordersOf (comment : String) : List (String × String) :=
  match comment.splitOn " " with
  | "/*" :: "beautify" :: words =>
    if words.getLast? == some "*/" then ((words.dropLast.mapM order?).getD []).reverse else []
  | _ => []

/-- The number of characters of the comment at the start that ends an ignored stretch. -/
def ignoreEndLength (cs : List Char) : Nat :=
  let after (word : String) (cs : List Char) : Option (List Char) :=
    if word.toList.isPrefixOf cs then some (cs.drop word.length) else none
  let blank : List Char → Option (List Char)
    | c :: rest => if Text.isBlank c then some rest else none
    | [] => none
  let rest := do
    let rest ← blank (← after "/*" cs)
    let rest ← blank (← after "beautify" rest)
    after "*/" (← blank (← after "ignore:end" rest))
  match rest with
  | some rest => cs.length - rest.length
  | none => 0

/-- The number of characters of an ignored stretch. -/
def ignoredLength : List Char → Nat
  | [] => 0
  | c :: cs =>
    let stop := ignoreEndLength (c :: cs)
    if stop > 0 then stop else 1 + ignoredLength cs

/-! ### Pieces -/

/-- What is known while cutting: the last piece that is no comment; the brackets that are open, each
with the piece before it; the piece before the bracket that the last piece closes; the comments not
yet placed; and whether a comment in the manner of a page is open. -/
structure Cutting where
  before : Piece := {}
  open_ : List (String × Piece) := []
  opener : Option Piece := none
  comments : List Piece := []
  inPage : Bool := false

/-- Whether nothing but comments was met. -/
def Cutting.isFirst (c : Cutting) : Bool := c.before.kind == .start

/-- What is cut off: characters that say nothing, and a piece. -/
structure Slice where
  lost : Nat := 0
  kind : PieceKind
  length : Nat
  /-- The text of the piece, if it is not what was cut off. -/
  text : Option String := none
  orders : List (String × String) := []
  inPage : Bool := false

/-- Whether a regular expression or an element may follow the last piece. That a closing bracket has
an opening one is taken for granted. -/
def Cutting.awaitsOperand (c : Cutting) : Except Failure Bool :=
  match c.before.kind with
  | .keyword =>
    .ok (["return", "case", "throw", "else", "do", "typeof", "yield"].contains c.before.text)
  | .closeBracket =>
    if c.before.text != ")" then .ok false
    else
      match c.opener with
      | some p => .ok (p.isOneOf ["if", "while", "for"])
      | none => .error (.lacks "NoneType" "previous")
  | .openBracket | .openBrace | .start | .closeBrace | .operator | .equals | .semicolon
  | .comma => .ok true
  | _ => .ok false

/-- The kind of a word behind a piece. -/
def wordKind (before : Piece) (word : String) : PieceKind :=
  if before.kind == .dot || before.isOneOf ["set", "get"] || !keywords.contains word then .word
  else if (word == "in" || word == "of") && (before.kind == .word || before.kind == .text) then
    .operator
  else .keyword

/-- The operator at the start: its kind and its length. -/
def operatorAt? (cs : List Char) : Option (PieceKind × Nat) :=
  match cs with
  | '?' :: '.' :: rest =>
    if (rest.head?.map Text.isDecimal).getD false then some (.operator, 1) else some (.dot, 2)
  | _ =>
    (operators.find? fun o => o.toList.isPrefixOf cs).map fun o =>
      (if o == "=" then .equals else .operator, o.length)

/-- The kind of a piece that one character decides. -/
def singleAt? : List Char → Option PieceKind
  | '(' :: _ | '[' :: _ => some .openBracket
  | ')' :: _ | ']' :: _ => some .closeBracket
  | '\x7b' :: _ => some .openBrace
  | '\x7d' :: _ => some .closeBrace
  | ';' :: _ => some .semicolon
  | ',' :: _ => some .comma
  | '.' :: c :: _ => if Text.isDecimal c || c == '.' then none else some .dot
  | _ => none

/-- The number of characters up to the sharp or the equals sign that ends a mark, which is
included. -/
def sharpLength : List Char → Nat
  | [] => 0
  | c :: rest => if c == '#' || c == '=' then 1 else 1 + sharpLength rest

/-- What starts with a sharp: a line for the system or for another tool, a mark by number, or a
block. -/
def sharpAt? (c : Cutting) (cs : List Char) : Option Slice :=
  let line := lineLength cs
  let wholeLine : Slice :=
    { kind := .other, length := line, text := some (Text.strip (String.ofList (cs.take line)) ++ "\n") }
  match cs with
  | '#' :: rest =>
    if (c.isFirst && rest.head? == some '!') || "include".toList.isPrefixOf rest then some wholeLine
    else if (rest.head?.map Char.isDigit).getD false then
      let n := sharpLength rest
      let isEmpty := (rest.take n).getLast? != some '#' &&
        ["[]", "\x7b\x7d"].contains (String.ofList ((rest.drop n).take 2))
      some { kind := .word, length := n + if isEmpty then 3 else 1 }
    else if rest.head? == some '\x7b' then some { kind := .openBrace, length := 2 }
    else none
  | _ => none

/-- A comment in the manner of a page, which only starts a text. -/
def pageCommentAt? (c : Cutting) (cs : List Char) : Option Slice :=
  if c.isFirst && "<!--".toList.isPrefixOf cs then
    some { kind := .lineComment, length := runLength (!Token.isLineEnd ·) cs, inPage := true }
  else if c.inPage && "-->".toList.isPrefixOf cs then some { kind := .lineComment, length := 3 }
  else none

/-- The comment at the start. -/
def commentAt? : List Char → Option Slice
  | '/' :: '*' :: rest =>
    let length := 2 + blockLength rest
    let orders := ordersOf (String.ofList (('/' :: '*' :: rest).take length))
    let ignored := if orders.lookup "ignore" == some "start" then
      ignoredLength (('/' :: '*' :: rest).drop length) else 0
    some { kind := .blockComment, length := length + ignored, orders }
  | '/' :: '/' :: rest =>
    some { kind := .lineComment, length := 2 + runLength (!Token.isLineEnd ·) rest }
  | _ => none

/-- The quoted text at the start. -/
def quoteAt? : List Char → Option Slice
  | '\x60' :: rest => some { kind := .text, length := 1 + templateLength [true] rest }
  | '"' :: rest => some { kind := .text, length := 1 + quotedLength '"' rest }
  | '\x27' :: rest => some { kind := .text, length := 1 + quotedLength '\x27' rest }
  | _ => none

/-- The word or number at the start. -/
def wordAt? (before : Piece) (cs : List Char) : Option Slice :=
  let word := wordLength cs
  let number := numberLength cs
  if word > 0 then some { kind := wordKind before (String.ofList (cs.take word)), length := word }
  else if number > 0 then some { kind := .word, length := number }
  else none

/-- The operator at the start, or one character. -/
def markAt (lost : Nat) (cs : List Char) : Except Failure Slice :=
  match operatorAt? cs, cs with
  | some (kind, length), _ => .ok { lost, kind, length }
  | none, _ :: _ => .ok { lost, kind := .other, length := 1 }
  | none, [] => .error (.lacks "NoneType" "rfind")

/-- The regular expression, the element or the operator at the start. What ends with a closing tag
is lost. -/
def operandAt (c : Cutting) (cs : List Char) : Except Failure Slice := do
  match cs with
  | '/' :: rest =>
    if ← c.awaitsOperand then return { kind := .text, length := 1 + patternLength false rest }
    else markAt 0 cs
  | '<' :: _ =>
    if ← c.awaitsOperand then
      match ← elementAt cs with
      | .element length => return { kind := .text, length }
      | .closed length => markAt length (cs.drop length)
      | .none => markAt 0 cs
    else markAt 0 cs
  | _ => markAt 0 cs

/-- What is cut off at the start of a text. -/
def pieceAt (c : Cutting) (cs : List Char) : Except Failure Slice :=
  let simple := ((sharpAt? c cs).or (pageCommentAt? c cs)).or ((quoteAt? cs).or (wordAt? c.before cs))
  let single := (singleAt? cs).map fun kind => { kind, length := 1 : Slice }
  match simple.or (single.or (commentAt? cs)) with
  | some slice => .ok slice
  | none => operandAt c cs

/-- What is known behind a piece. -/
def Cutting.passed (c : Cutting) (p : Piece) : Cutting :=
  let c := { c with comments := [] }
  match p.kind with
  | .openBracket | .openBrace =>
    { c with before := p, open_ := (p.text, c.before) :: c.open_, opener := none }
  | .closeBracket | .closeBrace =>
    match c.open_ with
    | (bracket, before) :: rest =>
      if ["()", "[]", "\x7b\x7d"].contains (bracket ++ p.text) then
        { c with before := p, open_ := rest, opener := some before }
      else { c with before := p, opener := none }
    | [] => { c with before := p, opener := none }
  | _ => { c with before := p }

/-- Whether a piece counts as a comment. -/
def PieceKind.isComment (k : PieceKind) : Bool :=
  k == .lineComment || k == .blockComment || k == .other

/-- Cuts characters into pieces, as far as `fuel` goes. -/
def cut : Nat → Cutting → List Char → Except Failure (List Item)
  | 0, _, _ => .ok []
  | fuel + 1, c, cs => do
    let gap := plainLineEnds (cs.takeWhile fun x => isGap x || Token.isLineEnd x)
    let rest := cs.dropWhile fun x => isGap x || Token.isLineEnd x
    let newlines := gap.count '\n'
    let blanks := String.ofList (gap.reverse.takeWhile (· != '\n')).reverse
    if rest.isEmpty then return [{ kind := .stop, newlines, blanks, comments := c.comments }]
    else
      let slice ← pieceAt c rest
      let written := plainLineEnds ((rest.drop slice.lost).take slice.length)
      let text := slice.text.getD (String.ofList written)
      let piece : Piece := { kind := slice.kind, text, newlines, blanks, orders := slice.orders }
      let after := rest.drop (slice.lost + slice.length)
      let inPage := slice.inPage || (c.inPage && text != "-->")
      if slice.kind.isComment then cut fuel { c with comments := c.comments ++ [piece], inPage } after
      else
        return { piece with comments := c.comments } :: (← cut fuel { c.passed piece with inPage } after)

/-- Cuts a text into pieces, of which the last one is its end. Every piece takes a character at
least. -/
def itemsOf (cs : List Char) : Except Failure (List Item) := cut (cs.length + 1) {} cs

end Deminify.Rules.Layout
