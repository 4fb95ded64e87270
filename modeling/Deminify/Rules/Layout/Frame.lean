import Deminify.Rules.Layout.Cut

/-!
# The frames of a layout

What is open while a text is laid out: blocks, statements, brackets, each a frame with its own
indentation and its own memory of the last piece. A closing frame that stayed on one line gives its
level back to the lines below it.

* `Deminify.Rules.Layout.Frame` – what is open;
* `Deminify.Rules.Layout.Desk` – the page, the frames and the pieces ahead;
* `Deminify.Rules.Layout.enter`, `Deminify.Rules.Layout.leave` – opening and closing a frame;
* `Deminify.Rules.Layout.newline`, `Deminify.Rules.Layout.put` – writing.
-/

namespace Deminify.Rules.Layout

/-!
## The page of a layout

The lines written so far. A line is indented by levels, which stay a number until the page is read
off: **a line may lose a level after it was written**, when it turns out that what surrounds it fits
on one line. Blanks at the end of a line and empty lines at the end of the page can be taken back.

* `Deminify.Rules.Layout.Line`, `Deminify.Rules.Layout.Page`;
* `Deminify.Rules.Layout.Page.newline`, `Deminify.Rules.Layout.Page.write`,
  `Deminify.Rules.Layout.Page.trim` – writing;
* `Deminify.Rules.Layout.Page.text` – the text of the page.
-/

/-- A line: the levels and the further columns by which it is indented, and its items, last one
first. A line without a level is not indented at all. -/
structure Line where
  level : Option Nat := some 0
  columns : Nat := 0
  items : List String := []
  deriving DecidableEq, Repr, Inhabited

/-- The page: the finished lines, last one first, the line in hand, the indentation of the next
one, whether a blank is due before the next item, and whether everything is written as it was. -/
structure Page where
  above : List Line := []
  line : Line := {}
  nextLevel : Nat := 0
  nextColumns : Nat := 0
  blankDue : Bool := false
  asIs : Bool := false
  deriving Repr, Inhabited

namespace Page

/-- Whether the line in hand is still empty. -/
def atLineStart (p : Page) : Bool := p.line.items.isEmpty

/-- Whether nothing is written yet. -/
def isEmpty (p : Page) : Bool := p.above.isEmpty && p.atLineStart

/-- Whether the line in hand and the one above it are empty. -/
def belowBlankLine (p : Page) : Bool :=
  p.isEmpty || (p.atLineStart && (p.above.head?.map (·.items.isEmpty)).getD false)

/-- The number of lines. -/
def size (p : Page) : Nat := p.above.length + 1

/-- Ends the line in hand. -/
def endLine (p : Page) : Page :=
  { p with above := p.line :: p.above, line := { level := some p.nextLevel, columns := p.nextColumns } }

/-- Whether a line may start here: a page never starts with an empty line, and after another line end
a forced one is needed. -/
def takesNewline (p : Page) (force : Bool) : Bool := !(p.isEmpty || (!force && p.atLineStart))

/-- Starts a line, unless that would leave one empty that is not asked for, or everything is written
as it was. -/
def newline (p : Page) (force : Bool) : Page :=
  if p.takesNewline force && !p.asIs then p.endLine else p

/-- Sets the indentation of the next line and, if nothing stands in it yet, of the line in hand. The
first line is never indented. -/
def indentBy (p : Page) (level columns : Nat) : Page :=
  let p := { p with nextLevel := level, nextColumns := columns }
  if !p.atLineStart then p
  else if p.above.isEmpty then { p with line := {} }
  else { p with line := { level := some level, columns } }

/-- Writes an item, after the blank that is due. -/
def write (p : Page) (item : String) : Page :=
  let before := if p.blankDue && !p.atLineStart then [" "] else []
  { p with line := { p.line with items := item :: (before ++ p.line.items) }, blankDue := false }

/-- Writes an item on a line that is not indented. -/
def writeRaw (p : Page) (item : String) : Page :=
  let line := if p.atLineStart then { p.line with level := none, columns := 0 } else p.line
  Page.write { p with line } item

/-- Writes an item as it was: behind so many line ends and those blanks. -/
def writeAsIs (p : Page) (newlines : Nat) (blanks item : String) : Page :=
  let p := (List.range newlines).foldl (fun p _ => p.endLine) p
  let line := if p.atLineStart then { p.line with level := none, columns := 0 } else p.line
  { p with line := { line with items := item :: blanks :: line.items }, blankDue := false }

/-- The line without blanks at its end. -/
def trimLine (l : Line) : Line := { l with items := l.items.dropWhile (· == " ") }

/-- The line in hand and those above it, without empty lines at the end. -/
def trimLines : Line → List Line → Line × List Line
  | line, [] => (trimLine line, [])
  | line, next :: above =>
    let line := trimLine line
    if line.items.isEmpty then trimLines next above else (line, next :: above)

/-- Takes back blanks and empty lines at the end. -/
def trim (p : Page) : Page :=
  let (line, above) := trimLines p.line p.above
  { p with line, above }

/-- The line with one level less. -/
def Line.outdented (l : Line) : Line := { l with level := l.level.map (· - 1) }

/-- Takes one level from every line from an index on. -/
def outdentFrom (p : Page) (index : Nat) : Page :=
  if p.size ≤ index then p
  else
    let count := p.size - 1 - index
    { p with
      line := Line.outdented p.line
      above := (p.above.take count).map Line.outdented ++ p.above.drop count }

/-- The text of a line: nothing if it has no items. -/
def lineText (base : String) (size : Nat) (l : Line) : String :=
  let blanks (n : Nat) : String := String.ofList (List.replicate n ' ')
  let indentation := match l.level with
    | some level => base ++ blanks (level * size + l.columns)
    | none => blanks l.columns
  if l.items.isEmpty then "" else indentation ++ String.join l.items.reverse

/-- The items of a line, last one first, without the line ends at the end of the last one. -/
def withoutLineEnds : List String → List String
  | last :: items =>
    String.ofList (last.toList.reverse.dropWhile (· == '\n')).reverse :: items
  | [] => []

/-- The text of the page, with a line end at its end. Every line is indented by `base`, and each
level takes `size` blanks. -/
def text (p : Page) (base : String) (size : Nat) : String :=
  let p := p.trim
  let line := { p.line with items := withoutLineEnds p.line.items }
  String.intercalate "\n" ((line :: p.above).reverse.map (lineText base size)) ++ "\n"

end Page

/-- What a frame is. -/
inductive Mode where
  | block
  | statement
  | object
  | array
  | loopHead
  | condition
  | group
  deriving DecidableEq, Repr, Inhabited

/-- Whether the frame is an expression between brackets. -/
def Mode.isExpression (m : Mode) : Bool := m == .loopHead || m == .condition || m == .group

/-- What is open, and what is known of it. -/
structure Frame where
  mode : Mode := .block
  /-- The last piece, and the last word. -/
  last : Piece := { kind := .openBrace }
  lastWord : String := ""
  /-- A declaration, and whether its last name has a value. -/
  declares : Bool := false
  assigns : Bool := false
  /-- A line has ended in the frame. -/
  multiline : Bool := false
  ifBlock : Bool := false
  elseBlock : Bool := false
  doBlock : Bool := false
  doWhile : Bool := false
  importBlock : Bool := false
  /-- Between a case and its colon; in the block of a switch; behind a colon. -/
  inCase : Bool := false
  inSwitch : Bool := false
  caseBody : Bool := false
  caseBlock : Bool := false
  level : Nat := 0
  columns : Nat := 0
  lineLevel : Nat := 0
  startLine : Nat := 0
  /-- The number of open conditional expressions. -/
  conditionals : Nat := 0
  deriving Inhabited

/-- What the work goes on with: the page, the frame in hand and those around it, the frame before the
last change, the text before the last piece, the piece in hand, the one before it and those ahead. -/
structure Desk where
  page : Page := {}
  frame : Frame := {}
  outer : List Frame := []
  previous : Frame := {}
  textBeforeLast : String := ""
  behind : Piece := {}
  inHand : Piece := {}
  ahead : List Item := []
  deriving Inhabited

/-- A step of the work. -/
abbrev Work := StateM Desk

/-- Changes the page. -/
def onPage (f : Page → Page) : Work Unit := modify fun d => { d with page := f d.page }

/-- Changes the frame in hand. -/
def onFrame (f : Frame → Frame) : Work Unit := modify fun d => { d with frame := f d.frame }

/-- The frame in hand. -/
def frame : Work Frame := return (← get).frame

/-- The page. -/
def page : Work Page := return (← get).page

/-- The frame around the one in hand. -/
def parent : Work Frame := return (← get).outer.head?.getD {}

/-- The next piece. -/
def next? : Work (Option Item) := return (← get).ahead.head?

/-- Sets whether a blank is due. -/
def blank (due : Bool) : Work Unit := onPage fun p => { p with blankDue := due }

/-- Hands the indentation of the frame to the page. -/
def settle : Work Unit := do
  let f ← frame
  onPage (·.indentBy f.level f.columns)

/-! ### Frames -/

/-- The frame inside another one; one that starts in the middle of a line is indented at least as
far as the line. -/
def Frame.inside (outer : Frame) (mode : Mode) (p : Page) : Frame where
  mode
  last := outer.last
  lastWord := outer.lastWord
  level := if p.atLineStart then outer.level else max outer.level outer.lineLevel
  startLine := p.size

/-- Opens a frame. -/
def enter (mode : Mode) : Work Unit := do
  modify fun d =>
    { d with frame := d.frame.inside mode d.page, outer := d.frame :: d.outer, previous := d.frame }
  settle

/-- The page after a frame has closed: a frame on one line needs no level of its own. -/
def Frame.release (f : Frame) (p : Page) : Page :=
  if f.multiline || f.mode == .loopHead || f.mode == .condition then p else p.outdentFrom f.startLine

/-- Closes the frame in hand. -/
def leave : Work Unit := do
  modify fun d =>
    match d.outer with
    | [] => d
    | f :: outer =>
      let page := if d.frame.mode == .statement then d.frame.release d.page else d.page
      { d with frame := f, outer, previous := d.frame, page }
  settle

/-- Closes statements, as many as `fuel` at most, while the frame in hand allows it. -/
def leaveStatements (keep : Frame → Bool) : Nat → Work Unit
  | 0 => return
  | fuel + 1 => do
    let f ← frame
    if f.mode == .statement && !keep f then
      leave
      leaveStatements keep fuel

/-- Closes the statements that end here. -/
def closeStatements (keep : Frame → Bool) : Work Unit := do
  leaveStatements keep (← get).outer.length

/-- Whether a statement goes on: a branch before the other one, or the body of a loop before its
condition. -/
def goesOn (next : Option Item) (f : Frame) : Bool :=
  (f.ifBlock && (next.map fun n => n.isOneOf ["else"]).getD false) || f.doBlock

/-- Indents by one level more. -/
def indent : Work Unit := do
  onFrame fun f => { f with level := f.level + 1 }
  settle

/-- Indents by one level less, but no less than the frame around. -/
def outdent : Work Unit := do
  let outer := (← get).outer.head?
  onFrame fun f =>
    if f.level > 0 && (outer.map fun o => decide (f.level > o.level)).getD true then
      { f with level := f.level - 1 }
    else f
  settle

/-! ### Writing -/

/-- Starts a line. Unless `within` holds, the statements that the line end ends are closed. -/
def newline (force within : Bool) : Work Unit := do
  let last := (← frame).last
  if !within then
    if !([";", ",", "="].contains last.text) &&
        (last.kind != .operator || last.text == "--" || last.text == "++") then
      closeStatements (goesOn (← next?))
  if (← page).takesNewline force then
    onPage (·.newline force)
    onFrame fun f => { f with multiline := true }

/-- Indents the line in hand if it is empty. -/
def startLine : Work Unit := do
  if (← page).atLineStart then
    let first := (← page).above.isEmpty
    settle
    if !first then onFrame fun f => { f with lineLevel := f.level }

/-- Writes a text; while everything is written as it was, it is the piece in hand. -/
def put (text : String) : Work Unit := do
  let piece := (← get).inHand
  if (← page).asIs then onPage (·.writeAsIs piece.newlines piece.blanks piece.text)
  else
    startLine
    onPage (·.write text)

/-- Starts a line where the text had one, or where it is forced. -/
def keepNewline (piece : Piece) (force : Bool) : Work Unit := do
  if !(← page).atLineStart && (piece.newlines > 0 || force) then newline false true

/-! ### Comments -/

/-- Ends as many lines before a piece as the text does, ten at most; a single line end is not
kept. -/
def keepBlankLines (piece : Piece) (within : Bool) : Work Unit := do
  let newlines := min piece.newlines 10
  if newlines > 1 then
    newline false within
    for _ in [1:newlines] do
      newline true within

/-- The first character that is no blank. -/
def firstMark (line : String) : Option Char := (line.toList.dropWhile Text.isBlank).head?

/-- Writes a further line of a comment: one that starts with a star is aligned below the first star,
one that is indented like the comment keeps its distance, any other stays as it is. -/
def commentLine (starred indented : Bool) (blanks : Nat) (line : String) : Work Unit := do
  let cs := line.toList
  if starred then put (String.ofList (cs.dropWhile Text.isBlank))
  else if indented && cs.length > blanks then put (String.ofList (cs.drop blanks))
  else onPage (·.writeRaw line)

/-- Writes a comment of several lines or on lines of its own. -/
def blockComment (piece : Piece) (within : Bool) : Work Unit := do
  let lines := piece.text.splitOn "\n"
  newline false within
  put (lines.head?.getD "")
  newline false within
  let further := lines.tail
  let starred := further.all fun l => firstMark l == some '*'
  let indented := further.all fun l => l.startsWith piece.blanks || (firstMark l).isNone
  if !further.isEmpty then
    if starred then onFrame fun f => { f with columns := 1 }
    for line in further do
      commentLine starred indented piece.blanks.length line
      newline false within
    onFrame fun f => { f with columns := 0 }

/-- Writes a comment that gives orders, and follows them. -/
def orderComment (piece : Piece) (within : Bool) : Work Unit := do
  newline false within
  put piece.text
  if piece.orders.lookup "preserve" == some "start" then onPage fun p => { p with asIs := true }
  newline false true

/-- Writes a comment. -/
def comment (piece : Piece) (within : Bool) : Work Unit := do
  match piece.kind with
  | .blockComment =>
    if (← page).asIs then
      put piece.text
      if piece.orders.lookup "preserve" == some "end" then onPage fun p => { p with asIs := false }
    else if !piece.orders.isEmpty then orderComment piece within
    else if piece.newlines == 0 && !piece.text.contains '\n' then
      blank true
      put piece.text
      blank true
    else blockComment piece within
  | .lineComment =>
    if piece.newlines > 0 then newline false within else onPage Page.trim
    blank true
    put piece.text
    newline false within
  | _ =>
    put piece.text
    if piece.text.endsWith "\n" then newline false within

/-- Takes a piece in hand. -/
def take (piece : Piece) : Work Unit := modify fun d => { d with inHand := piece }

/-- Writes the comments before a piece, and the empty lines. -/
def lead (item : Item) (within : Bool) : Work Unit := do
  for c in item.comments do
    keepBlankLines c within
    take c
    comment c within
  take item.toPiece
  keepBlankLines item.toPiece within

end Deminify.Rules.Layout
