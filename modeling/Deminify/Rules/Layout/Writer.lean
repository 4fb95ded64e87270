import Deminify.Rules.Layout.Frame
import Deminify.Rules.Layout.Packed

/-!
# Writing the pieces of a layout

Each kind of piece has its own way of standing on the page: what opens a frame, where a line ends,
where a blank is due. What starts a statement of its own opens a frame for it, one level further in;
the level goes again if the statement stays on its line.

* `Deminify.Rules.Layout.startsStatement` – **whether a piece starts a statement inside the frame**;
* `Deminify.Rules.Layout.writePiece` – writes a piece;
* `Deminify.Rules.Layout.layOut` – lays out a whole text.
-/

namespace Deminify.Rules.Layout

/-- The keywords that a line end ends. -/
def restrictedWords : List String := ["async", "break", "continue", "return", "throw", "yield"]

/-- The keywords after which no line is started. -/
def bindingWords : List String :=
  ["case", "return", "do", "if", "throw", "else", "await", "break", "continue", "async"]

/-- The keywords of declarations. -/
def declarationWords : List String := ["var", "let", "const"]

/-- Whether the frame waits for the value of a property. -/
def awaitsValue : Work Bool := do
  let f ← frame
  let outer ← parent
  return outer.mode == .object && f.mode == .statement &&
    ((f.last.text == ":" && f.conditionals == 0) || f.last.isOneOf ["get", "set"])

/-- Whether a piece starts a statement of its own inside the frame. -/
def startsStatement (d : Desk) (item : Item) : Bool :=
  let f := d.frame
  let outer := d.outer.head?.getD {}
  (f.last.isOneOf declarationWords && item.kind == .word) ||
  f.last.isOneOf ["do"] ||
  (!(outer.mode == .object && f.mode == .statement) && f.last.isOneOf restrictedWords &&
    item.newlines == 0) ||
  (f.last.isOneOf ["else"] && !(item.isOneOf ["if"] && item.comments.isEmpty)) ||
  (f.last.kind == .closeBracket &&
    (d.previous.mode == .loopHead || d.previous.mode == .condition)) ||
  (f.last.kind == .word && f.mode == .block && !f.inCase &&
    !(item.text == "--" || item.text == "++") && d.textBeforeLast != "function" &&
    item.kind != .word && item.kind != .keyword) ||
  (f.mode == .object &&
    ((f.last.text == ":" && f.conditionals == 0) || f.last.isOneOf ["get", "set"]))

/-- Opens a statement if the piece starts one, and says whether it does. -/
def openStatement (item : Item) : Work Bool := do
  if startsStatement (← get) item then
    enter .statement
    indent
    lead item true
    if !(← awaitsValue) then
      keepNewline item.toPiece (item.isOneOf ["do", "for", "if", "while"])
    return true
  else return false

/-- Opens a statement if the piece starts one; else only what stands before the piece is written. -/
def openOrLead (item : Item) (within : Bool) : Work Unit := do
  if !(← openStatement item) then lead item within

/-! ### Brackets -/

/-- Whether the last piece is the star of a generator. -/
def behindStar (d : Desk) : Bool :=
  d.frame.last.text == "*" &&
    (["function", "yield"].contains d.textBeforeLast ||
      (d.frame.mode == .object && ["\x7b", ","].contains d.textBeforeLast))

/-- Sets the blank before a round bracket, and gives the frame that it opens. -/
def beforeParenthesis (item : Item) : Work Mode := do
  let d ← get
  let last := d.frame.last
  let mut mode : Mode := .group
  match last.kind with
  | .keyword =>
    if last.text == "for" then
      blank true
      mode := .loopHead
    else if ["if", "while", "switch"].contains last.text then
      blank true
      mode := .condition
    else if ["await", "async"].contains d.frame.lastWord then blank true
    else if last.text == "import" && item.blanks.isEmpty then blank false
    else if lineStarters.contains last.text || last.text == "catch" then blank true
  | .equals | .operator => if !(← awaitsValue) then keepNewline item.toPiece false
  | .word => blank false
  | _ => keepNewline item.toPiece false
  if (last.kind == .keyword && ["function", "typeof"].contains d.frame.lastWord) || behindStar d then
    blank false
  return mode

/-- Sets the blank before a square bracket of an array. -/
def beforeArray : Work Unit := do
  let d ← get
  let last := d.frame.last
  if d.frame.mode == .array &&
      (last.text == "[" || (last.text == "," && ["]", "\x7d"].contains d.textBeforeLast)) then
    newline false false
  let kind := (← frame).last.kind
  if !([.openBracket, .closeBracket, .word, .operator, .dot].contains kind) then blank true

/-- Writes an opening bracket. -/
def writeOpenBracket (item : Item) : Work Unit := do
  openOrLead item false
  let last := (← frame).last
  if item.text == "[" && (last.kind == .word || last.text == ")") then
    put item.text
    enter .group
    indent
  else
    let mode ←
      if item.text == "[" then do beforeArray; pure Mode.array else beforeParenthesis item
    let last := (← frame).last
    if last.text == ";" || last.kind == .openBrace then newline false false
    else if [.closeBracket, .openBracket, .closeBrace, .comma].contains last.kind ||
        last.text == "." then
      keepNewline item.toPiece false
    put item.text
    enter mode
    indent

/-- Writes a closing bracket. -/
def writeCloseBracket (item : Item) : Work Unit := do
  closeStatements fun _ => false
  lead item false
  let f ← frame
  if f.multiline then keepNewline item.toPiece (item.text == "]" && f.mode == .array)
  outdent
  put item.text
  leave
  let closed := (← get).previous
  onPage closed.release
  if (← frame).doWhile && closed.mode == .condition then
    modify fun d => { d with previous := { d.previous with mode := .group } }
    onFrame fun f => { f with doBlock := false, doWhile := false }

/-! ### Braces -/

/-- The frame that a brace opens behind a piece: an object where a value is due. -/
def braceModeBehind (last : Piece) : Mode :=
  if last.kind == .operator && last.text == "=>" then .block
  else if [.equals, .openBracket, .comma, .operator].contains last.kind ||
      last.isOneOf ["return", "throw", "import", "default"] then .object
  else .block

/-- Whether the two pieces behind a brace look like the start of an object. -/
def startsObject (first second : Piece) : Bool :=
  let isName (p : Piece) : Bool := p.kind == .word || p.kind == .keyword
  ([":", ","].contains second.text && (first.kind == .text || isName first)) ||
    (["get", "set", "..."].contains first.text && isName second)

/-- The frame that a brace opens: an object where the pieces behind it look like one or where a value
is due. -/
def braceMode (d : Desk) : Mode :=
  let last := d.frame.last
  if (d.frame.lastWord == "switch" && last.kind == .closeBracket) || d.frame.caseBody then .block
  else
    match d.ahead with
    | first :: second :: _ =>
      if startsObject first.toPiece second.toPiece then
        if ["class", "interface"].contains d.textBeforeLast && !([":", ","].contains second.text) then
          .block
        else .object
      else braceModeBehind last
    | _ => braceModeBehind last

/-- Writes an opening brace. -/
def writeOpenBrace (item : Item) : Work Unit := do
  lead item false
  let d ← get
  enter (braceMode d)
  if d.frame.lastWord == "switch" && d.frame.last.kind == .closeBracket then
    onFrame fun f => { f with inSwitch := true }
  let last := (← frame).last
  let isEmpty := (d.ahead.head?.map fun n => n.comments.isEmpty && n.text == "\x7d").getD false
  if last.kind != .operator && last.kind != .openBracket then
    if last.kind == .openBrace || last.kind == .semicolon then newline false false else blank true
  put item.text
  indent
  if !isEmpty then newline false false

/-- Writes a closing brace. -/
def writeCloseBrace (item : Item) : Work Unit := do
  lead item false
  closeStatements fun _ => false
  if (← frame).last.kind != .openBrace then newline false false
  leave
  put item.text

/-! ### Words -/

/-- What stands between a word and the piece before it. -/
inductive Gap where
  | none
  | blank
  | newline
  deriving DecidableEq

/-- The word as what it is here: some keywords are plain names in some places. -/
def asName (item : Item) : Work Item := do
  let f ← frame
  let next := ((← next?).map fun n => n.text).getD ""
  let isName :=
    item.kind == .keyword &&
      if ["set", "get"].contains item.text && f.mode != .object then true
      else if item.text == "import" && ["(", "."].contains next then true
      else if ["as", "from"].contains item.text && !f.importBlock then true
      else f.mode == .object && next == ":"
  return if isName then { item with kind := .word } else item

/-- Opens a statement before a word, or ends the line where the text does. -/
def beforeWord (item : Item) : Work Unit := do
  let last := (← frame).last
  if ← openStatement item then
    if last.isOneOf declarationWords && item.kind == .word then
      onFrame fun f => { f with declares := true }
  else
    let f ← frame
    let ends := item.newlines > 0 && !f.mode.isExpression &&
      (f.last.kind != .operator || f.last.text == "--" || f.last.text == "++") &&
      f.last.kind != .equals
    lead item false
    if ends then newline false false

/-- Writes the word that starts a function: it stands below an empty line unless it is part of
something. -/
def writeFunction (item : Item) : Work Unit := do
  let f ← frame
  let p ← page
  if ["\x7d", ";"].contains f.last.text ||
      (p.atLineStart && !(["(", "[", "\x7b", ":", "=", ","].contains f.last.text ||
        f.last.kind == .operator)) then
    if !p.belowBlankLine && item.comments.isEmpty then
      newline false false
      newline true false
  let d ← get
  let f := d.frame
  if f.last.kind == .keyword || f.last.kind == .word then
    if f.last.isOneOf (["get", "set", "new", "export"] ++ restrictedWords) ||
        (f.last.isOneOf ["default"] && d.textBeforeLast == "export") || f.last.text == "declare" then
      blank true
    else newline false false
  else if f.last.kind == .operator || f.last.text == "=" then blank true
  else if !(!f.multiline && (f.mode.isExpression || f.mode == .array)) then newline false false
  put item.text
  onFrame fun f => { f with lastWord := item.text }

/-- The gap that the piece before a word asks for. -/
def gapBehind (d : Desk) (item : Item) : Gap :=
  let last := d.frame.last
  let gap : Gap :=
    match last.kind with
    | .closeBrace =>
      if item.isOneOf ["else", "catch", "finally", "from"] then .blank else .newline
    | .semicolon =>
      if d.frame.mode == .block then .newline
      else if d.frame.mode.isExpression then .blank
      else .none
    | .text => .newline
    | .keyword | .word => .blank
    | .openBrace => .newline
    | .closeBracket => .newline
    | _ => if behindStar d then .blank else .none
  if item.isOneOf lineStarters && last.text != ")" then
    if last.text == "else" || last.text == "export" then .blank else .newline
  else gap

/-- Makes the gap before a word. -/
def makeGap (item : Item) : Work Unit := do
  let d ← get
  let last := d.frame.last
  let gap := gapBehind d item
  if last.kind == .closeBrace && item.isOneOf ["else", "catch", "finally", "from"] then blank true
  if last.kind == .closeBracket then blank true
  if item.isOneOf ["else", "catch", "finally"] then
    if !(last.kind == .closeBrace && d.previous.mode == .block) then newline false false
    else
      onPage Page.trim
      if (← page).line.items.head? != some "\x7d" then newline false false
      blank true
  else if gap == .newline then
    if last.isOneOf bindingWords then blank true
    else if last.text == "declare" && item.isOneOf declarationWords then blank true
    else if last.kind != .closeBracket then
      if (last.kind != .openBracket || !item.isOneOf declarationWords) && last.text != ":" then
        if item.isOneOf ["if"] && d.behind.isOneOf ["else"] then blank true
        else newline false false
    else if item.isOneOf lineStarters && last.text != ")" then newline false false
  else if d.frame.multiline && d.frame.mode == .array && last.text == "," &&
      d.textBeforeLast == "\x7d" then
    newline false false
  else if gap == .blank then blank true
  if d.behind.kind == .word || d.behind.kind == .keyword then blank true

/-- Writes a word. -/
def writeWord (item : Item) : Work Unit := do
  beforeWord item
  let f ← frame
  if f.doBlock && !f.doWhile && item.isOneOf ["while"] then
    blank true
    put item.text
    blank true
    onFrame fun f => { f with doWhile := true }
  else
    if f.doBlock && !f.doWhile then
      newline false false
      onFrame fun f => { f with doBlock := false }
    if (← frame).ifBlock then
      if !(← frame).elseBlock && item.isOneOf ["else"] then
        onFrame fun f => { f with elseBlock := true }
      else
        closeStatements fun _ => false
        onFrame fun f => { f with ifBlock := false }
    let f ← frame
    if f.inSwitch && item.isOneOf ["case", "default"] then
      newline false false
      if !f.caseBlock && f.caseBody then outdent
      onFrame fun f => { f with caseBody := false }
      put item.text
      onFrame fun f => { f with inCase := true }
    else
      let d ← get
      if [.comma, .openBracket, .equals, .operator].contains d.frame.last.kind then
        let outer ← parent
        let signed := ["+", "-"].contains d.frame.last.text && d.textBeforeLast == ":" &&
          outer.mode == .object
        if !(← awaitsValue) && !signed then keepNewline item.toPiece false
      if item.isOneOf ["function"] then writeFunction item
      else
        makeGap item
        put item.text
        onFrame fun f => { f with lastWord := item.text }
        if item.isOneOf ["do"] then onFrame fun f => { f with doBlock := true }
        else if item.isOneOf ["if"] then onFrame fun f => { f with ifBlock := true }
        else if item.isOneOf ["import"] then onFrame fun f => { f with importBlock := true }
        else if item.isOneOf ["from"] then onFrame fun f => { f with importBlock := false }

/-! ### Marks -/

/-- Writes a semicolon. -/
def writeSemicolon (item : Item) : Work Unit := do
  if ← openStatement item then blank false else lead item false
  closeStatements (goesOn (← next?))
  onFrame fun f => { f with importBlock := false }
  put item.text

/-- Writes a quoted text, a template, a regular expression or an element. -/
def writeText (item : Item) : Work Unit := do
  let d ← get
  let template := item.text.startsWith "\x60"
  if template && item.newlines == 0 && item.blanks.isEmpty &&
      (d.behind.text == ")" || d.frame.last.kind == .word) then
    put item.text
  else
    if ← openStatement item then blank true
    else
      lead item false
      let last := (← frame).last
      if last.kind == .keyword || last.kind == .word then blank true
      else if [.comma, .openBracket, .equals, .operator].contains last.kind then
        if !(← awaitsValue) then keepNewline item.toPiece false
      else if template && last.kind == .closeBracket && ["]", ")"].contains d.behind.text &&
          item.newlines == 0 then
        blank true
      else newline false false
    put item.text

/-- Writes an equals sign. -/
def writeEquals (item : Item) : Work Unit := do
  openOrLead item false
  onFrame fun f => if f.declares then { f with assigns := true } else f
  blank true
  put item.text
  blank true

/-- Writes a comma: behind a name with a value, and behind a property, the line ends. -/
def writeComma (item : Item) : Work Unit := do
  lead item true
  put item.text
  blank true
  let f ← frame
  let outer ← parent
  if f.declares then
    if f.assigns then
      onFrame fun f => { f with assigns := false }
      if !outer.mode.isExpression then newline false true
  else if f.mode == .object || (f.mode == .statement && outer.mode == .object) then
    if f.mode == .statement then leave
    newline false false

/-- Writes a dot. -/
def writeDot (item : Item) : Work Unit := do
  openOrLead item true
  let last := (← frame).last
  if !last.text.isEmpty && last.text.toList.all Char.isDigit then blank true
  if last.isOneOf bindingWords then blank false else keepNewline item.toPiece false
  put item.text

/-! ### Operators -/

/-- Whether an operator is a sign before a number. -/
def isSign (f : Frame) (item : Item) : Bool :=
  ["+", "-"].contains item.text &&
    ([.openBrace, .openBracket, .equals, .operator].contains f.last.kind ||
      lineStarters.contains f.last.text || f.last.text == ",")

/-- Whether an operator is the star of a generator. -/
def isStar (f : Frame) (item : Item) : Bool :=
  item.text == "*" && (f.last.isOneOf ["function", "yield"] ||
    [.openBrace, .comma, .closeBrace, .semicolon].contains f.last.kind)

/-- Writes the colon behind a case. -/
def writeCaseColon (item : Item) : Work Unit := do
  put item.text
  onFrame fun f => { f with inCase := false, caseBody := true }
  if ((← next?).map fun n => n.kind == .openBrace).getD false then
    blank true
    onFrame fun f => { f with caseBlock := true }
  else
    indent
    newline false false
    onFrame fun f => { f with caseBlock := false }

/-- Writes an operator that stands before or behind its one operand. -/
def writeUnary (item : Item) : Work Unit := do
  let d ← get
  let last := d.frame.last
  let steps := ["--", "++"].contains item.text
  if last.kind == .comma || last.kind == .openBracket then keepNewline item.toPiece false
  if item.newlines > 0 && (steps || item.text == "~") then
    let needed := last.isOneOf bindingWords
    if needed && (d.previous.ifBlock || d.previous.elseBlock) then leave
    newline needed true
  let d ← get
  let last := d.frame.last
  let signs := ["--", "-", "++", "+"]
  let before :=
    match last.kind with
    | .keyword => true
    | .closeBracket => !(last.text == "]" && steps)
    | .operator => signs.contains item.text && signs.contains last.text
    | _ => last.text == ";" && d.frame.mode.isExpression
  let after :=
    last.kind == .operator && ["-", "+"].contains item.text && ["--", "++"].contains last.text
  if (d.frame.mode == .block || d.frame.mode == .statement) &&
      ["\x7b", ";"].contains last.text then
    newline false false
  if before then blank true
  put item.text
  blank after

/-- Writes an operator. -/
def writeOperator (item : Item) : Work Unit := do
  let start ← frame
  let star := isStar start item
  let sign := isSign start item
  openOrLead item !star
  let f ← frame
  if (item.text == "*" && f.last.kind == .dot) || item.text == "::" then put item.text
  else if ["-", "+"].contains item.text && (← awaitsValue) then put item.text
  else
    if f.last.kind == .operator then keepNewline item.toPiece false
    let f ← frame
    if item.text == ":" && f.inCase then writeCaseColon item
    else
      let closes := item.text == ":" && f.conditionals > 0
      if item.text == ":" then onFrame fun f => { f with conditionals := f.conditionals - 1 }
      else if item.text == "?" then onFrame fun f => { f with conditionals := f.conditionals + 1 }
      if !sign && !star && breakingOperators.contains item.text then
        blank (item.text != ":" || closes)
        put item.text
        if item.text != ":" || closes then keepNewline item.toPiece false
        blank true
      else if star then
        keepNewline item.toPiece false
        put item.text
        blank (((← next?).map fun n => n.kind == .word || n.kind == .keyword).getD false)
      else if item.text == "..." then
        keepNewline item.toPiece false
        if (← frame).last.kind == .openBrace then blank true
        put item.text
        blank false
      else if ["--", "++", "!", "~"].contains item.text || sign then writeUnary item
      else
        blank true
        put item.text
        blank true

/-! ### Whole texts -/

/-- Writes a piece. -/
def writePiece (item : Item) : Work Unit :=
  match item.kind with
  | .openBracket => writeOpenBracket item
  | .closeBracket => writeCloseBracket item
  | .openBrace => writeOpenBrace item
  | .closeBrace => writeCloseBrace item
  | .word | .keyword => writeWord item
  | .semicolon => writeSemicolon item
  | .text => writeText item
  | .equals => writeEquals item
  | .operator => writeOperator item
  | .comma => writeComma item
  | .dot => writeDot item
  | .stop => do
    closeStatements fun _ => false
    lead item false
  | _ => put item.text

/-- Writes pieces, one after the other. -/
def writeAll : List Item → Work Unit
  | [] => return
  | item :: rest => do
    modify fun d => { d with ahead := rest, inHand := item.toPiece }
    let item ← if item.kind == .keyword then asName item else pure item
    writePiece item
    modify fun d =>
      { d with
        textBeforeLast := d.frame.last.text
        frame := { d.frame with last := item.toPiece }
        behind := item.toPiece }
    writeAll rest

/-- The line end that a text uses: its first one. -/
def lineEndOf : List Char → String
  | [] => "\n"
  | '\r' :: '\n' :: _ => "\r\n"
  | c :: rest => if Token.isLineEnd c then String.singleton c else lineEndOf rest

/-- Lays out a text with so many blanks to a level. The blanks at its start indent every line. -/
def layOut (size : Nat) (text : String) : Except Failure String := do
  let cs := text.toList
  let base := String.ofList (cs.takeWhile fun c => c == ' ' || c == '\t')
  let items ← itemsOf (← unpacked text).toList
  let ((), desk) := (writeAll items).run {}
  let lines := desk.page.text base size
  let lineEnd := lineEndOf cs
  return if lineEnd == "\n" then lines else lines.replace "\n" lineEnd

end Deminify.Rules.Layout
