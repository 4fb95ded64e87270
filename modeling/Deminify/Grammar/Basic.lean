import Deminify.Token.Lexer

/-!
# Reading a program, one token ahead

The grammar reads with one token of lookahead. A few settings travel along: whether the code is
strict, whether `in`, `yield` and `await` have their special meaning, the labels and loops around,
and what the expression just read could still turn into – a target of an assignment, or the
parameters of an arrow function.

* `Deminify.Setting`, `Deminify.Reading` – the state;
* `Deminify.Grammar` – reading, which may fail with a `Deminify.SyntaxError`;
* `Deminify.Nonterminal`, `Deminify.Rules` – the nonterminals at which the grammar refers back to
  itself. Every rule is given the rules one level below it, so that nesting bounds recursion;
* `Deminify.Grammar.isolate`, `Deminify.Grammar.inherit` – reading an operand whose further uses do
  not concern the expression around it, or do.
-/

namespace Deminify

/-- A place in the text. -/
structure Marker where
  index : Nat
  line : Nat
  column : Int
  deriving Repr, Inhabited

/-- The place where a cursor stands. -/
def Cursor.marker (c : Cursor) : Marker := ⟨c.index, c.line, (c.index : Int) - c.lineStart⟩

/-- What surrounds the point that reading has reached. -/
structure Setting where
  isModule : Bool := false
  strict : Bool := false
  allowAwait : Bool := false
  allowIn : Bool := true
  allowYield : Bool := true
  allowStrictDirective : Bool := true
  inFunctionBody : Bool := false
  inIteration : Bool := false
  inSwitch : Bool := false
  labels : List String := []
  /-- Whether the expression just read may be assigned to. -/
  isTarget : Bool := false
  /-- Whether the expression just read may be a parameter. -/
  isBinding : Bool := false
  /-- The first token that only a pattern could have. -/
  patternOnly : Option Token := none

/-- How far reading has come. -/
structure Reading where
  cursor : Cursor
  /-- The token ahead. -/
  ahead : Token
  /-- Whether a line ends before the token ahead. -/
  afterLineEnd : Bool
  /-- Where the last token taken ends. -/
  last : Marker
  /-- Where the token ahead starts. -/
  start : Marker
  setting : Setting
  comments : Array Comment
  /-- The names bound by the patterns read so far. -/
  bound : Array Token

/-- Reading a program. -/
abbrev Grammar := ReaderT Source (StateT Reading (Except SyntaxError))

/-- The nonterminals at which the grammar refers back to itself. -/
inductive Nonterminal where
  | assignment
  | exponent
  | unary
  | call
  | callee
  | pattern (kind : String)
  | statement
  | item
  | element

/-- The rules of the nonterminals. -/
abbrev Rules := Nonterminal → Grammar Tree

namespace Grammar

/-! ### Errors -/

/-- The error at the end of the last token. -/
def fail {α : Type} (message : String) : Grammar α := do
  let m := (← get).last
  throw (SyntaxError.positioned m.line (m.column + 1) message)

/-- The error at the end of the last token, on the line that reading has reached. -/
def failHere {α : Type} (message : String) : Grammar α := do
  let s ← get
  throw (SyntaxError.positioned s.cursor.line (s.last.column + 1) message)

/-- The error at a token. -/
def failAt {α : Type} (token : Token) (message : String) : Grammar α := do
  let m := (← get).last
  let lineStart := (m.index : Int) - m.column
  throw (SyntaxError.positioned token.line (token.start - lineStart + 1) message)

/-- An error that names no place. -/
def failNowhere {α : Type} (message : String) : Grammar α := throw (SyntaxError.unpositioned message)

/-- What is said of a token that does not belong where it stands. -/
def unexpectedMessage (strict : Bool) (token : Token) : String :=
  match token.type with
  | .stop => "Unexpected end of input"
  | .name => "Unexpected identifier"
  | .number => "Unexpected number"
  | .string => "Unexpected string"
  | .template => s!"Unexpected quasi {token.value}"
  | .keyword =>
    if Token.isFutureReserved token.value then "Unexpected reserved word"
    else if strict && Token.isStrictReserved token.value then
      "Use of future reserved word in strict mode"
    else s!"Unexpected token {token.value}"
  | _ => s!"Unexpected token {token.value}"

/-- The error of a token that does not belong where it stands. -/
def unexpected {α : Type} (token : Token) : Grammar α := do
  failAt token (unexpectedMessage (← get).setting.strict token)

/-- The token ahead does not belong here. -/
def unexpectedAhead {α : Type} : Grammar α := do unexpected (← get).ahead

/-! ### Taking tokens -/

/-- Runs a scanner at the cursor. -/
def scanning {α : Type} (scan : Scan α) : Grammar α := do
  let s ← get
  match scan.run s.cursor with
  | .ok (a, cursor) =>
    set { s with cursor }
    return a
  | .error e => throw e

/-- Moves to the next token and keeps the comments on the way. -/
def skipGaps : Grammar Unit := do
  let script := !(← get).setting.isModule
  let comments ← scanning (Token.skipGaps (← read) script)
  unless comments.isEmpty do modify fun s => { s with comments := s.comments ++ comments.toArray }

/-- In strict code more words are keywords. -/
def asInStrict (strict : Bool) (token : Token) : Token :=
  if strict && token.type == .name && Token.isStrictReserved token.value then
    { token with type := .keyword }
  else token

/-- Takes the token ahead. -/
def next : Grammar Token := do
  modify fun s => { s with last := s.cursor.marker }
  skipGaps
  modify fun s => { s with start := s.cursor.marker }
  let token ← scanning (Token.scan (← read))
  let before := (← get).ahead
  modify fun s => { s with
    ahead := asInStrict s.setting.strict token
    afterLineEnd := before.line != token.line }
  return before

/-- Takes the token ahead without looking at it. -/
def skip : Grammar Unit := do discard next

/-- The token after the one ahead, which is read again later; the braces it opens stay open. -/
def peek : Grammar Token := do
  let c := (← get).cursor
  let script := !(← get).setting.isModule
  discard (scanning (Token.skipGaps (← read) script))
  let token ← scanning (Token.scan (← read))
  modify fun s => { s with
    cursor := { s.cursor with index := c.index, line := c.line, lineStart := c.lineStart } }
  return token

/-- Whether the token ahead is the given punctuator. -/
def sees (punctuator : String) : Grammar Bool := do
  let t := (← get).ahead
  return t.type == .punctuator && t.value == punctuator

/-- Whether the token ahead is one of the given punctuators. -/
def seesOneOf (punctuators : List String) : Grammar Bool := do
  let t := (← get).ahead
  return t.type == .punctuator && punctuators.contains t.value

/-- Whether the token ahead is the given keyword. -/
def seesKeyword (keyword : String) : Grammar Bool := do
  let t := (← get).ahead
  return t.type == .keyword && t.value == keyword

/-- Whether the token ahead is the given name. -/
def seesName (name : String) : Grammar Bool := do
  let t := (← get).ahead
  return t.type == .name && t.value == name

/-- Whether the token ahead is of the given sort. -/
def seesType (type : TokenType) : Grammar Bool := return (← get).ahead.type == type

/-- Takes the given punctuator, which must be ahead. -/
def expect (punctuator : String) : Grammar Unit := do
  let t ← next
  if t.type != .punctuator || t.value != punctuator then unexpected t

/-- Takes the given keyword, which must be ahead. -/
def expectKeyword (keyword : String) : Grammar Unit := do
  let t ← next
  if t.type != .keyword || t.value != keyword then unexpected t

/-- Takes the given punctuator if it is ahead. -/
def accept (punctuator : String) : Grammar Bool := do
  if ← sees punctuator then
    skip
    return true
  else return false

/-- Ends a statement: by a semicolon, or before a line end, a closing brace or the end. -/
def endStatement : Grammar Unit := do
  if ← sees ";" then skip
  else
    let s ← get
    unless s.afterLineEnd do
      unless s.ahead.type == .stop || (← sees "\x7d") do unexpectedAhead
      modify fun s => { s with last := s.start }

/-! ### Nodes -/

/-- The offset at which the token ahead starts. -/
def here : Grammar Nat := return (← get).start.index

/-- The node that starts at the offset and ends with the last token. -/
def finish (start : Nat) (kind : String) (fields : List (String × Tree)) : Grammar Tree := do
  let stop := (← get).last.index
  return .obj 0 (("type", .str kind) :: fields ++ [("range", Tree.list [.int start, .int stop])])

/-- The name in a token, from the offset to the last token. -/
def nameNode (start : Nat) (name : String) : Grammar Tree :=
  finish start "Identifier" [("name", .str name)]

/-- The text of a token as it is written. -/
def written (token : Token) : Grammar String := return (← read).slice token.start token.stop

/-- The value of a literal. -/
def literalValue (token : Token) : Tree :=
  match token.type with
  | .number => Tree.ofNumber token.number
  | .truth => .bool (token.value == "true")
  | .string => .str token.value
  | _ => .null

/-- The literal in a token. -/
def literalNode (start : Nat) (token : Token) : Grammar Tree := do
  finish start "Literal" [("value", literalValue token), ("raw", .str (← written token))]

/-! ### The setting -/

/-- Changes the setting. -/
def adjust (f : Setting → Setting) : Grammar Unit := modify fun s => { s with setting := f s.setting }

/-- The setting. -/
def setting : Grammar Setting := return (← get).setting

/-- The expression just read is neither a target nor a parameter. -/
def plainValue : Grammar Unit := adjust fun s => { s with isTarget := false, isBinding := false }

/-- The expression just read is a target, but no parameter. -/
def memberValue : Grammar Unit := adjust fun s => { s with isTarget := true, isBinding := false }

/-- Reads with `in` as an operator, or not. -/
def withIn {α : Type} (allowed : Bool) (act : Grammar α) : Grammar α := do
  let before := (← setting).allowIn
  adjust fun s => { s with allowIn := allowed }
  let a ← act
  adjust fun s => { s with allowIn := before }
  return a

/-- Reads an operand on its own: a part that only a pattern could have is an error, and what the
operand may turn into does not matter to what surrounds it. -/
def isolate {α : Type} (act : Grammar α) : Grammar α := do
  let before ← setting
  adjust fun s => { s with isTarget := true, isBinding := true, patternOnly := none }
  let a ← act
  if let some token := (← setting).patternOnly then unexpected token
  adjust fun s => { s with
    isTarget := before.isTarget, isBinding := before.isBinding, patternOnly := before.patternOnly }
  return a

/-- Reads an operand as a part of what surrounds it, which can be a target or a parameter only if
the operand can. -/
def inherit {α : Type} (act : Grammar α) : Grammar α := do
  let before ← setting
  adjust fun s => { s with isTarget := true, isBinding := true, patternOnly := none }
  let a ← act
  adjust fun s => { s with
    isTarget := s.isTarget && before.isTarget
    isBinding := s.isBinding && before.isBinding
    patternOnly := before.patternOnly.or s.patternOnly }
  return a

/-! ### Repetition -/

/-- Reads items until there is none, adding them to those found; `fuel` bounds their number. -/
def repeated {α : Type} (item : Grammar (Option α)) : Nat → Array α → Grammar (Array α)
  | 0, _ => throw SyntaxError.tooDeep
  | fuel + 1, found => do
    match ← item with
    | some a => repeated item fuel (found.push a)
    | none => return found

/-- Reads items until there is none. Each takes some text, so there are no more items than
characters. -/
def many {α : Type} (item : Grammar (Option α)) : Grammar (List α) := do
  return (← repeated item ((← read).size + 2) #[]).toList

/-- Reads items up to a closing punctuator, which is left ahead. -/
def manyUntil {α : Type} (close : String) (item : Grammar α) : Grammar (List α) :=
  many do
    if ← sees close then return none
    return some (← item)

/-- Reads items separated by commas up to a closing punctuator, which is left ahead; a comma may
come last. -/
def separatedUntil {α : Type} (close : String) (item : Grammar α) : Grammar (List α) :=
  manyUntil close do
    let a ← item
    unless ← sees close do expect ","
    return a

/-- Reads the items that follow the first, each behind a comma. -/
def manyAfterComma {α : Type} (item : Grammar α) : Grammar (List α) :=
  many do
    if ← accept "," then return some (← item) else return none

/-! ### Expressions with commas -/

/-- The node of expressions with commas between them. -/
def sequenceNode (start : Nat) (expressions : List Tree) : Grammar Tree :=
  finish start "SequenceExpression" [("expressions", .list expressions)]

/-- Reads an expression: assignments separated by commas. -/
def expression (go : Rules) : Grammar Tree := do
  let start := (← get).ahead.start
  let first ← isolate (go .assignment)
  if ← sees "," then
    let rest ← manyAfterComma (isolate (go .assignment))
    sequenceNode start (first :: rest)
  else return first

end Grammar

end Deminify
