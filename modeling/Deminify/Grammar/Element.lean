import Deminify.Grammar.Formals
import Deminify.Token.Tag

/-!
# Elements

An element is written between tags. Reading it leaves the token ahead alone and goes on from where
that token starts with tokens of its own; an expression between braces is read with ordinary tokens
again.

* `Deminify.Grammar.enterTags`, `Deminify.Grammar.leaveTags` – change between the two;
* `Deminify.Grammar.element` – an element with its children;
* `Deminify.Grammar.rootElement` – an element as an expression.
-/

namespace Deminify.Grammar

/-! ### Tokens of tags -/

/-- Goes back to the start of the token ahead. -/
def enterTags : Grammar Unit :=
  modify fun s => { s with cursor := { s.cursor with
    index := s.start.index, line := s.start.line
    lineStart := ((s.start.index : Int) - s.start.column).toNat } }

/-- Takes up ordinary tokens at the cursor. -/
def leaveTags : Grammar Unit := skip

/-- The start of the next token of a tag. -/
def tagHere : Grammar Nat := do
  skipGaps
  return (← get).cursor.index

/-- Takes the next token of a tag. -/
def nextTag : Grammar Token := do
  skipGaps
  modify fun s => { s with start := s.cursor.marker }
  let token ← scanning (Token.scanTag (← read))
  modify fun s => { s with last := s.cursor.marker }
  return token

/-- The next token of a tag, which is read again later. -/
def peekTag : Grammar Token := do
  let c := (← get).cursor
  let script := !(← get).setting.isModule
  discard (scanning (Token.skipGaps (← read) script))
  let token ← scanning (Token.scanTag (← read))
  modify fun s => { s with
    cursor := { s.cursor with index := c.index, line := c.line, lineStart := c.lineStart } }
  return token

/-- Whether the next token of a tag is the given punctuator. -/
def seesTag (punctuator : String) : Grammar Bool := do
  let t ← peekTag
  return t.type == .punctuator && t.value == punctuator

/-- Whether the rest of an opening tag has no more attributes. -/
def seesTagEnd : Grammar Bool := do
  let t ← peekTag
  return t.type == .punctuator && (t.value == "/" || t.value == ">")

/-- Takes the given punctuator, which must come next in the tag. -/
def expectTag (punctuator : String) : Grammar Unit := do
  let t ← nextTag
  if t.type != .punctuator || t.value != punctuator then unexpected t

/-- Goes back from an expression to the tag, over the closing brace. -/
def reenterTags : Grammar Unit := do
  enterTags
  expectTag "\x7d"

/-! ### Names -/

/-- Reads a name in a tag. -/
def tagName : Grammar Tree := do
  let start ← tagHere
  let token ← nextTag
  if token.type != .tagName then unexpected token
  finish start "JSXIdentifier" [("name", .str token.value)]

/-- Reads the rest of a name with a namespace. -/
def namespacedName (start : Nat) (space : Tree) : Grammar Tree := do
  expectTag ":"
  let name ← tagName
  finish start "JSXNamespacedName" [("namespace", space), ("name", name)]

/-- Reads an access that follows a name. -/
def memberName (start : Nat) (object : Tree) : Grammar Tree := do
  expectTag "."
  let property ← tagName
  finish start "JSXMemberExpression" [("object", object), ("property", property)]

/-- Reads the accesses that follow a name. -/
def memberNames (start : Nat) : Nat → Tree → Grammar Tree
  | 0, _ => throw SyntaxError.tooDeep
  | fuel + 1, object => do
    if ← seesTag "." then memberNames start fuel (← memberName start object)
    else return object

/-- Reads the name of an element. -/
def elementName : Grammar Tree := do
  let start ← tagHere
  let name ← tagName
  if ← seesTag ":" then namespacedName start name
  else memberNames start ((← read).size + 1) name

/-- The name of an element as it is written. -/
def qualifiedName : Nat → Tree → String
  | 0, _ => ""
  | fuel + 1, t =>
    match t.kind with
    | "JSXIdentifier" => ((t.get "name").str?).getD ""
    | "JSXNamespacedName" =>
      qualifiedName fuel (t.get "namespace") ++ ":" ++ qualifiedName fuel (t.get "name")
    | "JSXMemberExpression" =>
      qualifiedName fuel (t.get "object") ++ "." ++ qualifiedName fuel (t.get "property")
    | _ => ""

/-! ### Attributes -/

/-- Reads the value of an attribute. -/
def attributeValue (go : Rules) : Grammar Tree := do
  if ← seesTag "\x7b" then
    let start ← tagHere
    expectTag "\x7b"
    leaveTags
    if ← sees "\x7d" then
      failHere "JSX attributes must only be assigned a non-empty expression"
    let value ← go .assignment
    reenterTags
    finish start "JSXExpressionContainer" [("expression", value)]
  else if ← seesTag "<" then go .element
  else
    let start ← tagHere
    let token ← nextTag
    if token.type != .string then unexpected token
    literalNode start token

/-- Reads an attribute. -/
def attribute_ (go : Rules) : Grammar Tree := do
  let start ← tagHere
  if ← seesTag "\x7b" then
    expectTag "\x7b"
    expectTag "..."
    leaveTags
    let argument ← go .assignment
    reenterTags
    finish start "JSXSpreadAttribute" [("argument", argument)]
  else
    let word ← tagName
    let name ← if ← seesTag ":" then namespacedName start word else pure word
    let value ← if ← seesTag "=" then do expectTag "="; attributeValue go else pure .null
    finish start "JSXAttribute" [("name", name), ("value", value)]

/-- Reads the rest of an opening tag after its bracket, and tells whether it closes itself. -/
def openingRest (go : Rules) (start : Nat) : Grammar (Tree × Bool) := do
  let name ← elementName
  let attributes ← many do
    if ← seesTagEnd then return none
    return some (← attribute_ go)
  let selfClosing ← seesTag "/"
  if selfClosing then expectTag "/"
  expectTag ">"
  let node ← finish start "JSXOpeningElement" [("name", name), ("selfClosing", .bool selfClosing),
    ("attributes", .list attributes)]
  return (node, selfClosing)

/-! ### Children -/

/-- Reads what is no expression up to the closing brace. -/
def emptyContent : Grammar Tree := do
  let start := (← get).cursor.index
  skipGaps
  modify fun s => { s with last := s.cursor.marker }
  let inner ← finish start "JSXEmptyExpression" []
  expectTag "\x7d"
  return inner

/-- Reads an expression between braces. -/
def container (go : Rules) : Grammar Tree := do
  let start ← tagHere
  expectTag "\x7b"
  let inner ← if ← seesTag "\x7d" then emptyContent
    else do
      leaveTags
      let inner ← go .assignment
      reenterTags
      pure inner
  finish start "JSXExpressionContainer" [("expression", inner)]

/-- The text in a token. -/
def textNode (token : Token) : Grammar Tree := do
  finish token.start "JSXText" [("value", .str token.value), ("raw", .str (← written token))]

/-- Reads texts and expressions up to the next tag. -/
def tagChildren (go : Rules) : Nat → Array Tree → Grammar (Array Tree)
  | 0, _ => throw SyntaxError.tooDeep
  | fuel + 1, found => do
    let src ← read
    let s ← get
    if src.size ≤ s.cursor.index then return found
    modify fun s => { s with start := s.cursor.marker }
    let token ← scanning (Token.scanTagText src)
    modify fun s => { s with last := s.cursor.marker }
    let found ← if token.start < token.stop then pure (found.push (← textNode token))
      else pure found
    if src.get (← get).cursor.index == '\x7b' then
      tagChildren go fuel (found.push (← container go))
    else return found

/-- An element that is still open. -/
structure OpenElement where
  start : Nat
  opening : Tree
  children : Array Tree

/-- The node of an element. -/
def elementNode (e : OpenElement) (closing : Tree) : Grammar Tree :=
  finish e.start "JSXElement" [("openingElement", e.opening),
    ("children", .list e.children.toList), ("closingElement", closing)]

/-- Reads the rest of a closing tag after its bracket. -/
def closingRest (start : Nat) : Grammar Tree := do
  expectTag "/"
  let name ← elementName
  expectTag ">"
  finish start "JSXClosingElement" [("name", name)]

/-- Reads the content of the innermost of the open elements, up to the closing tag of the
outermost; returns the children and the closing tag with which reading ended. A text that ends
first leaves the innermost element unclosed. -/
def content (go : Rules) : Nat → OpenElement → List OpenElement → Grammar (Array Tree × Tree)
  | 0, _, _ => throw SyntaxError.tooDeep
  | fuel + 1, e, outer => do
    let src ← read
    if src.size ≤ (← get).cursor.index then return (e.children, .null)
    let found ← tagChildren go (src.size + 1) e.children
    let e := { e with children := found }
    let start := (← get).cursor.index
    let tagStart ← tagHere
    expectTag "<"
    if ← seesTag "/" then
      let closing ← closingRest tagStart
      let size := src.size + 1
      let opened := qualifiedName size (e.opening.get "name")
      if opened != qualifiedName size (closing.get "name") then
        failHere s!"Expected corresponding JSX closing tag for {opened}"
      match outer with
      | parent :: rest =>
        let child ← elementNode e closing
        content go fuel { parent with children := parent.children.push child } rest
      | [] => return (e.children, closing)
    else
      let (opening, selfClosing) ← openingRest go tagStart
      if selfClosing then
        let child ← elementNode ⟨start, opening, #[]⟩ .null
        content go fuel { e with children := e.children.push child } outer
      else content go fuel ⟨start, opening, #[]⟩ (e :: outer)

/-- Reads an element with its children. -/
def element (go : Rules) : Grammar Tree := do
  let start ← tagHere
  expectTag "<"
  let (opening, selfClosing) ← openingRest go start
  if selfClosing then elementNode ⟨start, opening, #[]⟩ .null
  else
    let (children, closing) ← content go ((← read).size + 1) ⟨start, opening, #[]⟩ []
    elementNode ⟨start, opening, children⟩ closing

/-- Reads an element as an expression. -/
def rootElement (go : Rules) : Grammar Tree := do
  enterTags
  let node ← element go
  leaveTags
  return node

end Deminify.Grammar
