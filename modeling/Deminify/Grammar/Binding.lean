import Deminify.Grammar.Formals

/-!
# Names and binding patterns

* `Deminify.Grammar.variableName` – a name that is bound;
* `Deminify.Grammar.propertyKey` – the key of a property;
* `Deminify.Grammar.pattern` – a binding pattern. The names it binds are noted on the way, and
  `Deminify.Grammar.collecting` returns them.
-/

namespace Deminify.Grammar

/-! ### Names -/

/-- Whether a token reads as a name when all words do. -/
def isWord (token : Token) : Bool :=
  token.type == .name || token.type == .keyword || token.type == .truth || token.type == .null

/-- Reads any word as a name. -/
def wordName : Grammar Tree := do
  let start ← here
  let token ← next
  unless isWord token do unexpected token
  nameNode start token.value

/-- Reads a name that is bound by a declaration of the given kind. -/
def variableName (kind : String) : Grammar Tree := do
  let start ← here
  let token ← next
  let s ← setting
  if token.type == .keyword && token.value == "yield" then
    if s.strict then failAt token "Use of future reserved word in strict mode"
    else if !s.allowYield then unexpected token
  else if token.type != .name then
    if s.strict && token.type == .keyword && Token.isStrictReserved token.value then
      failAt token "Use of future reserved word in strict mode"
    else if s.strict || token.value != "let" || kind != "var" then unexpected token
  else if (s.isModule || s.allowAwait) && token.value == "await" then unexpected token
  nameNode start token.value

/-! ### Keys -/

/-- Whether a token can start the key of a property. -/
def startsKey (token : Token) : Bool :=
  isWord token || token.type == .string || token.type == .number
    || (token.type == .punctuator && token.value == "[")

/-- Reads the key of a property. -/
def propertyKey (go : Rules) : Grammar Tree := do
  let start ← here
  let token ← next
  if token.type == .string || token.type == .number then
    if (← setting).strict && token.octal then
      failAt token "Octal literals are not allowed in strict mode."
    literalNode start token
  else if isWord token then nameNode start token.value
  else if token.type == .punctuator && token.value == "[" then
    let key ← isolate (go .assignment)
    expect "]"
    return key
  else unexpected token

/-- Whether a key is the given word, as a name or a text. -/
def isKey (key : Tree) (word : String) : Bool :=
  (key.isKind "Identifier" && (key.get "name").str? == some word)
    || (key.isKind "Literal" && (key.get "value").str? == some word)

/-- The node of a property. -/
def propertyNode (start : Nat) (kind : String) (key : Tree) (computed : Bool) (value : Tree)
    (method shorthand : Bool) : Grammar Tree :=
  finish start "Property" [("key", key), ("computed", .bool computed), ("value", value),
    ("kind", .str kind), ("method", .bool method), ("shorthand", .bool shorthand)]

/-! ### Patterns -/

/-- The node of a pattern with a default value. -/
def defaultNode (start : Nat) (left right : Tree) : Grammar Tree :=
  finish start "AssignmentPattern" [("left", left), ("right", right)]

/-- Notes a token that binds a name. -/
def noteBound (token : Token) : Grammar Unit := modify fun s => { s with bound := s.bound.push token }

/-- Reads, and returns the tokens that bind names on the way. -/
def collecting {α : Type} (act : Grammar α) : Grammar (α × List Token) := do
  let before := (← get).bound
  modify fun s => { s with bound := #[] }
  let a ← act
  let bound := (← get).bound
  modify fun s => { s with bound := before }
  return (a, bound.toList)

/-- Reads a pattern that may have a default value. -/
def patternWithDefault (go : Rules) (kind : String) : Grammar Tree := do
  let start := (← get).ahead.start
  let target ← go (.pattern kind)
  if ← accept "=" then
    let before := (← setting).allowYield
    adjust fun s => { s with allowYield := true }
    let right ← isolate (go .assignment)
    adjust fun s => { s with allowYield := before }
    defaultNode start target right
  else return target

/-- Reads a pattern for the rest of an array. -/
def arrayRest (go : Rules) (kind : String) : Grammar Tree := do
  let start ← here
  expect "..."
  let argument ← go (.pattern kind)
  finish start "RestElement" [("argument", argument)]

/-- Reads an array pattern. Nothing follows its rest. -/
def arrayPattern (go : Rules) (kind : String) : Grammar Tree := do
  let start ← here
  expect "["
  let elements ← manyUntil "]" do
    if ← accept "," then return .null
    else if ← sees "..." then
      let rest ← arrayRest go kind
      unless ← sees "]" do expect "]"
      return rest
    else
      let element ← patternWithDefault go kind
      unless ← sees "]" do expect ","
      return element
  expect "]"
  finish start "ArrayPattern" [("elements", .list elements)]

/-- Reads a property of an object pattern. -/
def propertyPattern (go : Rules) (kind : String) : Grammar Tree := do
  let start ← here
  let token := (← get).ahead
  if token.type == .name then
    let key ← variableName ""
    let name ← nameNode start token.value
    if ← sees "=" then
      noteBound token
      skip
      let right ← go .assignment
      let value ← defaultNode token.start name right
      propertyNode start "init" key false value false true
    else if ← accept ":" then
      let value ← patternWithDefault go kind
      propertyNode start "init" key false value false false
    else
      noteBound token
      propertyNode start "init" key false name false true
  else
    let computed ← sees "["
    let key ← propertyKey go
    expect ":"
    let value ← patternWithDefault go kind
    propertyNode start "init" key computed value false false

/-- Reads a pattern for the remaining properties. -/
def objectRest (go : Rules) : Grammar Tree := do
  let start ← here
  expect "..."
  let argument ← go (.pattern "")
  if ← sees "=" then fail "Unexpected token ="
  unless ← sees "\x7d" do fail "Unexpected token"
  finish start "RestElement" [("argument", argument)]

/-- Reads an object pattern. -/
def objectPattern (go : Rules) (kind : String) : Grammar Tree := do
  let start ← here
  expect "\x7b"
  let properties ← separatedUntil "\x7d" do
    if ← sees "..." then objectRest go else propertyPattern go kind
  expect "\x7d"
  finish start "ObjectPattern" [("properties", .list properties)]

/-- Reads a binding pattern of a declaration of the given kind. -/
def pattern (go : Rules) (kind : String) : Grammar Tree := do
  if ← sees "[" then arrayPattern go kind
  else if ← sees "\x7b" then objectPattern go kind
  else
    let token := (← get).ahead
    if (← seesKeyword "let") && (kind == "const" || kind == "let") then
      failAt token "let is disallowed as a lexically bound name"
    noteBound token
    variableName kind

end Deminify.Grammar
