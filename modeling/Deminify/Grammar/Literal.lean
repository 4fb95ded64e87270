import Deminify.Grammar.Function

/-!
# Arrays, objects and templates

* `Deminify.Grammar.spread` – `...` in front of an operand;
* `Deminify.Grammar.arrayLiteral`, `Deminify.Grammar.objectLiteral` – which may turn into patterns;
* `Deminify.Grammar.templateLiteral` – a template with its holes.
-/

namespace Deminify.Grammar

/-- Reads a spread. -/
def spread (go : Rules) : Grammar Tree := do
  let start ← here
  expect "..."
  let argument ← inherit (go .assignment)
  finish start "SpreadElement" [("argument", argument)]

/-- Reads an array. Only a spread that comes last leaves it a possible pattern. -/
def arrayLiteral (go : Rules) : Grammar Tree := do
  let start ← here
  expect "["
  let elements ← manyUntil "]" do
    if ← accept "," then return .null
    else if ← sees "..." then
      let element ← spread go
      unless ← sees "]" do
        plainValue
        expect ","
      return element
    else
      let element ← inherit (go .assignment)
      unless ← sees "]" do expect ","
      return element
  expect "]"
  finish start "ArrayExpression" [("elements", .list elements)]

/-! ### Objects -/

/-- Reads what follows a plain key: a value, a method, or nothing for a shorthand. `first` is the
token the property starts with. Also tells whether it sets the prototype. -/
def propertyValue (go : Rules) (start : Nat) (first : Token) (key : Tree) (computed isAsync : Bool)
    (hasProto : Bool) : Grammar (Tree × Bool) := do
  if (← sees ":") && !isAsync then
    let proto := !computed && isKey key "__proto__"
    if proto && hasProto then
      failHere "Duplicate __proto__ fields are not allowed in object literals"
    skip
    let value ← inherit (go .assignment)
    return (← propertyNode start "init" key computed value false false, proto)
  else if ← sees "(" then
    let value ← methodFunction go (if isAsync then .async else .plain)
    return (← propertyNode start "init" key computed value true false, false)
  else if first.type == .name then
    let name ← nameNode start first.value
    if ← sees "=" then
      let token := (← get).ahead
      adjust fun s => { s with patternOnly := some token }
      skip
      let right ← isolate (go .assignment)
      let value ← defaultNode start name right
      return (← propertyNode start "init" key computed value false true, false)
    else return (← propertyNode start "init" key computed name false true, false)
  else unexpected (← next)

/-- Reads a property of an object, and tells whether it sets the prototype. -/
def objectProperty (go : Rules) (hasProto : Bool) : Grammar (Tree × Bool) := do
  let start ← here
  let first := (← get).ahead
  let (key, computed, isAsync) ←
    if first.type == .name then do
      skip
      let computed ← sees "["
      let isAsync := !(← get).afterLineEnd && first.value == "async"
        && !(← seesOneOf [":", "(", "*", ","])
      let key ← if isAsync then propertyKey go else nameNode start first.value
      pure (some key, computed, isAsync)
    else if ← accept "*" then pure (none, false, false)
    else do
      let computed ← sees "["
      pure (some (← propertyKey go), computed, false)
  let keyAhead := startsKey (← get).ahead
  let keyed (kind : String) (sort : MethodSort) : Grammar (Tree × Bool) := do
    let computed ← sees "["
    let key ← propertyKey go
    if sort == .getter then adjust fun s => { s with allowYield := false }
    let value ← methodFunction go sort
    return (← propertyNode start kind key computed value (sort == .generator) false, false)
  if first.type == .name && !isAsync && first.value == "get" && keyAhead then keyed "get" .getter
  else if first.type == .name && !isAsync && first.value == "set" && keyAhead then
    keyed "set" .setter
  else if first.type == .punctuator && first.value == "*" && keyAhead then keyed "init" .generator
  else
    match key with
    | some key => propertyValue go start first key computed isAsync hasProto
    | none => unexpectedAhead

/-- Reads properties after the given ones; `fuel` bounds their number. -/
def moreProperties (go : Rules) : Nat → Bool → Array Tree → Grammar (List Tree)
  | 0, _, _ => throw SyntaxError.tooDeep
  | fuel + 1, hasProto, found => do
    if ← sees "\x7d" then return found.toList
    let (property, proto) ←
      if ← sees "..." then do pure (← spread go, false) else objectProperty go hasProto
    unless ← sees "\x7d" do expect ","
    moreProperties go fuel (hasProto || proto) (found.push property)

/-- Reads an object. -/
def objectLiteral (go : Rules) : Grammar Tree := do
  let start ← here
  expect "\x7b"
  let properties ← moreProperties go ((← read).size + 1) false #[]
  expect "\x7d"
  finish start "ObjectExpression" [("properties", .list properties)]

/-! ### Templates -/

/-- Reads a stretch of a template, and tells whether it is the last. -/
def templateElement : Grammar (Tree × Bool) := do
  let start ← here
  let token ← next
  let node ← finish start "TemplateElement" [
    ("value", .obj 0 [("raw", .str token.value), ("cooked", .str token.cooked)]),
    ("tail", .bool token.tail)]
  return (node, token.tail)

/-- Reads the holes of a template and the stretches after them. -/
def templateRest (go : Rules) : Nat → Array Tree → Array Tree → Grammar (Array Tree × Array Tree)
  | 0, _, _ => throw SyntaxError.tooDeep
  | fuel + 1, quasis, expressions => do
    let hole ← expression go
    unless ← seesType .template do fail "Unexpected token ILLEGAL"
    let (quasi, last) ← templateElement
    if last then return (quasis.push quasi, expressions.push hole)
    else templateRest go fuel (quasis.push quasi) (expressions.push hole)

/-- Reads a template. -/
def templateLiteral (go : Rules) : Grammar Tree := do
  let start ← here
  unless (← get).ahead.head do
    failNowhere "Template literal must start with a template head"
  let (quasi, last) ← templateElement
  let (quasis, expressions) ← if last then pure (#[quasi], #[])
    else templateRest go ((← read).size + 1) #[quasi] #[]
  finish start "TemplateLiteral" [("quasis", .list quasis.toList),
    ("expressions", .list expressions.toList)]

end Deminify.Grammar
