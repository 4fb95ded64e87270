import Deminify.Grammar.Element
import Deminify.Grammar.Literal

/-!
# Expressions

From the atoms up to assignments and arrow functions. A group in parentheses may be an expression
or the parameters of an arrow function; which of the two shows only at the arrow.

* `Deminify.Grammar.primary`, `Deminify.Grammar.group` – atoms and groups;
* `Deminify.Grammar.callExpression`, `Deminify.Grammar.callee` – accesses and calls;
* `Deminify.Grammar.unary`, `Deminify.Grammar.exponent`, `Deminify.Grammar.binary`,
  `Deminify.Grammar.conditional` – operators, by precedence;
* `Deminify.Grammar.assignment` – an assignment, an arrow function or a `yield`.
-/

namespace Deminify.Grammar

/-! ### Groups -/

/-- The mark of an arrow function's parameters after a group, which an arrow must follow. -/
def markedParams (params : List Tree) : Grammar Tree := do
  unless ← sees "=>" do expect "=>"
  return arrowMark params false

/-- What comes of the part of a group after its first comma. -/
inductive GroupRest where
  /-- The group ended, and holds parameters. -/
  | params (mark : Tree)
  /-- The expressions so far, before the closing parenthesis. -/
  | sequence (expressions : List Tree)

/-- Reads the rest of a group that holds several expressions. -/
def groupRest (go : Rules) : Nat → Array Tree → Grammar GroupRest
  | 0, _ => throw SyntaxError.tooDeep
  | fuel + 1, found => do
    unless ← accept "," do return .sequence found.toList
    if ← accept ")" then return .params (arrowMark (found.toList.map Tree.asPattern) false)
    else if ← sees "..." then
      unless (← setting).isBinding do unexpectedAhead
      let (rest, _) ← collecting (restParameter go)
      expect ")"
      unless ← sees "=>" do expect "=>"
      adjust fun s => { s with isBinding := false }
      return .params (arrowMark ((found.push rest).toList.map Tree.asPattern) false)
    else groupRest go fuel (found.push (← inherit (go .assignment)))

/-- Ends a group that holds an expression: before an arrow it is a list of parameters. -/
def endGroup (e : Tree) : Grammar Tree := do
  expect ")"
  let result ←
    if ← sees "=>" then
      if e.isKind "Identifier" && (e.get "name").str? == some "yield" then pure (arrowMark [e] false)
      else do
        unless (← setting).isBinding do unexpectedAhead
        let params := if e.isKind "SequenceExpression" then (e.get "expressions").items else [e]
        pure (arrowMark (params.map Tree.asPattern) false)
    else pure e
  adjust fun s => { s with isBinding := false }
  return result

/-- Reads a group in parentheses. -/
def group (go : Rules) : Grammar Tree := do
  expect "("
  if ← accept ")" then markedParams []
  else
    let start := (← get).ahead.start
    if ← sees "..." then
      let (rest, _) ← collecting (restParameter go)
      expect ")"
      markedParams [rest]
    else
      adjust fun s => { s with isBinding := true }
      let first ← inherit (go .assignment)
      if ← sees "," then
        adjust fun s => { s with isTarget := false }
        match ← groupRest go ((← read).size + 1) #[first] with
        | .params mark => return mark
        | .sequence expressions =>
          endGroup (← sequenceNode start expressions)
      else endGroup first

/-! ### Calls and accesses -/

/-- Reads an argument. In front of a possible arrow function it may have parts that only a pattern
has. -/
def argument (go : Rules) (mayBeParam : Bool) : Grammar Tree := do
  if ← sees "..." then spread go
  else isolate do
    let e ← go .assignment
    if mayBeParam then adjust fun s => { s with patternOnly := none }
    return e

/-- Reads the arguments of a call. -/
def arguments (go : Rules) (mayBeParams : Bool) : Grammar (List Tree) := do
  expect "("
  let args ← separatedUntil ")" (argument go mayBeParams)
  expect ")"
  return args

/-- Reads an access by name or by value, if one is ahead. -/
def access? (go : Rules) (start : Nat) (object : Tree) : Grammar (Option Tree) := do
  if ← sees "." then
    memberValue
    expect "."
    let property ← wordName
    some <$> finish start "MemberExpression"
      [("computed", .bool false), ("object", object), ("property", property)]
  else if ← sees "[" then
    memberValue
    expect "["
    let property ← isolate (expression go)
    expect "]"
    some <$> finish start "MemberExpression"
      [("computed", .bool true), ("object", object), ("property", property)]
  else if (← get).ahead.type == .template && (← get).ahead.head then
    let quasi ← templateLiteral go
    some <$> finish start "TaggedTemplateExpression" [("tag", object), ("quasi", quasi)]
  else return none

/-- Reads `new` with what it applies to. -/
def newExpression (go : Rules) : Grammar Tree := do
  let start ← here
  let word ← wordName
  if ← accept "." then
    if (← seesName "target") && (← setting).inFunctionBody then
      let property ← wordName
      finish start "MetaProperty" [("meta", word), ("property", property)]
    else unexpectedAhead
  else if ← seesKeyword "import" then unexpectedAhead
  else
    let constructed ← isolate (go .callee)
    let args ← if ← sees "(" then arguments go false else pure []
    plainValue
    finish start "NewExpression" [("callee", constructed), ("arguments", .list args)]

/-- Whether a call of `import` is ahead. -/
def seesImportCall : Grammar Bool := do
  if ← seesKeyword "import" then
    let t ← peek
    return t.type == .punctuator && t.value == "("
  else return false

/-- Reads a regular expression, which the token ahead opens. -/
def patternLiteral : Grammar Tree := do
  let start ← here
  plainValue
  modify fun s => { s with cursor := { s.cursor with index := s.start.index } }
  skipGaps
  let token ← scanning (Token.scanPattern (← read))
  modify fun s => { s with ahead := token }
  skip
  finish start "Literal" [("value", .null), ("raw", .str (← written token)),
    ("regex", .obj 0 [("pattern", .str token.pattern), ("flags", .str token.flags)])]

/-- Reads a keyword that stands for an expression. -/
def keywordExpression (go : Rules) : Grammar Tree := do
  let start ← here
  let s ← setting
  if !s.strict && s.allowYield && (← seesKeyword "yield") then wordName
  else if !s.strict && (← seesKeyword "let") then
    let token ← next
    nameNode start token.value
  else
    plainValue
    if ← seesKeyword "function" then functionExpression go
    else if ← seesKeyword "this" then
      skip
      finish start "ThisExpression" []
    else if ← seesKeyword "class" then classExpression go
    else if ← seesImportCall then
      expectKeyword "import"
      finish start "Import" []
    else unexpected (← next)

/-- Reads an atom. -/
def primary (go : Rules) : Grammar Tree := do
  let start ← here
  let token := (← get).ahead
  let s ← setting
  match token.type with
  | .name =>
    if (s.isModule || s.allowAwait) && token.value == "await" then unexpected token
    if ← seesAsyncFunction then functionExpression go
    else
      skip
      nameNode start token.value
  | .number | .string =>
    if s.strict && token.octal then failAt token "Octal literals are not allowed in strict mode."
    plainValue
    skip
    literalNode start token
  | .truth | .null =>
    plainValue
    skip
    literalNode start token
  | .template => templateLiteral go
  | .punctuator =>
    match token.value with
    | "<" => rootElement go
    | "(" =>
      adjust fun s => { s with isBinding := false }
      inherit (group go)
    | "[" => inherit (arrayLiteral go)
    | "\x7b" => inherit (objectLiteral go)
    | "/" => patternLiteral
    | "/=" => patternLiteral
    | _ => unexpected (← next)
  | .keyword => keywordExpression go
  | _ => unexpected (← next)

/-- The node of a call. -/
def callNode (start : Nat) (function : Tree) (args : List Tree) : Grammar Tree :=
  finish start "CallExpression" [("callee", function), ("arguments", .list args)]

/-- Reads the accesses and calls that follow an operand. With `maybeAsync` the operand starts with
`async`, so that arguments on its line may be the parameters of an arrow function. -/
def callRest (go : Rules) (first : Token) (maybeAsync : Bool) : Nat → Tree → Grammar Tree
  | 0, _ => throw SyntaxError.tooDeep
  | fuel + 1, e => do
    if ← sees "(" then
      let asyncArrow := maybeAsync && first.line == (← get).ahead.line
      plainValue
      let args ← arguments go asyncArrow
      if e.isKind "Import" && args.length != 1 then failHere "Unexpected token"
      let call ← callNode first.start e args
      if asyncArrow && (← sees "=>") then
        callRest go first maybeAsync fuel (arrowMark (args.map Tree.asPattern) true)
      else callRest go first maybeAsync fuel call
    else
      match ← access? go first.start e with
      | some e => callRest go first maybeAsync fuel e
      | none => return e

/-- Reads an atom or a `new` expression. -/
def operand (go : Rules) : Grammar Tree := do
  if ← seesKeyword "new" then newExpression go else primary go

/-- Reads an operand with the accesses and calls that follow it. -/
def callExpression (go : Rules) : Grammar Tree := do
  let first := (← get).ahead
  let maybeAsync ← seesName "async"
  withIn true do
    let e ←
      if (← seesKeyword "super") && (← setting).inFunctionBody then do
        let start ← here
        skip
        let node ← finish start "Super" []
        unless ← seesOneOf ["(", ".", "["] do unexpectedAhead
        pure node
      else inherit (operand go)
    callRest go first maybeAsync ((← read).size + 1) e

/-- Reads the accesses that follow what `new` applies to. -/
def calleeRest (go : Rules) (start : Nat) : Nat → Tree → Grammar Tree
  | 0, _ => throw SyntaxError.tooDeep
  | fuel + 1, e => do
    match ← access? go start e with
    | some e => calleeRest go start fuel e
    | none => return e

/-- Reads what `new` applies to: an operand with accesses, but without calls. -/
def callee (go : Rules) : Grammar Tree := do
  let start := (← get).ahead.start
  let e ←
    if (← seesKeyword "super") && (← setting).inFunctionBody then do
      skip
      unless ← seesOneOf ["[", "."] do unexpectedAhead
      finish start "Super" []
    else inherit (operand go)
  calleeRest go start ((← read).size + 1) e

/-! ### Operators -/

/-- Fails unless the operand of an increment can be assigned to. -/
def checkIncrement (e : Tree) (message : String) : Grammar Unit := do
  let s ← setting
  if s.strict && e.isKind "Identifier" && ((e.get "name").str?).any Token.isRestricted then
    failHere message
  unless s.isTarget do failHere "Invalid left-hand side in assignment"

/-- The node of an increment. -/
def updateNode (start : Nat) (operator : String) (argument : Tree) (inFront : Bool) :
    Grammar Tree :=
  finish start "UpdateExpression" [("operator", .str operator), ("argument", argument),
    ("prefix", .bool inFront)]

/-- Reads an operand that may be incremented or decremented. -/
def update (go : Rules) : Grammar Tree := do
  let start := (← get).ahead.start
  if ← seesOneOf ["++", "--"] then
    let token ← next
    let e ← inherit (go .unary)
    checkIncrement e
      "Prefix increment/decrement may not have eval or arguments operand in strict mode"
    let node ← updateNode start token.value e true
    plainValue
    return node
  else
    let e ← inherit (callExpression go)
    if !(← get).afterLineEnd && (← seesOneOf ["++", "--"]) then
      checkIncrement e
        "Postfix increment/decrement may not have eval or arguments operand in strict mode"
      plainValue
      let token ← next
      updateNode start token.value e false
    else return e

/-- Whether the token is an operator in front of its operand. -/
def isUnaryOperator (t : Token) : Bool :=
  (t.type == .punctuator && ["+", "-", "~", "!"].contains t.value)
    || (t.type == .keyword && ["delete", "void", "typeof"].contains t.value)

/-- Reads an operand with the operators in front of it. -/
def unary (go : Rules) : Grammar Tree := do
  let token := (← get).ahead
  if isUnaryOperator token then
    skip
    let e ← inherit (go .unary)
    let node ← finish token.start "UnaryExpression" [("prefix", .bool true),
      ("operator", .str token.value), ("argument", e)]
    if (← setting).strict && token.value == "delete" && e.isKind "Identifier" then
      failHere "Delete of an unqualified identifier in strict mode."
    plainValue
    return node
  else if (← setting).allowAwait && (← seesName "await") then
    let start ← here
    skip
    let e ← go .unary
    finish start "AwaitExpression" [("argument", e)]
  else update go

/-- Reads a power, which groups to the right. Its base has no operator in front. -/
def exponent (go : Rules) : Grammar Tree := do
  let start := (← get).ahead.start
  let left ← inherit (unary go)
  if !left.isKind "UnaryExpression" && (← sees "**") then
    skip
    plainValue
    let right ← isolate (go .exponent)
    finish start "BinaryExpression" [("operator", .str "**"), ("left", left), ("right", right)]
  else return left

/-- How tightly the operators between two operands bind. -/
def precedences : List (String × Nat) := [
  ("||", 1), ("&&", 2), ("|", 3), ("^", 4), ("&", 5),
  ("==", 6), ("!=", 6), ("===", 6), ("!==", 6),
  ("<", 7), (">", 7), ("<=", 7), (">=", 7),
  ("<<", 8), (">>", 8), (">>>", 8), ("+", 9), ("-", 9), ("*", 11), ("/", 11), ("%", 11)]

/-- How tightly a token binds as an operator; zero if it is none. -/
def precedence (allowIn : Bool) (t : Token) : Nat :=
  if t.type == .punctuator then (precedences.lookup t.value).getD 0
  else if t.type == .keyword && (t.value == "instanceof" || (allowIn && t.value == "in")) then 7
  else 0

/-- The node of an operator between two operands. -/
def binaryNode (start : Nat) (operator : String) (left right : Tree) : Grammar Tree :=
  let kind := if operator == "||" || operator == "&&" then "LogicalExpression"
    else "BinaryExpression"
  finish start kind [("operator", .str operator), ("left", left), ("right", right)]

/-- An operand that waits for its right neighbour, with the operator behind it. -/
structure Pending where
  start : Nat
  operand : Tree
  operator : String
  precedence : Nat

/-- Joins the waiting operands whose operators bind at least as tightly as the next one. -/
def reduce (limit : Nat) (start : Nat) (right : Tree) : List Pending → Grammar (Nat × Tree × List Pending)
  | [] => return (start, right, [])
  | p :: rest => do
    if limit ≤ p.precedence then
      reduce limit p.start (← binaryNode p.start p.operator p.operand right) rest
    else return (start, right, p :: rest)

/-- Reads the operators and operands that follow an operand. -/
def binaryRest (go : Rules) : Nat → Nat → Tree → List Pending → Grammar Tree
  | 0, _, _, _ => throw SyntaxError.tooDeep
  | fuel + 1, start, e, pending => do
    let token := (← get).ahead
    let level := precedence (← setting).allowIn token
    if level == 0 then
      let (_, whole, _) ← reduce 0 start e pending
      return whole
    else
      let (start, left, pending) ← reduce level start e pending
      skip
      plainValue
      let next := (← get).ahead.start
      let right ← isolate (exponent go)
      binaryRest go fuel next right (⟨start, left, token.value, level⟩ :: pending)

/-- Reads operands with operators between them. -/
def binary (go : Rules) : Grammar Tree := do
  let start := (← get).ahead.start
  let first ← inherit (exponent go)
  binaryRest go ((← read).size + 1) start first []

/-- Reads a choice between two values. -/
def conditional (go : Rules) : Grammar Tree := do
  let start := (← get).ahead.start
  let test ← inherit (binary go)
  if ← accept "?" then
    let consequent ← withIn true (isolate (go .assignment))
    expect ":"
    let alternate ← isolate (go .assignment)
    let node ← finish start "ConditionalExpression" [("test", test), ("consequent", consequent),
      ("alternate", alternate)]
    plainValue
    return node
  else return test

/-! ### Assignments and arrow functions -/

/-- Whether the token ahead can start an expression. -/
def startsExpression : Grammar Bool := do
  let t := (← get).ahead
  match t.type with
  | .punctuator =>
    return ["[", "(", "\x7b", "+", "-", "!", "~", "++", "--", "/", "/=", "<"].contains t.value
  | .keyword =>
    return ["class", "delete", "function", "let", "new", "super", "this", "typeof", "void",
      "yield"].contains t.value
  | _ => return true

/-- Reads a `yield`. -/
def yieldExpression (go : Rules) : Grammar Tree := do
  let start ← here
  expectKeyword "yield"
  let (argument, delegate) ←
    if (← get).afterLineEnd then pure (Tree.null, false)
    else do
      let before := (← setting).allowYield
      adjust fun s => { s with allowYield := false }
      let delegate ← accept "*"
      let argument ← if delegate || (← startsExpression) then go .assignment else pure .null
      adjust fun s => { s with allowYield := before }
      pure (argument, delegate)
  finish start "YieldExpression" [("argument", argument), ("delegate", .bool delegate)]

/-- Reads an arrow function after its parameters. -/
def arrowFunction (go : Rules) (start : Nat) (params : List Tree) (isAsync : Bool) :
    Grammar Tree := do
  let f ← arrowFormals params isAsync
  if (← get).afterLineEnd then unexpectedAhead
  adjust fun s => { s with patternOnly := none }
  let before ← setting
  adjust fun s => { s with
    allowStrictDirective := f.simple, allowYield := true, allowAwait := isAsync }
  expect "=>"
  let body ← if ← sees "\x7b" then withIn true (functionBody go) else isolate (go .assignment)
  checkFormals f f.message
  let node ← finish start "ArrowFunctionExpression" [("generator", .bool false),
    ("async", .bool isAsync), ("params", .list f.params), ("body", body),
    ("expression", .bool (!body.isKind "BlockStatement"))]
  adjust fun s => { s with
    strict := before.strict, allowStrictDirective := before.allowStrictDirective
    allowYield := before.allowYield, allowAwait := before.allowAwait }
  return node

/-- The operators of an assignment. -/
def assignmentOperators : List String :=
  ["=", "*=", "**=", "/=", "%=", "+=", "-=", "<<=", ">>=", ">>>=", "&=", "^=", "|="]

/-- Fails if strict code assigns to a reserved name, which the token holds. -/
def checkTarget (e : Tree) (token : Token) : Grammar Unit := do
  unless (← setting).isTarget do failHere "Invalid left-hand side in assignment"
  if (← setting).strict && e.isKind "Identifier" then
    let name := ((e.get "name").str?).getD ""
    if Token.isRestricted name then
      failAt token "Assignment to eval or arguments is not allowed in strict mode"
    if Token.isStrictReserved name then
      failAt token "Use of future reserved word in strict mode"

/-- Reads an assignment, an arrow function or a `yield`. -/
def assignment (go : Rules) : Grammar Tree := do
  if !(← setting).allowYield && (← seesKeyword "yield") then yieldExpression go
  else
    let first := (← get).ahead
    let e ← conditional go
    let ahead := (← get).ahead
    let e ←
      if first.type == .name && first.value == "async" && first.line == ahead.line
          && (ahead.type == .name || (← seesKeyword "yield")) then do
        let param ← primary go
        pure (arrowMark [param.asPattern] true)
      else pure e
    if e.isKind "ArrowParameterPlaceHolder" || (← sees "=>") then
      plainValue
      match arrowParams e with
      | some params => arrowFunction go first.start params (e.get "async").truthy
      | none => return e
    else if ← seesOneOf assignmentOperators then
      checkTarget e first
      let simple ← sees "="
      unless simple do plainValue
      let token ← next
      let right ← isolate (go .assignment)
      let target := if simple then e.asPattern else e
      let node ← finish first.start "AssignmentExpression" [("operator", .str token.value),
        ("left", target), ("right", right)]
      adjust fun s => { s with patternOnly := none }
      return node
    else return e

end Deminify.Grammar
