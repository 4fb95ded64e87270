import Deminify.Grammar.Expression

/-!
# Statements

* `Deminify.Grammar.variableStatement`, `Deminify.Grammar.lexicalDeclaration` – declarations;
* `Deminify.Grammar.forStatement` – the three kinds of `for` loop;
* `Deminify.Grammar.statement` – a statement;
* `Deminify.Grammar.item` – a statement or a declaration, where both may stand.
-/

namespace Deminify.Grammar

/-! ### Declarations -/

/-- Fails if strict code declares a name it may not. -/
def checkVariable (target : Tree) : Grammar Unit := do
  if (← setting).strict && target.isKind "Identifier"
      && ((target.get "name").str?).any Token.isRestricted then
    failHere "Variable name may not be eval or arguments in strict mode"

/-- The node of a declarator. -/
def declaratorNode (start : Nat) (target init : Tree) : Grammar Tree :=
  finish start "VariableDeclarator" [("id", target), ("init", init)]

/-- The node of a declaration. -/
def declarationNode (start : Nat) (kind : String) (declarations : List Tree) : Grammar Tree :=
  finish start "VariableDeclaration" [("declarations", .list declarations), ("kind", .str kind)]

/-- Reads a declarator of `var`. -/
def variableDeclarator (go : Rules) (inFor : Bool) : Grammar Tree := do
  let start ← here
  let (target, _) ← collecting (pattern go "var")
  checkVariable target
  let init ←
    if ← accept "=" then isolate (go .assignment)
    else do
      if !target.isKind "Identifier" && !inFor then expect "="
      pure .null
  declaratorNode start target init

/-- Reads the declarators of `var`. -/
def variableDeclarators (go : Rules) (inFor : Bool) : Grammar (List Tree) := do
  let first ← variableDeclarator go inFor
  return first :: (← manyAfterComma (variableDeclarator go inFor))

/-- Reads a statement with `var`. -/
def variableStatement (go : Rules) : Grammar Tree := do
  let start ← here
  expectKeyword "var"
  let declarations ← variableDeclarators go false
  endStatement
  declarationNode start "var" declarations

/-- Reads a declarator of `let` or `const`. -/
def lexicalDeclarator (go : Rules) (kind : String) (inFor : Bool) : Grammar Tree := do
  let start ← here
  let (target, _) ← collecting (pattern go kind)
  checkVariable target
  let init ←
    if kind == "const" then
      if (← seesKeyword "in") || (← seesName "of") then pure .null
      else if ← accept "=" then isolate (go .assignment)
      else fail "Missing initializer in const declaration"
    else if (!inFor && !target.isKind "Identifier") || (← sees "=") then do
      expect "="
      isolate (go .assignment)
    else pure .null
  declaratorNode start target init

/-- Reads the declarators of `let` or `const`. -/
def lexicalDeclarators (go : Rules) (kind : String) (inFor : Bool) : Grammar (List Tree) := do
  let first ← lexicalDeclarator go kind inFor
  return first :: (← manyAfterComma (lexicalDeclarator go kind inFor))

/-- Reads a declaration with `let` or `const`. -/
def lexicalDeclaration (go : Rules) : Grammar Tree := do
  let start ← here
  let kind := (← next).value
  let declarations ← lexicalDeclarators go kind false
  endStatement
  declarationNode start kind declarations

/-- Whether the `let` ahead starts a declaration. -/
def startsDeclaration : Grammar Bool := do
  let t ← peek
  return t.type == .name
    || (t.type == .punctuator && (t.value == "[" || t.value == "\x7b"))
    || (t.type == .keyword && (t.value == "let" || t.value == "yield"))

/-! ### Blocks and branches -/

/-- Reads a block. -/
def block (go : Rules) : Grammar Tree := do
  let start ← here
  expect "\x7b"
  let body ← manyUntil "\x7d" (go .item)
  expect "\x7d"
  finish start "BlockStatement" [("body", .list body)]

/-- Reads an expression in parentheses. -/
def condition (go : Rules) : Grammar Tree := do
  expect "("
  let test ← expression go
  expect ")"
  return test

/-- Reads a branch, which strict code does not allow to be a declaration of a function. -/
def branch (go : Rules) : Grammar Tree := do
  if (← setting).strict && (← seesKeyword "function") then
    failHere "In strict mode code, functions can only be declared at top level or inside a block"
  go .statement

/-- Reads an `if`. -/
def ifStatement (go : Rules) : Grammar Tree := do
  let start ← here
  expectKeyword "if"
  let test ← condition go
  let consequent ← branch go
  let alternate ← if ← seesKeyword "else" then do skip; branch go else pure .null
  finish start "IfStatement" [("test", test), ("consequent", consequent), ("alternate", alternate)]

/-! ### Loops -/

/-- Reads the body of a loop. -/
def loopBody {α : Type} (body : Grammar α) : Grammar α := do
  let before := (← setting).inIteration
  adjust fun s => { s with inIteration := true }
  let a ← body
  adjust fun s => { s with inIteration := before }
  return a

/-- Reads a `do` loop. -/
def doWhileStatement (go : Rules) : Grammar Tree := do
  let start ← here
  expectKeyword "do"
  let body ← loopBody (go .statement)
  expectKeyword "while"
  let test ← condition go
  discard (accept ";")
  finish start "DoWhileStatement" [("body", body), ("test", test)]

/-- Reads a `while` loop. -/
def whileStatement (go : Rules) : Grammar Tree := do
  let start ← here
  expectKeyword "while"
  let test ← condition go
  let body ← loopBody (go .statement)
  finish start "WhileStatement" [("test", test), ("body", body)]

/-- The head of a `for` loop. -/
inductive ForHead where
  | steps (init : Tree)
  | within (left right : Tree)
  | of (left right : Tree)

/-- Reads the rest of a head over keys or items; `left` is read already. -/
def forKeys (go : Rules) (left : Tree) : Grammar ForHead := do
  skip
  return .within left (← expression go)

/-- Reads the rest of a head over items. -/
def forItems (go : Rules) (left : Tree) : Grammar ForHead := do
  skip
  return .of left (← go .assignment)

/-- Whether there is one declarator, and it has no initial value. -/
def isBareDeclarator (declarations : List Tree) : Bool :=
  match declarations with
  | [d] => (d.get "init").isNull
  | _ => false

/-- Reads the head of a loop that declares with `var`. -/
def forVar (go : Rules) : Grammar ForHead := do
  let start ← here
  skip
  let declarations ← withIn false (variableDeclarators go true)
  if declarations.length == 1 && (← seesKeyword "in") then
    let isPattern := declarations.any fun d =>
      (d.get "id").isKind "ArrayPattern" || (d.get "id").isKind "ObjectPattern"
    if !isBareDeclarator declarations && (isPattern || (← setting).strict) then
      failHere "for-in loop variable declaration may not have an initializer"
    forKeys go (← declarationNode start "var" declarations)
  else if isBareDeclarator declarations && (← seesName "of") then
    forItems go (← declarationNode start "var" declarations)
  else
    let init ← declarationNode start "var" declarations
    expect ";"
    return .steps init

/-- Reads the head of a loop that declares with `let` or `const`. -/
def forLexical (go : Rules) : Grammar ForHead := do
  let start ← here
  let kind := (← next).value
  if !(← setting).strict && (← get).ahead.value == "in" then
    forKeys go (← nameNode start kind)
  else
    let declarations ← withIn false (lexicalDeclarators go kind true)
    if isBareDeclarator declarations && (← seesKeyword "in") then
      forKeys go (← declarationNode start kind declarations)
    else if isBareDeclarator declarations && (← seesName "of") then
      forItems go (← declarationNode start kind declarations)
    else
      endStatement
      return .steps (← declarationNode start kind declarations)

/-- Reads the head of a loop that starts with an expression. -/
def forExpression (go : Rules) : Grammar ForHead := do
  let start := (← get).ahead.start
  let init ← withIn false (inherit (go .assignment))
  let bad := !(← setting).isTarget || init.isKind "AssignmentExpression"
  if ← seesKeyword "in" then
    if bad then failHere "Invalid left-hand side in for-in"
    forKeys go init.asPattern
  else if ← seesName "of" then
    if bad then failHere "Invalid left-hand side in for-loop"
    forItems go init.asPattern
  else
    let init ← if ← sees "," then do
        let rest ← manyAfterComma (isolate (go .assignment))
        sequenceNode start (init :: rest)
      else pure init
    expect ";"
    return .steps init

/-- Reads the head of a loop up to its first separator. -/
def forHead (go : Rules) : Grammar ForHead := do
  if ← accept ";" then return .steps .null
  else if ← seesKeyword "var" then forVar go
  else if (← seesKeyword "const") || (← seesKeyword "let") then forLexical go
  else forExpression go

/-- Reads a `for` loop. -/
def forStatement (go : Rules) : Grammar Tree := do
  let start ← here
  expectKeyword "for"
  expect "("
  match ← forHead go with
  | .steps init =>
    let test ← if ← sees ";" then pure .null else expression go
    expect ";"
    let update ← if ← sees ")" then pure .null else expression go
    expect ")"
    let body ← loopBody (isolate (go .statement))
    finish start "ForStatement" [("init", init), ("test", test), ("update", update), ("body", body)]
  | .within left right =>
    expect ")"
    let body ← loopBody (isolate (go .statement))
    finish start "ForInStatement" [("each", .bool false), ("left", left), ("right", right),
      ("body", body)]
  | .of left right =>
    expect ")"
    let body ← loopBody (isolate (go .statement))
    finish start "ForOfStatement" [("left", left), ("right", right), ("body", body)]

/-! ### Jumps -/

/-- Reads the label of a jump, if it has one. -/
def jumpLabel : Grammar Tree := do
  if (← seesType .name) && !(← get).afterLineEnd then
    let label ← variableName ""
    let name := ((label.get "name").str?).getD ""
    unless (← setting).labels.contains name do fail s!"Undefined label '{name}'"
    return label
  else return .null

/-- Reads a `continue`. -/
def continueStatement : Grammar Tree := do
  let start ← here
  expectKeyword "continue"
  let label ← jumpLabel
  endStatement
  if label.isNull && !(← setting).inIteration then fail "Illegal continue statement"
  finish start "ContinueStatement" [("label", label)]

/-- Reads a `break`. -/
def breakStatement : Grammar Tree := do
  let start ← here
  expectKeyword "break"
  let label ← jumpLabel
  endStatement
  let s ← setting
  if label.isNull && !s.inIteration && !s.inSwitch then fail "Illegal break statement"
  finish start "BreakStatement" [("label", label)]

/-- Whether a `return` has a value. A text or a template may stand on the next line. -/
def hasArgument : Grammar Bool := do
  let s ← get
  let onLine := !s.afterLineEnd && s.ahead.type != .stop && !(← sees ";") && !(← sees "\x7d")
  return onLine || s.ahead.type == .string || s.ahead.type == .template

/-- Reads a `return`. -/
def returnStatement (go : Rules) : Grammar Tree := do
  unless (← setting).inFunctionBody do failHere "Illegal return statement"
  let start ← here
  expectKeyword "return"
  let argument ← if ← hasArgument then expression go else pure .null
  endStatement
  finish start "ReturnStatement" [("argument", argument)]

/-- Reads a `throw`. -/
def throwStatement (go : Rules) : Grammar Tree := do
  let start ← here
  expectKeyword "throw"
  if (← get).afterLineEnd then fail "Illegal newline after throw"
  let argument ← expression go
  endStatement
  finish start "ThrowStatement" [("argument", argument)]

/-! ### Other statements -/

/-- Reads a `with`. -/
def withStatement (go : Rules) : Grammar Tree := do
  if (← setting).strict then failHere "Strict mode code may not include a with statement"
  let start ← here
  expectKeyword "with"
  let object ← condition go
  let body ← go .statement
  finish start "WithStatement" [("object", object), ("body", body)]

/-- Reads a case of a `switch`. -/
def switchCase (go : Rules) : Grammar Tree := do
  let start ← here
  let test ← if ← seesKeyword "default" then do skip; pure .null
    else do
      expectKeyword "case"
      expression go
  expect ":"
  let consequent ← many do
    if (← sees "\x7d") || (← seesKeyword "default") || (← seesKeyword "case") then return none
    return some (← go .item)
  finish start "SwitchCase" [("test", test), ("consequent", .list consequent)]

/-- Reads cases after the given ones; there is one default at most. -/
def moreCases (go : Rules) : Nat → Bool → Array Tree → Grammar (List Tree)
  | 0, _, _ => throw SyntaxError.tooDeep
  | fuel + 1, hasDefault, found => do
    if ← sees "\x7d" then return found.toList
    let clause ← switchCase go
    let isDefault := (clause.get "test").isNull
    if isDefault && hasDefault then fail "More than one default clause in switch statement"
    moreCases go fuel (hasDefault || isDefault) (found.push clause)

/-- Reads a `switch`. -/
def switchStatement (go : Rules) : Grammar Tree := do
  let start ← here
  expectKeyword "switch"
  let discriminant ← condition go
  let before := (← setting).inSwitch
  adjust fun s => { s with inSwitch := true }
  expect "\x7b"
  let cases ← moreCases go ((← read).size + 1) false #[]
  expect "\x7d"
  adjust fun s => { s with inSwitch := before }
  finish start "SwitchStatement" [("discriminant", discriminant), ("cases", .list cases)]

/-- Reads the body of a labelled statement. -/
def labelledBody (go : Rules) : Grammar Tree := do
  let token := (← get).ahead
  if ← seesKeyword "class" then unexpected token
  else if ← seesKeyword "function" then
    let declaration ← functionDeclaration go false
    if (← setting).strict then
      failAt token
        "In strict mode code, functions can only be declared at top level or inside a block"
    if (declaration.get "generator").truthy then
      failAt token "Generator declarations are not allowed in legacy contexts"
    return declaration
  else go .statement

/-- Reads an expression as a statement, or a statement with a label. -/
def labelledStatement (go : Rules) : Grammar Tree := do
  let start ← here
  let e ← expression go
  if e.isKind "Identifier" && (← sees ":") then
    skip
    let name := ((e.get "name").str?).getD ""
    let labels := (← setting).labels
    if labels.contains name then fail s!"Label '{name}' has already been declared"
    adjust fun s => { s with labels := name :: labels }
    let body ← labelledBody go
    adjust fun s => { s with labels }
    finish start "LabeledStatement" [("label", e), ("body", body)]
  else
    endStatement
    finish start "ExpressionStatement" [("expression", e)]

/-- The first name that the tokens bind twice. -/
def firstRepeated : List Token → List String → Option String
  | [], _ => none
  | t :: rest, seen => if seen.contains t.value then some t.value else firstRepeated rest (t.value :: seen)

/-- Reads a handler. -/
def catchClause (go : Rules) : Grammar Tree := do
  let start ← here
  expectKeyword "catch"
  expect "("
  if ← sees ")" then unexpectedAhead
  let (param, tokens) ← collecting (pattern go "")
  if let some name := firstRepeated tokens [] then failHere s!"Duplicate binding {name}"
  if (← setting).strict && param.isKind "Identifier"
      && ((param.get "name").str?).any Token.isRestricted then
    failHere "Catch variable may not be eval or arguments in strict mode"
  expect ")"
  let body ← block go
  finish start "CatchClause" [("param", param), ("body", body)]

/-- Reads a `try`. -/
def tryStatement (go : Rules) : Grammar Tree := do
  let start ← here
  expectKeyword "try"
  let body ← block go
  let handler ← if ← seesKeyword "catch" then catchClause go else pure .null
  let finalizer ← if ← seesKeyword "finally" then do skip; block go else pure .null
  if handler.isNull && finalizer.isNull then fail "Missing catch or finally after try"
  finish start "TryStatement" [("block", body), ("handler", handler), ("finalizer", finalizer)]

/-- Reads an expression as a statement. -/
def expressionStatement (go : Rules) : Grammar Tree := do
  let start ← here
  let e ← expression go
  endStatement
  finish start "ExpressionStatement" [("expression", e)]

/-- Reads a statement that starts with a keyword. -/
def keywordStatement (go : Rules) (keyword : String) : Grammar Tree := do
  match keyword with
  | "break" => breakStatement
  | "continue" => continueStatement
  | "debugger" =>
    let start ← here
    skip
    endStatement
    finish start "DebuggerStatement" []
  | "do" => doWhileStatement go
  | "for" => forStatement go
  | "function" => functionDeclaration go false
  | "if" => ifStatement go
  | "return" => returnStatement go
  | "switch" => switchStatement go
  | "throw" => throwStatement go
  | "try" => tryStatement go
  | "var" => variableStatement go
  | "while" => whileStatement go
  | "with" => withStatement go
  | _ => expressionStatement go

/-- Reads a statement. -/
def statement (go : Rules) : Grammar Tree := do
  let token := (← get).ahead
  match token.type with
  | .punctuator =>
    if token.value == "\x7b" then block go
    else if token.value == ";" then
      let start ← here
      skip
      finish start "EmptyStatement" []
    else expressionStatement go
  | .name => if ← seesAsyncFunction then functionDeclaration go false else labelledStatement go
  | .keyword => keywordStatement go token.value
  | .truth | .null | .number | .string | .template | .pattern => expressionStatement go
  | _ => unexpected token

end Deminify.Grammar
