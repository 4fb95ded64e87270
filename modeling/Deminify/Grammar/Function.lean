import Deminify.Grammar.Binding

/-!
# Functions, methods and classes

* `Deminify.Grammar.formals` – the parameters of a function;
* `Deminify.Grammar.functionBody` – a body, which may start with directives that make it strict;
* `Deminify.Grammar.functionDeclaration`, `Deminify.Grammar.functionExpression`;
* `Deminify.Grammar.methodFunction` and its kin – the functions of methods;
* `Deminify.Grammar.classDeclaration`, `Deminify.Grammar.classExpression`.
-/

namespace Deminify.Grammar

/-! ### Parameters -/

/-- Reads the last parameter of a function, which takes all remaining arguments. -/
def restParameter (go : Rules) : Grammar Tree := do
  let start ← here
  expect "..."
  let argument ← go (.pattern "")
  if ← sees "=" then fail "Unexpected token ="
  unless ← sees ")" do fail "Rest parameter must be last formal parameter"
  finish start "RestElement" [("argument", argument)]

/-- Reads a parameter and notes its faults. -/
def formal (go : Rules) (f : Formals) : Grammar Formals := do
  let (param, tokens) ← collecting do
    if ← sees "..." then restParameter go else patternWithDefault go ""
  let strict := (← setting).strict
  return (tokens.foldl (fun f t => f.bind strict (.token t) t.value) f).push param

/-- Reads parameters after the given ones; `fuel` bounds their number. -/
def moreFormals (go : Rules) : Nat → Formals → Grammar Formals
  | 0, _ => throw SyntaxError.tooDeep
  | fuel + 1, f => do
    if ← seesType .stop then return f
    let f ← formal go f
    if ← sees ")" then return f
    expect ","
    if ← sees ")" then return f
    moreFormals go fuel f

/-- Reads the parameters of a function, whose name may have a fault already. -/
def formals (go : Rules) (latentFault : Option Culprit) : Grammar Formals := do
  expect "("
  let f : Formals := { latentFault }
  let f ← if ← sees ")" then pure f else moreFormals go ((← read).size + 1) f
  expect ")"
  return f

/-! ### Bodies -/

/-- Reads a statement that starts with a text, and returns the directive it is, if it is one. -/
def directive (go : Rules) : Grammar (Tree × Option String) := do
  let token := (← get).ahead
  let start ← here
  let e ← expression go
  let raw ← written token
  let text := (raw.drop 1).dropEnd 1 |>.toString
  endStatement
  if e.isKind "Literal" && text != "" then
    let node ← finish start "ExpressionStatement" [("expression", e), ("directive", .str text)]
    return (node, some text)
  else return (← finish start "ExpressionStatement" [("expression", e)], none)

/-- Reads directives after the given statements; `octal` is the first text of theirs with an octal
escape. -/
def moreDirectives (go : Rules) : Nat → Array Tree → Option Token → Grammar (List Tree)
  | 0, _, _ => throw SyntaxError.tooDeep
  | fuel + 1, body, octal => do
    let token := (← get).ahead
    if token.type != .string then return body.toList
    let (node, text) ← directive go
    match text with
    | none => return (body.push node).toList
    | some text =>
      if text == "use strict" then
        adjust fun s => { s with strict := true }
        if let some t := octal then failAt t "Octal literals are not allowed in strict mode."
        unless (← setting).allowStrictDirective do
          failAt token "Illegal 'use strict' directive in function with non-simple parameter list"
        moreDirectives go fuel (body.push node) octal
      else
        let octal := if octal.isNone && token.octal then some token else octal
        moreDirectives go fuel (body.push node) octal

/-- Reads the directives at the start of a body. -/
def directives (go : Rules) : Grammar (List Tree) := do
  moreDirectives go ((← read).size + 1) #[] none

/-- Reads the body of a function. Labels and loops around it do not reach into it. -/
def functionBody (go : Rules) : Grammar Tree := do
  let start ← here
  expect "\x7b"
  let prologue ← directives go
  let before ← setting
  adjust fun s => { s with
    labels := [], inIteration := false, inSwitch := false, inFunctionBody := true }
  let body ← many do
    if (← seesType .stop) || (← sees "\x7d") then return none
    return some (← go .item)
  expect "\x7d"
  adjust fun s => { s with
    labels := before.labels, inIteration := before.inIteration, inSwitch := before.inSwitch
    inFunctionBody := before.inFunctionBody }
  finish start "BlockStatement" [("body", .list (prologue ++ body))]

/-! ### Functions -/

/-- The node of a function. -/
def functionNode (start : Nat) (kind : String) (isAsync isGenerator : Bool) (name : Tree)
    (params : List Tree) (body : Tree) : Grammar Tree :=
  if isAsync then
    finish start kind [("generator", .bool false), ("expression", .bool false),
      ("async", .bool true), ("id", name), ("params", .list params), ("body", body)]
  else
    finish start kind [("expression", .bool false), ("async", .bool false), ("id", name),
      ("params", .list params), ("body", body), ("generator", .bool isGenerator)]

/-- Whether `async function` is ahead, on one line. -/
def seesAsyncFunction : Grammar Bool := do
  if ← seesName "async" then
    let line := (← get).cursor.line
    let t ← peek
    return t.line == line && t.type == .keyword && t.value == "function"
  else return false

/-- Takes the words and the star in front of a function: whether it is asynchronous, and whether it
is a generator. -/
def functionHead : Grammar (Bool × Bool) := do
  let isAsync ← seesName "async"
  if isAsync then skip
  expectKeyword "function"
  let isGenerator ← if isAsync then pure false else accept "*"
  return (isAsync, isGenerator)

/-- The fault of a function's name: an error in strict code, and one to be kept otherwise. -/
def nameFault (token : Token) : Grammar (Option (Culprit × String)) := do
  if (← setting).strict then
    if Token.isRestricted token.value then
      failAt token "Function name may not be eval or arguments in strict mode"
    return none
  else if Token.isRestricted token.value then
    return some (.token token, "Function name may not be eval or arguments in strict mode")
  else if Token.isStrictReserved token.value then
    return some (.token token, "Use of future reserved word in strict mode")
  else return none

/-- Reads the parameters and the body of a function, given the fault of its name. -/
def functionRest (go : Rules) (fault : Option (Culprit × String)) : Grammar (List Tree × Tree) := do
  let f ← formals go (fault.map (·.1))
  let before ← setting
  adjust fun s => { s with allowStrictDirective := f.simple }
  let body ← functionBody go
  checkFormals f (f.message.or (fault.map (·.2)))
  adjust fun s => { s with
    strict := before.strict, allowStrictDirective := before.allowStrictDirective }
  return (f.params, body)

/-- Reads a declaration of a function. -/
def functionDeclaration (go : Rules) (nameOptional : Bool) : Grammar Tree := do
  let start ← here
  let (isAsync, isGenerator) ← functionHead
  let (name, fault) ←
    if nameOptional && (← sees "(") then pure (Tree.null, none)
    else do
      let token := (← get).ahead
      let name ← variableName ""
      pure (name, ← nameFault token)
  let before ← setting
  adjust fun s => { s with allowAwait := isAsync, allowYield := !isGenerator }
  let (params, body) ← functionRest go fault
  adjust fun s => { s with allowAwait := before.allowAwait, allowYield := before.allowYield }
  functionNode start "FunctionDeclaration" isAsync isGenerator name params body

/-- Reads a function as an expression. -/
def functionExpression (go : Rules) : Grammar Tree := do
  let start ← here
  let (isAsync, isGenerator) ← functionHead
  let before ← setting
  adjust fun s => { s with allowAwait := isAsync, allowYield := !isGenerator }
  let (name, fault) ←
    if ← sees "(" then pure (Tree.null, none)
    else do
      let token := (← get).ahead
      let name ← if !(← setting).strict && !isGenerator && (← seesKeyword "yield") then wordName
        else variableName ""
      pure (name, ← nameFault token)
  let (params, body) ← functionRest go fault
  adjust fun s => { s with allowAwait := before.allowAwait, allowYield := before.allowYield }
  functionNode start "FunctionExpression" isAsync isGenerator name params body

/-! ### Methods -/

/-- Reads the body of a method with the given parameters. -/
def methodBody (go : Rules) (f : Formals) : Grammar Tree := do
  plainValue
  let before ← setting
  adjust fun s => { s with allowStrictDirective := f.simple }
  let body ← isolate (functionBody go)
  checkFormals f f.message
  adjust fun s => { s with
    strict := before.strict, allowStrictDirective := before.allowStrictDirective }
  return body

/-- What a method is, which decides how its function is read. -/
inductive MethodSort where
  | plain
  | async
  | getter
  | setter
  | generator
  deriving DecidableEq

/-- A getter has no parameter, a setter exactly one. -/
def checkArity (sort : MethodSort) (params : List Tree) : Grammar Unit := do
  match sort, params with
  | .getter, _ :: _ => failHere "Getter must not have any formal parameters"
  | .setter, [param] =>
    if param.isKind "RestElement" then
      failHere "Setter function argument must not be a rest parameter"
  | .setter, _ => failHere "Setter must have exactly one formal parameter"
  | _, _ => return

/-- Reads the function of a method. -/
def methodFunction (go : Rules) (sort : MethodSort) : Grammar Tree := do
  let start ← here
  let before ← setting
  adjust fun s => { s with
    allowYield := sort != .async, allowAwait := s.allowAwait || sort == .async }
  let f ← formals go none
  checkArity sort f.params
  if sort == .generator then adjust fun s => { s with allowYield := false }
  let body ← methodBody go f
  adjust fun s => { s with allowYield := before.allowYield, allowAwait := before.allowAwait }
  functionNode start "FunctionExpression" (sort == .async) (sort == .generator) .null f.params body

/-! ### Classes -/

/-- The start of a member of a class: the token that decides what it is, its key unless a star came
first, whether the key is computed, and whether it is static or asynchronous. -/
structure MemberStart where
  token : Token
  key : Option Tree
  computed : Bool
  isStatic : Bool
  isAsync : Bool

/-- Takes `static` for what it says when a key or a star follows it. -/
def staticStart (go : Rules) (m : MemberStart) : Grammar MemberStart := do
  if !m.key.any (fun k => (k.get "name").str? == some "static") then return m
  let token := (← get).ahead
  if startsKey token || (← sees "*") then
    let computed ← sees "["
    if ← accept "*" then return { m with token, computed, isStatic := true }
    else return { m with token, computed, isStatic := true, key := some (← propertyKey go) }
  else return m

/-- Takes `async` for what it says when a key follows it on its line. -/
def asyncStart (go : Rules) (m : MemberStart) : Grammar MemberStart := do
  let s ← get
  if m.token.type == .name && !s.afterLineEnd && m.token.value == "async"
      && !([":", "(", "*"].contains s.ahead.value) then
    let token := s.ahead
    let key ← propertyKey go
    if token.type == .name && token.value == "constructor" then
      failAt token "Class constructor may not be an async method"
    return { m with token, key := some key, isAsync := true }
  else return m

/-- Reads the start of a member of a class. -/
def memberStart (go : Rules) : Grammar MemberStart := do
  let token := (← get).ahead
  if ← accept "*" then return ⟨token, none, false, false, false⟩
  let computed ← sees "["
  let key ← propertyKey go
  asyncStart go (← staticStart go ⟨token, some key, computed, false, false⟩)

/-- Reads the rest of a member of a class: its kind, its key, whether that is computed, and its
function. None if it is no member. -/
def memberRest (go : Rules) (m : MemberStart) : Grammar (Option (String × Tree × Bool × Tree)) := do
  let keyAhead := startsKey (← get).ahead
  let keyed (kind : String) (sort : MethodSort) : Grammar (Option (String × Tree × Bool × Tree)) := do
    let computed ← sees "["
    let key ← propertyKey go
    if sort == .getter then adjust fun s => { s with allowYield := false }
    return some (kind, key, computed, ← methodFunction go sort)
  if m.token.type == .name && m.token.value == "get" && keyAhead then keyed "get" .getter
  else if m.token.type == .name && m.token.value == "set" && keyAhead then keyed "set" .setter
  else if m.token.type == .punctuator && m.token.value == "*" && keyAhead then
    keyed "method" .generator
  else
    match m.key with
    | some key =>
      if ← sees "(" then
        let value ← methodFunction go (if m.isAsync then .async else .plain)
        return some ("method", key, m.computed, value)
      else return none
    | none => return none

/-- Reads a member of a class, and whether it is the constructor. -/
def classMember (go : Rules) (hasConstructor : Bool) : Grammar (Tree × Bool) := do
  let start ← here
  let m ← memberStart go
  match ← memberRest go m with
  | none => unexpectedAhead
  | some (kind, key, computed, value) =>
    if !computed && m.isStatic && isKey key "prototype" then
      failAt m.token "Classes may not have static property named prototype"
    let constructs := !computed && !m.isStatic && isKey key "constructor"
    if constructs then
      if kind != "method" || (value.get "generator").truthy then
        failAt m.token "Class constructor may not be an accessor"
      if hasConstructor then failAt m.token "A class may only have one constructor"
    let kind := if constructs then "constructor" else kind
    let node ← finish start "MethodDefinition" [("key", key), ("computed", .bool computed),
      ("value", value), ("kind", .str kind), ("static", .bool m.isStatic)]
    return (node, hasConstructor || constructs)

/-- Reads members of a class after the given ones; `fuel` bounds their number. -/
def moreMembers (go : Rules) : Nat → Bool → Array Tree → Grammar (List Tree)
  | 0, _, _ => throw SyntaxError.tooDeep
  | fuel + 1, hasConstructor, found => do
    if ← sees "\x7d" then return found.toList
    if ← accept ";" then moreMembers go fuel hasConstructor found
    else
      let (node, hasConstructor) ← classMember go hasConstructor
      moreMembers go fuel hasConstructor (found.push node)

/-- Reads the body of a class. -/
def classBody (go : Rules) : Grammar Tree := do
  let start ← here
  expect "\x7b"
  let members ← moreMembers go ((← read).size + 1) false #[]
  expect "\x7d"
  finish start "ClassBody" [("body", .list members)]

/-- Reads a class of the given kind, whose code is strict; `named` tells from the token ahead
whether a name comes next. -/
def classNode (go : Rules) (kind : String) (named : Token → Bool) : Grammar Tree := do
  let start ← here
  let before := (← setting).strict
  adjust fun s => { s with strict := true }
  expectKeyword "class"
  let name ← if named (← get).ahead then variableName "" else pure .null
  let parent ← if ← seesKeyword "extends" then do skip; isolate (go .call) else pure .null
  let body ← classBody go
  adjust fun s => { s with strict := before }
  finish start kind [("id", name), ("superClass", parent), ("body", body)]

/-- Reads a declaration of a class. -/
def classDeclaration (go : Rules) (nameOptional : Bool) : Grammar Tree :=
  classNode go "ClassDeclaration" fun t => !nameOptional || t.type == .name

/-- Reads a class as an expression. -/
def classExpression (go : Rules) : Grammar Tree :=
  classNode go "ClassExpression" fun t => t.type == .name

end Deminify.Grammar
