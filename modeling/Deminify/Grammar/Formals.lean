import Deminify.Grammar.Basic

/-!
# Parameters and patterns

An expression that turns out to stand where a pattern stands is made into one, and the names that
parameters bind are checked: strict code allows no name twice, and some names not at all. Since a
function may turn strict after its parameters have been read, a fault is kept until then.

* `Deminify.Tree.asPattern` – **the pattern that an expression stands for**;
* `Deminify.Tree.boundNames` – the names that a pattern binds;
* `Deminify.Formals` – parameters with the faults found in them.
-/

namespace Deminify

namespace Tree

mutual

/-- The pattern that an expression stands for; what is no pattern stays as it is. -/
def asPattern (t : Tree) : Tree :=
  match t with
  | .obj label fields =>
    match (Tree.obj label fields).kind with
    | "SpreadElement" => (Tree.obj label (fieldAsPattern "argument" fields)).set "type" (.str "RestElement")
    | "ArrayExpression" => (Tree.obj label (fieldAsPattern "elements" fields)).set "type" (.str "ArrayPattern")
    | "ObjectExpression" => (Tree.obj label (fieldAsPattern "properties" fields)).set "type" (.str "ObjectPattern")
    | "AssignmentExpression" =>
      ((Tree.obj label (fieldAsPattern "left" fields)).set "type" (.str "AssignmentPattern")).drop "operator"
    | "Property" => .obj label (fieldAsPattern "value" fields)
    | _ => .obj label fields
  | .list items => .list (itemsAsPatterns items)
  | other => other
termination_by structural t

/-- The items as patterns. -/
def itemsAsPatterns (items : List Tree) : List Tree :=
  match items with
  | [] => []
  | t :: rest => t.asPattern :: itemsAsPatterns rest
termination_by structural items

/-- The fields with the value under the key as a pattern. -/
def fieldAsPattern (key : String) (fields : List (String × Tree)) : List (String × Tree) :=
  match fields with
  | [] => []
  | (k, t) :: rest => (k, if k == key then t.asPattern else t) :: fieldAsPattern key rest
termination_by structural fields

end

mutual

/-- The names that a pattern binds, from left to right. -/
def boundNames (t : Tree) : List String :=
  match t with
  | .obj label fields =>
    match (Tree.obj label fields).kind with
    | "Identifier" => ((Tree.obj label fields).get "name").str?.toList
    | "RestElement" => fieldBoundNames "argument" fields
    | "AssignmentPattern" => fieldBoundNames "left" fields
    | "ArrayPattern" => fieldBoundNames "elements" fields
    | "ObjectPattern" => fieldBoundNames "properties" fields
    | "Property" => fieldBoundNames "value" fields
    | _ => []
  | .list items => itemsBoundNames items
  | _ => []
termination_by structural t

/-- The names that the items bind. -/
def itemsBoundNames (items : List Tree) : List String :=
  match items with
  | [] => []
  | t :: rest => t.boundNames ++ itemsBoundNames rest
termination_by structural items

/-- The names that the value under the key binds. -/
def fieldBoundNames (key : String) (fields : List (String × Tree)) : List String :=
  match fields with
  | [] => []
  | (k, t) :: rest => (if k == key then t.boundNames else []) ++ fieldBoundNames key rest
termination_by structural fields

end

end Tree

/-- What a fault in the parameters is blamed on: a token, or a part read before. -/
inductive Culprit where
  | token (t : Token)
  | part

/-- Parameters, whether all are plain names, the names bound, and the faults: those of strict
code, and those that matter once the code turns strict. -/
structure Formals where
  params : List Tree := []
  simple : Bool := true
  names : List String := []
  strictFault : Option Culprit := none
  latentFault : Option Culprit := none
  message : Option String := none

namespace Formals

/-- Parameters of a strict function differ in name. -/
def duplicateMessage : String := "Strict mode function may not have duplicate parameter names"

/-- Two names cannot be bound in strict code. -/
def restrictedMessage : String := "Parameter name eval or arguments is not allowed in strict mode"

/-- Adds a bound name and notes its fault. -/
def bind (f : Formals) (strict : Bool) (culprit : Culprit) (name : String) : Formals :=
  let repeated := f.names.contains name
  let f :=
    if strict then
      let f := if Token.isRestricted name then
        { f with strictFault := some culprit, message := some restrictedMessage } else f
      if repeated then { f with strictFault := some culprit, message := some duplicateMessage } else f
    else if f.latentFault.isSome then f
    else if Token.isRestricted name then
      { f with latentFault := some culprit, message := some restrictedMessage }
    else if Token.isStrictReserved name then
      { f with latentFault := some culprit
               message := some "Use of future reserved word in strict mode" }
    else if repeated then { f with strictFault := some culprit, message := some duplicateMessage }
    else f
  { f with names := name :: f.names }

/-- Adds a parameter whose bound names are added already. -/
def push (f : Formals) (param : Tree) : Formals :=
  { f with params := f.params ++ [param], simple := f.simple && param.isKind "Identifier" }

end Formals

namespace Grammar

/-- The error of a fault; without its own message it is that of the token. -/
def failOn {α : Type} (culprit : Culprit) (message : Option String) : Grammar α := do
  match culprit, message with
  | .token t, some message => failAt t message
  | .token t, none => unexpected t
  | .part, message => fail (message.getD "Unexpected token ILLEGAL")

/-- In strict code the faults of the parameters come to light. -/
def checkFormals (f : Formals) (message : Option String) : Grammar Unit := do
  if (← setting).strict then
    if let some culprit := f.latentFault then failOn culprit message
    if let some culprit := f.strictFault then failOn culprit message

/-- The parameters of an arrow function in place of the marks that a group leaves. -/
def arrowParams (t : Tree) : Option (List Tree) :=
  if t.isKind "Identifier" then some [t]
  else if t.isKind "ArrowParameterPlaceHolder" then some (t.get "params").items
  else none

/-- The mark that a group leaves when it holds the parameters of an arrow function. -/
def arrowMark (params : List Tree) (isAsync : Bool) : Tree :=
  .obj 0 [("type", .str "ArrowParameterPlaceHolder"), ("params", .list params),
    ("async", .bool isAsync)]

/-- A default value `yield` is a name here, unless it has an operand. -/
def yieldAsName (param : Tree) : Grammar Tree := do
  let right := param.get "right"
  if param.isKind "AssignmentPattern" && right.isKind "YieldExpression" then
    if (right.get "argument").truthy then unexpectedAhead
    let named := ((right.set "type" (.str "Identifier")).drop "argument").drop "delegate"
    return param.set "right" (named.set "name" (.str "yield"))
  else return param

/-- Adds the names that a parameter of an arrow function binds. -/
def bindPattern (f : Formals) (param : Tree) : Grammar Formals := do
  let strict := (← setting).strict
  return (param.boundNames.foldl (fun f name => f.bind strict .part name) f).push param

/-- Adds a parameter of an arrow function. -/
def bindArrowParam (isAsync : Bool) (f : Formals) (param : Tree) : Grammar Formals := do
  let named ← yieldAsName param
  if isAsync && !param.isKind "AssignmentPattern" && param.isKind "Identifier"
      && (param.get "name").str? == some "await" then unexpectedAhead
  bindPattern f named

/-- Adds the parameters of an arrow function, from left to right. -/
def bindArrowParams (isAsync : Bool) : Formals → List Tree → Grammar Formals
  | f, [] => return f
  | f, param :: rest => do bindArrowParams isAsync (← bindArrowParam isAsync f param) rest

/-- Checks the parameters of an arrow function. -/
def arrowFormals (params : List Tree) (isAsync : Bool) : Grammar Formals := do
  let f ← bindArrowParams isAsync {} params
  let s ← setting
  if (s.strict || !s.allowYield) && params.any (·.isKind "YieldExpression") then unexpectedAhead
  if f.message == some Formals.duplicateMessage then
    match if s.strict then f.strictFault else f.latentFault with
    | some culprit => failOn culprit f.message
    | none => fail Formals.duplicateMessage
  return f

end Grammar

end Deminify
