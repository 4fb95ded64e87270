import Deminify.Rule.Context

/-!
# Strict mode directives

A program or a function body may start with directives: statements that are nothing but a text. Only
that leading run is looked at, and of it only `"use strict"` goes; its comments move on to a
neighbour.

* `Deminify.Rules.StrictDirective.strip` – a body without its strict directives;
* `Deminify.Rules.StrictDirective.owners` – what may start with directives;
* `Deminify.Rules.StrictDirective.run` – **strips the program and every function body**.
-/

namespace Deminify.Rules.StrictDirective

/-- Whether a statement is nothing but a text. -/
def isDirective (statement : Tree) : Bool :=
  statement.isKind "ExpressionStatement" && (statement.get "expression").isStringLiteral

/-- Whether a directive asks for strict mode. -/
def isStrict (statement : Tree) : Bool :=
  ((statement.get "expression").get "value").str? == some "use strict"

/-- The body without the strict directives of its leading run from an index on. -/
def stripFrom : Nat → List Tree → Nat → List Tree
  | 0, body, _ => body
  | fuel + 1, body, index =>
    match body[index]? with
    | none => body
    | some statement =>
      if isDirective statement then
        if isStrict statement then stripFrom fuel (removeStatement body index) index
        else stripFrom fuel body (index + 1)
      else body

/-- The body without its strict directives: each step drops a statement or passes one. -/
def strip (body : List Tree) : List Tree := stripFrom body.length body 0

/-- The labels of what may start with directives: the program, and each block that is the body of a
function. -/
def owners (root : Tree) : List Nat :=
  root.label :: root.subtree.filterMap fun t =>
    if Tree.isFunctionKind t.kind && (t.get "body").isKind "BlockStatement" then
      some (t.get "body").label
    else none

/-- The statements of a body; a single node has no first statement. -/
def statementsOf : Tree → Except Failure (List Tree)
  | .list items => .ok items
  | .obj _ _ => .error (.missing "0")
  | other => .error (.shape s!"{other.sort} is no body")

/-- The bodies that may start with directives. -/
def bodies (root : Tree) : Except Failure (List (List Tree)) := do
  let first ← root.field "body"
  let rest ← root.subtree.filterMapM fun t => do
    if Tree.isFunctionKind (← t.kindOf) then
      let body ← t.field "body"
      if (← body.kindOf) == "BlockStatement" then return some (← body.listField "body")
    return none
  return (← statementsOf first) :: rest

/-- Fails unless the statements of a leading run have what is asked of them. -/
def check : List Tree → Except Failure Unit
  | [] => return
  | statement :: rest => do
    if (← statement.kindOf) == "ExpressionStatement" then
      if (← statement.field "expression").isStringLiteral then check rest

/-- Takes the strict directives out of the program and of every function body. -/
def run : Editing Unit := do
  let all ← Editing.ask (bodies (← Editing.root))
  Editing.ask (all.forM check)
  for owner in owners (← Editing.root) do
    Editing.updateDoc (·.editList owner "body" strip)

end Deminify.Rules.StrictDirective
