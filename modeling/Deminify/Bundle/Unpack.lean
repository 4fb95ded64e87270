import Deminify.Bundle.Runtime
import Deminify.Program

/-!
# Unpacking a bundle

A browserify bundle is a call with three arguments: the definitions, each a factory together with the
names by which it requires other modules; a cache; and the list of entries.

* `Deminify.Bundle.definitionsOf?` – the definitions of a call;
* `Deminify.Bundle.readDefinitions?` – **the bundle of a call**, if it is one of this form;
* `Deminify.Bundle.candidateCalls` – the calls that may be a bundle;
* `Deminify.Bundle.unpack` – **the modules of a bundle**; nothing is executed.
-/

namespace Deminify.Bundle

/-! ### Bundles of definitions -/

/-- A definition: the id, the factory and the object from names to ids. -/
structure Definition where
  id : ModuleId
  factory : Tree
  dependencies : Tree

/-- The definition that a property gives. -/
def definitionOf? (property : Tree) : Option Definition := do
  let value := property.get "value"
  guard (property.isKind "Property" && value.isKind "ArrayExpression")
  match (value.get "elements").items with
  | [factory, dependencies] =>
    guard (isFunction factory && dependencies.isKind "ObjectExpression")
    return ⟨← ModuleId.ofTree? (property.get "key"), factory, dependencies⟩
  | _ => none

/-- The definitions and the entries of a call; every property must be a definition, and there must
be one. -/
def definitionsOf? (call : Tree) : Option (List Definition × List Tree) := do
  match (call.get "arguments").items with
  | [modules, cache, entries] =>
    guard (modules.isKind "ObjectExpression" && cache.isKind "ObjectExpression"
      && entries.isKind "ArrayExpression")
    let elements := (entries.get "elements").items
    guard (elements.all Tree.isLiteral)
    let definitions ← (modules.get "properties").items.mapM definitionOf?
    guard !definitions.isEmpty
    return (definitions, elements)
  | _ => none

/-- Notes the names by which a definition requires other modules as their paths. -/
def addDependencies (r : Registry) (dependencies : Tree) : Registry :=
  (dependencies.get "properties").items.foldl (fun r dependency =>
    let value := dependency.get "value"
    if dependency.isKind "Property" && value.isLiteral then
      match ModuleId.ofTree? value, ModuleId.ofTree? (dependency.get "key") with
      | some target, some (.name name) => r.addPath target (some name)
      | _, _ => r
    else r) r

/-- The bundle of a call with definitions, a cache and entries. -/
def readDefinitions? (origin : Origin) (call : Tree) : Except Failure (Option Bundle) := do
  match definitionsOf? call with
  | none => return none
  | some (definitions, entries) =>
    let r ← definitions.foldlM (fun r definition => do
      let r ← Registry.addFactory r origin ["require", "module", "exports"] definition.id
        definition.factory
      return addDependencies r definition.dependencies) ({} : Registry)
    return some ({ r with entries := entries.filterMap ModuleId.ofTree? }.bundle "browserify")

/-! ### Bundles of any form -/

/-- The calls among expressions still to be looked at, the first first: `!`, `void`, assignments and
sequences are looked through. -/
def callsAmong : Nat → List Tree → List Tree
  | 0, _ => []
  | _, [] => []
  | fuel + 1, t :: rest =>
    if t.isKind "UnaryExpression" then
      if ["!", "void"].contains (((t.get "operator").str?).getD "") then
        callsAmong fuel (rest ++ [t.get "argument"])
      else callsAmong fuel rest
    else if t.isKind "AssignmentExpression" then callsAmong fuel (rest ++ [t.get "right"])
    else if t.isKind "SequenceExpression" then
      callsAmong fuel (rest ++ (t.get "expressions").items)
    else if t.isKind "CallExpression" then t :: callsAmong fuel rest
    else callsAmong fuel rest

/-- The calls that may be a bundle: those of the statements of the program. -/
def candidateCalls (body : List Tree) : List Tree :=
  body.flatMap fun statement =>
    if statement.isKind "ExpressionStatement" then
      callsAmong statement.subtree.length [statement.get "expression"]
    else []

/-- The bundle of a call, whatever its form. -/
def readCall? (origin : Origin) (call : Tree) : Except Failure (Option Bundle) := do
  if let some bundle ← readDefinitions? origin call then return some bundle
  if let some bundle ← readBootstrap? origin call then return some bundle
  readRuntime? origin call

/-- The modules of a bundle. -/
def unpack (source : String) : Except Failure Bundle := do
  match Program.read source with
  | .error e => throw (.bundleUnreadable e)
  | .ok p =>
    let calls := candidateCalls (p.tree.get "body").items
    match ← calls.findSomeM? (readCall? ⟨source, p.next⟩) with
    | some bundle => return bundle
    | none => throw .bundleUnknown

end Deminify.Bundle
