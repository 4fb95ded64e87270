import Deminify.Bundle.Registry
import Deminify.Tree.Walk

/-!
# Bundles with a bootstrap

A webpack 4 bundle calls its bootstrap with the registry as its argument: an array of factories, or
an object from ids to factories. The bootstrap declares the require function, hangs the registry on
it, and requires the entry.

* `Deminify.Bundle.bootstrapOf?` – the bootstrap of a call, and the name of its require function;
* `Deminify.Bundle.bootstrapEntries` – the entries it requires;
* `Deminify.Bundle.readBootstrap?` – **the bundle of a call**, if it is one of this form.
-/

namespace Deminify.Bundle

/-- Whether a node is the name `name`. -/
def isName (t : Tree) (name : String) : Bool :=
  t.isIdentifier && (t.get "name").str? == some name

/-- The object and the property of an access by a name. -/
def memberNames? (t : Tree) : Option (String × String) := do
  guard (t.isKind "MemberExpression" && !(t.get "computed").truthy)
  let object := t.get "object"
  let property := t.get "property"
  guard (object.isIdentifier && property.isIdentifier)
  return (← (object.get "name").str?, ← (property.get "name").str?)

/-- The names of the functions that statements declare. -/
def functionNames (body : List Tree) : List String :=
  body.filterMap fun statement =>
    if statement.isKind "FunctionDeclaration" then ((statement.get "id").get "name").str? else none

/-- The function on which a node hangs the registry as `m`. -/
def requireHolding? (functions : List String) (registry : String) (t : Tree) : Option String := do
  guard (t.isKind "AssignmentExpression" && isName (t.get "right") registry)
  match memberNames? (t.get "left") with
  | some (object, "m") => if functions.contains object then some object else none
  | _ => none

/-- The bootstrap that a call runs, and the name of its require function. -/
def bootstrapOf? (call : Tree) : Option (Tree × String) := do
  let callee := call.get "callee"
  guard (callee.isKind "FunctionExpression")
  match (callee.get "params").items, (call.get "arguments").items with
  | [parameter], registry :: _ =>
    guard (registry.isKind "ArrayExpression" || registry.isKind "ObjectExpression")
    guard parameter.isIdentifier
    let body := callee.get "body"
    let functions := functionNames (body.get "body").items
    let name ← (parameter.get "name").str?
    let require ← body.subtree.findSome? (requireHolding? functions name)
    return (callee, require)
  | _, _ => none

/-- The one argument of a call of the require function. -/
def requiredArgument? (require : String) (t : Tree) : Option Tree := do
  guard (t.isKind "CallExpression" && isName (t.get "callee") require)
  match (t.get "arguments").items with
  | [argument] => return argument
  | _ => none

/-- The entry that a required argument sets, as in `require(require.s = 0)`. -/
def entryAssigned? (require : String) (argument : Tree) : Option ModuleId := do
  guard (argument.isKind "AssignmentExpression")
  guard (memberNames? (argument.get "left") == some (require, "s"))
  guard (argument.get "right").isLiteral
  ModuleId.ofTree? (argument.get "right")

/-- The entries that a bootstrap requires outside its require function: those it sets, or else those
it names. -/
def bootstrapEntries (bootstrap : Tree) (require : String) : List ModuleId :=
  let body := bootstrap.get "body"
  let function := (body.get "body").items.find? fun statement =>
    statement.isKind "FunctionDeclaration" && isName (statement.get "id") require
  let inside := (function.map fun f => f.subtree.map Tree.label).getD []
  let arguments := (body.subtree.filter fun t => !inside.contains t.label).filterMap
    (requiredArgument? require)
  let set := arguments.filterMap (entryAssigned? require)
  if set.isEmpty then (arguments.filter Tree.isLiteral).filterMap ModuleId.ofTree? else set

/-- Adds the modules of an array of factories. -/
def readArray (origin : Origin) (r : Registry) (elements : List Tree) : Except Failure Registry :=
  elements.zipIdx.foldlM (fun r (factory, index) => do
    if !isFunction factory then return r
    let id := ModuleId.number index
    (r.addPath id (bannerPath? factory)).addFactory origin webpackParameters id factory) r

/-- The bundle of a call of a bootstrap. -/
def readBootstrap? (origin : Origin) (call : Tree) : Except Failure (Option Bundle) := do
  match bootstrapOf? call, (call.get "arguments").items with
  | some (bootstrap, require), registry :: _ =>
    let r ← if registry.isKind "ArrayExpression" then
        readArray origin {} (registry.get "elements").items
      else readObject origin {} registry
    return some ({ r with entries := bootstrapEntries bootstrap require }.bundle "webpack4")
  | _, _ => return none

end Deminify.Bundle
