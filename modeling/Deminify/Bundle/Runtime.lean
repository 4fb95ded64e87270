import Deminify.Bundle.Bootstrap

/-!
# Bundles with a runtime

A webpack 5 bundle is a function without parameters that is called right away. Inside, a variable
holds the registry, a function requires from it, further statements belong to the runtime, and what
remains is the entry: calls of the require function, or the code of the entry itself.

* `Deminify.Bundle.runtimeOf?` – the statements, the registry and the require function of a call;
* `Deminify.Bundle.isRuntimeStatement` – what belongs to the runtime;
* `Deminify.Bundle.inlineEntry` – the entry as a module of its own;
* `Deminify.Bundle.readRuntime?` – **the bundle of a call**, if it is one of this form.
-/

namespace Deminify.Bundle

/-- The parts of a runtime. -/
structure Runtime where
  body : List Tree
  registry : Tree
  requireFunction : Tree

/-- The name of the require function. -/
def Runtime.require (runtime : Runtime) : String :=
  (((runtime.requireFunction.get "id").get "name").str?).getD ""

/-- Whether a declarator binds a name to an object of functions. -/
def isRegistry (declarator : Tree) : Bool :=
  let init := declarator.get "init"
  let properties := (init.get "properties").items
  (declarator.get "id").isIdentifier && init.isKind "ObjectExpression" && !properties.isEmpty
    && properties.all fun property => isFunction (property.get "value")

/-- The declarators that may be registries, by name: a later one takes the place of an earlier. -/
def registriesOf (body : List Tree) : List (String × Tree) :=
  let declarators := (body.filter (·.isKind "VariableDeclaration")).flatMap fun statement =>
    (statement.get "declarations").items
  (declarators.filter isRegistry).foldl (fun table declarator =>
    putKey table (((declarator.get "id").get "name").str?.getD "") declarator) []

/-- Whether a node reads an entry of a registry by a name. -/
def readsEntry (registry name : String) (t : Tree) : Bool :=
  t.isKind "MemberExpression" && (t.get "computed").truthy && isName (t.get "object") registry
    && isName (t.get "property") name

/-- The registry from which a statement requires: the statement is a function with one parameter by
which it reads an entry. -/
def requiresFrom? (registries : List (String × Tree)) (statement : Tree) : Option Tree := do
  guard (statement.isKind "FunctionDeclaration")
  match (statement.get "params").items with
  | [parameter] =>
    guard parameter.isIdentifier
    let name ← (parameter.get "name").str?
    let (_, declarator) ← registries.find? fun (registry, _) =>
      (statement.get "body").someNode (readsEntry registry name)
    return declarator
  | _ => none

/-- The body of a function without parameters that is a block. -/
def plainBody? (callee : Tree) : Option (List Tree) := do
  guard (callee.isKind "ArrowFunctionExpression" || callee.isKind "FunctionExpression")
  guard (callee.get "params").items.isEmpty
  guard ((callee.get "body").isKind "BlockStatement")
  return ((callee.get "body").get "body").items

/-- The runtime that a call runs. -/
def runtimeOf? (call : Tree) : Option Runtime := do
  guard (call.get "arguments").items.isEmpty
  let body ← plainBody? (call.get "callee")
  let registries := registriesOf body
  body.findSome? fun statement =>
    (requiresFrom? registries statement).map fun registry => ⟨body, registry, statement⟩

/-! ### What belongs to the runtime -/

/-- The name at the root of a chain of accesses, `fuel` long at most. -/
def rootNameWithin : Nat → Tree → Option String
  | 0, _ => none
  | fuel + 1, t =>
    if t.isKind "MemberExpression" then rootNameWithin fuel (t.get "object")
    else if t.isIdentifier then (t.get "name").str?
    else none

/-- Whether a node assigns to a member of a name. -/
def assignsTo (name : String) (t : Tree) : Bool :=
  let left := t.get "left"
  t.isKind "AssignmentExpression" && left.isKind "MemberExpression"
    && rootNameWithin left.height left == some name

/-- The body of a function that a statement calls right away, with `!` or `void` in front or not. -/
def calledBody? (statement : Tree) : Option (List Tree) := do
  guard (statement.isKind "ExpressionStatement")
  let expression := statement.get "expression"
  let isMarked := expression.isKind "UnaryExpression"
    && ["!", "void"].contains (((expression.get "operator").str?).getD "")
  let call := if isMarked then expression.get "argument" else expression
  guard (call.isKind "CallExpression" && (call.get "arguments").items.isEmpty)
  plainBody? (call.get "callee")

/-- Whether a declarator belongs to the runtime: the registry, or an empty object that the require
function mentions, its cache. -/
def isRuntimeDeclarator (runtime : Runtime) (declarator : Tree) : Bool :=
  let init := declarator.get "init"
  let isCache (t : Tree) : Bool :=
    match ((declarator.get "id").get "name").str? with
    | some name => isName t name
    | none => t.isIdentifier
  declarator.label == runtime.registry.label
    || (init.isKind "ObjectExpression" && (init.get "properties").items.isEmpty
      && runtime.requireFunction.someNode isCache)

/-- Whether a statement belongs to the runtime. -/
def isRuntimeStatement (runtime : Runtime) (statement : Tree) : Bool :=
  if statement.label == runtime.requireFunction.label then true
  else if statement.isKind "VariableDeclaration" then
    (statement.get "declarations").items.any (isRuntimeDeclarator runtime)
  else if statement.isKind "ExpressionStatement" then
    let expression := statement.get "expression"
    expression.isLiteral || assignsTo runtime.require expression
      || (calledBody? statement).any fun body =>
        body.any fun t => t.someNode (assignsTo runtime.require)
  else false

/-! ### The entry -/

/-- The module that a statement does nothing but require. -/
def entryOf? (require : String) (statement : Tree) : Option ModuleId := do
  let call ← if statement.isKind "ExpressionStatement" then some (statement.get "expression")
    else if statement.isKind "VariableDeclaration" then
      match (statement.get "declarations").items with
      | [declarator] => some (declarator.get "init")
      | _ => none
    else none
  let argument ← requiredArgument? require call
  guard argument.isLiteral
  ModuleId.ofTree? argument

/-- The entry as a module: the bodies of functions that are called right away stand for themselves,
and the require function is called what modules call it. -/
def inlineEntry (origin : Origin) (statements : List Tree) (require : String) :
    Except Failure Module := do
  let flattened := statements.flatMap fun statement => (calledBody? statement).getD [statement]
  let d := Document.ofTree (Tree.program flattened) origin.next
  let d ← if require == "require" then pure d
    else do
      let s ← ScopeTree.build d.root
      let name := s.generateName "require" 0
      pure (d.rename (s.renameGlobal require name).2 name)
  return ⟨.name "entry", ← d.root.print (some origin.source), true, none⟩

/-- The bundle of a call of a runtime. -/
def readRuntime? (origin : Origin) (call : Tree) : Except Failure (Option Bundle) := do
  match runtimeOf? call with
  | none => return none
  | some runtime =>
    let r ← readObject origin {} (runtime.registry.get "init")
    let remaining := runtime.body.filter (!isRuntimeStatement runtime ·)
    let entries := remaining.map (entryOf? runtime.require)
    let r ← if entries.all Option.isSome then pure { r with entries := entries.filterMap id }
      else do
        let entry ← inlineEntry origin remaining runtime.require
        pure { r with modules := r.modules ++ [entry], entries := [.name "entry"] }
    return some (r.bundle "webpack5")

end Deminify.Bundle
