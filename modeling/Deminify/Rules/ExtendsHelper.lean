import Deminify.Rule.Context
import Deminify.Rule.Params
import Deminify.Tree.Build

/-!
# The helper that copies properties

A compiler without object spread writes `{ ...a, b: 1 }` as a call `_extends({}, a, { b: 1 })` of a
helper that it imports or requires. Such a call becomes one object again: the properties of its
object arguments, and a spread for every other argument. When nothing uses the helper any more, what
binds it goes.

* `Deminify.Rules.ExtendsHelper.helperBindings` – the names that hold the helper;
* `Deminify.Rules.ExtendsHelper.helperName?` – the helper's name in a callee;
* `Deminify.Rules.ExtendsHelper.merged` – the properties of the object;
* `Deminify.Rules.ExtendsHelper.run` – **restores every spread**, from the inside out.
-/

namespace Deminify.Rules.ExtendsHelper

/-- The modules that the helper comes from. -/
structure Options where
  sources : List String := ["@babel/runtime/helpers/extends", "@babel/runtime/helpers/esm/extends"]

/-- The options from the parameters of a run. -/
def Options.ofParams (params : Params) : Except Failure Options :=
  let default : Options := {}
  Params.check "Options" (Options.mk <$> Setting.orDefault default.sources Setting.texts
    (params.find? ["helperSources", "helper_sources"]))

section Failing

variable {m : Type → Type} [Monad m] [MonadExceptOf Failure m]

/-! ### Where the helper is bound -/

/-- The module name in `require("x")`, possibly inside calls with that one argument. -/
def requiredSourceWithin : Nat → Tree → m (Option String)
  | 0, _ => pure none
  | fuel + 1, init => do
    if init.isNull then return none
    if (← init.kindOf) != "CallExpression" then return none
    let arguments ← init.listField "arguments"
    if ← (← init.field "callee").isNamed "require" then
      match arguments with
      | [argument] => return if argument.isStringLiteral then (argument.get "value").str? else none
      | _ => return none
    else
      match arguments with
      | [argument] => requiredSourceWithin fuel argument
      | _ => return none

/-- The module name that an initial value requires. -/
def requiredSource (init : Tree) : m (Option String) := requiredSourceWithin init.height init

/-- Whether an import specifier stands for a whole module. -/
def isWholeSpecifier (specifier : Tree) : Bool :=
  specifier.isKind "ImportDefaultSpecifier" || specifier.isKind "ImportNamespaceSpecifier"

/-- The bindings of the helper that a statement makes. -/
def helpersOf (s : ScopeTree) (sources : List String) (statement : Tree) : m (List Nat) := do
  let isSource (value : Option String) : Bool := value.any sources.contains
  match ← statement.kindOf with
  | "ImportDeclaration" =>
    if isSource ((← statement.field "source").get "value").str? then
      (statement.get "specifiers").items.filterMapM fun specifier => do
        if isWholeSpecifier specifier then
          return s.bindingFor (← specifier.field "local").label
        else return none
    else return []
  | "VariableDeclaration" =>
    (← statement.listField "declarations").filterMapM fun declarator => do
      let target ← declarator.field "id"
      if !target.isIdentifier then return none
      if !isSource (← requiredSource (declarator.get "init")) then return none
      return (s.bindingFor target.label).filter fun b => (s.binding b).constant
  | _ => return []

/-- The bindings of the helper in the program. -/
def helperBindings (s : ScopeTree) (sources : List String) (root : Tree) : m (List Nat) := do
  return (← (← root.listField "body").mapM (helpersOf s sources)).flatten

/-! ### Calls -/

/-- What a callee calls: the last expression of a sequence of literals, otherwise itself. -/
def calledIn? (callee : Tree) : m (Option Tree) := do
  if (← callee.kindOf) != "SequenceExpression" then return some callee
  let expressions ← callee.listField "expressions"
  if expressions.dropLast.all Tree.isLiteral then return expressions.getLast? else return none

/-- The object of an access to `default`, otherwise the expression itself. -/
def withoutDefault? (callee : Tree) : m (Option Tree) := do
  if (← callee.kindOf) != "MemberExpression" then return some callee
  let property ← callee.field "property"
  if (callee.get "computed").truthy then return none
  if ← property.isNamed "default" then return some (← callee.field "object") else return none

/-- The name of a helper in a callee, if it calls one. -/
def helperName? (s : ScopeTree) (helpers : List Nat) (callee : Tree) : m (Option Tree) := do
  match ← calledIn? callee with
  | none => return none
  | some called =>
    match ← withoutDefault? called with
    | none => return none
    | some name =>
      if name.isIdentifier && (s.bindingFor name.label).any helpers.contains then return some name
      else return none

/-- The properties of an object made from arguments: those of objects, and spreads of the rest. -/
def merged (arguments : List Tree) : m (List Tree) := do
  let parts ← arguments.mapM fun argument => do
    if (← argument.kindOf) == "ObjectExpression" then argument.listField "properties"
    else return [Tree.spreadElement argument]
  return parts.flatten

/-- The object that a call of the helper with these arguments makes. Its first argument must be an
object, so that nothing else is changed by the call, and spreads among the arguments stay calls. -/
def objectOf? (arguments : List Tree) : m (Option Tree) := do
  match arguments with
  | [] => return none
  | first :: _ =>
    if (← first.kindOf) != "ObjectExpression" then return none
    if ← arguments.anyM fun a => return (← a.kindOf) == "SpreadElement" then return none
    return some (Tree.objectExpression (← merged arguments))

end Failing

/-- Restores the object of the call at a place, if it calls the helper. -/
def restore (helpers : List Nat) (places : Array Place) (i : Nat) : Editing (Array Place) := do
  let call := (← Editing.doc).nodeAt places i
  match ← helperName? (← Editing.view) helpers (← call.field "callee") with
  | none => return places
  | some name =>
    match ← objectOf? (← call.listField "arguments") with
    | none => return places
    | some object =>
      let spelling := ((name.get "name").str?).getD ""
      Editing.updateView (·.removeReference name.label spelling)
      Editing.replaceAt places i (← Editing.adopt (object.withCommentsOf call))

/-! ### Imports of the helper -/

/-- The key under which a statement lists what it binds. -/
def bindingKey? (statement : Tree) : Option String :=
  if statement.isKind "ImportDeclaration" then some "specifiers"
  else if statement.isKind "VariableDeclaration" then some "declarations"
  else none

/-- The statements without the binding nodes with the given labels, from an index on; a statement
that binds nothing any more goes. -/
def dropNodesFrom (nodes : List Nat) : Nat → List Tree → Nat → List Tree
  | 0, body, _ => body
  | fuel + 1, body, index =>
    match body[index]? with
    | none => body
    | some statement =>
      match bindingKey? statement with
      | none => dropNodesFrom nodes fuel body (index + 1)
      | some key =>
        let all := (statement.get key).items
        let kept := all.filter fun t => !nodes.contains t.label
        if kept.length == all.length then dropNodesFrom nodes fuel body (index + 1)
        else if kept.isEmpty then dropNodesFrom nodes fuel (removeStatement body index) index
        else dropNodesFrom nodes fuel (body.set index (statement.set key (.list kept))) (index + 1)

/-- The statements without the binding nodes with the given labels. -/
def dropNodes (nodes : List Nat) (body : List Tree) : List Tree :=
  dropNodesFrom nodes body.length body 0

/-- Takes away the bindings of the helper that nothing refers to. -/
def removeUnused (helpers : List Nat) : Editing Unit := do
  let s ← Editing.view
  let unused := helpers.filter fun b => (s.binding b).references.isEmpty
  if unused.isEmpty then return
  let nodes := unused.filterMap fun b => (s.binding b).node
  for (owner, key) in ← (← Editing.root).statementLists do
    Editing.updateDoc (·.editList owner key (dropNodes nodes))
  for b in unused do Editing.updateView (·.removeBinding b)

/-- Restores every spread and drops the helper where nothing uses it any more. -/
def run (options : Options) : Editing Unit := do
  let s ← Editing.scopes
  let root ← Editing.root
  let helpers ← helperBindings s options.sources root
  if helpers.isEmpty then return
  let calls := root.subtree.zipIdx.filter fun (t, _) => t.isKind "CallExpression"
  discard ((calls.map (·.2)).reverse.foldlM (restore helpers) root.places)
  removeUnused helpers

end Deminify.Rules.ExtendsHelper
