import Deminify.Rule.Context
import Deminify.Tree.Build

/-!
# Direct calls

A bundler writes a call of an imported function as `(0, object.method)(…)`, so that the module
object is not passed along. Where the object is a whole imported or required module, the method is
bound by its own name and called directly: an import names it, and after a `require` a pattern takes
it out of the object.

* `Deminify.Rules.DirectCall.indirect?` – the object and the method of such a callee;
* `Deminify.Rules.DirectCall.Origin` – where the object comes from;
* `Deminify.Rules.DirectCall.importLocal`, `Deminify.Rules.DirectCall.requireLocal` – the local name
  of a method;
* `Deminify.Rules.DirectCall.run` – **makes the calls direct**, then drops imports left unused.
-/

namespace Deminify.Rules.DirectCall

/-- Where the object of an indirect call is bound: the statement, and the list that holds it. -/
structure Origin where
  imported : Bool
  binding : Nat
  statement : Nat
  owner : Nat
  key : String

/-- A method of an object, and its calls: each call with the name of the object in it. -/
structure Method where
  origin : Origin
  name : String
  calls : List (Nat × Nat)

section Failing

variable {m : Type → Type} [Monad m] [MonadExceptOf Failure m]

/-! ### Finding the calls -/

/-- The object and the method of a callee `(0, object.method)`. -/
def indirect? (callee : Tree) : m (Option (Tree × String)) := do
  if (← callee.kindOf) != "SequenceExpression" then return none
  let expressions ← callee.listField "expressions"
  if expressions.length < 2 || !expressions.dropLast.all Tree.isLiteral then return none
  match expressions.getLast? with
  | none => return none
  | some member =>
    if (← member.kindOf) != "MemberExpression" then return none
    let object ← member.field "object"
    if !object.isIdentifier then return none
    return (← member.staticName).bind fun method =>
      if isIdentifierName method then some (object, method) else none

/-- Whether a value is a call of `require` with a literal. -/
def isRequire (t : Tree) : m Bool := do
  if t.isNull then return false
  if (← t.kindOf) != "CallExpression" then return false
  if !(← (← t.field "callee").isNamed "require") then return false
  match ← t.listField "arguments" with
  | [argument] => return argument.isLiteral
  | _ => return false

/-- Whether an import specifier stands for a whole module. -/
def isWhole (specifier : Tree) : Bool :=
  specifier.isKind "ImportDefaultSpecifier" || specifier.isKind "ImportNamespaceSpecifier"

/-- The statement in a list that lists the node with a label under a key. -/
def statementOf? (d : Document) (owner : Nat) (listKey kind key : String) (label : Nat) :
    Option Tree :=
  (d.listAt owner listKey).find? fun statement =>
    statement.isKind kind && (statement.get key).items.any (·.label == label)

/-- Where a binding comes from, if it is a whole imported or required module. -/
def originOf? (d : Document) (s : ScopeTree) (b : Nat) : m (Option Origin) := do
  let binding := s.binding b
  match binding.node.bind d.find? with
  | none => return none
  | some node =>
    if isWhole node then
      return (statementOf? d d.root.label "body" "ImportDeclaration" "specifiers" node.label).map
        fun statement => ⟨true, b, statement.label, d.root.label, "body"⟩
    else if node.isKind "VariableDeclarator" then
      if (← isRequire (node.get "init")) && binding.constant then
        return (← d.root.statementLists).findSome? fun (owner, key) =>
          (statementOf? d owner key "VariableDeclaration" "declarations" node.label).map
            fun statement => ⟨false, b, statement.label, owner, key⟩
      else return none
    else return none

/-- Adds a call to the methods found so far. -/
def addCall (d : Document) (s : ScopeTree) (methods : List Method) (call : Tree) :
    m (List Method) := do
  match ← indirect? (← call.field "callee") with
  | none => return methods
  | some (object, name) =>
    match s.bindingFor object.label with
    | none => return methods
    | some b =>
      let isSame (method : Method) : Bool := method.origin.binding == b && method.name == name
      if methods.any isSame then
        return methods.map fun method =>
          if isSame method then
            { method with calls := method.calls ++ [(call.label, object.label)] }
          else method
      else
        match ← originOf? d s b with
        | none => return methods
        | some origin => return methods ++ [⟨origin, name, [(call.label, object.label)]⟩]

end Failing

/-! ### Imports -/

/-- The local name of a method of an imported module, imported by name unless it is so already. -/
def importLocal (method : Method) : Editing String := do
  let declaration ← Editing.node method.origin.statement
  let specifiers := (declaration.get "specifiers").items
  let known ← specifiers.findSomeM? fun specifier => do
    if specifier.isKind "ImportSpecifier" then
      if (← (← specifier.field "imported").textField "name") == method.name then
        return some (← (← specifier.field "local").textField "name")
    return none
  match known with
  | some name => return name
  | none =>
    let name := (← Editing.view).generateName method.name 0
    let specifier ← Editing.adopt (Tree.importSpecifier method.name name)
    Editing.updateDoc (·.editList declaration.label "specifiers" (· ++ [specifier]))
    Editing.updateView fun s =>
      (s.declare 0 (specifier.get "local").label name "module" (some specifier)).1
    return name

/-- The specifiers of an import without those that stand for a whole module nothing uses. -/
def dropUnused (specifiers : List Tree) : Editing (List Tree) :=
  specifiers.filterM fun specifier => do
    if !isWhole specifier then return true
    let s ← Editing.view
    match s.bindingFor (specifier.get "local").label with
    | none => return true
    | some b =>
      let binding := s.binding b
      if binding.references.isEmpty && binding.writes.isEmpty then
        Editing.updateView (·.removeBinding b)
        return false
      else return true

/-- Whether an import takes anything from a module by name. -/
def isNamedSpecifier (specifier : Tree) : Bool := specifier.isKind "ImportSpecifier"

/-- The value of the source of an import. -/
def sourceOf (declaration : Tree) : Tree := (declaration.get "source").get "value"

/-- Drops what is left unused of another import of the same module, and the import with it. -/
def tidyOther (origin : Origin) (source : Tree) (label : Nat) : Editing Unit := do
  let other ← Editing.node label
  let specifiers := (other.get "specifiers").items
  if label == origin.statement || !other.isKind "ImportDeclaration" || specifiers.isEmpty then return
  if !(sourceOf other).sameScalar source || specifiers.any isNamedSpecifier then return
  let kept ← dropUnused specifiers
  Editing.setField label "specifiers" (.list kept)
  if kept.isEmpty then
    Editing.updateDoc (·.editList origin.owner origin.key fun body =>
      body.eraseP (·.label == label))

/-- Drops what is left unused of an import and of other imports of its module. A namespace and names
cannot be imported together, so the names then go to an import of their own. An import without
anything left goes itself; one from which a method is taken by name keeps that name. -/
def tidyImport (origin : Origin) : Editing Unit := do
  let source := sourceOf (← Editing.node origin.statement)
  for other in (← Editing.doc).listAt origin.owner origin.key do tidyOther origin source other.label
  let declaration ← Editing.node origin.statement
  let kept ← dropUnused (declaration.get "specifiers").items
  let names := kept.filter isNamedSpecifier
  if kept.any (·.isKind "ImportNamespaceSpecifier") && !names.isEmpty then
    Editing.setField declaration.label "specifiers" (.list (kept.filter (!isNamedSpecifier ·)))
    let named ← Editing.adopt
      (Tree.importDeclaration names ((declaration.get "source").relabel 0))
    Editing.updateDoc (·.editList origin.owner origin.key fun body =>
      body.flatMap fun t => if t.label == declaration.label then [t, named] else [t])
  else
    Editing.setField declaration.label "specifiers" (.list kept)
    if kept.isEmpty then
      Editing.updateDoc (·.editList origin.owner origin.key fun body =>
        body.eraseP (·.label == declaration.label))

/-! ### Required modules -/

/-- The scope in which a name next to the `require` of an origin is declared. -/
def scopeOf (s : ScopeTree) (origin : Origin) : Nat :=
  (s.scopeFor origin.statement).getD (s.binding origin.binding).scope

/-- Whether a declaration next to the `require` is visible from every call. -/
def callsInReach (s : ScopeTree) (method : Method) : Bool :=
  method.calls.all fun (call, _) =>
    (s.ancestors ((s.scopeFor call).getD 0)).contains (scopeOf s method.origin)

/-- The declarator right after the `require` that takes the object apart. -/
def patternAfter? (d : Document) (s : ScopeTree) (origin : Origin) : Option Tree :=
  let body := d.listAt origin.owner origin.key
  match (body.dropWhile (·.label != origin.statement)).tail.head? with
  | some following =>
    if following.isKind "VariableDeclaration" then
      (following.get "declarations").items.find? fun declarator =>
        let init := declarator.get "init"
        (declarator.get "id").isKind "ObjectPattern" && init.isIdentifier
          && s.bindingFor init.label == some origin.binding
    else none
  | none => none

/-- The local name under which a pattern takes out a method. -/
def patternLocal? (declarator : Tree) (method : String) : Editing (Option String) :=
  ((declarator.get "id").get "properties").items.findSomeM? fun property => do
    if property.isKind "Property" then
      if (← property.keyName) == some method then
        let value ← property.field "value"
        if value.isIdentifier then return some (← value.textField "name")
    return none

/-- A new declaration right after the `require` that takes nothing out of the object yet. -/
def newPattern (origin : Origin) (scope : Nat) : Editing Tree := do
  let name := ((← Editing.view).binding origin.binding).name
  let declarator ← Editing.adopt
    (Tree.variableDeclarator (Tree.objectPattern []) (Tree.identifier name))
  let declaration ← Editing.adopt (Tree.variableDeclaration "const" [declarator])
  Editing.updateDoc (·.editList origin.owner origin.key fun body =>
    body.flatMap fun t => if t.label == origin.statement then [t, declaration] else [t])
  let source := (declarator.get "init").label
  Editing.updateView fun s =>
    ((s.setScope source scope).addReference source name scope
      (some (declarator.label, "init")) false).1
  return declarator

/-- The local name of a method of a required module, taken out of it unless it is so already. -/
def requireLocal (method : Method) : Editing String := do
  let scope := scopeOf (← Editing.view) method.origin
  let present := patternAfter? (← Editing.doc) (← Editing.view) method.origin
  let known ← match present with
    | some declarator => patternLocal? declarator method.name
    | none => pure none
  match known with
  | some name => return name
  | none =>
    let declarator ← match present with
      | some declarator => pure declarator
      | none => newPattern method.origin scope
    let name := (← Editing.view).generateName method.name scope
    let property ← Editing.adopt (Tree.property (Tree.identifier method.name)
      (Tree.identifier name) (name == method.name))
    Editing.updateDoc (·.editList (declarator.get "id").label "properties" (· ++ [property]))
    Editing.updateView fun s =>
      (s.declare scope (property.get "value").label name "const" (some declarator)).1
    return name

/-! ### Call sites -/

/-- Calls a local name directly where the method was called through its object. -/
def callDirectly (name : String) (call object : Nat) : Editing Unit := do
  let callee ← Editing.adopt (Tree.identifier name)
  let spelling := (((← Editing.node object).get "name").str?).getD ""
  Editing.setField call "callee" callee
  Editing.updateView fun s =>
    let s := s.removeReference object spelling
    let scope := (s.scopeFor call).getD 0
    ((s.setScope callee.label scope).addReference callee.label name scope
      (some (call, "callee")) false).1

/-- Makes the calls of a method direct, and tells whether it did. -/
def makeDirect (method : Method) : Editing Bool := do
  let name ← if method.origin.imported then some <$> importLocal method
    else if callsInReach (← Editing.view) method then some <$> requireLocal method
    else pure none
  match name with
  | none => return false
  | some name =>
    for (call, object) in method.calls do callDirectly name call object
    return true

/-- Makes indirect calls direct, then drops imports left unused. -/
def run : Editing Unit := do
  let s ← Editing.scopes
  let d ← Editing.doc
  let calls := d.root.subtree.filter (·.isKind "CallExpression")
  let methods ← calls.foldlM (addCall (m := Editing) d s) []
  for method in methods do discard (makeDirect method)
  let touched := (methods.map (·.origin)).filter (·.imported)
  let imports := touched.foldl (fun found origin =>
    if found.any fun (o : Origin) => o.statement == origin.statement then found
    else found ++ [origin]) []
  for origin in imports do tidyImport origin

end Deminify.Rules.DirectCall
