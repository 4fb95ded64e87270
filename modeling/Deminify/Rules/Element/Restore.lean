import Deminify.Rule.Context
import Deminify.Rules.Element.Parts
import Deminify.Tree.Build

/-!
# Restoring elements

Calls of element factories become elements again, from the inside out, so that the children of an
element are elements already. Before that, names get the case that tags need: a component that says
what it is called takes that name, and a small name that is used as an element type is capitalized.

* `Deminify.Rules.Element.nameComponents` – names from `displayName`;
* `Deminify.Rules.Element.capitalizeTypes` – capitals for element types;
* `Deminify.Rules.Element.elementOf?` – the element of a call;
* `Deminify.Rules.Element.run` – **restores every element**.
-/

namespace Deminify.Rules.Element

/-!
## Components with a name of their own

An element type that is no name, like `types[0]`, cannot be a tag. It is bound to a new name in
front of the statement that the element stands in. From the element outwards, the first place that
can take a declaration gets it: a list of statements; the expression body of an arrow function, which
becomes a block with a return; or the one statement of a loop or a branch, which becomes a block.

* `Deminify.Rules.Element.Progress` – the places of the nodes, and the arrow functions changed so far;
* `Deminify.Rules.Element.insertDeclaration` – **finds the place and puts the declaration there**;
* `Deminify.Rules.Element.declareComponent` – binds an element type to a new name.
-/

/-- The places of the nodes, and for each arrow function that got a block the return that holds its
old body. -/
structure Progress where
  places : Array Place
  arrows : List (Nat × Nat) := []

/-- Whether the one statement of such a node cannot be a declaration. -/
def hasStatementSlot (kind : String) : Bool :=
  Tree.isLoopKind kind || ["IfStatement", "LabeledStatement", "WithStatement"].contains kind

/-- Whether a key is that of such a statement. -/
def isStatementKey (key : Option String) : Bool :=
  key == some "body" || key == some "consequent" || key == some "alternate"

/-- Puts a declaration in front of the return of an arrow function that has got a block. -/
def insertIntoArrow (arrow : Tree) (returned : Nat) (declaration : Tree) : Editing Unit :=
  Editing.updateDoc (·.editList (arrow.get "body").label "body" fun body =>
    body.flatMap fun t => if t.label == returned then [declaration, t] else [t])

/-- Gives an arrow function a block with a declaration and the return of its old body; the label of
the return. -/
def blockArrow (arrow declaration : Tree) : Editing Nat := do
  let returned ← Editing.adopt (Tree.returnStatement (arrow.get "body"))
  let block ← Editing.adopt (Tree.blockStatement [declaration, returned])
  Editing.setField arrow.label "body" block
  Editing.setField arrow.label "expression" (.bool false)
  return returned.label

/-- Puts a declaration into the place at a number, if it can take one. -/
def insertAtPlace? (progress : Progress) (i : Nat) (declaration : Tree) :
    Editing (Option Progress) := do
  let d ← Editing.doc
  let place := Document.placeAt progress.places i
  if d.inStatementList progress.places i then
    let d ← Editing.ask (d.insertBeforeAt progress.places i [declaration])
    Editing.updateDoc fun _ => d
    return some progress
  match d.parentAt progress.places i with
  | none => return none
  | some parent =>
    let isArrowBody := parent.isKind "ArrowFunctionExpression" && place.key == some "body"
    match if isArrowBody then progress.arrows.lookup parent.label else none with
    | some returned =>
      insertIntoArrow parent returned declaration
      return some progress
    | none =>
      if isArrowBody && !(parent.get "body").isKind "BlockStatement" then
        let returned ← blockArrow parent declaration
        return some { progress with arrows := (parent.label, returned) :: progress.arrows }
      let node := d.nodeAt progress.places i
      if hasStatementSlot parent.kind && isStatementKey place.key
          && !node.isKind "BlockStatement" then
        let block ← Editing.adopt (Tree.blockStatement [declaration, node])
        return some { progress with places := ← Editing.replaceAt progress.places i block }
      return none

/-- Puts a declaration into the nearest place that can take it, from a place outwards; `fuel` bounds
the number of places on the way. -/
def insertDeclaration (declaration : Tree) : Nat → Progress → Nat → Editing Progress
  | 0, _, _ => throw .noComponentPlace
  | fuel + 1, progress, i => do
    match ← insertAtPlace? progress i declaration with
    | some progress => return progress
    | none =>
      match (Document.placeAt progress.places i).parent with
      | none => throw .noComponentPlace
      | some parent => insertDeclaration declaration fuel progress parent

/-- Binds an element type to a new name in front of the element at a place, and returns its tag. -/
def declareComponent (progress : Progress) (i : Nat) (type : Tree) : Editing (Tree × Progress) := do
  let s ← Editing.view
  let scope := (s.scopeFor ((← Editing.doc).nodeAt progress.places i).label).getD 0
  let name := s.generateName "Component" scope
  let declarator ← Editing.adopt (Tree.variableDeclarator (Tree.identifier name) type)
  let declaration ← Editing.adopt (Tree.variableDeclaration "const" [declarator])
  let progress ← insertDeclaration declaration progress.places.size progress i
  Editing.updateView fun s =>
    (s.declare scope (declarator.get "id").label name "const" (some declarator)).1.markStale
  return (Tree.tagIdentifier name, progress)

/-! ### Names -/

/-- Names a component with a short name after its `displayName`, if an assignment gives it one. -/
def nameComponent (f : Factories) (label : Nat) : Editing Unit := do
  let assignment ← Editing.node label
  let left ← assignment.field "left"
  let right ← assignment.field "right"
  if !(← left.isMemberOf none (some "displayName")) || !right.isStringLiteral then return
  let target ← left.field "object"
  if 2 < (← target.textField "name").length then return
  let s ← Editing.view
  match s.bindingFor target.label with
  | none => return
  | some b =>
    let binding := s.binding b
    let d ← Editing.doc
    let declarator := (binding.node.map d.get).getD .null
    let init := declarator.get "init"
    if !declarator.isKind "VariableDeclarator" || init.isNull then return
    if ← f.calledIn init then
      let name := ((right.get "value").str?).getD ""
      Editing.renameBinding b (s.generateName name binding.scope)

/-- Names the components with short names that say what they are called. -/
def nameComponents (f : Factories) : Editing Unit := do
  for t in (← Editing.root).subtree do
    if t.isKind "AssignmentExpression" then nameComponent f t.label

/-- Capitalizes the name of the element type of a call. -/
def capitalizeType (f : Factories) (label : Nat) : Editing Unit := do
  let call ← Editing.node label
  if (← f.called? (← call.field "callee")).isNone then return
  match ← call.listField "arguments" with
  | [] => return
  | type :: _ =>
    if !type.isIdentifier then return
    if !startsSmall (← type.textField "name") then return
    let s ← Editing.view
    match s.bindingFor type.label with
    | none => return
    | some b =>
      let binding := s.binding b
      Editing.renameBinding b (s.generateName (Name.pascal binding.name) binding.scope)

/-- Capitalizes the declared names that are used as element types. -/
def capitalizeTypes (f : Factories) : Editing Unit := do
  for t in (← Editing.root).subtree do
    if t.isKind "CallExpression" then capitalizeType f t.label

/-! ### Elements -/

/-- The attributes with a key in front, unless that is undefined. -/
def withKey (key : Tree) (attributes : List Tree) : Editing (List Tree) := do
  if ← key.isUndefined then return attributes
  let property := Tree.property (Tree.identifier "key") key false
  return (← attributeOf? property).toList ++ attributes

/-- The attributes and the children of a call that takes its children among the properties, with a
key behind them. A key that is spread is no key. -/
def automaticParts? (attributes extra : List Tree) : Editing (Option (List Tree × List Tree)) := do
  let children := attributes.find? isChildren
  let others := attributes.eraseP isChildren
  match extra with
  | key :: _ =>
    if (← key.kindOf) == "SpreadElement" then return none
    let others ← withKey key others
    return some (others, ← children.elim (pure []) childrenOf)
  | [] => return some (others, ← children.elim (pure []) childrenOf)

/-- The element with a tag, attributes and children; a fragment if the tag says so. -/
def elementWith (f : Factories) (tag : Tree) (attributes children : List Tree) : Tree :=
  if attributes.isEmpty && f.isFragment tag then Tree.fragment children
  else Tree.element tag attributes children

/-- The element of a call whose tag is known. -/
def elementFrom? (f : Factories) (pragma : String) (tag props : Tree) (extra : List Tree) :
    Editing (Option Tree) := do
  let attributes ← attributesOf props
  if attributes.any isChildren || automaticPragmas.contains pragma then
    match ← automaticParts? attributes extra with
    | none => return none
    | some (attributes, children) => return some (elementWith f tag attributes children)
  else
    return some (elementWith f tag attributes (laidOut (← extra.filterMapM childOf?)))

/-- The element of the call at a place, if it can be written as one. -/
def elementOf? (f : Factories) (progress : Progress) (i : Nat) :
    Editing (Option Tree × Progress) := do
  let call := (← Editing.doc).nodeAt progress.places i
  match ← f.called? (← call.field "callee"), ← call.listField "arguments" with
  | some pragma, type :: props :: extra =>
    if ← isWrongCase type then return (none, progress)
    match ← tagOf? type with
    | some tag => return (← elementFrom? f pragma tag props extra, progress)
    | none =>
      if type.isKind "SpreadElement" then return (none, progress)
      let (tag, progress) ← declareComponent progress i type
      return (← elementFrom? f pragma tag props extra, progress)
  | _, _ => return (none, progress)

/-- Puts an element in the place of a call. Its comments stay, but for the marks that say the call
has no effect. -/
def putElement (progress : Progress) (i : Nat) (element : Tree) : Editing Progress := do
  let d ← Editing.doc
  let call := d.nodeAt progress.places i
  match d.parentAt progress.places i with
  | some parent =>
    if parent.isKind "ExpressionStatement" then
      Editing.updateDoc (·.edit parent.label Tree.withoutPureMarks)
  | none => pure ()
  let comments := call.withoutPureMarks.comments
  Editing.updateDoc (·.edit call.label fun t => t.withoutPureMarks.withoutComments)
  let element := if comments.isEmpty then element
    else element.set "leadingComments" (.list comments)
  return { progress with
    places := ← Editing.replaceAt progress.places i (← Editing.adopt element) }

/-- Restores the element of the call at a place. One that finds no place for its component is
reported and left as it is. -/
def restore (f : Factories) (progress : Progress) (i : Nat) : Editing Progress := do
  let attempt : Editing (Option (Option Tree × Progress)) := try
      some <$> elementOf? f progress i
    catch
      | .noComponentPlace => pure none
      | failure => throw failure
  match ← attempt with
  | none =>
    let call := (← Editing.doc).nodeAt progress.places i
    Editing.report Failure.noComponentPlace.message "warning" (some call)
    return progress
  | some (none, progress) => return progress
  | some (some element, progress) => putElement progress i element

/-- Restores the elements of all calls of element factories. -/
def run (options : Options) : Editing Unit := do
  let f := Factories.ofOptions options
  discard Editing.scopes
  nameComponents f
  capitalizeTypes f
  let root ← Editing.root
  let calls ← root.subtree.zipIdx.filterM fun (t, _) => f.isCall (m := Editing) t
  discard ((calls.map (·.2)).reverse.foldlM (restore f) { places := root.places })

end Deminify.Rules.Element
