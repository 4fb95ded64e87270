import Deminify.Rules.Alias
import Deminify.Tree.Build

/-!
# Destructuring

A minifier takes `const { x, y } = e` apart into `const t = e.x; const n = e.y;`. A run of such
reads of one object is put together again: the reads by key become an object pattern, the reads by
index an array pattern. Locals take the names of their keys where these are free, and a key that is
read twice is taken out once.

* `Deminify.Rules.Destructuring.Access` – a read of a key or of an index;
* `Deminify.Rules.Destructuring.groupAt` – the run of reads that starts at a statement;
* `Deminify.Rules.Destructuring.rebuildAll` – **puts the patterns of a list of statements together**;
* `Deminify.Rules.Destructuring.run` – the whole rule: aliases, patterns, and aliases again.
-/

namespace Deminify.Rules.Destructuring

/-- The longest run of holes in an array pattern. -/
def holeLimit : Int := 2

/-- What is read of an object. -/
inductive Selector where
  | key (name : String)
  | index (n : Nat)

/-- The index that is read, if one is. -/
def Selector.index? : Selector → Option Nat
  | .index n => some n
  | .key _ => none

/-- A declaration that reads a key or an index of an object into a local. -/
structure Access where
  statement : Tree
  kind : String
  target : Tree
  object : Tree
  selector : Selector

section Failing

variable {m : Type → Type} [Monad m] [MonadExceptOf Failure m]

/-- What a member expression reads, if that is fixed. -/
def selectorOf? (member : Tree) : m (Option Selector) := do
  let property ← member.field "property"
  if (member.get "computed").truthy then
    match property.isLiteral, property.get "value" with
    | true, .str name => return some (.key name)
    | true, .int (.ofNat n) => return some (.index n)
    | _, _ => return none
  else if property.isIdentifier then return some (.key (← property.textField "name"))
  else return none

/-- The read that a statement makes. -/
def accessOf? (statement : Tree) : m (Option Access) := do
  match ← Alias.singleDeclarator? statement with
  | none => return none
  | some declarator =>
    let target ← declarator.field "id"
    let init := declarator.get "init"
    if !target.isIdentifier || init.isNull then return none
    if (← init.kindOf) != "MemberExpression" then return none
    let object ← init.field "object"
    if !object.isIdentifier then return none
    let kind ← statement.textField "kind"
    return (← selectorOf? init).map fun selector => { statement, kind, target, object, selector }

end Failing

/-- The spelling of a name. -/
def spelling (t : Tree) : String := ((t.get "name").str?).getD ""

/-- Whether something writes to the local of a read. -/
def isReassigned (s : ScopeTree) (access : Access) : Bool :=
  (s.bindingFor access.target.label).any fun b => !(s.binding b).writes.isEmpty

/-- Whether a read goes into the name of the object itself, or into a local that is written to. -/
def isUnsafe (s : ScopeTree) (access : Access) : Bool :=
  spelling access.target == spelling access.object || isReassigned s access

/-- The last index after a read, if the holes before the read are few enough. -/
def nextIndex? (last : Int) : Selector → Option Int
  | .key _ => some last
  | .index n => if last < (n : Int) && (n : Int) - last - 1 ≤ holeLimit then some n else none

/-- The reads that go on a run of reads of an object. -/
def groupFrom (s : ScopeTree) (first : Access) (last : Int) : List Tree → Except Failure (List Access)
  | [] => return []
  | statement :: rest => do
    match ← accessOf? statement with
    | none => return []
    | some access =>
      let sameObject := spelling access.object == spelling first.object
        && s.bindingFor access.object.label == s.bindingFor first.object.label
      if access.kind != first.kind || !sameObject || isUnsafe s access then return []
      match nextIndex? last access.selector with
      | none => return []
      | some last => return access :: (← groupFrom s first last rest)

/-- The run of reads that starts a list of statements. -/
def groupAt (s : ScopeTree) : List Tree → Except Failure (List Access)
  | [] => return []
  | statement :: rest => do
    match ← accessOf? statement with
    | none => return []
    | some first =>
      if isUnsafe s first then return []
      match nextIndex? (-1) first.selector with
      | none => return []
      | some last => return first :: (← groupFrom s first last rest)

/-! ### Putting patterns together -/

/-- Lets the first object of the reads start off a declarator and forgets the others. -/
def reuseObject (accesses : List Access) (declarator : Nat) : Editing Tree := do
  match accesses with
  | [] => return .null
  | first :: others =>
    for other in others do
      Editing.updateView (·.removeReference other.object.label (spelling other.object))
    Editing.updateView fun s =>
      { s with parentOf := s.parentOf.insert first.object.label (declarator, "init") }
    Editing.node first.object.label

/-- Gives a local the name of its key, or one like it. -/
def nameLocal (s : ScopeTree) (target : Tree) (binding : Option Nat) (scope : Nat) (key : String) :
    Editing Unit := do
  if spelling target != key then
    let name := s.generateName key scope
    match binding with
    | some b => Editing.renameBinding b name
    | none => Editing.respell [target.label] name

/-- Notes the declarator that now declares a binding. -/
def setDeclarator (binding : Option Nat) (declarator : Nat) : Editing Unit :=
  match binding with
  | some b => Editing.updateView (·.editBinding b fun t => { t with node := some declarator })
  | none => return

/-- An entry of an object pattern to be: the key, the label of the local, its name when it was put
in, and whether the two are written as one. -/
structure Entry where
  key : String
  target : Nat
  name : String
  shorthand : Bool

/-- Adds the read of a key to the entries of a pattern. A key that is there already lends its local
to the uses of this one. -/
def addEntry (declarator : Nat) (entries : List Entry) (access : Access) (key : String) :
    Editing (List Entry) := do
  let s ← Editing.view
  let target ← Editing.node access.target.label
  let binding := s.bindingFor target.label
  let scope := (binding.map fun b => (s.binding b).scope).getD 0
  match entries.find? (·.key == key) with
  | some known =>
    let (s, name, labels) := s.merge scope (spelling target) known.name
    Editing.updateView fun _ => s
    Editing.respell labels name
    return entries
  | none =>
    nameLocal s target binding scope key
    setDeclarator binding declarator
    let name := spelling (← Editing.node target.label)
    return entries ++ [⟨key, target.label, name, isIdentifierName key && name == key⟩]

/-- The property of an entry. -/
def Entry.property (entry : Entry) : Editing Tree := do
  let key := if isIdentifierName entry.key then Tree.identifier entry.key
    else Tree.stringLiteral entry.key
  return Tree.property key (← Editing.node entry.target) entry.shorthand

/-- The declaration of an object pattern for reads by key. -/
def objectDeclaration (kind : String) (accesses : List (Access × String)) : Editing Tree := do
  let declarator ← Editing.adopt (Tree.variableDeclarator (Tree.objectPattern []) .null)
  let entries ← accesses.foldlM (fun entries (access, key) =>
    addEntry declarator.label entries access key) []
  let properties ← entries.mapM Entry.property
  let init ← reuseObject (accesses.map (·.1)) declarator.label
  let pattern := (declarator.get "id").set "properties" (.list properties)
  return Tree.variableDeclaration kind [(declarator.set "id" pattern).set "init" init]

/-- The elements of an array pattern for reads by index, the holes between them null. -/
def elementsFrom (last : Int) : List (Access × Nat) → Editing (List Tree)
  | [] => return []
  | (access, index) :: rest => do
    let holes := List.replicate ((index : Int) - last - 1).toNat Tree.null
    return holes ++ (← Editing.node access.target.label) :: (← elementsFrom index rest)

/-- The declaration of an array pattern for reads by index. -/
def arrayDeclaration (kind : String) (accesses : List (Access × Nat)) : Editing Tree := do
  let declarator ← Editing.adopt (Tree.variableDeclarator (Tree.arrayPattern []) .null)
  let s ← Editing.view
  for (access, _) in accesses do
    setDeclarator (s.bindingFor access.target.label) declarator.label
  let elements ← elementsFrom (-1) accesses
  let init ← reuseObject (accesses.map (·.1)) declarator.label
  let pattern := (declarator.get "id").set "elements" (.list elements)
  return Tree.variableDeclaration kind [(declarator.set "id" pattern).set "init" init]

/-- The reads by key of a group. -/
def named (group : List Access) : List (Access × String) :=
  group.filterMap fun access => match access.selector with
    | .key name => some (access, name)
    | .index _ => none

/-- The reads by index of a group. -/
def indexed (group : List Access) : List (Access × Nat) :=
  group.filterMap fun access => access.selector.index?.map (access, ·)

/-- The declarations that take the place of a group: at most one for each kind of read, the kind
that is read first in front, with the comments of the whole group. -/
def declarationsOf (group : List Access) : Editing (List Tree) := do
  let kind := (group.head?.map (·.kind)).getD ""
  let comments := group.flatMap (·.statement.comments)
  let objects ← if (named group).isEmpty then pure []
    else pure [← objectDeclaration kind (named group)]
  let arrays ← if (indexed group).isEmpty then pure []
    else pure [← arrayDeclaration kind (indexed group)]
  let keyFirst := group.head?.any (·.selector.index?.isNone)
  match if keyFirst then objects ++ arrays else arrays ++ objects with
  | [] => return []
  | first :: rest =>
    (first.prependComments comments :: rest).mapM Editing.adopt

/-- Puts the patterns of a list of statements together from an index on. -/
def rebuildFrom (owner : Nat) (key : String) : Nat → Nat → Editing Unit
  | 0, _ => return
  | fuel + 1, index => do
    let body := (← Editing.doc).listAt owner key
    match ← Editing.ask (groupAt (← Editing.view) (body.drop index)) with
    | [] => if index < body.length then rebuildFrom owner key fuel (index + 1)
    | group =>
      let declarations ← declarationsOf group
      Editing.updateDoc (·.editList owner key fun body =>
        body.take index ++ declarations ++ body.drop (index + group.length))
      rebuildFrom owner key fuel (index + declarations.length)

/-- Puts the patterns of a list of statements together. -/
def rebuildAll (owner : Nat) (key : String) : Editing Unit := do
  rebuildFrom owner key ((← Editing.doc).listAt owner key).length 0

/-- Inlines aliases, puts patterns together, and inlines the aliases that this leaves. -/
def run : Editing Unit := do
  discard Editing.scopes
  let lists ← (← Editing.root).statementLists
  for (owner, key) in lists do Alias.inlineAll owner key
  for (owner, key) in lists do rebuildAll owner key
  for (owner, key) in lists do Alias.inlineAll owner key

end Deminify.Rules.Destructuring
