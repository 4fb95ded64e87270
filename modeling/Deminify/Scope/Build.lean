import Deminify.Scope.Edit

/-!
# Finding the scopes of a program

One walk over the program notes the scopes that open, the names that are declared and the names that
are used. The notes are then carried out: first the scopes and all declarations, so that names are
known wherever they are declared, and afterwards the uses, which are resolved.

* `Deminify.Tree.patternIdentifiers` – the names that a pattern binds;
* `Deminify.ScopeTree.Note`, `Deminify.ScopeTree.visit` – what is noted at a node, and the children
  to go on with;
* `Deminify.ScopeTree.walk` – the notes of a program;
* `Deminify.ScopeTree.build` – **the scopes of a program**.
-/

namespace Deminify

namespace Tree

section Failing

variable {m : Type → Type} [Monad m] [MonadExceptOf Failure m]

/-- The names that a pattern binds, from left to right; patterns nest `fuel` levels at most. -/
def patternIdentifiersWithin (fuel : Nat) (t : Tree) : m (List Tree) := do
  match fuel with
  | 0 => pure []
  | fuel + 1 =>
    if t.isNull then pure []
    else
      match ← t.kindOf with
      | "Identifier" => pure [t]
      | "ObjectPattern" =>
        let parts ← (← t.listField "properties").mapM fun p => do
          let inner ← if (← p.kindOf) == "RestElement" then p.field "argument" else p.field "value"
          inner.patternIdentifiersWithin fuel
        pure parts.flatten
      | "ArrayPattern" =>
        let parts ← (← t.listField "elements").mapM fun p => p.patternIdentifiersWithin fuel
        pure parts.flatten
      | "AssignmentPattern" => (← t.field "left").patternIdentifiersWithin fuel
      | "RestElement" => (← t.field "argument").patternIdentifiersWithin fuel
      | _ => pure []

/-- The names that a pattern binds, from left to right. -/
def patternIdentifiers (t : Tree) : m (List Tree) := t.patternIdentifiersWithin t.height

end Failing

end Tree

namespace ScopeTree

/-- How the names below a node are meant. -/
inductive Mode where
  | normal
  | declares
  | assigns
  /-- A block that shares the scope of what it belongs to. -/
  | shared
  deriving DecidableEq

/-- A mode that patterns hand on to their parts. -/
def Mode.orAssigns : Mode → Mode
  | .declares => .declares
  | _ => .assigns

/-- A mode that properties hand on to their values. -/
def Mode.orNormal : Mode → Mode
  | .declares => .declares
  | .assigns => .assigns
  | _ => .normal

/-- A name that is used, to be resolved at the end. -/
structure Use where
  label : Nat
  name : String
  parent : Nat × String
  scope : Nat
  writes : Bool

/-- A node still to be walked over. -/
structure Visit where
  node : Tree
  parent : Nat × String
  scope : Nat
  mode : Mode

/-- What the walk notes. -/
inductive Note where
  /-- A scope of the kind opens at a node inside another scope. -/
  | opens (kind : String) (node parent : Nat)
  /-- A node stands in a scope, unless it opens one or shares another. -/
  | stands (label scope : Nat)
  /-- A block shares the scope of what it belongs to. -/
  | shares (label scope : Nat)
  /-- A name is declared in a scope, or in the function around that if it is hoisted. -/
  | declares (scope : Nat) (hoisted : Bool) (label : Nat) (name kind : String) (node : Tree)
  /-- A name is used. -/
  | uses (use : Use)

/-- Whether a scope opens. -/
def Note.isOpening : Note → Bool
  | .opens .. => true
  | _ => false

/-- The use that is noted. -/
def Note.use? : Note → Option Use
  | .uses use => some use
  | _ => none

/-- The number of scopes that open. -/
def openings (notes : List Note) : Nat := notes.countP Note.isOpening

/-- What is found at a node: the notes, and the children to go on with. -/
structure Finding where
  notes : List Note := []
  below : List Visit := []

/-- The note of a declaration. -/
def declaring (scope : Nat) (hoisted : Bool) (name : Tree) (kind : String) (node : Tree) :
    Except Failure Note := do
  return .declares scope hoisted name.label (← name.textField "name") kind node

/-- The notes of the declarations in a pattern. -/
def declaringPattern (scope : Nat) (hoisted : Bool) (pattern : Tree) (kind : String) (node : Tree) :
    Except Failure (List Note) := do
  (← pattern.patternIdentifiers).mapM fun name => declaring scope hoisted name kind node

/-- The note of a use. -/
def using_ (name : Tree) (parent : Nat × String) (scope : Nat) (writes : Bool) :
    Except Failure Note := do
  return .uses ⟨name.label, ← name.textField "name", parent, scope, writes⟩

/-- The visit of a child, unless it is missing. -/
def child (t : Tree) (key : String) (node : Tree) (scope : Nat) (mode : Mode) : List Visit :=
  if node.truthy then [⟨node, (t.label, key), scope, mode⟩] else []

/-- The visits of all children. -/
def allChildren (t : Tree) (scope : Nat) (mode : Mode) : List Visit :=
  t.slots.map fun (slot, node) => ⟨node, (t.label, slot.key), scope, mode⟩

/-- Whether a name in a tag is that of an element of the markup itself. -/
def isMarkupName (name : String) : Bool :=
  (match name.toList with
    | c :: _ => 'a' ≤ c && c ≤ 'z'
    | [] => false) || name.toList.contains '-'

/-- The innermost access of a name in a tag, `fuel` steps in at most. -/
def innermostAccess : Nat → Tree → Except Failure Tree
  | 0, t => return t
  | fuel + 1, t => do
    let object ← t.field "object"
    if (← object.kindOf) == "JSXMemberExpression" then innermostAccess fuel object else return t

/-- The use in the name of an element, if it has one. -/
def usingTagName (t : Tree) (name : Tree) (scope : Nat) : Except Failure (List Note) := do
  match ← name.kindOf with
  | "JSXIdentifier" =>
    if isMarkupName (← name.textField "name") then return []
    else return [← using_ name (t.label, "name") scope false]
  | "JSXMemberExpression" =>
    let access ← innermostAccess name.height name
    let root ← access.field "object"
    if (← root.kindOf) != "JSXIdentifier" then return []
    else if (← root.textField "name") == "this" then return []
    else return [← using_ root (access.label, "object") scope false]
  | _ => return []

/-- Visits a name, which is used unless it is declared where it stands. -/
def visitName (v : Visit) : Except Failure Finding := do
  match v.mode with
  | .assigns => return { notes := [← using_ v.node v.parent v.scope true] }
  | .normal => return { notes := [← using_ v.node v.parent v.scope false] }
  | _ => return {}

/-- Whether a function has a scope around it for its own name. -/
def hasOwnName (t : Tree) (kind : String) : Bool := kind == "FunctionExpression" && (t.get "id").truthy

/-- The notes of the name of a function. -/
def namingFunction (t : Tree) (kind : String) (scope next : Nat) : Except Failure (List Note) := do
  let name := t.get "id"
  if kind == "FunctionDeclaration" && name.truthy then
    return [← declaring scope false name "function" t]
  else if hasOwnName t kind then
    return [.opens "named-function" t.label scope, ← declaring next false name "local" t]
  else return []

/-- Visits a function: its parameters and its body share a scope of their own, and the name of a
function expression has one around it. -/
def visitFunction (t : Tree) (kind : String) (scope next : Nat) : Except Failure Finding := do
  let outer := if hasOwnName t kind then next else scope
  let inner := if hasOwnName t kind then next + 1 else next
  let named ← namingFunction t kind scope next
  let params ← t.listField "params"
  let bound ← params.mapM fun p => declaringPattern inner false p "param" t
  let body ← t.field "body"
  let isBlock := (← body.kindOf) == "BlockStatement"
  return {
    notes := named ++ .opens "function" t.label outer :: bound.flatten
      ++ if isBlock then [.shares body.label inner] else []
    below := params.map (⟨·, (t.label, "params"), inner, .declares⟩)
      ++ [⟨body, (t.label, "body"), inner, if isBlock then .shared else .normal⟩] }

/-- The notes of the name of a class. -/
def namingClass (t : Tree) (kind : String) (scope next : Nat) : Except Failure (List Note) := do
  let name := t.get "id"
  if name.truthy then
    if kind == "ClassDeclaration" then return [← declaring scope false name "class" t]
    else return [← declaring next false name "local" t]
  else return []

/-- Visits a class, whose members have a scope of their own. -/
def visitClass (t : Tree) (kind : String) (scope next : Nat) : Except Failure Finding := do
  let named ← namingClass t kind scope next
  let body ← t.field "body"
  return {
    notes := .opens "class" t.label scope :: named
    below := child t "superClass" (t.get "superClass") scope .normal
      ++ child t "body" body next .normal }

/-- Visits a declaration. -/
def visitDeclaration (t : Tree) (scope : Nat) : Except Failure Finding := do
  let kind ← t.textField "kind"
  let declarators ← t.listField "declarations"
  let bound ← declarators.mapM fun d => do
    declaringPattern scope (kind == "var") (← d.field "id") kind d
  return {
    notes := bound.flatten
    below := declarators.map (⟨·, (t.label, "declarations"), scope, .normal⟩) }

/-- Visits a loop over keys or items. -/
def visitLoopOver (t : Tree) (scope next : Nat) : Except Failure Finding := do
  let left ← t.field "left"
  let mode := if (← left.kindOf) == "VariableDeclaration" then Mode.normal else Mode.assigns
  let right ← t.field "right"
  let body ← t.field "body"
  return {
    notes := [.opens "for" t.label scope]
    below := child t "left" left next mode ++ child t "right" right next .normal
      ++ child t "body" body next .normal }

/-- Visits a handler. -/
def visitCatch (t : Tree) (scope next : Nat) : Except Failure Finding := do
  let param := t.get "param"
  let bound ← if param.truthy then declaringPattern next false param "catch" t else pure []
  let body ← t.field "body"
  return {
    notes := .opens "catch" t.label scope :: bound ++ [.shares body.label next]
    below := child t "param" param next .declares ++ child t "body" body next .shared }

/-- Visits a `switch`, whose cases share a scope. -/
def visitSwitch (t : Tree) (scope next : Nat) : Except Failure Finding := do
  let discriminant ← t.field "discriminant"
  let cases ← t.listField "cases"
  return {
    notes := [.opens "switch" t.label scope]
    below := child t "discriminant" discriminant scope .normal
      ++ cases.map (⟨·, (t.label, "cases"), next, .normal⟩) }

/-- Visits an import, which declares its names in the program. -/
def visitImport (t : Tree) : Except Failure Finding := do
  let bound ← (t.get "specifiers").items.mapM fun s => do
    declaring 0 false (← s.field "local") "module" s
  return { notes := bound }

/-- Visits an export by name: what it exports is used, unless it comes from another module. -/
def visitExport (t : Tree) (scope : Nat) : Except Failure Finding := do
  let declaration := child t "declaration" (t.get "declaration") scope .normal
  if (t.get "source").isNull then
    let names ← (t.get "specifiers").items.mapM fun s => do
      return ⟨← s.field "local", (s.label, "local"), scope, .normal⟩
    return { below := declaration ++ names }
  else return { below := declaration }

/-- The visit of a child that must be there. -/
def part (t : Tree) (key : String) (scope : Nat) (mode : Mode) : Except Failure (List Visit) := do
  return child t key (← t.field key) scope mode

/-- Visits a declarator. -/
def visitDeclarator (t : Tree) (scope : Nat) : Except Failure Finding := do
  return { below := (← part t "id" scope .declares) ++ child t "init" (t.get "init") scope .normal }

/-- Visits a block, which has a scope of its own unless it shares one. -/
def visitBlock (t : Tree) (scope next : Nat) (mode : Mode) : Except Failure Finding :=
  if mode == .shared then return { below := allChildren t scope .normal }
  else return { notes := [.opens "block" t.label scope], below := allChildren t next .normal }

/-- Visits an access: a name behind a dot is no use. -/
def visitMember (t : Tree) (scope : Nat) : Except Failure Finding := do
  let object ← part t "object" scope .normal
  if (t.get "computed").truthy then
    return { below := object ++ (← part t "property" scope .normal) }
  else return { below := object }

/-- Visits a property, whose key is used if it is computed. -/
def visitProperty (t : Tree) (scope : Nat) (mode : Mode) : Except Failure Finding := do
  let key ← if (t.get "computed").truthy then part t "key" scope .normal else pure []
  return { below := key ++ child t "value" (t.get "value") scope mode.orNormal }

/-- Visits a part of a pattern with a value to fall back on. -/
def visitFallback (t : Tree) (scope : Nat) (mode : Mode) : Except Failure Finding := do
  return { below := (← part t "left" scope mode.orAssigns) ++ (← part t "right" scope .normal) }

/-- Visits an assignment. -/
def visitAssignment (t : Tree) (scope : Nat) : Except Failure Finding := do
  let kind ← (← t.field "left").kindOf
  let assigns := ["Identifier", "ObjectPattern", "ArrayPattern"].contains kind
  return { below := (← part t "left" scope (if assigns then .assigns else .normal))
    ++ (← part t "right" scope .normal) }

/-- Visits an increment or a decrement. -/
def visitUpdate (t : Tree) (scope : Nat) : Except Failure Finding := do
  let kind ← (← t.field "argument").kindOf
  return { below := ← part t "argument" scope (if kind == "Identifier" then .assigns else .normal) }

/-- Visits the tag of an element. -/
def visitTag (t : Tree) (scope : Nat) : Except Failure Finding := do
  return {
    notes := ← usingTagName t (← t.field "name") scope
    below := (t.get "attributes").items.map (⟨·, (t.label, "attributes"), scope, .normal⟩) }

/-- What a node opens and declares, and the children to go on with. `next` is the number of the
scope that opens next. -/
def visit (v : Visit) (next : Nat) : Except Failure Finding := do
  let t := v.node
  let scope := v.scope
  match ← t.kindOf with
  | "Identifier" => visitName v
  | "VariableDeclaration" => visitDeclaration t scope
  | "VariableDeclarator" => visitDeclarator t scope
  | "FunctionDeclaration" => visitFunction t "FunctionDeclaration" scope next
  | "FunctionExpression" => visitFunction t "FunctionExpression" scope next
  | "ArrowFunctionExpression" => visitFunction t "ArrowFunctionExpression" scope next
  | "ClassDeclaration" => visitClass t "ClassDeclaration" scope next
  | "ClassExpression" => visitClass t "ClassExpression" scope next
  | "BlockStatement" | "StaticBlock" => visitBlock t scope next v.mode
  | "ForStatement" =>
    return { notes := [.opens "for" t.label scope], below := allChildren t next .normal }
  | "ForInStatement" | "ForOfStatement" => visitLoopOver t scope next
  | "CatchClause" => visitCatch t scope next
  | "SwitchStatement" => visitSwitch t scope next
  | "ImportDeclaration" => visitImport t
  | "ExportNamedDeclaration" => visitExport t scope
  | "ExportAllDeclaration" => return {}
  | "MemberExpression" => visitMember t scope
  | "Property" | "MethodDefinition" | "PropertyDefinition" => visitProperty t scope v.mode
  | "ObjectPattern" | "ArrayPattern" | "RestElement" =>
    return { below := allChildren t scope v.mode.orAssigns }
  | "AssignmentPattern" => visitFallback t scope v.mode
  | "AssignmentExpression" => visitAssignment t scope
  | "UpdateExpression" => visitUpdate t scope
  | "LabeledStatement" => return { below := ← part t "body" scope .normal }
  | "BreakStatement" | "ContinueStatement" | "MetaProperty" => return {}
  | "JSXOpeningElement" | "JSXClosingElement" => visitTag t scope
  | "JSXAttribute" => return { below := child t "value" (t.get "value") scope .normal }
  | _ => return { below := allChildren t scope .normal }

/-- The notes of a walk over nodes, given how to walk over what is below each. -/
def walkEach (walkBelow : List Visit → Nat → Except Failure (List Note)) :
    List Visit → Nat → Except Failure (List Note)
  | [], _ => return []
  | v :: rest, next => do
    let found ← visit v next
    let inner ← walkBelow found.below (next + openings found.notes)
    let notes := .stands v.node.label v.scope :: found.notes ++ inner
    return notes ++ (← walkEach walkBelow rest (next + openings notes))

/-- The notes of a walk over nodes, `fuel` levels deep at most, the next scope to open having the
given number. -/
def walk : Nat → List Visit → Nat → Except Failure (List Note)
  | 0, _, _ => return []
  | fuel + 1, visits, next => walkEach (walk fuel) visits next

/-- Carries out a note, except for uses. -/
def carryOut (s : ScopeTree) : Note → ScopeTree
  | .opens kind node parent => (s.newScope kind node (some parent)).1
  | .stands label scope => if s.scopeOf.contains label then s else s.setScope label scope
  | .shares label scope => s.setScope label scope
  | .declares scope hoisted label name kind node =>
    (s.declare (if hoisted then s.functionScope scope else scope) label name kind (some node)).1
  | .uses _ => s

/-- Resolves a use. -/
def resolve (s : ScopeTree) (u : Use) : ScopeTree :=
  (s.addReference u.label u.name u.scope (some u.parent) u.writes).1

/-- The scopes that notes tell of, those of the program with the label. -/
def ofNotes (program : Nat) (notes : List Note) : ScopeTree :=
  let start := (({} : ScopeTree).newScope "program" program none).1
  (notes.filterMap Note.use?).foldl resolve (notes.foldl carryOut start)

/-- **The scopes of a program.** -/
def build (program : Tree) : Except Failure ScopeTree :=
  return ofNotes program.label (← walk program.height (allChildren program 0 .normal) 1)

end ScopeTree

end Deminify
