import Deminify.Scope.Build

/-!
# What names mean where they stand

The meaning of a name depends on where it stands: the same identifier is read in an expression,
written to as the target of an assignment, declared in a pattern, and none of these as the key of a
property. This module says which, site by site, and without reference to how scopes are found.

A *site* is a node together with its *role* and the scopes around it, from the inside out
(`Deminify.Site`). A scope is known by the node that opens it (`Deminify.Frame`). The sites of a
program are reached from the root child by child; `Deminify.Site.roleAt` and
`Deminify.Site.framesAt` say what a child takes from its parent. What then happens at a site is an
*event* (`Deminify.Event`): a name is used, a name is declared, a scope opens.

* `Deminify.Site.roleAt` – **the role of a child**;
* `Deminify.Site.framesAt` – the scopes around a child;
* `Deminify.Site.events` – what happens at a site;
* `Deminify.Stands` – the sites of a program;
* `Deminify.Happens` – what happens in a program;
* `Deminify.Resolves` – **the scope that a name belongs to**: the innermost one that declares it.
-/

namespace Deminify

/-- A scope of a program: the label of the node that opens it, and what it is the scope of. A
function expression with a name opens two scopes. -/
structure Frame where
  node : Nat
  kind : String
  deriving DecidableEq, Inhabited

/-- The role of a node, which says what a name means there. -/
inductive NameRole where
  /-- An expression or a statement: names are read. -/
  | reads
  /-- A target: names are written to. -/
  | writes
  /-- A pattern that declares names in a scope, and gives them values if `initializes` holds. -/
  | binds (home : Frame) (initializes : Bool)
  /-- A declarator of names in a scope. -/
  | declarator (home : Frame)
  /-- A name of a function, of a class or of an import, declared in a scope. -/
  | names (home : Frame)
  /-- A block that is the body of a function or of a handler, and shares its scope. -/
  | body
  /-- The name of an element. -/
  | tag
  /-- What the name of an element is taken from. -/
  | tagRoot
  /-- What an import brings in. -/
  | imported
  /-- What an export gives out. -/
  | exported
  /-- A label, a key or the like: names mean nothing. -/
  | inert
  deriving DecidableEq

/-- The role of the parts of a pattern: they are written to unless they are declared. -/
def NameRole.orWrites : NameRole → NameRole
  | .binds home initializes => .binds home initializes
  | _ => .writes

/-- The role of the value of a property, which is read unless the property is part of a pattern. -/
def NameRole.orReads : NameRole → NameRole
  | .binds home initializes => .binds home initializes
  | .writes => .writes
  | _ => .reads

/-- The innermost of the scopes around a site. -/
def innermost (frames : List Frame) : Frame := frames.headD default

/-- The outermost of the scopes around a site, which is that of the program. -/
def outermost (frames : List Frame) : Frame := frames.getLastD default

/-- The nearest scope around a site that receives the names declared by `var`. -/
def nearestFunction (frames : List Frame) : Frame :=
  (frames.find? fun frame => ScopeTree.receivesVars frame.kind).getD (outermost frames)

/-- The scope that a declaration puts its names into. -/
def homeFrame (hoisted : Bool) (frames : List Frame) : Frame :=
  if hoisted then nearestFunction frames else innermost frames

/-- A node, its role and the scopes around it, from the inside out. -/
structure Site where
  node : Tree
  role : NameRole
  frames : List Frame

namespace Site

/-! ### Scopes -/

/-- What the scopes are of that a node opens, the innermost first. -/
def openedKinds (p : Site) : List String :=
  match p.node.kind with
  | "FunctionDeclaration" | "ArrowFunctionExpression" => ["function"]
  | "FunctionExpression" =>
    if (p.node.get "id").truthy then ["function", "named-function"] else ["function"]
  | "ClassDeclaration" | "ClassExpression" => ["class"]
  | "BlockStatement" => if p.role = .body then [] else ["block"]
  | "ForStatement" | "ForInStatement" | "ForOfStatement" => ["for"]
  | "CatchClause" => ["catch"]
  | "SwitchStatement" => ["switch"]
  | _ => []

/-- The scopes that a node opens, the innermost first. -/
def opened (p : Site) : List Frame := p.openedKinds.map (Frame.mk p.node.label)

/-- Whether the children under a key stand in the scopes that a node opens, and not outside. -/
def isInside (p : Site) (key : String) : Bool :=
  match p.node.kind with
  | "ClassDeclaration" | "ClassExpression" => key == "body"
  | "SwitchStatement" => key == "cases"
  | _ => true

/-- The scopes around a child. -/
def framesAt (p : Site) (key : String) : List Frame :=
  if p.isInside key then p.opened ++ p.frames else p.frames

/-! ### Roles -/

/-- **The role of a child**, by the kind of the node. -/
def roleByKind (p : Site) (key : String) : NameRole :=
  let t := p.node
  match t.kind with
  | "VariableDeclaration" => .declarator (homeFrame ((t.get "kind").str? == some "var") p.frames)
  | "VariableDeclarator" =>
    if key == "id" then
      match p.role with
      | .declarator home => .binds home !(t.get "init").isNull
      | _ => .inert
    else .reads
  | "FunctionDeclaration" | "FunctionExpression" | "ArrowFunctionExpression" =>
    if key == "id" then
      .names (if t.kind == "FunctionExpression" then ⟨t.label, "named-function"⟩
        else innermost p.frames)
    else if key == "params" then .binds ⟨t.label, "function"⟩ false
    else if (t.get "body").isKind "BlockStatement" then .body
    else .reads
  | "ClassDeclaration" =>
    if key == "id" then .names (innermost p.frames) else .reads
  | "ClassExpression" =>
    if key == "id" then .names ⟨t.label, "class"⟩ else .reads
  | "CatchClause" => if key == "param" then .binds ⟨t.label, "catch"⟩ false else .body
  | "ForInStatement" | "ForOfStatement" => if key == "left" then .writes else .reads
  | "AssignmentExpression" => if key == "left" then .writes else .reads
  | "UpdateExpression" => .writes
  | "ObjectPattern" | "ArrayPattern" | "RestElement" => p.role.orWrites
  | "AssignmentPattern" => if key == "left" then p.role.orWrites else .reads
  | "Property" | "MethodDefinition" =>
    if key == "key" then if (t.get "computed").truthy then .reads else .inert
    else p.role.orReads
  | "MemberExpression" =>
    if key == "property" && !(t.get "computed").truthy then .inert else .reads
  | "ImportDeclaration" => if key == "specifiers" then .imported else .inert
  | "ExportNamedDeclaration" =>
    if key == "specifiers" then if (t.get "source").isNull then .exported else .inert
    else if key == "declaration" then .reads
    else .inert
  | "LabeledStatement" => if key == "label" then .inert else .reads
  | "ExportAllDeclaration" | "BreakStatement" | "ContinueStatement" | "MetaProperty" => .inert
  | "JSXOpeningElement" | "JSXClosingElement" => if key == "name" then .tag else .reads
  | "JSXAttribute" => if key == "name" then .inert else .reads
  | _ => .reads

/-- **The role of a child.** -/
def roleAt (p : Site) (key : String) : NameRole :=
  match p.role with
  | .names _ | .inert => .inert
  | .imported => if key == "local" then .names (outermost p.frames) else .inert
  | .exported => if key == "local" then .reads else .inert
  | .tag | .tagRoot =>
    if p.node.kind == "JSXMemberExpression" && key == "object" then .tagRoot else .inert
  | _ => p.roleByKind key

/-- The site of a child. -/
def below (p : Site) (key : String) (child : Tree) : Site :=
  ⟨child, p.roleAt key, p.framesAt key⟩

end Site

/-! ### Events -/

/-- What happens at a site. -/
inductive Event where
  /-- A name is read or written to, with scopes around it. -/
  | use (label : Nat) (name : String) (writes : Bool) (frames : List Frame)
  /-- A name is declared in a scope, and gets a value right away if `initializes` holds. -/
  | declares (label : Nat) (name : String) (home : Frame) (initializes : Bool)
  /-- A scope opens. -/
  | opens (frame : Frame)

/-- **What happens at a site.** -/
def Site.events (p : Site) : List Event :=
  let name := ((p.node.get "name").str?).getD ""
  match p.node.kind with
  | "Identifier" =>
    match p.role with
    | .reads => [.use p.node.label name false p.frames]
    | .writes => [.use p.node.label name true p.frames]
    | .binds home initializes => [.declares p.node.label name home initializes]
    | .names home => [.declares p.node.label name home false]
    | _ => []
  | "JSXIdentifier" =>
    match p.role with
    | .tag =>
      -- an element of the markup itself is no use of a name
      if ScopeTree.isMarkupName name then [] else [.use p.node.label name false p.frames]
    | .tagRoot => if name == "this" then [] else [.use p.node.label name false p.frames]
    | _ => []
  | _ => if p.role = .inert then [] else p.opened.map .opens

/-- The site of the program itself. -/
def Site.root (program : Tree) : Site := ⟨program, .reads, [⟨program.label, "program"⟩]⟩

/-- The sites that are reached from a site, child by child. -/
inductive Reaches : Site → Site → Prop
  | refl (p : Site) : Reaches p p
  | step {p q : Site} {slot : Slot} {child : Tree} (h : (slot, child) ∈ p.node.slots)
      (hq : Reaches (p.below slot.key child) q) : Reaches p q

/-- The sites of a program. -/
def Stands (program : Tree) (p : Site) : Prop := Reaches (.root program) p

/-- What happens in a program. -/
def Happens (program : Tree) (e : Event) : Prop := ∃ p, Stands program p ∧ e ∈ p.events

/-- Whether a scope declares a name, anywhere in it. -/
def DeclaredIn (program : Tree) (frame : Frame) (name : String) : Prop :=
  ∃ label initializes, Happens program (.declares label name frame initializes)

/-- **The scope that a name belongs to**: the innermost of the scopes around it that declares it, if
there is one. -/
inductive Resolves (program : Tree) (name : String) : List Frame → Option Frame → Prop
  | none : Resolves program name [] none
  | here {frame : Frame} {outer : List Frame} (h : DeclaredIn program frame name) :
      Resolves program name (frame :: outer) (some frame)
  | outer {frame : Frame} {outer : List Frame} {found : Option Frame}
      (h : ¬DeclaredIn program frame name) (ho : Resolves program name outer found) :
      Resolves program name (frame :: outer) found

end Deminify
