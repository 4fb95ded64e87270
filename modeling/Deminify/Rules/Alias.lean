import Deminify.Rule.Context

/-!
# Aliases

A minifier routes values through names that are used once: `const t = s; const u = t;`. Where the
one use of such a name starts off another variable of the same function, the value goes there
directly and the alias goes away. A name may only move where it still means the same, and nothing
may write to it.

* `Deminify.Rules.Alias.aliasAt?` – whether a statement is such an alias, and where its value goes;
* `Deminify.Rules.Alias.inlineAll` – **inlines the aliases of a list of statements**.
-/

namespace Deminify.Rules.Alias

/-- The only declarator of a declaration. -/
def singleDeclarator? {m : Type → Type} [Monad m] [MonadExceptOf Failure m] (statement : Tree) :
    m (Option Tree) := do
  if (← statement.kindOf) != "VariableDeclaration" then return none
  match ← statement.listField "declarations" with
  | [declarator] => return some declarator
  | _ => return none

/-- An alias that can be inlined: its binding, its value, the use it has, the declarator which that
use starts off, and the scope there. -/
structure Inlining where
  binding : Nat
  init : Tree
  reference : Nat
  target : Nat
  scope : Nat

/-- Whether a name means in a scope what it means where it stands, and nothing writes to it. -/
def canMove (s : ScopeTree) (name : Tree) (spelling : String) (scope : Nat) : Bool :=
  let source := s.bindingFor name.label
  s.lookup scope spelling == source
    && match source with
      | some b => (s.binding b).writes.isEmpty
      | none => ((s.globalWrites.lookup spelling).getD #[]).isEmpty

/-- Where the value of a name goes, if its binding has one use only, and that starts off a variable
of the same function. -/
def targetOf? (d : Document) (s : ScopeTree) (statement init : Tree) (b : Nat) : Option Inlining :=
  let binding := s.binding b
  if binding.writes.isEmpty && binding.redeclarations.isEmpty then
    match binding.references.toList with
    | [reference] =>
      match s.parentInfo reference, s.scopeFor reference with
      | some (target, "init"), some scope =>
        let declarator := d.get target
        let declared := (s.scopeFor statement.label).getD binding.scope
        if declarator.isKind "VariableDeclarator"
            && (declarator.get "init").label? == some reference
            && s.functionScope scope == s.functionScope declared then
          some ⟨b, init, reference, target, scope⟩
        else none
      | _, _ => none
    | _ => none
  else none

/-- Whether a statement is an alias that can be inlined, and where its value goes. -/
def aliasAt? (d : Document) (s : ScopeTree) (statement : Tree) :
    Except Failure (Option Inlining) := do
  match ← singleDeclarator? statement with
  | none => return none
  | some declarator =>
    let kind ← statement.textField "kind"
    if kind != "const" && kind != "let" then return none
    let name ← declarator.field "id"
    let init := declarator.get "init"
    if !name.isIdentifier || !(init.isIdentifier || init.isPrimitiveLiteral) then return none
    match (s.bindingFor name.label).bind (targetOf? d s statement init) with
    | none => return none
    | some inlining =>
      if init.isIdentifier then
        if canMove s init (← init.textField "name") inlining.scope then return some inlining
        else return none
      else return some inlining

/-- The view with the value of an alias in its new place and without the alias. -/
def updateScopes (inlining : Inlining) (s : ScopeTree) : ScopeTree :=
  let s := s.setScope inlining.init.label inlining.scope
  let parentOf := s.parentOf.erase inlining.reference
  let parentOf := if inlining.init.isIdentifier then
      parentOf.insert inlining.init.label (inlining.target, "init")
    else parentOf
  { s with parentOf }.removeBinding inlining.binding

/-- Puts the value of an alias in its new place and removes the alias. -/
def inline (owner : Nat) (key : String) (index : Nat) (inlining : Inlining) : Editing Unit := do
  Editing.setField inlining.target "init" inlining.init
  Editing.updateDoc (·.editList owner key (removeStatement · index))
  Editing.updateView (updateScopes inlining)

/-- Inlines the aliases of a list of statements from an index on: each step removes a statement or
passes one. -/
def inlineFrom (owner : Nat) (key : String) : Nat → Nat → Editing Unit
  | 0, _ => return
  | fuel + 1, index => do
    match ((← Editing.doc).listAt owner key)[index]? with
    | none => return
    | some statement =>
      match ← Editing.ask (aliasAt? (← Editing.doc) (← Editing.view) statement) with
      | some inlining =>
        inline owner key index inlining
        inlineFrom owner key fuel index
      | none => inlineFrom owner key fuel (index + 1)

/-- Inlines the aliases of a list of statements. -/
def inlineAll (owner : Nat) (key : String) : Editing Unit := do
  inlineFrom owner key ((← Editing.doc).listAt owner key).length 0

end Deminify.Rules.Alias
