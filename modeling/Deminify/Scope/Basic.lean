import Std.Data.TreeMap
import Deminify.Document
import Deminify.Text.Case
import Deminify.Tree.Kind

/-!
# Scopes and bindings

The scopes of a program form a tree, numbered in the order in which they open. A scope binds names,
in the order of their declaration, and a binding knows the names that declare, read and write it.
Names are known by label, so that equal names stay apart. What no scope binds is global.

* `Deminify.Name.sanitize` – **a usable name out of any text**: its words joined with capitals;
* `Deminify.Name.pascal` – the same with a capital at the start;
* `Deminify.Binding`, `Deminify.Scope`, `Deminify.ScopeTree`;
* `Deminify.ScopeTree.ancestors` – a scope and those around it, from the inside out;
* `Deminify.ScopeTree.lookup` – **the binding of a name as seen from a scope**;
* `Deminify.ScopeTree.generateName` – a name that clashes with nothing.
-/

namespace Deminify.Name

/-- Whether a character can stand in a new name. -/
def isPlain (c : Char) : Bool := c.isAlphanum || c == '_' || c == '$'

/-- The runs of characters that can stand in a new name; `word` is the run being read, last
character first. -/
def wordsFrom (word : List Char) : List Char → List (List Char)
  | [] => if word.isEmpty then [] else [word.reverse]
  | c :: rest =>
    if isPlain c then wordsFrom (c :: word) rest
    else if word.isEmpty then wordsFrom [] rest
    else word.reverse :: wordsFrom [] rest

/-- The word with a capital at its start. -/
def capitalized : List Char → List Char
  | [] => []
  | c :: rest => c.toUpper :: rest

/-- A usable name out of any text: `foo-bar` becomes `fooBar`, and what starts with a digit or is a
reserved word gets an underscore. -/
def sanitize (text : String) : String :=
  match wordsFrom [] text.toList with
  | [] => "_"
  | first :: rest =>
    let name := first ++ (rest.map capitalized).flatten
    let isBad := name.head?.any Char.isDigit || reservedWords.contains (String.ofList name)
    String.ofList (if isBad then '_' :: name else name)

/-- A usable name that starts with a capital. -/
def pascal (text : String) : String :=
  match (sanitize text).toList.dropWhile (· == '_') with
  | [] => "_"
  | name => String.ofList (capitalized name)

end Deminify.Name

namespace Deminify

/-- A declared name and the places where it is used, by their labels. -/
structure Binding where
  name : String
  kind : String
  identifier : Nat
  node : Option Nat
  scope : Nat
  references : Array Nat := #[]
  writes : Array Nat := #[]
  redeclarations : Array Nat := #[]
  deriving Inhabited

namespace Binding

/-- Whether nothing writes to the name. -/
def constant (b : Binding) : Bool := b.writes.isEmpty

/-- The labels of all names that spell the binding. -/
def identifiers (b : Binding) : List Nat :=
  b.identifier :: (b.redeclarations ++ b.references ++ b.writes).toList

end Binding

/-- A scope, with the numbers of its bindings by name. -/
structure Scope where
  kind : String
  node : Nat
  parent : Option Nat
  children : Array Nat := #[]
  bindings : List (String × Nat) := []
  deriving Inhabited

/-- The scopes of a program, their bindings, and what is known of each name by its label: its
parent with the key there, the scope it stands in and its binding. -/
structure ScopeTree where
  scopes : Array Scope := #[]
  bindings : Array Binding := #[]
  globals : List (String × Array Nat) := []
  globalWrites : List (String × Array Nat) := []
  parentOf : Std.TreeMap Nat (Nat × String) := {}
  scopeOf : Std.TreeMap Nat Nat := {}
  bindingOf : Std.TreeMap Nat Nat := {}
  stale : Bool := false
  deriving Inhabited

namespace ScopeTree

section Failing

variable {m : Type → Type} [Monad m] [MonadExceptOf Failure m]

/-- The scope with a number, which must exist. -/
def scope (s : ScopeTree) (id : Int) : m Scope :=
  match id with
  | .ofNat n =>
    match s.scopes[n]? with
    | some scope => pure scope
    | none => throw (Failure.noScope id)
  | .negSucc _ => throw (Failure.noScope id)

/-- Fails unless there is a scope with the number. -/
def checkScope (s : ScopeTree) (id : Int) : m Nat := do
  discard (s.scope id)
  pure id.toNat

end Failing

/-! ### Around and below -/

/-- The scope and those around it, from the inside out; `fuel` bounds their number. -/
def ancestorsWithin (s : ScopeTree) : Nat → Nat → List Nat
  | 0, _ => []
  | fuel + 1, id =>
    match s.scopes[id]? with
    | some scope =>
      id :: match scope.parent with
        | some parent => s.ancestorsWithin fuel parent
        | none => []
    | none => []

/-- The scope and those around it, from the inside out. -/
def ancestors (s : ScopeTree) (id : Nat) : List Nat := s.ancestorsWithin s.scopes.size id

/-- The scopes below a stack of scopes, the top of the stack first. -/
def descendantsWithin (s : ScopeTree) : Nat → List Nat → List Nat
  | 0, _ => []
  | _, [] => []
  | fuel + 1, id :: stack =>
    let children := (s.scopes[id]?.map (·.children)).getD #[]
    id :: s.descendantsWithin fuel (children.toList.reverse ++ stack)

/-- The scopes inside a scope. -/
def descendants (s : ScopeTree) (id : Nat) : List Nat :=
  let children := (s.scopes[id]?.map (·.children)).getD #[]
  s.descendantsWithin s.scopes.size children.toList.reverse

/-- Whether a scope of the kind receives the names declared by `var`. -/
def receivesVars (kind : String) : Bool := kind == "function" || kind == "program"

/-- The nearest scope that receives the names declared by `var`. -/
def functionScope (s : ScopeTree) (id : Nat) : Nat :=
  let around := s.ancestors id
  match around.find? fun a => (s.scopes[a]?).any (receivesVars ·.kind) with
  | some found => found
  | none => around.getLast?.getD id

/-! ### Names -/

/-- The number of the binding of a name as seen from a scope. -/
def lookup (s : ScopeTree) (id : Nat) (name : String) : Option Nat :=
  (s.ancestors id).findSome? fun a => (s.scopes[a]?).bind (·.bindings.lookup name)

/-- The binding with a number. -/
def binding (s : ScopeTree) (id : Nat) : Binding := s.bindings[id]?.getD default

/-- The binding of a name as seen from a scope. -/
def binding? (s : ScopeTree) (id : Nat) (name : String) : Option Binding :=
  (s.lookup id name).map s.binding

/-- The labels of the places that read a name: those of its binding, or the global ones. -/
def findReferences (s : ScopeTree) (id : Nat) (name : String) : List Nat :=
  match s.binding? id name with
  | some b => b.references.toList
  | none => ((s.globals.lookup name).getD #[]).toList

/-- The number of the binding of a name, by its label. -/
def bindingFor (s : ScopeTree) (label : Nat) : Option Nat := s.bindingOf.get? label

/-- The scope that a node opens or stands in. -/
def scopeFor (s : ScopeTree) (label : Nat) : Option Nat := s.scopeOf.get? label

/-- The parent of a name with the key there. -/
def parentInfo (s : ScopeTree) (label : Nat) : Option (Nat × String) := s.parentOf.get? label

/-- Whether a name declared in a scope could clash with another. -/
def nameInUse (s : ScopeTree) (id : Nat) (name : String) : Bool :=
  reservedWords.contains name
    || !((s.globals.lookup name).getD #[]).isEmpty
    || (s.lookup id name).isSome
    || (s.descendants id).any fun d => (s.scopes[d]?).any fun scope => (scope.bindings.lookup name).isSome

/-- Whether a name declared in the scope with a number could clash with another; the number must
exist unless the name clashes everywhere. -/
def nameInUseFrom {m : Type → Type} [Monad m] [MonadExceptOf Failure m] (s : ScopeTree) (id : Int)
    (name : String) : m Bool := do
  if reservedWords.contains name || !((s.globals.lookup name).getD #[]).isEmpty then pure true
  else pure (s.nameInUse (← s.checkScope id) name)

/-- The first of the numbered names that is free. -/
def firstFree (s : ScopeTree) (id : Nat) (base : String) : Nat → Nat → String
  | 0, counter => s!"{base}_{counter}"
  | fuel + 1, counter =>
    let candidate := s!"{base}_{counter}"
    if s.nameInUse id candidate then s.firstFree id base fuel (counter + 1) else candidate

/-- A name like the given one that is free in a scope. There are fewer names in use than tried. -/
def generateName (s : ScopeTree) (base : String) (id : Nat) : String :=
  let base := Name.sanitize base
  if s.nameInUse id base then
    s.firstFree id base (s.bindings.size + s.globals.length + reservedWords.length) 1
  else base

end ScopeTree

end Deminify
