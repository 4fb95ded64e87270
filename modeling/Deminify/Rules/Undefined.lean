import Deminify.Rule.Context
import Deminify.Tree.Build

/-!
# The value `undefined`

`void` of a number is `undefined`, unless something declares a variable of that name where it stands.

* `Deminify.Rules.Undefined.isVoid` – whether a node is `void` of a number;
* `Deminify.Rules.Undefined.run` – **writes `undefined` for it**, and counts the new name as a use.
-/

namespace Deminify.Rules.Undefined

/-- Whether a node is `void` of a number. -/
def isVoid {m : Type → Type} [Monad m] [MonadExceptOf Failure m] (t : Tree) : m Bool := do
  if t.isKind "UnaryExpression" then
    match ← t.field "operator" with
    | .str "void" => return (← t.field "argument").isNumericLiteral
    | _ => return false
  else return false

/-- Writes `undefined` at a place, unless the name is declared there. -/
def replace (places : Array Place) (i : Nat) : Editing (Array Place) := do
  let old := (← Editing.doc).nodeAt places i
  let s ← Editing.view
  let scope := (s.scopeFor old.label).getD 0
  if (s.lookup scope "undefined").isSome then return places
  let new ← Editing.adopt ((Tree.identifier "undefined").withCommentsOf old)
  let places ← Editing.replaceAt places i new
  let place := Document.placeAt places i
  let parent := ((← Editing.doc).parentAt places i).map fun p => (p.label, place.key.getD "")
  Editing.updateView fun s =>
    ((s.setScope new.label scope).addReference new.label "undefined" scope parent false).1
  return places

/-- Writes `undefined` for every `void` of a number. -/
def run : Editing Unit := do
  discard Editing.scopes
  let root ← Editing.root
  let voids ← root.subtree.zipIdx.filterM fun (t, _) => isVoid t
  discard ((voids.map (·.2)).foldlM replace root.places)

end Deminify.Rules.Undefined
