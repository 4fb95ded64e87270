import Deminify.Rule.Context
import Deminify.Tree.Build

/-!
# While loops

A `for` loop that neither sets up nor steps anything is a `while` loop, and one without a test runs
while `true`. All such loops are found first; they may stand directly inside each other, so that the
place of one can be inside another that has been replaced by then.

* `Deminify.Rules.WhileLoop.isBareFor` – whether a node is such a `for` loop;
* `Deminify.Rules.WhileLoop.whileOf` – the `while` loop of such a `for` loop;
* `Deminify.Rules.WhileLoop.run` – **replaces every such loop of the program**.
-/

namespace Deminify.Rules.WhileLoop

/-- Whether a node is a `for` loop with neither set-up nor step. -/
def isBareFor (t : Tree) : Bool :=
  t.isKind "ForStatement" && (t.get "init").isNull && (t.get "update").isNull

/-- The `while` loop of a bare `for` loop and its body, with the comments of the loop. -/
def whileOf (loop body : Tree) : Tree :=
  let test := if (loop.get "test").truthy then loop.get "test" else Tree.booleanLiteral true
  (Tree.whileStatement test body).withCommentsOf loop

/-- Puts a `while` loop in the place of a bare `for` loop. -/
def replace (places : Array Place) (i : Nat) : Editing (Array Place) := do
  let loop := (← Editing.doc).nodeAt places i
  let new ← Editing.adopt (whileOf loop (← loop.field "body"))
  Editing.replaceAt places i new

/-- Turns every bare `for` loop of the program into a `while` loop. The scopes of a `for` loop go
with it. -/
def run : Editing Unit := do
  let root ← Editing.root
  let loops := root.subtree.zipIdx.filter fun (t, _) => isBareFor t
  discard ((loops.map (·.2)).foldlM replace root.places)
  if !loops.isEmpty then Editing.resetView

end Deminify.Rules.WhileLoop
