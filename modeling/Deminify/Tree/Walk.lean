import Deminify.Tree.Kind

/-!
# Walking a tree

The children of a node are the nodes among its fields and among the items of its list fields, in
the order in which they stand there; positions, comments and written forms are no children. A walk
visits a node before its children.

* `Deminify.Tree.slots` – the children of a node, each with the key and index of its place;
* `Deminify.Tree.subtree` – **the nodes in document order**;
* `Deminify.Tree.mapNodes` – the tree with every node changed, from the leaves up;
* `Deminify.Tree.statementLists` – the lists of statements, each by the label of its owner.
-/

namespace Deminify

/-- A place below a node: a key, and an index when the field is a list. -/
structure Slot where
  key : String
  index : Option Nat
  deriving DecidableEq, Repr

namespace Tree

/-- The fields that hold no children. -/
def childlessFields : List String := [
  "type", "range", "loc", "leadingComments", "trailingComments", "regex", "raw", "synthetic"]

/-- Whether a field can hold children. -/
def holdsChildren (key : String) : Bool := !childlessFields.contains key

/-- The nodes among the items of a list field, from the given index on. -/
def itemSlots (key : String) (start : Nat) : List Tree → List (Slot × Tree)
  | [] => []
  | t :: rest =>
    if t.isNode then (⟨key, some start⟩, t) :: itemSlots key (start + 1) rest
    else itemSlots key (start + 1) rest

/-- The children in one field. -/
def fieldSlots (key : String) (value : Tree) : List (Slot × Tree) :=
  if holdsChildren key then
    match value with
    | .list items => itemSlots key 0 items
    | other => if other.isNode then [(⟨key, none⟩, other)] else []
  else []

/-- The children of a node with their places. -/
def slots (t : Tree) : List (Slot × Tree) :=
  t.fields.flatMap fun (key, value) => fieldSlots key value

/-- The children of a node. -/
def children (t : Tree) : List Tree := t.slots.map (·.2)

/-! ### Document order -/

mutual

/-- The nodes below the fields. -/
def subtreeFields (fields : List (String × Tree)) : List Tree :=
  match fields with
  | [] => []
  | (key, value) :: rest =>
    (if holdsChildren key then subtreeValue value else []) ++ subtreeFields rest
termination_by structural fields

/-- The nodes below the value of one field. -/
def subtreeValue (value : Tree) : List Tree :=
  match value with
  | .list items => subtreeItems items
  | .obj label fields =>
    if (Tree.obj label fields).isNode then .obj label fields :: subtreeFields fields else []
  | _ => []
termination_by structural value

/-- The nodes below the items of a list field; a list inside a list holds none. -/
def subtreeItems (items : List Tree) : List Tree :=
  match items with
  | [] => []
  | t :: rest => subtreeItem t ++ subtreeItems rest
termination_by structural items

/-- The nodes below one item. -/
def subtreeItem (t : Tree) : List Tree :=
  match t with
  | .obj label fields =>
    if (Tree.obj label fields).isNode then .obj label fields :: subtreeFields fields else []
  | _ => []
termination_by structural t

end

/-- **The nodes of a tree in document order**, the root first, whatever the root is. -/
def subtree (t : Tree) : List Tree := t :: subtreeFields t.fields

/-! ### Changing every node -/

mutual

/-- The fields with every node below them changed. -/
def mapNodesFields (change : Tree → Tree) (fields : List (String × Tree)) :
    List (String × Tree) :=
  match fields with
  | [] => []
  | (key, value) :: rest =>
    (key, if holdsChildren key then mapNodesValue change value else value)
      :: mapNodesFields change rest
termination_by structural fields

/-- The value of one field with every node below it changed. -/
def mapNodesValue (change : Tree → Tree) (value : Tree) : Tree :=
  match value with
  | .list items => .list (mapNodesItems change items)
  | .obj label fields =>
    if (Tree.obj label fields).isNode then change (.obj label (mapNodesFields change fields))
    else .obj label fields
  | other => other
termination_by structural value

/-- The items of a list field with every node below them changed. -/
def mapNodesItems (change : Tree → Tree) (items : List Tree) : List Tree :=
  match items with
  | [] => []
  | t :: rest => mapNodesItem change t :: mapNodesItems change rest
termination_by structural items

/-- One item with every node below it changed. -/
def mapNodesItem (change : Tree → Tree) (t : Tree) : Tree :=
  match t with
  | .obj label fields =>
    if (Tree.obj label fields).isNode then change (.obj label (mapNodesFields change fields))
    else .obj label fields
  | other => other
termination_by structural t

end

/-- The tree with every node changed, from the leaves up; the root is changed whatever it is. -/
def mapNodes (change : Tree → Tree) : Tree → Tree
  | .obj label fields => change (.obj label (mapNodesFields change fields))
  | other => other

/-! ### Questions about all nodes -/

/-- Whether some node of the tree has the property. -/
def someNode (t : Tree) (p : Tree → Bool) : Bool := t.subtree.any p

/-- Whether some node of the tree has the property, a question that may fail. -/
def someNodeM {m : Type → Type} [Monad m] (t : Tree) (p : Tree → m Bool) : m Bool :=
  t.subtree.anyM p

/-- The place of the list of statements that a node of this kind holds. -/
def statementKey (kind : String) : Option String :=
  if kind == "SwitchCase" then some "consequent"
  else if isStatementListParent kind then some "body"
  else none

/-- The lists of statements in document order: for each, the label of its owner and the key. A node
of a kind that holds statements must have that field. -/
def statementLists {m : Type → Type} [Monad m] [MonadExceptOf Failure m] (t : Tree) :
    m (List (Nat × String)) :=
  t.subtree.filterMapM fun n => do
    match statementKey n.kind with
    | none => return none
    | some key =>
      discard (n.field (m := m) key)
      return some (n.label, key)

end Tree

end Deminify
