import Deminify.Document

/-!
# Places in a document

A walk notes for each node the place it was found at: the place of its parent, and the key and index
there. A place stays good while the document is edited elsewhere, because an edit looks the node up
by its label first: where it was found, or else anywhere below the parent, since the node may have
moved into a new wrapper. An edit then changes one slot of one owner.

* `Deminify.Place`, `Deminify.Tree.places` – **the places of all nodes in document order**;
* `Deminify.Document.locate` – the owner and the slot that hold the node of a place now;
* `Deminify.Document.replaceAt`, `Deminify.Document.removeAt`, `Deminify.Document.insertBeforeAt`,
  `Deminify.Document.insertAfterAt` – the edits.
-/

namespace Deminify

/-- Where a node was found: the number of its parent's place, and the key and index there. -/
structure Place where
  node : Nat
  parent : Option Nat := none
  key : Option String := none
  index : Option Nat := none
  deriving Inhabited, Repr

namespace Tree

/-! ### All places of a tree -/

mutual

/-- The places below the fields of the node at a place, behind those found. -/
def placesFields (parent : Nat) (fields : List (String × Tree)) (found : Array Place) :
    Array Place :=
  match fields with
  | [] => found
  | (key, value) :: rest =>
    placesFields parent rest
      (if holdsChildren key then placesValue parent key value found else found)
termination_by structural fields

/-- The places in the value of one field. -/
def placesValue (parent : Nat) (key : String) (value : Tree) (found : Array Place) :
    Array Place :=
  match value with
  | .list items => placesItems parent key 0 items found
  | .obj label fields =>
    if (Tree.obj label fields).isNode then
      placesFields found.size fields (found.push ⟨label, some parent, some key, none⟩)
    else found
  | _ => found
termination_by structural value

/-- The places in the items of a list field, from an index on. -/
def placesItems (parent : Nat) (key : String) (start : Nat) (items : List Tree)
    (found : Array Place) : Array Place :=
  match items with
  | [] => found
  | t :: rest => placesItems parent key (start + 1) rest (placesItem parent key start t found)
termination_by structural items

/-- The places in one item. -/
def placesItem (parent : Nat) (key : String) (index : Nat) (t : Tree) (found : Array Place) :
    Array Place :=
  match t with
  | .obj label fields =>
    if (Tree.obj label fields).isNode then
      placesFields found.size fields (found.push ⟨label, some parent, some key, some index⟩)
    else found
  | _ => found
termination_by structural t

end

/-- The places of all nodes in document order, the root first. -/
def places (t : Tree) : Array Place := placesFields 0 t.fields #[⟨t.label, none, none, none⟩]

/-! ### Slots -/

/-- The record with the value in a slot replaced. -/
def setSlot (t : Tree) (slot : Slot) (value : Tree) : Tree :=
  match slot.index with
  | none => t.set slot.key value
  | some i => t.set slot.key (.list ((t.get slot.key).items.set i value))

/-- The record with a slot emptied: a list gets shorter, any other field becomes null. -/
def clearSlot (t : Tree) (slot : Slot) : Tree :=
  match slot.index with
  | none => t.set slot.key .null
  | some i => t.set slot.key (.list ((t.get slot.key).items.eraseIdx i))

/-- The record with values put into a list field in front of an index. -/
def insertAt (t : Tree) (key : String) (index : Nat) (values : List Tree) : Tree :=
  let items := (t.get key).items
  t.set key (.list (items.take index ++ values ++ items.drop index))

/-- The slot of the child with a label. -/
def slotOf? (t : Tree) (label : Nat) : Option Slot :=
  (t.slots.find? fun (_, child) => child.label == label).map (·.1)

/-- The slot in the field of a key that holds the record with a label. -/
def heldAt? (t : Tree) (key : String) (label : Nat) : Option Slot :=
  match t.get? key with
  | some (.list items) =>
    (items.findIdx? fun item => item.label? == some label).map fun i => ⟨key, some i⟩
  | some other => if other.label? == some label then some ⟨key, none⟩ else none
  | none => none

end Tree

namespace Document

variable (d : Document) (places : Array Place)

/-- The place with a number. -/
def placeAt (places : Array Place) (i : Nat) : Place := places[i]?.getD default

/-- The node at a place. -/
def nodeAt (i : Nat) : Tree := d.get (placeAt places i).node

/-- The node at the parent of a place. -/
def parentAt (i : Nat) : Option Tree := (placeAt places i).parent.map (d.nodeAt places)

/-- What the parent holds under the key of a place. -/
def containerAt (i : Nat) : Option Tree := do
  let parent ← d.parentAt places i
  parent.get? (← (placeAt places i).key)

/-- Whether a place is in a list of statements. -/
def inStatementList (i : Nat) : Bool :=
  match d.parentAt places i with
  | some parent =>
    Tree.isStatementListParent parent.kind && (d.containerAt places i).any Tree.isList
  | none => false

/-- The label of the owner and the slot that hold the node of a place now. -/
def locate (i : Nat) : Except Failure (Nat × Slot) :=
  let place := placeAt places i
  match d.parentAt places i with
  | none => .error .rootAddress
  | some parent =>
    match parent.heldAt? (place.key.getD "") place.node with
    | some slot => .ok (parent.label, slot)
    | none =>
      match parent.subtree.findSome? fun t => (t.slotOf? place.node).map (t.label, ·) with
      | some found => .ok found
      | none => .error (.detached (d.get place.node).kind)

/-- Puts a node, all of whose records are labelled, in the place of another. -/
def replaceAt (i : Nat) (new : Tree) : Except Failure (Document × Array Place) := do
  let (owner, slot) ← d.locate places i
  let old := d.nodeAt places i
  return ((d.edit owner (·.setSlot slot new)).keep old,
    places.modify i fun place => { place with node := new.label })

/-- Takes the node of a place out of the tree. -/
def removeAt (i : Nat) : Except Failure Document := do
  let (owner, slot) ← d.locate places i
  let old := d.nodeAt places i
  return (d.edit owner (·.clearSlot slot)).keep old

/-- Puts nodes in front of the node of a place, which must be in a list. -/
def insertBeforeAt (i : Nat) (nodes : List Tree) : Except Failure Document := do
  match ← d.locate places i with
  | (owner, ⟨key, some index⟩) => return d.edit owner (·.insertAt key index nodes)
  | _ => throw (.notInList "insert_before")

/-- Puts nodes behind the node of a place, which must be in a list. -/
def insertAfterAt (i : Nat) (nodes : List Tree) : Except Failure Document := do
  match ← d.locate places i with
  | (owner, ⟨key, some index⟩) => return d.edit owner (·.insertAt key (index + 1) nodes)
  | _ => throw (.notInList "insert_after")

end Document

end Deminify
