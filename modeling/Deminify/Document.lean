import Deminify.Tree.Walk

/-!
# Documents

A document is a tree under edit. Nodes that are taken out of the tree, or are made but not put in
yet, stay known as loose nodes, so that what refers to them by label still finds them; an edit by
label reaches both.

* `Deminify.Document` – the tree, its loose nodes and the first free label;
* `Deminify.Document.edit` – **changes the records with a label**;
* `Deminify.Document.adopt` – gives labels to a new value;
* `Deminify.Document.rename` – renames the names with the given labels.
-/

namespace Deminify

/-- A tree under edit. All labels in use are below `next`. -/
structure Document where
  root : Tree
  loose : List Tree
  next : Nat

namespace Document

/-- The document of a tree, whose new records are labelled. -/
def ofTree (t : Tree) (next : Nat) : Document :=
  let (root, next) := t.number next
  ⟨root, [], next⟩

/-- Changes the records with a label. -/
def edit (d : Document) (label : Nat) (change : Tree → Tree) : Document :=
  { d with root := d.root.edit label change, loose := d.loose.map (·.edit label change) }

/-- Sets a field of the records with a label. -/
def set (d : Document) (label : Nat) (key : String) (value : Tree) : Document :=
  d.edit label (·.set key value)

/-- The record with a label. -/
def find? (d : Document) (label : Nat) : Option Tree :=
  (d.root.find? label).or (Tree.findItems? label d.loose)

/-- The record with a label; null if there is none. -/
def get (d : Document) (label : Nat) : Tree := (d.find? label).getD .null

/-- Labels the new records of a value. -/
def adopt (d : Document) (t : Tree) : Tree × Document :=
  let (t, next) := t.number d.next
  (t, { d with next })

/-- Keeps a value that is not in the tree. -/
def keep (d : Document) (t : Tree) : Document := { d with loose := d.loose ++ [t] }

/-- Renames the names with the given labels. -/
def rename (d : Document) (labels : List Nat) (name : String) : Document :=
  let change (t : Tree) : Tree := if labels.contains t.label then t.set "name" (.str name) else t
  if labels.isEmpty then d
  else { d with root := d.root.mapObjs change, loose := d.loose.map (·.mapObjs change) }

/-- The items of the list that a record holds under a key. -/
def listAt (d : Document) (label : Nat) (key : String) : List Tree := ((d.get label).get key).items

/-- Changes the list that a record holds under a key. -/
def editList (d : Document) (label : Nat) (key : String) (change : List Tree → List Tree) :
    Document :=
  d.edit label fun t => t.set key (.list (change (t.get key).items))

end Document

end Deminify
