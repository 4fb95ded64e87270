import Deminify.Failure
import Deminify.Json.Basic

/-!
# Program trees

A program is a tree of nodes, and a node is a record of named fields: its kind under `type`, then
its parts, in an order that traversals follow. A record also carries a **label**, so that two nodes
that look alike can be told apart; editing changes the records with a given label.

* `Deminify.Tree` – the trees;
* `Deminify.Tree.get?`, `Deminify.Tree.field` – a field of a record;
* `Deminify.Tree.set`, `Deminify.Tree.drop` – a record with a field set or taken away;
* `Deminify.Tree.edit` – **the tree with every record of a label changed**;
* `Deminify.Tree.find?` – the first record with a label;
* `Deminify.Tree.number` – the tree with its new records labelled, in document order.

The label zero marks a record as new: it has not been given a label yet.
-/

namespace Deminify

/-- A value of a program tree: a leaf, a list, or a labelled record of fields. -/
inductive Tree where
  | null
  | bool (b : Bool)
  | int (n : Int)
  | real (x : Binary64)
  | str (s : String)
  | list (items : List Tree)
  | obj (label : Nat) (fields : List (String × Tree))
  deriving Repr, Inhabited

namespace Tree

/-! ### Looking at a value -/

/-- The label of a record. -/
def label? : Tree → Option Nat
  | .obj label _ => some label
  | _ => none

/-- The label of a record, and zero for any other value. -/
def label (t : Tree) : Nat := t.label?.getD 0

/-- The fields of a record; other values have none. -/
def fields : Tree → List (String × Tree)
  | .obj _ fields => fields
  | _ => []

/-- The items of a list; other values have none. -/
def items : Tree → List Tree
  | .list items => items
  | _ => []

/-- The value of a field. -/
def get? (t : Tree) (key : String) : Option Tree := t.fields.lookup key

/-- The value of a field, null when the record lacks it. -/
def get (t : Tree) (key : String) : Tree := (t.get? key).getD .null

/-- The text of a leaf. -/
def str? : Tree → Option String
  | .str s => some s
  | _ => none

/-- Whether a value is null. -/
def isNull : Tree → Bool
  | .null => true
  | _ => false

/-- Whether a value is a list. -/
def isList : Tree → Bool
  | .list _ => true
  | _ => false

/-- Whether a value is a record. -/
def isObj : Tree → Bool
  | .obj _ _ => true
  | _ => false

/-- Whether a value counts as true: everything but null, false, zero and what is empty. -/
def truthy : Tree → Bool
  | .null => false
  | .bool b => b
  | .int n => n != 0
  | .real x => !x.isZero
  | .str s => !s.isEmpty
  | .list items => !items.isEmpty
  | .obj _ fields => !fields.isEmpty

/-- Whether a value is a node: a record with a kind. -/
def isNode (t : Tree) : Bool := t.isObj && (t.get? "type").isSome

/-- The kind of a node; empty for anything else. -/
def kind (t : Tree) : String := ((t.get? "type").bind str?).getD ""

/-- Whether a value is a node of the given kind. -/
def isKind (t : Tree) (kind : String) : Bool :=
  t.isObj && ((t.get? "type").bind str?) == some kind

/-- What a value is, for messages about its shape. -/
def sort : Tree → String
  | .null => "null"
  | .bool _ => "truth value"
  | .int _ => "integer"
  | .real _ => "number"
  | .str _ => "text"
  | .list _ => "list"
  | .obj _ _ => "record"

section Failing

variable {m : Type → Type} [Monad m] [MonadExceptOf Failure m]

/-- The value of a field, which must be there. -/
def field (t : Tree) (key : String) : m Tree :=
  match t with
  | .obj _ fields =>
    match fields.lookup key with
    | some value => pure value
    | none => throw (Failure.missing key)
  | _ => throw (Failure.shape s!"{t.sort} has no field {key}")

/-- The items of a field, which must be there and hold a list. -/
def listField (t : Tree) (key : String) : m (List Tree) := do
  match ← t.field key with
  | .list items => pure items
  | other => throw (Failure.shape s!"{other.sort} is no list")

/-- The text of a field, which must be there and hold one. -/
def textField (t : Tree) (key : String) : m String := do
  match ← t.field key with
  | .str s => pure s
  | other => throw (Failure.shape s!"{other.sort} is no text")

/-- The kind of a node, which must have one. -/
def kindOf (t : Tree) : m String := t.textField "type"

end Failing

/-! ### Changing a record -/

/-- The record with a field set: in its place if it is there, at the end otherwise. -/
def set (t : Tree) (key : String) (value : Tree) : Tree :=
  match t with
  | .obj label fields => .obj label (putKey fields key value)
  | other => other

/-- The record without a field. -/
def drop (t : Tree) (key : String) : Tree :=
  match t with
  | .obj label fields => .obj label (fields.filter (·.1 != key))
  | other => other

/-- The record under another label. -/
def relabel (t : Tree) (label : Nat) : Tree :=
  match t with
  | .obj _ fields => .obj label fields
  | other => other

/-! ### Size -/

mutual

/-- The longest way from the root to a leaf. -/
def height (t : Tree) : Nat :=
  match t with
  | .list items => heightItems items + 1
  | .obj _ fields => heightFields fields + 1
  | _ => 1
termination_by structural t

/-- The height of the highest item. -/
def heightItems (items : List Tree) : Nat :=
  match items with
  | [] => 0
  | t :: rest => max t.height (heightItems rest)
termination_by structural items

/-- The height of the highest field. -/
def heightFields (fields : List (String × Tree)) : Nat :=
  match fields with
  | [] => 0
  | (_, t) :: rest => max t.height (heightFields rest)
termination_by structural fields

end

/-! ### Edits by label -/

mutual

/-- **The tree with every record of the label changed**, from the leaves up. -/
def edit (label : Nat) (change : Tree → Tree) (t : Tree) : Tree :=
  match t with
  | .list items => .list (editItems label change items)
  | .obj l fields =>
    let edited := .obj l (editFields label change fields)
    if l = label then change edited else edited
  | other => other
termination_by structural t

/-- The items with every record of the label changed. -/
def editItems (label : Nat) (change : Tree → Tree) (items : List Tree) : List Tree :=
  match items with
  | [] => []
  | t :: rest => t.edit label change :: editItems label change rest
termination_by structural items

/-- The fields with every record of the label changed. -/
def editFields (label : Nat) (change : Tree → Tree) (fields : List (String × Tree)) :
    List (String × Tree) :=
  match fields with
  | [] => []
  | (k, t) :: rest => (k, t.edit label change) :: editFields label change rest
termination_by structural fields

end

mutual

/-- The tree with every record changed, from the leaves up. -/
def mapObjs (change : Tree → Tree) (t : Tree) : Tree :=
  match t with
  | .list items => .list (mapObjsItems change items)
  | .obj l fields => change (.obj l (mapObjsFields change fields))
  | other => other
termination_by structural t

/-- The items with every record changed. -/
def mapObjsItems (change : Tree → Tree) (items : List Tree) : List Tree :=
  match items with
  | [] => []
  | t :: rest => t.mapObjs change :: mapObjsItems change rest
termination_by structural items

/-- The fields with every record changed. -/
def mapObjsFields (change : Tree → Tree) (fields : List (String × Tree)) :
    List (String × Tree) :=
  match fields with
  | [] => []
  | (k, t) :: rest => (k, t.mapObjs change) :: mapObjsFields change rest
termination_by structural fields

end

mutual

/-- The first record with the label, in document order. -/
def find? (label : Nat) (t : Tree) : Option Tree :=
  match t with
  | .list items => findItems? label items
  | .obj l fields => if l = label then some (.obj l fields) else findFields? label fields
  | _ => none
termination_by structural t

/-- The first record with the label among the items. -/
def findItems? (label : Nat) (items : List Tree) : Option Tree :=
  match items with
  | [] => none
  | t :: rest => (t.find? label).or (findItems? label rest)
termination_by structural items

/-- The first record with the label among the fields. -/
def findFields? (label : Nat) (fields : List (String × Tree)) : Option Tree :=
  match fields with
  | [] => none
  | (_, t) :: rest => (t.find? label).or (findFields? label rest)
termination_by structural fields

end

/-! ### Fresh labels -/

mutual

/-- The tree with its new records labelled `next`, `next + 1`, … in document order, and the first
label that is still free. -/
def number (next : Nat) (t : Tree) : Tree × Nat :=
  match t with
  | .list items =>
    let (items, next) := numberItems next items
    (.list items, next)
  | .obj 0 fields =>
    let (fields, after) := numberFields (next + 1) fields
    (.obj next fields, after)
  | .obj label fields =>
    let (fields, after) := numberFields next fields
    (.obj label fields, after)
  | other => (other, next)
termination_by structural t

/-- The items with their new records labelled. -/
def numberItems (next : Nat) (items : List Tree) : List Tree × Nat :=
  match items with
  | [] => ([], next)
  | t :: rest =>
    let (t, next) := t.number next
    let (rest, next) := numberItems next rest
    (t :: rest, next)
termination_by structural items

/-- The fields with their new records labelled. -/
def numberFields (next : Nat) (fields : List (String × Tree)) : List (String × Tree) × Nat :=
  match fields with
  | [] => ([], next)
  | (k, t) :: rest =>
    let (t, next) := t.number next
    let (rest, next) := numberFields next rest
    ((k, t) :: rest, next)
termination_by structural fields

end

/-- The tree with every record new: a copy that shares no label with it. -/
def renewed (t : Tree) : Tree := t.mapObjs (·.relabel 0)

/-! ### Plain data -/

mutual

/-- The tree of plain data, all labels zero. -/
def ofJson (j : Json) : Tree :=
  match j with
  | .null => .null
  | .bool b => .bool b
  | .int n => .int n
  | .real x => .real x
  | .str s => .str s
  | .list items => .list (ofJsonItems items)
  | .obj fields => .obj 0 (ofJsonFields fields)
termination_by structural j

/-- The trees of the items. -/
def ofJsonItems (items : List Json) : List Tree :=
  match items with
  | [] => []
  | j :: rest => ofJson j :: ofJsonItems rest
termination_by structural items

/-- The trees of the fields. -/
def ofJsonFields (fields : List (String × Json)) : List (String × Tree) :=
  match fields with
  | [] => []
  | (k, j) :: rest => (k, ofJson j) :: ofJsonFields rest
termination_by structural fields

end

mutual

/-- The plain data of a tree, without its labels. -/
def toJson (t : Tree) : Json :=
  match t with
  | .null => .null
  | .bool b => .bool b
  | .int n => .int n
  | .real x => .real x
  | .str s => .str s
  | .list items => .list (toJsonItems items)
  | .obj _ fields => .obj (toJsonFields fields)
termination_by structural t

/-- The plain data of the items. -/
def toJsonItems (items : List Tree) : List Json :=
  match items with
  | [] => []
  | t :: rest => toJson t :: toJsonItems rest
termination_by structural items

/-- The plain data of the fields. -/
def toJsonFields (fields : List (String × Tree)) : List (String × Json) :=
  match fields with
  | [] => []
  | (k, t) :: rest => (k, toJson t) :: toJsonFields rest
termination_by structural fields

end

/-! ### Scalars -/

/-- The leaf of a number. -/
def ofNumber : Int ⊕ Binary64 → Tree
  | .inl n => .int n
  | .inr x => .real x

/-- Equality of two leaves as values: integers and doubles compare as numbers, truth values count
as zero and one. Lists and records are never equal here. -/
def sameScalar : Tree → Tree → Bool
  | .null, .null => true
  | .str a, .str b => a == b
  | a, b =>
    match asNumber a, asNumber b with
    | some (.inl m), some (.inl n) => m == n
    | some (.inl m), some (.inr y) => y.toInt? == some m
    | some (.inr x), some (.inl n) => x.toInt? == some n
    | some (.inr x), some (.inr y) => x.sameNumber y
    | _, _ => false
where
  /-- The number of a leaf. -/
  asNumber : Tree → Option (Int ⊕ Binary64)
    | .bool b => some (.inl (if b then 1 else 0))
    | .int n => some (.inl n)
    | .real x => some (.inr x)
    | _ => none

/-- The text of a leaf, as it is shown to readers of messages and used as a key. -/
def display : Tree → String
  | .null => "None"
  | .bool b => if b then "True" else "False"
  | .int n => toString n
  | .real x => x.text
  | .str s => s
  | .list _ => "[]"
  | .obj _ _ => "\x7b\x7d"

end Tree

end Deminify
