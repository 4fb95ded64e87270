import Std.Data.TreeMap
import Deminify.Grammar.Program
import Deminify.Text.Position
import Deminify.Tree.Comments
import Deminify.Tree.Kind

/-!
# Programs

A program text is read as a script or as a module, whichever its look suggests first, and as the
other one if that fails. Every comment then goes to the node it belongs to: to the node in front of
it on its line, or to the outermost node that starts after it.

* `Deminify.Program` – a program that has been read;
* `Deminify.Program.read` – **reads a program**;
* `Deminify.Program.attachComments` – gives the comments to the nodes.
-/

namespace Deminify

/-- A program that has been read. Its records are labelled below `next`. -/
structure Program where
  tree : Tree
  source : String
  isModule : Bool
  comments : List Comment
  next : Nat

namespace Program

/-! ### Comments -/

/-- A comment as plain data. -/
def commentTree (c : Comment) : Tree :=
  .obj 0 [("type", .str (if c.block then "Block" else "Line")), ("value", .str c.value),
    ("range", .list [.int c.start, .int c.stop])]

/-- A node that can take comments: its place, its label, the place of its parent unless that is the
program, and whether it is a line of its own in the parent. -/
structure Candidate where
  start : Nat
  stop : Nat
  label : Nat
  parent : Option (Option (Nat × Nat))
  inList : Bool

/-- The place of a node in the text. -/
def placeOf? (t : Tree) : Option (Nat × Nat) :=
  match t.get "range" with
  | .list [.int start, .int stop] => some (start.toNat, stop.toNat)
  | _ => none

/-- The kinds whose items may have a comment behind them on their line. -/
def holdsLines (kind : String) : Bool :=
  ["Program", "BlockStatement", "SwitchCase", "ObjectExpression", "ObjectPattern"].contains kind

mutual

/-- The candidates in a value below a node of the given kind, in front of those found: a node comes
before what is inside it, and what comes last in the text comes first. -/
def candidatesIn (parent : Option (Option (Nat × Nat))) (inList : Bool) (t : Tree)
    (rest : List Candidate) : List Candidate :=
  match t with
  | .obj label fields =>
    let t := Tree.obj label fields
    let place := placeOf? t
    if t.isNode then
      let below := candidatesInFields (some place) (holdsLines t.kind) fields rest
      match place with
      | some (start, stop) => ⟨start, stop, label, parent, inList⟩ :: below
      | none => below
    else rest
  | _ => rest
termination_by structural t

/-- The candidates in the items of a list. -/
def candidatesInItems (parent : Option (Option (Nat × Nat))) (lines : Bool) (items : List Tree)
    (rest : List Candidate) : List Candidate :=
  match items with
  | [] => rest
  | t :: more => candidatesInItems parent lines more (candidatesIn parent lines t rest)
termination_by structural items

/-- The candidates in the value of a field. -/
def candidatesInValue (parent : Option (Option (Nat × Nat))) (lines : Bool) (t : Tree)
    (rest : List Candidate) : List Candidate :=
  match t with
  | .list items => candidatesInItems parent lines items rest
  | .obj label fields =>
    let t := Tree.obj label fields
    let place := placeOf? t
    if t.isNode then
      let below := candidatesInFields (some place) (holdsLines t.kind) fields rest
      match place with
      | some (start, stop) => ⟨start, stop, label, parent, false⟩ :: below
      | none => below
    else rest
  | _ => rest
termination_by structural t

/-- The candidates in the fields of a node. -/
def candidatesInFields (parent : Option (Option (Nat × Nat))) (lines : Bool)
    (fields : List (String × Tree)) (rest : List Candidate) : List Candidate :=
  match fields with
  | [] => rest
  | (key, t) :: more =>
    candidatesInFields parent lines more
      (if Tree.holdsChildren key then candidatesInValue parent lines t rest else rest)
termination_by structural fields

end

/-- The nodes of a program that can take comments. -/
def candidates (t : Tree) : List Candidate :=
  candidatesInFields none (holdsLines t.kind) t.fields []

/-- Whether the parent of a candidate reaches around the comment. -/
def Candidate.encloses (c : Candidate) (comment : Comment) : Bool :=
  match c.parent with
  | none => true
  | some none => false
  | some (some (start, stop)) => start ≤ comment.start && comment.stop ≤ stop

/-- The index of the first of the numbers, which ascend, that is at least `n`, searched for between
two indices. -/
def firstAtLeast (numbers : Array Nat) (n lo hi : Nat) : Nat :=
  if h : lo < hi then
    let mid := (lo + hi) / 2
    if (numbers[mid]?.getD 0) < n then firstAtLeast numbers n (mid + 1) hi
    else firstAtLeast numbers n lo mid
  else lo
termination_by hi - lo
decreasing_by all_goals omega

/-- The candidates sorted by where they start, and by where they end. -/
structure Neighbours where
  byStart : Array Candidate
  byStop : Array Candidate

/-- Sorts the candidates: an outer node comes before an inner one that starts with it, and after an
inner one that ends with it. -/
def Neighbours.of (found : List Candidate) : Neighbours :=
  let byStart := found.mergeSort fun a b => a.start < b.start || (a.start == b.start && b.stop ≤ a.stop)
  let byStop := byStart.mergeSort fun a b => a.stop < b.stop || (a.stop == b.stop && b.start ≤ a.start)
  ⟨byStart.toArray, byStop.toArray⟩

/-- The node that starts next after a comment, if its parent reaches around the comment. -/
def Neighbours.following (n : Neighbours) (comment : Comment) : Option Candidate :=
  let i := firstAtLeast (n.byStart.map (·.start)) comment.stop 0 n.byStart.size
  n.byStart[i]?.filter (·.encloses comment)

/-- The node that ended last before a comment, if its parent reaches around the comment. -/
def Neighbours.preceding (n : Neighbours) (comment : Comment) : Option Candidate :=
  let i := firstAtLeast (n.byStop.map (·.stop)) (comment.start + 1) 0 n.byStop.size
  if i == 0 then none else n.byStop[i - 1]?.filter (·.encloses comment)

/-- The label of the node that takes a comment, and the key under which it does; the program takes
what no node does. -/
def takerOf (source : Source) (root : Nat) (n : Neighbours) (comment : Comment) : Nat × String :=
  let preceding := n.preceding comment
  let sameLine := preceding.any fun c =>
    !(source.chars.extract c.stop comment.start).contains '\n'
  match preceding, n.following comment with
  | some p, following =>
    if !comment.block && sameLine && p.inList then (p.label, "trailingComments")
    else
      match following with
      | some f => (f.label, "leadingComments")
      | none => (p.label, "trailingComments")
  | none, some f => (f.label, "leadingComments")
  | none, none => (root, "trailingComments")

/-- The node with a comment added under a key. -/
def addComment (t : Tree) (key : String) (comment : Comment) : Tree :=
  t.set key (.list ((t.get key).items ++ [commentTree comment]))

/-- Gives each comment to the node that takes it. -/
def attachComments (source : Source) (t : Tree) (comments : List Comment) : Tree :=
  if comments.isEmpty then t
  else
    let n := Neighbours.of (candidates t)
    let taken : Std.TreeMap Nat (List (String × Comment)) := comments.foldl (fun taken c =>
      let (label, key) := takerOf source t.label n c
      taken.insert label ((taken.getD label []) ++ [(key, c)])) {}
    t.mapObjs fun node =>
      (taken.getD node.label []).foldl (fun node (key, c) => addComment node key c) node

/-! ### Reading -/

/-- Whether a line that starts like this belongs to a module. -/
def startsModule (cs : List Char) : Bool :=
  let cs := Text.dropBlanks cs
  if "import".toList.isPrefixOf cs then
    match Text.dropBlanks (cs.drop 6) with
    | c :: _ => Text.isWord c || ['\x7b', '*', '\x27', '"'].contains c
    | [] => false
  else "export".toList.isPrefixOf cs && (cs.drop 6).head?.any Text.isBlank

/-- Whether some line of the text starts like one of a module. -/
def looksLikeModule : List Char → Bool
  | [] => false
  | '\n' :: rest => startsModule rest || looksLikeModule rest
  | _ :: rest => looksLikeModule rest

/-- Reads a program text as what it looks like, and as the other if that fails; the first error
counts. -/
def read (source : String) : Except SyntaxError Program := do
  let src := Source.ofString source
  let cs := source.toList
  let asModule := startsModule cs || looksLikeModule cs
  let finish (isModule : Bool) (result : Tree × List Comment) : Program :=
    let (tree, next) := result.1.renewed.number 1
    let (tree, next) := (attachComments src tree result.2).number next
    ⟨tree, source, isModule, result.2, next⟩
  match Grammar.readProgram src asModule with
  | .ok result => return finish asModule result
  | .error e =>
    if e == SyntaxError.tooDeep then throw e
    else
      match Grammar.readProgram src !asModule with
      | .ok result => return finish (!asModule) result
      | .error other => if other == SyntaxError.tooDeep then throw other else throw e

/-! ### Positions -/

/-- The position of an offset. -/
def position (source : String) (offset : Int) : Position :=
  let before := source.toList.take (Text.offsetIn source.length offset)
  let tail := before.reverse.takeWhile (· != '\n')
  { row := (before.filter (· == '\n')).length
    column := offset - (before.length - tail.length) }

/-- The position at which a node starts, if it was read from a text. -/
def positionOf (source : String) (t : Tree) : Option Position :=
  match t.get "range" with
  | .list (.int start :: _) => some (position source start)
  | _ => none

end Program

end Deminify
