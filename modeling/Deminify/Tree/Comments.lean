import Deminify.Text.Word
import Deminify.Tree.Walk

/-!
# Comments of nodes

A node carries the comments in front of it and those behind it. When a statement goes, its comments
move on to a neighbour.

* `Deminify.Tree.comments`, `Deminify.Tree.withoutComments`, `Deminify.Tree.prependComments`;
* `Deminify.Tree.withoutPureMarks` – without the marks that say a call has no effect;
* `Deminify.removeStatement` – **a list of statements without one of them**, its comments kept;
* `Deminify.removeStatementAt` – the same for an index that may count from the end.
-/

namespace Deminify

namespace Tree

/-- The comments in front of a node. -/
def leadingComments (t : Tree) : List Tree := (t.get "leadingComments").items

/-- The comments behind a node. -/
def trailingComments (t : Tree) : List Tree := (t.get "trailingComments").items

/-- All comments of a node. -/
def comments (t : Tree) : List Tree := t.leadingComments ++ t.trailingComments

/-- The node without its comments. -/
def withoutComments (t : Tree) : Tree := (t.drop "leadingComments").drop "trailingComments"

/-- The node with comments put in front of those it has. -/
def prependComments (t : Tree) (comments : List Tree) : Tree :=
  if comments.isEmpty then t else t.set "leadingComments" (.list (comments ++ t.leadingComments))

/-- The node with comments put behind those it has. -/
def appendComments (t : Tree) (comments : List Tree) : Tree :=
  if comments.isEmpty then t else t.set "trailingComments" (.list (t.trailingComments ++ comments))

/-- The node with the comments of another under a key, if that has any there. -/
def withCommentsAt (t other : Tree) (key : String) : Tree :=
  if (other.get key).truthy then t.set key (other.get key) else t

/-- The node with the comments of another, which it replaces. -/
def withCommentsOf (t other : Tree) : Tree :=
  (t.withCommentsAt other "leadingComments").withCommentsAt other "trailingComments"

/-- Whether a comment only says that a call has no effect. -/
def isPureMark (comment : Tree) : Bool :=
  match comment.get? "value" with
  | some (.str value) =>
    match Text.dropBlanks value.toList with
    | c :: rest =>
      (c == '#' || c == '@') && "__PURE__".toList.isPrefixOf rest
        && (rest.drop 8).all Text.isBlank
    | [] => false
  | _ => false

/-- The node without such marks under a key. -/
def withoutPureMarksAt (t : Tree) (key : String) : Tree :=
  let comments := (t.get key).items
  if comments.isEmpty then t
  else
    let kept := comments.filter (!isPureMark ·)
    if kept.isEmpty then t.drop key else t.set key (.list kept)

/-- The node without the marks that say a call has no effect. -/
def withoutPureMarks (t : Tree) : Tree :=
  (t.withoutPureMarksAt "leadingComments").withoutPureMarksAt "trailingComments"

end Tree

/-- The list with the item at an index changed. -/
def changeAt {α : Type} (f : α → α) : Nat → List α → List α
  | _, [] => []
  | 0, a :: rest => f a :: rest
  | i + 1, a :: rest => a :: changeAt f i rest

/-- **The statements without the one at an index**, whose comments go in front of the statement
after it, or behind the one before it if it was the last. -/
def removeStatement (body : List Tree) (index : Nat) : List Tree :=
  match body[index]? with
  | none => body
  | some removed =>
    let kept := body.eraseIdx index
    if index < kept.length then changeAt (·.prependComments removed.comments) index kept
    else if 0 < index then changeAt (·.appendComments removed.comments) (index - 1) kept
    else kept

/-- The position that an index stands for, one below zero counting from the end. -/
def positionIn (length : Nat) (index : Int) : Option Nat :=
  let position := if index < 0 then index + length else index
  if 0 ≤ position && position < length then some position.toNat else none

/-- A statement taken out of a list: what is left, and why its comments found no neighbour. -/
structure Removal where
  removed : Tree
  rest : List Tree
  lost : Option Failure := none

/-- The statement at an index, taken out. An index below zero counts from the end, also when the
neighbour for the comments is looked for: there may then be none, and the comments are lost. -/
def removeStatementAt (body : List Tree) (index : Int) : Except Failure Removal :=
  if body.isEmpty then .error .emptyList
  else
    match positionIn body.length index with
    | none => .error (.outOfRange "pop index")
    | some position =>
      let removed := (body[position]?).getD .null
      let kept := body.eraseIdx position
      if 0 ≤ index then .ok ⟨removed, removeStatement body position, none⟩
      else if removed.comments.isEmpty then .ok ⟨removed, kept, none⟩
      else
        match positionIn kept.length index with
        | some neighbour =>
          .ok ⟨removed, changeAt (·.prependComments removed.comments) neighbour kept, none⟩
        | none => .ok ⟨removed, kept, some (.outOfRange "list index")⟩

end Deminify
