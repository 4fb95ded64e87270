import Deminify.Text.Position
import Deminify.Text.Shown
import Deminify.Token.Source
import Deminify.Tree.Kind

/-!
# Printing: layout, comments and precedence

A node is printed in a role: as a statement, as an expression that must bind at least so tightly,
or as a pattern. The layout that surrounds it is its indentation, whether a bare `in` would be
misread, and the text it was read from, which tells where blank lines were.

* `Deminify.Printing` – printing under a layout, which fails on a node it does not know;
* `Deminify.Role`, `Deminify.Roles` – the roles, and a printer for each;
* `Deminify.Tree.precedence`, `Deminify.Tree.leftmost` – what parentheses depend on.
-/

namespace Deminify

/-- What surrounds the node being printed. -/
structure Layout where
  indent : Nat
  noIn : Bool
  source : Option Source

/-- Printing under a layout. -/
abbrev Printing := ReaderT Layout (Except Failure)

/-- The roles in which a node is printed. -/
inductive Role where
  | statement
  | expression (least : Nat)
  | pattern

/-- A printer for each role. -/
abbrev Roles := Role → Tree → Printing String

namespace Printer

/-! ### Layout -/

/-- The indentation of a line that is so many levels further in. -/
def padBy (extra : Nat) : Printing String :=
  return String.ofList (List.replicate (2 * ((← read).indent + extra)) ' ')

/-- The indentation of a line. -/
def pad : Printing String := padBy 0

/-- Prints one level further in. -/
def deeper {α : Type} (act : Printing α) : Printing α :=
  withReader (fun l => { l with indent := l.indent + 1 }) act

/-- Prints where a bare `in` would be misread, or would not. -/
def withNoIn {α : Type} (noIn : Bool) (act : Printing α) : Printing α :=
  withReader (fun l => { l with noIn }) act

/-- A text between parentheses. -/
def parenthesized (text : String) : String := "(" ++ text ++ ")"

/-- Texts with commas between them. -/
def commas (texts : List String) : String := String.intercalate ", " texts

/-- Lines between braces, the closing one on a line of its own. -/
def braced (lines : List String) : Printing String :=
  return "\x7b\n" ++ String.intercalate "\n" lines ++ "\n" ++ (← pad) ++ "\x7d"

/-- Whether a text contains a character. -/
def hasChar (text : String) (c : Char) : Bool := text.toList.contains c

/-! ### Comments -/

/-- The comments of a node under a key. -/
def commentsOf (t : Tree) (key : String) : List Tree := (t.get key).items

/-- Whether a comment runs to the end of its line. -/
def isLineComment (comment : Tree) : Printing Bool := do
  return (← comment.textField "type") == "Line"

/-- The comments in front of a node. Those of a statement stand on lines of their own. -/
def leadingComments (t : Tree) (statement : Bool) : Printing String := do
  let indent ← pad
  let texts ← (commentsOf t "leadingComments").mapM fun c => do
    let isLine ← isLineComment c
    let value ← c.textField "value"
    return if isLine then "//" ++ value ++ "\n" ++ indent
      else if statement then "/*" ++ value ++ "*/\n" ++ indent
      else "/*" ++ value ++ "*/ "
  return String.join texts

/-- The comments behind a node. Behind an expression a comment to the end of the line needs a new
line. -/
def trailingComments (t : Tree) (statement : Bool) : Printing String := do
  let indent ← pad
  let texts ← (commentsOf t "trailingComments").mapM fun c => do
    let isLine ← isLineComment c
    let value ← c.textField "value"
    return if isLine then " //" ++ value ++ (if statement then "" else "\n" ++ indent)
      else " /*" ++ value ++ "*/"
  return String.join texts

/-! ### Blank lines -/

/-- The place of a node or a comment in the text it was read from. What is behind the two offsets
says nothing. -/
def rangeOf? (t : Tree) : Option (Int × Int) :=
  match t.get "range" with
  | .list (.int start :: .int stop :: _) => some (start, stop)
  | _ => none

/-- The number of line ends between two offsets. -/
def lineEnds (source : Source) (start stop : Int) : Nat :=
  let place := Text.offsetIn source.chars.size
  ((source.chars.extract (place start) (place stop)).toList.filter (· == '\n')).length

/-- Whether a blank line stood between two statements, comments aside. -/
def blankBetween (previous current : Tree) : Printing Bool := do
  match (← read).source, rangeOf? previous, rangeOf? current with
  | some source, some (_, stop), some (start, _) =>
    let leading := (commentsOf current "leadingComments").filterMap rangeOf?
    let start := leading.foldl (fun s r => min s r.1) start
    let trailing := (commentsOf previous "trailingComments").filterMap rangeOf?
    let stop := trailing.foldl (fun e r => if r.2 ≤ start then max e r.2 else e) stop
    return stop ≤ start && 2 ≤ lineEnds source stop start
  | _, _, _ => return false

end Printer

/-! ### Precedence -/

namespace Tree

/-- How tightly an operator between two operands binds. -/
def operatorPrecedence? (operator : String) : Option Nat :=
  match operator with
  | "??" => some 5
  | "||" => some 6
  | "&&" => some 7
  | "|" => some 8
  | "^" => some 9
  | "&" => some 10
  | "==" | "!=" | "===" | "!==" => some 11
  | "<" | ">" | "<=" | ">=" | "instanceof" | "in" => some 12
  | "<<" | ">>" | ">>>" => some 13
  | "+" | "-" => some 14
  | "*" | "/" | "%" => some 15
  | "**" => some 16
  | _ => none

/-- How tightly the nodes of a kind bind, when it is the same for all. -/
def kindPrecedence (kind : String) : Nat :=
  match kind with
  | "SequenceExpression" => 1
  | "YieldExpression" => 2
  | "AssignmentExpression" | "ArrowFunctionExpression" => 3
  | "ConditionalExpression" => 4
  | "UnaryExpression" | "AwaitExpression" => 17
  | "UpdateExpression" => 18
  | "CallExpression" | "MemberExpression" | "NewExpression" | "TaggedTemplateExpression" => 19
  | _ => 20

section Failing

variable {m : Type → Type} [Monad m] [MonadExceptOf Failure m]

/-- How tightly the operator of a node binds. -/
def operatorLevel (t : Tree) : m Nat := do
  let operator ← t.textField "operator"
  match operatorPrecedence? operator with
  | some level => pure level
  | none => throw (Failure.missing operator)

/-- How tightly a node binds. -/
def precedence (t : Tree) : m Nat := do
  let kind ← t.kindOf
  if kind == "BinaryExpression" || kind == "LogicalExpression" then t.operatorLevel
  else pure (kindPrecedence kind)

/-- The part with which the text of an expression starts, if some part does. -/
def leading? (t : Tree) : m (Option Tree) := do
  match ← t.kindOf with
  | "CallExpression" => some <$> t.field "callee"
  | "TaggedTemplateExpression" => some <$> t.field "tag"
  | "MemberExpression" => some <$> t.field "object"
  | "BinaryExpression" | "LogicalExpression" | "AssignmentExpression" => some <$> t.field "left"
  | "ConditionalExpression" => some <$> t.field "test"
  | "SequenceExpression" =>
    match (← t.listField "expressions") with
    | first :: _ => pure (some first)
    | [] => throw (Failure.outOfRange "list index")
  | "UpdateExpression" =>
    if (← t.field "prefix").truthy then pure none else some <$> t.field "argument"
  | _ => pure none

/-- The node whose text an expression starts with, `fuel` steps down at most: a part that gets
parentheses does not count. -/
def leftmostWithin (fuel : Nat) (t : Tree) : m Tree := do
  match fuel with
  | 0 => pure t
  | fuel + 1 =>
    match ← t.leading? with
    | none => pure t
    | some child =>
      let inner ← child.precedence
      let outer ← t.precedence
      if inner < outer then pure t
      else
        let kind ← t.kindOf
        if kind == "CallExpression" && (← child.kindOf) == "SequenceExpression" then pure t
        else child.leftmostWithin fuel

/-- The node whose text an expression starts with. -/
def leftmost (t : Tree) : m Tree := t.leftmostWithin t.height

/-- Whether an expression, as a statement, would be read as something else. -/
def startsAmbiguously (t : Tree) : m Bool := do
  let kind ← (← t.leftmost).kindOf
  pure (["ObjectExpression", "ObjectPattern", "FunctionExpression", "ClassExpression"].contains kind)

end Failing

end Tree

end Deminify
