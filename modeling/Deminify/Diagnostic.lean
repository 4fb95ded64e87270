import Deminify.Failure
import Deminify.Text.Position

/-!
# Diagnostics

What a run has to say about a file: messages with a level, the rule they come from and a position,
which a frame of source lines may illustrate.

* `Deminify.Diagnostic`, `Deminify.Diagnostic.shown`;
* `Deminify.lineColumn` – the line and the column of an offset, counted from one;
* `Deminify.codeFrame` – **the lines around a position**, with a caret under it.
-/

namespace Deminify

/-- A message about a file. -/
structure Diagnostic where
  level : String
  message : String
  rule : Option String := none
  line : Option Int := none
  column : Option Int := none
  frame : Option String := none
  deriving Repr, Inhabited

/-- The message with its position, its rule and its level. -/
def Diagnostic.shown (d : Diagnostic) : String :=
  let rule := match d.rule with
    | some rule => if rule.isEmpty then "" else "[" ++ rule ++ "] "
    | none => ""
  SyntaxError.located d.line d.column (rule ++ d.level ++ ": " ++ d.message)

/-- The line and the column of an offset, counted from one. An offset outside the text counts as
its nearest end. -/
def lineColumn (source : String) (offset : Int) : Nat × Nat :=
  let before := source.toList.take offset.toNat
  let line := (before.filter (· == '\n')).length + 1
  (line, (before.reverse.takeWhile (· != '\n')).length + 1)

/-- The text with blanks put in front to make up the width. -/
def padLeft (width : Nat) (text : String) : String :=
  String.ofList (List.replicate (width - text.length) ' ') ++ text

/-- One line of a frame, and the caret below it if it is the line in question. -/
def frameLines (lines : Array String) (line : Int) (column : Option Int) (number : Nat) :
    List String :=
  let isLine := (number : Int) == line
  let head := (if isLine then ">" else " ") ++ " " ++ padLeft 5 (toString number) ++ " | "
  let text := head ++ (lines[number - 1]?).getD ""
  match isLine, column with
  | true, some c =>
    let blanks (n : Nat) : String := String.ofList (List.replicate n ' ')
    [text, blanks (head.length - 2) ++ "| " ++ blanks (c - 1).toNat ++ "^"]
  | _, _ => [text]

/-- The lines around a line, `radius` on either side, with a caret under the column. -/
def codeFrame (source : String) (line : Int) (column : Option Int) (radius : Int) : String :=
  if line < 1 then ""
  else
    let lines := (Text.lines source).toArray
    let first := (max 1 (line - radius)).toNat
    let last := (min (lines.size : Int) (line + radius)).toNat
    let numbers := (List.range (last + 1 - first)).map (first + ·)
    String.intercalate "\n" (numbers.flatMap (frameLines lines line column))

end Deminify
