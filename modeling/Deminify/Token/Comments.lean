import Deminify.Token.Basic

/-!
# Blanks and comments between tokens

* `Deminify.Comment` – a comment with its place;
* `Deminify.Token.skipGaps` – **moves the cursor to the next token** and returns the comments on the
  way. In a script the marks `<!--` and, at the start of a line, `-->` open a comment too.
-/

namespace Deminify

/-- A comment: its text without the marks, and its place with them. -/
structure Comment where
  block : Bool
  value : String
  start : Nat
  stop : Nat
  deriving DecidableEq, Repr, Inhabited

namespace Token

/-- Reads a comment up to the end of its line, after a mark of the given length. -/
def lineComment (src : Source) (mark : Nat) : Scan Comment := do
  let c ← get
  let start := c.index
  let stop := src.skipWhile (!isLineEnd ·) (start + mark)
  if stop < src.size then set (c.newLine (afterLineEnd src stop)) else set { c with index := stop }
  return ⟨false, src.slice (start + mark) stop, start, stop⟩

/-- Reads a comment up to its closing mark, counting the lines it spans. -/
def blockComment (src : Source) (start : Nat) : Nat → Scan Comment
  | 0 => Scan.illegal
  | fuel + 1 => do
    let c ← get
    if src.size ≤ c.index then Scan.illegal
    else if isLineEnd (src.get c.index) then
      set (c.newLine (afterLineEnd src c.index))
      blockComment src start fuel
    else if src.get c.index == '*' && src.get (c.index + 1) == '/' then
      Scan.moveTo (c.index + 2)
      return ⟨true, src.slice (start + 2) c.index, start, c.index + 2⟩
    else
      Scan.moveTo (c.index + 1)
      blockComment src start fuel

/-- What stands at the cursor between two tokens. -/
inductive Gap where
  | blank
  | lineEnd
  | line (mark : Nat)
  | block
  | none

/-- The gap at an offset. At the start of a line a dashed arrow opens a comment. -/
def gapAt (src : Source) (script lineStart : Bool) (i : Nat) : Gap :=
  let c := src.get i
  if src.size ≤ i then .none
  else if isGap c then .blank
  else if isLineEnd c then .lineEnd
  else if c == '/' then
    if src.get (i + 1) == '/' then .line 2
    else if src.get (i + 1) == '*' then .block
    else .none
  else if lineStart && src.startsWith i "-->" then .line 3
  else if script && src.startsWith i "<!--" then .line 4
  else .none

/-- Skips gaps, `fuel` of them, collecting comments with the last one first. -/
def skipGapsFrom (src : Source) (script : Bool) : Nat → Bool → List Comment → Scan (List Comment)
  | 0, _, found => return found.reverse
  | fuel + 1, lineStart, found => do
    let c ← get
    match gapAt src script lineStart c.index with
    | .none => return found.reverse
    | .blank =>
      Scan.moveTo (c.index + 1)
      skipGapsFrom src script fuel lineStart found
    | .lineEnd =>
      set (c.newLine (afterLineEnd src c.index))
      skipGapsFrom src script fuel true found
    | .line mark =>
      let comment ← lineComment src mark
      -- a mark `<!--` does not make what follows its line the start of one
      skipGapsFrom src script fuel (lineStart || mark != 4) (comment :: found)
    | .block =>
      Scan.moveTo (c.index + 2)
      let comment ← blockComment src c.index (src.size + 1)
      skipGapsFrom src script fuel lineStart (comment :: found)

/-- **Moves the cursor to the next token** and returns the comments on the way. -/
def skipGaps (src : Source) (script : Bool) : Scan (List Comment) := do
  skipGapsFrom src script (src.size + 1) ((← get).index == 0) []

end Token

end Deminify
