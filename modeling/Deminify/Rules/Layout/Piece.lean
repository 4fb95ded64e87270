import Deminify.Text.Letter
import Deminify.Text.Word
import Deminify.Token.Source

/-!
# The pieces of a text to be laid out

A text is laid out piece by piece, and it need not be a program: whatever it holds is cut into
pieces, none is refused. A quoted text, a template, a regular expression and an element with all that
it contains are one piece each. Blanks between pieces are not pieces; each piece knows how many
lines ended before it, and which comments stood there.

* `Deminify.Rules.Layout.Piece` – a piece, and `Deminify.Rules.Layout.Item` – a piece with the
  comments before it;
* `Deminify.Rules.Layout.keywords`, `Deminify.Rules.Layout.operators` – the words and the marks;
* `Deminify.Rules.Layout.wordLength`, `Deminify.Rules.Layout.numberLength` – words and numbers.
-/

namespace Deminify.Rules.Layout

/-- What a piece is. -/
inductive PieceKind where
  | start
  | openBracket
  | closeBracket
  | openBrace
  | closeBrace
  | word
  | keyword
  | semicolon
  | text
  | equals
  | operator
  | comma
  | dot
  | lineComment
  | blockComment
  | other
  | stop
  deriving DecidableEq, Repr, Inhabited

/-- A piece: its text, the number of line ends before it, the blanks between the last of them and the
piece, and the orders that a comment gives. -/
structure Piece where
  kind : PieceKind := .start
  text : String := ""
  newlines : Nat := 0
  blanks : String := ""
  orders : List (String × String) := []
  deriving DecidableEq, Repr, Inhabited

/-- A piece with the comments before it. -/
structure Item extends Piece where
  comments : List Piece := []
  deriving Inhabited

/-- Whether a piece is a keyword among these. -/
def Piece.isOneOf (p : Piece) (words : List String) : Bool :=
  p.kind == .keyword && words.contains p.text

/-! ### Words -/

/-- The keywords that start a line. -/
def lineStarters : List String := [
  "continue", "try", "throw", "return", "var", "let", "const", "if", "switch", "case", "default",
  "for", "while", "break", "function", "import", "export"]

/-- The keywords. -/
def keywords : List String := lineStarters ++ [
  "do", "in", "of", "else", "get", "set", "new", "catch", "finally", "typeof", "yield", "async",
  "await", "from", "as", "class", "extends"]

/-- The operators, the longer ones first. -/
def operators : List String := [
  ">>>=", "...", ">>=", "<<=", "===", ">>>", "!==", "**=", "&&=", "??=", "||=", "=>", "^=", "::",
  "/=", "<<", "<=", "==", "&&", "-=", ">=", ">>", "!=", "--", "+=", "**", "||", "??", "++", "%=",
  "&=", "*=", "|=", "|>", "=", "!", "?", ">", "<", ":", "/", "^", "-", "+", "*", "&", "%", "~", "|"]

/-- The operators behind which a line may end. -/
def breakingOperators : List String := [
  ">>>", "===", "!==", "&&=", "??=", "||=", "<<", "&&", ">=", "**", "!=", "==", "<=", ">>", "||",
  "??", "|>", "<", "/", "-", "+", ">", ":", "&", "%", "?", "^", "|", "*"]

/-- Whether a letter beyond the basic ones is known here. -/
def isKnownLetter (c : Char) : Bool := 128 ≤ c.toNat && c.toNat < 65536

/-- Whether a word may start with the character. -/
def startsWord (c : Char) : Bool :=
  c == '#' || c == '@' || c == '$' || c == '_' || c.isAlpha ||
    (isKnownLetter c && Text.isIdentifierStart c)

/-- Whether a word may go on with the character. -/
def continuesWord (c : Char) : Bool :=
  c == '$' || c == '_' || c.isAlphanum || (isKnownLetter c && Text.isIdentifierPart c)

/-- The number of characters of the run at the start in which each is in the class. -/
def runLength (p : Char → Bool) (cs : List Char) : Nat := (cs.takeWhile p).length

/-- The number of characters of the escaped letter at the start. -/
def escapeLength : List Char → Nat
  | '\\' :: 'u' :: '\x7b' :: rest =>
    let digits := runLength Token.isHexDigit rest
    if 0 < digits && (rest.drop digits).head? == some '\x7d' then digits + 4 else 0
  | '\\' :: 'u' :: rest =>
    if (rest.take 4).length == 4 && (rest.take 4).all Token.isHexDigit then 6 else 0
  | _ => 0

/-- The number of characters with which a word goes on, as far as `fuel` goes. -/
def wordTailLength : Nat → List Char → Nat
  | 0, _ => 0
  | _ + 1, [] => 0
  | fuel + 1, c :: cs =>
    let step := if continuesWord c then 1 else escapeLength (c :: cs)
    if step == 0 then 0 else step + wordTailLength fuel ((c :: cs).drop step)

/-- The number of characters of the word at the start. -/
def wordLength : List Char → Nat
  | [] => 0
  | c :: cs =>
    let first := if startsWord c then 1 else escapeLength (c :: cs)
    if first == 0 then 0 else first + wordTailLength cs.length ((c :: cs).drop first)

/-- The number of characters of the exponent at the start. -/
def exponentLength : List Char → Nat
  | e :: rest =>
    if e == 'e' || e == 'E' then
      let sign := match rest with
        | c :: _ => if c == '+' || c == '-' then 1 else 0
        | [] => 0
      let digits := runLength (fun c => Text.isDecimal c || c == '_') (rest.drop sign)
      if digits == 0 then 0 else 1 + sign + digits
    else 0
  | [] => 0

/-- The number of characters of the number at the start. -/
def numberLength (cs : List Char) : Nat :=
  let digits (cs : List Char) : Nat := runLength (fun c => Text.isDecimal c || c == '_') cs
  let suffixed (n : Nat) : Nat := if (cs.drop n).head? == some 'n' then n + 1 else n
  match cs with
  | '0' :: 'x' :: rest | '0' :: 'X' :: rest =>
    suffixed (2 + runLength (fun c => Token.isHexDigit c || c == '_') rest)
  | '0' :: 'o' :: rest | '0' :: 'O' :: rest =>
    suffixed (2 + runLength (fun c => Token.isOctalDigit c || c == '_') rest)
  | '0' :: 'b' :: rest | '0' :: 'B' :: rest =>
    suffixed (2 + runLength (fun c => c == '0' || c == '1' || c == '_') rest)
  | '.' :: c :: rest =>
    if Text.isDecimal c then
      let n := 2 + digits rest
      n + exponentLength (cs.drop n)
    else 0
  | c :: _ =>
    if !Text.isDecimal c then 0
    else
      let n := digits cs
      if (cs.drop n).head? == some 'n' then n + 1
      else
        let n := if (cs.drop n).head? == some '.' then n + 1 + digits (cs.drop (n + 1)) else n
        n + exponentLength (cs.drop n)
  | [] => 0

end Deminify.Rules.Layout
