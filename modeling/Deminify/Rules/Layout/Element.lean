import Deminify.Failure
import Deminify.Rules.Layout.Piece
import Deminify.Text.Word

/-!
# Elements in a text to be laid out

An element with all that it contains is one piece. It starts with the first tag that can be read as
a whole and ends with the tag that closes it; tags of other names are passed over, and **an element
that is never closed reaches to the end of the text**. The value of an attribute may hold braces in
its own braces, but no deeper ones: a tag with such a value is no tag, and what follows it may be
taken for the start.

* `Deminify.Rules.Layout.Tag`, `Deminify.Rules.Layout.nextTag?` – the tags of a text;
* `Deminify.Rules.Layout.elementAt` – **the element at the start of a text**.
-/

namespace Deminify.Rules.Layout

/-- A tag: its name, whether it closes an element, whether it stands for a whole one, and its
length. -/
structure Tag where
  name : List Char
  closing : Bool
  whole : Bool
  length : Nat
  deriving Repr

/-! ### Parts of tags -/

/-- Whether the character may stand in the name of a tag. -/
def isTagLetter (c : Char) : Bool :=
  c.isAlphanum || c == '-' || c == ':' || c == '_' || c == '.'

/-- The number of characters of a text in braces at the start: it is not empty, and the first closing
brace ends it. -/
def plainBraces? : List Char → Option Nat
  | '\x7b' :: rest =>
    let inside := runLength (· != '\x7d') rest
    if inside == 0 || (rest.drop inside).isEmpty then none else some (inside + 2)
  | _ => none

/-- Where the reading of a value in braces stands: directly behind an opening brace, or further, of
the value itself or of the braces in it. -/
inductive ValuePlace where
  | first
  | further
  | innerFirst
  | innerFurther
  deriving DecidableEq

/-- The number of characters of a value in braces behind its opening brace. Neither the value nor the
braces in it are empty. -/
def bracedValue? : ValuePlace → List Char → Option Nat
  | _, [] => none
  | place, c :: rest =>
    let more (place : ValuePlace) : Option Nat := (bracedValue? place rest).map (· + 1)
    match place with
    | .first => if c == '\x7d' then none else more (if c == '\x7b' then .innerFirst else .further)
    | .further =>
      if c == '\x7d' then some 1 else more (if c == '\x7b' then .innerFirst else .further)
    | .innerFirst => if c == '\x7d' then none else more .innerFurther
    | .innerFurther => more (if c == '\x7d' then .further else .innerFurther)

/-- The number of characters of a value in quotes behind its opening mark. -/
def quotedValue? (mark : Char) (cs : List Char) : Option Nat :=
  let inside := runLength (· != mark) cs
  if (cs.drop inside).isEmpty then none else some (inside + 1)

/-- The number of characters of the value of an attribute. -/
def attributeValue? : List Char → Option Nat
  | '\x7b' :: rest => (bracedValue? .first rest).map (· + 1)
  | '"' :: rest => (quotedValue? '"' rest).map (· + 1)
  | '\x27' :: rest => (quotedValue? '\x27' rest).map (· + 1)
  | _ => none

/-- The number of characters of an attribute with a name. -/
def attribute? (cs : List Char) : Option Nat := do
  let name := runLength isTagLetter cs
  if name == 0 then none
  let before := runLength Text.isBlank (cs.drop name)
  if (cs.drop (name + before)).head? == some '=' then
    let start := name + before + 1
    let value := start + runLength Text.isBlank (cs.drop start)
    return value + (← attributeValue? (cs.drop value))
  else return name

/-- Reads attributes up to the end of the tag, as far as `fuel` goes: whether a slash stands before
it, and the number of characters read. -/
def tagEnd? : Nat → List Char → Option (Bool × Nat)
  | 0, _ => none
  | fuel + 1, cs => do
    let blanks := runLength Text.isBlank cs
    let rest := cs.drop blanks
    match rest with
    | '>' :: _ => return (false, blanks + 1)
    | '/' :: after =>
      let gap := runLength Text.isBlank after
      if (after.drop gap).head? == some '>' then return (true, blanks + gap + 2) else none
    | _ =>
      let n ← (plainBraces? rest).or (if blanks == 0 then none else attribute? rest)
      let (whole, length) ← tagEnd? fuel (rest.drop n)
      return (whole, blanks + n + length)

/-- The number of characters of a stretch of plain text at the start, which is written like a tag. -/
def plainText? (cs : List Char) : Option Nat :=
  let start := "![CDATA[".toList
  if start.isPrefixOf cs then
    let inside := runLength (· != ']') (cs.drop start.length)
    if "]]".toList.isPrefixOf (cs.drop (start.length + inside)) then
      some (start.length + inside + 2)
    else none
  else none

/-- The number of characters of the name of a tag; it may be missing. -/
def tagNameLength (cs : List Char) : Nat :=
  let letters := runLength isTagLetter cs
  if letters > 0 then letters else ((plainBraces? cs).or (plainText? cs)).getD 0

/-! ### Tags -/

/-- The tag at the start. -/
def tagAt? : List Char → Option Tag
  | '<' :: cs =>
    let closing := cs.head? == some '/'
    let named := if closing then cs.drop 1 else cs
    let n := tagNameLength named
    let before := if closing then n + 2 else n + 1
    (tagEnd? (cs.length + 1) (named.drop n)).map fun (whole, length) =>
      { name := named.take n, closing, whole := whole || (plainText? named).isSome,
        length := before + length }
  | _ => none

/-- The first tag of a text, and the number of characters before it. -/
def nextTag? : List Char → Option (Nat × Tag)
  | [] => none
  | c :: cs =>
    match tagAt? (c :: cs) with
    | some tag => some (0, tag)
    | none => (nextTag? cs).map fun (n, tag) => (n + 1, tag)

/-! ### Elements -/

/-- Whether a tag is counted when the end of an element is looked for. If the name of the element is
in braces, every tag with a name is. -/
def Tag.counts (tag : Tag) (name : List Char) : Bool :=
  !tag.whole && (tag.name == name || (name.head? == some '\x7b' && !tag.name.isEmpty))

/-- The number of characters of an element of which so many tags are open, as far as `fuel` goes. A
text that ends with a tag while one is open has no end to which the element could reach. -/
def elementLength (name : List Char) : Nat → Nat → List Char → Except Failure Nat
  | 0, _, cs => .ok cs.length
  | fuel + 1, depth, cs =>
    match nextTag? cs with
    | none => if cs.isEmpty then .error (.lacks "NoneType" "group") else .ok cs.length
    | some (before, tag) => do
      let depth :=
        if !tag.counts name then depth else if tag.closing then depth - 1 else depth + 1
      let read := before + tag.length
      if depth == 0 then return read
      else return read + (← elementLength name fuel depth (cs.drop read))

/-- What stands at the start of a text that may start with an element. -/
inductive ElementStart where
  /-- No tag follows. -/
  | none
  /-- The first tag closes an element: what it ends says nothing. -/
  | closed (length : Nat)
  | element (length : Nat)
  deriving Repr

/-- The element at the start of a text. -/
def elementAt (cs : List Char) : Except Failure ElementStart := do
  match nextTag? cs with
  | none => return .none
  | some (before, tag) =>
    if tag.closing then return .closed (before + tag.length)
    else return .element (← elementLength tag.name (cs.length + 1) 0 cs)

end Deminify.Rules.Layout
