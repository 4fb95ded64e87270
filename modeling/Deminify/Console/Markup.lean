import Deminify.Console.Emoji.Names
import Deminify.Failure
import Deminify.Text.Case
import Deminify.Text.Numeral
import Deminify.Text.Word

/-!
# Markup

Messages are written in a markup: a word between square brackets opens a style, the same word behind
a slash closes it, and a slash alone closes the style that was opened last. A backslash before a
bracket keeps it, and two of them stand for one. **A page without styles shows the text only**, so
that a file name with such a word in it loses it; a tag that closes what is not open is a failure.

A name between colons stands for a picture, in any case; `-text` or `-emoji` behind the name asks for
one of its two forms. What names no picture stays as it is.

* `Deminify.Console.Emoji.picture?` – the picture of a name;
* `Deminify.Console.Emoji.depicted` – **a text with its pictures**;
* `Deminify.Console.Piece`, `Deminify.Console.pieces` – the texts and tags of a message;
* `Deminify.Console.unstyled` – **a message without its tags**;
* `Deminify.Console.styled` – a text in a style.
-/

namespace Deminify.Console

/-!
## Styles

A style is named by words: attributes, also switched off by `not` before them, a colour, another one
behind `on` for the ground, and an address behind `link`. **Styles that look alike have one name**,
so that a tag may be closed by another name of its style.

* `Deminify.Console.Style`, `Deminify.Console.Style.read?` – the style that words name;
* `Deminify.Console.styleName` – the one name of a style.
-/

/-- The attributes in the order of names, each with the words for it. -/
def traitWords : List (String × List String) := [
  ("bold", ["bold", "b"]), ("dim", ["dim", "d"]), ("italic", ["italic", "i"]),
  ("underline", ["underline", "u"]), ("blink", ["blink"]), ("blink2", ["blink2"]),
  ("reverse", ["reverse", "r"]), ("conceal", ["conceal", "c"]), ("strike", ["strike", "s"]),
  ("underline2", ["underline2", "uu"]), ("frame", ["frame"]), ("encircle", ["encircle"]),
  ("overline", ["overline", "o"])]

/-- The attribute that a word is for. -/
def trait? (word : String) : Option String :=
  (traitWords.find? fun (_, words) => words.contains word).map (·.1)

/-- The colours that have a name, parted by blanks and the ends of lines. -/
def colourNames : String := "
default black red green yellow blue magenta cyan white bright_black bright_red bright_green
bright_yellow bright_blue bright_magenta bright_cyan bright_white grey0 gray0 navy_blue dark_blue
blue3 blue1 dark_green deep_sky_blue4 dodger_blue3 dodger_blue2 green4 spring_green4 turquoise4
deep_sky_blue3 dodger_blue1 green3 spring_green3 dark_cyan light_sea_green deep_sky_blue2
deep_sky_blue1 spring_green2 cyan3 dark_turquoise turquoise2 green1 spring_green1
medium_spring_green cyan2 cyan1 dark_red deep_pink4 purple4 purple3 blue_violet orange4 grey37
gray37 medium_purple4 slate_blue3 royal_blue1 chartreuse4 dark_sea_green4 pale_turquoise4
steel_blue steel_blue3 cornflower_blue chartreuse3 cadet_blue sky_blue3 steel_blue1 pale_green3
sea_green3 aquamarine3 medium_turquoise chartreuse2 sea_green2 sea_green1 aquamarine1
dark_slate_gray2 dark_magenta dark_violet purple light_pink4 plum4 medium_purple3 slate_blue1
yellow4 wheat4 grey53 gray53 light_slate_grey light_slate_gray medium_purple light_slate_blue
dark_olive_green3 dark_sea_green light_sky_blue3 sky_blue2 dark_sea_green3 dark_slate_gray3
sky_blue1 chartreuse1 light_green pale_green1 dark_slate_gray1 red3 medium_violet_red magenta3
dark_orange3 indian_red hot_pink3 medium_orchid3 medium_orchid medium_purple2 dark_goldenrod
light_salmon3 rosy_brown grey63 gray63 medium_purple1 gold3 dark_khaki navajo_white3 grey69 gray69
light_steel_blue3 light_steel_blue yellow3 dark_sea_green2 light_cyan3 light_sky_blue1
green_yellow dark_olive_green2 dark_sea_green1 pale_turquoise1 deep_pink3 magenta2 hot_pink2
orchid medium_orchid1 orange3 light_pink3 pink3 plum3 violet light_goldenrod3 tan misty_rose3
thistle3 plum2 khaki3 light_goldenrod2 light_yellow3 grey84 gray84 light_steel_blue1 yellow2
dark_olive_green1 honeydew2 light_cyan1 red1 deep_pink2 deep_pink1 magenta1 orange_red1
indian_red1 hot_pink dark_orange salmon1 light_coral pale_violet_red1 orchid2 orchid1 orange1
sandy_brown light_salmon1 light_pink1 pink1 plum1 gold1 navajo_white1 misty_rose1 thistle1 yellow1
light_goldenrod1 khaki1 wheat1 cornsilk1 grey100 gray100 grey3 gray3 grey7 gray7 grey11 gray11
grey15 gray15 grey19 gray19 grey23 gray23 grey27 gray27 grey30 gray30 grey35 gray35 grey39 gray39
grey42 gray42 grey46 gray46 grey50 gray50 grey54 gray54 grey58 gray58 grey62 gray62 grey66 gray66
grey70 gray70 grey74 gray74 grey78 gray78 grey82 gray82 grey85 gray85 grey89 gray89 grey93 gray93"

/-- What stands between a start and a closing bracket at the end. -/
def inBrackets? (start word : String) : Option String :=
  if word.startsWith start && word.endsWith ")" && start.length < word.length then
    some (String.ofList ((word.toList.drop start.length).dropLast))
  else none

/-- Whether a word is a colour by its six hexadecimal digits. -/
def isHexColour (word : String) : Bool :=
  let digits := word.toList.drop 1
  word.startsWith "#" && digits.length == 6 &&
    digits.all fun c => c.isDigit || ('a' ≤ c && c ≤ 'f')

/-- Whether a word is a colour by its number. -/
def isNumberedColour (word : String) : Bool :=
  (inBrackets? "color(" word).any fun s =>
    s.toList.all Char.isDigit && 1 ≤ s.length && s.length ≤ 3 && (Text.integer? s).any (· ≤ 255)

/-- Whether a word is a colour by its three parts. -/
def isMixedColour (word : String) : Bool :=
  (inBrackets? "rgb(" word).any fun s =>
    let parts := s.splitOn ","
    parts.length == 3 && parts.all fun part =>
      part.toList.all Text.isDecimal && (Text.integer? part).any (· ≤ 255)

/-- The words of a text, which blanks part. -/
def wordsOf (text : String) : List String :=
  ((text.toList.splitOnP Text.isBlank).filter (!·.isEmpty)).map String.ofList

/-- The name of a colour, which a word gives in any case. -/
def colour? (word : String) : Option String :=
  let word := Text.lower word
  if (wordsOf colourNames).contains word || isHexColour word || isNumberedColour word
      || isMixedColour word then
    some word
  else none

/-- A style. -/
structure Style where
  traits : List (String × Bool) := []
  colour : Option String := none
  ground : Option String := none
  link : Option String := none
  deriving Repr

namespace Style

/-- The style that words name, after those read already. None if a word names nothing. -/
def readWords? (style : Style) : List String → Option Style
  | [] => some style
  | word :: rest =>
    match Text.lower word, rest with
    | "on", [] | "not", [] | "link", [] => none
    | "on", ground :: rest => do
      readWords? { style with ground := some (← colour? ground) } rest
    | "not", word :: rest => do
      let trait ← trait? word
      readWords? { style with traits := (trait, false) :: style.traits } rest
    | "link", link :: rest => readWords? { style with link := some link } rest
    | lower, rest =>
      match trait? lower with
      | some trait =>
        readWords? { style with traits := (trait, true) :: style.traits } rest
      | none => do readWords? { style with colour := some (← colour? lower) } rest

/-- The style that a text names. -/
def read? (text : String) : Option Style :=
  if Text.strip text == "none" then some {} else readWords? {} (wordsOf text)

/-- The one name of a style. -/
def name (style : Style) : String :=
  let traits := traitWords.filterMap fun (trait, _) =>
    (style.traits.lookup trait).map fun on => if on then trait else "not " ++ trait
  let words := traits ++ style.colour.toList ++
    (style.ground.map fun ground => "on " ++ ground).toList ++
    (style.link.map fun link => "link " ++ link).toList
  if words.isEmpty then "none" else String.intercalate " " words

end Style

/-- The one name of the style that a text names; the text in small letters if it names none. -/
def styleName (text : String) : String :=
  match Style.read? text with
  | some style => style.name
  | none => Text.lower (Text.strip text)

end Deminify.Console

namespace Deminify.Console.Emoji

/-- The entries of the table. -/
def entries : List (List String) :=
  (names.splitOn "\n").flatMap fun line => (line.splitOn ";").map (·.splitOn " ")

/-- The picture of a name in the table. -/
def listed? (name : String) : Option String :=
  entries.findSome? fun entry =>
    match entry with
    | known :: picture :: _ => if known == name then some picture else none
    | _ => none

/-- The tones that pictures come in: how the names with them end, and the marks that choose them. -/
def tones : List (String × Char) := [("_light_skin_tone", '🏻'), ("_medium-light_skin_tone", '🏼'),
  ("_medium_skin_tone", '🏽'), ("_medium-dark_skin_tone", '🏾'), ("_dark_skin_tone", '🏿')]

/-- A picture with a tone. The mark comes behind the first character, where another form may be chosen. -/
def toned (tone : Char) : List Char → List Char
  | c :: '\ufe0f' :: rest => c :: tone :: rest
  | c :: rest => c :: tone :: rest
  | [] => []

/-- The picture of a name that ends with a tone, if there are pictures with tones for what is before that. -/
def tonedPicture? (name : String) : Option String :=
  tones.findSome? fun (suffix, tone) =>
    if !name.endsWith suffix then none
    else
      entries.findSome? fun entry =>
        match entry with
        | [known, picture, _] =>
          if known ++ suffix == name then some (String.ofList (toned tone picture.toList)) else none
        | _ => none

/-- The picture of a name. -/
def picture? (name : String) : Option String := listed? name <|> tonedPicture? name

/-- The forms of a picture: how they are asked for, and the mark that chooses them. -/
def forms : List (String × Char) := [("-emoji", '\ufe0f'), ("-text", '\ufe0e')]

/-- What stands between two colons: a name, and the mark of a form if one is asked for. -/
def nameAndForm (inside : List Char) : String × List Char :=
  let text := String.ofList inside
  match forms.find? fun (asked, _) => text.endsWith asked with
  | some (asked, mark) => (String.ofList (inside.take (inside.length - asked.length)), [mark])
  | none => (text, [])

/-- What is shown for that which stands between two colons. -/
def shown (inside : List Char) : List Char :=
  let (name, mark) := nameAndForm inside
  match picture? (Text.lower name) with
  | some picture => picture.toList ++ mark
  | none => ':' :: inside ++ [':']

/-- The characters with their pictures, as far as `fuel` goes. -/
def depictedFrom : Nat → List Char → List Char
  | 0, cs => cs
  | _, [] => []
  | fuel + 1, ':' :: rest =>
    let inside := rest.takeWhile fun c => c != ':' && !Text.isBlank c
    match rest.drop inside.length with
    | ':' :: after => shown inside ++ depictedFrom fuel after
    | _ => ':' :: depictedFrom fuel rest
  | fuel + 1, c :: rest => c :: depictedFrom fuel rest

/-- The characters with their pictures. -/
def depicted (cs : List Char) : List Char := depictedFrom cs.length cs

end Deminify.Console.Emoji

namespace Deminify.Console

/-- A part of a message. A closing tag is kept as it is written, with the place where it stands. -/
inductive Piece where
  | text (cs : List Char)
  | opening (style : String)
  | closing (written : List Char) (position : Nat)
  deriving Repr

/-- The number of characters of the tag at the start, behind its opening bracket. -/
def tagLength? (cs : List Char) : Option Nat :=
  match cs with
  | c :: rest =>
    if c.isLower || c == '#' || c == '/' || c == '@' then
      let inside := rest.takeWhile fun d => d != '[' && d != ']'
      if (rest.drop inside.length).head? == some ']' then some (inside.length + 2) else none
    else none
  | [] => none

/-- A text as a piece, if there is any. -/
def textPiece (cs : List Char) : List Piece := if cs.isEmpty then [] else [.text cs]

/-- What stands before the first equals sign. -/
def tagName (inside : List Char) : List Char := inside.takeWhile (· != '=')

/-- The tag with the given characters between its brackets. -/
def tagPiece (inside : List Char) (position : Nat) : Piece :=
  if inside.head? == some '/' then .closing inside position
  else .opening (String.ofList (tagName inside))

/-- The pieces of a message from a position on, as far as `fuel` goes; `held` are the characters of
the text before it, the last one first. -/
def piecesFrom : Nat → Nat → List Char → List Char → List Piece
  | 0, _, held, cs => textPiece (held.reverse ++ cs)
  | _ + 1, _, held, [] => textPiece held.reverse
  | fuel + 1, position, held, c :: cs =>
    let slashes := ((c :: cs).takeWhile (· == '\\')).length
    match (c :: cs).drop slashes with
    | '[' :: rest =>
      match tagLength? rest with
      | some n =>
        let place := position + slashes
        let tag := if slashes % 2 == 1 then .text ('[' :: rest.take n)
          else tagPiece (rest.take (n - 1)) place
        textPiece held.reverse ++ textPiece (List.replicate (slashes / 2) '\\') ++
          tag :: piecesFrom fuel (place + 1 + n) [] (rest.drop n)
      | none =>
        piecesFrom fuel (position + slashes + 1) ('[' :: List.replicate slashes '\\' ++ held) rest
    | _ => piecesFrom fuel (position + 1) (c :: held) cs

/-- The pieces of a message. -/
def pieces (markup : String) : List Piece := piecesFrom markup.length 0 [] markup.toList

/-- A text of a message without the backslashes before brackets. -/
def withoutEscapes : List Char → List Char
  | '\\' :: '[' :: rest => '[' :: withoutEscapes rest
  | c :: rest => c :: withoutEscapes rest
  | [] => []

/-- The styles that stay open behind a closing tag. The styles that are open before it are given by
their names, the last one first. -/
def closeTag (open_ : List String) (written : List Char) (position : Nat) :
    Except Failure (List String) :=
  let name := Text.strip (String.ofList ((tagName written).drop 1))
  if name.isEmpty then
    match open_ with
    | _ :: rest => .ok rest
    | [] => .error (.nothingOpen position)
  else
    let style := styleName name
    if open_.contains style then .ok (open_.erase style)
    else .error (.notOpen (String.ofList written) position)

/-- The text that pieces show, while styles are open. -/
def shownPieces : List String → List Piece → Except Failure (List Char)
  | _, [] => .ok []
  | open_, .text cs :: rest => do
    return Emoji.depicted (withoutEscapes cs) ++ (← shownPieces open_ rest)
  | open_, .opening style :: rest => shownPieces (styleName style :: open_) rest
  | open_, .closing written position :: rest => do
    shownPieces (← closeTag open_ written position) rest

/-- A message without its tags. -/
def unstyled (markup : String) : Except Failure String := do
  return String.ofList (← shownPieces [] (pieces markup))

/-- The text in a style. -/
def styled (style text : String) : String := "[" ++ style ++ "]" ++ text ++ "[/" ++ style ++ "]"

end Deminify.Console
