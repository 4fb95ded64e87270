import Deminify.Token.Lexer

/-!
# Tokens of elements

Inside a tag words may have hyphens and texts have named characters instead of escapes; between
tags everything up to the next tag or brace is text.

* `Deminify.Token.scanTag` – reads a token of a tag;
* `Deminify.Token.scanTagText` – reads the text between two tags.
-/

namespace Deminify.Token

/-!
## Named characters

The characters that have a name in markup, for the values of attributes.
-/

/-- The named characters, by their code points. -/
def entities : List (String × Nat) := [
  ("quot", 0x22), ("amp", 0x26), ("apos", 0x27), ("gt", 0x3E), ("nbsp", 0xA0), ("iexcl", 0xA1),
  ("cent", 0xA2), ("pound", 0xA3), ("curren", 0xA4), ("yen", 0xA5), ("brvbar", 0xA6),
  ("sect", 0xA7), ("uml", 0xA8), ("copy", 0xA9), ("ordf", 0xAA), ("laquo", 0xAB), ("not", 0xAC),
  ("shy", 0xAD), ("reg", 0xAE), ("macr", 0xAF), ("deg", 0xB0), ("plusmn", 0xB1), ("sup2", 0xB2),
  ("sup3", 0xB3), ("acute", 0xB4), ("micro", 0xB5), ("para", 0xB6), ("middot", 0xB7),
  ("cedil", 0xB8), ("sup1", 0xB9), ("ordm", 0xBA), ("raquo", 0xBB), ("frac14", 0xBC),
  ("frac12", 0xBD), ("frac34", 0xBE), ("iquest", 0xBF), ("Agrave", 0xC0), ("Aacute", 0xC1),
  ("Acirc", 0xC2), ("Atilde", 0xC3), ("Auml", 0xC4), ("Aring", 0xC5), ("AElig", 0xC6),
  ("Ccedil", 0xC7), ("Egrave", 0xC8), ("Eacute", 0xC9), ("Ecirc", 0xCA), ("Euml", 0xCB),
  ("Igrave", 0xCC), ("Iacute", 0xCD), ("Icirc", 0xCE), ("Iuml", 0xCF), ("ETH", 0xD0),
  ("Ntilde", 0xD1), ("Ograve", 0xD2), ("Oacute", 0xD3), ("Ocirc", 0xD4), ("Otilde", 0xD5),
  ("Ouml", 0xD6), ("times", 0xD7), ("Oslash", 0xD8), ("Ugrave", 0xD9), ("Uacute", 0xDA),
  ("Ucirc", 0xDB), ("Uuml", 0xDC), ("Yacute", 0xDD), ("THORN", 0xDE), ("szlig", 0xDF),
  ("agrave", 0xE0), ("aacute", 0xE1), ("acirc", 0xE2), ("atilde", 0xE3), ("auml", 0xE4),
  ("aring", 0xE5), ("aelig", 0xE6), ("ccedil", 0xE7), ("egrave", 0xE8), ("eacute", 0xE9),
  ("ecirc", 0xEA), ("euml", 0xEB), ("igrave", 0xEC), ("iacute", 0xED), ("icirc", 0xEE),
  ("iuml", 0xEF), ("eth", 0xF0), ("ntilde", 0xF1), ("ograve", 0xF2), ("oacute", 0xF3),
  ("ocirc", 0xF4), ("otilde", 0xF5), ("ouml", 0xF6), ("divide", 0xF7), ("oslash", 0xF8),
  ("ugrave", 0xF9), ("uacute", 0xFA), ("ucirc", 0xFB), ("uuml", 0xFC), ("yacute", 0xFD),
  ("thorn", 0xFE), ("yuml", 0xFF), ("OElig", 0x152), ("oelig", 0x153), ("Scaron", 0x160),
  ("scaron", 0x161), ("Yuml", 0x178), ("fnof", 0x192), ("circ", 0x2C6), ("tilde", 0x2DC),
  ("Alpha", 0x391), ("Beta", 0x392), ("Gamma", 0x393), ("Delta", 0x394), ("Epsilon", 0x395),
  ("Zeta", 0x396), ("Eta", 0x397), ("Theta", 0x398), ("Iota", 0x399), ("Kappa", 0x39A),
  ("Lambda", 0x39B), ("Mu", 0x39C), ("Nu", 0x39D), ("Xi", 0x39E), ("Omicron", 0x39F),
  ("Pi", 0x3A0), ("Rho", 0x3A1), ("Sigma", 0x3A3), ("Tau", 0x3A4), ("Upsilon", 0x3A5),
  ("Phi", 0x3A6), ("Chi", 0x3A7), ("Psi", 0x3A8), ("Omega", 0x3A9), ("alpha", 0x3B1),
  ("beta", 0x3B2), ("gamma", 0x3B3), ("delta", 0x3B4), ("epsilon", 0x3B5), ("zeta", 0x3B6),
  ("eta", 0x3B7), ("theta", 0x3B8), ("iota", 0x3B9), ("kappa", 0x3BA), ("lambda", 0x3BB),
  ("mu", 0x3BC), ("nu", 0x3BD), ("xi", 0x3BE), ("omicron", 0x3BF), ("pi", 0x3C0), ("rho", 0x3C1),
  ("sigmaf", 0x3C2), ("sigma", 0x3C3), ("tau", 0x3C4), ("upsilon", 0x3C5), ("phi", 0x3C6),
  ("chi", 0x3C7), ("psi", 0x3C8), ("omega", 0x3C9), ("thetasym", 0x3D1), ("upsih", 0x3D2),
  ("piv", 0x3D6), ("ensp", 0x2002), ("emsp", 0x2003), ("thinsp", 0x2009), ("zwnj", 0x200C),
  ("zwj", 0x200D), ("lrm", 0x200E), ("rlm", 0x200F), ("ndash", 0x2013), ("mdash", 0x2014),
  ("lsquo", 0x2018), ("rsquo", 0x2019), ("sbquo", 0x201A), ("ldquo", 0x201C), ("rdquo", 0x201D),
  ("bdquo", 0x201E), ("dagger", 0x2020), ("Dagger", 0x2021), ("bull", 0x2022), ("hellip", 0x2026),
  ("permil", 0x2030), ("prime", 0x2032), ("Prime", 0x2033), ("lsaquo", 0x2039),
  ("rsaquo", 0x203A), ("oline", 0x203E), ("frasl", 0x2044), ("euro", 0x20AC), ("image", 0x2111),
  ("weierp", 0x2118), ("real", 0x211C), ("trade", 0x2122), ("alefsym", 0x2135), ("larr", 0x2190),
  ("uarr", 0x2191), ("rarr", 0x2192), ("darr", 0x2193), ("harr", 0x2194), ("crarr", 0x21B5),
  ("lArr", 0x21D0), ("uArr", 0x21D1), ("rArr", 0x21D2), ("dArr", 0x21D3), ("hArr", 0x21D4),
  ("forall", 0x2200), ("part", 0x2202), ("exist", 0x2203), ("empty", 0x2205), ("nabla", 0x2207),
  ("isin", 0x2208), ("notin", 0x2209), ("ni", 0x220B), ("prod", 0x220F), ("sum", 0x2211),
  ("minus", 0x2212), ("lowast", 0x2217), ("radic", 0x221A), ("prop", 0x221D), ("infin", 0x221E),
  ("ang", 0x2220), ("and", 0x2227), ("or", 0x2228), ("cap", 0x2229), ("cup", 0x222A),
  ("int", 0x222B), ("there4", 0x2234), ("sim", 0x223C), ("cong", 0x2245), ("asymp", 0x2248),
  ("ne", 0x2260), ("equiv", 0x2261), ("le", 0x2264), ("ge", 0x2265), ("sub", 0x2282),
  ("sup", 0x2283), ("nsub", 0x2284), ("sube", 0x2286), ("supe", 0x2287), ("oplus", 0x2295),
  ("otimes", 0x2297), ("perp", 0x22A5), ("sdot", 0x22C5), ("lceil", 0x2308), ("rceil", 0x2309),
  ("lfloor", 0x230A), ("rfloor", 0x230B), ("loz", 0x25CA), ("spades", 0x2660), ("clubs", 0x2663),
  ("hearts", 0x2665), ("diams", 0x2666), ("lang", 0x27E8), ("rang", 0x27E9)]

/-- The character with a name. -/
def entity? (name : String) : Option Char := (entities.lookup name).map Char.ofNat

/-! ### Named characters in texts -/

/-- How far a character written by name or number has been read. -/
structure EntityScan where
  index : Nat
  valid : Bool := true
  closed : Bool := false
  decimal : Bool := false
  hex : Bool := false

/-- Reads on from an ampersand to the semicolon, up to the quote or the first character that does
not fit; `length` counts the characters so far. -/
def entityEnd (src : Source) (mark : Char) : Nat → Nat → EntityScan → EntityScan
  | 0, _, e => e
  | fuel + 1, length, e =>
    let c := src.get e.index
    if src.size ≤ e.index || !e.valid || e.closed || c == mark then e
    else
      let e := { e with index := e.index + 1 }
      if c == ';' then { e with closed := true }
      else if length == 1 then entityEnd src mark fuel 2 { e with decimal := c == '#' }
      else if length == 2 then
        let hex := e.decimal && c == 'x'
        entityEnd src mark fuel 3 { e with
          hex, valid := !e.decimal || hex || c.isDigit, decimal := e.decimal && !hex }
      else
        let valid := !(e.decimal && !c.isDigit) && !(e.hex && !isHexDigit c)
        entityEnd src mark fuel (length + 1) { e with valid }

/-- Reads a character written by name or number, after its ampersand at `start`; anything else
stands for itself. -/
def scanEntity (src : Source) (mark : Char) (start : Nat) : Scan (List Char) := do
  let e := entityEnd src mark (src.size + 1) 1 { index := start + 1 }
  Scan.moveTo e.index
  let whole := (src.slice start e.index).toList
  let body := (whole.drop 1).dropLast
  let numbered (code : Nat) : Scan (List Char) := do
    if 0x7FFFFFFF < code then
      throw (SyntaxError.unpositioned "Python int too large to convert to C int")
    if 0x10FFFF < code then
      throw (SyntaxError.unpositioned "chr() arg not in range(0x110000)")
    return textOfCodes [code]
  if !(e.valid && e.closed && 2 < whole.length) then return whole
  else if e.decimal && 1 < body.length then numbered (valueIn 10 (body.drop 1))
  else if e.hex && 2 < body.length then numbered (valueIn 16 (body.drop 2))
  else if !e.decimal && !e.hex then
    match entity? (String.ofList body) with
    | some c => return [c]
    | none => return whole
  else return whole

/-! ### Tags -/

/-- Reads the text of an attribute up to its quote, or to the end; line ends are not counted. -/
def attributeText (src : Source) (mark : Char) : Nat → Array Char → Scan String
  | 0, done => return String.ofList done.toList
  | fuel + 1, done => do
    let c ← get
    if src.size ≤ c.index then return String.ofList done.toList
    let letter := src.get c.index
    Scan.moveTo (c.index + 1)
    if letter == mark then return String.ofList done.toList
    else if letter == '&' then
      let cs ← scanEntity src mark c.index
      attributeText src mark fuel (done ++ cs.toArray)
    else attributeText src mark fuel (done.push letter)

/-- The token that runs from `start` to the cursor. -/
def tagToken (type : TokenType) (value : String) (start : Nat) : Scan Token := do
  let c ← get
  return { type, value, line := c.line, lineStart := c.lineStart, start, stop := c.index }

/-- Reads the token of a tag at the cursor. -/
def scanTag (src : Source) : Scan Token := do
  let start := (← get).index
  let letter := src.get start
  if ['<', '>', '/', ':', '=', '\x7b', '\x7d'].contains letter then
    Scan.moveTo (start + 1)
    tagToken .punctuator (String.singleton letter) start
  else if letter == '\x27' || letter == '"' then
    Scan.moveTo (start + 1)
    let value ← attributeText src letter (src.size + 1) #[]
    tagToken .string value start
  else if letter == '.' then
    let value := if src.startsWith start "..." then "..." else "."
    Scan.moveTo (start + value.length)
    tagToken .punctuator value start
  else if letter == '\x60' then tagToken .template "" start
  else if Text.isIdentifierStart letter && letter != '\\' then
    let part (c : Char) : Bool := (Text.isIdentifierPart c && c != '\\') || c == '-'
    let stop := src.skipWhile part (start + 1)
    Scan.moveTo stop
    tagToken .tagName (src.slice start stop) start
  else scan src

/-! ### Text -/

/-- The text of a stretch in which a line end of two characters counts as its first. -/
def joinLineEnds : List Char → List Char
  | '\r' :: '\n' :: rest => '\r' :: joinLineEnds rest
  | c :: rest => c :: joinLineEnds rest
  | [] => []

/-- The cursor after a stretch of text, its lines counted. -/
def afterText (src : Source) (stop : Nat) : Nat → Cursor → Cursor
  | 0, c => c
  | fuel + 1, c =>
    if stop ≤ c.index then c
    else if isLineEnd (src.get c.index) then
      afterText src stop fuel (c.newLine (afterLineEnd src c.index))
    else afterText src stop fuel { c with index := c.index + 1 }

/-- Reads the text up to the next tag or brace. -/
def scanTagText (src : Source) : Scan Token := do
  let start := (← get).index
  let stop := src.skipWhile (fun c => c != '\x7b' && c != '<') start
  modify (afterText src stop (src.size + 1))
  tagToken .tagText (String.ofList (joinLineEnds (src.slice start stop).toList)) start

end Deminify.Token
