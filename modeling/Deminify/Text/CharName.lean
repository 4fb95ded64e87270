import Deminify.Text.CharName.Ancient
import Deminify.Text.CharName.Pictures
import Deminify.Text.CharName.Scripts
import Deminify.Text.CharName.Symbols
import Deminify.Text.Letter

/-!
# Characters by name

Every character of the standard has a name, some have others besides, and no two share one. Most
names are listed; a syllable of Hangul is named after its letters, and an ideograph after its code
point. Listed names are found in any case, the others are not.

* `Deminify.Text.CharName.listed?` – the character of a name in a table;
* `Deminify.Text.CharName.syllable?`, `Deminify.Text.CharName.ideograph?` – the names that follow a
  rule;
* `Deminify.Text.charNamed?` – **the character of a name**.
-/

namespace Deminify.Text.CharName

/-- The other names: of controls, abbreviations, and corrected names, each behind its code point. -/
def aliases : String := "
@0 0NUL;@0 0NULL;@1 0SOH;@1 0START OF HEADING;@2 0START OF tx;@2 0STX;@3 0END OF tx;@3 0ETX
@4 0END OF TRANSMISSION;@4 0EOT;@5 0ENQ;@5 0ENQUIRY;@6 0ACK;@6 0ACKNOWLEDGE;@7 0ALERT;@7 0BEL
@8 0BACKSPACE;@8 0BS;@9 0hc TABULATION;@9 0h TABULATION;@9 0HT;@9 0TAB;@A 0END OF ne;@A 0EOL;@A 0LF
@A 0ne FEED;@A 0NEW ne;@A 0NL;@B 0ne TABULATION;@B 0v TABULATION;@B 0VT;@C 0FF;@C 0fo FEED
@D 0CARRIAGE RETURN;@D 0CR;@E 0LOCKING-SHIFT on;@E 0SHIFT OUT;@E 0SO;@F 0LOCKING-SHIFT z
@F 0SHIFT IN;@F 0SI;@10 0DATA LINK ESCAPE;@10 0DLE;@11 0DC1;@11 0DEVICE CONTROL on;@12 0DC2
@12 0DEVICE CONTROL tw;@13 0DC3;@13 0DEVICE CONTROL t;@14 0DC4;@14 0DEVICE CONTROL u;@15 0NAK
@15 0ng ACKNOWLEDGE;@16 0SYN;@16 0SYNCHRONOUS IDLE;@17 0END OF TRANSMISSION bl;@17 0ETB;@18 0CAN
@18 0CANCEL;@19 0END OF me;@19 0EOM;@1A 0SUB;@1A 0SUBSTITUTE;@1B 0ESC;@1B 0ESCAPE;@1C 0FILE sp
@1C 0FS;@1C 0nf sp u;@1D 0GROUP sp;@1D 0GS;@1D 0nf sp t;@1E 0nf sp tw;@1E 0RECORD sp;@1E 0RS
@1F 0nf sp on;@1F 0UNIT sp;@1F 0US;@20 0SP;@7F 0DEL;@7F 0DELETE;@80 0PAD;@80 0PADDING hc
@81 0hi OCTET PRESET;@81 0HOP;@82 0BPH;@82 0BREAK PERMITTED HERE;@83 0NBH;@83 0NO BREAK HERE
@84 0IND;@84 0id;@85 0NEL;@85 0NEXT ne;@86 0SSA;@86 0START OF SELECTED AREA
@87 0END OF SELECTED AREA;@87 0ESA;@88 0hc TABULATION SET;@88 0h TABULATION SET;@88 0HTS
@89 0hc TABULATION w JUSTIFICATION;@89 0h TABULATION w JUSTIFICATION;@89 0HTJ;@8A 0ne TABULATION SET
@8A 0v TABULATION SET;@8A 0VTS;@8B 0PARTIAL ne do;@8B 0PARTIAL ne fw;@8B 0PLD
@8C 0PARTIAL ne BACKWARD;@8C 0PARTIAL ne UP;@8C 0PLU;@8D 0rv id;@8D 0rv ne FEED;@8D 0RI
@8E 0si SHIFT tw;@8E 0SINGLE-SHIFT-2;@8E 0SS2;@8F 0si SHIFT t;@8F 0SINGLE-SHIFT-3;@8F 0SS3;@90 0DCS
@90 0DEVICE CONTROL STRING;@91 0PRIVATE USE on;@91 0PRIVATE USE-1;@91 0PU1;@92 0PRIVATE USE tw
@92 0PRIVATE USE-2;@92 0PU2;@93 0SET TRANSMIT STATE;@93 0STS;@94 0CANCEL hc;@94 0CCH
@95 0MESSAGE WAITING;@95 0MW;@96 0SPA;@96 0START OF GUARDED AREA;@96 0START OF PROTECTED AREA
@97 0END OF GUARDED AREA;@97 0END OF PROTECTED AREA;@97 0EPA;@98 0SOS;@98 0START OF STRING;@99 0SGC
@99 0si GRAPHIC hc INTRODUCER;@9A 0SCI;@9A 0si hc INTRODUCER;@9B 0CONTROL SEQUENCE INTRODUCER
@9B 0CSI;@9C 0ST;@9C 0STRING TERMINATOR;@9D 0OPERATING SYSTEM COMMAND;@9D 0OSC;@9E 0PM
@9E 0PRIVACY MESSAGE;@9F 0APC;@9F 0APPLICATION PROGRAM COMMAND;@A0 0NBSP;@AD 0SHY;@1A2 0lt c l GHA
@1A3 0lt s l GHA;@34F 0CGJ;@61C 0ALM;@709 0SYRIAC SUBLINEAR ol SKEWED f;@CDE 0KANNADA l LLLA
@E9D 0LAO l FO FON;@E9F 0LAO l FO FAY;@EA3 0LAO l RO;@EA5 0LAO l LO
@FD0 0TIBETAN ma BKA- SHOG GI MGO RGYAN;@11EC 0au JONGSEONG YESIEUNG-KIYEOK
@11ED 0au JONGSEONG YESIEUNG-SSANGKIYEOK;@11EE 0au JONGSEONG SSANGYESIEUNG
@11EF 0au JONGSEONG YESIEUNG-KHIEUKH;@180B 0FVS1;@180C 0FVS2;@180D 0FVS3;@180E 0MVS;@180F 0FVS4
@200B 0ZWSP;@200C 0ZWNJ;@200D 0ZWJ;@200E 0LRM;@200F 0RLM;@202A 0LRE;@202B 0RLE;@202C 0PDF;@202D 0LRO
@202E 0RLO;@202F 0NNBSP;@205F 0MMSP;@2060 0WJ;@2066 0LRI;@2067 0RLI;@2068 0FSI;@2069 0PDI
@2118 0WEIERSTRASS ELLIPTIC FUNCTION;@2448 0MICR ON US y;@2449 0MICR DASH y;@2B7A 0e tr ar w d v k
@2B7C 0i tr ar w d v k;@A015 0YI sy ITERATION ma;@AA6E 0MYANMAR l KHAMTI LLA;@FE00 0VS1;@FE01 0VS2
@FE02 0VS3;@FE03 0VS4;@FE04 0VS5;@FE05 0VS6;@FE06 0VS7;@FE07 0VS8;@FE08 0VS9;@FE09 0VS10;@FE0A 0VS11
@FE0B 0VS12;@FE0C 0VS13;@FE0D 0VS14;@FE0E 0VS15;@FE0F 0VS16;@FE18 0PRESENTATION fo FOR v r wh lu br
@FEFF 0BOM;@FEFF 0BYTE ORDER ma;@FEFF 0ZWNBSP;@122D4 0CUNEIFORM g NU11 en
@122D5 0CUNEIFORM g NU11 ov NU11 BUR ov BUR;@16E56 0MEDEFAIDRIN c l H;@16E57 0MEDEFAIDRIN c l NG
@16E76 0MEDEFAIDRIN s l H;@16E77 0MEDEFAIDRIN s l NG;@1B001 0HENTAIGANA l E-1
@1D0C5 0BYZANTINE ms y FTHORA SKLIRON CHROMA VASIS"

/-- The abbreviations that the tables have for frequent words, each before its word. -/
def abbreviations : String := "
a ABOVE;b BLACK;c CAPITAL;d DOUBLE;e LEFTWARDS;f LEFT;g SIGN;h HORIZONTAL;i RIGHTWARDS;j JEEM
k STROKE;l LETTER;m TIMES;n AND;o DOWNWARDS;p UPWARDS;q SQUARE;r RIGHT;s SMALL;t THREE;u FOUR
v VERTICAL;w WITH;x CIRCUMFLEX;y SYMBOL;z ZERO;aa ALTERNATE;ab ABBREVIATION;ac ACUTE;ad CANDRA
ae ALTERNATING;af BLACK-FEATHERED;ag ANGLE;ah ARCHAIC;ai ARABIC-INDIC;ak NASKAPI;al ALEF
am MATHEMATICAL;an ANUSVARA;ao ARROWHEAD;ap ALPHA;ar ARROW;as ASTERISK;at ANTICLOCKWISE;au HANGUL
av AVAGRAHA;aw ARROWS;ax APPROXIMATELY;ay SAYISI;ba BARB;bb BILABIAL;bc BACKSLASH;bd BOLD;be BELOW
bf BLACKFOOT;bg BIRGA;bh BHA;bi BISHOP;bk BLACK-LETTER;bl BLOCK;bn BENT;bo BOTTOM;bp BALLOON-SPOKED
br BRACKET;bs BESIDE;bt BETWEEN;bu BULLET;bv BREVE;bx BOX;by BYELORUSSIAN-UKRAINIAN;ca CANDRABINDU
cc ACCENT;cd CEDILLA;ce CENTRE;cg CONTAINING;ch CHA;ci CIRCLE;cj CONJOINED;ck CLOCKWISE;cl CLOSED
cm C-SIMPLIFIED;cn CONSONANT;co COMBINING;cp SCRIPT;cr CIRCLED;cs CROSSING;ct COPTIC;cu CURLY
cv CURVE;cw SCHWA;cy CYRILLIC;cz CENTRALIZATION;da DIAERESIS;db DOUBLE-LINE;dc DESCENDER;dd DDHA
de DOTTED;df DIFFERENTIAL;dg DIAGONAL;dh DHA;di DIGIT;dk HAND-HOOK;dl DIALYTIKA;dm DIAMOND;dn DANDA
do DOWN;dp HAND-CUP;dr DIGRAPH;ds DASIA;dt DOT;du DOUBLE-STRUCK;dv DIVISION;dw DOWN-POINTING
dy DVOECHELNAYA;dz DZA;ea EAST;eb SEBATBEIT;ec CHIEUCH;ed EXTENDED;ee SHEEN;ef LEFT-FACING;eg EIGHTH
eh EIGHTY;ei EIGHT;ek RIEUL-TIKEUT;el TELEPHONE;em SEMICOLON;en TENU;eo EXTENSION;ep EPSILON
eq EQUAL;er HEART;es EIGHTHS;et DELTA;eu EQUALS;ev SEVENTEEN;ew EXTRA-LOW;ex EXCLAMATION;ey EYES
ez EYEGAZE-WALLPLANE;fa FACE;fc IMPERFECTA;fd LEFT-SHADED;fe FOURTEEN;ff FIFTY;fg FINGER;fh FATHA
fi FINAL;fk EKFONITIKON;fl FALLING;fm FROM;fn FINGERS;fo FORM;fr FRACTION;fs FISHHOOK;ft FORTY
fu FULL;fv FIVE;fw FORWARD;fx FLEX;ga GRAVE;gb KNIGHT-BISHOP;gc SSANGCIEUC;gd TOP-LIGHTED;ge GREEK
gg GEORGIAN;gh GHAIN;gi GIMEL;gk SSANGTIKEUT;gl GLOTTAL;gm GAMMA;gn GEMINATION;go GROMOPOVODNAYA
gp SSANGPIEUP;gr GREATER-THAN;gs LARGEST;gt RIGHT-FACING;gu GUNU;gv HIGH-REVERSED-9;gy SSANGKIYEOK
gz GORAZDO;ha HAND-FIST;hc CHARACTER;hd HAND-HINGE;he HEAVY;hf HAND-FLAT;hg HAND-ANGLE;hh HAH
hi HIGH;hk CHECK;hl HALF;hm HAMZA;hn HAND-CIRCLE;ho HOOK;hp HYPHEN-MINUS;hr HARPOON;hs CHESS
ht THETA;hu HUNDRED;hv HAND-OVAL;hw SHADOWED;hy HYPHEN;ia ITALIC;ib INTERROBANG;ic INDICATOR
id INDEX;ie IDEOGRAPHIC;if IOTIFIED;ig HINGED;ih EIGHTEEN;ii HITTING;ik TIKEUT;il TAIL;im SIGMA
in INITIAL;io IOTA;ip INDEPENDENT;ir INTEGRAL;is ISOLATED;it INTERSECTION;iu INSULAR;iv INVERTED
iw RIGHT-SHADOWED;ix SIXTY;iy INFINITY;iz IZHITSA;ja JAPANESE;jh JHA;ji JIHVAMULIYA;jn JOINED
jo JOINER;js J-SIMPLIFIED;ka KATAKANA;kb KEYBOARD;kc KLYUCHENEPOSTOYANNAYA;kd HOOKED;ke KENTIMATA
kf KAF;kg KING;kh KHAH;ki KHIEUKH;kk SIOS-KIYEOK;kl KLYUCHEVAYA;km KAPYEOUNMIEUM;kn KNIGHT
ko KAPYEOUNPHIEUPH;kp KAPPA;kr KRYZHEM;ks KASKAL;kt KATAKANA-HIRAGANA;ku KAPYEOUNPIEUP;kv KAVYKA
ky KIYEOK;kz KIRGHIZ;la LARGE;lb LAGAB;lc LOGICAL;ld LAMDA;le LESS-THAN;lf LEFT-POINTING;lg LIGATURE
lh LENGTH;li LIGHT;lk PARAKLITIKI;ll LITTLE;lm LAMEDH;ln LONG;lo LOWER;lp ALPAPRAANA
lr LEFT-TO-RIGHT;ls ALMOST;lt LATIN;lu LENTICULAR;lv ELEVEN;lw LOW;ly RIEUL-KAPYEOUNPIEUP;lz LOZENGE
ma MARK;mb UMBRELLA;mc MACRON;md MEDIAL;me MEDIUM;mf MODIFIER;mg MONOGRAM;mh MAHAAPRAANA;mi MIDDLE
mj MUURDHAJA;mk MAKSURA;ml MULTIPLE;mm MEEM;mn MINUS;mo MOVEMENT-FLOORPLANE;mp MAHAPRANA
mr AMPERSAND;ms MUSICAL;mt MOUTH;mu MULTIPLICATION;mv MOVEMENT-WALLPLANE;my MYSLITE;na NGA;nb NUBIAN
nc CANCELLATION;nd HAND;ne LINE;nf INFORMATION;ng NEGATIVE;nh NOTEHEAD;ni NINE;nk NUKTA
nl NIKOLSBURG;nm NUMERAL;nn NOON;no NORTH;np NEPOSTOYANNAYA;nr NORMAL;ns INSIDE;nt NEUTRAL;nu NUMBER
nv ENVELOPE;nw HAND-CLAW;nx ONE-HUNDRED-AND-SIXTIETH;ny NINETY;nz NASALIZATION;oa ORNAMENT
ob OVERBAR;oc COMMERCIAL;od CROSSED;oe OPEN;of SOFT;og OMEGA;oh NOTCHED;oi OMICRON;oj OJIBWAY
ok OGONEK;ol COLON;om COMMA;on ONE;oo OPPOSING;op OPERATOR;oq OBLIQUE;or ORKHON;os DOTLESS;ot DOTS
ou ROUNDED;ov OVER;ow FROWNING;ox OXIA;oy OVERLAY;pa PARENTHESIS;pb PRAM-BUON;pc PRECEDES;pd PRODUCT
pe PERISPOMENI;pf PERFECTA;pg PARAGRAPH;ph PHA;pi POINTED;pk PIEUP-SIOS-TIKEUT;pl PLUS
pm PRISHTHAMATRA;pn PERSON;po POINTING;pp PHIEUPH;pr PROSGEGRAMMENI;ps PSILI;pt APOSTROPHE
pu PUNCTUATION;pv POVYSHE;pw PINWHEEL;py POVODNAYA;pz PARENTHESIZED;qa QUARTER;qd QUADRUPLE;qe QUEEN
qf QAF;qg SQUIGGLE;qi EQUIVALENT;qm QAMATS;qn QUADRANT;qo QUOTATION;qp QOPH;qr QUARTERS
qt SEQUENTIAL;qu QUESTION;ra RAISED;rb ARABIC;rc ARCHAION;rd CROSSED-TAIL;re REVERSED
rf ROTATION-FLOORPLANE;rg RISING;rh RIGHT-TO-LEFT;ri RIGHT-POINTING;rk RIEUL-KIYEOK;rl PARALLEL
rm RIEUL-MIEUM;rn RING;ro ROTATED;rp RIEUL-PIEUP;rr CORNER;rs CROSS;rt RETROFLEX;ru THROUGH
rv REVERSE;rw ROTATION-WALLPLANE;ry CRYPTOGRAMMIC;rz GROMOKRYZHEVAYA;sa SLANTED;sb SUBSET;sc SECTION
sd SUCCEEDS;se SEVEN;sf SIMPLIFIED;sg SMILING;sh SHORT;si SINGLE;sj SUBJOINED;sk SAMEKH;sl SOLIDUS
sm SIMALUNGUN;sn SANS-SERIF;so SOUTH;sp SEPARATOR;sq SQUARED;sr SUPERSCRIPT;ss SUBSCRIPT;st STRAIGHT
su SUPERSET;sv SEVENTY;sw SIDEWAYS;sx SIX;sy SYLLABLE;ta TTHA;tc TACK;td TWO-HEADED;te TWENTY
tf IDENTIFICATION;tg TRIANGULAR;th THUMB;ti TRIANGLE;tk TEARDROP-SPOKED;tl TILDE;tm TROMIKON;tn TEN
to THOUSAND;tp TRIPLE;tr TRIANGLE-HEADED;ts TORTOISE;tt THIRTY;tu TURNED;tv TWELVE;tw TWO;tx TEXT
ty TRESVETLAYA;tz TROEZENIAN;ua UPADHMANIYA;ub SUBGROUP;uc NIEUN-CIEUC;ud SOUND;ue RIEUL-HIEUH
ug TEDUNG;uh THIEUTH;ui UNION;uk PIEUP-TIKEUT;ul OUTLINED;um SUBLIMATE;un UNDERBAR;uo UP-POINTING
up UPPER;ur CURL;us UPSILON;ut MOUNTAIN;uu NIEUN-HIEUH;uv CURVED;uy CURRENCY;va VARIA;vc VOCALIC
vd VOICED;ve VERTICALLY;vg DEVANAGARI;vh VRACHY;vi VISARGA;vk VYSOKO;vl OVERLINE;vm MOVEMENT
vn VARIANT;vo VOWEL;vp OVERLAPPING;vr VIRAMA;vs INVERSE;vt SVETLAYA;vv DVOECHELNOPOVODNAYA;vy VERY
wa WAW;wd WIND;we WEST-CREE;wg TWENTY-EIGHTH;wh WHITE;wi WRIST;wl TATWEEL;wm WOMAN;wn PAWN;wo WORD
wr WRINKLED;ws WEST;wt WATER;wu WITHOUT;wv WAVE;ww TWENTY-TWO;wy WAVY;xa EXTRA-HIGH;xe SIXTEENTH
xn SIXTEENTHS;xr EXTREMELY;xt SIXTEEN;xy SIXTY-FOURTH;ya NYA;yb SYLLABICS;yc Y-CREE
yd TIGHTLY-CLOSED;ye YENISEI;yf YFESIS;yg EYEGAZE-FLOORPLANE;yh YEH;yi AYIN;yj YAJURVEDIC
yk KIYEOK-SIOS;yl YELLOW;yn YANG;yo YODH;yp YPOGEGRAMMENI;yr YEORINHIEUH;ys THIRTY-SECOND
yt EGYPTOLOGICAL;yu KAPYEOUNSSANGPIEUP;za ZAYIN;ze ZETA;zg ZIGZAG;zh ZHA;zi ZAIN;zp ZAPYATAYA
zy ZAPYATOY"

/-- The value of a hexadecimal digit in capitals. -/
def hexValue? (c : Char) : Option Nat :=
  if c.isDigit then some (c.toNat - 48)
  else if 'A' ≤ c && c ≤ 'F' then some (c.toNat - 55)
  else none

/-- The value of hexadecimal digits in capitals. -/
def hexNumber? (cs : List Char) : Option Nat :=
  cs.foldlM (fun n c => (hexValue? c).map (16 * n + ·)) 0

/-! ### Tables -/

/-- The code point before an entry, if there is one, and the entry behind it. -/
def codeBefore (next : Nat) : List Char → Nat × List Char
  | '@' :: cs =>
    let digits := cs.takeWhile (· != ' ')
    ((hexNumber? digits).getD next, cs.drop (digits.length + 1))
  | cs => (next, cs)

/-- How many words an entry shares with the end of the entry before it, and its own words. -/
def sharedAtEnd : List Char → Nat × List Char
  | [] => (0, [])
  | c :: own => if c.isDigit then (c.toNat - 48, own) else (0, c :: own)

/-- The words of an entry, between those that it shares with the start and with the end of the entry before it. -/
def entryWords (before : List String) : List Char → List String
  | [] => []
  | shared :: rest =>
    let (atEnd, own) := sharedAtEnd rest
    before.take (shared.toNat - 48) ++ (if own.isEmpty then [] else (String.ofList own).splitOn " ") ++
      before.drop (before.length - atEnd)

/-- Looks for a name among entries, of which the first has the code point `next` unless it says
otherwise, and comes after an entry with the words `before`. -/
def findFrom (name : List String) (next : Nat) (before : List String) : List String → Option Nat
  | [] => none
  | entry :: rest =>
    let (code, written) := codeBefore next entry.toList
    let words := entryWords before written
    if words == name then some code else findFrom name (code + 1) words rest

/-- The entries of a table. They are parted by semicolons and the ends of lines. -/
def entries (table : String) : List String := (table.splitOn "\n").flatMap (·.splitOn ";")

/-- A word as it is written in the tables. -/
def abbreviated (word : String) : String :=
  ((entries abbreviations).findSome? fun entry =>
    match entry.splitOn " " with
    | [short, long] => if long == word then some short else none
    | _ => none).getD word

/-- The character of a name in a table. -/
def listed? (table : String) (name : String) : Option Nat :=
  findFrom ((name.splitOn " ").map abbreviated) 0 [] (entries table)

/-! ### Names that follow a rule -/

/-- The longest of the letters with which the characters start: its place among them, and what
follows. -/
def letterAt? (letters : List String) (cs : List Char) : Option (Nat × List Char) :=
  (letters.zipIdx.foldl (fun best (letter, i) =>
    if letter.toList.isPrefixOf cs && best.all (fun (n, _) => n < letter.length) then
      some (letter.length, i)
    else best) none).map fun (n, i) => (i, cs.drop n)

/-- The letters that start a syllable. -/
def leads : List String := ["G", "GG", "N", "D", "DD", "R", "M", "B", "BB", "S", "SS", "", "J", "JJ",
  "C", "K", "T", "P", "H"]

/-- The vowels of a syllable. -/
def vowels : List String := ["A", "AE", "YA", "YAE", "EO", "E", "YEO", "YE", "O", "WA", "WAE", "OE",
  "YO", "U", "WEO", "WE", "WI", "YU", "EU", "YI", "I"]

/-- The letters that end a syllable. -/
def ends : List String := ["", "G", "GG", "GS", "N", "NJ", "NH", "D", "L", "LG", "LM", "LB", "LS",
  "LT", "LP", "LH", "M", "B", "BS", "S", "SS", "NG", "J", "C", "K", "T", "P", "H"]

/-- The syllable of a name. -/
def syllable? (name : String) : Option Nat := do
  let start := "HANGUL SYLLABLE "
  if !name.startsWith start then none
  let (lead, rest) ← letterAt? leads (name.toList.drop start.length)
  let (vowel, rest) ← letterAt? vowels rest
  let (stop, rest) ← letterAt? ends rest
  if rest.isEmpty then some (0xAC00 + (lead * 21 + vowel) * 28 + stop) else none

/-- The code point that ends a name with the given start, if it lies in one of the ranges. -/
def numbered? (start : String) (ranges : Ranges) (name : String) : Option Nat := do
  let digits := name.toList.drop start.length
  if !name.startsWith start || digits.length < 4 || 5 < digits.length then none
  let code ← hexNumber? digits
  if ranges.covers code then some code else none

/-- The ideograph of a name. -/
def ideograph? : String → Option Nat := numbered? "CJK UNIFIED IDEOGRAPH-" ⟨#[
  (0x3400, 0x4DBF), (0x4E00, 0x9FFF), (0x20000, 0x2A6DF), (0x2A700, 0x2B738), (0x2B740, 0x2B81D),
  (0x2B820, 0x2CEA1), (0x2CEB0, 0x2EBE0), (0x30000, 0x3134A)]⟩

/-- The characters besides ideographs whose names end with their code points. -/
def numberedNames : List (String × Ranges) := [
  ("CJK COMPATIBILITY IDEOGRAPH-", ⟨#[(0xF900, 0xFA6D), (0xFA70, 0xFAD9), (0x2F800, 0x2FA1D)]⟩),
  ("KHITAN SMALL SCRIPT CHARACTER-", ⟨#[(0x18B00, 0x18CD5)]⟩),
  ("NUSHU CHARACTER-", ⟨#[(0x1B170, 0x1B2FB)]⟩)]

/-- The character of such a name; its code point has no leading zero. -/
def numberedCharacter? (name : String) : Option Nat :=
  numberedNames.findSome? fun (start, ranges) =>
    (numbered? start ranges name).filter fun code =>
      (if code < 0x10000 then 4 else 5) + start.length == name.length

/-- The number that ends a name with the given start, if it is one of those from `first` to `last`. Only as many
zeros stand before it as it takes for `width` digits. -/
def countedBy? (start : String) (width first last : Nat) (name : String) : Option Nat :=
  let digits := name.toList.drop start.length
  if !name.startsWith start || !digits.all Char.isDigit || digits.length < width ||
      (width < digits.length && digits.head? == some '0') then none
  else
    let n := digits.foldl (fun n c => 10 * n + (c.toNat - 48)) 0
    if first ≤ n && n ≤ last then some n else none

/-- The character of a name that ends with a count. -/
def countedCharacter? (name : String) : Option Nat :=
  (countedBy? "TANGUT COMPONENT-" 3 1 768 name).map (0x18800 + · - 1) <|>
    (countedBy? "VARIATION SELECTOR-" 1 17 256 name <|> countedBy? "VS" 1 17 256 name).map (0xE0100 + · - 17)

end Deminify.Text.CharName

namespace Deminify.Text

/-- The character of a name. -/
def charNamed? (name : String) : Option Nat :=
  let capitals := name.toUpper
  CharName.syllable? name <|> CharName.ideograph? name <|> CharName.numberedCharacter? capitals <|>
    CharName.countedCharacter? capitals <|> CharName.listed? CharName.aliases capitals <|>
    CharName.listed? CharName.scripts capitals <|> CharName.listed? CharName.symbols capitals <|>
    CharName.listed? CharName.pictures capitals <|> CharName.listed? CharName.ancient capitals

end Deminify.Text
