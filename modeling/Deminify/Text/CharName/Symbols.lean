/-!
# Names of symbols and of the rest of the basic plane

Entries are parted by semicolons and the ends of lines. An entry has the number of words that it
shares with the start of the one before it, the number of those that it shares with the end of that, if
there are any, and then its other words, of which the frequent ones are abbreviated; a code point stands
before it where the count leaves a gap.
-/

namespace Deminify.Text.CharName

/-- The names from `2000` to `FFFF`. -/
def symbols : String := "
@2000 0EN QUAD;01EM;0EN SPACE;01EM;01THREE-PER-EM;01FOUR-PER-EM;01SIX-PER-EM;01FIGURE;01pu;01THIN
01HAIR;01z WIDTH;2NON-JOINER;2jo;0lr ma;01rh;0hy;01NON-BREAKING;0FIGURE DASH;01EN;01EM;0h BAR
0d v ne;11lw;0f si qo ma;03r;02si LOW-9;12gv;02f d;03r;02d LOW-9;12gv;0DAGGER;01d;0bu;01tg
0on dt LEADER;02tw;0h ELLIPSIS;0HYPHENATION POINT;0ne sp;01pg;0lr EMBEDDING;01rh
0POP DIRECTIONAL FORMATTING;0lr OVERRIDE;01rh;0NARROW NO-BREAK SPACE;0PER MILLE g;11tn to;0PRIME;01d
01tp;01re;11d;11tp;0CARET;0si lf ag qo ma;13ri;01REFERENCE;01d ex;0ib;0vl;0UNDERTIE;0hc TIE
0CARET INSERTION POINT;0ASTERISM;0hy bu;0fr SLASH;0f q br w QUILL;04r;0d qu ma;01qu ex;01ex qu
0TIRONIAN g ET;0re PILCROW g;0b e bu;11i;0lw as;0re em;0CLOSE UP;0tw ASTERISKS ALIGNED ve;0oc mn g
0SWUNG DASH;0iv UNDERTIE;0FLOWER pu ma;0t dt pu;0qd PRIME;0u dt pu;02fv;02tw;0u dt ma;0de rs
0TRICOLON;0v u ot;0me am SPACE;0wo jo;0FUNCTION APPLICATION;0INVISIBLE m;1sp;1pl;@2066 0lr ISOLATE
01rh;01FIRST STRONG;01POP DIRECTIONAL;0INHIBIT SYMMETRIC SWAPPING;02ACTIVATE;0INHIBIT rb fo SHAPING
03ACTIVATE;0NATIONAL di SHAPES;02NOMINAL;0sr z;1lt s l I;@2074 1u;1fv;1sx;1se;1ei;1ni;1pl g;1mn
1eu g;1f pa;11r;1lt s l N;0ss z;1on;1tw;1t;1u;1fv;1sx;1se;1ei;1ni;1pl g;1mn;1eu g;1f pa;11r
@2090 0lt ss s l A;4E;4O;4X;4cw;4H;4K;4L;4M;4N;4P;4S;4T;@20A0 0EURO-CURRENCY g;01ol;01CRUZEIRO
01FRENCH FRANC;01LIRA;01MILL;01NAIRA;01PESETA;01RUPEE;01WON;01NEW SHEQEL;01DONG;01EURO;01KIP
01TUGRIK;01DRACHMA;01GERMAN PENNY;01PESO;01GUARANI;01AUSTRAL;01HRYVNIA;01CEDI;01LIVRE TOURNOIS
01SPESMILO;01TENGE;01INDIAN RUPEE;01TURKISH LIRA;01NORDIC ma;01MANAT;01RUBLE;01LARI;01BITCOIN;01SOM
@20D0 0co f hr a;12r;1ln v ne oy;13sh;1at ar a;12ck;12f;12r;1rn oy;12ck;12at;1t ot a;12u
1ENCLOSING ci;2q;2dm;2ci bc;1f r ar a;1ENCLOSING SCREEN;2KEYCAP;2UPWARD po ti;1rv sl oy;11d v k
1ANNUITY y;1tp UNDERDOT;1WIDE BRIDGE a;1e ar oy;11ln d sl;1i hr w ba o;14e;1f ar be;12r;1as a
@2100 0ACCOUNT OF;0ADDRESSED TO THE SUBJECT;0du c C;0DEGREE CELSIUS;0ce ne y;0CARE OF;0CADA UNA
0EULER CONSTANT;0SCRUPLE;0DEGREE FAHRENHEIT;0cp s G;1c H;02bk;02du;0PLANCK CONSTANT;2ov tw PI
0cp c I;02bk;0cp c L;11s;0L B BAR y;0du c N;0NUMERO g;0ud RECORDING COPYRIGHT;0cp c P;02du;2Q
0cp c R;02bk;02du;0PRESCRIPTION TAKE;0RESPONSE;0SERVICE ma;0el g;01TRADE ma;0VERSICLE;0du c Z
0OUNCE g;01OHM;02iv;0bk c Z;0tu ge s l io;0KELVIN g;01ANGSTROM;0cp c B;0bk c C;0ESTIMATED y;0cp s E
11c;2F;02tu;0cp c M;1s O;0al y;01BET;01gi;01DALET;0nf SOURCE;0ro c Q;0FACSIMILE g;0du s PI;2gm;11c
2PI;1N-ARY SUMMATION;0tu sn c G;3L;03re;0tu sn c Y;0du ia c D;21s;3E;3I;3J;0PROPERTY ne;0tu mr
0PER g;0AKTIESELSKAB;0tu s F;0y FOR SAMARITAN SOURCE;0VULGAR fr on SEVENTH;3NINTH;3TENTH;3THIRD
2tw THIRDS;2on FIFTH;2tw FIFTHS;21t;21u;2on SIXTH;2fv SIXTHS;2on eg;2t es;21fv;21se;0fr NUMERATOR on
01ROMAN nm;2tw;2t;2u;2fv;2sx;2se;2ei;2ni;2tn;2lv;2tv;2ff;2on hu;21fv;2on to;0s ROMAN nm on;3tw;3t;3u
3fv;3sx;3se;3ei;3ni;3tn;3lv;3tv;3ff;3on hu;31fv;3on to;0ROMAN nm on to C D;2fv to;21tn;2re on hu
0lt s l re C;0ROMAN nm sx LATE fo;21ff EARLY;3to;21on hu;0VULGAR fr z THIRDS;0tu di tw;2t
@2190 0e ar;01p;01i;01o;01f r;01UP do;01no ws;11ea;02so;11ws;0e ar w k;03i;0e wv ar;02i
01e tw HEADED;03p;03i;03o;0e ar w il;03i;0e ar fm BAR;03p;03i;03o;0UP do ar w BASE;0e ar w ho;03i
0e ar w LOOP;03i;0f r wv ar;2ar w k;0o zg ar;0p ar w TIP e;4i;0o ar w TIP e;4i;0i ar w rr o
0o ar w rr e;0at TOP SEMICIRCLE ar;03ck;0no ws ar TO ln BAR;01e ar TO BAR ov i ar TO;0at oe ci ar
03ck;0e hr w ba p;4o;0p hr w ba i;4e;0i hr w ba p;4o;0o hr w ba i;4e;0i ar ov e ar;01p ar e OF o
01e ar ov i;1PAIRED aw;02p;02i;02o;0e hr ov i hr;01i hr ov e;0e d ar w k;04f r;04i;0e d ar;02p;02i
02o;02f r;02UP do;02no ws;12ea;03so;12ws;01e tp;02i;01e qg;02i;0p ar w d k;04o;0e DASHED ar;02p;02i
02o;0e ar TO BAR;03i;0e wh ar;02p;02i;02o;0p wh ar fm BAR;3ON PEDESTAL;5w h BAR;61v;2d ar
4ON PEDESTAL;0i wh ar fm WALL;0no ws ar TO rr;03so ea;0UP do wh ar;0r ar w s ci;0o ar e OF p ar
0t i aw;0e ar w v k;04i;04f r;02e ar w d;05i;05f r;0e OPEN-HEADED ar;02i;02f r;0FOR ALL;0COMPLEMENT
0PARTIAL df;0THERE EXISTS;1DOES NOT EXIST;0EMPTY SET;0INCREMENT;0NABLA;0ELEMENT OF;02NOT AN;02s
0CONTAINS AS MEMBER;02DOES NOT CONTAIN;02s CONTAINS;0END OF PROOF;0N-ARY pd;1COPRODUCT;1SUMMATION
0mn g;01MINUS-OR-PLUS;0dt pl;0dv SLASH;0SET mn;0as op;01rn;01bu;0q ROOT;01CUBE;01FOURTH
0PROPORTIONAL TO;0iy;0r ag;01;01MEASURED;01SPHERICAL;0DIVIDES;0DOES NOT DIVIDE;0rl TO;02NOT;0lc n
1OR;0it;0ui;0ir;01d;01tp;01CONTOUR;01SURFACE;01VOLUME;01ck;11CONTOUR;02at;0THEREFORE;0BECAUSE;0RATIO
0PROPORTION;0dt mn;0EXCESS;0GEOMETRIC PROPORTION;0HOMOTHETIC;0tl op;0re tl;0iv LAZY S;0SINE wv
0WREATH pd;0NOT tl;01mn;0ASYMPTOTICALLY eq TO;03NOT;02ax;12BUT NOT ACTUALLY;03NEITHER ax NOR;02ls
03NOT;02ls eq OR;0tp tl;0ALL eq TO;01qi;02GEOMETRICALLY;0DIFFERENCE bt;0APPROACHES THE LIMIT
0GEOMETRICALLY eq TO;0ax eq TO OR THE IMAGE OF;0IMAGE OF OR ax eq TO;0ol eu;0eu ol;0rn IN eq TO;12
01CORRESPONDS;0ESTIMATES;0EQUIANGULAR TO;0STAR eu;0et eq TO;0eq TO BY DEFINITION;0MEASURED BY
0QUESTIONED eq TO;02NOT;01IDENTICAL;02NOT;01STRICTLY qi;01le OR eq;03gr;02le ov;03gr;02le BUT NOT
04gr;0MUCH le;1gr;0bt;0NOT qi TO;1le;1gr;0NEITHER le NOR eq TO;13gr;01le OR qi;03gr;02NEITHER le NOR
13gr;0le OR gr;0gr OR le;0NEITHER le NOR gr;1gr NOR le;0pc;0sd;0pc OR eq TO;03sd;01pc OR qi;03sd
0DOES NOT PRECEDE;2SUCCEED;0sb OF;01su;01NOT A sb;21su;0sb OF OR eq TO;04su;02NEITHER A sb OF NOR
24su;02sb OF w NOT;05su;0MULTISET;1mu;1ui;0q IMAGE OF;11ORIGINAL;1IMAGE OF OR eq TO;14ORIGINAL;1CAP
1CUP;0cr pl;1mn;1m;1dv SLASH;1dt op;11rn;11as;1eu;1DASH;0sq pl;1mn;1m;1dt op;0r tc;01f;01do;01UP
0ASSERTION;0MODELS;0TRUE;0FORCES;0tp v BAR r TURNSTILE;02d v BAR d;0DOES NOT PROVE;0NOT TRUE
0DOES NOT FORCE;0NEGATED d v BAR d r TURNSTILE;0pc UNDER RELATION;02sd;0nr ub OF;0CONTAINS AS nr ub
0nr ub OF OR eq TO;03CONTAINS AS nr ub;0ORIGINAL OF;01IMAGE;0MULTIMAP;0HERMITIAN CONJUGATE MATRIX
0INTERCALATE;0XOR;0NAND;0NOR;0r ag w ARC;1ti;0N-ARY lc n;2OR;1it;1ui;0dm op;01dt;01STAR;0dv m
0BOWTIE;0f nr FACTOR SEMIDIRECT pd;04r;02f;02r;0re tl eu;0cu lc OR;2n;0d sb;1su;1it;1ui;0PITCHFORK
0eq n rl TO;0le w dt;02gr;0vy MUCH le;2gr;01le eq TO OR;0gr eq TO OR le;04;3gr;3pc;3sd
0DOES NOT PRECEDE OR eq;22SUCCEED;0NOT q IMAGE OF OR eq TO;24ORIGINAL;02q IMAGE OF OR NOT;15ORIGINAL
01le BUT NOT qi;04gr;04pc;04sd;0NOT nr ub OF;0DOES NOT CONTAIN AS nr ub;0NOT nr ub OF OR eq TO
0DOES NOT CONTAIN AS nr ub OR eq;0v ELLIPSIS;01MIDLINE h;01UP r dg;03do;0ELEMENT OF w ln h k
32v BAR AT END OF;09s ELEMENT;0ELEMENT OF w dt a;3ob;04s;0ELEMENT OF w un;3tw h STROKES
0CONTAINS w ln h k;22v BAR AT END OF;09s;0CONTAINS w ob;03s;0Z NOTATION BAG MEMBERSHIP;0DIAMETER g
0ELECTRIC ar;0HOUSE;0UP ao;01do;0PROJECTIVE;0PERSPECTIVE;0wy ne;0f CEILING;01r;0f FLOOR;01r
0bo r CROP;11f;01TOP r;11f;0re NOT g;0q lz;0ARC;0SEGMENT;0SECTOR;0el RECORDER;0POSITION ic
0VIEWDATA q;0PLACE OF INTEREST g;01tu NOT;0WATCH;0HOURGLASS;0TOP f rr;11r;01bo f;11r;0TOP hl ir;02bo
0FROWN;0SMILE;0UP ao bt tw h BARS;0OPTION KEY;0ERASE TO THE r;0X IN A RECTANGLE bx;0kb;0lf ag br
02ri;0ERASE TO THE f;0BENZENE rn;0CYLINDRICITY;0ALL AROUND-PROFILE;0SYMMETRY;0TOTAL RUNOUT
0DIMENSION ORIGIN;0CONICAL TAPER;0SLOPE;0COUNTERBORE;0COUNTERSINK;0APL FUNCTIONAL y I-BEAM
3SQUISH QUAD;3QUAD eq;4DIVIDE;4dm;4JOT;4ci;3ci STILE;4JOT;3SLASH BAR;31bc;3QUAD SLASH;4bc;4le;4gr
3e VANE;31i;3QUAD e ar;41i;3ci bc;3do tc un;3et STILE;3QUAD do CARET;4et;3do tc JOT;3p VANE
3QUAD p ar;3UP tc ob;3DEL STILE;3QUAD UP CARET;4DEL;3UP tc JOT;3o VANE;3QUAD o ar;3QUOTE un;31et
31dm;31JOT;31ci;3UP SHOE JOT;3QUOTE QUAD;3ci STAR;3QUAD ol;3UP tc da;31DEL;31STAR;31JOT;31ci
3do SHOE STILE;32f;3tl da;31gr;3om BAR;3DEL tl;3ZILDE;3STILE tl;3em un;3QUAD NOT eq;4qu;3do CARET tl
32UP;3io;3RHO;3og;3ap un;31ep;31io;31og;3ap;0NOT hk ma;0r ag w o zg ar;0SHOULDERED oe bx;0BELL y
0v ne w mi dt;0INSERTION y;01CONTINUOUS UNDERLINE;02DISCONTINUOUS;01EMPHASIS;01COMPOSITION
0wh q w ce v ne;0ENTER y;01ALTERNATIVE KEY;01HELM;0cr h BAR w NOTCH;1ti do;0BROKEN ci w NORTHWEST ar
0UNDO y;01MONOSTABLE;01HYSTERESIS;01OPEN-CIRCUIT-OUTPUT H-TYPE;11L-TYPE;01PASSIVE-PULL-DOWN-OUTPUT
01PASSIVE-PULL-UP-OUTPUT;0DIRECT CURRENT y fo tw;0SOFTWARE-FUNCTION y;0APL FUNCTIONAL y QUAD
0DECIMAL sp KEY y;0PREVIOUS PAGE;01NEXT;0PRINT SCREEN y;02CLEAR;0f pa up ho;2eo;2lo ho;01r pa up;2eo
2lo ho;0f q br up rr;3eo;3lo rr;01r q br up;3eo;3lo rr;0f cu br up ho;3mi PIECE;3lo ho;0cu br eo
0r cu br up ho;3mi PIECE;3lo ho;0ir eo;01h ne;0up f OR lo r cu br sc;13r OR lo f;0SUMMATION TOP;1bo
0TOP q br;02bo;3ov TOP q br;0RADICAL y bo;0f v bx ne;03r;0h SCAN LINE-1;2LINE-3;2LINE-7;2LINE-9
0DENTISTRY y li v n TOP r;51bo;4w ci;32do n h;34UP;3v w ti;32do n h;34UP;3v n wv;31do n h w;34UP
3do n h;32UP;3v n TOP f;51bo;0q FOOT;0RETURN y;01EJECT;0v ne eo;0METRICAL bv;1ln ov sh;1sh ov ln
1ln ov tw SHORTS;1tw SHORTS ov ln;3jn;1TRISEME;1TETRASEME;1PENTASEME;0EARTH GROUND;0FUSE;0TOP pa
01bo;0TOP cu br;02bo;01TOP ts SHELL;03bo;0wh TRAPEZIUM;0BENZENE rn w ci;0STRAIGHTNESS;0FLATNESS
0AC CURRENT;0ELECTRICAL it;0DECIMAL EXPONENT y;0b ri d ti;12lf;12uo;12dw;1ri d ti w v BAR;15lf
12ri ti w d;0ALARM CLOCK;0STOPWATCH;0TIMER CLOCK;0HOURGLASS w FLOWING SAND;0b me lf ti;21ri;21uo
21dw;0d v BAR;0b q FOR STOP;1ci FOR RECORD;0POWER y;11ON-OFF;11ON;11SLEEP;01OBSERVER EYE;0y FOR NULL
2START OF HEADING;4tx;22END;4TRANSMISSION;2ENQUIRY;2ACKNOWLEDGE;2BELL;2BACKSPACE;2h TABULATION
2ne FEED;2v TABULATION;2fo FEED;2CARRIAGE RETURN;2SHIFT OUT;3IN;2DATA LINK ESCAPE;2DEVICE CONTROL on
4tw;4t;4u;2ng ACKNOWLEDGE;2SYNCHRONOUS IDLE;2END OF TRANSMISSION bl;2CANCEL;2END OF me;2SUBSTITUTE
2ESCAPE;2FILE sp;21GROUP;21RECORD;21UNIT;2SPACE;2DELETE;0BLANK y;0oe bx;0y FOR NEWLINE;2DELETE fo tw
22SUBSTITUTE;@2440 0OCR ho;1CHAIR;1FORK;11iv;1BELT BUCKLE;1BOW TIE;1BRANCH BANK tf;1AMOUNT OF hk
1DASH;1CUSTOMER ACCOUNT nu;1d bc;@2460 0cr di on;2tw;2t;2u;2fv;2sx;2se;2ei;2ni;1nu tn;2lv;2tv
2THIRTEEN;2fe;2FIFTEEN;2xt;2ev;2ih;2NINETEEN;2te;0pz di on;2tw;2t;2u;2fv;2sx;2se;2ei;2ni;1nu tn;2lv
2tv;2THIRTEEN;2fe;2FIFTEEN;2xt;2ev;2ih;2NINETEEN;2te;0di on fu STOP;12tw;12t;12u;12fv;12sx;12se;12ei
12ni;02nu tn;12lv;12tv;12THIRTEEN;12fe;12FIFTEEN;12xt;12ev;12ih;12NINETEEN;12te;0pz lt s l A;4B;4C
4D;4E;4F;4G;4H;4I;4J;4K;4L;4M;4N;4O;4P;4Q;4R;4S;4T;4U;4V;4W;4X;4Y;4Z;0cr lt c l A;4B;4C;4D;4E;4F;4G
4H;4I;4J;4K;4L;4M;4N;4O;4P;4Q;4R;4S;4T;4U;4V;4W;4X;4Y;4Z;2s l A;4B;4C;4D;4E;4F;4G;4H;4I;4J;4K;4L;4M
4N;4O;4P;4Q;4R;4S;4T;4U;4V;4W;4X;4Y;4Z;1di z;0ng cr nu lv;3tv;3THIRTEEN;3fe;3FIFTEEN;3xt;3ev;3ih
3NINETEEN;3te;0d cr di on;3tw;3t;3u;3fv;3sx;3se;3ei;3ni;2nu tn;0ng cr di z;0bx DRAWINGS li h;21he
2li v;21he;2li tp DASH h;23he;2li tp DASH v;23he;2li qd DASH h;23he;2li qd DASH v;23he;2li do n r
2do li n r he;3he n r li;2he do n r;2li do n f;2do li n f he;3he n f li;2he do n f;2li UP n r
2UP li n r he;3he n r li;2he UP n r;2li UP n f;2UP li n f he;3he n f li;2he UP n f;2li v n r
2v li n r he;2UP he n r do li;21do he n r UP;21v he n r;2do li n r UP he;21UP li n r do;2he v n r
2li v n f;2v li n f he;2UP he n f do li;21do he n f UP;21v he n f;2do li n f UP he;21UP li n f do
2he v n f;2li do n h;2f he n r do li;22r he n f;2do li n h he;3he n h li;2r li n f do he;22f li n r
2he do n h;22li UP;2f he n r UP li;22r he n f;2UP li n h he;3he n h li;2r li n f UP he;22f li n r
2he UP n h;22li v;2f he n r v li;22r he n f;2v li n h he;2UP he n do h li;22do he n UP;22v he n
21f UP he n r do;22r UP he n f;21f do he n r UP;22r do he n f;2do li n UP h he;22UP li n do
21r li n f v;22f li n r;2he v n h;21li d DASH;23he;2li d DASH v;23he;2d h;3v;2do si n r d;3d n r si
2d do n r;2do si n f d;3d n f si;2d do n f;2UP si n r d;3d n r si;2d UP n r;2UP si n f d;3d n f si
2d UP n f;2v si n r d;3d n r si;2d v n r;2v si n f d;3d n f si;2d v n f;2do si n h d;3d n h si
2d do n h;2UP si n h d;3d n h si;2d UP n h;2v si n h d;3d n h si;2d v n h;2li ARC do n r;6f;42UP;6r
3dg up r TO lo f;5f TO lo r;4rs;3f;3UP;3r;3do;2he f;3UP;3r;3do;2li f n he r;3UP n he do;2he f n li r
3UP n li do;0up hl bl;01lo on eg;21qa;11t es;11hl;11fv es;11t qr;11se es;01fu;01f se es;11t qr
11fv es;11hl;11t es;11on qa;21eg;01r hl;0li SHADE;01me;01DARK;0up on eg bl;03r;0qn lo f;2r;1up f
3n lo f n lo r;51;4up r n lo f;8r;21;3n lo f;6n lo r;0b q;01wh;2w ou CORNERS;2cg b s q;0q w h FILL
21v;21ORTHOGONAL CROSSHATCH;21up f TO lo r;31r TO lo f;21dg CROSSHATCH;0b s q;02wh;0b RECTANGLE;01wh
01b v;02wh;0b PARALLELOGRAM;01wh;0b uo ti;02wh;01b uo s;03wh;01b ri;02wh;01b ri s;03wh;0b ri POINTER
02wh;0b dw ti;02wh;01b dw s;03wh;01b lf;02wh;01b lf s;03wh;0b lf POINTER;02wh;0b dm;01wh;2cg b s dm
0FISHEYE;0lz;0wh ci;01de;0ci w v FILL;0BULLSEYE;0b ci;0ci w f hl b;22r;22lo;22up;31r qn
22ALL BUT up f;0f hl b ci;03r;0vs bu;1wh ci;03up hl;04lo;0up f qn CIRCULAR ARC;13r;04lo;13f
0up hl ci;02lo;0b lo r ti;21f;12up;21r;0wh bu;0q w f hl b;22r;22up f dg;23lo r
0wh q w v BISECTING ne;1uo ti w dt;0uo ti w f hl b;32r;0la ci;0wh q w up f qn;32lo;41r;32up
11ci w up f;32lo;41r;32up;0up f ti;11r;01lo f;0wh me q;02b;01wh me s;03b;0lo r ti;0b SUN w RAYS
0CLOUD;0mb;0SNOWMAN;0COMET;0b STAR;01wh;0LIGHTNING;0THUNDERSTORM;0SUN;0ASCENDING NODE;01DESCENDING
0CONJUNCTION;0OPPOSITION;0b el;01wh;0BALLOT bx;2w hk;3X;0SALTIRE;0mb w RAIN DROPS;0HOT BEVERAGE
0wh SHOGI PIECE;02b;0SHAMROCK;0re ro FLORAL er bu;0b f po id;12r;02wh f;12UP;12r;12do
0SKULL n CROSSBONES;0CAUTION g;01RADIOACTIVE;01BIOHAZARD;0CADUCEUS;0ANKH;0ORTHODOX rs;0CHI RHO
0rs OF LORRAINE;2JERUSALEM;0STAR n CRESCENT;0FARSI y;0ADI SHAKTI;0HAMMER n SICKLE;0PEACE y;0YIN yn
0TRIGRAM FOR HEAVEN;2LAKE;2FIRE;2THUNDER;2wd;2wt;2ut;2EARTH;0WHEEL OF DHARMA;0wh ow fa;11sg;02b
0wh SUN w RAYS;0FIRST qa MOON;02LAST;0MERCURY;0FEMALE g;0EARTH;0MALE g;0JUPITER;0SATURN;0URANUS
0NEPTUNE;0PLUTO;0ARIES;0TAURUS;0GEMINI;0CANCER;0LEO;0VIRGO;0LIBRA;0SCORPIUS;0SAGITTARIUS;0CAPRICORN
0AQUARIUS;0PISCES;0wh hs kg;2qe;2ROOK;2bi;2kn;2wn;0b hs kg;2qe;2ROOK;2bi;2kn;2wn;1SPADE SUIT;01wh er
11dm;01b CLUB;01wh SPADE;01b er;11dm;01wh CLUB;0HOT SPRINGS;0qa NOTE;01eg;0BEAMED eg NOTES;11xe
0MUSIC FLAT g;11NATURAL;11SHARP;0ws SYRIAC rs;02ea;0UNIVERSAL RECYCLING y
0RECYCLING y FOR TYPE-1 PLASTICS;31TYPE-2;31TYPE-3;31TYPE-4;31TYPE-5;31TYPE-6;31TYPE-7
3GENERIC MATERIALS;0b UNIVERSAL RECYCLING y;01RECYCLED PAPER;02PARTIALLY-RECYCLED;0PERMANENT PAPER g
0WHEELCHAIR y;0DIE FACE-1;1FACE-2;1FACE-3;1FACE-4;1FACE-5;1FACE-6;0wh ci w dt r;3tw ot
0b ci w wh dt r;3tw wh ot;0mg FOR yn;2YIN;0DIGRAM FOR GREATER yn;2LESSER YIN;3yn;2GREATER YIN
0wh FLAG;01b;0HAMMER n PICK;0ANCHOR;0od SWORDS;0STAFF OF AESCULAPIUS;0SCALES;0ALEMBIC;0FLOWER;0GEAR
0STAFF OF HERMES;0ATOM y;0FLEUR-DE-LIS;0ul wh STAR;0t LINES CONVERGING r;3f;0WARNING g;01hi VOLTAGE
01DOUBLED FEMALE;11MALE;02INTERLOCKED FEMALE n;01MALE n FEMALE;11w k;31n MALE n FEMALE;01v MALE w k
04h;0me wh ci;11b;11s wh;0MARRIAGE y;01DIVORCE;01UNMARRIED PARTNERSHIP;0COFFIN;0FUNERAL URN;0NEUTER
0CERES;0PALLAS;0JUNO;0VESTA;0CHIRON;0b MOON LILITH;0SEXTILE;0SEMISEXTILE;0QUINCUNX;0SESQUIQUADRATE
0SOCCER BALL;0BASEBALL;0sq KEY;0wh DRAUGHTS MAN;2kg;0b DRAUGHTS MAN;2kg;0SNOWMAN wu SNOW
0SUN BEHIND CLOUD;0RAIN;0b SNOWMAN;0THUNDER CLOUD n RAIN;0tu wh SHOGI PIECE;12b;0wh dm IN q
0cs LANES;0DISABLED CAR;0OPHIUCHUS;0PICK;0CAR SLIDING;0HELMET w wh rs;0cr cs LANES;0CHAINS;0NO ENTRY
0aa ONE-WAY f WAY TRAFFIC;03b TWO-WAY;04wh;0b f LANE MERGE;03wh;0DRIVE SLOW g;0he wh dw ti
0f cl ENTRY;0sq SALTIRE;0fl dg IN wh ci IN b q;0b TRUCK;0RESTRICTED f ENTRY-1;2ENTRY-2
0ASTRONOMICAL y FOR URANUS;0he ci w k n tw ot a;0PENTAGRAM;01RIGHT-HANDED INTERLACED;02LEFT-HANDED
01iv;0b rs ON SHIELD;0SHINTO SHRINE;0CHURCH;0CASTLE;0HISTORIC SITE;0GEAR wu HUB;1w HANDLES
0MAP y FOR LIGHTHOUSE;0ut;0mb ON GROUND;0FOUNTAIN;0FLAG IN HOLE;0FERRY;0SAILBOAT;0q u CORNERS;0SKIER
0ICE SKATE;0pn w BALL;0TENT;0ja BANK y;01HEADSTONE GRAVEYARD;0FUEL PUMP;0CUP ON b q
0wh FLAG w h mi b STRIPE;0b SAFETY SCISSORS;01up BLADE;01b;01lo BLADE;01wh;1he hk ma;0el LOCATION g
0TAPE DRIVE;0AIRPLANE;0nv;0ra FIST;1nd;01VICTORY;01WRITING;0lo r PENCIL;01;01up r;0wh NIB;01b;0hk ma
02he;0mu X;02he;01BALLOT;02he;0ul ge rs;02he;01oe ce;03he;01lt;02hw wh;02ul;01MALTESE;0STAR OF DAVID
0u tk as;11bp;03he;01u CLUB-SPOKED;0b u pi STAR;03wh;0SPARKLES;0STRESS ul wh STAR;02cr;01oe ce b
01b ce wh;01ul b;03he;01pw;01hw wh;0he as;01oe ce;01ei SPOKED;1pi b STAR;21pw;01sx pi b
02ei pi RECTILINEAR;05he;02tv pi;0xt pi as;01tk;02oe ce;02he;0sx PETALLED b n wh FLORETTE;01b;01wh
01ei PETALLED ul b;0cr oe ce ei pi STAR;0he tk pw as;0SNOWFLAKE;01TIGHT TRIFOLIATE;01he CHEVRON
0SPARKLE;01he;0bp as;01ei tk PROPELLER;04he;0rs ma;0hw wh ci;0ng sq rs ma;0lo r DROP-SHADOWED wh q
04up;02lo r hw;04up;0b qu ma oa;03wh;12ex;0b dm mn wh X;0he ex ma y;0li v BAR;02me;02he
1si tu om qo ma oa;24;14d tu;24;14lw si;24d;01uv STEM pg g;01he ex ma;13er;1b er;0ro he b er bu
0FLORAL er;0ro FLORAL er bu;0me f pa oa;12r;12FLATTENED f;22r;11lf ag br;13ri;01he lf ag qo ma;14ri
11lf ag br;13ri;02li f ts SHELL;14r;02me f cu;13r;0DINGBAT ng cr di on;4tw;4t;4u;4fv;4sx;4se;4ei;4ni
3nu tn;1cr sn di on;4tw;4t;4u;4fv;4sx;4se;4ei;4ni;3nu tn;1ng cr sn di on;5tw;5t;5u;5fv;5sx;5se;5ei
5ni;4nu tn;0he WIDE-HEADED i ar;1pl g;11mn;11dv;1so ea ar;11i;11no ea;01DRAFTING POINT i
02he ROUND-TIPPED;02tr;03he;03DASHED;04he;02b;0THREE-D gd i ao;12BOTTOM-LIGHTED;02b
0he b uv o n i ar;33p;02SQUAT b;03he CONCAVE-POINTED;02RIGHT-SHADED wh;03fd;03BACK-TILTED hw
04FRONT-TILTED;03he lo iw;14up;04oh lo;0cu LOOP;0oh up iw wh i ar;03cr he;02WHITE-FEATHERED
01af so ea;11i;11no ea;02he af so;21i;21no ea;01TEARDROP-BARBED i;02he TEARDROP-SHANKED
02WEDGE-TAILED;03he;02OPEN-OUTLINED;0d cu LOOP;0t DIMENSIONAL ag;0wh ti cg s wh ti;0PERPENDICULAR
0oe sb;1su;0f S-SHAPED BAG DELIMITER;03r;0OR w dt ns;0rv sl PRECEDING sb;0su PRECEDING sl
0v BAR w h k;0am rg dg;0ln dv;0am fl dg;0sq lc n;2OR;0wh dm w CENTRED dt;01n w;0ELEMENT OF OPENING p
0lo r rr w dt;03up f;0f OUTER JOIN;02r;02fu;0la UP tc;11do;0f n r d TURNSTILE;3tc;1MULTIMAP;0ln r tc
11f;0UP tc w ci a;0lz DIVIDED BY h RULE;0wh CONCAVE-SIDED dm;3w e TICK;41i;11q w e;31i;0am f wh q br
13r;11f ag;12r;12f d;13r;11f wh ts SHELL;14r;1f FLATTENED pa;12r;0p qd ar;02o;01at GAPPED ci;03ck
0r ar w cr pl;0ln e ar;11i;11f r;11e d;12i;12f r;1e ar fm BAR;13i;13e d;14i;2qg ar
0BRAILLE PATTERN BLANK;2DOTS-1;2DOTS-2;2DOTS-12;2DOTS-3;2DOTS-13;2DOTS-23;2DOTS-123;2DOTS-4;2DOTS-14
2DOTS-24;2DOTS-124;2DOTS-34;2DOTS-134;2DOTS-234;2DOTS-1234;2DOTS-5;2DOTS-15;2DOTS-25;2DOTS-125
2DOTS-35;2DOTS-135;2DOTS-235;2DOTS-1235;2DOTS-45;2DOTS-145;2DOTS-245;2DOTS-1245;2DOTS-345;2DOTS-1345
2DOTS-2345;2DOTS-12345;2DOTS-6;2DOTS-16;2DOTS-26;2DOTS-126;2DOTS-36;2DOTS-136;2DOTS-236;2DOTS-1236
2DOTS-46;2DOTS-146;2DOTS-246;2DOTS-1246;2DOTS-346;2DOTS-1346;2DOTS-2346;2DOTS-12346;2DOTS-56
2DOTS-156;2DOTS-256;2DOTS-1256;2DOTS-356;2DOTS-1356;2DOTS-2356;2DOTS-12356;2DOTS-456;2DOTS-1456
2DOTS-2456;2DOTS-12456;2DOTS-3456;2DOTS-13456;2DOTS-23456;2DOTS-123456;2DOTS-7;2DOTS-17;2DOTS-27
2DOTS-127;2DOTS-37;2DOTS-137;2DOTS-237;2DOTS-1237;2DOTS-47;2DOTS-147;2DOTS-247;2DOTS-1247;2DOTS-347
2DOTS-1347;2DOTS-2347;2DOTS-12347;2DOTS-57;2DOTS-157;2DOTS-257;2DOTS-1257;2DOTS-357;2DOTS-1357
2DOTS-2357;2DOTS-12357;2DOTS-457;2DOTS-1457;2DOTS-2457;2DOTS-12457;2DOTS-3457;2DOTS-13457
2DOTS-23457;2DOTS-123457;2DOTS-67;2DOTS-167;2DOTS-267;2DOTS-1267;2DOTS-367;2DOTS-1367;2DOTS-2367
2DOTS-12367;2DOTS-467;2DOTS-1467;2DOTS-2467;2DOTS-12467;2DOTS-3467;2DOTS-13467;2DOTS-23467
2DOTS-123467;2DOTS-567;2DOTS-1567;2DOTS-2567;2DOTS-12567;2DOTS-3567;2DOTS-13567;2DOTS-23567
2DOTS-123567;2DOTS-4567;2DOTS-14567;2DOTS-24567;2DOTS-124567;2DOTS-34567;2DOTS-134567;2DOTS-234567
2DOTS-1234567;2DOTS-8;2DOTS-18;2DOTS-28;2DOTS-128;2DOTS-38;2DOTS-138;2DOTS-238;2DOTS-1238;2DOTS-48
2DOTS-148;2DOTS-248;2DOTS-1248;2DOTS-348;2DOTS-1348;2DOTS-2348;2DOTS-12348;2DOTS-58;2DOTS-158
2DOTS-258;2DOTS-1258;2DOTS-358;2DOTS-1358;2DOTS-2358;2DOTS-12358;2DOTS-458;2DOTS-1458;2DOTS-2458
2DOTS-12458;2DOTS-3458;2DOTS-13458;2DOTS-23458;2DOTS-123458;2DOTS-68;2DOTS-168;2DOTS-268;2DOTS-1268
2DOTS-368;2DOTS-1368;2DOTS-2368;2DOTS-12368;2DOTS-468;2DOTS-1468;2DOTS-2468;2DOTS-12468;2DOTS-3468
2DOTS-13468;2DOTS-23468;2DOTS-123468;2DOTS-568;2DOTS-1568;2DOTS-2568;2DOTS-12568;2DOTS-3568
2DOTS-13568;2DOTS-23568;2DOTS-123568;2DOTS-4568;2DOTS-14568;2DOTS-24568;2DOTS-124568;2DOTS-34568
2DOTS-134568;2DOTS-234568;2DOTS-1234568;2DOTS-78;2DOTS-178;2DOTS-278;2DOTS-1278;2DOTS-378;2DOTS-1378
2DOTS-2378;2DOTS-12378;2DOTS-478;2DOTS-1478;2DOTS-2478;2DOTS-12478;2DOTS-3478;2DOTS-13478
2DOTS-23478;2DOTS-123478;2DOTS-578;2DOTS-1578;2DOTS-2578;2DOTS-12578;2DOTS-3578;2DOTS-13578
2DOTS-23578;2DOTS-123578;2DOTS-4578;2DOTS-14578;2DOTS-24578;2DOTS-124578;2DOTS-34578;2DOTS-134578
2DOTS-234578;2DOTS-1234578;2DOTS-678;2DOTS-1678;2DOTS-2678;2DOTS-12678;2DOTS-3678;2DOTS-13678
2DOTS-23678;2DOTS-123678;2DOTS-4678;2DOTS-14678;2DOTS-24678;2DOTS-124678;2DOTS-34678;2DOTS-134678
2DOTS-234678;2DOTS-1234678;2DOTS-5678;2DOTS-15678;2DOTS-25678;2DOTS-125678;2DOTS-35678;2DOTS-135678
2DOTS-235678;2DOTS-1235678;2DOTS-45678;2DOTS-145678;2DOTS-245678;2DOTS-1245678;2DOTS-345678
2DOTS-1345678;2DOTS-2345678;2DOTS-12345678;0i td ar w v k;42d;02e d ar w;05i;05f r;0i td ar fm BAR
03e d;04i;0o ar w h k;04p;1tp ar;02o;01e d DASH;03i;02e tp;03i;13td;1ar w de STEM;0p ar TO BAR;03o
0i ar w il w v k;52d;1td ar w il;5w v k;62d;0e ARROW-TAIL;01i;01e d;02i;0e ar TO b dm;04i
03e ar fm BAR;06i;0no ws n so ea ar;11ea n so ws;1ws ar w ho;13ea;04so;13ws;0no ws ar n no ea ar
12ea ar n so;01so ea ar n so ws;12ws ar n no;0rg dg cs fl dg;01fl dg cs rg;0so ea ar cs no ea ar
02no ea ar cs so;02fl dg cs no;02rg dg cs so;01no ea ar cs no ws;11ws ar cs no ea
0wv ar po DIRECTLY r;0ar po i THEN CURVING p;5o;2o THEN CURVING e;5i;0RIGHT-SIDE ARC ck ar
01LEFT-SIDE ARC at;03TOP;03bo;0TOP ARC ck ar w mn;2at ar w pl;0lo r SEMICIRCULAR ck ar
11f SEMICIRCULAR at;01at cl ci;03ck;01i ar a sh e;01e ar a sh i;01sh i ar a e;0i ar w pl be;04e
0i ar ru X;0f r ar ru s ci;02p td ar fm;0f ba UP r ba do hr;21do r ba UP;01UP ba r do ba f
21f do ba r;01f ba UP r ba UP;01UP ba r do ba r;01f ba do r ba do;01UP ba f do ba f
0e hr w ba UP TO BAR;06i;02p hr w ba r;06o;02e hr w ba do;06i;02p hr w ba f;06o;01e hr w ba UP fm
06i;02p hr w ba r;06o;02e hr w ba do;06i;02p hr w ba f;06o;0e hr w ba UP a e hr w ba do
0p hr w ba f bs p hr w ba r;0i hr w ba UP a i hr w ba do;0o hr w ba f bs o hr w ba r
0e hr w ba UP a i hr w ba UP;4do a i hr w ba do;0i hr w ba UP a e hr w ba UP;4do a e hr w ba do
0e hr w ba UP a ln DASH;42do be;02i hr w ba UP a;42do be;0p hr w ba f bs o hr w ba r
04o hr w ba f bs p;0r d ar w ou HEAD;0eu g a i ar;03tl op;0e ar a tl op;04i;3ls eq TO;0le a e ar
0e ar ru le;0gr a i ar;03sb;0e ar ru sb;0su a e ar;0f FISH il;02r;02UP;02do;0tp v BAR DELIMITER
0Z NOTATION SPOT;2TYPE ol;0f wh cu br;03r;0f wh pa;02r;0Z NOTATION f IMAGE br;22r;21f BINDING;22r
0f q br w un;04r;0f q br w TICK IN TOP rr;01r q br w TICK IN bo;07f;01r q br w TICK IN TOP
0f ag br w dt;04r;0f ARC le br;01r ARC gr;03d f;11r ARC le;01f b ts SHELL;04r;0de FENCE;0v zg ne
0MEASURED ag OPENING f;0r ag vn w q;0MEASURED r ag w dt;0ag w S ns;0ac ag;0SPHERICAL ag OPENING f
3UP;0tu ag;01re;0ag w un;03re;0oq ag OPENING UP;3do;0MEASURED ag w oe ARM ENDING IN ar po UP n r
9UP n f;9do n r;9do n f;9r n UP;92f;9r n do;92f;0re EMPTY SET;0EMPTY SET w ob;3s ci a;31r ar;32f
0ci w h BAR;01cr v;1rl;1rv sl;1PERPENDICULAR;0ci DIVIDED BY h BAR n TOP hl DIVIDED BY v BAR
1w SUPERIMPOSED X;0cr ANTICLOCKWISE-ROTATED dv g;0UP ar ru ci;0cr wh bu;11;1le;1gr
0ci w s ci TO THE r;23tw h STROKES;0sq rg dg SLASH;12fl;1as;1s ci;1q;0tw jn SQUARES;0ti w dt a;2un
0S IN ti;0ti w SERIFS AT bo;0r ti a f ti;0f ti bs v BAR;0v BAR bs r ti;0BOWTIE w f hl b;22r
0b BOWTIE;0m w f hl b;22r;0wh HOURGLASS;01b;0f WIGGLY FENCE;02r;02f d;03r;0INCOMPLETE iy;01TIE ov
0iy NEGATED w v BAR;0DOUBLE-ENDED MULTIMAP;0q w CONTOURED OUTLINE;0INCREASES AS;0SHUFFLE pd
0eu g n sa rl;5w tl a;0IDENTICAL TO n sa rl;0GLEICH STARK;0THERMODYNAMIC;0dw ti w f hl b;32r
0b dm w do ar;1lz;0wh ci w do ar;04b;0ERROR-BARRED wh q;11b;1wh dm;11b;1wh ci;11b;0RULE-DELAYED
0rv sl op;0sl w ob;0rv sl w h k;0BIG sl;11rv;0d pl;01tp;0lf uv ag br;03ri;0TINY;0MINY
0N-ARY cr dt op;21pl;21m;1ui op w dt;4pl;1q it op;21ui;01tw lc n;21OR;01N-ARY m;0MODULO tw SUM
0SUMMATION w ir;0qd ir op;0FINITE PART ir;0ir w d k;1AVERAGE w SLASH;0CIRCULATION FUNCTION
0at INTEGRATION;0ne INTEGRATION w RECTANGULAR PATH AROUND POLE;33SEMICIRCULAR;21NOT INCLUDING THE
0ir AROUND A POINT op;01QUATERNION ir;0ir w e ar w ho;2m g;2it;2ui;2ob;2un;0JOIN;0la f ti op
0Z NOTATION SCHEMA COMPOSITION;3PIPING;3PROJECTION;0pl g w s ci a;31x cc;31tl;3dt be;31tl;3ss tw
3b ti;0mn g w om a;3dt be;3fl ot;31rg;0pl g IN f hl ci;32r;0VECTOR OR rs pd;0mu g w dt a;3un
0SEMIDIRECT pd w bo cl;0SMASH pd;0mu g IN f hl ci;32r;0cr mu g w x cc;0mu g IN d ci;0cr dv g
0pl g IN ti;03mn;03mu;0INTERIOR pd;02RIGHTHAND;0Z NOTATION RELATIONAL COMPOSITION
0AMALGAMATION OR COPRODUCT;0it w dt;0ui w mn g;2ob;02it;2lc n;0ui w lc OR;1a it;0it a ui
0ui a BAR a it;0it a BAR a ui;01ui bs n jn w;0it bs n jn w it;0cl ui w SERIFS;12it;0d q it;2ui
0cl ui w SERIFS n SMASH pd;0lc n w dt a;13OR;0d lc n;2OR;0tw INTERSECTING lc n;3OR;01SLOPING la;2n
01lc OR vp lc;1n w mi STEM;13OR;1n w h DASH;13OR;1n w d ob;3un;31d;01s VEE w;0lc OR w d ob;4un
0Z NOTATION DOMAIN ANTIRESTRICTION;21RANGE;0eu g w dt be;0IDENTICAL w dt a;0tp h BAR w d v k;42tp
0tl op w dt a;3rg ot;0SIMILAR mn SIMILAR;0CONGRUENT w dt a;0eu w as;0ls eq TO w x cc;0ax eq OR eq TO
0eu g a pl g;01pl g a eu;0eu g a tl op;0d ol eq;0tw CONSECUTIVE eu SIGNS;03t
0eu g w tw ot a n tw ot be;0qi w u ot a;0le w ci ns;03gr;0le w qu ma a;04gr;0le OR sa eq TO;04gr
0le OR sa eq TO w dt ns;07gr;0le OR sa eq TO w dt a;07gr;0le OR sa eq TO w dt a r
0gr OR sa eq TO w dt a f;0le OR APPROXIMATE;02gr;0le n SINGLE-LINE NOT eq TO;05gr
0le n NOT APPROXIMATE;03gr;0le a db eq a gr;0gr a db eq a le;0le a SIMILAR OR eq;04gr
0le a SIMILAR a gr;0gr a SIMILAR a le;0le a gr a db eq;03gr a le;01le a sa eq a gr a sa
03gr a sa eq a le;0sa eq TO OR le;4gr;4le w dt ns;43gr;0db eq TO OR le;4gr;1sa eq TO OR le;5gr
0SIMILAR OR le;2gr;1a le a eu g;23gr;0d NESTED le;2gr;2le w un;0gr vp le;11bs;0le cl BY cv;03gr
0le cl BY cv a sa eq;06gr;0SMALLER THAN;01LARGER;0SMALLER THAN OR eq TO;04LARGER;0eu g w BUMPY a
0pc a SINGLE-LINE eu g;04sd;0pc a SINGLE-LINE NOT eq TO;05sd;0pc a eu g;03sd;0pc a NOT eq TO;04sd
02pc a ls;04sd;03pc a NOT;05sd;0d pc;1sd;0sb w dt;02su;0sb w pl g be;04su;02sb w mu;04su
0sb OF OR eq TO w dt a;07su;0sb OF a eu g;04su;0sb OF a tl op;04su;0sb OF a ls eq TO;05su
02sb OF a NOT;05su;0q f oe bx op;13r;0cl sb;1su;1sb OR eq TO;13su;0sb a su;0su a sb;02sb;0su a su
1bs sb;21n jn BY DASH w;0ELEMENT OF OPENING o;0PITCHFORK w TEE TOP;0TRANSVERSAL it;0FORKING
0NONFORKING;0sh f tc;11do;11UP;0PERPENDICULAR w S;0v BAR tp r TURNSTILE;01d v BAR f;02v BAR d;05d
0ln DASH fm f MEMBER OF d v;0sh do tc w ob;1UP tc w un;3a sh do tc;02d;11UP;1k NOT g;04re
0DOES NOT DIVIDE w re NEGATION SLASH;0v ne w ci a;4be;03do tc;0rl w h k;2tl op
0tp v BAR BINARY RELATION;3w h k;1ol op;1NESTED le;2gr;0db sa le OR eq TO;23gr
0tp sl BINARY RELATION;0la tp v BAR op;01d sl;0wh v BAR;03N-ARY;0no ea wh ar;12ws;02so ea;12ws;02f r
01e b;02p;02o;02no ea;12ws;02so ea;12ws;02f r;02UP do;0i ar w TIP o;4p;0e ar w TIP o;4p
0q w TOP hl b;22bo;22up r dg;23lo f;02dm w f;22r;22TOP;22bo;0de q;01b la;02wh;01b vy s;03wh
0b PENTAGON;01wh;1HEXAGON;01b;02h;0b la ci;1me dm;02wh;0b me lz;02wh;0b s dm;2lz;02wh;0b h ELLIPSE
02wh;01b v;02wh;0f ar w s ci;0t e aw;0f ar w cr pl;0ln e qg ar;0e td ar w v k;42d;3fm BAR
2tp DASH ar;1ar w de STEM;3il w v k;52d;1td ar w il;5w v k;62d;1ar ru X;0wv ar po DIRECTLY f
0eu g a e ar;03rv tl op;0e ar a rv ls eq TO;0i ar ru gr;3su;0e qd ar;02i;01rv tl op a i
0i ar a rv ls eq TO;0tl op a e ar;0e ar a ls eq TO;3rv tl op;05i;0o tr zg ar;01sh sa no
11BACKSLANTED so;0wh me STAR;01b s;02wh;0b ri PENTAGON;02wh;0he la ci;1OVAL w OVAL ns;11ci w ci;2
1cr SALTIRE;0sa no ar w kd HEAD;0BACKSLANTED so ar w kd il;01sa no ar w h;04BACKSLANTED so
0bn ar po o THEN no ea;07sh;0e tr ar;02p;02i;02o;02f r;02UP do;02no ws;12ea;03so;12ws;01e tr DASHED
03p;03i;03o;01ck tr oe ci;04at;0e tr ar TO BAR;04p;04i;04o;@2B76 04no ws;14ea;05so;14ws
0e tr ar w d h k;06p;06i;06o;0h TAB KEY;02v;0e tr ar ov i tr ar;02p tr ar e OF o;02i tr ar ov e
02o tr ar e OF p;0e tr PAIRED aw;03p;03i;03o;0e b cr wh ar;04p;04i;04o;01at tr r U-SHAPED;22bo;22f
22TOP;0RETURN f;1r;0NEWLINE f;1r;0u rr aw CIRCLING at;0i b ar;@2B97 0y FOR TYPE A ELECTRONICS
0THREE-D gd e EQUILATERAL ao;12RIGHT-LIGHTED p;12gd i;12LEFT-LIGHTED o;02b e;12p;12i;12o
0o tr ar w ln TIP e;6i;0p tr ar w ln TIP e;6i;0e tr ar w ln TIP p;06i;0e tr ar w ln TIP o;06i
0b uv o n e ar;41i;21p n e;41i;21e n p;23i;21e n o;23i;0RIBBON ar do f;3r;2UP f;3r;2f UP;21r;2f do
21r;0p wh ar fm BAR w h BAR;0UP ao IN A RECTANGLE bx;0vp wh SQUARES;21n b;12;0BALLOT bx w li X;01cr
11bd;0b q CENTRED;11dm;0tu b PENTAGON;0h b OCTAGON;02;1me uo ti CENTRED;22dw;22lf;22ri
0NEPTUNE fo tw;0TOP hl b ci;03bo;0li u pi b CUSP;05ro;01wh u pi;04ro;0q POSITION ic;0UNCERTAINTY g
0GROUP ma;0PLUTO fo tw;2t;2u;2fv;0TRANSPLUTO;0PROSERPINA;0ASTRAEA;0HYGIEA;0PHOLUS;0NESSUS
0wh MOON SELENA;0b dm ON rs;0TRUE li MOON ARTA;0CUPIDO;0HADES;0ZEUS;0KRONOS;0APOLLON;0ADMETOS
0VULCANUS;0POSEIDON;0f hl b STAR;03r;0STAR w f hl b;22r;0e td ar w ti ARROWHEADS;05p;05i;05o
0ERIS fo on;2tw;0SEDNA;0RUSSIAN ASTROLOGICAL y VIGINTILE;3NOVILE;3QUINTILE;3BINOVILE;3SENTAGON
3TREDECILE;0eu g w iy be;0UNITED y;01SEPARATED;01DOUBLED;01PASSED;0re r ag;0HELLSCHREIBER PAUSE y
0GLAGOLITIC c l AZU;3BUKY;3VEDE;3GLAGOLI;3DOBRO;3YESTU;3ZHIVETE;3DZELO;3ZEMLJA;3IZHE;31in;3I;3DJERVI
3KAKO;3LJUDIJE;3my;3NASHI;3ONU;3POKOJI;3RITSI;3SLOVO;3TVRIDO;3UKU;3FRITU;3HERU;3OTU;3PE;3SHTA;3TSI
3CHRIVI;3SHA;3YERU;3YERI;3YATI;3SPIDERY HA;3YU;3s YUS;5w il;3YO;3IOTATED s YUS;31BIG;32IOTATED;3FITA
3iz;3SHTAPIC;3TROKUTASTI A;3LATINATE my;3CAUDATE CHRIVI;1s l AZU;3BUKY;3VEDE;3GLAGOLI;3DOBRO;3YESTU
3ZHIVETE;3DZELO;3ZEMLJA;3IZHE;31in;3I;3DJERVI;3KAKO;3LJUDIJE;3my;3NASHI;3ONU;3POKOJI;3RITSI;3SLOVO
3TVRIDO;3UKU;3FRITU;3HERU;3OTU;3PE;3SHTA;3TSI;3CHRIVI;3SHA;3YERU;3YERI;3YATI;3SPIDERY HA;3YU;3s YUS
5w il;3YO;3IOTATED s YUS;31BIG;32IOTATED;3FITA;3iz;3SHTAPIC;3TROKUTASTI A;3LATINATE my
3CAUDATE CHRIVI;0lt c l L w d BAR;15s;1c l L w mi tl;3P w k;3R w il;1s l A w k;31T w dg;1c l H w dc
14s;12c l K;14s;12c l Z;14s;1c l ap;3M w ho;3tu A;4ap;1s l V w r ho;11c l W w;14s;3V w ur;1c l hl H
13s;3TAILLESS PHI;3E w NOTCH;3tu R w il;3O w lw rn ns;1l s c tu E;1ss s l J;0mf l c V
0lt c l S w SWASH il;33Z;0ct c l ALFA;12s;1c l VIDA;12s;1c l gm;12s;1c l DALDA;12s;1c l EIE;12s
1c l SOU;12s;1c l ZATA;12s;1c l HATE;12s;1c l THETHE;12s;1c l IAUDA;12s;1c l KAPA;12s;1c l LAULA;12s
1c l MI;12s;1c l NI;12s;1c l KSI;12s;1c l O;12s;1c l PI;12s;1c l RO;12s;1c l SIMA;12s;1c l TAU;12s
1c l UA;12s;1c l FI;12s;1c l KHI;12s;1c l PSI;12s;1c l OOU;12s;1c l DIALECT-P al;13s;1c l OLD ct AIN
14s;1c l ry EIE;13s;1c l DIALECT-P KAPA;13s;1c l DIALECT-P NI;13s;11c l ry;13s;1c l OLD ct OOU;14s
1c l SAMPI;12s;1c l od SHEI;13s;11c l OLD ct;14s;1c l OLD ct ESH;14s;1c l AKHMIMIC KHEI;13s
1c l DIALECT-P HORI;13s;11c l OLD ct;14s;1c l OLD ct HA;14s;11c l L-SHAPED;13s;1c l OLD ct HEI;14s
1c l OLD ct HAT;14s;1c l OLD ct GANGIA;14s;1c l OLD ct DJA;14s;1c l OLD ct SHIMA;14s;11c l OLD nb
14s;1c l OLD nb NGI;14s;1c l OLD nb NYI;14s;1c l OLD nb WAU;14s;1y KAI;2MI RO;21PI;2STAUROS;2TAU RO
21KHI;2SHIMA SIMA;1c l ry SHEI;13s;1c l ry GANGIA;13s;1co NI a;2SPIRITUS ASPER;3LENIS
1c l BOHAIRIC KHEI;13s;@2CF9 1OLD nb fu STOP;3DIRECT qu ma;32INDIRECT;3VERSE DIVIDER;1fr on hl
1fu STOP;1MORPHOLOGICAL DIVIDER;0gg s l AN;3BAN;3GAN;3DON;3EN;3VIN;3ZEN;3TAN;3IN;3KAN;3LAS;3MAN;3NAR
3ON;3PAR;3ZHAR;3RAE;3SAN;3TAR;3UN;3PHAR;3KHAR;3GHAN;3QAR;3SHIN;3CHIN;3CAN;3JIL;3CIL;3CHAR;3XAN;3JHAN
3HAE;3HE;3HIE;3WE;3HAR;3HOE;@2D27 3YN;@2D2D 3AEN;@2D30 0TIFINAGH l YA;2YAB;2YABH;2YAG;2YAGHH
2BERBER ACADEMY YAJ;21;2YAD;2YADH;2YADD;2YADDH;2YEY;2YAF;2YAK;21TUAREG;2YAKHH;2YAH;21BERBER ACADEMY
21TUAREG;2YAHH;2YAA;2YAKH;21TUAREG;2YAQ;21TUAREG;2YI;2YAZH;21AHAGGAR;21TUAREG;2YAL;2YAM;2YAN
2TUAREG YAGN;3yn;2YAP;2YU;2YAR;2YARR;2YAGH;21TUAREG;21AYER;2YAS;2YASS;2YASH;2YAT;2YATH;2YACH;2YATT
2YAV;2YAW;2YAY;2YAZ;21TAWELLEMET;2YAZZ;2YE;2YO;@2D6F 1mf l LABIALIZATION ma;11sp;@2D7F 1cn jo
0ETHIOPIC sy LOA;2MOA;2ROA;2SOA;2SHOA;2BOA;2TOA;2COA;2NOA;2NYOA;2gl OA;2ZOA;2DOA;2DDOA;2JOA;2THOA
2CHOA;2PHOA;2POA;2GGWA;2GGWI;2GGWEE;2GGWE;@2DA0 2SSA;2SSU;2SSI;2SSAA;2SSEE;2SSE;2SSO;@2DA8 2CCA;2CCU
2CCI;2CCAA;2CCEE;2CCE;2CCO;@2DB0 2ZZA;2ZZU;2ZZI;2ZZAA;2ZZEE;2ZZE;2ZZO;@2DB8 2CCHA;2CCHU;2CCHI;2CCHAA
2CCHEE;2CCHE;2CCHO;@2DC0 2QYA;2QYU;2QYI;2QYAA;2QYEE;2QYE;2QYO;@2DC8 2KYA;2KYU;2KYI;2KYAA;2KYEE;2KYE
2KYO;@2DD0 2XYA;2XYU;2XYI;2XYAA;2XYEE;2XYE;2XYO;@2DD8 2GYA;2GYU;2GYI;2GYAA;2GYEE;2GYE;2GYO
@2DE0 0co cy l BE;3VE;3GHE;3DE;3ZHE;3ZE;3KA;3EL;3EM;3EN;3O;3PE;3ER;3ES;3TE;3HA;3TSE;3CHE;3SHA;3SHCHA
3FITA;3ES-TE;3A;3IE;3DJERV;3MONOGRAPH UK;3YAT;3YU;3if A;3ll YUS;31BIG;32if;0r ag SUBSTITUTION MARKER
22de;0f SUBSTITUTION br;02r;02f de;03r;0ra INTERPOLATION MARKER;12de;01de TRANSPOSITION
0f TRANSPOSITION br;02r;0ra q;0f ra OMISSION br;03r;0EDITORIAL CORONIS;0PARAGRAPHOS;01FORKED;02re
0HYPODIASTOLE;0de OBELOS;0o ANCORA;01p;0de ri ag;0d oq hy;0iv ib;0PALM BRANCH;0hy w da;0tl w rn a
0f lw PARAPHRASE br;03r;0tl w dt a;3be;0f v BAR w QUILL;04r;0TOP f hl br;12r;02bo f;12r;01f sw U;03r
0f d pa;02r;0tw ot ov on dt pu;01on dt ov tw ot;01sq u dt;0fv dt ma;01re qu;0v tl;0rn POINT
0wo sp mi dt;0tu om;0ra dt;1om;0tu em;0DAGGER w f GUARD;21r;0tu DAGGER;0TOP hl sc g;0TWO-EM DASH
01THREE-EM;0STENOGRAPHIC fu STOP;0v sx ot;0WIGGLY v ne;0CAPITULUM;0d hy;0re om
0d LOW-REVERSED-9 qo ma;0DASH w f UPTURN;0d SUSPENSION ma;0iv lw kv;3w kv a;0lw kv;2w dt
0d STACKED om;0de sl;0tp DAGGER;0MEDIEVAL om;0PARAGRAPHUS ma;01PUNCTUS ELEVATUS
0CORNISH VERSE DIVIDER;0rs PATTY w r CROSSBAR;31f;0TIRONIAN g c ET;0MEDIEVAL ex ma;11qu;0f q br w k
04r;01f q br w d;05r;0TOP hl f pa;21r;01bo hl f;21r;0oq hy;@2E80 0CJK RADICAL REPEAT;2CLIFF
2SECOND on;3tw;3t;2pn;2bx;2TABLE;2KNIFE on;3tw;2DIVINATION;2SEAL;2s on;3tw;2LAME on;3tw;3t;3u;2SNAKE
2THREAD;2SNOUT on;3tw;2er on;3tw;2nd;2RAP;@2E9B 2CHOKE;2SUN;2MOON;2DEATH;2MOTHER;2CIVILIAN;2wt on
3tw;2FIRE;2PAW on;3tw;2sf hl TREE TRUNK;2COW;2DOG;2JADE;2BOLT OF CLOTH;2EYE;2SPIRIT on;3tw;2BAMBOO
2SILK;21cm;2NET on;3tw;3t;3u;2MESH;2SHEEP;2RAM;2EWE;2OLD;2BRUSH on;3tw;2MEAT;2MORTAR;2GRASS on;3tw
3t;2TIGER;2CLOTHES;2ws on;3tw;2cm SEE;2sf HORN;21;2cm SPEECH;3SHELL;2FOOT;2cm CART;2sf WALK;2WALK on
3tw;2CITY;2cm GOLD;2ln on;3tw;2cm ln;3GATE;2MOUND on;3tw;2RAIN;2BLUE;2cm TANNED LEATHER;3LEAF;3wd
3FLY;2EAT on;3tw;3t;2cm EAT;2HEAD;2cm HORSE;2BONE;2GHOST;2cm FISH;3BIRD;3SALT;2sf WHEAT;3yl;2cm FROG
2js EVEN;21cm;2js TOOTH;21cm;2js DRAGON;21cm;2TURTLE;21js;21cm;@2F00 0KANGXI RADICAL on;2ne;2dt
2SLASH;2SECOND;2ho;2tw;2LID;2MAN;2LEGS;2ENTER;2ei;2do bx;2COVER;2ICE;2TABLE;2oe bx;2KNIFE;2POWER
2WRAP;2SPOON;2r oe bx;2HIDING ENCLOSURE;2tn;2DIVINATION;2SEAL;2CLIFF;2PRIVATE;2AGAIN;2mt;2ENCLOSURE
2EARTH;2SCHOLAR;2GO;3SLOWLY;2EVENING;2BIG;2wm;2CHILD;2ROOF;2INCH;2s;2LAME;2CORPSE;2SPROUT;2ut;2RIVER
2WORK;2ONESELF;2TURBAN;2DRY;2sh THREAD;2de CLIFF;2ln STRIDE;2tw HANDS;2SHOOT;2BOW;2SNOUT;2BRISTLE
2STEP;2er;2HALBERD;2DOOR;2nd;2BRANCH;2RAP;2cp;2DIPPER;2AXE;2q;2NOT;2SUN;2SAY;2MOON;2TREE;2LACK;2STOP
2DEATH;2WEAPON;2DO NOT;2COMPARE;2FUR;2CLAN;2STEAM;2wt;2FIRE;2CLAW;2FATHER;2d X;2hl TREE TRUNK;2SLICE
2FANG;2COW;2DOG;2PROFOUND;2JADE;2MELON;2TILE;2SWEET;2LIFE;2USE;2FIELD;2BOLT OF CLOTH;2SICKNESS
2de TENT;2wh;2SKIN;2DISH;2EYE;2SPEAR;2ar;2STONE;2SPIRIT;2TRACK;2GRAIN;2CAVE;2STAND;2BAMBOO;2RICE
2SILK;2JAR;2NET;2SHEEP;2FEATHER;2OLD;2n;2PLOW;2EAR;2BRUSH;2MEAT;2MINISTER;2SELF;2ARRIVE;2MORTAR
2TONGUE;2OPPOSE;2BOAT;2STOPPING;2COLOR;2GRASS;2TIGER;2INSECT;2BLOOD;2WALK ENCLOSURE;2CLOTHES;2ws
2SEE;2HORN;2SPEECH;2VALLEY;2BEAN;2PIG;2BADGER;2SHELL;2RED;2RUN;2FOOT;2BODY;2CART;2BITTER;2MORNING
2WALK;2CITY;2WINE;2DISTINGUISH;2VILLAGE;2GOLD;2ln;2GATE;2MOUND;2SLAVE;2sh TAILED BIRD;2RAIN;2BLUE
2WRONG;2fa;2LEATHER;21TANNED;2LEEK;2ud;2LEAF;2wd;2FLY;2EAT;2HEAD;2FRAGRANT;2HORSE;2BONE;2TALL;2HAIR
2FIGHT;2SACRIFICIAL WINE;2CAULDRON;2GHOST;2FISH;2BIRD;2SALT;2DEER;2WHEAT;2HEMP;2yl;2MILLET;2b
2EMBROIDERY;2FROG;2TRIPOD;2DRUM;2RAT;2NOSE;2EVEN;2TOOTH;2DRAGON;2TURTLE;2FLUTE
@2FF0 0ie DESCRIPTION hc f TO r;3a TO be;3f TO mi n r;3a TO mi n be;3fu SURROUND;3SURROUND fm a;5be
5f;51up;6r;5lo f;3OVERLAID;@3000 1SPACE;1om;1fu STOP;0DITTO ma;0ja INDUSTRIAL STANDARD y
0ie ITERATION ma;11CLOSING;1nu z;0f ag br;02r;02f d;03r;01f rr;02r;02f wh;03r;01f b lu;03r
0POSTAL ma;01GETA;0f ts SHELL br;03r;01f wh lu;03r;01f wh ts SHELL;04r;01f wh q;03r;0wv DASH
0re d PRIME qo ma;04;04lw;0POSTAL ma fa;0HANGZHOU nm on;2tw;2t;2u;2fv;2sx;2se;2ei;2ni
0ie LEVEL TONE ma;12rg;12DEPARTING;12ENTERING;02au si dt;13d;0wy DASH;0v KANA REPEAT ma;31w vd ud
3ma up hl;33w vd ud;31ma lo;0cr POSTAL ma;0ie TELEGRAPH ne FEED sp y;0HANGZHOU nm tn;2te;2tt
0v ie ITERATION ma;01MASU;01PART ALTERNATION;0ie VARIATION ic;1hl FILL SPACE;@3041 0HIRAGANA l s A
21;2s I;21;2s U;21;2s E;21;2s O;21;2KA;2GA;2KI;2GI;2KU;2GU;2KE;2GE;2KO;2GO;2SA;2ZA;2SI;2ZI;2SU;2ZU
2SE;2ZE;2SO;2ZO;2TA;2DA;2TI;2DI;2s TU;21;2DU;2TE;2DE;2TO;2DO;2NA;2NI;2NU;2NE;2NO;2HA;2BA;2PA;2HI;2BI
2PI;2HU;2BU;2PU;2HE;2BE;2PE;2HO;2BO;2PO;2MA;2MI;2MU;2ME;2MO;2s YA;21;2s YU;21;2s YO;21;2RA;2RI;2RU
2RE;2RO;2s WA;21;2WI;2WE;2WO;2N;2VU;2s KA;3KE;@3099 0co kt vd ud ma;22SEMI-VOICED;02kt vd
12SEMI-VOICED;01HIRAGANA ITERATION;12vd;1dr YORI;0kt d hy;0ka l s A;21;2s I;21;2s U;21;2s E;21;2s O
21;2KA;2GA;2KI;2GI;2KU;2GU;2KE;2GE;2KO;2GO;2SA;2ZA;2SI;2ZI;2SU;2ZU;2SE;2ZE;2SO;2ZO;2TA;2DA;2TI;2DI
2s TU;21;2DU;2TE;2DE;2TO;2DO;2NA;2NI;2NU;2NE;2NO;2HA;2BA;2PA;2HI;2BI;2PI;2HU;2BU;2PU;2HE;2BE;2PE;2HO
2BO;2PO;2MA;2MI;2MU;2ME;2MO;2s YA;21;2s YU;21;2s YO;21;2RA;2RI;2RU;2RE;2RO;2s WA;21;2WI;2WE;2WO;2N
2VU;2s KA;3KE;2VA;2VI;2VE;2VO;1mi dt;0kt PROLONGED ud ma;01ka ITERATION;12vd;1dr KOTO
@3105 0BOPOMOFO l B;2P;2M;2F;2D;2T;2N;2L;2G;2K;2H;2J;2Q;2X;2ZH;2CH;2SH;2R;2Z;2C;2S;2A;2O;2E;2EH;2AI
2EI;2AU;2OU;2AN;2EN;2ANG;2ENG;2ER;2I;2U;2IU;2V;2NG;2GN;2IH;2O w dt a;2NN;@3131 0au l ky;2gy;2yk
2NIEUN;2uc;2uu;2ik;2gk;2RIEUL;2rk;2rm;2rp;2RIEUL-SIOS;2RIEUL-THIEUTH;2RIEUL-PHIEUPH;2ue;2MIEUM
2PIEUP;2gp;2PIEUP-SIOS;2SIOS;2SSANGSIOS;2IEUNG;2CIEUC;2gc;2ec;2ki;2uh;2pp;2HIEUH;2A;2AE;2YA;2YAE;2EO
2E;2YEO;2YE;2O;2WA;2WAE;2OE;2YO;2U;2WEO;2WE;2WI;2YU;2EU;2YI;2I;1FILLER;1l SSANGNIEUN;2NIEUN-TIKEUT
2NIEUN-SIOS;2NIEUN-PANSIOS;2RIEUL-KIYEOK-SIOS;2ek;2RIEUL-PIEUP-SIOS;2RIEUL-PANSIOS
2RIEUL-YEORINHIEUH;2MIEUM-PIEUP;2MIEUM-SIOS;2MIEUM-PANSIOS;2km;2PIEUP-KIYEOK;2uk;2PIEUP-SIOS-KIYEOK
2pk;2PIEUP-CIEUC;2PIEUP-THIEUTH;2ku;2yu;2kk;2SIOS-NIEUN;2SIOS-TIKEUT;2SIOS-PIEUP;2SIOS-CIEUC
2PANSIOS;2SSANGIEUNG;2YESIEUNG;2YESIEUNG-SIOS;2YESIEUNG-PANSIOS;2ko;2SSANGHIEUH;2yr;2YO-YA;2YO-YAE
2YO-I;2YU-YEO;2YU-YE;2YU-I;2ARAEA;2ARAEAE;@3190 0ie ANNOTATION LINKING ma;21rv;21on;21tw;21t;21u
21TOP;21mi;21bo;21FIRST;21SECOND;21THIRD;21FOURTH;21HEAVEN;21EARTH;21MAN;0BOPOMOFO l BU;2ZI;2JI;2GU
2EE;2ENN;2OO;2ONN;2IR;2ANN;2INN;2UNN;2IM;2NGG;2AINN;2AUNN;2AM;2OM;2ONG;2INNN;1fi l P;3T;3K;3H;1l GH
2LH;2ZY;1fi l G;1l GW;2KW;2OE;2AH;0CJK k T;2WG;2XG;2BXG;2SW;2HZZ;2HZG;2HP;2HZWG;2SZWG;2HZT;2HZZP
2HPWG;2HZW;2HZZZ;2N;2H;2S;2P;2SP;2D;2HZ;2HG;2SZ;2SWZ;2ST;2SG;2PD;2PZ;2TN;2SZZ;2SWG;2HXWG;2HZZZG;2PG
2Q;@31F0 0ka l s KU;3SI;3SU;3TO;3NU;3HA;3HI;3HU;3HE;3HO;3MU;3RA;3RI;3RU;3RE;3RO;0pz au ky;2NIEUN;2ik
2RIEUL;2MIEUM;2PIEUP;2SIOS;2IEUNG;2CIEUC;2ec;2ki;2uh;2pp;2HIEUH;2ky A;21NIEUN;21ik;21RIEUL;21MIEUM
21PIEUP;21SIOS;21IEUNG;21CIEUC;21ec;21ki;21uh;21pp;21HIEUH;2CIEUC U;1KOREAN hc OJEON;3O HU
@3220 1IDEOGRAPH on;2tw;2t;2u;2fv;2sx;2se;2ei;2ni;2tn;2MOON;2FIRE;2wt;2WOOD;2METAL;2EARTH;2SUN
2STOCK;2HAVE;2SOCIETY;2NAME;2SPECIAL;2FINANCIAL;2CONGRATULATION;2LABOR;2REPRESENT;2CALL;2STUDY
2SUPERVISE;2ENTERPRISE;2RESOURCE;2ALLIANCE;2FESTIVAL;2REST;2SELF;2REACH;0cr IDEOGRAPH qu
2KINDERGARTEN;2SCHOOL;2KOTO;1nu tn ON b q;23te;23tt;23ft;23ff;23ix;23sv;23eh;0PARTNERSHIP g
0cr nu te on;3tw;3t;3u;3fv;3sx;3se;3ei;3ni;2tt;3on;3tw;3t;3u;3fv;1au ky;2NIEUN;2ik;2RIEUL;2MIEUM
2PIEUP;2SIOS;2IEUNG;2CIEUC;2ec;2ki;2uh;2pp;2HIEUH;2ky A;21NIEUN;21ik;21RIEUL;21MIEUM;21PIEUP;21SIOS
21IEUNG;21CIEUC;21ec;21ki;21uh;21pp;21HIEUH;1KOREAN hc CHAMKO;3JUEUI;1au IEUNG U;0KOREAN STANDARD y
0cr IDEOGRAPH on;2tw;2t;2u;2fv;2sx;2se;2ei;2ni;2tn;2MOON;2FIRE;2wt;2WOOD;2METAL;2EARTH;2SUN;2STOCK
2HAVE;2SOCIETY;2NAME;2SPECIAL;2FINANCIAL;2CONGRATULATION;2LABOR;2SECRET;2MALE;2FEMALE;2SUITABLE
2EXCELLENT;2PRINT;2ATTENTION;2ITEM;2REST;2COPY;2CORRECT;2hi;2ce;2lw;2f;2r;2MEDICINE;2RELIGION;2STUDY
2SUPERVISE;2ENTERPRISE;2RESOURCE;2ALLIANCE;2NIGHT;1nu tt sx;3se;3ei;3ni;2ft;3on;3tw;3t;3u;3fv;3sx
3se;3ei;3ni;2ff;0ie TELEGRAPH y FOR JANUARY;4FEBRUARY;4MARCH;4APRIL;4MAY;4JUNE;4JULY;4AUGUST
4SEPTEMBER;4OCTOBER;4NOVEMBER;4DECEMBER;0q HG;1ERG;1EV;0LIMITED LIABILITY g;0cr ka A;2I;2U;2E;2O;2KA
2KI;2KU;2KE;2KO;2SA;2SI;2SU;2SE;2SO;2TA;2TI;2TU;2TE;2TO;2NA;2NI;2NU;2NE;2NO;2HA;2HI;2HU;2HE;2HO;2MA
2MI;2MU;2ME;2MO;2YA;2YU;2YO;2RA;2RI;2RU;2RE;2RO;2WA;2WI;2WE;2WO;0q ERA NAME REIWA;1APAATO;1ARUHUA
1ANPEA;1AARU;1ININGU;1INTI;1UON;1ESUKUUDO;1EEKAA;1ONSU;1OOMU;1KAIRI;1KARATTO;1KARORII;1GARON;1GANMA
1GIGA;1GINII;1KYURII;1GIRUDAA;1KIRO;1KIROGURAMU;1KIROMEETORU;1KIROWATTO;1GURAMU;1GURAMUTON
1KURUZEIRO;1KUROONE;1KEESU;1KORUNA;1KOOPO;1SAIKURU;1SANTIIMU;1SIRINGU;1SENTI;1SENTO;1DAASU;1DESI
1DORU;1TON;1NANO;1NOTTO;1HAITU;1PAASENTO;1PAATU;1BAARERU;1PIASUTORU;1PIKURU;1PIKO;1BIRU;1HUARADDO
1HUIITO;1BUSSYERU;1HURAN;1HEKUTAARU;1PESO;1PENIHI;1HERUTU;1PENSU;1PEEZI;1BEETA;1POINTO;1BORUTO;1HON
1PONDO;1HOORU;1HOON;1MAIKURO;1MAIRU;1MAHHA;1MARUKU;1MANSYON;1MIKURON;1MIRI;1MIRIBAARU;1MEGA;1MEGATON
1MEETORU;1YAADO;1YAARU;1YUAN;1RITTORU;1RIRA;1RUPII;1RUUBURU;1REMU;1RENTOGEN;1WATTO
0ie TELEGRAPH y FOR HOUR z;5on;5tw;5t;5u;5fv;5sx;5se;5ei;5ni;5tn;5lv;5tv;5THIRTEEN;5fe;5FIFTEEN;5xt
5ev;5ih;5NINETEEN;5te;5TWENTY-ONE;5ww;5TWENTY-THREE;5TWENTY-FOUR;0q HPA;1DA;1AU;1BAR;1OV;1PC;1DM;2sq
2CUBED;1IU;1ERA NAME HEISEI;3SYOUWA;3TAISYOU;3MEIZI;1CORPORATION;1PA AMPS;1NA;1MU A;1MA;1KA;1KB;1MB
1GB;1CAL;1KCAL;1PF;1NF;1MU F;2G;1MG;1KG;1HZ;1KHZ;1MHZ;1GHZ;1THZ;1MU L;1ML;1DL;1KL;1FM;1NM;1MU M;1MM
1CM;1KM;1MM sq;11CM;11M;11KM;1MM CUBED;11CM;11M;11KM;1M ov S;4sq;1PA;1KPA;1MPA;1GPA;1RAD;2ov S;4sq
1PS;1NS;1MU S;1MS;1PV;1NV;1MU V;1MV;1KV;1MV MEGA;1PW;1NW;1MU W;1MW;1KW;1MW MEGA;1K OHM;11M;1AM;1BQ
1CC;1CD;1C ov KG;1CO;1DB;1GY;1HA;1HP;1IN;1KK;1KM c;1KT;1LM;1LN;1LOG;1LX;1MB s;1MIL;1MOL;1PH;1PM;1PPM
1PR;1SR;1SV;1WB;1V ov M;12A;0ie TELEGRAPH y FOR DAY on;5tw;5t;5u;5fv;5sx;5se;5ei;5ni;5tn;5lv;5tv
5THIRTEEN;5fe;5FIFTEEN;5xt;5ev;5ih;5NINETEEN;5te;5TWENTY-ONE;5ww;5TWENTY-THREE;5TWENTY-FOUR
5TWENTY-FIVE;5TWENTY-SIX;5TWENTY-SEVEN;5TWENTY-EIGHT;5TWENTY-NINE;5tt;5THIRTY-ONE;0q GAL
@4DC0 0HEXAGRAM FOR THE CREATIVE HEAVEN;3RECEPTIVE EARTH;2DIFFICULTY AT THE BEGINNING
2YOUTHFUL FOLLY;2WAITING;2CONFLICT;2THE ARMY;2HOLDING TOGETHER;2s TAMING;2TREADING;2PEACE
2STANDSTILL;2FELLOWSHIP;2GREAT POSSESSION;2MODESTY;2ENTHUSIASM;2FOLLOWING;2WORK ON THE DECAYED
2APPROACH;2CONTEMPLATION;2BITING ru;2GRACE;2SPLITTING APART;2RETURN;2INNOCENCE;2GREAT TAMING
2mt CORNERS;2GREAT PREPONDERANCE;2THE ABYSMAL wt;3CLINGING FIRE;2INFLUENCE;2DURATION;2RETREAT
2GREAT POWER;2PROGRESS;2DARKENING OF THE li;2THE FAMILY;2OPPOSITION;2OBSTRUCTION;2DELIVERANCE
2DECREASE;2INCREASE;2BREAKTHROUGH;2COMING TO MEET;2GATHERING TOGETHER;2PUSHING UPWARD;2OPPRESSION
2THE WELL;2REVOLUTION;2THE CAULDRON;3AROUSING THUNDER;3KEEPING STILL ut;2DEVELOPMENT
2THE MARRYING MAIDEN;2ABUNDANCE;2THE WANDERER;3GENTLE wd;3JOYOUS LAKE;2DISPERSION;2LIMITATION
2INNER TRUTH;2s PREPONDERANCE;2AFTER COMPLETION;21BEFORE;@A000 0YI sy IT;2IX;2I;2IP;2IET;2IEX;2IE
2IEP;2AT;2AX;2A;2AP;2UOX;2UO;2UOP;2OT;2OX;2O;2OP;2EX;2E;2WU;2BIT;2BIX;2BI;2BIP;2BIET;2BIEX;2BIE
2BIEP;2BAT;2BAX;2BA;2BAP;2BUOX;2BUO;2BUOP;2BOT;2bx;2BO;2BOP;2BEX;2BE;2BEP;2BUT;2BUX;2BU;2BUP;2BURX
2BUR;2BYT;2BYX;2BY;2BYP;2BYRX;2BYR;2PIT;2PIX;2PI;2PIP;2PIEX;2PIE;2PIEP;2PAT;2PAX;2PA;2PAP;2PUOX;2PUO
2PUOP;2POT;2POX;2PO;2POP;2PUT;2PUX;2PU;2PUP;2PURX;2PUR;2PYT;2PYX;2PY;2PYP;2PYRX;2PYR;2BBIT;2BBIX
2BBI;2BBIP;2BBIET;2BBIEX;2BBIE;2BBIEP;2BBAT;2BBAX;2BBA;2BBAP;2BBUOX;2BBUO;2BBUOP;2BBOT;2BBOX;2BBO
2BBOP;2BBEX;2BBE;2BBEP;2BBUT;2BBUX;2BBU;2BBUP;2BBURX;2BBUR;2BBYT;2BBYX;2BBY;2BBYP;2NBIT;2NBIX;2NBI
2NBIP;2NBIEX;2NBIE;2NBIEP;2NBAT;2NBAX;2NBA;2NBAP;2NBOT;2NBOX;2NBO;2NBOP;2NBUT;2NBUX;2NBU;2NBUP
2NBURX;2NBUR;2NBYT;2NBYX;2NBY;2NBYP;2NBYRX;2NBYR;2HMIT;2HMIX;2HMI;2HMIP;2HMIEX;2HMIE;2HMIEP;2HMAT
2HMAX;2HMA;2HMAP;2HMUOX;2HMUO;2HMUOP;2HMOT;2HMOX;2HMO;2HMOP;2HMUT;2HMUX;2HMU;2HMUP;2HMURX;2HMUR
2HMYX;2HMY;2HMYP;2HMYRX;2HMYR;2MIT;2MIX;2MI;2MIP;2MIEX;2MIE;2MIEP;2MAT;2MAX;2MA;2MAP;2MUOT;2MUOX
2MUO;2MUOP;2MOT;2MOX;2MO;2MOP;2MEX;2ME;2MUT;2MUX;2MU;2MUP;2MURX;2MUR;2MYT;2MYX;2MY;2MYP;2FIT;2FIX
2FI;2FIP;2FAT;2FAX;2FA;2FAP;2FOX;2FO;2FOP;2FUT;2FUX;2FU;2FUP;2FURX;2FUR;2FYT;2FYX;2FY;2FYP;2VIT;2VIX
2VI;2VIP;2VIET;2VIEX;2VIE;2VIEP;2VAT;2VAX;2VA;2VAP;2VOT;2VOX;2VO;2VOP;2VEX;2VEP;2VUT;2VUX;2VU;2VUP
2VURX;2VUR;2VYT;2VYX;2VY;2VYP;2VYRX;2VYR;2DIT;2DIX;2DI;2DIP;2DIEX;2DIE;2DIEP;2DAT;2DAX;2DA;2DAP
2DUOX;2DUO;2dt;2DOX;2DO;2DOP;2DEX;2DE;2DEP;2DUT;2DUX;2DU;2DUP;2DURX;2DUR;2TIT;2TIX;2TI;2TIP;2TIEX
2TIE;2TIEP;2TAT;2TAX;2TA;2TAP;2TUOT;2TUOX;2TUO;2TUOP;2TOT;2TOX;2TO;2TOP;2TEX;2TE;2TEP;2TUT;2TUX;2TU
2TUP;2TURX;2TUR;2DDIT;2DDIX;2DDI;2DDIP;2DDIEX;2DDIE;2DDIEP;2DDAT;2DDAX;2DDA;2DDAP;2DDUOX;2DDUO
2DDUOP;2DDOT;2DDOX;2DDO;2DDOP;2DDEX;2DDE;2DDEP;2DDUT;2DDUX;2DDU;2DDUP;2DDURX;2DDUR;2NDIT;2NDIX;2NDI
2NDIP;2NDIEX;2NDIE;2NDAT;2NDAX;2NDA;2NDAP;2NDOT;2NDOX;2NDO;2NDOP;2NDEX;2NDE;2NDEP;2NDUT;2NDUX;2NDU
2NDUP;2NDURX;2NDUR;2HNIT;2HNIX;2HNI;2HNIP;2HNIET;2HNIEX;2HNIE;2HNIEP;2HNAT;2HNAX;2HNA;2HNAP;2HNUOX
2HNUO;2HNOT;2HNOX;2HNOP;2HNEX;2HNE;2HNEP;2HNUT;2NIT;2NIX;2NI;2NIP;2NIEX;2NIE;2NIEP;2NAX;2NA;2NAP
2NUOX;2NUO;2NUOP;2NOT;2NOX;2NO;2NOP;2NEX;2NE;2NEP;2NUT;2NUX;2NU;2NUP;2NURX;2NUR;2HLIT;2HLIX;2HLI
2HLIP;2HLIEX;2HLIE;2HLIEP;2HLAT;2HLAX;2HLA;2HLAP;2HLUOX;2HLUO;2HLUOP;2HLOX;2HLO;2HLOP;2HLEX;2HLE
2HLEP;2HLUT;2HLUX;2HLU;2HLUP;2HLURX;2HLUR;2HLYT;2HLYX;2HLY;2HLYP;2HLYRX;2HLYR;2LIT;2LIX;2LI;2LIP
2LIET;2LIEX;2LIE;2LIEP;2LAT;2LAX;2LA;2LAP;2LUOT;2LUOX;2LUO;2LUOP;2LOT;2LOX;2LO;2LOP;2LEX;2LE;2LEP
2LUT;2LUX;2LU;2LUP;2LURX;2LUR;2LYT;2LYX;2LY;2LYP;2LYRX;2LYR;2GIT;2GIX;2GI;2GIP;2GIET;2GIEX;2GIE
2GIEP;2GAT;2GAX;2GA;2GAP;2GUOT;2GUOX;2GUO;2GUOP;2GOT;2GOX;2GO;2GOP;2GET;2GEX;2GE;2GEP;2GUT;2GUX;2GU
2GUP;2GURX;2GUR;2KIT;2KIX;2KI;2KIP;2KIEX;2KIE;2KIEP;2KAT;2KAX;2KA;2KAP;2KUOX;2KUO;2KUOP;2KOT;2KOX
2KO;2KOP;2KET;2KEX;2KE;2KEP;2KUT;2KUX;2KU;2KUP;2KURX;2KUR;2GGIT;2GGIX;2GGI;2GGIEX;2GGIE;2GGIEP;2GGAT
2GGAX;2GGA;2GGAP;2GGUOT;2GGUOX;2GGUO;2GGUOP;2GGOT;2GGOX;2GGO;2GGOP;2GGET;2GGEX;2GGE;2GGEP;2GGUT
2GGUX;2GGU;2GGUP;2GGURX;2GGUR;2MGIEX;2MGIE;2MGAT;2MGAX;2MGA;2MGAP;2MGUOX;2MGUO;2MGUOP;2MGOT;2MGOX
2MGO;2MGOP;2MGEX;2MGE;2MGEP;2MGUT;2MGUX;2MGU;2MGUP;2MGURX;2MGUR;2HXIT;2HXIX;2HXI;2HXIP;2HXIET;2HXIEX
2HXIE;2HXIEP;2HXAT;2HXAX;2HXA;2HXAP;2HXUOT;2HXUOX;2HXUO;2HXUOP;2HXOT;2HXOX;2HXO;2HXOP;2HXEX;2HXE
2HXEP;2NGIEX;2NGIE;2NGIEP;2NGAT;2NGAX;2na;2NGAP;2NGUOT;2NGUOX;2NGUO;2NGOT;2NGOX;2NGO;2NGOP;2NGEX
2NGE;2NGEP;2HIT;2HIEX;2HIE;2HAT;2HAX;2HA;2HAP;2HUOT;2HUOX;2HUO;2HUOP;2HOT;2HOX;2HO;2HOP;2HEX;2HE
2HEP;2WAT;2WAX;2WA;2WAP;2WUOX;2WUO;2WUOP;2WOX;2WO;2WOP;2WEX;2WE;2WEP;2ZIT;2ZIX;2ZI;2ZIP;2ZIEX;2ZIE
2ZIEP;2ZAT;2ZAX;2ZA;2ZAP;2ZUOX;2ZUO;2ZUOP;2ZOT;2ZOX;2ZO;2ZOP;2ZEX;2ZE;2ZEP;2ZUT;2ZUX;2ZU;2ZUP;2ZURX
2ZUR;2ZYT;2ZYX;2ZY;2ZYP;2ZYRX;2ZYR;2CIT;2CIX;2CI;2CIP;2CIET;2CIEX;2CIE;2CIEP;2CAT;2CAX;2CA;2CAP
2CUOX;2CUO;2CUOP;2COT;2COX;2CO;2COP;2CEX;2CE;2CEP;2CUT;2CUX;2CU;2CUP;2CURX;2CUR;2CYT;2CYX;2CY;2CYP
2CYRX;2CYR;2ZZIT;2ZZIX;2ZZI;2ZZIP;2ZZIET;2ZZIEX;2ZZIE;2ZZIEP;2ZZAT;2ZZAX;2ZZA;2ZZAP;2ZZOX;2ZZO;2ZZOP
2ZZEX;2ZZE;2ZZEP;2ZZUX;2ZZU;2ZZUP;2ZZURX;2ZZUR;2ZZYT;2ZZYX;2ZZY;2ZZYP;2ZZYRX;2ZZYR;2NZIT;2NZIX;2NZI
2NZIP;2NZIEX;2NZIE;2NZIEP;2NZAT;2NZAX;2NZA;2NZAP;2NZUOX;2NZUO;2NZOX;2NZOP;2NZEX;2NZE;2NZUX;2NZU
2NZUP;2NZURX;2NZUR;2NZYT;2NZYX;2NZY;2NZYP;2NZYRX;2NZYR;2SIT;2sx;2SI;2SIP;2SIEX;2SIE;2SIEP;2SAT;2SAX
2SA;2SAP;2SUOX;2SUO;2SUOP;2SOT;2SOX;2SO;2SOP;2SEX;2SE;2SEP;2SUT;2SUX;2SU;2SUP;2SURX;2SUR;2SYT;2SYX
2SY;2SYP;2SYRX;2SYR;2SSIT;2SSIX;2SSI;2SSIP;2SSIEX;2SSIE;2SSIEP;2SSAT;2SSAX;2SSA;2SSAP;2SSOT;2SSOX
2SSO;2SSOP;2SSEX;2SSE;2SSEP;2SSUT;2SSUX;2SSU;2SSUP;2SSYT;2SSYX;2SSY;2SSYP;2SSYRX;2SSYR;2ZHAT;2ZHAX
2zh;2ZHAP;2ZHUOX;2ZHUO;2ZHUOP;2ZHOT;2ZHOX;2ZHO;2ZHOP;2ZHET;2ZHEX;2ZHE;2ZHEP;2ZHUT;2ZHUX;2ZHU;2ZHUP
2ZHURX;2ZHUR;2ZHYT;2ZHYX;2ZHY;2ZHYP;2ZHYRX;2ZHYR;2CHAT;2CHAX;2ch;2CHAP;2CHUOT;2CHUOX;2CHUO;2CHUOP
2CHOT;2CHOX;2CHO;2CHOP;2CHET;2CHEX;2CHE;2CHEP;2CHUX;2CHU;2CHUP;2CHURX;2CHUR;2CHYT;2CHYX;2CHY;2CHYP
2CHYRX;2CHYR;2RRAX;2RRA;2RRUOX;2RRUO;2RROT;2RROX;2RRO;2RROP;2RRET;2RREX;2RRE;2RREP;2RRUT;2RRUX;2RRU
2RRUP;2RRURX;2RRUR;2RRYT;2RRYX;2RRY;2RRYP;2RRYRX;2RRYR;2NRAT;2NRAX;2NRA;2NRAP;2NROX;2NRO;2NROP;2NRET
2NREX;2NRE;2NREP;2NRUT;2NRUX;2NRU;2NRUP;2NRURX;2NRUR;2NRYT;2NRYX;2NRY;2NRYP;2NRYRX;2NRYR;2SHAT;2SHAX
2SHA;2SHAP;2SHUOX;2SHUO;2SHUOP;2SHOT;2SHOX;2SHO;2SHOP;2SHET;2SHEX;2SHE;2SHEP;2SHUT;2SHUX;2SHU;2SHUP
2SHURX;2SHUR;2SHYT;2SHYX;2SHY;2SHYP;2SHYRX;2SHYR;2RAT;2RAX;2RA;2RAP;2RUOX;2RUO;2RUOP;2ROT;2ROX;2RO
2ROP;2REX;2RE;2REP;2RUT;2RUX;2RU;2RUP;2RURX;2RUR;2RYT;2RYX;2RY;2RYP;2RYRX;2RYR;2JIT;2JIX;2JI;2JIP
2JIET;2JIEX;2JIE;2JIEP;2JUOT;2JUOX;2JUO;2JUOP;2JOT;2JOX;2JO;2JOP;2JUT;2JUX;2JU;2JUP;2JURX;2JUR;2JYT
2JYX;2JY;2JYP;2JYRX;2JYR;2QIT;2QIX;2QI;2QIP;2QIET;2QIEX;2QIE;2QIEP;2QUOT;2QUOX;2QUO;2QUOP;2QOT;2QOX
2QO;2QOP;2QUT;2QUX;2QU;2QUP;2QURX;2QUR;2QYT;2QYX;2QY;2QYP;2QYRX;2QYR;2JJIT;2JJIX;2JJI;2JJIP;2JJIET
2JJIEX;2JJIE;2JJIEP;2JJUOX;2JJUO;2JJUOP;2JJOT;2JJOX;2JJO;2JJOP;2JJUT;2JJUX;2JJU;2JJUP;2JJURX;2JJUR
2JJYT;2JJYX;2JJY;2JJYP;2NJIT;2NJIX;2NJI;2NJIP;2NJIET;2NJIEX;2NJIE;2NJIEP;2NJUOX;2NJUO;2NJOT;2NJOX
2NJO;2NJOP;2NJUX;2NJU;2NJUP;2NJURX;2NJUR;2NJYT;2NJYX;2NJY;2NJYP;2NJYRX;2NJYR;2NYIT;2NYIX;2NYI;2NYIP
2NYIET;2NYIEX;2NYIE;2NYIEP;2NYUOX;2NYUO;2NYUOP;2NYOT;2NYOX;2NYO;2NYOP;2NYUT;2NYUX;2NYU;2NYUP;2XIT
2XIX;2XI;2XIP;2XIET;2XIEX;2XIE;2XIEP;2XUOX;2XUO;2XOT;2XOX;2XO;2XOP;2XYT;2XYX;2XY;2XYP;2XYRX;2XYR
2YIT;2YIX;2YI;2YIP;2YIET;2YIEX;2YIE;2YIEP;2YUOT;2YUOX;2YUO;2YUOP;2YOT;2YOX;2YO;2YOP;2YUT;2YUX;2YU
2YUP;2YURX;2YUR;2YYT;2YYX;2YY;2YYP;2YYRX;2YYR;@A490 1RADICAL QOT;2LI;2KIT;2NYIP;2CYP;2SSI;2GGOP;2GEP
2MI;2HXIT;2LYR;2BBUT;2MOP;2YO;2PUT;2HXUO;2TAT;2GA;2ZUP;2CYT;2DDUR;2BUR;2GGUO;2NYOP;2TU;2OP;2JJUT
2ZOT;2PYT;2HMO;2YIT;2VUR;2SHY;2VEP;2ZA;2JO;2NZUP;2JJY;2GOT;2JJIE;2WO;2DU;2SHUR;2LIE;2CY;2CUOP;2CIP
2HXOP;2SHAT;2ZUR;2SHOP;2CHE;2ZZIET;2NBIE;2KE;@A4D0 0LISU l BA;2PA;2ph;2DA;2TA;2THA;2GA;2KA;2KHA;2JA
2CA;2ch;2dz;2TSA;2TSHA;2MA;2NA;2LA;2SA;2zh;2ZA;2na;2HA;2XA;2HHA;2FA;2WA;2SHA;2YA;2GHA;2A;2AE;2E;2EU
2I;2O;2U;2UE;2UH;2OE;2TONE MYA TI;3NA PO;3MYA CYA;4BO;4NA;4JEU;1pu om;2fu STOP;0VAI sy EE;2EEN;2HEE
2WEE;2WEEN;2PEE;2BHEE;2BEE;2MBEE;2KPEE;2MGBEE;2GBEE;2FEE;2VEE;2TEE;2THEE;2DHEE;2DHHEE;2LEE;2REE;2DEE
2NDEE;2SEE;2SHEE;2ZEE;2ZHEE;2CEE;2JEE;2NJEE;2YEE;2KEE;2NGGEE;2GEE;2MEE;2NEE;2NYEE;2I;2IN;2HI;2HIN
2WI;2WIN;2PI;2BHI;2BI;2MBI;2KPI;2MGBI;2GBI;2FI;2VI;2TI;2THI;2DHI;2DHHI;2LI;2RI;2DI;2NDI;2SI;2SHI;2ZI
2ZHI;2CI;2JI;2NJI;2YI;2KI;2NGGI;2GI;2MI;2NI;2NYI;2A;2AN;2NGAN;2HA;2HAN;2WA;2WAN;2PA;2bh;2BA;2MBA
2KPA;2KPAN;2MGBA;2GBA;2FA;2VA;2TA;2THA;2dh;2DHHA;2LA;2RA;2DA;2NDA;2SA;2SHA;2ZA;2zh;2CA;2JA;2NJA;2YA
2KA;2KAN;2NGGA;2GA;2MA;2NA;2ya;2OO;2OON;2HOO;2WOO;2WOON;2POO;2BHOO;2BOO;2MBOO;2KPOO;2MGBOO;2GBOO
2FOO;2VOO;2TOO;2THOO;2DHOO;2DHHOO;2LOO;2ROO;2DOO;2NDOO;2SOO;2SHOO;2ZOO;2ZHOO;2COO;2JOO;2NJOO;2YOO
2KOO;2NGGOO;2GOO;2MOO;2NOO;2NYOO;2U;2UN;2HU;2HUN;2WU;2WUN;2PU;2BHU;2BU;2MBU;2KPU;2MGBU;2GBU;2FU;2VU
2TU;2THU;2DHU;2DHHU;2LU;2RU;2DU;2NDU;2SU;2SHU;2ZU;2ZHU;2CU;2JU;2NJU;2YU;2KU;2NGGU;2GU;2MU;2NU;2NYU
2O;2ON;2NGON;2HO;2HON;2WO;2WON;2PO;2BHO;2BO;2MBO;2KPO;2MGBO;2GBO;2GBON;2FO;2VO;2TO;2THO;2DHO;2DHHO
2LO;2RO;2DO;2NDO;2SO;2SHO;2ZO;2ZHO;2CO;2JO;2NJO;2YO;2KO;2NGGO;2GO;2MO;2NO;2NYO;2E;2EN;2NGEN;2HE;2HEN
2WE;2WEN;2PE;2BHE;2BE;2MBE;2KPE;2KPEN;2MGBE;2GBE;2GBEN;2FE;2VE;2TE;2THE;2DHE;2DHHE;2LE;2RE;2DE;2NDE
2SE;2SHE;2ZE;2ZHE;2CE;2JE;2NJE;2YE;2KE;2NGGE;2NGGEN;2GE;2GEN;2ME;2NE;2NYE;2NG;2LENGTHENER;1om
1fu STOP;1qu ma;1sy NDOLE FA;3KA;3SOO;1y FEENG;2KEENG;2TING;2NII;2BANG;2FAA;2TAA;2DANG;2DOONG;2KUNG
2TONG;2DO-O;2JONG;1di z;2on;2tw;2t;2u;2fv;2sx;2se;2ei;2ni;1sy NDOLE MA;3DO;@A640 0cy c l ZEMLYA;12s
1c l DZELO;12s;1c l re DZE;13s;1c l io;12s;1c l DJERV;12s;1c l MONOGRAPH UK;13s;1c l BROAD og;13s
1c l nt YER;13s;11c l YERU w BACK;15s;1c l if YAT;13s;1c l re YU;13s;1c l if A;13s;1c l cl ll YUS
14s;11c l BLENDED;13s;11c l if cl ll;15s;1c l YN;12s;1c l re TSE;13s;1c l of DE;13s;1c l of EL;13s
1c l of EM;13s;1c l MONOCULAR O;13s;11c l BINOCULAR;13s;11c l d MONOCULAR;14s;11l MULTIOCULAR
0co cy VZMET;2tn MILLIONS g;22hu;22to;0SLAVONIC as;0co cy l UKRAINIAN IE;3I;3YI;3U;3HARD g;3YERU
3of g;3og;2kv;2PAYEROK;0cy kv;1PAYEROK;1c l DWE;12s;1c l DZWE;12s;1c l ZHWE;12s;1c l CCHE;12s
1c l DZZE;12s;1c l TE w mi ho;15s;1c l TWE;12s;1c l TSWE;12s;1c l TSSE;12s;1c l TCHE;12s;1c l HWE
12s;1c l SHWE;12s;1c l d O;13s;11c l od;13s;0mf l cy HARD g;31of;0co cy l EF;3if E;0BAMUM l A;2KA;2U
2KU;2EE;2REE;2TAE;2O;2NYI;2I;2LA;2PA;2RII;2RIEE;2LEEEE;2MEEEE;2TAA;2NDAA;2NJAEM;2M;2SUU;2MU;2SHII
2SI;2SHEUX;2SEUX;2KYEE;2KET;2NUAE;2NU;2NJUAE;2YOQ;2SHU;2YUQ;2YA;2NSHA;2KEUX;2PEUX;2NJEE;2NTEE;2PUE
2WUE;2PEE;2FEE;2RU;2LU;2MI;2NI;2REUX;2RAE;2KEN;2NGKWAEN;2NGGA;2na;2SHO;2PUAE;2FU;2FOM;2WA;2NA;2LI
2PI;2LOQ;2KO;2MBEN;2REN;2MEN;2MA;2TI;2KI;2MO;2MBAA;2TET;2KPA;2tn;2NTUU;2SAMBA;2FAAMAE;2KOVUU;2KOGHOM
1co ma KOQNDON;3TUKWENTIS;1NJAEMLI;1fu STOP;1ol;1om;1em;1qu ma;@A700 0mf l CHINESE TONE YIN PING
41yn;4YIN SHANG;41yn;4YIN QU;41yn;4YIN RU;41yn;2xa de TONE BAR;23hi;23MID;23lw;23ew
22xa de LEFT-STEM;24hi;24MID;24lw;24ew;23xa;23hi;23MID;23lw;23ew;21dt v;3SLASH;3h BAR;2lo r rr ag
2ra UP ar;31do;3ex ma;32iv;23lw;2STRESS n hi TONE;41lw;0lt c l yt al;13s;1c l yt AIN;13s;1c l HENG
12s;1c l TZ;12s;1c l TRESILLO;12s;1c l CUATRILLO;12s;1c l CUATRILLO w om;14s;1l s c F;4S;1c l AA;12s
1c l AO;12s;1c l AU;12s;1c l AV;12s;1c l AV w h BAR;15s;1c l AY;12s;1c l re C w dt;15s;1c l K w k
14s;11c l K w dg;15s;12c l K w k n;17s;1c l BROKEN L;13s;1c l L w hi k;15s;1c l O w ln k oy;16s
1c l O w LOOP;14s;1c l OO;12s;1c l P w k ru dc;16s;1c l P w FLOURISH;14s;1c l P w SQUIRREL il;15s
1c l Q w k ru dc;16s;1c l Q w dg k;15s;1c l R ROTUNDA;13s;11c l RUM;13s;1c l V w dg k;15s;1c l VY
12s;1c l VISIGOTHIC Z;13s;1c l THORN w k;14s;1c l THORN w k ru dc;16s;1c l VEND;12s;1c l ET;12s
1c l IS;12s;1c l CON;12s;0mf l US;0lt s l DUM;3LUM;3MUM;3NUM;3RUM;11l s c;1s l TUM;3UM;1c l iu D;13s
1c l iu F;13s;1c l iu G;32tu;14s;1c l tu L;13s;1c l iu R;13s;1c l iu S;13s;1c l iu T;13s
0mf l lw x cc;2ol;2sh eu g;0lt c l SALTILLO;12s;1c l tu H;1s l L w rt ho n BELT;1l SINOLOGICAL dt
1c l N w dc;14s;1c l C w BAR;14s;5PALATAL ho;33H;1c l B w FLOURISH;14s;1c l F w k;14s
1c l VOLAPUK AE;13s;1c l VOLAPUK OE;13s;1c l VOLAPUK UE;13s;1c l G w oq k;15s;13c l K;15s;13c l N
15s;13c l R;15s;13c l S;15s;1c l H w ho;3re oe E;3cp G;3L w BELT;3s c I;1l s c Q;1c l tu K;4T
3J w rd;3CHI;3BETA;12s;1c l og;12s;1c l U w k;14s;1c l gl A;13s;1c l gl I;13s;1c l gl U;13s
1c l OLD POLISH O;14s;1c l ANGLICANA W;13s;1c l C w PALATAL ho;31S w;31Z w PALATAL;3D w sh k oy;16s
14c l S;16s;@A7D0 1c l cl iu G;14s;@A7D3 3d THORN;@A7D5 4WYNN;1c l mi SCOTS S;14s;11c l SIGMOID;13s
@A7F2 0mf l c C;3F;3Q;0lt c l re hl H;14s;1EPIGRAPHIC l sw I;0mf l c H w k;2s lg OE;0lt l s c tu M
1EPIGRAPHIC l re F;4P;3iv M;3I LONGA;3ah M;0SYLOTI NAGRI l A;3I;2g DVISVARA;2l U;3E;3O;2g HASANTA
2l KO;3KHO;3GO;3GHO;2g an;2l CO;3CHO;3JO;3JHO;3TTO;3TTHO;3DDO;3DDHO;3TO;3THO;3DO;3DHO;3NO;3PO;3PHO
3BO;3BHO;3MO;3RO;3LO;3RRO;3SO;3HO;2vo g A;4I;4U;4E;4OO;2POETRY MARK-1;3MARK-2;3MARK-3;3MARK-4
2g aa HASANTA;@A830 0no INDIC fr on qa;4hl;3t qr;3on xe;4eg;3t xn;2qa ma;21PLACEHOLDER;21RUPEE
21QUANTITY;@A840 0PHAGS-PA l KA;2KHA;2GA;2na;2CA;2ch;2JA;2ya;2TA;2THA;2DA;2NA;2PA;2ph;2BA;2MA;2TSA
2TSHA;2dz;2WA;2zh;2ZA;2s A;2YA;2RA;2LA;2SHA;2SA;2HA;2A;2I;2U;2E;2O;2QA;2XA;2FA;2GGA;2EE;1sj l WA;3YA
1l TTA;2ta;2DDA;2NNA;2aa YA;2VOICELESS SHA;2vd HA;2ASPIRATED FA;1sj l RA;12SUPERFIXED;1l ca
1si HEAD ma;12d;1ma SHAD;21d;@A880 0SAURASHTRA g an;2vi;1l A;2AA;2I;2II;2U;2UU;2vc R;3RR;3L;3LL;2E
2EE;2AI;2O;2OO;2AU;2KA;2KHA;2GA;2GHA;2na;2CA;2ch;2JA;2jh;2ya;2TTA;2ta;2DDA;2dd;2NNA;2TA;2THA;2DA;2dh
2NA;2PA;2ph;2BA;2bh;2MA;2YA;2RA;2LA;2VA;2SHA;2SSA;2SA;2HA;2LLA;1cn g HAARU;1vo g AA;3I;3II;3U;3UU
3vc R;4RR;4L;4LL;3E;3EE;3AI;3O;3OO;3AU;1g vr;2ca;@A8CE 1dn;11d;1di z;2on;2tw;2t;2u;2fv;2sx;2se;2ei
2ni;@A8E0 0co vg di z;3on;3tw;3t;3u;3fv;3sx;3se;3ei;3ni;2l A;3U;3KA;3NA;3PA;3RA;3VI;2g av
0vg g SPACING ca;2ca vr;22d;2ca tw;3t;3av;2PUSHPIKA;1GAP FILLER;1CARET;1HEADSTROKE;1g SIDDHAM
1JAIN OM;1l AY;11vo g;0KAYAH LI di z;3on;3tw;3t;3u;3fv;3sx;3se;3ei;3ni;2l KA;3KHA;3GA;3na;3SA;3SHA
3ZA;3ya;3TA;3HTA;3NA;3PA;3ph;3MA;3DA;3BA;3RA;3YA;3LA;3WA;3THA;3HA;3VA;3CA;3A;3OE;3I;3OO;2vo UE;3E;3U
3EE;3O;2TONE PLOPHU;3CALYA;4PLOPHU;2g CWI;3SHYA;0REJANG l KA;2GA;2na;2TA;2DA;2NA;2PA;2BA;2MA;2CA;2JA
2ya;2SA;2RA;2LA;2YA;2WA;2HA;2MBA;2NGGA;2NDA;2NYJA;2A;1vo g I;3U;3E;3AI;3O;3AU;3EU;3EA;1cn g NG;3N;3R
3H;1vr;@A95F 1sc ma;0au CHOSEONG TIKEUT-MIEUM;2TIKEUT-PIEUP;2TIKEUT-SIOS;2TIKEUT-CIEUC;2rk
2RIEUL-SSANGKIYEOK;2ek;2RIEUL-SSANGTIKEUT;2rm;2rp;2RIEUL-SSANGPIEUP;2ly;2RIEUL-SIOS;2RIEUL-CIEUC
2RIEUL-KHIEUKH;2MIEUM-KIYEOK;2MIEUM-TIKEUT;2MIEUM-SIOS;2PIEUP-SIOS-THIEUTH;2PIEUP-KHIEUKH
2PIEUP-HIEUH;2SSANGSIOS-PIEUP;2IEUNG-RIEUL;2IEUNG-HIEUH;2SSANGCIEUC-HIEUH;2SSANGTHIEUTH
2PHIEUPH-HIEUH;2HIEUH-SIOS;2SSANGYEORINHIEUH;@A980 0JAVANESE g PANYANGGA;2CECAK;2LAYAR;2WIGNYAN;1l A
2I KAWI;3;2II;2U;2PA CEREK;2na LELET;4RASWADI;2E;2AI;2O;2KA;3SASAK;3MURDA;2GA;3MURDA;2na;2CA;3MURDA
2JA;2ya MURDA;2JA mp;2ya;2TTA;3mp;2DDA;3mp;2NA MURDA;2TA;3MURDA;2DA;3mp;2NA;2PA;3MURDA;2BA;3MURDA
2MA;2YA;2RA;3AGUNG;2LA;2WA;2SA MURDA;3mp;3;2HA;1g CECAK TELU;1vo g TARUNG;3TOLONG;3WULU;4MELIK;3SUKU
4MENDUT;3TALING;3DIRGA MURE;3PEPET;1cn g KERET;3PENGKAL;3CAKRA;1PANGKON;1f RERENGGAN;11r;1PADA ANDAP
2MADYA;2LUHUR;2WINDU;2PANGKAT;2LINGSA;2LUNGSI;2ADEG;3ADEG;2PISELEH;12tu;@A9CF 1PANGRANGKEP;1di z;2on
2tw;2t;2u;2fv;2sx;2se;2ei;2ni;@A9DE 1PADA TIRTA TUMETES;2ISEN-ISEN;0MYANMAR l SHAN GHA;3ch;3jh;3NNA
3bh;1g SHAN SAW;1mf l SHAN REDUPLICATION;1l TAI LAING ya;4FA;4GA;4GHA;4JA;4jh;4DDA;4dd;4NNA
1TAI LAING di z;4on;4tw;4t;4u;4fv;4sx;4se;4ei;4ni;1l TAI LAING LLA;4DA;4dh;4BA;4bh;@AA00 0CHAM l A
2I;2U;2E;2AI;2O;2KA;2KHA;2GA;2GHA;2NGUE;2na;2ch;2CHHA;2JA;2jh;2NHUE;2NHA;2NHJA;2TA;2THA;2DA;2dh;2NUE
2NA;2DDA;2PA;2PPA;2ph;2BA;2bh;2MUE;2MA;2BBA;2YA;2RA;2LA;2VA;2SSA;2SA;2HA;1vo g AA;3I;3II;3EI;3U;3OE
3O;3AI;3AU;3UE;1cn g YA;3RA;3LA;3WA;@AA40 1l fi K;3G;3NG;12cn g;1l fi CH;3T;3N;3P;3Y;3R;3L;3SS
1cn g fi M;4H;@AA50 1di z;2on;2tw;2t;2u;2fv;2sx;2se;2ei;2ni;@AA5C 1pu SPIRAL;2dn;21d;21tp
0MYANMAR l KHAMTI GA;3CA;3ch;3JA;3jh;3ya;3TTA;3ta;3DDA;3dd;3dh;3NA;3SA;3HA;3HHA;3FA
1mf l KHAMTI REDUPLICATION;1l KHAMTI XA;3ZA;3RA;1LOGOGRAM KHAMTI OAY;3QN;3HM;1y AITON ex;3on;3tw
1l AITON RA;1g PAO KAREN TONE;2TAI LAING TONE-2;4TONE-5;1l SHWE PALAUNG ch;4SHA;0TAI VIET l lw KO
31hi;3lw KHO;31hi;3lw KHHO;31hi;3lw GO;31hi;3lw NGO;31hi;3lw CO;31hi;3lw CHO;31hi;3lw SO;31hi
3lw NYO;31hi;3lw DO;31hi;3lw TO;31hi;3lw THO;31hi;3lw NO;31hi;3lw BO;31hi;3lw PO;31hi;3lw PHO;31hi
3lw FO;31hi;3lw MO;31hi;3lw YO;31hi;3lw RO;31hi;3lw LO;31hi;3lw VO;31hi;3lw HO;31hi;3lw O;31hi
2MAI KANG;2vo AA;3I;3UE;3U;3E;3O;2MAI KHIT;2vo IA;3UEA;3UA;3AUE;3AY;3AN;3AM;2TONE MAI EK;4NUENG;4THO
4SONG;@AADB 2y KON;3NUENG;3SAM;3HO HOI;3KOI KOI;0MEETEI MAYEK l E;3O;3ch;3ya;3TTA;3ta;3DDA;3dd;3NNA
3SHA;3SSA;2vo g II;4UU;4AAI;4AU;4AAU;2CHEIKHAN;2AHANG KHUDAM;2ANJI;2sy REPETITION ma;22wo;2vo g vi
2vr;@AB01 0ETHIOPIC sy TTHU;2TTHI;2TTHAA;2TTHEE;2TTHE;2TTHO;@AB09 2DDHU;2DDHI;2DDHAA;2DDHEE;2DDHE
2DDHO;@AB11 2DZU;2DZI;2DZAA;2DZEE;2DZE;2DZO;@AB20 2CCHHA;2CCHHU;2CCHHI;2CCHHAA;2CCHHEE;2CCHHE;2CCHHO
@AB28 2BBA;2BBU;2BBI;2BBAA;2BBEE;2BBE;2BBO;@AB30 0lt s l BARRED ap;3A REVERSED-SCHWA;3BLACKLETTER E
31BARRED;3E w FLOURISH;3LENIS F;3cp G w rd;3L w iv LAZY S;5d mi tl;5mi rn;3M w rd;32N;32ENG
3BLACKLETTER O;5w k;33oe;3iv OE;3tu OE w k;61h;4O OPEN-O;6w k;3STIRRUP R;1l s c R w r LEG
1s l R wu HANDLE;3d R;3R w rd;33d;3cp R;5w rn;3BASELINE ESH;3U w sh r LEG;44BAR;3UI;31tu;3U w f ho
3CHI;4w lw r rn;6f SERIF;3X w lw r rn;5ln f LEG;8n lw r rn;8w SERIF;3Y w sh r LEG;0mf bv w iv bv
1l s HENG;3L w iv LAZY S;5mi tl;3U w f ho;0lt s l SAKHA YAT;3if E;3oe OE;3UO;3iv ap;0ge l s c og
0lt s l DZ dr w rt ho;34TS;3tu R w mi tl;0mf l s tu W;2f tc;21r;@AB70 0CHEROKEE s l A;3E;3I;3O;3U;3V
3GA;3KA;3GE;3GI;3GO;3GU;3GV;3HA;3HE;3HI;3HO;3HU;3HV;3LA;3LE;3LI;3LO;3LU;3LV;3MA;3ME;3MI;3MO;3MU;3NA
3HNA;3NAH;3NE;3NI;3NO;3NU;3NV;3QUA;3QUE;3QUI;3QUO;3QUU;3QUV;3SA;3S;3SE;3SI;3SO;3SU;3SV;3DA;3TA;3DE
3TE;3DI;3TI;3DO;3DU;3DV;3DLA;3TLA;3TLE;3TLI;3TLO;3TLU;3TLV;3TSA;3TSE;3TSI;3TSO;3TSU;3TSV;3WA;3WE;3WI
3WO;3WU;3WV;3YA;0MEETEI MAYEK l KOK;3SAM;3LAI;3MIT;3PA;3NA;3CHIL;3TIL;3KHOU;3NGOU;3THOU;3WAI;3yn
3HUK;3UN;3I;3PHAM;3ATIYA;3GOK;3JHAM;3RAI;3BA;3JIL;3DIL;3GHOU;3DHOU;3BHAM;3KOK LONSUM;31LAI;31MIT
31PA;31NA;31TIL;31NGOU;31I;2vo g ONAP;4INAP;4ANAP;4YENAP;4SOUNAP;4UNAP;4CHEINAP;4NUNG;2CHEIKHEI
2LUM IYEK;21APUN;@ABF0 2di z;3on;3tw;3t;3u;3fv;3sx;3se;3ei;3ni;@D7B0 0au JUNGSEONG O-YEO;2O-O-I
2YO-A;2YO-AE;2YO-EO;2U-YEO;2U-I-I;2YU-AE;2YU-O;2EU-A;2EU-EO;2EU-E;2EU-O;2I-YA-O;2I-YAE;2I-YEO;2I-YE
2I-O-I;2I-YO;2I-YU;2I-I;2ARAEA-A;2ARAEA-E;@D7CB 1JONGSEONG NIEUN-RIEUL;2NIEUN-CHIEUCH;2gk
2SSANGTIKEUT-PIEUP;2TIKEUT-PIEUP;2TIKEUT-SIOS;2TIKEUT-SIOS-KIYEOK;2TIKEUT-CIEUC;2TIKEUT-CHIEUCH
2TIKEUT-THIEUTH;2RIEUL-SSANGKIYEOK;2RIEUL-KIYEOK-HIEUH;2SSANGRIEUL-KHIEUKH;2RIEUL-MIEUM-HIEUH
2RIEUL-PIEUP-TIKEUT;2RIEUL-PIEUP-PHIEUPH;2RIEUL-YESIEUNG;2RIEUL-YEORINHIEUH-HIEUH;2KAPYEOUNRIEUL
2MIEUM-NIEUN;2MIEUM-SSANGNIEUN;2SSANGMIEUM;2MIEUM-PIEUP-SIOS;2MIEUM-CIEUC;2uk;2PIEUP-RIEUL-PHIEUPH
2PIEUP-MIEUM;2gp;2pk;2PIEUP-CIEUC;2PIEUP-CHIEUCH;2SIOS-MIEUM;2SIOS-KAPYEOUNPIEUP;2SSANGSIOS-KIYEOK
2SSANGSIOS-TIKEUT;2SIOS-PANSIOS;2SIOS-CIEUC;2SIOS-CHIEUCH;2SIOS-THIEUTH;2SIOS-HIEUH;2PANSIOS-PIEUP
2PANSIOS-KAPYEOUNPIEUP;2YESIEUNG-MIEUM;2YESIEUNG-HIEUH;2CIEUC-PIEUP;2CIEUC-SSANGPIEUP;2gc
2PHIEUPH-SIOS;2PHIEUPH-THIEUTH;@FB00 0lt s lg FF;3FI;3FL;3FFI;3FFL;3ln S T;3ST
@FB13 0ARMENIAN s lg MEN NOW;4ECH;4INI;3VEW NOW;3MEN XEH;@FB1D 0HEBREW l YOD w HIRIQ
1POINT JUDEO-SPANISH VARIKA;1lg YIDDISH YOD YOD PATAH;1l ALTERNATIVE yi;2WIDE al;3DALET;3HE;3kf
3LAMED;3fi MEM;3RESH;3TAV;2ALTERNATIVE pl g;2SHIN w SHIN dt;41SIN;41DAGESH n SHIN;61SIN;2al w PATAH
4qm;4MAPIQ;2BET w DAGESH;22gi;22DALET;2HE w MAPIQ;2VAV w DAGESH;22za;@FB38 22TET;22YOD;22fi kf;23
22LAMED;@FB3E 22MEM;@FB40 22NUN;22sk;@FB43 22fi PE;23;@FB46 22TSADI;22QOF;22RESH;22SHIN;22TAV
2VAV w HOLAM;2BET w RAFE;22kf;22PE;1lg al LAMED;0rb l al WASLA is fo;41fi;21BEEH is;31fi;31in;31md
21PEH is;31fi;31in;31md;21BEHEH is;31fi;31in;31md;21TTEHEH is;31fi;31in;31md;21TEHEH is;31fi;31in
31md;21TTEH is;31fi;31in;31md;21VEH is;31fi;31in;31md;21PEHEH is;31fi;31in;31md;21DYEH is;31fi;31in
31md;21NYEH is;31fi;31in;31md;21TCHEH is;31fi;31in;31md;21TCHEHEH is;31fi;31in;31md;21DDAHAL is;31fi
21DAHAL is;31fi;21DUL is;31fi;21DDAL is;31fi;21JEH is;31fi;21RREH is;31fi;21KEHEH is;31fi;31in;31md
21GAF is;31fi;31in;31md;21GUEH is;31fi;31in;31md;21NGOEH is;31fi;31in;31md;21nn GHUNNA is;41fi
21RNOON is;31fi;31in;31md;21HEH w yh a is;61fi;31GOAL is;41fi;41in;41md;31DOACHASHMEE is;41fi;41in
41md;21yh BARREE is;41fi;41w hm a is;71fi;1y dt a;3be;2tw ot a;4be;2t ot a;4be;4po o a;6be;2u ot a
4be;21d v BAR;2tw ot ve a;5be;2rn;2s TAH a;4be;2WASLA a;@FBD3 1l NG is fo;31fi;31in;31md;21U is;31fi
21OE is;31fi;21YU is;31fi;21U w hm a is;22VE;31fi;21kz OE is;41fi;31YU is;41fi;21E is;31fi;31in;31md
21UIGHUR KAZAKH kz al mk in;71md;11lg yh w hm a w al is;81fi;71AE is;81fi;71wa is;81fi;71U is;81fi
71OE is;81fi;71YU is;81fi;71E is;81fi;81in;21UIGHUR kz yh w hm a w al mk is;91al mk fi;91al mk in
11l FARSI yh is;41fi;41in;41md;11lg yh w hm a w j is;72hh;72mm;72al mk;72yh;22BEH w j;42hh;42kh;42mm
42al mk;42yh;22TEH w j;42hh;42kh;42mm;42al mk;42yh;22THEH w j;42mm;42al mk;42yh;22j w hh;42mm
22hh w j;42mm;22kh w j;42hh;42mm;22SEEN w j;42hh;42kh;42mm;22SAD w hh;42mm;22DAD w j;42hh;42kh;42mm
22TAH w hh;42mm;24ZAH;22AIN w j;42mm;22gh w j;42mm;22FEH w j;42hh;42kh;42mm;42al mk;42yh;22qf w hh
42mm;42al mk;42yh;22kf w al;42j;42hh;42kh;42LAM;42mm;42al mk;42yh;22LAM w j;42hh;42kh;42mm;42al mk
42yh;22mm w j;42hh;42kh;42mm;42al mk;42yh;22nn w j;42hh;42kh;42mm;42al mk;42yh;22HEH w j;42mm
42al mk;42yh;22yh w j;42hh;42kh;42mm;42al mk;42yh;22THAL w sr al;25REH;25al mk;22SHADDA w DAMMATAN
42KASRATAN;42fh;42DAMMA;42KASRA;42sr al;21yh w hm a w REH fi;72zi;72mm;72nn;72al mk;72yh;22BEH w REH
42zi;42mm;42nn;42al mk;42yh;22TEH w REH;42zi;42mm;42nn;42al mk;42yh;22THEH w REH;42zi;42mm;42nn
42al mk;42yh;22FEH w al mk;42yh;22qf w al mk;42yh;22kf w al;42LAM;42mm;42al mk;42yh;22LAM w mm
42al mk;42yh;22mm w al;42mm;22nn w REH;42zi;42mm;42nn;42al mk;42yh;22al mk w sr al;22yh w REH;42zi
42mm;42nn;42al mk;42yh;41hm a w j in;72hh;72kh;72mm;72HEH;22BEH w j;42hh;42kh;42mm;42HEH;22TEH w j
42hh;42kh;42mm;42HEH;22THEH w mm;22j w hh;42mm;22hh w j;42mm;22kh w j;42mm;22SEEN w j;42hh;42kh;42mm
22SAD w hh;42kh;42mm;22DAD w j;42hh;42kh;42mm;22TAH w hh;22ZAH w mm;22AIN w j;42mm;22gh w j;42mm
22FEH w j;42hh;42kh;42mm;22qf w hh;42mm;22kf w j;42hh;42kh;42LAM;42mm;22LAM w j;42hh;42kh;42mm;42HEH
22mm w j;42hh;42kh;42mm;22nn w j;42hh;42kh;42mm;42HEH;22HEH w j;42mm;42sr al;22yh w j;42hh;42kh;42mm
42HEH;41hm a w mm md;72HEH;22BEH w mm;42HEH;22TEH w mm;42HEH;22THEH w mm;42HEH;22SEEN w mm;42HEH
22ee w mm;42HEH;22kf w LAM;42mm;24LAM;24nn;42HEH;22yh w mm;42HEH;22SHADDA w fh;42DAMMA;42KASRA
21TAH w al mk is;42yh;22AIN w al mk;42yh;22gh w al mk;42yh;22SEEN w al mk;42yh;22ee w al mk;42yh
22hh w al mk;42yh;22j w al mk;42yh;22kh w al mk;42yh;22SAD w al mk;42yh;22DAD w al mk;42yh;22ee w j
42hh;42kh;42mm;42REH;24SEEN;24SAD;24DAD;21TAH w al mk fi;42yh;22AIN w al mk;42yh;22gh w al mk;42yh
22SEEN w al mk;42yh;22ee w al mk;42yh;22hh w al mk;42yh;22j w al mk;42yh;22kh w al mk;42yh
22SAD w al mk;42yh;22DAD w al mk;42yh;22ee w j;42hh;42kh;42mm;42REH;24SEEN;24SAD;24DAD;21ee w j in
42hh;42kh;42mm;22SEEN w HEH;24ee;22TAH w mm;21SEEN w j md;42hh;42kh;22ee w j;42hh;42kh;22TAH w mm
24ZAH;21al w FATHATAN fi;51is;0ORNATE f pa;11r;0rb lg RAHIMAHU ALLAAH;2RADI ALLAAHU ANH;4ANHAA
4ANHUM;4ANHUMAA;4ANHUNNA;2SALLALLAAHU ALAYHI WA-AALIH;2ALAYHI AS-SALAAM;21ALAYHIM;21ALAYHIMAA
2ALAYHI AS-SALAATU WAS-SALAAM;2QUDDISA SIRRAH;2SALLALLAHU ALAYHI WAAALIHEE WA-SALLAM
2ALAYHAA AS-SALAAM;2TABAARAKA WA-TAAALAA;2RAHIMAHUM ALLAAH;2TEH w j w mm in fo;41hh w j fi;71in;62mm
44kh;42mm w j;62hh;62kh;21j w mm w hh fi;71in;21hh w mm w yh fi;62al mk;21SEEN w hh w j in;42j w hh
61al mk fi;42mm w hh;71in;62j;61mm fi;71in;21SAD w hh w hh fi;71in;41mm w mm fi;24ee w hh;71in
41j w yh fi;42mm w kh;71in;61mm fi;71in;21DAD w hh w al mk fi;42kh w mm;71in;21TAH w mm w hh fi;71in
62mm;61yh fi;22AIN w j w mm;44mm;71in;61al mk fi;22gh w mm w mm;62yh;62al mk;22FEH w kh w mm;71in
21qf w mm w hh fi;62mm;24LAM w hh;62yh;62al mk;41j w j in;71fi;42kh w mm;71in;41mm w hh fi;71in
22mm w hh w j;62mm;61yh fi;41j w hh in;62mm;42kh w j;62mm;@FD92 42j w kh;22HEH w mm w j;62mm
24nn w hh;61al mk fi;42j w mm;71in;61al mk fi;42mm w yh;62al mk;22yh w mm w mm;71in
21BEH w kh w yh fi;24TEH w j;62al mk;42kh w yh;62al mk;42mm w yh;62al mk;22j w mm w yh;42hh w al mk
45mm;25SEEN w kh;22SAD w hh w yh;26ee;26DAD;24LAM w j;44mm;24yh w hh;44j;44mm;26mm;26qf;24nn w hh
21qf w mm w hh in;22LAM w hh w mm;21AIN w mm w yh fi;26kf;21nn w j w hh in;21mm w kh w yh fi
21LAM w j w mm in;21kf w mm w mm fi;24LAM w j;22nn w j w hh;22j w hh w yh;24hh w j;26mm;24FEH w mm
24BEH w hh;21kf w mm w mm in;24AIN w j;24SAD w mm;21SEEN w kh w yh fi;24nn w j
@FDCF 2SALAAMUHU ALAYNAA;@FDF0 2SALLA USED AS KORANIC STOP g is fo;27QALA;22ALLAH;22AKBAR;22MOHAMMAD
22SALAM;22RASOUL;22ALAYHE;22WASALLAM;22SALLA;2SALLALLAHOU ALAYHE WASALLAM;2JALLAJALALOUHOU;0RIAL g
0rb lg BISMILLAH AR-RAHMAN AR-RAHEEM;2SUBHAANAHU WA TAAALAA;2AZZA WA JALL;0VARIATION SELECTOR-1
1SELECTOR-2;1SELECTOR-3;1SELECTOR-4;1SELECTOR-5;1SELECTOR-6;1SELECTOR-7;1SELECTOR-8;1SELECTOR-9
1SELECTOR-10;1SELECTOR-11;1SELECTOR-12;1SELECTOR-13;1SELECTOR-14;1SELECTOR-15;1SELECTOR-16
0PRESENTATION fo FOR v om;41ie;5fu STOP;4ol;4em;4ex ma;41qu;4f wh lu br;4r wh lu BRAKCET;4h ELLIPSIS
@FE20 0co lg f hl;21r;11d tl f;31r;11mc f;21r;1CONJOINING mc;1lg f hl be;22r;12tl f;22r;12mc f;22r
11CONJOINING mc;1cy TITLO f hl;31r;0PRESENTATION fo FOR v tw dt LEADER;4EM DASH;41EN;4lw ne;42wy
4f pa;41r;4f cu br;42r;41f ts SHELL;43r;41f b lu;43r;41f d ag;43r;42f;42r;41f rr;42r;42f wh;43r
0SESAME dt;02wh;0PRESENTATION fo FOR v f q br;42r;0DASHED vl;01CENTRELINE;01wy;02d;0DASHED lw ne
02CENTRELINE;02wy;0s om;11ie;1fu STOP;@FE54 1em;1ol;1qu ma;11ex;1EM DASH;1f pa;11r;1f cu br;12r
11f ts SHELL;13r;1nu g;1mr;1as;1pl g;1hp;1le g;11gr;11eu;@FE68 1rv sl;1DOLLAR g;11PERCENT;1oc AT
@FE70 0rb FATHATAN is fo;1wl w FATHATAN a;1DAMMATAN is fo;1il FRAGMENT;1KASRATAN is fo;@FE76 12fh
21md;11DAMMA is;21md;11KASRA is;21md;11SHADDA is;21md;11SUKUN is;21md;11l hm is;22al w MADDA a;61fi
41hm a is;61fi;21wa w hm a is;61fi;21al w hm be is;61fi;21yh w hm a is;61fi;61in;61md;21al is;31fi
21BEH is;31fi;31in;31md;21TEH MARBUTA is;41fi;31is;31fi;31in;31md;21THEH is;31fi;31in;31md;21j is
31fi;31in;31md;21hh is;31fi;31in;31md;21kh is;31fi;31in;31md;21DAL is;31fi;21THAL is;31fi;21REH is
31fi;21zi is;31fi;21SEEN is;31fi;31in;31md;21ee is;31fi;31in;31md;21SAD is;31fi;31in;31md;21DAD is
31fi;31in;31md;21TAH is;31fi;31in;31md;21ZAH is;31fi;31in;31md;21AIN is;31fi;31in;31md;21gh is;31fi
31in;31md;21FEH is;31fi;31in;31md;21qf is;31fi;31in;31md;21kf is;31fi;31in;31md;21LAM is;31fi;31in
31md;21mm is;31fi;31in;31md;21nn is;31fi;31in;31md;21HEH is;31fi;31in;31md;21wa is;31fi;21al mk is
41fi;21yh is;31fi;31in;31md;11lg LAM w al w MADDA a is;81fi;61hm a is;81fi;71be is;81fi;51is;51fi
@FEFF 0z WIDTH NO-BREAK SPACE;@FF01 0FULLWIDTH ex ma;11qo;1nu g;11DOLLAR;11PERCENT;1mr;1pt;1f pa;11r
1as;1pl g;1om;1hp;1fu STOP;1sl;1di z;2on;2tw;2t;2u;2fv;2sx;2se;2ei;2ni;1ol;1em;1le g;11eu;11gr
1qu ma;1oc AT;1lt c l A;4B;4C;4D;4E;4F;4G;4H;4I;4J;4K;4L;4M;4N;4O;4P;4Q;4R;4S;4T;4U;4V;4W;4X;4Y;4Z
1f q br;1rv sl;1r q br;1x cc;1lw ne;1ga cc;1lt s l A;4B;4C;4D;4E;4F;4G;4H;4I;4J;4K;4L;4M;4N;4O;4P;4Q
4R;4S;4T;4U;4V;4W;4X;4Y;4Z;1f cu br;1v ne;1r cu br;1tl;1f wh pa;12r;0HALFWIDTH ie fu STOP;1f rr br
12r;1ie om;1ka mi dt;2l WO;3s A;4I;4U;4E;4O;4YA;4YU;4YO;4TU;1kt PROLONGED ud ma;1ka l A;3I;3U;3E;3O
3KA;3KI;3KU;3KE;3KO;3SA;3SI;3SU;3SE;3SO;3TA;3TI;3TU;3TE;3TO;3NA;3NI;3NU;3NE;3NO;3HA;3HI;3HU;3HE;3HO
3MA;3MI;3MU;3ME;3MO;3YA;3YU;3YO;3RA;3RI;3RU;3RE;3RO;3WA;3N;2vd ud ma;22SEMI-VOICED;1au FILLER;2l ky
3gy;3yk;3NIEUN;3uc;3uu;3ik;3gk;3RIEUL;3rk;3rm;3rp;3RIEUL-SIOS;3RIEUL-THIEUTH;3RIEUL-PHIEUPH;3ue
3MIEUM;3PIEUP;3gp;3PIEUP-SIOS;3SIOS;3SSANGSIOS;3IEUNG;3CIEUC;3gc;3ec;3ki;3uh;3pp;3HIEUH;@FFC2 3A;3AE
3YA;3YAE;3EO;3E;@FFCA 3YEO;3YE;3O;3WA;3WAE;3OE;@FFD2 3YO;3U;3WEO;3WE;3WI;3YU;@FFDA 3EU;3YI;3I
@FFE0 0FULLWIDTH CENT g;11POUND;11NOT;1mc;1BROKEN BAR;1YEN g;11WON;@FFE8 0HALFWIDTH FORMS li v;1e ar
11p;11i;11o;1b q;1wh ci;@FFF9 0INTERLINEAR ANNOTATION ANCHOR;2sp;2TERMINATOR;0OBJECT REPLACEMENT hc
02"

end Deminify.Text.CharName
