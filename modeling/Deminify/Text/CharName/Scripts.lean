/-!
# Names of the characters of living scripts

Entries are parted by semicolons and the ends of lines. An entry has the number of words that it
shares with the start of the one before it, the number of those that it shares with the end of that, if
there are any, and then its other words, of which the frequent ones are abbreviated; a code point stands
before it where the count leaves a gap.
-/

namespace Deminify.Text.CharName

/-- The names up to `1FFF`. -/
def scripts : String := "
@20 0SPACE;0ex ma;01qo;0nu g;01DOLLAR;01PERCENT;0mr;0pt;0f pa;01r;0as;0pl g;0om;0hp;0fu STOP;0sl
0di z;1on;1tw;1t;1u;1fv;1sx;1se;1ei;1ni;0ol;0em;0le g;01eu;01gr;0qu ma;0oc AT;0lt c l A;3B;3C;3D;3E
3F;3G;3H;3I;3J;3K;3L;3M;3N;3O;3P;3Q;3R;3S;3T;3U;3V;3W;3X;3Y;3Z;0f q br;0rv sl;0r q br;0x cc;0lw ne
0ga cc;0lt s l A;3B;3C;3D;3E;3F;3G;3H;3I;3J;3K;3L;3M;3N;3O;3P;3Q;3R;3S;3T;3U;3V;3W;3X;3Y;3Z;0f cu br
0v ne;0r cu br;0tl;@A0 0NO-BREAK SPACE;0iv ex ma;0CENT g;01POUND;01uy;01YEN;0BROKEN BAR;0sc g;0da
0COPYRIGHT g;0FEMININE ORDINAL ic;0lf d ag qo ma;0NOT g;0of hy;0REGISTERED g;0mc;0DEGREE g
01PLUS-MINUS;0sr tw;1t;0ac cc;0MICRO g;01PILCROW;0mi dt;0cd;0sr on;0MASCULINE ORDINAL ic
0ri d ag qo ma;0VULGAR fr on qa;3hl;2t qr;0iv qu ma;0lt c l A w ga;5ac;5x;5tl;5da;5rn a;3AE;3C w cd
3E w ga;5ac;5x;5da;3I w ga;5ac;5x;5da;3ETH;3N w tl;3O w ga;5ac;5x;5tl;5da;0mu g;0lt c l O w k
3U w ga;5ac;5x;5da;3Y w ac;3THORN;1s l SHARP S;3A w ga;5ac;5x;5tl;5da;5rn a;3AE;3C w cd;3E w ga;5ac
5x;5da;3I w ga;5ac;5x;5da;3ETH;3N w tl;3O w ga;5ac;5x;5tl;5da;0dv g;0lt s l O w k;3U w ga;5ac;5x;5da
3Y w ac;3THORN;3Y w da;1c l A w mc;14s;1c l A w bv;14s;1c l A w ok;14s;1c l C w ac;14s;1c l C w x
14s;1c l C w dt a;15s;1c l C w CARON;14s;12c l D;14s;1c l D w k;14s;1c l E w mc;14s;1c l E w bv;14s
1c l E w dt a;15s;1c l E w ok;14s;1c l E w CARON;14s;1c l G w x;14s;1c l G w bv;14s;1c l G w dt a
15s;1c l G w cd;14s;1c l H w x;14s;1c l H w k;14s;1c l I w tl;14s;1c l I w mc;14s;1c l I w bv;14s
1c l I w ok;14s;1c l I w dt a;1s l os I;1c lg IJ;12s;1c l J w x;14s;1c l K w cd;14s;3KRA;1c l L w ac
14s;1c l L w cd;14s;1c l L w CARON;14s;1c l L w mi dt;15s;1c l L w k;14s;1c l N w ac;14s;1c l N w cd
14s;1c l N w CARON;14s;4PRECEDED BY pt;1c l ENG;12s;1c l O w mc;14s;1c l O w bv;14s;1c l O w d ac
15s;1c lg OE;12s;1c l R w ac;14s;1c l R w cd;14s;1c l R w CARON;14s;1c l S w ac;14s;1c l S w x;14s
1c l S w cd;14s;1c l S w CARON;14s;1c l T w cd;14s;1c l T w CARON;14s;1c l T w k;14s;1c l U w tl;14s
1c l U w mc;14s;1c l U w bv;14s;1c l U w rn a;15s;1c l U w d ac;15s;1c l U w ok;14s;1c l W w x;14s
12c l Y;14s;1c l Y w da;3Z w ac;14s;1c l Z w dt a;15s;1c l Z w CARON;14s;3ln S;3B w k;1c l B w ho
5TOPBAR;14s;1c l TONE sx;13s;1c l oe O;3C w ho;14s;1c l AFRICAN D;3D w ho;5TOPBAR;14s;3tu et
1c l re E;3cw;3oe E;3F w ho;14s;12c l G;3gm;1s l HV;1c l io;3I w k;3K w ho;14s;3L w BAR;3LAMBDA w k
1c l tu M;3N w f ho;1s l N w ln r LEG;1c l O w mi tl;5HORN;14s;1c l OI;12s;1c l P w ho;14s;1l YR
1c l TONE tw;13s;1c l ESH;1l re ESH LOOP;1s l T w PALATAL ho;11c l T w;14s;11c l T w rt;3U w HORN
14s;1c l us;3V w ho;32Y;14s;1c l Z w k;14s;1c l EZH;4re;13s;4w il;1l tw w k;1c l TONE fv;13s
1l iv gl STOP w k;2WYNN;2DENTAL CLICK;21LATERAL;21ALVEOLAR;21rt;1c l DZ w CARON;32D w s l Z;12s l DZ
1c l LJ;3L w s l J;1s l LJ;1c l NJ;3N w s l J;1s l NJ;1c l A w CARON;14s;12c l I;14s;12c l O;14s
12c l U;14s;1c l U w da n mc;16s;1c l U w da n ac;16s;1c l U w da n CARON;16s;1c l U w da n ga;16s
3tu E;1c l A w da n mc;16s;12c l A w dt a;17s;11c l AE w;14s;1c l G w k;14s;1c l G w CARON;14s
12c l K;14s;1c l O w ok;14s;1c l O w ok n mc;16s;1c l EZH w CARON;14s;32J;1c l DZ;3D w s l Z;1s l DZ
1c l G w ac;14s;1c l HWAIR;3WYNN;3N w ga;14s;1c l A w rn a n ac;17s;11c l AE w;14s;11c l O w k n;16s
1c l A w d ga;15s;1c l A w iv bv;15s;1c l E w d ga;15s;1c l E w iv bv;15s;1c l I w d ga;15s
1c l I w iv bv;15s;1c l O w d ga;15s;1c l O w iv bv;15s;1c l R w d ga;15s;1c l R w iv bv;15s
1c l U w d ga;15s;1c l U w iv bv;15s;1c l S w om be;15s;13c l T;15s;1c l YOGH;12s;1c l H w CARON;14s
1c l N w ln r LEG;1s l D w ur;1c l OU;12s;1c l Z w ho;14s;1c l A w dt a;15s;1c l E w cd;14s
1c l O w da n mc;16s;12c l O w tl;16s;1c l O w dt a;15s;1c l O w dt a n mc;17s;11c l Y w;14s;3L w ur
32N;32T;3os J;3DB dr;31QP;1c l A w k;32C;14s;1c l L w BAR;3T w dg k;1s l S w SWASH il;33Z
1c l gl STOP;13s;1c l B w k;3U BAR;3tu V;3E w k;14s;12c l J;14s;1c l s Q w ho il;14s l;1c l R w k
14s;12c l Y;14s;3tu A;3ap;31tu;3B w ho;3oe O;3C w ur;3D w il;5ho;3re E;3cw;4w ho;3oe E;32re;6w ho
3cl re oe E;3os J w k;3G w ho;3cp G;11l s c;1s l gm;3RAMS HORN;3tu H;3H w ho;32HENG;3I w k;3io
1l s c I;1s l L w mi tl;5BELT;5rt ho;3LEZH;3tu M;5w ln LEG;3M w ho;31N w f;51rt;1l s c N
1s l BARRED O;1l s c OE;1s l cl og;3PHI;3tu R;5w ln LEG;6ho;3R w ln LEG;5il;5fs;33re;1l s c R;41iv
1s l S w ho;3ESH;3os J w k n ho;3SQUAT re ESH;3ESH w ur;3tu T;3T w rt ho;3U BAR;3us;3V w ho;3tu V;4W
4Y;11l s c;1s l Z w rt ho;5ur;3EZH;4w ur;1l gl STOP;2PHARYNGEAL vd FRICATIVE;2iv gl STOP
2STRETCHED C;2bb CLICK;2s c B;1s l cl oe E;1l s c G w ho;4H;1s l J w rd;3tu K;1l s c L;1s l Q w ho
1l gl STOP w k;24re;1s l DZ dr;31DEZH;3DZ dr w ur;3TS dr;31TESH;3TC dr w ur;3FENG dr;31LS;31LZ
1l bb PERCUSSIVE;21BIDENTAL;1s l tu H w fs;7n il;0mf l s H;4w ho;3J;3R;31tu;5w ho;3c iv R;3W;3Y
2PRIME;21d;2tu om;2pt;2re om;2r hl rn;22f;2gl STOP;22re;2f ao;21r;21UP;21do;2x cc;0CARON;0mf l v ne
2mc;2ac cc;21ga;2lw v ne;3mc;3ga cc;31ac;2tg ol;22hl;2CENTRED r hl rn;32f;2UP tc;21do;2pl g;21mn;0bv
0dt a;01rn;0ok;0s tl;0d ac cc;0mf l RHOTIC ho;2rs cc;2s gm;3L;3S;3X;3re gl STOP;2xa TONE BAR;22hi
22MID;22lw;22ew;2YIN DEPARTING TONE ma;23yn;2VOICING;2UNASPIRATED;2d pt;2lw do ao;31UP;31f;31r;3rn
2mi ga cc;32d;41ac;2lw tl;2ra ol;2BEGIN hi TONE;22END;21BEGIN lw;22END;2SHELF;21oe;2lw f ar
0co ga cc;11ac;11x;1tl;1mc;1vl;1bv;1dt a;1da;1ho a;11rn;1d ac cc;1CARON;1v ne a;13d;2ga cc;1ca
1iv bv;1tu om a;12;12re;1om a r;1ga cc be;12ac;11f tc;12r;1f ag a;1HORN;1f hl rn be;11UP tc;12do
11pl g;12mn;11PALATALIZED ho;12rt;11dt;11da;11rn;11om;1cd;1ok;1v ne be;11BRIDGE;11iv d ARCH;11CARON
11x cc;11bv;12iv;11tl;11mc;1lw ne;12d;1tl oy;11sh k;12ln;11sh sl;12ln;1r hl rn be;11iv BRIDGE;11q
11SEAGULL;1X a;1v tl;1d vl;1ga TONE ma;12ac;1ge pe;2KORONIS;2dl TONOS;2yp;1BRIDGE a;1eu g be
11d v ne;11f ag;1NOT tl a;11HOMOTHETIC;11ls eq TO;1f r ar be;12p;1GRAPHEME jo;1r ao a;11f hl rn
1FERMATA;1X be;11f ao;12r;31n UP ao;2hl rn a;1dt a r;1as be;11d rn;1zg a;1d bv be;3;2mc;3be;2tl
2iv bv;2i ar be;1lt s l A;4E;4I;4O;4U;4C;4D;4H;4M;4R;4T;4V;4X;0ge c l HETA;12s;1c l ah SAMPI;13s
1nm g;12lo;1c l PAMPHYLIAN DIGAMMA;13s;@37A 1yp;1s re LUNATE im y;23de;24re;1qu ma;1c l YOT
@384 1TONOS;11dl;11c l ap w;1ANO TELEIA;1c l ep w TONOS;32ETA;32io;@38C 32oi;@38E 32us;32og
11s l io w dl n;1c l ap;3BETA;3gm;3et;3ep;3ze;3ETA;3ht;3io;3kp;3ld;3MU;3NU;3XI;3oi;3PI;3RHO;@3A3 3im
3TAU;3us;3PHI;3CHI;3PSI;3og;3io w dl;32us;1s l ap w TONOS;32ep;32ETA;32io;31us w dl n;3ap;3BETA;3gm
3et;3ep;3ze;3ETA;3ht;3io;3kp;3ld;3MU;3NU;3XI;3oi;3PI;3RHO;3fi im;31;3TAU;3us;3PHI;3CHI;3PSI;3og
3io w dl;32us;3oi w TONOS;32us;32og;1c KAI y;11BETA;11ht;11us w ho;32ac n;33da;11PHI;11PI;11KAI
1l ah KOPPA;13s;1l STIGMA;12s;1l DIGAMMA;12s;1l KOPPA;12s;1l SAMPI;12s;0ct c l SHEI;12s;1c l FEI;12s
1c l KHEI;12s;1c l HORI;12s;1c l GANGIA;12s;1c l SHIMA;12s;1c l DEI;12s;0ge kp y;11RHO;11LUNATE im
1l YOT;1c ht y;11LUNATE ep;13re;1c l SHO;12s;1c LUNATE im y;2l SAN;12s;1RHO w k y;11c re LUNATE im
23de;24re;0cy c l IE w ga;3IO;3DJE;3GJE;3UKRAINIAN IE;3DZE;3by I;3YI;3JE;3LJE;3NJE;3TSHE;3KJE
3I w ga;3sh U;3DZHE;3A;3BE;3VE;3GHE;3DE;3IE;3ZHE;3ZE;3I;31sh;3KA;3EL;3EM;3EN;3O;3PE;3ER;3ES;3TE;3U
3EF;3HA;3TSE;3CHE;3SHA;3SHCHA;3HARD g;3YERU;3of g;3E;3YU;3YA;1s l A;3BE;3VE;3GHE;3DE;3IE;3ZHE;3ZE;3I
31sh;3KA;3EL;3EM;3EN;3O;3PE;3ER;3ES;3TE;3U;3EF;3HA;3TSE;3CHE;3SHA;3SHCHA;3HARD g;3YERU;3of g;3E;3YU
3YA;3IE w ga;3IO;3DJE;3GJE;3UKRAINIAN IE;3DZE;3by I;3YI;3JE;3LJE;3NJE;3TSHE;3KJE;3I w ga;3sh U;3DZHE
1c l og;12s;1c l YAT;12s;1c l if E;13s;1c l ll YUS;13s;12c l if;14s;11c l BIG;13s;12c l if;14s
1c l KSI;12s;1c l PSI;12s;1c l FITA;12s;1c l iz;12s;1c l iz w d ga cc;16s;1c l UK;12s;1c l ROUND og
13s;1c l og w TITLO;14s;1c l OT;12s;1c l KOPPA;12s;1THOUSANDS g;0co cy TITLO;2PALATALIZATION
2ds PNEUMATA;21ps;2POKRYTIE;2hu THOUSANDS g;21MILLIONS;0cy c l sh I w il;15s;1c l SEMISOFT g;13s
1c l ER w TICK;14s;1c l GHE w UPTURN;14s;1c l GHE w k;14s;1c l GHE w mi ho;15s;1c l ZHE w dc;14s
12c l ZE;14s;12c l KA;14s;1c l KA w v k;15s;11c l KA w;14s;1c l BASHKIR KA;13s;1c l EN w dc;14s
1c lg EN GHE;13s;1c l PE w mi ho;15s;1c l ABKHASIAN HA;13s;1c l ES w dc;14s;12c l TE;14s;1c l st U
13s;1c l st U w k;15s;1c l HA w dc;14s;1c lg TE TSE;13s;1c l CHE w dc;14s;1c l CHE w v k;15s
1c l SHHA;12s;1c l ABKHASIAN CHE;13s;1c l ABKHASIAN CHE w dc;15s;1l PALOCHKA;1c l ZHE w bv;14s
1c l KA w ho;14s;1c l EL w il;14s;1c l EN w ho;14s;1c l EN w il;14s;1c l KHAKASSIAN CHE;13s
1c l EM w il;14s;3PALOCHKA;1c l A w bv;14s;1c l A w da;14s;1c lg A IE;13s;1c l IE w bv;14s;1c l cw
12s;1c l cw w da;14s;12c l ZHE;14s;12c l ZE;14s;1c l ABKHASIAN DZE;13s;1c l I w mc;14s;1c l I w da
14s;12c l O;14s;1c l BARRED O;13s;1c l BARRED O w da;15s;12c l E;14s;1c l U w mc;14s;1c l U w da;14s
1c l U w d ac;15s;1c l CHE w da;14s;1c l GHE w dc;14s;1c l YERU w da;14s;1c l GHE w k n ho;16s
11c l HA w;14s;1c l HA w k;14s;1c l KOMI DE;13s;1c l KOMI DJE;13s;1c l KOMI ZJE;13s;1c l KOMI DZJE
13s;1c l KOMI LJE;13s;1c l KOMI NJE;13s;1c l KOMI SJE;13s;1c l KOMI TJE;13s;1c l re ZE;13s
1c l EL w ho;14s;1c l LHA;12s;1c l RHA;12s;1c l YAE;12s;1c l QA;12s;1c l WE;12s;1c l ALEUT KA;13s
1c l EL w mi ho;15s;13c l EN;15s;1c l PE w dc;14s;12c l SHHA;14s;1c l EN w f ho;15s;1c l DZZHE;12s
1c l DCHE;12s;1c l EL w dc;14s;@531 0ARMENIAN c l AYB;3BEN;3GIM;3DA;3ECH;3ZA;3EH;3ET;3TO;3ZHE;3INI
3LIWN;3XEH;3CA;3KEN;3HO;3JA;3GHAD;3CHEH;3MEN;3YI;3NOW;3SHA;3VO;3ch;3PEH;3JHEH;3RA;3SEH;3VEW;3TIWN
3REH;3CO;3YIWN;3PIWR;3KEH;3OH;3FEH;@559 1mf l f hl rn;1pt;1EMPHASIS ma;11ex;1om;1qu ma;11ab
1s l tu AYB;31;3BEN;3GIM;3DA;3ECH;3ZA;3EH;3ET;3TO;3ZHE;3INI;3LIWN;3XEH;3CA;3KEN;3HO;3JA;3GHAD;3CHEH
3MEN;3YI;3NOW;3SHA;3VO;3ch;3PEH;3JHEH;3RA;3SEH;3VEW;3TIWN;3REH;3CO;3YIWN;3PIWR;3KEH;3OH;3FEH
2lg ECH YIWN;2l YI w k;1fu STOP;1hy;@58D 0gt ARMENIAN ETERNITY g;03ef;01ARMENIAN DRAM
@591 0HEBREW cc ETNAHTA;2SEGOL;2SHALSHELET;2ZAQEF QATAN;3GADOL;2TIPEHA;2REVIA;2ZARQA;2PASHTA;2YETIV
2TEVIR;2GERESH;3MUQDAM;2GERSHAYIM;2QARNEY PARA;2TELISHA GEDOLA;2PAZER;2ATNAH HAFUKH;2MUNAH;2MAHAPAKH
2MERKHA;3KEFULA;2DARGA;2QADMA;2TELISHA QETANA;2YERAH BEN YOMO;2OLE;2ILUY;2DEHI;2ZINOR;1ma MASORA ci
1POINT SHEVA;2HATAF SEGOL;3PATAH;3qm;2HIRIQ;2TSERE;2SEGOL;2PATAH;2qm;2HOLAM;3HASER FOR VAV;2QUBUTS
2DAGESH OR MAPIQ;2METEG;1pu MAQAF;1POINT RAFE;1pu PASEQ;1POINT SHIN dt;21SIN;1pu SOF PASUQ;1ma up dt
21lo;1pu NUN HAFUKHA;1POINT qm QATAN;@5D0 1l al;2BET;2gi;2DALET;2HE;2VAV;2za;2HET;2TET;2YOD;2fi kf
21;2LAMED;2fi MEM;21;2fi NUN;21;2sk;2yi;2fi PE;21;2fi TSADI;21;2QOF;2RESH;2SHIN;2TAV;@5EF 1YOD ti
1lg YIDDISH d VAV;3VAV YOD;31d;1pu GERESH;2GERSHAYIM;@600 0rb nu g;1g SANAH;1FOOTNOTE MARKER
1g SAFHA;2SAMVAT;1nu ma a;0ai CUBE ROOT;11FOURTH;0rb RAY;0ai PER MILLE g;21tn to;01AFGHANI;0rb om
1DATE sp;1POETIC VERSE g;1g MISRA;2SALLALLAHOU ALAYHE WASSALLAM;2ALAYHE ASSALLAM;2RAHMATULLAH ALAYHE
2RADI ALLAHOU ANHU;2TAKHALLUS;1s hi TAH;3lg al w LAM w yh;3zi;2fh;2DAMMA;2KASRA;1em;1l ma
11END OF tx;11tp dt pu;11qu;1l KASHMIRI yh;2hm;2al w MADDA a;41hm;23wa;2al w hm be;2yh w hm a;2al
2BEH;2TEH MARBUTA;3;2THEH;2j;2hh;2kh;2DAL;2THAL;2REH;2zi;2SEEN;2ee;2SAD;2DAD;2TAH;2ZAH;2AIN;2gh
2KEHEH w tw ot a;4t ot be;2FARSI yh w iv V;5tw ot a;52t;1wl;1l FEH;2qf;2kf;2LAM;2mm;2nn;2HEH;2wa
2al mk;2yh;1FATHATAN;1DAMMATAN;1KASRATAN;1fh;1DAMMA;1KASRA;1SHADDA;1SUKUN;1MADDAH a;11hm;2be;1ss al
1iv DAMMA;1ma nn GHUNNA;1ZWARAKAY;1vo g s V a;33iv;3dt be;1re DAMMA;1fh w tw ot;1wy hm be;0ai di z
2on;2tw;2t;2u;2fv;2sx;2se;2ei;2ni;0rb PERCENT g;1DECIMAL sp;11THOUSANDS;1fv pi STAR;1l os BEH;3qf
2sr al;2al WASLA;3w wy hm a;6be;2hi hm;4al;4wa;2U w hm a;2hi hm yh;2TTEH;2TTEHEH;2BEEH;2TEH w rn
4t ot a o;2PEH;2TEHEH;2BEHEH;2hh w hm a;41tw ot v;2NYEH;2DYEH;2hh w t ot a;2TCHEH;2TCHEHEH;2DDAL
2DAL w rn;4dt be;6n s TAH;2DAHAL;2DDAHAL;2DUL;2DAL w t ot a o;4u ot a;2RREH;2REH w s V;4rn;4dt be
41s V;4dt be n dt a;41tw ot;2JEH;2REH w u ot a;21SEEN w dt be n dt;4t ot be;7n t ot a
2SAD w tw ot be;4t ot a;24TAH;24AIN;2os FEH;2FEH w dt MOVED be;51;2VEH;2FEH w t ot be;2PEHEH
2qf w dt a;41t ot;2KEHEH;2SWASH kf;2kf w rn;4dt a;2NG;2kf w t ot be;2GAF;3w rn;2NGOEH
2GAF w tw ot be;2GUEH;2GAF w t ot a;2LAM w s V;4dt a;41t ot;6be;21nn w dt;3GHUNNA;2RNOON;2nn w rn
4t ot a;2HEH DOACHASHMEE;2TCHEH w dt a;21HEH w yh;3GOAL;4w hm a;2TEH MARBUTA GOAL;2wa w rn;2kz OE;21
2U;2YU;21kz;2wa w tw ot a;2VE;2FARSI yh;2yh w il;4s V;2wa w dt a;2E;2yh w t ot be;3BARREE;4w hm a
1fu STOP;1l AE;1s hi lg SAD w LAM w al mk;45qf;3mm in fo;3LAM al;3j;3t ot;3SEEN;1END OF AYAH
1START OF RUB EL HIZB;1s hi ou z;31UPRIGHT RECTANGULAR;3os HEAD OF kh;3mm is fo;2lw SEEN;2hi MADDA
2wa;2yh;21hi;3nn;1PLACE OF SAJDAH;1EMPTY ce lw STOP;31hi;1ou hi STOP w FILLED ce;1s lw mm
1l DAL w iv V;23REH;0ed ai di z;3on;3tw;3t;3u;3fv;3sx;3se;3ei;3ni;0rb l ee w dt be;23DAD;23gh
1g SINDHI mr;3POSTPOSITION MEN;1l HEH w iv V;0SYRIAC END OF pg;1SUPRALINEAR fu STOP;12SUBLINEAR
1SUPRALINEAR ol;11SUBLINEAR;11h;1ol SKEWED f;3r;1SUPRALINEAR ol SKEWED f;1SUBLINEAR ol SKEWED r
1CONTRACTION;1HARKLEAN OBELUS;2METOBELUS;2ASTERISCUS;@70F 1ab ma;1l ALAPH;21sr;2BETH;2GAMAL
3GARSHUNI;2DALATH;2os DALATH RISH;2HE;2wa;2zi;2HETH;2TETH;3GARSHUNI;2YUDH;3HE;2KAPH;2LAMADH;2MIM
2NUN;2SEMKATH;21fi;2E;2PE;21re;2SADHE;2QAPH;2RISH;2SHIN;2TAW;2PERSIAN BHETH;3GHAMAL;3DHALATH
1PTHAHA a;2be;2de;1ZQAPHA a;2be;2de;1RBASA a;2be;1de ZLAMA h;3ANGULAR;1HBASA a;2be;1HBASA-ESASA de
1ESASA a;2be;1RWAHA;1FEMININE dt;1QUSHSHAYA;1RUKKAKHA;1tw v ot a;4be;1t ot a;3be;1oq ne a;3be;1MUSIC
1BARREKH;@74D 1l SOGDIAN ZHAIN;3KHAPH;3FE;0rb l BEH w t ot HORIZONTALLY be;4dt be n t ot a
4t ot po p be;9n tw ot a;41tw ot be n dt;4iv s V be;4s V;2hh w tw ot a;4t ot po p be
2DAL w tw ot ve be n s TAH;4iv s V be;2REH w k;2SEEN w u ot a;22AIN w tw;41t ot po o;41tw ot ve
2FEH w tw ot be;41t ot po p;2KEHEH w dt a;41t ot;6po p be;2mm w dt a;5be;21nn w tw ot;4s TAH;5V
2LAM w BAR;2REH w tw ot ve a;41hm;21SEEN w tw ot ve;2hh w s rb l TAH be;8n tw ot;28SEEN;28REH
2hh w s rb l TAH a;21al w ed ai di tw;71t;21FARSI yh w ed ai di tw;81t;8u be;2wa w ed ai di tw a;71t
21yh BARREE w ed ai di tw;81t;2hh w ed ai di u be;2SEEN w ed ai di u a;4iv V;2kf w tw ot a
0THAANA l HAA;2SHAVIYANI;2NOONU;2RAA;2BAA;2LHAVIYANI;2KAAFU;2ALIFU;2VAAVU;2MEEMU;2FAAFU;2DHAALU
2THAA;2LAAMU;2GAAFU;2GNAVIYANI;2SEENU;2DAVIYANI;2ZAVIYANI;2TAVIYANI;2YAA;2PAVIYANI;2JAVIYANI
2CHAVIYANI;2TTAA;2HHAA;2KHAA;2THAALU;2ZAA;2SHEENU;2SAADHU;2DAADHU;2TO;2ZO;2AINU;2GHAINU;2QAAFU
2WAAVU;1ABAFILI;1AABAAFILI;1IBIFILI;1EEBEEFILI;1UBUFILI;1OOBOOFILI;1EBEFILI;1EYBEYFILI;1OBOFILI
1OABOAFILI;1SUKUN;1l NAA;@7C0 0NKO di z;2on;2tw;2t;2u;2fv;2sx;2se;2ei;2ni;1l A;2EE;2I;2E;2U;2OO;2O
2DAGBASINNA;2N;2BA;2PA;2TA;2JA;2ch;2DA;2RA;2RRA;2SA;2GBA;2FA;2KA;2LA;2NA WOLOSO;2MA;2ya;2NA;2HA;2WA
2YA;2ya WOLOSO;2JONA JA;3ch;3RA;1co sh hi TONE;31lw;31rg;21ln DESCENDING;31hi;31lw;31rg;2nz ma
2d dt a;1hi TONE pt;12lw;1y OO DENNEN;2GBAKURUNEN;1om;1ex ma;1LAJANYALAN;@7FD 1DANTAYALAN;1DOROME g
11TAMAN;0SAMARITAN l ALAF;2BIT;2GAMAN;2DALAT;2IY;2BAA;2ZEN;2IT;2TIT;2YUT;2KAAF;2LABAT;2MIM;2NUN
2SINGAAT;2IN;2FI;2TSAADIY;2QUF;2RISH;2SHAN;2TAAF;1ma IN;2IN-ALAF;2OCCLUSION;2DAGESH
1mf l EPENTHETIC YUT;12ma;1vo g ln E;31;3OVERLONG AA;31ln;31;3OVERLONG A;31ln;31;11mf l sh;12vo g
3ln U;31;1mf l I;11vo g ln;31;3O;3SUKUN;1ma NEQUDAA;@830 11pu;2AFSAAQ;2ANGED;2BAU;2ATMAAU
2SHIYYAALAA;1ab ma;1pu MELODIC QITSA;2ZIQAA;2QITSA;2ZAEF;2TURU;2ARKAANU;2SOF MASHFAAT;2ANNAAU
@840 0MANDAIC l HALQA;2AB;2AG;2AD;2AH;2USHENNA;2AZ;2IT;2ATT;2AKSA;2AK;2AL;2AM;2AN;2AS;2IN;2AP;2ASZ
2AQ;2AR;2ASH;2AT;2DUSHENNA;2KAD;2AIN;1AFFRICATION ma;11VOCALIZATION;11gn;@85E 1pu
@860 0SYRIAC l MALAYALAM na;3JA;3ya;3TTA;3NNA;3NNNA;3bh;3RA;3LLA;3LLLA;3SSA
@870 0rb l al w ATTACHED fh;51TOP r;4r mi k;42f;4ATTACHED KASRA;51bo r;5ROUND dt a;5r ROUND dt;52f
5ROUND dt be;4dt a;42ATTACHED TOP r fh n;43r mi k;43ATTACHED bo r KASRA;5TOP r fh n f rn;43r mi k
43ATTACHED bo r KASRA;5r hm;51f;11wl w OVERSTRUCK;4wa;3tw ot be;1l THIN yh;1BASELINE ROUND dt;12ra
1l nn w iv s V;2hh w iv s V be;21TAH w dt;41t ot;21KEHEH w tw ot ve;1v il;@890 1POUND ma a;12PIASTRE
@898 1s hi wo AL-JUZ;2lw wo ISHMAAM;4IMAALA;4TASHEEL;1MADDA WAAJIB;1sr al MOKHASSAS;1DOUBLED MADDA
11hl MADDA ov;1l BEH w s V be;4hm a;21j w tw ot;24TAH;22FEH w dt be n t;2qf w dt be;2LAM w d BAR
2mm w t ot a;21yh w tw ot be n hm;81dt;2REH w LOOP;2wa w dt WITHIN;2ROHINGYA yh;2lw al
2DAL w t ot be;24SAD;2GAF w iv k;2st wa;2zi w iv V a;2AIN w t ot be;21kf w dt;2qf w dt be n NO ot a
21BEH w s mm;24PEH;21TEH w s TEH;21REH w s nn;23yh w tw ot be n;2AFRICAN FEH;3qf;3nn;2PEH w s V
23TEH;23TTEH;23TCHEH;23KEHEH;2gh w t ot a;24AFRICAN qf;24j;6be;2LAM w s rb l TAH a;2GRAF;1s FARSI yh
22hi;3yh BARREE w tw ot be;3wo SAH;3ZAH;1la ROUND dt a;4be;11SUKUN;11la ci;22ROUND dt ns;1s lw wa
2hi wo AR-RUB;3SAD;3AIN;3qf;3nn w KASRA;23lw;2hi wo ATH-THALATHA;4AS-SAJDA;4AN-NISF;4SAKTA;4QIF
4WAQFA;3FOOTNOTE MARKER;3g SAFHA;1DISPUTED END OF AYAH;1tu DAMMA be;1cu fh;2DAMMA;2KASRA;2FATHATAN
2DAMMATAN;2KASRATAN;1TONE on dt a;21tw ot;21LOOP;2on dt be;21tw ot;21LOOP;1oe FATHATAN;2DAMMATAN
2KASRATAN;1s hi wa;1fh w rn;3dt a;1KASRA w dt be;1f ao a;12r;1f ao be;12r;1d r ao a;5w dt;15;12DAMMA
1ma sw nn GHUNNA;0vg g iv ca;21;2an;2vi;1l sh A;21;2AA;2I;2II;2U;2UU;2vc R;3L;2ad E;21sh;21;2AI
2ad O;21sh;21;2AU;2KA;2KHA;2GA;2GHA;2na;2CA;2ch;2JA;2jh;2ya;2TTA;2ta;2DDA;2dd;2NNA;2TA;2THA;2DA;2dh
2NA;2NNNA;2PA;2ph;2BA;2bh;2MA;2YA;2RA;2RRA;2LA;2LLA;2LLLA;2VA;2SHA;2SSA;2SA;2HA;1vo g OE;3OOE;1g nk
2av;1vo g AA;3I;3II;3U;3UU;3vc R;4RR;3ad E;31sh;31;3AI;3ad O;31sh;31;3AU;1g vr;1vo g pm E;3AW;1OM
1STRESS g UDATTA;3ANUDATTA;1ga cc;11ac;1vo g ad ln E;3UE;3UUE;1l QA;2KHHA;2GHHA;2ZA;2DDDHA;2RHA;2FA
2YYA;2vc RR;3LL;1vo g vc L;4LL;1dn;11d;1di z;2on;2tw;2t;2u;2fv;2sx;2se;2ei;2ni;1ab g
1g hi SPACING dt;1l ad A;2OE;2OOE;2AW;2UE;2UUE;2MARWARI DDA;2zh;2he YA;2GGA;2JJA;2gl STOP;2DDDA;2BBA
0BENGALI ANJI;1g ca;2an;2vi;@985 1l A;2AA;2I;2II;2U;2UU;2vc R;3L;@98F 2E;2AI;@993 2O;2AU;2KA;2KHA
2GA;2GHA;2na;2CA;2ch;2JA;2jh;2ya;2TTA;2ta;2DDA;2dd;2NNA;2TA;2THA;2DA;2dh;2NA;@9AA 2PA;2ph;2BA;2bh
2MA;2YA;2RA;@9B2 2LA;@9B6 2SHA;2SSA;2SA;2HA;@9BC 1g nk;2av;1vo g AA;3I;3II;3U;3UU;3vc R;4RR;@9C7 3E
3AI;@9CB 3O;3AU;1g vr;1l KHANDA TA;@9D7 1AU lh ma;@9DC 1l RRA;2RHA;@9DF 2YYA;2vc RR;3LL;1vo g vc L
4LL;@9E6 1di z;2on;2tw;2t;2u;2fv;2sx;2se;2ei;2ni;1l RA w mi dg;41lo;1RUPEE ma;2g;1uy NUMERATOR on
3tw;3t;3u;3on LESS THAN THE DENOMINATOR;2DENOMINATOR xt;1ISSHAR;1GANDA ma;1l VEDIC an;1ab g
1SANDHI ma;@A01 0GURMUKHI g ADAK BINDI;21;2vi;@A05 1l A;2AA;2I;2II;2U;2UU;@A0F 2EE;2AI;@A13 2OO;2AU
2KA;2KHA;2GA;2GHA;2na;2CA;2ch;2JA;2jh;2ya;2TTA;2ta;2DDA;2dd;2NNA;2TA;2THA;2DA;2dh;2NA;@A2A 2PA;2ph
2BA;2bh;2MA;2YA;2RA;@A32 2LA;2LLA;@A35 2VA;2SHA;@A38 2SA;2HA;@A3C 1g nk;@A3E 1vo g AA;3I;3II;3U;3UU
@A47 3EE;3AI;@A4B 3OO;3AU;1g vr;@A51 2UDAAT;@A59 1l KHHA;2GHHA;2ZA;2RRA;@A5E 2FA;@A66 1di z;2on;2tw
2t;2u;2fv;2sx;2se;2ei;2ni;1TIPPI;1ADDAK;1IRI;1URA;1EK ONKAR;1g YAKASH;1ab g;@A81 0GUJARATI g ca;2an
2vi;@A85 1l A;2AA;2I;2II;2U;2UU;2vc R;3L;1vo ad E;@A8F 11l;2AI;1vo ad O;@A93 11l;2AU;2KA;2KHA;2GA
2GHA;2na;2CA;2ch;2JA;2jh;2ya;2TTA;2ta;2DDA;2dd;2NNA;2TA;2THA;2DA;2dh;2NA;@AAA 2PA;2ph;2BA;2bh;2MA
2YA;2RA;@AB2 2LA;2LLA;@AB5 2VA;2SHA;2SSA;2SA;2HA;@ABC 1g nk;2av;1vo g AA;3I;3II;3U;3UU;3vc R;4RR
3ad E;@AC7 31;3AI;3ad O;@ACB 31;3AU;1g vr;@AD0 1OM;@AE0 1l vc RR;3LL;1vo g vc L;4LL;@AE6 1di z;2on
2tw;2t;2u;2fv;2sx;2se;2ei;2ni;1ab g;11RUPEE;@AF9 1l zh;1g SUKUN;2SHADDA;2MADDAH;2THREE-DOT nk a;22ci
22TWO-CIRCLE;@B01 0ORIYA g ca;2an;2vi;@B05 1l A;2AA;2I;2II;2U;2UU;2vc R;3L;@B0F 2E;2AI;@B13 2O;2AU
2KA;2KHA;2GA;2GHA;2na;2CA;2ch;2JA;2jh;2ya;2TTA;2ta;2DDA;2dd;2NNA;2TA;2THA;2DA;2dh;2NA;@B2A 2PA;2ph
2BA;2bh;2MA;2YA;2RA;@B32 2LA;2LLA;@B35 2VA;2SHA;2SSA;2SA;2HA;@B3C 1g nk;2av;1vo g AA;3I;3II;3U;3UU
3vc R;4RR;@B47 3E;3AI;@B4B 3O;3AU;1g vr;@B55 2vl;1AI lh ma;12AU;@B5C 1l RRA;2RHA;@B5F 2YYA;2vc RR
3LL;1vo g vc L;4LL;@B66 1di z;2on;2tw;2t;2u;2fv;2sx;2se;2ei;2ni;1ISSHAR;1l WA;1fr on qa;3hl;2t qr
2on xe;3eg;2t xn;@B82 0TAMIL g an;2vi;@B85 1l A;2AA;2I;2II;2U;2UU;@B8E 2E;2EE;2AI;@B92 2O;2OO;2AU
2KA;@B99 2na;2CA;@B9C 2JA;@B9E 2ya;2TTA;@BA3 2NNA;2TA;@BA8 2NA;2NNNA;2PA;@BAE 2MA;2YA;2RA;2RRA;2LA
2LLA;2LLLA;2VA;2SHA;2SSA;2SA;2HA;@BBE 1vo g AA;3I;3II;3U;3UU;@BC6 3E;3EE;3AI;@BCA 3O;3OO;3AU;1g vr
@BD0 1OM;@BD7 1AU lh ma;@BE6 1di z;2on;2tw;2t;2u;2fv;2sx;2se;2ei;2ni;1nu tn;2on hu;3to;1DAY g
11MONTH;11YEAR;11DEBIT;11CREDIT;11AS a;11RUPEE;11nu;@C00 0TELUGU g co ca a;2ca;2an;2vi;2co an a;1l A
2AA;2I;2II;2U;2UU;2vc R;3L;@C0E 2E;2EE;2AI;@C12 2O;2OO;2AU;2KA;2KHA;2GA;2GHA;2na;2CA;2ch;2JA;2jh;2ya
2TTA;2ta;2DDA;2dd;2NNA;2TA;2THA;2DA;2dh;2NA;@C2A 2PA;2ph;2BA;2bh;2MA;2YA;2RA;2RRA;2LA;2LLA;2LLLA;2VA
2SHA;2SSA;2SA;2HA;@C3C 1g nk;2av;1vo g AA;3I;3II;3U;3UU;3vc R;4RR;@C46 3E;3EE;3AI;@C4A 3O;3OO;3AU
1g vr;@C55 1lh ma;12AI;@C58 1l TSA;2dz;2RRRA;@C5D 2NAKAARA POLLU;@C60 2vc RR;3LL;1vo g vc L;4LL
@C66 1di z;2on;2tw;2t;2u;2fv;2sx;2se;2ei;2ni;@C77 1g SIDDHAM;1fr di z FOR ODD POWERS OF u;35on;35tw
35t;33on FOR EVEN;35tw;35t;1g TUUMU;0KANNADA g SPACING ca;21;2an;2vi;2SIDDHAM;1l A;2AA;2I;2II;2U;2UU
2vc R;3L;@C8E 2E;2EE;2AI;@C92 2O;2OO;2AU;2KA;2KHA;2GA;2GHA;2na;2CA;2ch;2JA;2jh;2ya;2TTA;2ta;2DDA;2dd
2NNA;2TA;2THA;2DA;2dh;2NA;@CAA 2PA;2ph;2BA;2bh;2MA;2YA;2RA;2RRA;2LA;2LLA;@CB5 2VA;2SHA;2SSA;2SA;2HA
@CBC 1g nk;2av;1vo g AA;3I;3II;3U;3UU;3vc R;4RR;@CC6 3E;3EE;3AI;@CCA 3O;3OO;3AU;1g vr;@CD5 1lh ma
12AI;@CDD 1l NAKAARA POLLU;2FA;@CE0 2vc RR;3LL;1vo g vc L;4LL;@CE6 1di z;2on;2tw;2t;2u;2fv;2sx;2se
2ei;2ni;@CF1 1g ji;2ua;@D00 0MALAYALAM g co an a;2ca;2an;2vi;1l VEDIC an;2A;2AA;2I;2II;2U;2UU;2vc R
3L;@D0E 2E;2EE;2AI;@D12 2O;2OO;2AU;2KA;2KHA;2GA;2GHA;2na;2CA;2ch;2JA;2jh;2ya;2TTA;2ta;2DDA;2dd;2NNA
2TA;2THA;2DA;2dh;2NA;2NNNA;2PA;2ph;2BA;2bh;2MA;2YA;2RA;2RRA;2LA;2LLA;2LLLA;2VA;2SHA;2SSA;2SA;2HA
2TTTA;1g v BAR vr;21CIRCULAR;2av;1vo g AA;3I;3II;3U;3UU;3vc R;4RR;@D46 3E;3EE;3AI;@D4A 3O;3OO;3AU
1g vr;1l dt REPH;1g PARA;@D54 1l CHILLU M;3Y;3LLL;1AU lh ma;1fr on nx;3FORTIETH;2t EIGHTIETHS
2on TWENTIETH;3TENTH;2t TWENTIETHS;2on FIFTH;1l ah II;2vc RR;3LL;1vo g vc L;4LL;@D66 1di z;2on;2tw
2t;2u;2fv;2sx;2se;2ei;2ni;1nu tn;2on hu;3to;1fr on qa;3hl;2t qr;2on xe;3eg;2t xn;1DATE ma
1l CHILLU NN;3N;3RR;3L;3LL;3K;@D81 0SINHALA g ca;2ANUSVARAYA;2VISARGAYA;@D85 1l AYANNA;2AAYANNA
2AEYANNA;2AEEYANNA;2IYANNA;2IIYANNA;2UYANNA;2UUYANNA;2IRUYANNA;2IRUUYANNA;2ILUYANNA;2ILUUYANNA
2EYANNA;2EEYANNA;2AIYANNA;2OYANNA;2OOYANNA;2AUYANNA;@D9A 2lp KAYANNA;21mh;2lp GAYANNA;21mh
2KANTAJA NAASIKYAYA;2SANYAKA GAYANNA;2lp CAYANNA;21mh;2lp JAYANNA;21mh;2TAALUJA NAASIKYAYA
3SANYOOGA NAAKSIKYAYA;2SANYAKA JAYANNA;2lp TTAYANNA;21mh;2lp DDAYANNA;21mh;2mj NAYANNA
2SANYAKA DDAYANNA;2lp TAYANNA;21mh;2lp DAYANNA;21mh;2DANTAJA NAYANNA;@DB3 2SANYAKA DAYANNA
2lp PAYANNA;21mh;2lp BAYANNA;21mh;2MAYANNA;2AMBA BAYANNA;2YAYANNA;2RAYANNA;@DBD 2DANTAJA LAYANNA
@DC0 2VAYANNA;2TAALUJA SAYANNA;21mj;21DANTAJA;2HAYANNA;2mj LAYANNA;2FAYANNA;@DCA 1g AL-LAKUNA
@DCF 1vo g AELA-PILLA;3KETTI AEDA-PILLA;31DIGA;3KETTI IS-PILLA;31DIGA;3KETTI PAA-PILLA;@DD6 31DIGA
@DD8 3GAETTA-PILLA;3KOMBUVA;31DIGA;3KOMBU DEKA;3KOMBUVA HAA AELA-PILLA;51DIGA;5GAYANUKITTA;31
@DE6 1LITH di z;3on;3tw;3t;3u;3fv;3sx;3se;3ei;3ni;@DF2 1vo g DIGA GAETTA-PILLA;4GAYANUKITTA
1pu KUNDDALIYA;@E01 0THAI hc KO KAI;2KHO KHAI;3KHUAT;3KHWAI;3KHON;3RAKHANG;2NGO NGU;2CHO CHAN;3CHING
3CHANG;2SO SO;2CHO CHOE;2YO YING;2DO CHADA;2TO PATAK;2THO THAN;3NANGMONTHO;3PHUTHAO;2NO NEN;2DO DEK
2TO TAO;2THO THUNG;3THAHAN;3THONG;2NO NU;2BO BAIMAI;2PO PLA;2PHO PHUNG;2FO FA;2PHO PHAN;2FO FAN
2PHO SAMPHAO;2MO MA;2YO YAK;2RO RUA;2RU;2LO LING;2LU;2WO WAEN;2SO SALA;3RUSI;3SUA;2HO HIP;2LO CHULA
2O ANG;2HO NOKHUK;2PAIYANNOI;2SARA A;2MAI HAN-AKAT;2SARA AA;3AM;3I;3II;3UE;3UEE;3U;3UU;2PHINTHU
@E3F 1uy y BAHT;1hc SARA E;3AE;3O;3AI MAIMUAN;4MAIMALAI;2LAKKHANGYAO;2MAIYAMOK;2MAITAIKHU;2MAI EK
3THO;3TRI;3CHATTAWA;2THANTHAKHAT;2NIKHAHIT;2YAMAKKAN;2FONGMAN;1di z;2on;2tw;2t;2u;2fv;2sx;2se;2ei
2ni;1hc ANGKHANKHU;2KHOMUT;@E81 0LAO l KO;2KHO SUNG;@E84 3TAM;@E86 2PALI GHA;2NGO;2CO;2PALI ch
2SO TAM;@E8C 2PALI jh;2NYO;2PALI ya;3TTA;3ta;3DDA;3dd;3NNA;2DO;2TO;2THO SUNG;3TAM;2PALI dh;2NO;2BO
2PO;2PHO SUNG;2FO TAM;21PHO;2FO SUNG;2PALI bh;2MO;2YO;2LO LING;@EA5 3LOOT;@EA7 2WO;2SANSKRIT SHA
3SSA;2SO SUNG;21HO;2PALI LLA;2O;2HO TAM;1ELLIPSIS;1vo g A;3MAI KAN;3AA;3AM;3I;3II;3Y;3YY;3U;3UU
1g PALI vr;1vo g MAI KON;1SEMIVOWEL g LO;3NYO;@EC0 1vo g E;3EI;3O;3AY;3AI;@EC6 1KO LA
@EC8 1TONE MAI EK;3THO;3TI;3CATAWA;1nc ma;1NIGGAHITA;@ED0 1di z;2on;2tw;2t;2u;2fv;2sx;2se;2ei;2ni
@EDC 1HO NO;2MO;1l KHMU GO;3NYO;@F00 0TIBETAN sy OM;1ma GTER YIG MGO TRUNCATED A;5-UM RNAM BCAD MA
61GTER TSHEG;21in YIG MGO MDUN;21CLOSING YIG MGO SGAB;21CARET YIG MGO PHUR SHAD;22YIG MGO TSHEG
2SBRUL SHAD;2BSKUR YIG MGO;22BKA- SHOG;2INTERSYLLABIC TSHEG;2DELIMITER TSHEG BSTAR;2SHAD;21NYIS
21TSHEG;22NYIS;21RIN CHEN SPUNGS;21RGYA GRAM;2CARET -DZUD RTAGS ME ln CAN;2GTER TSHEG
1LOGOTYPE g CHAD RTAGS;31LHAG;11ASTROLOGICAL g SGRA GCAN -CHAR;3-KHYUD PA;3SDONG TSHUGS
1g RDEL DKAR GCIG;4GNYIS;4GSUM;3NAG GCIG;4GNYIS;3DKAR RDEL NAG;1di z;2on;2tw;2t;2u;2fv;2sx;2se;2ei
2ni;2hl on;3tw;3t;3u;3fv;3sx;3se;3ei;3ni;3z;1ma BSDUS RTAGS;2NGAS BZUNG NYI ZLA
2CARET -DZUD RTAGS BZHI MIG CAN;2NGAS BZUNG SGOR RTAGS;2CHE MGO;2TSA -PHRU;2GUG RTAGS GYON;4GYAS
2ANG KHANG GYON;4GYAS;1g YAR TSHES;21MAR;1l KA;2KHA;2GA;2GHA;2na;2CA;2ch;2JA;@F49 2ya;2TTA;2ta;2DDA
2dd;2NNA;2TA;2THA;2DA;2dh;2NA;2PA;2ph;2BA;2bh;2MA;2TSA;2TSHA;2dz;2DZHA;2WA;2zh;2ZA;2-A;2YA;2RA;2LA
2SHA;2SSA;2SA;2HA;2A;2KSSA;2FIXED-FORM RA;2KKA;2RRA;@F71 1vo g AA;3I;3II;3U;3UU;3vc R;4RR;4L;4LL;3E
3EE;3O;3OO;1g RJES SU na RO;2RNAM BCAD;1vo g re I;4II;1g NYI ZLA NAA DA;2SNA LDAN;1ma HALANTA
2PALUTA;1g LCI RTAGS;21yn;2LCE TSA CAN;21MCHU;2GRU CAN RGYINGS;31MED;2iv MCHU CAN;11sj g LCE TSA
31MCHU;32iv;2l KA;3KHA;3GA;3GHA;3na;3CA;3ch;3JA;@F99 3ya;3TTA;3ta;3DDA;3dd;3NNA;3TA;3THA;3DA;3dh;3NA
3PA;3ph;3BA;3bh;3MA;3TSA;3TSHA;3dz;3DZHA;3WA;3zh;3ZA;3-A;3YA;3RA;3LA;3SHA;3SSA;3SA;3HA;3A;3KSSA
3FIXED-FORM WA;4YA;4RA;@FBE 1KU RU KHA;4BZHI MIG CAN;1CANTILLATION g he BEAT;31li;3CANG TE-U
3SBUB -CHAL;1y DRIL BU;2RDO RJE;2PADMA GDAN;2RDO RJE RGYA GRAM;2PHUR PA;2NOR BU;4NYIS -KHYIL;41GSUM
41BZHI;@FCE 1g RDEL NAG RDEL DKAR;4GSUM;1ma BSKA- SHOG GI MGO RGYAN;23MNYAM YIG;2NYIS TSHEG
2in BRDA RNYING YIG MGO MDUN MA;21CLOSING BRDA RNYING YIG MGO SGAB;0gt SVASTI g;02ef
0gt SVASTI g w ot;04ef;0TIBETAN ma LEADING MCHAN RTAGS;22TRAILING;@1000 0MYANMAR l KA;2KHA;2GA;2GHA
2na;2CA;2ch;2JA;2jh;2ya;2NNYA;2TTA;2ta;2DDA;2dd;2NNA;2TA;2THA;2DA;2dh;2NA;2PA;2ph;2BA;2bh;2MA;2YA
2RA;2LA;2WA;2SA;2HA;2LLA;2A;21SHAN;2I;2II;2U;2UU;2E;21MON;2O;2AU;1vo g TALL AA;31;3I;3II;3U;3UU;3E
3AI;3MON II;4O;3E a;1g an;2dt be;2vi;2vr;2ASAT;1cn g md YA;4RA;4WA;4HA;1l GREAT SA;1di z;2on;2tw;2t
2u;2fv;2sx;2se;2ei;2ni;1g ll sc;21;1y LOCATIVE;2COMPLETED;2AFOREMENTIONED;2GENITIVE;1l SHA;2SSA
2vc R;3RR;3L;3LL;1vo g vc R;4RR;4L;4LL;1l MON na;3jh;3BBA;3BBE;1cn g MON md NA;5MA;5LA
1l SGAW KAREN SHA;1vo g SGAW KAREN EU;1TONE ma SGAW KAREN HATHI;5KE PHO;1l WESTERN PWO KAREN THA
5PWA;1vo g WESTERN PWO KAREN EU;6UE;1g WESTERN PWO KAREN TONE-1;5TONE-2;5TONE-3;5TONE-4;5TONE-5
1l EASTERN PWO KAREN NNA;5YWA;5GHWA;1vo g GEBA KAREN I;3KAYAH OE;4U;4EE;1l SHAN KA;3KHA;3GA;3CA;3ZA
3ya;3DA;3NA;3ph;3FA;3BA;3THA;3HA;1cn g SHAN md WA;1vo g SHAN AA;4E;5a;4fi Y;1g SHAN TONE-2;3TONE-3
3TONE-5;3TONE-6;3COUNCIL TONE-2;4TONE-3;4EMPHATIC TONE;1l RUMAI PALAUNG FA;1g RUMAI PALAUNG TONE-5
1SHAN di z;3on;3tw;3t;3u;3fv;3sx;3se;3ei;3ni;1g KHAMTI TONE-1;3TONE-3;1vo g AITON A;4AI;1y SHAN on
3ex;0gg c l AN;3BAN;3GAN;3DON;3EN;3VIN;3ZEN;3TAN;3IN;3KAN;3LAS;3MAN;3NAR;3ON;3PAR;3ZHAR;3RAE;3SAN
3TAR;3UN;3PHAR;3KHAR;3GHAN;3QAR;3SHIN;3CHIN;3CAN;3JIL;3CIL;3CHAR;3XAN;3JHAN;3HAE;3HE;3HIE;3WE;3HAR
3HOE;@10C7 3YN;@10CD 3AEN;@10D0 1l AN;2BAN;2GAN;2DON;2EN;2VIN;2ZEN;2TAN;2IN;2KAN;2LAS;2MAN;2NAR;2ON
2PAR;2ZHAR;2RAE;2SAN;2TAR;2UN;2PHAR;2KHAR;2GHAN;2QAR;2SHIN;2CHIN;2CAN;2JIL;2CIL;2CHAR;2XAN;2JHAN
2HAE;2HE;2HIE;2WE;2HAR;2HOE;2FI;2YN;2ELIFI;2tu GAN;2AIN;1pg sp;0mf l gg NAR;0gg l AEN;2HARD g
21LABIAL;0au CHOSEONG ky;2gy;2NIEUN;2ik;2gk;2RIEUL;2MIEUM;2PIEUP;2gp;2SIOS;2SSANGSIOS;2IEUNG;2CIEUC
2gc;2ec;2ki;2uh;2pp;2HIEUH;2NIEUN-KIYEOK;2SSANGNIEUN;2NIEUN-TIKEUT;2NIEUN-PIEUP;2TIKEUT-KIYEOK
2RIEUL-NIEUN;2SSANGRIEUL;2ue;2KAPYEOUNRIEUL;2MIEUM-PIEUP;2km;2PIEUP-KIYEOK;2PIEUP-NIEUN;2uk
2PIEUP-SIOS;2PIEUP-SIOS-KIYEOK;2pk;2PIEUP-SIOS-PIEUP;2PIEUP-SSANGSIOS;2PIEUP-SIOS-CIEUC;2PIEUP-CIEUC
2PIEUP-CHIEUCH;2PIEUP-THIEUTH;2PIEUP-PHIEUPH;2ku;2yu;2kk;2SIOS-NIEUN;2SIOS-TIKEUT;2SIOS-RIEUL
2SIOS-MIEUM;2SIOS-PIEUP;2SIOS-PIEUP-KIYEOK;2SIOS-SSANGSIOS;2SIOS-IEUNG;2SIOS-CIEUC;2SIOS-CHIEUCH
2SIOS-KHIEUKH;2SIOS-THIEUTH;2SIOS-PHIEUPH;2SIOS-HIEUH;2CHITUEUMSIOS;2CHITUEUMSSANGSIOS
2CEONGCHIEUMSIOS;2CEONGCHIEUMSSANGSIOS;2PANSIOS;2IEUNG-KIYEOK;2IEUNG-TIKEUT;2IEUNG-MIEUM
2IEUNG-PIEUP;2IEUNG-SIOS;2IEUNG-PANSIOS;2SSANGIEUNG;2IEUNG-CIEUC;2IEUNG-CHIEUCH;2IEUNG-THIEUTH
2IEUNG-PHIEUPH;2YESIEUNG;2CIEUC-IEUNG;2CHITUEUMCIEUC;2CHITUEUMSSANGCIEUC;2CEONGCHIEUMCIEUC
2CEONGCHIEUMSSANGCIEUC;2CHIEUCH-KHIEUKH;2CHIEUCH-HIEUH;2CHITUEUMCHIEUCH;2CEONGCHIEUMCHIEUCH
2PHIEUPH-PIEUP;2ko;2SSANGHIEUH;2yr;2KIYEOK-TIKEUT;2NIEUN-SIOS;2uc;2uu;2TIKEUT-RIEUL;2FILLER
11JUNGSEONG;2A;2AE;2YA;2YAE;2EO;2E;2YEO;2YE;2O;2WA;2WAE;2OE;2YO;2U;2WEO;2WE;2WI;2YU;2EU;2YI;2I;2A-O
2A-U;2YA-O;2YA-YO;2EO-O;2EO-U;2EO-EU;2YEO-O;2YEO-U;2O-EO;2O-E;2O-YE;2O-O;2O-U;2YO-YA;2YO-YAE;2YO-YEO
2YO-O;2YO-I;2U-A;2U-AE;2U-EO-EU;2U-YE;2U-U;2YU-A;2YU-EO;2YU-E;2YU-YEO;2YU-YE;2YU-U;2YU-I;2EU-U
2EU-EU;2YI-U;2I-A;2I-YA;2I-O;2I-U;2I-EU;2I-ARAEA;2ARAEA;2ARAEA-EO;2ARAEA-U;2ARAEA-I;2SSANGARAEA
2A-EU;2YA-U;2YEO-YA;2O-YA;2O-YAE;1JONGSEONG ky;2gy;2yk;2NIEUN;2uc;2uu;2ik;2RIEUL;2rk;2rm;2rp
2RIEUL-SIOS;2RIEUL-THIEUTH;2RIEUL-PHIEUPH;2ue;2MIEUM;2PIEUP;2PIEUP-SIOS;2SIOS;2SSANGSIOS;2IEUNG
2CIEUC;2ec;2ki;2uh;2pp;2HIEUH;2KIYEOK-RIEUL;2KIYEOK-SIOS-KIYEOK;2NIEUN-KIYEOK;2NIEUN-TIKEUT
2NIEUN-SIOS;2NIEUN-PANSIOS;2NIEUN-THIEUTH;2TIKEUT-KIYEOK;2TIKEUT-RIEUL;2RIEUL-KIYEOK-SIOS
2RIEUL-NIEUN;2ek;2RIEUL-TIKEUT-HIEUH;2SSANGRIEUL;2RIEUL-MIEUM-KIYEOK;2RIEUL-MIEUM-SIOS
2RIEUL-PIEUP-SIOS;2RIEUL-PIEUP-HIEUH;2ly;2RIEUL-SSANGSIOS;2RIEUL-PANSIOS;2RIEUL-KHIEUKH
2RIEUL-YEORINHIEUH;2MIEUM-KIYEOK;2MIEUM-RIEUL;2MIEUM-PIEUP;2MIEUM-SIOS;2MIEUM-SSANGSIOS
2MIEUM-PANSIOS;2MIEUM-CHIEUCH;2MIEUM-HIEUH;2km;2PIEUP-RIEUL;2PIEUP-PHIEUPH;2PIEUP-HIEUH;2ku;2kk
2SIOS-TIKEUT;2SIOS-RIEUL;2SIOS-PIEUP;2PANSIOS;2IEUNG-KIYEOK;2IEUNG-SSANGKIYEOK;2SSANGIEUNG
2IEUNG-KHIEUKH;2YESIEUNG;2YESIEUNG-SIOS;2YESIEUNG-PANSIOS;2PHIEUPH-PIEUP;2ko;2HIEUH-NIEUN
2HIEUH-RIEUL;2HIEUH-MIEUM;2HIEUH-PIEUP;2yr;2KIYEOK-NIEUN;2KIYEOK-PIEUP;2KIYEOK-CHIEUCH
2KIYEOK-KHIEUKH;2KIYEOK-HIEUH;2SSANGNIEUN;0ETHIOPIC sy HA;2HU;2HI;2HAA;2HEE;2HE;2HO;2HOA;2LA;2LU;2LI
2LAA;2LEE;2LE;2LO;2LWA;2HHA;2HHU;2HHI;2HHAA;2HHEE;2HHE;2HHO;2HHWA;2MA;2MU;2MI;2MAA;2MEE;2ME;2MO;2MWA
2SZA;2SZU;2SZI;2SZAA;2SZEE;2SZE;2SZO;2SZWA;2RA;2RU;2RI;2RAA;2REE;2RE;2RO;2RWA;2SA;2SU;2SI;2SAA;2SEE
2SE;2SO;2SWA;2SHA;2SHU;2SHI;2SHAA;2SHEE;2SHE;2SHO;2SHWA;2QA;2QU;2QI;2QAA;2QEE;2QE;2QO;2QOA;2QWA
@124A 2QWI;2QWAA;2QWEE;2QWE;@1250 2QHA;2QHU;2QHI;2QHAA;2QHEE;2QHE;2QHO;@1258 2QHWA;@125A 2QHWI
2QHWAA;2QHWEE;2QHWE;@1260 2BA;2BU;2BI;2BAA;2BEE;2BE;2BO;2BWA;2VA;2VU;2VI;2VAA;2VEE;2VE;2VO;2VWA;2TA
2TU;2TI;2TAA;2TEE;2TE;2TO;2TWA;2CA;2CU;2CI;2CAA;2CEE;2CE;2CO;2CWA;2XA;2XU;2XI;2XAA;2XEE;2XE;2XO;2XOA
2XWA;@128A 2XWI;2XWAA;2XWEE;2XWE;@1290 2NA;2NU;2NI;2NAA;2NEE;2NE;2NO;2NWA;2ya;2NYU;2NYI;2NYAA;2NYEE
2NYE;2NYO;2NYWA;2gl A;3U;3I;3AA;3EE;3E;3O;3WA;2KA;2KU;2KI;2KAA;2KEE;2KE;2KO;2KOA;2KWA;@12B2 2KWI
2KWAA;2KWEE;2KWE;@12B8 2KXA;2KXU;2KXI;2KXAA;2KXEE;2KXE;2KXO;@12C0 2KXWA;@12C2 2KXWI;2KXWAA;2KXWEE
2KXWE;@12C8 2WA;2WU;2WI;2WAA;2WEE;2WE;2WO;2WOA;2PHARYNGEAL A;3U;3I;3AA;3EE;3E;3O;@12D8 2ZA;2ZU;2ZI
2ZAA;2ZEE;2ZE;2ZO;2ZWA;2zh;2ZHU;2ZHI;2ZHAA;2ZHEE;2ZHE;2ZHO;2ZHWA;2YA;2YU;2YI;2YAA;2YEE;2YE;2YO;2YOA
2DA;2DU;2DI;2DAA;2DEE;2DE;2DO;2DWA;2DDA;2DDU;2DDI;2DDAA;2DDEE;2DDE;2DDO;2DDWA;2JA;2JU;2JI;2JAA;2JEE
2JE;2JO;2JWA;2GA;2GU;2GI;2GAA;2GEE;2GE;2GO;2GOA;2GWA;@1312 2GWI;2GWAA;2GWEE;2GWE;@1318 2GGA;2GGU
2GGI;2GGAA;2GGEE;2GGE;2GGO;2GGWAA;2THA;2THU;2THI;2THAA;2THEE;2THE;2THO;2THWA;2ch;2CHU;2CHI;2CHAA
2CHEE;2CHE;2CHO;2CHWA;2ph;2PHU;2PHI;2PHAA;2PHEE;2PHE;2PHO;2PHWA;2TSA;2TSU;2TSI;2TSAA;2TSEE;2TSE;2TSO
2TSWA;2TZA;2TZU;2TZI;2TZAA;2TZEE;2TZE;2TZO;2TZOA;2FA;2FU;2FI;2FAA;2FEE;2FE;2FO;2FWA;2PA;2PU;2PI;2PAA
2PEE;2PE;2PO;2PWA;2RYA;2MYA;2FYA;@135D 1co gn n vo lh ma;23;21gn;11sc;1WORDSPACE;1fu STOP;1om;1em
1ol;11PREFACE;1qu ma;1pg sp;1di on;2tw;2t;2u;2fv;2sx;2se;2ei;2ni;1nu tn;2te;2tt;2ft;2ff;2ix;2sv;2eh
2ny;2hu;2tn to;@1380 1sy eb MWA;2MWI;2MWEE;2MWE;2eb BWA;2BWI;2BWEE;2BWE;2eb FWA;2FWI;2FWEE;2FWE
2eb PWA;2PWI;2PWEE;2PWE;1TONAL ma YIZET;3DERET;3RIKRIK;31sh;3DIFAT;3KENAT;3CHIRET;3HIDET
3DERET-HIDET;3KURT;@13A0 0CHEROKEE l A;2E;2I;2O;2U;2V;2GA;2KA;2GE;2GI;2GO;2GU;2GV;2HA;2HE;2HI;2HO
2HU;2HV;2LA;2LE;2LI;2LO;2LU;2LV;2MA;2ME;2MI;2MO;2MU;2NA;2HNA;2NAH;2NE;2NI;2NO;2NU;2NV;2QUA;2QUE;2QUI
2QUO;2QUU;2QUV;2SA;2S;2SE;2SI;2SO;2SU;2SV;2DA;2TA;2DE;2TE;2DI;2TI;2DO;2DU;2DV;2DLA;2TLA;2TLE;2TLI
2TLO;2TLU;2TLV;2TSA;2TSE;2TSI;2TSO;2TSU;2TSV;2WA;2WE;2WI;2WO;2WU;2WV;2YA;2YE;2YI;2YO;2YU;2YV;2MV
@13F8 1s l YE;3YI;3YO;3YU;3YV;3MV;@1400 0CANADIAN yb hy;2E;2AAI;2I;2II;2O;2OO;21yc;2CARRIER EE;3I;2A
2AA;2WE;21we;2WI;21we;2WII;21we;2WO;21we;2WOO;21we;21ak;2WA;21we;2WAA;21we;21ak;2AI;2yc W;2gl STOP
2fi ac;3ga;3bo hl rn;32TOP;32r;31;3d ac;4sh v STROKES;3mi dt;3sh h k;3pl;3do tc;2EN;2IN;2ON;2AN;2PE
2PAAI;2PI;2PII;2PO;2POO;21yc;2CARRIER HEE;3HI;2PA;2PAA;2PWE;21we;2PWI;21we;2PWII;21we;2PWO;21we
2PWOO;21we;2PWA;21we;2PWAA;21we;21yc;2P;21we;2CARRIER H;2TE;2TAAI;2TI;2TII;2TO;2TOO;21yc
2CARRIER DEE;3DI;2TA;2TAA;2TWE;21we;2TWI;21we;2TWII;21we;2tw;21we;2TWOO;21we;2TWA;21we;2TWAA;21we
21ak;2T;2TTE;2TTI;2TTO;2TTA;2KE;2KAAI;2KI;2KII;2KO;2KOO;21yc;2KA;2KAA;2KWE;21we;2KWI;21we;2KWII;21we
2KWO;21we;2KWOO;21we;2KWA;21we;2KWAA;21we;21ak;2K;2KW;2SOUTH-SLAVEY KEH;3KIH;3KOH;3KAH;2CE;2CAAI;2CI
2CII;2CO;2COO;21yc;2CA;2CAA;2CWE;21we;2CWI;21we;2CWII;21we;2CWO;21we;2CWOO;21we;2CWA;21we;2CWAA;21we
21ak;2C;2ay TH;2ME;2MAAI;2MI;2MII;2MO;2MOO;21yc;2MA;2MAA;2MWE;21we;2MWI;21we;2MWII;21we;2MWO;21we
2MWOO;21we;2MWA;21we;2MWAA;21we;21ak;2M;21we;2MH;2ATHAPASCAN M;21ay;2NE;2NAAI;2NI;2NII;2NO;2NOO;21yc
2NA;2NAA;2NWE;21we;2NWA;21we;2NWAA;21we;21ak;2N;2CARRIER NG;2NH;2LE;2LAAI;2LI;2LII;2LO;2LOO;21yc;2LA
2LAA;2LWE;21we;2LWI;21we;2LWII;21we;2LWO;21we;2LWOO;21we;2LWA;21we;2LWAA;21we;2L;21we;21md;2SE;2SAAI
2SI;2SII;2SO;2SOO;21yc;2SA;2SAA;2SWE;21we;2SWI;21we;2SWII;21we;2SWO;21we;2SWOO;21we;2SWA;21we;2SWAA
21we;21ak;2S;21ATHAPASCAN;2SW;2bf S;2MOOSE-CREE SK;2ak SKW;3S-W;3SPWA;3STWA;3SKWA;3SCWA;2SHE;2SHI
2SHII;2SHO;2SHOO;2SHA;2SHAA;2SHWE;21we;2SHWI;21we;2SHWII;21we;2SHWO;21we;2SHWOO;21we;2SHWA;21we
2SHWAA;21we;2SH;2YE;2YAAI;2YI;2YII;2YO;2YOO;21yc;2YA;2YAA;2YWE;21we;2YWI;21we;2YWII;21we;2YWO;21we
2YWOO;21we;2YWA;21we;2YWAA;21we;21ak;2Y;21BIBLE-CREE;21we;2ay YI;2RE;21R-CREE;2we LE;2RAAI;2RI;2RII
2RO;2ROO;2we LO;2RA;2RAA;2we LA;2RWAA;21we;2R;21we;21md;2FE;2FAAI;2FI;2FII;2FO;2FOO;2FA;2FAA;2FWAA
21we;2F;2THE;21N-CREE;2THI;21N-CREE;2THII;21N-CREE;2THO;2THOO;2THA;2THAA;2THWAA;21we;2TH;2TTHE;2TTHI
2TTHO;2ta;2TTH;2TYE;2TYI;2TYO;2TYA;2NUNAVIK HE;3HI;3HII;3HO;3HOO;3HA;3HAA;3H;21NUNAVUT;2HK;2QAAI;2QI
2QII;2QO;2QOO;2QA;2QAA;2Q;2TLHE;2TLHI;2TLHO;2TLHA;2we RE;3RI;3RO;3RA;2NGAAI;2NGI;2NGII;2NGO;2NGOO
2na;2NGAA;2NG;2NNG;2ay SHE;3SHI;3SHO;3SHA;2WOODS-CREE THE;3THI;3THO;3THA;3TH;2LHI;2LHII;2LHO;2LHOO
2LHA;2LHAA;2LH;2TH-CREE THE;3THI;3THII;3THO;3THOO;3THA;3THAA;3TH;2AIVILIK B;2bf E;3I;3O;3A;3WE;3WI
3WO;3WA;3NE;3NI;3NO;3NA;3KE;3KI;3KO;3KA;2ay HE;3HI;3HO;3HA;2CARRIER GHU;3GHO;3GHE;3GHEE;3GHI;3GHA
3RU;3RO;3RE;3REE;3RI;3RA;3WU;3WO;3WE;3WEE;3WI;3WA;3HWU;3HWO;3HWE;3HWEE;3HWI;3HWA;3THU;3THO;3THE
3THEE;3THI;3THA;3TTU;3TTO;3TTE;3TTEE;3TTI;3TTA;3PU;3PO;3PE;3PEE;3PI;3PA;3P;3GU;3GO;3GE;3GEE;3GI;3GA
3KHU;3KHO;3KHE;3KHEE;3KHI;3KHA;3KKU;3KKO;3KKE;3KKEE;3KKI;3KKA;3KK;3NU;3NO;3NE;3NEE;3NI;3NA;3MU;3MO
3ME;3MEE;3MI;3MA;3YU;3YO;3YE;3YEE;3YI;3YA;3JU;21ay;2CARRIER JO;3JE;3JEE;3JI;21ay;2CARRIER JA;3JJU
3JJO;3JJE;3JJEE;3JJI;3JJA;3LU;3LO;3LE;3LEE;3LI;3LA;3DLU;3DLO;3DLE;3DLEE;3DLI;3DLA;3LHU;3LHO;3LHE
3LHEE;3LHI;3LHA;3TLHU;3TLHO;3TLHE;3TLHEE;3TLHI;3TLHA;3TLU;3TLO;3TLE;3TLEE;3TLI;3TLA;3ZU;3ZO;3ZE;3ZEE
3ZI;3ZA;3Z;31in;3DZU;3DZO;3DZE;3DZEE;3DZI;3dz;3SU;3SO;3SE;3SEE;3SI;3SA;3SHU;3SHO;3SHE;3SHEE;3SHI
3SHA;3SH;3TSU;3TSO;3TSE;3TSEE;3TSI;3TSA;3CHU;3CHO;3CHE;3CHEE;3CHI;3ch;3TTSU;3TTSO;3TTSE;3TTSEE;3TTSI
3TTSA;2CHI g;2fu STOP;2QAI;2NGAI;2NNGI;2NNGII;2NNGO;2NNGOO;2NNGA;2NNGAA;2WOODS-CREE THWEE;3THWI
3THWII;3THWO;3THWOO;3THWA;3THWAA;3fi TH;2bf W;0OGHAM SPACE ma;1l BEITH;2LUIS;2FEARN;2SAIL;2NION
2UATH;2DAIR;2TINNE;2COLL;2CEIRT;2MUIN;2GORT;2NGEADAL;2STRAIF;2RUIS;2AILM;2ONN;2UR;2EADHADH;2IODHADH
2EABHADH;2OR;2UILLEANN;2IFIN;2EAMHANCHOLL;2PEITH;1FEATHER ma;12re;@16A0 0RUNIC l FEHU FEOH FE F;2V
2URUZ UR U;2YR;2Y;2W;2THURISAZ THURS THORN;2ETH;2ANSUZ A;2OS O;2AC A;2AESC;2LONG-BRANCH-OSS O
21SHORT-TWIG-OSS;21;2OE;2ON;2RAIDO RAD REID R;2KAUNA;2CEN;2KAUN K;2G;2ENG;2GEBO GYFU G;2GAR
2WUNJO WYNN W;2HAGLAZ H;21HAEGL;21LONG-BRANCH-HAGALL;21SHORT-TWIG-HAGALL;2NAUDIZ NYD NAUD N
21SHORT-TWIG-NAUD;2DOTTED-N;2ISAZ IS ISS I;2E;2JERAN J;2GER;2LONG-BRANCH-AR AE;2SHORT-TWIG-AR A
2IWAZ EOH;2PERTHO PEORTH P;2ALGIZ EOLHX;2SOWILO S;21SIGEL LONG-BRANCH-SOL;21SHORT-TWIG-SOL;2C;2Z
2TIWAZ TIR TYR T;21SHORT-TWIG-TYR;2D;2BERKANAN BEORC BJARKAN B;21SHORT-TWIG-BJARKAN;2DOTTED-P
2OPEN-P;2EHWAZ EH E;2MANNAZ MAN M;21LONG-BRANCH-MADR;21SHORT-TWIG-MADR;2LAUKAZ LAGU LOGR L;2DOTTED-L
2INGWAZ;2ING;2DAGAZ DAEG D;2OTHALAN ETHEL O;2EAR;2IOR;2CWEORTH;2CALC;2CEALC;2STAN;2LONG-BRANCH-YR
2SHORT-TWIG-YR;2ICELANDIC-YR;2Q;2X;1si pu;11ml;11rs;1ARLAUG y;11TVIMADUR;11BELGTHOR;1l K;2SH;2OO
2FRANKS CASKET OS;4IS;4EH;4AC;4AESC;@1700 0TAGALOG l A;2I;2U;2KA;2GA;2na;2TA;2DA;2NA;2PA;2BA;2MA;2YA
2RA;2LA;2WA;2SA;2HA;1vo g I;3U;1g vr;2PAMUDPOD;@171F 1l ah RA;0HANUNOO l A;2I;2U;2KA;2GA;2na;2TA;2DA
2NA;2PA;2BA;2MA;2YA;2RA;2LA;2WA;2SA;2HA;1vo g I;3U;1g PAMUDPOD;0PHILIPPINE si pu;11d
@1740 0BUHID l A;2I;2U;2KA;2GA;2na;2TA;2DA;2NA;2PA;2BA;2MA;2YA;2RA;2LA;2WA;2SA;2HA;1vo g I;3U
@1760 0TAGBANWA l A;2I;2U;2KA;2GA;2na;2TA;2DA;2NA;2PA;2BA;2MA;2YA;@176E 2LA;2WA;2SA;@1772 1vo g I;3U
@1780 0KHMER l KA;2KHA;2KO;2KHO;2NGO;2CA;2ch;2CO;2CHO;2NYO;2DA;2ta;2DO;2TTHO;2NNO;2TA;2THA;2TO;2THO
2NO;2BA;2ph;2PO;2PHO;2MO;2YO;2RO;2LO;2VO;2SHA;2SSO;2SA;2HA;2LA;2QA;1ip vo QAQ;3QAA;3QI;3QII;3QU;3QUK
3QUU;3QUUV;3RY;3RYY;3LY;3LYY;3QE;3QAI;3QOO TYPE on;5tw;3QAU;1vo INHERENT AQ;3AA;21g;3I;3II;3Y;3YY;3U
3UU;3UA;3OE;3YA;3IE;3E;3AE;3AI;3OO;3AU;1g NIKAHIT;2REAHMUK;2YUUKALEAPINTU;2MUUSIKATOAN;2TRIISAP
2BANTOC;2ROBAT;2TOANDAKHIAT;2KAKABAT;2AHSDA;2SAMYOK SANNYA;2VIRIAM;2COENG;2BATHAMASAT;2KHAN
2BARIYOOSAN;2CAMNUC PII KUUH;2LEK TOO;2BEYYAL;2PHNAEK MUAN;2KOOMUUT;1uy y RIEL;1g AVAKRAHASANYA
2ATTHACAN;@17E0 1di z;2on;2tw;2t;2u;2fv;2sx;2se;2ei;2ni;@17F0 1y LEK ATTAK SON;4MUOY;4PII;4BEI;4BUON
4PRAM;4PRAM-MUOY;4PRAM-PII;4PRAM-BEI;4pb;@1800 0MONGOLIAN bg;1ELLIPSIS;1om;1fu STOP;1ol;1u ot
1TODO of hy;1SIBE sy BOUNDARY MARKER;1MANCHU om;2fu STOP;1NIRUGU;1FREE VARIATION SELECTOR on;4tw;4t
1vo sp;1FREE VARIATION SELECTOR u;1di z;2on;2tw;2t;2u;2fv;2sx;2se;2ei;2ni;@1820 1l A;2E;2I;2O;2U;2OE
2UE;2EE;2NA;2ANG;2BA;2PA;2QA;2GA;2MA;2LA;2SA;2SHA;2TA;2DA;2ch;2JA;2YA;2RA;2WA;2FA;2KA;2KHA;2TSA;2ZA
2HAA;2ZRA;2LHA;2ZHI;2CHI;2TODO ln vo g;3E;3I;3O;3U;3OE;3UE;3ANG;3BA;3PA;3QA;3GA;3MA;3TA;3DA;3ch;3JA
3TSA;3YA;3WA;3KA;3GAA;3HAA;3JIA;3NIA;3dz;2SIBE E;3I;3IY;3UE;3U;3ANG;3KA;3GA;3HA;3PA;3SHA;3TA;3DA;3JA
3FA;3GAA;3HAA;3TSA;3ZA;3RAA;3ch;3zh;2MANCHU I;3KA;3RA;3FA;3zh;2ch w tw ot;@1880 2ALI GALI an on;41vi
4DAMARU;4UBADAMA;41iv;4BALUDA;41t;4A;4I;4KA;4na;4CA;4TTA;4ta;4DDA;4NNA;4TA;4DA;4PA;4ph;4SSA;4zh;4ZA
4AH;2TODO ALI GALI TA;5zh;2MANCHU ALI GALI GHA;5na;5CA;5jh;5TTA;5dd;5TA;5dh;5SSA;5CYA;5zh;5ZA
2ALI GALI hl U;5YA;2MANCHU ALI GALI bh;2ALI GALI DAGALGA;2MANCHU ALI GALI LHA;@18B0 0CANADIAN yb OY
2AY;2AAY;2WAY;2POY;2PAY;2PWOY;2TAY;2KAY;2KWAY;2MAY;2NOY;2NAY;2LAY;2SOY;2SAY;2SHOY;2SHAY;2SHWOY;2YOY
2YAY;2RAY;2NWI;21oj;2NWII;21oj;2NWO;21oj;2NWOO;21oj;2RWEE;2RWI;2RWII;2RWO;2RWOO;2RWA;2oj P;3T;3K;3C
3M;3N;3S;3SH;2EASTERN W;21WESTERN;2fi s rn;3ra dt;2R-CREE RWE;2we LOO;3LAA;2THWE;2THWA;2TTHWE;2TTHOO
2TTHAA;2TLHWE;2TLHOO;2ay SHWE;3SHOO;3HOO;2CARRIER GWU;3DENE GEE;3GAA;3GWA;2ay JUU;2CARRIER JWA
2BEAVER DENE L;4R;2CARRIER DENTAL S;@1900 0LIMBU VOWEL-CARRIER l;1l KA;2KHA;2GA;2GHA;2na;2CA;2ch;2JA
2jh;2YAN;2TA;2THA;2DA;2dh;2NA;2PA;2ph;2BA;2bh;2MA;2YA;2RA;2LA;2WA;2SHA;2SSA;2SA;2HA;2GYAN;2TRA
@1920 1vo g A;3I;3U;3EE;3AI;3OO;3AU;3E;3O;1sj l YA;3RA;3WA;@1930 1s l KA;3na;3an;3TA;3NA;3PA;3MA;3RA
3LA;1g MUKPHRENG;2KEMPHRENG;2SA-I;@1940 2LOO;@1944 1ex ma;11qu;1di z;2on;2tw;2t;2u;2fv;2sx;2se;2ei
2ni;0TAI LE l KA;3XA;3na;3TSA;3SA;3YA;3TA;3THA;3LA;3PA;3ph;3MA;3FA;3VA;3HA;3QA;3KHA;3TSHA;3NA;3A;3I
3EE;3EH;3U;3OO;3O;3UE;3E;3AUE;3AI;@1970 3TONE-2;3TONE-3;3TONE-4;3TONE-5;3TONE-6
@1980 0NEW TAI LUE l hi QA;41lw;4hi KA;5XA;5na;4lw KA;5XA;5na;4hi TSA;5SA;5YA;4lw TSA;5SA;5YA;4hi TA
5THA;5NA;4lw TA;5THA;5NA;4hi PA;5ph;5MA;4lw PA;5ph;5MA;4hi FA;5VA;5LA;4lw FA;5VA;5LA;4hi HA;5DA;5BA
4lw HA;5DA;5BA;4hi KVA;5XVA;4lw KVA;5XVA;4hi SUA;41lw;@19B0 3vo g vo SHORTENER;5AA;5II;5U;5UU;5E;5AE
5O;5OA;5UE;5AY;5AAY;5UY;5OY;5OAY;5UEY;5IY;3l fi V;5NG;5N;5M;5K;5D;5B;3TONE MARK-1;4MARK-2
@19D0 3di z;4on;4tw;4t;4u;4fv;4sx;4se;4ei;4ni;3THAM di on;@19DE 3g LAE;4LAEV;0KHMER y PATHAMASAT
2MUOY KOET;21PII;21BEI;21BUON;21PRAM;21PRAM-MUOY;21PRAM-PII;21PRAM-BEI;21pb;21DAP;21DAP-MUOY
21DAP-PII;21DAP-BEI;21DAP-BUON;21DAP-PRAM;2TUTEYASAT;2MUOY ROC;21PII;21BEI;21BUON;21PRAM;21PRAM-MUOY
21PRAM-PII;21PRAM-BEI;21pb;21DAP;21DAP-MUOY;21DAP-PII;21DAP-BEI;21DAP-BUON;21DAP-PRAM;0BUGINESE l KA
2GA;2na;2NGKA;2PA;2BA;2MA;2MPA;2TA;2DA;2NA;2NRA;2CA;2JA;2ya;2NYCA;2YA;2RA;2LA;2VA;2SA;2A;2HA;1vo g I
3U;3E;3O;3AE;@1A1E 1PALLAWA;1END OF sc;0TAI THAM l hi KA;4KHA;4KXA;3lw KA;4KXA;4KHA;3na;3hi CA;4ch
3lw CA;4SA;4ch;3ya;3RATA;3hi RATHA;3DA;3lw RATHA;3RANA;3hi TA;4THA;3lw TA;4THA;3NA;3BA;3hi PA;4ph
4FA;3lw PA;4FA;4ph;3MA;3lw YA;31hi;3RA;3RUE;3LA;3LUE;3WA;3hi SHA;4SSA;4SA;4HA;3LLA;3A;3lw HA;3I;3II
3U;3UU;3EE;3OO;3LAE;3GREAT SA;2cn g md RA;5LA;4LA TANG LAI;21g MAI KANG;2cn g fi na;4lw PA
42hi RATHA OR;4MA;4BA;4SA;@1A60 2g SAKOT;2vo g A;4MAI SAT;4AA;41TALL;4I;4II;4UE;4UUE;4U;4UU;4O
4OA be;4OY;4E;4AE;4OO;4AI;41THAM;4OA a;2g MAI KANG;3TONE-1;3TONE-2;3KHUEN TONE-3;4TONE-4;4TONE-5
3RA HAAM;3MAI SAM;3KHUEN-LUE KARAN;@1A7F 2co ry dt;2HORA di z;4on;4tw;4t;4u;4fv;4sx;4se;4ei;4ni
@1A90 2THAM di z;4on;4tw;4t;4u;4fv;4sx;4se;4ei;4ni;@1AA0 2g WIANG;3WIANGWAAK;3SAWAN;3KEOW;3HOY
3DOKMAI;3re ro RANA;3MAI YAMOK;3KAAN;3KAANKUU;3SATKAAN;3SATKAANKUU;3HANG;3CAANG
@1AB0 0co DOUBLED x cc;1DIAERESIS-RING;1iy;1o ar;1tp dt;1X-X be;11WIGGLY ne;11oe ma;13d;11li cz k
13STRONG;1PARENTHESES a;12d;1PARENTHESES be;2oy;1lt s l W be;42tu;1f pa a f;1r pa a r;1f pa be f
1r pa be r;1q BRACKETS a;11nu g;11iv d ARCH;11pl g;13d;4be;1tp ac cc;1lt s l iu G;5R;5T
@1B00 0BALINESE g ULU RICEM;3ad;2CECEK;2SURANG;2BISAH;1l AKARA;3ug;2IKARA;3ug;2UKARA;3ug;2RA REPA
4ug;2LA LENGA;4ug;2EKARA;2AIKARA;2OKARA;3ug;2KA;3mp;2GA;3GORA;2na;2CA;3LACA;2JA;3JERA;2ya;2TA LATIK
3MURDA mp;2DA MURDA ALPAPRANA;4mp;2NA RAMBAT;2TA;3TAWA;2DA;3MADU;2NA;2PA;3KAPAL;2BA;3KEMBANG;2MA;2YA
2RA;2LA;2WA;2SA SAGA;3SAPA;3;2HA;1g REREKAN;1vo g ug;3ULU;4SARI;3SUKU;4ILUT;3RA REPA;5ug;3LA LENGA
5ug;3TALING;4REPA;4ug;41REPA;3PEPET;4ug;1ADEG ADEG;1l kf SASAK;21KHOT;21TZIR;21EF;21VE;21ZAL
21ASYURA;2ah JNYA;@1B50 1di z;2on;2tw;2t;2u;2fv;2sx;2se;2ei;2ni;1PANTI;1PAMADA;1WINDU
1CARIK PAMUNGKAH;2SIKI;2PAREREN;1PAMENENG;1ms y DONG;3DENG;3DUNG;3DANG;4SURANG;3DING;3DAENG;3DEUNG
3DAING;3DANG GEDE;3co TEGEH;4ENDEP;4KEMPUL;4KEMPLI;4JEGOGAN;41KEMPUL w;42KEMPLI;4BENDE;4GONG
3RIGHT-HAND oe DUG;5DAG;4cl TUK;5TAK;3LEFT-HAND oe PANG;5PUNG;4cl PLAK;5PLUK;4oe PING;1PANTI LANTANG
11PAMADA;@1B80 0SUNDANESE g PANYECEK;2PANGLAYAR;2PANGWISAD;1l A;2I;2U;2AE;2O;2E;2EU;2KA;2QA;2GA;2na
2CA;2JA;2ZA;2ya;2TA;2DA;2NA;2PA;2FA;2VA;2BA;2MA;2YA;2RA;2LA;2WA;2SA;2XA;2HA;1cn g PAMINGKAL
3PANYAKRA;3PANYIKU;1vo g PANGHULU;3PANYUKU;3PANAELAENG;3PANOLONG;3PAMEPET;3PANEULEUNG;1g PAMAAEH;2vr
1cn g PASANGAN MA;4WA;1l KHA;2SYA;1di z;2on;2tw;2t;2u;2fv;2sx;2se;2ei;2ni;1av;1l REU;2LEU;2bh;2fi K
3M;0BATAK l A;21sm;2HA;21sm;21MANDAILING;2BA;21KARO;2PA;21sm;2NA;21MANDAILING;2WA;21sm;21PAKPAK;2GA
21sm;2JA;2DA;2RA;21sm;2MA;21sm;2SOUTHERN TA;21NORTHERN;2SA;21sm;21MANDAILING;2YA;21sm;2na;2LA;21sm
2ya;2CA;2NDA;2MBA;2I;2U;1g TOMPI;1vo g E;31PAKPAK;3EE;3I;31KARO;3O;31KARO;3U;4FOR sm SA;1cn g NG;3H
1PANGOLAT;1PANONGONAN;@1BFC 1y BINDU NA METEK;3PINARBORAS;3JUDUL;3PANGOLAT;0LEPCHA l KA;2KLA;2KHA
2GA;2GLA;2na;2CA;2ch;2JA;2ya;2TA;2THA;2DA;2NA;2PA;2PLA;2ph;2FA;2FLA;2BA;2BLA;2MA;2MLA;2TSA;2TSHA;2dz
2YA;2RA;2LA;2HA;2HLA;2VA;2SA;2SHA;2WA;2A;1sj l YA;3RA;1vo g AA;3I;3O;3OO;3U;3UU;3E;1cn g K;3M;3L;3N
3P;3R;3T;3NYIN-DO;3KANG;1g RAN;2nk;@1C3B 1pu TA-ROL;21NYET THYOOM;2CER-WA;21TSHOOK;3;1di z;2on;2tw
2t;2u;2fv;2sx;2se;2ei;2ni;@1C4D 1l TTA;2ta;2DDA;0OL CHIKI di z;3on;3tw;3t;3u;3fv;3sx;3se;3ei;3ni
2l LA;3AT;3AG;3ANG;3AL;3LAA;3AAK;3AAJ;3AAM;3AAW;3LI;3IS;3IH;3INY;3IR;3LU;3UC;3UD;3UNN;3UY;3LE;3EP
3EDD;3EN;3ERR;3LO;3OTT;3OB;3OV;3OH;2MU TTUDDAG;2GAAHLAA TTUDDAAG;21MU-GAAHLAA;2RELAA;2PHAARKAA;2AHAD
2pu MUCAAD;31d;0cy s l ou VE;3LONG-LEGGED DE;3NARROW O;3WIDE ES;3TALL TE;31THREE-LEGGED;3TALL HARD g
4YAT;3UNBLENDED UK;@1C90 0gg MTAVRULI c l AN;4BAN;4GAN;4DON;4EN;4VIN;4ZEN;4TAN;4IN;4KAN;4LAS;4MAN
4NAR;4ON;4PAR;4ZHAR;4RAE;4SAN;4TAR;4UN;4PHAR;4KHAR;4GHAN;4QAR;4SHIN;4CHIN;4CAN;4JIL;4CIL;4CHAR;4XAN
4JHAN;4HAE;4HE;4HIE;4WE;4HAR;4HOE;4FI;4YN;4ELIFI;4tu GAN;4AIN;@1CBD 4AEN;4HARD g;41LABIAL
0SUNDANESE pu BINDU SURYA;3PANGLONG;3PURNAMA;3CAKRA;3LEU SATANGA;31KA;31DA;31BA
@1CD0 0VEDIC TONE KARSHANA;2SHARA;2PRENKHA;1g NIHSHVASA;2yj MIDLINE SVARITA;11TONE yj AGGRAVATED ip
32;32KATHAKA;2ad be;2yj KATHAKA ip SVARITA SCHROEDER;2d SVARITA;21tp;2KATHAKA ANUDATTA;2dt be
21tw ot;22t;2RIGVEDIC KASHMIRI ip SVARITA;22ATHARVAVEDIC;11g vi;3UDATTA;22re;2vi ANUDATTA;22re
2vi UDATTA w il;32ANUDATTA;2an ANTARGOMUKHA;3BAHIRGOMUKHA;3VAMAGOMUKHA;4w il;2TIRYAK;2HEXIFORM ln an
22;22RTHANG;2an UBHAYATO MUKHA;2ARDHAVISARGA;21ro;1TONE ad a;1g ji;2ua;2ATIKRAMA;1TONE rn a;22d
1g d an ANTARGOMUKHA;@1D00 0lt l s c A;4AE;11s l tu;1l s c BARRED B;4C;4D;4ETH;4E;11s l tu oe;4I
1l s c J;4K;4L w k;4M;4re N;4O;41oe;11s l sw;41oe;4O w k;3tu OE;1l s c OU;1s l TOP hl O;32bo
1l s c P;4re R;41tu;4T;4U;11s l sw;41DIAERESIZED;4tu M;1l s c V;4W;4Z;4EZH;2vd LARYNGEAL SPIRANT
2AIN;0ge l s c gm;4ld;4PI;4RHO;4PSI;0cy l s c EL;0mf l c A;3AE;3B;31BARRED;3D;3E;31re;3G;3H;3I;3J;3K
3L;3M;3N;31re;3O;3OU;3P;3R;3T;3U;3W;2s A;31tu;3ap;3tu AE;3B;3D;3E;3cw;3oe E;32tu;3G;3tu I;3K;3M;3ENG
3O;31oe;31TOP hl;32bo;3P;3T;3U;31sw;3tu M;3V;3AIN;3BETA;3ge gm;3et;3ge PHI;3CHI;0lt ss s l I;4R;4U
4V;0ge ss s l BETA;4gm;4RHO;4PHI;4CHI;0lt s l UE;3B w mi tl;33D;33F;33M;33N;33P;33R;52fs n;32S w;33T
33Z;3tu G;0mf l cy EN;0lt s l iu G;3TH w STRIKETHROUGH;2c l I w k;22l io;32P;22c l U;22l us
3B w PALATAL ho;33D;33F;33G;33K;33L;33M;33N;33P;33R;33S;33ESH;33V;33X;33Z;31A w rt;33ap;3D w ho n il
3E w rt ho;34oe;35re;33cw;33I;33oe O;33ESH;33U;33EZH;0mf l s tu ap;3C;4w ur;3ETH;3re oe E;3F
3os J w k;3cp G;3tu H;3I w k;3io;3c I;5w k;3J w rd;3L w rt ho;51PALATAL;3c L;3M w ho;3tu M w ln LEG
3N w f ho;51rt;3c N;3BARRED O;3PHI;3S w ho;3ESH;3T w PALATAL ho;3U BAR;3us;3c U;3V w ho;3tu V;3Z
4w rt ho;5ur;3EZH;3ht;0co de ga cc;21ac;1SNAKE be;1SUSPENSION ma;1MACRON-ACUTE;1GRAVE-MACRON
1MACRON-GRAVE;1ACUTE-MACRON;1GRAVE-ACUTE-GRAVE;1ACUTE-GRAVE-ACUTE;1lt s l R be;1BREVE-MACRON
1MACRON-BREVE;1d x a;11ok;1zg be;11IS;1UR a;11US;11lt s l FLATTENED oe A;4AE;4AO;4AV;4C cd;4iu D
4ETH;4G;21l s c;2s l K;4L;21l s c;5M;2s l N;21l s c;5R;2s l R ROTUNDA;4S;41ln;4Z;4ap;4B;4BETA;4cw;4F
4L w d mi tl;4O w li cz k;4P;4ESH;4U w li cz k;4W;4A w da;42O;42U;1UP tc a;1kv a r;3f;12dt
1WIDE iv BRIDGE be;1dt be f;1DELETION ma;1d iv bv be;11ls eq TO;1f ao a;1r ao n do ao be
01lt c l A w rn;15s;1c l B w dt a;15s;1c l B w dt be;15s;11c l B w ne;15s;1c l C w cd n ac;16s
1c l D w dt a;15s;1c l D w dt be;15s;11c l D w ne;15s;1c l D w cd;14s;1c l D w x be;15s
1c l E w mc n ga;16s;1c l E w mc n ac;16s;1c l E w x be;15s;11c l E w tl;15s;1c l E w cd n bv;16s
1c l F w dt a;15s;1c l G w mc;14s;1c l H w dt a;15s;1c l H w dt be;15s;1c l H w da;14s;1c l H w cd
14s;1c l H w bv be;15s;11c l I w tl;15s;1c l I w da n ac;16s;11c l K w;14s;1c l K w dt be;15s
11c l K w ne;15s;11c l L w dt;15s;1c l L w dt be n mc;17s;1c l L w ne be;15s;11c l L w x;15s
1c l M w ac;14s;1c l M w dt a;15s;1c l M w dt be;15s;1c l N w dt a;15s;1c l N w dt be;15s
11c l N w ne;15s;11c l N w x;15s;1c l O w tl n ac;16s;1c l O w tl n da;16s;1c l O w mc n ga;16s
1c l O w mc n ac;16s;11c l P w;14s;1c l P w dt a;15s;13c l R;15s;1c l R w dt be;15s
1c l R w dt be n mc;17s;1c l R w ne be;15s;1c l S w dt a;15s;1c l S w dt be;15s;1c l S w ac n dt a
17s;13c l S w CARON;17s;13c l S w dt be;18s;12c l T w;15s;1c l T w dt be;15s;11c l T w ne;15s
11c l T w x;15s;11c l U w da;15s;11c l U w tl;15s;11c l U w x;15s;1c l U w tl n ac;16s
1c l U w mc n da;16s;1c l V w tl;14s;1c l V w dt be;15s;1c l W w ga;14s;1c l W w ac;14s;1c l W w da
14s;1c l W w dt a;15s;1c l W w dt be;15s;1c l X w dt a;15s;1c l X w da;14s;1c l Y w dt a;15s
1c l Z w x;14s;1c l Z w dt be;15s;11c l Z w ne;15s;33H;3T w da;3W w rn a;33Y;3A w r hl rn
3ln S w dt a;6dg k;61hi;1c l SHARP S;1s l et;1c l A w dt be;15s;1c l A w ho a;15s;1c l A w x n ac
16s;1c l A w x n ga;16s;1c l A w x n ho a;17s;1c l A w x n tl;16s;1c l A w x n dt be;17s
1c l A w bv n ac;16s;1c l A w bv n ga;16s;1c l A w bv n ho a;17s;1c l A w bv n tl;16s
1c l A w bv n dt be;17s;12c l E w;15s;1c l E w ho a;15s;1c l E w tl;14s;1c l E w x n ac;16s
1c l E w x n ga;16s;1c l E w x n ho a;17s;1c l E w x n tl;16s;1c l E w x n dt be;17s;1c l I w ho a
15s;1c l I w dt be;15s;13c l O;15s;1c l O w ho a;15s;1c l O w x n ac;16s;1c l O w x n ga;16s
1c l O w x n ho a;17s;1c l O w x n tl;16s;1c l O w x n dt be;17s;1c l O w HORN n ac;16s
1c l O w HORN n ga;16s;1c l O w HORN n ho a;17s;1c l O w HORN n tl;16s;1c l O w HORN n dt be;17s
12c l U w;15s;1c l U w ho a;15s;1c l U w HORN n ac;16s;1c l U w HORN n ga;16s;1c l U w HORN n ho a
17s;1c l U w HORN n tl;16s;1c l U w HORN n dt be;17s;1c l Y w ga;14s;1c l Y w dt be;15s
1c l Y w ho a;15s;1c l Y w tl;14s;1c l MIDDLE-WELSH LL;13s;1c l MIDDLE-WELSH V;13s;1c l Y w LOOP;14s
0ge s l ap w ps;5ds;5ps n va;52ds;5ps n ox;52ds;5ps n pe;52ds;1c l ap w ps;5ds;5ps n va;52ds
5ps n ox;52ds;5ps n pe;52ds;1s l ep w ps;5ds;5ps n va;52ds;5ps n ox;52ds;@1F18 1c l ep w ps;5ds
5ps n va;52ds;5ps n ox;52ds;@1F20 1s l ETA w ps;5ds;5ps n va;52ds;5ps n ox;52ds;5ps n pe;52ds
1c l ETA w ps;5ds;5ps n va;52ds;5ps n ox;52ds;5ps n pe;52ds;1s l io w ps;5ds;5ps n va;52ds;5ps n ox
52ds;5ps n pe;52ds;1c l io w ps;5ds;5ps n va;52ds;5ps n ox;52ds;5ps n pe;52ds;1s l oi w ps;5ds
5ps n va;52ds;5ps n ox;52ds;@1F48 1c l oi w ps;5ds;5ps n va;52ds;5ps n ox;52ds;@1F50 1s l us w ps
5ds;5ps n va;52ds;5ps n ox;52ds;5ps n pe;52ds;@1F59 1c l us w ds;@1F5B 6n va;@1F5D 7ox;@1F5F 7pe
1s l og w ps;5ds;5ps n va;52ds;5ps n ox;52ds;5ps n pe;52ds;1c l og w ps;5ds;5ps n va;52ds;5ps n ox
52ds;5ps n pe;52ds;1s l ap w va;5ox;3ep w va;5ox;3ETA w va;5ox;3io w va;5ox;3oi w va;5ox;3us w va
5ox;3og w va;5ox;@1F80 3ap w ps n yp;52ds;52ps n va;54ds;52ps n ox;54ds;52ps n pe;54ds
1c l ap w ps n pr;52ds;52ps n va;54ds;52ps n ox;54ds;52ps n pe;54ds;1s l ETA w ps n yp;52ds
52ps n va;54ds;52ps n ox;54ds;52ps n pe;54ds;1c l ETA w ps n pr;52ds;52ps n va;54ds;52ps n ox;54ds
52ps n pe;54ds;1s l og w ps n yp;52ds;52ps n va;54ds;52ps n ox;54ds;52ps n pe;54ds;1c l og w ps n pr
52ds;52ps n va;54ds;52ps n ox;54ds;52ps n pe;54ds;1s l ap w vh;5mc;5va n yp;51;51ox n;@1FB6 5pe
6n yp;1c l ap w vh;5mc;5va;5ox;5pr;1KORONIS;1pr;1ps;1pe;11dl n;1s l ETA w va n yp;51;51ox n
@1FC6 5pe;6n yp;1c l ep w va;5ox;3ETA w va;5ox;5pr;1ps n va;3ox;3pe;1s l io w vh;5mc;5dl n va;7ox
@1FD6 5pe;51dl n;1c l io w vh;5mc;5va;5ox;@1FDD 1ds n va;3ox;3pe;1s l us w vh;5mc;5dl n va;7ox
3RHO w ps;5ds;3us w pe;51dl n;1c l us w vh;5mc;5va;5ox;3RHO w ds;1dl n va;3ox;1va
@1FF2 1s l og w va n yp;51;51ox n;@1FF6 5pe;6n yp;1c l oi w va;5ox;3og w va;5ox;5pr;1ox;1ds"

end Deminify.Text.CharName
