/-!
# Names of notes, pictures and tags

Entries are parted by semicolons and the ends of lines. An entry has the number of words that it
shares with the start of the one before it, the number of those that it shares with the end of that, if
there are any, and then its other words, of which the frequent ones are abbreviated; a code point stands
before it where the count leaves a gap.
-/

namespace Deminify.Text.CharName

/-- The names from `1B000` on. -/
def pictures : String := "
@1B000 0ka l ah E;0HIRAGANA l ah YE;0HENTAIGANA l A-1;2A-2;2A-3;2A-WO;2I-1;2I-2;2I-3;2I-4;2U-1;2U-2
2U-3;2U-4;2U-5;2E-2;2E-3;2E-4;2E-5;2E-6;2O-1;2O-2;2O-3;2KA-1;2KA-2;2KA-3;2KA-4;2KA-5;2KA-6;2KA-7
2KA-8;2KA-9;2KA-10;2KA-11;2KA-KE;2KI-1;2KI-2;2KI-3;2KI-4;2KI-5;2KI-6;2KI-7;2KI-8;2KU-1;2KU-2;2KU-3
2KU-4;2KU-5;2KU-6;2KU-7;2KE-1;2KE-2;2KE-3;2KE-4;2KE-5;2KE-6;2KO-1;2KO-2;2KO-3;2KO-KI;2SA-1;2SA-2
2SA-3;2SA-4;2SA-5;2SA-6;2SA-7;2SA-8;2SI-1;2SI-2;2SI-3;2SI-4;2SI-5;2SI-6;2SU-1;2SU-2;2SU-3;2SU-4
2SU-5;2SU-6;2SU-7;2SU-8;2SE-1;2SE-2;2SE-3;2SE-4;2SE-5;2SO-1;2SO-2;2SO-3;2SO-4;2SO-5;2SO-6;2SO-7
2TA-1;2TA-2;2TA-3;2TA-4;2TI-1;2TI-2;2TI-3;2TI-4;2TI-5;2TI-6;2TI-7;2TU-1;2TU-2;2TU-3;2TU-4;2TU-TO
2TE-1;2TE-2;2TE-3;2TE-4;2TE-5;2TE-6;2TE-7;2TE-8;2TE-9;2TO-1;2TO-2;2TO-3;2TO-4;2TO-5;2TO-6;2TO-RA
2NA-1;2NA-2;2NA-3;2NA-4;2NA-5;2NA-6;2NA-7;2NA-8;2NA-9;2NI-1;2NI-2;2NI-3;2NI-4;2NI-5;2NI-6;2NI-7
2NI-TE;2NU-1;2NU-2;2NU-3;2NE-1;2NE-2;2NE-3;2NE-4;2NE-5;2NE-6;2NE-KO;2NO-1;2NO-2;2NO-3;2NO-4;2NO-5
2HA-1;2HA-2;2HA-3;2HA-4;2HA-5;2HA-6;2HA-7;2HA-8;2HA-9;2HA-10;2HA-11;2HI-1;2HI-2;2HI-3;2HI-4;2HI-5
2HI-6;2HI-7;2HU-1;2HU-2;2HU-3;2HE-1;2HE-2;2HE-3;2HE-4;2HE-5;2HE-6;2HE-7;2HO-1;2HO-2;2HO-3;2HO-4
2HO-5;2HO-6;2HO-7;2HO-8;2MA-1;2MA-2;2MA-3;2MA-4;2MA-5;2MA-6;2MA-7;2MI-1;2MI-2;2MI-3;2MI-4;2MI-5
2MI-6;2MI-7;2MU-1;2MU-2;2MU-3;2MU-4;2ME-1;2ME-2;2ME-MA;2MO-1;2MO-2;2MO-3;2MO-4;2MO-5;2MO-6;2YA-1
2YA-2;2YA-3;2YA-4;2YA-5;2YA-YO;2YU-1;2YU-2;2YU-3;2YU-4;2YO-1;2YO-2;2YO-3;2YO-4;2YO-5;2YO-6;2RA-1
2RA-2;2RA-3;2RA-4;2RI-1;2RI-2;2RI-3;2RI-4;2RI-5;2RI-6;2RI-7;2RU-1;2RU-2;2RU-3;2RU-4;2RU-5;2RU-6
2RE-1;2RE-2;2RE-3;2RE-4;2RO-1;2RO-2;2RO-3;2RO-4;2RO-5;2RO-6;2WA-1;2WA-2;2WA-3;2WA-4;2WA-5;2WI-1
2WI-2;2WI-3;2WI-4;2WI-5;2WE-1;2WE-2;2WE-3;2WE-4;2WO-1;2WO-2;2WO-3;2WO-4;2WO-5;2WO-6;2WO-7;2N-MU-MO-1
2N-MU-MO-2;0HIRAGANA l ah WU;0ka l ah YI;3YE;3WU;@1B150 0HIRAGANA l s WI;3WE;3WO;@1B164 0ka l s WI
3WE;3WO;3N;@1BC00 0DUPLOYAN l H;2X;2P;2T;2F;2K;2L;2B;2D;2V;2G;2R;2P N;2D S;2F N;2K M;2R S;2TH
2SLOAN DH;21;2KK;2SLOAN J;2HL;2LH;2RH;2M;2N;2J;2S;2M N;2N M;21J;2S J;2M w dt;22N;22J;4ot ns n a
2S w dt;5be;2M S;21N;21J;21S;21M N;21N M;22J;21S J;2J S w dt;3N;4S;2S T;4R;3P;4R;2T S;31R;2W;2WH
2W R;2S N;3M;2K R S;22G;2S K;4R;2A;2SLOAN OW;2OA;2O;2AOU;2I;2E;2IE;2sh I;2UI;2EE;2SLOAN EH
2ROMANIAN I;2SLOAN EE;2ln I;2YE;2U;2EU;2XW;2U N;2ln U;21ROMANIAN;2UH;2SLOAN U;2OOH;2OW;2OU;2WA;2WO
2WI;2WEI;2WOW;2NASAL U;3O;3I;3A;2PERNIN AN;3AM;2SLOAN EN;3AN;3ON;2vc M;@1BC70 1AFFIX f h SECANT
22MID;22r;21lw v;22MID;22hi;21ATTACHED;31lr;3TANGENT;3il;3E ho;31I;31TANGENT;@1BC80 2hi ac;31TIGHT
3ga;31ln;3dt;3ci;3ne;3wv;3v;@1BC90 2lw ac;31TIGHT;3ga;31ln;3dt;3ci;3ne;3wv;3v;3ar;@1BC9C 1g O w rs
1THICK l SELECTOR;1d ma;1pu CHINOOK fu STOP;0SHORTHAND FORMAT l OVERLAP;21CONTINUING;2do STEP;21UP
@1CF00 0ZNAMENNY co ma gz NIZKO S kr ON f;35;32TSATA;32gz NIZKO;33;32SREDNE;32MALO pv;33;32vk
32MALO pv S KHOKHLOM;35;34vk;3gz NIZKO S kr ON r;35;32TSATA;32gz NIZKO;33;32SREDNE;32MALO pv;33;32vk
32MALO pv S KHOKHLOM;35;34vk;3TSATA S kr;32MALO pv;3STRANNO MALO pv;3pv S kr;4STRANNO;3vk S kr
3MALO pv STRANNO;3gz vk;3ZELO;3ON;3RAVNO;3TIKHAYA;3BORZAYA;3UDARKA;3PODVERTKA;3LOMKA;3KUPNAYA
3KACHKA;3ZEVOK;3SKOBA;3RAZSEKA;3KRYZH ON f;@1CF30 2TONAL RANGE ma MRACHNO;5SVETLO;5TRESVETLO
2ma ZADERZHKA;31DEMESTVENNY;3OTSECHKA;3PODCHASHIE;4w v k;3CHASHKA;4POLNAYA;3OBLACHKO
3SOROCHYA NOZHKA;3TOCHKA;3DVOETOCHIE;2ATTACHING v OMET;21ma uv;3KRYZH;2lo TONAL RANGE ic
1PRIZNAK mf LEVEL-2;3LEVEL-3;3DIRECTION FLIP;3KRYZH;3ROG;@1CF50 1NEUME KRYUK;3TIKHY;2PARAKLIT
2DVA V CHELNU;2KLYUCH;2ZANOZHEK;2STOPITSA;3S OCHKOM;2PEREVODKA;3np;2STOPITSA w SOROCHYA NOZHKA
2CHELYUSTKA;2PALKA;2zp;2GOLUBCHIK BORZY;3TIKHY;3MRACHNY;3SVETLY;3TRESVETLY;2VRAKHIYA PROSTAYA
3MRACHNAYA;3vt;3ty;3kl PROSTAYA;4MRACHNAYA;4vt;4ty;2d zp;2re CHELYUSTKA;2DERBITSA;2KHAMILO;2CHASHKA
2PODCHASHIE;2SKAMEYTSA MRACHNAYA;3vt;3ty;3TIKHAYA;2DEMESTVENNY KLYUCH;2SKAMEYTSA kl vt;3kc
3kl TIKHAYA;3dy PROSTAYA;4vt;4np;4kl;2SLOZHITIE;3S zy;3ZAKRYTOE;3S kr;2KRYZH;2ROG;2FITA;2KOBYLA
2ZMEYTSA;2STATYA;3S zy;4kr;41zy I;4kr I zy;3ZAKRYTAYA;4S zy;3S ROGOM;4DVUMYA ZAPYATYMI
4zy I PODCHASHIEM;2POLKULIZMY;2STATYA np;2STRELA PROSTAYA;3MRACHNOTIKHAYA;3KRYZHEVAYA;3POLUPOVODNAYA
3py;3np;3KLYUCHEPOVODNAYA;3kc;3TIKHAYA PUTNAYA;3dy;3DVOECHELNOKRYZHEVAYA;3vv;3dy kl;31vv
3GROMNAYA w si zp;33go;3GROMNAYA;3go;4w d zp;3rz;4py;2MECHIK;3POVODNY;3KLYUCHEVOY;3KLYUCHEPOVODNY
3KLYUCHENEPOSTOYANNY;2STRELA TRYASOGLASNAYA;3TRYASOPOVODNAYA;3TRYASOSTRELNAYA;2OSOKA;3vt;3ty
3KRYUKOVAYA vt;31kl;4np;2STRELA KRYUKOVAYA;4py;4GROMNAYA w si zp;43go;4GROMNAYA;4go;5w d zp;4rz;5py
4TRYASKA;2KUFISMA;2OBLAKO;2DUDA;2NEMKA;2PAUK;@1D000 0BYZANTINE ms y ps;3DASEIA;3pe;3OXEIA fk;4DIPLI
3VAREIA fk;4DIPLI;3KATHISTI;3SYRMATIKI;3lk;3YPOKRISIS;4DIPLI;3KREMASTI;3APESO fk;31EXO;3TELEIA;3ke
3APOSTROFOS;4DIPLI;3SYNEVMA;3THITA;3OLIGON rc;31GORGON;3PSILON;3CHAMILON;3VATHY;3ISON rc;31KENTIMA
31ke;3SAXIMATA;3PARICHON;3STAVROS APODEXIA;3OXEIAI rc;31VAREIAI;31APODERMA;3APOTHEMA;3KLASMA;3REVMA
3PIASMA rc;3TINAGMA;3ANATRICHISMA;3SEISMA;3SYNAGMA rc;4META STAVROU;3OYRANISMA rc;3THEMA;3LEMOI;3DYO
3TRIA;3TESSERA;3KRATIMATA;3APESO EXO NEO;3FTHORA rc;3IMIFTHORA;3tm rc;3KATAVA tm;3PELASTON
3PSIFISTON;3KONTEVMA;3CHOREVMA rc;3RAPISMA;3PARAKALESMA rc;31lk;3ICHADIN;3NANA;3PETASMA
3KONTEVMA ALLO;31tm;3STRAGGISMATA;3GRONTHISMATA;3ISON NEO;31OLIGON;31OXEIA;3PETASTI;3KOUFISMA
3PETASTOKOUFISMA;3KRATIMOKOUFISMA;3PELASTON NEO;3ke NEO ANO;32KENTIMA;3YPSILI;3APOSTROFOS NEO
31APOSTROFOI SYNDESMOS;3YPORROI;3KRATIMOYPORROON;3ELAFRON;3CHAMILI;3MIKRON ISON;3VAREIA NEO;31PIASMA
31PSIFISTON;3OMALON;3ANTIKENOMA;3LYGISMA;3lk NEO;31PARAKALESMA;3ETERON PARAKALESMA;3KYLISMA
3ANTIKENOKYLISMA;3tm NEO;3EKSTREPTON;3SYNAGMA NEO;3SYRMA;3CHOREVMA NEO;3EPEGERMA;3SEISMA NEO
3XIRON KLASMA;3TROMIKOPSIFISTON;3PSIFISTOLYGISMA;3TROMIKOLYGISMA;3TROMIKOPARAKALESMA
3PSIFISTOPARAKALESMA;3TROMIKOSYNAGMA;3PSIFISTOSYNAGMA;3GORGOSYNTHETON;3ARGOSYNTHETON;31ETERON
3OYRANISMA NEO;3THEMATISMOS ESO;4EXO;3THEMA APLOUN;3THES KAI APOTHES;3KATAVASMA;3ENDOFONON
3YFEN KATO;4ANO;3STAVROS;3KLASMA ANO;3DIPLI rc;31KRATIMA;4ALLO;4NEO;31APODERMA;3APLI;3DIPLI;3TRIPLI
3TETRAPLI;3KORONIS;3LEIMMA ENOS CHRONOU;4DYO CHRONON;41TRION;41TESSARON;4IMISEOS CHRONOU
3GORGON NEO ANO;4PARESTIGMENON ARISTERA;5DEXIA;3DIGORGON;4PARESTIGMENON ARISTERA KATO;6ANO;5DEXIA
3TRIGORGON;3ARGON;3IMIDIARGON;3DIARGON;3AGOGI POLI ARGI;4ARGOTERI;4ARGI;4METRIA;4MESI;4GORGI
4GORGOTERI;4POLI GORGI;3MARTYRIA PROTOS ICHOS;42ALLI;41DEYTEROS;42ALLI;41TRITOS;4TRIFONIAS
4TETARTOS ICHOS;51LEGETOS;42;41PLAGIOS;3ISAKIA TELOUS ICHIMATOS;32APOSTROFOI;3FANEROSIS TETRAFONIAS
4MONOFONIAS;4DIFONIAS;3MARTYRIA VARYS ICHOS;41PROTOVARYS;41PLAGIOS TETARTOS;3GORTHMIKON N APLOUN
5DIPLOUN;3ENARXIS KAI FTHORA VOU;3IMIFONON;3IMIFTHORON;3FTHORA rc DEYTEROU ICHOU;4DIATONIKI PA;5NANA
4NAOS ICHOS;4DIATONIKI DI;41SKLIRON DIATONON;4DIATONIKI KE;5ZO;5NI KATO;6ANO
4MALAKON CHROMA DIFONIAS;6MONOFONIAS;3FHTORA SKLIRON CHROMA VASIS;3FTHORA SKLIRON CHROMA SYNAFI
4NENANO;3CHROA ZYGOS;4KLITON;4SPATHI;3FTHORA I yf TETARTIMORION;4ENARMONIOS ANTIFONIA
3yf TRITIMORION;31DIESIS;4TETARTIMORION;4APLI DYO DODEKATA;41MONOGRAMMOS TESSERA;41DIGRAMMOS EX
41TRIGRAMMOS OKTO;31yf APLI DYO;41MONOGRAMMOS TESSERA;41DIGRAMMOS EX;41TRIGRAMMOS OKTO
3GENIKI DIESIS;4yf;3DIASTOLI APLI MIKRI;5MEGALI;4DIPLI;4THESEOS;31SIMANSIS;5DISIMOU;5TRISIMOU
5TETRASIMOU;4ARSEOS;5DISIMOU;5TRISIMOU;5TETRASIMOU;3DIGRAMMA GG;3DIFTOGGOS OU;3STIGMA;3ARKTIKO PA
4VOU;4GA;4DI;4KE;4ZO;4NI;3ke NEO MESO;32KENTIMA;3ke NEO KATO;32KENTIMA;31KLASMA;31GORGON NEO
@1D100 0ms y si BARLINE;21d;21fi;22rv;21DASHED;21sh;2f REPEAT g;22r;2REPEAT ot;2DAL SEGNO;2DA CAPO
2SEGNO;2CODA;2REPEATED FIGURE-1;3FIGURE-2;3FIGURE-3;2FERMATA;3be;2BREATH ma;2CAESURA;2BRACE;2br
2ONE-LINE STAFF;21TWO-LINE;21THREE-LINE;21FOUR-LINE;21FIVE-LINE;21SIX-LINE;2SIX-STRING FRETBOARD
21FOUR-STRING;2G CLEF;4OTTAVA ALTA;5BASSA;2C CLEF;21F;4OTTAVA ALTA;5BASSA;2DRUM CLEF-1;3CLEF-2
@1D129 2ml MEASURE REST;2d SHARP;3FLAT;2FLAT UP;3do;2NATURAL UP;3do;2SHARP UP;3do;2qa TONE SHARP
4FLAT;2COMMON TIME;21CUT;2OTTAVA ALTA;3BASSA;2QUINDICESIMA ALTA;3BASSA;2MULTI REST;21WHOLE;21hl;21qa
21eg;21xe;21ys;21xy;21on hu wg;2X nh;21pl;21ci X;2q nh wh;4b;2ti nh UP wh;5b;4f wh;5b;4r wh;5b
4do wh;5b;4UP r wh;6b;2MOON nh wh;4b;2TRIANGLE-ROUND nh do wh;5b;2pa nh;21VOID;2nh b;2NULL nh
2CLUSTER nh wh;4b;2bv;2WHOLE NOTE;21hl;21qa;21eg;21xe;21ys;21xy;21on hu wg;2co STEM;31SPRECHGESANG
3TREMOLO-1;3TREMOLO-2;3TREMOLO-3;2FINGERED TREMOLO-1;3TREMOLO-2;3TREMOLO-3;2co AUGMENTATION dt
3FLAG-1;3FLAG-2;3FLAG-3;3FLAG-4;3FLAG-5;2BEGIN BEAM;21END;2BEGIN TIE;21END;2BEGIN SLUR;21END
2BEGIN PHRASE;21END;2co cc;3STACCATO;3TENUTO;3STACCATISSIMO;3MARCATO;3MARCATO-STACCATO
3ACCENT-STACCATO;3LOURE;2ARPEGGIATO UP;3do;2co DOIT;3RIP;3FLIP;3SMEAR;3BEND;3d TONGUE;31tp
2RINFORZANDO;2SUBITO;2Z;2PIANO;2MEZZO;2FORTE;2CRESCENDO;2DECRESCENDO;2GRACE NOTE SLASH;41NO;2TR
2TURN;21iv;2TURN SLASH;3UP;2oa STROKE-1;3STROKE-2;3STROKE-3;3STROKE-4;3STROKE-5;3STROKE-6;3STROKE-7
3STROKE-8;3STROKE-9;3STROKE-10;3STROKE-11;2HAUPTSTIMME;2NEBENSTIMME;2END OF STIMME;2DEGREE SLASH
2co do BOW;31UP;3HARMONIC;3SNAP PIZZICATO;2PEDAL ma;31UP;21hl PEDAL;2GLISSANDO UP;3do;2w FINGERNAILS
2DAMP;3ALL;2MAXIMA;2LONGA;2BREVIS;2SEMIBREVIS wh;3b;2MINIMA;3b;2SEMIMINIMA wh;3b;2FUSA wh;3b
2LONGA pf REST;31fc;21BREVIS;21SEMIBREVIS;21MINIMA;21SEMIMINIMA;2TEMPUS PERFECTUM CUM PROLATIONE pf
6fc;6pf DIMINUTION-1;3IMPERFECTUM CUM PROLATIONE pf;6fc;7DIMINUTION-1;7DIMINUTION-2;7DIMINUTION-3
2CROIX;2GREGORIAN C CLEF;31F;2q B;2VIRGA;2PODATUS;2CLIVIS;2SCANDICUS;2CLIMACUS;2TORCULUS;2PORRECTUS
3FLEXUS;21SCANDICUS;2TORCULUS RESUPINUS;2PES SUBPUNCTIS;2KIEVAN C CLEF;3END OF PIECE;3fi NOTE
3RECITATIVE ma;3WHOLE NOTE;31hl;3qa NOTE STEM do;6UP;3eg NOTE STEM do;6UP;3FLAT g;2SORI;2KORON
@1D200 0ge VOCAL NOTATION SYMBOL-1;3SYMBOL-2;3SYMBOL-3;3SYMBOL-4;3SYMBOL-5;3SYMBOL-6;3SYMBOL-7
3SYMBOL-8;3SYMBOL-9;3SYMBOL-10;3SYMBOL-11;3SYMBOL-12;3SYMBOL-13;3SYMBOL-14;3SYMBOL-15;3SYMBOL-16
3SYMBOL-17;3SYMBOL-18;3SYMBOL-19;3SYMBOL-20;3SYMBOL-21;3SYMBOL-22;3SYMBOL-23;3SYMBOL-24;3SYMBOL-50
3SYMBOL-51;3SYMBOL-52;3SYMBOL-53;3SYMBOL-54;1INSTRUMENTAL NOTATION SYMBOL-1;3SYMBOL-2;3SYMBOL-4
3SYMBOL-5;3SYMBOL-7;3SYMBOL-8;3SYMBOL-11;3SYMBOL-12;3SYMBOL-13;3SYMBOL-14;3SYMBOL-17;3SYMBOL-18
3SYMBOL-19;3SYMBOL-23;3SYMBOL-24;3SYMBOL-25;3SYMBOL-26;3SYMBOL-27;3SYMBOL-29;3SYMBOL-30;3SYMBOL-32
3SYMBOL-36;3SYMBOL-37;3SYMBOL-38;3SYMBOL-39;3SYMBOL-40;3SYMBOL-42;3SYMBOL-43;3SYMBOL-45;3SYMBOL-47
3SYMBOL-48;3SYMBOL-49;3SYMBOL-50;3SYMBOL-51;3SYMBOL-52;3SYMBOL-53;3SYMBOL-54;0co ge ms TRISEME
3TETRASEME;3PENTASEME;0ge ms LEIMMA;@1D2E0 0MAYAN nm z;2on;2tw;2t;2u;2fv;2sx;2se;2ei;2ni;2tn;2lv;2tv
2THIRTEEN;2fe;2FIFTEEN;2xt;2ev;2ih;2NINETEEN;@1D300 0mg FOR EARTH;01DIGRAM FOR HEAVENLY;21HUMAN
2EARTHLY HEAVEN;3HUMAN;2EARTH;0TETRAGRAM FOR ce;2fu ci;2MIRED;2BARRIER;2KEEPING s;2CONTRARIETY
2ASCENT;2OPPOSITION;2BRANCHING OUT;2DEFECTIVENESS OR DISTORTION;2DIVERGENCE;2YOUTHFULNESS;2INCREASE
2PENETRATION;2REACH;2CONTACT;2HOLDING BACK;2WAITING;2FOLLOWING;2ADVANCE;2RELEASE;2RESISTANCE;2EASE
2JOY;2CONTENTION;2ENDEAVOUR;2DUTIES;2CHANGE;2DECISIVENESS;2bd RESOLUTION;2PACKING;2LEGION;2CLOSENESS
2KINSHIP;2GATHERING;2STRENGTH;2PURITY;2FULLNESS;2RESIDENCE;2LAW OR MODEL;2RESPONSE;2GOING TO MEET
2ENCOUNTERS;2STOVE;2GREATNESS;2ENLARGEMENT;2PATTERN;2RITUAL;2FLIGHT;2VASTNESS OR WASTING;2CONSTANCY
2MEASURE;2ETERNITY;2UNITY;2DIMINISHMENT;2cl mt;2GUARDEDNESS;2GATHERING IN;2MASSING;2ACCUMULATION
2EMBELLISHMENT;2DOUBT;2WATCH;2SINKING;2INNER;2DEPARTURE;2DARKENING;2DIMMING;2EXHAUSTION;2SEVERANCE
2STOPPAGE;2HARDNESS;2COMPLETION;2CLOSURE;2FAILURE;2AGGRAVATION;2COMPLIANCE;2ON THE VERGE
2DIFFICULTIES;2LABOURING;2FOSTERING;@1D360 0COUNTING ROD UNIT di on;4tw;4t;4u;4fv;4sx;4se;4ei;4ni
2TENS di on;4tw;4t;4u;4fv;4sx;4se;4ei;4ni;0ie TALLY ma on;3tw;3t;3u;3fv;0TALLY ma on;2fv
@1D400 0am bd c A;3B;3C;3D;3E;3F;3G;3H;3I;3J;3K;3L;3M;3N;3O;3P;3Q;3R;3S;3T;3U;3V;3W;3X;3Y;3Z;2s A;3B
3C;3D;3E;3F;3G;3H;3I;3J;3K;3L;3M;3N;3O;3P;3Q;3R;3S;3T;3U;3V;3W;3X;3Y;3Z;1ia c A;3B;3C;3D;3E;3F;3G;3H
3I;3J;3K;3L;3M;3N;3O;3P;3Q;3R;3S;3T;3U;3V;3W;3X;3Y;3Z;2s A;3B;3C;3D;3E;3F;3G;@1D456 3I;3J;3K;3L;3M
3N;3O;3P;3Q;3R;3S;3T;3U;3V;3W;3X;3Y;3Z;1bd ia c A;4B;4C;4D;4E;4F;4G;4H;4I;4J;4K;4L;4M;4N;4O;4P;4Q;4R
4S;4T;4U;4V;4W;4X;4Y;4Z;3s A;4B;4C;4D;4E;4F;4G;4H;4I;4J;4K;4L;4M;4N;4O;4P;4Q;4R;4S;4T;4U;4V;4W;4X;4Y
4Z;1cp c A;@1D49E 3C;3D;@1D4A2 3G;@1D4A5 3J;3K;@1D4A9 3N;3O;3P;3Q;@1D4AE 3S;3T;3U;3V;3W;3X;3Y;3Z
2s A;3B;3C;3D;@1D4BB 3F;@1D4BD 3H;3I;3J;3K;3L;3M;3N;@1D4C5 3P;3Q;3R;3S;3T;3U;3V;3W;3X;3Y;3Z
1bd cp c A;4B;4C;4D;4E;4F;4G;4H;4I;4J;4K;4L;4M;4N;4O;4P;4Q;4R;4S;4T;4U;4V;4W;4X;4Y;4Z;3s A;4B;4C;4D
4E;4F;4G;4H;4I;4J;4K;4L;4M;4N;4O;4P;4Q;4R;4S;4T;4U;4V;4W;4X;4Y;4Z;1FRAKTUR c A;3B;@1D507 3D;3E;3F;3G
@1D50D 3J;3K;3L;3M;3N;3O;3P;3Q;@1D516 3S;3T;3U;3V;3W;3X;3Y;@1D51E 2s A;3B;3C;3D;3E;3F;3G;3H;3I;3J;3K
3L;3M;3N;3O;3P;3Q;3R;3S;3T;3U;3V;3W;3X;3Y;3Z;1du c A;3B;@1D53B 3D;3E;3F;3G;@1D540 3I;3J;3K;3L;3M
@1D546 3O;@1D54A 3S;3T;3U;3V;3W;3X;3Y;@1D552 2s A;3B;3C;3D;3E;3F;3G;3H;3I;3J;3K;3L;3M;3N;3O;3P;3Q;3R
3S;3T;3U;3V;3W;3X;3Y;3Z;1bd FRAKTUR c A;4B;4C;4D;4E;4F;4G;4H;4I;4J;4K;4L;4M;4N;4O;4P;4Q;4R;4S;4T;4U
4V;4W;4X;4Y;4Z;3s A;4B;4C;4D;4E;4F;4G;4H;4I;4J;4K;4L;4M;4N;4O;4P;4Q;4R;4S;4T;4U;4V;4W;4X;4Y;4Z
1sn c A;3B;3C;3D;3E;3F;3G;3H;3I;3J;3K;3L;3M;3N;3O;3P;3Q;3R;3S;3T;3U;3V;3W;3X;3Y;3Z;2s A;3B;3C;3D;3E
3F;3G;3H;3I;3J;3K;3L;3M;3N;3O;3P;3Q;3R;3S;3T;3U;3V;3W;3X;3Y;3Z;2bd c A;4B;4C;4D;4E;4F;4G;4H;4I;4J;4K
4L;4M;4N;4O;4P;4Q;4R;4S;4T;4U;4V;4W;4X;4Y;4Z;3s A;4B;4C;4D;4E;4F;4G;4H;4I;4J;4K;4L;4M;4N;4O;4P;4Q;4R
4S;4T;4U;4V;4W;4X;4Y;4Z;2ia c A;4B;4C;4D;4E;4F;4G;4H;4I;4J;4K;4L;4M;4N;4O;4P;4Q;4R;4S;4T;4U;4V;4W;4X
4Y;4Z;3s A;4B;4C;4D;4E;4F;4G;4H;4I;4J;4K;4L;4M;4N;4O;4P;4Q;4R;4S;4T;4U;4V;4W;4X;4Y;4Z;2bd ia c A;5B
5C;5D;5E;5F;5G;5H;5I;5J;5K;5L;5M;5N;5O;5P;5Q;5R;5S;5T;5U;5V;5W;5X;5Y;5Z;4s A;5B;5C;5D;5E;5F;5G;5H;5I
5J;5K;5L;5M;5N;5O;5P;5Q;5R;5S;5T;5U;5V;5W;5X;5Y;5Z;1MONOSPACE c A;3B;3C;3D;3E;3F;3G;3H;3I;3J;3K;3L
3M;3N;3O;3P;3Q;3R;3S;3T;3U;3V;3W;3X;3Y;3Z;2s A;3B;3C;3D;3E;3F;3G;3H;3I;3J;3K;3L;3M;3N;3O;3P;3Q;3R;3S
3T;3U;3V;3W;3X;3Y;3Z;1ia s os I;4J;@1D6A8 1bd c ap;3BETA;3gm;3et;3ep;3ze;3ETA;3ht;3io;3kp;3ld;3MU
3NU;3XI;3oi;3PI;3RHO;3ht y;3im;3TAU;3us;3PHI;3CHI;3PSI;3og;2NABLA;2s ap;3BETA;3gm;3et;3ep;3ze;3ETA
3ht;3io;3kp;3ld;3MU;3NU;3XI;3oi;3PI;3RHO;3fi im;31;3TAU;3us;3PHI;3CHI;3PSI;3og;2PARTIAL df;2ep y
21ht;21kp;21PHI;21RHO;21PI;1ia c ap;3BETA;3gm;3et;3ep;3ze;3ETA;3ht;3io;3kp;3ld;3MU;3NU;3XI;3oi;3PI
3RHO;3ht y;3im;3TAU;3us;3PHI;3CHI;3PSI;3og;2NABLA;2s ap;3BETA;3gm;3et;3ep;3ze;3ETA;3ht;3io;3kp;3ld
3MU;3NU;3XI;3oi;3PI;3RHO;3fi im;31;3TAU;3us;3PHI;3CHI;3PSI;3og;2PARTIAL df;2ep y;21ht;21kp;21PHI
21RHO;21PI;1bd ia c ap;4BETA;4gm;4et;4ep;4ze;4ETA;4ht;4io;4kp;4ld;4MU;4NU;4XI;4oi;4PI;4RHO;4ht y;4im
4TAU;4us;4PHI;4CHI;4PSI;4og;3NABLA;3s ap;4BETA;4gm;4et;4ep;4ze;4ETA;4ht;4io;4kp;4ld;4MU;4NU;4XI;4oi
4PI;4RHO;4fi im;41;4TAU;4us;4PHI;4CHI;4PSI;4og;3PARTIAL df;3ep y;31ht;31kp;31PHI;31RHO;31PI
1sn bd c ap;4BETA;4gm;4et;4ep;4ze;4ETA;4ht;4io;4kp;4ld;4MU;4NU;4XI;4oi;4PI;4RHO;4ht y;4im;4TAU;4us
4PHI;4CHI;4PSI;4og;3NABLA;3s ap;4BETA;4gm;4et;4ep;4ze;4ETA;4ht;4io;4kp;4ld;4MU;4NU;4XI;4oi;4PI;4RHO
4fi im;41;4TAU;4us;4PHI;4CHI;4PSI;4og;3PARTIAL df;3ep y;31ht;31kp;31PHI;31RHO;31PI;3ia c ap;5BETA
5gm;5et;5ep;5ze;5ETA;5ht;5io;5kp;5ld;5MU;5NU;5XI;5oi;5PI;5RHO;5ht y;5im;5TAU;5us;5PHI;5CHI;5PSI;5og
4NABLA;4s ap;5BETA;5gm;5et;5ep;5ze;5ETA;5ht;5io;5kp;5ld;5MU;5NU;5XI;5oi;5PI;5RHO;5fi im;51;5TAU;5us
5PHI;5CHI;5PSI;5og;4PARTIAL df;4ep y;41ht;41kp;41PHI;41RHO;41PI;1bd c DIGAMMA;21s;@1D7CE 2di z;3on
3tw;3t;3u;3fv;3sx;3se;3ei;3ni;1du di z;3on;3tw;3t;3u;3fv;3sx;3se;3ei;3ni;1sn di z;3on;3tw;3t;3u;3fv
3sx;3se;3ei;3ni;2bd di z;4on;4tw;4t;4u;4fv;4sx;4se;4ei;4ni;1MONOSPACE di z;3on;3tw;3t;3u;3fv;3sx;3se
3ei;3ni;0SIGNWRITING ha id;11hn;11dp;11hv;11hd;11hg;1ha id bn;12hn;12ha th UNDER;2id ra KNUCKLE
3CUPPED;3ig;4lw;1hn id HINGE;1ha id mi;12hn;1ha id mi bn;4ra KNUCKLES;4ig;32UP;3ig mi UP;3mi cj
5id bn;51mi;5CUPPED;5ig;4od;13hn;1ha mi bn ov id;2id bn ov mi;3mi th;13hn;1ha id mi st th bn
4bn th st;4th bn;4ig SPREAD th SIDE;32UP mi ig;7cj;3ig mi UP th SIDE;3mi UP SPREAD th fw;4th CUPPED
5cr;5kd;5ig;2th bt id mi st;2id mi cj th SIDE;7cj;7bn;2mi th kd id UP;21id th kd mi
3mi cj ig th SIDE;42od;4cj th fw;52CUPPED;2mi th CUPPED id UP;21id th CUPPED mi;21mi th cr id;6ig
2id th ANGLED OUT mi UP;52IN;42cr;3mi th cj ig;5ANGLED OUT;6;2mi th ANGLED OUT id UP;7od;5id UP
2id th kd mi ig;1hf u fn;4bn;4ig;4cj;5SPLIT;1nw u fn cj;1ha u fn cj bn;1hd u fn cj;1hf fv fn SPREAD
23HEEL;2fv fn SPREAD u bn;25HEEL;21fv fn SPREAD;24HEEL;2fv fn SPREAD th fw;1dp fv fn SPREAD;5oe;14hd
1hv fv fn SPREAD;1hf fv fn SPREAD ig;6th SIDE;6NO th;2;2bt PALM FACINGS;2HEEL;2th SIDE;22HEEL;2th bn
3fw;2SPLIT id th SIDE;3ce;4th SIDE;6bn;3ll;1nw;2th SIDE;2NO th;2th fw;1dk CURLICUE;2;1dp oe;2
2oe th SIDE;22;2oe NO th;22;2oe th fw;22;1HAND-CURLICUE oe;2;1hn;1hv;2th SIDE;2NO th;2th fw;1hd oe
3th fw;2;2s;2oe th SIDE;22;2oe NO th;22;2th SIDE TOUCHING id;3bt mi rn;1hg;1ha id mi rn;13hn;13hd
13hg;1hd ll;1ha id mi rn bn;5cj;14hd;1ha ll do;4RIPPLE st;5uv;4OTHERS cr;3UP;22th UNDER;12hn;12hv
12hg;1ha ll ra KNUCKLE;3bn;3TOUCHES th;31;12hd;11ha ll id;13hd;1hg ll id th id th OUT;7;1ha ll id
12hn;12hd;12hg;1ha id mi ll;13hn;13hd;2rn;1hg id mi ll;11ha id mi rs;14hn;1ha rn do
1hd rn do id th ho mi;1hg rn do mi th id rs;1ha rn UP;3ra KNUCKLE;3ll;12hn;12hv;12hg;1ha rn mi;4cj
4ra KNUCKLES;3id;3th;12dk;1ha id rn ll;13hn;1HAND-CURLICUE id rn ll ON;1dk id rn ll OUT;5IN;5UNDER
1dp id rn ll;13hd;1hg id rn ll OUT;5;1ha mi do;1hd mi;1ha mi UP;12hn;1ha mi ra KNUCKLE;3UP th SIDE
1dk mi th;1ha mi th ll;31;31rn;13hn;1HAND-CURLICUE mi rn ll ON;1dp mi rn ll;13hd;1hg mi rn ll OUT
5IN;5;1hn mi rn ll bn;1nw mi rn ll cj;6SIDE;1dk mi rn ll cj OUT;6IN;6;1hd id ig;1ha id th SIDE;13hd
1ha id th SIDE th dg;6cj;6bn;51id;51BOTH;5id HINGE;4fw id st;6bn;4ho;4CURLICUE;4cv th ns;15nw
1ha id th cv th UNDER;4ci;1dp id th;4oe;13hd;4la;4;4s;1hg id th OUT;4IN;4;11ha;3HEEL;3SIDE dg;4cj
4bn;3fw;3bt id mi;4mi rn;4rn ll;3UNDER tw fn;32ov;31UNDER t;41u;3ov u ra KNUCKLES;2;2HEEL;1TOUCH si
2ml;2bt;1GRASP si;2ml;2bt;1STRIKE si;2ml;2bt;1BRUSH si;2ml;2bt;1RUB si;2ml;2bt;1SURFACE SYMBOLS;2bt
1SQUEEZE la si;21s;2la ml;21s;2qt;1FLICK la si;21s;2la ml;21s;2qt;1SQUEEZE FLICK ae
1MOVEMENT-HINGE UP do la;4s;3qt;21do;2UP do ae la;5s;2SIDE TO SIDE SCISSORS;1mv fg CONTACT;12mo
1mv si st s;4me;4la;4gs;3wi fx;2d st;3wi fx;3ae;4wi fx;2rs;2tp st vm;3wi fx;3ae;4wi fx;2BEND s;3me
3la;2rr s;3me;3la;3ROTATION;2hk s;3me;3la;2bx s;3me;3la;2zg s;3me;3la;2PEAKS s;3me;3la
1TRAVEL-WALLPLANE rw si;3d;3ae;2rf si;3d;3ae;2SHAKING;2ARM SPIRAL si;4d;4tp
1MOVEMENT-DIAGONAL AWAY s;3me;3la;3gs;2TOWARDS s;3me;3la;3gs;2bt AWAY s;4me;4la;4gs;3TOWARDS s;4me
4la;4gs;1mo si st s;4me;4la;4gs;3wi fx;2d st;3wi fx;3ae;4wi fx;2rs;2tp st vm;3wi fx;3ae vm;4wi fx
2BEND;2rr s;3me;3la;2hk;2bx s;3me;3la;2zg s;3me;3la;2PEAKS s;3me;3la;1TRAVEL-FLOORPLANE rf si;3d;3ae
2rw si;3d;3ae;2SHAKING;1mv cv qa s;4me;4la;4gs;3HALF-CIRCLE s;4me;4la;4gs;3THREE-QUARTER ci s;5me
2HUMP s;3me;3la;2LOOP s;3me;3la;3s d;2wv cv d s;5me;5la;4tp s;5me;5la;2cv THEN st;2uv rs s;4me
1rw si;2d;2aa;1mv SHAKING;2cv ii FRONT WALL;23HUMP;23LOOP;23wv;13rw si;23d;23ae;1mv cv ii CHEST
22HUMP;22LOOP;22wv;12rw si;22d;22ae;1mv wv dg PATH s;5me;5la;1mo cv ii CEILING s;5la
2HUMP ii CEILING s d;51la;5s tp;51la;2LOOP ii CEILING s si;51la;5s d;51la;2wv ii CEILING s;5la
1rf si ii CEILING;22d;22ae;1mo cv ii FLOOR s;5la;2HUMP ii FLOOR s d;51la;5tp s tp;61la
2LOOP ii FLOOR s si;51la;5s d;51la;2wv ii FLOOR s;5la;1rf si ii FLOOR;22d;22ae;1mo cv s;3me;3la;3gs
3COMBINED;2HUMP s;21LOOP;2wv SNAKE;3s;3la;1rf si;2d;2ae;1mo SHAKING rl;1mv ARM ci s si;41me;4s d
41me;1mo ARM ci ii WALL s si;61me;61la;6s d;61me;61la;1mv wi ci FRONT si;5d;1mo wi ci ii WALL si;6d
1mv fg CIRCLES si;4d;1mo fg CIRCLES ii WALL si;6d;1DYNAMIC ao s;3la;2FAST;2SLOW;2TENSE;2RELAXED
2SIMULTANEOUS;3ae;2EVERY OTHER TIME;2GRADUAL;1HEAD;2RIM;2mv st;3TILT;2mo st;2mv cv;21mo;2vm ci
1fa DIRECTION POSITION NOSE fw TILTING;5UP OR do;8TILTING;1EYEBROWS st UP;3nt;3do
11DREAMY EYEBROWS nt;3do nt;31UP;3nt UP;1FOREHEAD nt;2CONTACT;2wr;1ey oe;2SQUEEZED;2cl;1EYE BLINK si
3ml;1ey hl oe;21WIDE;2hl cl;2WIDENING vm;1EYE WINK;1EYELASHES UP;2do;2FLUTTERING;1ez st;3d;3ae
1yg st;3d;3ae;1ez uv;11yg;1ez CIRCLING;1CHEEKS PUFFED;2nt;2SUCKED;1TENSE CHEEKS hi;3mi;3lw;1EARS
1NOSE nt;2CONTACT;2WRINKLES;2WIGGLES;1AIR BLOWING OUT;2SUCKING IN;2BLOW s ROTATIONS;22SUCK
1BREATH INHALE;2EXHALE;1mt cl nt;3fw;3CONTACT;2SMILE;3wr;3oe;2FROWN;3wr;3oe;2oe ci;3fw;3wr;3OVAL;4wr
4YAWN;3RECTANGLE;4wr;4YAWN;2KISS;3fw;3wr;2TENSE;3fw;3SUCKED;1LIPS PRESSED TOGETHER;1LIP lo ov up
2up ov lo;1mt CORNERS;2WRINKLES si;3d;1TONGUE STICKING OUT FAR;2LICKING LIPS;21TIP bt
3TOUCHING ns mt;2ns mt RELAXED;2MOVES AGAINST CHEEK;2ce STICKING OUT;3ns mt;1TEETH;2vm;2ON TONGUE
4vm;3LIPS;4vm;2BITE LIPS;1mv JAW;11mo;1NECK;1HAIR;1EXCITEMENT;1SHOULDER HIP SPINE;3POSITIONS
1WALLPLANE SHOULDER HIP MOVE;13FLOORPLANE;1SHOULDER TILTING fm WAIST;1TORSO-WALLPLANE st STRETCH
2uv BEND;1TORSO-FLOORPLANE TWISTING;1up BODY TILTING fm HIP JOINTS;1LIMB COMBINATION;2LENGTH-1
2LENGTH-2;2LENGTH-3;2LENGTH-4;2LENGTH-5;2LENGTH-6;2LENGTH-7;1fg;1LOCATION-WALLPLANE SPACE
11LOCATION-FLOORPLANE;1LOCATION HEIGHT;2WIDTH;2DEPTH;2HEAD NECK;2TORSO;2LIMBS DIGITS;1om;1fu STOP
1em;1ol;1pa;@1DA9B 1FILL MODIFIER-2;2MODIFIER-3;2MODIFIER-4;2MODIFIER-5;2MODIFIER-6
@1DAA1 1ROTATION MODIFIER-2;2MODIFIER-3;2MODIFIER-4;2MODIFIER-5;2MODIFIER-6;2MODIFIER-7;2MODIFIER-8
2MODIFIER-9;2MODIFIER-10;2MODIFIER-11;2MODIFIER-12;2MODIFIER-13;2MODIFIER-14;2MODIFIER-15
2MODIFIER-16;@1DF00 0lt s l FENG dr w TRILL;3re cp G;11l s c tu;1s l re K;1l s c L w BELT
1s l LEZH w rt ho;3tu Y w BELT;3re ENG;3tu R w ln LEG n rt ho;33T w ho;12l rt CLICK w
1s l ESH w d BAR;7n ur;31tu T w;12l iv gl STOP;22STRETCHED C;2s c tu K;1s l L w fs
3DEZH dr w PALATAL ho;32L w BELT n;32ENG w;33tu R;32R w fs n;32TESH dr w;33EZH;31DEZH dr w rt
32I w k n;32O w;33TESH dr;33C;3S w ur;@1E000 0co GLAGOLITIC l AZU;3BUKY;3VEDE;3GLAGOLI;3DOBRO;3YESTU
3ZHIVETE;@1E008 3ZEMLJA;3IZHE;31in;3I;3DJERVI;3KAKO;3LJUDIJE;3my;3NASHI;3ONU;3POKOJI;3RITSI;3SLOVO
3TVRIDO;3UKU;3FRITU;3HERU;@1E01B 3SHTA;3TSI;3CHRIVI;3SHA;3YERU;3YERI;3YATI;@1E023 3YU;3s YUS
@1E026 3YO;3IOTATED s YUS;31BIG;32IOTATED;3FITA;@1E100 0NYIAKENG PUACHUE HMONG l MA;4TSA;4NTA;4TA
4HA;4NA;4XA;4NKA;4CA;4LA;4SA;4ZA;4NCA;4NTSA;4KA;4DA;4ya;4NRA;4VA;4NTXA;4TXA;4FA;4RA;4QA;4YA;4NQA;4PA
4XYA;4NPA;4DLA;4NPLA;4hh;4MLA;4PLA;4GA;4RRA;4A;4AA;4I;4U;4O;4OO;4E;4EE;4W;@1E130 3TONE-B;3TONE-M
3TONE-J;3TONE-V;3TONE-S;3TONE-G;3TONE-D;3g FOR pn;5THING;5LOCATION;5ANIMAL;5INVERTEBRATE;4XW XW
3sy LENGTHENER;@1E140 3di z;4on;4tw;4t;4u;4fv;4sx;4se;4ei;4ni;@1E14E 3LOGOGRAM NYAJ;3cr CA
@1E290 0TOTO l PA;2BA;2TA;2DA;2KA;2GA;2MA;2NA;2na;2SA;2ch;2YA;2WA;2JA;2HA;2RA;2LA;2I;21BREATHY;2IU
21BREATHY;2U;2E;21BREATHY;2EO;21BREATHY;2O;2AE;21BREATHY;2A;1g rg TONE;@1E2C0 0WANCHO l AA;2A;2BA
2CA;2DA;2GA;2YA;2ph;2LA;2NA;2PA;2TA;2THA;2FA;2SA;2SHA;2JA;2ZA;2WA;2VA;2KA;2O;2AU;2RA;2MA;2KHA;2HA;2E
2I;2na;2U;2LLHA;2TSA;2TRA;2ONG;2AANG;2ANG;2ING;2ON;2EN;2AAN;2ya;2UEN;2YIH;1TONE TUP;2TUPNI;2KOI
2KOINI;1di z;2on;2tw;2t;2u;2fv;2sx;2se;2ei;2ni;@1E2FF 1NGUN g;@1E7E0 0ETHIOPIC sy HHYA;2HHYU;2HHYI
2HHYAA;2HHYEE;2HHYE;2HHYO;@1E7E8 2GURAGE HHWA;2HHWI;2HHWEE;2HHWE;@1E7ED 2GURAGE MWI;3MWEE
@1E7F0 3QWI;3QWEE;3QWE;3BWI;3BWEE;3KWI;3KWEE;3KWE;3GWI;3GWEE;3GWE;3FWI;3FWEE;3PWI;3PWEE
@1E800 0MENDE KIKAKUI sy M001 KI;3M002 KA;3M003 KU;3M065 KEE;3M095 KE;3M076 KOO;3M048 KO;3M179 KUA
3M004 WI;3M005 WA;3M006 WU;3M126 WEE;3M118 WE;3M114 WOO;3M045 WO;3M194 WUI;3M143 WEI;3M061 WVI
3M049 WVA;3M139 WVE;3M007 MIN;3M008 MAN;3M009 MUN;3M059 MEN;3M094 MON;3M154 MUAN;3M189 MUEN;3M010 BI
3M011 BA;3M012 BU;3M150 BEE;3M097 BE;3M103 BOO;3M138 BO;3M013 I;3M014 A;3M015 U;3M163 EE;3M100 E
3M165 OO;3M147 O;3M137 EI;3M131 IN;31M135;3M195 AN;3M178 EN;3M019 SI;3M020 SA;3M021 SU;3M162 SEE
3M116 SE;3M136 SOO;3M079 SO;3M196 SIA;3M025 LI;3M026 LA;3M027 LU;3M084 LEE;3M073 LE;3M054 LOO
3M153 LO;3M110 ln LE;3M016 DI;3M017 DA;3M018 DU;3M089 DEE;3M180 DOO;3M181 DO;3M022 TI;3M023 TA
3M024 TU;3M091 TEE;3M055 TE;3M104 TOO;3M069 TO;3M028 JI;3M029 JA;3M030 JU;3M157 JEE;3M113 JE
3M160 JOO;3M063 JO;31M175 ln;3M031 YI;3M032 YA;3M033 YU;3M109 YEE;3M080 YE;3M141 YOO;3M121 YO
3M034 FI;3M035 FA;3M036 FU;3M078 FEE;3M075 FE;3M133 FOO;3M088 FO;3M197 FUA;3M101 FAN;3M037 NIN
3M038 NAN;3M039 NUN;3M117 NEN;3M169 NON;3M176 HI;3M041 HA;3M186 HU;3M040 HEE;3M096 HE;3M042 HOO
3M140 HO;3M083 HEEI;3M128 HOOU;3M053 HIN;3M130 HAN;3M087 HUN;3M052 HEN;3M193 HON;3M046 HUAN
3M090 NGGI;3M043 NGGA;3M082 NGGU;3M115 NGGEE;3M146 NGGE;3M156 NGGOO;3M120 NGGO;3M159 NGGAA
3M127 NGGUA;3M086 ln NGGE;3M106 ln NGGOO;3M183 ln NGGO;3M155 GI;3M111 GA;3M168 GU;3M190 GEE
3M166 GUEI;3M167 GUAN;3M184 NGEN;3M057 NGON;3M177 NGUAN;3M068 PI;3M099 PA;3M050 PU;3M081 PEE
3M051 PE;3M102 POO;3M066 PO;3M145 MBI;3M062 MBA;3M122 MBU;3M047 MBEE;31M188;3M072 MBE;3M172 MBOO
3M174 MBO;3M187 MBUU;3M161 ln MBE;3M105 ln MBOO;3M142 ln MBO;3M132 KPI;3M092 KPA;3M074 KPU
3M044 KPEE;3M108 KPE;3M112 KPOO;3M158 KPO;3M124 GBI;3M056 GBA;3M148 GBU;3M093 GBEE;3M107 GBE
3M071 GBOO;3M070 GBO;3M171 RA;3M123 NDI;3M129 NDA;3M125 NDU;3M191 NDEE;3M119 NDE;3M067 NDOO
3M064 NDO;3M152 NJA;3M192 NJU;3M149 NJEE;3M134 NJOO;3M182 VI;3M185 VA;3M151 VU;3M173 VEE;3M085 VE
3M144 VOO;3M077 VO;3M164 NYIN;3M058 NYAN;3M170 NYUN;3M098 NYEN;3M060 NYON;@1E8C7 2di on;3tw;3t;3u
3fv;3sx;3se;3ei;3ni;2co nu TEENS;4TENS;4HUNDREDS;4THOUSANDS;41tn;41hu;4MILLIONS
@1E900 0ADLAM c l ALIF;3DAALI;3LAAM;3MIIM;3BA;3SINNYIIYHE;3PE;3BHE;3RA;3E;3FA;3I;3O;3dh;3YHE;3wa
3NUN;3kf;3YA;3U;3JIIM;3CHI;3HA;3QAAF;3GA;3ya;3TU;3NHA;3VA;3KHA;3GBE;3ZAL;3KPO;3SHA;1s l ALIF;3DAALI
3LAAM;3MIIM;3BA;3SINNYIIYHE;3PE;3BHE;3RA;3E;3FA;3I;3O;3dh;3YHE;3wa;3NUN;3kf;3YA;3U;3JIIM;3CHI;3HA
3QAAF;3GA;3ya;3TU;3NHA;3VA;3KHA;3GBE;3ZAL;3KPO;3SHA;1ALIF LENGTHENER;11vo;1gn ma;1hm;1cn mf
12GEMINATE;1nk;1nz ma;@1E950 1di z;2on;2tw;2t;2u;2fv;2sx;2se;2ei;2ni;@1E95E 1in ex ma;21qu
@1EC71 0INDIC SIYAQ nu on;3tw;3t;3u;3fv;3sx;3se;3ei;3ni;3tn;3te;3tt;3ft;3ff;3ix;3sv;3eh;3ny;3on hu
31tw;31t;31u;31fv;31sx;31se;31ei;31ni;3on to;31tw;31t;31u;31fv;31sx;31se;31ei;31ni;31tn;31te;31tt
31ft;31ff;31ix;31sv;31eh;31ny;3LAKH;3LAKHAN;2LAKH ma;2nu KAROR;3KARORAN;3PREFIXED on;4tw;4t;4u;4fv
4sx;4se;4ei;4ni;2PLACEHOLDER;2fr on qa;4hl;3t qr;2RUPEE ma;2nu aa on;4tw;4tn to;2aa LAKH ma
@1ED01 0OTTOMAN SIYAQ nu on;3tw;3t;3u;3fv;3sx;3se;3ei;3ni;3tn;3te;3tt;3ft;3ff;3ix;3sv;3eh;3ny;3on hu
31tw;31t;31u;31fv;31sx;31se;31ei;31ni;3on to;31tw;31t;31u;31fv;31sx;31se;31ei;31ni;31tn;31te;31tt
31ft;31ff;31ix;31sv;31eh;31ny;2MARRATAN;2aa nu tw;4t;4u;4fv;4sx;4se;4ei;4ni;4tn;4u hu;41sx;4tw to
41tn;2fr on hl;4SIXTH;@1EE00 0rb am al;2BEH;2j;2DAL;@1EE05 2wa;2zi;2hh;2TAH;2yh;2kf;2LAM;2mm;2nn
2SEEN;2AIN;2FEH;2SAD;2qf;2REH;2ee;2TEH;2THEH;2kh;2THAL;2DAD;2ZAH;2gh;2os BEH;3nn;3FEH;3qf
@1EE21 2in BEH;3j;@1EE24 3HEH;@1EE27 3hh;@1EE29 3yh;3kf;3LAM;3mm;3nn;3SEEN;3AIN;3FEH;3SAD;3qf
@1EE34 3ee;3TEH;3THEH;3kh;@1EE39 3DAD;@1EE3B 3gh;@1EE42 2TAILED j;@1EE47 3hh;@1EE49 3yh;@1EE4B 3LAM
@1EE4D 3nn;3SEEN;3AIN;@1EE51 3SAD;3qf;@1EE54 3ee;@1EE57 3kh;@1EE59 3DAD;@1EE5B 3gh;@1EE5D 3os nn
@1EE5F 4qf;@1EE61 2STRETCHED BEH;3j;@1EE64 3HEH;@1EE67 3hh;3TAH;3yh;3kf;@1EE6C 3mm;3nn;3SEEN;3AIN
3FEH;3SAD;3qf;@1EE74 3ee;3TEH;3THEH;3kh;@1EE79 3DAD;3ZAH;3gh;3os BEH;@1EE7E 4FEH;@1EE80 2LOOPED al
3BEH;3j;3DAL;3HEH;3wa;3zi;3hh;3TAH;3yh;@1EE8B 3LAM;3mm;3nn;3SEEN;3AIN;3FEH;3SAD;3qf;3REH;3ee;3TEH
3THEH;3kh;3THAL;3DAD;3ZAH;3gh;@1EEA1 2du BEH;3j;3DAL;@1EEA5 3wa;3zi;3hh;3TAH;3yh;@1EEAB 3LAM;3mm;3nn
3SEEN;3AIN;3FEH;3SAD;3qf;3REH;3ee;3TEH;3THEH;3kh;3THAL;3DAD;3ZAH;3gh;@1EEF0 2op mm w hh w wl
3hh w DAL;@1F000 0MAHJONG TILE ea wd;21so;21ws;21no;2RED DRAGON;21GREEN;21wh;2on OF CHARACTERS;22tw
22t;22u;22fv;22sx;22se;22ei;22ni;2on OF BAMBOOS;22tw;22t;22u;22fv;22sx;22se;22ei;22ni;2on OF CIRCLES
22tw;22t;22u;22fv;22sx;22se;22ei;22ni;2PLUM;2ORCHID;2BAMBOO;2CHRYSANTHEMUM;2SPRING;2SUMMER;2AUTUMN
2WINTER;2JOKER;2BACK;@1F030 01DOMINO TILE h;2HORIZONTAL-00-00;2HORIZONTAL-00-01;2HORIZONTAL-00-02
2HORIZONTAL-00-03;2HORIZONTAL-00-04;2HORIZONTAL-00-05;2HORIZONTAL-00-06;2HORIZONTAL-01-00
2HORIZONTAL-01-01;2HORIZONTAL-01-02;2HORIZONTAL-01-03;2HORIZONTAL-01-04;2HORIZONTAL-01-05
2HORIZONTAL-01-06;2HORIZONTAL-02-00;2HORIZONTAL-02-01;2HORIZONTAL-02-02;2HORIZONTAL-02-03
2HORIZONTAL-02-04;2HORIZONTAL-02-05;2HORIZONTAL-02-06;2HORIZONTAL-03-00;2HORIZONTAL-03-01
2HORIZONTAL-03-02;2HORIZONTAL-03-03;2HORIZONTAL-03-04;2HORIZONTAL-03-05;2HORIZONTAL-03-06
2HORIZONTAL-04-00;2HORIZONTAL-04-01;2HORIZONTAL-04-02;2HORIZONTAL-04-03;2HORIZONTAL-04-04
2HORIZONTAL-04-05;2HORIZONTAL-04-06;2HORIZONTAL-05-00;2HORIZONTAL-05-01;2HORIZONTAL-05-02
2HORIZONTAL-05-03;2HORIZONTAL-05-04;2HORIZONTAL-05-05;2HORIZONTAL-05-06;2HORIZONTAL-06-00
2HORIZONTAL-06-01;2HORIZONTAL-06-02;2HORIZONTAL-06-03;2HORIZONTAL-06-04;2HORIZONTAL-06-05
2HORIZONTAL-06-06;2v BACK;2VERTICAL-00-00;2VERTICAL-00-01;2VERTICAL-00-02;2VERTICAL-00-03
2VERTICAL-00-04;2VERTICAL-00-05;2VERTICAL-00-06;2VERTICAL-01-00;2VERTICAL-01-01;2VERTICAL-01-02
2VERTICAL-01-03;2VERTICAL-01-04;2VERTICAL-01-05;2VERTICAL-01-06;2VERTICAL-02-00;2VERTICAL-02-01
2VERTICAL-02-02;2VERTICAL-02-03;2VERTICAL-02-04;2VERTICAL-02-05;2VERTICAL-02-06;2VERTICAL-03-00
2VERTICAL-03-01;2VERTICAL-03-02;2VERTICAL-03-03;2VERTICAL-03-04;2VERTICAL-03-05;2VERTICAL-03-06
2VERTICAL-04-00;2VERTICAL-04-01;2VERTICAL-04-02;2VERTICAL-04-03;2VERTICAL-04-04;2VERTICAL-04-05
2VERTICAL-04-06;2VERTICAL-05-00;2VERTICAL-05-01;2VERTICAL-05-02;2VERTICAL-05-03;2VERTICAL-05-04
2VERTICAL-05-05;2VERTICAL-05-06;2VERTICAL-06-00;2VERTICAL-06-01;2VERTICAL-06-02;2VERTICAL-06-03
2VERTICAL-06-04;2VERTICAL-06-05;2VERTICAL-06-06;@1F0A0 0PLAYING CARD BACK;2ACE OF SPADES;22tw;22t
22u;22fv;22sx;22se;22ei;22ni;22tn;22JACK;22kn;22qe;22kg;@1F0B1 2ACE OF HEARTS;22tw;22t;22u;22fv;22sx
22se;22ei;22ni;22tn;22JACK;22kn;22qe;22kg;2RED JOKER;@1F0C1 2ACE OF DIAMONDS;22tw;22t;22u;22fv;22sx
22se;22ei;22ni;22tn;22JACK;22kn;22qe;22kg;2b JOKER;@1F0D1 2ACE OF CLUBS;22tw;22t;22u;22fv;22sx;22se
22ei;22ni;22tn;22JACK;22kn;22qe;22kg;2wh JOKER;2FOOL;2TRUMP-1;2TRUMP-2;2TRUMP-3;2TRUMP-4;2TRUMP-5
2TRUMP-6;2TRUMP-7;2TRUMP-8;2TRUMP-9;2TRUMP-10;2TRUMP-11;2TRUMP-12;2TRUMP-13;2TRUMP-14;2TRUMP-15
2TRUMP-16;2TRUMP-17;2TRUMP-18;2TRUMP-19;2TRUMP-20;2TRUMP-21;@1F100 0di z fu STOP;2om;11on;11tw;11t
11u;11fv;11sx;11se;11ei;11ni;0DINGBAT cr sn di z;14ng;0cr z w SLASH;1at ar;1DOLLAR g w OVERLAID bc
0pz lt c l A;4B;4C;4D;4E;4F;4G;4H;4I;4J;4K;4L;4M;4N;4O;4P;4Q;4R;4S;4T;4U;4V;4W;4X;4Y;4Z
0ts SHELL BRACKETED lt c l S;0cr ia lt c l C;5R;1CD;1WZ;0COPYLEFT y;0sq lt c l A;4B;4C;4D;4E;4F;4G
4H;4I;4J;4K;4L;4M;4N;4O;4P;4Q;4R;4S;4T;4U;4V;4W;4X;4Y;4Z;1HV;1MV;1SD;1SS;1PPV;1WC;0ng cr lt c l A;5B
5C;5D;5E;5F;5G;5H;5I;5J;5K;5L;5M;5N;5O;5P;5Q;5R;5S;5T;5U;5V;5W;5X;5Y;5Z;0ra MC g;11MD;11MR;0cr CC
1C w OVERLAID bc;1HUMAN FIGURE;0ng sq lt c l A;5B;5C;5D;5E;5F;5G;5H;5I;5J;5K;5L;5M;5N;5O;5P;5Q;5R;5S
5T;5U;5V;5W;5X;5Y;5Z;0od ng sq lt c l P;0ng sq IC;2PA;2SA;2AB;2WC;0q DJ;0sq CL;1COOL;1FREE;1ID;1NEW
1NG;1OK;1SOS;1UP w ex ma;1VS;1t D;1SECOND SCREEN;1tw K;11u;11ei;1fv POINT on;12se;1ww POINT tw;1ix P
11on hu te;1lt s l D;1HC;1HDR;1HI-RES;1LOSSLESS;1SHV;1UHD;1VOD;0MASK WORK y
@1F1E6 0REGIONAL ic y l A;4B;4C;4D;4E;4F;4G;4H;4I;4J;4K;4L;4M;4N;4O;4P;4Q;4R;4S;4T;4U;4V;4W;4X;4Y;4Z
0q HIRAGANA HOKA;0sq ka KOKO;2SA;@1F210 1CJK UNIFIED IDEOGRAPH-624B;3IDEOGRAPH-5B57;3IDEOGRAPH-53CC
1ka DE;1CJK UNIFIED IDEOGRAPH-4E8C;3IDEOGRAPH-591A;3IDEOGRAPH-89E3;3IDEOGRAPH-5929;3IDEOGRAPH-4EA4
3IDEOGRAPH-6620;3IDEOGRAPH-7121;3IDEOGRAPH-6599;3IDEOGRAPH-524D;3IDEOGRAPH-5F8C;3IDEOGRAPH-518D
3IDEOGRAPH-65B0;3IDEOGRAPH-521D;3IDEOGRAPH-7D42;3IDEOGRAPH-751F;3IDEOGRAPH-8CA9;3IDEOGRAPH-58F0
3IDEOGRAPH-5439;3IDEOGRAPH-6F14;3IDEOGRAPH-6295;3IDEOGRAPH-6355;3IDEOGRAPH-4E00;3IDEOGRAPH-4E09
3IDEOGRAPH-904A;3IDEOGRAPH-5DE6;3IDEOGRAPH-4E2D;3IDEOGRAPH-53F3;3IDEOGRAPH-6307;3IDEOGRAPH-8D70
3IDEOGRAPH-6253;3IDEOGRAPH-7981;3IDEOGRAPH-7A7A;3IDEOGRAPH-5408;3IDEOGRAPH-6E80;3IDEOGRAPH-6709
3IDEOGRAPH-6708;3IDEOGRAPH-7533;3IDEOGRAPH-5272;3IDEOGRAPH-55B6;3IDEOGRAPH-914D
@1F240 0ts SHELL BRACKETED CJK UNIFIED IDEOGRAPH-672C;5IDEOGRAPH-4E09;5IDEOGRAPH-4E8C
5IDEOGRAPH-5B89;5IDEOGRAPH-70B9;5IDEOGRAPH-6253;5IDEOGRAPH-76D7;5IDEOGRAPH-52DD;5IDEOGRAPH-6557
@1F250 0cr IDEOGRAPH ADVANTAGE;2ACCEPT;@1F260 0ou y FOR FU;3LU;3SHOU;3XI;3SHUANGXI;3CAI
@1F300 0CYCLONE;0FOGGY;0cl mb;0NIGHT w STARS;0SUNRISE ov MOUNTAINS;1;0CITYSCAPE AT DUSK
0SUNSET ov BUILDINGS;0RAINBOW;0BRIDGE AT NIGHT;0wt wv;0VOLCANO;0MILKY WAY;0EARTH GLOBE EUROPE-AFRICA
2AMERICAS;2ASIA-AUSTRALIA;0GLOBE w MERIDIANS;0NEW MOON y;02WAXING CRESCENT;02FIRST qa
02WAXING GIBBOUS;02fu;02WANING GIBBOUS;02LAST qa;02WANING CRESCENT;0CRESCENT MOON;0NEW MOON w fa
03FIRST qa;04LAST;03fu;02SUN;0GLOWING STAR;01SHOOTING;0THERMOMETER;0b DROPLET;0wh SUN;2w s CLOUD
21BEHIND;4w RAIN;03;2SNOW;2LIGHTNING;2TORNADO;0FOG;0wd BLOWING fa;0HOT DOG;0TACO;0BURRITO;0CHESTNUT
0SEEDLING;0EVERGREEN TREE;01DECIDUOUS;01PALM;0CACTUS;0HOT PEPPER;0TULIP;0CHERRY BLOSSOM;0ROSE
0HIBISCUS;0SUNFLOWER;0BLOSSOM;0EAR OF MAIZE;2RICE;0HERB;0u LEAF CLOVER;0MAPLE LEAF;01FALLEN
0LEAF FLUTTERING IN wd;0MUSHROOM;0TOMATO;0AUBERGINE;0GRAPES;0MELON;0WATERMELON;0TANGERINE;0LEMON
0BANANA;0PINEAPPLE;0RED APPLE;01GREEN;0PEAR;0PEACH;0CHERRIES;0STRAWBERRY;0HAMBURGER;0SLICE OF PIZZA
0MEAT ON BONE;0POULTRY LEG;0RICE CRACKER;1BALL;0COOKED RICE;01CURRY n;0STEAMING BOWL;0SPAGHETTI
0BREAD;0FRENCH FRIES;0ROASTED SWEET POTATO;0DANGO;0ODEN;0SUSHI;0FRIED SHRIMP
0FISH CAKE w SWIRL DESIGN;0of ICE CREAM;0SHAVED ICE;0ICE CREAM;0DOUGHNUT;0COOKIE;0CHOCOLATE BAR
0CANDY;0LOLLIPOP;0CUSTARD;0HONEY POT;0SHORTCAKE;0BENTO bx;0POT OF FOOD;0COOKING;0FORK n KNIFE
0TEACUP wu HANDLE;0SAKE BOTTLE n CUP;0WINE GLASS;01COCKTAIL;0TROPICAL DRINK;0BEER MUG
0CLINKING BEER MUGS;0BABY BOTTLE;0FORK n KNIFE w PLATE;0BOTTLE w POPPING CORK;0POPCORN;0RIBBON
0WRAPPED PRESENT;0BIRTHDAY CAKE;0JACK-O-LANTERN;0CHRISTMAS TREE;0FATHER CHRISTMAS;0FIREWORKS
0FIREWORK SPARKLER;0BALLOON;0PARTY POPPER;0CONFETTI BALL;0TANABATA TREE;0od FLAGS;0PINE DECORATION
0ja DOLLS;0CARP STREAMER;0wd CHIME;0MOON VIEWING CEREMONY;0SCHOOL SATCHEL;0GRADUATION CAP
0er w TIP ON THE f;0BOUQUET OF FLOWERS;0MILITARY MEDAL;0REMINDER RIBBON;0ms kb w JACKS
0STUDIO MICROPHONE;0LEVEL SLIDER;0CONTROL KNOBS;0BEAMED ASCENDING ms NOTES;12DESCENDING;0FILM FRAMES
0ADMISSION TICKETS;0CAROUSEL HORSE;0FERRIS WHEEL;0ROLLER COASTER;0FISHING POLE n FISH;0MICROPHONE
0MOVIE CAMERA;0CINEMA;0HEADPHONE;0ARTIST PALETTE;0TOP HAT;0CIRCUS TENT;0TICKET;0CLAPPER BOARD
0PERFORMING ARTS;0VIDEO GAME;0DIRECT HIT;0SLOT MACHINE;0BILLIARDS;0GAME DIE;0BOWLING
0FLOWER PLAYING CARDS;0ms NOTE;0ml ms NOTES;0SAXOPHONE;0GUITAR;0ms kb;0TRUMPET;0VIOLIN;0ms SCORE
0RUNNING SHIRT w SASH;0TENNIS RACQUET n BALL;0SKI n SKI BOOT;0BASKETBALL n HOOP;0CHEQUERED FLAG
0SNOWBOARDER;0RUNNER;0SURFER;0SPORTS MEDAL;0TROPHY;0HORSE RACING;0AMERICAN FOOTBALL;01RUGBY;0SWIMMER
0WEIGHT LIFTER;0GOLFER;0RACING MOTORCYCLE;1CAR;0CRICKET BAT n BALL;0VOLLEYBALL
0FIELD HOCKEY STICK n BALL;0ICE HOCKEY STICK n PUCK;0TABLE TENNIS PADDLE n BALL;0SNOW CAPPED ut
0CAMPING;0BEACH w mb;0BUILDING CONSTRUCTION;0HOUSE BUILDINGS;0CITYSCAPE;0DERELICT HOUSE BUILDING
01CLASSICAL;0DESERT;1ISLAND;0NATIONAL PARK;0STADIUM;0HOUSE BUILDING;1w GARDEN;0OFFICE BUILDING
0ja POST OFFICE;02EUROPEAN;0HOSPITAL;0BANK;0AUTOMATED TELLER MACHINE;0HOTEL;01LOVE
0CONVENIENCE STORE;0SCHOOL;0DEPARTMENT STORE;0FACTORY;0IZAKAYA LANTERN;0ja CASTLE;01EUROPEAN
0wh PENNANT;01b;0WAVING wh FLAG;11b;0ROSETTE;01b;0LABEL;0BADMINTON RACQUET n SHUTTLECOCK;0BOW n ar
0AMPHORA;0EMOJI mf FITZPATRICK TYPE-1-2;3TYPE-3;3TYPE-4;3TYPE-5;3TYPE-6;0RAT;0MOUSE;0OX;0wt BUFFALO
0COW;0TIGER;0LEOPARD;0RABBIT;0CAT;0DRAGON;0CROCODILE;0WHALE;0SNAIL;0SNAKE;0HORSE;0RAM;0GOAT;0SHEEP
0MONKEY;0ROOSTER;0CHICKEN;0DOG;0PIG;0BOAR;0ELEPHANT;0OCTOPUS;0SPIRAL SHELL;0BUG;0ANT;0HONEYBEE
0LADY BEETLE;0FISH;01TROPICAL;0BLOWFISH;0TURTLE;0HATCHING CHICK;01BABY;02FRONT-FACING;0BIRD;0PENGUIN
0KOALA;0POODLE;0DROMEDARY CAMEL;01BACTRIAN;0DOLPHIN;0MOUSE fa;01COW;01TIGER;01RABBIT;01CAT;01DRAGON
0SPOUTING WHALE;0HORSE fa;01MONKEY;01DOG;01PIG;01FROG;01HAMSTER;01WOLF;01BEAR;01PANDA;0PIG NOSE
0PAW PRINTS;0CHIPMUNK;0ey;0EYE;0EAR;0NOSE;0mt;0TONGUE;0wh UP po BACKHAND id;13do;13f;13r
0FISTED nd g;02WAVING;02OK;01THUMBS UP;11do;01CLAPPING HANDS;02oe;0CROWN;0WOMANS HAT;0EYEGLASSES
0NECKTIE;0T-SHIRT;0JEANS;0DRESS;0KIMONO;0BIKINI;0WOMANS CLOTHES;0PURSE;0HANDBAG;0POUCH;0MANS SHOE
01ATHLETIC;01HIGH-HEELED;0WOMANS SANDAL;1BOOTS;0FOOTPRINTS;0BUST IN SILHOUETTE;02BUSTS;0BOY;0GIRL
0MAN;0wm;0FAMILY;0MAN n wm HOLDING HANDS;02tw MEN;12WOMEN;0POLICE OFFICER;0wm w BUNNY EARS
0BRIDE w VEIL;0pn w BLOND HAIR;0MAN w GUA PI MAO;2TURBAN;0OLDER MAN;1wm;0BABY;0CONSTRUCTION WORKER
0PRINCESS;0ja OGRE;1GOBLIN;0GHOST;0BABY ANGEL;0EXTRATERRESTRIAL ALIEN;0ALIEN MONSTER;0IMP;0SKULL
0nf DESK pn;0GUARDSMAN;0DANCER;0LIPSTICK;0NAIL POLISH;0fa MASSAGE;0HAIRCUT;0BARBER POLE;0SYRINGE
0PILL;0KISS ma;0LOVE l;0rn;0GEM STONE;0KISS;0BOUQUET;0COUPLE w er;0WEDDING;0BEATING er;01BROKEN
0tw HEARTS;0SPARKLING er;01GROWING;0er w ar;0BLUE er;01GREEN;01yl;01PURPLE;0er w RIBBON
0REVOLVING HEARTS;0er DECORATION;0dm SHAPE w A dt ns;0ELECTRIC li BULB;0ANGER y;0BOMB;0SLEEPING y
01COLLISION;01SPLASHING SWEAT;0DROPLET;0DASH y;0PILE OF POO;0FLEXED BICEPS;0DIZZY y;0SPEECH BALLOON
01THOUGHT;0wh FLOWER;0hu POINTS y;0MONEY BAG;0uy EXCHANGE;0he DOLLAR g;0CREDIT CARD
0BANKNOTE w YEN g;21DOLLAR;21EURO;21POUND;0MONEY w WINGS;0CHART w p TREND n YEN g;0SEAT
0PERSONAL COMPUTER;0BRIEFCASE;0MINIDISC;0FLOPPY DISK;0OPTICAL DISC;0DVD;0FILE FOLDER;02oe;0PAGE w ur
1FACING UP;0CALENDAR;01TEAR-OFF;0CARD id;0CHART w p TREND;21o;0BAR CHART;0CLIPBOARD;0PUSHPIN;01ROUND
0PAPERCLIP;0st RULER;01tg;0BOOKMARK TABS;0LEDGER;0NOTEBOOK;1w DECORATIVE COVER;0cl BOOK;01oe;01GREEN
01BLUE;01ORANGE;0BOOKS;0NAME BADGE;0SCROLL;0MEMO;0el RECEIVER;0PAGER;0FAX MACHINE;0SATELLITE ANTENNA
0PUBLIC ADDRESS LOUDSPEAKER;0CHEERING MEGAPHONE;0OUTBOX TRAY;01INBOX;0PACKAGE;0E-MAIL y;0INCOMING nv
0nv w o ar a;0cl MAILBOX w LOWERED FLAG;31ra;04oe;31LOWERED;0POSTBOX;0POSTAL HORN;0NEWSPAPER
0MOBILE PHONE;2w i ar AT f;0VIBRATION MODE;0MOBILE PHONE OFF;0NO MOBILE PHONES;0ANTENNA w BARS
0CAMERA;1w FLASH;0VIDEO CAMERA;0TELEVISION;0RADIO;0VIDEOCASSETTE;0FILM PROJECTOR;0PORTABLE STEREO
0PRAYER BEADS;0TWISTED i aw;01ck i n e oe ci;7w cr on oy;1o n p oe ci aw;06at;0lw BRIGHTNESS y;02hi
0SPEAKER w nc k;1;1w on ud wv;2t ud WAVES;0BATTERY;0ELECTRIC PLUG;0lf MAGNIFYING GLASS;02ri
0LOCK w INK PEN;0cl LOCK w KEY;01;0LOCK;01oe;0BELL;1w nc k;0BOOKMARK;0LINK y;0RADIO BUTTON
0BACK w e ar a;04END;02ON w ex ma w f r;02SOON w i;02TOP w p;0NO on UNDER ih y;0KEYCAP tn
0INPUT y FOR lt c LETTERS;41s;3NUMBERS;3SYMBOLS;3lt LETTERS;0FIRE;0ELECTRIC TORCH;0WRENCH;0HAMMER
0NUT n BOLT;0HOCHO;0PISTOL;0MICROSCOPE;0TELESCOPE;0CRYSTAL BALL;0sx pi STAR w mi dt
0ja y FOR BEGINNER;0TRIDENT EMBLEM;0b q BUTTON;02wh;0la RED ci;11BLUE;1ORANGE dm;11BLUE;01s ORANGE
11BLUE;0uo RED ti;02dw;02uo s;03dw;0lo r hw wh ci;04up;0cr rs POMMEE;0rs POMMEE w HALF-CIRCLE be;2
0oh f SEMICIRCLE w t ot;14r;0y FOR MARKS CHAPTER;0wh lt rs;02he;01CELTIC;0OM y;0DOVE OF PEACE;0KAABA
0MOSQUE;0SYNAGOGUE;0MENORAH w ni BRANCHES;0BOWL OF HYGIEIA;0CLOCK fa on OCLOCK;21tw;21t;21u;21fv
21sx;21se;21ei;21ni;21tn;21lv;21tv;2ONE-THIRTY;2TWO-THIRTY;2THREE-THIRTY;2FOUR-THIRTY;2FIVE-THIRTY
2SIX-THIRTY;2SEVEN-THIRTY;2EIGHT-THIRTY;2NINE-THIRTY;2TEN-THIRTY;2ELEVEN-THIRTY;2TWELVE-THIRTY
0r SPEAKER;2w on ud wv;3t ud WAVES;0BULLHORN;1w ud WAVES;0RINGING BELL;0BOOK;0CANDLE
0MANTELPIECE CLOCK;0b SKULL n CROSSBONES;0NO PIRACY;0HOLE;0MAN IN BUSINESS SUIT LEVITATING
0SLEUTH OR SPY;0DARK SUNGLASSES;0SPIDER;1WEB;0JOYSTICK;0MAN DANCING;0f nd el RECEIVER
0el RECEIVER w PAGE;0r nd el RECEIVER;0wh TOUCHTONE el;02b;0el ON TOP OF MODEM
0CLAMSHELL MOBILE PHONE;0BACK OF nv;01STAMPED;0nv w LIGHTNING;0FLYING nv;01PEN ov STAMPED
0LINKED PAPERCLIPS;0b PUSHPIN;0lo f PENCIL;2BALLPOINT PEN;21FOUNTAIN;2PAINTBRUSH;2CRAYON
0f WRITING nd;0tu OK nd g;0ra nd w fn SPLAYED;05re;1THUMBS UP g;21do;1VICTORY nd;1nd w mi fg ed
0ra nd w PART bt mi n rn fn;0wh do po f nd id;01sw wh f po;22r;12b f;22r;01b f po BACKHAND;13r
01sw wh UP po;22do;12b UP;22do;01b UP po BACKHAND;13do;1er;0DESKTOP COMPUTER;0kb n MOUSE
0t NETWORKED COMPUTERS;0PRINTER;0POCKET CALCULATOR;0b HARD SHELL FLOPPY DISK;04wh;03of
0TAPE CARTRIDGE;0WIRED kb;0on BUTTON MOUSE;02tw;02t;0TRACKBALL;0OLD PERSONAL COMPUTER;0HARD DISK
0SCREEN;0PRINTER ICON;01FAX;01OPTICAL DISC;0DOCUMENT w tx;3n PICTURE;21;02FRAME;2TILES;2AN X
0b FOLDER;01;01oe;0CARD id DIVIDERS;1FILE bx;0FILE CABINET;0EMPTY NOTE;2PAGE;2PAD;0NOTE;1PAGE;1PAD
0EMPTY DOCUMENT;1PAGE;1PAGES;0DOCUMENT;0PAGE;0PAGES;0WASTEBASKET;0SPIRAL NOTE PAD;11CALENDAR
0DESKTOP WINDOW;0MINIMIZE;0MAXIMIZE;0OVERLAP;0ck r n f SEMICIRCLE aw;0nc X;0INCREASE FONT SIZE y
03DECREASE;0COMPRESSION;0OLD KEY;0ROLLED-UP NEWSPAPER;0PAGE w cr tx;0STOCK CHART;0DAGGER KNIFE;0LIPS
0SPEAKING HEAD IN SILHOUETTE;0t RAYS a;2be;2f;2r;0f SPEECH BUBBLE;02r;0tw SPEECH BUBBLES;02t
0f THOUGHT BUBBLE;02r;01f ANGER;02r;01MOOD;02LIGHTNING;2;0BALLOT bx w BALLOT;1cp X;12bx w;12bd
13bx w;0li hk ma;0BALLOT bx w bd hk;0WORLD MAP;0MOUNT FUJI;0TOKYO TOWER;0STATUE OF LIBERTY
0SILHOUETTE OF JAPAN;0MOYAI;0GRINNING fa;2w sg ey;0fa w TEARS OF JOY;0sg fa w oe mt;5n sg ey
6COLD SWEAT;6yd ey;3HALO;3HORNS;0WINKING fa;0sg fa w sg ey;0fa SAVOURING DELICIOUS FOOD;0RELIEVED fa
0sg fa w HEART-SHAPED ey;3SUNGLASSES;0SMIRKING fa;01nt;01EXPRESSIONLESS;01UNAMUSED;0fa w COLD SWEAT
0PENSIVE fa;01CONFUSED;01CONFOUNDED;01KISSING;0fa THROWING A KISS;0KISSING fa w sg ey;31cl
0fa w STUCK-OUT TONGUE;4n WINKING EYE;5yd ey;0DISAPPOINTED fa;01WORRIED;01ANGRY;01POUTING;01CRYING
01PERSEVERING;0fa w LOOK OF TRIUMPH;0DISAPPOINTED BUT RELIEVED fa;0ow fa w oe mt;0ANGUISHED fa
01FEARFUL;01WEARY;01SLEEPY;01TIRED;01GRIMACING;01LOUDLY CRYING;0fa w oe mt;0HUSHED fa
0fa w oe mt n COLD SWEAT;1SCREAMING IN FEAR;0ASTONISHED fa;01FLUSHED;01SLEEPING;01DIZZY;0fa wu mt
1w MEDICAL MASK;0GRINNING CAT fa w sg ey;0CAT fa w TEARS OF JOY;0sg CAT fa w oe mt;4HEART-SHAPED ey
0CAT fa w WRY SMILE;0KISSING CAT fa w cl ey;0POUTING CAT fa;02CRYING;02WEARY;01SLIGHTLY ow;11sg
01UPSIDE-DOWN;0fa w ROLLING ey;2NO GOOD GESTURE;21OK;0pn BOWING DEEPLY;0SEE-NO-EVIL MONKEY
01HEAR-NO-EVIL;01SPEAK-NO-EVIL;0HAPPY pn RAISING on nd;0pn RAISING BOTH HANDS IN CELEBRATION;1ow
1w POUTING fa;2FOLDED HANDS;0no ws po LEAF;03so;02no ea;03so;02tu no ws;13so;12no ea;13so
01no ws po VINE;04so;03no ea;04so;03he no ws;14so;13no ea;14so;0no ws po BUD;03so;02no ea;03so
02he no ws;13so;12no ea;13so;0HOLLOW QUILT q oa;4IN b q;0SOLID QUILT q oa;4IN b q;0e ROCKET;01p;01i
01o;0cp lg ET oa;04he;02lg oe;04he;11mr;02SWASH;01sn he d tu om qo ma;34;25lw;01he ib;02sn;03he
0vy he sl;21rv;0CHECKER BOARD;02rv;0ROCKET;0HELICOPTER;0STEAM LOCOMOTIVE;0RAILWAY CAR
0HIGH-SPEED TRAIN;2w bu NOSE;0TRAIN;0METRO;0li RAIL;0STATION;0TRAM;1CAR;0BUS;01ONCOMING;0TROLLEYBUS
0BUS STOP;0MINIBUS;0AMBULANCE;0FIRE ENGINE;0POLICE CAR;02ONCOMING;0TAXI;01ONCOMING;0AUTOMOBILE
01ONCOMING;0RECREATIONAL VEHICLE;0DELIVERY TRUCK;0ARTICULATED LORRY;0TRACTOR;0MONORAIL;0ut RAILWAY
01SUSPENSION;0ut CABLEWAY;0AERIAL TRAMWAY;0SHIP;0ROWBOAT;0SPEEDBOAT;0h TRAFFIC li;02v
0CONSTRUCTION g;0POLICE CARS REVOLVING li;0tg FLAG ON POST;0DOOR;0NO ENTRY g;0SMOKING y;02NO
01PUT LITTER IN ITS PLACE;01DO NOT LITTER;01POTABLE wt;02NON-POTABLE;0BICYCLE;0NO BICYCLES
0BICYCLIST;01ut;0PEDESTRIAN;0NO PEDESTRIANS;0CHILDREN cs;0MENS y;01WOMENS;0RESTROOM;0BABY y;0TOILET
0wt CLOSET;0SHOWER;0BATH;0BATHTUB;0PASSPORT CONTROL;0CUSTOMS;0BAGGAGE CLAIM;0f LUGGAGE
0ti w ou CORNERS;0PROHIBITED g;0cr nf SOURCE;0BOYS y;01GIRLS;0COUCH n LAMP;0SLEEPING ACCOMMODATION
0SHOPPING BAGS;0BELLHOP BELL;0BED;0PLACE OF WORSHIP;0OCTAGONAL g;0SHOPPING TROLLEY;0STUPA;0PAGODA
0HINDU TEMPLE;0HUT;0ELEVATOR;@1F6DD 0PLAYGROUND SLIDE;0WHEEL;0rn BUOY;0HAMMER n WRENCH;0SHIELD
0OIL DRUM;0MOTORWAY;0RAILWAY TRACK;0MOTOR BOAT;0uo MILITARY AIRPLANE;11;11s;02;01NORTHEAST-POINTING
0AIRPLANE DEPARTURE;1ARRIVING;@1F6F0 0SATELLITE;0ONCOMING FIRE ENGINE;0DIESEL LOCOMOTIVE
0PASSENGER SHIP;0SCOOTER;01MOTOR;0CANOE;0SLED;0FLYING SAUCER;0SKATEBOARD;0AUTO RICKSHAW
0PICKUP TRUCK;0ROLLER SKATE;@1F700 0ALCHEMICAL y FOR QUINTESSENCE;3AIR;3FIRE;3EARTH;3wt;3AQUAFORTIS
3AQUA REGIA;4REGIA-2;4VITAE;4VITAE-2;3VINEGAR;3VINEGAR-2;3VINEGAR-3;3SULFUR;31PHILOSOPHERS;31b
3MERCURY um;4SUBLIMATE-2;4SUBLIMATE-3;3CINNABAR;3SALT;3NITRE;3VITRIOL;3VITRIOL-2;3ROCK SALT;4SALT-2
3GOLD;3SILVER;3IRON ORE;4ORE-2;3CROCUS OF IRON;32REGULUS;3COPPER ORE;31IRON-COPPER;3um OF COPPER
32CROCUS;5COPPER-2;3COPPER ANTIMONIATE;32SALT OF;3um OF SALT OF COPPER;3VERDIGRIS;3TIN ORE;31LEAD
31ANTIMONY;3um OF ANTIMONY;32SALT;33um OF;32VINEGAR;32REGULUS;5ANTIMONY-2;4;3REGULUS-2;3REGULUS-3
3REGULUS-4;3ALKALI;3ALKALI-2;3MARCASITE;3SAL-AMMONIAC;3ARSENIC;3REALGAR;3REALGAR-2;3AURIPIGMENT
3BISMUTH ORE;3TARTAR;3TARTAR-2;3QUICK LIME;3BORAX;3BORAX-2;3BORAX-3;3ALUM;3OIL;3SPIRIT;3TINCTURE
3GUM;3WAX;3POWDER;3CALX;3TUTTY;3CAPUT MORTUUM;3SCEPTER OF JOVE;3CADUCEUS;3TRIDENT;31STARRED
3LODESTONE;3SOAP;3URINE;3HORSE DUNG;3ASHES;31POT;3BRICK;31POWDERED;3AMALGAM;3STRATUM SUPER STRATUM
5STRATUM-2;3SUBLIMATION;3PRECIPITATE;3DISTILL;3DISSOLVE;3DISSOLVE-2;3PURIFY;3PUTREFACTION;3CRUCIBLE
3CRUCIBLE-2;3CRUCIBLE-3;3CRUCIBLE-4;3CRUCIBLE-5;3ALEMBIC;3BATH OF MARY;5VAPOURS;3RETORT;3HOUR;3NIGHT
3DAY-NIGHT;3MONTH;3hl DRAM;4OUNCE;@1F780 0b lf ISOSCELES r ti;13uo;13ri;13dw;1SLIGHTLY s ci
01me bd wh;03;02he;03vy;03xr;01wh ci cg b s;0ROUND TARGET;0b TINY q;11SLIGHTLY s;01li wh;02me;02bd
02he;03vy;03xr;01wh q cg b vy s;41me;0q TARGET;0b TINY dm;11vy s;12me;02wh dm cg b vy;41me
0dm TARGET;0b TINY lz;11vy s;12me;02wh lz cg b;0THIN ge rs;02li;02me;02bd;03vy;12he;03xr
0THIN SALTIRE;01li;01me;01bd;01he;02vy;02xr;0li fv SPOKED as;03me;03bd;03he;04vy;04xr;02li sx;03me
03bd;03he;04vy;04xr;02li ei;03me;03bd;03he;04vy;0li t pi b STAR;04me;04;01me t pi pw;01li u pi b
04me;04;01me u pi pw;04rv li;01li fv pi b;04he;03me sx;04he;01sx pi pw;01me ei pi b;04he;05vy
01he ei pi pw;01li tv pi b;04he;31pw;0cr ti;02ng;0cr q;02ng;@1F7E0 0la ORANGE ci;11yl;11GREEN
11PURPLE;11BROWN;1RED q;11BLUE;11ORANGE;11yl;11GREEN;11PURPLE;11BROWN;@1F7F0 0he eu g
@1F800 0e ar w s ti ao;05p;05i;05o;02e ar w me;05p;05i;05o;02e ar w la;05p;05i;05o
@1F810 01e ar w s EQUILATERAL;05p;05i;05o;02e ar w;04p;04i;04o;04he e;14p;14i;14o;12e ar w la;15p
15i;15o;0e tr ar w NARROW SHAFT;05p;05i;05o;01e tr ar w me;05p;05i;05o;01e tr ar w bd;05p;05i;05o
01e tr ar w he;05p;05i;05o;02e tr ar w vy;06p;06i;06o;0e FINGER-POST ar;02p;02i;02o;01e sq;02p;02i
02o;01e COMPRESSED;02p;02i;02o;02e he;03p;03i;03o;01e he;02p;02i;02o;@1F850 01e sn;02p;02i;02o
02no ws;12ea;03so;12ws;02f r;02UP do;@1F860 01WIDE-HEADED e li ba;13p;13i;13o;13no ws;23ea;14so;23ws
12e;12p;12i;12o;12no ws;22ea;13so;22ws;12e me;13p;13i;13o;13no ws;23ea;14so;23ws;12e he;13p;13i;13o
13no ws;23ea;14so;23ws;13e vy;14p;14i;14o;14no ws;24ea;15so;24ws;@1F890 0e ti ao;02p;02i;02o
02e wh ar WITHIN;05p;05i;05o;0e ar w oh il;04p;04i;04o;0he ar SHAFT WIDTH on;4tw THIRDS;4on hl
5THIRD;0e BOTTOM-SHADED wh ar;02i bo SHADED;03e TOP;04i;02e fd;02i RIGHT-SHADED;03e;02i fd
02e BACK-TILTED hw;04i;03e FRONT-TILTED;04i;0wh ar SHAFT WIDTH on;4tw THIRDS
@1F8B0 0ar po p THEN no ws;21i THEN CURVING so;@1F900 0cr rs FORMEE w u ot;41tw;3;0f hl ci w u ot
41t;41tw;4dt;3;0DOWNWARD FACING ho;21oh;2ho w dt;23oh;0PINCHED fn;0wh er;01BROWN;0PINCHING nd
0ZIPPER-MOUTH fa;01MONEY-MOUTH;0fa w THERMOMETER;0NERD fa;01THINKING;0fa w HEAD-BANDAGE;0ROBOT fa
01HUGGING;0g OF THE HORNS;0CALL ME nd;01ra BACK OF;0ef FIST;01gt;0HANDSHAKE;0nd w id n mi fn od
0I LOVE YOU nd g;0fa w COWBOY HAT;0CLOWN fa;01NAUSEATED;0ROLLING ON THE FLOOR LAUGHING;0DROOLING fa
01LYING;0fa PALM;0SNEEZING fa;0fa w on EYEBROW ra;0GRINNING fa w STAR ey;3on la n on s EYE
0fa w fg COVERING cl LIPS;0SERIOUS fa w SYMBOLS COVERING mt;02sg fa w sg ey n nd
0fa w oe mt VOMITING;0SHOCKED fa w EXPLODING HEAD;0PREGNANT wm;0BREAST-FEEDING;0PALMS UP TOGETHER
0SELFIE;0PRINCE;0MAN IN TUXEDO;0MOTHER CHRISTMAS;0SHRUG;0pn DOING CARTWHEEL;0JUGGLING;0FENCER
0MODERN PENTATHLON;0WRESTLERS;0wt POLO;0HANDBALL;0DIVING MASK;0WILTED FLOWER;0DRUM w DRUMSTICKS
0CLINKING GLASSES;0TUMBLER GLASS;0SPOON;0GOAL NET;0RIFLE;0FIRST PLACE MEDAL;02SECOND;02THIRD
0BOXING GLOVE;0MARTIAL ARTS UNIFORM;0CURLING STONE;0LACROSSE STICK n BALL;0SOFTBALL;0FLYING DISC
0CROISSANT;0AVOCADO;0CUCUMBER;0BACON;0POTATO;0CARROT;0BAGUETTE BREAD;0GREEN SALAD
0SHALLOW PAN OF FOOD;0STUFFED FLATBREAD;0EGG;0GLASS OF MILK;0PEANUTS;0KIWIFRUIT;0PANCAKES;0DUMPLING
0FORTUNE COOKIE;0TAKEOUT bx;0CHOPSTICKS;0BOWL w SPOON;0CUP w STRAW;0COCONUT;0BROCCOLI;0PIE;0PRETZEL
0CUT OF MEAT;0SANDWICH;0CANNED FOOD;0LEAFY GREEN;0MANGO;0MOON CAKE;0BAGEL;0sg fa w sg ey n t HEARTS
0YAWNING fa;0sg fa w TEAR;0fa w PARTY HORN n PARTY HAT;2UNEVEN ey n wy mt;0OVERHEATED fa;01FREEZING
0NINJA;0DISGUISED fa;0fa HOLDING BACK TEARS;1w PLEADING ey;0SARI;0LAB COAT;0GOGGLES;0HIKING BOOT
0FLAT SHOE;0CRAB;0LION fa;0SCORPION;0TURKEY;0UNICORN fa;0EAGLE;0DUCK;0BAT;0SHARK;0OWL;0FOX fa
0BUTTERFLY;0DEER;0GORILLA;0LIZARD;0RHINOCEROS;0SHRIMP;0SQUID;0GIRAFFE fa;01ZEBRA;0HEDGEHOG;0SAUROPOD
0T-REX;0CRICKET;0KANGAROO;0LLAMA;0PEACOCK;0HIPPOPOTAMUS;0PARROT;0RACCOON;0LOBSTER;0MOSQUITO;0MICROBE
0BADGER;0SWAN;0MAMMOTH;0DODO;0SLOTH;0OTTER;0ORANGUTAN;0SKUNK;0FLAMINGO;0OYSTER;0BEAVER;0BISON;0SEAL
0GUIDE DOG;0PROBING CANE;0EMOJI COMPONENT RED HAIR;21cu;2BALD;2wh HAIR;0BONE;0LEG;0FOOT;0TOOTH
0SUPERHERO;0SUPERVILLAIN;0SAFETY VEST;0EAR w HEARING AID;0MOTORIZED WHEELCHAIR;01MANUAL
0MECHANICAL ARM;1LEG;0CHEESE WEDGE;0CUPCAKE;0SALT SHAKER;0BEVERAGE bx;0GARLIC;0ONION;0FALAFEL
0WAFFLE;0BUTTER;0MATE DRINK;0ICE CUBE;0BUBBLE TEA;0TROLL;0STANDING pn;01KNEELING;01DEAF
0fa w MONOCLE;0ADULT;0CHILD;0OLDER ADULT;0BEARDED pn;0pn w HEADSCARF;1IN STEAMY ROOM;1CLIMBING
1IN LOTUS POSITION;0MAGE;0FAIRY;0VAMPIRE;0MERPERSON;0ELF;0GENIE;0ZOMBIE;0BRAIN;0ORANGE er
0BILLED CAP;0SCARF;0GLOVES;0COAT;0SOCKS;0RED GIFT nv;0FIRECRACKER;0JIGSAW PUZZLE PIECE;0TEST TUBE
0PETRI DISH;0DNA d HELIX;0COMPASS;0ABACUS;0FIRE EXTINGUISHER;0TOOLBOX;0BRICK;0MAGNET;0LUGGAGE
0LOTION BOTTLE;0SPOOL OF THREAD;0BALL OF YARN;0SAFETY PIN;0TEDDY BEAR;0BROOM;0BASKET;0ROLL OF PAPER
0BAR OF SOAP;0SPONGE;0RECEIPT;0NAZAR AMULET;0nt hs kg;2qe;2ROOK;2bi;2kn;2wn
0wh hs kn ro FORTY-FIVE DEGREES;05b;05nt;01wh hs kg ro ny;23qe;23ROOK;23bi;23kn;23wn;03b hs kg;23qe
23ROOK;23bi;23kn;23wn;03nt hs kg;23qe;23ROOK;23bi;23kn;23wn;01wh hs kn ro on hu THIRTY-FIVE;07b;07nt
0wh hs tu kg;3qe;3ROOK;3bi;3kn;3wn;0b hs tu kg;3qe;3ROOK;3bi;3kn;3wn;0nt hs tu kg;3qe;3ROOK;3bi;3kn
3wn;0wh hs kn ro tw hu TWENTY-FIVE DEGREES;07b;07nt;01wh hs kg ro tw hu sv;25qe;25ROOK;25bi;25kn
25wn;05b hs kg;25qe;25ROOK;25bi;25kn;25wn;05nt hs kg;25qe;25ROOK;25bi;25kn;25wn
01wh hs kn ro t hu FIFTEEN;07b;07nt;0wh hs EQUIHOPPER;02b;02nt;0wh hs EQUIHOPPER ro ny DEGREES;05b
05nt;0wh hs KNIGHT-QUEEN;2KNIGHT-ROOK;2gb;0b hs KNIGHT-QUEEN;2KNIGHT-ROOK;2gb
@1FA60 0XIANGQI RED GENERAL;2MANDARIN;2ELEPHANT;2HORSE;2CHARIOT;2CANNON;2SOLDIER;1b GENERAL
2MANDARIN;2ELEPHANT;2HORSE;2CHARIOT;2CANNON;2SOLDIER;@1FA70 0BALLET SHOES;0ONE-PIECE SWIMSUIT
0BRIEFS;0SHORTS;0THONG SANDAL;@1FA78 0DROP OF BLOOD;0ADHESIVE BANDAGE;0STETHOSCOPE;0X-RAY;0CRUTCH
@1FA80 0YO-YO;0KITE;0PARACHUTE;0BOOMERANG;0MAGIC WAND;0PINATA;0NESTING DOLLS;@1FA90 0RINGED PLANET
0CHAIR;0RAZOR;0AXE;0DIYA LAMP;0BANJO;0MILITARY HELMET;0ACCORDION;0ln DRUM;0COIN;0CARPENTRY SAW
0SCREWDRIVER;0LADDER;0ho;0MIRROR;0WINDOW;0PLUNGER;0SEWING NEEDLE;0KNOT;0BUCKET;0MOUSE TRAP
0TOOTHBRUSH;0HEADSTONE;0PLACARD;0ROCK;0MIRROR BALL;0tf CARD;0lw BATTERY;0HAMSA;@1FAB0 0FLY;0WORM
0BEETLE;0COCKROACH;0POTTED PLANT;0WOOD;0FEATHER;0LOTUS;0CORAL;0EMPTY NEST;0NEST w EGGS
@1FAC0 0ANATOMICAL er;0LUNGS;0PEOPLE HUGGING;0PREGNANT MAN;1pn;0pn w CROWN;@1FAD0 0BLUEBERRIES
0BELL PEPPER;0OLIVE;0FLATBREAD;0TAMALE;0FONDUE;0TEAPOT;0POURING LIQUID;0BEANS;0JAR
@1FAE0 0MELTING fa;01SALUTING;0fa w oe ey n nd ov mt;2PEEKING EYE;2dg mt;0de ne fa;0BITING LIP
0BUBBLES;@1FAF0 0nd w id fg n th od;0i nd;01e;01PALM do;11UP;0id po AT THE VIEWER;0er HANDS
@1FB00 0bl SEXTANT-1;1SEXTANT-2;1SEXTANT-12;1SEXTANT-3;1SEXTANT-13;1SEXTANT-23;1SEXTANT-123
1SEXTANT-4;1SEXTANT-14;1SEXTANT-24;1SEXTANT-124;1SEXTANT-34;1SEXTANT-134;1SEXTANT-234;1SEXTANT-1234
1SEXTANT-5;1SEXTANT-15;1SEXTANT-25;1SEXTANT-125;1SEXTANT-35;1SEXTANT-235;1SEXTANT-1235;1SEXTANT-45
1SEXTANT-145;1SEXTANT-245;1SEXTANT-1245;1SEXTANT-345;1SEXTANT-1345;1SEXTANT-2345;1SEXTANT-12345
1SEXTANT-6;1SEXTANT-16;1SEXTANT-26;1SEXTANT-126;1SEXTANT-36;1SEXTANT-136;1SEXTANT-236;1SEXTANT-1236
1SEXTANT-46;1SEXTANT-146;1SEXTANT-1246;1SEXTANT-346;1SEXTANT-1346;1SEXTANT-2346;1SEXTANT-12346
1SEXTANT-56;1SEXTANT-156;1SEXTANT-256;1SEXTANT-1256;1SEXTANT-356;1SEXTANT-1356;1SEXTANT-2356
1SEXTANT-12356;1SEXTANT-456;1SEXTANT-1456;1SEXTANT-2456;1SEXTANT-12456;1SEXTANT-3456;1SEXTANT-13456
1SEXTANT-23456;0lo f bl dg lo mi f TO lo ce;9r;4up mi f TO lo ce;9r;5f TO lo ce
11r bl dg up mi f TO up;9r;4lo mi f TO up ce;9r;5f TO up ce;5mi f TO up mi r;52ce TO lo;54f
52ce TO up;54f;51ce TO up;11f bl dg up ce TO up mi;54f;52ce TO lo;54f;51ce TO lo;51mi f TO lo mi
0up r bl dg lo mi f TO lo ce;9r;4up mi f TO lo ce;9r;5f TO lo ce;11f bl dg up mi f TO up;9r
4lo mi f TO up ce;9r;5f TO up ce;5mi f TO up mi r;52ce TO lo;54f;52ce TO up;54f;51ce TO up
11r bl dg up ce TO up mi;54f;52ce TO lo;54f;51ce TO lo;51mi f TO lo mi;1n r n lo tg t qr bl
04f n lo n r;04up n f n lo;04f n up n r;11tg on qa;04up;04r;04lo;0v on eg BLOCK-2;3BLOCK-3;3BLOCK-4
3BLOCK-5;3BLOCK-6;3BLOCK-7;0h on eg BLOCK-2;3BLOCK-3;3BLOCK-4;3BLOCK-5;3BLOCK-6;3BLOCK-7
0f n lo on eg bl;23up;05r;23lo;05up;0h on eg BLOCK-1358;0up on qa bl;11t es;12fv;11t qr;11se es
01r on qa;11t es;12fv;11t qr;11se es;0f hl me SHADE;03r;03up;03lo;02vs;03up hl bl n lo hl
2vs me SHADE n lo hl bl;@1FB94 02f hl vs me SHADE n r;0CHECKER BOARD FILL;03vs;01he h;01up f TO lo r
11r TO lo f;1n lo tg hl bl;03f n r;0up f tg me SHADE;13r;04lo;13f;0bx DRAWINGS li dg up ce TO mi f
8r;4mi f TO lo ce;53r;43up ce TO mi f;83r;4mi f TO lo ce TO mi r;74up;4up ce TO mi f n mi r TO lo ce
83r n mi f;9TO lo ce TO mi f;8f TO lo ce TO mi r;4mi f TO up ce TO mi r TO lo ce
53r TO up ce TO mi f;4dm;3h w v k;0ARROWHEAD-SHAPED POINTER;0vs hk ma;0f hl RUNNING MAN;03r
0vs o ar w TIP e;0e ar n up n lo on eg bl;08i;03o ar n r;06p;0f hl FOLDER;02r;0VOIDED ge rs
0r oe sq dt;0ng dg rs;2mi r TO lo ce;2dm;0wh he SALTIRE w ou CORNERS;0f THIRD wh r po id;05mi;05r
0ng sq qu ma;0STICK FIGURE;2w ARMS ra;2LEANING f;3r;2w DRESS;0wh uo CHEVRON;@1FBF0 0SEGMENTED di z
2on;2tw;2t;2u;2fv;2sx;2se;2ei;2ni;@E0001 0LANGUAGE TAG;@E0020 0TAG SPACE;1ex ma;11qo;1nu g;11DOLLAR
11PERCENT;1mr;1pt;1f pa;11r;1as;1pl g;1om;1hp;1fu STOP;1sl;1di z;2on;2tw;2t;2u;2fv;2sx;2se;2ei;2ni
1ol;1em;1le g;11eu;11gr;1qu ma;1oc AT;1lt c l A;4B;4C;4D;4E;4F;4G;4H;4I;4J;4K;4L;4M;4N;4O;4P;4Q;4R
4S;4T;4U;4V;4W;4X;4Y;4Z;1f q br;1rv sl;1r q br;1x cc;1lw ne;1ga cc;1lt s l A;4B;4C;4D;4E;4F;4G;4H;4I
4J;4K;4L;4M;4N;4O;4P;4Q;4R;4S;4T;4U;4V;4W;4X;4Y;4Z;1f cu br;1v ne;1r cu br;1tl;0CANCEL TAG"

end Deminify.Text.CharName
