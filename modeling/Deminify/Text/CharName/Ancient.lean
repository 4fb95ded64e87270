/-!
# Names of the characters of ancient scripts

Entries are parted by semicolons and the ends of lines. An entry has the number of words that it
shares with the start of the one before it, the number of those that it shares with the end of that, if
there are any, and then its other words, of which the frequent ones are abbreviated; a code point stands
before it where the count leaves a gap.
-/

namespace Deminify.Text.CharName

/-- The names from `10000` to `1AFFF`. -/
def ancient : String := "
@10000 0LINEAR B sy B008 A;3B038 E;3B028 I;3B061 O;3B010 U;3B001 DA;3B045 DE;3B007 DI;3B014 DO
3B051 DU;3B057 JA;3B046 JE;@1000D 3B036 JO;3B065 JU;3B077 KA;3B044 KE;3B067 KI;3B070 KO;3B081 KU
3B080 MA;3B013 ME;3B073 MI;3B015 MO;3B023 MU;3B006 NA;3B024 NE;3B030 NI;3B052 NO;3B055 NU;3B003 PA
3B072 PE;3B039 PI;3B011 PO;3B050 PU;3B016 QA;3B078 QE;3B021 QI;3B032 QO;@10028 3B060 RA;3B027 RE
3B053 RI;3B002 RO;3B026 RU;3B031 SA;3B009 SE;3B041 SI;3B012 SO;3B058 SU;3B059 TA;3B004 TE;3B037 TI
3B005 TO;3B069 TU;3B054 WA;3B075 WE;3B040 WI;3B042 WO;@1003C 3B017 ZA;3B074 ZE;@1003F 3B020 ZO
3B025 A2;3B043 A3;3B085 AU;3B071 DWE;3B090 DWO;3B048 NWA;3B029 PU2;3B062 PTE;3B076 RA2;3B033 RA3
3B068 RO2;3B066 TA2;3B087 TWE;3B091 tw;@10050 2y B018;3B019;3B022;3B034;3B047;3B049;3B056;3B063
3B064;3B079;3B082;3B083;3B086;3B089;@10080 2IDEOGRAM B100 MAN;3B102 wm;3B104 DEER;3B105 EQUID
3B105F MARE;3B105M STALLION;3B106F EWE;3B106M RAM;3B107F SHE-GOAT;3B107M HE-GOAT;3B108F SOW
3B108M BOAR;3B109F COW;3B109M BULL;3B120 WHEAT;3B121 BARLEY;3B122 OLIVE;3B123 SPICE;3B125 CYPERUS
2mg B127 KAPO;3B128 KANAKO;2IDEOGRAM B130 OIL;3B131 WINE;3B132;2mg B133 AREPA;3B135 MERI
2IDEOGRAM B140 BRONZE;3B141 GOLD;3B142;3B145 WOOL;3B146;3B150;3B151 HORN;3B152;3B153;3B154
2mg B156 TURO2;2IDEOGRAM B157;3B158;3B159 CLOTH;3B160;3B161;3B162 GARMENT;3B163 ARMOUR;3B164;3B165
3B166;3B167;3B168;3B169;3B170;3B171;3B172;3B173 MONTH;3B174;3B176 TREE;3B177;3B178;3B179;3B180;3B181
3B182;3B183;3B184;3B185;3B189;3B190;3B191 HELMET;3B220 FOOTSTOOL;3B225 BATHTUB;3B230 SPEAR;3B231 ar
3B232;3B233 SWORD;3B234;3B236;3B240 WHEELED CHARIOT;31B241;3B242 CHARIOT FRAME;3B243 WHEEL;3B245
3B246;2mg B247 DIPTE;2IDEOGRAM B248;3B249;3B251;3B252;3B253;3B254 DART;3B255;3B256;3B257;3B258;3B259
3VESSEL B155;4B200;4B201;4B202;4B203;4B204;4B205;4B206;4B207;4B208;4B209;4B210;4B211;4B212;4B213
4B214;4B215;4B216;4B217;4B218;4B219;4B221;4B222;4B226;4B227;4B228;4B229;4B250;4B305
@10100 0AEGEAN wo sp ne;3dt;1hk ma;@10107 1nu on;2tw;2t;2u;2fv;2sx;2se;2ei;2ni;2tn;2te;2tt;2ft;2ff
2ix;2sv;2eh;2ny;2on hu;21tw;21t;21u;21fv;21sx;21se;21ei;21ni;2on to;21tw;21t;21u;21fv;21sx;21se;21ei
21ni;21tn;21te;21tt;21ft;21ff;21ix;21sv;21eh;21ny;@10137 1WEIGHT BASE UNIT;2FIRST SUBUNIT;21SECOND
21THIRD;21FOURTH;11DRY MEASURE FIRST;13LIQUID;11MEASURE SECOND;21THIRD;0ge ACROPHONIC ATTIC on qa
4hl;4DRACHMA;3fv;3ff;3fv hu;4to;31ff;3fv TALENTS;31tn;31ff;31on hu;32fv;31on to;32fv;4STATERS;31tn
31ff;31on hu;32fv;31on to;32tn;32ff;3tn MNAS;2HERAEUM on PLETHRON;2THESPIAN on;21HERMIONIAN
2EPIDAUREAN tw;21THESPIAN;2CYRENAIC tw DRACHMAS;22EPIDAUREAN;2tz fv;3tn;4aa fo;2HERMIONIAN tn
21MESSENIAN;21THESPIAN;3tt;2tz ff;4aa fo;2HERMIONIAN ff;21THESPIAN;3on hu;31t;21EPIDAUREAN fv;22tz
22THESPIAN;22CARYSTIAN;22NAXIAN;2THESPIAN on to;31fv;2DELPHIC fv MNAS;21STRATIAN ff;1on hl g;4aa fo
1tw THIRDS g;11t qr;11YEAR;11TALENT;11DRACHMA;11OBOL;11tw OBOLS;12t;12u;12fv;11METRETES
11KYATHOS BASE;11LITRA;11OUNKIA;11XESTES;11ARTABE;11AROURA;11GRAMMA;11TRYBLION BASE;11z;11on qa
11SINUSOID;11INDICTION;01NOMISMA;@10190 01ROMAN SEXTANS;11UNCIA;11SEMUNCIA;11SEXTULA;12DIMIDIA
11SILIQUA;11DENARIUS;11QUINARIUS;11SESTERTIUS;11DUPONDIUS;11AS;11CENTURIAL;0ASCIA y
@101A0 0ge y TAU RHO;@101D0 0PHAISTOS DISC g PEDESTRIAN;3PLUMED HEAD;31TATTOOED;3CAPTIVE;3CHILD;3wm
3HELMET;3GAUNTLET;3TIARA;3ar;3BOW;3SHIELD;3CLUB;3MANACLES;3MATTOCK;3SAW;3LID;3BOOMERANG
3CARPENTRY PLANE;3DOLIUM;3COMB;3SLING;3COLUMN;3BEEHIVE;3SHIP;3HORN;3HIDE;3BULLS LEG;3CAT;3RAM;3EAGLE
3DOVE;3TUNNY;3BEE;3PLANE TREE;3VINE;3PAPYRUS;3ROSETTE;3LILY;3OX BACK;3FLUTE;3GRATER;3STRAINER;3s AXE
3wy BAND;3co oq k;@10280 0LYCIAN l A;2E;2B;2BH;2G;2D;2I;2W;2Z;2TH;2J;2K;2Q;2L;2M;2N;2MM;2NN;2U;2P
2KK;2R;2S;2T;2TT;2AN;2EN;2H;2X;@102A0 0CARIAN l A;2P2;2D;2L;2UUU;2R;2LD;2A2;2Q;2B;2M;2O;2D2;2T;2SH
2SH2;2S;2C-18;2U;2NN;2X;2N;2TT2;2P;2SS;2I;2E;2UUUU;2K;2K2;2ND;2UU;2G;2G2;2ST;2ST2;2NG;2II;2C-39;2TT
2UUU2;2RR;2MB;2MB2;2MB3;2MB4;2LD2;2E2;2UUU3;@102E0 0ct EPACT THOUSANDS ma;2di on;3tw;3t;3u;3fv;3sx
3se;3ei;3ni;2nu tn;3te;3tt;3ft;3ff;3ix;3sv;3eh;3ny;3on hu;31tw;31t;31u;31fv;31sx;31se;31ei;31ni
@10300 0OLD ia l A;3BE;3KE;3DE;3E;3VE;3ZE;3HE;3THE;3I;3KA;3EL;3EM;3EN;3ESH;3O;3PE;3SHE;3KU;3ER;3ES
3TE;3U;3EKS;3PHE;3KHE;3EF;3ERS;3CHE;3II;3UU;3ESS;2nm on;3fv;3tn;3ff;@1032D 2l YE;3NORTHERN TSE
31SOUTHERN;0GOTHIC l AHSA;2BAIRKAN;2GIBA;2DAGS;2AIHVUS;2QAIRTHRA;2IUJA;2HAGL;2THIUTH;2EIS;2KUSMA
2LAGUS;2MANNA;2NAUTHS;2JER;2URUS;2PAIRTHRA;2ny;2RAIDA;2SAUIL;2TEIWS;2WINJA;2FAIHU;2IGGWS;2HWAIR
2OTHAL;2ni hu;@10350 0OLD PERMIC l AN;3BUR;3GAI;3DOI;3E;3ZHOI;3DZHOI;3ZATA;3DZITA;3I;3KOKE;3LEI
3MENOE;3NENOE;3VOOI;3PEEI;3REI;3SII;3TAI;3U;3CHERY;3SHOOI;3SHCHOOI;3YRY;3YERU;3O;3OO;3EF;3HA;3TSIU
3VER;3YER;3YERI;3YAT;3IE;3YU;3YA;3IA;0co OLD PERMIC l AN;4DOI;4ZATA;4NENOE;4SII
@10380 0UGARITIC l ALPA;2BETA;2GAMLA;2KHA;2et;2HO;2WO;2ze;2HOTA;2TET;2YOD;2kf;2SHIN;2ld;2MEM;2DHAL
2NUN;2ZU;2SAMKA;2AIN;2PU;2SADE;2QOPA;2RASHA;2THANNA;2gh;2TO;2I;2U;2SSU;@1039F 1wo DIVIDER
0OLD PERSIAN g A;3I;3U;3KA;3KU;3GA;3GU;3XA;3CA;3JA;3JI;3TA;3TU;3DA;3DI;3DU;3THA;3PA;3BA;3FA;3NA;3NU
3MA;3MI;3MU;3YA;3VA;3VI;3RA;3RU;3LA;3SA;3ZA;3SHA;3SSA;3HA;@103C8 3AURAMAZDAA;3AURAMAZDAA-2
3AURAMAZDAAHA;3XSHAAYATHIYA;3DAHYAAUSH;3DAHYAAUSH-2;3BAGA;3BUUMISH;2wo DIVIDER;2nu on;3tw;3tn;3te
3hu;@10400 0DESERET c l ln I;4E;4A;4AH;4O;4OO;3sh I;4E;4A;4AH;4O;4OO;3AY;3OW;3WU;3YEE;3H;3PEE;3BEE
3TEE;3DEE;3CHEE;3JEE;3KAY;3GAY;3EF;3VEE;3ETH;3THEE;3ES;3ZEE;3ESH;3ZHEE;3ER;3EL;3EM;3EN;3ENG;3OI;3EW
1s l ln I;4E;4A;4AH;4O;4OO;3sh I;4E;4A;4AH;4O;4OO;3AY;3OW;3WU;3YEE;3H;3PEE;3BEE;3TEE;3DEE;3CHEE;3JEE
3KAY;3GAY;3EF;3VEE;3ETH;3THEE;3ES;3ZEE;3ESH;3ZHEE;3ER;3EL;3EM;3EN;3ENG;3OI;3EW;0SHAVIAN l PEEP;2TOT
2KICK;2FEE;2THIGH;2SO;2SURE;2CHURCH;2YEA;2HUNG;2BIB;2DEAD;2GAG;2VOW;2THEY;2ZOO;2MEASURE;2JUDGE;2WOE
2HA-HA;2LOLL;2MIME;2IF;2EGG;2ASH;2ADO;2ON;2WOOL;2OUT;2AH;2ROAR;2NUN;2EAT;2AGE;2ICE;2UP;2OAK;2OOZE
2OIL;2AWE;2ARE;2OR;2AIR;2ERR;2ARRAY;2EAR;2IAN;2YEW;0OSMANYA l al;2BA;2TA;2JA;2XA;2KHA;2DEEL;2RA;2SA
2SHIIN;2dh;2CAYN;2GA;2FA;2QAAF;2KAAF;2LAAN;2MIIN;2NUUN;2wa;2HA;2YA;2A;2E;2I;2O;2U;2AA;2EE;2OO
@104A0 1di z;2on;2tw;2t;2u;2fv;2sx;2se;2ei;2ni;@104B0 0OSAGE c l A;3AI;3AIN;3AH;3BRA;3ch;3EHCHA;3E
3EIN;3HA;3HYA;3I;3KA;3EHKA;3KYA;3LA;3MA;3NA;3O;3OIN;3PA;3EHPA;3SA;3SHA;3TA;3EHTA;3TSA;3EHTSA;3TSHA
3dh;3U;3WA;3KHA;3GHA;3ZA;3zh;@104D8 1s l A;3AI;3AIN;3AH;3BRA;3ch;3EHCHA;3E;3EIN;3HA;3HYA;3I;3KA
3EHKA;3KYA;3LA;3MA;3NA;3O;3OIN;3PA;3EHPA;3SA;3SHA;3TA;3EHTA;3TSA;3EHTSA;3TSHA;3dh;3U;3WA;3KHA;3GHA
3ZA;3zh;@10500 0ELBASAN l A;2BE;2CE;2CHE;2DE;2NDE;2DHE;2EI;2E;2FE;2GE;2GJE;2HE;2I;2JE;2KE;2LE;2LLE
2ME;2NE;2NA;2NJE;2O;2PE;2QE;2RE;2RRE;2SE;2SHE;2TE;2THE;2U;2VE;2XE;2Y;2ZE;2ZHE;2GHE;2GHAMMA;2KHE
@10530 0CAUCASIAN ALBANIAN l ALT;3BET;3GIM;3DAT;3EB;3ZARL;3EYN;3ZHIL;3TAS;3ch;3YOWD;3zh;3IRB;3SHA
3LAN;3INYA;3XEYN;3DYAN;3CAR;3JHOX;3KAR;3LYIT;3HEYT;3QAY;3AOR;3CHOY;3CHI;3CYAY;3MAQ;3QAR;3NOWC;3DZYAY
3SHAK;3JAYN;3ON;3TYAY;3FAM;3DZAY;3CHAT;3PEN;3GHEYS;3RAT;3SEYK;3VEYZ;3TIWR;3SHOY;3IWN;3CYAW;3CAYN
3YAYD;3PIWR;3KIW;@1056F 2CITATION ma;0VITHKUQI c l A;3BBE;3BE;3CE;3CHE;3DE;3DHE;3EI;3E;3FE;3GA
@1057C 3HA;3HHA;3I;3IJE;3JE;3KA;3LA;3LLA;3ME;3NE;3NJE;3O;3PE;3QA;3RE;@1058C 3SE;3SHE;3TE;3THE;3U;3VE
3XE;@10594 3Y;3ZE;@10597 1s l A;3BBE;3BE;3CE;3CHE;3DE;3DHE;3EI;3E;3FE;3GA;@105A3 3HA;3HHA;3I;3IJE
3JE;3KA;3LA;3LLA;3ME;3NE;3NJE;3O;3PE;3QA;3RE;@105B3 3SE;3SHE;3TE;3THE;3U;3VE;3XE;@105BB 3Y;3ZE
@10600 0LINEAR A g AB001;3AB002;3AB003;3AB004;3AB005;3AB006;3AB007;3AB008;3AB009;3AB010;3AB011
3AB013;3AB016;3AB017;3AB020;3AB021;3AB021F;3AB021M;3AB022;3AB022F;3AB022M;3AB023;3AB023M;3AB024
3AB026;3AB027;3AB028;3A028B;3AB029;3AB030;3AB031;3AB034;3AB037;3AB038;3AB039;3AB040;3AB041;3AB044
3AB045;3AB046;3AB047;3AB048;3AB049;3AB050;3AB051;3AB053;3AB054;3AB055;3AB056;3AB057;3AB058;3AB059
3AB060;3AB061;3AB065;3AB066;3AB067;3AB069;3AB070;3AB073;3AB074;3AB076;3AB077;3AB078;3AB079;3AB080
3AB081;3AB082;3AB085;3AB086;3AB087;3A100-102;3AB118;3AB120;3A120B;3AB122;3AB123;3AB131A;3AB131B
3A131C;3AB164;3AB171;3AB180;3AB188;3AB191;3A301;3A302;3A303;3A304;3A305;3A306;3A307;3A308;3A309A
3A309B;3A309C;3A310;3A311;3A312;3A313A;3A313B;3A313C;3A314;3A315;3A316;3A317;3A318;3A319;3A320;3A321
3A322;3A323;3A324;3A325;3A326;3A327;3A328;3A329;3A330;3A331;3A332;3A333;3A334;3A335;3A336;3A337
3A338;3A339;3A340;3A341;3A342;3A343;3A344;3A345;3A346;3A347;3A348;3A349;3A350;3A351;3A352;3A353
3A354;3A355;3A356;3A357;3A358;3A359;3A360;3A361;3A362;3A363;3A364;3A365;3A366;3A367;3A368;3A369
3A370;3A371;3A400-VAS;3A401-VAS;3A402-VAS;3A403-VAS;3A404-VAS;3A405-VAS;3A406-VAS;3A407-VAS
3A408-VAS;3A409-VAS;3A410-VAS;3A411-VAS;3A412-VAS;3A413-VAS;3A414-VAS;3A415-VAS;3A416-VAS;3A417-VAS
3A418-VAS;3A501;3A502;3A503;3A504;3A505;3A506;3A508;3A509;3A510;3A511;3A512;3A513;3A515;3A516;3A520
3A521;3A523;3A524;3A525;3A526;3A527;3A528;3A529;3A530;3A531;3A532;3A534;3A535;3A536;3A537;3A538
3A539;3A540;3A541;3A542;3A545;3A547;3A548;3A549;3A550;3A551;3A552;3A553;3A554;3A555;3A556;3A557
3A559;3A563;3A564;3A565;3A566;3A568;3A569;3A570;3A571;3A572;3A573;3A574;3A575;3A576;3A577;3A578
3A579;3A580;3A581;3A582;3A583;3A584;3A585;3A586;3A587;3A588;3A589;3A591;3A592;3A594;3A595;3A596
3A598;3A600;3A601;3A602;3A603;3A604;3A606;3A608;3A609;3A610;3A611;3A612;3A613;3A614;3A615;3A616
3A617;3A618;3A619;3A620;3A621;3A622;3A623;3A624;3A626;3A627;3A628;3A629;3A634;3A637;3A638;3A640
3A642;3A643;3A644;3A645;3A646;3A648;3A649;3A651;3A652;3A653;3A654;3A655;3A656;3A657;3A658;3A659
3A660;3A661;3A662;3A663;3A664;@10740 3A701 A;3A702 B;3A703 D;3A704 E;3A705 F;3A706 H;3A707 J;3A708 K
3A709 L;3A709-2 L2;3A709-3 L3;3A709-4 L4;3A709-6 L6;3A710 W;3A711 X;3A712 Y;3A713 og;3A714 ABB
3A715 BB;3A717 DD;3A726 EYYY;3A732 JE;@10760 3A800;3A801;3A802;3A803;3A804;3A805;3A806;3A807
@10780 0mf l s c AA;2sr tg ol;32hl;2s AE;3c B;3B w ho;@10787 3DZ dr;5w rt ho;6ur;3DEZH dr;3D w il
5ho;6n il;3re E;31cl re oe;3FENG dr;3RAMS HORN;3c G;3G w ho;33c;3H w k;3c H;3HENG w ho;31os J w k n
3LS dr;31LZ;3L w BELT;33c;31L w rt ho n;3LEZH;4w rt ho;3tu Y;5w BELT;3O w k;3c OE;3cl og;3Q
3tu R w ln LEG;8n rt ho;3R w il;5fs;3c R;3TC dr w ur;3TS dr;5w rt ho;3TESH dr;3T w rt ho;31V w r
@107B2 3c Y;2gl STOP w k;24re;2bb CLICK;21DENTAL;21LATERAL;21ALVEOLAR;2rt CLICK w rt ho;2s S w ur
@10800 0CYPRIOT sy A;2E;2I;2O;2U;2JA;@10808 2JO;@1080A 2KA;2KE;2KI;2KO;2KU;2LA;2LE;2LI;2LO;2LU;2MA
2ME;2MI;2MO;2MU;2NA;2NE;2NI;2NO;2NU;2PA;2PE;2PI;2PO;2PU;2RA;2RE;2RI;2RO;2RU;2SA;2SE;2SI;2SO;2SU;2TA
2TE;2TI;2TO;2TU;2WA;2WE;2WI;2WO;@10837 2XA;2XE;@1083C 2ZA;@1083F 2ZO;0IMPERIAL ARAMAIC l ALEPH;3BETH
3gi;3DALETH;3HE;3wa;3za;3HETH;3TETH;3yo;3KAPH;3lm;3MEM;3NUN;3sk;3yi;3PE;3SADHE;3qp;3RESH;3SHIN;3TAW
@10857 2sc g;2nu on;3tw;3t;3tn;3te;3on hu;4to;31tn;0PALMYRENE l ALEPH;2BETH;2gi;2DALETH;2HE;2wa;2za
2HETH;2TETH;2yo;2KAPH;2lm;2MEM;2fi NUN;21;2sk;2yi;2PE;2SADHE;2qp;2RESH;2SHIN;2TAW;1lf FLEURON;11ri
1nu on;2tw;2t;2u;2fv;2tn;2te;0NABATAEAN l fi ALEPH;21;2fi BETH;21;2gi;2DALETH;2fi HE;21;2wa;2za
2HETH;2TETH;2fi yo;21;2fi KAPH;21;2fi lm;21;2fi MEM;21;2fi NUN;21;2sk;2yi;2PE;2SADHE;2qp;2RESH
2fi SHIN;21;2TAW;@108A7 1nu on;2tw;2t;2u;12CRUCIFORM;1nu fv;2tn;2te;2on hu;@108E0 0HATRAN l ALEPH
2BETH;2gi;2DALETH-RESH;2HE;2wa;2ZAYN;2HETH;2TETH;2yo;2KAPH;2lm;2MEM;2NUN;2sk;2AYN;2PE;2SADHE;2qp
@108F4 2SHIN;2TAW;@108FB 1nu on;2fv;2tn;2te;2on hu;0PHOENICIAN l ALF;2BET;2GAML;2DELT;2HE;2WAU;2ZAI
2HET;2TET;2YOD;2kf;2LAMD;2MEM;2NUN;2SEMK;2AIN;2PE;2SADE;2QOF;2ROSH;2SHIN;2TAU;1nu on;2tn;2te;2on hu
2tw;2t;@1091F 1wo sp;0LYDIAN l A;2B;2G;2D;2E;2V;2I;2Y;2K;2L;2M;2N;2O;2R;2SS;2T;2U;2F;2Q;2S;2TT;2AN
2EN;2LY;2NN;2C;@1093F 1tg ma;@10980 0MEROITIC HIEROGLYPHIC l A;3E;3I;3O;3YA;3WA;3BA;3BA-2;3PA;3MA
3NA;3NA-2;3NE;3NE-2;3RA;3RA-2;3LA;3KHA;3HHA;3SA;3SA-2;3SE;3KA;3QA;3TA;3TA-2;3TE;3TE-2;3TO;3DA
2y VIDJ;3VIDJ-2;1CURSIVE l A;3E;3I;3O;3YA;3WA;3BA;3PA;3MA;3NA;3NE;3RA;3LA;3KHA;3HHA;3SA;31ah;3SE;3KA
3QA;3TA;3TE;3TO;3DA;@109BC 2fr lv TWELFTHS;3on hl;2LOGOGRAM RMT;3IMN;2nu on;3tw;3t;3u;3fv;3sx;3se
3ei;3ni;3tn;3te;3tt;3ft;3ff;3ix;3sv;@109D2 3on hu;31tw;31t;31u;31fv;31sx;31se;31ei;31ni;3on to;31tw
31t;31u;31fv;31sx;31se;31ei;31ni;31tn;31te;31tt;31ft;31ff;31ix;31sv;31eh;31ny;31on hu;32tw;32t;32u
32fv;32sx;32se;32ei;32ni;2fr on TWELFTH;3tw TWELFTHS;31t;31u;31fv;31sx;31se;31ei;31ni;31tn
0KHAROSHTHI l A;1vo g I;3U;3vc R;@10A05 3E;3O;@10A0C 2lh ma;1g d rn be;2an;2vi;1l KA;2KHA;2GA;2GHA
@10A15 2CA;2ch;2JA;@10A19 2ya;2TTA;2ta;2DDA;2dd;2NNA;2TA;2THA;2DA;2dh;2NA;2PA;2ph;2BA;2bh;2MA;2YA
2RA;2LA;2VA;2SHA;2SSA;2SA;2ZA;2HA;2KKA;2TTTHA;2TTTA;2VHA;@10A38 1g BAR a;2CAUDA;2dt be;@10A3F 1vr
1di on;2tw;2t;2u;1nu tn;2te;2on hu;3to;1fr on hl;@10A50 1pu dt;2s ci;21;2CRESCENT BAR;2MANGALAM
2LOTUS;2dn;21d;2LINES;@10A60 0OLD so ARABIAN l HE;4lm;4HETH;4MEM;4qp;4wa;4SHIN;4RESH;4BETH;4TAW;4SAT
4KAPH;4NUN;4KHETH;4SADHE;4sk;4FE;4al;4AYN;4DHADHE;4gi;4DALETH;4GHAYN;4TETH;4ZAYN;4DHALETH;4yo;4THAW
4THETH;3nu on;4ff;3NUMERIC ic;1no ARABIAN l HEH;4LAM;4hh;4mm;4qf;4wa;4ES-2;4REH;4BEH;4TEH;4ES-1;4kf
4nn;4kh;4SAD;4ES-3;4FEH;4al;4AIN;4DAD;4GEEM;4DAL;4gh;4TAH;4zi;4THAL;4yh;4THEH;4ZAH;3nu on;4tn;4te
@10AC0 0MANICHAEAN l ALEPH;2BETH;2BHETH;2gi;2GHIMEL;2DALETH;2HE;2wa;1g UD;1l za;2ZHAYIN;2JAYIN
2JHAYIN;2HETH;2TETH;2yo;2KAPH;2XAPH;2KHAPH;2lm;2DHAMEDH;2THAMEDH;2MEM;2NUN;2sk;2yi;2AAYIN;2PE;2FE
2SADHE;2qp;2XOPH;2QHOPH;2RESH;2SHIN;2SSHIN;2TAW;1ab ma a;3be;@10AEB 1nu on;2fv;2tn;2te;2on hu
1pu STAR;2FLEURON;2d dt WITHIN dt;23;3;2tw ot;2ne FILLER;@10B00 0AVESTAN l A;2AA;2AO;2AAO;2AN;2AAN
2AE;2AEE;2E;2EE;2O;2OO;2I;2II;2U;2UU;2KE;2XE;2XYE;2XVE;2GE;2GGE;2GHE;2CE;2JE;2TE;2THE;2DE;2DHE;2TTE
2PE;2FE;2BE;2BHE;2NGE;2NGYE;2NGVE;2NE;2NYE;2NNE;2ME;2HME;2YYE;2YE;2VE;2RE;2LE;2SE;2ZE;2SHE;2ZHE
2SHYE;2SSHE;2HE;@10B39 1ab ma;0TINY tw ot ov on dt pu;06s;06la;11on dt ov tw ot;11tw RINGS ov on rn
11on rn ov tw RINGS;0INSCRIPTIONAL PARTHIAN l ALEPH;3BETH;3gi;3DALETH;3HE;3wa;3za;3HETH;3TETH;3yo
3KAPH;3lm;3MEM;3NUN;3sk;3yi;3PE;3SADHE;3qp;3RESH;3SHIN;3TAW;@10B58 2nu on;3tw;3t;3u;3tn;3te;3on hu
4to;1PAHLAVI l ALEPH;3BETH;3gi;3DALETH;3HE;3WAW-AYIN-RESH;3za;3HETH;3TETH;3yo;3KAPH;3lm;3MEM-QOPH
3NUN;3sk;3PE;3SADHE;3SHIN;3TAW;@10B78 2nu on;3tw;3t;3u;3tn;3te;3on hu;4to;0PSALTER PAHLAVI l ALEPH
3BETH;3gi;3DALETH;3HE;3WAW-AYIN-RESH;3za;3HETH;3yo;3KAPH;3lm;3MEM-QOPH;3NUN;3sk;3PE;3SADHE;3SHIN
3TAW;@10B99 2sc ma;22tu;2u ot w rs;5dt;@10BA9 2nu on;3tw;3t;3u;3tn;3te;3on hu
@10C00 0OLD TURKIC l or A;31ye;4AE;3or I;31ye;4E;3or O;4OE;31ye;3or AB;31ye;3or AEB;31ye;3or AG;31ye
3or AEG;31ye;3or AD;31ye;3or AED;4EZ;31ye;3or AY;31ye;3or AEY;31ye;3or AEK;31ye;3or OEK;31ye;3or AL
31ye;3or AEL;4ELT;4EM;4AN;4AEN;31ye;3or ENT;31ye;3or ENC;31ye;3or ENY;31ye;4ANG;3or ENG;3ye AENG
3or EP;4OP;4IC;4EC;31ye;3or AQ;31ye;3or IQ;31ye;3or OQ;31ye;3or AR;31ye;3or AER;4AS;4AES;4ASH;31ye
3or ESH;31ye;3or AT;31ye;3or AET;31ye;3or OT;4BASH;@10C80 1HUNGARIAN c l A;4AA;4EB;4AMB;4EC;4ENC
4ECS;4ED;4n;4E;41CLOSE;4EE;4EF;4EG;4EGY;4EH;4I;4II;4EJ;4EK;4AK;4UNK;4EL;4ELY;4EM;4EN;4ENY;4O;4OO
4nl OE;41RUDIMENTA;4OEE;4EP;4EMP;4ER;41sh;4ES;4ESZ;4ET;4ENT;4ETY;4ECH;4U;4UU;4nl UE;41RUDIMENTA;4EV
4EZ;4EZS;4ENT-SHAPED g;4US;@10CC0 2s l A;4AA;4EB;4AMB;4EC;4ENC;4ECS;4ED;4n;4E;41CLOSE;4EE;4EF;4EG
4EGY;4EH;4I;4II;4EJ;4EK;4AK;4UNK;4EL;4ELY;4EM;4EN;4ENY;4O;4OO;4nl OE;41RUDIMENTA;4OEE;4EP;4EMP;4ER
41sh;4ES;4ESZ;4ET;4ENT;4ETY;4ECH;4U;4UU;4nl UE;41RUDIMENTA;4EV;4EZ;4EZS;4ENT-SHAPED g;4US
@10CFA 2nu on;3fv;3tn;3ff;3on hu;4to;0HANIFI ROHINGYA l A;3BA;3PA;3TA;3TTA;3JA;3CA;3HA;3KHA;3FA;3DA
3DDA;3RA;3RRA;3ZA;3SA;3SHA;3KA;3GA;3LA;3MA;3NA;3WA;31KINNA;3YA;31KINNA;3na;3ya;3VA;2vo A;3I;3U;3E;3O
2ma SAKIN;3NA KHONNA;2g HARBAHAY;3TAHALA;3TANA;3TASSI;@10D30 2di z;3on;3tw;3t;3u;3fv;3sx;3se;3ei;3ni
@10E60 0RUMI di on;2tw;2t;2u;2fv;2sx;2se;2ei;2ni;1nu tn;2te;2tt;2ft;2ff;2ix;2sv;2eh;2ny;2on hu;21tw
21t;21u;21fv;21sx;21se;21ei;21ni;1fr on hl;3qa;3THIRD;2tw THIRDS;@10E80 0YEZIDI l ELIF;2BE;2PE;2PHE
2THE;2SE;2CIM;2CHIM;2CHHIM;2HHA;2XA;2DAL;2ZAL;2RA;2RHA;2ZA;2JA;2SIN;2SHIN;2SAD;2DAD;2TA;2ZE;2EYN
2XHEYN;2FA;2VA;3aa fo;2qf;2kf;2KHAF;2GAF;2LAM;2MIM;2NUN;2UM;2wa;2OW;2EW;2HAY;2YOT;2ET
@10EAB 1co hm ma;21MADDA;11HYPHENATION;@10EB0 1l LAM w dt a;21YOT w x;@10F00 0OLD SOGDIAN l ALEPH
31fi;3BETH;31fi;3gi;3HE;31fi;3wa;3za;3HETH;3yo;3KAPH;3lm;3MEM;3NUN;31fi;5w v il;3sk;3yi;31aa;3PE
3SADHE;31fi;5w v il;3RESH-AYIN-DALETH;3SHIN;3TAW;31fi;5w v il;2nu on;3tw;3t;3u;3fv;3tn;3te;3tt
3on hu;2fr on hl;2lg AYIN-DALETH;@10F30 0SOGDIAN l ALEPH;2BETH;2gi;2HE;2wa;2za;2HETH;2yo;2KAPH;2lm
2MEM;2NUN;2sk;2yi;2PE;2SADHE;2RESH-AYIN;2SHIN;2TAW;2FETH;2LESH;1ip SHIN;1co dt be;21tw ot;2dt a
21tw ot;21cv;3be;2ho a;3be;22ln;21RESH;21k;1nu on;2tn;2te;2on hu;1pu tw v BARS;5w ot;2ci w dt
2tw CIRCLES w ot;2hl ci w dt;@10F70 0OLD UYGHUR l ALEPH;3BETH;3GIMEL-HETH;3wa;3za;3fi HETH;3yo;3KAPH
3lm;3MEM;3NUN;3sk;3PE;3SADHE;3RESH;3SHIN;3TAW;3LESH;2co dt a;4be;3tw ot a;5be;2pu BAR;3tw BARS;4ot
31u;@10FB0 0CHORASMIAN l ALEPH;21s;2BETH;2gi;2DALETH;2HE;2wa;21CURLED;2za;2HETH;2yo;2KAPH;2lm;2MEM
2NUN;2sk;2yi;2PE;2RESH;2SHIN;2TAW;1nu on;2tw;2t;2u;2tn;2te;2on hu;@10FE0 0ELYMAIC l ALEPH;2BETH;2gi
2DALETH;2HE;2wa;2za;2HETH;2TETH;2yo;2KAPH;2lm;2MEM;2NUN;2sk;2yi;2PE;2SADHE;2qp;2RESH;2SHIN;2TAW
1lg ZAYIN-YODH;@11000 0BRAHMI g ca;2an;2vi;2ji;2ua;1l A;2AA;2I;2II;2U;2UU;2vc R;3RR;3L;3LL;2E;2AI;2O
2AU;2KA;2KHA;2GA;2GHA;2na;2CA;2ch;2JA;2jh;2ya;2TTA;2ta;2DDA;2dd;2NNA;2TA;2THA;2DA;2dh;2NA;2PA;2ph
2BA;2bh;2MA;2YA;2RA;2LA;2VA;2SHA;2SSA;2SA;2HA;2LLA;2OLD TAMIL LLLA;4RRA;4NNNA;1vo g AA;31BHATTIPROLU
3I;3II;3U;3UU;3vc R;4RR;4L;4LL;3E;3AI;3O;3AU;1vr;1dn;11d;1pu dt;21d;2ne;2CRESCENT BAR;2LOTUS
@11052 1nu on;2tw;2t;2u;2fv;2sx;2se;2ei;2ni;2tn;2te;2tt;2ft;2ff;2ix;2sv;2eh;2ny;2on hu;3to;1di z;2on
2tw;2t;2u;2fv;2sx;2se;2ei;2ni;1g OLD TAMIL vr;1l OLD TAMIL sh E;5O;1vo g OLD TAMIL sh E;6O
1l OLD TAMIL LLA;@1107F 1nu jo;0KAITHI g ca;2an;2vi;1l A;2AA;2I;2II;2U;2UU;2E;2AI;2O;2AU;2KA;2KHA
2GA;2GHA;2na;2CA;2ch;2JA;2jh;2ya;2TTA;2ta;2DDA;2DDDHA;2dd;2RHA;2NNA;2TA;2THA;2DA;2dh;2NA;2PA;2ph;2BA
2bh;2MA;2YA;2RA;2LA;2VA;2SHA;2SSA;2SA;2HA;1vo g AA;3I;3II;3U;3UU;3E;3AI;3O;3AU;1g vr;2nk;1ab g
11ENUMERATION;11nu;1sc ma;12d;1dn;11d;1vo g vc R;@110CD 1nu g a;@110D0 0SORA SOMPENG l SAH;3TAH;3BAH
3CAH;3DAH;3GAH;3MAH;3NGAH;3LAH;3NAH;3VAH;3PAH;3YAH;3RAH;3hh;3KAH;3JAH;3NYAH;3AH;3EEH;3IH;3UH;3OH;3EH
3MAE;@110F0 2di z;3on;3tw;3t;3u;3fv;3sx;3se;3ei;3ni;@11100 0CHAKMA g ca;2an;2vi;1l AA;2I;2U;2E;2KAA
2KHAA;2GAA;2GHAA;2NGAA;2CAA;2CHAA;2JAA;2JHAA;2NYAA;2TTAA;2TTHAA;2DDAA;2DDHAA;2NNAA;2TAA;2THAA;2DAA
2DHAA;2NAA;2PAA;2PHAA;2BAA;2BHAA;2MAA;2YYAA;2YAA;2RAA;2LAA;2WAA;2SAA;2HAA;1vo g A;3I;3II;3U;3UU;3E
3AI;3O;3AU;3OI;1O ma;11AU;1vr;1MAAYYAA;@11136 1di z;2on;2tw;2t;2u;2fv;2sx;2se;2ei;2ni;1sc ma;1dn;11d
1qu ma;1l LHAA;1vo g AA;3EI;1l VAA;@11150 0MAHAJANI l A;2I;2U;2E;2O;2KA;2KHA;2GA;2GHA;2CA;2ch;2JA
2jh;2ya;2TTA;2ta;2DDA;2dd;2NNA;2TA;2THA;2DA;2dh;2NA;2PA;2ph;2BA;2bh;2MA;2RA;2LA;2VA;2SA;2HA;2RRA
1g nk;1ab g;1sc ma;1lg SHRI;@11180 0SHARADA g ca;2an;2vi;1l A;2AA;2I;2II;2U;2UU;2vc R;3RR;3L;3LL;2E
2AI;2O;2AU;2KA;2KHA;2GA;2GHA;2na;2CA;2ch;2JA;2jh;2ya;2TTA;2ta;2DDA;2dd;2NNA;2TA;2THA;2DA;2dh;2NA;2PA
2ph;2BA;2bh;2MA;2YA;2RA;2LA;2LLA;2VA;2SHA;2SSA;2SA;2HA;1vo g AA;3I;3II;3U;3UU;3vc R;4RR;4L;4LL;3E
3AI;3O;3AU;1g vr;2av;2ji;2ua;1OM;1dn;11d;1ab g;1sp;1SANDHI ma;1g nk;1vo mf ma;11EXTRA sh vo;11SUTRA
1vo g pm E;1g iv ca;1di z;2on;2tw;2t;2u;2fv;2sx;2se;2ei;2ni;1EKAM;1g SIDDHAM;1HEADSTROKE
1CONTINUATION g;1sc MARK-1;2MARK-2;@111E1 0SINHALA ah di on;3tw;3t;3u;3fv;3sx;3se;3ei;3ni;2nu tn;3te
3tt;3ft;3ff;3ix;3sv;3eh;3ny;3on hu;4to;@11200 0KHOJKI l A;2AA;2I;2U;2E;2AI;2O;2AU;2KA;2KHA;2GA;2GGA
2GHA;2na;2CA;2ch;2JA;2JJA;@11213 2ya;2TTA;2ta;2DDA;2dd;2NNA;2TA;2THA;2DA;2DDDA;2dh;2NA;2PA;2ph;2BA
2BBA;2bh;2MA;2YA;2RA;2LA;2VA;2SA;2HA;2LLA;1vo g AA;3I;3II;3U;3E;3AI;3O;3AU;1g an;2vr;2nk;2SHADDA;1dn
11d;1wo sp;1sc ma;12d;1ab g;1g SUKUN;@11280 0MULTANI l A;2I;2U;2E;2KA;2KHA;2GA;@11288 2GHA
@1128A 2CA;2ch;2JA;2JJA;@1128F 2ya;2TTA;2ta;2DDA;2DDDA;2dd;2NNA;2TA;2THA;2DA;2dh;2NA;2PA;2ph;2BA
@1129F 2bh;2MA;2YA;2RA;2LA;2VA;2SA;2HA;2RRA;2RHA;1sc ma;@112B0 0KHUDAWADI l A;2AA;2I;2II;2U;2UU;2E
2AI;2O;2AU;2KA;2KHA;2GA;2GGA;2GHA;2na;2CA;2ch;2JA;2JJA;2jh;2ya;2TTA;2ta;2DDA;2DDDA;2RRA;2dd;2NNA;2TA
2THA;2DA;2dh;2NA;2PA;2ph;2BA;2BBA;2bh;2MA;2YA;2RA;2LA;2VA;2SHA;2SA;2HA;1g an;1vo g AA;3I;3II;3U;3UU
3E;3AI;3O;3AU;1g nk;2vr;@112F0 1di z;2on;2tw;2t;2u;2fv;2sx;2se;2ei;2ni;@11300 0GRANTHA g co an a;2ca
2an;2vi;@11305 1l A;2AA;2I;2II;2U;2UU;2vc R;3L;@1130F 2EE;2AI;@11313 2OO;2AU;2KA;2KHA;2GA;2GHA;2na
2CA;2ch;2JA;2jh;2ya;2TTA;2ta;2DDA;2dd;2NNA;2TA;2THA;2DA;2dh;2NA;@1132A 2PA;2ph;2BA;2bh;2MA;2YA;2RA
@11332 2LA;2LLA;@11335 2VA;2SHA;2SSA;2SA;2HA;@1133B 0co BINDU be;0GRANTHA g nk;2av;1vo g AA;3I;3II
3U;3UU;3vc R;4RR;@11347 3EE;3AI;@1134B 3OO;3AU;1g vr;@11350 1OM;@11357 1AU lh ma;@1135D 1g PLUTA
1l VEDIC an;31d;2vc RR;3LL;1vo g vc L;4LL;@11366 0co GRANTHA di z;3on;3tw;3t;3u;3fv;3sx;@11370 2l A
3KA;3NA;3VI;3PA;@11400 0NEWA l A;2AA;2I;2II;2U;2UU;2vc R;3RR;3L;3LL;2E;2AI;2O;2AU;2KA;2KHA;2GA;2GHA
2na;2NGHA;2CA;2ch;2JA;2jh;2ya;2NYHA;2TTA;2ta;2DDA;2dd;2NNA;2TA;2THA;2DA;2dh;2NA;2NHA;2PA;2ph;2BA;2bh
2MA;2MHA;2YA;2RA;2RHA;2LA;2LHA;2WA;2SHA;2SSA;2SA;2HA;1vo g AA;3I;3II;3U;3UU;3vc R;4RR;4L;4LL;3E;3AI
3O;3AU;1g vr;2ca;2an;2vi;2nk;2av;2fi an;1OM;1SIDDHI;1dn;11d;1om;1GAP FILLER;1ab g;1di z;2on;2tw;2t
2u;2fv;2sx;2se;2ei;2ni;1d om;1PLACEHOLDER ma;@1145D 1INSERTION g;1SANDHI ma;1l VEDIC an;1g ji;2ua
@11480 0TIRHUTA ANJI;1l A;2AA;2I;2II;2U;2UU;2vc R;3RR;3L;3LL;2E;2AI;2O;2AU;2KA;2KHA;2GA;2GHA;2na;2CA
2ch;2JA;2jh;2ya;2TTA;2ta;2DDA;2dd;2NNA;2TA;2THA;2DA;2dh;2NA;2PA;2ph;2BA;2bh;2MA;2YA;2RA;2LA;2VA;2SHA
2SSA;2SA;2HA;1vo g AA;3I;3II;3U;3UU;3vc R;4RR;4L;4LL;3E;31sh;3AI;3O;31sh;3AU;1g ca;2an;2vi;2vr;2nk
2av;1GVANG;1ab g;1OM;@114D0 1di z;2on;2tw;2t;2u;2fv;2sx;2se;2ei;2ni;@11580 0SIDDHAM l A;2AA;2I;2II
2U;2UU;2vc R;3RR;3L;3LL;2E;2AI;2O;2AU;2KA;2KHA;2GA;2GHA;2na;2CA;2ch;2JA;2jh;2ya;2TTA;2ta;2DDA;2dd
2NNA;2TA;2THA;2DA;2dh;2NA;2PA;2ph;2BA;2bh;2MA;2YA;2RA;2LA;2VA;2SHA;2SSA;2SA;2HA;1vo g AA;3I;3II;3U
3UU;3vc R;4RR;@115B8 3E;3AI;3O;3AU;1g ca;2an;2vi;2vr;2nk;2SIDDHAM;1dn;11d;1sp dt;2BAR
1REPETITION MARK-1;2MARK-2;2MARK-3;1END OF tx ma;1sc ma w TRIDENT n U-SHAPED ORNAMENTS;6de CRESCENTS
43RAYS;71d;71tp;3d rn;5w RAYS;3w d CRESCENTS;41tp;41qd;41SEPTUPLE;4CIRCLES n RAYS;6tw ENCLOSURES;61u
1l THREE-CIRCLE aa I;22TWO-CIRCLE;4II;2aa U;12vo g;4UU;@11600 0MODI l A;2AA;2I;2II;2U;2UU;2vc R;3RR
3L;3LL;2E;2AI;2O;2AU;2KA;2KHA;2GA;2GHA;2na;2CA;2ch;2JA;2jh;2ya;2TTA;2ta;2DDA;2dd;2NNA;2TA;2THA;2DA
2dh;2NA;2PA;2ph;2BA;2bh;2MA;2YA;2RA;2LA;2VA;2SHA;2SSA;2SA;2HA;2LLA;1vo g AA;3I;3II;3U;3UU;3vc R;4RR
4L;4LL;3E;3AI;3O;3AU;1g an;2vi;2vr;2ARDHACANDRA;1dn;11d;1ab g;1g HUVA;@11650 1di z;2on;2tw;2t;2u;2fv
2sx;2se;2ei;2ni;@11660 0MONGOLIAN bg w oa;1ro bg;1d bg w oa;13tp;11bg w d;11ro bg w;41d;1iv bg
3w d oa;1SWIRL bg;3w oa;41d;15tu;@11680 0TAKRI l A;2AA;2I;2II;2U;2UU;2E;2AI;2O;2AU;2KA;2KHA;2GA;2GHA
2na;2CA;2ch;2JA;2jh;2ya;2TTA;2ta;2DDA;2dd;2NNA;2TA;2THA;2DA;2dh;2NA;2PA;2ph;2BA;2bh;2MA;2YA;2RA;2LA
2VA;2SHA;2SA;2HA;2RRA;1g an;2vi;1vo g AA;3I;3II;3U;3UU;3E;3AI;3O;3AU;1g vr;2nk;1l ah KHA;1ab g
@116C0 1di z;2on;2tw;2t;2u;2fv;2sx;2se;2ei;2ni;@11700 0AHOM l KA;2KHA;2na;2NA;2TA;21aa;2PA;2ph;2BA
2MA;2JA;2ch;2THA;2RA;2LA;2SA;2ya;2HA;2A;2DA;2dh;2GA;21aa;2GHA;2bh;2jh;2aa BA;@1171D 1cn g md LA;4RA
41LIGATING;1vo g A;3AA;3I;3II;3U;3UU;3E;3AW;3O;3AI;3AM;1g KILLER;@11730 1di z;2on;2tw;2t;2u;2fv;2sx
2se;2ei;2ni;1nu tn;2te;1g s sc;21;2RULAI;1y VI;1l CA;2TTA;2ta;2DDA;2dd;2NNA;2LLA;@11800 0DOGRA l A
2AA;2I;2II;2U;2UU;2E;2AI;2O;2AU;2KA;2KHA;2GA;2GHA;2na;2CA;2ch;2JA;2jh;2ya;2TTA;2ta;2DDA;2dd;2NNA;2TA
2THA;2DA;2dh;2NA;2PA;2ph;2BA;2bh;2MA;2YA;2RA;2LA;2VA;2SHA;2SSA;2SA;2HA;2RRA;1vo g AA;3I;3II;3U;3UU
3vc R;4RR;3E;3AI;3O;3AU;1g an;2vi;2vr;2nk;1ab g;@118A0 0WARANG CITI c l NGAA;4A;4WI;4YU;4YA;4YO;4II
4UU;4E;4O;4ANG;4GA;4KO;4ENY;4YUJ;4UC;4ENN;4ODD;4TTE;4NUNG;4DA;4AT;4AM;4BU;4PU;4HIYO;4HOLO;4HORR;4HAR
4SSUU;4SII;4VIYO;2s l NGAA;4A;4WI;4YU;4YA;4YO;4II;4UU;4E;4O;4ANG;4GA;4KO;4ENY;4YUJ;4UC;4ENN;4ODD
4TTE;4NUNG;4DA;4AT;4AM;4BU;4PU;4HIYO;4HOLO;4HORR;4HAR;4SSUU;4SII;4VIYO;2di z;3on;3tw;3t;3u;3fv;3sx
3se;3ei;3ni;2nu tn;3te;3tt;3ft;3ff;3ix;3sv;3eh;3ny;@118FF 2OM;0DIVES AKURU l A;3AA;3I;3II;3U;3UU;3E
@11909 3O;@1190C 3KA;3KHA;3GA;3GHA;3na;3CA;3ch;3JA;@11915 3ya;3TTA;@11918 3DDA;3dd;3NNA;3TA;3THA;3DA
3dh;3NA;3PA;3ph;3BA;3bh;3MA;3YA;3YYA;3RA;3LA;3VA;3SHA;3SSA;3SA;3HA;3LLA;3ZA;2vo g AA;4I;4II;4U;4UU
4E;@11937 4AI;4O;@1193B 2g an;3ca;3HALANTA;2vr;2PREFIXED NASAL g;2md YA;2in RA;21md;2g nk;2d dn
2GAP FILLER;2END OF tx ma;@11950 2di z;3on;3tw;3t;3u;3fv;3sx;3se;3ei;3ni;@119A0 0NANDINAGARI l A;2AA
2I;2II;2U;2UU;2vc R;3RR;@119AA 2E;2AI;2O;2AU;2KA;2KHA;2GA;2GHA;2na;2CA;2ch;2JA;2jh;2ya;2TTA;2ta;2DDA
2dd;2NNA;2TA;2THA;2DA;2dh;2NA;2PA;2ph;2BA;2bh;2MA;2YA;2RA;2LA;2VA;2SHA;2SSA;2SA;2HA;2LLA;2RRA
1vo g AA;3I;3II;3U;3UU;3vc R;4RR;@119DA 3E;3AI;3O;3AU;1g an;2vi;2vr;2av;2SIDDHAM;1HEADSTROKE
1vo g pm E;@11A00 0ZANABAZAR q l A;2vo g I;4UE;4U;4E;4OE;4O;4AI;4AU;4re I;3lh ma;2l KA;3KHA;3GA;3GHA
3na;3CA;3ch;3JA;3ya;3TTA;3ta;3DDA;3dd;3NNA;3TA;3THA;3DA;3dh;3NA;3PA;3ph;3BA;3bh;3MA;3TSA;3TSHA;3dz
3DZHA;3zh;3ZA;3-A;3YA;3RA;3LA;3VA;3SHA;3SSA;3SA;3HA;3KSSA;2fi cn ma;2g vr;3ca;4w oa;32ad;3an;3vi
2CLUSTER-INITIAL l RA;2CLUSTER-FINAL l YA;4RA;4LA;4VA;2in HEAD ma;22CLOSING;2ma TSHEG;3SHAD;31d
3ln TSHEG;2in DOUBLE-LINED HEAD ma;23CLOSING;2SUBJOINER;@11A50 0SOYOMBO l A;1vo g I;3UE;3U;3E;3O;3OE
3AI;3AU;3vc R;4L;2lh ma;1l KA;2KHA;2GA;2GHA;2na;2CA;2ch;2JA;2jh;2ya;2TTA;2ta;2DDA;2dd;2NNA;2TA;2THA
2DA;2dh;2NA;2PA;2ph;2BA;2bh;2MA;2TSA;2TSHA;2dz;2zh;2ZA;2-A;2YA;2RA;2LA;2VA;2SHA;2SSA;2SA;2HA;2KSSA
1g ji;2ua;1CLUSTER-INITIAL l RA;3LA;3SHA;3SA;1fi cn g G;4K;4NG;4D;4N;4B;4M;4R;4L;4SH;4S;4-A;1g an
2vi;1gn ma;1SUBJOINER;1ma TSHEG;2SHAD;21d;2PLUTA;1HEAD ma w MOON n SUN n tp FLAME;81;7
1TERMINAL MARK-1;2MARK-2;@11AB0 0CANADIAN yb NATTILIK HI;3HII;3HO;3HOO;3HA;3HAA;3SHRI;3SHRII;3SHRO
3SHROO;3SHRA;3SHRAA;2SPE;2SPI;2SPO;2SPA;0PAU CIN HAU l PA;4KA;4LA;4MA;4DA;4ZA;4VA;4na;4HA;4GA;4KHA
4SA;4BA;4CA;4TA;4THA;4NA;4ph;4RA;4FA;4ch;4A;4E;4I;4O;4U;4UA;4IA;4fi P;5K;5T;5M;5N;5L;5W;5NG;5Y
3rg TONE ln;5;3SANDHI gl STOP;3rg TONE ln fi;51;31SANDHI gl STOP;4TONE ln;5;5ln fi;51
3MID-LEVEL TONE;3gl STOP vn;3MID-LEVEL TONE ln fi;51;3LOW-FALLING TONE ln;5;3gl STOP
3LOW-FALLING TONE ln fi;51;31gl STOP;@11C00 0BHAIKSUKI l A;2AA;2I;2II;2U;2UU;2vc R;3RR;3L;@11C0A 2E
2AI;2O;2AU;2KA;2KHA;2GA;2GHA;2na;2CA;2ch;2JA;2jh;2ya;2TTA;2ta;2DDA;2dd;2NNA;2TA;2THA;2DA;2dh;2NA;2PA
2ph;2BA;2bh;2MA;2YA;2RA;2LA;2VA;2SHA;2SSA;2SA;2HA;1vo g AA;3I;3II;3U;3UU;3vc R;4RR;4L;@11C38 3E;3AI
3O;3AU;1g ca;2an;2vi;2vr;2av;1dn;11d;1wo sp;1GAP FILLER-1;2FILLER-2;@11C50 1di z;2on;2tw;2t;2u;2fv
2sx;2se;2ei;2ni;1nu on;2tw;2t;2u;2fv;2sx;2se;2ei;2ni;2tn;2te;2tt;2ft;2ff;2ix;2sv;2eh;2ny
1HUNDREDS UNIT ma;@11C70 01MARCHEN HEAD;1ma SHAD;1l KA;2KHA;2GA;2na;2CA;2ch;2JA;2ya;2TA;2THA;2DA;2NA
2PA;2ph;2BA;2MA;2TSA;2TSHA;2dz;2WA;2zh;2ZA;2-A;2YA;2RA;2LA;2SHA;2SA;2HA;2A;@11C92 1sj l KA;3KHA;3GA
3na;3CA;3ch;3JA;3ya;3TA;3THA;3DA;3NA;3PA;3ph;3BA;3MA;3TSA;3TSHA;3dz;3WA;3zh;3ZA;@11CA9 3YA;3RA;3LA
3SHA;3SA;3HA;3A;1vo g AA;3I;3U;3E;3O;1g an;2ca;@11D00 0MASARAM GONDI l A;3AA;3I;3II;3U;3UU;3E
@11D08 3AI;3O;@11D0B 3AU;3KA;3KHA;3GA;3GHA;3na;3CA;3ch;3JA;3jh;3ya;3TTA;3ta;3DDA;3dd;3NNA;3TA;3THA
3DA;3dh;3NA;3PA;3ph;3BA;3bh;3MA;3YA;3RA;3LA;3VA;3SHA;3SSA;3SA;3HA;3LLA;3KSSA;3JNYA;3TRA;2vo g AA;4I
4II;4U;4UU;4vc R;@11D3A 4E;@11D3C 4AI;4O;@11D3F 4AU;2g an;3vi;3nk;3ad;3HALANTA;2vr;2REPHA;2RA-KARA
@11D50 2di z;3on;3tw;3t;3u;3fv;3sx;3se;3ei;3ni;@11D60 0GUNJALA GONDI l A;3AA;3I;3II;3U;3UU
@11D67 3EE;3AI;@11D6A 3OO;3AU;3YA;3VA;3BA;3bh;3MA;3KA;3KHA;3TA;3THA;3LA;3GA;3GHA;3DA;3dh;3NA;3CA;3ch
3TTA;3ta;3LLA;3JA;3jh;3DDA;3dd;3na;3PA;3ph;3HA;3RA;3SA;2vo g AA;4I;4II;4U;4UU;@11D90 4EE;4AI
@11D93 4OO;4AU;2g an;3vi;2vr;2OM;@11DA0 2di z;3on;3tw;3t;3u;3fv;3sx;3se;3ei;3ni;@11EE0 0MAKASAR l KA
2GA;2na;2PA;2BA;2MA;2TA;2DA;2NA;2CA;2JA;2ya;2YA;2RA;2LA;2VA;2SA;2A;1ANGKA;1vo g I;3U;3E;3O
1PASSIMBANG;1END OF sc;@11FB0 0LISU l YHA;@11FC0 0TAMIL fr on THREE-HUNDRED-AND-TWENTIETH;3nx
3EIGHTIETH;3xy;3FORTIETH;3ys;2t EIGHTIETHS;3SIXTY-FOURTHS;2on TWENTIETH;3SIXTEENTH-1;3SIXTEENTH-2
3TENTH;3eg;2t TWENTIETHS;3xn;2on FIFTH;3qa;3HALF-1;3HALF-2;2t qr;2DOWNSCALING FACTOR KIIZH;1g NEL
2CEVITU;2AAZHAAKKU;2UZHAKKU;2MUUVUZHAKKU;2KURUNI;2PATHAKKU;2MUKKURUNI;2KAACU;2PANAM;2PON;2VARAAKAN
2PAARAM;2KUZHI;2VELI;1WET CULTIVATION g;12DRY;11LAND;11SALT PAN;11TRADITIONAL CREDIT;21nu;11CURRENT
11n ODD;11SPENT;11TOTAL;11IN POSSESSION;11STARTING fm;1g MUTHALIYA;2VAKAIYARAA;@11FFF 1pu END OF tx
0CUNEIFORM g A;3m A;4BAD;4GAN2 en;4HA;4IGI;4LAGAR gu;4MUSH;4SAG;2A2;2AB;3m ASH2;4DUN3 gu;4GAL
4GAN2 en;4HA;4IGI gu;4IMIN;4lb;4SHESH;4U pl U pl U;3gu;2AB2;3m BALAG;4GAN2 en;4ME pl EN;4SHA3;4TAK4
2AD;2AK;3m ERIN2;4SHITA pl GISH;2AL;3m AL;4DIM2;4GISH;4HA;4KAD3;4KI;4SHE;4USH;2ALAN;2ALEPH;2AMAR
3m SHE;2AN;3ov AN;3t m;3pl NAGA oo AN pl NAGA;5sq;2ANSHE;2APIN;2ARAD;3m KUR;2ARKAB;2ASAL2;2ASH
3ZIDA en;31KABA;3ov ASH TUG2 ov TUG2 TUG2 ov TUG2 PAP;5ov ASH;7cs ASH ov ASH ov ASH;2ASH2;2ASHGAB
2BA;2BAD;2BAG3;2BAHAR2;2BAL;3ov BAL;2BALAG;2BAR;2BARA2;2BI;3m A;4GAR;4IGI gu;2BU;3ov BU AB;5UN
3cs BU;2BULUG;3ov BULUG;2BUR;2BUR2;2DA;2DAG;3KISIM5 m A pl MASH;5AMAR;5BALAG;5BI;5GA;6pl MASH;5GI
5GIR2;5GUD;5HA;5IR;6pl LU;5KAK;5LA;5LU;6pl MASH2;5LUM;5NE;5PAP pl PAP;5SI;5TAK4;5U2 pl GIR2;5USH
2DAM;2DAR;2DARA3;2DARA4;2DI;2DIB;2DIM;3m SHE;2DIM2;2DIN;3ks U gu DISH;21;2DU;3ov DU;3gu;3SHESHIG
2DUB;3m ESH2;2DUB2;2DUG;2DUGUD;2DUH;2DUN;2DUN3;3gu;4gu;2DUN4;2DUR2;2E;3m PAP;3ov E NUN ov NUN;2E2
3m A pl HA pl DA;4GAR;4MI;4SAL;4SHE;4U;2EDIN;2EGIR;2EL;2EN;3m GAN2;5en;4ME;3cs EN;31oo;3sq;2EREN
2ERIN2;2ESH2;2EZEN;3m A;5pl LAL;7m LAL;4AN;4BAD;4DUN3 gu;6gu;4HA;5gu;41IGI;4ks;5sq;4KU3;4LA
4LAL m LAL;4LI;4LU;4U2;4UD;2GA;3gu;2GA2;3m A pl DA pl HA;61;6IGI;4AB2 en pl TAB;4AN;4ASH
4ASH2 pl GAL;4BAD;4BAR pl RA;4BUR;5pl RA;4DA;4DI;4DIM m SHE;4DUB;4EL;5pl LA;4EN;5m GAN2 en;42;4GAR
4GI;4GI4;5pl A;4GIR2 pl SU;4HA pl LU pl ESH2;4HAL;5pl LA;4HI pl LI;4HUB2;4IGI gu;4ISH pl HU pl ASH
4KAK;4ks;4KID;5pl LAL;4KU3 pl AN;4LA;4ME pl EN;4MI;4NUN;5ov NUN;4PA;4SAL;4SAR;4SHE;5pl TUR;4SHID
4SUM;4TAK4;4U;4UD;5pl DU;3ov GA2;2GABA;3cs GABA;2GAD;3ov GAD GAR ov GAR;2GAL;3GAD ov GAD GAR ov GAR
2GALAM;2GAM;2GAN;2GAN2;3en;3ov GAN2;31cs;2GAR;2GAR3;2GASHAN;2GESHTIN;3m KUR;2GI;3m E;4U;3cs GI;2GI4
3ov GI4;31cs;2GIDIM;2GIR2;3gu;2GIR3;3m A pl IGI;4GAN2 en;4IGI;41LU pl;4PA;2GISAL;2GISH;3cs GISH
3m BAD;4TAK4;3en;2GU;3cs GU;2GU2;3m KAK;5m IGI gu;4NUN;4SAL pl TUG2;3gu;2GUD;3m A pl KUR;41
3ov GUD LUGAL;2GUL;2GUM;3m SHE;2GUR;2GUR7;2GURUN;2GURUSH;2HA;3en;3gu;2HAL;2HI;3m ASH;4ASH2;4BAD
4DISH;4GAD;4KIN;4NUN;4SHE;4U;2HU;2HUB2;3m AN;4HAL;4ks;4LISH;4UD;2HUL2;2I;3A;2IB;2IDIM;3ov IDIM BUR
5sq;2IG;2IGI;3DIB;3RI;3ov IGI SHIR ov SHIR UD ov UD;3gu;2IL;3m GAN2 en;2IL2;2IM;3m TAK4;3cs IM;31oo
3sq;2IMIN;2IN;2IR;2ISH;2KA;3m A;4AD;5pl KU3;4ASH2;4BAD;4BALAG;4BAR;4BI;4ERIN2;4ESH2;4GA;4GAL
4GAN2 en;4GAR;5pl SHA3 pl A;4GI;4GIR2;4GISH pl SAR;5cs GISH;4GU;4GUR7;4IGI;4IM;4KAK;4KI;4KID;4LI;4LU
4ME;5pl DU;6GI;6TE;4MI;5pl NUNUZ;4NE;4NUN;4PI;4RU;4SA;4SAR;4SHA;4SHE;4SHID;4SHU;4SIG;4SUHUR;4TAR;4U
4U2;4UD;4UMUM m PA;4USH;4ZI;2KA2;3cs KA2;2KAB;2KAD2;2KAD3;2KAD4;2KAD5;3ov KAD5;2KAK;3m IGI gu;2KAL
3m BAD;3cs KAL;2KAM2;2KAM4;2ks;3lb m U ov lb m U;37ov ks;2KESH2;2KI;3m BAD;4U;4UD;2KID;2KIN;2KISAL
2KISH;2KISIM5;3ov KISIM5;2KU;3ov HI m ASH2 KU ov HI m ASH2;2KU3;2KU4;3vn fo;2KU7;2KUL;3gu;2KUN;2KUR
3oo KUR;2KUSHU2;2KWU318;2LA;2lb;3m A;5pl DA pl HA;6GAR;6LAL;4AL;4AN;4ASH ZIDA en;4BAD;4BI;4DAR;4EN
4GA;4GAR;4GUD;5pl GUD;4HA;4HAL;4HI m NUN;4IGI gu;4IM;5pl HA;6LU;4KI;4KIN;4KU3;4KUL;5pl HI pl A;4lb
4LISH;4LU;4LUL;4ME;5pl EN;4MUSH;4NE;4SHE pl SUM;4SHITA pl GISH pl ERIN2;7en;4SHU2;5pl SHU2;4SUM;4TAG
4TAK4;4TE pl A pl SU pl NA;4U;5pl A;6U pl U;4U2 pl ASH;4UD;4USH;3sq;2LAGAR;3m SHE;5pl SUM;3gu
4ov LAGAR gu SHE;2LAHSHU;2LAL;3m LAL;2LAM;3m KUR;5pl RU;2LI;2LIL;2LIMMU2;2LISH;2LU;3m BAD;2LU2;3m AL
4BAD;4ESH2;5en;41GAN2;4HI m BAD;4IM;4KAD2;4KAD3;5pl ASH;4KI;4LA pl ASH;4lb;4ME pl EN;4NE;4NU
4SI pl ASH;4SIK2 pl BU;4TUG2;3en;3cs LU2;31oo;3sq;3SHESHIG;2LU3;2LUGAL;3ov LUGAL;31oo;3SHESHIG;2LUH
2LUL;2LUM;3ov LUM;5GAR ov GAR;2MA;3m TAK4;3gu;2MA2;2MAH;2MAR;2MASH;2MASH2;2ME;2MES;2MI;2MIN;2MU
3ov MU;2MUG;3gu;2MUNSUB;2MURGU2;2MUSH;3m A;4KUR;4ZA;3ov MUSH;5m A pl NA;3cs MUSH;2MUSH3;3m A;5pl DI
41;3gu;2NA;2NA2;2NAGA;3iv;3m SHU en;3oo NAGA;2NAGAR;2NAM NUTILLU;3;2NAM2;2NE;3m A;4UD;3SHESHIG;2NI
3m E;2NI2;2NIM;3m GAN2 en;42GAR pl;2NINDA2;3m AN;4ASH;5pl ASH;4GUD;4ME pl GAN2 en;4NE;4NUN;4SHE
5pl A AN;6ASH;7pl ASH;42U2;4USH;2NISAG;2NU;2NU11;2NUN;3LAGAR m GAR;5MASH;5SAL;6ov NUN LAGAR m SAL
5USH;3en;3ov NUN;31cs;5LAGAR ov LAGAR;2NUNUZ;3AB2 m ASHGAB;5BI;5DUG;5GUD;5IGI gu;5KAD3;5LA;5NE
5SILA3;5U2;3KISIM5 m BI;6U;2PA;2PAD;2PAN;2PAP;2PESH2;2PI;3m A;4AB;4BI;4BU;4E;4I;4IB;4U;4U2;3cs PI
2PIRIG;3m KAL;4UD;4ZA;3oo PIRIG;2RA;2RAB;2RI;2RU;2SA;2SAG NUTILLU;3;3m A;4DU;4DUB;4HA;4KAK;4KUR;4LUM
4MI;4NUN;4SAL;4SHID;4TAB;4U2;4UB;4UM;4UR;4USH;3ov SAG;3gu;2SAL;3lb m ASH2;2SANGA2;2SAR;2SHA;2SHA3
3m A;4BAD;4GISH;4NE;4SHU2;4TUR;4U;5pl A;2SHA6;2SHAB6;2SHAR2;2SHE;3HU;3ov SHE GAD ov GAD GAR ov GAR
53TAB ov TAB;2SHEG9;2SHEN;2SHESH;2SHESH2;2SHESHLAM;2SHID;3m A;4IM;2SHIM;3m A;4BAL;4BULUG;4DIN;4GAR
4IGI;5gu;4KUSHU2;4LUL;4MUG;4SAL;2SHINIG;2SHIR;3en;3ov SHIR BUR ov BUR;2SHITA;2SHU;3ov iv SHU;2SHU2
2SHUBUR;2SI;3gu;2SIG;2SIG4;3ov SIG4 SHU2;2SIK2;2SILA3;2SU;3ov SU;2SUD;2SUD2;2SUHUR;2SUM;2SUMASH;2SUR
2SUR9;2TA;3as;3m HI;4MI;3gu;2TAB;3ov TAB NI ov NI DISH ov DISH;3sq;2TAG;3m BI;4GUD;4SHE;4SHU;4TUG2
4UD;2TAK4;2TAR;2TE;3gu;2TI;3en;2TIL;2TIR;3m TAK4;3ov TIR;5GAD ov GAD GAR ov GAR;2TU;2TUG2;2TUK;2TUM
2TUR;3ov TUR ZA ov ZA;2U;3GUD;3U U;3ov U PA ov PA GAR ov GAR;5SUR ov SUR;5U re ov U re;2U2;2UB;2UD
3KUSHU2;3m BAD;4MI;4U pl U pl U;9gu;31;3SHESHIG;4m BAD;2UDUG;2UM;3m lb;4ME pl DA;4SHA3;4U;2UMBIN
2UMUM;3m ks;4PA;2UN;3gu;2UR;3cs UR;3SHESHIG;2UR2;3m A pl HA;6NA;4AL;4HA;4NUN;4U2;5pl ASH;6BI;2UR4
2URI;2URI3;2URU;3m A;4ASHGAB;4BAR;4DUN;4GA;4GAL;4GAN2 en;4GAR;4GU;4HA;4IGI;4IM;4ISH;4KI;4LUM;4MIN
4PA;4SHE;4SIG4;4TU;4U pl GUD;4UD;4URUDA;21;3m U;2USH;3m A;4KU;4KUR;4TAK4;2USHX;2USH2;2USHUMX;2UTUKI
2UZ3;3m ks;2UZU;2ZA;3en;3sq m KUR;2ZAG;2ZAMX;2ZE2;2ZI;3ov ZI;2ZI3;2ZIB;3KABA en;2ZIG;2ZIZ2;2ZU;2ZU5
3m A;2ZUBUR;2ZUM;2KAP ELAMITE;2AB m NUN;2AB2 m A;2AMAR m KUG;2DAG KISIM5 m U2 pl MASH;2DAG3
2DISH pl SHU;2DUB m SHE;2EZEN m GUD;4SHE;2GA2 m AN pl KAK pl A;4ASH2;2GE22;2GIG;2HUSH;2KA m ANSHE
4ASH3;4GISH;4GUD;4HI m ASH2;4LUM;4PA;4SHUL;4TU;4UR2;2lb m GI;2LU2 SHESHIG m BAD;3m ESH2 pl LAL;4SHU
2MESH;2MUSH3 m ZA;2NA4;2NIN;2NIN9;2NINDA2 m BAL;4GI;2NU11 ro ny DEGREES;2PESH2 as;2PIR2
2SAG m IGI gu;2TI2;2UM m ME;2U U;@12400 1NUMERIC g tw ASH;31t;31u;31fv;31sx;31se;31ei;31ni;3t DISH
31u;31fv;31sx;31se;31ei;31ni;3u U;31fv;31sx;31se;31ei;31ni;3on GESH2;31tw;31t;31u;31fv;31sx;31se
31ei;31ni;3on GESHU;31tw;31t;31u;31fv;3tw SHAR2;31t;5vn fo;3u SHAR2;31fv;31sx;31se;31ei;31ni
3on SHARU;31tw;31t;5vn fo;3u SHARU;31fv;3SHAR2 m GAL pl DISH;7MIN;3on BURU;31tw;31t;5vn fo;3u BURU
31fv;3t vn fo ESH16;6ESH21;3u vn fo LIMMU;6LIMMU4;6LIMMU A;7B;3sx vn fo ASH9;3se vn fo IMIN3;6IMIN A
7B;3ei vn fo USSU;6USSU3;3ni vn fo ILIMMU;6ILIMMU3;6ILIMMU4;6ILIMMU A;3tw ASH en;32t;32u;32fv;32sx
3on BAN2;31tw;31t;31u;5vn fo;3fv BAN2;5vn fo;3NIGIDAMIN;3NIGIDAESH;3on ESHE3;31tw;3on THIRD DISH
31tw THIRDS;31fv SIXTHS;3on THIRD vn fo A;33tw THIRDS;3on eg ASH;41qa;3OLD ASSYRIAN on SIXTH;6qa
3on qa GUR;41hl;3ELAMITE on THIRD;4tw THIRDS;4ft;4ff;3u U vn fo;33fv;33sx;33se;33ei;33ni
@12470 1pu g OLD ASSYRIAN wo DIVIDER;3v ol;31dg;4TRICOLON;4QUADCOLON;@12480 1g AB m NUN en;4SHU2
2AD m ESH2;2BAD m DISH en;2BAHAR2 m AB2;4NI;4ZA;2BU ov BU m NA2;2DA m TAK4;2DAG m KUR;2DIM m IGI
4U U U;2DIM2 m UD;2DUG m ANSHE;4ASH;5AT f;4DIN;4DUN;4ERIN2;4GA;4GI;4GIR2 gu;4GISH;4HA;4HI;4IGI gu
4ks;4KUR;4KUSHU2;5pl ks;4LAK-020;4LAM;5m KUR;4LUH pl GISH;4MASH;4MES;4MI;4NI;4PI;4SHE;4SI gu
2E2 m KUR;4PAP;2ERIN2 X;2ESH2 cs ESH2;2EZEN SHESHIG m ASH;5HI;5IGI gu;5LA;5LAL;5ME;5MES;5SU;32
2GA2 m BAHAR2;4DIM gu;41DUG m IGI;6ks;4EREN;4GA;4GAR pl DI;6NE;4HA pl A;4KUSHU2 pl ks;4LAM;5m KUR
4LUH;4MUSH;4NE;5pl E2;6GI;4SHIM;4ZIZ2;2GABA ro ny DEGREES;2GESHTIN m U;2GISH m GISH cs GISH
2GU2 m IGI gu;2GUD pl GISH m TAK4;2HA en gu;2HI m ASH ov HI m ASH;2KA m BU;4KA;4U U U;4UR
2lb m ZU ov ZU;2LAK-003;2LAK-021;2LAK-025;2LAK-030;2LAK-050;2LAK-051;2LAK-062;2LAK-079 ov LAK-079 gu
2LAK-080;2LAK-081 ov LAK-081;2LAK-092;2LAK-130;2LAK-142;2LAK-210;2LAK-219;2LAK-220;2LAK-225;2LAK-228
2LAK-238;2LAK-265;2LAK-266;2LAK-343;2LAK-347;2LAK-348;2LAK-383;2LAK-384;2LAK-390;2LAK-441;2LAK-449
3m GU;4IGI;4PAP pl LU3;61PAP pl;4U2 pl BA;2LAK-450;2LAK-457;2LAK-470;2LAK-483;2LAK-490;2LAK-492
2LAK-493;2LAK-495;2LAK-550;2LAK-608;2LAK-617;3m ASH;4BAD;4DUN3 gu gu;4KU3;4LA;4TAR;4TE;4U2;4UD
4URUDA;2LAK-636;2LAK-648;3m DUB;4GA;4IGI;5gu;4NI;4PAP pl PAP pl LU3;4SHESH pl KI;4UD;4URUDA;2LAK-724
2LAK-749;2LU2 gu m ASH;3m DISH;4HAL;4PAP;5pl PAP pl LU3;4TAK4;2MI pl ZA7;2MUSH ov MUSH m GA;6KAK
2NINDA2 m DIM gu;4GISH;4GUL;4HI;4KESH2;4LAK-050;4MASH;4PAP pl PAP;4U;5pl U;4URUDA;2SAG gu m HA;3m EN
4SHE AT f;4TAK4;2SHA6 en;2SHE ov SHE;3pl HUB2;4NAM2;4SAR;2SHU2 pl DUG m NI;4E2 m AN;2SI m TAK4
2TAK4 pl SAG;2TUM m GAN2 en;4t DISH;2UR2 iv;3m UD;2URU m DARA3;4LAK-668;4LU3;2ZA7;2ZU ov ZU pl SAR
2ZU5 m t DISH en;@12F90 0CYPRO-MINOAN g CM001;2CM002;2CM004;2CM005;2CM006;2CM007;2CM008;2CM009
2CM010;2CM011;2CM012;2CM012B;2CM013;2CM015;2CM017;2CM019;2CM021;2CM023;2CM024;2CM025;2CM026;2CM027
2CM028;2CM029;2CM030;2CM033;2CM034;2CM035;2CM036;2CM037;2CM038;2CM039;2CM040;2CM041;2CM044;2CM046
2CM047;2CM049;2CM050;2CM051;2CM052;2CM053;2CM054;2CM055;2CM056;2CM058;2CM059;2CM060;2CM061;2CM062
2CM063;2CM064;2CM066;2CM067;2CM068;2CM069;2CM070;2CM071;2CM072;2CM073;2CM074;2CM075;2CM075B;2CM076
2CM078;2CM079;2CM080;2CM081;2CM082;2CM083;2CM084;2CM085;2CM086;2CM087;2CM088;2CM089;2CM090;2CM091
2CM092;2CM094;2CM095;2CM096;2CM097;2CM098;2CM099;2CM100;2CM101;2CM102;2CM103;2CM104;2CM105;2CM107
2CM108;2CM109;2CM110;2CM112;2CM114;2CM301;2CM302;@13000 0EGYPTIAN HIEROGLYPH A001;2A002;2A003;2A004
2A005;2A005A;2A006;2A006A;2A006B;2A007;2A008;2A009;2A010;2A011;2A012;2A013;2A014;2A014A;2A015;2A016
2A017;2A017A;2A018;2A019;2A020;2A021;2A022;2A023;2A024;2A025;2A026;2A027;2A028;2A029;2A030;2A031
2A032;2A032A;2A033;2A034;2A035;2A036;2A037;2A038;2A039;2A040;2A040A;2A041;2A042;2A042A;2A043;2A043A
2A044;2A045;2A045A;2A046;2A047;2A048;2A049;2A050;2A051;2A052;2A053;2A054;2A055;2A056;2A057;2A058
2A059;2A060;2A061;2A062;2A063;2A064;2A065;2A066;2A067;2A068;2A069;2A070;2B001;2B002;2B003;2B004
2B005;2B005A;2B006;2B007;2B008;2B009;2C001;2C002;2C002A;2C002B;2C002C;2C003;2C004;2C005;2C006;2C007
2C008;2C009;2C010;2C010A;2C011;2C012;2C013;2C014;2C015;2C016;2C017;2C018;2C019;2C020;2C021;2C022
2C023;2C024;2D001;2D002;2D003;2D004;2D005;2D006;2D007;2D008;2D008A;2D009;2D010;2D011;2D012;2D013
2D014;2D015;2D016;2D017;2D018;2D019;2D020;2D021;2D022;2D023;2D024;2D025;2D026;2D027;2D027A;2D028
2D029;2D030;2D031;2D031A;2D032;2D033;2D034;2D034A;2D035;2D036;2D037;2D038;2D039;2D040;2D041;2D042
2D043;2D044;2D045;2D046;2D046A;2D047;2D048;2D048A;2D049;2D050;2D050A;2D050B;2D050C;2D050D;2D050E
2D050F;2D050G;2D050H;2D050I;2D051;2D052;2D052A;2D053;2D054;2D054A;2D055;2D056;2D057;2D058;2D059
2D060;2D061;2D062;2D063;2D064;2D065;2D066;2D067;2D067A;2D067B;2D067C;2D067D;2D067E;2D067F;2D067G
2D067H;2E001;2E002;2E003;2E004;2E005;2E006;2E007;2E008;2E008A;2E009;2E009A;2E010;2E011;2E012;2E013
2E014;2E015;2E016;2E016A;2E017;2E017A;2E018;2E019;2E020;2E020A;2E021;2E022;2E023;2E024;2E025;2E026
2E027;2E028;2E028A;2E029;2E030;2E031;2E032;2E033;2E034;2E034A;2E036;2E037;2E038;2F001;2F001A;2F002
2F003;2F004;2F005;2F006;2F007;2F008;2F009;2F010;2F011;2F012;2F013;2F013A;2F014;2F015;2F016;2F017
2F018;2F019;2F020;2F021;2F021A;2F022;2F023;2F024;2F025;2F026;2F027;2F028;2F029;2F030;2F031;2F031A
2F032;2F033;2F034;2F035;2F036;2F037;2F037A;2F038;2F038A;2F039;2F040;2F041;2F042;2F043;2F044;2F045
2F045A;2F046;2F046A;2F047;2F047A;2F048;2F049;2F050;2F051;2F051A;2F051B;2F051C;2F052;2F053;2G001
2G002;2G003;2G004;2G005;2G006;2G006A;2G007;2G007A;2G007B;2G008;2G009;2G010;2G011;2G011A;2G012;2G013
2G014;2G015;2G016;2G017;2G018;2G019;2G020;2G020A;2G021;2G022;2G023;2G024;2G025;2G026;2G026A;2G027
2G028;2G029;2G030;2G031;2G032;2G033;2G034;2G035;2G036;2G036A;2G037;2G037A;2G038;2G039;2G040;2G041
2G042;2G043;2G043A;2G044;2G045;2G045A;2G046;2G047;2G048;2G049;2G050;2G051;2G052;2G053;2G054;2H001
2H002;2H003;2H004;2H005;2H006;2H006A;2H007;2H008;2I001;2I002;2I003;2I004;2I005;2I005A;2I006;2I007
2I008;2I009;2I009A;2I010;2I010A;2I011;2I011A;2I012;2I013;2I014;2I015;2K001;2K002;2K003;2K004;2K005
2K006;2K007;2K008;2L001;2L002;2L002A;2L003;2L004;2L005;2L006;2L006A;2L007;2L008;2M001;2M001A;2M001B
2M002;2M003;2M003A;2M004;2M005;2M006;2M007;2M008;2M009;2M010;2M010A;2M011;2M012;2M012A;2M012B;2M012C
2M012D;2M012E;2M012F;2M012G;2M012H;2M013;2M014;2M015;2M015A;2M016;2M016A;2M017;2M017A;2M018;2M019
2M020;2M021;2M022;2M022A;2M023;2M024;2M024A;2M025;2M026;2M027;2M028;2M028A;2M029;2M030;2M031;2M031A
2M032;2M033;2M033A;2M033B;2M034;2M035;2M036;2M037;2M038;2M039;2M040;2M040A;2M041;2M042;2M043;2M044
2N001;2N002;2N003;2N004;2N005;2N006;2N007;2N008;2N009;2N010;2N011;2N012;2N013;2N014;2N015;2N016
2N017;2N018;2N018A;2N018B;2N019;2N020;2N021;2N022;2N023;2N024;2N025;2N025A;2N026;2N027;2N028;2N029
2N030;2N031;2N032;2N033;2N033A;2N034;2N034A;2N035;2N035A;2N036;2N037;2N037A;2N038;2N039;2N040;2N041
2N042;2NL001;2NL002;2NL003;2NL004;2NL005;2NL005A;2NL006;2NL007;2NL008;2NL009;2NL010;2NL011;2NL012
2NL013;2NL014;2NL015;2NL016;2NL017;2NL017A;2NL018;2NL019;2NL020;2NU001;2NU002;2NU003;2NU004;2NU005
2NU006;2NU007;2NU008;2NU009;2NU010;2NU010A;2NU011;2NU011A;2NU012;2NU013;2NU014;2NU015;2NU016;2NU017
2NU018;2NU018A;2NU019;2NU020;2NU021;2NU022;2NU022A;2O001;2O001A;2O002;2O003;2O004;2O005;2O005A;2O006
2O006A;2O006B;2O006C;2O006D;2O006E;2O006F;2O007;2O008;2O009;2O010;2O010A;2O010B;2O010C;2O011;2O012
2O013;2O014;2O015;2O016;2O017;2O018;2O019;2O019A;2O020;2O020A;2O021;2O022;2O023;2O024;2O024A;2O025
2O025A;2O026;2O027;2O028;2O029;2O029A;2O030;2O030A;2O031;2O032;2O033;2O033A;2O034;2O035;2O036;2O036A
2O036B;2O036C;2O036D;2O037;2O038;2O039;2O040;2O041;2O042;2O043;2O044;2O045;2O046;2O047;2O048;2O049
2O050;2O050A;2O050B;2O051;2P001;2P001A;2P002;2P003;2P003A;2P004;2P005;2P006;2P007;2P008;2P009;2P010
2P011;2Q001;2Q002;2Q003;2Q004;2Q005;2Q006;2Q007;2R001;2R002;2R002A;2R003;2R003A;2R003B;2R004;2R005
2R006;2R007;2R008;2R009;2R010;2R010A;2R011;2R012;2R013;2R014;2R015;2R016;2R016A;2R017;2R018;2R019
2R020;2R021;2R022;2R023;2R024;2R025;2R026;2R027;2R028;2R029;2S001;2S002;2S002A;2S003;2S004;2S005
2S006;2S006A;2S007;2S008;2S009;2S010;2S011;2S012;2S013;2S014;2S014A;2S014B;2S015;2S016;2S017;2S017A
2S018;2S019;2S020;2S021;2S022;2S023;2S024;2S025;2S026;2S026A;2S026B;2S027;2S028;2S029;2S030;2S031
2S032;2S033;2S034;2S035;2S035A;2S036;2S037;2S038;2S039;2S040;2S041;2S042;2S043;2S044;2S045;2S046
2T001;2T002;2T003;2T003A;2T004;2T005;2T006;2T007;2T007A;2T008;2T008A;2T009;2T009A;2T010;2T011;2T011A
2T012;2T013;2T014;2T015;2T016;2T016A;2T017;2T018;2T019;2T020;2T021;2T022;2T023;2T024;2T025;2T026
2T027;2T028;2T029;2T030;2T031;2T032;2T032A;2T033;2T033A;2T034;2T035;2T036;2U001;2U002;2U003;2U004
2U005;2U006;2U006A;2U006B;2U007;2U008;2U009;2U010;2U011;2U012;2U013;2U014;2U015;2U016;2U017;2U018
2U019;2U020;2U021;2U022;2U023;2U023A;2U024;2U025;2U026;2U027;2U028;2U029;2U029A;2U030;2U031;2U032
2U032A;2U033;2U034;2U035;2U036;2U037;2U038;2U039;2U040;2U041;2U042;2V001;2V001A;2V001B;2V001C;2V001D
2V001E;2V001F;2V001G;2V001H;2V001I;2V002;2V002A;2V003;2V004;2V005;2V006;2V007;2V007A;2V007B;2V008
2V009;2V010;2V011;2V011A;2V011B;2V011C;2V012;2V012A;2V012B;2V013;2V014;2V015;2V016;2V017;2V018;2V019
2V020;2V020A;2V020B;2V020C;2V020D;2V020E;2V020F;2V020G;2V020H;2V020I;2V020J;2V020K;2V020L;2V021
2V022;2V023;2V023A;2V024;2V025;2V026;2V027;2V028;2V028A;2V029;2V029A;2V030;2V030A;2V031;2V031A;2V032
2V033;2V033A;2V034;2V035;2V036;2V037;2V037A;2V038;2V039;2V040;2V040A;2W001;2W002;2W003;2W003A;2W004
2W005;2W006;2W007;2W008;2W009;2W009A;2W010;2W010A;2W011;2W012;2W013;2W014;2W014A;2W015;2W016;2W017
2W017A;2W018;2W018A;2W019;2W020;2W021;2W022;2W023;2W024;2W024A;2W025;2X001;2X002;2X003;2X004;2X004A
2X004B;2X005;2X006;2X006A;2X007;2X008;2X008A;2Y001;2Y001A;2Y002;2Y003;2Y004;2Y005;2Y006;2Y007;2Y008
2Z001;2Z002;2Z002A;2Z002B;2Z002C;2Z002D;2Z003;2Z003A;2Z003B;2Z004;2Z004A;2Z005;2Z005A;2Z006;2Z007
2Z008;2Z009;2Z010;2Z011;2Z012;2Z013;2Z014;2Z015;2Z015A;2Z015B;2Z015C;2Z015D;2Z015E;2Z015F;2Z015G
2Z015H;2Z015I;2Z016;2Z016A;2Z016B;2Z016C;2Z016D;2Z016E;2Z016F;2Z016G;2Z016H;2AA001;2AA002;2AA003
2AA004;2AA005;2AA006;2AA007;2AA007A;2AA007B;2AA008;2AA009;2AA010;2AA011;2AA012;2AA013;2AA014;2AA015
2AA016;2AA017;2AA018;2AA019;2AA020;2AA021;2AA022;2AA023;2AA024;2AA025;2AA026;2AA027;2AA028;2AA029
2AA030;2AA031;2AA032;@13430 2v jo;21h;2INSERT AT TOP START;41bo;4TOP END;41bo;2oy mi;2BEGIN SEGMENT
21END;@14400 0ANATOLIAN HIEROGLYPH A001;2A002;2A003;2A004;2A005;2A006;2A007;2A008;2A009;2A010;2A010A
2A011;2A012;2A013;2A014;2A015;2A016;2A017;2A018;2A019;2A020;2A021;2A022;2A023;2A024;2A025;2A026
2A026A;2A027;2A028;2A029;2A030;2A031;2A032;2A033;2A034;2A035;2A036;2A037;2A038;2A039;2A039A;2A040
2A041;2A041A;2A042;2A043;2A044;2A045;2A045A;2A046;2A046A;2A046B;2A047;2A048;2A049;2A050;2A051;2A052
2A053;2A054;2A055;2A056;2A057;2A058;2A059;2A060;2A061;2A062;2A063;2A064;2A065;2A066;2A066A;2A066B
2A066C;2A067;2A068;2A069;2A070;2A071;2A072;2A073;2A074;2A075;2A076;2A077;2A078;2A079;2A080;2A081
2A082;2A083;2A084;2A085;2A086;2A087;2A088;2A089;2A090;2A091;2A092;2A093;2A094;2A095;2A096;2A097
2A097A;2A098;2A098A;2A099;2A100;2A100A;2A101;2A101A;2A102;2A102A;2A103;2A104;2A104A;2A104B;2A104C
2A105;2A105A;2A105B;2A106;2A107;2A107A;2A107B;2A107C;2A108;2A109;2A110;2A110A;2A110B;2A111;2A112
2A113;2A114;2A115;2A115A;2A116;2A117;2A118;2A119;2A120;2A121;2A122;2A123;2A124;2A125;2A125A;2A126
2A127;2A128;2A129;2A130;2A131;2A132;2A133;2A134;2A135;2A135A;2A136;2A137;2A138;2A139;2A140;2A141
2A142;2A143;2A144;2A145;2A146;2A147;2A148;2A149;2A150;2A151;2A152;2A153;2A154;2A155;2A156;2A157
2A158;2A159;2A160;2A161;2A162;2A163;2A164;2A165;2A166;2A167;2A168;2A169;2A170;2A171;2A172;2A173
2A174;2A175;2A176;2A177;2A178;2A179;2A180;2A181;2A182;2A183;2A184;2A185;2A186;2A187;2A188;2A189
2A190;2A191;2A192;2A193;2A194;2A195;2A196;2A197;2A198;2A199;2A200;2A201;2A202;2A202A;2A202B;2A203
2A204;2A205;2A206;2A207;2A207A;2A208;2A209;2A209A;2A210;2A211;2A212;2A213;2A214;2A215;2A215A;2A216
2A216A;2A217;2A218;2A219;2A220;2A221;2A222;2A223;2A224;2A225;2A226;2A227;2A227A;2A228;2A229;2A230
2A231;2A232;2A233;2A234;2A235;2A236;2A237;2A238;2A239;2A240;2A241;2A242;2A243;2A244;2A245;2A246
2A247;2A248;2A249;2A250;2A251;2A252;2A253;2A254;2A255;2A256;2A257;2A258;2A259;2A260;2A261;2A262
2A263;2A264;2A265;2A266;2A267;2A267A;2A268;2A269;2A270;2A271;2A272;2A273;2A274;2A275;2A276;2A277
2A278;2A279;2A280;2A281;2A282;2A283;2A284;2A285;2A286;2A287;2A288;2A289;2A289A;2A290;2A291;2A292
2A293;2A294;2A294A;2A295;2A296;2A297;2A298;2A299;2A299A;2A300;2A301;2A302;2A303;2A304;2A305;2A306
2A307;2A308;2A309;2A309A;2A310;2A311;2A312;2A313;2A314;2A315;2A316;2A317;2A318;2A319;2A320;2A321
2A322;2A323;2A324;2A325;2A326;2A327;2A328;2A329;2A329A;2A330;2A331;2A332A;2A332B;2A332C;2A333;2A334
2A335;2A336;2A336A;2A336B;2A336C;2A337;2A338;2A339;2A340;2A341;2A342;2A343;2A344;2A345;2A346;2A347
2A348;2A349;2A350;2A351;2A352;2A353;2A354;2A355;2A356;2A357;2A358;2A359;2A359A;2A360;2A361;2A362
2A363;2A364;2A364A;2A365;2A366;2A367;2A368;2A368A;2A369;2A370;2A371;2A371A;2A372;2A373;2A374;2A375
2A376;2A377;2A378;2A379;2A380;2A381;2A381A;2A382;2A383 RA OR RI;2A383A;2A384;2A385;2A386;2A386A
2A387;2A388;2A389;2A390;2A391;2A392;2A393 ei;2A394;2A395;2A396;2A397;2A398;2A399;2A400;2A401;2A402
2A403;2A404;2A405;2A406;2A407;2A408;2A409;2A410 BEGIN LOGOGRAM ma;22A410A END;2A411;2A412;2A413
2A414;2A415;2A416;2A417;2A418;2A419;2A420;2A421;2A422;2A423;2A424;2A425;2A426;2A427;2A428;2A429
2A430;2A431;2A432;2A433;2A434;2A435;2A436;2A437;2A438;2A439;2A440;2A441;2A442;2A443;2A444;2A445
2A446;2A447;2A448;2A449;2A450;2A450A;2A451;2A452;2A453;2A454;2A455;2A456;2A457;2A457A;2A458;2A459
2A460;2A461;2A462;2A463;2A464;2A465;2A466;2A467;2A468;2A469;2A470;2A471;2A472;2A473;2A474;2A475
2A476;2A477;2A478;2A479;2A480;2A481;2A482;2A483;2A484;2A485;2A486;2A487;2A488;2A489;2A490;2A491
2A492;2A493;2A494;2A495;2A496;2A497;2A501;2A502;2A503;2A504;2A505;2A506;2A507;2A508;2A509;2A510
2A511;2A512;2A513;2A514;2A515;2A516;2A517;2A518;2A519;2A520;2A521;2A522;2A523;2A524;2A525;2A526
2A527;2A528;2A529;2A530;@16800 0BAMUM l PHASE-A NGKUE MFON;3GBIEE FON;3PON MFON PIPAEMGBIEE
5PIPAEMBA;3NAA MFON;3SHUENSHUET;3TITA MFON;31NZA;3SHINDA PA NJI;3PON PA NJI PIPAEMGBIEE;6PIPAEMBA
3MAEMBGBIEE;3TU MAEMBA;3NGANGU;3MAEMVEUX;3MANSUAE;3MVEUAENGAM;3SEUNYAM;3NTOQPEN;3KEUKEUTNDA;3NKINDI
3SUU;3NGKUENZEUM;3LAPAQ;3LET KUT;3NTAP MFAA;3MAEKEUP;3PASHAE;3GHEUAERAE;3PAMSHAE;3MON NGGEUAET
3NZUN MEUT;3U YUQ NAE;3GHEUAEGHEUAE;3NTAP NTAA;3SISA;3MGBASA;3MEUNJOMNDEUQ;3MOOMPUQ;3KAFA
3PA LEERAEWA;31NDA;3PET;3MAEMKPEN;3NIKA;3PUP;3TUAEP;3LUAEP;3SONJAM;3TEUTEUWEN;3MAENYI;3KET
3NDAANGGEUAET;3KUOQ;3MOOMEUT;3SHUM;3LOMMAE;3FIRI;3ROM;3KPOQ;3SOQ;3MAP PIEET;3SHIRAE;3NTAP
3SHOQ NSHUT YUM;3NYIT MONGKEUAEQ;3PAARAE;3NKAARAE;3UNKNOWN;3NGGEN;3MAESI;3NJAM;3MBANYI;3NYET;3TEUAEN
3SOT;3PAAM;3NSHIEE;3MAEM;3NYI;3KAQ;3NSHA;3VEE;3LU;3NEN;3NAQ;3MBAQ;2PHASE-B NSHUET;3TU MAEMGBIEE
3SIEE;3SET TU;3LOM NTEUM;3MBA MAELEE;3KIEEM;3YEURAE;3MBAARAE;3KAM;3PEESHI;3YAFU LEERAEWA
3LAM NSHUT NYAM;3NTIEE SHEUOQ;3NDU NJAA;3GHEUGHEUAEM;3PIT;3TU NSIEE;3SHET NJAQ;3SHEUAEQTU
3MFON TEUAEQ;3MBIT MBAAKET;3NYI NTEUM;3KEUPUQ;3GHEUGHEN;3KEUYEUX;3LAANAE;3PARUM;3VEUM;3NGKINDI MVOP
3NGGEU MBU;3WUAET;3SAKEUAE;3TAAM;3MEUQ;3NGGUOQ;4la;3MFIYAQ;3SUE;3MBEURI;3MONTIEEN;3NYAEMAE;3PUNGAAM
3MEUT NGGEET;3FEUX;3MBUOQ;3FEE;3KEUAEM;3MA NJEUAENA;4NJUQA;3LET;3NGGAAM;3NSEN;3MA;3KIQ;3NGOM
2PHASE-C NGKUE MAEMBA;3NZA;3YUM;3WANGKUOQ;3NGGEN;3NDEUAEREE;3NGKAQ;3GHARAE;3MBEEKEET;3GBAYI
3NYIR MKPARAQ MEUN;3NTU MBIT;3MBEUM;3PIRIEEN;3NDOMBU;3MBAA CABBAGE-TREE;3KEUSHEUAEP;3GHAP;3KEUKAQ
3YU MUOMAE;3NZEUM;3MBUE;3NSEUAEN;3MBIT;3YEUQ;3KPARAQ;3KAA;3SEUX;3NDIDA;3TAASHAE;3NJUEQ;3TITA YUE
3SUAET;3NGGUAEN NYAM;3VEUX;3NANSANAQ;3MA KEUAERI;3NTAA;3NGGUON;3LAP;3MBIRIEEN;3MGBASAQ;3NTEUNGBA
3TEUTEUX;3NGGUM;3FUE;3NDEUT;3NSA;3NSHAQ;3BUNG;3VEUAEPEN;3MBERAE;3RU;3NJAEM;3LAM;3TITUAEP;3NSUOT NGOM
3NJEEEE;3KET;3NGGU;3MAESI;3MBUAEM;3LU;3KUT;3NJAM;3NGOM;3WUP;3NGGUEET;3NSOM;3NTEN;3KUOP NKAARAE;3NSUN
3NDAM;3MA NSIEE;3YAA;3NDAP;3SHUEQ;3SETFON;3MBI;3MAEMBA;3MBANYI;3KEUSEUX;3MBEUX;3KEUM;3MBAA PICKET
3YUWOQ;3NJEUX;3MIEE;3MUAE;3SHIQ;3KEN LAW;4FATIGUE;3NGAQ;3NAQ;3LIQ;3PIN;3PEN;3TET;2PHASE-D MBUO;3WAP
3NJI;3MFON;3NJIEE;3LIEE;3NJEUT;3NSHEE;3NGGAAMAE;3NYAM;3WUAEN;3NGKUN;3SHEE;3NGKAP;3KEUAETMEUN;3TEUT
3SHEUAE;3NJAP;3SUE;3KET;3YAEMMAE;3KUOM;3SAP;3MFEUT;3NDEUX;3MALEERI;3MEUT;3SEUAEQ;3YEN;3NJEUAEM
3KEUOT MBUAE;3NGKEURI;3TU;3GHAA;3NGKYEE;3FEUFEUAET;3NDEE;3MGBOFUM;3LEUAEP;3NDON;3MONI;3MGBEUN;3PUUT
3MGBIEE;3MFO;3LUM;3NSIEEP;3MBAA;3KWAET;3NYET;3TEUAEN;3SOT;3YUWOQ;3KEUM;3RAEM;3TEEEE;3NGKEUAEQ
3MFEUAE;3NSIEET;3KEUP;3PIP;3PEUTAE;3NYUE;3LET;3NGGAAM;3MFIEE;3NGGWAEN;3YUOM;3PAP;3YUOP;3NDAM;3NTEUM
3SUAE;3KUN;3NGGEUX;3NGKIEE;3TUOT;3MEUN;3KUQ;3NSUM;3TEUN;3MAENJET;3NGGAP;3LEUM;3NGGUOM;3NSHUT;3NJUEQ
3GHEUAE;3KU;3REN OLD;3TAE;3TOQ;3NYI;3RII;3LEEEE;3MEEEE;3M;3SUU;3MU;3SHII;3SHEUX;3KYEE;3NU;3SHU;3NTEE
3PEE;3NI;3SHOQ;3PUQ;3MVOP;3LOQ;3REN MUCH;3TI;3NTUU;3MBAA se;3SAQ;3FAA;2PHASE-E NDAP;3TOON;3MBEUM
3LAP;3VOM;3LOON;3PAA;3SOM;3RAQ;3NSHUOP;3NDUN;3PUAE;3TAM;3NGKA;3KPEUX;3WUO;3SEE;3NGGEUAET;3PAAM;3TOO
3KUOP;3LOM;3NSHIEE;3NGOP;3MAEM;3NGKEUX;3NGOQ;3NSHUE;3RIMGBA;3NJEUX;3PEEM;3SAA;3NGGURAE;3MGBA;3GHEUX
3NGKEUAEM;3NJAEMLI;3MAP;3LOOT;3NGGEEEE;3NDIQ;3TAEN NTEUM;3SET;3PUM;3NDAA SOFTNESS;3NGGUAESHAE NYAM
3YIEE;3GHEUN;3TUAE;3YEUAE;3PO;3TUMAE;3KEUAE;3SUAEN;3TEUAEQ;3VEUAE;3WEUX;3LAAM;3PU;3TAAQ;3GHAAMAE
3NGEUREUT;3SHEUAEQ;3MGBEN;3MBEE;3NZAQ;3NKOM;3GBET;3TUM;3KUET;3YAP;3NYI CLEAVER;3YIT;3MFEUQ;3NDIAQ
3PIEEQ;3YUEQ;3LEUAEM;3FUE;3GBEUX;3NGKUP;3KET;3MAE;3NGKAAMI;3GHET;3FA;3NTUM;3PEUT;3YEUM;3NGGEUAE
3NYI bt;3NZUQ;3POON;3MIEE;3FUET;3NAE;3MUAE;3GHEUAE;3FU I;3MVI;3PUAQ;3NGKUM;3KUT;3PIET;3NTAP;3YEUAET
3NGGUP;3PA PEOPLE;3FU CALL;3FOM;3NJEE;3A;3TOQ;3O;3I;3LAQ;3PA PLURAL;3TAA;3TAQ;3NDAA MY HOUSE;3SHIQ
3YEUX;3NGUAE;3YUAEN;3YOQ SWIMMING;4COVER;3YUQ;3YUN;3KEUX;3PEUX;3NJEE EPOCH;3PUE;3WUE;3FEE;3VEE;3LU
3MI;3REUX;3RAE;3NGUAET;3na;3SHO;3SHOQ;3FU REMEDY;3NA;3PI;3LOQ;3KO;3MEN;3MA;3MAQ;3TEU;3KI;3MON;3tn
3FAQ;3GHOM;2PHASE-F KA;3U;3KU;3EE;3REE;3TAE;3NYI;3LA;3RII;3RIEE;3MEEEE;3TAA;3NDAA;3NJAEM;3M;3SUU
3SHII;3SI;3SEUX;3KYEE;3KET;3NUAE;3NU;3NJUAE;3YOQ;3SHU;3YA;3NSHA;3PEUX;3NTEE;3WUE;3PEE;3RU;3NI;3REUX
3KEN;3NGKWAEN;3NGGA;3SHO;3PUAE;3FOM;3WA;3LI;3LOQ;3KO;3MBEN;3REN;3MA;3MO;3MBAA;3TET;3KPA;3SAMBA;3VUEQ
@16A40 0MRO l TA;2NGI;2YO;2MIM;2BA;2DA;2A;2PHI;2KHAI;2HAO;2DAI;2CHU;2KEAAE;2OL;2MAEM;2NIN;2PA;2OO;2O
2RO;2SHI;2THEA;2EA;2WA;2E;2KO;2LAN;2LA;2HAI;2RI;2TEK;@16A60 1di z;2on;2tw;2t;2u;2fv;2sx;2se;2ei;2ni
@16A6E 1dn;11d;0TANGSA l OZ;2OC;2OQ;2OX;2AZ;2AC;2AQ;2AX;2VZ;2VC;2VQ;2VX;2EZ;2EC;2EQ;2EX;2IZ;2IC;2IQ
2IX;2UZ;2UC;2UQ;2UX;2AWZ;2AWC;2AWQ;2AWX;2UIZ;2UIC;2UIQ;2UIX;2fi NG;2ln UEX;2sh UEZ;3AWX;2UEC;2UEZ
2UEQ;2UEX;2UIUZ;2UIUC;2UIUQ;2UIUX;2MZ;2MC;2MQ;2MX;2KA;2KHA;2GA;2na;2SA;2YA;2WA;2PA;2ya;2ph;2BA;2MA
2NA;2HA;2LA;2HTA;2TA;2DA;2RA;2NHA;2SHA;2CA;2TSA;2GHA;2HTTA;2THA;2XA;2FA;2dh;2ch;2ZA;@16AC0 1di z;2on
2tw;2t;2u;2fv;2sx;2se;2ei;2ni;@16AD0 0BASSA VAH l ENNI;3KA;3SE;3FA;3MBE;3YIE;3GAH;3DHII;3KPAH;3JO
3HWAH;3WA;3ZO;3GBU;3DO;3CE;3UWU;3TO;3BA;3VU;3YEIN;3PA;3WADDA;3A;3O;3OO;3U;3EE;3E;3I
@16AF0 2co hi TONE;31lw;31MID;31LOW-MID;31HIGH-LOW;2fu STOP;@16B00 0PAHAWH HMONG vo KEEB;3KEEV;3KIB
3KIV;3KAUB;3KAUV;3KUB;3KUV;3KEB;3KEV;3KAIB;3KAIV;3KOOB;3KOOV;3KAWB;3KAWV;3KUAB;3KUAV;3KOB;3KOV;3KIAB
3KIAV;3KAB;3KAV;3KWB;3KWV;3KAAB;3KAAV;2cn VAU;3NTSAU;3LAU;3HAU;3NLAU;3RAU;3NKAU;3QHAU;3YAU;3HLAU
3MAU;3CHAU;3NCHAU;3HNAU;3PLHAU;3NTHAU;3NAU;3AU;3XAU;3CAU;2ma CIM TUB;4SO;4KES;4KHAV;4SUAM;4HOM;4TAUM
2g VOS THOM;4TSHAB CEEB;3CIM CHEEM;3VOS THIAB;4FEEM;3XYEEM NTXIV;4RHO;4TOV;4FAIB;3VOS SEEV
3MEEJ SUAB;3VOS NRUA;3IB YAM;3XAUS;3CIM TSOV ROG;@16B50 2di z;3on;3tw;3t;3u;3fv;3sx;3se;3ei;3ni
@16B5B 2nu TENS;3HUNDREDS;3tn THOUSANDS;3MILLIONS;31hu;3tn BILLIONS;3TRILLIONS;@16B63 2g VOS LUB
3XYOO;3HLI;31THIRD-STAGE;3ZWJ THAJ;3HNUB;3NQIG;3XIAB;3NTUJ;3AV;3TXHEEJ CEEV;3MEEJ TSEEB;3TAU;3LOS
3MUS;3CIM HAIS LUS NTOG NTOG;4CUAM TSHOOJ;4TXWV;5CHWV;4PUB DAWB;4NRES TOS;@16B7D 2CLAN g TSHEEJ
4YEEG;4LIS;4LAUJ;4XYOOJ;4KOO;4HAWJ;4MUAS;4THOJ;4TSAB;4PHAB;4KHAB;4HAM;4VAJ;4FAJ;4YAJ;4TSWB;4KWM;4VWJ
@16E40 0MEDEFAIDRIN c l M;3S;3V;3W;3ATIU;3Z;3KP;3P;3T;3G;3F;3I;3K;3A;3J;3E;3B;3C;3U;3YU;3L;3Q;3HP
3NY;3X;3D;3OE;3N;3R;3O;3AI;3Y;1s l M;3S;3V;3W;3ATIU;3Z;3KP;3P;3T;3G;3F;3I;3K;3A;3J;3E;3B;3C;3U;3YU
3L;3Q;3HP;3NY;3X;3D;3OE;3N;3R;3O;3AI;3Y;1di z;2on;2tw;2t;2u;2fv;2sx;2se;2ei;2ni;1nu tn;2lv;2tv
2THIRTEEN;2fe;2FIFTEEN;2xt;2ev;2ih;2NINETEEN;1di on aa fo;22tw;22t;1om;1fu STOP;1y AIVA;1ex OH
@16F00 0MIAO l PA;2BA;2YI PA;2PLA;2MA;2MHA;2ah MA;2FA;2VA;2VFA;2TA;2DA;2YI TTA;3TA;2TTA;2DDA;2NA
2NHA;2YI NNA;2ah NA;2NNA;2NNHA;2LA;2LYA;2LHA;2LHYA;2TLHA;2DLHA;2TLHYA;2DLHYA;2KA;2GA;2YI KA;2QA;2QGA
2na;2NGHA;2ah na;2HA;2XA;2GHA;2GHHA;2TSSA;2DZZA;2ya;2NYHA;2TSHA;2DZHA;2YI TSHA;3DZHA;2REFORMED TSHA
2SHA;2SSA;2zh;2ZSHA;2TSA;2dz;2YI TSA;2SA;2ZA;2ZSA;2ZZA;2ZZSA;2ah ZZA;2ZZYA;2ZZSYA;2WA;2AH;2HHA;2BRI
2SYI;2DZYI;2TE;2TSE;2RTE;@16F4F 1g cn mf BAR;1l nz;1g ASPIRATION;2REFORMED VOICING;3ASPIRATION
1vo g A;3AA;3AHH;3AN;3ANG;3O;3OO;3WO;3W;3E;3EN;3ENG;3OEY;3I;3IA;3IAN;3IANG;3IO;3IE;3II;3IU;3ING;3U
3UA;3UAN;3UANG;3UU;3UEI;3UNG;3Y;3YI;3AE;3AEE;3ERR;31ou;3ER;31ou;3AI;3EI;3AU;3OU;3N;3NG;3UOG;3YUI;3OG
3OER;3VW;3IG;3EA;3IONG;3UI;@16F8F 1TONE r;21TOP;2a;2be;1l TONE-2;2TONE-3;2TONE-4;2TONE-5;2TONE-6
2TONE-7;2TONE-8;2REFORMED TONE-1;3TONE-2;3TONE-4;3TONE-5;3TONE-6;3TONE-8;@16FE0 0TANGUT ITERATION ma
02NUSHU;01OLD CHINESE ho;21ITERATION;0KHITAN s cp FILLER;@16FF0 0VIETNAMESE aa READING ma CA;4NHAY
@1AFF0 0ka l MINNAN TONE-2;3TONE-3;3TONE-4;3TONE-5;@1AFF5 3TONE-7;3TONE-8;3NASALIZED TONE-1;4TONE-2
4TONE-3;4TONE-4;4TONE-5;@1AFFD 4TONE-7;4TONE-8"

end Deminify.Text.CharName
