/-!
# Names in the scripts of the East

The names in the rest of the basic plane: radicals, syllabaries and strokes of East Asia, further
alphabets, ligatures and compatibility forms.
`CharacterName` says how the table is written.
-/

namespace Parlance.Unicode

/-- The names of the characters from 2E80 on in the basic plane. -/
def eastAsianNames : String := "
+2E80;0CJK RADICAL REPEAT;2CLIFF;2SECOND ONE;3TWO;3THREE;2PERSON;2BOX;2TABLE;2KNIFE ONE;3TWO
2DIVINAw;2SEAL;2hL ONE;3TWO;2LAME ONE;3TWO;3THREE;3FOUR;2SNAKE;2THREAD;2SNOUT ONE;3TWO;2HEART ONE
3TWO;2HAND;2RAP;+2E9B;2CHOKE;2SUN;2MOON;2DEATH;2MOTHER;2CIVILIAN;2WATER ONE;3TWO;2FIRE;2PAW ONE;3TWO
2SIMPLIFIED HALF TREE TRUNK;2COW;2DOG;2JADE;2BOLT OF CLOTH;2EYE;2SPIRIT ONE;3TWO;2BAMBOO;2SILK
2C-SIMPLIFIED SILK;2NET ONE;3TWO;3THREE;3FOUR;2MESH;2SHEEP;2RAM;2EWE;2OLD;2BRUSH ONE;3TWO;2MEAT
2MORTAR;2GRASS ONE;3TWO;3THREE;2TIGER;2CLOTHES;2WEST ONE;3TWO;2C-SIMPLIFIED SEE;2SIMPLIFIED HORN
2HORN;2C-SIMPLIFIED SPEECH;3SHELL;2FOOT;2C-SIMPLIFIED CART;2SIMPLIFIED WALK;2WALK ONE;3TWO;2CITY
2C-SIMPLIFIED GOLD;2LONG ONE;3TWO;2C-SIMPLIFIED LONG;3GATE;2MOUND ONE;3TWO;2RAIN;2BLUE
2C-SIMPLIFIED TANNED LEATHER;3LEAF;3WIND;3FLY;2EAT ONE;3TWO;3THREE;2C-SIMPLIFIED EAT;2HEAD
2C-SIMPLIFIED HORSE;2BONE;2GHOST;2C-SIMPLIFIED FISH;3BIRD;3SALT;2SIMPLIFIED WHEAT;3YELLOW
2C-SIMPLIFIED FROG;2J-SIMPLIFIED EVEN;2C-SIMPLIFIED EVEN;2J-SIMPLIFIED TOOTH;2C-SIMPLIFIED TOOTH
2J-SIMPLIFIED DRAGON;2C-SIMPLIFIED DRAGON;2TURTLE;2J-SIMPLIFIED TURTLE;2C-SIMPLIFIED TURTLE;+2F00
0KANGXI RADICAL ONE;2LINE;2DOT;2SLASH;2SECOND;2HOOK;2TWO;2LID;2MAN;2LEGS;2ENTER;2Ee;2DOWN BOX;2COVER
2ICE;2TABLE;2OPEN BOX;2KNIFE;2POWER;2WRAP;2SPOON;2Re OPEN BOX;2HIDqENCLOSURE;2TEN;2DIVINAw;2SEAL
2CLIFF;2PRIVATE;2AGAIN;2MOUTH;2ENCLOSURE;2EARTH;2SCHOLAR;2GO;3SLOWLY;2EVENING;2BIG;2WOMAN;2CHILD
2ROOF;2INCH;2hL;2LAME;2CORPSE;2SPROUT;2MOUNTAIN;2RIVER;2WORK;2ONESELF;2TURBAN;2DRY;2SHORT THREAD
2DOTTED CLIFF;2LONG STRIDE;2TWO HANDS;2SHOOT;2BOW;2SNOUT;2BRISTLE;2STEP;2HEART;2HALBERD;2DOOR;2HAND
2BRANCH;2RAP;2SCRIPT;2DIPPER;2AXE;2SQUARE;2NOT;2SUN;2SAY;2MOON;2TREE;2LACK;2STOP;2DEATH;2WEAPON
2DO NOT;2COMPARE;2FUR;2CLAN;2STEAM;2WATER;2FIRE;2CLAW;2FATHER;2r X;2HALF TREE TRUNK;2SLICE;2FANG
2COW;2DOG;2PROFOUND;2JADE;2MELON;2TILE;2SWEET;2LIFE;2USE;2FIELD;2BOLT OF CLOTH;2SICKNESS
2DOTTED TENT;2WHITE;2SKIN;2DISH;2EYE;2SPEAR;2ARROW;2STONE;2SPIRIT;2TRACK;2GRAIN;2CAVE;2STAND;2BAMBOO
2RICE;2SILK;2JAR;2NET;2SHEEP;2FEATHER;2OLD;2AND;2PLOW;2EAR;2BRUSH;2MEAT;2MINISTER;2SELF;2ARRIVE
2MORTAR;2TONGUE;2OPPOSE;2BOAT;2STOPPING;2COLOR;2GRASS;2TIGER;2INSECT;2BLOOD;2WALK ENCLOSURE;2CLOTHES
2WEST;2SEE;2HORN;2SPEECH;2VALLEY;2BEAN;2PIG;2BADGER;2SHELL;2RED;2RUN;2FOOT;2BODY;2CART;2BITTER
2MORNING;2WALK;2CITY;2WINE;2DISTINGUISH;2VILLAGE;2GOLD;2LONG;2GATE;2MOUND;2SLAVE;2SHORT TAILED BIRD
2RAIN;2BLUE;2WRONG;2FACE;2LEATHER;2TANNED LEATHER;2LEEK;2SOUND;2LEAF;2WIND;2FLY;2EAT;2HEAD;2FRAGRANT
2HORSE;2BONE;2TALL;2HAIR;2Fe;2SACRIFICIAL WINE;2CAULDRON;2GHOST;2FISH;2BIRD;2SALT;2DEER;2WHEAT;2HEMP
2YELLOW;2MILLET;2BLACK;2EMBROIDERY;2FROG;2TRIPOD;2DRUM;2RAT;2NOSE;2EVEN;2TOOTH;2DRAGON;2TURTLE
2FLUTE;+2FF0;0IDEOGRAPHIC DESCRIPw CHARACTER p TO Re;3ABOVE TOv;3p TO MIDDLEiRe
3ABOVE TO MIDDLEiBELOW;3FULL SURROUND;3SURROUND FROMj;5BELOW;5p;5UPPER p;6Re;5LOWER p;3OVERLAID
+3000;1SPACE;1COMMA;1FULL STOP;0DITTO MARK;0JAPANESE INDUSTRIAL STANDARD u;0IDEOGRAPHIC ITERAw MARK
1CLOSqMARK;1NUMBER ZERO;0p ANGLE BRACKET;0Re ANGLE BRACKET;0p r ANGLE BRACKET;0Re r ANGLE BRACKET
0p CORNER BRACKET;0Re CORNER BRACKET;0p WHITE CORNER BRACKET;0Re WHITE CORNER BRACKET
0p BLACK LENTICULAR BRACKET;0Re BLACK LENTICULAR BRACKET;0POSTAL MARK;0GETA MARK
0p TORTOISE SHELL BRACKET;0Re TORTOISE SHELL BRACKET;0p WHITE LENTICULAR BRACKET
0Re WHITE LENTICULAR BRACKET;0p WHITE TORTOISE SHELL BRACKET;0Re WHITE TORTOISE SHELL BRACKET
0p WHITE SQUARE BRACKET;0Re WHITE SQUARE BRACKET;0WAVE DASH;0REVERSED r PRIME QUOTAw MARK
0r PRIME QUOTAw MARK;0LOW r PRIME QUOTAw MARK;0POSTAL MARK FACE;0HANGZHOU NUMERAL ONE;2TWO;2THREE
2FOUR;2FIVE;2SIX;2SEVEN;2Ee;2NINE;0IDEOGRAPHIC LEVEL TONE MARK;1RISqTONE MARK;1DEPARTqTONE MARK
1ENTERqTONE MARK;0HANGUL SINGLE DOT TONE MARK;1r DOT TONE MARK;0WAVY DASH;0s KANA REPEAT MARK
3WITH VOICED SOUND MARK;3MARK UPPER HALF;3WITH VOICED SOUND MARK UPPER HALF;3MARK LOWER HALF
0CIRCLED POSTAL MARK;0IDEOGRAPHIC TELEGRAPH LINE FEED SEPARATOR u;0HANGZHOU NUMERAL TEN;2TWENTY
2THIRTY;0s IDEOGRAPHIC ITERAw MARK;0MASU MARK;0PART ALTERNAw MARK;0IDEOGRAPHIC VARIAw INDICATOR
1HALF FILL SPACE;+3041;0HIRAGANA mhL A;2A;2hL I;2I;2hL U;2U;2hL E;2E;2hL O;2O;2KA;2GA;2KI;2GI;2KU
2GU;2KE;2GE;2KO;2GO;2SA;2ZA;2SI;2ZI;2SU;2ZU;2SE;2ZE;2SO;2ZO;2TA;2DA;2TI;2DI;2hL TU;2TU;2DU;2TE;2DE
2TO;2DO;2NA;2NI;2NU;2NE;2NO;2HA;2BA;2PA;2HI;2BI;2PI;2HU;2BU;2PU;2HE;2BE;2PE;2HO;2BO;2PO;2MA;2MI;2MU
2ME;2MO;2hL YA;2YA;2hL YU;2YU;2hL YO;2YO;2RA;2RI;2RU;2RE;2RO;2hL WA;2WA;2WI;2WE;2WO;2N;2VU;2hL KA
3KE;+3099;0COMBINqKATAKANA-HIRAGANA VOICED SOUND MARK;2SEMI-VOICED SOUND MARK
0KATAKANA-HIRAGANA VOICED SOUND MARK;1SEMI-VOICED SOUND MARK;0HIRAGANA ITERAw MARK
1VOICED ITERAw MARK;1DIGRAPH YORI;0KATAKANA-HIRAGANA r HYPHEN;0KATAKANA mhL A;2A;2hL I;2I;2hL U;2U
2hL E;2E;2hL O;2O;2KA;2GA;2KI;2GI;2KU;2GU;2KE;2GE;2KO;2GO;2SA;2ZA;2SI;2ZI;2SU;2ZU;2SE;2ZE;2SO;2ZO
2TA;2DA;2TI;2DI;2hL TU;2TU;2DU;2TE;2DE;2TO;2DO;2NA;2NI;2NU;2NE;2NO;2HA;2BA;2PA;2HI;2BI;2PI;2HU;2BU
2PU;2HE;2BE;2PE;2HO;2BO;2PO;2MA;2MI;2MU;2ME;2MO;2hL YA;2YA;2hL YU;2YU;2hL YO;2YO;2RA;2RI;2RU;2RE;2RO
2hL WA;2WA;2WI;2WE;2WO;2N;2VU;2hL KA;3KE;2VA;2VI;2VE;2VO;1MIDDLE DOT
0KATAKANA-HIRAGANA PROLONGED SOUND MARK;0KATAKANA ITERAw MARK;1VOICED ITERAw MARK;1DIGRAPH KOTO
+3105;0BOPOMOFO mB;2P;2M;2F;2D;2T;2N;2L;2G;2K;2H;2J;2Q;2X;2ZH;2CH;2SH;2R;2Z;2C;2S;2A;2O;2E;2EH;2AI
2EI;2AU;2OU;2AN;2EN;2ANG;2ENG;2ER;2I;2U;2IU;2V;2NG;2GN;2IH;2ObDOTj;2NN;+3131;0HANGUaKIYEOK
2SSANGKIYEOK;2KIYEOK-SIOS;2NIEUN;2NIEUN-CIEUC;2NIEUN-HIEUH;2TIKEUT;2SSANGTIKEUT;2RIEUL;2RIEUL-KIYEOK
2RIEUL-MIEUM;2RIEUL-PIEUP;2RIEUL-SIOS;2RIEUL-THIEUTH;2RIEUL-PHIEUPH;2RIEUL-HIEUH;2MIEUM;2PIEUP
2SSANGPIEUP;2PIEUP-SIOS;2SIOS;2SSANGSIOS;2IEUNG;2CIEUC;2SSANGCIEUC;2CHIEUCH;2KHIEUKH;2THIEUTH
2PHIEUPH;2HIEUH;2A;2AE;2YA;2YAE;2EO;2E;2YEO;2YE;2O;2WA;2WAE;2OE;2YO;2U;2WEO;2WE;2WI;2YU;2EU;2YI;2I
1FILLER;1mSSANGNIEUN;2NIEUN-TIKEUT;2NIEUN-SIOS;2NIEUN-PANSIOS;2RIEUL-KIYEOK-SIOS;2RIEUL-TIKEUT
2RIEUL-PIEUP-SIOS;2RIEUL-PANSIOS;2RIEUL-YEORINHIEUH;2MIEUM-PIEUP;2MIEUM-SIOS;2MIEUM-PANSIOS
2KAPYEOUNMIEUM;2PIEUP-KIYEOK;2PIEUP-TIKEUT;2PIEUP-SIOS-KIYEOK;2PIEUP-SIOS-TIKEUT;2PIEUP-CIEUC
2PIEUP-THIEUTH;2KAPYEOUNPIEUP;2KAPYEOUNSSANGPIEUP;2SIOS-KIYEOK;2SIOS-NIEUN;2SIOS-TIKEUT;2SIOS-PIEUP
2SIOS-CIEUC;2PANSIOS;2SSANGIEUNG;2YESIEUNG;2YESIEUNG-SIOS;2YESIEUNG-PANSIOS;2KAPYEOUNPHIEUPH
2SSANGHIEUH;2YEORINHIEUH;2YO-YA;2YO-YAE;2YO-I;2YU-YEO;2YU-YE;2YU-I;2ARAEA;2ARAEAE;+3190
0IDEOGRAPHIC ANNOTAw LINKqMARK;2REVERSE MARK;2ONE MARK;2TWO MARK;2THREE MARK;2FOUR MARK;2TOP MARK
2MIDDLE MARK;2BOTTOM MARK;2FIRST MARK;2SECOND MARK;2THIRD MARK;2FOURTH MARK;2HEAVEN MARK;2EARTH MARK
2MAN MARK;0BOPOMOFO mBU;2ZI;2JI;2GU;2EE;2ENN;2OO;2ONN;2IR;2ANN;2INN;2UNN;2IM;2NGG;2AINN;2AUNN;2AM
2OM;2ONG;2INNN;1FINAaP;3T;3K;3H;1mGH;2LH;2ZY;1FINAaG;1mGW;2KW;2OE;2AH;0CJK STROKE T;2WG;2XG;2BXG;2SW
2HZZ;2HZG;2HP;2HZWG;2SZWG;2HZT;2HZZP;2HPWG;2HZW;2HZZZ;2N;2H;2S;2P;2SP;2D;2HZ;2HG;2SZ;2SWZ;2ST;2SG
2PD;2PZ;2TN;2SZZ;2SWG;2HXWG;2HZZZG;2PG;2Q;+31F0;0KATAKANA mhL KU;3SI;3SU;3TO;3NU;3HA;3HI;3HU;3HE;3HO
3MU;3RA;3RI;3RU;3RE;3RO;0PARENTHESIZED HANGUL KIYEOK;2NIEUN;2TIKEUT;2RIEUL;2MIEUM;2PIEUP;2SIOS
2IEUNG;2CIEUC;2CHIEUCH;2KHIEUKH;2THIEUTH;2PHIEUPH;2HIEUH;2KIYEOK A;2NIEUN A;2TIKEUT A;2RIEUL A
2MIEUM A;2PIEUP A;2SIOS A;2IEUNG A;2CIEUC A;2CHIEUCH A;2KHIEUKH A;2THIEUTH A;2PHIEUPH A;2HIEUH A
2CIEUC U;1KOREAN CHARACTER OJEON;3O HU;+3220;1IDEOGRAPH ONE;2TWO;2THREE;2FOUR;2FIVE;2SIX;2SEVEN;2Ee
2NINE;2TEN;2MOON;2FIRE;2WATER;2WOOD;2METAL;2EARTH;2SUN;2STOCK;2HAVE;2SOCIETY;2NAME;2SPECIAL
2FINANCIAL;2CONGRATULAw;2LABOR;2REPRESENT;2CALL;2STUDY;2SUPERVISE;2ENTERPRISE;2RESOURCE;2ALLIANCE
2FESTIVAL;2REST;2SELF;2REACH;0CIRCLED IDEOGRAPH QUESw;2KINDERGARTEN;2SCHOOL;2KOTO
1NUMBER TEN ON BLACK SQUARE;2TWENTY ON BLACK SQUARE;2THIRTY ON BLACK SQUARE;2FORTY ON BLACK SQUARE
2FIFTY ON BLACK SQUARE;2SIXTY ON BLACK SQUARE;2SEVENTY ON BLACK SQUARE;2EeY ON BLACK SQUARE
0PARTNERSHIPn;0CIRCLED NUMBER TWENTY ONE;3TWO;3THREE;3FOUR;3FIVE;3SIX;3SEVEN;3Ee;3NINE;2THIRTY;3ONE
3TWO;3THREE;3FOUR;3FIVE;1HANGUL KIYEOK;2NIEUN;2TIKEUT;2RIEUL;2MIEUM;2PIEUP;2SIOS;2IEUNG;2CIEUC
2CHIEUCH;2KHIEUKH;2THIEUTH;2PHIEUPH;2HIEUH;2KIYEOK A;2NIEUN A;2TIKEUT A;2RIEUL A;2MIEUM A;2PIEUP A
2SIOS A;2IEUNG A;2CIEUC A;2CHIEUCH A;2KHIEUKH A;2THIEUTH A;2PHIEUPH A;2HIEUH A
1KOREAN CHARACTER CHAMKO;3JUEUI;1HANGUL IEUNG U;0KOREAN STANDARD u;0CIRCLED IDEOGRAPH ONE;2TWO
2THREE;2FOUR;2FIVE;2SIX;2SEVEN;2Ee;2NINE;2TEN;2MOON;2FIRE;2WATER;2WOOD;2METAL;2EARTH;2SUN;2STOCK
2HAVE;2SOCIETY;2NAME;2SPECIAL;2FINANCIAL;2CONGRATULAw;2LABOR;2SECRET;2MALE;2FEMALE;2SUITABLE
2EXCELLENT;2PRINT;2ATTENw;2ITEM;2REST;2COPY;2CORRECT;2HIGH;2CENTRE;2LOW;2p;2Re;2MEDICINE;2RELIGION
2STUDY;2SUPERVISE;2ENTERPRISE;2RESOURCE;2ALLIANCE;2Ne;1NUMBER THIRTY SIX;3SEVEN;3Ee;3NINE;2FORTY
3ONE;3TWO;3THREE;3FOUR;3FIVE;3SIX;3SEVEN;3Ee;3NINE;2FIFTY;0IDEOGRAPHIC TELEGRAPH u FOR JANUARY
4FEBRUARY;4MARCH;4APRIL;4MAY;4JUNE;4JULY;4AUGUST;4SEPTEMBER;4OCTOBER;4NOVEMBER;4DECEMBER;0SQUARE HG
1ERG;1EV;0LIMITED LIABILITYn;0CIRCLED KATAKANA A;2I;2U;2E;2O;2KA;2KI;2KU;2KE;2KO;2SA;2SI;2SU;2SE;2SO
2TA;2TI;2TU;2TE;2TO;2NA;2NI;2NU;2NE;2NO;2HA;2HI;2HU;2HE;2HO;2MA;2MI;2MU;2ME;2MO;2YA;2YU;2YO;2RA;2RI
2RU;2RE;2RO;2WA;2WI;2WE;2WO;0SQUARE ERA NAME REIWA;1APAATO;1ARUHUA;1ANPEA;1AARU;1ININGU;1INTI;1UON
1ESUKUUDO;1EEKAA;1ONSU;1OOMU;1KAIRI;1KARATTO;1KARORII;1GARON;1GANMA;1GIGA;1GINII;1KYURII;1GIRUDAA
1KIRO;1KIROGURAMU;1KIROMEETORU;1KIROWATTO;1GURAMU;1GURAMUTON;1KURUZEIRO;1KUROONE;1KEESU;1KORUNA
1KOOPO;1SAIKURU;1SANTIIMU;1SIRINGU;1SENTI;1SENTO;1DAASU;1DESI;1DORU;1TON;1NANO;1NOTTO;1HAITU
1PAASENTO;1PAATU;1BAARERU;1PIASUTORU;1PIKURU;1PIKO;1BIRU;1HUARADDO;1HUIITO;1BUSSYERU;1HURAN
1HEKUTAARU;1PESO;1PENIHI;1HERUTU;1PENSU;1PEEZI;1BEETA;1POINTO;1BORUTO;1HON;1PONDO;1HOORU;1HOON
1MAIKURO;1MAIRU;1MAHHA;1MARUKU;1MANSYON;1MIKURON;1MIRI;1MIRIBAARU;1MEGA;1MEGATON;1MEETORU;1YAADO
1YAARU;1YUAN;1RITTORU;1RIRA;1RUPII;1RUUBURU;1REMU;1RENTOGEN;1WATTO
0IDEOGRAPHIC TELEGRAPH u FOR HOUR ZERO;5ONE;5TWO;5THREE;5FOUR;5FIVE;5SIX;5SEVEN;5Ee;5NINE;5TEN
5ELEVEN;5TWELVE;5THIRTEEN;5FOURTEEN;5FIFTEEN;5SIXTEEN;5SEVENTEEN;5EeEEN;5NINETEEN;5TWENTY
5TWENTY-ONE;5TWENTY-TWO;5TWENTY-THREE;5TWENTY-FOUR;0SQUARE HPA;1DA;1AU;1BAR;1OV;1PC;1DM;2SQUARED
2CUBED;1IU;1ERA NAME HEISEI;3SYOUWA;3TAISYOU;3MEIZI;1CORPORAw;1PA AMPS;1NA;1MU A;1MA;1KA;1KB;1MB;1GB
1CAL;1KCAL;1PF;1NF;1MU F;2G;1MG;1KG;1HZ;1KHZ;1MHZ;1GHZ;1THZ;1MU L;1ML;1DL;1KL;1FM;1NM;1MU M;1MM;1CM
1KM;1MM SQUARED;1CM SQUARED;1M SQUARED;1KM SQUARED;1MM CUBED;1CM CUBED;1M CUBED;1KM CUBED;1M OVER S
4SQUARED;1PA;1KPA;1MPA;1GPA;1RAD;2OVER S;4SQUARED;1PS;1NS;1MU S;1MS;1PV;1NV;1MU V;1MV;1KV;1MV MEGA
1PW;1NW;1MU W;1MW;1KW;1MW MEGA;1K OHM;1M OHM;1AM;1BQ;1CC;1CD;1C OVER KG;1CO;1DB;1GY;1HA;1HP;1IN;1KK
1KM dL;1KT;1LM;1LN;1LOG;1LX;1MB hL;1MIL;1MOL;1PH;1PM;1PPM;1PR;1SR;1SV;1WB;1V OVER M;1A OVER M
0IDEOGRAPHIC TELEGRAPH u FOR DAY ONE;5TWO;5THREE;5FOUR;5FIVE;5SIX;5SEVEN;5Ee;5NINE;5TEN;5ELEVEN
5TWELVE;5THIRTEEN;5FOURTEEN;5FIFTEEN;5SIXTEEN;5SEVENTEEN;5EeEEN;5NINETEEN;5TWENTY;5TWENTY-ONE
5TWENTY-TWO;5TWENTY-THREE;5TWENTY-FOUR;5TWENTY-FIVE;5TWENTY-SIX;5TWENTY-SEVEN;5TWENTY-Ee
5TWENTY-NINE;5THIRTY;5THIRTY-ONE;0SQUARE GAL;+4DC0;0HEXAGRAM FOR THE CREATIVE HEAVEN
3RECEPTIVE EARTH;2DIFFICULTY AT THE BEGINNING;2YOUTHFUL FOLLY;2WAITING;2CONFLICT;2THE ARMY
2HOLDqTOGETHER;2hL TAMING;2TREADING;2PEACE;2STANDSTILL;2FELLOWSHIP;2GREAT POSSESSION;2MODESTY
2ENTHUSIASM;2FOLLOWING;2WORK ON THE DECAYED;2APPROACH;2CONTEMPLAw;2BITqTHROUGH;2GRACE;2SPLITTqAPART
2RETURN;2INNOCENCE;2GREAT TAMING;2MOUTH CORNERS;2GREAT PREPONDERANCE;2THE ABYh WATER;3CLINGqFIRE
2INFLUENCE;2DURAw;2RETREAT;2GREAT POWER;2PROGRESS;2DARKENqOF THE Le;2THE FAMILY;2OPPOSIw;2OBSTRUCw
2DELIVERANCE;2DECREASE;2INCREASE;2BREAKTHROUGH;2COMqTO MEET;2GATHERqTOGETHER;2PUSHqUPWARD
2OPPRESSION;2THE WELL;2REVOLUw;2THE CAULDRON;3AROUSqTHUNDER;3KEEPqSTILL MOUNTAIN;2DEVELOPMENT
2THE MARRYqMAIDEN;2ABUNDANCE;2THE WANDERER;3GENTLE WIND;3JOYOUS LAKE;2DISPERSION;2LIMITAw
2INNER TRUTH;2hL PREPONDERANCE;2AFTER COMPLEw;2BEFORE COMPLEw;+A000;0YI SYLLABLE IT;2IX;2I;2IP;2IET
2IEX;2IE;2IEP;2AT;2AX;2A;2AP;2UOX;2UO;2UOP;2OT;2OX;2O;2OP;2EX;2E;2WU;2BIT;2BIX;2BI;2BIP;2BIET;2BIEX
2BIE;2BIEP;2BAT;2BAX;2BA;2BAP;2BUOX;2BUO;2BUOP;2BOT;2BOX;2BO;2BOP;2BEX;2BE;2BEP;2BUT;2BUX;2BU;2BUP
2BURX;2BUR;2BYT;2BYX;2BY;2BYP;2BYRX;2BYR;2PIT;2PIX;2PI;2PIP;2PIEX;2PIE;2PIEP;2PAT;2PAX;2PA;2PAP
2PUOX;2PUO;2PUOP;2POT;2POX;2PO;2POP;2PUT;2PUX;2PU;2PUP;2PURX;2PUR;2PYT;2PYX;2PY;2PYP;2PYRX;2PYR
2BBIT;2BBIX;2BBI;2BBIP;2BBIET;2BBIEX;2BBIE;2BBIEP;2BBAT;2BBAX;2BBA;2BBAP;2BBUOX;2BBUO;2BBUOP;2BBOT
2BBOX;2BBO;2BBOP;2BBEX;2BBE;2BBEP;2BBUT;2BBUX;2BBU;2BBUP;2BBURX;2BBUR;2BBYT;2BBYX;2BBY;2BBYP;2NBIT
2NBIX;2NBI;2NBIP;2NBIEX;2NBIE;2NBIEP;2NBAT;2NBAX;2NBA;2NBAP;2NBOT;2NBOX;2NBO;2NBOP;2NBUT;2NBUX;2NBU
2NBUP;2NBURX;2NBUR;2NBYT;2NBYX;2NBY;2NBYP;2NBYRX;2NBYR;2HMIT;2HMIX;2HMI;2HMIP;2HMIEX;2HMIE;2HMIEP
2HMAT;2HMAX;2HMA;2HMAP;2HMUOX;2HMUO;2HMUOP;2HMOT;2HMOX;2HMO;2HMOP;2HMUT;2HMUX;2HMU;2HMUP;2HMURX
2HMUR;2HMYX;2HMY;2HMYP;2HMYRX;2HMYR;2MIT;2MIX;2MI;2MIP;2MIEX;2MIE;2MIEP;2MAT;2MAX;2MA;2MAP;2MUOT
2MUOX;2MUO;2MUOP;2MOT;2MOX;2MO;2MOP;2MEX;2ME;2MUT;2MUX;2MU;2MUP;2MURX;2MUR;2MYT;2MYX;2MY;2MYP;2FIT
2FIX;2FI;2FIP;2FAT;2FAX;2FA;2FAP;2FOX;2FO;2FOP;2FUT;2FUX;2FU;2FUP;2FURX;2FUR;2FYT;2FYX;2FY;2FYP;2VIT
2VIX;2VI;2VIP;2VIET;2VIEX;2VIE;2VIEP;2VAT;2VAX;2VA;2VAP;2VOT;2VOX;2VO;2VOP;2VEX;2VEP;2VUT;2VUX;2VU
2VUP;2VURX;2VUR;2VYT;2VYX;2VY;2VYP;2VYRX;2VYR;2DIT;2DIX;2DI;2DIP;2DIEX;2DIE;2DIEP;2DAT;2DAX;2DA;2DAP
2DUOX;2DUO;2DOT;2DOX;2DO;2DOP;2DEX;2DE;2DEP;2DUT;2DUX;2DU;2DUP;2DURX;2DUR;2TIT;2TIX;2TI;2TIP;2TIEX
2TIE;2TIEP;2TAT;2TAX;2TA;2TAP;2TUOT;2TUOX;2TUO;2TUOP;2TOT;2TOX;2TO;2TOP;2TEX;2TE;2TEP;2TUT;2TUX;2TU
2TUP;2TURX;2TUR;2DDIT;2DDIX;2DDI;2DDIP;2DDIEX;2DDIE;2DDIEP;2DDAT;2DDAX;2DDA;2DDAP;2DDUOX;2DDUO
2DDUOP;2DDOT;2DDOX;2DDO;2DDOP;2DDEX;2DDE;2DDEP;2DDUT;2DDUX;2DDU;2DDUP;2DDURX;2DDUR;2NDIT;2NDIX;2NDI
2NDIP;2NDIEX;2NDIE;2NDAT;2NDAX;2NDA;2NDAP;2NDOT;2NDOX;2NDO;2NDOP;2NDEX;2NDE;2NDEP;2NDUT;2NDUX;2NDU
2NDUP;2NDURX;2NDUR;2HNIT;2HNIX;2HNI;2HNIP;2HNIET;2HNIEX;2HNIE;2HNIEP;2HNAT;2HNAX;2HNA;2HNAP;2HNUOX
2HNUO;2HNOT;2HNOX;2HNOP;2HNEX;2HNE;2HNEP;2HNUT;2NIT;2NIX;2NI;2NIP;2NIEX;2NIE;2NIEP;2NAX;2NA;2NAP
2NUOX;2NUO;2NUOP;2NOT;2NOX;2NO;2NOP;2NEX;2NE;2NEP;2NUT;2NUX;2NU;2NUP;2NURX;2NUR;2HLIT;2HLIX;2HLI
2HLIP;2HLIEX;2HLIE;2HLIEP;2HLAT;2HLAX;2HLA;2HLAP;2HLUOX;2HLUO;2HLUOP;2HLOX;2HLO;2HLOP;2HLEX;2HLE
2HLEP;2HLUT;2HLUX;2HLU;2HLUP;2HLURX;2HLUR;2HLYT;2HLYX;2HLY;2HLYP;2HLYRX;2HLYR;2LIT;2LIX;2LI;2LIP
2LIET;2LIEX;2LIE;2LIEP;2LAT;2LAX;2LA;2LAP;2LUOT;2LUOX;2LUO;2LUOP;2LOT;2LOX;2LO;2LOP;2LEX;2LE;2LEP
2LUT;2LUX;2LU;2LUP;2LURX;2LUR;2LYT;2LYX;2LY;2LYP;2LYRX;2LYR;2GIT;2GIX;2GI;2GIP;2GIET;2GIEX;2GIE
2GIEP;2GAT;2GAX;2GA;2GAP;2GUOT;2GUOX;2GUO;2GUOP;2GOT;2GOX;2GO;2GOP;2GET;2GEX;2GE;2GEP;2GUT;2GUX;2GU
2GUP;2GURX;2GUR;2KIT;2KIX;2KI;2KIP;2KIEX;2KIE;2KIEP;2KAT;2KAX;2KA;2KAP;2KUOX;2KUO;2KUOP;2KOT;2KOX
2KO;2KOP;2KET;2KEX;2KE;2KEP;2KUT;2KUX;2KU;2KUP;2KURX;2KUR;2GGIT;2GGIX;2GGI;2GGIEX;2GGIE;2GGIEP;2GGAT
2GGAX;2GGA;2GGAP;2GGUOT;2GGUOX;2GGUO;2GGUOP;2GGOT;2GGOX;2GGO;2GGOP;2GGET;2GGEX;2GGE;2GGEP;2GGUT
2GGUX;2GGU;2GGUP;2GGURX;2GGUR;2MGIEX;2MGIE;2MGAT;2MGAX;2MGA;2MGAP;2MGUOX;2MGUO;2MGUOP;2MGOT;2MGOX
2MGO;2MGOP;2MGEX;2MGE;2MGEP;2MGUT;2MGUX;2MGU;2MGUP;2MGURX;2MGUR;2HXIT;2HXIX;2HXI;2HXIP;2HXIET;2HXIEX
2HXIE;2HXIEP;2HXAT;2HXAX;2HXA;2HXAP;2HXUOT;2HXUOX;2HXUO;2HXUOP;2HXOT;2HXOX;2HXO;2HXOP;2HXEX;2HXE
2HXEP;2NGIEX;2NGIE;2NGIEP;2NGAT;2NGAX;2NGA;2NGAP;2NGUOT;2NGUOX;2NGUO;2NGOT;2NGOX;2NGO;2NGOP;2NGEX
2NGE;2NGEP;2HIT;2HIEX;2HIE;2HAT;2HAX;2HA;2HAP;2HUOT;2HUOX;2HUO;2HUOP;2HOT;2HOX;2HO;2HOP;2HEX;2HE
2HEP;2WAT;2WAX;2WA;2WAP;2WUOX;2WUO;2WUOP;2WOX;2WO;2WOP;2WEX;2WE;2WEP;2ZIT;2ZIX;2ZI;2ZIP;2ZIEX;2ZIE
2ZIEP;2ZAT;2ZAX;2ZA;2ZAP;2ZUOX;2ZUO;2ZUOP;2ZOT;2ZOX;2ZO;2ZOP;2ZEX;2ZE;2ZEP;2ZUT;2ZUX;2ZU;2ZUP;2ZURX
2ZUR;2ZYT;2ZYX;2ZY;2ZYP;2ZYRX;2ZYR;2CIT;2CIX;2CI;2CIP;2CIET;2CIEX;2CIE;2CIEP;2CAT;2CAX;2CA;2CAP
2CUOX;2CUO;2CUOP;2COT;2COX;2CO;2COP;2CEX;2CE;2CEP;2CUT;2CUX;2CU;2CUP;2CURX;2CUR;2CYT;2CYX;2CY;2CYP
2CYRX;2CYR;2ZZIT;2ZZIX;2ZZI;2ZZIP;2ZZIET;2ZZIEX;2ZZIE;2ZZIEP;2ZZAT;2ZZAX;2ZZA;2ZZAP;2ZZOX;2ZZO;2ZZOP
2ZZEX;2ZZE;2ZZEP;2ZZUX;2ZZU;2ZZUP;2ZZURX;2ZZUR;2ZZYT;2ZZYX;2ZZY;2ZZYP;2ZZYRX;2ZZYR;2NZIT;2NZIX;2NZI
2NZIP;2NZIEX;2NZIE;2NZIEP;2NZAT;2NZAX;2NZA;2NZAP;2NZUOX;2NZUO;2NZOX;2NZOP;2NZEX;2NZE;2NZUX;2NZU
2NZUP;2NZURX;2NZUR;2NZYT;2NZYX;2NZY;2NZYP;2NZYRX;2NZYR;2SIT;2SIX;2SI;2SIP;2SIEX;2SIE;2SIEP;2SAT;2SAX
2SA;2SAP;2SUOX;2SUO;2SUOP;2SOT;2SOX;2SO;2SOP;2SEX;2SE;2SEP;2SUT;2SUX;2SU;2SUP;2SURX;2SUR;2SYT;2SYX
2SY;2SYP;2SYRX;2SYR;2SSIT;2SSIX;2SSI;2SSIP;2SSIEX;2SSIE;2SSIEP;2SSAT;2SSAX;2SSA;2SSAP;2SSOT;2SSOX
2SSO;2SSOP;2SSEX;2SSE;2SSEP;2SSUT;2SSUX;2SSU;2SSUP;2SSYT;2SSYX;2SSY;2SSYP;2SSYRX;2SSYR;2ZHAT;2ZHAX
2ZHA;2ZHAP;2ZHUOX;2ZHUO;2ZHUOP;2ZHOT;2ZHOX;2ZHO;2ZHOP;2ZHET;2ZHEX;2ZHE;2ZHEP;2ZHUT;2ZHUX;2ZHU;2ZHUP
2ZHURX;2ZHUR;2ZHYT;2ZHYX;2ZHY;2ZHYP;2ZHYRX;2ZHYR;2CHAT;2CHAX;2CHA;2CHAP;2CHUOT;2CHUOX;2CHUO;2CHUOP
2CHOT;2CHOX;2CHO;2CHOP;2CHET;2CHEX;2CHE;2CHEP;2CHUX;2CHU;2CHUP;2CHURX;2CHUR;2CHYT;2CHYX;2CHY;2CHYP
2CHYRX;2CHYR;2RRAX;2RRA;2RRUOX;2RRUO;2RROT;2RROX;2RRO;2RROP;2RRET;2RREX;2RRE;2RREP;2RRUT;2RRUX;2RRU
2RRUP;2RRURX;2RRUR;2RRYT;2RRYX;2RRY;2RRYP;2RRYRX;2RRYR;2NRAT;2NRAX;2NRA;2NRAP;2NROX;2NRO;2NROP;2NRET
2NREX;2NRE;2NREP;2NRUT;2NRUX;2NRU;2NRUP;2NRURX;2NRUR;2NRYT;2NRYX;2NRY;2NRYP;2NRYRX;2NRYR;2SHAT;2SHAX
2SHA;2SHAP;2SHUOX;2SHUO;2SHUOP;2SHOT;2SHOX;2SHO;2SHOP;2SHET;2SHEX;2SHE;2SHEP;2SHUT;2SHUX;2SHU;2SHUP
2SHURX;2SHUR;2SHYT;2SHYX;2SHY;2SHYP;2SHYRX;2SHYR;2RAT;2RAX;2RA;2RAP;2RUOX;2RUO;2RUOP;2ROT;2ROX;2RO
2ROP;2REX;2RE;2REP;2RUT;2RUX;2RU;2RUP;2RURX;2RUR;2RYT;2RYX;2RY;2RYP;2RYRX;2RYR;2JIT;2JIX;2JI;2JIP
2JIET;2JIEX;2JIE;2JIEP;2JUOT;2JUOX;2JUO;2JUOP;2JOT;2JOX;2JO;2JOP;2JUT;2JUX;2JU;2JUP;2JURX;2JUR;2JYT
2JYX;2JY;2JYP;2JYRX;2JYR;2QIT;2QIX;2QI;2QIP;2QIET;2QIEX;2QIE;2QIEP;2QUOT;2QUOX;2QUO;2QUOP;2QOT;2QOX
2QO;2QOP;2QUT;2QUX;2QU;2QUP;2QURX;2QUR;2QYT;2QYX;2QY;2QYP;2QYRX;2QYR;2JJIT;2JJIX;2JJI;2JJIP;2JJIET
2JJIEX;2JJIE;2JJIEP;2JJUOX;2JJUO;2JJUOP;2JJOT;2JJOX;2JJO;2JJOP;2JJUT;2JJUX;2JJU;2JJUP;2JJURX;2JJUR
2JJYT;2JJYX;2JJY;2JJYP;2NJIT;2NJIX;2NJI;2NJIP;2NJIET;2NJIEX;2NJIE;2NJIEP;2NJUOX;2NJUO;2NJOT;2NJOX
2NJO;2NJOP;2NJUX;2NJU;2NJUP;2NJURX;2NJUR;2NJYT;2NJYX;2NJY;2NJYP;2NJYRX;2NJYR;2NYIT;2NYIX;2NYI;2NYIP
2NYIET;2NYIEX;2NYIE;2NYIEP;2NYUOX;2NYUO;2NYUOP;2NYOT;2NYOX;2NYO;2NYOP;2NYUT;2NYUX;2NYU;2NYUP;2XIT
2XIX;2XI;2XIP;2XIET;2XIEX;2XIE;2XIEP;2XUOX;2XUO;2XOT;2XOX;2XO;2XOP;2XYT;2XYX;2XY;2XYP;2XYRX;2XYR
2YIT;2YIX;2YI;2YIP;2YIET;2YIEX;2YIE;2YIEP;2YUOT;2YUOX;2YUO;2YUOP;2YOT;2YOX;2YO;2YOP;2YUT;2YUX;2YU
2YUP;2YURX;2YUR;2YYT;2YYX;2YY;2YYP;2YYRX;2YYR;+A490;1RADICAL QOT;2LI;2KIT;2NYIP;2CYP;2SSI;2GGOP;2GEP
2MI;2HXIT;2LYR;2BBUT;2MOP;2YO;2PUT;2HXUO;2TAT;2GA;2ZUP;2CYT;2DDUR;2BUR;2GGUO;2NYOP;2TU;2OP;2JJUT
2ZOT;2PYT;2HMO;2YIT;2VUR;2SHY;2VEP;2ZA;2JO;2NZUP;2JJY;2GOT;2JJIE;2WO;2DU;2SHUR;2LIE;2CY;2CUOP;2CIP
2HXOP;2SHAT;2ZUR;2SHOP;2CHE;2ZZIET;2NBIE;2KE;+A4D0;0LISU mBA;2PA;2PHA;2DA;2TA;2THA;2GA;2KA;2KHA;2JA
2CA;2CHA;2DZA;2TSA;2TSHA;2MA;2NA;2LA;2SA;2ZHA;2ZA;2NGA;2HA;2XA;2HHA;2FA;2WA;2SHA;2YA;2GHA;2A;2AE;2E
2EU;2I;2O;2U;2UE;2UH;2OE;2TONE MYA TI;3NA PO;3MYA CYA;4BO;4NA;4JEU;1PUNCTUAw COMMA;2FULL STOP
0VAI SYLLABLE EE;2EEN;2HEE;2WEE;2WEEN;2PEE;2BHEE;2BEE;2MBEE;2KPEE;2MGBEE;2GBEE;2FEE;2VEE;2TEE;2THEE
2DHEE;2DHHEE;2LEE;2REE;2DEE;2NDEE;2SEE;2SHEE;2ZEE;2ZHEE;2CEE;2JEE;2NJEE;2YEE;2KEE;2NGGEE;2GEE;2MEE
2NEE;2NYEE;2I;2IN;2HI;2HIN;2WI;2WIN;2PI;2BHI;2BI;2MBI;2KPI;2MGBI;2GBI;2FI;2VI;2TI;2THI;2DHI;2DHHI
2LI;2RI;2DI;2NDI;2SI;2SHI;2ZI;2ZHI;2CI;2JI;2NJI;2YI;2KI;2NGGI;2GI;2MI;2NI;2NYI;2A;2AN;2NGAN;2HA;2HAN
2WA;2WAN;2PA;2BHA;2BA;2MBA;2KPA;2KPAN;2MGBA;2GBA;2FA;2VA;2TA;2THA;2DHA;2DHHA;2LA;2RA;2DA;2NDA;2SA
2SHA;2ZA;2ZHA;2CA;2JA;2NJA;2YA;2KA;2KAN;2NGGA;2GA;2MA;2NA;2NYA;2OO;2OON;2HOO;2WOO;2WOON;2POO;2BHOO
2BOO;2MBOO;2KPOO;2MGBOO;2GBOO;2FOO;2VOO;2TOO;2THOO;2DHOO;2DHHOO;2LOO;2ROO;2DOO;2NDOO;2SOO;2SHOO;2ZOO
2ZHOO;2COO;2JOO;2NJOO;2YOO;2KOO;2NGGOO;2GOO;2MOO;2NOO;2NYOO;2U;2UN;2HU;2HUN;2WU;2WUN;2PU;2BHU;2BU
2MBU;2KPU;2MGBU;2GBU;2FU;2VU;2TU;2THU;2DHU;2DHHU;2LU;2RU;2DU;2NDU;2SU;2SHU;2ZU;2ZHU;2CU;2JU;2NJU;2YU
2KU;2NGGU;2GU;2MU;2NU;2NYU;2O;2ON;2NGON;2HO;2HON;2WO;2WON;2PO;2BHO;2BO;2MBO;2KPO;2MGBO;2GBO;2GBON
2FO;2VO;2TO;2THO;2DHO;2DHHO;2LO;2RO;2DO;2NDO;2SO;2SHO;2ZO;2ZHO;2CO;2JO;2NJO;2YO;2KO;2NGGO;2GO;2MO
2NO;2NYO;2E;2EN;2NGEN;2HE;2HEN;2WE;2WEN;2PE;2BHE;2BE;2MBE;2KPE;2KPEN;2MGBE;2GBE;2GBEN;2FE;2VE;2TE
2THE;2DHE;2DHHE;2LE;2RE;2DE;2NDE;2SE;2SHE;2ZE;2ZHE;2CE;2JE;2NJE;2YE;2KE;2NGGE;2NGGEN;2GE;2GEN;2ME
2NE;2NYE;2NG;2LENGTHENER;1COMMA;1FULL STOP;1QUESw MARK;1SYLLABLE NDOLE FA;3KA;3SOO;1u FEENG;2KEENG
2TING;2NII;2BANG;2FAA;2TAA;2DANG;2DOONG;2KUNG;2TONG;2DO-O;2JONG;1DIGIT ZERO;2ONE;2TWO;2THREE;2FOUR
2FIVE;2SIX;2SEVEN;2Ee;2NINE;1SYLLABLE NDOLE MA;3DO;+A640;0CYRILLIC daZEMLYA;1haZEMLYA;1daDZELO
1haDZELO;1daREVERSED DZE;1haREVERSED DZE;1daIOTA;1haIOTA;1daDJERV;1haDJERV;1daMONOGRAPH UK
1haMONOGRAPH UK;1daBROAD OMEGA;1haBROAD OMEGA;1daNEUTRAL YER;1haNEUTRAL YER;1daYERUbBACK YER
1haYERUbBACK YER;1daIOTIFIED YAT;1haIOTIFIED YAT;1daREVERSED YU;1haREVERSED YU;1daIOTIFIED A
1haIOTIFIED A;1daCLOSED LITTLE YUS;1haCLOSED LITTLE YUS;1daBLENDED YUS;1haBLENDED YUS
1daIOTIFIED CLOSED LITTLE YUS;1haIOTIFIED CLOSED LITTLE YUS;1daYN;1haYN;1daREVERSED TSE
1haREVERSED TSE;1daSOFT DE;1haSOFT DE;1daSOFT EL;1haSOFT EL;1daSOFT EM;1haSOFT EM;1daMONOCULAR O
1haMONOCULAR O;1daBINOCULAR O;1haBINOCULAR O;1dar MONOCULAR O;1har MONOCULAR O;1mMULTIOCULAR O
0COMBINqCYRILLIC VZMET;2TEN MILLIONSn;2HUNDRED MILLIONSn;2THOUSAND MILLIONSn;0SLAVONIC ASTERISK
0COMBINqCYRILLIC mUKRAINIAN IE;3I;3YI;3U;3HARDn;3YERU;3SOFTn;3OMEGA;2KAVYKA;2PAYEROK
0CYRILLIC KAVYKA;1PAYEROK;1daDWE;1haDWE;1daDZWE;1haDZWE;1daZHWE;1haZHWE;1daCCHE;1haCCHE;1daDZZE
1haDZZE;1daTEbMIDDLE HOOK;1haTEbMIDDLE HOOK;1daTWE;1haTWE;1daTSWE;1haTSWE;1daTSSE;1haTSSE;1daTCHE
1haTCHE;1daHWE;1haHWE;1daSHWE;1haSHWE;1dar O;1har O;1daCROSSED O;1haCROSSED O
0MODIFIER mCYRILLIC HARDn;3SOFTn;0COMBINqCYRILLIC mEF;3IOTIFIED E;0BAMUM mA;2KA;2U;2KU;2EE;2REE;2TAE
2O;2NYI;2I;2LA;2PA;2RII;2RIEE;2LEEEE;2MEEEE;2TAA;2NDAA;2NJAEM;2M;2SUU;2MU;2SHII;2SI;2SHEUX;2SEUX
2KYEE;2KET;2NUAE;2NU;2NJUAE;2YOQ;2SHU;2YUQ;2YA;2NSHA;2KEUX;2PEUX;2NJEE;2NTEE;2PUE;2WUE;2PEE;2FEE;2RU
2LU;2MI;2NI;2REUX;2RAE;2KEN;2NGKWAEN;2NGGA;2NGA;2SHO;2PUAE;2FU;2FOM;2WA;2NA;2LI;2PI;2LOQ;2KO;2MBEN
2REN;2MEN;2MA;2TI;2KI;2MO;2MBAA;2TET;2KPA;2TEN;2NTUU;2SAMBA;2FAAMAE;2KOVUU;2KOGHOM
1COMBINqMARK KOQNDON;3TUKWENTIS;1NJAEMLI;1FULL STOP;1COLON;1COMMA;1SEMICOLON;1QUESw MARK;+A700
0MODIFIER mCHINESE TONE YIN PING;4YANG PING;4YIN SHANG;4YANG SHANG;4YIN QU;4YANG QU;4YIN RU;4YANG RU
2EXTRA-HIGH DOTTED TONE BAR;2HIGH DOTTED TONE BAR;2MID DOTTED TONE BAR;2LOW DOTTED TONE BAR
2EXTRA-LOW DOTTED TONE BAR;2EXTRA-HIGH DOTTED p-STEM TONE BAR;2HIGH DOTTED p-STEM TONE BAR
2MID DOTTED p-STEM TONE BAR;2LOW DOTTED p-STEM TONE BAR;2EXTRA-LOW DOTTED p-STEM TONE BAR
2EXTRA-HIGH p-STEM TONE BAR;2HIGH p-STEM TONE BAR;2MID p-STEM TONE BAR;2LOW p-STEM TONE BAR
2EXTRA-LOW p-STEM TONE BAR;2DOT s BAR;3SLASH;3t BAR;2LOWER Re CORNER ANGLE;2RAISED UPf;3DOWNf
3EXCLAMAw MARK;3INVERTED EXCLAMAw MARK;2LOW INVERTED EXCLAMAw MARK;2STRESSiHIGH TONE;4LOW TONE
0LATIN daEGYPTOLOGICAL ALEF;1haEGYPTOLOGICAL ALEF;1daEGYPTOLOGICAL AIN;1haEGYPTOLOGICAL AIN;1daHENG
1haHENG;1daTZ;1haTZ;1daTRESILLO;1haTRESILLO;1daCUATRILLO;1haCUATRILLO;1daCUATRILLObCOMMA
1haCUATRILLObCOMMA;1mhL dL F;4S;1daAA;1haAA;1daAO;1haAO;1daAU;1haAU;1daAV;1haAV;1daAVbt BAR
1haAVbt BAR;1daAY;1haAY;1daREVERSED CbDOT;1haREVERSED CbDOT;1daKbSTROKE;1haKbSTROKE
1daKbDIAGONAL STROKE;1haKbDIAGONAL STROKE;1daKbSTROKEiDIAGONAL STROKE;1haKbSTROKEiDIAGONAL STROKE
1daBROKEN L;1haBROKEN L;1daLbHIGH STROKE;1haLbHIGH STROKE;1daObLONG STROKE OVERLAY
1haObLONG STROKE OVERLAY;1daObLOOP;1haObLOOP;1daOO;1haOO;1daPbSTROKE THROUGH DESCENDER
1haPbSTROKE THROUGH DESCENDER;1daPbFLOURISH;1haPbFLOURISH;1daPbSQUIRREL TAIL;1haPbSQUIRREL TAIL
1daQbSTROKE THROUGH DESCENDER;1haQbSTROKE THROUGH DESCENDER;1daQbDIAGONAL STROKE
1haQbDIAGONAL STROKE;1daR ROTUNDA;1haR ROTUNDA;1daRUM ROTUNDA;1haRUM ROTUNDA;1daVbDIAGONAL STROKE
1haVbDIAGONAL STROKE;1daVY;1haVY;1daVISIGOTHIC Z;1haVISIGOTHIC Z;1daTHORNbSTROKE;1haTHORNbSTROKE
1daTHORNbSTROKE THROUGH DESCENDER;1haTHORNbSTROKE THROUGH DESCENDER;1daVEND;1haVEND;1daET;1haET
1daIS;1haIS;1daCON;1haCON;0MODIFIER mUS;0LATIN haDUM;3LUM;3MUM;3NUM;3RUM;1mhL dL RUM;1haTUM;3UM
1daINSULAR D;1haINSULAR D;1daINSULAR F;1haINSULAR F;1daINSULAR G;3TURNED INSULAR G
1haTURNED INSULAR G;1daTURNED L;1haTURNED L;1daINSULAR R;1haINSULAR R;1daINSULAR S;1haINSULAR S
1daINSULAR T;1haINSULAR T;0MODIFIER mLOW CIRCUMFLEX ACCENT;2COLON;2SHORT EQUALSn;0LATIN daSALTILLO
1haSALTILLO;1daTURNED H;1haLbRETROFLEX HOOKiBELT;1mSINOLOGICAL DOT;1daNbDESCENDER;1haNbDESCENDER
1daCbBAR;1haCbBAR;5PALATAL HOOK;3HbPALATAL HOOK;1daBbFLOURISH;1haBbFLOURISH;1daFbSTROKE;1haFbSTROKE
1daVOLAPUK AE;1haVOLAPUK AE;1daVOLAPUK OE;1haVOLAPUK OE;1daVOLAPUK UE;1haVOLAPUK UE
1daGbOBLIQUE STROKE;1haGbOBLIQUE STROKE;1daKbOBLIQUE STROKE;1haKbOBLIQUE STROKE;1daNbOBLIQUE STROKE
1haNbOBLIQUE STROKE;1daRbOBLIQUE STROKE;1haRbOBLIQUE STROKE;1daSbOBLIQUE STROKE;1haSbOBLIQUE STROKE
1daHbHOOK;3REVERSED OPEN E;3SCRIPT G;3LbBELT;3hL dL I;1mhL dL Q;1daTURNED K;4T;3JbCROSSED-TAIL;3CHI
3BETA;1haBETA;1daOMEGA;1haOMEGA;1daUbSTROKE;1haUbSTROKE;1daGLOTTAL A;1haGLOTTAL A;1daGLOTTAL I
1haGLOTTAL I;1daGLOTTAL U;1haGLOTTAL U;1daOLD POLISH O;1haOLD POLISH O;1daANGLICANA W;1haANGLICANA W
1daCbPALATAL HOOK;3SbHOOK;3ZbPALATAL HOOK;3DbSHORT STROKE OVERLAY;1haDbSHORT STROKE OVERLAY
1daSbSHORT STROKE OVERLAY;1haSbSHORT STROKE OVERLAY;+A7D0;1daCLOSED INSULAR G;1haCLOSED INSULAR G
+A7D3;3r THORN;+A7D5;4WYNN;1daMIDDLE SCOTS S;1haMIDDLE SCOTS S;1daSIGMOID S;1haSIGMOID S;+A7F2
0MODIFIER mdL C;3F;3Q;0LATIN daREVERSED HALF H;1haREVERSED HALF H;1EPIGRAPHIC mSIDEWAYS I
0MODIFIER mdL HbSTROKE;2hL LIGATURE OE;0LATIN mhL dL TURNED M;1EPIGRAPHIC mREVERSED F;4P;3INVERTED M
3I LONGA;3ARCHAIC M;0SYLOTI NAGRI mA;3I;2SIGN DVISVARA;2mU;3E;3O;2SIGN HASANTA;2mKO;3KHO;3GO;3GHO
2SIGN ANUSVARA;2mCO;3CHO;3JO;3JHO;3TTO;3TTHO;3DDO;3DDHO;3TO;3THO;3DO;3DHO;3NO;3PO;3PHO;3BO;3BHO;3MO
3RO;3LO;3RRO;3SO;3HO;2VOWELn A;4I;4U;4E;4OO;2POETRY MARK-1;3MARK-2;3MARK-3;3MARK-4
2SIGN ALTERNATE HASANTA;+A830;0NORTH INDIC FRACw ONE QUARTER;4HALF;3THREE QUARTERS;3ONE SIXTEENTH
4EeH;3THREE SIXTEENTHS;2QUARTER MARK;2PLACEHOLDER MARK;2RUPEE MARK;2QUANTITY MARK;+A840
0PHAGS-PA mKA;2KHA;2GA;2NGA;2CA;2CHA;2JA;2NYA;2TA;2THA;2DA;2NA;2PA;2PHA;2BA;2MA;2TSA;2TSHA;2DZA;2WA
2ZHA;2ZA;2hL A;2YA;2RA;2LA;2SHA;2SA;2HA;2A;2I;2U;2E;2O;2QA;2XA;2FA;2GGA;2EE;1SUBJOINED mWA;3YA;1mTTA
2TTHA;2DDA;2NNA;2ALTERNATE YA;2VOICELESS SHA;2VOICED HA;2ASPIRATED FA;1SUBJOINED mRA;1SUPERFIXED mRA
1mCANDRABINDU;1SINGLE HEAD MARK;1r HEAD MARK;1MARK SHAD;2r SHAD;+A880;0SAURASHTRAn ANUSVARA;2VISARGA
1mA;2AA;2I;2II;2U;2UU;2VOCALIC R;3RR;3L;3LL;2E;2EE;2AI;2O;2OO;2AU;2KA;2KHA;2GA;2GHA;2NGA;2CA;2CHA
2JA;2JHA;2NYA;2TTA;2TTHA;2DDA;2DDHA;2NNA;2TA;2THA;2DA;2DHA;2NA;2PA;2PHA;2BA;2BHA;2MA;2YA;2RA;2LA;2VA
2SHA;2SSA;2SA;2HA;2LLA;1CONSONANTn HAARU;1VOWELn AA;3I;3II;3U;3UU;3VOCALIC R;4RR;4L;4LL;3E;3EE;3AI
3O;3OO;3AU;1SIGN VIRAMA;2CANDRABINDU;+A8CE;1DANDA;1r DANDA;1DIGIT ZERO;2ONE;2TWO;2THREE;2FOUR;2FIVE
2SIX;2SEVEN;2Ee;2NINE;+A8E0;0COMBINqDEVANAGARI DIGIT ZERO;3ONE;3TWO;3THREE;3FOUR;3FIVE;3SIX;3SEVEN
3Ee;3NINE;2mA;3U;3KA;3NA;3PA;3RA;3VI;2SIGN AVAGRAHA;0DEVANAGARIn SPACqCANDRABINDU
2CANDRABINDU VIRAMA;2r CANDRABINDU VIRAMA;2CANDRABINDU TWO;3THREE;3AVAGRAHA;2PUSHPIKA;1GAP FILLER
1CARET;1HEADSTROKE;1SIGN SIDDHAM;1JAIN OM;1mAY;1VOWELn AY;0KAYAH LI DIGIT ZERO;3ONE;3TWO;3THREE
3FOUR;3FIVE;3SIX;3SEVEN;3Ee;3NINE;2mKA;3KHA;3GA;3NGA;3SA;3SHA;3ZA;3NYA;3TA;3HTA;3NA;3PA;3PHA;3MA;3DA
3BA;3RA;3YA;3LA;3WA;3THA;3HA;3VA;3CA;3A;3OE;3I;3OO;2VOWEL UE;3E;3U;3EE;3O;2TONE PLOPHU;3CALYA
4PLOPHU;2SIGN CWI;3SHYA;0REJANG mKA;2GA;2NGA;2TA;2DA;2NA;2PA;2BA;2MA;2CA;2JA;2NYA;2SA;2RA;2LA;2YA
2WA;2HA;2MBA;2NGGA;2NDA;2NYJA;2A;1VOWELn I;3U;3E;3AI;3O;3AU;3EU;3EA;1CONSONANTn NG;3N;3R;3H;1VIRAMA
+A95F;1SECw MARK;0HANGUL CHOSEONG TIKEUT-MIEUM;2TIKEUT-PIEUP;2TIKEUT-SIOS;2TIKEUT-CIEUC
2RIEUL-KIYEOK;2RIEUL-SSANGKIYEOK;2RIEUL-TIKEUT;2RIEUL-SSANGTIKEUT;2RIEUL-MIEUM;2RIEUL-PIEUP
2RIEUL-SSANGPIEUP;2RIEUL-KAPYEOUNPIEUP;2RIEUL-SIOS;2RIEUL-CIEUC;2RIEUL-KHIEUKH;2MIEUM-KIYEOK
2MIEUM-TIKEUT;2MIEUM-SIOS;2PIEUP-SIOS-THIEUTH;2PIEUP-KHIEUKH;2PIEUP-HIEUH;2SSANGSIOS-PIEUP
2IEUNG-RIEUL;2IEUNG-HIEUH;2SSANGCIEUC-HIEUH;2SSANGTHIEUTH;2PHIEUPH-HIEUH;2HIEUH-SIOS
2SSANGYEORINHIEUH;+A980;0JAVANESEn PANYANGGA;2CECAK;2LAYAR;2WIGNYAN;1mA;2I KAWI;3;2II;2U;2PA CEREK
2NGA LELET;4RASWADI;2E;2AI;2O;2KA;3SASAK;3MURDA;2GA;3MURDA;2NGA;2CA;3MURDA;2JA;2NYA MURDA
2JA MAHAPRANA;2NYA;2TTA;3MAHAPRANA;2DDA;3MAHAPRANA;2NA MURDA;2TA;3MURDA;2DA;3MAHAPRANA;2NA;2PA
3MURDA;2BA;3MURDA;2MA;2YA;2RA;3AGUNG;2LA;2WA;2SA MURDA;3MAHAPRANA;3;2HA;1SIGN CECAK TELU
1VOWELn TARUNG;3TOLONG;3WULU;4MELIK;3SUKU;4MENDUT;3TALING;3DIRGA MURE;3PEPET;1CONSONANTn KERET
3PENGKAL;3CAKRA;1PANGKON;1p RERENGGAN;1Re RERENGGAN;1PADA ANDAP;2MADYA;2LUHUR;2WINDU;2PANGKAT
2LINGSA;2LUNGSI;2ADEG;3ADEG;2PISELEH;1TURNED PADA PISELEH;+A9CF;1PANGRANGKEP;1DIGIT ZERO;2ONE;2TWO
2THREE;2FOUR;2FIVE;2SIX;2SEVEN;2Ee;2NINE;+A9DE;1PADA TIRTA TUMETES;2ISEN-ISEN;0MYANMAR mSHAN GHA
3CHA;3JHA;3NNA;3BHA;1SIGN SHAN SAW;1MODIFIER mSHAN REDUPLICAw;1mTAI LAqNYA;4FA;4GA;4GHA;4JA;4JHA
4DDA;4DDHA;4NNA;1TAI LAqDIGIT ZERO;4ONE;4TWO;4THREE;4FOUR;4FIVE;4SIX;4SEVEN;4Ee;4NINE;1mTAI LAqLLA
4DA;4DHA;4BA;4BHA;+AA00;0CHAM mA;2I;2U;2E;2AI;2O;2KA;2KHA;2GA;2GHA;2NGUE;2NGA;2CHA;2CHHA;2JA;2JHA
2NHUE;2NHA;2NHJA;2TA;2THA;2DA;2DHA;2NUE;2NA;2DDA;2PA;2PPA;2PHA;2BA;2BHA;2MUE;2MA;2BBA;2YA;2RA;2LA
2VA;2SSA;2SA;2HA;1VOWELn AA;3I;3II;3EI;3U;3OE;3O;3AI;3AU;3UE;1CONSONANTn YA;3RA;3LA;3WA;+AA40;1my K
3G;3NG;1CONSONANTn y NG;1my CH;3T;3N;3P;3Y;3R;3L;3SS;1CONSONANTn y M;4H;+AA50;1DIGIT ZERO;2ONE;2TWO
2THREE;2FOUR;2FIVE;2SIX;2SEVEN;2Ee;2NINE;+AA5C;1PUNCTUAw SPIRAL;2DANDA;2r DANDA;2TRIPLE DANDA
0MYANMAR mKHAMTI GA;3CA;3CHA;3JA;3JHA;3NYA;3TTA;3TTHA;3DDA;3DDHA;3DHA;3NA;3SA;3HA;3HHA;3FA
1MODIFIER mKHAMTI REDUPLICAw;1mKHAMTI XA;3ZA;3RA;1LOGOGRAM KHAMTI OAY;3QN;3HM;1u AITON EXCLAMAw;3ONE
3TWO;1mAITON RA;1SIGN PAO KAREN TONE;2TAI LAqTONE-2;4TONE-5;1mSHWE PALAUNG CHA;4SHA
0TAI VIET mLOW KO;3HIGH KO;3LOW KHO;3HIGH KHO;3LOW KHHO;3HIGH KHHO;3LOW GO;3HIGH GO;3LOW NGO
3HIGH NGO;3LOW CO;3HIGH CO;3LOW CHO;3HIGH CHO;3LOW SO;3HIGH SO;3LOW NYO;3HIGH NYO;3LOW DO;3HIGH DO
3LOW TO;3HIGH TO;3LOW THO;3HIGH THO;3LOW NO;3HIGH NO;3LOW BO;3HIGH BO;3LOW PO;3HIGH PO;3LOW PHO
3HIGH PHO;3LOW FO;3HIGH FO;3LOW MO;3HIGH MO;3LOW YO;3HIGH YO;3LOW RO;3HIGH RO;3LOW LO;3HIGH LO
3LOW VO;3HIGH VO;3LOW HO;3HIGH HO;3LOW O;3HIGH O;2MAI KANG;2VOWEL AA;3I;3UE;3U;3E;3O;2MAI KHIT
2VOWEL IA;3UEA;3UA;3AUE;3AY;3AN;3AM;2TONE MAI EK;4NUENG;4THO;4SONG;+AADB;2u KON;3NUENG;3SAM;3HO HOI
3KOI KOI;0MEETEI MAYEK mE;3O;3CHA;3NYA;3TTA;3TTHA;3DDA;3DDHA;3NNA;3SHA;3SSA;2VOWELn II;4UU;4AAI;4AU
4AAU;2CHEIKHAN;2AHANG KHUDAM;2ANJI;2SYLLABLE REPETIw MARK;2WORD REPETIw MARK;2VOWELn VISARGA;2VIRAMA
+AB01;0ETHIOPIC SYLLABLE TTHU;2TTHI;2TTHAA;2TTHEE;2TTHE;2TTHO;+AB09;2DDHU;2DDHI;2DDHAA;2DDHEE;2DDHE
2DDHO;+AB11;2DZU;2DZI;2DZAA;2DZEE;2DZE;2DZO;+AB20;2CCHHA;2CCHHU;2CCHHI;2CCHHAA;2CCHHEE;2CCHHE;2CCHHO
+AB28;2BBA;2BBU;2BBI;2BBAA;2BBEE;2BBE;2BBO;+AB30;0LATIN haBARRED ALPHA;3A REVERSED-SCHWA;3BLACKmE
3BARRED E;3EbFLOURISH;3LENIS F;3SCRIPT GbCROSSED-TAIL;3LbINVERTED LAZY S;5r MIDDLE TILDE
5MIDDLE RING;3MbCROSSED-TAIL;3NbCROSSED-TAIL;3ENGbCROSSED-TAIL;3BLACKmO;5WITH STROKE;3OPEN ObSTROKE
3INVERTED OE;3TURNED OEbSTROKE;6t STROKE;4O OPEN-O;6WITH STROKE;3STIRRUP R;1mhL dL RbRe LEG
1haR WITHOUT HANDLE;3r R;3RbCROSSED-TAIL;3r RbCROSSED-TAIL;3SCRIPT R;5WITH RING;3BASELINE ESH
3UbSHORT Re LEG;4BARbSHORT Re LEG;3UI;3TURNED UI;3Ubp HOOK;3CHI;4WITH LOW Re RING;6p SERIF
3XbLOW Re RING;5LONG p LEG;8AND LOW Re RING;8WITH SERIF;3YbSHORT Re LEG
0MODIFIER BREVEbINVERTED BREVE;1mhL HENG;3LbINVERTED LAZY S;5MIDDLE TILDE;3Ubp HOOK
0LATIN haSAKHA YAT;3IOTIFIED E;3OPEN OE;3UO;3INVERTED ALPHA;0GREEK mhL dL OMEGA
0LATIN haDZ DIGRAPHbRETROFLEX HOOK;3TS DIGRAPHbRETROFLEX HOOK;3TURNED RbMIDDLE TILDE
0MODIFIER mhL TURNED W;2p TACK;2Re TACK;+AB70;0CHEROKEE haA;3E;3I;3O;3U;3V;3GA;3KA;3GE;3GI;3GO;3GU
3GV;3HA;3HE;3HI;3HO;3HU;3HV;3LA;3LE;3LI;3LO;3LU;3LV;3MA;3ME;3MI;3MO;3MU;3NA;3HNA;3NAH;3NE;3NI;3NO
3NU;3NV;3QUA;3QUE;3QUI;3QUO;3QUU;3QUV;3SA;3S;3SE;3SI;3SO;3SU;3SV;3DA;3TA;3DE;3TE;3DI;3TI;3DO;3DU;3DV
3DLA;3TLA;3TLE;3TLI;3TLO;3TLU;3TLV;3TSA;3TSE;3TSI;3TSO;3TSU;3TSV;3WA;3WE;3WI;3WO;3WU;3WV;3YA
0MEETEI MAYEK mKOK;3SAM;3LAI;3MIT;3PA;3NA;3CHIL;3TIL;3KHOU;3NGOU;3THOU;3WAI;3YANG;3HUK;3UN;3I;3PHAM
3ATIYA;3GOK;3JHAM;3RAI;3BA;3JIL;3DIL;3GHOU;3DHOU;3BHAM;3KOK LONSUM;3LAI LONSUM;3MIT LONSUM
3PA LONSUM;3NA LONSUM;3TIL LONSUM;3NGOU LONSUM;3I LONSUM;2VOWELn ONAP;4INAP;4ANAP;4YENAP;4SOUNAP
4UNAP;4CHEINAP;4NUNG;2CHEIKHEI;2LUM IYEK;2APUN IYEK;+ABF0;2DIGIT ZERO;3ONE;3TWO;3THREE;3FOUR;3FIVE
3SIX;3SEVEN;3Ee;3NINE;+D7B0;0HANGUL JUNGSEONG O-YEO;2O-O-I;2YO-A;2YO-AE;2YO-EO;2U-YEO;2U-I-I;2YU-AE
2YU-O;2EU-A;2EU-EO;2EU-E;2EU-O;2I-YA-O;2I-YAE;2I-YEO;2I-YE;2I-O-I;2I-YO;2I-YU;2I-I;2ARAEA-A;2ARAEA-E
+D7CB;1JONGSEONG NIEUN-RIEUL;2NIEUN-CHIEUCH;2SSANGTIKEUT;2SSANGTIKEUT-PIEUP;2TIKEUT-PIEUP
2TIKEUT-SIOS;2TIKEUT-SIOS-KIYEOK;2TIKEUT-CIEUC;2TIKEUT-CHIEUCH;2TIKEUT-THIEUTH;2RIEUL-SSANGKIYEOK
2RIEUL-KIYEOK-HIEUH;2SSANGRIEUL-KHIEUKH;2RIEUL-MIEUM-HIEUH;2RIEUL-PIEUP-TIKEUT;2RIEUL-PIEUP-PHIEUPH
2RIEUL-YESIEUNG;2RIEUL-YEORINHIEUH-HIEUH;2KAPYEOUNRIEUL;2MIEUM-NIEUN;2MIEUM-SSANGNIEUN;2SSANGMIEUM
2MIEUM-PIEUP-SIOS;2MIEUM-CIEUC;2PIEUP-TIKEUT;2PIEUP-RIEUL-PHIEUPH;2PIEUP-MIEUM;2SSANGPIEUP
2PIEUP-SIOS-TIKEUT;2PIEUP-CIEUC;2PIEUP-CHIEUCH;2SIOS-MIEUM;2SIOS-KAPYEOUNPIEUP;2SSANGSIOS-KIYEOK
2SSANGSIOS-TIKEUT;2SIOS-PANSIOS;2SIOS-CIEUC;2SIOS-CHIEUCH;2SIOS-THIEUTH;2SIOS-HIEUH;2PANSIOS-PIEUP
2PANSIOS-KAPYEOUNPIEUP;2YESIEUNG-MIEUM;2YESIEUNG-HIEUH;2CIEUC-PIEUP;2CIEUC-SSANGPIEUP;2SSANGCIEUC
2PHIEUPH-SIOS;2PHIEUPH-THIEUTH;+FB00;0LATIN hL LIGATURE FF;3FI;3FL;3FFI;3FFL;3LONG S T;3ST;+FB13
0ARMENIAN hL LIGATURE MEN NOW;4ECH;4INI;3VEW NOW;3MEN XEH;+FB1D;0HEBREW mYODbHIRIQ
1POINT JUDEO-SPANISH VARIKA;1LIGATURE YIDDISH YOD YOD PATAH;1mALTERNATIVE AYIN;2WIDE ALEF;3DALET;3HE
3KAF;3LAMED;3y MEM;3RESH;3TAV;2ALTERNATIVE PLUSn;2SHINbSHIN DOT;4SIN DOT;4DAGESHiSHIN DOT;6SIN DOT
2ALEFbPATAH;4QAMATS;4MAPIQ;2BETbDAGESH;2GIMELbDAGESH;2DALETbDAGESH;2HEbMAPIQ;2VAVbDAGESH
2ZAYINbDAGESH;+FB38;2TETbDAGESH;2YODbDAGESH;2y KAFbDAGESH;2KAFbDAGESH;2LAMEDbDAGESH;+FB3E
2MEMbDAGESH;+FB40;2NUNbDAGESH;2SAMEKHbDAGESH;+FB43;2y PEbDAGESH;2PEbDAGESH;+FB46;2TSADIbDAGESH
2QOFbDAGESH;2RESHbDAGESH;2SHINbDAGESH;2TAVbDAGESH;2VAVbHOLAM;2BETbRAFE;2KAFbRAFE;2PEbRAFE
1LIGATURE ALEF LAMED;0ARABIC mALEF WASLAog;4yg;2BEEHog;3yg;3INITIALg;3MEDIALg;2PEHog;3yg;3INITIALg
3MEDIALg;2BEHEHog;3yg;3INITIALg;3MEDIALg;2TTEHEHog;3yg;3INITIALg;3MEDIALg;2TEHEHog;3yg;3INITIALg
3MEDIALg;2TTEHog;3yg;3INITIALg;3MEDIALg;2VEHog;3yg;3INITIALg;3MEDIALg;2PEHEHog;3yg;3INITIALg
3MEDIALg;2DYEHog;3yg;3INITIALg;3MEDIALg;2NYEHog;3yg;3INITIALg;3MEDIALg;2TCHEHog;3yg;3INITIALg
3MEDIALg;2TCHEHEHog;3yg;3INITIALg;3MEDIALg;2DDAHALog;3yg;2DAHALog;3yg;2DULog;3yg;2DDALog;3yg;2JEHog
3yg;2RREHog;3yg;2KEHEHog;3yg;3INITIALg;3MEDIALg;2GAFog;3yg;3INITIALg;3MEDIALg;2GUEHog;3yg;3INITIALg
3MEDIALg;2NGOEHog;3yg;3INITIALg;3MEDIALg;2NOON GHUNNAog;4yg;2RNOONog;3yg;3INITIALg;3MEDIALg
2HEHbYEHjog;6yg;3GOALog;4yg;4INITIALg;4MEDIALg;3DOACHASHMEEog;4yg;4INITIALg;4MEDIALg;2YEH BARREEog
4yg;4WITH HAMZAjog;7yg;1u DOTj;3BELOW;2TWO DOTSj;4BELOW;2THREE DOTSj;4BELOW;4POINTqDOWNkj;6BELOW
2FOUR DOTSj;4BELOW;2r s BARv;2TWO DOTS sLYj;5BELOW;2RING;2hL TAHj;4BELOW;2WASLAj;+FBD3;1mNGog;3yg
3INITIALg;3MEDIALg;2Uog;3yg;2OEog;3yg;2YUog;3yg;2UbHAMZAjog;2VEog;3yg;2KIRGHIZ OEog;4yg;3YUog;4yg
2Eog;3yg;3INITIALg;3MEDIALg;2UIGHUR KAZAKH KIRGHIZ ALEF MAKSURA INITIALg;7MEDIALg
1LIGATURE YEHbHAMZAjbALEFog;8yg;7AEog;8yg;7WAWog;8yg;7Uog;8yg;7OEog;8yg;7YUog;8yg;7Eog;8yg;8INITIALg
2UIGHUR KIRGHIZ YEHbHAMZAjbALEF MAKSURAog;Byg;BINITIALg;1mFARSI YEHog;4yg;4INITIALg;4MEDIALg
1LIGATURE YEHbHAMZAjbJEEMog;7HAHog;7MEEMog;7ALEF MAKSURAog;7YEHog;2BEHbJEEMog;4HAHog;4KHAHog;4MEEMog
4ALEF MAKSURAog;4YEHog;2TEHbJEEMog;4HAHog;4KHAHog;4MEEMog;4ALEF MAKSURAog;4YEHog;2THEHbJEEMog
4MEEMog;4ALEF MAKSURAog;4YEHog;2JEEMbHAHog;4MEEMog;2HAHbJEEMog;4MEEMog;2KHAHbJEEMog;4HAHog;4MEEMog
2SEENbJEEMog;4HAHog;4KHAHog;4MEEMog;2SADbHAHog;4MEEMog;2DADbJEEMog;4HAHog;4KHAHog;4MEEMog;2TAHbHAHog
4MEEMog;2ZAHbMEEMog;2AINbJEEMog;4MEEMog;2GHAINbJEEMog;4MEEMog;2FEHbJEEMog;4HAHog;4KHAHog;4MEEMog
4ALEF MAKSURAog;4YEHog;2QAFbHAHog;4MEEMog;4ALEF MAKSURAog;4YEHog;2KAFbALEFog;4JEEMog;4HAHog;4KHAHog
4LAMog;4MEEMog;4ALEF MAKSURAog;4YEHog;2LAMbJEEMog;4HAHog;4KHAHog;4MEEMog;4ALEF MAKSURAog;4YEHog
2MEEMbJEEMog;4HAHog;4KHAHog;4MEEMog;4ALEF MAKSURAog;4YEHog;2NOONbJEEMog;4HAHog;4KHAHog;4MEEMog
4ALEF MAKSURAog;4YEHog;2HEHbJEEMog;4MEEMog;4ALEF MAKSURAog;4YEHog;2YEHbJEEMog;4HAHog;4KHAHog;4MEEMog
4ALEF MAKSURAog;4YEHog;2THALbSUPERSCRIPT ALEFog;2REHbSUPERSCRIPT ALEFog
2ALEF MAKSURAbSUPERSCRIPT ALEFog;2SHADDAbDAMMATANog;4KASRATANog;4FATHAog;4DAMMAog;4KASRAog
4SUPERSCRIPT ALEFog;2YEHbHAMZAjbREH yg;7ZAIN yg;7MEEM yg;7NOON yg;7ALEF MAKSURA yg;7YEH yg
2BEHbREH yg;4ZAIN yg;4MEEM yg;4NOON yg;4ALEF MAKSURA yg;4YEH yg;2TEHbREH yg;4ZAIN yg;4MEEM yg
4NOON yg;4ALEF MAKSURA yg;4YEH yg;2THEHbREH yg;4ZAIN yg;4MEEM yg;4NOON yg;4ALEF MAKSURA yg;4YEH yg
2FEHbALEF MAKSURA yg;4YEH yg;2QAFbALEF MAKSURA yg;4YEH yg;2KAFbALEF yg;4LAM yg;4MEEM yg
4ALEF MAKSURA yg;4YEH yg;2LAMbMEEM yg;4ALEF MAKSURA yg;4YEH yg;2MEEMbALEF yg;4MEEM yg;2NOONbREH yg
4ZAIN yg;4MEEM yg;4NOON yg;4ALEF MAKSURA yg;4YEH yg;2ALEF MAKSURAbSUPERSCRIPT ALEF yg;2YEHbREH yg
4ZAIN yg;4MEEM yg;4NOON yg;4ALEF MAKSURA yg;4YEH yg;4HAMZAjbJEEM INITIALg;7HAH INITIALg
7KHAH INITIALg;7MEEM INITIALg;7HEH INITIALg;2BEHbJEEM INITIALg;4HAH INITIALg;4KHAH INITIALg
4MEEM INITIALg;4HEH INITIALg;2TEHbJEEM INITIALg;4HAH INITIALg;4KHAH INITIALg;4MEEM INITIALg
4HEH INITIALg;2THEHbMEEM INITIALg;2JEEMbHAH INITIALg;4MEEM INITIALg;2HAHbJEEM INITIALg
4MEEM INITIALg;2KHAHbJEEM INITIALg;4MEEM INITIALg;2SEENbJEEM INITIALg;4HAH INITIALg;4KHAH INITIALg
4MEEM INITIALg;2SADbHAH INITIALg;4KHAH INITIALg;4MEEM INITIALg;2DADbJEEM INITIALg;4HAH INITIALg
4KHAH INITIALg;4MEEM INITIALg;2TAHbHAH INITIALg;2ZAHbMEEM INITIALg;2AINbJEEM INITIALg;4MEEM INITIALg
2GHAINbJEEM INITIALg;4MEEM INITIALg;2FEHbJEEM INITIALg;4HAH INITIALg;4KHAH INITIALg;4MEEM INITIALg
2QAFbHAH INITIALg;4MEEM INITIALg;2KAFbJEEM INITIALg;4HAH INITIALg;4KHAH INITIALg;4LAM INITIALg
4MEEM INITIALg;2LAMbJEEM INITIALg;4HAH INITIALg;4KHAH INITIALg;4MEEM INITIALg;4HEH INITIALg
2MEEMbJEEM INITIALg;4HAH INITIALg;4KHAH INITIALg;4MEEM INITIALg;2NOONbJEEM INITIALg;4HAH INITIALg
4KHAH INITIALg;4MEEM INITIALg;4HEH INITIALg;2HEHbJEEM INITIALg;4MEEM INITIALg
4SUPERSCRIPT ALEF INITIALg;2YEHbJEEM INITIALg;4HAH INITIALg;4KHAH INITIALg;4MEEM INITIALg
4HEH INITIALg;4HAMZAjbMEEM MEDIALg;7HEH MEDIALg;2BEHbMEEM MEDIALg;4HEH MEDIALg;2TEHbMEEM MEDIALg
4HEH MEDIALg;2THEHbMEEM MEDIALg;4HEH MEDIALg;2SEENbMEEM MEDIALg;4HEH MEDIALg;2SHEENbMEEM MEDIALg
4HEH MEDIALg;2KAFbLAM MEDIALg;4MEEM MEDIALg;2LAMbMEEM MEDIALg;2NOONbMEEM MEDIALg;4HEH MEDIALg
2YEHbMEEM MEDIALg;4HEH MEDIALg;2SHADDAbFATHA MEDIALg;4DAMMA MEDIALg;4KASRA MEDIALg
2TAHbALEF MAKSURAog;4YEHog;2AINbALEF MAKSURAog;4YEHog;2GHAINbALEF MAKSURAog;4YEHog
2SEENbALEF MAKSURAog;4YEHog;2SHEENbALEF MAKSURAog;4YEHog;2HAHbALEF MAKSURAog;4YEHog
2JEEMbALEF MAKSURAog;4YEHog;2KHAHbALEF MAKSURAog;4YEHog;2SADbALEF MAKSURAog;4YEHog
2DADbALEF MAKSURAog;4YEHog;2SHEENbJEEMog;4HAHog;4KHAHog;4MEEMog;4REHog;2SEENbREHog;2SADbREHog
2DADbREHog;2TAHbALEF MAKSURA yg;4YEH yg;2AINbALEF MAKSURA yg;4YEH yg;2GHAINbALEF MAKSURA yg;4YEH yg
2SEENbALEF MAKSURA yg;4YEH yg;2SHEENbALEF MAKSURA yg;4YEH yg;2HAHbALEF MAKSURA yg;4YEH yg
2JEEMbALEF MAKSURA yg;4YEH yg;2KHAHbALEF MAKSURA yg;4YEH yg;2SADbALEF MAKSURA yg;4YEH yg
2DADbALEF MAKSURA yg;4YEH yg;2SHEENbJEEM yg;4HAH yg;4KHAH yg;4MEEM yg;4REH yg;2SEENbREH yg
2SADbREH yg;2DADbREH yg;2SHEENbJEEM INITIALg;4HAH INITIALg;4KHAH INITIALg;4MEEM INITIALg
2SEENbHEH INITIALg;2SHEENbHEH INITIALg;2TAHbMEEM INITIALg;2SEENbJEEM MEDIALg;4HAH MEDIALg
4KHAH MEDIALg;2SHEENbJEEM MEDIALg;4HAH MEDIALg;4KHAH MEDIALg;2TAHbMEEM MEDIALg;2ZAHbMEEM MEDIALg
2ALEFbFATHATAN yg;5ISOLATEDg;0ORNATE p PARENTHESIS;1Re PARENTHESIS;0ARABIC LIGATURE RAHIMAHU ALLAAH
2RADI ALLAAHU ANH;4ANHAA;4ANHUM;4ANHUMAA;4ANHUNNA;2SALLALLAAHU ALAYHI WA-AALIH;2ALAYHI AS-SALAAM
2ALAYHIM AS-SALAAM;2ALAYHIMAA AS-SALAAM;2ALAYHI AS-SALAATU WAS-SALAAM;2QUDDISA SIRRAH
2SALLALLAHU ALAYHI WAAALIHEE WA-SALLAM;2ALAYHAA AS-SALAAM;2TABAARAKA WA-TAAALAA;2RAHIMAHUM ALLAAH
2TEHbJEEMbMEEM INITIALg;4HAHbJEEM yg;7INITIALg;6MEEM INITIALg;4KHAHbMEEM INITIALg
4MEEMbJEEM INITIALg;6HAH INITIALg;6KHAH INITIALg;2JEEMbMEEMbHAH yg;7INITIALg;2HAHbMEEMbYEH yg
6ALEF MAKSURA yg;2SEENbHAHbJEEM INITIALg;4JEEMbHAH INITIALg;6ALEF MAKSURA yg;4MEEMbHAH yg;7INITIALg
6JEEM INITIALg;6MEEM yg;7INITIALg;2SADbHAHbHAH yg;7INITIALg;4MEEMbMEEM yg;2SHEENbHAHbMEEM yg
7INITIALg;4JEEMbYEH yg;4MEEMbKHAH yg;7INITIALg;6MEEM yg;7INITIALg;2DADbHAHbALEF MAKSURA yg
4KHAHbMEEM yg;7INITIALg;2TAHbMEEMbHAH yg;7INITIALg;6MEEM INITIALg;6YEH yg;2AINbJEEMbMEEM yg
4MEEMbMEEM yg;7INITIALg;6ALEF MAKSURA yg;2GHAINbMEEMbMEEM yg;6YEH yg;6ALEF MAKSURA yg
2FEHbKHAHbMEEM yg;7INITIALg;2QAFbMEEMbHAH yg;6MEEM yg;2LAMbHAHbMEEM yg;6YEH yg;6ALEF MAKSURA yg
4JEEMbJEEM INITIALg;7yg;4KHAHbMEEM yg;7INITIALg;4MEEMbHAH yg;7INITIALg;2MEEMbHAHbJEEM INITIALg
6MEEM INITIALg;6YEH yg;4JEEMbHAH INITIALg;6MEEM INITIALg;4KHAHbJEEM INITIALg;6MEEM INITIALg;+FD92
4JEEMbKHAH INITIALg;2HEHbMEEMbJEEM INITIALg;6MEEM INITIALg;2NOONbHAHbMEEM INITIALg;6ALEF MAKSURA yg
4JEEMbMEEM yg;7INITIALg;6ALEF MAKSURA yg;4MEEMbYEH yg;6ALEF MAKSURA yg;2YEHbMEEMbMEEM yg;7INITIALg
2BEHbKHAHbYEH yg;2TEHbJEEMbYEH yg;6ALEF MAKSURA yg;4KHAHbYEH yg;6ALEF MAKSURA yg;4MEEMbYEH yg
6ALEF MAKSURA yg;2JEEMbMEEMbYEH yg;4HAHbALEF MAKSURA yg;4MEEMbALEF MAKSURA yg
2SEENbKHAHbALEF MAKSURA yg;2SADbHAHbYEH yg;2SHEENbHAHbYEH yg;2DADbHAHbYEH yg;2LAMbJEEMbYEH yg
4MEEMbYEH yg;2YEHbHAHbYEH yg;4JEEMbYEH yg;4MEEMbYEH yg;2MEEMbMEEMbYEH yg;2QAFbMEEMbYEH yg
2NOONbHAHbYEH yg;2QAFbMEEMbHAH INITIALg;2LAMbHAHbMEEM INITIALg;2AINbMEEMbYEH yg;2KAFbMEEMbYEH yg
2NOONbJEEMbHAH INITIALg;2MEEMbKHAHbYEH yg;2LAMbJEEMbMEEM INITIALg;2KAFbMEEMbMEEM yg
2LAMbJEEMbMEEM yg;2NOONbJEEMbHAH yg;2JEEMbHAHbYEH yg;2HAHbJEEMbYEH yg;2MEEMbJEEMbYEH yg
2FEHbMEEMbYEH yg;2BEHbHAHbYEH yg;2KAFbMEEMbMEEM INITIALg;2AINbJEEMbMEEM INITIALg
2SADbMEEMbMEEM INITIALg;2SEENbKHAHbYEH yg;2NOONbJEEMbYEH yg;+FDCF;2SALAAMUHU ALAYNAA;+FDF0
2SALLA USED AS KORANIC STOPnog;2QALA USED AS KORANIC STOPnog;2ALLAHog;2AKBARog;2MOHAMMADog;2SALAMog
2RASOULog;2ALAYHEog;2WASALLAMog;2SALLAog;2SALLALLAHOU ALAYHE WASALLAM;2JALLAJALALOUHOU;0RIALn
0ARABIC LIGATURE BISMILLAH AR-RAHMAN AR-RAHEEM;2SUBHAANAHU WA TAAALAA;2AZZA WA JALL;0VARIAw l1;1l2
1l3;1l4;1l5;1l6;1l7;1l8;1l9;1l10;1l11;1l12;1l13;1l14;1l15;1l16;0PRESENTAwg FOR s COMMA
4IDEOGRAPHIC COMMA;5FULL STOP;4COLON;4SEMICOLON;4EXCLAMAw MARK;4QUESw MARK
4p WHITE LENTICULAR BRACKET;4Re WHITE LENTICULAR BRAKCET;4t ELLIPSIS;+FE20;0COMBINqLIGATURE p HALF
2Re HALF;1r TILDE p HALF;3Re HALF;1MACRON p HALF;2Re HALF;1CONJOINqMACRON;1LIGATURE p HALFv
2Re HALFv;1TILDE p HALFv;2Re HALFv;1MACRON p HALFv;2Re HALFv;1CONJOINqMACRONv;1CYRILLIC TITLO p HALF
3Re HALF;0PRESENTAwg FOR s TWO DOT LEADER;4EM DASH;4EN DASH;4LOW LINE;4WAVY LOW LINE;4p PARENTHESIS
4Re PARENTHESIS;4p CURLY BRACKET;4Re CURLY BRACKET;4p TORTOISE SHELL BRACKET
4Re TORTOISE SHELL BRACKET;4p BLACK LENTICULAR BRACKET;4Re BLACK LENTICULAR BRACKET
4p r ANGLE BRACKET;4Re r ANGLE BRACKET;4p ANGLE BRACKET;4Re ANGLE BRACKET;4p CORNER BRACKET
4Re CORNER BRACKET;4p WHITE CORNER BRACKET;4Re WHITE CORNER BRACKET;0SESAME DOT;0WHITE SESAME DOT
0PRESENTAwg FOR s p SQUARE BRACKET;4Re SQUARE BRACKET;0DASHED OVERLINE;0CENTRELINE OVERLINE
0WAVY OVERLINE;0r WAVY OVERLINE;0DASHED LOW LINE;0CENTRELINE LOW LINE;0WAVY LOW LINE;0hL COMMA
1IDEOGRAPHIC COMMA;1FULL STOP;+FE54;1SEMICOLON;1COLON;1QUESw MARK;1EXCLAMAw MARK;1EM DASH
1p PARENTHESIS;1Re PARENTHESIS;1p CURLY BRACKET;1Re CURLY BRACKET;1p TORTOISE SHELL BRACKET
1Re TORTOISE SHELL BRACKET;1NUMBERn;1AMPERSAND;1ASTERISK;1PLUSn;1HYPHEN-MINUS;1LESS-THANn
1GREATER-THANn;1EQUALSn;+FE68;1REVERSE SOLIDUS;1DOLLARn;1PERCENTn;1COMMERCIAL AT;+FE70
0ARABIC FATHATANog;1TATWEELbFATHATANj;1DAMMATANog;1TAIL FRAGMENT;1KASRATANog;+FE76;1FATHAog;2MEDIALg
1DAMMAog;2MEDIALg;1KASRAog;2MEDIALg;1SHADDAog;2MEDIALg;1SUKUNog;2MEDIALg;1mHAMZAog;2ALEFbMADDAjog
6yg;4HAMZAjog;6yg;2WAWbHAMZAjog;6yg;2ALEFbHAMZAvog;6yg;2YEHbHAMZAjog;6yg;6INITIALg;6MEDIALg;2ALEFog
3yg;2BEHog;3yg;3INITIALg;3MEDIALg;2TEH MARBUTAog;4yg;3ISOLATEDg;3yg;3INITIALg;3MEDIALg;2THEHog;3yg
3INITIALg;3MEDIALg;2JEEMog;3yg;3INITIALg;3MEDIALg;2HAHog;3yg;3INITIALg;3MEDIALg;2KHAHog;3yg
3INITIALg;3MEDIALg;2DALog;3yg;2THALog;3yg;2REHog;3yg;2ZAINog;3yg;2SEENog;3yg;3INITIALg;3MEDIALg
2SHEENog;3yg;3INITIALg;3MEDIALg;2SADog;3yg;3INITIALg;3MEDIALg;2DADog;3yg;3INITIALg;3MEDIALg;2TAHog
3yg;3INITIALg;3MEDIALg;2ZAHog;3yg;3INITIALg;3MEDIALg;2AINog;3yg;3INITIALg;3MEDIALg;2GHAINog;3yg
3INITIALg;3MEDIALg;2FEHog;3yg;3INITIALg;3MEDIALg;2QAFog;3yg;3INITIALg;3MEDIALg;2KAFog;3yg;3INITIALg
3MEDIALg;2LAMog;3yg;3INITIALg;3MEDIALg;2MEEMog;3yg;3INITIALg;3MEDIALg;2NOONog;3yg;3INITIALg;3MEDIALg
2HEHog;3yg;3INITIALg;3MEDIALg;2WAWog;3yg;2ALEF MAKSURAog;4yg;2YEHog;3yg;3INITIALg;3MEDIALg
1LIGATURE LAMbALEFbMADDAjog;8yg;6HAMZAjog;8yg;7BELOWog;8yg;5ISOLATEDg;5yg;+FEFF
0ZERO WIDTH NO-BREAK SPACE;+FF01;0FULLWIDTH EXCLAMAw MARK;1QUOTAw MARK;1NUMBERn;1DOLLARn;1PERCENTn
1AMPERSAND;1APOSTROPHE;1p PARENTHESIS;1Re PARENTHESIS;1ASTERISK;1PLUSn;1COMMA;1HYPHEN-MINUS
1FULL STOP;1SOLIDUS;1DIGIT ZERO;2ONE;2TWO;2THREE;2FOUR;2FIVE;2SIX;2SEVEN;2Ee;2NINE;1COLON;1SEMICOLON
1LESS-THANn;1EQUALSn;1GREATER-THANn;1QUESw MARK;1COMMERCIAL AT;1LATIN daA;4B;4C;4D;4E;4F;4G;4H;4I;4J
4K;4L;4M;4N;4O;4P;4Q;4R;4S;4T;4U;4V;4W;4X;4Y;4Z;1p SQUARE BRACKET;1REVERSE SOLIDUS
1Re SQUARE BRACKET;1CIRCUMFLEX ACCENT;1LOW LINE;1GRAVE ACCENT;1LATIN haA;4B;4C;4D;4E;4F;4G;4H;4I;4J
4K;4L;4M;4N;4O;4P;4Q;4R;4S;4T;4U;4V;4W;4X;4Y;4Z;1p CURLY BRACKET;1s LINE;1Re CURLY BRACKET;1TILDE
1p WHITE PARENTHESIS;1Re WHITE PARENTHESIS;0HALFWIDTH IDEOGRAPHIC FULL STOP;1p CORNER BRACKET
1Re CORNER BRACKET;1IDEOGRAPHIC COMMA;1KATAKANA MIDDLE DOT;2mWO;3hL A;4I;4U;4E;4O;4YA;4YU;4YO;4TU
1KATAKANA-HIRAGANA PROLONGED SOUND MARK;1KATAKANA mA;3I;3U;3E;3O;3KA;3KI;3KU;3KE;3KO;3SA;3SI;3SU;3SE
3SO;3TA;3TI;3TU;3TE;3TO;3NA;3NI;3NU;3NE;3NO;3HA;3HI;3HU;3HE;3HO;3MA;3MI;3MU;3ME;3MO;3YA;3YU;3YO;3RA
3RI;3RU;3RE;3RO;3WA;3N;2VOICED SOUND MARK;2SEMI-VOICED SOUND MARK;1HANGUL FILLER;2mKIYEOK
3SSANGKIYEOK;3KIYEOK-SIOS;3NIEUN;3NIEUN-CIEUC;3NIEUN-HIEUH;3TIKEUT;3SSANGTIKEUT;3RIEUL;3RIEUL-KIYEOK
3RIEUL-MIEUM;3RIEUL-PIEUP;3RIEUL-SIOS;3RIEUL-THIEUTH;3RIEUL-PHIEUPH;3RIEUL-HIEUH;3MIEUM;3PIEUP
3SSANGPIEUP;3PIEUP-SIOS;3SIOS;3SSANGSIOS;3IEUNG;3CIEUC;3SSANGCIEUC;3CHIEUCH;3KHIEUKH;3THIEUTH
3PHIEUPH;3HIEUH;+FFC2;3A;3AE;3YA;3YAE;3EO;3E;+FFCA;3YEO;3YE;3O;3WA;3WAE;3OE;+FFD2;3YO;3U;3WEO;3WE
3WI;3YU;+FFDA;3EU;3YI;3I;+FFE0;0FULLWIDTH CENTn;1POUNDn;1NOTn;1MACRON;1BROKEN BAR;1YENn;1WONn;+FFE8
0HALFWIDTHgS Le s;1pkf;1UPkf;1Rekf;1DOWNkf;1BLACK SQUARE;1WHITE CIRCLE;+FFF9
0INTERLINEAR ANNOTAw ANCHOR;2SEPARATOR;2TERMINATOR;0OBJECT REPLACEMENT CHARACTER
0REPLACEMENT CHARACTER"

end Parlance.Unicode
