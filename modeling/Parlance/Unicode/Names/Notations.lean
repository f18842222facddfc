/-!
# Names in notations

The names in the notations of music, mathematics and gestures, and of the alphabets after them.
`CharacterName` says how the table is written.
-/

namespace Parlance.Unicode

/-- The names of the characters from 1D000 on and before 1F000. -/
def notationNames : String := "
+1D000;0BYZANTINE MUSICAL u PSILI;3DASEIA;3PERISPOMENI;3OXEIA EKFONITIKON;4DIPLI;3VAREIA EKFONITIKON
4DIPLI;3KATHISTI;3SYRMATIKI;3PARAKLITIKI;3YPOKRISIS;4DIPLI;3KREMASTI;3APESO EKFONITIKON
3EXO EKFONITIKON;3TELEIA;3KENTIMATA;3APOSTROFOS;4DIPLI;3SYNEVMA;3THITA;3OLIGON ARCHAION
3GORGON ARCHAION;3PSILON;3CHAMILON;3VATHY;3ISON ARCHAION;3KENTIMA ARCHAION;3KENTIMATA ARCHAION
3SAXIMATA;3PARICHON;3STAVROS APODEXIA;3OXEIAI ARCHAION;3VAREIAI ARCHAION;3APODERMA ARCHAION
3APOTHEMA;3KLASMA;3REVMA;3PIASMA ARCHAION;3TINAGMA;3ANATRICHISMA;3SEISMA;3SYNAGMA ARCHAION
4META STAVROU;3OYRANISMA ARCHAION;3THEMA;3LEMOI;3DYO;3TRIA;3TESSERA;3KRATIMATA;3APESO EXO NEO
3FTHORA ARCHAION;3IMIFTHORA;3TROMIKON ARCHAION;3KATAVA TROMIKON;3PELASTON;3PSIFISTON;3KONTEVMA
3CHOREVMA ARCHAION;3RAPISMA;3PARAKALESMA ARCHAION;3PARAKLITIKI ARCHAION;3ICHADIN;3NANA;3PETASMA
3KONTEVMA ALLO;3TROMIKON ALLO;3STRAGGISMATA;3GRONTHISMATA;3ISON NEO;3OLIGON NEO;3OXEIA NEO;3PETASTI
3KOUFISMA;3PETASTOKOUFISMA;3KRATIMOKOUFISMA;3PELASTON NEO;3KENTIMATA NEO ANO;3KENTIMA NEO ANO
3YPSILI;3APOSTROFOS NEO;3APOSTROFOI SYNDESMOS NEO;3YPORROI;3KRATIMOYPORROON;3ELAFRON;3CHAMILI
3MIKRON ISON;3VAREIA NEO;3PIASMA NEO;3PSIFISTON NEO;3OMALON;3ANTIKENOMA;3LYGISMA;3PARAKLITIKI NEO
3PARAKALESMA NEO;3ETERON PARAKALESMA;3KYLISMA;3ANTIKENOKYLISMA;3TROMIKON NEO;3EKSTREPTON
3SYNAGMA NEO;3SYRMA;3CHOREVMA NEO;3EPEGERMA;3SEISMA NEO;3XIRON KLASMA;3TROMIKOPSIFISTON
3PSIFISTOLYGISMA;3TROMIKOLYGISMA;3TROMIKOPARAKALESMA;3PSIFISTOPARAKALESMA;3TROMIKOSYNAGMA
3PSIFISTOSYNAGMA;3GORGOSYNTHETON;3ARGOSYNTHETON;3ETERON ARGOSYNTHETON;3OYRANISMA NEO
3THEMATISMOS ESO;4EXO;3THEMA APLOUN;3THES KAI APOTHES;3KATAVASMA;3ENDOFONON;3YFEN KATO;4ANO;3STAVROS
3KLASMA ANO;3DIPLI ARCHAION;3KRATIMA ARCHAION;4ALLO;4NEO;3APODERMA NEO;3APLI;3DIPLI;3TRIPLI
3TETRAPLI;3KORONIS;3LEIMMA ENOS CHRONOU;4DYO CHRONON;4TRION CHRONON;4TESSARON CHRONON
4IMISEOS CHRONOU;3GORGON NEO ANO;4PARESTIGMENON ARISTERA;5DEXIA;3DIGORGON
4PARESTIGMENON ARISTERA KATO;6ANO;5DEXIA;3TRIGORGON;3ARGON;3IMIDIARGON;3DIARGON;3AGOGI POLI ARGI
4ARGOTERI;4ARGI;4METRIA;4MESI;4GORGI;4GORGOTERI;4POLI GORGI;3MARTYRIA PROTOS ICHOS
4ALLI PROTOS ICHOS;4DEYTEROS ICHOS;4ALLI DEYTEROS ICHOS;4TRITOS ICHOS;4TRIFONIAS;4TETARTOS ICHOS
5LEGETOS ICHOS;4LEGETOS ICHOS;4PLAGIOS ICHOS;3ISAKIA TELOUS ICHIMATOS;3APOSTROFOI TELOUS ICHIMATOS
3FANEROSIS TETRAFONIAS;4MONOFONIAS;4DIFONIAS;3MARTYRIA VARYS ICHOS;4PROTOVARYS ICHOS
4PLAGIOS TETARTOS ICHOS;3GORTHMIKON N APLOUN;5DIPLOUN;3ENARXIS KAI FTHORA VOU;3IMIFONON;3IMIFTHORON
3FTHORA ARCHAION DEYTEROU ICHOU;4DIATONIKI PA;5NANA;4NAOS ICHOS;4DIATONIKI DI;4SKLIRON DIATONON DI
4DIATONIKI KE;5ZO;5NI KATO;6ANO;4MALAKON CHROMA DIFONIAS;6MONOFONIAS;3FHTORA SKLIRON CHROMA VASIS
3FTHORA SKLIRON CHROMA SYNAFI;4NENANO;3CHROA ZYGOS;4KLITON;4SPATHI;3FTHORA I YFESIS TETARTIMORION
4ENARMONIOS ANTIFONIA;3YFESIS TRITIMORION;3DIESIS TRITIMORION;4TETARTIMORION;4APLI DYO DODEKATA
4MONOGRAMMOS TESSERA DODEKATA;4DIGRAMMOS EX DODEKATA;4TRIGRAMMOS OKTO DODEKATA
3YFESIS APLI DYO DODEKATA;4MONOGRAMMOS TESSERA DODEKATA;4DIGRAMMOS EX DODEKATA
4TRIGRAMMOS OKTO DODEKATA;3GENIKI DIESIS;4YFESIS;3DIASTOLI APLI MIKRI;5MEGALI;4DIPLI;4THESEOS
3SIMANSIS THESEOS;5DISIMOU;5TRISIMOU;5TETRASIMOU;4ARSEOS;5DISIMOU;5TRISIMOU;5TETRASIMOU;3DIGRAMMA GG
3DIFTOGGOS OU;3STIGMA;3ARKTIKO PA;4VOU;4GA;4DI;4KE;4ZO;4NI;3KENTIMATA NEO MESO;3KENTIMA NEO MESO
3KENTIMATA NEO KATO;3KENTIMA NEO KATO;3KLASMA KATO;3GORGON NEO KATO;+1D100;0MUSICAL u SINGLE BARLINE
2r BARLINE;2y BARLINE;2REVERSE y BARLINE;2DASHED BARLINE;2SHORT BARLINE;2p REPEATn;2Re REPEATn
2REPEAT DOTS;2DAL SEGNO;2DA CAPO;2SEGNO;2CODA;2REPEATED FIGURE-1;3FIGURE-2;3FIGURE-3;2FERMATA;3BELOW
2BREATH MARK;2CAESURA;2BRACE;2BRACKET;2ONE-LINE STAFF;2TWO-LINE STAFF;2THREE-LINE STAFF
2FOUR-LINE STAFF;2FIVE-LINE STAFF;2SIX-LINE STAFF;2SIX-STRqFRETBOARD;2FOUR-STRqFRETBOARD;2G CLEF
4OTTAVA ALTA;5BASSA;2C CLEF;2F CLEF;4OTTAVA ALTA;5BASSA;2DRUM CLEF-1;3CLEF-2;+1D129
2MULTIPLE MEASURE REST;2r SHARP;3FLAT;2FLAT UP;3DOWN;2NATURAL UP;3DOWN;2SHARP UP;3DOWN
2QUARTER TONE SHARP;4FLAT;2COMMON TIME;2CUT TIME;2OTTAVA ALTA;3BASSA;2QUINDICESIMA ALTA;3BASSA
2MULTI REST;2WHOLE REST;2HALF REST;2QUARTER REST;2EeH REST;2SIXTEENTH REST;2THIRTY-SECOND REST
2SIXTY-FOURTH REST;2ONE HUNDRED TWENTY-EeH REST;2X NOTEHEAD;2PLUS NOTEHEAD;2CIRCLE X NOTEHEAD
2SQUARE NOTEHEAD WHITE;4BLACK;2x NOTEHEAD UP WHITE;5BLACK;4p WHITE;5BLACK;4Re WHITE;5BLACK
4DOWN WHITE;5BLACK;4UP Re WHITE;6BLACK;2MOON NOTEHEAD WHITE;4BLACK;2x-ROUND NOTEHEAD DOWN WHITE
5BLACK;2PARENTHESIS NOTEHEAD;2VOID NOTEHEAD;2NOTEHEAD BLACK;2NULL NOTEHEAD;2CLUSTER NOTEHEAD WHITE
4BLACK;2BREVE;2WHOLE NOTE;2HALF NOTE;2QUARTER NOTE;2EeH NOTE;2SIXTEENTH NOTE;2THIRTY-SECOND NOTE
2SIXTY-FOURTH NOTE;2ONE HUNDRED TWENTY-EeH NOTE;2COMBINqSTEM;3SPRECHGESANG STEM;3TREMOLO-1
3TREMOLO-2;3TREMOLO-3;2FINGERED TREMOLO-1;3TREMOLO-2;3TREMOLO-3;2COMBINqAUGMENTAw DOT;3FLAG-1
3FLAG-2;3FLAG-3;3FLAG-4;3FLAG-5;2BEGIN BEAM;2END BEAM;2BEGIN TIE;2END TIE;2BEGIN SLUR;2END SLUR
2BEGIN PHRASE;2END PHRASE;2COMBINqACCENT;3STACCATO;3TENUTO;3STACCATISSIMO;3MARCATO;3MARCATO-STACCATO
3ACCENT-STACCATO;3LOURE;2ARPEGGIATO UP;3DOWN;2COMBINqDOIT;3RIP;3FLIP;3SMEAR;3BEND;3r TONGUE
3TRIPLE TONGUE;2RINFORZANDO;2SUBITO;2Z;2PIANO;2MEZZO;2FORTE;2CRESCENDO;2DECRESCENDO
2GRACE NOTE SLASH;4NO SLASH;2TR;2TURN;2INVERTED TURN;2TURN SLASH;3UP;2ORNAMENT STROKE-1;3STROKE-2
3STROKE-3;3STROKE-4;3STROKE-5;3STROKE-6;3STROKE-7;3STROKE-8;3STROKE-9;3STROKE-10;3STROKE-11
2HAUPTSTIMME;2NEBENSTIMME;2END OF STIMME;2DEGREE SLASH;2COMBINqDOWN BOW;3UP BOW;3HARMONIC
3SNAP PIZZICATO;2PEDAL MARK;3UP MARK;2HALF PEDAL MARK;2GLISSANDO UP;3DOWN;2WITH FINGERNAILS;2DAMP
3ALL;2MAXIMA;2LONGA;2BREVIS;2SEMIBREVIS WHITE;3BLACK;2MINIMA;3BLACK;2SEMIMINIMA WHITE;3BLACK
2FUSA WHITE;3BLACK;2LONGA PERFECTA REST;3IMPERFECTA REST;2BREVIS REST;2SEMIBREVIS REST;2MINIMA REST
2SEMIMINIMA REST;2TEMPUS PERFECTUM CUM PROLAwE PERFECTA;6IMPERFECTA;6PERFECTA DIMINUw-1
3IMPERFECTUM CUM PROLAwE PERFECTA;6IMPERFECTA;7DIMINUw-1;7DIMINUw-2;7DIMINUw-3;2CROIX
2GREGORIAN C CLEF;3F CLEF;2SQUARE B;2VIRGA;2PODATUS;2CLIVIS;2SCANDICUS;2CLIMACUS;2TORCULUS
2PORRECTUS;3FLEXUS;2SCANDICUS FLEXUS;2TORCULUS RESUPINUS;2PES SUBPUNCTIS;2KIEVAN C CLEF
3END OF PIECE;3y NOTE;3RECITATIVE MARK;3WHOLE NOTE;3HALF NOTE;3QUARTER NOTE STEM DOWN;6UP
3EeH NOTE STEM DOWN;6UP;3FLATn;2SORI;2KORON;+1D200;0GREEK VOCAL NOTAw u-1;3u-2;3u-3;3u-4;3u-5;3u-6
3u-7;3u-8;3u-9;3u-10;3u-11;3u-12;3u-13;3u-14;3u-15;3u-16;3u-17;3u-18;3u-19;3u-20;3u-21;3u-22;3u-23
3u-24;3u-50;3u-51;3u-52;3u-53;3u-54;1INSTRUMENTAL NOTAw u-1;3u-2;3u-4;3u-5;3u-7;3u-8;3u-11;3u-12
3u-13;3u-14;3u-17;3u-18;3u-19;3u-23;3u-24;3u-25;3u-26;3u-27;3u-29;3u-30;3u-32;3u-36;3u-37;3u-38
3u-39;3u-40;3u-42;3u-43;3u-45;3u-47;3u-48;3u-49;3u-50;3u-51;3u-52;3u-53;3u-54
0COMBINqGREEK MUSICAL TRISEME;3TETRASEME;3PENTASEME;0GREEK MUSICAL LEIMMA;+1D2E0;0MAYAN NUMERAL ZERO
2ONE;2TWO;2THREE;2FOUR;2FIVE;2SIX;2SEVEN;2Ee;2NINE;2TEN;2ELEVEN;2TWELVE;2THIRTEEN;2FOURTEEN;2FIFTEEN
2SIXTEEN;2SEVENTEEN;2EeEEN;2NINETEEN;+1D300;0MONOGRAM FOR EARTH;0DIGRAM FOR HEAVENLY EARTH
2HUMAN EARTH;2EARTHLY HEAVEN;3HUMAN;2EARTH;0TETRAGRAM FOR CENTRE;2FULL CIRCLE;2MIRED;2BARRIER
2KEEPqhL;2CONTRARIETY;2ASCENT;2OPPOSIw;2BRANCHqOUT;2DEFECTIVENESS OR DISTORw;2DIVERGENCE
2YOUTHFULNESS;2INCREASE;2PENETRAw;2REACH;2CONTACT;2HOLDqBACK;2WAITING;2FOLLOWING;2ADVANCE;2RELEASE
2RESISTANCE;2EASE;2JOY;2CONTENw;2ENDEAVOUR;2DUTIES;2CHANGE;2DECISIVENESS;2BOLD RESOLUw;2PACKING
2LEGION;2CLOSENESS;2KINSHIP;2GATHERING;2STRENGTH;2PURITY;2FULLNESS;2RESIDENCE;2LAW OR MODEL
2RESPONSE;2GOqTO MEET;2ENCOUNTERS;2STOVE;2GREATNESS;2ENLARGEMENT;2PATTERN;2RITUAL;2FLe
2VASTNESS OR WASTING;2CONSTANCY;2MEASURE;2ETERNITY;2UNITY;2DIMINISHMENT;2CLOSED MOUTH;2GUARDEDNESS
2GATHERqIN;2MASSING;2ACCUMULAw;2EMBELLISHMENT;2DOUBT;2WATCH;2SINKING;2INNER;2DEPARTURE;2DARKENING
2DIMMING;2EXHAUSw;2SEVERANCE;2STOPPAGE;2HARDNESS;2COMPLEw;2CLOSURE;2FAILURE;2AGGRAVAw;2COMPLIANCE
2ON THE VERGE;2DIFFICULTIES;2LABOURING;2FOSTERING;+1D360;0COUNTqROD UNIT DIGIT ONE;4TWO;4THREE;4FOUR
4FIVE;4SIX;4SEVEN;4Ee;4NINE;2TENS DIGIT ONE;4TWO;4THREE;4FOUR;4FIVE;4SIX;4SEVEN;4Ee;4NINE
0IDEOGRAPHIC TALLY MARK ONE;3TWO;3THREE;3FOUR;3FIVE;0TALLY MARK ONE;2FIVE;+1D400
0MATHEMATICAL BOLD dL A;3B;3C;3D;3E;3F;3G;3H;3I;3J;3K;3L;3M;3N;3O;3P;3Q;3R;3S;3T;3U;3V;3W;3X;3Y;3Z
2hL A;3B;3C;3D;3E;3F;3G;3H;3I;3J;3K;3L;3M;3N;3O;3P;3Q;3R;3S;3T;3U;3V;3W;3X;3Y;3Z;1ITALIC dL A;3B;3C
3D;3E;3F;3G;3H;3I;3J;3K;3L;3M;3N;3O;3P;3Q;3R;3S;3T;3U;3V;3W;3X;3Y;3Z;2hL A;3B;3C;3D;3E;3F;3G;+1D456
3I;3J;3K;3L;3M;3N;3O;3P;3Q;3R;3S;3T;3U;3V;3W;3X;3Y;3Z;1BOLD ITALIC dL A;4B;4C;4D;4E;4F;4G;4H;4I;4J
4K;4L;4M;4N;4O;4P;4Q;4R;4S;4T;4U;4V;4W;4X;4Y;4Z;3hL A;4B;4C;4D;4E;4F;4G;4H;4I;4J;4K;4L;4M;4N;4O;4P
4Q;4R;4S;4T;4U;4V;4W;4X;4Y;4Z;1SCRIPT dL A;+1D49E;3C;3D;+1D4A2;3G;+1D4A5;3J;3K;+1D4A9;3N;3O;3P;3Q
+1D4AE;3S;3T;3U;3V;3W;3X;3Y;3Z;2hL A;3B;3C;3D;+1D4BB;3F;+1D4BD;3H;3I;3J;3K;3L;3M;3N;+1D4C5;3P;3Q;3R
3S;3T;3U;3V;3W;3X;3Y;3Z;1BOLD SCRIPT dL A;4B;4C;4D;4E;4F;4G;4H;4I;4J;4K;4L;4M;4N;4O;4P;4Q;4R;4S;4T
4U;4V;4W;4X;4Y;4Z;3hL A;4B;4C;4D;4E;4F;4G;4H;4I;4J;4K;4L;4M;4N;4O;4P;4Q;4R;4S;4T;4U;4V;4W;4X;4Y;4Z
1FRAKTUR dL A;3B;+1D507;3D;3E;3F;3G;+1D50D;3J;3K;3L;3M;3N;3O;3P;3Q;+1D516;3S;3T;3U;3V;3W;3X;3Y
+1D51E;2hL A;3B;3C;3D;3E;3F;3G;3H;3I;3J;3K;3L;3M;3N;3O;3P;3Q;3R;3S;3T;3U;3V;3W;3X;3Y;3Z
1r-STRUCK dL A;3B;+1D53B;3D;3E;3F;3G;+1D540;3I;3J;3K;3L;3M;+1D546;3O;+1D54A;3S;3T;3U;3V;3W;3X;3Y
+1D552;2hL A;3B;3C;3D;3E;3F;3G;3H;3I;3J;3K;3L;3M;3N;3O;3P;3Q;3R;3S;3T;3U;3V;3W;3X;3Y;3Z
1BOLD FRAKTUR dL A;4B;4C;4D;4E;4F;4G;4H;4I;4J;4K;4L;4M;4N;4O;4P;4Q;4R;4S;4T;4U;4V;4W;4X;4Y;4Z;3hL A
4B;4C;4D;4E;4F;4G;4H;4I;4J;4K;4L;4M;4N;4O;4P;4Q;4R;4S;4T;4U;4V;4W;4X;4Y;4Z;1SANS-SERIF dL A;3B;3C;3D
3E;3F;3G;3H;3I;3J;3K;3L;3M;3N;3O;3P;3Q;3R;3S;3T;3U;3V;3W;3X;3Y;3Z;2hL A;3B;3C;3D;3E;3F;3G;3H;3I;3J
3K;3L;3M;3N;3O;3P;3Q;3R;3S;3T;3U;3V;3W;3X;3Y;3Z;2BOLD dL A;4B;4C;4D;4E;4F;4G;4H;4I;4J;4K;4L;4M;4N;4O
4P;4Q;4R;4S;4T;4U;4V;4W;4X;4Y;4Z;3hL A;4B;4C;4D;4E;4F;4G;4H;4I;4J;4K;4L;4M;4N;4O;4P;4Q;4R;4S;4T;4U
4V;4W;4X;4Y;4Z;2ITALIC dL A;4B;4C;4D;4E;4F;4G;4H;4I;4J;4K;4L;4M;4N;4O;4P;4Q;4R;4S;4T;4U;4V;4W;4X;4Y
4Z;3hL A;4B;4C;4D;4E;4F;4G;4H;4I;4J;4K;4L;4M;4N;4O;4P;4Q;4R;4S;4T;4U;4V;4W;4X;4Y;4Z
2BOLD ITALIC dL A;5B;5C;5D;5E;5F;5G;5H;5I;5J;5K;5L;5M;5N;5O;5P;5Q;5R;5S;5T;5U;5V;5W;5X;5Y;5Z;4hL A
5B;5C;5D;5E;5F;5G;5H;5I;5J;5K;5L;5M;5N;5O;5P;5Q;5R;5S;5T;5U;5V;5W;5X;5Y;5Z;1MONOSPACE dL A;3B;3C;3D
3E;3F;3G;3H;3I;3J;3K;3L;3M;3N;3O;3P;3Q;3R;3S;3T;3U;3V;3W;3X;3Y;3Z;2hL A;3B;3C;3D;3E;3F;3G;3H;3I;3J
3K;3L;3M;3N;3O;3P;3Q;3R;3S;3T;3U;3V;3W;3X;3Y;3Z;1ITALIC hL DOTLESS I;4J;+1D6A8;1BOLD dL ALPHA;3BETA
3GAMMA;3DELTA;3EPSILON;3ZETA;3ETA;3THETA;3IOTA;3KAPPA;3LAMDA;3MU;3NU;3XI;3OMICRON;3PI;3RHO;3THETA u
3SIGMA;3TAU;3UPSILON;3PHI;3CHI;3PSI;3OMEGA;2NABLA;2hL ALPHA;3BETA;3GAMMA;3DELTA;3EPSILON;3ZETA;3ETA
3THETA;3IOTA;3KAPPA;3LAMDA;3MU;3NU;3XI;3OMICRON;3PI;3RHO;3y SIGMA;3SIGMA;3TAU;3UPSILON;3PHI;3CHI
3PSI;3OMEGA;2PARTIAL DIFFERENTIAL;2EPSILON u;2THETA u;2KAPPA u;2PHI u;2RHO u;2PI u;1ITALIC dL ALPHA
3BETA;3GAMMA;3DELTA;3EPSILON;3ZETA;3ETA;3THETA;3IOTA;3KAPPA;3LAMDA;3MU;3NU;3XI;3OMICRON;3PI;3RHO
3THETA u;3SIGMA;3TAU;3UPSILON;3PHI;3CHI;3PSI;3OMEGA;2NABLA;2hL ALPHA;3BETA;3GAMMA;3DELTA;3EPSILON
3ZETA;3ETA;3THETA;3IOTA;3KAPPA;3LAMDA;3MU;3NU;3XI;3OMICRON;3PI;3RHO;3y SIGMA;3SIGMA;3TAU;3UPSILON
3PHI;3CHI;3PSI;3OMEGA;2PARTIAL DIFFERENTIAL;2EPSILON u;2THETA u;2KAPPA u;2PHI u;2RHO u;2PI u
1BOLD ITALIC dL ALPHA;4BETA;4GAMMA;4DELTA;4EPSILON;4ZETA;4ETA;4THETA;4IOTA;4KAPPA;4LAMDA;4MU;4NU;4XI
4OMICRON;4PI;4RHO;4THETA u;4SIGMA;4TAU;4UPSILON;4PHI;4CHI;4PSI;4OMEGA;3NABLA;3hL ALPHA;4BETA;4GAMMA
4DELTA;4EPSILON;4ZETA;4ETA;4THETA;4IOTA;4KAPPA;4LAMDA;4MU;4NU;4XI;4OMICRON;4PI;4RHO;4y SIGMA;4SIGMA
4TAU;4UPSILON;4PHI;4CHI;4PSI;4OMEGA;3PARTIAL DIFFERENTIAL;3EPSILON u;3THETA u;3KAPPA u;3PHI u;3RHO u
3PI u;1SANS-SERIF BOLD dL ALPHA;4BETA;4GAMMA;4DELTA;4EPSILON;4ZETA;4ETA;4THETA;4IOTA;4KAPPA;4LAMDA
4MU;4NU;4XI;4OMICRON;4PI;4RHO;4THETA u;4SIGMA;4TAU;4UPSILON;4PHI;4CHI;4PSI;4OMEGA;3NABLA;3hL ALPHA
4BETA;4GAMMA;4DELTA;4EPSILON;4ZETA;4ETA;4THETA;4IOTA;4KAPPA;4LAMDA;4MU;4NU;4XI;4OMICRON;4PI;4RHO
4y SIGMA;4SIGMA;4TAU;4UPSILON;4PHI;4CHI;4PSI;4OMEGA;3PARTIAL DIFFERENTIAL;3EPSILON u;3THETA u
3KAPPA u;3PHI u;3RHO u;3PI u;3ITALIC dL ALPHA;5BETA;5GAMMA;5DELTA;5EPSILON;5ZETA;5ETA;5THETA;5IOTA
5KAPPA;5LAMDA;5MU;5NU;5XI;5OMICRON;5PI;5RHO;5THETA u;5SIGMA;5TAU;5UPSILON;5PHI;5CHI;5PSI;5OMEGA
4NABLA;4hL ALPHA;5BETA;5GAMMA;5DELTA;5EPSILON;5ZETA;5ETA;5THETA;5IOTA;5KAPPA;5LAMDA;5MU;5NU;5XI
5OMICRON;5PI;5RHO;5y SIGMA;5SIGMA;5TAU;5UPSILON;5PHI;5CHI;5PSI;5OMEGA;4PARTIAL DIFFERENTIAL
4EPSILON u;4THETA u;4KAPPA u;4PHI u;4RHO u;4PI u;1BOLD dL DIGAMMA;2hL DIGAMMA;+1D7CE;2DIGIT ZERO
3ONE;3TWO;3THREE;3FOUR;3FIVE;3SIX;3SEVEN;3Ee;3NINE;1r-STRUCK DIGIT ZERO;3ONE;3TWO;3THREE;3FOUR;3FIVE
3SIX;3SEVEN;3Ee;3NINE;1SANS-SERIF DIGIT ZERO;3ONE;3TWO;3THREE;3FOUR;3FIVE;3SIX;3SEVEN;3Ee;3NINE
2BOLD DIGIT ZERO;4ONE;4TWO;4THREE;4FOUR;4FIVE;4SIX;4SEVEN;4Ee;4NINE;1MONOSPACE DIGIT ZERO;3ONE;3TWO
3THREE;3FOUR;3FIVE;3SIX;3SEVEN;3Ee;3NINE;0SIGNWRITqHAND-FIST INDEX;1HAND-CIRCLE INDEX
1HAND-CUP INDEX;1HAND-OVAL INDEX;1HAND-HINGE INDEX;1HAND-ANGLE INDEX;1HAND-FIST INDEX BENT
1HAND-CIRCLE INDEX BENT;1HAND-FIST THUMB UNDER INDEX BENT;2INDEX RAISED KNUCKLE;3CUPPED;3HINGED;4LOW
1HAND-CIRCLE INDEX HINGE;1HAND-FIST INDEX MIDDLE;1HAND-CIRCLE INDEX MIDDLE
1HAND-FIST INDEX MIDDLE BENT;4RAISED KNUCKLES;4HINGED;3UP MIDDLE HINGED;3HINGED MIDDLE UP
3MIDDLE CONJOINED;5INDEX BENT;5MIDDLE BENT;5CUPPED;5HINGED;4CROSSED
1HAND-CIRCLE INDEX MIDDLE CROSSED;1HAND-FIST MIDDLE BENT OVER INDEX;2INDEX BENT OVER MIDDLE
3MIDDLE THUMB;1HAND-CIRCLE INDEX MIDDLE THUMB;1HAND-FIST INDEX MIDDLE STRAe THUMB BENT
4BENT THUMB STRAe;4THUMB BENT;4HINGED SPREAD THUMB SIDE;3UP MIDDLE HINGED THUMB SIDE;7CONJOINED
3HINGED MIDDLE UP THUMB SIDE;3MIDDLE UP SPREAD THUMB FORWARD;4THUMB CUPPED;5CIRCLED;5HOOKED;5HINGED
2THUMB BETWEEN INDEX MIDDLE STRAe;2INDEX MIDDLE CONJOINED THUMB SIDE;7CONJOINED;7BENT
2MIDDLE THUMB HOOKED INDEX UP;2INDEX THUMB HOOKED MIDDLE UP;3MIDDLE CONJOINED HINGED THUMB SIDE
4CROSSED THUMB SIDE;4CONJOINED THUMB FORWARD;5CUPPED THUMB FORWARD;2MIDDLE THUMB CUPPED INDEX UP
2INDEX THUMB CUPPED MIDDLE UP;2MIDDLE THUMB CIRCLED INDEX UP;6HINGED
2INDEX THUMB ANGLED OUT MIDDLE UP;5IN MIDDLE UP;4CIRCLED MIDDLE UP;3MIDDLE THUMB CONJOINED HINGED
5ANGLED OUT;6;2MIDDLE THUMB ANGLED OUT INDEX UP;7CROSSED;5INDEX UP;2INDEX THUMB HOOKED MIDDLE HINGED
1HAND-FLAT FOUR FINGERS;4BENT;4HINGED;4CONJOINED;5SPLIT;1HAND-CLAW FOUR FINGERS CONJOINED
1HAND-FIST FOUR FINGERS CONJOINED BENT;1HAND-HINGE FOUR FINGERS CONJOINED
1HAND-FLAT FIVE FINGERS SPREAD;2HEEL FIVE FINGERS SPREAD;2FIVE FINGERS SPREAD FOUR BENT
2HEEL FIVE FINGERS SPREAD FOUR BENT;2FIVE FINGERS SPREAD BENT;2HEEL FIVE FINGERS SPREAD BENT
2FIVE FINGERS SPREAD THUMB FORWARD;1HAND-CUP FIVE FINGERS SPREAD;5OPEN
1HAND-HINGE FIVE FINGERS SPREAD OPEN;1HAND-OVAL FIVE FINGERS SPREAD
1HAND-FLAT FIVE FINGERS SPREAD HINGED;6THUMB SIDE;6NO THUMB;2;2BETWEEN PALM FACINGS;2HEEL
2THUMB SIDE;2HEEL THUMB SIDE;2THUMB BENT;3FORWARD;2SPLIT INDEX THUMB SIDE;3CENTRE;4THUMB SIDE;6BENT
3LITTLE;1HAND-CLAW;2THUMB SIDE;2NO THUMB;2THUMB FORWARD;1HAND-HOOK CURLICUE;2;1HAND-CUP OPEN;2
2OPEN THUMB SIDE;2THUMB SIDE;2OPEN NO THUMB;2NO THUMB;2OPEN THUMB FORWARD;2THUMB FORWARD
1HAND-CURLICUE OPEN;2;1HAND-CIRCLE;1HAND-OVAL;2THUMB SIDE;2NO THUMB;2THUMB FORWARD;1HAND-HINGE OPEN
3THUMB FORWARD;2;2hL;2OPEN THUMB SIDE;2THUMB SIDE;2OPEN NO THUMB;2NO THUMB;2THUMB SIDE TOUCHqINDEX
3BETWEEN MIDDLE RING;1HAND-ANGLE;1HAND-FIST INDEX MIDDLE RING;1HAND-CIRCLE INDEX MIDDLE RING
1HAND-HINGE INDEX MIDDLE RING;1HAND-ANGLE INDEX MIDDLE RING;1HAND-HINGE LITTLE
1HAND-FIST INDEX MIDDLE RqBENT;5CONJOINED;1HAND-HINGE INDEX MIDDLE RqCONJOINED
1HAND-FIST LITTLE DOWN;4RIPPLE STRAe;5CURVED;4OTHERS CIRCLED;3UP;2THUMB UNDER LITTLE UP
1HAND-CIRCLE LITTLE UP;1HAND-OVAL LITTLE UP;1HAND-ANGLE LITTLE UP;1HAND-FIST LITTLE RAISED KNUCKLE
3BENT;3TOUCHES THUMB;3THUMB;1HAND-HINGE LITTLE THUMB;1HAND-FIST LITTLE INDEX THUMB
1HAND-HINGE LITTLE INDEX THUMB;1HAND-ANGLE LITTLE INDEX THUMB INDEX THUMB OUT;7
1HAND-FIST LITTLE INDEX;1HAND-CIRCLE LITTLE INDEX;1HAND-HINGE LITTLE INDEX;1HAND-ANGLE LITTLE INDEX
1HAND-FIST INDEX MIDDLE LITTLE;1HAND-CIRCLE INDEX MIDDLE LITTLE;1HAND-HINGE INDEX MIDDLE LITTLE
2RING;1HAND-ANGLE INDEX MIDDLE LITTLE;1HAND-FIST INDEX MIDDLE CROSS LITTLE
1HAND-CIRCLE INDEX MIDDLE CROSS LITTLE;1HAND-FIST RqDOWN;1HAND-HINGE RqDOWN INDEX THUMB HOOK MIDDLE
1HAND-ANGLE RqDOWN MIDDLE THUMB INDEX CROSS;1HAND-FIST RqUP;3RAISED KNUCKLE;3LITTLE
1HAND-CIRCLE RqLITTLE;1HAND-OVAL RqLITTLE;1HAND-ANGLE RqLITTLE;1HAND-FIST RqMIDDLE;4CONJOINED
4RAISED KNUCKLES;3INDEX;3THUMB;1HAND-HOOK RqTHUMB;1HAND-FIST INDEX RqLITTLE
1HAND-CIRCLE INDEX RqLITTLE;1HAND-CURLICUE INDEX RqLITTLE ON;1HAND-HOOK INDEX RqLITTLE OUT;5IN
5UNDER;1HAND-CUP INDEX RqLITTLE;1HAND-HINGE INDEX RqLITTLE;1HAND-ANGLE INDEX RqLITTLE OUT;5
1HAND-FIST MIDDLE DOWN;1HAND-HINGE MIDDLE;1HAND-FIST MIDDLE UP;1HAND-CIRCLE MIDDLE UP
1HAND-FIST MIDDLE RAISED KNUCKLE;3UP THUMB SIDE;1HAND-HOOK MIDDLE THUMB
1HAND-FIST MIDDLE THUMB LITTLE;3LITTLE;3RqLITTLE;1HAND-CIRCLE MIDDLE RqLITTLE
1HAND-CURLICUE MIDDLE RqLITTLE ON;1HAND-CUP MIDDLE RqLITTLE;1HAND-HINGE MIDDLE RqLITTLE
1HAND-ANGLE MIDDLE RqLITTLE OUT;5IN;5;1HAND-CIRCLE MIDDLE RqLITTLE BENT
1HAND-CLAW MIDDLE RqLITTLE CONJOINED;6SIDE;1HAND-HOOK MIDDLE RqLITTLE CONJOINED OUT;6IN;6
1HAND-HINGE INDEX HINGED;1HAND-FIST INDEX THUMB SIDE;1HAND-HINGE INDEX THUMB SIDE
1HAND-FIST INDEX THUMB SIDE THUMB DIAGONAL;6CONJOINED;6BENT;5INDEX BENT;5BOTH BENT;5INDEX HINGE
4FORWARD INDEX STRAe;6BENT;4HOOK;4CURLICUE;4CURVE THUMB INSIDE
1HAND-CLAW INDEX THUMB CURVE THUMB INSIDE;1HAND-FIST INDEX THUMB CURVE THUMB UNDER;4CIRCLE
1HAND-CUP INDEX THUMB;4OPEN;1HAND-HINGE INDEX THUMB OPEN;4LARGE;4;4hL;1HAND-ANGLE INDEX THUMB OUT
4IN;4;1HAND-FIST THUMB;3HEEL;3SIDE DIAGONAL;4CONJOINED;4BENT;3FORWARD;3BETWEEN INDEX MIDDLE
4MIDDLE RING;4RqLITTLE;3UNDER TWO FINGERS;3OVER TWO FINGERS;3UNDER THREE FINGERS;4FOUR FINGERS
3OVER FOUR RAISED KNUCKLES;2;2HEEL;1TOUCH SINGLE;2MULTIPLE;2BETWEEN;1GRASP SINGLE;2MULTIPLE;2BETWEEN
1STRIKE SINGLE;2MULTIPLE;2BETWEEN;1BRUSH SINGLE;2MULTIPLE;2BETWEEN;1RUB SINGLE;2MULTIPLE;2BETWEEN
1SURFACE uS;2BETWEEN;1SQUEEZE LARGE SINGLE;2hL SINGLE;2LARGE MULTIPLE;2hL MULTIPLE;2SEQUENTIAL
1FLICK LARGE SINGLE;2hL SINGLE;2LARGE MULTIPLE;2hL MULTIPLE;2SEQUENTIAL;1SQUEEZE FLICK ALTERNATING
1MOVEMENT-HINGE UP DOWN LARGE;4hL;3SEQUENTIAL;2DOWN SEQUENTIAL;2UP DOWN ALTERNATqLARGE;5hL
2SIDE TO SIDE SCISSORS;1MOVEMENT-WALLPLANE FINGER CONTACT;1MOVEMENT-FLOORPLANE FINGER CONTACT
1MOVEMENT-WALLPLANE SINGLE STRAe hL;4MEDIUM;4LARGE;4LARGEST;3WRIST FLEX;2r STRAe;3WRIST FLEX
3ALTERNATING;4WRIST FLEX;2CROSS;2TRIPLE STRAe MOVEMENT;3WRIST FLEX;3ALTERNATING;4WRIST FLEX;2BEND hL
3MEDIUM;3LARGE;2CORNER hL;3MEDIUM;3LARGE;3ROTAw;2CHECK hL;3MEDIUM;3LARGE;2BOX hL;3MEDIUM;3LARGE
2ZIGZAG hL;3MEDIUM;3LARGE;2PEAKS hL;3MEDIUM;3LARGE;1TRAVEL-WALLPLANE ROTAw-WALLPLANE SINGLE;3r
3ALTERNATING;2ROTAw-FLOORPLANE SINGLE;3r;3ALTERNATING;2SHAKING;2ARM SPIRAL SINGLE;4r;4TRIPLE
1MOVEMENT-DIAGONAL AWAY hL;3MEDIUM;3LARGE;3LARGEST;2TOk hL;3MEDIUM;3LARGE;3LARGEST;2BETWEEN AWAY hL
4MEDIUM;4LARGE;4LARGEST;3TOk hL;4MEDIUM;4LARGE;4LARGEST;1MOVEMENT-FLOORPLANE SINGLE STRAe hL;4MEDIUM
4LARGE;4LARGEST;3WRIST FLEX;2r STRAe;3WRIST FLEX;3ALTERNATING;4WRIST FLEX;2CROSS
2TRIPLE STRAe MOVEMENT;3WRIST FLEX;3ALTERNATqMOVEMENT;4WRIST FLEX;2BEND;2CORNER hL;3MEDIUM;3LARGE
2CHECK;2BOX hL;3MEDIUM;3LARGE;2ZIGZAG hL;3MEDIUM;3LARGE;2PEAKS hL;3MEDIUM;3LARGE
1TRAVEL-FLOORPLANE ROTAw-FLOORPLANE SINGLE;3r;3ALTERNATING;2ROTAw-WALLPLANE SINGLE;3r;3ALTERNATING
2SHAKING;1MOVEMENT-WALLPLANE CURVE QUARTER hL;4MEDIUM;4LARGE;4LARGEST;3HALF-CIRCLE hL;4MEDIUM;4LARGE
4LARGEST;3THREE-QUARTER CIRCLE hL;5MEDIUM;2HUMP hL;3MEDIUM;3LARGE;2LOOP hL;3MEDIUM;3LARGE;3hL r
2WAVE CURVE r hL;5MEDIUM;5LARGE;4TRIPLE hL;5MEDIUM;5LARGE;2CURVE THEN STRAe;2CURVED CROSS hL;4MEDIUM
1ROTAw-WALLPLANE SINGLE;2r;2ALTERNATE;1MOVEMENT-WALLPLANE SHAKING;2CURVE HITTqFRONT WALL
2HUMP HITTqFRONT WALL;2LOOP HITTqFRONT WALL;2WAVE HITTqFRONT WALL
1ROTAw-WALLPLANE SINGLE HITTqFRONT WALL;2r HITTqFRONT WALL;2ALTERNATqHITTqFRONT WALL
1MOVEMENT-WALLPLANE CURVE HITTqCHEST;2HUMP HITTqCHEST;2LOOP HITTqCHEST;2WAVE HITTqCHEST
1ROTAw-WALLPLANE SINGLE HITTqCHEST;2r HITTqCHEST;2ALTERNATqHITTqCHEST
1MOVEMENT-WALLPLANE WAVE DIAGONAL PATH hL;5MEDIUM;5LARGE;1MOVEMENT-FLOORPLANE CURVE HITTqCEILqhL
5LARGE;2HUMP HITTqCEILqhL r;5LARGE r;5hL TRIPLE;5LARGE TRIPLE;2LOOP HITTqCEILqhL SINGLE
5LARGE SINGLE;5hL r;5LARGE r;2WAVE HITTqCEILqhL;5LARGE;1ROTAw-FLOORPLANE SINGLE HITTqCEILING
2r HITTqCEILING;2ALTERNATqHITTqCEILING;1MOVEMENT-FLOORPLANE CURVE HITTqFLOOR hL;5LARGE
2HUMP HITTqFLOOR hL r;5LARGE r;5TRIPLE hL TRIPLE;6LARGE TRIPLE;2LOOP HITTqFLOOR hL SINGLE
5LARGE SINGLE;5hL r;5LARGE r;2WAVE HITTqFLOOR hL;5LARGE;1ROTAw-FLOORPLANE SINGLE HITTqFLOOR
2r HITTqFLOOR;2ALTERNATqHITTqFLOOR;1MOVEMENT-FLOORPLANE CURVE hL;3MEDIUM;3LARGE;3LARGEST;3COMBINED
2HUMP hL;2LOOP hL;2WAVE SNAKE;3hL;3LARGE;1ROTAw-FLOORPLANE SINGLE;2r;2ALTERNATING
1MOVEMENT-FLOORPLANE SHAKqPARALLEL;1MOVEMENT-WALLPLANE ARM CIRCLE hL SINGLE;4MEDIUM SINGLE;4hL r
4MEDIUM r;1MOVEMENT-FLOORPLANE ARM CIRCLE HITTqWALL hL SINGLE;6MEDIUM SINGLE;6LARGE SINGLE;6hL r
6MEDIUM r;6LARGE r;1MOVEMENT-WALLPLANE WRIST CIRCLE FRONT SINGLE;5r
1MOVEMENT-FLOORPLANE WRIST CIRCLE HITTqWALL SINGLE;6r;1MOVEMENT-WALLPLANE FINGER CIRCLES SINGLE;4r
1MOVEMENT-FLOORPLANE FINGER CIRCLES HITTqWALL SINGLE;6r;1DYNAMICfHEAD hL;3LARGE;2FAST;2SLOW;2TENSE
2RELAXED;2SIMULTANEOUS;3ALTERNATING;2EVERY OTHER TIME;2GRADUAL;1HEAD;2RIM;2MOVEMENT-WALLPLANE STRAe
3TILT;2MOVEMENT-FLOORPLANE STRAe;2MOVEMENT-WALLPLANE CURVE;2MOVEMENT-FLOORPLANE CURVE
2MOVEMENT CIRCLE;1FACE DIRECw POSIw NOSE FORWARD TILTING;5UP OR DOWN;8TILTING;1EYEBROWS STRAe UP
3NEUTRAL;3DOWN;1DREAMY EYEBROWS NEUTRAL DOWN;3DOWN NEUTRAL;3UP NEUTRAL;3NEUTRAL UP;1FOREHEAD NEUTRAL
2CONTACT;2WRINKLED;1EYES OPEN;2SQUEEZED;2CLOSED;1EYE BLINK SINGLE;3MULTIPLE;1EYES HALF OPEN
2WIDE OPEN;2HALF CLOSED;2WIDENqMOVEMENT;1EYE WINK;1EYELASHES UP;2DOWN;2FLUTTERING
1EYEGAZE-WALLPLANE STRAe;3r;3ALTERNATING;1EYEGAZE-FLOORPLANE STRAe;3r;3ALTERNATING
1EYEGAZE-WALLPLANE CURVED;1EYEGAZE-FLOORPLANE CURVED;1EYEGAZE-WALLPLANE CIRCLING;1CHEEKS PUFFED
2NEUTRAL;2SUCKED;1TENSE CHEEKS HIGH;3MIDDLE;3LOW;1EARS;1NOSE NEUTRAL;2CONTACT;2WRINKLES;2WIGGLES
1AIR BLOWqOUT;2SUCKqIN;2BLOW hL ROTAwS;2SUCK hL ROTAwS;1BREATH INHALE;2EXHALE;1MOUTH CLOSED NEUTRAL
3FORWARD;3CONTACT;2SMILE;3WRINKLED;3OPEN;2FROWN;3WRINKLED;3OPEN;2OPEN CIRCLE;3FORWARD;3WRINKLED
3OVAL;4WRINKLED;4YAWN;3RECTANGLE;4WRINKLED;4YAWN;2KISS;3FORWARD;3WRINKLED;2TENSE;3FORWARD;3SUCKED
1LIPS PRESSED TOGETHER;1LIP LOWER OVER UPPER;2UPPER OVER LOWER;1MOUTH CORNERS;2WRINKLES SINGLE;3r
1TONGUE STICKqOUT FAR;2LICKqLIPS;2TIP BETWEEN LIPS;3TOUCHqINSIDE MOUTH;2INSIDE MOUTH RELAXED
2MOVES AGAINST CHEEK;2CENTRE STICKqOUT;3INSIDE MOUTH;1TEETH;2MOVEMENT;2ON TONGUE;4MOVEMENT;3LIPS
4MOVEMENT;2BITE LIPS;1MOVEMENT-WALLPLANE JAW;1MOVEMENT-FLOORPLANE JAW;1NECK;1HAIR;1EXCITEMENT
1SHOULDER HIP SPINE;3POSIwS;1WALLPLANE SHOULDER HIP MOVE;1FLOORPLANE SHOULDER HIP MOVE
1SHOULDER TILTqFROM WAIST;1TORSO-WALLPLANE STRAe STRETCH;2CURVED BEND;1TORSO-FLOORPLANE TWISTING
1UPPER BODY TILTqFROM HIP JOINTS;1LIMB COMBINAw;2LENGTH-1;2LENGTH-2;2LENGTH-3;2LENGTH-4;2LENGTH-5
2LENGTH-6;2LENGTH-7;1FINGER;1LOCAw-WALLPLANE SPACE;1LOCAw-FLOORPLANE SPACE;1LOCAw HEe;2WIDTH;2DEPTH
2HEAD NECK;2TORSO;2LIMBS DIGITS;1COMMA;1FULL STOP;1SEMICOLON;1COLON;1PARENTHESIS;+1DA9B
1FILL MODIFIER-2;2MODIFIER-3;2MODIFIER-4;2MODIFIER-5;2MODIFIER-6;+1DAA1;1ROTAw MODIFIER-2
2MODIFIER-3;2MODIFIER-4;2MODIFIER-5;2MODIFIER-6;2MODIFIER-7;2MODIFIER-8;2MODIFIER-9;2MODIFIER-10
2MODIFIER-11;2MODIFIER-12;2MODIFIER-13;2MODIFIER-14;2MODIFIER-15;2MODIFIER-16;+1DF00
0LATIN haFENG DIGRAPHbTRILL;3REVERSED SCRIPT G;1mhL dL TURNED G;1haREVERSED K;1mhL dL LbBELT
1haLEZHbRETROFLEX HOOK;3TURNED YbBELT;3REVERSED ENG;3TURNED RbLONG LEGiRETROFLEX HOOK
3TbHOOKiRETROFLEX HOOK;1mRETROFLEX CLICKbRETROFLEX HOOK;1haESHbr BAR;7AND CURL;3TURNED TbCURL
1mINVERTED GLOTTAL STOPbCURL;2STRETCHED CbCURL;2hL dL TURNED K;1haLbFISHHOOK
3DEZH DIGRAPHbPALATAL HOOK;3LbBELTiPALATAL HOOK;3ENGbPALATAL HOOK;3TURNED RbPALATAL HOOK
3RbFISHHOOKiPALATAL HOOK;3TESH DIGRAPHbPALATAL HOOK;3EZHbPALATAL HOOK;3DEZH DIGRAPHbRETROFLEX HOOK
3IbSTROKEiRETROFLEX HOOK;3ObRETROFLEX HOOK;3TESH DIGRAPHbRETROFLEX HOOK;3CbRETROFLEX HOOK;3SbCURL
+1E000;0COMBINqGLAGOLITIC mAZU;3BUKY;3VEDE;3GLAGOLI;3DOBRO;3YESTU;3ZHIVETE;+1E008;3ZEMLJA;3IZHE
3INITIAL IZHE;3I;3DJERVI;3KAKO;3LJUDIJE;3MYSLITE;3NASHI;3ONU;3POKOJI;3RITSI;3SLOVO;3TVRIDO;3UKU
3FRITU;3HERU;+1E01B;3SHTA;3TSI;3CHRIVI;3SHA;3YERU;3YERI;3YATI;+1E023;3YU;3hL YUS;+1E026;3YO
3IOTATED hL YUS;3BIG YUS;3IOTATED BIG YUS;3FITA;+1E100;0NYIAKENG PUACHUE HMONG mMA;4TSA;4NTA;4TA;4HA
4NA;4XA;4NKA;4CA;4LA;4SA;4ZA;4NCA;4NTSA;4KA;4DA;4NYA;4NRA;4VA;4NTXA;4TXA;4FA;4RA;4QA;4YA;4NQA;4PA
4XYA;4NPA;4DLA;4NPLA;4HAH;4MLA;4PLA;4GA;4RRA;4A;4AA;4I;4U;4O;4OO;4E;4EE;4W;+1E130;3TONE-B;3TONE-M
3TONE-J;3TONE-V;3TONE-S;3TONE-G;3TONE-D;3SIGN FOR PERSON;5THING;5LOCAw;5ANIMAL;5INVERTEBRATE;4XW XW
3SYLLABLE LENGTHENER;+1E140;3DIGIT ZERO;4ONE;4TWO;4THREE;4FOUR;4FIVE;4SIX;4SEVEN;4Ee;4NINE;+1E14E
3LOGOGRAM NYAJ;3CIRCLED CA;+1E290;0TOTO mPA;2BA;2TA;2DA;2KA;2GA;2MA;2NA;2NGA;2SA;2CHA;2YA;2WA;2JA
2HA;2RA;2LA;2I;2BREATHY I;2IU;2BREATHY IU;2U;2E;2BREATHY E;2EO;2BREATHY EO;2O;2AE;2BREATHY AE;2A
1SIGN RISqTONE;+1E2C0;0WANCHO mAA;2A;2BA;2CA;2DA;2GA;2YA;2PHA;2LA;2NA;2PA;2TA;2THA;2FA;2SA;2SHA;2JA
2ZA;2WA;2VA;2KA;2O;2AU;2RA;2MA;2KHA;2HA;2E;2I;2NGA;2U;2LLHA;2TSA;2TRA;2ONG;2AANG;2ANG;2ING;2ON;2EN
2AAN;2NYA;2UEN;2YIH;1TONE TUP;2TUPNI;2KOI;2KOINI;1DIGIT ZERO;2ONE;2TWO;2THREE;2FOUR;2FIVE;2SIX
2SEVEN;2Ee;2NINE;+1E2FF;1NGUNn;+1E7E0;0ETHIOPIC SYLLABLE HHYA;2HHYU;2HHYI;2HHYAA;2HHYEE;2HHYE;2HHYO
+1E7E8;2GURAGE HHWA;2HHWI;2HHWEE;2HHWE;+1E7ED;2GURAGE MWI;3MWEE;+1E7F0;3QWI;3QWEE;3QWE;3BWI;3BWEE
3KWI;3KWEE;3KWE;3GWI;3GWEE;3GWE;3FWI;3FWEE;3PWI;3PWEE;+1E800;0MENDE KIKAKUI SYLLABLE M001 KI
3M002 KA;3M003 KU;3M065 KEE;3M095 KE;3M076 KOO;3M048 KO;3M179 KUA;3M004 WI;3M005 WA;3M006 WU
3M126 WEE;3M118 WE;3M114 WOO;3M045 WO;3M194 WUI;3M143 WEI;3M061 WVI;3M049 WVA;3M139 WVE;3M007 MIN
3M008 MAN;3M009 MUN;3M059 MEN;3M094 MON;3M154 MUAN;3M189 MUEN;3M010 BI;3M011 BA;3M012 BU;3M150 BEE
3M097 BE;3M103 BOO;3M138 BO;3M013 I;3M014 A;3M015 U;3M163 EE;3M100 E;3M165 OO;3M147 O;3M137 EI
3M131 IN;3M135 IN;3M195 AN;3M178 EN;3M019 SI;3M020 SA;3M021 SU;3M162 SEE;3M116 SE;3M136 SOO;3M079 SO
3M196 SIA;3M025 LI;3M026 LA;3M027 LU;3M084 LEE;3M073 LE;3M054 LOO;3M153 LO;3M110 LONG LE;3M016 DI
3M017 DA;3M018 DU;3M089 DEE;3M180 DOO;3M181 DO;3M022 TI;3M023 TA;3M024 TU;3M091 TEE;3M055 TE
3M104 TOO;3M069 TO;3M028 JI;3M029 JA;3M030 JU;3M157 JEE;3M113 JE;3M160 JOO;3M063 JO;3M175 LONG JO
3M031 YI;3M032 YA;3M033 YU;3M109 YEE;3M080 YE;3M141 YOO;3M121 YO;3M034 FI;3M035 FA;3M036 FU
3M078 FEE;3M075 FE;3M133 FOO;3M088 FO;3M197 FUA;3M101 FAN;3M037 NIN;3M038 NAN;3M039 NUN;3M117 NEN
3M169 NON;3M176 HI;3M041 HA;3M186 HU;3M040 HEE;3M096 HE;3M042 HOO;3M140 HO;3M083 HEEI;3M128 HOOU
3M053 HIN;3M130 HAN;3M087 HUN;3M052 HEN;3M193 HON;3M046 HUAN;3M090 NGGI;3M043 NGGA;3M082 NGGU
3M115 NGGEE;3M146 NGGE;3M156 NGGOO;3M120 NGGO;3M159 NGGAA;3M127 NGGUA;3M086 LONG NGGE
3M106 LONG NGGOO;3M183 LONG NGGO;3M155 GI;3M111 GA;3M168 GU;3M190 GEE;3M166 GUEI;3M167 GUAN
3M184 NGEN;3M057 NGON;3M177 NGUAN;3M068 PI;3M099 PA;3M050 PU;3M081 PEE;3M051 PE;3M102 POO;3M066 PO
3M145 MBI;3M062 MBA;3M122 MBU;3M047 MBEE;3M188 MBEE;3M072 MBE;3M172 MBOO;3M174 MBO;3M187 MBUU
3M161 LONG MBE;3M105 LONG MBOO;3M142 LONG MBO;3M132 KPI;3M092 KPA;3M074 KPU;3M044 KPEE;3M108 KPE
3M112 KPOO;3M158 KPO;3M124 GBI;3M056 GBA;3M148 GBU;3M093 GBEE;3M107 GBE;3M071 GBOO;3M070 GBO
3M171 RA;3M123 NDI;3M129 NDA;3M125 NDU;3M191 NDEE;3M119 NDE;3M067 NDOO;3M064 NDO;3M152 NJA;3M192 NJU
3M149 NJEE;3M134 NJOO;3M182 VI;3M185 VA;3M151 VU;3M173 VEE;3M085 VE;3M144 VOO;3M077 VO;3M164 NYIN
3M058 NYAN;3M170 NYUN;3M098 NYEN;3M060 NYON;+1E8C7;2DIGIT ONE;3TWO;3THREE;3FOUR;3FIVE;3SIX;3SEVEN
3Ee;3NINE;2COMBINqNUMBER TEENS;4TENS;4HUNDREDS;4THOUSANDS;4TEN THOUSANDS;4HUNDRED THOUSANDS
4MILLIONS;+1E900;0ADLAM daALIF;3DAALI;3LAAM;3MIIM;3BA;3SINNYIIYHE;3PE;3BHE;3RA;3E;3FA;3I;3O;3DHA
3YHE;3WAW;3NUN;3KAF;3YA;3U;3JIIM;3CHI;3HA;3QAAF;3GA;3NYA;3TU;3NHA;3VA;3KHA;3GBE;3ZAL;3KPO;3SHA
1haALIF;3DAALI;3LAAM;3MIIM;3BA;3SINNYIIYHE;3PE;3BHE;3RA;3E;3FA;3I;3O;3DHA;3YHE;3WAW;3NUN;3KAF;3YA;3U
3JIIM;3CHI;3HA;3QAAF;3GA;3NYA;3TU;3NHA;3VA;3KHA;3GBE;3ZAL;3KPO;3SHA;1ALIF LENGTHENER
1VOWEL LENGTHENER;1GEMINAw MARK;1HAMZA;1CONSONANT MODIFIER;1GEMINATE CONSONANT MODIFIER;1NUKTA
1NASALIZAw MARK;+1E950;1DIGIT ZERO;2ONE;2TWO;2THREE;2FOUR;2FIVE;2SIX;2SEVEN;2Ee;2NINE;+1E95E
1INITIAL EXCLAMAw MARK;2QUESw MARK;+1EC71;0INDIC SIYAQ NUMBER ONE;3TWO;3THREE;3FOUR;3FIVE;3SIX
3SEVEN;3Ee;3NINE;3TEN;3TWENTY;3THIRTY;3FORTY;3FIFTY;3SIXTY;3SEVENTY;3EeY;3NINETY;3ONE HUNDRED
3TWO HUNDRED;3THREE HUNDRED;3FOUR HUNDRED;3FIVE HUNDRED;3SIX HUNDRED;3SEVEN HUNDRED;3Ee HUNDRED
3NINE HUNDRED;3ONE THOUSAND;3TWO THOUSAND;3THREE THOUSAND;3FOUR THOUSAND;3FIVE THOUSAND
3SIX THOUSAND;3SEVEN THOUSAND;3Ee THOUSAND;3NINE THOUSAND;3TEN THOUSAND;3TWENTY THOUSAND
3THIRTY THOUSAND;3FORTY THOUSAND;3FIFTY THOUSAND;3SIXTY THOUSAND;3SEVENTY THOUSAND;3EeY THOUSAND
3NINETY THOUSAND;3LAKH;3LAKHAN;2LAKH MARK;2NUMBER KAROR;3KARORAN;3PREFIXED ONE;4TWO;4THREE;4FOUR
4FIVE;4SIX;4SEVEN;4Ee;4NINE;2PLACEHOLDER;2FRACw ONE QUARTER;4HALF;3THREE QUARTERS;2RUPEE MARK
2NUMBER ALTERNATE ONE;4TWO;4TEN THOUSAND;2ALTERNATE LAKH MARK;+1ED01;0OTTOMAN SIYAQ NUMBER ONE;3TWO
3THREE;3FOUR;3FIVE;3SIX;3SEVEN;3Ee;3NINE;3TEN;3TWENTY;3THIRTY;3FORTY;3FIFTY;3SIXTY;3SEVENTY;3EeY
3NINETY;3ONE HUNDRED;3TWO HUNDRED;3THREE HUNDRED;3FOUR HUNDRED;3FIVE HUNDRED;3SIX HUNDRED
3SEVEN HUNDRED;3Ee HUNDRED;3NINE HUNDRED;3ONE THOUSAND;3TWO THOUSAND;3THREE THOUSAND;3FOUR THOUSAND
3FIVE THOUSAND;3SIX THOUSAND;3SEVEN THOUSAND;3Ee THOUSAND;3NINE THOUSAND;3TEN THOUSAND
3TWENTY THOUSAND;3THIRTY THOUSAND;3FORTY THOUSAND;3FIFTY THOUSAND;3SIXTY THOUSAND;3SEVENTY THOUSAND
3EeY THOUSAND;3NINETY THOUSAND;2MARRATAN;2ALTERNATE NUMBER TWO;4THREE;4FOUR;4FIVE;4SIX;4SEVEN;4Ee
4NINE;4TEN;4FOUR HUNDRED;4SIX HUNDRED;4TWO THOUSAND;4TEN THOUSAND;2FRACw ONE HALF;4SIXTH;+1EE00
0ARABIC MATHEMATICAL ALEF;2BEH;2JEEM;2DAL;+1EE05;2WAW;2ZAIN;2HAH;2TAH;2YEH;2KAF;2LAM;2MEEM;2NOON
2SEEN;2AIN;2FEH;2SAD;2QAF;2REH;2SHEEN;2TEH;2THEH;2KHAH;2THAL;2DAD;2ZAH;2GHAIN;2DOTLESS BEH;3NOON
3FEH;3QAF;+1EE21;2INITIAL BEH;3JEEM;+1EE24;3HEH;+1EE27;3HAH;+1EE29;3YEH;3KAF;3LAM;3MEEM;3NOON;3SEEN
3AIN;3FEH;3SAD;3QAF;+1EE34;3SHEEN;3TEH;3THEH;3KHAH;+1EE39;3DAD;+1EE3B;3GHAIN;+1EE42;2TAILED JEEM
+1EE47;3HAH;+1EE49;3YEH;+1EE4B;3LAM;+1EE4D;3NOON;3SEEN;3AIN;+1EE51;3SAD;3QAF;+1EE54;3SHEEN;+1EE57
3KHAH;+1EE59;3DAD;+1EE5B;3GHAIN;+1EE5D;3DOTLESS NOON;+1EE5F;4QAF;+1EE61;2STRETCHED BEH;3JEEM;+1EE64
3HEH;+1EE67;3HAH;3TAH;3YEH;3KAF;+1EE6C;3MEEM;3NOON;3SEEN;3AIN;3FEH;3SAD;3QAF;+1EE74;3SHEEN;3TEH
3THEH;3KHAH;+1EE79;3DAD;3ZAH;3GHAIN;3DOTLESS BEH;+1EE7E;4FEH;+1EE80;2LOOPED ALEF;3BEH;3JEEM;3DAL
3HEH;3WAW;3ZAIN;3HAH;3TAH;3YEH;+1EE8B;3LAM;3MEEM;3NOON;3SEEN;3AIN;3FEH;3SAD;3QAF;3REH;3SHEEN;3TEH
3THEH;3KHAH;3THAL;3DAD;3ZAH;3GHAIN;+1EEA1;2r-STRUCK BEH;3JEEM;3DAL;+1EEA5;3WAW;3ZAIN;3HAH;3TAH;3YEH
+1EEAB;3LAM;3MEEM;3NOON;3SEEN;3AIN;3FEH;3SAD;3QAF;3REH;3SHEEN;3TEH;3THEH;3KHAH;3THAL;3DAD;3ZAH
3GHAIN;+1EEF0;2OPERATOR MEEMbHAHbTATWEEL;3HAHbDAL"

end Parlance.Unicode
