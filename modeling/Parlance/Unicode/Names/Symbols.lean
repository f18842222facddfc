/-!
# Names of symbols

The names of punctuation, technical and mathematical symbols, and of what follows them up to the
radicals of ideographs.
`CharacterName` says how the table is written.
-/

namespace Parlance.Unicode

/-- The names of the characters from 2000 on and before 2E80. -/
def symbolNames : String := "
+2000;0EN QUAD;0EM QUAD;0EN SPACE;0EM SPACE;0THREE-PER-EM SPACE;0FOUR-PER-EM SPACE;0SIX-PER-EM SPACE
0FIGURE SPACE;0PUNCTUAw SPACE;0THIN SPACE;0HAIR SPACE;0ZERO WIDTH SPACE;2NON-JOINER;2JOINER
0p-TO-Re MARK;0Re-TO-p MARK;0HYPHEN;0NON-BREAKqHYPHEN;0FIGURE DASH;0EN DASH;0EM DASH;0t BAR
0r s LINE;1LOW LINE;0p SINGLE QUOTAw MARK;0Re SINGLE QUOTAw MARK;0SINGLE LOW-9 QUOTAw MARK
1HIGH-REVERSED-9 QUOTAw MARK;0p r QUOTAw MARK;0Re r QUOTAw MARK;0r LOW-9 QUOTAw MARK
1HIGH-REVERSED-9 QUOTAw MARK;0DAGGER;0r DAGGER;0BULLET;0TRIANGULAR BULLET;0ONE DOT LEADER
0TWO DOT LEADER;0t ELLIPSIS;0HYPHENAw POINT;0LINE SEPARATOR;0PARAGRAPH SEPARATOR;0p-TO-Re EMBEDDING
0Re-TO-p EMBEDDING;0POP DIRECwALgATTING;0p-TO-Re OVERRIDE;0Re-TO-p OVERRIDE;0NARROW NO-BREAK SPACE
0PER MILLEn;1TEN THOUSANDn;0PRIME;0r PRIME;0TRIPLE PRIME;0REVERSED PRIME;1r PRIME;1TRIPLE PRIME
0CARET;0SINGLE p-POINTqANGLE QUOTAw MARK;1Re-POINTqANGLE QUOTAw MARK;0REFERENCE MARK
0r EXCLAMAw MARK;0INTERROBANG;0OVERLINE;0UNDERTIE;0CHARACTER TIE;0CARET INSERw POINT;0ASTERISM
0HYPHEN BULLET;0FRACw SLASH;0p SQUARE BRACKETbQUILL;0Re SQUARE BRACKETbQUILL;0r QUESw MARK
0QUESw EXCLAMAw MARK;0EXCLAMAw QUESw MARK;0TIRONIANn ET;0REVERSED PILCROWn;0BLACK pk BULLET
1Rek BULLET;0LOW ASTERISK;0REVERSED SEMICOLON;0CLOSE UP;0TWO ASTERISKS ALIGNED sLY
0COMMERCIAL MINUSn;0SWUNG DASH;0INVERTED UNDERTIE;0FLOWER PUNCTUAw MARK;0THREE DOT PUNCTUAw
0QUADRUPLE PRIME;0FOUR DOT PUNCTUAw;0FIVE DOT PUNCTUAw;0TWO DOT PUNCTUAw;0FOUR DOT MARK
0DOTTED CROSS;0TRICOLON;0s FOUR DOTS;0MEDIUM MATHEMATICAL SPACE;0WORD JOINER;0FUNCw APPLICAw
0INVISIBLE TIMES;1SEPARATOR;1PLUS;+2066;0p-TO-Re ISOLATE;0Re-TO-p ISOLATE;0FIRST STRONG ISOLATE
0POP DIRECwAL ISOLATE;0INHIBIT SYMMETRIC SWAPPING;0ACTIVATE SYMMETRIC SWAPPING
0INHIBIT ARABICg SHAPING;0ACTIVATE ARABICg SHAPING;0NAwAL DIGIT SHAPES;0NOMz DIGIT SHAPES
0SUPERSCRIPT ZERO;1LATIN haI;+2074;1FOUR;1FIVE;1SIX;1SEVEN;1Ee;1NINE;1PLUSn;1MINUS;1EQUALSn
1p PARENTHESIS;1Re PARENTHESIS;1LATIN haN;0SUBSCRIPT ZERO;1ONE;1TWO;1THREE;1FOUR;1FIVE;1SIX;1SEVEN
1Ee;1NINE;1PLUSn;1MINUS;1EQUALSn;1p PARENTHESIS;1Re PARENTHESIS;+2090;0LATIN SUBSCRIPT haA;4E;4O;4X
4SCHWA;4H;4K;4L;4M;4N;4P;4S;4T;+20A0;0EURO-CURRENCYn;0COLONn;0CRUZEIROn;0FRENCH FRANCn;0LIRAn;0MILLn
0NAIRAn;0PESETAn;0RUPEEn;0WONn;0NEW SHEQELn;0DONGn;0EUROn;0KIPn;0TUGRIKn;0DRACHMAn;0GERMAN PENNYn
0PESOn;0GUARANIn;0AUSTRALn;0HRYVNIAn;0CEDIn;0LIVRE TOURNOISn;0SPESMILOn;0TENGEn;0INDIAN RUPEEn
0TURKISH LIRAn;0NORDIC MARKn;0MANATn;0RUBLEn;0LARIn;0BITCOINn;0SOMn;+20D0;0COMBINqp HARPOONj
1Re HARPOONj;1LONG s LINE OVERLAY;1SHORT s LINE OVERLAY;1ANTICLOCKWISEfj;1CLOCKWISEfj;1pfj;1Refj
1RqOVERLAY;1CLOCKWISE RqOVERLAY;1ANTICLOCKWISE RqOVERLAY;1THREE DOTSj;1FOUR DOTSj;1ENCLOSqCIRCLE
2SQUARE;2DIAMOND;2CIRCLE BACKSLASH;1p Refj;1ENCLOSqSCREEN;2KEYCAP;2UPWARD POINTqx
1REVERSE SOLIDUS OVERLAY;1r s STROKE OVERLAY;1ANNUITY u;1TRIPLE UNDERDOT;1WIDE BRIDGEj;1pkf OVERLAY
1LONG r SOLIDUS OVERLAY;1Rek HARPOONbBARB DOWNk;1pk HARPOONbBARB DOWNk;1pfv;1Refv;1ASTERISKj;+2100
0ACCOUNT OF;0ADDRESSED TO THE SUBJECT;0r-STRUCK dL C;0DEGREE CELSIUS;0CENTRE LINE u;0CARE OF
0CADA UNA;0EULER CONSTANT;0SCRUPLE;0DEGREE FAHRENHEIT;0SCRIPT hL G;1dL H;0BLACK-mdL H;0r-STRUCK dL H
0PLANCK CONSTANT;2OVER TWO PI;0SCRIPT dL I;0BLACK-mdL I;0SCRIPT dL L;1hL L;0L B BAR u;0r-STRUCK dL N
0NUMEROn;0SOUND RECORDqCOPYRe;0SCRIPT dL P;0r-STRUCK dL P;2Q;0SCRIPT dL R;0BLACK-mdL R
0r-STRUCK dL R;0PRESCRIPw TAKE;0RESPONSE;0SERVICE MARK;0TELEPHONEn;0TRADE MARKn;0VERSICLE
0r-STRUCK dL Z;0OUNCEn;0OHMn;0INVERTED OHMn;0BLACK-mdL Z;0TURNED GREEK haIOTA;0KELVINn;0ANGSTROMn
0SCRIPT dL B;0BLACK-mdL C;0ESTIMATED u;0SCRIPT hL E;1dL E;2F;0TURNED dL F;0SCRIPT dL M;1hL O;0ALEF u
0BET u;0GIMEL u;0DALET u;0INFORMAw SOURCE;0ROTATED dL Q;0FACSIMILEn;0r-STRUCK hL PI;2GAMMA;1dL GAMMA
2PI;1N-ARY SUMMAw;0TURNED SANS-SERIF dL G;3L;0REVERSED SANS-SERIF dL L;0TURNED SANS-SERIF dL Y
0r-STRUCK ITALIC dL D;2hL D;3E;3I;3J;0PROPERTY LINE;0TURNED AMPERSAND;0PERn;0AKTIESELSKAB
0TURNED hL F;0u FOR SAMARITAN SOURCE;0VULGAR FRACw ONE SEVENTH;3NINTH;3TENTH;3THIRD;2TWO THIRDS
2ONE FIFTH;2TWO FIFTHS;2THREE FIFTHS;2FOUR FIFTHS;2ONE SIXTH;2FIVE SIXTHS;2ONE EeH;2THREE EeHS
2FIVE EeHS;2SEVEN EeHS;0FRACw NUMERATOR ONE;0ROMAN NUMERAL ONE;2TWO;2THREE;2FOUR;2FIVE;2SIX;2SEVEN
2Ee;2NINE;2TEN;2ELEVEN;2TWELVE;2FIFTY;2ONE HUNDRED;2FIVE HUNDRED;2ONE THOUSAND;0hL ROMAN NUMERAL ONE
3TWO;3THREE;3FOUR;3FIVE;3SIX;3SEVEN;3Ee;3NINE;3TEN;3ELEVEN;3TWELVE;3FIFTY;3ONE HUNDRED;3FIVE HUNDRED
3ONE THOUSAND;0ROMAN NUMERAL ONE THOUSAND C D;2FIVE THOUSAND;2TEN THOUSAND;2REVERSED ONE HUNDRED
0LATIN haREVERSED C;0ROMAN NUMERAL SIX LATEg;2FIFTY EARLYg;3THOUSAND;2ONE HUNDRED THOUSAND
0VULGAR FRACw ZERO THIRDS;0TURNED DIGIT TWO;2THREE;+2190;0pkf;0UPkf;0Rekf;0DOWNkf;0p Ref;0UP DOWNf
0NORTH WESTf;1EASTf;0SOUTH EASTf;1WESTf;0pkfbSTROKE;0RekfbSTROKE;0pk WAVEf;0Rek WAVEf
0pk TWO HEADEDf;0UPk TWO HEADEDf;0Rek TWO HEADEDf;0DOWNk TWO HEADEDf;0pkfbTAIL;0RekfbTAIL
0pkf FROM BAR;0UPkf FROM BAR;0Rekf FROM BAR;0DOWNkf FROM BAR;0UP DOWNfbBASE;0pkfbHOOK;0RekfbHOOK
0pkfbLOOP;0RekfbLOOP;0p Re WAVEf;2ARROWbSTROKE;0DOWNk ZIGZAGf;0UPkfbTIP pk;4Rek;0DOWNkfbTIP pk;4Rek
0RekfbCORNER DOWNk;0DOWNkfbCORNER pk;0ANTICLOCKWISE TOP SEMICIRCLEf;0CLOCKWISE TOP SEMICIRCLEf
0NORTH WESTf TO LONG BAR;0pkf TO BAR OVER Rekf TO BAR;0ANTICLOCKWISE OPEN CIRCLEf
0CLOCKWISE OPEN CIRCLEf;0pk HARPOONbBARB UPk;4DOWNk;0UPk HARPOONbBARB Rek;4pk;0Rek HARPOONbBARB UPk
4DOWNk;0DOWNk HARPOONbBARB Rek;4pk;0Rekf OVER pkf;0UPkf pk OF DOWNkf;0pkf OVER Rekf;1PAIREDfS
0UPk PAIREDfS;0Rek PAIREDfS;0DOWNk PAIREDfS;0pk HARPOON OVER Rek HARPOON
0Rek HARPOON OVER pk HARPOON;0pk rfbSTROKE;0p Re rfbSTROKE;0Rek rfbSTROKE;0pk rf;0UPk rf;0Rek rf
0DOWNk rf;0p Re rf;0UP DOWN rf;0NORTH WEST rf;1EAST rf;0SOUTH EAST rf;1WEST rf;0pk TRIPLEf
0Rek TRIPLEf;0pk SQUIGGLEf;0Rek SQUIGGLEf;0UPkfbr STROKE;0DOWNkfbr STROKE;0pk DASHEDf;0UPk DASHEDf
0Rek DASHEDf;0DOWNk DASHEDf;0pkf TO BAR;0Rekf TO BAR;0pk WHITEf;0UPk WHITEf;0Rek WHITEf
0DOWNk WHITEf;0UPk WHITEf FROM BAR;3ON PEDESTAL;5WITH t BAR;6s BAR;2rf;4ON PEDESTAL
0Rek WHITEf FROM WALL;0NORTH WESTf TO CORNER;0SOUTH EASTf TO CORNER;0UP DOWN WHITEf;0RefbhL CIRCLE
0DOWNkf pk OF UPkf;0THREE RekfS;0pkfbs STROKE;0Rekfbs STROKE;0p Refbs STROKE;0pkfbr s STROKE
0Rekfbr s STROKE;0p Refbr s STROKE;0pk OPEN-HEADEDf;0Rek OPEN-HEADEDf;0p Re OPEN-HEADEDf;0FOR ALL
0COMPLEMENT;0PARTIAL DIFFERENTIAL;0THERE EXISTS;1DOES NOT EXIST;0EMPTY SET;0INCREMENT;0NABLA
0ELEMENT OF;0NOT AN ELEMENT OF;0hL ELEMENT OF;0CONTAINS AS MEMBER;0DOES NOT CONTAIN AS MEMBER
0hL CONTAINS AS MEMBER;0END OF PROOF;0N-ARY PRODUCT;1COPRODUCT;1SUMMAw;0MINUSn;0MINUS-OR-PLUSn
0DOT PLUS;0DIVISION SLASH;0SET MINUS;0ASTERISK OPERATOR;0RqOPERATOR;0BULLET OPERATOR;0SQUARE ROOT
0CUBE ROOT;0FOURTH ROOT;0PROPORwAL TO;0INFINITY;0Re ANGLE;0ANGLE;0MEASURED ANGLE;0SPHERICAL ANGLE
0DIVIDES;0DOES NOT DIVIDE;0PARALLEL TO;0NOT PARALLEL TO;0LOGICAL AND;1OR;0INTERSECw;0UNION;0INTEGRAL
0r INTEGRAL;0TRIPLE INTEGRAL;0CONTOUR INTEGRAL;0SURFACE INTEGRAL;0VOLUME INTEGRAL
0CLOCKWISE INTEGRAL;1CONTOUR INTEGRAL;0ANTICLOCKWISE CONTOUR INTEGRAL;0THEREFORE;0BECAUSE;0RATIO
0PROPORw;0DOT MINUS;0EXCESS;0GEOMETRIC PROPORw;0HOMOTHETIC;0TILDE OPERATOR;0REVERSED TILDE
0INVERTED LAZY S;0SINE WAVE;0WREATH PRODUCT;0NOT TILDE;0MINUS TILDE;0ASYMPTOTICALLY EQUAL TO
0NOT ASYMPTOTICALLY EQUAL TO;0APPROXIMATELY EQUAL TO;1BUT NOT ACTUALLY EQUAL TO
0NEITHER APPROXIMATELY NOR ACTUALLY EQUAL TO;0ALMOST EQUAL TO;0NOT ALMOST EQUAL TO
0ALMOST EQUAL OR EQUAL TO;0TRIPLE TILDE;0ALL EQUAL TO;0EQUIVALENT TO;0GEOMETRICALLY EQUIVALENT TO
0DIFFERENCE BETWEEN;0APPROACHES THE LIMIT;0GEOMETRICALLY EQUAL TO
0APPROXIMATELY EQUAL TO OR THE IMAGE OF;0IMAGE OF OR APPROXIMATELY EQUAL TO;0COLON EQUALS
0EQUALS COLON;0RqIN EQUAL TO;1EQUAL TO;0CORRESPONDS TO;0ESTIMATES;0EQUIANGULAR TO;0STAR EQUALS
0DELTA EQUAL TO;0EQUAL TO BY DEFINIw;0MEASURED BY;0QUESwED EQUAL TO;0NOT EQUAL TO;0IDENTICAL TO
0NOT IDENTICAL TO;0STRICTLY EQUIVALENT TO;0LESS-THAN OR EQUAL TO;0GREATER-THAN OR EQUAL TO
0LESS-THAN OVER EQUAL TO;0GREATER-THAN OVER EQUAL TO;0LESS-THAN BUT NOT EQUAL TO
0GREATER-THAN BUT NOT EQUAL TO;0MUCH LESS-THAN;1GREATER-THAN;0BETWEEN;0NOT EQUIVALENT TO;1LESS-THAN
1GREATER-THAN;0NEITHER LESS-THAN NOR EQUAL TO;1GREATER-THAN NOR EQUAL TO;0LESS-THAN OR EQUIVALENT TO
0GREATER-THAN OR EQUIVALENT TO;0NEITHER LESS-THAN NOR EQUIVALENT TO;1GREATER-THAN NOR EQUIVALENT TO
0LESS-THAN OR GREATER-THAN;0GREATER-THAN OR LESS-THAN;0NEITHER LESS-THAN NOR GREATER-THAN
1GREATER-THAN NOR LESS-THAN;0PRECEDES;0SUCCEEDS;0PRECEDES OR EQUAL TO;0SUCCEEDS OR EQUAL TO
0PRECEDES OR EQUIVALENT TO;0SUCCEEDS OR EQUIVALENT TO;0DOES NOT PRECEDE;2SUCCEED;0SUBSET OF
0SUPERSET OF;0NOT A SUBSET OF;2SUPERSET OF;0SUBSET OF OR EQUAL TO;0SUPERSET OF OR EQUAL TO
0NEITHER A SUBSET OF NOR EQUAL TO;2SUPERSET OF NOR EQUAL TO;0SUBSET OFbNOT EQUAL TO
0SUPERSET OFbNOT EQUAL TO;0MULTISET;1MULTIPLICAw;1UNION;0SQUARE IMAGE OF;1ORIGz OF
1IMAGE OF OR EQUAL TO;1ORIGz OF OR EQUAL TO;1CAP;1CUP;0CIRCLED PLUS;1MINUS;1TIMES;1DIVISION SLASH
1DOT OPERATOR;1RqOPERATOR;1ASTERISK OPERATOR;1EQUALS;1DASH;0SQUARED PLUS;1MINUS;1TIMES;1DOT OPERATOR
0Re TACK;0p TACK;0DOWN TACK;0UP TACK;0ASSERw;0MODELS;0TRUE;0FORCES;0TRIPLE s BAR Re TURNSTILE
0r s BAR r Re TURNSTILE;0DOES NOT PROVE;0NOT TRUE;0DOES NOT FORCE;0NEGATED r s BAR r Re TURNSTILE
0PRECEDES UNDER RELAw;0SUCCEEDS UNDER RELAw;0NORMAL SUBGROUP OF;0CONTAINS AS NORMAL SUBGROUP
0NORMAL SUBGROUP OF OR EQUAL TO;0CONTAINS AS NORMAL SUBGROUP OR EQUAL TO;0ORIGz OF;0IMAGE OF
0MULTIMAP;0HERMITIAN CONJUGATE MATRIX;0INTERCALATE;0XOR;0NAND;0NOR;0Re ANGLEbARC;1x
0N-ARY LOGICAL AND;2OR;1INTERSECw;1UNION;0DIAMOND OPERATOR;0DOT OPERATOR;0STAR OPERATOR
0DIVISION TIMES;0BOWTIE;0p NORMAL FACTOR SEMIDIRECT PRODUCT;0Re NORMAL FACTOR SEMIDIRECT PRODUCT
0p SEMIDIRECT PRODUCT;0Re SEMIDIRECT PRODUCT;0REVERSED TILDE EQUALS;0CURLY LOGICAL OR;2AND;0r SUBSET
1SUPERSET;1INTERSECw;1UNION;0PITCHFORK;0EQUALiPARALLEL TO;0LESS-THANbDOT;0GREATER-THANbDOT
0VERY MUCH LESS-THAN;2GREATER-THAN;0LESS-THAN EQUAL TO OR GREATER-THAN
0GREATER-THAN EQUAL TO OR LESS-THAN;0EQUAL TO OR LESS-THAN;3GREATER-THAN;3PRECEDES;3SUCCEEDS
0DOES NOT PRECEDE OR EQUAL;2SUCCEED OR EQUAL;0NOT SQUARE IMAGE OF OR EQUAL TO;2ORIGz OF OR EQUAL TO
0SQUARE IMAGE OF OR NOT EQUAL TO;1ORIGz OF OR NOT EQUAL TO;0LESS-THAN BUT NOT EQUIVALENT TO
0GREATER-THAN BUT NOT EQUIVALENT TO;0PRECEDES BUT NOT EQUIVALENT TO;0SUCCEEDS BUT NOT EQUIVALENT TO
0NOT NORMAL SUBGROUP OF;0DOES NOT CONTAIN AS NORMAL SUBGROUP;0NOT NORMAL SUBGROUP OF OR EQUAL TO
0DOES NOT CONTAIN AS NORMAL SUBGROUP OR EQUAL;0s ELLIPSIS;0MIDLINE t ELLIPSIS
0UP Re DIAGONAL ELLIPSIS;0DOWN Re DIAGONAL ELLIPSIS;0ELEMENT OFbLONG t STROKE
3s BAR AT END OF t STROKE;0hL ELEMENT OFbs BAR AT END OF t STROKE;0ELEMENT OFbDOTj;3OVERBAR
0hL ELEMENT OFbOVERBAR;0ELEMENT OFbUNDERBAR;3TWO t STROKES;0CONTAINSbLONG t STROKE
2s BAR AT END OF t STROKE;0hL CONTAINSbs BAR AT END OF t STROKE;0CONTAINSbOVERBAR
0hL CONTAINSbOVERBAR;0Z NOTAw BAG MEMBERSHIP;0DIAMETERn;0ELECTRICf;0HOUSE;0UPfHEAD;0DOWNfHEAD
0PROJECTIVE;0PERSPECTIVE;0WAVY LINE;0p CEILING;0Re CEILING;0p FLOOR;0Re FLOOR;0BOTTOM Re CROP
1p CROP;0TOP Re CROP;1p CROP;0REVERSED NOTn;0SQUARE LOZENGE;0ARC;0SEGMENT;0SECTOR
0TELEPHONE RECORDER;0POSIw INDICATOR;0VIEWDATA SQUARE;0PLACE OF INTERESTn;0TURNED NOTn;0WATCH
0HOURGLASS;0TOP p CORNER;1Re CORNER;0BOTTOM p CORNER;1Re CORNER;0TOP HALF INTEGRAL
0BOTTOM HALF INTEGRAL;0FROWN;0SMILE;0UPfHEAD BETWEEN TWO t BARS;0OPw KEY;0ERASE TO THE Re
0X IN A RECTANGLE BOX;0KEYBOARD;0p-POINTqANGLE BRACKET;0Re-POINTqANGLE BRACKET;0ERASE TO THE p
0BENZENE RING;0CYLINDRICITY;0ALL AROUND-PROFILE;0SYMMETRY;0TOTAL RUNOUT;0DIMENSION ORIGIN
0CONICAL TAPER;0SLOPE;0COUNTERBORE;0COUNTERSINK;0APL FUNCwAL u I-BEAM;3SQUISH QUAD;3QUAD EQUAL
4DIVIDE;4DIAMOND;4JOT;4CIRCLE;3CIRCLE STILE;4JOT;3SLASH BAR;3BACKSLASH BAR;3QUAD SLASH;4BACKSLASH
4LESS-THAN;4GREATER-THAN;3pk VANE;3Rek VANE;3QUAD pkf;4Rekf;3CIRCLE BACKSLASH;3DOWN TACK UNDERBAR
3DELTA STILE;3QUAD DOWN CARET;4DELTA;3DOWN TACK JOT;3UPk VANE;3QUAD UPkf;3UP TACK OVERBAR;3DEL STILE
3QUAD UP CARET;4DEL;3UP TACK JOT;3DOWNk VANE;3QUAD DOWNkf;3QUOTE UNDERBAR;3DELTA UNDERBAR
3DIAMOND UNDERBAR;3JOT UNDERBAR;3CIRCLE UNDERBAR;3UP SHOE JOT;3QUOTE QUAD;3CIRCLE STAR;3QUAD COLON
3UP TACK DIAERESIS;3DEL DIAERESIS;3STAR DIAERESIS;3JOT DIAERESIS;3CIRCLE DIAERESIS;3DOWN SHOE STILE
3p SHOE STILE;3TILDE DIAERESIS;3GREATER-THAN DIAERESIS;3COMMA BAR;3DEL TILDE;3ZILDE;3STILE TILDE
3SEMICOLON UNDERBAR;3QUAD NOT EQUAL;4QUESw;3DOWN CARET TILDE;3UP CARET TILDE;3IOTA;3RHO;3OMEGA
3ALPHA UNDERBAR;3EPSILON UNDERBAR;3IOTA UNDERBAR;3OMEGA UNDERBAR;3ALPHA;0NOT CHECK MARK
0Re ANGLEbDOWNk ZIGZAGf;0SHOULDERED OPEN BOX;0BELL u;0s LINEbMIDDLE DOT;0INSERw u
0CONTINUOUS UNDERLINE u;0DISCONTINUOUS UNDERLINE u;0EMPHASIS u;0COMPOSIw u
0WHITE SQUAREbCENTRE s LINE;0ENTER u;0ALTERNATIVE KEY u;0HELM u;0CIRCLED t BARbNOTCH;1x DOWN
0BROKEN CIRCLEbNORTHWESTf;0UNDO u;0MONOSTABLE u;0HYSTERESIS u;0OPEN-CIRCUIT-OUTPUT H-TYPE u
1L-TYPE u;0PASSIVE-PULL-DOWN-OUTPUT u;0PASSIVE-PULL-UP-OUTPUT u;0DIRECT CURRENT ug TWO
0SOFTWARE-FUNCw u;0APL FUNCwAL u QUAD;0DECIMAL SEPARATOR KEY u;0PREVIOUS PAGE;0NEXT PAGE
0PRINT SCREEN u;0CLEAR SCREEN u;0p PARENTHESIS UPPER HOOK;2EXTENSION;2LOWER HOOK
0Re PARENTHESIS UPPER HOOK;2EXTENSION;2LOWER HOOK;0p SQUARE BRACKET UPPER CORNER;3EXTENSION
3LOWER CORNER;0Re SQUARE BRACKET UPPER CORNER;3EXTENSION;3LOWER CORNER;0p CURLY BRACKET UPPER HOOK
3MIDDLE PIECE;3LOWER HOOK;0CURLY BRACKET EXTENSION;0Re CURLY BRACKET UPPER HOOK;3MIDDLE PIECE
3LOWER HOOK;0INTEGRAL EXTENSION;0t LINE EXTENSION;0UPPER p OR LOWER Re CURLY BRACKET SECw
1Re OR LOWER p CURLY BRACKET SECw;0SUMMAw TOP;1BOTTOM;0TOP SQUARE BRACKET;0BOTTOM SQUARE BRACKET
3OVER TOP SQUARE BRACKET;0RADICAL u BOTTOM;0p s BOX LINE;0Re s BOX LINE;0t SCAN LINE-1;2LINE-3
2LINE-7;2LINE-9;0DENTISTRY u Le siTOP Re;5BOTTOM Re;4WITH CIRCLE;3DOWNitbCIRCLE;3UPitbCIRCLE;3sbx
3DOWNitbx;3UPitbx;3siWAVE;3DOWNitbWAVE;3UPitbWAVE;3DOWNit;3UPit;3siTOP p;5BOTTOM p;0SQUARE FOOT
0RETURN u;0EJECT u;0s LINE EXTENSION;0METRICAL BREVE;1LONG OVER SHORT;1SHORT OVER LONG
1LONG OVER TWO SHORTS;1TWO SHORTS OVER LONG;3JOINED;1TRISEME;1TETRASEME;1PENTASEME;0EARTH GROUND
0FUSE;0TOP PARENTHESIS;0BOTTOM PARENTHESIS;0TOP CURLY BRACKET;0BOTTOM CURLY BRACKET
0TOP TORTOISE SHELL BRACKET;0BOTTOM TORTOISE SHELL BRACKET;0WHITE TRAPEZIUM;0BENZENE RINGbCIRCLE
0STRAeNESS;0FLATNESS;0AC CURRENT;0ELECTRICAL INTERSECw;0DECIMAL EXPONENT u;0BLACK Re-POINTqr x
1p-POINTqr x;1UP-POINTqr x;1DOWN-POINTqr x;1Re-POINTqr xbs BAR;1p-POINTqr xbs BAR
1Re-POINTqxbr s BAR;0ALARM CLOCK;0STOPWATCH;0TIMER CLOCK;0HOURGLASSbFLOWqSAND
0BLACK MEDIUM p-POINTqx;2Re-POINTqx;2UP-POINTqx;2DOWN-POINTqx;0r s BAR;0BLACK SQUARE FOR STOP
1CIRCLE FOR RECORD;0POWER u;1ON-OFF u;1ON u;1SLEEP u;0OBSERVER EYE u;0u FOR NULL;2START OF HEADING
4TEXT;2END OF TEXT;4TRANSMISSION;2ENQUIRY;2ACKNOWLEDGE;2BELL;2BACKSPACE;2t TABULAw;2LINE FEED
2s TABULAw;2FORM FEED;2CARRIAGE RETURN;2SHIFT OUT;3IN;2DATA LINK ESCAPE;2DEVICE CONTROL ONE;4TWO
4THREE;4FOUR;2NEGATIVE ACKNOWLEDGE;2SYNCHRONOUS IDLE;2END OF TRANSMISSION BLOCK;2CANCEL
2END OF MEDIUM;2SUBSTITUTE;2ESCAPE;2FILE SEPARATOR;2GROUP SEPARATOR;2RECORD SEPARATOR
2UNIT SEPARATOR;2SPACE;2DELETE;0BLANK u;0OPEN BOX;0u FOR NEWLINE;2DELETEg TWO;2SUBSTITUTEg TWO;+2440
0OCR HOOK;1CHAIR;1FORK;1INVERTED FORK;1BELT BUCKLE;1BOW TIE;1BRANCH BANK IDENTIFICAw
1AMOUNT OF CHECK;1DASH;1CUSTOMER ACCOUNT NUMBER;1r BACKSLASH;+2460;0CIRCLED DIGIT ONE;2TWO;2THREE
2FOUR;2FIVE;2SIX;2SEVEN;2Ee;2NINE;1NUMBER TEN;2ELEVEN;2TWELVE;2THIRTEEN;2FOURTEEN;2FIFTEEN;2SIXTEEN
2SEVENTEEN;2EeEEN;2NINETEEN;2TWENTY;0PARENTHESIZED DIGIT ONE;2TWO;2THREE;2FOUR;2FIVE;2SIX;2SEVEN;2Ee
2NINE;1NUMBER TEN;2ELEVEN;2TWELVE;2THIRTEEN;2FOURTEEN;2FIFTEEN;2SIXTEEN;2SEVENTEEN;2EeEEN;2NINETEEN
2TWENTY;0DIGIT ONE FULL STOP;1TWO FULL STOP;1THREE FULL STOP;1FOUR FULL STOP;1FIVE FULL STOP
1SIX FULL STOP;1SEVEN FULL STOP;1Ee FULL STOP;1NINE FULL STOP;0NUMBER TEN FULL STOP
1ELEVEN FULL STOP;1TWELVE FULL STOP;1THIRTEEN FULL STOP;1FOURTEEN FULL STOP;1FIFTEEN FULL STOP
1SIXTEEN FULL STOP;1SEVENTEEN FULL STOP;1EeEEN FULL STOP;1NINETEEN FULL STOP;1TWENTY FULL STOP
0PARENTHESIZED LATIN haA;4B;4C;4D;4E;4F;4G;4H;4I;4J;4K;4L;4M;4N;4O;4P;4Q;4R;4S;4T;4U;4V;4W;4X;4Y;4Z
0CIRCLED LATIN daA;4B;4C;4D;4E;4F;4G;4H;4I;4J;4K;4L;4M;4N;4O;4P;4Q;4R;4S;4T;4U;4V;4W;4X;4Y;4Z;2haA
4B;4C;4D;4E;4F;4G;4H;4I;4J;4K;4L;4M;4N;4O;4P;4Q;4R;4S;4T;4U;4V;4W;4X;4Y;4Z;1DIGIT ZERO
0NEGATIVE CIRCLED NUMBER ELEVEN;3TWELVE;3THIRTEEN;3FOURTEEN;3FIFTEEN;3SIXTEEN;3SEVENTEEN;3EeEEN
3NINETEEN;3TWENTY;0r CIRCLED DIGIT ONE;3TWO;3THREE;3FOUR;3FIVE;3SIX;3SEVEN;3Ee;3NINE;2NUMBER TEN
0NEGATIVE CIRCLED DIGIT ZERO;0BOX DRAWINGS Le t;2HEAVY t;2Le s;2HEAVY s;2Le TRIPLE DASH t
2HEAVY TRIPLE DASH t;2Le TRIPLE DASH s;2HEAVY TRIPLE DASH s;2Le QUADRUPLE DASH t
2HEAVY QUADRUPLE DASH t;2Le QUADRUPLE DASH s;2HEAVY QUADRUPLE DASH s;2Le DOWNiRe;2DOWN LeiRe HEAVY
3HEAVYiRe Le;2HEAVY DOWNiRe;2Le DOWNip;2DOWN Leip HEAVY;3HEAVYip Le;2HEAVY DOWNip;2Le UPiRe
2UP LeiRe HEAVY;3HEAVYiRe Le;2HEAVY UPiRe;2Le UPip;2UP Leip HEAVY;3HEAVYip Le;2HEAVY UPip;2Le siRe
2s LeiRe HEAVY;2UP HEAVYiRe DOWN Le;2DOWN HEAVYiRe UP Le;2s HEAVYiRe Le;2DOWN LeiRe UP HEAVY
2UP LeiRe DOWN HEAVY;2HEAVY siRe;2Le sip;2s Leip HEAVY;2UP HEAVYip DOWN Le;2DOWN HEAVYip UP Le
2s HEAVYip Le;2DOWN Leip UP HEAVY;2UP Leip DOWN HEAVY;2HEAVY sip;2Le DOWNit;2p HEAVYiRe DOWN Le
2Re HEAVYip DOWN Le;2DOWN Leit HEAVY;3HEAVYit Le;2Re Leip DOWN HEAVY;2p LeiRe DOWN HEAVY
2HEAVY DOWNit;2Le UPit;2p HEAVYiRe UP Le;2Re HEAVYip UP Le;2UP Leit HEAVY;3HEAVYit Le
2Re Leip UP HEAVY;2p LeiRe UP HEAVY;2HEAVY UPit;2Le sit;2p HEAVYiRe s Le;2Re HEAVYip s Le
2s Leit HEAVY;2UP HEAVYiDOWN t Le;2DOWN HEAVYiUP t Le;2s HEAVYit Le;2p UP HEAVYiRe DOWN Le
2Re UP HEAVYip DOWN Le;2p DOWN HEAVYiRe UP Le;2Re DOWN HEAVYip UP Le;2DOWN LeiUP t HEAVY
2UP LeiDOWN t HEAVY;2Re Leip s HEAVY;2p LeiRe s HEAVY;2HEAVY sit;2Le r DASH t;2HEAVY r DASH t
2Le r DASH s;2HEAVY r DASH s;2r t;3s;2DOWN SINGLEiRe r;3riRe SINGLE;2r DOWNiRe;2DOWN SINGLEip r
3rip SINGLE;2r DOWNip;2UP SINGLEiRe r;3riRe SINGLE;2r UPiRe;2UP SINGLEip r;3rip SINGLE;2r UPip
2s SINGLEiRe r;3riRe SINGLE;2r siRe;2s SINGLEip r;3rip SINGLE;2r sip;2DOWN SINGLEit r;3rit SINGLE
2r DOWNit;2UP SINGLEit r;3rit SINGLE;2r UPit;2s SINGLEit r;3rit SINGLE;2r sit;2Le ARC DOWNiRe;6p
4UPip;6Re;3DIAGONAL UPPER Re TO LOWER p;5p TO LOWER Re;4CROSS;3p;3UP;3Re;3DOWN;2HEAVY p;3UP;3Re
3DOWN;2Le piHEAVY Re;3UPiHEAVY DOWN;2HEAVY piLe Re;3UPiLe DOWN;0UPPER HALF BLOCK
0LOWER ONE EeH BLOCK;2QUARTER BLOCK;1THREE EeHS BLOCK;1HALF BLOCK;1FIVE EeHS BLOCK
1THREE QUARTERS BLOCK;1SEVEN EeHS BLOCK;0FULL BLOCK;0p SEVEN EeHS BLOCK;1THREE QUARTERS BLOCK
1FIVE EeHS BLOCK;1HALF BLOCK;1THREE EeHS BLOCK;1ONE QUARTER BLOCK;2EeH BLOCK;0Re HALF BLOCK
0Le SHADE;0MEDIUM SHADE;0DARK SHADE;0UPPER ONE EeH BLOCK;0Re ONE EeH BLOCK;0QUADRANT LOWER p;2Re
1UPPER p;3AND LOWER piLOWER Re;5Re;4UPPER ReiLOWER p;8Re;2Re;3AND LOWER p;6AND LOWER Re
0BLACK SQUARE;0WHITE SQUARE;2WITH ROUNDED CORNERS;2CONTAINqBLACK hL SQUARE;0SQUAREbt FILL;2s FILL
2ORTHOGONAL CROSSHATCH FILL;2UPPER p TO LOWER Re FILL;3Re TO LOWER p FILL;2DIAGONAL CROSSHATCH FILL
0BLACK hL SQUARE;0WHITE hL SQUARE;0BLACK RECTANGLE;0WHITE RECTANGLE;0BLACK s RECTANGLE
0WHITE s RECTANGLE;0BLACK PARALLELOGRAM;0WHITE PARALLELOGRAM;0BLACK UP-POINTqx;0WHITE UP-POINTqx
0BLACK UP-POINTqhL x;0WHITE UP-POINTqhL x;0BLACK Re-POINTqx;0WHITE Re-POINTqx;0BLACK Re-POINTqhL x
0WHITE Re-POINTqhL x;0BLACK Re-POINTqPOINTER;0WHITE Re-POINTqPOINTER;0BLACK DOWN-POINTqx
0WHITE DOWN-POINTqx;0BLACK DOWN-POINTqhL x;0WHITE DOWN-POINTqhL x;0BLACK p-POINTqx;0WHITE p-POINTqx
0BLACK p-POINTqhL x;0WHITE p-POINTqhL x;0BLACK p-POINTqPOINTER;0WHITE p-POINTqPOINTER;0BLACK DIAMOND
0WHITE DIAMOND;2CONTAINqBLACK hL DIAMOND;0FISHEYE;0LOZENGE;0WHITE CIRCLE;0DOTTED CIRCLE
0CIRCLEbs FILL;0BULLSEYE;0BLACK CIRCLE;0CIRCLEbp HALF BLACK;2Re HALF BLACK;2LOWER HALF BLACK
2UPPER HALF BLACK;3Re QUADRANT BLACK;2ALL BUT UPPER p QUADRANT BLACK;0p HALF BLACK CIRCLE
0Re HALF BLACK CIRCLE;0INVERSE BULLET;1WHITE CIRCLE;0UPPER HALF INVERSE WHITE CIRCLE
0LOWER HALF INVERSE WHITE CIRCLE;0UPPER p QUADRANT CIRCULAR ARC;1Re QUADRANT CIRCULAR ARC
0LOWER Re QUADRANT CIRCULAR ARC;1p QUADRANT CIRCULAR ARC;0UPPER HALF CIRCLE;0LOWER HALF CIRCLE
0BLACK LOWER Re x;2p x;1UPPER p x;2Re x;0WHITE BULLET;0SQUAREbp HALF BLACK;2Re HALF BLACK
2UPPER p DIAGONAL HALF BLACK;2LOWER Re DIAGONAL HALF BLACK;0WHITE SQUAREbs BISECTqLINE
1UP-POINTqxbDOT;0UP-POINTqxbp HALF BLACK;3Re HALF BLACK;0LARGE CIRCLE;0WHITE SQUAREbUPPER p QUADRANT
3LOWER p QUADRANT;4Re QUADRANT;3UPPER Re QUADRANT;1CIRCLEbUPPER p QUADRANT;3LOWER p QUADRANT
4Re QUADRANT;3UPPER Re QUADRANT;0UPPER p x;1Re x;0LOWER p x;0WHITE MEDIUM SQUARE
0BLACK MEDIUM SQUARE;0WHITE MEDIUM hL SQUARE;0BLACK MEDIUM hL SQUARE;0LOWER Re x;0BLACK SUNbRAYS
0CLOUD;0UMBRELLA;0SNOWMAN;0COMET;0BLACK STAR;0WHITE STAR;0LeNING;0THUNDERSTORM;0SUN;0ASCENDqNODE
0DESCENDqNODE;0CONJUNCw;0OPPOSIw;0BLACK TELEPHONE;0WHITE TELEPHONE;0BALLOT BOX;2WITH CHECK;3X
0SALTIRE;0UMBRELLAbRAIN DROPS;0HOT BEVERAGE;0WHITE SHOGI PIECE;0BLACK SHOGI PIECE;0SHAMROCK
0REVERSED ROTATED FLORAL HEART BULLET;0BLACK p POINTqINDEX;1Re POINTqINDEX;0WHITE p POINTqINDEX
1UP POINTqINDEX;1Re POINTqINDEX;1DOWN POINTqINDEX;0SKULLiCROSSBONES;0CAUwn;0RADIOACTIVEn;0BIOHAZARDn
0CADUCEUS;0ANKH;0ORTHODOX CROSS;0CHI RHO;0CROSS OF LORRAINE;2JERUSALEM;0STARiCRESCENT;0FARSI u
0ADI SHAKTI;0HAMMERiSICKLE;0PEACE u;0YIN YANG;0TRIGRAM FOR HEAVEN;2LAKE;2FIRE;2THUNDER;2WIND;2WATER
2MOUNTAIN;2EARTH;0WHEEL OF DHARMA;0WHITE FROWNqFACE;1SMILqFACE;0BLACK SMILqFACE;0WHITE SUNbRAYS
0FIRST QUARTER MOON;0LAST QUARTER MOON;0MERCURY;0FEMALEn;0EARTH;0MALEn;0JUPITER;0SATURN;0URANUS
0NEPTUNE;0PLUTO;0ARIES;0TAURUS;0GEMINI;0CANCER;0LEO;0VIRGO;0LIBRA;0SCORPIUS;0SAGITTARIUS;0CAPRICORN
0AQUARIUS;0PISCES;0WHITE CHESS KING;2QUEEN;2ROOK;2BISHOP;2KNe;2PAWN;0BLACK CHESS KING;2QUEEN;2ROOK
2BISHOP;2KNe;2PAWN;1SPADE SUIT;0WHITE HEART SUIT;1DIAMOND SUIT;0BLACK CLUB SUIT;0WHITE SPADE SUIT
0BLACK HEART SUIT;1DIAMOND SUIT;0WHITE CLUB SUIT;0HOT SPRINGS;0QUARTER NOTE;0EeH NOTE
0BEAMED EeH NOTES;1SIXTEENTH NOTES;0MUSIC FLATn;1NATURALn;1SHARPn;0WEST SYRIAC CROSS
0EAST SYRIAC CROSS;0UNIVERSAL RECYCLqu;0RECYCLqu FOR TYPE-1 PLASTICS;3TYPE-2 PLASTICS
3TYPE-3 PLASTICS;3TYPE-4 PLASTICS;3TYPE-5 PLASTICS;3TYPE-6 PLASTICS;3TYPE-7 PLASTICS
3GENERIC MATERIALS;0BLACK UNIVERSAL RECYCLqu;0RECYCLED PAPER u;0PARTIALLY-RECYCLED PAPER u
0PERMANENT PAPERn;0WHEELCHAIR u;0DIE FACE-1;1FACE-2;1FACE-3;1FACE-4;1FACE-5;1FACE-6
0WHITE CIRCLEbDOT Re;3TWO DOTS;0BLACK CIRCLEbWHITE DOT Re;3TWO WHITE DOTS;0MONOGRAM FOR YANG;2YIN
0DIGRAM FOR GREATER YANG;2LESSER YIN;3YANG;2GREATER YIN;0WHITE FLAG;0BLACK FLAG;0HAMMERiPICK;0ANCHOR
0CROSSED SWORDS;0STAFF OF AESCULAPIUS;0SCALES;0ALEMBIC;0FLOWER;0GEAR;0STAFF OF HERMES;0ATOM u
0FLEUR-DE-LIS;0OUTLINED WHITE STAR;0THREE LINES CONVERGqRe;3p;0WARNINGn;0HIGH VOLTAGEn;0rD FEMALEn
1MALEn;0INTERLOCKED FEMALEiMALEn;0MALEiFEMALEn;1WITH STROKEn;3AND MALEiFEMALEn;0s MALEbSTROKEn
0t MALEbSTROKEn;0MEDIUM WHITE CIRCLE;1BLACK CIRCLE;1hL WHITE CIRCLE;0MARRIAGE u;0DIVORCE u
0UNMARRIED PARTNERSHIP u;0COFFIN;0FUNERAL URN;0NEUTER;0CERES;0PALLAS;0JUNO;0VESTA;0CHIRON
0BLACK MOON LILITH;0SEXTILE;0SEMISEXTILE;0QUINCUNX;0SESQUIQUADRATE;0SOCCER BALL;0BASEBALL
0SQUARED KEY;0WHITE DRAUGHTS MAN;2KING;0BLACK DRAUGHTS MAN;2KING;0SNOWMAN WITHOUT SNOW
0SUN BEHIND CLOUD;0RAIN;0BLACK SNOWMAN;0THUNDER CLOUDiRAIN;0TURNED WHITE SHOGI PIECE
1BLACK SHOGI PIECE;0WHITE DIAMOND IN SQUARE;0CROSSqLANES;0DISABLED CAR;0OPHIUCHUS;0PICK;0CAR SLIDING
0HELMETbWHITE CROSS;0CIRCLED CROSSqLANES;0CHAINS;0NO ENTRY;0ALTERNATE ONE-WAY p WAY TRAFFIC
0BLACK TWO-WAY p WAY TRAFFIC;0WHITE TWO-WAY p WAY TRAFFIC;0BLACK p LANE MERGE;0WHITE p LANE MERGE
0DRIVE SLOWn;0HEAVY WHITE DOWN-POINTqx;0p CLOSED ENTRY;0SQUARED SALTIRE
0FALLqDIAGONAL IN WHITE CIRCLE IN BLACK SQUARE;0BLACK TRUCK;0RESTRICTED p ENTRY-1;2ENTRY-2
0ASTRONOMICAL u FOR URANUS;0HEAVY CIRCLEbSTROKEiTWO DOTSj;0PENTAGRAM;0Re-HANDED INTERLACED PENTAGRAM
0p-HANDED INTERLACED PENTAGRAM;0INVERTED PENTAGRAM;0BLACK CROSS ON SHIELD;0SHINTO SHRINE;0CHURCH
0CASTLE;0HISTORIC SITE;0GEAR WITHOUT HUB;1WITH HANDLES;0MAP u FOR LeHOUSE;0MOUNTAIN
0UMBRELLA ON GROUND;0FOUNTAIN;0FLAG IN HOLE;0FERRY;0SAILBOAT;0SQUARE FOUR CORNERS;0SKIER;0ICE SKATE
0PERSONbBALL;0TENT;0JAPANESE BANK u;0HEADSTONE GRAVEYARD u;0FUEL PUMP;0CUP ON BLACK SQUARE
0WHITE FLAGbt MIDDLE BLACK STRIPE;0BLACK SAFETY SCISSORS;0UPPER BLADE SCISSORS;0BLACK SCISSORS
0LOWER BLADE SCISSORS;0WHITE SCISSORS;1HEAVY CHECK MARK;0TELEPHONE LOCAwn;0TAPE DRIVE;0AIRPLANE
0ENVELOPE;0RAISED FIST;1HAND;0VICTORY HAND;0WRITqHAND;0LOWER Re PENCIL;0PENCIL;0UPPER Re PENCIL
0WHITE NIB;0BLACK NIB;0CHECK MARK;0HEAVY CHECK MARK;0MULTIPLICAw X;0HEAVY MULTIPLICAw X;0BALLOT X
0HEAVY BALLOT X;0OUTLINED GREEK CROSS;0HEAVY GREEK CROSS;0OPEN CENTRE CROSS;0HEAVY OPEN CENTRE CROSS
0LATIN CROSS;0SHADOWED WHITE LATIN CROSS;0OUTLINED LATIN CROSS;0MALTESE CROSS;0STAR OF DAVID
0FOUR TEARDROP-SPOKED ASTERISK;1BALLOON-SPOKED ASTERISK;0HEAVY FOUR BALLOON-SPOKED ASTERISK
0FOUR CLUB-SPOKED ASTERISK;0BLACK FOUR POINTED STAR;0WHITE FOUR POINTED STAR;0SPARKLES
0STRESS OUTLINED WHITE STAR;0CIRCLED WHITE STAR;0OPEN CENTRE BLACK STAR;0BLACK CENTRE WHITE STAR
0OUTLINED BLACK STAR;0HEAVY OUTLINED BLACK STAR;0PINWHEEL STAR;0SHADOWED WHITE STAR;0HEAVY ASTERISK
0OPEN CENTRE ASTERISK;0Ee SPOKED ASTERISK;1POINTED BLACK STAR;2PINWHEEL STAR;0SIX POINTED BLACK STAR
0Ee POINTED RECTILINEAR BLACK STAR;0HEAVY Ee POINTED RECTILINEAR BLACK STAR
0TWELVE POINTED BLACK STAR;0SIXTEEN POINTED ASTERISK;0TEARDROP-SPOKED ASTERISK
0OPEN CENTRE TEARDROP-SPOKED ASTERISK;0HEAVY TEARDROP-SPOKED ASTERISK
0SIX PETALLED BLACKiWHITE FLORETTE;0BLACK FLORETTE;0WHITE FLORETTE
0Ee PETALLED OUTLINED BLACK FLORETTE;0CIRCLED OPEN CENTRE Ee POINTED STAR
0HEAVY TEARDROP-SPOKED PINWHEEL ASTERISK;0SNOWFLAKE;0Te TRIFOLIATE SNOWFLAKE
0HEAVY CHEVRON SNOWFLAKE;0SPARKLE;0HEAVY SPARKLE;0BALLOON-SPOKED ASTERISK
0Ee TEARDROP-SPOKED PROPELLER ASTERISK;0HEAVY Ee TEARDROP-SPOKED PROPELLER ASTERISK;0CROSS MARK
0SHADOWED WHITE CIRCLE;0NEGATIVE SQUARED CROSS MARK;0LOWER Re DROP-SHADOWED WHITE SQUARE
0UPPER Re DROP-SHADOWED WHITE SQUARE;0LOWER Re SHADOWED WHITE SQUARE;0UPPER Re SHADOWED WHITE SQUARE
0BLACK QUESw MARK ORNAMENT;0WHITE QUESw MARK ORNAMENT;1EXCLAMAw MARK ORNAMENT
0BLACK DIAMOND MINUS WHITE X;0HEAVY EXCLAMAw MARK u;0Le s BAR;0MEDIUM s BAR;0HEAVY s BAR
1SINGLE TURNED COMMA QUOTAw MARK ORNAMENT;2COMMA QUOTAw MARK ORNAMENT
1r TURNED COMMA QUOTAw MARK ORNAMENT;2COMMA QUOTAw MARK ORNAMENT
1LOW SINGLE COMMA QUOTAw MARK ORNAMENT;2r COMMA QUOTAw MARK ORNAMENT
0CURVED STEM PARAGRAPHn ORNAMENT;0HEAVY EXCLAMAw MARK ORNAMENT;1HEART EXCLAMAw MARK ORNAMENT
1BLACK HEART;0ROTATED HEAVY BLACK HEART BULLET;0FLORAL HEART;0ROTATED FLORAL HEART BULLET
0MEDIUM p PARENTHESIS ORNAMENT;1Re PARENTHESIS ORNAMENT;1FLATTENED p PARENTHESIS ORNAMENT
2Re PARENTHESIS ORNAMENT;1p-POINTqANGLE BRACKET ORNAMENT;1Re-POINTqANGLE BRACKET ORNAMENT
0HEAVY p-POINTqANGLE QUOTAw MARK ORNAMENT;1Re-POINTqANGLE QUOTAw MARK ORNAMENT
1p-POINTqANGLE BRACKET ORNAMENT;1Re-POINTqANGLE BRACKET ORNAMENT
0Le p TORTOISE SHELL BRACKET ORNAMENT;1Re TORTOISE SHELL BRACKET ORNAMENT
0MEDIUM p CURLY BRACKET ORNAMENT;1Re CURLY BRACKET ORNAMENT;0DINGBAT NEGATIVE CIRCLED DIGIT ONE;4TWO
4THREE;4FOUR;4FIVE;4SIX;4SEVEN;4Ee;4NINE;3NUMBER TEN;1CIRCLED SANS-SERIF DIGIT ONE;4TWO;4THREE;4FOUR
4FIVE;4SIX;4SEVEN;4Ee;4NINE;3NUMBER TEN;1NEGATIVE CIRCLED SANS-SERIF DIGIT ONE;5TWO;5THREE;5FOUR
5FIVE;5SIX;5SEVEN;5Ee;5NINE;4NUMBER TEN;0HEAVY WIDE-HEADED Rekf;1PLUSn;1MINUSn;1DIVISIONn
1SOUTH EASTf;1Rekf;1NORTH EASTf;0DRAFTqPOINT Rekf;0HEAVY ROUND-TIPPED Rekf;0x-HEADED Rekf
0HEAVY x-HEADED Rekf;0DASHED x-HEADED Rekf;0HEAVY DASHED x-HEADED Rekf;0BLACK Rekf
0THREE-D TOP-LeED RekfHEAD;1BOTTOM-LeED RekfHEAD;0BLACK RekfHEAD;0HEAVY BLACK CURVED DOWNkiRekf
3UPkiRekf;0SQUAT BLACK Rekf;0HEAVY CONCAVE-POINTED BLACK Rekf;0Re-SHADED WHITE Rekf
0p-SHADED WHITE Rekf;0BACK-TILTED SHADOWED WHITE Rekf;0FRONT-TILTED SHADOWED WHITE Rekf
0HEAVY LOWER Re-SHADOWED WHITE Rekf;1UPPER Re-SHADOWED WHITE Rekf
0NOTCHED LOWER Re-SHADOWED WHITE Rekf;0CURLY LOOP;0NOTCHED UPPER Re-SHADOWED WHITE Rekf
0CIRCLED HEAVY WHITE Rekf;0WHITE-FEATHERED Rekf;0BLACK-FEATHERED SOUTH EASTf;1Rekf;1NORTH EASTf
0HEAVY BLACK-FEATHERED SOUTH EASTf;2Rekf;2NORTH EASTf;0TEARDROP-BARBED Rekf
0HEAVY TEARDROP-SHANKED Rekf;0WEDGE-TAILED Rekf;0HEAVY WEDGE-TAILED Rekf;0OPEN-OUTLINED Rekf
0r CURLY LOOP;0THREE DIMENSIONAL ANGLE;0WHITE x CONTAINqhL WHITE x;0PERPENDICULAR;0OPEN SUBSET
1SUPERSET;0p S-SHAPED BAG DELIMITER;0Re S-SHAPED BAG DELIMITER;0ORbDOT INSIDE
0REVERSE SOLIDUS PRECEDqSUBSET;0SUPERSET PRECEDqSOLIDUS;0s BARbt STROKE;0MATHEMATICAL RISqDIAGONAL
0LONG DIVISION;0MATHEMATICAL FALLqDIAGONAL;0SQUARED LOGICAL AND;2OR;0WHITE DIAMONDbCENTRED DOT
0ANDbDOT;0ELEMENT OF OPENqUPk;0LOWER Re CORNERbDOT;0UPPER p CORNERbDOT;0p OUTER JOIN;0Re OUTER JOIN
0FULL OUTER JOIN;0LARGE UP TACK;1DOWN TACK;0piRe r TURNSTILE;3TACK;1MULTIMAP;0LONG Re TACK;1p TACK
0UP TACKbCIRCLEj;0LOZENGE DIVIDED BY t RULE;0WHITE CONCAVE-SIDED DIAMOND;3WITH pk TICK;4Rek TICK
1SQUAREbpk TICK;3Rek TICK;0MATHEMATICAL p WHITE SQUARE BRACKET;1Re WHITE SQUARE BRACKET
1p ANGLE BRACKET;1Re ANGLE BRACKET;1p r ANGLE BRACKET;1Re r ANGLE BRACKET
1p WHITE TORTOISE SHELL BRACKET;1Re WHITE TORTOISE SHELL BRACKET;1p FLATTENED PARENTHESIS
1Re FLATTENED PARENTHESIS;0UPk QUADRUPLEf;0DOWNk QUADRUPLEf;0ANTICLOCKWISE GAPPED CIRCLEf
0CLOCKWISE GAPPED CIRCLEf;0RefbCIRCLED PLUS;0LONG pkf;1Rekf;1p Ref;1pk rf;1Rek rf;1p Re rf
1pkf FROM BAR;1Rekf FROM BAR;1pk rf FROM BAR;1Rek rf FROM BAR;2SQUIGGLEf;0BRAILLE PATTERN BLANK
2DOTS-1;2DOTS-2;2DOTS-12;2DOTS-3;2DOTS-13;2DOTS-23;2DOTS-123;2DOTS-4;2DOTS-14;2DOTS-24;2DOTS-124
2DOTS-34;2DOTS-134;2DOTS-234;2DOTS-1234;2DOTS-5;2DOTS-15;2DOTS-25;2DOTS-125;2DOTS-35;2DOTS-135
2DOTS-235;2DOTS-1235;2DOTS-45;2DOTS-145;2DOTS-245;2DOTS-1245;2DOTS-345;2DOTS-1345;2DOTS-2345
2DOTS-12345;2DOTS-6;2DOTS-16;2DOTS-26;2DOTS-126;2DOTS-36;2DOTS-136;2DOTS-236;2DOTS-1236;2DOTS-46
2DOTS-146;2DOTS-246;2DOTS-1246;2DOTS-346;2DOTS-1346;2DOTS-2346;2DOTS-12346;2DOTS-56;2DOTS-156
2DOTS-256;2DOTS-1256;2DOTS-356;2DOTS-1356;2DOTS-2356;2DOTS-12356;2DOTS-456;2DOTS-1456;2DOTS-2456
2DOTS-12456;2DOTS-3456;2DOTS-13456;2DOTS-23456;2DOTS-123456;2DOTS-7;2DOTS-17;2DOTS-27;2DOTS-127
2DOTS-37;2DOTS-137;2DOTS-237;2DOTS-1237;2DOTS-47;2DOTS-147;2DOTS-247;2DOTS-1247;2DOTS-347;2DOTS-1347
2DOTS-2347;2DOTS-12347;2DOTS-57;2DOTS-157;2DOTS-257;2DOTS-1257;2DOTS-357;2DOTS-1357;2DOTS-2357
2DOTS-12357;2DOTS-457;2DOTS-1457;2DOTS-2457;2DOTS-12457;2DOTS-3457;2DOTS-13457;2DOTS-23457
2DOTS-123457;2DOTS-67;2DOTS-167;2DOTS-267;2DOTS-1267;2DOTS-367;2DOTS-1367;2DOTS-2367;2DOTS-12367
2DOTS-467;2DOTS-1467;2DOTS-2467;2DOTS-12467;2DOTS-3467;2DOTS-13467;2DOTS-23467;2DOTS-123467
2DOTS-567;2DOTS-1567;2DOTS-2567;2DOTS-12567;2DOTS-3567;2DOTS-13567;2DOTS-23567;2DOTS-123567
2DOTS-4567;2DOTS-14567;2DOTS-24567;2DOTS-124567;2DOTS-34567;2DOTS-134567;2DOTS-234567;2DOTS-1234567
2DOTS-8;2DOTS-18;2DOTS-28;2DOTS-128;2DOTS-38;2DOTS-138;2DOTS-238;2DOTS-1238;2DOTS-48;2DOTS-148
2DOTS-248;2DOTS-1248;2DOTS-348;2DOTS-1348;2DOTS-2348;2DOTS-12348;2DOTS-58;2DOTS-158;2DOTS-258
2DOTS-1258;2DOTS-358;2DOTS-1358;2DOTS-2358;2DOTS-12358;2DOTS-458;2DOTS-1458;2DOTS-2458;2DOTS-12458
2DOTS-3458;2DOTS-13458;2DOTS-23458;2DOTS-123458;2DOTS-68;2DOTS-168;2DOTS-268;2DOTS-1268;2DOTS-368
2DOTS-1368;2DOTS-2368;2DOTS-12368;2DOTS-468;2DOTS-1468;2DOTS-2468;2DOTS-12468;2DOTS-3468;2DOTS-13468
2DOTS-23468;2DOTS-123468;2DOTS-568;2DOTS-1568;2DOTS-2568;2DOTS-12568;2DOTS-3568;2DOTS-13568
2DOTS-23568;2DOTS-123568;2DOTS-4568;2DOTS-14568;2DOTS-24568;2DOTS-124568;2DOTS-34568;2DOTS-134568
2DOTS-234568;2DOTS-1234568;2DOTS-78;2DOTS-178;2DOTS-278;2DOTS-1278;2DOTS-378;2DOTS-1378;2DOTS-2378
2DOTS-12378;2DOTS-478;2DOTS-1478;2DOTS-2478;2DOTS-12478;2DOTS-3478;2DOTS-13478;2DOTS-23478
2DOTS-123478;2DOTS-578;2DOTS-1578;2DOTS-2578;2DOTS-12578;2DOTS-3578;2DOTS-13578;2DOTS-23578
2DOTS-123578;2DOTS-4578;2DOTS-14578;2DOTS-24578;2DOTS-124578;2DOTS-34578;2DOTS-134578;2DOTS-234578
2DOTS-1234578;2DOTS-678;2DOTS-1678;2DOTS-2678;2DOTS-12678;2DOTS-3678;2DOTS-13678;2DOTS-23678
2DOTS-123678;2DOTS-4678;2DOTS-14678;2DOTS-24678;2DOTS-124678;2DOTS-34678;2DOTS-134678;2DOTS-234678
2DOTS-1234678;2DOTS-5678;2DOTS-15678;2DOTS-25678;2DOTS-125678;2DOTS-35678;2DOTS-135678;2DOTS-235678
2DOTS-1235678;2DOTS-45678;2DOTS-145678;2DOTS-245678;2DOTS-1245678;2DOTS-345678;2DOTS-1345678
2DOTS-2345678;2DOTS-12345678;0Rek TWO-HEADEDfbs STROKE;4r s STROKE;0pk rfbs STROKE;0Rek rfbs STROKE
0p Re rfbs STROKE;0Rek TWO-HEADEDf FROM BAR;0pk rf FROM BAR;0Rek rf FROM BAR;0DOWNkfbt STROKE
0UPkfbt STROKE;1TRIPLEf;0DOWNk TRIPLEf;0pk r DASHf;0Rek r DASHf;0pk TRIPLE DASHf;0Rek TRIPLE DASHf
1TWO-HEADED TRIPLE DASHf;1ARROWbDOTTED STEM;0UPkf TO BAR;0DOWNkf TO BAR;0RekfbTAILbs STROKE
5r s STROKE;1TWO-HEADEDfbTAIL;5WITH s STROKE;6r s STROKE;0pkf-TAIL;0Rekf-TAIL;0pk rf-TAIL
0Rek rf-TAIL;0pkf TO BLACK DIAMOND;0Rekf TO BLACK DIAMOND;0pkf FROM BAR TO BLACK DIAMOND
0Rekf FROM BAR TO BLACK DIAMOND;0NORTH WESTiSOUTH EASTf;1EASTiSOUTH WESTf;1WESTfbHOOK;1EASTfbHOOK
0SOUTH EASTfbHOOK;1WESTfbHOOK;0NORTH WESTfiNORTH EASTf;1EASTfiSOUTH EASTf;0SOUTH EASTfiSOUTH WESTf
1WESTfiNORTH WESTf;0RISqDIAGONAL CROSSqFALLqDIAGONAL;0FALLqDIAGONAL CROSSqRISqDIAGONAL
0SOUTH EASTf CROSSqNORTH EASTf;0NORTH EASTf CROSSqSOUTH EASTf;0FALLqDIAGONAL CROSSqNORTH EASTf
0RISqDIAGONAL CROSSqSOUTH EASTf;0NORTH EASTf CROSSqNORTH WESTf;1WESTf CROSSqNORTH EASTf
0WAVEf POINTqDIRECTLY Re;0ARROW POINTqRek THEN CURVqUPk;5DOWNk;2DOWNk THEN CURVqpk;5Rek
0Re-SIDE ARC CLOCKWISEf;0p-SIDE ARC ANTICLOCKWISEf;0TOP ARC ANTICLOCKWISEf
0BOTTOM ARC ANTICLOCKWISEf;0TOP ARC CLOCKWISEfbMINUS;2ANTICLOCKWISEfbPLUS
0LOWER Re SEMICIRCULAR CLOCKWISEf;1p SEMICIRCULAR ANTICLOCKWISEf;0ANTICLOCKWISE CLOSED CIRCLEf
0CLOCKWISE CLOSED CIRCLEf;0Rekfj SHORT pkf;0pkfj SHORT Rekf;0SHORT Rekfj pkf;0RekfbPLUSv;0pkfbPLUSv
0Rekf THROUGH X;0p Ref THROUGH hL CIRCLE;0UPk TWO-HEADEDf FROM hL CIRCLE
0p BARB UP Re BARB DOWN HARPOON;2DOWN Re BARB UP HARPOON;0UP BARB Re DOWN BARB p HARPOON
2p DOWN BARB Re HARPOON;0p BARB UP Re BARB UP HARPOON;0UP BARB Re DOWN BARB Re HARPOON
0p BARB DOWN Re BARB DOWN HARPOON;0UP BARB p DOWN BARB p HARPOON;0pk HARPOONbBARB UP TO BAR
0Rek HARPOONbBARB UP TO BAR;0UPk HARPOONbBARB Re TO BAR;0DOWNk HARPOONbBARB Re TO BAR
0pk HARPOONbBARB DOWN TO BAR;0Rek HARPOONbBARB DOWN TO BAR;0UPk HARPOONbBARB p TO BAR
0DOWNk HARPOONbBARB p TO BAR;0pk HARPOONbBARB UP FROM BAR;0Rek HARPOONbBARB UP FROM BAR
0UPk HARPOONbBARB Re FROM BAR;0DOWNk HARPOONbBARB Re FROM BAR;0pk HARPOONbBARB DOWN FROM BAR
0Rek HARPOONbBARB DOWN FROM BAR;0UPk HARPOONbBARB p FROM BAR;0DOWNk HARPOONbBARB p FROM BAR
0pk HARPOONbBARB UPj pk HARPOONbBARB DOWN;0UPk HARPOONbBARB p BESIDE UPk HARPOONbBARB Re
0Rek HARPOONbBARB UPj Rek HARPOONbBARB DOWN;0DOWNk HARPOONbBARB p BESIDE DOWNk HARPOONbBARB Re
0pk HARPOONbBARB UPj Rek HARPOONbBARB UP;4DOWNj Rek HARPOONbBARB DOWN
0Rek HARPOONbBARB UPj pk HARPOONbBARB UP;4DOWNj pk HARPOONbBARB DOWN;0pk HARPOONbBARB UPj LONG DASH
4DOWNv LONG DASH;0Rek HARPOONbBARB UPj LONG DASH;4DOWNv LONG DASH
0UPk HARPOONbBARB p BESIDE DOWNk HARPOONbBARB Re;0DOWNk HARPOONbBARB p BESIDE UPk HARPOONbBARB Re
0Re rfbROUNDED HEAD;0EQUALSnj Rekf;0TILDE OPERATORj Rekf;0pkfj TILDE OPERATOR;0Rekfj TILDE OPERATOR
3ALMOST EQUAL TO;0LESS-THANj pkf;0pkf THROUGH LESS-THAN;0GREATER-THANj Rekf;0SUBSETj Rekf
0pkf THROUGH SUBSET;0SUPERSETj pkf;0p FISH TAIL;0Re FISH TAIL;0UP FISH TAIL;0DOWN FISH TAIL
0TRIPLE s BAR DELIMITER;0Z NOTAw SPOT;2TYPE COLON;0p WHITE CURLY BRACKET;0Re WHITE CURLY BRACKET
0p WHITE PARENTHESIS;0Re WHITE PARENTHESIS;0Z NOTAw p IMAGE BRACKET;2Re IMAGE BRACKET
2p BINDqBRACKET;2Re BINDqBRACKET;0p SQUARE BRACKETbUNDERBAR;0Re SQUARE BRACKETbUNDERBAR
0p SQUARE BRACKETbTICK IN TOP CORNER;0Re SQUARE BRACKETbTICK IN BOTTOM CORNER
0p SQUARE BRACKETbTICK IN BOTTOM CORNER;0Re SQUARE BRACKETbTICK IN TOP CORNER;0p ANGLE BRACKETbDOT
0Re ANGLE BRACKETbDOT;0p ARC LESS-THAN BRACKET;0Re ARC GREATER-THAN BRACKET
0r p ARC GREATER-THAN BRACKET;1Re ARC LESS-THAN BRACKET;0p BLACK TORTOISE SHELL BRACKET
0Re BLACK TORTOISE SHELL BRACKET;0DOTTED FENCE;0s ZIGZAG LINE;0MEASURED ANGLE OPENqp
0Re ANGLE VARIANTbSQUARE;0MEASURED Re ANGLEbDOT;0ANGLEbS INSIDE;0ACUTE ANGLE;0SPHERICAL ANGLE OPENqp
3UP;0TURNED ANGLE;0REVERSED ANGLE;0ANGLEbUNDERBAR;0REVERSED ANGLEbUNDERBAR;0OBLIQUE ANGLE OPENqUP
3DOWN;0MEASURED ANGLEbOPEN ARM ENDqINf POINTqUPiRe;Bp;9DOWNiRe;Bp;9ReiUP;9piUP;9ReiDOWN;9piDOWN
0REVERSED EMPTY SET;0EMPTY SETbOVERBAR;3hL CIRCLEj;3Refj;3pfj;0CIRCLEbt BAR;0CIRCLED s BAR;1PARALLEL
1REVERSE SOLIDUS;1PERPENDICULAR;0CIRCLE DIVIDED BY t BARiTOP HALF DIVIDED BY s BAR
1WITH SUPERIMPOSED X;0CIRCLED ANTICLOCKWISE-ROTATED DIVISIONn;0UPf THROUGH CIRCLE
0CIRCLED WHITE BULLET;1BULLET;1LESS-THAN;1GREATER-THAN;0CIRCLEbhL CIRCLE TO THE Re
2TWO t STROKES TO THE Re;0SQUARED RISqDIAGONAL SLASH;1FALLqDIAGONAL SLASH;1ASTERISK;1hL CIRCLE
1SQUARE;0TWO JOINED SQUARES;0xbDOTj;2UNDERBAR;0S IN x;0xbSERIFS AT BOTTOM;0Re xj p x
0p x BESIDE s BAR;0s BAR BESIDE Re x;0BOWTIEbp HALF BLACK;2Re HALF BLACK;0BLACK BOWTIE
0TIMESbp HALF BLACK;2Re HALF BLACK;0WHITE HOURGLASS;0BLACK HOURGLASS;0p WIGGLY FENCE
0Re WIGGLY FENCE;0p r WIGGLY FENCE;0Re r WIGGLY FENCE;0INCOMPLETE INFINITY;0TIE OVER INFINITY
0INFINITY NEGATEDbs BAR;0r-ENDED MULTIMAP;0SQUAREbCONTOURED OUTLINE;0INCREASES AS;0SHUFFLE PRODUCT
0EQUALSniSLANTED PARALLEL;5WITH TILDEj;0IDENTICAL TOiSLANTED PARALLEL;0GLEICH STARK;0THERMODYNAMIC
0DOWN-POINTqxbp HALF BLACK;3Re HALF BLACK;0BLACK DIAMONDbDOWNf;1LOZENGE;0WHITE CIRCLEbDOWNf
0BLACK CIRCLEbDOWNf;0ERROR-BARRED WHITE SQUARE;1BLACK SQUARE;1WHITE DIAMOND;1BLACK DIAMOND
1WHITE CIRCLE;1BLACK CIRCLE;0RULE-DELAYED;0REVERSE SOLIDUS OPERATOR;0SOLIDUSbOVERBAR
0REVERSE SOLIDUSbt STROKE;0BIG SOLIDUS;1REVERSE SOLIDUS;0r PLUS;0TRIPLE PLUS
0p-POINTqCURVED ANGLE BRACKET;0Re-POINTqCURVED ANGLE BRACKET;0TINY;0MINY;0N-ARY CIRCLED DOT OPERATOR
2PLUS OPERATOR;2TIMES OPERATOR;1UNION OPERATORbDOT;4PLUS;1SQUARE INTERSECw OPERATOR;2UNION OPERATOR
0TWO LOGICALiOPERATOR;2OR OPERATOR;0N-ARY TIMES OPERATOR;0MODULO TWO SUM;0SUMMAwbINTEGRAL
0QUADRUPLE INTEGRAL OPERATOR;0FINITE PART INTEGRAL;0INTEGRALbr STROKE;1AVERAGEbSLASH;0CIRCULAw FUNCw
0ANTICLOCKWISE INTEGRAw;0LINE INTEGRAwbRECTANGULAR PATH AROUND POLE;3SEMICIRCULAR PATH AROUND POLE
2NOT INCLUDqTHE POLE;0INTEGRAL AROUND A POINT OPERATOR;0QUATERNION INTEGRAL OPERATOR
0INTEGRALbpkfbHOOK;2TIMESn;2INTERSECw;2UNION;2OVERBAR;2UNDERBAR;0JOIN;0LARGE p x OPERATOR
0Z NOTAw SCHEMA COMPOSIw;3PIPING;3PROJECw;0PLUSnbhL CIRCLEj;3CIRCUMFLEX ACCENTj;3TILDEj;3DOTv
3TILDEv;3SUBSCRIPT TWO;3BLACK x;0MINUSnbCOMMAj;3DOTv;3FALLqDOTS;3RISqDOTS;0PLUSn IN p HALF CIRCLE
3Re HALF CIRCLE;0VECTOR OR CROSS PRODUCT;0MULTIPLICAwnbDOTj;3UNDERBAR
0SEMIDIRECT PRODUCTbBOTTOM CLOSED;0SMASH PRODUCT;0MULTIPLICAwn IN p HALF CIRCLE;3Re HALF CIRCLE
0CIRCLED MULTIPLICAwnbCIRCUMFLEX ACCENT;0MULTIPLICAwn IN r CIRCLE;0CIRCLED DIVISIONn;0PLUSn IN x
0MINUSn IN x;0MULTIPLICAwn IN x;0INTERIOR PRODUCT;0ReHAND INTERIOR PRODUCT;0Z NOTAw RELAwAL COMPOSIw
0AMALGAMAw OR COPRODUCT;0INTERSECwbDOT;0UNIONbMINUSn;2OVERBAR;0INTERSECwbOVERBAR;2LOGICAL AND
0UNIONbLOGICAL OR;1ABOVE INTERSECw;0INTERSECwj UNION;0UNIONj BARj INTERSECw;0INTERSECwj BARj UNION
0UNION BESIDEiJOINEDbUNION;0INTERSECw BESIDEiJOINEDbINTERSECw;0CLOSED UNIONbSERIFS;1INTERSECwbSERIFS
0r SQUARE INTERSECw;2UNION;0CLOSED UNIONbSERIFSiSMASH PRODUCT;0LOGICAL ANDbDOTj;1ORbDOTj
0r LOGICAL AND;2OR;0TWO INTERSECTqLOGICAL AND;3OR;0SLOPqLARGE OR;2AND
0LOGICAL OR OVERLAPPqLOGICAL AND;1ANDbMIDDLE STEM;1ORbMIDDLE STEM;1ANDbt DASH;1ORbt DASH
1ANDbr OVERBAR;3UNDERBAR;3r UNDERBAR;0hL VEEbUNDERBAR;0LOGICAL ORbr OVERBAR;4UNDERBAR
0Z NOTAw DOMAIN ANTIRESTRICw;2RANGE ANTIRESTRICw;0EQUALSnbDOTv;0IDENTICALbDOTj
0TRIPLE t BARbr s STROKE;4TRIPLE s STROKE;0TILDE OPERATORbDOTj;3RISqDOTS;0SIMILAR MINUS SIMILAR
0CONGRUENTbDOTj;0EQUALSbASTERISK;0ALMOST EQUAL TObCIRCUMFLEX ACCENT;0APPROXIMATELY EQUAL OR EQUAL TO
0EQUALSnj PLUSn;0PLUSnj EQUALSn;0EQUALSnj TILDE OPERATOR;0r COLON EQUAL;0TWO CONSECUTIVE EQUALSnS
0THREE CONSECUTIVE EQUALSnS;0EQUALSnbTWO DOTSjiTWO DOTSv;0EQUIVALENTbFOUR DOTSj
0LESS-THANbCIRCLE INSIDE;0GREATER-THANbCIRCLE INSIDE;0LESS-THANbQUESw MARKj
0GREATER-THANbQUESw MARKj;0LESS-THAN OR SLANTED EQUAL TO;0GREATER-THAN OR SLANTED EQUAL TO
0LESS-THAN OR SLANTED EQUAL TObDOT INSIDE;0GREATER-THAN OR SLANTED EQUAL TObDOT INSIDE
0LESS-THAN OR SLANTED EQUAL TObDOTj;0GREATER-THAN OR SLANTED EQUAL TObDOTj
0LESS-THAN OR SLANTED EQUAL TObDOTj Re;0GREATER-THAN OR SLANTED EQUAL TObDOTj p
0LESS-THAN OR APPROXIMATE;0GREATER-THAN OR APPROXIMATE;0LESS-THANiSINGLE-LINE NOT EQUAL TO
0GREATER-THANiSINGLE-LINE NOT EQUAL TO;0LESS-THANiNOT APPROXIMATE;0GREATER-THANiNOT APPROXIMATE
0LESS-THANj r-LINE EQUALj GREATER-THAN;0GREATER-THANj r-LINE EQUALj LESS-THAN
0LESS-THANj SIMILAR OR EQUAL;0GREATER-THANj SIMILAR OR EQUAL;0LESS-THANj SIMILARj GREATER-THAN
0GREATER-THANj SIMILARj LESS-THAN;0LESS-THANj GREATER-THANj r-LINE EQUAL
0GREATER-THANj LESS-THANj r-LINE EQUAL;0LESS-THANj SLANTED EQUALj GREATER-THANj SLANTED EQUAL
0GREATER-THANj SLANTED EQUALj LESS-THANj SLANTED EQUAL;0SLANTED EQUAL TO OR LESS-THAN;4GREATER-THAN
4LESS-THANbDOT INSIDE;4GREATER-THANbDOT INSIDE;0r-LINE EQUAL TO OR LESS-THAN;4GREATER-THAN
1SLANTED EQUAL TO OR LESS-THAN;5GREATER-THAN;0SIMILAR OR LESS-THAN;2GREATER-THAN
1ABOVE LESS-THANj EQUALSn;2GREATER-THANj EQUALSn;0r NESTED LESS-THAN;2GREATER-THAN
2LESS-THANbUNDERBAR;0GREATER-THAN OVERLAPPqLESS-THAN;1BESIDE LESS-THAN;0LESS-THAN CLOSED BY CURVE
0GREATER-THAN CLOSED BY CURVE;0LESS-THAN CLOSED BY CURVEj SLANTED EQUAL
0GREATER-THAN CLOSED BY CURVEj SLANTED EQUAL;0hLER THAN;0LARGER THAN;0hLER THAN OR EQUAL TO
0LARGER THAN OR EQUAL TO;0EQUALSnbBUMPYj;0PRECEDESj SINGLE-LINE EQUALSn
0SUCCEEDSj SINGLE-LINE EQUALSn;0PRECEDESj SINGLE-LINE NOT EQUAL TO
0SUCCEEDSj SINGLE-LINE NOT EQUAL TO;0PRECEDESj EQUALSn;0SUCCEEDSj EQUALSn;0PRECEDESj NOT EQUAL TO
0SUCCEEDSj NOT EQUAL TO;0PRECEDESj ALMOST EQUAL TO;0SUCCEEDSj ALMOST EQUAL TO
0PRECEDESj NOT ALMOST EQUAL TO;0SUCCEEDSj NOT ALMOST EQUAL TO;0r PRECEDES;1SUCCEEDS;0SUBSETbDOT
0SUPERSETbDOT;0SUBSETbPLUSnv;0SUPERSETbPLUSnv;0SUBSETbMULTIPLICAwnv;0SUPERSETbMULTIPLICAwnv
0SUBSET OF OR EQUAL TObDOTj;0SUPERSET OF OR EQUAL TObDOTj;0SUBSET OFj EQUALSn;0SUPERSET OFj EQUALSn
0SUBSET OFj TILDE OPERATOR;0SUPERSET OFj TILDE OPERATOR;0SUBSET OFj ALMOST EQUAL TO
0SUPERSET OFj ALMOST EQUAL TO;0SUBSET OFj NOT EQUAL TO;0SUPERSET OFj NOT EQUAL TO
0SQUARE p OPEN BOX OPERATOR;1Re OPEN BOX OPERATOR;0CLOSED SUBSET;1SUPERSET;1SUBSET OR EQUAL TO
1SUPERSET OR EQUAL TO;0SUBSETj SUPERSET;0SUPERSETj SUBSET;0SUBSETj SUBSET;0SUPERSETj SUPERSET
1BESIDE SUBSET;2AND JOINED BY DASHbSUBSET;0ELEMENT OF OPENqDOWNk;0PITCHFORKbTEE TOP
0TRANSVERSAL INTERSECw;0FORKING;0NONFORKING;0SHORT p TACK;1DOWN TACK;1UP TACK;0PERPENDICULARbS
0s BAR TRIPLE Re TURNSTILE;0r s BAR p TURNSTILE;0s BAR r p TURNSTILE;0r s BAR r p TURNSTILE
0LONG DASH FROM p MEMBER OF r s;0SHORT DOWN TACKbOVERBAR;1UP TACKbUNDERBAR;3ABOVE SHORT DOWN TACK
0r DOWN TACK;1UP TACK;1STROKE NOTn;0REVERSED r STROKE NOTn;0DOES NOT DIVIDEbREVERSED NEGAw SLASH
0s LINEbCIRCLEj;4BELOW;0DOWN TACKbCIRCLEv;0PARALLELbt STROKE;2TILDE OPERATOR
0TRIPLE s BAR BINARY RELAw;3WITH t STROKE;1COLON OPERATOR;1NESTED LESS-THAN;2GREATER-THAN
0r-LINE SLANTED LESS-THAN OR EQUAL TO;2GREATER-THAN OR EQUAL TO;0TRIPLE SOLIDUS BINARY RELAw
0LARGE TRIPLE s BAR OPERATOR;0r SOLIDUS OPERATOR;0WHITE s BAR;0N-ARY WHITE s BAR;0NORTH EAST WHITEf
1WEST WHITEf;0SOUTH EAST WHITEf;1WEST WHITEf;0p Re WHITEf;0pk BLACKf;0UPk BLACKf;0DOWNk BLACKf
0NORTH EAST BLACKf;1WEST BLACKf;0SOUTH EAST BLACKf;1WEST BLACKf;0p Re BLACKf;0UP DOWN BLACKf
0RekfbTIP DOWNk;4UPk;0pkfbTIP DOWNk;4UPk;0SQUAREbTOP HALF BLACK;2BOTTOM HALF BLACK
2UPPER Re DIAGONAL HALF BLACK;2LOWER p DIAGONAL HALF BLACK;0DIAMONDbp HALF BLACK;2Re HALF BLACK
2TOP HALF BLACK;2BOTTOM HALF BLACK;0DOTTED SQUARE;0BLACK LARGE SQUARE;0WHITE LARGE SQUARE
0BLACK VERY hL SQUARE;0WHITE VERY hL SQUARE;0BLACK PENTAGON;0WHITE PENTAGON;1HEXAGON;0BLACK HEXAGON
0t BLACK HEXAGON;0BLACK LARGE CIRCLE;1MEDIUM DIAMOND;0WHITE MEDIUM DIAMOND;0BLACK MEDIUM LOZENGE
0WHITE MEDIUM LOZENGE;0BLACK hL DIAMOND;2LOZENGE;0WHITE hL LOZENGE;0BLACK t ELLIPSE;0WHITE t ELLIPSE
0BLACK s ELLIPSE;0WHITE s ELLIPSE;0pfbhL CIRCLE;0THREE pkfS;0pfbCIRCLED PLUS;0LONG pk SQUIGGLEf
0pk TWO-HEADEDfbs STROKE;4r s STROKE;3FROM BAR;2TRIPLE DASHf;1ARROWbDOTTED STEM;3TAILbs STROKE
5r s STROKE;1TWO-HEADEDfbTAIL;5WITH s STROKE;6r s STROKE;1ARROW THROUGH X;0WAVEf POINTqDIRECTLY p
0EQUALSnj pkf;0REVERSE TILDE OPERATORj pkf;0pkfj REVERSE ALMOST EQUAL TO;0Rekf THROUGH GREATER-THAN
3SUPERSET;0pk QUADRUPLEf;0Rek QUADRUPLEf;0REVERSE TILDE OPERATORj Rekf
0Rekfj REVERSE ALMOST EQUAL TO;0TILDE OPERATORj pkf;0pkfj ALMOST EQUAL TO;3REVERSE TILDE OPERATOR
0Rekfj REVERSE TILDE OPERATOR;0DOWNk x-HEADED ZIGZAGf;0SHORT SLANTED NORTHf;1BACKSLANTED SOUTHf
0WHITE MEDIUM STAR;0BLACK hL STAR;0WHITE hL STAR;0BLACK Re-POINTqPENTAGON;0WHITE Re-POINTqPENTAGON
0HEAVY LARGE CIRCLE;1OVALbOVAL INSIDE;1CIRCLEbCIRCLE INSIDE;2;1CIRCLED SALTIRE
0SLANTED NORTHfbHOOKED HEAD;0BACKSLANTED SOUTHfbHOOKED TAIL;0SLANTED NORTHfbt TAIL
0BACKSLANTED SOUTHfbt TAIL;0BENTf POINTqDOWNk THEN NORTH EAST
0SHORT BENTf POINTqDOWNk THEN NORTH EAST;0pk x-HEADEDf;0UPk x-HEADEDf;0Rek x-HEADEDf
0DOWNk x-HEADEDf;0p Re x-HEADEDf;0UP DOWN x-HEADEDf;0NORTH WEST x-HEADEDf;1EAST x-HEADEDf
0SOUTH EAST x-HEADEDf;1WEST x-HEADEDf;0pk x-HEADED DASHEDf;0UPk x-HEADED DASHEDf
0Rek x-HEADED DASHEDf;0DOWNk x-HEADED DASHEDf;0CLOCKWISE x-HEADED OPEN CIRCLEf
0ANTICLOCKWISE x-HEADED OPEN CIRCLEf;0pk x-HEADEDf TO BAR;0UPk x-HEADEDf TO BAR
0Rek x-HEADEDf TO BAR;0DOWNk x-HEADEDf TO BAR;+2B76;0NORTH WEST x-HEADEDf TO BAR
1EAST x-HEADEDf TO BAR;0SOUTH EAST x-HEADEDf TO BAR;1WEST x-HEADEDf TO BAR;0pk x-HEADEDfbr t STROKE
0UPk x-HEADEDfbr t STROKE;0Rek x-HEADEDfbr t STROKE;0DOWNk x-HEADEDfbr t STROKE;0t TAB KEY
0s TAB KEY;0pk x-HEADEDf OVER Rek x-HEADEDf;0UPk x-HEADEDf pk OF DOWNk x-HEADEDf
0Rek x-HEADEDf OVER pk x-HEADEDf;0DOWNk x-HEADEDf pk OF UPk x-HEADEDf;0pk x-HEADED PAIREDfS
0UPk x-HEADED PAIREDfS;0Rek x-HEADED PAIREDfS;0DOWNk x-HEADED PAIREDfS;0pk BLACK CIRCLED WHITEf
0UPk BLACK CIRCLED WHITEf;0Rek BLACK CIRCLED WHITEf;0DOWNk BLACK CIRCLED WHITEf
0ANTICLOCKWISE x-HEADED Re U-SHAPEDf;2BOTTOM U-SHAPEDf;2p U-SHAPEDf;2TOP U-SHAPEDf;0RETURN p;1Re
0NEWLINE p;1Re;0FOUR CORNERfS CIRCLqANTICLOCKWISE;0Rek BLACKf;+2B97;0u FOR TYPE A ELECTRONICS
0THREE-D TOP-LeED pk EQUILATERALfHEAD;1Re-LeED UPk EQUILATERALfHEAD;1TOP-LeED Rek EQUILATERALfHEAD
1p-LeED DOWNk EQUILATERALfHEAD;0BLACK pk EQUILATERALfHEAD;1UPk EQUILATERALfHEAD
1Rek EQUILATERALfHEAD;1DOWNk EQUILATERALfHEAD;0DOWNk x-HEADEDfbLONG TIP pk;6Rek
0UPk x-HEADEDfbLONG TIP pk;6Rek;0pk x-HEADEDfbLONG TIP UPk;0Rek x-HEADEDfbLONG TIP UPk
0pk x-HEADEDfbLONG TIP DOWNk;0Rek x-HEADEDfbLONG TIP DOWNk;0BLACK CURVED DOWNkipkf;4Rekf;2UPkipkf
4Rekf;2pkiUPkf;2RekiUPkf;2pkiDOWNkf;2RekiDOWNkf;0RIBBONf DOWN p;3Re;2UP p;3Re;2p UP;2Re UP;2p DOWN
2Re DOWN;0UPk WHITEf FROM BARbt BAR;0UPfHEAD IN A RECTANGLE BOX;0OVERLAPPqWHITE SQUARES
2AND BLACK SQUARES;1BLACK SQUARES;0BALLOT BOXbLe X;0CIRCLED X;1BOLD X;0BLACK SQUARE CENTRED
1DIAMOND CENTRED;0TURNED BLACK PENTAGON;0t BLACK OCTAGON;0BLACK OCTAGON;1MEDIUM UP-POINTqx CENTRED
2DOWN-POINTqx CENTRED;2p-POINTqx CENTRED;2Re-POINTqx CENTRED;0NEPTUNEg TWO;0TOP HALF BLACK CIRCLE
0BOTTOM HALF BLACK CIRCLE;0Le FOUR POINTED BLACK CUSP;0ROTATED Le FOUR POINTED BLACK CUSP
0WHITE FOUR POINTED CUSP;0ROTATED WHITE FOUR POINTED CUSP;0SQUARE POSIw INDICATOR;0UNCERTAINTYn
0GROUP MARK;0PLUTOg TWO;2THREE;2FOUR;2FIVE;0TRANSPLUTO;0PROSERPINA;0ASTRAEA;0HYGIEA;0PHOLUS;0NESSUS
0WHITE MOON SELENA;0BLACK DIAMOND ON CROSS;0TRUE Le MOON ARTA;0CUPIDO;0HADES;0ZEUS;0KRONOS;0APOLLON
0ADMETOS;0VULCANUS;0POSEIDON;0p HALF BLACK STAR;0Re HALF BLACK STAR;0STARbp HALF BLACK
2Re HALF BLACK;0pk TWO-HEADEDfbxfHEADS;0UPk TWO-HEADEDfbxfHEADS;0Rek TWO-HEADEDfbxfHEADS
0DOWNk TWO-HEADEDfbxfHEADS;0ERISg ONE;2TWO;0SEDNA;0RUSSIAN ASTROLOGICAL u VIGINTILE;3NOVILE
3QUINTILE;3BINOVILE;3SENTAGON;3TREDECILE;0EQUALSnbINFINITYv;0UNITED u;0SEPARATED u;0rD u;0PASSED u
0REVERSED Re ANGLE;0HELLSCHREIBER PAUSE u;0GLAGOLITIC daAZU;3BUKY;3VEDE;3GLAGOLI;3DOBRO;3YESTU
3ZHIVETE;3DZELO;3ZEMLJA;3IZHE;3INITIAL IZHE;3I;3DJERVI;3KAKO;3LJUDIJE;3MYSLITE;3NASHI;3ONU;3POKOJI
3RITSI;3SLOVO;3TVRIDO;3UKU;3FRITU;3HERU;3OTU;3PE;3SHTA;3TSI;3CHRIVI;3SHA;3YERU;3YERI;3YATI
3SPIDERY HA;3YU;3hL YUS;5WITH TAIL;3YO;3IOTATED hL YUS;3BIG YUS;3IOTATED BIG YUS;3FITA;3IZHITSA
3SHTAPIC;3TROKUTASTI A;3LATINATE MYSLITE;3CAUDATE CHRIVI;1haAZU;3BUKY;3VEDE;3GLAGOLI;3DOBRO;3YESTU
3ZHIVETE;3DZELO;3ZEMLJA;3IZHE;3INITIAL IZHE;3I;3DJERVI;3KAKO;3LJUDIJE;3MYSLITE;3NASHI;3ONU;3POKOJI
3RITSI;3SLOVO;3TVRIDO;3UKU;3FRITU;3HERU;3OTU;3PE;3SHTA;3TSI;3CHRIVI;3SHA;3YERU;3YERI;3YATI
3SPIDERY HA;3YU;3hL YUS;5WITH TAIL;3YO;3IOTATED hL YUS;3BIG YUS;3IOTATED BIG YUS;3FITA;3IZHITSA
3SHTAPIC;3TROKUTASTI A;3LATINATE MYSLITE;3CAUDATE CHRIVI;0LATIN daLbr BAR;1haLbr BAR
1daLbMIDDLE TILDE;3PbSTROKE;3RbTAIL;1haAbSTROKE;3TbDIAGONAL STROKE;1daHbDESCENDER;1haHbDESCENDER
1daKbDESCENDER;1haKbDESCENDER;1daZbDESCENDER;1haZbDESCENDER;1daALPHA;3MbHOOK;3TURNED A;4ALPHA
1haVbRe HOOK;1daWbHOOK;1haWbHOOK;3VbCURL;1daHALF H;1haHALF H;3TAILLESS PHI;3EbNOTCH;3TURNED RbTAIL
3ObLOW RqINSIDE;1mhL dL TURNED E;1SUBSCRIPT haJ;0MODIFIER mdL V;0LATIN daSbSWASH TAIL;3ZbSWASH TAIL
0COPTIC daALFA;1haALFA;1daVIDA;1haVIDA;1daGAMMA;1haGAMMA;1daDALDA;1haDALDA;1daEIE;1haEIE;1daSOU
1haSOU;1daZATA;1haZATA;1daHATE;1haHATE;1daTHETHE;1haTHETHE;1daIAUDA;1haIAUDA;1daKAPA;1haKAPA
1daLAULA;1haLAULA;1daMI;1haMI;1daNI;1haNI;1daKSI;1haKSI;1daO;1haO;1daPI;1haPI;1daRO;1haRO;1daSIMA
1haSIMA;1daTAU;1haTAU;1daUA;1haUA;1daFI;1haFI;1daKHI;1haKHI;1daPSI;1haPSI;1daOOU;1haOOU
1daDIALECT-P ALEF;1haDIALECT-P ALEF;1daOLD COPTIC AIN;1haOLD COPTIC AIN;1daCRYPTOGRAMMIC EIE
1haCRYPTOGRAMMIC EIE;1daDIALECT-P KAPA;1haDIALECT-P KAPA;1daDIALECT-P NI;1haDIALECT-P NI
1daCRYPTOGRAMMIC NI;1haCRYPTOGRAMMIC NI;1daOLD COPTIC OOU;1haOLD COPTIC OOU;1daSAMPI;1haSAMPI
1daCROSSED SHEI;1haCROSSED SHEI;1daOLD COPTIC SHEI;1haOLD COPTIC SHEI;1daOLD COPTIC ESH
1haOLD COPTIC ESH;1daAKHMIMIC KHEI;1haAKHMIMIC KHEI;1daDIALECT-P HORI;1haDIALECT-P HORI
1daOLD COPTIC HORI;1haOLD COPTIC HORI;1daOLD COPTIC HA;1haOLD COPTIC HA;1daL-SHAPED HA
1haL-SHAPED HA;1daOLD COPTIC HEI;1haOLD COPTIC HEI;1daOLD COPTIC HAT;1haOLD COPTIC HAT
1daOLD COPTIC GANGIA;1haOLD COPTIC GANGIA;1daOLD COPTIC DJA;1haOLD COPTIC DJA;1daOLD COPTIC SHIMA
1haOLD COPTIC SHIMA;1daOLD NUBIAN SHIMA;1haOLD NUBIAN SHIMA;1daOLD NUBIAN NGI;1haOLD NUBIAN NGI
1daOLD NUBIAN NYI;1haOLD NUBIAN NYI;1daOLD NUBIAN WAU;1haOLD NUBIAN WAU;1u KAI;2MI RO;2PI RO
2STAUROS;2TAU RO;2KHI RO;2SHIMA SIMA;1daCRYPTOGRAMMIC SHEI;1haCRYPTOGRAMMIC SHEI
1daCRYPTOGRAMMIC GANGIA;1haCRYPTOGRAMMIC GANGIA;1COMBINqNIj;2SPIRITUS ASPER;3LENIS;1daBOHAIRIC KHEI
1haBOHAIRIC KHEI;+2CF9;1OLD NUBIAN FULL STOP;3DIRECT QUESw MARK;3INDIRECT QUESw MARK;3VERSE DIVIDER
1FRACw ONE HALF;1FULL STOP;1MORPHOLOGICAL DIVIDER;0GEORGIAN haAN;3BAN;3GAN;3DON;3EN;3VIN;3ZEN;3TAN
3IN;3KAN;3LAS;3MAN;3NAR;3ON;3PAR;3ZHAR;3RAE;3SAN;3TAR;3UN;3PHAR;3KHAR;3GHAN;3QAR;3SHIN;3CHIN;3CAN
3JIL;3CIL;3CHAR;3XAN;3JHAN;3HAE;3HE;3HIE;3WE;3HAR;3HOE;+2D27;3YN;+2D2D;3AEN;+2D30;0TIFINAGH mYA;2YAB
2YABH;2YAG;2YAGHH;2BERBER ACADEMY YAJ;2YAJ;2YAD;2YADH;2YADD;2YADDH;2YEY;2YAF;2YAK;2TUAREG YAK;2YAKHH
2YAH;2BERBER ACADEMY YAH;2TUAREG YAH;2YAHH;2YAA;2YAKH;2TUAREG YAKH;2YAQ;2TUAREG YAQ;2YI;2YAZH
2AHAGGAR YAZH;2TUAREG YAZH;2YAL;2YAM;2YAN;2TUAREG YAGN;3YANG;2YAP;2YU;2YAR;2YARR;2YAGH;2TUAREG YAGH
2AYER YAGH;2YAS;2YASS;2YASH;2YAT;2YATH;2YACH;2YATT;2YAV;2YAW;2YAY;2YAZ;2TAWELLEMET YAZ;2YAZZ;2YE;2YO
+2D6F;1MODIFIER mLABIALIZAw MARK;1SEPARATOR MARK;+2D7F;1CONSONANT JOINER;0ETHIOPIC SYLLABLE LOA;2MOA
2ROA;2SOA;2SHOA;2BOA;2TOA;2COA;2NOA;2NYOA;2GLOTTAL OA;2ZOA;2DOA;2DDOA;2JOA;2THOA;2CHOA;2PHOA;2POA
2GGWA;2GGWI;2GGWEE;2GGWE;+2DA0;2SSA;2SSU;2SSI;2SSAA;2SSEE;2SSE;2SSO;+2DA8;2CCA;2CCU;2CCI;2CCAA;2CCEE
2CCE;2CCO;+2DB0;2ZZA;2ZZU;2ZZI;2ZZAA;2ZZEE;2ZZE;2ZZO;+2DB8;2CCHA;2CCHU;2CCHI;2CCHAA;2CCHEE;2CCHE
2CCHO;+2DC0;2QYA;2QYU;2QYI;2QYAA;2QYEE;2QYE;2QYO;+2DC8;2KYA;2KYU;2KYI;2KYAA;2KYEE;2KYE;2KYO;+2DD0
2XYA;2XYU;2XYI;2XYAA;2XYEE;2XYE;2XYO;+2DD8;2GYA;2GYU;2GYI;2GYAA;2GYEE;2GYE;2GYO;+2DE0
0COMBINqCYRILLIC mBE;3VE;3GHE;3DE;3ZHE;3ZE;3KA;3EL;3EM;3EN;3O;3PE;3ER;3ES;3TE;3HA;3TSE;3CHE;3SHA
3SHCHA;3FITA;3ES-TE;3A;3IE;3DJERV;3MONOGRAPH UK;3YAT;3YU;3IOTIFIED A;3LITTLE YUS;3BIG YUS
3IOTIFIED BIG YUS;0Re ANGLE SUBSTITUw MARKER;2DOTTED SUBSTITUw MARKER;0p SUBSTITUw BRACKET
0Re SUBSTITUw BRACKET;0p DOTTED SUBSTITUw BRACKET;0Re DOTTED SUBSTITUw BRACKET
0RAISED INTERPOLAw MARKER;1DOTTED INTERPOLAw MARKER;0DOTTED TRANSPOSIw MARKER;0p TRANSPOSIw BRACKET
0Re TRANSPOSIw BRACKET;0RAISED SQUARE;0p RAISED OMISSION BRACKET;0Re RAISED OMISSION BRACKET
0EDITORIAL CORONIS;0PARAGRAPHOS;0FORKED PARAGRAPHOS;0REVERSED FORKED PARAGRAPHOS;0HYPODIASTOLE
0DOTTED OBELOS;0DOWNk ANCORA;0UPk ANCORA;0DOTTED Re-POINTqANGLE;0r OBLIQUE HYPHEN
0INVERTED INTERROBANG;0PALM BRANCH;0HYPHENbDIAERESIS;0TILDEbRINGj;0p LOW PARAPHRASE BRACKET
0Re LOW PARAPHRASE BRACKET;0TILDEbDOTj;3BELOW;0p s BARbQUILL;0Re s BARbQUILL;0TOP p HALF BRACKET
1Re HALF BRACKET;0BOTTOM p HALF BRACKET;1Re HALF BRACKET;0p SIDEWAYS U BRACKET
0Re SIDEWAYS U BRACKET;0p r PARENTHESIS;0Re r PARENTHESIS;0TWO DOTS OVER ONE DOT PUNCTUAw
0ONE DOT OVER TWO DOTS PUNCTUAw;0SQUARED FOUR DOT PUNCTUAw;0FIVE DOT MARK;0REVERSED QUESw MARK
0s TILDE;0RqPOINT;0WORD SEPARATOR MIDDLE DOT;0TURNED COMMA;0RAISED DOT;1COMMA;0TURNED SEMICOLON
0DAGGERbp GUARD;2Re GUARD;0TURNED DAGGER;0TOP HALF SECwn;0TWO-EM DASH;0THREE-EM DASH
0STENOGRAPHIC FULL STOP;0s SIX DOTS;0WIGGLY s LINE;0CAPITULUM;0r HYPHEN;0REVERSED COMMA
0r LOW-REVERSED-9 QUOTAw MARK;0DASHbp UPTURN;0r SUSPENSION MARK;0INVERTED LOW KAVYKA;3WITH KAVYKAj
0LOW KAVYKA;2WITH DOT;0r STACKED COMMA;0DOTTED SOLIDUS;0TRIPLE DAGGER;0MEDIEVAL COMMA
0PARAGRAPHUS MARK;0PUNCTUS ELEVATUS MARK;0CORNISH VERSE DIVIDER;0CROSS PATTYbRe CROSSBAR;3p CROSSBAR
0TIRONIANn dL ET;0MEDIEVAL EXCLAMAw MARK;1QUESw MARK;0p SQUARE BRACKETbSTROKE
0Re SQUARE BRACKETbSTROKE;0p SQUARE BRACKETbr STROKE;0Re SQUARE BRACKETbr STROKE
0TOP HALF p PARENTHESIS;2Re PARENTHESIS;0BOTTOM HALF p PARENTHESIS;2Re PARENTHESIS;0OBLIQUE HYPHEN"

end Parlance.Unicode
