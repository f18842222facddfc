/-!
# Further names

Control characters have no names of their own, and some names are commonly shortened or had to be
corrected. `CharacterName` says how the table is written.
-/

namespace Parlance.Unicode

/-- Further names, by the characters that have them. -/
def aliasNames : String := "
+0;0NUL;+0;0NULL;0SOH;+1;0START OF HEADING;2TEXT;+2;0STX;0END OF TEXT;+3;0ETX;0END OF TRANSMISSION
+4;0EOT;0ENQ;+5;0ENQUIRY;0ACK;+6;0ACKNOWLEDGE;0ALERT;+7;0BEL;0BACKSPACE;+8;0BS;0CHARACTER TABULAw;+9
0t TABULAw;+9;0HT;+9;0TAB;0END OF LINE;+A;0EOL;+A;0LF;+A;0LINE FEED;+A;0NEW LINE;+A;0NL
0LINE TABULAw;+B;0s TABULAw;+B;0VT;0FF;+C;0FORM FEED;0CARRIAGE RETURN;+D;0CR;0LOCKING-SHIFT ONE;+E
0SHIFT OUT;+E;0SO;0LOCKING-SHIFT ZERO;+F;0SHIFT IN;+F;0SI;0DATA LINK ESCAPE;+10;0DLE;0DC1;+11
0DEVICE CONTROL ONE;0DC2;+12;0DEVICE CONTROL TWO;0DC3;+13;0DEVICE CONTROL THREE;0DC4;+14
0DEVICE CONTROL FOUR;0NAK;+15;0NEGATIVE ACKNOWLEDGE;0SYN;+16;0SYNCHRONOUS IDLE
0END OF TRANSMISSION BLOCK;+17;0ETB;0CAN;+18;0CANCEL;0END OF MEDIUM;+19;0EOM;0SUB;+1A;0SUBSTITUTE
0ESC;+1B;0ESCAPE;0FILE SEPARATOR;+1C;0FS;+1C;0INFORMAw SEPARATOR FOUR;0GROUP SEPARATOR;+1D;0GS;+1D
0INFORMAw SEPARATOR THREE;2TWO;+1E;0RECORD SEPARATOR;+1E;0RS;0INFORMAw SEPARATOR ONE;+1F
0UNIT SEPARATOR;+1F;0US;0SP;+7F;0DEL;+7F;0DELETE;0PAD;+80;0PADDqCHARACTER;0HIGH OCTET PRESET;+81
0HOP;0BPH;+82;0BREAK PERMITTED HERE;0NBH;+83;0NO BREAK HERE;0IND;+84;0INDEX;0NEL;+85;0NEXT LINE;0SSA
+86;0START OF SELECTED AREA;0END OF SELECTED AREA;+87;0ESA;0CHARACTER TABULAw SET;+88;0t TABULAw SET
+88;0HTS;0CHARACTER TABULAwbJUSTIFICAw;+89;0t TABULAwbJUSTIFICAw;+89;0HTJ;0LINE TABULAw SET;+8A
0s TABULAw SET;+8A;0VTS;0PARTIAL LINE DOWN;+8B;2FORWARD;+8B;0PLD;0PARTIAL LINE BACKWARD;+8C;2UP;+8C
0PLU;0REVERSE INDEX;+8D;1LINE FEED;+8D;0RI;0SINGLE SHIFT TWO;+8E;0SINGLE-SHIFT-2;+8E;0SS2
0SINGLE SHIFT THREE;+8F;0SINGLE-SHIFT-3;+8F;0SS3;0DCS;+90;0DEVICE CONTROL STRING;0PRIVATE USE ONE
+91;1USE-1;+91;0PU1;0PRIVATE USE TWO;+92;1USE-2;+92;0PU2;0SET TRANSMIT STATE;+93;0STS
0CANCEL CHARACTER;+94;0CCH;0MESSAGE WAITING;+95;0MW;0SPA;+96;0START OF GUARDED AREA;+96
2PROTECTED AREA;0END OF GUARDED AREA;+97;2PROTECTED AREA;+97;0EPA;0SOS;+98;0START OF STRING;0SGC;+99
0SINGLE GRAPHIC CHARACTER INTRODUCER;0SCI;+9A;0SINGLE CHARACTER INTRODUCER
0CONTROL SEQUENCE INTRODUCER;+9B;0CSI;0ST;+9C;0STRqTERMINATOR;0OPERATqSYSTEM COMMAND;+9D;0OSC;0PM
+9E;0PRIVACY MESSAGE;0APC;+9F;0APPLICAw PROGRAM COMMAND;0NBSP;+AD;0SHY;+1A2;0LATIN daGHA;1haGHA;+34F
0CGJ;+61C;0ALM;+709;0SYRIAC SUBLINEAR COLON SKEWED p;+CDE;0KANNADA mLLLA;+E9D;0LAO mFO FON;+E9F;3FAY
+EA3;2RO;+EA5;2LO;+FD0;0TIBETAN MARK BKA- SHOG GI MGO RGYAN;+11EC;0HANGUL JONGSEONG YESIEUNG-KIYEOK
2YESIEUNG-SSANGKIYEOK;2SSANGYESIEUNG;2YESIEUNG-KHIEUKH;+180B;0FVS1;0FVS2;0FVS3;0MVS;0FVS4;+200B
0ZWSP;0ZWNJ;0ZWJ;0LRM;0RLM;+202A;0LRE;0RLE;0PDF;0LRO;0RLO;0NNBSP;+205F;0MMSP;0WJ;+2066;0LRI;0RLI
0FSI;0PDI;+2118;0WEIERSTRASS ELLIPTIC FUNCw;+2448;0MICR ON US u;1DASH u;+2B7A
0pk x-HEADEDfbr s STROKE;+2B7C;0Rek x-HEADEDfbr s STROKE;+A015;0YI SYLLABLE ITERAw MARK;+AA6E
0MYANMAR mKHAMTI LLA;+FE18;0PRESENTAwg FOR s Re WHITE LENTICULAR BRACKET;+FEFF;0BOM;+FEFF
0BYTE ORDER MARK;+FEFF;0ZWNBSP;+122D4;0CUNEIFORMn NU11 TENU;3OVER NU11 BUR OVER BUR;+16E56
0MEDEFAIDRIN daH;3NG;+16E76;1haH;3NG;+1B001;0HENTAIGANA mE-1;+1D0C5
0BYZANTINE MUSICAL u FTHORA SKLIRON CHROMA VASIS"

end Parlance.Unicode
