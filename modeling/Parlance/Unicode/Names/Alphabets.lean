/-!
# Names in alphabets

The names of the characters before the general punctuation: the alphabets, syllabaries and marks of
living scripts.
`CharacterName` says how the table is written.
-/

namespace Parlance.Unicode

/-- The names of the characters before 2000. -/
def alphabetNames : String := "
+20;0SPACE;0EXCLAMAw MARK;0QUOTAw MARK;0NUMBERn;0DOLLARn;0PERCENTn;0AMPERSAND;0APOSTROPHE
0p PARENTHESIS;0Re PARENTHESIS;0ASTERISK;0PLUSn;0COMMA;0HYPHEN-MINUS;0FULL STOP;0SOLIDUS;0DIGIT ZERO
1ONE;1TWO;1THREE;1FOUR;1FIVE;1SIX;1SEVEN;1Ee;1NINE;0COLON;0SEMICOLON;0LESS-THANn;0EQUALSn
0GREATER-THANn;0QUESw MARK;0COMMERCIAL AT;0LATIN daA;3B;3C;3D;3E;3F;3G;3H;3I;3J;3K;3L;3M;3N;3O;3P;3Q
3R;3S;3T;3U;3V;3W;3X;3Y;3Z;0p SQUARE BRACKET;0REVERSE SOLIDUS;0Re SQUARE BRACKET;0CIRCUMFLEX ACCENT
0LOW LINE;0GRAVE ACCENT;0LATIN haA;3B;3C;3D;3E;3F;3G;3H;3I;3J;3K;3L;3M;3N;3O;3P;3Q;3R;3S;3T;3U;3V;3W
3X;3Y;3Z;0p CURLY BRACKET;0s LINE;0Re CURLY BRACKET;0TILDE;+A0;0NO-BREAK SPACE
0INVERTED EXCLAMAw MARK;0CENTn;0POUNDn;0CURRENCYn;0YENn;0BROKEN BAR;0SECwn;0DIAERESIS;0COPYRen
0FEMININE ORDz INDICATOR;0p-POINTqr ANGLE QUOTAw MARK;0NOTn;0SOFT HYPHEN;0REGISTEREDn;0MACRON
0DEGREEn;0PLUS-MINUSn;0SUPERSCRIPT TWO;1THREE;0ACUTE ACCENT;0MICROn;0PILCROWn;0MIDDLE DOT;0CEDILLA
0SUPERSCRIPT ONE;0MASCULINE ORDz INDICATOR;0Re-POINTqr ANGLE QUOTAw MARK;0VULGAR FRACw ONE QUARTER
3HALF;2THREE QUARTERS;0INVERTED QUESw MARK;0LATIN daAbGRAVE;5ACUTE;5CIRCUMFLEX;5TILDE;5DIAERESIS
5RINGj;3AE;3CbCEDILLA;3EbGRAVE;5ACUTE;5CIRCUMFLEX;5DIAERESIS;3IbGRAVE;5ACUTE;5CIRCUMFLEX;5DIAERESIS
3ETH;3NbTILDE;3ObGRAVE;5ACUTE;5CIRCUMFLEX;5TILDE;5DIAERESIS;0MULTIPLICAwn;0LATIN daObSTROKE;3UbGRAVE
5ACUTE;5CIRCUMFLEX;5DIAERESIS;3YbACUTE;3THORN;1haSHARP S;3AbGRAVE;5ACUTE;5CIRCUMFLEX;5TILDE
5DIAERESIS;5RINGj;3AE;3CbCEDILLA;3EbGRAVE;5ACUTE;5CIRCUMFLEX;5DIAERESIS;3IbGRAVE;5ACUTE;5CIRCUMFLEX
5DIAERESIS;3ETH;3NbTILDE;3ObGRAVE;5ACUTE;5CIRCUMFLEX;5TILDE;5DIAERESIS;0DIVISIONn;0LATIN haObSTROKE
3UbGRAVE;5ACUTE;5CIRCUMFLEX;5DIAERESIS;3YbACUTE;3THORN;3YbDIAERESIS;1daAbMACRON;1haAbMACRON
1daAbBREVE;1haAbBREVE;1daAbOGONEK;1haAbOGONEK;1daCbACUTE;1haCbACUTE;1daCbCIRCUMFLEX;1haCbCIRCUMFLEX
1daCbDOTj;1haCbDOTj;1daCbCARON;1haCbCARON;1daDbCARON;1haDbCARON;1daDbSTROKE;1haDbSTROKE;1daEbMACRON
1haEbMACRON;1daEbBREVE;1haEbBREVE;1daEbDOTj;1haEbDOTj;1daEbOGONEK;1haEbOGONEK;1daEbCARON;1haEbCARON
1daGbCIRCUMFLEX;1haGbCIRCUMFLEX;1daGbBREVE;1haGbBREVE;1daGbDOTj;1haGbDOTj;1daGbCEDILLA;1haGbCEDILLA
1daHbCIRCUMFLEX;1haHbCIRCUMFLEX;1daHbSTROKE;1haHbSTROKE;1daIbTILDE;1haIbTILDE;1daIbMACRON
1haIbMACRON;1daIbBREVE;1haIbBREVE;1daIbOGONEK;1haIbOGONEK;1daIbDOTj;1haDOTLESS I;1dL LIGATURE IJ
1hL LIGATURE IJ;1daJbCIRCUMFLEX;1haJbCIRCUMFLEX;1daKbCEDILLA;1haKbCEDILLA;3KRA;1daLbACUTE;1haLbACUTE
1daLbCEDILLA;1haLbCEDILLA;1daLbCARON;1haLbCARON;1daLbMIDDLE DOT;1haLbMIDDLE DOT;1daLbSTROKE
1haLbSTROKE;1daNbACUTE;1haNbACUTE;1daNbCEDILLA;1haNbCEDILLA;1daNbCARON;1haNbCARON
4PRECEDED BY APOSTROPHE;1daENG;1haENG;1daObMACRON;1haObMACRON;1daObBREVE;1haObBREVE;1daObr ACUTE
1haObr ACUTE;1dL LIGATURE OE;1hL LIGATURE OE;1daRbACUTE;1haRbACUTE;1daRbCEDILLA;1haRbCEDILLA
1daRbCARON;1haRbCARON;1daSbACUTE;1haSbACUTE;1daSbCIRCUMFLEX;1haSbCIRCUMFLEX;1daSbCEDILLA
1haSbCEDILLA;1daSbCARON;1haSbCARON;1daTbCEDILLA;1haTbCEDILLA;1daTbCARON;1haTbCARON;1daTbSTROKE
1haTbSTROKE;1daUbTILDE;1haUbTILDE;1daUbMACRON;1haUbMACRON;1daUbBREVE;1haUbBREVE;1daUbRINGj
1haUbRINGj;1daUbr ACUTE;1haUbr ACUTE;1daUbOGONEK;1haUbOGONEK;1daWbCIRCUMFLEX;1haWbCIRCUMFLEX
1daYbCIRCUMFLEX;1haYbCIRCUMFLEX;1daYbDIAERESIS;3ZbACUTE;1haZbACUTE;1daZbDOTj;1haZbDOTj;1daZbCARON
1haZbCARON;3LONG S;3BbSTROKE;1daBbHOOK;5TOPBAR;1haBbTOPBAR;1daTONE SIX;1haTONE SIX;1daOPEN O;3CbHOOK
1haCbHOOK;1daAFRICAN D;3DbHOOK;5TOPBAR;1haDbTOPBAR;3TURNED DELTA;1daREVERSED E;3SCHWA;3OPEN E
3FbHOOK;1haFbHOOK;1daGbHOOK;3GAMMA;1haHV;1daIOTA;3IbSTROKE;3KbHOOK;1haKbHOOK;3LbBAR;3LAMBDAbSTROKE
1daTURNED M;3Nbp HOOK;1haNbLONG Re LEG;1daObMIDDLE TILDE;5HORN;1haObHORN;1daOI;1haOI;1daPbHOOK
1haPbHOOK;1mYR;1daTONE TWO;1haTONE TWO;1daESH;1mREVERSED ESH LOOP;1haTbPALATAL HOOK;1daTbHOOK
1haTbHOOK;1daTbRETROFLEX HOOK;3UbHORN;1haUbHORN;1daUPSILON;3VbHOOK;3YbHOOK;1haYbHOOK;1daZbSTROKE
1haZbSTROKE;1daEZH;4REVERSED;1haEZH REVERSED;4WITH TAIL;1mTWObSTROKE;1daTONE FIVE;1haTONE FIVE
1mINVERTED GLOTTAL STOPbSTROKE;2WYNN;2DENTAL CLICK;2LATERAL CLICK;2ALVEOLAR CLICK;2RETROFLEX CLICK
1daDZbCARON;3DbhaZbCARON;1haDZbCARON;1daLJ;3LbhaJ;1haLJ;1daNJ;3NbhaJ;1haNJ;1daAbCARON;1haAbCARON
1daIbCARON;1haIbCARON;1daObCARON;1haObCARON;1daUbCARON;1haUbCARON;1daUbDIAERESISiMACRON
1haUbDIAERESISiMACRON;1daUbDIAERESISiACUTE;1haUbDIAERESISiACUTE;1daUbDIAERESISiCARON
1haUbDIAERESISiCARON;1daUbDIAERESISiGRAVE;1haUbDIAERESISiGRAVE;3TURNED E;1daAbDIAERESISiMACRON
1haAbDIAERESISiMACRON;1daAbDOTjiMACRON;1haAbDOTjiMACRON;1daAEbMACRON;1haAEbMACRON;1daGbSTROKE
1haGbSTROKE;1daGbCARON;1haGbCARON;1daKbCARON;1haKbCARON;1daObOGONEK;1haObOGONEK;1daObOGONEKiMACRON
1haObOGONEKiMACRON;1daEZHbCARON;1haEZHbCARON;3JbCARON;1daDZ;3DbhaZ;1haDZ;1daGbACUTE;1haGbACUTE
1daHWAIR;3WYNN;3NbGRAVE;1haNbGRAVE;1daAbRINGjiACUTE;1haAbRINGjiACUTE;1daAEbACUTE;1haAEbACUTE
1daObSTROKEiACUTE;1haObSTROKEiACUTE;1daAbr GRAVE;1haAbr GRAVE;1daAbINVERTED BREVE
1haAbINVERTED BREVE;1daEbr GRAVE;1haEbr GRAVE;1daEbINVERTED BREVE;1haEbINVERTED BREVE;1daIbr GRAVE
1haIbr GRAVE;1daIbINVERTED BREVE;1haIbINVERTED BREVE;1daObr GRAVE;1haObr GRAVE;1daObINVERTED BREVE
1haObINVERTED BREVE;1daRbr GRAVE;1haRbr GRAVE;1daRbINVERTED BREVE;1haRbINVERTED BREVE;1daUbr GRAVE
1haUbr GRAVE;1daUbINVERTED BREVE;1haUbINVERTED BREVE;1daSbCOMMAv;1haSbCOMMAv;1daTbCOMMAv;1haTbCOMMAv
1daYOGH;1haYOGH;1daHbCARON;1haHbCARON;1daNbLONG Re LEG;1haDbCURL;1daOU;1haOU;1daZbHOOK;1haZbHOOK
1daAbDOTj;1haAbDOTj;1daEbCEDILLA;1haEbCEDILLA;1daObDIAERESISiMACRON;1haObDIAERESISiMACRON
1daObTILDEiMACRON;1haObTILDEiMACRON;1daObDOTj;1haObDOTj;1daObDOTjiMACRON;1haObDOTjiMACRON
1daYbMACRON;1haYbMACRON;3LbCURL;3NbCURL;3TbCURL;3DOTLESS J;3DB DIGRAPH;3QP DIGRAPH;1daAbSTROKE
3CbSTROKE;1haCbSTROKE;1daLbBAR;3TbDIAGONAL STROKE;1haSbSWASH TAIL;3ZbSWASH TAIL;1daGLOTTAL STOP
1haGLOTTAL STOP;1daBbSTROKE;3U BAR;3TURNED V;3EbSTROKE;1haEbSTROKE;1daJbSTROKE;1haJbSTROKE
1dahL QbHOOK TAIL;1haQbHOOK TAIL;1daRbSTROKE;1haRbSTROKE;1daYbSTROKE;1haYbSTROKE;3TURNED A;3ALPHA
3TURNED ALPHA;3BbHOOK;3OPEN O;3CbCURL;3DbTAIL;5HOOK;3REVERSED E;3SCHWA;4WITH HOOK;3OPEN E
3REVERSED OPEN E;6WITH HOOK;3CLOSED REVERSED OPEN E;3DOTLESS JbSTROKE;3GbHOOK;3SCRIPT G;1mhL dL G
1haGAMMA;3RAMS HORN;3TURNED H;3HbHOOK;3HENGbHOOK;3IbSTROKE;3IOTA;1mhL dL I;1haLbMIDDLE TILDE;5BELT
5RETROFLEX HOOK;3LEZH;3TURNED M;5WITH LONG LEG;3MbHOOK;3Nbp HOOK;5RETROFLEX HOOK;1mhL dL N
1haBARRED O;1mhL dL OE;1haCLOSED OMEGA;3PHI;3TURNED R;5WITH LONG LEG;6HOOK;3RbLONG LEG;5TAIL
5FISHHOOK;3REVERSED RbFISHHOOK;1mhL dL R;4INVERTED R;1haSbHOOK;3ESH;3DOTLESS JbSTROKEiHOOK
3SQUAT REVERSED ESH;3ESHbCURL;3TURNED T;3TbRETROFLEX HOOK;3U BAR;3UPSILON;3VbHOOK;3TURNED V;4W;4Y
1mhL dL Y;1haZbRETROFLEX HOOK;5CURL;3EZH;4WITH CURL;1mGLOTTAL STOP;2PHARYNGEAL VOICED FRICATIVE
2INVERTED GLOTTAL STOP;2STRETCHED C;2BILABIAL CLICK;2hL dL B;1haCLOSED OPEN E;1mhL dL GbHOOK;4H
1haJbCROSSED-TAIL;3TURNED K;1mhL dL L;1haQbHOOK;1mGLOTTAL STOPbSTROKE;2REVERSED GLOTTAL STOPbSTROKE
1haDZ DIGRAPH;3DEZH DIGRAPH;3DZ DIGRAPHbCURL;3TS DIGRAPH;3TESH DIGRAPH;3TC DIGRAPHbCURL
3FENG DIGRAPH;3LS DIGRAPH;3LZ DIGRAPH;1mBILABIAL PERCUSSIVE;2BIDENTAL PERCUSSIVE
1haTURNED HbFISHHOOK;7AND TAIL;0MODIFIER mhL H;4WITH HOOK;3J;3R;3TURNED R;5WITH HOOK;3dL INVERTED R
3W;3Y;2PRIME;2r PRIME;2TURNED COMMA;2APOSTROPHE;2REVERSED COMMA;2Re HALF RING;2p HALF RING
2GLOTTAL STOP;2REVERSED GLOTTAL STOP;2pfHEAD;2RefHEAD;2UPfHEAD;2DOWNfHEAD;2CIRCUMFLEX ACCENT;0CARON
0MODIFIER ms LINE;2MACRON;2ACUTE ACCENT;2GRAVE ACCENT;2LOW s LINE;3MACRON;3GRAVE ACCENT
3ACUTE ACCENT;2TRIANGULAR COLON;2HALF TRIANGULAR COLON;2CENTRED Re HALF RING;3p HALF RING;2UP TACK
2DOWN TACK;2PLUSn;2MINUSn;0BREVE;0DOTj;0RINGj;0OGONEK;0hL TILDE;0r ACUTE ACCENT
0MODIFIER mRHOTIC HOOK;2CROSS ACCENT;2hL GAMMA;3L;3S;3X;3REVERSED GLOTTAL STOP;2EXTRA-HIGH TONE BAR
2HIGH TONE BAR;2MID TONE BAR;2LOW TONE BAR;2EXTRA-LOW TONE BAR;2YIN DEPARTqTONE MARK
2YANG DEPARTqTONE MARK;2VOICING;2UNASPIRATED;2r APOSTROPHE;2LOW DOWNfHEAD;3UPfHEAD;3pfHEAD;3RefHEAD
3RING;2MIDDLE GRAVE ACCENT;3r GRAVE ACCENT;4ACUTE ACCENT;2LOW TILDE;2RAISED COLON;2BEGIN HIGH TONE
2END HIGH TONE;2BEGIN LOW TONE;2END LOW TONE;2SHELF;2OPEN SHELF;2LOW pf;0COMBINqGRAVE ACCENT
1ACUTE ACCENT;1CIRCUMFLEX ACCENT;1TILDE;1MACRON;1OVERLINE;1BREVE;1DOTj;1DIAERESIS;1HOOKj;1RINGj
1r ACUTE ACCENT;1CARON;1s LINEj;1r s LINEj;2GRAVE ACCENT;1CANDRABINDU;1INVERTED BREVE;1TURNED COMMAj
1COMMAj;1REVERSED COMMAj;1COMMAj Re;1GRAVE ACCENTv;1ACUTE ACCENTv;1p TACKv;1Re TACKv;1p ANGLEj;1HORN
1p HALF RqBELOW;1UP TACKv;1DOWN TACKv;1PLUSnv;1MINUSnv;1PALATALIZED HOOKv;1RETROFLEX HOOKv;1DOTv
1DIAERESISv;1RqBELOW;1COMMAv;1CEDILLA;1OGONEK;1s LINEv;1BRIDGEv;1INVERTED r ARCHv;1CARONv
1CIRCUMFLEX ACCENTv;1BREVEv;1INVERTED BREVEv;1TILDEv;1MACRONv;1LOW LINE;1r LOW LINE;1TILDE OVERLAY
1SHORT STROKE OVERLAY;1LONG STROKE OVERLAY;1SHORT SOLIDUS OVERLAY;1LONG SOLIDUS OVERLAY
1Re HALF RqBELOW;1INVERTED BRIDGEv;1SQUAREv;1SEAGULLv;1Xj;1s TILDE;1r OVERLINE;1GRAVE TONE MARK
1ACUTE TONE MARK;1GREEK PERISPOMENI;2KORONIS;2DIALYTIKA TONOS;2YPOGEGRAMMENI;1BRIDGEj;1EQUALSnv
1r s LINEv;1p ANGLEv;1NOT TILDEj;1HOMOTHETICj;1ALMOST EQUAL TOj;1p Refv;1UPkfv;1GRAPHEME JOINER
1RefHEADj;1p HALF RINGj;1FERMATA;1Xv;1pfHEADv;1RefHEADv;3AND UPfHEADv;2HALF RINGj;1DOTj Re
1ASTERISKv;1r RqBELOW;1ZIGZAGj;1r BREVEv;3;2MACRON;3BELOW;2TILDE;2INVERTED BREVE;2Rekfv;1LATIN haA
4E;4I;4O;4U;4C;4D;4H;4M;4R;4T;4V;4X;0GREEK daHETA;1haHETA;1daARCHAIC SAMPI;1haARCHAIC SAMPI
1NUMERALn;1LOWER NUMERALn;1daPAMPHYLIAN DIGAMMA;1haPAMPHYLIAN DIGAMMA;+37A;1YPOGEGRAMMENI
1hL REVERSED LUNATE SIGMA u;2DOTTED LUNATE SIGMA u;2REVERSED DOTTED LUNATE SIGMA u;1QUESw MARK
1daYOT;+384;1TONOS;1DIALYTIKA TONOS;1daALPHAbTONOS;1ANO TELEIA;1daEPSILONbTONOS;3ETAbTONOS
3IOTAbTONOS;+38C;3OMICRONbTONOS;+38E;3UPSILONbTONOS;3OMEGAbTONOS;1haIOTAbDIALYTIKAiTONOS;1daALPHA
3BETA;3GAMMA;3DELTA;3EPSILON;3ZETA;3ETA;3THETA;3IOTA;3KAPPA;3LAMDA;3MU;3NU;3XI;3OMICRON;3PI;3RHO
+3A3;3SIGMA;3TAU;3UPSILON;3PHI;3CHI;3PSI;3OMEGA;3IOTAbDIALYTIKA;3UPSILONbDIALYTIKA;1haALPHAbTONOS
3EPSILONbTONOS;3ETAbTONOS;3IOTAbTONOS;3UPSILONbDIALYTIKAiTONOS;3ALPHA;3BETA;3GAMMA;3DELTA;3EPSILON
3ZETA;3ETA;3THETA;3IOTA;3KAPPA;3LAMDA;3MU;3NU;3XI;3OMICRON;3PI;3RHO;3y SIGMA;3SIGMA;3TAU;3UPSILON
3PHI;3CHI;3PSI;3OMEGA;3IOTAbDIALYTIKA;3UPSILONbDIALYTIKA;3OMICRONbTONOS;3UPSILONbTONOS;3OMEGAbTONOS
1dL KAI u;1BETA u;1THETA u;1UPSILONbHOOK u;3ACUTEiHOOK u;3DIAERESISiHOOK u;1PHI u;1PI u;1KAI u
1mARCHAIC KOPPA;1haARCHAIC KOPPA;1mSTIGMA;1haSTIGMA;1mDIGAMMA;1haDIGAMMA;1mKOPPA;1haKOPPA;1mSAMPI
1haSAMPI;0COPTIC daSHEI;1haSHEI;1daFEI;1haFEI;1daKHEI;1haKHEI;1daHORI;1haHORI;1daGANGIA;1haGANGIA
1daSHIMA;1haSHIMA;1daDEI;1haDEI;0GREEK KAPPA u;1RHO u;1LUNATE SIGMA u;1mYOT;1dL THETA u
1LUNATE EPSILON u;1REVERSED LUNATE EPSILON u;1daSHO;1haSHO;1dL LUNATE SIGMA u;2mSAN;1haSAN
1RHObSTROKE u;1dL REVERSED LUNATE SIGMA u;2DOTTED LUNATE SIGMA u;2REVERSED DOTTED LUNATE SIGMA u
0CYRILLIC daIEbGRAVE;3IO;3DJE;3GJE;3UKRAINIAN IE;3DZE;3BYELORUSSIAN-UKRAINIAN I;3YI;3JE;3LJE;3NJE
3TSHE;3KJE;3IbGRAVE;3SHORT U;3DZHE;3A;3BE;3VE;3GHE;3DE;3IE;3ZHE;3ZE;3I;3SHORT I;3KA;3EL;3EM;3EN;3O
3PE;3ER;3ES;3TE;3U;3EF;3HA;3TSE;3CHE;3SHA;3SHCHA;3HARDn;3YERU;3SOFTn;3E;3YU;3YA;1haA;3BE;3VE;3GHE
3DE;3IE;3ZHE;3ZE;3I;3SHORT I;3KA;3EL;3EM;3EN;3O;3PE;3ER;3ES;3TE;3U;3EF;3HA;3TSE;3CHE;3SHA;3SHCHA
3HARDn;3YERU;3SOFTn;3E;3YU;3YA;3IEbGRAVE;3IO;3DJE;3GJE;3UKRAINIAN IE;3DZE;3BYELORUSSIAN-UKRAINIAN I
3YI;3JE;3LJE;3NJE;3TSHE;3KJE;3IbGRAVE;3SHORT U;3DZHE;1daOMEGA;1haOMEGA;1daYAT;1haYAT;1daIOTIFIED E
1haIOTIFIED E;1daLITTLE YUS;1haLITTLE YUS;1daIOTIFIED LITTLE YUS;1haIOTIFIED LITTLE YUS;1daBIG YUS
1haBIG YUS;1daIOTIFIED BIG YUS;1haIOTIFIED BIG YUS;1daKSI;1haKSI;1daPSI;1haPSI;1daFITA;1haFITA
1daIZHITSA;1haIZHITSA;1daIZHITSAbr GRAVE ACCENT;1haIZHITSAbr GRAVE ACCENT;1daUK;1haUK;1daROUND OMEGA
1haROUND OMEGA;1daOMEGAbTITLO;1haOMEGAbTITLO;1daOT;1haOT;1daKOPPA;1haKOPPA;1THOUSANDSn
0COMBINqCYRILLIC TITLO;2PALATALIZAw;2DASIA PNEUMATA;2PSILI PNEUMATA;2POKRYTIE;2HUNDRED THOUSANDSn
2MILLIONSn;0CYRILLIC daSHORT IbTAIL;1haSHORT IbTAIL;1daSEMISOFTn;1haSEMISOFTn;1daERbTICK;1haERbTICK
1daGHEbUPTURN;1haGHEbUPTURN;1daGHEbSTROKE;1haGHEbSTROKE;1daGHEbMIDDLE HOOK;1haGHEbMIDDLE HOOK
1daZHEbDESCENDER;1haZHEbDESCENDER;1daZEbDESCENDER;1haZEbDESCENDER;1daKAbDESCENDER;1haKAbDESCENDER
1daKAbs STROKE;1haKAbs STROKE;1daKAbSTROKE;1haKAbSTROKE;1daBASHKIR KA;1haBASHKIR KA;1daENbDESCENDER
1haENbDESCENDER;1dL LIGATURE EN GHE;1hL LIGATURE EN GHE;1daPEbMIDDLE HOOK;1haPEbMIDDLE HOOK
1daABKHASIAN HA;1haABKHASIAN HA;1daESbDESCENDER;1haESbDESCENDER;1daTEbDESCENDER;1haTEbDESCENDER
1daSTRAe U;1haSTRAe U;1daSTRAe UbSTROKE;1haSTRAe UbSTROKE;1daHAbDESCENDER;1haHAbDESCENDER
1dL LIGATURE TE TSE;1hL LIGATURE TE TSE;1daCHEbDESCENDER;1haCHEbDESCENDER;1daCHEbs STROKE
1haCHEbs STROKE;1daSHHA;1haSHHA;1daABKHASIAN CHE;1haABKHASIAN CHE;1daABKHASIAN CHEbDESCENDER
1haABKHASIAN CHEbDESCENDER;1mPALOCHKA;1daZHEbBREVE;1haZHEbBREVE;1daKAbHOOK;1haKAbHOOK;1daELbTAIL
1haELbTAIL;1daENbHOOK;1haENbHOOK;1daENbTAIL;1haENbTAIL;1daKHAKASSIAN CHE;1haKHAKASSIAN CHE
1daEMbTAIL;1haEMbTAIL;3PALOCHKA;1daAbBREVE;1haAbBREVE;1daAbDIAERESIS;1haAbDIAERESIS
1dL LIGATURE A IE;1hL LIGATURE A IE;1daIEbBREVE;1haIEbBREVE;1daSCHWA;1haSCHWA;1daSCHWAbDIAERESIS
1haSCHWAbDIAERESIS;1daZHEbDIAERESIS;1haZHEbDIAERESIS;1daZEbDIAERESIS;1haZEbDIAERESIS
1daABKHASIAN DZE;1haABKHASIAN DZE;1daIbMACRON;1haIbMACRON;1daIbDIAERESIS;1haIbDIAERESIS
1daObDIAERESIS;1haObDIAERESIS;1daBARRED O;1haBARRED O;1daBARRED ObDIAERESIS;1haBARRED ObDIAERESIS
1daEbDIAERESIS;1haEbDIAERESIS;1daUbMACRON;1haUbMACRON;1daUbDIAERESIS;1haUbDIAERESIS;1daUbr ACUTE
1haUbr ACUTE;1daCHEbDIAERESIS;1haCHEbDIAERESIS;1daGHEbDESCENDER;1haGHEbDESCENDER;1daYERUbDIAERESIS
1haYERUbDIAERESIS;1daGHEbSTROKEiHOOK;1haGHEbSTROKEiHOOK;1daHAbHOOK;1haHAbHOOK;1daHAbSTROKE
1haHAbSTROKE;1daKOMI DE;1haKOMI DE;1daKOMI DJE;1haKOMI DJE;1daKOMI ZJE;1haKOMI ZJE;1daKOMI DZJE
1haKOMI DZJE;1daKOMI LJE;1haKOMI LJE;1daKOMI NJE;1haKOMI NJE;1daKOMI SJE;1haKOMI SJE;1daKOMI TJE
1haKOMI TJE;1daREVERSED ZE;1haREVERSED ZE;1daELbHOOK;1haELbHOOK;1daLHA;1haLHA;1daRHA;1haRHA;1daYAE
1haYAE;1daQA;1haQA;1daWE;1haWE;1daALEUT KA;1haALEUT KA;1daELbMIDDLE HOOK;1haELbMIDDLE HOOK
1daENbMIDDLE HOOK;1haENbMIDDLE HOOK;1daPEbDESCENDER;1haPEbDESCENDER;1daSHHAbDESCENDER
1haSHHAbDESCENDER;1daENbp HOOK;1haENbp HOOK;1daDZZHE;1haDZZHE;1daDCHE;1haDCHE;1daELbDESCENDER
1haELbDESCENDER;+531;0ARMENIAN daAYB;3BEN;3GIM;3DA;3ECH;3ZA;3EH;3ET;3TO;3ZHE;3INI;3LIWN;3XEH;3CA
3KEN;3HO;3JA;3GHAD;3CHEH;3MEN;3YI;3NOW;3SHA;3VO;3CHA;3PEH;3JHEH;3RA;3SEH;3VEW;3TIWN;3REH;3CO;3YIWN
3PIWR;3KEH;3OH;3FEH;+559;1MODIFIER mp HALF RING;1APOSTROPHE;1EMPHASIS MARK;1EXCLAMAw MARK;1COMMA
1QUESw MARK;1ABBREVIAw MARK;1haTURNED AYB;3AYB;3BEN;3GIM;3DA;3ECH;3ZA;3EH;3ET;3TO;3ZHE;3INI;3LIWN
3XEH;3CA;3KEN;3HO;3JA;3GHAD;3CHEH;3MEN;3YI;3NOW;3SHA;3VO;3CHA;3PEH;3JHEH;3RA;3SEH;3VEW;3TIWN;3REH
3CO;3YIWN;3PIWR;3KEH;3OH;3FEH;2LIGATURE ECH YIWN;2mYIbSTROKE;1FULL STOP;1HYPHEN;+58D
0Re-FACqARMENIAN ETERNITYn;0p-FACqARMENIAN ETERNITYn;0ARMENIAN DRAMn;+591;0HEBREW ACCENT ETNAHTA
2SEGOL;2SHALSHELET;2ZAQEF QATAN;3GADOL;2TIPEHA;2REVIA;2ZARQA;2PASHTA;2YETIV;2TEVIR;2GERESH;3MUQDAM
2GERSHAYIM;2QARNEY PARA;2TELISHA GEDOLA;2PAZER;2ATNAH HAFUKH;2MUNAH;2MAHAPAKH;2MERKHA;3KEFULA;2DARGA
2QADMA;2TELISHA QETANA;2YERAH BEN YOMO;2OLE;2ILUY;2DEHI;2ZINOR;1MARK MASORA CIRCLE;1POINT SHEVA
2HATAF SEGOL;3PATAH;3QAMATS;2HIRIQ;2TSERE;2SEGOL;2PATAH;2QAMATS;2HOLAM;3HASER FOR VAV;2QUBUTS
2DAGESH OR MAPIQ;2METEG;1PUNCTUAw MAQAF;1POINT RAFE;1PUNCTUAw PASEQ;1POINT SHIN DOT;2SIN DOT
1PUNCTUAw SOF PASUQ;1MARK UPPER DOT;2LOWER DOT;1PUNCTUAw NUN HAFUKHA;1POINT QAMATS QATAN;+5D0;1mALEF
2BET;2GIMEL;2DALET;2HE;2VAV;2ZAYIN;2HET;2TET;2YOD;2y KAF;2KAF;2LAMED;2y MEM;2MEM;2y NUN;2NUN;2SAMEKH
2AYIN;2y PE;2PE;2y TSADI;2TSADI;2QOF;2RESH;2SHIN;2TAV;+5EF;1YOD x;1LIGATURE YIDDISH r VAV;3VAV YOD
3r YOD;1PUNCTUAw GERESH;2GERSHAYIM;+600;0ARABIC NUMBERn;1SIGN SANAH;1FOOTNOTE MARKER;1SIGN SAFHA
2SAMVAT;1NUMBER MARKj;0ARABIC-INDIC CUBE ROOT;1FOURTH ROOT;0ARABIC RAY;0ARABIC-INDIC PER MILLEn
2TEN THOUSANDn;0AFGHANIn;0ARABIC COMMA;1DATE SEPARATOR;1POETIC VERSEn;1SIGN MISRA
2SALLALLAHOU ALAYHE WASSALLAM;2ALAYHE ASSALLAM;2RAHMATULLAH ALAYHE;2RADI ALLAHOU ANHU;2TAKHALLUS
1hL HIGH TAH;3LIGATURE ALEFbLAMbYEH;3ZAIN;2FATHA;2DAMMA;2KASRA;1SEMICOLON;1mMARK;1END OF TEXT MARK
1TRIPLE DOT PUNCTUAw MARK;1QUESw MARK;1mKASHMIRI YEH;2HAMZA;2ALEFbMADDAj;4HAMZAj;2WAWbHAMZAj
2ALEFbHAMZAv;2YEHbHAMZAj;2ALEF;2BEH;2TEH MARBUTA;3;2THEH;2JEEM;2HAH;2KHAH;2DAL;2THAL;2REH;2ZAIN
2SEEN;2SHEEN;2SAD;2DAD;2TAH;2ZAH;2AIN;2GHAIN;2KEHEHbTWO DOTSj;4THREE DOTSv;2FARSI YEHbINVERTED V
5TWO DOTSj;5THREE DOTSj;1TATWEEL;1mFEH;2QAF;2KAF;2LAM;2MEEM;2NOON;2HEH;2WAW;2ALEF MAKSURA;2YEH
1FATHATAN;1DAMMATAN;1KASRATAN;1FATHA;1DAMMA;1KASRA;1SHADDA;1SUKUN;1MADDAHj;1HAMZAj;2BELOW
1SUBSCRIPT ALEF;1INVERTED DAMMA;1MARK NOON GHUNNA;1ZWARAKAY;1VOWELn hL Vj;3INVERTED hL Vj;3DOTv
1REVERSED DAMMA;1FATHAbTWO DOTS;1WAVY HAMZAv;0ARABIC-INDIC DIGIT ZERO;2ONE;2TWO;2THREE;2FOUR;2FIVE
2SIX;2SEVEN;2Ee;2NINE;0ARABIC PERCENTn;1DECIMAL SEPARATOR;1THOUSANDS SEPARATOR;1FIVE POINTED STAR
1mDOTLESS BEH;3QAF;2SUPERSCRIPT ALEF;2ALEF WASLA;3WITH WAVY HAMZAj;6BELOW;2HIGH HAMZA;4ALEF;4WAW
2UbHAMZAj;2HIGH HAMZA YEH;2TTEH;2TTEHEH;2BEEH;2TEHbRING;4THREE DOTSj DOWNk;2PEH;2TEHEH;2BEHEH
2HAHbHAMZAj;4TWO DOTS sj;2NYEH;2DYEH;2HAHbTHREE DOTSj;2TCHEH;2TCHEHEH;2DDAL;2DALbRING;4DOTv
6AND hL TAH;2DAHAL;2DDAHAL;2DUL;2DALbTHREE DOTSj DOWNk;4FOUR DOTSj;2RREH;2REHbhL V;4RING;4DOTv
4hL Vv;4DOTviDOTj;4TWO DOTSj;2JEH;2REHbFOUR DOTSj;2SEENbDOTviDOTj;4THREE DOTSv;7AND THREE DOTSj
2SADbTWO DOTSv;4THREE DOTSj;2TAHbTHREE DOTSj;2AINbTHREE DOTSj;2DOTLESS FEH;2FEHbDOT MOVEDv;5BELOW
2VEH;2FEHbTHREE DOTSv;2PEHEH;2QAFbDOTj;4THREE DOTSj;2KEHEH;2SWASH KAF;2KAFbRING;4DOTj;2NG
2KAFbTHREE DOTSv;2GAF;3WITH RING;2NGOEH;2GAFbTWO DOTSv;2GUEH;2GAFbTHREE DOTSj;2LAMbhL V;4DOTj
4THREE DOTSj;6BELOW;2NOONbDOTv;3GHUNNA;2RNOON;2NOONbRING;4THREE DOTSj;2HEH DOACHASHMEE;2TCHEHbDOTj
2HEHbYEHj;3GOAL;4WITH HAMZAj;2TEH MARBUTA GOAL;2WAWbRING;2KIRGHIZ OE;2OE;2U;2YU;2KIRGHIZ YU
2WAWbTWO DOTSj;2VE;2FARSI YEH;2YEHbTAIL;4hL V;2WAWbDOTj;2E;2YEHbTHREE DOTSv;3BARREE;4WITH HAMZAj
1FULL STOP;1mAE;1hL HIGH LIGATURE SADbLAMbALEF MAKSURA;4QAFbLAMbALEF MAKSURA;3MEEM INITIALg
3LAM ALEF;3JEEM;3THREE DOTS;3SEEN;1END OF AYAH;1START OF RUB EL HIZB;1hL HIGH ROUNDED ZERO
3UPRe RECTANGULAR ZERO;3DOTLESS HEAD OF KHAH;3MEEMog;2LOW SEEN;2HIGH MADDA;2WAW;2YEH;2HIGH YEH;3NOON
1PLACE OF SAJDAH;1EMPTY CENTRE LOW STOP;3HIGH STOP;1ROUNDED HIGH STOPbFILLED CENTRE;1hL LOW MEEM
1mDALbINVERTED V;2REHbINVERTED V;0EXTENDED ARABIC-INDIC DIGIT ZERO;3ONE;3TWO;3THREE;3FOUR;3FIVE;3SIX
3SEVEN;3Ee;3NINE;0ARABIC mSHEENbDOTv;2DADbDOTv;2GHAINbDOTv;1SIGN SINDHI AMPERSAND;3POSTPOSIw MEN
1mHEHbINVERTED V;0SYRIAC END OF PARAGRAPH;1SUPRALINEAR FULL STOP;1SUBLINEAR FULL STOP
1SUPRALINEAR COLON;1SUBLINEAR COLON;1t COLON;1COLON SKEWED p;3Re;1SUPRALINEAR COLON SKEWED p
1SUBLINEAR COLON SKEWED Re;1CONTRACw;1HARKLEAN OBELUS;2METOBELUS;2ASTERISCUS;+70F;1ABBREVIAw MARK
1mALAPH;2SUPERSCRIPT ALAPH;2BETH;2GAMAL;3GARSHUNI;2DALATH;2DOTLESS DALATH RISH;2HE;2WAW;2ZAIN;2HETH
2TETH;3GARSHUNI;2YUDH;3HE;2KAPH;2LAMADH;2MIM;2NUN;2SEMKATH;2y SEMKATH;2E;2PE;2REVERSED PE;2SADHE
2QAPH;2RISH;2SHIN;2TAW;2PERSIAN BHETH;3GHAMAL;3DHALATH;1PTHAHAj;2BELOW;2DOTTED;1ZQAPHAj;2BELOW
2DOTTED;1RBASAj;2BELOW;1DOTTED ZLAMA t;3ANGULAR;1HBASAj;2BELOW;1HBASA-ESASA DOTTED;1ESASAj;2BELOW
1RWAHA;1FEMININE DOT;1QUSHSHAYA;1RUKKAKHA;1TWO s DOTSj;4BELOW;1THREE DOTSj;3BELOW;1OBLIQUE LINEj
3BELOW;1MUSIC;1BARREKH;+74D;1mSOGDIAN ZHAIN;3KHAPH;3FE;0ARABIC mBEHbTHREE DOTS tLYv
4DOTviTHREE DOTSj;4THREE DOTS POINTqUPkv;9AND TWO DOTSj;4TWO DOTSviDOTj;4INVERTED hL Vv;4hL V
2HAHbTWO DOTSj;4THREE DOTS POINTqUPkv;2DALbTWO DOTS sLYvihL TAH;4INVERTED hL Vv;2REHbSTROKE
2SEENbFOUR DOTSj;2AINbTWO DOTSj;4THREE DOTS POINTqDOWNkj;4TWO DOTS sLYj;2FEHbTWO DOTSv
4THREE DOTS POINTqUPkv;2KEHEHbDOTj;4THREE DOTSj;6POINTqUPkv;2MEEMbDOTj;5BELOW;2NOONbTWO DOTSv
4hL TAH;5V;2LAMbBAR;2REHbTWO DOTS sLYj;4HAMZAj;2SEENbTWO DOTS sLYj;2HAHbhL ARABIC mTAHv
8AND TWO DOTS;2SEENbhL ARABIC mTAHiTWO DOTS;2REHbhL ARABIC mTAHiTWO DOTS;2HAHbhL ARABIC mTAHj
2ALEFbEXTENDED ARABIC-INDIC DIGIT TWOj;7THREEj;2FARSI YEHbEXTENDED ARABIC-INDIC DIGIT TWOj;8THREEj
8FOURv;2WAWbEXTENDED ARABIC-INDIC DIGIT TWOj;7THREEj;2YEH BARREEbEXTENDED ARABIC-INDIC DIGIT TWOj
8THREEj;2HAHbEXTENDED ARABIC-INDIC DIGIT FOURv;2SEENbEXTENDED ARABIC-INDIC DIGIT FOURj;4INVERTED V
2KAFbTWO DOTSj;0THAANA mHAA;2SHAVIYANI;2NOONU;2RAA;2BAA;2LHAVIYANI;2KAAFU;2ALIFU;2VAAVU;2MEEMU
2FAAFU;2DHAALU;2THAA;2LAAMU;2GAAFU;2GNAVIYANI;2SEENU;2DAVIYANI;2ZAVIYANI;2TAVIYANI;2YAA;2PAVIYANI
2JAVIYANI;2CHAVIYANI;2TTAA;2HHAA;2KHAA;2THAALU;2ZAA;2SHEENU;2SAADHU;2DAADHU;2TO;2ZO;2AINU;2GHAINU
2QAAFU;2WAAVU;1ABAFILI;1AABAAFILI;1IBIFILI;1EEBEEFILI;1UBUFILI;1OOBOOFILI;1EBEFILI;1EYBEYFILI
1OBOFILI;1OABOAFILI;1SUKUN;1mNAA;+7C0;0NKO DIGIT ZERO;2ONE;2TWO;2THREE;2FOUR;2FIVE;2SIX;2SEVEN;2Ee
2NINE;1mA;2EE;2I;2E;2U;2OO;2O;2DAGBASINNA;2N;2BA;2PA;2TA;2JA;2CHA;2DA;2RA;2RRA;2SA;2GBA;2FA;2KA;2LA
2NA WOLOSO;2MA;2NYA;2NA;2HA;2WA;2YA;2NYA WOLOSO;2JONA JA;3CHA;3RA;1COMBINqSHORT HIGH TONE;3LOW TONE
3RISqTONE;2LONG DESCENDqTONE;3HIGH TONE;3LOW TONE;3RISqTONE;2NASALIZAw MARK;2r DOTj
1HIGH TONE APOSTROPHE;1LOW TONE APOSTROPHE;1u OO DENNEN;2GBAKURUNEN;1COMMA;1EXCLAMAw MARK
1LAJANYALAN;+7FD;1DANTAYALAN;1DOROMEn;1TAMANn;0SAMARITAN mALAF;2BIT;2GAMAN;2DALAT;2IY;2BAA;2ZEN;2IT
2TIT;2YUT;2KAAF;2LABAT;2MIM;2NUN;2SINGAAT;2IN;2FI;2TSAADIY;2QUF;2RISH;2SHAN;2TAAF;1MARK IN;2IN-ALAF
2OCCLUSION;2DAGESH;1MODIFIER mEPENTHETIC YUT;1MARK EPENTHETIC YUT;1VOWELn LONG E;3E;3OVERLONG AA
3LONG AA;3AA;3OVERLONG A;3LONG A;3A;1MODIFIER mSHORT A;1VOWELn SHORT A;3LONG U;3U;1MODIFIER mI
1VOWELn LONG I;3I;3O;3SUKUN;1MARK NEQUDAA;+830;1PUNCTUAw NEQUDAA;2AFSAAQ;2ANGED;2BAU;2ATMAAU
2SHIYYAALAA;1ABBREVIAw MARK;1PUNCTUAw MELODIC QITSA;2ZIQAA;2QITSA;2ZAEF;2TURU;2ARKAANU;2SOF MASHFAAT
2ANNAAU;+840;0MANDAIC mHALQA;2AB;2AG;2AD;2AH;2USHENNA;2AZ;2IT;2ATT;2AKSA;2AK;2AL;2AM;2AN;2AS;2IN;2AP
2ASZ;2AQ;2AR;2ASH;2AT;2DUSHENNA;2KAD;2AIN;1AFFRICAw MARK;1VOCALIZAw MARK;1GEMINAw MARK;+85E
1PUNCTUAw;+860;0SYRIAC mMALAYALAM NGA;3JA;3NYA;3TTA;3NNA;3NNNA;3BHA;3RA;3LLA;3LLLA;3SSA;+870
0ARABIC mALEFbATTACHED FATHA;5TOP Re FATHA;4Re MIDDLE STROKE;4p MIDDLE STROKE;4ATTACHED KASRA
5BOTTOM Re KASRA;5ROUND DOTj;5Re ROUND DOT;5p ROUND DOT;5ROUND DOTv;4DOTj
4ATTACHED TOP Re FATHAiDOTj;4Re MIDDLE STROKEiDOTj;4ATTACHED BOTTOM Re KASRAiDOTj
5TOP Re FATHAip RING;4Re MIDDLE STROKEip RING;4ATTACHED BOTTOM Re KASRAip RING;5Re HAMZA;5p HAMZA
1TATWEELbOVERSTRUCK HAMZA;4WAW;3TWO DOTSv;1mTHIN YEH;1BASELINE ROUND DOT;1RAISED ROUND DOT
1mNOONbINVERTED hL V;2HAHbINVERTED hL Vv;2TAHbDOTv;4THREE DOTSv;2KEHEHbTWO DOTS sLYv;1s TAIL;+890
1POUND MARKj;1PIASTRE MARKj;+898;1hL HIGH WORD AL-JUZ;2LOW WORD ISHMAAM;4IMAALA;4TASHEEL
1MADDA WAAJIB;1SUPERSCRIPT ALEF MOKHASSAS;1rD MADDA;1HALF MADDA OVER MADDA;1mBEHbhL Vv;4HAMZAj
2JEEMbTWO DOTSj;2TAHbTWO DOTSj;2FEHbDOTviTHREE DOTSj;2QAFbDOTv;2LAMbr BAR;2MEEMbTHREE DOTSj
2YEHbTWO DOTSviHAMZAj;8DOTj;2REHbLOOP;2WAWbDOT WITHIN;2ROHINGYA YEH;2LOW ALEF;2DALbTHREE DOTSv
2SADbTHREE DOTSv;2GAFbINVERTED STROKE;2STRAe WAW;2ZAINbINVERTED Vj;2AINbTHREE DOTSv;2KAFbDOTv
2QAFbDOTviNO DOTSj;2BEHbhL MEEMj;2PEHbhL MEEMj;2TEHbhL TEHj;2REHbhL NOONj;2YEHbTWO DOTSvihL NOONj
2AFRICAN FEH;3QAF;3NOON;2PEHbhL V;2TEHbhL V;2TTEHbhL V;2TCHEHbhL V;2KEHEHbhL V;2GHAINbTHREE DOTSj
2AFRICAN QAFbTHREE DOTSj;2JEEMbTHREE DOTSj;6BELOW;2LAMbhL ARABIC mTAHj;2GRAF;1hL FARSI YEH
2HIGH FARSI YEH;3YEH BARREEbTWO DOTSv;3WORD SAH;3ZAH;1LARGE ROUND DOTj;4BELOW;1SUKUNv;1LARGE CIRCLEv
2ROUND DOT INSIDE CIRCLEv;1hL LOW WAW;2HIGH WORD AR-RUB;3SAD;3AIN;3QAF;3NOONbKASRA;2LOW NOONbKASRA
2HIGH WORD ATH-THALATHA;4AS-SAJDA;4AN-NISF;4SAKTA;4QIF;4WAQFA;3FOOTNOTE MARKER;3SIGN SAFHA
1DISPUTED END OF AYAH;1TURNED DAMMAv;1CURLY FATHA;2DAMMA;2KASRA;2FATHATAN;2DAMMATAN;2KASRATAN
1TONE ONE DOTj;2TWO DOTSj;2LOOPj;2ONE DOTv;2TWO DOTSv;2LOOPv;1OPEN FATHATAN;2DAMMATAN;2KASRATAN
1hL HIGH WAW;1FATHAbRING;3DOTj;1KASRAbDOTv;1pfHEADj;1RefHEADj;1pfHEADv;1RefHEADv;1r RefHEADj
5WITH DOT;1RefHEADjbDOT;1DAMMAbDOT;1MARK SIDEWAYS NOON GHUNNA;0DEVANAGARIn INVERTED CANDRABINDU
2CANDRABINDU;2ANUSVARA;2VISARGA;1mSHORT A;2A;2AA;2I;2II;2U;2UU;2VOCALIC R;3L;2CANDRA E;2SHORT E;2E
2AI;2CANDRA O;2SHORT O;2O;2AU;2KA;2KHA;2GA;2GHA;2NGA;2CA;2CHA;2JA;2JHA;2NYA;2TTA;2TTHA;2DDA;2DDHA
2NNA;2TA;2THA;2DA;2DHA;2NA;2NNNA;2PA;2PHA;2BA;2BHA;2MA;2YA;2RA;2RRA;2LA;2LLA;2LLLA;2VA;2SHA;2SSA;2SA
2HA;1VOWELn OE;3OOE;1SIGN NUKTA;2AVAGRAHA;1VOWELn AA;3I;3II;3U;3UU;3VOCALIC R;4RR;3CANDRA E;3SHORT E
3E;3AI;3CANDRA O;3SHORT O;3O;3AU;1SIGN VIRAMA;1VOWELn PRISHTHAMATRA E;3AW;1OM;1STRESSn UDATTA
3ANUDATTA;1GRAVE ACCENT;1ACUTE ACCENT;1VOWELn CANDRA LONG E;3UE;3UUE;1mQA;2KHHA;2GHHA;2ZA;2DDDHA
2RHA;2FA;2YYA;2VOCALIC RR;3LL;1VOWELn VOCALIC L;4LL;1DANDA;1r DANDA;1DIGIT ZERO;2ONE;2TWO;2THREE
2FOUR;2FIVE;2SIX;2SEVEN;2Ee;2NINE;1ABBREVIAwn;1SIGN HIGH SPACqDOT;1mCANDRA A;2OE;2OOE;2AW;2UE;2UUE
2MARWARI DDA;2ZHA;2HEAVY YA;2GGA;2JJA;2GLOTTAL STOP;2DDDA;2BBA;0BENGALI ANJI;1SIGN CANDRABINDU
2ANUSVARA;2VISARGA;+985;1mA;2AA;2I;2II;2U;2UU;2VOCALIC R;3L;+98F;2E;2AI;+993;2O;2AU;2KA;2KHA;2GA
2GHA;2NGA;2CA;2CHA;2JA;2JHA;2NYA;2TTA;2TTHA;2DDA;2DDHA;2NNA;2TA;2THA;2DA;2DHA;2NA;+9AA;2PA;2PHA;2BA
2BHA;2MA;2YA;2RA;+9B2;2LA;+9B6;2SHA;2SSA;2SA;2HA;+9BC;1SIGN NUKTA;2AVAGRAHA;1VOWELn AA;3I;3II;3U;3UU
3VOCALIC R;4RR;+9C7;3E;3AI;+9CB;3O;3AU;1SIGN VIRAMA;1mKHANDA TA;+9D7;1AU LENGTH MARK;+9DC;1mRRA;2RHA
+9DF;2YYA;2VOCALIC RR;3LL;1VOWELn VOCALIC L;4LL;+9E6;1DIGIT ZERO;2ONE;2TWO;2THREE;2FOUR;2FIVE;2SIX
2SEVEN;2Ee;2NINE;1mRAbMIDDLE DIAGONAL;4LOWER DIAGONAL;1RUPEE MARK;2SIGN;1CURRENCY NUMERATOR ONE;3TWO
3THREE;3FOUR;3ONE LESS THAN THE DENOMINATOR;2DENOMINATOR SIXTEEN;1ISSHAR;1GANDA MARK
1mVEDIC ANUSVARA;1ABBREVIAwn;1SANDHI MARK;+A01;0GURMUKHIn ADAK BINDI;2BINDI;2VISARGA;+A05;1mA;2AA;2I
2II;2U;2UU;+A0F;2EE;2AI;+A13;2OO;2AU;2KA;2KHA;2GA;2GHA;2NGA;2CA;2CHA;2JA;2JHA;2NYA;2TTA;2TTHA;2DDA
2DDHA;2NNA;2TA;2THA;2DA;2DHA;2NA;+A2A;2PA;2PHA;2BA;2BHA;2MA;2YA;2RA;+A32;2LA;2LLA;+A35;2VA;2SHA;+A38
2SA;2HA;+A3C;1SIGN NUKTA;+A3E;1VOWELn AA;3I;3II;3U;3UU;+A47;3EE;3AI;+A4B;3OO;3AU;1SIGN VIRAMA;+A51
2UDAAT;+A59;1mKHHA;2GHHA;2ZA;2RRA;+A5E;2FA;+A66;1DIGIT ZERO;2ONE;2TWO;2THREE;2FOUR;2FIVE;2SIX;2SEVEN
2Ee;2NINE;1TIPPI;1ADDAK;1IRI;1URA;1EK ONKAR;1SIGN YAKASH;1ABBREVIAwn;+A81;0GUJARATIn CANDRABINDU
2ANUSVARA;2VISARGA;+A85;1mA;2AA;2I;2II;2U;2UU;2VOCALIC R;3L;1VOWEL CANDRA E;+A8F;1mE;2AI
1VOWEL CANDRA O;+A93;1mO;2AU;2KA;2KHA;2GA;2GHA;2NGA;2CA;2CHA;2JA;2JHA;2NYA;2TTA;2TTHA;2DDA;2DDHA
2NNA;2TA;2THA;2DA;2DHA;2NA;+AAA;2PA;2PHA;2BA;2BHA;2MA;2YA;2RA;+AB2;2LA;2LLA;+AB5;2VA;2SHA;2SSA;2SA
2HA;+ABC;1SIGN NUKTA;2AVAGRAHA;1VOWELn AA;3I;3II;3U;3UU;3VOCALIC R;4RR;3CANDRA E;+AC7;3E;3AI
3CANDRA O;+ACB;3O;3AU;1SIGN VIRAMA;+AD0;1OM;+AE0;1mVOCALIC RR;3LL;1VOWELn VOCALIC L;4LL;+AE6
1DIGIT ZERO;2ONE;2TWO;2THREE;2FOUR;2FIVE;2SIX;2SEVEN;2Ee;2NINE;1ABBREVIAwn;1RUPEEn;+AF9;1mZHA
1SIGN SUKUN;2SHADDA;2MADDAH;2THREE-DOT NUKTAj;2CIRCLE NUKTAj;2TWO-CIRCLE NUKTAj;+B01
0ORIYAn CANDRABINDU;2ANUSVARA;2VISARGA;+B05;1mA;2AA;2I;2II;2U;2UU;2VOCALIC R;3L;+B0F;2E;2AI;+B13;2O
2AU;2KA;2KHA;2GA;2GHA;2NGA;2CA;2CHA;2JA;2JHA;2NYA;2TTA;2TTHA;2DDA;2DDHA;2NNA;2TA;2THA;2DA;2DHA;2NA
+B2A;2PA;2PHA;2BA;2BHA;2MA;2YA;2RA;+B32;2LA;2LLA;+B35;2VA;2SHA;2SSA;2SA;2HA;+B3C;1SIGN NUKTA
2AVAGRAHA;1VOWELn AA;3I;3II;3U;3UU;3VOCALIC R;4RR;+B47;3E;3AI;+B4B;3O;3AU;1SIGN VIRAMA;+B55
2OVERLINE;1AI LENGTH MARK;1AU LENGTH MARK;+B5C;1mRRA;2RHA;+B5F;2YYA;2VOCALIC RR;3LL
1VOWELn VOCALIC L;4LL;+B66;1DIGIT ZERO;2ONE;2TWO;2THREE;2FOUR;2FIVE;2SIX;2SEVEN;2Ee;2NINE;1ISSHAR
1mWA;1FRACw ONE QUARTER;3HALF;2THREE QUARTERS;2ONE SIXTEENTH;3EeH;2THREE SIXTEENTHS;+B82
0TAMILn ANUSVARA;2VISARGA;+B85;1mA;2AA;2I;2II;2U;2UU;+B8E;2E;2EE;2AI;+B92;2O;2OO;2AU;2KA;+B99;2NGA
2CA;+B9C;2JA;+B9E;2NYA;2TTA;+BA3;2NNA;2TA;+BA8;2NA;2NNNA;2PA;+BAE;2MA;2YA;2RA;2RRA;2LA;2LLA;2LLLA
2VA;2SHA;2SSA;2SA;2HA;+BBE;1VOWELn AA;3I;3II;3U;3UU;+BC6;3E;3EE;3AI;+BCA;3O;3OO;3AU;1SIGN VIRAMA
+BD0;1OM;+BD7;1AU LENGTH MARK;+BE6;1DIGIT ZERO;2ONE;2TWO;2THREE;2FOUR;2FIVE;2SIX;2SEVEN;2Ee;2NINE
1NUMBER TEN;2ONE HUNDRED;3THOUSAND;1DAYn;1MONTHn;1YEARn;1DEBITn;1CREDITn;1ASjn;1RUPEEn;1NUMBERn;+C00
0TELUGUn COMBINqCANDRABINDUj;2CANDRABINDU;2ANUSVARA;2VISARGA;2COMBINqANUSVARAj;1mA;2AA;2I;2II;2U;2UU
2VOCALIC R;3L;+C0E;2E;2EE;2AI;+C12;2O;2OO;2AU;2KA;2KHA;2GA;2GHA;2NGA;2CA;2CHA;2JA;2JHA;2NYA;2TTA
2TTHA;2DDA;2DDHA;2NNA;2TA;2THA;2DA;2DHA;2NA;+C2A;2PA;2PHA;2BA;2BHA;2MA;2YA;2RA;2RRA;2LA;2LLA;2LLLA
2VA;2SHA;2SSA;2SA;2HA;+C3C;1SIGN NUKTA;2AVAGRAHA;1VOWELn AA;3I;3II;3U;3UU;3VOCALIC R;4RR;+C46;3E;3EE
3AI;+C4A;3O;3OO;3AU;1SIGN VIRAMA;+C55;1LENGTH MARK;1AI LENGTH MARK;+C58;1mTSA;2DZA;2RRRA;+C5D
2NAKAARA POLLU;+C60;2VOCALIC RR;3LL;1VOWELn VOCALIC L;4LL;+C66;1DIGIT ZERO;2ONE;2TWO;2THREE;2FOUR
2FIVE;2SIX;2SEVEN;2Ee;2NINE;+C77;1SIGN SIDDHAM;1FRACw DIGIT ZERO FOR ODD POWERS OF FOUR
3ONE FOR ODD POWERS OF FOUR;3TWO FOR ODD POWERS OF FOUR;3THREE FOR ODD POWERS OF FOUR
3ONE FOR EVEN POWERS OF FOUR;3TWO FOR EVEN POWERS OF FOUR;3THREE FOR EVEN POWERS OF FOUR;1SIGN TUUMU
0KANNADAn SPACqCANDRABINDU;2CANDRABINDU;2ANUSVARA;2VISARGA;2SIDDHAM;1mA;2AA;2I;2II;2U;2UU;2VOCALIC R
3L;+C8E;2E;2EE;2AI;+C92;2O;2OO;2AU;2KA;2KHA;2GA;2GHA;2NGA;2CA;2CHA;2JA;2JHA;2NYA;2TTA;2TTHA;2DDA
2DDHA;2NNA;2TA;2THA;2DA;2DHA;2NA;+CAA;2PA;2PHA;2BA;2BHA;2MA;2YA;2RA;2RRA;2LA;2LLA;+CB5;2VA;2SHA;2SSA
2SA;2HA;+CBC;1SIGN NUKTA;2AVAGRAHA;1VOWELn AA;3I;3II;3U;3UU;3VOCALIC R;4RR;+CC6;3E;3EE;3AI;+CCA;3O
3OO;3AU;1SIGN VIRAMA;+CD5;1LENGTH MARK;1AI LENGTH MARK;+CDD;1mNAKAARA POLLU;2FA;+CE0;2VOCALIC RR;3LL
1VOWELn VOCALIC L;4LL;+CE6;1DIGIT ZERO;2ONE;2TWO;2THREE;2FOUR;2FIVE;2SIX;2SEVEN;2Ee;2NINE;+CF1
1SIGN JIHVAMULIYA;2UPADHMANIYA;+D00;0MALAYALAMn COMBINqANUSVARAj;2CANDRABINDU;2ANUSVARA;2VISARGA
1mVEDIC ANUSVARA;2A;2AA;2I;2II;2U;2UU;2VOCALIC R;3L;+D0E;2E;2EE;2AI;+D12;2O;2OO;2AU;2KA;2KHA;2GA
2GHA;2NGA;2CA;2CHA;2JA;2JHA;2NYA;2TTA;2TTHA;2DDA;2DDHA;2NNA;2TA;2THA;2DA;2DHA;2NA;2NNNA;2PA;2PHA;2BA
2BHA;2MA;2YA;2RA;2RRA;2LA;2LLA;2LLLA;2VA;2SHA;2SSA;2SA;2HA;2TTTA;1SIGN s BAR VIRAMA;2CIRCULAR VIRAMA
2AVAGRAHA;1VOWELn AA;3I;3II;3U;3UU;3VOCALIC R;4RR;+D46;3E;3EE;3AI;+D4A;3O;3OO;3AU;1SIGN VIRAMA
1mDOT REPH;1SIGN PARA;+D54;1mCHILLU M;3Y;3LLL;1AU LENGTH MARK;1FRACw ONE ONE-HUNDRED-AND-SIXTIETH
3FORTIETH;2THREE EeIETHS;2ONE TWENTIETH;3TENTH;2THREE TWENTIETHS;2ONE FIFTH;1mARCHAIC II;2VOCALIC RR
3LL;1VOWELn VOCALIC L;4LL;+D66;1DIGIT ZERO;2ONE;2TWO;2THREE;2FOUR;2FIVE;2SIX;2SEVEN;2Ee;2NINE
1NUMBER TEN;2ONE HUNDRED;3THOUSAND;1FRACw ONE QUARTER;3HALF;2THREE QUARTERS;2ONE SIXTEENTH;3EeH
2THREE SIXTEENTHS;1DATE MARK;1mCHILLU NN;3N;3RR;3L;3LL;3K;+D81;0SINHALAn CANDRABINDU;2ANUSVARAYA
2VISARGAYA;+D85;1mAYANNA;2AAYANNA;2AEYANNA;2AEEYANNA;2IYANNA;2IIYANNA;2UYANNA;2UUYANNA;2IRUYANNA
2IRUUYANNA;2ILUYANNA;2ILUUYANNA;2EYANNA;2EEYANNA;2AIYANNA;2OYANNA;2OOYANNA;2AUYANNA;+D9A
2ALPAPRAANA KAYANNA;2MAHAAPRAANA KAYANNA;2ALPAPRAANA GAYANNA;2MAHAAPRAANA GAYANNA
2KANTAJA NAASIKYAYA;2SANYAKA GAYANNA;2ALPAPRAANA CAYANNA;2MAHAAPRAANA CAYANNA;2ALPAPRAANA JAYANNA
2MAHAAPRAANA JAYANNA;2TAALUJA NAASIKYAYA;3SANYOOGA NAAKSIKYAYA;2SANYAKA JAYANNA;2ALPAPRAANA TTAYANNA
2MAHAAPRAANA TTAYANNA;2ALPAPRAANA DDAYANNA;2MAHAAPRAANA DDAYANNA;2MUURDHAJA NAYANNA
2SANYAKA DDAYANNA;2ALPAPRAANA TAYANNA;2MAHAAPRAANA TAYANNA;2ALPAPRAANA DAYANNA;2MAHAAPRAANA DAYANNA
2DANTAJA NAYANNA;+DB3;2SANYAKA DAYANNA;2ALPAPRAANA PAYANNA;2MAHAAPRAANA PAYANNA;2ALPAPRAANA BAYANNA
2MAHAAPRAANA BAYANNA;2MAYANNA;2AMBA BAYANNA;2YAYANNA;2RAYANNA;+DBD;2DANTAJA LAYANNA;+DC0;2VAYANNA
2TAALUJA SAYANNA;2MUURDHAJA SAYANNA;2DANTAJA SAYANNA;2HAYANNA;2MUURDHAJA LAYANNA;2FAYANNA;+DCA
1SIGN AL-LAKUNA;+DCF;1VOWELn AELA-PILLA;3KETTI AEDA-PILLA;3DIGA AEDA-PILLA;3KETTI IS-PILLA
3DIGA IS-PILLA;3KETTI PAA-PILLA;+DD6;3DIGA PAA-PILLA;+DD8;3GAETTA-PILLA;3KOMBUVA;3DIGA KOMBUVA
3KOMBU DEKA;3KOMBUVA HAA AELA-PILLA;5DIGA AELA-PILLA;5GAYANUKITTA;3GAYANUKITTA;+DE6;1LITH DIGIT ZERO
3ONE;3TWO;3THREE;3FOUR;3FIVE;3SIX;3SEVEN;3Ee;3NINE;+DF2;1VOWELn DIGA GAETTA-PILLA;4GAYANUKITTA
1PUNCTUAw KUNDDALIYA;+E01;0THAI CHARACTER KO KAI;2KHO KHAI;3KHUAT;3KHWAI;3KHON;3RAKHANG;2NGO NGU
2CHO CHAN;3CHING;3CHANG;2SO SO;2CHO CHOE;2YO YING;2DO CHADA;2TO PATAK;2THO THAN;3NANGMONTHO;3PHUTHAO
2NO NEN;2DO DEK;2TO TAO;2THO THUNG;3THAHAN;3THONG;2NO NU;2BO BAIMAI;2PO PLA;2PHO PHUNG;2FO FA
2PHO PHAN;2FO FAN;2PHO SAMPHAO;2MO MA;2YO YAK;2RO RUA;2RU;2LO LING;2LU;2WO WAEN;2SO SALA;3RUSI;3SUA
2HO HIP;2LO CHULA;2O ANG;2HO NOKHUK;2PAIYANNOI;2SARA A;2MAI HAN-AKAT;2SARA AA;3AM;3I;3II;3UE;3UEE;3U
3UU;2PHINTHU;+E3F;1CURRENCY u BAHT;1CHARACTER SARA E;3AE;3O;3AI MAIMUAN;4MAIMALAI;2LAKKHANGYAO
2MAIYAMOK;2MAITAIKHU;2MAI EK;3THO;3TRI;3CHATTAWA;2THANTHAKHAT;2NIKHAHIT;2YAMAKKAN;2FONGMAN
1DIGIT ZERO;2ONE;2TWO;2THREE;2FOUR;2FIVE;2SIX;2SEVEN;2Ee;2NINE;1CHARACTER ANGKHANKHU;2KHOMUT;+E81
0LAO mKO;2KHO SUNG;+E84;3TAM;+E86;2PALI GHA;2NGO;2CO;2PALI CHA;2SO TAM;+E8C;2PALI JHA;2NYO;2PALI NYA
3TTA;3TTHA;3DDA;3DDHA;3NNA;2DO;2TO;2THO SUNG;3TAM;2PALI DHA;2NO;2BO;2PO;2PHO SUNG;2FO TAM;2PHO TAM
2FO SUNG;2PALI BHA;2MO;2YO;2LO LING;+EA5;3LOOT;+EA7;2WO;2SANSKRIT SHA;3SSA;2SO SUNG;2HO SUNG
2PALI LLA;2O;2HO TAM;1ELLIPSIS;1VOWELn A;3MAI KAN;3AA;3AM;3I;3II;3Y;3YY;3U;3UU;1SIGN PALI VIRAMA
1VOWELn MAI KON;1SEMIVOWELn LO;3NYO;+EC0;1VOWELn E;3EI;3O;3AY;3AI;+EC6;1KO LA;+EC8;1TONE MAI EK;3THO
3TI;3CATAWA;1CANCELLAw MARK;1NIGGAHITA;+ED0;1DIGIT ZERO;2ONE;2TWO;2THREE;2FOUR;2FIVE;2SIX;2SEVEN;2Ee
2NINE;+EDC;1HO NO;2MO;1mKHMU GO;3NYO;+F00;0TIBETAN SYLLABLE OM;1MARK GTER YIG MGO TRUNCATED A
5-UM RNAM BCAD MA;6GTER TSHEG MA;2INITIAL YIG MGO MDUN MA;2CLOSqYIG MGO SGAB MA
2CARET YIG MGO PHUR SHAD MA;2YIG MGO TSHEG SHAD MA;2SBRUL SHAD;2BSKUR YIG MGO;2BKA- SHOG YIG MGO
2INTERSYLLABIC TSHEG;2DELIMITER TSHEG BSTAR;2SHAD;2NYIS SHAD;2TSHEG SHAD;2NYIS TSHEG SHAD
2RIN CHEN SPUNGS SHAD;2RGYA GRAM SHAD;2CARET -DZUD RTAGS ME LONG CAN;2GTER TSHEG
1LOGOTYPEn CHAD RTAGS;3LHAG RTAGS;1ASTROLOGICALn SGRA GCAN -CHAR RTAGS;3-KHYUD PA;3SDONG TSHUGS
1SIGN RDEL DKAR GCIG;4GNYIS;4GSUM;3NAG GCIG;4GNYIS;3DKAR RDEL NAG;1DIGIT ZERO;2ONE;2TWO;2THREE;2FOUR
2FIVE;2SIX;2SEVEN;2Ee;2NINE;2HALF ONE;3TWO;3THREE;3FOUR;3FIVE;3SIX;3SEVEN;3Ee;3NINE;3ZERO
1MARK BSDUS RTAGS;2NGAS BZUNG NYI ZLA;2CARET -DZUD RTAGS BZHI MIG CAN;2NGAS BZUNG SGOR RTAGS
2CHE MGO;2TSA -PHRU;2GUG RTAGS GYON;4GYAS;2ANG KHANG GYON;4GYAS;1SIGN YAR TSHES;2MAR TSHES;1mKA;2KHA
2GA;2GHA;2NGA;2CA;2CHA;2JA;+F49;2NYA;2TTA;2TTHA;2DDA;2DDHA;2NNA;2TA;2THA;2DA;2DHA;2NA;2PA;2PHA;2BA
2BHA;2MA;2TSA;2TSHA;2DZA;2DZHA;2WA;2ZHA;2ZA;2-A;2YA;2RA;2LA;2SHA;2SSA;2SA;2HA;2A;2KSSA
2FIXED-FORM RA;2KKA;2RRA;+F71;1VOWELn AA;3I;3II;3U;3UU;3VOCALIC R;4RR;4L;4LL;3E;3EE;3O;3OO
1SIGN RJES SU NGA RO;2RNAM BCAD;1VOWELn REVERSED I;4II;1SIGN NYI ZLA NAA DA;2SNA LDAN;1MARK HALANTA
2PALUTA;1SIGN LCI RTAGS;2YANG RTAGS;2LCE TSA CAN;2MCHU CAN;2GRU CAN RGYINGS;3MED RGYINGS
2INVERTED MCHU CAN;1SUBJOINEDn LCE TSA CAN;3MCHU CAN;3INVERTED MCHU CAN;2mKA;3KHA;3GA;3GHA;3NGA;3CA
3CHA;3JA;+F99;3NYA;3TTA;3TTHA;3DDA;3DDHA;3NNA;3TA;3THA;3DA;3DHA;3NA;3PA;3PHA;3BA;3BHA;3MA;3TSA;3TSHA
3DZA;3DZHA;3WA;3ZHA;3ZA;3-A;3YA;3RA;3LA;3SHA;3SSA;3SA;3HA;3A;3KSSA;3FIXED-FORM WA;4YA;4RA;+FBE
1KU RU KHA;4BZHI MIG CAN;1CANTILLAwn HEAVY BEAT;3Le BEAT;3CANG TE-U;3SBUB -CHAL;1u DRIL BU;2RDO RJE
2PADMA GDAN;2RDO RJE RGYA GRAM;2PHUR PA;2NOR BU;4NYIS -KHYIL;4GSUM -KHYIL;4BZHI -KHYIL;+FCE
1SIGN RDEL NAG RDEL DKAR;4GSUM;1MARK BSKA- SHOG GI MGO RGYAN;2MNYAM YIG GI MGO RGYAN;2NYIS TSHEG
2INITIAL BRDA RNYqYIG MGO MDUN MA;2CLOSqBRDA RNYqYIG MGO SGAB MA;0Re-FACqSVASTIn;0p-FACqSVASTIn
0Re-FACqSVASTInbDOTS;0p-FACqSVASTInbDOTS;0TIBETAN MARK LEADqMCHAN RTAGS;2TRAILqMCHAN RTAGS;+1000
0MYANMAR mKA;2KHA;2GA;2GHA;2NGA;2CA;2CHA;2JA;2JHA;2NYA;2NNYA;2TTA;2TTHA;2DDA;2DDHA;2NNA;2TA;2THA;2DA
2DHA;2NA;2PA;2PHA;2BA;2BHA;2MA;2YA;2RA;2LA;2WA;2SA;2HA;2LLA;2A;2SHAN A;2I;2II;2U;2UU;2E;2MON E;2O
2AU;1VOWELn TALL AA;3AA;3I;3II;3U;3UU;3E;3AI;3MON II;4O;3Ej;1SIGN ANUSVARA;2DOTv;2VISARGA;2VIRAMA
2ASAT;1CONSONANTn MEDIAL YA;4RA;4WA;4HA;1mGREAT SA;1DIGIT ZERO;2ONE;2TWO;2THREE;2FOUR;2FIVE;2SIX
2SEVEN;2Ee;2NINE;1SIGN LITTLE SECw;2SECw;1u LOCATIVE;2COMPLETED;2AFOREMENwED;2GENITIVE;1mSHA;2SSA
2VOCALIC R;3RR;3L;3LL;1VOWELn VOCALIC R;4RR;4L;4LL;1mMON NGA;3JHA;3BBA;3BBE
1CONSONANTn MON MEDIAL NA;5MA;5LA;1mSGAW KAREN SHA;1VOWELn SGAW KAREN EU;1TONE MARK SGAW KAREN HATHI
5KE PHO;1mWESTERN PWO KAREN THA;5PWA;1VOWELn WESTERN PWO KAREN EU;6UE;1SIGN WESTERN PWO KAREN TONE-1
5TONE-2;5TONE-3;5TONE-4;5TONE-5;1mEASTERN PWO KAREN NNA;5YWA;5GHWA;1VOWELn GEBA KAREN I;3KAYAH OE;4U
4EE;1mSHAN KA;3KHA;3GA;3CA;3ZA;3NYA;3DA;3NA;3PHA;3FA;3BA;3THA;3HA;1CONSONANTn SHAN MEDIAL WA
1VOWELn SHAN AA;4E;5ABOVE;4y Y;1SIGN SHAN TONE-2;3TONE-3;3TONE-5;3TONE-6;3COUNCIL TONE-2;4TONE-3
4EMPHATIC TONE;1mRUMAI PALAUNG FA;1SIGN RUMAI PALAUNG TONE-5;1SHAN DIGIT ZERO;3ONE;3TWO;3THREE;3FOUR
3FIVE;3SIX;3SEVEN;3Ee;3NINE;1SIGN KHAMTI TONE-1;3TONE-3;1VOWELn AITON A;4AI;1u SHAN ONE;3EXCLAMAw
0GEORGIAN daAN;3BAN;3GAN;3DON;3EN;3VIN;3ZEN;3TAN;3IN;3KAN;3LAS;3MAN;3NAR;3ON;3PAR;3ZHAR;3RAE;3SAN
3TAR;3UN;3PHAR;3KHAR;3GHAN;3QAR;3SHIN;3CHIN;3CAN;3JIL;3CIL;3CHAR;3XAN;3JHAN;3HAE;3HE;3HIE;3WE;3HAR
3HOE;+10C7;3YN;+10CD;3AEN;+10D0;1mAN;2BAN;2GAN;2DON;2EN;2VIN;2ZEN;2TAN;2IN;2KAN;2LAS;2MAN;2NAR;2ON
2PAR;2ZHAR;2RAE;2SAN;2TAR;2UN;2PHAR;2KHAR;2GHAN;2QAR;2SHIN;2CHIN;2CAN;2JIL;2CIL;2CHAR;2XAN;2JHAN
2HAE;2HE;2HIE;2WE;2HAR;2HOE;2FI;2YN;2ELIFI;2TURNED GAN;2AIN;1PARAGRAPH SEPARATOR
0MODIFIER mGEORGIAN NAR;0GEORGIAN mAEN;2HARDn;2LABIALn;0HANGUL CHOSEONG KIYEOK;2SSANGKIYEOK;2NIEUN
2TIKEUT;2SSANGTIKEUT;2RIEUL;2MIEUM;2PIEUP;2SSANGPIEUP;2SIOS;2SSANGSIOS;2IEUNG;2CIEUC;2SSANGCIEUC
2CHIEUCH;2KHIEUKH;2THIEUTH;2PHIEUPH;2HIEUH;2NIEUN-KIYEOK;2SSANGNIEUN;2NIEUN-TIKEUT;2NIEUN-PIEUP
2TIKEUT-KIYEOK;2RIEUL-NIEUN;2SSANGRIEUL;2RIEUL-HIEUH;2KAPYEOUNRIEUL;2MIEUM-PIEUP;2KAPYEOUNMIEUM
2PIEUP-KIYEOK;2PIEUP-NIEUN;2PIEUP-TIKEUT;2PIEUP-SIOS;2PIEUP-SIOS-KIYEOK;2PIEUP-SIOS-TIKEUT
2PIEUP-SIOS-PIEUP;2PIEUP-SSANGSIOS;2PIEUP-SIOS-CIEUC;2PIEUP-CIEUC;2PIEUP-CHIEUCH;2PIEUP-THIEUTH
2PIEUP-PHIEUPH;2KAPYEOUNPIEUP;2KAPYEOUNSSANGPIEUP;2SIOS-KIYEOK;2SIOS-NIEUN;2SIOS-TIKEUT;2SIOS-RIEUL
2SIOS-MIEUM;2SIOS-PIEUP;2SIOS-PIEUP-KIYEOK;2SIOS-SSANGSIOS;2SIOS-IEUNG;2SIOS-CIEUC;2SIOS-CHIEUCH
2SIOS-KHIEUKH;2SIOS-THIEUTH;2SIOS-PHIEUPH;2SIOS-HIEUH;2CHITUEUMSIOS;2CHITUEUMSSANGSIOS
2CEONGCHIEUMSIOS;2CEONGCHIEUMSSANGSIOS;2PANSIOS;2IEUNG-KIYEOK;2IEUNG-TIKEUT;2IEUNG-MIEUM
2IEUNG-PIEUP;2IEUNG-SIOS;2IEUNG-PANSIOS;2SSANGIEUNG;2IEUNG-CIEUC;2IEUNG-CHIEUCH;2IEUNG-THIEUTH
2IEUNG-PHIEUPH;2YESIEUNG;2CIEUC-IEUNG;2CHITUEUMCIEUC;2CHITUEUMSSANGCIEUC;2CEONGCHIEUMCIEUC
2CEONGCHIEUMSSANGCIEUC;2CHIEUCH-KHIEUKH;2CHIEUCH-HIEUH;2CHITUEUMCHIEUCH;2CEONGCHIEUMCHIEUCH
2PHIEUPH-PIEUP;2KAPYEOUNPHIEUPH;2SSANGHIEUH;2YEORINHIEUH;2KIYEOK-TIKEUT;2NIEUN-SIOS;2NIEUN-CIEUC
2NIEUN-HIEUH;2TIKEUT-RIEUL;2FILLER;1JUNGSEONG FILLER;2A;2AE;2YA;2YAE;2EO;2E;2YEO;2YE;2O;2WA;2WAE;2OE
2YO;2U;2WEO;2WE;2WI;2YU;2EU;2YI;2I;2A-O;2A-U;2YA-O;2YA-YO;2EO-O;2EO-U;2EO-EU;2YEO-O;2YEO-U;2O-EO
2O-E;2O-YE;2O-O;2O-U;2YO-YA;2YO-YAE;2YO-YEO;2YO-O;2YO-I;2U-A;2U-AE;2U-EO-EU;2U-YE;2U-U;2YU-A;2YU-EO
2YU-E;2YU-YEO;2YU-YE;2YU-U;2YU-I;2EU-U;2EU-EU;2YI-U;2I-A;2I-YA;2I-O;2I-U;2I-EU;2I-ARAEA;2ARAEA
2ARAEA-EO;2ARAEA-U;2ARAEA-I;2SSANGARAEA;2A-EU;2YA-U;2YEO-YA;2O-YA;2O-YAE;1JONGSEONG KIYEOK
2SSANGKIYEOK;2KIYEOK-SIOS;2NIEUN;2NIEUN-CIEUC;2NIEUN-HIEUH;2TIKEUT;2RIEUL;2RIEUL-KIYEOK;2RIEUL-MIEUM
2RIEUL-PIEUP;2RIEUL-SIOS;2RIEUL-THIEUTH;2RIEUL-PHIEUPH;2RIEUL-HIEUH;2MIEUM;2PIEUP;2PIEUP-SIOS;2SIOS
2SSANGSIOS;2IEUNG;2CIEUC;2CHIEUCH;2KHIEUKH;2THIEUTH;2PHIEUPH;2HIEUH;2KIYEOK-RIEUL
2KIYEOK-SIOS-KIYEOK;2NIEUN-KIYEOK;2NIEUN-TIKEUT;2NIEUN-SIOS;2NIEUN-PANSIOS;2NIEUN-THIEUTH
2TIKEUT-KIYEOK;2TIKEUT-RIEUL;2RIEUL-KIYEOK-SIOS;2RIEUL-NIEUN;2RIEUL-TIKEUT;2RIEUL-TIKEUT-HIEUH
2SSANGRIEUL;2RIEUL-MIEUM-KIYEOK;2RIEUL-MIEUM-SIOS;2RIEUL-PIEUP-SIOS;2RIEUL-PIEUP-HIEUH
2RIEUL-KAPYEOUNPIEUP;2RIEUL-SSANGSIOS;2RIEUL-PANSIOS;2RIEUL-KHIEUKH;2RIEUL-YEORINHIEUH;2MIEUM-KIYEOK
2MIEUM-RIEUL;2MIEUM-PIEUP;2MIEUM-SIOS;2MIEUM-SSANGSIOS;2MIEUM-PANSIOS;2MIEUM-CHIEUCH;2MIEUM-HIEUH
2KAPYEOUNMIEUM;2PIEUP-RIEUL;2PIEUP-PHIEUPH;2PIEUP-HIEUH;2KAPYEOUNPIEUP;2SIOS-KIYEOK;2SIOS-TIKEUT
2SIOS-RIEUL;2SIOS-PIEUP;2PANSIOS;2IEUNG-KIYEOK;2IEUNG-SSANGKIYEOK;2SSANGIEUNG;2IEUNG-KHIEUKH
2YESIEUNG;2YESIEUNG-SIOS;2YESIEUNG-PANSIOS;2PHIEUPH-PIEUP;2KAPYEOUNPHIEUPH;2HIEUH-NIEUN;2HIEUH-RIEUL
2HIEUH-MIEUM;2HIEUH-PIEUP;2YEORINHIEUH;2KIYEOK-NIEUN;2KIYEOK-PIEUP;2KIYEOK-CHIEUCH;2KIYEOK-KHIEUKH
2KIYEOK-HIEUH;2SSANGNIEUN;0ETHIOPIC SYLLABLE HA;2HU;2HI;2HAA;2HEE;2HE;2HO;2HOA;2LA;2LU;2LI;2LAA;2LEE
2LE;2LO;2LWA;2HHA;2HHU;2HHI;2HHAA;2HHEE;2HHE;2HHO;2HHWA;2MA;2MU;2MI;2MAA;2MEE;2ME;2MO;2MWA;2SZA;2SZU
2SZI;2SZAA;2SZEE;2SZE;2SZO;2SZWA;2RA;2RU;2RI;2RAA;2REE;2RE;2RO;2RWA;2SA;2SU;2SI;2SAA;2SEE;2SE;2SO
2SWA;2SHA;2SHU;2SHI;2SHAA;2SHEE;2SHE;2SHO;2SHWA;2QA;2QU;2QI;2QAA;2QEE;2QE;2QO;2QOA;2QWA;+124A;2QWI
2QWAA;2QWEE;2QWE;+1250;2QHA;2QHU;2QHI;2QHAA;2QHEE;2QHE;2QHO;+1258;2QHWA;+125A;2QHWI;2QHWAA;2QHWEE
2QHWE;+1260;2BA;2BU;2BI;2BAA;2BEE;2BE;2BO;2BWA;2VA;2VU;2VI;2VAA;2VEE;2VE;2VO;2VWA;2TA;2TU;2TI;2TAA
2TEE;2TE;2TO;2TWA;2CA;2CU;2CI;2CAA;2CEE;2CE;2CO;2CWA;2XA;2XU;2XI;2XAA;2XEE;2XE;2XO;2XOA;2XWA;+128A
2XWI;2XWAA;2XWEE;2XWE;+1290;2NA;2NU;2NI;2NAA;2NEE;2NE;2NO;2NWA;2NYA;2NYU;2NYI;2NYAA;2NYEE;2NYE;2NYO
2NYWA;2GLOTTAL A;3U;3I;3AA;3EE;3E;3O;3WA;2KA;2KU;2KI;2KAA;2KEE;2KE;2KO;2KOA;2KWA;+12B2;2KWI;2KWAA
2KWEE;2KWE;+12B8;2KXA;2KXU;2KXI;2KXAA;2KXEE;2KXE;2KXO;+12C0;2KXWA;+12C2;2KXWI;2KXWAA;2KXWEE;2KXWE
+12C8;2WA;2WU;2WI;2WAA;2WEE;2WE;2WO;2WOA;2PHARYNGEAL A;3U;3I;3AA;3EE;3E;3O;+12D8;2ZA;2ZU;2ZI;2ZAA
2ZEE;2ZE;2ZO;2ZWA;2ZHA;2ZHU;2ZHI;2ZHAA;2ZHEE;2ZHE;2ZHO;2ZHWA;2YA;2YU;2YI;2YAA;2YEE;2YE;2YO;2YOA;2DA
2DU;2DI;2DAA;2DEE;2DE;2DO;2DWA;2DDA;2DDU;2DDI;2DDAA;2DDEE;2DDE;2DDO;2DDWA;2JA;2JU;2JI;2JAA;2JEE;2JE
2JO;2JWA;2GA;2GU;2GI;2GAA;2GEE;2GE;2GO;2GOA;2GWA;+1312;2GWI;2GWAA;2GWEE;2GWE;+1318;2GGA;2GGU;2GGI
2GGAA;2GGEE;2GGE;2GGO;2GGWAA;2THA;2THU;2THI;2THAA;2THEE;2THE;2THO;2THWA;2CHA;2CHU;2CHI;2CHAA;2CHEE
2CHE;2CHO;2CHWA;2PHA;2PHU;2PHI;2PHAA;2PHEE;2PHE;2PHO;2PHWA;2TSA;2TSU;2TSI;2TSAA;2TSEE;2TSE;2TSO
2TSWA;2TZA;2TZU;2TZI;2TZAA;2TZEE;2TZE;2TZO;2TZOA;2FA;2FU;2FI;2FAA;2FEE;2FE;2FO;2FWA;2PA;2PU;2PI;2PAA
2PEE;2PE;2PO;2PWA;2RYA;2MYA;2FYA;+135D;1COMBINqGEMINAwiVOWEL LENGTH MARK;2VOWEL LENGTH MARK
2GEMINAw MARK;1SECw MARK;1WORDSPACE;1FULL STOP;1COMMA;1SEMICOLON;1COLON;1PREFACE COLON;1QUESw MARK
1PARAGRAPH SEPARATOR;1DIGIT ONE;2TWO;2THREE;2FOUR;2FIVE;2SIX;2SEVEN;2Ee;2NINE;1NUMBER TEN;2TWENTY
2THIRTY;2FORTY;2FIFTY;2SIXTY;2SEVENTY;2EeY;2NINETY;2HUNDRED;2TEN THOUSAND;+1380
1SYLLABLE SEBATBEIT MWA;2MWI;2MWEE;2MWE;2SEBATBEIT BWA;2BWI;2BWEE;2BWE;2SEBATBEIT FWA;2FWI;2FWEE
2FWE;2SEBATBEIT PWA;2PWI;2PWEE;2PWE;1TONAL MARK YIZET;3DERET;3RIKRIK;3SHORT RIKRIK;3DIFAT;3KENAT
3CHIRET;3HIDET;3DERET-HIDET;3KURT;+13A0;0CHEROKEE mA;2E;2I;2O;2U;2V;2GA;2KA;2GE;2GI;2GO;2GU;2GV;2HA
2HE;2HI;2HO;2HU;2HV;2LA;2LE;2LI;2LO;2LU;2LV;2MA;2ME;2MI;2MO;2MU;2NA;2HNA;2NAH;2NE;2NI;2NO;2NU;2NV
2QUA;2QUE;2QUI;2QUO;2QUU;2QUV;2SA;2S;2SE;2SI;2SO;2SU;2SV;2DA;2TA;2DE;2TE;2DI;2TI;2DO;2DU;2DV;2DLA
2TLA;2TLE;2TLI;2TLO;2TLU;2TLV;2TSA;2TSE;2TSI;2TSO;2TSU;2TSV;2WA;2WE;2WI;2WO;2WU;2WV;2YA;2YE;2YI;2YO
2YU;2YV;2MV;+13F8;1haYE;3YI;3YO;3YU;3YV;3MV;+1400;0CANADIAN SYLLABICS HYPHEN;2E;2AAI;2I;2II;2O;2OO
2Y-CREE OO;2CARRIER EE;3I;2A;2AA;2WE;2WEST-CREE WE;2WI;2WEST-CREE WI;2WII;2WEST-CREE WII;2WO
2WEST-CREE WO;2WOO;2WEST-CREE WOO;2NASKAPI WOO;2WA;2WEST-CREE WA;2WAA;2WEST-CREE WAA;2NASKAPI WAA
2AI;2Y-CREE W;2GLOTTAL STOP;2y ACUTE;3GRAVE;3BOTTOM HALF RING;3TOP HALF RING;3Re HALF RING;3RING
3r ACUTE;4SHORT s STROKES;3MIDDLE DOT;3SHORT t STROKE;3PLUS;3DOWN TACK;2EN;2IN;2ON;2AN;2PE;2PAAI;2PI
2PII;2PO;2POO;2Y-CREE POO;2CARRIER HEE;3HI;2PA;2PAA;2PWE;2WEST-CREE PWE;2PWI;2WEST-CREE PWI;2PWII
2WEST-CREE PWII;2PWO;2WEST-CREE PWO;2PWOO;2WEST-CREE PWOO;2PWA;2WEST-CREE PWA;2PWAA;2WEST-CREE PWAA
2Y-CREE PWAA;2P;2WEST-CREE P;2CARRIER H;2TE;2TAAI;2TI;2TII;2TO;2TOO;2Y-CREE TOO;2CARRIER DEE;3DI;2TA
2TAA;2TWE;2WEST-CREE TWE;2TWI;2WEST-CREE TWI;2TWII;2WEST-CREE TWII;2TWO;2WEST-CREE TWO;2TWOO
2WEST-CREE TWOO;2TWA;2WEST-CREE TWA;2TWAA;2WEST-CREE TWAA;2NASKAPI TWAA;2T;2TTE;2TTI;2TTO;2TTA;2KE
2KAAI;2KI;2KII;2KO;2KOO;2Y-CREE KOO;2KA;2KAA;2KWE;2WEST-CREE KWE;2KWI;2WEST-CREE KWI;2KWII
2WEST-CREE KWII;2KWO;2WEST-CREE KWO;2KWOO;2WEST-CREE KWOO;2KWA;2WEST-CREE KWA;2KWAA;2WEST-CREE KWAA
2NASKAPI KWAA;2K;2KW;2SOUTH-SLAVEY KEH;3KIH;3KOH;3KAH;2CE;2CAAI;2CI;2CII;2CO;2COO;2Y-CREE COO;2CA
2CAA;2CWE;2WEST-CREE CWE;2CWI;2WEST-CREE CWI;2CWII;2WEST-CREE CWII;2CWO;2WEST-CREE CWO;2CWOO
2WEST-CREE CWOO;2CWA;2WEST-CREE CWA;2CWAA;2WEST-CREE CWAA;2NASKAPI CWAA;2C;2SAYISI TH;2ME;2MAAI;2MI
2MII;2MO;2MOO;2Y-CREE MOO;2MA;2MAA;2MWE;2WEST-CREE MWE;2MWI;2WEST-CREE MWI;2MWII;2WEST-CREE MWII
2MWO;2WEST-CREE MWO;2MWOO;2WEST-CREE MWOO;2MWA;2WEST-CREE MWA;2MWAA;2WEST-CREE MWAA;2NASKAPI MWAA;2M
2WEST-CREE M;2MH;2ATHAPASCAN M;2SAYISI M;2NE;2NAAI;2NI;2NII;2NO;2NOO;2Y-CREE NOO;2NA;2NAA;2NWE
2WEST-CREE NWE;2NWA;2WEST-CREE NWA;2NWAA;2WEST-CREE NWAA;2NASKAPI NWAA;2N;2CARRIER NG;2NH;2LE;2LAAI
2LI;2LII;2LO;2LOO;2Y-CREE LOO;2LA;2LAA;2LWE;2WEST-CREE LWE;2LWI;2WEST-CREE LWI;2LWII;2WEST-CREE LWII
2LWO;2WEST-CREE LWO;2LWOO;2WEST-CREE LWOO;2LWA;2WEST-CREE LWA;2LWAA;2WEST-CREE LWAA;2L;2WEST-CREE L
2MEDIAL L;2SE;2SAAI;2SI;2SII;2SO;2SOO;2Y-CREE SOO;2SA;2SAA;2SWE;2WEST-CREE SWE;2SWI;2WEST-CREE SWI
2SWII;2WEST-CREE SWII;2SWO;2WEST-CREE SWO;2SWOO;2WEST-CREE SWOO;2SWA;2WEST-CREE SWA;2SWAA
2WEST-CREE SWAA;2NASKAPI SWAA;2S;2ATHAPASCAN S;2SW;2BLACKFOOT S;2MOOSE-CREE SK;2NASKAPI SKW;3S-W
3SPWA;3STWA;3SKWA;3SCWA;2SHE;2SHI;2SHII;2SHO;2SHOO;2SHA;2SHAA;2SHWE;2WEST-CREE SHWE;2SHWI
2WEST-CREE SHWI;2SHWII;2WEST-CREE SHWII;2SHWO;2WEST-CREE SHWO;2SHWOO;2WEST-CREE SHWOO;2SHWA
2WEST-CREE SHWA;2SHWAA;2WEST-CREE SHWAA;2SH;2YE;2YAAI;2YI;2YII;2YO;2YOO;2Y-CREE YOO;2YA;2YAA;2YWE
2WEST-CREE YWE;2YWI;2WEST-CREE YWI;2YWII;2WEST-CREE YWII;2YWO;2WEST-CREE YWO;2YWOO;2WEST-CREE YWOO
2YWA;2WEST-CREE YWA;2YWAA;2WEST-CREE YWAA;2NASKAPI YWAA;2Y;2BIBLE-CREE Y;2WEST-CREE Y;2SAYISI YI;2RE
2R-CREE RE;2WEST-CREE LE;2RAAI;2RI;2RII;2RO;2ROO;2WEST-CREE LO;2RA;2RAA;2WEST-CREE LA;2RWAA
2WEST-CREE RWAA;2R;2WEST-CREE R;2MEDIAL R;2FE;2FAAI;2FI;2FII;2FO;2FOO;2FA;2FAA;2FWAA;2WEST-CREE FWAA
2F;2THE;2N-CREE THE;2THI;2N-CREE THI;2THII;2N-CREE THII;2THO;2THOO;2THA;2THAA;2THWAA
2WEST-CREE THWAA;2TH;2TTHE;2TTHI;2TTHO;2TTHA;2TTH;2TYE;2TYI;2TYO;2TYA;2NUNAVIK HE;3HI;3HII;3HO;3HOO
3HA;3HAA;3H;2NUNAVUT H;2HK;2QAAI;2QI;2QII;2QO;2QOO;2QA;2QAA;2Q;2TLHE;2TLHI;2TLHO;2TLHA;2WEST-CREE RE
3RI;3RO;3RA;2NGAAI;2NGI;2NGII;2NGO;2NGOO;2NGA;2NGAA;2NG;2NNG;2SAYISI SHE;3SHI;3SHO;3SHA
2WOODS-CREE THE;3THI;3THO;3THA;3TH;2LHI;2LHII;2LHO;2LHOO;2LHA;2LHAA;2LH;2TH-CREE THE;3THI;3THII;3THO
3THOO;3THA;3THAA;3TH;2AIVILIK B;2BLACKFOOT E;3I;3O;3A;3WE;3WI;3WO;3WA;3NE;3NI;3NO;3NA;3KE;3KI;3KO
3KA;2SAYISI HE;3HI;3HO;3HA;2CARRIER GHU;3GHO;3GHE;3GHEE;3GHI;3GHA;3RU;3RO;3RE;3REE;3RI;3RA;3WU;3WO
3WE;3WEE;3WI;3WA;3HWU;3HWO;3HWE;3HWEE;3HWI;3HWA;3THU;3THO;3THE;3THEE;3THI;3THA;3TTU;3TTO;3TTE;3TTEE
3TTI;3TTA;3PU;3PO;3PE;3PEE;3PI;3PA;3P;3GU;3GO;3GE;3GEE;3GI;3GA;3KHU;3KHO;3KHE;3KHEE;3KHI;3KHA;3KKU
3KKO;3KKE;3KKEE;3KKI;3KKA;3KK;3NU;3NO;3NE;3NEE;3NI;3NA;3MU;3MO;3ME;3MEE;3MI;3MA;3YU;3YO;3YE;3YEE;3YI
3YA;3JU;2SAYISI JU;2CARRIER JO;3JE;3JEE;3JI;2SAYISI JI;2CARRIER JA;3JJU;3JJO;3JJE;3JJEE;3JJI;3JJA
3LU;3LO;3LE;3LEE;3LI;3LA;3DLU;3DLO;3DLE;3DLEE;3DLI;3DLA;3LHU;3LHO;3LHE;3LHEE;3LHI;3LHA;3TLHU;3TLHO
3TLHE;3TLHEE;3TLHI;3TLHA;3TLU;3TLO;3TLE;3TLEE;3TLI;3TLA;3ZU;3ZO;3ZE;3ZEE;3ZI;3ZA;3Z;3INITIAL Z;3DZU
3DZO;3DZE;3DZEE;3DZI;3DZA;3SU;3SO;3SE;3SEE;3SI;3SA;3SHU;3SHO;3SHE;3SHEE;3SHI;3SHA;3SH;3TSU;3TSO;3TSE
3TSEE;3TSI;3TSA;3CHU;3CHO;3CHE;3CHEE;3CHI;3CHA;3TTSU;3TTSO;3TTSE;3TTSEE;3TTSI;3TTSA;2CHIn;2FULL STOP
2QAI;2NGAI;2NNGI;2NNGII;2NNGO;2NNGOO;2NNGA;2NNGAA;2WOODS-CREE THWEE;3THWI;3THWII;3THWO;3THWOO;3THWA
3THWAA;3y TH;2BLACKFOOT W;0OGHAM SPACE MARK;1mBEITH;2LUIS;2FEARN;2SAIL;2NION;2UATH;2DAIR;2TINNE
2COLL;2CEIRT;2MUIN;2GORT;2NGEADAL;2STRAIF;2RUIS;2AILM;2ONN;2UR;2EADHADH;2IODHADH;2EABHADH;2OR
2UILLEANN;2IFIN;2EAMHANCHOLL;2PEITH;1FEATHER MARK;1REVERSED FEATHER MARK;+16A0
0RUNIC mFEHU FEOH FE F;2V;2URUZ UR U;2YR;2Y;2W;2THURISAZ THURS THORN;2ETH;2ANSUZ A;2OS O;2AC A;2AESC
2LONG-BRANCH-OSS O;2SHORT-TWIG-OSS O;2O;2OE;2ON;2RAIDO RAD REID R;2KAUNA;2CEN;2KAUN K;2G;2ENG
2GEBO GYFU G;2GAR;2WUNJO WYNN W;2HAGLAZ H;2HAEGL H;2LONG-BRANCH-HAGALL H;2SHORT-TWIG-HAGALL H
2NAUDIZ NYD NAUD N;2SHORT-TWIG-NAUD N;2DOTTED-N;2ISAZ IS ISS I;2E;2JERAN J;2GER;2LONG-BRANCH-AR AE
2SHORT-TWIG-AR A;2IWAZ EOH;2PERTHO PEORTH P;2ALGIZ EOLHX;2SOWILO S;2SIGEL LONG-BRANCH-SOL S
2SHORT-TWIG-SOL S;2C;2Z;2TIWAZ TIR TYR T;2SHORT-TWIG-TYR T;2D;2BERKANAN BEORC BJARKAN B
2SHORT-TWIG-BJARKAN B;2DOTTED-P;2OPEN-P;2EHWAZ EH E;2MANNAZ MAN M;2LONG-BRANCH-MADR M
2SHORT-TWIG-MADR M;2LAUKAZ LAGU LOGR L;2DOTTED-L;2INGWAZ;2ING;2DAGAZ DAEG D;2OTHALAN ETHEL O;2EAR
2IOR;2CWEORTH;2CALC;2CEALC;2STAN;2LONG-BRANCH-YR;2SHORT-TWIG-YR;2ICELANDIC-YR;2Q;2X;1SINGLE PUNCTUAw
1MULTIPLE PUNCTUAw;1CROSS PUNCTUAw;1ARLAUG u;1TVIMADUR u;1BELGTHOR u;1mK;2SH;2OO;2FRANKS CASKET OS
4IS;4EH;4AC;4AESC;+1700;0TAGALOG mA;2I;2U;2KA;2GA;2NGA;2TA;2DA;2NA;2PA;2BA;2MA;2YA;2RA;2LA;2WA;2SA
2HA;1VOWELn I;3U;1SIGN VIRAMA;2PAMUDPOD;+171F;1mARCHAIC RA;0HANUNOO mA;2I;2U;2KA;2GA;2NGA;2TA;2DA
2NA;2PA;2BA;2MA;2YA;2RA;2LA;2WA;2SA;2HA;1VOWELn I;3U;1SIGN PAMUDPOD;0PHILIPPINE SINGLE PUNCTUAw
1r PUNCTUAw;+1740;0BUHID mA;2I;2U;2KA;2GA;2NGA;2TA;2DA;2NA;2PA;2BA;2MA;2YA;2RA;2LA;2WA;2SA;2HA
1VOWELn I;3U;+1760;0TAGBANWA mA;2I;2U;2KA;2GA;2NGA;2TA;2DA;2NA;2PA;2BA;2MA;2YA;+176E;2LA;2WA;2SA
+1772;1VOWELn I;3U;+1780;0KHMER mKA;2KHA;2KO;2KHO;2NGO;2CA;2CHA;2CO;2CHO;2NYO;2DA;2TTHA;2DO;2TTHO
2NNO;2TA;2THA;2TO;2THO;2NO;2BA;2PHA;2PO;2PHO;2MO;2YO;2RO;2LO;2VO;2SHA;2SSO;2SA;2HA;2LA;2QA
1INDEPENDENT VOWEL QAQ;3QAA;3QI;3QII;3QU;3QUK;3QUU;3QUUV;3RY;3RYY;3LY;3LYY;3QE;3QAI;3QOO TYPE ONE
5TWO;3QAU;1VOWEL INHERENT AQ;3AA;2SIGN AA;3I;3II;3Y;3YY;3U;3UU;3UA;3OE;3YA;3IE;3E;3AE;3AI;3OO;3AU
1SIGN NIKAHIT;2REAHMUK;2YUUKALEAPINTU;2MUUSIKATOAN;2TRIISAP;2BANTOC;2ROBAT;2TOANDAKHIAT;2KAKABAT
2AHSDA;2SAMYOK SANNYA;2VIRIAM;2COENG;2BATHAMASAT;2KHAN;2BARIYOOSAN;2CAMNUC PII KUUH;2LEK TOO;2BEYYAL
2PHNAEK MUAN;2KOOMUUT;1CURRENCY u RIEL;1SIGN AVAKRAHASANYA;2ATTHACAN;+17E0;1DIGIT ZERO;2ONE;2TWO
2THREE;2FOUR;2FIVE;2SIX;2SEVEN;2Ee;2NINE;+17F0;1u LEK ATTAK SON;4MUOY;4PII;4BEI;4BUON;4PRAM
4PRAM-MUOY;4PRAM-PII;4PRAM-BEI;4PRAM-BUON;+1800;0MONGOLIAN BIRGA;1ELLIPSIS;1COMMA;1FULL STOP;1COLON
1FOUR DOTS;1TODO SOFT HYPHEN;1SIBE SYLLABLE BOUNDARY MARKER;1MANCHU COMMA;2FULL STOP;1NIRUGU
1FREE VARIAw SELECTOR ONE;4TWO;4THREE;1VOWEL SEPARATOR;1FREE VARIAw SELECTOR FOUR;1DIGIT ZERO;2ONE
2TWO;2THREE;2FOUR;2FIVE;2SIX;2SEVEN;2Ee;2NINE;+1820;1mA;2E;2I;2O;2U;2OE;2UE;2EE;2NA;2ANG;2BA;2PA;2QA
2GA;2MA;2LA;2SA;2SHA;2TA;2DA;2CHA;2JA;2YA;2RA;2WA;2FA;2KA;2KHA;2TSA;2ZA;2HAA;2ZRA;2LHA;2ZHI;2CHI
2TODO LONG VOWELn;3E;3I;3O;3U;3OE;3UE;3ANG;3BA;3PA;3QA;3GA;3MA;3TA;3DA;3CHA;3JA;3TSA;3YA;3WA;3KA
3GAA;3HAA;3JIA;3NIA;3DZA;2SIBE E;3I;3IY;3UE;3U;3ANG;3KA;3GA;3HA;3PA;3SHA;3TA;3DA;3JA;3FA;3GAA;3HAA
3TSA;3ZA;3RAA;3CHA;3ZHA;2MANCHU I;3KA;3RA;3FA;3ZHA;2CHAbTWO DOTS;+1880;2ALI GALI ANUSVARA ONE
4VISARGA ONE;4DAMARU;4UBADAMA;4INVERTED UBADAMA;4BALUDA;4THREE BALUDA;4A;4I;4KA;4NGA;4CA;4TTA;4TTHA
4DDA;4NNA;4TA;4DA;4PA;4PHA;4SSA;4ZHA;4ZA;4AH;2TODO ALI GALI TA;5ZHA;2MANCHU ALI GALI GHA;5NGA;5CA
5JHA;5TTA;5DDHA;5TA;5DHA;5SSA;5CYA;5ZHA;5ZA;2ALI GALI HALF U;5YA;2MANCHU ALI GALI BHA
2ALI GALI DAGALGA;2MANCHU ALI GALI LHA;+18B0;0CANADIAN SYLLABICS OY;2AY;2AAY;2WAY;2POY;2PAY;2PWOY
2TAY;2KAY;2KWAY;2MAY;2NOY;2NAY;2LAY;2SOY;2SAY;2SHOY;2SHAY;2SHWOY;2YOY;2YAY;2RAY;2NWI;2OJIBWAY NWI
2NWII;2OJIBWAY NWII;2NWO;2OJIBWAY NWO;2NWOO;2OJIBWAY NWOO;2RWEE;2RWI;2RWII;2RWO;2RWOO;2RWA
2OJIBWAY P;3T;3K;3C;3M;3N;3S;3SH;2EASTERN W;2WESTERN W;2y hL RING;3RAISED DOT;2R-CREE RWE
2WEST-CREE LOO;3LAA;2THWE;2THWA;2TTHWE;2TTHOO;2TTHAA;2TLHWE;2TLHOO;2SAYISI SHWE;3SHOO;3HOO
2CARRIER GWU;3DENE GEE;3GAA;3GWA;2SAYISI JUU;2CARRIER JWA;2BEAVER DENE L;4R;2CARRIER DENTAL S;+1900
0LIMBU VOWEL-CARRIER LETTER;1mKA;2KHA;2GA;2GHA;2NGA;2CA;2CHA;2JA;2JHA;2YAN;2TA;2THA;2DA;2DHA;2NA;2PA
2PHA;2BA;2BHA;2MA;2YA;2RA;2LA;2WA;2SHA;2SSA;2SA;2HA;2GYAN;2TRA;+1920;1VOWELn A;3I;3U;3EE;3AI;3OO;3AU
3E;3O;1SUBJOINED mYA;3RA;3WA;+1930;1haKA;3NGA;3ANUSVARA;3TA;3NA;3PA;3MA;3RA;3LA;1SIGN MUKPHRENG
2KEMPHRENG;2SA-I;+1940;2LOO;+1944;1EXCLAMAw MARK;1QUESw MARK;1DIGIT ZERO;2ONE;2TWO;2THREE;2FOUR
2FIVE;2SIX;2SEVEN;2Ee;2NINE;0TAI LE mKA;3XA;3NGA;3TSA;3SA;3YA;3TA;3THA;3LA;3PA;3PHA;3MA;3FA;3VA;3HA
3QA;3KHA;3TSHA;3NA;3A;3I;3EE;3EH;3U;3OO;3O;3UE;3E;3AUE;3AI;+1970;3TONE-2;3TONE-3;3TONE-4;3TONE-5
3TONE-6;+1980;0NEW TAI LUE mHIGH QA;4LOW QA;4HIGH KA;5XA;5NGA;4LOW KA;5XA;5NGA;4HIGH TSA;5SA;5YA
4LOW TSA;5SA;5YA;4HIGH TA;5THA;5NA;4LOW TA;5THA;5NA;4HIGH PA;5PHA;5MA;4LOW PA;5PHA;5MA;4HIGH FA;5VA
5LA;4LOW FA;5VA;5LA;4HIGH HA;5DA;5BA;4LOW HA;5DA;5BA;4HIGH KVA;5XVA;4LOW KVA;5XVA;4HIGH SUA;4LOW SUA
+19B0;3VOWELn VOWEL SHORTENER;5AA;5II;5U;5UU;5E;5AE;5O;5OA;5UE;5AY;5AAY;5UY;5OY;5OAY;5UEY;5IY;3my V
5NG;5N;5M;5K;5D;5B;3TONE MARK-1;4MARK-2;+19D0;3DIGIT ZERO;4ONE;4TWO;4THREE;4FOUR;4FIVE;4SIX;4SEVEN
4Ee;4NINE;3THAM DIGIT ONE;+19DE;3SIGN LAE;4LAEV;0KHMER u PATHAMASAT;2MUOY KOET;2PII KOET;2BEI KOET
2BUON KOET;2PRAM KOET;2PRAM-MUOY KOET;2PRAM-PII KOET;2PRAM-BEI KOET;2PRAM-BUON KOET;2DAP KOET
2DAP-MUOY KOET;2DAP-PII KOET;2DAP-BEI KOET;2DAP-BUON KOET;2DAP-PRAM KOET;2TUTEYASAT;2MUOY ROC
2PII ROC;2BEI ROC;2BUON ROC;2PRAM ROC;2PRAM-MUOY ROC;2PRAM-PII ROC;2PRAM-BEI ROC;2PRAM-BUON ROC
2DAP ROC;2DAP-MUOY ROC;2DAP-PII ROC;2DAP-BEI ROC;2DAP-BUON ROC;2DAP-PRAM ROC;0BUGINESE mKA;2GA;2NGA
2NGKA;2PA;2BA;2MA;2MPA;2TA;2DA;2NA;2NRA;2CA;2JA;2NYA;2NYCA;2YA;2RA;2LA;2VA;2SA;2A;2HA;1VOWELn I;3U
3E;3O;3AE;+1A1E;1PALLAWA;1END OF SECw;0TAI THAM mHIGH KA;4KHA;4KXA;3LOW KA;4KXA;4KHA;3NGA;3HIGH CA
4CHA;3LOW CA;4SA;4CHA;3NYA;3RATA;3HIGH RATHA;3DA;3LOW RATHA;3RANA;3HIGH TA;4THA;3LOW TA;4THA;3NA;3BA
3HIGH PA;4PHA;4FA;3LOW PA;4FA;4PHA;3MA;3LOW YA;3HIGH YA;3RA;3RUE;3LA;3LUE;3WA;3HIGH SHA;4SSA;4SA;4HA
3LLA;3A;3LOW HA;3I;3II;3U;3UU;3EE;3OO;3LAE;3GREAT SA;2CONSONANTn MEDIAL RA;5LA;4LA TANG LAI
2SIGN MAI KANG LAI;2CONSONANTn y NGA;4LOW PA;4HIGH RATHA OR LOW PA;4MA;4BA;4SA;+1A60;2SIGN SAKOT
2VOWELn A;4MAI SAT;4AA;4TALL AA;4I;4II;4UE;4UUE;4U;4UU;4O;4OAv;4OY;4E;4AE;4OO;4AI;4THAM AI;4OAj
2SIGN MAI KANG;3TONE-1;3TONE-2;3KHUEN TONE-3;4TONE-4;4TONE-5;3RA HAAM;3MAI SAM;3KHUEN-LUE KARAN
+1A7F;2COMBINqCRYPTOGRAMMIC DOT;2HORA DIGIT ZERO;4ONE;4TWO;4THREE;4FOUR;4FIVE;4SIX;4SEVEN;4Ee;4NINE
+1A90;2THAM DIGIT ZERO;4ONE;4TWO;4THREE;4FOUR;4FIVE;4SIX;4SEVEN;4Ee;4NINE;+1AA0;2SIGN WIANG
3WIANGWAAK;3SAWAN;3KEOW;3HOY;3DOKMAI;3REVERSED ROTATED RANA;3MAI YAMOK;3KAAN;3KAANKUU;3SATKAAN
3SATKAANKUU;3HANG;3CAANG;+1AB0;0COMBINqrD CIRCUMFLEX ACCENT;1DIAERESIS-RING;1INFINITY;1DOWNkf
1TRIPLE DOT;1X-Xv;1WIGGLY LINEv;1OPEN MARKv;1r OPEN MARKv;1Le CENTRALIZAw STROKEv
1STRONG CENTRALIZAw STROKEv;1PARENTHESESj;1r PARENTHESESj;1PARENTHESESv;2OVERLAY;1LATIN haWv
4TURNED Wv;1p PARENTHESISj p;1Re PARENTHESISj Re;1p PARENTHESISv p;1Re PARENTHESISv Re
1SQUARE BRACKETSj;1NUMBERnj;1INVERTED r ARCHj;1PLUSnj;1r PLUSnj;4BELOW;1TRIPLE ACUTE ACCENT
1LATIN haINSULAR G;5R;5T;+1B00;0BALINESEn ULU RICEM;3CANDRA;2CECEK;2SURANG;2BISAH;1mAKARA;3TEDUNG
2IKARA;3TEDUNG;2UKARA;3TEDUNG;2RA REPA;4TEDUNG;2LA LENGA;4TEDUNG;2EKARA;2AIKARA;2OKARA;3TEDUNG;2KA
3MAHAPRANA;2GA;3GORA;2NGA;2CA;3LACA;2JA;3JERA;2NYA;2TA LATIK;3MURDA MAHAPRANA;2DA MURDA ALPAPRANA
4MAHAPRANA;2NA RAMBAT;2TA;3TAWA;2DA;3MADU;2NA;2PA;3KAPAL;2BA;3KEMBANG;2MA;2YA;2RA;2LA;2WA;2SA SAGA
3SAPA;3;2HA;1SIGN REREKAN;1VOWELn TEDUNG;3ULU;4SARI;3SUKU;4ILUT;3RA REPA;5TEDUNG;3LA LENGA;5TEDUNG
3TALING;4REPA;4TEDUNG;4REPA TEDUNG;3PEPET;4TEDUNG;1ADEG ADEG;1mKAF SASAK;2KHOT SASAK;2TZIR SASAK
2EF SASAK;2VE SASAK;2ZAL SASAK;2ASYURA SASAK;2ARCHAIC JNYA;+1B50;1DIGIT ZERO;2ONE;2TWO;2THREE;2FOUR
2FIVE;2SIX;2SEVEN;2Ee;2NINE;1PANTI;1PAMADA;1WINDU;1CARIK PAMUNGKAH;2SIKI;2PAREREN;1PAMENENG
1MUSICAL u DONG;3DENG;3DUNG;3DANG;4SURANG;3DING;3DAENG;3DEUNG;3DAING;3DANG GEDE;3COMBINqTEGEH;4ENDEP
4KEMPUL;4KEMPLI;4JEGOGAN;4KEMPULbJEGOGAN;4KEMPLIbJEGOGAN;4BENDE;4GONG;3Re-HAND OPEN DUG;5DAG
4CLOSED TUK;5TAK;3p-HAND OPEN PANG;5PUNG;4CLOSED PLAK;5PLUK;4OPEN PING;1PANTI LANTANG
1PAMADA LANTANG;+1B80;0SUNDANESEn PANYECEK;2PANGLAYAR;2PANGWISAD;1mA;2I;2U;2AE;2O;2E;2EU;2KA;2QA;2GA
2NGA;2CA;2JA;2ZA;2NYA;2TA;2DA;2NA;2PA;2FA;2VA;2BA;2MA;2YA;2RA;2LA;2WA;2SA;2XA;2HA
1CONSONANTn PAMINGKAL;3PANYAKRA;3PANYIKU;1VOWELn PANGHULU;3PANYUKU;3PANAELAENG;3PANOLONG;3PAMEPET
3PANEULEUNG;1SIGN PAMAAEH;2VIRAMA;1CONSONANTn PASANGAN MA;4WA;1mKHA;2SYA;1DIGIT ZERO;2ONE;2TWO
2THREE;2FOUR;2FIVE;2SIX;2SEVEN;2Ee;2NINE;1AVAGRAHA;1mREU;2LEU;2BHA;2y K;3M;0BATAK mA;2SIMALUNGUN A
2HA;2SIMALUNGUN HA;2MANDAILqHA;2BA;2KARO BA;2PA;2SIMALUNGUN PA;2NA;2MANDAILqNA;2WA;2SIMALUNGUN WA
2PAKPAK WA;2GA;2SIMALUNGUN GA;2JA;2DA;2RA;2SIMALUNGUN RA;2MA;2SIMALUNGUN MA;2SOUTHERN TA
2NORTHERN TA;2SA;2SIMALUNGUN SA;2MANDAILqSA;2YA;2SIMALUNGUN YA;2NGA;2LA;2SIMALUNGUN LA;2NYA;2CA;2NDA
2MBA;2I;2U;1SIGN TOMPI;1VOWELn E;3PAKPAK E;3EE;3I;3KARO I;3O;3KARO O;3U;4FOR SIMALUNGUN SA
1CONSONANTn NG;3H;1PANGOLAT;1PANONGONAN;+1BFC;1u BINDU NA METEK;3PINARBORAS;3JUDUL;3PANGOLAT
0LEPCHA mKA;2KLA;2KHA;2GA;2GLA;2NGA;2CA;2CHA;2JA;2NYA;2TA;2THA;2DA;2NA;2PA;2PLA;2PHA;2FA;2FLA;2BA
2BLA;2MA;2MLA;2TSA;2TSHA;2DZA;2YA;2RA;2LA;2HA;2HLA;2VA;2SA;2SHA;2WA;2A;1SUBJOINED mYA;3RA;1VOWELn AA
3I;3O;3OO;3U;3UU;3E;1CONSONANTn K;3M;3L;3N;3P;3R;3T;3NYIN-DO;3KANG;1SIGN RAN;2NUKTA;+1C3B
1PUNCTUAw TA-ROL;2NYET THYOOM TA-ROL;2CER-WA;2TSHOOK CER-WA;3;1DIGIT ZERO;2ONE;2TWO;2THREE;2FOUR
2FIVE;2SIX;2SEVEN;2Ee;2NINE;+1C4D;1mTTA;2TTHA;2DDA;0OL CHIKI DIGIT ZERO;3ONE;3TWO;3THREE;3FOUR;3FIVE
3SIX;3SEVEN;3Ee;3NINE;2mLA;3AT;3AG;3ANG;3AL;3LAA;3AAK;3AAJ;3AAM;3AAW;3LI;3IS;3IH;3INY;3IR;3LU;3UC
3UD;3UNN;3UY;3LE;3EP;3EDD;3EN;3ERR;3LO;3OTT;3OB;3OV;3OH;2MU TTUDDAG;2GAAHLAA TTUDDAAG
2MU-GAAHLAA TTUDDAAG;2RELAA;2PHAARKAA;2AHAD;2PUNCTUAw MUCAAD;3r MUCAAD;0CYRILLIC haROUNDED VE
3LONG-LEGGED DE;3NARROW O;3WIDE ES;3TALL TE;3THREE-LEGGED TE;3TALL HARDn;4YAT;3UNBLENDED UK;+1C90
0GEORGIAN MTAVRULI daAN;4BAN;4GAN;4DON;4EN;4VIN;4ZEN;4TAN;4IN;4KAN;4LAS;4MAN;4NAR;4ON;4PAR;4ZHAR
4RAE;4SAN;4TAR;4UN;4PHAR;4KHAR;4GHAN;4QAR;4SHIN;4CHIN;4CAN;4JIL;4CIL;4CHAR;4XAN;4JHAN;4HAE;4HE;4HIE
4WE;4HAR;4HOE;4FI;4YN;4ELIFI;4TURNED GAN;4AIN;+1CBD;4AEN;4HARDn;4LABIALn
0SUNDANESE PUNCTUAw BINDU SURYA;3PANGLONG;3PURNAMA;3CAKRA;3LEU SATANGA;3KA SATANGA;3DA SATANGA
3BA SATANGA;+1CD0;0VEDIC TONE KARSHANA;2SHARA;2PRENKHA;1SIGN NIHSHVASA;2YAJURVEDIC MIDLINE SVARITA
1TONE YAJURVEDIC AGGRAVATED INDEPENDENT SVARITA;3INDEPENDENT SVARITA;3KATHAKA INDEPENDENT SVARITA
2CANDRAv;2YAJURVEDIC KATHAKA INDEPENDENT SVARITA SCHROEDER;2r SVARITA;2TRIPLE SVARITA
2KATHAKA ANUDATTA;2DOTv;2TWO DOTSv;2THREE DOTSv;2RIGVEDIC KASHMIRI INDEPENDENT SVARITA
2ATHARVAVEDIC INDEPENDENT SVARITA;1SIGN VISARGA SVARITA;3UDATTA;2REVERSED VISARGA UDATTA
2VISARGA ANUDATTA;2REVERSED VISARGA ANUDATTA;2VISARGA UDATTAbTAIL;3ANUDATTAbTAIL
2ANUSVARA ANTARGOMUKHA;3BAHIRGOMUKHA;3VAMAGOMUKHA;4WITH TAIL;2TIRYAK;2HEXIFORM LONG ANUSVARA
2LONG ANUSVARA;2RTHANG LONG ANUSVARA;2ANUSVARA UBHAYATO MUKHA;2ARDHAVISARGA;2ROTATED ARDHAVISARGA
1TONE CANDRAj;1SIGN JIHVAMULIYA;2UPADHMANIYA;2ATIKRAMA;1TONE RINGj;2r RINGj
1SIGN r ANUSVARA ANTARGOMUKHA;+1D00;0LATIN mhL dL A;4AE;1haTURNED AE;1mhL dL BARRED B;4C;4D;4ETH;4E
1haTURNED OPEN E;4I;1mhL dL J;4K;4LbSTROKE;4M;4REVERSED N;4O;4OPEN O;1haSIDEWAYS O;4OPEN O;4ObSTROKE
3TURNED OE;1mhL dL OU;1haTOP HALF O;3BOTTOM HALF O;1mhL dL P;4REVERSED R;4TURNED R;4T;4U
1haSIDEWAYS U;4DIAERESIZED U;4TURNED M;1mhL dL V;4W;4Z;4EZH;2VOICED LARYNGEAL SPIRANT;2AIN
0GREEK mhL dL GAMMA;4LAMDA;4PI;4RHO;4PSI;0CYRILLIC mhL dL EL;0MODIFIER mdL A;3AE;3B;3BARRED B;3D;3E
3REVERSED E;3G;3H;3I;3J;3K;3L;3M;3N;3REVERSED N;3O;3OU;3P;3R;3T;3U;3W;2hL A;3TURNED A;3ALPHA
3TURNED AE;3B;3D;3E;3SCHWA;3OPEN E;3TURNED OPEN E;3G;3TURNED I;3K;3M;3ENG;3O;3OPEN O;3TOP HALF O
3BOTTOM HALF O;3P;3T;3U;3SIDEWAYS U;3TURNED M;3V;3AIN;3BETA;3GREEK GAMMA;3DELTA;3GREEK PHI;3CHI
0LATIN SUBSCRIPT haI;4R;4U;4V;0GREEK SUBSCRIPT haBETA;4GAMMA;4RHO;4PHI;4CHI;0LATIN haUE
3BbMIDDLE TILDE;3DbMIDDLE TILDE;3FbMIDDLE TILDE;3MbMIDDLE TILDE;3NbMIDDLE TILDE;3PbMIDDLE TILDE
3RbMIDDLE TILDE;5FISHHOOKiMIDDLE TILDE;3SbMIDDLE TILDE;3TbMIDDLE TILDE;3ZbMIDDLE TILDE;3TURNED G
0MODIFIER mCYRILLIC EN;0LATIN haINSULAR G;3THbSTRIKETHROUGH;2daIbSTROKE;2mIOTAbSTROKE;3PbSTROKE
2daUbSTROKE;2mUPSILONbSTROKE;3BbPALATAL HOOK;3DbPALATAL HOOK;3FbPALATAL HOOK;3GbPALATAL HOOK
3KbPALATAL HOOK;3LbPALATAL HOOK;3MbPALATAL HOOK;3NbPALATAL HOOK;3PbPALATAL HOOK;3RbPALATAL HOOK
3SbPALATAL HOOK;3ESHbPALATAL HOOK;3VbPALATAL HOOK;3XbPALATAL HOOK;3ZbPALATAL HOOK;3AbRETROFLEX HOOK
3ALPHAbRETROFLEX HOOK;3DbHOOKiTAIL;3EbRETROFLEX HOOK;3OPEN EbRETROFLEX HOOK
3REVERSED OPEN EbRETROFLEX HOOK;3SCHWAbRETROFLEX HOOK;3IbRETROFLEX HOOK;3OPEN ObRETROFLEX HOOK
3ESHbRETROFLEX HOOK;3UbRETROFLEX HOOK;3EZHbRETROFLEX HOOK;0MODIFIER mhL TURNED ALPHA;3C;4WITH CURL
3ETH;3REVERSED OPEN E;3F;3DOTLESS JbSTROKE;3SCRIPT G;3TURNED H;3IbSTROKE;3IOTA;3dL I;5WITH STROKE
3JbCROSSED-TAIL;3LbRETROFLEX HOOK;5PALATAL HOOK;3dL L;3MbHOOK;3TURNED MbLONG LEG;3Nbp HOOK
5RETROFLEX HOOK;3dL N;3BARRED O;3PHI;3SbHOOK;3ESH;3TbPALATAL HOOK;3U BAR;3UPSILON;3dL U;3VbHOOK
3TURNED V;3Z;4WITH RETROFLEX HOOK;5CURL;3EZH;3THETA;0COMBINqDOTTED GRAVE ACCENT;2ACUTE ACCENT
1SNAKEv;1SUSPENSION MARK;1MACRON-ACUTE;1GRAVE-MACRON;1MACRON-GRAVE;1ACUTE-MACRON;1GRAVE-ACUTE-GRAVE
1ACUTE-GRAVE-ACUTE;1LATIN haRv;1BREVE-MACRON;1MACRON-BREVE;1r CIRCUMFLEXj;1OGONEKj;1ZIGZAGv;1ISv
1URj;1USj;1LATIN haFLATTENED OPEN Aj;4AE;4AO;4AV;4C CEDILLA;4INSULAR D;4ETH;4G;2mhL dL G;2haK;4L
2mhL dL L;5M;2haN;2mhL dL N;5R;2haR ROTUNDA;4S;4LONG S;4Z;4ALPHA;4B;4BETA;4SCHWA;4F
4Lbr MIDDLE TILDE;4ObLe CENTRALIZAw STROKE;4P;4ESH;4UbLe CENTRALIZAw STROKE;4W;4AbDIAERESIS
4ObDIAERESIS;4UbDIAERESIS;1UP TACKj;1KAVYKAj Re;3p;1DOTj p;1WIDE INVERTED BRIDGEv;1DOTv p
1DELEw MARK;1r INVERTED BREVEv;1ALMOST EQUAL TOv;1pfHEADj;1RefHEADiDOWNfHEADv;0LATIN daAbRqBELOW
1haAbRqBELOW;1daBbDOTj;1haBbDOTj;1daBbDOTv;1haBbDOTv;1daBbLINEv;1haBbLINEv;1daCbCEDILLAiACUTE
1haCbCEDILLAiACUTE;1daDbDOTj;1haDbDOTj;1daDbDOTv;1haDbDOTv;1daDbLINEv;1haDbLINEv;1daDbCEDILLA
1haDbCEDILLA;1daDbCIRCUMFLEXv;1haDbCIRCUMFLEXv;1daEbMACRONiGRAVE;1haEbMACRONiGRAVE;1daEbMACRONiACUTE
1haEbMACRONiACUTE;1daEbCIRCUMFLEXv;1haEbCIRCUMFLEXv;1daEbTILDEv;1haEbTILDEv;1daEbCEDILLAiBREVE
1haEbCEDILLAiBREVE;1daFbDOTj;1haFbDOTj;1daGbMACRON;1haGbMACRON;1daHbDOTj;1haHbDOTj;1daHbDOTv
1haHbDOTv;1daHbDIAERESIS;1haHbDIAERESIS;1daHbCEDILLA;1haHbCEDILLA;1daHbBREVEv;1haHbBREVEv
1daIbTILDEv;1haIbTILDEv;1daIbDIAERESISiACUTE;1haIbDIAERESISiACUTE;1daKbACUTE;1haKbACUTE;1daKbDOTv
1haKbDOTv;1daKbLINEv;1haKbLINEv;1daLbDOTv;1haLbDOTv;1daLbDOTviMACRON;1haLbDOTviMACRON;1daLbLINEv
1haLbLINEv;1daLbCIRCUMFLEXv;1haLbCIRCUMFLEXv;1daMbACUTE;1haMbACUTE;1daMbDOTj;1haMbDOTj;1daMbDOTv
1haMbDOTv;1daNbDOTj;1haNbDOTj;1daNbDOTv;1haNbDOTv;1daNbLINEv;1haNbLINEv;1daNbCIRCUMFLEXv
1haNbCIRCUMFLEXv;1daObTILDEiACUTE;1haObTILDEiACUTE;1daObTILDEiDIAERESIS;1haObTILDEiDIAERESIS
1daObMACRONiGRAVE;1haObMACRONiGRAVE;1daObMACRONiACUTE;1haObMACRONiACUTE;1daPbACUTE;1haPbACUTE
1daPbDOTj;1haPbDOTj;1daRbDOTj;1haRbDOTj;1daRbDOTv;1haRbDOTv;1daRbDOTviMACRON;1haRbDOTviMACRON
1daRbLINEv;1haRbLINEv;1daSbDOTj;1haSbDOTj;1daSbDOTv;1haSbDOTv;1daSbACUTEiDOTj;1haSbACUTEiDOTj
1daSbCARONiDOTj;1haSbCARONiDOTj;1daSbDOTviDOTj;1haSbDOTviDOTj;1daTbDOTj;1haTbDOTj;1daTbDOTv
1haTbDOTv;1daTbLINEv;1haTbLINEv;1daTbCIRCUMFLEXv;1haTbCIRCUMFLEXv;1daUbDIAERESISv;1haUbDIAERESISv
1daUbTILDEv;1haUbTILDEv;1daUbCIRCUMFLEXv;1haUbCIRCUMFLEXv;1daUbTILDEiACUTE;1haUbTILDEiACUTE
1daUbMACRONiDIAERESIS;1haUbMACRONiDIAERESIS;1daVbTILDE;1haVbTILDE;1daVbDOTv;1haVbDOTv;1daWbGRAVE
1haWbGRAVE;1daWbACUTE;1haWbACUTE;1daWbDIAERESIS;1haWbDIAERESIS;1daWbDOTj;1haWbDOTj;1daWbDOTv
1haWbDOTv;1daXbDOTj;1haXbDOTj;1daXbDIAERESIS;1haXbDIAERESIS;1daYbDOTj;1haYbDOTj;1daZbCIRCUMFLEX
1haZbCIRCUMFLEX;1daZbDOTv;1haZbDOTv;1daZbLINEv;1haZbLINEv;3HbLINEv;3TbDIAERESIS;3WbRINGj;3YbRINGj
3AbRe HALF RING;3LONG SbDOTj;6DIAGONAL STROKE;6HIGH STROKE;1daSHARP S;1haDELTA;1daAbDOTv;1haAbDOTv
1daAbHOOKj;1haAbHOOKj;1daAbCIRCUMFLEXiACUTE;1haAbCIRCUMFLEXiACUTE;1daAbCIRCUMFLEXiGRAVE
1haAbCIRCUMFLEXiGRAVE;1daAbCIRCUMFLEXiHOOKj;1haAbCIRCUMFLEXiHOOKj;1daAbCIRCUMFLEXiTILDE
1haAbCIRCUMFLEXiTILDE;1daAbCIRCUMFLEXiDOTv;1haAbCIRCUMFLEXiDOTv;1daAbBREVEiACUTE;1haAbBREVEiACUTE
1daAbBREVEiGRAVE;1haAbBREVEiGRAVE;1daAbBREVEiHOOKj;1haAbBREVEiHOOKj;1daAbBREVEiTILDE
1haAbBREVEiTILDE;1daAbBREVEiDOTv;1haAbBREVEiDOTv;1daEbDOTv;1haEbDOTv;1daEbHOOKj;1haEbHOOKj
1daEbTILDE;1haEbTILDE;1daEbCIRCUMFLEXiACUTE;1haEbCIRCUMFLEXiACUTE;1daEbCIRCUMFLEXiGRAVE
1haEbCIRCUMFLEXiGRAVE;1daEbCIRCUMFLEXiHOOKj;1haEbCIRCUMFLEXiHOOKj;1daEbCIRCUMFLEXiTILDE
1haEbCIRCUMFLEXiTILDE;1daEbCIRCUMFLEXiDOTv;1haEbCIRCUMFLEXiDOTv;1daIbHOOKj;1haIbHOOKj;1daIbDOTv
1haIbDOTv;1daObDOTv;1haObDOTv;1daObHOOKj;1haObHOOKj;1daObCIRCUMFLEXiACUTE;1haObCIRCUMFLEXiACUTE
1daObCIRCUMFLEXiGRAVE;1haObCIRCUMFLEXiGRAVE;1daObCIRCUMFLEXiHOOKj;1haObCIRCUMFLEXiHOOKj
1daObCIRCUMFLEXiTILDE;1haObCIRCUMFLEXiTILDE;1daObCIRCUMFLEXiDOTv;1haObCIRCUMFLEXiDOTv
1daObHORNiACUTE;1haObHORNiACUTE;1daObHORNiGRAVE;1haObHORNiGRAVE;1daObHORNiHOOKj;1haObHORNiHOOKj
1daObHORNiTILDE;1haObHORNiTILDE;1daObHORNiDOTv;1haObHORNiDOTv;1daUbDOTv;1haUbDOTv;1daUbHOOKj
1haUbHOOKj;1daUbHORNiACUTE;1haUbHORNiACUTE;1daUbHORNiGRAVE;1haUbHORNiGRAVE;1daUbHORNiHOOKj
1haUbHORNiHOOKj;1daUbHORNiTILDE;1haUbHORNiTILDE;1daUbHORNiDOTv;1haUbHORNiDOTv;1daYbGRAVE;1haYbGRAVE
1daYbDOTv;1haYbDOTv;1daYbHOOKj;1haYbHOOKj;1daYbTILDE;1haYbTILDE;1daMIDDLE-WELSH LL
1haMIDDLE-WELSH LL;1daMIDDLE-WELSH V;1haMIDDLE-WELSH V;1daYbLOOP;1haYbLOOP;0GREEK haALPHAbPSILI
5DASIA;5PSILIiVARIA;5DASIAiVARIA;5PSILIiOXIA;5DASIAiOXIA;5PSILIiPERISPOMENI;5DASIAiPERISPOMENI
1daALPHAbPSILI;5DASIA;5PSILIiVARIA;5DASIAiVARIA;5PSILIiOXIA;5DASIAiOXIA;5PSILIiPERISPOMENI
5DASIAiPERISPOMENI;1haEPSILONbPSILI;5DASIA;5PSILIiVARIA;5DASIAiVARIA;5PSILIiOXIA;5DASIAiOXIA;+1F18
1daEPSILONbPSILI;5DASIA;5PSILIiVARIA;5DASIAiVARIA;5PSILIiOXIA;5DASIAiOXIA;+1F20;1haETAbPSILI;5DASIA
5PSILIiVARIA;5DASIAiVARIA;5PSILIiOXIA;5DASIAiOXIA;5PSILIiPERISPOMENI;5DASIAiPERISPOMENI;1daETAbPSILI
5DASIA;5PSILIiVARIA;5DASIAiVARIA;5PSILIiOXIA;5DASIAiOXIA;5PSILIiPERISPOMENI;5DASIAiPERISPOMENI
1haIOTAbPSILI;5DASIA;5PSILIiVARIA;5DASIAiVARIA;5PSILIiOXIA;5DASIAiOXIA;5PSILIiPERISPOMENI
5DASIAiPERISPOMENI;1daIOTAbPSILI;5DASIA;5PSILIiVARIA;5DASIAiVARIA;5PSILIiOXIA;5DASIAiOXIA
5PSILIiPERISPOMENI;5DASIAiPERISPOMENI;1haOMICRONbPSILI;5DASIA;5PSILIiVARIA;5DASIAiVARIA;5PSILIiOXIA
5DASIAiOXIA;+1F48;1daOMICRONbPSILI;5DASIA;5PSILIiVARIA;5DASIAiVARIA;5PSILIiOXIA;5DASIAiOXIA;+1F50
1haUPSILONbPSILI;5DASIA;5PSILIiVARIA;5DASIAiVARIA;5PSILIiOXIA;5DASIAiOXIA;5PSILIiPERISPOMENI
5DASIAiPERISPOMENI;+1F59;1daUPSILONbDASIA;+1F5B;6AND VARIA;+1F5D;7OXIA;+1F5F;7PERISPOMENI
1haOMEGAbPSILI;5DASIA;5PSILIiVARIA;5DASIAiVARIA;5PSILIiOXIA;5DASIAiOXIA;5PSILIiPERISPOMENI
5DASIAiPERISPOMENI;1daOMEGAbPSILI;5DASIA;5PSILIiVARIA;5DASIAiVARIA;5PSILIiOXIA;5DASIAiOXIA
5PSILIiPERISPOMENI;5DASIAiPERISPOMENI;1haALPHAbVARIA;5OXIA;3EPSILONbVARIA;5OXIA;3ETAbVARIA;5OXIA
3IOTAbVARIA;5OXIA;3OMICRONbVARIA;5OXIA;3UPSILONbVARIA;5OXIA;3OMEGAbVARIA;5OXIA;+1F80
3ALPHAbPSILIiYPOGEGRAMMENI;5DASIAiYPOGEGRAMMENI;5PSILIiVARIAiYPOGEGRAMMENI
5DASIAiVARIAiYPOGEGRAMMENI;5PSILIiOXIAiYPOGEGRAMMENI;5DASIAiOXIAiYPOGEGRAMMENI
5PSILIiPERISPOMENIiYPOGEGRAMMENI;5DASIAiPERISPOMENIiYPOGEGRAMMENI;1daALPHAbPSILIiPROSGEGRAMMENI
5DASIAiPROSGEGRAMMENI;5PSILIiVARIAiPROSGEGRAMMENI;5DASIAiVARIAiPROSGEGRAMMENI
5PSILIiOXIAiPROSGEGRAMMENI;5DASIAiOXIAiPROSGEGRAMMENI;5PSILIiPERISPOMENIiPROSGEGRAMMENI
5DASIAiPERISPOMENIiPROSGEGRAMMENI;1haETAbPSILIiYPOGEGRAMMENI;5DASIAiYPOGEGRAMMENI
5PSILIiVARIAiYPOGEGRAMMENI;5DASIAiVARIAiYPOGEGRAMMENI;5PSILIiOXIAiYPOGEGRAMMENI
5DASIAiOXIAiYPOGEGRAMMENI;5PSILIiPERISPOMENIiYPOGEGRAMMENI;5DASIAiPERISPOMENIiYPOGEGRAMMENI
1daETAbPSILIiPROSGEGRAMMENI;5DASIAiPROSGEGRAMMENI;5PSILIiVARIAiPROSGEGRAMMENI
5DASIAiVARIAiPROSGEGRAMMENI;5PSILIiOXIAiPROSGEGRAMMENI;5DASIAiOXIAiPROSGEGRAMMENI
5PSILIiPERISPOMENIiPROSGEGRAMMENI;5DASIAiPERISPOMENIiPROSGEGRAMMENI;1haOMEGAbPSILIiYPOGEGRAMMENI
5DASIAiYPOGEGRAMMENI;5PSILIiVARIAiYPOGEGRAMMENI;5DASIAiVARIAiYPOGEGRAMMENI;5PSILIiOXIAiYPOGEGRAMMENI
5DASIAiOXIAiYPOGEGRAMMENI;5PSILIiPERISPOMENIiYPOGEGRAMMENI;5DASIAiPERISPOMENIiYPOGEGRAMMENI
1daOMEGAbPSILIiPROSGEGRAMMENI;5DASIAiPROSGEGRAMMENI;5PSILIiVARIAiPROSGEGRAMMENI
5DASIAiVARIAiPROSGEGRAMMENI;5PSILIiOXIAiPROSGEGRAMMENI;5DASIAiOXIAiPROSGEGRAMMENI
5PSILIiPERISPOMENIiPROSGEGRAMMENI;5DASIAiPERISPOMENIiPROSGEGRAMMENI;1haALPHAbVRACHY;5MACRON
5VARIAiYPOGEGRAMMENI;5YPOGEGRAMMENI;5OXIAiYPOGEGRAMMENI;+1FB6;5PERISPOMENI;6AND YPOGEGRAMMENI
1daALPHAbVRACHY;5MACRON;5VARIA;5OXIA;5PROSGEGRAMMENI;1KORONIS;1PROSGEGRAMMENI;1PSILI;1PERISPOMENI
1DIALYTIKAiPERISPOMENI;1haETAbVARIAiYPOGEGRAMMENI;5YPOGEGRAMMENI;5OXIAiYPOGEGRAMMENI;+1FC6
5PERISPOMENI;6AND YPOGEGRAMMENI;1daEPSILONbVARIA;5OXIA;3ETAbVARIA;5OXIA;5PROSGEGRAMMENI;1PSILIiVARIA
3OXIA;3PERISPOMENI;1haIOTAbVRACHY;5MACRON;5DIALYTIKAiVARIA;7OXIA;+1FD6;5PERISPOMENI
5DIALYTIKAiPERISPOMENI;1daIOTAbVRACHY;5MACRON;5VARIA;5OXIA;+1FDD;1DASIAiVARIA;3OXIA;3PERISPOMENI
1haUPSILONbVRACHY;5MACRON;5DIALYTIKAiVARIA;7OXIA;3RHObPSILI;5DASIA;3UPSILONbPERISPOMENI
5DIALYTIKAiPERISPOMENI;1daUPSILONbVRACHY;5MACRON;5VARIA;5OXIA;3RHObDASIA;1DIALYTIKAiVARIA;3OXIA
1VARIA;+1FF2;1haOMEGAbVARIAiYPOGEGRAMMENI;5YPOGEGRAMMENI;5OXIAiYPOGEGRAMMENI;+1FF6;5PERISPOMENI
6AND YPOGEGRAMMENI;1daOMICRONbVARIA;5OXIA;3OMEGAbVARIA;5OXIA;5PROSGEGRAMMENI;1OXIA;1DASIA"

end Parlance.Unicode
