/-!
# Names of pictures

The names of game pieces, pictures and geometric shapes, and of all that follows them.
`CharacterName` says how the table is written.
-/

namespace Parlance.Unicode

/-- The names of the characters from 1F000 on. -/
def pictureNames : String := "
+1F000;0MAHJONG TILE EAST WIND;2SOUTH WIND;2WEST WIND;2NORTH WIND;2RED DRAGON;2GREEN DRAGON
2WHITE DRAGON;2ONE OF CHARACTERS;2TWO OF CHARACTERS;2THREE OF CHARACTERS;2FOUR OF CHARACTERS
2FIVE OF CHARACTERS;2SIX OF CHARACTERS;2SEVEN OF CHARACTERS;2Ee OF CHARACTERS;2NINE OF CHARACTERS
2ONE OF BAMBOOS;2TWO OF BAMBOOS;2THREE OF BAMBOOS;2FOUR OF BAMBOOS;2FIVE OF BAMBOOS;2SIX OF BAMBOOS
2SEVEN OF BAMBOOS;2Ee OF BAMBOOS;2NINE OF BAMBOOS;2ONE OF CIRCLES;2TWO OF CIRCLES;2THREE OF CIRCLES
2FOUR OF CIRCLES;2FIVE OF CIRCLES;2SIX OF CIRCLES;2SEVEN OF CIRCLES;2Ee OF CIRCLES;2NINE OF CIRCLES
2PLUM;2ORCHID;2BAMBOO;2CHRYSANTHEMUM;2SPRING;2SUMMER;2AUTUMN;2WINTER;2JOKER;2BACK;+1F030
0DOMINO TILE t BACK;2t-00-00;2t-00-01;2t-00-02;2t-00-03;2t-00-04;2t-00-05;2t-00-06;2t-01-00;2t-01-01
2t-01-02;2t-01-03;2t-01-04;2t-01-05;2t-01-06;2t-02-00;2t-02-01;2t-02-02;2t-02-03;2t-02-04;2t-02-05
2t-02-06;2t-03-00;2t-03-01;2t-03-02;2t-03-03;2t-03-04;2t-03-05;2t-03-06;2t-04-00;2t-04-01;2t-04-02
2t-04-03;2t-04-04;2t-04-05;2t-04-06;2t-05-00;2t-05-01;2t-05-02;2t-05-03;2t-05-04;2t-05-05;2t-05-06
2t-06-00;2t-06-01;2t-06-02;2t-06-03;2t-06-04;2t-06-05;2t-06-06;2s BACK;2s-00-00;2s-00-01;2s-00-02
2s-00-03;2s-00-04;2s-00-05;2s-00-06;2s-01-00;2s-01-01;2s-01-02;2s-01-03;2s-01-04;2s-01-05;2s-01-06
2s-02-00;2s-02-01;2s-02-02;2s-02-03;2s-02-04;2s-02-05;2s-02-06;2s-03-00;2s-03-01;2s-03-02;2s-03-03
2s-03-04;2s-03-05;2s-03-06;2s-04-00;2s-04-01;2s-04-02;2s-04-03;2s-04-04;2s-04-05;2s-04-06;2s-05-00
2s-05-01;2s-05-02;2s-05-03;2s-05-04;2s-05-05;2s-05-06;2s-06-00;2s-06-01;2s-06-02;2s-06-03;2s-06-04
2s-06-05;2s-06-06;+1F0A0;0PLAYqCARD BACK;2ACE OF SPADES;2TWO OF SPADES;2THREE OF SPADES
2FOUR OF SPADES;2FIVE OF SPADES;2SIX OF SPADES;2SEVEN OF SPADES;2Ee OF SPADES;2NINE OF SPADES
2TEN OF SPADES;2JACK OF SPADES;2KNe OF SPADES;2QUEEN OF SPADES;2KqOF SPADES;+1F0B1;2ACE OF HEARTS
2TWO OF HEARTS;2THREE OF HEARTS;2FOUR OF HEARTS;2FIVE OF HEARTS;2SIX OF HEARTS;2SEVEN OF HEARTS
2Ee OF HEARTS;2NINE OF HEARTS;2TEN OF HEARTS;2JACK OF HEARTS;2KNe OF HEARTS;2QUEEN OF HEARTS
2KqOF HEARTS;2RED JOKER;+1F0C1;2ACE OF DIAMONDS;2TWO OF DIAMONDS;2THREE OF DIAMONDS
2FOUR OF DIAMONDS;2FIVE OF DIAMONDS;2SIX OF DIAMONDS;2SEVEN OF DIAMONDS;2Ee OF DIAMONDS
2NINE OF DIAMONDS;2TEN OF DIAMONDS;2JACK OF DIAMONDS;2KNe OF DIAMONDS;2QUEEN OF DIAMONDS
2KqOF DIAMONDS;2BLACK JOKER;+1F0D1;2ACE OF CLUBS;2TWO OF CLUBS;2THREE OF CLUBS;2FOUR OF CLUBS
2FIVE OF CLUBS;2SIX OF CLUBS;2SEVEN OF CLUBS;2Ee OF CLUBS;2NINE OF CLUBS;2TEN OF CLUBS
2JACK OF CLUBS;2KNe OF CLUBS;2QUEEN OF CLUBS;2KqOF CLUBS;2WHITE JOKER;2FOOL;2TRUMP-1;2TRUMP-2
2TRUMP-3;2TRUMP-4;2TRUMP-5;2TRUMP-6;2TRUMP-7;2TRUMP-8;2TRUMP-9;2TRUMP-10;2TRUMP-11;2TRUMP-12
2TRUMP-13;2TRUMP-14;2TRUMP-15;2TRUMP-16;2TRUMP-17;2TRUMP-18;2TRUMP-19;2TRUMP-20;2TRUMP-21;+1F100
0DIGIT ZERO FULL STOP;2COMMA;1ONE COMMA;1TWO COMMA;1THREE COMMA;1FOUR COMMA;1FIVE COMMA;1SIX COMMA
1SEVEN COMMA;1Ee COMMA;1NINE COMMA;0DINGBAT CIRCLED SANS-SERIF DIGIT ZERO
1NEGATIVE CIRCLED SANS-SERIF DIGIT ZERO;0CIRCLED ZERObSLASH;1ANTICLOCKWISEf
1DOLLARnbOVERLAID BACKSLASH;0PARENTHESIZED LATIN daA;4B;4C;4D;4E;4F;4G;4H;4I;4J;4K;4L;4M;4N;4O;4P;4Q
4R;4S;4T;4U;4V;4W;4X;4Y;4Z;0TORTOISE SHELL BRACKETED LATIN daS;0CIRCLED ITALIC LATIN daC;5R;1CD;1WZ
0COPYp u;0SQUARED LATIN daA;4B;4C;4D;4E;4F;4G;4H;4I;4J;4K;4L;4M;4N;4O;4P;4Q;4R;4S;4T;4U;4V;4W;4X;4Y
4Z;1HV;1MV;1SD;1SS;1PPV;1WC;0NEGATIVE CIRCLED LATIN daA;5B;5C;5D;5E;5F;5G;5H;5I;5J;5K;5L;5M;5N;5O;5P
5Q;5R;5S;5T;5U;5V;5W;5X;5Y;5Z;0RAISED MCn;1MDn;1MRn;0CIRCLED CC;1CbOVERLAID BACKSLASH;1HUMAN FIGURE
0NEGATIVE SQUARED LATIN daA;5B;5C;5D;5E;5F;5G;5H;5I;5J;5K;5L;5M;5N;5O;5P;5Q;5R;5S;5T;5U;5V;5W;5X;5Y
5Z;0CROSSED NEGATIVE SQUARED LATIN daP;0NEGATIVE SQUARED IC;2PA;2SA;2AB;2WC;0SQUARE DJ;0SQUARED CL
1COOL;1FREE;1ID;1NEW;1NG;1OK;1SOS;1UPbEXCLAMAw MARK;1VS;1THREE D;1SECOND SCREEN;1TWO K;1FOUR K;1Ee K
1FIVE POINT ONE;1SEVEN POINT ONE;1TWENTY-TWO POINT TWO;1SIXTY P;1ONE HUNDRED TWENTY P;1LATIN haD;1HC
1HDR;1HI-RES;1LOSSLESS;1SHV;1UHD;1VOD;0MASK WORK u;+1F1E6;0REGIONAL INDICATOR SYMBOaA;4B;4C;4D;4E;4F
4G;4H;4I;4J;4K;4L;4M;4N;4O;4P;4Q;4R;4S;4T;4U;4V;4W;4X;4Y;4Z;0SQUARE HIRAGANA HOKA
0SQUARED KATAKANA KOKO;2SA;+1F210;1CJK UNIFIED IDEOGRAPH-624B;3IDEOGRAPH-5B57;3IDEOGRAPH-53CC
1KATAKANA DE;1CJK UNIFIED IDEOGRAPH-4E8C;3IDEOGRAPH-591A;3IDEOGRAPH-89E3;3IDEOGRAPH-5929
3IDEOGRAPH-4EA4;3IDEOGRAPH-6620;3IDEOGRAPH-7121;3IDEOGRAPH-6599;3IDEOGRAPH-524D;3IDEOGRAPH-5F8C
3IDEOGRAPH-518D;3IDEOGRAPH-65B0;3IDEOGRAPH-521D;3IDEOGRAPH-7D42;3IDEOGRAPH-751F;3IDEOGRAPH-8CA9
3IDEOGRAPH-58F0;3IDEOGRAPH-5439;3IDEOGRAPH-6F14;3IDEOGRAPH-6295;3IDEOGRAPH-6355;3IDEOGRAPH-4E00
3IDEOGRAPH-4E09;3IDEOGRAPH-904A;3IDEOGRAPH-5DE6;3IDEOGRAPH-4E2D;3IDEOGRAPH-53F3;3IDEOGRAPH-6307
3IDEOGRAPH-8D70;3IDEOGRAPH-6253;3IDEOGRAPH-7981;3IDEOGRAPH-7A7A;3IDEOGRAPH-5408;3IDEOGRAPH-6E80
3IDEOGRAPH-6709;3IDEOGRAPH-6708;3IDEOGRAPH-7533;3IDEOGRAPH-5272;3IDEOGRAPH-55B6;3IDEOGRAPH-914D
+1F240;0TORTOISE SHELL BRACKETED CJK UNIFIED IDEOGRAPH-672C;5IDEOGRAPH-4E09;5IDEOGRAPH-4E8C
5IDEOGRAPH-5B89;5IDEOGRAPH-70B9;5IDEOGRAPH-6253;5IDEOGRAPH-76D7;5IDEOGRAPH-52DD;5IDEOGRAPH-6557
+1F250;0CIRCLED IDEOGRAPH ADVANTAGE;2ACCEPT;+1F260;0ROUNDED u FOR FU;3LU;3SHOU;3XI;3SHUANGXI;3CAI
+1F300;0CYCLONE;0FOGGY;0CLOSED UMBRELLA;0NebSTARS;0SUNRISE OVER MOUNTAINS;1;0CITYSCAPE AT DUSK
0SUNSET OVER BUILDINGS;0RAINBOW;0BRIDGE AT Ne;0WATER WAVE;0VOLCANO;0MILKY WAY
0EARTH GLOBE EUROPE-AFRICA;2AMERICAS;2ASIA-AUSTRALIA;0GLOBEbMERIDIANS;0NEW MOON u
0WAXqCRESCENT MOON u;0FIRST QUARTER MOON u;0WAXqGIBBOUS MOON u;0FULL MOON u;0WANqGIBBOUS MOON u
0LAST QUARTER MOON u;0WANqCRESCENT MOON u;0CRESCENT MOON;0NEW MOONbFACE;0FIRST QUARTER MOONbFACE
0LAST QUARTER MOONbFACE;0FULL MOONbFACE;0SUNbFACE;0GLOWqSTAR;0SHOOTqSTAR;0THERMOMETER;0BLACK DROPLET
0WHITE SUN;2WITH hL CLOUD;2BEHIND CLOUD;4WITH RAIN;0CLOUDbRAIN;2SNOW;2LeNING;2TORNADO;0FOG
0WIND BLOWqFACE;0HOT DOG;0TACO;0BURRITO;0CHESTNUT;0SEEDLING;0EVERGREEN TREE;0DECIDUOUS TREE
0PALM TREE;0CACTUS;0HOT PEPPER;0TULIP;0CHERRY BLOSSOM;0ROSE;0HIBISCUS;0SUNFLOWER;0BLOSSOM
0EAR OF MAIZE;2RICE;0HERB;0FOUR LEAF CLOVER;0MAPLE LEAF;0FALLEN LEAF;0LEAF FLUTTERqIN WIND;0MUSHROOM
0TOMATO;0AUBERGINE;0GRAPES;0MELON;0WATERMELON;0TANGERINE;0LEMON;0BANANA;0PINEAPPLE;0RED APPLE
0GREEN APPLE;0PEAR;0PEACH;0CHERRIES;0STRAWBERRY;0HAMBURGER;0SLICE OF PIZZA;0MEAT ON BONE
0POULTRY LEG;0RICE CRACKER;1BALL;0COOKED RICE;0CURRYiRICE;0STEAMqBOWL;0SPAGHETTI;0BREAD
0FRENCH FRIES;0ROASTED SWEET POTATO;0DANGO;0ODEN;0SUSHI;0FRIED SHRIMP;0FISH CAKEbSWIRL DESIGN
0SOFT ICE CREAM;0SHAVED ICE;0ICE CREAM;0DOUGHNUT;0COOKIE;0CHOCOLATE BAR;0CANDY;0LOLLIPOP;0CUSTARD
0HONEY POT;0SHORTCAKE;0BENTO BOX;0POT OF FOOD;0COOKING;0FORKiKNIFE;0TEACUP WITHOUT HANDLE
0SAKE BOTTLEiCUP;0WINE GLASS;0COCKTAIL GLASS;0TROPICAL DRINK;0BEER MUG;0CLINKqBEER MUGS;0BABY BOTTLE
0FORKiKNIFEbPLATE;0BOTTLEbPOPPqCORK;0POPCORN;0RIBBON;0WRAPPED PRESENT;0BIRTHDAY CAKE;0JACK-O-LANTERN
0CHRISTMAS TREE;0FATHER CHRISTMAS;0FIREWORKS;0FIREWORK SPARKLER;0BALLOON;0PARTY POPPER
0CONFETTI BALL;0TANABATA TREE;0CROSSED FLAGS;0PINE DECORAw;0JAPANESE DOLLS;0CARP STREAMER
0WIND CHIME;0MOON VIEWqCEREMONY;0SCHOOL SATCHEL;0GRADUAw CAP;0HEARTbTIP ON THE p;0BOUQUET OF FLOWERS
0MILITARY MEDAL;0REMINDER RIBBON;0MUSICAL KEYBOARDbJACKS;0STUDIO MICROPHONE;0LEVEL SLIDER
0CONTROL KNOBS;0BEAMED ASCENDqMUSICAL NOTES;1DESCENDqMUSICAL NOTES;0FILM FRAMES;0ADMISSION TICKETS
0CAROUSEL HORSE;0FERRIS WHEEL;0ROLLER COASTER;0FISHqPOLEiFISH;0MICROPHONE;0MOVIE CAMERA;0CINEMA
0HEADPHONE;0ARTIST PALETTE;0TOP HAT;0CIRCUS TENT;0TICKET;0CLAPPER BOARD;0PERFORMqARTS;0VIDEO GAME
0DIRECT HIT;0SLOT MACHINE;0BILLIARDS;0GAME DIE;0BOWLING;0FLOWER PLAYqCARDS;0MUSICAL NOTE
0MULTIPLE MUSICAL NOTES;0SAXOPHONE;0GUITAR;0MUSICAL KEYBOARD;0TRUMPET;0VIOLIN;0MUSICAL SCORE
0RUNNqSHIRTbSASH;0TENNIS RACQUETiBALL;0SKIiSKI BOOT;0BASKETBALLiHOOP;0CHEQUERED FLAG;0SNOWBOARDER
0RUNNER;0SURFER;0SPORTS MEDAL;0TROPHY;0HORSE RACING;0AMERICAN FOOTBALL;0RUGBY FOOTBALL;0SWIMMER
0WEe LIFTER;0GOLFER;0RACqMOTORCYCLE;1CAR;0CRICKET BATiBALL;0VOLLEYBALL;0FIELD HOCKEY STICKiBALL
0ICE HOCKEY STICKiPUCK;0TABLE TENNIS PADDLEiBALL;0SNOW CAPPED MOUNTAIN;0CAMPING;0BEACHbUMBRELLA
0BUILDqCONSTRUCw;0HOUSE BUILDINGS;0CITYSCAPE;0DERELICT HOUSE BUILDING;0CLASSICAL BUILDING;0DESERT
1ISLAND;0NAwAL PARK;0STADIUM;0HOUSE BUILDING;1WITH GARDEN;0OFFICE BUILDING;0JAPANESE POST OFFICE
0EUROPEAN POST OFFICE;0HOSPITAL;0BANK;0AUTOMATED TELLER MACHINE;0HOTEL;0LOVE HOTEL
0CONVENIENCE STORE;0SCHOOL;0DEPARTMENT STORE;0FACTORY;0IZAKAYA LANTERN;0JAPANESE CASTLE
0EUROPEAN CASTLE;0WHITE PENNANT;0BLACK PENNANT;0WAVqWHITE FLAG;1BLACK FLAG;0ROSETTE;0BLACK ROSETTE
0LABEL;0BADMINTON RACQUETiSHUTTLECOCK;0BOW ANDf;0AMPHORA;0EMOJI MODIFIER FITZPATRICK TYPE-1-2
3TYPE-3;3TYPE-4;3TYPE-5;3TYPE-6;0RAT;0MOUSE;0OX;0WATER BUFFALO;0COW;0TIGER;0LEOPARD;0RABBIT;0CAT
0DRAGON;0CROCODILE;0WHALE;0SNAIL;0SNAKE;0HORSE;0RAM;0GOAT;0SHEEP;0MONKEY;0ROOSTER;0CHICKEN;0DOG;0PIG
0BOAR;0ELEPHANT;0OCTOPUS;0SPIRAL SHELL;0BUG;0ANT;0HONEYBEE;0LADY BEETLE;0FISH;0TROPICAL FISH
0BLOWFISH;0TURTLE;0HATCHqCHICK;0BABY CHICK;0FRONT-FACqBABY CHICK;0BIRD;0PENGUIN;0KOALA;0POODLE
0DROMEDARY CAMEL;0BACTRIAN CAMEL;0DOLPHIN;0MOUSE FACE;0COW FACE;0TIGER FACE;0RABBIT FACE;0CAT FACE
0DRAGON FACE;0SPOUTqWHALE;0HORSE FACE;0MONKEY FACE;0DOG FACE;0PIG FACE;0FROG FACE;0HAMSTER FACE
0WOLF FACE;0BEAR FACE;0PANDA FACE;0PIG NOSE;0PAW PRINTS;0CHIPMUNK;0EYES;0EYE;0EAR;0NOSE;0MOUTH
0TONGUE;0WHITE UP POINTqBACKHAND INDEX;1DOWN POINTqBACKHAND INDEX;1p POINTqBACKHAND INDEX
1Re POINTqBACKHAND INDEX;0FISTED HANDn;0WAVqHANDn;0OK HANDn;0THUMBS UPn;1DOWNn;0CLAPPqHANDSn
0OPEN HANDSn;0CROWN;0WOMANS HAT;0EYEGLASSES;0NECKTIE;0T-SHIRT;0JEANS;0DRESS;0KIMONO;0BIKINI
0WOMANS CLOTHES;0PURSE;0HANDBAG;0POUCH;0MANS SHOE;0ATHLETIC SHOE;0HIGH-HEELED SHOE;0WOMANS SANDAL
1BOOTS;0FOOTPRINTS;0BUST IN SILHOUETTE;0BUSTS IN SILHOUETTE;0BOY;0GIRL;0MAN;0WOMAN;0FAMILY
0MANiWOMAN HOLDqHANDS;0TWO MEN HOLDqHANDS;1WOMEN HOLDqHANDS;0POLICE OFFICER;0WOMANbBUNNY EARS
0BRIDEbVEIL;0PERSONbBLOND HAIR;0MANbGUA PI MAO;2TURBAN;0OLDER MAN;1WOMAN;0BABY;0CONSTRUCw WORKER
0PRINCESS;0JAPANESE OGRE;1GOBLIN;0GHOST;0BABY ANGEL;0EXTRATERRESTRIAL ALIEN;0ALIEN MONSTER;0IMP
0SKULL;0INFORMAw DESK PERSON;0GUARDSMAN;0DANCER;0LIPSTICK;0NAIL POLISH;0FACE MASSAGE;0HAIRCUT
0BARBER POLE;0SYRINGE;0PILL;0KISS MARK;0LOVE LETTER;0RING;0GEM STONE;0KISS;0BOUQUET;0COUPLEbHEART
0WEDDING;0BEATqHEART;0BROKEN HEART;0TWO HEARTS;0SPARKLqHEART;0GROWqHEART;0HEARTbARROW;0BLUE HEART
0GREEN HEART;0YELLOW HEART;0PURPLE HEART;0HEARTbRIBBON;0REVOLVqHEARTS;0HEART DECORAw
0DIAMOND SHAPEbA DOT INSIDE;0ELECTRIC Le BULB;0ANGER u;0BOMB;0SLEEPqu;0COLLISION u;0SPLASHqSWEAT u
0DROPLET;0DASH u;0PILE OF POO;0FLEXED BICEPS;0DIZZY u;0SPEECH BALLOON;0THOUGHT BALLOON;0WHITE FLOWER
0HUNDRED POINTS u;0MONEY BAG;0CURRENCY EXCHANGE;0HEAVY DOLLARn;0CREDIT CARD;0BANKNOTEbYENn;2DOLLARn
2EUROn;2POUNDn;0MONEYbWINGS;0CHARTbUPk TRENDiYENn;0SEAT;0PERSONAL COMPUTER;0BRIEFCASE;0MINIDISC
0FLOPPY DISK;0OPTICAL DISC;0DVD;0FILE FOLDER;0OPEN FILE FOLDER;0PAGEbCURL;1FACqUP;0CALENDAR
0TEAR-OFF CALENDAR;0CARD INDEX;0CHARTbUPk TREND;2DOWNk TREND;0BAR CHART;0CLIPBOARD;0PUSHPIN
0ROUND PUSHPIN;0PAPERCLIP;0STRAe RULER;0TRIANGULAR RULER;0BOOKMARK TABS;0LEDGER;0NOTEBOOK
1WITH DECORATIVE COVER;0CLOSED BOOK;0OPEN BOOK;0GREEN BOOK;0BLUE BOOK;0ORANGE BOOK;0BOOKS
0NAME BADGE;0SCROLL;0MEMO;0TELEPHONE RECEIVER;0PAGER;0FAX MACHINE;0SATELLITE ANTENNA
0PUBLIC ADDRESS LOUDSPEAKER;0CHEERqMEGAPHONE;0OUTBOX TRAY;0INBOX TRAY;0PACKAGE;0E-MAIL u
0INCOMqENVELOPE;0ENVELOPEbDOWNkfj;0CLOSED MAILBOXbLOWERED FLAG;3RAISED FLAG
0OPEN MAILBOXbRAISED FLAG;3LOWERED FLAG;0POSTBOX;0POSTAL HORN;0NEWSPAPER;0MOBILE PHONE
2WITH Rekf AT p;0VIBRAw MODE;0MOBILE PHONE OFF;0NO MOBILE PHONES;0ANTENNAbBARS;0CAMERA;1WITH FLASH
0VIDEO CAMERA;0TELEVISION;0RADIO;0VIDEOCASSETTE;0FILM PROJECTOR;0PORTABLE STEREO;0PRAYER BEADS
0TWISTED RekfS;0CLOCKWISE Rekipk OPEN CIRCLEfS;7WITH CIRCLED ONE OVERLAY;1DOWNkiUPk OPEN CIRCLEfS
0ANTICLOCKWISE DOWNkiUPk OPEN CIRCLEfS;0LOW BReNESS u;0HIGH BReNESS u;0SPEAKERbCANCELLAw STROKE;1
1WITH ONE SOUND WAVE;2THREE SOUND WAVES;0BATTERY;0ELECTRIC PLUG;0p-POINTqMAGNIFYqGLASS
0Re-POINTqMAGNIFYqGLASS;0LOCKbINK PEN;0CLOSED LOCKbKEY;0KEY;0LOCK;0OPEN LOCK;0BELL
1WITH CANCELLAw STROKE;0BOOKMARK;0LINK u;0RADIO BUTTON;0BACKbpkfj;0ENDbpkfj;0ONbEXCLAMAw MARKbp Refj
0SOONbRekfj;0TOPbUPkfj;0NO ONE UNDER EeEEN u;0KEYCAP TEN;0INPUT u FOR LATIN dL LETTERS;4hL LETTERS
3NUMBERS;3uS;3LATIN LETTERS;0FIRE;0ELECTRIC TORCH;0WRENCH;0HAMMER;0NUTiBOLT;0HOCHO;0PISTOL
0MICROSCOPE;0TELESCOPE;0CRYSTAL BALL;0SIX POINTED STARbMIDDLE DOT;0JAPANESE u FOR BEGINNER
0TRIDENT EMBLEM;0BLACK SQUARE BUTTON;0WHITE SQUARE BUTTON;0LARGE RED CIRCLE;1BLUE CIRCLE
1ORANGE DIAMOND;1BLUE DIAMOND;0hL ORANGE DIAMOND;1BLUE DIAMOND;0UP-POINTqRED x;0DOWN-POINTqRED x
0UP-POINTqhL RED x;0DOWN-POINTqhL RED x;0LOWER Re SHADOWED WHITE CIRCLE
0UPPER Re SHADOWED WHITE CIRCLE;0CIRCLED CROSS POMMEE;0CROSS POMMEEbHALF-CIRCLEv;2
0NOTCHED p SEMICIRCLEbTHREE DOTS;1Re SEMICIRCLEbTHREE DOTS;0u FOR MARKS CHAPTER;0WHITE LATIN CROSS
0HEAVY LATIN CROSS;0CELTIC CROSS;0OM u;0DOVE OF PEACE;0KAABA;0MOSQUE;0SYNAGOGUE
0MENORAHbNINE BRANCHES;0BOWL OF HYGIEIA;0CLOCK FACE ONE OCLOCK;2TWO OCLOCK;2THREE OCLOCK
2FOUR OCLOCK;2FIVE OCLOCK;2SIX OCLOCK;2SEVEN OCLOCK;2Ee OCLOCK;2NINE OCLOCK;2TEN OCLOCK
2ELEVEN OCLOCK;2TWELVE OCLOCK;2ONE-THIRTY;2TWO-THIRTY;2THREE-THIRTY;2FOUR-THIRTY;2FIVE-THIRTY
2SIX-THIRTY;2SEVEN-THIRTY;2Ee-THIRTY;2NINE-THIRTY;2TEN-THIRTY;2ELEVEN-THIRTY;2TWELVE-THIRTY
0Re SPEAKER;2WITH ONE SOUND WAVE;3THREE SOUND WAVES;0BULLHORN;1WITH SOUND WAVES;0RINGqBELL;0BOOK
0CANDLE;0MANTELPIECE CLOCK;0BLACK SKULLiCROSSBONES;0NO PIRACY;0HOLE;0MAN IN BUSINESS SUIT LEVITATING
0SLEUTH OR SPY;0DARK SUNGLASSES;0SPIDER;1WEB;0JOYSTICK;0MAN DANCING;0p HAND TELEPHONE RECEIVER
0TELEPHONE RECEIVERbPAGE;0Re HAND TELEPHONE RECEIVER;0WHITE TOUCHTONE TELEPHONE
0BLACK TOUCHTONE TELEPHONE;0TELEPHONE ON TOP OF MODEM;0CLAMSHELL MOBILE PHONE;0BACK OF ENVELOPE
0STAMPED ENVELOPE;0ENVELOPEbLeNING;0FLYqENVELOPE;0PEN OVER STAMPED ENVELOPE;0LINKED PAPERCLIPS
0BLACK PUSHPIN;0LOWER p PENCIL;2BALLPOINT PEN;2FOUNTAIN PEN;2PAINTBRUSH;2CRAYON;0p WRITqHAND
0TURNED OK HANDn;0RAISED HANDbFINGERS SPLAYED;0REVERSED RAISED HANDbFINGERS SPLAYED;1THUMBS UPn
2DOWNn;1VICTORY HAND;1HANDbMIDDLE FINGER EXTENDED;0RAISED HANDbPART BETWEEN MIDDLEiRqFINGERS
0WHITE DOWN POINTqp HAND INDEX;0SIDEWAYS WHITE p POINTqINDEX;2Re POINTqINDEX;1BLACK p POINTqINDEX
2Re POINTqINDEX;0BLACK p POINTqBACKHAND INDEX;1Re POINTqBACKHAND INDEX
0SIDEWAYS WHITE UP POINTqINDEX;2DOWN POINTqINDEX;1BLACK UP POINTqINDEX;2DOWN POINTqINDEX
0BLACK UP POINTqBACKHAND INDEX;1DOWN POINTqBACKHAND INDEX;1HEART;0DESKTOP COMPUTER;0KEYBOARDiMOUSE
0THREE NETWORKED COMPUTERS;0PRINTER;0POCKET CALCULATOR;0BLACK HARD SHELL FLOPPY DISK
0WHITE HARD SHELL FLOPPY DISK;0SOFT SHELL FLOPPY DISK;0TAPE CARTRIDGE;0WIRED KEYBOARD
0ONE BUTTON MOUSE;0TWO BUTTON MOUSE;0THREE BUTTON MOUSE;0TRACKBALL;0OLD PERSONAL COMPUTER;0HARD DISK
0SCREEN;0PRINTER ICON;0FAX ICON;0OPTICAL DISC ICON;0DOCUMENTbTEXT;3AND PICTURE;2PICTURE
0FRAMEbPICTURE;2TILES;2AN X;0BLACK FOLDER;0FOLDER;0OPEN FOLDER;0CARD INDEX DIVIDERS;1FILE BOX
0FILE CABINET;0EMPTY NOTE;2PAGE;2PAD;0NOTE;1PAGE;1PAD;0EMPTY DOCUMENT;1PAGE;1PAGES;0DOCUMENT;0PAGE
0PAGES;0WASTEBASKET;0SPIRAL NOTE PAD;1CALENDAR PAD;0DESKTOP WINDOW;0MINIMIZE;0MAXIMIZE;0OVERLAP
0CLOCKWISE Reip SEMICIRCLEfS;0CANCELLAw X;0INCREASE FONT SIZE u;0DECREASE FONT SIZE u;0COMPRESSION
0OLD KEY;0ROLLED-UP NEWSPAPER;0PAGEbCIRCLED TEXT;0STOCK CHART;0DAGGER KNIFE;0LIPS
0SPEAKqHEAD IN SILHOUETTE;0THREE RAYSj;2BELOW;2p;2Re;0p SPEECH BUBBLE;0Re SPEECH BUBBLE
0TWO SPEECH BUBBLES;0THREE SPEECH BUBBLES;0p THOUGHT BUBBLE;0Re THOUGHT BUBBLE;0p ANGER BUBBLE
0Re ANGER BUBBLE;0MOOD BUBBLE;0LeNqMOOD BUBBLE;2;0BALLOT BOXbBALLOT;1SCRIPT X;1BOXbSCRIPT X
1BOLD SCRIPT X;1BOXbBOLD SCRIPT X;0Le CHECK MARK;0BALLOT BOXbBOLD CHECK;0WORLD MAP;0MOUNT FUJI
0TOKYO TOWER;0STATUE OF LIBERTY;0SILHOUETTE OF JAPAN;0MOYAI;0GRINNqFACE;2WITH SMILqEYES
0FACEbTEARS OF JOY;0SMILqFACEbOPEN MOUTH;5AND SMILqEYES;6COLD SWEAT;6TeLY-CLOSED EYES;3HALO;3HORNS
0WINKqFACE;0SMILqFACEbSMILqEYES;0FACE SAVOURqDELICIOUS FOOD;0RELIEVED FACE
0SMILqFACEbHEART-SHAPED EYES;3SUNGLASSES;0SMIRKqFACE;0NEUTRAL FACE;0EXPRESSIONLESS FACE
0UNAMUSED FACE;0FACEbCOLD SWEAT;0PENSIVE FACE;0CONFUSED FACE;0CONFOUNDED FACE;0KISSqFACE
0FACE THROWqA KISS;0KISSqFACEbSMILqEYES;3CLOSED EYES;0FACEbSTUCK-OUT TONGUE;4AND WINKqEYE
5TeLY-CLOSED EYES;0DISAPPOINTED FACE;0WORRIED FACE;0ANGRY FACE;0POUTqFACE;0CRYqFACE;0PERSEVERqFACE
0FACEbLOOK OF TRIUMPH;0DISAPPOINTED BUT RELIEVED FACE;0FROWNqFACEbOPEN MOUTH;0ANGUISHED FACE
0FEARFUL FACE;0WEARY FACE;0SLEEPY FACE;0TIRED FACE;0GRIMACqFACE;0LOUDLY CRYqFACE;0FACEbOPEN MOUTH
0HUSHED FACE;0FACEbOPEN MOUTHiCOLD SWEAT;1SCREAMqIN FEAR;0ASTONISHED FACE;0FLUSHED FACE;0SLEEPqFACE
0DIZZY FACE;0FACE WITHOUT MOUTH;1WITH MEDICAL MASK;0GRINNqCAT FACEbSMILqEYES;0CAT FACEbTEARS OF JOY
0SMILqCAT FACEbOPEN MOUTH;4HEART-SHAPED EYES;0CAT FACEbWRY SMILE;0KISSqCAT FACEbCLOSED EYES
0POUTqCAT FACE;0CRYqCAT FACE;0WEARY CAT FACE;0SLeLY FROWNqFACE;1SMILqFACE;0UPSIDE-DOWN FACE
0FACEbROLLqEYES;2NO GOOD GESTURE;2OK GESTURE;0PERSON BOWqDEEPLY;0SEE-NO-EVIL MONKEY
0HEAR-NO-EVIL MONKEY;0SPEAK-NO-EVIL MONKEY;0HAPPY PERSON RAISqONE HAND
0PERSON RAISqBOTH HANDS IN CELEBRAw;1FROWNING;1WITH POUTqFACE;2FOLDED HANDS;0NORTH WEST POINTqLEAF
0SOUTH WEST POINTqLEAF;0NORTH EAST POINTqLEAF;0SOUTH EAST POINTqLEAF;0TURNED NORTH WEST POINTqLEAF
1SOUTH WEST POINTqLEAF;1NORTH EAST POINTqLEAF;1SOUTH EAST POINTqLEAF;0NORTH WEST POINTqVINE LEAF
0SOUTH WEST POINTqVINE LEAF;0NORTH EAST POINTqVINE LEAF;0SOUTH EAST POINTqVINE LEAF
0HEAVY NORTH WEST POINTqVINE LEAF;1SOUTH WEST POINTqVINE LEAF;1NORTH EAST POINTqVINE LEAF
1SOUTH EAST POINTqVINE LEAF;0NORTH WEST POINTqBUD;0SOUTH WEST POINTqBUD;0NORTH EAST POINTqBUD
0SOUTH EAST POINTqBUD;0HEAVY NORTH WEST POINTqBUD;1SOUTH WEST POINTqBUD;1NORTH EAST POINTqBUD
1SOUTH EAST POINTqBUD;0HOLLOW QUILT SQUARE ORNAMENT;4IN BLACK SQUARE;0SOLID QUILT SQUARE ORNAMENT
4IN BLACK SQUARE;0pk ROCKET;0UPk ROCKET;0Rek ROCKET;0DOWNk ROCKET;0SCRIPT LIGATURE ET ORNAMENT
0HEAVY SCRIPT LIGATURE ET ORNAMENT;0LIGATURE OPEN ET ORNAMENT;0HEAVY LIGATURE OPEN ET ORNAMENT
1AMPERSAND ORNAMENT;0SWASH AMPERSAND ORNAMENT;0SANS-SERIF HEAVY r TURNED COMMA QUOTAw MARK ORNAMENT
3COMMA QUOTAw MARK ORNAMENT;2LOW r COMMA QUOTAw MARK ORNAMENT;0HEAVY INTERROBANG ORNAMENT
0SANS-SERIF INTERROBANG ORNAMENT;0HEAVY SANS-SERIF INTERROBANG ORNAMENT;0VERY HEAVY SOLIDUS
2REVERSE SOLIDUS;0CHECKER BOARD;0REVERSE CHECKER BOARD;0ROCKET;0HELICOPTER;0STEAM LOCOMOTIVE
0RAILWAY CAR;0HIGH-SPEED TRAIN;2WITH BULLET NOSE;0TRAIN;0METRO;0Le RAIL;0STAw;0TRAM;1CAR;0BUS
0ONCOMqBUS;0TROLLEYBUS;0BUS STOP;0MINIBUS;0AMBULANCE;0FIRE ENGINE;0POLICE CAR;0ONCOMqPOLICE CAR
0TAXI;0ONCOMqTAXI;0AUTOMOBILE;0ONCOMqAUTOMOBILE;0RECREAwAL VEHICLE;0DELIVERY TRUCK
0ARTICULATED LORRY;0TRACTOR;0MONORAIL;0MOUNTAIN RAILWAY;0SUSPENSION RAILWAY;0MOUNTAIN CABLEWAY
0AERIAL TRAMWAY;0SHIP;0ROWBOAT;0SPEEDBOAT;0t TRAFFIC Le;0s TRAFFIC Le;0CONSTRUCwn
0POLICE CARS REVOLVqLe;0TRIANGULAR FLAG ON POST;0DOOR;0NO ENTRYn;0SMOKqu;0NO SMOKqu
0PUT LITTER IN ITS PLACE u;0DO NOT LITTER u;0POTABLE WATER u;0NON-POTABLE WATER u;0BICYCLE
0NO BICYCLES;0BICYCLIST;0MOUNTAIN BICYCLIST;0PEDESTRIAN;0NO PEDESTRIANS;0CHILDREN CROSSING;0MENS u
0WOMENS u;0RESTROOM;0BABY u;0TOILET;0WATER CLOSET;0SHOWER;0BATH;0BATHTUB;0PASSPORT CONTROL;0CUSTOMS
0BAGGAGE CLAIM;0p LUGGAGE;0xbROUNDED CORNERS;0PROHIBITEDn;0CIRCLED INFORMAw SOURCE;0BOYS u;0GIRLS u
0COUCHiLAMP;0SLEEPqACCOMMODAw;0SHOPPqBAGS;0BELLHOP BELL;0BED;0PLACE OF WORSHIP;0OCTAGONALn
0SHOPPqTROLLEY;0STUPA;0PAGODA;0HINDU TEMPLE;0HUT;0ELEVATOR;+1F6DD;0PLAYGROUND SLIDE;0WHEEL;0RqBUOY
0HAMMERiWRENCH;0SHIELD;0OIL DRUM;0MOTORWAY;0RAILWAY TRACK;0MOTOR BOAT;0UP-POINTqMILITARY AIRPLANE
1AIRPLANE;1hL AIRPLANE;0hL AIRPLANE;0NORTHEAST-POINTqAIRPLANE;0AIRPLANE DEPARTURE;1ARRIVING;+1F6F0
0SATELLITE;0ONCOMqFIRE ENGINE;0DIESEL LOCOMOTIVE;0PASSENGER SHIP;0SCOOTER;0MOTOR SCOOTER;0CANOE
0SLED;0FLYqSAUCER;0SKATEBOARD;0AUTO RICKSHAW;0PICKUP TRUCK;0ROLLER SKATE;+1F700
0ALCHEMICAL u FOR QUINTESSENCE;3AIR;3FIRE;3EARTH;3WATER;3AQUAFORTIS;3AQUA REGIA;4REGIA-2;4VITAE
4VITAE-2;3VINEGAR;3VINEGAR-2;3VINEGAR-3;3SULFUR;3PHILOSOPHERS SULFUR;3BLACK SULFUR
3MERCURY SUBLIMATE;4SUBLIMATE-2;4SUBLIMATE-3;3CINNABAR;3SALT;3NITRE;3VITRIOL;3VITRIOL-2;3ROCK SALT
4SALT-2;3GOLD;3SILVER;3IRON ORE;4ORE-2;3CROCUS OF IRON;3REGULUS OF IRON;3COPPER ORE;3IRON-COPPER ORE
3SUBLIMATE OF COPPER;3CROCUS OF COPPER;5COPPER-2;3COPPER ANTIMONIATE;3SALT OF COPPER ANTIMONIATE
3SUBLIMATE OF SALT OF COPPER;3VERDIGRIS;3TIN ORE;3LEAD ORE;3ANTIMONY ORE;3SUBLIMATE OF ANTIMONY
3SALT OF ANTIMONY;3SUBLIMATE OF SALT OF ANTIMONY;3VINEGAR OF ANTIMONY;3REGULUS OF ANTIMONY
5ANTIMONY-2;4;3REGULUS-2;3REGULUS-3;3REGULUS-4;3ALKALI;3ALKALI-2;3MARCASITE;3SAL-AMMONIAC;3ARSENIC
3REALGAR;3REALGAR-2;3AURIPIGMENT;3BISMUTH ORE;3TARTAR;3TARTAR-2;3QUICK LIME;3BORAX;3BORAX-2;3BORAX-3
3ALUM;3OIL;3SPIRIT;3TINCTURE;3GUM;3WAX;3POWDER;3CALX;3TUTTY;3CAPUT MORTUUM;3SCEPTER OF JOVE
3CADUCEUS;3TRIDENT;3STARRED TRIDENT;3LODESTONE;3SOAP;3URINE;3HORSE DUNG;3ASHES;3POT ASHES;3BRICK
3POWDERED BRICK;3AMALGAM;3STRATUM SUPER STRATUM;5STRATUM-2;3SUBLIMAw;3PRECIPITATE;3DISTILL;3DISSOLVE
3DISSOLVE-2;3PURIFY;3PUTREFACw;3CRUCIBLE;3CRUCIBLE-2;3CRUCIBLE-3;3CRUCIBLE-4;3CRUCIBLE-5;3ALEMBIC
3BATH OF MARY;5VAPOURS;3RETORT;3HOUR;3Ne;3DAY-Ne;3MONTH;3HALF DRAM;4OUNCE;+1F780
0BLACK p-POINTqISOSCELES Re x;1UP-POINTqISOSCELES Re x;1Re-POINTqISOSCELES Re x
1DOWN-POINTqISOSCELES Re x;1SLeLY hL CIRCLE;0MEDIUM BOLD WHITE CIRCLE;0BOLD WHITE CIRCLE
0HEAVY WHITE CIRCLE;0VERY HEAVY WHITE CIRCLE;0EXTREMELY HEAVY WHITE CIRCLE
0WHITE CIRCLE CONTAINqBLACK hL CIRCLE;0ROUND TARGET;0BLACK TINY SQUARE;1SLeLY hL SQUARE
0Le WHITE SQUARE;0MEDIUM WHITE SQUARE;0BOLD WHITE SQUARE;0HEAVY WHITE SQUARE
0VERY HEAVY WHITE SQUARE;0EXTREMELY HEAVY WHITE SQUARE;0WHITE SQUARE CONTAINqBLACK VERY hL SQUARE
4MEDIUM SQUARE;0SQUARE TARGET;0BLACK TINY DIAMOND;1VERY hL DIAMOND;1MEDIUM hL DIAMOND
0WHITE DIAMOND CONTAINqBLACK VERY hL DIAMOND;4MEDIUM DIAMOND;0DIAMOND TARGET;0BLACK TINY LOZENGE
1VERY hL LOZENGE;1MEDIUM hL LOZENGE;0WHITE LOZENGE CONTAINqBLACK hL LOZENGE;0THIN GREEK CROSS
0Le GREEK CROSS;0MEDIUM GREEK CROSS;0BOLD GREEK CROSS;0VERY BOLD GREEK CROSS;1HEAVY GREEK CROSS
0EXTREMELY HEAVY GREEK CROSS;0THIN SALTIRE;0Le SALTIRE;0MEDIUM SALTIRE;0BOLD SALTIRE;0HEAVY SALTIRE
0VERY HEAVY SALTIRE;0EXTREMELY HEAVY SALTIRE;0Le FIVE SPOKED ASTERISK;0MEDIUM FIVE SPOKED ASTERISK
0BOLD FIVE SPOKED ASTERISK;0HEAVY FIVE SPOKED ASTERISK;0VERY HEAVY FIVE SPOKED ASTERISK
0EXTREMELY HEAVY FIVE SPOKED ASTERISK;0Le SIX SPOKED ASTERISK;0MEDIUM SIX SPOKED ASTERISK
0BOLD SIX SPOKED ASTERISK;0HEAVY SIX SPOKED ASTERISK;0VERY HEAVY SIX SPOKED ASTERISK
0EXTREMELY HEAVY SIX SPOKED ASTERISK;0Le Ee SPOKED ASTERISK;0MEDIUM Ee SPOKED ASTERISK
0BOLD Ee SPOKED ASTERISK;0HEAVY Ee SPOKED ASTERISK;0VERY HEAVY Ee SPOKED ASTERISK
0Le THREE POINTED BLACK STAR;0MEDIUM THREE POINTED BLACK STAR;0THREE POINTED BLACK STAR
0MEDIUM THREE POINTED PINWHEEL STAR;0Le FOUR POINTED BLACK STAR;0MEDIUM FOUR POINTED BLACK STAR
0FOUR POINTED BLACK STAR;0MEDIUM FOUR POINTED PINWHEEL STAR;0REVERSE Le FOUR POINTED PINWHEEL STAR
0Le FIVE POINTED BLACK STAR;0HEAVY FIVE POINTED BLACK STAR;0MEDIUM SIX POINTED BLACK STAR
0HEAVY SIX POINTED BLACK STAR;0SIX POINTED PINWHEEL STAR;0MEDIUM Ee POINTED BLACK STAR
0HEAVY Ee POINTED BLACK STAR;0VERY HEAVY Ee POINTED BLACK STAR;0HEAVY Ee POINTED PINWHEEL STAR
0Le TWELVE POINTED BLACK STAR;0HEAVY TWELVE POINTED BLACK STAR;3PINWHEEL STAR;0CIRCLED x
0NEGATIVE CIRCLED x;0CIRCLED SQUARE;0NEGATIVE CIRCLED SQUARE;+1F7E0;0LARGE ORANGE CIRCLE
1YELLOW CIRCLE;1GREEN CIRCLE;1PURPLE CIRCLE;1BROWN CIRCLE;1RED SQUARE;1BLUE SQUARE;1ORANGE SQUARE
1YELLOW SQUARE;1GREEN SQUARE;1PURPLE SQUARE;1BROWN SQUARE;+1F7F0;0HEAVY EQUALSn;+1F800
0pkfbhL xfHEAD;0UPkfbhL xfHEAD;0RekfbhL xfHEAD;0DOWNkfbhL xfHEAD;0pkfbMEDIUM xfHEAD
0UPkfbMEDIUM xfHEAD;0RekfbMEDIUM xfHEAD;0DOWNkfbMEDIUM xfHEAD;0pkfbLARGE xfHEAD;0UPkfbLARGE xfHEAD
0RekfbLARGE xfHEAD;0DOWNkfbLARGE xfHEAD;+1F810;0pkfbhL EQUILATERALfHEAD;0UPkfbhL EQUILATERALfHEAD
0RekfbhL EQUILATERALfHEAD;0DOWNkfbhL EQUILATERALfHEAD;0pkfbEQUILATERALfHEAD;0UPkfbEQUILATERALfHEAD
0RekfbEQUILATERALfHEAD;0DOWNkfbEQUILATERALfHEAD;0HEAVY pkfbEQUILATERALfHEAD;1UPkfbEQUILATERALfHEAD
1RekfbEQUILATERALfHEAD;1DOWNkfbEQUILATERALfHEAD;1pkfbLARGE EQUILATERALfHEAD
1UPkfbLARGE EQUILATERALfHEAD;1RekfbLARGE EQUILATERALfHEAD;1DOWNkfbLARGE EQUILATERALfHEAD
0pk x-HEADEDfbNARROW SHAFT;0UPk x-HEADEDfbNARROW SHAFT;0Rek x-HEADEDfbNARROW SHAFT
0DOWNk x-HEADEDfbNARROW SHAFT;0pk x-HEADEDfbMEDIUM SHAFT;0UPk x-HEADEDfbMEDIUM SHAFT
0Rek x-HEADEDfbMEDIUM SHAFT;0DOWNk x-HEADEDfbMEDIUM SHAFT;0pk x-HEADEDfbBOLD SHAFT
0UPk x-HEADEDfbBOLD SHAFT;0Rek x-HEADEDfbBOLD SHAFT;0DOWNk x-HEADEDfbBOLD SHAFT
0pk x-HEADEDfbHEAVY SHAFT;0UPk x-HEADEDfbHEAVY SHAFT;0Rek x-HEADEDfbHEAVY SHAFT
0DOWNk x-HEADEDfbHEAVY SHAFT;0pk x-HEADEDfbVERY HEAVY SHAFT;0UPk x-HEADEDfbVERY HEAVY SHAFT
0Rek x-HEADEDfbVERY HEAVY SHAFT;0DOWNk x-HEADEDfbVERY HEAVY SHAFT;0pk FINGER-POSTf;0UPk FINGER-POSTf
0Rek FINGER-POSTf;0DOWNk FINGER-POSTf;0pk SQUAREDf;0UPk SQUAREDf;0Rek SQUAREDf;0DOWNk SQUAREDf
0pk COMPRESSEDf;0UPk COMPRESSEDf;0Rek COMPRESSEDf;0DOWNk COMPRESSEDf;0pk HEAVY COMPRESSEDf
0UPk HEAVY COMPRESSEDf;0Rek HEAVY COMPRESSEDf;0DOWNk HEAVY COMPRESSEDf;0pk HEAVYf;0UPk HEAVYf
0Rek HEAVYf;0DOWNk HEAVYf;+1F850;0pk SANS-SERIFf;0UPk SANS-SERIFf;0Rek SANS-SERIFf
0DOWNk SANS-SERIFf;0NORTH WEST SANS-SERIFf;1EAST SANS-SERIFf;0SOUTH EAST SANS-SERIFf
1WEST SANS-SERIFf;0p Re SANS-SERIFf;0UP DOWN SANS-SERIFf;+1F860;0WIDE-HEADED pk Le BARBf
1UPk Le BARBf;1Rek Le BARBf;1DOWNk Le BARBf;1NORTH WEST Le BARBf;2EAST Le BARBf;1SOUTH EAST Le BARBf
2WEST Le BARBf;1pk BARBf;1UPk BARBf;1Rek BARBf;1DOWNk BARBf;1NORTH WEST BARBf;2EAST BARBf
1SOUTH EAST BARBf;2WEST BARBf;1pk MEDIUM BARBf;1UPk MEDIUM BARBf;1Rek MEDIUM BARBf
1DOWNk MEDIUM BARBf;1NORTH WEST MEDIUM BARBf;2EAST MEDIUM BARBf;1SOUTH EAST MEDIUM BARBf
2WEST MEDIUM BARBf;1pk HEAVY BARBf;1UPk HEAVY BARBf;1Rek HEAVY BARBf;1DOWNk HEAVY BARBf
1NORTH WEST HEAVY BARBf;2EAST HEAVY BARBf;1SOUTH EAST HEAVY BARBf;2WEST HEAVY BARBf
1pk VERY HEAVY BARBf;1UPk VERY HEAVY BARBf;1Rek VERY HEAVY BARBf;1DOWNk VERY HEAVY BARBf
1NORTH WEST VERY HEAVY BARBf;2EAST VERY HEAVY BARBf;1SOUTH EAST VERY HEAVY BARBf
2WEST VERY HEAVY BARBf;+1F890;0pk xfHEAD;0UPk xfHEAD;0Rek xfHEAD;0DOWNk xfHEAD
0pk WHITEf WITHIN xfHEAD;0UPk WHITEf WITHIN xfHEAD;0Rek WHITEf WITHIN xfHEAD
0DOWNk WHITEf WITHIN xfHEAD;0pkfbNOTCHED TAIL;0UPkfbNOTCHED TAIL;0RekfbNOTCHED TAIL
0DOWNkfbNOTCHED TAIL;0HEAVYf SHAFT WIDTH ONE;4TWO THIRDS;4ONE HALF;5THIRD;0pk BOTTOM-SHADED WHITEf
0Rek BOTTOM SHADED WHITEf;0pk TOP SHADED WHITEf;0Rek TOP SHADED WHITEf;0pk p-SHADED WHITEf
0Rek Re-SHADED WHITEf;0pk Re-SHADED WHITEf;0Rek p-SHADED WHITEf;0pk BACK-TILTED SHADOWED WHITEf
0Rek BACK-TILTED SHADOWED WHITEf;0pk FRONT-TILTED SHADOWED WHITEf;0Rek FRONT-TILTED SHADOWED WHITEf
0WHITEf SHAFT WIDTH ONE;4TWO THIRDS;+1F8B0;0ARROW POINTqUPk THEN NORTH WEST
2Rek THEN CURVqSOUTH WEST;+1F900;0CIRCLED CROSSgEEbFOUR DOTS;4TWO DOTS;3;0p HALF CIRCLEbFOUR DOTS
4THREE DOTS;4TWO DOTS;4DOT;3;0DOWNWARD FACqHOOK;2NOTCHED HOOK;2HOOKbDOT;2NOTCHED HOOKbDOT
0PINCHED FINGERS;0WHITE HEART;0BROWN HEART;0PINCHqHAND;0ZIPPER-MOUTH FACE;0MONEY-MOUTH FACE
0FACEbTHERMOMETER;0NERD FACE;0THINKqFACE;0FACEbHEAD-BANDAGE;0ROBOT FACE;0HUGGqFACE
0SIGN OF THE HORNS;0CALL ME HAND;0RAISED BACK OF HAND;0p-FACqFIST;0Re-FACqFIST;0HANDSHAKE
0HANDbINDEXiMIDDLE FINGERS CROSSED;0I LOVE YOU HANDn;0FACEbCOWBOY HAT;0CLOWN FACE;0NAUSEATED FACE
0ROLLqON THE FLOOR LAUGHING;0DROOLqFACE;0LYqFACE;0FACE PALM;0SNEEZqFACE;0FACEbONE EYEBROW RAISED
0GRINNqFACEbSTAR EYES;3ONE LARGEiONE hL EYE;0FACEbFINGER COVERqCLOSED LIPS
0SERIOUS FACEbuS COVERqMOUTH;0SMILqFACEbSMILqEYESiHAND COVERqMOUTH;0FACEbOPEN MOUTH VOMITING
0SHOCKED FACEbEXPLODqHEAD;0PREGNANT WOMAN;0BREAST-FEEDING;0PALMS UP TOGETHER;0SELFIE;0PRINCE
0MAN IN TUXEDO;0MOTHER CHRISTMAS;0SHRUG;0PERSON DOqCARTWHEEL;0JUGGLING;0FENCER;0MODERN PENTATHLON
0WRESTLERS;0WATER POLO;0HANDBALL;0DIVqMASK;0WILTED FLOWER;0DRUMbDRUMSTICKS;0CLINKqGLASSES
0TUMBLER GLASS;0SPOON;0GOAL NET;0RIFLE;0FIRST PLACE MEDAL;0SECOND PLACE MEDAL;0THIRD PLACE MEDAL
0BOXqGLOVE;0MARTIAL ARTS UNIFORM;0CURLqSTONE;0LACROSSE STICKiBALL;0SOFTBALL;0FLYqDISC;0CROISSANT
0AVOCADO;0CUCUMBER;0BACON;0POTATO;0CARROT;0BAGUETTE BREAD;0GREEN SALAD;0SHALLOW PAN OF FOOD
0STUFFED FLATBREAD;0EGG;0GLASS OF MILK;0PEANUTS;0KIWIFRUIT;0PANCAKES;0DUMPLING;0FORTUNE COOKIE
0TAKEOUT BOX;0CHOPSTICKS;0BOWLbSPOON;0CUPbSTRAW;0COCONUT;0BROCCOLI;0PIE;0PRETZEL;0CUT OF MEAT
0SANDWICH;0CANNED FOOD;0LEAFY GREEN;0MANGO;0MOON CAKE;0BAGEL;0SMILqFACEbSMILqEYESiTHREE HEARTS
0YAWNqFACE;0SMILqFACEbTEAR;0FACEbPARTY HORNiPARTY HAT;2UNEVEN EYESiWAVY MOUTH;0OVERHEATED FACE
0FREEZqFACE;0NINJA;0DISGUISED FACE;0FACE HOLDqBACK TEARS;1WITH PLEADqEYES;0SARI;0LAB COAT;0GOGGLES
0HIKqBOOT;0FLAT SHOE;0CRAB;0LION FACE;0SCORPION;0TURKEY;0UNICORN FACE;0EAGLE;0DUCK;0BAT;0SHARK;0OWL
0FOX FACE;0BUTTERFLY;0DEER;0GORILLA;0LIZARD;0RHINOCEROS;0SHRIMP;0SQUID;0GIRAFFE FACE;0ZEBRA FACE
0HEDGEHOG;0SAUROPOD;0T-REX;0CRICKET;0KANGAROO;0LLAMA;0PEACOCK;0HIPPOPOTAMUS;0PARROT;0RACCOON
0LOBSTER;0MOSQUITO;0MICROBE;0BADGER;0SWAN;0MAMMOTH;0DODO;0SLOTH;0OTTER;0ORANGUTAN;0SKUNK;0FLAMINGO
0OYSTER;0BEAVER;0BISON;0SEAL;0GUIDE DOG;0PROBqCANE;0EMOJI COMPONENT RED HAIR;2CURLY HAIR;2BALD
2WHITE HAIR;0BONE;0LEG;0FOOT;0TOOTH;0SUPERHERO;0SUPERVILLAIN;0SAFETY VEST;0EARbHEARqAID
0MOTORIZED WHEELCHAIR;0MANUAL WHEELCHAIR;0MECHANICAL ARM;1LEG;0CHEESE WEDGE;0CUPCAKE;0SALT SHAKER
0BEVERAGE BOX;0GARLIC;0ONION;0FALAFEL;0WAFFLE;0BUTTER;0MATE DRINK;0ICE CUBE;0BUBBLE TEA;0TROLL
0STANDqPERSON;0KNEELqPERSON;0DEAF PERSON;0FACEbMONOCLE;0ADULT;0CHILD;0OLDER ADULT;0BEARDED PERSON
0PERSONbHEADSCARF;1IN STEAMY ROOM;1CLIMBING;1IN LOTUS POSIw;0MAGE;0FAIRY;0VAMPIRE;0MERPERSON;0ELF
0GENIE;0ZOMBIE;0BRAIN;0ORANGE HEART;0BILLED CAP;0SCARF;0GLOVES;0COAT;0SOCKS;0RED GIFT ENVELOPE
0FIRECRACKER;0JIGSAW PUZZLE PIECE;0TEST TUBE;0PETRI DISH;0DNA r HELIX;0COMPASS;0ABACUS
0FIRE EXTINGUISHER;0TOOLBOX;0BRICK;0MAGNET;0LUGGAGE;0LOw BOTTLE;0SPOOL OF THREAD;0BALL OF YARN
0SAFETY PIN;0TEDDY BEAR;0BROOM;0BASKET;0ROLL OF PAPER;0BAR OF SOAP;0SPONGE;0RECEIPT;0NAZAR AMULET
0NEUTRAL CHESS KING;2QUEEN;2ROOK;2BISHOP;2KNe;2PAWN;0WHITE CHESS KNe ROTATED FORTY-FIVE DEGREES
0BLACK CHESS KNe ROTATED FORTY-FIVE DEGREES;0NEUTRAL CHESS KNe ROTATED FORTY-FIVE DEGREES
0WHITE CHESS KqROTATED NINETY DEGREES;2QUEEN ROTATED NINETY DEGREES;2ROOK ROTATED NINETY DEGREES
2BISHOP ROTATED NINETY DEGREES;2KNe ROTATED NINETY DEGREES;2PAWN ROTATED NINETY DEGREES
0BLACK CHESS KqROTATED NINETY DEGREES;2QUEEN ROTATED NINETY DEGREES;2ROOK ROTATED NINETY DEGREES
2BISHOP ROTATED NINETY DEGREES;2KNe ROTATED NINETY DEGREES;2PAWN ROTATED NINETY DEGREES
0NEUTRAL CHESS KqROTATED NINETY DEGREES;2QUEEN ROTATED NINETY DEGREES;2ROOK ROTATED NINETY DEGREES
2BISHOP ROTATED NINETY DEGREES;2KNe ROTATED NINETY DEGREES;2PAWN ROTATED NINETY DEGREES
0WHITE CHESS KNe ROTATED ONE HUNDRED THIRTY-FIVE DEGREES
0BLACK CHESS KNe ROTATED ONE HUNDRED THIRTY-FIVE DEGREES
0NEUTRAL CHESS KNe ROTATED ONE HUNDRED THIRTY-FIVE DEGREES;0WHITE CHESS TURNED KING;3QUEEN;3ROOK
3BISHOP;3KNe;3PAWN;0BLACK CHESS TURNED KING;3QUEEN;3ROOK;3BISHOP;3KNe;3PAWN
0NEUTRAL CHESS TURNED KING;3QUEEN;3ROOK;3BISHOP;3KNe;3PAWN
0WHITE CHESS KNe ROTATED TWO HUNDRED TWENTY-FIVE DEGREES
0BLACK CHESS KNe ROTATED TWO HUNDRED TWENTY-FIVE DEGREES
0NEUTRAL CHESS KNe ROTATED TWO HUNDRED TWENTY-FIVE DEGREES
0WHITE CHESS KqROTATED TWO HUNDRED SEVENTY DEGREES;2QUEEN ROTATED TWO HUNDRED SEVENTY DEGREES
2ROOK ROTATED TWO HUNDRED SEVENTY DEGREES;2BISHOP ROTATED TWO HUNDRED SEVENTY DEGREES
2KNe ROTATED TWO HUNDRED SEVENTY DEGREES;2PAWN ROTATED TWO HUNDRED SEVENTY DEGREES
0BLACK CHESS KqROTATED TWO HUNDRED SEVENTY DEGREES;2QUEEN ROTATED TWO HUNDRED SEVENTY DEGREES
2ROOK ROTATED TWO HUNDRED SEVENTY DEGREES;2BISHOP ROTATED TWO HUNDRED SEVENTY DEGREES
2KNe ROTATED TWO HUNDRED SEVENTY DEGREES;2PAWN ROTATED TWO HUNDRED SEVENTY DEGREES
0NEUTRAL CHESS KqROTATED TWO HUNDRED SEVENTY DEGREES;2QUEEN ROTATED TWO HUNDRED SEVENTY DEGREES
2ROOK ROTATED TWO HUNDRED SEVENTY DEGREES;2BISHOP ROTATED TWO HUNDRED SEVENTY DEGREES
2KNe ROTATED TWO HUNDRED SEVENTY DEGREES;2PAWN ROTATED TWO HUNDRED SEVENTY DEGREES
0WHITE CHESS KNe ROTATED THREE HUNDRED FIFTEEN DEGREES
0BLACK CHESS KNe ROTATED THREE HUNDRED FIFTEEN DEGREES
0NEUTRAL CHESS KNe ROTATED THREE HUNDRED FIFTEEN DEGREES;0WHITE CHESS EQUIHOPPER
0BLACK CHESS EQUIHOPPER;0NEUTRAL CHESS EQUIHOPPER;0WHITE CHESS EQUIHOPPER ROTATED NINETY DEGREES
0BLACK CHESS EQUIHOPPER ROTATED NINETY DEGREES;0NEUTRAL CHESS EQUIHOPPER ROTATED NINETY DEGREES
0WHITE CHESS KNe-QUEEN;2KNe-ROOK;2KNe-BISHOP;0BLACK CHESS KNe-QUEEN;2KNe-ROOK;2KNe-BISHOP;+1FA60
0XIANGQI RED GENERAL;2MANDARIN;2ELEPHANT;2HORSE;2CHARIOT;2CANNON;2SOLDIER;1BLACK GENERAL;2MANDARIN
2ELEPHANT;2HORSE;2CHARIOT;2CANNON;2SOLDIER;+1FA70;0BALLET SHOES;0ONE-PIECE SWIMSUIT;0BRIEFS;0SHORTS
0THONG SANDAL;+1FA78;0DROP OF BLOOD;0ADHESIVE BANDAGE;0STETHOSCOPE;0X-RAY;0CRUTCH;+1FA80;0YO-YO
0KITE;0PARACHUTE;0BOOMERANG;0MAGIC WAND;0PINATA;0NESTqDOLLS;+1FA90;0RINGED PLANET;0CHAIR;0RAZOR;0AXE
0DIYA LAMP;0BANJO;0MILITARY HELMET;0ACCORDION;0LONG DRUM;0COIN;0CARPENTRY SAW;0SCREWDRIVER;0LADDER
0HOOK;0MIRROR;0WINDOW;0PLUNGER;0SEWqNEEDLE;0KNOT;0BUCKET;0MOUSE TRAP;0TOOTHBRUSH;0HEADSTONE;0PLACARD
0ROCK;0MIRROR BALL;0IDENTIFICAw CARD;0LOW BATTERY;0HAMSA;+1FAB0;0FLY;0WORM;0BEETLE;0COCKROACH
0POTTED PLANT;0WOOD;0FEATHER;0LOTUS;0CORAL;0EMPTY NEST;0NESTbEGGS;+1FAC0;0ANATOMICAL HEART;0LUNGS
0PEOPLE HUGGING;0PREGNANT MAN;1PERSON;0PERSONbCROWN;+1FAD0;0BLUEBERRIES;0BELL PEPPER;0OLIVE
0FLATBREAD;0TAMALE;0FONDUE;0TEAPOT;0POURqLIQUID;0BEANS;0JAR;+1FAE0;0MELTqFACE;0SALUTqFACE
0FACEbOPEN EYESiHAND OVER MOUTH;2PEEKqEYE;2DIAGONAL MOUTH;0DOTTED LINE FACE;0BITqLIP;0BUBBLES;+1FAF0
0HANDbINDEX FINGERiTHUMB CROSSED;0Rek HAND;0pk HAND;0PALM DOWN HAND;1UP HAND
0INDEX POINTqAT THE VIEWER;0HEART HANDS;+1FB00;0BLOCK SEXTANT-1;1SEXTANT-2;1SEXTANT-12;1SEXTANT-3
1SEXTANT-13;1SEXTANT-23;1SEXTANT-123;1SEXTANT-4;1SEXTANT-14;1SEXTANT-24;1SEXTANT-124;1SEXTANT-34
1SEXTANT-134;1SEXTANT-234;1SEXTANT-1234;1SEXTANT-5;1SEXTANT-15;1SEXTANT-25;1SEXTANT-125;1SEXTANT-35
1SEXTANT-235;1SEXTANT-1235;1SEXTANT-45;1SEXTANT-145;1SEXTANT-245;1SEXTANT-1245;1SEXTANT-345
1SEXTANT-1345;1SEXTANT-2345;1SEXTANT-12345;1SEXTANT-6;1SEXTANT-16;1SEXTANT-26;1SEXTANT-126
1SEXTANT-36;1SEXTANT-136;1SEXTANT-236;1SEXTANT-1236;1SEXTANT-46;1SEXTANT-146;1SEXTANT-1246
1SEXTANT-346;1SEXTANT-1346;1SEXTANT-2346;1SEXTANT-12346;1SEXTANT-56;1SEXTANT-156;1SEXTANT-256
1SEXTANT-1256;1SEXTANT-356;1SEXTANT-1356;1SEXTANT-2356;1SEXTANT-12356;1SEXTANT-456;1SEXTANT-1456
1SEXTANT-2456;1SEXTANT-12456;1SEXTANT-3456;1SEXTANT-13456;1SEXTANT-23456
0LOWER p BLOCK DIAGONAL LOWER MIDDLE p TO LOWER CENTRE;9Re;4UPPER MIDDLE p TO LOWER CENTRE;9Re
5p TO LOWER CENTRE;1Re BLOCK DIAGONAL UPPER MIDDLE p TO UPPER CENTRE;9Re
4LOWER MIDDLE p TO UPPER CENTRE;9Re;5p TO UPPER CENTRE;5MIDDLE p TO UPPER MIDDLE Re
5CENTRE TO LOWER MIDDLE Re;5p TO LOWER MIDDLE Re;5CENTRE TO UPPER MIDDLE Re;5p TO UPPER MIDDLE Re
5CENTRE TO UPPER Re;1p BLOCK DIAGONAL UPPER CENTRE TO UPPER MIDDLE Re;5p TO UPPER MIDDLE Re
5CENTRE TO LOWER MIDDLE Re;5p TO LOWER MIDDLE Re;5CENTRE TO LOWER Re;5MIDDLE p TO LOWER MIDDLE Re
0UPPER Re BLOCK DIAGONAL LOWER MIDDLE p TO LOWER CENTRE;9Re;4UPPER MIDDLE p TO LOWER CENTRE;9Re
5p TO LOWER CENTRE;1p BLOCK DIAGONAL UPPER MIDDLE p TO UPPER CENTRE;9Re
4LOWER MIDDLE p TO UPPER CENTRE;9Re;5p TO UPPER CENTRE;5MIDDLE p TO UPPER MIDDLE Re
5CENTRE TO LOWER MIDDLE Re;5p TO LOWER MIDDLE Re;5CENTRE TO UPPER MIDDLE Re;5p TO UPPER MIDDLE Re
5CENTRE TO UPPER Re;1Re BLOCK DIAGONAL UPPER CENTRE TO UPPER MIDDLE Re;5p TO UPPER MIDDLE Re
5CENTRE TO LOWER MIDDLE Re;5p TO LOWER MIDDLE Re;5CENTRE TO LOWER Re;5MIDDLE p TO LOWER MIDDLE Re
1AND ReiLOWER TRIANGULAR THREE QUARTERS BLOCK;0piLOWERiRe TRIANGULAR THREE QUARTERS BLOCK
0UPPERipiLOWER TRIANGULAR THREE QUARTERS BLOCK;0piUPPERiRe TRIANGULAR THREE QUARTERS BLOCK
1TRIANGULAR ONE QUARTER BLOCK;0UPPER TRIANGULAR ONE QUARTER BLOCK;0Re TRIANGULAR ONE QUARTER BLOCK
0LOWER TRIANGULAR ONE QUARTER BLOCK;0s ONE EeH BLOCK-2;3BLOCK-3;3BLOCK-4;3BLOCK-5;3BLOCK-6;3BLOCK-7
0t ONE EeH BLOCK-2;3BLOCK-3;3BLOCK-4;3BLOCK-5;3BLOCK-6;3BLOCK-7;0piLOWER ONE EeH BLOCK
2UPPER ONE EeH BLOCK;0ReiUPPER ONE EeH BLOCK;2LOWER ONE EeH BLOCK;0UPPERiLOWER ONE EeH BLOCK
0t ONE EeH BLOCK-1358;0UPPER ONE QUARTER BLOCK;1THREE EeHS BLOCK;1FIVE EeHS BLOCK
1THREE QUARTERS BLOCK;1SEVEN EeHS BLOCK;0Re ONE QUARTER BLOCK;1THREE EeHS BLOCK;1FIVE EeHS BLOCK
1THREE QUARTERS BLOCK;1SEVEN EeHS BLOCK;0p HALF MEDIUM SHADE;0Re HALF MEDIUM SHADE
0UPPER HALF MEDIUM SHADE;0LOWER HALF MEDIUM SHADE;0INVERSE MEDIUM SHADE
0UPPER HALF BLOCKiLOWER HALF INVERSE MEDIUM SHADE;2INVERSE MEDIUM SHADEiLOWER HALF BLOCK;+1FB94
0p HALF INVERSE MEDIUM SHADEiRe HALF BLOCK;0CHECKER BOARD FILL;0INVERSE CHECKER BOARD FILL
0HEAVY t FILL;0UPPER p TO LOWER Re FILL;1Re TO LOWER p FILL;1AND LOWER TRIANGULAR HALF BLOCK
0piRe TRIANGULAR HALF BLOCK;0UPPER p TRIANGULAR MEDIUM SHADE;1Re TRIANGULAR MEDIUM SHADE
0LOWER Re TRIANGULAR MEDIUM SHADE;1p TRIANGULAR MEDIUM SHADE
0BOX DRAWINGS Le DIAGONAL UPPER CENTRE TO MIDDLE p;8Re;4MIDDLE p TO LOWER CENTRE;5Re TO LOWER CENTRE
4UPPER CENTRE TO MIDDLE p TO LOWER CENTRE;8Re TO LOWER CENTRE;4MIDDLE p TO LOWER CENTRE TO MIDDLE Re
7UPPER CENTRE TO MIDDLE Re;4UPPER CENTRE TO MIDDLE piMIDDLE Re TO LOWER CENTRE
8ReiMIDDLE p TO LOWER CENTRE;9TO LOWER CENTRE TO MIDDLE p;8p TO LOWER CENTRE TO MIDDLE Re
4MIDDLE p TO UPPER CENTRE TO MIDDLE Re TO LOWER CENTRE
5Re TO UPPER CENTRE TO MIDDLE p TO LOWER CENTRE;4DIAMOND;3tbs STROKE;0ARROWHEAD-SHAPED POINTER
0INVERSE CHECK MARK;0p HALF RUNNqMAN;0Re HALF RUNNqMAN;0INVERSE DOWNkfbTIP pk
0pkfiUPPERiLOWER ONE EeH BLOCK;0RekfiUPPERiLOWER ONE EeH BLOCK;0DOWNkfiRe ONE EeH BLOCK
0UPkfiRe ONE EeH BLOCK;0p HALF FOLDER;0Re HALF FOLDER;0VOIDED GREEK CROSS;0Re OPEN SQUARED DOT
0NEGATIVE DIAGONAL CROSS;2MIDDLE Re TO LOWER CENTRE;2DIAMOND;0WHITE HEAVY SALTIREbROUNDED CORNERS
0p THIRD WHITE Re POINTqINDEX;0MIDDLE THIRD WHITE Re POINTqINDEX;0Re THIRD WHITE Re POINTqINDEX
0NEGATIVE SQUARED QUESw MARK;0STICK FIGURE;2WITH ARMS RAISED;2LEANqp;3Re;2WITH DRESS
0WHITE UP-POINTqCHEVRON;+1FBF0;0SEGMENTED DIGIT ZERO;2ONE;2TWO;2THREE;2FOUR;2FIVE;2SIX;2SEVEN;2Ee
2NINE;+E0001;0LANGUAGE TAG;+E0020;0TAG SPACE;1EXCLAMAw MARK;1QUOTAw MARK;1NUMBERn;1DOLLARn;1PERCENTn
1AMPERSAND;1APOSTROPHE;1p PARENTHESIS;1Re PARENTHESIS;1ASTERISK;1PLUSn;1COMMA;1HYPHEN-MINUS
1FULL STOP;1SOLIDUS;1DIGIT ZERO;2ONE;2TWO;2THREE;2FOUR;2FIVE;2SIX;2SEVEN;2Ee;2NINE;1COLON;1SEMICOLON
1LESS-THANn;1EQUALSn;1GREATER-THANn;1QUESw MARK;1COMMERCIAL AT;1LATIN daA;4B;4C;4D;4E;4F;4G;4H;4I;4J
4K;4L;4M;4N;4O;4P;4Q;4R;4S;4T;4U;4V;4W;4X;4Y;4Z;1p SQUARE BRACKET;1REVERSE SOLIDUS
1Re SQUARE BRACKET;1CIRCUMFLEX ACCENT;1LOW LINE;1GRAVE ACCENT;1LATIN haA;4B;4C;4D;4E;4F;4G;4H;4I;4J
4K;4L;4M;4N;4O;4P;4Q;4R;4S;4T;4U;4V;4W;4X;4Y;4Z;1p CURLY BRACKET;1s LINE;1Re CURLY BRACKET;1TILDE
0CANCEL TAG;+E0100;0VARIAw l17;1l18;1l19;1l20;1l21;1l22;1l23;1l24;1l25;1l26;1l27;1l28;1l29;1l30;1l31
1l32;1l33;1l34;1l35;1l36;1l37;1l38;1l39;1l40;1l41;1l42;1l43;1l44;1l45;1l46;1l47;1l48;1l49;1l50;1l51
1l52;1l53;1l54;1l55;1l56;1l57;1l58;1l59;1l60;1l61;1l62;1l63;1l64;1l65;1l66;1l67;1l68;1l69;1l70;1l71
1l72;1l73;1l74;1l75;1l76;1l77;1l78;1l79;1l80;1l81;1l82;1l83;1l84;1l85;1l86;1l87;1l88;1l89;1l90;1l91
1l92;1l93;1l94;1l95;1l96;1l97;1l98;1l99;1l100;1l101;1l102;1l103;1l104;1l105;1l106;1l107;1l108;1l109
1l110;1l111;1l112;1l113;1l114;1l115;1l116;1l117;1l118;1l119;1l120;1l121;1l122;1l123;1l124;1l125
1l126;1l127;1l128;1l129;1l130;1l131;1l132;1l133;1l134;1l135;1l136;1l137;1l138;1l139;1l140;1l141
1l142;1l143;1l144;1l145;1l146;1l147;1l148;1l149;1l150;1l151;1l152;1l153;1l154;1l155;1l156;1l157
1l158;1l159;1l160;1l161;1l162;1l163;1l164;1l165;1l166;1l167;1l168;1l169;1l170;1l171;1l172;1l173
1l174;1l175;1l176;1l177;1l178;1l179;1l180;1l181;1l182;1l183;1l184;1l185;1l186;1l187;1l188;1l189
1l190;1l191;1l192;1l193;1l194;1l195;1l196;1l197;1l198;1l199;1l200;1l201;1l202;1l203;1l204;1l205
1l206;1l207;1l208;1l209;1l210;1l211;1l212;1l213;1l214;1l215;1l216;1l217;1l218;1l219;1l220;1l221
1l222;1l223;1l224;1l225;1l226;1l227;1l228;1l229;1l230;1l231;1l232;1l233;1l234;1l235;1l236;1l237
1l238;1l239;1l240;1l241;1l242;1l243;1l244;1l245;1l246;1l247;1l248;1l249;1l250;1l251;1l252;1l253
1l254;1l255;1l256"

end Parlance.Unicode
