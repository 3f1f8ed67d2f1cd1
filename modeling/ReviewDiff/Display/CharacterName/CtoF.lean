/-!
# Names of characters, C to F

The first words that several names share, a colon and how these names go on, with commas between
them. A line that is set in goes on from the one above it that is set in less.
-/

set_option autoImplicit false

namespace ReviewDiff.Text

def secondNames : String :=
"CANADIAN SYLLABICS:A,AA,AAI,AAY,AI,AIVILIK B,AN,ATHAPASCAN M,ATHAPASCAN S,AY,BEAVER DENE L,
BEAVER DENE R,BIBLE-CREE Y,C,CA,CAA,CAAI,CE,CHI SIGN,CI,CII,CO,COO,CWA,CWAA,CWE,CWI,CWII,CWO,CWOO,E,
EASTERN W,EN,F,FA,FAA,FAAI,FE,FI,FII,FO,FOO,FULL STOP,FWAA,GLOTTAL STOP,HK,HYPHEN,I,II,IN,K,KA,KAA,
KAAI,KAY,KE,KI,KII,KO,KOO,KW,KWA,KWAA,KWAY,KWE,KWI,KWII,KWO,KWOO,L,LA,LAA,LAAI,LAY,LE,LH,LHA,LHAA,
LHI,LHII,LHO,LHOO,LI,LII,LO,LOO,LWA,LWAA,LWE,LWI,LWII,LWO,LWOO,M,MA,MAA,MAAI,MAY,ME,MEDIAL L,
MEDIAL R,MH,MI,MII,MO,MOO,MOOSE-CREE SK,MWA,MWAA,MWE,MWI,MWII,MWO,MWOO,N,NA,NAA,NAAI,NAY,NE,NG,NGA,
NGAA,NGAAI,NGAI,NGI,NGII,NGO,NGOO,NH,NI,NII,NNG,NNGA,NNGAA,NNGI,NNGII,NNGO,NNGOO,NO,NOO,NOY,
NUNAVUT H,NWA,NWAA,NWE,NWI,NWII,NWO,NWOO,O,ON,OO,OY,P,PA,PAA,PAAI,PAY,PE,PI,PII,PO,POO,POY,PWA,PWAA,
PWE,PWI,PWII,PWO,PWOO,PWOY,Q,QA,QAA,QAAI,QAI,QI,QII,QO,QOO,R,R-CREE RE,R-CREE RWE,RA,RAA,RAAI,RAY,
RE,RI,RII,RO,ROO,RWA,RWAA,RWEE,RWI,RWII,RWO,RWOO,S,SA,SAA,SAAI,SAY,SE,SH,SHA,SHAA,SHAY,SHE,SHI,SHII,
SHO,SHOO,SHOY,SHWA,SHWAA,SHWE,SHWI,SHWII,SHWO,SHWOO,SHWOY,SI,SII,SO,SOO,SOY,SPA,SPE,SPI,SPO,SW,SWA,
SWAA,SWE,SWI,SWII,SWO,SWOO,T,TA,TAA,TAAI,TAY,TE,TH,THA,THAA,THE,THI,THII,THO,THOO,THWA,THWAA,THWE,
TI,TII,TLHA,TLHE,TLHI,TLHO,TLHOO,TLHWE,TO,TOO,TTA,TTE,TTH,TTHA,TTHAA,TTHE,TTHI,TTHO,TTHOO,TTHWE,TTI,
TTO,TWA,TWAA,TWE,TWI,TWII,TWO,TWOO,TYA,TYE,TYI,TYO,WA,WAA,WAY,WE,WESTERN W,WI,WII,WO,WOO,Y,YA,YAA,
YAAI,YAY,YE,YI,YII,YO,YOO,YOY,YWA,YWAA,YWE,YWI,YWII,YWO,YWOO
 BLACKFOOT:A,E,I,KA,KE,KI,KO,NA,NE,NI,NO,O,S,W,WA,WE,WI,WO
 CARRIER:CHA,CHE,CHEE,CHI,CHO,CHU,DEE,DENE GEE,DENTAL S,DI,DLA,DLE,DLEE,DLI,DLO,DLU,DZA,DZE,DZEE,
DZI,DZO,DZU,EE,GA,GAA,GE,GEE,GHA,GHE,GHEE,GHI,GHO,GHU,GI,GO,GU,GWA,GWU,H,HEE,HI,HWA,HWE,HWEE,HWI,
HWO,HWU,I,INITIAL Z,JA,JE,JEE,JI,JJA,JJE,JJEE,JJI,JJO,JJU,JO,JU,JWA,KHA,KHE,KHEE,KHI,KHO,KHU,KK,KKA,
KKE,KKEE,KKI,KKO,KKU,LA,LE,LEE,LHA,LHE,LHEE,LHI,LHO,LHU,LI,LO,LU,MA,ME,MEE,MI,MO,MU,NA,NE,NEE,NG,NI,
NO,NU,P,PA,PE,PEE,PI,PO,PU,RA,RE,REE,RI,RO,RU,SA,SE,SEE,SH,SHA,SHE,SHEE,SHI,SHO,SHU,SI,SO,SU,THA,
THE,THEE,THI,THO,THU,TLA,TLE,TLEE,TLHA,TLHE,TLHEE,TLHI,TLHO,TLHU,TLI,TLO,TLU,TSA,TSE,TSEE,TSI,TSO,
TSU,TTA,TTE,TTEE,TTI,TTO,TTSA,TTSE,TTSEE,TTSI,TTSO,TTSU,TTU,WA,WE,WEE,WI,WO,WU,YA,YE,YEE,YI,YO,YU,Z,
ZA,ZE,ZEE,ZI,ZO,ZU
 FINAL:ACUTE,BOTTOM HALF RING,DOUBLE ACUTE,DOUBLE SHORT VERTICAL STROKES,DOWN TACK,GRAVE,MIDDLE DOT,
PLUS,RAISED DOT,RIGHT HALF RING,RING,SHORT HORIZONTAL STROKE,SMALL RING,TOP HALF RING
 N-CREE:THE,THI,THII
 NASKAPI:CWAA,KWAA,MWAA,NWAA,S-W,SCWA,SKW,SKWA,SPWA,STWA,SWAA,TWAA,WAA,WOO,YWAA
 NATTILIK:HA,HAA,HI,HII,HO,HOO,SHRA,SHRAA,SHRI,SHRII,SHRO,SHROO
 NUNAVIK:H,HA,HAA,HE,HI,HII,HO,HOO
 OJIBWAY:C,K,M,N,NWI,NWII,NWO,NWOO,P,S,SH,T
 SAYISI:HA,HE,HI,HO,HOO,JI,JU,JUU,M,SHA,SHE,SHI,SHO,SHOO,SHWE,TH,YI
 SOUTH-SLAVEY:KAH,KEH,KIH,KOH
 TH-CREE:TH,THA,THAA,THE,THI,THII,THO,THOO
 WEST-CREE:CWA,CWAA,CWE,CWI,CWII,CWO,CWOO,FWAA,KWA,KWAA,KWE,KWI,KWII,KWO,KWOO,L,LA,LAA,LE,LO,LOO,
LWA,LWAA,LWE,LWI,LWII,LWO,LWOO,M,MWA,MWAA,MWE,MWI,MWII,MWO,MWOO,NWA,NWAA,NWE,P,PWA,PWAA,PWE,PWI,
PWII,PWO,PWOO,R,RA,RE,RI,RO,RWAA,SHWA,SHWAA,SHWE,SHWI,SHWII,SHWO,SHWOO,SWA,SWAA,SWE,SWI,SWII,SWO,
SWOO,THWAA,TWA,TWAA,TWE,TWI,TWII,TWO,TWOO,WA,WAA,WE,WI,WII,WO,WOO,Y,YWA,YWAA,YWE,YWI,YWII,YWO,YWOO
 WOODS-CREE:FINAL TH,TH,THA,THE,THI,THO,THWA,THWAA,THWEE,THWI,THWII,THWO,THWOO
 Y-CREE:COO,KOO,LOO,MOO,NOO,OO,POO,PWAA,SOO,TOO,W,YOO
CARD:FILE BOX,INDEX,INDEX DIVIDERS
CARIAN LETTER:A,A2,B,C-18,C-39,D,D2,E,E2,G,G2,I,II,K,K2,L,LD,LD2,M,MB,MB2,MB3,MB4,N,ND,NG,NN,O,P,P2,
Q,R,RR,S,SH,SH2,SS,ST,ST2,T,TT,TT2,U,UU,UUU,UUU2,UUU3,UUUU,X
CAUCASIAN ALBANIAN:CITATION MARK
 LETTER:ALT,AOR,BET,CAR,CAYN,CHA,CHAT,CHI,CHOY,CYAW,CYAY,DAT,DYAN,DZAY,DZYAY,EB,EYN,FAM,GHEYS,GIM,
HEYT,INYA,IRB,IWN,JAYN,JHOX,KAR,KIW,LAN,LYIT,MAQ,NOWC,ON,PEN,PIWR,QAR,QAY,RAT,SEYK,SHA,SHAK,SHOY,
TAS,TIWR,TYAY,VEYZ,XEYN,YAYD,YOWD,ZARL,ZHA,ZHIL
CHAKMA:AU MARK,DANDA,DOUBLE DANDA,MAAYYAA,O MARK,QUESTION MARK,SECTION MARK,VIRAMA
 DIGIT:EIGHT,FIVE,FOUR,NINE,ONE,SEVEN,SIX,THREE,TWO,ZERO
 LETTER:AA,BAA,BHAA,CAA,CHAA,DAA,DDAA,DDHAA,DHAA,E,GAA,GHAA,HAA,I,JAA,JHAA,KAA,KHAA,LAA,LHAA,MAA,
NAA,NGAA,NNAA,NYAA,PAA,PHAA,RAA,SAA,TAA,THAA,TTAA,TTHAA,U,VAA,WAA,YAA,YYAA
 SIGN:ANUSVARA,CANDRABINDU,VISARGA
 VOWEL SIGN:A,AA,AI,AU,E,EI,I,II,O,OI,U,UU
CHAM:
 CONSONANT SIGN:LA,RA,WA,YA
  FINAL:H,M,NG
 DIGIT:EIGHT,FIVE,FOUR,NINE,ONE,SEVEN,SIX,THREE,TWO,ZERO
 LETTER:A,AI,BA,BBA,BHA,CHA,CHHA,DA,DDA,DHA,E,GA,GHA,HA,I,JA,JHA,KA,KHA,LA,MA,MUE,NA,NGA,NGUE,NHA,
NHJA,NHUE,NUE,O,PA,PHA,PPA,RA,SA,SSA,TA,THA,U,VA,YA
  FINAL:CH,G,K,L,N,NG,P,R,SS,T,Y
 PUNCTUATION:DANDA,DOUBLE DANDA,SPIRAL,TRIPLE DANDA
 VOWEL SIGN:AA,AI,AU,EI,I,II,O,OE,U,UE
CHARACTER:TABULATION,TABULATION SET,TABULATION WITH JUSTIFICATION,TIE
CHART WITH:DOWNWARDS TREND,UPWARDS TREND,UPWARDS TREND AND YEN SIGN
CHEROKEE:
 LETTER:A,DA,DE,DI,DLA,DO,DU,DV,E,GA,GE,GI,GO,GU,GV,HA,HE,HI,HNA,HO,HU,HV,I,KA,LA,LE,LI,LO,LU,LV,MA,
ME,MI,MO,MU,MV,NA,NAH,NE,NI,NO,NU,NV,O,QUA,QUE,QUI,QUO,QUU,QUV,S,SA,SE,SI,SO,SU,SV,TA,TE,TI,TLA,TLE,
TLI,TLO,TLU,TLV,TSA,TSE,TSI,TSO,TSU,TSV,U,V,WA,WE,WI,WO,WU,WV,YA,YE,YI,YO,YU,YV
 SMALL LETTER:A,DA,DE,DI,DLA,DO,DU,DV,E,GA,GE,GI,GO,GU,GV,HA,HE,HI,HNA,HO,HU,HV,I,KA,LA,LE,LI,LO,LU,
LV,MA,ME,MI,MO,MU,MV,NA,NAH,NE,NI,NO,NU,NV,O,QUA,QUE,QUI,QUO,QUU,QUV,S,SA,SE,SI,SO,SU,SV,TA,TE,TI,
TLA,TLE,TLI,TLO,TLU,TLV,TSA,TSE,TSI,TSO,TSU,TSV,U,V,WA,WE,WI,WO,WU,WV,YA,YE,YI,YO,YU,YV
CHORASMIAN:
 LETTER:ALEPH,AYIN,BETH,CURLED WAW,DALETH,GIMEL,HE,HETH,KAPH,LAMEDH,MEM,NUN,PE,RESH,SAMEKH,SHIN,
SMALL ALEPH,TAW,WAW,YODH,ZAYIN
 NUMBER:FOUR,ONE,ONE HUNDRED,TEN,THREE,TWENTY,TWO
CIRCLE:DIVIDED BY HORIZONTAL BAR AND TOP HALF DIVIDED BY VERTICAL BAR
 WITH:ALL BUT UPPER LEFT QUADRANT BLACK,HORIZONTAL BAR,LEFT HALF BLACK,LOWER HALF BLACK,
RIGHT HALF BLACK,SMALL CIRCLE TO THE RIGHT,SUPERIMPOSED X,TWO HORIZONTAL STROKES TO THE RIGHT,
UPPER HALF BLACK,UPPER RIGHT QUADRANT BLACK,VERTICAL FILL
CIRCLED:ANTICLOCKWISE ARROW,ANTICLOCKWISE-ROTATED DIVISION SIGN,ASTERISK OPERATOR,BOLD X,BULLET,
C WITH OVERLAID BACKSLASH,CC,CD,CROSSING LANES,DASH,DIVISION SIGN,DIVISION SLASH,
DOLLAR SIGN WITH OVERLAID BACKSLASH,DOT OPERATOR,EQUALS,GREATER-THAN,HEAVY WHITE RIGHTWARDS ARROW,
HORIZONTAL BAR WITH NOTCH,HUMAN FIGURE,INFORMATION SOURCE,ITALIC LATIN CAPITAL LETTER C,
ITALIC LATIN CAPITAL LETTER R,KOREAN CHARACTER CHAMKO,KOREAN CHARACTER JUEUI,LESS-THAN,MINUS,
MULTIPLICATION SIGN WITH CIRCUMFLEX ACCENT,OPEN CENTRE EIGHT POINTED STAR,PARALLEL,PERPENDICULAR,
PLUS,POSTAL MARK,REVERSE SOLIDUS,RING OPERATOR,SQUARE,TIMES,TRIANGLE,TRIANGLE DOWN,VERTICAL BAR,
WHITE BULLET,WHITE STAR,WZ,X,ZERO WITH SLASH
 CROSS:FORMEE,FORMEE WITH FOUR DOTS,FORMEE WITH TWO DOTS,POMMEE
 DIGIT:EIGHT,FIVE,FOUR,NINE,ONE,SEVEN,SIX,THREE,TWO,ZERO
 HANGUL:CHIEUCH,CHIEUCH A,CIEUC,CIEUC A,HIEUH,HIEUH A,IEUNG,IEUNG A,IEUNG U,KHIEUKH,KHIEUKH A,
KIYEOK,KIYEOK A,MIEUM,MIEUM A,NIEUN,NIEUN A,PHIEUPH,PHIEUPH A,PIEUP,PIEUP A,RIEUL,RIEUL A,SIOS,
SIOS A,THIEUTH,THIEUTH A,TIKEUT,TIKEUT A
 IDEOGRAPH:ACCEPT,ADVANTAGE,ALLIANCE,ATTENTION,CENTRE,CONGRATULATION,COPY,CORRECT,EARTH,EIGHT,
ENTERPRISE,EXCELLENT,FEMALE,FINANCIAL,FIRE,FIVE,FOUR,HAVE,HIGH,ITEM,KINDERGARTEN,KOTO,LABOR,LEFT,
LOW,MALE,MEDICINE,METAL,MOON,NAME,NIGHT,NINE,ONE,PRINT,QUESTION,RELIGION,RESOURCE,REST,RIGHT,SCHOOL,
SECRET,SEVEN,SIX,SOCIETY,SPECIAL,STOCK,STUDY,SUITABLE,SUN,SUPERVISE,TEN,THREE,TWO,WATER,WOOD
 KATAKANA:A,E,HA,HE,HI,HO,HU,I,KA,KE,KI,KO,KU,MA,ME,MI,MO,MU,NA,NE,NI,NO,NU,O,RA,RE,RI,RO,RU,SA,SE,
SI,SO,SU,TA,TE,TI,TO,TU,U,WA,WE,WI,WO,YA,YO,YU
 LATIN:
  CAPITAL LETTER:A,B,C,D,E,F,G,H,I,J,K,L,M,N,O,P,Q,R,S,T,U,V,W,X,Y,Z
  SMALL LETTER:A,B,C,D,E,F,G,H,I,J,K,L,M,N,O,P,Q,R,S,T,U,V,W,X,Y,Z
 NUMBER:EIGHTEEN,EIGHTY ON BLACK SQUARE,ELEVEN,FIFTEEN,FIFTY,FIFTY ON BLACK SQUARE,FORTY,FOURTEEN,
NINETEEN,SEVENTEEN,SEVENTY ON BLACK SQUARE,SIXTEEN,SIXTY ON BLACK SQUARE,TEN,TEN ON BLACK SQUARE,
THIRTEEN,THIRTY,TWELVE,TWENTY
  FORTY:EIGHT,FIVE,FOUR,NINE,ON BLACK SQUARE,ONE,SEVEN,SIX,THREE,TWO
  THIRTY:EIGHT,FIVE,FOUR,NINE,ON BLACK SQUARE,ONE,SEVEN,SIX,THREE,TWO
  TWENTY:EIGHT,FIVE,FOUR,NINE,ON BLACK SQUARE,ONE,SEVEN,SIX,THREE,TWO
CJK:
 RADICAL:BAMBOO,BLUE,BOLT OF CLOTH,BONE,BOX,BRUSH ONE,BRUSH TWO,CHOKE,CITY,CIVILIAN,CLIFF,CLOTHES,
COW,DEATH,DIVINATION,DOG,EWE,EYE,FIRE,FOOT,GHOST,HAND,HEAD,HEART ONE,HEART TWO,HORN,JADE,KNIFE ONE,
KNIFE TWO,LONG ONE,LONG TWO,MEAT,MESH,MOON,MORTAR,MOTHER,MOUND ONE,MOUND TWO,OLD,PAW ONE,PAW TWO,
PERSON,RAIN,RAM,RAP,REPEAT,SEAL,SHEEP,SILK,SMALL ONE,SMALL TWO,SNAKE,SNOUT ONE,SNOUT TWO,SPIRIT ONE,
SPIRIT TWO,SUN,TABLE,THREAD,TIGER,TURTLE,WALK ONE,WALK TWO,WATER ONE,WATER TWO,WEST ONE,WEST TWO
  C-SIMPLIFIED:BIRD,CART,DRAGON,EAT,EVEN,FISH,FLY,FROG,GATE,GOLD,HORSE,LEAF,LONG,SALT,SEE,SHELL,
SILK,SPEECH,TANNED LEATHER,TOOTH,TURTLE,WIND
  EAT:ONE,THREE,TWO
  GRASS:ONE,THREE,TWO
  J-SIMPLIFIED:DRAGON,EVEN,TOOTH,TURTLE
  LAME:FOUR,ONE,THREE,TWO
  NET:FOUR,ONE,THREE,TWO
  SECOND:ONE,THREE,TWO
  SIMPLIFIED:HALF TREE TRUNK,HORN,WALK,WHEAT,YELLOW
 STROKE:BXG,D,H,HG,HP,HPWG,HXWG,HZ,HZG,HZT,HZW,HZWG,HZZ,HZZP,HZZZ,HZZZG,N,P,PD,PG,PZ,Q,S,SG,SP,ST,
SW,SWG,SWZ,SZ,SZWG,SZZ,T,TN,WG,XG
CLOCK FACE:EIGHT OCLOCK,EIGHT-THIRTY,ELEVEN OCLOCK,ELEVEN-THIRTY,FIVE OCLOCK,FIVE-THIRTY,
FOUR OCLOCK,FOUR-THIRTY,NINE OCLOCK,NINE-THIRTY,ONE OCLOCK,ONE-THIRTY,SEVEN OCLOCK,SEVEN-THIRTY,
SIX OCLOCK,SIX-THIRTY,TEN OCLOCK,TEN-THIRTY,THREE OCLOCK,THREE-THIRTY,TWELVE OCLOCK,TWELVE-THIRTY,
TWO OCLOCK,TWO-THIRTY
CLOCKWISE:CLOSED CIRCLE ARROW,CONTOUR INTEGRAL,DOWNWARDS AND UPWARDS OPEN CIRCLE ARROWS,
GAPPED CIRCLE ARROW,INTEGRAL,OPEN CIRCLE ARROW,RIGHT AND LEFT SEMICIRCLE ARROWS,
RIGHTWARDS AND LEFTWARDS OPEN CIRCLE ARROWS,
RIGHTWARDS AND LEFTWARDS OPEN CIRCLE ARROWS WITH CIRCLED ONE OVERLAY,TOP SEMICIRCLE ARROW,
TRIANGLE-HEADED OPEN CIRCLE ARROW
CLOSED:BOOK,INTERSECTION WITH SERIFS,LOCK WITH KEY,MAILBOX WITH LOWERED FLAG,
MAILBOX WITH RAISED FLAG,SUBSET,SUBSET OR EQUAL TO,SUPERSET,SUPERSET OR EQUAL TO,UMBRELLA,
UNION WITH SERIFS,UNION WITH SERIFS AND SMASH PRODUCT
CLOUD WITH:LIGHTNING,RAIN,SNOW,TORNADO
COMBINING:ACUTE-GRAVE-ACUTE,ACUTE-MACRON,ALMOST EQUAL TO ABOVE,ALMOST EQUAL TO BELOW,ANNUITY SYMBOL,
ANTICLOCKWISE ARROW ABOVE,ANTICLOCKWISE RING OVERLAY,ASTERISK ABOVE,ASTERISK BELOW,BINDU BELOW,
BREVE,BREVE BELOW,BREVE-MACRON,BRIDGE ABOVE,BRIDGE BELOW,CANDRABINDU,CARON,CARON BELOW,CEDILLA,
CIRCUMFLEX ACCENT,CIRCUMFLEX ACCENT BELOW,CLOCKWISE ARROW ABOVE,CLOCKWISE RING OVERLAY,
CONJOINING MACRON,CONJOINING MACRON BELOW,DELETION MARK,DIAERESIS,DIAERESIS BELOW,DIAERESIS-RING,
DOTTED ACUTE ACCENT,DOTTED GRAVE ACCENT,DOUBLED CIRCUMFLEX ACCENT,DOWN TACK BELOW,DOWNWARDS ARROW,
EQUALS SIGN BELOW,FERMATA,FOUR DOTS ABOVE,GRAPHEME JOINER,GRAVE-ACUTE-GRAVE,GRAVE-MACRON,
HOMOTHETIC ABOVE,HOOK ABOVE,HORN,INFINITY,IS BELOW,KATAKANA-HIRAGANA SEMI-VOICED SOUND MARK,
KATAKANA-HIRAGANA VOICED SOUND MARK,KAVYKA ABOVE LEFT,KAVYKA ABOVE RIGHT,LEFTWARDS ARROW OVERLAY,
LEFTWARDS HARPOON WITH BARB DOWNWARDS,LIGHT CENTRALIZATION STROKE BELOW,LOW LINE,MACRON,
MACRON-ACUTE,MACRON-BREVE,MACRON-GRAVE,MINUS SIGN BELOW,NOT TILDE ABOVE,NUMBER SIGN ABOVE,OGONEK,
OGONEK ABOVE,OPEN MARK BELOW,OVERLINE,PALATALIZED HOOK BELOW,PLUS SIGN ABOVE,PLUS SIGN BELOW,
RETROFLEX HOOK BELOW,REVERSE SOLIDUS OVERLAY,REVERSED COMMA ABOVE,
RIGHTWARDS HARPOON WITH BARB DOWNWARDS,SEAGULL BELOW,SNAKE BELOW,SQUARE BELOW,SQUARE BRACKETS ABOVE,
STRONG CENTRALIZATION STROKE BELOW,SUSPENSION MARK,THREE DOTS ABOVE,TILDE,TURNED COMMA ABOVE,
UP TACK ABOVE,UP TACK BELOW,UPWARDS ARROW BELOW,UR ABOVE,US ABOVE,WIDE BRIDGE ABOVE,
WIDE INVERTED BRIDGE BELOW,WIGGLY LINE BELOW,X ABOVE,X BELOW,X-X BELOW,ZIGZAG ABOVE,ZIGZAG BELOW
 ACUTE:ACCENT,ACCENT BELOW,TONE MARK
 COMMA:ABOVE,ABOVE RIGHT,BELOW
 CYRILLIC:DASIA PNEUMATA,HUNDRED MILLIONS SIGN,HUNDRED THOUSANDS SIGN,KAVYKA,MILLIONS SIGN,
PALATALIZATION,PAYEROK,POKRYTIE,PSILI PNEUMATA,TEN MILLIONS SIGN,THOUSAND MILLIONS SIGN,TITLO,
TITLO LEFT HALF,TITLO RIGHT HALF,VZMET
  LETTER:A,BE,BIG YUS,CHE,DE,DJERV,EF,EL,EM,EN,ER,ES,ES-TE,FITA,GHE,HA,HARD SIGN,I,IE,KA,LITTLE YUS,
MONOGRAPH UK,O,OMEGA,PE,SHA,SHCHA,SOFT SIGN,TE,TSE,U,UKRAINIAN IE,VE,YAT,YERU,YI,YU,ZE,ZHE
   IOTIFIED:A,BIG YUS,E
 DEVANAGARI:SIGN AVAGRAHA
  DIGIT:EIGHT,FIVE,FOUR,NINE,ONE,SEVEN,SIX,THREE,TWO,ZERO
  LETTER:A,KA,NA,PA,RA,U,VI
 DOT:ABOVE,ABOVE LEFT,ABOVE RIGHT,BELOW,BELOW LEFT
 DOUBLE:ACUTE ACCENT,BREVE,BREVE BELOW,CIRCUMFLEX ABOVE,GRAVE ACCENT,INVERTED BREVE,
INVERTED BREVE BELOW,LOW LINE,MACRON,MACRON BELOW,OPEN MARK BELOW,OVERLINE,PARENTHESES ABOVE,
PLUS SIGN ABOVE,PLUS SIGN BELOW,RIGHTWARDS ARROW BELOW,RING BELOW,TILDE,TILDE LEFT HALF,
TILDE RIGHT HALF
  VERTICAL:LINE ABOVE,LINE BELOW,STROKE OVERLAY
 ENCLOSING:CIRCLE,CIRCLE BACKSLASH,DIAMOND,KEYCAP,SCREEN,SQUARE,UPWARD POINTING TRIANGLE
 GLAGOLITIC LETTER:AZU,BIG YUS,BUKY,CHRIVI,DJERVI,DOBRO,FITA,FRITU,GLAGOLI,HERU,I,INITIAL IZHE,
IOTATED BIG YUS,IOTATED SMALL YUS,IZHE,KAKO,LJUDIJE,MYSLITE,NASHI,ONU,POKOJI,RITSI,SHA,SHTA,SLOVO,
SMALL YUS,TSI,TVRIDO,UKU,VEDE,YATI,YERI,YERU,YESTU,YO,YU,ZEMLJA,ZHIVETE
 GRANTHA:
  DIGIT:FIVE,FOUR,ONE,SIX,THREE,TWO,ZERO
  LETTER:A,KA,NA,PA,VI
 GRAVE:ACCENT,ACCENT BELOW,TONE MARK
 GREEK:DIALYTIKA TONOS,KORONIS,PERISPOMENI,YPOGEGRAMMENI
  MUSICAL:PENTASEME,TETRASEME,TRISEME
 INVERTED:BREVE,BREVE BELOW,BRIDGE BELOW,DOUBLE ARCH ABOVE,DOUBLE ARCH BELOW
 LATIN:
  LETTER SMALL CAPITAL:G,L,M,N,R
  SMALL LETTER:A,A WITH DIAERESIS,AE,ALPHA,AO,AV,B,BETA,C,C CEDILLA,D,E,ESH,ETH,F,
FLATTENED OPEN A ABOVE,G,H,I,K,L,L WITH DOUBLE MIDDLE TILDE,LONG S,M,N,O,O WITH DIAERESIS,
O WITH LIGHT CENTRALIZATION STROKE,P,R,R BELOW,R ROTUNDA,S,SCHWA,T,TURNED W BELOW,U,
U WITH DIAERESIS,U WITH LIGHT CENTRALIZATION STROKE,V,W,W BELOW,X,Z
   INSULAR:D,G,R,T
 LEFT:ANGLE ABOVE,ANGLE BELOW,ARROW ABOVE,ARROW BELOW,ARROWHEAD ABOVE,ARROWHEAD BELOW,
HALF RING ABOVE,HALF RING BELOW,HARPOON ABOVE,PARENTHESIS ABOVE LEFT,PARENTHESIS BELOW LEFT,
RIGHT ARROW ABOVE,RIGHT ARROW BELOW,TACK BELOW
 LIGATURE:LEFT HALF,LEFT HALF BELOW,RIGHT HALF,RIGHT HALF BELOW
 LONG:DOUBLE SOLIDUS OVERLAY,SOLIDUS OVERLAY,STROKE OVERLAY,VERTICAL LINE OVERLAY
 MACRON:BELOW,LEFT HALF,LEFT HALF BELOW,RIGHT HALF,RIGHT HALF BELOW
 OLD PERMIC LETTER:AN,DOI,NENOE,SII,ZATA
 PARENTHESES:ABOVE,BELOW,OVERLAY
 RIGHT:ARROW ABOVE,ARROW BELOW,HALF RING ABOVE,HALF RING BELOW,HARPOON ABOVE,
PARENTHESIS ABOVE RIGHT,PARENTHESIS BELOW RIGHT,TACK BELOW
  ARROWHEAD:ABOVE,AND DOWN ARROWHEAD BELOW,AND UP ARROWHEAD BELOW,BELOW
 RING:ABOVE,BELOW,OVERLAY
 SHORT:SOLIDUS OVERLAY,STROKE OVERLAY,VERTICAL LINE OVERLAY
 TILDE:BELOW,LEFT HALF BELOW,OVERLAY,RIGHT HALF BELOW
 TRIPLE:ACUTE ACCENT,DOT,UNDERDOT
 VERTICAL:LINE ABOVE,LINE BELOW,TILDE
CONTAINS:
 AS:MEMBER,NORMAL SUBGROUP,NORMAL SUBGROUP OR EQUAL TO
 WITH:LONG HORIZONTAL STROKE,OVERBAR,VERTICAL BAR AT END OF HORIZONTAL STROKE
COPTIC:FRACTION ONE HALF,FULL STOP,MORPHOLOGICAL DIVIDER
 CAPITAL LETTER:AKHMIMIC KHEI,ALFA,BOHAIRIC KHEI,CROSSED SHEI,DALDA,DEI,EIE,FEI,FI,GAMMA,GANGIA,
HATE,HORI,IAUDA,KAPA,KHEI,KHI,KSI,L-SHAPED HA,LAULA,MI,NI,O,OOU,PI,PSI,RO,SAMPI,SHEI,SHIMA,SIMA,SOU,
TAU,THETHE,UA,VIDA,ZATA
  CRYPTOGRAMMIC:EIE,GANGIA,NI,SHEI
  DIALECT-P:ALEF,HORI,KAPA,NI
  OLD:
   COPTIC:AIN,DJA,ESH,GANGIA,HA,HAT,HEI,HORI,OOU,SHEI,SHIMA
   NUBIAN:NGI,NYI,SHIMA,WAU
 COMBINING:NI ABOVE,SPIRITUS ASPER,SPIRITUS LENIS
 EPACT:THOUSANDS MARK
  DIGIT:EIGHT,FIVE,FOUR,NINE,ONE,SEVEN,SIX,THREE,TWO
  NUMBER:EIGHT HUNDRED,EIGHTY,FIFTY,FIVE HUNDRED,FORTY,FOUR HUNDRED,NINE HUNDRED,NINETY,ONE HUNDRED,
SEVEN HUNDRED,SEVENTY,SIX HUNDRED,SIXTY,TEN,THIRTY,THREE HUNDRED,TWENTY,TWO HUNDRED
 OLD NUBIAN:DIRECT QUESTION MARK,FULL STOP,INDIRECT QUESTION MARK,VERSE DIVIDER
 SMALL LETTER:AKHMIMIC KHEI,ALFA,BOHAIRIC KHEI,CROSSED SHEI,DALDA,DEI,EIE,FEI,FI,GAMMA,GANGIA,HATE,
HORI,IAUDA,KAPA,KHEI,KHI,KSI,L-SHAPED HA,LAULA,MI,NI,O,OOU,PI,PSI,RO,SAMPI,SHEI,SHIMA,SIMA,SOU,TAU,
THETHE,UA,VIDA,ZATA
  CRYPTOGRAMMIC:EIE,GANGIA,NI,SHEI
  DIALECT-P:ALEF,HORI,KAPA,NI
  OLD:
   COPTIC:AIN,DJA,ESH,GANGIA,HA,HAT,HEI,HORI,OOU,SHEI,SHIMA
   NUBIAN:NGI,NYI,SHIMA,WAU
 SYMBOL:KAI,KHI RO,MI RO,PI RO,SHIMA SIMA,STAUROS,TAU RO
COUNTING ROD:
 TENS DIGIT:EIGHT,FIVE,FOUR,NINE,ONE,SEVEN,SIX,THREE,TWO
 UNIT DIGIT:EIGHT,FIVE,FOUR,NINE,ONE,SEVEN,SIX,THREE,TWO
CROSS:MARK,OF JERUSALEM,OF LORRAINE,PATTY WITH LEFT CROSSBAR,PATTY WITH RIGHT CROSSBAR,POMMEE,
POMMEE WITH HALF-CIRCLE BELOW
CROSSED:FLAGS,NEGATIVE SQUARED LATIN CAPITAL LETTER P,SWORDS
CUNEIFORM:
 NUMERIC SIGN:NIGIDAESH,NIGIDAMIN,OLD ASSYRIAN ONE QUARTER,OLD ASSYRIAN ONE SIXTH,
SHAR2 TIMES GAL PLUS DISH,SHAR2 TIMES GAL PLUS MIN
  EIGHT:ASH,DISH,GESH2,SHAR2,U,U VARIANT FORM,VARIANT FORM USSU,VARIANT FORM USSU3
  ELAMITE:FIFTY,FORTY,ONE THIRD,TWO THIRDS
  FIVE:ASH,ASH TENU,BAN2,BAN2 VARIANT FORM,BURU,DISH,GESH2,GESHU,SHAR2,SHARU,SIXTHS DISH,U,
U VARIANT FORM
  FOUR:ASH,ASH TENU,BAN2,BAN2 VARIANT FORM,BURU,DISH,GESH2,GESHU,SHAR2,SHARU,U,U VARIANT FORM
   VARIANT FORM:LIMMU,LIMMU A,LIMMU B,LIMMU4
  NINE:ASH,DISH,GESH2,SHAR2,U,U VARIANT FORM
   VARIANT FORM:ILIMMU,ILIMMU A,ILIMMU3,ILIMMU4
  ONE:BAN2,BURU,EIGHTH ASH,ESHE3,GESH2,GESHU,HALF GUR,QUARTER ASH,QUARTER GUR,SHARU,THIRD DISH,
THIRD VARIANT FORM A
  SEVEN:ASH,DISH,GESH2,SHAR2,U,U VARIANT FORM
   VARIANT FORM:IMIN A,IMIN B,IMIN3
  SIX:ASH,ASH TENU,DISH,GESH2,SHAR2,U,U VARIANT FORM,VARIANT FORM ASH9
  THREE:ASH,ASH TENU,BAN2,BURU,BURU VARIANT FORM,DISH,GESH2,GESHU,SHAR2,SHAR2 VARIANT FORM,SHARU,
SHARU VARIANT FORM,VARIANT FORM ESH16,VARIANT FORM ESH21
  TWO:ASH,ASH TENU,BAN2,BURU,ESHE3,GESH2,GESHU,SHAR2,SHARU,THIRDS DISH,THIRDS VARIANT FORM A
 PUNCTUATION SIGN:OLD ASSYRIAN WORD DIVIDER,VERTICAL COLON
  DIAGONAL:COLON,QUADCOLON,TRICOLON
 SIGN:A,A2,AB,AB2,AD,AD TIMES ESH2,AK,AK TIMES ERIN2,AK TIMES SHITA PLUS GISH,AL,ALAN,ALEPH,AMAR,
AMAR TIMES KUG,AMAR TIMES SHE,AN,ANSHE,APIN,ARAD,ARAD TIMES KUR,ARKAB,ASAL2,ASH,ASH2,ASHGAB,BA,BAD,
BAD TIMES DISH TENU,BAG3,BAHAR2,BAL,BAL OVER BAL,BALAG,BAR,BARA2,BI,BU,BULUG,BULUG OVER BULUG,BUR,
BUR2,DA,DA TIMES TAK4,DAG,DAG3,DAM,DAR,DARA3,DARA4,DI,DIB,DIM,DIM2,DIM2 TIMES UD,DIN,
DIN KASKAL U GUNU DISH,DISH,DISH PLUS SHU,DU,DUB,DUB TIMES ESH2,DUB TIMES SHE,DUB2,DUG,DUGUD,DUH,
DUN,DUN3,DUN3 GUNU,DUN3 GUNU GUNU,DUN4,DUR2,E,E OVER E NUN OVER NUN,E TIMES PAP,E2,EDIN,EGIR,EL,EN,
EREN,ERIN2,ERIN2 X,ESH2,ESH2 CROSSING ESH2,EZEN,GA,GA GUNU,GA2,GABA,GABA CROSSING GABA,
GABA ROTATED NINETY DEGREES,GAD,GAD OVER GAD GAR OVER GAR,GAL,GAL GAD OVER GAD GAR OVER GAR,GALAM,
GAM,GAN,GAN2,GAR,GAR3,GASHAN,GE22,GESHTIN,GESHTIN TIMES KUR,GESHTIN TIMES U,GI,GI4,GI4 CROSSING GI4,
GI4 OVER GI4,GIDIM,GIG,GIR2,GIR2 GUNU,GIR3,GISAL,GISH,GU,GU CROSSING GU,GU2,GUD,GUL,GUM,
GUM TIMES SHE,GUR,GUR7,GURUN,GURUSH,HA,HAL,HI,HU,HUB2,HUL2,HUSH,I,I A,IB,IDIM,IDIM OVER IDIM BUR,
IDIM OVER IDIM SQUARED,IG,IGI,IL,IL TIMES GAN2 TENU,IL2,IM,IMIN,IN,IR,ISH,KA,KA2,KA2 CROSSING KA2,
KAB,KAD2,KAD3,KAD4,KAD5,KAD5 OVER KAD5,KAK,KAK TIMES IGI GUNU,KAL,KAL CROSSING KAL,KAL TIMES BAD,
KAM2,KAM4,KAP ELAMITE,KASKAL,KASKAL LAGAB TIMES U OVER LAGAB TIMES U,
KASKAL OVER KASKAL LAGAB TIMES U OVER LAGAB TIMES U,KESH2,KI,KID,KIN,KISAL,KISH,KISIM5,
KISIM5 OVER KISIM5,KU,KU OVER HI TIMES ASH2 KU OVER HI TIMES ASH2,KU3,KU4,KU4 VARIANT FORM,KU7,KUL,
KUL GUNU,KUN,KUR,KUR OPPOSING KUR,KUSHU2,KWU318,LA,LAGAB,LAGAR,LAHSHU,LAK-003,LAK-021,LAK-025,
LAK-030,LAK-050,LAK-051,LAK-062,LAK-079 OVER LAK-079 GUNU,LAK-080,LAK-081 OVER LAK-081,LAK-092,
LAK-130,LAK-142,LAK-210,LAK-219,LAK-220,LAK-225,LAK-228,LAK-238,LAK-265,LAK-266,LAK-343,LAK-347,
LAK-348,LAK-383,LAK-384,LAK-390,LAK-441,LAK-449,LAK-450,LAK-457,LAK-470,LAK-483,LAK-490,LAK-492,
LAK-493,LAK-495,LAK-550,LAK-608,LAK-617,LAK-636,LAK-648,LAK-724,LAK-749,LAL,LAL TIMES LAL,LAM,
LAM TIMES KUR,LAM TIMES KUR PLUS RU,LI,LIL,LIMMU2,LISH,LU,LU TIMES BAD,LU2,LU3,LUGAL,LUH,LUL,LUM,
LUM OVER LUM,LUM OVER LUM GAR OVER GAR,MA,MA GUNU,MA TIMES TAK4,MA2,MAH,MAR,MASH,MASH2,ME,MES,MESH,
MI,MI PLUS ZA7,MIN,MU,MU OVER MU,MUG,MUG GUNU,MUNSUB,MURGU2,MUSH,MUSH3,NA,NA2,NA4,NAGA,NAGAR,NAM,
NAM NUTILLU,NAM2,NE,NI,NI TIMES E,NI2,NIM,NIM TIMES GAN2 TENU,NIM TIMES GAR PLUS GAN2 TENU,NIN,NIN9,
NINDA2,NISAG,NU,NU11,NUN,NUNUZ,PA,PAD,PAN,PAP,PESH2,PESH2 ASTERISK,PI,PIR2,PIRIG,RA,RAB,RI,RU,SA,
SAG,SAL,SAL LAGAB TIMES ASH2,SANGA2,SAR,SHA,SHA3,SHA6,SHA6 TENU,SHAB6,SHAR2,SHE,SHEG9,SHEN,SHESH,
SHESH2,SHESHLAM,SHID,SHID TIMES A,SHID TIMES IM,SHIM,SHINIG,SHIR,SHIR OVER SHIR BUR OVER BUR,
SHIR TENU,SHITA,SHU,SHU OVER INVERTED SHU,SHU2,SHU2 PLUS DUG TIMES NI,SHU2 PLUS E2 TIMES AN,SHUBUR,
SI,SI GUNU,SI TIMES TAK4,SIG,SIG4,SIG4 OVER SIG4 SHU2,SIK2,SILA3,SU,SU OVER SU,SUD,SUD2,SUHUR,SUM,
SUMASH,SUR,SUR9,TA,TAB,TAB OVER TAB NI OVER NI DISH OVER DISH,TAB SQUARED,TAG,TAK4,TAK4 PLUS SAG,
TAR,TE,TE GUNU,TI,TI TENU,TI2,TIL,TIR,TU,TUG2,TUK,TUM,TUM TIMES GAN2 TENU,TUM TIMES THREE DISH,TUR,
TUR OVER TUR ZA OVER ZA,U,U2,UB,UD,UDUG,UM,UMBIN,UMUM,UMUM TIMES KASKAL,UMUM TIMES PA,UN,UN GUNU,UR,
UR CROSSING UR,UR SHESHIG,UR2,UR4,URI,URI3,URU,URUDA,URUDA TIMES U,USH,USH2,USHUMX,USHX,UTUKI,UZ3,
UZ3 TIMES KASKAL,UZU,ZA,ZA SQUARED TIMES KUR,ZA TENU,ZA7,ZAG,ZAMX,ZE2,ZI,ZI OVER ZI,ZI3,ZIB,
ZIB KABA TENU,ZIG,ZIZ2,ZU,ZU OVER ZU PLUS SAR,ZU5,ZU5 TIMES A,ZU5 TIMES THREE DISH TENU,ZUBUR,ZUM
  A TIMES:A,BAD,GAN2 TENU,HA,IGI,LAGAR GUNU,MUSH,SAG
  AB:GUNU
   TIMES:ASH2,DUN3 GUNU,GAL,GAN2 TENU,HA,IGI GUNU,IMIN,LAGAB,NUN,NUN TENU,SHESH,SHU2,
U PLUS U PLUS U
  AB2 TIMES:A,BALAG,GAN2 TENU,ME PLUS EN,SHA3,TAK4
  AL TIMES:AL,DIM2,GISH,HA,KAD3,KI,SHE,USH
  AN:OVER AN,PLUS NAGA OPPOSING AN PLUS NAGA,PLUS NAGA SQUARED,THREE TIMES
  ASH:KABA TENU,ZIDA TENU
   OVER ASH:OVER ASH,OVER ASH CROSSING ASH OVER ASH OVER ASH,TUG2 OVER TUG2 TUG2 OVER TUG2 PAP
  BAHAR2 TIMES:AB2,NI,ZA
  BI TIMES:A,GAR,IGI GUNU
  BU:CROSSING BU
   OVER BU:AB,TIMES NA2,UN
  DAG:TIMES KUR
   KISIM5 TIMES:A PLUS MASH,AMAR,BALAG,BI,GA,GA PLUS MASH,GI,GIR2,GUD,HA,IR,IR PLUS LU,KAK,LA,LU,
LU PLUS MASH2,LUM,NE,PAP PLUS PAP,SI,TAK4,U2 PLUS GIR2,U2 PLUS MASH,USH
  DIM TIMES:IGI,SHE,U U U
  DU:GUNU,OVER DU,SHESHIG
  DUG TIMES:ANSHE,ASH,ASH AT LEFT,DIN,DUN,ERIN2,GA,GI,GIR2 GUNU,GISH,HA,HI,IGI GUNU,KASKAL,KUR,
KUSHU2,KUSHU2 PLUS KASKAL,LAK-020,LAM,LAM TIMES KUR,LUH PLUS GISH,MASH,MES,MI,NI,PI,SHE,SI GUNU
  E2 TIMES:A PLUS HA PLUS DA,GAR,KUR,MI,PAP,SAL,SHE,U
  EN:CROSSING EN,OPPOSING EN,SQUARED
   TIMES:GAN2,GAN2 TENU,ME
  EZEN:
   SHESHIG TIMES:ASH,HI,IGI GUNU,LA,LAL,ME,MES,SU
   TIMES:A,A PLUS LAL,A PLUS LAL TIMES LAL,AN,BAD,DUN3 GUNU,DUN3 GUNU GUNU,GUD,HA,HA GUNU,IGI GUNU,
KASKAL,KASKAL SQUARED,KU3,LA,LAL TIMES LAL,LI,LU,SHE,SU,U2,UD
  GA2:OVER GA2
   TIMES:AB2 TENU PLUS TAB,AN,AN PLUS KAK PLUS A,ASH,ASH2,ASH2 PLUS GAL,BAD,BAHAR2,BAR PLUS RA,BUR,
BUR PLUS RA,DA,DI,DIM GUNU,DIM TIMES SHE,DUB,DUG TIMES IGI GUNU,DUG TIMES KASKAL,EL,EL PLUS LA,EN,
EN TIMES GAN2 TENU,EREN,GA,GAN2 TENU,GAR,GAR PLUS DI,GAR PLUS NE,GI,GI4,GI4 PLUS A,GIR2 PLUS SU,
HA PLUS A,HA PLUS LU PLUS ESH2,HAL,HAL PLUS LA,HI PLUS LI,HUB2,IGI GUNU,ISH PLUS HU PLUS ASH,KAK,
KASKAL,KID,KID PLUS LAL,KU3 PLUS AN,KUSHU2 PLUS KASKAL,LA,LAM,LAM TIMES KUR,LUH,ME PLUS EN,MI,MUSH,
NE,NE PLUS E2,NE PLUS GI,NUN,NUN OVER NUN,PA,SAL,SAR,SHE,SHE PLUS TUR,SHID,SHIM,SUM,TAK4,U,UD,
UD PLUS DU,ZIZ2
    A PLUS:DA PLUS HA,HA,IGI
  GAN2:CROSSING GAN2,OVER GAN2,TENU
  GI:CROSSING GI,TIMES E,TIMES U
  GIR3 TIMES:A PLUS IGI,GAN2 TENU,IGI,LU PLUS IGI,PA
  GISH:CROSSING GISH,TENU
   TIMES:BAD,GISH CROSSING GISH,TAK4
  GU2:GUNU
   TIMES:IGI GUNU,KAK,KAK TIMES IGI GUNU,NUN,SAL PLUS TUG2
  GUD:OVER GUD LUGAL,PLUS GISH TIMES TAK4,TIMES A PLUS KUR,TIMES KUR
  HA:GUNU,TENU,TENU GUNU
  HI TIMES:ASH,ASH OVER HI TIMES ASH,ASH2,BAD,DISH,GAD,KIN,NUN,SHE,U
  HUB2 TIMES:AN,HAL,KASKAL,LISH,UD
  IGI:DIB,GUNU,OVER IGI SHIR OVER SHIR UD OVER UD,RI
  IM:CROSSING IM,OPPOSING IM,SQUARED,TIMES TAK4
  KA TIMES:A,AD,AD PLUS KU3,ANSHE,ASH2,ASH3,BAD,BALAG,BAR,BI,BU,ERIN2,ESH2,GA,GAL,GAN2 TENU,GAR,
GAR PLUS SHA3 PLUS A,GI,GIR2,GISH,GISH CROSSING GISH,GISH PLUS SAR,GU,GUD,GUR7,HI TIMES ASH2,IGI,IM,
KA,KAK,KI,KID,LI,LU,LUM,ME,MI,MI PLUS NUNUZ,NE,NUN,PA,PI,RU,SA,SAR,SHA,SHE,SHID,SHU,SHUL,SIG,SUHUR,
TAR,TU,U,U U U,U2,UD,UMUM TIMES PA,UR,UR2,USH,ZI
   ME PLUS:DU,GI,TE
  KI TIMES:BAD,U,UD
  LAGAB:SQUARED
   TIMES:A,AL,AN,ASH ZIDA TENU,BAD,BI,DAR,EN,GA,GAR,GI,GUD,GUD PLUS GUD,HA,HAL,HI TIMES NUN,
IGI GUNU,IM,IM PLUS HA,IM PLUS LU,KI,KIN,KU3,KUL,KUL PLUS HI PLUS A,LAGAB,LISH,LU,LUL,ME,ME PLUS EN,
MUSH,NE,SHE PLUS SUM,SHITA PLUS GISH PLUS ERIN2,SHITA PLUS GISH TENU,SHU2,SHU2 PLUS SHU2,SUM,TAG,
TAK4,TE PLUS A PLUS SU PLUS NA,U,U PLUS A,U PLUS U PLUS U,U2 PLUS ASH,UD,USH,ZU OVER ZU
    A PLUS:DA PLUS HA,GAR,LAL
  LAGAR:GUNU,GUNU OVER LAGAR GUNU SHE,TIMES SHE,TIMES SHE PLUS SUM
  LAK-449 TIMES:GU,IGI,PAP PLUS LU3,PAP PLUS PAP PLUS LU3,U2 PLUS BA
  LAK-617 TIMES:ASH,BAD,DUN3 GUNU GUNU,KU3,LA,TAR,TE,U2,UD,URUDA
  LAK-648 TIMES:DUB,GA,IGI,IGI GUNU,NI,PAP PLUS PAP PLUS LU3,SHESH PLUS KI,UD,URUDA
  LU2:CROSSING LU2,GUNU TIMES ASH,OPPOSING LU2,SHESHIG,SHESHIG TIMES BAD,SQUARED,TENU
   TIMES:AL,BAD,DISH,ESH2,ESH2 PLUS LAL,ESH2 TENU,GAN2 TENU,HAL,HI TIMES BAD,IM,KAD2,KAD3,
KAD3 PLUS ASH,KI,LA PLUS ASH,LAGAB,ME PLUS EN,NE,NU,PAP,PAP PLUS PAP PLUS LU3,SHU,SI PLUS ASH,
SIK2 PLUS BU,TAK4,TUG2
  LUGAL:OPPOSING LUGAL,OVER LUGAL,SHESHIG
  MUSH:CROSSING MUSH,OVER MUSH
   OVER MUSH TIMES:A PLUS NA,GA,KAK
   TIMES:A,KUR,ZA
  MUSH3:GUNU
   TIMES:A,A PLUS DI,DI,ZA
  NAGA:INVERTED,OPPOSING NAGA,TIMES SHU TENU
  NE:SHESHIG,TIMES A,TIMES UD
  NINDA2 TIMES:AN,ASH,ASH PLUS ASH,BAL,DIM GUNU,GI,GISH,GUD,GUL,HI,KESH2,LAK-050,MASH,
ME PLUS GAN2 TENU,NE,NUN,PAP PLUS PAP,SHE,U,U PLUS U,U2 PLUS ASH,URUDA,USH
   SHE PLUS:A AN,ASH,ASH PLUS ASH
  NU11:OVER NU11 BUR OVER BUR,ROTATED NINETY DEGREES,TENU
  NUN:CROSSING NUN,CROSSING NUN LAGAR OVER LAGAR,OVER NUN,TENU
   LAGAR TIMES:GAR,MASH,SAL,SAL OVER NUN LAGAR TIMES SAL,USH
  NUNUZ:KISIM5 TIMES BI,KISIM5 TIMES BI U
   AB2 TIMES:ASHGAB,BI,DUG,GUD,IGI GUNU,KAD3,LA,NE,SILA3,U2
  PI:CROSSING PI
   TIMES:A,AB,BI,BU,E,I,IB,U,U2
  PIRIG:OPPOSING PIRIG
   TIMES:KAL,UD,ZA
  SAG:GUNU,GUNU TIMES HA,NUTILLU,OVER SAG
   TIMES:A,DU,DUB,EN,HA,IGI GUNU,KAK,KUR,LUM,MI,NUN,SAL,SHE AT LEFT,SHID,TAB,TAK4,U2,UB,UM,UR,USH
  SHA3 TIMES:A,BAD,GISH,NE,SHU2,TUR,U,U PLUS A
  SHE:HU,OVER SHE,OVER SHE GAD OVER GAD GAR OVER GAR,OVER SHE TAB OVER TAB GAR OVER GAR
   PLUS:HUB2,NAM2,SAR
  SHIM TIMES:A,BAL,BULUG,DIN,GAR,IGI,IGI GUNU,KUSHU2,LUL,MUG,SAL
  TA:ASTERISK,GUNU,TIMES HI,TIMES MI
  TAG TIMES:BI,GUD,SHE,SHU,TUG2,UD
  TIR:OVER TIR,OVER TIR GAD OVER GAD GAR OVER GAR,TIMES TAK4
  U:GUD,U,U U
   OVER U:PA OVER PA GAR OVER GAR,SUR OVER SUR,U REVERSED OVER U REVERSED
  UD:GUNU,KUSHU2,SHESHIG,SHESHIG TIMES BAD
   TIMES:BAD,MI,U PLUS U PLUS U,U PLUS U PLUS U GUNU
  UM TIMES:LAGAB,ME,ME PLUS DA,SHA3,U
  UR2:INVERTED
   TIMES:A PLUS HA,A PLUS NA,AL,HA,NUN,U2,U2 PLUS ASH,U2 PLUS BI,UD
  URU TIMES:A,ASHGAB,BAR,DARA3,DUN,GA,GAL,GAN2 TENU,GAR,GU,HA,IGI,IM,ISH,KI,LAK-668,LU3,LUM,MIN,PA,
SHE,SIG4,TU,U PLUS GUD,UD,URUDA
  USH TIMES:A,KU,KUR,TAK4
CURLY:BRACKET EXTENSION,LOGICAL AND,LOGICAL OR,LOOP
CYPRIOT SYLLABLE:A,E,I,JA,JO,KA,KE,KI,KO,KU,LA,LE,LI,LO,LU,MA,ME,MI,MO,MU,NA,NE,NI,NO,NU,O,PA,PE,PI,
PO,PU,RA,RE,RI,RO,RU,SA,SE,SI,SO,SU,TA,TE,TI,TO,TU,U,WA,WE,WI,WO,XA,XE,ZA,ZO
CYPRO-MINOAN SIGN:CM001,CM002,CM004,CM005,CM006,CM007,CM008,CM009,CM010,CM011,CM012,CM012B,CM013,
CM015,CM017,CM019,CM021,CM023,CM024,CM025,CM026,CM027,CM028,CM029,CM030,CM033,CM034,CM035,CM036,
CM037,CM038,CM039,CM040,CM041,CM044,CM046,CM047,CM049,CM050,CM051,CM052,CM053,CM054,CM055,CM056,
CM058,CM059,CM060,CM061,CM062,CM063,CM064,CM066,CM067,CM068,CM069,CM070,CM071,CM072,CM073,CM074,
CM075,CM075B,CM076,CM078,CM079,CM080,CM081,CM082,CM083,CM084,CM085,CM086,CM087,CM088,CM089,CM090,
CM091,CM092,CM094,CM095,CM096,CM097,CM098,CM099,CM100,CM101,CM102,CM103,CM104,CM105,CM107,CM108,
CM109,CM110,CM112,CM114,CM301,CM302
CYRILLIC:KAVYKA,PAYEROK,THOUSANDS SIGN
 CAPITAL:
  LETTER:A,A WITH BREVE,A WITH DIAERESIS,ALEUT KA,BARRED O,BARRED O WITH DIAERESIS,BASHKIR KA,BE,
BIG YUS,BINOCULAR O,BLENDED YUS,BROAD OMEGA,BYELORUSSIAN-UKRAINIAN I,CCHE,CHE,CLOSED LITTLE YUS,
CROSSED O,DCHE,DE,DJE,DJERV,DOUBLE MONOCULAR O,DOUBLE O,DWE,DZE,DZELO,DZHE,DZWE,DZZE,DZZHE,E,
E WITH DIAERESIS,EF,EL,EM,EM WITH TAIL,EN,ER,ER WITH TICK,ES,ES WITH DESCENDER,FITA,GHE,GJE,HA,
HARD SIGN,HWE,I,IE,IE WITH BREVE,IE WITH GRAVE,IO,IOTA,IZHITSA,IZHITSA WITH DOUBLE GRAVE ACCENT,JE,
KA,KHAKASSIAN CHE,KJE,KOPPA,KSI,LHA,LITTLE YUS,LJE,MONOCULAR O,MONOGRAPH UK,NEUTRAL YER,NJE,O,
O WITH DIAERESIS,OMEGA,OMEGA WITH TITLO,OT,PE,PE WITH DESCENDER,PE WITH MIDDLE HOOK,PSI,QA,RHA,
ROUND OMEGA,SCHWA,SCHWA WITH DIAERESIS,SEMISOFT SIGN,SHA,SHCHA,SHHA,SHHA WITH DESCENDER,SHWE,
STRAIGHT U,STRAIGHT U WITH STROKE,TCHE,TE,TE WITH DESCENDER,TE WITH MIDDLE HOOK,TSE,TSHE,TSSE,TSWE,
TWE,U,UK,UKRAINIAN IE,VE,WE,YA,YAE,YAT,YERU,YERU WITH BACK YER,YERU WITH DIAERESIS,YI,YN,YU,ZE,
ZE WITH DESCENDER,ZE WITH DIAERESIS,ZEMLYA,ZHE,ZHWE
   ABKHASIAN:CHE,CHE WITH DESCENDER,DZE,HA
   CHE WITH:DESCENDER,DIAERESIS,VERTICAL STROKE
   EL WITH:DESCENDER,HOOK,MIDDLE HOOK,TAIL
   EN WITH:DESCENDER,HOOK,LEFT HOOK,MIDDLE HOOK,TAIL
   GHE WITH:DESCENDER,MIDDLE HOOK,STROKE,STROKE AND HOOK,UPTURN
   HA WITH:DESCENDER,HOOK,STROKE
   I WITH:DIAERESIS,GRAVE,MACRON
   IOTIFIED:A,BIG YUS,CLOSED LITTLE YUS,E,LITTLE YUS,YAT
   KA WITH:DESCENDER,HOOK,STROKE,VERTICAL STROKE
   KOMI:DE,DJE,DZJE,LJE,NJE,SJE,TJE,ZJE
   REVERSED:DZE,TSE,YU,ZE
   SHORT:I,I WITH TAIL,U
   SOFT:DE,EL,EM,SIGN
   U WITH:DIAERESIS,DOUBLE ACUTE,MACRON
   ZHE WITH:BREVE,DESCENDER,DIAERESIS
  LIGATURE:A IE,EN GHE,TE TSE
 LETTER:MULTIOCULAR O,PALOCHKA,SMALL CAPITAL EL
 SMALL:
  LETTER:A,A WITH BREVE,A WITH DIAERESIS,ALEUT KA,BARRED O,BARRED O WITH DIAERESIS,BASHKIR KA,BE,
BIG YUS,BINOCULAR O,BLENDED YUS,BROAD OMEGA,BYELORUSSIAN-UKRAINIAN I,CCHE,CHE,CLOSED LITTLE YUS,
CROSSED O,DCHE,DE,DJE,DJERV,DOUBLE MONOCULAR O,DOUBLE O,DWE,DZE,DZELO,DZHE,DZWE,DZZE,DZZHE,E,
E WITH DIAERESIS,EF,EL,EM,EM WITH TAIL,EN,ER,ER WITH TICK,ES,ES WITH DESCENDER,FITA,GHE,GJE,HA,
HARD SIGN,HWE,I,IE,IE WITH BREVE,IE WITH GRAVE,IO,IOTA,IZHITSA,IZHITSA WITH DOUBLE GRAVE ACCENT,JE,
KA,KHAKASSIAN CHE,KJE,KOPPA,KSI,LHA,LITTLE YUS,LJE,LONG-LEGGED DE,MONOCULAR O,MONOGRAPH UK,NARROW O,
NEUTRAL YER,NJE,O,O WITH DIAERESIS,OMEGA,OMEGA WITH TITLO,OT,PALOCHKA,PE,PE WITH DESCENDER,
PE WITH MIDDLE HOOK,PSI,QA,RHA,ROUND OMEGA,ROUNDED VE,SCHWA,SCHWA WITH DIAERESIS,SEMISOFT SIGN,SHA,
SHCHA,SHHA,SHHA WITH DESCENDER,SHWE,STRAIGHT U,STRAIGHT U WITH STROKE,TCHE,TE,TE WITH DESCENDER,
TE WITH MIDDLE HOOK,THREE-LEGGED TE,TSE,TSHE,TSSE,TSWE,TWE,U,UK,UKRAINIAN IE,UNBLENDED UK,VE,WE,
WIDE ES,YA,YAE,YAT,YERU,YERU WITH BACK YER,YERU WITH DIAERESIS,YI,YN,YU,ZE,ZE WITH DESCENDER,
ZE WITH DIAERESIS,ZEMLYA,ZHE,ZHWE
   ABKHASIAN:CHE,CHE WITH DESCENDER,DZE,HA
   CHE WITH:DESCENDER,DIAERESIS,VERTICAL STROKE
   EL WITH:DESCENDER,HOOK,MIDDLE HOOK,TAIL
   EN WITH:DESCENDER,HOOK,LEFT HOOK,MIDDLE HOOK,TAIL
   GHE WITH:DESCENDER,MIDDLE HOOK,STROKE,STROKE AND HOOK,UPTURN
   HA WITH:DESCENDER,HOOK,STROKE
   I WITH:DIAERESIS,GRAVE,MACRON
   IOTIFIED:A,BIG YUS,CLOSED LITTLE YUS,E,LITTLE YUS,YAT
   KA WITH:DESCENDER,HOOK,STROKE,VERTICAL STROKE
   KOMI:DE,DJE,DZJE,LJE,NJE,SJE,TJE,ZJE
   REVERSED:DZE,TSE,YU,ZE
   SHORT:I,I WITH TAIL,U
   SOFT:DE,EL,EM,SIGN
   TALL:HARD SIGN,TE,YAT
   U WITH:DIAERESIS,DOUBLE ACUTE,MACRON
   ZHE WITH:BREVE,DESCENDER,DIAERESIS
  LIGATURE:A IE,EN GHE,TE TSE
DAGGER:KNIFE,WITH LEFT GUARD,WITH RIGHT GUARD
DASHED:LOW LINE,OVERLINE,TRIANGLE-HEADED RIGHTWARDS ARROW
DEGREE:CELSIUS,FAHRENHEIT,SIGN
DENTISTRY SYMBOL LIGHT:DOWN AND HORIZONTAL,UP AND HORIZONTAL
 DOWN AND HORIZONTAL WITH:CIRCLE,TRIANGLE,WAVE
 UP AND HORIZONTAL WITH:CIRCLE,TRIANGLE,WAVE
 VERTICAL:WITH CIRCLE,WITH TRIANGLE
  AND:BOTTOM LEFT,BOTTOM RIGHT,TOP LEFT,TOP RIGHT,WAVE
DESERET:
 CAPITAL LETTER:AY,BEE,CHEE,DEE,EF,EL,EM,EN,ENG,ER,ES,ESH,ETH,EW,GAY,H,JEE,KAY,OI,OW,PEE,TEE,THEE,
VEE,WU,YEE,ZEE,ZHEE
  LONG:A,AH,E,I,O,OO
  SHORT:A,AH,E,I,O,OO
 SMALL LETTER:AY,BEE,CHEE,DEE,EF,EL,EM,EN,ENG,ER,ES,ESH,ETH,EW,GAY,H,JEE,KAY,OI,OW,PEE,TEE,THEE,VEE,
WU,YEE,ZEE,ZHEE
  LONG:A,AH,E,I,O,OO
  SHORT:A,AH,E,I,O,OO
DEVANAGARI:ABBREVIATION SIGN,ACUTE ACCENT,CARET,DANDA,DOUBLE DANDA,GAP FILLER,GRAVE ACCENT,
HEADSTROKE,JAIN OM,OM,STRESS SIGN ANUDATTA,STRESS SIGN UDATTA
 DIGIT:EIGHT,FIVE,FOUR,NINE,ONE,SEVEN,SIX,THREE,TWO,ZERO
 LETTER:A,AA,AI,AU,AW,AY,BA,BBA,BHA,CA,CHA,DA,DDA,DDDA,DDDHA,DDHA,DHA,E,FA,GA,GGA,GHA,GHHA,
GLOTTAL STOP,HA,HEAVY YA,I,II,JA,JHA,JJA,KA,KHA,KHHA,LA,LLA,LLLA,MA,MARWARI DDA,NA,NGA,NNA,NNNA,NYA,
O,OE,OOE,PA,PHA,QA,RA,RHA,RRA,SA,SHA,SSA,TA,THA,TTA,TTHA,U,UE,UU,UUE,VA,YA,YYA,ZA,ZHA
  CANDRA:A,E,O
  SHORT:A,E,O
  VOCALIC:L,LL,R,RR
 SIGN:ANUSVARA,AVAGRAHA,CANDRABINDU,DOUBLE CANDRABINDU VIRAMA,HIGH SPACING DOT,INVERTED CANDRABINDU,
NUKTA,PUSHPIKA,SIDDHAM,SPACING CANDRABINDU,VIRAMA,VISARGA
  CANDRABINDU:AVAGRAHA,THREE,TWO,VIRAMA
 VOWEL SIGN:AA,AI,AU,AW,AY,E,I,II,O,OE,OOE,PRISHTHAMATRA E,SHORT E,SHORT O,U,UE,UU,UUE
  CANDRA:E,LONG E,O
  VOCALIC:L,LL,R,RR
DEVICE CONTROL:FOUR,ONE,STRING,THREE,TWO
DIAMOND:OPERATOR,SHAPE WITH A DOT INSIDE,TARGET
 WITH:BOTTOM HALF BLACK,LEFT HALF BLACK,RIGHT HALF BLACK,TOP HALF BLACK
DIE:FACE-1,FACE-2,FACE-3,FACE-4,FACE-5,FACE-6
DIGIT:EIGHT,EIGHT COMMA,EIGHT FULL STOP,FIVE,FIVE COMMA,FIVE FULL STOP,FOUR,FOUR COMMA,
FOUR FULL STOP,NINE,NINE COMMA,NINE FULL STOP,ONE,ONE COMMA,ONE FULL STOP,SEVEN,SEVEN COMMA,
SEVEN FULL STOP,SIX,SIX COMMA,SIX FULL STOP,THREE,THREE COMMA,THREE FULL STOP,TWO,TWO COMMA,
TWO FULL STOP,ZERO,ZERO COMMA,ZERO FULL STOP
DIGRAM FOR:EARTH,EARTHLY HEAVEN,EARTHLY HUMAN,GREATER YANG,GREATER YIN,HEAVENLY EARTH,HUMAN EARTH,
LESSER YANG,LESSER YIN
DINGBAT:
 CIRCLED SANS-SERIF:NUMBER TEN
  DIGIT:EIGHT,FIVE,FOUR,NINE,ONE,SEVEN,SIX,THREE,TWO,ZERO
 NEGATIVE CIRCLED:NUMBER TEN
  DIGIT:EIGHT,FIVE,FOUR,NINE,ONE,SEVEN,SIX,THREE,TWO
  SANS-SERIF:NUMBER TEN
   DIGIT:EIGHT,FIVE,FOUR,NINE,ONE,SEVEN,SIX,THREE,TWO,ZERO
DIVES AKURU:DOUBLE DANDA,END OF TEXT MARK,GAP FILLER,INITIAL RA,MEDIAL RA,MEDIAL YA,
PREFIXED NASAL SIGN,VIRAMA
 DIGIT:EIGHT,FIVE,FOUR,NINE,ONE,SEVEN,SIX,THREE,TWO,ZERO
 LETTER:A,AA,BA,BHA,CA,CHA,DA,DDA,DDHA,DHA,E,GA,GHA,HA,I,II,JA,KA,KHA,LA,LLA,MA,NA,NGA,NNA,NYA,O,PA,
PHA,RA,SA,SHA,SSA,TA,THA,TTA,U,UU,VA,YA,YYA,ZA
 SIGN:ANUSVARA,CANDRABINDU,HALANTA,NUKTA
 VOWEL SIGN:AA,AI,E,I,II,O,U,UU
DIVISION:SIGN,SLASH,TIMES
DOCUMENT WITH:PICTURE,TEXT,TEXT AND PICTURE
DOES NOT:DIVIDE,DIVIDE WITH REVERSED NEGATION SLASH,FORCE,PRECEDE,PRECEDE OR EQUAL,PROVE,SUCCEED,
SUCCEED OR EQUAL
 CONTAIN AS:MEMBER,NORMAL SUBGROUP,NORMAL SUBGROUP OR EQUAL
DOGRA:ABBREVIATION SIGN
 LETTER:A,AA,AI,AU,BA,BHA,CA,CHA,DA,DDA,DDHA,DHA,E,GA,GHA,HA,I,II,JA,JHA,KA,KHA,LA,MA,NA,NGA,NNA,
NYA,O,PA,PHA,RA,RRA,SA,SHA,SSA,TA,THA,TTA,TTHA,U,UU,VA,YA
 SIGN:ANUSVARA,NUKTA,VIRAMA,VISARGA
 VOWEL SIGN:AA,AI,AU,E,I,II,O,U,UU,VOCALIC R,VOCALIC RR
DOMINO TILE:HORIZONTAL BACK,HORIZONTAL-00-00,HORIZONTAL-00-01,HORIZONTAL-00-02,HORIZONTAL-00-03,
HORIZONTAL-00-04,HORIZONTAL-00-05,HORIZONTAL-00-06,HORIZONTAL-01-00,HORIZONTAL-01-01,
HORIZONTAL-01-02,HORIZONTAL-01-03,HORIZONTAL-01-04,HORIZONTAL-01-05,HORIZONTAL-01-06,
HORIZONTAL-02-00,HORIZONTAL-02-01,HORIZONTAL-02-02,HORIZONTAL-02-03,HORIZONTAL-02-04,
HORIZONTAL-02-05,HORIZONTAL-02-06,HORIZONTAL-03-00,HORIZONTAL-03-01,HORIZONTAL-03-02,
HORIZONTAL-03-03,HORIZONTAL-03-04,HORIZONTAL-03-05,HORIZONTAL-03-06,HORIZONTAL-04-00,
HORIZONTAL-04-01,HORIZONTAL-04-02,HORIZONTAL-04-03,HORIZONTAL-04-04,HORIZONTAL-04-05,
HORIZONTAL-04-06,HORIZONTAL-05-00,HORIZONTAL-05-01,HORIZONTAL-05-02,HORIZONTAL-05-03,
HORIZONTAL-05-04,HORIZONTAL-05-05,HORIZONTAL-05-06,HORIZONTAL-06-00,HORIZONTAL-06-01,
HORIZONTAL-06-02,HORIZONTAL-06-03,HORIZONTAL-06-04,HORIZONTAL-06-05,HORIZONTAL-06-06,VERTICAL BACK,
VERTICAL-00-00,VERTICAL-00-01,VERTICAL-00-02,VERTICAL-00-03,VERTICAL-00-04,VERTICAL-00-05,
VERTICAL-00-06,VERTICAL-01-00,VERTICAL-01-01,VERTICAL-01-02,VERTICAL-01-03,VERTICAL-01-04,
VERTICAL-01-05,VERTICAL-01-06,VERTICAL-02-00,VERTICAL-02-01,VERTICAL-02-02,VERTICAL-02-03,
VERTICAL-02-04,VERTICAL-02-05,VERTICAL-02-06,VERTICAL-03-00,VERTICAL-03-01,VERTICAL-03-02,
VERTICAL-03-03,VERTICAL-03-04,VERTICAL-03-05,VERTICAL-03-06,VERTICAL-04-00,VERTICAL-04-01,
VERTICAL-04-02,VERTICAL-04-03,VERTICAL-04-04,VERTICAL-04-05,VERTICAL-04-06,VERTICAL-05-00,
VERTICAL-05-01,VERTICAL-05-02,VERTICAL-05-03,VERTICAL-05-04,VERTICAL-05-05,VERTICAL-05-06,
VERTICAL-06-00,VERTICAL-06-01,VERTICAL-06-02,VERTICAL-06-03,VERTICAL-06-04,VERTICAL-06-05,
VERTICAL-06-06
DOT:ABOVE,MINUS,OPERATOR,PLUS
DOTTED:CIRCLE,CROSS,FENCE,LINE FACE,OBELOS,RIGHT-POINTING ANGLE,SOLIDUS,SQUARE,TRANSPOSITION MARKER
DOUBLE:ACUTE ACCENT,COLON EQUAL,CURLY LOOP,DAGGER,DOWN TACK,EXCLAMATION MARK,
HIGH-REVERSED-9 QUOTATION MARK,HYPHEN,INTEGRAL,INTERSECTION,LEFT ARC GREATER-THAN BRACKET,
LOGICAL AND,LOGICAL OR,LOW LINE,LOW-9 QUOTATION MARK,LOW-REVERSED-9 QUOTATION MARK,OBLIQUE HYPHEN,
PLUS,PRECEDES,PRIME,PRIME QUOTATION MARK,QUESTION MARK,RIGHT ARC LESS-THAN BRACKET,SOLIDUS OPERATOR,
SQUARE INTERSECTION,SQUARE UNION,STACKED COMMA,STROKE NOT SIGN,SUBSET,SUCCEEDS,SUPERSET,
SUSPENSION MARK,UNION,UP TACK,WAVY OVERLINE
 CIRCLED:NUMBER TEN
  DIGIT:EIGHT,FIVE,FOUR,NINE,ONE,SEVEN,SIX,THREE,TWO
 NESTED:GREATER-THAN,LESS-THAN,LESS-THAN WITH UNDERBAR
 VERTICAL:BAR,LINE
  BAR:DOUBLE LEFT TURNSTILE,DOUBLE RIGHT TURNSTILE,LEFT TURNSTILE
DOUBLE-LINE:EQUAL TO OR GREATER-THAN,EQUAL TO OR LESS-THAN
 SLANTED:EQUAL TO OR GREATER-THAN,EQUAL TO OR LESS-THAN,GREATER-THAN OR EQUAL TO,
LESS-THAN OR EQUAL TO
DOUBLE-STRUCK:N-ARY SUMMATION,SMALL GAMMA,SMALL PI
 CAPITAL:C,GAMMA,H,N,P,PI,Q,R,Z
 ITALIC:CAPITAL D
  SMALL:D,E,I,J
DOUBLED:FEMALE SIGN,MALE SIGN,SYMBOL
DOWN:ARROWHEAD,FISH TAIL,RIGHT DIAGONAL ELLIPSIS,TACK,TACK WITH CIRCLE BELOW
DOWN-POINTING:RED TRIANGLE,SMALL RED TRIANGLE,TRIANGLE WITH LEFT HALF BLACK,
TRIANGLE WITH RIGHT HALF BLACK
DOWNWARD FACING:HOOK,HOOK WITH DOT,NOTCHED HOOK,NOTCHED HOOK WITH DOT
DOWNWARDS:ANCORA,ARROW,BLACK ARROW,BLACK CIRCLED WHITE ARROW,COMPRESSED ARROW,DASHED ARROW,
DOUBLE ARROW,FINGER-POST ARROW,HEAVY ARROW,HEAVY COMPRESSED ARROW,PAIRED ARROWS,QUADRUPLE ARROW,
ROCKET,SANS-SERIF ARROW,SQUARED ARROW,TRIANGLE ARROWHEAD,TRIPLE ARROW,TWO HEADED ARROW,
TWO-HEADED ARROW WITH TRIANGLE ARROWHEADS,WHITE ARROW,WHITE ARROW WITHIN TRIANGLE ARROWHEAD,
ZIGZAG ARROW
 ARROW:AND RIGHT ONE EIGHTH BLOCK,FROM BAR,LEFTWARDS OF UPWARDS ARROW,TO BAR
  WITH:CORNER LEFTWARDS,DOUBLE STROKE,EQUILATERAL ARROWHEAD,HORIZONTAL STROKE,
LARGE TRIANGLE ARROWHEAD,MEDIUM TRIANGLE ARROWHEAD,NOTCHED TAIL,SMALL EQUILATERAL ARROWHEAD,
SMALL TRIANGLE ARROWHEAD,TIP LEFTWARDS,TIP RIGHTWARDS
 HARPOON WITH BARB:LEFTWARDS,RIGHT FROM BAR,RIGHT TO BAR,RIGHTWARDS
  LEFT:BESIDE DOWNWARDS HARPOON WITH BARB RIGHT,BESIDE UPWARDS HARPOON WITH BARB RIGHT,FROM BAR,
TO BAR
 TRIANGLE-HEADED:ARROW,DASHED ARROW,PAIRED ARROWS,ZIGZAG ARROW
  ARROW:LEFTWARDS OF UPWARDS TRIANGLE-HEADED ARROW,TO BAR
   WITH:BOLD SHAFT,DOUBLE HORIZONTAL STROKE,HEAVY SHAFT,LONG TIP LEFTWARDS,LONG TIP RIGHTWARDS,
MEDIUM SHAFT,NARROW SHAFT,VERY HEAVY SHAFT
DUPLOYAN:DOUBLE MARK,PUNCTUATION CHINOOK FULL STOP,SIGN O WITH CROSS,THICK LETTER SELECTOR
 AFFIX:LEFT HORIZONTAL SECANT,MID HORIZONTAL SECANT,MID VERTICAL SECANT,RIGHT HORIZONTAL SECANT
  ATTACHED:E HOOK,I HOOK,LEFT-TO-RIGHT SECANT,SECANT,TAIL,TANGENT,TANGENT HOOK
  HIGH:ACUTE,CIRCLE,DOT,GRAVE,LINE,LONG GRAVE,TIGHT ACUTE,VERTICAL,VERTICAL SECANT,WAVE
  LOW:ACUTE,ARROW,CIRCLE,DOT,GRAVE,LINE,LONG GRAVE,TIGHT ACUTE,VERTICAL,VERTICAL SECANT,WAVE
 LETTER:A,AOU,B,D,D S,DH,E,EE,EU,F,F N,G,G R S,H,HL,I,IE,J,K,K M,K R S,KK,L,LH,LONG I,LONG U,M,N,O,
OA,OOH,OU,OW,P,P N,PERNIN AM,PERNIN AN,R,R S,RH,ROMANIAN I,ROMANIAN U,S,SHORT I,T,T R S,T S,TH,U,
U N,UH,UI,V,VOCALIC M,W,W R,WA,WEI,WH,WI,WO,WOW,X,XW,YE
  J:M,M S,N,N S,S,S WITH DOT,WITH DOT,WITH DOTS INSIDE AND ABOVE
  M:N,N S,S,WITH DOT
  N:M,M S,S,WITH DOT
  NASAL:A,I,O,U
  S:J,J S,K,K R,M,N,P,P R,S,T,T R,WITH DOT,WITH DOT BELOW
  SLOAN:AN,DH,EE,EH,EN,J,ON,OW,U
EAR:OF MAIZE,OF RICE,WITH HEARING AID
EARTH:GROUND
 GLOBE:AMERICAS,ASIA-AUSTRALIA,EUROPE-AFRICA
EGYPTIAN HIEROGLYPH:A001,A002,A003,A004,A005,A005A,A006,A006A,A006B,A007,A008,A009,A010,A011,A012,
A013,A014,A014A,A015,A016,A017,A017A,A018,A019,A020,A021,A022,A023,A024,A025,A026,A027,A028,A029,
A030,A031,A032,A032A,A033,A034,A035,A036,A037,A038,A039,A040,A040A,A041,A042,A042A,A043,A043A,A044,
A045,A045A,A046,A047,A048,A049,A050,A051,A052,A053,A054,A055,A056,A057,A058,A059,A060,A061,A062,
A063,A064,A065,A066,A067,A068,A069,A070,AA001,AA002,AA003,AA004,AA005,AA006,AA007,AA007A,AA007B,
AA008,AA009,AA010,AA011,AA012,AA013,AA014,AA015,AA016,AA017,AA018,AA019,AA020,AA021,AA022,AA023,
AA024,AA025,AA026,AA027,AA028,AA029,AA030,AA031,AA032,B001,B002,B003,B004,B005,B005A,B006,B007,B008,
B009,BEGIN SEGMENT,C001,C002,C002A,C002B,C002C,C003,C004,C005,C006,C007,C008,C009,C010,C010A,C011,
C012,C013,C014,C015,C016,C017,C018,C019,C020,C021,C022,C023,C024,D001,D002,D003,D004,D005,D006,D007,
D008,D008A,D009,D010,D011,D012,D013,D014,D015,D016,D017,D018,D019,D020,D021,D022,D023,D024,D025,
D026,D027,D027A,D028,D029,D030,D031,D031A,D032,D033,D034,D034A,D035,D036,D037,D038,D039,D040,D041,
D042,D043,D044,D045,D046,D046A,D047,D048,D048A,D049,D050,D050A,D050B,D050C,D050D,D050E,D050F,D050G,
D050H,D050I,D051,D052,D052A,D053,D054,D054A,D055,D056,D057,D058,D059,D060,D061,D062,D063,D064,D065,
D066,D067,D067A,D067B,D067C,D067D,D067E,D067F,D067G,D067H,E001,E002,E003,E004,E005,E006,E007,E008,
E008A,E009,E009A,E010,E011,E012,E013,E014,E015,E016,E016A,E017,E017A,E018,E019,E020,E020A,E021,E022,
E023,E024,E025,E026,E027,E028,E028A,E029,E030,E031,E032,E033,E034,E034A,E036,E037,E038,END SEGMENT,
F001,F001A,F002,F003,F004,F005,F006,F007,F008,F009,F010,F011,F012,F013,F013A,F014,F015,F016,F017,
F018,F019,F020,F021,F021A,F022,F023,F024,F025,F026,F027,F028,F029,F030,F031,F031A,F032,F033,F034,
F035,F036,F037,F037A,F038,F038A,F039,F040,F041,F042,F043,F044,F045,F045A,F046,F046A,F047,F047A,F048,
F049,F050,F051,F051A,F051B,F051C,F052,F053,G001,G002,G003,G004,G005,G006,G006A,G007,G007A,G007B,
G008,G009,G010,G011,G011A,G012,G013,G014,G015,G016,G017,G018,G019,G020,G020A,G021,G022,G023,G024,
G025,G026,G026A,G027,G028,G029,G030,G031,G032,G033,G034,G035,G036,G036A,G037,G037A,G038,G039,G040,
G041,G042,G043,G043A,G044,G045,G045A,G046,G047,G048,G049,G050,G051,G052,G053,G054,H001,H002,H003,
H004,H005,H006,H006A,H007,H008,HORIZONTAL JOINER,I001,I002,I003,I004,I005,I005A,I006,I007,I008,I009,
I009A,I010,I010A,I011,I011A,I012,I013,I014,I015,K001,K002,K003,K004,K005,K006,K007,K008,L001,L002,
L002A,L003,L004,L005,L006,L006A,L007,L008,M001,M001A,M001B,M002,M003,M003A,M004,M005,M006,M007,M008,
M009,M010,M010A,M011,M012,M012A,M012B,M012C,M012D,M012E,M012F,M012G,M012H,M013,M014,M015,M015A,M016,
M016A,M017,M017A,M018,M019,M020,M021,M022,M022A,M023,M024,M024A,M025,M026,M027,M028,M028A,M029,M030,
M031,M031A,M032,M033,M033A,M033B,M034,M035,M036,M037,M038,M039,M040,M040A,M041,M042,M043,M044,N001,
N002,N003,N004,N005,N006,N007,N008,N009,N010,N011,N012,N013,N014,N015,N016,N017,N018,N018A,N018B,
N019,N020,N021,N022,N023,N024,N025,N025A,N026,N027,N028,N029,N030,N031,N032,N033,N033A,N034,N034A,
N035,N035A,N036,N037,N037A,N038,N039,N040,N041,N042,NL001,NL002,NL003,NL004,NL005,NL005A,NL006,
NL007,NL008,NL009,NL010,NL011,NL012,NL013,NL014,NL015,NL016,NL017,NL017A,NL018,NL019,NL020,NU001,
NU002,NU003,NU004,NU005,NU006,NU007,NU008,NU009,NU010,NU010A,NU011,NU011A,NU012,NU013,NU014,NU015,
NU016,NU017,NU018,NU018A,NU019,NU020,NU021,NU022,NU022A,O001,O001A,O002,O003,O004,O005,O005A,O006,
O006A,O006B,O006C,O006D,O006E,O006F,O007,O008,O009,O010,O010A,O010B,O010C,O011,O012,O013,O014,O015,
O016,O017,O018,O019,O019A,O020,O020A,O021,O022,O023,O024,O024A,O025,O025A,O026,O027,O028,O029,O029A,
O030,O030A,O031,O032,O033,O033A,O034,O035,O036,O036A,O036B,O036C,O036D,O037,O038,O039,O040,O041,
O042,O043,O044,O045,O046,O047,O048,O049,O050,O050A,O050B,O051,OVERLAY MIDDLE,P001,P001A,P002,P003,
P003A,P004,P005,P006,P007,P008,P009,P010,P011,Q001,Q002,Q003,Q004,Q005,Q006,Q007,R001,R002,R002A,
R003,R003A,R003B,R004,R005,R006,R007,R008,R009,R010,R010A,R011,R012,R013,R014,R015,R016,R016A,R017,
R018,R019,R020,R021,R022,R023,R024,R025,R026,R027,R028,R029,S001,S002,S002A,S003,S004,S005,S006,
S006A,S007,S008,S009,S010,S011,S012,S013,S014,S014A,S014B,S015,S016,S017,S017A,S018,S019,S020,S021,
S022,S023,S024,S025,S026,S026A,S026B,S027,S028,S029,S030,S031,S032,S033,S034,S035,S035A,S036,S037,
S038,S039,S040,S041,S042,S043,S044,S045,S046,T001,T002,T003,T003A,T004,T005,T006,T007,T007A,T008,
T008A,T009,T009A,T010,T011,T011A,T012,T013,T014,T015,T016,T016A,T017,T018,T019,T020,T021,T022,T023,
T024,T025,T026,T027,T028,T029,T030,T031,T032,T032A,T033,T033A,T034,T035,T036,U001,U002,U003,U004,
U005,U006,U006A,U006B,U007,U008,U009,U010,U011,U012,U013,U014,U015,U016,U017,U018,U019,U020,U021,
U022,U023,U023A,U024,U025,U026,U027,U028,U029,U029A,U030,U031,U032,U032A,U033,U034,U035,U036,U037,
U038,U039,U040,U041,U042,V001,V001A,V001B,V001C,V001D,V001E,V001F,V001G,V001H,V001I,V002,V002A,V003,
V004,V005,V006,V007,V007A,V007B,V008,V009,V010,V011,V011A,V011B,V011C,V012,V012A,V012B,V013,V014,
V015,V016,V017,V018,V019,V020,V020A,V020B,V020C,V020D,V020E,V020F,V020G,V020H,V020I,V020J,V020K,
V020L,V021,V022,V023,V023A,V024,V025,V026,V027,V028,V028A,V029,V029A,V030,V030A,V031,V031A,V032,
V033,V033A,V034,V035,V036,V037,V037A,V038,V039,V040,V040A,VERTICAL JOINER,W001,W002,W003,W003A,W004,
W005,W006,W007,W008,W009,W009A,W010,W010A,W011,W012,W013,W014,W014A,W015,W016,W017,W017A,W018,W018A,
W019,W020,W021,W022,W023,W024,W024A,W025,X001,X002,X003,X004,X004A,X004B,X005,X006,X006A,X007,X008,
X008A,Y001,Y001A,Y002,Y003,Y004,Y005,Y006,Y007,Y008,Z001,Z002,Z002A,Z002B,Z002C,Z002D,Z003,Z003A,
Z003B,Z004,Z004A,Z005,Z005A,Z006,Z007,Z008,Z009,Z010,Z011,Z012,Z013,Z014,Z015,Z015A,Z015B,Z015C,
Z015D,Z015E,Z015F,Z015G,Z015H,Z015I,Z016,Z016A,Z016B,Z016C,Z016D,Z016E,Z016F,Z016G,Z016H
 INSERT AT:BOTTOM END,BOTTOM START,TOP END,TOP START
EIGHT:PETALLED OUTLINED BLACK FLORETTE,SPOKED ASTERISK,TEARDROP-SPOKED PROPELLER ASTERISK
 POINTED:BLACK STAR,PINWHEEL STAR,RECTILINEAR BLACK STAR
ELBASAN LETTER:A,BE,CE,CHE,DE,DHE,E,EI,FE,GE,GHAMMA,GHE,GJE,HE,I,JE,KE,KHE,LE,LLE,ME,NA,NDE,NE,NJE,
O,PE,QE,RE,RRE,SE,SHE,TE,THE,U,VE,XE,Y,ZE,ZHE
ELECTRIC:ARROW,LIGHT BULB,PLUG,TORCH
ELEMENT OF:OPENING DOWNWARDS,OPENING UPWARDS
 WITH:DOT ABOVE,LONG HORIZONTAL STROKE,OVERBAR,TWO HORIZONTAL STROKES,UNDERBAR,
VERTICAL BAR AT END OF HORIZONTAL STROKE
ELYMAIC:LIGATURE ZAYIN-YODH
 LETTER:ALEPH,AYIN,BETH,DALETH,GIMEL,HE,HETH,KAPH,LAMEDH,MEM,NUN,PE,QOPH,RESH,SADHE,SAMEKH,SHIN,TAW,
TETH,WAW,YODH,ZAYIN
EM:DASH,QUAD,SPACE
EMOJI:
 COMPONENT:BALD,CURLY HAIR,RED HAIR,WHITE HAIR
 MODIFIER FITZPATRICK:TYPE-1-2,TYPE-3,TYPE-4,TYPE-5,TYPE-6
EMPTY:DOCUMENT,NEST,NOTE,NOTE PAD,NOTE PAGE,PAGE,PAGES,SET
 SET WITH:LEFT ARROW ABOVE,OVERBAR,RIGHT ARROW ABOVE,SMALL CIRCLE ABOVE
EN:DASH,QUAD,SPACE
END:WITH LEFTWARDS ARROW ABOVE
 OF:GUARDED AREA,LINE,MEDIUM,PROOF,PROTECTED AREA,SELECTED AREA,TEXT,TRANSMISSION,
TRANSMISSION BLOCK
EQUAL:AND PARALLEL TO
 TO:BY DEFINITION
  OR:GREATER-THAN,LESS-THAN,PRECEDES,SUCCEEDS
EQUALS:COLON,SIGN,WITH ASTERISK
 SIGN:AND SLANTED PARALLEL,AND SLANTED PARALLEL WITH TILDE ABOVE
  ABOVE:LEFTWARDS ARROW,PLUS SIGN,RIGHTWARDS ARROW,TILDE OPERATOR
  WITH:BUMPY ABOVE,DOT BELOW,INFINITY BELOW,TWO DOTS ABOVE AND TWO DOTS BELOW
ERROR-BARRED:
 BLACK:CIRCLE,DIAMOND,SQUARE
 WHITE:CIRCLE,DIAMOND,SQUARE
ETHIOPIC:COLON,COMMA,FULL STOP,PARAGRAPH SEPARATOR,PREFACE COLON,QUESTION MARK,SECTION MARK,
SEMICOLON,WORDSPACE
 COMBINING:GEMINATION AND VOWEL LENGTH MARK,GEMINATION MARK,VOWEL LENGTH MARK
 DIGIT:EIGHT,FIVE,FOUR,NINE,ONE,SEVEN,SIX,THREE,TWO
 NUMBER:EIGHTY,FIFTY,FORTY,HUNDRED,NINETY,SEVENTY,SIXTY,TEN,TEN THOUSAND,THIRTY,TWENTY
 SYLLABLE:BA,BAA,BBA,BBAA,BBE,BBEE,BBI,BBO,BBU,BE,BEE,BI,BO,BOA,BU,BWA,BWE,BWEE,BWI,CA,CAA,CCA,CCAA,
CCE,CCEE,CCHA,CCHAA,CCHE,CCHEE,CCHHA,CCHHAA,CCHHE,CCHHEE,CCHHI,CCHHO,CCHHU,CCHI,CCHO,CCHU,CCI,CCO,
CCU,CE,CEE,CHA,CHAA,CHE,CHEE,CHI,CHO,CHOA,CHU,CHWA,CI,CO,COA,CU,CWA,DA,DAA,DDA,DDAA,DDE,DDEE,DDHAA,
DDHE,DDHEE,DDHI,DDHO,DDHU,DDI,DDO,DDOA,DDU,DDWA,DE,DEE,DI,DO,DOA,DU,DWA,DZAA,DZE,DZEE,DZI,DZO,DZU,
FA,FAA,FE,FEE,FI,FO,FU,FWA,FWE,FWEE,FWI,FYA,GA,GAA,GE,GEE,GGA,GGAA,GGE,GGEE,GGI,GGO,GGU,GGWA,GGWAA,
GGWE,GGWEE,GGWI,GI,GO,GOA,GU,GWA,GWAA,GWE,GWEE,GWI,GYA,GYAA,GYE,GYEE,GYI,GYO,GYU,HA,HAA,HE,HEE,HHA,
HHAA,HHE,HHEE,HHI,HHO,HHU,HHWA,HHWE,HHWEE,HHWI,HHYA,HHYAA,HHYE,HHYEE,HHYI,HHYO,HHYU,HI,HO,HOA,HU,JA,
JAA,JE,JEE,JI,JO,JOA,JU,JWA,KA,KAA,KE,KEE,KI,KO,KOA,KU,KWA,KWAA,KWE,KWEE,KWI,KXA,KXAA,KXE,KXEE,KXI,
KXO,KXU,KXWA,KXWAA,KXWE,KXWEE,KXWI,KYA,KYAA,KYE,KYEE,KYI,KYO,KYU,LA,LAA,LE,LEE,LI,LO,LOA,LU,LWA,MA,
MAA,ME,MEE,MI,MO,MOA,MU,MWA,MWE,MWEE,MWI,MYA,NA,NAA,NE,NEE,NI,NO,NOA,NU,NWA,NYA,NYAA,NYE,NYEE,NYI,
NYO,NYOA,NYU,NYWA,PA,PAA,PE,PEE,PHA,PHAA,PHE,PHEE,PHI,PHO,PHOA,PHU,PHWA,PI,PO,POA,PU,PWA,PWE,PWEE,
PWI,QA,QAA,QE,QEE,QHA,QHAA,QHE,QHEE,QHI,QHO,QHU,QHWA,QHWAA,QHWE,QHWEE,QHWI,QI,QO,QOA,QU,QWA,QWAA,
QWE,QWEE,QWI,QYA,QYAA,QYE,QYEE,QYI,QYO,QYU,RA,RAA,RE,REE,RI,RO,ROA,RU,RWA,RYA,SA,SAA,SE,SEE,SHA,
SHAA,SHE,SHEE,SHI,SHO,SHOA,SHU,SHWA,SI,SO,SOA,SSA,SSAA,SSE,SSEE,SSI,SSO,SSU,SU,SWA,SZA,SZAA,SZE,
SZEE,SZI,SZO,SZU,SZWA,TA,TAA,TE,TEE,THA,THAA,THE,THEE,THI,THO,THOA,THU,THWA,TI,TO,TOA,TSA,TSAA,TSE,
TSEE,TSI,TSO,TSU,TSWA,TTHAA,TTHE,TTHEE,TTHI,TTHO,TTHU,TU,TWA,TZA,TZAA,TZE,TZEE,TZI,TZO,TZOA,TZU,VA,
VAA,VE,VEE,VI,VO,VU,VWA,WA,WAA,WE,WEE,WI,WO,WOA,WU,XA,XAA,XE,XEE,XI,XO,XOA,XU,XWA,XWAA,XWE,XWEE,XWI,
XYA,XYAA,XYE,XYEE,XYI,XYO,XYU,YA,YAA,YE,YEE,YI,YO,YOA,YU,ZA,ZAA,ZE,ZEE,ZHA,ZHAA,ZHE,ZHEE,ZHI,ZHO,
ZHU,ZHWA,ZI,ZO,ZOA,ZU,ZWA,ZZA,ZZAA,ZZE,ZZEE,ZZI,ZZO,ZZU
  GLOTTAL:A,AA,E,EE,I,O,OA,U,WA
  GURAGE:BWEE,BWI,FWEE,FWI,GWE,GWEE,GWI,HHWA,KWE,KWEE,KWI,MWEE,MWI,PWEE,PWI,QWE,QWEE,QWI
  PHARYNGEAL:A,AA,E,EE,I,O,U
  SEBATBEIT:BWA,FWA,MWA,PWA
 TONAL MARK:CHIRET,DERET,DERET-HIDET,DIFAT,HIDET,KENAT,KURT,RIKRIK,SHORT RIKRIK,YIZET
EXTENDED ARABIC-INDIC DIGIT:EIGHT,FIVE,FOUR,NINE,ONE,SEVEN,SIX,THREE,TWO,ZERO
EXTREMELY HEAVY:FIVE SPOKED ASTERISK,GREEK CROSS,SALTIRE,SIX SPOKED ASTERISK,WHITE CIRCLE,
WHITE SQUARE
FACE:HOLDING BACK TEARS,MASSAGE,PALM,SAVOURING DELICIOUS FOOD,SCREAMING IN FEAR,THROWING A KISS,
WITHOUT MOUTH
 WITH:COLD SWEAT,COWBOY HAT,DIAGONAL MOUTH,FINGER COVERING CLOSED LIPS,HEAD-BANDAGE,LOOK OF TRIUMPH,
MEDICAL MASK,MONOCLE,NO GOOD GESTURE,OK GESTURE,ONE EYEBROW RAISED,PARTY HORN AND PARTY HAT,
PEEKING EYE,PLEADING EYES,ROLLING EYES,STUCK-OUT TONGUE,STUCK-OUT TONGUE AND TIGHTLY-CLOSED EYES,
STUCK-OUT TONGUE AND WINKING EYE,TEARS OF JOY,THERMOMETER,UNEVEN EYES AND WAVY MOUTH
  OPEN:EYES AND HAND OVER MOUTH,MOUTH,MOUTH AND COLD SWEAT,MOUTH VOMITING
FALLING DIAGONAL:CROSSING NORTH EAST ARROW,CROSSING RISING DIAGONAL,IN WHITE CIRCLE IN BLACK SQUARE
FILE:CABINET,FOLDER,SEPARATOR
FIRST:PLACE MEDAL,QUARTER MOON,QUARTER MOON SYMBOL,QUARTER MOON WITH FACE,STRONG ISOLATE
FLYING:DISC,ENVELOPE,SAUCER
FOUR:BALLOON-SPOKED ASTERISK,CLUB-SPOKED ASTERISK,CORNER ARROWS CIRCLING ANTICLOCKWISE,DOT MARK,
DOT PUNCTUATION,LEAF CLOVER,POINTED BLACK STAR,TEARDROP-SPOKED ASTERISK
FRAME WITH:AN X,PICTURE,TILES
FULL:BLOCK,MOON SYMBOL,MOON WITH FACE,OUTER JOIN,STOP
FULLWIDTH:AMPERSAND,APOSTROPHE,ASTERISK,BROKEN BAR,CENT SIGN,CIRCUMFLEX ACCENT,COLON,COMMA,
COMMERCIAL AT,DOLLAR SIGN,EQUALS SIGN,EXCLAMATION MARK,FULL STOP,GRAVE ACCENT,GREATER-THAN SIGN,
HYPHEN-MINUS,LESS-THAN SIGN,LOW LINE,MACRON,NOT SIGN,NUMBER SIGN,PERCENT SIGN,PLUS SIGN,POUND SIGN,
QUESTION MARK,QUOTATION MARK,REVERSE SOLIDUS,SEMICOLON,SOLIDUS,TILDE,VERTICAL LINE,WON SIGN,
YEN SIGN
 DIGIT:EIGHT,FIVE,FOUR,NINE,ONE,SEVEN,SIX,THREE,TWO,ZERO
 LATIN:
  CAPITAL LETTER:A,B,C,D,E,F,G,H,I,J,K,L,M,N,O,P,Q,R,S,T,U,V,W,X,Y,Z
  SMALL LETTER:A,B,C,D,E,F,G,H,I,J,K,L,M,N,O,P,Q,R,S,T,U,V,W,X,Y,Z
 LEFT:CURLY BRACKET,PARENTHESIS,SQUARE BRACKET,WHITE PARENTHESIS
 RIGHT:CURLY BRACKET,PARENTHESIS,SQUARE BRACKET,WHITE PARENTHESIS"

end ReviewDiff.Text
