/-!
# Names of characters, M to R

The first words that several names share, a colon and how these names go on, with commas between
them. A line that is set in goes on from the one above it that is set in less.
-/

set_option autoImplicit false

namespace ReviewDiff.Text

def fourthNames : String :=
"MAHAJANI:ABBREVIATION SIGN,LIGATURE SHRI,SECTION MARK,SIGN NUKTA
 LETTER:A,BA,BHA,CA,CHA,DA,DDA,DDHA,DHA,E,GA,GHA,HA,I,JA,JHA,KA,KHA,LA,MA,NA,NNA,NYA,O,PA,PHA,RA,
RRA,SA,TA,THA,TTA,TTHA,U,VA
MAHJONG TILE:AUTUMN,BACK,BAMBOO,CHRYSANTHEMUM,EAST WIND,GREEN DRAGON,JOKER,NORTH WIND,ORCHID,PLUM,
RED DRAGON,SOUTH WIND,SPRING,SUMMER,WEST WIND,WHITE DRAGON,WINTER
 EIGHT OF:BAMBOOS,CHARACTERS,CIRCLES
 FIVE OF:BAMBOOS,CHARACTERS,CIRCLES
 FOUR OF:BAMBOOS,CHARACTERS,CIRCLES
 NINE OF:BAMBOOS,CHARACTERS,CIRCLES
 ONE OF:BAMBOOS,CHARACTERS,CIRCLES
 SEVEN OF:BAMBOOS,CHARACTERS,CIRCLES
 SIX OF:BAMBOOS,CHARACTERS,CIRCLES
 THREE OF:BAMBOOS,CHARACTERS,CIRCLES
 TWO OF:BAMBOOS,CHARACTERS,CIRCLES
MAKASAR:ANGKA,END OF SECTION,PASSIMBANG
 LETTER:A,BA,CA,DA,GA,JA,KA,LA,MA,NA,NGA,NYA,PA,RA,SA,TA,VA,YA
 VOWEL SIGN:E,I,O,U
MALAYALAM:AU LENGTH MARK,DATE MARK
 DIGIT:EIGHT,FIVE,FOUR,NINE,ONE,SEVEN,SIX,THREE,TWO,ZERO
 FRACTION:
  ONE:EIGHTH,FIFTH,FORTIETH,HALF,ONE-HUNDRED-AND-SIXTIETH,QUARTER,SIXTEENTH,TENTH,TWENTIETH
  THREE:EIGHTIETHS,QUARTERS,SIXTEENTHS,TWENTIETHS
 LETTER:A,AA,AI,ARCHAIC II,AU,BA,BHA,CA,CHA,DA,DDA,DDHA,DHA,DOT REPH,E,EE,GA,GHA,HA,I,II,JA,JHA,KA,
KHA,LA,LLA,LLLA,MA,NA,NGA,NNA,NNNA,NYA,O,OO,PA,PHA,RA,RRA,SA,SHA,SSA,TA,THA,TTA,TTHA,TTTA,U,UU,VA,
VEDIC ANUSVARA,YA
  CHILLU:K,L,LL,LLL,M,N,NN,RR,Y
  VOCALIC:L,LL,R,RR
 NUMBER:ONE HUNDRED,ONE THOUSAND,TEN
 SIGN:ANUSVARA,AVAGRAHA,CANDRABINDU,CIRCULAR VIRAMA,COMBINING ANUSVARA ABOVE,PARA,
VERTICAL BAR VIRAMA,VIRAMA,VISARGA
 VOWEL SIGN:AA,AI,AU,E,EE,I,II,O,OO,U,UU
  VOCALIC:L,LL,R,RR
MALE:AND FEMALE SIGN,SIGN,WITH STROKE AND MALE AND FEMALE SIGN,WITH STROKE SIGN
MAN:AND WOMAN HOLDING HANDS,DANCING,IN BUSINESS SUIT LEVITATING,IN TUXEDO,WITH GUA PI MAO,
WITH TURBAN
MANDAIC:AFFRICATION MARK,GEMINATION MARK,PUNCTUATION,VOCALIZATION MARK
 LETTER:AB,AD,AG,AH,AIN,AK,AKSA,AL,AM,AN,AP,AQ,AR,AS,ASH,ASZ,AT,ATT,AZ,DUSHENNA,HALQA,IN,IT,KAD,
USHENNA
MANICHAEAN:ABBREVIATION MARK ABOVE,ABBREVIATION MARK BELOW,SIGN UD
 LETTER:AAYIN,ALEPH,AYIN,BETH,BHETH,DALETH,DHAMEDH,FE,GHIMEL,GIMEL,HE,HETH,JAYIN,JHAYIN,KAPH,KHAPH,
LAMEDH,MEM,NUN,PE,QHOPH,QOPH,RESH,SADHE,SAMEKH,SHIN,SSHIN,TAW,TETH,THAMEDH,WAW,XAPH,XOPH,YODH,ZAYIN,
ZHAYIN
 NUMBER:FIVE,ONE,ONE HUNDRED,TEN,TWENTY
 PUNCTUATION:DOT,DOT WITHIN DOT,DOUBLE DOT WITHIN DOT,FLEURON,LINE FILLER,STAR,TWO DOTS
MARCHEN:HEAD MARK,MARK SHAD,SIGN ANUSVARA,SIGN CANDRABINDU
 LETTER:-A,A,BA,CA,CHA,DA,DZA,GA,HA,JA,KA,KHA,LA,MA,NA,NGA,NYA,PA,PHA,RA,SA,SHA,TA,THA,TSA,TSHA,WA,
YA,ZA,ZHA
 SUBJOINED LETTER:A,BA,CA,CHA,DA,DZA,GA,HA,JA,KA,KHA,LA,MA,NA,NGA,NYA,PA,PHA,RA,SA,SHA,TA,THA,TSA,
TSHA,WA,YA,ZA,ZHA
 VOWEL SIGN:AA,E,I,O,U
MASARAM GONDI:RA-KARA,REPHA,VIRAMA
 DIGIT:EIGHT,FIVE,FOUR,NINE,ONE,SEVEN,SIX,THREE,TWO,ZERO
 LETTER:A,AA,AI,AU,BA,BHA,CA,CHA,DA,DDA,DDHA,DHA,E,GA,GHA,HA,I,II,JA,JHA,JNYA,KA,KHA,KSSA,LA,LLA,MA,
NA,NGA,NNA,NYA,O,PA,PHA,RA,SA,SHA,SSA,TA,THA,TRA,TTA,TTHA,U,UU,VA,YA
 SIGN:ANUSVARA,CANDRA,HALANTA,NUKTA,VISARGA
 VOWEL SIGN:AA,AI,AU,E,I,II,O,U,UU,VOCALIC R
MATHEMATICAL:FALLING DIAGONAL,RISING DIAGONAL
 BOLD:EPSILON SYMBOL,KAPPA SYMBOL,NABLA,PARTIAL DIFFERENTIAL,PHI SYMBOL,PI SYMBOL,RHO SYMBOL,
THETA SYMBOL
  CAPITAL:A,ALPHA,B,BETA,C,CHI,D,DELTA,DIGAMMA,E,EPSILON,ETA,F,G,GAMMA,H,I,IOTA,J,K,KAPPA,L,LAMDA,M,
MU,N,NU,O,OMEGA,OMICRON,P,PHI,PI,PSI,Q,R,RHO,S,SIGMA,T,TAU,THETA,THETA SYMBOL,U,UPSILON,V,W,X,XI,Y,
Z,ZETA
  DIGIT:EIGHT,FIVE,FOUR,NINE,ONE,SEVEN,SIX,THREE,TWO,ZERO
  FRAKTUR:
   CAPITAL:A,B,C,D,E,F,G,H,I,J,K,L,M,N,O,P,Q,R,S,T,U,V,W,X,Y,Z
   SMALL:A,B,C,D,E,F,G,H,I,J,K,L,M,N,O,P,Q,R,S,T,U,V,W,X,Y,Z
  ITALIC:EPSILON SYMBOL,KAPPA SYMBOL,NABLA,PARTIAL DIFFERENTIAL,PHI SYMBOL,PI SYMBOL,RHO SYMBOL,
THETA SYMBOL
   CAPITAL:A,ALPHA,B,BETA,C,CHI,D,DELTA,E,EPSILON,ETA,F,G,GAMMA,H,I,IOTA,J,K,KAPPA,L,LAMDA,M,MU,N,
NU,O,OMEGA,OMICRON,P,PHI,PI,PSI,Q,R,RHO,S,SIGMA,T,TAU,THETA,THETA SYMBOL,U,UPSILON,V,W,X,XI,Y,Z,
ZETA
   SMALL:A,ALPHA,B,BETA,C,CHI,D,DELTA,E,EPSILON,ETA,F,FINAL SIGMA,G,GAMMA,H,I,IOTA,J,K,KAPPA,L,
LAMDA,M,MU,N,NU,O,OMEGA,OMICRON,P,PHI,PI,PSI,Q,R,RHO,S,SIGMA,T,TAU,THETA,U,UPSILON,V,W,X,XI,Y,Z,
ZETA
  SCRIPT:
   CAPITAL:A,B,C,D,E,F,G,H,I,J,K,L,M,N,O,P,Q,R,S,T,U,V,W,X,Y,Z
   SMALL:A,B,C,D,E,F,G,H,I,J,K,L,M,N,O,P,Q,R,S,T,U,V,W,X,Y,Z
  SMALL:A,ALPHA,B,BETA,C,CHI,D,DELTA,DIGAMMA,E,EPSILON,ETA,F,FINAL SIGMA,G,GAMMA,H,I,IOTA,J,K,KAPPA,
L,LAMDA,M,MU,N,NU,O,OMEGA,OMICRON,P,PHI,PI,PSI,Q,R,RHO,S,SIGMA,T,TAU,THETA,U,UPSILON,V,W,X,XI,Y,Z,
ZETA
 DOUBLE-STRUCK:
  CAPITAL:A,B,D,E,F,G,I,J,K,L,M,O,S,T,U,V,W,X,Y
  DIGIT:EIGHT,FIVE,FOUR,NINE,ONE,SEVEN,SIX,THREE,TWO,ZERO
  SMALL:A,B,C,D,E,F,G,H,I,J,K,L,M,N,O,P,Q,R,S,T,U,V,W,X,Y,Z
 FRAKTUR:
  CAPITAL:A,B,D,E,F,G,J,K,L,M,N,O,P,Q,S,T,U,V,W,X,Y
  SMALL:A,B,C,D,E,F,G,H,I,J,K,L,M,N,O,P,Q,R,S,T,U,V,W,X,Y,Z
 ITALIC:EPSILON SYMBOL,KAPPA SYMBOL,NABLA,PARTIAL DIFFERENTIAL,PHI SYMBOL,PI SYMBOL,RHO SYMBOL,
THETA SYMBOL
  CAPITAL:A,ALPHA,B,BETA,C,CHI,D,DELTA,E,EPSILON,ETA,F,G,GAMMA,H,I,IOTA,J,K,KAPPA,L,LAMDA,M,MU,N,NU,
O,OMEGA,OMICRON,P,PHI,PI,PSI,Q,R,RHO,S,SIGMA,T,TAU,THETA,THETA SYMBOL,U,UPSILON,V,W,X,XI,Y,Z,ZETA
  SMALL:A,ALPHA,B,BETA,C,CHI,D,DELTA,DOTLESS I,DOTLESS J,E,EPSILON,ETA,F,FINAL SIGMA,G,GAMMA,I,IOTA,
J,K,KAPPA,L,LAMDA,M,MU,N,NU,O,OMEGA,OMICRON,P,PHI,PI,PSI,Q,R,RHO,S,SIGMA,T,TAU,THETA,U,UPSILON,V,W,
X,XI,Y,Z,ZETA
 LEFT:ANGLE BRACKET,DOUBLE ANGLE BRACKET,FLATTENED PARENTHESIS,WHITE SQUARE BRACKET,
WHITE TORTOISE SHELL BRACKET
 MONOSPACE:
  CAPITAL:A,B,C,D,E,F,G,H,I,J,K,L,M,N,O,P,Q,R,S,T,U,V,W,X,Y,Z
  DIGIT:EIGHT,FIVE,FOUR,NINE,ONE,SEVEN,SIX,THREE,TWO,ZERO
  SMALL:A,B,C,D,E,F,G,H,I,J,K,L,M,N,O,P,Q,R,S,T,U,V,W,X,Y,Z
 RIGHT:ANGLE BRACKET,DOUBLE ANGLE BRACKET,FLATTENED PARENTHESIS,WHITE SQUARE BRACKET,
WHITE TORTOISE SHELL BRACKET
 SANS-SERIF:
  BOLD:EPSILON SYMBOL,KAPPA SYMBOL,NABLA,PARTIAL DIFFERENTIAL,PHI SYMBOL,PI SYMBOL,RHO SYMBOL,
THETA SYMBOL
   CAPITAL:A,ALPHA,B,BETA,C,CHI,D,DELTA,E,EPSILON,ETA,F,G,GAMMA,H,I,IOTA,J,K,KAPPA,L,LAMDA,M,MU,N,
NU,O,OMEGA,OMICRON,P,PHI,PI,PSI,Q,R,RHO,S,SIGMA,T,TAU,THETA,THETA SYMBOL,U,UPSILON,V,W,X,XI,Y,Z,
ZETA
   DIGIT:EIGHT,FIVE,FOUR,NINE,ONE,SEVEN,SIX,THREE,TWO,ZERO
   ITALIC:EPSILON SYMBOL,KAPPA SYMBOL,NABLA,PARTIAL DIFFERENTIAL,PHI SYMBOL,PI SYMBOL,RHO SYMBOL,
THETA SYMBOL
    CAPITAL:A,ALPHA,B,BETA,C,CHI,D,DELTA,E,EPSILON,ETA,F,G,GAMMA,H,I,IOTA,J,K,KAPPA,L,LAMDA,M,MU,N,
NU,O,OMEGA,OMICRON,P,PHI,PI,PSI,Q,R,RHO,S,SIGMA,T,TAU,THETA,THETA SYMBOL,U,UPSILON,V,W,X,XI,Y,Z,
ZETA
    SMALL:A,ALPHA,B,BETA,C,CHI,D,DELTA,E,EPSILON,ETA,F,FINAL SIGMA,G,GAMMA,H,I,IOTA,J,K,KAPPA,L,
LAMDA,M,MU,N,NU,O,OMEGA,OMICRON,P,PHI,PI,PSI,Q,R,RHO,S,SIGMA,T,TAU,THETA,U,UPSILON,V,W,X,XI,Y,Z,
ZETA
   SMALL:A,ALPHA,B,BETA,C,CHI,D,DELTA,E,EPSILON,ETA,F,FINAL SIGMA,G,GAMMA,H,I,IOTA,J,K,KAPPA,L,
LAMDA,M,MU,N,NU,O,OMEGA,OMICRON,P,PHI,PI,PSI,Q,R,RHO,S,SIGMA,T,TAU,THETA,U,UPSILON,V,W,X,XI,Y,Z,
ZETA
  CAPITAL:A,B,C,D,E,F,G,H,I,J,K,L,M,N,O,P,Q,R,S,T,U,V,W,X,Y,Z
  DIGIT:EIGHT,FIVE,FOUR,NINE,ONE,SEVEN,SIX,THREE,TWO,ZERO
  ITALIC:
   CAPITAL:A,B,C,D,E,F,G,H,I,J,K,L,M,N,O,P,Q,R,S,T,U,V,W,X,Y,Z
   SMALL:A,B,C,D,E,F,G,H,I,J,K,L,M,N,O,P,Q,R,S,T,U,V,W,X,Y,Z
  SMALL:A,B,C,D,E,F,G,H,I,J,K,L,M,N,O,P,Q,R,S,T,U,V,W,X,Y,Z
 SCRIPT:
  CAPITAL:A,C,D,G,J,K,N,O,P,Q,S,T,U,V,W,X,Y,Z
  SMALL:A,B,C,D,F,H,I,J,K,L,M,N,P,Q,R,S,T,U,V,W,X,Y,Z
MAYAN NUMERAL:EIGHT,EIGHTEEN,ELEVEN,FIFTEEN,FIVE,FOUR,FOURTEEN,NINE,NINETEEN,ONE,SEVEN,SEVENTEEN,
SIX,SIXTEEN,TEN,THIRTEEN,THREE,TWELVE,TWO,ZERO
MEASURED:ANGLE,BY,RIGHT ANGLE WITH DOT
 ANGLE:OPENING LEFT
  WITH OPEN ARM ENDING IN ARROW POINTING:DOWN AND LEFT,DOWN AND RIGHT,LEFT AND DOWN,LEFT AND UP,
RIGHT AND DOWN,RIGHT AND UP,UP AND LEFT,UP AND RIGHT
MEDEFAIDRIN:COMMA,EXCLAMATION OH,FULL STOP,SYMBOL AIVA
 CAPITAL LETTER:A,AI,ATIU,B,C,D,E,F,G,H,HP,I,J,K,KP,L,M,N,NG,NY,O,OE,P,Q,R,S,T,U,V,W,X,Y,YU,Z
 DIGIT:EIGHT,FIVE,FOUR,NINE,ONE,ONE ALTERNATE FORM,SEVEN,SIX,THREE,THREE ALTERNATE FORM,TWO,
TWO ALTERNATE FORM,ZERO
 NUMBER:EIGHTEEN,ELEVEN,FIFTEEN,FOURTEEN,NINETEEN,SEVENTEEN,SIXTEEN,TEN,THIRTEEN,TWELVE
 SMALL LETTER:A,AI,ATIU,B,C,D,E,F,G,H,HP,I,J,K,KP,L,M,N,NG,NY,O,OE,P,Q,R,S,T,U,V,W,X,Y,YU,Z
MEDIEVAL:COMMA,EXCLAMATION MARK,QUESTION MARK
MEDIUM:BLACK CIRCLE,BOLD WHITE CIRCLE,EIGHT POINTED BLACK STAR,EIGHT SPOKED ASTERISK,
FIVE SPOKED ASTERISK,FLATTENED LEFT PARENTHESIS ORNAMENT,FLATTENED RIGHT PARENTHESIS ORNAMENT,
FOUR POINTED BLACK STAR,FOUR POINTED PINWHEEL STAR,GREEK CROSS,LEFT CURLY BRACKET ORNAMENT,
LEFT PARENTHESIS ORNAMENT,LEFT-POINTING ANGLE BRACKET ORNAMENT,MATHEMATICAL SPACE,
RIGHT CURLY BRACKET ORNAMENT,RIGHT PARENTHESIS ORNAMENT,RIGHT-POINTING ANGLE BRACKET ORNAMENT,
SALTIRE,SHADE,SIX POINTED BLACK STAR,SIX SPOKED ASTERISK,SMALL WHITE CIRCLE,
THREE POINTED BLACK STAR,THREE POINTED PINWHEEL STAR,VERTICAL BAR,WHITE CIRCLE,WHITE SQUARE
MEETEI MAYEK:AHANG KHUDAM,ANJI,APUN IYEK,CHEIKHAN,CHEIKHEI,LUM IYEK,SYLLABLE REPETITION MARK,VIRAMA,
WORD REPETITION MARK
 DIGIT:EIGHT,FIVE,FOUR,NINE,ONE,SEVEN,SIX,THREE,TWO,ZERO
 LETTER:ATIYA,BA,BHAM,CHA,CHIL,DDA,DDHA,DHOU,DIL,E,GHOU,GOK,HUK,I,I LONSUM,JHAM,JIL,KHOU,KOK,
KOK LONSUM,LAI,LAI LONSUM,MIT,MIT LONSUM,NA,NA LONSUM,NGOU,NGOU LONSUM,NNA,NYA,O,PA,PA LONSUM,PHAM,
RAI,SAM,SHA,SSA,THOU,TIL,TIL LONSUM,TTA,TTHA,UN,WAI,YANG
 VOWEL SIGN:AAI,AAU,ANAP,AU,CHEINAP,II,INAP,NUNG,ONAP,SOUNAP,UNAP,UU,VISARGA,YENAP
MENDE KIKAKUI:
 COMBINING NUMBER:HUNDRED THOUSANDS,HUNDREDS,MILLIONS,TEENS,TEN THOUSANDS,TENS,THOUSANDS
 DIGIT:EIGHT,FIVE,FOUR,NINE,ONE,SEVEN,SIX,THREE,TWO
 SYLLABLE:M001 KI,M002 KA,M003 KU,M004 WI,M005 WA,M006 WU,M007 MIN,M008 MAN,M009 MUN,M010 BI,
M011 BA,M012 BU,M013 I,M014 A,M015 U,M016 DI,M017 DA,M018 DU,M019 SI,M020 SA,M021 SU,M022 TI,
M023 TA,M024 TU,M025 LI,M026 LA,M027 LU,M028 JI,M029 JA,M030 JU,M031 YI,M032 YA,M033 YU,M034 FI,
M035 FA,M036 FU,M037 NIN,M038 NAN,M039 NUN,M040 HEE,M041 HA,M042 HOO,M043 NGGA,M044 KPEE,M045 WO,
M046 HUAN,M047 MBEE,M048 KO,M049 WVA,M050 PU,M051 PE,M052 HEN,M053 HIN,M054 LOO,M055 TE,M056 GBA,
M057 NGON,M058 NYAN,M059 MEN,M060 NYON,M061 WVI,M062 MBA,M063 JO,M064 NDO,M065 KEE,M066 PO,
M067 NDOO,M068 PI,M069 TO,M070 GBO,M071 GBOO,M072 MBE,M073 LE,M074 KPU,M075 FE,M076 KOO,M077 VO,
M078 FEE,M079 SO,M080 YE,M081 PEE,M082 NGGU,M083 HEEI,M084 LEE,M085 VE,M086 LONG NGGE,M087 HUN,
M088 FO,M089 DEE,M090 NGGI,M091 TEE,M092 KPA,M093 GBEE,M094 MON,M095 KE,M096 HE,M097 BE,M098 NYEN,
M099 PA,M100 E,M101 FAN,M102 POO,M103 BOO,M104 TOO,M105 LONG MBOO,M106 LONG NGGOO,M107 GBE,M108 KPE,
M109 YEE,M110 LONG LE,M111 GA,M112 KPOO,M113 JE,M114 WOO,M115 NGGEE,M116 SE,M117 NEN,M118 WE,
M119 NDE,M120 NGGO,M121 YO,M122 MBU,M123 NDI,M124 GBI,M125 NDU,M126 WEE,M127 NGGUA,M128 HOOU,
M129 NDA,M130 HAN,M131 IN,M132 KPI,M133 FOO,M134 NJOO,M135 IN,M136 SOO,M137 EI,M138 BO,M139 WVE,
M140 HO,M141 YOO,M142 LONG MBO,M143 WEI,M144 VOO,M145 MBI,M146 NGGE,M147 O,M148 GBU,M149 NJEE,
M150 BEE,M151 VU,M152 NJA,M153 LO,M154 MUAN,M155 GI,M156 NGGOO,M157 JEE,M158 KPO,M159 NGGAA,
M160 JOO,M161 LONG MBE,M162 SEE,M163 EE,M164 NYIN,M165 OO,M166 GUEI,M167 GUAN,M168 GU,M169 NON,
M170 NYUN,M171 RA,M172 MBOO,M173 VEE,M174 MBO,M175 LONG JO,M176 HI,M177 NGUAN,M178 EN,M179 KUA,
M180 DOO,M181 DO,M182 VI,M183 LONG NGGO,M184 NGEN,M185 VA,M186 HU,M187 MBUU,M188 MBEE,M189 MUEN,
M190 GEE,M191 NDEE,M192 NJU,M193 HON,M194 WUI,M195 AN,M196 SIA,M197 FUA
MEROITIC:
 CURSIVE:LOGOGRAM IMN,LOGOGRAM RMT
  FRACTION:EIGHT TWELFTHS,ELEVEN TWELFTHS,FIVE TWELFTHS,FOUR TWELFTHS,NINE TWELFTHS,ONE HALF,
ONE TWELFTH,SEVEN TWELFTHS,SIX TWELFTHS,TEN TWELFTHS,THREE TWELFTHS,TWO TWELFTHS
  LETTER:A,ARCHAIC SA,BA,DA,E,HHA,I,KA,KHA,LA,MA,NA,NE,O,PA,QA,RA,SA,SE,TA,TE,TO,WA,YA
  NUMBER:EIGHT,EIGHTY THOUSAND,FIFTY,FIFTY THOUSAND,FIVE,FORTY,FORTY THOUSAND,FOUR,NINE,
NINETY THOUSAND,ONE,SEVEN,SEVENTY,SEVENTY THOUSAND,SIX,SIXTY,SIXTY THOUSAND,TEN,TEN THOUSAND,THIRTY,
THIRTY THOUSAND,THREE,TWENTY,TWENTY THOUSAND,TWO
   EIGHT:HUNDRED,HUNDRED THOUSAND,THOUSAND
   FIVE:HUNDRED,HUNDRED THOUSAND,THOUSAND
   FOUR:HUNDRED,HUNDRED THOUSAND,THOUSAND
   NINE:HUNDRED,HUNDRED THOUSAND,THOUSAND
   ONE:HUNDRED,HUNDRED THOUSAND,THOUSAND
   SEVEN:HUNDRED,HUNDRED THOUSAND,THOUSAND
   SIX:HUNDRED,HUNDRED THOUSAND,THOUSAND
   THREE:HUNDRED,HUNDRED THOUSAND,THOUSAND
   TWO:HUNDRED,HUNDRED THOUSAND,THOUSAND
 HIEROGLYPHIC:SYMBOL VIDJ,SYMBOL VIDJ-2
  LETTER:A,BA,BA-2,DA,E,HHA,I,KA,KHA,LA,MA,NA,NA-2,NE,NE-2,O,PA,QA,RA,RA-2,SA,SA-2,SE,TA,TA-2,TE,
TE-2,TO,WA,YA
METRICAL:BREVE,LONG OVER SHORT,LONG OVER TWO SHORTS,PENTASEME,SHORT OVER LONG,TETRASEME,TRISEME,
TWO SHORTS JOINED,TWO SHORTS OVER LONG
MIAO:
 LETTER:AH,BA,BRI,DA,DDA,DLHA,DLHYA,DZA,DZHA,DZYI,DZZA,FA,GA,GHA,GHHA,HA,HHA,KA,LA,LHA,LHYA,LYA,MA,
MHA,NA,NASALIZATION,NGA,NGHA,NHA,NNA,NNHA,NYA,NYHA,PA,PLA,QA,QGA,RTE,SA,SHA,SSA,SYI,TA,TE,TLHA,
TLHYA,TONE-2,TONE-3,TONE-4,TONE-5,TONE-6,TONE-7,TONE-8,TSA,TSE,TSHA,TSSA,TTA,VA,VFA,WA,XA,ZA,ZHA,
ZSA,ZSHA,ZZA,ZZSA,ZZSYA,ZZYA
  ARCHAIC:MA,NA,NGA,ZZA
  REFORMED:TONE-1,TONE-2,TONE-4,TONE-5,TONE-6,TONE-8,TSHA
  YI:DZHA,KA,NNA,PA,TA,TSA,TSHA,TTA
 SIGN:ASPIRATION,CONSONANT MODIFIER BAR,REFORMED ASPIRATION,REFORMED VOICING
 TONE:ABOVE,BELOW,RIGHT,TOP RIGHT
 VOWEL SIGN:A,AA,AE,AEE,AHH,AI,AN,ANG,AU,E,EA,EI,EN,ENG,ER,ERR,I,IA,IAN,IANG,IE,IG,II,ING,IO,IONG,
IU,N,NG,O,OER,OEY,OG,OO,OU,ROUNDED ER,ROUNDED ERR,U,UA,UAN,UANG,UEI,UI,UNG,UOG,UU,VW,W,WO,Y,YI,YUI
MINUS:SIGN,TILDE
 SIGN:IN TRIANGLE
  WITH:COMMA ABOVE,DOT BELOW,FALLING DOTS,RISING DOTS
MODI:ABBREVIATION SIGN,DANDA,DOUBLE DANDA
 DIGIT:EIGHT,FIVE,FOUR,NINE,ONE,SEVEN,SIX,THREE,TWO,ZERO
 LETTER:A,AA,AI,AU,BA,BHA,CA,CHA,DA,DDA,DDHA,DHA,E,GA,GHA,HA,I,II,JA,JHA,KA,KHA,LA,LLA,MA,NA,NGA,
NNA,NYA,O,PA,PHA,RA,SA,SHA,SSA,TA,THA,TTA,TTHA,U,UU,VA,YA
  VOCALIC:L,LL,R,RR
 SIGN:ANUSVARA,ARDHACANDRA,HUVA,VIRAMA,VISARGA
 VOWEL SIGN:AA,AI,AU,E,I,II,O,U,UU
  VOCALIC:L,LL,R,RR
MODIFIER:BREVE WITH INVERTED BREVE
 LETTER:ACUTE ACCENT,ALVEOLAR CLICK,APOSTROPHE,BEGIN HIGH TONE,BEGIN LOW TONE,BILABIAL CLICK,
CENTRED LEFT HALF RING,CENTRED RIGHT HALF RING,CIRCUMFLEX ACCENT,COLON,CROSS ACCENT,DENTAL CLICK,
DOUBLE APOSTROPHE,DOUBLE PRIME,DOWN ARROWHEAD,DOWN TACK,END HIGH TONE,END LOW TONE,GEORGIAN NAR,
GLOTTAL STOP,GLOTTAL STOP WITH STROKE,GRAVE ACCENT,HALF TRIANGULAR COLON,LATERAL CLICK,
LOWER RIGHT CORNER ANGLE,MACRON,MINUS SIGN,OPEN SHELF,PLUS SIGN,PRIME,
RETROFLEX CLICK WITH RETROFLEX HOOK,RHOTIC HOOK,SHELF,SHORT EQUALS SIGN,STRESS AND HIGH TONE,
STRESS AND LOW TONE,SUPERSCRIPT HALF TRIANGULAR COLON,SUPERSCRIPT TRIANGULAR COLON,TRIANGULAR COLON,
TURNED COMMA,UNASPIRATED,UP ARROWHEAD,UP TACK,US,VERTICAL LINE,VOICING,YANG DEPARTING TONE MARK,
YIN DEPARTING TONE MARK
  CAPITAL:A,AE,B,BARRED B,C,D,E,F,G,H,H WITH STROKE,I,J,K,L,M,N,O,OU,P,Q,R,REVERSED E,REVERSED N,T,
U,V,W
  CHINESE TONE:
   YANG:PING,QU,RU,SHANG
   YIN:PING,QU,RU,SHANG
  CYRILLIC:EN,HARD SIGN,SOFT SIGN
  DOT:HORIZONTAL BAR,SLASH,VERTICAL BAR
  EXTRA-HIGH:DOTTED LEFT-STEM TONE BAR,DOTTED TONE BAR,LEFT-STEM TONE BAR,TONE BAR
  EXTRA-LOW:DOTTED LEFT-STEM TONE BAR,DOTTED TONE BAR,LEFT-STEM TONE BAR,TONE BAR
  HIGH:DOTTED LEFT-STEM TONE BAR,DOTTED TONE BAR,LEFT-STEM TONE BAR,TONE BAR
  LEFT:ARROWHEAD,HALF RING,TACK
  LOW:ACUTE ACCENT,CIRCUMFLEX ACCENT,DOTTED LEFT-STEM TONE BAR,DOTTED TONE BAR,DOWN ARROWHEAD,
GRAVE ACCENT,INVERTED EXCLAMATION MARK,LEFT ARROW,LEFT ARROWHEAD,LEFT-STEM TONE BAR,MACRON,
RIGHT ARROWHEAD,RING,TILDE,TONE BAR,UP ARROWHEAD,VERTICAL LINE
  MID:DOTTED LEFT-STEM TONE BAR,DOTTED TONE BAR,LEFT-STEM TONE BAR,TONE BAR
  MIDDLE:DOUBLE ACUTE ACCENT,DOUBLE GRAVE ACCENT,GRAVE ACCENT
  RAISED:COLON,DOWN ARROW,EXCLAMATION MARK,INVERTED EXCLAMATION MARK,UP ARROW
  REVERSED:COMMA,GLOTTAL STOP,GLOTTAL STOP WITH STROKE
  RIGHT:ARROWHEAD,HALF RING,TACK
  SMALL:A,AE,AIN,ALPHA,B,B WITH HOOK,BARRED O,BETA,BOTTOM HALF O,C,C WITH CURL,CHI,CLOSED OMEGA,
CLOSED REVERSED OPEN E,D,DELTA,DEZH DIGRAPH,DOTLESS J WITH STROKE,DOTLESS J WITH STROKE AND HOOK,
DZ DIGRAPH,DZ DIGRAPH WITH CURL,DZ DIGRAPH WITH RETROFLEX HOOK,E,ENG,ESH,ETH,EZH,F,FENG DIGRAPH,G,
G WITH HOOK,GAMMA,GREEK GAMMA,GREEK PHI,H,H WITH HOOK,H WITH STROKE,HENG,HENG WITH HOOK,
I WITH STROKE,IOTA,J,J WITH CROSSED-TAIL,K,L,LEZH,LEZH WITH RETROFLEX HOOK,LIGATURE OE,LS DIGRAPH,
LZ DIGRAPH,M,M WITH HOOK,N WITH LEFT HOOK,N WITH RETROFLEX HOOK,O,O WITH STROKE,OPEN E,OPEN O,P,PHI,
Q,R,R WITH FISHHOOK,R WITH TAIL,RAMS HORN,S,S WITH CURL,S WITH HOOK,SCHWA,SCRIPT G,SIDEWAYS U,T,
T WITH PALATAL HOOK,T WITH RETROFLEX HOOK,TC DIGRAPH WITH CURL,TESH DIGRAPH,THETA,TOP HALF O,
TS DIGRAPH,TS DIGRAPH WITH RETROFLEX HOOK,U,U BAR,U WITH LEFT HOOK,UPSILON,V,V WITH HOOK,
V WITH RIGHT HOOK,W,X,Y,Z,Z WITH CURL,Z WITH RETROFLEX HOOK
   CAPITAL:AA,B,G,G WITH HOOK,H,I,I WITH STROKE,INVERTED R,L,L WITH BELT,N,OE,R,U,Y
   D WITH:HOOK,HOOK AND TAIL,TAIL
   L WITH:BELT,INVERTED LAZY S,MIDDLE TILDE,PALATAL HOOK,RETROFLEX HOOK,RETROFLEX HOOK AND BELT
   REVERSED:E,GLOTTAL STOP,OPEN E
   TURNED:A,AE,ALPHA,H,I,M,M WITH LONG LEG,OPEN E,R,V,W,Y,Y WITH BELT
    R WITH:HOOK,LONG LEG,LONG LEG AND RETROFLEX HOOK
MONGOLIAN:BIRGA,BIRGA WITH DOUBLE ORNAMENT,BIRGA WITH ORNAMENT,COLON,COMMA,
DOUBLE BIRGA WITH ORNAMENT,ELLIPSIS,FOUR DOTS,FULL STOP,INVERTED BIRGA,
INVERTED BIRGA WITH DOUBLE ORNAMENT,MANCHU COMMA,MANCHU FULL STOP,NIRUGU,ROTATED BIRGA,
ROTATED BIRGA WITH DOUBLE ORNAMENT,ROTATED BIRGA WITH ORNAMENT,SIBE SYLLABLE BOUNDARY MARKER,
SWIRL BIRGA,SWIRL BIRGA WITH DOUBLE ORNAMENT,SWIRL BIRGA WITH ORNAMENT,TODO SOFT HYPHEN,
TRIPLE BIRGA WITH ORNAMENT,TURNED SWIRL BIRGA WITH DOUBLE ORNAMENT,VOWEL SEPARATOR
 DIGIT:EIGHT,FIVE,FOUR,NINE,ONE,SEVEN,SIX,THREE,TWO,ZERO
 FREE VARIATION SELECTOR:FOUR,ONE,THREE,TWO
 LETTER:A,ANG,BA,CHA,CHA WITH TWO DOTS,CHI,DA,E,EE,FA,GA,HAA,I,JA,KA,KHA,LA,LHA,MA,NA,O,OE,PA,QA,RA,
SA,SHA,TA,TSA,U,UE,WA,YA,ZA,ZHI,ZRA
  ALI GALI:A,AH,ANUSVARA ONE,BALUDA,CA,DA,DAGALGA,DAMARU,DDA,HALF U,HALF YA,I,INVERTED UBADAMA,KA,
NGA,NNA,PA,PHA,SSA,TA,THREE BALUDA,TTA,TTHA,UBADAMA,VISARGA ONE,ZA,ZHA
  MANCHU:FA,I,KA,RA,ZHA
   ALI GALI:BHA,CA,CYA,DDHA,DHA,GHA,JHA,LHA,NGA,SSA,TA,TTA,ZA,ZHA
  SIBE:ANG,CHA,DA,E,FA,GA,GAA,HA,HAA,I,IY,JA,KA,PA,RAA,SHA,TA,TSA,U,UE,ZA,ZHA
  TODO:ALI GALI TA,ALI GALI ZHA,ANG,BA,CHA,DA,DZA,E,GA,GAA,HAA,I,JA,JIA,KA,LONG VOWEL SIGN,MA,NIA,O,
OE,PA,QA,TA,TSA,U,UE,WA,YA
MONOGRAM FOR:EARTH,YANG,YIN
MOUNTAIN:BICYCLIST,CABLEWAY,RAILWAY
MRO:DANDA,DOUBLE DANDA
 DIGIT:EIGHT,FIVE,FOUR,NINE,ONE,SEVEN,SIX,THREE,TWO,ZERO
 LETTER:A,BA,CHU,DA,DAI,E,EA,HAI,HAO,KEAAE,KHAI,KO,LA,LAN,MAEM,MIM,NGI,NIN,O,OL,OO,PA,PHI,RI,RO,SHI,
TA,TEK,THEA,WA,YO
MULTANI:SECTION MARK
 LETTER:A,BA,BHA,CA,CHA,DA,DDA,DDDA,DDHA,DHA,E,GA,GHA,HA,I,JA,JJA,KA,KHA,LA,MA,NA,NNA,NYA,PA,PHA,RA,
RHA,RRA,SA,TA,THA,TTA,TTHA,U,VA,YA
MULTIPLICATION:SIGN,X
 SIGN:WITH DOT ABOVE,WITH UNDERBAR
  IN:DOUBLE CIRCLE,LEFT HALF CIRCLE,RIGHT HALF CIRCLE,TRIANGLE
MUSIC:FLAT SIGN,NATURAL SIGN,SHARP SIGN
MUSICAL:KEYBOARD,KEYBOARD WITH JACKS,NOTE,SCORE
 SYMBOL:ARPEGGIATO DOWN,ARPEGGIATO UP,BRACE,BRACKET,BREATH MARK,BREVE,BREVIS,BREVIS REST,C CLEF,
CAESURA,CIRCLE X NOTEHEAD,CLIMACUS,CLIVIS,CLUSTER NOTEHEAD BLACK,CLUSTER NOTEHEAD WHITE,CODA,
COMMON TIME,CRESCENDO,CROIX,CUT TIME,DA CAPO,DAL SEGNO,DAMP,DAMP ALL,DASHED BARLINE,DECRESCENDO,
DEGREE SLASH,DRUM CLEF-1,DRUM CLEF-2,EIGHTH NOTE,EIGHTH REST,F CLEF,F CLEF OTTAVA ALTA,
F CLEF OTTAVA BASSA,FERMATA,FERMATA BELOW,FINAL BARLINE,FIVE-LINE STAFF,FLAT DOWN,FLAT UP,FORTE,
FOUR-LINE STAFF,FOUR-STRING FRETBOARD,FUSA BLACK,FUSA WHITE,G CLEF,G CLEF OTTAVA ALTA,
G CLEF OTTAVA BASSA,GLISSANDO DOWN,GLISSANDO UP,GRACE NOTE NO SLASH,GRACE NOTE SLASH,
GREGORIAN C CLEF,GREGORIAN F CLEF,HAUPTSTIMME,INVERTED TURN,KORON,LEFT REPEAT SIGN,LONGA,
LONGA IMPERFECTA REST,LONGA PERFECTA REST,MAXIMA,MEZZO,MINIMA,MINIMA BLACK,MINIMA REST,
MOON NOTEHEAD BLACK,MOON NOTEHEAD WHITE,MULTI REST,MULTIPLE MEASURE REST,NATURAL DOWN,NATURAL UP,
NEBENSTIMME,NOTEHEAD BLACK,NULL NOTEHEAD,ONE HUNDRED TWENTY-EIGHTH NOTE,
ONE HUNDRED TWENTY-EIGHTH REST,ONE-LINE STAFF,OTTAVA ALTA,OTTAVA BASSA,PARENTHESIS NOTEHEAD,
PEDAL MARK,PEDAL UP MARK,PES SUBPUNCTIS,PIANO,PLUS NOTEHEAD,PODATUS,PORRECTUS,PORRECTUS FLEXUS,
QUINDICESIMA ALTA,QUINDICESIMA BASSA,REPEAT DOTS,REVERSE FINAL BARLINE,RIGHT REPEAT SIGN,
RINFORZANDO,SCANDICUS,SCANDICUS FLEXUS,SEGNO,SHARP DOWN,SHARP UP,SHORT BARLINE,SINGLE BARLINE,
SIX-LINE STAFF,SIX-STRING FRETBOARD,SIXTEENTH NOTE,SIXTEENTH REST,SIXTY-FOURTH NOTE,
SIXTY-FOURTH REST,SORI,SUBITO,THIRTY-SECOND NOTE,THIRTY-SECOND REST,THREE-LINE STAFF,TORCULUS,
TORCULUS RESUPINUS,TR,TRIANGLE-ROUND NOTEHEAD DOWN BLACK,TRIANGLE-ROUND NOTEHEAD DOWN WHITE,TURN,
TURN SLASH,TURN UP,TWO-LINE STAFF,VIRGA,VOID NOTEHEAD,WHOLE NOTE,WHOLE REST,WITH FINGERNAILS,
X NOTEHEAD,Z
  BEGIN:BEAM,PHRASE,SLUR,TIE
  COMBINING:ACCENT,ACCENT-STACCATO,AUGMENTATION DOT,BEND,DOIT,DOUBLE TONGUE,DOWN BOW,FLAG-1,FLAG-2,
FLAG-3,FLAG-4,FLAG-5,FLIP,HARMONIC,LOURE,MARCATO,MARCATO-STACCATO,RIP,SMEAR,SNAP PIZZICATO,
SPRECHGESANG STEM,STACCATISSIMO,STACCATO,STEM,TENUTO,TREMOLO-1,TREMOLO-2,TREMOLO-3,TRIPLE TONGUE,
UP BOW
  DOUBLE:BARLINE,FLAT,SHARP
  END:BEAM,OF STIMME,PHRASE,SLUR,TIE
  FINGERED:TREMOLO-1,TREMOLO-2,TREMOLO-3
  HALF:NOTE,PEDAL MARK,REST
  KIEVAN:C CLEF,EIGHTH NOTE STEM DOWN,EIGHTH NOTE STEM UP,END OF PIECE,FINAL NOTE,FLAT SIGN,
HALF NOTE,QUARTER NOTE STEM DOWN,QUARTER NOTE STEM UP,RECITATIVE MARK,WHOLE NOTE
  ORNAMENT:STROKE-1,STROKE-10,STROKE-11,STROKE-2,STROKE-3,STROKE-4,STROKE-5,STROKE-6,STROKE-7,
STROKE-8,STROKE-9
  QUARTER:NOTE,REST,TONE FLAT,TONE SHARP
  REPEATED:FIGURE-1,FIGURE-2,FIGURE-3
  SEMIBREVIS:BLACK,REST,WHITE
  SEMIMINIMA:BLACK,REST,WHITE
  SQUARE:B,NOTEHEAD BLACK,NOTEHEAD WHITE
  TEMPUS:
   IMPERFECTUM CUM PROLATIONE:IMPERFECTA,PERFECTA
    IMPERFECTA:DIMINUTION-1,DIMINUTION-2,DIMINUTION-3
   PERFECTUM CUM PROLATIONE:IMPERFECTA,PERFECTA,PERFECTA DIMINUTION-1
  TRIANGLE NOTEHEAD:DOWN BLACK,DOWN WHITE,LEFT BLACK,LEFT WHITE,RIGHT BLACK,RIGHT WHITE
   UP:BLACK,RIGHT BLACK,RIGHT WHITE,WHITE
MYANMAR:MODIFIER LETTER KHAMTI REDUPLICATION,MODIFIER LETTER SHAN REDUPLICATION,
TONE MARK SGAW KAREN HATHI,TONE MARK SGAW KAREN KE PHO
 CONSONANT SIGN:SHAN MEDIAL WA
  MEDIAL:HA,RA,WA,YA
  MON MEDIAL:LA,MA,NA
 DIGIT:EIGHT,FIVE,FOUR,NINE,ONE,SEVEN,SIX,THREE,TWO,ZERO
 LETTER:A,AITON RA,AU,BA,BHA,CA,CHA,DA,DDA,DDHA,DHA,E,GA,GHA,GREAT SA,HA,I,II,JA,JHA,KA,KHA,LA,LLA,
MA,NA,NGA,NNA,NNYA,NYA,O,PA,PHA,RA,RUMAI PALAUNG FA,SA,SGAW KAREN SHA,SHA,SHWE PALAUNG CHA,
SHWE PALAUNG SHA,SSA,TA,THA,TTA,TTHA,U,UU,WA,WESTERN PWO KAREN PWA,WESTERN PWO KAREN THA,YA
  EASTERN PWO KAREN:GHWA,NNA,YWA
  KHAMTI:CA,CHA,DDA,DDHA,DHA,FA,GA,HA,HHA,JA,JHA,LLA,NA,NYA,RA,SA,TTA,TTHA,XA,ZA
  MON:BBA,BBE,E,JHA,NGA
  SHAN:A,BA,BHA,CA,CHA,DA,FA,GA,GHA,HA,JHA,KA,KHA,NA,NNA,NYA,PHA,THA,ZA
  TAI LAING:BA,BHA,DA,DDA,DDHA,DHA,FA,GA,GHA,JA,JHA,LLA,NNA,NYA
  VOCALIC:L,LL,R,RR
 LOGOGRAM KHAMTI:HM,OAY,QN
 SHAN DIGIT:EIGHT,FIVE,FOUR,NINE,ONE,SEVEN,SIX,THREE,TWO,ZERO
 SIGN:ANUSVARA,ASAT,DOT BELOW,KHAMTI TONE-1,KHAMTI TONE-3,LITTLE SECTION,PAO KAREN TONE,
RUMAI PALAUNG TONE-5,SECTION,TAI LAING TONE-2,TAI LAING TONE-5,VIRAMA,VISARGA
  SHAN:SAW,TONE-2,TONE-3,TONE-5,TONE-6
   COUNCIL:EMPHATIC TONE,TONE-2,TONE-3
  WESTERN PWO KAREN:TONE-1,TONE-2,TONE-3,TONE-4,TONE-5
 SYMBOL:AFOREMENTIONED,COMPLETED,GENITIVE,LOCATIVE,SHAN EXCLAMATION,SHAN ONE
  AITON:EXCLAMATION,ONE,TWO
 TAI LAING DIGIT:EIGHT,FIVE,FOUR,NINE,ONE,SEVEN,SIX,THREE,TWO,ZERO
 VOWEL SIGN:AA,AI,AITON A,AITON AI,E,E ABOVE,GEBA KAREN I,I,II,MON II,MON O,SGAW KAREN EU,TALL AA,U,
UU,WESTERN PWO KAREN EU,WESTERN PWO KAREN UE
  KAYAH:EE,OE,U
  SHAN:AA,E,E ABOVE,FINAL Y
  VOCALIC:L,LL,R,RR
N-ARY:COPRODUCT,INTERSECTION,LOGICAL AND,LOGICAL OR,PRODUCT,SQUARE INTERSECTION OPERATOR,
SQUARE UNION OPERATOR,SUMMATION,TIMES OPERATOR,UNION,UNION OPERATOR WITH DOT,
UNION OPERATOR WITH PLUS,WHITE VERTICAL BAR
 CIRCLED:DOT OPERATOR,PLUS OPERATOR,TIMES OPERATOR
NABATAEAN:CRUCIFORM NUMBER FOUR
 LETTER:ALEPH,AYIN,BETH,DALETH,GIMEL,HE,HETH,KAPH,LAMEDH,MEM,NUN,PE,QOPH,RESH,SADHE,SAMEKH,SHIN,TAW,
TETH,WAW,YODH,ZAYIN
  FINAL:ALEPH,BETH,HE,KAPH,LAMEDH,MEM,NUN,SHIN,YODH
 NUMBER:FIVE,FOUR,ONE,ONE HUNDRED,TEN,THREE,TWENTY,TWO
NANDINAGARI:HEADSTROKE
 LETTER:A,AA,AI,AU,BA,BHA,CA,CHA,DA,DDA,DDHA,DHA,E,GA,GHA,HA,I,II,JA,JHA,KA,KHA,LA,LLA,MA,NA,NGA,
NNA,NYA,O,PA,PHA,RA,RRA,SA,SHA,SSA,TA,THA,TTA,TTHA,U,UU,VA,VOCALIC R,VOCALIC RR,YA
 SIGN:ANUSVARA,AVAGRAHA,SIDDHAM,VIRAMA,VISARGA
 VOWEL SIGN:AA,AI,AU,E,I,II,O,PRISHTHAMATRA E,U,UU,VOCALIC R,VOCALIC RR
NEGATIVE:ACKNOWLEDGE
 CIRCLED:DIGIT ZERO,SQUARE,TRIANGLE
  LATIN CAPITAL LETTER:A,B,C,D,E,F,G,H,I,J,K,L,M,N,O,P,Q,R,S,T,U,V,W,X,Y,Z
  NUMBER:EIGHTEEN,ELEVEN,FIFTEEN,FOURTEEN,NINETEEN,SEVENTEEN,SIXTEEN,THIRTEEN,TWELVE,TWENTY
 DIAGONAL:CROSS,DIAMOND,MIDDLE RIGHT TO LOWER CENTRE
 SQUARED:AB,CROSS MARK,IC,PA,QUESTION MARK,SA,WC
  LATIN CAPITAL LETTER:A,B,C,D,E,F,G,H,I,J,K,L,M,N,O,P,Q,R,S,T,U,V,W,X,Y,Z
NEITHER:A SUBSET OF NOR EQUAL TO,A SUPERSET OF NOR EQUAL TO,APPROXIMATELY NOR ACTUALLY EQUAL TO
 GREATER-THAN NOR:EQUAL TO,EQUIVALENT TO,LESS-THAN
 LESS-THAN NOR:EQUAL TO,EQUIVALENT TO,GREATER-THAN
NEUTRAL:FACE
 CHESS:BISHOP,BISHOP ROTATED NINETY DEGREES,BISHOP ROTATED TWO HUNDRED SEVENTY DEGREES,EQUIHOPPER,
EQUIHOPPER ROTATED NINETY DEGREES,KING,KING ROTATED NINETY DEGREES,
KING ROTATED TWO HUNDRED SEVENTY DEGREES,KNIGHT,PAWN,PAWN ROTATED NINETY DEGREES,
PAWN ROTATED TWO HUNDRED SEVENTY DEGREES,QUEEN,QUEEN ROTATED NINETY DEGREES,
QUEEN ROTATED TWO HUNDRED SEVENTY DEGREES,ROOK,ROOK ROTATED NINETY DEGREES,
ROOK ROTATED TWO HUNDRED SEVENTY DEGREES
  KNIGHT ROTATED:FORTY-FIVE DEGREES,NINETY DEGREES,ONE HUNDRED THIRTY-FIVE DEGREES,
THREE HUNDRED FIFTEEN DEGREES,TWO HUNDRED SEVENTY DEGREES,TWO HUNDRED TWENTY-FIVE DEGREES
  TURNED:BISHOP,KING,KNIGHT,PAWN,QUEEN,ROOK
NEW:LINE,MOON SYMBOL,MOON WITH FACE,SHEQEL SIGN
 TAI LUE:SIGN LAE,SIGN LAEV,THAM DIGIT ONE,TONE MARK-1,TONE MARK-2
  DIGIT:EIGHT,FIVE,FOUR,NINE,ONE,SEVEN,SIX,THREE,TWO,ZERO
  LETTER:
   FINAL:B,D,K,M,N,NG,V
   HIGH:BA,DA,FA,HA,KA,KVA,LA,MA,NA,NGA,PA,PHA,QA,SA,SUA,TA,THA,TSA,VA,XA,XVA,YA
   LOW:BA,DA,FA,HA,KA,KVA,LA,MA,NA,NGA,PA,PHA,QA,SA,SUA,TA,THA,TSA,VA,XA,XVA,YA
  VOWEL SIGN:AA,AAY,AE,AY,E,II,IY,O,OA,OAY,OY,U,UE,UEY,UU,UY,VOWEL SHORTENER
NEWA:ABBREVIATION SIGN,COMMA,DANDA,DOUBLE COMMA,DOUBLE DANDA,GAP FILLER,INSERTION SIGN,OM,
PLACEHOLDER MARK,SANDHI MARK,SIDDHI
 DIGIT:EIGHT,FIVE,FOUR,NINE,ONE,SEVEN,SIX,THREE,TWO,ZERO
 LETTER:A,AA,AI,AU,BA,BHA,CA,CHA,DA,DDA,DDHA,DHA,E,GA,GHA,HA,I,II,JA,JHA,KA,KHA,LA,LHA,MA,MHA,NA,
NGA,NGHA,NHA,NNA,NYA,NYHA,O,PA,PHA,RA,RHA,SA,SHA,SSA,TA,THA,TTA,TTHA,U,UU,VEDIC ANUSVARA,WA,YA
  VOCALIC:L,LL,R,RR
 SIGN:ANUSVARA,AVAGRAHA,CANDRABINDU,FINAL ANUSVARA,JIHVAMULIYA,NUKTA,UPADHMANIYA,VIRAMA,VISARGA
 VOWEL SIGN:AA,AI,AU,E,I,II,O,U,UU
  VOCALIC:L,LL,R,RR
NKO:COMMA,DANTAYALAN,DOROME SIGN,EXCLAMATION MARK,HIGH TONE APOSTROPHE,LAJANYALAN,
LOW TONE APOSTROPHE,SYMBOL GBAKURUNEN,SYMBOL OO DENNEN,TAMAN SIGN
 COMBINING:DOUBLE DOT ABOVE,NASALIZATION MARK
  LONG:DESCENDING TONE,HIGH TONE,LOW TONE,RISING TONE
  SHORT:HIGH TONE,LOW TONE,RISING TONE
 DIGIT:EIGHT,FIVE,FOUR,NINE,ONE,SEVEN,SIX,THREE,TWO,ZERO
 LETTER:A,BA,CHA,DA,DAGBASINNA,E,EE,FA,GBA,HA,I,JA,KA,LA,MA,N,NA,NA WOLOSO,NYA,NYA WOLOSO,O,OO,PA,
RA,RRA,SA,TA,U,WA,YA
  JONA:CHA,JA,RA
NO:BICYCLES,BREAK HERE,ENTRY,ENTRY SIGN,MOBILE PHONES,ONE UNDER EIGHTEEN SYMBOL,PEDESTRIANS,PIRACY,
SMOKING SYMBOL
NORTH:
 EAST:AND SOUTH WEST ARROW,ARROW,BLACK ARROW,DOUBLE ARROW,SANS-SERIF ARROW,TRIANGLE-HEADED ARROW,
TRIANGLE-HEADED ARROW TO BAR,WHITE ARROW
  ARROW:AND SOUTH EAST ARROW,CROSSING NORTH WEST ARROW,CROSSING SOUTH EAST ARROW,WITH HOOK
  POINTING:BUD,LEAF,VINE LEAF
 INDIC:PLACEHOLDER MARK,QUANTITY MARK,QUARTER MARK,RUPEE MARK
  FRACTION:THREE QUARTERS,THREE SIXTEENTHS
   ONE:EIGHTH,HALF,QUARTER,SIXTEENTH
 WEST:AND SOUTH EAST ARROW,ARROW,BLACK ARROW,DOUBLE ARROW,SANS-SERIF ARROW,TRIANGLE-HEADED ARROW,
TRIANGLE-HEADED ARROW TO BAR,WHITE ARROW
  ARROW:AND NORTH EAST ARROW,CROSSING NORTH EAST ARROW,TO CORNER,TO LONG BAR,WITH HOOK
  POINTING:BUD,LEAF,VINE LEAF
NOT:A SUBSET OF,A SUPERSET OF,ALMOST EQUAL TO,AN ELEMENT OF,ASYMPTOTICALLY EQUAL TO,CHECK MARK,
EQUAL TO,EQUIVALENT TO,GREATER-THAN,IDENTICAL TO,LESS-THAN,NORMAL SUBGROUP OF,
NORMAL SUBGROUP OF OR EQUAL TO,PARALLEL TO,SIGN,SQUARE IMAGE OF OR EQUAL TO,
SQUARE ORIGINAL OF OR EQUAL TO,TILDE,TRUE
NOTCHED:LEFT SEMICIRCLE WITH THREE DOTS,LOWER RIGHT-SHADOWED WHITE RIGHTWARDS ARROW,
RIGHT SEMICIRCLE WITH THREE DOTS,UPPER RIGHT-SHADOWED WHITE RIGHTWARDS ARROW
NUMBER:EIGHTEEN FULL STOP,ELEVEN FULL STOP,FIFTEEN FULL STOP,FOURTEEN FULL STOP,NINETEEN FULL STOP,
SEVENTEEN FULL STOP,SIGN,SIXTEEN FULL STOP,TEN FULL STOP,THIRTEEN FULL STOP,TWELVE FULL STOP,
TWENTY FULL STOP
NYIAKENG PUACHUE HMONG:CIRCLED CA,LOGOGRAM NYAJ,SYLLABLE LENGTHENER,TONE-B,TONE-D,TONE-G,TONE-J,
TONE-M,TONE-S,TONE-V
 DIGIT:EIGHT,FIVE,FOUR,NINE,ONE,SEVEN,SIX,THREE,TWO,ZERO
 LETTER:A,AA,CA,DA,DLA,E,EE,FA,GA,HA,HAH,I,KA,LA,MA,MLA,NA,NCA,NKA,NPA,NPLA,NQA,NRA,NTA,NTSA,NTXA,
NYA,O,OO,PA,PLA,QA,RA,RRA,SA,TA,TSA,TXA,U,VA,W,XA,XYA,YA,ZA
 SIGN:XW XW
  FOR:ANIMAL,INVERTEBRATE,LOCATION,PERSON,THING
OBLIQUE:ANGLE OPENING DOWN,ANGLE OPENING UP,HYPHEN
OCR:AMOUNT OF CHECK,BELT BUCKLE,BOW TIE,BRANCH BANK IDENTIFICATION,CHAIR,CUSTOMER ACCOUNT NUMBER,
DASH,DOUBLE BACKSLASH,FORK,HOOK,INVERTED FORK
OGHAM:FEATHER MARK,REVERSED FEATHER MARK,SPACE MARK
 LETTER:AILM,BEITH,CEIRT,COLL,DAIR,EABHADH,EADHADH,EAMHANCHOLL,FEARN,GORT,IFIN,IODHADH,LUIS,MUIN,
NGEADAL,NION,ONN,OR,PEITH,RUIS,SAIL,STRAIF,TINNE,UATH,UILLEANN,UR
OL CHIKI:AHAD,GAAHLAA TTUDDAAG,MU TTUDDAG,MU-GAAHLAA TTUDDAAG,PHAARKAA,PUNCTUATION DOUBLE MUCAAD,
PUNCTUATION MUCAAD,RELAA
 DIGIT:EIGHT,FIVE,FOUR,NINE,ONE,SEVEN,SIX,THREE,TWO,ZERO
 LETTER:AAJ,AAK,AAM,AAW,AG,AL,ANG,AT,EDD,EN,EP,ERR,IH,INY,IR,IS,LA,LAA,LE,LI,LO,LU,OB,OH,OTT,OV,UC,
UD,UNN,UY
OLD:CHINESE HOOK MARK,CHINESE ITERATION MARK,KEY,PERSONAL COMPUTER
 HUNGARIAN:
  CAPITAL LETTER:A,AA,AK,AMB,AND,CLOSE E,E,EB,EC,ECH,ECS,ED,EE,EF,EG,EGY,EH,EJ,EK,EL,ELY,EM,EMP,EN,
ENC,ENT,ENT-SHAPED SIGN,ENY,EP,ER,ES,ESZ,ET,ETY,EV,EZ,EZS,I,II,NIKOLSBURG OE,NIKOLSBURG UE,O,OEE,OO,
RUDIMENTA OE,RUDIMENTA UE,SHORT ER,U,UNK,US,UU
  NUMBER:FIFTY,FIVE,ONE,ONE HUNDRED,ONE THOUSAND,TEN
  SMALL LETTER:A,AA,AK,AMB,AND,CLOSE E,E,EB,EC,ECH,ECS,ED,EE,EF,EG,EGY,EH,EJ,EK,EL,ELY,EM,EMP,EN,
ENC,ENT,ENT-SHAPED SIGN,ENY,EP,ER,ES,ESZ,ET,ETY,EV,EZ,EZS,I,II,NIKOLSBURG OE,NIKOLSBURG UE,O,OEE,OO,
RUDIMENTA OE,RUDIMENTA UE,SHORT ER,U,UNK,US,UU
 ITALIC:
  LETTER:A,BE,CHE,DE,E,EF,EKS,EL,EM,EN,ER,ERS,ES,ESH,ESS,HE,I,II,KA,KE,KHE,KU,NORTHERN TSE,O,PE,PHE,
SHE,SOUTHERN TSE,TE,THE,U,UU,VE,YE,ZE
  NUMERAL:FIFTY,FIVE,ONE,TEN
 NORTH ARABIAN:
  LETTER:AIN,ALEF,BEH,DAD,DAL,ES-1,ES-2,ES-3,FEH,GEEM,GHAIN,HAH,HEH,KAF,KHAH,LAM,MEEM,NOON,QAF,REH,
SAD,TAH,TEH,THAL,THEH,WAW,YEH,ZAH,ZAIN
  NUMBER:ONE,TEN,TWENTY
 PERMIC LETTER:AN,BUR,CHERY,DOI,DZHOI,DZITA,E,EF,GAI,HA,I,IA,IE,KOKE,LEI,MENOE,NENOE,O,OO,PEEI,REI,
SHCHOOI,SHOOI,SII,TAI,TSIU,U,VER,VOOI,YA,YAT,YER,YERI,YERU,YRY,YU,ZATA,ZHOI
 PERSIAN:WORD DIVIDER
  NUMBER:HUNDRED,ONE,TEN,TWENTY,TWO
  SIGN:A,AURAMAZDAA,AURAMAZDAA-2,AURAMAZDAAHA,BA,BAGA,BUUMISH,CA,DA,DAHYAAUSH,DAHYAAUSH-2,DI,DU,FA,
GA,GU,HA,I,JA,JI,KA,KU,LA,MA,MI,MU,NA,NU,PA,RA,RU,SA,SHA,SSA,TA,THA,TU,U,VA,VI,XA,XSHAAYATHIYA,YA,
ZA
 SOGDIAN:FRACTION ONE HALF,LIGATURE AYIN-DALETH
  LETTER:ALEPH,ALTERNATE AYIN,AYIN,BETH,GIMEL,HE,HETH,KAPH,LAMEDH,MEM,NUN,PE,RESH-AYIN-DALETH,SADHE,
SAMEKH,SHIN,TAW,WAW,YODH,ZAYIN
   FINAL:ALEPH,BETH,HE,NUN,NUN WITH VERTICAL TAIL,SADHE,SADHE WITH VERTICAL TAIL,TAW,
TAW WITH VERTICAL TAIL
  NUMBER:FIVE,FOUR,ONE,ONE HUNDRED,TEN,THIRTY,THREE,TWENTY,TWO
 SOUTH ARABIAN:NUMBER FIFTY,NUMBER ONE,NUMERIC INDICATOR
  LETTER:ALEF,AYN,BETH,DALETH,DHADHE,DHALETH,FE,GHAYN,GIMEL,HE,HETH,KAPH,KHETH,LAMEDH,MEM,NUN,QOPH,
RESH,SADHE,SAMEKH,SAT,SHIN,TAW,TETH,THAW,THETH,WAW,YODH,ZAYN
 TURKIC LETTER:
  ORKHON:A,AB,AD,AEB,AED,AEG,AEK,AEL,AEN,AER,AES,AET,AEY,AG,AL,AN,AQ,AR,AS,ASH,AT,AY,BASH,EC,ELT,EM,
ENC,ENG,ENT,ENY,EP,ESH,EZ,I,IC,IQ,O,OE,OEK,OP,OQ,OT
  YENISEI:A,AB,AD,AE,AEB,AEG,AEK,AEN,AENG,AET,AEY,AG,AL,ANG,AQ,AR,ASH,AT,AY,E,EC,ENC,ENT,ENY,ESH,EZ,
I,IQ,OE,OEK,OQ
 UYGHUR:
  COMBINING:DOT ABOVE,DOT BELOW,TWO DOTS ABOVE,TWO DOTS BELOW
  LETTER:ALEPH,BETH,FINAL HETH,GIMEL-HETH,KAPH,LAMEDH,LESH,MEM,NUN,PE,RESH,SADHE,SAMEKH,SHIN,TAW,
WAW,YODH,ZAYIN
  PUNCTUATION:BAR,FOUR DOTS,TWO BARS,TWO DOTS
OLDER:ADULT,MAN,WOMAN
ONCOMING:AUTOMOBILE,BUS,FIRE ENGINE,POLICE CAR,TAXI
ONE:BUTTON MOUSE,DOT LEADER,DOT OVER TWO DOTS PUNCTUATION
OPEN:BOOK,BOX,FILE FOLDER,FOLDER,HANDS SIGN,LOCK,MAILBOX WITH LOWERED FLAG,MAILBOX WITH RAISED FLAG,
SUBSET,SUPERSET
 CENTRE:ASTERISK,BLACK STAR,CROSS,TEARDROP-SPOKED ASTERISK
ORIYA:AI LENGTH MARK,AU LENGTH MARK,ISSHAR
 DIGIT:EIGHT,FIVE,FOUR,NINE,ONE,SEVEN,SIX,THREE,TWO,ZERO
 FRACTION:THREE QUARTERS,THREE SIXTEENTHS
  ONE:EIGHTH,HALF,QUARTER,SIXTEENTH
 LETTER:A,AA,AI,AU,BA,BHA,CA,CHA,DA,DDA,DDHA,DHA,E,GA,GHA,HA,I,II,JA,JHA,KA,KHA,LA,LLA,MA,NA,NGA,
NNA,NYA,O,PA,PHA,RA,RHA,RRA,SA,SHA,SSA,TA,THA,TTA,TTHA,U,UU,VA,WA,YA,YYA
  VOCALIC:L,LL,R,RR
 SIGN:ANUSVARA,AVAGRAHA,CANDRABINDU,NUKTA,OVERLINE,VIRAMA,VISARGA
 VOWEL SIGN:AA,AI,AU,E,I,II,O,U,UU
  VOCALIC:L,LL,R,RR
OSAGE:
 CAPITAL LETTER:A,AH,AI,AIN,BRA,CHA,DHA,E,EHCHA,EHKA,EHPA,EHTA,EHTSA,EIN,GHA,HA,HYA,I,KA,KHA,KYA,LA,
MA,NA,O,OIN,PA,SA,SHA,TA,TSA,TSHA,U,WA,ZA,ZHA
 SMALL LETTER:A,AH,AI,AIN,BRA,CHA,DHA,E,EHCHA,EHKA,EHPA,EHTA,EHTSA,EIN,GHA,HA,HYA,I,KA,KHA,KYA,LA,
MA,NA,O,OIN,PA,SA,SHA,TA,TSA,TSHA,U,WA,ZA,ZHA
OSMANYA:
 DIGIT:EIGHT,FIVE,FOUR,NINE,ONE,SEVEN,SIX,THREE,TWO,ZERO
 LETTER:A,AA,ALEF,BA,CAYN,DEEL,DHA,E,EE,FA,GA,HA,I,JA,KAAF,KHA,LAAN,MIIN,NUUN,O,OO,QAAF,RA,SA,SHIIN,
TA,U,WAW,XA,YA
OTTOMAN SIYAQ:FRACTION ONE HALF,FRACTION ONE SIXTH,MARRATAN
 ALTERNATE NUMBER:EIGHT,FIVE,FOUR,FOUR HUNDRED,NINE,SEVEN,SIX,SIX HUNDRED,TEN,TEN THOUSAND,THREE,
TWO,TWO THOUSAND
 NUMBER:EIGHT,EIGHT HUNDRED,EIGHT THOUSAND,EIGHTY,EIGHTY THOUSAND,FIFTY,FIFTY THOUSAND,FIVE,
FIVE HUNDRED,FIVE THOUSAND,FORTY,FORTY THOUSAND,FOUR,FOUR HUNDRED,FOUR THOUSAND,NINE,NINE HUNDRED,
NINE THOUSAND,NINETY,NINETY THOUSAND,ONE,ONE HUNDRED,ONE THOUSAND,SEVEN,SEVEN HUNDRED,
SEVEN THOUSAND,SEVENTY,SEVENTY THOUSAND,SIX,SIX HUNDRED,SIX THOUSAND,SIXTY,SIXTY THOUSAND,TEN,
TEN THOUSAND,THIRTY,THIRTY THOUSAND,THREE,THREE HUNDRED,THREE THOUSAND,TWENTY,TWENTY THOUSAND,TWO,
TWO HUNDRED,TWO THOUSAND
OUTLINED:BLACK STAR,GREEK CROSS,LATIN CROSS,WHITE STAR
OVERLAPPING:BLACK SQUARES,WHITE AND BLACK SQUARES,WHITE SQUARES
PAGE:FACING UP,WITH CIRCLED TEXT,WITH CURL
PAHAWH HMONG:
 CLAN SIGN:FAJ,HAM,HAWJ,KHAB,KOO,KWM,LAUJ,LIS,MUAS,PHAB,THOJ,TSAB,TSHEEJ,TSWB,VAJ,VWJ,XYOOJ,YAJ,
YEEG
 CONSONANT:AU,CAU,CHAU,HAU,HLAU,HNAU,LAU,MAU,NAU,NCHAU,NKAU,NLAU,NTHAU,NTSAU,PLHAU,QHAU,RAU,VAU,XAU,
YAU
 DIGIT:EIGHT,FIVE,FOUR,NINE,ONE,SEVEN,SIX,THREE,TWO,ZERO
 MARK CIM:HOM,KES,KHAV,SO,SUAM,TAUM,TUB
 NUMBER:HUNDRED MILLIONS,HUNDREDS,MILLIONS,TEN BILLIONS,TEN THOUSANDS,TENS,TRILLIONS
 SIGN:AV,HLI,HNUB,IB YAM,LOS,MEEJ SUAB,MEEJ TSEEB,MUS,NQIG,NTUJ,TAU,THIRD-STAGE HLI,TXHEEJ CEEV,
XAUS,XIAB,XYOO,ZWJ THAJ
  CIM:CHEEM,CUAM TSHOOJ,HAIS LUS NTOG NTOG,NRES TOS,PUB DAWB,TSOV ROG,TXWV,TXWV CHWV
  VOS:FEEM,LUB,NRUA,SEEV,THIAB,THOM,TSHAB CEEB
  XYEEM:FAIB,NTXIV,RHO,TOV
 VOWEL:KAAB,KAAV,KAB,KAIB,KAIV,KAUB,KAUV,KAV,KAWB,KAWV,KEB,KEEB,KEEV,KEV,KIAB,KIAV,KIB,KIV,KOB,KOOB,
KOOV,KOV,KUAB,KUAV,KUB,KUV,KWB,KWV
PALM:BRANCH,DOWN HAND,TREE,UP HAND
PALMYRENE:LEFT-POINTING FLEURON,RIGHT-POINTING FLEURON
 LETTER:ALEPH,AYIN,BETH,DALETH,FINAL NUN,GIMEL,HE,HETH,KAPH,LAMEDH,MEM,NUN,PE,QOPH,RESH,SADHE,
SAMEKH,SHIN,TAW,TETH,WAW,YODH,ZAYIN
 NUMBER:FIVE,FOUR,ONE,TEN,THREE,TWENTY,TWO
PARALLEL:TO,WITH HORIZONTAL STROKE,WITH TILDE OPERATOR
PARENTHESIZED:KOREAN CHARACTER O HU,KOREAN CHARACTER OJEON
 DIGIT:EIGHT,FIVE,FOUR,NINE,ONE,SEVEN,SIX,THREE,TWO
 HANGUL:CHIEUCH,CHIEUCH A,CIEUC,CIEUC A,CIEUC U,HIEUH,HIEUH A,IEUNG,IEUNG A,KHIEUKH,KHIEUKH A,
KIYEOK,KIYEOK A,MIEUM,MIEUM A,NIEUN,NIEUN A,PHIEUPH,PHIEUPH A,PIEUP,PIEUP A,RIEUL,RIEUL A,SIOS,
SIOS A,THIEUTH,THIEUTH A,TIKEUT,TIKEUT A
 IDEOGRAPH:ALLIANCE,CALL,CONGRATULATION,EARTH,EIGHT,ENTERPRISE,FESTIVAL,FINANCIAL,FIRE,FIVE,FOUR,
HAVE,LABOR,METAL,MOON,NAME,NINE,ONE,REACH,REPRESENT,RESOURCE,REST,SELF,SEVEN,SIX,SOCIETY,SPECIAL,
STOCK,STUDY,SUN,SUPERVISE,TEN,THREE,TWO,WATER,WOOD
 LATIN:
  CAPITAL LETTER:A,B,C,D,E,F,G,H,I,J,K,L,M,N,O,P,Q,R,S,T,U,V,W,X,Y,Z
  SMALL LETTER:A,B,C,D,E,F,G,H,I,J,K,L,M,N,O,P,Q,R,S,T,U,V,W,X,Y,Z
 NUMBER:EIGHTEEN,ELEVEN,FIFTEEN,FOURTEEN,NINETEEN,SEVENTEEN,SIXTEEN,TEN,THIRTEEN,TWELVE,TWENTY
PARTIAL:DIFFERENTIAL
 LINE:BACKWARD,DOWN,FORWARD,UP
PAU CIN HAU:GLOTTAL STOP,GLOTTAL STOP FINAL,GLOTTAL STOP VARIANT,LOW-FALLING TONE,MID-LEVEL TONE,
MID-LEVEL TONE FINAL,MID-LEVEL TONE LONG FINAL,RISING TONE
 LETTER:A,BA,CA,CHA,DA,E,FA,GA,HA,I,IA,KA,KHA,LA,MA,NA,NGA,O,PA,PHA,RA,SA,TA,THA,U,UA,VA,ZA
  FINAL:K,L,M,N,NG,P,T,W,Y
 LOW-FALLING TONE:FINAL,LONG,LONG FINAL
 RISING TONE:FINAL,LONG,LONG FINAL
 SANDHI:GLOTTAL STOP,GLOTTAL STOP FINAL,TONE
  TONE:FINAL,LONG,LONG FINAL
PER:MILLE SIGN,SIGN,TEN THOUSAND SIGN
PERSON:BOWING DEEPLY,CLIMBING,DOING CARTWHEEL,FROWNING,IN LOTUS POSITION,IN STEAMY ROOM,
RAISING BOTH HANDS IN CELEBRATION
 WITH:BALL,BLOND HAIR,CROWN,FOLDED HANDS,HEADSCARF,POUTING FACE
PHAGS-PA:DOUBLE HEAD MARK,MARK DOUBLE SHAD,MARK SHAD,SINGLE HEAD MARK,SUPERFIXED LETTER RA
 LETTER:A,ALTERNATE YA,ASPIRATED FA,BA,CA,CANDRABINDU,CHA,DA,DDA,DZA,E,EE,FA,GA,GGA,HA,I,JA,KA,KHA,
LA,MA,NA,NGA,NNA,NYA,O,PA,PHA,QA,RA,SA,SHA,SMALL A,TA,THA,TSA,TSHA,TTA,TTHA,U,VOICED HA,
VOICELESS SHA,WA,XA,YA,ZA,ZHA
 SUBJOINED LETTER:RA,WA,YA
PHAISTOS DISC SIGN:ARROW,BEE,BEEHIVE,BOOMERANG,BOW,BULLS LEG,CAPTIVE,CARPENTRY PLANE,CAT,CHILD,CLUB,
COLUMN,COMB,COMBINING OBLIQUE STROKE,DOLIUM,DOVE,EAGLE,FLUTE,GAUNTLET,GRATER,HELMET,HIDE,HORN,LID,
LILY,MANACLES,MATTOCK,OX BACK,PAPYRUS,PEDESTRIAN,PLANE TREE,PLUMED HEAD,RAM,ROSETTE,SAW,SHIELD,SHIP,
SLING,SMALL AXE,STRAINER,TATTOOED HEAD,TIARA,TUNNY,VINE,WAVY BAND,WOMAN
PHOENICIAN:WORD SEPARATOR
 LETTER:AIN,ALF,BET,DELT,GAML,HE,HET,KAF,LAMD,MEM,NUN,PE,QOF,ROSH,SADE,SEMK,SHIN,TAU,TET,WAU,YOD,
ZAI
 NUMBER:ONE,ONE HUNDRED,TEN,THREE,TWENTY,TWO
PLAYING CARD:BACK,BLACK JOKER,FOOL,RED JOKER,TRUMP-1,TRUMP-10,TRUMP-11,TRUMP-12,TRUMP-13,TRUMP-14,
TRUMP-15,TRUMP-16,TRUMP-17,TRUMP-18,TRUMP-19,TRUMP-2,TRUMP-20,TRUMP-21,TRUMP-3,TRUMP-4,TRUMP-5,
TRUMP-6,TRUMP-7,TRUMP-8,TRUMP-9,WHITE JOKER
 ACE OF:CLUBS,DIAMONDS,HEARTS,SPADES
 EIGHT OF:CLUBS,DIAMONDS,HEARTS,SPADES
 FIVE OF:CLUBS,DIAMONDS,HEARTS,SPADES
 FOUR OF:CLUBS,DIAMONDS,HEARTS,SPADES
 JACK OF:CLUBS,DIAMONDS,HEARTS,SPADES
 KING OF:CLUBS,DIAMONDS,HEARTS,SPADES
 KNIGHT OF:CLUBS,DIAMONDS,HEARTS,SPADES
 NINE OF:CLUBS,DIAMONDS,HEARTS,SPADES
 QUEEN OF:CLUBS,DIAMONDS,HEARTS,SPADES
 SEVEN OF:CLUBS,DIAMONDS,HEARTS,SPADES
 SIX OF:CLUBS,DIAMONDS,HEARTS,SPADES
 TEN OF:CLUBS,DIAMONDS,HEARTS,SPADES
 THREE OF:CLUBS,DIAMONDS,HEARTS,SPADES
 TWO OF:CLUBS,DIAMONDS,HEARTS,SPADES
PLUS SIGN:ABOVE EQUALS SIGN
 IN:LEFT HALF CIRCLE,RIGHT HALF CIRCLE,TRIANGLE
 WITH:BLACK TRIANGLE,CIRCUMFLEX ACCENT ABOVE,DOT BELOW,SMALL CIRCLE ABOVE,SUBSCRIPT TWO,TILDE ABOVE,
TILDE BELOW
PLUTO FORM:FIVE,FOUR,THREE,TWO
POLICE:CAR,CARS REVOLVING LIGHT,OFFICER
POSTAL:HORN,MARK,MARK FACE
POWER:ON SYMBOL,ON-OFF SYMBOL,SLEEP SYMBOL,SYMBOL
PRECEDES:BUT NOT EQUIVALENT TO,OR EQUAL TO,OR EQUIVALENT TO,UNDER RELATION
 ABOVE:ALMOST EQUAL TO,EQUALS SIGN,NOT ALMOST EQUAL TO,NOT EQUAL TO,SINGLE-LINE EQUALS SIGN,
SINGLE-LINE NOT EQUAL TO
PREGNANT:MAN,PERSON,WOMAN
PRESENTATION FORM FOR VERTICAL:COLON,COMMA,EM DASH,EN DASH,EXCLAMATION MARK,HORIZONTAL ELLIPSIS,
IDEOGRAPHIC COMMA,IDEOGRAPHIC FULL STOP,LOW LINE,QUESTION MARK,SEMICOLON,TWO DOT LEADER,
WAVY LOW LINE
 LEFT:ANGLE BRACKET,BLACK LENTICULAR BRACKET,CORNER BRACKET,CURLY BRACKET,DOUBLE ANGLE BRACKET,
PARENTHESIS,SQUARE BRACKET,TORTOISE SHELL BRACKET,WHITE CORNER BRACKET,WHITE LENTICULAR BRACKET
 RIGHT:ANGLE BRACKET,BLACK LENTICULAR BRACKET,CORNER BRACKET,CURLY BRACKET,DOUBLE ANGLE BRACKET,
PARENTHESIS,SQUARE BRACKET,TORTOISE SHELL BRACKET
  WHITE:CORNER BRACKET,LENTICULAR BRACKET,LENTICULAR BRAKCET
PRIVATE:USE ONE,USE TWO,USE-1,USE-2
PSALTER PAHLAVI:FOUR DOTS WITH CROSS,FOUR DOTS WITH DOT,SECTION MARK,TURNED SECTION MARK
 LETTER:ALEPH,BETH,DALETH,GIMEL,HE,HETH,KAPH,LAMEDH,MEM-QOPH,NUN,PE,SADHE,SAMEKH,SHIN,TAW,
WAW-AYIN-RESH,YODH,ZAYIN
 NUMBER:FOUR,ONE,ONE HUNDRED,TEN,THREE,TWENTY,TWO
QUADRANT:LOWER LEFT,LOWER RIGHT
 UPPER:LEFT,RIGHT,RIGHT AND LOWER LEFT,RIGHT AND LOWER LEFT AND LOWER RIGHT
  LEFT AND:LOWER LEFT AND LOWER RIGHT,LOWER RIGHT,UPPER RIGHT AND LOWER LEFT,
UPPER RIGHT AND LOWER RIGHT
RAISED:BACK OF HAND,COMMA,DOT,DOTTED INTERPOLATION MARKER,FIST,HAND,HAND WITH FINGERS SPLAYED,
HAND WITH PART BETWEEN MIDDLE AND RING FINGERS,INTERPOLATION MARKER,MC SIGN,MD SIGN,MR SIGN,SQUARE
RECYCLING SYMBOL FOR:GENERIC MATERIALS,TYPE-1 PLASTICS,TYPE-2 PLASTICS,TYPE-3 PLASTICS,
TYPE-4 PLASTICS,TYPE-5 PLASTICS,TYPE-6 PLASTICS,TYPE-7 PLASTICS
REGIONAL INDICATOR SYMBOL LETTER:A,B,C,D,E,F,G,H,I,J,K,L,M,N,O,P,Q,R,S,T,U,V,W,X,Y,Z
REJANG:SECTION MARK,VIRAMA
 CONSONANT SIGN:H,N,NG,R
 LETTER:A,BA,CA,DA,GA,HA,JA,KA,LA,MA,MBA,NA,NDA,NGA,NGGA,NYA,NYJA,PA,RA,SA,TA,WA,YA
 VOWEL SIGN:AI,AU,E,EA,EU,I,O,U
RETURN:LEFT,RIGHT,SYMBOL
REVERSE:CHECKER BOARD,INDEX,LIGHT FOUR POINTED PINWHEEL STAR,LINE FEED,SOLIDUS,
TILDE OPERATOR ABOVE LEFTWARDS ARROW,TILDE OPERATOR ABOVE RIGHTWARDS ARROW
 SOLIDUS:OPERATOR,PRECEDING SUBSET,WITH HORIZONTAL STROKE
REVERSED:ANGLE,ANGLE WITH UNDERBAR,COMMA,EMPTY SET,FORKED PARAGRAPHOS,
HAND WITH MIDDLE FINGER EXTENDED,NOT SIGN,PILCROW SIGN,PRIME,QUESTION MARK,
RAISED HAND WITH FINGERS SPLAYED,RIGHT ANGLE,ROTATED FLORAL HEART BULLET,SANS-SERIF CAPITAL L,
SEMICOLON,THUMBS DOWN SIGN,THUMBS UP SIGN,TILDE,TILDE EQUALS,TRIPLE PRIME,VICTORY HAND
 DOUBLE:PRIME,PRIME QUOTATION MARK,STROKE NOT SIGN
RIBBON ARROW:DOWN LEFT,DOWN RIGHT,LEFT DOWN,LEFT UP,RIGHT DOWN,RIGHT UP,UP LEFT,UP RIGHT
RIGHT:AND LOWER ONE EIGHTH BLOCK,AND UPPER ONE EIGHTH BLOCK,ANGER BUBBLE,ANGLE,
ARC GREATER-THAN BRACKET,ARROW WITH CIRCLED PLUS,ARROW WITH SMALL CIRCLE,BLACK LENTICULAR BRACKET,
BLACK TORTOISE SHELL BRACKET,CEILING,CORNER BRACKET,CURLY BRACKET,DOTTED SUBSTITUTION BRACKET,
FISH TAIL,FIVE EIGHTHS BLOCK,FLOOR,HAND TELEPHONE RECEIVER,LOW PARAPHRASE BRACKET,
NORMAL FACTOR SEMIDIRECT PRODUCT,ONE EIGHTH BLOCK,ONE QUARTER BLOCK,OPEN SQUARED DOT,OUTER JOIN,
PARENTHESIS,RAISED OMISSION BRACKET,S-SHAPED BAG DELIMITER,SEMIDIRECT PRODUCT,SEVEN EIGHTHS BLOCK,
SIDEWAYS U BRACKET,SINGLE QUOTATION MARK,SPEAKER,SPEAKER WITH ONE SOUND WAVE,
SPEAKER WITH THREE SOUND WAVES,SPEECH BUBBLE,SQUARE BRACKET,SUBSTITUTION BRACKET,TACK,
THIRD WHITE RIGHT POINTING INDEX,THOUGHT BUBBLE,THREE EIGHTHS BLOCK,THREE QUARTERS BLOCK,
TORTOISE SHELL BRACKET,TRANSPOSITION BRACKET,TRIANGLE,TRIANGLE ABOVE LEFT TRIANGLE,
TRIANGULAR ONE QUARTER BLOCK,VERTICAL BAR WITH QUILL,VERTICAL BOX LINE,WIGGLY FENCE
 ANGLE:BRACKET,BRACKET WITH DOT,DOTTED SUBSTITUTION MARKER,SUBSTITUTION MARKER,VARIANT WITH SQUARE,
WITH ARC,WITH DOWNWARDS ZIGZAG ARROW
 CURLY BRACKET:LOWER HOOK,MIDDLE PIECE,UPPER HOOK
 DOUBLE:ANGLE BRACKET,ARROW WITH ROUNDED HEAD,PARENTHESIS,QUOTATION MARK,WIGGLY FENCE
 HALF:BLACK CIRCLE,BLACK STAR,BLOCK,FOLDER,MEDIUM SHADE,RUNNING MAN
 PARENTHESIS:EXTENSION,LOWER HOOK,UPPER HOOK
 SQUARE BRACKET:EXTENSION,LOWER CORNER,UPPER CORNER
  WITH:DOUBLE STROKE,QUILL,STROKE,TICK IN BOTTOM CORNER,TICK IN TOP CORNER,UNDERBAR
 WHITE:CORNER BRACKET,CURLY BRACKET,LENTICULAR BRACKET,PARENTHESIS,SQUARE BRACKET,
TORTOISE SHELL BRACKET
RIGHT-FACING:ARMENIAN ETERNITY SIGN,FIST,SVASTI SIGN,SVASTI SIGN WITH DOTS
RIGHT-POINTING:ANGLE BRACKET,CURVED ANGLE BRACKET,DOUBLE ANGLE QUOTATION MARK,MAGNIFYING GLASS
RIGHT-TO-LEFT:EMBEDDING,ISOLATE,MARK,OVERRIDE
RIGHTWARDS:ARROW,ARROW-TAIL,BACK-TILTED SHADOWED WHITE ARROW,BLACK ARROW,BLACK CIRCLED WHITE ARROW,
BOTTOM SHADED WHITE ARROW,COMPRESSED ARROW,DASHED ARROW,FINGER-POST ARROW,
FRONT-TILTED SHADOWED WHITE ARROW,HAND,HEAVY ARROW,HEAVY COMPRESSED ARROW,LEFT-SHADED WHITE ARROW,
OPEN-HEADED ARROW,PAIRED ARROWS,QUADRUPLE ARROW,RIGHT-SHADED WHITE ARROW,ROCKET,SANS-SERIF ARROW,
SQUARED ARROW,SQUIGGLE ARROW,TOP SHADED WHITE ARROW,TRIANGLE ARROWHEAD,TRIPLE ARROW,
TRIPLE DASH ARROW,TWO HEADED ARROW,WAVE ARROW,WHITE ARROW,WHITE ARROW FROM WALL,
WHITE ARROW WITHIN TRIANGLE ARROWHEAD
 ARROW:AND UPPER AND LOWER ONE EIGHTH BLOCK,FROM BAR,FROM BAR TO BLACK DIAMOND,OVER LEFTWARDS ARROW,
TO BAR,TO BLACK DIAMOND
  ABOVE:ALMOST EQUAL TO,REVERSE ALMOST EQUAL TO,REVERSE TILDE OPERATOR,SHORT LEFTWARDS ARROW,
TILDE OPERATOR
  THROUGH:GREATER-THAN,SUPERSET,X
  WITH:CORNER DOWNWARDS,DOTTED STEM,DOUBLE VERTICAL STROKE,EQUILATERAL ARROWHEAD,HOOK,
LARGE TRIANGLE ARROWHEAD,LOOP,MEDIUM TRIANGLE ARROWHEAD,NOTCHED TAIL,PLUS BELOW,
SMALL EQUILATERAL ARROWHEAD,SMALL TRIANGLE ARROWHEAD,STROKE,TAIL,TAIL WITH DOUBLE VERTICAL STROKE,
TAIL WITH VERTICAL STROKE,TIP DOWNWARDS,TIP UPWARDS,VERTICAL STROKE
 DOUBLE:ARROW,ARROW-TAIL,DASH ARROW
  ARROW:FROM BAR,WITH STROKE,WITH VERTICAL STROKE
 HARPOON:OVER LEFTWARDS HARPOON
  WITH BARB:DOWNWARDS,UPWARDS
   DOWN:ABOVE LEFTWARDS HARPOON WITH BARB DOWN,BELOW LONG DASH,FROM BAR,TO BAR
   UP:FROM BAR,TO BAR
    ABOVE:LEFTWARDS HARPOON WITH BARB UP,LONG DASH,RIGHTWARDS HARPOON WITH BARB DOWN
 TRIANGLE-HEADED:ARROW,DASHED ARROW,PAIRED ARROWS
  ARROW:OVER LEFTWARDS TRIANGLE-HEADED ARROW,TO BAR
   WITH:BOLD SHAFT,DOUBLE HORIZONTAL STROKE,DOUBLE VERTICAL STROKE,HEAVY SHAFT,LONG TIP DOWNWARDS,
LONG TIP UPWARDS,MEDIUM SHAFT,NARROW SHAFT,VERY HEAVY SHAFT
 TWO-HEADED:TRIPLE DASH ARROW
  ARROW:FROM BAR
   WITH:DOUBLE VERTICAL STROKE,TAIL,TAIL WITH DOUBLE VERTICAL STROKE,TAIL WITH VERTICAL STROKE,
TRIANGLE ARROWHEADS,VERTICAL STROKE
RING:ABOVE,BUOY,EQUAL TO,IN EQUAL TO,OPERATOR,POINT
ROMAN:AS SIGN,CENTURIAL SIGN,DENARIUS SIGN,DIMIDIA SEXTULA SIGN,DUPONDIUS SIGN,QUINARIUS SIGN,
SEMUNCIA SIGN,SESTERTIUS SIGN,SEXTANS SIGN,SEXTULA SIGN,SILIQUA SIGN,UNCIA SIGN
 NUMERAL:EIGHT,ELEVEN,FIFTY,FIFTY EARLY FORM,FIFTY THOUSAND,FIVE,FIVE HUNDRED,FIVE THOUSAND,FOUR,
NINE,ONE,REVERSED ONE HUNDRED,SEVEN,SIX,SIX LATE FORM,TEN,TEN THOUSAND,THREE,TWELVE,TWO
  ONE:HUNDRED,HUNDRED THOUSAND,THOUSAND,THOUSAND C D
ROTATED:CAPITAL Q,FLORAL HEART BULLET,HEAVY BLACK HEART BULLET,LIGHT FOUR POINTED BLACK CUSP,
WHITE FOUR POINTED CUSP
ROUNDED SYMBOL FOR:CAI,FU,LU,SHOU,SHUANGXI,XI
RUMI:
 DIGIT:EIGHT,FIVE,FOUR,NINE,ONE,SEVEN,SIX,THREE,TWO
 FRACTION:TWO THIRDS
  ONE:HALF,QUARTER,THIRD
 NUMBER:EIGHT HUNDRED,EIGHTY,FIFTY,FIVE HUNDRED,FORTY,FOUR HUNDRED,NINE HUNDRED,NINETY,ONE HUNDRED,
SEVEN HUNDRED,SEVENTY,SIX HUNDRED,SIXTY,TEN,THIRTY,THREE HUNDRED,TWENTY,TWO HUNDRED
RUNIC:ARLAUG SYMBOL,BELGTHOR SYMBOL,CROSS PUNCTUATION,MULTIPLE PUNCTUATION,SINGLE PUNCTUATION,
TVIMADUR SYMBOL
 LETTER:AC A,AESC,ALGIZ EOLHX,ANSUZ A,BERKANAN BEORC BJARKAN B,C,CALC,CEALC,CEN,CWEORTH,D,
DAGAZ DAEG D,DOTTED-L,DOTTED-N,DOTTED-P,E,EAR,EHWAZ EH E,ENG,ETH,FEHU FEOH FE F,G,GAR,GEBO GYFU G,
GER,HAEGL H,HAGLAZ H,ICELANDIC-YR,ING,INGWAZ,IOR,ISAZ IS ISS I,IWAZ EOH,JERAN J,K,KAUN K,KAUNA,
LAUKAZ LAGU LOGR L,LONG-BRANCH-AR AE,LONG-BRANCH-HAGALL H,LONG-BRANCH-MADR M,LONG-BRANCH-OSS O,
LONG-BRANCH-YR,MANNAZ MAN M,NAUDIZ NYD NAUD N,O,OE,ON,OO,OPEN-P,OS O,OTHALAN ETHEL O,
PERTHO PEORTH P,Q,RAIDO RAD REID R,SH,SHORT-TWIG-AR A,SHORT-TWIG-BJARKAN B,SHORT-TWIG-HAGALL H,
SHORT-TWIG-MADR M,SHORT-TWIG-NAUD N,SHORT-TWIG-OSS O,SHORT-TWIG-SOL S,SHORT-TWIG-TYR T,
SHORT-TWIG-YR,SIGEL LONG-BRANCH-SOL S,SOWILO S,STAN,THURISAZ THURS THORN,TIWAZ TIR TYR T,URUZ UR U,
V,W,WUNJO WYNN W,X,Y,YR,Z
  FRANKS CASKET:AC,AESC,EH,IS,OS
RUSSIAN ASTROLOGICAL SYMBOL:BINOVILE,NOVILE,QUINTILE,SENTAGON,TREDECILE,VIGINTILE"

end ReviewDiff.Text
