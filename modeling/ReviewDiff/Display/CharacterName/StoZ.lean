/-!
# Names of characters, S to Z

The first words that several names share, a colon and how these names go on, with commas between
them. A line that is set in goes on from the one above it that is set in less.
-/

set_option autoImplicit false

namespace ReviewDiff.Text

def fifthNames : String :=
"SAMARITAN:ABBREVIATION MARK
 LETTER:ALAF,BAA,BIT,DALAT,FI,GAMAN,IN,IT,IY,KAAF,LABAT,MIM,NUN,QUF,RISH,SHAN,SINGAAT,TAAF,TIT,
TSAADIY,YUT,ZEN
 MARK:DAGESH,EPENTHETIC YUT,IN,IN-ALAF,NEQUDAA,OCCLUSION
 MODIFIER LETTER:EPENTHETIC YUT,I,SHORT A
 PUNCTUATION:AFSAAQ,ANGED,ANNAAU,ARKAANU,ATMAAU,BAU,MELODIC QITSA,NEQUDAA,QITSA,SHIYYAALAA,
SOF MASHFAAT,TURU,ZAEF,ZIQAA
 VOWEL SIGN:A,AA,E,I,O,OVERLONG A,OVERLONG AA,SHORT A,SUKUN,U
  LONG:A,AA,E,I,U
SANS-SERIF:INTERROBANG ORNAMENT
 HEAVY:DOUBLE COMMA QUOTATION MARK ORNAMENT,DOUBLE TURNED COMMA QUOTATION MARK ORNAMENT,
LOW DOUBLE COMMA QUOTATION MARK ORNAMENT
SAURASHTRA:CONSONANT SIGN HAARU,DANDA,DOUBLE DANDA
 DIGIT:EIGHT,FIVE,FOUR,NINE,ONE,SEVEN,SIX,THREE,TWO,ZERO
 LETTER:A,AA,AI,AU,BA,BHA,CA,CHA,DA,DDA,DDHA,DHA,E,EE,GA,GHA,HA,I,II,JA,JHA,KA,KHA,LA,LLA,MA,NA,NGA,
NNA,NYA,O,OO,PA,PHA,RA,SA,SHA,SSA,TA,THA,TTA,TTHA,U,UU,VA,YA
  VOCALIC:L,LL,R,RR
 SIGN:ANUSVARA,CANDRABINDU,VIRAMA,VISARGA
 VOWEL SIGN:AA,AI,AU,E,EE,I,II,O,OO,U,UU
  VOCALIC:L,LL,R,RR
SCRIPT:LIGATURE ET ORNAMENT
 CAPITAL:B,E,F,H,I,L,M,P,R
 SMALL:E,G,L,O
SEGMENTED DIGIT:EIGHT,FIVE,FOUR,NINE,ONE,SEVEN,SIX,THREE,TWO,ZERO
SHADOWED WHITE:CIRCLE,LATIN CROSS,STAR
SHARADA:ABBREVIATION SIGN,CONTINUATION SIGN,DANDA,DOUBLE DANDA,EKAM,EXTRA SHORT VOWEL MARK,
HEADSTROKE,OM,SANDHI MARK,SECTION MARK-1,SECTION MARK-2,SEPARATOR,SUTRA MARK
 DIGIT:EIGHT,FIVE,FOUR,NINE,ONE,SEVEN,SIX,THREE,TWO,ZERO
 LETTER:A,AA,AI,AU,BA,BHA,CA,CHA,DA,DDA,DDHA,DHA,E,GA,GHA,HA,I,II,JA,JHA,KA,KHA,LA,LLA,MA,NA,NGA,
NNA,NYA,O,PA,PHA,RA,SA,SHA,SSA,TA,THA,TTA,TTHA,U,UU,VA,YA
  VOCALIC:L,LL,R,RR
 SIGN:ANUSVARA,AVAGRAHA,CANDRABINDU,INVERTED CANDRABINDU,JIHVAMULIYA,NUKTA,SIDDHAM,UPADHMANIYA,
VIRAMA,VISARGA
 VOWEL:MODIFIER MARK
  SIGN:AA,AI,AU,E,I,II,O,PRISHTHAMATRA E,U,UU
   VOCALIC:L,LL,R,RR
SHAVIAN LETTER:ADO,AGE,AH,AIR,ARE,ARRAY,ASH,AWE,BIB,CHURCH,DEAD,EAR,EAT,EGG,ERR,FEE,GAG,HA-HA,HUNG,
IAN,ICE,IF,JUDGE,KICK,LOLL,MEASURE,MIME,NUN,OAK,OIL,ON,OOZE,OR,OUT,PEEP,ROAR,SO,SURE,THEY,THIGH,TOT,
UP,VOW,WOE,WOOL,YEA,YEW,ZOO
SHORT:BACKSLANTED SOUTH ARROW,BENT ARROW POINTING DOWNWARDS THEN NORTH EAST,DOWN TACK,
DOWN TACK WITH OVERBAR,LEFT TACK,RIGHTWARDS ARROW ABOVE LEFTWARDS ARROW,SLANTED NORTH ARROW,UP TACK,
UP TACK ABOVE SHORT DOWN TACK,UP TACK WITH UNDERBAR
SHORTHAND FORMAT:CONTINUING OVERLAP,DOWN STEP,LETTER OVERLAP,UP STEP
SIDDHAM:DANDA,DOUBLE DANDA,END OF TEXT MARK,SEPARATOR BAR,SEPARATOR DOT
 LETTER:A,AA,AI,ALTERNATE U,AU,BA,BHA,CA,CHA,DA,DDA,DDHA,DHA,E,GA,GHA,HA,I,II,JA,JHA,KA,KHA,LA,MA,
NA,NGA,NNA,NYA,O,PA,PHA,RA,SA,SHA,SSA,TA,THA,THREE-CIRCLE ALTERNATE I,TTA,TTHA,
TWO-CIRCLE ALTERNATE I,TWO-CIRCLE ALTERNATE II,U,UU,VA,YA
  VOCALIC:L,LL,R,RR
 REPETITION:MARK-1,MARK-2,MARK-3
 SECTION MARK:DOUBLE RING,DOUBLE RING WITH RAYS
  WITH:DOUBLE CRESCENTS,QUADRUPLE CRESCENTS,SEPTUPLE CRESCENTS,TRIDENT AND DOTTED CRESCENTS,
TRIDENT AND U-SHAPED ORNAMENTS,TRIPLE CRESCENTS
   CIRCLES AND:FOUR ENCLOSURES,RAYS,TWO ENCLOSURES
   RAYS AND DOTTED:CRESCENTS,DOUBLE CRESCENTS,TRIPLE CRESCENTS
 SIGN:ANUSVARA,CANDRABINDU,NUKTA,SIDDHAM,VIRAMA,VISARGA
 VOWEL SIGN:AA,AI,ALTERNATE U,ALTERNATE UU,AU,E,I,II,O,U,UU,VOCALIC R,VOCALIC RR
SIDEWAYS:
 BLACK:DOWN POINTING INDEX,LEFT POINTING INDEX,RIGHT POINTING INDEX,UP POINTING INDEX
 WHITE:DOWN POINTING INDEX,LEFT POINTING INDEX,RIGHT POINTING INDEX,UP POINTING INDEX
SIGNWRITING:BREATH EXHALE,BREATH INHALE,COLON,COMMA,EARS,EXCITEMENT,FINGER,
FLOORPLANE SHOULDER HIP MOVE,FULL STOP,HAIR,HAND-ANGLE,HAND-CIRCLE,HAND-CLAW,HAND-CUP,HAND-CURLICUE,
HAND-FIST,HAND-FLAT,HAND-HINGE,HAND-HOOK,HAND-OVAL,HEAD,LIP LOWER OVER UPPER,LIP UPPER OVER LOWER,
LIPS PRESSED TOGETHER,LOCATION-FLOORPLANE SPACE,LOCATION-WALLPLANE SPACE,NECK,PARENTHESIS,SEMICOLON,
SURFACE BETWEEN,SURFACE SYMBOLS,TEETH,TORSO-FLOORPLANE TWISTING,TORSO-WALLPLANE CURVED BEND,
TORSO-WALLPLANE STRAIGHT STRETCH,UPPER BODY TILTING FROM HIP JOINTS,WALLPLANE SHOULDER HIP MOVE
 AIR:BLOW SMALL ROTATIONS,BLOWING OUT,SUCK SMALL ROTATIONS,SUCKING IN
 BRUSH:BETWEEN,MULTIPLE,SINGLE
 CHEEKS:NEUTRAL,PUFFED,SUCKED
 DREAMY EYEBROWS:DOWN NEUTRAL,NEUTRAL DOWN,NEUTRAL UP,UP NEUTRAL
 DYNAMIC:ARROWHEAD LARGE,ARROWHEAD SMALL,EVERY OTHER TIME,FAST,GRADUAL,RELAXED,SIMULTANEOUS,
SIMULTANEOUS ALTERNATING,SLOW,TENSE
 EYE:BLINK MULTIPLE,BLINK SINGLE,WINK
 EYEBROWS STRAIGHT:DOWN,NEUTRAL,UP
 EYEGAZE-FLOORPLANE:CURVED,STRAIGHT,STRAIGHT ALTERNATING,STRAIGHT DOUBLE
 EYEGAZE-WALLPLANE:CIRCLING,CURVED,STRAIGHT,STRAIGHT ALTERNATING,STRAIGHT DOUBLE
 EYELASHES:DOWN,FLUTTERING,UP
 EYES:CLOSED,HALF CLOSED,HALF OPEN,OPEN,SQUEEZED,WIDE OPEN,WIDENING MOVEMENT
 FACE DIRECTION POSITION NOSE:FORWARD TILTING,UP OR DOWN,UP OR DOWN TILTING
 FILL:MODIFIER-2,MODIFIER-3,MODIFIER-4,MODIFIER-5,MODIFIER-6
 FLICK:LARGE MULTIPLE,LARGE SINGLE,SEQUENTIAL,SMALL MULTIPLE,SMALL SINGLE
 FOREHEAD:CONTACT,NEUTRAL,WRINKLED
 GRASP:BETWEEN,MULTIPLE,SINGLE
 HAND-ANGLE:INDEX,MIDDLE RING LITTLE,MIDDLE RING LITTLE IN,MIDDLE RING LITTLE OUT,
RING DOWN MIDDLE THUMB INDEX CROSS,RING LITTLE
  INDEX:MIDDLE LITTLE,MIDDLE RING,RING LITTLE,RING LITTLE OUT,THUMB,THUMB IN,THUMB OUT
  LITTLE:INDEX,INDEX THUMB INDEX THUMB,INDEX THUMB INDEX THUMB OUT,UP
 HAND-CIRCLE:INDEX,LITTLE INDEX,LITTLE UP,RING LITTLE
  INDEX:BENT,HINGE,MIDDLE,RING LITTLE
   MIDDLE:CROSS LITTLE,CROSSED,LITTLE,RING,THUMB
  MIDDLE:RING LITTLE,RING LITTLE BENT,UP
 HAND-CLAW:FOUR FINGERS CONJOINED,INDEX THUMB CURVE THUMB INSIDE,MIDDLE RING LITTLE CONJOINED,
MIDDLE RING LITTLE CONJOINED SIDE,NO THUMB,THUMB FORWARD,THUMB SIDE
 HAND-CUP:FIVE FINGERS SPREAD,FIVE FINGERS SPREAD OPEN,INDEX,MIDDLE RING LITTLE,NO THUMB,OPEN,
THUMB FORWARD,THUMB SIDE
  INDEX:RING LITTLE,THUMB,THUMB OPEN
  OPEN:NO THUMB,THUMB FORWARD,THUMB SIDE
 HAND-CURLICUE:INDEX RING LITTLE ON,MIDDLE RING LITTLE ON,OPEN
 HAND-FIST:FOUR FINGERS CONJOINED BENT,HEEL,INDEX,THUMB
  INDEX:BENT,BENT OVER MIDDLE,CUPPED,HINGED,MIDDLE,RAISED KNUCKLE,RING LITTLE,UP MIDDLE HINGED,
UP MIDDLE HINGED THUMB CONJOINED,UP MIDDLE HINGED THUMB SIDE
   HINGED:LOW,MIDDLE UP,MIDDLE UP THUMB SIDE
   MIDDLE:BENT,BENT THUMB STRAIGHT,CONJOINED,CROSS LITTLE,CROSSED,CROSSED THUMB SIDE,HINGED,
HINGED SPREAD THUMB SIDE,LITTLE,RAISED KNUCKLES,RING,RING BENT,RING CONJOINED,STRAIGHT THUMB BENT,
THUMB,UP SPREAD THUMB FORWARD
    CONJOINED:CUPPED,CUPPED THUMB FORWARD,HINGED,HINGED THUMB SIDE,INDEX BENT,MIDDLE BENT
     THUMB:FORWARD,SIDE,SIDE BENT,SIDE CONJOINED
    THUMB:ANGLED,ANGLED OUT,BENT,CIRCLED,CONJOINED HINGED,CUPPED,HINGED,HOOKED
   THUMB:ANGLED IN MIDDLE UP,ANGLED OUT MIDDLE UP,CIRCLE,CIRCLED MIDDLE UP,CUPPED MIDDLE UP,
CURLICUE,CURVE THUMB INSIDE,CURVE THUMB UNDER,FORWARD INDEX BENT,FORWARD INDEX STRAIGHT,HOOK,
HOOKED MIDDLE HINGED,HOOKED MIDDLE UP,SIDE
    SIDE:BOTH BENT,INDEX BENT,INDEX HINGE
     THUMB:BENT,CONJOINED,DIAGONAL
  LITTLE:BENT,DOWN,INDEX,INDEX THUMB,RAISED KNUCKLE,THUMB,TOUCHES THUMB,UP
   DOWN:OTHERS CIRCLED,RIPPLE CURVED,RIPPLE STRAIGHT
  MIDDLE:BENT OVER INDEX,DOWN,LITTLE,RAISED KNUCKLE,RING LITTLE,UP,UP THUMB SIDE
   THUMB:CIRCLED INDEX HINGED,CIRCLED INDEX UP,CUPPED INDEX UP,HOOKED INDEX UP,LITTLE
    ANGLED:INDEX UP,OUT INDEX CROSSED,OUT INDEX UP
  RING:DOWN,INDEX,LITTLE,MIDDLE,MIDDLE CONJOINED,MIDDLE RAISED KNUCKLES,RAISED KNUCKLE,THUMB,UP
  THUMB:FORWARD,HEEL,OVER FOUR RAISED KNUCKLES,OVER TWO FINGERS
   BETWEEN:INDEX MIDDLE,INDEX MIDDLE STRAIGHT,MIDDLE RING,RING LITTLE
   SIDE:BENT,CONJOINED,DIAGONAL
   UNDER:FOUR FINGERS,INDEX BENT,LITTLE UP,THREE FINGERS,TWO FINGERS
 HAND-FLAT:BETWEEN PALM FACINGS,FIVE FINGERS SPREAD,FOUR FINGERS,HEEL
  FIVE FINGERS SPREAD:BENT,FOUR BENT,HINGED,HINGED NO THUMB,HINGED THUMB SIDE,THUMB FORWARD
  FOUR FINGERS:BENT,CONJOINED,CONJOINED SPLIT,HINGED
  HEEL:FIVE FINGERS SPREAD,FIVE FINGERS SPREAD BENT,FIVE FINGERS SPREAD FOUR BENT,THUMB SIDE
  SPLIT:CENTRE,CENTRE THUMB SIDE,CENTRE THUMB SIDE BENT,INDEX THUMB SIDE,LITTLE
  THUMB:BENT,FORWARD,SIDE
 HAND-HINGE:FIVE FINGERS SPREAD OPEN,FOUR FINGERS CONJOINED,INDEX,LITTLE,MIDDLE,MIDDLE RING LITTLE,
NO THUMB,OPEN,RING,RING DOWN INDEX THUMB HOOK MIDDLE,SMALL
  INDEX:HINGED,RING LITTLE,THUMB
   MIDDLE:LITTLE,RING,RING CONJOINED
   THUMB:LARGE,OPEN,SIDE,SMALL
  LITTLE:INDEX,INDEX THUMB,THUMB
  OPEN:NO THUMB,THUMB FORWARD,THUMB SIDE
  THUMB:BETWEEN MIDDLE RING,SIDE,SIDE TOUCHING INDEX
 HAND-HOOK:CURLICUE,RING THUMB
  INDEX RING LITTLE:IN,OUT,UNDER
  MIDDLE:RING LITTLE CONJOINED,RING LITTLE CONJOINED IN,RING LITTLE CONJOINED OUT,THUMB
 HAND-OVAL:FIVE FINGERS SPREAD,INDEX,LITTLE UP,NO THUMB,RING LITTLE,THUMB FORWARD,THUMB SIDE
 HEAD:MOVEMENT CIRCLE,MOVEMENT-FLOORPLANE CURVE,MOVEMENT-FLOORPLANE STRAIGHT,RIM
  MOVEMENT-WALLPLANE:CURVE,STRAIGHT,TILT
 LIMB:COMBINATION,LENGTH-1,LENGTH-2,LENGTH-3,LENGTH-4,LENGTH-5,LENGTH-6,LENGTH-7
 LOCATION:DEPTH,HEAD NECK,HEIGHT,LIMBS DIGITS,TORSO,WIDTH
 MOUTH:CORNERS,FROWN,FROWN OPEN,FROWN WRINKLED,KISS,KISS FORWARD,KISS WRINKLED,SMILE,SMILE OPEN,
SMILE WRINKLED,TENSE,TENSE FORWARD,TENSE SUCKED,WRINKLES DOUBLE,WRINKLES SINGLE
  CLOSED:CONTACT,FORWARD,NEUTRAL
  OPEN:CIRCLE,FORWARD,OVAL,OVAL WRINKLED,OVAL YAWN,RECTANGLE,RECTANGLE WRINKLED,RECTANGLE YAWN,
WRINKLED
 MOVEMENT-DIAGONAL:
  AWAY:LARGE,LARGEST,MEDIUM,SMALL
  BETWEEN:
   AWAY:LARGE,LARGEST,MEDIUM,SMALL
   TOWARDS:LARGE,LARGEST,MEDIUM,SMALL
  TOWARDS:LARGE,LARGEST,MEDIUM,SMALL
 MOVEMENT-FLOORPLANE:BEND,CHECK,CROSS,JAW,SHAKING PARALLEL,WRIST CIRCLE HITTING WALL DOUBLE,
WRIST CIRCLE HITTING WALL SINGLE
  ARM CIRCLE HITTING WALL:LARGE DOUBLE,LARGE SINGLE,MEDIUM DOUBLE,MEDIUM SINGLE,SMALL DOUBLE,
SMALL SINGLE
  BOX:LARGE,MEDIUM,SMALL
  CORNER:LARGE,MEDIUM,SMALL
  CURVE:COMBINED,LARGE,LARGEST,MEDIUM,SMALL
   HITTING:CEILING LARGE,CEILING SMALL,FLOOR LARGE,FLOOR SMALL
  DOUBLE:ALTERNATING,ALTERNATING WRIST FLEX,STRAIGHT,WRIST FLEX
  FINGER:CIRCLES HITTING WALL DOUBLE,CIRCLES HITTING WALL SINGLE,CONTACT
  HUMP:SMALL
   HITTING:
    CEILING:LARGE DOUBLE,LARGE TRIPLE,SMALL DOUBLE,SMALL TRIPLE
    FLOOR:LARGE DOUBLE,SMALL DOUBLE,TRIPLE LARGE TRIPLE,TRIPLE SMALL TRIPLE
  LOOP:SMALL
   HITTING:
    CEILING:LARGE DOUBLE,LARGE SINGLE,SMALL DOUBLE,SMALL SINGLE
    FLOOR:LARGE DOUBLE,LARGE SINGLE,SMALL DOUBLE,SMALL SINGLE
  PEAKS:LARGE,MEDIUM,SMALL
  SINGLE:WRIST FLEX
   STRAIGHT:LARGE,LARGEST,MEDIUM,SMALL
  TRIPLE:ALTERNATING MOVEMENT,ALTERNATING WRIST FLEX,STRAIGHT MOVEMENT,WRIST FLEX
  WAVE:LARGE,SMALL,SNAKE
   HITTING:CEILING LARGE,CEILING SMALL,FLOOR LARGE,FLOOR SMALL
  ZIGZAG:LARGE,MEDIUM,SMALL
 MOVEMENT-HINGE:DOWN SEQUENTIAL,SIDE TO SIDE SCISSORS
  UP:SEQUENTIAL
   DOWN:ALTERNATING LARGE,ALTERNATING SMALL,LARGE,SMALL
 MOVEMENT-WALLPLANE:CROSS,CURVED CROSS MEDIUM,CURVED CROSS SMALL,JAW,SHAKING,
WRIST CIRCLE FRONT DOUBLE,WRIST CIRCLE FRONT SINGLE
  ARM CIRCLE:MEDIUM DOUBLE,MEDIUM SINGLE,SMALL DOUBLE,SMALL SINGLE
  BEND:LARGE,MEDIUM,SMALL
  BOX:LARGE,MEDIUM,SMALL
  CHECK:LARGE,MEDIUM,SMALL
  CORNER:LARGE,MEDIUM,ROTATION,SMALL
  CURVE:HITTING CHEST,HITTING FRONT WALL,THEN STRAIGHT,THREE-QUARTER CIRCLE MEDIUM,
THREE-QUARTER CIRCLE SMALL
   HALF-CIRCLE:LARGE,LARGEST,MEDIUM,SMALL
   QUARTER:LARGE,LARGEST,MEDIUM,SMALL
  DOUBLE:ALTERNATING,ALTERNATING WRIST FLEX,STRAIGHT,WRIST FLEX
  FINGER:CIRCLES DOUBLE,CIRCLES SINGLE,CONTACT
  HUMP:HITTING CHEST,HITTING FRONT WALL,LARGE,MEDIUM,SMALL
  LOOP:HITTING CHEST,HITTING FRONT WALL,LARGE,MEDIUM,SMALL,SMALL DOUBLE
  PEAKS:LARGE,MEDIUM,SMALL
  SINGLE:WRIST FLEX
   STRAIGHT:LARGE,LARGEST,MEDIUM,SMALL
  TRIPLE:ALTERNATING,ALTERNATING WRIST FLEX,STRAIGHT MOVEMENT,WRIST FLEX
  WAVE:HITTING CHEST,HITTING FRONT WALL
   CURVE:
    DOUBLE:LARGE,MEDIUM,SMALL
    TRIPLE:LARGE,MEDIUM,SMALL
   DIAGONAL PATH:LARGE,MEDIUM,SMALL
  ZIGZAG:LARGE,MEDIUM,SMALL
 NOSE:CONTACT,NEUTRAL,WIGGLES,WRINKLES
 ROTATION:MODIFIER-10,MODIFIER-11,MODIFIER-12,MODIFIER-13,MODIFIER-14,MODIFIER-15,MODIFIER-16,
MODIFIER-2,MODIFIER-3,MODIFIER-4,MODIFIER-5,MODIFIER-6,MODIFIER-7,MODIFIER-8,MODIFIER-9
 ROTATION-FLOORPLANE:ALTERNATING,ALTERNATING HITTING CEILING,ALTERNATING HITTING FLOOR,DOUBLE,
DOUBLE HITTING CEILING,DOUBLE HITTING FLOOR,SINGLE,SINGLE HITTING CEILING,SINGLE HITTING FLOOR
 ROTATION-WALLPLANE:ALTERNATE,ALTERNATING HITTING CHEST,ALTERNATING HITTING FRONT WALL,DOUBLE,
DOUBLE HITTING CHEST,DOUBLE HITTING FRONT WALL,SINGLE,SINGLE HITTING CHEST,
SINGLE HITTING FRONT WALL
 RUB:BETWEEN,MULTIPLE,SINGLE
 SHOULDER:HIP POSITIONS,HIP SPINE,TILTING FROM WAIST
 SQUEEZE:FLICK ALTERNATING,LARGE MULTIPLE,LARGE SINGLE,SEQUENTIAL,SMALL MULTIPLE,SMALL SINGLE
 STRIKE:BETWEEN,MULTIPLE,SINGLE
 TEETH:BITE LIPS,MOVEMENT
  ON:LIPS,LIPS MOVEMENT,TONGUE,TONGUE MOVEMENT
 TENSE CHEEKS:HIGH,LOW,MIDDLE
 TONGUE:CENTRE INSIDE MOUTH,CENTRE STICKING OUT,INSIDE MOUTH RELAXED,LICKING LIPS,
MOVES AGAINST CHEEK,STICKING OUT FAR,TIP BETWEEN LIPS,TIP TOUCHING INSIDE MOUTH
 TOUCH:BETWEEN,MULTIPLE,SINGLE
 TRAVEL-FLOORPLANE:SHAKING
  ROTATION-FLOORPLANE:ALTERNATING,DOUBLE,SINGLE
  ROTATION-WALLPLANE:ALTERNATING,DOUBLE,SINGLE
 TRAVEL-WALLPLANE:SHAKING
  ARM SPIRAL:DOUBLE,SINGLE,TRIPLE
  ROTATION-FLOORPLANE:ALTERNATING,DOUBLE,SINGLE
  ROTATION-WALLPLANE:ALTERNATING,DOUBLE,SINGLE
SIMILAR:ABOVE GREATER-THAN ABOVE EQUALS SIGN,ABOVE LESS-THAN ABOVE EQUALS SIGN,MINUS SIMILAR,
OR GREATER-THAN,OR LESS-THAN
SINGLE:CHARACTER INTRODUCER,GRAPHIC CHARACTER INTRODUCER,HIGH-REVERSED-9 QUOTATION MARK,
LEFT-POINTING ANGLE QUOTATION MARK,LOW-9 QUOTATION MARK,RIGHT-POINTING ANGLE QUOTATION MARK,
SHIFT THREE,SHIFT TWO
SINHALA:PUNCTUATION KUNDDALIYA
 ARCHAIC:
  DIGIT:EIGHT,FIVE,FOUR,NINE,ONE,SEVEN,SIX,THREE,TWO
  NUMBER:EIGHTY,FIFTY,FORTY,NINETY,ONE HUNDRED,ONE THOUSAND,SEVENTY,SIXTY,TEN,THIRTY,TWENTY
 LETTER:AAYANNA,AEEYANNA,AEYANNA,AIYANNA,AMBA BAYANNA,AUYANNA,AYANNA,EEYANNA,EYANNA,FAYANNA,HAYANNA,
IIYANNA,ILUUYANNA,ILUYANNA,IRUUYANNA,IRUYANNA,IYANNA,KANTAJA NAASIKYAYA,MAYANNA,OOYANNA,OYANNA,
RAYANNA,UUYANNA,UYANNA,VAYANNA,YAYANNA
  ALPAPRAANA:BAYANNA,CAYANNA,DAYANNA,DDAYANNA,GAYANNA,JAYANNA,KAYANNA,PAYANNA,TAYANNA,TTAYANNA
  DANTAJA:LAYANNA,NAYANNA,SAYANNA
  MAHAAPRAANA:BAYANNA,CAYANNA,DAYANNA,DDAYANNA,GAYANNA,JAYANNA,KAYANNA,PAYANNA,TAYANNA,TTAYANNA
  MUURDHAJA:LAYANNA,NAYANNA,SAYANNA
  SANYAKA:DAYANNA,DDAYANNA,GAYANNA,JAYANNA
  TAALUJA:NAASIKYAYA,SANYOOGA NAAKSIKYAYA,SAYANNA
 LITH DIGIT:EIGHT,FIVE,FOUR,NINE,ONE,SEVEN,SIX,THREE,TWO,ZERO
 SIGN:AL-LAKUNA,ANUSVARAYA,CANDRABINDU,VISARGAYA
 VOWEL SIGN:AELA-PILLA,GAETTA-PILLA,GAYANUKITTA,KOMBU DEKA,KOMBUVA
  DIGA:AEDA-PILLA,GAETTA-PILLA,GAYANUKITTA,IS-PILLA,KOMBUVA,PAA-PILLA
  KETTI:AEDA-PILLA,IS-PILLA,PAA-PILLA
  KOMBUVA HAA:AELA-PILLA,DIGA AELA-PILLA,GAYANUKITTA
SIX:PETALLED BLACK AND WHITE FLORETTE
 POINTED:BLACK STAR,PINWHEEL STAR,STAR WITH MIDDLE DOT
SLANTED:NORTH ARROW WITH HOOKED HEAD,NORTH ARROW WITH HORIZONTAL TAIL
 EQUAL TO OR:GREATER-THAN,GREATER-THAN WITH DOT INSIDE,LESS-THAN,LESS-THAN WITH DOT INSIDE
SLEEPING:ACCOMMODATION,FACE,SYMBOL
SMALL:AIRPLANE,AMPERSAND,ASTERISK,BLUE DIAMOND,COLON,COMMA,COMMERCIAL AT,DOLLAR SIGN,ELEMENT OF,
ELEMENT OF WITH OVERBAR,ELEMENT OF WITH VERTICAL BAR AT END OF HORIZONTAL STROKE,EM DASH,
EQUALS SIGN,EXCLAMATION MARK,FULL STOP,GREATER-THAN SIGN,HYPHEN-MINUS,IDEOGRAPHIC COMMA,
LESS-THAN SIGN,NUMBER SIGN,ORANGE DIAMOND,PERCENT SIGN,PLUS SIGN,QUESTION MARK,REVERSE SOLIDUS,
SEMICOLON,TILDE,TWO DOTS OVER ONE DOT PUNCTUATION,VEE WITH UNDERBAR
 CONTAINS:AS MEMBER,WITH OVERBAR,WITH VERTICAL BAR AT END OF HORIZONTAL STROKE
 LEFT:CURLY BRACKET,PARENTHESIS,TORTOISE SHELL BRACKET
 RIGHT:CURLY BRACKET,PARENTHESIS,TORTOISE SHELL BRACKET
 ROMAN NUMERAL:EIGHT,ELEVEN,FIFTY,FIVE,FIVE HUNDRED,FOUR,NINE,ONE,ONE HUNDRED,ONE THOUSAND,SEVEN,
SIX,TEN,THREE,TWELVE,TWO
SMILING:CAT FACE WITH HEART-SHAPED EYES,CAT FACE WITH OPEN MOUTH
 FACE WITH:HALO,HEART-SHAPED EYES,HORNS,OPEN MOUTH,SMILING EYES,
SMILING EYES AND HAND COVERING MOUTH,SMILING EYES AND THREE HEARTS,SUNGLASSES,TEAR
  OPEN MOUTH AND:COLD SWEAT,SMILING EYES,TIGHTLY-CLOSED EYES
SOFT:HYPHEN,ICE CREAM,SHELL FLOPPY DISK
SOGDIAN:INDEPENDENT SHIN
 COMBINING:CURVE ABOVE,CURVE BELOW,DOT ABOVE,DOT BELOW,HOOK ABOVE,HOOK BELOW,LONG HOOK BELOW,
RESH BELOW,STROKE BELOW,TWO DOTS ABOVE,TWO DOTS BELOW
 LETTER:ALEPH,AYIN,BETH,FETH,GIMEL,HE,HETH,KAPH,LAMEDH,LESH,MEM,NUN,PE,RESH-AYIN,SADHE,SAMEKH,SHIN,
TAW,WAW,YODH,ZAYIN
 NUMBER:ONE,ONE HUNDRED,TEN,TWENTY
 PUNCTUATION:CIRCLE WITH DOT,HALF CIRCLE WITH DOT
  TWO:CIRCLES WITH DOTS,VERTICAL BARS,VERTICAL BARS WITH DOTS
SORA SOMPENG:
 DIGIT:EIGHT,FIVE,FOUR,NINE,ONE,SEVEN,SIX,THREE,TWO,ZERO
 LETTER:AH,BAH,CAH,DAH,EEH,EH,GAH,HAH,IH,JAH,KAH,LAH,MAE,MAH,NAH,NGAH,NYAH,OH,PAH,RAH,SAH,TAH,UH,
VAH,YAH
SOUTH:
 EAST:ARROW,BLACK ARROW,DOUBLE ARROW,SANS-SERIF ARROW,TRIANGLE-HEADED ARROW,
TRIANGLE-HEADED ARROW TO BAR,WHITE ARROW
  ARROW:AND SOUTH WEST ARROW,CROSSING NORTH EAST ARROW,TO CORNER,WITH HOOK
  POINTING:BUD,LEAF,VINE LEAF
 WEST:ARROW,ARROW AND NORTH WEST ARROW,ARROW WITH HOOK,BLACK ARROW,DOUBLE ARROW,SANS-SERIF ARROW,
TRIANGLE-HEADED ARROW,TRIANGLE-HEADED ARROW TO BAR,WHITE ARROW
  POINTING:BUD,LEAF,VINE LEAF
SOYOMBO:GEMINATION MARK,HEAD MARK WITH MOON AND SUN,HEAD MARK WITH MOON AND SUN AND FLAME,
HEAD MARK WITH MOON AND SUN AND TRIPLE FLAME,SUBJOINER,TERMINAL MARK-1,TERMINAL MARK-2
 CLUSTER-INITIAL LETTER:LA,RA,SA,SHA
 FINAL CONSONANT SIGN:-A,B,D,G,K,L,M,N,NG,R,S,SH
 LETTER:-A,A,BA,BHA,CA,CHA,DA,DDA,DDHA,DHA,DZA,GA,GHA,HA,JA,JHA,KA,KHA,KSSA,LA,MA,NA,NGA,NNA,NYA,PA,
PHA,RA,SA,SHA,SSA,TA,THA,TSA,TSHA,TTA,TTHA,VA,YA,ZA,ZHA
 MARK:DOUBLE SHAD,PLUTA,SHAD,TSHEG
 SIGN:ANUSVARA,JIHVAMULIYA,UPADHMANIYA,VISARGA
 VOWEL:LENGTH MARK
  SIGN:AI,AU,E,I,O,OE,U,UE,VOCALIC L,VOCALIC R
SPEAKER WITH:CANCELLATION STROKE,ONE SOUND WAVE,THREE SOUND WAVES
SPIRAL:CALENDAR PAD,NOTE PAD,SHELL
SQUARE:A OVER M,AARU,AM,ANPEA,APAATO,ARUHUA,AU,BAARERU,BAR,BEETA,BIRU,BORUTO,BQ,BUSSYERU,C OVER KG,
CAL,CAP,CC,CD,CM,CM CUBED,CM SQUARED,CO,CORPORATION,CUP,DA,DAASU,DB,DESI,DJ,DL,DM,DM CUBED,
DM SQUARED,DORU,EEKAA,ERG,ESUKUUDO,EV,FM,FOOT,FOUR CORNERS,GAL,GANMA,GARON,GB,GHZ,GIGA,GINII,
GIRUDAA,GPA,GURAMU,GURAMUTON,GY,HA,HAITU,HEKUTAARU,HERUTU,HG,HIRAGANA HOKA,HON,HOON,HOORU,HP,HPA,
HUARADDO,HUIITO,HURAN,HZ,IMAGE OF,IMAGE OF OR EQUAL TO,IMAGE OF OR NOT EQUAL TO,IN,ININGU,INTI,IU,
K OHM,KA,KAIRI,KARATTO,KARORII,KB,KCAL,KEESU,KG,KHZ,KIRO,KIROGURAMU,KIROMEETORU,KIROWATTO,KK,KL,KM,
KOOPO,KORUNA,KPA,KT,KUROONE,KURUZEIRO,KV,KW,KYURII,LEFT OPEN BOX OPERATOR,LM,LN,LOG,LOZENGE,LX,MA,
MAHHA,MAIKURO,MAIRU,MANSYON,MARUKU,MB,MB SMALL,MEETORU,MEGA,MEGATON,MG,MHZ,MIKURON,MIL,MIRI,
MIRIBAARU,ML,MM,MM CUBED,MM SQUARED,MOL,MPA,MS,MV,MV MEGA,MW,MW MEGA,NA,NANO,NF,NM,NOTTO,NS,NV,NW,
ONSU,OOMU,ORIGINAL OF,ORIGINAL OF OR EQUAL TO,ORIGINAL OF OR NOT EQUAL TO,OV,PA,PA AMPS,PAASENTO,
PAATU,PC,PEEZI,PENIHI,PENSU,PESO,PF,PH,PIASUTORU,PIKO,PIKURU,PM,POINTO,PONDO,POSITION INDICATOR,PPM,
PR,PS,PV,PW,RAD,RAD OVER S,RAD OVER S SQUARED,REMU,RENTOGEN,RIGHT OPEN BOX OPERATOR,RIRA,RITTORU,
ROOT,RUPII,RUUBURU,SAIKURU,SANTIIMU,SENTI,SENTO,SIRINGU,SR,SV,TARGET,THZ,TON,UON,V OVER M,WATTO,WB,
YAADO,YAARU,YUAN
 ERA NAME:HEISEI,MEIZI,REIWA,SYOUWA,TAISYOU
 KM:CAPITAL,CUBED,SQUARED
 M:CUBED,OHM,OVER S,OVER S SQUARED,SQUARED
 MU:A,F,G,L,M,S,V,W
 WITH:BOTTOM HALF BLACK,CONTOURED OUTLINE,DIAGONAL CROSSHATCH FILL,HORIZONTAL FILL,LEFT HALF BLACK,
LOWER LEFT DIAGONAL HALF BLACK,LOWER RIGHT DIAGONAL HALF BLACK,ORTHOGONAL CROSSHATCH FILL,
RIGHT HALF BLACK,TOP HALF BLACK,VERTICAL FILL
  UPPER:LEFT DIAGONAL HALF BLACK,LEFT TO LOWER RIGHT FILL,RIGHT DIAGONAL HALF BLACK,
RIGHT TO LOWER LEFT FILL
SQUARED:ASTERISK,CL,COOL,DOT OPERATOR,EIGHT K,FALLING DIAGONAL SLASH,FIVE POINT ONE,
FOUR DOT PUNCTUATION,FOUR K,FREE,HC,HDR,HI-RES,HV,ID,KEY,LOGICAL AND,LOGICAL OR,LOSSLESS,MINUS,MV,
NEW,NG,OK,ONE HUNDRED TWENTY P,PLUS,PPV,RISING DIAGONAL SLASH,SALTIRE,SD,SECOND SCREEN,
SEVEN POINT ONE,SHV,SIXTY P,SMALL CIRCLE,SOS,SQUARE,SS,THREE D,TIMES,TWENTY-TWO POINT TWO,TWO K,UHD,
UP WITH EXCLAMATION MARK,VOD,VS,WC
 CJK UNIFIED:IDEOGRAPH-4E00,IDEOGRAPH-4E09,IDEOGRAPH-4E2D,IDEOGRAPH-4E8C,IDEOGRAPH-4EA4,
IDEOGRAPH-518D,IDEOGRAPH-521D,IDEOGRAPH-524D,IDEOGRAPH-5272,IDEOGRAPH-53CC,IDEOGRAPH-53F3,
IDEOGRAPH-5408,IDEOGRAPH-5439,IDEOGRAPH-55B6,IDEOGRAPH-58F0,IDEOGRAPH-591A,IDEOGRAPH-5929,
IDEOGRAPH-5B57,IDEOGRAPH-5DE6,IDEOGRAPH-5F8C,IDEOGRAPH-624B,IDEOGRAPH-6253,IDEOGRAPH-6295,
IDEOGRAPH-6307,IDEOGRAPH-6355,IDEOGRAPH-6599,IDEOGRAPH-65B0,IDEOGRAPH-6620,IDEOGRAPH-6708,
IDEOGRAPH-6709,IDEOGRAPH-6E80,IDEOGRAPH-6F14,IDEOGRAPH-7121,IDEOGRAPH-751F,IDEOGRAPH-7533,
IDEOGRAPH-7981,IDEOGRAPH-7A7A,IDEOGRAPH-7D42,IDEOGRAPH-89E3,IDEOGRAPH-8CA9,IDEOGRAPH-8D70,
IDEOGRAPH-904A,IDEOGRAPH-914D
 KATAKANA:DE,KOKO,SA
 LATIN:SMALL LETTER D
  CAPITAL LETTER:A,B,C,D,E,F,G,H,I,J,K,L,M,N,O,P,Q,R,S,T,U,V,W,X,Y,Z
STAR:AND CRESCENT,EQUALS,OF DAVID,OPERATOR,WITH LEFT HALF BLACK,WITH RIGHT HALF BLACK
START OF:GUARDED AREA,HEADING,PROTECTED AREA,SELECTED AREA,STRING,TEXT
STICK FIGURE:LEANING LEFT,LEANING RIGHT,WITH ARMS RAISED,WITH DRESS
SUBSCRIPT:EIGHT,EQUALS SIGN,FIVE,FOUR,LEFT PARENTHESIS,MINUS,NINE,ONE,PLUS SIGN,RIGHT PARENTHESIS,
SEVEN,SIX,THREE,TWO,ZERO
SUBSET:OF
 ABOVE:RIGHTWARDS ARROW,SUBSET,SUPERSET
 OF:OR EQUAL TO,OR EQUAL TO WITH DOT ABOVE,WITH NOT EQUAL TO
  ABOVE:ALMOST EQUAL TO,EQUALS SIGN,NOT EQUAL TO,TILDE OPERATOR
 WITH:DOT,MULTIPLICATION SIGN BELOW,PLUS SIGN BELOW
SUCCEEDS:BUT NOT EQUIVALENT TO,OR EQUAL TO,OR EQUIVALENT TO,UNDER RELATION
 ABOVE:ALMOST EQUAL TO,EQUALS SIGN,NOT ALMOST EQUAL TO,NOT EQUAL TO,SINGLE-LINE EQUALS SIGN,
SINGLE-LINE NOT EQUAL TO
SUMMATION:BOTTOM,TOP,WITH INTEGRAL
SUNDANESE:AVAGRAHA
 CONSONANT SIGN:PAMINGKAL,PANYAKRA,PANYIKU,PASANGAN MA,PASANGAN WA
 DIGIT:EIGHT,FIVE,FOUR,NINE,ONE,SEVEN,SIX,THREE,TWO,ZERO
 LETTER:A,AE,BA,BHA,CA,DA,E,EU,FA,FINAL K,FINAL M,GA,HA,I,JA,KA,KHA,LA,LEU,MA,NA,NGA,NYA,O,PA,QA,RA,
REU,SA,SYA,TA,U,VA,WA,XA,YA,ZA
 PUNCTUATION BINDU:BA SATANGA,CAKRA,DA SATANGA,KA SATANGA,LEU SATANGA,PANGLONG,PURNAMA,SURYA
 SIGN:PAMAAEH,PANGLAYAR,PANGWISAD,PANYECEK,VIRAMA
 VOWEL SIGN:PAMEPET,PANAELAENG,PANEULEUNG,PANGHULU,PANOLONG,PANYUKU
SUPERSCRIPT:EIGHT,EQUALS SIGN,FIVE,FOUR,LATIN SMALL LETTER I,LATIN SMALL LETTER N,LEFT PARENTHESIS,
MINUS,NINE,ONE,PLUS SIGN,RIGHT PARENTHESIS,SEVEN,SIX,THREE,TWO,ZERO
SUPERSET:BESIDE AND JOINED BY DASH WITH SUBSET,BESIDE SUBSET,OF,PRECEDING SOLIDUS
 ABOVE:LEFTWARDS ARROW,SUBSET,SUPERSET
 OF:OR EQUAL TO,OR EQUAL TO WITH DOT ABOVE,WITH NOT EQUAL TO
  ABOVE:ALMOST EQUAL TO,EQUALS SIGN,NOT EQUAL TO,TILDE OPERATOR
 WITH:DOT,MULTIPLICATION SIGN BELOW,PLUS SIGN BELOW
SYLOTI NAGRI:
 LETTER:A,BHO,BO,CHO,CO,DDHO,DDO,DHO,DO,E,GHO,GO,HO,I,JHO,JO,KHO,KO,LO,MO,NO,O,PHO,PO,RO,RRO,SO,THO,
TO,TTHO,TTO,U
 POETRY:MARK-1,MARK-2,MARK-3,MARK-4
 SIGN:ALTERNATE HASANTA,ANUSVARA,DVISVARA,HASANTA
 VOWEL SIGN:A,E,I,OO,U
SYMBOL FOR:ACKNOWLEDGE,BACKSPACE,BELL,CANCEL,CARRIAGE RETURN,DATA LINK ESCAPE,DELETE,
DELETE FORM TWO,ENQUIRY,ESCAPE,FILE SEPARATOR,FORM FEED,GROUP SEPARATOR,HORIZONTAL TABULATION,
LINE FEED,MARKS CHAPTER,NEGATIVE ACKNOWLEDGE,NEWLINE,NULL,RECORD SEPARATOR,SAMARITAN SOURCE,
SHIFT IN,SHIFT OUT,SPACE,START OF HEADING,START OF TEXT,SUBSTITUTE,SUBSTITUTE FORM TWO,
SYNCHRONOUS IDLE,TYPE A ELECTRONICS,UNIT SEPARATOR,VERTICAL TABULATION
 DEVICE CONTROL:FOUR,ONE,THREE,TWO
 END OF:MEDIUM,TEXT,TRANSMISSION,TRANSMISSION BLOCK
SYRIAC:ABBREVIATION MARK,BARREKH,COLON SKEWED LEFT,COLON SKEWED RIGHT,CONTRACTION,
DOTTED ZLAMA ANGULAR,DOTTED ZLAMA HORIZONTAL,END OF PARAGRAPH,ESASA ABOVE,ESASA BELOW,FEMININE DOT,
HBASA ABOVE,HBASA BELOW,HBASA-ESASA DOTTED,HORIZONTAL COLON,MUSIC,OBLIQUE LINE ABOVE,
OBLIQUE LINE BELOW,QUSHSHAYA,RBASA ABOVE,RBASA BELOW,RUKKAKHA,RWAHA,THREE DOTS ABOVE,
THREE DOTS BELOW,TWO VERTICAL DOTS ABOVE,TWO VERTICAL DOTS BELOW
 HARKLEAN:ASTERISCUS,METOBELUS,OBELUS
 LETTER:ALAPH,BETH,DALATH,DOTLESS DALATH RISH,E,FINAL SEMKATH,GAMAL,GAMAL GARSHUNI,HE,HETH,KAPH,
LAMADH,MIM,NUN,PE,QAPH,REVERSED PE,RISH,SADHE,SEMKATH,SHIN,SUPERSCRIPT ALAPH,TAW,TETH,TETH GARSHUNI,
WAW,YUDH,YUDH HE,ZAIN
  MALAYALAM:BHA,JA,LLA,LLLA,NGA,NNA,NNNA,NYA,RA,SSA,TTA
  PERSIAN:BHETH,DHALATH,GHAMAL
  SOGDIAN:FE,KHAPH,ZHAIN
 PTHAHA:ABOVE,BELOW,DOTTED
 SUBLINEAR:COLON,COLON SKEWED LEFT,COLON SKEWED RIGHT,FULL STOP
 SUPRALINEAR:COLON,COLON SKEWED LEFT,FULL STOP
 ZQAPHA:ABOVE,BELOW,DOTTED
TAG:AMPERSAND,APOSTROPHE,ASTERISK,CIRCUMFLEX ACCENT,COLON,COMMA,COMMERCIAL AT,DOLLAR SIGN,
EQUALS SIGN,EXCLAMATION MARK,FULL STOP,GRAVE ACCENT,GREATER-THAN SIGN,HYPHEN-MINUS,LESS-THAN SIGN,
LOW LINE,NUMBER SIGN,PERCENT SIGN,PLUS SIGN,QUESTION MARK,QUOTATION MARK,REVERSE SOLIDUS,SEMICOLON,
SOLIDUS,SPACE,TILDE,VERTICAL LINE
 DIGIT:EIGHT,FIVE,FOUR,NINE,ONE,SEVEN,SIX,THREE,TWO,ZERO
 LATIN:
  CAPITAL LETTER:A,B,C,D,E,F,G,H,I,J,K,L,M,N,O,P,Q,R,S,T,U,V,W,X,Y,Z
  SMALL LETTER:A,B,C,D,E,F,G,H,I,J,K,L,M,N,O,P,Q,R,S,T,U,V,W,X,Y,Z
 LEFT:CURLY BRACKET,PARENTHESIS,SQUARE BRACKET
 RIGHT:CURLY BRACKET,PARENTHESIS,SQUARE BRACKET
TAGALOG:SIGN PAMUDPOD,SIGN VIRAMA,VOWEL SIGN I,VOWEL SIGN U
 LETTER:A,ARCHAIC RA,BA,DA,GA,HA,I,KA,LA,MA,NA,NGA,PA,RA,SA,TA,U,WA,YA
TAGBANWA:VOWEL SIGN I,VOWEL SIGN U
 LETTER:A,BA,DA,GA,I,KA,LA,MA,NA,NGA,PA,SA,TA,U,WA,YA
TAI:
 LE LETTER:A,AI,AUE,E,EE,EH,FA,HA,I,KA,KHA,LA,MA,NA,NGA,O,OO,PA,PHA,QA,SA,TA,THA,TONE-2,TONE-3,
TONE-4,TONE-5,TONE-6,TSA,TSHA,U,UE,VA,XA,YA
 THAM:COMBINING CRYPTOGRAMMIC DOT
  CONSONANT SIGN:BA,FINAL NGA,HIGH RATHA OR LOW PA,LA TANG LAI,LOW PA,MA,MEDIAL LA,MEDIAL RA,SA
  HORA DIGIT:EIGHT,FIVE,FOUR,NINE,ONE,SEVEN,SIX,THREE,TWO,ZERO
  LETTER:A,BA,DA,EE,GREAT SA,I,II,LA,LAE,LLA,LUE,MA,NA,NGA,NYA,OO,RA,RANA,RATA,RUE,U,UU,WA
   HIGH:CA,CHA,FA,HA,KA,KHA,KXA,PA,PHA,RATHA,SA,SHA,SSA,TA,THA,YA
   LOW:CA,CHA,FA,HA,KA,KHA,KXA,PA,PHA,RATHA,SA,TA,THA,YA
  SIGN:CAANG,DOKMAI,HANG,HOY,KAAN,KAANKUU,KEOW,KHUEN-LUE KARAN,RA HAAM,REVERSED ROTATED RANA,SAKOT,
SATKAAN,SATKAANKUU,SAWAN,TONE-1,TONE-2,WIANG,WIANGWAAK
   KHUEN:TONE-3,TONE-4,TONE-5
   MAI:KANG,KANG LAI,SAM,YAMOK
  THAM DIGIT:EIGHT,FIVE,FOUR,NINE,ONE,SEVEN,SIX,THREE,TWO,ZERO
  VOWEL SIGN:A,AA,AE,AI,E,I,II,MAI SAT,O,OA ABOVE,OA BELOW,OO,OY,TALL AA,THAM AI,U,UE,UU,UUE
 VIET:MAI KANG,MAI KHIT
  LETTER:
   HIGH:BO,CHO,CO,DO,FO,GO,HO,KHHO,KHO,KO,LO,MO,NGO,NO,NYO,O,PHO,PO,RO,SO,THO,TO,VO,YO
   LOW:BO,CHO,CO,DO,FO,GO,HO,KHHO,KHO,KO,LO,MO,NGO,NO,NYO,O,PHO,PO,RO,SO,THO,TO,VO,YO
  SYMBOL:HO HOI,KOI KOI,KON,NUENG,SAM
  TONE MAI:EK,NUENG,SONG,THO
  VOWEL:AA,AM,AN,AUE,AY,E,I,IA,O,U,UA,UE,UEA
TAKRI:ABBREVIATION SIGN
 DIGIT:EIGHT,FIVE,FOUR,NINE,ONE,SEVEN,SIX,THREE,TWO,ZERO
 LETTER:A,AA,AI,ARCHAIC KHA,AU,BA,BHA,CA,CHA,DA,DDA,DDHA,DHA,E,GA,GHA,HA,I,II,JA,JHA,KA,KHA,LA,MA,
NA,NGA,NNA,NYA,O,PA,PHA,RA,RRA,SA,SHA,TA,THA,TTA,TTHA,U,UU,VA,YA
 SIGN:ANUSVARA,NUKTA,VIRAMA,VISARGA
 VOWEL SIGN:AA,AI,AU,E,I,II,O,U,UU
TAMIL:AND ODD SIGN,AS ABOVE SIGN,AU LENGTH MARK,CREDIT SIGN,CURRENT SIGN,DAY SIGN,DEBIT SIGN,
DRY CULTIVATION SIGN,IN POSSESSION SIGN,LAND SIGN,MONTH SIGN,OM,PUNCTUATION END OF TEXT,RUPEE SIGN,
SALT PAN SIGN,SPENT SIGN,STARTING FROM SIGN,TOTAL SIGN,TRADITIONAL CREDIT SIGN,
TRADITIONAL NUMBER SIGN,WET CULTIVATION SIGN,YEAR SIGN
 DIGIT:EIGHT,FIVE,FOUR,NINE,ONE,SEVEN,SIX,THREE,TWO,ZERO
 FRACTION:DOWNSCALING FACTOR KIIZH
  ONE:EIGHTH,EIGHTIETH,FIFTH,FORTIETH,HALF-1,HALF-2,ONE-HUNDRED-AND-SIXTIETH,QUARTER,SIXTEENTH-1,
SIXTEENTH-2,SIXTY-FOURTH,TENTH,THIRTY-SECOND,THREE-HUNDRED-AND-TWENTIETH,TWENTIETH
  THREE:EIGHTIETHS,QUARTERS,SIXTEENTHS,SIXTY-FOURTHS,TWENTIETHS
 LETTER:A,AA,AI,AU,CA,E,EE,HA,I,II,JA,KA,LA,LLA,LLLA,MA,NA,NGA,NNA,NNNA,NYA,O,OO,PA,RA,RRA,SA,SHA,
SSA,TA,TTA,U,UU,VA,YA
 NUMBER:ONE HUNDRED,ONE THOUSAND,SIGN,TEN
 SIGN:AAZHAAKKU,ANUSVARA,CEVITU,KAACU,KURUNI,KUZHI,MUKKURUNI,MUTHALIYA,MUUVUZHAKKU,NEL,PAARAM,PANAM,
PATHAKKU,PON,UZHAKKU,VAKAIYARAA,VARAAKAN,VELI,VIRAMA,VISARGA
 VOWEL SIGN:AA,AI,AU,E,EE,I,II,O,OO,U,UU
TANGSA:
 DIGIT:EIGHT,FIVE,FOUR,NINE,ONE,SEVEN,SIX,THREE,TWO,ZERO
 LETTER:AC,AQ,AWC,AWQ,AWX,AWZ,AX,AZ,BA,CA,CHA,DA,DHA,EC,EQ,EX,EZ,FA,FINAL NG,GA,GHA,HA,HTA,HTTA,IC,
IQ,IX,IZ,KA,KHA,LA,LONG UEX,MA,MC,MQ,MX,MZ,NA,NGA,NHA,NYA,OC,OQ,OX,OZ,PA,PHA,RA,SA,SHA,SHORT AWX,
SHORT UEZ,TA,THA,TSA,UC,UEC,UEQ,UEX,UEZ,UIC,UIQ,UIUC,UIUQ,UIUX,UIUZ,UIX,UIZ,UQ,UX,UZ,VC,VQ,VX,VZ,WA,
XA,YA,ZA
TELEPHONE:LOCATION SIGN,ON TOP OF MODEM,RECEIVER,RECEIVER WITH PAGE,RECORDER,SIGN
TELUGU:AI LENGTH MARK,LENGTH MARK
 DIGIT:EIGHT,FIVE,FOUR,NINE,ONE,SEVEN,SIX,THREE,TWO,ZERO
 FRACTION DIGIT:ONE FOR EVEN POWERS OF FOUR,ONE FOR ODD POWERS OF FOUR,
THREE FOR EVEN POWERS OF FOUR,THREE FOR ODD POWERS OF FOUR,TWO FOR EVEN POWERS OF FOUR,
TWO FOR ODD POWERS OF FOUR,ZERO FOR ODD POWERS OF FOUR
 LETTER:A,AA,AI,AU,BA,BHA,CA,CHA,DA,DDA,DDHA,DHA,DZA,E,EE,GA,GHA,HA,I,II,JA,JHA,KA,KHA,LA,LLA,LLLA,
MA,NA,NAKAARA POLLU,NGA,NNA,NYA,O,OO,PA,PHA,RA,RRA,RRRA,SA,SHA,SSA,TA,THA,TSA,TTA,TTHA,U,UU,VA,YA
  VOCALIC:L,LL,R,RR
 SIGN:ANUSVARA,AVAGRAHA,CANDRABINDU,COMBINING ANUSVARA ABOVE,COMBINING CANDRABINDU ABOVE,NUKTA,
SIDDHAM,TUUMU,VIRAMA,VISARGA
 VOWEL SIGN:AA,AI,AU,E,EE,I,II,O,OO,U,UU
  VOCALIC:L,LL,R,RR
TETRAGRAM FOR:ACCUMULATION,ADVANCE,AGGRAVATION,ASCENT,BARRIER,BOLD RESOLUTION,BRANCHING OUT,CENTRE,
CHANGE,CLOSED MOUTH,CLOSENESS,CLOSURE,COMPLETION,COMPLIANCE,CONSTANCY,CONTACT,CONTENTION,
CONTRARIETY,DARKENING,DECISIVENESS,DEFECTIVENESS OR DISTORTION,DEPARTURE,DIFFICULTIES,DIMINISHMENT,
DIMMING,DIVERGENCE,DOUBT,DUTIES,EASE,EMBELLISHMENT,ENCOUNTERS,ENDEAVOUR,ENLARGEMENT,ETERNITY,
EXHAUSTION,FAILURE,FLIGHT,FOLLOWING,FOSTERING,FULL CIRCLE,FULLNESS,GATHERING,GATHERING IN,
GOING TO MEET,GREATNESS,GUARDEDNESS,HARDNESS,HOLDING BACK,INCREASE,INNER,JOY,KEEPING SMALL,KINSHIP,
LABOURING,LAW OR MODEL,LEGION,MASSING,MEASURE,MIRED,ON THE VERGE,OPPOSITION,PACKING,PATTERN,
PENETRATION,PURITY,REACH,RELEASE,RESIDENCE,RESISTANCE,RESPONSE,RITUAL,SEVERANCE,SINKING,STOPPAGE,
STOVE,STRENGTH,UNITY,VASTNESS OR WASTING,WAITING,WATCH,YOUTHFULNESS
THAANA:AABAAFILI,ABAFILI,EBEFILI,EEBEEFILI,EYBEYFILI,IBIFILI,OABOAFILI,OBOFILI,OOBOOFILI,SUKUN,
UBUFILI
 LETTER:AINU,ALIFU,BAA,CHAVIYANI,DAADHU,DAVIYANI,DHAALU,FAAFU,GAAFU,GHAINU,GNAVIYANI,HAA,HHAA,
JAVIYANI,KAAFU,KHAA,LAAMU,LHAVIYANI,MEEMU,NAA,NOONU,PAVIYANI,QAAFU,RAA,SAADHU,SEENU,SHAVIYANI,
SHEENU,TAVIYANI,THAA,THAALU,TO,TTAA,VAAVU,WAAVU,YAA,ZAA,ZAVIYANI,ZO
THAI:CURRENCY SYMBOL BAHT
 CHARACTER:ANGKHANKHU,BO BAIMAI,DO CHADA,DO DEK,FO FA,FO FAN,FONGMAN,HO HIP,HO NOKHUK,KHOMUT,KO KAI,
LAKKHANGYAO,LO CHULA,LO LING,LU,MAITAIKHU,MAIYAMOK,MO MA,NGO NGU,NIKHAHIT,NO NEN,NO NU,O ANG,
PAIYANNOI,PHINTHU,PO PLA,RO RUA,RU,THANTHAKHAT,TO PATAK,TO TAO,WO WAEN,YAMAKKAN,YO YAK,YO YING
  CHO:CHAN,CHANG,CHING,CHOE
  KHO:KHAI,KHON,KHUAT,KHWAI,RAKHANG
  MAI:CHATTAWA,EK,HAN-AKAT,THO,TRI
  PHO:PHAN,PHUNG,SAMPHAO
  SARA:A,AA,AE,AI MAIMALAI,AI MAIMUAN,AM,E,I,II,O,U,UE,UEE,UU
  SO:RUSI,SALA,SO,SUA
  THO:NANGMONTHO,PHUTHAO,THAHAN,THAN,THONG,THUNG
 DIGIT:EIGHT,FIVE,FOUR,NINE,ONE,SEVEN,SIX,THREE,TWO,ZERO
THIN:GREEK CROSS,SALTIRE,SPACE
THREE:BUTTON MOUSE,CONSECUTIVE EQUALS SIGNS,DIMENSIONAL ANGLE,DOT PUNCTUATION,LEFTWARDS ARROWS,
LINES CONVERGING LEFT,LINES CONVERGING RIGHT,NETWORKED COMPUTERS,POINTED BLACK STAR,
RIGHTWARDS ARROWS,SPEECH BUBBLES
 RAYS:ABOVE,BELOW,LEFT,RIGHT
THREE-D:BOTTOM-LIGHTED RIGHTWARDS ARROWHEAD,LEFT-LIGHTED DOWNWARDS EQUILATERAL ARROWHEAD,
RIGHT-LIGHTED UPWARDS EQUILATERAL ARROWHEAD
 TOP-LIGHTED:LEFTWARDS EQUILATERAL ARROWHEAD,RIGHTWARDS ARROWHEAD,RIGHTWARDS EQUILATERAL ARROWHEAD
TIBETAN:KU RU KHA,KU RU KHA BZHI MIG CAN,LOGOTYPE SIGN CHAD RTAGS,LOGOTYPE SIGN LHAG RTAGS,
SYLLABLE OM
 ASTROLOGICAL SIGN:-KHYUD PA,SDONG TSHUGS,SGRA GCAN -CHAR RTAGS
 CANTILLATION SIGN:CANG TE-U,HEAVY BEAT,LIGHT BEAT,SBUB -CHAL
 DIGIT:EIGHT,FIVE,FOUR,NINE,ONE,SEVEN,SIX,THREE,TWO,ZERO
  HALF:EIGHT,FIVE,FOUR,NINE,ONE,SEVEN,SIX,THREE,TWO,ZERO
 LETTER:-A,A,BA,BHA,CA,CHA,DA,DDA,DDHA,DHA,DZA,DZHA,FIXED-FORM RA,GA,GHA,HA,JA,KA,KHA,KKA,KSSA,LA,
MA,NA,NGA,NNA,NYA,PA,PHA,RA,RRA,SA,SHA,SSA,TA,THA,TSA,TSHA,TTA,TTHA,WA,YA,ZA,ZHA
 MARK:ANG KHANG GYAS,ANG KHANG GYON,BKA- SHOG GI MGO RGYAN,BKA- SHOG YIG MGO,BSDUS RTAGS,
BSKA- SHOG GI MGO RGYAN,BSKUR YIG MGO,CHE MGO,CLOSING BRDA RNYING YIG MGO SGAB MA,
CLOSING YIG MGO SGAB MA,DELIMITER TSHEG BSTAR,GUG RTAGS GYAS,GUG RTAGS GYON,HALANTA,
INITIAL BRDA RNYING YIG MGO MDUN MA,INITIAL YIG MGO MDUN MA,INTERSYLLABIC TSHEG,LEADING MCHAN RTAGS,
MNYAM YIG GI MGO RGYAN,NGAS BZUNG NYI ZLA,NGAS BZUNG SGOR RTAGS,PALUTA,RGYA GRAM SHAD,
RIN CHEN SPUNGS SHAD,SBRUL SHAD,SHAD,TRAILING MCHAN RTAGS,TSA -PHRU,TSHEG SHAD,
YIG MGO TSHEG SHAD MA
  CARET:-DZUD RTAGS BZHI MIG CAN,-DZUD RTAGS ME LONG CAN,YIG MGO PHUR SHAD MA
  GTER:TSHEG
   YIG MGO:-UM GTER TSHEG MA,-UM RNAM BCAD MA,TRUNCATED A
  NYIS:SHAD,TSHEG,TSHEG SHAD
 SIGN:GRU CAN RGYINGS,GRU MED RGYINGS,INVERTED MCHU CAN,LCE TSA CAN,LCI RTAGS,MAR TSHES,MCHU CAN,
NYI ZLA NAA DA,RJES SU NGA RO,RNAM BCAD,SNA LDAN,YANG RTAGS,YAR TSHES
  RDEL:
   DKAR:GCIG,GNYIS,GSUM,RDEL NAG
   NAG:GCIG,GNYIS,GSUM,RDEL DKAR
 SUBJOINED:
  LETTER:-A,A,BA,BHA,CA,CHA,DA,DDA,DDHA,DHA,DZA,DZHA,GA,GHA,HA,JA,KA,KHA,KSSA,LA,MA,NA,NGA,NNA,NYA,
PA,PHA,RA,SA,SHA,SSA,TA,THA,TSA,TSHA,TTA,TTHA,WA,YA,ZA,ZHA
   FIXED-FORM:RA,WA,YA
  SIGN:INVERTED MCHU CAN,LCE TSA CAN,MCHU CAN
 SYMBOL:DRIL BU,NOR BU,PADMA GDAN,PHUR PA,RDO RJE,RDO RJE RGYA GRAM
  NOR BU:BZHI -KHYIL,GSUM -KHYIL,NYIS -KHYIL
 VOWEL SIGN:AA,E,EE,I,II,O,OO,REVERSED I,REVERSED II,U,UU
  VOCALIC:L,LL,R,RR
TIFINAGH:CONSONANT JOINER,MODIFIER LETTER LABIALIZATION MARK,SEPARATOR MARK
 LETTER:AHAGGAR YAZH,AYER YAGH,BERBER ACADEMY YAH,BERBER ACADEMY YAJ,TAWELLEMET YAZ,YA,YAA,YAB,YABH,
YACH,YAD,YADD,YADDH,YADH,YAF,YAG,YAGH,YAGHH,YAH,YAHH,YAJ,YAK,YAKH,YAKHH,YAL,YAM,YAN,YAP,YAQ,YAR,
YARR,YAS,YASH,YASS,YAT,YATH,YATT,YAV,YAW,YAY,YAZ,YAZH,YAZZ,YE,YEY,YI,YO,YU
  TUAREG:YAGH,YAGN,YAH,YAK,YAKH,YANG,YAQ,YAZH
TILDE:OPERATOR
 OPERATOR:ABOVE LEFTWARDS ARROW,ABOVE RIGHTWARDS ARROW,WITH DOT ABOVE,WITH RISING DOTS
 WITH:DOT ABOVE,DOT BELOW,RING ABOVE
TIRHUTA:ABBREVIATION SIGN,ANJI,GVANG,OM
 DIGIT:EIGHT,FIVE,FOUR,NINE,ONE,SEVEN,SIX,THREE,TWO,ZERO
 LETTER:A,AA,AI,AU,BA,BHA,CA,CHA,DA,DDA,DDHA,DHA,E,GA,GHA,HA,I,II,JA,JHA,KA,KHA,LA,MA,NA,NGA,NNA,
NYA,O,PA,PHA,RA,SA,SHA,SSA,TA,THA,TTA,TTHA,U,UU,VA,YA
  VOCALIC:L,LL,R,RR
 SIGN:ANUSVARA,AVAGRAHA,CANDRABINDU,NUKTA,VIRAMA,VISARGA
 VOWEL SIGN:AA,AI,AU,E,I,II,O,SHORT E,SHORT O,U,UU
  VOCALIC:L,LL,R,RR
TOP:CURLY BRACKET,HAT,PARENTHESIS,SQUARE BRACKET,TORTOISE SHELL BRACKET,WITH UPWARDS ARROW ABOVE
 ARC:ANTICLOCKWISE ARROW,ANTICLOCKWISE ARROW WITH PLUS,CLOCKWISE ARROW WITH MINUS
 HALF:BLACK CIRCLE,INTEGRAL,LEFT PARENTHESIS,RIGHT PARENTHESIS,SECTION SIGN
 LEFT:CORNER,CROP,HALF BRACKET
 RIGHT:CORNER,CROP,HALF BRACKET
TORTOISE SHELL BRACKETED:LATIN CAPITAL LETTER S
 CJK UNIFIED:IDEOGRAPH-4E09,IDEOGRAPH-4E8C,IDEOGRAPH-52DD,IDEOGRAPH-5B89,IDEOGRAPH-6253,
IDEOGRAPH-6557,IDEOGRAPH-672C,IDEOGRAPH-70B9,IDEOGRAPH-76D7
TOTO:SIGN RISING TONE
 LETTER:A,AE,BA,CHA,DA,E,EO,GA,HA,I,IU,JA,KA,LA,MA,NA,NGA,O,PA,RA,SA,TA,U,WA,YA
  BREATHY:AE,E,EO,I,IU
TRIANGLE WITH:DOT ABOVE,ROUNDED CORNERS,SERIFS AT BOTTOM,UNDERBAR
TRIANGULAR:BULLET,FLAG ON POST,RULER
TRIGRAM FOR:EARTH,FIRE,HEAVEN,LAKE,MOUNTAIN,THUNDER,WATER,WIND
TRIPLE:COLON OPERATOR,DAGGER,HORIZONTAL BAR WITH DOUBLE VERTICAL STROKE,
HORIZONTAL BAR WITH TRIPLE VERTICAL STROKE,INTEGRAL,NESTED GREATER-THAN,NESTED LESS-THAN,PLUS,PRIME,
SOLIDUS BINARY RELATION,TILDE
 VERTICAL BAR:BINARY RELATION,DELIMITER,RIGHT TURNSTILE,WITH HORIZONTAL STROKE
TURNED:AMPERSAND,ANGLE,BLACK PENTAGON,BLACK SHOGI PIECE,CAPITAL F,COMMA,DAGGER,DIGIT THREE,
DIGIT TWO,GREEK SMALL LETTER IOTA,NORTH EAST POINTING LEAF,NORTH WEST POINTING LEAF,NOT SIGN,
OK HAND SIGN,SEMICOLON,SMALL F,SOUTH EAST POINTING LEAF,SOUTH WEST POINTING LEAF,WHITE SHOGI PIECE
 SANS-SERIF CAPITAL:G,L,Y
TWO:ASTERISKS ALIGNED VERTICALLY,BUTTON MOUSE,CONSECUTIVE EQUALS SIGNS,DOT LEADER,DOT PUNCTUATION,
DOTS OVER ONE DOT PUNCTUATION,HEARTS,INTERSECTING LOGICAL AND,INTERSECTING LOGICAL OR,
JOINED SQUARES,LOGICAL AND OPERATOR,LOGICAL OR OPERATOR,MEN HOLDING HANDS,SPEECH BUBBLES,
WOMEN HOLDING HANDS
UGARITIC:WORD DIVIDER
 LETTER:AIN,ALPA,BETA,DELTA,DHAL,GAMLA,GHAIN,HO,HOTA,I,KAF,KHA,LAMDA,MEM,NUN,PU,QOPA,RASHA,SADE,
SAMKA,SHIN,SSU,TET,THANNA,TO,U,WO,YOD,ZETA,ZU
UNION:ABOVE BAR ABOVE INTERSECTION,ABOVE INTERSECTION,BESIDE AND JOINED WITH UNION
 WITH:LOGICAL OR,MINUS SIGN,OVERBAR
UP:ARROW THROUGH CIRCLE,ARROWHEAD,ARROWHEAD BETWEEN TWO HORIZONTAL BARS,
ARROWHEAD IN A RECTANGLE BOX,FISH TAIL,RIGHT DIAGONAL ELLIPSIS,TACK,TACK WITH CIRCLE ABOVE
 BARB:LEFT DOWN BARB LEFT HARPOON,LEFT DOWN BARB RIGHT HARPOON,RIGHT DOWN BARB LEFT HARPOON,
RIGHT DOWN BARB RIGHT HARPOON
 DOWN:ARROW,ARROW WITH BASE,BLACK ARROW,DOUBLE ARROW,SANS-SERIF ARROW,TRIANGLE-HEADED ARROW,
WHITE ARROW
UP-POINTING:AIRPLANE,MILITARY AIRPLANE,RED TRIANGLE,SMALL AIRPLANE,SMALL RED TRIANGLE,
TRIANGLE WITH LEFT HALF BLACK,TRIANGLE WITH RIGHT HALF BLACK
UPPER:BLADE SCISSORS,FIVE EIGHTHS BLOCK,ONE EIGHTH BLOCK,ONE QUARTER BLOCK,SEVEN EIGHTHS BLOCK,
THREE EIGHTHS BLOCK,THREE QUARTERS BLOCK,TRIANGULAR ONE QUARTER BLOCK
 AND:LEFT AND LOWER TRIANGULAR THREE QUARTERS BLOCK,LOWER ONE EIGHTH BLOCK,
LOWER TRIANGULAR HALF BLOCK,RIGHT AND LOWER TRIANGULAR THREE QUARTERS BLOCK
 HALF:BLOCK,BLOCK AND LOWER HALF INVERSE MEDIUM SHADE,CIRCLE,
INVERSE MEDIUM SHADE AND LOWER HALF BLOCK,INVERSE WHITE CIRCLE,MEDIUM SHADE
 LEFT:CORNER WITH DOT,OR LOWER RIGHT CURLY BRACKET SECTION,QUADRANT CIRCULAR ARC,
TO LOWER RIGHT FILL,TRIANGLE,TRIANGULAR MEDIUM SHADE
  BLOCK DIAGONAL:UPPER MIDDLE LEFT TO UPPER CENTRE,UPPER MIDDLE LEFT TO UPPER RIGHT
   LOWER:
    CENTRE TO:LOWER MIDDLE RIGHT,UPPER MIDDLE RIGHT,UPPER RIGHT
    LEFT TO:LOWER MIDDLE RIGHT,UPPER CENTRE,UPPER MIDDLE RIGHT
    MIDDLE LEFT TO UPPER:CENTRE,MIDDLE RIGHT,RIGHT
 RIGHT:DROP-SHADOWED WHITE SQUARE,OR LOWER LEFT CURLY BRACKET SECTION,PENCIL,QUADRANT CIRCULAR ARC,
SHADOWED WHITE CIRCLE,SHADOWED WHITE SQUARE,TO LOWER LEFT FILL,TRIANGLE,TRIANGULAR MEDIUM SHADE
  BLOCK DIAGONAL:LOWER MIDDLE LEFT TO LOWER CENTRE,LOWER MIDDLE LEFT TO LOWER RIGHT
   UPPER:
    CENTRE TO:LOWER MIDDLE RIGHT,LOWER RIGHT,UPPER MIDDLE RIGHT
    LEFT TO:LOWER CENTRE,LOWER MIDDLE RIGHT,UPPER MIDDLE RIGHT
    MIDDLE LEFT TO LOWER:CENTRE,MIDDLE RIGHT,RIGHT
UPWARDS:ANCORA,ARROW,BLACK ARROW,BLACK CIRCLED WHITE ARROW,COMPRESSED ARROW,DASHED ARROW,
DOUBLE ARROW,FINGER-POST ARROW,HEAVY ARROW,HEAVY COMPRESSED ARROW,PAIRED ARROWS,QUADRUPLE ARROW,
ROCKET,SANS-SERIF ARROW,SQUARED ARROW,TRIANGLE ARROWHEAD,TRIPLE ARROW,TWO HEADED ARROW,
TWO-HEADED ARROW FROM SMALL CIRCLE,TWO-HEADED ARROW WITH TRIANGLE ARROWHEADS
 ARROW:AND RIGHT ONE EIGHTH BLOCK,FROM BAR,LEFTWARDS OF DOWNWARDS ARROW,TO BAR
  WITH:DOUBLE STROKE,EQUILATERAL ARROWHEAD,HORIZONTAL STROKE,LARGE TRIANGLE ARROWHEAD,
MEDIUM TRIANGLE ARROWHEAD,NOTCHED TAIL,SMALL EQUILATERAL ARROWHEAD,SMALL TRIANGLE ARROWHEAD,
TIP LEFTWARDS,TIP RIGHTWARDS
 HARPOON WITH BARB:LEFTWARDS,RIGHT FROM BAR,RIGHT TO BAR,RIGHTWARDS
  LEFT:BESIDE DOWNWARDS HARPOON WITH BARB RIGHT,BESIDE UPWARDS HARPOON WITH BARB RIGHT,FROM BAR,
TO BAR
 TRIANGLE-HEADED:ARROW,DASHED ARROW,PAIRED ARROWS
  ARROW:LEFTWARDS OF DOWNWARDS TRIANGLE-HEADED ARROW,TO BAR
   WITH:BOLD SHAFT,DOUBLE HORIZONTAL STROKE,HEAVY SHAFT,LONG TIP LEFTWARDS,LONG TIP RIGHTWARDS,
MEDIUM SHAFT,NARROW SHAFT,VERY HEAVY SHAFT
 WHITE:ARROW,DOUBLE ARROW,DOUBLE ARROW ON PEDESTAL
  ARROW:FROM BAR,FROM BAR WITH HORIZONTAL BAR,ON PEDESTAL,ON PEDESTAL WITH HORIZONTAL BAR,
ON PEDESTAL WITH VERTICAL BAR,WITHIN TRIANGLE ARROWHEAD
VAI:COMMA,FULL STOP,QUESTION MARK
 DIGIT:EIGHT,FIVE,FOUR,NINE,ONE,SEVEN,SIX,THREE,TWO,ZERO
 SYLLABLE:A,AN,BA,BE,BEE,BHA,BHE,BHEE,BHI,BHO,BHOO,BHU,BI,BO,BOO,BU,CA,CE,CEE,CI,CO,COO,CU,DA,DE,
DEE,DHA,DHE,DHEE,DHHA,DHHE,DHHEE,DHHI,DHHO,DHHOO,DHHU,DHI,DHO,DHOO,DHU,DI,DO,DOO,DU,E,EE,EEN,EN,FA,
FE,FEE,FI,FO,FOO,FU,GA,GBA,GBE,GBEE,GBEN,GBI,GBO,GBON,GBOO,GBU,GE,GEE,GEN,GI,GO,GOO,GU,HA,HAN,HE,
HEE,HEN,HI,HIN,HO,HON,HOO,HU,HUN,I,IN,JA,JE,JEE,JI,JO,JOO,JU,KA,KAN,KE,KEE,KI,KO,KOO,KPA,KPAN,KPE,
KPEE,KPEN,KPI,KPO,KPOO,KPU,KU,LA,LE,LEE,LENGTHENER,LI,LO,LOO,LU,MA,MBA,MBE,MBEE,MBI,MBO,MBOO,MBU,ME,
MEE,MGBA,MGBE,MGBEE,MGBI,MGBO,MGBOO,MGBU,MI,MO,MOO,MU,NA,NDA,NDE,NDEE,NDI,NDO,NDOO,NDU,NE,NEE,NG,
NGAN,NGEN,NGGA,NGGE,NGGEE,NGGEN,NGGI,NGGO,NGGOO,NGGU,NGON,NI,NJA,NJE,NJEE,NJI,NJO,NJOO,NJU,NO,NOO,
NU,NYA,NYE,NYEE,NYI,NYO,NYOO,NYU,O,ON,OO,OON,PA,PE,PEE,PI,PO,POO,PU,RA,RE,REE,RI,RO,ROO,RU,SA,SE,
SEE,SHA,SHE,SHEE,SHI,SHO,SHOO,SHU,SI,SO,SOO,SU,TA,TE,TEE,THA,THE,THEE,THI,THO,THOO,THU,TI,TO,TOO,TU,
U,UN,VA,VE,VEE,VI,VO,VOO,VU,WA,WAN,WE,WEE,WEEN,WEN,WI,WIN,WO,WON,WOO,WOON,WU,WUN,YA,YE,YEE,YI,YO,
YOO,YU,ZA,ZE,ZEE,ZHA,ZHE,ZHEE,ZHI,ZHO,ZHOO,ZHU,ZI,ZO,ZOO,ZU
  NDOLE:DO,FA,KA,MA,SOO
 SYMBOL:BANG,DANG,DO-O,DOONG,FAA,FEENG,JONG,KEENG,KUNG,NII,TAA,TING,TONG
VEDIC:
 SIGN:ARDHAVISARGA,ATIKRAMA,DOUBLE ANUSVARA ANTARGOMUKHA,HEXIFORM LONG ANUSVARA,JIHVAMULIYA,
LONG ANUSVARA,NIHSHVASA,REVERSED VISARGA ANUDATTA,REVERSED VISARGA UDATTA,ROTATED ARDHAVISARGA,
RTHANG LONG ANUSVARA,TIRYAK,UPADHMANIYA,YAJURVEDIC MIDLINE SVARITA
  ANUSVARA:ANTARGOMUKHA,BAHIRGOMUKHA,UBHAYATO MUKHA,VAMAGOMUKHA,VAMAGOMUKHA WITH TAIL
  VISARGA:ANUDATTA,ANUDATTA WITH TAIL,SVARITA,UDATTA,UDATTA WITH TAIL
 TONE:ATHARVAVEDIC INDEPENDENT SVARITA,CANDRA ABOVE,CANDRA BELOW,DOT BELOW,DOUBLE RING ABOVE,
DOUBLE SVARITA,KARSHANA,KATHAKA ANUDATTA,PRENKHA,RIGVEDIC KASHMIRI INDEPENDENT SVARITA,RING ABOVE,
SHARA,THREE DOTS BELOW,TRIPLE SVARITA,TWO DOTS BELOW
  YAJURVEDIC:AGGRAVATED INDEPENDENT SVARITA,INDEPENDENT SVARITA,KATHAKA INDEPENDENT SVARITA,
KATHAKA INDEPENDENT SVARITA SCHROEDER
VERTICAL:ELLIPSIS,FOUR DOTS,IDEOGRAPHIC ITERATION MARK,LINE,MALE WITH STROKE SIGN,SIX DOTS,TAB KEY,
TABULATION,TABULATION SET,TILDE,TRAFFIC LIGHT,ZIGZAG LINE
 BAR:BESIDE RIGHT TRIANGLE,DOUBLE LEFT TURNSTILE,TRIPLE RIGHT TURNSTILE,WITH HORIZONTAL STROKE
 KANA REPEAT:MARK,MARK LOWER HALF,MARK UPPER HALF,WITH VOICED SOUND MARK,
WITH VOICED SOUND MARK UPPER HALF
 LINE:EXTENSION
  WITH:CIRCLE ABOVE,CIRCLE BELOW,MIDDLE DOT
 ONE EIGHTH:BLOCK-2,BLOCK-3,BLOCK-4,BLOCK-5,BLOCK-6,BLOCK-7
VERY:BOLD GREEK CROSS,MUCH GREATER-THAN,MUCH LESS-THAN
 HEAVY:EIGHT POINTED BLACK STAR,EIGHT SPOKED ASTERISK,FIVE SPOKED ASTERISK,GREEK CROSS,
REVERSE SOLIDUS,SALTIRE,SIX SPOKED ASTERISK,SOLIDUS,WHITE CIRCLE,WHITE SQUARE
VITHKUQI:
 CAPITAL LETTER:A,BBE,BE,CE,CHE,DE,DHE,E,EI,FE,GA,HA,HHA,I,IJE,JE,KA,LA,LLA,ME,NE,NJE,O,PE,QA,RE,SE,
SHE,TE,THE,U,VE,XE,Y,ZE
 SMALL LETTER:A,BBE,BE,CE,CHE,DE,DHE,E,EI,FE,GA,HA,HHA,I,IJE,JE,KA,LA,LLA,ME,NE,NJE,O,PE,QA,RE,SE,
SHE,TE,THE,U,VE,XE,Y,ZE
VULGAR FRACTION:FIVE EIGHTHS,FIVE SIXTHS,FOUR FIFTHS,SEVEN EIGHTHS,TWO FIFTHS,TWO THIRDS,
ZERO THIRDS
 ONE:EIGHTH,FIFTH,HALF,NINTH,QUARTER,SEVENTH,SIXTH,TENTH,THIRD
 THREE:EIGHTHS,FIFTHS,QUARTERS
WANCHO:NGUN SIGN
 DIGIT:EIGHT,FIVE,FOUR,NINE,ONE,SEVEN,SIX,THREE,TWO,ZERO
 LETTER:A,AA,AAN,AANG,ANG,AU,BA,CA,DA,E,EN,FA,GA,HA,I,ING,JA,KA,KHA,LA,LLHA,MA,NA,NGA,NYA,O,ON,ONG,
PA,PHA,RA,SA,SHA,TA,THA,TRA,TSA,U,UEN,VA,WA,YA,YIH,ZA
 TONE:KOI,KOINI,TUP,TUPNI
WARANG CITI:OM
 CAPITAL LETTER:A,AM,ANG,AT,BU,DA,E,ENN,ENY,GA,HAR,HIYO,HOLO,HORR,II,KO,NGAA,NUNG,O,ODD,PU,SII,SSUU,
TTE,UC,UU,VIYO,WI,YA,YO,YU,YUJ
 DIGIT:EIGHT,FIVE,FOUR,NINE,ONE,SEVEN,SIX,THREE,TWO,ZERO
 NUMBER:EIGHTY,FIFTY,FORTY,NINETY,SEVENTY,SIXTY,TEN,THIRTY,TWENTY
 SMALL LETTER:A,AM,ANG,AT,BU,DA,E,ENN,ENY,GA,HAR,HIYO,HOLO,HORR,II,KO,NGAA,NUNG,O,ODD,PU,SII,SSUU,
TTE,UC,UU,VIYO,WI,YA,YO,YU,YUJ
WATER:BUFFALO,CLOSET,POLO,WAVE
WAVE:ARROW POINTING DIRECTLY LEFT,ARROW POINTING DIRECTLY RIGHT,DASH
WAVING:BLACK FLAG,HAND SIGN,WHITE FLAG
WAVY:DASH,LINE,LOW LINE,OVERLINE
WHITE:ARROW SHAFT WIDTH ONE,ARROW SHAFT WIDTH TWO THIRDS,BULLET,CIRCLE,CLUB SUIT,
CONCAVE-SIDED DIAMOND,CONCAVE-SIDED DIAMOND WITH LEFTWARDS TICK,
CONCAVE-SIDED DIAMOND WITH RIGHTWARDS TICK,DIAMOND,DOWN-POINTING SMALL TRIANGLE,
DOWN-POINTING TRIANGLE,DRAUGHTS KING,DRAUGHTS MAN,EXCLAMATION MARK ORNAMENT,FLAG,
FLAG WITH HORIZONTAL MIDDLE BLACK STRIPE,FLORETTE,FLOWER,FOUR POINTED CUSP,FOUR POINTED STAR,
FROWNING FACE,HARD SHELL FLOPPY DISK,HEART,HEART SUIT,HEAVY CHECK MARK,
HEAVY SALTIRE WITH ROUNDED CORNERS,HEXAGON,HORIZONTAL ELLIPSE,HOURGLASS,LARGE SQUARE,LATIN CROSS,
LOZENGE CONTAINING BLACK SMALL LOZENGE,MOON SELENA,NIB,PARALLELOGRAM,PENNANT,PENTAGON,
QUESTION MARK ORNAMENT,RECTANGLE,RIGHT POINTING BACKHAND INDEX,RIGHT POINTING INDEX,SCISSORS,
SESAME DOT,SHOGI PIECE,SMILING FACE,SPADE SUIT,SQUARE,STAR,SUN,TELEPHONE,TOUCHTONE TELEPHONE,
TRAPEZIUM,TRIANGLE CONTAINING SMALL WHITE TRIANGLE,TWO-WAY LEFT WAY TRAFFIC,
UP POINTING BACKHAND INDEX,UP POINTING INDEX,VERY SMALL SQUARE
 CHESS:BISHOP,BISHOP ROTATED NINETY DEGREES,BISHOP ROTATED TWO HUNDRED SEVENTY DEGREES,EQUIHOPPER,
EQUIHOPPER ROTATED NINETY DEGREES,KING,KING ROTATED NINETY DEGREES,
KING ROTATED TWO HUNDRED SEVENTY DEGREES,KNIGHT,KNIGHT-BISHOP,KNIGHT-QUEEN,KNIGHT-ROOK,PAWN,
PAWN ROTATED NINETY DEGREES,PAWN ROTATED TWO HUNDRED SEVENTY DEGREES,QUEEN,
QUEEN ROTATED NINETY DEGREES,QUEEN ROTATED TWO HUNDRED SEVENTY DEGREES,ROOK,
ROOK ROTATED NINETY DEGREES,ROOK ROTATED TWO HUNDRED SEVENTY DEGREES
  KNIGHT ROTATED:FORTY-FIVE DEGREES,NINETY DEGREES,ONE HUNDRED THIRTY-FIVE DEGREES,
THREE HUNDRED FIFTEEN DEGREES,TWO HUNDRED SEVENTY DEGREES,TWO HUNDRED TWENTY-FIVE DEGREES
  TURNED:BISHOP,KING,KNIGHT,PAWN,QUEEN,ROOK
 CIRCLE:CONTAINING BLACK SMALL CIRCLE
  WITH:DOT RIGHT,DOWN ARROW,LOWER LEFT QUADRANT,LOWER RIGHT QUADRANT,TWO DOTS,UPPER LEFT QUADRANT,
UPPER RIGHT QUADRANT
 DIAMOND:IN SQUARE,SUIT,WITH CENTRED DOT
  CONTAINING BLACK:MEDIUM DIAMOND,SMALL DIAMOND,VERY SMALL DIAMOND
 DOWN POINTING:BACKHAND INDEX,INDEX,LEFT HAND INDEX
 LEFT:LANE MERGE,POINTING BACKHAND INDEX,POINTING INDEX
 LEFT-POINTING:POINTER,SMALL TRIANGLE,TRIANGLE
 MEDIUM:DIAMOND,LOZENGE,SMALL SQUARE,SQUARE,STAR
 RIGHT-POINTING:PENTAGON,POINTER,SMALL TRIANGLE,TRIANGLE
 SMALL:LOZENGE,SQUARE,STAR
 SQUARE:BUTTON
  CONTAINING BLACK:MEDIUM SQUARE,SMALL SQUARE,VERY SMALL SQUARE
  WITH:CENTRE VERTICAL LINE,LEFTWARDS TICK,LOWER LEFT QUADRANT,LOWER RIGHT QUADRANT,RIGHTWARDS TICK,
ROUNDED CORNERS,UPPER LEFT QUADRANT,UPPER RIGHT QUADRANT,VERTICAL BISECTING LINE
 SUN:BEHIND CLOUD,BEHIND CLOUD WITH RAIN,WITH RAYS,WITH SMALL CLOUD
 UP-POINTING:CHEVRON,SMALL TRIANGLE,TRIANGLE,TRIANGLE WITH DOT
 VERTICAL:BAR,ELLIPSE,RECTANGLE
WIDE-HEADED:
 DOWNWARDS:BARB ARROW,HEAVY BARB ARROW,LIGHT BARB ARROW,MEDIUM BARB ARROW,VERY HEAVY BARB ARROW
 LEFTWARDS:BARB ARROW,HEAVY BARB ARROW,LIGHT BARB ARROW,MEDIUM BARB ARROW,VERY HEAVY BARB ARROW
 NORTH:
  EAST:BARB ARROW,HEAVY BARB ARROW,LIGHT BARB ARROW,MEDIUM BARB ARROW,VERY HEAVY BARB ARROW
  WEST:BARB ARROW,HEAVY BARB ARROW,LIGHT BARB ARROW,MEDIUM BARB ARROW,VERY HEAVY BARB ARROW
 RIGHTWARDS:BARB ARROW,HEAVY BARB ARROW,LIGHT BARB ARROW,MEDIUM BARB ARROW,VERY HEAVY BARB ARROW
 SOUTH:
  EAST:BARB ARROW,HEAVY BARB ARROW,LIGHT BARB ARROW,MEDIUM BARB ARROW,VERY HEAVY BARB ARROW
  WEST:BARB ARROW,HEAVY BARB ARROW,LIGHT BARB ARROW,MEDIUM BARB ARROW,VERY HEAVY BARB ARROW
 UPWARDS:BARB ARROW,HEAVY BARB ARROW,LIGHT BARB ARROW,MEDIUM BARB ARROW,VERY HEAVY BARB ARROW
WOMANS:BOOTS,CLOTHES,HAT,SANDAL
XIANGQI:
 BLACK:CANNON,CHARIOT,ELEPHANT,GENERAL,HORSE,MANDARIN,SOLDIER
 RED:CANNON,CHARIOT,ELEPHANT,GENERAL,HORSE,MANDARIN,SOLDIER
YEZIDI:COMBINING HAMZA MARK,COMBINING MADDA MARK,HYPHENATION MARK
 LETTER:BE,CHHIM,CHIM,CIM,DAD,DAL,ELIF,ET,EW,EYN,FA,GAF,HAY,HHA,JA,KAF,KHAF,LAM,LAM WITH DOT ABOVE,
MIM,NUN,OW,PE,PHE,QAF,RA,RHA,SAD,SE,SHIN,SIN,TA,THE,UM,VA,VA ALTERNATE FORM,WAW,XA,XHEYN,YOT,
YOT WITH CIRCUMFLEX ABOVE,ZA,ZAL,ZE
YI:
 RADICAL:BBUT,BUR,CHE,CIP,CUOP,CY,CYP,CYT,DDUR,DU,GA,GEP,GGOP,GGUO,GOT,HMO,HXIT,HXOP,HXUO,JJIE,JJUT,
JJY,JO,KE,KIT,LI,LIE,LYR,MI,MOP,NBIE,NYIP,NYOP,NZUP,OP,PUT,PYT,QOT,SHAT,SHOP,SHUR,SHY,SSI,TAT,TU,
VEP,VUR,WO,YIT,YO,ZA,ZOT,ZUP,ZUR,ZZIET
 SYLLABLE:A,AP,AT,AX,BA,BAP,BAT,BAX,BBA,BBAP,BBAT,BBAX,BBE,BBEP,BBEX,BBI,BBIE,BBIEP,BBIET,BBIEX,
BBIP,BBIT,BBIX,BBO,BBOP,BBOT,BBOX,BBU,BBUO,BBUOP,BBUOX,BBUP,BBUR,BBURX,BBUT,BBUX,BBY,BBYP,BBYT,BBYX,
BE,BEP,BEX,BI,BIE,BIEP,BIET,BIEX,BIP,BIT,BIX,BO,BOP,BOT,BOX,BU,BUO,BUOP,BUOX,BUP,BUR,BURX,BUT,BUX,
BY,BYP,BYR,BYRX,BYT,BYX,CA,CAP,CAT,CAX,CE,CEP,CEX,CHA,CHAP,CHAT,CHAX,CHE,CHEP,CHET,CHEX,CHO,CHOP,
CHOT,CHOX,CHU,CHUO,CHUOP,CHUOT,CHUOX,CHUP,CHUR,CHURX,CHUX,CHY,CHYP,CHYR,CHYRX,CHYT,CHYX,CI,CIE,CIEP,
CIET,CIEX,CIP,CIT,CIX,CO,COP,COT,COX,CU,CUO,CUOP,CUOX,CUP,CUR,CURX,CUT,CUX,CY,CYP,CYR,CYRX,CYT,CYX,
DA,DAP,DAT,DAX,DDA,DDAP,DDAT,DDAX,DDE,DDEP,DDEX,DDI,DDIE,DDIEP,DDIEX,DDIP,DDIT,DDIX,DDO,DDOP,DDOT,
DDOX,DDU,DDUO,DDUOP,DDUOX,DDUP,DDUR,DDURX,DDUT,DDUX,DE,DEP,DEX,DI,DIE,DIEP,DIEX,DIP,DIT,DIX,DO,DOP,
DOT,DOX,DU,DUO,DUOX,DUP,DUR,DURX,DUT,DUX,E,EX,FA,FAP,FAT,FAX,FI,FIP,FIT,FIX,FO,FOP,FOX,FU,FUP,FUR,
FURX,FUT,FUX,FY,FYP,FYT,FYX,GA,GAP,GAT,GAX,GE,GEP,GET,GEX,GGA,GGAP,GGAT,GGAX,GGE,GGEP,GGET,GGEX,GGI,
GGIE,GGIEP,GGIEX,GGIT,GGIX,GGO,GGOP,GGOT,GGOX,GGU,GGUO,GGUOP,GGUOT,GGUOX,GGUP,GGUR,GGURX,GGUT,GGUX,
GI,GIE,GIEP,GIET,GIEX,GIP,GIT,GIX,GO,GOP,GOT,GOX,GU,GUO,GUOP,GUOT,GUOX,GUP,GUR,GURX,GUT,GUX,HA,HAP,
HAT,HAX,HE,HEP,HEX,HIE,HIEX,HIT,HLA,HLAP,HLAT,HLAX,HLE,HLEP,HLEX,HLI,HLIE,HLIEP,HLIEX,HLIP,HLIT,
HLIX,HLO,HLOP,HLOX,HLU,HLUO,HLUOP,HLUOX,HLUP,HLUR,HLURX,HLUT,HLUX,HLY,HLYP,HLYR,HLYRX,HLYT,HLYX,HMA,
HMAP,HMAT,HMAX,HMI,HMIE,HMIEP,HMIEX,HMIP,HMIT,HMIX,HMO,HMOP,HMOT,HMOX,HMU,HMUO,HMUOP,HMUOX,HMUP,
HMUR,HMURX,HMUT,HMUX,HMY,HMYP,HMYR,HMYRX,HMYX,HNA,HNAP,HNAT,HNAX,HNE,HNEP,HNEX,HNI,HNIE,HNIEP,HNIET,
HNIEX,HNIP,HNIT,HNIX,HNOP,HNOT,HNOX,HNUO,HNUOX,HNUT,HO,HOP,HOT,HOX,HUO,HUOP,HUOT,HUOX,HXA,HXAP,HXAT,
HXAX,HXE,HXEP,HXEX,HXI,HXIE,HXIEP,HXIET,HXIEX,HXIP,HXIT,HXIX,HXO,HXOP,HXOT,HXOX,HXUO,HXUOP,HXUOT,
HXUOX,I,IE,IEP,IET,IEX,IP,IT,ITERATION MARK,IX,JI,JIE,JIEP,JIET,JIEX,JIP,JIT,JIX,JJI,JJIE,JJIEP,
JJIET,JJIEX,JJIP,JJIT,JJIX,JJO,JJOP,JJOT,JJOX,JJU,JJUO,JJUOP,JJUOX,JJUP,JJUR,JJURX,JJUT,JJUX,JJY,
JJYP,JJYT,JJYX,JO,JOP,JOT,JOX,JU,JUO,JUOP,JUOT,JUOX,JUP,JUR,JURX,JUT,JUX,JY,JYP,JYR,JYRX,JYT,JYX,KA,
KAP,KAT,KAX,KE,KEP,KET,KEX,KI,KIE,KIEP,KIEX,KIP,KIT,KIX,KO,KOP,KOT,KOX,KU,KUO,KUOP,KUOX,KUP,KUR,
KURX,KUT,KUX,LA,LAP,LAT,LAX,LE,LEP,LEX,LI,LIE,LIEP,LIET,LIEX,LIP,LIT,LIX,LO,LOP,LOT,LOX,LU,LUO,LUOP,
LUOT,LUOX,LUP,LUR,LURX,LUT,LUX,LY,LYP,LYR,LYRX,LYT,LYX,MA,MAP,MAT,MAX,ME,MEX,MGA,MGAP,MGAT,MGAX,MGE,
MGEP,MGEX,MGIE,MGIEX,MGO,MGOP,MGOT,MGOX,MGU,MGUO,MGUOP,MGUOX,MGUP,MGUR,MGURX,MGUT,MGUX,MI,MIE,MIEP,
MIEX,MIP,MIT,MIX,MO,MOP,MOT,MOX,MU,MUO,MUOP,MUOT,MUOX,MUP,MUR,MURX,MUT,MUX,MY,MYP,MYT,MYX,NA,NAP,
NAX,NBA,NBAP,NBAT,NBAX,NBI,NBIE,NBIEP,NBIEX,NBIP,NBIT,NBIX,NBO,NBOP,NBOT,NBOX,NBU,NBUP,NBUR,NBURX,
NBUT,NBUX,NBY,NBYP,NBYR,NBYRX,NBYT,NBYX,NDA,NDAP,NDAT,NDAX,NDE,NDEP,NDEX,NDI,NDIE,NDIEX,NDIP,NDIT,
NDIX,NDO,NDOP,NDOT,NDOX,NDU,NDUP,NDUR,NDURX,NDUT,NDUX,NE,NEP,NEX,NGA,NGAP,NGAT,NGAX,NGE,NGEP,NGEX,
NGIE,NGIEP,NGIEX,NGO,NGOP,NGOT,NGOX,NGUO,NGUOT,NGUOX,NI,NIE,NIEP,NIEX,NIP,NIT,NIX,NJI,NJIE,NJIEP,
NJIET,NJIEX,NJIP,NJIT,NJIX,NJO,NJOP,NJOT,NJOX,NJU,NJUO,NJUOX,NJUP,NJUR,NJURX,NJUX,NJY,NJYP,NJYR,
NJYRX,NJYT,NJYX,NO,NOP,NOT,NOX,NRA,NRAP,NRAT,NRAX,NRE,NREP,NRET,NREX,NRO,NROP,NROX,NRU,NRUP,NRUR,
NRURX,NRUT,NRUX,NRY,NRYP,NRYR,NRYRX,NRYT,NRYX,NU,NUO,NUOP,NUOX,NUP,NUR,NURX,NUT,NUX,NYI,NYIE,NYIEP,
NYIET,NYIEX,NYIP,NYIT,NYIX,NYO,NYOP,NYOT,NYOX,NYU,NYUO,NYUOP,NYUOX,NYUP,NYUT,NYUX,NZA,NZAP,NZAT,
NZAX,NZE,NZEX,NZI,NZIE,NZIEP,NZIEX,NZIP,NZIT,NZIX,NZOP,NZOX,NZU,NZUO,NZUOX,NZUP,NZUR,NZURX,NZUX,NZY,
NZYP,NZYR,NZYRX,NZYT,NZYX,O,OP,OT,OX,PA,PAP,PAT,PAX,PI,PIE,PIEP,PIEX,PIP,PIT,PIX,PO,POP,POT,POX,PU,
PUO,PUOP,PUOX,PUP,PUR,PURX,PUT,PUX,PY,PYP,PYR,PYRX,PYT,PYX,QI,QIE,QIEP,QIET,QIEX,QIP,QIT,QIX,QO,QOP,
QOT,QOX,QU,QUO,QUOP,QUOT,QUOX,QUP,QUR,QURX,QUT,QUX,QY,QYP,QYR,QYRX,QYT,QYX,RA,RAP,RAT,RAX,RE,REP,
REX,RO,ROP,ROT,ROX,RRA,RRAX,RRE,RREP,RRET,RREX,RRO,RROP,RROT,RROX,RRU,RRUO,RRUOX,RRUP,RRUR,RRURX,
RRUT,RRUX,RRY,RRYP,RRYR,RRYRX,RRYT,RRYX,RU,RUO,RUOP,RUOX,RUP,RUR,RURX,RUT,RUX,RY,RYP,RYR,RYRX,RYT,
RYX,SA,SAP,SAT,SAX,SE,SEP,SEX,SHA,SHAP,SHAT,SHAX,SHE,SHEP,SHET,SHEX,SHO,SHOP,SHOT,SHOX,SHU,SHUO,
SHUOP,SHUOX,SHUP,SHUR,SHURX,SHUT,SHUX,SHY,SHYP,SHYR,SHYRX,SHYT,SHYX,SI,SIE,SIEP,SIEX,SIP,SIT,SIX,SO,
SOP,SOT,SOX,SSA,SSAP,SSAT,SSAX,SSE,SSEP,SSEX,SSI,SSIE,SSIEP,SSIEX,SSIP,SSIT,SSIX,SSO,SSOP,SSOT,SSOX,
SSU,SSUP,SSUT,SSUX,SSY,SSYP,SSYR,SSYRX,SSYT,SSYX,SU,SUO,SUOP,SUOX,SUP,SUR,SURX,SUT,SUX,SY,SYP,SYR,
SYRX,SYT,SYX,TA,TAP,TAT,TAX,TE,TEP,TEX,TI,TIE,TIEP,TIEX,TIP,TIT,TIX,TO,TOP,TOT,TOX,TU,TUO,TUOP,TUOT,
TUOX,TUP,TUR,TURX,TUT,TUX,UO,UOP,UOX,VA,VAP,VAT,VAX,VEP,VEX,VI,VIE,VIEP,VIET,VIEX,VIP,VIT,VIX,VO,
VOP,VOT,VOX,VU,VUP,VUR,VURX,VUT,VUX,VY,VYP,VYR,VYRX,VYT,VYX,WA,WAP,WAT,WAX,WE,WEP,WEX,WO,WOP,WOX,WU,
WUO,WUOP,WUOX,XI,XIE,XIEP,XIET,XIEX,XIP,XIT,XIX,XO,XOP,XOT,XOX,XUO,XUOX,XY,XYP,XYR,XYRX,XYT,XYX,YI,
YIE,YIEP,YIET,YIEX,YIP,YIT,YIX,YO,YOP,YOT,YOX,YU,YUO,YUOP,YUOT,YUOX,YUP,YUR,YURX,YUT,YUX,YY,YYP,YYR,
YYRX,YYT,YYX,ZA,ZAP,ZAT,ZAX,ZE,ZEP,ZEX,ZHA,ZHAP,ZHAT,ZHAX,ZHE,ZHEP,ZHET,ZHEX,ZHO,ZHOP,ZHOT,ZHOX,ZHU,
ZHUO,ZHUOP,ZHUOX,ZHUP,ZHUR,ZHURX,ZHUT,ZHUX,ZHY,ZHYP,ZHYR,ZHYRX,ZHYT,ZHYX,ZI,ZIE,ZIEP,ZIEX,ZIP,ZIT,
ZIX,ZO,ZOP,ZOT,ZOX,ZU,ZUO,ZUOP,ZUOX,ZUP,ZUR,ZURX,ZUT,ZUX,ZY,ZYP,ZYR,ZYRX,ZYT,ZYX,ZZA,ZZAP,ZZAT,ZZAX,
ZZE,ZZEP,ZZEX,ZZI,ZZIE,ZZIEP,ZZIET,ZZIEX,ZZIP,ZZIT,ZZIX,ZZO,ZZOP,ZZOX,ZZU,ZZUP,ZZUR,ZZURX,ZZUX,ZZY,
ZZYP,ZZYR,ZZYRX,ZZYT,ZZYX
Z NOTATION:BAG MEMBERSHIP,DOMAIN ANTIRESTRICTION,LEFT BINDING BRACKET,LEFT IMAGE BRACKET,
RANGE ANTIRESTRICTION,RELATIONAL COMPOSITION,RIGHT BINDING BRACKET,RIGHT IMAGE BRACKET,SPOT,
TYPE COLON
 SCHEMA:COMPOSITION,PIPING,PROJECTION
ZANABAZAR SQUARE:CLOSING DOUBLE-LINED HEAD MARK,CLOSING HEAD MARK,CLUSTER-INITIAL LETTER RA,
FINAL CONSONANT MARK,INITIAL DOUBLE-LINED HEAD MARK,INITIAL HEAD MARK,SUBJOINER
 CLUSTER-FINAL LETTER:LA,RA,VA,YA
 LETTER:-A,A,BA,BHA,CA,CHA,DA,DDA,DDHA,DHA,DZA,DZHA,GA,GHA,HA,JA,KA,KHA,KSSA,LA,MA,NA,NGA,NNA,NYA,
PA,PHA,RA,SA,SHA,SSA,TA,THA,TSA,TSHA,TTA,TTHA,VA,YA,ZA,ZHA
 MARK:DOUBLE SHAD,LONG TSHEG,SHAD,TSHEG
 SIGN:ANUSVARA,CANDRA WITH ORNAMENT,CANDRABINDU,CANDRABINDU WITH ORNAMENT,VIRAMA,VISARGA
 VOWEL:LENGTH MARK
  SIGN:AI,AU,E,I,O,OE,REVERSED I,U,UE
ZERO WIDTH:JOINER,NO-BREAK SPACE,NON-JOINER,SPACE
ZNAMENNY:
 COMBINING:ATTACHING VERTICAL OMET,LOWER TONAL RANGE INDICATOR
  MARK:BORZAYA,CHASHKA,CHASHKA POLNAYA,CURVED OMET,DEMESTVENNY ZADERZHKA,DVOETOCHIE,KACHKA,KRYZH,
KRYZH ON LEFT,KUPNAYA,LOMKA,OBLACHKO,ON,OTSECHKA,PODCHASHIE,PODCHASHIE WITH VERTICAL STROKE,
PODVERTKA,RAVNO,RAZSEKA,SKOBA,SOROCHYA NOZHKA,SREDNE ON LEFT,SREDNE ON RIGHT,STRANNO MALO POVYSHE,
TIKHAYA,TOCHKA,UDARKA,ZADERZHKA,ZELO,ZEVOK
   GORAZDO:VYSOKO
    NIZKO:ON LEFT,ON RIGHT,S KRYZHEM ON LEFT,S KRYZHEM ON RIGHT
   MALO POVYSHE:ON LEFT,ON RIGHT,S KHOKHLOM ON LEFT,S KHOKHLOM ON RIGHT,S KRYZHEM,STRANNO
   NIZKO:ON LEFT,ON RIGHT,S KRYZHEM ON LEFT,S KRYZHEM ON RIGHT
   POVYSHE:ON LEFT,ON RIGHT,S KHOKHLOM ON LEFT,S KHOKHLOM ON RIGHT,S KRYZHEM,STRANNO
   TSATA:ON LEFT,ON RIGHT,S KRYZHEM
   VYSOKO:ON LEFT,ON RIGHT,S KHOKHLOM ON LEFT,S KHOKHLOM ON RIGHT,S KRYZHEM
  TONAL RANGE MARK:MRACHNO,SVETLO,TRESVETLO
 NEUME:CHASHKA,CHELYUSTKA,DEMESTVENNY KLYUCH,DERBITSA,DOUBLE ZAPYATAYA,DUDA,DVA V CHELNU,FITA,
KHAMILO,KLYUCH,KOBYLA,KRYUK,KRYUK TIKHY,KRYZH,KUFISMA,MECHIK,NEMKA,OBLAKO,OSOKA,PALKA,PARAKLIT,PAUK,
PEREVODKA,PEREVODKA NEPOSTOYANNAYA,PODCHASHIE,POLKULIZMY,REVERSED CHELYUSTKA,ROG,SLOZHITIE,STATYA,
STOPITSA,STOPITSA S OCHKOM,STOPITSA WITH SOROCHYA NOZHKA,ZANOZHEK,ZAPYATAYA,ZMEYTSA
  GOLUBCHIK:BORZY,MRACHNY,SVETLY,TIKHY,TRESVETLY
  MECHIK:KLYUCHENEPOSTOYANNY,KLYUCHEPOVODNY,KLYUCHEVOY,POVODNY
  OSOKA:KLYUCHEVAYA NEPOSTOYANNAYA,KLYUCHEVAYA SVETLAYA,KRYUKOVAYA SVETLAYA,SVETLAYA,TRESVETLAYA
  SKAMEYTSA:KLYUCHENEPOSTOYANNAYA,KLYUCHEVAYA SVETLAYA,KLYUCHEVAYA TIKHAYA,MRACHNAYA,SVETLAYA,
TIKHAYA,TRESVETLAYA
   DVOECHELNAYA:KLYUCHEVAYA,NEPOSTOYANNAYA,PROSTAYA,SVETLAYA
  SLOZHITIE:S KRYZHEM,S ZAPYATOY,ZAKRYTOE
  STATYA:NEPOSTOYANNAYA,ZAKRYTAYA,ZAKRYTAYA S ZAPYATOY
   S:DVUMYA ZAPYATYMI,KRYZHEM,KRYZHEM I ZAPYATOY,ROGOM,ZAPYATOY,ZAPYATOY I KRYZHEM,
ZAPYATOY I PODCHASHIEM
  STRELA:DVOECHELNAYA,DVOECHELNAYA KLYUCHEVAYA,DVOECHELNOKRYZHEVAYA,DVOECHELNOPOVODNAYA,
DVOECHELNOPOVODNAYA KLYUCHEVAYA,GROMNAYA,GROMNAYA WITH SINGLE ZAPYATAYA,GROMOKRYZHEVAYA,
GROMOKRYZHEVAYA POVODNAYA,GROMOPOVODNAYA,GROMOPOVODNAYA WITH DOUBLE ZAPYATAYA,
GROMOPOVODNAYA WITH SINGLE ZAPYATAYA,KLYUCHENEPOSTOYANNAYA,KLYUCHEPOVODNAYA,KRYUKOVAYA,KRYZHEVAYA,
MRACHNOTIKHAYA,NEPOSTOYANNAYA,POLUPOVODNAYA,POVODNAYA,PROSTAYA,TIKHAYA PUTNAYA,TRYASOGLASNAYA,
TRYASOPOVODNAYA,TRYASOSTRELNAYA
   KRYUKOVAYA:GROMNAYA,GROMNAYA WITH SINGLE ZAPYATAYA,GROMOKRYZHEVAYA,GROMOKRYZHEVAYA POVODNAYA,
GROMOPOVODNAYA,GROMOPOVODNAYA WITH DOUBLE ZAPYATAYA,GROMOPOVODNAYA WITH SINGLE ZAPYATAYA,POVODNAYA,
TRYASKA
  VRAKHIYA:MRACHNAYA,PROSTAYA,SVETLAYA,TRESVETLAYA
   KLYUCHEVAYA:MRACHNAYA,PROSTAYA,SVETLAYA,TRESVETLAYA
 PRIZNAK MODIFIER:DIRECTION FLIP,KRYZH,LEVEL-2,LEVEL-3,ROG"

end ReviewDiff.Text
