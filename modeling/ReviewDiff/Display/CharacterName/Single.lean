/-!
# Names of characters without kin

Names that share their first word with few others, with commas between them.
-/

set_option autoImplicit false

namespace ReviewDiff.Text

def singleNames : String :=
"ABACUS,AC CURRENT,ACCORDION,ACCOUNT OF,ACK,ACKNOWLEDGE,ACTIVATE ARABIC FORM SHAPING,
ACTIVATE SYMMETRIC SWAPPING,ACUTE ACCENT,ACUTE ANGLE,ADDRESSED TO THE SUBJECT,ADHESIVE BANDAGE,
ADI SHAKTI,ADMETOS,ADMISSION TICKETS,ADULT,AERIAL TRAMWAY,AFGHANI SIGN,AIRPLANE,AIRPLANE ARRIVING,
AIRPLANE DEPARTURE,AKTIESELSKAB,ALARM CLOCK,ALEF SYMBOL,ALEMBIC,ALERT,ALIEN MONSTER,
ALL AROUND-PROFILE,ALL EQUAL TO,ALM,ALTERNATE ONE-WAY LEFT WAY TRAFFIC,ALTERNATIVE KEY SYMBOL,
AMALGAMATION OR COPRODUCT,AMBULANCE,AMERICAN FOOTBALL,AMPERSAND,AMPHORA,ANATOMICAL HEART,ANCHOR,
AND WITH DOT,ANGER SYMBOL,ANGLE,ANGLE WITH S INSIDE,ANGLE WITH UNDERBAR,ANGRY FACE,ANGSTROM SIGN,
ANGUISHED FACE,ANKH,ANT,ANTENNA WITH BARS,APC,APOLLON,APOSTROPHE,APPLICATION PROGRAM COMMAND,
APPROACHES THE LIMIT,AQUARIUS,ARC,ARIES,ARROWHEAD-SHAPED POINTER,ARTICULATED LORRY,ARTIST PALETTE,
ASCENDING NODE,ASCIA SYMBOL,ASSERTION,ASTERISK,ASTERISK OPERATOR,ASTERISM,ASTONISHED FACE,ASTRAEA,
ASTRONOMICAL SYMBOL FOR URANUS,ASYMPTOTICALLY EQUAL TO,ATHLETIC SHOE,ATOM SYMBOL,AUBERGINE,
AUSTRAL SIGN,AUTO RICKSHAW,AUTOMATED TELLER MACHINE,AUTOMOBILE,AVOCADO,AXE,BABY,BACK OF ENVELOPE,
BACK WITH LEFTWARDS ARROW ABOVE,BACK-TILTED SHADOWED WHITE RIGHTWARDS ARROW,
BACKSLANTED SOUTH ARROW WITH HOOKED TAIL,BACKSLANTED SOUTH ARROW WITH HORIZONTAL TAIL,BACKSPACE,
BACON,BACTRIAN CAMEL,BADGER,BADMINTON RACQUET AND SHUTTLECOCK,BAGEL,BAGGAGE CLAIM,BAGUETTE BREAD,
BALL OF YARN,BALLET SHOES,BALLOON,BALLOON-SPOKED ASTERISK,BANANA,BANJO,BANK,BAR CHART,BAR OF SOAP,
BARBER POLE,BASEBALL,BASKET,BASKETBALL AND HOOP,BAT,BATH,BATHTUB,BATTERY,BEACH WITH UMBRELLA,BEANS,
BEAR FACE,BEARDED PERSON,BEATING HEART,BEAVER,BECAUSE,BED,BEER MUG,BEETLE,BEL,BELL,BELLHOP BELL,
BENT ARROW POINTING DOWNWARDS THEN NORTH EAST,BENTO BOX,BENZENE RING,BENZENE RING WITH CIRCLE,
BET SYMBOL,BETWEEN,BEVERAGE BOX,BICYCLE,BICYCLIST,BIG REVERSE SOLIDUS,BIG SOLIDUS,BIKINI,BILLED CAP,
BILLIARDS,BIOHAZARD SIGN,BIRD,BIRTHDAY CAKE,BISON,BITCOIN SIGN,BITING LIP,BLANK SYMBOL,BLOSSOM,
BLOWFISH,BLUE BOOK,BLUE HEART,BLUEBERRIES,BOAR,BOM,BOMB,BONE,BOOK,BOOKMARK,BOOKMARK TABS,BOOKS,
BOOMERANG,BOTTLE WITH POPPING CORK,BOUQUET,BOUQUET OF FLOWERS,BOW AND ARROW,BOWL OF HYGIEIA,
BOWL WITH SPOON,BOWLING,BOWTIE,BOWTIE WITH LEFT HALF BLACK,BOWTIE WITH RIGHT HALF BLACK,
BOXING GLOVE,BOY,BOYS SYMBOL,BPH,BRAIN,BREAD,BREAK PERMITTED HERE,BREAST-FEEDING,BREVE,BRICK,
BRIDE WITH VEIL,BRIDGE AT NIGHT,BRIEFCASE,BRIEFS,BROCCOLI,BROOM,BROWN HEART,BS,BUBBLE TEA,BUBBLES,
BUCKET,BUG,BUILDING CONSTRUCTION,BULLET,BULLET OPERATOR,BULLHORN,BULLHORN WITH SOUND WAVES,BULLSEYE,
BURRITO,BUS,BUS STOP,BUST IN SILHOUETTE,BUSTS IN SILHOUETTE,BUTTER,BUTTERFLY,BYTE ORDER MARK,CACTUS,
CADA UNA,CADUCEUS,CALENDAR,CALL ME HAND,CAMERA,CAMERA WITH FLASH,CAMPING,CAN,CANCEL,
CANCEL CHARACTER,CANCEL TAG,CANCELLATION X,CANCER,CANDLE,CANDY,CANNED FOOD,CANOE,CAPITULUM,
CAPRICORN,CAR SLIDING,CARE OF,CARET,CARET INSERTION POINT,CARON,CAROUSEL HORSE,CARP STREAMER,
CARPENTRY SAW,CARRIAGE RETURN,CARROT,CASTLE,CAT,CAT FACE,CAT FACE WITH TEARS OF JOY,
CAT FACE WITH WRY SMILE,CAUTION SIGN,CCH,CEDI SIGN,CEDILLA,CELTIC CROSS,CENT SIGN,
CENTRE LINE SYMBOL,CENTRELINE LOW LINE,CENTRELINE OVERLINE,CERES,CGJ,CHAINS,CHAIR,CHECK MARK,
CHECKER BOARD,CHECKER BOARD FILL,CHEERING MEGAPHONE,CHEESE WEDGE,CHEQUERED FLAG,CHERRIES,
CHERRY BLOSSOM,CHESTNUT,CHI RHO,CHICKEN,CHILD,CHILDREN CROSSING,CHIPMUNK,CHIRON,CHOCOLATE BAR,
CHOPSTICKS,CHRISTMAS TREE,CHURCH,CINEMA,CIRCULATION FUNCTION,CIRCUMFLEX ACCENT,CIRCUS TENT,
CITYSCAPE,CITYSCAPE AT DUSK,CLAMSHELL MOBILE PHONE,CLAPPER BOARD,CLAPPING HANDS SIGN,
CLASSICAL BUILDING,CLEAR SCREEN SYMBOL,CLINKING BEER MUGS,CLINKING GLASSES,CLIPBOARD,CLOSE UP,CLOUD,
CLOWN FACE,COAT,COCKROACH,COCKTAIL GLASS,COCONUT,COFFIN,COIN,COLLISION SYMBOL,COLON,COLON EQUALS,
COLON SIGN,COMET,COMMA,COMMERCIAL AT,COMMERCIAL MINUS SIGN,COMPASS,COMPLEMENT,COMPOSITION SYMBOL,
COMPRESSION,CONFETTI BALL,CONFOUNDED FACE,CONFUSED FACE,CONGRUENT WITH DOT ABOVE,CONICAL TAPER,
CONJUNCTION,CONSTRUCTION SIGN,CONSTRUCTION WORKER,CONTINUOUS UNDERLINE SYMBOL,CONTOUR INTEGRAL,
CONTROL KNOBS,CONTROL SEQUENCE INTRODUCER,CONVENIENCE STORE,COOKED RICE,COOKIE,COOKING,
COPYLEFT SYMBOL,COPYRIGHT SIGN,CORAL,CORNISH VERSE DIVIDER,CORRESPONDS TO,COUCH AND LAMP,
COUNTERBORE,COUNTERSINK,COUPLE WITH HEART,COW,COW FACE,CR,CRAB,CREDIT CARD,CRESCENT MOON,CRICKET,
CRICKET BAT AND BALL,CROCODILE,CROISSANT,CROSSING LANES,CROWN,CRUTCH,CRUZEIRO SIGN,CRYING CAT FACE,
CRYING FACE,CRYSTAL BALL,CSI,CUBE ROOT,CUCUMBER,CUP ON BLACK SQUARE,CUP WITH STRAW,CUPCAKE,CUPIDO,
CURLING STONE,CURRENCY EXCHANGE,CURRENCY SIGN,CURRY AND RICE,CURVED STEM PARAGRAPH SIGN ORNAMENT,
CUSTARD,CUSTOMS,CUT OF MEAT,CYCLONE,CYLINDRICITY,DAGGER,DALET SYMBOL,DANCER,DANGO,DARK SHADE,
DARK SUNGLASSES,DASH SYMBOL,DASH WITH LEFT UPTURN,DATA LINK ESCAPE,DC1,DC2,DC3,DC4,DCS,DEAF PERSON,
DECIDUOUS TREE,DECIMAL EXPONENT SYMBOL,DECIMAL SEPARATOR KEY SYMBOL,DECREASE FONT SIZE SYMBOL,DEER,
DEL,DELETE,DELIVERY TRUCK,DELTA EQUAL TO,DEPARTMENT STORE,DERELICT HOUSE BUILDING,DESCENDING NODE,
DESERT,DESERT ISLAND,DESKTOP COMPUTER,DESKTOP WINDOW,DIAERESIS,DIAMETER SIGN,DIESEL LOCOMOTIVE,
DIFFERENCE BETWEEN,DIMENSION ORIGIN,DIRECT CURRENT SYMBOL FORM TWO,DIRECT HIT,DISABLED CAR,
DISAPPOINTED BUT RELIEVED FACE,DISAPPOINTED FACE,DISCONTINUOUS UNDERLINE SYMBOL,DISGUISED FACE,
DITTO MARK,DIVIDES,DIVING MASK,DIVORCE SYMBOL,DIYA LAMP,DIZZY FACE,DIZZY SYMBOL,DLE,
DNA DOUBLE HELIX,DO NOT LITTER SYMBOL,DOCUMENT,DODO,DOG,DOG FACE,DOLLAR SIGN,DOLPHIN,DONG SIGN,DOOR,
DOUBLE-ENDED MULTIMAP,DOUGHNUT,DOVE OF PEACE,DRACHMA SIGN,DRAFTING POINT RIGHTWARDS ARROW,DRAGON,
DRAGON FACE,DRESS,DRIVE SLOW SIGN,DROMEDARY CAMEL,DROOLING FACE,DROP OF BLOOD,DROPLET,
DRUM WITH DRUMSTICKS,DUCK,DUMPLING,DVD,E-MAIL SYMBOL,EAGLE,EAR,EARTH,EAST SYRIAC CROSS,
EDITORIAL CORONIS,EGG,EIGHTH NOTE,EJECT SYMBOL,ELECTRICAL INTERSECTION,ELEMENT OF,ELEPHANT,ELEVATOR,
ELF,EMPHASIS SYMBOL,ENQ,ENQUIRY,ENTER SYMBOL,ENVELOPE,ENVELOPE WITH DOWNWARDS ARROW ABOVE,
ENVELOPE WITH LIGHTNING,EOL,EOM,EOT,EPA,EQUIANGULAR TO,EQUIVALENT TO,
EQUIVALENT WITH FOUR DOTS ABOVE,ERASE TO THE LEFT,ERASE TO THE RIGHT,ERIS FORM ONE,ERIS FORM TWO,
ESA,ESC,ESCAPE,ESTIMATED SYMBOL,ESTIMATES,ETB,ETX,EULER CONSTANT,EURO SIGN,EURO-CURRENCY SIGN,
EUROPEAN CASTLE,EUROPEAN POST OFFICE,EVERGREEN TREE,EXCESS,EXCLAMATION MARK,
EXCLAMATION QUESTION MARK,EXPRESSIONLESS FACE,EXTRATERRESTRIAL ALIEN,EYE,EYEGLASSES,EYES,
FACSIMILE SIGN,FACTORY,FAIRY,FALAFEL,FALLEN LEAF,FAMILY,FARSI SYMBOL,FATHER CHRISTMAS,FAX ICON,
FAX MACHINE,FEARFUL FACE,FEATHER,FEMALE SIGN,FEMININE ORDINAL INDICATOR,FENCER,FERRIS WHEEL,FERRY,
FF,FIELD HOCKEY STICK AND BALL,FIGURE DASH,FIGURE SPACE,FILM FRAMES,FILM PROJECTOR,
FINITE PART INTEGRAL,FIRE,FIRE ENGINE,FIRE EXTINGUISHER,FIRECRACKER,FIREWORK SPARKLER,FIREWORKS,
FISH,FISH CAKE WITH SWIRL DESIGN,FISHEYE,FISHING POLE AND FISH,FISTED HAND SIGN,FIVE DOT MARK,
FIVE DOT PUNCTUATION,FLAG IN HOLE,FLAMINGO,FLAT SHOE,FLATBREAD,FLATNESS,FLEUR-DE-LIS,FLEXED BICEPS,
FLOPPY DISK,FLORAL HEART,FLOWER,FLOWER PLAYING CARDS,FLOWER PUNCTUATION MARK,FLUSHED FACE,FLY,FOG,
FOGGY,FOLDER,FONDUE,FOOT,FOOTPRINTS,FOR ALL,FORCES,FORK AND KNIFE,FORK AND KNIFE WITH PLATE,
FORKED PARAGRAPHOS,FORKING,FORM FEED,FORTUNE COOKIE,FOUNTAIN,FOUR-PER-EM SPACE,FOURTH ROOT,FOX FACE,
FRACTION NUMERATOR ONE,FRACTION SLASH,FREEZING FACE,FRENCH FRANC SIGN,FRENCH FRIES,FRIED SHRIMP,
FROG FACE,FRONT-FACING BABY CHICK,FRONT-TILTED SHADOWED WHITE RIGHTWARDS ARROW,FROWN,
FROWNING FACE WITH OPEN MOUTH,FS,FSI,FUEL PUMP,FUNCTION APPLICATION,FUNERAL URN,FUSE,FVS1,FVS2,FVS3,
FVS4,GAME DIE,GARLIC,GEAR,GEAR WITH HANDLES,GEAR WITHOUT HUB,GEM STONE,GEMINI,GENIE,
GEOMETRIC PROPORTION,GEOMETRICALLY EQUAL TO,GEOMETRICALLY EQUIVALENT TO,GERMAN PENNY SIGN,GETA MARK,
GHOST,GIMEL SYMBOL,GIRAFFE FACE,GIRL,GIRLS SYMBOL,GLASS OF MILK,GLEICH STARK,GLOBE WITH MERIDIANS,
GLOVES,GLOWING STAR,GOAL NET,GOAT,GOGGLES,GOLFER,GORILLA,GRADUATION CAP,GRAPES,GRAVE ACCENT,
GRIMACING FACE,GROUP MARK,GROUP SEPARATOR,GROWING HEART,GS,GUARANI SIGN,GUARDSMAN,GUIDE DOG,GUITAR,
HADES,HAIR SPACE,HAIRCUT,HAMBURGER,HAMMER,HAMSA,HAMSTER FACE,
HAND WITH INDEX AND MIDDLE FINGERS CROSSED,HAND WITH INDEX FINGER AND THUMB CROSSED,HANDBAG,
HANDBALL,HANDSHAKE,HAPPY PERSON RAISING ONE HAND,HARD DISK,HATCHING CHICK,HEADPHONE,HEADSTONE,
HEADSTONE GRAVEYARD SYMBOL,HEAR-NO-EVIL MONKEY,HEDGEHOG,HELICOPTER,HELLSCHREIBER PAUSE SYMBOL,
HELM SYMBOL,HELMET WITH WHITE CROSS,HERB,HERMITIAN CONJUGATE MATRIX,HIBISCUS,HIGH-HEELED SHOE,
HIGH-SPEED TRAIN,HIGH-SPEED TRAIN WITH BULLET NOSE,HIKING BOOT,HINDU TEMPLE,HIPPOPOTAMUS,
HISTORIC SITE,HOCHO,HOLE,HOLLOW QUILT SQUARE ORNAMENT,HOLLOW QUILT SQUARE ORNAMENT IN BLACK SQUARE,
HOMOTHETIC,HONEY POT,HONEYBEE,HOOK,HOP,HORSE,HORSE FACE,HORSE RACING,HOSPITAL,HOTEL,HOURGLASS,
HOURGLASS WITH FLOWING SAND,HOUSE,HRYVNIA SIGN,HT,HTJ,HTS,HUGGING FACE,HUNDRED POINTS SYMBOL,
HUSHED FACE,HUT,HYGIEA,HYPHEN,HYPHEN BULLET,HYPHEN WITH DIAERESIS,HYPHEN-MINUS,HYPHENATION POINT,
HYPODIASTOLE,HYSTERESIS SYMBOL,I LOVE YOU HAND SIGN,IDENTIFICATION CARD,IMAGE OF,
IMAGE OF OR APPROXIMATELY EQUAL TO,IMP,INBOX TRAY,INCOMING ENVELOPE,INCOMPLETE INFINITY,
INCREASE FONT SIZE SYMBOL,INCREASES AS,INCREMENT,IND,INDEX,INDEX POINTING AT THE VIEWER,
INDIAN RUPEE SIGN,INFINITY,INFINITY NEGATED WITH VERTICAL BAR,INHIBIT ARABIC FORM SHAPING,
INHIBIT SYMMETRIC SWAPPING,INSERTION SYMBOL,INTEGRAL,INTERCALATE,INTERIOR PRODUCT,
INTERLOCKED FEMALE AND MALE SIGN,INTERROBANG,INTERSECTION,IZAKAYA LANTERN,JACK-O-LANTERN,JAR,JEANS,
JIGSAW PUZZLE PIECE,JOIN,JOYSTICK,JUGGLING,JUNO,JUPITER,KAABA,KANGAROO,KELVIN SIGN,KEY,KEYBOARD,
KEYBOARD AND MOUSE,KEYCAP TEN,KHITAN SMALL SCRIPT FILLER,KIMONO,KIP SIGN,KISS,KISS MARK,KITE,
KIWIFRUIT,KNEELING PERSON,KNOT,KOALA,KOREAN STANDARD SYMBOL,KRONOS,L B BAR SYMBOL,LAB COAT,LABEL,
LACROSSE STICK AND BALL,LADDER,LADY BEETLE,LANGUAGE TAG,LARGER THAN,LARGER THAN OR EQUAL TO,
LARI SIGN,LAST QUARTER MOON,LAST QUARTER MOON SYMBOL,LAST QUARTER MOON WITH FACE,
LEAF FLUTTERING IN WIND,LEAFY GREEN,LEDGER,LEFT-HANDED INTERLACED PENTAGRAM,
LEFT-SHADED WHITE RIGHTWARDS ARROW,LEFT-SIDE ARC ANTICLOCKWISE ARROW,LEG,LEMON,LEO,LEOPARD,
LEVEL SLIDER,LF,LIBRA,LIGATURE OPEN ET ORNAMENT,LIGHTNING,LIGHTNING MOOD,LIGHTNING MOOD BUBBLE,
LIMITED LIABILITY SIGN,LINK SYMBOL,LINKED PAPERCLIPS,LION FACE,LIPS,LIPSTICK,LIRA SIGN,
LIVRE TOURNOIS SIGN,LIZARD,LLAMA,LOBSTER,LOCK,LOCK WITH INK PEN,LOCKING-SHIFT ONE,
LOCKING-SHIFT ZERO,LOLLIPOP,LOTION BOTTLE,LOTUS,LOUDLY CRYING FACE,LOVE HOTEL,LOVE LETTER,LOZENGE,
LOZENGE DIVIDED BY HORIZONTAL RULE,LRE,LRI,LRM,LRO,LUGGAGE,LUNGS,LYING FACE,MACRON,MAGE,MAGIC WAND,
MAGNET,MALTESE CROSS,MAMMOTH,MAN,MANAT SIGN,MANGO,MANS SHOE,MANTELPIECE CLOCK,MANUAL WHEELCHAIR,
MAP SYMBOL FOR LIGHTHOUSE,MAPLE LEAF,MARRIAGE SYMBOL,MARTIAL ARTS UNIFORM,
MASCULINE ORDINAL INDICATOR,MASK WORK SYMBOL,MASU MARK,MATE DRINK,MAXIMIZE,MEAT ON BONE,
MECHANICAL ARM,MECHANICAL LEG,MELON,MELTING FACE,MEMO,MENORAH WITH NINE BRANCHES,MENS SYMBOL,
MERCURY,MERPERSON,MESSAGE WAITING,METRO,MICR DASH SYMBOL,MICR ON US SYMBOL,MICRO SIGN,MICROBE,
MICROPHONE,MICROSCOPE,MIDDLE DOT,MIDDLE THIRD WHITE RIGHT POINTING INDEX,
MIDLINE HORIZONTAL ELLIPSIS,MILITARY HELMET,MILITARY MEDAL,MILKY WAY,MILL SIGN,MINIBUS,MINIDISC,
MINIMIZE,MINUS-OR-PLUS SIGN,MINY,MIRROR,MIRROR BALL,MMSP,MOBILE PHONE,MOBILE PHONE OFF,
MOBILE PHONE WITH RIGHTWARDS ARROW AT LEFT,MODELS,MODERN PENTATHLON,MODULO TWO SUM,MONEY BAG,
MONEY WITH WINGS,MONEY-MOUTH FACE,MONKEY,MONKEY FACE,MONORAIL,MONOSTABLE SYMBOL,MOOD BUBBLE,
MOON CAKE,MOON VIEWING CEREMONY,MOSQUE,MOSQUITO,MOTHER CHRISTMAS,MOTOR BOAT,MOTOR SCOOTER,
MOTORIZED WHEELCHAIR,MOTORWAY,MOUNT FUJI,MOUNTAIN,MOUSE,MOUSE FACE,MOUSE TRAP,MOUTH,MOVIE CAMERA,
MOYAI,MUCH GREATER-THAN,MUCH LESS-THAN,MULTIMAP,MULTIPLE MUSICAL NOTES,MULTISET,
MULTISET MULTIPLICATION,MULTISET UNION,MUSHROOM,MVS,MW,NABLA,NAIL POLISH,NAIRA SIGN,NAK,NAME BADGE,
NAND,NARROW NO-BREAK SPACE,NATIONAL DIGIT SHAPES,NATIONAL PARK,NAUSEATED FACE,NAZAR AMULET,NBH,NBSP,
NECKTIE,NEGATED DOUBLE VERTICAL BAR DOUBLE RIGHT TURNSTILE,NEL,NEPTUNE,NEPTUNE FORM TWO,NERD FACE,
NESSUS,NEST WITH EGGS,NESTING DOLLS,NEUTER,NEWLINE LEFT,NEWLINE RIGHT,NEWSPAPER,NEXT LINE,NEXT PAGE,
NIGHT WITH STARS,NINJA,NL,NNBSP,NO-BREAK SPACE,NOMINAL DIGIT SHAPES,NOMISMA SIGN,
NON-BREAKING HYPHEN,NON-POTABLE WATER SYMBOL,NONFORKING,NOR,NORDIC MARK SIGN,NORMAL SUBGROUP OF,
NORMAL SUBGROUP OF OR EQUAL TO,NORTHEAST-POINTING AIRPLANE,NOSE,NOTE,NOTE PAD,NOTE PAGE,NOTEBOOK,
NOTEBOOK WITH DECORATIVE COVER,NUL,NULL,NUMERO SIGN,NUSHU ITERATION MARK,NUT AND BOLT,
OBJECT REPLACEMENT CHARACTER,OBSERVER EYE SYMBOL,OCTAGONAL SIGN,OCTOPUS,ODEN,OFFICE BUILDING,OGONEK,
OHM SIGN,OIL DRUM,OK HAND SIGN,OLIVE,OM SYMBOL,ON WITH EXCLAMATION MARK WITH LEFT RIGHT ARROW ABOVE,
ONE-PIECE SWIMSUIT,ONION,OPEN-CIRCUIT-OUTPUT H-TYPE SYMBOL,OPEN-CIRCUIT-OUTPUT L-TYPE SYMBOL,
OPEN-OUTLINED RIGHTWARDS ARROW,OPERATING SYSTEM COMMAND,OPHIUCHUS,OPPOSITION,OPTICAL DISC,
OPTICAL DISC ICON,OPTION KEY,OR WITH DOT INSIDE,ORANGE BOOK,ORANGE HEART,ORANGUTAN,ORIGINAL OF,
ORNATE LEFT PARENTHESIS,ORNATE RIGHT PARENTHESIS,ORTHODOX CROSS,OSC,OTTER,OUNCE SIGN,OUTBOX TRAY,
OVERHEATED FACE,OVERLAP,OVERLINE,OWL,OX,OYSTER,PACKAGE,PAD,PADDING CHARACTER,PAGE,PAGER,PAGES,
PAGODA,PALLAS,PALMS UP TOGETHER,PANCAKES,PANDA FACE,PAPERCLIP,PARACHUTE,PARAGRAPH SEPARATOR,
PARAGRAPHOS,PARAGRAPHUS MARK,PARROT,PART ALTERNATION MARK,PARTIALLY-RECYCLED PAPER SYMBOL,
PARTNERSHIP SIGN,PARTY POPPER,PASSED SYMBOL,PASSENGER SHIP,PASSIVE-PULL-DOWN-OUTPUT SYMBOL,
PASSIVE-PULL-UP-OUTPUT SYMBOL,PASSPORT CONTROL,PAW PRINTS,PDF,PDI,PEACE SYMBOL,PEACH,PEACOCK,
PEANUTS,PEAR,PEDESTRIAN,PEN OVER STAMPED ENVELOPE,PENCIL,PENGUIN,PENSIVE FACE,PENTAGRAM,
PEOPLE HUGGING,PERCENT SIGN,PERFORMING ARTS,PERMANENT PAPER SIGN,PERPENDICULAR,PERPENDICULAR WITH S,
PERSEVERING FACE,PERSONAL COMPUTER,PERSPECTIVE,PESETA SIGN,PESO SIGN,PETRI DISH,
PHILIPPINE DOUBLE PUNCTUATION,PHILIPPINE SINGLE PUNCTUATION,PHOLUS,PICK,PICKUP TRUCK,PIE,PIG,
PIG FACE,PIG NOSE,PILCROW SIGN,PILE OF POO,PILL,PINATA,PINCHED FINGERS,PINCHING HAND,
PINE DECORATION,PINEAPPLE,PINWHEEL STAR,PISCES,PISTOL,PITCHFORK,PITCHFORK WITH TEE TOP,PLACARD,
PLACE OF INTEREST SIGN,PLACE OF WORSHIP,PLANCK CONSTANT,PLANCK CONSTANT OVER TWO PI,
PLAYGROUND SLIDE,PLD,PLU,PLUNGER,PLUS SIGN,PLUS-MINUS SIGN,PLUTO,PM,POCKET CALCULATOR,POODLE,
POP DIRECTIONAL FORMATTING,POP DIRECTIONAL ISOLATE,POPCORN,PORTABLE STEREO,POSEIDON,
POSITION INDICATOR,POSTBOX,POT OF FOOD,POTABLE WATER SYMBOL,POTATO,POTTED PLANT,POUCH,POULTRY LEG,
POUND SIGN,POURING LIQUID,POUTING CAT FACE,POUTING FACE,PRAYER BEADS,PRECEDES,PRESCRIPTION TAKE,
PRETZEL,PREVIOUS PAGE,PRIME,PRINCE,PRINCESS,PRINT SCREEN SYMBOL,PRINTER,PRINTER ICON,
PRIVACY MESSAGE,PROBING CANE,PROHIBITED SIGN,PROJECTIVE,PROPERTY LINE,PROPORTION,PROPORTIONAL TO,
PROSERPINA,PU1,PU2,PUBLIC ADDRESS LOUDSPEAKER,PUNCTUATION SPACE,PUNCTUS ELEVATUS MARK,PURPLE HEART,
PURSE,PUSHPIN,PUT LITTER IN ITS PLACE SYMBOL,QUADRUPLE INTEGRAL OPERATOR,QUADRUPLE PRIME,
QUARTER NOTE,QUATERNION INTEGRAL OPERATOR,QUESTION EXCLAMATION MARK,QUESTION MARK,
QUESTIONED EQUAL TO,QUINCUNX,QUOTATION MARK,RABBIT,RABBIT FACE,RACCOON,RACING CAR,RACING MOTORCYCLE,
RADICAL SYMBOL BOTTOM,RADIO,RADIO BUTTON,RADIOACTIVE SIGN,RAILWAY CAR,RAILWAY TRACK,RAIN,RAINBOW,
RAM,RAT,RATIO,RAZOR,RECEIPT,RECORD SEPARATOR,RECREATIONAL VEHICLE,RECYCLED PAPER SYMBOL,RED APPLE,
RED GIFT ENVELOPE,REFERENCE MARK,REGISTERED SIGN,RELIEVED FACE,REMINDER RIBBON,
REPLACEMENT CHARACTER,RESPONSE,RESTRICTED LEFT ENTRY-1,RESTRICTED LEFT ENTRY-2,RESTROOM,
REVOLVING HEARTS,RHINOCEROS,RI,RIAL SIGN,RIBBON,RICE BALL,RICE CRACKER,RIFLE,
RIGHT-HANDED INTERLACED PENTAGRAM,RIGHT-SHADED WHITE RIGHTWARDS ARROW,
RIGHT-SIDE ARC CLOCKWISE ARROW,RIGHTHAND INTERIOR PRODUCT,RING,RINGED PLANET,RINGING BELL,
RISING DIAGONAL CROSSING FALLING DIAGONAL,RISING DIAGONAL CROSSING SOUTH EAST ARROW,RLE,RLI,RLM,RLO,
ROASTED SWEET POTATO,ROBOT FACE,ROCK,ROCKET,ROLL OF PAPER,ROLLED-UP NEWSPAPER,ROLLER COASTER,
ROLLER SKATE,ROLLING ON THE FLOOR LAUGHING,ROOSTER,ROSE,ROSETTE,ROUND PUSHPIN,ROUND TARGET,ROWBOAT,
RS,RUBLE SIGN,RUGBY FOOTBALL,RULE-DELAYED,RUNNER,RUNNING SHIRT WITH SASH,RUPEE SIGN,S IN TRIANGLE,
SAFETY PIN,SAFETY VEST,SAGITTARIUS,SAILBOAT,SAKE BOTTLE AND CUP,SALT SHAKER,SALTIRE,SALUTING FACE,
SANDWICH,SARI,SATELLITE,SATELLITE ANTENNA,SATURN,SAUROPOD,SAXOPHONE,SCALES,SCARF,SCHOOL,
SCHOOL SATCHEL,SCI,SCOOTER,SCORPION,SCORPIUS,SCREEN,SCREWDRIVER,SCROLL,SCRUPLE,SEAL,SEAT,
SECOND PLACE MEDAL,SECTION SIGN,SECTOR,SEDNA,SEE-NO-EVIL MONKEY,SEEDLING,SEGMENT,SELFIE,SEMICOLON,
SEMIDIRECT PRODUCT WITH BOTTOM CLOSED,SEMISEXTILE,SEPARATED SYMBOL,
SERIOUS FACE WITH SYMBOLS COVERING MOUTH,SERVICE MARK,SESAME DOT,SESQUIQUADRATE,SET MINUS,
SET TRANSMIT STATE,SEWING NEEDLE,SEXTILE,SGC,SHALLOW PAN OF FOOD,SHAMROCK,SHARK,SHAVED ICE,SHEEP,
SHIELD,SHIFT IN,SHIFT OUT,SHINTO SHRINE,SHIP,SHOCKED FACE WITH EXPLODING HEAD,SHOOTING STAR,
SHOPPING BAGS,SHOPPING TROLLEY,SHORTCAKE,SHORTS,SHOULDERED OPEN BOX,SHOWER,SHRIMP,SHRUG,
SHUFFLE PRODUCT,SHY,SI,SIGN OF THE HORNS,SILHOUETTE OF JAPAN,SINE WAVE,SINGLE-SHIFT-2,
SINGLE-SHIFT-3,SIX-PER-EM SPACE,SIXTEEN POINTED ASTERISK,SKATEBOARD,SKI AND SKI BOOT,SKIER,SKULL,
SKULL AND CROSSBONES,SKUNK,SLAVONIC ASTERISK,SLED,SLEEPY FACE,SLEUTH OR SPY,SLICE OF PIZZA,
SLIGHTLY FROWNING FACE,SLIGHTLY SMILING FACE,SLOPE,SLOPING LARGE AND,SLOPING LARGE OR,SLOT MACHINE,
SLOTH,SMALLER THAN,SMALLER THAN OR EQUAL TO,SMASH PRODUCT,SMILE,SMIRKING FACE,SMOKING SYMBOL,SNAIL,
SNAKE,SNEEZING FACE,SNOW CAPPED MOUNTAIN,SNOWBOARDER,SNOWFLAKE,SNOWMAN,SNOWMAN WITHOUT SNOW,SO,
SOCCER BALL,SOCKS,SOFTBALL,SOFTWARE-FUNCTION SYMBOL,SOH,SOLID QUILT SQUARE ORNAMENT,
SOLID QUILT SQUARE ORNAMENT IN BLACK SQUARE,SOLIDUS,SOLIDUS WITH OVERBAR,SOM SIGN,
SOON WITH RIGHTWARDS ARROW ABOVE,SOS,SOUND RECORDING COPYRIGHT,SP,SPA,SPACE,SPAGHETTI,SPARKLE,
SPARKLES,SPARKLING HEART,SPEAK-NO-EVIL MONKEY,SPEAKER,SPEAKING HEAD IN SILHOUETTE,SPEECH BALLOON,
SPEEDBOAT,SPESMILO SIGN,SPHERICAL ANGLE,SPHERICAL ANGLE OPENING LEFT,SPHERICAL ANGLE OPENING UP,
SPIDER,SPIDER WEB,SPLASHING SWEAT SYMBOL,SPONGE,SPOOL OF THREAD,SPOON,SPORTS MEDAL,SPOUTING WHALE,
SQUAT BLACK RIGHTWARDS ARROW,SQUID,SS2,SS3,SSA,ST,STADIUM,STAFF OF AESCULAPIUS,STAFF OF HERMES,
STAMPED ENVELOPE,STANDING PERSON,STATION,STATUE OF LIBERTY,STEAM LOCOMOTIVE,STEAMING BOWL,
STENOGRAPHIC FULL STOP,STETHOSCOPE,STICK FIGURE,STOCK CHART,STOPWATCH,STRAIGHT RULER,STRAIGHTNESS,
STRAWBERRY,STRESS OUTLINED WHITE STAR,STRICTLY EQUIVALENT TO,STRING TERMINATOR,STS,
STUDIO MICROPHONE,STUFFED FLATBREAD,STUPA,STX,SUB,SUBSTITUTE,SUCCEEDS,SUN,SUN BEHIND CLOUD,
SUN WITH FACE,SUNFLOWER,SUNRISE,SUNRISE OVER MOUNTAINS,SUNSET OVER BUILDINGS,SUPERHERO,SUPERVILLAIN,
SURFACE INTEGRAL,SURFER,SUSHI,SUSPENSION RAILWAY,SWAN,SWASH AMPERSAND ORNAMENT,SWIMMER,SWUNG DASH,
SYMMETRY,SYN,SYNAGOGUE,SYNCHRONOUS IDLE,SYRINGE,T-REX,T-SHIRT,TAB,TABLE TENNIS PADDLE AND BALL,TACO,
TAKEOUT BOX,TALLY MARK FIVE,TALLY MARK ONE,TAMALE,TANABATA TREE,TANGERINE,TANGUT ITERATION MARK,
TAPE CARTRIDGE,TAPE DRIVE,TAURUS,TAXI,TEACUP WITHOUT HANDLE,TEAPOT,TEAR-OFF CALENDAR,
TEARDROP-BARBED RIGHTWARDS ARROW,TEARDROP-SPOKED ASTERISK,TEDDY BEAR,TELESCOPE,TELEVISION,
TENGE SIGN,TENNIS RACQUET AND BALL,TENT,TEST TUBE,THERE DOES NOT EXIST,THERE EXISTS,THEREFORE,
THERMODYNAMIC,THERMOMETER,THINKING FACE,THIRD PLACE MEDAL,THONG SANDAL,THOUGHT BALLOON,
THREE-EM DASH,THREE-PER-EM SPACE,THUMBS DOWN SIGN,THUMBS UP SIGN,THUNDER CLOUD AND RAIN,
THUNDERSTORM,TICKET,TIE OVER INFINITY,TIGER,TIGER FACE,TIGHT TRIFOLIATE SNOWFLAKE,TILDE,TIMER CLOCK,
TIMES WITH LEFT HALF BLACK,TIMES WITH RIGHT HALF BLACK,TINY,TINY TWO DOTS OVER ONE DOT PUNCTUATION,
TIRED FACE,TIRONIAN SIGN CAPITAL ET,TIRONIAN SIGN ET,TOILET,TOKYO TOWER,TOMATO,TONGUE,TOOLBOX,TOOTH,
TOOTHBRUSH,TOTAL RUNOUT,TRACKBALL,TRACTOR,TRADE MARK SIGN,TRAIN,TRAM,TRAM CAR,TRANSPLUTO,
TRANSVERSAL INTERSECTION,TRIANGLE-HEADED RIGHTWARDS ARROW,TRICOLON,TRIDENT EMBLEM,TROLL,TROLLEYBUS,
TROPHY,TROPICAL DRINK,TROPICAL FISH,TRUE,TRUE LIGHT MOON ARTA,TRUMPET,TUGRIK SIGN,TULIP,
TUMBLER GLASS,TURKEY,TURKISH LIRA SIGN,TURTLE,TWELVE POINTED BLACK STAR,TWISTED RIGHTWARDS ARROWS,
TWO-EM DASH,UMBRELLA,UMBRELLA ON GROUND,UMBRELLA WITH RAIN DROPS,UNAMUSED FACE,UNCERTAINTY SIGN,
UNDERTIE,UNDO SYMBOL,UNICORN FACE,UNION,UNIT SEPARATOR,UNITED SYMBOL,UNIVERSAL RECYCLING SYMBOL,
UNMARRIED PARTNERSHIP SYMBOL,UPSIDE-DOWN FACE,URANUS,US,VAMPIRE,VECTOR OR CROSS PRODUCT,VERSICLE,
VESTA,VIBRATION MODE,VICTORY HAND,VIDEO CAMERA,VIDEO GAME,VIDEOCASSETTE,
VIETNAMESE ALTERNATE READING MARK CA,VIETNAMESE ALTERNATE READING MARK NHAY,VIEWDATA SQUARE,VIOLIN,
VIRGO,VOIDED GREEK CROSS,VOLCANO,VOLLEYBALL,VOLUME INTEGRAL,VT,VTS,VULCANUS,WAFFLE,
WANING CRESCENT MOON SYMBOL,WANING GIBBOUS MOON SYMBOL,WARNING SIGN,WASTEBASKET,WATCH,WATERMELON,
WAXING CRESCENT MOON SYMBOL,WAXING GIBBOUS MOON SYMBOL,WEARY CAT FACE,WEARY FACE,WEDDING,
WEDGE-TAILED RIGHTWARDS ARROW,WEIERSTRASS ELLIPTIC FUNCTION,WEIGHT LIFTER,WEST SYRIAC CROSS,WHALE,
WHEEL,WHEEL OF DHARMA,WHEELCHAIR SYMBOL,WHITE-FEATHERED RIGHTWARDS ARROW,WIGGLY VERTICAL LINE,
WILTED FLOWER,WIND BLOWING FACE,WIND CHIME,WINDOW,WINE GLASS,WINKING FACE,WIRED KEYBOARD,WJ,
WOLF FACE,WOMAN,WOMAN WITH BUNNY EARS,WOMENS SYMBOL,WON SIGN,WOOD,WORD JOINER,
WORD SEPARATOR MIDDLE DOT,WORLD MAP,WORM,WORRIED FACE,WRAPPED PRESENT,WREATH PRODUCT,WRENCH,
WRESTLERS,WRITING HAND,X IN A RECTANGLE BOX,X-RAY,XOR,YAWNING FACE,YELLOW HEART,YEN SIGN,YIN YANG,
YO-YO,ZEBRA FACE,ZEUS,ZIPPER-MOUTH FACE,ZOMBIE,ZWJ,ZWNBSP,ZWNJ,ZWSP"

end ReviewDiff.Text
