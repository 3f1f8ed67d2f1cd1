/-!
# Names of characters, G to L

The first words that several names share, a colon and how these names go on, with commas between
them. A line that is set in goes on from the one above it that is set in less.
-/

set_option autoImplicit false

namespace ReviewDiff.Text

def thirdNames : String :=
"GEORGIAN:PARAGRAPH SEPARATOR
 CAPITAL LETTER:AEN,AN,BAN,CAN,CHAR,CHIN,CIL,DON,EN,GAN,GHAN,HAE,HAR,HE,HIE,HOE,IN,JHAN,JIL,KAN,
KHAR,LAS,MAN,NAR,ON,PAR,PHAR,QAR,RAE,SAN,SHIN,TAN,TAR,UN,VIN,WE,XAN,YN,ZEN,ZHAR
 LETTER:AEN,AIN,AN,BAN,CAN,CHAR,CHIN,CIL,DON,ELIFI,EN,FI,GAN,GHAN,HAE,HAR,HARD SIGN,HE,HIE,HOE,IN,
JHAN,JIL,KAN,KHAR,LABIAL SIGN,LAS,MAN,NAR,ON,PAR,PHAR,QAR,RAE,SAN,SHIN,TAN,TAR,TURNED GAN,UN,VIN,WE,
XAN,YN,ZEN,ZHAR
 MTAVRULI CAPITAL LETTER:AEN,AIN,AN,BAN,CAN,CHAR,CHIN,CIL,DON,ELIFI,EN,FI,GAN,GHAN,HAE,HAR,
HARD SIGN,HE,HIE,HOE,IN,JHAN,JIL,KAN,KHAR,LABIAL SIGN,LAS,MAN,NAR,ON,PAR,PHAR,QAR,RAE,SAN,SHIN,TAN,
TAR,TURNED GAN,UN,VIN,WE,XAN,YN,ZEN,ZHAR
 SMALL LETTER:AEN,AN,BAN,CAN,CHAR,CHIN,CIL,DON,EN,GAN,GHAN,HAE,HAR,HE,HIE,HOE,IN,JHAN,JIL,KAN,KHAR,
LAS,MAN,NAR,ON,PAR,PHAR,QAR,RAE,SAN,SHIN,TAN,TAR,UN,VIN,WE,XAN,YN,ZEN,ZHAR
GLAGOLITIC:
 CAPITAL LETTER:AZU,BIG YUS,BUKY,CAUDATE CHRIVI,CHRIVI,DJERVI,DOBRO,DZELO,FITA,FRITU,GLAGOLI,HERU,I,
INITIAL IZHE,IOTATED BIG YUS,IOTATED SMALL YUS,IZHE,IZHITSA,KAKO,LATINATE MYSLITE,LJUDIJE,MYSLITE,
NASHI,ONU,OTU,PE,POKOJI,RITSI,SHA,SHTA,SHTAPIC,SLOVO,SMALL YUS,SMALL YUS WITH TAIL,SPIDERY HA,
TROKUTASTI A,TSI,TVRIDO,UKU,VEDE,YATI,YERI,YERU,YESTU,YO,YU,ZEMLJA,ZHIVETE
 SMALL LETTER:AZU,BIG YUS,BUKY,CAUDATE CHRIVI,CHRIVI,DJERVI,DOBRO,DZELO,FITA,FRITU,GLAGOLI,HERU,I,
INITIAL IZHE,IOTATED BIG YUS,IOTATED SMALL YUS,IZHE,IZHITSA,KAKO,LATINATE MYSLITE,LJUDIJE,MYSLITE,
NASHI,ONU,OTU,PE,POKOJI,RITSI,SHA,SHTA,SHTAPIC,SLOVO,SMALL YUS,SMALL YUS WITH TAIL,SPIDERY HA,
TROKUTASTI A,TSI,TVRIDO,UKU,VEDE,YATI,YERI,YERU,YESTU,YO,YU,ZEMLJA,ZHIVETE
GOTHIC LETTER:AHSA,AIHVUS,BAIRKAN,DAGS,EIS,FAIHU,GIBA,HAGL,HWAIR,IGGWS,IUJA,JER,KUSMA,LAGUS,MANNA,
NAUTHS,NINE HUNDRED,NINETY,OTHAL,PAIRTHRA,QAIRTHRA,RAIDA,SAUIL,TEIWS,THIUTH,URUS,WINJA
GRANTHA:AU LENGTH MARK,OM
 LETTER:A,AA,AI,AU,BA,BHA,CA,CHA,DA,DDA,DDHA,DHA,EE,GA,GHA,HA,I,II,JA,JHA,KA,KHA,LA,LLA,MA,NA,NGA,
NNA,NYA,OO,PA,PHA,RA,SA,SHA,SSA,TA,THA,TTA,TTHA,U,UU,VA,VEDIC ANUSVARA,VEDIC DOUBLE ANUSVARA,YA
  VOCALIC:L,LL,R,RR
 SIGN:ANUSVARA,AVAGRAHA,CANDRABINDU,COMBINING ANUSVARA ABOVE,NUKTA,PLUTA,VIRAMA,VISARGA
 VOWEL SIGN:AA,AI,AU,EE,I,II,OO,U,UU
  VOCALIC:L,LL,R,RR
GREATER-THAN:AND NOT APPROXIMATE,AND SINGLE-LINE NOT EQUAL TO,BESIDE LESS-THAN,BUT NOT EQUAL TO,
BUT NOT EQUIVALENT TO,CLOSED BY CURVE,CLOSED BY CURVE ABOVE SLANTED EQUAL,EQUAL TO OR LESS-THAN,
OVER EQUAL TO,OVERLAPPING LESS-THAN,SIGN
 ABOVE:DOUBLE-LINE EQUAL ABOVE LESS-THAN,LESS-THAN ABOVE DOUBLE-LINE EQUAL,RIGHTWARDS ARROW,
SIMILAR ABOVE LESS-THAN,SIMILAR OR EQUAL,SLANTED EQUAL ABOVE LESS-THAN ABOVE SLANTED EQUAL
 OR:APPROXIMATE,EQUAL TO,EQUIVALENT TO,LESS-THAN,SLANTED EQUAL TO
  SLANTED EQUAL TO WITH DOT:ABOVE,ABOVE LEFT,INSIDE
 WITH:CIRCLE INSIDE,DOT,QUESTION MARK ABOVE
GREEK:ANO TELEIA,AROURA SIGN,ARTABE SIGN,BETA SYMBOL,DASIA,DRACHMA SIGN,FIVE OBOLS SIGN,
FOUR OBOLS SIGN,GRAMMA SIGN,INDICTION SIGN,KAI SYMBOL,KAPPA SYMBOL,KORONIS,KYATHOS BASE SIGN,
LITRA SIGN,LOWER NUMERAL SIGN,LUNATE EPSILON SYMBOL,LUNATE SIGMA SYMBOL,METRETES SIGN,
MUSICAL LEIMMA,NUMERAL SIGN,OBOL SIGN,OUNKIA SIGN,OXIA,PERISPOMENI,PHI SYMBOL,PI SYMBOL,
PROSGEGRAMMENI,PSILI,QUESTION MARK,REVERSED LUNATE EPSILON SYMBOL,RHO SYMBOL,RHO WITH STROKE SYMBOL,
SINUSOID SIGN,SYMBOL TAU RHO,TALENT SIGN,THETA SYMBOL,THREE OBOLS SIGN,THREE QUARTERS SIGN,TONOS,
TRYBLION BASE SIGN,TWO OBOLS SIGN,TWO THIRDS SIGN,VARIA,XESTES SIGN,YEAR SIGN,YPOGEGRAMMENI,
ZERO SIGN
 ACROPHONIC:CARYSTIAN FIVE HUNDRED,CYRENAIC TWO DRACHMAS,DELPHIC FIVE MNAS,HERAEUM ONE PLETHRON,
MESSENIAN TEN,NAXIAN FIVE HUNDRED,STRATIAN FIFTY MNAS
  ATTIC:FIFTY,FIVE
   FIFTY:STATERS,TALENTS,THOUSAND,THOUSAND STATERS
   FIVE:HUNDRED,HUNDRED STATERS,HUNDRED TALENTS,STATERS,TALENTS,THOUSAND,THOUSAND TALENTS
   ONE:DRACHMA,HALF,HUNDRED STATERS,HUNDRED TALENTS,QUARTER,THOUSAND STATERS,THOUSAND TALENTS
   TEN:MNAS,STATERS,TALENTS,THOUSAND STATERS
  EPIDAUREAN:FIVE HUNDRED,TWO,TWO DRACHMAS
  HERMIONIAN:FIFTY,ONE,TEN
  THESPIAN:FIFTY,FIVE HUNDRED,FIVE THOUSAND,ONE,ONE HUNDRED,ONE THOUSAND,TEN,THIRTY,THREE HUNDRED,
TWO
  TROEZENIAN:FIFTY,FIFTY ALTERNATE FORM,FIVE,FIVE HUNDRED,TEN,TEN ALTERNATE FORM
 CAPITAL:DOTTED LUNATE SIGMA SYMBOL,KAI SYMBOL,LUNATE SIGMA SYMBOL,
REVERSED DOTTED LUNATE SIGMA SYMBOL,REVERSED LUNATE SIGMA SYMBOL,THETA SYMBOL
  LETTER:ALPHA,ARCHAIC SAMPI,BETA,CHI,DELTA,EPSILON,ETA,GAMMA,HETA,IOTA,KAPPA,LAMDA,MU,NU,OMEGA,
OMICRON,PAMPHYLIAN DIGAMMA,PHI,PI,PSI,RHO,RHO WITH DASIA,SAN,SHO,SIGMA,TAU,THETA,UPSILON,XI,YOT,
ZETA
   ALPHA WITH:DASIA,MACRON,OXIA,PROSGEGRAMMENI,PSILI,TONOS,VARIA,VRACHY
    DASIA AND:OXIA,OXIA AND PROSGEGRAMMENI,PERISPOMENI,PERISPOMENI AND PROSGEGRAMMENI,
PROSGEGRAMMENI,VARIA,VARIA AND PROSGEGRAMMENI
    PSILI AND:OXIA,OXIA AND PROSGEGRAMMENI,PERISPOMENI,PERISPOMENI AND PROSGEGRAMMENI,
PROSGEGRAMMENI,VARIA,VARIA AND PROSGEGRAMMENI
   EPSILON WITH:DASIA,DASIA AND OXIA,DASIA AND VARIA,OXIA,PSILI,PSILI AND OXIA,PSILI AND VARIA,
TONOS,VARIA
   ETA WITH:DASIA,OXIA,PROSGEGRAMMENI,PSILI,TONOS,VARIA
    DASIA AND:OXIA,OXIA AND PROSGEGRAMMENI,PERISPOMENI,PERISPOMENI AND PROSGEGRAMMENI,
PROSGEGRAMMENI,VARIA,VARIA AND PROSGEGRAMMENI
    PSILI AND:OXIA,OXIA AND PROSGEGRAMMENI,PERISPOMENI,PERISPOMENI AND PROSGEGRAMMENI,
PROSGEGRAMMENI,VARIA,VARIA AND PROSGEGRAMMENI
   IOTA WITH:DASIA,DIALYTIKA,MACRON,OXIA,PSILI,TONOS,VARIA,VRACHY
    DASIA AND:OXIA,PERISPOMENI,VARIA
    PSILI AND:OXIA,PERISPOMENI,VARIA
   OMEGA WITH:DASIA,OXIA,PROSGEGRAMMENI,PSILI,TONOS,VARIA
    DASIA AND:OXIA,OXIA AND PROSGEGRAMMENI,PERISPOMENI,PERISPOMENI AND PROSGEGRAMMENI,
PROSGEGRAMMENI,VARIA,VARIA AND PROSGEGRAMMENI
    PSILI AND:OXIA,OXIA AND PROSGEGRAMMENI,PERISPOMENI,PERISPOMENI AND PROSGEGRAMMENI,
PROSGEGRAMMENI,VARIA,VARIA AND PROSGEGRAMMENI
   OMICRON WITH:DASIA,DASIA AND OXIA,DASIA AND VARIA,OXIA,PSILI,PSILI AND OXIA,PSILI AND VARIA,
TONOS,VARIA
   UPSILON WITH:DASIA,DIALYTIKA,MACRON,OXIA,TONOS,VARIA,VRACHY
    DASIA AND:OXIA,PERISPOMENI,VARIA
 DASIA AND:OXIA,PERISPOMENI,VARIA
 DIALYTIKA:TONOS
  AND:OXIA,PERISPOMENI,VARIA
 INSTRUMENTAL NOTATION:SYMBOL-1,SYMBOL-11,SYMBOL-12,SYMBOL-13,SYMBOL-14,SYMBOL-17,SYMBOL-18,
SYMBOL-19,SYMBOL-2,SYMBOL-23,SYMBOL-24,SYMBOL-25,SYMBOL-26,SYMBOL-27,SYMBOL-29,SYMBOL-30,SYMBOL-32,
SYMBOL-36,SYMBOL-37,SYMBOL-38,SYMBOL-39,SYMBOL-4,SYMBOL-40,SYMBOL-42,SYMBOL-43,SYMBOL-45,SYMBOL-47,
SYMBOL-48,SYMBOL-49,SYMBOL-5,SYMBOL-50,SYMBOL-51,SYMBOL-52,SYMBOL-53,SYMBOL-54,SYMBOL-7,SYMBOL-8
 LETTER:ARCHAIC KOPPA,DIGAMMA,KOPPA,SAMPI,STIGMA,YOT
  SMALL CAPITAL:GAMMA,LAMDA,OMEGA,PI,PSI,RHO
 ONE:HALF SIGN,HALF SIGN ALTERNATE FORM,QUARTER SIGN
 PSILI AND:OXIA,PERISPOMENI,VARIA
 SMALL:DOTTED LUNATE SIGMA SYMBOL,REVERSED DOTTED LUNATE SIGMA SYMBOL,REVERSED LUNATE SIGMA SYMBOL
  LETTER:ALPHA,ARCHAIC KOPPA,ARCHAIC SAMPI,BETA,CHI,DELTA,DIGAMMA,EPSILON,ETA,FINAL SIGMA,GAMMA,
HETA,IOTA,KAPPA,KOPPA,LAMDA,MU,NU,OMEGA,OMICRON,PAMPHYLIAN DIGAMMA,PHI,PI,PSI,RHO,RHO WITH DASIA,
RHO WITH PSILI,SAMPI,SAN,SHO,SIGMA,STIGMA,TAU,THETA,UPSILON,XI,ZETA
   ALPHA WITH:DASIA,MACRON,OXIA,OXIA AND YPOGEGRAMMENI,PERISPOMENI,PERISPOMENI AND YPOGEGRAMMENI,
PSILI,TONOS,VARIA,VARIA AND YPOGEGRAMMENI,VRACHY,YPOGEGRAMMENI
    DASIA AND:OXIA,OXIA AND YPOGEGRAMMENI,PERISPOMENI,PERISPOMENI AND YPOGEGRAMMENI,VARIA,
VARIA AND YPOGEGRAMMENI,YPOGEGRAMMENI
    PSILI AND:OXIA,OXIA AND YPOGEGRAMMENI,PERISPOMENI,PERISPOMENI AND YPOGEGRAMMENI,VARIA,
VARIA AND YPOGEGRAMMENI,YPOGEGRAMMENI
   EPSILON WITH:DASIA,DASIA AND OXIA,DASIA AND VARIA,OXIA,PSILI,PSILI AND OXIA,PSILI AND VARIA,
TONOS,VARIA
   ETA WITH:DASIA,OXIA,OXIA AND YPOGEGRAMMENI,PERISPOMENI,PERISPOMENI AND YPOGEGRAMMENI,PSILI,TONOS,
VARIA,VARIA AND YPOGEGRAMMENI,YPOGEGRAMMENI
    DASIA AND:OXIA,OXIA AND YPOGEGRAMMENI,PERISPOMENI,PERISPOMENI AND YPOGEGRAMMENI,VARIA,
VARIA AND YPOGEGRAMMENI,YPOGEGRAMMENI
    PSILI AND:OXIA,OXIA AND YPOGEGRAMMENI,PERISPOMENI,PERISPOMENI AND YPOGEGRAMMENI,VARIA,
VARIA AND YPOGEGRAMMENI,YPOGEGRAMMENI
   IOTA WITH:DASIA,DIALYTIKA,MACRON,OXIA,PERISPOMENI,PSILI,TONOS,VARIA,VRACHY
    DASIA AND:OXIA,PERISPOMENI,VARIA
    DIALYTIKA AND:OXIA,PERISPOMENI,TONOS,VARIA
    PSILI AND:OXIA,PERISPOMENI,VARIA
   OMEGA WITH:DASIA,OXIA,OXIA AND YPOGEGRAMMENI,PERISPOMENI,PERISPOMENI AND YPOGEGRAMMENI,PSILI,
TONOS,VARIA,VARIA AND YPOGEGRAMMENI,YPOGEGRAMMENI
    DASIA AND:OXIA,OXIA AND YPOGEGRAMMENI,PERISPOMENI,PERISPOMENI AND YPOGEGRAMMENI,VARIA,
VARIA AND YPOGEGRAMMENI,YPOGEGRAMMENI
    PSILI AND:OXIA,OXIA AND YPOGEGRAMMENI,PERISPOMENI,PERISPOMENI AND YPOGEGRAMMENI,VARIA,
VARIA AND YPOGEGRAMMENI,YPOGEGRAMMENI
   OMICRON WITH:DASIA,DASIA AND OXIA,DASIA AND VARIA,OXIA,PSILI,PSILI AND OXIA,PSILI AND VARIA,
TONOS,VARIA
   UPSILON WITH:DASIA,DIALYTIKA,MACRON,OXIA,PERISPOMENI,PSILI,TONOS,VARIA,VRACHY
    DASIA AND:OXIA,PERISPOMENI,VARIA
    DIALYTIKA AND:OXIA,PERISPOMENI,TONOS,VARIA
    PSILI AND:OXIA,PERISPOMENI,VARIA
 SUBSCRIPT SMALL LETTER:BETA,CHI,GAMMA,PHI,RHO
 UPSILON WITH:ACUTE AND HOOK SYMBOL,DIAERESIS AND HOOK SYMBOL,HOOK SYMBOL
 VOCAL NOTATION:SYMBOL-1,SYMBOL-10,SYMBOL-11,SYMBOL-12,SYMBOL-13,SYMBOL-14,SYMBOL-15,SYMBOL-16,
SYMBOL-17,SYMBOL-18,SYMBOL-19,SYMBOL-2,SYMBOL-20,SYMBOL-21,SYMBOL-22,SYMBOL-23,SYMBOL-24,SYMBOL-3,
SYMBOL-4,SYMBOL-5,SYMBOL-50,SYMBOL-51,SYMBOL-52,SYMBOL-53,SYMBOL-54,SYMBOL-6,SYMBOL-7,SYMBOL-8,
SYMBOL-9
GREEN:APPLE,BOOK,HEART,SALAD
GRINNING:CAT FACE WITH SMILING EYES,FACE
 FACE WITH:ONE LARGE AND ONE SMALL EYE,SMILING EYES,STAR EYES
GUJARATI:ABBREVIATION SIGN,OM,RUPEE SIGN
 DIGIT:EIGHT,FIVE,FOUR,NINE,ONE,SEVEN,SIX,THREE,TWO,ZERO
 LETTER:A,AA,AI,AU,BA,BHA,CA,CHA,DA,DDA,DDHA,DHA,E,GA,GHA,HA,I,II,JA,JHA,KA,KHA,LA,LLA,MA,NA,NGA,
NNA,NYA,O,PA,PHA,RA,SA,SHA,SSA,TA,THA,TTA,TTHA,U,UU,VA,YA,ZHA
  VOCALIC:L,LL,R,RR
 SIGN:ANUSVARA,AVAGRAHA,CANDRABINDU,CIRCLE NUKTA ABOVE,MADDAH,NUKTA,SHADDA,SUKUN,
THREE-DOT NUKTA ABOVE,TWO-CIRCLE NUKTA ABOVE,VIRAMA,VISARGA
 VOWEL:CANDRA E,CANDRA O
  SIGN:AA,AI,AU,CANDRA E,CANDRA O,E,I,II,O,U,UU
   VOCALIC:L,LL,R,RR
GUNJALA GONDI:OM,SIGN ANUSVARA,SIGN VISARGA,VIRAMA
 DIGIT:EIGHT,FIVE,FOUR,NINE,ONE,SEVEN,SIX,THREE,TWO,ZERO
 LETTER:A,AA,AI,AU,BA,BHA,CA,CHA,DA,DDA,DDHA,DHA,EE,GA,GHA,HA,I,II,JA,JHA,KA,KHA,LA,LLA,MA,NA,NGA,
OO,PA,PHA,RA,SA,TA,THA,TTA,TTHA,U,UU,VA,YA
 VOWEL SIGN:AA,AI,AU,EE,I,II,OO,U,UU
GURMUKHI:ABBREVIATION SIGN,ADDAK,EK ONKAR,IRI,TIPPI,URA
 DIGIT:EIGHT,FIVE,FOUR,NINE,ONE,SEVEN,SIX,THREE,TWO,ZERO
 LETTER:A,AA,AI,AU,BA,BHA,CA,CHA,DA,DDA,DDHA,DHA,EE,FA,GA,GHA,GHHA,HA,I,II,JA,JHA,KA,KHA,KHHA,LA,
LLA,MA,NA,NGA,NNA,NYA,OO,PA,PHA,RA,RRA,SA,SHA,TA,THA,TTA,TTHA,U,UU,VA,YA,ZA
 SIGN:ADAK BINDI,BINDI,NUKTA,UDAAT,VIRAMA,VISARGA,YAKASH
 VOWEL SIGN:AA,AI,AU,EE,I,II,OO,U,UU
HALFWIDTH:BLACK SQUARE,DOWNWARDS ARROW,FORMS LIGHT VERTICAL,IDEOGRAPHIC COMMA,IDEOGRAPHIC FULL STOP,
KATAKANA-HIRAGANA PROLONGED SOUND MARK,LEFT CORNER BRACKET,LEFTWARDS ARROW,RIGHT CORNER BRACKET,
RIGHTWARDS ARROW,UPWARDS ARROW,WHITE CIRCLE
 HANGUL:FILLER
  LETTER:A,AE,CHIEUCH,CIEUC,E,EO,EU,HIEUH,I,IEUNG,KHIEUKH,KIYEOK,KIYEOK-SIOS,MIEUM,NIEUN,
NIEUN-CIEUC,NIEUN-HIEUH,O,OE,PHIEUPH,PIEUP,PIEUP-SIOS,RIEUL,RIEUL-HIEUH,RIEUL-KIYEOK,RIEUL-MIEUM,
RIEUL-PHIEUPH,RIEUL-PIEUP,RIEUL-SIOS,RIEUL-THIEUTH,SIOS,SSANGCIEUC,SSANGKIYEOK,SSANGPIEUP,SSANGSIOS,
SSANGTIKEUT,THIEUTH,TIKEUT,U,WA,WAE,WE,WEO,WI,YA,YAE,YE,YEO,YI,YO,YU
 KATAKANA:MIDDLE DOT,SEMI-VOICED SOUND MARK,VOICED SOUND MARK
  LETTER:A,E,HA,HE,HI,HO,HU,I,KA,KE,KI,KO,KU,MA,ME,MI,MO,MU,N,NA,NE,NI,NO,NU,O,RA,RE,RI,RO,RU,SA,SE,
SI,SO,SU,TA,TE,TI,TO,TU,U,WA,WO,YA,YO,YU
   SMALL:A,E,I,O,TU,U,YA,YO,YU
HAMMER AND:PICK,SICKLE,WRENCH
HANGUL:DOUBLE DOT TONE MARK,FILLER,SINGLE DOT TONE MARK
 CHOSEONG:CEONGCHIEUMCHIEUCH,CEONGCHIEUMCIEUC,CEONGCHIEUMSIOS,CEONGCHIEUMSSANGCIEUC,
CEONGCHIEUMSSANGSIOS,CHIEUCH,CHIEUCH-HIEUH,CHIEUCH-KHIEUKH,CHITUEUMCHIEUCH,CHITUEUMCIEUC,
CHITUEUMSIOS,CHITUEUMSSANGCIEUC,CHITUEUMSSANGSIOS,CIEUC,CIEUC-IEUNG,FILLER,HIEUH,HIEUH-SIOS,IEUNG,
IEUNG-CHIEUCH,IEUNG-CIEUC,IEUNG-HIEUH,IEUNG-KIYEOK,IEUNG-MIEUM,IEUNG-PANSIOS,IEUNG-PHIEUPH,
IEUNG-PIEUP,IEUNG-RIEUL,IEUNG-SIOS,IEUNG-THIEUTH,IEUNG-TIKEUT,KAPYEOUNMIEUM,KAPYEOUNPHIEUPH,
KAPYEOUNPIEUP,KAPYEOUNRIEUL,KAPYEOUNSSANGPIEUP,KHIEUKH,KIYEOK,KIYEOK-TIKEUT,MIEUM,MIEUM-KIYEOK,
MIEUM-PIEUP,MIEUM-SIOS,MIEUM-TIKEUT,NIEUN,NIEUN-CIEUC,NIEUN-HIEUH,NIEUN-KIYEOK,NIEUN-PIEUP,
NIEUN-SIOS,NIEUN-TIKEUT,PANSIOS,PHIEUPH,PHIEUPH-HIEUH,PHIEUPH-PIEUP,PIEUP,PIEUP-CHIEUCH,PIEUP-CIEUC,
PIEUP-HIEUH,PIEUP-KHIEUKH,PIEUP-KIYEOK,PIEUP-NIEUN,PIEUP-PHIEUPH,PIEUP-SIOS,PIEUP-SIOS-CIEUC,
PIEUP-SIOS-KIYEOK,PIEUP-SIOS-PIEUP,PIEUP-SIOS-THIEUTH,PIEUP-SIOS-TIKEUT,PIEUP-SSANGSIOS,
PIEUP-THIEUTH,PIEUP-TIKEUT,RIEUL,RIEUL-CIEUC,RIEUL-HIEUH,RIEUL-KAPYEOUNPIEUP,RIEUL-KHIEUKH,
RIEUL-KIYEOK,RIEUL-MIEUM,RIEUL-NIEUN,RIEUL-PIEUP,RIEUL-SIOS,RIEUL-SSANGKIYEOK,RIEUL-SSANGPIEUP,
RIEUL-SSANGTIKEUT,RIEUL-TIKEUT,SIOS,SIOS-CHIEUCH,SIOS-CIEUC,SIOS-HIEUH,SIOS-IEUNG,SIOS-KHIEUKH,
SIOS-KIYEOK,SIOS-MIEUM,SIOS-NIEUN,SIOS-PHIEUPH,SIOS-PIEUP,SIOS-PIEUP-KIYEOK,SIOS-RIEUL,
SIOS-SSANGSIOS,SIOS-THIEUTH,SIOS-TIKEUT,SSANGCIEUC,SSANGCIEUC-HIEUH,SSANGHIEUH,SSANGIEUNG,
SSANGKIYEOK,SSANGNIEUN,SSANGPIEUP,SSANGRIEUL,SSANGSIOS,SSANGSIOS-PIEUP,SSANGTHIEUTH,SSANGTIKEUT,
SSANGYEORINHIEUH,THIEUTH,TIKEUT,TIKEUT-CIEUC,TIKEUT-KIYEOK,TIKEUT-MIEUM,TIKEUT-PIEUP,TIKEUT-RIEUL,
TIKEUT-SIOS,YEORINHIEUH,YESIEUNG
 JONGSEONG:CHIEUCH,CIEUC,CIEUC-PIEUP,CIEUC-SSANGPIEUP,HIEUH,HIEUH-MIEUM,HIEUH-NIEUN,HIEUH-PIEUP,
HIEUH-RIEUL,IEUNG,IEUNG-KHIEUKH,IEUNG-KIYEOK,IEUNG-SSANGKIYEOK,KAPYEOUNMIEUM,KAPYEOUNPHIEUPH,
KAPYEOUNPIEUP,KAPYEOUNRIEUL,KHIEUKH,KIYEOK,KIYEOK-CHIEUCH,KIYEOK-HIEUH,KIYEOK-KHIEUKH,KIYEOK-NIEUN,
KIYEOK-PIEUP,KIYEOK-RIEUL,KIYEOK-SIOS,KIYEOK-SIOS-KIYEOK,MIEUM,MIEUM-CHIEUCH,MIEUM-CIEUC,
MIEUM-HIEUH,MIEUM-KIYEOK,MIEUM-NIEUN,MIEUM-PANSIOS,MIEUM-PIEUP,MIEUM-PIEUP-SIOS,MIEUM-RIEUL,
MIEUM-SIOS,MIEUM-SSANGNIEUN,MIEUM-SSANGSIOS,NIEUN,NIEUN-CHIEUCH,NIEUN-CIEUC,NIEUN-HIEUH,
NIEUN-KIYEOK,NIEUN-PANSIOS,NIEUN-RIEUL,NIEUN-SIOS,NIEUN-THIEUTH,NIEUN-TIKEUT,PANSIOS,
PANSIOS-KAPYEOUNPIEUP,PANSIOS-PIEUP,PHIEUPH,PHIEUPH-PIEUP,PHIEUPH-SIOS,PHIEUPH-THIEUTH,PIEUP,
PIEUP-CHIEUCH,PIEUP-CIEUC,PIEUP-HIEUH,PIEUP-MIEUM,PIEUP-PHIEUPH,PIEUP-RIEUL,PIEUP-RIEUL-PHIEUPH,
PIEUP-SIOS,PIEUP-SIOS-TIKEUT,PIEUP-TIKEUT,RIEUL,RIEUL-HIEUH,RIEUL-KAPYEOUNPIEUP,RIEUL-KHIEUKH,
RIEUL-KIYEOK,RIEUL-KIYEOK-HIEUH,RIEUL-KIYEOK-SIOS,RIEUL-MIEUM,RIEUL-MIEUM-HIEUH,RIEUL-MIEUM-KIYEOK,
RIEUL-MIEUM-SIOS,RIEUL-NIEUN,RIEUL-PANSIOS,RIEUL-PHIEUPH,RIEUL-PIEUP,RIEUL-PIEUP-HIEUH,
RIEUL-PIEUP-PHIEUPH,RIEUL-PIEUP-SIOS,RIEUL-PIEUP-TIKEUT,RIEUL-SIOS,RIEUL-SSANGKIYEOK,
RIEUL-SSANGSIOS,RIEUL-THIEUTH,RIEUL-TIKEUT,RIEUL-TIKEUT-HIEUH,RIEUL-YEORINHIEUH,
RIEUL-YEORINHIEUH-HIEUH,RIEUL-YESIEUNG,SIOS,SIOS-CHIEUCH,SIOS-CIEUC,SIOS-HIEUH,SIOS-KAPYEOUNPIEUP,
SIOS-KIYEOK,SIOS-MIEUM,SIOS-PANSIOS,SIOS-PIEUP,SIOS-RIEUL,SIOS-THIEUTH,SIOS-TIKEUT,SSANGCIEUC,
SSANGIEUNG,SSANGKIYEOK,SSANGMIEUM,SSANGNIEUN,SSANGPIEUP,SSANGRIEUL,SSANGRIEUL-KHIEUKH,SSANGSIOS,
SSANGSIOS-KIYEOK,SSANGSIOS-TIKEUT,SSANGTIKEUT,SSANGTIKEUT-PIEUP,SSANGYESIEUNG,THIEUTH,TIKEUT,
TIKEUT-CHIEUCH,TIKEUT-CIEUC,TIKEUT-KIYEOK,TIKEUT-PIEUP,TIKEUT-RIEUL,TIKEUT-SIOS,TIKEUT-SIOS-KIYEOK,
TIKEUT-THIEUTH,YEORINHIEUH,YESIEUNG,YESIEUNG-HIEUH,YESIEUNG-KHIEUKH,YESIEUNG-KIYEOK,YESIEUNG-MIEUM,
YESIEUNG-PANSIOS,YESIEUNG-SIOS,YESIEUNG-SSANGKIYEOK
 JUNGSEONG:A,A-EU,A-O,A-U,AE,ARAEA,ARAEA-A,ARAEA-E,ARAEA-EO,ARAEA-I,ARAEA-U,E,EO,EO-EU,EO-O,EO-U,EU,
EU-A,EU-E,EU-EO,EU-EU,EU-O,EU-U,FILLER,I,I-A,I-ARAEA,I-EU,I-I,I-O,I-O-I,I-U,I-YA,I-YA-O,I-YAE,I-YE,
I-YEO,I-YO,I-YU,O,O-E,O-EO,O-O,O-O-I,O-U,O-YA,O-YAE,O-YE,O-YEO,OE,SSANGARAEA,U,U-A,U-AE,U-EO-EU,
U-I-I,U-U,U-YE,U-YEO,WA,WAE,WE,WEO,WI,YA,YA-O,YA-U,YA-YO,YAE,YE,YEO,YEO-O,YEO-U,YEO-YA,YI,YI-U,YO,
YO-A,YO-AE,YO-EO,YO-I,YO-O,YO-YA,YO-YAE,YO-YEO,YU,YU-A,YU-AE,YU-E,YU-EO,YU-I,YU-O,YU-U,YU-YE,YU-YEO
 LETTER:A,AE,ARAEA,ARAEAE,CHIEUCH,CIEUC,E,EO,EU,HIEUH,I,IEUNG,KAPYEOUNMIEUM,KAPYEOUNPHIEUPH,
KAPYEOUNPIEUP,KAPYEOUNSSANGPIEUP,KHIEUKH,KIYEOK,KIYEOK-SIOS,MIEUM,MIEUM-PANSIOS,MIEUM-PIEUP,
MIEUM-SIOS,NIEUN,NIEUN-CIEUC,NIEUN-HIEUH,NIEUN-PANSIOS,NIEUN-SIOS,NIEUN-TIKEUT,O,OE,PANSIOS,PHIEUPH,
PIEUP,PIEUP-CIEUC,PIEUP-KIYEOK,PIEUP-SIOS,PIEUP-SIOS-KIYEOK,PIEUP-SIOS-TIKEUT,PIEUP-THIEUTH,
PIEUP-TIKEUT,RIEUL,RIEUL-HIEUH,RIEUL-KIYEOK,RIEUL-KIYEOK-SIOS,RIEUL-MIEUM,RIEUL-PANSIOS,
RIEUL-PHIEUPH,RIEUL-PIEUP,RIEUL-PIEUP-SIOS,RIEUL-SIOS,RIEUL-THIEUTH,RIEUL-TIKEUT,RIEUL-YEORINHIEUH,
SIOS,SIOS-CIEUC,SIOS-KIYEOK,SIOS-NIEUN,SIOS-PIEUP,SIOS-TIKEUT,SSANGCIEUC,SSANGHIEUH,SSANGIEUNG,
SSANGKIYEOK,SSANGNIEUN,SSANGPIEUP,SSANGSIOS,SSANGTIKEUT,THIEUTH,TIKEUT,U,WA,WAE,WE,WEO,WI,YA,YAE,YE,
YEO,YEORINHIEUH,YESIEUNG,YESIEUNG-PANSIOS,YESIEUNG-SIOS,YI,YO,YO-I,YO-YA,YO-YAE,YU,YU-I,YU-YE,
YU-YEO
HANGZHOU NUMERAL:EIGHT,FIVE,FOUR,NINE,ONE,SEVEN,SIX,TEN,THIRTY,THREE,TWENTY,TWO
HANIFI ROHINGYA:MARK NA KHONNA,MARK SAKIN
 DIGIT:EIGHT,FIVE,FOUR,NINE,ONE,SEVEN,SIX,THREE,TWO,ZERO
 LETTER:A,BA,CA,DA,DDA,FA,GA,HA,JA,KA,KHA,KINNA WA,KINNA YA,LA,MA,NA,NGA,NYA,PA,RA,RRA,SA,SHA,TA,
TTA,VA,WA,YA,ZA
 SIGN:HARBAHAY,TAHALA,TANA,TASSI
 VOWEL:A,E,I,O,U
HANUNOO:SIGN PAMUDPOD,VOWEL SIGN I,VOWEL SIGN U
 LETTER:A,BA,DA,GA,HA,I,KA,LA,MA,NA,NGA,PA,RA,SA,TA,U,WA,YA
HATRAN:
 LETTER:ALEPH,AYN,BETH,DALETH-RESH,GIMEL,HE,HETH,KAPH,LAMEDH,MEM,NUN,PE,QOPH,SADHE,SAMEKH,SHIN,TAW,
TETH,WAW,YODH,ZAYN
 NUMBER:FIVE,ONE,ONE HUNDRED,TEN,TWENTY
HEART:DECORATION,HANDS
 WITH:ARROW,RIBBON,TIP ON THE LEFT
HEAVY:AMPERSAND ORNAMENT,ASTERISK,BALLOT X,CHECK MARK,CHEVRON SNOWFLAKE,CIRCLE,
CIRCLE WITH CIRCLE INSIDE,CIRCLE WITH STROKE AND TWO DOTS ABOVE,CIRCLED SALTIRE,
CONCAVE-POINTED BLACK RIGHTWARDS ARROW,DASHED TRIANGLE-HEADED RIGHTWARDS ARROW,DIVISION SIGN,
DOLLAR SIGN,DOUBLE COMMA QUOTATION MARK ORNAMENT,DOUBLE TURNED COMMA QUOTATION MARK ORNAMENT,
DOWNWARDS ARROW WITH EQUILATERAL ARROWHEAD,DOWNWARDS ARROW WITH LARGE EQUILATERAL ARROWHEAD,
EQUALS SIGN,EXCLAMATION MARK ORNAMENT,EXCLAMATION MARK SYMBOL,FIVE POINTED BLACK STAR,
FIVE SPOKED ASTERISK,FOUR BALLOON-SPOKED ASTERISK,GREEK CROSS,HEART EXCLAMATION MARK ORNAMENT,
HORIZONTAL FILL,INTERROBANG ORNAMENT,LARGE CIRCLE,LATIN CROSS,LEFT-POINTING ANGLE BRACKET ORNAMENT,
LEFT-POINTING ANGLE QUOTATION MARK ORNAMENT,LEFTWARDS ARROW WITH EQUILATERAL ARROWHEAD,
LEFTWARDS ARROW WITH LARGE EQUILATERAL ARROWHEAD,LIGATURE OPEN ET ORNAMENT,
LOW DOUBLE COMMA QUOTATION MARK ORNAMENT,LOW SINGLE COMMA QUOTATION MARK ORNAMENT,
LOWER RIGHT-SHADOWED WHITE RIGHTWARDS ARROW,MINUS SIGN,MULTIPLICATION X,OPEN CENTRE CROSS,
OUTLINED BLACK STAR,OVAL WITH OVAL INSIDE,PLUS SIGN,RIGHT-POINTING ANGLE BRACKET ORNAMENT,
RIGHT-POINTING ANGLE QUOTATION MARK ORNAMENT,RIGHTWARDS ARROW,
RIGHTWARDS ARROW WITH EQUILATERAL ARROWHEAD,RIGHTWARDS ARROW WITH LARGE EQUILATERAL ARROWHEAD,
ROUND-TIPPED RIGHTWARDS ARROW,SALTIRE,SANS-SERIF INTERROBANG ORNAMENT,SCRIPT LIGATURE ET ORNAMENT,
SINGLE COMMA QUOTATION MARK ORNAMENT,SINGLE TURNED COMMA QUOTATION MARK ORNAMENT,
SIX POINTED BLACK STAR,SIX SPOKED ASTERISK,SPARKLE,TEARDROP-SHANKED RIGHTWARDS ARROW,
TEARDROP-SPOKED ASTERISK,TEARDROP-SPOKED PINWHEEL ASTERISK,TRIANGLE-HEADED RIGHTWARDS ARROW,
TWELVE POINTED BLACK STAR,TWELVE POINTED PINWHEEL STAR,UPPER RIGHT-SHADOWED WHITE RIGHTWARDS ARROW,
UPWARDS ARROW WITH EQUILATERAL ARROWHEAD,UPWARDS ARROW WITH LARGE EQUILATERAL ARROWHEAD,
VERTICAL BAR,WEDGE-TAILED RIGHTWARDS ARROW,WIDE-HEADED RIGHTWARDS ARROW
 ARROW SHAFT WIDTH:ONE,ONE HALF,ONE THIRD,TWO THIRDS
 BLACK:CURVED DOWNWARDS AND RIGHTWARDS ARROW,CURVED UPWARDS AND RIGHTWARDS ARROW,HEART
 BLACK-FEATHERED:NORTH EAST ARROW,RIGHTWARDS ARROW,SOUTH EAST ARROW
 EIGHT:SPOKED ASTERISK,TEARDROP-SPOKED PROPELLER ASTERISK
  POINTED:BLACK STAR,PINWHEEL STAR,RECTILINEAR BLACK STAR
 NORTH:WEST POINTING BUD,WEST POINTING VINE LEAF
  EAST:ARROW,POINTING BUD,POINTING VINE LEAF
 SOUTH:WEST POINTING BUD,WEST POINTING VINE LEAF
  EAST:ARROW,POINTING BUD,POINTING VINE LEAF
 WHITE:CIRCLE,DOWN-POINTING TRIANGLE,SQUARE
HEBREW:YOD TRIANGLE
 ACCENT:ATNAH HAFUKH,DARGA,DEHI,ETNAHTA,GERESH,GERESH MUQDAM,GERSHAYIM,ILUY,MAHAPAKH,MERKHA,
MERKHA KEFULA,MUNAH,OLE,PASHTA,PAZER,QADMA,QARNEY PARA,REVIA,SEGOL,SHALSHELET,TELISHA GEDOLA,
TELISHA QETANA,TEVIR,TIPEHA,YERAH BEN YOMO,YETIV,ZAQEF GADOL,ZAQEF QATAN,ZARQA,ZINOR
 LETTER:ALEF,ALTERNATIVE AYIN,ALTERNATIVE PLUS SIGN,AYIN,BET,BET WITH DAGESH,BET WITH RAFE,DALET,
DALET WITH DAGESH,GIMEL,GIMEL WITH DAGESH,HE,HE WITH MAPIQ,HET,KAF,KAF WITH DAGESH,KAF WITH RAFE,
LAMED,LAMED WITH DAGESH,MEM,MEM WITH DAGESH,NUN,NUN WITH DAGESH,PE,PE WITH DAGESH,PE WITH RAFE,QOF,
QOF WITH DAGESH,RESH,RESH WITH DAGESH,SAMEKH,SAMEKH WITH DAGESH,SHIN,TAV,TAV WITH DAGESH,TET,
TET WITH DAGESH,TSADI,TSADI WITH DAGESH,VAV,VAV WITH DAGESH,VAV WITH HOLAM,YOD,YOD WITH DAGESH,
YOD WITH HIRIQ,ZAYIN,ZAYIN WITH DAGESH
  ALEF WITH:MAPIQ,PATAH,QAMATS
  FINAL:KAF,KAF WITH DAGESH,MEM,NUN,PE,PE WITH DAGESH,TSADI
  SHIN WITH:DAGESH,DAGESH AND SHIN DOT,DAGESH AND SIN DOT,SHIN DOT,SIN DOT
  WIDE:ALEF,DALET,FINAL MEM,HE,KAF,LAMED,RESH,TAV
 LIGATURE:ALEF LAMED
  YIDDISH:DOUBLE VAV,DOUBLE YOD,VAV YOD,YOD YOD PATAH
 MARK:LOWER DOT,MASORA CIRCLE,UPPER DOT
 POINT:DAGESH OR MAPIQ,HIRIQ,HOLAM,HOLAM HASER FOR VAV,JUDEO-SPANISH VARIKA,METEG,PATAH,QAMATS,
QAMATS QATAN,QUBUTS,RAFE,SEGOL,SHEVA,SHIN DOT,SIN DOT,TSERE
  HATAF:PATAH,QAMATS,SEGOL
 PUNCTUATION:GERESH,GERSHAYIM,MAQAF,NUN HAFUKHA,PASEQ,SOF PASUQ
HENTAIGANA LETTER:A-1,A-2,A-3,A-WO,E-1,E-2,E-3,E-4,E-5,E-6,HA-1,HA-10,HA-11,HA-2,HA-3,HA-4,HA-5,
HA-6,HA-7,HA-8,HA-9,HE-1,HE-2,HE-3,HE-4,HE-5,HE-6,HE-7,HI-1,HI-2,HI-3,HI-4,HI-5,HI-6,HI-7,HO-1,HO-2,
HO-3,HO-4,HO-5,HO-6,HO-7,HO-8,HU-1,HU-2,HU-3,I-1,I-2,I-3,I-4,KA-1,KA-10,KA-11,KA-2,KA-3,KA-4,KA-5,
KA-6,KA-7,KA-8,KA-9,KA-KE,KE-1,KE-2,KE-3,KE-4,KE-5,KE-6,KI-1,KI-2,KI-3,KI-4,KI-5,KI-6,KI-7,KI-8,
KO-1,KO-2,KO-3,KO-KI,KU-1,KU-2,KU-3,KU-4,KU-5,KU-6,KU-7,MA-1,MA-2,MA-3,MA-4,MA-5,MA-6,MA-7,ME-1,
ME-2,ME-MA,MI-1,MI-2,MI-3,MI-4,MI-5,MI-6,MI-7,MO-1,MO-2,MO-3,MO-4,MO-5,MO-6,MU-1,MU-2,MU-3,MU-4,
N-MU-MO-1,N-MU-MO-2,NA-1,NA-2,NA-3,NA-4,NA-5,NA-6,NA-7,NA-8,NA-9,NE-1,NE-2,NE-3,NE-4,NE-5,NE-6,
NE-KO,NI-1,NI-2,NI-3,NI-4,NI-5,NI-6,NI-7,NI-TE,NO-1,NO-2,NO-3,NO-4,NO-5,NU-1,NU-2,NU-3,O-1,O-2,O-3,
RA-1,RA-2,RA-3,RA-4,RE-1,RE-2,RE-3,RE-4,RI-1,RI-2,RI-3,RI-4,RI-5,RI-6,RI-7,RO-1,RO-2,RO-3,RO-4,RO-5,
RO-6,RU-1,RU-2,RU-3,RU-4,RU-5,RU-6,SA-1,SA-2,SA-3,SA-4,SA-5,SA-6,SA-7,SA-8,SE-1,SE-2,SE-3,SE-4,SE-5,
SI-1,SI-2,SI-3,SI-4,SI-5,SI-6,SO-1,SO-2,SO-3,SO-4,SO-5,SO-6,SO-7,SU-1,SU-2,SU-3,SU-4,SU-5,SU-6,SU-7,
SU-8,TA-1,TA-2,TA-3,TA-4,TE-1,TE-2,TE-3,TE-4,TE-5,TE-6,TE-7,TE-8,TE-9,TI-1,TI-2,TI-3,TI-4,TI-5,TI-6,
TI-7,TO-1,TO-2,TO-3,TO-4,TO-5,TO-6,TO-RA,TU-1,TU-2,TU-3,TU-4,TU-TO,U-1,U-2,U-3,U-4,U-5,WA-1,WA-2,
WA-3,WA-4,WA-5,WE-1,WE-2,WE-3,WE-4,WI-1,WI-2,WI-3,WI-4,WI-5,WO-1,WO-2,WO-3,WO-4,WO-5,WO-6,WO-7,YA-1,
YA-2,YA-3,YA-4,YA-5,YA-YO,YO-1,YO-2,YO-3,YO-4,YO-5,YO-6,YU-1,YU-2,YU-3,YU-4
HEXAGRAM FOR:ABUNDANCE,AFTER COMPLETION,APPROACH,BEFORE COMPLETION,BITING THROUGH,BREAKTHROUGH,
COMING TO MEET,CONFLICT,CONTEMPLATION,DARKENING OF THE LIGHT,DECREASE,DELIVERANCE,DEVELOPMENT,
DIFFICULTY AT THE BEGINNING,DISPERSION,DURATION,ENTHUSIASM,FELLOWSHIP,FOLLOWING,GATHERING TOGETHER,
GRACE,HOLDING TOGETHER,INCREASE,INFLUENCE,INNER TRUTH,INNOCENCE,LIMITATION,MODESTY,MOUTH CORNERS,
OBSTRUCTION,OPPOSITION,OPPRESSION,PEACE,PROGRESS,PUSHING UPWARD,RETREAT,RETURN,REVOLUTION,
SMALL PREPONDERANCE,SMALL TAMING,SPLITTING APART,STANDSTILL,TREADING,WAITING,WORK ON THE DECAYED,
YOUTHFUL FOLLY
 GREAT:POSSESSION,POWER,PREPONDERANCE,TAMING
 THE:ABYSMAL WATER,ARMY,AROUSING THUNDER,CAULDRON,CLINGING FIRE,CREATIVE HEAVEN,FAMILY,GENTLE WIND,
JOYOUS LAKE,KEEPING STILL MOUNTAIN,MARRYING MAIDEN,RECEPTIVE EARTH,WANDERER,WELL
HIGH:BRIGHTNESS SYMBOL,OCTET PRESET,VOLTAGE SIGN
HIRAGANA:DIGRAPH YORI,ITERATION MARK,VOICED ITERATION MARK
 LETTER:A,ARCHAIC WU,ARCHAIC YE,BA,BE,BI,BO,BU,DA,DE,DI,DO,DU,E,GA,GE,GI,GO,GU,HA,HE,HI,HO,HU,I,KA,
KE,KI,KO,KU,MA,ME,MI,MO,MU,N,NA,NE,NI,NO,NU,O,PA,PE,PI,PO,PU,RA,RE,RI,RO,RU,SA,SE,SI,SO,SU,TA,TE,TI,
TO,TU,U,VU,WA,WE,WI,WO,YA,YO,YU,ZA,ZE,ZI,ZO,ZU
  SMALL:A,E,I,KA,KE,O,TU,U,WA,WE,WI,WO,YA,YO,YU
HORIZONTAL:BAR,BLACK HEXAGON,BLACK OCTAGON,ELLIPSIS,LINE EXTENSION,MALE WITH STROKE SIGN,TAB KEY,
TABULATION,TABULATION SET,TABULATION WITH JUSTIFICATION,TRAFFIC LIGHT
 ONE EIGHTH:BLOCK-1358,BLOCK-2,BLOCK-3,BLOCK-4,BLOCK-5,BLOCK-6,BLOCK-7
 SCAN:LINE-1,LINE-3,LINE-7,LINE-9
HOT:BEVERAGE,DOG,PEPPER,SPRINGS
HOUSE:BUILDING,BUILDINGS,WITH GARDEN
ICE:CREAM,CUBE,HOCKEY STICK AND PUCK,SKATE
IDENTICAL:TO,TO AND SLANTED PARALLEL,WITH DOT ABOVE
IDEOGRAPHIC:CLOSING MARK,COMMA,DEPARTING TONE MARK,ENTERING TONE MARK,FULL STOP,HALF FILL SPACE,
ITERATION MARK,LEVEL TONE MARK,NUMBER ZERO,RISING TONE MARK,SPACE,VARIATION INDICATOR
 ANNOTATION:BOTTOM MARK,EARTH MARK,FIRST MARK,FOUR MARK,FOURTH MARK,HEAVEN MARK,LINKING MARK,
MAN MARK,MIDDLE MARK,ONE MARK,REVERSE MARK,SECOND MARK,THIRD MARK,THREE MARK,TOP MARK,TWO MARK
 DESCRIPTION CHARACTER:ABOVE TO BELOW,ABOVE TO MIDDLE AND BELOW,FULL SURROUND,
LEFT TO MIDDLE AND RIGHT,LEFT TO RIGHT,OVERLAID
  SURROUND FROM:ABOVE,BELOW,LEFT,LOWER LEFT,UPPER LEFT,UPPER RIGHT
 TALLY MARK:FIVE,FOUR,ONE,THREE,TWO
 TELEGRAPH:LINE FEED SEPARATOR SYMBOL
  SYMBOL FOR:APRIL,AUGUST,DECEMBER,FEBRUARY,JANUARY,JULY,JUNE,MARCH,MAY,NOVEMBER,OCTOBER,SEPTEMBER
   DAY:EIGHT,EIGHTEEN,ELEVEN,FIFTEEN,FIVE,FOUR,FOURTEEN,NINE,NINETEEN,ONE,SEVEN,SEVENTEEN,SIX,
SIXTEEN,TEN,THIRTEEN,THIRTY,THIRTY-ONE,THREE,TWELVE,TWENTY,TWENTY-EIGHT,TWENTY-FIVE,TWENTY-FOUR,
TWENTY-NINE,TWENTY-ONE,TWENTY-SEVEN,TWENTY-SIX,TWENTY-THREE,TWENTY-TWO,TWO
   HOUR:EIGHT,EIGHTEEN,ELEVEN,FIFTEEN,FIVE,FOUR,FOURTEEN,NINE,NINETEEN,ONE,SEVEN,SEVENTEEN,SIX,
SIXTEEN,TEN,THIRTEEN,THREE,TWELVE,TWENTY,TWENTY-FOUR,TWENTY-ONE,TWENTY-THREE,TWENTY-TWO,TWO,ZERO
IMPERIAL ARAMAIC:SECTION SIGN
 LETTER:ALEPH,AYIN,BETH,DALETH,GIMEL,HE,HETH,KAPH,LAMEDH,MEM,NUN,PE,QOPH,RESH,SADHE,SAMEKH,SHIN,TAW,
TETH,WAW,YODH,ZAYIN
 NUMBER:ONE,ONE HUNDRED,ONE THOUSAND,TEN,TEN THOUSAND,THREE,TWENTY,TWO
INDIC SIYAQ:ALTERNATE LAKH MARK,LAKH MARK,PLACEHOLDER,RUPEE MARK
 FRACTION:ONE HALF,ONE QUARTER,THREE QUARTERS
 NUMBER:EIGHT,EIGHT HUNDRED,EIGHT THOUSAND,EIGHTY,EIGHTY THOUSAND,FIFTY,FIFTY THOUSAND,FIVE,
FIVE HUNDRED,FIVE THOUSAND,FORTY,FORTY THOUSAND,FOUR,FOUR HUNDRED,FOUR THOUSAND,KAROR,KARORAN,LAKH,
LAKHAN,NINE,NINE HUNDRED,NINE THOUSAND,NINETY,NINETY THOUSAND,ONE,ONE HUNDRED,ONE THOUSAND,SEVEN,
SEVEN HUNDRED,SEVEN THOUSAND,SEVENTY,SEVENTY THOUSAND,SIX,SIX HUNDRED,SIX THOUSAND,SIXTY,
SIXTY THOUSAND,TEN,TEN THOUSAND,THIRTY,THIRTY THOUSAND,THREE,THREE HUNDRED,THREE THOUSAND,TWENTY,
TWENTY THOUSAND,TWO,TWO HUNDRED,TWO THOUSAND
  ALTERNATE:ONE,TEN THOUSAND,TWO
  PREFIXED:EIGHT,FIVE,FOUR,NINE,ONE,SEVEN,SIX,THREE,TWO
INFORMATION:DESK PERSON,SOURCE
 SEPARATOR:FOUR,ONE,THREE,TWO
INPUT SYMBOL FOR:NUMBERS,SYMBOLS
 LATIN:CAPITAL LETTERS,LETTERS,SMALL LETTERS
INSCRIPTIONAL:
 PAHLAVI:
  LETTER:ALEPH,BETH,DALETH,GIMEL,HE,HETH,KAPH,LAMEDH,MEM-QOPH,NUN,PE,SADHE,SAMEKH,SHIN,TAW,TETH,
WAW-AYIN-RESH,YODH,ZAYIN
  NUMBER:FOUR,ONE,ONE HUNDRED,ONE THOUSAND,TEN,THREE,TWENTY,TWO
 PARTHIAN:
  LETTER:ALEPH,AYIN,BETH,DALETH,GIMEL,HE,HETH,KAPH,LAMEDH,MEM,NUN,PE,QOPH,RESH,SADHE,SAMEKH,SHIN,
TAW,TETH,WAW,YODH,ZAYIN
  NUMBER:FOUR,ONE,ONE HUNDRED,ONE THOUSAND,TEN,THREE,TWENTY,TWO
INTEGRAL:AROUND A POINT OPERATOR,AVERAGE WITH SLASH,EXTENSION
 WITH:DOUBLE STROKE,INTERSECTION,LEFTWARDS ARROW WITH HOOK,OVERBAR,TIMES SIGN,UNDERBAR,UNION
INTERLINEAR ANNOTATION:ANCHOR,SEPARATOR,TERMINATOR
INTERSECTION:ABOVE BAR ABOVE UNION,ABOVE UNION,BESIDE AND JOINED WITH INTERSECTION
 WITH:DOT,LOGICAL AND,OVERBAR
INVERSE:BULLET,CHECK MARK,CHECKER BOARD FILL,DOWNWARDS ARROW WITH TIP LEFTWARDS,MEDIUM SHADE,
WHITE CIRCLE
INVERTED:EXCLAMATION MARK,INTERROBANG,LAZY S,LOW KAVYKA,LOW KAVYKA WITH KAVYKA ABOVE,OHM SIGN,
PENTAGRAM,QUESTION MARK,UNDERTIE
INVISIBLE:PLUS,SEPARATOR,TIMES
JAPANESE:BANK SYMBOL,CASTLE,DOLLS,GOBLIN,INDUSTRIAL STANDARD SYMBOL,OGRE,POST OFFICE,
SYMBOL FOR BEGINNER
JAVANESE:LEFT RERENGGAN,PANGKON,PANGRANGKEP,RIGHT RERENGGAN,TURNED PADA PISELEH
 CONSONANT SIGN:CAKRA,KERET,PENGKAL
 DIGIT:EIGHT,FIVE,FOUR,NINE,ONE,SEVEN,SIX,THREE,TWO,ZERO
 LETTER:A,AI,BA,BA MURDA,CA,CA MURDA,DA,DA MAHAPRANA,DDA,DDA MAHAPRANA,E,GA,GA MURDA,HA,I,I KAWI,II,
JA,JA MAHAPRANA,KA,KA MURDA,KA SASAK,LA,MA,NA,NA MURDA,NGA,NGA LELET,NGA LELET RASWADI,NYA,
NYA MURDA,O,PA,PA CEREK,PA MURDA,RA,RA AGUNG,SA,SA MAHAPRANA,SA MURDA,TA,TA MURDA,TTA,TTA MAHAPRANA,
U,WA,YA
 PADA:ADEG,ADEG ADEG,ANDAP,ISEN-ISEN,LINGSA,LUHUR,LUNGSI,MADYA,PANGKAT,PISELEH,TIRTA TUMETES,WINDU
 SIGN:CECAK,CECAK TELU,LAYAR,PANYANGGA,WIGNYAN
 VOWEL SIGN:DIRGA MURE,PEPET,SUKU,SUKU MENDUT,TALING,TARUNG,TOLONG,WULU,WULU MELIK
KAITHI:ABBREVIATION SIGN,DANDA,DOUBLE DANDA,DOUBLE SECTION MARK,ENUMERATION SIGN,NUMBER SIGN,
NUMBER SIGN ABOVE,SECTION MARK
 LETTER:A,AA,AI,AU,BA,BHA,CA,CHA,DA,DDA,DDDHA,DDHA,DHA,E,GA,GHA,HA,I,II,JA,JHA,KA,KHA,LA,MA,NA,NGA,
NNA,NYA,O,PA,PHA,RA,RHA,SA,SHA,SSA,TA,THA,TTA,TTHA,U,UU,VA,YA
 SIGN:ANUSVARA,CANDRABINDU,NUKTA,VIRAMA,VISARGA
 VOWEL SIGN:AA,AI,AU,E,I,II,O,U,UU,VOCALIC R
KANGXI RADICAL:AGAIN,AND,ARRIVE,ARROW,AXE,BADGER,BAMBOO,BEAN,BIG,BIRD,BITTER,BLACK,BLOOD,BLUE,BOAT,
BODY,BOLT OF CLOTH,BONE,BOW,BRANCH,BRISTLE,BRUSH,CART,CAULDRON,CAVE,CHILD,CITY,CLAN,CLAW,CLIFF,
CLOTHES,COLOR,COMPARE,CORPSE,COVER,COW,DEATH,DEER,DIPPER,DISH,DISTINGUISH,DIVINATION,DO NOT,DOG,
DOOR,DOT,DOTTED CLIFF,DOTTED TENT,DOUBLE X,DOWN BOX,DRAGON,DRUM,DRY,EAR,EARTH,EAT,EIGHT,EMBROIDERY,
ENCLOSURE,ENTER,EVEN,EVENING,EYE,FACE,FANG,FATHER,FEATHER,FIELD,FIGHT,FIRE,FISH,FLUTE,FLY,FOOT,
FRAGRANT,FROG,FUR,GATE,GHOST,GO,GO SLOWLY,GOLD,GRAIN,GRASS,HAIR,HALBERD,HALF TREE TRUNK,HAND,HEAD,
HEART,HEMP,HIDING ENCLOSURE,HOOK,HORN,HORSE,ICE,INCH,INSECT,JADE,JAR,KNIFE,LACK,LAME,LEAF,LEATHER,
LEEK,LEGS,LID,LIFE,LINE,LONG,LONG STRIDE,MAN,MEAT,MELON,MILLET,MINISTER,MOON,MORNING,MORTAR,MOUND,
MOUNTAIN,MOUTH,NET,NOSE,NOT,OLD,ONE,ONESELF,OPEN BOX,OPPOSE,PIG,PLOW,POWER,PRIVATE,PROFOUND,RAIN,
RAP,RAT,RED,RICE,RIGHT OPEN BOX,RIVER,ROOF,RUN,SACRIFICIAL WINE,SALT,SAY,SCHOLAR,SCRIPT,SEAL,SECOND,
SEE,SELF,SHEEP,SHELL,SHOOT,SHORT TAILED BIRD,SHORT THREAD,SICKNESS,SILK,SKIN,SLASH,SLAVE,SLICE,
SMALL,SNOUT,SOUND,SPEAR,SPEECH,SPIRIT,SPOON,SPROUT,SQUARE,STAND,STEAM,STEP,STONE,STOP,STOPPING,SUN,
SWEET,TABLE,TALL,TANNED LEATHER,TEN,TIGER,TILE,TONGUE,TOOTH,TRACK,TREE,TRIPOD,TURBAN,TURTLE,TWO,
TWO HANDS,USE,VALLEY,VILLAGE,WALK,WALK ENCLOSURE,WATER,WEAPON,WEST,WHEAT,WHITE,WIND,WINE,WOMAN,WORK,
WRAP,WRONG,YELLOW
KANNADA:AI LENGTH MARK,LENGTH MARK
 DIGIT:EIGHT,FIVE,FOUR,NINE,ONE,SEVEN,SIX,THREE,TWO,ZERO
 LETTER:A,AA,AI,AU,BA,BHA,CA,CHA,DA,DDA,DDHA,DHA,E,EE,FA,GA,GHA,HA,I,II,JA,JHA,KA,KHA,LA,LLA,LLLA,
MA,NA,NAKAARA POLLU,NGA,NNA,NYA,O,OO,PA,PHA,RA,RRA,SA,SHA,SSA,TA,THA,TTA,TTHA,U,UU,VA,YA
  VOCALIC:L,LL,R,RR
 SIGN:ANUSVARA,AVAGRAHA,CANDRABINDU,JIHVAMULIYA,NUKTA,SIDDHAM,SPACING CANDRABINDU,UPADHMANIYA,
VIRAMA,VISARGA
 VOWEL SIGN:AA,AI,AU,E,EE,I,II,O,OO,U,UU
  VOCALIC:L,LL,R,RR
KATAKANA:DIGRAPH KOTO,ITERATION MARK,MIDDLE DOT,VOICED ITERATION MARK
 LETTER:A,BA,BE,BI,BO,BU,DA,DE,DI,DO,DU,E,GA,GE,GI,GO,GU,HA,HE,HI,HO,HU,I,KA,KE,KI,KO,KU,MA,ME,MI,
MO,MU,N,NA,NE,NI,NO,NU,O,PA,PE,PI,PO,PU,RA,RE,RI,RO,RU,SA,SE,SI,SO,SU,TA,TE,TI,TO,TU,U,VA,VE,VI,VO,
VU,WA,WE,WI,WO,YA,YO,YU,ZA,ZE,ZI,ZO,ZU
  ARCHAIC:E,WU,YE,YI
  MINNAN:TONE-2,TONE-3,TONE-4,TONE-5,TONE-7,TONE-8
   NASALIZED:TONE-1,TONE-2,TONE-3,TONE-4,TONE-5,TONE-7,TONE-8
  SMALL:A,E,HA,HE,HI,HO,HU,I,KA,KE,KU,MU,N,NU,O,RA,RE,RI,RO,RU,SI,SU,TO,TU,U,WA,WE,WI,WO,YA,YO,YU
KATAKANA-HIRAGANA:DOUBLE HYPHEN,PROLONGED SOUND MARK,SEMI-VOICED SOUND MARK,VOICED SOUND MARK
KAYAH LI:SIGN CWI,SIGN SHYA
 DIGIT:EIGHT,FIVE,FOUR,NINE,ONE,SEVEN,SIX,THREE,TWO,ZERO
 LETTER:A,BA,CA,DA,GA,HA,HTA,I,KA,KHA,LA,MA,NA,NGA,NYA,OE,OO,PA,PHA,RA,SA,SHA,TA,THA,VA,WA,YA,ZA
 TONE:CALYA,CALYA PLOPHU,PLOPHU
 VOWEL:E,EE,O,U,UE
KHAROSHTHI:FRACTION ONE HALF,VIRAMA
 DIGIT:FOUR,ONE,THREE,TWO
 LETTER:A,BA,BHA,CA,CHA,DA,DDA,DDHA,DHA,GA,GHA,HA,JA,KA,KHA,KKA,LA,MA,NA,NNA,NYA,PA,PHA,RA,SA,SHA,
SSA,TA,THA,TTA,TTHA,TTTA,TTTHA,VA,VHA,YA,ZA
 NUMBER:ONE HUNDRED,ONE THOUSAND,TEN,TWENTY
 PUNCTUATION:CIRCLE,CRESCENT BAR,DANDA,DOT,DOUBLE DANDA,LINES,LOTUS,MANGALAM,SMALL CIRCLE
 SIGN:ANUSVARA,BAR ABOVE,CAUDA,DOT BELOW,DOUBLE RING BELOW,VISARGA
 VOWEL:LENGTH MARK
  SIGN:E,I,O,U,VOCALIC R
KHMER:CURRENCY SYMBOL RIEL
 DIGIT:EIGHT,FIVE,FOUR,NINE,ONE,SEVEN,SIX,THREE,TWO,ZERO
 INDEPENDENT VOWEL:LY,LYY,QAA,QAI,QAQ,QAU,QE,QI,QII,QOO TYPE ONE,QOO TYPE TWO,QU,QUK,QUU,QUUV,RY,
RYY
 LETTER:BA,CA,CHA,CHO,CO,DA,DO,HA,KA,KHA,KHO,KO,LA,LO,MO,NGO,NNO,NO,NYO,PHA,PHO,PO,QA,RO,SA,SHA,SSO,
TA,THA,THO,TO,TTHA,TTHO,VO,YO
 SIGN:AHSDA,ATTHACAN,AVAKRAHASANYA,BANTOC,BARIYOOSAN,BATHAMASAT,BEYYAL,CAMNUC PII KUUH,COENG,
KAKABAT,KHAN,KOOMUUT,LEK TOO,MUUSIKATOAN,NIKAHIT,PHNAEK MUAN,REAHMUK,ROBAT,SAMYOK SANNYA,
TOANDAKHIAT,TRIISAP,VIRIAM,YUUKALEAPINTU
 SYMBOL:BEI KOET,BEI ROC,BUON KOET,BUON ROC,DAP KOET,DAP ROC,DAP-BEI KOET,DAP-BEI ROC,DAP-BUON KOET,
DAP-BUON ROC,DAP-MUOY KOET,DAP-MUOY ROC,DAP-PII KOET,DAP-PII ROC,DAP-PRAM KOET,DAP-PRAM ROC,
MUOY KOET,MUOY ROC,PATHAMASAT,PII KOET,PII ROC,PRAM KOET,PRAM ROC,PRAM-BEI KOET,PRAM-BEI ROC,
PRAM-BUON KOET,PRAM-BUON ROC,PRAM-MUOY KOET,PRAM-MUOY ROC,PRAM-PII KOET,PRAM-PII ROC,TUTEYASAT
  LEK ATTAK:BEI,BUON,MUOY,PII,PRAM,PRAM-BEI,PRAM-BUON,PRAM-MUOY,PRAM-PII,SON
 VOWEL:INHERENT AA,INHERENT AQ
  SIGN:AA,AE,AI,AU,E,I,IE,II,OE,OO,U,UA,UU,Y,YA,YY
KHOJKI:ABBREVIATION SIGN,DANDA,DOUBLE DANDA,DOUBLE SECTION MARK,SECTION MARK,WORD SEPARATOR
 LETTER:A,AA,AI,AU,BA,BBA,BHA,CA,CHA,DA,DDA,DDDA,DDHA,DHA,E,GA,GGA,GHA,HA,I,JA,JJA,KA,KHA,LA,LLA,MA,
NA,NGA,NNA,NYA,O,PA,PHA,RA,SA,TA,THA,TTA,TTHA,U,VA,YA
 SIGN:ANUSVARA,NUKTA,SHADDA,SUKUN,VIRAMA
 VOWEL SIGN:AA,AI,AU,E,I,II,O,U
KHUDAWADI:
 DIGIT:EIGHT,FIVE,FOUR,NINE,ONE,SEVEN,SIX,THREE,TWO,ZERO
 LETTER:A,AA,AI,AU,BA,BBA,BHA,CA,CHA,DA,DDA,DDDA,DDHA,DHA,E,GA,GGA,GHA,HA,I,II,JA,JHA,JJA,KA,KHA,LA,
MA,NA,NGA,NNA,NYA,O,PA,PHA,RA,RRA,SA,SHA,TA,THA,TTA,TTHA,U,UU,VA,YA
 SIGN:ANUSVARA,NUKTA,VIRAMA
 VOWEL SIGN:AA,AI,AU,E,I,II,O,U,UU
KISSING:CAT FACE WITH CLOSED EYES,FACE,FACE WITH CLOSED EYES,FACE WITH SMILING EYES
LAO:CANCELLATION MARK,ELLIPSIS,HO MO,HO NO,KO LA,NIGGAHITA,SEMIVOWEL SIGN LO,SEMIVOWEL SIGN NYO,
SIGN PALI VIRAMA
 DIGIT:EIGHT,FIVE,FOUR,NINE,ONE,SEVEN,SIX,THREE,TWO,ZERO
 LETTER:BO,CO,DO,HO SUNG,HO TAM,KHMU GO,KHMU NYO,KHO SUNG,KHO TAM,KO,LO,LO LING,LO LOOT,MO,NGO,NO,
NYO,O,PHO SUNG,PHO TAM,PO,RO,SANSKRIT SHA,SANSKRIT SSA,SO SUNG,SO TAM,THO SUNG,THO TAM,TO,WO,YO
  FO:FAY,FON,SUNG,TAM
  PALI:BHA,CHA,DDA,DDHA,DHA,GHA,JHA,LLA,NNA,NYA,TTA,TTHA
 TONE MAI:CATAWA,EK,THO,TI
 VOWEL SIGN:A,AA,AI,AM,AY,E,EI,I,II,MAI KAN,MAI KON,O,U,UU,Y,YY
LARGE:BROWN CIRCLE,BROWN SQUARE,CIRCLE,DOWN TACK,GREEN CIRCLE,GREEN SQUARE,LEFT TRIANGLE OPERATOR,
ONE DOT OVER TWO DOTS PUNCTUATION,ONE RING OVER TWO RINGS PUNCTUATION,PURPLE CIRCLE,PURPLE SQUARE,
RED CIRCLE,RED SQUARE,TRIPLE VERTICAL BAR OPERATOR,TWO DOTS OVER ONE DOT PUNCTUATION,
TWO RINGS OVER ONE RING PUNCTUATION,UP TACK,YELLOW CIRCLE,YELLOW SQUARE
 BLUE:CIRCLE,DIAMOND,SQUARE
 ORANGE:CIRCLE,DIAMOND,SQUARE
LATIN:CROSS
 CAPITAL:LIGATURE IJ,LIGATURE OE
  LETTER:A,AA,AE,AE WITH ACUTE,AE WITH MACRON,AFRICAN D,ALPHA,ANGLICANA W,AO,AU,AV,
AV WITH HORIZONTAL BAR,AY,B,BETA,BROKEN L,C,CHI,CLOSED INSULAR G,CON,CUATRILLO,CUATRILLO WITH COMMA,
D,DZ,DZ WITH CARON,E,EGYPTOLOGICAL AIN,EGYPTOLOGICAL ALEF,ENG,ESH,ET,ETH,EZH,EZH REVERSED,
EZH WITH CARON,F,G,GAMMA,GHA,H,HALF H,HENG,HWAIR,I,IOTA,IS,J,K,L,LJ,M,MIDDLE SCOTS S,
MIDDLE-WELSH LL,MIDDLE-WELSH V,N,NJ,O,OI,OLD POLISH O,OMEGA,OO,OPEN E,OPEN O,OU,P,Q,
Q WITH DIAGONAL STROKE,Q WITH STROKE THROUGH DESCENDER,R,RUM ROTUNDA,S,SALTILLO,SCHWA,SCRIPT G,
SHARP S,SIGMOID S,SMALL CAPITAL I,SMALL Q WITH HOOK TAIL,T,THORN,THORN WITH STROKE,
THORN WITH STROKE THROUGH DESCENDER,TRESILLO,TZ,U,UPSILON,V,VEND,VISIGOTHIC Z,VY,W,WYNN,X,
X WITH DIAERESIS,X WITH DOT ABOVE,Y,YOGH,Z
   A WITH:ACUTE,BREVE,CARON,CIRCUMFLEX,DIAERESIS,DIAERESIS AND MACRON,DOUBLE GRAVE,GRAVE,HOOK ABOVE,
INVERTED BREVE,MACRON,OGONEK,STROKE,TILDE
    BREVE AND:ACUTE,DOT BELOW,GRAVE,HOOK ABOVE,TILDE
    CIRCUMFLEX AND:ACUTE,DOT BELOW,GRAVE,HOOK ABOVE,TILDE
    DOT:ABOVE,ABOVE AND MACRON,BELOW
    RING:ABOVE,ABOVE AND ACUTE,BELOW
   B WITH:DOT ABOVE,DOT BELOW,FLOURISH,HOOK,LINE BELOW,STROKE,TOPBAR
   C WITH:ACUTE,BAR,CARON,CEDILLA,CEDILLA AND ACUTE,CIRCUMFLEX,DOT ABOVE,HOOK,PALATAL HOOK,STROKE
   D WITH:CARON,CEDILLA,CIRCUMFLEX BELOW,DOT ABOVE,DOT BELOW,HOOK,LINE BELOW,SHORT STROKE OVERLAY,
SMALL LETTER Z,SMALL LETTER Z WITH CARON,STROKE,TOPBAR
   E WITH:ACUTE,BREVE,CARON,CEDILLA,CEDILLA AND BREVE,CIRCUMFLEX,DIAERESIS,DOT ABOVE,DOT BELOW,
DOUBLE GRAVE,GRAVE,HOOK ABOVE,INVERTED BREVE,MACRON,MACRON AND ACUTE,MACRON AND GRAVE,OGONEK,STROKE,
TILDE,TILDE BELOW
    CIRCUMFLEX:BELOW
     AND:ACUTE,DOT BELOW,GRAVE,HOOK ABOVE,TILDE
   F WITH:DOT ABOVE,HOOK,STROKE
   G WITH:ACUTE,BREVE,CARON,CEDILLA,CIRCUMFLEX,DOT ABOVE,HOOK,MACRON,OBLIQUE STROKE,STROKE
   GLOTTAL:A,I,STOP,U
   H WITH:BREVE BELOW,CARON,CEDILLA,CIRCUMFLEX,DESCENDER,DIAERESIS,DOT ABOVE,DOT BELOW,HOOK,STROKE
   I WITH:ACUTE,BREVE,CARON,CIRCUMFLEX,DIAERESIS,DIAERESIS AND ACUTE,DOT ABOVE,DOT BELOW,
DOUBLE GRAVE,GRAVE,HOOK ABOVE,INVERTED BREVE,MACRON,OGONEK,STROKE,TILDE,TILDE BELOW
   INSULAR:D,F,G,R,S,T
   J WITH:CIRCUMFLEX,CROSSED-TAIL,STROKE
   K WITH:ACUTE,CARON,CEDILLA,DESCENDER,DIAGONAL STROKE,DOT BELOW,HOOK,LINE BELOW,OBLIQUE STROKE,
STROKE,STROKE AND DIAGONAL STROKE
   L WITH:ACUTE,BAR,BELT,CARON,CEDILLA,CIRCUMFLEX BELOW,DOT BELOW,DOT BELOW AND MACRON,DOUBLE BAR,
HIGH STROKE,LINE BELOW,MIDDLE DOT,MIDDLE TILDE,SMALL LETTER J,STROKE
   M WITH:ACUTE,DOT ABOVE,DOT BELOW,HOOK
   N WITH:ACUTE,CARON,CEDILLA,CIRCUMFLEX BELOW,DESCENDER,DOT ABOVE,DOT BELOW,GRAVE,LEFT HOOK,
LINE BELOW,LONG RIGHT LEG,OBLIQUE STROKE,SMALL LETTER J,TILDE
   O WITH:ACUTE,BREVE,CARON,CIRCUMFLEX,DIAERESIS,DIAERESIS AND MACRON,DOUBLE ACUTE,DOUBLE GRAVE,
GRAVE,HOOK ABOVE,HORN,INVERTED BREVE,LONG STROKE OVERLAY,LOOP,MACRON,MACRON AND ACUTE,
MACRON AND GRAVE,MIDDLE TILDE,OGONEK,OGONEK AND MACRON,STROKE,STROKE AND ACUTE,TILDE
    CIRCUMFLEX AND:ACUTE,DOT BELOW,GRAVE,HOOK ABOVE,TILDE
    DOT:ABOVE,ABOVE AND MACRON,BELOW
    HORN AND:ACUTE,DOT BELOW,GRAVE,HOOK ABOVE,TILDE
    TILDE AND:ACUTE,DIAERESIS,MACRON
   P WITH:ACUTE,DOT ABOVE,FLOURISH,HOOK,SQUIRREL TAIL,STROKE,STROKE THROUGH DESCENDER
   R:ROTUNDA
    WITH:ACUTE,CARON,CEDILLA,DOT ABOVE,DOT BELOW,DOT BELOW AND MACRON,DOUBLE GRAVE,INVERTED BREVE,
LINE BELOW,OBLIQUE STROKE,STROKE,TAIL
   REVERSED:C WITH DOT,E,HALF H,OPEN E
   S WITH:ACUTE,ACUTE AND DOT ABOVE,CARON,CARON AND DOT ABOVE,CEDILLA,CIRCUMFLEX,COMMA BELOW,HOOK,
OBLIQUE STROKE,SHORT STROKE OVERLAY,SWASH TAIL
    DOT:ABOVE,BELOW,BELOW AND DOT ABOVE
   T WITH:CARON,CEDILLA,CIRCUMFLEX BELOW,COMMA BELOW,DIAGONAL STROKE,DOT ABOVE,DOT BELOW,HOOK,
LINE BELOW,RETROFLEX HOOK,STROKE
   TONE:FIVE,SIX,TWO
   TURNED:A,ALPHA,H,INSULAR G,K,L,M,T,V
   U:BAR
    WITH:ACUTE,BREVE,CARON,CIRCUMFLEX,CIRCUMFLEX BELOW,DIAERESIS,DOT BELOW,DOUBLE ACUTE,
DOUBLE GRAVE,GRAVE,HOOK ABOVE,HORN,INVERTED BREVE,MACRON,MACRON AND DIAERESIS,OGONEK,RING ABOVE,
STROKE,TILDE,TILDE AND ACUTE,TILDE BELOW
     DIAERESIS:BELOW
      AND:ACUTE,CARON,GRAVE,MACRON
     HORN AND:ACUTE,DOT BELOW,GRAVE,HOOK ABOVE,TILDE
   V WITH:DIAGONAL STROKE,DOT BELOW,HOOK,TILDE
   VOLAPUK:AE,OE,UE
   W WITH:ACUTE,CIRCUMFLEX,DIAERESIS,DOT ABOVE,DOT BELOW,GRAVE,HOOK
   Y WITH:ACUTE,CIRCUMFLEX,DIAERESIS,DOT ABOVE,DOT BELOW,GRAVE,HOOK,HOOK ABOVE,LOOP,MACRON,STROKE,
TILDE
   Z WITH:ACUTE,CARON,CIRCUMFLEX,DESCENDER,DOT ABOVE,DOT BELOW,HOOK,LINE BELOW,PALATAL HOOK,STROKE,
SWASH TAIL
 EPIGRAPHIC LETTER:ARCHAIC M,I LONGA,INVERTED M,REVERSED F,REVERSED P,SIDEWAYS I
 LETTER:AIN,ALVEOLAR CLICK,BIDENTAL PERCUSSIVE,BILABIAL CLICK,BILABIAL PERCUSSIVE,DENTAL CLICK,
GLOTTAL STOP,GLOTTAL STOP WITH STROKE,INVERTED GLOTTAL STOP,INVERTED GLOTTAL STOP WITH CURL,
INVERTED GLOTTAL STOP WITH STROKE,LATERAL CLICK,PHARYNGEAL VOICED FRICATIVE,RETROFLEX CLICK,
RETROFLEX CLICK WITH RETROFLEX HOOK,REVERSED ESH LOOP,REVERSED GLOTTAL STOP WITH STROKE,
SINOLOGICAL DOT,STRETCHED C,STRETCHED C WITH CURL,TWO WITH STROKE,VOICED LARYNGEAL SPIRANT,WYNN,YR
  SMALL CAPITAL:A,AE,B,BARRED B,C,D,E,ETH,EZH,F,G,G WITH HOOK,H,I,INVERTED R,J,K,L,L WITH BELT,
L WITH STROKE,M,N,O,OE,OPEN O,OU,P,Q,R,R WITH RIGHT LEG,REVERSED N,REVERSED R,RUM,S,T,U,V,W,Y,Z
   TURNED:E,G,K,M,R
 SMALL:CAPITAL LETTER I WITH STROKE,CAPITAL LETTER U WITH STROKE
  LETTER:A,AA,AE,AE WITH ACUTE,AE WITH MACRON,ALPHA,ALPHA WITH RETROFLEX HOOK,ANGLICANA W,AO,AU,AV,
AV WITH HORIZONTAL BAR,AY,B,BASELINE ESH,BETA,BOTTOM HALF O,BROKEN L,C,CHI,CHI WITH LOW LEFT SERIF,
CHI WITH LOW RIGHT RING,CON,CUATRILLO,CUATRILLO WITH COMMA,D,DB DIGRAPH,DELTA,DEZH DIGRAPH,
DEZH DIGRAPH WITH PALATAL HOOK,DEZH DIGRAPH WITH RETROFLEX HOOK,DUM,DZ,E,EGYPTOLOGICAL AIN,
EGYPTOLOGICAL ALEF,ENG,ENG WITH CROSSED-TAIL,ENG WITH PALATAL HOOK,ESH,ET,ETH,EZH,F,FENG DIGRAPH,
FENG DIGRAPH WITH TRILL,G,GAMMA,GHA,H,HALF H,HENG,HENG WITH HOOK,HV,I,INVERTED ALPHA,INVERTED OE,
IOTA,IOTA WITH STROKE,IOTIFIED E,IS,J,K,KRA,L,LAMBDA WITH STROKE,LENIS F,LEZH,
LEZH WITH RETROFLEX HOOK,LJ,LONG S,LS DIGRAPH,LUM,LZ DIGRAPH,M,MIDDLE SCOTS S,MIDDLE-WELSH LL,
MIDDLE-WELSH V,MUM,N,NJ,NUM,O,OI,OLD POLISH O,OMEGA,OO,OU,P,PHI,Q,QP DIGRAPH,R,RAMS HORN,RUM,
RUM ROTUNDA,S,SAKHA YAT,SALTILLO,SCHWA,SCHWA WITH HOOK,SCHWA WITH RETROFLEX HOOK,SHARP S,SIGMOID S,
SQUAT REVERSED ESH,STIRRUP R,T,TAILLESS PHI,TC DIGRAPH WITH CURL,TESH DIGRAPH,
TESH DIGRAPH WITH PALATAL HOOK,TESH DIGRAPH WITH RETROFLEX HOOK,TH WITH STRIKETHROUGH,THORN,
THORN WITH STROKE,THORN WITH STROKE THROUGH DESCENDER,TOP HALF O,TRESILLO,TS DIGRAPH,
TS DIGRAPH WITH RETROFLEX HOOK,TUM,TZ,U,UE,UI,UM,UO,UPSILON,UPSILON WITH STROKE,V,VEND,VISIGOTHIC Z,
VY,W,X,Y,YOGH,Z
   A:REVERSED-SCHWA
    WITH:ACUTE,BREVE,CARON,CIRCUMFLEX,DIAERESIS,DIAERESIS AND MACRON,DOT ABOVE,DOT ABOVE AND MACRON,
DOT BELOW,DOUBLE GRAVE,GRAVE,HOOK ABOVE,INVERTED BREVE,MACRON,OGONEK,RETROFLEX HOOK,RIGHT HALF RING,
STROKE,TILDE
     BREVE AND:ACUTE,DOT BELOW,GRAVE,HOOK ABOVE,TILDE
     CIRCUMFLEX AND:ACUTE,DOT BELOW,GRAVE,HOOK ABOVE,TILDE
     RING:ABOVE,ABOVE AND ACUTE,BELOW
   B WITH:DOT ABOVE,DOT BELOW,FLOURISH,HOOK,LINE BELOW,MIDDLE TILDE,PALATAL HOOK,STROKE,TOPBAR
   BARRED:ALPHA,E,O
   BLACKLETTER:E,O,O WITH STROKE
   C WITH:ACUTE,BAR,CARON,CEDILLA,CEDILLA AND ACUTE,CIRCUMFLEX,CURL,DOT ABOVE,HOOK,PALATAL HOOK,
RETROFLEX HOOK,STROKE
   CLOSED:INSULAR G,OMEGA,OPEN E,REVERSED OPEN E
   D WITH:CARON,CEDILLA,CIRCUMFLEX BELOW,CURL,DOT ABOVE,DOT BELOW,HOOK,HOOK AND TAIL,LINE BELOW,
MIDDLE TILDE,PALATAL HOOK,SHORT STROKE OVERLAY,STROKE,TAIL,TOPBAR
   DOTLESS:I,J,J WITH STROKE,J WITH STROKE AND HOOK
   DOUBLE:R,R WITH CROSSED-TAIL,THORN,WYNN
   DZ:DIGRAPH,DIGRAPH WITH CURL,DIGRAPH WITH RETROFLEX HOOK,WITH CARON
   E WITH:ACUTE,BREVE,CARON,CEDILLA,CEDILLA AND BREVE,CIRCUMFLEX,DIAERESIS,DOT ABOVE,DOT BELOW,
DOUBLE GRAVE,FLOURISH,GRAVE,HOOK ABOVE,INVERTED BREVE,MACRON,MACRON AND ACUTE,MACRON AND GRAVE,
NOTCH,OGONEK,RETROFLEX HOOK,STROKE,TILDE,TILDE BELOW
    CIRCUMFLEX:BELOW
     AND:ACUTE,DOT BELOW,GRAVE,HOOK ABOVE,TILDE
   ESH WITH:CURL,DOUBLE BAR,DOUBLE BAR AND CURL,PALATAL HOOK,RETROFLEX HOOK
   EZH:REVERSED
    WITH:CARON,CURL,PALATAL HOOK,RETROFLEX HOOK,TAIL
   F WITH:DOT ABOVE,HOOK,MIDDLE TILDE,PALATAL HOOK,STROKE
   G WITH:ACUTE,BREVE,CARON,CEDILLA,CIRCUMFLEX,DOT ABOVE,HOOK,MACRON,OBLIQUE STROKE,PALATAL HOOK,
STROKE
   GLOTTAL:A,I,STOP,U
   H WITH:BREVE BELOW,CARON,CEDILLA,CIRCUMFLEX,DESCENDER,DIAERESIS,DOT ABOVE,DOT BELOW,HOOK,
LINE BELOW,PALATAL HOOK,STROKE
   I WITH:ACUTE,BREVE,CARON,CIRCUMFLEX,DIAERESIS,DIAERESIS AND ACUTE,DOT BELOW,DOUBLE GRAVE,GRAVE,
HOOK ABOVE,INVERTED BREVE,MACRON,OGONEK,RETROFLEX HOOK,STROKE,STROKE AND RETROFLEX HOOK,TILDE,
TILDE BELOW
   INSULAR:D,F,G,R,S,T
   J WITH:CARON,CIRCUMFLEX,CROSSED-TAIL,STROKE
   K WITH:ACUTE,CARON,CEDILLA,DESCENDER,DIAGONAL STROKE,DOT BELOW,HOOK,LINE BELOW,OBLIQUE STROKE,
PALATAL HOOK,STROKE,STROKE AND DIAGONAL STROKE
   L WITH:ACUTE,BAR,BELT,BELT AND PALATAL HOOK,CARON,CEDILLA,CIRCUMFLEX BELOW,CURL,DOT BELOW,
DOT BELOW AND MACRON,DOUBLE BAR,DOUBLE MIDDLE TILDE,FISHHOOK,HIGH STROKE,INVERTED LAZY S,LINE BELOW,
PALATAL HOOK,RETROFLEX HOOK,RETROFLEX HOOK AND BELT,STROKE
    MIDDLE:DOT,RING,TILDE
   LONG S WITH:DIAGONAL STROKE,DOT ABOVE,HIGH STROKE
   M WITH:ACUTE,CROSSED-TAIL,DOT ABOVE,DOT BELOW,HOOK,MIDDLE TILDE,PALATAL HOOK
   N:PRECEDED BY APOSTROPHE
    WITH:ACUTE,CARON,CEDILLA,CIRCUMFLEX BELOW,CROSSED-TAIL,CURL,DESCENDER,DOT ABOVE,DOT BELOW,GRAVE,
LEFT HOOK,LINE BELOW,LONG RIGHT LEG,MIDDLE TILDE,OBLIQUE STROKE,PALATAL HOOK,RETROFLEX HOOK,TILDE
   O WITH:ACUTE,BREVE,CARON,CIRCUMFLEX,DIAERESIS,DIAERESIS AND MACRON,DOUBLE ACUTE,DOUBLE GRAVE,
GRAVE,HOOK ABOVE,HORN,INVERTED BREVE,LONG STROKE OVERLAY,LOOP,LOW RING INSIDE,MACRON,
MACRON AND ACUTE,MACRON AND GRAVE,OGONEK,OGONEK AND MACRON,RETROFLEX HOOK,STROKE,STROKE AND ACUTE,
TILDE
    CIRCUMFLEX AND:ACUTE,DOT BELOW,GRAVE,HOOK ABOVE,TILDE
    DOT:ABOVE,ABOVE AND MACRON,BELOW
    HORN AND:ACUTE,DOT BELOW,GRAVE,HOOK ABOVE,TILDE
    TILDE AND:ACUTE,DIAERESIS,MACRON
   OPEN:E,E WITH RETROFLEX HOOK,O,O WITH RETROFLEX HOOK,O WITH STROKE,OE
   P WITH:ACUTE,DOT ABOVE,FLOURISH,HOOK,MIDDLE TILDE,PALATAL HOOK,SQUIRREL TAIL,STROKE,
STROKE THROUGH DESCENDER
   Q WITH:DIAGONAL STROKE,HOOK,HOOK TAIL,STROKE THROUGH DESCENDER
   R:ROTUNDA,WITHOUT HANDLE
    WITH:ACUTE,CARON,CEDILLA,CROSSED-TAIL,DOT ABOVE,DOT BELOW,DOT BELOW AND MACRON,DOUBLE GRAVE,
FISHHOOK,FISHHOOK AND MIDDLE TILDE,FISHHOOK AND PALATAL HOOK,INVERTED BREVE,LINE BELOW,LONG LEG,
MIDDLE TILDE,OBLIQUE STROKE,PALATAL HOOK,STROKE,TAIL
   REVERSED:C,C WITH DOT,E,ENG,HALF H,K,OPEN E,OPEN E WITH HOOK,OPEN E WITH RETROFLEX HOOK,
R WITH FISHHOOK,SCRIPT G
   S WITH:ACUTE,ACUTE AND DOT ABOVE,CARON,CARON AND DOT ABOVE,CEDILLA,CIRCUMFLEX,COMMA BELOW,CURL,
HOOK,MIDDLE TILDE,OBLIQUE STROKE,PALATAL HOOK,SHORT STROKE OVERLAY,SWASH TAIL
    DOT:ABOVE,BELOW,BELOW AND DOT ABOVE
   SCRIPT:G,G WITH CROSSED-TAIL,R,R WITH RING
   SIDEWAYS:DIAERESIZED U,O,O WITH STROKE,OPEN O,TURNED M,U
   T WITH:CARON,CEDILLA,CIRCUMFLEX BELOW,COMMA BELOW,CURL,DIAERESIS,DIAGONAL STROKE,DOT ABOVE,
DOT BELOW,HOOK,HOOK AND RETROFLEX HOOK,LINE BELOW,MIDDLE TILDE,PALATAL HOOK,RETROFLEX HOOK,STROKE
   TONE:FIVE,SIX,TWO
   TURNED:A,AE,ALPHA,DELTA,E,G,H,H WITH FISHHOOK,H WITH FISHHOOK AND TAIL,I,INSULAR G,K,L,M,
M WITH LONG LEG,O OPEN-O,O OPEN-O WITH STROKE,OE,OE WITH HORIZONTAL STROKE,OE WITH STROKE,OPEN E,R,
T,T WITH CURL,UI,V,W,Y,Y WITH BELT
    R WITH:HOOK,LONG LEG,LONG LEG AND RETROFLEX HOOK,MIDDLE TILDE,PALATAL HOOK,TAIL
   U:BAR,BAR WITH SHORT RIGHT LEG
    WITH:ACUTE,BREVE,CARON,CIRCUMFLEX,CIRCUMFLEX BELOW,DIAERESIS,DOT BELOW,DOUBLE ACUTE,
DOUBLE GRAVE,GRAVE,HOOK ABOVE,HORN,INVERTED BREVE,LEFT HOOK,MACRON,MACRON AND DIAERESIS,OGONEK,
RETROFLEX HOOK,RING ABOVE,SHORT RIGHT LEG,STROKE,TILDE,TILDE AND ACUTE,TILDE BELOW
     DIAERESIS:BELOW
      AND:ACUTE,CARON,GRAVE,MACRON
     HORN AND:ACUTE,DOT BELOW,GRAVE,HOOK ABOVE,TILDE
   V WITH:CURL,DIAGONAL STROKE,DOT BELOW,HOOK,PALATAL HOOK,RIGHT HOOK,TILDE
   VOLAPUK:AE,OE,UE
   W WITH:ACUTE,CIRCUMFLEX,DIAERESIS,DOT ABOVE,DOT BELOW,GRAVE,HOOK,RING ABOVE
   X WITH:DIAERESIS,DOT ABOVE,LONG LEFT LEG,LONG LEFT LEG AND LOW RIGHT RING,
LONG LEFT LEG WITH SERIF,LOW RIGHT RING,PALATAL HOOK
   Y WITH:ACUTE,CIRCUMFLEX,DIAERESIS,DOT ABOVE,DOT BELOW,GRAVE,HOOK,HOOK ABOVE,LOOP,MACRON,
RING ABOVE,SHORT RIGHT LEG,STROKE,TILDE
   Z WITH:ACUTE,CARON,CIRCUMFLEX,CURL,DESCENDER,DOT ABOVE,DOT BELOW,HOOK,LINE BELOW,MIDDLE TILDE,
PALATAL HOOK,RETROFLEX HOOK,STROKE,SWASH TAIL
  LIGATURE:FF,FFI,FFL,FI,FL,IJ,LONG S T,OE,ST
 SUBSCRIPT SMALL LETTER:A,E,H,I,J,K,L,M,N,O,P,R,S,SCHWA,T,U,V,X
LEFT:ANGER BUBBLE,ANGLE BRACKET,ANGLE BRACKET WITH DOT,ARC LESS-THAN BRACKET,
ARROW WITH CIRCLED PLUS,ARROW WITH SMALL CIRCLE,BLACK LENTICULAR BRACKET,
BLACK TORTOISE SHELL BRACKET,CEILING,CLOSED ENTRY,CORNER BRACKET,CURLY BRACKET,
DOTTED SUBSTITUTION BRACKET,FISH TAIL,FIVE EIGHTHS BLOCK,FLOOR,HAND TELEPHONE RECEIVER,
LOW PARAPHRASE BRACKET,LUGGAGE,MULTIMAP,NORMAL FACTOR SEMIDIRECT PRODUCT,ONE EIGHTH BLOCK,
ONE QUARTER BLOCK,OUTER JOIN,PARENTHESIS,RAISED OMISSION BRACKET,S-SHAPED BAG DELIMITER,
SEMIDIRECT PRODUCT,SEVEN EIGHTHS BLOCK,SIDEWAYS U BRACKET,SINGLE QUOTATION MARK,SPEECH BUBBLE,
SQUARE BRACKET,SUBSTITUTION BRACKET,TACK,THIRD WHITE RIGHT POINTING INDEX,THOUGHT BUBBLE,
THREE EIGHTHS BLOCK,THREE QUARTERS BLOCK,TORTOISE SHELL BRACKET,TRANSPOSITION BRACKET,
TRIANGLE BESIDE VERTICAL BAR,TRIANGULAR ONE QUARTER BLOCK,VERTICAL BAR WITH QUILL,VERTICAL BOX LINE,
WIGGLY FENCE,WRITING HAND
 AND:LOWER AND RIGHT TRIANGULAR THREE QUARTERS BLOCK,LOWER ONE EIGHTH BLOCK,
UPPER AND RIGHT TRIANGULAR THREE QUARTERS BLOCK,UPPER ONE EIGHTH BLOCK
  RIGHT:DOUBLE TURNSTILE,TACK,TRIANGULAR HALF BLOCK
 BARB:DOWN RIGHT BARB DOWN HARPOON,DOWN RIGHT BARB UP HARPOON,UP RIGHT BARB DOWN HARPOON,
UP RIGHT BARB UP HARPOON
 CURLY BRACKET:LOWER HOOK,MIDDLE PIECE,UPPER HOOK
 DOUBLE:ANGLE BRACKET,PARENTHESIS,QUOTATION MARK,WIGGLY FENCE
 HALF:BLACK CIRCLE,BLACK STAR,BLOCK,CIRCLE,FOLDER,INVERSE MEDIUM SHADE AND RIGHT HALF BLOCK,
MEDIUM SHADE,RUNNING MAN
  CIRCLE WITH:DOT,FOUR DOTS,THREE DOTS,TWO DOTS
 PARENTHESIS:EXTENSION,LOWER HOOK,UPPER HOOK
 RIGHT:ARROW,BLACK ARROW,DOUBLE ARROW,DOUBLE ARROW WITH STROKE,DOUBLE ARROW WITH VERTICAL STROKE,
OPEN-HEADED ARROW,SANS-SERIF ARROW,TRIANGLE-HEADED ARROW,WAVE ARROW,WHITE ARROW
  ARROW:THROUGH SMALL CIRCLE
   WITH:DOUBLE VERTICAL STROKE,STROKE,VERTICAL STROKE
 SQUARE BRACKET:EXTENSION,LOWER CORNER,UPPER CORNER
  WITH:DOUBLE STROKE,QUILL,STROKE,TICK IN BOTTOM CORNER,TICK IN TOP CORNER,UNDERBAR
 WHITE:CORNER BRACKET,CURLY BRACKET,LENTICULAR BRACKET,PARENTHESIS,SQUARE BRACKET,
TORTOISE SHELL BRACKET
LEFT-FACING:ARMENIAN ETERNITY SIGN,FIST,SVASTI SIGN,SVASTI SIGN WITH DOTS
LEFT-POINTING:ANGLE BRACKET,CURVED ANGLE BRACKET,DOUBLE ANGLE QUOTATION MARK,MAGNIFYING GLASS
LEFT-TO-RIGHT:EMBEDDING,ISOLATE,MARK,OVERRIDE
LEFTWARDS:ARROW,ARROW-TAIL,BACK-TILTED SHADOWED WHITE ARROW,BLACK ARROW,BLACK CIRCLED WHITE ARROW,
BOTTOM-SHADED WHITE ARROW,COMPRESSED ARROW,DASHED ARROW,FINGER-POST ARROW,
FRONT-TILTED SHADOWED WHITE ARROW,HAND,HEAVY ARROW,HEAVY COMPRESSED ARROW,LEFT-SHADED WHITE ARROW,
OPEN-HEADED ARROW,PAIRED ARROWS,QUADRUPLE ARROW,RIGHT-SHADED WHITE ARROW,ROCKET,SANS-SERIF ARROW,
SQUARED ARROW,SQUIGGLE ARROW,TOP SHADED WHITE ARROW,TRIANGLE ARROWHEAD,TRIPLE ARROW,
TRIPLE DASH ARROW,TWO HEADED ARROW,WAVE ARROW,WHITE ARROW,WHITE ARROW WITHIN TRIANGLE ARROWHEAD
 ARROW:AND UPPER AND LOWER ONE EIGHTH BLOCK,FROM BAR,FROM BAR TO BLACK DIAMOND,
OVER RIGHTWARDS ARROW
  ABOVE:ALMOST EQUAL TO,REVERSE ALMOST EQUAL TO,REVERSE TILDE OPERATOR,SHORT RIGHTWARDS ARROW,
TILDE OPERATOR
  THROUGH:LESS-THAN,SUBSET,X
  TO:BAR,BAR OVER RIGHTWARDS ARROW TO BAR,BLACK DIAMOND
  WITH:DOTTED STEM,DOUBLE VERTICAL STROKE,EQUILATERAL ARROWHEAD,HOOK,LARGE TRIANGLE ARROWHEAD,LOOP,
MEDIUM TRIANGLE ARROWHEAD,NOTCHED TAIL,PLUS BELOW,SMALL EQUILATERAL ARROWHEAD,
SMALL TRIANGLE ARROWHEAD,STROKE,TAIL,TAIL WITH DOUBLE VERTICAL STROKE,TAIL WITH VERTICAL STROKE,
TIP DOWNWARDS,TIP UPWARDS,VERTICAL STROKE
 DOUBLE:ARROW,ARROW-TAIL,DASH ARROW
  ARROW:FROM BAR,WITH STROKE,WITH VERTICAL STROKE
 HARPOON:OVER RIGHTWARDS HARPOON
  WITH BARB:DOWNWARDS,UPWARDS
   DOWN:ABOVE RIGHTWARDS HARPOON WITH BARB DOWN,BELOW LONG DASH,FROM BAR,TO BAR
   UP:FROM BAR,TO BAR
    ABOVE:LEFTWARDS HARPOON WITH BARB DOWN,LONG DASH,RIGHTWARDS HARPOON WITH BARB UP
 TRIANGLE-HEADED:ARROW,DASHED ARROW,PAIRED ARROWS
  ARROW:OVER RIGHTWARDS TRIANGLE-HEADED ARROW,TO BAR
   WITH:BOLD SHAFT,DOUBLE HORIZONTAL STROKE,DOUBLE VERTICAL STROKE,HEAVY SHAFT,LONG TIP DOWNWARDS,
LONG TIP UPWARDS,MEDIUM SHAFT,NARROW SHAFT,VERY HEAVY SHAFT
 TWO-HEADED:TRIPLE DASH ARROW
  ARROW:FROM BAR
   WITH:DOUBLE VERTICAL STROKE,TAIL,TAIL WITH DOUBLE VERTICAL STROKE,TAIL WITH VERTICAL STROKE,
TRIANGLE ARROWHEADS,VERTICAL STROKE
LEPCHA:SIGN NUKTA,SIGN RAN,SUBJOINED LETTER RA,SUBJOINED LETTER YA
 CONSONANT SIGN:K,KANG,L,M,N,NYIN-DO,P,R,T
 DIGIT:EIGHT,FIVE,FOUR,NINE,ONE,SEVEN,SIX,THREE,TWO,ZERO
 LETTER:A,BA,BLA,CA,CHA,DA,DDA,DZA,FA,FLA,GA,GLA,HA,HLA,JA,KA,KHA,KLA,LA,MA,MLA,NA,NGA,NYA,PA,PHA,
PLA,RA,SA,SHA,TA,THA,TSA,TSHA,TTA,TTHA,VA,WA,YA
 PUNCTUATION:CER-WA,NYET THYOOM TA-ROL,TA-ROL,TSHOOK,TSHOOK CER-WA
 VOWEL SIGN:AA,E,I,O,OO,U,UU
LESS-THAN:AND NOT APPROXIMATE,AND SINGLE-LINE NOT EQUAL TO,BUT NOT EQUAL TO,BUT NOT EQUIVALENT TO,
CLOSED BY CURVE,CLOSED BY CURVE ABOVE SLANTED EQUAL,EQUAL TO OR GREATER-THAN,OVER EQUAL TO,SIGN
 ABOVE:DOUBLE-LINE EQUAL ABOVE GREATER-THAN,GREATER-THAN ABOVE DOUBLE-LINE EQUAL,LEFTWARDS ARROW,
SIMILAR ABOVE GREATER-THAN,SIMILAR OR EQUAL,SLANTED EQUAL ABOVE GREATER-THAN ABOVE SLANTED EQUAL
 OR:APPROXIMATE,EQUAL TO,EQUIVALENT TO,GREATER-THAN,SLANTED EQUAL TO
  SLANTED EQUAL TO WITH DOT:ABOVE,ABOVE RIGHT,INSIDE
 WITH:CIRCLE INSIDE,DOT,QUESTION MARK ABOVE
LIGHT:CHECK MARK,EIGHT SPOKED ASTERISK,FIVE POINTED BLACK STAR,FIVE SPOKED ASTERISK,
FOUR POINTED BLACK CUSP,FOUR POINTED BLACK STAR,GREEK CROSS,LEFT TORTOISE SHELL BRACKET ORNAMENT,
RAIL,RIGHT TORTOISE SHELL BRACKET ORNAMENT,SALTIRE,SHADE,SIX SPOKED ASTERISK,
THREE POINTED BLACK STAR,TWELVE POINTED BLACK STAR,VERTICAL BAR,WHITE SQUARE
LIMBU:EXCLAMATION MARK,QUESTION MARK,VOWEL-CARRIER LETTER
 DIGIT:EIGHT,FIVE,FOUR,NINE,ONE,SEVEN,SIX,THREE,TWO,ZERO
 LETTER:BA,BHA,CA,CHA,DA,DHA,GA,GHA,GYAN,HA,JA,JHA,KA,KHA,LA,MA,NA,NGA,PA,PHA,RA,SA,SHA,SSA,TA,THA,
TRA,WA,YA,YAN
 SIGN:KEMPHRENG,LOO,MUKPHRENG,SA-I
 SMALL LETTER:ANUSVARA,KA,LA,MA,NA,NGA,PA,RA,TA
 SUBJOINED LETTER:RA,WA,YA
 VOWEL SIGN:A,AI,AU,E,EE,I,O,OO,U
LINE:FEED,SEPARATOR,TABULATION,TABULATION SET
 INTEGRATION:NOT INCLUDING THE POLE,WITH RECTANGULAR PATH AROUND POLE,
WITH SEMICIRCULAR PATH AROUND POLE
LINEAR:
 A SIGN:A028B,A100-102,A120B,A131C,A301,A302,A303,A304,A305,A306,A307,A308,A309A,A309B,A309C,A310,
A311,A312,A313A,A313B,A313C,A314,A315,A316,A317,A318,A319,A320,A321,A322,A323,A324,A325,A326,A327,
A328,A329,A330,A331,A332,A333,A334,A335,A336,A337,A338,A339,A340,A341,A342,A343,A344,A345,A346,A347,
A348,A349,A350,A351,A352,A353,A354,A355,A356,A357,A358,A359,A360,A361,A362,A363,A364,A365,A366,A367,
A368,A369,A370,A371,A400-VAS,A401-VAS,A402-VAS,A403-VAS,A404-VAS,A405-VAS,A406-VAS,A407-VAS,
A408-VAS,A409-VAS,A410-VAS,A411-VAS,A412-VAS,A413-VAS,A414-VAS,A415-VAS,A416-VAS,A417-VAS,A418-VAS,
A501,A502,A503,A504,A505,A506,A508,A509,A510,A511,A512,A513,A515,A516,A520,A521,A523,A524,A525,A526,
A527,A528,A529,A530,A531,A532,A534,A535,A536,A537,A538,A539,A540,A541,A542,A545,A547,A548,A549,A550,
A551,A552,A553,A554,A555,A556,A557,A559,A563,A564,A565,A566,A568,A569,A570,A571,A572,A573,A574,A575,
A576,A577,A578,A579,A580,A581,A582,A583,A584,A585,A586,A587,A588,A589,A591,A592,A594,A595,A596,A598,
A600,A601,A602,A603,A604,A606,A608,A609,A610,A611,A612,A613,A614,A615,A616,A617,A618,A619,A620,A621,
A622,A623,A624,A626,A627,A628,A629,A634,A637,A638,A640,A642,A643,A644,A645,A646,A648,A649,A651,A652,
A653,A654,A655,A656,A657,A658,A659,A660,A661,A662,A663,A664,A701 A,A702 B,A703 D,A704 E,A705 F,
A706 H,A707 J,A708 K,A709 L,A709-2 L2,A709-3 L3,A709-4 L4,A709-6 L6,A710 W,A711 X,A712 Y,A713 OMEGA,
A714 ABB,A715 BB,A717 DD,A726 EYYY,A732 JE,A800,A801,A802,A803,A804,A805,A806,A807,AB001,AB002,
AB003,AB004,AB005,AB006,AB007,AB008,AB009,AB010,AB011,AB013,AB016,AB017,AB020,AB021,AB021F,AB021M,
AB022,AB022F,AB022M,AB023,AB023M,AB024,AB026,AB027,AB028,AB029,AB030,AB031,AB034,AB037,AB038,AB039,
AB040,AB041,AB044,AB045,AB046,AB047,AB048,AB049,AB050,AB051,AB053,AB054,AB055,AB056,AB057,AB058,
AB059,AB060,AB061,AB065,AB066,AB067,AB069,AB070,AB073,AB074,AB076,AB077,AB078,AB079,AB080,AB081,
AB082,AB085,AB086,AB087,AB118,AB120,AB122,AB123,AB131A,AB131B,AB164,AB171,AB180,AB188,AB191
 B:
  IDEOGRAM:B100 MAN,B102 WOMAN,B104 DEER,B105 EQUID,B105F MARE,B105M STALLION,B106F EWE,B106M RAM,
B107F SHE-GOAT,B107M HE-GOAT,B108F SOW,B108M BOAR,B109F COW,B109M BULL,B120 WHEAT,B121 BARLEY,
B122 OLIVE,B123 SPICE,B125 CYPERUS,B130 OIL,B131 WINE,B132,B140 BRONZE,B141 GOLD,B142,B145 WOOL,
B146,B150,B151 HORN,B152,B153,B154,B157,B158,B159 CLOTH,B160,B161,B162 GARMENT,B163 ARMOUR,B164,
B165,B166,B167,B168,B169,B170,B171,B172,B173 MONTH,B174,B176 TREE,B177,B178,B179,B180,B181,B182,
B183,B184,B185,B189,B190,B191 HELMET,B220 FOOTSTOOL,B225 BATHTUB,B230 SPEAR,B231 ARROW,B232,
B233 SWORD,B234,B236,B240 WHEELED CHARIOT,B241 CHARIOT,B242 CHARIOT FRAME,B243 WHEEL,B245,B246,B248,
B249,B251,B252,B253,B254 DART,B255,B256,B257,B258,B259
   VESSEL:B155,B200,B201,B202,B203,B204,B205,B206,B207,B208,B209,B210,B211,B212,B213,B214,B215,B216,
B217,B218,B219,B221,B222,B226,B227,B228,B229,B250,B305
  MONOGRAM:B127 KAPO,B128 KANAKO,B133 AREPA,B135 MERI,B156 TURO2,B247 DIPTE
  SYLLABLE:B001 DA,B002 RO,B003 PA,B004 TE,B005 TO,B006 NA,B007 DI,B008 A,B009 SE,B010 U,B011 PO,
B012 SO,B013 ME,B014 DO,B015 MO,B016 QA,B017 ZA,B020 ZO,B021 QI,B023 MU,B024 NE,B025 A2,B026 RU,
B027 RE,B028 I,B029 PU2,B030 NI,B031 SA,B032 QO,B033 RA3,B036 JO,B037 TI,B038 E,B039 PI,B040 WI,
B041 SI,B042 WO,B043 A3,B044 KE,B045 DE,B046 JE,B048 NWA,B050 PU,B051 DU,B052 NO,B053 RI,B054 WA,
B055 NU,B057 JA,B058 SU,B059 TA,B060 RA,B061 O,B062 PTE,B065 JU,B066 TA2,B067 KI,B068 RO2,B069 TU,
B070 KO,B071 DWE,B072 PE,B073 MI,B074 ZE,B075 WE,B076 RA2,B077 KA,B078 QE,B080 MA,B081 KU,B085 AU,
B087 TWE,B090 DWO,B091 TWO
  SYMBOL:B018,B019,B022,B034,B047,B049,B056,B063,B064,B079,B082,B083,B086,B089
LISU:PUNCTUATION COMMA,PUNCTUATION FULL STOP
 LETTER:A,AE,BA,CA,CHA,DA,DZA,E,EU,FA,GA,GHA,HA,HHA,I,JA,KA,KHA,LA,MA,NA,NGA,O,OE,PA,PHA,SA,SHA,TA,
THA,TSA,TSHA,U,UE,UH,WA,XA,YA,YHA,ZA,ZHA
  TONE:NA PO
   MYA:BO,CYA,JEU,NA,TI
LOGICAL:AND,OR
 AND WITH:DOT ABOVE,DOUBLE OVERBAR,DOUBLE UNDERBAR,HORIZONTAL DASH,MIDDLE STEM,UNDERBAR
 OR:OVERLAPPING LOGICAL AND
  WITH:DOT ABOVE,DOUBLE OVERBAR,DOUBLE UNDERBAR,HORIZONTAL DASH,MIDDLE STEM
LONG:DASH FROM LEFT MEMBER OF DOUBLE VERTICAL,DIVISION,DRUM,RIGHT TACK
 LEFT:RIGHT ARROW,RIGHT DOUBLE ARROW,TACK
 LEFTWARDS:ARROW,ARROW FROM BAR,DOUBLE ARROW,DOUBLE ARROW FROM BAR,SQUIGGLE ARROW
 RIGHTWARDS:ARROW,ARROW FROM BAR,DOUBLE ARROW,DOUBLE ARROW FROM BAR,SQUIGGLE ARROW
LOW:ASTERISK,BATTERY,BRIGHTNESS SYMBOL,DOUBLE PRIME QUOTATION MARK,KAVYKA,KAVYKA WITH DOT,LINE
LOWER:BLADE SCISSORS,FIVE EIGHTHS BLOCK,ONE EIGHTH BLOCK,ONE QUARTER BLOCK,SEVEN EIGHTHS BLOCK,
THREE EIGHTHS BLOCK,THREE QUARTERS BLOCK,TRIANGULAR ONE QUARTER BLOCK
 HALF:BLOCK,CIRCLE,INVERSE WHITE CIRCLE,MEDIUM SHADE
 LEFT:BALLPOINT PEN,CRAYON,FOUNTAIN PEN,PAINTBRUSH,PENCIL,QUADRANT CIRCULAR ARC,
SEMICIRCULAR ANTICLOCKWISE ARROW,TRIANGLE,TRIANGULAR MEDIUM SHADE
  BLOCK DIAGONAL:LOWER MIDDLE LEFT TO LOWER CENTRE,LOWER MIDDLE LEFT TO LOWER RIGHT
   UPPER:
    CENTRE TO:LOWER MIDDLE RIGHT,LOWER RIGHT,UPPER MIDDLE RIGHT
    LEFT TO:LOWER CENTRE,LOWER MIDDLE RIGHT,UPPER MIDDLE RIGHT
    MIDDLE LEFT TO LOWER:CENTRE,MIDDLE RIGHT,RIGHT
 RIGHT:CORNER WITH DOT,DROP-SHADOWED WHITE SQUARE,PENCIL,QUADRANT CIRCULAR ARC,
SEMICIRCULAR CLOCKWISE ARROW,SHADOWED WHITE CIRCLE,SHADOWED WHITE SQUARE,TRIANGLE,
TRIANGULAR MEDIUM SHADE
  BLOCK DIAGONAL:UPPER MIDDLE LEFT TO UPPER CENTRE,UPPER MIDDLE LEFT TO UPPER RIGHT
   LOWER:
    CENTRE TO:LOWER MIDDLE RIGHT,UPPER MIDDLE RIGHT,UPPER RIGHT
    LEFT TO:LOWER MIDDLE RIGHT,UPPER CENTRE,UPPER MIDDLE RIGHT
    MIDDLE LEFT TO UPPER:CENTRE,MIDDLE RIGHT,RIGHT
LYCIAN LETTER:A,AN,B,BH,D,E,EN,G,H,I,J,K,KK,L,M,MM,N,NN,P,Q,R,S,T,TH,TT,U,W,X,Z
LYDIAN:TRIANGULAR MARK
 LETTER:A,AN,B,C,D,E,EN,F,G,I,K,L,LY,M,N,NN,O,Q,R,S,SS,T,TT,U,V,Y"

end ReviewDiff.Text
