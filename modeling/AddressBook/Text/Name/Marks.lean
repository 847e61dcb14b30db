namespace AddressBook.Text.Name

def marks : String :=
  "1D000:0BYZANTINE MUSICAL SYMBOL PSILI,3DASEIA,3PERISPOMENI,3OXEIA EKFONITIKON,4DIPLI
   3VAREIA EKFONITIKON,4DIPLI,3KATHISTI,3SYRMATIKI,3PARAKLITIKI,3YPOKRISIS,4DIPLI,3KREMASTI
   3APESO EKFONITIKON,3EXO+,3TELEIA,3KENTIMATA,3APOSTROFOS,4DIPLI,3SYNEVMA,3THITA,3OLIGON ARCHAION
   3GORGON+,3PSILON,3CHAMILON,3VATHY,3ISON ARCHAION,3KENTIMA+,3KENTIMATA+,3SAXIMATA,3PARICHON
   3STAVROS APODEXIA,3OXEIAI ARCHAION,3VAREIAI+,3APODERMA+,3APOTHEMA,3KLASMA,3REVMA,3PIASMA ARCHAION
   3TINAGMA,3ANATRICHISMA,3SEISMA,3SYNAGMA ARCHAION,4META STAVROU,3OYRANISMA ARCHAION,3THEMA,3LEMOI
   3DYO,3TRIA,3TESSERA,3KRATIMATA,3APESO EXO NEO,3FTHORA ARCHAION,3IMIFTHORA,3TROMIKON ARCHAION
   3KATAVA TROMIKON,3PELASTON,3PSIFISTON,3KONTEVMA,3CHOREVMA ARCHAION,3RAPISMA,3PARAKALESMA ARCHAION
   3PARAKLITIKI+,3ICHADIN,3NANA,3PETASMA,3KONTEVMA ALLO,3TROMIKON+,3STRAGGISMATA,3GRONTHISMATA
   3ISON NEO,3OLIGON+,3OXEIA+,3PETASTI,3KOUFISMA,3PETASTOKOUFISMA,3KRATIMOKOUFISMA,3PELASTON NEO
   3KENTIMATA NEO ANO,3KENTIMA+,3YPSILI,3APOSTROFOS NEO,3APOSTROFOI SYNDESMOS NEO,3YPORROI
   3KRATIMOYPORROON,3ELAFRON,3CHAMILI,3MIKRON ISON,3VAREIA NEO,3PIASMA+,3PSIFISTON+,3OMALON
   3ANTIKENOMA,3LYGISMA,3PARAKLITIKI NEO,3PARAKALESMA+,3ETERON PARAKALESMA,3KYLISMA,3ANTIKENOKYLISMA
   3TROMIKON NEO,3EKSTREPTON,3SYNAGMA NEO,3SYRMA,3CHOREVMA NEO,3EPEGERMA,3SEISMA NEO,3XIRON KLASMA
   3TROMIKOPSIFISTON,3PSIFISTOLYGISMA,3TROMIKOLYGISMA,3TROMIKOPARAKALESMA,3PSIFISTOPARAKALESMA
   3TROMIKOSYNAGMA,3PSIFISTOSYNAGMA,3GORGOSYNTHETON,3ARGOSYNTHETON,3ETERON ARGOSYNTHETON
   3OYRANISMA NEO,3THEMATISMOS ESO,4EXO,3THEMA APLOUN,3THES KAI APOTHES,3KATAVASMA,3ENDOFONON
   3YFEN KATO,4ANO,3STAVROS,3KLASMA ANO,3DIPLI ARCHAION,3KRATIMA+,4ALLO,4NEO,3APODERMA+,3APLI,3DIPLI
   3TRIPLI,3TETRAPLI,3KORONIS,3LEIMMA ENOS CHRONOU,4DYO CHRONON,4TRION+,4TESSARON+,4IMISEOS CHRONOU
   3GORGON NEO ANO,4PARESTIGMENON ARISTERA,5DEXIA,3DIGORGON,4PARESTIGMENON ARISTERA KATO,6ANO,5DEXIA
   3TRIGORGON,3ARGON,3IMIDIARGON,3DIARGON,3AGOGI POLI ARGI,4ARGOTERI,4ARGI,4METRIA,4MESI,4GORGI
   4GORGOTERI,4POLI GORGI,3MARTYRIA PROTOS ICHOS,4ALLI PROTOS ICHOS,4DEYTEROS ICHOS
   4ALLI DEYTEROS ICHOS,4TRITOS ICHOS,4TRIFONIAS,4TETARTOS ICHOS,5LEGETOS ICHOS,4LEGETOS ICHOS
   4PLAGIOS+,3ISAKIA TELOUS ICHIMATOS,3APOSTROFOI+,3FANEROSIS TETRAFONIAS,4MONOFONIAS,4DIFONIAS
   3MARTYRIA VARYS ICHOS,4PROTOVARYS+,4PLAGIOS TETARTOS ICHOS,3GORTHMIKON N APLOUN,5DIPLOUN
   3ENARXIS KAI FTHORA VOU,3IMIFONON,3IMIFTHORON,3FTHORA ARCHAION DEYTEROU ICHOU,4DIATONIKI PA,5NANA
   4NAOS ICHOS,4DIATONIKI DI,4SKLIRON DIATONON DI,4DIATONIKI KE,5ZO,5NI KATO,6ANO
   4MALAKON CHROMA DIFONIAS,6MONOFONIAS,3FHTORA SKLIRON CHROMA VASIS,3FTHORA SKLIRON CHROMA SYNAFI
   4NENANO,3CHROA ZYGOS,4KLITON,4SPATHI,3FTHORA I YFESIS TETARTIMORION,4ENARMONIOS ANTIFONIA
   3YFESIS TRITIMORION,3DIESIS+,4TETARTIMORION,4APLI DYO DODEKATA,4MONOGRAMMOS TESSERA+
   4DIGRAMMOS EX+,4TRIGRAMMOS OKTO+,3YFESIS APLI DYO+,4MONOGRAMMOS TESSERA+,4DIGRAMMOS EX+
   4TRIGRAMMOS OKTO+,3GENIKI DIESIS,4YFESIS,3DIASTOLI APLI MIKRI,5MEGALI,4DIPLI,4THESEOS,3SIMANSIS+
   5DISIMOU,5TRISIMOU,5TETRASIMOU,4ARSEOS,5DISIMOU,5TRISIMOU,5TETRASIMOU,3DIGRAMMA GG,3DIFTOGGOS OU
   3STIGMA,3ARKTIKO PA,4VOU,4GA,4DI,4KE,4ZO,4NI,3KENTIMATA NEO MESO,3KENTIMA+,3KENTIMATA NEO KATO
   3KENTIMA+,3KLASMA KATO,3GORGON NEO KATO,1D100:0MUSICAL SYMBOL SINGLE BARLINE,2DOUBLE+,2FINAL+
   2REVERSE FINAL BARLINE,2DASHED BARLINE,2SHORT+,2LEFT REPEAT SIGN,2RIGHT+,2REPEAT DOTS,2DAL SEGNO
   2DA CAPO,2SEGNO,2CODA,2REPEATED FIGURE-1,4-2,4-3,2FERMATA,3BELOW,2BREATH MARK,2CAESURA,2BRACE
   2BRACKET,2ONE-LINE STAFF,2TWO+,2THREE+,2FOUR+,2FIVE+,2SIX+,3-STRING FRETBOARD,2FOUR+,2G CLEF
   4OTTAVA ALTA,5BASSA,2C CLEF,2F+,4OTTAVA ALTA,5BASSA,2DRUM CLEF-1,4-2,1D129:2MULTIPLE MEASURE REST
   2DOUBLE SHARP,3FLAT,2FLAT UP,3DOWN,2NATURAL UP,3DOWN,2SHARP UP,3DOWN,2QUARTER TONE SHARP,4FLAT
   2COMMON TIME,2CUT+,2OTTAVA ALTA,3BASSA,2QUINDICESIMA ALTA,3BASSA,2MULTI REST,2WHOLE+,2HALF+
   2QUARTER+,2EIGHTH+,2SIXTEENTH+,2THIRTY-SECOND REST,2SIXTY-FOURTH+,2ONE HUNDRED TWENTY-EIGHTH REST
   2X NOTEHEAD,2PLUS+,2CIRCLE X NOTEHEAD,2SQUARE NOTEHEAD WHITE,4BLACK,2TRIANGLE NOTEHEAD UP WHITE
   5BLACK,4LEFT WHITE,5BLACK,4RIGHT WHITE,5BLACK,4DOWN WHITE,5BLACK,4UP RIGHT WHITE,6BLACK
   2MOON NOTEHEAD WHITE,4BLACK,2TRIANGLE-ROUND NOTEHEAD DOWN WHITE,6BLACK,2PARENTHESIS NOTEHEAD
   2VOID+,2NOTEHEAD BLACK,2NULL NOTEHEAD,2CLUSTER NOTEHEAD WHITE,4BLACK,2BREVE,2WHOLE NOTE,2HALF+
   2QUARTER+,2EIGHTH+,2SIXTEENTH+,2THIRTY-SECOND NOTE,2SIXTY-FOURTH+,2ONE HUNDRED TWENTY-EIGHTH NOTE
   2COMBINING STEM,3SPRECHGESANG STEM,3TREMOLO-1,4-2,4-3,2FINGERED TREMOLO-1,4-2,4-3
   2COMBINING AUGMENTATION DOT,3FLAG-1,4-2,4-3,4-4,4-5,2BEGIN BEAM,2END+,2BEGIN TIE,2END+
   2BEGIN SLUR,2END+,2BEGIN PHRASE,2END+,2COMBINING ACCENT,3STACCATO,3TENUTO,3STACCATISSIMO,3MARCATO
   4-STACCATO,3ACCENT+,3LOURE,2ARPEGGIATO UP,3DOWN,2COMBINING DOIT,3RIP,3FLIP,3SMEAR,3BEND
   3DOUBLE TONGUE,3TRIPLE+,2RINFORZANDO,2SUBITO,2Z,2PIANO,2MEZZO,2FORTE,2CRESCENDO,2DECRESCENDO
   2GRACE NOTE SLASH,4NO SLASH,2TR,2TURN,2INVERTED TURN,2TURN SLASH,3UP,2ORNAMENT STROKE-1,4-2,4-3
   4-4,4-5,4-6,4-7,4-8,4-9,4-10,4-11,2HAUPTSTIMME,2NEBENSTIMME,2END OF STIMME,2DEGREE SLASH
   2COMBINING DOWN BOW,3UP+,3HARMONIC,3SNAP PIZZICATO,2PEDAL MARK,3UP MARK,2HALF PEDAL+
   2GLISSANDO UP,3DOWN,2WITH FINGERNAILS,2DAMP,3ALL,2MAXIMA,2LONGA,2BREVIS,2SEMIBREVIS WHITE,3BLACK
   2MINIMA,3BLACK,2SEMIMINIMA WHITE,3BLACK,2FUSA WHITE,3BLACK,2LONGA PERFECTA REST,3IMPERFECTA+
   2BREVIS REST,2SEMIBREVIS+,2MINIMA+,2SEMIMINIMA+,2TEMPUS PERFECTUM CUM PROLATIONE PERFECTA
   6IMPERFECTA,6PERFECTA DIMINUTION-1,3IMPERFECTUM CUM PROLATIONE PERFECTA,6IMPERFECTA,7DIMINUTION-1
   8-2,8-3,2CROIX,2GREGORIAN C CLEF,3F+,2SQUARE B,2VIRGA,2PODATUS,2CLIVIS,2SCANDICUS,2CLIMACUS
   2TORCULUS,2PORRECTUS,3FLEXUS,2SCANDICUS+,2TORCULUS RESUPINUS,2PES SUBPUNCTIS,2KIEVAN C CLEF
   3END OF PIECE,3FINAL NOTE,3RECITATIVE MARK,3WHOLE NOTE,3HALF+,3QUARTER NOTE STEM DOWN,6UP
   3EIGHTH NOTE STEM DOWN,6UP,3FLAT SIGN,2SORI,2KORON,1D200:0GREEK VOCAL NOTATION SYMBOL-1,4-2,4-3
   4-4,4-5,4-6,4-7,4-8,4-9,4-10,4-11,4-12,4-13,4-14,4-15,4-16,4-17,4-18,4-19,4-20,4-21,4-22,4-23
   4-24,4-50,4-51,4-52,4-53,4-54,1INSTRUMENTAL NOTATION SYMBOL-1,4-2,4-4,4-5,4-7,4-8,4-11,4-12,4-13
   4-14,4-17,4-18,4-19,4-23,4-24,4-25,4-26,4-27,4-29,4-30,4-32,4-36,4-37,4-38,4-39,4-40,4-42,4-43
   4-45,4-47,4-48,4-49,4-50,4-51,4-52,4-53,4-54,0COMBINING GREEK MUSICAL TRISEME,3TETRASEME
   3PENTASEME,0GREEK MUSICAL LEIMMA,1D2E0:0MAYAN NUMERAL ZERO,2ONE,2TWO,2THREE,2FOUR,2FIVE,2SIX
   2SEVEN,2EIGHT,2NINE,2TEN,2ELEVEN,2TWELVE,2THIRTEEN,2FOURTEEN,2FIFTEEN,2SIXTEEN,2SEVENTEEN
   2EIGHTEEN,2NINETEEN,1D300:0MONOGRAM FOR EARTH,0DIGRAM FOR HEAVENLY EARTH,2HUMAN+,2EARTHLY HEAVEN
   3HUMAN,2EARTH,0TETRAGRAM FOR CENTRE,2FULL CIRCLE,2MIRED,2BARRIER,2KEEPING SMALL,2CONTRARIETY
   2ASCENT,2OPPOSITION,2BRANCHING OUT,2DEFECTIVENESS OR DISTORTION,2DIVERGENCE,2YOUTHFULNESS
   2INCREASE,2PENETRATION,2REACH,2CONTACT,2HOLDING BACK,2WAITING,2FOLLOWING,2ADVANCE,2RELEASE
   2RESISTANCE,2EASE,2JOY,2CONTENTION,2ENDEAVOUR,2DUTIES,2CHANGE,2DECISIVENESS,2BOLD RESOLUTION
   2PACKING,2LEGION,2CLOSENESS,2KINSHIP,2GATHERING,2STRENGTH,2PURITY,2FULLNESS,2RESIDENCE
   2LAW OR MODEL,2RESPONSE,2GOING TO MEET,2ENCOUNTERS,2STOVE,2GREATNESS,2ENLARGEMENT,2PATTERN
   2RITUAL,2FLIGHT,2VASTNESS OR WASTING,2CONSTANCY,2MEASURE,2ETERNITY,2UNITY,2DIMINISHMENT
   2CLOSED MOUTH,2GUARDEDNESS,2GATHERING IN,2MASSING,2ACCUMULATION,2EMBELLISHMENT,2DOUBT,2WATCH
   2SINKING,2INNER,2DEPARTURE,2DARKENING,2DIMMING,2EXHAUSTION,2SEVERANCE,2STOPPAGE,2HARDNESS
   2COMPLETION,2CLOSURE,2FAILURE,2AGGRAVATION,2COMPLIANCE,2ON THE VERGE,2DIFFICULTIES,2LABOURING
   2FOSTERING,1D360:0COUNTING ROD UNIT DIGIT ONE,4TWO,4THREE,4FOUR,4FIVE,4SIX,4SEVEN,4EIGHT,4NINE
   2TENS DIGIT ONE,4TWO,4THREE,4FOUR,4FIVE,4SIX,4SEVEN,4EIGHT,4NINE,0IDEOGRAPHIC TALLY MARK ONE,3TWO
   3THREE,3FOUR,3FIVE,0TALLY MARK ONE,2FIVE,1D400:0MATHEMATICAL BOLD CAPITAL A,3B,3C,3D,3E,3F,3G,3H
   3I,3J,3K,3L,3M,3N,3O,3P,3Q,3R,3S,3T,3U,3V,3W,3X,3Y,3Z,2SMALL A,3B,3C,3D,3E,3F,3G,3H,3I,3J,3K,3L
   3M,3N,3O,3P,3Q,3R,3S,3T,3U,3V,3W,3X,3Y,3Z,1ITALIC CAPITAL A,3B,3C,3D,3E,3F,3G,3H,3I,3J,3K,3L,3M
   3N,3O,3P,3Q,3R,3S,3T,3U,3V,3W,3X,3Y,3Z,2SMALL A,3B,3C,3D,3E,3F,3G,1D456:3I,3J,3K,3L,3M,3N,3O,3P
   3Q,3R,3S,3T,3U,3V,3W,3X,3Y,3Z,1BOLD ITALIC CAPITAL A,4B,4C,4D,4E,4F,4G,4H,4I,4J,4K,4L,4M,4N,4O,4P
   4Q,4R,4S,4T,4U,4V,4W,4X,4Y,4Z,3SMALL A,4B,4C,4D,4E,4F,4G,4H,4I,4J,4K,4L,4M,4N,4O,4P,4Q,4R,4S,4T
   4U,4V,4W,4X,4Y,4Z,1SCRIPT CAPITAL A,1D49E:3C,3D,1D4A2:3G,1D4A5:3J,3K,1D4A9:3N,3O,3P,3Q,1D4AE:3S
   3T,3U,3V,3W,3X,3Y,3Z,2SMALL A,3B,3C,3D,1D4BB:3F,1D4BD:3H,3I,3J,3K,3L,3M,3N,1D4C5:3P,3Q,3R,3S,3T
   3U,3V,3W,3X,3Y,3Z,1BOLD SCRIPT CAPITAL A,4B,4C,4D,4E,4F,4G,4H,4I,4J,4K,4L,4M,4N,4O,4P,4Q,4R,4S,4T
   4U,4V,4W,4X,4Y,4Z,3SMALL A,4B,4C,4D,4E,4F,4G,4H,4I,4J,4K,4L,4M,4N,4O,4P,4Q,4R,4S,4T,4U,4V,4W,4X
   4Y,4Z,1FRAKTUR CAPITAL A,3B,1D507:3D,3E,3F,3G,1D50D:3J,3K,3L,3M,3N,3O,3P,3Q,1D516:3S,3T,3U,3V,3W
   3X,3Y,1D51E:2SMALL A,3B,3C,3D,3E,3F,3G,3H,3I,3J,3K,3L,3M,3N,3O,3P,3Q,3R,3S,3T,3U,3V,3W,3X,3Y,3Z
   1DOUBLE-STRUCK CAPITAL A,4B,1D53B:4D,4E,4F,4G,1D540:4I,4J,4K,4L,4M,1D546:4O,1D54A:4S,4T,4U,4V,4W
   4X,4Y,1D552:3SMALL A,4B,4C,4D,4E,4F,4G,4H,4I,4J,4K,4L,4M,4N,4O,4P,4Q,4R,4S,4T,4U,4V,4W,4X,4Y,4Z
   1BOLD FRAKTUR CAPITAL A,4B,4C,4D,4E,4F,4G,4H,4I,4J,4K,4L,4M,4N,4O,4P,4Q,4R,4S,4T,4U,4V,4W,4X,4Y
   4Z,3SMALL A,4B,4C,4D,4E,4F,4G,4H,4I,4J,4K,4L,4M,4N,4O,4P,4Q,4R,4S,4T,4U,4V,4W,4X,4Y,4Z
   1SANS-SERIF CAPITAL A,4B,4C,4D,4E,4F,4G,4H,4I,4J,4K,4L,4M,4N,4O,4P,4Q,4R,4S,4T,4U,4V,4W,4X,4Y,4Z
   3SMALL A,4B,4C,4D,4E,4F,4G,4H,4I,4J,4K,4L,4M,4N,4O,4P,4Q,4R,4S,4T,4U,4V,4W,4X,4Y,4Z
   3BOLD CAPITAL A,5B,5C,5D,5E,5F,5G,5H,5I,5J,5K,5L,5M,5N,5O,5P,5Q,5R,5S,5T,5U,5V,5W,5X,5Y,5Z
   4SMALL A,5B,5C,5D,5E,5F,5G,5H,5I,5J,5K,5L,5M,5N,5O,5P,5Q,5R,5S,5T,5U,5V,5W,5X,5Y,5Z
   3ITALIC CAPITAL A,5B,5C,5D,5E,5F,5G,5H,5I,5J,5K,5L,5M,5N,5O,5P,5Q,5R,5S,5T,5U,5V,5W,5X,5Y,5Z
   4SMALL A,5B,5C,5D,5E,5F,5G,5H,5I,5J,5K,5L,5M,5N,5O,5P,5Q,5R,5S,5T,5U,5V,5W,5X,5Y,5Z
   3BOLD ITALIC CAPITAL A,6B,6C,6D,6E,6F,6G,6H,6I,6J,6K,6L,6M,6N,6O,6P,6Q,6R,6S,6T,6U,6V,6W,6X,6Y,6Z
   5SMALL A,6B,6C,6D,6E,6F,6G,6H,6I,6J,6K,6L,6M,6N,6O,6P,6Q,6R,6S,6T,6U,6V,6W,6X,6Y,6Z
   1MONOSPACE CAPITAL A,3B,3C,3D,3E,3F,3G,3H,3I,3J,3K,3L,3M,3N,3O,3P,3Q,3R,3S,3T,3U,3V,3W,3X,3Y,3Z
   2SMALL A,3B,3C,3D,3E,3F,3G,3H,3I,3J,3K,3L,3M,3N,3O,3P,3Q,3R,3S,3T,3U,3V,3W,3X,3Y,3Z
   1ITALIC SMALL DOTLESS I,4J,1D6A8:1BOLD CAPITAL ALPHA,3BETA,3GAMMA,3DELTA,3EPSILON,3ZETA,3ETA
   3THETA,3IOTA,3KAPPA,3LAMDA,3MU,3NU,3XI,3OMICRON,3PI,3RHO,3THETA SYMBOL,3SIGMA,3TAU,3UPSILON,3PHI
   3CHI,3PSI,3OMEGA,2NABLA,2SMALL ALPHA,3BETA,3GAMMA,3DELTA,3EPSILON,3ZETA,3ETA,3THETA,3IOTA,3KAPPA
   3LAMDA,3MU,3NU,3XI,3OMICRON,3PI,3RHO,3FINAL SIGMA,3SIGMA,3TAU,3UPSILON,3PHI,3CHI,3PSI,3OMEGA
   2PARTIAL DIFFERENTIAL,2EPSILON SYMBOL,2THETA+,2KAPPA+,2PHI+,2RHO+,2PI+,1ITALIC CAPITAL ALPHA
   3BETA,3GAMMA,3DELTA,3EPSILON,3ZETA,3ETA,3THETA,3IOTA,3KAPPA,3LAMDA,3MU,3NU,3XI,3OMICRON,3PI,3RHO
   3THETA SYMBOL,3SIGMA,3TAU,3UPSILON,3PHI,3CHI,3PSI,3OMEGA,2NABLA,2SMALL ALPHA,3BETA,3GAMMA,3DELTA
   3EPSILON,3ZETA,3ETA,3THETA,3IOTA,3KAPPA,3LAMDA,3MU,3NU,3XI,3OMICRON,3PI,3RHO,3FINAL SIGMA,3SIGMA
   3TAU,3UPSILON,3PHI,3CHI,3PSI,3OMEGA,2PARTIAL DIFFERENTIAL,2EPSILON SYMBOL,2THETA+,2KAPPA+,2PHI+
   2RHO+,2PI+,1BOLD ITALIC CAPITAL ALPHA,4BETA,4GAMMA,4DELTA,4EPSILON,4ZETA,4ETA,4THETA,4IOTA,4KAPPA
   4LAMDA,4MU,4NU,4XI,4OMICRON,4PI,4RHO,4THETA SYMBOL,4SIGMA,4TAU,4UPSILON,4PHI,4CHI,4PSI,4OMEGA
   3NABLA,3SMALL ALPHA,4BETA,4GAMMA,4DELTA,4EPSILON,4ZETA,4ETA,4THETA,4IOTA,4KAPPA,4LAMDA,4MU,4NU
   4XI,4OMICRON,4PI,4RHO,4FINAL SIGMA,4SIGMA,4TAU,4UPSILON,4PHI,4CHI,4PSI,4OMEGA
   3PARTIAL DIFFERENTIAL,3EPSILON SYMBOL,3THETA+,3KAPPA+,3PHI+,3RHO+,3PI+
   1SANS-SERIF BOLD CAPITAL ALPHA,5BETA,5GAMMA,5DELTA,5EPSILON,5ZETA,5ETA,5THETA,5IOTA,5KAPPA,5LAMDA
   5MU,5NU,5XI,5OMICRON,5PI,5RHO,5THETA SYMBOL,5SIGMA,5TAU,5UPSILON,5PHI,5CHI,5PSI,5OMEGA,4NABLA
   4SMALL ALPHA,5BETA,5GAMMA,5DELTA,5EPSILON,5ZETA,5ETA,5THETA,5IOTA,5KAPPA,5LAMDA,5MU,5NU,5XI
   5OMICRON,5PI,5RHO,5FINAL SIGMA,5SIGMA,5TAU,5UPSILON,5PHI,5CHI,5PSI,5OMEGA,4PARTIAL DIFFERENTIAL
   4EPSILON SYMBOL,4THETA+,4KAPPA+,4PHI+,4RHO+,4PI+,4ITALIC CAPITAL ALPHA,6BETA,6GAMMA,6DELTA
   6EPSILON,6ZETA,6ETA,6THETA,6IOTA,6KAPPA,6LAMDA,6MU,6NU,6XI,6OMICRON,6PI,6RHO,6THETA SYMBOL,6SIGMA
   6TAU,6UPSILON,6PHI,6CHI,6PSI,6OMEGA,5NABLA,5SMALL ALPHA,6BETA,6GAMMA,6DELTA,6EPSILON,6ZETA,6ETA
   6THETA,6IOTA,6KAPPA,6LAMDA,6MU,6NU,6XI,6OMICRON,6PI,6RHO,6FINAL SIGMA,6SIGMA,6TAU,6UPSILON,6PHI
   6CHI,6PSI,6OMEGA,5PARTIAL DIFFERENTIAL,5EPSILON SYMBOL,5THETA+,5KAPPA+,5PHI+,5RHO+,5PI+
   1BOLD CAPITAL DIGAMMA,2SMALL+,1D7CE:2DIGIT ZERO,3ONE,3TWO,3THREE,3FOUR,3FIVE,3SIX,3SEVEN,3EIGHT
   3NINE,1DOUBLE-STRUCK DIGIT ZERO,4ONE,4TWO,4THREE,4FOUR,4FIVE,4SIX,4SEVEN,4EIGHT,4NINE
   1SANS-SERIF DIGIT ZERO,4ONE,4TWO,4THREE,4FOUR,4FIVE,4SIX,4SEVEN,4EIGHT,4NINE,3BOLD DIGIT ZERO
   5ONE,5TWO,5THREE,5FOUR,5FIVE,5SIX,5SEVEN,5EIGHT,5NINE,1MONOSPACE DIGIT ZERO,3ONE,3TWO,3THREE
   3FOUR,3FIVE,3SIX,3SEVEN,3EIGHT,3NINE,0SIGNWRITING HAND-FIST INDEX,2-CIRCLE+,2-CUP+,2-OVAL+
   2-HINGE+,2-ANGLE+,2-FIST INDEX BENT,2-CIRCLE+,2-FIST THUMB UNDER INDEX BENT,3INDEX RAISED KNUCKLE
   4CUPPED,4HINGED,5LOW,2-CIRCLE INDEX HINGE,2-FIST INDEX MIDDLE,2-CIRCLE+,2-FIST INDEX MIDDLE BENT
   5RAISED KNUCKLES,5HINGED,4UP MIDDLE HINGED,4HINGED MIDDLE UP,4MIDDLE CONJOINED,6INDEX BENT
   6MIDDLE+,6CUPPED,6HINGED,5CROSSED,2-CIRCLE+,2-FIST MIDDLE BENT OVER INDEX,3INDEX BENT OVER MIDDLE
   4MIDDLE THUMB,2-CIRCLE+,2-FIST INDEX MIDDLE STRAIGHT THUMB BENT,5BENT THUMB STRAIGHT,5THUMB BENT
   5HINGED SPREAD THUMB SIDE,4UP MIDDLE HINGED+,8CONJOINED,4HINGED MIDDLE UP THUMB SIDE
   4MIDDLE UP SPREAD THUMB FORWARD,5THUMB CUPPED,6CIRCLED,6HOOKED,6HINGED
   3THUMB BETWEEN INDEX MIDDLE STRAIGHT,3INDEX MIDDLE CONJOINED THUMB SIDE,8CONJOINED,8BENT
   3MIDDLE THUMB HOOKED INDEX UP,3INDEX THUMB HOOKED MIDDLE+,4MIDDLE CONJOINED HINGED THUMB SIDE
   5CROSSED THUMB SIDE,5CONJOINED THUMB FORWARD,6CUPPED THUMB FORWARD,3MIDDLE THUMB CUPPED INDEX UP
   3INDEX THUMB CUPPED MIDDLE+,3MIDDLE THUMB CIRCLED INDEX+,7HINGED
   3INDEX THUMB ANGLED OUT MIDDLE UP,6IN+,5CIRCLED MIDDLE UP,4MIDDLE THUMB CONJOINED HINGED
   6ANGLED OUT,7,3MIDDLE THUMB ANGLED OUT INDEX UP,8CROSSED,6INDEX UP
   3INDEX THUMB HOOKED MIDDLE HINGED,2-FLAT FOUR FINGERS,5BENT,5HINGED,5CONJOINED,6SPLIT
   2-CLAW FOUR FINGERS CONJOINED,2-FIST FOUR FINGERS CONJOINED BENT,2-HINGE FOUR FINGERS CONJOINED
   2-FLAT FIVE FINGERS SPREAD,3HEEL FIVE FINGERS SPREAD,3FIVE FINGERS SPREAD FOUR BENT
   3HEEL FIVE FINGERS SPREAD FOUR BENT,3FIVE FINGERS SPREAD BENT,3HEEL FIVE FINGERS SPREAD BENT
   3FIVE FINGERS SPREAD THUMB FORWARD,2-CUP FIVE FINGERS SPREAD,6OPEN,2-HINGE+
   2-OVAL FIVE FINGERS SPREAD,2-FLAT FIVE FINGERS SPREAD HINGED,7THUMB SIDE,7NO THUMB,3
   3BETWEEN PALM FACINGS,3HEEL,3THUMB SIDE,3HEEL THUMB SIDE,3THUMB BENT,4FORWARD
   3SPLIT INDEX THUMB SIDE,4CENTRE,5THUMB SIDE,7BENT,4LITTLE,2-CLAW,3THUMB SIDE,3NO THUMB
   3THUMB FORWARD,2-HOOK CURLICUE,3,2-CUP OPEN,3,3OPEN THUMB SIDE,3THUMB SIDE,3OPEN NO THUMB
   3NO THUMB,3OPEN THUMB FORWARD,3THUMB FORWARD,2-CURLICUE OPEN,3,2-CIRCLE,2-OVAL,3THUMB SIDE
   3NO THUMB,3THUMB FORWARD,2-HINGE OPEN,4THUMB FORWARD,3,3SMALL,3OPEN THUMB SIDE,3THUMB SIDE
   3OPEN NO THUMB,3NO THUMB,3THUMB SIDE TOUCHING INDEX,4BETWEEN MIDDLE RING,2-ANGLE
   2-FIST INDEX MIDDLE RING,2-CIRCLE+,2-HINGE+,2-ANGLE+,2-HINGE LITTLE,2-FIST INDEX MIDDLE RING BENT
   6CONJOINED,2-HINGE+,2-FIST LITTLE DOWN,5RIPPLE STRAIGHT,6CURVED,5OTHERS CIRCLED,4UP
   3THUMB UNDER LITTLE UP,2-CIRCLE LITTLE UP,2-OVAL+,2-ANGLE+,2-FIST LITTLE RAISED KNUCKLE,4BENT
   4TOUCHES THUMB,4THUMB,2-HINGE+,2-FIST LITTLE INDEX THUMB,2-HINGE+
   2-ANGLE LITTLE INDEX THUMB INDEX THUMB OUT,8,2-FIST LITTLE INDEX,2-CIRCLE+,2-HINGE+,2-ANGLE+
   2-FIST INDEX MIDDLE LITTLE,2-CIRCLE+,2-HINGE+,3RING,2-ANGLE INDEX MIDDLE LITTLE
   2-FIST INDEX MIDDLE CROSS LITTLE,2-CIRCLE+,2-FIST RING DOWN
   2-HINGE RING DOWN INDEX THUMB HOOK MIDDLE,2-ANGLE RING DOWN MIDDLE THUMB INDEX CROSS
   2-FIST RING UP,4RAISED KNUCKLE,4LITTLE,2-CIRCLE+,2-OVAL+,2-ANGLE+,2-FIST RING MIDDLE,5CONJOINED
   5RAISED KNUCKLES,4INDEX,4THUMB,2-HOOK+,2-FIST INDEX RING LITTLE,2-CIRCLE+
   2-CURLICUE INDEX RING LITTLE ON,2-HOOK INDEX RING LITTLE OUT,6IN,6UNDER,2-CUP INDEX RING LITTLE
   2-HINGE+,2-ANGLE INDEX RING LITTLE OUT,6,2-FIST MIDDLE DOWN,2-HINGE MIDDLE,2-FIST MIDDLE UP
   2-CIRCLE+,2-FIST MIDDLE RAISED KNUCKLE,4UP THUMB SIDE,2-HOOK MIDDLE THUMB
   2-FIST MIDDLE THUMB LITTLE,4LITTLE,4RING LITTLE,2-CIRCLE+,2-CURLICUE MIDDLE RING LITTLE ON
   2-CUP MIDDLE RING LITTLE,2-HINGE+,2-ANGLE MIDDLE RING LITTLE OUT,6IN,6
   2-CIRCLE MIDDLE RING LITTLE BENT,2-CLAW MIDDLE RING LITTLE CONJOINED,7SIDE
   2-HOOK MIDDLE RING LITTLE CONJOINED OUT,7IN,7,2-HINGE INDEX HINGED,2-FIST INDEX THUMB SIDE
   2-HINGE+,2-FIST INDEX THUMB SIDE THUMB DIAGONAL,7CONJOINED,7BENT,6INDEX+,6BOTH+,6INDEX HINGE
   5FORWARD INDEX STRAIGHT,7BENT,5HOOK,5CURLICUE,5CURVE THUMB INSIDE,2-CLAW+
   2-FIST INDEX THUMB CURVE THUMB UNDER,5CIRCLE,2-CUP INDEX THUMB,5OPEN,2-HINGE+,5LARGE,5,5SMALL
   2-ANGLE INDEX THUMB OUT,5IN,5,2-FIST THUMB,4HEEL,4SIDE DIAGONAL,5CONJOINED,5BENT,4FORWARD
   4BETWEEN INDEX MIDDLE,5MIDDLE RING,5RING LITTLE,4UNDER TWO FINGERS,4OVER+,4UNDER THREE+,5FOUR+
   4OVER FOUR RAISED KNUCKLES,3,3HEEL,1TOUCH SINGLE,2MULTIPLE,2BETWEEN,1GRASP SINGLE,2MULTIPLE
   2BETWEEN,1STRIKE SINGLE,2MULTIPLE,2BETWEEN,1BRUSH SINGLE,2MULTIPLE,2BETWEEN,1RUB SINGLE,2MULTIPLE
   2BETWEEN,1SURFACE SYMBOLS,2BETWEEN,1SQUEEZE LARGE SINGLE,2SMALL+,2LARGE MULTIPLE,2SMALL+
   2SEQUENTIAL,1FLICK LARGE SINGLE,2SMALL+,2LARGE MULTIPLE,2SMALL+,2SEQUENTIAL
   1SQUEEZE FLICK ALTERNATING,1MOVEMENT-HINGE UP DOWN LARGE,5SMALL,4SEQUENTIAL,3DOWN+
   3UP DOWN ALTERNATING LARGE,6SMALL,3SIDE TO SIDE SCISSORS,2-WALLPLANE FINGER CONTACT,2-FLOORPLANE+
   2-WALLPLANE SINGLE STRAIGHT SMALL,5MEDIUM,5LARGE,5LARGEST,4WRIST FLEX,3DOUBLE STRAIGHT
   4WRIST FLEX,4ALTERNATING,5WRIST FLEX,3CROSS,3TRIPLE STRAIGHT MOVEMENT,4WRIST FLEX,4ALTERNATING
   5WRIST FLEX,3BEND SMALL,4MEDIUM,4LARGE,3CORNER SMALL,4MEDIUM,4LARGE,4ROTATION,3CHECK SMALL
   4MEDIUM,4LARGE,3BOX SMALL,4MEDIUM,4LARGE,3ZIGZAG SMALL,4MEDIUM,4LARGE,3PEAKS SMALL,4MEDIUM,4LARGE
   1TRAVEL-WALLPLANE ROTATION-WALLPLANE SINGLE,5DOUBLE,5ALTERNATING,4-FLOORPLANE SINGLE,5DOUBLE
   5ALTERNATING,3SHAKING,3ARM SPIRAL SINGLE,5DOUBLE,5TRIPLE,1MOVEMENT-DIAGONAL AWAY SMALL,4MEDIUM
   4LARGE,4LARGEST,3TOWARDS SMALL,4MEDIUM,4LARGE,4LARGEST,3BETWEEN AWAY SMALL,5MEDIUM,5LARGE
   5LARGEST,4TOWARDS SMALL,5MEDIUM,5LARGE,5LARGEST,2-FLOORPLANE SINGLE STRAIGHT SMALL,5MEDIUM,5LARGE
   5LARGEST,4WRIST FLEX,3DOUBLE STRAIGHT,4WRIST FLEX,4ALTERNATING,5WRIST FLEX,3CROSS
   3TRIPLE STRAIGHT MOVEMENT,4WRIST FLEX,4ALTERNATING MOVEMENT,5WRIST FLEX,3BEND,3CORNER SMALL
   4MEDIUM,4LARGE,3CHECK,3BOX SMALL,4MEDIUM,4LARGE,3ZIGZAG SMALL,4MEDIUM,4LARGE,3PEAKS SMALL,4MEDIUM
   4LARGE,1TRAVEL-FLOORPLANE ROTATION-FLOORPLANE SINGLE,5DOUBLE,5ALTERNATING,4-WALLPLANE SINGLE
   5DOUBLE,5ALTERNATING,3SHAKING,1MOVEMENT-WALLPLANE CURVE QUARTER SMALL,5MEDIUM,5LARGE,5LARGEST
   4HALF-CIRCLE SMALL,6MEDIUM,6LARGE,6LARGEST,4THREE-QUARTER CIRCLE SMALL,7MEDIUM,3HUMP SMALL
   4MEDIUM,4LARGE,3LOOP SMALL,4MEDIUM,4LARGE,4SMALL DOUBLE,3WAVE CURVE DOUBLE SMALL,6MEDIUM,6LARGE
   5TRIPLE SMALL,6MEDIUM,6LARGE,3CURVE THEN STRAIGHT,3CURVED CROSS SMALL,5MEDIUM
   1ROTATION-WALLPLANE SINGLE,3DOUBLE,3ALTERNATE,1MOVEMENT-WALLPLANE SHAKING
   3CURVE HITTING FRONT WALL,3HUMP+,3LOOP+,3WAVE+,1ROTATION-WALLPLANE SINGLE+,3DOUBLE+,3ALTERNATING+
   1MOVEMENT-WALLPLANE CURVE HITTING CHEST,3HUMP+,3LOOP+,3WAVE+,1ROTATION-WALLPLANE SINGLE+,3DOUBLE+
   3ALTERNATING+,1MOVEMENT-WALLPLANE WAVE DIAGONAL PATH SMALL,6MEDIUM,6LARGE
   2-FLOORPLANE CURVE HITTING CEILING SMALL,6LARGE,3HUMP HITTING CEILING SMALL DOUBLE,6LARGE+
   6SMALL TRIPLE,6LARGE+,3LOOP HITTING CEILING SMALL SINGLE,6LARGE+,6SMALL DOUBLE,6LARGE+
   3WAVE HITTING CEILING SMALL,6LARGE,1ROTATION-FLOORPLANE SINGLE HITTING CEILING,3DOUBLE+
   3ALTERNATING+,1MOVEMENT-FLOORPLANE CURVE HITTING FLOOR SMALL,6LARGE
   3HUMP HITTING FLOOR SMALL DOUBLE,6LARGE+,6TRIPLE SMALL TRIPLE,7LARGE+
   3LOOP HITTING FLOOR SMALL SINGLE,6LARGE+,6SMALL DOUBLE,6LARGE+,3WAVE HITTING FLOOR SMALL,6LARGE
   1ROTATION-FLOORPLANE SINGLE HITTING FLOOR,3DOUBLE+,3ALTERNATING+,1MOVEMENT-FLOORPLANE CURVE SMALL
   4MEDIUM,4LARGE,4LARGEST,4COMBINED,3HUMP SMALL,3LOOP+,3WAVE SNAKE,4SMALL,4LARGE
   1ROTATION-FLOORPLANE SINGLE,3DOUBLE,3ALTERNATING,1MOVEMENT-FLOORPLANE SHAKING PARALLEL
   2-WALLPLANE ARM CIRCLE SMALL SINGLE,5MEDIUM+,5SMALL DOUBLE,5MEDIUM+
   2-FLOORPLANE ARM CIRCLE HITTING WALL SMALL SINGLE,7MEDIUM+,7LARGE+,7SMALL DOUBLE,7MEDIUM+,7LARGE+
   2-WALLPLANE WRIST CIRCLE FRONT SINGLE,6DOUBLE,2-FLOORPLANE WRIST CIRCLE HITTING WALL SINGLE
   7DOUBLE,2-WALLPLANE FINGER CIRCLES SINGLE,5DOUBLE,2-FLOORPLANE FINGER CIRCLES HITTING WALL SINGLE
   7DOUBLE,1DYNAMIC ARROWHEAD SMALL,3LARGE,2FAST,2SLOW,2TENSE,2RELAXED,2SIMULTANEOUS,3ALTERNATING
   2EVERY OTHER TIME,2GRADUAL,1HEAD,2RIM,2MOVEMENT-WALLPLANE STRAIGHT,4TILT,3-FLOORPLANE STRAIGHT
   3-WALLPLANE CURVE,3-FLOORPLANE+,3CIRCLE,1FACE DIRECTION POSITION NOSE FORWARD TILTING,5UP OR DOWN
   8TILTING,1EYEBROWS STRAIGHT UP,3NEUTRAL,3DOWN,1DREAMY EYEBROWS NEUTRAL DOWN,3DOWN NEUTRAL,3UP+
   3NEUTRAL UP,1FOREHEAD NEUTRAL,2CONTACT,2WRINKLED,1EYES OPEN,2SQUEEZED,2CLOSED,1EYE BLINK SINGLE
   3MULTIPLE,1EYES HALF OPEN,2WIDE+,2HALF CLOSED,2WIDENING MOVEMENT,1EYE WINK,1EYELASHES UP,2DOWN
   2FLUTTERING,1EYEGAZE-WALLPLANE STRAIGHT,4DOUBLE,4ALTERNATING,2-FLOORPLANE STRAIGHT,4DOUBLE
   4ALTERNATING,2-WALLPLANE CURVED,2-FLOORPLANE+,2-WALLPLANE CIRCLING,1CHEEKS PUFFED,2NEUTRAL
   2SUCKED,1TENSE CHEEKS HIGH,3MIDDLE,3LOW,1EARS,1NOSE NEUTRAL,2CONTACT,2WRINKLES,2WIGGLES
   1AIR BLOWING OUT,2SUCKING IN,2BLOW SMALL ROTATIONS,2SUCK+,1BREATH INHALE,2EXHALE
   1MOUTH CLOSED NEUTRAL,3FORWARD,3CONTACT,2SMILE,3WRINKLED,3OPEN,2FROWN,3WRINKLED,3OPEN
   2OPEN CIRCLE,3FORWARD,3WRINKLED,3OVAL,4WRINKLED,4YAWN,3RECTANGLE,4WRINKLED,4YAWN,2KISS,3FORWARD
   3WRINKLED,2TENSE,3FORWARD,3SUCKED,1LIPS PRESSED TOGETHER,1LIP LOWER OVER UPPER,2UPPER OVER LOWER
   1MOUTH CORNERS,2WRINKLES SINGLE,3DOUBLE,1TONGUE STICKING OUT FAR,2LICKING LIPS,2TIP BETWEEN LIPS
   3TOUCHING INSIDE MOUTH,2INSIDE MOUTH RELAXED,2MOVES AGAINST CHEEK,2CENTRE STICKING OUT
   3INSIDE MOUTH,1TEETH,2MOVEMENT,2ON TONGUE,4MOVEMENT,3LIPS,4MOVEMENT,2BITE LIPS
   1MOVEMENT-WALLPLANE JAW,2-FLOORPLANE+,1NECK,1HAIR,1EXCITEMENT,1SHOULDER HIP SPINE,3POSITIONS
   1WALLPLANE SHOULDER HIP MOVE,1FLOORPLANE+,1SHOULDER TILTING FROM WAIST
   1TORSO-WALLPLANE STRAIGHT STRETCH,3CURVED BEND,2-FLOORPLANE TWISTING
   1UPPER BODY TILTING FROM HIP JOINTS,1LIMB COMBINATION,2LENGTH-1,3-2,3-3,3-4,3-5,3-6,3-7,1FINGER
   1LOCATION-WALLPLANE SPACE,2-FLOORPLANE+,2HEIGHT,2WIDTH,2DEPTH,2HEAD NECK,2TORSO,2LIMBS DIGITS
   1COMMA,1FULL STOP,1SEMICOLON,1COLON,1PARENTHESIS,1DA9B:1FILL MODIFIER-2,3-3,3-4,3-5,3-6
   1DAA1:1ROTATION MODIFIER-2,3-3,3-4,3-5,3-6,3-7,3-8,3-9,3-10,3-11,3-12,3-13,3-14,3-15,3-16
   1DF00:0LATIN SMALL LETTER FENG DIGRAPH WITH TRILL,3REVERSED SCRIPT G
   1LETTER SMALL CAPITAL TURNED+,1SMALL LETTER REVERSED K,1LETTER SMALL CAPITAL L WITH BELT
   1SMALL LETTER LEZH WITH RETROFLEX HOOK,3TURNED Y WITH BELT,3REVERSED ENG
   3TURNED R WITH LONG LEG AND RETROFLEX HOOK,3T WITH HOOK AND RETROFLEX HOOK
   1LETTER RETROFLEX CLICK WITH RETROFLEX HOOK,1SMALL LETTER ESH WITH DOUBLE BAR,7AND CURL
   3TURNED T WITH CURL,1LETTER INVERTED GLOTTAL STOP+,2STRETCHED C WITH CURL,2SMALL CAPITAL TURNED K
   1SMALL LETTER L WITH FISHHOOK,3DEZH DIGRAPH WITH PALATAL HOOK,3L WITH BELT AND PALATAL HOOK
   3ENG WITH PALATAL HOOK,3TURNED R WITH PALATAL HOOK,3R WITH FISHHOOK AND PALATAL HOOK
   3TESH DIGRAPH WITH PALATAL HOOK,3EZH WITH PALATAL HOOK,3DEZH DIGRAPH WITH RETROFLEX HOOK
   3I WITH STROKE AND RETROFLEX HOOK,3O WITH RETROFLEX HOOK,3TESH DIGRAPH WITH RETROFLEX HOOK
   3C WITH RETROFLEX HOOK,3S WITH CURL,1E000:0COMBINING GLAGOLITIC LETTER AZU,3BUKY,3VEDE,3GLAGOLI
   3DOBRO,3YESTU,3ZHIVETE,1E008:3ZEMLJA,3IZHE,3INITIAL IZHE,3I,3DJERVI,3KAKO,3LJUDIJE,3MYSLITE
   3NASHI,3ONU,3POKOJI,3RITSI,3SLOVO,3TVRIDO,3UKU,3FRITU,3HERU,1E01B:3SHTA,3TSI,3CHRIVI,3SHA,3YERU
   3YERI,3YATI,1E023:3YU,3SMALL YUS,1E026:3YO,3IOTATED SMALL YUS,3BIG YUS,3IOTATED BIG YUS,3FITA
   1E100:0NYIAKENG PUACHUE HMONG LETTER MA,4TSA,4NTA,4TA,4HA,4NA,4XA,4NKA,4CA,4LA,4SA,4ZA,4NCA,4NTSA
   4KA,4DA,4NYA,4NRA,4VA,4NTXA,4TXA,4FA,4RA,4QA,4YA,4NQA,4PA,4XYA,4NPA,4DLA,4NPLA,4HAH,4MLA,4PLA,4GA
   4RRA,4A,4AA,4I,4U,4O,4OO,4E,4EE,4W,1E130:3TONE-B,4-M,4-J,4-V,4-S,4-G,4-D,3SIGN FOR PERSON,5THING
   5LOCATION,5ANIMAL,5INVERTEBRATE,4XW XW,3SYLLABLE LENGTHENER,1E140:3DIGIT ZERO,4ONE,4TWO,4THREE
   4FOUR,4FIVE,4SIX,4SEVEN,4EIGHT,4NINE,1E14E:3LOGOGRAM NYAJ,3CIRCLED CA,1E290:0TOTO LETTER PA,2BA
   2TA,2DA,2KA,2GA,2MA,2NA,2NGA,2SA,2CHA,2YA,2WA,2JA,2HA,2RA,2LA,2I,2BREATHY I,2IU,2BREATHY IU,2U,2E
   2BREATHY E,2EO,2BREATHY EO,2O,2AE,2BREATHY AE,2A,1SIGN RISING TONE,1E2C0:0WANCHO LETTER AA,2A,2BA
   2CA,2DA,2GA,2YA,2PHA,2LA,2NA,2PA,2TA,2THA,2FA,2SA,2SHA,2JA,2ZA,2WA,2VA,2KA,2O,2AU,2RA,2MA,2KHA
   2HA,2E,2I,2NGA,2U,2LLHA,2TSA,2TRA,2ONG,2AANG,2ANG,2ING,2ON,2EN,2AAN,2NYA,2UEN,2YIH,1TONE TUP
   2TUPNI,2KOI,2KOINI,1DIGIT ZERO,2ONE,2TWO,2THREE,2FOUR,2FIVE,2SIX,2SEVEN,2EIGHT,2NINE
   1E2FF:1NGUN SIGN,1E7E0:0ETHIOPIC SYLLABLE HHYA,2HHYU,2HHYI,2HHYAA,2HHYEE,2HHYE,2HHYO
   1E7E8:2GURAGE HHWA,2HHWI,2HHWEE,2HHWE,1E7ED:2GURAGE MWI,3MWEE,1E7F0:3QWI,3QWEE,3QWE,3BWI,3BWEE
   3KWI,3KWEE,3KWE,3GWI,3GWEE,3GWE,3FWI,3FWEE,3PWI,3PWEE,1E800:0MENDE KIKAKUI SYLLABLE M001 KI
   3M002 KA,3M003 KU,3M065 KEE,3M095 KE,3M076 KOO,3M048 KO,3M179 KUA,3M004 WI,3M005 WA,3M006 WU
   3M126 WEE,3M118 WE,3M114 WOO,3M045 WO,3M194 WUI,3M143 WEI,3M061 WVI,3M049 WVA,3M139 WVE,3M007 MIN
   3M008 MAN,3M009 MUN,3M059 MEN,3M094 MON,3M154 MUAN,3M189 MUEN,3M010 BI,3M011 BA,3M012 BU
   3M150 BEE,3M097 BE,3M103 BOO,3M138 BO,3M013 I,3M014 A,3M015 U,3M163 EE,3M100 E,3M165 OO,3M147 O
   3M137 EI,3M131 IN,3M135+,3M195 AN,3M178 EN,3M019 SI,3M020 SA,3M021 SU,3M162 SEE,3M116 SE
   3M136 SOO,3M079 SO,3M196 SIA,3M025 LI,3M026 LA,3M027 LU,3M084 LEE,3M073 LE,3M054 LOO,3M153 LO
   3M110 LONG LE,3M016 DI,3M017 DA,3M018 DU,3M089 DEE,3M180 DOO,3M181 DO,3M022 TI,3M023 TA,3M024 TU
   3M091 TEE,3M055 TE,3M104 TOO,3M069 TO,3M028 JI,3M029 JA,3M030 JU,3M157 JEE,3M113 JE,3M160 JOO
   3M063 JO,3M175 LONG JO,3M031 YI,3M032 YA,3M033 YU,3M109 YEE,3M080 YE,3M141 YOO,3M121 YO,3M034 FI
   3M035 FA,3M036 FU,3M078 FEE,3M075 FE,3M133 FOO,3M088 FO,3M197 FUA,3M101 FAN,3M037 NIN,3M038 NAN
   3M039 NUN,3M117 NEN,3M169 NON,3M176 HI,3M041 HA,3M186 HU,3M040 HEE,3M096 HE,3M042 HOO,3M140 HO
   3M083 HEEI,3M128 HOOU,3M053 HIN,3M130 HAN,3M087 HUN,3M052 HEN,3M193 HON,3M046 HUAN,3M090 NGGI
   3M043 NGGA,3M082 NGGU,3M115 NGGEE,3M146 NGGE,3M156 NGGOO,3M120 NGGO,3M159 NGGAA,3M127 NGGUA
   3M086 LONG NGGE,3M106 LONG NGGOO,3M183 LONG NGGO,3M155 GI,3M111 GA,3M168 GU,3M190 GEE,3M166 GUEI
   3M167 GUAN,3M184 NGEN,3M057 NGON,3M177 NGUAN,3M068 PI,3M099 PA,3M050 PU,3M081 PEE,3M051 PE
   3M102 POO,3M066 PO,3M145 MBI,3M062 MBA,3M122 MBU,3M047 MBEE,3M188+,3M072 MBE,3M172 MBOO,3M174 MBO
   3M187 MBUU,3M161 LONG MBE,3M105 LONG MBOO,3M142 LONG MBO,3M132 KPI,3M092 KPA,3M074 KPU,3M044 KPEE
   3M108 KPE,3M112 KPOO,3M158 KPO,3M124 GBI,3M056 GBA,3M148 GBU,3M093 GBEE,3M107 GBE,3M071 GBOO
   3M070 GBO,3M171 RA,3M123 NDI,3M129 NDA,3M125 NDU,3M191 NDEE,3M119 NDE,3M067 NDOO,3M064 NDO
   3M152 NJA,3M192 NJU,3M149 NJEE,3M134 NJOO,3M182 VI,3M185 VA,3M151 VU,3M173 VEE,3M085 VE,3M144 VOO
   3M077 VO,3M164 NYIN,3M058 NYAN,3M170 NYUN,3M098 NYEN,3M060 NYON,1E8C7:2DIGIT ONE,3TWO,3THREE
   3FOUR,3FIVE,3SIX,3SEVEN,3EIGHT,3NINE,2COMBINING NUMBER TEENS,4TENS,4HUNDREDS,4THOUSANDS
   4TEN THOUSANDS,4HUNDRED+,4MILLIONS,1E900:0ADLAM CAPITAL LETTER ALIF,3DAALI,3LAAM,3MIIM,3BA
   3SINNYIIYHE,3PE,3BHE,3RA,3E,3FA,3I,3O,3DHA,3YHE,3WAW,3NUN,3KAF,3YA,3U,3JIIM,3CHI,3HA,3QAAF,3GA
   3NYA,3TU,3NHA,3VA,3KHA,3GBE,3ZAL,3KPO,3SHA,1SMALL LETTER ALIF,3DAALI,3LAAM,3MIIM,3BA,3SINNYIIYHE
   3PE,3BHE,3RA,3E,3FA,3I,3O,3DHA,3YHE,3WAW,3NUN,3KAF,3YA,3U,3JIIM,3CHI,3HA,3QAAF,3GA,3NYA,3TU,3NHA
   3VA,3KHA,3GBE,3ZAL,3KPO,3SHA,1ALIF LENGTHENER,1VOWEL+,1GEMINATION MARK,1HAMZA,1CONSONANT MODIFIER
   1GEMINATE CONSONANT MODIFIER,1NUKTA,1NASALIZATION MARK,1E950:1DIGIT ZERO,2ONE,2TWO,2THREE,2FOUR
   2FIVE,2SIX,2SEVEN,2EIGHT,2NINE,1E95E:1INITIAL EXCLAMATION MARK,2QUESTION+
   1EC71:0INDIC SIYAQ NUMBER ONE,3TWO,3THREE,3FOUR,3FIVE,3SIX,3SEVEN,3EIGHT,3NINE,3TEN,3TWENTY
   3THIRTY,3FORTY,3FIFTY,3SIXTY,3SEVENTY,3EIGHTY,3NINETY,3ONE HUNDRED,3TWO+,3THREE+,3FOUR+,3FIVE+
   3SIX+,3SEVEN+,3EIGHT+,3NINE+,3ONE THOUSAND,3TWO+,3THREE+,3FOUR+,3FIVE+,3SIX+,3SEVEN+,3EIGHT+
   3NINE+,3TEN+,3TWENTY+,3THIRTY+,3FORTY+,3FIFTY+,3SIXTY+,3SEVENTY+,3EIGHTY+,3NINETY+,3LAKH,3LAKHAN
   2LAKH MARK,2NUMBER KAROR,3KARORAN,3PREFIXED ONE,4TWO,4THREE,4FOUR,4FIVE,4SIX,4SEVEN,4EIGHT,4NINE
   2PLACEHOLDER,2FRACTION ONE QUARTER,4HALF,3THREE QUARTERS,2RUPEE MARK,2NUMBER ALTERNATE ONE,4TWO
   4TEN THOUSAND,2ALTERNATE LAKH MARK,1ED01:0OTTOMAN SIYAQ NUMBER ONE,3TWO,3THREE,3FOUR,3FIVE,3SIX
   3SEVEN,3EIGHT,3NINE,3TEN,3TWENTY,3THIRTY,3FORTY,3FIFTY,3SIXTY,3SEVENTY,3EIGHTY,3NINETY
   3ONE HUNDRED,3TWO+,3THREE+,3FOUR+,3FIVE+,3SIX+,3SEVEN+,3EIGHT+,3NINE+,3ONE THOUSAND,3TWO+,3THREE+
   3FOUR+,3FIVE+,3SIX+,3SEVEN+,3EIGHT+,3NINE+,3TEN+,3TWENTY+,3THIRTY+,3FORTY+,3FIFTY+,3SIXTY+
   3SEVENTY+,3EIGHTY+,3NINETY+,2MARRATAN,2ALTERNATE NUMBER TWO,4THREE,4FOUR,4FIVE,4SIX,4SEVEN,4EIGHT
   4NINE,4TEN,4FOUR HUNDRED,4SIX+,4TWO THOUSAND,4TEN+,2FRACTION ONE HALF,4SIXTH
   1EE00:0ARABIC MATHEMATICAL ALEF,2BEH,2JEEM,2DAL,1EE05:2WAW,2ZAIN,2HAH,2TAH,2YEH,2KAF,2LAM,2MEEM
   2NOON,2SEEN,2AIN,2FEH,2SAD,2QAF,2REH,2SHEEN,2TEH,2THEH,2KHAH,2THAL,2DAD,2ZAH,2GHAIN,2DOTLESS BEH
   3NOON,3FEH,3QAF,1EE21:2INITIAL BEH,3JEEM,1EE24:3HEH,1EE27:3HAH,1EE29:3YEH,3KAF,3LAM,3MEEM,3NOON
   3SEEN,3AIN,3FEH,3SAD,3QAF,1EE34:3SHEEN,3TEH,3THEH,3KHAH,1EE39:3DAD,1EE3B:3GHAIN
   1EE42:2TAILED JEEM,1EE47:3HAH,1EE49:3YEH,1EE4B:3LAM,1EE4D:3NOON,3SEEN,3AIN,1EE51:3SAD,3QAF
   1EE54:3SHEEN,1EE57:3KHAH,1EE59:3DAD,1EE5B:3GHAIN,1EE5D:3DOTLESS NOON,1EE5F:4QAF
   1EE61:2STRETCHED BEH,3JEEM,1EE64:3HEH,1EE67:3HAH,3TAH,3YEH,3KAF,1EE6C:3MEEM,3NOON,3SEEN,3AIN,3FEH
   3SAD,3QAF,1EE74:3SHEEN,3TEH,3THEH,3KHAH,1EE79:3DAD,3ZAH,3GHAIN,3DOTLESS BEH,1EE7E:4FEH
   1EE80:2LOOPED ALEF,3BEH,3JEEM,3DAL,3HEH,3WAW,3ZAIN,3HAH,3TAH,3YEH,1EE8B:3LAM,3MEEM,3NOON,3SEEN
   3AIN,3FEH,3SAD,3QAF,3REH,3SHEEN,3TEH,3THEH,3KHAH,3THAL,3DAD,3ZAH,3GHAIN,1EEA1:2DOUBLE-STRUCK BEH
   4JEEM,4DAL,1EEA5:4WAW,4ZAIN,4HAH,4TAH,4YEH,1EEAB:4LAM,4MEEM,4NOON,4SEEN,4AIN,4FEH,4SAD,4QAF,4REH
   4SHEEN,4TEH,4THEH,4KHAH,4THAL,4DAD,4ZAH,4GHAIN,1EEF0:2OPERATOR MEEM WITH HAH WITH TATWEEL
   3HAH WITH DAL"

end AddressBook.Text.Name
