namespace AddressBook.Text.Name

def signs : String :=
  "2000:0EN QUAD,0EM+,0EN SPACE,0EM+,0THREE-PER-EM SPACE,0FOUR+,0SIX+,0FIGURE SPACE,0PUNCTUATION+
   0THIN+,0HAIR+,0ZERO WIDTH SPACE,2NON-JOINER,2JOINER,0LEFT-TO-RIGHT MARK,0RIGHT-TO-LEFT+,0HYPHEN
   0NON-BREAKING HYPHEN,0FIGURE DASH,0EN+,0EM+,0HORIZONTAL BAR,0DOUBLE VERTICAL LINE,1LOW+
   0LEFT SINGLE QUOTATION MARK,0RIGHT+,0SINGLE LOW-9 QUOTATION MARK,1HIGH-REVERSED-9 QUOTATION MARK
   0LEFT DOUBLE QUOTATION MARK,0RIGHT+,0DOUBLE LOW-9 QUOTATION MARK,1HIGH-REVERSED-9 QUOTATION MARK
   0DAGGER,0DOUBLE DAGGER,0BULLET,0TRIANGULAR BULLET,0ONE DOT LEADER,0TWO+,0HORIZONTAL ELLIPSIS
   0HYPHENATION POINT,0LINE SEPARATOR,0PARAGRAPH+,0LEFT-TO-RIGHT EMBEDDING,0RIGHT-TO-LEFT+
   0POP DIRECTIONAL FORMATTING,0LEFT-TO-RIGHT OVERRIDE,0RIGHT-TO-LEFT+,0NARROW NO-BREAK SPACE
   0PER MILLE SIGN,1TEN THOUSAND SIGN,0PRIME,0DOUBLE PRIME,0TRIPLE+,0REVERSED+,1DOUBLE PRIME
   1TRIPLE+,0CARET,0SINGLE LEFT-POINTING ANGLE QUOTATION MARK,1RIGHT+,0REFERENCE MARK
   0DOUBLE EXCLAMATION MARK,0INTERROBANG,0OVERLINE,0UNDERTIE,0CHARACTER TIE,0CARET INSERTION POINT
   0ASTERISM,0HYPHEN BULLET,0FRACTION SLASH,0LEFT SQUARE BRACKET WITH QUILL,0RIGHT+
   0DOUBLE QUESTION MARK,0QUESTION EXCLAMATION+,0EXCLAMATION QUESTION+,0TIRONIAN SIGN ET
   0REVERSED PILCROW SIGN,0BLACK LEFTWARDS BULLET,1RIGHTWARDS+,0LOW ASTERISK,0REVERSED SEMICOLON
   0CLOSE UP,0TWO ASTERISKS ALIGNED VERTICALLY,0COMMERCIAL MINUS SIGN,0SWUNG DASH,0INVERTED UNDERTIE
   0FLOWER PUNCTUATION MARK,0THREE DOT PUNCTUATION,0QUADRUPLE PRIME,0FOUR DOT PUNCTUATION,0FIVE+
   0TWO+,0FOUR DOT MARK,0DOTTED CROSS,0TRICOLON,0VERTICAL FOUR DOTS,0MEDIUM MATHEMATICAL SPACE
   0WORD JOINER,0FUNCTION APPLICATION,0INVISIBLE TIMES,1SEPARATOR,1PLUS,2066:0LEFT-TO-RIGHT ISOLATE
   0RIGHT-TO-LEFT+,0FIRST STRONG ISOLATE,0POP DIRECTIONAL+,0INHIBIT SYMMETRIC SWAPPING,0ACTIVATE+
   0INHIBIT ARABIC FORM SHAPING,0ACTIVATE+,0NATIONAL DIGIT SHAPES,0NOMINAL+,0SUPERSCRIPT ZERO
   1LATIN SMALL LETTER I,2074:1FOUR,1FIVE,1SIX,1SEVEN,1EIGHT,1NINE,1PLUS SIGN,1MINUS,1EQUALS SIGN
   1LEFT PARENTHESIS,1RIGHT+,1LATIN SMALL LETTER N,0SUBSCRIPT ZERO,1ONE,1TWO,1THREE,1FOUR,1FIVE,1SIX
   1SEVEN,1EIGHT,1NINE,1PLUS SIGN,1MINUS,1EQUALS SIGN,1LEFT PARENTHESIS,1RIGHT+
   2090:0LATIN SUBSCRIPT SMALL LETTER A,4E,4O,4X,4SCHWA,4H,4K,4L,4M,4N,4P,4S,4T
   20A0:0EURO-CURRENCY SIGN,0COLON SIGN,0CRUZEIRO+,0FRENCH FRANC SIGN,0LIRA SIGN,0MILL+,0NAIRA+
   0PESETA+,0RUPEE+,0WON+,0NEW SHEQEL SIGN,0DONG SIGN,0EURO+,0KIP+,0TUGRIK+,0DRACHMA+
   0GERMAN PENNY SIGN,0PESO SIGN,0GUARANI+,0AUSTRAL+,0HRYVNIA+,0CEDI+,0LIVRE TOURNOIS SIGN
   0SPESMILO SIGN,0TENGE+,0INDIAN RUPEE SIGN,0TURKISH LIRA+,0NORDIC MARK+,0MANAT SIGN,0RUBLE+,0LARI+
   0BITCOIN+,0SOM+,20D0:0COMBINING LEFT HARPOON ABOVE,1RIGHT+,1LONG VERTICAL LINE OVERLAY,1SHORT+
   1ANTICLOCKWISE ARROW ABOVE,1CLOCKWISE+,1LEFT+,1RIGHT+,1RING OVERLAY,1CLOCKWISE RING OVERLAY
   1ANTICLOCKWISE+,1THREE DOTS ABOVE,1FOUR+,1ENCLOSING CIRCLE,2SQUARE,2DIAMOND,2CIRCLE BACKSLASH
   1LEFT RIGHT ARROW ABOVE,1ENCLOSING SCREEN,2KEYCAP,2UPWARD POINTING TRIANGLE
   1REVERSE SOLIDUS OVERLAY,1DOUBLE VERTICAL STROKE OVERLAY,1ANNUITY SYMBOL,1TRIPLE UNDERDOT
   1WIDE BRIDGE ABOVE,1LEFTWARDS ARROW OVERLAY,1LONG DOUBLE SOLIDUS OVERLAY
   1RIGHTWARDS HARPOON WITH BARB DOWNWARDS,1LEFTWARDS+,1LEFT ARROW BELOW,1RIGHT+,1ASTERISK ABOVE
   2100:0ACCOUNT OF,0ADDRESSED TO THE SUBJECT,0DOUBLE-STRUCK CAPITAL C,0DEGREE CELSIUS
   0CENTRE LINE SYMBOL,0CARE OF,0CADA UNA,0EULER CONSTANT,0SCRUPLE,0DEGREE FAHRENHEIT
   0SCRIPT SMALL G,1CAPITAL H,0BLACK-LETTER CAPITAL H,0DOUBLE-STRUCK+,0PLANCK CONSTANT,2OVER TWO PI
   0SCRIPT CAPITAL I,0BLACK-LETTER CAPITAL I,0SCRIPT CAPITAL L,1SMALL+,0L B BAR SYMBOL
   0DOUBLE-STRUCK CAPITAL N,0NUMERO SIGN,0SOUND RECORDING COPYRIGHT,0SCRIPT CAPITAL P
   0DOUBLE-STRUCK CAPITAL P,3Q,0SCRIPT CAPITAL R,0BLACK-LETTER CAPITAL R,0DOUBLE-STRUCK+
   0PRESCRIPTION TAKE,0RESPONSE,0SERVICE MARK,0TELEPHONE SIGN,0TRADE MARK SIGN,0VERSICLE
   0DOUBLE-STRUCK CAPITAL Z,0OUNCE SIGN,0OHM+,0INVERTED OHM SIGN,0BLACK-LETTER CAPITAL Z
   0TURNED GREEK SMALL LETTER IOTA,0KELVIN SIGN,0ANGSTROM+,0SCRIPT CAPITAL B,0BLACK-LETTER CAPITAL C
   0ESTIMATED SYMBOL,0SCRIPT SMALL E,1CAPITAL+,2F,0TURNED+,0SCRIPT CAPITAL M,1SMALL O,0ALEF SYMBOL
   0BET+,0GIMEL+,0DALET+,0INFORMATION SOURCE,0ROTATED CAPITAL Q,0FACSIMILE SIGN
   0DOUBLE-STRUCK SMALL PI,3GAMMA,2CAPITAL+,3PI,2N-ARY SUMMATION,0TURNED SANS-SERIF CAPITAL G,4L
   0REVERSED+,0TURNED SANS-SERIF CAPITAL Y,0DOUBLE-STRUCK ITALIC CAPITAL D,3SMALL+,4E,4I,4J
   0PROPERTY LINE,0TURNED AMPERSAND,0PER SIGN,0AKTIESELSKAB,0TURNED SMALL F
   0SYMBOL FOR SAMARITAN SOURCE,0VULGAR FRACTION ONE SEVENTH,3NINTH,3TENTH,3THIRD,2TWO THIRDS
   2ONE FIFTH,2TWO FIFTHS,2THREE+,2FOUR+,2ONE SIXTH,2FIVE SIXTHS,2ONE EIGHTH,2THREE EIGHTHS,2FIVE+
   2SEVEN+,0FRACTION NUMERATOR ONE,0ROMAN NUMERAL+,2TWO,2THREE,2FOUR,2FIVE,2SIX,2SEVEN,2EIGHT,2NINE
   2TEN,2ELEVEN,2TWELVE,2FIFTY,2ONE HUNDRED,2FIVE+,2ONE THOUSAND,0SMALL ROMAN NUMERAL ONE,3TWO
   3THREE,3FOUR,3FIVE,3SIX,3SEVEN,3EIGHT,3NINE,3TEN,3ELEVEN,3TWELVE,3FIFTY,3ONE HUNDRED,3FIVE+
   3ONE THOUSAND,0ROMAN NUMERAL ONE THOUSAND C D,2FIVE THOUSAND,2TEN+,2REVERSED ONE HUNDRED
   0LATIN SMALL LETTER REVERSED C,0ROMAN NUMERAL SIX LATE FORM,2FIFTY EARLY+,3THOUSAND
   2ONE HUNDRED THOUSAND,0VULGAR FRACTION ZERO THIRDS,0TURNED DIGIT TWO,2THREE,2190:0LEFTWARDS ARROW
   0UPWARDS+,0RIGHTWARDS+,0DOWNWARDS+,0LEFT RIGHT ARROW,0UP DOWN+,0NORTH WEST+,1EAST+,0SOUTH+,1WEST+
   0LEFTWARDS ARROW WITH STROKE,0RIGHTWARDS+,0LEFTWARDS WAVE ARROW,0RIGHTWARDS+
   0LEFTWARDS TWO HEADED ARROW,0UPWARDS+,0RIGHTWARDS+,0DOWNWARDS+,0LEFTWARDS ARROW WITH TAIL
   0RIGHTWARDS+,0LEFTWARDS ARROW FROM BAR,0UPWARDS+,0RIGHTWARDS+,0DOWNWARDS+
   0UP DOWN ARROW WITH BASE,0LEFTWARDS ARROW WITH HOOK,0RIGHTWARDS+,0LEFTWARDS ARROW WITH LOOP
   0RIGHTWARDS+,0LEFT RIGHT WAVE ARROW,2ARROW WITH STROKE,0DOWNWARDS ZIGZAG ARROW
   0UPWARDS ARROW WITH TIP LEFTWARDS,4RIGHTWARDS,0DOWNWARDS ARROW WITH TIP LEFTWARDS,4RIGHTWARDS
   0RIGHTWARDS ARROW WITH CORNER DOWNWARDS,0DOWNWARDS ARROW WITH CORNER LEFTWARDS
   0ANTICLOCKWISE TOP SEMICIRCLE ARROW,0CLOCKWISE+,0NORTH WEST ARROW TO LONG BAR
   0LEFTWARDS ARROW TO BAR OVER RIGHTWARDS ARROW TO BAR,0ANTICLOCKWISE OPEN CIRCLE ARROW,0CLOCKWISE+
   0LEFTWARDS HARPOON WITH BARB UPWARDS,4DOWNWARDS,0UPWARDS HARPOON WITH BARB RIGHTWARDS,4LEFTWARDS
   0RIGHTWARDS HARPOON WITH BARB UPWARDS,4DOWNWARDS,0DOWNWARDS HARPOON WITH BARB RIGHTWARDS
   4LEFTWARDS,0RIGHTWARDS ARROW OVER LEFTWARDS ARROW,0UPWARDS ARROW LEFTWARDS OF DOWNWARDS ARROW
   0LEFTWARDS ARROW OVER RIGHTWARDS ARROW,1PAIRED ARROWS,0UPWARDS+,0RIGHTWARDS+,0DOWNWARDS+
   0LEFTWARDS HARPOON OVER RIGHTWARDS HARPOON,0RIGHTWARDS HARPOON OVER LEFTWARDS+
   0LEFTWARDS DOUBLE ARROW WITH STROKE,0LEFT RIGHT DOUBLE ARROW WITH STROKE
   0RIGHTWARDS DOUBLE ARROW WITH STROKE,0LEFTWARDS DOUBLE ARROW,0UPWARDS+,0RIGHTWARDS+,0DOWNWARDS+
   0LEFT RIGHT DOUBLE ARROW,0UP DOWN+,0NORTH WEST+,1EAST+,0SOUTH+,1WEST+,0LEFTWARDS TRIPLE ARROW
   0RIGHTWARDS+,0LEFTWARDS SQUIGGLE+,0RIGHTWARDS+,0UPWARDS ARROW WITH DOUBLE STROKE,0DOWNWARDS+
   0LEFTWARDS DASHED ARROW,0UPWARDS+,0RIGHTWARDS+,0DOWNWARDS+,0LEFTWARDS ARROW TO BAR,0RIGHTWARDS+
   0LEFTWARDS WHITE ARROW,0UPWARDS+,0RIGHTWARDS+,0DOWNWARDS+,0UPWARDS WHITE ARROW FROM BAR
   3ON PEDESTAL,5WITH HORIZONTAL BAR,6VERTICAL+,2DOUBLE ARROW,4ON PEDESTAL
   0RIGHTWARDS WHITE ARROW FROM WALL,0NORTH WEST ARROW TO CORNER,0SOUTH EAST+,0UP DOWN WHITE ARROW
   0RIGHT ARROW WITH SMALL CIRCLE,0DOWNWARDS ARROW LEFTWARDS OF UPWARDS ARROW
   0THREE RIGHTWARDS ARROWS,0LEFTWARDS ARROW WITH VERTICAL STROKE,0RIGHTWARDS+
   0LEFT RIGHT ARROW WITH VERTICAL STROKE,0LEFTWARDS ARROW WITH DOUBLE+,0RIGHTWARDS+
   0LEFT RIGHT ARROW WITH DOUBLE VERTICAL STROKE,0LEFTWARDS OPEN-HEADED ARROW,0RIGHTWARDS+
   0LEFT RIGHT OPEN-HEADED ARROW,0FOR ALL,0COMPLEMENT,0PARTIAL DIFFERENTIAL,0THERE EXISTS
   1DOES NOT EXIST,0EMPTY SET,0INCREMENT,0NABLA,0ELEMENT OF,0NOT AN ELEMENT OF,0SMALL ELEMENT OF
   0CONTAINS AS MEMBER,0DOES NOT CONTAIN AS MEMBER,0SMALL CONTAINS AS MEMBER,0END OF PROOF
   0N-ARY PRODUCT,2COPRODUCT,2SUMMATION,0MINUS SIGN,1-OR-PLUS SIGN,0DOT PLUS,0DIVISION SLASH
   0SET MINUS,0ASTERISK OPERATOR,0RING+,0BULLET+,0SQUARE ROOT,0CUBE+,0FOURTH+,0PROPORTIONAL TO
   0INFINITY,0RIGHT ANGLE,0ANGLE,0MEASURED ANGLE,0SPHERICAL+,0DIVIDES,0DOES NOT DIVIDE,0PARALLEL TO
   0NOT PARALLEL TO,0LOGICAL AND,1OR,0INTERSECTION,0UNION,0INTEGRAL,0DOUBLE INTEGRAL,0TRIPLE+
   0CONTOUR+,0SURFACE+,0VOLUME+,0CLOCKWISE+,1CONTOUR INTEGRAL,0ANTICLOCKWISE+,0THEREFORE,0BECAUSE
   0RATIO,0PROPORTION,0DOT MINUS,0EXCESS,0GEOMETRIC PROPORTION,0HOMOTHETIC,0TILDE OPERATOR
   0REVERSED TILDE,0INVERTED LAZY S,0SINE WAVE,0WREATH PRODUCT,0NOT TILDE,0MINUS+
   0ASYMPTOTICALLY EQUAL TO,0NOT ASYMPTOTICALLY EQUAL TO,0APPROXIMATELY EQUAL TO
   1BUT NOT ACTUALLY EQUAL TO,0NEITHER APPROXIMATELY NOR+,0ALMOST EQUAL TO,0NOT ALMOST EQUAL TO
   0ALMOST EQUAL OR EQUAL TO,0TRIPLE TILDE,0ALL EQUAL TO,0EQUIVALENT TO,0GEOMETRICALLY EQUIVALENT TO
   0DIFFERENCE BETWEEN,0APPROACHES THE LIMIT,0GEOMETRICALLY EQUAL TO
   0APPROXIMATELY EQUAL TO OR THE IMAGE OF,0IMAGE OF OR APPROXIMATELY EQUAL TO,0COLON EQUALS
   0EQUALS COLON,0RING IN EQUAL TO,1EQUAL TO,0CORRESPONDS TO,0ESTIMATES,0EQUIANGULAR TO,0STAR EQUALS
   0DELTA EQUAL TO,0EQUAL TO BY DEFINITION,0MEASURED BY,0QUESTIONED EQUAL TO,0NOT+,0IDENTICAL TO
   0NOT IDENTICAL TO,0STRICTLY EQUIVALENT+,0LESS-THAN OR EQUAL TO,0GREATER+,0LESS-THAN OVER+
   0GREATER+,0LESS-THAN BUT NOT EQUAL TO,0GREATER+,0MUCH LESS-THAN,1GREATER+,0BETWEEN
   0NOT EQUIVALENT TO,1LESS-THAN,1GREATER+,0NEITHER LESS-THAN NOR EQUAL TO,1GREATER+
   0LESS-THAN OR EQUIVALENT TO,0GREATER+,0NEITHER LESS-THAN NOR EQUIVALENT TO,1GREATER+
   0LESS-THAN OR GREATER-THAN,0GREATER-THAN OR LESS+,0NEITHER LESS-THAN NOR GREATER-THAN
   1GREATER-THAN NOR LESS+,0PRECEDES,0SUCCEEDS,0PRECEDES OR EQUAL TO,0SUCCEEDS+
   0PRECEDES OR EQUIVALENT+,0SUCCEEDS+,0DOES NOT PRECEDE,2SUCCEED,0SUBSET OF,0SUPERSET+
   0NOT A SUBSET OF,2SUPERSET+,0SUBSET OF OR EQUAL TO,0SUPERSET+,0NEITHER A SUBSET OF NOR EQUAL TO
   2SUPERSET+,0SUBSET OF WITH NOT EQUAL TO,0SUPERSET+,0MULTISET,1MULTIPLICATION,1UNION
   0SQUARE IMAGE OF,1ORIGINAL+,1IMAGE OF OR EQUAL TO,1ORIGINAL+,1CAP,1CUP,0CIRCLED PLUS,1MINUS
   1TIMES,1DIVISION SLASH,1DOT OPERATOR,1RING+,1ASTERISK+,1EQUALS,1DASH,0SQUARED PLUS,1MINUS,1TIMES
   1DOT OPERATOR,0RIGHT TACK,0LEFT+,0DOWN+,0UP+,0ASSERTION,0MODELS,0TRUE,0FORCES
   0TRIPLE VERTICAL BAR RIGHT TURNSTILE,0DOUBLE VERTICAL BAR DOUBLE RIGHT TURNSTILE,0DOES NOT PROVE
   0NOT TRUE,0DOES NOT FORCE,0NEGATED DOUBLE VERTICAL BAR DOUBLE RIGHT TURNSTILE
   0PRECEDES UNDER RELATION,0SUCCEEDS+,0NORMAL SUBGROUP OF,0CONTAINS AS NORMAL SUBGROUP
   0NORMAL SUBGROUP OF OR EQUAL TO,0CONTAINS AS NORMAL SUBGROUP OR EQUAL TO,0ORIGINAL OF,0IMAGE+
   0MULTIMAP,0HERMITIAN CONJUGATE MATRIX,0INTERCALATE,0XOR,0NAND,0NOR,0RIGHT ANGLE WITH ARC
   1TRIANGLE,0N-ARY LOGICAL AND,3OR,2INTERSECTION,2UNION,0DIAMOND OPERATOR,0DOT+,0STAR+
   0DIVISION TIMES,0BOWTIE,0LEFT NORMAL FACTOR SEMIDIRECT PRODUCT,0RIGHT+,0LEFT SEMIDIRECT PRODUCT
   0RIGHT+,0REVERSED TILDE EQUALS,0CURLY LOGICAL OR,2AND,0DOUBLE SUBSET,1SUPERSET,1INTERSECTION
   1UNION,0PITCHFORK,0EQUAL AND PARALLEL TO,0LESS-THAN WITH DOT,0GREATER+,0VERY MUCH LESS-THAN
   2GREATER+,0LESS-THAN EQUAL TO OR GREATER-THAN,0GREATER-THAN EQUAL TO OR LESS+
   0EQUAL TO OR LESS-THAN,3GREATER+,3PRECEDES,3SUCCEEDS,0DOES NOT PRECEDE OR EQUAL,2SUCCEED+
   0NOT SQUARE IMAGE OF OR EQUAL TO,2ORIGINAL+,0SQUARE IMAGE OF OR NOT+,1ORIGINAL+
   0LESS-THAN BUT NOT EQUIVALENT TO,0GREATER+,0PRECEDES BUT NOT EQUIVALENT TO,0SUCCEEDS+
   0NOT NORMAL SUBGROUP OF,0DOES NOT CONTAIN AS NORMAL SUBGROUP,0NOT NORMAL SUBGROUP OF OR EQUAL TO
   0DOES NOT CONTAIN AS NORMAL SUBGROUP OR EQUAL,0VERTICAL ELLIPSIS,0MIDLINE HORIZONTAL ELLIPSIS
   0UP RIGHT DIAGONAL ELLIPSIS,0DOWN+,0ELEMENT OF WITH LONG HORIZONTAL STROKE
   3VERTICAL BAR AT END OF HORIZONTAL STROKE
   0SMALL ELEMENT OF WITH VERTICAL BAR AT END OF HORIZONTAL STROKE,0ELEMENT OF WITH DOT ABOVE
   3OVERBAR,0SMALL ELEMENT OF WITH OVERBAR,0ELEMENT OF WITH UNDERBAR,3TWO HORIZONTAL STROKES
   0CONTAINS WITH LONG HORIZONTAL STROKE,2VERTICAL BAR AT END OF HORIZONTAL STROKE
   0SMALL CONTAINS WITH VERTICAL BAR AT END OF HORIZONTAL STROKE,0CONTAINS WITH OVERBAR
   0SMALL CONTAINS WITH OVERBAR,0Z NOTATION BAG MEMBERSHIP,0DIAMETER SIGN,0ELECTRIC ARROW,0HOUSE
   0UP ARROWHEAD,0DOWN+,0PROJECTIVE,0PERSPECTIVE,0WAVY LINE,0LEFT CEILING,0RIGHT+,0LEFT FLOOR
   0RIGHT+,0BOTTOM RIGHT CROP,1LEFT+,0TOP RIGHT+,1LEFT+,0REVERSED NOT SIGN,0SQUARE LOZENGE,0ARC
   0SEGMENT,0SECTOR,0TELEPHONE RECORDER,0POSITION INDICATOR,0VIEWDATA SQUARE,0PLACE OF INTEREST SIGN
   0TURNED NOT SIGN,0WATCH,0HOURGLASS,0TOP LEFT CORNER,1RIGHT+,0BOTTOM LEFT+,1RIGHT+
   0TOP HALF INTEGRAL,0BOTTOM+,0FROWN,0SMILE,0UP ARROWHEAD BETWEEN TWO HORIZONTAL BARS,0OPTION KEY
   0ERASE TO THE RIGHT,0X IN A RECTANGLE BOX,0KEYBOARD,0LEFT-POINTING ANGLE BRACKET,0RIGHT+
   0ERASE TO THE LEFT,0BENZENE RING,0CYLINDRICITY,0ALL AROUND-PROFILE,0SYMMETRY,0TOTAL RUNOUT
   0DIMENSION ORIGIN,0CONICAL TAPER,0SLOPE,0COUNTERBORE,0COUNTERSINK,0APL FUNCTIONAL SYMBOL I-BEAM
   3SQUISH QUAD,3QUAD EQUAL,4DIVIDE,4DIAMOND,4JOT,4CIRCLE,3CIRCLE STILE,4JOT,3SLASH BAR,3BACKSLASH+
   3QUAD SLASH,4BACKSLASH,4LESS-THAN,4GREATER+,3LEFTWARDS VANE,3RIGHTWARDS+,3QUAD LEFTWARDS ARROW
   4RIGHTWARDS+,3CIRCLE BACKSLASH,3DOWN TACK UNDERBAR,3DELTA STILE,3QUAD DOWN CARET,4DELTA
   3DOWN TACK JOT,3UPWARDS VANE,3QUAD UPWARDS ARROW,3UP TACK OVERBAR,3DEL STILE,3QUAD UP CARET,4DEL
   3UP TACK JOT,3DOWNWARDS VANE,3QUAD DOWNWARDS ARROW,3QUOTE UNDERBAR,3DELTA+,3DIAMOND+,3JOT+
   3CIRCLE+,3UP SHOE JOT,3QUOTE QUAD,3CIRCLE STAR,3QUAD COLON,3UP TACK DIAERESIS,3DEL DIAERESIS
   3STAR+,3JOT+,3CIRCLE+,3DOWN SHOE STILE,3LEFT+,3TILDE DIAERESIS,3GREATER-THAN DIAERESIS,3COMMA BAR
   3DEL TILDE,3ZILDE,3STILE TILDE,3SEMICOLON UNDERBAR,3QUAD NOT EQUAL,4QUESTION,3DOWN CARET TILDE
   3UP+,3IOTA,3RHO,3OMEGA,3ALPHA UNDERBAR,3EPSILON+,3IOTA+,3OMEGA+,3ALPHA,0NOT CHECK MARK
   0RIGHT ANGLE WITH DOWNWARDS ZIGZAG ARROW,0SHOULDERED OPEN BOX,0BELL SYMBOL
   0VERTICAL LINE WITH MIDDLE DOT,0INSERTION SYMBOL,0CONTINUOUS UNDERLINE SYMBOL,0DISCONTINUOUS+
   0EMPHASIS SYMBOL,0COMPOSITION+,0WHITE SQUARE WITH CENTRE VERTICAL LINE,0ENTER SYMBOL
   0ALTERNATIVE KEY SYMBOL,0HELM SYMBOL,0CIRCLED HORIZONTAL BAR WITH NOTCH,1TRIANGLE DOWN
   0BROKEN CIRCLE WITH NORTHWEST ARROW,0UNDO SYMBOL,0MONOSTABLE+,0HYSTERESIS+
   0OPEN-CIRCUIT-OUTPUT H-TYPE SYMBOL,3L+,0PASSIVE-PULL-DOWN-OUTPUT SYMBOL,2-UP+
   0DIRECT CURRENT SYMBOL FORM TWO,0SOFTWARE-FUNCTION SYMBOL,0APL FUNCTIONAL SYMBOL QUAD
   0DECIMAL SEPARATOR KEY SYMBOL,0PREVIOUS PAGE,0NEXT+,0PRINT SCREEN SYMBOL,0CLEAR+
   0LEFT PARENTHESIS UPPER HOOK,2EXTENSION,2LOWER HOOK,0RIGHT PARENTHESIS UPPER+,2EXTENSION
   2LOWER HOOK,0LEFT SQUARE BRACKET UPPER CORNER,3EXTENSION,3LOWER CORNER
   0RIGHT SQUARE BRACKET UPPER+,3EXTENSION,3LOWER CORNER,0LEFT CURLY BRACKET UPPER HOOK
   3MIDDLE PIECE,3LOWER HOOK,0CURLY BRACKET EXTENSION,0RIGHT CURLY BRACKET UPPER HOOK,3MIDDLE PIECE
   3LOWER HOOK,0INTEGRAL EXTENSION,0HORIZONTAL LINE EXTENSION
   0UPPER LEFT OR LOWER RIGHT CURLY BRACKET SECTION,1RIGHT OR LOWER LEFT+,0SUMMATION TOP,1BOTTOM
   0TOP SQUARE BRACKET,0BOTTOM+,3OVER TOP SQUARE BRACKET,0RADICAL SYMBOL BOTTOM
   0LEFT VERTICAL BOX LINE,0RIGHT+,0HORIZONTAL SCAN LINE-1,3-3,3-7,3-9
   0DENTISTRY SYMBOL LIGHT VERTICAL AND TOP RIGHT,5BOTTOM+,4WITH CIRCLE
   3DOWN AND HORIZONTAL WITH CIRCLE,3UP+,3VERTICAL WITH TRIANGLE,3DOWN AND HORIZONTAL WITH TRIANGLE
   3UP+,3VERTICAL AND WAVE,3DOWN AND HORIZONTAL WITH WAVE,3UP+,3DOWN AND HORIZONTAL,3UP+
   3VERTICAL AND TOP LEFT,5BOTTOM+,0SQUARE FOOT,0RETURN SYMBOL,0EJECT+,0VERTICAL LINE EXTENSION
   0METRICAL BREVE,1LONG OVER SHORT,1SHORT OVER LONG,1LONG OVER TWO SHORTS,1TWO SHORTS OVER LONG
   3JOINED,1TRISEME,1TETRASEME,1PENTASEME,0EARTH GROUND,0FUSE,0TOP PARENTHESIS,0BOTTOM+
   0TOP CURLY BRACKET,0BOTTOM+,0TOP TORTOISE SHELL BRACKET,0BOTTOM+,0WHITE TRAPEZIUM
   0BENZENE RING WITH CIRCLE,0STRAIGHTNESS,0FLATNESS,0AC CURRENT,0ELECTRICAL INTERSECTION
   0DECIMAL EXPONENT SYMBOL,0BLACK RIGHT-POINTING DOUBLE TRIANGLE,1LEFT+,1UP+,1DOWN+
   1RIGHT-POINTING DOUBLE TRIANGLE WITH VERTICAL BAR,1LEFT+,1RIGHT-POINTING TRIANGLE WITH DOUBLE+
   0ALARM CLOCK,0STOPWATCH,0TIMER CLOCK,0HOURGLASS WITH FLOWING SAND
   0BLACK MEDIUM LEFT-POINTING TRIANGLE,2RIGHT+,2UP+,2DOWN+,0DOUBLE VERTICAL BAR
   0BLACK SQUARE FOR STOP,1CIRCLE FOR RECORD,0POWER SYMBOL,1ON-OFF SYMBOL,2SYMBOL,1SLEEP+
   0OBSERVER EYE+,0SYMBOL FOR NULL,2START OF HEADING,4TEXT,2END+,4TRANSMISSION,2ENQUIRY,2ACKNOWLEDGE
   2BELL,2BACKSPACE,2HORIZONTAL TABULATION,2LINE FEED,2VERTICAL TABULATION,2FORM FEED
   2CARRIAGE RETURN,2SHIFT OUT,3IN,2DATA LINK ESCAPE,2DEVICE CONTROL ONE,4TWO,4THREE,4FOUR
   2NEGATIVE ACKNOWLEDGE,2SYNCHRONOUS IDLE,2END OF TRANSMISSION BLOCK,2CANCEL,2END OF MEDIUM
   2SUBSTITUTE,2ESCAPE,2FILE SEPARATOR,2GROUP+,2RECORD+,2UNIT+,2SPACE,2DELETE,0BLANK SYMBOL
   0OPEN BOX,0SYMBOL FOR NEWLINE,2DELETE FORM TWO,2SUBSTITUTE+,2440:0OCR HOOK,1CHAIR,1FORK
   1INVERTED FORK,1BELT BUCKLE,1BOW TIE,1BRANCH BANK IDENTIFICATION,1AMOUNT OF CHECK,1DASH
   1CUSTOMER ACCOUNT NUMBER,1DOUBLE BACKSLASH,2460:0CIRCLED DIGIT ONE,2TWO,2THREE,2FOUR,2FIVE,2SIX
   2SEVEN,2EIGHT,2NINE,1NUMBER TEN,2ELEVEN,2TWELVE,2THIRTEEN,2FOURTEEN,2FIFTEEN,2SIXTEEN,2SEVENTEEN
   2EIGHTEEN,2NINETEEN,2TWENTY,0PARENTHESIZED DIGIT ONE,2TWO,2THREE,2FOUR,2FIVE,2SIX,2SEVEN,2EIGHT
   2NINE,1NUMBER TEN,2ELEVEN,2TWELVE,2THIRTEEN,2FOURTEEN,2FIFTEEN,2SIXTEEN,2SEVENTEEN,2EIGHTEEN
   2NINETEEN,2TWENTY,0DIGIT ONE FULL STOP,1TWO+,1THREE+,1FOUR+,1FIVE+,1SIX+,1SEVEN+,1EIGHT+,1NINE+
   0NUMBER TEN+,1ELEVEN+,1TWELVE+,1THIRTEEN+,1FOURTEEN+,1FIFTEEN+,1SIXTEEN+,1SEVENTEEN+,1EIGHTEEN+
   1NINETEEN+,1TWENTY+,0PARENTHESIZED LATIN SMALL LETTER A,4B,4C,4D,4E,4F,4G,4H,4I,4J,4K,4L,4M,4N,4O
   4P,4Q,4R,4S,4T,4U,4V,4W,4X,4Y,4Z,0CIRCLED LATIN CAPITAL LETTER A,4B,4C,4D,4E,4F,4G,4H,4I,4J,4K,4L
   4M,4N,4O,4P,4Q,4R,4S,4T,4U,4V,4W,4X,4Y,4Z,2SMALL LETTER A,4B,4C,4D,4E,4F,4G,4H,4I,4J,4K,4L,4M,4N
   4O,4P,4Q,4R,4S,4T,4U,4V,4W,4X,4Y,4Z,1DIGIT ZERO,0NEGATIVE CIRCLED NUMBER ELEVEN,3TWELVE,3THIRTEEN
   3FOURTEEN,3FIFTEEN,3SIXTEEN,3SEVENTEEN,3EIGHTEEN,3NINETEEN,3TWENTY,0DOUBLE CIRCLED DIGIT ONE,3TWO
   3THREE,3FOUR,3FIVE,3SIX,3SEVEN,3EIGHT,3NINE,2NUMBER TEN,0NEGATIVE CIRCLED DIGIT ZERO
   0BOX DRAWINGS LIGHT HORIZONTAL,2HEAVY+,2LIGHT VERTICAL,2HEAVY+,2LIGHT TRIPLE DASH HORIZONTAL
   2HEAVY+,2LIGHT TRIPLE DASH VERTICAL,2HEAVY+,2LIGHT QUADRUPLE DASH HORIZONTAL,2HEAVY+
   2LIGHT QUADRUPLE DASH VERTICAL,2HEAVY+,2LIGHT DOWN AND RIGHT,2DOWN LIGHT AND RIGHT HEAVY
   3HEAVY AND RIGHT LIGHT,2HEAVY DOWN AND RIGHT,2LIGHT DOWN AND LEFT,2DOWN LIGHT AND LEFT HEAVY
   3HEAVY AND LEFT LIGHT,2HEAVY DOWN AND LEFT,2LIGHT UP AND RIGHT,2UP LIGHT AND RIGHT HEAVY
   3HEAVY AND RIGHT LIGHT,2HEAVY UP AND RIGHT,2LIGHT UP AND LEFT,2UP LIGHT AND LEFT HEAVY
   3HEAVY AND LEFT LIGHT,2HEAVY UP AND LEFT,2LIGHT VERTICAL AND RIGHT
   2VERTICAL LIGHT AND RIGHT HEAVY,2UP HEAVY AND RIGHT DOWN LIGHT,2DOWN HEAVY AND RIGHT UP+
   2VERTICAL HEAVY AND RIGHT LIGHT,2DOWN LIGHT AND RIGHT UP HEAVY,2UP LIGHT AND RIGHT DOWN+
   2HEAVY VERTICAL AND RIGHT,2LIGHT VERTICAL AND LEFT,2VERTICAL LIGHT AND LEFT HEAVY
   2UP HEAVY AND LEFT DOWN LIGHT,2DOWN HEAVY AND LEFT UP+,2VERTICAL HEAVY AND LEFT LIGHT
   2DOWN LIGHT AND LEFT UP HEAVY,2UP LIGHT AND LEFT DOWN+,2HEAVY VERTICAL AND LEFT
   2LIGHT DOWN AND HORIZONTAL,2LEFT HEAVY AND RIGHT DOWN LIGHT,2RIGHT HEAVY AND LEFT+
   2DOWN LIGHT AND HORIZONTAL HEAVY,3HEAVY AND HORIZONTAL LIGHT,2RIGHT LIGHT AND LEFT DOWN HEAVY
   2LEFT LIGHT AND RIGHT+,2HEAVY DOWN AND HORIZONTAL,2LIGHT UP+,2LEFT HEAVY AND RIGHT UP LIGHT
   2RIGHT HEAVY AND LEFT+,2UP LIGHT AND HORIZONTAL HEAVY,3HEAVY AND HORIZONTAL LIGHT
   2RIGHT LIGHT AND LEFT UP HEAVY,2LEFT LIGHT AND RIGHT+,2HEAVY UP AND HORIZONTAL,2LIGHT VERTICAL+
   2LEFT HEAVY AND RIGHT VERTICAL LIGHT,2RIGHT HEAVY AND LEFT+,2VERTICAL LIGHT AND HORIZONTAL HEAVY
   2UP HEAVY AND DOWN HORIZONTAL LIGHT,2DOWN HEAVY AND UP+,2VERTICAL HEAVY AND HORIZONTAL LIGHT
   2LEFT UP HEAVY AND RIGHT DOWN LIGHT,2RIGHT UP HEAVY AND LEFT+,2LEFT DOWN HEAVY AND RIGHT UP+
   2RIGHT DOWN HEAVY AND LEFT+,2DOWN LIGHT AND UP HORIZONTAL HEAVY,2UP LIGHT AND DOWN+
   2RIGHT LIGHT AND LEFT VERTICAL+,2LEFT LIGHT AND RIGHT+,2HEAVY VERTICAL AND HORIZONTAL
   2LIGHT DOUBLE DASH+,2HEAVY+,2LIGHT DOUBLE DASH VERTICAL,2HEAVY+,2DOUBLE HORIZONTAL,3VERTICAL
   2DOWN SINGLE AND RIGHT DOUBLE,3DOUBLE AND RIGHT SINGLE,2DOUBLE DOWN AND RIGHT
   2DOWN SINGLE AND LEFT DOUBLE,3DOUBLE AND LEFT SINGLE,2DOUBLE DOWN AND LEFT
   2UP SINGLE AND RIGHT DOUBLE,3DOUBLE AND RIGHT SINGLE,2DOUBLE UP AND RIGHT
   2UP SINGLE AND LEFT DOUBLE,3DOUBLE AND LEFT SINGLE,2DOUBLE UP AND LEFT
   2VERTICAL SINGLE AND RIGHT DOUBLE,3DOUBLE AND RIGHT SINGLE,2DOUBLE VERTICAL AND RIGHT
   2VERTICAL SINGLE AND LEFT DOUBLE,3DOUBLE AND LEFT SINGLE,2DOUBLE VERTICAL AND LEFT
   2DOWN SINGLE AND HORIZONTAL DOUBLE,3DOUBLE AND HORIZONTAL SINGLE,2DOUBLE DOWN AND HORIZONTAL
   2UP SINGLE AND HORIZONTAL DOUBLE,3DOUBLE AND HORIZONTAL SINGLE,2DOUBLE UP AND HORIZONTAL
   2VERTICAL SINGLE AND HORIZONTAL DOUBLE,3DOUBLE AND HORIZONTAL SINGLE
   2DOUBLE VERTICAL AND HORIZONTAL,2LIGHT ARC DOWN AND RIGHT,6LEFT,4UP+,6RIGHT
   3DIAGONAL UPPER RIGHT TO LOWER LEFT,5LEFT TO LOWER RIGHT,4CROSS,3LEFT,3UP,3RIGHT,3DOWN
   2HEAVY LEFT,3UP,3RIGHT,3DOWN,2LIGHT LEFT AND HEAVY RIGHT,3UP AND HEAVY DOWN
   2HEAVY LEFT AND LIGHT RIGHT,3UP AND LIGHT DOWN,0UPPER HALF BLOCK,0LOWER ONE EIGHTH BLOCK
   2QUARTER+,1THREE EIGHTHS+,1HALF BLOCK,1FIVE EIGHTHS BLOCK,1THREE QUARTERS+,1SEVEN EIGHTHS+
   0FULL BLOCK,0LEFT SEVEN EIGHTHS BLOCK,1THREE QUARTERS+,1FIVE EIGHTHS+,1HALF BLOCK
   1THREE EIGHTHS BLOCK,1ONE QUARTER+,2EIGHTH+,0RIGHT HALF BLOCK,0LIGHT SHADE,0MEDIUM+,0DARK+
   0UPPER ONE EIGHTH BLOCK,0RIGHT+,0QUADRANT LOWER LEFT,2RIGHT,1UPPER LEFT
   3AND LOWER LEFT AND LOWER RIGHT,5RIGHT,4UPPER RIGHT AND LOWER LEFT,8RIGHT,2RIGHT,3AND LOWER LEFT
   6AND LOWER RIGHT,0BLACK SQUARE,0WHITE+,2WITH ROUNDED CORNERS,2CONTAINING BLACK SMALL SQUARE
   0SQUARE WITH HORIZONTAL FILL,2VERTICAL+,2ORTHOGONAL CROSSHATCH FILL
   2UPPER LEFT TO LOWER RIGHT FILL,3RIGHT TO LOWER LEFT+,2DIAGONAL CROSSHATCH FILL
   0BLACK SMALL SQUARE,0WHITE+,0BLACK RECTANGLE,0WHITE+,0BLACK VERTICAL RECTANGLE,0WHITE+
   0BLACK PARALLELOGRAM,0WHITE+,0BLACK UP-POINTING TRIANGLE,0WHITE+
   0BLACK UP-POINTING SMALL TRIANGLE,0WHITE+,0BLACK RIGHT-POINTING TRIANGLE,0WHITE+
   0BLACK RIGHT-POINTING SMALL TRIANGLE,0WHITE+,0BLACK RIGHT-POINTING POINTER,0WHITE+
   0BLACK DOWN-POINTING TRIANGLE,0WHITE+,0BLACK DOWN-POINTING SMALL TRIANGLE,0WHITE+
   0BLACK LEFT-POINTING TRIANGLE,0WHITE+,0BLACK LEFT-POINTING SMALL TRIANGLE,0WHITE+
   0BLACK LEFT-POINTING POINTER,0WHITE+,0BLACK DIAMOND,0WHITE+,2CONTAINING BLACK SMALL DIAMOND
   0FISHEYE,0LOZENGE,0WHITE CIRCLE,0DOTTED+,0CIRCLE WITH VERTICAL FILL,0BULLSEYE,0BLACK CIRCLE
   0CIRCLE WITH LEFT HALF BLACK,2RIGHT+,2LOWER+,2UPPER+,3RIGHT QUADRANT BLACK
   2ALL BUT UPPER LEFT QUADRANT BLACK,0LEFT HALF BLACK CIRCLE,0RIGHT+,0INVERSE BULLET,1WHITE CIRCLE
   0UPPER HALF INVERSE WHITE CIRCLE,0LOWER+,0UPPER LEFT QUADRANT CIRCULAR ARC,1RIGHT+,0LOWER+,1LEFT+
   0UPPER HALF CIRCLE,0LOWER+,0BLACK LOWER RIGHT TRIANGLE,2LEFT+,1UPPER+,2RIGHT+,0WHITE BULLET
   0SQUARE WITH LEFT HALF BLACK,2RIGHT+,2UPPER LEFT DIAGONAL HALF BLACK,2LOWER RIGHT+
   0WHITE SQUARE WITH VERTICAL BISECTING LINE,1UP-POINTING TRIANGLE WITH DOT
   0UP-POINTING TRIANGLE WITH LEFT HALF BLACK,4RIGHT+,0LARGE CIRCLE
   0WHITE SQUARE WITH UPPER LEFT QUADRANT,3LOWER+,4RIGHT+,3UPPER+,1CIRCLE WITH UPPER LEFT+,3LOWER+
   4RIGHT+,3UPPER+,0UPPER LEFT TRIANGLE,1RIGHT+,0LOWER LEFT+,0WHITE MEDIUM SQUARE,0BLACK+
   0WHITE MEDIUM SMALL SQUARE,0BLACK+,0LOWER RIGHT TRIANGLE,0BLACK SUN WITH RAYS,0CLOUD,0UMBRELLA
   0SNOWMAN,0COMET,0BLACK STAR,0WHITE+,0LIGHTNING,0THUNDERSTORM,0SUN,0ASCENDING NODE,0DESCENDING+
   0CONJUNCTION,0OPPOSITION,0BLACK TELEPHONE,0WHITE+,0BALLOT BOX,2WITH CHECK,3X,0SALTIRE
   0UMBRELLA WITH RAIN DROPS,0HOT BEVERAGE,0WHITE SHOGI PIECE,0BLACK+,0SHAMROCK
   0REVERSED ROTATED FLORAL HEART BULLET,0BLACK LEFT POINTING INDEX,1RIGHT+,0WHITE LEFT+,1UP+
   1RIGHT+,1DOWN+,0SKULL AND CROSSBONES,0CAUTION SIGN,0RADIOACTIVE+,0BIOHAZARD+,0CADUCEUS,0ANKH
   0ORTHODOX CROSS,0CHI RHO,0CROSS OF LORRAINE,2JERUSALEM,0STAR AND CRESCENT,0FARSI SYMBOL
   0ADI SHAKTI,0HAMMER AND SICKLE,0PEACE SYMBOL,0YIN YANG,0TRIGRAM FOR HEAVEN,2LAKE,2FIRE,2THUNDER
   2WIND,2WATER,2MOUNTAIN,2EARTH,0WHEEL OF DHARMA,0WHITE FROWNING FACE,1SMILING+,0BLACK+
   0WHITE SUN WITH RAYS,0FIRST QUARTER MOON,0LAST+,0MERCURY,0FEMALE SIGN,0EARTH,0MALE SIGN,0JUPITER
   0SATURN,0URANUS,0NEPTUNE,0PLUTO,0ARIES,0TAURUS,0GEMINI,0CANCER,0LEO,0VIRGO,0LIBRA,0SCORPIUS
   0SAGITTARIUS,0CAPRICORN,0AQUARIUS,0PISCES,0WHITE CHESS KING,2QUEEN,2ROOK,2BISHOP,2KNIGHT,2PAWN
   0BLACK CHESS KING,2QUEEN,2ROOK,2BISHOP,2KNIGHT,2PAWN,1SPADE SUIT,0WHITE HEART+,1DIAMOND+
   0BLACK CLUB+,0WHITE SPADE+,0BLACK HEART+,1DIAMOND+,0WHITE CLUB+,0HOT SPRINGS,0QUARTER NOTE
   0EIGHTH+,0BEAMED EIGHTH NOTES,1SIXTEENTH+,0MUSIC FLAT SIGN,1NATURAL+,1SHARP+,0WEST SYRIAC CROSS
   0EAST+,0UNIVERSAL RECYCLING SYMBOL,0RECYCLING SYMBOL FOR TYPE-1 PLASTICS,4-2+,4-3+,4-4+,4-5+,4-6+
   4-7+,3GENERIC MATERIALS,0BLACK UNIVERSAL RECYCLING SYMBOL,0RECYCLED PAPER SYMBOL
   0PARTIALLY-RECYCLED PAPER SYMBOL,0PERMANENT PAPER SIGN,0WHEELCHAIR SYMBOL,0DIE FACE-1,2-2,2-3,2-4
   2-5,2-6,0WHITE CIRCLE WITH DOT RIGHT,3TWO DOTS,0BLACK CIRCLE WITH WHITE DOT RIGHT,3TWO WHITE DOTS
   0MONOGRAM FOR YANG,2YIN,0DIGRAM FOR GREATER YANG,2LESSER YIN,3YANG,2GREATER YIN,0WHITE FLAG
   0BLACK+,0HAMMER AND PICK,0ANCHOR,0CROSSED SWORDS,0STAFF OF AESCULAPIUS,0SCALES,0ALEMBIC,0FLOWER
   0GEAR,0STAFF OF HERMES,0ATOM SYMBOL,0FLEUR-DE-LIS,0OUTLINED WHITE STAR
   0THREE LINES CONVERGING RIGHT,3LEFT,0WARNING SIGN,0HIGH VOLTAGE SIGN,0DOUBLED FEMALE+,1MALE+
   0INTERLOCKED FEMALE AND MALE SIGN,0MALE AND FEMALE SIGN,1WITH STROKE+,3AND MALE AND FEMALE SIGN
   0VERTICAL MALE WITH STROKE SIGN,0HORIZONTAL+,0MEDIUM WHITE CIRCLE,1BLACK+,1SMALL WHITE CIRCLE
   0MARRIAGE SYMBOL,0DIVORCE+,0UNMARRIED PARTNERSHIP SYMBOL,0COFFIN,0FUNERAL URN,0NEUTER,0CERES
   0PALLAS,0JUNO,0VESTA,0CHIRON,0BLACK MOON LILITH,0SEXTILE,0SEMISEXTILE,0QUINCUNX,0SESQUIQUADRATE
   0SOCCER BALL,0BASEBALL,0SQUARED KEY,0WHITE DRAUGHTS MAN,2KING,0BLACK DRAUGHTS MAN,2KING
   0SNOWMAN WITHOUT SNOW,0SUN BEHIND CLOUD,0RAIN,0BLACK SNOWMAN,0THUNDER CLOUD AND RAIN
   0TURNED WHITE SHOGI PIECE,1BLACK+,0WHITE DIAMOND IN SQUARE,0CROSSING LANES,0DISABLED CAR
   0OPHIUCHUS,0PICK,0CAR SLIDING,0HELMET WITH WHITE CROSS,0CIRCLED CROSSING LANES,0CHAINS,0NO ENTRY
   0ALTERNATE ONE-WAY LEFT WAY TRAFFIC,0BLACK TWO+,0WHITE+,0BLACK LEFT LANE MERGE,0WHITE+
   0DRIVE SLOW SIGN,0HEAVY WHITE DOWN-POINTING TRIANGLE,0LEFT CLOSED ENTRY,0SQUARED SALTIRE
   0FALLING DIAGONAL IN WHITE CIRCLE IN BLACK SQUARE,0BLACK TRUCK,0RESTRICTED LEFT ENTRY-1,3-2
   0ASTRONOMICAL SYMBOL FOR URANUS,0HEAVY CIRCLE WITH STROKE AND TWO DOTS ABOVE,0PENTAGRAM
   0RIGHT-HANDED INTERLACED PENTAGRAM,0LEFT+,0INVERTED PENTAGRAM,0BLACK CROSS ON SHIELD
   0SHINTO SHRINE,0CHURCH,0CASTLE,0HISTORIC SITE,0GEAR WITHOUT HUB,1WITH HANDLES
   0MAP SYMBOL FOR LIGHTHOUSE,0MOUNTAIN,0UMBRELLA ON GROUND,0FOUNTAIN,0FLAG IN HOLE,0FERRY,0SAILBOAT
   0SQUARE FOUR CORNERS,0SKIER,0ICE SKATE,0PERSON WITH BALL,0TENT,0JAPANESE BANK SYMBOL
   0HEADSTONE GRAVEYARD+,0FUEL PUMP,0CUP ON BLACK SQUARE
   0WHITE FLAG WITH HORIZONTAL MIDDLE BLACK STRIPE,0BLACK SAFETY SCISSORS,0UPPER BLADE+
   0BLACK SCISSORS,0LOWER BLADE SCISSORS,0WHITE SCISSORS,1HEAVY CHECK MARK,0TELEPHONE LOCATION SIGN
   0TAPE DRIVE,0AIRPLANE,0ENVELOPE,0RAISED FIST,1HAND,0VICTORY+,0WRITING+,0LOWER RIGHT PENCIL
   0PENCIL,0UPPER RIGHT PENCIL,0WHITE NIB,0BLACK+,0CHECK MARK,0HEAVY CHECK MARK,0MULTIPLICATION X
   0HEAVY MULTIPLICATION X,0BALLOT X,0HEAVY BALLOT X,0OUTLINED GREEK CROSS,0HEAVY+,0OPEN CENTRE+
   0HEAVY OPEN CENTRE CROSS,0LATIN CROSS,0SHADOWED WHITE LATIN CROSS,0OUTLINED LATIN CROSS
   0MALTESE CROSS,0STAR OF DAVID,0FOUR TEARDROP-SPOKED ASTERISK,1BALLOON+
   0HEAVY FOUR BALLOON-SPOKED ASTERISK,0FOUR CLUB-SPOKED ASTERISK,0BLACK FOUR POINTED STAR,0WHITE+
   0SPARKLES,0STRESS OUTLINED WHITE STAR,0CIRCLED WHITE STAR,0OPEN CENTRE BLACK STAR
   0BLACK CENTRE WHITE+,0OUTLINED BLACK STAR,0HEAVY OUTLINED BLACK STAR,0PINWHEEL STAR
   0SHADOWED WHITE STAR,0HEAVY ASTERISK,0OPEN CENTRE ASTERISK,0EIGHT SPOKED+,1POINTED BLACK STAR
   2PINWHEEL+,0SIX POINTED BLACK+,0EIGHT POINTED RECTILINEAR BLACK STAR
   0HEAVY EIGHT POINTED RECTILINEAR BLACK STAR,0TWELVE POINTED BLACK STAR,0SIXTEEN POINTED ASTERISK
   0TEARDROP-SPOKED+,0OPEN CENTRE TEARDROP-SPOKED ASTERISK,0HEAVY TEARDROP-SPOKED ASTERISK
   0SIX PETALLED BLACK AND WHITE FLORETTE,0BLACK FLORETTE,0WHITE+
   0EIGHT PETALLED OUTLINED BLACK FLORETTE,0CIRCLED OPEN CENTRE EIGHT POINTED STAR
   0HEAVY TEARDROP-SPOKED PINWHEEL ASTERISK,0SNOWFLAKE,0TIGHT TRIFOLIATE SNOWFLAKE,0HEAVY CHEVRON+
   0SPARKLE,0HEAVY SPARKLE,0BALLOON-SPOKED ASTERISK,0EIGHT TEARDROP-SPOKED PROPELLER ASTERISK
   0HEAVY EIGHT TEARDROP-SPOKED PROPELLER ASTERISK,0CROSS MARK,0SHADOWED WHITE CIRCLE
   0NEGATIVE SQUARED CROSS MARK,0LOWER RIGHT DROP-SHADOWED WHITE SQUARE,0UPPER+
   0LOWER RIGHT SHADOWED WHITE SQUARE,0UPPER+,0BLACK QUESTION MARK ORNAMENT,0WHITE+,1EXCLAMATION+
   0BLACK DIAMOND MINUS WHITE X,0HEAVY EXCLAMATION MARK SYMBOL,0LIGHT VERTICAL BAR,0MEDIUM+,0HEAVY+
   1SINGLE TURNED COMMA QUOTATION MARK ORNAMENT,2COMMA QUOTATION MARK ORNAMENT
   1DOUBLE TURNED COMMA QUOTATION MARK ORNAMENT,2COMMA QUOTATION MARK ORNAMENT
   1LOW SINGLE COMMA QUOTATION MARK ORNAMENT,2DOUBLE+,0CURVED STEM PARAGRAPH SIGN ORNAMENT
   0HEAVY EXCLAMATION MARK ORNAMENT,1HEART EXCLAMATION MARK ORNAMENT,1BLACK HEART
   0ROTATED HEAVY BLACK HEART BULLET,0FLORAL HEART,0ROTATED FLORAL HEART BULLET
   0MEDIUM LEFT PARENTHESIS ORNAMENT,1RIGHT+,1FLATTENED LEFT PARENTHESIS ORNAMENT,2RIGHT+
   1LEFT-POINTING ANGLE BRACKET ORNAMENT,1RIGHT+,0HEAVY LEFT-POINTING ANGLE QUOTATION MARK ORNAMENT
   1RIGHT+,1LEFT-POINTING ANGLE BRACKET ORNAMENT,1RIGHT+,0LIGHT LEFT TORTOISE SHELL+,1RIGHT+
   0MEDIUM LEFT CURLY BRACKET ORNAMENT,1RIGHT+,0DINGBAT NEGATIVE CIRCLED DIGIT ONE,4TWO,4THREE,4FOUR
   4FIVE,4SIX,4SEVEN,4EIGHT,4NINE,3NUMBER TEN,1CIRCLED SANS-SERIF DIGIT ONE,5TWO,5THREE,5FOUR,5FIVE
   5SIX,5SEVEN,5EIGHT,5NINE,4NUMBER TEN,1NEGATIVE CIRCLED SANS-SERIF DIGIT ONE,6TWO,6THREE,6FOUR
   6FIVE,6SIX,6SEVEN,6EIGHT,6NINE,5NUMBER TEN,0HEAVY WIDE-HEADED RIGHTWARDS ARROW,1PLUS SIGN,1MINUS+
   1DIVISION+,1SOUTH EAST ARROW,1RIGHTWARDS ARROW,1NORTH EAST ARROW,0DRAFTING POINT RIGHTWARDS+
   0HEAVY ROUND-TIPPED RIGHTWARDS ARROW,0TRIANGLE-HEADED RIGHTWARDS ARROW
   0HEAVY TRIANGLE-HEADED RIGHTWARDS ARROW,0DASHED+,0HEAVY DASHED TRIANGLE-HEADED RIGHTWARDS ARROW
   0BLACK RIGHTWARDS ARROW,0THREE-D TOP-LIGHTED RIGHTWARDS ARROWHEAD,2BOTTOM+
   0BLACK RIGHTWARDS ARROWHEAD,0HEAVY BLACK CURVED DOWNWARDS AND RIGHTWARDS ARROW,3UPWARDS+
   0SQUAT BLACK RIGHTWARDS ARROW,0HEAVY CONCAVE-POINTED BLACK RIGHTWARDS ARROW
   0RIGHT-SHADED WHITE RIGHTWARDS ARROW,0LEFT+,0BACK-TILTED SHADOWED WHITE RIGHTWARDS ARROW,0FRONT+
   0HEAVY LOWER RIGHT-SHADOWED WHITE RIGHTWARDS ARROW,1UPPER+,0NOTCHED LOWER+,0CURLY LOOP
   0NOTCHED UPPER RIGHT-SHADOWED WHITE RIGHTWARDS ARROW,0CIRCLED HEAVY WHITE RIGHTWARDS ARROW
   0WHITE-FEATHERED RIGHTWARDS ARROW,0BLACK-FEATHERED SOUTH EAST ARROW,2RIGHTWARDS ARROW
   2NORTH EAST ARROW,0HEAVY BLACK-FEATHERED SOUTH EAST ARROW,3RIGHTWARDS ARROW,3NORTH EAST ARROW
   0TEARDROP-BARBED RIGHTWARDS ARROW,0HEAVY TEARDROP-SHANKED RIGHTWARDS ARROW
   0WEDGE-TAILED RIGHTWARDS ARROW,0HEAVY WEDGE-TAILED RIGHTWARDS ARROW
   0OPEN-OUTLINED RIGHTWARDS ARROW,0DOUBLE CURLY LOOP,0THREE DIMENSIONAL ANGLE
   0WHITE TRIANGLE CONTAINING SMALL WHITE TRIANGLE,0PERPENDICULAR,0OPEN SUBSET,1SUPERSET
   0LEFT S-SHAPED BAG DELIMITER,0RIGHT+,0OR WITH DOT INSIDE,0REVERSE SOLIDUS PRECEDING SUBSET
   0SUPERSET PRECEDING SOLIDUS,0VERTICAL BAR WITH HORIZONTAL STROKE,0MATHEMATICAL RISING DIAGONAL
   0LONG DIVISION,0MATHEMATICAL FALLING DIAGONAL,0SQUARED LOGICAL AND,2OR
   0WHITE DIAMOND WITH CENTRED DOT,0AND WITH DOT,0ELEMENT OF OPENING UPWARDS
   0LOWER RIGHT CORNER WITH DOT,0UPPER LEFT+,0LEFT OUTER JOIN,0RIGHT+,0FULL+,0LARGE UP TACK,1DOWN+
   0LEFT AND RIGHT DOUBLE TURNSTILE,3TACK,1MULTIMAP,0LONG RIGHT TACK,1LEFT+
   0UP TACK WITH CIRCLE ABOVE,0LOZENGE DIVIDED BY HORIZONTAL RULE,0WHITE CONCAVE-SIDED DIAMOND
   4WITH LEFTWARDS TICK,5RIGHTWARDS+,1SQUARE WITH LEFTWARDS TICK,3RIGHTWARDS+
   0MATHEMATICAL LEFT WHITE SQUARE BRACKET,1RIGHT+,1LEFT ANGLE BRACKET,1RIGHT+
   1LEFT DOUBLE ANGLE BRACKET,1RIGHT+,1LEFT WHITE TORTOISE SHELL BRACKET,1RIGHT+
   1LEFT FLATTENED PARENTHESIS,1RIGHT+,0UPWARDS QUADRUPLE ARROW,0DOWNWARDS+
   0ANTICLOCKWISE GAPPED CIRCLE ARROW,0CLOCKWISE+,0RIGHT ARROW WITH CIRCLED PLUS
   0LONG LEFTWARDS ARROW,1RIGHTWARDS+,1LEFT RIGHT ARROW,1LEFTWARDS DOUBLE+,1RIGHTWARDS+
   1LEFT RIGHT DOUBLE ARROW,1LEFTWARDS ARROW FROM BAR,1RIGHTWARDS+,1LEFTWARDS DOUBLE ARROW FROM BAR
   1RIGHTWARDS+,2SQUIGGLE ARROW"

end AddressBook.Text.Name
