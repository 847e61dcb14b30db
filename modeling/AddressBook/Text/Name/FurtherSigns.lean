namespace AddressBook.Text.Name

def furtherSigns : String :=
  "2800:0BRAILLE PATTERN BLANK,2DOTS-1,3-2,3-12,3-3,3-13,3-23,3-123,3-4,3-14,3-24,3-124,3-34,3-134
   3-234,3-1234,3-5,3-15,3-25,3-125,3-35,3-135,3-235,3-1235,3-45,3-145,3-245,3-1245,3-345,3-1345
   3-2345,3-12345,3-6,3-16,3-26,3-126,3-36,3-136,3-236,3-1236,3-46,3-146,3-246,3-1246,3-346,3-1346
   3-2346,3-12346,3-56,3-156,3-256,3-1256,3-356,3-1356,3-2356,3-12356,3-456,3-1456,3-2456,3-12456
   3-3456,3-13456,3-23456,3-123456,3-7,3-17,3-27,3-127,3-37,3-137,3-237,3-1237,3-47,3-147,3-247
   3-1247,3-347,3-1347,3-2347,3-12347,3-57,3-157,3-257,3-1257,3-357,3-1357,3-2357,3-12357,3-457
   3-1457,3-2457,3-12457,3-3457,3-13457,3-23457,3-123457,3-67,3-167,3-267,3-1267,3-367,3-1367,3-2367
   3-12367,3-467,3-1467,3-2467,3-12467,3-3467,3-13467,3-23467,3-123467,3-567,3-1567,3-2567,3-12567
   3-3567,3-13567,3-23567,3-123567,3-4567,3-14567,3-24567,3-124567,3-34567,3-134567,3-234567
   3-1234567,3-8,3-18,3-28,3-128,3-38,3-138,3-238,3-1238,3-48,3-148,3-248,3-1248,3-348,3-1348,3-2348
   3-12348,3-58,3-158,3-258,3-1258,3-358,3-1358,3-2358,3-12358,3-458,3-1458,3-2458,3-12458,3-3458
   3-13458,3-23458,3-123458,3-68,3-168,3-268,3-1268,3-368,3-1368,3-2368,3-12368,3-468,3-1468,3-2468
   3-12468,3-3468,3-13468,3-23468,3-123468,3-568,3-1568,3-2568,3-12568,3-3568,3-13568,3-23568
   3-123568,3-4568,3-14568,3-24568,3-124568,3-34568,3-134568,3-234568,3-1234568,3-78,3-178,3-278
   3-1278,3-378,3-1378,3-2378,3-12378,3-478,3-1478,3-2478,3-12478,3-3478,3-13478,3-23478,3-123478
   3-578,3-1578,3-2578,3-12578,3-3578,3-13578,3-23578,3-123578,3-4578,3-14578,3-24578,3-124578
   3-34578,3-134578,3-234578,3-1234578,3-678,3-1678,3-2678,3-12678,3-3678,3-13678,3-23678,3-123678
   3-4678,3-14678,3-24678,3-124678,3-34678,3-134678,3-234678,3-1234678,3-5678,3-15678,3-25678
   3-125678,3-35678,3-135678,3-235678,3-1235678,3-45678,3-145678,3-245678,3-1245678,3-345678
   3-1345678,3-2345678,3-12345678,0RIGHTWARDS TWO-HEADED ARROW WITH VERTICAL STROKE
   5DOUBLE VERTICAL STROKE,0LEFTWARDS DOUBLE ARROW WITH VERTICAL STROKE,0RIGHTWARDS+
   0LEFT RIGHT DOUBLE ARROW WITH VERTICAL STROKE,0RIGHTWARDS TWO-HEADED ARROW FROM BAR
   0LEFTWARDS DOUBLE ARROW FROM BAR,0RIGHTWARDS+,0DOWNWARDS ARROW WITH HORIZONTAL STROKE,0UPWARDS+
   1TRIPLE ARROW,0DOWNWARDS+,0LEFTWARDS DOUBLE DASH ARROW,0RIGHTWARDS+,0LEFTWARDS TRIPLE+
   0RIGHTWARDS+,1TWO-HEADED TRIPLE DASH ARROW,1ARROW WITH DOTTED STEM,0UPWARDS ARROW TO BAR
   0DOWNWARDS+,0RIGHTWARDS ARROW WITH TAIL WITH VERTICAL STROKE,5DOUBLE VERTICAL STROKE
   1TWO-HEADED ARROW WITH TAIL,6WITH VERTICAL STROKE,7DOUBLE VERTICAL STROKE,0LEFTWARDS ARROW-TAIL
   0RIGHTWARDS+,0LEFTWARDS DOUBLE ARROW-TAIL,0RIGHTWARDS+,0LEFTWARDS ARROW TO BLACK DIAMOND
   0RIGHTWARDS+,0LEFTWARDS ARROW FROM BAR TO BLACK DIAMOND,0RIGHTWARDS+
   0NORTH WEST AND SOUTH EAST ARROW,1EAST AND SOUTH WEST+,1WEST ARROW WITH HOOK,1EAST+,0SOUTH+
   1WEST+,0NORTH WEST ARROW AND NORTH EAST ARROW,1EAST ARROW AND SOUTH+
   0SOUTH EAST ARROW AND SOUTH WEST+,1WEST ARROW AND NORTH+
   0RISING DIAGONAL CROSSING FALLING DIAGONAL,0FALLING DIAGONAL CROSSING RISING+
   0SOUTH EAST ARROW CROSSING NORTH EAST ARROW,0NORTH EAST ARROW CROSSING SOUTH+
   0FALLING DIAGONAL CROSSING NORTH EAST ARROW,0RISING DIAGONAL CROSSING SOUTH+
   0NORTH EAST ARROW CROSSING NORTH WEST ARROW,1WEST ARROW CROSSING NORTH EAST+
   0WAVE ARROW POINTING DIRECTLY RIGHT,0ARROW POINTING RIGHTWARDS THEN CURVING UPWARDS,5DOWNWARDS
   2DOWNWARDS THEN CURVING LEFTWARDS,5RIGHTWARDS,0RIGHT-SIDE ARC CLOCKWISE ARROW
   0LEFT-SIDE ARC ANTICLOCKWISE+,0TOP ARC ANTICLOCKWISE ARROW,0BOTTOM+
   0TOP ARC CLOCKWISE ARROW WITH MINUS,2ANTICLOCKWISE ARROW WITH PLUS
   0LOWER RIGHT SEMICIRCULAR CLOCKWISE ARROW,1LEFT SEMICIRCULAR ANTICLOCKWISE+
   0ANTICLOCKWISE CLOSED CIRCLE ARROW,0CLOCKWISE+,0RIGHTWARDS ARROW ABOVE SHORT LEFTWARDS ARROW
   0LEFTWARDS ARROW ABOVE SHORT RIGHTWARDS+,0SHORT RIGHTWARDS ARROW ABOVE LEFTWARDS+
   0RIGHTWARDS ARROW WITH PLUS BELOW,0LEFTWARDS+,0RIGHTWARDS ARROW THROUGH X
   0LEFT RIGHT ARROW THROUGH SMALL CIRCLE,0UPWARDS TWO-HEADED ARROW FROM SMALL CIRCLE
   0LEFT BARB UP RIGHT BARB DOWN HARPOON,2DOWN RIGHT BARB UP+,0UP BARB RIGHT DOWN BARB LEFT+
   2LEFT DOWN BARB RIGHT+,0LEFT BARB UP RIGHT BARB UP+,0UP BARB RIGHT DOWN BARB RIGHT+
   0LEFT BARB DOWN RIGHT BARB DOWN+,0UP BARB LEFT DOWN BARB LEFT+
   0LEFTWARDS HARPOON WITH BARB UP TO BAR,0RIGHTWARDS+,0UPWARDS HARPOON WITH BARB RIGHT+,0DOWNWARDS+
   0LEFTWARDS HARPOON WITH BARB DOWN+,0RIGHTWARDS+,0UPWARDS HARPOON WITH BARB LEFT+,0DOWNWARDS+
   0LEFTWARDS HARPOON WITH BARB UP FROM+,0RIGHTWARDS+,0UPWARDS HARPOON WITH BARB RIGHT+,0DOWNWARDS+
   0LEFTWARDS HARPOON WITH BARB DOWN+,0RIGHTWARDS+,0UPWARDS HARPOON WITH BARB LEFT+,0DOWNWARDS+
   0LEFTWARDS HARPOON WITH BARB UP ABOVE LEFTWARDS HARPOON WITH BARB DOWN
   0UPWARDS HARPOON WITH BARB LEFT BESIDE UPWARDS HARPOON WITH BARB RIGHT
   0RIGHTWARDS HARPOON WITH BARB UP ABOVE RIGHTWARDS HARPOON WITH BARB DOWN
   0DOWNWARDS HARPOON WITH BARB LEFT BESIDE DOWNWARDS HARPOON WITH BARB RIGHT
   0LEFTWARDS HARPOON WITH BARB UP ABOVE RIGHTWARDS HARPOON WITH BARB UP
   4DOWN ABOVE RIGHTWARDS HARPOON WITH BARB DOWN
   0RIGHTWARDS HARPOON WITH BARB UP ABOVE LEFTWARDS HARPOON WITH BARB UP
   4DOWN ABOVE LEFTWARDS HARPOON WITH BARB DOWN,0LEFTWARDS HARPOON WITH BARB UP ABOVE LONG DASH
   4DOWN BELOW+,0RIGHTWARDS HARPOON WITH BARB UP ABOVE+,4DOWN BELOW+
   0UPWARDS HARPOON WITH BARB LEFT BESIDE DOWNWARDS HARPOON WITH BARB RIGHT
   0DOWNWARDS HARPOON WITH BARB LEFT BESIDE UPWARDS+,0RIGHT DOUBLE ARROW WITH ROUNDED HEAD
   0EQUALS SIGN ABOVE RIGHTWARDS ARROW,0TILDE OPERATOR+,0LEFTWARDS ARROW ABOVE TILDE OPERATOR
   0RIGHTWARDS+,3ALMOST EQUAL TO,0LESS-THAN ABOVE LEFTWARDS ARROW,0LEFTWARDS ARROW THROUGH LESS-THAN
   0GREATER-THAN ABOVE RIGHTWARDS ARROW,0SUBSET ABOVE RIGHTWARDS ARROW
   0LEFTWARDS ARROW THROUGH SUBSET,0SUPERSET ABOVE LEFTWARDS ARROW,0LEFT FISH TAIL,0RIGHT+,0UP+
   0DOWN+,0TRIPLE VERTICAL BAR DELIMITER,0Z NOTATION SPOT,2TYPE COLON,0LEFT WHITE CURLY BRACKET
   0RIGHT+,0LEFT WHITE PARENTHESIS,0RIGHT+,0Z NOTATION LEFT IMAGE BRACKET,2RIGHT+,2LEFT BINDING+
   2RIGHT+,0LEFT SQUARE BRACKET WITH UNDERBAR,0RIGHT+,0LEFT SQUARE BRACKET WITH TICK IN TOP CORNER
   0RIGHT SQUARE BRACKET WITH TICK IN BOTTOM+,0LEFT+,0RIGHT SQUARE BRACKET WITH TICK IN TOP+
   0LEFT ANGLE BRACKET WITH DOT,0RIGHT+,0LEFT ARC LESS-THAN BRACKET,0RIGHT ARC GREATER+
   0DOUBLE LEFT ARC GREATER-THAN BRACKET,1RIGHT ARC LESS+,0LEFT BLACK TORTOISE SHELL BRACKET,0RIGHT+
   0DOTTED FENCE,0VERTICAL ZIGZAG LINE,0MEASURED ANGLE OPENING LEFT,0RIGHT ANGLE VARIANT WITH SQUARE
   0MEASURED RIGHT ANGLE WITH DOT,0ANGLE WITH S INSIDE,0ACUTE ANGLE,0SPHERICAL ANGLE OPENING LEFT
   3UP,0TURNED ANGLE,0REVERSED+,0ANGLE WITH UNDERBAR,0REVERSED ANGLE WITH UNDERBAR
   0OBLIQUE ANGLE OPENING UP,3DOWN
   0MEASURED ANGLE WITH OPEN ARM ENDING IN ARROW POINTING UP AND RIGHT,9UP AND LEFT,9DOWN AND RIGHT
   9DOWN AND LEFT,9RIGHT AND UP,9LEFT+,9RIGHT AND DOWN,9LEFT+,0REVERSED EMPTY SET
   0EMPTY SET WITH OVERBAR,3SMALL CIRCLE ABOVE,3RIGHT ARROW+,3LEFT+,0CIRCLE WITH HORIZONTAL BAR
   0CIRCLED VERTICAL BAR,1PARALLEL,1REVERSE SOLIDUS,1PERPENDICULAR
   0CIRCLE DIVIDED BY HORIZONTAL BAR AND TOP HALF DIVIDED BY VERTICAL BAR,1WITH SUPERIMPOSED X
   0CIRCLED ANTICLOCKWISE-ROTATED DIVISION SIGN,0UP ARROW THROUGH CIRCLE,0CIRCLED WHITE BULLET
   1BULLET,1LESS-THAN,1GREATER+,0CIRCLE WITH SMALL CIRCLE TO THE RIGHT
   2TWO HORIZONTAL STROKES TO THE RIGHT,0SQUARED RISING DIAGONAL SLASH,1FALLING+,1ASTERISK
   1SMALL CIRCLE,1SQUARE,0TWO JOINED SQUARES,0TRIANGLE WITH DOT ABOVE,2UNDERBAR,0S IN TRIANGLE
   0TRIANGLE WITH SERIFS AT BOTTOM,0RIGHT TRIANGLE ABOVE LEFT TRIANGLE
   0LEFT TRIANGLE BESIDE VERTICAL BAR,0VERTICAL BAR BESIDE RIGHT TRIANGLE
   0BOWTIE WITH LEFT HALF BLACK,2RIGHT+,0BLACK BOWTIE,0TIMES WITH LEFT HALF BLACK,2RIGHT+
   0WHITE HOURGLASS,0BLACK+,0LEFT WIGGLY FENCE,0RIGHT+,0LEFT DOUBLE WIGGLY FENCE,0RIGHT+
   0INCOMPLETE INFINITY,0TIE OVER INFINITY,0INFINITY NEGATED WITH VERTICAL BAR
   0DOUBLE-ENDED MULTIMAP,0SQUARE WITH CONTOURED OUTLINE,0INCREASES AS,0SHUFFLE PRODUCT
   0EQUALS SIGN AND SLANTED PARALLEL,5WITH TILDE ABOVE,0IDENTICAL TO AND SLANTED PARALLEL
   0GLEICH STARK,0THERMODYNAMIC,0DOWN-POINTING TRIANGLE WITH LEFT HALF BLACK,4RIGHT+
   0BLACK DIAMOND WITH DOWN ARROW,1LOZENGE,0WHITE CIRCLE WITH DOWN ARROW,0BLACK+
   0ERROR-BARRED WHITE SQUARE,2BLACK+,2WHITE DIAMOND,2BLACK+,2WHITE CIRCLE,2BLACK+,0RULE-DELAYED
   0REVERSE SOLIDUS OPERATOR,0SOLIDUS WITH OVERBAR,0REVERSE SOLIDUS WITH HORIZONTAL STROKE
   0BIG SOLIDUS,1REVERSE SOLIDUS,0DOUBLE PLUS,0TRIPLE+,0LEFT-POINTING CURVED ANGLE BRACKET,0RIGHT+
   0TINY,0MINY,0N-ARY CIRCLED DOT OPERATOR,3PLUS+,3TIMES+,2UNION OPERATOR WITH DOT,5PLUS
   2SQUARE INTERSECTION OPERATOR,3UNION+,0TWO LOGICAL AND OPERATOR,2OR+,0N-ARY TIMES+
   0MODULO TWO SUM,0SUMMATION WITH INTEGRAL,0QUADRUPLE INTEGRAL OPERATOR,0FINITE PART INTEGRAL
   0INTEGRAL WITH DOUBLE STROKE,1AVERAGE WITH SLASH,0CIRCULATION FUNCTION,0ANTICLOCKWISE INTEGRATION
   0LINE INTEGRATION WITH RECTANGULAR PATH AROUND POLE,3SEMICIRCULAR+,2NOT INCLUDING THE POLE
   0INTEGRAL AROUND A POINT OPERATOR,0QUATERNION INTEGRAL OPERATOR
   0INTEGRAL WITH LEFTWARDS ARROW WITH HOOK,2TIMES SIGN,2INTERSECTION,2UNION,2OVERBAR,2UNDERBAR
   0JOIN,0LARGE LEFT TRIANGLE OPERATOR,0Z NOTATION SCHEMA COMPOSITION,3PIPING,3PROJECTION
   0PLUS SIGN WITH SMALL CIRCLE ABOVE,3CIRCUMFLEX ACCENT+,3TILDE ABOVE,3DOT BELOW,3TILDE+
   3SUBSCRIPT TWO,3BLACK TRIANGLE,0MINUS SIGN WITH COMMA ABOVE,3DOT BELOW,3FALLING DOTS,3RISING+
   0PLUS SIGN IN LEFT HALF CIRCLE,3RIGHT+,0VECTOR OR CROSS PRODUCT
   0MULTIPLICATION SIGN WITH DOT ABOVE,3UNDERBAR,0SEMIDIRECT PRODUCT WITH BOTTOM CLOSED
   0SMASH PRODUCT,0MULTIPLICATION SIGN IN LEFT HALF CIRCLE,3RIGHT+
   0CIRCLED MULTIPLICATION SIGN WITH CIRCUMFLEX ACCENT,0MULTIPLICATION SIGN IN DOUBLE CIRCLE
   0CIRCLED DIVISION SIGN,0PLUS SIGN IN TRIANGLE,0MINUS+,0MULTIPLICATION+,0INTERIOR PRODUCT
   0RIGHTHAND INTERIOR PRODUCT,0Z NOTATION RELATIONAL COMPOSITION,0AMALGAMATION OR COPRODUCT
   0INTERSECTION WITH DOT,0UNION WITH MINUS SIGN,2OVERBAR,0INTERSECTION+,2LOGICAL AND
   0UNION WITH LOGICAL OR,1ABOVE INTERSECTION,0INTERSECTION ABOVE UNION
   0UNION ABOVE BAR ABOVE INTERSECTION,0INTERSECTION ABOVE BAR ABOVE UNION
   0UNION BESIDE AND JOINED WITH UNION,0INTERSECTION BESIDE AND JOINED WITH INTERSECTION
   0CLOSED UNION WITH SERIFS,1INTERSECTION+,0DOUBLE SQUARE INTERSECTION,2UNION
   0CLOSED UNION WITH SERIFS AND SMASH PRODUCT,0LOGICAL AND WITH DOT ABOVE,1OR+,0DOUBLE LOGICAL AND
   2OR,0TWO INTERSECTING LOGICAL AND,3OR,0SLOPING LARGE OR,2AND,0LOGICAL OR OVERLAPPING LOGICAL AND
   1AND WITH MIDDLE STEM,1OR+,1AND WITH HORIZONTAL DASH,1OR+,1AND WITH DOUBLE OVERBAR,3UNDERBAR
   3DOUBLE UNDERBAR,0SMALL VEE WITH UNDERBAR,0LOGICAL OR WITH DOUBLE OVERBAR,4UNDERBAR
   0Z NOTATION DOMAIN ANTIRESTRICTION,2RANGE+,0EQUALS SIGN WITH DOT BELOW,0IDENTICAL WITH DOT ABOVE
   0TRIPLE HORIZONTAL BAR WITH DOUBLE VERTICAL STROKE,4TRIPLE+,0TILDE OPERATOR WITH DOT ABOVE
   3RISING DOTS,0SIMILAR MINUS SIMILAR,0CONGRUENT WITH DOT ABOVE,0EQUALS WITH ASTERISK
   0ALMOST EQUAL TO WITH CIRCUMFLEX ACCENT,0APPROXIMATELY EQUAL OR EQUAL TO
   0EQUALS SIGN ABOVE PLUS SIGN,0PLUS SIGN ABOVE EQUALS+,0EQUALS SIGN ABOVE TILDE OPERATOR
   0DOUBLE COLON EQUAL,0TWO CONSECUTIVE EQUALS SIGNS,0THREE+
   0EQUALS SIGN WITH TWO DOTS ABOVE AND TWO DOTS BELOW,0EQUIVALENT WITH FOUR DOTS ABOVE
   0LESS-THAN WITH CIRCLE INSIDE,0GREATER+,0LESS-THAN WITH QUESTION MARK ABOVE,0GREATER+
   0LESS-THAN OR SLANTED EQUAL TO,0GREATER+,0LESS-THAN OR SLANTED EQUAL TO WITH DOT INSIDE,0GREATER+
   0LESS-THAN OR SLANTED EQUAL TO WITH DOT ABOVE,0GREATER+
   0LESS-THAN OR SLANTED EQUAL TO WITH DOT ABOVE RIGHT
   0GREATER-THAN OR SLANTED EQUAL TO WITH DOT ABOVE LEFT,0LESS-THAN OR APPROXIMATE,0GREATER+
   0LESS-THAN AND SINGLE-LINE NOT EQUAL TO,0GREATER+,0LESS-THAN AND NOT APPROXIMATE,0GREATER+
   0LESS-THAN ABOVE DOUBLE-LINE EQUAL ABOVE GREATER-THAN
   0GREATER-THAN ABOVE DOUBLE-LINE EQUAL ABOVE LESS+,0LESS-THAN ABOVE SIMILAR OR EQUAL,0GREATER+
   0LESS-THAN ABOVE SIMILAR ABOVE GREATER-THAN,0GREATER-THAN ABOVE SIMILAR ABOVE LESS+
   0LESS-THAN ABOVE GREATER-THAN ABOVE DOUBLE-LINE EQUAL,0GREATER-THAN ABOVE LESS+
   0LESS-THAN ABOVE SLANTED EQUAL ABOVE GREATER-THAN ABOVE SLANTED EQUAL
   0GREATER-THAN ABOVE SLANTED EQUAL ABOVE LESS+,0SLANTED EQUAL TO OR LESS-THAN,4GREATER+
   4LESS-THAN WITH DOT INSIDE,4GREATER+,0DOUBLE-LINE EQUAL TO OR LESS-THAN,5GREATER+
   2SLANTED EQUAL TO OR LESS-THAN,6GREATER+,0SIMILAR OR LESS-THAN,2GREATER+
   1ABOVE LESS-THAN ABOVE EQUALS SIGN,2GREATER+,0DOUBLE NESTED LESS-THAN,2GREATER+
   2LESS-THAN WITH UNDERBAR,0GREATER-THAN OVERLAPPING LESS-THAN,2BESIDE+,0LESS-THAN CLOSED BY CURVE
   0GREATER+,0LESS-THAN CLOSED BY CURVE ABOVE SLANTED EQUAL,0GREATER+,0SMALLER THAN,0LARGER+
   0SMALLER THAN OR EQUAL TO,0LARGER+,0EQUALS SIGN WITH BUMPY ABOVE
   0PRECEDES ABOVE SINGLE-LINE EQUALS SIGN,0SUCCEEDS+,0PRECEDES ABOVE SINGLE-LINE NOT EQUAL TO
   0SUCCEEDS+,0PRECEDES ABOVE EQUALS SIGN,0SUCCEEDS+,0PRECEDES ABOVE NOT EQUAL TO,0SUCCEEDS+
   0PRECEDES ABOVE ALMOST+,0SUCCEEDS+,0PRECEDES ABOVE NOT ALMOST EQUAL TO,0SUCCEEDS+
   0DOUBLE PRECEDES,1SUCCEEDS,0SUBSET WITH DOT,0SUPERSET+,0SUBSET WITH PLUS SIGN BELOW,0SUPERSET+
   0SUBSET WITH MULTIPLICATION+,0SUPERSET+,0SUBSET OF OR EQUAL TO WITH DOT ABOVE,0SUPERSET+
   0SUBSET OF ABOVE EQUALS SIGN,0SUPERSET+,0SUBSET OF ABOVE TILDE OPERATOR,0SUPERSET+
   0SUBSET OF ABOVE ALMOST EQUAL TO,0SUPERSET+,0SUBSET OF ABOVE NOT+,0SUPERSET+
   0SQUARE LEFT OPEN BOX OPERATOR,1RIGHT+,0CLOSED SUBSET,1SUPERSET,1SUBSET OR EQUAL TO,1SUPERSET+
   0SUBSET ABOVE SUPERSET,0SUPERSET ABOVE SUBSET,0SUBSET+,0SUPERSET ABOVE SUPERSET,1BESIDE SUBSET
   2AND JOINED BY DASH WITH SUBSET,0ELEMENT OF OPENING DOWNWARDS,0PITCHFORK WITH TEE TOP
   0TRANSVERSAL INTERSECTION,0FORKING,0NONFORKING,0SHORT LEFT TACK,1DOWN+,1UP+,0PERPENDICULAR WITH S
   0VERTICAL BAR TRIPLE RIGHT TURNSTILE,0DOUBLE VERTICAL BAR LEFT+,0VERTICAL BAR DOUBLE+
   0DOUBLE VERTICAL BAR DOUBLE LEFT TURNSTILE,0LONG DASH FROM LEFT MEMBER OF DOUBLE VERTICAL
   0SHORT DOWN TACK WITH OVERBAR,1UP TACK WITH UNDERBAR,3ABOVE SHORT DOWN TACK,0DOUBLE DOWN TACK
   1UP+,1STROKE NOT SIGN,0REVERSED DOUBLE STROKE NOT SIGN
   0DOES NOT DIVIDE WITH REVERSED NEGATION SLASH,0VERTICAL LINE WITH CIRCLE ABOVE,4BELOW,0DOWN TACK+
   0PARALLEL WITH HORIZONTAL STROKE,2TILDE OPERATOR,0TRIPLE VERTICAL BAR BINARY RELATION
   3WITH HORIZONTAL STROKE,1COLON OPERATOR,1NESTED LESS-THAN,2GREATER+
   0DOUBLE-LINE SLANTED LESS-THAN OR EQUAL TO,3GREATER+,0TRIPLE SOLIDUS BINARY RELATION
   0LARGE TRIPLE VERTICAL BAR OPERATOR,0DOUBLE SOLIDUS OPERATOR,0WHITE VERTICAL BAR
   0N-ARY WHITE VERTICAL BAR,0NORTH EAST WHITE ARROW,1WEST+,0SOUTH EAST+,1WEST+,0LEFT RIGHT+
   0LEFTWARDS BLACK ARROW,0UPWARDS+,0DOWNWARDS+,0NORTH EAST BLACK ARROW,1WEST+,0SOUTH EAST+,1WEST+
   0LEFT RIGHT+,0UP DOWN+,0RIGHTWARDS ARROW WITH TIP DOWNWARDS,4UPWARDS
   0LEFTWARDS ARROW WITH TIP DOWNWARDS,4UPWARDS,0SQUARE WITH TOP HALF BLACK,2BOTTOM+
   2UPPER RIGHT DIAGONAL HALF BLACK,2LOWER LEFT+,0DIAMOND WITH LEFT HALF BLACK,2RIGHT+,2TOP+
   2BOTTOM+,0DOTTED SQUARE,0BLACK LARGE SQUARE,0WHITE+,0BLACK VERY SMALL SQUARE,0WHITE+
   0BLACK PENTAGON,0WHITE+,1HEXAGON,0BLACK+,0HORIZONTAL BLACK HEXAGON,0BLACK LARGE CIRCLE
   1MEDIUM DIAMOND,0WHITE+,0BLACK MEDIUM LOZENGE,0WHITE+,0BLACK SMALL DIAMOND,2LOZENGE,0WHITE+
   0BLACK HORIZONTAL ELLIPSE,0WHITE+,0BLACK VERTICAL+,0WHITE+,0LEFT ARROW WITH SMALL CIRCLE
   0THREE LEFTWARDS ARROWS,0LEFT ARROW WITH CIRCLED PLUS,0LONG LEFTWARDS SQUIGGLE ARROW
   0LEFTWARDS TWO-HEADED ARROW WITH VERTICAL STROKE,5DOUBLE VERTICAL STROKE,4FROM BAR
   3TRIPLE DASH ARROW,1ARROW WITH DOTTED STEM,3TAIL WITH VERTICAL STROKE,5DOUBLE VERTICAL STROKE
   1TWO-HEADED ARROW WITH TAIL,6WITH VERTICAL STROKE,7DOUBLE VERTICAL STROKE,1ARROW THROUGH X
   0WAVE ARROW POINTING DIRECTLY LEFT,0EQUALS SIGN ABOVE LEFTWARDS ARROW
   0REVERSE TILDE OPERATOR ABOVE LEFTWARDS ARROW,0LEFTWARDS ARROW ABOVE REVERSE ALMOST EQUAL TO
   0RIGHTWARDS ARROW THROUGH GREATER-THAN,3SUPERSET,0LEFTWARDS QUADRUPLE ARROW,0RIGHTWARDS+
   0REVERSE TILDE OPERATOR ABOVE RIGHTWARDS ARROW,0RIGHTWARDS ARROW ABOVE REVERSE ALMOST EQUAL TO
   0TILDE OPERATOR ABOVE LEFTWARDS ARROW,0LEFTWARDS ARROW ABOVE ALMOST EQUAL TO
   3REVERSE TILDE OPERATOR,0RIGHTWARDS+,0DOWNWARDS TRIANGLE-HEADED ZIGZAG ARROW
   0SHORT SLANTED NORTH ARROW,1BACKSLANTED SOUTH+,0WHITE MEDIUM STAR,0BLACK SMALL+,0WHITE+
   0BLACK RIGHT-POINTING PENTAGON,0WHITE+,0HEAVY LARGE CIRCLE,1OVAL WITH OVAL INSIDE
   1CIRCLE WITH CIRCLE+,2,1CIRCLED SALTIRE,0SLANTED NORTH ARROW WITH HOOKED HEAD
   0BACKSLANTED SOUTH ARROW WITH HOOKED TAIL,0SLANTED NORTH ARROW WITH HORIZONTAL+
   0BACKSLANTED SOUTH+,0BENT ARROW POINTING DOWNWARDS THEN NORTH EAST
   0SHORT BENT ARROW POINTING DOWNWARDS THEN NORTH EAST,0LEFTWARDS TRIANGLE-HEADED ARROW,0UPWARDS+
   0RIGHTWARDS+,0DOWNWARDS+,0LEFT RIGHT TRIANGLE-HEADED ARROW,0UP DOWN+,0NORTH WEST+,1EAST+,0SOUTH+
   1WEST+,0LEFTWARDS TRIANGLE-HEADED DASHED+,0UPWARDS+,0RIGHTWARDS+,0DOWNWARDS+
   0CLOCKWISE TRIANGLE-HEADED OPEN CIRCLE ARROW,0ANTICLOCKWISE+
   0LEFTWARDS TRIANGLE-HEADED ARROW TO BAR,0UPWARDS+,0RIGHTWARDS+,0DOWNWARDS+
   2B76:0NORTH WEST TRIANGLE-HEADED ARROW TO BAR,1EAST+,0SOUTH+,1WEST+
   0LEFTWARDS TRIANGLE-HEADED ARROW WITH DOUBLE HORIZONTAL STROKE,0UPWARDS+,0RIGHTWARDS+,0DOWNWARDS+
   0HORIZONTAL TAB KEY,0VERTICAL+
   0LEFTWARDS TRIANGLE-HEADED ARROW OVER RIGHTWARDS TRIANGLE-HEADED ARROW
   0UPWARDS TRIANGLE-HEADED ARROW LEFTWARDS OF DOWNWARDS TRIANGLE-HEADED ARROW
   0RIGHTWARDS TRIANGLE-HEADED ARROW OVER LEFTWARDS TRIANGLE-HEADED ARROW
   0DOWNWARDS TRIANGLE-HEADED ARROW LEFTWARDS OF UPWARDS TRIANGLE-HEADED ARROW
   0LEFTWARDS TRIANGLE-HEADED PAIRED ARROWS,0UPWARDS+,0RIGHTWARDS+,0DOWNWARDS+
   0LEFTWARDS BLACK CIRCLED WHITE ARROW,0UPWARDS+,0RIGHTWARDS+,0DOWNWARDS+
   0ANTICLOCKWISE TRIANGLE-HEADED RIGHT U-SHAPED ARROW,3BOTTOM+,3LEFT+,3TOP+,0RETURN LEFT,1RIGHT
   0NEWLINE LEFT,1RIGHT,0FOUR CORNER ARROWS CIRCLING ANTICLOCKWISE,0RIGHTWARDS BLACK ARROW
   2B97:0SYMBOL FOR TYPE A ELECTRONICS,0THREE-D TOP-LIGHTED LEFTWARDS EQUILATERAL ARROWHEAD
   2RIGHT-LIGHTED UPWARDS+,2TOP-LIGHTED RIGHTWARDS+,2LEFT-LIGHTED DOWNWARDS+
   0BLACK LEFTWARDS EQUILATERAL ARROWHEAD,1UPWARDS+,1RIGHTWARDS+,1DOWNWARDS+
   0DOWNWARDS TRIANGLE-HEADED ARROW WITH LONG TIP LEFTWARDS,7RIGHTWARDS
   0UPWARDS TRIANGLE-HEADED ARROW WITH LONG TIP LEFTWARDS,7RIGHTWARDS
   0LEFTWARDS TRIANGLE-HEADED ARROW WITH LONG TIP UPWARDS,0RIGHTWARDS+
   0LEFTWARDS TRIANGLE-HEADED ARROW WITH LONG TIP DOWNWARDS,0RIGHTWARDS+
   0BLACK CURVED DOWNWARDS AND LEFTWARDS ARROW,4RIGHTWARDS+,2UPWARDS AND LEFTWARDS+,4RIGHTWARDS+
   2LEFTWARDS AND UPWARDS+,2RIGHTWARDS+,2LEFTWARDS AND DOWNWARDS+,2RIGHTWARDS+
   0RIBBON ARROW DOWN LEFT,3RIGHT,2UP LEFT,3RIGHT,2LEFT UP,2RIGHT+,2LEFT DOWN,2RIGHT+
   0UPWARDS WHITE ARROW FROM BAR WITH HORIZONTAL BAR,0UP ARROWHEAD IN A RECTANGLE BOX
   0OVERLAPPING WHITE SQUARES,2AND BLACK SQUARES,1BLACK SQUARES,0BALLOT BOX WITH LIGHT X,0CIRCLED X
   1BOLD X,0BLACK SQUARE CENTRED,1DIAMOND+,0TURNED BLACK PENTAGON,0HORIZONTAL BLACK OCTAGON
   0BLACK OCTAGON,1MEDIUM UP-POINTING TRIANGLE CENTRED,2DOWN+,2LEFT+,2RIGHT+,0NEPTUNE FORM TWO
   0TOP HALF BLACK CIRCLE,0BOTTOM+,0LIGHT FOUR POINTED BLACK CUSP
   0ROTATED LIGHT FOUR POINTED BLACK CUSP,0WHITE FOUR POINTED CUSP,0ROTATED WHITE FOUR POINTED CUSP
   0SQUARE POSITION INDICATOR,0UNCERTAINTY SIGN,0GROUP MARK,0PLUTO FORM TWO,2THREE,2FOUR,2FIVE
   0TRANSPLUTO,0PROSERPINA,0ASTRAEA,0HYGIEA,0PHOLUS,0NESSUS,0WHITE MOON SELENA
   0BLACK DIAMOND ON CROSS,0TRUE LIGHT MOON ARTA,0CUPIDO,0HADES,0ZEUS,0KRONOS,0APOLLON,0ADMETOS
   0VULCANUS,0POSEIDON,0LEFT HALF BLACK STAR,0RIGHT+,0STAR WITH LEFT HALF BLACK,2RIGHT+
   0LEFTWARDS TWO-HEADED ARROW WITH TRIANGLE ARROWHEADS,0UPWARDS+,0RIGHTWARDS+,0DOWNWARDS+
   0ERIS FORM ONE,2TWO,0SEDNA,0RUSSIAN ASTROLOGICAL SYMBOL VIGINTILE,3NOVILE,3QUINTILE,3BINOVILE
   3SENTAGON,3TREDECILE,0EQUALS SIGN WITH INFINITY BELOW,0UNITED SYMBOL,0SEPARATED+,0DOUBLED+
   0PASSED+,0REVERSED RIGHT ANGLE,0HELLSCHREIBER PAUSE SYMBOL,0GLAGOLITIC CAPITAL LETTER AZU,3BUKY
   3VEDE,3GLAGOLI,3DOBRO,3YESTU,3ZHIVETE,3DZELO,3ZEMLJA,3IZHE,3INITIAL IZHE,3I,3DJERVI,3KAKO
   3LJUDIJE,3MYSLITE,3NASHI,3ONU,3POKOJI,3RITSI,3SLOVO,3TVRIDO,3UKU,3FRITU,3HERU,3OTU,3PE,3SHTA,3TSI
   3CHRIVI,3SHA,3YERU,3YERI,3YATI,3SPIDERY HA,3YU,3SMALL YUS,5WITH TAIL,3YO,3IOTATED SMALL YUS
   3BIG YUS,3IOTATED BIG YUS,3FITA,3IZHITSA,3SHTAPIC,3TROKUTASTI A,3LATINATE MYSLITE,3CAUDATE CHRIVI
   1SMALL LETTER AZU,3BUKY,3VEDE,3GLAGOLI,3DOBRO,3YESTU,3ZHIVETE,3DZELO,3ZEMLJA,3IZHE,3INITIAL IZHE
   3I,3DJERVI,3KAKO,3LJUDIJE,3MYSLITE,3NASHI,3ONU,3POKOJI,3RITSI,3SLOVO,3TVRIDO,3UKU,3FRITU,3HERU
   3OTU,3PE,3SHTA,3TSI,3CHRIVI,3SHA,3YERU,3YERI,3YATI,3SPIDERY HA,3YU,3SMALL YUS,5WITH TAIL,3YO
   3IOTATED SMALL YUS,3BIG YUS,3IOTATED BIG YUS,3FITA,3IZHITSA,3SHTAPIC,3TROKUTASTI A
   3LATINATE MYSLITE,3CAUDATE CHRIVI,0LATIN CAPITAL LETTER L WITH DOUBLE BAR,1SMALL+
   1CAPITAL LETTER L WITH MIDDLE TILDE,3P WITH STROKE,3R WITH TAIL,1SMALL LETTER A WITH STROKE
   3T WITH DIAGONAL STROKE,1CAPITAL LETTER H WITH DESCENDER,1SMALL+,1CAPITAL LETTER K+,1SMALL+
   1CAPITAL LETTER Z+,1SMALL+,1CAPITAL LETTER ALPHA,3M WITH HOOK,3TURNED A,4ALPHA
   1SMALL LETTER V WITH RIGHT HOOK,1CAPITAL LETTER W WITH HOOK,1SMALL+,3V WITH CURL
   1CAPITAL LETTER HALF H,1SMALL+,3TAILLESS PHI,3E WITH NOTCH,3TURNED R WITH TAIL
   3O WITH LOW RING INSIDE,1LETTER SMALL CAPITAL TURNED E,1SUBSCRIPT SMALL LETTER J
   0MODIFIER LETTER CAPITAL V,0LATIN CAPITAL LETTER S WITH SWASH TAIL,3Z+
   0COPTIC CAPITAL LETTER ALFA,1SMALL+,1CAPITAL LETTER VIDA,1SMALL+,1CAPITAL LETTER GAMMA,1SMALL+
   1CAPITAL LETTER DALDA,1SMALL+,1CAPITAL LETTER EIE,1SMALL+,1CAPITAL LETTER SOU,1SMALL+
   1CAPITAL LETTER ZATA,1SMALL+,1CAPITAL LETTER HATE,1SMALL+,1CAPITAL LETTER THETHE,1SMALL+
   1CAPITAL LETTER IAUDA,1SMALL+,1CAPITAL LETTER KAPA,1SMALL+,1CAPITAL LETTER LAULA,1SMALL+
   1CAPITAL LETTER MI,1SMALL+,1CAPITAL LETTER NI,1SMALL+,1CAPITAL LETTER KSI,1SMALL+
   1CAPITAL LETTER O,1SMALL+,1CAPITAL LETTER PI,1SMALL+,1CAPITAL LETTER RO,1SMALL+
   1CAPITAL LETTER SIMA,1SMALL+,1CAPITAL LETTER TAU,1SMALL+,1CAPITAL LETTER UA,1SMALL+
   1CAPITAL LETTER FI,1SMALL+,1CAPITAL LETTER KHI,1SMALL+,1CAPITAL LETTER PSI,1SMALL+
   1CAPITAL LETTER OOU,1SMALL+,1CAPITAL LETTER DIALECT-P ALEF,1SMALL+,1CAPITAL LETTER OLD COPTIC AIN
   1SMALL+,1CAPITAL LETTER CRYPTOGRAMMIC EIE,1SMALL+,1CAPITAL LETTER DIALECT-P KAPA,1SMALL+
   1CAPITAL LETTER DIALECT-P NI,1SMALL+,1CAPITAL LETTER CRYPTOGRAMMIC NI,1SMALL+
   1CAPITAL LETTER OLD COPTIC OOU,1SMALL+,1CAPITAL LETTER SAMPI,1SMALL+,1CAPITAL LETTER CROSSED SHEI
   1SMALL+,1CAPITAL LETTER OLD COPTIC SHEI,1SMALL+,1CAPITAL LETTER OLD COPTIC ESH,1SMALL+
   1CAPITAL LETTER AKHMIMIC KHEI,1SMALL+,1CAPITAL LETTER DIALECT-P HORI,1SMALL+
   1CAPITAL LETTER OLD COPTIC+,1SMALL+,1CAPITAL LETTER OLD COPTIC HA,1SMALL+
   1CAPITAL LETTER L-SHAPED+,1SMALL+,1CAPITAL LETTER OLD COPTIC HEI,1SMALL+
   1CAPITAL LETTER OLD COPTIC HAT,1SMALL+,1CAPITAL LETTER OLD COPTIC GANGIA,1SMALL+
   1CAPITAL LETTER OLD COPTIC DJA,1SMALL+,1CAPITAL LETTER OLD COPTIC SHIMA,1SMALL+
   1CAPITAL LETTER OLD NUBIAN+,1SMALL+,1CAPITAL LETTER OLD NUBIAN NGI,1SMALL+
   1CAPITAL LETTER OLD NUBIAN NYI,1SMALL+,1CAPITAL LETTER OLD NUBIAN WAU,1SMALL+,1SYMBOL KAI,2MI RO
   2PI+,2STAUROS,2TAU RO,2KHI+,2SHIMA SIMA,1CAPITAL LETTER CRYPTOGRAMMIC SHEI,1SMALL+
   1CAPITAL LETTER CRYPTOGRAMMIC GANGIA,1SMALL+,1COMBINING NI ABOVE,2SPIRITUS ASPER,3LENIS
   1CAPITAL LETTER BOHAIRIC KHEI,1SMALL+,2CF9:1OLD NUBIAN FULL STOP,3DIRECT QUESTION MARK,3INDIRECT+
   3VERSE DIVIDER,1FRACTION ONE HALF,1FULL STOP,1MORPHOLOGICAL DIVIDER,0GEORGIAN SMALL LETTER AN
   3BAN,3GAN,3DON,3EN,3VIN,3ZEN,3TAN,3IN,3KAN,3LAS,3MAN,3NAR,3ON,3PAR,3ZHAR,3RAE,3SAN,3TAR,3UN,3PHAR
   3KHAR,3GHAN,3QAR,3SHIN,3CHIN,3CAN,3JIL,3CIL,3CHAR,3XAN,3JHAN,3HAE,3HE,3HIE,3WE,3HAR,3HOE,2D27:3YN
   2D2D:3AEN,2D30:0TIFINAGH LETTER YA,2YAB,2YABH,2YAG,2YAGHH,2BERBER ACADEMY YAJ,2YAJ,2YAD,2YADH
   2YADD,2YADDH,2YEY,2YAF,2YAK,2TUAREG YAK,2YAKHH,2YAH,2BERBER ACADEMY YAH,2TUAREG YAH,2YAHH,2YAA
   2YAKH,2TUAREG YAKH,2YAQ,2TUAREG YAQ,2YI,2YAZH,2AHAGGAR YAZH,2TUAREG+,2YAL,2YAM,2YAN,2TUAREG YAGN
   3YANG,2YAP,2YU,2YAR,2YARR,2YAGH,2TUAREG YAGH,2AYER+,2YAS,2YASS,2YASH,2YAT,2YATH,2YACH,2YATT,2YAV
   2YAW,2YAY,2YAZ,2TAWELLEMET YAZ,2YAZZ,2YE,2YO,2D6F:1MODIFIER LETTER LABIALIZATION MARK
   1SEPARATOR MARK,2D7F:1CONSONANT JOINER,0ETHIOPIC SYLLABLE LOA,2MOA,2ROA,2SOA,2SHOA,2BOA,2TOA,2COA
   2NOA,2NYOA,2GLOTTAL OA,2ZOA,2DOA,2DDOA,2JOA,2THOA,2CHOA,2PHOA,2POA,2GGWA,2GGWI,2GGWEE,2GGWE
   2DA0:2SSA,2SSU,2SSI,2SSAA,2SSEE,2SSE,2SSO,2DA8:2CCA,2CCU,2CCI,2CCAA,2CCEE,2CCE,2CCO,2DB0:2ZZA
   2ZZU,2ZZI,2ZZAA,2ZZEE,2ZZE,2ZZO,2DB8:2CCHA,2CCHU,2CCHI,2CCHAA,2CCHEE,2CCHE,2CCHO,2DC0:2QYA,2QYU
   2QYI,2QYAA,2QYEE,2QYE,2QYO,2DC8:2KYA,2KYU,2KYI,2KYAA,2KYEE,2KYE,2KYO,2DD0:2XYA,2XYU,2XYI,2XYAA
   2XYEE,2XYE,2XYO,2DD8:2GYA,2GYU,2GYI,2GYAA,2GYEE,2GYE,2GYO,2DE0:0COMBINING CYRILLIC LETTER BE,3VE
   3GHE,3DE,3ZHE,3ZE,3KA,3EL,3EM,3EN,3O,3PE,3ER,3ES,3TE,3HA,3TSE,3CHE,3SHA,3SHCHA,3FITA,3ES-TE,3A
   3IE,3DJERV,3MONOGRAPH UK,3YAT,3YU,3IOTIFIED A,3LITTLE YUS,3BIG+,3IOTIFIED BIG YUS
   0RIGHT ANGLE SUBSTITUTION MARKER,2DOTTED SUBSTITUTION MARKER,0LEFT SUBSTITUTION BRACKET,0RIGHT+
   0LEFT DOTTED SUBSTITUTION BRACKET,0RIGHT+,0RAISED INTERPOLATION MARKER
   1DOTTED INTERPOLATION MARKER,0DOTTED TRANSPOSITION MARKER,0LEFT TRANSPOSITION BRACKET,0RIGHT+
   0RAISED SQUARE,0LEFT RAISED OMISSION BRACKET,0RIGHT+,0EDITORIAL CORONIS,0PARAGRAPHOS
   0FORKED PARAGRAPHOS,0REVERSED FORKED PARAGRAPHOS,0HYPODIASTOLE,0DOTTED OBELOS,0DOWNWARDS ANCORA
   0UPWARDS+,0DOTTED RIGHT-POINTING ANGLE,0DOUBLE OBLIQUE HYPHEN,0INVERTED INTERROBANG,0PALM BRANCH
   0HYPHEN WITH DIAERESIS,0TILDE WITH RING ABOVE,0LEFT LOW PARAPHRASE BRACKET,0RIGHT+
   0TILDE WITH DOT ABOVE,3BELOW,0LEFT VERTICAL BAR WITH QUILL,0RIGHT+,0TOP LEFT HALF BRACKET,1RIGHT+
   0BOTTOM LEFT+,1RIGHT+,0LEFT SIDEWAYS U+,0RIGHT+,0LEFT DOUBLE PARENTHESIS,0RIGHT+
   0TWO DOTS OVER ONE DOT PUNCTUATION,0ONE DOT OVER TWO DOTS+,0SQUARED FOUR DOT PUNCTUATION
   0FIVE DOT MARK,0REVERSED QUESTION+,0VERTICAL TILDE,0RING POINT,0WORD SEPARATOR MIDDLE DOT
   0TURNED COMMA,0RAISED DOT,1COMMA,0TURNED SEMICOLON,0DAGGER WITH LEFT GUARD,2RIGHT+,0TURNED DAGGER
   0TOP HALF SECTION SIGN,0TWO-EM DASH,0THREE+,0STENOGRAPHIC FULL STOP,0VERTICAL SIX DOTS
   0WIGGLY VERTICAL LINE,0CAPITULUM,0DOUBLE HYPHEN,0REVERSED COMMA
   0DOUBLE LOW-REVERSED-9 QUOTATION MARK,0DASH WITH LEFT UPTURN,0DOUBLE SUSPENSION MARK
   0INVERTED LOW KAVYKA,3WITH KAVYKA ABOVE,0LOW KAVYKA,2WITH DOT,0DOUBLE STACKED COMMA
   0DOTTED SOLIDUS,0TRIPLE DAGGER,0MEDIEVAL COMMA,0PARAGRAPHUS MARK,0PUNCTUS ELEVATUS MARK
   0CORNISH VERSE DIVIDER,0CROSS PATTY WITH RIGHT CROSSBAR,3LEFT+,0TIRONIAN SIGN CAPITAL ET
   0MEDIEVAL EXCLAMATION MARK,1QUESTION+,0LEFT SQUARE BRACKET WITH STROKE,0RIGHT+
   0LEFT SQUARE BRACKET WITH DOUBLE STROKE,0RIGHT+,0TOP HALF LEFT PARENTHESIS,2RIGHT+
   0BOTTOM HALF LEFT+,2RIGHT+,0OBLIQUE HYPHEN,2E80:0CJK RADICAL REPEAT,2CLIFF,2SECOND ONE,3TWO
   3THREE,2PERSON,2BOX,2TABLE,2KNIFE ONE,3TWO,2DIVINATION,2SEAL,2SMALL ONE,3TWO,2LAME ONE,3TWO
   3THREE,3FOUR,2SNAKE,2THREAD,2SNOUT ONE,3TWO,2HEART ONE,3TWO,2HAND,2RAP,2E9B:2CHOKE,2SUN,2MOON
   2DEATH,2MOTHER,2CIVILIAN,2WATER ONE,3TWO,2FIRE,2PAW ONE,3TWO,2SIMPLIFIED HALF TREE TRUNK,2COW
   2DOG,2JADE,2BOLT OF CLOTH,2EYE,2SPIRIT ONE,3TWO,2BAMBOO,2SILK,2C-SIMPLIFIED SILK,2NET ONE,3TWO
   3THREE,3FOUR,2MESH,2SHEEP,2RAM,2EWE,2OLD,2BRUSH ONE,3TWO,2MEAT,2MORTAR,2GRASS ONE,3TWO,3THREE
   2TIGER,2CLOTHES,2WEST ONE,3TWO,2C-SIMPLIFIED SEE,2SIMPLIFIED HORN,2HORN,2C-SIMPLIFIED SPEECH
   4SHELL,2FOOT,2C-SIMPLIFIED CART,2SIMPLIFIED WALK,2WALK ONE,3TWO,2CITY,2C-SIMPLIFIED GOLD
   2LONG ONE,3TWO,2C-SIMPLIFIED LONG,4GATE,2MOUND ONE,3TWO,2RAIN,2BLUE,2C-SIMPLIFIED TANNED LEATHER
   4LEAF,4WIND,4FLY,2EAT ONE,3TWO,3THREE,2C-SIMPLIFIED EAT,2HEAD,2C-SIMPLIFIED HORSE,2BONE,2GHOST
   2C-SIMPLIFIED FISH,4BIRD,4SALT,2SIMPLIFIED WHEAT,3YELLOW,2C-SIMPLIFIED FROG,2J-SIMPLIFIED EVEN
   2C+,2J-SIMPLIFIED TOOTH,2C+,2J-SIMPLIFIED DRAGON,2C+,2TURTLE,2J-SIMPLIFIED TURTLE,2C+
   2F00:0KANGXI RADICAL ONE,2LINE,2DOT,2SLASH,2SECOND,2HOOK,2TWO,2LID,2MAN,2LEGS,2ENTER,2EIGHT
   2DOWN BOX,2COVER,2ICE,2TABLE,2OPEN BOX,2KNIFE,2POWER,2WRAP,2SPOON,2RIGHT OPEN BOX
   2HIDING ENCLOSURE,2TEN,2DIVINATION,2SEAL,2CLIFF,2PRIVATE,2AGAIN,2MOUTH,2ENCLOSURE,2EARTH,2SCHOLAR
   2GO,3SLOWLY,2EVENING,2BIG,2WOMAN,2CHILD,2ROOF,2INCH,2SMALL,2LAME,2CORPSE,2SPROUT,2MOUNTAIN,2RIVER
   2WORK,2ONESELF,2TURBAN,2DRY,2SHORT THREAD,2DOTTED CLIFF,2LONG STRIDE,2TWO HANDS,2SHOOT,2BOW
   2SNOUT,2BRISTLE,2STEP,2HEART,2HALBERD,2DOOR,2HAND,2BRANCH,2RAP,2SCRIPT,2DIPPER,2AXE,2SQUARE,2NOT
   2SUN,2SAY,2MOON,2TREE,2LACK,2STOP,2DEATH,2WEAPON,2DO NOT,2COMPARE,2FUR,2CLAN,2STEAM,2WATER,2FIRE
   2CLAW,2FATHER,2DOUBLE X,2HALF TREE TRUNK,2SLICE,2FANG,2COW,2DOG,2PROFOUND,2JADE,2MELON,2TILE
   2SWEET,2LIFE,2USE,2FIELD,2BOLT OF CLOTH,2SICKNESS,2DOTTED TENT,2WHITE,2SKIN,2DISH,2EYE,2SPEAR
   2ARROW,2STONE,2SPIRIT,2TRACK,2GRAIN,2CAVE,2STAND,2BAMBOO,2RICE,2SILK,2JAR,2NET,2SHEEP,2FEATHER
   2OLD,2AND,2PLOW,2EAR,2BRUSH,2MEAT,2MINISTER,2SELF,2ARRIVE,2MORTAR,2TONGUE,2OPPOSE,2BOAT,2STOPPING
   2COLOR,2GRASS,2TIGER,2INSECT,2BLOOD,2WALK ENCLOSURE,2CLOTHES,2WEST,2SEE,2HORN,2SPEECH,2VALLEY
   2BEAN,2PIG,2BADGER,2SHELL,2RED,2RUN,2FOOT,2BODY,2CART,2BITTER,2MORNING,2WALK,2CITY,2WINE
   2DISTINGUISH,2VILLAGE,2GOLD,2LONG,2GATE,2MOUND,2SLAVE,2SHORT TAILED BIRD,2RAIN,2BLUE,2WRONG,2FACE
   2LEATHER,2TANNED LEATHER,2LEEK,2SOUND,2LEAF,2WIND,2FLY,2EAT,2HEAD,2FRAGRANT,2HORSE,2BONE,2TALL
   2HAIR,2FIGHT,2SACRIFICIAL WINE,2CAULDRON,2GHOST,2FISH,2BIRD,2SALT,2DEER,2WHEAT,2HEMP,2YELLOW
   2MILLET,2BLACK,2EMBROIDERY,2FROG,2TRIPOD,2DRUM,2RAT,2NOSE,2EVEN,2TOOTH,2DRAGON,2TURTLE,2FLUTE
   2FF0:0IDEOGRAPHIC DESCRIPTION CHARACTER LEFT TO RIGHT,3ABOVE TO BELOW,3LEFT TO MIDDLE AND RIGHT
   3ABOVE TO MIDDLE AND BELOW,3FULL SURROUND,3SURROUND FROM ABOVE,5BELOW,5LEFT,5UPPER LEFT,6RIGHT
   5LOWER LEFT,3OVERLAID,3000:1SPACE,1COMMA,1FULL STOP,0DITTO MARK
   0JAPANESE INDUSTRIAL STANDARD SYMBOL,0IDEOGRAPHIC ITERATION MARK,1CLOSING+,1NUMBER ZERO
   0LEFT ANGLE BRACKET,0RIGHT+,0LEFT DOUBLE ANGLE BRACKET,0RIGHT+,0LEFT CORNER BRACKET,0RIGHT+
   0LEFT WHITE CORNER BRACKET,0RIGHT+,0LEFT BLACK LENTICULAR+,0RIGHT+,0POSTAL MARK,0GETA+
   0LEFT TORTOISE SHELL BRACKET,0RIGHT+,0LEFT WHITE LENTICULAR+,0RIGHT+
   0LEFT WHITE TORTOISE SHELL BRACKET,0RIGHT+,0LEFT WHITE SQUARE BRACKET,0RIGHT+,0WAVE DASH
   0REVERSED DOUBLE PRIME QUOTATION MARK,0DOUBLE PRIME QUOTATION MARK
   0LOW DOUBLE PRIME QUOTATION MARK,0POSTAL MARK FACE,0HANGZHOU NUMERAL ONE,2TWO,2THREE,2FOUR,2FIVE
   2SIX,2SEVEN,2EIGHT,2NINE,0IDEOGRAPHIC LEVEL TONE MARK,1RISING+,1DEPARTING+,1ENTERING+
   0HANGUL SINGLE DOT TONE MARK,1DOUBLE+,0WAVY DASH,0VERTICAL KANA REPEAT MARK
   3WITH VOICED SOUND MARK,3MARK UPPER HALF,3WITH VOICED SOUND MARK UPPER HALF,3MARK LOWER HALF
   0CIRCLED POSTAL MARK,0IDEOGRAPHIC TELEGRAPH LINE FEED SEPARATOR SYMBOL,0HANGZHOU NUMERAL TEN
   2TWENTY,2THIRTY,0VERTICAL IDEOGRAPHIC ITERATION MARK,0MASU MARK,0PART ALTERNATION MARK
   0IDEOGRAPHIC VARIATION INDICATOR,1HALF FILL SPACE,3041:0HIRAGANA LETTER SMALL A,2A,2SMALL I,2I
   2SMALL U,2U,2SMALL E,2E,2SMALL O,2O,2KA,2GA,2KI,2GI,2KU,2GU,2KE,2GE,2KO,2GO,2SA,2ZA,2SI,2ZI,2SU
   2ZU,2SE,2ZE,2SO,2ZO,2TA,2DA,2TI,2DI,2SMALL TU,2TU,2DU,2TE,2DE,2TO,2DO,2NA,2NI,2NU,2NE,2NO,2HA,2BA
   2PA,2HI,2BI,2PI,2HU,2BU,2PU,2HE,2BE,2PE,2HO,2BO,2PO,2MA,2MI,2MU,2ME,2MO,2SMALL YA,2YA,2SMALL YU
   2YU,2SMALL YO,2YO,2RA,2RI,2RU,2RE,2RO,2SMALL WA,2WA,2WI,2WE,2WO,2N,2VU,2SMALL KA,3KE
   3099:0COMBINING KATAKANA-HIRAGANA VOICED SOUND MARK,3SEMI-VOICED SOUND MARK
   0KATAKANA-HIRAGANA VOICED SOUND MARK,2SEMI-VOICED SOUND MARK,0HIRAGANA ITERATION MARK
   1VOICED ITERATION MARK,1DIGRAPH YORI,0KATAKANA-HIRAGANA DOUBLE HYPHEN,1LETTER SMALL A,2A,2SMALL I
   2I,2SMALL U,2U,2SMALL E,2E,2SMALL O,2O,2KA,2GA,2KI,2GI,2KU,2GU,2KE,2GE,2KO,2GO,2SA,2ZA,2SI,2ZI
   2SU,2ZU,2SE,2ZE,2SO,2ZO,2TA,2DA,2TI,2DI,2SMALL TU,2TU,2DU,2TE,2DE,2TO,2DO,2NA,2NI,2NU,2NE,2NO,2HA
   2BA,2PA,2HI,2BI,2PI,2HU,2BU,2PU,2HE,2BE,2PE,2HO,2BO,2PO,2MA,2MI,2MU,2ME,2MO,2SMALL YA,2YA
   2SMALL YU,2YU,2SMALL YO,2YO,2RA,2RI,2RU,2RE,2RO,2SMALL WA,2WA,2WI,2WE,2WO,2N,2VU,2SMALL KA,3KE
   2VA,2VI,2VE,2VO,1MIDDLE DOT,1-HIRAGANA PROLONGED SOUND MARK,1ITERATION MARK
   1VOICED ITERATION MARK,1DIGRAPH KOTO,3105:0BOPOMOFO LETTER B,2P,2M,2F,2D,2T,2N,2L,2G,2K,2H,2J,2Q
   2X,2ZH,2CH,2SH,2R,2Z,2C,2S,2A,2O,2E,2EH,2AI,2EI,2AU,2OU,2AN,2EN,2ANG,2ENG,2ER,2I,2U,2IU,2V,2NG
   2GN,2IH,2O WITH DOT ABOVE,2NN,3131:0HANGUL LETTER KIYEOK,2SSANGKIYEOK,2KIYEOK-SIOS,2NIEUN,3-CIEUC
   3-HIEUH,2TIKEUT,2SSANGTIKEUT,2RIEUL,3-KIYEOK,3-MIEUM,3-PIEUP,3-SIOS,3-THIEUTH,3-PHIEUPH,3-HIEUH
   2MIEUM,2PIEUP,2SSANGPIEUP,2PIEUP-SIOS,2SIOS,2SSANGSIOS,2IEUNG,2CIEUC,2SSANGCIEUC,2CHIEUCH
   2KHIEUKH,2THIEUTH,2PHIEUPH,2HIEUH,2A,2AE,2YA,2YAE,2EO,2E,2YEO,2YE,2O,2WA,2WAE,2OE,2YO,2U,2WEO,2WE
   2WI,2YU,2EU,2YI,2I,1FILLER,1LETTER SSANGNIEUN,2NIEUN-TIKEUT,3-SIOS,3-PANSIOS,2RIEUL-KIYEOK-SIOS
   3-TIKEUT,3-PIEUP-SIOS,3-PANSIOS,3-YEORINHIEUH,2MIEUM-PIEUP,3-SIOS,3-PANSIOS,2KAPYEOUNMIEUM
   2PIEUP-KIYEOK,3-TIKEUT,3-SIOS-KIYEOK,4-TIKEUT,3-CIEUC,3-THIEUTH,2KAPYEOUNPIEUP
   2KAPYEOUNSSANGPIEUP,2SIOS-KIYEOK,3-NIEUN,3-TIKEUT,3-PIEUP,3-CIEUC,2PANSIOS,2SSANGIEUNG,2YESIEUNG
   3-SIOS,3-PANSIOS,2KAPYEOUNPHIEUPH,2SSANGHIEUH,2YEORINHIEUH,2YO-YA,3-YAE,3-I,2YU-YEO,3-YE,3-I
   2ARAEA,2ARAEAE,3190:0IDEOGRAPHIC ANNOTATION LINKING MARK,2REVERSE+,2ONE+,2TWO+,2THREE+,2FOUR+
   2TOP+,2MIDDLE+,2BOTTOM+,2FIRST+,2SECOND+,2THIRD+,2FOURTH+,2HEAVEN+,2EARTH+,2MAN+
   0BOPOMOFO LETTER BU,2ZI,2JI,2GU,2EE,2ENN,2OO,2ONN,2IR,2ANN,2INN,2UNN,2IM,2NGG,2AINN,2AUNN,2AM,2OM
   2ONG,2INNN,1FINAL LETTER P,3T,3K,3H,1LETTER GH,2LH,2ZY,1FINAL LETTER G,1LETTER GW,2KW,2OE,2AH
   0CJK STROKE T,2WG,2XG,2BXG,2SW,2HZZ,2HZG,2HP,2HZWG,2SZWG,2HZT,2HZZP,2HPWG,2HZW,2HZZZ,2N,2H,2S,2P
   2SP,2D,2HZ,2HG,2SZ,2SWZ,2ST,2SG,2PD,2PZ,2TN,2SZZ,2SWG,2HXWG,2HZZZG,2PG,2Q
   31F0:0KATAKANA LETTER SMALL KU,3SI,3SU,3TO,3NU,3HA,3HI,3HU,3HE,3HO,3MU,3RA,3RI,3RU,3RE,3RO
   0PARENTHESIZED HANGUL KIYEOK,2NIEUN,2TIKEUT,2RIEUL,2MIEUM,2PIEUP,2SIOS,2IEUNG,2CIEUC,2CHIEUCH
   2KHIEUKH,2THIEUTH,2PHIEUPH,2HIEUH,2KIYEOK A,2NIEUN+,2TIKEUT+,2RIEUL+,2MIEUM+,2PIEUP+,2SIOS+
   2IEUNG+,2CIEUC+,2CHIEUCH+,2KHIEUKH+,2THIEUTH+,2PHIEUPH+,2HIEUH+,2CIEUC U,1KOREAN CHARACTER OJEON
   3O HU,3220:1IDEOGRAPH ONE,2TWO,2THREE,2FOUR,2FIVE,2SIX,2SEVEN,2EIGHT,2NINE,2TEN,2MOON,2FIRE
   2WATER,2WOOD,2METAL,2EARTH,2SUN,2STOCK,2HAVE,2SOCIETY,2NAME,2SPECIAL,2FINANCIAL,2CONGRATULATION
   2LABOR,2REPRESENT,2CALL,2STUDY,2SUPERVISE,2ENTERPRISE,2RESOURCE,2ALLIANCE,2FESTIVAL,2REST,2SELF
   2REACH,0CIRCLED IDEOGRAPH QUESTION,2KINDERGARTEN,2SCHOOL,2KOTO,1NUMBER TEN ON BLACK SQUARE
   2TWENTY+,2THIRTY+,2FORTY+,2FIFTY+,2SIXTY+,2SEVENTY+,2EIGHTY+,0PARTNERSHIP SIGN
   0CIRCLED NUMBER TWENTY ONE,3TWO,3THREE,3FOUR,3FIVE,3SIX,3SEVEN,3EIGHT,3NINE,2THIRTY,3ONE,3TWO
   3THREE,3FOUR,3FIVE,1HANGUL KIYEOK,2NIEUN,2TIKEUT,2RIEUL,2MIEUM,2PIEUP,2SIOS,2IEUNG,2CIEUC
   2CHIEUCH,2KHIEUKH,2THIEUTH,2PHIEUPH,2HIEUH,2KIYEOK A,2NIEUN+,2TIKEUT+,2RIEUL+,2MIEUM+,2PIEUP+
   2SIOS+,2IEUNG+,2CIEUC+,2CHIEUCH+,2KHIEUKH+,2THIEUTH+,2PHIEUPH+,2HIEUH+,1KOREAN CHARACTER CHAMKO
   3JUEUI,1HANGUL IEUNG U,0KOREAN STANDARD SYMBOL,0CIRCLED IDEOGRAPH ONE,2TWO,2THREE,2FOUR,2FIVE
   2SIX,2SEVEN,2EIGHT,2NINE,2TEN,2MOON,2FIRE,2WATER,2WOOD,2METAL,2EARTH,2SUN,2STOCK,2HAVE,2SOCIETY
   2NAME,2SPECIAL,2FINANCIAL,2CONGRATULATION,2LABOR,2SECRET,2MALE,2FEMALE,2SUITABLE,2EXCELLENT
   2PRINT,2ATTENTION,2ITEM,2REST,2COPY,2CORRECT,2HIGH,2CENTRE,2LOW,2LEFT,2RIGHT,2MEDICINE,2RELIGION
   2STUDY,2SUPERVISE,2ENTERPRISE,2RESOURCE,2ALLIANCE,2NIGHT,1NUMBER THIRTY SIX,3SEVEN,3EIGHT,3NINE
   2FORTY,3ONE,3TWO,3THREE,3FOUR,3FIVE,3SIX,3SEVEN,3EIGHT,3NINE,2FIFTY
   0IDEOGRAPHIC TELEGRAPH SYMBOL FOR JANUARY,4FEBRUARY,4MARCH,4APRIL,4MAY,4JUNE,4JULY,4AUGUST
   4SEPTEMBER,4OCTOBER,4NOVEMBER,4DECEMBER,0SQUARE HG,1ERG,1EV,0LIMITED LIABILITY SIGN
   0CIRCLED KATAKANA A,2I,2U,2E,2O,2KA,2KI,2KU,2KE,2KO,2SA,2SI,2SU,2SE,2SO,2TA,2TI,2TU,2TE,2TO,2NA
   2NI,2NU,2NE,2NO,2HA,2HI,2HU,2HE,2HO,2MA,2MI,2MU,2ME,2MO,2YA,2YU,2YO,2RA,2RI,2RU,2RE,2RO,2WA,2WI
   2WE,2WO,0SQUARE ERA NAME REIWA,1APAATO,1ARUHUA,1ANPEA,1AARU,1ININGU,1INTI,1UON,1ESUKUUDO,1EEKAA
   1ONSU,1OOMU,1KAIRI,1KARATTO,1KARORII,1GARON,1GANMA,1GIGA,1GINII,1KYURII,1GIRUDAA,1KIRO
   1KIROGURAMU,1KIROMEETORU,1KIROWATTO,1GURAMU,1GURAMUTON,1KURUZEIRO,1KUROONE,1KEESU,1KORUNA,1KOOPO
   1SAIKURU,1SANTIIMU,1SIRINGU,1SENTI,1SENTO,1DAASU,1DESI,1DORU,1TON,1NANO,1NOTTO,1HAITU,1PAASENTO
   1PAATU,1BAARERU,1PIASUTORU,1PIKURU,1PIKO,1BIRU,1HUARADDO,1HUIITO,1BUSSYERU,1HURAN,1HEKUTAARU
   1PESO,1PENIHI,1HERUTU,1PENSU,1PEEZI,1BEETA,1POINTO,1BORUTO,1HON,1PONDO,1HOORU,1HOON,1MAIKURO
   1MAIRU,1MAHHA,1MARUKU,1MANSYON,1MIKURON,1MIRI,1MIRIBAARU,1MEGA,1MEGATON,1MEETORU,1YAADO,1YAARU
   1YUAN,1RITTORU,1RIRA,1RUPII,1RUUBURU,1REMU,1RENTOGEN,1WATTO
   0IDEOGRAPHIC TELEGRAPH SYMBOL FOR HOUR ZERO,5ONE,5TWO,5THREE,5FOUR,5FIVE,5SIX,5SEVEN,5EIGHT,5NINE
   5TEN,5ELEVEN,5TWELVE,5THIRTEEN,5FOURTEEN,5FIFTEEN,5SIXTEEN,5SEVENTEEN,5EIGHTEEN,5NINETEEN,5TWENTY
   6-ONE,6-TWO,6-THREE,6-FOUR,0SQUARE HPA,1DA,1AU,1BAR,1OV,1PC,1DM,2SQUARED,2CUBED,1IU
   1ERA NAME HEISEI,3SYOUWA,3TAISYOU,3MEIZI,1CORPORATION,1PA AMPS,1NA,1MU A,1MA,1KA,1KB,1MB,1GB,1CAL
   1KCAL,1PF,1NF,1MU F,2G,1MG,1KG,1HZ,1KHZ,1MHZ,1GHZ,1THZ,1MU L,1ML,1DL,1KL,1FM,1NM,1MU M,1MM,1CM
   1KM,1MM SQUARED,1CM+,1M+,1KM+,1MM CUBED,1CM+,1M+,1KM+,1M OVER S,4SQUARED,1PA,1KPA,1MPA,1GPA,1RAD
   2OVER S,4SQUARED,1PS,1NS,1MU S,1MS,1PV,1NV,1MU V,1MV,1KV,1MV MEGA,1PW,1NW,1MU W,1MW,1KW,1MW MEGA
   1K OHM,1M+,1AM,1BQ,1CC,1CD,1C OVER KG,1CO,1DB,1GY,1HA,1HP,1IN,1KK,1KM CAPITAL,1KT,1LM,1LN,1LOG
   1LX,1MB SMALL,1MIL,1MOL,1PH,1PM,1PPM,1PR,1SR,1SV,1WB,1V OVER M,1A+
   0IDEOGRAPHIC TELEGRAPH SYMBOL FOR DAY ONE,5TWO,5THREE,5FOUR,5FIVE,5SIX,5SEVEN,5EIGHT,5NINE,5TEN
   5ELEVEN,5TWELVE,5THIRTEEN,5FOURTEEN,5FIFTEEN,5SIXTEEN,5SEVENTEEN,5EIGHTEEN,5NINETEEN,5TWENTY
   6-ONE,6-TWO,6-THREE,6-FOUR,6-FIVE,6-SIX,6-SEVEN,6-EIGHT,6-NINE,5THIRTY,6-ONE,0SQUARE GAL"

end AddressBook.Text.Name
