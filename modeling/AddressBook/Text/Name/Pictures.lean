namespace AddressBook.Text.Name

def pictures : String :=
  "1F000:0MAHJONG TILE EAST WIND,2SOUTH+,2WEST+,2NORTH+,2RED DRAGON,2GREEN+,2WHITE+
   2ONE OF CHARACTERS,2TWO+,2THREE+,2FOUR+,2FIVE+,2SIX+,2SEVEN+,2EIGHT+,2NINE+,2ONE OF BAMBOOS,2TWO+
   2THREE+,2FOUR+,2FIVE+,2SIX+,2SEVEN+,2EIGHT+,2NINE+,2ONE OF CIRCLES,2TWO+,2THREE+,2FOUR+,2FIVE+
   2SIX+,2SEVEN+,2EIGHT+,2NINE+,2PLUM,2ORCHID,2BAMBOO,2CHRYSANTHEMUM,2SPRING,2SUMMER,2AUTUMN,2WINTER
   2JOKER,2BACK,1F030:0DOMINO TILE HORIZONTAL BACK,3-00-00,4-01,4-02,4-03,4-04,4-05,4-06,3-01-00
   4-01,4-02,4-03,4-04,4-05,4-06,3-02-00,4-01,4-02,4-03,4-04,4-05,4-06,3-03-00,4-01,4-02,4-03,4-04
   4-05,4-06,3-04-00,4-01,4-02,4-03,4-04,4-05,4-06,3-05-00,4-01,4-02,4-03,4-04,4-05,4-06,3-06-00
   4-01,4-02,4-03,4-04,4-05,4-06,2VERTICAL BACK,3-00-00,4-01,4-02,4-03,4-04,4-05,4-06,3-01-00,4-01
   4-02,4-03,4-04,4-05,4-06,3-02-00,4-01,4-02,4-03,4-04,4-05,4-06,3-03-00,4-01,4-02,4-03,4-04,4-05
   4-06,3-04-00,4-01,4-02,4-03,4-04,4-05,4-06,3-05-00,4-01,4-02,4-03,4-04,4-05,4-06,3-06-00,4-01
   4-02,4-03,4-04,4-05,4-06,1F0A0:0PLAYING CARD BACK,2ACE OF SPADES,2TWO+,2THREE+,2FOUR+,2FIVE+
   2SIX+,2SEVEN+,2EIGHT+,2NINE+,2TEN+,2JACK+,2KNIGHT+,2QUEEN+,2KING+,1F0B1:2ACE OF HEARTS,2TWO+
   2THREE+,2FOUR+,2FIVE+,2SIX+,2SEVEN+,2EIGHT+,2NINE+,2TEN+,2JACK+,2KNIGHT+,2QUEEN+,2KING+
   2RED JOKER,1F0C1:2ACE OF DIAMONDS,2TWO+,2THREE+,2FOUR+,2FIVE+,2SIX+,2SEVEN+,2EIGHT+,2NINE+,2TEN+
   2JACK+,2KNIGHT+,2QUEEN+,2KING+,2BLACK JOKER,1F0D1:2ACE OF CLUBS,2TWO+,2THREE+,2FOUR+,2FIVE+,2SIX+
   2SEVEN+,2EIGHT+,2NINE+,2TEN+,2JACK+,2KNIGHT+,2QUEEN+,2KING+,2WHITE JOKER,2FOOL,2TRUMP-1,3-2,3-3
   3-4,3-5,3-6,3-7,3-8,3-9,3-10,3-11,3-12,3-13,3-14,3-15,3-16,3-17,3-18,3-19,3-20,3-21
   1F100:0DIGIT ZERO FULL STOP,2COMMA,1ONE+,1TWO+,1THREE+,1FOUR+,1FIVE+,1SIX+,1SEVEN+,1EIGHT+,1NINE+
   0DINGBAT CIRCLED SANS-SERIF DIGIT ZERO,1NEGATIVE CIRCLED SANS-SERIF DIGIT ZERO
   0CIRCLED ZERO WITH SLASH,1ANTICLOCKWISE ARROW,1DOLLAR SIGN WITH OVERLAID BACKSLASH
   0PARENTHESIZED LATIN CAPITAL LETTER A,4B,4C,4D,4E,4F,4G,4H,4I,4J,4K,4L,4M,4N,4O,4P,4Q,4R,4S,4T,4U
   4V,4W,4X,4Y,4Z,0TORTOISE SHELL BRACKETED LATIN CAPITAL LETTER S
   0CIRCLED ITALIC LATIN CAPITAL LETTER C,5R,1CD,1WZ,0COPYLEFT SYMBOL
   0SQUARED LATIN CAPITAL LETTER A,4B,4C,4D,4E,4F,4G,4H,4I,4J,4K,4L,4M,4N,4O,4P,4Q,4R,4S,4T,4U,4V,4W
   4X,4Y,4Z,1HV,1MV,1SD,1SS,1PPV,1WC,0NEGATIVE CIRCLED LATIN CAPITAL LETTER A,5B,5C,5D,5E,5F,5G,5H
   5I,5J,5K,5L,5M,5N,5O,5P,5Q,5R,5S,5T,5U,5V,5W,5X,5Y,5Z,0RAISED MC SIGN,1MD+,1MR+,0CIRCLED CC
   1C WITH OVERLAID BACKSLASH,1HUMAN FIGURE,0NEGATIVE SQUARED LATIN CAPITAL LETTER A,5B,5C,5D,5E,5F
   5G,5H,5I,5J,5K,5L,5M,5N,5O,5P,5Q,5R,5S,5T,5U,5V,5W,5X,5Y,5Z
   0CROSSED NEGATIVE SQUARED LATIN CAPITAL LETTER P,0NEGATIVE SQUARED IC,2PA,2SA,2AB,2WC,0SQUARE DJ
   0SQUARED CL,1COOL,1FREE,1ID,1NEW,1NG,1OK,1SOS,1UP WITH EXCLAMATION MARK,1VS,1THREE D
   1SECOND SCREEN,1TWO K,1FOUR+,1EIGHT+,1FIVE POINT ONE,1SEVEN+,1TWENTY-TWO POINT TWO,1SIXTY P
   1ONE HUNDRED TWENTY P,1LATIN SMALL LETTER D,1HC,1HDR,1HI-RES,1LOSSLESS,1SHV,1UHD,1VOD
   0MASK WORK SYMBOL,1F1E6:0REGIONAL INDICATOR SYMBOL LETTER A,4B,4C,4D,4E,4F,4G,4H,4I,4J,4K,4L,4M
   4N,4O,4P,4Q,4R,4S,4T,4U,4V,4W,4X,4Y,4Z,0SQUARE HIRAGANA HOKA,0SQUARED KATAKANA KOKO,2SA
   1F210:1CJK UNIFIED IDEOGRAPH-624B,4-5B57,4-53CC,1KATAKANA DE,1CJK UNIFIED IDEOGRAPH-4E8C,4-591A
   4-89E3,4-5929,4-4EA4,4-6620,4-7121,4-6599,4-524D,4-5F8C,4-518D,4-65B0,4-521D,4-7D42,4-751F,4-8CA9
   4-58F0,4-5439,4-6F14,4-6295,4-6355,4-4E00,4-4E09,4-904A,4-5DE6,4-4E2D,4-53F3,4-6307,4-8D70,4-6253
   4-7981,4-7A7A,4-5408,4-6E80,4-6709,4-6708,4-7533,4-5272,4-55B6,4-914D
   1F240:0TORTOISE SHELL BRACKETED CJK UNIFIED IDEOGRAPH-672C,6-4E09,6-4E8C,6-5B89,6-70B9,6-6253
   6-76D7,6-52DD,6-6557,1F250:0CIRCLED IDEOGRAPH ADVANTAGE,2ACCEPT,1F260:0ROUNDED SYMBOL FOR FU,3LU
   3SHOU,3XI,3SHUANGXI,3CAI,1F300:0CYCLONE,0FOGGY,0CLOSED UMBRELLA,0NIGHT WITH STARS
   0SUNRISE OVER MOUNTAINS,1,0CITYSCAPE AT DUSK,0SUNSET OVER BUILDINGS,0RAINBOW,0BRIDGE AT NIGHT
   0WATER WAVE,0VOLCANO,0MILKY WAY,0EARTH GLOBE EUROPE-AFRICA,2AMERICAS,2ASIA-AUSTRALIA
   0GLOBE WITH MERIDIANS,0NEW MOON SYMBOL,0WAXING CRESCENT MOON SYMBOL,0FIRST QUARTER+
   0WAXING GIBBOUS+,0FULL MOON SYMBOL,0WANING GIBBOUS MOON SYMBOL,0LAST QUARTER+,0WANING CRESCENT+
   0CRESCENT MOON,0NEW MOON WITH FACE,0FIRST QUARTER MOON WITH FACE,0LAST+,0FULL MOON WITH FACE
   0SUN WITH FACE,0GLOWING STAR,0SHOOTING+,0THERMOMETER,0BLACK DROPLET,0WHITE SUN,2WITH SMALL CLOUD
   2BEHIND CLOUD,4WITH RAIN,0CLOUD WITH RAIN,2SNOW,2LIGHTNING,2TORNADO,0FOG,0WIND BLOWING FACE
   0HOT DOG,0TACO,0BURRITO,0CHESTNUT,0SEEDLING,0EVERGREEN TREE,0DECIDUOUS+,0PALM+,0CACTUS
   0HOT PEPPER,0TULIP,0CHERRY BLOSSOM,0ROSE,0HIBISCUS,0SUNFLOWER,0BLOSSOM,0EAR OF MAIZE,2RICE,0HERB
   0FOUR LEAF CLOVER,0MAPLE LEAF,0FALLEN+,0LEAF FLUTTERING IN WIND,0MUSHROOM,0TOMATO,0AUBERGINE
   0GRAPES,0MELON,0WATERMELON,0TANGERINE,0LEMON,0BANANA,0PINEAPPLE,0RED APPLE,0GREEN+,0PEAR,0PEACH
   0CHERRIES,0STRAWBERRY,0HAMBURGER,0SLICE OF PIZZA,0MEAT ON BONE,0POULTRY LEG,0RICE CRACKER,1BALL
   0COOKED RICE,0CURRY AND RICE,0STEAMING BOWL,0SPAGHETTI,0BREAD,0FRENCH FRIES,0ROASTED SWEET POTATO
   0DANGO,0ODEN,0SUSHI,0FRIED SHRIMP,0FISH CAKE WITH SWIRL DESIGN,0SOFT ICE CREAM,0SHAVED ICE
   0ICE CREAM,0DOUGHNUT,0COOKIE,0CHOCOLATE BAR,0CANDY,0LOLLIPOP,0CUSTARD,0HONEY POT,0SHORTCAKE
   0BENTO BOX,0POT OF FOOD,0COOKING,0FORK AND KNIFE,0TEACUP WITHOUT HANDLE,0SAKE BOTTLE AND CUP
   0WINE GLASS,0COCKTAIL+,0TROPICAL DRINK,0BEER MUG,0CLINKING BEER MUGS,0BABY BOTTLE
   0FORK AND KNIFE WITH PLATE,0BOTTLE WITH POPPING CORK,0POPCORN,0RIBBON,0WRAPPED PRESENT
   0BIRTHDAY CAKE,0JACK-O-LANTERN,0CHRISTMAS TREE,0FATHER CHRISTMAS,0FIREWORKS,0FIREWORK SPARKLER
   0BALLOON,0PARTY POPPER,0CONFETTI BALL,0TANABATA TREE,0CROSSED FLAGS,0PINE DECORATION
   0JAPANESE DOLLS,0CARP STREAMER,0WIND CHIME,0MOON VIEWING CEREMONY,0SCHOOL SATCHEL,0GRADUATION CAP
   0HEART WITH TIP ON THE LEFT,0BOUQUET OF FLOWERS,0MILITARY MEDAL,0REMINDER RIBBON
   0MUSICAL KEYBOARD WITH JACKS,0STUDIO MICROPHONE,0LEVEL SLIDER,0CONTROL KNOBS
   0BEAMED ASCENDING MUSICAL NOTES,1DESCENDING+,0FILM FRAMES,0ADMISSION TICKETS,0CAROUSEL HORSE
   0FERRIS WHEEL,0ROLLER COASTER,0FISHING POLE AND FISH,0MICROPHONE,0MOVIE CAMERA,0CINEMA,0HEADPHONE
   0ARTIST PALETTE,0TOP HAT,0CIRCUS TENT,0TICKET,0CLAPPER BOARD,0PERFORMING ARTS,0VIDEO GAME
   0DIRECT HIT,0SLOT MACHINE,0BILLIARDS,0GAME DIE,0BOWLING,0FLOWER PLAYING CARDS,0MUSICAL NOTE
   0MULTIPLE MUSICAL NOTES,0SAXOPHONE,0GUITAR,0MUSICAL KEYBOARD,0TRUMPET,0VIOLIN,0MUSICAL SCORE
   0RUNNING SHIRT WITH SASH,0TENNIS RACQUET AND BALL,0SKI AND SKI BOOT,0BASKETBALL AND HOOP
   0CHEQUERED FLAG,0SNOWBOARDER,0RUNNER,0SURFER,0SPORTS MEDAL,0TROPHY,0HORSE RACING
   0AMERICAN FOOTBALL,0RUGBY+,0SWIMMER,0WEIGHT LIFTER,0GOLFER,0RACING MOTORCYCLE,1CAR
   0CRICKET BAT AND BALL,0VOLLEYBALL,0FIELD HOCKEY STICK AND BALL,0ICE HOCKEY STICK AND PUCK
   0TABLE TENNIS PADDLE AND BALL,0SNOW CAPPED MOUNTAIN,0CAMPING,0BEACH WITH UMBRELLA
   0BUILDING CONSTRUCTION,0HOUSE BUILDINGS,0CITYSCAPE,0DERELICT HOUSE BUILDING,0CLASSICAL BUILDING
   0DESERT,1ISLAND,0NATIONAL PARK,0STADIUM,0HOUSE BUILDING,1WITH GARDEN,0OFFICE BUILDING
   0JAPANESE POST OFFICE,0EUROPEAN+,0HOSPITAL,0BANK,0AUTOMATED TELLER MACHINE,0HOTEL,0LOVE HOTEL
   0CONVENIENCE STORE,0SCHOOL,0DEPARTMENT STORE,0FACTORY,0IZAKAYA LANTERN,0JAPANESE CASTLE
   0EUROPEAN+,0WHITE PENNANT,0BLACK+,0WAVING WHITE FLAG,1BLACK+,0ROSETTE,0BLACK ROSETTE,0LABEL
   0BADMINTON RACQUET AND SHUTTLECOCK,0BOW AND ARROW,0AMPHORA,0EMOJI MODIFIER FITZPATRICK TYPE-1-2
   4-3,4-4,4-5,4-6,0RAT,0MOUSE,0OX,0WATER BUFFALO,0COW,0TIGER,0LEOPARD,0RABBIT,0CAT,0DRAGON
   0CROCODILE,0WHALE,0SNAIL,0SNAKE,0HORSE,0RAM,0GOAT,0SHEEP,0MONKEY,0ROOSTER,0CHICKEN,0DOG,0PIG
   0BOAR,0ELEPHANT,0OCTOPUS,0SPIRAL SHELL,0BUG,0ANT,0HONEYBEE,0LADY BEETLE,0FISH,0TROPICAL FISH
   0BLOWFISH,0TURTLE,0HATCHING CHICK,0BABY+,0FRONT-FACING BABY CHICK,0BIRD,0PENGUIN,0KOALA,0POODLE
   0DROMEDARY CAMEL,0BACTRIAN+,0DOLPHIN,0MOUSE FACE,0COW+,0TIGER+,0RABBIT+,0CAT+,0DRAGON+
   0SPOUTING WHALE,0HORSE FACE,0MONKEY+,0DOG+,0PIG+,0FROG+,0HAMSTER+,0WOLF+,0BEAR+,0PANDA+,0PIG NOSE
   0PAW PRINTS,0CHIPMUNK,0EYES,0EYE,0EAR,0NOSE,0MOUTH,0TONGUE,0WHITE UP POINTING BACKHAND INDEX
   1DOWN+,1LEFT+,1RIGHT+,0FISTED HAND SIGN,0WAVING+,0OK+,0THUMBS UP+,1DOWN+,0CLAPPING HANDS+,0OPEN+
   0CROWN,0WOMANS HAT,0EYEGLASSES,0NECKTIE,0T-SHIRT,0JEANS,0DRESS,0KIMONO,0BIKINI,0WOMANS CLOTHES
   0PURSE,0HANDBAG,0POUCH,0MANS SHOE,0ATHLETIC+,0HIGH-HEELED SHOE,0WOMANS SANDAL,1BOOTS,0FOOTPRINTS
   0BUST IN SILHOUETTE,0BUSTS+,0BOY,0GIRL,0MAN,0WOMAN,0FAMILY,0MAN AND WOMAN HOLDING HANDS
   0TWO MEN HOLDING HANDS,1WOMEN+,0POLICE OFFICER,0WOMAN WITH BUNNY EARS,0BRIDE WITH VEIL
   0PERSON WITH BLOND HAIR,0MAN WITH GUA PI MAO,2TURBAN,0OLDER MAN,1WOMAN,0BABY,0CONSTRUCTION WORKER
   0PRINCESS,0JAPANESE OGRE,1GOBLIN,0GHOST,0BABY ANGEL,0EXTRATERRESTRIAL ALIEN,0ALIEN MONSTER,0IMP
   0SKULL,0INFORMATION DESK PERSON,0GUARDSMAN,0DANCER,0LIPSTICK,0NAIL POLISH,0FACE MASSAGE,0HAIRCUT
   0BARBER POLE,0SYRINGE,0PILL,0KISS MARK,0LOVE LETTER,0RING,0GEM STONE,0KISS,0BOUQUET
   0COUPLE WITH HEART,0WEDDING,0BEATING HEART,0BROKEN+,0TWO HEARTS,0SPARKLING HEART,0GROWING+
   0HEART WITH ARROW,0BLUE HEART,0GREEN+,0YELLOW+,0PURPLE+,0HEART WITH RIBBON,0REVOLVING HEARTS
   0HEART DECORATION,0DIAMOND SHAPE WITH A DOT INSIDE,0ELECTRIC LIGHT BULB,0ANGER SYMBOL,0BOMB
   0SLEEPING SYMBOL,0COLLISION+,0SPLASHING SWEAT SYMBOL,0DROPLET,0DASH SYMBOL,0PILE OF POO
   0FLEXED BICEPS,0DIZZY SYMBOL,0SPEECH BALLOON,0THOUGHT+,0WHITE FLOWER,0HUNDRED POINTS SYMBOL
   0MONEY BAG,0CURRENCY EXCHANGE,0HEAVY DOLLAR SIGN,0CREDIT CARD,0BANKNOTE WITH YEN SIGN,2DOLLAR+
   2EURO+,2POUND+,0MONEY WITH WINGS,0CHART WITH UPWARDS TREND AND YEN SIGN,0SEAT,0PERSONAL COMPUTER
   0BRIEFCASE,0MINIDISC,0FLOPPY DISK,0OPTICAL DISC,0DVD,0FILE FOLDER,0OPEN FILE FOLDER
   0PAGE WITH CURL,1FACING UP,0CALENDAR,0TEAR-OFF CALENDAR,0CARD INDEX,0CHART WITH UPWARDS TREND
   2DOWNWARDS+,0BAR CHART,0CLIPBOARD,0PUSHPIN,0ROUND PUSHPIN,0PAPERCLIP,0STRAIGHT RULER,0TRIANGULAR+
   0BOOKMARK TABS,0LEDGER,0NOTEBOOK,1WITH DECORATIVE COVER,0CLOSED BOOK,0OPEN+,0GREEN+,0BLUE+
   0ORANGE+,0BOOKS,0NAME BADGE,0SCROLL,0MEMO,0TELEPHONE RECEIVER,0PAGER,0FAX MACHINE
   0SATELLITE ANTENNA,0PUBLIC ADDRESS LOUDSPEAKER,0CHEERING MEGAPHONE,0OUTBOX TRAY,0INBOX+,0PACKAGE
   0E-MAIL SYMBOL,0INCOMING ENVELOPE,0ENVELOPE WITH DOWNWARDS ARROW ABOVE
   0CLOSED MAILBOX WITH LOWERED FLAG,3RAISED+,0OPEN+,3LOWERED+,0POSTBOX,0POSTAL HORN,0NEWSPAPER
   0MOBILE PHONE,2WITH RIGHTWARDS ARROW AT LEFT,0VIBRATION MODE,0MOBILE PHONE OFF,0NO MOBILE PHONES
   0ANTENNA WITH BARS,0CAMERA,1WITH FLASH,0VIDEO CAMERA,0TELEVISION,0RADIO,0VIDEOCASSETTE
   0FILM PROJECTOR,0PORTABLE STEREO,0PRAYER BEADS,0TWISTED RIGHTWARDS ARROWS
   0CLOCKWISE RIGHTWARDS AND LEFTWARDS OPEN CIRCLE ARROWS,7WITH CIRCLED ONE OVERLAY
   1DOWNWARDS AND UPWARDS OPEN CIRCLE ARROWS,0ANTICLOCKWISE+,0LOW BRIGHTNESS SYMBOL,0HIGH+
   0SPEAKER WITH CANCELLATION STROKE,1,1WITH ONE SOUND WAVE,2THREE SOUND WAVES,0BATTERY
   0ELECTRIC PLUG,0LEFT-POINTING MAGNIFYING GLASS,0RIGHT+,0LOCK WITH INK PEN,0CLOSED LOCK WITH KEY
   0KEY,0LOCK,0OPEN LOCK,0BELL,1WITH CANCELLATION STROKE,0BOOKMARK,0LINK SYMBOL,0RADIO BUTTON
   0BACK WITH LEFTWARDS ARROW ABOVE,0END+,0ON WITH EXCLAMATION MARK WITH LEFT RIGHT ARROW ABOVE
   0SOON WITH RIGHTWARDS ARROW ABOVE,0TOP WITH UPWARDS+,0NO ONE UNDER EIGHTEEN SYMBOL,0KEYCAP TEN
   0INPUT SYMBOL FOR LATIN CAPITAL LETTERS,4SMALL+,3NUMBERS,3SYMBOLS,3LATIN LETTERS,0FIRE
   0ELECTRIC TORCH,0WRENCH,0HAMMER,0NUT AND BOLT,0HOCHO,0PISTOL,0MICROSCOPE,0TELESCOPE,0CRYSTAL BALL
   0SIX POINTED STAR WITH MIDDLE DOT,0JAPANESE SYMBOL FOR BEGINNER,0TRIDENT EMBLEM
   0BLACK SQUARE BUTTON,0WHITE+,0LARGE RED CIRCLE,1BLUE+,1ORANGE DIAMOND,1BLUE+,0SMALL ORANGE+
   1BLUE+,0UP-POINTING RED TRIANGLE,0DOWN+,0UP-POINTING SMALL RED TRIANGLE,0DOWN+
   0LOWER RIGHT SHADOWED WHITE CIRCLE,0UPPER+,0CIRCLED CROSS POMMEE
   0CROSS POMMEE WITH HALF-CIRCLE BELOW,2,0NOTCHED LEFT SEMICIRCLE WITH THREE DOTS,1RIGHT+
   0SYMBOL FOR MARKS CHAPTER,0WHITE LATIN CROSS,0HEAVY+,0CELTIC CROSS,0OM SYMBOL,0DOVE OF PEACE
   0KAABA,0MOSQUE,0SYNAGOGUE,0MENORAH WITH NINE BRANCHES,0BOWL OF HYGIEIA,0CLOCK FACE ONE OCLOCK
   2TWO+,2THREE+,2FOUR+,2FIVE+,2SIX+,2SEVEN+,2EIGHT+,2NINE+,2TEN+,2ELEVEN+,2TWELVE+,2ONE-THIRTY
   2TWO+,2THREE+,2FOUR+,2FIVE+,2SIX+,2SEVEN+,2EIGHT+,2NINE+,2TEN+,2ELEVEN+,2TWELVE+,0RIGHT SPEAKER
   2WITH ONE SOUND WAVE,3THREE SOUND WAVES,0BULLHORN,1WITH SOUND WAVES,0RINGING BELL,0BOOK,0CANDLE
   0MANTELPIECE CLOCK,0BLACK SKULL AND CROSSBONES,0NO PIRACY,0HOLE,0MAN IN BUSINESS SUIT LEVITATING
   0SLEUTH OR SPY,0DARK SUNGLASSES,0SPIDER,1WEB,0JOYSTICK,0MAN DANCING,0LEFT HAND TELEPHONE RECEIVER
   0TELEPHONE RECEIVER WITH PAGE,0RIGHT HAND TELEPHONE RECEIVER,0WHITE TOUCHTONE TELEPHONE,0BLACK+
   0TELEPHONE ON TOP OF MODEM,0CLAMSHELL MOBILE PHONE,0BACK OF ENVELOPE,0STAMPED ENVELOPE
   0ENVELOPE WITH LIGHTNING,0FLYING ENVELOPE,0PEN OVER STAMPED ENVELOPE,0LINKED PAPERCLIPS
   0BLACK PUSHPIN,0LOWER LEFT PENCIL,2BALLPOINT PEN,2FOUNTAIN+,2PAINTBRUSH,2CRAYON
   0LEFT WRITING HAND,0TURNED OK HAND SIGN,0RAISED HAND WITH FINGERS SPLAYED
   0REVERSED RAISED HAND WITH FINGERS SPLAYED,1THUMBS UP SIGN,2DOWN+,1VICTORY HAND
   1HAND WITH MIDDLE FINGER EXTENDED,0RAISED HAND WITH PART BETWEEN MIDDLE AND RING FINGERS
   0WHITE DOWN POINTING LEFT HAND INDEX,0SIDEWAYS WHITE LEFT POINTING INDEX,2RIGHT+,1BLACK LEFT+
   2RIGHT+,0BLACK LEFT POINTING BACKHAND+,1RIGHT+,0SIDEWAYS WHITE UP POINTING+,2DOWN+,1BLACK UP+
   2DOWN+,0BLACK UP POINTING BACKHAND+,1DOWN+,1HEART,0DESKTOP COMPUTER,0KEYBOARD AND MOUSE
   0THREE NETWORKED COMPUTERS,0PRINTER,0POCKET CALCULATOR,0BLACK HARD SHELL FLOPPY DISK,0WHITE+
   0SOFT SHELL FLOPPY DISK,0TAPE CARTRIDGE,0WIRED KEYBOARD,0ONE BUTTON MOUSE,0TWO+,0THREE+
   0TRACKBALL,0OLD PERSONAL COMPUTER,0HARD DISK,0SCREEN,0PRINTER ICON,0FAX+,0OPTICAL DISC ICON
   0DOCUMENT WITH TEXT,3AND PICTURE,2PICTURE,0FRAME+,2TILES,2AN X,0BLACK FOLDER,0FOLDER,0OPEN FOLDER
   0CARD INDEX DIVIDERS,1FILE BOX,0FILE CABINET,0EMPTY NOTE,2PAGE,2PAD,0NOTE,1PAGE,1PAD
   0EMPTY DOCUMENT,1PAGE,1PAGES,0DOCUMENT,0PAGE,0PAGES,0WASTEBASKET,0SPIRAL NOTE PAD,1CALENDAR+
   0DESKTOP WINDOW,0MINIMIZE,0MAXIMIZE,0OVERLAP,0CLOCKWISE RIGHT AND LEFT SEMICIRCLE ARROWS
   0CANCELLATION X,0INCREASE FONT SIZE SYMBOL,0DECREASE+,0COMPRESSION,0OLD KEY,0ROLLED-UP NEWSPAPER
   0PAGE WITH CIRCLED TEXT,0STOCK CHART,0DAGGER KNIFE,0LIPS,0SPEAKING HEAD IN SILHOUETTE
   0THREE RAYS ABOVE,2BELOW,2LEFT,2RIGHT,0LEFT SPEECH BUBBLE,0RIGHT+,0TWO SPEECH BUBBLES,0THREE+
   0LEFT THOUGHT BUBBLE,0RIGHT+,0LEFT ANGER+,0RIGHT+,0MOOD BUBBLE,0LIGHTNING MOOD BUBBLE,2
   0BALLOT BOX WITH BALLOT,1SCRIPT X,1BOX WITH SCRIPT X,1BOLD SCRIPT X,1BOX WITH BOLD SCRIPT X
   0LIGHT CHECK MARK,0BALLOT BOX WITH BOLD CHECK,0WORLD MAP,0MOUNT FUJI,0TOKYO TOWER
   0STATUE OF LIBERTY,0SILHOUETTE OF JAPAN,0MOYAI,0GRINNING FACE,2WITH SMILING EYES
   0FACE WITH TEARS OF JOY,0SMILING FACE WITH OPEN MOUTH,5AND SMILING EYES,6COLD SWEAT
   6TIGHTLY-CLOSED EYES,3HALO,3HORNS,0WINKING FACE,0SMILING FACE WITH SMILING EYES
   0FACE SAVOURING DELICIOUS FOOD,0RELIEVED FACE,0SMILING FACE WITH HEART-SHAPED EYES,3SUNGLASSES
   0SMIRKING FACE,0NEUTRAL+,0EXPRESSIONLESS+,0UNAMUSED+,0FACE WITH COLD SWEAT,0PENSIVE FACE
   0CONFUSED+,0CONFOUNDED+,0KISSING+,0FACE THROWING A KISS,0KISSING FACE WITH SMILING EYES,3CLOSED+
   0FACE WITH STUCK-OUT TONGUE,5AND WINKING EYE,6TIGHTLY-CLOSED EYES,0DISAPPOINTED FACE,0WORRIED+
   0ANGRY+,0POUTING+,0CRYING+,0PERSEVERING+,0FACE WITH LOOK OF TRIUMPH
   0DISAPPOINTED BUT RELIEVED FACE,0FROWNING FACE WITH OPEN MOUTH,0ANGUISHED FACE,0FEARFUL+,0WEARY+
   0SLEEPY+,0TIRED+,0GRIMACING+,0LOUDLY CRYING FACE,0FACE WITH OPEN MOUTH,0HUSHED FACE
   0FACE WITH OPEN MOUTH AND COLD SWEAT,1SCREAMING IN FEAR,0ASTONISHED FACE,0FLUSHED+,0SLEEPING+
   0DIZZY+,0FACE WITHOUT MOUTH,1WITH MEDICAL MASK,0GRINNING CAT FACE WITH SMILING EYES
   0CAT FACE WITH TEARS OF JOY,0SMILING CAT FACE WITH OPEN MOUTH,4HEART-SHAPED EYES
   0CAT FACE WITH WRY SMILE,0KISSING CAT FACE WITH CLOSED EYES,0POUTING CAT FACE,0CRYING+,0WEARY+
   0SLIGHTLY FROWNING+,1SMILING+,0UPSIDE-DOWN+,0FACE WITH ROLLING EYES,2NO GOOD GESTURE,2OK GESTURE
   0PERSON BOWING DEEPLY,0SEE-NO-EVIL MONKEY,0HEAR+,0SPEAK+,0HAPPY PERSON RAISING ONE HAND
   0PERSON RAISING BOTH HANDS IN CELEBRATION,1FROWNING,1WITH POUTING FACE,2FOLDED HANDS
   0NORTH WEST POINTING LEAF,0SOUTH+,0NORTH EAST+,0SOUTH+,0TURNED NORTH WEST POINTING LEAF,1SOUTH+
   1NORTH EAST+,1SOUTH+,0NORTH WEST POINTING VINE+,0SOUTH+,0NORTH EAST+,0SOUTH+
   0HEAVY NORTH WEST POINTING VINE LEAF,1SOUTH+,1NORTH EAST+,1SOUTH+,0NORTH WEST POINTING BUD
   0SOUTH+,0NORTH EAST+,0SOUTH+,0HEAVY NORTH WEST POINTING BUD,1SOUTH+,1NORTH EAST+,1SOUTH+
   0HOLLOW QUILT SQUARE ORNAMENT,4IN BLACK SQUARE,0SOLID QUILT SQUARE ORNAMENT,4IN BLACK SQUARE
   0LEFTWARDS ROCKET,0UPWARDS+,0RIGHTWARDS+,0DOWNWARDS+,0SCRIPT LIGATURE ET ORNAMENT
   0HEAVY SCRIPT LIGATURE ET ORNAMENT,0LIGATURE OPEN ET ORNAMENT,0HEAVY LIGATURE OPEN ET ORNAMENT
   1AMPERSAND ORNAMENT,0SWASH+,0SANS-SERIF HEAVY DOUBLE TURNED COMMA QUOTATION MARK ORNAMENT
   4COMMA QUOTATION MARK ORNAMENT,3LOW DOUBLE COMMA QUOTATION MARK ORNAMENT
   0HEAVY INTERROBANG ORNAMENT,0SANS-SERIF INTERROBANG ORNAMENT
   0HEAVY SANS-SERIF INTERROBANG ORNAMENT,0VERY HEAVY SOLIDUS,2REVERSE SOLIDUS,0CHECKER BOARD
   0REVERSE CHECKER BOARD,0ROCKET,0HELICOPTER,0STEAM LOCOMOTIVE,0RAILWAY CAR,0HIGH-SPEED TRAIN
   3WITH BULLET NOSE,0TRAIN,0METRO,0LIGHT RAIL,0STATION,0TRAM,1CAR,0BUS,0ONCOMING BUS,0TROLLEYBUS
   0BUS STOP,0MINIBUS,0AMBULANCE,0FIRE ENGINE,0POLICE CAR,0ONCOMING POLICE CAR,0TAXI,0ONCOMING TAXI
   0AUTOMOBILE,0ONCOMING AUTOMOBILE,0RECREATIONAL VEHICLE,0DELIVERY TRUCK,0ARTICULATED LORRY
   0TRACTOR,0MONORAIL,0MOUNTAIN RAILWAY,0SUSPENSION+,0MOUNTAIN CABLEWAY,0AERIAL TRAMWAY,0SHIP
   0ROWBOAT,0SPEEDBOAT,0HORIZONTAL TRAFFIC LIGHT,0VERTICAL+,0CONSTRUCTION SIGN
   0POLICE CARS REVOLVING LIGHT,0TRIANGULAR FLAG ON POST,0DOOR,0NO ENTRY SIGN,0SMOKING SYMBOL
   0NO SMOKING SYMBOL,0PUT LITTER IN ITS PLACE SYMBOL,0DO NOT LITTER SYMBOL,0POTABLE WATER SYMBOL
   0NON-POTABLE WATER SYMBOL,0BICYCLE,0NO BICYCLES,0BICYCLIST,0MOUNTAIN BICYCLIST,0PEDESTRIAN
   0NO PEDESTRIANS,0CHILDREN CROSSING,0MENS SYMBOL,0WOMENS+,0RESTROOM,0BABY SYMBOL,0TOILET
   0WATER CLOSET,0SHOWER,0BATH,0BATHTUB,0PASSPORT CONTROL,0CUSTOMS,0BAGGAGE CLAIM,0LEFT LUGGAGE
   0TRIANGLE WITH ROUNDED CORNERS,0PROHIBITED SIGN,0CIRCLED INFORMATION SOURCE,0BOYS SYMBOL,0GIRLS+
   0COUCH AND LAMP,0SLEEPING ACCOMMODATION,0SHOPPING BAGS,0BELLHOP BELL,0BED,0PLACE OF WORSHIP
   0OCTAGONAL SIGN,0SHOPPING TROLLEY,0STUPA,0PAGODA,0HINDU TEMPLE,0HUT,0ELEVATOR
   1F6DD:0PLAYGROUND SLIDE,0WHEEL,0RING BUOY,0HAMMER AND WRENCH,0SHIELD,0OIL DRUM,0MOTORWAY
   0RAILWAY TRACK,0MOTOR BOAT,0UP-POINTING MILITARY AIRPLANE,2AIRPLANE,2SMALL AIRPLANE
   0SMALL AIRPLANE,0NORTHEAST-POINTING AIRPLANE,0AIRPLANE DEPARTURE,1ARRIVING,1F6F0:0SATELLITE
   0ONCOMING FIRE ENGINE,0DIESEL LOCOMOTIVE,0PASSENGER SHIP,0SCOOTER,0MOTOR SCOOTER,0CANOE,0SLED
   0FLYING SAUCER,0SKATEBOARD,0AUTO RICKSHAW,0PICKUP TRUCK,0ROLLER SKATE
   1F700:0ALCHEMICAL SYMBOL FOR QUINTESSENCE,3AIR,3FIRE,3EARTH,3WATER,3AQUAFORTIS,3AQUA REGIA,5-2
   4VITAE,5-2,3VINEGAR,4-2,4-3,3SULFUR,3PHILOSOPHERS SULFUR,3BLACK+,3MERCURY SUBLIMATE,5-2,5-3
   3CINNABAR,3SALT,3NITRE,3VITRIOL,4-2,3ROCK SALT,5-2,3GOLD,3SILVER,3IRON ORE,5-2,3CROCUS OF IRON
   3REGULUS+,3COPPER ORE,3IRON-COPPER ORE,3SUBLIMATE OF COPPER,3CROCUS+,6-2,3COPPER ANTIMONIATE
   3SALT OF COPPER ANTIMONIATE,3SUBLIMATE OF SALT OF COPPER,3VERDIGRIS,3TIN ORE,3LEAD+,3ANTIMONY+
   3SUBLIMATE OF ANTIMONY,3SALT+,3SUBLIMATE OF SALT OF ANTIMONY,3VINEGAR OF ANTIMONY,3REGULUS+,6-2,4
   4-2,4-3,4-4,3ALKALI,4-2,3MARCASITE,3SAL-AMMONIAC,3ARSENIC,3REALGAR,4-2,3AURIPIGMENT,3BISMUTH ORE
   3TARTAR,4-2,3QUICK LIME,3BORAX,4-2,4-3,3ALUM,3OIL,3SPIRIT,3TINCTURE,3GUM,3WAX,3POWDER,3CALX
   3TUTTY,3CAPUT MORTUUM,3SCEPTER OF JOVE,3CADUCEUS,3TRIDENT,3STARRED TRIDENT,3LODESTONE,3SOAP
   3URINE,3HORSE DUNG,3ASHES,3POT ASHES,3BRICK,3POWDERED BRICK,3AMALGAM,3STRATUM SUPER STRATUM,6-2
   3SUBLIMATION,3PRECIPITATE,3DISTILL,3DISSOLVE,4-2,3PURIFY,3PUTREFACTION,3CRUCIBLE,4-2,4-3,4-4,4-5
   3ALEMBIC,3BATH OF MARY,5VAPOURS,3RETORT,3HOUR,3NIGHT,3DAY-NIGHT,3MONTH,3HALF DRAM,4OUNCE
   1F780:0BLACK LEFT-POINTING ISOSCELES RIGHT TRIANGLE,1UP+,1RIGHT+,1DOWN+,1SLIGHTLY SMALL CIRCLE
   0MEDIUM BOLD WHITE+,0BOLD WHITE CIRCLE,0HEAVY+,0VERY HEAVY WHITE CIRCLE,0EXTREMELY+
   0WHITE CIRCLE CONTAINING BLACK SMALL CIRCLE,0ROUND TARGET,0BLACK TINY SQUARE
   1SLIGHTLY SMALL SQUARE,0LIGHT WHITE SQUARE,0MEDIUM+,0BOLD+,0HEAVY+,0VERY HEAVY WHITE SQUARE
   0EXTREMELY+,0WHITE SQUARE CONTAINING BLACK VERY SMALL SQUARE,4MEDIUM SQUARE,0SQUARE TARGET
   0BLACK TINY DIAMOND,1VERY SMALL DIAMOND,1MEDIUM+
   0WHITE DIAMOND CONTAINING BLACK VERY SMALL DIAMOND,4MEDIUM DIAMOND,0DIAMOND TARGET
   0BLACK TINY LOZENGE,1VERY SMALL LOZENGE,1MEDIUM+,0WHITE LOZENGE CONTAINING BLACK SMALL LOZENGE
   0THIN GREEK CROSS,0LIGHT+,0MEDIUM+,0BOLD+,0VERY BOLD GREEK CROSS,1HEAVY+,0EXTREMELY+
   0THIN SALTIRE,0LIGHT+,0MEDIUM+,0BOLD+,0HEAVY+,0VERY HEAVY SALTIRE,0EXTREMELY+
   0LIGHT FIVE SPOKED ASTERISK,0MEDIUM+,0BOLD+,0HEAVY+,0VERY HEAVY FIVE SPOKED ASTERISK,0EXTREMELY+
   0LIGHT SIX SPOKED ASTERISK,0MEDIUM+,0BOLD+,0HEAVY+,0VERY HEAVY SIX SPOKED ASTERISK,0EXTREMELY+
   0LIGHT EIGHT SPOKED ASTERISK,0MEDIUM+,0BOLD+,0HEAVY+,0VERY HEAVY EIGHT SPOKED ASTERISK
   0LIGHT THREE POINTED BLACK STAR,0MEDIUM+,0THREE POINTED BLACK STAR
   0MEDIUM THREE POINTED PINWHEEL STAR,0LIGHT FOUR POINTED BLACK+,0MEDIUM+,0FOUR POINTED BLACK STAR
   0MEDIUM FOUR POINTED PINWHEEL STAR,0REVERSE LIGHT FOUR POINTED PINWHEEL STAR
   0LIGHT FIVE POINTED BLACK STAR,0HEAVY+,0MEDIUM SIX+,0HEAVY+,0SIX POINTED PINWHEEL STAR
   0MEDIUM EIGHT POINTED BLACK STAR,0HEAVY+,0VERY HEAVY EIGHT POINTED BLACK STAR
   0HEAVY EIGHT POINTED PINWHEEL STAR,0LIGHT TWELVE POINTED BLACK+,0HEAVY+,3PINWHEEL+
   0CIRCLED TRIANGLE,0NEGATIVE CIRCLED TRIANGLE,0CIRCLED SQUARE,0NEGATIVE CIRCLED SQUARE
   1F7E0:0LARGE ORANGE CIRCLE,1YELLOW+,1GREEN+,1PURPLE+,1BROWN+,1RED SQUARE,1BLUE+,1ORANGE+,1YELLOW+
   1GREEN+,1PURPLE+,1BROWN+,1F7F0:0HEAVY EQUALS SIGN
   1F800:0LEFTWARDS ARROW WITH SMALL TRIANGLE ARROWHEAD,0UPWARDS+,0RIGHTWARDS+,0DOWNWARDS+
   0LEFTWARDS ARROW WITH MEDIUM+,0UPWARDS+,0RIGHTWARDS+,0DOWNWARDS+,0LEFTWARDS ARROW WITH LARGE+
   0UPWARDS+,0RIGHTWARDS+,0DOWNWARDS+,1F810:0LEFTWARDS ARROW WITH SMALL EQUILATERAL+,0UPWARDS+
   0RIGHTWARDS+,0DOWNWARDS+,0LEFTWARDS ARROW WITH EQUILATERAL ARROWHEAD,0UPWARDS+,0RIGHTWARDS+
   0DOWNWARDS+,0HEAVY LEFTWARDS ARROW WITH EQUILATERAL ARROWHEAD,1UPWARDS+,1RIGHTWARDS+,1DOWNWARDS+
   1LEFTWARDS ARROW WITH LARGE EQUILATERAL ARROWHEAD,1UPWARDS+,1RIGHTWARDS+,1DOWNWARDS+
   0LEFTWARDS TRIANGLE-HEADED ARROW WITH NARROW SHAFT,0UPWARDS+,0RIGHTWARDS+,0DOWNWARDS+
   0LEFTWARDS TRIANGLE-HEADED ARROW WITH MEDIUM+,0UPWARDS+,0RIGHTWARDS+,0DOWNWARDS+
   0LEFTWARDS TRIANGLE-HEADED ARROW WITH BOLD+,0UPWARDS+,0RIGHTWARDS+,0DOWNWARDS+
   0LEFTWARDS TRIANGLE-HEADED ARROW WITH HEAVY+,0UPWARDS+,0RIGHTWARDS+,0DOWNWARDS+
   0LEFTWARDS TRIANGLE-HEADED ARROW WITH VERY HEAVY SHAFT,0UPWARDS+,0RIGHTWARDS+,0DOWNWARDS+
   0LEFTWARDS FINGER-POST ARROW,0UPWARDS+,0RIGHTWARDS+,0DOWNWARDS+,0LEFTWARDS SQUARED ARROW
   0UPWARDS+,0RIGHTWARDS+,0DOWNWARDS+,0LEFTWARDS COMPRESSED+,0UPWARDS+,0RIGHTWARDS+,0DOWNWARDS+
   0LEFTWARDS HEAVY COMPRESSED ARROW,0UPWARDS+,0RIGHTWARDS+,0DOWNWARDS+,0LEFTWARDS HEAVY ARROW
   0UPWARDS+,0RIGHTWARDS+,0DOWNWARDS+,1F850:0LEFTWARDS SANS-SERIF ARROW,0UPWARDS+,0RIGHTWARDS+
   0DOWNWARDS+,0NORTH WEST SANS-SERIF ARROW,1EAST+,0SOUTH+,1WEST+,0LEFT RIGHT+,0UP DOWN+
   1F860:0WIDE-HEADED LEFTWARDS LIGHT BARB ARROW,2UPWARDS+,2RIGHTWARDS+,2DOWNWARDS+
   2NORTH WEST LIGHT BARB ARROW,3EAST+,2SOUTH+,3WEST+,2LEFTWARDS BARB ARROW,2UPWARDS+,2RIGHTWARDS+
   2DOWNWARDS+,2NORTH WEST BARB ARROW,3EAST+,2SOUTH+,3WEST+,2LEFTWARDS MEDIUM+,2UPWARDS+
   2RIGHTWARDS+,2DOWNWARDS+,2NORTH WEST MEDIUM BARB ARROW,3EAST+,2SOUTH+,3WEST+
   2LEFTWARDS HEAVY BARB ARROW,2UPWARDS+,2RIGHTWARDS+,2DOWNWARDS+,2NORTH WEST HEAVY BARB ARROW
   3EAST+,2SOUTH+,3WEST+,2LEFTWARDS VERY+,2UPWARDS+,2RIGHTWARDS+,2DOWNWARDS+
   2NORTH WEST VERY HEAVY BARB ARROW,3EAST+,2SOUTH+,3WEST+,1F890:0LEFTWARDS TRIANGLE ARROWHEAD
   0UPWARDS+,0RIGHTWARDS+,0DOWNWARDS+,0LEFTWARDS WHITE ARROW WITHIN TRIANGLE ARROWHEAD,0UPWARDS+
   0RIGHTWARDS+,0DOWNWARDS+,0LEFTWARDS ARROW WITH NOTCHED TAIL,0UPWARDS+,0RIGHTWARDS+,0DOWNWARDS+
   0HEAVY ARROW SHAFT WIDTH ONE,4TWO THIRDS,4ONE HALF,5THIRD,0LEFTWARDS BOTTOM-SHADED WHITE ARROW
   0RIGHTWARDS BOTTOM SHADED+,0LEFTWARDS TOP+,0RIGHTWARDS+,0LEFTWARDS LEFT-SHADED+
   0RIGHTWARDS RIGHT+,0LEFTWARDS+,0RIGHTWARDS LEFT+,0LEFTWARDS BACK-TILTED SHADOWED WHITE ARROW
   0RIGHTWARDS+,0LEFTWARDS FRONT+,0RIGHTWARDS+,0WHITE ARROW SHAFT WIDTH ONE,4TWO THIRDS
   1F8B0:0ARROW POINTING UPWARDS THEN NORTH WEST,2RIGHTWARDS THEN CURVING SOUTH WEST
   1F900:0CIRCLED CROSS FORMEE WITH FOUR DOTS,4TWO+,3,0LEFT HALF CIRCLE WITH FOUR DOTS,4THREE+,4TWO+
   4DOT,3,0DOWNWARD FACING HOOK,2NOTCHED HOOK,2HOOK WITH DOT,2NOTCHED HOOK WITH DOT,0PINCHED FINGERS
   0WHITE HEART,0BROWN+,0PINCHING HAND,0ZIPPER-MOUTH FACE,0MONEY+,0FACE WITH THERMOMETER,0NERD FACE
   0THINKING+,0FACE WITH HEAD-BANDAGE,0ROBOT FACE,0HUGGING+,0SIGN OF THE HORNS,0CALL ME HAND
   0RAISED BACK OF HAND,0LEFT-FACING FIST,0RIGHT+,0HANDSHAKE
   0HAND WITH INDEX AND MIDDLE FINGERS CROSSED,0I LOVE YOU HAND SIGN,0FACE WITH COWBOY HAT
   0CLOWN FACE,0NAUSEATED+,0ROLLING ON THE FLOOR LAUGHING,0DROOLING FACE,0LYING+,0FACE PALM
   0SNEEZING FACE,0FACE WITH ONE EYEBROW RAISED,0GRINNING FACE WITH STAR EYES
   3ONE LARGE AND ONE SMALL EYE,0FACE WITH FINGER COVERING CLOSED LIPS
   0SERIOUS FACE WITH SYMBOLS COVERING MOUTH,0SMILING FACE WITH SMILING EYES AND HAND COVERING MOUTH
   0FACE WITH OPEN MOUTH VOMITING,0SHOCKED FACE WITH EXPLODING HEAD,0PREGNANT WOMAN,0BREAST-FEEDING
   0PALMS UP TOGETHER,0SELFIE,0PRINCE,0MAN IN TUXEDO,0MOTHER CHRISTMAS,0SHRUG
   0PERSON DOING CARTWHEEL,0JUGGLING,0FENCER,0MODERN PENTATHLON,0WRESTLERS,0WATER POLO,0HANDBALL
   0DIVING MASK,0WILTED FLOWER,0DRUM WITH DRUMSTICKS,0CLINKING GLASSES,0TUMBLER GLASS,0SPOON
   0GOAL NET,0RIFLE,0FIRST PLACE MEDAL,0SECOND+,0THIRD+,0BOXING GLOVE,0MARTIAL ARTS UNIFORM
   0CURLING STONE,0LACROSSE STICK AND BALL,0SOFTBALL,0FLYING DISC,0CROISSANT,0AVOCADO,0CUCUMBER
   0BACON,0POTATO,0CARROT,0BAGUETTE BREAD,0GREEN SALAD,0SHALLOW PAN OF FOOD,0STUFFED FLATBREAD,0EGG
   0GLASS OF MILK,0PEANUTS,0KIWIFRUIT,0PANCAKES,0DUMPLING,0FORTUNE COOKIE,0TAKEOUT BOX,0CHOPSTICKS
   0BOWL WITH SPOON,0CUP WITH STRAW,0COCONUT,0BROCCOLI,0PIE,0PRETZEL,0CUT OF MEAT,0SANDWICH
   0CANNED FOOD,0LEAFY GREEN,0MANGO,0MOON CAKE,0BAGEL
   0SMILING FACE WITH SMILING EYES AND THREE HEARTS,0YAWNING FACE,0SMILING FACE WITH TEAR
   0FACE WITH PARTY HORN AND PARTY HAT,2UNEVEN EYES AND WAVY MOUTH,0OVERHEATED FACE,0FREEZING+
   0NINJA,0DISGUISED FACE,0FACE HOLDING BACK TEARS,1WITH PLEADING EYES,0SARI,0LAB COAT,0GOGGLES
   0HIKING BOOT,0FLAT SHOE,0CRAB,0LION FACE,0SCORPION,0TURKEY,0UNICORN FACE,0EAGLE,0DUCK,0BAT,0SHARK
   0OWL,0FOX FACE,0BUTTERFLY,0DEER,0GORILLA,0LIZARD,0RHINOCEROS,0SHRIMP,0SQUID,0GIRAFFE FACE,0ZEBRA+
   0HEDGEHOG,0SAUROPOD,0T-REX,0CRICKET,0KANGAROO,0LLAMA,0PEACOCK,0HIPPOPOTAMUS,0PARROT,0RACCOON
   0LOBSTER,0MOSQUITO,0MICROBE,0BADGER,0SWAN,0MAMMOTH,0DODO,0SLOTH,0OTTER,0ORANGUTAN,0SKUNK
   0FLAMINGO,0OYSTER,0BEAVER,0BISON,0SEAL,0GUIDE DOG,0PROBING CANE,0EMOJI COMPONENT RED HAIR,2CURLY+
   2BALD,2WHITE HAIR,0BONE,0LEG,0FOOT,0TOOTH,0SUPERHERO,0SUPERVILLAIN,0SAFETY VEST
   0EAR WITH HEARING AID,0MOTORIZED WHEELCHAIR,0MANUAL+,0MECHANICAL ARM,1LEG,0CHEESE WEDGE,0CUPCAKE
   0SALT SHAKER,0BEVERAGE BOX,0GARLIC,0ONION,0FALAFEL,0WAFFLE,0BUTTER,0MATE DRINK,0ICE CUBE
   0BUBBLE TEA,0TROLL,0STANDING PERSON,0KNEELING+,0DEAF+,0FACE WITH MONOCLE,0ADULT,0CHILD
   0OLDER ADULT,0BEARDED PERSON,0PERSON WITH HEADSCARF,1IN STEAMY ROOM,1CLIMBING,1IN LOTUS POSITION
   0MAGE,0FAIRY,0VAMPIRE,0MERPERSON,0ELF,0GENIE,0ZOMBIE,0BRAIN,0ORANGE HEART,0BILLED CAP,0SCARF
   0GLOVES,0COAT,0SOCKS,0RED GIFT ENVELOPE,0FIRECRACKER,0JIGSAW PUZZLE PIECE,0TEST TUBE,0PETRI DISH
   0DNA DOUBLE HELIX,0COMPASS,0ABACUS,0FIRE EXTINGUISHER,0TOOLBOX,0BRICK,0MAGNET,0LUGGAGE
   0LOTION BOTTLE,0SPOOL OF THREAD,0BALL OF YARN,0SAFETY PIN,0TEDDY BEAR,0BROOM,0BASKET
   0ROLL OF PAPER,0BAR OF SOAP,0SPONGE,0RECEIPT,0NAZAR AMULET,0NEUTRAL CHESS KING,2QUEEN,2ROOK
   2BISHOP,2KNIGHT,2PAWN,0WHITE CHESS KNIGHT ROTATED FORTY-FIVE DEGREES,0BLACK+,0NEUTRAL+
   0WHITE CHESS KING ROTATED NINETY DEGREES,2QUEEN+,2ROOK+,2BISHOP+,2KNIGHT+,2PAWN+
   0BLACK CHESS KING+,2QUEEN+,2ROOK+,2BISHOP+,2KNIGHT+,2PAWN+,0NEUTRAL CHESS KING+,2QUEEN+,2ROOK+
   2BISHOP+,2KNIGHT+,2PAWN+,0WHITE CHESS KNIGHT ROTATED ONE HUNDRED THIRTY-FIVE DEGREES,0BLACK+
   0NEUTRAL+,0WHITE CHESS TURNED KING,3QUEEN,3ROOK,3BISHOP,3KNIGHT,3PAWN,0BLACK CHESS TURNED KING
   3QUEEN,3ROOK,3BISHOP,3KNIGHT,3PAWN,0NEUTRAL CHESS TURNED KING,3QUEEN,3ROOK,3BISHOP,3KNIGHT,3PAWN
   0WHITE CHESS KNIGHT ROTATED TWO HUNDRED TWENTY-FIVE DEGREES,0BLACK+,0NEUTRAL+
   0WHITE CHESS KING ROTATED TWO HUNDRED SEVENTY DEGREES,2QUEEN+,2ROOK+,2BISHOP+,2KNIGHT+,2PAWN+
   0BLACK CHESS KING+,2QUEEN+,2ROOK+,2BISHOP+,2KNIGHT+,2PAWN+,0NEUTRAL CHESS KING+,2QUEEN+,2ROOK+
   2BISHOP+,2KNIGHT+,2PAWN+,0WHITE CHESS KNIGHT ROTATED THREE HUNDRED FIFTEEN+,0BLACK+,0NEUTRAL+
   0WHITE CHESS EQUIHOPPER,0BLACK+,0NEUTRAL+,0WHITE CHESS EQUIHOPPER ROTATED NINETY DEGREES,0BLACK+
   0NEUTRAL+,0WHITE CHESS KNIGHT-QUEEN,3-ROOK,3-BISHOP,0BLACK CHESS KNIGHT-QUEEN,3-ROOK,3-BISHOP
   1FA60:0XIANGQI RED GENERAL,2MANDARIN,2ELEPHANT,2HORSE,2CHARIOT,2CANNON,2SOLDIER,1BLACK GENERAL
   2MANDARIN,2ELEPHANT,2HORSE,2CHARIOT,2CANNON,2SOLDIER,1FA70:0BALLET SHOES,0ONE-PIECE SWIMSUIT
   0BRIEFS,0SHORTS,0THONG SANDAL,1FA78:0DROP OF BLOOD,0ADHESIVE BANDAGE,0STETHOSCOPE,0X-RAY,0CRUTCH
   1FA80:0YO-YO,0KITE,0PARACHUTE,0BOOMERANG,0MAGIC WAND,0PINATA,0NESTING DOLLS,1FA90:0RINGED PLANET
   0CHAIR,0RAZOR,0AXE,0DIYA LAMP,0BANJO,0MILITARY HELMET,0ACCORDION,0LONG DRUM,0COIN,0CARPENTRY SAW
   0SCREWDRIVER,0LADDER,0HOOK,0MIRROR,0WINDOW,0PLUNGER,0SEWING NEEDLE,0KNOT,0BUCKET,0MOUSE TRAP
   0TOOTHBRUSH,0HEADSTONE,0PLACARD,0ROCK,0MIRROR BALL,0IDENTIFICATION CARD,0LOW BATTERY,0HAMSA
   1FAB0:0FLY,0WORM,0BEETLE,0COCKROACH,0POTTED PLANT,0WOOD,0FEATHER,0LOTUS,0CORAL,0EMPTY NEST
   0NEST WITH EGGS,1FAC0:0ANATOMICAL HEART,0LUNGS,0PEOPLE HUGGING,0PREGNANT MAN,1PERSON
   0PERSON WITH CROWN,1FAD0:0BLUEBERRIES,0BELL PEPPER,0OLIVE,0FLATBREAD,0TAMALE,0FONDUE,0TEAPOT
   0POURING LIQUID,0BEANS,0JAR,1FAE0:0MELTING FACE,0SALUTING+
   0FACE WITH OPEN EYES AND HAND OVER MOUTH,2PEEKING EYE,2DIAGONAL MOUTH,0DOTTED LINE FACE
   0BITING LIP,0BUBBLES,1FAF0:0HAND WITH INDEX FINGER AND THUMB CROSSED,0RIGHTWARDS HAND,0LEFTWARDS+
   0PALM DOWN HAND,1UP+,0INDEX POINTING AT THE VIEWER,0HEART HANDS,1FB00:0BLOCK SEXTANT-1,2-2,2-12
   2-3,2-13,2-23,2-123,2-4,2-14,2-24,2-124,2-34,2-134,2-234,2-1234,2-5,2-15,2-25,2-125,2-35,2-235
   2-1235,2-45,2-145,2-245,2-1245,2-345,2-1345,2-2345,2-12345,2-6,2-16,2-26,2-126,2-36,2-136,2-236
   2-1236,2-46,2-146,2-1246,2-346,2-1346,2-2346,2-12346,2-56,2-156,2-256,2-1256,2-356,2-1356,2-2356
   2-12356,2-456,2-1456,2-2456,2-12456,2-3456,2-13456,2-23456
   0LOWER LEFT BLOCK DIAGONAL LOWER MIDDLE LEFT TO LOWER CENTRE,9RIGHT
   4UPPER MIDDLE LEFT TO LOWER CENTRE,9RIGHT,5LEFT TO LOWER CENTRE
   1RIGHT BLOCK DIAGONAL UPPER MIDDLE LEFT TO UPPER CENTRE,9RIGHT,4LOWER MIDDLE LEFT TO UPPER CENTRE
   9RIGHT,5LEFT TO UPPER CENTRE,5MIDDLE LEFT TO UPPER MIDDLE RIGHT,5CENTRE TO LOWER MIDDLE RIGHT
   5LEFT+,5CENTRE TO UPPER+,5LEFT+,5CENTRE TO UPPER RIGHT
   1LEFT BLOCK DIAGONAL UPPER CENTRE TO UPPER MIDDLE RIGHT,5LEFT+,5CENTRE TO LOWER+,5LEFT+
   5CENTRE TO LOWER RIGHT,5MIDDLE LEFT TO LOWER MIDDLE RIGHT
   0UPPER RIGHT BLOCK DIAGONAL LOWER MIDDLE LEFT TO LOWER CENTRE,9RIGHT
   4UPPER MIDDLE LEFT TO LOWER CENTRE,9RIGHT,5LEFT TO LOWER CENTRE
   1LEFT BLOCK DIAGONAL UPPER MIDDLE LEFT TO UPPER CENTRE,9RIGHT,4LOWER MIDDLE LEFT TO UPPER CENTRE
   9RIGHT,5LEFT TO UPPER CENTRE,5MIDDLE LEFT TO UPPER MIDDLE RIGHT,5CENTRE TO LOWER MIDDLE RIGHT
   5LEFT+,5CENTRE TO UPPER+,5LEFT+,5CENTRE TO UPPER RIGHT
   1RIGHT BLOCK DIAGONAL UPPER CENTRE TO UPPER MIDDLE RIGHT,5LEFT+,5CENTRE TO LOWER+,5LEFT+
   5CENTRE TO LOWER RIGHT,5MIDDLE LEFT TO LOWER MIDDLE RIGHT
   1AND RIGHT AND LOWER TRIANGULAR THREE QUARTERS BLOCK,0LEFT AND LOWER AND RIGHT+
   0UPPER AND LEFT AND LOWER+,0LEFT AND UPPER AND RIGHT+,1TRIANGULAR ONE QUARTER BLOCK,0UPPER+
   0RIGHT+,0LOWER+,0VERTICAL ONE EIGHTH BLOCK-2,4-3,4-4,4-5,4-6,4-7,0HORIZONTAL ONE EIGHTH BLOCK-2
   4-3,4-4,4-5,4-6,4-7,0LEFT AND LOWER ONE EIGHTH BLOCK,2UPPER+,0RIGHT+,2LOWER+,0UPPER+
   0HORIZONTAL ONE EIGHTH BLOCK-1358,0UPPER ONE QUARTER BLOCK,1THREE EIGHTHS+,1FIVE+
   1THREE QUARTERS+,1SEVEN EIGHTHS+,0RIGHT ONE QUARTER+,1THREE EIGHTHS+,1FIVE+,1THREE QUARTERS+
   1SEVEN EIGHTHS+,0LEFT HALF MEDIUM SHADE,0RIGHT+,0UPPER+,0LOWER+,0INVERSE MEDIUM SHADE
   0UPPER HALF BLOCK AND LOWER HALF INVERSE MEDIUM SHADE,2INVERSE MEDIUM SHADE AND LOWER HALF BLOCK
   1FB94:0LEFT HALF INVERSE MEDIUM SHADE AND RIGHT+,0CHECKER BOARD FILL,0INVERSE CHECKER BOARD FILL
   0HEAVY HORIZONTAL FILL,0UPPER LEFT TO LOWER RIGHT FILL,1RIGHT TO LOWER LEFT+
   1AND LOWER TRIANGULAR HALF BLOCK,0LEFT AND RIGHT+,0UPPER LEFT TRIANGULAR MEDIUM SHADE,1RIGHT+
   0LOWER+,1LEFT+,0BOX DRAWINGS LIGHT DIAGONAL UPPER CENTRE TO MIDDLE LEFT,8RIGHT
   4MIDDLE LEFT TO LOWER CENTRE,5RIGHT+,4UPPER CENTRE TO MIDDLE LEFT TO LOWER CENTRE,8RIGHT+
   4MIDDLE LEFT TO LOWER CENTRE TO MIDDLE RIGHT,7UPPER+
   4UPPER CENTRE TO MIDDLE LEFT AND MIDDLE RIGHT TO LOWER CENTRE,8RIGHT AND MIDDLE LEFT+
   9TO LOWER CENTRE TO MIDDLE LEFT,8LEFT TO LOWER CENTRE TO MIDDLE RIGHT
   4MIDDLE LEFT TO UPPER CENTRE TO MIDDLE RIGHT TO LOWER CENTRE
   5RIGHT TO UPPER CENTRE TO MIDDLE LEFT+,4DIAMOND,3HORIZONTAL WITH VERTICAL STROKE
   0ARROWHEAD-SHAPED POINTER,0INVERSE CHECK MARK,0LEFT HALF RUNNING MAN,0RIGHT+
   0INVERSE DOWNWARDS ARROW WITH TIP LEFTWARDS,0LEFTWARDS ARROW AND UPPER AND LOWER ONE EIGHTH BLOCK
   0RIGHTWARDS+,0DOWNWARDS ARROW AND RIGHT ONE EIGHTH BLOCK,0UPWARDS+,0LEFT HALF FOLDER,0RIGHT+
   0VOIDED GREEK CROSS,0RIGHT OPEN SQUARED DOT,0NEGATIVE DIAGONAL CROSS
   2MIDDLE RIGHT TO LOWER CENTRE,2DIAMOND,0WHITE HEAVY SALTIRE WITH ROUNDED CORNERS
   0LEFT THIRD WHITE RIGHT POINTING INDEX,0MIDDLE+,0RIGHT+,0NEGATIVE SQUARED QUESTION MARK
   0STICK FIGURE,2WITH ARMS RAISED,2LEANING LEFT,3RIGHT,2WITH DRESS,0WHITE UP-POINTING CHEVRON
   1FBF0:0SEGMENTED DIGIT ZERO,2ONE,2TWO,2THREE,2FOUR,2FIVE,2SIX,2SEVEN,2EIGHT,2NINE
   2F800:0CJK COMPATIBILITY IDEOGRAPH-*,4,4,4,4,4,4,4,4,4,4,4,4,4,4,4,4,4,4,4,4,4,4,4,4,4,4,4,4,4,4
   4,4,4,4,4,4,4,4,4,4,4,4,4,4,4,4,4,4,4,4,4,4,4,4,4,4,4,4,4,4,4,4,4,4,4,4,4,4,4,4,4,4,4,4,4,4,4,4,4
   4,4,4,4,4,4,4,4,4,4,4,4,4,4,4,4,4,4,4,4,4,4,4,4,4,4,4,4,4,4,4,4,4,4,4,4,4,4,4,4,4,4,4,4,4,4,4,4,4
   4,4,4,4,4,4,4,4,4,4,4,4,4,4,4,4,4,4,4,4,4,4,4,4,4,4,4,4,4,4,4,4,4,4,4,4,4,4,4,4,4,4,4,4,4,4,4,4,4
   4,4,4,4,4,4,4,4,4,4,4,4,4,4,4,4,4,4,4,4,4,4,4,4,4,4,4,4,4,4,4,4,4,4,4,4,4,4,4,4,4,4,4,4,4,4,4,4,4
   4,4,4,4,4,4,4,4,4,4,4,4,4,4,4,4,4,4,4,4,4,4,4,4,4,4,4,4,4,4,4,4,4,4,4,4,4,4,4,4,4,4,4,4,4,4,4,4,4
   4,4,4,4,4,4,4,4,4,4,4,4,4,4,4,4,4,4,4,4,4,4,4,4,4,4,4,4,4,4,4,4,4,4,4,4,4,4,4,4,4,4,4,4,4,4,4,4,4
   4,4,4,4,4,4,4,4,4,4,4,4,4,4,4,4,4,4,4,4,4,4,4,4,4,4,4,4,4,4,4,4,4,4,4,4,4,4,4,4,4,4,4,4,4,4,4,4,4
   4,4,4,4,4,4,4,4,4,4,4,4,4,4,4,4,4,4,4,4,4,4,4,4,4,4,4,4,4,4,4,4,4,4,4,4,4,4,4,4,4,4,4,4,4,4,4,4,4
   4,4,4,4,4,4,4,4,4,4,4,4,4,4,4,4,4,4,4,4,4,4,4,4,4,4,4,4,4,4,4,4,4,4,4,4,4,4,4,4,4,4,4,4,4,4,4,4,4
   4,4,4,4,4,4,4,4,4,4,4,4,4,4,4,4,4,4,4,4,4,4,4,4,4,4,4,4,4,4,4,4,4,4,4,4,4,4,4,4,4,4,4,4,4,4,4,4,4
   4,4,4,4,4,4,4,4,4,4,4,4,4,4,4,4,4,4,4,4,4,E0001:0LANGUAGE TAG,E0020:0TAG SPACE,1EXCLAMATION MARK
   1QUOTATION+,1NUMBER SIGN,1DOLLAR+,1PERCENT+,1AMPERSAND,1APOSTROPHE,1LEFT PARENTHESIS,1RIGHT+
   1ASTERISK,1PLUS SIGN,1COMMA,1HYPHEN-MINUS,1FULL STOP,1SOLIDUS,1DIGIT ZERO,2ONE,2TWO,2THREE,2FOUR
   2FIVE,2SIX,2SEVEN,2EIGHT,2NINE,1COLON,1SEMICOLON,1LESS-THAN SIGN,1EQUALS SIGN,1GREATER-THAN SIGN
   1QUESTION MARK,1COMMERCIAL AT,1LATIN CAPITAL LETTER A,4B,4C,4D,4E,4F,4G,4H,4I,4J,4K,4L,4M,4N,4O
   4P,4Q,4R,4S,4T,4U,4V,4W,4X,4Y,4Z,1LEFT SQUARE BRACKET,1REVERSE SOLIDUS,1RIGHT SQUARE BRACKET
   1CIRCUMFLEX ACCENT,1LOW LINE,1GRAVE ACCENT,1LATIN SMALL LETTER A,4B,4C,4D,4E,4F,4G,4H,4I,4J,4K,4L
   4M,4N,4O,4P,4Q,4R,4S,4T,4U,4V,4W,4X,4Y,4Z,1LEFT CURLY BRACKET,1VERTICAL LINE,1RIGHT CURLY BRACKET
   1TILDE,0CANCEL TAG,E0100:0VARIATION SELECTOR-17,2-18,2-19,2-20,2-21,2-22,2-23,2-24,2-25,2-26,2-27
   2-28,2-29,2-30,2-31,2-32,2-33,2-34,2-35,2-36,2-37,2-38,2-39,2-40,2-41,2-42,2-43,2-44,2-45,2-46
   2-47,2-48,2-49,2-50,2-51,2-52,2-53,2-54,2-55,2-56,2-57,2-58,2-59,2-60,2-61,2-62,2-63,2-64,2-65
   2-66,2-67,2-68,2-69,2-70,2-71,2-72,2-73,2-74,2-75,2-76,2-77,2-78,2-79,2-80,2-81,2-82,2-83,2-84
   2-85,2-86,2-87,2-88,2-89,2-90,2-91,2-92,2-93,2-94,2-95,2-96,2-97,2-98,2-99,2-100,2-101,2-102
   2-103,2-104,2-105,2-106,2-107,2-108,2-109,2-110,2-111,2-112,2-113,2-114,2-115,2-116,2-117,2-118
   2-119,2-120,2-121,2-122,2-123,2-124,2-125,2-126,2-127,2-128,2-129,2-130,2-131,2-132,2-133,2-134
   2-135,2-136,2-137,2-138,2-139,2-140,2-141,2-142,2-143,2-144,2-145,2-146,2-147,2-148,2-149,2-150
   2-151,2-152,2-153,2-154,2-155,2-156,2-157,2-158,2-159,2-160,2-161,2-162,2-163,2-164,2-165,2-166
   2-167,2-168,2-169,2-170,2-171,2-172,2-173,2-174,2-175,2-176,2-177,2-178,2-179,2-180,2-181,2-182
   2-183,2-184,2-185,2-186,2-187,2-188,2-189,2-190,2-191,2-192,2-193,2-194,2-195,2-196,2-197,2-198
   2-199,2-200,2-201,2-202,2-203,2-204,2-205,2-206,2-207,2-208,2-209,2-210,2-211,2-212,2-213,2-214
   2-215,2-216,2-217,2-218,2-219,2-220,2-221,2-222,2-223,2-224,2-225,2-226,2-227,2-228,2-229,2-230
   2-231,2-232,2-233,2-234,2-235,2-236,2-237,2-238,2-239,2-240,2-241,2-242,2-243,2-244,2-245,2-246
   2-247,2-248,2-249,2-250,2-251,2-252,2-253,2-254,2-255,2-256"

end AddressBook.Text.Name
