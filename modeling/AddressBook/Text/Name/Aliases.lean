namespace AddressBook.Text.Name

def aliases : String :=
  "0:0NULL,0:0NUL,0START OF HEADING,1:0SOH,0START OF TEXT,2:0STX,0END OF TEXT,3:0ETX
   0END OF TRANSMISSION,4:0EOT,0ENQUIRY,5:0ENQ,0ACKNOWLEDGE,6:0ACK,0ALERT,7:0BEL,0BACKSPACE,8:0BS
   0CHARACTER TABULATION,9:0HORIZONTAL+,9:0HT,9:0TAB,0LINE FEED,A:0NEW LINE,A:0END OF LINE,A:0EOL
   A:0LF,A:0NL,0LINE TABULATION,B:0VERTICAL+,B:0VT,0FORM FEED,C:0FF,0CARRIAGE RETURN,D:0CR
   0SHIFT OUT,E:0LOCKING-SHIFT ONE,E:0SO,0SHIFT IN,F:0LOCKING-SHIFT ZERO,F:0SI,0DATA LINK ESCAPE
   10:0DLE,0DEVICE CONTROL ONE,11:0DC1,0DEVICE CONTROL TWO,12:0DC2,0DEVICE CONTROL THREE,13:0DC3
   0DEVICE CONTROL FOUR,14:0DC4,0NEGATIVE ACKNOWLEDGE,15:0NAK,0SYNCHRONOUS IDLE,16:0SYN
   0END OF TRANSMISSION BLOCK,17:0ETB,0CANCEL,18:0CAN,0END OF MEDIUM,19:0EOM,0SUBSTITUTE,1A:0SUB
   0ESCAPE,1B:0ESC,0INFORMATION SEPARATOR FOUR,1C:0FILE SEPARATOR,1C:0FS
   0INFORMATION SEPARATOR THREE,1D:0GROUP SEPARATOR,1D:0GS,0INFORMATION SEPARATOR TWO
   1E:0RECORD SEPARATOR,1E:0RS,0INFORMATION SEPARATOR ONE,1F:0UNIT SEPARATOR,1F:0US,0SP,7F:0DELETE
   7F:0DEL,0PADDING CHARACTER,80:0PAD,0HIGH OCTET PRESET,81:0HOP,0BREAK PERMITTED HERE,82:0BPH
   0NO BREAK HERE,83:0NBH,0INDEX,84:0IND,0NEXT LINE,85:0NEL,0START OF SELECTED AREA,86:0SSA
   0END OF SELECTED AREA,87:0ESA,0CHARACTER TABULATION SET,88:0HORIZONTAL+,88:0HTS
   0CHARACTER TABULATION WITH JUSTIFICATION,89:0HORIZONTAL+,89:0HTJ,0LINE TABULATION SET
   8A:0VERTICAL+,8A:0VTS,0PARTIAL LINE FORWARD,8B:2DOWN,8B:0PLD,0PARTIAL LINE BACKWARD,8C:2UP
   8C:0PLU,0REVERSE LINE FEED,8D:1INDEX,8D:0RI,0SINGLE SHIFT TWO,8E:1-SHIFT-2,8E:0SS2
   0SINGLE SHIFT THREE,8F:1-SHIFT-3,8F:0SS3,0DEVICE CONTROL STRING,90:0DCS,0PRIVATE USE ONE,91:2-1
   91:0PU1,0PRIVATE USE TWO,92:2-2,92:0PU2,0SET TRANSMIT STATE,93:0STS,0CANCEL CHARACTER,94:0CCH
   0MESSAGE WAITING,95:0MW,0START OF GUARDED AREA,96:2PROTECTED+,96:0SPA,0END OF GUARDED AREA
   97:2PROTECTED+,97:0EPA,0START OF STRING,98:0SOS,0SINGLE GRAPHIC CHARACTER INTRODUCER,99:0SGC
   0SINGLE CHARACTER INTRODUCER,9A:0SCI,0CONTROL SEQUENCE INTRODUCER,9B:0CSI,0STRING TERMINATOR
   9C:0ST,0OPERATING SYSTEM COMMAND,9D:0OSC,0PRIVACY MESSAGE,9E:0PM,0APPLICATION PROGRAM COMMAND
   9F:0APC,0NBSP,AD:0SHY,1A2:0LATIN CAPITAL LETTER GHA,1SMALL+,34F:0CGJ,61C:0ALM
   709:0SYRIAC SUBLINEAR COLON SKEWED LEFT,CDE:0KANNADA LETTER LLLA,E9D:0LAO LETTER FO FON,E9F:3FAY
   EA3:2RO,EA5:2LO,FD0:0TIBETAN MARK BKA- SHOG GI MGO RGYAN,11EC:0HANGUL JONGSEONG YESIEUNG-KIYEOK
   3-SSANGKIYEOK,2SSANGYESIEUNG,2YESIEUNG-KHIEUKH,180B:0FVS1,0FVS2,0FVS3,0MVS,0FVS4,200B:0ZWSP,0ZWNJ
   0ZWJ,0LRM,0RLM,202A:0LRE,0RLE,0PDF,0LRO,0RLO,0NNBSP,205F:0MMSP,0WJ,2066:0LRI,0RLI,0FSI,0PDI
   2118:0WEIERSTRASS ELLIPTIC FUNCTION,2448:0MICR ON US SYMBOL,1DASH SYMBOL
   2B7A:0LEFTWARDS TRIANGLE-HEADED ARROW WITH DOUBLE VERTICAL STROKE,2B7C:0RIGHTWARDS+
   A015:0YI SYLLABLE ITERATION MARK,AA6E:0MYANMAR LETTER KHAMTI LLA,FE00:0VS1,0VS2,0VS3,0VS4,0VS5
   0VS6,0VS7,0VS8,0VS9,0VS10,0VS11,0VS12,0VS13,0VS14,0VS15,0VS16
   FE18:0PRESENTATION FORM FOR VERTICAL RIGHT WHITE LENTICULAR BRACKET,FEFF:0BYTE ORDER MARK
   FEFF:0BOM,FEFF:0ZWNBSP,122D4:0CUNEIFORM SIGN NU11 TENU,3OVER NU11 BUR OVER BUR
   16E56:0MEDEFAIDRIN CAPITAL LETTER H,3NG,16E76:1SMALL LETTER H,3NG,1B001:0HENTAIGANA LETTER E-1
   1D0C5:0BYZANTINE MUSICAL SYMBOL FTHORA SKLIRON CHROMA VASIS,E0100:0VS17,0VS18,0VS19,0VS20,0VS21
   0VS22,0VS23,0VS24,0VS25,0VS26,0VS27,0VS28,0VS29,0VS30,0VS31,0VS32,0VS33,0VS34,0VS35,0VS36,0VS37
   0VS38,0VS39,0VS40,0VS41,0VS42,0VS43,0VS44,0VS45,0VS46,0VS47,0VS48,0VS49,0VS50,0VS51,0VS52,0VS53
   0VS54,0VS55,0VS56,0VS57,0VS58,0VS59,0VS60,0VS61,0VS62,0VS63,0VS64,0VS65,0VS66,0VS67,0VS68,0VS69
   0VS70,0VS71,0VS72,0VS73,0VS74,0VS75,0VS76,0VS77,0VS78,0VS79,0VS80,0VS81,0VS82,0VS83,0VS84,0VS85
   0VS86,0VS87,0VS88,0VS89,0VS90,0VS91,0VS92,0VS93,0VS94,0VS95,0VS96,0VS97,0VS98,0VS99,0VS100,0VS101
   0VS102,0VS103,0VS104,0VS105,0VS106,0VS107,0VS108,0VS109,0VS110,0VS111,0VS112,0VS113,0VS114,0VS115
   0VS116,0VS117,0VS118,0VS119,0VS120,0VS121,0VS122,0VS123,0VS124,0VS125,0VS126,0VS127,0VS128,0VS129
   0VS130,0VS131,0VS132,0VS133,0VS134,0VS135,0VS136,0VS137,0VS138,0VS139,0VS140,0VS141,0VS142,0VS143
   0VS144,0VS145,0VS146,0VS147,0VS148,0VS149,0VS150,0VS151,0VS152,0VS153,0VS154,0VS155,0VS156,0VS157
   0VS158,0VS159,0VS160,0VS161,0VS162,0VS163,0VS164,0VS165,0VS166,0VS167,0VS168,0VS169,0VS170,0VS171
   0VS172,0VS173,0VS174,0VS175,0VS176,0VS177,0VS178,0VS179,0VS180,0VS181,0VS182,0VS183,0VS184,0VS185
   0VS186,0VS187,0VS188,0VS189,0VS190,0VS191,0VS192,0VS193,0VS194,0VS195,0VS196,0VS197,0VS198,0VS199
   0VS200,0VS201,0VS202,0VS203,0VS204,0VS205,0VS206,0VS207,0VS208,0VS209,0VS210,0VS211,0VS212,0VS213
   0VS214,0VS215,0VS216,0VS217,0VS218,0VS219,0VS220,0VS221,0VS222,0VS223,0VS224,0VS225,0VS226,0VS227
   0VS228,0VS229,0VS230,0VS231,0VS232,0VS233,0VS234,0VS235,0VS236,0VS237,0VS238,0VS239,0VS240,0VS241
   0VS242,0VS243,0VS244,0VS245,0VS246,0VS247,0VS248,0VS249,0VS250,0VS251,0VS252,0VS253,0VS254,0VS255
   0VS256"

end AddressBook.Text.Name
