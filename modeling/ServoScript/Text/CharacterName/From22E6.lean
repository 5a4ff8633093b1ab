/-!
# Names of characters from 22E6 on
-/

namespace ServoScript.CharacterName

def from22E6 : String := "
22E6.:LESS-THAN BUT NOT EQUIVALENT TO,.:GREATER-THAN BUT NOT EQUIVALENT TO,
.:PRECEDES BUT NOT EQUIVALENT TO,.:SUCCEEDS BUT NOT EQUIVALENT TO,.:NOT NORMAL SUBGROUP OF,
.:DOES NOT CONTAIN AS NORMAL SUBGROUP,.:NOT NORMAL SUBGROUP OF OR EQUAL TO,
.:DOES NOT CONTAIN AS NORMAL SUBGROUP OR EQUAL,.:VERTICAL ELLIPSIS,.:MIDLINE HORIZONTAL ELLIPSIS,
.:UP RIGHT DIAGONAL ELLIPSIS,.:DOWN RIGHT DIAGONAL ELLIPSIS,
.:ELEMENT OF WITH LONG HORIZONTAL STROKE,.3:VERTICAL BAR AT END OF HORIZONTAL STROKE,
.:SMALL ELEMENT OF WITH VERTICAL BAR AT END OF HORIZONTAL STROKE,.:ELEMENT OF WITH DOT ABOVE,
.3:OVERBAR,.:SMALL ELEMENT OF WITH OVERBAR,.:ELEMENT OF WITH UNDERBAR,.3:TWO HORIZONTAL STROKES,
.:CONTAINS WITH LONG HORIZONTAL STROKE,.2:VERTICAL BAR AT END OF HORIZONTAL STROKE,
.:SMALL CONTAINS WITH VERTICAL BAR AT END OF HORIZONTAL STROKE,.:CONTAINS WITH OVERBAR,
.:SMALL CONTAINS WITH OVERBAR,.:Z NOTATION BAG MEMBERSHIP,.:DIAMETER SIGN,.:ELECTRIC ARROW,
.:HOUSE,.:UP ARROWHEAD,.:DOWN ARROWHEAD,.:PROJECTIVE,.:PERSPECTIVE,.:WAVY LINE,.:LEFT CEILING,
.:RIGHT CEILING,.:LEFT FLOOR,.:RIGHT FLOOR,.:BOTTOM RIGHT CROP,.1:LEFT CROP,.:TOP RIGHT CROP,
.1:LEFT CROP,.:REVERSED NOT SIGN,.:SQUARE LOZENGE,.:ARC,.:SEGMENT,.:SECTOR,.:TELEPHONE RECORDER,
.:POSITION INDICATOR,.:VIEWDATA SQUARE,.:PLACE OF INTEREST SIGN,.:TURNED NOT SIGN,.:WATCH,
.:HOURGLASS,.:TOP LEFT CORNER,.1:RIGHT CORNER,.:BOTTOM LEFT CORNER,.1:RIGHT CORNER,
.:TOP HALF INTEGRAL,.:BOTTOM HALF INTEGRAL,.:FROWN,.:SMILE,
.:UP ARROWHEAD BETWEEN TWO HORIZONTAL BARS,.:OPTION KEY,.:ERASE TO THE RIGHT,
.:X IN A RECTANGLE BOX,.:KEYBOARD,.:LEFT-POINTING ANGLE BRACKET,.:RIGHT-POINTING ANGLE BRACKET,
.:ERASE TO THE LEFT,.:BENZENE RING,.:CYLINDRICITY,.:ALL AROUND-PROFILE,.:SYMMETRY,.:TOTAL RUNOUT,
.:DIMENSION ORIGIN,.:CONICAL TAPER,.:SLOPE,.:COUNTERBORE,.:COUNTERSINK,
.:APL FUNCTIONAL SYMBOL I-BEAM,.3:SQUISH QUAD,.3:QUAD EQUAL,.4:DIVIDE,.4:DIAMOND,.4:JOT,.4:CIRCLE,
.3:CIRCLE STILE,.4:JOT,.3:SLASH BAR,.3:BACKSLASH BAR,.3:QUAD SLASH,.4:BACKSLASH,.4:LESS-THAN,
.4:GREATER-THAN,.3:LEFTWARDS VANE,.3:RIGHTWARDS VANE,.3:QUAD LEFTWARDS ARROW,.4:RIGHTWARDS ARROW,
.3:CIRCLE BACKSLASH,.3:DOWN TACK UNDERBAR,.3:DELTA STILE,.3:QUAD DOWN CARET,.4:DELTA,
.3:DOWN TACK JOT,.3:UPWARDS VANE,.3:QUAD UPWARDS ARROW,.3:UP TACK OVERBAR,.3:DEL STILE,
.3:QUAD UP CARET,.4:DEL,.3:UP TACK JOT,.3:DOWNWARDS VANE,.3:QUAD DOWNWARDS ARROW,
.3:QUOTE UNDERBAR,.3:DELTA UNDERBAR,.3:DIAMOND UNDERBAR,.3:JOT UNDERBAR,.3:CIRCLE UNDERBAR,
.3:UP SHOE JOT,.3:QUOTE QUAD,.3:CIRCLE STAR,.3:QUAD COLON,.3:UP TACK DIAERESIS,.3:DEL DIAERESIS,
.3:STAR DIAERESIS,.3:JOT DIAERESIS,.3:CIRCLE DIAERESIS,.3:DOWN SHOE STILE,.3:LEFT SHOE STILE,
.3:TILDE DIAERESIS,.3:GREATER-THAN DIAERESIS,.3:COMMA BAR,.3:DEL TILDE,.3:ZILDE,.3:STILE TILDE,
.3:SEMICOLON UNDERBAR,.3:QUAD NOT EQUAL,.4:QUESTION,.3:DOWN CARET TILDE,.3:UP CARET TILDE,.3:IOTA,
.3:RHO,.3:OMEGA,.3:ALPHA UNDERBAR,.3:EPSILON UNDERBAR,.3:IOTA UNDERBAR,.3:OMEGA UNDERBAR,.3:ALPHA,
.:NOT CHECK MARK,.:RIGHT ANGLE WITH DOWNWARDS ZIGZAG ARROW,.:SHOULDERED OPEN BOX,.:BELL SYMBOL,
.:VERTICAL LINE WITH MIDDLE DOT,.:INSERTION SYMBOL,.:CONTINUOUS UNDERLINE SYMBOL,
.:DISCONTINUOUS UNDERLINE SYMBOL,.:EMPHASIS SYMBOL,.:COMPOSITION SYMBOL,
.:WHITE SQUARE WITH CENTRE VERTICAL LINE,.:ENTER SYMBOL,.:ALTERNATIVE KEY SYMBOL,.:HELM SYMBOL,
.:CIRCLED HORIZONTAL BAR WITH NOTCH,.1:TRIANGLE DOWN,.:BROKEN CIRCLE WITH NORTHWEST ARROW,
.:UNDO SYMBOL,.:MONOSTABLE SYMBOL,.:HYSTERESIS SYMBOL,.:OPEN-CIRCUIT-OUTPUT H-TYPE SYMBOL,
.1:L-TYPE SYMBOL,.:PASSIVE-PULL-DOWN-OUTPUT SYMBOL,.:PASSIVE-PULL-UP-OUTPUT SYMBOL,
.:DIRECT CURRENT SYMBOL FORM TWO,.:SOFTWARE-FUNCTION SYMBOL,.:APL FUNCTIONAL SYMBOL QUAD,
.:DECIMAL SEPARATOR KEY SYMBOL,.:PREVIOUS PAGE,.:NEXT PAGE,.:PRINT SCREEN SYMBOL,
.:CLEAR SCREEN SYMBOL,.:LEFT PARENTHESIS UPPER HOOK,.2:EXTENSION,.2:LOWER HOOK,
.:RIGHT PARENTHESIS UPPER HOOK,.2:EXTENSION,.2:LOWER HOOK,.:LEFT SQUARE BRACKET UPPER CORNER,
.3:EXTENSION,.3:LOWER CORNER,.:RIGHT SQUARE BRACKET UPPER CORNER,.3:EXTENSION,.3:LOWER CORNER,
.:LEFT CURLY BRACKET UPPER HOOK,.3:MIDDLE PIECE,.3:LOWER HOOK,.:CURLY BRACKET EXTENSION,
.:RIGHT CURLY BRACKET UPPER HOOK,.3:MIDDLE PIECE,.3:LOWER HOOK,.:INTEGRAL EXTENSION,
.:HORIZONTAL LINE EXTENSION,.:UPPER LEFT OR LOWER RIGHT CURLY BRACKET SECTION,
.1:RIGHT OR LOWER LEFT CURLY BRACKET SECTION,.:SUMMATION TOP,.1:BOTTOM,.:TOP SQUARE BRACKET,
.:BOTTOM SQUARE BRACKET,.3:OVER TOP SQUARE BRACKET,.:RADICAL SYMBOL BOTTOM,
.:LEFT VERTICAL BOX LINE,.:RIGHT VERTICAL BOX LINE,.:HORIZONTAL SCAN LINE-1,.2:LINE-3,.2:LINE-7,
.2:LINE-9,.:DENTISTRY SYMBOL LIGHT VERTICAL AND TOP RIGHT,.5:BOTTOM RIGHT,.4:WITH CIRCLE,
.3:DOWN AND HORIZONTAL WITH CIRCLE,.3:UP AND HORIZONTAL WITH CIRCLE,.3:VERTICAL WITH TRIANGLE,
.3:DOWN AND HORIZONTAL WITH TRIANGLE,.3:UP AND HORIZONTAL WITH TRIANGLE,.3:VERTICAL AND WAVE,
.3:DOWN AND HORIZONTAL WITH WAVE,.3:UP AND HORIZONTAL WITH WAVE,.3:DOWN AND HORIZONTAL,
.3:UP AND HORIZONTAL,.3:VERTICAL AND TOP LEFT,.5:BOTTOM LEFT,.:SQUARE FOOT,.:RETURN SYMBOL,
.:EJECT SYMBOL,.:VERTICAL LINE EXTENSION,.:METRICAL BREVE,.1:LONG OVER SHORT,.1:SHORT OVER LONG,
.1:LONG OVER TWO SHORTS,.1:TWO SHORTS OVER LONG,.3:JOINED,.1:TRISEME,.1:TETRASEME,.1:PENTASEME,
.:EARTH GROUND,.:FUSE,.:TOP PARENTHESIS,.:BOTTOM PARENTHESIS,.:TOP CURLY BRACKET,
.:BOTTOM CURLY BRACKET,.:TOP TORTOISE SHELL BRACKET,.:BOTTOM TORTOISE SHELL BRACKET,
.:WHITE TRAPEZIUM,.:BENZENE RING WITH CIRCLE,.:STRAIGHTNESS,.:FLATNESS,.:AC CURRENT,
.:ELECTRICAL INTERSECTION,.:DECIMAL EXPONENT SYMBOL,.:BLACK RIGHT-POINTING DOUBLE TRIANGLE,
.1:LEFT-POINTING DOUBLE TRIANGLE,.1:UP-POINTING DOUBLE TRIANGLE,.1:DOWN-POINTING DOUBLE TRIANGLE,
.1:RIGHT-POINTING DOUBLE TRIANGLE WITH VERTICAL BAR,
.1:LEFT-POINTING DOUBLE TRIANGLE WITH VERTICAL BAR,
.1:RIGHT-POINTING TRIANGLE WITH DOUBLE VERTICAL BAR,.:ALARM CLOCK,.:STOPWATCH,.:TIMER CLOCK,
.:HOURGLASS WITH FLOWING SAND,.:BLACK MEDIUM LEFT-POINTING TRIANGLE,.2:RIGHT-POINTING TRIANGLE,
.2:UP-POINTING TRIANGLE,.2:DOWN-POINTING TRIANGLE,.:DOUBLE VERTICAL BAR,.:BLACK SQUARE FOR STOP,
.1:CIRCLE FOR RECORD,.:POWER SYMBOL,.1:ON-OFF SYMBOL,.1:ON SYMBOL,.1:SLEEP SYMBOL,
.:OBSERVER EYE SYMBOL,.:SYMBOL FOR NULL,.2:START OF HEADING,.4:TEXT,.2:END OF TEXT,
.4:TRANSMISSION,.2:ENQUIRY,.2:ACKNOWLEDGE,.2:BELL,.2:BACKSPACE,.2:HORIZONTAL TABULATION,
.2:LINE FEED,.2:VERTICAL TABULATION,.2:FORM FEED,.2:CARRIAGE RETURN,.2:SHIFT OUT,.3:IN,
.2:DATA LINK ESCAPE,.2:DEVICE CONTROL ONE,.4:TWO,.4:THREE,.4:FOUR,.2:NEGATIVE ACKNOWLEDGE,
.2:SYNCHRONOUS IDLE,.2:END OF TRANSMISSION BLOCK,.2:CANCEL,.2:END OF MEDIUM,.2:SUBSTITUTE,
.2:ESCAPE,.2:FILE SEPARATOR,.2:GROUP SEPARATOR,.2:RECORD SEPARATOR,.2:UNIT SEPARATOR,.2:SPACE,
.2:DELETE,.:BLANK SYMBOL,.:OPEN BOX,.:SYMBOL FOR NEWLINE,.2:DELETE FORM TWO,
.2:SUBSTITUTE FORM TWO,1A.:OCR HOOK,.1:CHAIR,.1:FORK,.1:INVERTED FORK,.1:BELT BUCKLE,.1:BOW TIE,
.1:BRANCH BANK IDENTIFICATION,.1:AMOUNT OF CHECK,.:MICR ON US SYMBOL,0.:OCR DASH,
.:MICR DASH SYMBOL,0.:OCR CUSTOMER ACCOUNT NUMBER,.1:DOUBLE BACKSLASH,16.:CIRCLED DIGIT ONE,
.2:TWO,.2:THREE,.2:FOUR,.2:FIVE,.2:SIX,.2:SEVEN,.2:EIGHT,.2:NINE,.1:NUMBER TEN,.2:ELEVEN,
.2:TWELVE,.2:THIRTEEN,.2:FOURTEEN,.2:FIFTEEN,.2:SIXTEEN,.2:SEVENTEEN,.2:EIGHTEEN,.2:NINETEEN,
.2:TWENTY,.:PARENTHESIZED DIGIT ONE,.2:TWO,.2:THREE,.2:FOUR,.2:FIVE,.2:SIX,.2:SEVEN,.2:EIGHT,
.2:NINE,.1:NUMBER TEN,.2:ELEVEN,.2:TWELVE,.2:THIRTEEN,.2:FOURTEEN,.2:FIFTEEN,.2:SIXTEEN,
.2:SEVENTEEN,.2:EIGHTEEN,.2:NINETEEN,.2:TWENTY,.:DIGIT ONE FULL STOP,.1:TWO FULL STOP,
.1:THREE FULL STOP,.1:FOUR FULL STOP,.1:FIVE FULL STOP,.1:SIX FULL STOP,.1:SEVEN FULL STOP,
.1:EIGHT FULL STOP,.1:NINE FULL STOP,.:NUMBER TEN FULL STOP,.1:ELEVEN FULL STOP,
.1:TWELVE FULL STOP,.1:THIRTEEN FULL STOP,.1:FOURTEEN FULL STOP,.1:FIFTEEN FULL STOP,
.1:SIXTEEN FULL STOP,.1:SEVENTEEN FULL STOP,.1:EIGHTEEN FULL STOP,.1:NINETEEN FULL STOP,
.1:TWENTY FULL STOP,.:PARENTHESIZED LATIN SMALL LETTER A,.4:B,.4:C,.4:D,.4:E,.4:F,.4:G,.4:H,.4:I,
.4:J,.4:K,.4:L,.4:M,.4:N,.4:O,.4:P,.4:Q,.4:R,.4:S,.4:T,.4:U,.4:V,.4:W,.4:X,.4:Y,.4:Z,
.:CIRCLED LATIN CAPITAL LETTER A,.4:B,.4:C,.4:D,.4:E,.4:F,.4:G,.4:H,.4:I,.4:J,.4:K,.4:L,.4:M,.4:N,
.4:O,.4:P,.4:Q,.4:R,.4:S,.4:T,.4:U,.4:V,.4:W,.4:X,.4:Y,.4:Z,.2:SMALL LETTER A,.4:B,.4:C,.4:D,.4:E,
.4:F,.4:G,.4:H,.4:I,.4:J,.4:K,.4:L,.4:M,.4:N,.4:O,.4:P,.4:Q,.4:R,.4:S,.4:T,.4:U,.4:V,.4:W,.4:X,
.4:Y,.4:Z,.1:DIGIT ZERO,.:NEGATIVE CIRCLED NUMBER ELEVEN,.3:TWELVE,.3:THIRTEEN,.3:FOURTEEN,
.3:FIFTEEN,.3:SIXTEEN,.3:SEVENTEEN,.3:EIGHTEEN,.3:NINETEEN,.3:TWENTY,.:DOUBLE CIRCLED DIGIT ONE,
.3:TWO,.3:THREE,.3:FOUR,.3:FIVE,.3:SIX,.3:SEVEN,.3:EIGHT,.3:NINE,.2:NUMBER TEN,
.:NEGATIVE CIRCLED DIGIT ZERO,.:BOX DRAWINGS LIGHT HORIZONTAL,.2:HEAVY HORIZONTAL,
.2:LIGHT VERTICAL,.2:HEAVY VERTICAL,.2:LIGHT TRIPLE DASH HORIZONTAL,
.2:HEAVY TRIPLE DASH HORIZONTAL,.2:LIGHT TRIPLE DASH VERTICAL,.2:HEAVY TRIPLE DASH VERTICAL,
.2:LIGHT QUADRUPLE DASH HORIZONTAL,.2:HEAVY QUADRUPLE DASH HORIZONTAL,
.2:LIGHT QUADRUPLE DASH VERTICAL,.2:HEAVY QUADRUPLE DASH VERTICAL,.2:LIGHT DOWN AND RIGHT,
.2:DOWN LIGHT AND RIGHT HEAVY,.3:HEAVY AND RIGHT LIGHT,.2:HEAVY DOWN AND RIGHT,
.2:LIGHT DOWN AND LEFT,.2:DOWN LIGHT AND LEFT HEAVY,.3:HEAVY AND LEFT LIGHT,
.2:HEAVY DOWN AND LEFT,.2:LIGHT UP AND RIGHT,.2:UP LIGHT AND RIGHT HEAVY,.3:HEAVY AND RIGHT LIGHT,
.2:HEAVY UP AND RIGHT,.2:LIGHT UP AND LEFT,.2:UP LIGHT AND LEFT HEAVY,.3:HEAVY AND LEFT LIGHT,
.2:HEAVY UP AND LEFT,.2:LIGHT VERTICAL AND RIGHT,.2:VERTICAL LIGHT AND RIGHT HEAVY,
.2:UP HEAVY AND RIGHT DOWN LIGHT,.2:DOWN HEAVY AND RIGHT UP LIGHT,
.2:VERTICAL HEAVY AND RIGHT LIGHT,.2:DOWN LIGHT AND RIGHT UP HEAVY,
.2:UP LIGHT AND RIGHT DOWN HEAVY,.2:HEAVY VERTICAL AND RIGHT,.2:LIGHT VERTICAL AND LEFT,
.2:VERTICAL LIGHT AND LEFT HEAVY,.2:UP HEAVY AND LEFT DOWN LIGHT,.2:DOWN HEAVY AND LEFT UP LIGHT,
.2:VERTICAL HEAVY AND LEFT LIGHT,.2:DOWN LIGHT AND LEFT UP HEAVY,.2:UP LIGHT AND LEFT DOWN HEAVY,
.2:HEAVY VERTICAL AND LEFT,.2:LIGHT DOWN AND HORIZONTAL,.2:LEFT HEAVY AND RIGHT DOWN LIGHT,
.2:RIGHT HEAVY AND LEFT DOWN LIGHT,.2:DOWN LIGHT AND HORIZONTAL HEAVY,
.3:HEAVY AND HORIZONTAL LIGHT,.2:RIGHT LIGHT AND LEFT DOWN HEAVY,
.2:LEFT LIGHT AND RIGHT DOWN HEAVY,.2:HEAVY DOWN AND HORIZONTAL,.2:LIGHT UP AND HORIZONTAL,
.2:LEFT HEAVY AND RIGHT UP LIGHT,.2:RIGHT HEAVY AND LEFT UP LIGHT,
.2:UP LIGHT AND HORIZONTAL HEAVY,.3:HEAVY AND HORIZONTAL LIGHT,.2:RIGHT LIGHT AND LEFT UP HEAVY,
.2:LEFT LIGHT AND RIGHT UP HEAVY,.2:HEAVY UP AND HORIZONTAL,.2:LIGHT VERTICAL AND HORIZONTAL,
.2:LEFT HEAVY AND RIGHT VERTICAL LIGHT,.2:RIGHT HEAVY AND LEFT VERTICAL LIGHT,
.2:VERTICAL LIGHT AND HORIZONTAL HEAVY,.2:UP HEAVY AND DOWN HORIZONTAL LIGHT,
.2:DOWN HEAVY AND UP HORIZONTAL LIGHT,.2:VERTICAL HEAVY AND HORIZONTAL LIGHT,
.2:LEFT UP HEAVY AND RIGHT DOWN LIGHT,.2:RIGHT UP HEAVY AND LEFT DOWN LIGHT,
.2:LEFT DOWN HEAVY AND RIGHT UP LIGHT,.2:RIGHT DOWN HEAVY AND LEFT UP LIGHT,
.2:DOWN LIGHT AND UP HORIZONTAL HEAVY,.2:UP LIGHT AND DOWN HORIZONTAL HEAVY,
.2:RIGHT LIGHT AND LEFT VERTICAL HEAVY,.2:LEFT LIGHT AND RIGHT VERTICAL HEAVY,
.2:HEAVY VERTICAL AND HORIZONTAL,.2:LIGHT DOUBLE DASH HORIZONTAL,.2:HEAVY DOUBLE DASH HORIZONTAL,
.2:LIGHT DOUBLE DASH VERTICAL,.2:HEAVY DOUBLE DASH VERTICAL,.2:DOUBLE HORIZONTAL,.3:VERTICAL,
.2:DOWN SINGLE AND RIGHT DOUBLE,.3:DOUBLE AND RIGHT SINGLE,.2:DOUBLE DOWN AND RIGHT,
.2:DOWN SINGLE AND LEFT DOUBLE,.3:DOUBLE AND LEFT SINGLE,.2:DOUBLE DOWN AND LEFT,
.2:UP SINGLE AND RIGHT DOUBLE,.3:DOUBLE AND RIGHT SINGLE,.2:DOUBLE UP AND RIGHT,
.2:UP SINGLE AND LEFT DOUBLE,.3:DOUBLE AND LEFT SINGLE,.2:DOUBLE UP AND LEFT,
.2:VERTICAL SINGLE AND RIGHT DOUBLE,.3:DOUBLE AND RIGHT SINGLE,.2:DOUBLE VERTICAL AND RIGHT,
.2:VERTICAL SINGLE AND LEFT DOUBLE,.3:DOUBLE AND LEFT SINGLE,.2:DOUBLE VERTICAL AND LEFT,
.2:DOWN SINGLE AND HORIZONTAL DOUBLE,.3:DOUBLE AND HORIZONTAL SINGLE,
.2:DOUBLE DOWN AND HORIZONTAL,.2:UP SINGLE AND HORIZONTAL DOUBLE,.3:DOUBLE AND HORIZONTAL SINGLE,
.2:DOUBLE UP AND HORIZONTAL,.2:VERTICAL SINGLE AND HORIZONTAL DOUBLE,
.3:DOUBLE AND HORIZONTAL SINGLE,.2:DOUBLE VERTICAL AND HORIZONTAL,.2:LIGHT ARC DOWN AND RIGHT,
.6:LEFT,.4:UP AND LEFT,.6:RIGHT,.3:DIAGONAL UPPER RIGHT TO LOWER LEFT,.5:LEFT TO LOWER RIGHT,
.4:CROSS,.3:LEFT,.3:UP,.3:RIGHT,.3:DOWN,.2:HEAVY LEFT,.3:UP,.3:RIGHT,.3:DOWN,
.2:LIGHT LEFT AND HEAVY RIGHT,.3:UP AND HEAVY DOWN,.2:HEAVY LEFT AND LIGHT RIGHT,
.3:UP AND LIGHT DOWN,.:UPPER HALF BLOCK,.:LOWER ONE EIGHTH BLOCK,.2:QUARTER BLOCK,
.1:THREE EIGHTHS BLOCK,.1:HALF BLOCK,.1:FIVE EIGHTHS BLOCK,.1:THREE QUARTERS BLOCK,
.1:SEVEN EIGHTHS BLOCK,.:FULL BLOCK,.:LEFT SEVEN EIGHTHS BLOCK,.1:THREE QUARTERS BLOCK,
.1:FIVE EIGHTHS BLOCK,.1:HALF BLOCK,.1:THREE EIGHTHS BLOCK,.1:ONE QUARTER BLOCK,.2:EIGHTH BLOCK,
.:RIGHT HALF BLOCK,.:LIGHT SHADE,.:MEDIUM SHADE,.:DARK SHADE,.:UPPER ONE EIGHTH BLOCK,
.:RIGHT ONE EIGHTH BLOCK,.:QUADRANT LOWER LEFT,.2:RIGHT,.1:UPPER LEFT,
.3:AND LOWER LEFT AND LOWER RIGHT,.5:RIGHT,.4:UPPER RIGHT AND LOWER LEFT,.8:RIGHT,.2:RIGHT,
.3:AND LOWER LEFT,.6:AND LOWER RIGHT,.:BLACK SQUARE,.:WHITE SQUARE,.2:WITH ROUNDED CORNERS,
.2:CONTAINING BLACK SMALL SQUARE,.:SQUARE WITH HORIZONTAL FILL,.2:VERTICAL FILL,
.2:ORTHOGONAL CROSSHATCH FILL,.2:UPPER LEFT TO LOWER RIGHT FILL,.3:RIGHT TO LOWER LEFT FILL,
.2:DIAGONAL CROSSHATCH FILL,.:BLACK SMALL SQUARE,.:WHITE SMALL SQUARE,.:BLACK RECTANGLE,
.:WHITE RECTANGLE,.:BLACK VERTICAL RECTANGLE,.:WHITE VERTICAL RECTANGLE,.:BLACK PARALLELOGRAM,
.:WHITE PARALLELOGRAM,.:BLACK UP-POINTING TRIANGLE,.:WHITE UP-POINTING TRIANGLE,
.:BLACK UP-POINTING SMALL TRIANGLE,.:WHITE UP-POINTING SMALL TRIANGLE,
.:BLACK RIGHT-POINTING TRIANGLE,.:WHITE RIGHT-POINTING TRIANGLE,
.:BLACK RIGHT-POINTING SMALL TRIANGLE,.:WHITE RIGHT-POINTING SMALL TRIANGLE,
.:BLACK RIGHT-POINTING POINTER,.:WHITE RIGHT-POINTING POINTER,.:BLACK DOWN-POINTING TRIANGLE,
.:WHITE DOWN-POINTING TRIANGLE,.:BLACK DOWN-POINTING SMALL TRIANGLE,
.:WHITE DOWN-POINTING SMALL TRIANGLE,.:BLACK LEFT-POINTING TRIANGLE,
.:WHITE LEFT-POINTING TRIANGLE,.:BLACK LEFT-POINTING SMALL TRIANGLE,
.:WHITE LEFT-POINTING SMALL TRIANGLE,.:BLACK LEFT-POINTING POINTER,.:WHITE LEFT-POINTING POINTER,
.:BLACK DIAMOND,.:WHITE DIAMOND,.2:CONTAINING BLACK SMALL DIAMOND,.:FISHEYE,.:LOZENGE,
.:WHITE CIRCLE,.:DOTTED CIRCLE,.:CIRCLE WITH VERTICAL FILL,.:BULLSEYE,.:BLACK CIRCLE,
.:CIRCLE WITH LEFT HALF BLACK,.2:RIGHT HALF BLACK,.2:LOWER HALF BLACK,.2:UPPER HALF BLACK,
.3:RIGHT QUADRANT BLACK,.2:ALL BUT UPPER LEFT QUADRANT BLACK,.:LEFT HALF BLACK CIRCLE,
.:RIGHT HALF BLACK CIRCLE,.:INVERSE BULLET,.1:WHITE CIRCLE,.:UPPER HALF INVERSE WHITE CIRCLE,
.:LOWER HALF INVERSE WHITE CIRCLE,.:UPPER LEFT QUADRANT CIRCULAR ARC,
.1:RIGHT QUADRANT CIRCULAR ARC,.:LOWER RIGHT QUADRANT CIRCULAR ARC,.1:LEFT QUADRANT CIRCULAR ARC,
.:UPPER HALF CIRCLE,.:LOWER HALF CIRCLE,.:BLACK LOWER RIGHT TRIANGLE,.2:LEFT TRIANGLE,
.1:UPPER LEFT TRIANGLE,.2:RIGHT TRIANGLE,.:WHITE BULLET,.:SQUARE WITH LEFT HALF BLACK,
.2:RIGHT HALF BLACK,.2:UPPER LEFT DIAGONAL HALF BLACK,.2:LOWER RIGHT DIAGONAL HALF BLACK,
.:WHITE SQUARE WITH VERTICAL BISECTING LINE,.1:UP-POINTING TRIANGLE WITH DOT,
.:UP-POINTING TRIANGLE WITH LEFT HALF BLACK,.3:RIGHT HALF BLACK,.:LARGE CIRCLE,
.:WHITE SQUARE WITH UPPER LEFT QUADRANT,.3:LOWER LEFT QUADRANT,.4:RIGHT QUADRANT,
.3:UPPER RIGHT QUADRANT,.1:CIRCLE WITH UPPER LEFT QUADRANT,.3:LOWER LEFT QUADRANT,
.4:RIGHT QUADRANT,.3:UPPER RIGHT QUADRANT,.:UPPER LEFT TRIANGLE,.1:RIGHT TRIANGLE,
.:LOWER LEFT TRIANGLE,.:WHITE MEDIUM SQUARE,.:BLACK MEDIUM SQUARE,.:WHITE MEDIUM SMALL SQUARE,
.:BLACK MEDIUM SMALL SQUARE,.:LOWER RIGHT TRIANGLE,.:BLACK SUN WITH RAYS,.:CLOUD,.:UMBRELLA,
.:SNOWMAN,.:COMET,.:BLACK STAR,.:WHITE STAR,.:LIGHTNING,.:THUNDERSTORM,.:SUN,.:ASCENDING NODE,
.:DESCENDING NODE,.:CONJUNCTION,.:OPPOSITION,.:BLACK TELEPHONE,.:WHITE TELEPHONE,.:BALLOT BOX,
.2:WITH CHECK,.3:X,.:SALTIRE,.:UMBRELLA WITH RAIN DROPS,.:HOT BEVERAGE,.:WHITE SHOGI PIECE,
.:BLACK SHOGI PIECE,.:SHAMROCK,.:REVERSED ROTATED FLORAL HEART BULLET,.:BLACK LEFT POINTING INDEX,
.1:RIGHT POINTING INDEX,.:WHITE LEFT POINTING INDEX,.1:UP POINTING INDEX,.1:RIGHT POINTING INDEX,
.1:DOWN POINTING INDEX,.:SKULL AND CROSSBONES,.:CAUTION SIGN,.:RADIOACTIVE SIGN,.:BIOHAZARD SIGN,
.:CADUCEUS,.:ANKH,.:ORTHODOX CROSS,.:CHI RHO,.:CROSS OF LORRAINE,.2:JERUSALEM,.:STAR AND CRESCENT,
.:FARSI SYMBOL,.:ADI SHAKTI,.:HAMMER AND SICKLE,.:PEACE SYMBOL,.:YIN YANG,.:TRIGRAM FOR HEAVEN,
.2:LAKE,.2:FIRE,.2:THUNDER,.2:WIND,.2:WATER,.2:MOUNTAIN,.2:EARTH,.:WHEEL OF DHARMA,
.:WHITE FROWNING FACE,.1:SMILING FACE,.:BLACK SMILING FACE,.:WHITE SUN WITH RAYS,
.:FIRST QUARTER MOON,.:LAST QUARTER MOON,.:MERCURY,.:FEMALE SIGN,.:EARTH,.:MALE SIGN,.:JUPITER,
.:SATURN,.:URANUS,.:NEPTUNE,.:PLUTO,.:ARIES,.:TAURUS,.:GEMINI,.:CANCER,.:LEO,.:VIRGO,.:LIBRA,
.:SCORPIUS,.:SAGITTARIUS,.:CAPRICORN,.:AQUARIUS,.:PISCES,.:WHITE CHESS KING,.2:QUEEN,.2:ROOK,
.2:BISHOP,.2:KNIGHT,.2:PAWN,.:BLACK CHESS KING,.2:QUEEN,.2:ROOK,.2:BISHOP,.2:KNIGHT,.2:PAWN,
.1:SPADE SUIT,.:WHITE HEART SUIT,.1:DIAMOND SUIT,.:BLACK CLUB SUIT,.:WHITE SPADE SUIT,
.:BLACK HEART SUIT,.1:DIAMOND SUIT,.:WHITE CLUB SUIT,.:HOT SPRINGS,.:QUARTER NOTE,.:EIGHTH NOTE,
.:BEAMED EIGHTH NOTES,.1:SIXTEENTH NOTES,.:MUSIC FLAT SIGN,.1:NATURAL SIGN,.1:SHARP SIGN,
.:WEST SYRIAC CROSS,.:EAST SYRIAC CROSS,.:UNIVERSAL RECYCLING SYMBOL,
.:RECYCLING SYMBOL FOR TYPE-1 PLASTICS,.3:TYPE-2 PLASTICS,.3:TYPE-3 PLASTICS,.3:TYPE-4 PLASTICS,
.3:TYPE-5 PLASTICS,.3:TYPE-6 PLASTICS,.3:TYPE-7 PLASTICS,.3:GENERIC MATERIALS,
.:BLACK UNIVERSAL RECYCLING SYMBOL,.:RECYCLED PAPER SYMBOL,.:PARTIALLY-RECYCLED PAPER SYMBOL,
.:PERMANENT PAPER SIGN,.:WHEELCHAIR SYMBOL,.:DIE FACE-1,.1:FACE-2,.1:FACE-3,.1:FACE-4,.1:FACE-5,
.1:FACE-6,.:WHITE CIRCLE WITH DOT RIGHT,.3:TWO DOTS,.:BLACK CIRCLE WITH WHITE DOT RIGHT,
.3:TWO WHITE DOTS,.:MONOGRAM FOR YANG,.2:YIN,.:DIGRAM FOR GREATER YANG,.2:LESSER YIN,.3:YANG,
.2:GREATER YIN,.:WHITE FLAG,.:BLACK FLAG,.:HAMMER AND PICK,.:ANCHOR,.:CROSSED SWORDS,
.:STAFF OF AESCULAPIUS,.:SCALES,.:ALEMBIC,.:FLOWER,.:GEAR,.:STAFF OF HERMES,.:ATOM SYMBOL,
.:FLEUR-DE-LIS,.:OUTLINED WHITE STAR,.:THREE LINES CONVERGING RIGHT,.3:LEFT,.:WARNING SIGN,
.:HIGH VOLTAGE SIGN,.:DOUBLED FEMALE SIGN,.1:MALE SIGN,.:INTERLOCKED FEMALE AND MALE SIGN,
.:MALE AND FEMALE SIGN,.1:WITH STROKE SIGN,.3:AND MALE AND FEMALE SIGN,
.:VERTICAL MALE WITH STROKE SIGN,.:HORIZONTAL MALE WITH STROKE SIGN,.:MEDIUM WHITE CIRCLE,
.1:BLACK CIRCLE,.1:SMALL WHITE CIRCLE,.:MARRIAGE SYMBOL,.:DIVORCE SYMBOL,
.:UNMARRIED PARTNERSHIP SYMBOL,.:COFFIN,.:FUNERAL URN,.:NEUTER,.:CERES,.:PALLAS,.:JUNO,.:VESTA,
.:CHIRON,.:BLACK MOON LILITH,.:SEXTILE,.:SEMISEXTILE,.:QUINCUNX,.:SESQUIQUADRATE,.:SOCCER BALL,
.:BASEBALL,.:SQUARED KEY,.:WHITE DRAUGHTS MAN,.2:KING,.:BLACK DRAUGHTS MAN,.2:KING,
.:SNOWMAN WITHOUT SNOW,.:SUN BEHIND CLOUD,.:RAIN,.:BLACK SNOWMAN,.:THUNDER CLOUD AND RAIN,
.:TURNED WHITE SHOGI PIECE,.1:BLACK SHOGI PIECE,.:WHITE DIAMOND IN SQUARE,.:CROSSING LANES,
.:DISABLED CAR,.:OPHIUCHUS,.:PICK,.:CAR SLIDING,.:HELMET WITH WHITE CROSS,
.:CIRCLED CROSSING LANES,.:CHAINS,.:NO ENTRY,.:ALTERNATE ONE-WAY LEFT WAY TRAFFIC,
.:BLACK TWO-WAY LEFT WAY TRAFFIC,.:WHITE TWO-WAY LEFT WAY TRAFFIC,.:BLACK LEFT LANE MERGE,
.:WHITE LEFT LANE MERGE,.:DRIVE SLOW SIGN,.:HEAVY WHITE DOWN-POINTING TRIANGLE,
.:LEFT CLOSED ENTRY,.:SQUARED SALTIRE,.:FALLING DIAGONAL IN WHITE CIRCLE IN BLACK SQUARE,
.:BLACK TRUCK,.:RESTRICTED LEFT ENTRY-1,.2:ENTRY-2,.:ASTRONOMICAL SYMBOL FOR URANUS,
.:HEAVY CIRCLE WITH STROKE AND TWO DOTS ABOVE,.:PENTAGRAM,.:RIGHT-HANDED INTERLACED PENTAGRAM,
.:LEFT-HANDED INTERLACED PENTAGRAM,.:INVERTED PENTAGRAM,.:BLACK CROSS ON SHIELD,.:SHINTO SHRINE,
.:CHURCH,.:CASTLE,.:HISTORIC SITE,.:GEAR WITHOUT HUB,.1:WITH HANDLES,.:MAP SYMBOL FOR LIGHTHOUSE,
.:MOUNTAIN,.:UMBRELLA ON GROUND,.:FOUNTAIN,.:FLAG IN HOLE,.:FERRY,.:SAILBOAT,
.:SQUARE FOUR CORNERS,.:SKIER,.:ICE SKATE,.:PERSON WITH BALL,.:TENT,.:JAPANESE BANK SYMBOL,
.:HEADSTONE GRAVEYARD SYMBOL,.:FUEL PUMP,.:CUP ON BLACK SQUARE,
.:WHITE FLAG WITH HORIZONTAL MIDDLE BLACK STRIPE,.:BLACK SAFETY SCISSORS,.:UPPER BLADE SCISSORS,
.:BLACK SCISSORS,.:LOWER BLADE SCISSORS,.:WHITE SCISSORS,.1:HEAVY CHECK MARK,
.:TELEPHONE LOCATION SIGN,.:TAPE DRIVE,.:AIRPLANE,.:ENVELOPE,.:RAISED FIST,.1:HAND,.:VICTORY HAND,
.:WRITING HAND,.:LOWER RIGHT PENCIL,.:PENCIL,.:UPPER RIGHT PENCIL,.:WHITE NIB,.:BLACK NIB,
.:CHECK MARK,.:HEAVY CHECK MARK,.:MULTIPLICATION X,.:HEAVY MULTIPLICATION X,.:BALLOT X,
.:HEAVY BALLOT X,.:OUTLINED GREEK CROSS,.:HEAVY GREEK CROSS,.:OPEN CENTRE CROSS,
.:HEAVY OPEN CENTRE CROSS,.:LATIN CROSS,.:SHADOWED WHITE LATIN CROSS,.:OUTLINED LATIN CROSS,
.:MALTESE CROSS,.:STAR OF DAVID,.:FOUR TEARDROP-SPOKED ASTERISK,.1:BALLOON-SPOKED ASTERISK,
.:HEAVY FOUR BALLOON-SPOKED ASTERISK,.:FOUR CLUB-SPOKED ASTERISK,.:BLACK FOUR POINTED STAR,
.:WHITE FOUR POINTED STAR,.:SPARKLES,.:STRESS OUTLINED WHITE STAR,.:CIRCLED WHITE STAR,
.:OPEN CENTRE BLACK STAR,.:BLACK CENTRE WHITE STAR,.:OUTLINED BLACK STAR,
.:HEAVY OUTLINED BLACK STAR,.:PINWHEEL STAR,.:SHADOWED WHITE STAR,.:HEAVY ASTERISK,
.:OPEN CENTRE ASTERISK,.:EIGHT SPOKED ASTERISK,.1:POINTED BLACK STAR,.2:PINWHEEL STAR,
.:SIX POINTED BLACK STAR,.:EIGHT POINTED RECTILINEAR BLACK STAR,
.:HEAVY EIGHT POINTED RECTILINEAR BLACK STAR,.:TWELVE POINTED BLACK STAR,
.:SIXTEEN POINTED ASTERISK,.:TEARDROP-SPOKED ASTERISK,.:OPEN CENTRE TEARDROP-SPOKED ASTERISK,
.:HEAVY TEARDROP-SPOKED ASTERISK,.:SIX PETALLED BLACK AND WHITE FLORETTE,.:BLACK FLORETTE,
.:WHITE FLORETTE,.:EIGHT PETALLED OUTLINED BLACK FLORETTE,
.:CIRCLED OPEN CENTRE EIGHT POINTED STAR,.:HEAVY TEARDROP-SPOKED PINWHEEL ASTERISK,.:SNOWFLAKE,
.:TIGHT TRIFOLIATE SNOWFLAKE,.:HEAVY CHEVRON SNOWFLAKE,.:SPARKLE,.:HEAVY SPARKLE,
.:BALLOON-SPOKED ASTERISK,.:EIGHT TEARDROP-SPOKED PROPELLER ASTERISK,
.:HEAVY EIGHT TEARDROP-SPOKED PROPELLER ASTERISK,.:CROSS MARK,.:SHADOWED WHITE CIRCLE,
.:NEGATIVE SQUARED CROSS MARK,.:LOWER RIGHT DROP-SHADOWED WHITE SQUARE,
.:UPPER RIGHT DROP-SHADOWED WHITE SQUARE,.:LOWER RIGHT SHADOWED WHITE SQUARE,
.:UPPER RIGHT SHADOWED WHITE SQUARE,.:BLACK QUESTION MARK ORNAMENT,.:WHITE QUESTION MARK ORNAMENT,
.1:EXCLAMATION MARK ORNAMENT,.:BLACK DIAMOND MINUS WHITE X,.:HEAVY EXCLAMATION MARK SYMBOL,
.:LIGHT VERTICAL BAR,.:MEDIUM VERTICAL BAR,.:HEAVY VERTICAL BAR,
.1:SINGLE TURNED COMMA QUOTATION MARK ORNAMENT,.2:COMMA QUOTATION MARK ORNAMENT,
.1:DOUBLE TURNED COMMA QUOTATION MARK ORNAMENT,.2:COMMA QUOTATION MARK ORNAMENT,
.1:LOW SINGLE COMMA QUOTATION MARK ORNAMENT,.2:DOUBLE COMMA QUOTATION MARK ORNAMENT,
.:CURVED STEM PARAGRAPH SIGN ORNAMENT,.:HEAVY EXCLAMATION MARK ORNAMENT,
.1:HEART EXCLAMATION MARK ORNAMENT,.1:BLACK HEART,.:ROTATED HEAVY BLACK HEART BULLET,
.:FLORAL HEART,.:ROTATED FLORAL HEART BULLET,.:MEDIUM LEFT PARENTHESIS ORNAMENT,
.1:RIGHT PARENTHESIS ORNAMENT,.1:FLATTENED LEFT PARENTHESIS ORNAMENT,
.2:RIGHT PARENTHESIS ORNAMENT,.1:LEFT-POINTING ANGLE BRACKET ORNAMENT,
.1:RIGHT-POINTING ANGLE BRACKET ORNAMENT,.:HEAVY LEFT-POINTING ANGLE QUOTATION MARK ORNAMENT,
.1:RIGHT-POINTING ANGLE QUOTATION MARK ORNAMENT,.1:LEFT-POINTING ANGLE BRACKET ORNAMENT,
.1:RIGHT-POINTING ANGLE BRACKET ORNAMENT,.:LIGHT LEFT TORTOISE SHELL BRACKET ORNAMENT,
.1:RIGHT TORTOISE SHELL BRACKET ORNAMENT,.:MEDIUM LEFT CURLY BRACKET ORNAMENT,
.1:RIGHT CURLY BRACKET ORNAMENT,.:DINGBAT NEGATIVE CIRCLED DIGIT ONE,.4:TWO,.4:THREE,.4:FOUR,
.4:FIVE,.4:SIX,.4:SEVEN,.4:EIGHT,.4:NINE,.3:NUMBER TEN,.1:CIRCLED SANS-SERIF DIGIT ONE,.4:TWO,
.4:THREE,.4:FOUR,.4:FIVE,.4:SIX,.4:SEVEN,.4:EIGHT,.4:NINE,.3:NUMBER TEN,
.1:NEGATIVE CIRCLED SANS-SERIF DIGIT ONE,.5:TWO,.5:THREE,.5:FOUR,.5:FIVE,.5:SIX,.5:SEVEN,.5:EIGHT,
.5:NINE,.4:NUMBER TEN,.:HEAVY WIDE-HEADED RIGHTWARDS ARROW,.1:PLUS SIGN,.1:MINUS SIGN,
.1:DIVISION SIGN,.1:SOUTH EAST ARROW,.1:RIGHTWARDS ARROW,.1:NORTH EAST ARROW,
.:DRAFTING POINT RIGHTWARDS ARROW,.:HEAVY ROUND-TIPPED RIGHTWARDS ARROW,
.:TRIANGLE-HEADED RIGHTWARDS ARROW,.:HEAVY TRIANGLE-HEADED RIGHTWARDS ARROW,
.:DASHED TRIANGLE-HEADED RIGHTWARDS ARROW,.:HEAVY DASHED TRIANGLE-HEADED RIGHTWARDS ARROW,
.:BLACK RIGHTWARDS ARROW,.:THREE-D TOP-LIGHTED RIGHTWARDS ARROWHEAD,
.1:BOTTOM-LIGHTED RIGHTWARDS ARROWHEAD,.:BLACK RIGHTWARDS ARROWHEAD,
.:HEAVY BLACK CURVED DOWNWARDS AND RIGHTWARDS ARROW,.3:UPWARDS AND RIGHTWARDS ARROW,
.:SQUAT BLACK RIGHTWARDS ARROW,.:HEAVY CONCAVE-POINTED BLACK RIGHTWARDS ARROW,
.:RIGHT-SHADED WHITE RIGHTWARDS ARROW,.:LEFT-SHADED WHITE RIGHTWARDS ARROW,
.:BACK-TILTED SHADOWED WHITE RIGHTWARDS ARROW,.:FRONT-TILTED SHADOWED WHITE RIGHTWARDS ARROW,
.:HEAVY LOWER RIGHT-SHADOWED WHITE RIGHTWARDS ARROW,
.1:UPPER RIGHT-SHADOWED WHITE RIGHTWARDS ARROW,
.:NOTCHED LOWER RIGHT-SHADOWED WHITE RIGHTWARDS ARROW,.:CURLY LOOP,
.:NOTCHED UPPER RIGHT-SHADOWED WHITE RIGHTWARDS ARROW,.:CIRCLED HEAVY WHITE RIGHTWARDS ARROW,
.:WHITE-FEATHERED RIGHTWARDS ARROW,.:BLACK-FEATHERED SOUTH EAST ARROW,.1:RIGHTWARDS ARROW,
.1:NORTH EAST ARROW,.:HEAVY BLACK-FEATHERED SOUTH EAST ARROW,.2:RIGHTWARDS ARROW,
.2:NORTH EAST ARROW,.:TEARDROP-BARBED RIGHTWARDS ARROW,.:HEAVY TEARDROP-SHANKED RIGHTWARDS ARROW,
.:WEDGE-TAILED RIGHTWARDS ARROW,.:HEAVY WEDGE-TAILED RIGHTWARDS ARROW,
.:OPEN-OUTLINED RIGHTWARDS ARROW,.:DOUBLE CURLY LOOP,.:THREE DIMENSIONAL ANGLE,
.:WHITE TRIANGLE CONTAINING SMALL WHITE TRIANGLE,.:PERPENDICULAR,.:OPEN SUBSET,.1:SUPERSET,
.:LEFT S-SHAPED BAG DELIMITER,.:RIGHT S-SHAPED BAG DELIMITER,.:OR WITH DOT INSIDE,
.:REVERSE SOLIDUS PRECEDING SUBSET,.:SUPERSET PRECEDING SOLIDUS,
.:VERTICAL BAR WITH HORIZONTAL STROKE,.:MATHEMATICAL RISING DIAGONAL,.:LONG DIVISION,
.:MATHEMATICAL FALLING DIAGONAL,.:SQUARED LOGICAL AND,.2:OR,.:WHITE DIAMOND WITH CENTRED DOT,
.:AND WITH DOT,.:ELEMENT OF OPENING UPWARDS,.:LOWER RIGHT CORNER WITH DOT,
.:UPPER LEFT CORNER WITH DOT,.:LEFT OUTER JOIN,.:RIGHT OUTER JOIN,.:FULL OUTER JOIN,
.:LARGE UP TACK,.1:DOWN TACK,.:LEFT AND RIGHT DOUBLE TURNSTILE,.3:TACK,.1:MULTIMAP,
.:LONG RIGHT TACK,.1:LEFT TACK,.:UP TACK WITH CIRCLE ABOVE,.:LOZENGE DIVIDED BY HORIZONTAL RULE,
.:WHITE CONCAVE-SIDED DIAMOND,.3:WITH LEFTWARDS TICK,.4:RIGHTWARDS TICK,
.1:SQUARE WITH LEFTWARDS TICK,.3:RIGHTWARDS TICK,.:MATHEMATICAL LEFT WHITE SQUARE BRACKET,
.1:RIGHT WHITE SQUARE BRACKET,.1:LEFT ANGLE BRACKET,.1:RIGHT ANGLE BRACKET,
.1:LEFT DOUBLE ANGLE BRACKET,.1:RIGHT DOUBLE ANGLE BRACKET,.1:LEFT WHITE TORTOISE SHELL BRACKET,
.1:RIGHT WHITE TORTOISE SHELL BRACKET,.1:LEFT FLATTENED PARENTHESIS,
.1:RIGHT FLATTENED PARENTHESIS,.:UPWARDS QUADRUPLE ARROW,.:DOWNWARDS QUADRUPLE ARROW,
.:ANTICLOCKWISE GAPPED CIRCLE ARROW,.:CLOCKWISE GAPPED CIRCLE ARROW,
.:RIGHT ARROW WITH CIRCLED PLUS,.:LONG LEFTWARDS ARROW,.1:RIGHTWARDS ARROW,.1:LEFT RIGHT ARROW,
.1:LEFTWARDS DOUBLE ARROW,.1:RIGHTWARDS DOUBLE ARROW,.1:LEFT RIGHT DOUBLE ARROW,
.1:LEFTWARDS ARROW FROM BAR,.1:RIGHTWARDS ARROW FROM BAR,.1:LEFTWARDS DOUBLE ARROW FROM BAR,
.1:RIGHTWARDS DOUBLE ARROW FROM BAR,.2:SQUIGGLE ARROW,.:BRAILLE PATTERN BLANK,.2:DOTS-1,.2:DOTS-2,
.2:DOTS-12,.2:DOTS-3,.2:DOTS-13,.2:DOTS-23,.2:DOTS-123,.2:DOTS-4,.2:DOTS-14,.2:DOTS-24,
.2:DOTS-124,.2:DOTS-34,.2:DOTS-134,.2:DOTS-234,.2:DOTS-1234,.2:DOTS-5,.2:DOTS-15,.2:DOTS-25,
.2:DOTS-125,.2:DOTS-35,.2:DOTS-135,.2:DOTS-235,.2:DOTS-1235,.2:DOTS-45,.2:DOTS-145,.2:DOTS-245,
.2:DOTS-1245,.2:DOTS-345,.2:DOTS-1345,.2:DOTS-2345,.2:DOTS-12345,.2:DOTS-6,.2:DOTS-16,.2:DOTS-26,
.2:DOTS-126,.2:DOTS-36,.2:DOTS-136,.2:DOTS-236,.2:DOTS-1236,.2:DOTS-46,.2:DOTS-146,.2:DOTS-246,
.2:DOTS-1246,.2:DOTS-346,.2:DOTS-1346,.2:DOTS-2346,.2:DOTS-12346,.2:DOTS-56,.2:DOTS-156,
.2:DOTS-256,.2:DOTS-1256,.2:DOTS-356,.2:DOTS-1356,.2:DOTS-2356,.2:DOTS-12356,.2:DOTS-456,
.2:DOTS-1456,.2:DOTS-2456,.2:DOTS-12456,.2:DOTS-3456,.2:DOTS-13456,.2:DOTS-23456,.2:DOTS-123456,
.2:DOTS-7,.2:DOTS-17,.2:DOTS-27,.2:DOTS-127,.2:DOTS-37,.2:DOTS-137,.2:DOTS-237,.2:DOTS-1237,
.2:DOTS-47,.2:DOTS-147,.2:DOTS-247,.2:DOTS-1247,.2:DOTS-347,.2:DOTS-1347,.2:DOTS-2347,
.2:DOTS-12347,.2:DOTS-57,.2:DOTS-157,.2:DOTS-257,.2:DOTS-1257,.2:DOTS-357,.2:DOTS-1357,
.2:DOTS-2357,.2:DOTS-12357,.2:DOTS-457,.2:DOTS-1457,.2:DOTS-2457,.2:DOTS-12457,.2:DOTS-3457,
.2:DOTS-13457,.2:DOTS-23457,.2:DOTS-123457,.2:DOTS-67,.2:DOTS-167,.2:DOTS-267,.2:DOTS-1267,
.2:DOTS-367,.2:DOTS-1367,.2:DOTS-2367,.2:DOTS-12367,.2:DOTS-467,.2:DOTS-1467,.2:DOTS-2467,
.2:DOTS-12467,.2:DOTS-3467,.2:DOTS-13467,.2:DOTS-23467,.2:DOTS-123467,.2:DOTS-567,.2:DOTS-1567,
.2:DOTS-2567,.2:DOTS-12567,.2:DOTS-3567,.2:DOTS-13567,.2:DOTS-23567,.2:DOTS-123567,.2:DOTS-4567,
.2:DOTS-14567,.2:DOTS-24567,.2:DOTS-124567,.2:DOTS-34567,.2:DOTS-134567,.2:DOTS-234567,
.2:DOTS-1234567,.2:DOTS-8,.2:DOTS-18,.2:DOTS-28,.2:DOTS-128,.2:DOTS-38,.2:DOTS-138,.2:DOTS-238,
.2:DOTS-1238,.2:DOTS-48,.2:DOTS-148,.2:DOTS-248,.2:DOTS-1248,.2:DOTS-348,.2:DOTS-1348,
.2:DOTS-2348,.2:DOTS-12348,.2:DOTS-58,.2:DOTS-158,.2:DOTS-258,.2:DOTS-1258,.2:DOTS-358,
.2:DOTS-1358,.2:DOTS-2358,.2:DOTS-12358,.2:DOTS-458,.2:DOTS-1458,.2:DOTS-2458,.2:DOTS-12458,
.2:DOTS-3458,.2:DOTS-13458,.2:DOTS-23458,.2:DOTS-123458,.2:DOTS-68,.2:DOTS-168,.2:DOTS-268,
.2:DOTS-1268,.2:DOTS-368,.2:DOTS-1368,.2:DOTS-2368,.2:DOTS-12368,.2:DOTS-468,.2:DOTS-1468,
.2:DOTS-2468,.2:DOTS-12468,.2:DOTS-3468,.2:DOTS-13468,.2:DOTS-23468,.2:DOTS-123468,.2:DOTS-568,
.2:DOTS-1568,.2:DOTS-2568,.2:DOTS-12568,.2:DOTS-3568,.2:DOTS-13568,.2:DOTS-23568,.2:DOTS-123568,
.2:DOTS-4568,.2:DOTS-14568,.2:DOTS-24568,.2:DOTS-124568,.2:DOTS-34568,.2:DOTS-134568,
.2:DOTS-234568,.2:DOTS-1234568,.2:DOTS-78,.2:DOTS-178,.2:DOTS-278,.2:DOTS-1278,.2:DOTS-378,
.2:DOTS-1378,.2:DOTS-2378,.2:DOTS-12378,.2:DOTS-478,.2:DOTS-1478,.2:DOTS-2478,.2:DOTS-12478,
.2:DOTS-3478,.2:DOTS-13478,.2:DOTS-23478,.2:DOTS-123478,.2:DOTS-578,.2:DOTS-1578,.2:DOTS-2578,
.2:DOTS-12578,.2:DOTS-3578,.2:DOTS-13578,.2:DOTS-23578,.2:DOTS-123578,.2:DOTS-4578,.2:DOTS-14578,
.2:DOTS-24578,.2:DOTS-124578,.2:DOTS-34578,.2:DOTS-134578,.2:DOTS-234578,.2:DOTS-1234578,
.2:DOTS-678,.2:DOTS-1678,.2:DOTS-2678,.2:DOTS-12678,.2:DOTS-3678,.2:DOTS-13678,.2:DOTS-23678,
.2:DOTS-123678,.2:DOTS-4678,.2:DOTS-14678,.2:DOTS-24678,.2:DOTS-124678,.2:DOTS-34678,
.2:DOTS-134678,.2:DOTS-234678,.2:DOTS-1234678,.2:DOTS-5678,.2:DOTS-15678,.2:DOTS-25678,
.2:DOTS-125678,.2:DOTS-35678,.2:DOTS-135678,.2:DOTS-235678,.2:DOTS-1235678,.2:DOTS-45678,
.2:DOTS-145678,.2:DOTS-245678,.2:DOTS-1245678,.2:DOTS-345678,.2:DOTS-1345678,.2:DOTS-2345678,
.2:DOTS-12345678,.:RIGHTWARDS TWO-HEADED ARROW WITH VERTICAL STROKE,.4:DOUBLE VERTICAL STROKE,
.:LEFTWARDS DOUBLE ARROW WITH VERTICAL STROKE,.:RIGHTWARDS DOUBLE ARROW WITH VERTICAL STROKE,
.:LEFT RIGHT DOUBLE ARROW WITH VERTICAL STROKE,.:RIGHTWARDS TWO-HEADED ARROW FROM BAR,
.:LEFTWARDS DOUBLE ARROW FROM BAR,.:RIGHTWARDS DOUBLE ARROW FROM BAR,
.:DOWNWARDS ARROW WITH HORIZONTAL STROKE,.:UPWARDS ARROW WITH HORIZONTAL STROKE,.1:TRIPLE ARROW,
.:DOWNWARDS TRIPLE ARROW,.:LEFTWARDS DOUBLE DASH ARROW,.:RIGHTWARDS DOUBLE DASH ARROW,
.:LEFTWARDS TRIPLE DASH ARROW,.:RIGHTWARDS TRIPLE DASH ARROW,.1:TWO-HEADED TRIPLE DASH ARROW,
.1:ARROW WITH DOTTED STEM,.:UPWARDS ARROW TO BAR,.:DOWNWARDS ARROW TO BAR,
.:RIGHTWARDS ARROW WITH TAIL WITH VERTICAL STROKE,.5:DOUBLE VERTICAL STROKE,
.1:TWO-HEADED ARROW WITH TAIL,.5:WITH VERTICAL STROKE,.6:DOUBLE VERTICAL STROKE,
.:LEFTWARDS ARROW-TAIL,.:RIGHTWARDS ARROW-TAIL,.:LEFTWARDS DOUBLE ARROW-TAIL,
.:RIGHTWARDS DOUBLE ARROW-TAIL,.:LEFTWARDS ARROW TO BLACK DIAMOND,
.:RIGHTWARDS ARROW TO BLACK DIAMOND,.:LEFTWARDS ARROW FROM BAR TO BLACK DIAMOND,
.:RIGHTWARDS ARROW FROM BAR TO BLACK DIAMOND,.:NORTH WEST AND SOUTH EAST ARROW,
.1:EAST AND SOUTH WEST ARROW,.1:WEST ARROW WITH HOOK,.1:EAST ARROW WITH HOOK,
.:SOUTH EAST ARROW WITH HOOK,.1:WEST ARROW WITH HOOK,.:NORTH WEST ARROW AND NORTH EAST ARROW,
.1:EAST ARROW AND SOUTH EAST ARROW,.:SOUTH EAST ARROW AND SOUTH WEST ARROW,
.1:WEST ARROW AND NORTH WEST ARROW,.:RISING DIAGONAL CROSSING FALLING DIAGONAL,
.:FALLING DIAGONAL CROSSING RISING DIAGONAL,.:SOUTH EAST ARROW CROSSING NORTH EAST ARROW,
.:NORTH EAST ARROW CROSSING SOUTH EAST ARROW,.:FALLING DIAGONAL CROSSING NORTH EAST ARROW,
.:RISING DIAGONAL CROSSING SOUTH EAST ARROW,.:NORTH EAST ARROW CROSSING NORTH WEST ARROW,
.1:WEST ARROW CROSSING NORTH EAST ARROW,.:WAVE ARROW POINTING DIRECTLY RIGHT,
.:ARROW POINTING RIGHTWARDS THEN CURVING UPWARDS,.5:DOWNWARDS,.2:DOWNWARDS THEN CURVING LEFTWARDS,
.5:RIGHTWARDS,.:RIGHT-SIDE ARC CLOCKWISE ARROW,.:LEFT-SIDE ARC ANTICLOCKWISE ARROW,
.:TOP ARC ANTICLOCKWISE ARROW,.:BOTTOM ARC ANTICLOCKWISE ARROW,
.:TOP ARC CLOCKWISE ARROW WITH MINUS,.2:ANTICLOCKWISE ARROW WITH PLUS,
.:LOWER RIGHT SEMICIRCULAR CLOCKWISE ARROW,.1:LEFT SEMICIRCULAR ANTICLOCKWISE ARROW,
.:ANTICLOCKWISE CLOSED CIRCLE ARROW,.:CLOCKWISE CLOSED CIRCLE ARROW,
.:RIGHTWARDS ARROW ABOVE SHORT LEFTWARDS ARROW,.:LEFTWARDS ARROW ABOVE SHORT RIGHTWARDS ARROW,
.:SHORT RIGHTWARDS ARROW ABOVE LEFTWARDS ARROW,.:RIGHTWARDS ARROW WITH PLUS BELOW,
.:LEFTWARDS ARROW WITH PLUS BELOW,.:RIGHTWARDS ARROW THROUGH X,
.:LEFT RIGHT ARROW THROUGH SMALL CIRCLE,.:UPWARDS TWO-HEADED ARROW FROM SMALL CIRCLE,
.:LEFT BARB UP RIGHT BARB DOWN HARPOON,.2:DOWN RIGHT BARB UP HARPOON,
.:UP BARB RIGHT DOWN BARB LEFT HARPOON,.2:LEFT DOWN BARB RIGHT HARPOON,
.:LEFT BARB UP RIGHT BARB UP HARPOON,.:UP BARB RIGHT DOWN BARB RIGHT HARPOON,
.:LEFT BARB DOWN RIGHT BARB DOWN HARPOON,.:UP BARB LEFT DOWN BARB LEFT HARPOON,
.:LEFTWARDS HARPOON WITH BARB UP TO BAR,.:RIGHTWARDS HARPOON WITH BARB UP TO BAR,
.:UPWARDS HARPOON WITH BARB RIGHT TO BAR,.:DOWNWARDS HARPOON WITH BARB RIGHT TO BAR,
.:LEFTWARDS HARPOON WITH BARB DOWN TO BAR,.:RIGHTWARDS HARPOON WITH BARB DOWN TO BAR,
.:UPWARDS HARPOON WITH BARB LEFT TO BAR,.:DOWNWARDS HARPOON WITH BARB LEFT TO BAR,
.:LEFTWARDS HARPOON WITH BARB UP FROM BAR,.:RIGHTWARDS HARPOON WITH BARB UP FROM BAR,
.:UPWARDS HARPOON WITH BARB RIGHT FROM BAR,.:DOWNWARDS HARPOON WITH BARB RIGHT FROM BAR,
.:LEFTWARDS HARPOON WITH BARB DOWN FROM BAR,.:RIGHTWARDS HARPOON WITH BARB DOWN FROM BAR,
.:UPWARDS HARPOON WITH BARB LEFT FROM BAR,.:DOWNWARDS HARPOON WITH BARB LEFT FROM BAR,
.:LEFTWARDS HARPOON WITH BARB UP ABOVE LEFTWARDS HARPOON WITH BARB DOWN,
.:UPWARDS HARPOON WITH BARB LEFT BESIDE UPWARDS HARPOON WITH BARB RIGHT,
.:RIGHTWARDS HARPOON WITH BARB UP ABOVE RIGHTWARDS HARPOON WITH BARB DOWN,
.:DOWNWARDS HARPOON WITH BARB LEFT BESIDE DOWNWARDS HARPOON WITH BARB RIGHT,
.:LEFTWARDS HARPOON WITH BARB UP ABOVE RIGHTWARDS HARPOON WITH BARB UP,
.4:DOWN ABOVE RIGHTWARDS HARPOON WITH BARB DOWN,
.:RIGHTWARDS HARPOON WITH BARB UP ABOVE LEFTWARDS HARPOON WITH BARB UP,
.4:DOWN ABOVE LEFTWARDS HARPOON WITH BARB DOWN,.:LEFTWARDS HARPOON WITH BARB UP ABOVE LONG DASH,
.4:DOWN BELOW LONG DASH,.:RIGHTWARDS HARPOON WITH BARB UP ABOVE LONG DASH,.4:DOWN BELOW LONG DASH,
.:UPWARDS HARPOON WITH BARB LEFT BESIDE DOWNWARDS HARPOON WITH BARB RIGHT,
.:DOWNWARDS HARPOON WITH BARB LEFT BESIDE UPWARDS HARPOON WITH BARB RIGHT,
.:RIGHT DOUBLE ARROW WITH ROUNDED HEAD,.:EQUALS SIGN ABOVE RIGHTWARDS ARROW,
.:TILDE OPERATOR ABOVE RIGHTWARDS ARROW,.:LEFTWARDS ARROW ABOVE TILDE OPERATOR,
.:RIGHTWARDS ARROW ABOVE TILDE OPERATOR,.3:ALMOST EQUAL TO,.:LESS-THAN ABOVE LEFTWARDS ARROW,
.:LEFTWARDS ARROW THROUGH LESS-THAN,.:GREATER-THAN ABOVE RIGHTWARDS ARROW,
.:SUBSET ABOVE RIGHTWARDS ARROW,.:LEFTWARDS ARROW THROUGH SUBSET,.:SUPERSET ABOVE LEFTWARDS ARROW,
.:LEFT FISH TAIL,.:RIGHT FISH TAIL,.:UP FISH TAIL,.:DOWN FISH TAIL,
.:TRIPLE VERTICAL BAR DELIMITER,.:Z NOTATION SPOT,.2:TYPE COLON,.:LEFT WHITE CURLY BRACKET,
.:RIGHT WHITE CURLY BRACKET,.:LEFT WHITE PARENTHESIS,.:RIGHT WHITE PARENTHESIS,
.:Z NOTATION LEFT IMAGE BRACKET,.2:RIGHT IMAGE BRACKET,.2:LEFT BINDING BRACKET,
.2:RIGHT BINDING BRACKET,.:LEFT SQUARE BRACKET WITH UNDERBAR,.:RIGHT SQUARE BRACKET WITH UNDERBAR,
.:LEFT SQUARE BRACKET WITH TICK IN TOP CORNER,.:RIGHT SQUARE BRACKET WITH TICK IN BOTTOM CORNER,
.:LEFT SQUARE BRACKET WITH TICK IN BOTTOM CORNER,.:RIGHT SQUARE BRACKET WITH TICK IN TOP CORNER,
.:LEFT ANGLE BRACKET WITH DOT,.:RIGHT ANGLE BRACKET WITH DOT,.:LEFT ARC LESS-THAN BRACKET,
.:RIGHT ARC GREATER-THAN BRACKET,.:DOUBLE LEFT ARC GREATER-THAN BRACKET,
.1:RIGHT ARC LESS-THAN BRACKET,.:LEFT BLACK TORTOISE SHELL BRACKET,
.:RIGHT BLACK TORTOISE SHELL BRACKET,.:DOTTED FENCE,.:VERTICAL ZIGZAG LINE,
.:MEASURED ANGLE OPENING LEFT,.:RIGHT ANGLE VARIANT WITH SQUARE,.:MEASURED RIGHT ANGLE WITH DOT,
.:ANGLE WITH S INSIDE,.:ACUTE ANGLE,.:SPHERICAL ANGLE OPENING LEFT,.3:UP,.:TURNED ANGLE,
.:REVERSED ANGLE,.:ANGLE WITH UNDERBAR,.:REVERSED ANGLE WITH UNDERBAR,.:OBLIQUE ANGLE OPENING UP,
.3:DOWN,.:MEASURED ANGLE WITH OPEN ARM ENDING IN ARROW POINTING UP AND RIGHT,.B:LEFT,
.9:DOWN AND RIGHT,.B:LEFT,.9:RIGHT AND UP,.9:LEFT AND UP,.9:RIGHT AND DOWN,.9:LEFT AND DOWN,
.:REVERSED EMPTY SET,.:EMPTY SET WITH OVERBAR,.3:SMALL CIRCLE ABOVE,.3:RIGHT ARROW ABOVE,
.3:LEFT ARROW ABOVE,.:CIRCLE WITH HORIZONTAL BAR,.:CIRCLED VERTICAL BAR,.1:PARALLEL,
.1:REVERSE SOLIDUS,.1:PERPENDICULAR,
.:CIRCLE DIVIDED BY HORIZONTAL BAR AND TOP HALF DIVIDED BY VERTICAL BAR,.1:WITH SUPERIMPOSED X,
.:CIRCLED ANTICLOCKWISE-ROTATED DIVISION SIGN,.:UP ARROW THROUGH CIRCLE,.:CIRCLED WHITE BULLET,
.1:BULLET,.1:LESS-THAN,.1:GREATER-THAN,.:CIRCLE WITH SMALL CIRCLE TO THE RIGHT,
.2:TWO HORIZONTAL STROKES TO THE RIGHT,.:SQUARED RISING DIAGONAL SLASH,.1:FALLING DIAGONAL SLASH,
.1:ASTERISK,.1:SMALL CIRCLE,.1:SQUARE,.:TWO JOINED SQUARES,.:TRIANGLE WITH DOT ABOVE,.2:UNDERBAR,
.:S IN TRIANGLE,.:TRIANGLE WITH SERIFS AT BOTTOM,.:RIGHT TRIANGLE ABOVE LEFT TRIANGLE,
.:LEFT TRIANGLE BESIDE VERTICAL BAR,.:VERTICAL BAR BESIDE RIGHT TRIANGLE,
.:BOWTIE WITH LEFT HALF BLACK,.2:RIGHT HALF BLACK,.:BLACK BOWTIE,.:TIMES WITH LEFT HALF BLACK,
.2:RIGHT HALF BLACK,.:WHITE HOURGLASS,.:BLACK HOURGLASS,.:LEFT WIGGLY FENCE,.:RIGHT WIGGLY FENCE,
.:LEFT DOUBLE WIGGLY FENCE,.:RIGHT DOUBLE WIGGLY FENCE,.:INCOMPLETE INFINITY,.:TIE OVER INFINITY,
.:INFINITY NEGATED WITH VERTICAL BAR,.:DOUBLE-ENDED MULTIMAP,.:SQUARE WITH CONTOURED OUTLINE,
.:INCREASES AS,.:SHUFFLE PRODUCT,.:EQUALS SIGN AND SLANTED PARALLEL,.5:WITH TILDE ABOVE,
.:IDENTICAL TO AND SLANTED PARALLEL,.:GLEICH STARK,.:THERMODYNAMIC,
.:DOWN-POINTING TRIANGLE WITH LEFT HALF BLACK,.3:RIGHT HALF BLACK,.:BLACK DIAMOND WITH DOWN ARROW,
.1:LOZENGE,.:WHITE CIRCLE WITH DOWN ARROW,.:BLACK CIRCLE WITH DOWN ARROW,
.:ERROR-BARRED WHITE SQUARE,.1:BLACK SQUARE,.1:WHITE DIAMOND,.1:BLACK DIAMOND,.1:WHITE CIRCLE,
.1:BLACK CIRCLE,.:RULE-DELAYED,.:REVERSE SOLIDUS OPERATOR,.:SOLIDUS WITH OVERBAR,
.:REVERSE SOLIDUS WITH HORIZONTAL STROKE,.:BIG SOLIDUS,.1:REVERSE SOLIDUS,.:DOUBLE PLUS,
.:TRIPLE PLUS,.:LEFT-POINTING CURVED ANGLE BRACKET,.:RIGHT-POINTING CURVED ANGLE BRACKET,.:TINY,
.:MINY,.:N-ARY CIRCLED DOT OPERATOR,.2:PLUS OPERATOR,.2:TIMES OPERATOR,.1:UNION OPERATOR WITH DOT,
.4:PLUS,.1:SQUARE INTERSECTION OPERATOR,.2:UNION OPERATOR,.:TWO LOGICAL AND OPERATOR,
.2:OR OPERATOR,.:N-ARY TIMES OPERATOR,.:MODULO TWO SUM,.:SUMMATION WITH INTEGRAL,
.:QUADRUPLE INTEGRAL OPERATOR,.:FINITE PART INTEGRAL,.:INTEGRAL WITH DOUBLE STROKE,
.1:AVERAGE WITH SLASH,.:CIRCULATION FUNCTION,.:ANTICLOCKWISE INTEGRATION,
.:LINE INTEGRATION WITH RECTANGULAR PATH AROUND POLE,.3:SEMICIRCULAR PATH AROUND POLE,
.2:NOT INCLUDING THE POLE,.:INTEGRAL AROUND A POINT OPERATOR,.:QUATERNION INTEGRAL OPERATOR,
.:INTEGRAL WITH LEFTWARDS ARROW WITH HOOK,.2:TIMES SIGN,.2:INTERSECTION,.2:UNION,.2:OVERBAR,
.2:UNDERBAR,.:JOIN,.:LARGE LEFT TRIANGLE OPERATOR,.:Z NOTATION SCHEMA COMPOSITION,.3:PIPING,
.3:PROJECTION,.:PLUS SIGN WITH SMALL CIRCLE ABOVE,.3:CIRCUMFLEX ACCENT ABOVE,.3:TILDE ABOVE,
.3:DOT BELOW,.3:TILDE BELOW,.3:SUBSCRIPT TWO,.3:BLACK TRIANGLE,.:MINUS SIGN WITH COMMA ABOVE,
.3:DOT BELOW,.3:FALLING DOTS,.3:RISING DOTS,.:PLUS SIGN IN LEFT HALF CIRCLE,.3:RIGHT HALF CIRCLE,
.:VECTOR OR CROSS PRODUCT,.:MULTIPLICATION SIGN WITH DOT ABOVE,.3:UNDERBAR,
.:SEMIDIRECT PRODUCT WITH BOTTOM CLOSED,.:SMASH PRODUCT,.:MULTIPLICATION SIGN IN LEFT HALF CIRCLE,
.3:RIGHT HALF CIRCLE,.:CIRCLED MULTIPLICATION SIGN WITH CIRCUMFLEX ACCENT,
.:MULTIPLICATION SIGN IN DOUBLE CIRCLE,.:CIRCLED DIVISION SIGN,.:PLUS SIGN IN TRIANGLE,
.:MINUS SIGN IN TRIANGLE,.:MULTIPLICATION SIGN IN TRIANGLE,.:INTERIOR PRODUCT,
.:RIGHTHAND INTERIOR PRODUCT,.:Z NOTATION RELATIONAL COMPOSITION,.:AMALGAMATION OR COPRODUCT,
.:INTERSECTION WITH DOT,.:UNION WITH MINUS SIGN,.2:OVERBAR,.:INTERSECTION WITH OVERBAR,
.2:LOGICAL AND,.:UNION WITH LOGICAL OR,.1:ABOVE INTERSECTION,.:INTERSECTION ABOVE UNION,
.:UNION ABOVE BAR ABOVE INTERSECTION,.:INTERSECTION ABOVE BAR ABOVE UNION,
.:UNION BESIDE AND JOINED WITH UNION,.:INTERSECTION BESIDE AND JOINED WITH INTERSECTION,
.:CLOSED UNION WITH SERIFS,.1:INTERSECTION WITH SERIFS,.:DOUBLE SQUARE INTERSECTION,.2:UNION,
.:CLOSED UNION WITH SERIFS AND SMASH PRODUCT,.:LOGICAL AND WITH DOT ABOVE,.1:OR WITH DOT ABOVE,
.:DOUBLE LOGICAL AND,.2:OR,.:TWO INTERSECTING LOGICAL AND,.3:OR,.:SLOPING LARGE OR,.2:AND,
.:LOGICAL OR OVERLAPPING LOGICAL AND,.1:AND WITH MIDDLE STEM,.1:OR WITH MIDDLE STEM,
.1:AND WITH HORIZONTAL DASH,.1:OR WITH HORIZONTAL DASH,.1:AND WITH DOUBLE OVERBAR,.3:UNDERBAR,
.3:DOUBLE UNDERBAR,.:SMALL VEE WITH UNDERBAR,.:LOGICAL OR WITH DOUBLE OVERBAR,.4:UNDERBAR,
.:Z NOTATION DOMAIN ANTIRESTRICTION,.2:RANGE ANTIRESTRICTION,.:EQUALS SIGN WITH DOT BELOW,
.:IDENTICAL WITH DOT ABOVE,.:TRIPLE HORIZONTAL BAR WITH DOUBLE VERTICAL STROKE,
.4:TRIPLE VERTICAL STROKE,.:TILDE OPERATOR WITH DOT ABOVE,.3:RISING DOTS,.:SIMILAR MINUS SIMILAR,
.:CONGRUENT WITH DOT ABOVE,.:EQUALS WITH ASTERISK,.:ALMOST EQUAL TO WITH CIRCUMFLEX ACCENT,
.:APPROXIMATELY EQUAL OR EQUAL TO,.:EQUALS SIGN ABOVE PLUS SIGN,.:PLUS SIGN ABOVE EQUALS SIGN,
.:EQUALS SIGN ABOVE TILDE OPERATOR,.:DOUBLE COLON EQUAL,.:TWO CONSECUTIVE EQUALS SIGNS,
.:THREE CONSECUTIVE EQUALS SIGNS,.:EQUALS SIGN WITH TWO DOTS ABOVE AND TWO DOTS BELOW,
.:EQUIVALENT WITH FOUR DOTS ABOVE,.:LESS-THAN WITH CIRCLE INSIDE,
.:GREATER-THAN WITH CIRCLE INSIDE,.:LESS-THAN WITH QUESTION MARK ABOVE,
.:GREATER-THAN WITH QUESTION MARK ABOVE,.:LESS-THAN OR SLANTED EQUAL TO,
.:GREATER-THAN OR SLANTED EQUAL TO,.:LESS-THAN OR SLANTED EQUAL TO WITH DOT INSIDE,
.:GREATER-THAN OR SLANTED EQUAL TO WITH DOT INSIDE,.:LESS-THAN OR SLANTED EQUAL TO WITH DOT ABOVE,
.:GREATER-THAN OR SLANTED EQUAL TO WITH DOT ABOVE,
.:LESS-THAN OR SLANTED EQUAL TO WITH DOT ABOVE RIGHT,
.:GREATER-THAN OR SLANTED EQUAL TO WITH DOT ABOVE LEFT,.:LESS-THAN OR APPROXIMATE,
.:GREATER-THAN OR APPROXIMATE,.:LESS-THAN AND SINGLE-LINE NOT EQUAL TO,
.:GREATER-THAN AND SINGLE-LINE NOT EQUAL TO,.:LESS-THAN AND NOT APPROXIMATE,
.:GREATER-THAN AND NOT APPROXIMATE,.:LESS-THAN ABOVE DOUBLE-LINE EQUAL ABOVE GREATER-THAN,
.:GREATER-THAN ABOVE DOUBLE-LINE EQUAL ABOVE LESS-THAN,.:LESS-THAN ABOVE SIMILAR OR EQUAL,
.:GREATER-THAN ABOVE SIMILAR OR EQUAL,.:LESS-THAN ABOVE SIMILAR ABOVE GREATER-THAN,
.:GREATER-THAN ABOVE SIMILAR ABOVE LESS-THAN,
.:LESS-THAN ABOVE GREATER-THAN ABOVE DOUBLE-LINE EQUAL,
.:GREATER-THAN ABOVE LESS-THAN ABOVE DOUBLE-LINE EQUAL,
.:LESS-THAN ABOVE SLANTED EQUAL ABOVE GREATER-THAN ABOVE SLANTED EQUAL,
.:GREATER-THAN ABOVE SLANTED EQUAL ABOVE LESS-THAN ABOVE SLANTED EQUAL,
.:SLANTED EQUAL TO OR LESS-THAN,.4:GREATER-THAN,.4:LESS-THAN WITH DOT INSIDE,
.4:GREATER-THAN WITH DOT INSIDE,.:DOUBLE-LINE EQUAL TO OR LESS-THAN,.4:GREATER-THAN,
.1:SLANTED EQUAL TO OR LESS-THAN,.5:GREATER-THAN,.:SIMILAR OR LESS-THAN,.2:GREATER-THAN,
.1:ABOVE LESS-THAN ABOVE EQUALS SIGN,.2:GREATER-THAN ABOVE EQUALS SIGN,.:DOUBLE NESTED LESS-THAN,
.2:GREATER-THAN,.2:LESS-THAN WITH UNDERBAR,.:GREATER-THAN OVERLAPPING LESS-THAN,
.1:BESIDE LESS-THAN,.:LESS-THAN CLOSED BY CURVE,.:GREATER-THAN CLOSED BY CURVE,
.:LESS-THAN CLOSED BY CURVE ABOVE SLANTED EQUAL,
.:GREATER-THAN CLOSED BY CURVE ABOVE SLANTED EQUAL,.:SMALLER THAN,.:LARGER THAN,
.:SMALLER THAN OR EQUAL TO,.:LARGER THAN OR EQUAL TO,.:EQUALS SIGN WITH BUMPY ABOVE,
.:PRECEDES ABOVE SINGLE-LINE EQUALS SIGN,.:SUCCEEDS ABOVE SINGLE-LINE EQUALS SIGN,
.:PRECEDES ABOVE SINGLE-LINE NOT EQUAL TO,.:SUCCEEDS ABOVE SINGLE-LINE NOT EQUAL TO,
.:PRECEDES ABOVE EQUALS SIGN,.:SUCCEEDS ABOVE EQUALS SIGN,.:PRECEDES ABOVE NOT EQUAL TO,
.:SUCCEEDS ABOVE NOT EQUAL TO,.:PRECEDES ABOVE ALMOST EQUAL TO,.:SUCCEEDS ABOVE ALMOST EQUAL TO,
.:PRECEDES ABOVE NOT ALMOST EQUAL TO,.:SUCCEEDS ABOVE NOT ALMOST EQUAL TO,.:DOUBLE PRECEDES,
.1:SUCCEEDS,.:SUBSET WITH DOT,.:SUPERSET WITH DOT,.:SUBSET WITH PLUS SIGN BELOW,
.:SUPERSET WITH PLUS SIGN BELOW,.:SUBSET WITH MULTIPLICATION SIGN BELOW,
.:SUPERSET WITH MULTIPLICATION SIGN BELOW,.:SUBSET OF OR EQUAL TO WITH DOT ABOVE,
.:SUPERSET OF OR EQUAL TO WITH DOT ABOVE,.:SUBSET OF ABOVE EQUALS SIGN,
.:SUPERSET OF ABOVE EQUALS SIGN,.:SUBSET OF ABOVE TILDE OPERATOR,
.:SUPERSET OF ABOVE TILDE OPERATOR,.:SUBSET OF ABOVE ALMOST EQUAL TO,
.:SUPERSET OF ABOVE ALMOST EQUAL TO,.:SUBSET OF ABOVE NOT EQUAL TO,
.:SUPERSET OF ABOVE NOT EQUAL TO,.:SQUARE LEFT OPEN BOX OPERATOR,.1:RIGHT OPEN BOX OPERATOR,
.:CLOSED SUBSET,.1:SUPERSET,.1:SUBSET OR EQUAL TO,.1:SUPERSET OR EQUAL TO,.:SUBSET ABOVE SUPERSET,
.:SUPERSET ABOVE SUBSET,.:SUBSET ABOVE SUBSET,.:SUPERSET ABOVE SUPERSET,.1:BESIDE SUBSET,
.2:AND JOINED BY DASH WITH SUBSET,.:ELEMENT OF OPENING DOWNWARDS,.:PITCHFORK WITH TEE TOP,
.:TRANSVERSAL INTERSECTION,.:FORKING,.:NONFORKING,.:SHORT LEFT TACK,.1:DOWN TACK,.1:UP TACK,
.:PERPENDICULAR WITH S,.:VERTICAL BAR TRIPLE RIGHT TURNSTILE,.:DOUBLE VERTICAL BAR LEFT TURNSTILE,
.:VERTICAL BAR DOUBLE LEFT TURNSTILE,.:DOUBLE VERTICAL BAR DOUBLE LEFT TURNSTILE,
.:LONG DASH FROM LEFT MEMBER OF DOUBLE VERTICAL,.:SHORT DOWN TACK WITH OVERBAR,
.1:UP TACK WITH UNDERBAR,.3:ABOVE SHORT DOWN TACK,.:DOUBLE DOWN TACK,.1:UP TACK,
.1:STROKE NOT SIGN,.:REVERSED DOUBLE STROKE NOT SIGN,
.:DOES NOT DIVIDE WITH REVERSED NEGATION SLASH,.:VERTICAL LINE WITH CIRCLE ABOVE,.4:BELOW,
.:DOWN TACK WITH CIRCLE BELOW,.:PARALLEL WITH HORIZONTAL STROKE,.2:TILDE OPERATOR,
.:TRIPLE VERTICAL BAR BINARY RELATION,.3:WITH HORIZONTAL STROKE,.1:COLON OPERATOR,
.1:NESTED LESS-THAN,.2:GREATER-THAN,.:DOUBLE-LINE SLANTED LESS-THAN OR EQUAL TO,
.2:GREATER-THAN OR EQUAL TO,.:TRIPLE SOLIDUS BINARY RELATION,.:LARGE TRIPLE VERTICAL BAR OPERATOR,
.:DOUBLE SOLIDUS OPERATOR,.:WHITE VERTICAL BAR,.:N-ARY WHITE VERTICAL BAR,
.:NORTH EAST WHITE ARROW,.1:WEST WHITE ARROW,.:SOUTH EAST WHITE ARROW,.1:WEST WHITE ARROW,
.:LEFT RIGHT WHITE ARROW,.:LEFTWARDS BLACK ARROW,.:UPWARDS BLACK ARROW,.:DOWNWARDS BLACK ARROW,
.:NORTH EAST BLACK ARROW,.1:WEST BLACK ARROW,.:SOUTH EAST BLACK ARROW,.1:WEST BLACK ARROW,
.:LEFT RIGHT BLACK ARROW,.:UP DOWN BLACK ARROW,.:RIGHTWARDS ARROW WITH TIP DOWNWARDS,.4:UPWARDS,
.:LEFTWARDS ARROW WITH TIP DOWNWARDS,.4:UPWARDS,.:SQUARE WITH TOP HALF BLACK,.2:BOTTOM HALF BLACK,
.2:UPPER RIGHT DIAGONAL HALF BLACK,.2:LOWER LEFT DIAGONAL HALF BLACK,
.:DIAMOND WITH LEFT HALF BLACK,.2:RIGHT HALF BLACK,.2:TOP HALF BLACK,.2:BOTTOM HALF BLACK,
.:DOTTED SQUARE,.:BLACK LARGE SQUARE,.:WHITE LARGE SQUARE,.:BLACK VERY SMALL SQUARE,
.:WHITE VERY SMALL SQUARE,.:BLACK PENTAGON,.:WHITE PENTAGON,.1:HEXAGON,.:BLACK HEXAGON,
.:HORIZONTAL BLACK HEXAGON,.:BLACK LARGE CIRCLE,.1:MEDIUM DIAMOND,.:WHITE MEDIUM DIAMOND,
.:BLACK MEDIUM LOZENGE,.:WHITE MEDIUM LOZENGE,.:BLACK SMALL DIAMOND,.2:LOZENGE,
.:WHITE SMALL LOZENGE,.:BLACK HORIZONTAL ELLIPSE,.:WHITE HORIZONTAL ELLIPSE,
.:BLACK VERTICAL ELLIPSE,.:WHITE VERTICAL ELLIPSE,.:LEFT ARROW WITH SMALL CIRCLE,
.:THREE LEFTWARDS ARROWS,.:LEFT ARROW WITH CIRCLED PLUS,.:LONG LEFTWARDS SQUIGGLE ARROW,
.:LEFTWARDS TWO-HEADED ARROW WITH VERTICAL STROKE,.4:DOUBLE VERTICAL STROKE,.3:FROM BAR,
.2:TRIPLE DASH ARROW,.1:ARROW WITH DOTTED STEM,.3:TAIL WITH VERTICAL STROKE,
.5:DOUBLE VERTICAL STROKE,.1:TWO-HEADED ARROW WITH TAIL,.5:WITH VERTICAL STROKE,
.6:DOUBLE VERTICAL STROKE,.1:ARROW THROUGH X,.:WAVE ARROW POINTING DIRECTLY LEFT,
.:EQUALS SIGN ABOVE LEFTWARDS ARROW,.:REVERSE TILDE OPERATOR ABOVE LEFTWARDS ARROW,
.:LEFTWARDS ARROW ABOVE REVERSE ALMOST EQUAL TO,.:RIGHTWARDS ARROW THROUGH GREATER-THAN,
.3:SUPERSET,.:LEFTWARDS QUADRUPLE ARROW,.:RIGHTWARDS QUADRUPLE ARROW,
.:REVERSE TILDE OPERATOR ABOVE RIGHTWARDS ARROW,.:RIGHTWARDS ARROW ABOVE REVERSE ALMOST EQUAL TO,
.:TILDE OPERATOR ABOVE LEFTWARDS ARROW,.:LEFTWARDS ARROW ABOVE ALMOST EQUAL TO,
.3:REVERSE TILDE OPERATOR,.:RIGHTWARDS ARROW ABOVE REVERSE TILDE OPERATOR,
.:DOWNWARDS TRIANGLE-HEADED ZIGZAG ARROW,.:SHORT SLANTED NORTH ARROW,.1:BACKSLANTED SOUTH ARROW,
.:WHITE MEDIUM STAR,.:BLACK SMALL STAR,.:WHITE SMALL STAR,.:BLACK RIGHT-POINTING PENTAGON,
.:WHITE RIGHT-POINTING PENTAGON,.:HEAVY LARGE CIRCLE,.1:OVAL WITH OVAL INSIDE,
.1:CIRCLE WITH CIRCLE INSIDE,.2:,.1:CIRCLED SALTIRE,.:SLANTED NORTH ARROW WITH HOOKED HEAD,
.:BACKSLANTED SOUTH ARROW WITH HOOKED TAIL,.:SLANTED NORTH ARROW WITH HORIZONTAL TAIL,
.:BACKSLANTED SOUTH ARROW WITH HORIZONTAL TAIL,.:BENT ARROW POINTING DOWNWARDS THEN NORTH EAST,
.:SHORT BENT ARROW POINTING DOWNWARDS THEN NORTH EAST,.:LEFTWARDS TRIANGLE-HEADED ARROW,
.:UPWARDS TRIANGLE-HEADED ARROW,.:RIGHTWARDS TRIANGLE-HEADED ARROW,
.:DOWNWARDS TRIANGLE-HEADED ARROW,.:LEFT RIGHT TRIANGLE-HEADED ARROW,
.:UP DOWN TRIANGLE-HEADED ARROW,.:NORTH WEST TRIANGLE-HEADED ARROW,.1:EAST TRIANGLE-HEADED ARROW,
.:SOUTH EAST TRIANGLE-HEADED ARROW,.1:WEST TRIANGLE-HEADED ARROW,
.:LEFTWARDS TRIANGLE-HEADED DASHED ARROW,.:UPWARDS TRIANGLE-HEADED DASHED ARROW,
.:RIGHTWARDS TRIANGLE-HEADED DASHED ARROW,.:DOWNWARDS TRIANGLE-HEADED DASHED ARROW,
.:CLOCKWISE TRIANGLE-HEADED OPEN CIRCLE ARROW,.:ANTICLOCKWISE TRIANGLE-HEADED OPEN CIRCLE ARROW,
.:LEFTWARDS TRIANGLE-HEADED ARROW TO BAR,.:UPWARDS TRIANGLE-HEADED ARROW TO BAR,
.:RIGHTWARDS TRIANGLE-HEADED ARROW TO BAR,.:DOWNWARDS TRIANGLE-HEADED ARROW TO BAR,
3.:NORTH WEST TRIANGLE-HEADED ARROW TO BAR,.1:EAST TRIANGLE-HEADED ARROW TO BAR,
.:SOUTH EAST TRIANGLE-HEADED ARROW TO BAR,.1:WEST TRIANGLE-HEADED ARROW TO BAR,
.:LEFTWARDS TRIANGLE-HEADED ARROW WITH DOUBLE HORIZONTAL STROKE,0.5:VERTICAL STROKE,
.:UPWARDS TRIANGLE-HEADED ARROW WITH DOUBLE HORIZONTAL STROKE,
.:RIGHTWARDS TRIANGLE-HEADED ARROW WITH DOUBLE HORIZONTAL STROKE,0.5:VERTICAL STROKE,
.:DOWNWARDS TRIANGLE-HEADED ARROW WITH DOUBLE HORIZONTAL STROKE,.:HORIZONTAL TAB KEY,
.:VERTICAL TAB KEY,.:LEFTWARDS TRIANGLE-HEADED ARROW OVER RIGHTWARDS TRIANGLE-HEADED ARROW,
.:UPWARDS TRIANGLE-HEADED ARROW LEFTWARDS OF DOWNWARDS TRIANGLE-HEADED ARROW,
.:RIGHTWARDS TRIANGLE-HEADED ARROW OVER LEFTWARDS TRIANGLE-HEADED ARROW,
.:DOWNWARDS TRIANGLE-HEADED ARROW LEFTWARDS OF UPWARDS TRIANGLE-HEADED ARROW,
.:LEFTWARDS TRIANGLE-HEADED PAIRED ARROWS,.:UPWARDS TRIANGLE-HEADED PAIRED ARROWS,
.:RIGHTWARDS TRIANGLE-HEADED PAIRED ARROWS,.:DOWNWARDS TRIANGLE-HEADED PAIRED ARROWS,
.:LEFTWARDS BLACK CIRCLED WHITE ARROW,.:UPWARDS BLACK CIRCLED WHITE ARROW,
.:RIGHTWARDS BLACK CIRCLED WHITE ARROW,.:DOWNWARDS BLACK CIRCLED WHITE ARROW,
.:ANTICLOCKWISE TRIANGLE-HEADED RIGHT U-SHAPED ARROW,.2:BOTTOM U-SHAPED ARROW,
.2:LEFT U-SHAPED ARROW,.2:TOP U-SHAPED ARROW,.:RETURN LEFT,.1:RIGHT,.:NEWLINE LEFT,.1:RIGHT,
.:FOUR CORNER ARROWS CIRCLING ANTICLOCKWISE,.:RIGHTWARDS BLACK ARROW,
2.:SYMBOL FOR TYPE A ELECTRONICS,.:THREE-D TOP-LIGHTED LEFTWARDS EQUILATERAL ARROWHEAD,
.1:RIGHT-LIGHTED UPWARDS EQUILATERAL ARROWHEAD,.1:TOP-LIGHTED RIGHTWARDS EQUILATERAL ARROWHEAD,
.1:LEFT-LIGHTED DOWNWARDS EQUILATERAL ARROWHEAD,.:BLACK LEFTWARDS EQUILATERAL ARROWHEAD,
.1:UPWARDS EQUILATERAL ARROWHEAD,.1:RIGHTWARDS EQUILATERAL ARROWHEAD,
.1:DOWNWARDS EQUILATERAL ARROWHEAD,.:DOWNWARDS TRIANGLE-HEADED ARROW WITH LONG TIP LEFTWARDS,
.6:RIGHTWARDS,.:UPWARDS TRIANGLE-HEADED ARROW WITH LONG TIP LEFTWARDS,.6:RIGHTWARDS,
.:LEFTWARDS TRIANGLE-HEADED ARROW WITH LONG TIP UPWARDS,
.:RIGHTWARDS TRIANGLE-HEADED ARROW WITH LONG TIP UPWARDS,
.:LEFTWARDS TRIANGLE-HEADED ARROW WITH LONG TIP DOWNWARDS,
.:RIGHTWARDS TRIANGLE-HEADED ARROW WITH LONG TIP DOWNWARDS,
.:BLACK CURVED DOWNWARDS AND LEFTWARDS ARROW,.4:RIGHTWARDS ARROW,.2:UPWARDS AND LEFTWARDS ARROW,
.4:RIGHTWARDS ARROW,.2:LEFTWARDS AND UPWARDS ARROW,.2:RIGHTWARDS AND UPWARDS ARROW,
.2:LEFTWARDS AND DOWNWARDS ARROW,.2:RIGHTWARDS AND DOWNWARDS ARROW,.:RIBBON ARROW DOWN LEFT,
.3:RIGHT,.2:UP LEFT,.3:RIGHT,.2:LEFT UP,.2:RIGHT UP,.2:LEFT DOWN,.2:RIGHT DOWN,
.:UPWARDS WHITE ARROW FROM BAR WITH HORIZONTAL BAR,.:UP ARROWHEAD IN A RECTANGLE BOX,
.:OVERLAPPING WHITE SQUARES,.2:AND BLACK SQUARES,.1:BLACK SQUARES,.:BALLOT BOX WITH LIGHT X,
.:CIRCLED X,.1:BOLD X,.:BLACK SQUARE CENTRED,.1:DIAMOND CENTRED,.:TURNED BLACK PENTAGON,
.:HORIZONTAL BLACK OCTAGON,.:BLACK OCTAGON,.1:MEDIUM UP-POINTING TRIANGLE CENTRED,
.2:DOWN-POINTING TRIANGLE CENTRED,.2:LEFT-POINTING TRIANGLE CENTRED,
.2:RIGHT-POINTING TRIANGLE CENTRED,.:NEPTUNE FORM TWO,.:TOP HALF BLACK CIRCLE,
.:BOTTOM HALF BLACK CIRCLE,.:LIGHT FOUR POINTED BLACK CUSP,
.:ROTATED LIGHT FOUR POINTED BLACK CUSP,.:WHITE FOUR POINTED CUSP,
.:ROTATED WHITE FOUR POINTED CUSP,.:SQUARE POSITION INDICATOR,.:UNCERTAINTY SIGN,.:GROUP MARK,
.:PLUTO FORM TWO,.2:THREE,.2:FOUR,.2:FIVE,.:TRANSPLUTO,.:PROSERPINA,.:ASTRAEA,.:HYGIEA,.:PHOLUS,
.:NESSUS,.:WHITE MOON SELENA,.:BLACK DIAMOND ON CROSS,.:TRUE LIGHT MOON ARTA,.:CUPIDO,.:HADES,
.:ZEUS,.:KRONOS,.:APOLLON,.:ADMETOS,.:VULCANUS,.:POSEIDON,.:LEFT HALF BLACK STAR,
.:RIGHT HALF BLACK STAR,.:STAR WITH LEFT HALF BLACK,.2:RIGHT HALF BLACK,
.:LEFTWARDS TWO-HEADED ARROW WITH TRIANGLE ARROWHEADS,
.:UPWARDS TWO-HEADED ARROW WITH TRIANGLE ARROWHEADS,
.:RIGHTWARDS TWO-HEADED ARROW WITH TRIANGLE ARROWHEADS,
.:DOWNWARDS TWO-HEADED ARROW WITH TRIANGLE ARROWHEADS,.:ERIS FORM ONE,.2:TWO,.:SEDNA,
.:RUSSIAN ASTROLOGICAL SYMBOL VIGINTILE,.3:NOVILE,.3:QUINTILE,.3:BINOVILE,.3:SENTAGON,
.3:TREDECILE,.:EQUALS SIGN WITH INFINITY BELOW,.:UNITED SYMBOL,.:SEPARATED SYMBOL,
.:DOUBLED SYMBOL,.:PASSED SYMBOL,.:REVERSED RIGHT ANGLE,.:HELLSCHREIBER PAUSE SYMBOL,
.:GLAGOLITIC CAPITAL LETTER AZU,.3:BUKY,.3:VEDE,.3:GLAGOLI,.3:DOBRO,.3:YESTU,.3:ZHIVETE,.3:DZELO,
.3:ZEMLJA,.3:IZHE,.3:INITIAL IZHE,.3:I,.3:DJERVI,.3:KAKO,.3:LJUDIJE,.3:MYSLITE,.3:NASHI,.3:ONU,
.3:POKOJI,.3:RITSI,.3:SLOVO,.3:TVRIDO,.3:UKU,.3:FRITU,.3:HERU,.3:OTU,.3:PE,.3:SHTA,.3:TSI,
.3:CHRIVI,.3:SHA,.3:YERU,.3:YERI,.3:YATI,.3:SPIDERY HA,.3:YU,.3:SMALL YUS,.5:WITH TAIL,.3:YO,
.3:IOTATED SMALL YUS,.3:BIG YUS,.3:IOTATED BIG YUS,.3:FITA,.3:IZHITSA,.3:SHTAPIC,.3:TROKUTASTI A,
.3:LATINATE MYSLITE,.3:CAUDATE CHRIVI,.1:SMALL LETTER AZU,.3:BUKY,.3:VEDE,.3:GLAGOLI,.3:DOBRO,
.3:YESTU,.3:ZHIVETE,.3:DZELO,.3:ZEMLJA,.3:IZHE,.3:INITIAL IZHE,.3:I,.3:DJERVI,.3:KAKO,.3:LJUDIJE,
.3:MYSLITE,.3:NASHI,.3:ONU,.3:POKOJI,.3:RITSI,.3:SLOVO,.3:TVRIDO,.3:UKU,.3:FRITU,.3:HERU,.3:OTU,
.3:PE,.3:SHTA,.3:TSI,.3:CHRIVI,.3:SHA,.3:YERU,.3:YERI,.3:YATI,.3:SPIDERY HA,.3:YU,.3:SMALL YUS,
.5:WITH TAIL,.3:YO,.3:IOTATED SMALL YUS,.3:BIG YUS,.3:IOTATED BIG YUS,.3:FITA,.3:IZHITSA,
.3:SHTAPIC,.3:TROKUTASTI A,.3:LATINATE MYSLITE,.3:CAUDATE CHRIVI,
.:LATIN CAPITAL LETTER L WITH DOUBLE BAR,.1:SMALL LETTER L WITH DOUBLE BAR,
.1:CAPITAL LETTER L WITH MIDDLE TILDE,.3:P WITH STROKE,.3:R WITH TAIL,
.1:SMALL LETTER A WITH STROKE,.3:T WITH DIAGONAL STROKE,.1:CAPITAL LETTER H WITH DESCENDER,
.1:SMALL LETTER H WITH DESCENDER,.1:CAPITAL LETTER K WITH DESCENDER,
.1:SMALL LETTER K WITH DESCENDER,.1:CAPITAL LETTER Z WITH DESCENDER,
.1:SMALL LETTER Z WITH DESCENDER,.1:CAPITAL LETTER ALPHA,.3:M WITH HOOK,.3:TURNED A,.4:ALPHA,
.1:SMALL LETTER V WITH RIGHT HOOK,.1:CAPITAL LETTER W WITH HOOK,.1:SMALL LETTER W WITH HOOK,
.3:V WITH CURL,.1:CAPITAL LETTER HALF H,.1:SMALL LETTER HALF H,.3:TAILLESS PHI,.3:E WITH NOTCH,
.3:TURNED R WITH TAIL,.3:O WITH LOW RING INSIDE,.1:LETTER SMALL CAPITAL TURNED E,
.1:SUBSCRIPT SMALL LETTER J,.:MODIFIER LETTER CAPITAL V,.:LATIN CAPITAL LETTER S WITH SWASH TAIL,
.3:Z WITH SWASH TAIL,.:COPTIC CAPITAL LETTER ALFA,.1:SMALL LETTER ALFA,.1:CAPITAL LETTER VIDA,
.1:SMALL LETTER VIDA,.1:CAPITAL LETTER GAMMA,.1:SMALL LETTER GAMMA,.1:CAPITAL LETTER DALDA,
.1:SMALL LETTER DALDA,.1:CAPITAL LETTER EIE,.1:SMALL LETTER EIE,.1:CAPITAL LETTER SOU,
.1:SMALL LETTER SOU,.1:CAPITAL LETTER ZATA,.1:SMALL LETTER ZATA,.1:CAPITAL LETTER HATE,
.1:SMALL LETTER HATE,.1:CAPITAL LETTER THETHE,.1:SMALL LETTER THETHE,.1:CAPITAL LETTER IAUDA,
.1:SMALL LETTER IAUDA,.1:CAPITAL LETTER KAPA,.1:SMALL LETTER KAPA,.1:CAPITAL LETTER LAULA,
.1:SMALL LETTER LAULA,.1:CAPITAL LETTER MI,.1:SMALL LETTER MI,.1:CAPITAL LETTER NI,
.1:SMALL LETTER NI,.1:CAPITAL LETTER KSI,.1:SMALL LETTER KSI,.1:CAPITAL LETTER O,
.1:SMALL LETTER O,.1:CAPITAL LETTER PI,.1:SMALL LETTER PI,.1:CAPITAL LETTER RO,.1:SMALL LETTER RO,
.1:CAPITAL LETTER SIMA,.1:SMALL LETTER SIMA,.1:CAPITAL LETTER TAU,.1:SMALL LETTER TAU,
.1:CAPITAL LETTER UA,.1:SMALL LETTER UA,.1:CAPITAL LETTER FI,.1:SMALL LETTER FI,
.1:CAPITAL LETTER KHI,.1:SMALL LETTER KHI,.1:CAPITAL LETTER PSI,.1:SMALL LETTER PSI,
.1:CAPITAL LETTER OOU,.1:SMALL LETTER OOU,.1:CAPITAL LETTER DIALECT-P ALEF,
.1:SMALL LETTER DIALECT-P ALEF,.1:CAPITAL LETTER OLD COPTIC AIN,.1:SMALL LETTER OLD COPTIC AIN,
.1:CAPITAL LETTER CRYPTOGRAMMIC EIE,.1:SMALL LETTER CRYPTOGRAMMIC EIE,
.1:CAPITAL LETTER DIALECT-P KAPA,.1:SMALL LETTER DIALECT-P KAPA,.1:CAPITAL LETTER DIALECT-P NI,
.1:SMALL LETTER DIALECT-P NI,.1:CAPITAL LETTER CRYPTOGRAMMIC NI,.1:SMALL LETTER CRYPTOGRAMMIC NI,
.1:CAPITAL LETTER OLD COPTIC OOU,.1:SMALL LETTER OLD COPTIC OOU,.1:CAPITAL LETTER SAMPI,
.1:SMALL LETTER SAMPI,.1:CAPITAL LETTER CROSSED SHEI,.1:SMALL LETTER CROSSED SHEI,
.1:CAPITAL LETTER OLD COPTIC SHEI,.1:SMALL LETTER OLD COPTIC SHEI,
.1:CAPITAL LETTER OLD COPTIC ESH,.1:SMALL LETTER OLD COPTIC ESH,.1:CAPITAL LETTER AKHMIMIC KHEI,
.1:SMALL LETTER AKHMIMIC KHEI,.1:CAPITAL LETTER DIALECT-P HORI,.1:SMALL LETTER DIALECT-P HORI,
.1:CAPITAL LETTER OLD COPTIC HORI,.1:SMALL LETTER OLD COPTIC HORI,.1:CAPITAL LETTER OLD COPTIC HA,
.1:SMALL LETTER OLD COPTIC HA,.1:CAPITAL LETTER L-SHAPED HA,.1:SMALL LETTER L-SHAPED HA,
.1:CAPITAL LETTER OLD COPTIC HEI,.1:SMALL LETTER OLD COPTIC HEI,.1:CAPITAL LETTER OLD COPTIC HAT,
.1:SMALL LETTER OLD COPTIC HAT,.1:CAPITAL LETTER OLD COPTIC GANGIA,
.1:SMALL LETTER OLD COPTIC GANGIA,.1:CAPITAL LETTER OLD COPTIC DJA,.1:SMALL LETTER OLD COPTIC DJA,
.1:CAPITAL LETTER OLD COPTIC SHIMA,.1:SMALL LETTER OLD COPTIC SHIMA,
.1:CAPITAL LETTER OLD NUBIAN SHIMA,.1:SMALL LETTER OLD NUBIAN SHIMA,
.1:CAPITAL LETTER OLD NUBIAN NGI,.1:SMALL LETTER OLD NUBIAN NGI,.1:CAPITAL LETTER OLD NUBIAN NYI,
.1:SMALL LETTER OLD NUBIAN NYI,.1:CAPITAL LETTER OLD NUBIAN WAU,.1:SMALL LETTER OLD NUBIAN WAU,
.1:SYMBOL KAI,.2:MI RO,.2:PI RO,.2:STAUROS,.2:TAU RO,.2:KHI RO,.2:SHIMA SIMA,
.1:CAPITAL LETTER CRYPTOGRAMMIC SHEI,.1:SMALL LETTER CRYPTOGRAMMIC SHEI,
.1:CAPITAL LETTER CRYPTOGRAMMIC GANGIA,.1:SMALL LETTER CRYPTOGRAMMIC GANGIA,.1:COMBINING NI ABOVE,
.2:SPIRITUS ASPER,.3:LENIS,.1:CAPITAL LETTER BOHAIRIC KHEI,.1:SMALL LETTER BOHAIRIC KHEI,
6.1:OLD NUBIAN FULL STOP,.3:DIRECT QUESTION MARK,.3:INDIRECT QUESTION MARK,.3:VERSE DIVIDER,
.1:FRACTION ONE HALF,.1:FULL STOP,.1:MORPHOLOGICAL DIVIDER,.:GEORGIAN SMALL LETTER AN,.3:BAN,
.3:GAN,.3:DON,.3:EN,.3:VIN,.3:ZEN,.3:TAN,.3:IN,.3:KAN,.3:LAS,.3:MAN,.3:NAR,.3:ON,.3:PAR,.3:ZHAR,
.3:RAE,.3:SAN,.3:TAR,.3:UN,.3:PHAR,.3:KHAR,.3:GHAN,.3:QAR,.3:SHIN,.3:CHIN,.3:CAN,.3:JIL,.3:CIL,
.3:CHAR,.3:XAN,.3:JHAN,.3:HAE,.3:HE,.3:HIE,.3:WE,.3:HAR,.3:HOE,2.3:YN,6.3:AEN,
3.:TIFINAGH LETTER YA,.2:YAB,.2:YABH,.2:YAG,.2:YAGHH,.2:BERBER ACADEMY YAJ,.2:YAJ,.2:YAD,.2:YADH,
.2:YADD,.2:YADDH,.2:YEY,.2:YAF,.2:YAK,.2:TUAREG YAK,.2:YAKHH,.2:YAH,.2:BERBER ACADEMY YAH,
.2:TUAREG YAH,.2:YAHH,.2:YAA,.2:YAKH,.2:TUAREG YAKH,.2:YAQ,.2:TUAREG YAQ,.2:YI,.2:YAZH,
.2:AHAGGAR YAZH,.2:TUAREG YAZH,.2:YAL,.2:YAM,.2:YAN,.2:TUAREG YAGN,.3:YANG,.2:YAP,.2:YU,.2:YAR,
.2:YARR,.2:YAGH,.2:TUAREG YAGH,.2:AYER YAGH,.2:YAS,.2:YASS,.2:YASH,.2:YAT,.2:YATH,.2:YACH,.2:YATT,
.2:YAV,.2:YAW,.2:YAY,.2:YAZ,.2:TAWELLEMET YAZ,.2:YAZZ,.2:YE,.2:YO,
8.1:MODIFIER LETTER LABIALIZATION MARK,.1:SEPARATOR MARK,F.1:CONSONANT JOINER,
.:ETHIOPIC SYLLABLE LOA,.2:MOA,.2:ROA,.2:SOA,.2:SHOA,.2:BOA,.2:TOA,.2:COA,.2:NOA,.2:NYOA,
.2:GLOTTAL OA,.2:ZOA,.2:DOA,.2:DDOA,.2:JOA,.2:THOA,.2:CHOA,.2:PHOA,.2:POA,.2:GGWA,.2:GGWI,
.2:GGWEE,.2:GGWE,A.2:SSA,.2:SSU,.2:SSI,.2:SSAA,.2:SSEE,.2:SSE,.2:SSO,2.2:CCA,.2:CCU,.2:CCI,
.2:CCAA,.2:CCEE,.2:CCE,.2:CCO,2.2:ZZA,.2:ZZU,.2:ZZI,.2:ZZAA,.2:ZZEE,.2:ZZE,.2:ZZO,2.2:CCHA,
.2:CCHU,.2:CCHI,.2:CCHAA,.2:CCHEE,.2:CCHE,.2:CCHO,2.2:QYA,.2:QYU,.2:QYI,.2:QYAA,.2:QYEE,.2:QYE,
.2:QYO,2.2:KYA,.2:KYU,.2:KYI,.2:KYAA,.2:KYEE,.2:KYE,.2:KYO,2.2:XYA,.2:XYU,.2:XYI,.2:XYAA,.2:XYEE,
.2:XYE,.2:XYO,2.2:GYA,.2:GYU,.2:GYI,.2:GYAA,.2:GYEE,.2:GYE,.2:GYO,2.:COMBINING CYRILLIC LETTER BE,
.3:VE,.3:GHE,.3:DE,.3:ZHE,.3:ZE,.3:KA,.3:EL,.3:EM,.3:EN,.3:O,.3:PE,.3:ER,.3:ES,.3:TE,.3:HA,.3:TSE,
.3:CHE,.3:SHA,.3:SHCHA,.3:FITA,.3:ES-TE,.3:A,.3:IE,.3:DJERV,.3:MONOGRAPH UK,.3:YAT,.3:YU,
.3:IOTIFIED A,.3:LITTLE YUS,.3:BIG YUS,.3:IOTIFIED BIG YUS,.:RIGHT ANGLE SUBSTITUTION MARKER,
.2:DOTTED SUBSTITUTION MARKER,.:LEFT SUBSTITUTION BRACKET,.:RIGHT SUBSTITUTION BRACKET,
.:LEFT DOTTED SUBSTITUTION BRACKET,.:RIGHT DOTTED SUBSTITUTION BRACKET,
.:RAISED INTERPOLATION MARKER,.1:DOTTED INTERPOLATION MARKER,.:DOTTED TRANSPOSITION MARKER,
.:LEFT TRANSPOSITION BRACKET,.:RIGHT TRANSPOSITION BRACKET,.:RAISED SQUARE,
.:LEFT RAISED OMISSION BRACKET,.:RIGHT RAISED OMISSION BRACKET,.:EDITORIAL CORONIS,.:PARAGRAPHOS,
.:FORKED PARAGRAPHOS,.:REVERSED FORKED PARAGRAPHOS,.:HYPODIASTOLE,.:DOTTED OBELOS,
.:DOWNWARDS ANCORA,.:UPWARDS ANCORA,.:DOTTED RIGHT-POINTING ANGLE,.:DOUBLE OBLIQUE HYPHEN,
.:INVERTED INTERROBANG,.:PALM BRANCH,.:HYPHEN WITH DIAERESIS,.:TILDE WITH RING ABOVE,
.:LEFT LOW PARAPHRASE BRACKET,.:RIGHT LOW PARAPHRASE BRACKET,.:TILDE WITH DOT ABOVE,.3:BELOW,
.:LEFT VERTICAL BAR WITH QUILL,"

end ServoScript.CharacterName
