/-!
# Names of characters from 1F3B0 on
-/

namespace ServoScript.CharacterName

def from1F3B0 : String := "
1F3B0.:SLOT MACHINE,.:BILLIARDS,.:GAME DIE,.:BOWLING,.:FLOWER PLAYING CARDS,.:MUSICAL NOTE,
.:MULTIPLE MUSICAL NOTES,.:SAXOPHONE,.:GUITAR,.:MUSICAL KEYBOARD,.:TRUMPET,.:VIOLIN,
.:MUSICAL SCORE,.:RUNNING SHIRT WITH SASH,.:TENNIS RACQUET AND BALL,.:SKI AND SKI BOOT,
.:BASKETBALL AND HOOP,.:CHEQUERED FLAG,.:SNOWBOARDER,.:RUNNER,.:SURFER,.:SPORTS MEDAL,.:TROPHY,
.:HORSE RACING,.:AMERICAN FOOTBALL,.:RUGBY FOOTBALL,.:SWIMMER,.:WEIGHT LIFTER,.:GOLFER,
.:RACING MOTORCYCLE,.1:CAR,.:CRICKET BAT AND BALL,.:VOLLEYBALL,.:FIELD HOCKEY STICK AND BALL,
.:ICE HOCKEY STICK AND PUCK,.:TABLE TENNIS PADDLE AND BALL,.:SNOW CAPPED MOUNTAIN,.:CAMPING,
.:BEACH WITH UMBRELLA,.:BUILDING CONSTRUCTION,.:HOUSE BUILDINGS,.:CITYSCAPE,
.:DERELICT HOUSE BUILDING,.:CLASSICAL BUILDING,.:DESERT,.1:ISLAND,.:NATIONAL PARK,.:STADIUM,
.:HOUSE BUILDING,.1:WITH GARDEN,.:OFFICE BUILDING,.:JAPANESE POST OFFICE,.:EUROPEAN POST OFFICE,
.:HOSPITAL,.:BANK,.:AUTOMATED TELLER MACHINE,.:HOTEL,.:LOVE HOTEL,.:CONVENIENCE STORE,.:SCHOOL,
.:DEPARTMENT STORE,.:FACTORY,.:IZAKAYA LANTERN,.:JAPANESE CASTLE,.:EUROPEAN CASTLE,
.:WHITE PENNANT,.:BLACK PENNANT,.:WAVING WHITE FLAG,.1:BLACK FLAG,.:ROSETTE,.:BLACK ROSETTE,
.:LABEL,.:BADMINTON RACQUET AND SHUTTLECOCK,.:BOW AND ARROW,.:AMPHORA,
.:EMOJI MODIFIER FITZPATRICK TYPE-1-2,.3:TYPE-3,.3:TYPE-4,.3:TYPE-5,.3:TYPE-6,.:RAT,.:MOUSE,.:OX,
.:WATER BUFFALO,.:COW,.:TIGER,.:LEOPARD,.:RABBIT,.:CAT,.:DRAGON,.:CROCODILE,.:WHALE,.:SNAIL,
.:SNAKE,.:HORSE,.:RAM,.:GOAT,.:SHEEP,.:MONKEY,.:ROOSTER,.:CHICKEN,.:DOG,.:PIG,.:BOAR,.:ELEPHANT,
.:OCTOPUS,.:SPIRAL SHELL,.:BUG,.:ANT,.:HONEYBEE,.:LADY BEETLE,.:FISH,.:TROPICAL FISH,.:BLOWFISH,
.:TURTLE,.:HATCHING CHICK,.:BABY CHICK,.:FRONT-FACING BABY CHICK,.:BIRD,.:PENGUIN,.:KOALA,
.:POODLE,.:DROMEDARY CAMEL,.:BACTRIAN CAMEL,.:DOLPHIN,.:MOUSE FACE,.:COW FACE,.:TIGER FACE,
.:RABBIT FACE,.:CAT FACE,.:DRAGON FACE,.:SPOUTING WHALE,.:HORSE FACE,.:MONKEY FACE,.:DOG FACE,
.:PIG FACE,.:FROG FACE,.:HAMSTER FACE,.:WOLF FACE,.:BEAR FACE,.:PANDA FACE,.:PIG NOSE,
.:PAW PRINTS,.:CHIPMUNK,.:EYES,.:EYE,.:EAR,.:NOSE,.:MOUTH,.:TONGUE,
.:WHITE UP POINTING BACKHAND INDEX,.1:DOWN POINTING BACKHAND INDEX,
.1:LEFT POINTING BACKHAND INDEX,.1:RIGHT POINTING BACKHAND INDEX,.:FISTED HAND SIGN,
.:WAVING HAND SIGN,.:OK HAND SIGN,.:THUMBS UP SIGN,.1:DOWN SIGN,.:CLAPPING HANDS SIGN,
.:OPEN HANDS SIGN,.:CROWN,.:WOMANS HAT,.:EYEGLASSES,.:NECKTIE,.:T-SHIRT,.:JEANS,.:DRESS,.:KIMONO,
.:BIKINI,.:WOMANS CLOTHES,.:PURSE,.:HANDBAG,.:POUCH,.:MANS SHOE,.:ATHLETIC SHOE,
.:HIGH-HEELED SHOE,.:WOMANS SANDAL,.1:BOOTS,.:FOOTPRINTS,.:BUST IN SILHOUETTE,
.:BUSTS IN SILHOUETTE,.:BOY,.:GIRL,.:MAN,.:WOMAN,.:FAMILY,.:MAN AND WOMAN HOLDING HANDS,
.:TWO MEN HOLDING HANDS,.1:WOMEN HOLDING HANDS,.:POLICE OFFICER,.:WOMAN WITH BUNNY EARS,
.:BRIDE WITH VEIL,.:PERSON WITH BLOND HAIR,.:MAN WITH GUA PI MAO,.2:TURBAN,.:OLDER MAN,.1:WOMAN,
.:BABY,.:CONSTRUCTION WORKER,.:PRINCESS,.:JAPANESE OGRE,.1:GOBLIN,.:GHOST,.:BABY ANGEL,
.:EXTRATERRESTRIAL ALIEN,.:ALIEN MONSTER,.:IMP,.:SKULL,.:INFORMATION DESK PERSON,.:GUARDSMAN,
.:DANCER,.:LIPSTICK,.:NAIL POLISH,.:FACE MASSAGE,.:HAIRCUT,.:BARBER POLE,.:SYRINGE,.:PILL,
.:KISS MARK,.:LOVE LETTER,.:RING,.:GEM STONE,.:KISS,.:BOUQUET,.:COUPLE WITH HEART,.:WEDDING,
.:BEATING HEART,.:BROKEN HEART,.:TWO HEARTS,.:SPARKLING HEART,.:GROWING HEART,.:HEART WITH ARROW,
.:BLUE HEART,.:GREEN HEART,.:YELLOW HEART,.:PURPLE HEART,.:HEART WITH RIBBON,.:REVOLVING HEARTS,
.:HEART DECORATION,.:DIAMOND SHAPE WITH A DOT INSIDE,.:ELECTRIC LIGHT BULB,.:ANGER SYMBOL,.:BOMB,
.:SLEEPING SYMBOL,.:COLLISION SYMBOL,.:SPLASHING SWEAT SYMBOL,.:DROPLET,.:DASH SYMBOL,
.:PILE OF POO,.:FLEXED BICEPS,.:DIZZY SYMBOL,.:SPEECH BALLOON,.:THOUGHT BALLOON,.:WHITE FLOWER,
.:HUNDRED POINTS SYMBOL,.:MONEY BAG,.:CURRENCY EXCHANGE,.:HEAVY DOLLAR SIGN,.:CREDIT CARD,
.:BANKNOTE WITH YEN SIGN,.2:DOLLAR SIGN,.2:EURO SIGN,.2:POUND SIGN,.:MONEY WITH WINGS,
.:CHART WITH UPWARDS TREND AND YEN SIGN,.:SEAT,.:PERSONAL COMPUTER,.:BRIEFCASE,.:MINIDISC,
.:FLOPPY DISK,.:OPTICAL DISC,.:DVD,.:FILE FOLDER,.:OPEN FILE FOLDER,.:PAGE WITH CURL,.1:FACING UP,
.:CALENDAR,.:TEAR-OFF CALENDAR,.:CARD INDEX,.:CHART WITH UPWARDS TREND,.2:DOWNWARDS TREND,
.:BAR CHART,.:CLIPBOARD,.:PUSHPIN,.:ROUND PUSHPIN,.:PAPERCLIP,.:STRAIGHT RULER,.:TRIANGULAR RULER,
.:BOOKMARK TABS,.:LEDGER,.:NOTEBOOK,.1:WITH DECORATIVE COVER,.:CLOSED BOOK,.:OPEN BOOK,
.:GREEN BOOK,.:BLUE BOOK,.:ORANGE BOOK,.:BOOKS,.:NAME BADGE,.:SCROLL,.:MEMO,.:TELEPHONE RECEIVER,
.:PAGER,.:FAX MACHINE,.:SATELLITE ANTENNA,.:PUBLIC ADDRESS LOUDSPEAKER,.:CHEERING MEGAPHONE,
.:OUTBOX TRAY,.:INBOX TRAY,.:PACKAGE,.:E-MAIL SYMBOL,.:INCOMING ENVELOPE,
.:ENVELOPE WITH DOWNWARDS ARROW ABOVE,.:CLOSED MAILBOX WITH LOWERED FLAG,.3:RAISED FLAG,
.:OPEN MAILBOX WITH RAISED FLAG,.3:LOWERED FLAG,.:POSTBOX,.:POSTAL HORN,.:NEWSPAPER,
.:MOBILE PHONE,.2:WITH RIGHTWARDS ARROW AT LEFT,.:VIBRATION MODE,.:MOBILE PHONE OFF,
.:NO MOBILE PHONES,.:ANTENNA WITH BARS,.:CAMERA,.1:WITH FLASH,.:VIDEO CAMERA,.:TELEVISION,.:RADIO,
.:VIDEOCASSETTE,.:FILM PROJECTOR,.:PORTABLE STEREO,.:PRAYER BEADS,.:TWISTED RIGHTWARDS ARROWS,
.:CLOCKWISE RIGHTWARDS AND LEFTWARDS OPEN CIRCLE ARROWS,.7:WITH CIRCLED ONE OVERLAY,
.1:DOWNWARDS AND UPWARDS OPEN CIRCLE ARROWS,
.:ANTICLOCKWISE DOWNWARDS AND UPWARDS OPEN CIRCLE ARROWS,.:LOW BRIGHTNESS SYMBOL,
.:HIGH BRIGHTNESS SYMBOL,.:SPEAKER WITH CANCELLATION STROKE,.1:,.1:WITH ONE SOUND WAVE,
.2:THREE SOUND WAVES,.:BATTERY,.:ELECTRIC PLUG,.:LEFT-POINTING MAGNIFYING GLASS,
.:RIGHT-POINTING MAGNIFYING GLASS,.:LOCK WITH INK PEN,.:CLOSED LOCK WITH KEY,.:KEY,.:LOCK,
.:OPEN LOCK,.:BELL,.1:WITH CANCELLATION STROKE,.:BOOKMARK,.:LINK SYMBOL,.:RADIO BUTTON,
.:BACK WITH LEFTWARDS ARROW ABOVE,.:END WITH LEFTWARDS ARROW ABOVE,
.:ON WITH EXCLAMATION MARK WITH LEFT RIGHT ARROW ABOVE,.:SOON WITH RIGHTWARDS ARROW ABOVE,
.:TOP WITH UPWARDS ARROW ABOVE,.:NO ONE UNDER EIGHTEEN SYMBOL,.:KEYCAP TEN,
.:INPUT SYMBOL FOR LATIN CAPITAL LETTERS,.4:SMALL LETTERS,.3:NUMBERS,.3:SYMBOLS,.3:LATIN LETTERS,
.:FIRE,.:ELECTRIC TORCH,.:WRENCH,.:HAMMER,.:NUT AND BOLT,.:HOCHO,.:PISTOL,.:MICROSCOPE,
.:TELESCOPE,.:CRYSTAL BALL,.:SIX POINTED STAR WITH MIDDLE DOT,.:JAPANESE SYMBOL FOR BEGINNER,
.:TRIDENT EMBLEM,.:BLACK SQUARE BUTTON,.:WHITE SQUARE BUTTON,.:LARGE RED CIRCLE,.1:BLUE CIRCLE,
.1:ORANGE DIAMOND,.1:BLUE DIAMOND,.:SMALL ORANGE DIAMOND,.1:BLUE DIAMOND,
.:UP-POINTING RED TRIANGLE,.:DOWN-POINTING RED TRIANGLE,.:UP-POINTING SMALL RED TRIANGLE,
.:DOWN-POINTING SMALL RED TRIANGLE,.:LOWER RIGHT SHADOWED WHITE CIRCLE,
.:UPPER RIGHT SHADOWED WHITE CIRCLE,.:CIRCLED CROSS POMMEE,.:CROSS POMMEE WITH HALF-CIRCLE BELOW,
.2:,.:NOTCHED LEFT SEMICIRCLE WITH THREE DOTS,.1:RIGHT SEMICIRCLE WITH THREE DOTS,
.:SYMBOL FOR MARKS CHAPTER,.:WHITE LATIN CROSS,.:HEAVY LATIN CROSS,.:CELTIC CROSS,.:OM SYMBOL,
.:DOVE OF PEACE,.:KAABA,.:MOSQUE,.:SYNAGOGUE,.:MENORAH WITH NINE BRANCHES,.:BOWL OF HYGIEIA,
.:CLOCK FACE ONE OCLOCK,.2:TWO OCLOCK,.2:THREE OCLOCK,.2:FOUR OCLOCK,.2:FIVE OCLOCK,.2:SIX OCLOCK,
.2:SEVEN OCLOCK,.2:EIGHT OCLOCK,.2:NINE OCLOCK,.2:TEN OCLOCK,.2:ELEVEN OCLOCK,.2:TWELVE OCLOCK,
.2:ONE-THIRTY,.2:TWO-THIRTY,.2:THREE-THIRTY,.2:FOUR-THIRTY,.2:FIVE-THIRTY,.2:SIX-THIRTY,
.2:SEVEN-THIRTY,.2:EIGHT-THIRTY,.2:NINE-THIRTY,.2:TEN-THIRTY,.2:ELEVEN-THIRTY,.2:TWELVE-THIRTY,
.:RIGHT SPEAKER,.2:WITH ONE SOUND WAVE,.3:THREE SOUND WAVES,.:BULLHORN,.1:WITH SOUND WAVES,
.:RINGING BELL,.:BOOK,.:CANDLE,.:MANTELPIECE CLOCK,.:BLACK SKULL AND CROSSBONES,.:NO PIRACY,
.:HOLE,.:MAN IN BUSINESS SUIT LEVITATING,.:SLEUTH OR SPY,.:DARK SUNGLASSES,.:SPIDER,.1:WEB,
.:JOYSTICK,.:MAN DANCING,.:LEFT HAND TELEPHONE RECEIVER,.:TELEPHONE RECEIVER WITH PAGE,
.:RIGHT HAND TELEPHONE RECEIVER,.:WHITE TOUCHTONE TELEPHONE,.:BLACK TOUCHTONE TELEPHONE,
.:TELEPHONE ON TOP OF MODEM,.:CLAMSHELL MOBILE PHONE,.:BACK OF ENVELOPE,.:STAMPED ENVELOPE,
.:ENVELOPE WITH LIGHTNING,.:FLYING ENVELOPE,.:PEN OVER STAMPED ENVELOPE,.:LINKED PAPERCLIPS,
.:BLACK PUSHPIN,.:LOWER LEFT PENCIL,.2:BALLPOINT PEN,.2:FOUNTAIN PEN,.2:PAINTBRUSH,.2:CRAYON,
.:LEFT WRITING HAND,.:TURNED OK HAND SIGN,.:RAISED HAND WITH FINGERS SPLAYED,
.:REVERSED RAISED HAND WITH FINGERS SPLAYED,.1:THUMBS UP SIGN,.2:DOWN SIGN,.1:VICTORY HAND,
.1:HAND WITH MIDDLE FINGER EXTENDED,.:RAISED HAND WITH PART BETWEEN MIDDLE AND RING FINGERS,
.:WHITE DOWN POINTING LEFT HAND INDEX,.:SIDEWAYS WHITE LEFT POINTING INDEX,
.2:RIGHT POINTING INDEX,.1:BLACK LEFT POINTING INDEX,.2:RIGHT POINTING INDEX,
.:BLACK LEFT POINTING BACKHAND INDEX,.1:RIGHT POINTING BACKHAND INDEX,
.:SIDEWAYS WHITE UP POINTING INDEX,.2:DOWN POINTING INDEX,.1:BLACK UP POINTING INDEX,
.2:DOWN POINTING INDEX,.:BLACK UP POINTING BACKHAND INDEX,.1:DOWN POINTING BACKHAND INDEX,
.1:HEART,.:DESKTOP COMPUTER,.:KEYBOARD AND MOUSE,.:THREE NETWORKED COMPUTERS,.:PRINTER,
.:POCKET CALCULATOR,.:BLACK HARD SHELL FLOPPY DISK,.:WHITE HARD SHELL FLOPPY DISK,
.:SOFT SHELL FLOPPY DISK,.:TAPE CARTRIDGE,.:WIRED KEYBOARD,.:ONE BUTTON MOUSE,.:TWO BUTTON MOUSE,
.:THREE BUTTON MOUSE,.:TRACKBALL,.:OLD PERSONAL COMPUTER,.:HARD DISK,.:SCREEN,.:PRINTER ICON,
.:FAX ICON,.:OPTICAL DISC ICON,.:DOCUMENT WITH TEXT,.3:AND PICTURE,.2:PICTURE,
.:FRAME WITH PICTURE,.2:TILES,.2:AN X,.:BLACK FOLDER,.:FOLDER,.:OPEN FOLDER,.:CARD INDEX DIVIDERS,
.1:FILE BOX,.:FILE CABINET,.:EMPTY NOTE,.2:PAGE,.2:PAD,.:NOTE,.1:PAGE,.1:PAD,.:EMPTY DOCUMENT,
.1:PAGE,.1:PAGES,.:DOCUMENT,.:PAGE,.:PAGES,.:WASTEBASKET,.:SPIRAL NOTE PAD,.1:CALENDAR PAD,
.:DESKTOP WINDOW,.:MINIMIZE,.:MAXIMIZE,.:OVERLAP,.:CLOCKWISE RIGHT AND LEFT SEMICIRCLE ARROWS,
.:CANCELLATION X,.:INCREASE FONT SIZE SYMBOL,.:DECREASE FONT SIZE SYMBOL,.:COMPRESSION,.:OLD KEY,
.:ROLLED-UP NEWSPAPER,.:PAGE WITH CIRCLED TEXT,.:STOCK CHART,.:DAGGER KNIFE,.:LIPS,
.:SPEAKING HEAD IN SILHOUETTE,.:THREE RAYS ABOVE,.2:BELOW,.2:LEFT,.2:RIGHT,.:LEFT SPEECH BUBBLE,
.:RIGHT SPEECH BUBBLE,.:TWO SPEECH BUBBLES,.:THREE SPEECH BUBBLES,.:LEFT THOUGHT BUBBLE,
.:RIGHT THOUGHT BUBBLE,.:LEFT ANGER BUBBLE,.:RIGHT ANGER BUBBLE,.:MOOD BUBBLE,
.:LIGHTNING MOOD BUBBLE,.2:,.:BALLOT BOX WITH BALLOT,.1:SCRIPT X,.1:BOX WITH SCRIPT X,
.1:BOLD SCRIPT X,.1:BOX WITH BOLD SCRIPT X,.:LIGHT CHECK MARK,.:BALLOT BOX WITH BOLD CHECK,
.:WORLD MAP,.:MOUNT FUJI,.:TOKYO TOWER,.:STATUE OF LIBERTY,.:SILHOUETTE OF JAPAN,.:MOYAI,
.:GRINNING FACE,.2:WITH SMILING EYES,.:FACE WITH TEARS OF JOY,.:SMILING FACE WITH OPEN MOUTH,
.5:AND SMILING EYES,.6:COLD SWEAT,.6:TIGHTLY-CLOSED EYES,.3:HALO,.3:HORNS,.:WINKING FACE,
.:SMILING FACE WITH SMILING EYES,.:FACE SAVOURING DELICIOUS FOOD,.:RELIEVED FACE,
.:SMILING FACE WITH HEART-SHAPED EYES,.3:SUNGLASSES,.:SMIRKING FACE,.:NEUTRAL FACE,
.:EXPRESSIONLESS FACE,.:UNAMUSED FACE,.:FACE WITH COLD SWEAT,.:PENSIVE FACE,.:CONFUSED FACE,
.:CONFOUNDED FACE,.:KISSING FACE,.:FACE THROWING A KISS,.:KISSING FACE WITH SMILING EYES,
.3:CLOSED EYES,.:FACE WITH STUCK-OUT TONGUE,.4:AND WINKING EYE,.5:TIGHTLY-CLOSED EYES,
.:DISAPPOINTED FACE,.:WORRIED FACE,.:ANGRY FACE,.:POUTING FACE,.:CRYING FACE,.:PERSEVERING FACE,
.:FACE WITH LOOK OF TRIUMPH,.:DISAPPOINTED BUT RELIEVED FACE,.:FROWNING FACE WITH OPEN MOUTH,
.:ANGUISHED FACE,.:FEARFUL FACE,.:WEARY FACE,.:SLEEPY FACE,.:TIRED FACE,.:GRIMACING FACE,
.:LOUDLY CRYING FACE,.:FACE WITH OPEN MOUTH,.:HUSHED FACE,.:FACE WITH OPEN MOUTH AND COLD SWEAT,
.1:SCREAMING IN FEAR,.:ASTONISHED FACE,.:FLUSHED FACE,.:SLEEPING FACE,.:DIZZY FACE,
.:FACE WITHOUT MOUTH,.1:WITH MEDICAL MASK,.:GRINNING CAT FACE WITH SMILING EYES,
.:CAT FACE WITH TEARS OF JOY,.:SMILING CAT FACE WITH OPEN MOUTH,.4:HEART-SHAPED EYES,
.:CAT FACE WITH WRY SMILE,.:KISSING CAT FACE WITH CLOSED EYES,.:POUTING CAT FACE,
.:CRYING CAT FACE,.:WEARY CAT FACE,.:SLIGHTLY FROWNING FACE,.1:SMILING FACE,.:UPSIDE-DOWN FACE,
.:FACE WITH ROLLING EYES,.2:NO GOOD GESTURE,.2:OK GESTURE,.:PERSON BOWING DEEPLY,
.:SEE-NO-EVIL MONKEY,.:HEAR-NO-EVIL MONKEY,.:SPEAK-NO-EVIL MONKEY,.:HAPPY PERSON RAISING ONE HAND,
.:PERSON RAISING BOTH HANDS IN CELEBRATION,.1:FROWNING,.1:WITH POUTING FACE,.2:FOLDED HANDS,
.:NORTH WEST POINTING LEAF,.:SOUTH WEST POINTING LEAF,.:NORTH EAST POINTING LEAF,
.:SOUTH EAST POINTING LEAF,.:TURNED NORTH WEST POINTING LEAF,.1:SOUTH WEST POINTING LEAF,
.1:NORTH EAST POINTING LEAF,.1:SOUTH EAST POINTING LEAF,.:NORTH WEST POINTING VINE LEAF,
.:SOUTH WEST POINTING VINE LEAF,.:NORTH EAST POINTING VINE LEAF,.:SOUTH EAST POINTING VINE LEAF,
.:HEAVY NORTH WEST POINTING VINE LEAF,.1:SOUTH WEST POINTING VINE LEAF,
.1:NORTH EAST POINTING VINE LEAF,.1:SOUTH EAST POINTING VINE LEAF,.:NORTH WEST POINTING BUD,
.:SOUTH WEST POINTING BUD,.:NORTH EAST POINTING BUD,.:SOUTH EAST POINTING BUD,
.:HEAVY NORTH WEST POINTING BUD,.1:SOUTH WEST POINTING BUD,.1:NORTH EAST POINTING BUD,
.1:SOUTH EAST POINTING BUD,.:HOLLOW QUILT SQUARE ORNAMENT,.4:IN BLACK SQUARE,
.:SOLID QUILT SQUARE ORNAMENT,.4:IN BLACK SQUARE,.:LEFTWARDS ROCKET,.:UPWARDS ROCKET,
.:RIGHTWARDS ROCKET,.:DOWNWARDS ROCKET,.:SCRIPT LIGATURE ET ORNAMENT,
.:HEAVY SCRIPT LIGATURE ET ORNAMENT,.:LIGATURE OPEN ET ORNAMENT,.:HEAVY LIGATURE OPEN ET ORNAMENT,
.1:AMPERSAND ORNAMENT,.:SWASH AMPERSAND ORNAMENT,
.:SANS-SERIF HEAVY DOUBLE TURNED COMMA QUOTATION MARK ORNAMENT,.3:COMMA QUOTATION MARK ORNAMENT,
.2:LOW DOUBLE COMMA QUOTATION MARK ORNAMENT,.:HEAVY INTERROBANG ORNAMENT,
.:SANS-SERIF INTERROBANG ORNAMENT,.:HEAVY SANS-SERIF INTERROBANG ORNAMENT,.:VERY HEAVY SOLIDUS,
.2:REVERSE SOLIDUS,.:CHECKER BOARD,.:REVERSE CHECKER BOARD,.:ROCKET,.:HELICOPTER,
.:STEAM LOCOMOTIVE,.:RAILWAY CAR,.:HIGH-SPEED TRAIN,.2:WITH BULLET NOSE,.:TRAIN,.:METRO,
.:LIGHT RAIL,.:STATION,.:TRAM,.1:CAR,.:BUS,.:ONCOMING BUS,.:TROLLEYBUS,.:BUS STOP,.:MINIBUS,
.:AMBULANCE,.:FIRE ENGINE,.:POLICE CAR,.:ONCOMING POLICE CAR,.:TAXI,.:ONCOMING TAXI,.:AUTOMOBILE,
.:ONCOMING AUTOMOBILE,.:RECREATIONAL VEHICLE,.:DELIVERY TRUCK,.:ARTICULATED LORRY,.:TRACTOR,
.:MONORAIL,.:MOUNTAIN RAILWAY,.:SUSPENSION RAILWAY,.:MOUNTAIN CABLEWAY,.:AERIAL TRAMWAY,.:SHIP,
.:ROWBOAT,.:SPEEDBOAT,.:HORIZONTAL TRAFFIC LIGHT,.:VERTICAL TRAFFIC LIGHT,.:CONSTRUCTION SIGN,
.:POLICE CARS REVOLVING LIGHT,.:TRIANGULAR FLAG ON POST,.:DOOR,.:NO ENTRY SIGN,.:SMOKING SYMBOL,
.:NO SMOKING SYMBOL,.:PUT LITTER IN ITS PLACE SYMBOL,.:DO NOT LITTER SYMBOL,
.:POTABLE WATER SYMBOL,.:NON-POTABLE WATER SYMBOL,.:BICYCLE,.:NO BICYCLES,.:BICYCLIST,
.:MOUNTAIN BICYCLIST,.:PEDESTRIAN,.:NO PEDESTRIANS,.:CHILDREN CROSSING,.:MENS SYMBOL,
.:WOMENS SYMBOL,.:RESTROOM,.:BABY SYMBOL,.:TOILET,.:WATER CLOSET,.:SHOWER,.:BATH,.:BATHTUB,
.:PASSPORT CONTROL,.:CUSTOMS,.:BAGGAGE CLAIM,.:LEFT LUGGAGE,.:TRIANGLE WITH ROUNDED CORNERS,
.:PROHIBITED SIGN,.:CIRCLED INFORMATION SOURCE,.:BOYS SYMBOL,.:GIRLS SYMBOL,.:COUCH AND LAMP,
.:SLEEPING ACCOMMODATION,.:SHOPPING BAGS,.:BELLHOP BELL,.:BED,.:PLACE OF WORSHIP,.:OCTAGONAL SIGN,
.:SHOPPING TROLLEY,.:STUPA,.:PAGODA,.:HINDU TEMPLE,.:HUT,.:ELEVATOR,6.:PLAYGROUND SLIDE,.:WHEEL,
.:RING BUOY,.:HAMMER AND WRENCH,.:SHIELD,.:OIL DRUM,.:MOTORWAY,.:RAILWAY TRACK,.:MOTOR BOAT,
.:UP-POINTING MILITARY AIRPLANE,.1:AIRPLANE,.1:SMALL AIRPLANE,.:SMALL AIRPLANE,
.:NORTHEAST-POINTING AIRPLANE,.:AIRPLANE DEPARTURE,.1:ARRIVING,4.:SATELLITE,
.:ONCOMING FIRE ENGINE,.:DIESEL LOCOMOTIVE,.:PASSENGER SHIP,.:SCOOTER,.:MOTOR SCOOTER,.:CANOE,
.:SLED,.:FLYING SAUCER,.:SKATEBOARD,.:AUTO RICKSHAW,.:PICKUP TRUCK,.:ROLLER SKATE,
4.:ALCHEMICAL SYMBOL FOR QUINTESSENCE,.3:AIR,.3:FIRE,.3:EARTH,.3:WATER,.3:AQUAFORTIS,
.3:AQUA REGIA,.4:REGIA-2,.4:VITAE,.4:VITAE-2,.3:VINEGAR,.3:VINEGAR-2,.3:VINEGAR-3,.3:SULFUR,
.3:PHILOSOPHERS SULFUR,.3:BLACK SULFUR,.3:MERCURY SUBLIMATE,.4:SUBLIMATE-2,.4:SUBLIMATE-3,
.3:CINNABAR,.3:SALT,.3:NITRE,.3:VITRIOL,.3:VITRIOL-2,.3:ROCK SALT,.4:SALT-2,.3:GOLD,.3:SILVER,
.3:IRON ORE,.4:ORE-2,.3:CROCUS OF IRON,.3:REGULUS OF IRON,.3:COPPER ORE,.3:IRON-COPPER ORE,
.3:SUBLIMATE OF COPPER,.3:CROCUS OF COPPER,.5:COPPER-2,.3:COPPER ANTIMONIATE,
.3:SALT OF COPPER ANTIMONIATE,.3:SUBLIMATE OF SALT OF COPPER,.3:VERDIGRIS,.3:TIN ORE,.3:LEAD ORE,
.3:ANTIMONY ORE,.3:SUBLIMATE OF ANTIMONY,.3:SALT OF ANTIMONY,.3:SUBLIMATE OF SALT OF ANTIMONY,
.3:VINEGAR OF ANTIMONY,.3:REGULUS OF ANTIMONY,.5:ANTIMONY-2,.4:,.3:REGULUS-2,.3:REGULUS-3,
.3:REGULUS-4,.3:ALKALI,.3:ALKALI-2,.3:MARCASITE,.3:SAL-AMMONIAC,.3:ARSENIC,.3:REALGAR,
.3:REALGAR-2,.3:AURIPIGMENT,.3:BISMUTH ORE,.3:TARTAR,.3:TARTAR-2,.3:QUICK LIME,.3:BORAX,
.3:BORAX-2,.3:BORAX-3,.3:ALUM,.3:OIL,.3:SPIRIT,.3:TINCTURE,.3:GUM,.3:WAX,.3:POWDER,.3:CALX,
.3:TUTTY,.3:CAPUT MORTUUM,.3:SCEPTER OF JOVE,.3:CADUCEUS,.3:TRIDENT,.3:STARRED TRIDENT,
.3:LODESTONE,.3:SOAP,.3:URINE,.3:HORSE DUNG,.3:ASHES,.3:POT ASHES,.3:BRICK,.3:POWDERED BRICK,
.3:AMALGAM,.3:STRATUM SUPER STRATUM,.5:STRATUM-2,.3:SUBLIMATION,.3:PRECIPITATE,.3:DISTILL,
.3:DISSOLVE,.3:DISSOLVE-2,.3:PURIFY,.3:PUTREFACTION,.3:CRUCIBLE,.3:CRUCIBLE-2,.3:CRUCIBLE-3,
.3:CRUCIBLE-4,.3:CRUCIBLE-5,.3:ALEMBIC,.3:BATH OF MARY,.5:VAPOURS,.3:RETORT,.3:HOUR,.3:NIGHT,
.3:DAY-NIGHT,.3:MONTH,.3:HALF DRAM,.4:OUNCE,D.:BLACK LEFT-POINTING ISOSCELES RIGHT TRIANGLE,
.1:UP-POINTING ISOSCELES RIGHT TRIANGLE,.1:RIGHT-POINTING ISOSCELES RIGHT TRIANGLE,
.1:DOWN-POINTING ISOSCELES RIGHT TRIANGLE,.1:SLIGHTLY SMALL CIRCLE,.:MEDIUM BOLD WHITE CIRCLE,
.:BOLD WHITE CIRCLE,.:HEAVY WHITE CIRCLE,.:VERY HEAVY WHITE CIRCLE,.:EXTREMELY HEAVY WHITE CIRCLE,
.:WHITE CIRCLE CONTAINING BLACK SMALL CIRCLE,.:ROUND TARGET,.:BLACK TINY SQUARE,
.1:SLIGHTLY SMALL SQUARE,.:LIGHT WHITE SQUARE,.:MEDIUM WHITE SQUARE,.:BOLD WHITE SQUARE,
.:HEAVY WHITE SQUARE,.:VERY HEAVY WHITE SQUARE,.:EXTREMELY HEAVY WHITE SQUARE,
.:WHITE SQUARE CONTAINING BLACK VERY SMALL SQUARE,.4:MEDIUM SQUARE,.:SQUARE TARGET,
.:BLACK TINY DIAMOND,.1:VERY SMALL DIAMOND,.1:MEDIUM SMALL DIAMOND,
.:WHITE DIAMOND CONTAINING BLACK VERY SMALL DIAMOND,.4:MEDIUM DIAMOND,.:DIAMOND TARGET,
.:BLACK TINY LOZENGE,.1:VERY SMALL LOZENGE,.1:MEDIUM SMALL LOZENGE,
.:WHITE LOZENGE CONTAINING BLACK SMALL LOZENGE,.:THIN GREEK CROSS,.:LIGHT GREEK CROSS,
.:MEDIUM GREEK CROSS,.:BOLD GREEK CROSS,.:VERY BOLD GREEK CROSS,.1:HEAVY GREEK CROSS,
.:EXTREMELY HEAVY GREEK CROSS,.:THIN SALTIRE,.:LIGHT SALTIRE,.:MEDIUM SALTIRE,.:BOLD SALTIRE,
.:HEAVY SALTIRE,.:VERY HEAVY SALTIRE,.:EXTREMELY HEAVY SALTIRE,.:LIGHT FIVE SPOKED ASTERISK,
.:MEDIUM FIVE SPOKED ASTERISK,.:BOLD FIVE SPOKED ASTERISK,.:HEAVY FIVE SPOKED ASTERISK,
.:VERY HEAVY FIVE SPOKED ASTERISK,.:EXTREMELY HEAVY FIVE SPOKED ASTERISK,
.:LIGHT SIX SPOKED ASTERISK,.:MEDIUM SIX SPOKED ASTERISK,.:BOLD SIX SPOKED ASTERISK,
.:HEAVY SIX SPOKED ASTERISK,.:VERY HEAVY SIX SPOKED ASTERISK,
.:EXTREMELY HEAVY SIX SPOKED ASTERISK,.:LIGHT EIGHT SPOKED ASTERISK,
.:MEDIUM EIGHT SPOKED ASTERISK,.:BOLD EIGHT SPOKED ASTERISK,.:HEAVY EIGHT SPOKED ASTERISK,
.:VERY HEAVY EIGHT SPOKED ASTERISK,.:LIGHT THREE POINTED BLACK STAR,
.:MEDIUM THREE POINTED BLACK STAR,.:THREE POINTED BLACK STAR,.:MEDIUM THREE POINTED PINWHEEL STAR,
.:LIGHT FOUR POINTED BLACK STAR,.:MEDIUM FOUR POINTED BLACK STAR,.:FOUR POINTED BLACK STAR,
.:MEDIUM FOUR POINTED PINWHEEL STAR,.:REVERSE LIGHT FOUR POINTED PINWHEEL STAR,
.:LIGHT FIVE POINTED BLACK STAR,.:HEAVY FIVE POINTED BLACK STAR,.:MEDIUM SIX POINTED BLACK STAR,
.:HEAVY SIX POINTED BLACK STAR,.:SIX POINTED PINWHEEL STAR,.:MEDIUM EIGHT POINTED BLACK STAR,
.:HEAVY EIGHT POINTED BLACK STAR,.:VERY HEAVY EIGHT POINTED BLACK STAR,
.:HEAVY EIGHT POINTED PINWHEEL STAR,.:LIGHT TWELVE POINTED BLACK STAR,
.:HEAVY TWELVE POINTED BLACK STAR,.3:PINWHEEL STAR,.:CIRCLED TRIANGLE,.:NEGATIVE CIRCLED TRIANGLE,
.:CIRCLED SQUARE,.:NEGATIVE CIRCLED SQUARE,8.:LARGE ORANGE CIRCLE,.1:YELLOW CIRCLE,
.1:GREEN CIRCLE,.1:PURPLE CIRCLE,.1:BROWN CIRCLE,.1:RED SQUARE,.1:BLUE SQUARE,.1:ORANGE SQUARE,
.1:YELLOW SQUARE,.1:GREEN SQUARE,.1:PURPLE SQUARE,.1:BROWN SQUARE,5.:HEAVY EQUALS SIGN,
10.:LEFTWARDS ARROW WITH SMALL TRIANGLE ARROWHEAD,.:UPWARDS ARROW WITH SMALL TRIANGLE ARROWHEAD,
.:RIGHTWARDS ARROW WITH SMALL TRIANGLE ARROWHEAD,.:DOWNWARDS ARROW WITH SMALL TRIANGLE ARROWHEAD,
.:LEFTWARDS ARROW WITH MEDIUM TRIANGLE ARROWHEAD,.:UPWARDS ARROW WITH MEDIUM TRIANGLE ARROWHEAD,
.:RIGHTWARDS ARROW WITH MEDIUM TRIANGLE ARROWHEAD,
.:DOWNWARDS ARROW WITH MEDIUM TRIANGLE ARROWHEAD,.:LEFTWARDS ARROW WITH LARGE TRIANGLE ARROWHEAD,
.:UPWARDS ARROW WITH LARGE TRIANGLE ARROWHEAD,.:RIGHTWARDS ARROW WITH LARGE TRIANGLE ARROWHEAD,
.:DOWNWARDS ARROW WITH LARGE TRIANGLE ARROWHEAD,
5.:LEFTWARDS ARROW WITH SMALL EQUILATERAL ARROWHEAD,
.:UPWARDS ARROW WITH SMALL EQUILATERAL ARROWHEAD,
.:RIGHTWARDS ARROW WITH SMALL EQUILATERAL ARROWHEAD,
.:DOWNWARDS ARROW WITH SMALL EQUILATERAL ARROWHEAD,.:LEFTWARDS ARROW WITH EQUILATERAL ARROWHEAD,
.:UPWARDS ARROW WITH EQUILATERAL ARROWHEAD,.:RIGHTWARDS ARROW WITH EQUILATERAL ARROWHEAD,
.:DOWNWARDS ARROW WITH EQUILATERAL ARROWHEAD,.:HEAVY LEFTWARDS ARROW WITH EQUILATERAL ARROWHEAD,
.1:UPWARDS ARROW WITH EQUILATERAL ARROWHEAD,.1:RIGHTWARDS ARROW WITH EQUILATERAL ARROWHEAD,
.1:DOWNWARDS ARROW WITH EQUILATERAL ARROWHEAD,.1:LEFTWARDS ARROW WITH LARGE EQUILATERAL ARROWHEAD,
.1:UPWARDS ARROW WITH LARGE EQUILATERAL ARROWHEAD,
.1:RIGHTWARDS ARROW WITH LARGE EQUILATERAL ARROWHEAD,
.1:DOWNWARDS ARROW WITH LARGE EQUILATERAL ARROWHEAD,
.:LEFTWARDS TRIANGLE-HEADED ARROW WITH NARROW SHAFT,
.:UPWARDS TRIANGLE-HEADED ARROW WITH NARROW SHAFT,
.:RIGHTWARDS TRIANGLE-HEADED ARROW WITH NARROW SHAFT,
.:DOWNWARDS TRIANGLE-HEADED ARROW WITH NARROW SHAFT,
.:LEFTWARDS TRIANGLE-HEADED ARROW WITH MEDIUM SHAFT,
.:UPWARDS TRIANGLE-HEADED ARROW WITH MEDIUM SHAFT,
.:RIGHTWARDS TRIANGLE-HEADED ARROW WITH MEDIUM SHAFT,
.:DOWNWARDS TRIANGLE-HEADED ARROW WITH MEDIUM SHAFT,
.:LEFTWARDS TRIANGLE-HEADED ARROW WITH BOLD SHAFT,.:UPWARDS TRIANGLE-HEADED ARROW WITH BOLD SHAFT,
.:RIGHTWARDS TRIANGLE-HEADED ARROW WITH BOLD SHAFT,
.:DOWNWARDS TRIANGLE-HEADED ARROW WITH BOLD SHAFT,
.:LEFTWARDS TRIANGLE-HEADED ARROW WITH HEAVY SHAFT,
.:UPWARDS TRIANGLE-HEADED ARROW WITH HEAVY SHAFT,
.:RIGHTWARDS TRIANGLE-HEADED ARROW WITH HEAVY SHAFT,
.:DOWNWARDS TRIANGLE-HEADED ARROW WITH HEAVY SHAFT,
.:LEFTWARDS TRIANGLE-HEADED ARROW WITH VERY HEAVY SHAFT,
.:UPWARDS TRIANGLE-HEADED ARROW WITH VERY HEAVY SHAFT,
.:RIGHTWARDS TRIANGLE-HEADED ARROW WITH VERY HEAVY SHAFT,
.:DOWNWARDS TRIANGLE-HEADED ARROW WITH VERY HEAVY SHAFT,.:LEFTWARDS FINGER-POST ARROW,
.:UPWARDS FINGER-POST ARROW,.:RIGHTWARDS FINGER-POST ARROW,.:DOWNWARDS FINGER-POST ARROW,
.:LEFTWARDS SQUARED ARROW,.:UPWARDS SQUARED ARROW,.:RIGHTWARDS SQUARED ARROW,
.:DOWNWARDS SQUARED ARROW,.:LEFTWARDS COMPRESSED ARROW,.:UPWARDS COMPRESSED ARROW,
.:RIGHTWARDS COMPRESSED ARROW,.:DOWNWARDS COMPRESSED ARROW,.:LEFTWARDS HEAVY COMPRESSED ARROW,
.:UPWARDS HEAVY COMPRESSED ARROW,.:RIGHTWARDS HEAVY COMPRESSED ARROW,
.:DOWNWARDS HEAVY COMPRESSED ARROW,.:LEFTWARDS HEAVY ARROW,.:UPWARDS HEAVY ARROW,
.:RIGHTWARDS HEAVY ARROW,.:DOWNWARDS HEAVY ARROW,9.:LEFTWARDS SANS-SERIF ARROW,
.:UPWARDS SANS-SERIF ARROW,.:RIGHTWARDS SANS-SERIF ARROW,.:DOWNWARDS SANS-SERIF ARROW,
.:NORTH WEST SANS-SERIF ARROW,.1:EAST SANS-SERIF ARROW,.:SOUTH EAST SANS-SERIF ARROW,
.1:WEST SANS-SERIF ARROW,.:LEFT RIGHT SANS-SERIF ARROW,.:UP DOWN SANS-SERIF ARROW,
7.:WIDE-HEADED LEFTWARDS LIGHT BARB ARROW,.1:UPWARDS LIGHT BARB ARROW,
.1:RIGHTWARDS LIGHT BARB ARROW,.1:DOWNWARDS LIGHT BARB ARROW,.1:NORTH WEST LIGHT BARB ARROW,
.2:EAST LIGHT BARB ARROW,.1:SOUTH EAST LIGHT BARB ARROW,.2:WEST LIGHT BARB ARROW,
.1:LEFTWARDS BARB ARROW,.1:UPWARDS BARB ARROW,.1:RIGHTWARDS BARB ARROW,.1:DOWNWARDS BARB ARROW,
.1:NORTH WEST BARB ARROW,.2:EAST BARB ARROW,.1:SOUTH EAST BARB ARROW,.2:WEST BARB ARROW,
.1:LEFTWARDS MEDIUM BARB ARROW,.1:UPWARDS MEDIUM BARB ARROW,.1:RIGHTWARDS MEDIUM BARB ARROW,
.1:DOWNWARDS MEDIUM BARB ARROW,.1:NORTH WEST MEDIUM BARB ARROW,.2:EAST MEDIUM BARB ARROW,
.1:SOUTH EAST MEDIUM BARB ARROW,.2:WEST MEDIUM BARB ARROW,.1:LEFTWARDS HEAVY BARB ARROW,
.1:UPWARDS HEAVY BARB ARROW,.1:RIGHTWARDS HEAVY BARB ARROW,.1:DOWNWARDS HEAVY BARB ARROW,
.1:NORTH WEST HEAVY BARB ARROW,.2:EAST HEAVY BARB ARROW,.1:SOUTH EAST HEAVY BARB ARROW,
.2:WEST HEAVY BARB ARROW,.1:LEFTWARDS VERY HEAVY BARB ARROW,.1:UPWARDS VERY HEAVY BARB ARROW,
.1:RIGHTWARDS VERY HEAVY BARB ARROW,.1:DOWNWARDS VERY HEAVY BARB ARROW,
.1:NORTH WEST VERY HEAVY BARB ARROW,.2:EAST VERY HEAVY BARB ARROW,
.1:SOUTH EAST VERY HEAVY BARB ARROW,.2:WEST VERY HEAVY BARB ARROW,9.:LEFTWARDS TRIANGLE ARROWHEAD,
.:UPWARDS TRIANGLE ARROWHEAD,.:RIGHTWARDS TRIANGLE ARROWHEAD,.:DOWNWARDS TRIANGLE ARROWHEAD,
.:LEFTWARDS WHITE ARROW WITHIN TRIANGLE ARROWHEAD,.:UPWARDS WHITE ARROW WITHIN TRIANGLE ARROWHEAD,
.:RIGHTWARDS WHITE ARROW WITHIN TRIANGLE ARROWHEAD,
.:DOWNWARDS WHITE ARROW WITHIN TRIANGLE ARROWHEAD,.:LEFTWARDS ARROW WITH NOTCHED TAIL,
.:UPWARDS ARROW WITH NOTCHED TAIL,.:RIGHTWARDS ARROW WITH NOTCHED TAIL,
.:DOWNWARDS ARROW WITH NOTCHED TAIL,.:HEAVY ARROW SHAFT WIDTH ONE,.4:TWO THIRDS,.4:ONE HALF,
.5:THIRD,.:LEFTWARDS BOTTOM-SHADED WHITE ARROW,.:RIGHTWARDS BOTTOM SHADED WHITE ARROW,
.:LEFTWARDS TOP SHADED WHITE ARROW,.:RIGHTWARDS TOP SHADED WHITE ARROW,
.:LEFTWARDS LEFT-SHADED WHITE ARROW,.:RIGHTWARDS RIGHT-SHADED WHITE ARROW,
.:LEFTWARDS RIGHT-SHADED WHITE ARROW,.:RIGHTWARDS LEFT-SHADED WHITE ARROW,
.:LEFTWARDS BACK-TILTED SHADOWED WHITE ARROW,.:RIGHTWARDS BACK-TILTED SHADOWED WHITE ARROW,
.:LEFTWARDS FRONT-TILTED SHADOWED WHITE ARROW,.:RIGHTWARDS FRONT-TILTED SHADOWED WHITE ARROW,
.:WHITE ARROW SHAFT WIDTH ONE,.4:TWO THIRDS,3.:ARROW POINTING UPWARDS THEN NORTH WEST,
.2:RIGHTWARDS THEN CURVING SOUTH WEST,4F.:CIRCLED CROSS FORMEE WITH FOUR DOTS,.4:TWO DOTS,.3:,
.:LEFT HALF CIRCLE WITH FOUR DOTS,.4:THREE DOTS,.4:TWO DOTS,.4:DOT,.3:,.:DOWNWARD FACING HOOK,
.2:NOTCHED HOOK,.2:HOOK WITH DOT,.2:NOTCHED HOOK WITH DOT,.:PINCHED FINGERS,.:WHITE HEART,
.:BROWN HEART,.:PINCHING HAND,.:ZIPPER-MOUTH FACE,.:MONEY-MOUTH FACE,.:FACE WITH THERMOMETER,
.:NERD FACE,.:THINKING FACE,.:FACE WITH HEAD-BANDAGE,.:ROBOT FACE,.:HUGGING FACE,
.:SIGN OF THE HORNS,.:CALL ME HAND,.:RAISED BACK OF HAND,.:LEFT-FACING FIST,.:RIGHT-FACING FIST,
.:HANDSHAKE,.:HAND WITH INDEX AND MIDDLE FINGERS CROSSED,.:I LOVE YOU HAND SIGN,
.:FACE WITH COWBOY HAT,.:CLOWN FACE,.:NAUSEATED FACE,.:ROLLING ON THE FLOOR LAUGHING,
.:DROOLING FACE,.:LYING FACE,.:FACE PALM,.:SNEEZING FACE,.:FACE WITH ONE EYEBROW RAISED,
.:GRINNING FACE WITH STAR EYES,.3:ONE LARGE AND ONE SMALL EYE,
.:FACE WITH FINGER COVERING CLOSED LIPS,.:SERIOUS FACE WITH SYMBOLS COVERING MOUTH,
.:SMILING FACE WITH SMILING EYES AND HAND COVERING MOUTH,.:FACE WITH OPEN MOUTH VOMITING,
.:SHOCKED FACE WITH EXPLODING HEAD,.:PREGNANT WOMAN,.:BREAST-FEEDING,.:PALMS UP TOGETHER,.:SELFIE,
.:PRINCE,.:MAN IN TUXEDO,.:MOTHER CHRISTMAS,.:SHRUG,.:PERSON DOING CARTWHEEL,.:JUGGLING,.:FENCER,
.:MODERN PENTATHLON,.:WRESTLERS,.:WATER POLO,.:HANDBALL,.:DIVING MASK,.:WILTED FLOWER,
.:DRUM WITH DRUMSTICKS,.:CLINKING GLASSES,.:TUMBLER GLASS,.:SPOON,.:GOAL NET,.:RIFLE,
.:FIRST PLACE MEDAL,.:SECOND PLACE MEDAL,.:THIRD PLACE MEDAL,.:BOXING GLOVE,
.:MARTIAL ARTS UNIFORM,.:CURLING STONE,.:LACROSSE STICK AND BALL,.:SOFTBALL,.:FLYING DISC,
.:CROISSANT,.:AVOCADO,.:CUCUMBER,.:BACON,.:POTATO,.:CARROT,.:BAGUETTE BREAD,.:GREEN SALAD,
.:SHALLOW PAN OF FOOD,.:STUFFED FLATBREAD,.:EGG,.:GLASS OF MILK,.:PEANUTS,.:KIWIFRUIT,.:PANCAKES,
.:DUMPLING,.:FORTUNE COOKIE,.:TAKEOUT BOX,.:CHOPSTICKS,.:BOWL WITH SPOON,.:CUP WITH STRAW,
.:COCONUT,.:BROCCOLI,.:PIE,.:PRETZEL,.:CUT OF MEAT,.:SANDWICH,.:CANNED FOOD,.:LEAFY GREEN,.:MANGO,
.:MOON CAKE,.:BAGEL,.:SMILING FACE WITH SMILING EYES AND THREE HEARTS,.:YAWNING FACE,
.:SMILING FACE WITH TEAR,.:FACE WITH PARTY HORN AND PARTY HAT,.2:UNEVEN EYES AND WAVY MOUTH,
.:OVERHEATED FACE,.:FREEZING FACE,.:NINJA,.:DISGUISED FACE,.:FACE HOLDING BACK TEARS,
.1:WITH PLEADING EYES,.:SARI,.:LAB COAT,.:GOGGLES,.:HIKING BOOT,.:FLAT SHOE,.:CRAB,.:LION FACE,
.:SCORPION,.:TURKEY,.:UNICORN FACE,.:EAGLE,.:DUCK,.:BAT,.:SHARK,.:OWL,.:FOX FACE,.:BUTTERFLY,
.:DEER,.:GORILLA,.:LIZARD,.:RHINOCEROS,.:SHRIMP,.:SQUID,.:GIRAFFE FACE,.:ZEBRA FACE,.:HEDGEHOG,
.:SAUROPOD,.:T-REX,.:CRICKET,.:KANGAROO,.:LLAMA,.:PEACOCK,.:HIPPOPOTAMUS,.:PARROT,.:RACCOON,
.:LOBSTER,.:MOSQUITO,.:MICROBE,.:BADGER,.:SWAN,.:MAMMOTH,.:DODO,.:SLOTH,.:OTTER,.:ORANGUTAN,
.:SKUNK,.:FLAMINGO,.:OYSTER,.:BEAVER,.:BISON,.:SEAL,.:GUIDE DOG,.:PROBING CANE,
.:EMOJI COMPONENT RED HAIR,.2:CURLY HAIR,.2:BALD,.2:WHITE HAIR,.:BONE,.:LEG,.:FOOT,.:TOOTH,
.:SUPERHERO,.:SUPERVILLAIN,.:SAFETY VEST,.:EAR WITH HEARING AID,.:MOTORIZED WHEELCHAIR,
.:MANUAL WHEELCHAIR,.:MECHANICAL ARM,.1:LEG,.:CHEESE WEDGE,.:CUPCAKE,.:SALT SHAKER,.:BEVERAGE BOX,
.:GARLIC,.:ONION,.:FALAFEL,.:WAFFLE,.:BUTTER,.:MATE DRINK,.:ICE CUBE,.:BUBBLE TEA,.:TROLL,
.:STANDING PERSON,.:KNEELING PERSON,.:DEAF PERSON,.:FACE WITH MONOCLE,.:ADULT,.:CHILD,
.:OLDER ADULT,.:BEARDED PERSON,.:PERSON WITH HEADSCARF,.1:IN STEAMY ROOM,.1:CLIMBING,
.1:IN LOTUS POSITION,.:MAGE,.:FAIRY,.:VAMPIRE,.:MERPERSON,.:ELF,.:GENIE,.:ZOMBIE,.:BRAIN,
.:ORANGE HEART,.:BILLED CAP,.:SCARF,.:GLOVES,.:COAT,.:SOCKS,.:RED GIFT ENVELOPE,.:FIRECRACKER,
.:JIGSAW PUZZLE PIECE,.:TEST TUBE,.:PETRI DISH,.:DNA DOUBLE HELIX,.:COMPASS,.:ABACUS,
.:FIRE EXTINGUISHER,.:TOOLBOX,.:BRICK,.:MAGNET,.:LUGGAGE,.:LOTION BOTTLE,.:SPOOL OF THREAD,
.:BALL OF YARN,.:SAFETY PIN,.:TEDDY BEAR,.:BROOM,.:BASKET,.:ROLL OF PAPER,.:BAR OF SOAP,.:SPONGE,
.:RECEIPT,.:NAZAR AMULET,.:NEUTRAL CHESS KING,.2:QUEEN,.2:ROOK,.2:BISHOP,.2:KNIGHT,.2:PAWN,
.:WHITE CHESS KNIGHT ROTATED FORTY-FIVE DEGREES,.:BLACK CHESS KNIGHT ROTATED FORTY-FIVE DEGREES,
.:NEUTRAL CHESS KNIGHT ROTATED FORTY-FIVE DEGREES,.:WHITE CHESS KING ROTATED NINETY DEGREES,
.2:QUEEN ROTATED NINETY DEGREES,.2:ROOK ROTATED NINETY DEGREES,.2:BISHOP ROTATED NINETY DEGREES,
.2:KNIGHT ROTATED NINETY DEGREES,.2:PAWN ROTATED NINETY DEGREES,
.:BLACK CHESS KING ROTATED NINETY DEGREES,.2:QUEEN ROTATED NINETY DEGREES,
.2:ROOK ROTATED NINETY DEGREES,.2:BISHOP ROTATED NINETY DEGREES,.2:KNIGHT ROTATED NINETY DEGREES,
.2:PAWN ROTATED NINETY DEGREES,.:NEUTRAL CHESS KING ROTATED NINETY DEGREES,
.2:QUEEN ROTATED NINETY DEGREES,.2:ROOK ROTATED NINETY DEGREES,.2:BISHOP ROTATED NINETY DEGREES,
.2:KNIGHT ROTATED NINETY DEGREES,.2:PAWN ROTATED NINETY DEGREES,
.:WHITE CHESS KNIGHT ROTATED ONE HUNDRED THIRTY-FIVE DEGREES,
.:BLACK CHESS KNIGHT ROTATED ONE HUNDRED THIRTY-FIVE DEGREES,
.:NEUTRAL CHESS KNIGHT ROTATED ONE HUNDRED THIRTY-FIVE DEGREES,.:WHITE CHESS TURNED KING,.3:QUEEN,
.3:ROOK,.3:BISHOP,.3:KNIGHT,.3:PAWN,.:BLACK CHESS TURNED KING,.3:QUEEN,.3:ROOK,.3:BISHOP,
.3:KNIGHT,.3:PAWN,.:NEUTRAL CHESS TURNED KING,.3:QUEEN,.3:ROOK,.3:BISHOP,.3:KNIGHT,.3:PAWN,
.:WHITE CHESS KNIGHT ROTATED TWO HUNDRED TWENTY-FIVE DEGREES,
.:BLACK CHESS KNIGHT ROTATED TWO HUNDRED TWENTY-FIVE DEGREES,
.:NEUTRAL CHESS KNIGHT ROTATED TWO HUNDRED TWENTY-FIVE DEGREES,
.:WHITE CHESS KING ROTATED TWO HUNDRED SEVENTY DEGREES,
.2:QUEEN ROTATED TWO HUNDRED SEVENTY DEGREES,.2:ROOK ROTATED TWO HUNDRED SEVENTY DEGREES,
.2:BISHOP ROTATED TWO HUNDRED SEVENTY DEGREES,.2:KNIGHT ROTATED TWO HUNDRED SEVENTY DEGREES,
.2:PAWN ROTATED TWO HUNDRED SEVENTY DEGREES,
.:BLACK CHESS KING ROTATED TWO HUNDRED SEVENTY DEGREES,
.2:QUEEN ROTATED TWO HUNDRED SEVENTY DEGREES,.2:ROOK ROTATED TWO HUNDRED SEVENTY DEGREES,
.2:BISHOP ROTATED TWO HUNDRED SEVENTY DEGREES,.2:KNIGHT ROTATED TWO HUNDRED SEVENTY DEGREES,
.2:PAWN ROTATED TWO HUNDRED SEVENTY DEGREES,
.:NEUTRAL CHESS KING ROTATED TWO HUNDRED SEVENTY DEGREES,
.2:QUEEN ROTATED TWO HUNDRED SEVENTY DEGREES,.2:ROOK ROTATED TWO HUNDRED SEVENTY DEGREES,
.2:BISHOP ROTATED TWO HUNDRED SEVENTY DEGREES,.2:KNIGHT ROTATED TWO HUNDRED SEVENTY DEGREES,
.2:PAWN ROTATED TWO HUNDRED SEVENTY DEGREES,
.:WHITE CHESS KNIGHT ROTATED THREE HUNDRED FIFTEEN DEGREES,
.:BLACK CHESS KNIGHT ROTATED THREE HUNDRED FIFTEEN DEGREES,
.:NEUTRAL CHESS KNIGHT ROTATED THREE HUNDRED FIFTEEN DEGREES,.:WHITE CHESS EQUIHOPPER,
.:BLACK CHESS EQUIHOPPER,.:NEUTRAL CHESS EQUIHOPPER,
.:WHITE CHESS EQUIHOPPER ROTATED NINETY DEGREES,.:BLACK CHESS EQUIHOPPER ROTATED NINETY DEGREES,
.:NEUTRAL CHESS EQUIHOPPER ROTATED NINETY DEGREES,.:WHITE CHESS KNIGHT-QUEEN,.2:KNIGHT-ROOK,
.2:KNIGHT-BISHOP,.:BLACK CHESS KNIGHT-QUEEN,.2:KNIGHT-ROOK,.2:KNIGHT-BISHOP,
D.:XIANGQI RED GENERAL,.2:MANDARIN,.2:ELEPHANT,.2:HORSE,.2:CHARIOT,.2:CANNON,.2:SOLDIER,
.1:BLACK GENERAL,.2:MANDARIN,.2:ELEPHANT,.2:HORSE,.2:CHARIOT,.2:CANNON,.2:SOLDIER,3.:BALLET SHOES,
.:ONE-PIECE SWIMSUIT,.:BRIEFS,.:SHORTS,.:THONG SANDAL,4.:DROP OF BLOOD,.:ADHESIVE BANDAGE,
.:STETHOSCOPE,.:X-RAY,.:CRUTCH,4.:YO-YO,.:KITE,.:PARACHUTE,.:BOOMERANG,.:MAGIC WAND,.:PINATA,
.:NESTING DOLLS,A.:RINGED PLANET,.:CHAIR,.:RAZOR,.:AXE,.:DIYA LAMP,.:BANJO,.:MILITARY HELMET,
.:ACCORDION,.:LONG DRUM,.:COIN,.:CARPENTRY SAW,.:SCREWDRIVER,.:LADDER,.:HOOK,.:MIRROR,.:WINDOW,
.:PLUNGER,.:SEWING NEEDLE,.:KNOT,.:BUCKET,.:MOUSE TRAP,.:TOOTHBRUSH,.:HEADSTONE,.:PLACARD,.:ROCK,
.:MIRROR BALL,.:IDENTIFICATION CARD,.:LOW BATTERY,.:HAMSA,4.:FLY,.:WORM,.:BEETLE,.:COCKROACH,
.:POTTED PLANT,.:WOOD,.:FEATHER,.:LOTUS,.:CORAL,.:EMPTY NEST,.:NEST WITH EGGS,6.:ANATOMICAL HEART,
.:LUNGS,.:PEOPLE HUGGING,.:PREGNANT MAN,.1:PERSON,.:PERSON WITH CROWN,B.:BLUEBERRIES,
.:BELL PEPPER,.:OLIVE,.:FLATBREAD,.:TAMALE,.:FONDUE,.:TEAPOT,.:POURING LIQUID,.:BEANS,.:JAR,
7.:MELTING FACE,.:SALUTING FACE,.:FACE WITH OPEN EYES AND HAND OVER MOUTH,.2:PEEKING EYE,
.2:DIAGONAL MOUTH,.:DOTTED LINE FACE,.:BITING LIP,.:BUBBLES,
9.:HAND WITH INDEX FINGER AND THUMB CROSSED,.:RIGHTWARDS HAND,.:LEFTWARDS HAND,.:PALM DOWN HAND,
.1:UP HAND,.:INDEX POINTING AT THE VIEWER,.:HEART HANDS,A.:BLOCK SEXTANT-1,.1:SEXTANT-2,
.1:SEXTANT-12,.1:SEXTANT-3,.1:SEXTANT-13,.1:SEXTANT-23,.1:SEXTANT-123,.1:SEXTANT-4,.1:SEXTANT-14,
.1:SEXTANT-24,.1:SEXTANT-124,.1:SEXTANT-34,.1:SEXTANT-134,.1:SEXTANT-234,.1:SEXTANT-1234,
.1:SEXTANT-5,.1:SEXTANT-15,.1:SEXTANT-25,.1:SEXTANT-125,.1:SEXTANT-35,.1:SEXTANT-235,
.1:SEXTANT-1235,.1:SEXTANT-45,.1:SEXTANT-145,.1:SEXTANT-245,.1:SEXTANT-1245,.1:SEXTANT-345,
.1:SEXTANT-1345,.1:SEXTANT-2345,.1:SEXTANT-12345,.1:SEXTANT-6,.1:SEXTANT-16,.1:SEXTANT-26,
.1:SEXTANT-126,.1:SEXTANT-36,.1:SEXTANT-136,.1:SEXTANT-236,.1:SEXTANT-1236,.1:SEXTANT-46,
.1:SEXTANT-146,.1:SEXTANT-1246,.1:SEXTANT-346,.1:SEXTANT-1346,.1:SEXTANT-2346,.1:SEXTANT-12346,
.1:SEXTANT-56,.1:SEXTANT-156,.1:SEXTANT-256,.1:SEXTANT-1256,.1:SEXTANT-356,.1:SEXTANT-1356,
.1:SEXTANT-2356,.1:SEXTANT-12356,.1:SEXTANT-456,.1:SEXTANT-1456,.1:SEXTANT-2456,.1:SEXTANT-12456,
.1:SEXTANT-3456,.1:SEXTANT-13456,.1:SEXTANT-23456,
.:LOWER LEFT BLOCK DIAGONAL LOWER MIDDLE LEFT TO LOWER CENTRE,.9:RIGHT,
.4:UPPER MIDDLE LEFT TO LOWER CENTRE,.9:RIGHT,.5:LEFT TO LOWER CENTRE,
.1:RIGHT BLOCK DIAGONAL UPPER MIDDLE LEFT TO UPPER CENTRE,.9:RIGHT,
.4:LOWER MIDDLE LEFT TO UPPER CENTRE,.9:RIGHT,.5:LEFT TO UPPER CENTRE,
.5:MIDDLE LEFT TO UPPER MIDDLE RIGHT,.5:CENTRE TO LOWER MIDDLE RIGHT,
.5:LEFT TO LOWER MIDDLE RIGHT,.5:CENTRE TO UPPER MIDDLE RIGHT,.5:LEFT TO UPPER MIDDLE RIGHT,
.5:CENTRE TO UPPER RIGHT,.1:LEFT BLOCK DIAGONAL UPPER CENTRE TO UPPER MIDDLE RIGHT,
.5:LEFT TO UPPER MIDDLE RIGHT,.5:CENTRE TO LOWER MIDDLE RIGHT,.5:LEFT TO LOWER MIDDLE RIGHT,
.5:CENTRE TO LOWER RIGHT,.5:MIDDLE LEFT TO LOWER MIDDLE RIGHT,
.:UPPER RIGHT BLOCK DIAGONAL LOWER MIDDLE LEFT TO LOWER CENTRE,.9:RIGHT,
.4:UPPER MIDDLE LEFT TO LOWER CENTRE,.9:RIGHT,.5:LEFT TO LOWER CENTRE,
.1:LEFT BLOCK DIAGONAL UPPER MIDDLE LEFT TO UPPER CENTRE,.9:RIGHT,
.4:LOWER MIDDLE LEFT TO UPPER CENTRE,.9:RIGHT,.5:LEFT TO UPPER CENTRE,
.5:MIDDLE LEFT TO UPPER MIDDLE RIGHT,.5:CENTRE TO LOWER MIDDLE RIGHT,
.5:LEFT TO LOWER MIDDLE RIGHT,.5:CENTRE TO UPPER MIDDLE RIGHT,.5:LEFT TO UPPER MIDDLE RIGHT,
.5:CENTRE TO UPPER RIGHT,.1:RIGHT BLOCK DIAGONAL UPPER CENTRE TO UPPER MIDDLE RIGHT,
.5:LEFT TO UPPER MIDDLE RIGHT,.5:CENTRE TO LOWER MIDDLE RIGHT,.5:LEFT TO LOWER MIDDLE RIGHT,
.5:CENTRE TO LOWER RIGHT,.5:MIDDLE LEFT TO LOWER MIDDLE RIGHT,
.1:AND RIGHT AND LOWER TRIANGULAR THREE QUARTERS BLOCK,
.:LEFT AND LOWER AND RIGHT TRIANGULAR THREE QUARTERS BLOCK,
.:UPPER AND LEFT AND LOWER TRIANGULAR THREE QUARTERS BLOCK,
.:LEFT AND UPPER AND RIGHT TRIANGULAR THREE QUARTERS BLOCK,.1:TRIANGULAR ONE QUARTER BLOCK,
.:UPPER TRIANGULAR ONE QUARTER BLOCK,.:RIGHT TRIANGULAR ONE QUARTER BLOCK,
.:LOWER TRIANGULAR ONE QUARTER BLOCK,.:VERTICAL ONE EIGHTH BLOCK-2,.3:BLOCK-3,.3:BLOCK-4,
.3:BLOCK-5,.3:BLOCK-6,.3:BLOCK-7,.:HORIZONTAL ONE EIGHTH BLOCK-2,.3:BLOCK-3,.3:BLOCK-4,.3:BLOCK-5,
.3:BLOCK-6,.3:BLOCK-7,.:LEFT AND LOWER ONE EIGHTH BLOCK,.2:UPPER ONE EIGHTH BLOCK,
.:RIGHT AND UPPER ONE EIGHTH BLOCK,.2:LOWER ONE EIGHTH BLOCK,.:UPPER AND LOWER ONE EIGHTH BLOCK,
.:HORIZONTAL ONE EIGHTH BLOCK-1358,.:UPPER ONE QUARTER BLOCK,.1:THREE EIGHTHS BLOCK,
.1:FIVE EIGHTHS BLOCK,.1:THREE QUARTERS BLOCK,.1:SEVEN EIGHTHS BLOCK,.:RIGHT ONE QUARTER BLOCK,
.1:THREE EIGHTHS BLOCK,.1:FIVE EIGHTHS BLOCK,.1:THREE QUARTERS BLOCK,.1:SEVEN EIGHTHS BLOCK,
.:LEFT HALF MEDIUM SHADE,.:RIGHT HALF MEDIUM SHADE,.:UPPER HALF MEDIUM SHADE,
.:LOWER HALF MEDIUM SHADE,.:INVERSE MEDIUM SHADE,
.:UPPER HALF BLOCK AND LOWER HALF INVERSE MEDIUM SHADE,
.2:INVERSE MEDIUM SHADE AND LOWER HALF BLOCK,
2.:LEFT HALF INVERSE MEDIUM SHADE AND RIGHT HALF BLOCK,.:CHECKER BOARD FILL,
.:INVERSE CHECKER BOARD FILL,.:HEAVY HORIZONTAL FILL,.:UPPER LEFT TO LOWER RIGHT FILL,
.1:RIGHT TO LOWER LEFT FILL,.1:AND LOWER TRIANGULAR HALF BLOCK,
.:LEFT AND RIGHT TRIANGULAR HALF BLOCK,.:UPPER LEFT TRIANGULAR MEDIUM SHADE,
.1:RIGHT TRIANGULAR MEDIUM SHADE,.:LOWER RIGHT TRIANGULAR MEDIUM SHADE,
.1:LEFT TRIANGULAR MEDIUM SHADE,.:BOX DRAWINGS LIGHT DIAGONAL UPPER CENTRE TO MIDDLE LEFT,
.8:RIGHT,.4:MIDDLE LEFT TO LOWER CENTRE,.5:RIGHT TO LOWER CENTRE,
.4:UPPER CENTRE TO MIDDLE LEFT TO LOWER CENTRE,.8:RIGHT TO LOWER CENTRE,
.4:MIDDLE LEFT TO LOWER CENTRE TO MIDDLE RIGHT,.7:UPPER CENTRE TO MIDDLE RIGHT,
.4:UPPER CENTRE TO MIDDLE LEFT AND MIDDLE RIGHT TO LOWER CENTRE,
.8:RIGHT AND MIDDLE LEFT TO LOWER CENTRE,.9:TO LOWER CENTRE TO MIDDLE LEFT,
.8:LEFT TO LOWER CENTRE TO MIDDLE RIGHT,
.4:MIDDLE LEFT TO UPPER CENTRE TO MIDDLE RIGHT TO LOWER CENTRE,
.5:RIGHT TO UPPER CENTRE TO MIDDLE LEFT TO LOWER CENTRE,.4:DIAMOND,
.3:HORIZONTAL WITH VERTICAL STROKE,.:ARROWHEAD-SHAPED POINTER,.:INVERSE CHECK MARK,
.:LEFT HALF RUNNING MAN,.:RIGHT HALF RUNNING MAN,.:INVERSE DOWNWARDS ARROW WITH TIP LEFTWARDS,
.:LEFTWARDS ARROW AND UPPER AND LOWER ONE EIGHTH BLOCK,
.:RIGHTWARDS ARROW AND UPPER AND LOWER ONE EIGHTH BLOCK,
.:DOWNWARDS ARROW AND RIGHT ONE EIGHTH BLOCK,.:UPWARDS ARROW AND RIGHT ONE EIGHTH BLOCK,
.:LEFT HALF FOLDER,.:RIGHT HALF FOLDER,.:VOIDED GREEK CROSS,.:RIGHT OPEN SQUARED DOT,
.:NEGATIVE DIAGONAL CROSS,.2:MIDDLE RIGHT TO LOWER CENTRE,.2:DIAMOND,
.:WHITE HEAVY SALTIRE WITH ROUNDED CORNERS,.:LEFT THIRD WHITE RIGHT POINTING INDEX,
.:MIDDLE THIRD WHITE RIGHT POINTING INDEX,.:RIGHT THIRD WHITE RIGHT POINTING INDEX,
.:NEGATIVE SQUARED QUESTION MARK,.:STICK FIGURE,.2:WITH ARMS RAISED,.2:LEANING LEFT,.3:RIGHT,
.2:WITH DRESS,.:WHITE UP-POINTING CHEVRON,26.:SEGMENTED DIGIT ZERO,.2:ONE,.2:TWO,.2:THREE,.2:FOUR,
.2:FIVE,.2:SIX,.2:SEVEN,.2:EIGHT,.2:NINE,C0408.:LANGUAGE TAG,1F.:TAG SPACE,.1:EXCLAMATION MARK,
.1:QUOTATION MARK,.1:NUMBER SIGN,.1:DOLLAR SIGN,.1:PERCENT SIGN,.1:AMPERSAND,.1:APOSTROPHE,
.1:LEFT PARENTHESIS,.1:RIGHT PARENTHESIS,.1:ASTERISK,.1:PLUS SIGN,.1:COMMA,.1:HYPHEN-MINUS,
.1:FULL STOP,.1:SOLIDUS,.1:DIGIT ZERO,.2:ONE,.2:TWO,.2:THREE,.2:FOUR,.2:FIVE,.2:SIX,.2:SEVEN,
.2:EIGHT,.2:NINE,.1:COLON,.1:SEMICOLON,.1:LESS-THAN SIGN,.1:EQUALS SIGN,.1:GREATER-THAN SIGN,
.1:QUESTION MARK,.1:COMMERCIAL AT,.1:LATIN CAPITAL LETTER A,.4:B,.4:C,.4:D,.4:E,.4:F,.4:G,.4:H,
.4:I,.4:J,.4:K,.4:L,.4:M,.4:N,.4:O,.4:P,.4:Q,.4:R,.4:S,.4:T,.4:U,.4:V,.4:W,.4:X,.4:Y,.4:Z,
.1:LEFT SQUARE BRACKET,.1:REVERSE SOLIDUS,.1:RIGHT SQUARE BRACKET,.1:CIRCUMFLEX ACCENT,
.1:LOW LINE,.1:GRAVE ACCENT,.1:LATIN SMALL LETTER A,.4:B,.4:C,.4:D,.4:E,.4:F,.4:G,.4:H,.4:I,.4:J,
.4:K,.4:L,.4:M,.4:N,.4:O,.4:P,.4:Q,.4:R,.4:S,.4:T,.4:U,.4:V,.4:W,.4:X,.4:Y,.4:Z,
.1:LEFT CURLY BRACKET,.1:VERTICAL LINE,.1:RIGHT CURLY BRACKET,.1:TILDE,.:CANCEL TAG,
81.:VARIATION SELECTOR-17,0.:VS17,.:VARIATION SELECTOR-18,0.:VS18,.:VARIATION SELECTOR-19,0.:VS19,
.:VARIATION SELECTOR-20,0.:VS20,.:VARIATION SELECTOR-21,0.:VS21,.:VARIATION SELECTOR-22,0.:VS22,
.:VARIATION SELECTOR-23,0.:VS23,.:VARIATION SELECTOR-24,0.:VS24,.:VARIATION SELECTOR-25,0.:VS25,
.:VARIATION SELECTOR-26,0.:VS26,.:VARIATION SELECTOR-27,0.:VS27,.:VARIATION SELECTOR-28,0.:VS28,
.:VARIATION SELECTOR-29,0.:VS29,.:VARIATION SELECTOR-30,0.:VS30,.:VARIATION SELECTOR-31,0.:VS31,
.:VARIATION SELECTOR-32,0.:VS32,.:VARIATION SELECTOR-33,0.:VS33,.:VARIATION SELECTOR-34,0.:VS34,
.:VARIATION SELECTOR-35,0.:VS35,.:VARIATION SELECTOR-36,0.:VS36,.:VARIATION SELECTOR-37,0.:VS37,
.:VARIATION SELECTOR-38,0.:VS38,.:VARIATION SELECTOR-39,0.:VS39,.:VARIATION SELECTOR-40,0.:VS40,
.:VARIATION SELECTOR-41,0.:VS41,.:VARIATION SELECTOR-42,0.:VS42,.:VARIATION SELECTOR-43,0.:VS43,
.:VARIATION SELECTOR-44,0.:VS44,.:VARIATION SELECTOR-45,0.:VS45,.:VARIATION SELECTOR-46,0.:VS46,
.:VARIATION SELECTOR-47,0.:VS47,.:VARIATION SELECTOR-48,0.:VS48,.:VARIATION SELECTOR-49,0.:VS49,
.:VARIATION SELECTOR-50,0.:VS50,.:VARIATION SELECTOR-51,0.:VS51,.:VARIATION SELECTOR-52,0.:VS52,
.:VARIATION SELECTOR-53,0.:VS53,.:VARIATION SELECTOR-54,0.:VS54,.:VARIATION SELECTOR-55,0.:VS55,
.:VARIATION SELECTOR-56,0.:VS56,.:VARIATION SELECTOR-57,0.:VS57,.:VARIATION SELECTOR-58,0.:VS58,
.:VARIATION SELECTOR-59,0.:VS59,.:VARIATION SELECTOR-60,0.:VS60,.:VARIATION SELECTOR-61,0.:VS61,
.:VARIATION SELECTOR-62,0.:VS62,.:VARIATION SELECTOR-63,0.:VS63,.:VARIATION SELECTOR-64,0.:VS64,
.:VARIATION SELECTOR-65,0.:VS65,.:VARIATION SELECTOR-66,0.:VS66,.:VARIATION SELECTOR-67,0.:VS67,
.:VARIATION SELECTOR-68,0.:VS68,.:VARIATION SELECTOR-69,0.:VS69,.:VARIATION SELECTOR-70,0.:VS70,
.:VARIATION SELECTOR-71,0.:VS71,.:VARIATION SELECTOR-72,0.:VS72,.:VARIATION SELECTOR-73,0.:VS73,
.:VARIATION SELECTOR-74,0.:VS74,.:VARIATION SELECTOR-75,0.:VS75,.:VARIATION SELECTOR-76,0.:VS76,
.:VARIATION SELECTOR-77,0.:VS77,.:VARIATION SELECTOR-78,0.:VS78,.:VARIATION SELECTOR-79,0.:VS79,
.:VARIATION SELECTOR-80,0.:VS80,.:VARIATION SELECTOR-81,0.:VS81,.:VARIATION SELECTOR-82,0.:VS82,
.:VARIATION SELECTOR-83,0.:VS83,.:VARIATION SELECTOR-84,0.:VS84,.:VARIATION SELECTOR-85,0.:VS85,
.:VARIATION SELECTOR-86,0.:VS86,.:VARIATION SELECTOR-87,0.:VS87,.:VARIATION SELECTOR-88,0.:VS88,
.:VARIATION SELECTOR-89,0.:VS89,.:VARIATION SELECTOR-90,0.:VS90,.:VARIATION SELECTOR-91,0.:VS91,
.:VARIATION SELECTOR-92,0.:VS92,.:VARIATION SELECTOR-93,0.:VS93,.:VARIATION SELECTOR-94,0.:VS94,
.:VARIATION SELECTOR-95,0.:VS95,.:VARIATION SELECTOR-96,0.:VS96,.:VARIATION SELECTOR-97,0.:VS97,
.:VARIATION SELECTOR-98,0.:VS98,.:VARIATION SELECTOR-99,0.:VS99,.:VARIATION SELECTOR-100,0.:VS100,
.:VARIATION SELECTOR-101,0.:VS101,.:VARIATION SELECTOR-102,0.:VS102,.:VARIATION SELECTOR-103,
0.:VS103,.:VARIATION SELECTOR-104,0.:VS104,.:VARIATION SELECTOR-105,0.:VS105,
.:VARIATION SELECTOR-106,0.:VS106,.:VARIATION SELECTOR-107,0.:VS107,.:VARIATION SELECTOR-108,
0.:VS108,.:VARIATION SELECTOR-109,0.:VS109,.:VARIATION SELECTOR-110,0.:VS110,
.:VARIATION SELECTOR-111,0.:VS111,.:VARIATION SELECTOR-112,0.:VS112,.:VARIATION SELECTOR-113,
0.:VS113,.:VARIATION SELECTOR-114,0.:VS114,.:VARIATION SELECTOR-115,0.:VS115,
.:VARIATION SELECTOR-116,0.:VS116,.:VARIATION SELECTOR-117,0.:VS117,.:VARIATION SELECTOR-118,
0.:VS118,.:VARIATION SELECTOR-119,0.:VS119,.:VARIATION SELECTOR-120,0.:VS120,
.:VARIATION SELECTOR-121,0.:VS121,.:VARIATION SELECTOR-122,0.:VS122,.:VARIATION SELECTOR-123,
0.:VS123,.:VARIATION SELECTOR-124,0.:VS124,.:VARIATION SELECTOR-125,0.:VS125,
.:VARIATION SELECTOR-126,0.:VS126,.:VARIATION SELECTOR-127,0.:VS127,.:VARIATION SELECTOR-128,
0.:VS128,.:VARIATION SELECTOR-129,0.:VS129,.:VARIATION SELECTOR-130,0.:VS130,
.:VARIATION SELECTOR-131,0.:VS131,.:VARIATION SELECTOR-132,0.:VS132,.:VARIATION SELECTOR-133,
0.:VS133,.:VARIATION SELECTOR-134,0.:VS134,.:VARIATION SELECTOR-135,0.:VS135,
.:VARIATION SELECTOR-136,0.:VS136,.:VARIATION SELECTOR-137,0.:VS137,.:VARIATION SELECTOR-138,
0.:VS138,.:VARIATION SELECTOR-139,0.:VS139,.:VARIATION SELECTOR-140,0.:VS140,
.:VARIATION SELECTOR-141,0.:VS141,.:VARIATION SELECTOR-142,0.:VS142,.:VARIATION SELECTOR-143,
0.:VS143,.:VARIATION SELECTOR-144,0.:VS144,.:VARIATION SELECTOR-145,0.:VS145,
.:VARIATION SELECTOR-146,0.:VS146,.:VARIATION SELECTOR-147,0.:VS147,.:VARIATION SELECTOR-148,
0.:VS148,.:VARIATION SELECTOR-149,0.:VS149,.:VARIATION SELECTOR-150,0.:VS150,
.:VARIATION SELECTOR-151,0.:VS151,.:VARIATION SELECTOR-152,0.:VS152,.:VARIATION SELECTOR-153,
0.:VS153,.:VARIATION SELECTOR-154,0.:VS154,.:VARIATION SELECTOR-155,0.:VS155,
.:VARIATION SELECTOR-156,0.:VS156,.:VARIATION SELECTOR-157,0.:VS157,.:VARIATION SELECTOR-158,
0.:VS158,.:VARIATION SELECTOR-159,0.:VS159,.:VARIATION SELECTOR-160,0.:VS160,
.:VARIATION SELECTOR-161,0.:VS161,.:VARIATION SELECTOR-162,0.:VS162,.:VARIATION SELECTOR-163,
0.:VS163,.:VARIATION SELECTOR-164,0.:VS164,.:VARIATION SELECTOR-165,0.:VS165,
.:VARIATION SELECTOR-166,0.:VS166,.:VARIATION SELECTOR-167,0.:VS167,.:VARIATION SELECTOR-168,
0.:VS168,.:VARIATION SELECTOR-169,0.:VS169,.:VARIATION SELECTOR-170,0.:VS170,
.:VARIATION SELECTOR-171,0.:VS171,.:VARIATION SELECTOR-172,0.:VS172,.:VARIATION SELECTOR-173,
0.:VS173,.:VARIATION SELECTOR-174,0.:VS174,.:VARIATION SELECTOR-175,0.:VS175,
.:VARIATION SELECTOR-176,0.:VS176,.:VARIATION SELECTOR-177,0.:VS177,.:VARIATION SELECTOR-178,
0.:VS178,.:VARIATION SELECTOR-179,0.:VS179,.:VARIATION SELECTOR-180,0.:VS180,
.:VARIATION SELECTOR-181,0.:VS181,.:VARIATION SELECTOR-182,0.:VS182,.:VARIATION SELECTOR-183,
0.:VS183,.:VARIATION SELECTOR-184,0.:VS184,.:VARIATION SELECTOR-185,0.:VS185,
.:VARIATION SELECTOR-186,0.:VS186,.:VARIATION SELECTOR-187,0.:VS187,.:VARIATION SELECTOR-188,
0.:VS188,.:VARIATION SELECTOR-189,0.:VS189,.:VARIATION SELECTOR-190,0.:VS190,
.:VARIATION SELECTOR-191,0.:VS191,.:VARIATION SELECTOR-192,0.:VS192,.:VARIATION SELECTOR-193,
0.:VS193,.:VARIATION SELECTOR-194,0.:VS194,.:VARIATION SELECTOR-195,0.:VS195,
.:VARIATION SELECTOR-196,0.:VS196,.:VARIATION SELECTOR-197,0.:VS197,.:VARIATION SELECTOR-198,
0.:VS198,.:VARIATION SELECTOR-199,0.:VS199,.:VARIATION SELECTOR-200,0.:VS200,
.:VARIATION SELECTOR-201,0.:VS201,.:VARIATION SELECTOR-202,0.:VS202,.:VARIATION SELECTOR-203,
0.:VS203,.:VARIATION SELECTOR-204,0.:VS204,.:VARIATION SELECTOR-205,0.:VS205,
.:VARIATION SELECTOR-206,0.:VS206,.:VARIATION SELECTOR-207,0.:VS207,.:VARIATION SELECTOR-208,
0.:VS208,.:VARIATION SELECTOR-209,0.:VS209,.:VARIATION SELECTOR-210,0.:VS210,
.:VARIATION SELECTOR-211,0.:VS211,.:VARIATION SELECTOR-212,0.:VS212,.:VARIATION SELECTOR-213,
0.:VS213,.:VARIATION SELECTOR-214,0.:VS214,.:VARIATION SELECTOR-215,0.:VS215,
.:VARIATION SELECTOR-216,0.:VS216,.:VARIATION SELECTOR-217,0.:VS217,.:VARIATION SELECTOR-218,
0.:VS218,.:VARIATION SELECTOR-219,0.:VS219,.:VARIATION SELECTOR-220,0.:VS220,
.:VARIATION SELECTOR-221,0.:VS221,.:VARIATION SELECTOR-222,0.:VS222,.:VARIATION SELECTOR-223,
0.:VS223,.:VARIATION SELECTOR-224,0.:VS224,.:VARIATION SELECTOR-225,0.:VS225,
.:VARIATION SELECTOR-226,0.:VS226,.:VARIATION SELECTOR-227,0.:VS227,.:VARIATION SELECTOR-228,
0.:VS228,.:VARIATION SELECTOR-229,0.:VS229,.:VARIATION SELECTOR-230,0.:VS230,
.:VARIATION SELECTOR-231,0.:VS231,.:VARIATION SELECTOR-232,0.:VS232,.:VARIATION SELECTOR-233,
0.:VS233,.:VARIATION SELECTOR-234,0.:VS234,.:VARIATION SELECTOR-235,0.:VS235,
.:VARIATION SELECTOR-236,0.:VS236,.:VARIATION SELECTOR-237,0.:VS237,.:VARIATION SELECTOR-238,
0.:VS238,.:VARIATION SELECTOR-239,0.:VS239,.:VARIATION SELECTOR-240,0.:VS240,
.:VARIATION SELECTOR-241,0.:VS241,.:VARIATION SELECTOR-242,0.:VS242,.:VARIATION SELECTOR-243,
0.:VS243,.:VARIATION SELECTOR-244,0.:VS244,.:VARIATION SELECTOR-245,0.:VS245,
.:VARIATION SELECTOR-246,0.:VS246,.:VARIATION SELECTOR-247,0.:VS247,.:VARIATION SELECTOR-248,
0.:VS248,.:VARIATION SELECTOR-249,0.:VS249,.:VARIATION SELECTOR-250,0.:VS250,
.:VARIATION SELECTOR-251,0.:VS251,.:VARIATION SELECTOR-252,0.:VS252,.:VARIATION SELECTOR-253,
0.:VS253,.:VARIATION SELECTOR-254,0.:VS254,.:VARIATION SELECTOR-255,0.:VS255,
.:VARIATION SELECTOR-256,0.:VS256,"

end ServoScript.CharacterName
