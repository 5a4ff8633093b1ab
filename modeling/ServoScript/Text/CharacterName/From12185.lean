/-!
# Names of characters from 12185 on
-/

namespace ServoScript.CharacterName

def from12185 : String := "
12185.:CUNEIFORM SIGN KA TIMES SUHUR,.4:TAR,.4:U,.4:U2,.4:UD,.4:UMUM TIMES PA,.4:USH,.4:ZI,.2:KA2,
.3:CROSSING KA2,.2:KAB,.2:KAD2,.2:KAD3,.2:KAD4,.2:KAD5,.3:OVER KAD5,.2:KAK,.3:TIMES IGI GUNU,
.2:KAL,.3:TIMES BAD,.3:CROSSING KAL,.2:KAM2,.2:KAM4,.2:KASKAL,.3:LAGAB TIMES U OVER LAGAB TIMES U,
.3:OVER KASKAL LAGAB TIMES U OVER LAGAB TIMES U,.2:KESH2,.2:KI,.3:TIMES BAD,.4:U,.4:UD,.2:KID,
.2:KIN,.2:KISAL,.2:KISH,.2:KISIM5,.3:OVER KISIM5,.2:KU,
.3:OVER HI TIMES ASH2 KU OVER HI TIMES ASH2,.2:KU3,.2:KU4,.3:VARIANT FORM,.2:KU7,.2:KUL,.3:GUNU,
.2:KUN,.2:KUR,.3:OPPOSING KUR,.2:KUSHU2,.2:KWU318,.2:LA,.2:LAGAB,.3:TIMES A,.5:PLUS DA PLUS HA,
.6:GAR,.6:LAL,.4:AL,.4:AN,.4:ASH ZIDA TENU,.4:BAD,.4:BI,.4:DAR,.4:EN,.4:GA,.4:GAR,.4:GUD,
.5:PLUS GUD,.4:HA,.4:HAL,.4:HI TIMES NUN,.4:IGI GUNU,.4:IM,.5:PLUS HA,.6:LU,.4:KI,.4:KIN,.4:KU3,
.4:KUL,.5:PLUS HI PLUS A,.4:LAGAB,.4:LISH,.4:LU,.4:LUL,.4:ME,.5:PLUS EN,.4:MUSH,.4:NE,
.4:SHE PLUS SUM,.4:SHITA PLUS GISH PLUS ERIN2,.7:TENU,.4:SHU2,.5:PLUS SHU2,.4:SUM,.4:TAG,.4:TAK4,
.4:TE PLUS A PLUS SU PLUS NA,.4:U,.5:PLUS A,.6:U PLUS U,.4:U2 PLUS ASH,.4:UD,.4:USH,.3:SQUARED,
.2:LAGAR,.3:TIMES SHE,.5:PLUS SUM,.3:GUNU,.4:OVER LAGAR GUNU SHE,.2:LAHSHU,.2:LAL,.3:TIMES LAL,
.2:LAM,.3:TIMES KUR,.5:PLUS RU,.2:LI,.2:LIL,.2:LIMMU2,.2:LISH,.2:LU,.3:TIMES BAD,.2:LU2,
.3:TIMES AL,.4:BAD,.4:ESH2,.5:TENU,.4:GAN2 TENU,.4:HI TIMES BAD,.4:IM,.4:KAD2,.4:KAD3,.5:PLUS ASH,
.4:KI,.4:LA PLUS ASH,.4:LAGAB,.4:ME PLUS EN,.4:NE,.4:NU,.4:SI PLUS ASH,.4:SIK2 PLUS BU,.4:TUG2,
.3:TENU,.3:CROSSING LU2,.3:OPPOSING LU2,.3:SQUARED,.3:SHESHIG,.2:LU3,.2:LUGAL,.3:OVER LUGAL,
.3:OPPOSING LUGAL,.3:SHESHIG,.2:LUH,.2:LUL,.2:LUM,.3:OVER LUM,.5:GAR OVER GAR,.2:MA,.3:TIMES TAK4,
.3:GUNU,.2:MA2,.2:MAH,.2:MAR,.2:MASH,.2:MASH2,.2:ME,.2:MES,.2:MI,.2:MIN,.2:MU,.3:OVER MU,.2:MUG,
.3:GUNU,.2:MUNSUB,.2:MURGU2,.2:MUSH,.3:TIMES A,.4:KUR,.4:ZA,.3:OVER MUSH,.5:TIMES A PLUS NA,
.3:CROSSING MUSH,.2:MUSH3,.3:TIMES A,.5:PLUS DI,.4:DI,.3:GUNU,.2:NA,.2:NA2,.2:NAGA,.3:INVERTED,
.3:TIMES SHU TENU,.3:OPPOSING NAGA,.2:NAGAR,.2:NAM NUTILLU,.3:,.2:NAM2,.2:NE,.3:TIMES A,.4:UD,
.3:SHESHIG,.2:NI,.3:TIMES E,.2:NI2,.2:NIM,.3:TIMES GAN2 TENU,.4:GAR PLUS GAN2 TENU,.2:NINDA2,
.3:TIMES AN,.4:ASH,.5:PLUS ASH,.4:GUD,.4:ME PLUS GAN2 TENU,.4:NE,.4:NUN,.4:SHE,.5:PLUS A AN,
.6:ASH,.7:PLUS ASH,.4:U2 PLUS ASH,.4:USH,.2:NISAG,.2:NU,.2:NU11,.2:NUN,.3:LAGAR TIMES GAR,.5:MASH,
.5:SAL,.6:OVER NUN LAGAR TIMES SAL,.5:USH,.3:TENU,.3:OVER NUN,.3:CROSSING NUN,.5:LAGAR OVER LAGAR,
.2:NUNUZ,.3:AB2 TIMES ASHGAB,.5:BI,.5:DUG,.5:GUD,.5:IGI GUNU,.5:KAD3,.5:LA,.5:NE,.5:SILA3,.5:U2,
.3:KISIM5 TIMES BI,.6:U,.2:PA,.2:PAD,.2:PAN,.2:PAP,.2:PESH2,.2:PI,.3:TIMES A,.4:AB,.4:BI,.4:BU,
.4:E,.4:I,.4:IB,.4:U,.4:U2,.3:CROSSING PI,.2:PIRIG,.3:TIMES KAL,.4:UD,.4:ZA,.3:OPPOSING PIRIG,
.2:RA,.2:RAB,.2:RI,.2:RU,.2:SA,.2:SAG NUTILLU,.3:,.3:TIMES A,.4:DU,.4:DUB,.4:HA,.4:KAK,.4:KUR,
.4:LUM,.4:MI,.4:NUN,.4:SAL,.4:SHID,.4:TAB,.4:U2,.4:UB,.4:UM,.4:UR,.4:USH,.3:OVER SAG,.3:GUNU,
.2:SAL,.3:LAGAB TIMES ASH2,.2:SANGA2,.2:SAR,.2:SHA,.2:SHA3,.3:TIMES A,.4:BAD,.4:GISH,.4:NE,
.4:SHU2,.4:TUR,.4:U,.5:PLUS A,.2:SHA6,.2:SHAB6,.2:SHAR2,.2:SHE,.3:HU,
.3:OVER SHE GAD OVER GAD GAR OVER GAR,.5:TAB OVER TAB GAR OVER GAR,.2:SHEG9,.2:SHEN,.2:SHESH,
.2:SHESH2,.2:SHESHLAM,.2:SHID,.3:TIMES A,.4:IM,.2:SHIM,.3:TIMES A,.4:BAL,.4:BULUG,.4:DIN,.4:GAR,
.4:IGI,.5:GUNU,.4:KUSHU2,.4:LUL,.4:MUG,.4:SAL,.2:SHINIG,.2:SHIR,.2:NU11 TENU,0.2:SHIR TENU,
.2:NU11 OVER NU11 BUR OVER BUR,0.2:SHIR OVER SHIR BUR OVER BUR,.2:SHITA,.2:SHU,
.3:OVER INVERTED SHU,.2:SHU2,.2:SHUBUR,.2:SI,.3:GUNU,.2:SIG,.2:SIG4,.3:OVER SIG4 SHU2,.2:SIK2,
.2:SILA3,.2:SU,.3:OVER SU,.2:SUD,.2:SUD2,.2:SUHUR,.2:SUM,.2:SUMASH,.2:SUR,.2:SUR9,.2:TA,
.3:ASTERISK,.3:TIMES HI,.4:MI,.3:GUNU,.2:TAB,.3:OVER TAB NI OVER NI DISH OVER DISH,.3:SQUARED,
.2:TAG,.3:TIMES BI,.4:GUD,.4:SHE,.4:SHU,.4:TUG2,.4:UD,.2:TAK4,.2:TAR,.2:TE,.3:GUNU,.2:TI,.3:TENU,
.2:TIL,.2:TIR,.3:TIMES TAK4,.3:OVER TIR,.5:GAD OVER GAD GAR OVER GAR,.2:TU,.2:TUG2,.2:TUK,.2:TUM,
.2:TUR,.3:OVER TUR ZA OVER ZA,.2:U,.3:GUD,.3:U U,.3:OVER U PA OVER PA GAR OVER GAR,
.5:SUR OVER SUR,.5:U REVERSED OVER U REVERSED,.2:U2,.2:UB,.2:UD,.3:KUSHU2,.3:TIMES BAD,.4:MI,
.4:U PLUS U PLUS U,.9:GUNU,.3:GUNU,.3:SHESHIG,.4:TIMES BAD,.2:UDUG,.2:UM,.3:TIMES LAGAB,
.4:ME PLUS DA,.4:SHA3,.4:U,.2:UMBIN,.2:UMUM,.3:TIMES KASKAL,.4:PA,.2:UN,.3:GUNU,.2:UR,
.3:CROSSING UR,.3:SHESHIG,.2:UR2,.3:TIMES A PLUS HA,.6:NA,.4:AL,.4:HA,.4:NUN,.4:U2,.5:PLUS ASH,
.6:BI,.2:UR4,.2:URI,.2:URI3,.2:URU,.3:TIMES A,.4:ASHGAB,.4:BAR,.4:DUN,.4:GA,.4:GAL,.4:GAN2 TENU,
.4:GAR,.4:GU,.4:HA,.4:IGI,.4:IM,.4:ISH,.4:KI,.4:LUM,.4:MIN,.4:PA,.4:SHE,.4:SIG4,.4:TU,
.4:U PLUS GUD,.4:UD,.4:URUDA,.2:URUDA,.3:TIMES U,.2:USH,.3:TIMES A,.4:KU,.4:KUR,.4:TAK4,.2:USHX,
.2:USH2,.2:USHUMX,.2:UTUKI,.2:UZ3,.3:TIMES KASKAL,.2:UZU,.2:ZA,.3:TENU,.3:SQUARED TIMES KUR,
.2:ZAG,.2:ZAMX,.2:ZE2,.2:ZI,.3:OVER ZI,.2:ZI3,.2:ZIB,.3:KABA TENU,.2:ZIG,.2:ZIZ2,.2:ZU,.2:ZU5,
.3:TIMES A,.2:ZUBUR,.2:ZUM,.2:KAP ELAMITE,.2:AB TIMES NUN,.2:AB2 TIMES A,.2:AMAR TIMES KUG,
.2:DAG KISIM5 TIMES U2 PLUS MASH,.2:DAG3,.2:DISH PLUS SHU,.2:DUB TIMES SHE,.2:EZEN TIMES GUD,
.4:SHE,.2:GA2 TIMES AN PLUS KAK PLUS A,.4:ASH2,.2:GE22,.2:GIG,.2:HUSH,.2:KA TIMES ANSHE,.4:ASH3,
.4:GISH,.4:GUD,.4:HI TIMES ASH2,.4:LUM,.4:PA,.4:SHUL,.4:TU,.4:UR2,.2:LAGAB TIMES GI,
.2:LU2 SHESHIG TIMES BAD,.3:TIMES ESH2 PLUS LAL,.4:SHU,.2:MESH,.2:MUSH3 TIMES ZA,.2:NA4,.2:NIN,
.2:NIN9,.2:NINDA2 TIMES BAL,.4:GI,.2:NU11 ROTATED NINETY DEGREES,.2:PESH2 ASTERISK,.2:PIR2,
.2:SAG TIMES IGI GUNU,.2:TI2,.2:UM TIMES ME,.2:U U,67.1:NUMERIC SIGN TWO ASH,.3:THREE ASH,
.3:FOUR ASH,.3:FIVE ASH,.3:SIX ASH,.3:SEVEN ASH,.3:EIGHT ASH,.3:NINE ASH,.3:THREE DISH,
.3:FOUR DISH,.3:FIVE DISH,.3:SIX DISH,.3:SEVEN DISH,.3:EIGHT DISH,.3:NINE DISH,.3:FOUR U,
.3:FIVE U,.3:SIX U,.3:SEVEN U,.3:EIGHT U,.3:NINE U,.3:ONE GESH2,.3:TWO GESH2,.3:THREE GESH2,
.3:FOUR GESH2,.3:FIVE GESH2,.3:SIX GESH2,.3:SEVEN GESH2,.3:EIGHT GESH2,.3:NINE GESH2,.3:ONE GESHU,
.3:TWO GESHU,.3:THREE GESHU,.3:FOUR GESHU,.3:FIVE GESHU,.3:TWO SHAR2,.3:THREE SHAR2,
.5:VARIANT FORM,.3:FOUR SHAR2,.3:FIVE SHAR2,.3:SIX SHAR2,.3:SEVEN SHAR2,.3:EIGHT SHAR2,
.3:NINE SHAR2,.3:ONE SHARU,.3:TWO SHARU,.3:THREE SHARU,.5:VARIANT FORM,.3:FOUR SHARU,
.3:FIVE SHARU,.3:SHAR2 TIMES GAL PLUS DISH,.7:MIN,.3:ONE BURU,.3:TWO BURU,.3:THREE BURU,
.5:VARIANT FORM,.3:FOUR BURU,.3:FIVE BURU,.3:THREE VARIANT FORM ESH16,.6:ESH21,
.3:FOUR VARIANT FORM LIMMU,.6:LIMMU4,.6:LIMMU A,.7:B,.3:SIX VARIANT FORM ASH9,
.3:SEVEN VARIANT FORM IMIN3,.6:IMIN A,.7:B,.3:EIGHT VARIANT FORM USSU,.6:USSU3,
.3:NINE VARIANT FORM ILIMMU,.6:ILIMMU3,.6:ILIMMU4,.6:ILIMMU A,.3:TWO ASH TENU,.3:THREE ASH TENU,
.3:FOUR ASH TENU,.3:FIVE ASH TENU,.3:SIX ASH TENU,.3:ONE BAN2,.3:TWO BAN2,.3:THREE BAN2,
.3:FOUR BAN2,.5:VARIANT FORM,.3:FIVE BAN2,.5:VARIANT FORM,.3:NIGIDAMIN,.3:NIGIDAESH,.3:ONE ESHE3,
.3:TWO ESHE3,.3:ONE THIRD DISH,.3:TWO THIRDS DISH,.3:FIVE SIXTHS DISH,.3:ONE THIRD VARIANT FORM A,
.3:TWO THIRDS VARIANT FORM A,.3:ONE EIGHTH ASH,.4:QUARTER ASH,.3:OLD ASSYRIAN ONE SIXTH,
.6:QUARTER,.3:ONE QUARTER GUR,.4:HALF GUR,.3:ELAMITE ONE THIRD,.4:TWO THIRDS,.4:FORTY,.4:FIFTY,
.3:FOUR U VARIANT FORM,.3:FIVE U VARIANT FORM,.3:SIX U VARIANT FORM,.3:SEVEN U VARIANT FORM,
.3:EIGHT U VARIANT FORM,.3:NINE U VARIANT FORM,2.1:PUNCTUATION SIGN OLD ASSYRIAN WORD DIVIDER,
.3:VERTICAL COLON,.3:DIAGONAL COLON,.4:TRICOLON,.4:QUADCOLON,C.1:SIGN AB TIMES NUN TENU,.4:SHU2,
.2:AD TIMES ESH2,.2:BAD TIMES DISH TENU,.2:BAHAR2 TIMES AB2,.4:NI,.4:ZA,.2:BU OVER BU TIMES NA2,
.2:DA TIMES TAK4,.2:DAG TIMES KUR,.2:DIM TIMES IGI,.4:U U U,.2:DIM2 TIMES UD,.2:DUG TIMES ANSHE,
.4:ASH,.5:AT LEFT,.4:DIN,.4:DUN,.4:ERIN2,.4:GA,.4:GI,.4:GIR2 GUNU,.4:GISH,.4:HA,.4:HI,.4:IGI GUNU,
.4:KASKAL,.4:KUR,.4:KUSHU2,.5:PLUS KASKAL,.4:LAK-020,.4:LAM,.5:TIMES KUR,.4:LUH PLUS GISH,.4:MASH,
.4:MES,.4:MI,.4:NI,.4:PI,.4:SHE,.4:SI GUNU,.2:E2 TIMES KUR,.4:PAP,.2:ERIN2 X,
.2:ESH2 CROSSING ESH2,.2:EZEN SHESHIG TIMES ASH,.5:HI,.5:IGI GUNU,.5:LA,.5:LAL,.5:ME,.5:MES,.5:SU,
.3:TIMES SU,.2:GA2 TIMES BAHAR2,.4:DIM GUNU,.4:DUG TIMES IGI GUNU,.6:KASKAL,.4:EREN,.4:GA,
.4:GAR PLUS DI,.6:NE,.4:HA PLUS A,.4:KUSHU2 PLUS KASKAL,.4:LAM,.5:TIMES KUR,.4:LUH,.4:MUSH,.4:NE,
.5:PLUS E2,.6:GI,.4:SHIM,.4:ZIZ2,.2:GABA ROTATED NINETY DEGREES,.2:GESHTIN TIMES U,
.2:GISH TIMES GISH CROSSING GISH,.2:GU2 TIMES IGI GUNU,.2:GUD PLUS GISH TIMES TAK4,
.2:HA TENU GUNU,.2:HI TIMES ASH OVER HI TIMES ASH,.2:KA TIMES BU,.4:KA,.4:U U U,.4:UR,
.2:LAGAB TIMES ZU OVER ZU,.2:LAK-003,.2:LAK-021,.2:LAK-025,.2:LAK-030,.2:LAK-050,.2:LAK-051,
.2:LAK-062,.2:LAK-079 OVER LAK-079 GUNU,.2:LAK-080,.2:LAK-081 OVER LAK-081,.2:LAK-092,.2:LAK-130,
.2:LAK-142,.2:LAK-210,.2:LAK-219,.2:LAK-220,.2:LAK-225,.2:LAK-228,.2:LAK-238,.2:LAK-265,
.2:LAK-266,.2:LAK-343,.2:LAK-347,.2:LAK-348,.2:LAK-383,.2:LAK-384,.2:LAK-390,.2:LAK-441,
.2:LAK-449,.3:TIMES GU,.4:IGI,.4:PAP PLUS LU3,.6:PAP PLUS LU3,.4:U2 PLUS BA,.2:LAK-450,.2:LAK-457,
.2:LAK-470,.2:LAK-483,.2:LAK-490,.2:LAK-492,.2:LAK-493,.2:LAK-495,.2:LAK-550,.2:LAK-608,
.2:LAK-617,.3:TIMES ASH,.4:BAD,.4:DUN3 GUNU GUNU,.4:KU3,.4:LA,.4:TAR,.4:TE,.4:U2,.4:UD,.4:URUDA,
.2:LAK-636,.2:LAK-648,.3:TIMES DUB,.4:GA,.4:IGI,.5:GUNU,.4:NI,.4:PAP PLUS PAP PLUS LU3,
.4:SHESH PLUS KI,.4:UD,.4:URUDA,.2:LAK-724,.2:LAK-749,.2:LU2 GUNU TIMES ASH,.3:TIMES DISH,.4:HAL,
.4:PAP,.5:PLUS PAP PLUS LU3,.4:TAK4,.2:MI PLUS ZA7,.2:MUSH OVER MUSH TIMES GA,.6:KAK,
.2:NINDA2 TIMES DIM GUNU,.4:GISH,.4:GUL,.4:HI,.4:KESH2,.4:LAK-050,.4:MASH,.4:PAP PLUS PAP,.4:U,
.5:PLUS U,.4:URUDA,.2:SAG GUNU TIMES HA,.3:TIMES EN,.4:SHE AT LEFT,.4:TAK4,.2:SHA6 TENU,
.2:SHE OVER SHE,.3:PLUS HUB2,.4:NAM2,.4:SAR,.2:SHU2 PLUS DUG TIMES NI,.4:E2 TIMES AN,
.2:SI TIMES TAK4,.2:TAK4 PLUS SAG,.2:TUM TIMES GAN2 TENU,.4:THREE DISH,.2:UR2 INVERTED,
.3:TIMES UD,.2:URU TIMES DARA3,.4:LAK-668,.4:LU3,.2:ZA7,.2:ZU OVER ZU PLUS SAR,
.2:ZU5 TIMES THREE DISH TENU,A4D.:CYPRO-MINOAN SIGN CM001,.2:CM002,.2:CM004,.2:CM005,.2:CM006,
.2:CM007,.2:CM008,.2:CM009,.2:CM010,.2:CM011,.2:CM012,.2:CM012B,.2:CM013,.2:CM015,.2:CM017,
.2:CM019,.2:CM021,.2:CM023,.2:CM024,.2:CM025,.2:CM026,.2:CM027,.2:CM028,.2:CM029,.2:CM030,
.2:CM033,.2:CM034,.2:CM035,.2:CM036,.2:CM037,.2:CM038,.2:CM039,.2:CM040,.2:CM041,.2:CM044,
.2:CM046,.2:CM047,.2:CM049,.2:CM050,.2:CM051,.2:CM052,.2:CM053,.2:CM054,.2:CM055,.2:CM056,
.2:CM058,.2:CM059,.2:CM060,.2:CM061,.2:CM062,.2:CM063,.2:CM064,.2:CM066,.2:CM067,.2:CM068,
.2:CM069,.2:CM070,.2:CM071,.2:CM072,.2:CM073,.2:CM074,.2:CM075,.2:CM075B,.2:CM076,.2:CM078,
.2:CM079,.2:CM080,.2:CM081,.2:CM082,.2:CM083,.2:CM084,.2:CM085,.2:CM086,.2:CM087,.2:CM088,
.2:CM089,.2:CM090,.2:CM091,.2:CM092,.2:CM094,.2:CM095,.2:CM096,.2:CM097,.2:CM098,.2:CM099,
.2:CM100,.2:CM101,.2:CM102,.2:CM103,.2:CM104,.2:CM105,.2:CM107,.2:CM108,.2:CM109,.2:CM110,
.2:CM112,.2:CM114,.2:CM301,.2:CM302,E.:EGYPTIAN HIEROGLYPH A001,.2:A002,.2:A003,.2:A004,.2:A005,
.2:A005A,.2:A006,.2:A006A,.2:A006B,.2:A007,.2:A008,.2:A009,.2:A010,.2:A011,.2:A012,.2:A013,
.2:A014,.2:A014A,.2:A015,.2:A016,.2:A017,.2:A017A,.2:A018,.2:A019,.2:A020,.2:A021,.2:A022,.2:A023,
.2:A024,.2:A025,.2:A026,.2:A027,.2:A028,.2:A029,.2:A030,.2:A031,.2:A032,.2:A032A,.2:A033,.2:A034,
.2:A035,.2:A036,.2:A037,.2:A038,.2:A039,.2:A040,.2:A040A,.2:A041,.2:A042,.2:A042A,.2:A043,
.2:A043A,.2:A044,.2:A045,.2:A045A,.2:A046,.2:A047,.2:A048,.2:A049,.2:A050,.2:A051,.2:A052,.2:A053,
.2:A054,.2:A055,.2:A056,.2:A057,.2:A058,.2:A059,.2:A060,.2:A061,.2:A062,.2:A063,.2:A064,.2:A065,
.2:A066,.2:A067,.2:A068,.2:A069,.2:A070,.2:B001,.2:B002,.2:B003,.2:B004,.2:B005,.2:B005A,.2:B006,
.2:B007,.2:B008,.2:B009,.2:C001,.2:C002,.2:C002A,.2:C002B,.2:C002C,.2:C003,.2:C004,.2:C005,
.2:C006,.2:C007,.2:C008,.2:C009,.2:C010,.2:C010A,.2:C011,.2:C012,.2:C013,.2:C014,.2:C015,.2:C016,
.2:C017,.2:C018,.2:C019,.2:C020,.2:C021,.2:C022,.2:C023,.2:C024,.2:D001,.2:D002,.2:D003,.2:D004,
.2:D005,.2:D006,.2:D007,.2:D008,.2:D008A,.2:D009,.2:D010,.2:D011,.2:D012,.2:D013,.2:D014,.2:D015,
.2:D016,.2:D017,.2:D018,.2:D019,.2:D020,.2:D021,.2:D022,.2:D023,.2:D024,.2:D025,.2:D026,.2:D027,
.2:D027A,.2:D028,.2:D029,.2:D030,.2:D031,.2:D031A,.2:D032,.2:D033,.2:D034,.2:D034A,.2:D035,
.2:D036,.2:D037,.2:D038,.2:D039,.2:D040,.2:D041,.2:D042,.2:D043,.2:D044,.2:D045,.2:D046,.2:D046A,
.2:D047,.2:D048,.2:D048A,.2:D049,.2:D050,.2:D050A,.2:D050B,.2:D050C,.2:D050D,.2:D050E,.2:D050F,
.2:D050G,.2:D050H,.2:D050I,.2:D051,.2:D052,.2:D052A,.2:D053,.2:D054,.2:D054A,.2:D055,.2:D056,
.2:D057,.2:D058,.2:D059,.2:D060,.2:D061,.2:D062,.2:D063,.2:D064,.2:D065,.2:D066,.2:D067,.2:D067A,
.2:D067B,.2:D067C,.2:D067D,.2:D067E,.2:D067F,.2:D067G,.2:D067H,.2:E001,.2:E002,.2:E003,.2:E004,
.2:E005,.2:E006,.2:E007,.2:E008,.2:E008A,.2:E009,.2:E009A,.2:E010,.2:E011,.2:E012,.2:E013,.2:E014,
.2:E015,.2:E016,.2:E016A,.2:E017,.2:E017A,.2:E018,.2:E019,.2:E020,.2:E020A,.2:E021,.2:E022,
.2:E023,.2:E024,.2:E025,.2:E026,.2:E027,.2:E028,.2:E028A,.2:E029,.2:E030,.2:E031,.2:E032,.2:E033,
.2:E034,.2:E034A,.2:E036,.2:E037,.2:E038,.2:F001,.2:F001A,.2:F002,.2:F003,.2:F004,.2:F005,.2:F006,
.2:F007,.2:F008,.2:F009,.2:F010,.2:F011,.2:F012,.2:F013,.2:F013A,.2:F014,.2:F015,.2:F016,.2:F017,
.2:F018,.2:F019,.2:F020,.2:F021,.2:F021A,.2:F022,.2:F023,.2:F024,.2:F025,.2:F026,.2:F027,.2:F028,
.2:F029,.2:F030,.2:F031,.2:F031A,.2:F032,.2:F033,.2:F034,.2:F035,.2:F036,.2:F037,.2:F037A,.2:F038,
.2:F038A,.2:F039,.2:F040,.2:F041,.2:F042,.2:F043,.2:F044,.2:F045,.2:F045A,.2:F046,.2:F046A,
.2:F047,.2:F047A,.2:F048,.2:F049,.2:F050,.2:F051,.2:F051A,.2:F051B,.2:F051C,.2:F052,.2:F053,
.2:G001,.2:G002,.2:G003,.2:G004,.2:G005,.2:G006,.2:G006A,.2:G007,.2:G007A,.2:G007B,.2:G008,
.2:G009,.2:G010,.2:G011,.2:G011A,.2:G012,.2:G013,.2:G014,.2:G015,.2:G016,.2:G017,.2:G018,.2:G019,
.2:G020,.2:G020A,.2:G021,.2:G022,.2:G023,.2:G024,.2:G025,.2:G026,.2:G026A,.2:G027,.2:G028,.2:G029,
.2:G030,.2:G031,.2:G032,.2:G033,.2:G034,.2:G035,.2:G036,.2:G036A,.2:G037,.2:G037A,.2:G038,.2:G039,
.2:G040,.2:G041,.2:G042,.2:G043,.2:G043A,.2:G044,.2:G045,.2:G045A,.2:G046,.2:G047,.2:G048,.2:G049,
.2:G050,.2:G051,.2:G052,.2:G053,.2:G054,.2:H001,.2:H002,.2:H003,.2:H004,.2:H005,.2:H006,.2:H006A,
.2:H007,.2:H008,.2:I001,.2:I002,.2:I003,.2:I004,.2:I005,.2:I005A,.2:I006,.2:I007,.2:I008,.2:I009,
.2:I009A,.2:I010,.2:I010A,.2:I011,.2:I011A,.2:I012,.2:I013,.2:I014,.2:I015,.2:K001,.2:K002,
.2:K003,.2:K004,.2:K005,.2:K006,.2:K007,.2:K008,.2:L001,.2:L002,.2:L002A,.2:L003,.2:L004,.2:L005,
.2:L006,.2:L006A,.2:L007,.2:L008,.2:M001,.2:M001A,.2:M001B,.2:M002,.2:M003,.2:M003A,.2:M004,
.2:M005,.2:M006,.2:M007,.2:M008,.2:M009,.2:M010,.2:M010A,.2:M011,.2:M012,.2:M012A,.2:M012B,
.2:M012C,.2:M012D,.2:M012E,.2:M012F,.2:M012G,.2:M012H,.2:M013,.2:M014,.2:M015,.2:M015A,.2:M016,
.2:M016A,.2:M017,.2:M017A,.2:M018,.2:M019,.2:M020,.2:M021,.2:M022,.2:M022A,.2:M023,.2:M024,
.2:M024A,.2:M025,.2:M026,.2:M027,.2:M028,.2:M028A,.2:M029,.2:M030,.2:M031,.2:M031A,.2:M032,
.2:M033,.2:M033A,.2:M033B,.2:M034,.2:M035,.2:M036,.2:M037,.2:M038,.2:M039,.2:M040,.2:M040A,
.2:M041,.2:M042,.2:M043,.2:M044,.2:N001,.2:N002,.2:N003,.2:N004,.2:N005,.2:N006,.2:N007,.2:N008,
.2:N009,.2:N010,.2:N011,.2:N012,.2:N013,.2:N014,.2:N015,.2:N016,.2:N017,.2:N018,.2:N018A,.2:N018B,
.2:N019,.2:N020,.2:N021,.2:N022,.2:N023,.2:N024,.2:N025,.2:N025A,.2:N026,.2:N027,.2:N028,.2:N029,
.2:N030,.2:N031,.2:N032,.2:N033,.2:N033A,.2:N034,.2:N034A,.2:N035,.2:N035A,.2:N036,.2:N037,
.2:N037A,.2:N038,.2:N039,.2:N040,.2:N041,.2:N042,.2:NL001,.2:NL002,.2:NL003,.2:NL004,.2:NL005,
.2:NL005A,.2:NL006,.2:NL007,.2:NL008,.2:NL009,.2:NL010,.2:NL011,.2:NL012,.2:NL013,.2:NL014,
.2:NL015,.2:NL016,.2:NL017,.2:NL017A,.2:NL018,.2:NL019,.2:NL020,.2:NU001,.2:NU002,.2:NU003,
.2:NU004,.2:NU005,.2:NU006,.2:NU007,.2:NU008,.2:NU009,.2:NU010,.2:NU010A,.2:NU011,.2:NU011A,
.2:NU012,.2:NU013,.2:NU014,.2:NU015,.2:NU016,.2:NU017,.2:NU018,.2:NU018A,.2:NU019,.2:NU020,
.2:NU021,.2:NU022,.2:NU022A,.2:O001,.2:O001A,.2:O002,.2:O003,.2:O004,.2:O005,.2:O005A,.2:O006,
.2:O006A,.2:O006B,.2:O006C,.2:O006D,.2:O006E,.2:O006F,.2:O007,.2:O008,.2:O009,.2:O010,.2:O010A,
.2:O010B,.2:O010C,.2:O011,.2:O012,.2:O013,.2:O014,.2:O015,.2:O016,.2:O017,.2:O018,.2:O019,
.2:O019A,.2:O020,.2:O020A,.2:O021,.2:O022,.2:O023,.2:O024,.2:O024A,.2:O025,.2:O025A,.2:O026,
.2:O027,.2:O028,.2:O029,.2:O029A,.2:O030,.2:O030A,.2:O031,.2:O032,.2:O033,.2:O033A,.2:O034,
.2:O035,.2:O036,.2:O036A,.2:O036B,.2:O036C,.2:O036D,.2:O037,.2:O038,.2:O039,.2:O040,.2:O041,
.2:O042,.2:O043,.2:O044,.2:O045,.2:O046,.2:O047,.2:O048,.2:O049,.2:O050,.2:O050A,.2:O050B,.2:O051,
.2:P001,.2:P001A,.2:P002,.2:P003,.2:P003A,.2:P004,.2:P005,.2:P006,.2:P007,.2:P008,.2:P009,.2:P010,
.2:P011,.2:Q001,.2:Q002,.2:Q003,.2:Q004,.2:Q005,.2:Q006,.2:Q007,.2:R001,.2:R002,.2:R002A,.2:R003,
.2:R003A,.2:R003B,.2:R004,.2:R005,.2:R006,.2:R007,.2:R008,.2:R009,.2:R010,.2:R010A,.2:R011,
.2:R012,.2:R013,.2:R014,.2:R015,.2:R016,.2:R016A,.2:R017,.2:R018,.2:R019,.2:R020,.2:R021,.2:R022,
.2:R023,.2:R024,.2:R025,.2:R026,.2:R027,.2:R028,.2:R029,.2:S001,.2:S002,.2:S002A,.2:S003,.2:S004,
.2:S005,.2:S006,.2:S006A,.2:S007,.2:S008,.2:S009,.2:S010,.2:S011,.2:S012,.2:S013,.2:S014,.2:S014A,
.2:S014B,.2:S015,.2:S016,.2:S017,.2:S017A,.2:S018,.2:S019,.2:S020,.2:S021,.2:S022,.2:S023,.2:S024,
.2:S025,.2:S026,.2:S026A,.2:S026B,.2:S027,.2:S028,.2:S029,.2:S030,.2:S031,.2:S032,.2:S033,.2:S034,
.2:S035,.2:S035A,.2:S036,.2:S037,.2:S038,.2:S039,.2:S040,.2:S041,.2:S042,.2:S043,.2:S044,.2:S045,
.2:S046,.2:T001,.2:T002,.2:T003,.2:T003A,.2:T004,.2:T005,.2:T006,.2:T007,.2:T007A,.2:T008,
.2:T008A,.2:T009,.2:T009A,.2:T010,.2:T011,.2:T011A,.2:T012,.2:T013,.2:T014,.2:T015,.2:T016,
.2:T016A,.2:T017,.2:T018,.2:T019,.2:T020,.2:T021,.2:T022,.2:T023,.2:T024,.2:T025,.2:T026,.2:T027,
.2:T028,.2:T029,.2:T030,.2:T031,.2:T032,.2:T032A,.2:T033,.2:T033A,.2:T034,.2:T035,.2:T036,.2:U001,
.2:U002,.2:U003,.2:U004,.2:U005,.2:U006,.2:U006A,.2:U006B,.2:U007,.2:U008,.2:U009,.2:U010,.2:U011,
.2:U012,.2:U013,.2:U014,.2:U015,.2:U016,.2:U017,.2:U018,.2:U019,.2:U020,.2:U021,.2:U022,.2:U023,
.2:U023A,.2:U024,.2:U025,.2:U026,.2:U027,.2:U028,.2:U029,.2:U029A,.2:U030,.2:U031,.2:U032,
.2:U032A,.2:U033,.2:U034,.2:U035,.2:U036,.2:U037,.2:U038,.2:U039,.2:U040,.2:U041,.2:U042,.2:V001,
.2:V001A,.2:V001B,.2:V001C,.2:V001D,.2:V001E,.2:V001F,.2:V001G,.2:V001H,.2:V001I,.2:V002,.2:V002A,
.2:V003,.2:V004,.2:V005,.2:V006,.2:V007,.2:V007A,.2:V007B,.2:V008,.2:V009,.2:V010,.2:V011,
.2:V011A,.2:V011B,.2:V011C,.2:V012,.2:V012A,.2:V012B,.2:V013,.2:V014,.2:V015,.2:V016,.2:V017,
.2:V018,.2:V019,.2:V020,.2:V020A,.2:V020B,.2:V020C,.2:V020D,.2:V020E,.2:V020F,.2:V020G,.2:V020H,
.2:V020I,.2:V020J,.2:V020K,.2:V020L,.2:V021,.2:V022,.2:V023,.2:V023A,.2:V024,.2:V025,.2:V026,
.2:V027,.2:V028,.2:V028A,.2:V029,.2:V029A,.2:V030,.2:V030A,.2:V031,.2:V031A,.2:V032,.2:V033,
.2:V033A,.2:V034,.2:V035,.2:V036,.2:V037,.2:V037A,.2:V038,.2:V039,.2:V040,.2:V040A,.2:W001,
.2:W002,.2:W003,.2:W003A,.2:W004,.2:W005,.2:W006,.2:W007,.2:W008,.2:W009,.2:W009A,.2:W010,
.2:W010A,.2:W011,.2:W012,.2:W013,.2:W014,.2:W014A,.2:W015,.2:W016,.2:W017,.2:W017A,.2:W018,
.2:W018A,.2:W019,.2:W020,.2:W021,.2:W022,.2:W023,.2:W024,.2:W024A,.2:W025,.2:X001,.2:X002,.2:X003,
.2:X004,.2:X004A,.2:X004B,.2:X005,.2:X006,.2:X006A,.2:X007,.2:X008,.2:X008A,.2:Y001,.2:Y001A,
.2:Y002,.2:Y003,.2:Y004,.2:Y005,.2:Y006,.2:Y007,.2:Y008,.2:Z001,.2:Z002,.2:Z002A,.2:Z002B,
.2:Z002C,.2:Z002D,.2:Z003,.2:Z003A,.2:Z003B,.2:Z004,.2:Z004A,.2:Z005,.2:Z005A,.2:Z006,.2:Z007,
.2:Z008,.2:Z009,.2:Z010,.2:Z011,.2:Z012,.2:Z013,.2:Z014,.2:Z015,.2:Z015A,.2:Z015B,.2:Z015C,
.2:Z015D,.2:Z015E,.2:Z015F,.2:Z015G,.2:Z015H,.2:Z015I,.2:Z016,.2:Z016A,.2:Z016B,.2:Z016C,.2:Z016D,
.2:Z016E,.2:Z016F,.2:Z016G,.2:Z016H,.2:AA001,.2:AA002,.2:AA003,.2:AA004,.2:AA005,.2:AA006,
.2:AA007,.2:AA007A,.2:AA007B,.2:AA008,.2:AA009,.2:AA010,.2:AA011,.2:AA012,.2:AA013,.2:AA014,
.2:AA015,.2:AA016,.2:AA017,.2:AA018,.2:AA019,.2:AA020,.2:AA021,.2:AA022,.2:AA023,.2:AA024,
.2:AA025,.2:AA026,.2:AA027,.2:AA028,.2:AA029,.2:AA030,.2:AA031,.2:AA032,2.2:VERTICAL JOINER,
.2:HORIZONTAL JOINER,.2:INSERT AT TOP START,.4:BOTTOM START,.4:TOP END,.4:BOTTOM END,
.2:OVERLAY MIDDLE,.2:BEGIN SEGMENT,.2:END SEGMENT,FC8.:ANATOLIAN HIEROGLYPH A001,.2:A002,.2:A003,
.2:A004,.2:A005,.2:A006,.2:A007,.2:A008,.2:A009,.2:A010,.2:A010A,.2:A011,.2:A012,.2:A013,.2:A014,
.2:A015,.2:A016,.2:A017,.2:A018,.2:A019,.2:A020,.2:A021,.2:A022,.2:A023,.2:A024,.2:A025,.2:A026,
.2:A026A,.2:A027,.2:A028,.2:A029,.2:A030,.2:A031,.2:A032,.2:A033,.2:A034,.2:A035,.2:A036,.2:A037,
.2:A038,.2:A039,.2:A039A,.2:A040,.2:A041,.2:A041A,.2:A042,.2:A043,.2:A044,.2:A045,.2:A045A,
.2:A046,.2:A046A,.2:A046B,.2:A047,.2:A048,.2:A049,.2:A050,.2:A051,.2:A052,.2:A053,.2:A054,.2:A055,
.2:A056,.2:A057,.2:A058,.2:A059,.2:A060,.2:A061,.2:A062,.2:A063,.2:A064,.2:A065,.2:A066,.2:A066A,
.2:A066B,.2:A066C,.2:A067,.2:A068,.2:A069,.2:A070,.2:A071,.2:A072,.2:A073,.2:A074,.2:A075,.2:A076,
.2:A077,.2:A078,.2:A079,.2:A080,.2:A081,.2:A082,.2:A083,.2:A084,.2:A085,.2:A086,.2:A087,.2:A088,
.2:A089,.2:A090,.2:A091,.2:A092,.2:A093,.2:A094,.2:A095,.2:A096,.2:A097,.2:A097A,.2:A098,.2:A098A,
.2:A099,.2:A100,.2:A100A,.2:A101,.2:A101A,.2:A102,.2:A102A,.2:A103,.2:A104,.2:A104A,.2:A104B,
.2:A104C,.2:A105,.2:A105A,.2:A105B,.2:A106,.2:A107,.2:A107A,.2:A107B,.2:A107C,.2:A108,.2:A109,
.2:A110,.2:A110A,.2:A110B,.2:A111,.2:A112,.2:A113,.2:A114,.2:A115,.2:A115A,.2:A116,.2:A117,
.2:A118,.2:A119,.2:A120,.2:A121,.2:A122,.2:A123,.2:A124,.2:A125,.2:A125A,.2:A126,.2:A127,.2:A128,
.2:A129,.2:A130,.2:A131,.2:A132,.2:A133,.2:A134,.2:A135,.2:A135A,.2:A136,.2:A137,.2:A138,.2:A139,
.2:A140,.2:A141,.2:A142,.2:A143,.2:A144,.2:A145,.2:A146,.2:A147,.2:A148,.2:A149,.2:A150,.2:A151,
.2:A152,.2:A153,.2:A154,.2:A155,.2:A156,.2:A157,.2:A158,.2:A159,.2:A160,.2:A161,.2:A162,.2:A163,
.2:A164,.2:A165,.2:A166,.2:A167,.2:A168,.2:A169,.2:A170,.2:A171,.2:A172,.2:A173,.2:A174,.2:A175,
.2:A176,.2:A177,.2:A178,.2:A179,.2:A180,.2:A181,.2:A182,.2:A183,.2:A184,.2:A185,.2:A186,.2:A187,
.2:A188,.2:A189,.2:A190,.2:A191,.2:A192,.2:A193,.2:A194,.2:A195,.2:A196,.2:A197,.2:A198,.2:A199,
.2:A200,.2:A201,.2:A202,.2:A202A,.2:A202B,.2:A203,.2:A204,.2:A205,.2:A206,.2:A207,.2:A207A,
.2:A208,.2:A209,.2:A209A,.2:A210,.2:A211,.2:A212,.2:A213,.2:A214,.2:A215,.2:A215A,.2:A216,
.2:A216A,.2:A217,.2:A218,.2:A219,.2:A220,.2:A221,.2:A222,.2:A223,.2:A224,.2:A225,.2:A226,.2:A227,
.2:A227A,.2:A228,.2:A229,.2:A230,.2:A231,.2:A232,.2:A233,.2:A234,.2:A235,.2:A236,.2:A237,.2:A238,
.2:A239,.2:A240,.2:A241,.2:A242,.2:A243,.2:A244,.2:A245,.2:A246,.2:A247,.2:A248,.2:A249,.2:A250,
.2:A251,.2:A252,.2:A253,.2:A254,.2:A255,.2:A256,.2:A257,.2:A258,.2:A259,.2:A260,.2:A261,.2:A262,
.2:A263,.2:A264,.2:A265,.2:A266,.2:A267,.2:A267A,.2:A268,.2:A269,.2:A270,.2:A271,.2:A272,.2:A273,
.2:A274,.2:A275,.2:A276,.2:A277,.2:A278,.2:A279,.2:A280,.2:A281,.2:A282,.2:A283,.2:A284,.2:A285,
.2:A286,.2:A287,.2:A288,.2:A289,.2:A289A,.2:A290,.2:A291,.2:A292,.2:A293,.2:A294,.2:A294A,.2:A295,
.2:A296,.2:A297,.2:A298,.2:A299,.2:A299A,.2:A300,.2:A301,.2:A302,.2:A303,.2:A304,.2:A305,.2:A306,
.2:A307,.2:A308,.2:A309,.2:A309A,.2:A310,.2:A311,.2:A312,.2:A313,.2:A314,.2:A315,.2:A316,.2:A317,
.2:A318,.2:A319,.2:A320,.2:A321,.2:A322,.2:A323,.2:A324,.2:A325,.2:A326,.2:A327,.2:A328,.2:A329,
.2:A329A,.2:A330,.2:A331,.2:A332A,.2:A332B,.2:A332C,.2:A333,.2:A334,.2:A335,.2:A336,.2:A336A,
.2:A336B,.2:A336C,.2:A337,.2:A338,.2:A339,.2:A340,.2:A341,.2:A342,.2:A343,.2:A344,.2:A345,.2:A346,
.2:A347,.2:A348,.2:A349,.2:A350,.2:A351,.2:A352,.2:A353,.2:A354,.2:A355,.2:A356,.2:A357,.2:A358,
.2:A359,.2:A359A,.2:A360,.2:A361,.2:A362,.2:A363,.2:A364,.2:A364A,.2:A365,.2:A366,.2:A367,.2:A368,
.2:A368A,.2:A369,.2:A370,.2:A371,.2:A371A,.2:A372,.2:A373,.2:A374,.2:A375,.2:A376,.2:A377,.2:A378,
.2:A379,.2:A380,.2:A381,.2:A381A,.2:A382,.2:A383 RA OR RI,.2:A383A,.2:A384,.2:A385,.2:A386,
.2:A386A,.2:A387,.2:A388,.2:A389,.2:A390,.2:A391,.2:A392,.2:A393 EIGHT,.2:A394,.2:A395,.2:A396,
.2:A397,.2:A398,.2:A399,.2:A400,.2:A401,.2:A402,.2:A403,.2:A404,.2:A405,.2:A406,.2:A407,.2:A408,
.2:A409,.2:A410 BEGIN LOGOGRAM MARK,.2:A410A END LOGOGRAM MARK,.2:A411,.2:A412,.2:A413,.2:A414,
.2:A415,.2:A416,.2:A417,.2:A418,.2:A419,.2:A420,.2:A421,.2:A422,.2:A423,.2:A424,.2:A425,.2:A426,
.2:A427,.2:A428,.2:A429,.2:A430,.2:A431,.2:A432,.2:A433,.2:A434,.2:A435,.2:A436,.2:A437,.2:A438,
.2:A439,.2:A440,.2:A441,.2:A442,.2:A443,.2:A444,.2:A445,.2:A446,.2:A447,.2:A448,.2:A449,.2:A450,
.2:A450A,.2:A451,.2:A452,.2:A453,.2:A454,.2:A455,.2:A456,.2:A457,.2:A457A,.2:A458,.2:A459,.2:A460,
.2:A461,.2:A462,.2:A463,.2:A464,.2:A465,.2:A466,.2:A467,.2:A468,.2:A469,.2:A470,.2:A471,.2:A472,
.2:A473,.2:A474,.2:A475,.2:A476,.2:A477,.2:A478,.2:A479,.2:A480,.2:A481,.2:A482,.2:A483,.2:A484,
.2:A485,.2:A486,.2:A487,.2:A488,.2:A489,.2:A490,.2:A491,.2:A492,.2:A493,.2:A494,.2:A495,.2:A496,
.2:A497,.2:A501,.2:A502,.2:A503,.2:A504,.2:A505,.2:A506,.2:A507,.2:A508,.2:A509,.2:A510,.2:A511,
.2:A512,.2:A513,.2:A514,.2:A515,.2:A516,.2:A517,.2:A518,.2:A519,.2:A520,.2:A521,.2:A522,.2:A523,
.2:A524,.2:A525,.2:A526,.2:A527,.2:A528,.2:A529,.2:A530,21BA.:BAMUM LETTER PHASE-A NGKUE MFON,
.3:GBIEE FON,.3:PON MFON PIPAEMGBIEE,.5:PIPAEMBA,.3:NAA MFON,.3:SHUENSHUET,.3:TITA MFON,
.3:NZA MFON,.3:SHINDA PA NJI,.3:PON PA NJI PIPAEMGBIEE,.6:PIPAEMBA,.3:MAEMBGBIEE,.3:TU MAEMBA,
.3:NGANGU,.3:MAEMVEUX,.3:MANSUAE,.3:MVEUAENGAM,.3:SEUNYAM,.3:NTOQPEN,.3:KEUKEUTNDA,.3:NKINDI,
.3:SUU,.3:NGKUENZEUM,.3:LAPAQ,.3:LET KUT,.3:NTAP MFAA,.3:MAEKEUP,.3:PASHAE,.3:GHEUAERAE,
.3:PAMSHAE,.3:MON NGGEUAET,.3:NZUN MEUT,.3:U YUQ NAE,.3:GHEUAEGHEUAE,.3:NTAP NTAA,.3:SISA,
.3:MGBASA,.3:MEUNJOMNDEUQ,.3:MOOMPUQ,.3:KAFA,.3:PA LEERAEWA,.3:NDA LEERAEWA,.3:PET,.3:MAEMKPEN,
.3:NIKA,.3:PUP,.3:TUAEP,.3:LUAEP,.3:SONJAM,.3:TEUTEUWEN,.3:MAENYI,.3:KET,.3:NDAANGGEUAET,.3:KUOQ,
.3:MOOMEUT,.3:SHUM,.3:LOMMAE,.3:FIRI,.3:ROM,.3:KPOQ,.3:SOQ,.3:MAP PIEET,.3:SHIRAE,.3:NTAP,
.3:SHOQ NSHUT YUM,.3:NYIT MONGKEUAEQ,.3:PAARAE,.3:NKAARAE,.3:UNKNOWN,.3:NGGEN,.3:MAESI,.3:NJAM,
.3:MBANYI,.3:NYET,.3:TEUAEN,.3:SOT,.3:PAAM,.3:NSHIEE,.3:MAEM,.3:NYI,.3:KAQ,.3:NSHA,.3:VEE,.3:LU,
.3:NEN,.3:NAQ,.3:MBAQ,.2:PHASE-B NSHUET,.3:TU MAEMGBIEE,.3:SIEE,.3:SET TU,.3:LOM NTEUM,
.3:MBA MAELEE,.3:KIEEM,.3:YEURAE,.3:MBAARAE,.3:KAM,.3:PEESHI,.3:YAFU LEERAEWA,.3:LAM NSHUT NYAM,
.3:NTIEE SHEUOQ,.3:NDU NJAA,.3:GHEUGHEUAEM,.3:PIT,.3:TU NSIEE,.3:SHET NJAQ,.3:SHEUAEQTU,
.3:MFON TEUAEQ,.3:MBIT MBAAKET,.3:NYI NTEUM,.3:KEUPUQ,.3:GHEUGHEN,.3:KEUYEUX,.3:LAANAE,.3:PARUM,
.3:VEUM,.3:NGKINDI MVOP,.3:NGGEU MBU,.3:WUAET,.3:SAKEUAE,.3:TAAM,.3:MEUQ,.3:NGGUOQ,.4:LARGE,
.3:MFIYAQ,.3:SUE,.3:MBEURI,.3:MONTIEEN,.3:NYAEMAE,.3:PUNGAAM,.3:MEUT NGGEET,.3:FEUX,.3:MBUOQ,
.3:FEE,.3:KEUAEM,.3:MA NJEUAENA,.4:NJUQA,.3:LET,.3:NGGAAM,.3:NSEN,.3:MA,.3:KIQ,.3:NGOM,
.2:PHASE-C NGKUE MAEMBA,.3:NZA,.3:YUM,.3:WANGKUOQ,.3:NGGEN,.3:NDEUAEREE,.3:NGKAQ,.3:GHARAE,
.3:MBEEKEET,.3:GBAYI,.3:NYIR MKPARAQ MEUN,.3:NTU MBIT,.3:MBEUM,.3:PIRIEEN,.3:NDOMBU,
.3:MBAA CABBAGE-TREE,.3:KEUSHEUAEP,.3:GHAP,.3:KEUKAQ,.3:YU MUOMAE,.3:NZEUM,.3:MBUE,.3:NSEUAEN,
.3:MBIT,.3:YEUQ,.3:KPARAQ,.3:KAA,.3:SEUX,.3:NDIDA,.3:TAASHAE,.3:NJUEQ,.3:TITA YUE,.3:SUAET,
.3:NGGUAEN NYAM,.3:VEUX,.3:NANSANAQ,.3:MA KEUAERI,.3:NTAA,.3:NGGUON,.3:LAP,.3:MBIRIEEN,.3:MGBASAQ,
.3:NTEUNGBA,.3:TEUTEUX,.3:NGGUM,.3:FUE,.3:NDEUT,.3:NSA,.3:NSHAQ,.3:BUNG,.3:VEUAEPEN,.3:MBERAE,
.3:RU,.3:NJAEM,.3:LAM,.3:TITUAEP,.3:NSUOT NGOM,.3:NJEEEE,.3:KET,.3:NGGU,.3:MAESI,.3:MBUAEM,.3:LU,
.3:KUT,.3:NJAM,.3:NGOM,.3:WUP,.3:NGGUEET,.3:NSOM,.3:NTEN,.3:KUOP NKAARAE,.3:NSUN,.3:NDAM,
.3:MA NSIEE,.3:YAA,.3:NDAP,.3:SHUEQ,.3:SETFON,.3:MBI,.3:MAEMBA,.3:MBANYI,.3:KEUSEUX,.3:MBEUX,
.3:KEUM,.3:MBAA PICKET,.3:YUWOQ,.3:NJEUX,.3:MIEE,.3:MUAE,.3:SHIQ,.3:KEN LAW,.4:FATIGUE,.3:NGAQ,
.3:NAQ,.3:LIQ,.3:PIN,.3:PEN,.3:TET,.2:PHASE-D MBUO,.3:WAP,.3:NJI,.3:MFON,.3:NJIEE,.3:LIEE,
.3:NJEUT,.3:NSHEE,.3:NGGAAMAE,.3:NYAM,.3:WUAEN,.3:NGKUN,.3:SHEE,.3:NGKAP,.3:KEUAETMEUN,.3:TEUT,
.3:SHEUAE,.3:NJAP,.3:SUE,.3:KET,.3:YAEMMAE,.3:KUOM,.3:SAP,.3:MFEUT,.3:NDEUX,.3:MALEERI,.3:MEUT,
.3:SEUAEQ,.3:YEN,.3:NJEUAEM,.3:KEUOT MBUAE,.3:NGKEURI,.3:TU,.3:GHAA,.3:NGKYEE,.3:FEUFEUAET,
.3:NDEE,.3:MGBOFUM,.3:LEUAEP,.3:NDON,.3:MONI,.3:MGBEUN,.3:PUUT,.3:MGBIEE,.3:MFO,.3:LUM,.3:NSIEEP,
.3:MBAA,.3:KWAET,.3:NYET,.3:TEUAEN,.3:SOT,.3:YUWOQ,.3:KEUM,.3:RAEM,.3:TEEEE,.3:NGKEUAEQ,.3:MFEUAE,
.3:NSIEET,.3:KEUP,.3:PIP,.3:PEUTAE,.3:NYUE,.3:LET,.3:NGGAAM,.3:MFIEE,.3:NGGWAEN,.3:YUOM,.3:PAP,
.3:YUOP,.3:NDAM,.3:NTEUM,.3:SUAE,.3:KUN,.3:NGGEUX,.3:NGKIEE,.3:TUOT,.3:MEUN,.3:KUQ,.3:NSUM,
.3:TEUN,.3:MAENJET,.3:NGGAP,.3:LEUM,.3:NGGUOM,.3:NSHUT,.3:NJUEQ,.3:GHEUAE,.3:KU,.3:REN OLD,.3:TAE,
.3:TOQ,.3:NYI,.3:RII,.3:LEEEE,.3:MEEEE,.3:M,.3:SUU,.3:MU,.3:SHII,.3:SHEUX,.3:KYEE,.3:NU,.3:SHU,
.3:NTEE,.3:PEE,.3:NI,.3:SHOQ,.3:PUQ,.3:MVOP,.3:LOQ,.3:REN MUCH,.3:TI,.3:NTUU,.3:MBAA SEVEN,.3:SAQ,
.3:FAA,.2:PHASE-E NDAP,.3:TOON,.3:MBEUM,.3:LAP,.3:VOM,.3:LOON,.3:PAA,.3:SOM,.3:RAQ,.3:NSHUOP,
.3:NDUN,.3:PUAE,.3:TAM,.3:NGKA,.3:KPEUX,.3:WUO,.3:SEE,.3:NGGEUAET,.3:PAAM,.3:TOO,.3:KUOP,.3:LOM,
.3:NSHIEE,.3:NGOP,.3:MAEM,.3:NGKEUX,.3:NGOQ,.3:NSHUE,.3:RIMGBA,.3:NJEUX,.3:PEEM,.3:SAA,.3:NGGURAE,
.3:MGBA,.3:GHEUX,.3:NGKEUAEM,.3:NJAEMLI,.3:MAP,.3:LOOT,.3:NGGEEEE,.3:NDIQ,.3:TAEN NTEUM,.3:SET,
.3:PUM,.3:NDAA SOFTNESS,.3:NGGUAESHAE NYAM,.3:YIEE,.3:GHEUN,.3:TUAE,.3:YEUAE,.3:PO,.3:TUMAE,
.3:KEUAE,.3:SUAEN,.3:TEUAEQ,.3:VEUAE,.3:WEUX,.3:LAAM,.3:PU,.3:TAAQ,.3:GHAAMAE,.3:NGEUREUT,
.3:SHEUAEQ,.3:MGBEN,.3:MBEE,.3:NZAQ,.3:NKOM,.3:GBET,.3:TUM,.3:KUET,.3:YAP,.3:NYI CLEAVER,.3:YIT,
.3:MFEUQ,.3:NDIAQ,.3:PIEEQ,.3:YUEQ,.3:LEUAEM,.3:FUE,.3:GBEUX,.3:NGKUP,.3:KET,.3:MAE,.3:NGKAAMI,
.3:GHET,.3:FA,.3:NTUM,.3:PEUT,.3:YEUM,.3:NGGEUAE,.3:NYI BETWEEN,.3:NZUQ,.3:POON,.3:MIEE,.3:FUET,
.3:NAE,.3:MUAE,.3:GHEUAE,.3:FU I,.3:MVI,.3:PUAQ,.3:NGKUM,.3:KUT,.3:PIET,.3:NTAP,.3:YEUAET,
.3:NGGUP,.3:PA PEOPLE,.3:FU CALL,.3:FOM,.3:NJEE,.3:A,.3:TOQ,.3:O,.3:I,.3:LAQ,.3:PA PLURAL,.3:TAA,
.3:TAQ,.3:NDAA MY HOUSE,.3:SHIQ,.3:YEUX,.3:NGUAE,.3:YUAEN,.3:YOQ SWIMMING,.4:COVER,.3:YUQ,.3:YUN,
.3:KEUX,.3:PEUX,.3:NJEE EPOCH,.3:PUE,.3:WUE,.3:FEE,.3:VEE,.3:LU,.3:MI,.3:REUX,.3:RAE,.3:NGUAET,
.3:NGA,.3:SHO,.3:SHOQ,.3:FU REMEDY,.3:NA,.3:PI,.3:LOQ,.3:KO,.3:MEN,.3:MA,.3:MAQ,.3:TEU,.3:KI,
.3:MON,.3:TEN,.3:FAQ,.3:GHOM,.2:PHASE-F KA,.3:U,.3:KU,.3:EE,.3:REE,.3:TAE,.3:NYI,.3:LA,.3:RII,
.3:RIEE,.3:MEEEE,.3:TAA,.3:NDAA,.3:NJAEM,.3:M,.3:SUU,.3:SHII,.3:SI,.3:SEUX,.3:KYEE,.3:KET,.3:NUAE,
.3:NU,.3:NJUAE,.3:YOQ,.3:SHU,.3:YA,.3:NSHA,.3:PEUX,.3:NTEE,.3:WUE,.3:PEE,.3:RU,.3:NI,.3:REUX,
.3:KEN,.3:NGKWAEN,.3:NGGA,.3:SHO,.3:PUAE,.3:FOM,.3:WA,.3:LI,.3:LOQ,.3:KO,.3:MBEN,.3:REN,.3:MA,
.3:MO,.3:MBAA,.3:TET,.3:KPA,.3:SAMBA,.3:VUEQ,8.:MRO LETTER TA,.2:NGI,.2:YO,.2:MIM,.2:BA,.2:DA,
.2:A,.2:PHI,.2:KHAI,.2:HAO,.2:DAI,.2:CHU,.2:KEAAE,.2:OL,.2:MAEM,.2:NIN,.2:PA,.2:OO,.2:O,.2:RO,
.2:SHI,.2:THEA,.2:EA,.2:WA,.2:E,.2:KO,.2:LAN,.2:LA,.2:HAI,.2:RI,.2:TEK,2.1:DIGIT ZERO,.2:ONE,
.2:TWO,.2:THREE,.2:FOUR,.2:FIVE,.2:SIX,.2:SEVEN,.2:EIGHT,.2:NINE,5.1:DANDA,.1:DOUBLE DANDA,
.:TANGSA LETTER OZ,.2:OC,.2:OQ,.2:OX,.2:AZ,.2:AC,.2:AQ,.2:AX,.2:VZ,.2:VC,.2:VQ,.2:VX,.2:EZ,.2:EC,
.2:EQ,.2:EX,.2:IZ,.2:IC,.2:IQ,.2:IX,.2:UZ,.2:UC,.2:UQ,.2:UX,.2:AWZ,.2:AWC,.2:AWQ,.2:AWX,.2:UIZ,
.2:UIC,.2:UIQ,.2:UIX,.2:FINAL NG,.2:LONG UEX,.2:SHORT UEZ,.3:AWX,.2:UEC,.2:UEZ,.2:UEQ,.2:UEX,
.2:UIUZ,.2:UIUC,.2:UIUQ,.2:UIUX,.2:MZ,.2:MC,.2:MQ,.2:MX,.2:KA,.2:KHA,.2:GA,.2:NGA,.2:SA,.2:YA,
.2:WA,.2:PA,.2:NYA,.2:PHA,.2:BA,.2:MA,.2:NA,.2:HA,.2:LA,.2:HTA,.2:TA,.2:DA,.2:RA,.2:NHA,.2:SHA,
.2:CA,.2:TSA,.2:GHA,.2:HTTA,.2:THA,.2:XA,.2:FA,.2:DHA,.2:CHA,.2:ZA,2.1:DIGIT ZERO,.2:ONE,.2:TWO,
.2:THREE,.2:FOUR,.2:FIVE,.2:SIX,.2:SEVEN,.2:EIGHT,.2:NINE,7.:BASSA VAH LETTER ENNI,.3:KA,.3:SE,
.3:FA,.3:MBE,.3:YIE,.3:GAH,.3:DHII,.3:KPAH,.3:JO,.3:HWAH,.3:WA,.3:ZO,.3:GBU,.3:DO,.3:CE,.3:UWU,
.3:TO,.3:BA,.3:VU,.3:YEIN,.3:PA,.3:WADDA,.3:A,.3:O,.3:OO,.3:U,.3:EE,.3:E,.3:I,
3.2:COMBINING HIGH TONE,.3:LOW TONE,.3:MID TONE,.3:LOW-MID TONE,.3:HIGH-LOW TONE,.2:FULL STOP,
B.:PAHAWH HMONG VOWEL KEEB,.3:KEEV,.3:KIB,.3:KIV,.3:KAUB,.3:KAUV,.3:KUB,.3:KUV,.3:KEB,.3:KEV,
.3:KAIB,.3:KAIV,.3:KOOB,.3:KOOV,.3:KAWB,.3:KAWV,.3:KUAB,.3:KUAV,.3:KOB,.3:KOV,.3:KIAB,.3:KIAV,
.3:KAB,.3:KAV,.3:KWB,.3:KWV,.3:KAAB,.3:KAAV,.2:CONSONANT VAU,.3:NTSAU,.3:LAU,.3:HAU,.3:NLAU,
.3:RAU,.3:NKAU,.3:QHAU,.3:YAU,.3:HLAU,.3:MAU,.3:CHAU,.3:NCHAU,.3:HNAU,.3:PLHAU,.3:NTHAU,.3:NAU,
.3:AU,.3:XAU,.3:CAU,.2:MARK CIM TUB,.4:SO,.4:KES,.4:KHAV,.4:SUAM,.4:HOM,.4:TAUM,.2:SIGN VOS THOM,
.4:TSHAB CEEB,.3:CIM CHEEM,.3:VOS THIAB,.4:FEEM,.3:XYEEM NTXIV,.4:RHO,.4:TOV,.4:FAIB,.3:VOS SEEV,
.3:MEEJ SUAB,.3:VOS NRUA,.3:IB YAM,.3:XAUS,.3:CIM TSOV ROG,B.2:DIGIT ZERO,.3:ONE,.3:TWO,.3:THREE,
.3:FOUR,.3:FIVE,.3:SIX,.3:SEVEN,.3:EIGHT,.3:NINE,2.2:NUMBER TENS,.3:HUNDREDS,.3:TEN THOUSANDS,
.3:MILLIONS,.3:HUNDRED MILLIONS,.3:TEN BILLIONS,.3:TRILLIONS,2.2:SIGN VOS LUB,.3:XYOO,.3:HLI,
.3:THIRD-STAGE HLI,.3:ZWJ THAJ,.3:HNUB,.3:NQIG,.3:XIAB,.3:NTUJ,.3:AV,.3:TXHEEJ CEEV,.3:MEEJ TSEEB,
.3:TAU,.3:LOS,.3:MUS,.3:CIM HAIS LUS NTOG NTOG,.4:CUAM TSHOOJ,.4:TXWV,.5:CHWV,.4:PUB DAWB,
.4:NRES TOS,6.2:CLAN SIGN TSHEEJ,.4:YEEG,.4:LIS,.4:LAUJ,.4:XYOOJ,.4:KOO,.4:HAWJ,.4:MUAS,.4:THOJ,
.4:TSAB,.4:PHAB,.4:KHAB,.4:HAM,.4:VAJ,.4:FAJ,.4:YAJ,.4:TSWB,.4:KWM,.4:VWJ,
2B1.:MEDEFAIDRIN CAPITAL LETTER M,.3:S,.3:V,.3:W,.3:ATIU,.3:Z,.3:KP,.3:P,.3:T,.3:G,.3:F,.3:I,.3:K,
.3:A,.3:J,.3:E,.3:B,.3:C,.3:U,.3:YU,.3:L,.3:Q,.3:H,0.3:HP,.3:NG,0.3:NY,.3:X,.3:D,.3:OE,.3:N,.3:R,
.3:O,.3:AI,.3:Y,.1:SMALL LETTER M,.3:S,.3:V,.3:W,.3:ATIU,.3:Z,.3:KP,.3:P,.3:T,.3:G,.3:F,.3:I,.3:K,
.3:A,.3:J,.3:E,.3:B,.3:C,.3:U,.3:YU,.3:L,.3:Q,.3:H,0.3:HP,.3:NG,0.3:NY,.3:X,.3:D,.3:OE,.3:N,.3:R,
.3:O,.3:AI,.3:Y,.1:DIGIT ZERO,.2:ONE,.2:TWO,.2:THREE,.2:FOUR,.2:FIVE,.2:SIX,.2:SEVEN,.2:EIGHT,
.2:NINE,.1:NUMBER TEN,.2:ELEVEN,.2:TWELVE,.2:THIRTEEN,.2:FOURTEEN,.2:FIFTEEN,.2:SIXTEEN,
.2:SEVENTEEN,.2:EIGHTEEN,.2:NINETEEN,.1:DIGIT ONE ALTERNATE FORM,.2:TWO ALTERNATE FORM,
.2:THREE ALTERNATE FORM,.1:COMMA,.1:FULL STOP,.1:SYMBOL AIVA,.1:EXCLAMATION OH,66.:MIAO LETTER PA,
.2:BA,.2:YI PA,.2:PLA,.2:MA,.2:MHA,.2:ARCHAIC MA,.2:FA,.2:VA,.2:VFA,.2:TA,.2:DA,.2:YI TTA,.3:TA,
.2:TTA,.2:DDA,.2:NA,.2:NHA,.2:YI NNA,.2:ARCHAIC NA,.2:NNA,.2:NNHA,.2:LA,.2:LYA,.2:LHA,.2:LHYA,
.2:TLHA,.2:DLHA,.2:TLHYA,.2:DLHYA,.2:KA,.2:GA,.2:YI KA,.2:QA,.2:QGA,.2:NGA,.2:NGHA,.2:ARCHAIC NGA,
.2:HA,.2:XA,.2:GHA,.2:GHHA,.2:TSSA,.2:DZZA,.2:NYA,.2:NYHA,.2:TSHA,.2:DZHA,.2:YI TSHA,.3:DZHA,
.2:REFORMED TSHA,.2:SHA,.2:SSA,.2:ZHA,.2:ZSHA,.2:TSA,.2:DZA,.2:YI TSA,.2:SA,.2:ZA,.2:ZSA,.2:ZZA,
.2:ZZSA,.2:ARCHAIC ZZA,.2:ZZYA,.2:ZZSYA,.2:WA,.2:AH,.2:HHA,.2:BRI,.2:SYI,.2:DZYI,.2:TE,.2:TSE,
.2:RTE,5.1:SIGN CONSONANT MODIFIER BAR,.1:LETTER NASALIZATION,.1:SIGN ASPIRATION,
.2:REFORMED VOICING,.3:ASPIRATION,.1:VOWEL SIGN A,.3:AA,.3:AHH,.3:AN,.3:ANG,.3:O,.3:OO,.3:WO,.3:W,
.3:E,.3:EN,.3:ENG,.3:OEY,.3:I,.3:IA,.3:IAN,.3:IANG,.3:IO,.3:IE,.3:II,.3:IU,.3:ING,.3:U,.3:UA,
.3:UAN,.3:UANG,.3:UU,.3:UEI,.3:UNG,.3:Y,.3:YI,.3:AE,.3:AEE,.3:ERR,.3:ROUNDED ERR,.3:ER,
.3:ROUNDED ER,.3:AI,.3:EI,.3:AU,.3:OU,.3:N,.3:NG,.3:UOG,.3:YUI,.3:OG,.3:OER,.3:VW,.3:IG,.3:EA,
.3:IONG,.3:UI,8.1:TONE RIGHT,.2:TOP RIGHT,.2:ABOVE,.2:BELOW,.1:LETTER TONE-2,.2:TONE-3,.2:TONE-4,
.2:TONE-5,.2:TONE-6,.2:TONE-7,.2:TONE-8,.2:REFORMED TONE-1,.3:TONE-2,.3:TONE-4,.3:TONE-5,
.3:TONE-6,.3:TONE-8,41.:TANGUT ITERATION MARK,.:NUSHU ITERATION MARK,.:OLD CHINESE HOOK MARK,
.2:ITERATION MARK,.:KHITAN SMALL SCRIPT FILLER,C.:VIETNAMESE ALTERNATE READING MARK CA,.4:NHAY,
180F.:TANGUT COMPONENT-001,.1:COMPONENT-002,.1:COMPONENT-003,.1:COMPONENT-004,.1:COMPONENT-005,
.1:COMPONENT-006,.1:COMPONENT-007,.1:COMPONENT-008,.1:COMPONENT-009,.1:COMPONENT-010,
.1:COMPONENT-011,.1:COMPONENT-012,.1:COMPONENT-013,.1:COMPONENT-014,.1:COMPONENT-015,
.1:COMPONENT-016,.1:COMPONENT-017,.1:COMPONENT-018,.1:COMPONENT-019,.1:COMPONENT-020,
.1:COMPONENT-021,.1:COMPONENT-022,.1:COMPONENT-023,.1:COMPONENT-024,.1:COMPONENT-025,
.1:COMPONENT-026,.1:COMPONENT-027,.1:COMPONENT-028,.1:COMPONENT-029,.1:COMPONENT-030,
.1:COMPONENT-031,.1:COMPONENT-032,.1:COMPONENT-033,.1:COMPONENT-034,.1:COMPONENT-035,
.1:COMPONENT-036,.1:COMPONENT-037,.1:COMPONENT-038,.1:COMPONENT-039,.1:COMPONENT-040,
.1:COMPONENT-041,.1:COMPONENT-042,.1:COMPONENT-043,.1:COMPONENT-044,.1:COMPONENT-045,
.1:COMPONENT-046,.1:COMPONENT-047,.1:COMPONENT-048,.1:COMPONENT-049,.1:COMPONENT-050,
.1:COMPONENT-051,.1:COMPONENT-052,.1:COMPONENT-053,.1:COMPONENT-054,.1:COMPONENT-055,
.1:COMPONENT-056,.1:COMPONENT-057,.1:COMPONENT-058,.1:COMPONENT-059,.1:COMPONENT-060,
.1:COMPONENT-061,.1:COMPONENT-062,.1:COMPONENT-063,.1:COMPONENT-064,.1:COMPONENT-065,
.1:COMPONENT-066,.1:COMPONENT-067,.1:COMPONENT-068,.1:COMPONENT-069,.1:COMPONENT-070,
.1:COMPONENT-071,.1:COMPONENT-072,.1:COMPONENT-073,.1:COMPONENT-074,.1:COMPONENT-075,
.1:COMPONENT-076,.1:COMPONENT-077,.1:COMPONENT-078,.1:COMPONENT-079,.1:COMPONENT-080,
.1:COMPONENT-081,.1:COMPONENT-082,.1:COMPONENT-083,.1:COMPONENT-084,.1:COMPONENT-085,
.1:COMPONENT-086,.1:COMPONENT-087,.1:COMPONENT-088,.1:COMPONENT-089,.1:COMPONENT-090,
.1:COMPONENT-091,.1:COMPONENT-092,.1:COMPONENT-093,.1:COMPONENT-094,.1:COMPONENT-095,
.1:COMPONENT-096,.1:COMPONENT-097,.1:COMPONENT-098,.1:COMPONENT-099,.1:COMPONENT-100,
.1:COMPONENT-101,.1:COMPONENT-102,.1:COMPONENT-103,.1:COMPONENT-104,.1:COMPONENT-105,
.1:COMPONENT-106,.1:COMPONENT-107,.1:COMPONENT-108,.1:COMPONENT-109,.1:COMPONENT-110,
.1:COMPONENT-111,.1:COMPONENT-112,.1:COMPONENT-113,.1:COMPONENT-114,.1:COMPONENT-115,
.1:COMPONENT-116,.1:COMPONENT-117,.1:COMPONENT-118,.1:COMPONENT-119,.1:COMPONENT-120,
.1:COMPONENT-121,.1:COMPONENT-122,.1:COMPONENT-123,.1:COMPONENT-124,.1:COMPONENT-125,
.1:COMPONENT-126,.1:COMPONENT-127,.1:COMPONENT-128,.1:COMPONENT-129,.1:COMPONENT-130,
.1:COMPONENT-131,.1:COMPONENT-132,.1:COMPONENT-133,.1:COMPONENT-134,.1:COMPONENT-135,
.1:COMPONENT-136,.1:COMPONENT-137,.1:COMPONENT-138,.1:COMPONENT-139,.1:COMPONENT-140,
.1:COMPONENT-141,.1:COMPONENT-142,.1:COMPONENT-143,.1:COMPONENT-144,.1:COMPONENT-145,
.1:COMPONENT-146,.1:COMPONENT-147,.1:COMPONENT-148,.1:COMPONENT-149,.1:COMPONENT-150,
.1:COMPONENT-151,.1:COMPONENT-152,.1:COMPONENT-153,.1:COMPONENT-154,.1:COMPONENT-155,
.1:COMPONENT-156,.1:COMPONENT-157,.1:COMPONENT-158,.1:COMPONENT-159,.1:COMPONENT-160,
.1:COMPONENT-161,.1:COMPONENT-162,.1:COMPONENT-163,.1:COMPONENT-164,.1:COMPONENT-165,
.1:COMPONENT-166,.1:COMPONENT-167,.1:COMPONENT-168,.1:COMPONENT-169,.1:COMPONENT-170,
.1:COMPONENT-171,.1:COMPONENT-172,.1:COMPONENT-173,.1:COMPONENT-174,.1:COMPONENT-175,
.1:COMPONENT-176,.1:COMPONENT-177,.1:COMPONENT-178,.1:COMPONENT-179,.1:COMPONENT-180,
.1:COMPONENT-181,.1:COMPONENT-182,.1:COMPONENT-183,.1:COMPONENT-184,.1:COMPONENT-185,
.1:COMPONENT-186,.1:COMPONENT-187,.1:COMPONENT-188,.1:COMPONENT-189,.1:COMPONENT-190,
.1:COMPONENT-191,.1:COMPONENT-192,.1:COMPONENT-193,.1:COMPONENT-194,.1:COMPONENT-195,
.1:COMPONENT-196,.1:COMPONENT-197,.1:COMPONENT-198,.1:COMPONENT-199,.1:COMPONENT-200,
.1:COMPONENT-201,.1:COMPONENT-202,.1:COMPONENT-203,.1:COMPONENT-204,.1:COMPONENT-205,
.1:COMPONENT-206,.1:COMPONENT-207,.1:COMPONENT-208,.1:COMPONENT-209,.1:COMPONENT-210,
.1:COMPONENT-211,.1:COMPONENT-212,.1:COMPONENT-213,.1:COMPONENT-214,.1:COMPONENT-215,
.1:COMPONENT-216,.1:COMPONENT-217,.1:COMPONENT-218,.1:COMPONENT-219,.1:COMPONENT-220,
.1:COMPONENT-221,.1:COMPONENT-222,.1:COMPONENT-223,.1:COMPONENT-224,.1:COMPONENT-225,
.1:COMPONENT-226,.1:COMPONENT-227,.1:COMPONENT-228,.1:COMPONENT-229,.1:COMPONENT-230,
.1:COMPONENT-231,.1:COMPONENT-232,.1:COMPONENT-233,.1:COMPONENT-234,.1:COMPONENT-235,
.1:COMPONENT-236,.1:COMPONENT-237,.1:COMPONENT-238,.1:COMPONENT-239,.1:COMPONENT-240,
.1:COMPONENT-241,.1:COMPONENT-242,.1:COMPONENT-243,.1:COMPONENT-244,.1:COMPONENT-245,
.1:COMPONENT-246,.1:COMPONENT-247,.1:COMPONENT-248,.1:COMPONENT-249,.1:COMPONENT-250,
.1:COMPONENT-251,.1:COMPONENT-252,.1:COMPONENT-253,.1:COMPONENT-254,.1:COMPONENT-255,
.1:COMPONENT-256,.1:COMPONENT-257,.1:COMPONENT-258,.1:COMPONENT-259,.1:COMPONENT-260,
.1:COMPONENT-261,.1:COMPONENT-262,.1:COMPONENT-263,.1:COMPONENT-264,.1:COMPONENT-265,
.1:COMPONENT-266,.1:COMPONENT-267,.1:COMPONENT-268,.1:COMPONENT-269,.1:COMPONENT-270,
.1:COMPONENT-271,.1:COMPONENT-272,.1:COMPONENT-273,.1:COMPONENT-274,.1:COMPONENT-275,
.1:COMPONENT-276,.1:COMPONENT-277,.1:COMPONENT-278,.1:COMPONENT-279,.1:COMPONENT-280,
.1:COMPONENT-281,.1:COMPONENT-282,.1:COMPONENT-283,.1:COMPONENT-284,.1:COMPONENT-285,
.1:COMPONENT-286,.1:COMPONENT-287,.1:COMPONENT-288,.1:COMPONENT-289,.1:COMPONENT-290,
.1:COMPONENT-291,.1:COMPONENT-292,.1:COMPONENT-293,.1:COMPONENT-294,.1:COMPONENT-295,
.1:COMPONENT-296,.1:COMPONENT-297,.1:COMPONENT-298,.1:COMPONENT-299,.1:COMPONENT-300,
.1:COMPONENT-301,.1:COMPONENT-302,.1:COMPONENT-303,.1:COMPONENT-304,.1:COMPONENT-305,
.1:COMPONENT-306,.1:COMPONENT-307,.1:COMPONENT-308,.1:COMPONENT-309,.1:COMPONENT-310,
.1:COMPONENT-311,.1:COMPONENT-312,.1:COMPONENT-313,.1:COMPONENT-314,.1:COMPONENT-315,
.1:COMPONENT-316,.1:COMPONENT-317,.1:COMPONENT-318,.1:COMPONENT-319,.1:COMPONENT-320,
.1:COMPONENT-321,.1:COMPONENT-322,.1:COMPONENT-323,.1:COMPONENT-324,.1:COMPONENT-325,
.1:COMPONENT-326,.1:COMPONENT-327,.1:COMPONENT-328,.1:COMPONENT-329,.1:COMPONENT-330,
.1:COMPONENT-331,.1:COMPONENT-332,.1:COMPONENT-333,.1:COMPONENT-334,.1:COMPONENT-335,
.1:COMPONENT-336,.1:COMPONENT-337,.1:COMPONENT-338,.1:COMPONENT-339,.1:COMPONENT-340,
.1:COMPONENT-341,.1:COMPONENT-342,.1:COMPONENT-343,.1:COMPONENT-344,.1:COMPONENT-345,
.1:COMPONENT-346,.1:COMPONENT-347,.1:COMPONENT-348,.1:COMPONENT-349,.1:COMPONENT-350,
.1:COMPONENT-351,.1:COMPONENT-352,.1:COMPONENT-353,.1:COMPONENT-354,.1:COMPONENT-355,
.1:COMPONENT-356,.1:COMPONENT-357,.1:COMPONENT-358,.1:COMPONENT-359,.1:COMPONENT-360,
.1:COMPONENT-361,.1:COMPONENT-362,.1:COMPONENT-363,.1:COMPONENT-364,.1:COMPONENT-365,
.1:COMPONENT-366,.1:COMPONENT-367,.1:COMPONENT-368,.1:COMPONENT-369,.1:COMPONENT-370,
.1:COMPONENT-371,.1:COMPONENT-372,.1:COMPONENT-373,.1:COMPONENT-374,.1:COMPONENT-375,
.1:COMPONENT-376,.1:COMPONENT-377,.1:COMPONENT-378,.1:COMPONENT-379,.1:COMPONENT-380,
.1:COMPONENT-381,.1:COMPONENT-382,.1:COMPONENT-383,.1:COMPONENT-384,.1:COMPONENT-385,
.1:COMPONENT-386,.1:COMPONENT-387,.1:COMPONENT-388,.1:COMPONENT-389,.1:COMPONENT-390,
.1:COMPONENT-391,.1:COMPONENT-392,.1:COMPONENT-393,.1:COMPONENT-394,.1:COMPONENT-395,
.1:COMPONENT-396,.1:COMPONENT-397,.1:COMPONENT-398,.1:COMPONENT-399,.1:COMPONENT-400,
.1:COMPONENT-401,.1:COMPONENT-402,.1:COMPONENT-403,.1:COMPONENT-404,.1:COMPONENT-405,
.1:COMPONENT-406,.1:COMPONENT-407,.1:COMPONENT-408,.1:COMPONENT-409,.1:COMPONENT-410,
.1:COMPONENT-411,.1:COMPONENT-412,.1:COMPONENT-413,.1:COMPONENT-414,.1:COMPONENT-415,
.1:COMPONENT-416,.1:COMPONENT-417,.1:COMPONENT-418,.1:COMPONENT-419,.1:COMPONENT-420,
.1:COMPONENT-421,.1:COMPONENT-422,.1:COMPONENT-423,.1:COMPONENT-424,.1:COMPONENT-425,
.1:COMPONENT-426,.1:COMPONENT-427,.1:COMPONENT-428,.1:COMPONENT-429,.1:COMPONENT-430,
.1:COMPONENT-431,.1:COMPONENT-432,.1:COMPONENT-433,.1:COMPONENT-434,.1:COMPONENT-435,
.1:COMPONENT-436,.1:COMPONENT-437,.1:COMPONENT-438,.1:COMPONENT-439,.1:COMPONENT-440,
.1:COMPONENT-441,.1:COMPONENT-442,.1:COMPONENT-443,.1:COMPONENT-444,.1:COMPONENT-445,
.1:COMPONENT-446,.1:COMPONENT-447,.1:COMPONENT-448,.1:COMPONENT-449,.1:COMPONENT-450,
.1:COMPONENT-451,.1:COMPONENT-452,.1:COMPONENT-453,.1:COMPONENT-454,.1:COMPONENT-455,
.1:COMPONENT-456,.1:COMPONENT-457,.1:COMPONENT-458,.1:COMPONENT-459,.1:COMPONENT-460,
.1:COMPONENT-461,.1:COMPONENT-462,.1:COMPONENT-463,.1:COMPONENT-464,.1:COMPONENT-465,
.1:COMPONENT-466,.1:COMPONENT-467,.1:COMPONENT-468,.1:COMPONENT-469,.1:COMPONENT-470,
.1:COMPONENT-471,.1:COMPONENT-472,.1:COMPONENT-473,.1:COMPONENT-474,.1:COMPONENT-475,
.1:COMPONENT-476,.1:COMPONENT-477,.1:COMPONENT-478,.1:COMPONENT-479,.1:COMPONENT-480,
.1:COMPONENT-481,.1:COMPONENT-482,.1:COMPONENT-483,.1:COMPONENT-484,.1:COMPONENT-485,
.1:COMPONENT-486,.1:COMPONENT-487,.1:COMPONENT-488,.1:COMPONENT-489,.1:COMPONENT-490,
.1:COMPONENT-491,.1:COMPONENT-492,.1:COMPONENT-493,.1:COMPONENT-494,.1:COMPONENT-495,
.1:COMPONENT-496,.1:COMPONENT-497,.1:COMPONENT-498,.1:COMPONENT-499,.1:COMPONENT-500,
.1:COMPONENT-501,.1:COMPONENT-502,.1:COMPONENT-503,.1:COMPONENT-504,.1:COMPONENT-505,
.1:COMPONENT-506,.1:COMPONENT-507,.1:COMPONENT-508,.1:COMPONENT-509,.1:COMPONENT-510,
.1:COMPONENT-511,.1:COMPONENT-512,.1:COMPONENT-513,.1:COMPONENT-514,.1:COMPONENT-515,
.1:COMPONENT-516,.1:COMPONENT-517,.1:COMPONENT-518,.1:COMPONENT-519,.1:COMPONENT-520,
.1:COMPONENT-521,.1:COMPONENT-522,.1:COMPONENT-523,.1:COMPONENT-524,.1:COMPONENT-525,
.1:COMPONENT-526,.1:COMPONENT-527,.1:COMPONENT-528,.1:COMPONENT-529,.1:COMPONENT-530,
.1:COMPONENT-531,.1:COMPONENT-532,.1:COMPONENT-533,.1:COMPONENT-534,.1:COMPONENT-535,
.1:COMPONENT-536,.1:COMPONENT-537,.1:COMPONENT-538,.1:COMPONENT-539,.1:COMPONENT-540,
.1:COMPONENT-541,.1:COMPONENT-542,.1:COMPONENT-543,.1:COMPONENT-544,.1:COMPONENT-545,
.1:COMPONENT-546,.1:COMPONENT-547,.1:COMPONENT-548,.1:COMPONENT-549,.1:COMPONENT-550,
.1:COMPONENT-551,.1:COMPONENT-552,.1:COMPONENT-553,.1:COMPONENT-554,.1:COMPONENT-555,
.1:COMPONENT-556,.1:COMPONENT-557,.1:COMPONENT-558,.1:COMPONENT-559,.1:COMPONENT-560,
.1:COMPONENT-561,.1:COMPONENT-562,.1:COMPONENT-563,.1:COMPONENT-564,.1:COMPONENT-565,
.1:COMPONENT-566,.1:COMPONENT-567,.1:COMPONENT-568,.1:COMPONENT-569,.1:COMPONENT-570,
.1:COMPONENT-571,.1:COMPONENT-572,.1:COMPONENT-573,.1:COMPONENT-574,.1:COMPONENT-575,
.1:COMPONENT-576,.1:COMPONENT-577,.1:COMPONENT-578,.1:COMPONENT-579,.1:COMPONENT-580,
.1:COMPONENT-581,.1:COMPONENT-582,.1:COMPONENT-583,.1:COMPONENT-584,.1:COMPONENT-585,
.1:COMPONENT-586,.1:COMPONENT-587,.1:COMPONENT-588,.1:COMPONENT-589,.1:COMPONENT-590,
.1:COMPONENT-591,.1:COMPONENT-592,.1:COMPONENT-593,.1:COMPONENT-594,.1:COMPONENT-595,
.1:COMPONENT-596,.1:COMPONENT-597,.1:COMPONENT-598,.1:COMPONENT-599,.1:COMPONENT-600,
.1:COMPONENT-601,.1:COMPONENT-602,.1:COMPONENT-603,.1:COMPONENT-604,.1:COMPONENT-605,
.1:COMPONENT-606,.1:COMPONENT-607,.1:COMPONENT-608,.1:COMPONENT-609,.1:COMPONENT-610,
.1:COMPONENT-611,.1:COMPONENT-612,.1:COMPONENT-613,.1:COMPONENT-614,.1:COMPONENT-615,
.1:COMPONENT-616,.1:COMPONENT-617,.1:COMPONENT-618,.1:COMPONENT-619,.1:COMPONENT-620,
.1:COMPONENT-621,.1:COMPONENT-622,.1:COMPONENT-623,.1:COMPONENT-624,.1:COMPONENT-625,
.1:COMPONENT-626,.1:COMPONENT-627,.1:COMPONENT-628,.1:COMPONENT-629,.1:COMPONENT-630,
.1:COMPONENT-631,.1:COMPONENT-632,.1:COMPONENT-633,.1:COMPONENT-634,.1:COMPONENT-635,
.1:COMPONENT-636,.1:COMPONENT-637,.1:COMPONENT-638,.1:COMPONENT-639,.1:COMPONENT-640,
.1:COMPONENT-641,.1:COMPONENT-642,.1:COMPONENT-643,.1:COMPONENT-644,.1:COMPONENT-645,
.1:COMPONENT-646,.1:COMPONENT-647,.1:COMPONENT-648,.1:COMPONENT-649,.1:COMPONENT-650,
.1:COMPONENT-651,.1:COMPONENT-652,.1:COMPONENT-653,.1:COMPONENT-654,.1:COMPONENT-655,
.1:COMPONENT-656,.1:COMPONENT-657,.1:COMPONENT-658,.1:COMPONENT-659,.1:COMPONENT-660,
.1:COMPONENT-661,.1:COMPONENT-662,.1:COMPONENT-663,.1:COMPONENT-664,.1:COMPONENT-665,
.1:COMPONENT-666,.1:COMPONENT-667,.1:COMPONENT-668,.1:COMPONENT-669,.1:COMPONENT-670,
.1:COMPONENT-671,.1:COMPONENT-672,.1:COMPONENT-673,.1:COMPONENT-674,.1:COMPONENT-675,
.1:COMPONENT-676,.1:COMPONENT-677,.1:COMPONENT-678,.1:COMPONENT-679,.1:COMPONENT-680,
.1:COMPONENT-681,.1:COMPONENT-682,.1:COMPONENT-683,.1:COMPONENT-684,.1:COMPONENT-685,
.1:COMPONENT-686,.1:COMPONENT-687,.1:COMPONENT-688,.1:COMPONENT-689,.1:COMPONENT-690,
.1:COMPONENT-691,.1:COMPONENT-692,.1:COMPONENT-693,.1:COMPONENT-694,.1:COMPONENT-695,
.1:COMPONENT-696,.1:COMPONENT-697,.1:COMPONENT-698,.1:COMPONENT-699,.1:COMPONENT-700,
.1:COMPONENT-701,.1:COMPONENT-702,.1:COMPONENT-703,.1:COMPONENT-704,.1:COMPONENT-705,
.1:COMPONENT-706,.1:COMPONENT-707,.1:COMPONENT-708,.1:COMPONENT-709,.1:COMPONENT-710,
.1:COMPONENT-711,.1:COMPONENT-712,.1:COMPONENT-713,.1:COMPONENT-714,.1:COMPONENT-715,
.1:COMPONENT-716,.1:COMPONENT-717,.1:COMPONENT-718,.1:COMPONENT-719,.1:COMPONENT-720,
.1:COMPONENT-721,.1:COMPONENT-722,.1:COMPONENT-723,.1:COMPONENT-724,.1:COMPONENT-725,
.1:COMPONENT-726,.1:COMPONENT-727,.1:COMPONENT-728,.1:COMPONENT-729,.1:COMPONENT-730,
.1:COMPONENT-731,.1:COMPONENT-732,.1:COMPONENT-733,.1:COMPONENT-734,.1:COMPONENT-735,
.1:COMPONENT-736,.1:COMPONENT-737,.1:COMPONENT-738,.1:COMPONENT-739,.1:COMPONENT-740,
.1:COMPONENT-741,.1:COMPONENT-742,.1:COMPONENT-743,.1:COMPONENT-744,.1:COMPONENT-745,
.1:COMPONENT-746,.1:COMPONENT-747,.1:COMPONENT-748,.1:COMPONENT-749,.1:COMPONENT-750,
.1:COMPONENT-751,.1:COMPONENT-752,.1:COMPONENT-753,.1:COMPONENT-754,.1:COMPONENT-755,
.1:COMPONENT-756,.1:COMPONENT-757,.1:COMPONENT-758,.1:COMPONENT-759,.1:COMPONENT-760,
.1:COMPONENT-761,.1:COMPONENT-762,.1:COMPONENT-763,.1:COMPONENT-764,.1:COMPONENT-765,
.1:COMPONENT-766,.1:COMPONENT-767,.1:COMPONENT-768,.:KHITAN SMALL SCRIPT CHARACTER-18B00,
.3:CHARACTER-18B01,.3:CHARACTER-18B02,.3:CHARACTER-18B03,.3:CHARACTER-18B04,.3:CHARACTER-18B05,
.3:CHARACTER-18B06,.3:CHARACTER-18B07,.3:CHARACTER-18B08,.3:CHARACTER-18B09,.3:CHARACTER-18B0A,
.3:CHARACTER-18B0B,.3:CHARACTER-18B0C,.3:CHARACTER-18B0D,.3:CHARACTER-18B0E,.3:CHARACTER-18B0F,
.3:CHARACTER-18B10,.3:CHARACTER-18B11,.3:CHARACTER-18B12,.3:CHARACTER-18B13,.3:CHARACTER-18B14,
.3:CHARACTER-18B15,.3:CHARACTER-18B16,.3:CHARACTER-18B17,.3:CHARACTER-18B18,.3:CHARACTER-18B19,
.3:CHARACTER-18B1A,.3:CHARACTER-18B1B,.3:CHARACTER-18B1C,.3:CHARACTER-18B1D,.3:CHARACTER-18B1E,
.3:CHARACTER-18B1F,.3:CHARACTER-18B20,.3:CHARACTER-18B21,.3:CHARACTER-18B22,.3:CHARACTER-18B23,
.3:CHARACTER-18B24,.3:CHARACTER-18B25,.3:CHARACTER-18B26,.3:CHARACTER-18B27,.3:CHARACTER-18B28,
.3:CHARACTER-18B29,.3:CHARACTER-18B2A,.3:CHARACTER-18B2B,.3:CHARACTER-18B2C,.3:CHARACTER-18B2D,
.3:CHARACTER-18B2E,.3:CHARACTER-18B2F,.3:CHARACTER-18B30,.3:CHARACTER-18B31,.3:CHARACTER-18B32,
.3:CHARACTER-18B33,.3:CHARACTER-18B34,.3:CHARACTER-18B35,.3:CHARACTER-18B36,.3:CHARACTER-18B37,
.3:CHARACTER-18B38,.3:CHARACTER-18B39,.3:CHARACTER-18B3A,.3:CHARACTER-18B3B,.3:CHARACTER-18B3C,
.3:CHARACTER-18B3D,.3:CHARACTER-18B3E,.3:CHARACTER-18B3F,.3:CHARACTER-18B40,.3:CHARACTER-18B41,
.3:CHARACTER-18B42,.3:CHARACTER-18B43,.3:CHARACTER-18B44,.3:CHARACTER-18B45,.3:CHARACTER-18B46,
.3:CHARACTER-18B47,.3:CHARACTER-18B48,.3:CHARACTER-18B49,.3:CHARACTER-18B4A,.3:CHARACTER-18B4B,
.3:CHARACTER-18B4C,.3:CHARACTER-18B4D,.3:CHARACTER-18B4E,.3:CHARACTER-18B4F,.3:CHARACTER-18B50,
.3:CHARACTER-18B51,.3:CHARACTER-18B52,.3:CHARACTER-18B53,.3:CHARACTER-18B54,.3:CHARACTER-18B55,
.3:CHARACTER-18B56,.3:CHARACTER-18B57,.3:CHARACTER-18B58,.3:CHARACTER-18B59,.3:CHARACTER-18B5A,
.3:CHARACTER-18B5B,.3:CHARACTER-18B5C,.3:CHARACTER-18B5D,.3:CHARACTER-18B5E,.3:CHARACTER-18B5F,
.3:CHARACTER-18B60,.3:CHARACTER-18B61,.3:CHARACTER-18B62,.3:CHARACTER-18B63,.3:CHARACTER-18B64,
.3:CHARACTER-18B65,.3:CHARACTER-18B66,.3:CHARACTER-18B67,.3:CHARACTER-18B68,.3:CHARACTER-18B69,
.3:CHARACTER-18B6A,.3:CHARACTER-18B6B,.3:CHARACTER-18B6C,.3:CHARACTER-18B6D,.3:CHARACTER-18B6E,
.3:CHARACTER-18B6F,.3:CHARACTER-18B70,.3:CHARACTER-18B71,.3:CHARACTER-18B72,.3:CHARACTER-18B73,
.3:CHARACTER-18B74,.3:CHARACTER-18B75,.3:CHARACTER-18B76,.3:CHARACTER-18B77,.3:CHARACTER-18B78,
.3:CHARACTER-18B79,.3:CHARACTER-18B7A,.3:CHARACTER-18B7B,.3:CHARACTER-18B7C,.3:CHARACTER-18B7D,
.3:CHARACTER-18B7E,.3:CHARACTER-18B7F,.3:CHARACTER-18B80,.3:CHARACTER-18B81,.3:CHARACTER-18B82,
.3:CHARACTER-18B83,.3:CHARACTER-18B84,.3:CHARACTER-18B85,.3:CHARACTER-18B86,.3:CHARACTER-18B87,
.3:CHARACTER-18B88,.3:CHARACTER-18B89,.3:CHARACTER-18B8A,.3:CHARACTER-18B8B,.3:CHARACTER-18B8C,
.3:CHARACTER-18B8D,.3:CHARACTER-18B8E,.3:CHARACTER-18B8F,.3:CHARACTER-18B90,.3:CHARACTER-18B91,
.3:CHARACTER-18B92,.3:CHARACTER-18B93,.3:CHARACTER-18B94,.3:CHARACTER-18B95,.3:CHARACTER-18B96,
.3:CHARACTER-18B97,.3:CHARACTER-18B98,.3:CHARACTER-18B99,.3:CHARACTER-18B9A,.3:CHARACTER-18B9B,
.3:CHARACTER-18B9C,.3:CHARACTER-18B9D,.3:CHARACTER-18B9E,.3:CHARACTER-18B9F,.3:CHARACTER-18BA0,
.3:CHARACTER-18BA1,.3:CHARACTER-18BA2,.3:CHARACTER-18BA3,.3:CHARACTER-18BA4,.3:CHARACTER-18BA5,
.3:CHARACTER-18BA6,.3:CHARACTER-18BA7,.3:CHARACTER-18BA8,.3:CHARACTER-18BA9,.3:CHARACTER-18BAA,
.3:CHARACTER-18BAB,.3:CHARACTER-18BAC,.3:CHARACTER-18BAD,.3:CHARACTER-18BAE,.3:CHARACTER-18BAF,
.3:CHARACTER-18BB0,.3:CHARACTER-18BB1,.3:CHARACTER-18BB2,.3:CHARACTER-18BB3,.3:CHARACTER-18BB4,
.3:CHARACTER-18BB5,.3:CHARACTER-18BB6,.3:CHARACTER-18BB7,.3:CHARACTER-18BB8,.3:CHARACTER-18BB9,
.3:CHARACTER-18BBA,.3:CHARACTER-18BBB,.3:CHARACTER-18BBC,.3:CHARACTER-18BBD,.3:CHARACTER-18BBE,
.3:CHARACTER-18BBF,.3:CHARACTER-18BC0,.3:CHARACTER-18BC1,.3:CHARACTER-18BC2,.3:CHARACTER-18BC3,
.3:CHARACTER-18BC4,.3:CHARACTER-18BC5,.3:CHARACTER-18BC6,.3:CHARACTER-18BC7,.3:CHARACTER-18BC8,
.3:CHARACTER-18BC9,.3:CHARACTER-18BCA,.3:CHARACTER-18BCB,.3:CHARACTER-18BCC,.3:CHARACTER-18BCD,
.3:CHARACTER-18BCE,.3:CHARACTER-18BCF,.3:CHARACTER-18BD0,.3:CHARACTER-18BD1,.3:CHARACTER-18BD2,
.3:CHARACTER-18BD3,.3:CHARACTER-18BD4,.3:CHARACTER-18BD5,.3:CHARACTER-18BD6,.3:CHARACTER-18BD7,
.3:CHARACTER-18BD8,.3:CHARACTER-18BD9,.3:CHARACTER-18BDA,.3:CHARACTER-18BDB,.3:CHARACTER-18BDC,
.3:CHARACTER-18BDD,.3:CHARACTER-18BDE,.3:CHARACTER-18BDF,.3:CHARACTER-18BE0,.3:CHARACTER-18BE1,
.3:CHARACTER-18BE2,.3:CHARACTER-18BE3,.3:CHARACTER-18BE4,.3:CHARACTER-18BE5,.3:CHARACTER-18BE6,
.3:CHARACTER-18BE7,.3:CHARACTER-18BE8,.3:CHARACTER-18BE9,.3:CHARACTER-18BEA,.3:CHARACTER-18BEB,
.3:CHARACTER-18BEC,.3:CHARACTER-18BED,.3:CHARACTER-18BEE,.3:CHARACTER-18BEF,.3:CHARACTER-18BF0,
.3:CHARACTER-18BF1,.3:CHARACTER-18BF2,.3:CHARACTER-18BF3,.3:CHARACTER-18BF4,.3:CHARACTER-18BF5,
.3:CHARACTER-18BF6,.3:CHARACTER-18BF7,.3:CHARACTER-18BF8,.3:CHARACTER-18BF9,.3:CHARACTER-18BFA,
.3:CHARACTER-18BFB,.3:CHARACTER-18BFC,.3:CHARACTER-18BFD,.3:CHARACTER-18BFE,.3:CHARACTER-18BFF,
.3:CHARACTER-18C00,.3:CHARACTER-18C01,.3:CHARACTER-18C02,.3:CHARACTER-18C03,.3:CHARACTER-18C04,
.3:CHARACTER-18C05,.3:CHARACTER-18C06,.3:CHARACTER-18C07,.3:CHARACTER-18C08,.3:CHARACTER-18C09,
.3:CHARACTER-18C0A,.3:CHARACTER-18C0B,.3:CHARACTER-18C0C,.3:CHARACTER-18C0D,.3:CHARACTER-18C0E,
.3:CHARACTER-18C0F,.3:CHARACTER-18C10,.3:CHARACTER-18C11,.3:CHARACTER-18C12,.3:CHARACTER-18C13,
.3:CHARACTER-18C14,.3:CHARACTER-18C15,.3:CHARACTER-18C16,.3:CHARACTER-18C17,.3:CHARACTER-18C18,
.3:CHARACTER-18C19,.3:CHARACTER-18C1A,.3:CHARACTER-18C1B,.3:CHARACTER-18C1C,.3:CHARACTER-18C1D,
.3:CHARACTER-18C1E,.3:CHARACTER-18C1F,.3:CHARACTER-18C20,.3:CHARACTER-18C21,.3:CHARACTER-18C22,
.3:CHARACTER-18C23,.3:CHARACTER-18C24,.3:CHARACTER-18C25,.3:CHARACTER-18C26,.3:CHARACTER-18C27,
.3:CHARACTER-18C28,.3:CHARACTER-18C29,.3:CHARACTER-18C2A,.3:CHARACTER-18C2B,.3:CHARACTER-18C2C,
.3:CHARACTER-18C2D,.3:CHARACTER-18C2E,.3:CHARACTER-18C2F,.3:CHARACTER-18C30,.3:CHARACTER-18C31,
.3:CHARACTER-18C32,.3:CHARACTER-18C33,.3:CHARACTER-18C34,.3:CHARACTER-18C35,.3:CHARACTER-18C36,
.3:CHARACTER-18C37,.3:CHARACTER-18C38,.3:CHARACTER-18C39,.3:CHARACTER-18C3A,.3:CHARACTER-18C3B,
.3:CHARACTER-18C3C,.3:CHARACTER-18C3D,.3:CHARACTER-18C3E,.3:CHARACTER-18C3F,.3:CHARACTER-18C40,
.3:CHARACTER-18C41,.3:CHARACTER-18C42,.3:CHARACTER-18C43,.3:CHARACTER-18C44,.3:CHARACTER-18C45,
.3:CHARACTER-18C46,.3:CHARACTER-18C47,.3:CHARACTER-18C48,.3:CHARACTER-18C49,.3:CHARACTER-18C4A,
.3:CHARACTER-18C4B,.3:CHARACTER-18C4C,.3:CHARACTER-18C4D,.3:CHARACTER-18C4E,.3:CHARACTER-18C4F,
.3:CHARACTER-18C50,.3:CHARACTER-18C51,.3:CHARACTER-18C52,.3:CHARACTER-18C53,.3:CHARACTER-18C54,
.3:CHARACTER-18C55,.3:CHARACTER-18C56,.3:CHARACTER-18C57,.3:CHARACTER-18C58,.3:CHARACTER-18C59,
.3:CHARACTER-18C5A,.3:CHARACTER-18C5B,.3:CHARACTER-18C5C,.3:CHARACTER-18C5D,.3:CHARACTER-18C5E,
.3:CHARACTER-18C5F,.3:CHARACTER-18C60,.3:CHARACTER-18C61,.3:CHARACTER-18C62,.3:CHARACTER-18C63,
.3:CHARACTER-18C64,.3:CHARACTER-18C65,.3:CHARACTER-18C66,.3:CHARACTER-18C67,.3:CHARACTER-18C68,
.3:CHARACTER-18C69,.3:CHARACTER-18C6A,.3:CHARACTER-18C6B,.3:CHARACTER-18C6C,.3:CHARACTER-18C6D,
.3:CHARACTER-18C6E,.3:CHARACTER-18C6F,.3:CHARACTER-18C70,.3:CHARACTER-18C71,.3:CHARACTER-18C72,
.3:CHARACTER-18C73,.3:CHARACTER-18C74,.3:CHARACTER-18C75,.3:CHARACTER-18C76,.3:CHARACTER-18C77,
.3:CHARACTER-18C78,.3:CHARACTER-18C79,.3:CHARACTER-18C7A,.3:CHARACTER-18C7B,.3:CHARACTER-18C7C,
.3:CHARACTER-18C7D,.3:CHARACTER-18C7E,.3:CHARACTER-18C7F,.3:CHARACTER-18C80,.3:CHARACTER-18C81,
.3:CHARACTER-18C82,.3:CHARACTER-18C83,.3:CHARACTER-18C84,.3:CHARACTER-18C85,.3:CHARACTER-18C86,
.3:CHARACTER-18C87,.3:CHARACTER-18C88,.3:CHARACTER-18C89,.3:CHARACTER-18C8A,.3:CHARACTER-18C8B,
.3:CHARACTER-18C8C,.3:CHARACTER-18C8D,.3:CHARACTER-18C8E,.3:CHARACTER-18C8F,.3:CHARACTER-18C90,
.3:CHARACTER-18C91,.3:CHARACTER-18C92,.3:CHARACTER-18C93,.3:CHARACTER-18C94,.3:CHARACTER-18C95,
.3:CHARACTER-18C96,.3:CHARACTER-18C97,.3:CHARACTER-18C98,.3:CHARACTER-18C99,.3:CHARACTER-18C9A,
.3:CHARACTER-18C9B,.3:CHARACTER-18C9C,.3:CHARACTER-18C9D,.3:CHARACTER-18C9E,.3:CHARACTER-18C9F,
.3:CHARACTER-18CA0,.3:CHARACTER-18CA1,.3:CHARACTER-18CA2,.3:CHARACTER-18CA3,.3:CHARACTER-18CA4,
.3:CHARACTER-18CA5,.3:CHARACTER-18CA6,.3:CHARACTER-18CA7,.3:CHARACTER-18CA8,.3:CHARACTER-18CA9,
.3:CHARACTER-18CAA,.3:CHARACTER-18CAB,.3:CHARACTER-18CAC,.3:CHARACTER-18CAD,.3:CHARACTER-18CAE,
.3:CHARACTER-18CAF,.3:CHARACTER-18CB0,.3:CHARACTER-18CB1,.3:CHARACTER-18CB2,.3:CHARACTER-18CB3,
.3:CHARACTER-18CB4,.3:CHARACTER-18CB5,.3:CHARACTER-18CB6,.3:CHARACTER-18CB7,.3:CHARACTER-18CB8,
.3:CHARACTER-18CB9,.3:CHARACTER-18CBA,.3:CHARACTER-18CBB,.3:CHARACTER-18CBC,.3:CHARACTER-18CBD,
.3:CHARACTER-18CBE,.3:CHARACTER-18CBF,.3:CHARACTER-18CC0,.3:CHARACTER-18CC1,.3:CHARACTER-18CC2,
.3:CHARACTER-18CC3,.3:CHARACTER-18CC4,.3:CHARACTER-18CC5,.3:CHARACTER-18CC6,.3:CHARACTER-18CC7,
.3:CHARACTER-18CC8,.3:CHARACTER-18CC9,.3:CHARACTER-18CCA,.3:CHARACTER-18CCB,.3:CHARACTER-18CCC,
.3:CHARACTER-18CCD,.3:CHARACTER-18CCE,.3:CHARACTER-18CCF,.3:CHARACTER-18CD0,.3:CHARACTER-18CD1,
.3:CHARACTER-18CD2,.3:CHARACTER-18CD3,.3:CHARACTER-18CD4,.3:CHARACTER-18CD5,
231B.:KATAKANA LETTER MINNAN TONE-2,.3:TONE-3,.3:TONE-4,.3:TONE-5,2.3:TONE-7,.3:TONE-8,
.3:NASALIZED TONE-1,.4:TONE-2,.4:TONE-3,.4:TONE-4,.4:TONE-5,2.4:TONE-7,.4:TONE-8,2.2:ARCHAIC E,
.:HENTAIGANA LETTER E-1,0.:HIRAGANA LETTER ARCHAIC YE,.:HENTAIGANA LETTER A-1,.2:A-2,.2:A-3,
.2:A-WO,.2:I-1,.2:I-2,.2:I-3,.2:I-4,.2:U-1,.2:U-2,.2:U-3,.2:U-4,.2:U-5,.2:E-2,.2:E-3,.2:E-4,
.2:E-5,.2:E-6,.2:O-1,.2:O-2,.2:O-3,.2:KA-1,.2:KA-2,.2:KA-3,.2:KA-4,.2:KA-5,.2:KA-6,.2:KA-7,
.2:KA-8,.2:KA-9,.2:KA-10,.2:KA-11,.2:KA-KE,.2:KI-1,.2:KI-2,.2:KI-3,.2:KI-4,.2:KI-5,.2:KI-6,
.2:KI-7,.2:KI-8,.2:KU-1,.2:KU-2,.2:KU-3,.2:KU-4,.2:KU-5,.2:KU-6,.2:KU-7,.2:KE-1,.2:KE-2,.2:KE-3,
.2:KE-4,.2:KE-5,.2:KE-6,.2:KO-1,.2:KO-2,.2:KO-3,.2:KO-KI,.2:SA-1,.2:SA-2,.2:SA-3,.2:SA-4,.2:SA-5,
.2:SA-6,.2:SA-7,.2:SA-8,.2:SI-1,.2:SI-2,.2:SI-3,.2:SI-4,.2:SI-5,.2:SI-6,.2:SU-1,.2:SU-2,.2:SU-3,
.2:SU-4,.2:SU-5,.2:SU-6,.2:SU-7,.2:SU-8,.2:SE-1,.2:SE-2,.2:SE-3,.2:SE-4,.2:SE-5,.2:SO-1,.2:SO-2,
.2:SO-3,.2:SO-4,.2:SO-5,.2:SO-6,.2:SO-7,.2:TA-1,.2:TA-2,.2:TA-3,.2:TA-4,.2:TI-1,.2:TI-2,.2:TI-3,
.2:TI-4,.2:TI-5,.2:TI-6,.2:TI-7,.2:TU-1,.2:TU-2,.2:TU-3,.2:TU-4,.2:TU-TO,.2:TE-1,.2:TE-2,.2:TE-3,
.2:TE-4,.2:TE-5,.2:TE-6,.2:TE-7,.2:TE-8,.2:TE-9,.2:TO-1,.2:TO-2,.2:TO-3,.2:TO-4,.2:TO-5,.2:TO-6,
.2:TO-RA,.2:NA-1,.2:NA-2,.2:NA-3,.2:NA-4,.2:NA-5,.2:NA-6,.2:NA-7,.2:NA-8,.2:NA-9,.2:NI-1,.2:NI-2,
.2:NI-3,.2:NI-4,.2:NI-5,.2:NI-6,.2:NI-7,.2:NI-TE,.2:NU-1,.2:NU-2,.2:NU-3,.2:NE-1,.2:NE-2,.2:NE-3,
.2:NE-4,.2:NE-5,.2:NE-6,.2:NE-KO,.2:NO-1,.2:NO-2,.2:NO-3,.2:NO-4,.2:NO-5,.2:HA-1,.2:HA-2,.2:HA-3,
.2:HA-4,.2:HA-5,.2:HA-6,.2:HA-7,.2:HA-8,.2:HA-9,.2:HA-10,.2:HA-11,.2:HI-1,.2:HI-2,.2:HI-3,.2:HI-4,
.2:HI-5,.2:HI-6,.2:HI-7,.2:HU-1,.2:HU-2,.2:HU-3,.2:HE-1,.2:HE-2,.2:HE-3,.2:HE-4,.2:HE-5,.2:HE-6,
.2:HE-7,.2:HO-1,.2:HO-2,.2:HO-3,.2:HO-4,.2:HO-5,.2:HO-6,.2:HO-7,.2:HO-8,.2:MA-1,.2:MA-2,.2:MA-3,
.2:MA-4,.2:MA-5,.2:MA-6,.2:MA-7,.2:MI-1,.2:MI-2,.2:MI-3,.2:MI-4,.2:MI-5,.2:MI-6,.2:MI-7,.2:MU-1,
.2:MU-2,.2:MU-3,.2:MU-4,.2:ME-1,.2:ME-2,.2:ME-MA,.2:MO-1,.2:MO-2,.2:MO-3,.2:MO-4,.2:MO-5,.2:MO-6,
.2:YA-1,.2:YA-2,.2:YA-3,.2:YA-4,.2:YA-5,.2:YA-YO,.2:YU-1,.2:YU-2,.2:YU-3,.2:YU-4,.2:YO-1,.2:YO-2,
.2:YO-3,.2:YO-4,.2:YO-5,.2:YO-6,.2:RA-1,.2:RA-2,.2:RA-3,.2:RA-4,.2:RI-1,.2:RI-2,.2:RI-3,.2:RI-4,
.2:RI-5,.2:RI-6,.2:RI-7,.2:RU-1,.2:RU-2,.2:RU-3,.2:RU-4,.2:RU-5,.2:RU-6,.2:RE-1,.2:RE-2,.2:RE-3,
.2:RE-4,.2:RO-1,.2:RO-2,.2:RO-3,.2:RO-4,.2:RO-5,.2:RO-6,.2:WA-1,.2:WA-2,.2:WA-3,.2:WA-4,.2:WA-5,
.2:WI-1,.2:WI-2,.2:WI-3,.2:WI-4,.2:WI-5,.2:WE-1,.2:WE-2,.2:WE-3,.2:WE-4,.2:WO-1,.2:WO-2,.2:WO-3,
.2:WO-4,.2:WO-5,.2:WO-6,.2:WO-7,.2:N-MU-MO-1,.2:N-MU-MO-2,.:HIRAGANA LETTER ARCHAIC WU,
.:KATAKANA LETTER ARCHAIC YI,.3:YE,.3:WU,2E.:HIRAGANA LETTER SMALL WI,.3:WE,.3:WO,
12.:KATAKANA LETTER SMALL WI,.3:WE,.3:WO,.3:N,9.:NUSHU CHARACTER-1B170,.1:CHARACTER-1B171,
.1:CHARACTER-1B172,.1:CHARACTER-1B173,.1:CHARACTER-1B174,.1:CHARACTER-1B175,.1:CHARACTER-1B176,
.1:CHARACTER-1B177,.1:CHARACTER-1B178,.1:CHARACTER-1B179,.1:CHARACTER-1B17A,.1:CHARACTER-1B17B,
.1:CHARACTER-1B17C,.1:CHARACTER-1B17D,.1:CHARACTER-1B17E,.1:CHARACTER-1B17F,.1:CHARACTER-1B180,
.1:CHARACTER-1B181,.1:CHARACTER-1B182,.1:CHARACTER-1B183,.1:CHARACTER-1B184,.1:CHARACTER-1B185,
.1:CHARACTER-1B186,.1:CHARACTER-1B187,.1:CHARACTER-1B188,.1:CHARACTER-1B189,.1:CHARACTER-1B18A,
.1:CHARACTER-1B18B,.1:CHARACTER-1B18C,.1:CHARACTER-1B18D,.1:CHARACTER-1B18E,.1:CHARACTER-1B18F,
.1:CHARACTER-1B190,.1:CHARACTER-1B191,.1:CHARACTER-1B192,.1:CHARACTER-1B193,.1:CHARACTER-1B194,
.1:CHARACTER-1B195,.1:CHARACTER-1B196,.1:CHARACTER-1B197,.1:CHARACTER-1B198,.1:CHARACTER-1B199,
.1:CHARACTER-1B19A,.1:CHARACTER-1B19B,.1:CHARACTER-1B19C,.1:CHARACTER-1B19D,.1:CHARACTER-1B19E,
.1:CHARACTER-1B19F,.1:CHARACTER-1B1A0,.1:CHARACTER-1B1A1,.1:CHARACTER-1B1A2,.1:CHARACTER-1B1A3,"

end ServoScript.CharacterName
