import ServoScript.Text.Run
import ServoScript.Text.Quoted

/-!
# Characters in names of hosts

Which characters are the same in the name of a host, which ones may not stand in it, and in which
direction they are written.
-/

namespace ServoScript.Host

/-- The characters that count as others, or not at all. -/
def folding : List Run := Run.table "
  41*1A~61 AD~ B5~3BC C0*17~E0 D8*7~F8 DF~73+73 100/18~101 130~69+307 132/3~133 139/8~13A
  149~2BC+6E 14A/17~14B 178~FF 179/3~17A 17F~73 181~253 182/2~183 186~254 187~188 189*2~256
  18B~18C 18E~1DD 18F~259 190~25B 191~192 193~260 194~263 196~269 197~268 198~199 19C~26F
  19D~272 19F~275 1A0/3~1A1 1A6~280 1A7~1A8 1A9~283 1AC~1AD 1AE~288 1AF~1B0 1B1*2~28A
  1B3/2~1B4 1B7~292 1B8~1B9 1BC~1BD 1C4~1C6 1C5~1C6 1C7~1C9 1C8~1C9 1CA~1CC 1CB/9~1CC
  1DE/9~1DF 1F0~6A+30C 1F1~1F3 1F2/2~1F3 1F6~195 1F7~1BF 1F8/14~1F9 220~19E 222/9~223 23A~2C65
  23B~23C 23D~19A 23E~2C66 241~242 243~180 244~289 245~28C 246/5~247 345~3B9 34F~ 370/2~371
  376~377 37A~20+3B9 37F~3F3 386~3AC 388*3~3AD 38C~3CC 38E*2~3CD 390~3B9+308+301 391*11~3B1
  3A3*9~3C3 3B0~3C5+308+301 3C2~3C3 3CF~3D7 3D0~3B2 3D1~3B8 3D2~3C5 3D3~3CD 3D4~3CB 3D5~3C6
  3D6~3C0 3D8/C~3D9 3F0~3BA 3F1~3C1 3F2~3C3 3F4~3B8 3F5~3B5 3F7~3F8 3F9~3C3 3FA~3FB 3FD*3~37B
  400*10~450 410*20~430 460/11~461 48A/1B~48B 4C0~4CF 4C1/7~4C2 4D0/30~4D1 531*26~561
  587~565+582 10A0*26~2D00 10C7~2D27 10CD~2D2D 13A0*50~AB70 13F0*6~13F8 1806~ 180B~ 180C~
  180D~ 1C90*2B~10D0 1CBD*3~10FD 1E00/4B~1E01 1E96~68+331 1E97~74+308 1E98~77+30A 1E99~79+30A
  1E9A~61+2BE 1E9B~1E61 1E9E~73+73 1EA0/30~1EA1 1F08*8~1F00 1F18*6~1F10 1F28*8~1F20
  1F38*8~1F30 1F48*6~1F40 1F50~3C5+313 1F52~3C5+313+300 1F54~3C5+313+301 1F56~3C5+313+342
  1F59/4~1F51 1F68*8~1F60 1F80~1F00+3B9 1F81~1F01+3B9 1F82~1F02+3B9 1F83~1F03+3B9
  1F84~1F04+3B9 1F85~1F05+3B9 1F86~1F06+3B9 1F87~1F07+3B9 1F88~1F00+3B9 1F89~1F01+3B9
  1F8A~1F02+3B9 1F8B~1F03+3B9 1F8C~1F04+3B9 1F8D~1F05+3B9 1F8E~1F06+3B9 1F8F~1F07+3B9
  1F90~1F20+3B9 1F91~1F21+3B9 1F92~1F22+3B9 1F93~1F23+3B9 1F94~1F24+3B9 1F95~1F25+3B9
  1F96~1F26+3B9 1F97~1F27+3B9 1F98~1F20+3B9 1F99~1F21+3B9 1F9A~1F22+3B9 1F9B~1F23+3B9
  1F9C~1F24+3B9 1F9D~1F25+3B9 1F9E~1F26+3B9 1F9F~1F27+3B9 1FA0~1F60+3B9 1FA1~1F61+3B9
  1FA2~1F62+3B9 1FA3~1F63+3B9 1FA4~1F64+3B9 1FA5~1F65+3B9 1FA6~1F66+3B9 1FA7~1F67+3B9
  1FA8~1F60+3B9 1FA9~1F61+3B9 1FAA~1F62+3B9 1FAB~1F63+3B9 1FAC~1F64+3B9 1FAD~1F65+3B9
  1FAE~1F66+3B9 1FAF~1F67+3B9 1FB2~1F70+3B9 1FB3~3B1+3B9 1FB4~3AC+3B9 1FB6~3B1+342
  1FB7~3B1+342+3B9 1FB8*2~1FB0 1FBA*2~1F70 1FBC~3B1+3B9 1FBE~3B9 1FC2~1F74+3B9 1FC3~3B7+3B9
  1FC4~3AE+3B9 1FC6~3B7+342 1FC7~3B7+342+3B9 1FC8*4~1F72 1FCC~3B7+3B9 1FD2~3B9+308+300
  1FD3~3B9+308+301 1FD6~3B9+342 1FD7~3B9+308+342 1FD8*2~1FD0 1FDA*2~1F76 1FE2~3C5+308+300
  1FE3~3C5+308+301 1FE4~3C1+313 1FE6~3C5+342 1FE7~3C5+308+342 1FE8*2~1FE0 1FEA*2~1F7A
  1FEC~1FE5 1FF2~1F7C+3B9 1FF3~3C9+3B9 1FF4~3CE+3B9 1FF6~3C9+342 1FF7~3C9+342+3B9 1FF8*2~1F78
  1FFA*2~1F7C 1FFC~3C9+3B9 200B~ 200C~ 200D~ 2060~ 20A8~72+73 2102~63 2103~B0+63 2107~25B
  2109~B0+66 210B~68 210C~68 210D~68 2110~69 2111~69 2112~6C 2115~6E 2116~6E+6F 2119*3~70
  211C~72 211D~72 2120~73+6D 2121~74+65+6C 2122~74+6D 2124~7A 2126~3C9 2128~7A 212A~6B 212B~E5
  212C*2~62 2130*2~65 2132~214E 2133~6D 213E~3B3 213F~3C0 2145~64 2160*10~2170 2183~2184
  24B6*1A~24D0 2C00*30~2C30 2C60~2C61 2C62~26B 2C63~1D7D 2C64~27D 2C67/3~2C68 2C6D~251
  2C6E~271 2C6F~250 2C70~252 2C72~2C73 2C75~2C76 2C7E*2~23F 2C80/32~2C81 2CEB/2~2CEC 2CF2~2CF3
  3371~68+70+61 3373~61+75 3375~6F+76 3380~70+61 3381~6E+61 3382~3BC+61 3383~6D+61 3384~6B+61
  3385~6B+62 3386~6D+62 3387~67+62 338A~70+66 338B~6E+66 338C~3BC+66 3390~68+7A 3391~6B+68+7A
  3392~6D+68+7A 3393~67+68+7A 3394~74+68+7A 33A9~70+61 33AA~6B+70+61 33AB~6D+70+61
  33AC~67+70+61 33B4~70+76 33B5~6E+76 33B6~3BC+76 33B7~6D+76 33B8~6B+76 33B9~6D+76 33BA~70+77
  33BB~6E+77 33BC~3BC+77 33BD~6D+77 33BE~6B+77 33BF~6D+77 33C0~6B+3C9 33C1~6D+3C9 33C3~62+71
  33C6~63+2215+6B+67 33C7~63+6F+2E 33C8~64+62 33C9~67+79 33CB~68+70 33CD~6B+6B 33CE~6B+6D
  33D7~70+68 33D9~70+70+6D 33DA~70+72 33DC~73+76 33DD~77+62 A640/17~A641 A680/E~A681
  A722/7~A723 A732/1F~A733 A779/2~A77A A77D~1D79 A77E/5~A77F A78B~A78C A78D~265 A790/2~A791
  A796/A~A797 A7AA~266 A7AB~25C A7AC~261 A7AD~26C A7AE~26A A7B0~29E A7B1~287 A7B2~29D
  A7B3~AB53 A7B4/8~A7B5 A7C4~A794 A7C5~282 A7C6~1D8E A7C7/2~A7C8 A7D0~A7D1 A7D6/2~A7D7
  A7F5~A7F6 FB00~66+66 FB01~66+69 FB02~66+6C FB03~66+66+69 FB04~66+66+6C FB05~73+74 FB06~73+74
  FB13~574+576 FB14~574+565 FB15~574+56B FB16~57E+576 FB17~574+56D FE00~ FE01~ FE02~ FE03~
  FE04~ FE05~ FE06~ FE07~ FE08~ FE09~ FE0A~ FE0B~ FE0C~ FE0D~ FE0E~ FE0F~ FEFF~ FF21*1A~FF41
  10400*28~10428 104B0*24~104D8 10570*B~10597 1057C*F~105A3 1058C*7~105B3 10594*2~105BB
  10C80*33~10CC0 118A0*20~118C0 16E40*20~16E60 1D400*1A~61 1D434*1A~61 1D468*1A~61 1D49C/2~61
  1D49F~64 1D4A2~67 1D4A5*2~6A 1D4A9*4~6E 1D4AE*8~73 1D4D0*1A~61 1D504*2~61 1D507*4~64
  1D50D*8~6A 1D516*7~73 1D538*2~61 1D53B*4~64 1D540*5~69 1D546~6F 1D54A*7~73 1D56C*1A~61
  1D5A0*1A~61 1D5D4*1A~61 1D608*1A~61 1D63C*1A~61 1D670*1A~61 1D6A8*11~3B1 1D6B9~3B8
  1D6BA*7~3C3 1D6D3~3C3 1D6E2*11~3B1 1D6F3~3B8 1D6F4*7~3C3 1D70D~3C3 1D71C*11~3B1 1D72D~3B8
  1D72E*7~3C3 1D747~3C3 1D756*11~3B1 1D767~3B8 1D768*7~3C3 1D781~3C3 1D790*11~3B1 1D7A1~3B8
  1D7A2*7~3C3 1D7BB~3C3 1E900*22~1E922"

def prohibitedRanges : List (Nat × Nat) := [
  (0x80, 0xA0), (0x340, 0x341), (0x6DD, 0x6DD), (0x70F, 0x70F), (0x1680, 0x1680),
  (0x180E, 0x180E), (0x2000, 0x200F), (0x2028, 0x202F), (0x205F, 0x2063), (0x206A, 0x206F),
  (0x2FF0, 0x2FFB), (0x3000, 0x3000), (0xD800, 0xF8FF), (0xFDD0, 0xFDEF), (0xFEFF, 0xFEFF),
  (0xFFF9, 0xFFFF), (0x1D173, 0x1D17A), (0x1FFFE, 0x1FFFF), (0x2FFFE, 0x2FFFF),
  (0x3FFFE, 0x3FFFF), (0x4FFFE, 0x4FFFF), (0x5FFFE, 0x5FFFF), (0x6FFFE, 0x6FFFF),
  (0x7FFFE, 0x7FFFF), (0x8FFFE, 0x8FFFF), (0x9FFFE, 0x9FFFF), (0xAFFFE, 0xAFFFF),
  (0xBFFFE, 0xBFFFF), (0xCFFFE, 0xCFFFF), (0xDFFFE, 0xDFFFF), (0xE0001, 0xE0001),
  (0xE0020, 0xE007F), (0xEFFFE, 0x10FFFF)
]

def leftwardRanges : List (Nat × Nat) := [
  (0x5BE, 0x5BE), (0x5C0, 0x5C0), (0x5C3, 0x5C3), (0x5D0, 0x5EA), (0x5F0, 0x5F4),
  (0x61B, 0x61B), (0x61F, 0x61F), (0x621, 0x63A), (0x640, 0x64A), (0x66D, 0x66F),
  (0x671, 0x6D5), (0x6DD, 0x6DD), (0x6E5, 0x6E6), (0x6FA, 0x6FE), (0x700, 0x70D),
  (0x710, 0x710), (0x712, 0x72C), (0x780, 0x7A5), (0x7B1, 0x7B1), (0x200F, 0x200F),
  (0xFB1D, 0xFB1D), (0xFB1F, 0xFB28), (0xFB2A, 0xFB36), (0xFB38, 0xFB3C), (0xFB3E, 0xFB3E),
  (0xFB40, 0xFB41), (0xFB43, 0xFB44), (0xFB46, 0xFBB1), (0xFBD3, 0xFD3D), (0xFD50, 0xFD8F),
  (0xFD92, 0xFDC7), (0xFDF0, 0xFDFC), (0xFE70, 0xFE74), (0xFE76, 0xFEFC)
]

def rightwardRanges : List (Nat × Nat) := [
  (0x41, 0x5A), (0x61, 0x7A), (0xAA, 0xAA), (0xB5, 0xB5), (0xBA, 0xBA), (0xC0, 0xD6),
  (0xD8, 0xF6), (0xF8, 0x220), (0x222, 0x233), (0x250, 0x2AD), (0x2B0, 0x2B8), (0x2BB, 0x2C1),
  (0x2D0, 0x2D1), (0x2E0, 0x2E4), (0x2EE, 0x2EE), (0x37A, 0x37A), (0x386, 0x386),
  (0x388, 0x38A), (0x38C, 0x38C), (0x38E, 0x3A1), (0x3A3, 0x3CE), (0x3D0, 0x3F5),
  (0x400, 0x482), (0x48A, 0x4CE), (0x4D0, 0x4F5), (0x4F8, 0x4F9), (0x500, 0x50F),
  (0x531, 0x556), (0x559, 0x55F), (0x561, 0x587), (0x589, 0x589), (0x903, 0x903),
  (0x905, 0x939), (0x93D, 0x940), (0x949, 0x94C), (0x950, 0x950), (0x958, 0x961),
  (0x964, 0x970), (0x982, 0x983), (0x985, 0x98C), (0x98F, 0x990), (0x993, 0x9A8),
  (0x9AA, 0x9B0), (0x9B2, 0x9B2), (0x9B6, 0x9B9), (0x9BE, 0x9C0), (0x9C7, 0x9C8),
  (0x9CB, 0x9CC), (0x9D7, 0x9D7), (0x9DC, 0x9DD), (0x9DF, 0x9E1), (0x9E6, 0x9F1),
  (0x9F4, 0x9FA), (0xA05, 0xA0A), (0xA0F, 0xA10), (0xA13, 0xA28), (0xA2A, 0xA30),
  (0xA32, 0xA33), (0xA35, 0xA36), (0xA38, 0xA39), (0xA3E, 0xA40), (0xA59, 0xA5C),
  (0xA5E, 0xA5E), (0xA66, 0xA6F), (0xA72, 0xA74), (0xA83, 0xA83), (0xA85, 0xA8B),
  (0xA8D, 0xA8D), (0xA8F, 0xA91), (0xA93, 0xAA8), (0xAAA, 0xAB0), (0xAB2, 0xAB3),
  (0xAB5, 0xAB9), (0xABD, 0xAC0), (0xAC9, 0xAC9), (0xACB, 0xACC), (0xAD0, 0xAD0),
  (0xAE0, 0xAE0), (0xAE6, 0xAEF), (0xB02, 0xB03), (0xB05, 0xB0C), (0xB0F, 0xB10),
  (0xB13, 0xB28), (0xB2A, 0xB30), (0xB32, 0xB33), (0xB36, 0xB39), (0xB3D, 0xB3E),
  (0xB40, 0xB40), (0xB47, 0xB48), (0xB4B, 0xB4C), (0xB57, 0xB57), (0xB5C, 0xB5D),
  (0xB5F, 0xB61), (0xB66, 0xB70), (0xB83, 0xB83), (0xB85, 0xB8A), (0xB8E, 0xB90),
  (0xB92, 0xB95), (0xB99, 0xB9A), (0xB9C, 0xB9C), (0xB9E, 0xB9F), (0xBA3, 0xBA4),
  (0xBA8, 0xBAA), (0xBAE, 0xBB5), (0xBB7, 0xBB9), (0xBBE, 0xBBF), (0xBC1, 0xBC2),
  (0xBC6, 0xBC8), (0xBCA, 0xBCC), (0xBD7, 0xBD7), (0xBE7, 0xBF2), (0xC01, 0xC03),
  (0xC05, 0xC0C), (0xC0E, 0xC10), (0xC12, 0xC28), (0xC2A, 0xC33), (0xC35, 0xC39),
  (0xC41, 0xC44), (0xC60, 0xC61), (0xC66, 0xC6F), (0xC82, 0xC83), (0xC85, 0xC8C),
  (0xC8E, 0xC90), (0xC92, 0xCA8), (0xCAA, 0xCB3), (0xCB5, 0xCB9), (0xCBE, 0xCBE),
  (0xCC0, 0xCC4), (0xCC7, 0xCC8), (0xCCA, 0xCCB), (0xCD5, 0xCD6), (0xCDE, 0xCDE),
  (0xCE0, 0xCE1), (0xCE6, 0xCEF), (0xD02, 0xD03), (0xD05, 0xD0C), (0xD0E, 0xD10),
  (0xD12, 0xD28), (0xD2A, 0xD39), (0xD3E, 0xD40), (0xD46, 0xD48), (0xD4A, 0xD4C),
  (0xD57, 0xD57), (0xD60, 0xD61), (0xD66, 0xD6F), (0xD82, 0xD83), (0xD85, 0xD96),
  (0xD9A, 0xDB1), (0xDB3, 0xDBB), (0xDBD, 0xDBD), (0xDC0, 0xDC6), (0xDCF, 0xDD1),
  (0xDD8, 0xDDF), (0xDF2, 0xDF4), (0xE01, 0xE30), (0xE32, 0xE33), (0xE40, 0xE46),
  (0xE4F, 0xE5B), (0xE81, 0xE82), (0xE84, 0xE84), (0xE87, 0xE88), (0xE8A, 0xE8A),
  (0xE8D, 0xE8D), (0xE94, 0xE97), (0xE99, 0xE9F), (0xEA1, 0xEA3), (0xEA5, 0xEA5),
  (0xEA7, 0xEA7), (0xEAA, 0xEAB), (0xEAD, 0xEB0), (0xEB2, 0xEB3), (0xEBD, 0xEBD),
  (0xEC0, 0xEC4), (0xEC6, 0xEC6), (0xED0, 0xED9), (0xEDC, 0xEDD), (0xF00, 0xF17),
  (0xF1A, 0xF34), (0xF36, 0xF36), (0xF38, 0xF38), (0xF3E, 0xF47), (0xF49, 0xF6A),
  (0xF7F, 0xF7F), (0xF85, 0xF85), (0xF88, 0xF8B), (0xFBE, 0xFC5), (0xFC7, 0xFCC),
  (0xFCF, 0xFCF), (0x1000, 0x1021), (0x1023, 0x1027), (0x1029, 0x102A), (0x102C, 0x102C),
  (0x1031, 0x1031), (0x1038, 0x1038), (0x1040, 0x1057), (0x10A0, 0x10C5), (0x10D0, 0x10F8),
  (0x10FB, 0x10FB), (0x1100, 0x1159), (0x115F, 0x11A2), (0x11A8, 0x11F9), (0x1200, 0x1206),
  (0x1208, 0x1246), (0x1248, 0x1248), (0x124A, 0x124D), (0x1250, 0x1256), (0x1258, 0x1258),
  (0x125A, 0x125D), (0x1260, 0x1286), (0x1288, 0x1288), (0x128A, 0x128D), (0x1290, 0x12AE),
  (0x12B0, 0x12B0), (0x12B2, 0x12B5), (0x12B8, 0x12BE), (0x12C0, 0x12C0), (0x12C2, 0x12C5),
  (0x12C8, 0x12CE), (0x12D0, 0x12D6), (0x12D8, 0x12EE), (0x12F0, 0x130E), (0x1310, 0x1310),
  (0x1312, 0x1315), (0x1318, 0x131E), (0x1320, 0x1346), (0x1348, 0x135A), (0x1361, 0x137C),
  (0x13A0, 0x13F4), (0x1401, 0x1676), (0x1681, 0x169A), (0x16A0, 0x16F0), (0x1700, 0x170C),
  (0x170E, 0x1711), (0x1720, 0x1731), (0x1735, 0x1736), (0x1740, 0x1751), (0x1760, 0x176C),
  (0x176E, 0x1770), (0x1780, 0x17B6), (0x17BE, 0x17C5), (0x17C7, 0x17C8), (0x17D4, 0x17DA),
  (0x17DC, 0x17DC), (0x17E0, 0x17E9), (0x1810, 0x1819), (0x1820, 0x1877), (0x1880, 0x18A8),
  (0x1E00, 0x1E9B), (0x1EA0, 0x1EF9), (0x1F00, 0x1F15), (0x1F18, 0x1F1D), (0x1F20, 0x1F45),
  (0x1F48, 0x1F4D), (0x1F50, 0x1F57), (0x1F59, 0x1F59), (0x1F5B, 0x1F5B), (0x1F5D, 0x1F5D),
  (0x1F5F, 0x1F7D), (0x1F80, 0x1FB4), (0x1FB6, 0x1FBC), (0x1FBE, 0x1FBE), (0x1FC2, 0x1FC4),
  (0x1FC6, 0x1FCC), (0x1FD0, 0x1FD3), (0x1FD6, 0x1FDB), (0x1FE0, 0x1FEC), (0x1FF2, 0x1FF4),
  (0x1FF6, 0x1FFC), (0x200E, 0x200E), (0x2071, 0x2071), (0x207F, 0x207F), (0x2102, 0x2102),
  (0x2107, 0x2107), (0x210A, 0x2113), (0x2115, 0x2115), (0x2119, 0x211D), (0x2124, 0x2124),
  (0x2126, 0x2126), (0x2128, 0x2128), (0x212A, 0x212D), (0x212F, 0x2131), (0x2133, 0x2139),
  (0x213D, 0x213F), (0x2145, 0x2149), (0x2160, 0x2183), (0x2336, 0x237A), (0x2395, 0x2395),
  (0x249C, 0x24E9), (0x3005, 0x3007), (0x3021, 0x3029), (0x3031, 0x3035), (0x3038, 0x303C),
  (0x3041, 0x3096), (0x309D, 0x309F), (0x30A1, 0x30FA), (0x30FC, 0x30FF), (0x3105, 0x312C),
  (0x3131, 0x318E), (0x3190, 0x31B7), (0x31F0, 0x321C), (0x3220, 0x3243), (0x3260, 0x327B),
  (0x327F, 0x32B0), (0x32C0, 0x32CB), (0x32D0, 0x32FE), (0x3300, 0x3376), (0x337B, 0x33DD),
  (0x33E0, 0x33FE), (0x3400, 0x4DB5), (0x4E00, 0x9FA5), (0xA000, 0xA48C), (0xAC00, 0xD7A3),
  (0xD800, 0xFA2D), (0xFA30, 0xFA6A), (0xFB00, 0xFB06), (0xFB13, 0xFB17), (0xFF21, 0xFF3A),
  (0xFF41, 0xFF5A), (0xFF66, 0xFFBE), (0xFFC2, 0xFFC7), (0xFFCA, 0xFFCF), (0xFFD2, 0xFFD7),
  (0xFFDA, 0xFFDC), (0x10300, 0x1031E), (0x10320, 0x10323), (0x10330, 0x1034A),
  (0x10400, 0x10425), (0x10428, 0x1044D), (0x1D000, 0x1D0F5), (0x1D100, 0x1D126),
  (0x1D12A, 0x1D166), (0x1D16A, 0x1D172), (0x1D183, 0x1D184), (0x1D18C, 0x1D1A9),
  (0x1D1AE, 0x1D1DD), (0x1D400, 0x1D454), (0x1D456, 0x1D49C), (0x1D49E, 0x1D49F),
  (0x1D4A2, 0x1D4A2), (0x1D4A5, 0x1D4A6), (0x1D4A9, 0x1D4AC), (0x1D4AE, 0x1D4B9),
  (0x1D4BB, 0x1D4BB), (0x1D4BD, 0x1D4C0), (0x1D4C2, 0x1D4C3), (0x1D4C5, 0x1D505),
  (0x1D507, 0x1D50A), (0x1D50D, 0x1D514), (0x1D516, 0x1D51C), (0x1D51E, 0x1D539),
  (0x1D53B, 0x1D53E), (0x1D540, 0x1D544), (0x1D546, 0x1D546), (0x1D54A, 0x1D550),
  (0x1D552, 0x1D6A3), (0x1D6A8, 0x1D7C9), (0x20000, 0x2A6D6), (0x2F800, 0x2FA1D),
  (0xF0000, 0xFFFFD), (0x100000, 0x10FFFD)
]

end ServoScript.Host
