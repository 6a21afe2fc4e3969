import NoteVault.Text.Digit
import NoteVault.Text.Range

/-!
What the characters of a domain name stand for: small letters for capital letters, plain letters
and digits for their variants, a full stop for other full stops, and nothing for some characters.
-/

namespace NoteVault.Uri.Domain

/--
Replacements: the code point of a character and, for it and its successors, the code points of the
texts that they stand for.
-/
def replacements : List (Nat × String) :=
  [(0xA0, "20"), (0xA8, "20+308"), (0xAA, "61"), (0xAF, "20+304"), (0xB2, "32 33 20+301 3BC"),
   (0xB8, "20+327 31 6F"), (0xBC, "31+2044+34 31+2044+32 33+2044+34"),
   (0xC0, "E0 E1 E2 E3 E4 E5 E6 E7 E8 E9 EA EB EC ED EE EF F0 F1 F2 F3 F4 F5 F6"),
   (0xD8, "F8 F9 FA FB FC FD FE"), (0x100, "101"), (0x102, "103"), (0x104, "105"), (0x106, "107"),
   (0x108, "109"), (0x10A, "10B"), (0x10C, "10D"), (0x10E, "10F"), (0x110, "111"), (0x112, "113"),
   (0x114, "115"), (0x116, "117"), (0x118, "119"), (0x11A, "11B"), (0x11C, "11D"), (0x11E, "11F"),
   (0x120, "121"), (0x122, "123"), (0x124, "125"), (0x126, "127"), (0x128, "129"), (0x12A, "12B"),
   (0x12C, "12D"), (0x12E, "12F"), (0x130, "69+307"), (0x132, "69+6A 69+6A 135"), (0x136, "137"),
   (0x139, "13A"), (0x13B, "13C"), (0x13D, "13E"), (0x13F, "6C+B7 6C+B7 142"), (0x143, "144"),
   (0x145, "146"), (0x147, "148"), (0x149, "2BC+6E 14B"), (0x14C, "14D"), (0x14E, "14F"),
   (0x150, "151"), (0x152, "153"), (0x154, "155"), (0x156, "157"), (0x158, "159"), (0x15A, "15B"),
   (0x15C, "15D"), (0x15E, "15F"), (0x160, "161"), (0x162, "163"), (0x164, "165"), (0x166, "167"),
   (0x168, "169"), (0x16A, "16B"), (0x16C, "16D"), (0x16E, "16F"), (0x170, "171"), (0x172, "173"),
   (0x174, "175"), (0x176, "177"), (0x178, "FF 17A"), (0x17B, "17C"), (0x17D, "17E"), (0x17F, "73"),
   (0x181, "253 183"), (0x184, "185"), (0x186, "254 188"), (0x189, "256 257 18C"),
   (0x18E, "1DD 259 25B 192"), (0x193, "260 263"), (0x196, "269 268 199"), (0x19C, "26F 272"),
   (0x19F, "275 1A1"), (0x1A2, "1A3"), (0x1A4, "1A5"), (0x1A6, "280 1A8"), (0x1A9, "283"),
   (0x1AC, "1AD"), (0x1AE, "288 1B0"), (0x1B1, "28A 28B 1B4"), (0x1B5, "1B6"), (0x1B7, "292 1B9"),
   (0x1BC, "1BD"), (0x1C4, "64+17E 64+17E 64+17E 6C+6A 6C+6A 6C+6A 6E+6A 6E+6A 6E+6A 1CE"),
   (0x1CF, "1D0"), (0x1D1, "1D2"), (0x1D3, "1D4"), (0x1D5, "1D6"), (0x1D7, "1D8"), (0x1D9, "1DA"),
   (0x1DB, "1DC"), (0x1DE, "1DF"), (0x1E0, "1E1"), (0x1E2, "1E3"), (0x1E4, "1E5"), (0x1E6, "1E7"),
   (0x1E8, "1E9"), (0x1EA, "1EB"), (0x1EC, "1ED"), (0x1EE, "1EF"), (0x1F1, "64+7A 64+7A 64+7A 1F5"),
   (0x1F6, "195 1BF 1F9"), (0x1FA, "1FB"), (0x1FC, "1FD"), (0x1FE, "1FF"), (0x200, "201"),
   (0x202, "203"), (0x204, "205"), (0x206, "207"), (0x208, "209"), (0x20A, "20B"), (0x20C, "20D"),
   (0x20E, "20F"), (0x210, "211"), (0x212, "213"), (0x214, "215"), (0x216, "217"), (0x218, "219"),
   (0x21A, "21B"), (0x21C, "21D"), (0x21E, "21F"), (0x220, "19E"), (0x222, "223"), (0x224, "225"),
   (0x226, "227"), (0x228, "229"), (0x22A, "22B"), (0x22C, "22D"), (0x22E, "22F"), (0x230, "231"),
   (0x232, "233"), (0x23A, "2C65 23C"), (0x23D, "19A 2C66"), (0x241, "242"),
   (0x243, "180 289 28C 247"), (0x248, "249"), (0x24A, "24B"), (0x24C, "24D"), (0x24E, "24F"),
   (0x2B0, "68 266 6A 72 279 27B 281 77 79"), (0x2D8, "20+306 20+307 20+30A 20+328 20+303 20+30B"),
   (0x2E0, "263 6C 73 78 295"), (0x340, "300 301"), (0x343, "313 308+301 3B9"), (0x370, "371"),
   (0x372, "373"), (0x374, "2B9"), (0x376, "377"), (0x37A, "20+3B9"), (0x37E, "3B 3F3"),
   (0x384, "20+301 20+308+301 3AC B7 3AD 3AE 3AF"), (0x38C, "3CC"), (0x38E, "3CD 3CE"),
   (0x391, "3B1 3B2 3B3 3B4 3B5 3B6 3B7 3B8 3B9 3BA 3BB 3BC 3BD 3BE 3BF 3C0 3C1"),
   (0x3A3, "3C3 3C4 3C5 3C6 3C7 3C8 3C9 3CA 3CB"), (0x3CF, "3D7 3B2 3B8 3C5 3CD 3CB 3C6 3C0"),
   (0x3D8, "3D9"), (0x3DA, "3DB"), (0x3DC, "3DD"), (0x3DE, "3DF"), (0x3E0, "3E1"), (0x3E2, "3E3"),
   (0x3E4, "3E5"), (0x3E6, "3E7"), (0x3E8, "3E9"), (0x3EA, "3EB"), (0x3EC, "3ED"), (0x3EE, "3EF"),
   (0x3F0, "3BA 3C1 3C3"), (0x3F4, "3B8 3B5"), (0x3F7, "3F8"), (0x3F9, "3C3 3FB"),
   (0x3FD, "37B 37C 37D 450 451 452 453 454 455 456 457 458 459 45A 45B 45C 45D 45E 45F 430 431"),
   (0x412, "432 433 434 435 436 437 438 439 43A 43B 43C 43D 43E 43F 440 441 442 443 444 445 446"),
   (0x427, "447 448 449 44A 44B 44C 44D 44E 44F"), (0x460, "461"), (0x462, "463"), (0x464, "465"),
   (0x466, "467"), (0x468, "469"), (0x46A, "46B"), (0x46C, "46D"), (0x46E, "46F"), (0x470, "471"),
   (0x472, "473"), (0x474, "475"), (0x476, "477"), (0x478, "479"), (0x47A, "47B"), (0x47C, "47D"),
   (0x47E, "47F"), (0x480, "481"), (0x48A, "48B"), (0x48C, "48D"), (0x48E, "48F"), (0x490, "491"),
   (0x492, "493"), (0x494, "495"), (0x496, "497"), (0x498, "499"), (0x49A, "49B"), (0x49C, "49D"),
   (0x49E, "49F"), (0x4A0, "4A1"), (0x4A2, "4A3"), (0x4A4, "4A5"), (0x4A6, "4A7"), (0x4A8, "4A9"),
   (0x4AA, "4AB"), (0x4AC, "4AD"), (0x4AE, "4AF"), (0x4B0, "4B1"), (0x4B2, "4B3"), (0x4B4, "4B5"),
   (0x4B6, "4B7"), (0x4B8, "4B9"), (0x4BA, "4BB"), (0x4BC, "4BD"), (0x4BE, "4BF"),
   (0x4C0, "4CF 4C2"), (0x4C3, "4C4"), (0x4C5, "4C6"), (0x4C7, "4C8"), (0x4C9, "4CA"),
   (0x4CB, "4CC"), (0x4CD, "4CE"), (0x4D0, "4D1"), (0x4D2, "4D3"), (0x4D4, "4D5"), (0x4D6, "4D7"),
   (0x4D8, "4D9"), (0x4DA, "4DB"), (0x4DC, "4DD"), (0x4DE, "4DF"), (0x4E0, "4E1"), (0x4E2, "4E3"),
   (0x4E4, "4E5"), (0x4E6, "4E7"), (0x4E8, "4E9"), (0x4EA, "4EB"), (0x4EC, "4ED"), (0x4EE, "4EF"),
   (0x4F0, "4F1"), (0x4F2, "4F3"), (0x4F4, "4F5"), (0x4F6, "4F7"), (0x4F8, "4F9"), (0x4FA, "4FB"),
   (0x4FC, "4FD"), (0x4FE, "4FF"), (0x500, "501"), (0x502, "503"), (0x504, "505"), (0x506, "507"),
   (0x508, "509"), (0x50A, "50B"), (0x50C, "50D"), (0x50E, "50F"), (0x510, "511"), (0x512, "513"),
   (0x514, "515"), (0x516, "517"), (0x518, "519"), (0x51A, "51B"), (0x51C, "51D"), (0x51E, "51F"),
   (0x520, "521"), (0x522, "523"), (0x524, "525"), (0x526, "527"), (0x528, "529"), (0x52A, "52B"),
   (0x52C, "52D"), (0x52E, "52F"),
   (0x531, "561 562 563 564 565 566 567 568 569 56A 56B 56C 56D 56E 56F 570 571 572 573 574 575"),
   (0x546, "576 577 578 579 57A 57B 57C 57D 57E 57F 580 581 582 583 584 585 586"),
   (0x587, "565+582"), (0x675, "627+674 648+674 6C7+674 64A+674"),
   (0x958, "915+93C 916+93C 917+93C 91C+93C 921+93C 922+93C 92B+93C 92F+93C"),
   (0x9DC, "9A1+9BC 9A2+9BC"), (0x9DF, "9AF+9BC"), (0xA33, "A32+A3C"), (0xA36, "A38+A3C"),
   (0xA59, "A16+A3C A17+A3C A1C+A3C"), (0xA5E, "A2B+A3C"), (0xB5C, "B21+B3C B22+B3C"),
   (0xE33, "E4D+E32"), (0xEB3, "ECD+EB2"), (0xEDC, "EAB+E99 EAB+EA1"), (0xF0C, "F0B"),
   (0xF43, "F42+FB7"), (0xF4D, "F4C+FB7"), (0xF52, "F51+FB7"), (0xF57, "F56+FB7"),
   (0xF5C, "F5B+FB7"), (0xF69, "F40+FB5"), (0xF73, "F71+F72"),
   (0xF75, "F71+F74 FB2+F80 FB2+F71+F80 FB3+F80 FB3+F71+F80"), (0xF81, "F71+F80"),
   (0xF93, "F92+FB7"), (0xF9D, "F9C+FB7"), (0xFA2, "FA1+FB7"), (0xFA7, "FA6+FB7"),
   (0xFAC, "FAB+FB7"), (0xFB9, "F90+FB5"),
   (0x10A0, "2D00 2D01 2D02 2D03 2D04 2D05 2D06 2D07 2D08 2D09 2D0A 2D0B 2D0C 2D0D 2D0E 2D0F 2D10"),
   (0x10B1, "2D11 2D12 2D13 2D14 2D15 2D16 2D17 2D18 2D19 2D1A 2D1B 2D1C 2D1D 2D1E 2D1F 2D20 2D21"),
   (0x10C2, "2D22 2D23 2D24 2D25"), (0x10C7, "2D27"), (0x10CD, "2D2D"), (0x10FC, "10DC"),
   (0x13F8, "13F0 13F1 13F2 13F3 13F4 13F5"), (0x1C80, "432 434 43E 441 442 442 44A 463 A64B 1C8A"),
   (0x1C90, "10D0 10D1 10D2 10D3 10D4 10D5 10D6 10D7 10D8 10D9 10DA 10DB 10DC 10DD 10DE 10DF 10E0"),
   (0x1CA1, "10E1 10E2 10E3 10E4 10E5 10E6 10E7 10E8 10E9 10EA 10EB 10EC 10ED 10EE 10EF 10F0 10F1"),
   (0x1CB2, "10F2 10F3 10F4 10F5 10F6 10F7 10F8 10F9 10FA"), (0x1CBD, "10FD 10FE 10FF"),
   (0x1D2C, "61 E6 62"), (0x1D30, "64 65 1DD 67 68 69 6A 6B 6C 6D 6E"),
   (0x1D3C, "6F 223 70 72 74 75 77 61 250 251 1D02 62 64 65 259 25B 25C 67"),
   (0x1D4F, "6B 6D 14B 6F 254 1D16 1D17 70 74 75 1D1D 26F 76 1D25 3B2 3B3 3B4 3C6 3C7 69 72 75 76"),
   (0x1D66, "3B2 3B3 3C1 3C6 3C7"), (0x1D78, "43D"),
   (0x1D9B, "252 63 255 F0 25C 66 25F 261 265 268 269 26A 1D7B 29D 26D 1D85 29F 271 270 272 273"),
   (0x1DB0, "274 275 278 282 283 1AB 289 28A 1D1C 28B 28C 7A 290 291 292 3B8"), (0x1E00, "1E01"),
   (0x1E02, "1E03"), (0x1E04, "1E05"), (0x1E06, "1E07"), (0x1E08, "1E09"), (0x1E0A, "1E0B"),
   (0x1E0C, "1E0D"), (0x1E0E, "1E0F"), (0x1E10, "1E11"), (0x1E12, "1E13"), (0x1E14, "1E15"),
   (0x1E16, "1E17"), (0x1E18, "1E19"), (0x1E1A, "1E1B"), (0x1E1C, "1E1D"), (0x1E1E, "1E1F"),
   (0x1E20, "1E21"), (0x1E22, "1E23"), (0x1E24, "1E25"), (0x1E26, "1E27"), (0x1E28, "1E29"),
   (0x1E2A, "1E2B"), (0x1E2C, "1E2D"), (0x1E2E, "1E2F"), (0x1E30, "1E31"), (0x1E32, "1E33"),
   (0x1E34, "1E35"), (0x1E36, "1E37"), (0x1E38, "1E39"), (0x1E3A, "1E3B"), (0x1E3C, "1E3D"),
   (0x1E3E, "1E3F"), (0x1E40, "1E41"), (0x1E42, "1E43"), (0x1E44, "1E45"), (0x1E46, "1E47"),
   (0x1E48, "1E49"), (0x1E4A, "1E4B"), (0x1E4C, "1E4D"), (0x1E4E, "1E4F"), (0x1E50, "1E51"),
   (0x1E52, "1E53"), (0x1E54, "1E55"), (0x1E56, "1E57"), (0x1E58, "1E59"), (0x1E5A, "1E5B"),
   (0x1E5C, "1E5D"), (0x1E5E, "1E5F"), (0x1E60, "1E61"), (0x1E62, "1E63"), (0x1E64, "1E65"),
   (0x1E66, "1E67"), (0x1E68, "1E69"), (0x1E6A, "1E6B"), (0x1E6C, "1E6D"), (0x1E6E, "1E6F"),
   (0x1E70, "1E71"), (0x1E72, "1E73"), (0x1E74, "1E75"), (0x1E76, "1E77"), (0x1E78, "1E79"),
   (0x1E7A, "1E7B"), (0x1E7C, "1E7D"), (0x1E7E, "1E7F"), (0x1E80, "1E81"), (0x1E82, "1E83"),
   (0x1E84, "1E85"), (0x1E86, "1E87"), (0x1E88, "1E89"), (0x1E8A, "1E8B"), (0x1E8C, "1E8D"),
   (0x1E8E, "1E8F"), (0x1E90, "1E91"), (0x1E92, "1E93"), (0x1E94, "1E95"), (0x1E9A, "61+2BE 1E61"),
   (0x1E9E, "DF"), (0x1EA0, "1EA1"), (0x1EA2, "1EA3"), (0x1EA4, "1EA5"), (0x1EA6, "1EA7"),
   (0x1EA8, "1EA9"), (0x1EAA, "1EAB"), (0x1EAC, "1EAD"), (0x1EAE, "1EAF"), (0x1EB0, "1EB1"),
   (0x1EB2, "1EB3"), (0x1EB4, "1EB5"), (0x1EB6, "1EB7"), (0x1EB8, "1EB9"), (0x1EBA, "1EBB"),
   (0x1EBC, "1EBD"), (0x1EBE, "1EBF"), (0x1EC0, "1EC1"), (0x1EC2, "1EC3"), (0x1EC4, "1EC5"),
   (0x1EC6, "1EC7"), (0x1EC8, "1EC9"), (0x1ECA, "1ECB"), (0x1ECC, "1ECD"), (0x1ECE, "1ECF"),
   (0x1ED0, "1ED1"), (0x1ED2, "1ED3"), (0x1ED4, "1ED5"), (0x1ED6, "1ED7"), (0x1ED8, "1ED9"),
   (0x1EDA, "1EDB"), (0x1EDC, "1EDD"), (0x1EDE, "1EDF"), (0x1EE0, "1EE1"), (0x1EE2, "1EE3"),
   (0x1EE4, "1EE5"), (0x1EE6, "1EE7"), (0x1EE8, "1EE9"), (0x1EEA, "1EEB"), (0x1EEC, "1EED"),
   (0x1EEE, "1EEF"), (0x1EF0, "1EF1"), (0x1EF2, "1EF3"), (0x1EF4, "1EF5"), (0x1EF6, "1EF7"),
   (0x1EF8, "1EF9"), (0x1EFA, "1EFB"), (0x1EFC, "1EFD"), (0x1EFE, "1EFF"),
   (0x1F08, "1F00 1F01 1F02 1F03 1F04 1F05 1F06 1F07"), (0x1F18, "1F10 1F11 1F12 1F13 1F14 1F15"),
   (0x1F28, "1F20 1F21 1F22 1F23 1F24 1F25 1F26 1F27"),
   (0x1F38, "1F30 1F31 1F32 1F33 1F34 1F35 1F36 1F37"), (0x1F48, "1F40 1F41 1F42 1F43 1F44 1F45"),
   (0x1F59, "1F51"), (0x1F5B, "1F53"), (0x1F5D, "1F55"), (0x1F5F, "1F57"),
   (0x1F68, "1F60 1F61 1F62 1F63 1F64 1F65 1F66 1F67"), (0x1F71, "3AC"), (0x1F73, "3AD"),
   (0x1F75, "3AE"), (0x1F77, "3AF"), (0x1F79, "3CC"), (0x1F7B, "3CD"), (0x1F7D, "3CE"),
   (0x1F80, "1F00+3B9 1F01+3B9 1F02+3B9 1F03+3B9 1F04+3B9 1F05+3B9 1F06+3B9 1F07+3B9 1F00+3B9"),
   (0x1F89, "1F01+3B9 1F02+3B9 1F03+3B9 1F04+3B9 1F05+3B9 1F06+3B9 1F07+3B9 1F20+3B9 1F21+3B9"),
   (0x1F92, "1F22+3B9 1F23+3B9 1F24+3B9 1F25+3B9 1F26+3B9 1F27+3B9 1F20+3B9 1F21+3B9 1F22+3B9"),
   (0x1F9B, "1F23+3B9 1F24+3B9 1F25+3B9 1F26+3B9 1F27+3B9 1F60+3B9 1F61+3B9 1F62+3B9 1F63+3B9"),
   (0x1FA4, "1F64+3B9 1F65+3B9 1F66+3B9 1F67+3B9 1F60+3B9 1F61+3B9 1F62+3B9 1F63+3B9 1F64+3B9"),
   (0x1FAD, "1F65+3B9 1F66+3B9 1F67+3B9"), (0x1FB2, "1F70+3B9 3B1+3B9 3AC+3B9"),
   (0x1FB7, "1FB6+3B9 1FB0 1FB1 1F70 3AC 3B1+3B9 20+313 3B9 20+313 20+342 20+308+342 1F74+3B9"),
   (0x1FC3, "3B7+3B9 3AE+3B9"),
   (0x1FC7, "1FC6+3B9 1F72 3AD 1F74 3AE 3B7+3B9 20+313+300 20+313+301 20+313+342"), (0x1FD3, "390"),
   (0x1FD8, "1FD0 1FD1 1F76 3AF"), (0x1FDD, "20+314+300 20+314+301 20+314+342"), (0x1FE3, "3B0"),
   (0x1FE8, "1FE0 1FE1 1F7A 3CD 1FE5 20+308+300 20+308+301 60"),
   (0x1FF2, "1F7C+3B9 3C9+3B9 3CE+3B9"),
   (0x1FF7, "1FF6+3B9 1F78 3CC 1F7C 3CE 3C9+3B9 20+301 20+314"),
   (0x2000, "20 20 20 20 20 20 20 20 20 20 20"), (0x2011, "2010"), (0x2017, "20+333"),
   (0x202F, "20"), (0x2033, "2032+2032 2032+2032+2032"), (0x2036, "2035+2035 2035+2035+2035"),
   (0x203C, "21+21"), (0x203E, "20+305"), (0x2047, "3F+3F 3F+21 21+3F"),
   (0x2057, "2032+2032+2032+2032"), (0x205F, "20"), (0x2070, "30 69"),
   (0x2074, "34 35 36 37 38 39 2B 2212 3D 28 29 6E 30 31 32 33 34 35 36 37 38 39 2B 2212 3D 28 29"),
   (0x2090, "61 65 6F 78 259 68 6B 6C 6D 6E 70 73 74"), (0x20A8, "72+73"),
   (0x2100, "61+2F+63 61+2F+73 63 B0+63"), (0x2105, "63+2F+6F 63+2F+75 25B"),
   (0x2109, "B0+66 67 68 68 68 68 127 69 69 6C 6C"), (0x2115, "6E 6E+6F"),
   (0x2119, "70 71 72 72 72"), (0x2120, "73+6D 74+65+6C 74+6D"), (0x2124, "7A"), (0x2126, "3C9"),
   (0x2128, "7A"), (0x212A, "6B E5 62 63"), (0x212F, "65 65 66 214E 6D 6F 5D0 5D1 5D2 5D3 69"),
   (0x213B, "66+61+78 3C0 3B3 3B3 3C0 2211"), (0x2145, "64 64 65 69 6A"),
   (0x2150, "31+2044+37 31+2044+39 31+2044+31+30 31+2044+33 32+2044+33 31+2044+35 32+2044+35"),
   (0x2157, "33+2044+35 34+2044+35 31+2044+36 35+2044+36 31+2044+38 33+2044+38 35+2044+38"),
   (0x215E, "37+2044+38 31+2044 69 69+69 69+69+69 69+76 76 76+69 76+69+69 76+69+69+69 69+78 78"),
   (0x216A, "78+69 78+69+69 6C 63 64 6D 69 69+69 69+69+69 69+76 76 76+69 76+69+69 76+69+69+69"),
   (0x2178, "69+78 78 78+69 78+69+69 6C 63 64 6D"), (0x2183, "2184"), (0x2189, "30+2044+33"),
   (0x222C, "222B+222B 222B+222B+222B"), (0x222F, "222E+222E 222E+222E+222E"),
   (0x2329, "3008 3009"),
   (0x2460, "31 32 33 34 35 36 37 38 39 31+30 31+31 31+32 31+33 31+34 31+35 31+36 31+37 31+38"),
   (0x2472, "31+39 32+30 28+31+29 28+32+29 28+33+29 28+34+29 28+35+29 28+36+29 28+37+29 28+38+29"),
   (0x247C, "28+39+29 28+31+30+29 28+31+31+29 28+31+32+29 28+31+33+29 28+31+34+29 28+31+35+29"),
   (0x2483, "28+31+36+29 28+31+37+29 28+31+38+29 28+31+39+29 28+32+30+29"),
   (0x249C, "28+61+29 28+62+29 28+63+29 28+64+29 28+65+29 28+66+29 28+67+29 28+68+29 28+69+29"),
   (0x24A5, "28+6A+29 28+6B+29 28+6C+29 28+6D+29 28+6E+29 28+6F+29 28+70+29 28+71+29 28+72+29"),
   (0x24AE, "28+73+29 28+74+29 28+75+29 28+76+29 28+77+29 28+78+29 28+79+29 28+7A+29 61 62 63 64"),
   (0x24BA, "65 66 67 68 69 6A 6B 6C 6D 6E 6F 70 71 72 73 74 75 76 77 78 79 7A 61 62 63 64 65 66"),
   (0x24D6, "67 68 69 6A 6B 6C 6D 6E 6F 70 71 72 73 74 75 76 77 78 79 7A 30"),
   (0x2A0C, "222B+222B+222B+222B"), (0x2A74, "3A+3A+3D 3D+3D 3D+3D+3D"), (0x2ADC, "2ADD+338"),
   (0x2C00, "2C30 2C31 2C32 2C33 2C34 2C35 2C36 2C37 2C38 2C39 2C3A 2C3B 2C3C 2C3D 2C3E 2C3F 2C40"),
   (0x2C11, "2C41 2C42 2C43 2C44 2C45 2C46 2C47 2C48 2C49 2C4A 2C4B 2C4C 2C4D 2C4E 2C4F 2C50 2C51"),
   (0x2C22, "2C52 2C53 2C54 2C55 2C56 2C57 2C58 2C59 2C5A 2C5B 2C5C 2C5D 2C5E 2C5F"),
   (0x2C60, "2C61"), (0x2C62, "26B 1D7D 27D"), (0x2C67, "2C68"), (0x2C69, "2C6A"), (0x2C6B, "2C6C"),
   (0x2C6D, "251 271 250 252"), (0x2C72, "2C73"), (0x2C75, "2C76"), (0x2C7C, "6A 76 23F 240 2C81"),
   (0x2C82, "2C83"), (0x2C84, "2C85"), (0x2C86, "2C87"), (0x2C88, "2C89"), (0x2C8A, "2C8B"),
   (0x2C8C, "2C8D"), (0x2C8E, "2C8F"), (0x2C90, "2C91"), (0x2C92, "2C93"), (0x2C94, "2C95"),
   (0x2C96, "2C97"), (0x2C98, "2C99"), (0x2C9A, "2C9B"), (0x2C9C, "2C9D"), (0x2C9E, "2C9F"),
   (0x2CA0, "2CA1"), (0x2CA2, "2CA3"), (0x2CA4, "2CA5"), (0x2CA6, "2CA7"), (0x2CA8, "2CA9"),
   (0x2CAA, "2CAB"), (0x2CAC, "2CAD"), (0x2CAE, "2CAF"), (0x2CB0, "2CB1"), (0x2CB2, "2CB3"),
   (0x2CB4, "2CB5"), (0x2CB6, "2CB7"), (0x2CB8, "2CB9"), (0x2CBA, "2CBB"), (0x2CBC, "2CBD"),
   (0x2CBE, "2CBF"), (0x2CC0, "2CC1"), (0x2CC2, "2CC3"), (0x2CC4, "2CC5"), (0x2CC6, "2CC7"),
   (0x2CC8, "2CC9"), (0x2CCA, "2CCB"), (0x2CCC, "2CCD"), (0x2CCE, "2CCF"), (0x2CD0, "2CD1"),
   (0x2CD2, "2CD3"), (0x2CD4, "2CD5"), (0x2CD6, "2CD7"), (0x2CD8, "2CD9"), (0x2CDA, "2CDB"),
   (0x2CDC, "2CDD"), (0x2CDE, "2CDF"), (0x2CE0, "2CE1"), (0x2CE2, "2CE3"), (0x2CEB, "2CEC"),
   (0x2CED, "2CEE"), (0x2CF2, "2CF3"), (0x2D6F, "2D61"), (0x2E9F, "6BCD"), (0x2EF3, "9F9F"),
   (0x2F00, "4E00 4E28 4E36 4E3F 4E59 4E85 4E8C 4EA0 4EBA 513F 5165 516B 5182 5196 51AB 51E0 51F5"),
   (0x2F11, "5200 529B 52F9 5315 531A 5338 5341 535C 5369 5382 53B6 53C8 53E3 56D7 571F 58EB 5902"),
   (0x2F22, "590A 5915 5927 5973 5B50 5B80 5BF8 5C0F 5C22 5C38 5C6E 5C71 5DDB 5DE5 5DF1 5DFE 5E72"),
   (0x2F33, "5E7A 5E7F 5EF4 5EFE 5F0B 5F13 5F50 5F61 5F73 5FC3 6208 6236 624B 652F 6534 6587 6597"),
   (0x2F44, "65A4 65B9 65E0 65E5 66F0 6708 6728 6B20 6B62 6B79 6BB3 6BCB 6BD4 6BDB 6C0F 6C14 6C34"),
   (0x2F55, "706B 722A 7236 723B 723F 7247 7259 725B 72AC 7384 7389 74DC 74E6 7518 751F 7528 7530"),
   (0x2F66, "758B 7592 7676 767D 76AE 76BF 76EE 77DB 77E2 77F3 793A 79B8 79BE 7A74 7ACB 7AF9 7C73"),
   (0x2F77, "7CF8 7F36 7F51 7F8A 7FBD 8001 800C 8012 8033 807F 8089 81E3 81EA 81F3 81FC 820C 821B"),
   (0x2F88, "821F 826E 8272 8278 864D 866B 8840 884C 8863 897E 898B 89D2 8A00 8C37 8C46 8C55 8C78"),
   (0x2F99, "8C9D 8D64 8D70 8DB3 8EAB 8ECA 8F9B 8FB0 8FB5 9091 9149 91C6 91CC 91D1 9577 9580 961C"),
   (0x2FAA, "96B6 96B9 96E8 9751 975E 9762 9769 97CB 97ED 97F3 9801 98A8 98DB 98DF 9996 9999 99AC"),
   (0x2FBB, "9AA8 9AD8 9ADF 9B25 9B2F 9B32 9B3C 9B5A 9CE5 9E75 9E7F 9EA5 9EBB 9EC3 9ECD 9ED1 9EF9"),
   (0x2FCC, "9EFD 9F0E 9F13 9F20 9F3B 9F4A 9F52 9F8D 9F9C 9FA0"), (0x3000, "20"), (0x3002, "2E"),
   (0x3036, "3012"), (0x3038, "5341 5344 5345"), (0x309B, "20+3099 20+309A"), (0x309F, "3088+308A"),
   (0x30FF, "30B3+30C8"),
   (0x3131, "1100 1101 11AA 1102 11AC 11AD 1103 1104 1105 11B0 11B1 11B2 11B3 11B4 11B5 111A 1106"),
   (0x3142, "1107 1108 1121 1109 110A 110B 110C 110D 110E 110F 1110 1111 1112 1161 1162 1163 1164"),
   (0x3153, "1165 1166 1167 1168 1169 116A 116B 116C 116D 116E 116F 1170 1171 1172 1173 1174 1175"),
   (0x3165, "1114 1115 11C7 11C8 11CC 11CE 11D3 11D7 11D9 111C 11DD 11DF 111D 111E 1120 1122 1123"),
   (0x3176, "1127 1129 112B 112C 112D 112E 112F 1132 1136 1140 1147 114C 11F1 11F2 1157 1158 1159"),
   (0x3187, "1184 1185 1188 1191 1192 1194 119E 11A1"),
   (0x3192, "4E00 4E8C 4E09 56DB 4E0A 4E2D 4E0B 7532 4E59 4E19 4E01 5929 5730 4EBA"),
   (0x3200, "28+1100+29 28+1102+29 28+1103+29 28+1105+29 28+1106+29 28+1107+29 28+1109+29"),
   (0x3207, "28+110B+29 28+110C+29 28+110E+29 28+110F+29 28+1110+29 28+1111+29 28+1112+29"),
   (0x320E, "28+AC00+29 28+B098+29 28+B2E4+29 28+B77C+29 28+B9C8+29 28+BC14+29 28+C0AC+29"),
   (0x3215, "28+C544+29 28+C790+29 28+CC28+29 28+CE74+29 28+D0C0+29 28+D30C+29 28+D558+29"),
   (0x321C, "28+C8FC+29 28+C624+C804+29 28+C624+D6C4+29"),
   (0x3220, "28+4E00+29 28+4E8C+29 28+4E09+29 28+56DB+29 28+4E94+29 28+516D+29 28+4E03+29"),
   (0x3227, "28+516B+29 28+4E5D+29 28+5341+29 28+6708+29 28+706B+29 28+6C34+29 28+6728+29"),
   (0x322E, "28+91D1+29 28+571F+29 28+65E5+29 28+682A+29 28+6709+29 28+793E+29 28+540D+29"),
   (0x3235, "28+7279+29 28+8CA1+29 28+795D+29 28+52B4+29 28+4EE3+29 28+547C+29 28+5B66+29"),
   (0x323C, "28+76E3+29 28+4F01+29 28+8CC7+29 28+5354+29 28+796D+29 28+4F11+29 28+81EA+29"),
   (0x3243, "28+81F3+29 554F 5E7C 6587 7B8F"),
   (0x3250, "70+74+65 32+31 32+32 32+33 32+34 32+35 32+36 32+37 32+38 32+39 33+30 33+31 33+32"),
   (0x325D, "33+33 33+34 33+35 1100 1102 1103 1105 1106 1107 1109 110B 110C 110E 110F 1110 1111"),
   (0x326D, "1112 AC00 B098 B2E4 B77C B9C8 BC14 C0AC C544 C790 CC28 CE74 D0C0 D30C D558 CC38+ACE0"),
   (0x327D, "C8FC+C758 C6B0"),
   (0x3280, "4E00 4E8C 4E09 56DB 4E94 516D 4E03 516B 4E5D 5341 6708 706B 6C34 6728 91D1 571F 65E5"),
   (0x3291, "682A 6709 793E 540D 7279 8CA1 795D 52B4 79D8 7537 5973 9069 512A 5370 6CE8 9805 4F11"),
   (0x32A2, "5199 6B63 4E0A 4E2D 4E0B 5DE6 53F3 533B 5B97 5B66 76E3 4F01 8CC7 5354 591C 33+36"),
   (0x32B2, "33+37 33+38 33+39 34+30 34+31 34+32 34+33 34+34 34+35 34+36 34+37 34+38 34+39 35+30"),
   (0x32C0, "31+6708 32+6708 33+6708 34+6708 35+6708 36+6708 37+6708 38+6708 39+6708 31+30+6708"),
   (0x32CA, "31+31+6708 31+32+6708 68+67 65+72+67 65+76 6C+74+64 30A2 30A4 30A6 30A8 30AA 30AB"),
   (0x32D6, "30AD 30AF 30B1 30B3 30B5 30B7 30B9 30BB 30BD 30BF 30C1 30C4 30C6 30C8 30CA 30CB 30CC"),
   (0x32E7, "30CD 30CE 30CF 30D2 30D5 30D8 30DB 30DE 30DF 30E0 30E1 30E2 30E4 30E6 30E8 30E9 30EA"),
   (0x32F8, "30EB 30EC 30ED 30EF 30F0 30F1 30F2 4EE4+548C 30A2+30D1+30FC+30C8 30A2+30EB+30D5+30A1"),
   (0x3302, "30A2+30F3+30DA+30A2 30A2+30FC+30EB 30A4+30CB+30F3+30B0 30A4+30F3+30C1 30A6+30A9+30F3"),
   (0x3307, "30A8+30B9+30AF+30FC+30C9 30A8+30FC+30AB+30FC 30AA+30F3+30B9 30AA+30FC+30E0"),
   (0x330B, "30AB+30A4+30EA 30AB+30E9+30C3+30C8 30AB+30ED+30EA+30FC 30AC+30ED+30F3 30AC+30F3+30DE"),
   (0x3310, "30AE+30AC 30AE+30CB+30FC 30AD+30E5+30EA+30FC 30AE+30EB+30C0+30FC 30AD+30ED"),
   (0x3315, "30AD+30ED+30B0+30E9+30E0 30AD+30ED+30E1+30FC+30C8+30EB 30AD+30ED+30EF+30C3+30C8"),
   (0x3318, "30B0+30E9+30E0 30B0+30E9+30E0+30C8+30F3 30AF+30EB+30BC+30A4+30ED 30AF+30ED+30FC+30CD"),
   (0x331C, "30B1+30FC+30B9 30B3+30EB+30CA 30B3+30FC+30DD 30B5+30A4+30AF+30EB"),
   (0x3320, "30B5+30F3+30C1+30FC+30E0 30B7+30EA+30F3+30B0 30BB+30F3+30C1 30BB+30F3+30C8"),
   (0x3324, "30C0+30FC+30B9 30C7+30B7 30C9+30EB 30C8+30F3 30CA+30CE 30CE+30C3+30C8 30CF+30A4+30C4"),
   (0x332B, "30D1+30FC+30BB+30F3+30C8 30D1+30FC+30C4 30D0+30FC+30EC+30EB 30D4+30A2+30B9+30C8+30EB"),
   (0x332F, "30D4+30AF+30EB 30D4+30B3 30D3+30EB 30D5+30A1+30E9+30C3+30C9 30D5+30A3+30FC+30C8"),
   (0x3334, "30D6+30C3+30B7+30A7+30EB 30D5+30E9+30F3 30D8+30AF+30BF+30FC+30EB 30DA+30BD"),
   (0x3338, "30DA+30CB+30D2 30D8+30EB+30C4 30DA+30F3+30B9 30DA+30FC+30B8 30D9+30FC+30BF"),
   (0x333D, "30DD+30A4+30F3+30C8 30DC+30EB+30C8 30DB+30F3 30DD+30F3+30C9 30DB+30FC+30EB"),
   (0x3342, "30DB+30FC+30F3 30DE+30A4+30AF+30ED 30DE+30A4+30EB 30DE+30C3+30CF 30DE+30EB+30AF"),
   (0x3347, "30DE+30F3+30B7+30E7+30F3 30DF+30AF+30ED+30F3 30DF+30EA 30DF+30EA+30D0+30FC+30EB"),
   (0x334B, "30E1+30AC 30E1+30AC+30C8+30F3 30E1+30FC+30C8+30EB 30E4+30FC+30C9 30E4+30FC+30EB"),
   (0x3350, "30E6+30A2+30F3 30EA+30C3+30C8+30EB 30EA+30E9 30EB+30D4+30FC 30EB+30FC+30D6+30EB"),
   (0x3355, "30EC+30E0 30EC+30F3+30C8+30B2+30F3 30EF+30C3+30C8 30+70B9 31+70B9 32+70B9 33+70B9"),
   (0x335C, "34+70B9 35+70B9 36+70B9 37+70B9 38+70B9 39+70B9 31+30+70B9 31+31+70B9 31+32+70B9"),
   (0x3365, "31+33+70B9 31+34+70B9 31+35+70B9 31+36+70B9 31+37+70B9 31+38+70B9 31+39+70B9"),
   (0x336C, "32+30+70B9 32+31+70B9 32+32+70B9 32+33+70B9 32+34+70B9 68+70+61 64+61 61+75 62+61+72"),
   (0x3375, "6F+76 70+63 64+6D 64+6D+32 64+6D+33 69+75 5E73+6210 662D+548C 5927+6B63 660E+6CBB"),
   (0x337F, "682A+5F0F+4F1A+793E 70+61 6E+61 3BC+61 6D+61 6B+61 6B+62 6D+62 67+62 63+61+6C"),
   (0x3389, "6B+63+61+6C 70+66 6E+66 3BC+66 3BC+67 6D+67 6B+67 68+7A 6B+68+7A 6D+68+7A 67+68+7A"),
   (0x3394, "74+68+7A 3BC+6C 6D+6C 64+6C 6B+6C 66+6D 6E+6D 3BC+6D 6D+6D 63+6D 6B+6D 6D+6D+32"),
   (0x33A0, "63+6D+32 6D+32 6B+6D+32 6D+6D+33 63+6D+33 6D+33 6B+6D+33 6D+2215+73 6D+2215+73+32"),
   (0x33A9, "70+61 6B+70+61 6D+70+61 67+70+61 72+61+64 72+61+64+2215+73 72+61+64+2215+73+32 70+73"),
   (0x33B1, "6E+73 3BC+73 6D+73 70+76 6E+76 3BC+76 6D+76 6B+76 6D+76 70+77 6E+77 3BC+77 6D+77"),
   (0x33BE, "6B+77 6D+77 6B+3C9 6D+3C9"), (0x33C3, "62+71 63+63 63+64 63+2215+6B+67"),
   (0x33C8, "64+62 67+79 68+61 68+70 69+6E 6B+6B 6B+6D 6B+74 6C+6D 6C+6E 6C+6F+67 6C+78 6D+62"),
   (0x33D5, "6D+69+6C 6D+6F+6C 70+68"),
   (0x33D9, "70+70+6D 70+72 73+72 73+76 77+62 76+2215+6D 61+2215+6D 31+65E5 32+65E5 33+65E5"),
   (0x33E3, "34+65E5 35+65E5 36+65E5 37+65E5 38+65E5 39+65E5 31+30+65E5 31+31+65E5 31+32+65E5"),
   (0x33EC, "31+33+65E5 31+34+65E5 31+35+65E5 31+36+65E5 31+37+65E5 31+38+65E5 31+39+65E5"),
   (0x33F3, "32+30+65E5 32+31+65E5 32+32+65E5 32+33+65E5 32+34+65E5 32+35+65E5 32+36+65E5"),
   (0x33FA, "32+37+65E5 32+38+65E5 32+39+65E5 33+30+65E5 33+31+65E5 67+61+6C"), (0xA640, "A641"),
   (0xA642, "A643"), (0xA644, "A645"), (0xA646, "A647"), (0xA648, "A649"), (0xA64A, "A64B"),
   (0xA64C, "A64D"), (0xA64E, "A64F"), (0xA650, "A651"), (0xA652, "A653"), (0xA654, "A655"),
   (0xA656, "A657"), (0xA658, "A659"), (0xA65A, "A65B"), (0xA65C, "A65D"), (0xA65E, "A65F"),
   (0xA660, "A661"), (0xA662, "A663"), (0xA664, "A665"), (0xA666, "A667"), (0xA668, "A669"),
   (0xA66A, "A66B"), (0xA66C, "A66D"), (0xA680, "A681"), (0xA682, "A683"), (0xA684, "A685"),
   (0xA686, "A687"), (0xA688, "A689"), (0xA68A, "A68B"), (0xA68C, "A68D"), (0xA68E, "A68F"),
   (0xA690, "A691"), (0xA692, "A693"), (0xA694, "A695"), (0xA696, "A697"), (0xA698, "A699"),
   (0xA69A, "A69B"), (0xA69C, "44A 44C"), (0xA722, "A723"), (0xA724, "A725"), (0xA726, "A727"),
   (0xA728, "A729"), (0xA72A, "A72B"), (0xA72C, "A72D"), (0xA72E, "A72F"), (0xA732, "A733"),
   (0xA734, "A735"), (0xA736, "A737"), (0xA738, "A739"), (0xA73A, "A73B"), (0xA73C, "A73D"),
   (0xA73E, "A73F"), (0xA740, "A741"), (0xA742, "A743"), (0xA744, "A745"), (0xA746, "A747"),
   (0xA748, "A749"), (0xA74A, "A74B"), (0xA74C, "A74D"), (0xA74E, "A74F"), (0xA750, "A751"),
   (0xA752, "A753"), (0xA754, "A755"), (0xA756, "A757"), (0xA758, "A759"), (0xA75A, "A75B"),
   (0xA75C, "A75D"), (0xA75E, "A75F"), (0xA760, "A761"), (0xA762, "A763"), (0xA764, "A765"),
   (0xA766, "A767"), (0xA768, "A769"), (0xA76A, "A76B"), (0xA76C, "A76D"), (0xA76E, "A76F"),
   (0xA770, "A76F"), (0xA779, "A77A"), (0xA77B, "A77C"), (0xA77D, "1D79 A77F"), (0xA780, "A781"),
   (0xA782, "A783"), (0xA784, "A785"), (0xA786, "A787"), (0xA78B, "A78C"), (0xA78D, "265"),
   (0xA790, "A791"), (0xA792, "A793"), (0xA796, "A797"), (0xA798, "A799"), (0xA79A, "A79B"),
   (0xA79C, "A79D"), (0xA79E, "A79F"), (0xA7A0, "A7A1"), (0xA7A2, "A7A3"), (0xA7A4, "A7A5"),
   (0xA7A6, "A7A7"), (0xA7A8, "A7A9"), (0xA7AA, "266 25C 261 26C 26A"),
   (0xA7B0, "29E 287 29D AB53 A7B5"), (0xA7B6, "A7B7"), (0xA7B8, "A7B9"), (0xA7BA, "A7BB"),
   (0xA7BC, "A7BD"), (0xA7BE, "A7BF"), (0xA7C0, "A7C1"), (0xA7C2, "A7C3"),
   (0xA7C4, "A794 282 1D8E A7C8"), (0xA7C9, "A7CA"), (0xA7CB, "264 A7CD"), (0xA7CE, "A7CF"),
   (0xA7D0, "A7D1"), (0xA7D2, "A7D3"), (0xA7D4, "A7D5"), (0xA7D6, "A7D7"), (0xA7D8, "A7D9"),
   (0xA7DA, "A7DB"), (0xA7DC, "19B"), (0xA7F1, "73 63 66 71 A7F6"), (0xA7F8, "127 153"),
   (0xAB5C, "A727 AB37 26B AB52"), (0xAB69, "28D"),
   (0xAB70, "13A0 13A1 13A2 13A3 13A4 13A5 13A6 13A7 13A8 13A9 13AA 13AB 13AC 13AD 13AE 13AF 13B0"),
   (0xAB81, "13B1 13B2 13B3 13B4 13B5 13B6 13B7 13B8 13B9 13BA 13BB 13BC 13BD 13BE 13BF 13C0 13C1"),
   (0xAB92, "13C2 13C3 13C4 13C5 13C6 13C7 13C8 13C9 13CA 13CB 13CC 13CD 13CE 13CF 13D0 13D1 13D2"),
   (0xABA3, "13D3 13D4 13D5 13D6 13D7 13D8 13D9 13DA 13DB 13DC 13DD 13DE 13DF 13E0 13E1 13E2 13E3"),
   (0xABB4, "13E4 13E5 13E6 13E7 13E8 13E9 13EA 13EB 13EC 13ED 13EE 13EF"),
   (0xF900, "8C48 66F4 8ECA 8CC8 6ED1 4E32 53E5 9F9C 9F9C 5951 91D1 5587 5948 61F6 7669 7F85 863F"),
   (0xF911, "87BA 88F8 908F 6A02 6D1B 70D9 73DE 843D 916A 99F1 4E82 5375 6B04 721B 862D 9E1E 5D50"),
   (0xF922, "6FEB 85CD 8964 62C9 81D8 881F 5ECA 6717 6D6A 72FC 90CE 4F86 51B7 52DE 64C4 6AD3 7210"),
   (0xF933, "76E7 8001 8606 865C 8DEF 9732 9B6F 9DFA 788C 797F 7DA0 83C9 9304 9E7F 8AD6 58DF 5F04"),
   (0xF944, "7C60 807E 7262 78CA 8CC2 96F7 58D8 5C62 6A13 6DDA 6F0F 7D2F 7E37 964B 52D2 808B 51DC"),
   (0xF955, "51CC 7A1C 7DBE 83F1 9675 8B80 62CF 6A02 8AFE 4E39 5BE7 6012 7387 7570 5317 78FB 4FBF"),
   (0xF966, "5FA9 4E0D 6CCC 6578 7D22 53C3 585E 7701 8449 8AAA 6BBA 8FB0 6C88 62FE 82E5 63A0 7565"),
   (0xF977, "4EAE 5169 51C9 6881 7CE7 826F 8AD2 91CF 52F5 5442 5973 5EEC 65C5 6FFE 792A 95AD 9A6A"),
   (0xF988, "9E97 9ECE 529B 66C6 6B77 8F62 5E74 6190 6200 649A 6F23 7149 7489 79CA 7DF4 806F 8F26"),
   (0xF999, "84EE 9023 934A 5217 52A3 54BD 70C8 88C2 8AAA 5EC9 5FF5 637B 6BAE 7C3E 7375 4EE4 56F9"),
   (0xF9AA, "5BE7 5DBA 601C 73B2 7469 7F9A 8046 9234 96F6 9748 9818 4F8B 79AE 91B4 96B8 60E1 4E86"),
   (0xF9BB, "50DA 5BEE 5C3F 6599 6A02 71CE 7642 84FC 907C 9F8D 6688 962E 5289 677B 67F3 6D41 6E9C"),
   (0xF9CC, "7409 7559 786B 7D10 985E 516D 622E 9678 502B 5D19 6DEA 8F2A 5F8B 6144 6817 7387 9686"),
   (0xF9DD, "5229 540F 5C65 6613 674E 68A8 6CE5 7406 75E2 7F79 88CF 88E1 91CC 96E2 533F 6EBA 541D"),
   (0xF9EE, "71D0 7498 85FA 96A3 9C57 9E9F 6797 6DCB 81E8 7ACB 7B20 7C92 72C0 7099 8B58 4EC0 8336"),
   (0xF9FF, "523A 5207 5EA6 62D3 7CD6 5B85 6D1E 66B4 8F3B 884C 964D 898B 5ED3 5140 55C0"),
   (0xFA10, "585A"), (0xFA12, "6674"),
   (0xFA15, "51DE 732A 76CA 793C 795E 7965 798F 9756 7CBE 7FBD"), (0xFA20, "8612"),
   (0xFA22, "8AF8"), (0xFA25, "9038 90FD"),
   (0xFA2A, "98EF 98FC 9928 9DB4 90DE 96B7 4FAE 50E7 514D 52C9 52E4 5351 559D 5606 5668 5840 58A8"),
   (0xFA3B, "5C64 5C6E 6094 6168 618E 61F2 654F 65E2 6691 6885 6D77 6E1A 6F22 716E 722B 7422 7891"),
   (0xFA4C, "793E 7949 7948 7950 7956 795D 798D 798E 7A40 7A81 7BC0 7DF4 7E09 7E41 7F72 8005 81ED"),
   (0xFA5D, "8279 8279 8457 8910 8996 8B01 8B39 8CD3 8D08 8FB6 9038 96E3 97FF 983B 6075 242EE"),
   (0xFA6D, "8218"),
   (0xFA70, "4E26 51B5 5168 4F80 5145 5180 52C7 52FA 559D 5555 5599 55E2 585A 58B3 5944 5954 5A62"),
   (0xFA81, "5B28 5ED2 5ED9 5F69 5FAD 60D8 614E 6108 618E 6160 61F2 6234 63C4 641C 6452 6556 6674"),
   (0xFA92, "6717 671B 6756 6B79 6BBA 6D41 6EDB 6ECB 6F22 701E 716E 77A7 7235 72AF 732A 7471 7506"),
   (0xFAA3, "753B 761D 761F 76CA 76DB 76F4 774A 7740 78CC 7AB1 7BC0 7C7B 7D5B 7DF4 7F3E 8005 8352"),
   (0xFAB4, "83EF 8779 8941 8986 8996 8ABF 8AF8 8ACB 8B01 8AFE 8AED 8B39 8B8A 8D08 8F38 9072 9199"),
   (0xFAC5, "9276 967C 96E3 9756 97DB 97FF 980B 983B 9B12 9F9C 2284A 22844 233D5 3B9D 4018 4039"),
   (0xFAD5, "25249 25CD0 27ED3 9F43 9F8E"),
   (0xFB00, "66+66 66+69 66+6C 66+66+69 66+66+6C 73+74 73+74"),
   (0xFB13, "574+576 574+565 574+56B 57E+576 574+56D"), (0xFB1D, "5D9+5B4"),
   (0xFB1F, "5F2+5B7 5E2 5D0 5D3 5D4 5DB 5DC 5DD 5E8 5EA 2B 5E9+5C1 5E9+5C2 5E9+5BC+5C1"),
   (0xFB2D, "5E9+5BC+5C2 5D0+5B7 5D0+5B8 5D0+5BC 5D1+5BC 5D2+5BC 5D3+5BC 5D4+5BC 5D5+5BC 5D6+5BC"),
   (0xFB38, "5D8+5BC 5D9+5BC 5DA+5BC 5DB+5BC 5DC+5BC"), (0xFB3E, "5DE+5BC"),
   (0xFB40, "5E0+5BC 5E1+5BC"), (0xFB43, "5E3+5BC 5E4+5BC"),
   (0xFB46, "5E6+5BC 5E7+5BC 5E8+5BC 5E9+5BC 5EA+5BC 5D5+5B9 5D1+5BF 5DB+5BF 5E4+5BF 5D0+5DC 671"),
   (0xFB51, "671 67B 67B 67B 67B 67E 67E 67E 67E 680 680 680 680 67A 67A 67A 67A 67F 67F 67F 67F"),
   (0xFB66, "679 679 679 679 6A4 6A4 6A4 6A4 6A6 6A6 6A6 6A6 684 684 684 684 683 683 683 683 686"),
   (0xFB7B, "686 686 686 687 687 687 687 68D 68D 68C 68C 68E 68E 688 688 698 698 691 691 6A9 6A9"),
   (0xFB90, "6A9 6A9 6AF 6AF 6AF 6AF 6B3 6B3 6B3 6B3 6B1 6B1 6B1 6B1 6BA 6BA 6BB 6BB 6BB 6BB 6C0"),
   (0xFBA5, "6C0 6C1 6C1 6C1 6C1 6BE 6BE 6BE 6BE 6D2 6D2 6D3 6D3"),
   (0xFBD3, "6AD 6AD 6AD 6AD 6C7 6C7 6C6 6C6 6C8 6C8 6C7+674 6CB 6CB 6C5 6C5 6C9 6C9 6D0 6D0 6D0"),
   (0xFBE7, "6D0 649 649 626+627 626+627 626+6D5 626+6D5 626+648 626+648 626+6C7 626+6C7 626+6C6"),
   (0xFBF3, "626+6C6 626+6C8 626+6C8 626+6D0 626+6D0 626+6D0 626+649 626+649 626+649 6CC 6CC 6CC"),
   (0xFBFF, "6CC 626+62C 626+62D 626+645 626+649 626+64A 628+62C 628+62D 628+62E 628+645 628+649"),
   (0xFC0A, "628+64A 62A+62C 62A+62D 62A+62E 62A+645 62A+649 62A+64A 62B+62C 62B+645 62B+649"),
   (0xFC14, "62B+64A 62C+62D 62C+645 62D+62C 62D+645 62E+62C 62E+62D 62E+645 633+62C 633+62D"),
   (0xFC1E, "633+62E 633+645 635+62D 635+645 636+62C 636+62D 636+62E 636+645 637+62D 637+645"),
   (0xFC28, "638+645 639+62C 639+645 63A+62C 63A+645 641+62C 641+62D 641+62E 641+645 641+649"),
   (0xFC32, "641+64A 642+62D 642+645 642+649 642+64A 643+627 643+62C 643+62D 643+62E 643+644"),
   (0xFC3C, "643+645 643+649 643+64A 644+62C 644+62D 644+62E 644+645 644+649 644+64A 645+62C"),
   (0xFC46, "645+62D 645+62E 645+645 645+649 645+64A 646+62C 646+62D 646+62E 646+645 646+649"),
   (0xFC50, "646+64A 647+62C 647+645 647+649 647+64A 64A+62C 64A+62D 64A+62E 64A+645 64A+649"),
   (0xFC5A, "64A+64A 630+670 631+670 649+670 20+64C+651 20+64D+651 20+64E+651 20+64F+651"),
   (0xFC62, "20+650+651 20+651+670 626+631 626+632 626+645 626+646 626+649 626+64A 628+631"),
   (0xFC6B, "628+632 628+645 628+646 628+649 628+64A 62A+631 62A+632 62A+645 62A+646 62A+649"),
   (0xFC75, "62A+64A 62B+631 62B+632 62B+645 62B+646 62B+649 62B+64A 641+649 641+64A 642+649"),
   (0xFC7F, "642+64A 643+627 643+644 643+645 643+649 643+64A 644+645 644+649 644+64A 645+627"),
   (0xFC89, "645+645 646+631 646+632 646+645 646+646 646+649 646+64A 649+670 64A+631 64A+632"),
   (0xFC93, "64A+645 64A+646 64A+649 64A+64A 626+62C 626+62D 626+62E 626+645 626+647 628+62C"),
   (0xFC9D, "628+62D 628+62E 628+645 628+647 62A+62C 62A+62D 62A+62E 62A+645 62A+647 62B+645"),
   (0xFCA7, "62C+62D 62C+645 62D+62C 62D+645 62E+62C 62E+645 633+62C 633+62D 633+62E 633+645"),
   (0xFCB1, "635+62D 635+62E 635+645 636+62C 636+62D 636+62E 636+645 637+62D 638+645 639+62C"),
   (0xFCBB, "639+645 63A+62C 63A+645 641+62C 641+62D 641+62E 641+645 642+62D 642+645 643+62C"),
   (0xFCC5, "643+62D 643+62E 643+644 643+645 644+62C 644+62D 644+62E 644+645 644+647 645+62C"),
   (0xFCCF, "645+62D 645+62E 645+645 646+62C 646+62D 646+62E 646+645 646+647 647+62C 647+645"),
   (0xFCD9, "647+670 64A+62C 64A+62D 64A+62E 64A+645 64A+647 626+645 626+647 628+645 628+647"),
   (0xFCE3, "62A+645 62A+647 62B+645 62B+647 633+645 633+647 634+645 634+647 643+644 643+645"),
   (0xFCED, "644+645 646+645 646+647 64A+645 64A+647 640+64E+651 640+64F+651 640+650+651 637+649"),
   (0xFCF6, "637+64A 639+649 639+64A 63A+649 63A+64A 633+649 633+64A 634+649 634+64A 62D+649"),
   (0xFD00, "62D+64A 62C+649 62C+64A 62E+649 62E+64A 635+649 635+64A 636+649 636+64A 634+62C"),
   (0xFD0A, "634+62D 634+62E 634+645 634+631 633+631 635+631 636+631 637+649 637+64A 639+649"),
   (0xFD14, "639+64A 63A+649 63A+64A 633+649 633+64A 634+649 634+64A 62D+649 62D+64A 62C+649"),
   (0xFD1E, "62C+64A 62E+649 62E+64A 635+649 635+64A 636+649 636+64A 634+62C 634+62D 634+62E"),
   (0xFD28, "634+645 634+631 633+631 635+631 636+631 634+62C 634+62D 634+62E 634+645 633+647"),
   (0xFD32, "634+647 637+645 633+62C 633+62D 633+62E 634+62C 634+62D 634+62E 637+645 638+645"),
   (0xFD3C, "627+64B 627+64B"),
   (0xFD50, "62A+62C+645 62A+62D+62C 62A+62D+62C 62A+62D+645 62A+62E+645 62A+645+62C 62A+645+62D"),
   (0xFD57, "62A+645+62E 62C+645+62D 62C+645+62D 62D+645+64A 62D+645+649 633+62D+62C 633+62C+62D"),
   (0xFD5E, "633+62C+649 633+645+62D 633+645+62D 633+645+62C 633+645+645 633+645+645 635+62D+62D"),
   (0xFD65, "635+62D+62D 635+645+645 634+62D+645 634+62D+645 634+62C+64A 634+645+62E 634+645+62E"),
   (0xFD6C, "634+645+645 634+645+645 636+62D+649 636+62E+645 636+62E+645 637+645+62D 637+645+62D"),
   (0xFD73, "637+645+645 637+645+64A 639+62C+645 639+645+645 639+645+645 639+645+649 63A+645+645"),
   (0xFD7A, "63A+645+64A 63A+645+649 641+62E+645 641+62E+645 642+645+62D 642+645+645 644+62D+645"),
   (0xFD81, "644+62D+64A 644+62D+649 644+62C+62C 644+62C+62C 644+62E+645 644+62E+645 644+645+62D"),
   (0xFD88, "644+645+62D 645+62D+62C 645+62D+645 645+62D+64A 645+62C+62D 645+62C+645 645+62E+62C"),
   (0xFD8F, "645+62E+645"),
   (0xFD92, "645+62C+62E 647+645+62C 647+645+645 646+62D+645 646+62D+649 646+62C+645 646+62C+645"),
   (0xFD99, "646+62C+649 646+645+64A 646+645+649 64A+645+645 64A+645+645 628+62E+64A 62A+62C+64A"),
   (0xFDA0, "62A+62C+649 62A+62E+64A 62A+62E+649 62A+645+64A 62A+645+649 62C+645+64A 62C+62D+649"),
   (0xFDA7, "62C+645+649 633+62E+649 635+62D+64A 634+62D+64A 636+62D+64A 644+62C+64A 644+645+64A"),
   (0xFDAE, "64A+62D+64A 64A+62C+64A 64A+645+64A 645+645+64A 642+645+64A 646+62D+64A 642+645+62D"),
   (0xFDB5, "644+62D+645 639+645+64A 643+645+64A 646+62C+62D 645+62E+64A 644+62C+645 643+645+645"),
   (0xFDBC, "644+62C+645 646+62C+62D 62C+62D+64A 62D+62C+64A 645+62C+64A 641+645+64A 628+62D+64A"),
   (0xFDC3, "643+645+645 639+62C+645 635+645+645 633+62E+64A 646+62C+64A"),
   (0xFDF0, "635+644+6D2 642+644+6D2 627+644+644+647 627+643+628+631 645+62D+645+62F"),
   (0xFDF5, "635+644+639+645 631+633+648+644 639+644+64A+647 648+633+644+645 635+644+649"),
   (0xFDFA, "635+644+649+20+627+644+644+647+20+639+644+64A+647+20+648+633+644+645"),
   (0xFDFB, "62C+644+20+62C+644+627+644+647 631+6CC+627+644"), (0xFE10, "2C 3001"),
   (0xFE13, "3A 3B 21 3F 3016 3017"),
   (0xFE31, "2014 2013 5F 5F 28 29 7B 7D 3014 3015 3010 3011 300A 300B 3008 3009 300C 300D 300E"),
   (0xFE44, "300F"), (0xFE47, "5B 5D 20+305 20+305 20+305 20+305 5F 5F 5F 2C 3001"),
   (0xFE54, "3B 3A 3F 21 2014 28 29 7B 7D 3014 3015 23 26 2A 2B 2D 3C 3E 3D"),
   (0xFE68, "5C 24 25 40"), (0xFE70, "20+64B 640+64B 20+64C"), (0xFE74, "20+64D"),
   (0xFE76, "20+64E 640+64E 20+64F 640+64F 20+650 640+650 20+651 640+651 20+652 640+652 621 622"),
   (0xFE82, "622 623 623 624 624 625 625 626 626 626 626 627 627 628 628 628 628 629 629 62A 62A"),
   (0xFE97, "62A 62A 62B 62B 62B 62B 62C 62C 62C 62C 62D 62D 62D 62D 62E 62E 62E 62E 62F 62F 630"),
   (0xFEAC, "630 631 631 632 632 633 633 633 633 634 634 634 634 635 635 635 635 636 636 636 636"),
   (0xFEC1, "637 637 637 637 638 638 638 638 639 639 639 639 63A 63A 63A 63A 641 641 641 641 642"),
   (0xFED6, "642 642 642 643 643 643 643 644 644 644 644 645 645 645 645 646 646 646 646 647 647"),
   (0xFEEB, "647 647 648 648 649 649 64A 64A 64A 64A 644+622 644+622 644+623 644+623 644+625"),
   (0xFEFA, "644+625 644+627 644+627"),
   (0xFF01, "21 22 23 24 25 26 27 28 29 2A 2B 2C 2D 2E 2F 30 31 32 33 34 35 36 37 38 39 3A 3B 3C"),
   (0xFF1D, "3D 3E 3F 40 61 62 63 64 65 66 67 68 69 6A 6B 6C 6D 6E 6F 70 71 72 73 74 75 76 77 78"),
   (0xFF39, "79 7A 5B 5C 5D 5E 5F 60 61 62 63 64 65 66 67 68 69 6A 6B 6C 6D 6E 6F 70 71 72 73 74"),
   (0xFF55, "75 76 77 78 79 7A 7B 7C 7D 7E 2985 2986 2E 300C 300D 3001 30FB 30F2 30A1 30A3 30A5"),
   (0xFF6A, "30A7 30A9 30E3 30E5 30E7 30C3 30FC 30A2 30A4 30A6 30A8 30AA 30AB 30AD 30AF 30B1 30B3"),
   (0xFF7B, "30B5 30B7 30B9 30BB 30BD 30BF 30C1 30C4 30C6 30C8 30CA 30CB 30CC 30CD 30CE 30CF 30D2"),
   (0xFF8C, "30D5 30D8 30DB 30DE 30DF 30E0 30E1 30E2 30E4 30E6 30E8 30E9 30EA 30EB 30EC 30ED 30EF"),
   (0xFF9D, "30F3 3099 309A"),
   (0xFFA1, "1100 1101 11AA 1102 11AC 11AD 1103 1104 1105 11B0 11B1 11B2 11B3 11B4 11B5 111A 1106"),
   (0xFFB2, "1107 1108 1121 1109 110A 110B 110C 110D 110E 110F 1110 1111 1112"),
   (0xFFC2, "1161 1162 1163 1164 1165 1166"), (0xFFCA, "1167 1168 1169 116A 116B 116C"),
   (0xFFD2, "116D 116E 116F 1170 1171 1172"), (0xFFDA, "1173 1174 1175"),
   (0xFFE0, "A2 A3 AC 20+304 A6 A5 20A9"), (0xFFE8, "2502 2190 2191 2192 2193 25A0 25CB"),
   (0x10400, "10428 10429 1042A 1042B 1042C 1042D 1042E 1042F 10430 10431 10432 10433 10434 10435"),
   (0x1040E, "10436 10437 10438 10439 1043A 1043B 1043C 1043D 1043E 1043F 10440 10441 10442 10443"),
   (0x1041C, "10444 10445 10446 10447 10448 10449 1044A 1044B 1044C 1044D 1044E 1044F"),
   (0x104B0, "104D8 104D9 104DA 104DB 104DC 104DD 104DE 104DF 104E0 104E1 104E2 104E3 104E4 104E5"),
   (0x104BE, "104E6 104E7 104E8 104E9 104EA 104EB 104EC 104ED 104EE 104EF 104F0 104F1 104F2 104F3"),
   (0x104CC, "104F4 104F5 104F6 104F7 104F8 104F9 104FA 104FB"),
   (0x10570, "10597 10598 10599 1059A 1059B 1059C 1059D 1059E 1059F 105A0 105A1"),
   (0x1057C, "105A3 105A4 105A5 105A6 105A7 105A8 105A9 105AA 105AB 105AC 105AD 105AE 105AF 105B0"),
   (0x1058A, "105B1"), (0x1058C, "105B3 105B4 105B5 105B6 105B7 105B8 105B9"),
   (0x10594, "105BB 105BC"), (0x10781, "2D0 2D1 E6 299 253"),
   (0x10787, "2A3 AB66 2A5 2A4 256 257 1D91 258 25E 2A9 264 262 260 29B 127 29C 267 284 2AA 2AB"),
   (0x1079B, "26C 1DF04 A78E 26E 1DF05 28E 1DF06 F8 276 277 71 27A 1DF08 27D 27E 280 2A8 2A6 AB67"),
   (0x107AE, "2A7 288 2C71"), (0x107B2, "28F 2A1 2A2 298 1C0 1C1 1C2 1DF0A 1DF1E"),
   (0x10C80, "10CC0 10CC1 10CC2 10CC3 10CC4 10CC5 10CC6 10CC7 10CC8 10CC9 10CCA 10CCB 10CCC 10CCD"),
   (0x10C8E, "10CCE 10CCF 10CD0 10CD1 10CD2 10CD3 10CD4 10CD5 10CD6 10CD7 10CD8 10CD9 10CDA 10CDB"),
   (0x10C9C, "10CDC 10CDD 10CDE 10CDF 10CE0 10CE1 10CE2 10CE3 10CE4 10CE5 10CE6 10CE7 10CE8 10CE9"),
   (0x10CAA, "10CEA 10CEB 10CEC 10CED 10CEE 10CEF 10CF0 10CF1 10CF2"),
   (0x10D50, "10D70 10D71 10D72 10D73 10D74 10D75 10D76 10D77 10D78 10D79 10D7A 10D7B 10D7C 10D7D"),
   (0x10D5E, "10D7E 10D7F 10D80 10D81 10D82 10D83 10D84 10D85"),
   (0x118A0, "118C0 118C1 118C2 118C3 118C4 118C5 118C6 118C7 118C8 118C9 118CA 118CB 118CC 118CD"),
   (0x118AE, "118CE 118CF 118D0 118D1 118D2 118D3 118D4 118D5 118D6 118D7 118D8 118D9 118DA 118DB"),
   (0x118BC, "118DC 118DD 118DE 118DF"),
   (0x16E40, "16E60 16E61 16E62 16E63 16E64 16E65 16E66 16E67 16E68 16E69 16E6A 16E6B 16E6C 16E6D"),
   (0x16E4E, "16E6E 16E6F 16E70 16E71 16E72 16E73 16E74 16E75 16E76 16E77 16E78 16E79 16E7A 16E7B"),
   (0x16E5C, "16E7C 16E7D 16E7E 16E7F"),
   (0x16EA0, "16EBB 16EBC 16EBD 16EBE 16EBF 16EC0 16EC1 16EC2 16EC3 16EC4 16EC5 16EC6 16EC7 16EC8"),
   (0x16EAE, "16EC9 16ECA 16ECB 16ECC 16ECD 16ECE 16ECF 16ED0 16ED1 16ED2 16ED3"),
   (0x1CCD6, "61 62 63 64 65 66 67 68 69 6A 6B 6C 6D 6E 6F 70 71 72 73 74 75 76 77 78 79 7A 30 31"),
   (0x1CCF2, "32 33 34 35 36 37 38 39"),
   (0x1D15E, "1D157+1D165 1D158+1D165 1D158+1D165+1D16E 1D158+1D165+1D16F 1D158+1D165+1D170"),
   (0x1D163, "1D158+1D165+1D171 1D158+1D165+1D172"),
   (0x1D1BB, "1D1B9+1D165 1D1BA+1D165 1D1B9+1D165+1D16E 1D1BA+1D165+1D16E 1D1B9+1D165+1D16F"),
   (0x1D1C0, "1D1BA+1D165+1D16F"),
   (0x1D400, "61 62 63 64 65 66 67 68 69 6A 6B 6C 6D 6E 6F 70 71 72 73 74 75 76 77 78 79 7A 61 62"),
   (0x1D41C, "63 64 65 66 67 68 69 6A 6B 6C 6D 6E 6F 70 71 72 73 74 75 76 77 78 79 7A 61 62 63 64"),
   (0x1D438, "65 66 67 68 69 6A 6B 6C 6D 6E 6F 70 71 72 73 74 75 76 77 78 79 7A 61 62 63 64 65 66"),
   (0x1D454, "67"),
   (0x1D456, "69 6A 6B 6C 6D 6E 6F 70 71 72 73 74 75 76 77 78 79 7A 61 62 63 64 65 66 67 68 69 6A"),
   (0x1D472, "6B 6C 6D 6E 6F 70 71 72 73 74 75 76 77 78 79 7A 61 62 63 64 65 66 67 68 69 6A 6B 6C"),
   (0x1D48E, "6D 6E 6F 70 71 72 73 74 75 76 77 78 79 7A 61"), (0x1D49E, "63 64"), (0x1D4A2, "67"),
   (0x1D4A5, "6A 6B"), (0x1D4A9, "6E 6F 70 71"), (0x1D4AE, "73 74 75 76 77 78 79 7A 61 62 63 64"),
   (0x1D4BB, "66"), (0x1D4BD, "68 69 6A 6B 6C 6D 6E"),
   (0x1D4C5, "70 71 72 73 74 75 76 77 78 79 7A 61 62 63 64 65 66 67 68 69 6A 6B 6C 6D 6E 6F 70 71"),
   (0x1D4E1, "72 73 74 75 76 77 78 79 7A 61 62 63 64 65 66 67 68 69 6A 6B 6C 6D 6E 6F 70 71 72 73"),
   (0x1D4FD, "74 75 76 77 78 79 7A 61 62"), (0x1D507, "64 65 66 67"),
   (0x1D50D, "6A 6B 6C 6D 6E 6F 70 71"), (0x1D516, "73 74 75 76 77 78 79"),
   (0x1D51E, "61 62 63 64 65 66 67 68 69 6A 6B 6C 6D 6E 6F 70 71 72 73 74 75 76 77 78 79 7A 61 62"),
   (0x1D53B, "64 65 66 67"), (0x1D540, "69 6A 6B 6C 6D"), (0x1D546, "6F"),
   (0x1D54A, "73 74 75 76 77 78 79"),
   (0x1D552, "61 62 63 64 65 66 67 68 69 6A 6B 6C 6D 6E 6F 70 71 72 73 74 75 76 77 78 79 7A 61 62"),
   (0x1D56E, "63 64 65 66 67 68 69 6A 6B 6C 6D 6E 6F 70 71 72 73 74 75 76 77 78 79 7A 61 62 63 64"),
   (0x1D58A, "65 66 67 68 69 6A 6B 6C 6D 6E 6F 70 71 72 73 74 75 76 77 78 79 7A 61 62 63 64 65 66"),
   (0x1D5A6, "67 68 69 6A 6B 6C 6D 6E 6F 70 71 72 73 74 75 76 77 78 79 7A 61 62 63 64 65 66 67 68"),
   (0x1D5C2, "69 6A 6B 6C 6D 6E 6F 70 71 72 73 74 75 76 77 78 79 7A 61 62 63 64 65 66 67 68 69 6A"),
   (0x1D5DE, "6B 6C 6D 6E 6F 70 71 72 73 74 75 76 77 78 79 7A 61 62 63 64 65 66 67 68 69 6A 6B 6C"),
   (0x1D5FA, "6D 6E 6F 70 71 72 73 74 75 76 77 78 79 7A 61 62 63 64 65 66 67 68 69 6A 6B 6C 6D 6E"),
   (0x1D616, "6F 70 71 72 73 74 75 76 77 78 79 7A 61 62 63 64 65 66 67 68 69 6A 6B 6C 6D 6E 6F 70"),
   (0x1D632, "71 72 73 74 75 76 77 78 79 7A 61 62 63 64 65 66 67 68 69 6A 6B 6C 6D 6E 6F 70 71 72"),
   (0x1D64E, "73 74 75 76 77 78 79 7A 61 62 63 64 65 66 67 68 69 6A 6B 6C 6D 6E 6F 70 71 72 73 74"),
   (0x1D66A, "75 76 77 78 79 7A 61 62 63 64 65 66 67 68 69 6A 6B 6C 6D 6E 6F 70 71 72 73 74 75 76"),
   (0x1D686, "77 78 79 7A 61 62 63 64 65 66 67 68 69 6A 6B 6C 6D 6E 6F 70 71 72 73 74 75 76 77 78"),
   (0x1D6A2, "79 7A 131 237"),
   (0x1D6A8, "3B1 3B2 3B3 3B4 3B5 3B6 3B7 3B8 3B9 3BA 3BB 3BC 3BD 3BE 3BF 3C0 3C1 3B8 3C3 3C4 3C5"),
   (0x1D6BD, "3C6 3C7 3C8 3C9 2207 3B1 3B2 3B3 3B4 3B5 3B6 3B7 3B8 3B9 3BA 3BB 3BC 3BD 3BE 3BF"),
   (0x1D6D1, "3C0 3C1 3C3 3C3 3C4 3C5 3C6 3C7 3C8 3C9 2202 3B5 3B8 3BA 3C6 3C1 3C0 3B1 3B2 3B3"),
   (0x1D6E5, "3B4 3B5 3B6 3B7 3B8 3B9 3BA 3BB 3BC 3BD 3BE 3BF 3C0 3C1 3B8 3C3 3C4 3C5 3C6 3C7 3C8"),
   (0x1D6FA, "3C9 2207 3B1 3B2 3B3 3B4 3B5 3B6 3B7 3B8 3B9 3BA 3BB 3BC 3BD 3BE 3BF 3C0 3C1 3C3"),
   (0x1D70E, "3C3 3C4 3C5 3C6 3C7 3C8 3C9 2202 3B5 3B8 3BA 3C6 3C1 3C0 3B1 3B2 3B3 3B4 3B5 3B6"),
   (0x1D722, "3B7 3B8 3B9 3BA 3BB 3BC 3BD 3BE 3BF 3C0 3C1 3B8 3C3 3C4 3C5 3C6 3C7 3C8 3C9 2207"),
   (0x1D736, "3B1 3B2 3B3 3B4 3B5 3B6 3B7 3B8 3B9 3BA 3BB 3BC 3BD 3BE 3BF 3C0 3C1 3C3 3C3 3C4 3C5"),
   (0x1D74B, "3C6 3C7 3C8 3C9 2202 3B5 3B8 3BA 3C6 3C1 3C0 3B1 3B2 3B3 3B4 3B5 3B6 3B7 3B8 3B9"),
   (0x1D75F, "3BA 3BB 3BC 3BD 3BE 3BF 3C0 3C1 3B8 3C3 3C4 3C5 3C6 3C7 3C8 3C9 2207 3B1 3B2 3B3"),
   (0x1D773, "3B4 3B5 3B6 3B7 3B8 3B9 3BA 3BB 3BC 3BD 3BE 3BF 3C0 3C1 3C3 3C3 3C4 3C5 3C6 3C7 3C8"),
   (0x1D788, "3C9 2202 3B5 3B8 3BA 3C6 3C1 3C0 3B1 3B2 3B3 3B4 3B5 3B6 3B7 3B8 3B9 3BA 3BB 3BC"),
   (0x1D79C, "3BD 3BE 3BF 3C0 3C1 3B8 3C3 3C4 3C5 3C6 3C7 3C8 3C9 2207 3B1 3B2 3B3 3B4 3B5 3B6"),
   (0x1D7B0, "3B7 3B8 3B9 3BA 3BB 3BC 3BD 3BE 3BF 3C0 3C1 3C3 3C3 3C4 3C5 3C6 3C7 3C8 3C9 2202"),
   (0x1D7C4, "3B5 3B8 3BA 3C6 3C1 3C0 3DD 3DD"),
   (0x1D7CE, "30 31 32 33 34 35 36 37 38 39 30 31 32 33 34 35 36 37 38 39 30 31 32 33 34 35 36 37"),
   (0x1D7EA, "38 39 30 31 32 33 34 35 36 37 38 39 30 31 32 33 34 35 36 37 38 39"),
   (0x1E030, "430 431 432 433 434 435 436 437 438 43A 43B 43C 43E 43F 440 441 442 443 444 445 446"),
   (0x1E045, "447 448 44B 44D 44E A689 4D9 456 458 4E9 4AF 4CF 430 431 432 433 434 435 436 437"),
   (0x1E059, "438 43A 43B 43E 43F 441 443 444 445 446 447 448 44A 44B 491 456 455 45F 4AB A651"),
   (0x1E06D, "4B1"),
   (0x1E900, "1E922 1E923 1E924 1E925 1E926 1E927 1E928 1E929 1E92A 1E92B 1E92C 1E92D 1E92E 1E92F"),
   (0x1E90E, "1E930 1E931 1E932 1E933 1E934 1E935 1E936 1E937 1E938 1E939 1E93A 1E93B 1E93C 1E93D"),
   (0x1E91C, "1E93E 1E93F 1E940 1E941 1E942 1E943"), (0x1EE00, "627 628 62C 62F"),
   (0x1EE05, "648 632 62D 637 64A 643 644 645 646 633 639 641 635 642 631 634 62A 62B 62E 630 636"),
   (0x1EE1A, "638 63A 66E 6BA 6A1 66F"), (0x1EE21, "628 62C"), (0x1EE24, "647"), (0x1EE27, "62D"),
   (0x1EE29, "64A 643 644 645 646 633 639 641 635 642"), (0x1EE34, "634 62A 62B 62E"),
   (0x1EE39, "636"), (0x1EE3B, "63A"), (0x1EE42, "62C"), (0x1EE47, "62D"), (0x1EE49, "64A"),
   (0x1EE4B, "644"), (0x1EE4D, "646 633 639"), (0x1EE51, "635 642"), (0x1EE54, "634"),
   (0x1EE57, "62E"), (0x1EE59, "636"), (0x1EE5B, "63A"), (0x1EE5D, "6BA"), (0x1EE5F, "66F"),
   (0x1EE61, "628 62C"), (0x1EE64, "647"), (0x1EE67, "62D 637 64A 643"),
   (0x1EE6C, "645 646 633 639 641 635 642"), (0x1EE74, "634 62A 62B 62E"),
   (0x1EE79, "636 638 63A 66E"), (0x1EE7E, "6A1"),
   (0x1EE80, "627 628 62C 62F 647 648 632 62D 637 64A"),
   (0x1EE8B, "644 645 646 633 639 641 635 642 631 634 62A 62B 62E 630 636 638 63A"),
   (0x1EEA1, "628 62C 62F"), (0x1EEA5, "648 632 62D 637 64A"),
   (0x1EEAB, "644 645 646 633 639 641 635 642 631 634 62A 62B 62E 630 636 638 63A"),
   (0x1F101, "30+2C 31+2C 32+2C 33+2C 34+2C 35+2C 36+2C 37+2C 38+2C 39+2C"),
   (0x1F110, "28+61+29 28+62+29 28+63+29 28+64+29 28+65+29 28+66+29 28+67+29 28+68+29 28+69+29"),
   (0x1F119, "28+6A+29 28+6B+29 28+6C+29 28+6D+29 28+6E+29 28+6F+29 28+70+29 28+71+29 28+72+29"),
   (0x1F122, "28+73+29 28+74+29 28+75+29 28+76+29 28+77+29 28+78+29 28+79+29 28+7A+29"),
   (0x1F12A, "3014+73+3015 63 72 63+64 77+7A"),
   (0x1F130, "61 62 63 64 65 66 67 68 69 6A 6B 6C 6D 6E 6F 70 71 72 73 74 75 76 77 78 79 7A 68+76"),
   (0x1F14B, "6D+76 73+64 73+73 70+70+76 77+63"), (0x1F16A, "6D+63 6D+64 6D+72"),
   (0x1F190, "64+6A"), (0x1F200, "307B+304B 30B3+30B3 30B5"),
   (0x1F210, "624B 5B57 53CC 30C7 4E8C 591A 89E3 5929 4EA4 6620 7121 6599 524D 5F8C 518D 65B0"),
   (0x1F220, "521D 7D42 751F 8CA9 58F0 5439 6F14 6295 6355 4E00 4E09 904A 5DE6 4E2D 53F3 6307"),
   (0x1F230, "8D70 6253 7981 7A7A 5408 6E80 6709 6708 7533 5272 55B6 914D"),
   (0x1F240, "3014+672C+3015 3014+4E09+3015 3014+4E8C+3015 3014+5B89+3015 3014+70B9+3015"),
   (0x1F245, "3014+6253+3015 3014+76D7+3015 3014+52DD+3015 3014+6557+3015"), (0x1F250, "5F97 53EF"),
   (0x1FBF0, "30 31 32 33 34 35 36 37 38 39"),
   (0x2F800, "4E3D 4E38 4E41 20122 4F60 4FAE 4FBB 5002 507A 5099 50E7 50CF 349E 2063A 514D 5154"),
   (0x2F810, "5164 5177 2051C 34B9 5167 518D 2054B 5197 51A4 4ECC 51AC 51B5 291DF 51F5 5203 34DF"),
   (0x2F820, "523B 5246 5272 5277 3515 52C7 52C9 52E4 52FA 5305 5306 5317 5349 5351 535A 5373"),
   (0x2F830, "537D 537F 537F 537F 20A2C 7070 53CA 53DF 20B63 53EB 53F1 5406 549E 5438 5448 5468"),
   (0x2F840, "54A2 54F6 5510 5553 5563 5584 5584 5599 55AB 55B3 55C2 5716 5606 5717 5651 5674"),
   (0x2F850, "5207 58EE 57CE 57F4 580D 578B 5832 5831 58AC 214E4 58F2 58F7 5906 591A 5922 5962"),
   (0x2F860, "216A8 216EA 59EC 5A1B 5A27 59D8 5A66 36EE 36FC 5B08 5B3E 5B3E 219C8 5BC3 5BD8 5BE7"),
   (0x2F870, "5BF3 21B18 5BFF 5C06 5F53 5C22 3781 5C60 5C6E 5CC0 5C8D 21DE4 5D43 21DE6 5D6E 5D6B"),
   (0x2F880, "5D7C 5DE1 5DE2 382F 5DFD 5E28 5E3D 5E69 3862 22183 387C 5EB0 5EB3 5EB6 5ECA 2A392"),
   (0x2F890, "5EFE 22331 22331 8201 5F22 5F22 38C7 232B8 261DA 5F62 5F6B 38E3 5F9A 5FCD 5FD7 5FF9"),
   (0x2F8A0, "6081 393A 391C 6094 226D4 60C7 6148 614C 614E 614C 617A 618E 61B2 61A4 61AF 61DE"),
   (0x2F8B0, "61F2 61F6 6210 621B 625D 62B1 62D4 6350 22B0C 633D 62FC 6368 6383 63E4 22BF1 6422"),
   (0x2F8C0, "63C5 63A9 3A2E 6469 647E 649D 6477 3A6C 654F 656C 2300A 65E3 66F8 6649 3B19 6691"),
   (0x2F8D0, "3B08 3AE4 5192 5195 6700 669C 80AD 43D9 6717 671B 6721 675E 6753 233C3 3B49 67FA"),
   (0x2F8E0, "6785 6852 6885 2346D 688E 681F 6914 3B9D 6942 69A3 69EA 6AA8 236A3 6ADB 3C18 6B21"),
   (0x2F8F0, "238A7 6B54 3C4E 6B72 6B9F 6BBA 6BBB 23A8D 21D0B 23AFA 6C4E 23CBC 6CBF 6CCD 6C67"),
   (0x2F8FF, "6D16 6D3E 6D77 6D41 6D69 6D78 6D85 23D1E 6D34 6E2F 6E6E 3D33 6ECB 6EC7 23ED1 6DF9"),
   (0x2F90F, "6F6E 23F5E 23F8E 6FC6 7039 701E 701B 3D96 704A 707D 7077 70AD 20525 7145 24263 719C"),
   (0x2F91F, "243AB 7228 7235 7250 24608 7280 7295 24735 24814 737A 738B 3EAC 73A5 3EB8 3EB8 7447"),
   (0x2F92F, "745C 7471 7485 74CA 3F1B 7524 24C36 753E 24C92 7570 2219F 7610 24FA1 24FB8 25044"),
   (0x2F93E, "3FFC 4008 76F4 250F3 250F2 25119 25133 771E 771F 771F 774A 4039 778B 4046 4096"),
   (0x2F94D, "2541D 784E 788C 78CC 40E3 25626 7956 2569A 256C5 798F 79EB 412F 7A40 7A4A 7A4F"),
   (0x2F95C, "2597C 25AA7 25AA7 7AEE 4202 25BAB 7BC6 7BC9 4227 25C80 7CD2 42A0 7CE8 7CE3 7D00"),
   (0x2F96B, "25F86 7D63 4301 7DC7 7E02 7E45 4334 26228 26247 4359 262D9 7F7A 2633E 7F95 7FFA"),
   (0x2F97A, "8005 264DA 26523 8060 265A8 8070 2335F 43D5 80B2 8103 440B 813E 5AB5 267A7 267B5"),
   (0x2F989, "23393 2339C 8201 8204 8F9E 446B 8291 828B 829D 52B3 82B1 82B3 82BD 82E6 26B3C 82E5"),
   (0x2F999, "831D 8363 83AD 8323 83BD 83E7 8457 8353 83CA 83CC 83DC 26C36 26D6B 26CD5 452B 84F1"),
   (0x2F9A9, "84F3 8516 273CA 8564 26F2C 455D 4561 26FB1 270D2 456B 8650 865C 8667 8669 86A9 8688"),
   (0x2F9B9, "870E 86E2 8779 8728 876B 8786 45D7 87E1 8801 45F9 8860 8863 27667 88D7 88DE 4635"),
   (0x2F9C9, "88FA 34BB 278AE 27966 46BE 46C7 8AA0 8AED 8B8A 8C55 27CA8 8CAB 8CC1 8D1B 8D77 27F2F"),
   (0x2F9D9, "20804 8DCB 8DBC 8DF0 208DE 8ED4 8F38 285D2 285ED 9094 90F1 9111 2872E 911B 9238"),
   (0x2F9E8, "92D7 92D8 927C 93F9 9415 28BFA 958B 4995 95B7 28D77 49E6 96C3 5DB2 9723 29145 2921A"),
   (0x2F9F8, "4A6E 4A76 97E0 2940A 4AB2 29496 980B 980B 9829 295B6 98E2 4B33 9929 99A7 99C2 99FE"),
   (0x2FA08, "4BCE 29B30 9B12 9C40 9CFD 4CCE 4CED 9D67 2A0CE 4CF8 2A105 2A20E 2A291 9EBB 4D56"),
   (0x2FA17, "9EF9 9EFE 9F05 9F0F 9F16 9F3B 2A600")]

/-- The characters that stand for nothing. -/
def ignoredRanges : List (Nat × Nat) :=
  [(0xAD, 0xAD), (0x34F, 0x34F), (0x115F, 0x1160), (0x17B4, 0x17B5), (0x180B, 0x180F),
   (0x200B, 0x200B), (0x2060, 0x2064), (0x206A, 0x206F), (0x3164, 0x3164), (0xFE00, 0xFE0F),
   (0xFEFF, 0xFEFF), (0xFFA0, 0xFFA0), (0x1BCA0, 0x1BCA3), (0x1D173, 0x1D17A), (0xE0100, 0xE01EF)]

/--
The characters beyond ASCII that a domain name may hold, with those that are replaced or stand for
nothing.
-/
def admittedRanges : List (Nat × Nat) :=
  [(0xA0, 0x377), (0x37A, 0x37F), (0x384, 0x38A), (0x38C, 0x38C), (0x38E, 0x3A1), (0x3A3, 0x52F),
   (0x531, 0x556), (0x559, 0x58A), (0x58D, 0x58F), (0x591, 0x5C7), (0x5D0, 0x5EA), (0x5EF, 0x5F4),
   (0x606, 0x61B), (0x61D, 0x6DC), (0x6DE, 0x70D), (0x710, 0x74A), (0x74D, 0x7B1), (0x7C0, 0x7FA),
   (0x7FD, 0x82D), (0x830, 0x83E), (0x840, 0x85B), (0x85E, 0x85E), (0x860, 0x86A), (0x870, 0x88F),
   (0x897, 0x8E1), (0x8E3, 0x983), (0x985, 0x98C), (0x98F, 0x990), (0x993, 0x9A8), (0x9AA, 0x9B0),
   (0x9B2, 0x9B2), (0x9B6, 0x9B9), (0x9BC, 0x9C4), (0x9C7, 0x9C8), (0x9CB, 0x9CE), (0x9D7, 0x9D7),
   (0x9DC, 0x9DD), (0x9DF, 0x9E3), (0x9E6, 0x9FE), (0xA01, 0xA03), (0xA05, 0xA0A), (0xA0F, 0xA10),
   (0xA13, 0xA28), (0xA2A, 0xA30), (0xA32, 0xA33), (0xA35, 0xA36), (0xA38, 0xA39), (0xA3C, 0xA3C),
   (0xA3E, 0xA42), (0xA47, 0xA48), (0xA4B, 0xA4D), (0xA51, 0xA51), (0xA59, 0xA5C), (0xA5E, 0xA5E),
   (0xA66, 0xA76), (0xA81, 0xA83), (0xA85, 0xA8D), (0xA8F, 0xA91), (0xA93, 0xAA8), (0xAAA, 0xAB0),
   (0xAB2, 0xAB3), (0xAB5, 0xAB9), (0xABC, 0xAC5), (0xAC7, 0xAC9), (0xACB, 0xACD), (0xAD0, 0xAD0),
   (0xAE0, 0xAE3), (0xAE6, 0xAF1), (0xAF9, 0xAFF), (0xB01, 0xB03), (0xB05, 0xB0C), (0xB0F, 0xB10),
   (0xB13, 0xB28), (0xB2A, 0xB30), (0xB32, 0xB33), (0xB35, 0xB39), (0xB3C, 0xB44), (0xB47, 0xB48),
   (0xB4B, 0xB4D), (0xB55, 0xB57), (0xB5C, 0xB5D), (0xB5F, 0xB63), (0xB66, 0xB77), (0xB82, 0xB83),
   (0xB85, 0xB8A), (0xB8E, 0xB90), (0xB92, 0xB95), (0xB99, 0xB9A), (0xB9C, 0xB9C), (0xB9E, 0xB9F),
   (0xBA3, 0xBA4), (0xBA8, 0xBAA), (0xBAE, 0xBB9), (0xBBE, 0xBC2), (0xBC6, 0xBC8), (0xBCA, 0xBCD),
   (0xBD0, 0xBD0), (0xBD7, 0xBD7), (0xBE6, 0xBFA), (0xC00, 0xC0C), (0xC0E, 0xC10), (0xC12, 0xC28),
   (0xC2A, 0xC39), (0xC3C, 0xC44), (0xC46, 0xC48), (0xC4A, 0xC4D), (0xC55, 0xC56), (0xC58, 0xC5A),
   (0xC5C, 0xC5D), (0xC60, 0xC63), (0xC66, 0xC6F), (0xC77, 0xC8C), (0xC8E, 0xC90), (0xC92, 0xCA8),
   (0xCAA, 0xCB3), (0xCB5, 0xCB9), (0xCBC, 0xCC4), (0xCC6, 0xCC8), (0xCCA, 0xCCD), (0xCD5, 0xCD6),
   (0xCDC, 0xCDE), (0xCE0, 0xCE3), (0xCE6, 0xCEF), (0xCF1, 0xCF3), (0xD00, 0xD0C), (0xD0E, 0xD10),
   (0xD12, 0xD44), (0xD46, 0xD48), (0xD4A, 0xD4F), (0xD54, 0xD63), (0xD66, 0xD7F), (0xD81, 0xD83),
   (0xD85, 0xD96), (0xD9A, 0xDB1), (0xDB3, 0xDBB), (0xDBD, 0xDBD), (0xDC0, 0xDC6), (0xDCA, 0xDCA),
   (0xDCF, 0xDD4), (0xDD6, 0xDD6), (0xDD8, 0xDDF), (0xDE6, 0xDEF), (0xDF2, 0xDF4), (0xE01, 0xE3A),
   (0xE3F, 0xE5B), (0xE81, 0xE82), (0xE84, 0xE84), (0xE86, 0xE8A), (0xE8C, 0xEA3), (0xEA5, 0xEA5),
   (0xEA7, 0xEBD), (0xEC0, 0xEC4), (0xEC6, 0xEC6), (0xEC8, 0xECE), (0xED0, 0xED9), (0xEDC, 0xEDF),
   (0xF00, 0xF47), (0xF49, 0xF6C), (0xF71, 0xF97), (0xF99, 0xFBC), (0xFBE, 0xFCC), (0xFCE, 0xFDA),
   (0x1000, 0x10C5), (0x10C7, 0x10C7), (0x10CD, 0x10CD), (0x10D0, 0x1248), (0x124A, 0x124D),
   (0x1250, 0x1256), (0x1258, 0x1258), (0x125A, 0x125D), (0x1260, 0x1288), (0x128A, 0x128D),
   (0x1290, 0x12B0), (0x12B2, 0x12B5), (0x12B8, 0x12BE), (0x12C0, 0x12C0), (0x12C2, 0x12C5),
   (0x12C8, 0x12D6), (0x12D8, 0x1310), (0x1312, 0x1315), (0x1318, 0x135A), (0x135D, 0x137C),
   (0x1380, 0x1399), (0x13A0, 0x13F5), (0x13F8, 0x13FD), (0x1400, 0x167F), (0x1681, 0x169C),
   (0x16A0, 0x16F8), (0x1700, 0x1715), (0x171F, 0x1736), (0x1740, 0x1753), (0x1760, 0x176C),
   (0x176E, 0x1770), (0x1772, 0x1773), (0x1780, 0x17DD), (0x17E0, 0x17E9), (0x17F0, 0x17F9),
   (0x1800, 0x1819), (0x1820, 0x1878), (0x1880, 0x18AA), (0x18B0, 0x18F5), (0x1900, 0x191E),
   (0x1920, 0x192B), (0x1930, 0x193B), (0x1940, 0x1940), (0x1944, 0x196D), (0x1970, 0x1974),
   (0x1980, 0x19AB), (0x19B0, 0x19C9), (0x19D0, 0x19DA), (0x19DE, 0x1A1B), (0x1A1E, 0x1A5E),
   (0x1A60, 0x1A7C), (0x1A7F, 0x1A89), (0x1A90, 0x1A99), (0x1AA0, 0x1AAD), (0x1AB0, 0x1ADD),
   (0x1AE0, 0x1AEB), (0x1B00, 0x1B4C), (0x1B4E, 0x1BF3), (0x1BFC, 0x1C37), (0x1C3B, 0x1C49),
   (0x1C4D, 0x1C8A), (0x1C90, 0x1CBA), (0x1CBD, 0x1CC7), (0x1CD0, 0x1CFA), (0x1D00, 0x1F15),
   (0x1F18, 0x1F1D), (0x1F20, 0x1F45), (0x1F48, 0x1F4D), (0x1F50, 0x1F57), (0x1F59, 0x1F59),
   (0x1F5B, 0x1F5B), (0x1F5D, 0x1F5D), (0x1F5F, 0x1F7D), (0x1F80, 0x1FB4), (0x1FB6, 0x1FC4),
   (0x1FC6, 0x1FD3), (0x1FD6, 0x1FDB), (0x1FDD, 0x1FEF), (0x1FF2, 0x1FF4), (0x1FF6, 0x1FFE),
   (0x2000, 0x200D), (0x2010, 0x2023), (0x2027, 0x2027), (0x202F, 0x2064), (0x206A, 0x2071),
   (0x2074, 0x208E), (0x2090, 0x209C), (0x20A0, 0x20C1), (0x20D0, 0x20F0), (0x2100, 0x218B),
   (0x2190, 0x2429), (0x2440, 0x244A), (0x2460, 0x2487), (0x249C, 0x2B73), (0x2B76, 0x2CF3),
   (0x2CF9, 0x2D25), (0x2D27, 0x2D27), (0x2D2D, 0x2D2D), (0x2D30, 0x2D67), (0x2D6F, 0x2D70),
   (0x2D7F, 0x2D96), (0x2DA0, 0x2DA6), (0x2DA8, 0x2DAE), (0x2DB0, 0x2DB6), (0x2DB8, 0x2DBE),
   (0x2DC0, 0x2DC6), (0x2DC8, 0x2DCE), (0x2DD0, 0x2DD6), (0x2DD8, 0x2DDE), (0x2DE0, 0x2E5D),
   (0x2E80, 0x2E99), (0x2E9B, 0x2EF3), (0x2F00, 0x2FD5), (0x3000, 0x303F), (0x3041, 0x3096),
   (0x3099, 0x30FF), (0x3105, 0x312F), (0x3131, 0x318E), (0x3190, 0x31E5), (0x31F0, 0x321E),
   (0x3220, 0x33C1), (0x33C3, 0x33C6), (0x33C8, 0x33D7), (0x33D9, 0xA48C), (0xA490, 0xA4C6),
   (0xA4D0, 0xA62B), (0xA640, 0xA6F7), (0xA700, 0xA7DC), (0xA7F1, 0xA82C), (0xA830, 0xA839),
   (0xA840, 0xA877), (0xA880, 0xA8C5), (0xA8CE, 0xA8D9), (0xA8E0, 0xA953), (0xA95F, 0xA97C),
   (0xA980, 0xA9CD), (0xA9CF, 0xA9D9), (0xA9DE, 0xA9FE), (0xAA00, 0xAA36), (0xAA40, 0xAA4D),
   (0xAA50, 0xAA59), (0xAA5C, 0xAAC2), (0xAADB, 0xAAF6), (0xAB01, 0xAB06), (0xAB09, 0xAB0E),
   (0xAB11, 0xAB16), (0xAB20, 0xAB26), (0xAB28, 0xAB2E), (0xAB30, 0xAB6B), (0xAB70, 0xABED),
   (0xABF0, 0xABF9), (0xAC00, 0xD7A3), (0xD7B0, 0xD7C6), (0xD7CB, 0xD7FB), (0xF900, 0xFA6D),
   (0xFA70, 0xFAD9), (0xFB00, 0xFB06), (0xFB13, 0xFB17), (0xFB1D, 0xFB36), (0xFB38, 0xFB3C),
   (0xFB3E, 0xFB3E), (0xFB40, 0xFB41), (0xFB43, 0xFB44), (0xFB46, 0xFDCF), (0xFDF0, 0xFE11),
   (0xFE13, 0xFE18), (0xFE20, 0xFE2F), (0xFE31, 0xFE51), (0xFE54, 0xFE66), (0xFE68, 0xFE6B),
   (0xFE70, 0xFE74), (0xFE76, 0xFEFC), (0xFEFF, 0xFEFF), (0xFF01, 0xFFBE), (0xFFC2, 0xFFC7),
   (0xFFCA, 0xFFCF), (0xFFD2, 0xFFD7), (0xFFDA, 0xFFDC), (0xFFE0, 0xFFE6), (0xFFE8, 0xFFEE),
   (0x10000, 0x1000B), (0x1000D, 0x10026), (0x10028, 0x1003A), (0x1003C, 0x1003D),
   (0x1003F, 0x1004D), (0x10050, 0x1005D), (0x10080, 0x100FA), (0x10100, 0x10102),
   (0x10107, 0x10133), (0x10137, 0x1018E), (0x10190, 0x1019C), (0x101A0, 0x101A0),
   (0x101D0, 0x101FD), (0x10280, 0x1029C), (0x102A0, 0x102D0), (0x102E0, 0x102FB),
   (0x10300, 0x10323), (0x1032D, 0x1034A), (0x10350, 0x1037A), (0x10380, 0x1039D),
   (0x1039F, 0x103C3), (0x103C8, 0x103D5), (0x10400, 0x1049D), (0x104A0, 0x104A9),
   (0x104B0, 0x104D3), (0x104D8, 0x104FB), (0x10500, 0x10527), (0x10530, 0x10563),
   (0x1056F, 0x1057A), (0x1057C, 0x1058A), (0x1058C, 0x10592), (0x10594, 0x10595),
   (0x10597, 0x105A1), (0x105A3, 0x105B1), (0x105B3, 0x105B9), (0x105BB, 0x105BC),
   (0x105C0, 0x105F3), (0x10600, 0x10736), (0x10740, 0x10755), (0x10760, 0x10767),
   (0x10780, 0x10785), (0x10787, 0x107B0), (0x107B2, 0x107BA), (0x10800, 0x10805),
   (0x10808, 0x10808), (0x1080A, 0x10835), (0x10837, 0x10838), (0x1083C, 0x1083C),
   (0x1083F, 0x10855), (0x10857, 0x1089E), (0x108A7, 0x108AF), (0x108E0, 0x108F2),
   (0x108F4, 0x108F5), (0x108FB, 0x1091B), (0x1091F, 0x10939), (0x1093F, 0x10959),
   (0x10980, 0x109B7), (0x109BC, 0x109CF), (0x109D2, 0x10A03), (0x10A05, 0x10A06),
   (0x10A0C, 0x10A13), (0x10A15, 0x10A17), (0x10A19, 0x10A35), (0x10A38, 0x10A3A),
   (0x10A3F, 0x10A48), (0x10A50, 0x10A58), (0x10A60, 0x10A9F), (0x10AC0, 0x10AE6),
   (0x10AEB, 0x10AF6), (0x10B00, 0x10B35), (0x10B39, 0x10B55), (0x10B58, 0x10B72),
   (0x10B78, 0x10B91), (0x10B99, 0x10B9C), (0x10BA9, 0x10BAF), (0x10C00, 0x10C48),
   (0x10C80, 0x10CB2), (0x10CC0, 0x10CF2), (0x10CFA, 0x10D27), (0x10D30, 0x10D39),
   (0x10D40, 0x10D65), (0x10D69, 0x10D85), (0x10D8E, 0x10D8F), (0x10E60, 0x10E7E),
   (0x10E80, 0x10EA9), (0x10EAB, 0x10EAD), (0x10EB0, 0x10EB1), (0x10EC2, 0x10EC7),
   (0x10ED0, 0x10ED8), (0x10EFA, 0x10F27), (0x10F30, 0x10F59), (0x10F70, 0x10F89),
   (0x10FB0, 0x10FCB), (0x10FE0, 0x10FF6), (0x11000, 0x1104D), (0x11052, 0x11075),
   (0x1107F, 0x110BC), (0x110BE, 0x110C2), (0x110D0, 0x110E8), (0x110F0, 0x110F9),
   (0x11100, 0x11134), (0x11136, 0x11147), (0x11150, 0x11176), (0x11180, 0x111DF),
   (0x111E1, 0x111F4), (0x11200, 0x11211), (0x11213, 0x11241), (0x11280, 0x11286),
   (0x11288, 0x11288), (0x1128A, 0x1128D), (0x1128F, 0x1129D), (0x1129F, 0x112A9),
   (0x112B0, 0x112EA), (0x112F0, 0x112F9), (0x11300, 0x11303), (0x11305, 0x1130C),
   (0x1130F, 0x11310), (0x11313, 0x11328), (0x1132A, 0x11330), (0x11332, 0x11333),
   (0x11335, 0x11339), (0x1133B, 0x11344), (0x11347, 0x11348), (0x1134B, 0x1134D),
   (0x11350, 0x11350), (0x11357, 0x11357), (0x1135D, 0x11363), (0x11366, 0x1136C),
   (0x11370, 0x11374), (0x11380, 0x11389), (0x1138B, 0x1138B), (0x1138E, 0x1138E),
   (0x11390, 0x113B5), (0x113B7, 0x113C0), (0x113C2, 0x113C2), (0x113C5, 0x113C5),
   (0x113C7, 0x113CA), (0x113CC, 0x113D5), (0x113D7, 0x113D8), (0x113E1, 0x113E2),
   (0x11400, 0x1145B), (0x1145D, 0x11461), (0x11480, 0x114C7), (0x114D0, 0x114D9),
   (0x11580, 0x115B5), (0x115B8, 0x115DD), (0x11600, 0x11644), (0x11650, 0x11659),
   (0x11660, 0x1166C), (0x11680, 0x116B9), (0x116C0, 0x116C9), (0x116D0, 0x116E3),
   (0x11700, 0x1171A), (0x1171D, 0x1172B), (0x11730, 0x11746), (0x11800, 0x1183B),
   (0x118A0, 0x118F2), (0x118FF, 0x11906), (0x11909, 0x11909), (0x1190C, 0x11913),
   (0x11915, 0x11916), (0x11918, 0x11935), (0x11937, 0x11938), (0x1193B, 0x11946),
   (0x11950, 0x11959), (0x119A0, 0x119A7), (0x119AA, 0x119D7), (0x119DA, 0x119E4),
   (0x11A00, 0x11A47), (0x11A50, 0x11AA2), (0x11AB0, 0x11AF8), (0x11B00, 0x11B09),
   (0x11B60, 0x11B67), (0x11BC0, 0x11BE1), (0x11BF0, 0x11BF9), (0x11C00, 0x11C08),
   (0x11C0A, 0x11C36), (0x11C38, 0x11C45), (0x11C50, 0x11C6C), (0x11C70, 0x11C8F),
   (0x11C92, 0x11CA7), (0x11CA9, 0x11CB6), (0x11D00, 0x11D06), (0x11D08, 0x11D09),
   (0x11D0B, 0x11D36), (0x11D3A, 0x11D3A), (0x11D3C, 0x11D3D), (0x11D3F, 0x11D47),
   (0x11D50, 0x11D59), (0x11D60, 0x11D65), (0x11D67, 0x11D68), (0x11D6A, 0x11D8E),
   (0x11D90, 0x11D91), (0x11D93, 0x11D98), (0x11DA0, 0x11DA9), (0x11DB0, 0x11DDB),
   (0x11DE0, 0x11DE9), (0x11EE0, 0x11EF8), (0x11F00, 0x11F10), (0x11F12, 0x11F3A),
   (0x11F3E, 0x11F5A), (0x11FB0, 0x11FB0), (0x11FC0, 0x11FF1), (0x11FFF, 0x12399),
   (0x12400, 0x1246E), (0x12470, 0x12474), (0x12480, 0x12543), (0x12F90, 0x12FF2),
   (0x13000, 0x1342F), (0x13440, 0x13455), (0x13460, 0x143FA), (0x14400, 0x14646),
   (0x16100, 0x16139), (0x16800, 0x16A38), (0x16A40, 0x16A5E), (0x16A60, 0x16A69),
   (0x16A6E, 0x16ABE), (0x16AC0, 0x16AC9), (0x16AD0, 0x16AED), (0x16AF0, 0x16AF5),
   (0x16B00, 0x16B45), (0x16B50, 0x16B59), (0x16B5B, 0x16B61), (0x16B63, 0x16B77),
   (0x16B7D, 0x16B8F), (0x16D40, 0x16D79), (0x16E40, 0x16E9A), (0x16EA0, 0x16EB8),
   (0x16EBB, 0x16ED3), (0x16F00, 0x16F4A), (0x16F4F, 0x16F87), (0x16F8F, 0x16F9F),
   (0x16FE0, 0x16FE4), (0x16FF0, 0x16FF6), (0x17000, 0x18CD5), (0x18CFF, 0x18D1E),
   (0x18D80, 0x18DF2), (0x1AFF0, 0x1AFF3), (0x1AFF5, 0x1AFFB), (0x1AFFD, 0x1AFFE),
   (0x1B000, 0x1B122), (0x1B132, 0x1B132), (0x1B150, 0x1B152), (0x1B155, 0x1B155),
   (0x1B164, 0x1B167), (0x1B170, 0x1B2FB), (0x1BC00, 0x1BC6A), (0x1BC70, 0x1BC7C),
   (0x1BC80, 0x1BC88), (0x1BC90, 0x1BC99), (0x1BC9C, 0x1BCA3), (0x1CC00, 0x1CCFC),
   (0x1CD00, 0x1CEB3), (0x1CEBA, 0x1CED0), (0x1CEE0, 0x1CEF0), (0x1CF00, 0x1CF2D),
   (0x1CF30, 0x1CF46), (0x1CF50, 0x1CFC3), (0x1D000, 0x1D0F5), (0x1D100, 0x1D126),
   (0x1D129, 0x1D1EA), (0x1D200, 0x1D245), (0x1D2C0, 0x1D2D3), (0x1D2E0, 0x1D2F3),
   (0x1D300, 0x1D356), (0x1D360, 0x1D378), (0x1D400, 0x1D454), (0x1D456, 0x1D49C),
   (0x1D49E, 0x1D49F), (0x1D4A2, 0x1D4A2), (0x1D4A5, 0x1D4A6), (0x1D4A9, 0x1D4AC),
   (0x1D4AE, 0x1D4B9), (0x1D4BB, 0x1D4BB), (0x1D4BD, 0x1D4C3), (0x1D4C5, 0x1D505),
   (0x1D507, 0x1D50A), (0x1D50D, 0x1D514), (0x1D516, 0x1D51C), (0x1D51E, 0x1D539),
   (0x1D53B, 0x1D53E), (0x1D540, 0x1D544), (0x1D546, 0x1D546), (0x1D54A, 0x1D550),
   (0x1D552, 0x1D6A5), (0x1D6A8, 0x1D7CB), (0x1D7CE, 0x1DA8B), (0x1DA9B, 0x1DA9F),
   (0x1DAA1, 0x1DAAF), (0x1DF00, 0x1DF1E), (0x1DF25, 0x1DF2A), (0x1E000, 0x1E006),
   (0x1E008, 0x1E018), (0x1E01B, 0x1E021), (0x1E023, 0x1E024), (0x1E026, 0x1E02A),
   (0x1E030, 0x1E06D), (0x1E08F, 0x1E08F), (0x1E100, 0x1E12C), (0x1E130, 0x1E13D),
   (0x1E140, 0x1E149), (0x1E14E, 0x1E14F), (0x1E290, 0x1E2AE), (0x1E2C0, 0x1E2F9),
   (0x1E2FF, 0x1E2FF), (0x1E4D0, 0x1E4F9), (0x1E5D0, 0x1E5FA), (0x1E5FF, 0x1E5FF),
   (0x1E6C0, 0x1E6DE), (0x1E6E0, 0x1E6F5), (0x1E6FE, 0x1E6FF), (0x1E7E0, 0x1E7E6),
   (0x1E7E8, 0x1E7EB), (0x1E7ED, 0x1E7EE), (0x1E7F0, 0x1E7FE), (0x1E800, 0x1E8C4),
   (0x1E8C7, 0x1E8D6), (0x1E900, 0x1E94B), (0x1E950, 0x1E959), (0x1E95E, 0x1E95F),
   (0x1EC71, 0x1ECB4), (0x1ED01, 0x1ED3D), (0x1EE00, 0x1EE03), (0x1EE05, 0x1EE1F),
   (0x1EE21, 0x1EE22), (0x1EE24, 0x1EE24), (0x1EE27, 0x1EE27), (0x1EE29, 0x1EE32),
   (0x1EE34, 0x1EE37), (0x1EE39, 0x1EE39), (0x1EE3B, 0x1EE3B), (0x1EE42, 0x1EE42),
   (0x1EE47, 0x1EE47), (0x1EE49, 0x1EE49), (0x1EE4B, 0x1EE4B), (0x1EE4D, 0x1EE4F),
   (0x1EE51, 0x1EE52), (0x1EE54, 0x1EE54), (0x1EE57, 0x1EE57), (0x1EE59, 0x1EE59),
   (0x1EE5B, 0x1EE5B), (0x1EE5D, 0x1EE5D), (0x1EE5F, 0x1EE5F), (0x1EE61, 0x1EE62),
   (0x1EE64, 0x1EE64), (0x1EE67, 0x1EE6A), (0x1EE6C, 0x1EE72), (0x1EE74, 0x1EE77),
   (0x1EE79, 0x1EE7C), (0x1EE7E, 0x1EE7E), (0x1EE80, 0x1EE89), (0x1EE8B, 0x1EE9B),
   (0x1EEA1, 0x1EEA3), (0x1EEA5, 0x1EEA9), (0x1EEAB, 0x1EEBB), (0x1EEF0, 0x1EEF1),
   (0x1F000, 0x1F02B), (0x1F030, 0x1F093), (0x1F0A0, 0x1F0AE), (0x1F0B1, 0x1F0BF),
   (0x1F0C1, 0x1F0CF), (0x1F0D1, 0x1F0F5), (0x1F101, 0x1F1AD), (0x1F1E6, 0x1F202),
   (0x1F210, 0x1F23B), (0x1F240, 0x1F248), (0x1F250, 0x1F251), (0x1F260, 0x1F265),
   (0x1F300, 0x1F6D8), (0x1F6DC, 0x1F6EC), (0x1F6F0, 0x1F6FC), (0x1F700, 0x1F7D9),
   (0x1F7E0, 0x1F7EB), (0x1F7F0, 0x1F7F0), (0x1F800, 0x1F80B), (0x1F810, 0x1F847),
   (0x1F850, 0x1F859), (0x1F860, 0x1F887), (0x1F890, 0x1F8AD), (0x1F8B0, 0x1F8BB),
   (0x1F8C0, 0x1F8C1), (0x1F8D0, 0x1F8D8), (0x1F900, 0x1FA57), (0x1FA60, 0x1FA6D),
   (0x1FA70, 0x1FA7C), (0x1FA80, 0x1FA8A), (0x1FA8E, 0x1FAC6), (0x1FAC8, 0x1FAC8),
   (0x1FACD, 0x1FADC), (0x1FADF, 0x1FAEA), (0x1FAEF, 0x1FAF8), (0x1FB00, 0x1FB92),
   (0x1FB94, 0x1FBFA), (0x20000, 0x2A6DF), (0x2A700, 0x2B81D), (0x2B820, 0x2CEAD),
   (0x2CEB0, 0x2EBE0), (0x2EBF0, 0x2EE5D), (0x2F800, 0x2FA1D), (0x30000, 0x3134A),
   (0x31350, 0x33479), (0xE0100, 0xE01EF)]

/-- The text that replaces a character. -/
def replacement? (c : Char) : Option Text :=
  (replacements.takeWhile fun (start, _) => start ≤ c.toNat).getLast?.bind fun (start, line) =>
    (Text.pieces (· == ' ') line)[c.toNat - start]?.map fun word =>
      (Text.pieces (· == '+') word).map fun digits =>
        Char.ofNat ((Text.inBase? 16 digits).getD 0)

/-- The text that a character of a domain name stands for. -/
def standsFor? (c : Char) : Option Text :=
  if c.toNat < 128 then some [c.toLower]
  else if Text.inRanges ignoredRanges c.toNat then some []
  else if Text.inRanges admittedRanges c.toNat then some ((replacement? c).getD [c])
  else none

end NoteVault.Uri.Domain
