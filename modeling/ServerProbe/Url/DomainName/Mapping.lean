import ServerProbe.Text.Lowercase
import ServerProbe.Text.Ranges

/-! What becomes of the characters of a domain name.

Upper case becomes lower case, and characters that are another way to write
others become those. Some characters are dropped, and many may not be used. In
ASCII all characters may be used here; the ones that no name may hold are found
when the name is complete. A character that stands for one of those may not be
used either.
-/

set_option autoImplicit false

namespace ServerProbe.Url.DomainName

def ignored : Text.Ranges :=
  .ofLines
    ["AD 34F 115F-1160 17B4-17B5 180B-180F 200B 2060-2064 206A-206F 3164 FE00-FE0F FEFF FFA0",
     "1BCA0-1BCA3 1D173-1D17A E0100-E01EF"]

def disallowed : Text.Ranges :=
  .ofLines
    ["80-A0 A8 AF B4 B8 2D8-2DD 378-37A 380-385 38B 38D 3A2 530 557-558 58B-58C 590 5C8-5CF",
     "5EB-5EE 5F5-605 61C 6DD 70E-70F 74B-74C 7B2-7BF 7FB-7FC 82E-82F 83F 85C-85D 85F 86B-86F",
     "890-896 8E2 984 98D-98E 991-992 9A9 9B1 9B3-9B5 9BA-9BB 9C5-9C6 9C9-9CA 9CF-9D6 9D8-9DB",
     "9DE 9E4-9E5 9FF-A00 A04 A0B-A0E A11-A12 A29 A31 A34 A37 A3A-A3B A3D A43-A46 A49-A4A",
     "A4E-A50 A52-A58 A5D A5F-A65 A77-A80 A84 A8E A92 AA9 AB1 AB4 ABA-ABB AC6 ACA ACE-ACF",
     "AD1-ADF AE4-AE5 AF2-AF8 B00 B04 B0D-B0E B11-B12 B29 B31 B34 B3A-B3B B45-B46 B49-B4A",
     "B4E-B54 B58-B5B B5E B64-B65 B78-B81 B84 B8B-B8D B91 B96-B98 B9B B9D BA0-BA2 BA5-BA7",
     "BAB-BAD BBA-BBD BC3-BC5 BC9 BCE-BCF BD1-BD6 BD8-BE5 BFB-BFF C0D C11 C29 C3A-C3B C45 C49",
     "C4E-C54 C57 C5B C5E-C5F C64-C65 C70-C76 C8D C91 CA9 CB4 CBA-CBB CC5 CC9 CCE-CD4 CD7-CDB",
     "CDF CE4-CE5 CF0 CF4-CFF D0D D11 D45 D49 D50-D53 D64-D65 D80 D84 D97-D99 DB2 DBC DBE-DBF",
     "DC7-DC9 DCB-DCE DD5 DD7 DE0-DE5 DF0-DF1 DF5-E00 E3B-E3E E5C-E80 E83 E85 E8B EA4 EA6",
     "EBE-EBF EC5 EC7 ECF EDA-EDB EE0-EFF F48 F6D-F70 F98 FBD FCD FDB-FFF 10C6 10C8-10CC",
     "10CE-10CF 1249 124E-124F 1257 1259 125E-125F 1289 128E-128F 12B1 12B6-12B7 12BF 12C1",
     "12C6-12C7 12D7 1311 1316-1317 135B-135C 137D-137F 139A-139F 13F6-13F7 13FE-13FF 1680",
     "169D-169F 16F9-16FF 1716-171E 1737-173F 1754-175F 176D 1771 1774-177F 17DE-17DF",
     "17EA-17EF 17FA-17FF 181A-181F 1879-187F 18AB-18AF 18F6-18FF 191F 192C-192F 193C-193F",
     "1941-1943 196E-196F 1975-197F 19AC-19AF 19CA-19CF 19DB-19DD 1A1C-1A1D 1A5F 1A7D-1A7E",
     "1A8A-1A8F 1A9A-1A9F 1AAE-1AAF 1ADE-1ADF 1AEC-1AFF 1B4D 1BF4-1BFB 1C38-1C3A 1C4A-1C4C",
     "1C8B-1C8F 1CBB-1CBC 1CC8-1CCF 1CFB-1CFF 1F16-1F17 1F1E-1F1F 1F46-1F47 1F4E-1F4F 1F58",
     "1F5A 1F5C 1F5E 1F7E-1F7F 1FB5 1FBD 1FBF-1FC1 1FC5 1FCD-1FCF 1FD4-1FD5 1FDC-1FDF",
     "1FED-1FEE 1FF0-1FF1 1FF5 1FFD-200A 200E-200F 2017 2024-2026 2028-202F 203E 2047-2049",
     "205F 2065-2069 2072-2073 208F 209D-209F 20C2-20CF 20F1-2101 2105-2106 218C-218F",
     "242A-243F 244B-245F 2488-249B 2A74 2B74-2B75 2CF4-2CF8 2D26 2D28-2D2C 2D2E-2D2F",
     "2D68-2D6E 2D71-2D7E 2D97-2D9F 2DA7 2DAF 2DB7 2DBF 2DC7 2DCF 2DD7 2DDF 2E5E-2E7F 2E9A",
     "2EF4-2EFF 2FD6-3000 3040 3097-3098 309B-309C 3100-3104 3130 318F 31E6-31EF 321F 33C2",
     "33C7 33D8 A48D-A48F A4C7-A4CF A62C-A63F A6F8-A6FF A7DD-A7F0 A82D-A82F A83A-A83F",
     "A878-A87F A8C6-A8CD A8DA-A8DF A954-A95E A97D-A97F A9CE A9DA-A9DD A9FF AA37-AA3F",
     "AA4E-AA4F AA5A-AA5B AAC3-AADA AAF7-AB00 AB07-AB08 AB0F-AB10 AB17-AB1F AB27 AB2F",
     "AB6C-AB6F ABEE-ABEF ABFA-ABFF D7A4-D7AF D7C7-D7CA D7FC-D7FF E000-F8FF FA6E-FA6F",
     "FADA-FAFF FB07-FB12 FB18-FB1C FB37 FB3D FB3F FB42 FB45 FC5E-FC63 FDD0-FDEF FDFA-FDFB",
     "FE12-FE13 FE16 FE19-FE1F FE30 FE47-FE4C FE52-FE53 FE55-FE56 FE5F FE64-FE65 FE67-FE68",
     "FE6A-FE70 FE72 FE74-FE76 FE78 FE7A FE7C FE7E FEFD-FEFE FF00 FF03 FF05 FF0F FF1A FF1C",
     "FF1E-FF20 FF3B-FF3E FF5C FFBF-FFC1 FFC8-FFC9 FFD0-FFD1 FFD8-FFD9 FFDD-FFDF FFE3 FFE7",
     "FFEF-FFFF 1000C 10027 1003B 1003E 1004E-1004F 1005E-1007F 100FB-100FF 10103-10106",
     "10134-10136 1018F 1019D-1019F 101A1-101CF 101FE-1027F 1029D-1029F 102D1-102DF",
     "102FC-102FF 10324-1032C 1034B-1034F 1037B-1037F 1039E 103C4-103C7 103D6-103FF",
     "1049E-1049F 104AA-104AF 104D4-104D7 104FC-104FF 10528-1052F 10564-1056E 1057B 1058B",
     "10593 10596 105A2 105B2 105BA 105BD-105BF 105F4-105FF 10737-1073F 10756-1075F",
     "10768-1077F 10786 107B1 107BB-107FF 10806-10807 10809 10836 10839-1083B 1083D-1083E",
     "10856 1089F-108A6 108B0-108DF 108F3 108F6-108FA 1091C-1091E 1093A-1093E 1095A-1097F",
     "109B8-109BB 109D0-109D1 10A04 10A07-10A0B 10A14 10A18 10A36-10A37 10A3B-10A3E",
     "10A49-10A4F 10A59-10A5F 10AA0-10ABF 10AE7-10AEA 10AF7-10AFF 10B36-10B38 10B56-10B57",
     "10B73-10B77 10B92-10B98 10B9D-10BA8 10BB0-10BFF 10C49-10C7F 10CB3-10CBF 10CF3-10CF9",
     "10D28-10D2F 10D3A-10D3F 10D66-10D68 10D86-10D8D 10D90-10E5F 10E7F 10EAA 10EAE-10EAF",
     "10EB2-10EC1 10EC8-10ECF 10ED9-10EF9 10F28-10F2F 10F5A-10F6F 10F8A-10FAF 10FCC-10FDF",
     "10FF7-10FFF 1104E-11051 11076-1107E 110BD 110C3-110CF 110E9-110EF 110FA-110FF 11135",
     "11148-1114F 11177-1117F 111E0 111F5-111FF 11212 11242-1127F 11287 11289 1128E 1129E",
     "112AA-112AF 112EB-112EF 112FA-112FF 11304 1130D-1130E 11311-11312 11329 11331 11334",
     "1133A 11345-11346 11349-1134A 1134E-1134F 11351-11356 11358-1135C 11364-11365",
     "1136D-1136F 11375-1137F 1138A 1138C-1138D 1138F 113B6 113C1 113C3-113C4 113C6 113CB",
     "113D6 113D9-113E0 113E3-113FF 1145C 11462-1147F 114C8-114CF 114DA-1157F 115B6-115B7",
     "115DE-115FF 11645-1164F 1165A-1165F 1166D-1167F 116BA-116BF 116CA-116CF 116E4-116FF",
     "1171B-1171C 1172C-1172F 11747-117FF 1183C-1189F 118F3-118FE 11907-11908 1190A-1190B",
     "11914 11917 11936 11939-1193A 11947-1194F 1195A-1199F 119A8-119A9 119D8-119D9",
     "119E5-119FF 11A48-11A4F 11AA3-11AAF 11AF9-11AFF 11B0A-11B5F 11B68-11BBF 11BE2-11BEF",
     "11BFA-11BFF 11C09 11C37 11C46-11C4F 11C6D-11C6F 11C90-11C91 11CA8 11CB7-11CFF 11D07",
     "11D0A 11D37-11D39 11D3B 11D3E 11D48-11D4F 11D5A-11D5F 11D66 11D69 11D8F 11D92",
     "11D99-11D9F 11DAA-11DAF 11DDC-11DDF 11DEA-11EDF 11EF9-11EFF 11F11 11F3B-11F3D",
     "11F5B-11FAF 11FB1-11FBF 11FF2-11FFE 1239A-123FF 1246F 12475-1247F 12544-12F8F",
     "12FF3-12FFF 13430-1343F 13456-1345F 143FB-143FF 14647-160FF 1613A-167FF 16A39-16A3F",
     "16A5F 16A6A-16A6D 16ABF 16ACA-16ACF 16AEE-16AEF 16AF6-16AFF 16B46-16B4F 16B5A 16B62",
     "16B78-16B7C 16B90-16D3F 16D7A-16E3F 16E9B-16E9F 16EB9-16EBA 16ED4-16EFF 16F4B-16F4E",
     "16F88-16F8E 16FA0-16FDF 16FE5-16FEF 16FF7-16FFF 18CD6-18CFE 18D1F-18D7F 18DF3-1AFEF",
     "1AFF4 1AFFC 1AFFF 1B123-1B131 1B133-1B14F 1B153-1B154 1B156-1B163 1B168-1B16F",
     "1B2FC-1BBFF 1BC6B-1BC6F 1BC7D-1BC7F 1BC89-1BC8F 1BC9A-1BC9B 1BCA4-1CBFF 1CCFD-1CCFF",
     "1CEB4-1CEB9 1CED1-1CEDF 1CEF1-1CEFF 1CF2E-1CF2F 1CF47-1CF4F 1CFC4-1CFFF 1D0F6-1D0FF",
     "1D127-1D128 1D1EB-1D1FF 1D246-1D2BF 1D2D4-1D2DF 1D2F4-1D2FF 1D357-1D35F 1D379-1D3FF",
     "1D455 1D49D 1D4A0-1D4A1 1D4A3-1D4A4 1D4A7-1D4A8 1D4AD 1D4BA 1D4BC 1D4C4 1D506",
     "1D50B-1D50C 1D515 1D51D 1D53A 1D53F 1D545 1D547-1D549 1D551 1D6A6-1D6A7 1D7CC-1D7CD",
     "1DA8C-1DA9A 1DAA0 1DAB0-1DEFF 1DF1F-1DF24 1DF2B-1DFFF 1E007 1E019-1E01A 1E022 1E025",
     "1E02B-1E02F 1E06E-1E08E 1E090-1E0FF 1E12D-1E12F 1E13E-1E13F 1E14A-1E14D 1E150-1E28F",
     "1E2AF-1E2BF 1E2FA-1E2FE 1E300-1E4CF 1E4FA-1E5CF 1E5FB-1E5FE 1E600-1E6BF 1E6DF",
     "1E6F6-1E6FD 1E700-1E7DF 1E7E7 1E7EC 1E7EF 1E7FF 1E8C5-1E8C6 1E8D7-1E8FF 1E94C-1E94F",
     "1E95A-1E95D 1E960-1EC70 1ECB5-1ED00 1ED3E-1EDFF 1EE04 1EE20 1EE23 1EE25-1EE26 1EE28",
     "1EE33 1EE38 1EE3A 1EE3C-1EE41 1EE43-1EE46 1EE48 1EE4A 1EE4C 1EE50 1EE53 1EE55-1EE56",
     "1EE58 1EE5A 1EE5C 1EE5E 1EE60 1EE63 1EE65-1EE66 1EE6B 1EE73 1EE78 1EE7D 1EE7F 1EE8A",
     "1EE9C-1EEA0 1EEA4 1EEAA 1EEBC-1EEEF 1EEF2-1EFFF 1F02C-1F02F 1F094-1F09F 1F0AF-1F0B0",
     "1F0C0 1F0D0 1F0F6-1F100 1F1AE-1F1E5 1F203-1F20F 1F23C-1F23F 1F249-1F24F 1F252-1F25F",
     "1F266-1F2FF 1F6D9-1F6DB 1F6ED-1F6EF 1F6FD-1F6FF 1F7DA-1F7DF 1F7EC-1F7EF 1F7F1-1F7FF",
     "1F80C-1F80F 1F848-1F84F 1F85A-1F85F 1F888-1F88F 1F8AE-1F8AF 1F8BC-1F8BF 1F8C2-1F8CF",
     "1F8D9-1F8FF 1FA58-1FA5F 1FA6E-1FA6F 1FA7D-1FA7F 1FA8B-1FA8D 1FAC7 1FAC9-1FACC",
     "1FADD-1FADE 1FAEB-1FAEE 1FAF9-1FAFF 1FB93 1FBFB-1FFFF 2A6E0-2A6FF 2B81E-2B81F",
     "2CEAE-2CEAF 2EBE1-2EBEF 2EE5E-2F7FF 2FA1E-2FFFF 3134B-3134F 3347A-E00FF E01F0-10FFFF"]

/-- First and last of characters in a row that become others in a row, at some distance. -/
def shiftedRows : List (Nat × Nat × Int) :=
  [(0x13A0, 0x13F5, 0), (0x13F8, 0x13FD, -8), (0x1D33, 0x1D3A, -7372), (0x1DAE, 0x1DB1, -6972),
   (0x2074, 0x2079, -8256), (0x2080, 0x2089, -8272), (0x2096, 0x2099, -8235),
   (0x2135, 0x2138, -7013), (0x2460, 0x2468, -9263), (0x24B6, 0x24CF, -9301),
   (0x24D0, 0x24E9, -9327), (0x313A, 0x313F, -8074), (0x3145, 0x314E, -8252),
   (0x314F, 0x3163, -8174), (0x3178, 0x317C, -8269), (0x3269, 0x326D, -8539),
   (0x32E4, 0x32E9, -538), (0x32EE, 0x32F2, -528), (0x32F5, 0x32FA, -525), (0x32FB, 0x32FE, -524),
   (0xAB70, 0xABBF, -38864), (0xFE41, 0xFE44, -52789), (0xFF06, 0xFF0E, -65248),
   (0xFF10, 0xFF19, -65248), (0xFF21, 0xFF3A, -65216), (0xFF3F, 0xFF5B, -65248),
   (0xFF85, 0xFF8A, -52923), (0xFF8F, 0xFF93, -52913), (0xFF96, 0xFF9B, -52910),
   (0xFFAA, 0xFFAF, -60922), (0xFFB5, 0xFFBE, -61100), (0xFFC2, 0xFFC7, -61025),
   (0xFFCA, 0xFFCF, -61027), (0xFFD2, 0xFFD7, -61029), (0xFFE9, 0xFFEC, -56921),
   (0x16EA0, 0x16EB8, 27), (0x1CCD6, 0x1CCEF, -117877), (0x1CCF0, 0x1CCF9, -117952),
   (0x1D400, 0x1D419, -119711), (0x1D41A, 0x1D433, -119737), (0x1D434, 0x1D44D, -119763),
   (0x1D44E, 0x1D454, -119789), (0x1D456, 0x1D467, -119789), (0x1D468, 0x1D481, -119815),
   (0x1D482, 0x1D49B, -119841), (0x1D4A9, 0x1D4AC, -119867), (0x1D4AE, 0x1D4B5, -119867),
   (0x1D4B6, 0x1D4B9, -119893), (0x1D4BD, 0x1D4C3, -119893), (0x1D4C5, 0x1D4CF, -119893),
   (0x1D4D0, 0x1D4E9, -119919), (0x1D4EA, 0x1D503, -119945), (0x1D507, 0x1D50A, -119971),
   (0x1D50D, 0x1D514, -119971), (0x1D516, 0x1D51C, -119971), (0x1D51E, 0x1D537, -119997),
   (0x1D53B, 0x1D53E, -120023), (0x1D540, 0x1D544, -120023), (0x1D54A, 0x1D550, -120023),
   (0x1D552, 0x1D56B, -120049), (0x1D56C, 0x1D585, -120075), (0x1D586, 0x1D59F, -120101),
   (0x1D5A0, 0x1D5B9, -120127), (0x1D5BA, 0x1D5D3, -120153), (0x1D5D4, 0x1D5ED, -120179),
   (0x1D5EE, 0x1D607, -120205), (0x1D608, 0x1D621, -120231), (0x1D622, 0x1D63B, -120257),
   (0x1D63C, 0x1D655, -120283), (0x1D656, 0x1D66F, -120309), (0x1D670, 0x1D689, -120335),
   (0x1D68A, 0x1D6A3, -120361), (0x1D6A8, 0x1D6B8, -119543), (0x1D6BA, 0x1D6C0, -119543),
   (0x1D6C2, 0x1D6D2, -119569), (0x1D6D4, 0x1D6DA, -119569), (0x1D6E2, 0x1D6F2, -119601),
   (0x1D6F4, 0x1D6FA, -119601), (0x1D6FC, 0x1D70C, -119627), (0x1D70E, 0x1D714, -119627),
   (0x1D71C, 0x1D72C, -119659), (0x1D72E, 0x1D734, -119659), (0x1D736, 0x1D746, -119685),
   (0x1D748, 0x1D74E, -119685), (0x1D756, 0x1D766, -119717), (0x1D768, 0x1D76E, -119717),
   (0x1D770, 0x1D780, -119743), (0x1D782, 0x1D788, -119743), (0x1D790, 0x1D7A0, -119775),
   (0x1D7A2, 0x1D7A8, -119775), (0x1D7AA, 0x1D7BA, -119801), (0x1D7BC, 0x1D7C2, -119801),
   (0x1D7CE, 0x1D7D7, -120734), (0x1D7D8, 0x1D7E1, -120744), (0x1D7E2, 0x1D7EB, -120754),
   (0x1D7EC, 0x1D7F5, -120764), (0x1D7F6, 0x1D7FF, -120774), (0x1E030, 0x1E038, -121856),
   (0x1E03C, 0x1E046, -121854), (0x1E051, 0x1E059, -121889), (0x1E05F, 0x1E064, -121884),
   (0x1EE0A, 0x1EE0D, -124871), (0x1EE2A, 0x1EE2D, -124903), (0x1F130, 0x1F149, -127183),
   (0x1FBF0, 0x1FBF9, -129984)]

/-- A character, and what it and the ones after it become. -/
def replacedRows : List (Nat × String) :=
  [(0xAA, "a"), (0xB2, "2 3"), (0xB5, "μ"), (0xB9, "1 o"), (0xBC, "1⁄4 1⁄2 3⁄4"), (0x132, "ij ij"),
   (0x13F, "l· l·"), (0x149, "ʼn"), (0x17F, "s"), (0x1C4, "dž dž dž lj lj lj nj nj nj"),
   (0x1F1, "dz dz dz"), (0x2B0, "h ɦ j r ɹ ɻ ʁ w y"), (0x2E0, "ɣ l s x ʕ"),
   (0x340, "\u0300 \u0301"), (0x343, "\u0313 \u0308\u0301 ι"), (0x374, "ʹ"), (0x37E, ";"),
   (0x387, "·"), (0x3D0, "β θ υ ύ ϋ φ π"), (0x3F0, "κ ρ σ"), (0x3F5, "ε"), (0x3F9, "σ"),
   (0x587, "եւ"), (0x675, "اٴ وٴ ۇٴ يٴ"),
   (0x958, "क\u093c ख\u093c ग\u093c ज\u093c ड\u093c ढ\u093c फ\u093c य\u093c"),
   (0x9DC, "ড\u09bc ঢ\u09bc"), (0x9DF, "য\u09bc"), (0xA33, "ਲ\u0a3c"), (0xA36, "ਸ\u0a3c"),
   (0xA59, "ਖ\u0a3c ਗ\u0a3c ਜ\u0a3c"), (0xA5E, "ਫ\u0a3c"), (0xB5C, "ଡ\u0b3c ଢ\u0b3c"),
   (0xE33, "\u0e4dา"), (0xEB3, "\u0ecdາ"), (0xEDC, "ຫນ ຫມ"), (0xF0C, "་"), (0xF43, "ག\u0fb7"),
   (0xF4D, "ཌ\u0fb7"), (0xF52, "ད\u0fb7"), (0xF57, "བ\u0fb7"), (0xF5C, "ཛ\u0fb7"),
   (0xF69, "ཀ\u0fb5"), (0xF73, "\u0f71\u0f72"),
   (0xF75, "\u0f71\u0f74 \u0fb2\u0f80 \u0fb2\u0f71\u0f80 \u0fb3\u0f80 \u0fb3\u0f71\u0f80"),
   (0xF81, "\u0f71\u0f80"), (0xF93, "\u0f92\u0fb7"), (0xF9D, "\u0f9c\u0fb7"),
   (0xFA2, "\u0fa1\u0fb7"), (0xFA7, "\u0fa6\u0fb7"), (0xFAC, "\u0fab\u0fb7"),
   (0xFB9, "\u0f90\u0fb5"), (0x10FC, "ნ"), (0x1C80, "в д о с т т ъ ѣ ꙋ"), (0x1D2C, "a æ b"),
   (0x1D30, "d e ǝ"), (0x1D3C, "o ȣ p r t u w a ɐ ɑ ᴂ b d e ə ɛ ɜ g"),
   (0x1D4F, "k m ŋ o ɔ ᴖ ᴗ p t u ᴝ ɯ v ᴥ β γ δ φ χ i r u v β γ ρ φ χ"), (0x1D78, "н"),
   (0x1D9B, "ɒ c ɕ ð ɜ f ɟ ɡ ɥ ɨ ɩ ɪ ᵻ ʝ ɭ ᶅ ʟ ɱ ɰ"), (0x1DB2, "ɸ ʂ ʃ ƫ ʉ ʊ ᴜ ʋ ʌ z ʐ ʑ ʒ θ"),
   (0x1E9A, "aʾ ṡ"), (0x1F71, "ά"), (0x1F73, "έ"), (0x1F75, "ή"), (0x1F77, "ί"), (0x1F79, "ό"),
   (0x1F7B, "ύ"), (0x1F7D, "ώ"),
   (0x1F80, "ἀι ἁι ἂι ἃι ἄι ἅι ἆι ἇι ἀι ἁι ἂι ἃι ἄι ἅι ἆι ἇι ἠι ἡι ἢι ἣι ἤι ἥι ἦι ἧι ἠι ἡι"),
   (0x1F9A, "ἢι ἣι ἤι ἥι ἦι ἧι ὠι ὡι ὢι ὣι ὤι ὥι ὦι ὧι ὠι ὡι ὢι ὣι ὤι ὥι ὦι ὧι"),
   (0x1FB2, "ὰι αι άι"), (0x1FB7, "ᾶι"), (0x1FBB, "ά αι"), (0x1FBE, "ι"), (0x1FC2, "ὴι ηι ήι"),
   (0x1FC7, "ῆι"), (0x1FC9, "έ"), (0x1FCB, "ή ηι"), (0x1FD3, "ΐ"), (0x1FDB, "ί"), (0x1FE3, "ΰ"),
   (0x1FEB, "ύ"), (0x1FEF, "\x60"), (0x1FF2, "ὼι ωι ώι"), (0x1FF7, "ῶι"), (0x1FF9, "ό"),
   (0x1FFB, "ώ ωι"), (0x2011, "‐"), (0x2033, "′′ ′′′"), (0x2036, "‵‵ ‵‵‵"), (0x203C, "!!"),
   (0x2057, "′′′′"), (0x2070, "0 i"), (0x207A, "+ − = ( ) n"), (0x208A, "+ − = ( )"),
   (0x2090, "a e o x ə h"), (0x209A, "p s t"), (0x20A8, "rs"), (0x2102, "c °c"), (0x2107, "ɛ"),
   (0x2109, "°f g h h h h ħ i i l l"), (0x2115, "n no"), (0x2119, "p q r r r"),
   (0x2120, "sm tel tm"), (0x2124, "z"), (0x2128, "z"), (0x212C, "b c"), (0x212F, "e e f"),
   (0x2133, "m o"), (0x2139, "i"), (0x213B, "fax π γ γ π ∑"), (0x2145, "d d e i j"),
   (0x2150, "1⁄7 1⁄9 1⁄10 1⁄3 2⁄3 1⁄5 2⁄5 3⁄5 4⁄5 1⁄6 5⁄6 1⁄8 3⁄8 5⁄8 7⁄8 1⁄ i ii iii iv v"),
   (0x2165, "vi vii viii ix x xi xii l c d m i ii iii iv v vi vii viii ix x xi xii l c d m"),
   (0x2189, "0⁄3"), (0x222C, "∫∫ ∫∫∫"), (0x222F, "∮∮ ∮∮∮"), (0x2329, "〈 〉"),
   (0x2469, "10 11 12 13 14 15 16 17 18 19 20 (1) (2) (3) (4) (5) (6) (7) (8) (9) (10) (11)"),
   (0x247F, "(12) (13) (14) (15) (16) (17) (18) (19) (20)"),
   (0x249C, "(a) (b) (c) (d) (e) (f) (g) (h) (i) (j) (k) (l) (m) (n) (o) (p) (q) (r) (s)"),
   (0x24AF, "(t) (u) (v) (w) (x) (y) (z)"), (0x24EA, "0"), (0x2A0C, "∫∫∫∫"), (0x2A75, "== ==="),
   (0x2ADC, "⫝\u0338"), (0x2C7C, "j v"), (0x2D6F, "ⵡ"), (0x2E9F, "母"), (0x2EF3, "龟"),
   (0x2F00, "一 丨 丶 丿 乙 亅 二 亠 人 儿 入 八 冂 冖 冫 几 凵 刀 力 勹 匕 匚 匸 十 卜 卩 厂 厶 又 口 囗 土 士 夂 夊 夕 大 女 子"),
   (0x2F27, "宀 寸 小 尢 尸 屮 山 巛 工 己 巾 干 幺 广 廴 廾 弋 弓 彐 彡 彳 心 戈 戶 手 支 攴 文 斗 斤 方 无 日 曰 月 木 欠 止 歹"),
   (0x2F4E, "殳 毋 比 毛 氏 气 水 火 爪 父 爻 爿 片 牙 牛 犬 玄 玉 瓜 瓦 甘 生 用 田 疋 疒 癶 白 皮 皿 目 矛 矢 石 示 禸 禾 穴 立"),
   (0x2F75, "竹 米 糸 缶 网 羊 羽 老 而 耒 耳 聿 肉 臣 自 至 臼 舌 舛 舟 艮 色 艸 虍 虫 血 行 衣 襾 見 角 言 谷 豆 豕 豸 貝 赤 走"),
   (0x2F9C, "足 身 車 辛 辰 辵 邑 酉 釆 里 金 長 門 阜 隶 隹 雨 靑 非 面 革 韋 韭 音 頁 風 飛 食 首 香 馬 骨 高 髟 鬥 鬯 鬲 鬼 魚"),
   (0x2FC3, "鳥 鹵 鹿 麥 麻 黃 黍 黑 黹 黽 鼎 鼓 鼠 鼻 齊 齒 龍 龜 龠"), (0x3002, "."), (0x3036, "〒"),
   (0x3038, "十 卄 卅"), (0x309F, "より"), (0x30FF, "コト"), (0x3131, "ᄀ ᄁ ᆪ ᄂ ᆬ ᆭ ᄃ ᄄ ᄅ"),
   (0x3140, "ᄚ ᄆ ᄇ ᄈ ᄡ"), (0x3165, "ᄔ ᄕ ᇇ ᇈ ᇌ ᇎ ᇓ ᇗ ᇙ ᄜ ᇝ ᇟ ᄝ ᄞ ᄠ ᄢ ᄣ ᄧ ᄩ"),
   (0x317D, "ᄲ ᄶ ᅀ ᅇ ᅌ ᇱ ᇲ ᅗ ᅘ ᅙ ᆄ ᆅ ᆈ ᆑ ᆒ ᆔ ᆞ ᆡ"), (0x3192, "一 二 三 四 上 中 下 甲 乙 丙 丁 天 地 人"),
   (0x3200, "(ᄀ) (ᄂ) (ᄃ) (ᄅ) (ᄆ) (ᄇ) (ᄉ) (ᄋ) (ᄌ) (ᄎ) (ᄏ) (ᄐ) (ᄑ) (ᄒ) (가) (나) (다) (라) (마)"),
   (0x3213, "(바) (사) (아) (자) (차) (카) (타) (파) (하) (주) (오전) (오후)"),
   (0x3220, "(一) (二) (三) (四) (五) (六) (七) (八) (九) (十) (月) (火) (水) (木) (金) (土) (日) (株) (有)"),
   (0x3233, "(社) (名) (特) (財) (祝) (労) (代) (呼) (学) (監) (企) (資) (協) (祭) (休) (自) (至) 問 幼 文 箏"),
   (0x3250, "pte 21 22 23 24 25 26 27 28 29 30 31 32 33 34 35 ᄀ ᄂ ᄃ ᄅ ᄆ ᄇ ᄉ ᄋ ᄌ"),
   (0x326E, "가 나 다 라 마 바 사 아 자 차 카 타 파 하 참고 주의 우"),
   (0x3280, "一 二 三 四 五 六 七 八 九 十 月 火 水 木 金 土 日 株 有 社 名 特 財 祝 労 秘 男 女 適 優 印 注 項 休 写 正 上 中 下"),
   (0x32A7, "左 右 医 宗 学 監 企 資 協 夜 36 37 38 39 40 41 42 43 44 45 46 47 48 49 50 1月 2月 3月 4月"),
   (0x32C4, "5月 6月 7月 8月 9月 10月 11月 12月 hg erg ev ltd ア イ ウ エ オ カ キ ク ケ コ サ シ ス セ ソ タ チ ツ テ"),
   (0x32E3, "ト"), (0x32EA, "ヒ フ ヘ ホ"), (0x32F3, "ヤ ユ"),
   (0x32FF, "令和 アパート アルファ アンペア アール イニング インチ ウォン エスクード エーカー オンス オーム カイリ カラット カロリー ガロン ガンマ ギガ"),
   (0x3311, "ギニー キュリー ギルダー キロ キログラム キロメートル キロワット グラム グラムトン クルゼイロ クローネ ケース コルナ コーポ サイクル"),
   (0x3320, "サンチーム シリング センチ セント ダース デシ ドル トン ナノ ノット ハイツ パーセント パーツ バーレル ピアストル ピクル ピコ ビル"),
   (0x3332, "ファラッド フィート ブッシェル フラン ヘクタール ペソ ペニヒ ヘルツ ペンス ページ ベータ ポイント ボルト ホン ポンド ホール ホーン マイクロ"),
   (0x3344, "マイル マッハ マルク マンション ミクロン ミリ ミリバール メガ メガトン メートル ヤード ヤール ユアン リットル リラ ルピー ルーブル レム"),
   (0x3356, "レントゲン ワット 0点 1点 2点 3点 4点 5点 6点 7点 8点 9点 10点 11点 12点 13点 14点 15点 16点 17点 18点"),
   (0x336B, "19点 20点 21点 22点 23点 24点 hpa da au bar ov pc dm dm2 dm3 iu 平成 昭和 大正 明治 株式会社 pa"),
   (0x3381, "na μa ma ka kb mb gb cal kcal pf nf μf μg mg kg hz khz mhz ghz thz μl ml dl kl"),
   (0x3399, "fm nm μm mm cm km mm2 cm2 m2 km2 mm3 cm3 m3 km3 m∕s m∕s2 pa kpa mpa gpa rad"),
   (0x33AE, "rad∕s rad∕s2 ps ns μs ms pv nv μv mv kv mv pw nw μw mw kw mw kω mω"),
   (0x33C3, "bq cc cd c∕kg"), (0x33C8, "db gy ha hp in kk km kt lm ln log lx mb mil mol ph"),
   (0x33D9, "ppm pr sr sv wb v∕m a∕m 1日 2日 3日 4日 5日 6日 7日 8日 9日 10日 11日 12日 13日 14日 15日 16日"),
   (0x33F0, "17日 18日 19日 20日 21日 22日 23日 24日 25日 26日 27日 28日 29日 30日 31日 gal"), (0xA69C, "ъ ь"),
   (0xA770, "ꝯ"), (0xA7CE, "\ua7cf"), (0xA7D2, "ꟓ"), (0xA7D4, "ꟕ"), (0xA7F1, "s c f q"),
   (0xA7F8, "ħ œ"), (0xAB5C, "ꜧ ꬷ ɫ ꭒ"), (0xAB69, "ʍ"),
   (0xF900, "豈 更 車 賈 滑 串 句 龜 龜 契 金 喇 奈 懶 癩 羅 蘿 螺 裸 邏 樂 洛 烙 珞 落 酪 駱 亂 卵 欄 爛 蘭 鸞 嵐 濫 藍 襤 拉 臘"),
   (0xF927, "蠟 廊 朗 浪 狼 郎 來 冷 勞 擄 櫓 爐 盧 老 蘆 虜 路 露 魯 鷺 碌 祿 綠 菉 錄 鹿 論 壟 弄 籠 聾 牢 磊 賂 雷 壘 屢 樓 淚"),
   (0xF94E, "漏 累 縷 陋 勒 肋 凜 凌 稜 綾 菱 陵 讀 拏 樂 諾 丹 寧 怒 率 異 北 磻 便 復 不 泌 數 索 參 塞 省 葉 說 殺 辰 沈 拾 若"),
   (0xF975, "掠 略 亮 兩 凉 梁 糧 良 諒 量 勵 呂 女 廬 旅 濾 礪 閭 驪 麗 黎 力 曆 歷 轢 年 憐 戀 撚 漣 煉 璉 秊 練 聯 輦 蓮 連 鍊"),
   (0xF99C, "列 劣 咽 烈 裂 說 廉 念 捻 殮 簾 獵 令 囹 寧 嶺 怜 玲 瑩 羚 聆 鈴 零 靈 領 例 禮 醴 隸 惡 了 僚 寮 尿 料 樂 燎 療 蓼"),
   (0xF9C3, "遼 龍 暈 阮 劉 杻 柳 流 溜 琉 留 硫 紐 類 六 戮 陸 倫 崙 淪 輪 律 慄 栗 率 隆 利 吏 履 易 李 梨 泥 理 痢 罹 裏 裡 里"),
   (0xF9EA, "離 匿 溺 吝 燐 璘 藺 隣 鱗 麟 林 淋 臨 立 笠 粒 狀 炙 識 什 茶 刺 切 度 拓 糖 宅 洞 暴 輻 行 降 見 廓 兀 嗀"),
   (0xFA10, "塚"), (0xFA12, "晴"), (0xFA15, "凞 猪 益 礼 神 祥 福 靖 精 羽"), (0xFA20, "蘒"), (0xFA22, "諸"),
   (0xFA25, "逸 都"),
   (0xFA2A, "飯 飼 館 鶴 郞 隷 侮 僧 免 勉 勤 卑 喝 嘆 器 塀 墨 層 屮 悔 慨 憎 懲 敏 既 暑 梅 海 渚 漢 煮 爫 琢 碑 社 祉 祈 祐 祖"),
   (0xFA51, "祝 禍 禎 穀 突 節 練 縉 繁 署 者 臭 艹 艹 著 褐 視 謁 謹 賓 贈 辶 逸 難 響 頻 恵 𤋮 舘"),
   (0xFA70, "並 况 全 侀 充 冀 勇 勺 喝 啕 喙 嗢 塚 墳 奄 奔 婢 嬨 廒 廙 彩 徭 惘 慎 愈 憎 慠 懲 戴 揄 搜 摒 敖 晴 朗 望 杖 歹 殺"),
   (0xFA97, "流 滛 滋 漢 瀞 煮 瞧 爵 犯 猪 瑱 甆 画 瘝 瘟 益 盛 直 睊 着 磌 窱 節 类 絛 練 缾 者 荒 華 蝹 襁 覆 視 調 諸 請 謁 諾"),
   (0xFABE, "諭 謹 變 贈 輸 遲 醙 鉶 陼 難 靖 韛 響 頋 頻 鬒 龜 𢡊 𢡄 𣏕 㮝 䀘 䀹 𥉉 𥳐 𧻓 齃 龎"),
   (0xFB00, "ff fi fl ffi ffl st st"), (0xFB13, "մն մե մի վն մխ"), (0xFB1D, "י\u05b4"),
   (0xFB1F, "ײ\u05b7 ע א ד ה כ ל ם ר ת + ש\u05c1 ש\u05c2 ש\u05bc\u05c1 ש\u05bc\u05c2"),
   (0xFB2E, "א\u05b7 א\u05b8 א\u05bc ב\u05bc ג\u05bc ד\u05bc ה\u05bc ו\u05bc ז\u05bc"),
   (0xFB38, "ט\u05bc י\u05bc ך\u05bc כ\u05bc ל\u05bc"), (0xFB3E, "מ\u05bc"),
   (0xFB40, "נ\u05bc ס\u05bc"), (0xFB43, "ף\u05bc פ\u05bc"),
   (0xFB46, "צ\u05bc ק\u05bc ר\u05bc ש\u05bc ת\u05bc ו\u05b9 ב\u05bf כ\u05bf פ\u05bf אל ٱ ٱ"),
   (0xFB52, "ٻ ٻ ٻ ٻ پ پ پ پ ڀ ڀ ڀ ڀ ٺ ٺ ٺ ٺ ٿ ٿ ٿ ٿ ٹ ٹ ٹ ٹ ڤ ڤ ڤ ڤ ڦ ڦ ڦ ڦ ڄ ڄ ڄ ڄ ڃ ڃ ڃ"),
   (0xFB79, "ڃ چ چ چ چ ڇ ڇ ڇ ڇ ڍ ڍ ڌ ڌ ڎ ڎ ڈ ڈ ژ ژ ڑ ڑ ک ک ک ک گ گ گ گ ڳ ڳ ڳ ڳ ڱ ڱ ڱ ڱ ں ں"),
   (0xFBA0, "ڻ ڻ ڻ ڻ ۀ ۀ ہ ہ ہ ہ ھ ھ ھ ھ ے ے ۓ ۓ"),
   (0xFBD3, "ڭ ڭ ڭ ڭ ۇ ۇ ۆ ۆ ۈ ۈ ۇٴ ۋ ۋ ۅ ۅ ۉ ۉ ې ې ې ې ى ى ئا ئا ئە ئە ئو ئو ئۇ ئۇ ئۆ ئۆ"),
   (0xFBF4, "ئۈ ئۈ ئې ئې ئې ئى ئى ئى ی ی ی ی ئج ئح ئم ئى ئي بج بح بخ بم بى بي تج تح تخ تم"),
   (0xFC0F, "تى تي ثج ثم ثى ثي جح جم حج حم خج خح خم سج سح سخ سم صح صم ضج ضح ضخ ضم طح طم ظم"),
   (0xFC29, "عج عم غج غم فج فح فخ فم فى في قح قم قى قي كا كج كح كخ كل كم كى كي لج لح لخ لم"),
   (0xFC43, "لى لي مج مح مخ مم مى مي نج نح نخ نم نى ني هج هم هى هي يج يح يخ يم يى يي"),
   (0xFC5B, "ذ\u0670 ر\u0670 ى\u0670"),
   (0xFC64, "ئر ئز ئم ئن ئى ئي بر بز بم بن بى بي تر تز تم تن تى تي ثر ثز ثم ثن ثى ثي فى في"),
   (0xFC7E, "قى قي كا كل كم كى كي لم لى لي ما مم نر نز نم نن نى ني ى\u0670 ير يز يم ين يى"),
   (0xFC96, "يي ئج ئح ئخ ئم ئه بج بح بخ بم به تج تح تخ تم ته ثم جح جم حج حم خج خم سج سح سخ"),
   (0xFCB0, "سم صح صخ صم ضج ضح ضخ ضم طح ظم عج عم غج غم فج فح فخ فم قح قم كج كح كخ كل كم لج"),
   (0xFCCA, "لح لخ لم له مج مح مخ مم نج نح نخ نم نه هج هم ه\u0670 يج يح يخ يم يه ئم ئه بم"),
   (0xFCE2, "به تم ته ثم ثه سم سه شم شه كل كم لم نم نه يم يه ـ\u064e\u0651 ـ\u064f\u0651"),
   (0xFCF4, "ـ\u0650\u0651 طى طي عى عي غى غي سى سي شى شي حى حي جى جي خى خي صى صي ضى ضي شج"),
   (0xFD0A, "شح شخ شم شر سر صر ضر طى طي عى عي غى غي سى سي شى شي حى حي جى جي خى خي صى صي ضى"),
   (0xFD24, "ضي شج شح شخ شم شر سر صر ضر شج شح شخ شم سه شه طم سج سح سخ شج شح شخ طم ظم"),
   (0xFD3C, "ا\u064b ا\u064b"),
   (0xFD50, "تجم تحج تحج تحم تخم تمج تمح تمخ جمح جمح حمي حمى سحج سجح سجى سمح سمح سمج سمم"),
   (0xFD63, "سمم صحح صحح صمم شحم شحم شجي شمخ شمخ شمم شمم ضحى ضخم ضخم طمح طمح طمم طمي عجم"),
   (0xFD76, "عمم عمم عمى غمم غمي غمى فخم فخم قمح قمم لحم لحي لحى لجج لجج لخم لخم لمح لمح"),
   (0xFD89, "محج محم محي مجح مجم مخج مخم"),
   (0xFD92, "مجخ همج همم نحم نحى نجم نجم نجى نمي نمى يمم يمم بخي تجي تجى تخي تخى تمي تمى"),
   (0xFDA5, "جمي جحى جمى سخى صحي شحي ضحي لجي لمي يحي يجي يمي ممي قمي نحي قمح لحم عمي كمي"),
   (0xFDB8, "نجح مخي لجم كمم لجم نجح جحي حجي مجي فمي بحي كمم عجم صمم سخي نجي"),
   (0xFDF0, "صلے قلے الله اكبر محمد صلعم رسول عليه وسلم صلى"), (0xFDFC, "ریال"), (0xFE10, ", 、"),
   (0xFE14, "; !"), (0xFE17, "〖 〗"), (0xFE31, "— – _ _ ( ) \x7b \x7d 〔 〕 【 】 《 》 〈 〉"),
   (0xFE4D, "_ _ _ , 、"), (0xFE54, ";"), (0xFE57, "! — ( ) \x7b \x7d 〔 〕"), (0xFE60, "& * + -"),
   (0xFE66, "="), (0xFE69, "$"), (0xFE71, "ـ\u064b"), (0xFE77, "ـ\u064e"), (0xFE79, "ـ\u064f"),
   (0xFE7B, "ـ\u0650"), (0xFE7D, "ـ\u0651"),
   (0xFE7F, "ـ\u0652 ء آ آ أ أ ؤ ؤ إ إ ئ ئ ئ ئ ا ا ب ب ب ب ة ة ت ت ت ت ث ث ث ث ج ج ج ج ح ح"),
   (0xFEA3, "ح ح خ خ خ خ د د ذ ذ ر ر ز ز س س س س ش ش ش ش ص ص ص ص ض ض ض ض ط ط ط ط ظ ظ ظ ظ ع"),
   (0xFECA, "ع ع ع غ غ غ غ ف ف ف ف ق ق ق ق ك ك ك ك ل ل ل ل م م م م ن ن ن ن ه ه ه ه و و ى ى"),
   (0xFEF1, "ي ي ي ي لآ لآ لأ لأ لإ لإ لا لا"), (0xFF01, "! \""), (0xFF04, "$"), (0xFF1B, ";"),
   (0xFF1D, "="),
   (0xFF5D, "\x7d ~ ⦅ ⦆ . 「 」 、 ・ ヲ ァ ィ ゥ ェ ォ ャ ュ ョ ッ ー ア イ ウ エ オ カ キ ク ケ コ サ シ ス セ ソ タ チ ツ"),
   (0xFF83, "テ ト"), (0xFF8B, "ヒ フ ヘ ホ"), (0xFF94, "ヤ ユ"), (0xFF9C, "ワ ン \u3099 \u309a"),
   (0xFFA1, "ᄀ ᄁ ᆪ ᄂ ᆬ ᆭ ᄃ ᄄ ᄅ"), (0xFFB0, "ᄚ ᄆ ᄇ ᄈ ᄡ"), (0xFFDA, "ᅳ ᅴ ᅵ"), (0xFFE0, "¢ £ ¬"),
   (0xFFE4, "¦ ¥ ₩"), (0xFFE8, "│"), (0xFFED, "■ ○"), (0x10781, "ː ˑ æ ʙ ɓ"),
   (0x10787, "ʣ ꭦ ʥ ʤ ɖ ɗ ᶑ ɘ ɞ ʩ ɤ ɢ ɠ ʛ ħ ʜ ɧ ʄ ʪ ʫ ɬ 𝼄 ꞎ ɮ 𝼅 ʎ 𝼆 ø ɶ ɷ q ɺ 𝼈 ɽ ɾ ʀ ʨ ʦ ꭧ"),
   (0x107AE, "ʧ ʈ ⱱ"), (0x107B2, "ʏ ʡ ʢ ʘ ǀ ǁ ǂ 𝼊 𝼞"), (0x1D15E, "𝅗𝅥 𝅘𝅥 𝅘𝅥𝅮 𝅘𝅥𝅯 𝅘𝅥𝅰 𝅘𝅥𝅱 𝅘𝅥𝅲"),
   (0x1D1BB, "𝆹𝅥 𝆺𝅥 𝆹𝅥𝅮 𝆺𝅥𝅮 𝆹𝅥𝅯 𝆺𝅥𝅯"), (0x1D49C, "a"), (0x1D49E, "c d"), (0x1D4A2, "g"),
   (0x1D4A5, "j k"), (0x1D4BB, "f"), (0x1D504, "a b"), (0x1D538, "a b"), (0x1D546, "o"),
   (0x1D6A4, "ı ȷ"), (0x1D6B9, "θ"), (0x1D6C1, "∇"), (0x1D6D3, "σ"), (0x1D6DB, "∂ ε θ κ φ ρ π"),
   (0x1D6F3, "θ"), (0x1D6FB, "∇"), (0x1D70D, "σ"), (0x1D715, "∂ ε θ κ φ ρ π"), (0x1D72D, "θ"),
   (0x1D735, "∇"), (0x1D747, "σ"), (0x1D74F, "∂ ε θ κ φ ρ π"), (0x1D767, "θ"), (0x1D76F, "∇"),
   (0x1D781, "σ"), (0x1D789, "∂ ε θ κ φ ρ π"), (0x1D7A1, "θ"), (0x1D7A9, "∇"), (0x1D7BB, "σ"),
   (0x1D7C3, "∂ ε θ κ φ ρ π ϝ ϝ"), (0x1E039, "к л м"), (0x1E047, "ы э ю ꚉ ә і ј ө ү ӏ"),
   (0x1E05A, "к л о п с"), (0x1E065, "ъ ы ґ і ѕ џ ҫ ꙑ ұ"), (0x1EE00, "ا ب ج د"),
   (0x1EE05, "و ز ح ط ي"), (0x1EE0E, "س ع ف ص ق ر ش ت ث خ ذ ض ظ غ ٮ ں ڡ ٯ"), (0x1EE21, "ب ج"),
   (0x1EE24, "ه"), (0x1EE27, "ح"), (0x1EE29, "ي"), (0x1EE2E, "س ع ف ص ق"), (0x1EE34, "ش ت ث خ"),
   (0x1EE39, "ض"), (0x1EE3B, "غ"), (0x1EE42, "ج"), (0x1EE47, "ح"), (0x1EE49, "ي"), (0x1EE4B, "ل"),
   (0x1EE4D, "ن س ع"), (0x1EE51, "ص ق"), (0x1EE54, "ش"), (0x1EE57, "خ"), (0x1EE59, "ض"),
   (0x1EE5B, "غ"), (0x1EE5D, "ں"), (0x1EE5F, "ٯ"), (0x1EE61, "ب ج"), (0x1EE64, "ه"),
   (0x1EE67, "ح ط ي ك"), (0x1EE6C, "م ن س ع ف ص ق"), (0x1EE74, "ش ت ث خ"), (0x1EE79, "ض ظ غ ٮ"),
   (0x1EE7E, "ڡ"), (0x1EE80, "ا ب ج د ه و ز ح ط ي"),
   (0x1EE8B, "ل م ن س ع ف ص ق ر ش ت ث خ ذ ض ظ غ"), (0x1EEA1, "ب ج د"), (0x1EEA5, "و ز ح ط ي"),
   (0x1EEAB, "ل م ن س ع ف ص ق ر ش ت ث خ ذ ض ظ غ"), (0x1F101, "0, 1, 2, 3, 4, 5, 6, 7, 8, 9,"),
   (0x1F110, "(a) (b) (c) (d) (e) (f) (g) (h) (i) (j) (k) (l) (m) (n) (o) (p) (q) (r) (s)"),
   (0x1F123, "(t) (u) (v) (w) (x) (y) (z) 〔s〕 c r cd wz"), (0x1F14A, "hv mv sd ss ppv wc"),
   (0x1F16A, "mc md mr"), (0x1F190, "dj"), (0x1F200, "ほか ココ サ"),
   (0x1F210, "手 字 双 デ 二 多 解 天 交 映 無 料 前 後 再 新 初 終 生 販 声 吹 演 投 捕 一 三 遊 左 中 右 指 走 打 禁 空 合 満 有"),
   (0x1F237, "月 申 割 営 配"), (0x1F240, "〔本〕 〔三〕 〔二〕 〔安〕 〔点〕 〔打〕 〔盗〕 〔勝〕 〔敗〕"), (0x1F250, "得 可"),
   (0x2F800, "丽 丸 乁 𠄢 你 侮 侻 倂 偺 備 僧 像 㒞 𠘺 免 兔 兤 具 𠔜 㒹 內 再 𠕋 冗 冤 仌 冬 况 𩇟 凵 刃 㓟 刻 剆 割 剷 㔕 勇 勉"),
   (0x2F827, "勤 勺 包 匆 北 卉 卑 博 即 卽 卿 卿 卿 𠨬 灰 及 叟 𠭣 叫 叱 吆 咞 吸 呈 周 咢 哶 唐 啓 啣 善 善 喙 喫 喳 嗂 圖 嘆 圗"),
   (0x2F84E, "噑 噴 切 壮 城 埴 堍 型 堲 報 墬 𡓤 売 壷 夆 多 夢 奢 𡚨 𡛪 姬 娛 娧 姘 婦 㛮 㛼 嬈 嬾 嬾 𡧈 寃 寘 寧 寳 𡬘 寿 将 当"),
   (0x2F875, "尢 㞁 屠 屮 峀 岍 𡷤 嵃 𡷦 嵮 嵫 嵼 巡 巢 㠯 巽 帨 帽 幩 㡢 𢆃 㡼 庰 庳 庶 廊 𪎒 廾 𢌱 𢌱 舁 弢 弢 㣇 𣊸 𦇚 形 彫 㣣"),
   (0x2F89C, "徚 忍 志 忹 悁 㤺 㤜 悔 𢛔 惇 慈 慌 慎 慌 慺 憎 憲 憤 憯 懞 懲 懶 成 戛 扝 抱 拔 捐 𢬌 挽 拼 捨 掃 揤 𢯱 搢 揅 掩 㨮"),
   (0x2F8C3, "摩 摾 撝 摷 㩬 敏 敬 𣀊 旣 書 晉 㬙 暑 㬈 㫤 冒 冕 最 暜 肭 䏙 朗 望 朡 杞 杓 𣏃 㭉 柺 枅 桒 梅 𣑭 梎 栟 椔 㮝 楂 榣"),
   (0x2F8EA, "槪 檨 𣚣 櫛 㰘 次 𣢧 歔 㱎 歲 殟 殺 殻 𣪍 𡴋 𣫺 汎 𣲼 沿 泍 汧 洖 派 海 流 浩 浸 涅 𣴞 洴 港 湮 㴳 滋 滇 𣻑 淹 潮 𣽞"),
   (0x2F911, "𣾎 濆 瀹 瀞 瀛 㶖 灊 災 灷 炭 𠔥 煅 𤉣 熜 𤎫 爨 爵 牐 𤘈 犀 犕 𤜵 𤠔 獺 王 㺬 玥 㺸 㺸 瑇 瑜 瑱 璅 瓊 㼛 甤 𤰶 甾 𤲒"),
   (0x2F938, "異 𢆟 瘐 𤾡 𤾸 𥁄 㿼 䀈 直 𥃳 𥃲 𥄙 𥄳 眞 真 真 睊 䀹 瞋 䁆 䂖 𥐝 硎 碌 磌 䃣 𥘦 祖 𥚚 𥛅 福 秫 䄯 穀 穊 穏 𥥼 𥪧 𥪧"),
   (0x2F95F, "竮 䈂 𥮫 篆 築 䈧 𥲀 糒 䊠 糨 糣 紀 𥾆 絣 䌁 緇 縂 繅 䌴 𦈨 𦉇 䍙 𦋙 罺 𦌾 羕 翺 者 𦓚 𦔣 聠 𦖨 聰 𣍟 䏕 育 脃 䐋 脾"),
   (0x2F986, "媵 𦞧 𦞵 𣎓 𣎜 舁 舄 辞 䑫 芑 芋 芝 劳 花 芳 芽 苦 𦬼 若 茝 荣 莭 茣 莽 菧 著 荓 菊 菌 菜 𦰶 𦵫 𦳕 䔫 蓱 蓳 蔖 𧏊 蕤"),
   (0x2F9AD, "𦼬 䕝 䕡 𦾱 𧃒 䕫 虐 虜 虧 虩 蚩 蚈 蜎 蛢 蝹 蜨 蝫 螆 䗗 蟡 蠁 䗹 衠 衣 𧙧 裗 裞 䘵 裺 㒻 𧢮 𧥦 䚾 䛇 誠 諭 變 豕 𧲨"),
   (0x2F9D4, "貫 賁 贛 起 𧼯 𠠄 跋 趼 跰 𠣞 軔 輸 𨗒 𨗭 邔 郱 鄑 𨜮 鄛 鈸 鋗 鋘 鉼 鏹 鐕 𨯺 開 䦕 閷 𨵷 䧦 雃 嶲 霣 𩅅 𩈚 䩮 䩶 韠"),
   (0x2F9FB, "𩐊 䪲 𩒖 頋 頋 頩 𩖶 飢 䬳 餩 馧 駂 駾 䯎 𩬰 鬒 鱀 鳽 䳎 䳭 鵧 𪃎 䳸 𪄅 𪈎 𪊑 麻 䵖 黹 黾 鼅 鼏 鼖 鼻 𪘀")]

def shifted? (c : Char) : Option (List Char) :=
  shiftedRows.findSome? fun (first, last, distance) =>
    if first ≤ c.toNat ∧ c.toNat ≤ last then some [Char.ofNat (c.toNat + distance).toNat] else none

def replaced? (c : Char) : Option (List Char) :=
  replacedRows.findSome? fun (first, texts) =>
    if first ≤ c.toNat then (Text.fields ' ' texts.toList)[c.toNat - first]? else none

def mapped? (c : Char) : Option (List Char) :=
  if c.toNat < 128 then some (Text.lowercase c)
  else if disallowed.contains c then none
  else if ignored.contains c then some []
  else some (((shifted? c).or (replaced? c)).getD (Text.lowercase c))

def isStable (c : Char) : Bool :=
  mapped? c == some [c]

end ServerProbe.Url.DomainName
