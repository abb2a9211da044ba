import Tenancy.Text.Ranges

/-!
# Characters of domain names

What becomes of a character of a domain name before the name is taken apart: it stays, it is left
out, other characters take its place, or it is refused. Capital letters become small ones, and
variants of a character for the sake of print become that character.
-/

namespace Tenancy.Url

/-- The characters beyond ASCII that no domain name may hold. -/
def refusedRanges : List (Nat × Nat) :=
  [(0x80, 0xA0), (0xA8, 0xA8), (0xAF, 0xAF), (0xB4, 0xB4), (0xB8, 0xB8), (0x2D8, 0x2DD),
    (0x378, 0x37A), (0x380, 0x385), (0x38B, 0x38B), (0x38D, 0x38D), (0x3A2, 0x3A2), (0x530, 0x530),
    (0x557, 0x558), (0x58B, 0x58C), (0x590, 0x590), (0x5C8, 0x5CF), (0x5EB, 0x5EE), (0x5F5, 0x605),
    (0x61C, 0x61C), (0x6DD, 0x6DD), (0x70E, 0x70F), (0x74B, 0x74C), (0x7B2, 0x7BF), (0x7FB, 0x7FC),
    (0x82E, 0x82F), (0x83F, 0x83F), (0x85C, 0x85D), (0x85F, 0x85F), (0x86B, 0x86F), (0x890, 0x896),
    (0x8E2, 0x8E2), (0x984, 0x984), (0x98D, 0x98E), (0x991, 0x992), (0x9A9, 0x9A9), (0x9B1, 0x9B1),
    (0x9B3, 0x9B5), (0x9BA, 0x9BB), (0x9C5, 0x9C6), (0x9C9, 0x9CA), (0x9CF, 0x9D6), (0x9D8, 0x9DB),
    (0x9DE, 0x9DE), (0x9E4, 0x9E5), (0x9FF, 0xA00), (0xA04, 0xA04), (0xA0B, 0xA0E), (0xA11, 0xA12),
    (0xA29, 0xA29), (0xA31, 0xA31), (0xA34, 0xA34), (0xA37, 0xA37), (0xA3A, 0xA3B), (0xA3D, 0xA3D),
    (0xA43, 0xA46), (0xA49, 0xA4A), (0xA4E, 0xA50), (0xA52, 0xA58), (0xA5D, 0xA5D), (0xA5F, 0xA65),
    (0xA77, 0xA80), (0xA84, 0xA84), (0xA8E, 0xA8E), (0xA92, 0xA92), (0xAA9, 0xAA9), (0xAB1, 0xAB1),
    (0xAB4, 0xAB4), (0xABA, 0xABB), (0xAC6, 0xAC6), (0xACA, 0xACA), (0xACE, 0xACF), (0xAD1, 0xADF),
    (0xAE4, 0xAE5), (0xAF2, 0xAF8), (0xB00, 0xB00), (0xB04, 0xB04), (0xB0D, 0xB0E), (0xB11, 0xB12),
    (0xB29, 0xB29), (0xB31, 0xB31), (0xB34, 0xB34), (0xB3A, 0xB3B), (0xB45, 0xB46), (0xB49, 0xB4A),
    (0xB4E, 0xB54), (0xB58, 0xB5B), (0xB5E, 0xB5E), (0xB64, 0xB65), (0xB78, 0xB81), (0xB84, 0xB84),
    (0xB8B, 0xB8D), (0xB91, 0xB91), (0xB96, 0xB98), (0xB9B, 0xB9B), (0xB9D, 0xB9D), (0xBA0, 0xBA2),
    (0xBA5, 0xBA7), (0xBAB, 0xBAD), (0xBBA, 0xBBD), (0xBC3, 0xBC5), (0xBC9, 0xBC9), (0xBCE, 0xBCF),
    (0xBD1, 0xBD6), (0xBD8, 0xBE5), (0xBFB, 0xBFF), (0xC0D, 0xC0D), (0xC11, 0xC11), (0xC29, 0xC29),
    (0xC3A, 0xC3B), (0xC45, 0xC45), (0xC49, 0xC49), (0xC4E, 0xC54), (0xC57, 0xC57), (0xC5B, 0xC5B),
    (0xC5E, 0xC5F), (0xC64, 0xC65), (0xC70, 0xC76), (0xC8D, 0xC8D), (0xC91, 0xC91), (0xCA9, 0xCA9),
    (0xCB4, 0xCB4), (0xCBA, 0xCBB), (0xCC5, 0xCC5), (0xCC9, 0xCC9), (0xCCE, 0xCD4), (0xCD7, 0xCDB),
    (0xCDF, 0xCDF), (0xCE4, 0xCE5), (0xCF0, 0xCF0), (0xCF4, 0xCFF), (0xD0D, 0xD0D), (0xD11, 0xD11),
    (0xD45, 0xD45), (0xD49, 0xD49), (0xD50, 0xD53), (0xD64, 0xD65), (0xD80, 0xD80), (0xD84, 0xD84),
    (0xD97, 0xD99), (0xDB2, 0xDB2), (0xDBC, 0xDBC), (0xDBE, 0xDBF), (0xDC7, 0xDC9), (0xDCB, 0xDCE),
    (0xDD5, 0xDD5), (0xDD7, 0xDD7), (0xDE0, 0xDE5), (0xDF0, 0xDF1), (0xDF5, 0xE00), (0xE3B, 0xE3E),
    (0xE5C, 0xE80), (0xE83, 0xE83), (0xE85, 0xE85), (0xE8B, 0xE8B), (0xEA4, 0xEA4), (0xEA6, 0xEA6),
    (0xEBE, 0xEBF), (0xEC5, 0xEC5), (0xEC7, 0xEC7), (0xECF, 0xECF), (0xEDA, 0xEDB), (0xEE0, 0xEFF),
    (0xF48, 0xF48), (0xF6D, 0xF70), (0xF98, 0xF98), (0xFBD, 0xFBD), (0xFCD, 0xFCD), (0xFDB, 0xFFF),
    (0x10C6, 0x10C6), (0x10C8, 0x10CC), (0x10CE, 0x10CF), (0x1249, 0x1249), (0x124E, 0x124F),
    (0x1257, 0x1257), (0x1259, 0x1259), (0x125E, 0x125F), (0x1289, 0x1289), (0x128E, 0x128F),
    (0x12B1, 0x12B1), (0x12B6, 0x12B7), (0x12BF, 0x12BF), (0x12C1, 0x12C1), (0x12C6, 0x12C7),
    (0x12D7, 0x12D7), (0x1311, 0x1311), (0x1316, 0x1317), (0x135B, 0x135C), (0x137D, 0x137F),
    (0x139A, 0x139F), (0x13F6, 0x13F7), (0x13FE, 0x13FF), (0x1680, 0x1680), (0x169D, 0x169F),
    (0x16F9, 0x16FF), (0x1716, 0x171E), (0x1737, 0x173F), (0x1754, 0x175F), (0x176D, 0x176D),
    (0x1771, 0x1771), (0x1774, 0x177F), (0x17DE, 0x17DF), (0x17EA, 0x17EF), (0x17FA, 0x17FF),
    (0x181A, 0x181F), (0x1879, 0x187F), (0x18AB, 0x18AF), (0x18F6, 0x18FF), (0x191F, 0x191F),
    (0x192C, 0x192F), (0x193C, 0x193F), (0x1941, 0x1943), (0x196E, 0x196F), (0x1975, 0x197F),
    (0x19AC, 0x19AF), (0x19CA, 0x19CF), (0x19DB, 0x19DD), (0x1A1C, 0x1A1D), (0x1A5F, 0x1A5F),
    (0x1A7D, 0x1A7E), (0x1A8A, 0x1A8F), (0x1A9A, 0x1A9F), (0x1AAE, 0x1AAF), (0x1ADE, 0x1ADF),
    (0x1AEC, 0x1AFF), (0x1B4D, 0x1B4D), (0x1BF4, 0x1BFB), (0x1C38, 0x1C3A), (0x1C4A, 0x1C4C),
    (0x1C8B, 0x1C8F), (0x1CBB, 0x1CBC), (0x1CC8, 0x1CCF), (0x1CFB, 0x1CFF), (0x1F16, 0x1F17),
    (0x1F1E, 0x1F1F), (0x1F46, 0x1F47), (0x1F4E, 0x1F4F), (0x1F58, 0x1F58), (0x1F5A, 0x1F5A),
    (0x1F5C, 0x1F5C), (0x1F5E, 0x1F5E), (0x1F7E, 0x1F7F), (0x1FB5, 0x1FB5), (0x1FBD, 0x1FBD),
    (0x1FBF, 0x1FC1), (0x1FC5, 0x1FC5), (0x1FCD, 0x1FCF), (0x1FD4, 0x1FD5), (0x1FDC, 0x1FDF),
    (0x1FED, 0x1FEE), (0x1FF0, 0x1FF1), (0x1FF5, 0x1FF5), (0x1FFD, 0x200A), (0x200E, 0x200F),
    (0x2017, 0x2017), (0x2024, 0x2026), (0x2028, 0x202F), (0x203E, 0x203E), (0x2047, 0x2049),
    (0x205F, 0x205F), (0x2065, 0x2069), (0x2072, 0x2073), (0x208F, 0x208F), (0x209D, 0x209F),
    (0x20C2, 0x20CF), (0x20F1, 0x2101), (0x2105, 0x2106), (0x218C, 0x218F), (0x242A, 0x243F),
    (0x244B, 0x245F), (0x2488, 0x249B), (0x2A74, 0x2A74), (0x2B74, 0x2B75), (0x2CF4, 0x2CF8),
    (0x2D26, 0x2D26), (0x2D28, 0x2D2C), (0x2D2E, 0x2D2F), (0x2D68, 0x2D6E), (0x2D71, 0x2D7E),
    (0x2D97, 0x2D9F), (0x2DA7, 0x2DA7), (0x2DAF, 0x2DAF), (0x2DB7, 0x2DB7), (0x2DBF, 0x2DBF),
    (0x2DC7, 0x2DC7), (0x2DCF, 0x2DCF), (0x2DD7, 0x2DD7), (0x2DDF, 0x2DDF), (0x2E5E, 0x2E7F),
    (0x2E9A, 0x2E9A), (0x2EF4, 0x2EFF), (0x2FD6, 0x3000), (0x3040, 0x3040), (0x3097, 0x3098),
    (0x309B, 0x309C), (0x3100, 0x3104), (0x3130, 0x3130), (0x318F, 0x318F), (0x31E6, 0x31EF),
    (0x321F, 0x321F), (0x33C2, 0x33C2), (0x33C7, 0x33C7), (0x33D8, 0x33D8), (0xA48D, 0xA48F),
    (0xA4C7, 0xA4CF), (0xA62C, 0xA63F), (0xA6F8, 0xA6FF), (0xA7DD, 0xA7F0), (0xA82D, 0xA82F),
    (0xA83A, 0xA83F), (0xA878, 0xA87F), (0xA8C6, 0xA8CD), (0xA8DA, 0xA8DF), (0xA954, 0xA95E),
    (0xA97D, 0xA97F), (0xA9CE, 0xA9CE), (0xA9DA, 0xA9DD), (0xA9FF, 0xA9FF), (0xAA37, 0xAA3F),
    (0xAA4E, 0xAA4F), (0xAA5A, 0xAA5B), (0xAAC3, 0xAADA), (0xAAF7, 0xAB00), (0xAB07, 0xAB08),
    (0xAB0F, 0xAB10), (0xAB17, 0xAB1F), (0xAB27, 0xAB27), (0xAB2F, 0xAB2F), (0xAB6C, 0xAB6F),
    (0xABEE, 0xABEF), (0xABFA, 0xABFF), (0xD7A4, 0xD7AF), (0xD7C7, 0xD7CA), (0xD7FC, 0xF8FF),
    (0xFA6E, 0xFA6F), (0xFADA, 0xFAFF), (0xFB07, 0xFB12), (0xFB18, 0xFB1C), (0xFB37, 0xFB37),
    (0xFB3D, 0xFB3D), (0xFB3F, 0xFB3F), (0xFB42, 0xFB42), (0xFB45, 0xFB45), (0xFC5E, 0xFC63),
    (0xFDD0, 0xFDEF), (0xFDFA, 0xFDFB), (0xFE12, 0xFE13), (0xFE16, 0xFE16), (0xFE19, 0xFE1F),
    (0xFE30, 0xFE30), (0xFE47, 0xFE4C), (0xFE52, 0xFE53), (0xFE55, 0xFE56), (0xFE5F, 0xFE5F),
    (0xFE64, 0xFE65), (0xFE67, 0xFE68), (0xFE6A, 0xFE70), (0xFE72, 0xFE72), (0xFE74, 0xFE76),
    (0xFE78, 0xFE78), (0xFE7A, 0xFE7A), (0xFE7C, 0xFE7C), (0xFE7E, 0xFE7E), (0xFEFD, 0xFEFE),
    (0xFF00, 0xFF00), (0xFF03, 0xFF03), (0xFF05, 0xFF05), (0xFF0F, 0xFF0F), (0xFF1A, 0xFF1A),
    (0xFF1C, 0xFF1C), (0xFF1E, 0xFF20), (0xFF3B, 0xFF3E), (0xFF5C, 0xFF5C), (0xFFBF, 0xFFC1),
    (0xFFC8, 0xFFC9), (0xFFD0, 0xFFD1), (0xFFD8, 0xFFD9), (0xFFDD, 0xFFDF), (0xFFE3, 0xFFE3),
    (0xFFE7, 0xFFE7), (0xFFEF, 0xFFFF), (0x1000C, 0x1000C), (0x10027, 0x10027), (0x1003B, 0x1003B),
    (0x1003E, 0x1003E), (0x1004E, 0x1004F), (0x1005E, 0x1007F), (0x100FB, 0x100FF),
    (0x10103, 0x10106), (0x10134, 0x10136), (0x1018F, 0x1018F), (0x1019D, 0x1019F),
    (0x101A1, 0x101CF), (0x101FE, 0x1027F), (0x1029D, 0x1029F), (0x102D1, 0x102DF),
    (0x102FC, 0x102FF), (0x10324, 0x1032C), (0x1034B, 0x1034F), (0x1037B, 0x1037F),
    (0x1039E, 0x1039E), (0x103C4, 0x103C7), (0x103D6, 0x103FF), (0x1049E, 0x1049F),
    (0x104AA, 0x104AF), (0x104D4, 0x104D7), (0x104FC, 0x104FF), (0x10528, 0x1052F),
    (0x10564, 0x1056E), (0x1057B, 0x1057B), (0x1058B, 0x1058B), (0x10593, 0x10593),
    (0x10596, 0x10596), (0x105A2, 0x105A2), (0x105B2, 0x105B2), (0x105BA, 0x105BA),
    (0x105BD, 0x105BF), (0x105F4, 0x105FF), (0x10737, 0x1073F), (0x10756, 0x1075F),
    (0x10768, 0x1077F), (0x10786, 0x10786), (0x107B1, 0x107B1), (0x107BB, 0x107FF),
    (0x10806, 0x10807), (0x10809, 0x10809), (0x10836, 0x10836), (0x10839, 0x1083B),
    (0x1083D, 0x1083E), (0x10856, 0x10856), (0x1089F, 0x108A6), (0x108B0, 0x108DF),
    (0x108F3, 0x108F3), (0x108F6, 0x108FA), (0x1091C, 0x1091E), (0x1093A, 0x1093E),
    (0x1095A, 0x1097F), (0x109B8, 0x109BB), (0x109D0, 0x109D1), (0x10A04, 0x10A04),
    (0x10A07, 0x10A0B), (0x10A14, 0x10A14), (0x10A18, 0x10A18), (0x10A36, 0x10A37),
    (0x10A3B, 0x10A3E), (0x10A49, 0x10A4F), (0x10A59, 0x10A5F), (0x10AA0, 0x10ABF),
    (0x10AE7, 0x10AEA), (0x10AF7, 0x10AFF), (0x10B36, 0x10B38), (0x10B56, 0x10B57),
    (0x10B73, 0x10B77), (0x10B92, 0x10B98), (0x10B9D, 0x10BA8), (0x10BB0, 0x10BFF),
    (0x10C49, 0x10C7F), (0x10CB3, 0x10CBF), (0x10CF3, 0x10CF9), (0x10D28, 0x10D2F),
    (0x10D3A, 0x10D3F), (0x10D66, 0x10D68), (0x10D86, 0x10D8D), (0x10D90, 0x10E5F),
    (0x10E7F, 0x10E7F), (0x10EAA, 0x10EAA), (0x10EAE, 0x10EAF), (0x10EB2, 0x10EC1),
    (0x10EC8, 0x10ECF), (0x10ED9, 0x10EF9), (0x10F28, 0x10F2F), (0x10F5A, 0x10F6F),
    (0x10F8A, 0x10FAF), (0x10FCC, 0x10FDF), (0x10FF7, 0x10FFF), (0x1104E, 0x11051),
    (0x11076, 0x1107E), (0x110BD, 0x110BD), (0x110C3, 0x110CF), (0x110E9, 0x110EF),
    (0x110FA, 0x110FF), (0x11135, 0x11135), (0x11148, 0x1114F), (0x11177, 0x1117F),
    (0x111E0, 0x111E0), (0x111F5, 0x111FF), (0x11212, 0x11212), (0x11242, 0x1127F),
    (0x11287, 0x11287), (0x11289, 0x11289), (0x1128E, 0x1128E), (0x1129E, 0x1129E),
    (0x112AA, 0x112AF), (0x112EB, 0x112EF), (0x112FA, 0x112FF), (0x11304, 0x11304),
    (0x1130D, 0x1130E), (0x11311, 0x11312), (0x11329, 0x11329), (0x11331, 0x11331),
    (0x11334, 0x11334), (0x1133A, 0x1133A), (0x11345, 0x11346), (0x11349, 0x1134A),
    (0x1134E, 0x1134F), (0x11351, 0x11356), (0x11358, 0x1135C), (0x11364, 0x11365),
    (0x1136D, 0x1136F), (0x11375, 0x1137F), (0x1138A, 0x1138A), (0x1138C, 0x1138D),
    (0x1138F, 0x1138F), (0x113B6, 0x113B6), (0x113C1, 0x113C1), (0x113C3, 0x113C4),
    (0x113C6, 0x113C6), (0x113CB, 0x113CB), (0x113D6, 0x113D6), (0x113D9, 0x113E0),
    (0x113E3, 0x113FF), (0x1145C, 0x1145C), (0x11462, 0x1147F), (0x114C8, 0x114CF),
    (0x114DA, 0x1157F), (0x115B6, 0x115B7), (0x115DE, 0x115FF), (0x11645, 0x1164F),
    (0x1165A, 0x1165F), (0x1166D, 0x1167F), (0x116BA, 0x116BF), (0x116CA, 0x116CF),
    (0x116E4, 0x116FF), (0x1171B, 0x1171C), (0x1172C, 0x1172F), (0x11747, 0x117FF),
    (0x1183C, 0x1189F), (0x118F3, 0x118FE), (0x11907, 0x11908), (0x1190A, 0x1190B),
    (0x11914, 0x11914), (0x11917, 0x11917), (0x11936, 0x11936), (0x11939, 0x1193A),
    (0x11947, 0x1194F), (0x1195A, 0x1199F), (0x119A8, 0x119A9), (0x119D8, 0x119D9),
    (0x119E5, 0x119FF), (0x11A48, 0x11A4F), (0x11AA3, 0x11AAF), (0x11AF9, 0x11AFF),
    (0x11B0A, 0x11B5F), (0x11B68, 0x11BBF), (0x11BE2, 0x11BEF), (0x11BFA, 0x11BFF),
    (0x11C09, 0x11C09), (0x11C37, 0x11C37), (0x11C46, 0x11C4F), (0x11C6D, 0x11C6F),
    (0x11C90, 0x11C91), (0x11CA8, 0x11CA8), (0x11CB7, 0x11CFF), (0x11D07, 0x11D07),
    (0x11D0A, 0x11D0A), (0x11D37, 0x11D39), (0x11D3B, 0x11D3B), (0x11D3E, 0x11D3E),
    (0x11D48, 0x11D4F), (0x11D5A, 0x11D5F), (0x11D66, 0x11D66), (0x11D69, 0x11D69),
    (0x11D8F, 0x11D8F), (0x11D92, 0x11D92), (0x11D99, 0x11D9F), (0x11DAA, 0x11DAF),
    (0x11DDC, 0x11DDF), (0x11DEA, 0x11EDF), (0x11EF9, 0x11EFF), (0x11F11, 0x11F11),
    (0x11F3B, 0x11F3D), (0x11F5B, 0x11FAF), (0x11FB1, 0x11FBF), (0x11FF2, 0x11FFE),
    (0x1239A, 0x123FF), (0x1246F, 0x1246F), (0x12475, 0x1247F), (0x12544, 0x12F8F),
    (0x12FF3, 0x12FFF), (0x13430, 0x1343F), (0x13456, 0x1345F), (0x143FB, 0x143FF),
    (0x14647, 0x160FF), (0x1613A, 0x167FF), (0x16A39, 0x16A3F), (0x16A5F, 0x16A5F),
    (0x16A6A, 0x16A6D), (0x16ABF, 0x16ABF), (0x16ACA, 0x16ACF), (0x16AEE, 0x16AEF),
    (0x16AF6, 0x16AFF), (0x16B46, 0x16B4F), (0x16B5A, 0x16B5A), (0x16B62, 0x16B62),
    (0x16B78, 0x16B7C), (0x16B90, 0x16D3F), (0x16D7A, 0x16E3F), (0x16E9B, 0x16E9F),
    (0x16EB9, 0x16EBA), (0x16ED4, 0x16EFF), (0x16F4B, 0x16F4E), (0x16F88, 0x16F8E),
    (0x16FA0, 0x16FDF), (0x16FE5, 0x16FEF), (0x16FF7, 0x16FFF), (0x18CD6, 0x18CFE),
    (0x18D1F, 0x18D7F), (0x18DF3, 0x1AFEF), (0x1AFF4, 0x1AFF4), (0x1AFFC, 0x1AFFC),
    (0x1AFFF, 0x1AFFF), (0x1B123, 0x1B131), (0x1B133, 0x1B14F), (0x1B153, 0x1B154),
    (0x1B156, 0x1B163), (0x1B168, 0x1B16F), (0x1B2FC, 0x1BBFF), (0x1BC6B, 0x1BC6F),
    (0x1BC7D, 0x1BC7F), (0x1BC89, 0x1BC8F), (0x1BC9A, 0x1BC9B), (0x1BCA4, 0x1CBFF),
    (0x1CCFD, 0x1CCFF), (0x1CEB4, 0x1CEB9), (0x1CED1, 0x1CEDF), (0x1CEF1, 0x1CEFF),
    (0x1CF2E, 0x1CF2F), (0x1CF47, 0x1CF4F), (0x1CFC4, 0x1CFFF), (0x1D0F6, 0x1D0FF),
    (0x1D127, 0x1D128), (0x1D1EB, 0x1D1FF), (0x1D246, 0x1D2BF), (0x1D2D4, 0x1D2DF),
    (0x1D2F4, 0x1D2FF), (0x1D357, 0x1D35F), (0x1D379, 0x1D3FF), (0x1D455, 0x1D455),
    (0x1D49D, 0x1D49D), (0x1D4A0, 0x1D4A1), (0x1D4A3, 0x1D4A4), (0x1D4A7, 0x1D4A8),
    (0x1D4AD, 0x1D4AD), (0x1D4BA, 0x1D4BA), (0x1D4BC, 0x1D4BC), (0x1D4C4, 0x1D4C4),
    (0x1D506, 0x1D506), (0x1D50B, 0x1D50C), (0x1D515, 0x1D515), (0x1D51D, 0x1D51D),
    (0x1D53A, 0x1D53A), (0x1D53F, 0x1D53F), (0x1D545, 0x1D545), (0x1D547, 0x1D549),
    (0x1D551, 0x1D551), (0x1D6A6, 0x1D6A7), (0x1D7CC, 0x1D7CD), (0x1DA8C, 0x1DA9A),
    (0x1DAA0, 0x1DAA0), (0x1DAB0, 0x1DEFF), (0x1DF1F, 0x1DF24), (0x1DF2B, 0x1DFFF),
    (0x1E007, 0x1E007), (0x1E019, 0x1E01A), (0x1E022, 0x1E022), (0x1E025, 0x1E025),
    (0x1E02B, 0x1E02F), (0x1E06E, 0x1E08E), (0x1E090, 0x1E0FF), (0x1E12D, 0x1E12F),
    (0x1E13E, 0x1E13F), (0x1E14A, 0x1E14D), (0x1E150, 0x1E28F), (0x1E2AF, 0x1E2BF),
    (0x1E2FA, 0x1E2FE), (0x1E300, 0x1E4CF), (0x1E4FA, 0x1E5CF), (0x1E5FB, 0x1E5FE),
    (0x1E600, 0x1E6BF), (0x1E6DF, 0x1E6DF), (0x1E6F6, 0x1E6FD), (0x1E700, 0x1E7DF),
    (0x1E7E7, 0x1E7E7), (0x1E7EC, 0x1E7EC), (0x1E7EF, 0x1E7EF), (0x1E7FF, 0x1E7FF),
    (0x1E8C5, 0x1E8C6), (0x1E8D7, 0x1E8FF), (0x1E94C, 0x1E94F), (0x1E95A, 0x1E95D),
    (0x1E960, 0x1EC70), (0x1ECB5, 0x1ED00), (0x1ED3E, 0x1EDFF), (0x1EE04, 0x1EE04),
    (0x1EE20, 0x1EE20), (0x1EE23, 0x1EE23), (0x1EE25, 0x1EE26), (0x1EE28, 0x1EE28),
    (0x1EE33, 0x1EE33), (0x1EE38, 0x1EE38), (0x1EE3A, 0x1EE3A), (0x1EE3C, 0x1EE41),
    (0x1EE43, 0x1EE46), (0x1EE48, 0x1EE48), (0x1EE4A, 0x1EE4A), (0x1EE4C, 0x1EE4C),
    (0x1EE50, 0x1EE50), (0x1EE53, 0x1EE53), (0x1EE55, 0x1EE56), (0x1EE58, 0x1EE58),
    (0x1EE5A, 0x1EE5A), (0x1EE5C, 0x1EE5C), (0x1EE5E, 0x1EE5E), (0x1EE60, 0x1EE60),
    (0x1EE63, 0x1EE63), (0x1EE65, 0x1EE66), (0x1EE6B, 0x1EE6B), (0x1EE73, 0x1EE73),
    (0x1EE78, 0x1EE78), (0x1EE7D, 0x1EE7D), (0x1EE7F, 0x1EE7F), (0x1EE8A, 0x1EE8A),
    (0x1EE9C, 0x1EEA0), (0x1EEA4, 0x1EEA4), (0x1EEAA, 0x1EEAA), (0x1EEBC, 0x1EEEF),
    (0x1EEF2, 0x1EFFF), (0x1F02C, 0x1F02F), (0x1F094, 0x1F09F), (0x1F0AF, 0x1F0B0),
    (0x1F0C0, 0x1F0C0), (0x1F0D0, 0x1F0D0), (0x1F0F6, 0x1F100), (0x1F1AE, 0x1F1E5),
    (0x1F203, 0x1F20F), (0x1F23C, 0x1F23F), (0x1F249, 0x1F24F), (0x1F252, 0x1F25F),
    (0x1F266, 0x1F2FF), (0x1F6D9, 0x1F6DB), (0x1F6ED, 0x1F6EF), (0x1F6FD, 0x1F6FF),
    (0x1F7DA, 0x1F7DF), (0x1F7EC, 0x1F7EF), (0x1F7F1, 0x1F7FF), (0x1F80C, 0x1F80F),
    (0x1F848, 0x1F84F), (0x1F85A, 0x1F85F), (0x1F888, 0x1F88F), (0x1F8AE, 0x1F8AF),
    (0x1F8BC, 0x1F8BF), (0x1F8C2, 0x1F8CF), (0x1F8D9, 0x1F8FF), (0x1FA58, 0x1FA5F),
    (0x1FA6E, 0x1FA6F), (0x1FA7D, 0x1FA7F), (0x1FA8B, 0x1FA8D), (0x1FAC7, 0x1FAC7),
    (0x1FAC9, 0x1FACC), (0x1FADD, 0x1FADE), (0x1FAEB, 0x1FAEE), (0x1FAF9, 0x1FAFF),
    (0x1FB93, 0x1FB93), (0x1FBFB, 0x1FFFF), (0x2A6E0, 0x2A6FF), (0x2B81E, 0x2B81F),
    (0x2CEAE, 0x2CEAF), (0x2EBE1, 0x2EBEF), (0x2EE5E, 0x2F7FF), (0x2FA1E, 0x2FFFF),
    (0x3134B, 0x3134F), (0x3347A, 0xE00FF), (0xE01F0, 0x10FFFF)]

def ignoredRanges : List (Nat × Nat) :=
  [(0xAD, 0xAD), (0x34F, 0x34F), (0x115F, 0x1160), (0x17B4, 0x17B5), (0x180B, 0x180F),
    (0x200B, 0x200B), (0x2060, 0x2064), (0x206A, 0x206F), (0x3164, 0x3164), (0xFE00, 0xFE0F),
    (0xFEFF, 0xFEFF), (0xFFA0, 0xFFA0), (0x1BCA0, 0x1BCA3), (0x1D173, 0x1D17A), (0xE0100, 0xE01EF)]

/-- Characters that are replaced by the ones a fixed distance away: every `step`th character from
`first` to `last`. -/
structure Shift where
  first : Nat
  last : Nat
  step : Nat
  distance : Int

/-- The characters that are replaced by ones a fixed distance away. -/
def shifts : List Shift :=
  [⟨0xC0, 0xD6, 1, 0x20⟩, ⟨0xD8, 0xDE, 1, 0x20⟩, ⟨0x100, 0x12E, 2, 0x1⟩, ⟨0x141, 0x147, 2, 0x1⟩,
    ⟨0x14A, 0x176, 2, 0x1⟩, ⟨0x1CD, 0x1DB, 2, 0x1⟩, ⟨0x1DE, 0x1EE, 2, 0x1⟩, ⟨0x1F8, 0x21E, 2, 0x1⟩,
    ⟨0x222, 0x232, 2, 0x1⟩, ⟨0x246, 0x24E, 2, 0x1⟩, ⟨0x391, 0x3A1, 1, 0x20⟩,
    ⟨0x3A3, 0x3AB, 1, 0x20⟩, ⟨0x3D8, 0x3EE, 2, 0x1⟩, ⟨0x400, 0x40F, 1, 0x50⟩,
    ⟨0x410, 0x42F, 1, 0x20⟩, ⟨0x460, 0x480, 2, 0x1⟩, ⟨0x48A, 0x4BE, 2, 0x1⟩, ⟨0x4C1, 0x4CD, 2, 0x1⟩,
    ⟨0x4D0, 0x52E, 2, 0x1⟩, ⟨0x531, 0x556, 1, 0x30⟩, ⟨0x10A0, 0x10C5, 1, 0x1C60⟩,
    ⟨0x13F8, 0x13FD, 1, -0x8⟩, ⟨0x1C90, 0x1CBA, 1, -0xBC0⟩, ⟨0x1D31, 0x1D39, 2, -0x1CCC⟩,
    ⟨0x1D34, 0x1D3A, 2, -0x1CCC⟩, ⟨0x1DAE, 0x1DB1, 1, -0x1B3C⟩, ⟨0x1E00, 0x1E94, 2, 0x1⟩,
    ⟨0x1EA0, 0x1EFE, 2, 0x1⟩, ⟨0x1F08, 0x1F0F, 1, -0x8⟩, ⟨0x1F18, 0x1F1D, 1, -0x8⟩,
    ⟨0x1F28, 0x1F2F, 1, -0x8⟩, ⟨0x1F38, 0x1F3F, 1, -0x8⟩, ⟨0x1F48, 0x1F4D, 1, -0x8⟩,
    ⟨0x1F59, 0x1F5F, 2, -0x8⟩, ⟨0x1F68, 0x1F6F, 1, -0x8⟩, ⟨0x2074, 0x2079, 1, -0x2040⟩,
    ⟨0x2080, 0x2089, 1, -0x2050⟩, ⟨0x2096, 0x2099, 1, -0x202B⟩, ⟨0x2135, 0x2138, 1, -0x1B65⟩,
    ⟨0x2460, 0x2468, 1, -0x242F⟩, ⟨0x24B6, 0x24CF, 1, -0x2455⟩, ⟨0x24D0, 0x24E9, 1, -0x246F⟩,
    ⟨0x2C00, 0x2C2F, 1, 0x30⟩, ⟨0x2C80, 0x2CE2, 2, 0x1⟩, ⟨0x313A, 0x313F, 1, -0x1F8A⟩,
    ⟨0x3145, 0x314E, 1, -0x203C⟩, ⟨0x314F, 0x3163, 1, -0x1FEE⟩, ⟨0x3178, 0x317C, 1, -0x204D⟩,
    ⟨0x3269, 0x326D, 1, -0x215B⟩, ⟨0x32E4, 0x32E9, 1, -0x21A⟩, ⟨0x32EE, 0x32F2, 1, -0x210⟩,
    ⟨0x32F5, 0x32FA, 1, -0x20D⟩, ⟨0x32FB, 0x32FE, 1, -0x20C⟩, ⟨0xA640, 0xA66C, 2, 0x1⟩,
    ⟨0xA680, 0xA69A, 2, 0x1⟩, ⟨0xA722, 0xA72E, 2, 0x1⟩, ⟨0xA732, 0xA76E, 2, 0x1⟩,
    ⟨0xA77E, 0xA786, 2, 0x1⟩, ⟨0xA796, 0xA7A8, 2, 0x1⟩, ⟨0xA7B4, 0xA7C2, 2, 0x1⟩,
    ⟨0xA7CC, 0xA7DA, 2, 0x1⟩, ⟨0xAB70, 0xABBF, 1, -0x97D0⟩, ⟨0xFE41, 0xFE44, 1, -0xCE35⟩,
    ⟨0xFF02, 0xFF18, 2, -0xFEE0⟩, ⟨0xFF07, 0xFF0D, 2, -0xFEE0⟩, ⟨0xFF11, 0xFF1D, 2, -0xFEE0⟩,
    ⟨0xFF21, 0xFF3A, 1, -0xFEC0⟩, ⟨0xFF3F, 0xFF5B, 1, -0xFEE0⟩, ⟨0xFF85, 0xFF8A, 1, -0xCEBB⟩,
    ⟨0xFF8F, 0xFF93, 1, -0xCEB1⟩, ⟨0xFF96, 0xFF9B, 1, -0xCEAE⟩, ⟨0xFFAA, 0xFFAF, 1, -0xEDFA⟩,
    ⟨0xFFB5, 0xFFBE, 1, -0xEEAC⟩, ⟨0xFFC2, 0xFFC7, 1, -0xEE61⟩, ⟨0xFFCA, 0xFFCF, 1, -0xEE63⟩,
    ⟨0xFFD2, 0xFFD7, 1, -0xEE65⟩, ⟨0xFFE9, 0xFFEC, 1, -0xDE59⟩, ⟨0x10400, 0x10427, 1, 0x28⟩,
    ⟨0x104B0, 0x104D3, 1, 0x28⟩, ⟨0x10570, 0x10594, 2, 0x27⟩, ⟨0x10571, 0x10579, 2, 0x27⟩,
    ⟨0x1057D, 0x10589, 2, 0x27⟩, ⟨0x10C80, 0x10CB2, 1, 0x40⟩, ⟨0x10D50, 0x10D65, 1, 0x20⟩,
    ⟨0x118A0, 0x118BF, 1, 0x20⟩, ⟨0x16E40, 0x16E5F, 1, 0x20⟩, ⟨0x16EA0, 0x16EB8, 1, 0x1B⟩,
    ⟨0x1CCD6, 0x1CCEF, 1, -0x1CC75⟩, ⟨0x1CCF0, 0x1CCF9, 1, -0x1CCC0⟩,
    ⟨0x1D400, 0x1D419, 1, -0x1D39F⟩, ⟨0x1D41A, 0x1D433, 1, -0x1D3B9⟩,
    ⟨0x1D434, 0x1D44D, 1, -0x1D3D3⟩, ⟨0x1D44E, 0x1D466, 2, -0x1D3ED⟩,
    ⟨0x1D457, 0x1D467, 2, -0x1D3ED⟩, ⟨0x1D468, 0x1D481, 1, -0x1D407⟩,
    ⟨0x1D482, 0x1D49B, 1, -0x1D421⟩, ⟨0x1D4A9, 0x1D4AC, 1, -0x1D43B⟩,
    ⟨0x1D4AE, 0x1D4B5, 1, -0x1D43B⟩, ⟨0x1D4B6, 0x1D4B9, 1, -0x1D455⟩,
    ⟨0x1D4BB, 0x1D4CF, 2, -0x1D455⟩, ⟨0x1D4C6, 0x1D4CE, 2, -0x1D455⟩,
    ⟨0x1D4D0, 0x1D4E9, 1, -0x1D46F⟩, ⟨0x1D4EA, 0x1D503, 1, -0x1D489⟩,
    ⟨0x1D507, 0x1D50A, 1, -0x1D4A3⟩, ⟨0x1D50D, 0x1D514, 1, -0x1D4A3⟩,
    ⟨0x1D516, 0x1D51C, 1, -0x1D4A3⟩, ⟨0x1D51E, 0x1D537, 1, -0x1D4BD⟩,
    ⟨0x1D53B, 0x1D53E, 1, -0x1D4D7⟩, ⟨0x1D540, 0x1D544, 1, -0x1D4D7⟩,
    ⟨0x1D54A, 0x1D550, 1, -0x1D4D7⟩, ⟨0x1D552, 0x1D56B, 1, -0x1D4F1⟩,
    ⟨0x1D56C, 0x1D585, 1, -0x1D50B⟩, ⟨0x1D586, 0x1D59F, 1, -0x1D525⟩,
    ⟨0x1D5A0, 0x1D5B9, 1, -0x1D53F⟩, ⟨0x1D5BA, 0x1D5D3, 1, -0x1D559⟩,
    ⟨0x1D5D4, 0x1D5ED, 1, -0x1D573⟩, ⟨0x1D5EE, 0x1D607, 1, -0x1D58D⟩,
    ⟨0x1D608, 0x1D621, 1, -0x1D5A7⟩, ⟨0x1D622, 0x1D63B, 1, -0x1D5C1⟩,
    ⟨0x1D63C, 0x1D655, 1, -0x1D5DB⟩, ⟨0x1D656, 0x1D66F, 1, -0x1D5F5⟩,
    ⟨0x1D670, 0x1D689, 1, -0x1D60F⟩, ⟨0x1D68A, 0x1D6A3, 1, -0x1D629⟩,
    ⟨0x1D6A8, 0x1D6B8, 1, -0x1D2F7⟩, ⟨0x1D6BA, 0x1D6C0, 1, -0x1D2F7⟩,
    ⟨0x1D6C2, 0x1D6D2, 1, -0x1D311⟩, ⟨0x1D6D4, 0x1D6DA, 1, -0x1D311⟩,
    ⟨0x1D6E2, 0x1D6F2, 1, -0x1D331⟩, ⟨0x1D6F4, 0x1D6FA, 1, -0x1D331⟩,
    ⟨0x1D6FC, 0x1D70C, 1, -0x1D34B⟩, ⟨0x1D70E, 0x1D714, 1, -0x1D34B⟩,
    ⟨0x1D71C, 0x1D72C, 1, -0x1D36B⟩, ⟨0x1D72E, 0x1D734, 1, -0x1D36B⟩,
    ⟨0x1D736, 0x1D746, 1, -0x1D385⟩, ⟨0x1D748, 0x1D74E, 1, -0x1D385⟩,
    ⟨0x1D756, 0x1D766, 1, -0x1D3A5⟩, ⟨0x1D768, 0x1D76E, 1, -0x1D3A5⟩,
    ⟨0x1D770, 0x1D780, 1, -0x1D3BF⟩, ⟨0x1D782, 0x1D788, 1, -0x1D3BF⟩,
    ⟨0x1D790, 0x1D7A0, 1, -0x1D3DF⟩, ⟨0x1D7A2, 0x1D7A8, 1, -0x1D3DF⟩,
    ⟨0x1D7AA, 0x1D7BA, 1, -0x1D3F9⟩, ⟨0x1D7BC, 0x1D7C2, 1, -0x1D3F9⟩,
    ⟨0x1D7CE, 0x1D7D7, 1, -0x1D79E⟩, ⟨0x1D7D8, 0x1D7E1, 1, -0x1D7A8⟩,
    ⟨0x1D7E2, 0x1D7EB, 1, -0x1D7B2⟩, ⟨0x1D7EC, 0x1D7F5, 1, -0x1D7BC⟩,
    ⟨0x1D7F6, 0x1D7FF, 1, -0x1D7C6⟩, ⟨0x1E030, 0x1E038, 1, -0x1DC00⟩,
    ⟨0x1E03C, 0x1E046, 1, -0x1DBFE⟩, ⟨0x1E051, 0x1E059, 1, -0x1DC21⟩,
    ⟨0x1E05F, 0x1E064, 1, -0x1DC1C⟩, ⟨0x1E900, 0x1E921, 1, 0x22⟩, ⟨0x1EE0A, 0x1EE0D, 1, -0x1E7C7⟩,
    ⟨0x1EE2A, 0x1EE2D, 1, -0x1E7E7⟩, ⟨0x1F130, 0x1F149, 1, -0x1F0CF⟩,
    ⟨0x1FBF0, 0x1FBF9, 1, -0x1FBC0⟩]

/-- Characters that are replaced by single ones: the first of them, and the replacements of it and
of those that follow it. -/
def letters : List (Nat × String) :=
  [(0xAA, "a"), (0xB2, "23"), (0xB5, "μ"), (0xB9, "1o"), (0x134, "ĵ"), (0x136, "ķ"), (0x139, "ĺ"),
    (0x13B, "ļ"), (0x13D, "ľ"), (0x178, "ÿź"), (0x17B, "ż"), (0x17D, "ž"), (0x17F, "s"),
    (0x181, "ɓƃ"), (0x184, "ƅ"), (0x186, "ɔƈ"), (0x189, "ɖɗƌ"), (0x18E, "ǝəɛƒ"), (0x193, "ɠɣ"),
    (0x196, "ɩɨƙ"), (0x19C, "ɯɲ"), (0x19F, "ɵơ"), (0x1A2, "ƣ"), (0x1A4, "ƥ"), (0x1A6, "ʀƨ"),
    (0x1A9, "ʃ"), (0x1AC, "ƭ"), (0x1AE, "ʈư"), (0x1B1, "ʊʋƴ"), (0x1B5, "ƶ"), (0x1B7, "ʒƹ"),
    (0x1BC, "ƽ"), (0x1F4, "ǵ"), (0x1F6, "ƕƿ"), (0x220, "ƞ"), (0x23A, "ⱥȼ"), (0x23D, "ƚⱦ"),
    (0x241, "ɂ"), (0x243, "ƀʉʌ"), (0x2B0, "hɦjrɹɻʁwy"), (0x2E0, "ɣlsxʕ"), (0x340, "̀́"),
    (0x343, "̓"), (0x345, "ι"), (0x370, "ͱ"), (0x372, "ͳ"), (0x374, "ʹ"), (0x376, "ͷ"),
    (0x37E, ";ϳ"), (0x386, "ά·έήί"), (0x38C, "ό"), (0x38E, "ύώ"), (0x3CF, "ϗβθυύϋφπ"),
    (0x3F0, "κρσ"), (0x3F4, "θε"), (0x3F7, "ϸ"), (0x3F9, "σϻ"), (0x3FD, "ͻͼͽ"), (0x4C0, "ӏ"),
    (0xF0C, "་"), (0x10C7, "ⴧ"), (0x10CD, "ⴭ"), (0x10FC, "ნ"), (0x1C80, "вдосттъѣꙋᲊ"),
    (0x1CBD, "ჽჾჿ"), (0x1D2C, "aæb"), (0x1D30, "d"), (0x1D32, "ǝ"), (0x1D3C, "oȣprtuwaɐɑᴂbdeəɛɜg"),
    (0x1D4F, "kmŋoɔᴖᴗptuᴝɯvᴥβγδφχiruvβγρφχ"), (0x1D78, "н"), (0x1D9B, "ɒcɕðɜfɟɡɥɨɩɪᵻʝɭᶅʟɱɰ"),
    (0x1DB2, "ɸʂʃƫʉʊᴜʋʌzʐʑʒθ"), (0x1E9B, "ṡ"), (0x1E9E, "ß"), (0x1F71, "ά"), (0x1F73, "έ"),
    (0x1F75, "ή"), (0x1F77, "ί"), (0x1F79, "ό"), (0x1F7B, "ύ"), (0x1F7D, "ώ"), (0x1FB8, "ᾰᾱὰά"),
    (0x1FBE, "ι"), (0x1FC8, "ὲέὴή"), (0x1FD3, "ΐ"), (0x1FD8, "ῐῑὶί"), (0x1FE3, "ΰ"),
    (0x1FE8, "ῠῡὺύῥ"), (0x1FEF, "`"), (0x1FF8, "ὸόὼώ"), (0x2011, "‐"), (0x2070, "0i"),
    (0x207A, "+−=()n"), (0x208A, "+−=()"), (0x2090, "aeoxəh"), (0x209A, "pst"), (0x2102, "c"),
    (0x2107, "ɛ"), (0x210A, "ghhhhħiill"), (0x2115, "n"), (0x2119, "pqrrr"), (0x2124, "z"),
    (0x2126, "ω"), (0x2128, "z"), (0x212A, "kåbc"), (0x212F, "eefⅎmo"), (0x2139, "i"),
    (0x213C, "πγγπ∑"), (0x2145, "ddeij"), (0x2160, "i"), (0x2164, "v"), (0x2169, "x"),
    (0x216C, "lcdmi"), (0x2174, "v"), (0x2179, "x"), (0x217C, "lcdm"), (0x2183, "ↄ"),
    (0x2329, "〈〉"), (0x24EA, "0"), (0x2C60, "ⱡ"), (0x2C62, "ɫᵽɽ"), (0x2C67, "ⱨ"), (0x2C69, "ⱪ"),
    (0x2C6B, "ⱬ"), (0x2C6D, "ɑɱɐɒ"), (0x2C72, "ⱳ"), (0x2C75, "ⱶ"), (0x2C7C, "jvȿɀ"), (0x2CEB, "ⳬ"),
    (0x2CED, "ⳮ"), (0x2CF2, "ⳳ"), (0x2D6F, "ⵡ"), (0x2E9F, "母"), (0x2EF3, "龟"),
    (0x2F00, "一丨丶丿乙亅二亠人儿入八冂冖冫几凵刀力勹匕匚匸十卜卩厂厶又口囗土士夂夊夕"),
    (0x2F24, "大女子宀寸小尢尸屮山巛工己巾干幺广廴廾弋弓彐彡彳心戈戶手支攴文斗斤方无日"),
    (0x2F48, "曰月木欠止歹殳毋比毛氏气水火爪父爻爿片牙牛犬玄玉瓜瓦甘生用田疋疒癶白皮皿"),
    (0x2F6C, "目矛矢石示禸禾穴立竹米糸缶网羊羽老而耒耳聿肉臣自至臼舌舛舟艮色艸虍虫血行"),
    (0x2F90, "衣襾見角言谷豆豕豸貝赤走足身車辛辰辵邑酉釆里金長門阜隶隹雨靑非面革韋韭音"),
    (0x2FB4, "頁風飛食首香馬骨高髟鬥鬯鬲鬼魚鳥鹵鹿麥麻黃黍黑黹黽鼎鼓鼠鼻齊齒龍龜龠"), (0x3002, "."), (0x3036, "〒"), (0x3038, "十卄卅"),
    (0x3131, "ᄀᄁᆪᄂᆬᆭᄃᄄᄅ"), (0x3140, "ᄚᄆᄇᄈᄡ"), (0x3165, "ᄔᄕᇇᇈᇌᇎᇓᇗᇙᄜᇝᇟᄝᄞᄠᄢᄣᄧᄩ"),
    (0x317D, "ᄲᄶᅀᅇᅌᇱᇲᅗᅘᅙᆄᆅᆈᆑᆒᆔᆞᆡ"), (0x3192, "一二三四上中下甲乙丙丁天地人"), (0x3244, "問幼文箏"),
    (0x3260, "ᄀᄂᄃᄅᄆᄇᄉᄋᄌ"), (0x326E, "가나다라마바사아자차카타파하"), (0x327E, "우"),
    (0x3280, "一二三四五六七八九十月火水木金土日株有社名特財祝労秘男女適優印注項休写正"), (0x32A4, "上中下左右医宗学監企資協夜"),
    (0x32D0, "アイウエオカキクケコサシスセソタチツテト"), (0x32EA, "ヒフヘホ"), (0x32F3, "ヤユ"), (0xA69C, "ъь"),
    (0xA770, "ꝯ"), (0xA779, "ꝺ"), (0xA77B, "ꝼ"), (0xA77D, "ᵹ"), (0xA78B, "ꞌ"), (0xA78D, "ɥ"),
    (0xA790, "ꞑ"), (0xA792, "ꞓ"), (0xA7AA, "ɦɜɡɬɪ"), (0xA7B0, "ʞʇʝꭓ"), (0xA7C4, "ꞔʂᶎꟈ"),
    (0xA7C9, "ꟊ"), (0xA7CB, "ɤ"), (0xA7DC, "ƛ"), (0xA7F1, "scfqꟶ"), (0xA7F8, "ħœ"),
    (0xAB5C, "ꜧꬷɫꭒ"), (0xAB69, "ʍ"), (0xF900, "豈更車賈滑串句龜龜契金喇奈懶癩羅蘿螺裸邏樂洛烙珞落酪駱亂卵欄爛蘭鸞嵐濫藍"),
    (0xF924, "襤拉臘蠟廊朗浪狼郎來冷勞擄櫓爐盧老蘆虜路露魯鷺碌祿綠菉錄鹿論壟弄籠聾牢磊"),
    (0xF948, "賂雷壘屢樓淚漏累縷陋勒肋凜凌稜綾菱陵讀拏樂諾丹寧怒率異北磻便復不泌數索參"),
    (0xF96C, "塞省葉說殺辰沈拾若掠略亮兩凉梁糧良諒量勵呂女廬旅濾礪閭驪麗黎力曆歷轢年憐"),
    (0xF990, "戀撚漣煉璉秊練聯輦蓮連鍊列劣咽烈裂說廉念捻殮簾獵令囹寧嶺怜玲瑩羚聆鈴零靈"),
    (0xF9B4, "領例禮醴隸惡了僚寮尿料樂燎療蓼遼龍暈阮劉杻柳流溜琉留硫紐類六戮陸倫崙淪輪"),
    (0xF9D8, "律慄栗率隆利吏履易李梨泥理痢罹裏裡里離匿溺吝燐璘藺隣鱗麟林淋臨立笠粒狀炙"), (0xF9FC, "識什茶刺切度拓糖宅洞暴輻行降見廓兀嗀"), (0xFA10, "塚"),
    (0xFA12, "晴"), (0xFA15, "凞猪益礼神祥福靖精羽"), (0xFA20, "蘒"), (0xFA22, "諸"), (0xFA25, "逸都"),
    (0xFA2A, "飯飼館鶴郞隷侮僧免勉勤卑喝嘆器塀墨層屮悔慨憎懲敏既暑梅海渚漢煮爫琢碑社祉"), (0xFA4E, "祈祐祖祝禍禎穀突節練縉繁署者臭艹艹著褐視謁謹賓贈辶逸難響頻恵𤋮舘"),
    (0xFA70, "並况全侀充冀勇勺喝啕喙嗢塚墳奄奔婢嬨廒廙彩徭惘慎愈憎慠懲戴揄搜摒敖晴朗望"),
    (0xFA94, "杖歹殺流滛滋漢瀞煮瞧爵犯猪瑱甆画瘝瘟益盛直睊着磌窱節类絛練缾者荒華蝹襁覆"),
    (0xFAB8, "視調諸請謁諾諭謹變贈輸遲醙鉶陼難靖韛響頋頻鬒龜𢡊𢡄𣏕㮝䀘䀹𥉉𥳐𧻓齃龎"), (0xFB20, "עאדהכלםרת+"),
    (0xFB50, "ٱٱٻٻٻٻپپپپڀڀڀڀٺٺٺٺٿٿٿٿٹٹٹٹڤڤڤڤڦڦڦڦڄڄ"),
    (0xFB74, "ڄڄڃڃڃڃچچچچڇڇڇڇڍڍڌڌڎڎڈڈژژڑڑککککگگگگڳڳ"), (0xFB98, "ڳڳڱڱڱڱںںڻڻڻڻۀۀہہہہھھھھےےۓۓ"),
    (0xFBD3, "ڭڭڭڭۇۇۆۆۈۈ"), (0xFBDE, "ۋۋۅۅۉۉېېېېىى"), (0xFBFC, "یییی"), (0xFE10, ",、"),
    (0xFE14, ";!"), (0xFE17, "〖〗"), (0xFE31, "—–__()\x7b\x7d〔〕【】《》〈〉"), (0xFE4D, "___,、"),
    (0xFE54, ";"), (0xFE57, "!—()\x7b\x7d〔〕"), (0xFE60, "&*+-"), (0xFE66, "="), (0xFE69, "$"),
    (0xFE80, "ءآآأأؤؤإإئئئئااببببةةتتتتثثثثججججححح"),
    (0xFEA4, "حخخخخددذذررززسسسسششششصصصصضضضضططططظظظ"),
    (0xFEC8, "ظععععغغغغففففققققككككللللممممننننههه"), (0xFEEC, "هووىىيييي"), (0xFF01, "!"),
    (0xFF5D, "\x7d~⦅⦆.「」、・ヲァィゥェォャュョッーアイウエオカキクケコサシスセソタ"), (0xFF81, "チツテト"), (0xFF8B, "ヒフヘホ"),
    (0xFF94, "ヤユ"), (0xFF9C, "ワン゙゚"), (0xFFA1, "ᄀᄁᆪᄂᆬᆭᄃᄄᄅ"), (0xFFB0, "ᄚᄆᄇᄈᄡ"), (0xFFDA, "ᅳᅴᅵ"),
    (0xFFE0, "¢£¬"), (0xFFE4, "¦¥₩"), (0xFFE8, "│"), (0xFFED, "■○"), (0x1058D, "𐖴"), (0x1058F, "𐖶"),
    (0x10591, "𐖸"), (0x10595, "𐖼"), (0x10781, "ːˑæʙɓ"),
    (0x10787, "ʣꭦʥʤɖɗᶑɘɞʩɤɢɠʛħʜɧʄʪʫɬ𝼄ꞎɮ𝼅ʎ𝼆øɶɷqɺ𝼈ɽɾʀ"), (0x107AB, "ʨʦꭧʧʈⱱ"), (0x107B2, "ʏʡʢʘǀǁǂ𝼊𝼞"),
    (0x1D44F, "b"), (0x1D451, "d"), (0x1D453, "f"), (0x1D49C, "a"), (0x1D49E, "cd"), (0x1D4A2, "g"),
    (0x1D4A5, "jk"), (0x1D4BE, "i"), (0x1D4C0, "k"), (0x1D4C2, "m"), (0x1D504, "ab"),
    (0x1D538, "ab"), (0x1D546, "o"), (0x1D6A4, "ıȷ"), (0x1D6B9, "θ"), (0x1D6C1, "∇"),
    (0x1D6D3, "σ"), (0x1D6DB, "∂εθκφρπ"), (0x1D6F3, "θ"), (0x1D6FB, "∇"), (0x1D70D, "σ"),
    (0x1D715, "∂εθκφρπ"), (0x1D72D, "θ"), (0x1D735, "∇"), (0x1D747, "σ"), (0x1D74F, "∂εθκφρπ"),
    (0x1D767, "θ"), (0x1D76F, "∇"), (0x1D781, "σ"), (0x1D789, "∂εθκφρπ"), (0x1D7A1, "θ"),
    (0x1D7A9, "∇"), (0x1D7BB, "σ"), (0x1D7C3, "∂εθκφρπϝϝ"), (0x1E039, "клм"),
    (0x1E047, "ыэюꚉәіјөүӏ"), (0x1E05A, "клопс"), (0x1E065, "ъыґіѕџҫꙑұ"), (0x1EE00, "ابجد"),
    (0x1EE05, "وزحطي"), (0x1EE0E, "سعفصقرشتثخذضظغٮںڡٯ"), (0x1EE21, "بج"), (0x1EE24, "ه"),
    (0x1EE27, "ح"), (0x1EE29, "ي"), (0x1EE2E, "سعفصق"), (0x1EE34, "شتثخ"), (0x1EE39, "ض"),
    (0x1EE3B, "غ"), (0x1EE42, "ج"), (0x1EE47, "ح"), (0x1EE49, "ي"), (0x1EE4B, "ل"),
    (0x1EE4D, "نسع"), (0x1EE51, "صق"), (0x1EE54, "ش"), (0x1EE57, "خ"), (0x1EE59, "ض"),
    (0x1EE5B, "غ"), (0x1EE5D, "ں"), (0x1EE5F, "ٯ"), (0x1EE61, "بج"), (0x1EE64, "ه"),
    (0x1EE67, "حطيك"), (0x1EE6C, "منسعفصق"), (0x1EE74, "شتثخ"), (0x1EE79, "ضظغٮ"), (0x1EE7E, "ڡ"),
    (0x1EE80, "ابجدهوزحطي"), (0x1EE8B, "لمنسعفصقرشتثخذضظغ"), (0x1EEA1, "بجد"), (0x1EEA5, "وزحطي"),
    (0x1EEAB, "لمنسعفصقرشتثخذضظغ"), (0x1F12B, "cr"), (0x1F202, "サ"),
    (0x1F210, "手字双デ二多解天交映無料前後再新初終生販声吹演投捕一三遊左中右指走打禁空"), (0x1F234, "合満有月申割営配"), (0x1F250, "得可"),
    (0x2F800, "丽丸乁𠄢你侮侻倂偺備僧像㒞𠘺免兔兤具𠔜㒹內再𠕋冗冤仌冬况𩇟凵刃㓟刻剆割剷"),
    (0x2F824, "㔕勇勉勤勺包匆北卉卑博即卽卿卿卿𠨬灰及叟𠭣叫叱吆咞吸呈周咢哶唐啓啣善善喙"),
    (0x2F848, "喫喳嗂圖嘆圗噑噴切壮城埴堍型堲報墬𡓤売壷夆多夢奢𡚨𡛪姬娛娧姘婦㛮㛼嬈嬾嬾"),
    (0x2F86C, "𡧈寃寘寧寳𡬘寿将当尢㞁屠屮峀岍𡷤嵃𡷦嵮嵫嵼巡巢㠯巽帨帽幩㡢𢆃㡼庰庳庶廊𪎒"),
    (0x2F890, "廾𢌱𢌱舁弢弢㣇𣊸𦇚形彫㣣徚忍志忹悁㤺㤜悔𢛔惇慈慌慎慌慺憎憲憤憯懞懲懶成戛"),
    (0x2F8B4, "扝抱拔捐𢬌挽拼捨掃揤𢯱搢揅掩㨮摩摾撝摷㩬敏敬𣀊旣書晉㬙暑㬈㫤冒冕最暜肭䏙"),
    (0x2F8D8, "朗望朡杞杓𣏃㭉柺枅桒梅𣑭梎栟椔㮝楂榣槪檨𣚣櫛㰘次𣢧歔㱎歲殟殺殻𣪍𡴋𣫺汎𣲼"),
    (0x2F8FC, "沿泍汧洖派海流浩浸涅𣴞洴港湮㴳滋滇𣻑淹潮𣽞𣾎濆瀹瀞瀛㶖灊災灷炭𠔥煅𤉣熜𤎫"),
    (0x2F920, "爨爵牐𤘈犀犕𤜵𤠔獺王㺬玥㺸㺸瑇瑜瑱璅瓊㼛甤𤰶甾𤲒異𢆟瘐𤾡𤾸𥁄㿼䀈直𥃳𥃲𥄙"),
    (0x2F944, "𥄳眞真真睊䀹瞋䁆䂖𥐝硎碌磌䃣𥘦祖𥚚𥛅福秫䄯穀穊穏𥥼𥪧𥪧竮䈂𥮫篆築䈧𥲀糒䊠"),
    (0x2F968, "糨糣紀𥾆絣䌁緇縂繅䌴𦈨𦉇䍙𦋙罺𦌾羕翺者𦓚𦔣聠𦖨聰𣍟䏕育脃䐋脾媵𦞧𦞵𣎓𣎜舁"),
    (0x2F98C, "舄辞䑫芑芋芝劳花芳芽苦𦬼若茝荣莭茣莽菧著荓菊菌菜𦰶𦵫𦳕䔫蓱蓳蔖𧏊蕤𦼬䕝䕡"),
    (0x2F9B0, "𦾱𧃒䕫虐虜虧虩蚩蚈蜎蛢蝹蜨蝫螆䗗蟡蠁䗹衠衣𧙧裗裞䘵裺㒻𧢮𧥦䚾䛇誠諭變豕𧲨"),
    (0x2F9D4, "貫賁贛起𧼯𠠄跋趼跰𠣞軔輸𨗒𨗭邔郱鄑𨜮鄛鈸鋗鋘鉼鏹鐕𨯺開䦕閷𨵷䧦雃嶲霣𩅅𩈚"),
    (0x2F9F8, "䩮䩶韠𩐊䪲𩒖頋頋頩𩖶飢䬳餩馧駂駾䯎𩬰鬒鱀鳽䳎䳭鵧𪃎䳸𪄅𪈎𪊑麻䵖黹黾鼅鼏鼖"), (0x2FA1C, "鼻𪘀")]

/-- Characters that are replaced by several ones: the first of them, and the replacements of it and
of those that follow it, with spaces in between. -/
def words : List (Nat × String) :=
  [(0xBC, "1⁄4 1⁄2 3⁄4"), (0x130, "i̇"), (0x132, "ij ij"), (0x13F, "l· l·"), (0x149, "ʼn"),
    (0x1C4, "dž dž dž lj lj lj nj nj nj"), (0x1F1, "dz dz dz"), (0x344, "̈́"), (0x587, "եւ"),
    (0x675, "اٴ وٴ ۇٴ يٴ"), (0x958, "क़ ख़ ग़ ज़ ड़ ढ़ फ़ य़"), (0x9DC, "ড় ঢ়"), (0x9DF, "য়"),
    (0xA33, "ਲ਼"), (0xA36, "ਸ਼"), (0xA59, "ਖ਼ ਗ਼ ਜ਼"), (0xA5E, "ਫ਼"), (0xB5C, "ଡ଼ ଢ଼"),
    (0xE33, "ํา"), (0xEB3, "ໍາ"), (0xEDC, "ຫນ ຫມ"), (0xF43, "གྷ"), (0xF4D, "ཌྷ"), (0xF52, "དྷ"),
    (0xF57, "བྷ"), (0xF5C, "ཛྷ"), (0xF69, "ཀྵ"), (0xF73, "ཱི"), (0xF75, "ཱུ ྲྀ ྲཱྀ ླྀ ླཱྀ"),
    (0xF81, "ཱྀ"), (0xF93, "ྒྷ"), (0xF9D, "ྜྷ"), (0xFA2, "ྡྷ"), (0xFA7, "ྦྷ"), (0xFAC, "ྫྷ"),
    (0xFB9, "ྐྵ"), (0x1E9A, "aʾ"), (0x1F80, "ἀι ἁι ἂι ἃι ἄι ἅι ἆι ἇι ἀι ἁι ἂι ἃι"),
    (0x1F8C, "ἄι ἅι ἆι ἇι ἠι ἡι ἢι ἣι ἤι ἥι ἦι ἧι"),
    (0x1F98, "ἠι ἡι ἢι ἣι ἤι ἥι ἦι ἧι ὠι ὡι ὢι ὣι"),
    (0x1FA4, "ὤι ὥι ὦι ὧι ὠι ὡι ὢι ὣι ὤι ὥι ὦι ὧι"), (0x1FB2, "ὰι αι άι"), (0x1FB7, "ᾶι"),
    (0x1FBC, "αι"), (0x1FC2, "ὴι ηι ήι"), (0x1FC7, "ῆι"), (0x1FCC, "ηι"), (0x1FF2, "ὼι ωι ώι"),
    (0x1FF7, "ῶι"), (0x1FFC, "ωι"), (0x2033, "′′ ′′′"), (0x2036, "‵‵ ‵‵‵"), (0x203C, "!!"),
    (0x2057, "′′′′"), (0x20A8, "rs"), (0x2103, "°c"), (0x2109, "°f"), (0x2116, "no"),
    (0x2120, "sm tel tm"), (0x213B, "fax"),
    (0x2150, "1⁄7 1⁄9 1⁄10 1⁄3 2⁄3 1⁄5 2⁄5 3⁄5 4⁄5 1⁄6 5⁄6 1⁄8"), (0x215C, "3⁄8 5⁄8 7⁄8 1⁄"),
    (0x2161, "ii iii iv"), (0x2165, "vi vii viii ix"), (0x216A, "xi xii"), (0x2171, "ii iii iv"),
    (0x2175, "vi vii viii ix"), (0x217A, "xi xii"), (0x2189, "0⁄3"), (0x222C, "∫∫ ∫∫∫"),
    (0x222F, "∮∮ ∮∮∮"), (0x2469, "10 11 12 13 14 15 16 17 18 19 20 (1)"),
    (0x2475, "(2) (3) (4) (5) (6) (7) (8) (9) (10) (11) (12) (13)"),
    (0x2481, "(14) (15) (16) (17) (18) (19) (20)"),
    (0x249C, "(a) (b) (c) (d) (e) (f) (g) (h) (i) (j) (k) (l)"),
    (0x24A8, "(m) (n) (o) (p) (q) (r) (s) (t) (u) (v) (w) (x)"), (0x24B4, "(y) (z)"),
    (0x2A0C, "∫∫∫∫"), (0x2A75, "== ==="), (0x2ADC, "⫝̸"), (0x309F, "より"), (0x30FF, "コト"),
    (0x3200, "(ᄀ) (ᄂ) (ᄃ) (ᄅ) (ᄆ) (ᄇ) (ᄉ) (ᄋ) (ᄌ) (ᄎ) (ᄏ) (ᄐ)"),
    (0x320C, "(ᄑ) (ᄒ) (가) (나) (다) (라) (마) (바) (사) (아) (자) (차)"),
    (0x3218, "(카) (타) (파) (하) (주) (오전) (오후)"),
    (0x3220, "(一) (二) (三) (四) (五) (六) (七) (八) (九) (十) (月) (火)"),
    (0x322C, "(水) (木) (金) (土) (日) (株) (有) (社) (名) (特) (財) (祝)"),
    (0x3238, "(労) (代) (呼) (学) (監) (企) (資) (協) (祭) (休) (自) (至)"),
    (0x3250, "pte 21 22 23 24 25 26 27 28 29 30 31"), (0x325C, "32 33 34 35"), (0x327C, "참고 주의"),
    (0x32B1, "36 37 38 39 40 41 42 43 44 45 46 47"),
    (0x32BD, "48 49 50 1月 2月 3月 4月 5月 6月 7月 8月 9月"), (0x32C9, "10月 11月 12月 hg erg ev ltd"),
    (0x32FF, "令和 アパート アルファ アンペア アール イニング インチ ウォン エスクード エーカー オンス オーム"),
    (0x330B, "カイリ カラット カロリー ガロン ガンマ ギガ ギニー キュリー ギルダー キロ キログラム キロメートル"),
    (0x3317, "キロワット グラム グラムトン クルゼイロ クローネ ケース コルナ コーポ サイクル サンチーム シリング センチ"),
    (0x3323, "セント ダース デシ ドル トン ナノ ノット ハイツ パーセント パーツ バーレル ピアストル"),
    (0x332F, "ピクル ピコ ビル ファラッド フィート ブッシェル フラン ヘクタール ペソ ペニヒ ヘルツ ペンス"),
    (0x333B, "ページ ベータ ポイント ボルト ホン ポンド ホール ホーン マイクロ マイル マッハ マルク"),
    (0x3347, "マンション ミクロン ミリ ミリバール メガ メガトン メートル ヤード ヤール ユアン リットル リラ"),
    (0x3353, "ルピー ルーブル レム レントゲン ワット 0点 1点 2点 3点 4点 5点 6点"),
    (0x335F, "7点 8点 9点 10点 11点 12点 13点 14点 15点 16点 17点 18点"),
    (0x336B, "19点 20点 21点 22点 23点 24点 hpa da au bar ov pc"),
    (0x3377, "dm dm2 dm3 iu 平成 昭和 大正 明治 株式会社 pa na μa"),
    (0x3383, "ma ka kb mb gb cal kcal pf nf μf μg mg"),
    (0x338F, "kg hz khz mhz ghz thz μl ml dl kl fm nm"),
    (0x339B, "μm mm cm km mm2 cm2 m2 km2 mm3 cm3 m3 km3"),
    (0x33A7, "m∕s m∕s2 pa kpa mpa gpa rad rad∕s rad∕s2 ps ns μs"),
    (0x33B3, "ms pv nv μv mv kv mv pw nw μw mw kw"), (0x33BF, "mw kω mω"),
    (0x33C3, "bq cc cd c∕kg"), (0x33C8, "db gy ha hp in kk km kt lm ln log lx"),
    (0x33D4, "mb mil mol ph"), (0x33D9, "ppm pr sr sv wb v∕m a∕m 1日 2日 3日 4日 5日"),
    (0x33E5, "6日 7日 8日 9日 10日 11日 12日 13日 14日 15日 16日 17日"),
    (0x33F1, "18日 19日 20日 21日 22日 23日 24日 25日 26日 27日 28日 29日"), (0x33FD, "30日 31日 gal"),
    (0xFB00, "ff fi fl ffi ffl st st"), (0xFB13, "մն մե մի վն մխ"), (0xFB1D, "יִ"), (0xFB1F, "ײַ"),
    (0xFB2A, "שׁ שׂ שּׁ שּׂ אַ אָ אּ בּ גּ דּ הּ וּ"), (0xFB36, "זּ"), (0xFB38, "טּ יּ ךּ כּ לּ"),
    (0xFB3E, "מּ"), (0xFB40, "נּ סּ"), (0xFB43, "ףּ פּ"), (0xFB46, "צּ קּ רּ שּ תּ וֹ בֿ כֿ פֿ אל"),
    (0xFBDD, "ۇٴ"), (0xFBEA, "ئا ئا ئە ئە ئو ئو ئۇ ئۇ ئۆ ئۆ ئۈ ئۈ"), (0xFBF6, "ئې ئې ئې ئى ئى ئى"),
    (0xFC00, "ئج ئح ئم ئى ئي بج بح بخ بم بى بي تج"),
    (0xFC0C, "تح تخ تم تى تي ثج ثم ثى ثي جح جم حج"),
    (0xFC18, "حم خج خح خم سج سح سخ سم صح صم ضج ضح"),
    (0xFC24, "ضخ ضم طح طم ظم عج عم غج غم فج فح فخ"),
    (0xFC30, "فم فى في قح قم قى قي كا كج كح كخ كل"),
    (0xFC3C, "كم كى كي لج لح لخ لم لى لي مج مح مخ"),
    (0xFC48, "مم مى مي نج نح نخ نم نى ني هج هم هى"), (0xFC54, "هي يج يح يخ يم يى يي ذٰ رٰ ىٰ"),
    (0xFC64, "ئر ئز ئم ئن ئى ئي بر بز بم بن بى بي"),
    (0xFC70, "تر تز تم تن تى تي ثر ثز ثم ثن ثى ثي"),
    (0xFC7C, "فى في قى قي كا كل كم كى كي لم لى لي"),
    (0xFC88, "ما مم نر نز نم نن نى ني ىٰ ير يز يم"),
    (0xFC94, "ين يى يي ئج ئح ئخ ئم ئه بج بح بخ بم"),
    (0xFCA0, "به تج تح تخ تم ته ثم جح جم حج حم خج"),
    (0xFCAC, "خم سج سح سخ سم صح صخ صم ضج ضح ضخ ضم"),
    (0xFCB8, "طح ظم عج عم غج غم فج فح فخ فم قح قم"),
    (0xFCC4, "كج كح كخ كل كم لج لح لخ لم له مج مح"),
    (0xFCD0, "مخ مم نج نح نخ نم نه هج هم هٰ يج يح"),
    (0xFCDC, "يخ يم يه ئم ئه بم به تم ته ثم ثه سم"),
    (0xFCE8, "سه شم شه كل كم لم نم نه يم يه ـَّ ـُّ"),
    (0xFCF4, "ـِّ طى طي عى عي غى غي سى سي شى شي حى"),
    (0xFD00, "حي جى جي خى خي صى صي ضى ضي شج شح شخ"),
    (0xFD0C, "شم شر سر صر ضر طى طي عى عي غى غي سى"),
    (0xFD18, "سي شى شي حى حي جى جي خى خي صى صي ضى"),
    (0xFD24, "ضي شج شح شخ شم شر سر صر ضر شج شح شخ"),
    (0xFD30, "شم سه شه طم سج سح سخ شج شح شخ طم ظم"), (0xFD3C, "اً اً"),
    (0xFD50, "تجم تحج تحج تحم تخم تمج تمح تمخ جمح جمح حمي حمى"),
    (0xFD5C, "سحج سجح سجى سمح سمح سمج سمم سمم صحح صحح صمم شحم"),
    (0xFD68, "شحم شجي شمخ شمخ شمم شمم ضحى ضخم ضخم طمح طمح طمم"),
    (0xFD74, "طمي عجم عمم عمم عمى غمم غمي غمى فخم فخم قمح قمم"),
    (0xFD80, "لحم لحي لحى لجج لجج لخم لخم لمح لمح محج محم محي"), (0xFD8C, "مجح مجم مخج مخم"),
    (0xFD92, "مجخ همج همم نحم نحى نجم نجم نجى نمي نمى يمم يمم"),
    (0xFD9E, "بخي تجي تجى تخي تخى تمي تمى جمي جحى جمى سخى صحي"),
    (0xFDAA, "شحي ضحي لجي لمي يحي يجي يمي ممي قمي نحي قمح لحم"),
    (0xFDB6, "عمي كمي نجح مخي لجم كمم لجم نجح جحي حجي مجي فمي"),
    (0xFDC2, "بحي كمم عجم صمم سخي نجي"), (0xFDF0, "صلے قلے الله اكبر محمد صلعم رسول عليه وسلم صلى"),
    (0xFDFC, "ریال"), (0xFE71, "ـً"), (0xFE77, "ـَ"), (0xFE79, "ـُ"), (0xFE7B, "ـِ"),
    (0xFE7D, "ـّ"), (0xFE7F, "ـْ"), (0xFEF5, "لآ لآ لأ لأ لإ لإ لا لا"),
    (0x1D15E, "𝅗𝅥 𝅘𝅥 𝅘𝅥𝅮 𝅘𝅥𝅯 𝅘𝅥𝅰 𝅘𝅥𝅱 𝅘𝅥𝅲"), (0x1D1BB, "𝆹𝅥 𝆺𝅥 𝆹𝅥𝅮 𝆺𝅥𝅮 𝆹𝅥𝅯 𝆺𝅥𝅯"),
    (0x1F101, "0, 1, 2, 3, 4, 5, 6, 7, 8, 9,"),
    (0x1F110, "(a) (b) (c) (d) (e) (f) (g) (h) (i) (j) (k) (l)"),
    (0x1F11C, "(m) (n) (o) (p) (q) (r) (s) (t) (u) (v) (w) (x)"), (0x1F128, "(y) (z) 〔s〕"),
    (0x1F12D, "cd wz"), (0x1F14A, "hv mv sd ss ppv wc"), (0x1F16A, "mc md mr"), (0x1F190, "dj"),
    (0x1F200, "ほか ココ"), (0x1F240, "〔本〕 〔三〕 〔二〕 〔安〕 〔点〕 〔打〕 〔盗〕 〔勝〕 〔敗〕")]

/-- What becomes of a character. -/
inductive Mapped where
  | kept
  | ignored
  | refused
  | replaced (cs : List Char)

/-- The replacement of a character a fixed distance away. -/
def Shift.find? (s : Shift) (n : Nat) : Option (List Char) :=
  if s.first ≤ n ∧ n ≤ s.last ∧ (n - s.first) % s.step = 0 then
    some [Char.ofNat (n + s.distance).toNat]
  else none

/-- The replacement of a character by one that is listed. -/
def findLetter? (n : Nat) (e : Nat × String) : Option (List Char) :=
  if n < e.1 then none else e.2.toList[n - e.1]?.map ([·])

def splitSpaces : List Char → List (List Char)
  | [] => [[]]
  | c :: cs =>
    match splitSpaces cs with
    | [] => []
    | part :: parts => if c = ' ' then [] :: part :: parts else (c :: part) :: parts

/-- The replacement of a character by several that are listed. -/
def findWord? (n : Nat) (e : Nat × String) : Option (List Char) :=
  if n < e.1 then none else (splitSpaces e.2.toList)[n - e.1]?

def replacement? (n : Nat) : Option (List Char) :=
  ((shifts.findSome? fun s => s.find? n).or (letters.findSome? (findLetter? n))).or
    (words.findSome? (findWord? n))

def mapChar (c : Char) : Mapped :=
  if c.toNat < 0x80 then if c.isUpper then .replaced [c.toLower] else .kept
  else if Text.within refusedRanges c then .refused
  else if Text.within ignoredRanges c then .ignored
  else match replacement? c.toNat with
    | some cs => .replaced cs
    | none => .kept

/-- A text after its characters are mapped, unless one of them is refused. -/
def mapText : List Char → Option (List Char)
  | [] => some []
  | c :: cs =>
    match mapChar c with
    | .kept => (mapText cs).map (c :: ·)
    | .ignored => mapText cs
    | .refused => none
    | .replaced ds => (mapText cs).map (ds ++ ·)

def isKept (c : Char) : Bool :=
  match mapChar c with
  | .kept => true
  | _ => false

end Tenancy.Url
