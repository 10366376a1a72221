/-!
# Characters of domain names

What the characters of a domain name are to the rules for international names. A set of characters
has the form of `PowerLease.Text.Bounds`. Characters that no name may hold are in no set but the
first.
-/

namespace PowerLease.Url

/-- Characters that no name may hold. -/
def forbiddenBounds : Array Nat := #[
    0x80, 0xa0, 0x378, 0x37a, 0x380, 0x384, 0x38b, 0x38c, 0x38d, 0x38e, 0x3a2, 0x3a3, 0x530, 0x531,
    0x557, 0x559, 0x58b, 0x58d, 0x590, 0x591, 0x5c8, 0x5d0, 0x5eb, 0x5ef, 0x5f5, 0x606, 0x61c,
    0x61d, 0x6dd, 0x6de, 0x70e, 0x710, 0x74b, 0x74d, 0x7b2, 0x7c0, 0x7fb, 0x7fd, 0x82e, 0x830,
    0x83f, 0x840, 0x85c, 0x85e, 0x85f, 0x860, 0x86b, 0x870, 0x890, 0x897, 0x8e2, 0x8e3, 0x984,
    0x985, 0x98d, 0x98f, 0x991, 0x993, 0x9a9, 0x9aa, 0x9b1, 0x9b2, 0x9b3, 0x9b6, 0x9ba, 0x9bc,
    0x9c5, 0x9c7, 0x9c9, 0x9cb, 0x9cf, 0x9d7, 0x9d8, 0x9dc, 0x9de, 0x9df, 0x9e4, 0x9e6, 0x9ff,
    0xa01, 0xa04, 0xa05, 0xa0b, 0xa0f, 0xa11, 0xa13, 0xa29, 0xa2a, 0xa31, 0xa32, 0xa34, 0xa35,
    0xa37, 0xa38, 0xa3a, 0xa3c, 0xa3d, 0xa3e, 0xa43, 0xa47, 0xa49, 0xa4b, 0xa4e, 0xa51, 0xa52,
    0xa59, 0xa5d, 0xa5e, 0xa5f, 0xa66, 0xa77, 0xa81, 0xa84, 0xa85, 0xa8e, 0xa8f, 0xa92, 0xa93,
    0xaa9, 0xaaa, 0xab1, 0xab2, 0xab4, 0xab5, 0xaba, 0xabc, 0xac6, 0xac7, 0xaca, 0xacb, 0xace,
    0xad0, 0xad1, 0xae0, 0xae4, 0xae6, 0xaf2, 0xaf9, 0xb00, 0xb01, 0xb04, 0xb05, 0xb0d, 0xb0f,
    0xb11, 0xb13, 0xb29, 0xb2a, 0xb31, 0xb32, 0xb34, 0xb35, 0xb3a, 0xb3c, 0xb45, 0xb47, 0xb49,
    0xb4b, 0xb4e, 0xb55, 0xb58, 0xb5c, 0xb5e, 0xb5f, 0xb64, 0xb66, 0xb78, 0xb82, 0xb84, 0xb85,
    0xb8b, 0xb8e, 0xb91, 0xb92, 0xb96, 0xb99, 0xb9b, 0xb9c, 0xb9d, 0xb9e, 0xba0, 0xba3, 0xba5,
    0xba8, 0xbab, 0xbae, 0xbba, 0xbbe, 0xbc3, 0xbc6, 0xbc9, 0xbca, 0xbce, 0xbd0, 0xbd1, 0xbd7,
    0xbd8, 0xbe6, 0xbfb, 0xc00, 0xc0d, 0xc0e, 0xc11, 0xc12, 0xc29, 0xc2a, 0xc3a, 0xc3c, 0xc45,
    0xc46, 0xc49, 0xc4a, 0xc4e, 0xc55, 0xc57, 0xc58, 0xc5b, 0xc5c, 0xc5e, 0xc60, 0xc64, 0xc66,
    0xc70, 0xc77, 0xc8d, 0xc8e, 0xc91, 0xc92, 0xca9, 0xcaa, 0xcb4, 0xcb5, 0xcba, 0xcbc, 0xcc5,
    0xcc6, 0xcc9, 0xcca, 0xcce, 0xcd5, 0xcd7, 0xcdc, 0xcdf, 0xce0, 0xce4, 0xce6, 0xcf0, 0xcf1,
    0xcf4, 0xd00, 0xd0d, 0xd0e, 0xd11, 0xd12, 0xd45, 0xd46, 0xd49, 0xd4a, 0xd50, 0xd54, 0xd64,
    0xd66, 0xd80, 0xd81, 0xd84, 0xd85, 0xd97, 0xd9a, 0xdb2, 0xdb3, 0xdbc, 0xdbd, 0xdbe, 0xdc0,
    0xdc7, 0xdca, 0xdcb, 0xdcf, 0xdd5, 0xdd6, 0xdd7, 0xdd8, 0xde0, 0xde6, 0xdf0, 0xdf2, 0xdf5,
    0xe01, 0xe3b, 0xe3f, 0xe5c, 0xe81, 0xe83, 0xe84, 0xe85, 0xe86, 0xe8b, 0xe8c, 0xea4, 0xea5,
    0xea6, 0xea7, 0xebe, 0xec0, 0xec5, 0xec6, 0xec7, 0xec8, 0xecf, 0xed0, 0xeda, 0xedc, 0xee0,
    0xf00, 0xf48, 0xf49, 0xf6d, 0xf71, 0xf98, 0xf99, 0xfbd, 0xfbe, 0xfcd, 0xfce, 0xfdb, 0x1000,
    0x10c6, 0x10c7, 0x10c8, 0x10cd, 0x10ce, 0x10d0, 0x1249, 0x124a, 0x124e, 0x1250, 0x1257, 0x1258,
    0x1259, 0x125a, 0x125e, 0x1260, 0x1289, 0x128a, 0x128e, 0x1290, 0x12b1, 0x12b2, 0x12b6, 0x12b8,
    0x12bf, 0x12c0, 0x12c1, 0x12c2, 0x12c6, 0x12c8, 0x12d7, 0x12d8, 0x1311, 0x1312, 0x1316, 0x1318,
    0x135b, 0x135d, 0x137d, 0x1380, 0x139a, 0x13a0, 0x13f6, 0x13f8, 0x13fe, 0x1400, 0x1680, 0x1681,
    0x169d, 0x16a0, 0x16f9, 0x1700, 0x1716, 0x171f, 0x1737, 0x1740, 0x1754, 0x1760, 0x176d, 0x176e,
    0x1771, 0x1772, 0x1774, 0x1780, 0x17de, 0x17e0, 0x17ea, 0x17f0, 0x17fa, 0x1800, 0x181a, 0x1820,
    0x1879, 0x1880, 0x18ab, 0x18b0, 0x18f6, 0x1900, 0x191f, 0x1920, 0x192c, 0x1930, 0x193c, 0x1940,
    0x1941, 0x1944, 0x196e, 0x1970, 0x1975, 0x1980, 0x19ac, 0x19b0, 0x19ca, 0x19d0, 0x19db, 0x19de,
    0x1a1c, 0x1a1e, 0x1a5f, 0x1a60, 0x1a7d, 0x1a7f, 0x1a8a, 0x1a90, 0x1a9a, 0x1aa0, 0x1aae, 0x1ab0,
    0x1ade, 0x1ae0, 0x1aec, 0x1b00, 0x1b4d, 0x1b4e, 0x1bf4, 0x1bfc, 0x1c38, 0x1c3b, 0x1c4a, 0x1c4d,
    0x1c8b, 0x1c90, 0x1cbb, 0x1cbd, 0x1cc8, 0x1cd0, 0x1cfb, 0x1d00, 0x1f16, 0x1f18, 0x1f1e, 0x1f20,
    0x1f46, 0x1f48, 0x1f4e, 0x1f50, 0x1f58, 0x1f59, 0x1f5a, 0x1f5b, 0x1f5c, 0x1f5d, 0x1f5e, 0x1f5f,
    0x1f7e, 0x1f80, 0x1fb5, 0x1fb6, 0x1fc5, 0x1fc6, 0x1fd4, 0x1fd6, 0x1fdc, 0x1fdd, 0x1ff0, 0x1ff2,
    0x1ff5, 0x1ff6, 0x1fff, 0x2000, 0x200e, 0x2010, 0x2024, 0x2027, 0x2028, 0x202f, 0x2065, 0x206a,
    0x2072, 0x2074, 0x208f, 0x2090, 0x209d, 0x20a0, 0x20c2, 0x20d0, 0x20f1, 0x2100, 0x218c, 0x2190,
    0x242a, 0x2440, 0x244b, 0x2460, 0x2488, 0x249c, 0x2b74, 0x2b76, 0x2cf4, 0x2cf9, 0x2d26, 0x2d27,
    0x2d28, 0x2d2d, 0x2d2e, 0x2d30, 0x2d68, 0x2d6f, 0x2d71, 0x2d7f, 0x2d97, 0x2da0, 0x2da7, 0x2da8,
    0x2daf, 0x2db0, 0x2db7, 0x2db8, 0x2dbf, 0x2dc0, 0x2dc7, 0x2dc8, 0x2dcf, 0x2dd0, 0x2dd7, 0x2dd8,
    0x2ddf, 0x2de0, 0x2e5e, 0x2e80, 0x2e9a, 0x2e9b, 0x2ef4, 0x2f00, 0x2fd6, 0x3000, 0x3040, 0x3041,
    0x3097, 0x3099, 0x3100, 0x3105, 0x3130, 0x3131, 0x318f, 0x3190, 0x31e6, 0x31f0, 0x321f, 0x3220,
    0x33c2, 0x33c3, 0x33c7, 0x33c8, 0x33d8, 0x33d9, 0xa48d, 0xa490, 0xa4c7, 0xa4d0, 0xa62c, 0xa640,
    0xa6f8, 0xa700, 0xa7dd, 0xa7f1, 0xa82d, 0xa830, 0xa83a, 0xa840, 0xa878, 0xa880, 0xa8c6, 0xa8ce,
    0xa8da, 0xa8e0, 0xa954, 0xa95f, 0xa97d, 0xa980, 0xa9ce, 0xa9cf, 0xa9da, 0xa9de, 0xa9ff, 0xaa00,
    0xaa37, 0xaa40, 0xaa4e, 0xaa50, 0xaa5a, 0xaa5c, 0xaac3, 0xaadb, 0xaaf7, 0xab01, 0xab07, 0xab09,
    0xab0f, 0xab11, 0xab17, 0xab20, 0xab27, 0xab28, 0xab2f, 0xab30, 0xab6c, 0xab70, 0xabee, 0xabf0,
    0xabfa, 0xac00, 0xd7a4, 0xd7b0, 0xd7c7, 0xd7cb, 0xd7fc, 0xf900, 0xfa6e, 0xfa70, 0xfada, 0xfb00,
    0xfb07, 0xfb13, 0xfb18, 0xfb1d, 0xfb37, 0xfb38, 0xfb3d, 0xfb3e, 0xfb3f, 0xfb40, 0xfb42, 0xfb43,
    0xfb45, 0xfb46, 0xfdd0, 0xfdf0, 0xfe12, 0xfe13, 0xfe19, 0xfe20, 0xfe30, 0xfe31, 0xfe52, 0xfe54,
    0xfe67, 0xfe68, 0xfe6c, 0xfe70, 0xfe75, 0xfe76, 0xfefd, 0xfeff, 0xff00, 0xff01, 0xffbf, 0xffc2,
    0xffc8, 0xffca, 0xffd0, 0xffd2, 0xffd8, 0xffda, 0xffdd, 0xffe0, 0xffe7, 0xffe8, 0xffef,
    0x10000, 0x1000c, 0x1000d, 0x10027, 0x10028, 0x1003b, 0x1003c, 0x1003e, 0x1003f, 0x1004e,
    0x10050, 0x1005e, 0x10080, 0x100fb, 0x10100, 0x10103, 0x10107, 0x10134, 0x10137, 0x1018f,
    0x10190, 0x1019d, 0x101a0, 0x101a1, 0x101d0, 0x101fe, 0x10280, 0x1029d, 0x102a0, 0x102d1,
    0x102e0, 0x102fc, 0x10300, 0x10324, 0x1032d, 0x1034b, 0x10350, 0x1037b, 0x10380, 0x1039e,
    0x1039f, 0x103c4, 0x103c8, 0x103d6, 0x10400, 0x1049e, 0x104a0, 0x104aa, 0x104b0, 0x104d4,
    0x104d8, 0x104fc, 0x10500, 0x10528, 0x10530, 0x10564, 0x1056f, 0x1057b, 0x1057c, 0x1058b,
    0x1058c, 0x10593, 0x10594, 0x10596, 0x10597, 0x105a2, 0x105a3, 0x105b2, 0x105b3, 0x105ba,
    0x105bb, 0x105bd, 0x105c0, 0x105f4, 0x10600, 0x10737, 0x10740, 0x10756, 0x10760, 0x10768,
    0x10780, 0x10786, 0x10787, 0x107b1, 0x107b2, 0x107bb, 0x10800, 0x10806, 0x10808, 0x10809,
    0x1080a, 0x10836, 0x10837, 0x10839, 0x1083c, 0x1083d, 0x1083f, 0x10856, 0x10857, 0x1089f,
    0x108a7, 0x108b0, 0x108e0, 0x108f3, 0x108f4, 0x108f6, 0x108fb, 0x1091c, 0x1091f, 0x1093a,
    0x1093f, 0x1095a, 0x10980, 0x109b8, 0x109bc, 0x109d0, 0x109d2, 0x10a04, 0x10a05, 0x10a07,
    0x10a0c, 0x10a14, 0x10a15, 0x10a18, 0x10a19, 0x10a36, 0x10a38, 0x10a3b, 0x10a3f, 0x10a49,
    0x10a50, 0x10a59, 0x10a60, 0x10aa0, 0x10ac0, 0x10ae7, 0x10aeb, 0x10af7, 0x10b00, 0x10b36,
    0x10b39, 0x10b56, 0x10b58, 0x10b73, 0x10b78, 0x10b92, 0x10b99, 0x10b9d, 0x10ba9, 0x10bb0,
    0x10c00, 0x10c49, 0x10c80, 0x10cb3, 0x10cc0, 0x10cf3, 0x10cfa, 0x10d28, 0x10d30, 0x10d3a,
    0x10d40, 0x10d66, 0x10d69, 0x10d86, 0x10d8e, 0x10d90, 0x10e60, 0x10e7f, 0x10e80, 0x10eaa,
    0x10eab, 0x10eae, 0x10eb0, 0x10eb2, 0x10ec2, 0x10ec8, 0x10ed0, 0x10ed9, 0x10efa, 0x10f28,
    0x10f30, 0x10f5a, 0x10f70, 0x10f8a, 0x10fb0, 0x10fcc, 0x10fe0, 0x10ff7, 0x11000, 0x1104e,
    0x11052, 0x11076, 0x1107f, 0x110bd, 0x110be, 0x110c3, 0x110d0, 0x110e9, 0x110f0, 0x110fa,
    0x11100, 0x11135, 0x11136, 0x11148, 0x11150, 0x11177, 0x11180, 0x111e0, 0x111e1, 0x111f5,
    0x11200, 0x11212, 0x11213, 0x11242, 0x11280, 0x11287, 0x11288, 0x11289, 0x1128a, 0x1128e,
    0x1128f, 0x1129e, 0x1129f, 0x112aa, 0x112b0, 0x112eb, 0x112f0, 0x112fa, 0x11300, 0x11304,
    0x11305, 0x1130d, 0x1130f, 0x11311, 0x11313, 0x11329, 0x1132a, 0x11331, 0x11332, 0x11334,
    0x11335, 0x1133a, 0x1133b, 0x11345, 0x11347, 0x11349, 0x1134b, 0x1134e, 0x11350, 0x11351,
    0x11357, 0x11358, 0x1135d, 0x11364, 0x11366, 0x1136d, 0x11370, 0x11375, 0x11380, 0x1138a,
    0x1138b, 0x1138c, 0x1138e, 0x1138f, 0x11390, 0x113b6, 0x113b7, 0x113c1, 0x113c2, 0x113c3,
    0x113c5, 0x113c6, 0x113c7, 0x113cb, 0x113cc, 0x113d6, 0x113d7, 0x113d9, 0x113e1, 0x113e3,
    0x11400, 0x1145c, 0x1145d, 0x11462, 0x11480, 0x114c8, 0x114d0, 0x114da, 0x11580, 0x115b6,
    0x115b8, 0x115de, 0x11600, 0x11645, 0x11650, 0x1165a, 0x11660, 0x1166d, 0x11680, 0x116ba,
    0x116c0, 0x116ca, 0x116d0, 0x116e4, 0x11700, 0x1171b, 0x1171d, 0x1172c, 0x11730, 0x11747,
    0x11800, 0x1183c, 0x118a0, 0x118f3, 0x118ff, 0x11907, 0x11909, 0x1190a, 0x1190c, 0x11914,
    0x11915, 0x11917, 0x11918, 0x11936, 0x11937, 0x11939, 0x1193b, 0x11947, 0x11950, 0x1195a,
    0x119a0, 0x119a8, 0x119aa, 0x119d8, 0x119da, 0x119e5, 0x11a00, 0x11a48, 0x11a50, 0x11aa3,
    0x11ab0, 0x11af9, 0x11b00, 0x11b0a, 0x11b60, 0x11b68, 0x11bc0, 0x11be2, 0x11bf0, 0x11bfa,
    0x11c00, 0x11c09, 0x11c0a, 0x11c37, 0x11c38, 0x11c46, 0x11c50, 0x11c6d, 0x11c70, 0x11c90,
    0x11c92, 0x11ca8, 0x11ca9, 0x11cb7, 0x11d00, 0x11d07, 0x11d08, 0x11d0a, 0x11d0b, 0x11d37,
    0x11d3a, 0x11d3b, 0x11d3c, 0x11d3e, 0x11d3f, 0x11d48, 0x11d50, 0x11d5a, 0x11d60, 0x11d66,
    0x11d67, 0x11d69, 0x11d6a, 0x11d8f, 0x11d90, 0x11d92, 0x11d93, 0x11d99, 0x11da0, 0x11daa,
    0x11db0, 0x11ddc, 0x11de0, 0x11dea, 0x11ee0, 0x11ef9, 0x11f00, 0x11f11, 0x11f12, 0x11f3b,
    0x11f3e, 0x11f5b, 0x11fb0, 0x11fb1, 0x11fc0, 0x11ff2, 0x11fff, 0x1239a, 0x12400, 0x1246f,
    0x12470, 0x12475, 0x12480, 0x12544, 0x12f90, 0x12ff3, 0x13000, 0x13430, 0x13440, 0x13456,
    0x13460, 0x143fb, 0x14400, 0x14647, 0x16100, 0x1613a, 0x16800, 0x16a39, 0x16a40, 0x16a5f,
    0x16a60, 0x16a6a, 0x16a6e, 0x16abf, 0x16ac0, 0x16aca, 0x16ad0, 0x16aee, 0x16af0, 0x16af6,
    0x16b00, 0x16b46, 0x16b50, 0x16b5a, 0x16b5b, 0x16b62, 0x16b63, 0x16b78, 0x16b7d, 0x16b90,
    0x16d40, 0x16d7a, 0x16e40, 0x16e9b, 0x16ea0, 0x16eb9, 0x16ebb, 0x16ed4, 0x16f00, 0x16f4b,
    0x16f4f, 0x16f88, 0x16f8f, 0x16fa0, 0x16fe0, 0x16fe5, 0x16ff0, 0x16ff7, 0x17000, 0x18cd6,
    0x18cff, 0x18d1f, 0x18d80, 0x18df3, 0x1aff0, 0x1aff4, 0x1aff5, 0x1affc, 0x1affd, 0x1afff,
    0x1b000, 0x1b123, 0x1b132, 0x1b133, 0x1b150, 0x1b153, 0x1b155, 0x1b156, 0x1b164, 0x1b168,
    0x1b170, 0x1b2fc, 0x1bc00, 0x1bc6b, 0x1bc70, 0x1bc7d, 0x1bc80, 0x1bc89, 0x1bc90, 0x1bc9a,
    0x1bc9c, 0x1bca4, 0x1cc00, 0x1ccfd, 0x1cd00, 0x1ceb4, 0x1ceba, 0x1ced1, 0x1cee0, 0x1cef1,
    0x1cf00, 0x1cf2e, 0x1cf30, 0x1cf47, 0x1cf50, 0x1cfc4, 0x1d000, 0x1d0f6, 0x1d100, 0x1d127,
    0x1d129, 0x1d1eb, 0x1d200, 0x1d246, 0x1d2c0, 0x1d2d4, 0x1d2e0, 0x1d2f4, 0x1d300, 0x1d357,
    0x1d360, 0x1d379, 0x1d400, 0x1d455, 0x1d456, 0x1d49d, 0x1d49e, 0x1d4a0, 0x1d4a2, 0x1d4a3,
    0x1d4a5, 0x1d4a7, 0x1d4a9, 0x1d4ad, 0x1d4ae, 0x1d4ba, 0x1d4bb, 0x1d4bc, 0x1d4bd, 0x1d4c4,
    0x1d4c5, 0x1d506, 0x1d507, 0x1d50b, 0x1d50d, 0x1d515, 0x1d516, 0x1d51d, 0x1d51e, 0x1d53a,
    0x1d53b, 0x1d53f, 0x1d540, 0x1d545, 0x1d546, 0x1d547, 0x1d54a, 0x1d551, 0x1d552, 0x1d6a6,
    0x1d6a8, 0x1d7cc, 0x1d7ce, 0x1da8c, 0x1da9b, 0x1daa0, 0x1daa1, 0x1dab0, 0x1df00, 0x1df1f,
    0x1df25, 0x1df2b, 0x1e000, 0x1e007, 0x1e008, 0x1e019, 0x1e01b, 0x1e022, 0x1e023, 0x1e025,
    0x1e026, 0x1e02b, 0x1e030, 0x1e06e, 0x1e08f, 0x1e090, 0x1e100, 0x1e12d, 0x1e130, 0x1e13e,
    0x1e140, 0x1e14a, 0x1e14e, 0x1e150, 0x1e290, 0x1e2af, 0x1e2c0, 0x1e2fa, 0x1e2ff, 0x1e300,
    0x1e4d0, 0x1e4fa, 0x1e5d0, 0x1e5fb, 0x1e5ff, 0x1e600, 0x1e6c0, 0x1e6df, 0x1e6e0, 0x1e6f6,
    0x1e6fe, 0x1e700, 0x1e7e0, 0x1e7e7, 0x1e7e8, 0x1e7ec, 0x1e7ed, 0x1e7ef, 0x1e7f0, 0x1e7ff,
    0x1e800, 0x1e8c5, 0x1e8c7, 0x1e8d7, 0x1e900, 0x1e94c, 0x1e950, 0x1e95a, 0x1e95e, 0x1e960,
    0x1ec71, 0x1ecb5, 0x1ed01, 0x1ed3e, 0x1ee00, 0x1ee04, 0x1ee05, 0x1ee20, 0x1ee21, 0x1ee23,
    0x1ee24, 0x1ee25, 0x1ee27, 0x1ee28, 0x1ee29, 0x1ee33, 0x1ee34, 0x1ee38, 0x1ee39, 0x1ee3a,
    0x1ee3b, 0x1ee3c, 0x1ee42, 0x1ee43, 0x1ee47, 0x1ee48, 0x1ee49, 0x1ee4a, 0x1ee4b, 0x1ee4c,
    0x1ee4d, 0x1ee50, 0x1ee51, 0x1ee53, 0x1ee54, 0x1ee55, 0x1ee57, 0x1ee58, 0x1ee59, 0x1ee5a,
    0x1ee5b, 0x1ee5c, 0x1ee5d, 0x1ee5e, 0x1ee5f, 0x1ee60, 0x1ee61, 0x1ee63, 0x1ee64, 0x1ee65,
    0x1ee67, 0x1ee6b, 0x1ee6c, 0x1ee73, 0x1ee74, 0x1ee78, 0x1ee79, 0x1ee7d, 0x1ee7e, 0x1ee7f,
    0x1ee80, 0x1ee8a, 0x1ee8b, 0x1ee9c, 0x1eea1, 0x1eea4, 0x1eea5, 0x1eeaa, 0x1eeab, 0x1eebc,
    0x1eef0, 0x1eef2, 0x1f000, 0x1f02c, 0x1f030, 0x1f094, 0x1f0a0, 0x1f0af, 0x1f0b1, 0x1f0c0,
    0x1f0c1, 0x1f0d0, 0x1f0d1, 0x1f0f6, 0x1f101, 0x1f1ae, 0x1f1e6, 0x1f203, 0x1f210, 0x1f23c,
    0x1f240, 0x1f249, 0x1f250, 0x1f252, 0x1f260, 0x1f266, 0x1f300, 0x1f6d9, 0x1f6dc, 0x1f6ed,
    0x1f6f0, 0x1f6fd, 0x1f700, 0x1f7da, 0x1f7e0, 0x1f7ec, 0x1f7f0, 0x1f7f1, 0x1f800, 0x1f80c,
    0x1f810, 0x1f848, 0x1f850, 0x1f85a, 0x1f860, 0x1f888, 0x1f890, 0x1f8ae, 0x1f8b0, 0x1f8bc,
    0x1f8c0, 0x1f8c2, 0x1f8d0, 0x1f8d9, 0x1f900, 0x1fa58, 0x1fa60, 0x1fa6e, 0x1fa70, 0x1fa7d,
    0x1fa80, 0x1fa8b, 0x1fa8e, 0x1fac7, 0x1fac8, 0x1fac9, 0x1facd, 0x1fadd, 0x1fadf, 0x1faeb,
    0x1faef, 0x1faf9, 0x1fb00, 0x1fb93, 0x1fb94, 0x1fbfb, 0x20000, 0x2a6e0, 0x2a700, 0x2b81e,
    0x2b820, 0x2ceae, 0x2ceb0, 0x2ebe1, 0x2ebf0, 0x2ee5e, 0x2f800, 0x2fa1e, 0x30000, 0x3134b,
    0x31350, 0x3347a, 0xe0100, 0xe01f0]

/-- Characters that are left out of a name. -/
def ignoredBounds : Array Nat := #[
    0xad, 0xae, 0x34f, 0x350, 0x115f, 0x1161, 0x17b4, 0x17b6, 0x180b, 0x1810, 0x200b, 0x200c,
    0x2060, 0x2070, 0x3164, 0x3165, 0xfe00, 0xfe10, 0xfeff, 0xff01, 0xffa0, 0xffa1, 0x1bca0,
    0x1cc00, 0x1d173, 0x1d17b, 0xe0100]

/-- Characters that stand for text with characters of ASCII in it: the first and the last of a run,
and what the first stands for. Each of the others stands for the next letter or digit. -/
def foldings : Array (Nat × Nat × String) := #[
    (0xa0, 0xa0, " "), (0xa8, 0xa8, " \u0308"), (0xaa, 0xaa, "a"), (0xaf, 0xaf, " \u0304"),
    (0xb2, 0xb3, "2"), (0xb4, 0xb4, " \u0301"), (0xb8, 0xb8, " \u0327"), (0xb9, 0xb9, "1"),
    (0xba, 0xba, "o"), (0xbc, 0xbc, "1\u20444"), (0xbd, 0xbd, "1\u20442"),
    (0xbe, 0xbe, "3\u20444"), (0x130, 0x130, "i\u0307"), (0x132, 0x132, "ij"),
    (0x133, 0x133, "ij"), (0x13f, 0x13f, "l\u00b7"), (0x140, 0x140, "l\u00b7"),
    (0x149, 0x149, "\u02bcn"), (0x17f, 0x17f, "s"), (0x1c4, 0x1c4, "d\u017e"),
    (0x1c5, 0x1c5, "d\u017e"), (0x1c6, 0x1c6, "d\u017e"), (0x1c7, 0x1c7, "lj"),
    (0x1c8, 0x1c8, "lj"), (0x1c9, 0x1c9, "lj"), (0x1ca, 0x1ca, "nj"), (0x1cb, 0x1cb, "nj"),
    (0x1cc, 0x1cc, "nj"), (0x1f1, 0x1f1, "dz"), (0x1f2, 0x1f2, "dz"), (0x1f3, 0x1f3, "dz"),
    (0x2b0, 0x2b0, "h"), (0x2b2, 0x2b2, "j"), (0x2b3, 0x2b3, "r"), (0x2b7, 0x2b7, "w"),
    (0x2b8, 0x2b8, "y"), (0x2d8, 0x2d8, " \u0306"), (0x2d9, 0x2d9, " \u0307"),
    (0x2da, 0x2da, " \u030a"), (0x2db, 0x2db, " \u0328"), (0x2dc, 0x2dc, " \u0303"),
    (0x2dd, 0x2dd, " \u030b"), (0x2e1, 0x2e1, "l"), (0x2e2, 0x2e2, "s"), (0x2e3, 0x2e3, "x"),
    (0x37a, 0x37a, " \u03b9"), (0x37e, 0x37e, ";"), (0x384, 0x384, " \u0301"),
    (0x385, 0x385, " \u0308\u0301"), (0x1d2c, 0x1d2c, "a"), (0x1d2e, 0x1d2e, "b"),
    (0x1d30, 0x1d31, "d"), (0x1d33, 0x1d3a, "g"), (0x1d3c, 0x1d3c, "o"), (0x1d3e, 0x1d3e, "p"),
    (0x1d3f, 0x1d3f, "r"), (0x1d40, 0x1d41, "t"), (0x1d42, 0x1d42, "w"), (0x1d43, 0x1d43, "a"),
    (0x1d47, 0x1d47, "b"), (0x1d48, 0x1d49, "d"), (0x1d4d, 0x1d4d, "g"), (0x1d4f, 0x1d4f, "k"),
    (0x1d50, 0x1d50, "m"), (0x1d52, 0x1d52, "o"), (0x1d56, 0x1d56, "p"), (0x1d57, 0x1d58, "t"),
    (0x1d5b, 0x1d5b, "v"), (0x1d62, 0x1d62, "i"), (0x1d63, 0x1d63, "r"), (0x1d64, 0x1d65, "u"),
    (0x1d9c, 0x1d9c, "c"), (0x1da0, 0x1da0, "f"), (0x1dbb, 0x1dbb, "z"),
    (0x1e9a, 0x1e9a, "a\u02be"), (0x1fbd, 0x1fbd, " \u0313"), (0x1fbf, 0x1fbf, " \u0313"),
    (0x1fc0, 0x1fc0, " \u0342"), (0x1fc1, 0x1fc1, " \u0308\u0342"),
    (0x1fcd, 0x1fcd, " \u0313\u0300"), (0x1fce, 0x1fce, " \u0313\u0301"),
    (0x1fcf, 0x1fcf, " \u0313\u0342"), (0x1fdd, 0x1fdd, " \u0314\u0300"),
    (0x1fde, 0x1fde, " \u0314\u0301"), (0x1fdf, 0x1fdf, " \u0314\u0342"),
    (0x1fed, 0x1fed, " \u0308\u0300"), (0x1fee, 0x1fee, " \u0308\u0301"), (0x1fef, 0x1fef, "`"),
    (0x1ffd, 0x1ffd, " \u0301"), (0x1ffe, 0x1ffe, " \u0314"), (0x2000, 0x2000, " "),
    (0x2001, 0x2001, " "), (0x2002, 0x2002, " "), (0x2003, 0x2003, " "), (0x2004, 0x2004, " "),
    (0x2005, 0x2005, " "), (0x2006, 0x2006, " "), (0x2007, 0x2007, " "), (0x2008, 0x2008, " "),
    (0x2009, 0x2009, " "), (0x200a, 0x200a, " "), (0x2017, 0x2017, " \u0333"),
    (0x202f, 0x202f, " "), (0x203c, 0x203c, "!!"), (0x203e, 0x203e, " \u0305"),
    (0x2047, 0x2047, "??"), (0x2048, 0x2048, "?!"), (0x2049, 0x2049, "!?"), (0x205f, 0x205f, " "),
    (0x2070, 0x2070, "0"), (0x2071, 0x2071, "i"), (0x2074, 0x2079, "4"), (0x207a, 0x207a, "+"),
    (0x207c, 0x207c, "="), (0x207d, 0x207e, "("), (0x207f, 0x207f, "n"), (0x2080, 0x2089, "0"),
    (0x208a, 0x208a, "+"), (0x208c, 0x208c, "="), (0x208d, 0x208e, "("), (0x2090, 0x2090, "a"),
    (0x2091, 0x2091, "e"), (0x2092, 0x2092, "o"), (0x2093, 0x2093, "x"), (0x2095, 0x2095, "h"),
    (0x2096, 0x2099, "k"), (0x209a, 0x209a, "p"), (0x209b, 0x209c, "s"), (0x20a8, 0x20a8, "rs"),
    (0x2100, 0x2100, "a/c"), (0x2101, 0x2101, "a/s"), (0x2102, 0x2102, "c"),
    (0x2103, 0x2103, "\u00b0c"), (0x2105, 0x2105, "c/o"), (0x2106, 0x2106, "c/u"),
    (0x2109, 0x2109, "\u00b0f"), (0x210a, 0x210b, "g"), (0x210c, 0x210c, "h"),
    (0x210d, 0x210d, "h"), (0x210e, 0x210e, "h"), (0x2110, 0x2110, "i"), (0x2111, 0x2111, "i"),
    (0x2112, 0x2112, "l"), (0x2113, 0x2113, "l"), (0x2115, 0x2115, "n"), (0x2116, 0x2116, "no"),
    (0x2119, 0x211b, "p"), (0x211c, 0x211c, "r"), (0x211d, 0x211d, "r"), (0x2120, 0x2120, "sm"),
    (0x2121, 0x2121, "tel"), (0x2122, 0x2122, "tm"), (0x2124, 0x2124, "z"), (0x2128, 0x2128, "z"),
    (0x212a, 0x212a, "k"), (0x212c, 0x212d, "b"), (0x212f, 0x212f, "e"), (0x2130, 0x2131, "e"),
    (0x2133, 0x2133, "m"), (0x2134, 0x2134, "o"), (0x2139, 0x2139, "i"), (0x213b, 0x213b, "fax"),
    (0x2145, 0x2145, "d"), (0x2146, 0x2147, "d"), (0x2148, 0x2149, "i"),
    (0x2150, 0x2150, "1\u20447"), (0x2151, 0x2151, "1\u20449"), (0x2152, 0x2152, "1\u204410"),
    (0x2153, 0x2153, "1\u20443"), (0x2154, 0x2154, "2\u20443"), (0x2155, 0x2155, "1\u20445"),
    (0x2156, 0x2156, "2\u20445"), (0x2157, 0x2157, "3\u20445"), (0x2158, 0x2158, "4\u20445"),
    (0x2159, 0x2159, "1\u20446"), (0x215a, 0x215a, "5\u20446"), (0x215b, 0x215b, "1\u20448"),
    (0x215c, 0x215c, "3\u20448"), (0x215d, 0x215d, "5\u20448"), (0x215e, 0x215e, "7\u20448"),
    (0x215f, 0x215f, "1\u2044"), (0x2160, 0x2160, "i"), (0x2161, 0x2161, "ii"),
    (0x2162, 0x2162, "iii"), (0x2163, 0x2163, "iv"), (0x2164, 0x2164, "v"), (0x2165, 0x2165, "vi"),
    (0x2166, 0x2166, "vii"), (0x2167, 0x2167, "viii"), (0x2168, 0x2168, "ix"),
    (0x2169, 0x2169, "x"), (0x216a, 0x216a, "xi"), (0x216b, 0x216b, "xii"), (0x216c, 0x216c, "l"),
    (0x216d, 0x216e, "c"), (0x216f, 0x216f, "m"), (0x2170, 0x2170, "i"), (0x2171, 0x2171, "ii"),
    (0x2172, 0x2172, "iii"), (0x2173, 0x2173, "iv"), (0x2174, 0x2174, "v"), (0x2175, 0x2175, "vi"),
    (0x2176, 0x2176, "vii"), (0x2177, 0x2177, "viii"), (0x2178, 0x2178, "ix"),
    (0x2179, 0x2179, "x"), (0x217a, 0x217a, "xi"), (0x217b, 0x217b, "xii"), (0x217c, 0x217c, "l"),
    (0x217d, 0x217e, "c"), (0x217f, 0x217f, "m"), (0x2189, 0x2189, "0\u20443"),
    (0x2460, 0x2468, "1"), (0x2469, 0x2469, "10"), (0x246a, 0x246a, "11"), (0x246b, 0x246b, "12"),
    (0x246c, 0x246c, "13"), (0x246d, 0x246d, "14"), (0x246e, 0x246e, "15"), (0x246f, 0x246f, "16"),
    (0x2470, 0x2470, "17"), (0x2471, 0x2471, "18"), (0x2472, 0x2472, "19"), (0x2473, 0x2473, "20"),
    (0x2474, 0x2474, "(1)"), (0x2475, 0x2475, "(2)"), (0x2476, 0x2476, "(3)"),
    (0x2477, 0x2477, "(4)"), (0x2478, 0x2478, "(5)"), (0x2479, 0x2479, "(6)"),
    (0x247a, 0x247a, "(7)"), (0x247b, 0x247b, "(8)"), (0x247c, 0x247c, "(9)"),
    (0x247d, 0x247d, "(10)"), (0x247e, 0x247e, "(11)"), (0x247f, 0x247f, "(12)"),
    (0x2480, 0x2480, "(13)"), (0x2481, 0x2481, "(14)"), (0x2482, 0x2482, "(15)"),
    (0x2483, 0x2483, "(16)"), (0x2484, 0x2484, "(17)"), (0x2485, 0x2485, "(18)"),
    (0x2486, 0x2486, "(19)"), (0x2487, 0x2487, "(20)"), (0x249c, 0x249c, "(a)"),
    (0x249d, 0x249d, "(b)"), (0x249e, 0x249e, "(c)"), (0x249f, 0x249f, "(d)"),
    (0x24a0, 0x24a0, "(e)"), (0x24a1, 0x24a1, "(f)"), (0x24a2, 0x24a2, "(g)"),
    (0x24a3, 0x24a3, "(h)"), (0x24a4, 0x24a4, "(i)"), (0x24a5, 0x24a5, "(j)"),
    (0x24a6, 0x24a6, "(k)"), (0x24a7, 0x24a7, "(l)"), (0x24a8, 0x24a8, "(m)"),
    (0x24a9, 0x24a9, "(n)"), (0x24aa, 0x24aa, "(o)"), (0x24ab, 0x24ab, "(p)"),
    (0x24ac, 0x24ac, "(q)"), (0x24ad, 0x24ad, "(r)"), (0x24ae, 0x24ae, "(s)"),
    (0x24af, 0x24af, "(t)"), (0x24b0, 0x24b0, "(u)"), (0x24b1, 0x24b1, "(v)"),
    (0x24b2, 0x24b2, "(w)"), (0x24b3, 0x24b3, "(x)"), (0x24b4, 0x24b4, "(y)"),
    (0x24b5, 0x24b5, "(z)"), (0x24b6, 0x24cf, "a"), (0x24d0, 0x24e9, "a"), (0x24ea, 0x24ea, "0"),
    (0x2a74, 0x2a74, "::="), (0x2a75, 0x2a75, "=="), (0x2a76, 0x2a76, "==="),
    (0x2c7c, 0x2c7c, "j"), (0x2c7d, 0x2c7d, "v"), (0x3000, 0x3000, " "), (0x3002, 0x3002, "."),
    (0x309b, 0x309b, " \u3099"), (0x309c, 0x309c, " \u309a"), (0x3200, 0x3200, "(\u1100)"),
    (0x3201, 0x3201, "(\u1102)"), (0x3202, 0x3202, "(\u1103)"), (0x3203, 0x3203, "(\u1105)"),
    (0x3204, 0x3204, "(\u1106)"), (0x3205, 0x3205, "(\u1107)"), (0x3206, 0x3206, "(\u1109)"),
    (0x3207, 0x3207, "(\u110b)"), (0x3208, 0x3208, "(\u110c)"), (0x3209, 0x3209, "(\u110e)"),
    (0x320a, 0x320a, "(\u110f)"), (0x320b, 0x320b, "(\u1110)"), (0x320c, 0x320c, "(\u1111)"),
    (0x320d, 0x320d, "(\u1112)"), (0x320e, 0x320e, "(\uac00)"), (0x320f, 0x320f, "(\ub098)"),
    (0x3210, 0x3210, "(\ub2e4)"), (0x3211, 0x3211, "(\ub77c)"), (0x3212, 0x3212, "(\ub9c8)"),
    (0x3213, 0x3213, "(\ubc14)"), (0x3214, 0x3214, "(\uc0ac)"), (0x3215, 0x3215, "(\uc544)"),
    (0x3216, 0x3216, "(\uc790)"), (0x3217, 0x3217, "(\ucc28)"), (0x3218, 0x3218, "(\uce74)"),
    (0x3219, 0x3219, "(\ud0c0)"), (0x321a, 0x321a, "(\ud30c)"), (0x321b, 0x321b, "(\ud558)"),
    (0x321c, 0x321c, "(\uc8fc)"), (0x321d, 0x321d, "(\uc624\uc804)"),
    (0x321e, 0x321e, "(\uc624\ud6c4)"), (0x3220, 0x3220, "(\u4e00)"), (0x3221, 0x3221, "(\u4e8c)"),
    (0x3222, 0x3222, "(\u4e09)"), (0x3223, 0x3223, "(\u56db)"), (0x3224, 0x3224, "(\u4e94)"),
    (0x3225, 0x3225, "(\u516d)"), (0x3226, 0x3226, "(\u4e03)"), (0x3227, 0x3227, "(\u516b)"),
    (0x3228, 0x3228, "(\u4e5d)"), (0x3229, 0x3229, "(\u5341)"), (0x322a, 0x322a, "(\u6708)"),
    (0x322b, 0x322b, "(\u706b)"), (0x322c, 0x322c, "(\u6c34)"), (0x322d, 0x322d, "(\u6728)"),
    (0x322e, 0x322e, "(\u91d1)"), (0x322f, 0x322f, "(\u571f)"), (0x3230, 0x3230, "(\u65e5)"),
    (0x3231, 0x3231, "(\u682a)"), (0x3232, 0x3232, "(\u6709)"), (0x3233, 0x3233, "(\u793e)"),
    (0x3234, 0x3234, "(\u540d)"), (0x3235, 0x3235, "(\u7279)"), (0x3236, 0x3236, "(\u8ca1)"),
    (0x3237, 0x3237, "(\u795d)"), (0x3238, 0x3238, "(\u52b4)"), (0x3239, 0x3239, "(\u4ee3)"),
    (0x323a, 0x323a, "(\u547c)"), (0x323b, 0x323b, "(\u5b66)"), (0x323c, 0x323c, "(\u76e3)"),
    (0x323d, 0x323d, "(\u4f01)"), (0x323e, 0x323e, "(\u8cc7)"), (0x323f, 0x323f, "(\u5354)"),
    (0x3240, 0x3240, "(\u796d)"), (0x3241, 0x3241, "(\u4f11)"), (0x3242, 0x3242, "(\u81ea)"),
    (0x3243, 0x3243, "(\u81f3)"), (0x3250, 0x3250, "pte"), (0x3251, 0x3251, "21"),
    (0x3252, 0x3252, "22"), (0x3253, 0x3253, "23"), (0x3254, 0x3254, "24"), (0x3255, 0x3255, "25"),
    (0x3256, 0x3256, "26"), (0x3257, 0x3257, "27"), (0x3258, 0x3258, "28"), (0x3259, 0x3259, "29"),
    (0x325a, 0x325a, "30"), (0x325b, 0x325b, "31"), (0x325c, 0x325c, "32"), (0x325d, 0x325d, "33"),
    (0x325e, 0x325e, "34"), (0x325f, 0x325f, "35"), (0x32b1, 0x32b1, "36"), (0x32b2, 0x32b2, "37"),
    (0x32b3, 0x32b3, "38"), (0x32b4, 0x32b4, "39"), (0x32b5, 0x32b5, "40"), (0x32b6, 0x32b6, "41"),
    (0x32b7, 0x32b7, "42"), (0x32b8, 0x32b8, "43"), (0x32b9, 0x32b9, "44"), (0x32ba, 0x32ba, "45"),
    (0x32bb, 0x32bb, "46"), (0x32bc, 0x32bc, "47"), (0x32bd, 0x32bd, "48"), (0x32be, 0x32be, "49"),
    (0x32bf, 0x32bf, "50"), (0x32c0, 0x32c0, "1\u6708"), (0x32c1, 0x32c1, "2\u6708"),
    (0x32c2, 0x32c2, "3\u6708"), (0x32c3, 0x32c3, "4\u6708"), (0x32c4, 0x32c4, "5\u6708"),
    (0x32c5, 0x32c5, "6\u6708"), (0x32c6, 0x32c6, "7\u6708"), (0x32c7, 0x32c7, "8\u6708"),
    (0x32c8, 0x32c8, "9\u6708"), (0x32c9, 0x32c9, "10\u6708"), (0x32ca, 0x32ca, "11\u6708"),
    (0x32cb, 0x32cb, "12\u6708"), (0x32cc, 0x32cc, "hg"), (0x32cd, 0x32cd, "erg"),
    (0x32ce, 0x32ce, "ev"), (0x32cf, 0x32cf, "ltd"), (0x3358, 0x3358, "0\u70b9"),
    (0x3359, 0x3359, "1\u70b9"), (0x335a, 0x335a, "2\u70b9"), (0x335b, 0x335b, "3\u70b9"),
    (0x335c, 0x335c, "4\u70b9"), (0x335d, 0x335d, "5\u70b9"), (0x335e, 0x335e, "6\u70b9"),
    (0x335f, 0x335f, "7\u70b9"), (0x3360, 0x3360, "8\u70b9"), (0x3361, 0x3361, "9\u70b9"),
    (0x3362, 0x3362, "10\u70b9"), (0x3363, 0x3363, "11\u70b9"), (0x3364, 0x3364, "12\u70b9"),
    (0x3365, 0x3365, "13\u70b9"), (0x3366, 0x3366, "14\u70b9"), (0x3367, 0x3367, "15\u70b9"),
    (0x3368, 0x3368, "16\u70b9"), (0x3369, 0x3369, "17\u70b9"), (0x336a, 0x336a, "18\u70b9"),
    (0x336b, 0x336b, "19\u70b9"), (0x336c, 0x336c, "20\u70b9"), (0x336d, 0x336d, "21\u70b9"),
    (0x336e, 0x336e, "22\u70b9"), (0x336f, 0x336f, "23\u70b9"), (0x3370, 0x3370, "24\u70b9"),
    (0x3371, 0x3371, "hpa"), (0x3372, 0x3372, "da"), (0x3373, 0x3373, "au"),
    (0x3374, 0x3374, "bar"), (0x3375, 0x3375, "ov"), (0x3376, 0x3376, "pc"),
    (0x3377, 0x3377, "dm"), (0x3378, 0x3378, "dm2"), (0x3379, 0x3379, "dm3"),
    (0x337a, 0x337a, "iu"), (0x3380, 0x3380, "pa"), (0x3381, 0x3381, "na"),
    (0x3382, 0x3382, "\u03bca"), (0x3383, 0x3383, "ma"), (0x3384, 0x3384, "ka"),
    (0x3385, 0x3385, "kb"), (0x3386, 0x3386, "mb"), (0x3387, 0x3387, "gb"),
    (0x3388, 0x3388, "cal"), (0x3389, 0x3389, "kcal"), (0x338a, 0x338a, "pf"),
    (0x338b, 0x338b, "nf"), (0x338c, 0x338c, "\u03bcf"), (0x338d, 0x338d, "\u03bcg"),
    (0x338e, 0x338e, "mg"), (0x338f, 0x338f, "kg"), (0x3390, 0x3390, "hz"),
    (0x3391, 0x3391, "khz"), (0x3392, 0x3392, "mhz"), (0x3393, 0x3393, "ghz"),
    (0x3394, 0x3394, "thz"), (0x3395, 0x3395, "\u03bcl"), (0x3396, 0x3396, "ml"),
    (0x3397, 0x3397, "dl"), (0x3398, 0x3398, "kl"), (0x3399, 0x3399, "fm"), (0x339a, 0x339a, "nm"),
    (0x339b, 0x339b, "\u03bcm"), (0x339c, 0x339c, "mm"), (0x339d, 0x339d, "cm"),
    (0x339e, 0x339e, "km"), (0x339f, 0x339f, "mm2"), (0x33a0, 0x33a0, "cm2"),
    (0x33a1, 0x33a1, "m2"), (0x33a2, 0x33a2, "km2"), (0x33a3, 0x33a3, "mm3"),
    (0x33a4, 0x33a4, "cm3"), (0x33a5, 0x33a5, "m3"), (0x33a6, 0x33a6, "km3"),
    (0x33a7, 0x33a7, "m\u2215s"), (0x33a8, 0x33a8, "m\u2215s2"), (0x33a9, 0x33a9, "pa"),
    (0x33aa, 0x33aa, "kpa"), (0x33ab, 0x33ab, "mpa"), (0x33ac, 0x33ac, "gpa"),
    (0x33ad, 0x33ad, "rad"), (0x33ae, 0x33ae, "rad\u2215s"), (0x33af, 0x33af, "rad\u2215s2"),
    (0x33b0, 0x33b0, "ps"), (0x33b1, 0x33b1, "ns"), (0x33b2, 0x33b2, "\u03bcs"),
    (0x33b3, 0x33b3, "ms"), (0x33b4, 0x33b4, "pv"), (0x33b5, 0x33b5, "nv"),
    (0x33b6, 0x33b6, "\u03bcv"), (0x33b7, 0x33b7, "mv"), (0x33b8, 0x33b8, "kv"),
    (0x33b9, 0x33b9, "mv"), (0x33ba, 0x33ba, "pw"), (0x33bb, 0x33bb, "nw"),
    (0x33bc, 0x33bc, "\u03bcw"), (0x33bd, 0x33bd, "mw"), (0x33be, 0x33be, "kw"),
    (0x33bf, 0x33bf, "mw"), (0x33c0, 0x33c0, "k\u03c9"), (0x33c1, 0x33c1, "m\u03c9"),
    (0x33c3, 0x33c3, "bq"), (0x33c4, 0x33c4, "cc"), (0x33c5, 0x33c5, "cd"),
    (0x33c6, 0x33c6, "c\u2215kg"), (0x33c8, 0x33c8, "db"), (0x33c9, 0x33c9, "gy"),
    (0x33ca, 0x33ca, "ha"), (0x33cb, 0x33cb, "hp"), (0x33cc, 0x33cc, "in"), (0x33cd, 0x33cd, "kk"),
    (0x33ce, 0x33ce, "km"), (0x33cf, 0x33cf, "kt"), (0x33d0, 0x33d0, "lm"), (0x33d1, 0x33d1, "ln"),
    (0x33d2, 0x33d2, "log"), (0x33d3, 0x33d3, "lx"), (0x33d4, 0x33d4, "mb"),
    (0x33d5, 0x33d5, "mil"), (0x33d6, 0x33d6, "mol"), (0x33d7, 0x33d7, "ph"),
    (0x33d9, 0x33d9, "ppm"), (0x33da, 0x33da, "pr"), (0x33db, 0x33db, "sr"),
    (0x33dc, 0x33dc, "sv"), (0x33dd, 0x33dd, "wb"), (0x33de, 0x33de, "v\u2215m"),
    (0x33df, 0x33df, "a\u2215m"), (0x33e0, 0x33e0, "1\u65e5"), (0x33e1, 0x33e1, "2\u65e5"),
    (0x33e2, 0x33e2, "3\u65e5"), (0x33e3, 0x33e3, "4\u65e5"), (0x33e4, 0x33e4, "5\u65e5"),
    (0x33e5, 0x33e5, "6\u65e5"), (0x33e6, 0x33e6, "7\u65e5"), (0x33e7, 0x33e7, "8\u65e5"),
    (0x33e8, 0x33e8, "9\u65e5"), (0x33e9, 0x33e9, "10\u65e5"), (0x33ea, 0x33ea, "11\u65e5"),
    (0x33eb, 0x33eb, "12\u65e5"), (0x33ec, 0x33ec, "13\u65e5"), (0x33ed, 0x33ed, "14\u65e5"),
    (0x33ee, 0x33ee, "15\u65e5"), (0x33ef, 0x33ef, "16\u65e5"), (0x33f0, 0x33f0, "17\u65e5"),
    (0x33f1, 0x33f1, "18\u65e5"), (0x33f2, 0x33f2, "19\u65e5"), (0x33f3, 0x33f3, "20\u65e5"),
    (0x33f4, 0x33f4, "21\u65e5"), (0x33f5, 0x33f5, "22\u65e5"), (0x33f6, 0x33f6, "23\u65e5"),
    (0x33f7, 0x33f7, "24\u65e5"), (0x33f8, 0x33f8, "25\u65e5"), (0x33f9, 0x33f9, "26\u65e5"),
    (0x33fa, 0x33fa, "27\u65e5"), (0x33fb, 0x33fb, "28\u65e5"), (0x33fc, 0x33fc, "29\u65e5"),
    (0x33fd, 0x33fd, "30\u65e5"), (0x33fe, 0x33fe, "31\u65e5"), (0x33ff, 0x33ff, "gal"),
    (0xa7f1, 0xa7f1, "s"), (0xa7f2, 0xa7f2, "c"), (0xa7f3, 0xa7f3, "f"), (0xa7f4, 0xa7f4, "q"),
    (0xfb00, 0xfb00, "ff"), (0xfb01, 0xfb01, "fi"), (0xfb02, 0xfb02, "fl"),
    (0xfb03, 0xfb03, "ffi"), (0xfb04, 0xfb04, "ffl"), (0xfb05, 0xfb05, "st"),
    (0xfb06, 0xfb06, "st"), (0xfb29, 0xfb29, "+"), (0xfc5e, 0xfc5e, " \u064c\u0651"),
    (0xfc5f, 0xfc5f, " \u064d\u0651"), (0xfc60, 0xfc60, " \u064e\u0651"),
    (0xfc61, 0xfc61, " \u064f\u0651"), (0xfc62, 0xfc62, " \u0650\u0651"),
    (0xfc63, 0xfc63, " \u0651\u0670"),
    (0xfdfa, 0xfdfa, "\u0635\u0644\u0649 \u0627\u0644\u0644\u0647 \u0639\u0644\u064a\u0647 \u0648\u0633\u0644\u0645"),
    (0xfdfb, 0xfdfb, "\u062c\u0644 \u062c\u0644\u0627\u0644\u0647"), (0xfe10, 0xfe10, ","),
    (0xfe13, 0xfe14, ":"), (0xfe15, 0xfe15, "!"), (0xfe16, 0xfe16, "?"), (0xfe33, 0xfe33, "_"),
    (0xfe34, 0xfe34, "_"), (0xfe35, 0xfe36, "("), (0xfe37, 0xfe37, "\x7b"),
    (0xfe38, 0xfe38, "\x7d"), (0xfe47, 0xfe47, "["), (0xfe48, 0xfe48, "]"),
    (0xfe49, 0xfe49, " \u0305"), (0xfe4a, 0xfe4a, " \u0305"), (0xfe4b, 0xfe4b, " \u0305"),
    (0xfe4c, 0xfe4c, " \u0305"), (0xfe4d, 0xfe4d, "_"), (0xfe4e, 0xfe4e, "_"),
    (0xfe4f, 0xfe4f, "_"), (0xfe50, 0xfe50, ","), (0xfe54, 0xfe54, ";"), (0xfe55, 0xfe55, ":"),
    (0xfe56, 0xfe56, "?"), (0xfe57, 0xfe57, "!"), (0xfe59, 0xfe5a, "("), (0xfe5b, 0xfe5b, "\x7b"),
    (0xfe5c, 0xfe5c, "\x7d"), (0xfe5f, 0xfe5f, "#"), (0xfe60, 0xfe60, "&"), (0xfe61, 0xfe62, "*"),
    (0xfe63, 0xfe63, "-"), (0xfe64, 0xfe64, "<"), (0xfe65, 0xfe65, ">"), (0xfe66, 0xfe66, "="),
    (0xfe68, 0xfe68, "\\"), (0xfe69, 0xfe6a, "$"), (0xfe6b, 0xfe6b, "@"),
    (0xfe70, 0xfe70, " \u064b"), (0xfe72, 0xfe72, " \u064c"), (0xfe74, 0xfe74, " \u064d"),
    (0xfe76, 0xfe76, " \u064e"), (0xfe78, 0xfe78, " \u064f"), (0xfe7a, 0xfe7a, " \u0650"),
    (0xfe7c, 0xfe7c, " \u0651"), (0xfe7e, 0xfe7e, " \u0652"), (0xff01, 0xff20, "!"),
    (0xff21, 0xff3a, "a"), (0xff3b, 0xff5e, "["), (0xff61, 0xff61, "."),
    (0xffe3, 0xffe3, " \u0304"), (0x107a5, 0x107a5, "q"), (0x1ccd6, 0x1ccef, "a"),
    (0x1ccf0, 0x1ccf9, "0"), (0x1d400, 0x1d419, "a"), (0x1d41a, 0x1d433, "a"),
    (0x1d434, 0x1d44d, "a"), (0x1d44e, 0x1d454, "a"), (0x1d456, 0x1d467, "i"),
    (0x1d468, 0x1d481, "a"), (0x1d482, 0x1d49b, "a"), (0x1d49c, 0x1d49c, "a"),
    (0x1d49e, 0x1d49f, "c"), (0x1d4a2, 0x1d4a2, "g"), (0x1d4a5, 0x1d4a6, "j"),
    (0x1d4a9, 0x1d4ac, "n"), (0x1d4ae, 0x1d4b5, "s"), (0x1d4b6, 0x1d4b9, "a"),
    (0x1d4bb, 0x1d4bb, "f"), (0x1d4bd, 0x1d4c3, "h"), (0x1d4c5, 0x1d4cf, "p"),
    (0x1d4d0, 0x1d4e9, "a"), (0x1d4ea, 0x1d503, "a"), (0x1d504, 0x1d505, "a"),
    (0x1d507, 0x1d50a, "d"), (0x1d50d, 0x1d514, "j"), (0x1d516, 0x1d51c, "s"),
    (0x1d51e, 0x1d537, "a"), (0x1d538, 0x1d539, "a"), (0x1d53b, 0x1d53e, "d"),
    (0x1d540, 0x1d544, "i"), (0x1d546, 0x1d546, "o"), (0x1d54a, 0x1d550, "s"),
    (0x1d552, 0x1d56b, "a"), (0x1d56c, 0x1d585, "a"), (0x1d586, 0x1d59f, "a"),
    (0x1d5a0, 0x1d5b9, "a"), (0x1d5ba, 0x1d5d3, "a"), (0x1d5d4, 0x1d5ed, "a"),
    (0x1d5ee, 0x1d607, "a"), (0x1d608, 0x1d621, "a"), (0x1d622, 0x1d63b, "a"),
    (0x1d63c, 0x1d655, "a"), (0x1d656, 0x1d66f, "a"), (0x1d670, 0x1d689, "a"),
    (0x1d68a, 0x1d6a3, "a"), (0x1d7ce, 0x1d7d7, "0"), (0x1d7d8, 0x1d7e1, "0"),
    (0x1d7e2, 0x1d7eb, "0"), (0x1d7ec, 0x1d7f5, "0"), (0x1d7f6, 0x1d7ff, "0"),
    (0x1f101, 0x1f101, "0,"), (0x1f102, 0x1f102, "1,"), (0x1f103, 0x1f103, "2,"),
    (0x1f104, 0x1f104, "3,"), (0x1f105, 0x1f105, "4,"), (0x1f106, 0x1f106, "5,"),
    (0x1f107, 0x1f107, "6,"), (0x1f108, 0x1f108, "7,"), (0x1f109, 0x1f109, "8,"),
    (0x1f10a, 0x1f10a, "9,"), (0x1f110, 0x1f110, "(a)"), (0x1f111, 0x1f111, "(b)"),
    (0x1f112, 0x1f112, "(c)"), (0x1f113, 0x1f113, "(d)"), (0x1f114, 0x1f114, "(e)"),
    (0x1f115, 0x1f115, "(f)"), (0x1f116, 0x1f116, "(g)"), (0x1f117, 0x1f117, "(h)"),
    (0x1f118, 0x1f118, "(i)"), (0x1f119, 0x1f119, "(j)"), (0x1f11a, 0x1f11a, "(k)"),
    (0x1f11b, 0x1f11b, "(l)"), (0x1f11c, 0x1f11c, "(m)"), (0x1f11d, 0x1f11d, "(n)"),
    (0x1f11e, 0x1f11e, "(o)"), (0x1f11f, 0x1f11f, "(p)"), (0x1f120, 0x1f120, "(q)"),
    (0x1f121, 0x1f121, "(r)"), (0x1f122, 0x1f122, "(s)"), (0x1f123, 0x1f123, "(t)"),
    (0x1f124, 0x1f124, "(u)"), (0x1f125, 0x1f125, "(v)"), (0x1f126, 0x1f126, "(w)"),
    (0x1f127, 0x1f127, "(x)"), (0x1f128, 0x1f128, "(y)"), (0x1f129, 0x1f129, "(z)"),
    (0x1f12a, 0x1f12a, "\u3014s\u3015"), (0x1f12b, 0x1f12b, "c"), (0x1f12c, 0x1f12c, "r"),
    (0x1f12d, 0x1f12d, "cd"), (0x1f12e, 0x1f12e, "wz"), (0x1f130, 0x1f149, "a"),
    (0x1f14a, 0x1f14a, "hv"), (0x1f14b, 0x1f14b, "mv"), (0x1f14c, 0x1f14c, "sd"),
    (0x1f14d, 0x1f14d, "ss"), (0x1f14e, 0x1f14e, "ppv"), (0x1f14f, 0x1f14f, "wc"),
    (0x1f16a, 0x1f16a, "mc"), (0x1f16b, 0x1f16b, "md"), (0x1f16c, 0x1f16c, "mr"),
    (0x1f190, 0x1f190, "dj"), (0x1fbf0, 0x1fbf9, "0")]

/-- Characters that combine with the one before them. -/
def markBounds : Array Nat := #[
    0x300, 0x371, 0x483, 0x48b, 0x591, 0x5be, 0x5bf, 0x5c0, 0x5c1, 0x5c3, 0x5c4, 0x5c6, 0x5c7,
    0x5d0, 0x610, 0x61b, 0x64b, 0x660, 0x670, 0x671, 0x6d6, 0x6de, 0x6df, 0x6e5, 0x6e7, 0x6e9,
    0x6ea, 0x6ee, 0x711, 0x712, 0x730, 0x74d, 0x7a6, 0x7b1, 0x7eb, 0x7f4, 0x7fd, 0x7fe, 0x816,
    0x81a, 0x81b, 0x824, 0x825, 0x828, 0x829, 0x830, 0x859, 0x85e, 0x898, 0x8a0, 0x8ca, 0x904,
    0x93a, 0x93d, 0x93e, 0x950, 0x951, 0x960, 0x962, 0x964, 0x981, 0x985, 0x9bc, 0x9bd, 0x9be,
    0x9ce, 0x9d7, 0x9e0, 0x9e2, 0x9e6, 0x9fe, 0xa05, 0xa3c, 0xa5c, 0xa70, 0xa72, 0xa75, 0xa76,
    0xa81, 0xa85, 0xabc, 0xabd, 0xabe, 0xad0, 0xae2, 0xae6, 0xafa, 0xb05, 0xb3c, 0xb3d, 0xb3e,
    0xb5f, 0xb62, 0xb66, 0xb82, 0xb83, 0xbbe, 0xbd0, 0xbd7, 0xbe6, 0xc00, 0xc05, 0xc3c, 0xc3d,
    0xc3e, 0xc58, 0xc62, 0xc66, 0xc81, 0xc84, 0xcbc, 0xcbd, 0xcbe, 0xcdd, 0xce2, 0xce6, 0xd00,
    0xd04, 0xd3b, 0xd3d, 0xd3e, 0xd4e, 0xd57, 0xd58, 0xd62, 0xd66, 0xd81, 0xd85, 0xdca, 0xde6,
    0xdf2, 0xdf4, 0xe31, 0xe32, 0xe34, 0xe3f, 0xe47, 0xe4f, 0xeb1, 0xeb2, 0xeb4, 0xebd, 0xec8,
    0xed0, 0xf18, 0xf1a, 0xf35, 0xf36, 0xf37, 0xf38, 0xf39, 0xf3a, 0xf3e, 0xf40, 0xf71, 0xf85,
    0xf86, 0xf88, 0xf8d, 0xfbe, 0xfc6, 0xfc7, 0x102b, 0x103f, 0x1056, 0x105a, 0x105e, 0x1061,
    0x1062, 0x1065, 0x1067, 0x106e, 0x1071, 0x1075, 0x1082, 0x108e, 0x108f, 0x1090, 0x109a, 0x109e,
    0x135d, 0x1360, 0x1712, 0x171f, 0x1732, 0x1735, 0x1752, 0x1760, 0x1772, 0x1780, 0x17b6, 0x17d4,
    0x17dd, 0x17e0, 0x1885, 0x1887, 0x18a9, 0x18aa, 0x1920, 0x1940, 0x1a17, 0x1a1e, 0x1a55, 0x1a80,
    0x1ab0, 0x1b05, 0x1b34, 0x1b45, 0x1b6b, 0x1b74, 0x1b80, 0x1b83, 0x1ba1, 0x1bae, 0x1be6, 0x1bfc,
    0x1c24, 0x1c3b, 0x1cd0, 0x1cd3, 0x1cd4, 0x1ce9, 0x1ced, 0x1cee, 0x1cf4, 0x1cf5, 0x1cf7, 0x1cfa,
    0x1dc0, 0x1e01, 0x20d0, 0x2104, 0x2cef, 0x2cf3, 0x2d7f, 0x2d80, 0x2de0, 0x2e00, 0x302a, 0x3030,
    0x3099, 0x309d, 0xa66f, 0xa673, 0xa674, 0xa67e, 0xa69e, 0xa6a0, 0xa6f0, 0xa6f2, 0xa802, 0xa803,
    0xa806, 0xa807, 0xa80b, 0xa80c, 0xa823, 0xa828, 0xa82c, 0xa830, 0xa880, 0xa882, 0xa8b4, 0xa8ce,
    0xa8e0, 0xa8f2, 0xa8ff, 0xa900, 0xa926, 0xa92e, 0xa947, 0xa95f, 0xa980, 0xa984, 0xa9b3, 0xa9c1,
    0xa9e5, 0xa9e6, 0xaa29, 0xaa40, 0xaa43, 0xaa44, 0xaa4c, 0xaa50, 0xaa7b, 0xaa7e, 0xaab0, 0xaab1,
    0xaab2, 0xaab5, 0xaab7, 0xaab9, 0xaabe, 0xaac0, 0xaac1, 0xaac2, 0xaaeb, 0xaaf0, 0xaaf5, 0xab01,
    0xabe3, 0xabeb, 0xabec, 0xabf0, 0xfb1e, 0xfbb2, 0xfe20, 0xfe45, 0x101fd, 0x10280, 0x102e0,
    0x102e1, 0x10376, 0x10380, 0x10a01, 0x10a10, 0x10a38, 0x10a40, 0x10ae5, 0x10aeb, 0x10d24,
    0x10d30, 0x10eab, 0x10ead, 0x10f46, 0x10f51, 0x10f82, 0x10f86, 0x11000, 0x11003, 0x11038,
    0x11047, 0x11070, 0x11071, 0x11073, 0x11075, 0x1107f, 0x11083, 0x110b0, 0x110bb, 0x110c2,
    0x110d0, 0x11100, 0x11103, 0x11127, 0x11136, 0x11145, 0x11147, 0x11173, 0x11174, 0x11180,
    0x11183, 0x111b3, 0x111c1, 0x111c9, 0x111cd, 0x111ce, 0x111d0, 0x1122c, 0x11238, 0x1123e,
    0x11280, 0x112df, 0x112f0, 0x11300, 0x11305, 0x1133b, 0x1133d, 0x1133e, 0x11350, 0x11357,
    0x1135d, 0x11362, 0x11400, 0x11435, 0x11447, 0x1145e, 0x1145f, 0x114b0, 0x114c4, 0x115af,
    0x115c1, 0x115dc, 0x11600, 0x11630, 0x11641, 0x116ab, 0x116b8, 0x1171d, 0x11730, 0x1182c,
    0x1183b, 0x11930, 0x1193f, 0x11940, 0x11941, 0x11942, 0x11944, 0x119d1, 0x119e1, 0x119e4,
    0x11a00, 0x11a01, 0x11a0b, 0x11a33, 0x11a3a, 0x11a3b, 0x11a3f, 0x11a47, 0x11a50, 0x11a51,
    0x11a5c, 0x11a8a, 0x11a9a, 0x11c2f, 0x11c40, 0x11c92, 0x11d00, 0x11d31, 0x11d46, 0x11d47,
    0x11d50, 0x11d8a, 0x11d98, 0x11ef3, 0x11ef7, 0x16af0, 0x16af5, 0x16b30, 0x16b37, 0x16f4f,
    0x16f50, 0x16f51, 0x16f93, 0x16fe4, 0x17000, 0x1bc9d, 0x1bc9f, 0x1cf00, 0x1cf50, 0x1d165,
    0x1d16a, 0x1d16d, 0x1d183, 0x1d185, 0x1d18c, 0x1d1aa, 0x1d1ae, 0x1d242, 0x1d245, 0x1da00,
    0x1da37, 0x1da3b, 0x1da6d, 0x1da75, 0x1da76, 0x1da84, 0x1da85, 0x1da9b, 0x1df00, 0x1e000,
    0x1e100, 0x1e130, 0x1e137, 0x1e2ae, 0x1e2c0, 0x1e2ec, 0x1e2f0, 0x1e8d0, 0x1e922, 0x1e944,
    0x1e94b]

/-- Combining characters that join the letters around them. -/
def viramaBounds : Array Nat := #[
    0x94d, 0x94e, 0x9cd, 0x9ce, 0xa4d, 0xa51, 0xacd, 0xad0, 0xb4d, 0xb55, 0xbcd, 0xbd0, 0xc4d,
    0xc55, 0xccd, 0xcd5, 0xd3b, 0xd3d, 0xd4d, 0xd4e, 0xdca, 0xdcf, 0xe3a, 0xe3f, 0xeba, 0xebb,
    0xf84, 0xf85, 0x1039, 0x103b, 0x1714, 0x171f, 0x1734, 0x1735, 0x17d2, 0x17d3, 0x1a60, 0x1a61,
    0x1b44, 0x1b45, 0x1baa, 0x1bac, 0x1bf2, 0x1bfc, 0x2d7f, 0x2d80, 0xa806, 0xa807, 0xa82c, 0xa830,
    0xa8c4, 0xa8c5, 0xa953, 0xa95f, 0xa9c0, 0xa9c1, 0xaaf6, 0xab01, 0xabed, 0xabf0, 0x10a3f,
    0x10a40, 0x11046, 0x11047, 0x11070, 0x11071, 0x1107f, 0x11080, 0x110b9, 0x110ba, 0x11133,
    0x11136, 0x111c0, 0x111c1, 0x11235, 0x11236, 0x112ea, 0x112f0, 0x1134d, 0x11350, 0x11442,
    0x11443, 0x114c2, 0x114c3, 0x115bf, 0x115c0, 0x1163f, 0x11640, 0x116b6, 0x116b7, 0x1172b,
    0x11730, 0x11839, 0x1183a, 0x1193d, 0x1193f, 0x119e0, 0x119e1, 0x11a34, 0x11a35, 0x11a47,
    0x11a50, 0x11a99, 0x11a9a, 0x11c3f, 0x11c40, 0x11d44, 0x11d46, 0x11d97, 0x11d98]

/-- Letters that join the letter after them. -/
def joinsNextBounds : Array Nat := #[
    0x620, 0x621, 0x626, 0x627, 0x628, 0x629, 0x62a, 0x62f, 0x633, 0x640, 0x641, 0x648, 0x649,
    0x64b, 0x66e, 0x670, 0x679, 0x688, 0x69a, 0x6c0, 0x6c1, 0x6c3, 0x6cc, 0x6cd, 0x6ce, 0x6cf,
    0x6d0, 0x6d2, 0x6fa, 0x6fd, 0x6ff, 0x700, 0x712, 0x715, 0x71a, 0x71e, 0x71f, 0x728, 0x729,
    0x72a, 0x72b, 0x72c, 0x72d, 0x72f, 0x74e, 0x759, 0x75c, 0x76b, 0x76d, 0x771, 0x772, 0x773,
    0x775, 0x778, 0x77a, 0x780, 0x7ca, 0x7eb, 0x841, 0x846, 0x848, 0x849, 0x84a, 0x854, 0x855,
    0x856, 0x860, 0x861, 0x862, 0x866, 0x868, 0x869, 0x886, 0x887, 0x889, 0x88e, 0x8a0, 0x8aa,
    0x8af, 0x8b1, 0x8b3, 0x8b9, 0x8ba, 0x8c9, 0x1807, 0x1808, 0x1820, 0x1880, 0x1887, 0x18a9,
    0x18aa, 0x18b0, 0xa840, 0xa873, 0x10ac0, 0x10ac5, 0x10acd, 0x10ace, 0x10ad3, 0x10add, 0x10ade,
    0x10ae1, 0x10aeb, 0x10aef, 0x10b80, 0x10b81, 0x10b82, 0x10b83, 0x10b86, 0x10b89, 0x10b8a,
    0x10b8c, 0x10b8d, 0x10b8e, 0x10b90, 0x10b91, 0x10bad, 0x10baf, 0x10d00, 0x10d22, 0x10d23,
    0x10d24, 0x10f30, 0x10f33, 0x10f34, 0x10f45, 0x10f51, 0x10f54, 0x10f70, 0x10f74, 0x10f76,
    0x10f82, 0x10fb0, 0x10fb1, 0x10fb2, 0x10fb4, 0x10fb8, 0x10fb9, 0x10fbb, 0x10fbd, 0x10fbe,
    0x10fc0, 0x10fc1, 0x10fc2, 0x10fc4, 0x10fc5, 0x10fca, 0x10fe0, 0x1e922, 0x1e944]

/-- Letters that join the letter before them. -/
def joinsPreviousBounds : Array Nat := #[
    0x620, 0x621, 0x622, 0x640, 0x641, 0x64b, 0x66e, 0x670, 0x671, 0x674, 0x679, 0x6d4, 0x6d5,
    0x6d6, 0x6ee, 0x6f0, 0x6fa, 0x6fd, 0x6ff, 0x700, 0x710, 0x711, 0x712, 0x730, 0x74d, 0x780,
    0x7ca, 0x7eb, 0x840, 0x859, 0x860, 0x861, 0x862, 0x866, 0x867, 0x883, 0x886, 0x887, 0x889,
    0x898, 0x8a0, 0x8ad, 0x8ae, 0x8c9, 0x1807, 0x1808, 0x1820, 0x1880, 0x1887, 0x18a9, 0x18aa,
    0x18b0, 0xa840, 0xa872, 0x10ac0, 0x10ac6, 0x10ac7, 0x10ac8, 0x10ac9, 0x10acb, 0x10ace, 0x10ad7,
    0x10ad8, 0x10ae2, 0x10ae4, 0x10ae5, 0x10aeb, 0x10af0, 0x10b80, 0x10b99, 0x10ba9, 0x10baf,
    0x10d01, 0x10d24, 0x10f30, 0x10f45, 0x10f51, 0x10f55, 0x10f70, 0x10f82, 0x10fb0, 0x10fb1,
    0x10fb2, 0x10fb7, 0x10fb8, 0x10fc0, 0x10fc1, 0x10fc5, 0x10fc9, 0x10fcb, 0x1e922, 0x1e944]

/-- Characters that do not keep the letters around them from joining. -/
def transparentBounds : Array Nat := #[
    0x300, 0x371, 0x483, 0x48b, 0x591, 0x5be, 0x5bf, 0x5c0, 0x5c1, 0x5c3, 0x5c4, 0x5c6, 0x5c7,
    0x5d0, 0x610, 0x61b, 0x64b, 0x660, 0x670, 0x671, 0x6d6, 0x6de, 0x6df, 0x6e5, 0x6e7, 0x6e9,
    0x6ea, 0x6ee, 0x711, 0x712, 0x730, 0x74d, 0x7a6, 0x7b1, 0x7eb, 0x7f4, 0x7fd, 0x7fe, 0x816,
    0x81a, 0x81b, 0x824, 0x825, 0x828, 0x829, 0x830, 0x859, 0x85e, 0x898, 0x8a0, 0x8ca, 0x903,
    0x93a, 0x93b, 0x93c, 0x93d, 0x941, 0x949, 0x94d, 0x94e, 0x951, 0x960, 0x962, 0x964, 0x981,
    0x982, 0x9bc, 0x9bd, 0x9c1, 0x9c7, 0x9cd, 0x9ce, 0x9e2, 0x9e6, 0x9fe, 0xa03, 0xa3c, 0xa3e,
    0xa41, 0xa5c, 0xa70, 0xa72, 0xa75, 0xa76, 0xa81, 0xa83, 0xabc, 0xabd, 0xac1, 0xac9, 0xacd,
    0xad0, 0xae2, 0xae6, 0xafa, 0xb02, 0xb3c, 0xb3d, 0xb3f, 0xb40, 0xb41, 0xb47, 0xb4d, 0xb57,
    0xb62, 0xb66, 0xb82, 0xb83, 0xbc0, 0xbc1, 0xbcd, 0xbd0, 0xc00, 0xc01, 0xc04, 0xc05, 0xc3c,
    0xc3d, 0xc3e, 0xc41, 0xc46, 0xc58, 0xc62, 0xc66, 0xc81, 0xc82, 0xcbc, 0xcbd, 0xcbf, 0xcc0,
    0xcc6, 0xcc7, 0xccc, 0xcd5, 0xce2, 0xce6, 0xd00, 0xd02, 0xd3b, 0xd3d, 0xd41, 0xd46, 0xd4d,
    0xd4e, 0xd62, 0xd66, 0xd81, 0xd82, 0xdca, 0xdcf, 0xdd2, 0xdd8, 0xe31, 0xe32, 0xe34, 0xe3f,
    0xe47, 0xe4f, 0xeb1, 0xeb2, 0xeb4, 0xebd, 0xec8, 0xed0, 0xf18, 0xf1a, 0xf35, 0xf36, 0xf37,
    0xf38, 0xf39, 0xf3a, 0xf71, 0xf7f, 0xf80, 0xf85, 0xf86, 0xf88, 0xf8d, 0xfbe, 0xfc6, 0xfc7,
    0x102d, 0x1031, 0x1032, 0x1038, 0x1039, 0x103b, 0x103d, 0x103f, 0x1058, 0x105a, 0x105e, 0x1061,
    0x1071, 0x1075, 0x1082, 0x1083, 0x1085, 0x1087, 0x108d, 0x108e, 0x109d, 0x109e, 0x135d, 0x1360,
    0x1712, 0x1715, 0x1732, 0x1734, 0x1752, 0x1760, 0x1772, 0x1780, 0x17b7, 0x17be, 0x17c6, 0x17c7,
    0x17c9, 0x17d4, 0x17dd, 0x17e0, 0x1885, 0x1887, 0x18a9, 0x18aa, 0x1920, 0x1923, 0x1927, 0x1929,
    0x1932, 0x1933, 0x1939, 0x1940, 0x1a17, 0x1a19, 0x1a1b, 0x1a1e, 0x1a56, 0x1a57, 0x1a58, 0x1a61,
    0x1a62, 0x1a63, 0x1a65, 0x1a6d, 0x1a73, 0x1a80, 0x1ab0, 0x1b04, 0x1b34, 0x1b35, 0x1b36, 0x1b3b,
    0x1b3c, 0x1b3d, 0x1b42, 0x1b43, 0x1b6b, 0x1b74, 0x1b80, 0x1b82, 0x1ba2, 0x1ba6, 0x1ba8, 0x1baa,
    0x1bab, 0x1bae, 0x1be6, 0x1be7, 0x1be8, 0x1bea, 0x1bed, 0x1bee, 0x1bef, 0x1bf2, 0x1c2c, 0x1c34,
    0x1c36, 0x1c3b, 0x1cd0, 0x1cd3, 0x1cd4, 0x1ce1, 0x1ce2, 0x1ce9, 0x1ced, 0x1cee, 0x1cf4, 0x1cf5,
    0x1cf8, 0x1cfa, 0x1dc0, 0x1e01, 0x20d0, 0x2104, 0x2cef, 0x2cf3, 0x2d7f, 0x2d80, 0x2de0, 0x2e00,
    0x302a, 0x302e, 0x3099, 0x309d, 0xa66f, 0xa673, 0xa674, 0xa67e, 0xa69e, 0xa6a0, 0xa6f0, 0xa6f2,
    0xa802, 0xa803, 0xa806, 0xa807, 0xa80b, 0xa80c, 0xa825, 0xa827, 0xa82c, 0xa830, 0xa8c4, 0xa8ce,
    0xa8e0, 0xa8f2, 0xa8ff, 0xa900, 0xa926, 0xa92e, 0xa947, 0xa952, 0xa980, 0xa983, 0xa9b3, 0xa9b4,
    0xa9b6, 0xa9ba, 0xa9bc, 0xa9be, 0xa9e5, 0xa9e6, 0xaa29, 0xaa2f, 0xaa31, 0xaa33, 0xaa35, 0xaa40,
    0xaa43, 0xaa44, 0xaa4c, 0xaa4d, 0xaa7c, 0xaa7d, 0xaab0, 0xaab1, 0xaab2, 0xaab5, 0xaab7, 0xaab9,
    0xaabe, 0xaac0, 0xaac1, 0xaac2, 0xaaec, 0xaaee, 0xaaf6, 0xab01, 0xabe5, 0xabe6, 0xabe8, 0xabe9,
    0xabed, 0xabf0, 0xfb1e, 0xfbb2, 0xfe20, 0xfe45, 0x101fd, 0x10280, 0x102e0, 0x102e1, 0x10376,
    0x10380, 0x10a01, 0x10a10, 0x10a38, 0x10a40, 0x10ae5, 0x10aeb, 0x10d24, 0x10d30, 0x10eab,
    0x10ead, 0x10f46, 0x10f51, 0x10f82, 0x10f86, 0x11001, 0x11002, 0x11038, 0x11047, 0x11070,
    0x11071, 0x11073, 0x11075, 0x1107f, 0x11082, 0x110b3, 0x110b7, 0x110b9, 0x110bb, 0x110c2,
    0x110d0, 0x11100, 0x11103, 0x11127, 0x1112c, 0x1112d, 0x11136, 0x11173, 0x11174, 0x11180,
    0x11182, 0x111b6, 0x111bf, 0x111c9, 0x111cd, 0x111cf, 0x111d0, 0x1122f, 0x11232, 0x11234,
    0x11235, 0x11236, 0x11238, 0x1123e, 0x11280, 0x112df, 0x112e0, 0x112e3, 0x112f0, 0x11300,
    0x11302, 0x1133b, 0x1133d, 0x11340, 0x11341, 0x11366, 0x11400, 0x11438, 0x11440, 0x11442,
    0x11445, 0x11446, 0x11447, 0x1145e, 0x1145f, 0x114b3, 0x114b9, 0x114ba, 0x114bb, 0x114bf,
    0x114c1, 0x114c2, 0x114c4, 0x115b2, 0x115b8, 0x115bc, 0x115be, 0x115bf, 0x115c1, 0x115dc,
    0x11600, 0x11633, 0x1163b, 0x1163d, 0x1163e, 0x1163f, 0x11641, 0x116ab, 0x116ac, 0x116ad,
    0x116ae, 0x116b0, 0x116b6, 0x116b7, 0x116b8, 0x1171d, 0x1171e, 0x1171f, 0x11720, 0x11722,
    0x11726, 0x11727, 0x11730, 0x1182f, 0x11838, 0x11839, 0x1183b, 0x1193b, 0x1193d, 0x1193e,
    0x1193f, 0x11943, 0x11944, 0x119d4, 0x119dc, 0x119e0, 0x119e1, 0x11a01, 0x11a0b, 0x11a33,
    0x11a39, 0x11a3b, 0x11a3f, 0x11a47, 0x11a50, 0x11a51, 0x11a57, 0x11a59, 0x11a5c, 0x11a8a,
    0x11a97, 0x11a98, 0x11a9a, 0x11c30, 0x11c3e, 0x11c3f, 0x11c40, 0x11c92, 0x11ca9, 0x11caa,
    0x11cb1, 0x11cb2, 0x11cb4, 0x11cb5, 0x11d00, 0x11d31, 0x11d46, 0x11d47, 0x11d50, 0x11d90,
    0x11d93, 0x11d95, 0x11d96, 0x11d97, 0x11d98, 0x11ef3, 0x11ef5, 0x16af0, 0x16af5, 0x16b30,
    0x16b37, 0x16f4f, 0x16f50, 0x16f8f, 0x16f93, 0x16fe4, 0x16ff0, 0x1bc9d, 0x1bc9f, 0x1cf00,
    0x1cf50, 0x1d167, 0x1d16a, 0x1d17b, 0x1d183, 0x1d185, 0x1d18c, 0x1d1aa, 0x1d1ae, 0x1d242,
    0x1d245, 0x1da00, 0x1da37, 0x1da3b, 0x1da6d, 0x1da75, 0x1da76, 0x1da84, 0x1da85, 0x1da9b,
    0x1df00, 0x1e000, 0x1e100, 0x1e130, 0x1e137, 0x1e2ae, 0x1e2c0, 0x1e2ec, 0x1e2f0, 0x1e8d0,
    0x1e922, 0x1e944, 0x1e950]

/-- Letters that are written from left to right. -/
def leftBounds : Array Nat := #[
    0x41, 0x5b, 0x61, 0x7b, 0xdf, 0xf7, 0xf8, 0x2b9, 0x2bb, 0x2c2, 0x2d0, 0x2d2, 0x2ee, 0x2ef,
    0x371, 0x375, 0x377, 0x3f6, 0x3f8, 0x483, 0x48b, 0x58a, 0x903, 0x93a, 0x93b, 0x93c, 0x93d,
    0x941, 0x949, 0x94d, 0x94e, 0x951, 0x960, 0x962, 0x964, 0x981, 0x982, 0x9bc, 0x9bd, 0x9c1,
    0x9c7, 0x9cd, 0x9ce, 0x9e2, 0x9e6, 0x9f2, 0x9f4, 0x9fb, 0x9fc, 0x9fe, 0xa03, 0xa3c, 0xa3e,
    0xa41, 0xa5c, 0xa70, 0xa72, 0xa75, 0xa76, 0xa81, 0xa83, 0xabc, 0xabd, 0xac1, 0xac9, 0xacd,
    0xad0, 0xae2, 0xae6, 0xaf1, 0xaf9, 0xafa, 0xb02, 0xb3c, 0xb3d, 0xb3f, 0xb40, 0xb41, 0xb47,
    0xb4d, 0xb57, 0xb62, 0xb66, 0xb82, 0xb83, 0xbc0, 0xbc1, 0xbcd, 0xbd0, 0xbf3, 0xc01, 0xc04,
    0xc05, 0xc3c, 0xc3d, 0xc3e, 0xc41, 0xc46, 0xc58, 0xc62, 0xc66, 0xc78, 0xc7f, 0xc81, 0xc82,
    0xcbc, 0xcbd, 0xccc, 0xcd5, 0xce2, 0xce6, 0xd00, 0xd02, 0xd3b, 0xd3d, 0xd41, 0xd46, 0xd4d,
    0xd4e, 0xd62, 0xd66, 0xd81, 0xd82, 0xdca, 0xdcf, 0xdd2, 0xdd8, 0xe31, 0xe32, 0xe34, 0xe40,
    0xe47, 0xe4f, 0xeb1, 0xeb2, 0xeb4, 0xebd, 0xec8, 0xed0, 0xf18, 0xf1a, 0xf35, 0xf36, 0xf37,
    0xf38, 0xf39, 0xf3e, 0xf71, 0xf7f, 0xf80, 0xf85, 0xf86, 0xf88, 0xf8d, 0xfbe, 0xfc6, 0xfc7,
    0x102d, 0x1031, 0x1032, 0x1038, 0x1039, 0x103b, 0x103d, 0x103f, 0x1058, 0x105a, 0x105e, 0x1061,
    0x1071, 0x1075, 0x1082, 0x1083, 0x1085, 0x1087, 0x108d, 0x108e, 0x109d, 0x109e, 0x135d, 0x1360,
    0x1390, 0x13a0, 0x1400, 0x1401, 0x169b, 0x16a0, 0x1712, 0x1715, 0x1732, 0x1734, 0x1752, 0x1760,
    0x1772, 0x1780, 0x17b7, 0x17be, 0x17c6, 0x17c7, 0x17c9, 0x17d4, 0x17db, 0x17dc, 0x17dd, 0x17e0,
    0x17f0, 0x1810, 0x1885, 0x1887, 0x18a9, 0x18aa, 0x1920, 0x1923, 0x1927, 0x1929, 0x1932, 0x1933,
    0x1939, 0x1946, 0x19de, 0x1a00, 0x1a17, 0x1a19, 0x1a1b, 0x1a1e, 0x1a56, 0x1a57, 0x1a58, 0x1a61,
    0x1a62, 0x1a63, 0x1a65, 0x1a6d, 0x1a73, 0x1a80, 0x1ab0, 0x1b04, 0x1b34, 0x1b35, 0x1b36, 0x1b3b,
    0x1b3c, 0x1b3d, 0x1b42, 0x1b43, 0x1b6b, 0x1b74, 0x1b80, 0x1b82, 0x1ba2, 0x1ba6, 0x1ba8, 0x1baa,
    0x1bab, 0x1bae, 0x1be6, 0x1be7, 0x1be8, 0x1bea, 0x1bed, 0x1bee, 0x1bef, 0x1bf2, 0x1c2c, 0x1c34,
    0x1c36, 0x1c3b, 0x1cd0, 0x1cd3, 0x1cd4, 0x1ce1, 0x1ce2, 0x1ce9, 0x1ced, 0x1cee, 0x1cf4, 0x1cf5,
    0x1cf8, 0x1cfa, 0x1dc0, 0x1e01, 0x200c, 0x214e, 0x218a, 0x2336, 0x237b, 0x2395, 0x2396, 0x26ac,
    0x26ad, 0x2800, 0x2900, 0x2c30, 0x2ce5, 0x2cec, 0x2cef, 0x2cf3, 0x2cf9, 0x2d00, 0x2d7f, 0x2d80,
    0x2de0, 0x3005, 0x3008, 0x3021, 0x302a, 0x302e, 0x3030, 0x3031, 0x3037, 0x303b, 0x303d, 0x3041,
    0x3099, 0x309d, 0x30a0, 0x30a1, 0x30fb, 0x30fc, 0x31c0, 0x31f0, 0x4dc0, 0x4e00, 0xa490, 0xa4d0,
    0xa60d, 0xa610, 0xa66f, 0xa681, 0xa69e, 0xa6a0, 0xa6f0, 0xa6f2, 0xa700, 0xa723, 0xa788, 0xa789,
    0xa802, 0xa803, 0xa806, 0xa807, 0xa80b, 0xa80c, 0xa825, 0xa827, 0xa828, 0xa830, 0xa838, 0xa840,
    0xa874, 0xa880, 0xa8c4, 0xa8ce, 0xa8e0, 0xa8f2, 0xa8ff, 0xa900, 0xa926, 0xa92e, 0xa947, 0xa952,
    0xa980, 0xa983, 0xa9b3, 0xa9b4, 0xa9b6, 0xa9ba, 0xa9bc, 0xa9be, 0xa9e5, 0xa9e6, 0xaa29, 0xaa2f,
    0xaa31, 0xaa33, 0xaa35, 0xaa40, 0xaa43, 0xaa44, 0xaa4c, 0xaa4d, 0xaa7c, 0xaa7d, 0xaab0, 0xaab1,
    0xaab2, 0xaab5, 0xaab7, 0xaab9, 0xaabe, 0xaac0, 0xaac1, 0xaac2, 0xaaec, 0xaaee, 0xaaf6, 0xab01,
    0xab6a, 0xabc0, 0xabe5, 0xabe6, 0xabe8, 0xabe9, 0xabed, 0xabf0, 0xfb1e, 0x10000, 0x10101,
    0x10102, 0x10140, 0x1018d, 0x10190, 0x101d0, 0x101fd, 0x10280, 0x102e0, 0x10300, 0x10376,
    0x10380, 0x10800, 0x11000, 0x11001, 0x11002, 0x11038, 0x11047, 0x11052, 0x11066, 0x11070,
    0x11071, 0x11073, 0x11075, 0x1107f, 0x11082, 0x110b3, 0x110b7, 0x110b9, 0x110bb, 0x110c2,
    0x110d0, 0x11100, 0x11103, 0x11127, 0x1112c, 0x1112d, 0x11136, 0x11173, 0x11174, 0x11180,
    0x11182, 0x111b6, 0x111bf, 0x111c9, 0x111cd, 0x111cf, 0x111d0, 0x1122f, 0x11232, 0x11234,
    0x11235, 0x11236, 0x11238, 0x1123e, 0x11280, 0x112df, 0x112e0, 0x112e3, 0x112f0, 0x11300,
    0x11302, 0x1133b, 0x1133d, 0x11340, 0x11341, 0x11366, 0x11400, 0x11438, 0x11440, 0x11442,
    0x11445, 0x11446, 0x11447, 0x1145e, 0x1145f, 0x114b3, 0x114b9, 0x114ba, 0x114bb, 0x114bf,
    0x114c1, 0x114c2, 0x114c4, 0x115b2, 0x115b8, 0x115bc, 0x115be, 0x115bf, 0x115c1, 0x115dc,
    0x11600, 0x11633, 0x1163b, 0x1163d, 0x1163e, 0x1163f, 0x11641, 0x11660, 0x11680, 0x116ab,
    0x116ac, 0x116ad, 0x116ae, 0x116b0, 0x116b6, 0x116b7, 0x116b8, 0x1171d, 0x11720, 0x11722,
    0x11726, 0x11727, 0x11730, 0x1182f, 0x11838, 0x11839, 0x1183b, 0x1193b, 0x1193d, 0x1193e,
    0x1193f, 0x11943, 0x11944, 0x119d4, 0x119dc, 0x119e0, 0x119e1, 0x11a01, 0x11a07, 0x11a09,
    0x11a0b, 0x11a33, 0x11a39, 0x11a3b, 0x11a3f, 0x11a47, 0x11a50, 0x11a51, 0x11a57, 0x11a59,
    0x11a5c, 0x11a8a, 0x11a97, 0x11a98, 0x11a9a, 0x11c30, 0x11c3e, 0x11c92, 0x11ca9, 0x11caa,
    0x11cb1, 0x11cb2, 0x11cb4, 0x11cb5, 0x11d00, 0x11d31, 0x11d46, 0x11d47, 0x11d50, 0x11d90,
    0x11d93, 0x11d95, 0x11d96, 0x11d97, 0x11d98, 0x11ef3, 0x11ef5, 0x11fd5, 0x11fff, 0x16af0,
    0x16af5, 0x16b30, 0x16b37, 0x16f4f, 0x16f50, 0x16f8f, 0x16f93, 0x16fe2, 0x16fe3, 0x16fe4,
    0x16ff0, 0x1bc9d, 0x1bc9f, 0x1cf00, 0x1cf50, 0x1d167, 0x1d16a, 0x1d17b, 0x1d183, 0x1d185,
    0x1d18c, 0x1d1aa, 0x1d1ae, 0x1d1e9, 0x1d2e0, 0x1d300, 0x1d360, 0x1da00, 0x1da37, 0x1da3b,
    0x1da6d, 0x1da75, 0x1da76, 0x1da84, 0x1da85, 0x1da9b, 0x1df00, 0x1e000, 0x1e100, 0x1e130,
    0x1e137, 0x1e2ae, 0x1e2c0, 0x1e2ec, 0x1e2f0, 0x1e2ff, 0x1e7e0, 0x1e800, 0x1f150, 0x1f16d,
    0x1f170, 0x1f1ad, 0x1f1e6, 0x1f260, 0x20000]

/-- Letters that are written from right to left. -/
def rightBounds : Array Nat := #[
    0x5be, 0x5bf, 0x5c0, 0x5c1, 0x5c3, 0x5c4, 0x5c6, 0x5c7, 0x5d0, 0x606, 0x608, 0x609, 0x60b,
    0x60c, 0x60d, 0x60e, 0x61b, 0x64b, 0x66d, 0x670, 0x671, 0x6d6, 0x6e5, 0x6e7, 0x6ee, 0x6f0,
    0x6fa, 0x711, 0x712, 0x730, 0x74d, 0x7a6, 0x7b1, 0x7eb, 0x7f4, 0x7f6, 0x7fa, 0x7fd, 0x7fe,
    0x816, 0x81a, 0x81b, 0x824, 0x825, 0x828, 0x829, 0x830, 0x859, 0x85e, 0x898, 0x8a0, 0x8ca,
    0xfbb2, 0xfd3e, 0xfe73, 0x10000, 0x10800, 0x1091f, 0x10920, 0x10a01, 0x10a10, 0x10a38, 0x10a40,
    0x10ae5, 0x10aeb, 0x10b39, 0x10b40, 0x10d24, 0x10e80, 0x10eab, 0x10ead, 0x10f46, 0x10f51,
    0x10f82, 0x10f86, 0x11000, 0x1e800, 0x1e8d0, 0x1e922, 0x1e944, 0x1e94b, 0x1eef0]

/-- Digits that belong to writing from right to left. -/
def arabicNumberBounds : Array Nat := #[
    0x660, 0x66a, 0x66b, 0x66d, 0x10d30, 0x10e80]

/-- Digits that are written from left to right. -/
def europeanNumberBounds : Array Nat := #[
    0x30, 0x3a, 0x6f0, 0x6fa, 0x102e1, 0x10300]

/-- Characters that are written the way of the one before them. -/
def attachedBounds : Array Nat := #[
    0x300, 0x371, 0x483, 0x48b, 0x591, 0x5be, 0x5bf, 0x5c0, 0x5c1, 0x5c3, 0x5c4, 0x5c6, 0x5c7,
    0x5d0, 0x610, 0x61b, 0x64b, 0x660, 0x670, 0x671, 0x6d6, 0x6de, 0x6df, 0x6e5, 0x6e7, 0x6e9,
    0x6ea, 0x6ee, 0x711, 0x712, 0x730, 0x74d, 0x7a6, 0x7b1, 0x7eb, 0x7f4, 0x7fd, 0x7fe, 0x816,
    0x81a, 0x81b, 0x824, 0x825, 0x828, 0x829, 0x830, 0x859, 0x85e, 0x898, 0x8a0, 0x8ca, 0x903,
    0x93a, 0x93b, 0x93c, 0x93d, 0x941, 0x949, 0x94d, 0x94e, 0x951, 0x960, 0x962, 0x964, 0x981,
    0x982, 0x9bc, 0x9bd, 0x9c1, 0x9c7, 0x9cd, 0x9ce, 0x9e2, 0x9e6, 0x9fe, 0xa03, 0xa3c, 0xa3e,
    0xa41, 0xa5c, 0xa70, 0xa72, 0xa75, 0xa76, 0xa81, 0xa83, 0xabc, 0xabd, 0xac1, 0xac9, 0xacd,
    0xad0, 0xae2, 0xae6, 0xafa, 0xb02, 0xb3c, 0xb3d, 0xb3f, 0xb40, 0xb41, 0xb47, 0xb4d, 0xb57,
    0xb62, 0xb66, 0xb82, 0xb83, 0xbc0, 0xbc1, 0xbcd, 0xbd0, 0xc00, 0xc01, 0xc04, 0xc05, 0xc3c,
    0xc3d, 0xc3e, 0xc41, 0xc46, 0xc58, 0xc62, 0xc66, 0xc81, 0xc82, 0xcbc, 0xcbd, 0xccc, 0xcd5,
    0xce2, 0xce6, 0xd00, 0xd02, 0xd3b, 0xd3d, 0xd41, 0xd46, 0xd4d, 0xd4e, 0xd62, 0xd66, 0xd81,
    0xd82, 0xdca, 0xdcf, 0xdd2, 0xdd8, 0xe31, 0xe32, 0xe34, 0xe3f, 0xe47, 0xe4f, 0xeb1, 0xeb2,
    0xeb4, 0xebd, 0xec8, 0xed0, 0xf18, 0xf1a, 0xf35, 0xf36, 0xf37, 0xf38, 0xf39, 0xf3a, 0xf71,
    0xf7f, 0xf80, 0xf85, 0xf86, 0xf88, 0xf8d, 0xfbe, 0xfc6, 0xfc7, 0x102d, 0x1031, 0x1032, 0x1038,
    0x1039, 0x103b, 0x103d, 0x103f, 0x1058, 0x105a, 0x105e, 0x1061, 0x1071, 0x1075, 0x1082, 0x1083,
    0x1085, 0x1087, 0x108d, 0x108e, 0x109d, 0x109e, 0x135d, 0x1360, 0x1712, 0x1715, 0x1732, 0x1734,
    0x1752, 0x1760, 0x1772, 0x1780, 0x17b7, 0x17be, 0x17c6, 0x17c7, 0x17c9, 0x17d4, 0x17dd, 0x17e0,
    0x1885, 0x1887, 0x18a9, 0x18aa, 0x1920, 0x1923, 0x1927, 0x1929, 0x1932, 0x1933, 0x1939, 0x1940,
    0x1a17, 0x1a19, 0x1a1b, 0x1a1e, 0x1a56, 0x1a57, 0x1a58, 0x1a61, 0x1a62, 0x1a63, 0x1a65, 0x1a6d,
    0x1a73, 0x1a80, 0x1ab0, 0x1b04, 0x1b34, 0x1b35, 0x1b36, 0x1b3b, 0x1b3c, 0x1b3d, 0x1b42, 0x1b43,
    0x1b6b, 0x1b74, 0x1b80, 0x1b82, 0x1ba2, 0x1ba6, 0x1ba8, 0x1baa, 0x1bab, 0x1bae, 0x1be6, 0x1be7,
    0x1be8, 0x1bea, 0x1bed, 0x1bee, 0x1bef, 0x1bf2, 0x1c2c, 0x1c34, 0x1c36, 0x1c3b, 0x1cd0, 0x1cd3,
    0x1cd4, 0x1ce1, 0x1ce2, 0x1ce9, 0x1ced, 0x1cee, 0x1cf4, 0x1cf5, 0x1cf8, 0x1cfa, 0x1dc0, 0x1e01,
    0x20d0, 0x2104, 0x2cef, 0x2cf3, 0x2d7f, 0x2d80, 0x2de0, 0x2e00, 0x302a, 0x302e, 0x3099, 0x309d,
    0xa66f, 0xa673, 0xa674, 0xa67e, 0xa69e, 0xa6a0, 0xa6f0, 0xa6f2, 0xa802, 0xa803, 0xa806, 0xa807,
    0xa80b, 0xa80c, 0xa825, 0xa827, 0xa82c, 0xa830, 0xa8c4, 0xa8ce, 0xa8e0, 0xa8f2, 0xa8ff, 0xa900,
    0xa926, 0xa92e, 0xa947, 0xa952, 0xa980, 0xa983, 0xa9b3, 0xa9b4, 0xa9b6, 0xa9ba, 0xa9bc, 0xa9be,
    0xa9e5, 0xa9e6, 0xaa29, 0xaa2f, 0xaa31, 0xaa33, 0xaa35, 0xaa40, 0xaa43, 0xaa44, 0xaa4c, 0xaa4d,
    0xaa7c, 0xaa7d, 0xaab0, 0xaab1, 0xaab2, 0xaab5, 0xaab7, 0xaab9, 0xaabe, 0xaac0, 0xaac1, 0xaac2,
    0xaaec, 0xaaee, 0xaaf6, 0xab01, 0xabe5, 0xabe6, 0xabe8, 0xabe9, 0xabed, 0xabf0, 0xfb1e, 0xfbb2,
    0xfe20, 0xfe45, 0x101fd, 0x10280, 0x102e0, 0x102e1, 0x10376, 0x10380, 0x10a01, 0x10a10,
    0x10a38, 0x10a40, 0x10ae5, 0x10aeb, 0x10d24, 0x10d30, 0x10eab, 0x10ead, 0x10f46, 0x10f51,
    0x10f82, 0x10f86, 0x11001, 0x11002, 0x11038, 0x11047, 0x11070, 0x11071, 0x11073, 0x11075,
    0x1107f, 0x11082, 0x110b3, 0x110b7, 0x110b9, 0x110bb, 0x110c2, 0x110d0, 0x11100, 0x11103,
    0x11127, 0x1112c, 0x1112d, 0x11136, 0x11173, 0x11174, 0x11180, 0x11182, 0x111b6, 0x111bf,
    0x111c9, 0x111cd, 0x111cf, 0x111d0, 0x1122f, 0x11232, 0x11234, 0x11235, 0x11236, 0x11238,
    0x1123e, 0x11280, 0x112df, 0x112e0, 0x112e3, 0x112f0, 0x11300, 0x11302, 0x1133b, 0x1133d,
    0x11340, 0x11341, 0x11366, 0x11400, 0x11438, 0x11440, 0x11442, 0x11445, 0x11446, 0x11447,
    0x1145e, 0x1145f, 0x114b3, 0x114b9, 0x114ba, 0x114bb, 0x114bf, 0x114c1, 0x114c2, 0x114c4,
    0x115b2, 0x115b8, 0x115bc, 0x115be, 0x115bf, 0x115c1, 0x115dc, 0x11600, 0x11633, 0x1163b,
    0x1163d, 0x1163e, 0x1163f, 0x11641, 0x116ab, 0x116ac, 0x116ad, 0x116ae, 0x116b0, 0x116b6,
    0x116b7, 0x116b8, 0x1171d, 0x11720, 0x11722, 0x11726, 0x11727, 0x11730, 0x1182f, 0x11838,
    0x11839, 0x1183b, 0x1193b, 0x1193d, 0x1193e, 0x1193f, 0x11943, 0x11944, 0x119d4, 0x119dc,
    0x119e0, 0x119e1, 0x11a01, 0x11a07, 0x11a09, 0x11a0b, 0x11a33, 0x11a39, 0x11a3b, 0x11a3f,
    0x11a47, 0x11a50, 0x11a51, 0x11a57, 0x11a59, 0x11a5c, 0x11a8a, 0x11a97, 0x11a98, 0x11a9a,
    0x11c30, 0x11c3e, 0x11c92, 0x11ca9, 0x11caa, 0x11cb1, 0x11cb2, 0x11cb4, 0x11cb5, 0x11d00,
    0x11d31, 0x11d46, 0x11d47, 0x11d50, 0x11d90, 0x11d93, 0x11d95, 0x11d96, 0x11d97, 0x11d98,
    0x11ef3, 0x11ef5, 0x16af0, 0x16af5, 0x16b30, 0x16b37, 0x16f4f, 0x16f50, 0x16f8f, 0x16f93,
    0x16fe4, 0x16ff0, 0x1bc9d, 0x1bc9f, 0x1cf00, 0x1cf50, 0x1d167, 0x1d16a, 0x1d17b, 0x1d183,
    0x1d185, 0x1d18c, 0x1d1aa, 0x1d1ae, 0x1d242, 0x1d245, 0x1da00, 0x1da37, 0x1da3b, 0x1da6d,
    0x1da75, 0x1da76, 0x1da84, 0x1da85, 0x1da9b, 0x1df00, 0x1e000, 0x1e100, 0x1e130, 0x1e137,
    0x1e2ae, 0x1e2c0, 0x1e2ec, 0x1e2f0, 0x1e8d0, 0x1e922, 0x1e944, 0x1e94b]

end PowerLease.Url
