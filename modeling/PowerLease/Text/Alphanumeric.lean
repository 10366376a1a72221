import PowerLease.Text.Bounds

/-!
# Letters and numbers

The characters that are letters or numbers in Unicode (its general categories `L` and `N`). The
table has the form of `PowerLease.Text.Bounds`.
-/

namespace PowerLease.Text

/-- The bounds of the letters and numbers. -/
def alphanumericBounds : Array Nat := #[
    0x30, 0x3a, 0x41, 0x5b, 0x61, 0x7b, 0xaa, 0xab, 0xb2, 0xb4, 0xb5, 0xb6, 0xb9, 0xbb, 0xbc, 0xbf,
    0xc0, 0xd7, 0xd8, 0xf7, 0xf8, 0x2c2, 0x2c6, 0x2d2, 0x2e0, 0x2e5, 0x2ec, 0x2ed, 0x2ee, 0x2ef,
    0x370, 0x375, 0x376, 0x37e, 0x37f, 0x384, 0x386, 0x387, 0x388, 0x3f6, 0x3f7, 0x482, 0x48a,
    0x55a, 0x560, 0x589, 0x5d0, 0x5f3, 0x620, 0x64b, 0x660, 0x66a, 0x66e, 0x670, 0x671, 0x6d4,
    0x6d5, 0x6d6, 0x6e5, 0x6e7, 0x6ee, 0x6fd, 0x6ff, 0x700, 0x710, 0x711, 0x712, 0x730, 0x74d,
    0x7a6, 0x7b1, 0x7eb, 0x7f4, 0x7f6, 0x7fa, 0x7fd, 0x800, 0x816, 0x81a, 0x81b, 0x824, 0x825,
    0x828, 0x829, 0x840, 0x859, 0x860, 0x888, 0x889, 0x890, 0x8a0, 0x8ca, 0x904, 0x93a, 0x93d,
    0x93e, 0x950, 0x951, 0x958, 0x962, 0x966, 0x970, 0x971, 0x981, 0x985, 0x9bc, 0x9bd, 0x9be,
    0x9ce, 0x9d7, 0x9dc, 0x9e2, 0x9e6, 0x9f2, 0x9f4, 0x9fa, 0x9fc, 0x9fd, 0xa05, 0xa3c, 0xa59,
    0xa70, 0xa72, 0xa75, 0xa85, 0xabc, 0xabd, 0xabe, 0xad0, 0xae2, 0xae6, 0xaf0, 0xaf9, 0xafa,
    0xb05, 0xb3c, 0xb3d, 0xb3e, 0xb5c, 0xb62, 0xb66, 0xb70, 0xb71, 0xb82, 0xb83, 0xbbe, 0xbd0,
    0xbd7, 0xbe6, 0xbf3, 0xc05, 0xc3c, 0xc3d, 0xc3e, 0xc58, 0xc62, 0xc66, 0xc77, 0xc78, 0xc7f,
    0xc80, 0xc81, 0xc85, 0xcbc, 0xcbd, 0xcbe, 0xcdd, 0xce2, 0xce6, 0xd00, 0xd04, 0xd3b, 0xd3d,
    0xd3e, 0xd4e, 0xd4f, 0xd54, 0xd57, 0xd58, 0xd62, 0xd66, 0xd79, 0xd7a, 0xd81, 0xd85, 0xdca,
    0xde6, 0xdf2, 0xe01, 0xe31, 0xe32, 0xe34, 0xe40, 0xe47, 0xe50, 0xe5a, 0xe81, 0xeb1, 0xeb2,
    0xeb4, 0xebd, 0xec8, 0xed0, 0xf01, 0xf20, 0xf34, 0xf40, 0xf71, 0xf88, 0xf8d, 0x1000, 0x102b,
    0x103f, 0x104a, 0x1050, 0x1056, 0x105a, 0x105e, 0x1061, 0x1062, 0x1065, 0x1067, 0x106e, 0x1071,
    0x1075, 0x1082, 0x108e, 0x108f, 0x1090, 0x109a, 0x10a0, 0x10fb, 0x10fc, 0x135d, 0x1369, 0x1390,
    0x13a0, 0x1400, 0x1401, 0x166d, 0x166f, 0x1680, 0x1681, 0x169b, 0x16a0, 0x16eb, 0x16ee, 0x1712,
    0x171f, 0x1732, 0x1740, 0x1752, 0x1760, 0x1772, 0x1780, 0x17b4, 0x17d7, 0x17d8, 0x17dc, 0x17dd,
    0x17e0, 0x1800, 0x1810, 0x1885, 0x1887, 0x18a9, 0x18aa, 0x1920, 0x1946, 0x19de, 0x1a00, 0x1a17,
    0x1a20, 0x1a55, 0x1a80, 0x1aa0, 0x1aa7, 0x1aa8, 0x1b05, 0x1b34, 0x1b45, 0x1b5a, 0x1b83, 0x1ba1,
    0x1bae, 0x1be6, 0x1c00, 0x1c24, 0x1c40, 0x1c7e, 0x1c80, 0x1cc0, 0x1ce9, 0x1ced, 0x1cee, 0x1cf4,
    0x1cf5, 0x1cf7, 0x1cfa, 0x1dc0, 0x1e00, 0x1fbd, 0x1fbe, 0x1fbf, 0x1fc2, 0x1fcd, 0x1fd0, 0x1fdd,
    0x1fe0, 0x1fed, 0x1ff2, 0x1ffd, 0x2070, 0x207a, 0x207f, 0x208a, 0x2090, 0x20a0, 0x2102, 0x2103,
    0x2107, 0x2108, 0x210a, 0x2114, 0x2115, 0x2116, 0x2119, 0x211e, 0x2124, 0x2125, 0x2126, 0x2127,
    0x2128, 0x2129, 0x212a, 0x212e, 0x212f, 0x213a, 0x213c, 0x2140, 0x2145, 0x214a, 0x214e, 0x214f,
    0x2150, 0x218a, 0x2460, 0x249c, 0x24ea, 0x2500, 0x2776, 0x2794, 0x2c00, 0x2ce5, 0x2ceb, 0x2cef,
    0x2cf2, 0x2cf9, 0x2cfd, 0x2cfe, 0x2d00, 0x2d70, 0x2d80, 0x2de0, 0x2e2f, 0x2e30, 0x3005, 0x3008,
    0x3021, 0x302a, 0x3031, 0x3036, 0x3038, 0x303d, 0x3041, 0x3099, 0x309d, 0x30a0, 0x30a1, 0x30fb,
    0x30fc, 0x3190, 0x3192, 0x3196, 0x31a0, 0x31c0, 0x31f0, 0x3200, 0x3220, 0x322a, 0x3248, 0x3250,
    0x3251, 0x3260, 0x3280, 0x328a, 0x32b1, 0x32c0, 0x3400, 0x4dc0, 0x4e00, 0xa490, 0xa4d0, 0xa4fe,
    0xa500, 0xa60d, 0xa610, 0xa66f, 0xa67f, 0xa69e, 0xa6a0, 0xa6f0, 0xa717, 0xa720, 0xa722, 0xa789,
    0xa78b, 0xa802, 0xa803, 0xa806, 0xa807, 0xa80b, 0xa80c, 0xa823, 0xa830, 0xa836, 0xa840, 0xa874,
    0xa882, 0xa8b4, 0xa8d0, 0xa8e0, 0xa8f2, 0xa8f8, 0xa8fb, 0xa8fc, 0xa8fd, 0xa8ff, 0xa900, 0xa926,
    0xa930, 0xa947, 0xa960, 0xa980, 0xa984, 0xa9b3, 0xa9cf, 0xa9de, 0xa9e0, 0xa9e5, 0xa9e6, 0xaa29,
    0xaa40, 0xaa43, 0xaa44, 0xaa4c, 0xaa50, 0xaa5c, 0xaa60, 0xaa77, 0xaa7a, 0xaa7b, 0xaa7e, 0xaab0,
    0xaab1, 0xaab2, 0xaab5, 0xaab7, 0xaab9, 0xaabe, 0xaac0, 0xaac1, 0xaac2, 0xaade, 0xaae0, 0xaaeb,
    0xaaf2, 0xaaf5, 0xab01, 0xab5b, 0xab5c, 0xab6a, 0xab70, 0xabe3, 0xabf0, 0xd800, 0xf900, 0xfb1e,
    0xfb1f, 0xfb29, 0xfb2a, 0xfbb2, 0xfbd3, 0xfd3e, 0xfd50, 0xfdcf, 0xfdf0, 0xfdfc, 0xfe70, 0xfeff,
    0xff10, 0xff1a, 0xff21, 0xff3b, 0xff41, 0xff5b, 0xff66, 0xffe0, 0x10000, 0x10100, 0x10107,
    0x10137, 0x10140, 0x10179, 0x1018a, 0x1018c, 0x10280, 0x102e0, 0x102e1, 0x10376, 0x10380,
    0x1039f, 0x103a0, 0x103d0, 0x103d1, 0x1056f, 0x10570, 0x10857, 0x10858, 0x10877, 0x10879,
    0x1091f, 0x10920, 0x1093f, 0x10980, 0x10a01, 0x10a10, 0x10a38, 0x10a40, 0x10a50, 0x10a60,
    0x10a7f, 0x10a80, 0x10ac8, 0x10ac9, 0x10ae5, 0x10aeb, 0x10af0, 0x10b00, 0x10b39, 0x10b40,
    0x10b99, 0x10ba9, 0x10d24, 0x10d30, 0x10eab, 0x10eb0, 0x10f46, 0x10f51, 0x10f55, 0x10f70,
    0x10f82, 0x10fb0, 0x11000, 0x11003, 0x11038, 0x11052, 0x11070, 0x11071, 0x11073, 0x11075,
    0x1107f, 0x11083, 0x110b0, 0x110d0, 0x11100, 0x11103, 0x11127, 0x11136, 0x11140, 0x11144,
    0x11145, 0x11147, 0x11173, 0x11176, 0x11180, 0x11183, 0x111b3, 0x111c1, 0x111c5, 0x111d0,
    0x111db, 0x111dc, 0x111dd, 0x111e1, 0x1122c, 0x11280, 0x112a9, 0x112b0, 0x112df, 0x112f0,
    0x11300, 0x11305, 0x1133b, 0x1133d, 0x1133e, 0x11350, 0x11357, 0x1135d, 0x11362, 0x11400,
    0x11435, 0x11447, 0x1144b, 0x11450, 0x1145a, 0x1145f, 0x114b0, 0x114c4, 0x114c6, 0x114c7,
    0x115af, 0x115d8, 0x115dc, 0x11600, 0x11630, 0x11644, 0x11660, 0x11680, 0x116ab, 0x116b8,
    0x116b9, 0x116c0, 0x1171d, 0x11730, 0x1173c, 0x11740, 0x1182c, 0x118a0, 0x11930, 0x1193f,
    0x11940, 0x11941, 0x11942, 0x11950, 0x119d1, 0x119e1, 0x119e2, 0x119e3, 0x119e4, 0x11a00,
    0x11a01, 0x11a0b, 0x11a33, 0x11a3a, 0x11a3b, 0x11a50, 0x11a51, 0x11a5c, 0x11a8a, 0x11a9d,
    0x11a9e, 0x11ab0, 0x11c2f, 0x11c40, 0x11c41, 0x11c50, 0x11c70, 0x11c72, 0x11c92, 0x11d00,
    0x11d31, 0x11d46, 0x11d47, 0x11d50, 0x11d8a, 0x11d98, 0x11ef3, 0x11fb0, 0x11fd5, 0x12000,
    0x12470, 0x12480, 0x12ff1, 0x13000, 0x13430, 0x14400, 0x16a6e, 0x16a70, 0x16af0, 0x16b00,
    0x16b30, 0x16b40, 0x16b44, 0x16b50, 0x16e97, 0x16f00, 0x16f4f, 0x16f50, 0x16f51, 0x16f93,
    0x16fe2, 0x16fe3, 0x16fe4, 0x17000, 0x1bc9c, 0x1d2e0, 0x1d300, 0x1d360, 0x1d6c1, 0x1d6c2,
    0x1d6db, 0x1d6dc, 0x1d6fb, 0x1d6fc, 0x1d715, 0x1d716, 0x1d735, 0x1d736, 0x1d74f, 0x1d750,
    0x1d76f, 0x1d770, 0x1d789, 0x1d78a, 0x1d7a9, 0x1d7aa, 0x1d7c3, 0x1d7c4, 0x1d800, 0x1df00,
    0x1e000, 0x1e100, 0x1e130, 0x1e137, 0x1e14f, 0x1e290, 0x1e2ae, 0x1e2c0, 0x1e2ec, 0x1e2f0,
    0x1e2ff, 0x1e7e0, 0x1e8d0, 0x1e900, 0x1e944, 0x1e94b, 0x1e95e, 0x1ec71, 0x1ecac, 0x1ecad,
    0x1ecb0, 0x1ecb1, 0x1ed2e, 0x1ed2f, 0x1eef0, 0x1f100, 0x1f10d, 0x1fbf0, 0xe0001]

/-- Whether a character is a letter or a number. -/
def isAlphanumeric (c : Char) : Bool := within alphanumericBounds c

end PowerLease.Text
