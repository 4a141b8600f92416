/-!
# Characters of domain names that stand for another one

The characters that the IDNA mapping replaces by one other character, in ascending order: those of
Unicode 17, and characters assigned since.
-/

namespace ShuffleMint

namespace DomainCharacter

/-- Runs whose characters stand for characters in the same order: the first, the last, the step from
one to the next, and what the first stands for. -/
def shiftedRuns : List (Nat × Nat × Nat × Nat) :=
  [
    (0xc0, 0xd6, 1, 0xe0), (0xd8, 0xde, 1, 0xf8), (0x100, 0x12e, 2, 0x101),
    (0x141, 0x147, 2, 0x142), (0x14a, 0x176, 2, 0x14b), (0x1cd, 0x1db, 2, 0x1ce),
    (0x1de, 0x1ee, 2, 0x1df), (0x1f8, 0x21e, 2, 0x1f9), (0x222, 0x232, 2, 0x223),
    (0x246, 0x24e, 2, 0x247), (0x391, 0x3a1, 1, 0x3b1), (0x3a3, 0x3ab, 1, 0x3c3),
    (0x3d8, 0x3ee, 2, 0x3d9), (0x400, 0x40f, 1, 0x450), (0x410, 0x42f, 1, 0x430),
    (0x460, 0x480, 2, 0x461), (0x48a, 0x4be, 2, 0x48b), (0x4c1, 0x4cd, 2, 0x4c2),
    (0x4d0, 0x52e, 2, 0x4d1), (0x531, 0x556, 1, 0x561), (0x10a0, 0x10c5, 1, 0x2d00),
    (0x13f8, 0x13fd, 1, 0x13f0), (0x1c90, 0x1cba, 1, 0x10d0), (0x1d33, 0x1d3a, 1, 0x67),
    (0x1dae, 0x1db1, 1, 0x272), (0x1e00, 0x1e94, 2, 0x1e01), (0x1ea0, 0x1efe, 2, 0x1ea1),
    (0x1f08, 0x1f0f, 1, 0x1f00), (0x1f18, 0x1f1d, 1, 0x1f10), (0x1f28, 0x1f2f, 1, 0x1f20),
    (0x1f38, 0x1f3f, 1, 0x1f30), (0x1f48, 0x1f4d, 1, 0x1f40), (0x1f59, 0x1f5f, 2, 0x1f51),
    (0x1f68, 0x1f6f, 1, 0x1f60), (0x2074, 0x2079, 1, 0x34), (0x2080, 0x2089, 1, 0x30),
    (0x2096, 0x2099, 1, 0x6b), (0x2135, 0x2138, 1, 0x5d0), (0x2460, 0x2468, 1, 0x31),
    (0x24b6, 0x24cf, 1, 0x61), (0x24d0, 0x24e9, 1, 0x61), (0x2c00, 0x2c2f, 1, 0x2c30),
    (0x2c80, 0x2ce2, 2, 0x2c81), (0x313a, 0x313f, 1, 0x11b0), (0x3145, 0x314e, 1, 0x1109),
    (0x314f, 0x3163, 1, 0x1161), (0x3178, 0x317c, 1, 0x112b), (0x3269, 0x326d, 1, 0x110e),
    (0x32e4, 0x32e9, 1, 0x30ca), (0x32ee, 0x32f2, 1, 0x30de), (0x32f5, 0x32fa, 1, 0x30e8),
    (0x32fb, 0x32fe, 1, 0x30ef), (0xa640, 0xa66c, 2, 0xa641), (0xa680, 0xa69a, 2, 0xa681),
    (0xa722, 0xa72e, 2, 0xa723), (0xa732, 0xa76e, 2, 0xa733), (0xa77e, 0xa786, 2, 0xa77f),
    (0xa796, 0xa7a8, 2, 0xa797), (0xa7b4, 0xa7c2, 2, 0xa7b5), (0xa7cc, 0xa7da, 2, 0xa7cd),
    (0xab70, 0xabbf, 1, 0x13a0), (0xfe41, 0xfe44, 1, 0x300c), (0xff01, 0xff20, 1, 0x21),
    (0xff21, 0xff3a, 1, 0x61), (0xff3b, 0xff5e, 1, 0x5b), (0xff85, 0xff8a, 1, 0x30ca),
    (0xff8f, 0xff93, 1, 0x30de), (0xff96, 0xff9b, 1, 0x30e8), (0xffaa, 0xffaf, 1, 0x11b0),
    (0xffb5, 0xffbe, 1, 0x1109), (0xffc2, 0xffc7, 1, 0x1161), (0xffca, 0xffcf, 1, 0x1167),
    (0xffd2, 0xffd7, 1, 0x116d), (0xffe9, 0xffec, 1, 0x2190), (0x10400, 0x10427, 1, 0x10428),
    (0x104b0, 0x104d3, 1, 0x104d8), (0x10570, 0x1057a, 1, 0x10597), (0x1057c, 0x1058a, 1, 0x105a3),
    (0x1058c, 0x10592, 1, 0x105b3), (0x10c80, 0x10cb2, 1, 0x10cc0), (0x10d50, 0x10d65, 1, 0x10d70),
    (0x118a0, 0x118bf, 1, 0x118c0), (0x16e40, 0x16e5f, 1, 0x16e60), (0x16ea0, 0x16eb8, 1, 0x16ebb),
    (0x1ccd6, 0x1ccef, 1, 0x61), (0x1ccf0, 0x1ccf9, 1, 0x30), (0x1d400, 0x1d419, 1, 0x61),
    (0x1d41a, 0x1d433, 1, 0x61), (0x1d434, 0x1d44d, 1, 0x61), (0x1d44e, 0x1d454, 1, 0x61),
    (0x1d456, 0x1d467, 1, 0x69), (0x1d468, 0x1d481, 1, 0x61), (0x1d482, 0x1d49b, 1, 0x61),
    (0x1d4a9, 0x1d4ac, 1, 0x6e), (0x1d4ae, 0x1d4b5, 1, 0x73), (0x1d4b6, 0x1d4b9, 1, 0x61),
    (0x1d4bd, 0x1d4c3, 1, 0x68), (0x1d4c5, 0x1d4cf, 1, 0x70), (0x1d4d0, 0x1d4e9, 1, 0x61),
    (0x1d4ea, 0x1d503, 1, 0x61), (0x1d507, 0x1d50a, 1, 0x64), (0x1d50d, 0x1d514, 1, 0x6a),
    (0x1d516, 0x1d51c, 1, 0x73), (0x1d51e, 0x1d537, 1, 0x61), (0x1d53b, 0x1d53e, 1, 0x64),
    (0x1d540, 0x1d544, 1, 0x69), (0x1d54a, 0x1d550, 1, 0x73), (0x1d552, 0x1d56b, 1, 0x61),
    (0x1d56c, 0x1d585, 1, 0x61), (0x1d586, 0x1d59f, 1, 0x61), (0x1d5a0, 0x1d5b9, 1, 0x61),
    (0x1d5ba, 0x1d5d3, 1, 0x61), (0x1d5d4, 0x1d5ed, 1, 0x61), (0x1d5ee, 0x1d607, 1, 0x61),
    (0x1d608, 0x1d621, 1, 0x61), (0x1d622, 0x1d63b, 1, 0x61), (0x1d63c, 0x1d655, 1, 0x61),
    (0x1d656, 0x1d66f, 1, 0x61), (0x1d670, 0x1d689, 1, 0x61), (0x1d68a, 0x1d6a3, 1, 0x61),
    (0x1d6a8, 0x1d6b8, 1, 0x3b1), (0x1d6ba, 0x1d6c0, 1, 0x3c3), (0x1d6c2, 0x1d6d2, 1, 0x3b1),
    (0x1d6d4, 0x1d6da, 1, 0x3c3), (0x1d6e2, 0x1d6f2, 1, 0x3b1), (0x1d6f4, 0x1d6fa, 1, 0x3c3),
    (0x1d6fc, 0x1d70c, 1, 0x3b1), (0x1d70e, 0x1d714, 1, 0x3c3), (0x1d71c, 0x1d72c, 1, 0x3b1),
    (0x1d72e, 0x1d734, 1, 0x3c3), (0x1d736, 0x1d746, 1, 0x3b1), (0x1d748, 0x1d74e, 1, 0x3c3),
    (0x1d756, 0x1d766, 1, 0x3b1), (0x1d768, 0x1d76e, 1, 0x3c3), (0x1d770, 0x1d780, 1, 0x3b1),
    (0x1d782, 0x1d788, 1, 0x3c3), (0x1d790, 0x1d7a0, 1, 0x3b1), (0x1d7a2, 0x1d7a8, 1, 0x3c3),
    (0x1d7aa, 0x1d7ba, 1, 0x3b1), (0x1d7bc, 0x1d7c2, 1, 0x3c3), (0x1d7ce, 0x1d7d7, 1, 0x30),
    (0x1d7d8, 0x1d7e1, 1, 0x30), (0x1d7e2, 0x1d7eb, 1, 0x30), (0x1d7ec, 0x1d7f5, 1, 0x30),
    (0x1d7f6, 0x1d7ff, 1, 0x30), (0x1e030, 0x1e038, 1, 0x430), (0x1e03c, 0x1e046, 1, 0x43e),
    (0x1e051, 0x1e059, 1, 0x430), (0x1e05f, 0x1e064, 1, 0x443), (0x1e900, 0x1e921, 1, 0x1e922),
    (0x1ee0a, 0x1ee0d, 1, 0x643), (0x1ee2a, 0x1ee2d, 1, 0x643), (0x1f130, 0x1f149, 1, 0x61),
    (0x1fbf0, 0x1fbf9, 1, 0x30)
  ]

/-- Other runs: the first character, and what each one stands for. -/
def replacedRuns : List (Nat × List Nat) :=
  [
    (0xa0, [0x20]), (0xaa, [0x61]), (0xb2, [0x32, 0x33]), (0xb5, [0x3bc]), (0xb9, [0x31, 0x6f]),
    (0x134, [0x135]), (0x136, [0x137]), (0x139, [0x13a]), (0x13b, [0x13c]), (0x13d, [0x13e]),
    (0x178, [0xff, 0x17a]), (0x17b, [0x17c]), (0x17d, [0x17e]), (0x17f, [0x73]),
    (0x181, [0x253, 0x183]), (0x184, [0x185]), (0x186, [0x254, 0x188]),
    (0x189, [0x256, 0x257, 0x18c]), (0x18e, [0x1dd, 0x259, 0x25b, 0x192]), (0x193, [0x260, 0x263]),
    (0x196, [0x269, 0x268, 0x199]), (0x19c, [0x26f, 0x272]), (0x19f, [0x275, 0x1a1]),
    (0x1a2, [0x1a3]), (0x1a4, [0x1a5]), (0x1a6, [0x280, 0x1a8]), (0x1a9, [0x283]), (0x1ac, [0x1ad]),
    (0x1ae, [0x288, 0x1b0]), (0x1b1, [0x28a, 0x28b, 0x1b4]), (0x1b5, [0x1b6]),
    (0x1b7, [0x292, 0x1b9]), (0x1bc, [0x1bd]), (0x1f4, [0x1f5]), (0x1f6, [0x195, 0x1bf]),
    (0x220, [0x19e]), (0x23a, [0x2c65, 0x23c]), (0x23d, [0x19a, 0x2c66]), (0x241, [0x242]),
    (0x243, [0x180, 0x289, 0x28c]),
    (0x2b0, [0x68, 0x266, 0x6a, 0x72, 0x279, 0x27b, 0x281, 0x77, 0x79]),
    (0x2e0, [0x263, 0x6c, 0x73, 0x78, 0x295]), (0x340, [0x300, 0x301]), (0x343, [0x313]),
    (0x345, [0x3b9]), (0x370, [0x371]), (0x372, [0x373]), (0x374, [0x2b9]), (0x376, [0x377]),
    (0x37e, [0x3b, 0x3f3]), (0x386, [0x3ac, 0xb7, 0x3ad, 0x3ae, 0x3af]), (0x38c, [0x3cc]),
    (0x38e, [0x3cd, 0x3ce]), (0x3cf, [0x3d7, 0x3b2, 0x3b8, 0x3c5, 0x3cd, 0x3cb, 0x3c6, 0x3c0]),
    (0x3f0, [0x3ba, 0x3c1, 0x3c3]), (0x3f4, [0x3b8, 0x3b5]), (0x3f7, [0x3f8]),
    (0x3f9, [0x3c3, 0x3fb]), (0x3fd, [0x37b, 0x37c, 0x37d]), (0x4c0, [0x4cf]), (0x558, [0x588]),
    (0x58b, [0x560]), (0xf0c, [0xf0b]), (0x10c7, [0x2d27]), (0x10cd, [0x2d2d]), (0x10fc, [0x10dc]),
    (0x1c80, [0x432, 0x434, 0x43e, 0x441, 0x442, 0x442, 0x44a, 0x463, 0xa64b, 0x1c8a]),
    (0x1cbd, [0x10fd, 0x10fe, 0x10ff]), (0x1d2c, [0x61, 0xe6, 0x62]), (0x1d30, [0x64, 0x65, 0x1dd]),
    (0x1d3c, [0x6f, 0x223, 0x70, 0x72, 0x74, 0x75, 0x77, 0x61, 0x250, 0x251, 0x1d02, 0x62, 0x64,
      0x65, 0x259, 0x25b, 0x25c, 0x67]),
    (0x1d4f, [0x6b, 0x6d, 0x14b, 0x6f, 0x254, 0x1d16, 0x1d17, 0x70, 0x74, 0x75, 0x1d1d, 0x26f, 0x76,
      0x1d25, 0x3b2, 0x3b3, 0x3b4, 0x3c6, 0x3c7, 0x69, 0x72, 0x75, 0x76, 0x3b2, 0x3b3, 0x3c1, 0x3c6,
      0x3c7]), (0x1d78, [0x43d]),
    (0x1d9b, [0x252, 0x63, 0x255, 0xf0, 0x25c, 0x66, 0x25f, 0x261, 0x265, 0x268, 0x269, 0x26a,
      0x1d7b, 0x29d, 0x26d, 0x1d85, 0x29f, 0x271, 0x270]),
    (0x1db2, [0x278, 0x282, 0x283, 0x1ab, 0x289, 0x28a, 0x1d1c, 0x28b, 0x28c, 0x7a, 0x290, 0x291,
      0x292, 0x3b8]), (0x1e9b, [0x1e61]), (0x1e9e, [0xdf]), (0x1f71, [0x3ac]), (0x1f73, [0x3ad]),
    (0x1f75, [0x3ae]), (0x1f77, [0x3af]), (0x1f79, [0x3cc]), (0x1f7b, [0x3cd]), (0x1f7d, [0x3ce]),
    (0x1fb8, [0x1fb0, 0x1fb1, 0x1f70, 0x3ac]), (0x1fbe, [0x3b9]),
    (0x1fc8, [0x1f72, 0x3ad, 0x1f74, 0x3ae]), (0x1fd3, [0x390]),
    (0x1fd8, [0x1fd0, 0x1fd1, 0x1f76, 0x3af]), (0x1fe3, [0x3b0]),
    (0x1fe8, [0x1fe0, 0x1fe1, 0x1f7a, 0x3cd, 0x1fe5]), (0x1fef, [0x60]),
    (0x1ff8, [0x1f78, 0x3cc, 0x1f7c, 0x3ce]),
    (0x2000, [0x20, 0x20, 0x20, 0x20, 0x20, 0x20, 0x20, 0x20, 0x20, 0x20, 0x20]),
    (0x2011, [0x2010]), (0x202f, [0x20]), (0x205f, [0x20]), (0x2070, [0x30, 0x69]),
    (0x207a, [0x2b, 0x2212, 0x3d, 0x28, 0x29, 0x6e]), (0x208a, [0x2b, 0x2212, 0x3d, 0x28, 0x29]),
    (0x2090, [0x61, 0x65, 0x6f, 0x78, 0x259, 0x68]), (0x209a, [0x70, 0x73, 0x74, 0x77, 0x79, 0x7a]),
    (0x2102, [0x63]), (0x2107, [0x25b]),
    (0x210a, [0x67, 0x68, 0x68, 0x68, 0x68, 0x127, 0x69, 0x69, 0x6c, 0x6c]), (0x2115, [0x6e]),
    (0x2119, [0x70, 0x71, 0x72, 0x72, 0x72]), (0x2124, [0x7a]), (0x2126, [0x3c9]), (0x2128, [0x7a]),
    (0x212a, [0x6b, 0xe5, 0x62, 0x63]), (0x212f, [0x65, 0x65, 0x66, 0x214e, 0x6d, 0x6f]),
    (0x2139, [0x69]), (0x213c, [0x3c0, 0x3b3, 0x3b3, 0x3c0, 0x2211]),
    (0x2145, [0x64, 0x64, 0x65, 0x69, 0x6a]), (0x2160, [0x69]), (0x2164, [0x76]), (0x2169, [0x78]),
    (0x216c, [0x6c, 0x63, 0x64, 0x6d, 0x69]), (0x2174, [0x76]), (0x2179, [0x78]),
    (0x217c, [0x6c, 0x63, 0x64, 0x6d]), (0x2183, [0x2184]), (0x2329, [0x3008, 0x3009]),
    (0x24ea, [0x30]), (0x2c60, [0x2c61]), (0x2c62, [0x26b, 0x1d7d, 0x27d]), (0x2c67, [0x2c68]),
    (0x2c69, [0x2c6a]), (0x2c6b, [0x2c6c]), (0x2c6d, [0x251, 0x271, 0x250, 0x252]),
    (0x2c72, [0x2c73]), (0x2c75, [0x2c76]), (0x2c7c, [0x6a, 0x76, 0x23f, 0x240]),
    (0x2ceb, [0x2cec]), (0x2ced, [0x2cee]), (0x2cf2, [0x2cf3]), (0x2d6f, [0x2d61]),
    (0x3000, [0x20]), (0x3002, [0x2e]), (0x3036, [0x3012]), (0x3038, [0x5341, 0x5344, 0x5345]),
    (0x3131, [0x1100, 0x1101, 0x11aa, 0x1102, 0x11ac, 0x11ad, 0x1103, 0x1104, 0x1105]),
    (0x3140, [0x111a, 0x1106, 0x1107, 0x1108, 0x1121]),
    (0x3165, [0x1114, 0x1115, 0x11c7, 0x11c8, 0x11cc, 0x11ce, 0x11d3, 0x11d7, 0x11d9, 0x111c,
      0x11dd, 0x11df, 0x111d, 0x111e, 0x1120, 0x1122, 0x1123, 0x1127, 0x1129]),
    (0x317d, [0x1132, 0x1136, 0x1140]),
    (0x3180, [0x1147, 0x114c, 0x11f1, 0x11f2, 0x1157, 0x1158, 0x1159, 0x1184, 0x1185, 0x1188,
      0x1191, 0x1192, 0x1194, 0x119e, 0x11a1]),
    (0x3192, [0x4e00, 0x4e8c, 0x4e09, 0x56db, 0x4e0a, 0x4e2d, 0x4e0b, 0x7532, 0x4e59, 0x4e19,
      0x4e01, 0x5929, 0x5730, 0x4eba]), (0x3244, [0x554f, 0x5e7c, 0x6587, 0x7b8f]),
    (0x3260, [0x1100, 0x1102, 0x1103, 0x1105, 0x1106, 0x1107, 0x1109, 0x110b, 0x110c]),
    (0x326e, [0xac00, 0xb098, 0xb2e4, 0xb77c, 0xb9c8, 0xbc14, 0xc0ac, 0xc544, 0xc790, 0xcc28,
      0xce74, 0xd0c0, 0xd30c, 0xd558]), (0x327e, [0xc6b0]),
    (0x3280, [0x4e00, 0x4e8c, 0x4e09, 0x56db, 0x4e94, 0x516d, 0x4e03, 0x516b, 0x4e5d, 0x5341,
      0x6708, 0x706b, 0x6c34, 0x6728, 0x91d1, 0x571f, 0x65e5, 0x682a, 0x6709, 0x793e, 0x540d,
      0x7279, 0x8ca1, 0x795d, 0x52b4, 0x79d8, 0x7537, 0x5973, 0x9069, 0x512a, 0x5370, 0x6ce8,
      0x9805, 0x4f11, 0x5199, 0x6b63, 0x4e0a, 0x4e2d, 0x4e0b, 0x5de6, 0x53f3, 0x533b, 0x5b97,
      0x5b66, 0x76e3, 0x4f01, 0x8cc7, 0x5354, 0x591c]),
    (0x32d0, [0x30a2, 0x30a4, 0x30a6, 0x30a8, 0x30aa, 0x30ab, 0x30ad, 0x30af, 0x30b1, 0x30b3,
      0x30b5, 0x30b7, 0x30b9, 0x30bb, 0x30bd, 0x30bf, 0x30c1, 0x30c4, 0x30c6, 0x30c8]),
    (0x32ea, [0x30d2, 0x30d5, 0x30d8, 0x30db]), (0x32f3, [0x30e4, 0x30e6]),
    (0xa69c, [0x44a, 0x44c]), (0xa770, [0xa76f]), (0xa779, [0xa77a]), (0xa77b, [0xa77c]),
    (0xa77d, [0x1d79]), (0xa78b, [0xa78c]), (0xa78d, [0x265]), (0xa790, [0xa791]),
    (0xa792, [0xa793]), (0xa7aa, [0x266, 0x25c, 0x261, 0x26c, 0x26a]),
    (0xa7b0, [0x29e, 0x287, 0x29d, 0xab53]), (0xa7c4, [0xa794, 0x282, 0x1d8e, 0xa7c8]),
    (0xa7c9, [0xa7ca]), (0xa7cb, [0x264]), (0xa7dc, [0x19b, 0xa7de]),
    (0xa7f1, [0x73, 0x63, 0x66, 0x71, 0xa7f6]), (0xa7f8, [0x127, 0x153]),
    (0xab5c, [0xa727, 0xab37, 0x26b, 0xab52]), (0xab69, [0x28d]),
    (0xfb20, [0x5e2, 0x5d0, 0x5d3, 0x5d4, 0x5db, 0x5dc, 0x5dd, 0x5e8, 0x5ea, 0x2b]),
    (0xfb50, [0x671, 0x671, 0x67b, 0x67b, 0x67b, 0x67b, 0x67e, 0x67e, 0x67e, 0x67e, 0x680, 0x680,
      0x680, 0x680, 0x67a, 0x67a, 0x67a, 0x67a, 0x67f, 0x67f, 0x67f, 0x67f, 0x679, 0x679, 0x679,
      0x679, 0x6a4, 0x6a4, 0x6a4, 0x6a4, 0x6a6, 0x6a6, 0x6a6, 0x6a6, 0x684, 0x684, 0x684, 0x684,
      0x683, 0x683, 0x683, 0x683, 0x686, 0x686, 0x686, 0x686, 0x687, 0x687]),
    (0xfb80, [0x687, 0x687, 0x68d, 0x68d, 0x68c, 0x68c, 0x68e, 0x68e, 0x688, 0x688, 0x698, 0x698,
      0x691, 0x691, 0x6a9, 0x6a9, 0x6a9, 0x6a9, 0x6af, 0x6af, 0x6af, 0x6af, 0x6b3, 0x6b3, 0x6b3,
      0x6b3, 0x6b1, 0x6b1, 0x6b1, 0x6b1, 0x6ba, 0x6ba, 0x6bb, 0x6bb, 0x6bb, 0x6bb, 0x6c0, 0x6c0,
      0x6c1, 0x6c1, 0x6c1, 0x6c1, 0x6be, 0x6be, 0x6be, 0x6be, 0x6d2, 0x6d2, 0x6d3, 0x6d3]),
    (0xfbd3, [0x6ad, 0x6ad, 0x6ad, 0x6ad, 0x6c7, 0x6c7, 0x6c6, 0x6c6, 0x6c8, 0x6c8]),
    (0xfbde, [0x6cb, 0x6cb, 0x6c5, 0x6c5, 0x6c9, 0x6c9, 0x6d0, 0x6d0, 0x6d0, 0x6d0, 0x649, 0x649]),
    (0xfbfc, [0x6cc, 0x6cc, 0x6cc, 0x6cc]), (0xfe10, [0x2c, 0x3001]),
    (0xfe13, [0x3a, 0x3b, 0x21, 0x3f, 0x3016, 0x3017]),
    (0xfe31, [0x2014, 0x2013, 0x5f, 0x5f, 0x28, 0x29, 0x7b, 0x7d, 0x3014, 0x3015, 0x3010, 0x3011,
      0x300a, 0x300b, 0x3008, 0x3009]), (0xfe47, [0x5b, 0x5d]),
    (0xfe4d, [0x5f, 0x5f, 0x5f, 0x2c, 0x3001]),
    (0xfe54, [0x3b, 0x3a, 0x3f, 0x21, 0x2014, 0x28, 0x29, 0x7b, 0x7d, 0x3014, 0x3015, 0x23, 0x26,
      0x2a, 0x2b, 0x2d, 0x3c, 0x3e, 0x3d]), (0xfe68, [0x5c, 0x24, 0x25, 0x40]),
    (0xfe80, [0x621, 0x622, 0x622, 0x623, 0x623, 0x624, 0x624, 0x625, 0x625, 0x626, 0x626, 0x626,
      0x626, 0x627, 0x627, 0x628, 0x628, 0x628, 0x628, 0x629, 0x629, 0x62a, 0x62a, 0x62a, 0x62a,
      0x62b, 0x62b, 0x62b, 0x62b, 0x62c, 0x62c, 0x62c, 0x62c, 0x62d, 0x62d, 0x62d, 0x62d, 0x62e,
      0x62e, 0x62e, 0x62e, 0x62f, 0x62f, 0x630, 0x630, 0x631, 0x631, 0x632, 0x632, 0x633, 0x633,
      0x633, 0x633, 0x634, 0x634, 0x634, 0x634, 0x635, 0x635, 0x635, 0x635, 0x636, 0x636, 0x636,
      0x636, 0x637, 0x637, 0x637, 0x637, 0x638, 0x638, 0x638, 0x638, 0x639, 0x639, 0x639, 0x639,
      0x63a, 0x63a, 0x63a, 0x63a, 0x641, 0x641, 0x641, 0x641, 0x642, 0x642, 0x642, 0x642, 0x643,
      0x643, 0x643, 0x643, 0x644, 0x644, 0x644, 0x644, 0x645, 0x645, 0x645, 0x645, 0x646, 0x646,
      0x646, 0x646, 0x647, 0x647, 0x647, 0x647, 0x648, 0x648, 0x649, 0x649, 0x64a, 0x64a, 0x64a,
      0x64a]),
    (0xff5f, [0x2985, 0x2986, 0x2e, 0x300c, 0x300d, 0x3001, 0x30fb, 0x30f2, 0x30a1, 0x30a3, 0x30a5,
      0x30a7, 0x30a9, 0x30e3, 0x30e5, 0x30e7, 0x30c3, 0x30fc, 0x30a2, 0x30a4, 0x30a6, 0x30a8,
      0x30aa, 0x30ab, 0x30ad, 0x30af, 0x30b1, 0x30b3, 0x30b5, 0x30b7, 0x30b9, 0x30bb, 0x30bd]),
    (0xff80, [0x30bf, 0x30c1, 0x30c4, 0x30c6, 0x30c8]), (0xff8b, [0x30d2, 0x30d5, 0x30d8, 0x30db]),
    (0xff94, [0x30e4, 0x30e6]), (0xff9c, [0x30ef, 0x30f3, 0x3099, 0x309a]),
    (0xffa1, [0x1100, 0x1101, 0x11aa, 0x1102, 0x11ac, 0x11ad, 0x1103, 0x1104, 0x1105]),
    (0xffb0, [0x111a, 0x1106, 0x1107, 0x1108, 0x1121]), (0xffda, [0x1173, 0x1174, 0x1175]),
    (0xffe0, [0xa2, 0xa3, 0xac]), (0xffe4, [0xa6, 0xa5, 0x20a9]), (0xffe8, [0x2502]),
    (0xffed, [0x25a0, 0x25cb]), (0x10594, [0x105bb, 0x105bc]),
    (0x10781, [0x2d0, 0x2d1, 0xe6, 0x299, 0x253]),
    (0x10787, [0x2a3, 0xab66, 0x2a5, 0x2a4, 0x256, 0x257, 0x1d91, 0x258, 0x25e, 0x2a9, 0x264, 0x262,
      0x260, 0x29b, 0x127, 0x29c, 0x267, 0x284, 0x2aa, 0x2ab, 0x26c, 0x1df04, 0xa78e, 0x26e,
      0x1df05, 0x28e, 0x1df06, 0xf8, 0x276, 0x277, 0x71, 0x27a, 0x1df08, 0x27d, 0x27e, 0x280, 0x2a8,
      0x2a6, 0xab67, 0x2a7, 0x288, 0x2c71]),
    (0x107b2, [0x28f, 0x2a1, 0x2a2, 0x298, 0x1c0, 0x1c1, 0x1c2, 0x1df0a, 0x1df1e]),
    (0x1d49c, [0x61]), (0x1d49e, [0x63, 0x64]), (0x1d4a2, [0x67]), (0x1d4a5, [0x6a, 0x6b]),
    (0x1d4bb, [0x66]), (0x1d504, [0x61, 0x62]), (0x1d538, [0x61, 0x62]), (0x1d546, [0x6f]),
    (0x1d6a4, [0x131, 0x237, 0x131, 0x237]), (0x1d6b9, [0x3b8]), (0x1d6c1, [0x2207]),
    (0x1d6d3, [0x3c3]), (0x1d6db, [0x2202, 0x3b5, 0x3b8, 0x3ba, 0x3c6, 0x3c1, 0x3c0]),
    (0x1d6f3, [0x3b8]), (0x1d6fb, [0x2207]), (0x1d70d, [0x3c3]),
    (0x1d715, [0x2202, 0x3b5, 0x3b8, 0x3ba, 0x3c6, 0x3c1, 0x3c0]), (0x1d72d, [0x3b8]),
    (0x1d735, [0x2207]), (0x1d747, [0x3c3]),
    (0x1d74f, [0x2202, 0x3b5, 0x3b8, 0x3ba, 0x3c6, 0x3c1, 0x3c0]), (0x1d767, [0x3b8]),
    (0x1d76f, [0x2207]), (0x1d781, [0x3c3]),
    (0x1d789, [0x2202, 0x3b5, 0x3b8, 0x3ba, 0x3c6, 0x3c1, 0x3c0]), (0x1d7a1, [0x3b8]),
    (0x1d7a9, [0x2207]), (0x1d7bb, [0x3c3]),
    (0x1d7c3, [0x2202, 0x3b5, 0x3b8, 0x3ba, 0x3c6, 0x3c1, 0x3c0, 0x3dd, 0x3dd]),
    (0x1e039, [0x43a, 0x43b, 0x43c]),
    (0x1e047, [0x44b, 0x44d, 0x44e, 0xa689, 0x4d9, 0x456, 0x458, 0x4e9, 0x4af, 0x4cf]),
    (0x1e05a, [0x43a, 0x43b, 0x43e, 0x43f, 0x441]),
    (0x1e065, [0x44a, 0x44b, 0x491, 0x456, 0x455, 0x45f, 0x4ab, 0xa651, 0x4b1]),
    (0x1ee00, [0x627, 0x628, 0x62c, 0x62f]), (0x1ee05, [0x648, 0x632, 0x62d, 0x637, 0x64a]),
    (0x1ee0e, [0x633, 0x639, 0x641, 0x635, 0x642, 0x631, 0x634, 0x62a, 0x62b, 0x62e, 0x630, 0x636,
      0x638, 0x63a, 0x66e, 0x6ba, 0x6a1, 0x66f]), (0x1ee21, [0x628, 0x62c]), (0x1ee24, [0x647]),
    (0x1ee27, [0x62d]), (0x1ee29, [0x64a]), (0x1ee2e, [0x633, 0x639, 0x641, 0x635, 0x642]),
    (0x1ee34, [0x634, 0x62a, 0x62b, 0x62e]), (0x1ee39, [0x636]), (0x1ee3b, [0x63a]),
    (0x1ee42, [0x62c]), (0x1ee47, [0x62d]), (0x1ee49, [0x64a]), (0x1ee4b, [0x644]),
    (0x1ee4d, [0x646, 0x633, 0x639]), (0x1ee51, [0x635, 0x642]), (0x1ee54, [0x634]),
    (0x1ee57, [0x62e]), (0x1ee59, [0x636]), (0x1ee5b, [0x63a]), (0x1ee5d, [0x6ba]),
    (0x1ee5f, [0x66f]), (0x1ee61, [0x628, 0x62c]), (0x1ee64, [0x647]),
    (0x1ee67, [0x62d, 0x637, 0x64a, 0x643]),
    (0x1ee6c, [0x645, 0x646, 0x633, 0x639, 0x641, 0x635, 0x642]),
    (0x1ee74, [0x634, 0x62a, 0x62b, 0x62e]), (0x1ee79, [0x636, 0x638, 0x63a, 0x66e]),
    (0x1ee7e, [0x6a1]),
    (0x1ee80, [0x627, 0x628, 0x62c, 0x62f, 0x647, 0x648, 0x632, 0x62d, 0x637, 0x64a]),
    (0x1ee8b, [0x644, 0x645, 0x646, 0x633, 0x639, 0x641, 0x635, 0x642, 0x631, 0x634, 0x62a, 0x62b,
      0x62e, 0x630, 0x636, 0x638, 0x63a]), (0x1eea1, [0x628, 0x62c, 0x62f]),
    (0x1eea5, [0x648, 0x632, 0x62d, 0x637, 0x64a]),
    (0x1eeab, [0x644, 0x645, 0x646, 0x633, 0x639, 0x641, 0x635, 0x642, 0x631, 0x634, 0x62a, 0x62b,
      0x62e, 0x630, 0x636, 0x638, 0x63a]), (0x1f12b, [0x63, 0x72]), (0x1f202, [0x30b5]),
    (0x1f210, [0x624b, 0x5b57, 0x53cc, 0x30c7, 0x4e8c, 0x591a, 0x89e3, 0x5929, 0x4ea4, 0x6620,
      0x7121, 0x6599, 0x524d, 0x5f8c, 0x518d, 0x65b0, 0x521d, 0x7d42, 0x751f, 0x8ca9, 0x58f0,
      0x5439, 0x6f14, 0x6295, 0x6355, 0x4e00, 0x4e09, 0x904a, 0x5de6, 0x4e2d, 0x53f3, 0x6307,
      0x8d70, 0x6253, 0x7981, 0x7a7a, 0x5408, 0x6e80, 0x6709, 0x6708, 0x7533, 0x5272, 0x55b6,
      0x914d]), (0x1f250, [0x5f97, 0x53ef])
  ]

end DomainCharacter

end ShuffleMint
