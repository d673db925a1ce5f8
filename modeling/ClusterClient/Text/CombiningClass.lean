import ClusterClient.Text.Runs
/-!
# Combining classes

Marks of different classes do not touch each other, so they may be written in any order. Class zero
is that of characters that stay where they are.
-/

namespace ClusterClient.Text

private def classChangesA : List (Nat × Nat) :=
  [(0x0, 0), (0x300, 230), (0x315, 232), (0x316, 220), (0x31a, 232), (0x31b, 216), (0x31c, 220),
    (0x321, 202), (0x323, 220), (0x327, 202), (0x329, 220), (0x334, 1), (0x339, 220),
    (0x33d, 230), (0x347, 220), (0x34a, 230), (0x34d, 220), (0x350, 230), (0x353, 220),
    (0x357, 230), (0x358, 232), (0x359, 220), (0x35b, 230), (0x35c, 233), (0x35d, 234),
    (0x35f, 233), (0x360, 234), (0x362, 233), (0x363, 230), (0x371, 0), (0x483, 230), (0x488, 0),
    (0x591, 220), (0x592, 230), (0x596, 220), (0x597, 230), (0x59a, 222), (0x59b, 220),
    (0x59c, 230), (0x5a2, 220), (0x5a8, 230), (0x5aa, 220), (0x5ab, 230), (0x5ad, 222),
    (0x5ae, 228), (0x5af, 230), (0x5b0, 10), (0x5b1, 11), (0x5b2, 12), (0x5b3, 13), (0x5b4, 14),
    (0x5b5, 15), (0x5b6, 16), (0x5b7, 17), (0x5b8, 18), (0x5b9, 19), (0x5bb, 20), (0x5bc, 21),
    (0x5bd, 22), (0x5be, 0), (0x5bf, 23), (0x5c0, 0), (0x5c1, 24), (0x5c2, 25), (0x5c3, 0),
    (0x5c4, 230), (0x5c5, 220), (0x5c6, 0), (0x5c7, 18), (0x5d0, 0), (0x610, 230), (0x618, 30),
    (0x619, 31), (0x61a, 32), (0x61b, 0), (0x64b, 27), (0x64c, 28), (0x64d, 29), (0x64e, 30),
    (0x64f, 31), (0x650, 32), (0x651, 33), (0x652, 34), (0x653, 230), (0x655, 220), (0x657, 230),
    (0x65c, 220), (0x65d, 230), (0x65f, 220), (0x660, 0), (0x670, 35), (0x671, 0), (0x6d6, 230),
    (0x6de, 0), (0x6df, 230), (0x6e3, 220), (0x6e4, 230), (0x6e5, 0), (0x6e7, 230), (0x6e9, 0),
    (0x6ea, 220), (0x6eb, 230), (0x6ed, 220), (0x6ee, 0), (0x711, 36), (0x712, 0), (0x730, 230),
    (0x731, 220), (0x732, 230), (0x734, 220), (0x735, 230), (0x737, 220), (0x73a, 230),
    (0x73b, 220), (0x73d, 230), (0x73e, 220), (0x73f, 230), (0x742, 220), (0x743, 230),
    (0x744, 220), (0x745, 230), (0x746, 220), (0x747, 230), (0x748, 220), (0x749, 230),
    (0x74d, 0), (0x7eb, 230), (0x7f2, 220), (0x7f3, 230), (0x7f4, 0)]

private def classChangesB : List (Nat × Nat) :=
  [(0x7fd, 220), (0x7fe, 0), (0x816, 230), (0x81a, 0), (0x81b, 230), (0x824, 0), (0x825, 230),
    (0x828, 0), (0x829, 230), (0x830, 0), (0x859, 220), (0x85e, 0), (0x897, 230), (0x899, 220),
    (0x89c, 230), (0x8a0, 0), (0x8ca, 230), (0x8cf, 220), (0x8d4, 230), (0x8e3, 220),
    (0x8e4, 230), (0x8e6, 220), (0x8e7, 230), (0x8e9, 220), (0x8ea, 230), (0x8ed, 220),
    (0x8f0, 27), (0x8f1, 28), (0x8f2, 29), (0x8f3, 230), (0x8f6, 220), (0x8f7, 230), (0x8f9, 220),
    (0x8fb, 230), (0x900, 0), (0x93c, 7), (0x93d, 0), (0x94d, 9), (0x94e, 0), (0x951, 230),
    (0x952, 220), (0x953, 230), (0x955, 0), (0x9bc, 7), (0x9bd, 0), (0x9cd, 9), (0x9ce, 0),
    (0x9fe, 230), (0xa01, 0), (0xa3c, 7), (0xa3e, 0), (0xa4d, 9), (0xa51, 0), (0xabc, 7),
    (0xabd, 0), (0xacd, 9), (0xad0, 0), (0xb3c, 7), (0xb3d, 0), (0xb4d, 9), (0xb55, 0),
    (0xbcd, 9), (0xbd0, 0), (0xc3c, 7), (0xc3d, 0), (0xc4d, 9), (0xc55, 84), (0xc56, 91),
    (0xc58, 0), (0xcbc, 7), (0xcbd, 0), (0xccd, 9), (0xcd5, 0), (0xd3b, 9), (0xd3d, 0),
    (0xd4d, 9), (0xd4e, 0), (0xdca, 9), (0xdcf, 0), (0xe38, 103), (0xe3a, 9), (0xe3f, 0),
    (0xe48, 107), (0xe4c, 0), (0xeb8, 118), (0xeba, 9), (0xebb, 0), (0xec8, 122), (0xecc, 0),
    (0xf18, 220), (0xf1a, 0), (0xf35, 220), (0xf36, 0), (0xf37, 220), (0xf38, 0), (0xf39, 216),
    (0xf3a, 0), (0xf71, 129), (0xf72, 130), (0xf74, 132), (0xf7a, 130), (0xf7e, 0), (0xf80, 130),
    (0xf82, 230), (0xf84, 9), (0xf85, 0), (0xf86, 230), (0xf88, 0), (0xfc6, 220), (0xfc7, 0),
    (0x1037, 7), (0x1038, 0), (0x1039, 9), (0x103b, 0), (0x108d, 220), (0x108e, 0), (0x135d, 230),
    (0x1360, 0), (0x1714, 9), (0x171f, 0), (0x1734, 9), (0x1735, 0), (0x17d2, 9), (0x17d3, 0),
    (0x17dd, 230), (0x17e0, 0), (0x18a9, 228), (0x18aa, 0), (0x1939, 222), (0x193a, 230)]

private def classChangesC : List (Nat × Nat) :=
  [(0x193b, 220), (0x1940, 0), (0x1a17, 230), (0x1a18, 220), (0x1a19, 0), (0x1a60, 9),
    (0x1a61, 0), (0x1a75, 230), (0x1a7f, 220), (0x1a80, 0), (0x1ab0, 230), (0x1ab5, 220),
    (0x1abb, 230), (0x1abd, 220), (0x1abe, 0), (0x1abf, 220), (0x1ac1, 230), (0x1ac3, 220),
    (0x1ac5, 230), (0x1aca, 220), (0x1acb, 230), (0x1add, 220), (0x1ae0, 230), (0x1ae6, 220),
    (0x1ae7, 230), (0x1aeb, 234), (0x1b00, 0), (0x1b34, 7), (0x1b35, 0), (0x1b44, 9), (0x1b45, 0),
    (0x1b6b, 230), (0x1b6c, 220), (0x1b6d, 230), (0x1b74, 0), (0x1baa, 9), (0x1bac, 0),
    (0x1be6, 7), (0x1be7, 0), (0x1bf2, 9), (0x1bfc, 0), (0x1c37, 7), (0x1c3b, 0), (0x1cd0, 230),
    (0x1cd3, 0), (0x1cd4, 1), (0x1cd5, 220), (0x1cda, 230), (0x1cdc, 220), (0x1ce0, 230),
    (0x1ce1, 0), (0x1ce2, 1), (0x1ce9, 0), (0x1ced, 220), (0x1cee, 0), (0x1cf4, 230), (0x1cf5, 0),
    (0x1cf8, 230), (0x1cfa, 0), (0x1dc0, 230), (0x1dc2, 220), (0x1dc3, 230), (0x1dca, 220),
    (0x1dcb, 230), (0x1dcd, 234), (0x1dce, 214), (0x1dcf, 220), (0x1dd0, 202), (0x1dd1, 230),
    (0x1df6, 232), (0x1df7, 228), (0x1df9, 220), (0x1dfa, 218), (0x1dfb, 230), (0x1dfc, 233),
    (0x1dfd, 220), (0x1dfe, 230), (0x1dff, 220), (0x1e01, 0), (0x20d0, 230), (0x20d2, 1),
    (0x20d4, 230), (0x20d8, 1), (0x20db, 230), (0x20dd, 0), (0x20e1, 230), (0x20e2, 0),
    (0x20e5, 1), (0x20e7, 230), (0x20e8, 220), (0x20e9, 230), (0x20ea, 1), (0x20ec, 220),
    (0x20f0, 230), (0x2104, 0), (0x2cef, 230), (0x2cf3, 0), (0x2d7f, 9), (0x2d80, 0),
    (0x2de0, 230), (0x2e00, 0), (0x302a, 218), (0x302b, 228), (0x302c, 232), (0x302d, 222),
    (0x302e, 224), (0x3030, 0), (0x3099, 8), (0x309d, 0), (0xa66f, 230), (0xa670, 0),
    (0xa674, 230), (0xa67e, 0), (0xa69e, 230), (0xa6a0, 0), (0xa6f0, 230), (0xa6f2, 0),
    (0xa806, 9), (0xa807, 0), (0xa82c, 9), (0xa830, 0), (0xa8c4, 9), (0xa8c5, 0), (0xa8e0, 230),
    (0xa8f2, 0), (0xa92b, 220), (0xa92e, 0), (0xa953, 9), (0xa95f, 0), (0xa9b3, 7)]

private def classChangesD : List (Nat × Nat) :=
  [(0xa9b4, 0), (0xa9c0, 9), (0xa9c1, 0), (0xaab0, 230), (0xaab1, 0), (0xaab2, 230),
    (0xaab4, 220), (0xaab5, 0), (0xaab7, 230), (0xaab9, 0), (0xaabe, 230), (0xaac0, 0),
    (0xaac1, 230), (0xaac2, 0), (0xaaf6, 9), (0xab01, 0), (0xabed, 9), (0xabf0, 0), (0xfb1e, 26),
    (0xfbb2, 0), (0xfe20, 230), (0xfe27, 220), (0xfe2e, 230), (0xfe45, 0), (0x101fd, 220),
    (0x10280, 0), (0x102e0, 220), (0x102e1, 0), (0x10376, 230), (0x10380, 0), (0x10a0d, 220),
    (0x10a0e, 0), (0x10a0f, 230), (0x10a10, 0), (0x10a38, 230), (0x10a39, 1), (0x10a3a, 220),
    (0x10a3f, 9), (0x10a40, 0), (0x10ae5, 230), (0x10ae6, 220), (0x10aeb, 0), (0x10d24, 230),
    (0x10d30, 0), (0x10d69, 230), (0x10d6e, 0), (0x10eab, 230), (0x10ead, 0), (0x10efa, 220),
    (0x10efc, 0), (0x10efd, 220), (0x10f00, 0), (0x10f46, 220), (0x10f48, 230), (0x10f4b, 220),
    (0x10f4c, 230), (0x10f4d, 220), (0x10f51, 0), (0x10f82, 230), (0x10f83, 220), (0x10f84, 230),
    (0x10f85, 220), (0x10f86, 0), (0x11046, 9), (0x11047, 0), (0x11070, 9), (0x11071, 0),
    (0x1107f, 9), (0x11080, 0), (0x110b9, 9), (0x110ba, 7), (0x110bb, 0), (0x11100, 230),
    (0x11103, 0), (0x11133, 9), (0x11136, 0), (0x11173, 7), (0x11174, 0), (0x111c0, 9),
    (0x111c1, 0), (0x111ca, 7), (0x111cb, 0), (0x11235, 9), (0x11236, 7), (0x11237, 0),
    (0x112e9, 7), (0x112ea, 9), (0x112f0, 0), (0x1133b, 7), (0x1133d, 0), (0x1134d, 9),
    (0x11350, 0), (0x11366, 230), (0x11380, 0), (0x113ce, 9), (0x113d1, 0), (0x11442, 9),
    (0x11443, 0), (0x11446, 7), (0x11447, 0), (0x1145e, 230), (0x1145f, 0), (0x114c2, 9),
    (0x114c3, 7), (0x114c4, 0), (0x115bf, 9), (0x115c0, 7), (0x115c1, 0), (0x1163f, 9),
    (0x11640, 0), (0x116b6, 9), (0x116b7, 7), (0x116b8, 0), (0x1172b, 9), (0x11730, 0),
    (0x11839, 9), (0x1183a, 7), (0x1183b, 0), (0x1193d, 9), (0x1193f, 0), (0x11943, 7),
    (0x11944, 0), (0x119e0, 9), (0x119e1, 0), (0x11a34, 9), (0x11a35, 0), (0x11a47, 9),
    (0x11a50, 0), (0x11a99, 9), (0x11a9a, 0)]

private def classChangesE : List (Nat × Nat) :=
  [(0x11c3f, 9), (0x11c40, 0), (0x11d42, 7), (0x11d43, 0), (0x11d44, 9), (0x11d46, 0),
    (0x11d97, 9), (0x11d98, 0), (0x11f41, 9), (0x11f43, 0), (0x1612f, 9), (0x16130, 0),
    (0x16af0, 1), (0x16af5, 0), (0x16b30, 230), (0x16b37, 0), (0x16ff0, 6), (0x16ff2, 0),
    (0x1bc9e, 1), (0x1bc9f, 0), (0x1d165, 216), (0x1d167, 1), (0x1d16a, 0), (0x1d16d, 226),
    (0x1d16e, 216), (0x1d17b, 220), (0x1d183, 0), (0x1d185, 230), (0x1d18a, 220), (0x1d18c, 0),
    (0x1d1aa, 230), (0x1d1ae, 0), (0x1d242, 230), (0x1d245, 0), (0x1e000, 230), (0x1e100, 0),
    (0x1e130, 230), (0x1e137, 0), (0x1e2ae, 230), (0x1e2c0, 0), (0x1e2ec, 230), (0x1e2f0, 0),
    (0x1e4ec, 232), (0x1e4ee, 220), (0x1e4ef, 230), (0x1e4f0, 0), (0x1e5ee, 230), (0x1e5ef, 220),
    (0x1e5f0, 0), (0x1e6e3, 230), (0x1e6e4, 0), (0x1e6e6, 230), (0x1e6e7, 0), (0x1e6ee, 230),
    (0x1e6f0, 0), (0x1e6f5, 230), (0x1e6fe, 0), (0x1e8d0, 220), (0x1e922, 0), (0x1e944, 230),
    (0x1e94a, 7), (0x1e94b, 0)]

/-- At which code points the combining class changes, and to what. -/
def classChanges : List (Nat × Nat) :=
  classChangesA ++ classChangesB ++ classChangesC ++ classChangesD ++ classChangesE

def combiningClass (n : Nat) : Nat := Runs.valueAt classChanges n

/-- The class of the marks that take the vowel from a consonant. -/
def viramaClass : Nat := 9

end ClusterClient.Text
