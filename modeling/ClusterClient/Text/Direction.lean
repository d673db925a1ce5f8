import ClusterClient.Text.Marks
/-!
# Directions

Which way characters are written. Texts in which both ways occur need rules to be read the same way
by everyone.
-/

namespace ClusterClient.Text

/-- Where runs of characters written from right to left begin and end, in turn. -/
def rightToLeftRuns : List Nat :=
  [0x5be, 0x5bf, 0x5c0, 0x5c1, 0x5c3, 0x5c4, 0x5c6, 0x5c7, 0x5d0, 0x606, 0x608, 0x609, 0x60b,
    0x60c, 0x60d, 0x60e, 0x61b, 0x64b, 0x66d, 0x670, 0x671, 0x6d6, 0x6e5, 0x6e7, 0x6ee, 0x6f0,
    0x6fa, 0x711, 0x712, 0x730, 0x74d, 0x7a6, 0x7b1, 0x7eb, 0x7f4, 0x7f6, 0x7fa, 0x7fd, 0x7fe,
    0x816, 0x81a, 0x81b, 0x824, 0x825, 0x828, 0x829, 0x830, 0x859, 0x85e, 0x897, 0x8a0, 0x8ca,
    0xfbb2, 0xfbc3, 0xfe73, 0x10000, 0x10800, 0x1091f, 0x10920, 0x10a01, 0x10a10, 0x10a38,
    0x10a40, 0x10ae5, 0x10aeb, 0x10b39, 0x10b40, 0x10d24, 0x10d40, 0x10d69, 0x10d6f, 0x10e60,
    0x10e80, 0x10eab, 0x10ead, 0x10ed0, 0x10f00, 0x10f46, 0x10f51, 0x10f82, 0x10f86, 0x11000,
    0x1e800, 0x1e8d0, 0x1e922, 0x1e944, 0x1e94b, 0x1eef0]

def arabicNumberRuns : List Nat :=
  [0x660, 0x66a, 0x66b, 0x66d, 0x10d30, 0x10d40, 0x10e60, 0x10e80]

def europeanNumberRuns : List Nat :=
  [0x30, 0x3a, 0x6f0, 0x6fa, 0x102e1, 0x10300]

def neutralRuns : List Nat :=
  [0x0, 0x9, 0xe, 0x1c, 0x21, 0x30, 0x3a, 0x61, 0x7b, 0xdf, 0xf7, 0xf8, 0x2b9, 0x2bb, 0x2c2,
    0x2d0, 0x2d2, 0x2ee, 0x2ef, 0x300, 0x375, 0x377, 0x3f6, 0x3f8, 0x58a, 0x591, 0x606, 0x608,
    0x609, 0x60b, 0x60c, 0x60d, 0x60e, 0x610, 0x66a, 0x66b, 0x6de, 0x6df, 0x6e9, 0x6ea, 0x7f6,
    0x7fa, 0x9f2, 0x9f4, 0x9fb, 0x9fc, 0xaf1, 0xaf9, 0xbf3, 0xc00, 0xc78, 0xc7f, 0xe3f, 0xe40,
    0xf3a, 0xf3e, 0x1390, 0x13a0, 0x1400, 0x1401, 0x169b, 0x16a0, 0x17db, 0x17dc, 0x17f0, 0x1810,
    0x1940, 0x1946, 0x19de, 0x1a00, 0x200c, 0x20c1, 0x2104, 0x214e, 0x218a, 0x2336, 0x237b,
    0x2395, 0x2396, 0x26ac, 0x26ad, 0x2800, 0x2900, 0x2c30, 0x2ce5, 0x2cec, 0x2cf9, 0x2d00,
    0x2e00, 0x3005, 0x3008, 0x3021, 0x3030, 0x3031, 0x3037, 0x303b, 0x303d, 0x3041, 0x30a0,
    0x30a1, 0x30fb, 0x30fc, 0x31c0, 0x31f0, 0x4dc0, 0x4e00, 0xa490, 0xa4d0, 0xa60d, 0xa610,
    0xa673, 0xa674, 0xa67e, 0xa681, 0xa700, 0xa723, 0xa788, 0xa789, 0xa828, 0xa82c, 0xa838,
    0xa840, 0xa874, 0xa880, 0xab6a, 0xabc0, 0xfbc3, 0xfe20, 0xfe45, 0xfe73, 0x10101, 0x10102,
    0x10140, 0x1018d, 0x10190, 0x101d0, 0x1091f, 0x10920, 0x10b39, 0x10b40, 0x10d6e, 0x10d6f,
    0x10ed0, 0x10efa, 0x11052, 0x11066, 0x11660, 0x11680, 0x11fd5, 0x11fff, 0x16fe2, 0x16fe3,
    0x1cc00, 0x1cf00, 0x1d1e9, 0x1d242, 0x1d245, 0x1d2c0, 0x1d300, 0x1d360, 0x1e2ff, 0x1e4d0,
    0x1eef0, 0x1f150, 0x1f16d, 0x1f170, 0x1f1ad, 0x1f1e6, 0x1f260, 0x20000]

/-- Nonspacing marks that are written from left to right on their own. -/
def leftToRightMarks : List Nat := [0xcbf, 0xcc6, 0x11a07, 0x11a08, 0x11c3f]

def directionlessMark : Nat := 0x1171e

/-- How a character behaves where directions meet. -/
inductive Direction where
  | leftToRight
  | rightToLeft
  | europeanNumber
  | arabicNumber
  | neutral
  /-- Takes the direction of what it modifies. -/
  | mark
  deriving DecidableEq, Repr

def directionOf (c : Char) : Direction :=
  let n := c.toNat
  if (isNonspacingMark c && !leftToRightMarks.contains n) || n == directionlessMark then .mark
  else if Runs.covers rightToLeftRuns n then .rightToLeft
  else if Runs.covers arabicNumberRuns n then .arabicNumber
  else if Runs.covers europeanNumberRuns n then .europeanNumber
  else if Runs.covers neutralRuns n then .neutral
  else .leftToRight

end ClusterClient.Text
