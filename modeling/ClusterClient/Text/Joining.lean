import ClusterClient.Text.Marks
/-!
# Joining letters

Letters of cursive scripts that change their form next to each other. What modifies a letter does
not keep it from joining.
-/

namespace ClusterClient.Text

/-- Where runs of letters that join the next one begin and end, in turn. -/
def joiningAheadRuns : List Nat :=
  [0x620, 0x621, 0x626, 0x627, 0x628, 0x629, 0x62a, 0x62f, 0x633, 0x640, 0x641, 0x648, 0x649,
    0x64b, 0x66e, 0x670, 0x679, 0x688, 0x69a, 0x6c0, 0x6c1, 0x6c3, 0x6cc, 0x6cd, 0x6ce, 0x6cf,
    0x6d0, 0x6d2, 0x6fa, 0x6fd, 0x6ff, 0x700, 0x712, 0x715, 0x71a, 0x71e, 0x71f, 0x728, 0x729,
    0x72a, 0x72b, 0x72c, 0x72d, 0x72f, 0x74e, 0x759, 0x75c, 0x76b, 0x76d, 0x771, 0x772, 0x773,
    0x775, 0x778, 0x77a, 0x780, 0x7ca, 0x7eb, 0x841, 0x846, 0x848, 0x849, 0x84a, 0x854, 0x855,
    0x856, 0x860, 0x861, 0x862, 0x866, 0x868, 0x869, 0x886, 0x887, 0x889, 0x88e, 0x88f, 0x897,
    0x8a0, 0x8aa, 0x8af, 0x8b1, 0x8b3, 0x8b9, 0x8ba, 0x8c9, 0x1807, 0x1808, 0x1820, 0x1880,
    0x1887, 0x18a9, 0x18aa, 0x18b0, 0xa840, 0xa873, 0x10ac0, 0x10ac5, 0x10acd, 0x10ace, 0x10ad3,
    0x10add, 0x10ade, 0x10ae1, 0x10aeb, 0x10aef, 0x10b80, 0x10b81, 0x10b82, 0x10b83, 0x10b86,
    0x10b89, 0x10b8a, 0x10b8c, 0x10b8d, 0x10b8e, 0x10b90, 0x10b91, 0x10bad, 0x10baf, 0x10d00,
    0x10d22, 0x10d23, 0x10d24, 0x10ec3, 0x10ec5, 0x10ec6, 0x10ed0, 0x10f30, 0x10f33, 0x10f34,
    0x10f45, 0x10f51, 0x10f54, 0x10f70, 0x10f74, 0x10f76, 0x10f82, 0x10fb0, 0x10fb1, 0x10fb2,
    0x10fb4, 0x10fb8, 0x10fb9, 0x10fbb, 0x10fbd, 0x10fbe, 0x10fc0, 0x10fc1, 0x10fc2, 0x10fc4,
    0x10fc5, 0x10fca, 0x10fe0, 0x1e922, 0x1e944]

def joiningBackRuns : List Nat :=
  [0x620, 0x621, 0x622, 0x640, 0x641, 0x64b, 0x66e, 0x670, 0x671, 0x674, 0x679, 0x6d4, 0x6d5,
    0x6d6, 0x6ee, 0x6f0, 0x6fa, 0x6fd, 0x6ff, 0x700, 0x710, 0x711, 0x712, 0x730, 0x74d, 0x780,
    0x7ca, 0x7eb, 0x840, 0x859, 0x860, 0x861, 0x862, 0x866, 0x867, 0x883, 0x886, 0x887, 0x889,
    0x897, 0x8a0, 0x8ad, 0x8ae, 0x8c9, 0x1807, 0x1808, 0x1820, 0x1880, 0x1887, 0x18a9, 0x18aa,
    0x18b0, 0xa840, 0xa872, 0x10ac0, 0x10ac6, 0x10ac7, 0x10ac8, 0x10ac9, 0x10acb, 0x10ace,
    0x10ad7, 0x10ad8, 0x10ae2, 0x10ae4, 0x10ae5, 0x10aeb, 0x10af0, 0x10b80, 0x10b99, 0x10ba9,
    0x10baf, 0x10d01, 0x10d24, 0x10ec2, 0x10ec5, 0x10ec6, 0x10ed0, 0x10f30, 0x10f45, 0x10f51,
    0x10f55, 0x10f70, 0x10f82, 0x10fb0, 0x10fb1, 0x10fb2, 0x10fb7, 0x10fb8, 0x10fc0, 0x10fc1,
    0x10fc5, 0x10fc9, 0x10fcb, 0x1e922, 0x1e944]

/-- The letter that is written above or below others like a mark. -/
def markLikeLetter : Nat := 0x1e94b

/-- Whether letters join across a character. -/
def isTransparent (c : Char) : Bool := isNonspacingMark c || c.toNat == markLikeLetter

/-- Whether the first character that counts joins the next one. -/
def joinsAhead (reversed : List Char) : Bool :=
  (reversed.dropWhile isTransparent).head?.any (Runs.covers joiningAheadRuns ·.toNat)

def joinsBack (cs : List Char) : Bool :=
  (cs.dropWhile isTransparent).head?.any (Runs.covers joiningBackRuns ·.toNat)

end ClusterClient.Text
