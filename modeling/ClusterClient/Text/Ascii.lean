/-!
# Case and blanks

ASCII case folding, which leaves every other character as it is, and trimming of the characters
that count as white space in Unicode.
-/

namespace ClusterClient.Text

def asciiLower (s : String) : String :=
  s.map Char.toLower

/-- Equality up to the case of ASCII letters. -/
def equalIgnoringCase (a b : String) : Bool :=
  asciiLower a == asciiLower b

def isBlank (c : Char) : Bool :=
  let n := c.toNat
  (0x09 ≤ n && n ≤ 0x0d) || n == 0x20 || n == 0x85 || n == 0xa0 || n == 0x1680
    || (0x2000 ≤ n && n ≤ 0x200a) || n == 0x2028 || n == 0x2029 || n == 0x202f
    || n == 0x205f || n == 0x3000

/-- The list without the leading and trailing elements for which the test holds. -/
def stripChars (test : Char → Bool) (cs : List Char) : List Char :=
  ((cs.dropWhile test).reverse.dropWhile test).reverse

def trimBlank (s : String) : String :=
  String.ofList (stripChars isBlank s.toList)

end ClusterClient.Text
