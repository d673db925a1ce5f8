import ClusterClient.Text.Hex
import ClusterClient.Text.Printable
/-!
# Quoted texts

A text in double quotes for people to read: what would not show as itself is written by its code
point.
-/

namespace ClusterClient.Text

/-- How a character stands in a quoted text. -/
def showChar (c : Char) : String :=
  if c == '\x22' then "\\\x22"
  else if c == '\\' then "\\\\"
  else if c == '\n' then "\\n"
  else if c == '\r' then "\\r"
  else if c == '\t' then "\\t"
  else if c == '\x00' then "\\0"
  else if isShown c then String.singleton c
  else "\\u\x7b" ++ Hex.ofNat c.toNat ++ "\x7d"

def quoted (s : String) : String :=
  "\x22" ++ String.join (s.toList.map showChar) ++ "\x22"

end ClusterClient.Text
