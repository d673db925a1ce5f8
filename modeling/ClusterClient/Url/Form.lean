import ClusterClient.Url.Basic
/-!
# Query parameters

Parameters are written as `name=value` pairs with `&` between them. Letters, digits and `*-._` stand
for themselves, a space becomes a plus sign, and every other octet is escaped.
-/

namespace ClusterClient.Url

namespace Form

def isPlain (b : UInt8) : Bool :=
  let c := Char.ofNat b.toNat
  b < 0x80 && (c.isAlphanum || c == '*' || c == '-' || c == '.' || c == '_')

def encodeByte (b : UInt8) : List Char :=
  if isPlain b then [Char.ofNat b.toNat] else if b == 0x20 then ['+'] else Percent.escape b

def encode (text : String) : List Char :=
  (Bytes.ofString text).flatMap encodeByte

def encodePair (pair : String × String) : List Char :=
  encode pair.1 ++ '=' :: encode pair.2

def encodePairs : List (String × String) → List Char
  | [] => []
  | [pair] => encodePair pair
  | pair :: pairs => encodePair pair ++ '&' :: encodePairs pairs

def decode (cs : List Char) : Bytes :=
  Percent.decode ((Bytes.ofString (String.ofList cs)).map fun b => if b == 0x2b then 0x20 else b)

/-- The parameters of a query. Parts that are empty are skipped. -/
def decodePairs (cs : List Char) : List (String × String) :=
  (splitWhere (· == '&') cs).filter (!·.isEmpty) |>.map fun part =>
    let (name, value) := part.span (· != '=')
    (Bytes.lenientString (decode name), Bytes.lenientString (decode (value.drop 1)))

end Form

/-- The URL with parameters added to its query. Adding none still gives it a query. -/
def addParameters (url : Url) (pairs : List (String × String)) : Url :=
  let added := String.ofList (Form.encodePairs pairs)
  let query := match url.query with
    | some query =>
      if query.isEmpty then added else if pairs.isEmpty then query else query ++ "&" ++ added
    | none => added
  { url with query := some query }

def dropEmptyQuery (url : Url) : Url :=
  if url.query == some "" then { url with query := none } else url

end ClusterClient.Url
