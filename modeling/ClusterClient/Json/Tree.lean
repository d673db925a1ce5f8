import ClusterClient.Json.Value
/-!
# JSON texts

A JSON text is first read as a tree that keeps what the text says: members in order with
repetitions, numbers digit by digit, and strings that may turn out not to be text. What a reader
does not look at only has to be well-formed; what it uses has to make sense as well.
-/

namespace ClusterClient.Json

structure Numeral where
  negative : Bool
  whole : List Nat
  /-- The digits after the point; empty exactly when there is no point. -/
  fraction : List Nat
  exponent : Option Int
  deriving DecidableEq, Repr

/-- A JSON text as written. A string is `none` when its octets or escapes are no text. -/
inductive Tree where
  | null
  | bool (value : Bool)
  | number (value : Numeral)
  | string (value : Option String)
  | array (items : List Tree)
  | object (members : List (Option String × Tree))
  deriving Repr, Inhabited

namespace Numeral

def maxWord : Nat := UInt64.size - 1

/-- Appends digits to a number as long as it fits 64 bits, and returns the digits left over. -/
def absorb (value : Nat) : List Nat → Nat × List Nat
  | [] => (value, [])
  | d :: ds => if maxWord < value * 10 + d then (value, d :: ds) else absorb (value * 10 + d) ds

def double? (n : Numeral) : Option Double := do
  let (value, dropped) := absorb 0 n.whole
  let (value, ignored) := absorb value n.fraction
  let scale : Int := (dropped.length : Int) - ((n.fraction.length : Int) - (ignored.length : Int))
  let x ← Double.ofRatio? n.negative value 1
  x.scaleByTen? (scale + n.exponent.getD 0)

/-- The number if it is written as an integer. Minus zero is not an integer. -/
def integer? (n : Numeral) : Option Int :=
  let value : Nat := n.whole.foldl (fun value d => value * 10 + d) 0
  if !n.fraction.isEmpty || n.exponent.isSome then none
  else if !n.negative then some value
  else if value = 0 then none
  else some (-value)

/-- The number of a document: an integer that fits 64 bits, signed or unsigned, or a double.
`none` when it is too large for that. -/
def number? (n : Numeral) : Option Number :=
  match n.integer? with
  | some i =>
    if Int64.minValue.toInt ≤ i && i ≤ maxWord then some (.int i) else n.double?.map .float
  | none => n.double?.map .float

end Numeral

namespace Tree

def octet (c : Char) : UInt8 := UInt8.ofNat c.toNat

def isSpace (b : UInt8) : Bool :=
  b == 0x20 || b == 0x0a || b == 0x0d || b == 0x09

def skipSpace (bytes : Bytes) : Bytes :=
  bytes.dropWhile isSpace

def digit? (b : UInt8) : Option Nat :=
  if octet '0' ≤ b && b ≤ octet '9' then some (b.toNat - 48) else none

def digits (bytes : Bytes) : List Nat × Bytes :=
  let (front, rest) := bytes.span fun b => (digit? b).isSome
  (front.map (·.toNat - 48), rest)

/-- The exponent at the front: `some none` when there is none, `none` when it has no digits. -/
def exponent? (bytes : Bytes) : Option (Option Int × Bytes) :=
  match bytes with
  | [] => some (none, [])
  | b :: rest =>
    if b == octet 'e' || b == octet 'E' then
      let (negative, rest) := match rest with
        | s :: tail =>
          if s == octet '-' then (true, tail) else (false, if s == octet '+' then tail else rest)
        | [] => (false, [])
      let (ds, rest) := digits rest
      if ds.isEmpty then none
      else
        let magnitude : Nat := ds.foldl (fun value d => value * 10 + d) 0
        some (some (if negative then -(magnitude : Int) else magnitude), rest)
    else some (none, b :: rest)

/-- The number at the front. A leading zero stands alone. -/
def numeral? (bytes : Bytes) : Option (Numeral × Bytes) := do
  let (negative, bytes) := match bytes with
    | b :: rest => if b == octet '-' then (true, rest) else (false, bytes)
    | [] => (false, [])
  let (whole, rest) := digits bytes
  if whole.isEmpty || (whole.head? == some 0 && whole.length > 1) then none
  let (fraction, rest) ← match rest with
    | b :: tail =>
      if b == octet '.' then
        let (ds, rest) := digits tail
        if ds.isEmpty then none else some (ds, rest)
      else some ([], rest)
    | [] => some ([], [])
  let (exponent, rest) ← exponent? rest
  pure (⟨negative, whole, fraction, exponent⟩, rest)

def hex4? (a b c d : UInt8) : Option Nat := do
  let value (b : UInt8) := Hex.value? (Char.ofNat b.toNat)
  pure ((← value a) * 4096 + (← value b) * 256 + (← value c) * 16 + (← value d))

def simpleEscape? (b : UInt8) : Option Char :=
  [('\x22', '\x22'), ('\\', '\\'), ('/', '/'), ('b', '\x08'),
    ('f', '\x0c'), ('n', '\n'), ('r', '\r'),
    ('t', '\t')].lookup (Char.ofNat b.toNat)

def isHighSurrogate (n : Nat) : Bool := 0xd800 ≤ n && n < 0xdc00

def isLowSurrogate (n : Nat) : Bool := 0xdc00 ≤ n && n < 0xe000

def prepend (front : Bytes) (result : Option Bytes × Bytes) : Option Bytes × Bytes :=
  (result.1.map (front ++ ·), result.2)

/-- The content of a string up to its closing quote, and what follows. The content is `none` when
an escape is half of a surrogate pair. -/
def stringBody? : Bytes → Option (Option Bytes × Bytes)
  | [] => none
  | 0x5c :: 0x75 :: a :: b :: c :: d :: 0x5c :: 0x75 :: e :: f :: g :: h :: rest =>
    match hex4? a b c d with
    | none => none
    | some first =>
      if isHighSurrogate first then
        match hex4? e f g h with
        | none => none
        | some second =>
          if isLowSurrogate second then
            let char := Char.ofNat (0x10000 + (first - 0xd800) * 0x400 + (second - 0xdc00))
            (stringBody? rest).map (prepend (String.utf8EncodeChar char))
          else (stringBody? (0x5c :: 0x75 :: e :: f :: g :: h :: rest)).map fun r => (none, r.2)
      else if isLowSurrogate first then
        (stringBody? (0x5c :: 0x75 :: e :: f :: g :: h :: rest)).map fun r => (none, r.2)
      else
        (stringBody? (0x5c :: 0x75 :: e :: f :: g :: h :: rest)).map
          (prepend (String.utf8EncodeChar (Char.ofNat first)))
  | 0x5c :: 0x75 :: a :: b :: c :: d :: rest =>
    match hex4? a b c d with
    | none => none
    | some unit =>
      if isHighSurrogate unit || isLowSurrogate unit then
        (stringBody? rest).map fun r => (none, r.2)
      else (stringBody? rest).map (prepend (String.utf8EncodeChar (Char.ofNat unit)))
  | 0x5c :: b :: rest =>
    match simpleEscape? b with
    | some c => (stringBody? rest).map (prepend (String.utf8EncodeChar c))
    | none => none
  | b :: rest =>
    if b == octet '\x22' then some (some [], rest)
    else if b < 0x20 || b == octet '\\' then none
    else (stringBody? rest).map (prepend [b])

def string? (bytes : Bytes) : Option (Option String × Bytes) :=
  (stringBody? bytes).map fun (content, rest) => (content.bind Bytes.toString?, rest)

def word? (word : String) (bytes : Bytes) : Option Bytes :=
  let front := Bytes.ofString word
  if front.isPrefixOf bytes then some (bytes.drop front.length) else none

mutual

/-- The value at the front. Each step takes one octet at least, so as much fuel as there are octets
is enough. -/
def value? : Nat → Bytes → Option (Tree × Bytes)
  | 0, _ => none
  | fuel + 1, bytes =>
    match skipSpace bytes with
    | [] => none
    | b :: rest =>
      if b == octet '\x22' then (string? rest).map fun (s, rest) => (.string s, rest)
      else if b == octet '[' then
        match skipSpace rest with
        | c :: after =>
          if c == octet ']' then some (.array [], after)
          else (items? fuel rest).map fun (items, rest) => (.array items, rest)
        | [] => none
      else if b == octet '\x7b' then
        match skipSpace rest with
        | c :: after =>
          if c == octet '\x7d' then some (.object [], after)
          else (members? fuel rest).map fun (members, rest) => (.object members, rest)
        | [] => none
      else if b == octet 'n' then (word? "null" (b :: rest)).map fun rest => (.null, rest)
      else if b == octet 't' then (word? "true" (b :: rest)).map fun rest => (.bool true, rest)
      else if b == octet 'f' then (word? "false" (b :: rest)).map fun rest => (.bool false, rest)
      else (numeral? (b :: rest)).map fun (n, rest) => (.number n, rest)

def items? : Nat → Bytes → Option (List Tree × Bytes)
  | 0, _ => none
  | fuel + 1, bytes =>
    match value? fuel bytes with
    | none => none
    | some (item, rest) =>
      match skipSpace rest with
      | c :: rest =>
        if c == octet ']' then some ([item], rest)
        else if c == octet ',' then
          (items? fuel rest).map fun (items, rest) => (item :: items, rest)
        else none
      | [] => none

def members? : Nat → Bytes → Option (List (Option String × Tree) × Bytes)
  | 0, _ => none
  | fuel + 1, bytes =>
    match skipSpace bytes with
    | q :: rest =>
      if q == octet '\x22' then
        match string? rest with
        | none => none
        | some (key, rest) =>
          match skipSpace rest with
          | c :: rest =>
            if c == octet ':' then
              match value? fuel rest with
              | none => none
              | some (value, rest) =>
                match skipSpace rest with
                | c :: rest =>
                  if c == octet '\x7d' then some ([(key, value)], rest)
                  else if c == octet ',' then
                    (members? fuel rest).map fun (members, rest) => ((key, value) :: members, rest)
                  else none
                | [] => none
            else none
          | [] => none
      else none
    | [] => none

end

def parse? (bytes : Bytes) : Option Tree :=
  match value? (2 * bytes.length + 2) bytes with
  | some (tree, rest) => if (skipSpace rest).isEmpty then some tree else none
  | none => none

/-- How deep arrays and objects may be nested in a document. -/
def maxDepth : Nat := 127

mutual

/-- The document a tree stands for, with room for so many nested arrays and objects. -/
def documentWithin? (depth : Nat) : Tree → Option Json
  | .null => some .null
  | .bool value => some (.bool value)
  | .number value => value.number?.map .number
  | .string value => value.map .string
  | .array items =>
    if depth = 0 then none else (itemsWithin? (depth - 1) items).map .array
  | .object members =>
    if depth = 0 then none else (membersWithin? (depth - 1) members).map ofMembers

def itemsWithin? (depth : Nat) : List Tree → Option (List Json)
  | [] => some []
  | item :: items => do
    let value ← documentWithin? depth item
    let values ← itemsWithin? depth items
    pure (value :: values)

def membersWithin? (depth : Nat) : List (Option String × Tree) → Option (List (String × Json))
  | [] => some []
  | (key, item) :: members => do
    let key ← key
    let value ← documentWithin? depth item
    let values ← membersWithin? depth members
    pure ((key, value) :: values)

end

def document? (tree : Tree) : Option Json :=
  documentWithin? maxDepth tree

end Tree

def parse? (bytes : Bytes) : Option Json :=
  (Tree.parse? bytes).bind Tree.document?

end ClusterClient.Json
