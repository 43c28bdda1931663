import MockCloud.Text.Cut

/-! # JSON texts as trees

A `Tree` is what a JSON text says before anything is read out of it: numbers are kept as their digits,
fields keep their order and their repetitions, and a text whose escapes leave half of a surrogate pair
alone is kept as `none`, because such a field can be skipped but not read.

* `Tree.render` writes a tree without any space between its parts, `Tree.renderAscii` does so in ASCII. -/

namespace MockCloud.Json

/-- A number as it is written. -/
structure Numeral where
  negative : Bool
  whole : List Char
  fraction : Option (List Char)
  /-- The sign and the digits behind `e`. -/
  exponent : Option (Bool × List Char)
  deriving DecidableEq, Repr

/-- A JSON text as a tree. -/
inductive Tree where
  | null
  | bool (b : Bool)
  | number (n : Numeral)
  | text (s : Option String)
  | list (items : List Tree)
  | fields (pairs : List (Option String × Tree))
  deriving Inhabited

/-! ### Writing -/

/-- A natural number as a numeral. -/
def Numeral.ofNat (n : Nat) : Numeral :=
  ⟨false, Nat.toDigits 10 n, none, none⟩

/-- An integer as a numeral. -/
def Numeral.ofInt (n : Int) : Numeral :=
  ⟨n < 0, Nat.toDigits 10 n.natAbs, none, none⟩

/-- The characters of a numeral. -/
def Numeral.chars (n : Numeral) : List Char :=
  (if n.negative then ['-'] else []) ++ n.whole ++
    (match n.fraction with | none => [] | some f => '.' :: f) ++
    (match n.exponent with
      | none => []
      | some (negative, e) => 'e' :: (if negative then '-' else '+') :: e)

/-- A character as it stands between quotes: quotes, backslashes and control characters are escaped,
all others stand for themselves. -/
def escaped (c : Char) : List Char :=
  if c = '"' then ['\\', '"']
  else if c = '\\' then ['\\', '\\']
  else if c = '\n' then ['\\', 'n']
  else if c = '\r' then ['\\', 'r']
  else if c = '\t' then ['\\', 't']
  else if c = '\x08' then ['\\', 'b']
  else if c = '\x0c' then ['\\', 'f']
  else if c.toNat < 0x20 then
    ['\\', 'u', '0', '0', Nat.digitChar (c.toNat / 16), Nat.digitChar (c.toNat % 16)]
  else [c]

/-- A text between quotes. -/
def quoted (s : String) : List Char :=
  '"' :: s.toList.flatMap escaped ++ ['"']

mutual

/-- The characters of a tree. -/
def Tree.chars : Tree → List Char
  | .null => ['n', 'u', 'l', 'l']
  | .bool true => ['t', 'r', 'u', 'e']
  | .bool false => ['f', 'a', 'l', 's', 'e']
  | .number n => n.chars
  | .text s => quoted (s.getD "")
  | .list items => '[' :: itemChars items ++ [']']
  | .fields pairs => '\x7b' :: fieldChars pairs ++ ['\x7d']

/-- The characters of the items of a list, with commas between them. -/
def itemChars : List Tree → List Char
  | [] => []
  | [t] => t.chars
  | t :: rest => t.chars ++ ',' :: itemChars rest

/-- The characters of the fields of an object, with commas between them. -/
def fieldChars : List (Option String × Tree) → List Char
  | [] => []
  | [(k, t)] => quoted (k.getD "") ++ ':' :: t.chars
  | (k, t) :: rest => quoted (k.getD "") ++ ':' :: t.chars ++ ',' :: fieldChars rest

end

/-- The compact JSON text of a tree. -/
def Tree.render (t : Tree) : String :=
  String.ofList t.chars

/-- The escape of a UTF-16 unit. -/
def unitEscape (n : Nat) : List Char :=
  ['\\', 'u', Nat.digitChar (n / 4096), Nat.digitChar (n / 256 % 16), Nat.digitChar (n / 16 % 16),
    Nat.digitChar (n % 16)]

/-- A character of a JSON text in printable ASCII: any other one is written as its UTF-16 units. -/
def asciiChars (c : Char) : List Char :=
  let n := c.toNat
  if 0x20 ≤ n ∧ n < 0x7F then [c]
  else if n < 0x10000 then unitEscape n
  else unitEscape (0xD800 + (n - 0x10000) / 1024) ++ unitEscape (0xDC00 + (n - 0x10000) % 1024)

/-- The compact JSON text of a tree in printable ASCII. -/
def Tree.renderAscii (t : Tree) : String :=
  String.ofList (t.chars.flatMap asciiChars)

/-! ### Building -/

/-- A text as a tree. -/
def Tree.str (s : String) : Tree :=
  .text (some s)

/-- A natural number as a tree. -/
def Tree.nat (n : Nat) : Tree :=
  .number (.ofNat n)

/-- A list of texts as a tree. -/
def Tree.strs (xs : List String) : Tree :=
  .list (xs.map .str)

/-- An object with these fields in this order. -/
def Tree.record (pairs : List (String × Tree)) : Tree :=
  .fields (pairs.map fun (k, t) => (some k, t))

/-- A value that may be absent, with `null` for its absence. -/
def Tree.option {α : Type} (f : α → Tree) : Option α → Tree
  | none => .null
  | some a => f a

end MockCloud.Json
