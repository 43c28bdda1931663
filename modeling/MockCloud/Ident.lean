/-! # Identifiers

Identifiers are made from draws: an endless supply of numbers, of which each character takes one. Which
numbers are drawn is up to the caller, so that an operation that makes an identifier is a function. -/

namespace MockCloud

/-- A supply of drawn numbers. -/
abbrev Draws := Nat → Nat

/-- The draws from the `n`-th on. -/
def Draws.from (d : Draws) (n : Nat) : Draws :=
  fun i => d (n + i)

namespace Ident

/-- Characters from an alphabet of `size` characters, one for each draw. -/
def text (alphabet : Nat → Char) (size length : Nat) (d : Draws) : String :=
  String.ofList ((List.range length).map fun i => alphabet (d i % size))

/-- Lower-case hexadecimal digits. -/
def hex (length : Nat) (d : Draws) : String :=
  text Nat.digitChar 16 length d

/-- A letter or a digit, with all letters in upper case: each letter stands for two of the sixty-two
numbers. -/
def upperChar (n : Nat) : Char :=
  if n < 26 then Char.ofNat (65 + n) else if n < 52 then Char.ofNat (39 + n) else Char.ofNat (n - 4)

/-- Upper-case letters and digits. -/
def upper (length : Nat) (d : Draws) : String :=
  text upperChar 62 length d

/-- Lower-case letters and digits. -/
def lower (length : Nat) (d : Draws) : String :=
  String.ofList ((upper length d).toList.map Char.toLower)

/-- The id of a resource: its kind, a dash, and a stem. -/
def resource (kind stem : String) : String :=
  kind ++ "-" ++ stem

/-- A stem of a resource id: seventeen hexadecimal digits. -/
def stem (d : Draws) : String :=
  hex 17 d

/-- The id of a sent message: seven groups of hexadecimal digits. -/
def message (d : Draws) : String :=
  "-".intercalate
    ([(16, 0), (8, 16), (4, 24), (4, 28), (4, 32), (12, 36), (6, 48)].map fun (length, start) =>
      hex length (d.from start))

/-- The id of a published message: five groups of hexadecimal digits, of which the third begins with the
version `4` and the fourth with one of the four digits that mark the variant. -/
def uuid (d : Draws) : String :=
  "-".intercalate [hex 8 d, hex 4 (d.from 8), "4" ++ hex 3 (d.from 12),
    hex 1 (fun _ => 8 + d 15 % 4) ++ hex 3 (d.from 16), hex 12 (d.from 19)]

end Ident

end MockCloud
