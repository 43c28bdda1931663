/-! # Blank characters and trimming

The blank characters are the twenty-five code points with the Unicode property `White_Space`. Text is
handled as a list of characters here; `trimmed` is the same for a `String`.

* `trim` removes the blank characters at both ends and keeps everything between them. -/

namespace MockCloud.Text

/-- A character with the property `White_Space`. -/
def isBlank (c : Char) : Bool :=
  let n := c.toNat
  (9 ≤ n && n ≤ 13) || n == 0x20 || n == 0x85 || n == 0xA0 || n == 0x1680 ||
    (0x2000 ≤ n && n ≤ 0x200A) || n == 0x2028 || n == 0x2029 || n == 0x202F || n == 0x205F ||
    n == 0x3000

/-- The text from its first character that is not blank. -/
def trimStart (cs : List Char) : List Char :=
  cs.dropWhile isBlank

/-- The text up to its last character that is not blank. -/
def trimEnd (cs : List Char) : List Char :=
  (cs.reverse.dropWhile isBlank).reverse

/-- The text without the blank characters at its ends. -/
def trim (cs : List Char) : List Char :=
  trimEnd (trimStart cs)

/-- The string without the blank characters at its ends. -/
def trimmed (s : String) : String :=
  String.ofList (trim s.toList)

end MockCloud.Text
