import MockCloud.Json.Tree
import MockCloud.Text.Hex

/-! # The tokens of a JSON text

A scanner reads a JSON text one character at a time. Its state says what it stands in the middle of: a
word, a numeral, a text, an escape. Blank space between tokens is a space, a tab, a line feed or a
carriage return. A control character inside a text, an unknown word and a misshapen numeral stop it.
Where the JSON text comes as bytes, some of them may begin no character; such bytes may only stand inside
a text, which then has no content.

* `Scanner.step` is one character, `tokens?` the run over a whole text.
* `Body` collects a text; two `\u` escapes in a row may be the halves of one character. -/

namespace MockCloud.Json

/-- A token. Everything that is a value by itself and is not a text comes as an `atom`. -/
inductive Token where
  | bracketOpen
  | bracketClose
  | braceOpen
  | braceClose
  | colon
  | comma
  | text (s : Option String)
  | atom (t : Tree)

/-! ### Numerals -/

/-- The digits at the front of the text, at least one of them, and the rest. -/
def digits? (cs : List Char) : Option (List Char × List Char) :=
  match cs.takeWhile Char.isDigit with
  | [] => none
  | ds => some (ds, cs.dropWhile Char.isDigit)

/-- The part of a numeral behind its fraction. -/
def exponent? : List Char → Option (Option (Bool × List Char))
  | [] => some none
  | e :: cs =>
    if e = 'e' ∨ e = 'E' then
      let (negative, cs) := match cs with
        | '-' :: cs => (true, cs)
        | '+' :: cs => (false, cs)
        | cs => (false, cs)
      match digits? cs with
      | some (ds, []) => some (some (negative, ds))
      | _ => none
    else none

/-- A numeral: a sign, digits without a needless zero in front, a fraction, an exponent. -/
def Numeral.ofChars? (cs : List Char) : Option Numeral := do
  let (negative, cs) := match cs with
    | '-' :: cs => (true, cs)
    | cs => (false, cs)
  let (whole, cs) ← digits? cs
  if whole.head? = some '0' ∧ whole.length ≠ 1 then none
  let (fraction, cs) ← match cs with
    | '.' :: cs => do
      let (ds, cs) ← digits? cs
      pure (some ds, cs)
    | cs => pure (none, cs)
  let exponent ← exponent? cs
  return ⟨negative, whole, fraction, exponent⟩

/-- A character that may stand in a numeral. -/
def isNumeralChar (c : Char) : Bool :=
  c.isDigit || c = '-' || c = '+' || c = '.' || c = 'e' || c = 'E'

/-! ### Texts -/

/-- A text being collected, the last character first. -/
structure Body where
  chars : List Char
  /-- The first half of a pair of escapes whose second half must follow at once. -/
  half : Option Nat
  /-- Whether some half was left alone or some byte began no character. -/
  broken : Bool

/-- The text before its first character. -/
def Body.empty : Body :=
  ⟨[], none, false⟩

/-- The text with one more character. -/
def Body.push (b : Body) (c : Char) : Body :=
  ⟨c :: b.chars, none, b.broken || b.half.isSome⟩

/-- The text with one more unit of sixteen bits, as `\u` escapes give it. -/
def Body.pushUnit (b : Body) (n : Nat) : Body :=
  if 0xD800 ≤ n ∧ n < 0xDC00 then ⟨b.chars, some n, b.broken || b.half.isSome⟩
  else if 0xDC00 ≤ n ∧ n < 0xE000 then
    match b.half with
    | some h => ⟨Char.ofNat (0x10000 + (h - 0xD800) * 0x400 + (n - 0xDC00)) :: b.chars, none, b.broken⟩
    | none => { b with broken := true }
  else b.push (Char.ofNat n)

/-- The text that was collected, unless it is broken or ends in a first half. -/
def Body.text (b : Body) : Option String :=
  if b.broken || b.half.isSome then none else some (String.ofList b.chars.reverse)

/-- The character that a letter behind a backslash stands for. -/
def unescaped? (c : Char) : Option Char :=
  if c = '"' then some '"'
  else if c = '\\' then some '\\'
  else if c = '/' then some '/'
  else if c = 'b' then some '\x08'
  else if c = 'f' then some '\x0c'
  else if c = 'n' then some '\n'
  else if c = 'r' then some '\r'
  else if c = 't' then some '\t'
  else none

/-! ### The scanner -/

/-- What the scanner stands in the middle of. -/
inductive Scanner.Mode where
  | between
  | word (letters : List Char)
  | numeral (chars : List Char)
  | text (body : Body)
  | escape (body : Body)
  | unit (body : Body) (missing : Nat) (value : Nat)

/-- The scanner's state: where it stands, and the tokens that it has read, the last one first. -/
structure Scanner where
  mode : Scanner.Mode
  read : List Token

/-- The scanner before the first character. -/
def Scanner.start : Scanner :=
  ⟨.between, []⟩

/-- The value that a word stands for. -/
def word? (letters : List Char) : Option Tree :=
  if letters = ['n', 'u', 'l', 'l'] then some .null
  else if letters = ['t', 'r', 'u', 'e'] then some (.bool true)
  else if letters = ['f', 'a', 'l', 's', 'e'] then some (.bool false)
  else none

/-- A character between two tokens. -/
def Scanner.begin (read : List Token) (c : Char) : Option Scanner :=
  if c = ' ' ∨ c = '\t' ∨ c = '\n' ∨ c = '\r' then some ⟨.between, read⟩
  else if c = '[' then some ⟨.between, .bracketOpen :: read⟩
  else if c = ']' then some ⟨.between, .bracketClose :: read⟩
  else if c = '\x7b' then some ⟨.between, .braceOpen :: read⟩
  else if c = '\x7d' then some ⟨.between, .braceClose :: read⟩
  else if c = ':' then some ⟨.between, .colon :: read⟩
  else if c = ',' then some ⟨.between, .comma :: read⟩
  else if c = '"' then some ⟨.text .empty, read⟩
  else if c = '-' || c.isDigit then some ⟨.numeral [c], read⟩
  else if c.isLower then some ⟨.word [c], read⟩
  else none

/-- The tokens once a word or a numeral has ended; nothing if a text is still open. -/
def Scanner.close (s : Scanner) : Option (List Token) :=
  match s.mode with
  | .between => some s.read
  | .word letters => (word? letters.reverse).map fun t => .atom t :: s.read
  | .numeral cs => (Numeral.ofChars? cs.reverse).map fun n => .atom (.number n) :: s.read
  | _ => none

/-- The scanner after one more character. -/
def Scanner.step (s : Scanner) (c : Char) : Option Scanner :=
  match s.mode with
  | .between => begin s.read c
  | .word letters =>
    if c.isLower then some ⟨.word (c :: letters), s.read⟩
    else s.close.bind fun read => begin read c
  | .numeral cs =>
    if isNumeralChar c then some ⟨.numeral (c :: cs), s.read⟩
    else s.close.bind fun read => begin read c
  | .text b =>
    if c = '"' then some ⟨.between, .text b.text :: s.read⟩
    else if c = '\\' then some ⟨.escape b, s.read⟩
    else if c.toNat < 0x20 then none
    else some ⟨.text (b.push c), s.read⟩
  | .escape b =>
    if c = 'u' then some ⟨.unit b 4 0, s.read⟩
    else (unescaped? c).map fun d => ⟨.text (b.push d), s.read⟩
  | .unit b missing value =>
    (Text.Hex.value? c).map fun d =>
      let value := 16 * value + d
      if missing ≤ 1 then ⟨.text (b.pushUnit value), s.read⟩ else ⟨.unit b (missing - 1) value, s.read⟩

/-- The scanner after a byte that begins no character. -/
def Scanner.stray (s : Scanner) : Option Scanner :=
  match s.mode with
  | .text b => some ⟨.text { b with broken := true }, s.read⟩
  | _ => none

/-- The scanner after one more piece of the text. -/
def Scanner.piece (s : Scanner) : Option Char → Option Scanner
  | some c => s.step c
  | none => s.stray

/-- The tokens of a text in order. -/
def tokens? (pieces : List (Option Char)) : Option (List Token) := do
  let s ← pieces.foldlM Scanner.piece .start
  let read ← s.close
  return read.reverse

end MockCloud.Json
