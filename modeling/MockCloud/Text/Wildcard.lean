/-! # Patterns with wildcards

In a pattern, `*` stands for any run of characters and `?` for any one character, neither of them for a
line feed; every other character stands for itself. A text is read once, keeping the ends of the pattern
that the rest of the text may still have to match.

* `fits` is the test; a pattern without wildcards fits only itself. -/

namespace MockCloud.Text.Wildcard

/-- The ends of a pattern at which matching may go on: a run may be empty, so a `*` may be skipped. -/
def starts : List Char → List (List Char)
  | [] => [[]]
  | c :: p => if c = '*' then (c :: p) :: starts p else [c :: p]

/-- The ends at which matching goes on after one character of the text. -/
def advance (c : Char) : List Char → List (List Char)
  | [] => []
  | d :: p =>
    if d = '*' then if c = '\n' then [] else [d :: p]
    else if d = '?' then if c = '\n' then [] else [p]
    else if c = d then [p]
    else []

/-- The ends that are left after a text. -/
def remaining (live : List (List Char)) : List Char → List (List Char)
  | [] => live
  | c :: cs => remaining ((live.flatMap (advance c)).flatMap starts).eraseDups cs

/-- Whether the text fits the pattern. -/
def fits (pattern text : List Char) : Bool :=
  (remaining (starts pattern) text).contains []

end MockCloud.Text.Wildcard
