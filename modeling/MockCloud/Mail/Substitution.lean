import MockCloud.Json.Value
import MockCloud.Text.Blank

/-! # Substitution

A part of a template is text with holes. A hole is a path between double braces, with blank space around it
if the writer likes; the path is made of ASCII letters, digits, `_`, `.` and `-`. Filling a part puts the
value at the path into each hole; what has been put in is not looked at again.

* `segments` finds the holes, from left to right and without overlap.
* `substitute` fills them, and fails at the first path that has no value. -/

namespace MockCloud.Mail

/-- A character of a path. -/
def isPathChar (c : Char) : Bool :=
  c.isAlphanum || c = '_' || c = '.' || c = '-'

/-- The path of a hole at the front of the text, and the text behind the hole. -/
def hole? (cs : List Char) : Option (List Char × List Char) := do
  let cs ← Text.after? ['\x7b', '\x7b'] cs
  let cs := Text.trimStart cs
  let path := cs.takeWhile isPathChar
  if path.isEmpty then none
  let cs := Text.trimStart (cs.dropWhile isPathChar)
  let rest ← Text.after? ['\x7d', '\x7d'] cs
  return (path, rest)

theorem length_dropWhile_le (p : Char → Bool) (cs : List Char) : (cs.dropWhile p).length ≤ cs.length := by
  induction cs with
  | nil => simp
  | cons c cs ih =>
    rw [List.dropWhile_cons]
    split
    · exact Nat.le_succ_of_le ih
    · exact Nat.le_refl _

theorem length_of_after? {start cs rest : List Char} (h : Text.after? start cs = some rest) :
    rest.length = cs.length - start.length := by
  rw [Text.after?_eq_some_iff.1 h, List.length_append, Nat.add_sub_cancel_left]

/-- What follows a hole is shorter than the text that begins with it. -/
theorem length_of_hole? {cs path rest : List Char} (h : hole? cs = some (path, rest)) :
    rest.length < cs.length := by
  simp only [hole?, Option.bind_eq_bind, Option.bind_eq_some_iff] at h
  obtain ⟨cs₁, h₁, h⟩ := h
  split at h
  · cases h
  · next hne =>
    simp only [Option.pure_def, Option.bind_eq_some_iff, Option.some.injEq, Prod.mk.injEq] at h
    obtain ⟨rest', h₂, -, rfl⟩ := h
    have l₁ := length_of_after? h₁
    have l₂ := length_of_after? h₂
    have a := length_dropWhile_le Text.isBlank cs₁
    have b := length_dropWhile_le isPathChar (Text.trimStart cs₁)
    have c := length_dropWhile_le Text.isBlank ((Text.trimStart cs₁).dropWhile isPathChar)
    have p : (Text.trimStart cs₁).takeWhile isPathChar ≠ [] := fun e => hne (by simp [e])
    have q : 0 < (Text.trimStart cs₁).length := by
      cases hc : Text.trimStart cs₁ with
      | nil => simp [hc] at p
      | cons => simp
    simp only [Text.trimStart, List.length_cons, List.length_nil] at *
    omega

/-- A piece of a part: a character that stands for itself, or a hole. -/
inductive Segment where
  | char (c : Char)
  | hole (path : List Char)
  deriving DecidableEq, Repr

/-- The pieces of a part. -/
def segments (cs : List Char) : List Segment :=
  match cs with
  | [] => []
  | c :: rest =>
    match _h : hole? (c :: rest) with
    | some (path, behind) => .hole path :: segments behind
    | none => .char c :: segments rest
termination_by cs.length
decreasing_by
  · exact length_of_hole? _h
  · simp

/-- The value at a path whose steps are separated by dots; each step is the name of a field. -/
def lookup? (data : Json.Value) (path : List Char) : Option Json.Value :=
  (path.splitOn '.').foldlM (fun value step => value.field? (String.ofList step)) data

/-- What is put into a hole: a text as it is, anything else as JSON. -/
def holeText? (data : Json.Value) (path : List Char) : Option (List Char) :=
  match lookup? data path with
  | some (.text s) => some s.toList
  | some .null | none => none
  | some v => some v.toTree.chars

/-- The pieces put together, or the first path without a value. -/
def fill (data : Json.Value) : List Segment → Except String (List Char)
  | [] => .ok []
  | .char c :: rest => (fill data rest).map (c :: ·)
  | .hole path :: rest =>
    match holeText? data path with
    | none => .error (String.ofList path)
    | some text => (fill data rest).map (text ++ ·)

/-- A part with its holes filled, or the first path without a value. -/
def substitute (part : String) (data : Json.Value) : Except String String :=
  (fill data (segments part.toList)).map String.ofList

end MockCloud.Mail
