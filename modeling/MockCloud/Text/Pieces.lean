/-! # Characters among bytes

Bytes are cut into the characters that they encode in UTF-8. A byte where no character begins is a piece
of its own, so that a reader can pass over it where it may stand and refuse it elsewhere.

* `ofBytes_utf8Encode`: the bytes of a text are cut into its characters. -/

namespace MockCloud.Text.Pieces

/-- The pieces from the byte at `i` on: characters, and `none` for a byte that begins none. -/
def ofBytesFrom (bytes : ByteArray) (i : Nat) : List (Option Char) :=
  if i < bytes.size then
    match bytes.utf8DecodeChar? i with
    | some c => some c :: ofBytesFrom bytes (i + c.utf8Size)
    | none => none :: ofBytesFrom bytes (i + 1)
  else []
termination_by bytes.size - i
decreasing_by
  · have := c.utf8Size_pos
    omega
  · omega

/-- The pieces of all bytes. -/
def ofBytes (bytes : ByteArray) : List (Option Char) :=
  ofBytesFrom bytes 0

theorem ofBytesFrom_append_utf8Encode (b : ByteArray) (cs : List Char) :
    ofBytesFrom (b ++ cs.utf8Encode) b.size = cs.map some := by
  induction cs generalizing b with
  | nil => unfold ofBytesFrom; simp
  | cons c cs ih =>
    have size : (b ++ (c :: cs).utf8Encode).size = b.size + (c :: cs).utf8Encode.size :=
      ByteArray.size_append
    have decoded : (b ++ (c :: cs).utf8Encode).utf8DecodeChar? b.size = some c := by
      rw [ByteArray.utf8DecodeChar?_eq_utf8DecodeChar?_extract,
        ByteArray.extract_append_eq_right rfl size]
      exact List.utf8DecodeChar?_utf8Encode_cons
    have rest := ih (b ++ [c].utf8Encode)
    rw [ByteArray.append_assoc, ← List.utf8Encode_append, List.singleton_append] at rest
    have one : [c].utf8Encode.size = c.utf8Size := by simp [List.utf8Encode_singleton]
    have pos := c.utf8Size_pos
    unfold ofBytesFrom
    rw [decoded, if_pos (by rw [size, List.utf8Encode_cons, ByteArray.size_append, one]; omega)]
    rw [ByteArray.size_append, one] at rest
    simp [rest]

theorem ofBytes_utf8Encode (cs : List Char) : ofBytes cs.utf8Encode = cs.map some := by
  simpa [ofBytes] using ofBytesFrom_append_utf8Encode ByteArray.empty cs

end MockCloud.Text.Pieces
