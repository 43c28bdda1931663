import MockCloud.Page
import MockCloud.Proofs.Json.RoundTrip

/-! # Tokens read back

A token is the JSON text of a checksum and a key, in hexadecimal digits. Whatever characters the key has, a
token that was written is read as the checksum and the key from which it was made.

* `PageToken.decode?_encode`: the round trip.
* `PageRequest.start_tokenAt`: the key at which a page begins when it is asked for with such a token. -/

namespace MockCloud

theorem toList_loop (bytes : ByteArray) (i : Nat) (read : List UInt8) :
    ByteArray.toList.loop bytes i read = read.reverse ++ bytes.data.toList.drop i := by
  fun_induction ByteArray.toList.loop bytes i read with
  | case1 i read h ih =>
    have lt : i < bytes.data.toList.length := by simpa using h
    have get : bytes.get! i = bytes.data.toList[i] := by
      simp [ByteArray.get!, getElem!_pos bytes.data i (by simpa using h)]
    rw [ih, List.drop_eq_getElem_cons lt, get]
    simp
  | case2 i read h =>
    rw [List.drop_eq_nil_of_le (by simpa using h), List.append_nil]

theorem toArray_bytesOf (text : String) : ByteArray.mk (bytesOf text).toArray = text.toUTF8 := by
  rw [bytesOf, ByteArray.toList, toList_loop]
  rfl

namespace PageToken

theorem clean_tree (t : PageToken) : t.tree.Clean := by
  refine .record fun p hp => ?_
  simp only [List.mem_cons, List.not_mem_nil, or_false] at hp
  rcases hp with rfl | rfl
  · exact .str _
  · exact .str _

/-- **A token that is written reads back as itself**, whatever its key. -/
theorem decode?_encode (t : PageToken) : decode? t.encode = some t := by
  have parsed : Json.Tree.parseBytes? (ByteArray.mk (bytesOf t.tree.render).toArray) = some t.tree := by
    rw [toArray_bytesOf, Json.Tree.parseBytes?_toUTF8, Json.Tree.parse?_render t.clean_tree]
  unfold decode? encode
  rw [String.toList_ofList, Text.Hex.decode?_encode]
  simp only [Option.bind_eq_bind, Option.bind_some, parsed]
  rfl

end PageToken

/-- The token for the page that begins at a key, if there is one. -/
def tokenAt (checksum : String) (start : Option String) : Option String :=
  start.map fun key => PageToken.encode ⟨checksum, key⟩

theorem PageRequest.start_tokenAt (maxResults : Option Nat) (checksum : String) (start : Option String) :
    PageRequest.start ⟨maxResults, tokenAt checksum start⟩ checksum = .ok start := by
  cases start with
  | none => rfl
  | some key => simp [PageRequest.start, tokenAt, PageToken.decode?_encode]

end MockCloud
