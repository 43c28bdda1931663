import MockCloud.Json.Token
import MockCloud.Text.Pieces

/-! # Trees from tokens

A tree is put together token by token. The state says what may come next and, as a stack of frames, in
which lists and fields the value being read stands. There is no bound on the depth of a tree here; a
reader that wants one states it.

* `Tree.parse?` reads a whole text, and `Tree.parseBytes?` its bytes: nothing may stand behind the value.
* `Tree.parseBytes?_toUTF8`: a text and its bytes are read alike. -/

namespace MockCloud.Json

/-- What encloses the value being read: a list with its items so far, or a field of an object with the
fields before it. Both are kept last first. -/
inductive Frame where
  | item (done : List Tree)
  | field (done : List (Option String × Tree)) (name : Option String)

/-- What may come next. -/
inductive Assembly where
  | value (within : List Frame)
  | itemOrEnd (within : List Frame)
  | afterItem (within : List Frame) (done : List Tree)
  | keyOrEnd (within : List Frame)
  | key (within : List Frame) (done : List (Option String × Tree))
  | colon (within : List Frame) (done : List (Option String × Tree)) (name : Option String)
  | afterField (within : List Frame) (done : List (Option String × Tree))
  | finished (t : Tree)

/-- A value is complete: it goes into the innermost frame. -/
def Assembly.settle (t : Tree) : List Frame → Assembly
  | [] => .finished t
  | .item done :: within => .afterItem within (t :: done)
  | .field done name :: within => .afterField within ((name, t) :: done)

/-- A token where a value must begin. -/
def Assembly.begin (within : List Frame) : Token → Option Assembly
  | .bracketOpen => some (.itemOrEnd within)
  | .braceOpen => some (.keyOrEnd within)
  | .text s => some (settle (.text s) within)
  | .atom t => some (settle t within)
  | _ => none

/-- The state after one more token. -/
def Assembly.step : Assembly → Token → Option Assembly
  | .value within, t => begin within t
  | .itemOrEnd within, .bracketClose => some (settle (.list []) within)
  | .itemOrEnd within, t => begin (.item [] :: within) t
  | .afterItem within done, .comma => some (.value (.item done :: within))
  | .afterItem within done, .bracketClose => some (settle (.list done.reverse) within)
  | .keyOrEnd within, .braceClose => some (settle (.fields []) within)
  | .keyOrEnd within, .text k => some (.colon within [] k)
  | .key within done, .text k => some (.colon within done k)
  | .colon within done k, .colon => some (.value (.field done k :: within))
  | .afterField within done, .comma => some (.key within done)
  | .afterField within done, .braceClose => some (settle (.fields done.reverse) within)
  | _, _ => none

/-- The tree of a JSON text that comes in pieces. -/
def Tree.ofPieces? (pieces : List (Option Char)) : Option Tree := do
  match ← (← tokens? pieces).foldlM Assembly.step (.value []) with
  | .finished t => some t
  | _ => none

/-- The tree of a JSON text. -/
def Tree.parse? (text : String) : Option Tree :=
  ofPieces? (text.toList.map some)

/-- The tree of a JSON text's bytes. -/
def Tree.parseBytes? (bytes : ByteArray) : Option Tree :=
  ofPieces? (Text.Pieces.ofBytes bytes)

theorem Tree.parseBytes?_toUTF8 (text : String) : parseBytes? text.toUTF8 = parse? text := by
  have bytes : text.toUTF8 = text.toList.utf8Encode := by simp [String.toUTF8]
  rw [parseBytes?, bytes, Text.Pieces.ofBytes_utf8Encode, parse?]

end MockCloud.Json
