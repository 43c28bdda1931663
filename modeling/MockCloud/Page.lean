import MockCloud.Digest.Sha256
import MockCloud.Fault
import MockCloud.Json.Record
import MockCloud.Text.Hex

/-! # Pages

A listing is handed out in pages. Each call lists everything anew, ordered by a key; the token of the
next page holds the key of its first item, so that a listing goes on at the right place although items came
and went in between. A token also holds a checksum of the call's parameters, and a call with other
parameters refuses it.

* `paginate` cuts one page out of a listing, `follow` and `collectAll` follow the tokens to the end.
* `PageToken.encode` writes a token as the hexadecimal form of a JSON text, `PageToken.decode?` reads it. -/

namespace MockCloud

/-- How many items a page of one listing holds. -/
structure PageLimits where
  /-- The size of a page when the caller asks for none. -/
  usual : Nat := 100
  /-- The largest size that a caller can ask for. -/
  most : Nat := 1000
  deriving DecidableEq, Repr

/-- The size of a page: what is asked for, within `1` and the largest size. -/
def PageLimits.size (l : PageLimits) (requested : Option Nat) : Nat :=
  max 1 (min (requested.getD l.usual) (max l.most 1))

/-- What a caller asks for. -/
structure PageRequest where
  maxResults : Option Nat := none
  nextToken : Option String := none
  deriving DecidableEq, Repr

/-- A part of a listing. -/
structure Page (α : Type) where
  items : List α
  /-- The token of the next page, if there is one. -/
  nextToken : Option String
  deriving DecidableEq, Repr

/-- The page with `f` applied to its items. -/
def Page.map {α β : Type} (f : α → β) (p : Page α) : Page β :=
  ⟨p.items.map f, p.nextToken⟩

/-- The request for the page behind `p`. -/
def PageRequest.next {α : Type} (r : PageRequest) (p : Page α) : Option PageRequest :=
  p.nextToken.map fun token => ⟨r.maxResults, some token⟩

/-- A token that is refused. -/
inductive PageError where
  | invalidToken
  | inconsistentParameters (reason : String)
  deriving DecidableEq, Repr

/-- The text of the error. -/
def PageError.message : PageError → String
  | invalidToken => "Invalid token"
  | inconsistentParameters reason => "Input inconsistent with page token: " ++ reason

instance : Fault PageError where
  kind _ := .validationError
  code
    | .invalidToken => "InvalidToken"
    | .inconsistentParameters _ => "InvalidParameterException"
  message := PageError.message

/-! ### Tokens -/

/-- The bytes of a text. -/
def bytesOf (text : String) : List UInt8 :=
  text.toUTF8.toList

/-- The first eight bytes of the hash of the parameters' JSON text. -/
def parameterChecksum (params : Json.Tree) : String :=
  String.ofList (Text.Hex.encode ((Digest.Sha256.digest (bytesOf params.render)).take 8))

/-- What a token says. -/
structure PageToken where
  parameterChecksum : String
  uniqueAttribute : String
  deriving DecidableEq, Repr

/-- The JSON text of a token. -/
def PageToken.tree (t : PageToken) : Json.Tree :=
  .record [("parameterChecksum", .str t.parameterChecksum), ("uniqueAttribute", .str t.uniqueAttribute)]

/-- The token as text. -/
def PageToken.encode (t : PageToken) : String :=
  String.ofList (Text.Hex.encode (bytesOf t.tree.render))

/-- Reads a token. -/
def PageToken.decode? (text : String) : Option PageToken := do
  let bytes ← Text.Hex.decode? text.toList
  let tree ← Json.Tree.parseBytes? (ByteArray.mk bytes.toArray)
  match ← tree.record? ["parameterChecksum", "uniqueAttribute"] with
  | [checksum, unique] =>
    return ⟨← Json.required Json.Tree.text? checksum, ← Json.required Json.Tree.text? unique⟩
  | _ => none

/-! ### Pages -/

section

variable {α : Type}

/-- The items in the order of their keys; items with one key keep their order. -/
def sortByKey (key : α → String) (items : List α) : List α :=
  items.mergeSort fun a b => key a ≤ key b

/-- The key at which the page begins, if the request has a token for these parameters. -/
def PageRequest.start (r : PageRequest) (checksum : String) : Except PageError (Option String) :=
  match r.nextToken with
  | none => .ok none
  | some text =>
    match PageToken.decode? text with
    | none => .error .invalidToken
    | some t =>
      if t.parameterChecksum = checksum then .ok (some t.uniqueAttribute)
      else .error (.inconsistentParameters "filter parameters changed")

/-- The sorted items from the first one whose key is not before `start`. -/
def itemsFrom (key : α → String) (items : List α) : Option String → List α
  | none => items
  | some start => items.dropWhile fun a => key a < start

/-- The first `size` items, and the token for the rest. -/
def firstPage (key : α → String) (checksum : String) (size : Nat) (items : List α) : Page α :=
  ⟨items.take size, (items.drop size).head?.map fun a => PageToken.encode ⟨checksum, key a⟩⟩

/-- The page of a listing that the request asks for. -/
def paginate (items : List α) (request : PageRequest) (limits : PageLimits) (params : Json.Tree)
    (key : α → String) : Except PageError (Page α) :=
  let checksum := parameterChecksum params
  (request.start checksum).map fun start =>
    firstPage key checksum (limits.size request.maxResults) (itemsFrom key (sortByKey key items) start)

/-- Follows the tokens of a listing for at most `fuel` pages; `none` when there are more. -/
def follow {ε : Type} (fetch : PageRequest → Except ε (Page α)) :
    Nat → PageRequest → Option (Except ε (List (Page α)))
  | 0, _ => none
  | fuel + 1, request =>
    match fetch request with
    | .error e => some (.error e)
    | .ok page =>
      match request.next page with
      | none => some (.ok [page])
      | some next => (follow fetch fuel next).map fun rest => rest.map (page :: ·)

/-- All pages of a listing, one behind the other; `none` when the tokens never come to an end, which they
do not once one page's worth of items share a key with the next. -/
def collectAll (items : List α) (size : Nat) (params : Json.Tree) (key : α → String) :
    Option (Except PageError (List α)) :=
  (follow (fun request => paginate items request ⟨size, size⟩ params key) (items.length + 1)
    ⟨some size, none⟩).map fun pages => pages.map fun pages => pages.flatMap Page.items

end

end MockCloud
