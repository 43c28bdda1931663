import MockCloud.Json.Parse

/-! # Reading records from JSON trees

A record with named fields is written as an object, or as the list of its fields in their order. An
object may hold further fields, which are skipped whatever they contain, but no field of the record twice;
a list may stop early, but holds nothing more. Either way `record?` gives one tree for each named field, or
`none` where the field is missing, and the reader of the record says what a missing field means.

* `required`, `optional` and `orElse` are the three meanings of a missing field. -/

namespace MockCloud.Json

/-- The text of a tree that is one. -/
def Tree.text? : Tree → Option String
  | .text s => s
  | _ => none

/-- The number of a tree that is a natural number of at most thirty-two bits. -/
def Tree.nat32? : Tree → Option UInt32
  | .number ⟨false, whole, none, none⟩ =>
    let n := Nat.ofDigitChars 10 whole 0
    if n < 0x100000000 then some (UInt32.ofNat n) else none
  | _ => none

/-- The items of a tree that is a list, each read by `read`. -/
def Tree.list? {α : Type} (read : Tree → Option α) : Tree → Option (List α)
  | .list items => items.mapM read
  | _ => none

/-- The fields of a tree that is an object, each read by `read`. -/
def Tree.pairs? {α : Type} (read : Tree → Option α) : Tree → Option (List (String × α))
  | .fields pairs => pairs.mapM fun (k, t) => do return (← k, ← read t)
  | _ => none

/-- The trees of the named fields. -/
def Tree.record? (names : List String) : Tree → Option (List (Option Tree))
  | .fields pairs =>
    if pairs.all (·.1.isSome) && names.all fun name => pairs.countP (·.1 == some name) ≤ 1 then
      some (names.map fun name => (pairs.find? (·.1 == some name)).map (·.2))
    else none
  | .list items =>
    if items.length ≤ names.length then
      some (items.map some ++ List.replicate (names.length - items.length) none)
    else none
  | _ => none

/-- A field that must be there. -/
def required {α : Type} (read : Tree → Option α) : Option Tree → Option α
  | none => none
  | some t => read t

/-- A field that may be missing or `null`. -/
def optional {α : Type} (read : Tree → Option α) : Option Tree → Option (Option α)
  | none => some none
  | some .null => some none
  | some t => (read t).map some

/-- A field that stands for `usual` when it is missing. -/
def orElse {α : Type} (usual : α) (read : Tree → Option α) : Option Tree → Option α
  | none => some usual
  | some t => read t

end MockCloud.Json
