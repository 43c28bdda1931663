import MockCloud.Json.Number
import MockCloud.Json.Parse
import MockCloud.SortedMap

/-! # JSON values

A value is what a JSON text means: numbers have a value, every text is whole, and the fields of an object
stand in the order of their names, each name once. When a text repeats a name, its last field counts.
Lists and objects may stand inside each other 127 deep.

* `Value.ofTree?` is the meaning of a tree, `Value.toTree` the tree that writes a value. -/

namespace MockCloud.Json

/-- What a JSON text means. -/
inductive Value where
  | null
  | bool (b : Bool)
  | number (n : Number)
  | text (s : String)
  | list (items : List Value)
  | object (fields : List (String × Value))
  deriving Inhabited

/-- How deep lists and objects may stand inside each other. -/
def depthLimit : Nat := 127

/-! ### Reading -/

mutual

/-- The meaning of a tree in which lists and objects stand at most `depth` deep. -/
def Value.ofTreeWithin? (depth : Nat) : Tree → Option Value
  | .null => some .null
  | .bool b => some (.bool b)
  | .number n => (Number.ofNumeral? n).map .number
  | .text s => s.map .text
  | .list items => if depth = 0 then none else (itemsOfTrees? (depth - 1) items).map .list
  | .fields pairs => if depth = 0 then none else (fieldsOfTrees? (depth - 1) [] pairs).map .object

/-- The meanings of the items of a list. -/
def itemsOfTrees? (depth : Nat) : List Tree → Option (List Value)
  | [] => some []
  | t :: rest => do
    let v ← Value.ofTreeWithin? depth t
    let vs ← itemsOfTrees? depth rest
    return v :: vs

/-- The fields in `done` with those of an object put over them. -/
def fieldsOfTrees? (depth : Nat) (done : List (String × Value)) :
    List (Option String × Tree) → Option (List (String × Value))
  | [] => some done
  | (k, t) :: rest => do
    let v ← Value.ofTreeWithin? depth t
    let k ← k
    fieldsOfTrees? depth (SortedMap.put k v done) rest

end

/-- The meaning of a tree. -/
def Value.ofTree? (t : Tree) : Option Value :=
  ofTreeWithin? depthLimit t

/-- The meaning of a JSON text. -/
def Value.parse? (text : String) : Option Value :=
  (Tree.parse? text).bind ofTree?

/-! ### Writing -/

mutual

/-- The tree that writes a value. -/
def Value.toTree : Value → Tree
  | .null => .null
  | .bool b => .bool b
  | .number n => .number n.numeral
  | .text s => .str s
  | .list items => .list (treesOfItems items)
  | .object fields => .fields (treesOfFields fields)

/-- The trees that write the items of a list. -/
def treesOfItems : List Value → List Tree
  | [] => []
  | v :: rest => v.toTree :: treesOfItems rest

/-- The trees that write the fields of an object. -/
def treesOfFields : List (String × Value) → List (Option String × Tree)
  | [] => []
  | (k, v) :: rest => (some k, v.toTree) :: treesOfFields rest

end

/-- The compact JSON text of a value. -/
def Value.render (v : Value) : String :=
  v.toTree.render

/-! ### Looking inside -/

/-- The field of an object with this name. -/
def Value.field? (name : String) : Value → Option Value
  | .object fields => (fields.find? (·.1 == name)).map (·.2)
  | _ => none

/-- An object with these fields. -/
def Value.ofFields (pairs : List (String × Value)) : Value :=
  .object (pairs.foldl (fun done (k, v) => SortedMap.put k v done) [])

/-- A list of texts as a value. -/
def Value.texts (xs : List String) : Value :=
  .list (xs.map .text)

end MockCloud.Json
