import MockCloud.Fault
import MockCloud.Json.Value
import MockCloud.Page
import MockCloud.Tag

/-! # The JSON form of things

`ToTree` gives the JSON tree that shows a thing. What is absent is shown as `null`, a map as an object, a
structure as an object with its fields. -/

namespace MockCloud.Json

/-- Things with a JSON form. -/
class ToTree (α : Type) where
  toTree : α → Tree

export ToTree (toTree)

variable {α β : Type} [ToTree α] [ToTree β]

instance : ToTree Tree := ⟨fun t => t⟩

instance : ToTree Value := ⟨Value.toTree⟩

instance : ToTree Unit := ⟨fun _ => .null⟩

instance : ToTree Bool := ⟨.bool⟩

instance : ToTree Nat := ⟨.nat⟩

instance : ToTree Int := ⟨fun n => .number (.ofInt n)⟩

instance : ToTree UInt32 := ⟨fun n => .nat n.toNat⟩

instance : ToTree String := ⟨.str⟩

instance : ToTree (Option α) := ⟨Tree.option toTree⟩

instance : ToTree (List α) := ⟨fun xs => .list (xs.map toTree)⟩

/-- A pair is shown as a list of two. -/
instance : ToTree (α × β) := ⟨fun (a, b) => .list [toTree a, toTree b]⟩

instance : ToTree (SortedMap α) := ⟨fun m => .record (m.entries.map fun (k, a) => (k, toTree a))⟩

instance : ToTree Tag := ⟨fun t => .record [("key", .str t.key), ("value", .str t.value)]⟩

instance : ToTree (Page α) :=
  ⟨fun p => .record [("items", toTree p.items), ("next_token", toTree p.nextToken)]⟩

instance : ToTree FaultDetails :=
  ⟨fun d => .record [("error", .str d.kind.name), ("code", .str d.code), ("status", .nat d.status),
    ("message", .str d.message)]⟩

end MockCloud.Json
