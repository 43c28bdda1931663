import MockCloud.Json.Value
import MockCloud.Proofs.Json.RoundTrip

/-! # Written values read back

A value is written as a tree with the fields of every object in the order of their names, and reading puts
the fields of an object into that order. So a value whose objects are in order already reads back as itself,
as long as it is not too deep for a reader and its numbers read back.

* `Value.Plain depth v`: such a value.
* `Value.parse?_render`: its text reads back.
* `Value.Plain.ofFields`: an object that is made field by field is in order, whatever the order of the making. -/

namespace MockCloud.Json

/-- The number reads back from the numeral by which it is written. -/
structure Number.Plain (n : Number) : Prop where
  clean : n.numeral.Clean
  read : ofNumeral? n.numeral = some n

/-- A value in which lists and objects stand at most `depth` deep, every object has its fields in order, and
every number reads back. -/
inductive Value.Plain : Nat → Value → Prop
  | null {depth : Nat} : Plain depth .null
  | bool {depth : Nat} (b : Bool) : Plain depth (.bool b)
  | number {depth : Nat} {n : Number} (h : n.Plain) : Plain depth (.number n)
  | text {depth : Nat} (s : String) : Plain depth (.text s)
  | list {depth : Nat} {items : List Value} (h : ∀ v ∈ items, Plain depth v) : Plain (depth + 1) (.list items)
  | object {depth : Nat} {fields : List (String × Value)} (sorted : fields.Pairwise fun a b => a.1 < b.1)
      (h : ∀ f ∈ fields, Plain depth f.2) : Plain (depth + 1) (.object fields)

theorem treesOfItems_eq (items : List Value) : treesOfItems items = items.map Value.toTree := by
  induction items with
  | nil => rfl
  | cons v items ih => rw [treesOfItems, ih, List.map_cons]

theorem treesOfFields_eq (fields : List (String × Value)) :
    treesOfFields fields = fields.map fun f => (some f.1, f.2.toTree) := by
  induction fields with
  | nil => rfl
  | cons f fields ih =>
    obtain ⟨k, v⟩ := f
    rw [treesOfFields, ih, List.map_cons]

namespace Value.Plain

theorem clean_toTree {depth : Nat} {v : Value} (h : v.Plain depth) : v.toTree.Clean := by
  induction h with
  | null => exact .null
  | bool b => exact .bool b
  | number h => exact .number h.clean
  | text s => exact .str s
  | list _ ih =>
    rw [Value.toTree, treesOfItems_eq]
    refine .list fun t ht => ?_
    obtain ⟨v, hv, rfl⟩ := List.mem_map.1 ht
    exact ih v hv
  | object _ _ ih =>
    rw [Value.toTree, treesOfFields_eq]
    refine .fields (fun p hp => ?_) fun p hp => ?_ <;> obtain ⟨f, hf, rfl⟩ := List.mem_map.1 hp
    · exact ⟨f.1, rfl⟩
    · exact ih f hf

end Value.Plain

/-- A field behind all others is put at the end. -/
theorem put_of_lt {fields : List (String × Value)} {k : String} (v : Value) (h : ∀ f ∈ fields, f.1 < k) :
    SortedMap.put k v fields = fields ++ [(k, v)] := by
  induction fields with
  | nil => rfl
  | cons f fields ih =>
    have first : f.1 < k := h f (by simp)
    rw [SortedMap.put, if_neg (String.lt_asymm first), if_pos first, ih fun g hg => h g (by simp [hg]),
      List.cons_append]

theorem itemsOfTrees?_map {depth : Nat} {items : List Value}
    (h : ∀ v ∈ items, Value.ofTreeWithin? depth v.toTree = some v) :
    itemsOfTrees? depth (items.map Value.toTree) = some items := by
  induction items with
  | nil => rfl
  | cons v items ih =>
    rw [List.map_cons, itemsOfTrees?, h v (by simp), ih fun w hw => h w (by simp [hw])]
    rfl

theorem fieldsOfTrees?_map {depth : Nat} {done fields : List (String × Value)}
    (sorted : (done ++ fields).Pairwise fun a b => a.1 < b.1)
    (h : ∀ f ∈ fields, Value.ofTreeWithin? depth f.2.toTree = some f.2) :
    fieldsOfTrees? depth done (fields.map fun f => (some f.1, f.2.toTree)) = some (done ++ fields) := by
  induction fields generalizing done with
  | nil => rw [List.append_nil]; rfl
  | cons f fields ih =>
    have behind : ∀ g ∈ done, g.1 < f.1 := fun g hg => (List.pairwise_append.1 sorted).2.2 g hg f (by simp)
    have next : (done ++ [f]) ++ fields = done ++ f :: fields := by simp
    rw [List.map_cons, fieldsOfTrees?, h f (by simp)]
    show fieldsOfTrees? depth (SortedMap.put f.1 f.2 done) _ = _
    rw [put_of_lt f.2 behind, ih (next ▸ sorted) fun g hg => h g (by simp [hg]), next]

namespace Value

/-- **The tree of a plain value means the value.** -/
theorem Plain.ofTree_toTree {depth : Nat} {v : Value} (h : v.Plain depth) : ofTreeWithin? depth v.toTree = some v := by
  induction h with
  | null => rfl
  | bool b => rfl
  | number h => rw [toTree, ofTreeWithin?, h.read]; rfl
  | text s => rfl
  | list _ ih =>
    rw [toTree, treesOfItems_eq, ofTreeWithin?, if_neg (Nat.succ_ne_zero _), Nat.add_sub_cancel,
      itemsOfTrees?_map ih]
    rfl
  | object sorted _ ih =>
    rw [toTree, treesOfFields_eq, ofTreeWithin?, if_neg (Nat.succ_ne_zero _), Nat.add_sub_cancel,
      @fieldsOfTrees?_map _ [] _ sorted ih]
    rfl

/-- **The text of a plain value reads back as the value.** -/
theorem parse?_render {v : Value} (h : v.Plain depthLimit) : parse? v.render = some v := by
  rw [parse?, render, Tree.parse?_render h.clean_toTree, Option.bind_some, ofTree?, h.ofTree_toTree]

/-! ### Objects made field by field -/

theorem ofFields_eq (pairs : List (String × Value)) : ofFields pairs = .object (SortedMap.ofList pairs).entries := by
  have put (m : SortedMap Value) : (m.insertAll pairs).entries =
      pairs.foldl (fun done p => SortedMap.put p.1 p.2 done) m.entries := by
    unfold SortedMap.insertAll
    induction pairs generalizing m with
    | nil => rfl
    | cons p pairs ih => rw [List.foldl_cons, List.foldl_cons, ih]; rfl
  rw [ofFields, SortedMap.ofList, put]
  rfl

/-- Of several fields of one name the last one counts. -/
theorem field?_ofFields (pairs : List (String × Value)) (name : String) :
    (ofFields pairs).field? name = (pairs.reverse.find? (·.1 == name)).map (·.2) := by
  rw [ofFields_eq]
  exact SortedMap.get?_ofList pairs name

theorem Plain.ofFields {depth : Nat} {pairs : List (String × Value)} (h : ∀ f ∈ pairs, f.2.Plain depth) :
    (ofFields pairs).Plain (depth + 1) := by
  rw [ofFields_eq]
  refine .object (SortedMap.ofList pairs).sorted fun f there => ?_
  have found := SortedMap.get?_of_mem (k := f.1) (a := f.2) there
  rw [SortedMap.get?_ofList] at found
  obtain ⟨p, first, same⟩ := Option.map_eq_some_iff.1 found
  rw [← same]
  exact h p (List.mem_reverse.1 (List.mem_of_find?_eq_some first))

theorem Plain.texts {depth : Nat} (xs : List String) : (texts xs).Plain (depth + 1) := by
  refine .list fun v hv => ?_
  obtain ⟨x, -, rfl⟩ := List.mem_map.1 hv
  exact .text x

end Value

end MockCloud.Json
