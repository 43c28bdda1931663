import MockCloud.Outcome
import MockCloud.Tag

/-! # Tags written one after the other

A call puts tags on a resource or takes keys off it. Whichever keys a write names, it says all there is to say about
them and nothing about the others, so that of several writes the last one that names a key decides what it has.

* `TagWrite.get?_apply`: what one write does at a key.
* `Leave writes key value`: the last write that names the key puts tags, and the last of these with the key has this
  value.
* `get?_foldl_apply_eq_some_iff`: the tags after a sequence of writes are what the writes leave.
* `tags_foldl`: a run changes the tags of a resource as its successful calls write them, if every call does so. -/

namespace MockCloud

/-! ### The last of a list -/

/-- Of the elements of the list that satisfy `P`, the last is `x`. -/
def IsLast {α : Type} (P : α → Prop) (xs : List α) (x : α) : Prop :=
  P x ∧ ∃ front back, xs = front ++ x :: back ∧ ∀ y ∈ back, ¬P y

theorem find?_reverse_eq_some_iff {α : Type} {P : α → Prop} [DecidablePred P] {xs : List α} {x : α} :
    xs.reverse.find? (fun y => P y) = some x ↔ IsLast P xs x := by
  rw [List.find?_eq_some_iff_append, decide_eq_true_iff]
  refine and_congr_right fun _ => ⟨?_, ?_⟩
  · rintro ⟨front, back, split, before⟩
    refine ⟨back.reverse, front.reverse, by simpa using congrArg List.reverse split, fun y hy => ?_⟩
    simpa using before y (List.mem_reverse.1 hy)
  · rintro ⟨front, back, rfl, behind⟩
    exact ⟨back.reverse, front.reverse, by simp, fun y hy => by simpa using behind y (List.mem_reverse.1 hy)⟩

/-- The value that a list of tags has for a key: of several tags with the key the last counts. -/
def lastValue? (tags : List Tag) (key : String) : Option String :=
  (tags.reverse.find? (·.key == key)).map (·.value)

theorem lastValue?_eq_some_iff {tags : List Tag} {key value : String} :
    lastValue? tags key = some value ↔ IsLast (·.key = key) tags ⟨key, value⟩ := by
  rw [← find?_reverse_eq_some_iff, lastValue?, Option.map_eq_some_iff]
  constructor
  · rintro ⟨t, found, rfl⟩
    have named : t.key = key := by simpa using List.find?_some found
    subst named
    exact found
  · exact fun found => ⟨_, found, rfl⟩

theorem SortedMap.get?_insertAll_entries {α : Type} (m m' : SortedMap α) (k : String) :
    (m.insertAll m'.entries).get? k = (m'.get? k).or (m.get? k) := by
  rw [get?_insertAll, ← get?_ofList, ofList_entries]

theorem TagMap.get?_ofTags (tags : List Tag) (key : String) : (TagMap.ofTags tags).get? key = lastValue? tags key := by
  rw [ofTags, SortedMap.get?_ofList, ← List.map_reverse, List.find?_map, Option.map_map]
  rfl

/-! ### Writes -/

/-- What a call writes to the tags of a resource. -/
inductive TagWrite where
  | put (tags : List Tag)
  | takeOff (keys : List String)

namespace TagWrite

/-- The keys that a write names. -/
def keys : TagWrite → List String
  | put tags => tags.map Tag.key
  | takeOff keys => keys

/-- The value that a write gives to a key. -/
def value? (key : String) : TagWrite → Option String
  | put tags => lastValue? tags key
  | takeOff _ => none

/-- The tags of a resource after a write. -/
def apply (m : TagMap) : TagWrite → TagMap
  | put tags => m.insertAll (TagMap.ofTags tags).entries
  | takeOff keys => m.eraseKeys keys

/-- A write decides about the keys that it names and leaves the others alone. -/
theorem get?_apply (m : TagMap) (w : TagWrite) (key : String) :
    (apply m w).get? key = if key ∈ w.keys then w.value? key else m.get? key := by
  cases w with
  | takeOff keys => exact m.get?_eraseKeys keys key
  | put tags =>
    have absent : lastValue? tags key = none ↔ key ∉ tags.map Tag.key := by
      simp [lastValue?]
    rw [apply, SortedMap.get?_insertAll_entries, TagMap.get?_ofTags, keys, value?]
    split
    · next named =>
      obtain ⟨value, is⟩ := Option.ne_none_iff_exists'.1 fun none => absent.1 none named
      rw [is, Option.some_or]
    · next unnamed => rw [absent.2 unnamed, Option.none_or]

end TagWrite

/-- After the writes the key has this value: the last write that names the key puts tags, and the last of these with
the key has the value. -/
def Leave (writes : List TagWrite) (key value : String) : Prop :=
  ∃ tags, IsLast (key ∈ TagWrite.keys ·) writes (.put tags) ∧ IsLast (·.key = key) tags ⟨key, value⟩

/-- The last write that names a key decides what it has. -/
theorem get?_foldl_apply (writes : List TagWrite) (m : TagMap) (key : String) :
    (writes.foldl TagWrite.apply m).get? key =
      match writes.reverse.find? fun w => key ∈ w.keys with
      | some w => w.value? key
      | none => m.get? key := by
  -- on the first write, for any tags: what it leaves is what the others find
  induction writes generalizing m with
  | nil => rfl
  | cons w writes ih =>
    rw [List.foldl_cons, ih, List.reverse_cons, List.find?_append]
    cases writes.reverse.find? fun w => key ∈ w.keys with
    | some w' => rfl
    | none => by_cases named : key ∈ w.keys <;> simp [TagWrite.get?_apply, named]

/-- **The last writer wins**: on a resource without tags, a sequence of writes leaves what its last writes leave. -/
theorem get?_foldl_apply_eq_some_iff {writes : List TagWrite} {key value : String} :
    (writes.foldl TagWrite.apply .empty).get? key = some value ↔ Leave writes key value := by
  have lastTag (tags : List Tag) : IsLast (·.key = key) tags ⟨key, value⟩ ↔ lastValue? tags key = some value :=
    lastValue?_eq_some_iff.symm
  simp only [Leave, lastTag, get?_foldl_apply, ← find?_reverse_eq_some_iff]
  cases writes.reverse.find? fun w => key ∈ w.keys with
  | none => simp
  | some w => cases w <;> simp [TagWrite.value?]

/-! ### Runs -/

/-- The tags of the list are in the order of their keys, each key once, and are those that the writes leave. -/
structure LeftBy (writes : List TagWrite) (tags : List Tag) : Prop where
  sorted : tags.Pairwise (·.key < ·.key)
  mem_iff : ∀ key value, ⟨key, value⟩ ∈ tags ↔ Leave writes key value

theorem leftBy_toTags (writes : List TagWrite) : LeftBy writes (writes.foldl TagWrite.apply .empty).toTags where
  sorted := TagMap.pairwise_toTags _
  mem_iff _ _ := TagMap.mem_toTags_iff.trans get?_foldl_apply_eq_some_iff

section

variable {σ ω ε : Type} (perform : σ → ω → Outcome σ ε Unit) (write? : ω → Option TagWrite)

/-- What an operation has written to the tags of a resource: nothing, if it has failed. -/
def writtenBy (s : σ) (op : ω) : List TagWrite :=
  match (perform s op).result with
  | .ok () => (write? op).toList
  | .error _ => []

/-- What the operations of a run have written to the tags of a resource, in order. -/
def written (s : σ) : List ω → List TagWrite
  | [] => []
  | op :: ops => writtenBy perform write? s op ++ written (perform s op).state ops

variable {perform write?}

/-- A run of operations that each do what they write does what all of them write. -/
theorem tags_foldl {tags? : σ → Option TagMap} {spares : ω → Prop}
    (step : ∀ s op m, spares op → tags? s = some m →
      tags? (perform s op).state = some ((writtenBy perform write? s op).foldl TagWrite.apply m))
    {ops : List ω} (all : ∀ op ∈ ops, spares op) {s : σ} {m : TagMap} (there : tags? s = some m) :
    tags? (ops.foldl (fun s op => (perform s op).state) s) =
      some ((written perform write? s ops).foldl TagWrite.apply m) := by
  induction ops generalizing s m with
  | nil => exact there
  | cons op ops ih =>
    obtain ⟨first, rest⟩ := List.forall_mem_cons.1 all
    rw [List.foldl_cons, written, List.foldl_append]
    exact ih rest (step s op m first there)

end

end MockCloud
