import MockCloud.Fault
import MockCloud.Outcome
import MockCloud.SortedMap
import MockCloud.Text.Cut

/-! # Tags

A resource carries a map of tags. A policy bounds how many there are and refuses the empty key and the
keys that begin with a reserved text; it looks at the tags that a change would leave, before the change is
made.

* `TagPolicy.merged` checks and merges, `TagPolicy.checkReplacement` checks a whole new map.
* `TagMap.ofTags` and `TagMap.toTags` go between lists and maps; in a list the last tag of a key counts. -/

namespace MockCloud

/-- A key and its value. -/
structure Tag where
  key : String
  value : String
  deriving DecidableEq, Repr

/-- The tags of a resource. -/
abbrev TagMap := SortedMap String

/-- The map of a list of tags; of several with one key the last counts. -/
def TagMap.ofTags (tags : List Tag) : TagMap :=
  SortedMap.ofList (tags.map fun t => (t.key, t.value))

/-- The tags in the order of their keys. -/
def TagMap.toTags (m : TagMap) : List Tag :=
  m.entries.map fun (k, v) => ⟨k, v⟩

theorem TagMap.map_key_toTags (m : TagMap) : m.toTags.map Tag.key = m.keys := by
  simp [toTags, SortedMap.keys]

theorem TagMap.mem_toTags_iff {m : TagMap} {t : Tag} : t ∈ m.toTags ↔ m.get? t.key = some t.value := by
  rw [SortedMap.get?_eq_some_iff, toTags, List.mem_map]
  constructor
  · rintro ⟨⟨k, v⟩, there, rfl⟩
    exact there
  · intro there
    exact ⟨(t.key, t.value), there, rfl⟩

theorem TagMap.pairwise_toTags (m : TagMap) : m.toTags.Pairwise (·.key < ·.key) :=
  List.pairwise_map.2 m.sorted

/-- The map without these keys. -/
def TagMap.eraseKeys (m : TagMap) (keys : List String) : TagMap :=
  keys.foldl SortedMap.erase m

theorem TagMap.get?_eraseKeys (m : TagMap) (keys : List String) (k : String) :
    (m.eraseKeys keys).get? k = if k ∈ keys then none else m.get? k := by
  unfold eraseKeys
  induction keys generalizing m with
  | nil => rfl
  | cons key keys ih =>
    rw [List.foldl_cons, ih, SortedMap.get?_erase]
    by_cases hk : k = key <;> by_cases hks : k ∈ keys <;> simp [hk, hks]

/-- Taking keys off once more changes nothing. -/
theorem TagMap.eraseKeys_eraseKeys (m : TagMap) (keys : List String) :
    (m.eraseKeys keys).eraseKeys keys = m.eraseKeys keys := by
  refine SortedMap.ext_get? fun k => ?_
  rw [get?_eraseKeys, get?_eraseKeys]
  by_cases hk : k ∈ keys <;> simp only [hk, if_true, if_false]

/-- Whether the map has a key, with one of the values if any are given. -/
def TagMap.fits (m : TagMap) (key : String) (values : List String) : Bool :=
  match m.get? key with
  | some v => values.isEmpty || values.contains v
  | none => false

theorem TagMap.fits_iff {m : TagMap} {key : String} {values : List String} :
    m.fits key values = true ↔ ∃ v, m.get? key = some v ∧ (values = [] ∨ v ∈ values) := by
  unfold fits
  cases m.get? key <;> simp

/-! ### Policies -/

/-- A way to break a policy. -/
inductive TagViolation where
  | tooManyTags (limit attempted : Nat)
  | reservedKey (key : String)
  | duplicateKey (key : String)
  | emptyKey
  deriving DecidableEq, Repr

/-- The text of a violation. -/
def TagViolation.message : TagViolation → String
  | tooManyTags limit attempted =>
    "tag limit of " ++ Text.decimal limit ++ " exceeded (" ++ Text.decimal attempted ++ " tags)"
  | reservedKey key => "tag key '" ++ key ++ "' uses a reserved prefix"
  | duplicateKey key => "tag key '" ++ key ++ "' is duplicated"
  | emptyKey => "tag key must not be empty"

instance : Fault TagViolation where
  kind
    | .tooManyTags .. => .limitExceeded
    | _ => .validationError
  code
    | .tooManyTags .. => "TooManyTagsException"
    | _ => "InvalidTagsException"
  message := TagViolation.message

/-- The rules for the tags of one resource. -/
structure TagPolicy where
  maxTags : Nat
  /-- Keys that begin with this text are refused. -/
  reserved : Option String
  deriving DecidableEq, Repr

/-- At most fifty tags, and no key that begins with `aws:`. -/
def TagPolicy.standard : TagPolicy :=
  ⟨50, some "aws:"⟩

namespace TagPolicy

/-- Refuses the empty key and the reserved keys. -/
def checkKey (p : TagPolicy) (key : String) : Except TagViolation Unit :=
  if key.isEmpty then .error .emptyKey
  else
    match p.reserved with
    | some start => if Text.beginsWith key start then .error (.reservedKey key) else .ok ()
    | none => .ok ()

/-- Refuses the first key that has been `seen` before. -/
def checkUnseen (seen : List String) : List Tag → Except TagViolation Unit
  | [] => .ok ()
  | t :: rest =>
    if seen.contains t.key then .error (.duplicateKey t.key) else checkUnseen (t.key :: seen) rest

/-- Refuses a list that names a key twice. -/
def checkUnique (tags : List Tag) : Except TagViolation Unit :=
  checkUnseen [] tags

/-- Checks keys one after the other. -/
def checkKeys (p : TagPolicy) : List String → Except TagViolation Unit
  | [] => .ok ()
  | k :: rest =>
    match p.checkKey k with
    | .error e => .error e
    | .ok () => checkKeys p rest

/-- The tags with the incoming ones over them, if the policy allows both the incoming keys and the
number of tags that results. -/
def merged (p : TagPolicy) (tags incoming : TagMap) : Except TagViolation TagMap :=
  match p.checkKeys incoming.keys with
  | .error e => .error e
  | .ok () =>
    let all := tags.insertAll incoming.entries
    if p.maxTags < all.size then .error (.tooManyTags p.maxTags all.size) else .ok all

/-- Merges the incoming tags; a refused merge leaves the tags alone. -/
def apply (p : TagPolicy) (tags incoming : TagMap) : Outcome TagMap TagViolation Unit :=
  .guard (p.merged tags incoming) tags fun all => .ok () all

/-- Checks a whole new map. -/
def checkReplacement (p : TagPolicy) (tags : TagMap) : Except TagViolation Unit :=
  (p.merged .empty tags).map fun _ => ()

theorem merged_eq_ok_iff {p : TagPolicy} {tags incoming all : TagMap} :
    p.merged tags incoming = .ok all ↔
      p.checkKeys incoming.keys = .ok () ∧ (tags.insertAll incoming.entries).size ≤ p.maxTags ∧
        all = tags.insertAll incoming.entries := by
  unfold merged
  cases p.checkKeys incoming.keys with
  | error e => simp
  | ok _ =>
    by_cases h : p.maxTags < (tags.insertAll incoming.entries).size
    · have many : ¬(tags.insertAll incoming.entries).size ≤ p.maxTags := Nat.not_le.2 h
      simp [h, many]
    · have few : (tags.insertAll incoming.entries).size ≤ p.maxTags := Nat.not_lt.1 h
      simp [h, few, eq_comm]

end TagPolicy

end MockCloud
