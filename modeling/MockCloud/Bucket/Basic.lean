import MockCloud.Bucket.Lifecycle
import MockCloud.Instant
import MockCloud.Scope
import MockCloud.Store

/-! # Buckets

Buckets have tags and a lifecycle configuration; their objects are left out. A bucket's name is its id, and
its resource name holds no account and no region.

* `Shelf` holds the buckets of an account, wherever they were made.
* `nameOfArn?` finds the bucket's name in a resource name. -/

namespace MockCloud

/-- A bucket. -/
structure Bucket where
  name : String
  region : String
  created : Instant
  /-- `none` until tags are put, and again after they are deleted. -/
  tags : Option TagMap
  lifecycle : Option (List Bucket.LifecycleRule)
  deriving DecidableEq

namespace Bucket

/-- The resource name of the bucket. -/
def arn (b : Bucket) (partition : String) : String :=
  "arn:" ++ partition ++ ":s3:::" ++ b.name

theorem arn_eq_render (b : Bucket) (partition : String) :
    b.arn partition = Arn.render ⟨partition, "s3", "", "", b.name⟩ := by
  apply String.ext
  simp [arn, Arn.render]

/-- The name of the bucket that a resource name stands for: all that follows the fourth colon behind
`arn:`, without a slash. -/
def nameOfArn? (arn : String) : Option String := do
  let cs ← Text.after? "arn:".toList arn.toList
  let (_, name) ← Arn.parts? 4 cs
  if name.isEmpty || name.contains '/' then none else some (String.ofList name)

/-- Three to sixty-three lower-case ASCII letters, digits, dots and dashes, with a letter or a digit at
both ends. -/
def isName (name : String) : Bool :=
  let cs := name.toList
  3 ≤ cs.length && cs.length ≤ 63 &&
    cs.all (fun c => c.isLower || c.isDigit || c = '.' || c = '-') &&
    cs.head?.any Char.isAlphanum && cs.getLast?.any Char.isAlphanum

/-- Makes a bucket in a region at a moment. -/
def make (name region : String) (created : Instant) : Except BucketError Bucket :=
  if isName name then .ok ⟨name, region, created, none, none⟩ else .error (.invalidName name)

/-- Replaces the lifecycle configuration, if all of its rules are valid. -/
def setLifecycle (b : Bucket) (rules : Option (List LifecycleRule)) : Outcome Bucket BucketError Unit :=
  .guard (validateRules (rules.getD [])) b fun _ => .ok () { b with lifecycle := rules }

instance : Entity Bucket (String × Instant) (Option (List LifecycleRule)) Scope BucketError where
  id := Bucket.name
  make name p _ := make name p.1 p.2
  change b rules _ := b.setLifecycle rules
  missing name _ := .noSuchBucket name
  taken name _ := .alreadyExists name

/-- The resource name that is shown is the one of the usual partition. -/
instance [Json.ToTree Instant] : Json.ToTree Bucket where
  toTree b := .record [("name", .str b.name), ("region", .str b.region),
    ("creation_date", Json.toTree b.created), ("tags", Json.toTree b.tags),
    ("lifecycle_rules", Json.toTree b.lifecycle), ("arn", .str (b.arn "aws"))]

/-- The buckets of an account. -/
structure Shelf where
  scope : Scope
  buckets : Store Bucket Scope

instance : Backend Shelf where
  service := "s3"
  isGlobal := true
  new scope := ⟨scope, .new scope⟩
  scope := Shelf.scope

namespace Shelf

/-- Makes a bucket. -/
def create (s : Shelf) (name region : String) (created : Instant) : Outcome Shelf BucketError Bucket :=
  (s.buckets.create name (region, created)).within ({ s with buckets := · })

/-- The bucket of a name. -/
def get (s : Shelf) (name : String) : Except BucketError Bucket :=
  s.buckets.require name

/-- Removes a bucket. -/
def delete (s : Shelf) (name : String) : Outcome Shelf BucketError Unit :=
  ((s.buckets.delete name).within ({ s with buckets := · })).done

/-- The buckets in the order of their names. -/
def list (s : Shelf) : List Bucket :=
  s.buckets.values

/-- Changes the tags of a bucket that is there. -/
def changeTags (s : Shelf) (name : String)
    (f : Option TagMap → Except BucketError (Option TagMap)) : Outcome Shelf BucketError Unit :=
  .guard (s.get name) s fun b =>
    .guard (f b.tags) s fun tags =>
      .ok () { s with buckets := s.buckets.modify name fun b => { b with tags } }

/-- Replaces all tags; the tags are checked before the bucket is looked up. -/
def putTags (s : Shelf) (name : String) (tags : List Tag) : Outcome Shelf BucketError Unit :=
  .guard ((TagPolicy.checkUnique tags).mapError BucketError.ofTags) s fun _ =>
    .guard ((TagPolicy.standard.checkReplacement (.ofTags tags)).mapError BucketError.ofTags) s fun _ =>
      s.changeTags name fun _ => .ok (some (TagMap.ofTags tags))

/-- The tags of a bucket in the order of their keys. -/
def tagsOf (s : Shelf) (name : String) : Except BucketError (List Tag) :=
  match s.get name with
  | .error e => .error e
  | .ok b =>
    match b.tags with
    | some tags => .ok tags.toTags
    | none => .error .noSuchTagSet

/-- Deletes the tags of a bucket, if it has any. -/
def deleteTags (s : Shelf) (name : String) : Outcome Shelf BucketError Unit :=
  s.changeTags name fun _ => .ok none

/-- Merges tags into those of a bucket. -/
def tag (s : Shelf) (name : String) (tags : List Tag) : Outcome Shelf BucketError Unit :=
  s.changeTags name fun old =>
    ((TagPolicy.standard.merged (old.getD .empty) (.ofTags tags)).mapError BucketError.ofTags).map some

/-- Takes tags off a bucket. -/
def untag (s : Shelf) (name : String) (keys : List String) : Outcome Shelf BucketError Unit :=
  s.changeTags name fun old => .ok (old.map fun tags => tags.eraseKeys keys)

/-- Replaces the lifecycle configuration. -/
def putLifecycle (s : Shelf) (name : String) (rules : List LifecycleRule) :
    Outcome Shelf BucketError Unit :=
  ((s.buckets.update name (some rules)).within ({ s with buckets := · })).done

/-- The lifecycle rules of a bucket. -/
def lifecycleOf (s : Shelf) (name : String) : Except BucketError (List LifecycleRule) :=
  match s.get name with
  | .error e => .error e
  | .ok b =>
    match b.lifecycle with
    | some rules => .ok rules
    | none => .error .noSuchLifecycle

/-- Deletes the lifecycle configuration, if there is one. -/
def deleteLifecycle (s : Shelf) (name : String) : Outcome Shelf BucketError Unit :=
  ((s.buckets.update name none).within ({ s with buckets := · })).done

/-- The resource names and tags of the buckets that have tags. -/
def tagged (s : Shelf) : List (String × TagMap) :=
  s.list.filterMap fun b =>
    match b.tags with
    | some tags => if tags.isEmpty then none else some (b.arn s.scope.partition, tags)
    | none => none

end Shelf

end Bucket

end MockCloud
