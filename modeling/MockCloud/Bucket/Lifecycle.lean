import MockCloud.Json.ToTree

/-! # Lifecycle rules

A rule says which objects of a bucket it covers and when they move or go. Its parts have to fit together:

* `LifecycleRule.validate` refuses a rule whose parts do not. -/

namespace MockCloud.Bucket

open Json (ToTree toTree)

/-- How a call on buckets fails. -/
inductive BucketError where
  | alreadyExists (name : String)
  | noSuchBucket (name : String)
  | invalidName (name : String)
  | noSuchTagSet
  | reservedTag
  | duplicateTag
  | emptyTag
  | tooManyTags (limit : Nat)
  | malformedRules
  | noSuchLifecycle
  deriving DecidableEq, Repr

/-- A violation of the tag policy as an error about buckets. -/
def BucketError.ofTags : TagViolation → BucketError
  | .tooManyTags limit _ => .tooManyTags limit
  | .reservedKey _ => .reservedTag
  | .duplicateKey _ => .duplicateTag
  | .emptyKey => .emptyTag

/-- The text of the error. -/
def BucketError.message : BucketError → String
  | alreadyExists _ =>
    "The requested bucket name is not available. The bucket namespace is shared by all users of the " ++
      "system. Please select a different name and try again"
  | noSuchBucket _ => "The specified bucket does not exist"
  | invalidName _ => "The specified bucket is not valid."
  | noSuchTagSet => "The TagSet does not exist"
  | reservedTag => "System tags cannot be added/updated by requester"
  | duplicateTag => "Cannot provide multiple Tags with the same key"
  | emptyTag => "The TagKey you have provided is invalid"
  | tooManyTags limit => "Bucket tag count cannot be greater than " ++ Text.decimal limit
  | malformedRules =>
    "The XML you provided was not well-formed or did not validate against our published schema"
  | noSuchLifecycle => "The lifecycle configuration does not exist"

instance : Fault BucketError where
  kind
    | .alreadyExists _ => .alreadyExists
    | .noSuchBucket _ | .noSuchTagSet | .noSuchLifecycle => .notFound
    | .tooManyTags _ => .limitExceeded
    | .invalidName _ | .reservedTag | .duplicateTag | .emptyTag | .malformedRules => .validationError
  code
    | .alreadyExists _ => "BucketAlreadyExists"
    | .noSuchBucket _ => "NoSuchBucket"
    | .invalidName _ => "InvalidBucketName"
    | .noSuchTagSet => "NoSuchTagSet"
    | .reservedTag | .duplicateTag | .emptyTag | .tooManyTags _ => "InvalidTag"
    | .malformedRules => "MalformedXML"
    | .noSuchLifecycle => "NoSuchLifecycleConfiguration"
  message := BucketError.message
  status
    | .alreadyExists _ => 409
    | .noSuchBucket _ | .noSuchTagSet | .noSuchLifecycle => 404
    | _ => 400

/-! ### Rules -/

/-- Objects whose names begin in some way and that carry all of the tags. -/
structure LifecycleAnd where
  keyStart : Option String
  tags : List Tag
  deriving DecidableEq, Repr

/-- The objects that a rule covers; a filter without members covers the whole bucket. -/
structure LifecycleFilter where
  keyStart : Option String
  tag : Option Tag
  and : Option LifecycleAnd
  deriving DecidableEq, Repr

/-- When objects go. -/
structure Expiration where
  days : Option Nat
  date : Option String
  expiredObjectDeleteMarker : Option Bool
  deriving DecidableEq, Repr

/-- When objects move to another storage class. -/
structure Transition where
  days : Option Nat
  date : Option String
  storageClass : Option String
  deriving DecidableEq, Repr

/-- When old versions of objects move to another storage class. -/
structure NoncurrentTransition where
  noncurrentDays : Option Nat
  storageClass : Option String
  deriving DecidableEq, Repr

/-- A lifecycle rule. -/
structure LifecycleRule where
  id : Option String
  status : String
  /-- The older way to say what the rule covers, instead of a filter. -/
  keyStart : Option String
  filter : Option LifecycleFilter
  expiration : Option Expiration
  transitions : List Transition
  noncurrentTransitions : List NoncurrentTransition
  noncurrentExpirationDays : Option Nat
  abortIncompleteUploadDays : Option Nat
  deriving DecidableEq, Repr

instance : ToTree LifecycleAnd where
  toTree a := .record [("prefix", toTree a.keyStart), ("tags", toTree a.tags)]

instance : ToTree LifecycleFilter where
  toTree f := .record [("prefix", toTree f.keyStart), ("tag", toTree f.tag), ("and", toTree f.and)]

instance : ToTree Expiration where
  toTree e := .record [("days", toTree e.days), ("date", toTree e.date),
    ("expired_object_delete_marker", toTree e.expiredObjectDeleteMarker)]

instance : ToTree Transition where
  toTree t := .record [("days", toTree t.days), ("date", toTree t.date),
    ("storage_class", toTree t.storageClass)]

instance : ToTree NoncurrentTransition where
  toTree t := .record [("noncurrent_days", toTree t.noncurrentDays), ("storage_class", toTree t.storageClass)]

instance : ToTree LifecycleRule where
  toTree r := .record [("id", toTree r.id), ("status", .str r.status), ("prefix", toTree r.keyStart),
    ("filter", toTree r.filter), ("expiration", toTree r.expiration), ("transitions", toTree r.transitions),
    ("noncurrent_version_transitions", toTree r.noncurrentTransitions),
    ("noncurrent_version_expiration_days", toTree r.noncurrentExpirationDays),
    ("abort_incomplete_multipart_upload_days", toTree r.abortIncompleteUploadDays)]

/-! ### Valid rules -/

/-- At most one member. -/
def LifecycleFilter.isValid (f : LifecycleFilter) : Bool :=
  f.keyStart.isSome.toNat + f.tag.isSome.toNat + f.and.isSome.toNat ≤ 1

/-- The flag for markers stands alone. -/
def Expiration.isValid (e : Expiration) : Bool :=
  !(e.expiredObjectDeleteMarker.isSome && (e.days.isSome || e.date.isSome))

/-- A storage class, and either days or a date. -/
def Transition.isValid (t : Transition) : Bool :=
  t.storageClass.isSome && (t.days.isSome != t.date.isSome)

/-- Days and a storage class. -/
def NoncurrentTransition.isValid (t : NoncurrentTransition) : Bool :=
  t.noncurrentDays.isSome && t.storageClass.isSome

/-- What the rule covers is said in exactly one way. -/
def LifecycleRule.coverIsValid (r : LifecycleRule) : Bool :=
  match r.keyStart, r.filter with
  | none, some f => f.isValid
  | some _, none => true
  | _, _ => false

/-- Refuses a rule whose parts do not fit together. -/
def LifecycleRule.validate (r : LifecycleRule) : Except BucketError Unit :=
  if (r.status = "Enabled" || r.status = "Disabled") && r.coverIsValid &&
      r.expiration.all Expiration.isValid && r.transitions.all Transition.isValid &&
      r.noncurrentTransitions.all NoncurrentTransition.isValid then
    .ok ()
  else .error .malformedRules

/-- Refuses a list of rules when one of them is refused. -/
def validateRules (rules : List LifecycleRule) : Except BucketError Unit :=
  rules.forM LifecycleRule.validate

end MockCloud.Bucket
