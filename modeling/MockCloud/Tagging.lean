import MockCloud.Bucket.Basic
import MockCloud.Network.Labels
import MockCloud.Pipeline.Basic
import MockCloud.Topic.Basic

/-! # Tags across services

Pipelines, the network, topics and buckets carry tags that can be read and written by resource name,
whatever the service. Nothing is kept here: a listing is made from what the backends of one place say about
their tags, and a change is handed to the backend that the name's service stands for.

* `resources`, `tagKeys` and `tagValues` are listings of tagged resources.
* `Place.tagResources` and `Place.untagResources` change the tags behind a list of names and say for which
  names that failed. -/

namespace MockCloud.Tagging

open Json (ToTree Tree toTree)

/-- How a call fails as a whole. -/
inductive TaggingError where
  | nameCount
  | page (e : PageError)
  deriving DecidableEq, Repr

/-- The most names of one call. -/
def nameLimit : Nat := 20

/-- The text of the error. -/
def TaggingError.message : TaggingError → String
  | nameCount => "ResourceARNList must contain between 1 and " ++ Text.decimal nameLimit ++ " ARNs"
  | page e => e.message

instance : Fault TaggingError where
  kind _ := .validationError
  code
    | .nameCount => "InvalidParameterException"
    | .page .invalidToken => "PaginationTokenExpiredException"
    | .page e => Fault.code e
  message := TaggingError.message

/-! ### Listings -/

/-- A resource name and the tags behind it. -/
abbrev Tagged := String × TagMap

/-- A key that a resource must have, with one of the values if any are listed. -/
structure TagFilter where
  key : String
  values : List String
  deriving DecidableEq, Repr

/-- Which resources are asked for. -/
structure Query where
  /-- Services, or services and types with a colon between them; none at all stand for every type. -/
  types : List String
  tags : List TagFilter
  deriving DecidableEq, Repr

/-- A resource in a listing. -/
structure TaggedResource where
  arn : String
  tags : List Tag
  deriving DecidableEq, Repr

namespace Query

/-- Whether the type of a resource is asked for. -/
def fitsType (q : Query) (arn : String) : Bool :=
  q.types.isEmpty ||
    match Arn.parse? arn with
    | none => false
    | some a => q.types.any fun t => t == a.service || a.resourceType?.any fun kind => t == a.service ++ ":" ++ kind

/-- Whether tags fit every filter. -/
def fitsTags (q : Query) (tags : TagMap) : Bool :=
  q.tags.all fun f => tags.fits f.key f.values

/-- The query as parameters of a listing. -/
def params (q : Query) : Tree :=
  .record [("resource_type_filters", .strs q.types),
    ("tag_filters", .list (q.tags.map fun f => .record [("key", .str f.key), ("values", .strs f.values)]))]

end Query

/-- Each text once, in order. -/
def distinct (xs : List String) : List String :=
  (SortedMap.ofList (xs.map fun x => (x, ()))).keys

/-- A page of the resources that are asked for, in the order of their names. -/
def resources (all : List Tagged) (q : Query) (request : PageRequest) :
    Except TaggingError (Page TaggedResource) :=
  let found := all.filter fun (arn, tags) => q.fitsType arn && q.fitsTags tags
  (paginate (found.map fun (arn, tags) => TaggedResource.mk arn tags.toTags) request ⟨50, 100⟩ q.params
    TaggedResource.arn).mapError .page

/-- A page of the keys that are in use. -/
def tagKeys (all : List Tagged) (request : PageRequest) : Except TaggingError (Page String) :=
  (paginate (distinct (all.flatMap fun (_, tags) => tags.keys)) request ⟨50, 50⟩ .null id).mapError .page

/-- A page of the values that a key has. -/
def tagValues (all : List Tagged) (key : String) (request : PageRequest) :
    Except TaggingError (Page String) :=
  (paginate (distinct (all.filterMap fun (_, tags) => tags.get? key)) request ⟨50, 50⟩ (.str key) id).mapError
    .page

instance : ToTree TaggedResource where
  toTree r := .record [("resource_arn", .str r.arn), ("tags", toTree r.tags)]

/-! ### Services -/

/-- A service whose resources carry tags that can be reached by resource name. -/
class TagKeeper (σ : Type) where
  /-- The service in the resource names. -/
  service : String
  /-- The resources that have tags. -/
  tagged : σ → List Tagged
  tag : σ → String → List Tag → Outcome σ FaultDetails Unit
  untag : σ → String → List String → Outcome σ FaultDetails Unit

/-- The outcome of an operation of a service, seen from outside. -/
def shared {σ ε : Type} [Fault ε] (o : Outcome σ ε Unit) : Outcome σ FaultDetails Unit :=
  o.mapError Fault.details

instance : TagKeeper Pipeline.Catalog where
  service := "codepipeline"
  tagged c := (c.pipelines.values.filter fun p => !p.tags.isEmpty).map fun p => (p.arn, p.tags)
  tag c arn tags := shared (c.tag arn tags)
  untag c arn keys := shared (c.untag arn keys)

/-- The id of a resource of the network: the name within a resource name, or the text itself. -/
def networkId (arn : String) : String :=
  match Arn.parse? arn with
  | some a => a.resourceName
  | none => arn

instance : TagKeeper Network where
  service := "ec2"
  tagged := Network.tagged
  tag n arn tags := shared (n.createTags [networkId arn] tags)
  untag n arn keys := shared (n.deleteTags [networkId arn] (keys.map fun key => ⟨key, none⟩))

instance : TagKeeper Topic.Board where
  service := "sns"
  tagged b := (b.topics.values.filter fun t => !t.tags.isEmpty).map fun t => (t.arn, t.tags)
  tag b arn tags := shared (b.tag arn tags)
  untag b arn keys := shared (b.untag arn keys)

/-- Runs an operation on the bucket that a resource name stands for. -/
def onBucket (s : Bucket.Shelf) (arn : String)
    (f : String → Outcome Bucket.Shelf Bucket.BucketError Unit) : Outcome Bucket.Shelf FaultDetails Unit :=
  match Bucket.nameOfArn? arn with
  | some name => shared (f name)
  | none => .fail (Fault.details (Bucket.BucketError.noSuchBucket arn)) s

instance : TagKeeper Bucket.Shelf where
  service := "s3"
  tagged := Bucket.Shelf.tagged
  tag s arn tags := onBucket s arn fun name => s.tag name tags
  untag s arn keys := onBucket s arn fun name => s.untag name keys

/-! ### Places -/

/-- The backends of one place that keep tags. -/
structure Place where
  pipelines : Pipeline.Catalog
  network : Network
  topics : Topic.Board
  buckets : Bucket.Shelf

/-- An operation that every such backend has, whatever its state is. -/
abbrev Operation := ∀ {σ : Type} [TagKeeper σ], σ → String → Outcome σ FaultDetails Unit

namespace Place

/-- The resources of a place that have tags. -/
def tagged (p : Place) : List Tagged :=
  TagKeeper.tagged p.pipelines ++ TagKeeper.tagged p.network ++ TagKeeper.tagged p.topics ++
    TagKeeper.tagged p.buckets

end Place

/-! ### Changes by name -/

/-- Why the tags behind a name were not changed. -/
structure FailedResource where
  status : Nat
  code : String
  message : String
  deriving DecidableEq, Repr

/-- The service of the name has no tags. -/
def FailedResource.unsupported (service : String) : FailedResource :=
  ⟨500, "InternalServiceException", "Service not supported: " ++ service⟩

/-- The service refuses the change. -/
def FailedResource.rejected (d : FaultDetails) : FailedResource :=
  ⟨400, "InvalidParameterException", d.message⟩

instance : ToTree FailedResource where
  toTree f := .record [("status_code", .nat f.status), ("error_code", .str f.code),
    ("error_message", .str f.message)]

/-- The service in a resource name; empty for a text that is none. -/
def serviceName (arn : String) : String :=
  match Arn.parse? arn with
  | some a => a.service
  | none => ""

namespace Place

/-- Runs an operation on the resource of one name. -/
def handle (op : Operation) (p : Place) (arn : String) : Outcome Place FailedResource Unit :=
  let service := serviceName arn
  if service = TagKeeper.service Pipeline.Catalog then
    ((op p.pipelines arn).mapError .rejected).within ({ p with pipelines := · })
  else if service = TagKeeper.service Network then
    ((op p.network arn).mapError .rejected).within ({ p with network := · })
  else if service = TagKeeper.service Topic.Board then
    ((op p.topics arn).mapError .rejected).within ({ p with topics := · })
  else if service = TagKeeper.service Bucket.Shelf then
    ((op p.buckets arn).mapError .rejected).within ({ p with buckets := · })
  else .fail (.unsupported service) p

/-- Runs an operation on the resources of names, one after the other, and gives back those that failed. -/
def handleAll (op : Operation) (p : Place) (failed : SortedMap FailedResource) :
    List String → SortedMap FailedResource × Place
  | [] => (failed, p)
  | arn :: rest =>
    let o := p.handle op arn
    match o.result with
    | .ok () => o.state.handleAll op failed rest
    | .error f => o.state.handleAll op (failed.insert arn f) rest

/-- The same for a call, which names at least one resource and not too many. -/
def forEach (op : Operation) (p : Place) (arns : List String) :
    Outcome Place TaggingError (SortedMap FailedResource) :=
  if arns.isEmpty ∨ nameLimit < arns.length then .fail .nameCount p
  else
    let (failed, p) := p.handleAll op .empty arns
    .ok failed p

/-- Puts tags on resources. -/
def tagResources (p : Place) (arns : List String) (tags : List Tag) :
    Outcome Place TaggingError (SortedMap FailedResource) :=
  p.forEach (fun s arn => TagKeeper.tag s arn tags) arns

/-- Takes tags off resources. -/
def untagResources (p : Place) (arns keys : List String) :
    Outcome Place TaggingError (SortedMap FailedResource) :=
  p.forEach (fun s arn => TagKeeper.untag s arn keys) arns

end Place

end MockCloud.Tagging
