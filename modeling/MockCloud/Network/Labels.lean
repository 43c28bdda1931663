import MockCloud.Network.Basic

/-! # Tags of the network

Tags are put on the resources of a network by id, whatever their kind; the kind is read off the text in
front of the first dash of the id.

* `createTags` and `deleteTags` change nothing unless every id names a resource and, for new tags, every
  resource may have them.
* `describeTags` lists every tag, `tagged` every resource with tags. -/

namespace MockCloud.Network

open Json (ToTree Tree toTree)

/-- The kinds of resources that have tags. -/
inductive Kind where
  | vpc
  | subnet
  | acl
  | gateway
  | address
  deriving DecidableEq, Repr

/-- The name of a kind. -/
def Kind.name : Kind → String
  | vpc => "vpc"
  | subnet => "subnet"
  | acl => "network-acl"
  | gateway => "natgateway"
  | address => "elastic-ip"

/-- The kind of the resource that an id stands for. -/
def Kind.ofId? (id : String) : Option Kind :=
  match (Text.cutFirst (· = '-') id.toList).map fun (kind, _) => String.ofList kind with
  | some "vpc" => some .vpc
  | some "subnet" => some .subnet
  | some "acl" => some .acl
  | some "nat" => some .gateway
  | some "eipalloc" => some .address
  | _ => none

/-- The tags of the resource with an id. -/
def tagsOf? (n : Network) (id : String) : Option TagMap :=
  match Kind.ofId? id with
  | some .vpc => (n.vpcs.get? id).map (·.tags)
  | some .subnet => (n.subnets.get? id).map (·.tags)
  | some .acl => (n.acls.get? id).map (·.tags)
  | some .gateway => (n.gateways.get? id).map (·.tags)
  | some .address => (n.addresses.get? id).map (·.tags)
  | none => none

/-- The tags of the resource with an id, which must be there. -/
def requireTags (n : Network) (id : String) : Except NetworkError TagMap :=
  match n.tagsOf? id with
  | some tags => .ok tags
  | none => .error (.invalidId id)

/-- The network with the tags of one resource changed. -/
def changeTags (n : Network) (id : String) (f : TagMap → TagMap) : Network :=
  match Kind.ofId? id with
  | some .vpc => { n with vpcs := n.vpcs.modify id fun r => { r with tags := f r.tags } }
  | some .subnet => { n with subnets := n.subnets.modify id fun r => { r with tags := f r.tags } }
  | some .acl => { n with acls := n.acls.modify id fun r => { r with tags := f r.tags } }
  | some .gateway => { n with gateways := n.gateways.modify id fun r => { r with tags := f r.tags } }
  | some .address => { n with addresses := n.addresses.modify id fun r => { r with tags := f r.tags } }
  | none => n

/-- For each id, the tags that its resource would have with the incoming ones. -/
def mergedTags (n : Network) (incoming : TagMap) : List String → Except NetworkError (List (String × TagMap))
  | [] => .ok []
  | id :: rest => do
    let tags ← n.requireTags id
    let merged ← (TagPolicy.standard.merged tags incoming).mapError NetworkError.ofTags
    let others ← mergedTags n incoming rest
    return (id, merged) :: others

/-- Puts tags on resources. -/
def createTags (n : Network) (ids : List String) (tags : List Tag) : Outcome Network NetworkError Unit :=
  .guard (n.mergedTags (.ofTags tags) ids) n fun merged =>
    .ok () (merged.foldl (fun n (id, tags) => n.changeTags id fun _ => tags) n)

/-- A tag to remove: the key, whatever its value, or the key only with this value. -/
structure TagRemoval where
  key : String
  value : Option String
  deriving DecidableEq, Repr

/-- The tags without the one that the removal means. -/
def TagRemoval.apply (tags : TagMap) (r : TagRemoval) : TagMap :=
  match tags.get? r.key, r.value with
  | some actual, some expected => if expected = actual then tags.erase r.key else tags
  | some _, none => tags.erase r.key
  | none, _ => tags

/-- Removes tags from resources. -/
def deleteTags (n : Network) (ids : List String) (removals : List TagRemoval) :
    Outcome Network NetworkError Unit :=
  .guard (ids.forM fun id => (n.requireTags id).map fun _ => ()) n fun _ =>
    .ok () (ids.foldl (fun n id => n.changeTags id fun tags => removals.foldl TagRemoval.apply tags) n)

/-! ### Listings -/

/-- Every resource with its kind and its tags: one kind after the other, each in the order of ids. -/
def labelled (n : Network) : List (String × Kind × TagMap) :=
  n.vpcs.values.map (fun r => (r.id, .vpc, r.tags)) ++
    n.subnets.values.map (fun r => (r.id, .subnet, r.tags)) ++
    n.acls.values.map (fun r => (r.id, .acl, r.tags)) ++
    n.gateways.values.map (fun r => (r.id, .gateway, r.tags)) ++
    n.addresses.values.map (fun r => (r.id, .address, r.tags))

/-- A tag and the resource that it is on. -/
structure TagDescription where
  resourceId : String
  kind : Kind
  key : String
  value : String
  deriving DecidableEq, Repr

instance : Filterable TagDescription where
  tags _ := .empty
  attribute? t
    | "resource-id" => some [t.resourceId]
    | "resource-type" => some [t.kind.name]
    | "key" => some [t.key]
    | "value" => some [t.value]
    | _ => none

instance : ToTree TagDescription where
  toTree t := .record [("resource_id", .str t.resourceId), ("resource_type", .str t.kind.name),
    ("key", .str t.key), ("value", .str t.value)]

/-- The order of tags in a listing: by resource, then by key. -/
def TagDescription.before (a b : TagDescription) : Bool :=
  a.resourceId < b.resourceId || (a.resourceId == b.resourceId && a.key ≤ b.key)

/-- Every tag in order. -/
def allTags (n : Network) : List TagDescription :=
  (n.labelled.flatMap fun (id, kind, tags) => tags.entries.map fun (k, v) => ⟨id, kind, k, v⟩).mergeSort
    TagDescription.before

/-- The tags that fit the filters. -/
def describeTags (n : Network) (filters : List Filter) : Except NetworkError (List TagDescription) :=
  select n.allTags filters

/-- The resource name of a resource of this network. -/
def arn (n : Network) (kind id : String) : String :=
  n.scope.arn "ec2" (kind ++ "/" ++ id)

/-- The resource names and tags of the resources that have tags. -/
def tagged (n : Network) : List (String × TagMap) :=
  (n.labelled.filter fun (_, _, tags) => !tags.isEmpty).map fun (id, kind, tags) =>
    (n.arn kind.name id, tags)

end MockCloud.Network
