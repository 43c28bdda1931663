import MockCloud.Json.ToTree
import MockCloud.Network.Cidr
import MockCloud.Network.Filter
import MockCloud.Scope
import MockCloud.Store

/-! # VPCs and subnets

A VPC is a block of addresses, a subnet a block inside the block of its VPC. -/

namespace MockCloud.Network

open Json (ToTree Tree toTree)

/-- The state that every resource of the network is in. -/
def available : String := "available"

/-- The checked map of a list of tags. -/
def checkedTags (tags : List Tag) : Except NetworkError TagMap :=
  let map := TagMap.ofTags tags
  ((TagPolicy.standard.checkReplacement map).mapError NetworkError.ofTags).map fun _ => map

/-! ### VPCs -/

/-- A VPC. -/
structure Vpc where
  id : String
  block : Cidr
  ownerId : String
  tags : TagMap
  deriving DecidableEq

/-- What a VPC is made from. -/
structure NewVpc where
  block : String
  tags : List Tag

/-- Reads the block of a VPC, whose length has to be between 16 and 28. -/
def vpcBlock (text : String) : Except NetworkError Cidr :=
  match Cidr.parse? text with
  | some block => if 16 ≤ block.len ∧ block.len ≤ 28 then .ok block else .error (.invalidBlock text)
  | none => .error (.invalidBlock text)

/-- Makes a VPC. -/
def Vpc.make (id : String) (p : NewVpc) (scope : Scope) : Except NetworkError Vpc := do
  let block ← vpcBlock p.block
  let tags ← checkedTags p.tags
  return ⟨id, block, scope.account, tags⟩

theorem vpcBlock_eq_ok_iff {text : String} {block : Cidr} :
    vpcBlock text = .ok block ↔ Cidr.parse? text = some block ∧ 16 ≤ block.len ∧ block.len ≤ 28 := by
  unfold vpcBlock
  cases Cidr.parse? text with
  | none => simp
  | some c =>
    by_cases h : 16 ≤ c.len ∧ c.len ≤ 28
    · simp only [h, and_self, if_true, Except.ok.injEq, Option.some.injEq]
      exact ⟨fun e => ⟨e, e ▸ h⟩, fun e => e.1⟩
    · simp only [h, if_false, reduceCtorEq, Option.some.injEq, false_iff]
      exact fun e => h (e.1 ▸ e.2)

theorem Vpc.make_eq_ok {id : String} {p : NewVpc} {scope : Scope} {v : Vpc}
    (h : Vpc.make id p scope = .ok v) :
    ∃ block tags, vpcBlock p.block = .ok block ∧ checkedTags p.tags = .ok tags ∧
      v = ⟨id, block, scope.account, tags⟩ := by
  unfold Vpc.make at h
  cases hb : vpcBlock p.block with
  | error e => rw [hb] at h; cases h
  | ok block =>
    cases ht : checkedTags p.tags with
    | error e => rw [hb, ht] at h; cases h
    | ok tags => rw [hb, ht] at h; cases h; exact ⟨block, tags, rfl, rfl, rfl⟩

instance : Entity Vpc NewVpc TagMap Scope NetworkError where
  id := Vpc.id
  make := Vpc.make
  change v tags _ := .ok () { v with tags }
  missing id _ := .vpcNotFound id
  taken id _ := .invalidValue (.taken "VPC" id)

instance : Filterable Vpc where
  tags := Vpc.tags
  attribute? v
    | "vpc-id" => some [v.id]
    | "cidr" | "cidr-block" | "cidrBlock" => some [v.block.render]
    | "state" => some [available]
    | "owner-id" => some [v.ownerId]
    | "is-default" | "isDefault" => some (flag false)
    | _ => none

instance : ToTree Vpc where
  toTree v := .record [("vpc_id", .str v.id), ("cidr_block", .str v.block.render),
    ("state", .str available), ("owner_id", .str v.ownerId), ("is_default", .bool false),
    ("tags", toTree v.tags)]

/-! ### Subnets -/

/-- A subnet. -/
structure Subnet where
  id : String
  vpcId : String
  block : Cidr
  zone : String
  ownerId : String
  tags : TagMap
  deriving DecidableEq

/-- What a subnet is made from, its block apart. -/
structure NewSubnet where
  vpcId : String
  zone : Option String
  tags : List Tag

/-- Makes a subnet; without a zone it lies in the first one of its region. -/
def Subnet.make (id : String) (block : Cidr) (p : NewSubnet) (scope : Scope) :
    Except NetworkError Subnet := do
  let tags ← checkedTags p.tags
  return ⟨id, p.vpcId, block, p.zone.getD (scope.region ++ "a"), scope.account, tags⟩

theorem Subnet.make_eq_ok_iff {id : String} {block : Cidr} {p : NewSubnet} {scope : Scope} {s : Subnet} :
    Subnet.make id block p scope = .ok s ↔ ∃ tags, checkedTags p.tags = .ok tags ∧
      s = ⟨id, p.vpcId, block, p.zone.getD (scope.region ++ "a"), scope.account, tags⟩ := by
  unfold Subnet.make
  cases checkedTags p.tags with
  | error e =>
    constructor
    · rintro ⟨⟩
    · rintro ⟨_, ⟨⟩, _⟩
  | ok tags =>
    constructor
    · rintro ⟨⟩; exact ⟨tags, rfl, rfl⟩
    · rintro ⟨_, ⟨⟩, rfl⟩; rfl

/-- The number of addresses that are free for use: five of each subnet are not. -/
def Subnet.availableAddresses (s : Subnet) : Nat :=
  s.block.size.toNat - 5

instance : Entity Subnet (Cidr × NewSubnet) TagMap Scope NetworkError where
  id := Subnet.id
  make id p := Subnet.make id p.1 p.2
  change s tags _ := .ok () { s with tags }
  missing id _ := .subnetNotFound id
  taken id _ := .invalidValue (.taken "Subnet" id)

instance : Filterable Subnet where
  tags := Subnet.tags
  attribute? s
    | "subnet-id" => some [s.id]
    | "vpc-id" => some [s.vpcId]
    | "cidr" | "cidr-block" | "cidrBlock" => some [s.block.render]
    | "availability-zone" | "availabilityZone" => some [s.zone]
    | "state" => some [available]
    | "owner-id" => some [s.ownerId]
    | _ => none

instance : ToTree Subnet where
  toTree s := .record [("subnet_id", .str s.id), ("vpc_id", .str s.vpcId),
    ("cidr_block", .str s.block.render), ("availability_zone", .str s.zone), ("state", .str available),
    ("owner_id", .str s.ownerId), ("available_ip_address_count", .nat s.availableAddresses),
    ("tags", toTree s.tags)]

end MockCloud.Network
