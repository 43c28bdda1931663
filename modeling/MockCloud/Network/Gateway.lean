import MockCloud.Ident
import MockCloud.Instant
import MockCloud.Network.Vpc

/-! # Public addresses and gateways

A public address is allocated and then lent to a gateway, which lets the hosts of a subnet out. While a
gateway has the address, the address names the gateway's interface and cannot be released. -/

namespace MockCloud.Network

open Json (ToTree Tree toTree)

/-! ### Public addresses -/

/-- An allocated public address. -/
structure PublicAddress where
  id : String
  publicIp : String
  domain : String
  /-- The interface of the gateway that has the address. -/
  interfaceId : Option String
  tags : TagMap
  deriving DecidableEq

/-- A public address from three draws. -/
def drawPublicIp (d : Draws) : String :=
  "54." ++ Text.decimal (d 0 % 256) ++ "." ++ Text.decimal (d 1 % 256) ++ "." ++
    Text.decimal (d 2 % 254 + 1)

namespace PublicAddress

/-- Makes an address for one of the two domains. -/
def make (id domain : String) (d : Draws) : Except NetworkError PublicAddress :=
  if domain = "vpc" ∨ domain = "standard" then .ok ⟨id, drawPublicIp d, domain, none, .empty⟩
  else .error (.invalidValue (.addressDomain domain))

theorem make_eq_ok {id domain : String} {d : Draws} {a : PublicAddress} (h : make id domain d = .ok a) :
    a = ⟨id, drawPublicIp d, domain, none, .empty⟩ := by
  unfold make at h
  split at h
  · cases h; rfl
  · cases h

/-- An address that a gateway has may not be released. -/
def mayGo (a : PublicAddress) : Except NetworkError Unit :=
  match a.interfaceId with
  | some interface => .error (.invalidValue (.addressInUse a.id interface))
  | none => .ok ()

theorem mayGo_eq_ok_iff {a : PublicAddress} : a.mayGo = .ok () ↔ a.interfaceId = none := by
  unfold mayGo
  cases a.interfaceId <;> simp

end PublicAddress

instance : Entity PublicAddress (String × Draws) TagMap Scope NetworkError where
  id := PublicAddress.id
  make id p _ := PublicAddress.make id p.1 p.2
  change a tags _ := .ok () { a with tags }
  mayGo a _ := a.mayGo
  missing id _ := .allocationNotFound id
  taken id _ := .invalidValue (.taken "Allocation" id)

instance : ToTree PublicAddress where
  toTree a := .record [("allocation_id", .str a.id), ("public_ip", .str a.publicIp),
    ("domain", .str a.domain), ("network_interface_id", toTree a.interfaceId), ("tags", toTree a.tags)]

/-! ### Gateways -/

/-- The address that a gateway has, outside and inside. -/
structure GatewayAddress where
  allocationId : String
  interfaceId : String
  privateIp : String
  publicIp : String
  deriving DecidableEq, Repr

/-- A gateway. -/
structure Gateway where
  id : String
  subnetId : String
  vpcId : String
  created : Instant
  addresses : List GatewayAddress
  tags : TagMap
  deriving DecidableEq

/-- What a gateway is made from. -/
structure NewGateway where
  subnetId : String
  vpcId : String
  address : GatewayAddress
  tags : List Tag
  created : Instant

/-- Makes a gateway. -/
def Gateway.make (id : String) (p : NewGateway) : Except NetworkError Gateway := do
  let tags ← checkedTags p.tags
  return ⟨id, p.subnetId, p.vpcId, p.created, [p.address], tags⟩

theorem Gateway.make_eq_ok {id : String} {p : NewGateway} {g : Gateway} (h : Gateway.make id p = .ok g) :
    ∃ tags, checkedTags p.tags = .ok tags ∧ g = ⟨id, p.subnetId, p.vpcId, p.created, [p.address], tags⟩ := by
  unfold Gateway.make at h
  cases ht : checkedTags p.tags with
  | error e => rw [ht] at h; cases h
  | ok tags => rw [ht] at h; cases h; exact ⟨tags, rfl, rfl⟩

instance : Entity Gateway NewGateway TagMap Scope NetworkError where
  id := Gateway.id
  make id p _ := Gateway.make id p
  change g tags _ := .ok () { g with tags }
  missing id _ := .gatewayNotFound id
  taken id _ := .invalidValue (.taken "NatGateway" id)

instance : Filterable Gateway where
  tags := Gateway.tags
  attribute? g
    | "nat-gateway-id" => some [g.id]
    | "vpc-id" => some [g.vpcId]
    | "subnet-id" => some [g.subnetId]
    | "state" => some [available]
    | _ => none

instance : ToTree GatewayAddress where
  toTree a := .record [("allocation_id", .str a.allocationId),
    ("network_interface_id", .str a.interfaceId), ("private_ip", .str a.privateIp),
    ("public_ip", .str a.publicIp)]

instance [ToTree Instant] : ToTree Gateway where
  toTree g := .record [("nat_gateway_id", .str g.id), ("subnet_id", .str g.subnetId),
    ("vpc_id", .str g.vpcId), ("state", .str available), ("connectivity_type", .str "public"),
    ("create_time", toTree g.created), ("addresses", toTree g.addresses), ("tags", toTree g.tags)]

end MockCloud.Network
