import MockCloud.Network.Acl
import MockCloud.Network.Gateway

/-! # The network of a place

The VPCs, subnets, access lists, public addresses and gateways of one account and region. They refer to
each other by ids: a subnet to its VPC, an access list to its VPC and to subnets, a gateway to its subnet
and to an address.

* `createVpc` makes a VPC together with its default access list, `deleteVpc` removes its lists with it.
* `createSubnet` makes a subnet and associates it with the default list.
* `createGateway` and `deleteGateway` take and give back a public address. -/

namespace MockCloud

/-- The network of one place. -/
structure Network where
  scope : Scope
  vpcs : Store Network.Vpc Scope
  subnets : Store Network.Subnet Scope
  acls : Store Network.Acl Scope
  addresses : Store Network.PublicAddress Scope
  gateways : Store Network.Gateway Scope

namespace Network

instance : Backend Network where
  service := "ec2"
  isGlobal := false
  new scope := ⟨scope, .new scope, .new scope, .new scope, .new scope, .new scope⟩
  scope := Network.scope

/-- The items with these ids, all if there are no ids; the first id that is missing is an error. -/
def pick {α : Type} (id : α → String) (missing : String → NetworkError) (items : List α)
    (ids : List String) : Except NetworkError (List α) :=
  if ids.isEmpty then .ok items
  else
    let picked := items.filter fun a => ids.contains (id a)
    match ids.find? fun i => !picked.any fun a => id a == i with
    | some i => .error (missing i)
    | none => .ok picked

/-- The items with these ids that fit the filters. -/
def describe {α : Type} [Filterable α] (id : α → String) (missing : String → NetworkError)
    (items : List α) (ids : List String) (filters : List Filter) : Except NetworkError (List α) :=
  match pick id missing items ids with
  | .error e => .error e
  | .ok picked => select picked filters

/-! ### Access lists -/

/-- The VPC of an id. -/
def getVpc (n : Network) (vpcId : String) : Except NetworkError Vpc :=
  n.vpcs.require vpcId

/-- Makes an access list for a VPC. -/
def addAcl (n : Network) (vpcId : String) (tags : List Tag) (isDefault : Bool) (stem : String) :
    Outcome Network NetworkError Acl :=
  .guard (n.getVpc vpcId) n fun _ =>
    (n.acls.create (Ident.resource "acl" stem) ⟨vpcId, isDefault, tags⟩).within ({ n with acls := · })

/-- Makes an access list without rules. -/
def createAcl (n : Network) (vpcId : String) (tags : List Tag) (stem : String) :
    Outcome Network NetworkError Acl :=
  n.addAcl vpcId tags false stem

/-- The access list of an id. -/
def getAcl (n : Network) (aclId : String) : Except NetworkError Acl :=
  n.acls.require aclId

/-- The default access list of a VPC. -/
def defaultAcl (n : Network) (vpcId : String) : Except NetworkError Acl :=
  match n.acls.values.find? fun a => a.isDefault && a.vpcId == vpcId with
  | some a => .ok a
  | none => .error (.vpcNotFound vpcId)

/-- Removes an access list that is not a default one and has no associations. -/
def deleteAcl (n : Network) (aclId : String) : Outcome Network NetworkError Acl :=
  (n.acls.delete aclId).within ({ n with acls := · })

/-- The access lists with these ids that fit the filters. -/
def describeAcls (n : Network) (ids : List String) (filters : List Filter) :
    Except NetworkError (List Acl) :=
  describe Acl.id .aclNotFound n.acls.values ids filters

/-- The network with the rules of one access list changed. -/
def setEntries (n : Network) (aclId : String) (entries : List AclEntry) : Network :=
  { n with acls := n.acls.modify aclId fun a => { a with entries } }

/-- Puts a rule behind the others of its list; its number and direction must be free. -/
def createEntry (n : Network) (aclId : String) (e : AclEntry) : Outcome Network NetworkError AclEntry :=
  .guard e.validate n fun _ =>
    .guard (n.getAcl aclId) n fun a =>
      if (a.entryAt? e.ruleNumber e.egress).isSome then .fail (.entryAlreadyExists e.ruleNumber) n
      else .ok e (n.setEntries aclId (a.entries ++ [e]))

/-- Removes the rule with this number and direction. -/
def deleteEntry (n : Network) (aclId : String) (ruleNumber : Nat) (egress : Bool) :
    Outcome Network NetworkError AclEntry :=
  .guard (n.getAcl aclId) n fun a =>
    match a.entryAt? ruleNumber egress, a.entry? ruleNumber egress with
    | some i, some e => .ok e (n.setEntries aclId (a.entries.eraseIdx i))
    | _, _ => .fail (.entryNotFound ruleNumber egress) n

/-- Puts a rule in the place of the one with its number and direction. -/
def replaceEntry (n : Network) (aclId : String) (e : AclEntry) : Outcome Network NetworkError AclEntry :=
  .guard e.validate n fun _ =>
    .guard (n.getAcl aclId) n fun a =>
      match a.entryAt? e.ruleNumber e.egress with
      | some i => .ok e (n.setEntries aclId (a.entries.set i e))
      | none => .fail (.entryNotFound e.ruleNumber e.egress) n

/-! ### Associations -/

/-- The network with an association put into the list that it names. -/
def putAssociation (n : Network) (a : AclAssociation) : Network :=
  { n with acls := n.acls.modify a.aclId fun acl =>
      { acl with associations := acl.associations.insert a.id a } }

/-- Moves the subnet of an association to another access list, under a new association. -/
def replaceAssociation (n : Network) (associationId aclId stem : String) :
    Outcome Network NetworkError AclAssociation :=
  .guard (n.getAcl aclId) n fun _ =>
    match n.acls.values.find? fun a => a.associations.contains associationId with
    | none => .fail (.associationNotFound associationId) n
    | some source =>
      match source.associations.get? associationId with
      | none => .fail (.associationNotFound associationId) n
      | some previous =>
        let association := ⟨Ident.resource "aclassoc" stem, aclId, previous.subnetId⟩
        let acls := n.acls.modify source.id fun acl =>
          { acl with associations := acl.associations.erase associationId }
        .ok association ({ n with acls }.putAssociation association)

/-- Associates a subnet with the default access list of a VPC. -/
def associateDefault (n : Network) (subnetId vpcId stem : String) :
    Outcome Network NetworkError AclAssociation :=
  .guard (n.defaultAcl vpcId) n fun acl =>
    let association := ⟨Ident.resource "aclassoc" stem, acl.id, subnetId⟩
    .ok association (n.putAssociation association)

/-- The first association of a subnet, in the order of the lists. -/
def subnetAssociation? (n : Network) (subnetId : String) : Option AclAssociation :=
  (n.acls.values.flatMap fun a => a.associations.values).find? (·.subnetId == subnetId)

/-! ### VPCs -/

/-- Makes a VPC and its default access list. -/
def createVpc (n : Network) (block : String) (tags : List Tag) (vpcStem aclStem : String) :
    Outcome Network NetworkError Vpc :=
  ((n.vpcs.create (Ident.resource "vpc" vpcStem) ⟨block, tags⟩).within ({ n with vpcs := · })).bind
    fun vpc n => (n.addAcl (Ident.resource "vpc" vpcStem) [] true aclStem).map fun _ => vpc

/-- The VPCs with these ids that fit the filters. -/
def describeVpcs (n : Network) (ids : List String) (filters : List Filter) :
    Except NetworkError (List Vpc) :=
  describe Vpc.id .vpcNotFound n.vpcs.values ids filters

/-- Removes a VPC without subnets, and its access lists with it. -/
def deleteVpc (n : Network) (vpcId : String) : Outcome Network NetworkError Unit :=
  .guard (n.getVpc vpcId) n fun _ =>
    if n.subnets.values.any (·.vpcId == vpcId) then .fail (.inUse "vpc" vpcId) n
    else
      let n := { n with acls := n.acls.retain (·.vpcId != vpcId) }
      ((n.vpcs.delete vpcId).within ({ n with vpcs := · })).done

/-! ### Subnets -/

/-- Makes a subnet in a VPC, whose block must hold the new one, apart from all others, and associates it
with the default access list. -/
def createSubnet (n : Network) (block : String) (p : NewSubnet) (subnetStem associationStem : String) :
    Outcome Network NetworkError Subnet :=
  .guard (n.getVpc p.vpcId) n fun vpc =>
    match Cidr.parse? block with
    | none => .fail (.invalidBlock block) n
    | some cidr =>
      if !vpc.block.contains cidr then .fail (.outsideVpc block) n
      else if n.subnets.values.any fun s =>
          s.vpcId == p.vpcId && (s.block.contains cidr || cidr.contains s.block) then
        .fail (.invalidValue (.overlap block)) n
      else
        let id := Ident.resource "subnet" subnetStem
        ((n.subnets.create id (cidr, p)).within ({ n with subnets := · })).bind fun subnet n =>
          (n.associateDefault id p.vpcId associationStem).map fun _ => subnet

/-- The subnet of an id. -/
def getSubnet (n : Network) (subnetId : String) : Except NetworkError Subnet :=
  n.subnets.require subnetId

/-- The subnets with these ids that fit the filters. -/
def describeSubnets (n : Network) (ids : List String) (filters : List Filter) :
    Except NetworkError (List Subnet) :=
  describe Subnet.id .subnetNotFound n.subnets.values ids filters

/-- Removes a subnet without gateways, and its associations with it. -/
def deleteSubnet (n : Network) (subnetId : String) : Outcome Network NetworkError Unit :=
  .guard (n.getSubnet subnetId) n fun _ =>
    if n.gateways.values.any (·.subnetId == subnetId) then .fail (.inUse "subnet" subnetId) n
    else
      let acls := n.acls.modifyAll fun a =>
        { a with associations := a.associations.filter fun _ x => x.subnetId != subnetId }
      let n := { n with acls }
      ((n.subnets.delete subnetId).within ({ n with subnets := · })).done

/-! ### Public addresses and gateways -/

/-- Allocates a public address, for a VPC unless another domain is named. -/
def allocateAddress (n : Network) (domain : Option String) (stem : String) (d : Draws) :
    Outcome Network NetworkError PublicAddress :=
  (n.addresses.create (Ident.resource "eipalloc" stem) (domain.getD "vpc", d)).within
    ({ n with addresses := · })

/-- The public addresses with these ids. -/
def describeAddresses (n : Network) (ids : List String) : Except NetworkError (List PublicAddress) :=
  pick PublicAddress.id .allocationNotFound n.addresses.values ids

/-- Releases a public address that no gateway has. -/
def releaseAddress (n : Network) (allocationId : String) : Outcome Network NetworkError Unit :=
  ((n.addresses.delete allocationId).within ({ n with addresses := · })).done

/-- What is drawn for a gateway, and when. -/
structure GatewayDraw where
  stem : String
  interfaceStem : String
  host : UInt64
  time : Instant

/-- Makes a gateway in a subnet; it takes a public address that no other gateway has. -/
def createGateway (n : Network) (subnetId allocationId : String) (tags : List Tag) (draw : GatewayDraw) :
    Outcome Network NetworkError Gateway :=
  .guard (n.getSubnet subnetId) n fun subnet =>
    .guard (n.addresses.require allocationId) n fun address =>
      if address.interfaceId.isSome then .fail (.invalidValue (.addressAssociated allocationId)) n
      else
        let interface := Ident.resource "eni" draw.interfaceStem
        let privateIp := addressText (subnet.block.drawHost draw.host)
        let p : NewGateway :=
          ⟨subnetId, subnet.vpcId, ⟨allocationId, interface, privateIp, address.publicIp⟩, tags, draw.time⟩
        ((n.gateways.create (Ident.resource "nat" draw.stem) p).within ({ n with gateways := · })).bind
          fun gateway n =>
            .ok gateway { n with addresses := n.addresses.modify allocationId fun a =>
              { a with interfaceId := some interface } }

/-- Sizes of the pages of gateways. -/
def gatewayPageLimits : PageLimits := ⟨1000, 1000⟩

/-- The parameters of a listing of gateways. -/
def gatewayParams (ids : List String) (filters : List Filter) : Json.Tree :=
  .list [.strs ids,
    .list (filters.map fun f => .record [("name", .str f.name), ("values", .strs f.values)])]

/-- A page of the gateways with these ids that fit the filters. -/
def describeGateways (n : Network) (ids : List String) (filters : List Filter) (request : PageRequest) :
    Except NetworkError (Page Gateway) :=
  match describe Gateway.id .gatewayNotFound n.gateways.values ids filters with
  | .error e => .error e
  | .ok gateways =>
    (paginate gateways request gatewayPageLimits (gatewayParams ids filters) Gateway.id).mapError
      .invalidPageToken

/-- The network with public addresses given back by a gateway. -/
def freeAddresses (n : Network) (addresses : List GatewayAddress) : Network :=
  addresses.foldl
    (fun n a => { n with addresses := n.addresses.modify a.allocationId fun x =>
      { x with interfaceId := none } })
    n

/-- Removes a gateway, which gives its public address back. -/
def deleteGateway (n : Network) (gatewayId : String) : Outcome Network NetworkError String :=
  ((n.gateways.delete gatewayId).within ({ n with gateways := · })).bind fun gateway n =>
    .ok gateway.id (n.freeAddresses gateway.addresses)

end Network

end MockCloud
