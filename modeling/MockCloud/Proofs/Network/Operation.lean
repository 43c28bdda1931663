import MockCloud.Network.Labels

/-! # Runs of a network

The operations that change a network, as data, and what each of them can do. The identifiers that an
operation makes are among its arguments, so an operation is a function of the network, and a run is a fold
over a list of operations.

* `Effect n op o`: the rules by which an operation comes to its outcome, one rule for each way to end.
  A refused operation leaves the network alone; `vpcLeft` and `subnetLeft` are the two ways to fail
  half-way.
* `perform_effect`: every operation obeys a rule. All invariants are proved by cases on the rules.
* `drawnIds`: the identifiers made by a run, which repeat only if the draws do. -/

namespace MockCloud.Network

/-- An operation that changes the network, with all its arguments. -/
inductive Op where
  | createVpc (block : String) (tags : List Tag) (vpcStem aclStem : String)
  | deleteVpc (vpcId : String)
  | createSubnet (block : String) (p : NewSubnet) (subnetStem associationStem : String)
  | deleteSubnet (subnetId : String)
  | createAcl (vpcId : String) (tags : List Tag) (stem : String)
  | deleteAcl (aclId : String)
  | createEntry (aclId : String) (e : AclEntry)
  | deleteEntry (aclId : String) (ruleNumber : Nat) (egress : Bool)
  | replaceEntry (aclId : String) (e : AclEntry)
  | replaceAssociation (associationId aclId stem : String)
  | associateDefault (subnetId vpcId stem : String)
  | allocateAddress (domain : Option String) (stem : String) (draws : Draws)
  | releaseAddress (allocationId : String)
  | createGateway (subnetId allocationId : String) (tags : List Tag) (draw : GatewayDraw)
  | deleteGateway (gatewayId : String)
  | createTags (ids : List String) (tags : List Tag)
  | deleteTags (ids : List String) (removals : List TagRemoval)

/-- The identifiers that an operation makes. -/
def Op.ids : Op → List String
  | createVpc _ _ vpcStem aclStem => [Ident.resource "vpc" vpcStem, Ident.resource "acl" aclStem]
  | createSubnet _ _ subnetStem associationStem =>
    [Ident.resource "subnet" subnetStem, Ident.resource "aclassoc" associationStem]
  | createAcl _ _ stem => [Ident.resource "acl" stem]
  | replaceAssociation _ _ stem | associateDefault _ _ stem => [Ident.resource "aclassoc" stem]
  | allocateAddress _ stem _ => [Ident.resource "eipalloc" stem]
  | createGateway _ _ _ draw => [Ident.resource "nat" draw.stem, Ident.resource "eni" draw.interfaceStem]
  | _ => []

/-- The outcome of an operation, its answer left out. -/
def perform (n : Network) : Op → Outcome Network NetworkError Unit
  | .createVpc block tags vpcStem aclStem => (n.createVpc block tags vpcStem aclStem).done
  | .deleteVpc vpcId => n.deleteVpc vpcId
  | .createSubnet block p subnetStem associationStem =>
    (n.createSubnet block p subnetStem associationStem).done
  | .deleteSubnet subnetId => n.deleteSubnet subnetId
  | .createAcl vpcId tags stem => (n.createAcl vpcId tags stem).done
  | .deleteAcl aclId => (n.deleteAcl aclId).done
  | .createEntry aclId e => (n.createEntry aclId e).done
  | .deleteEntry aclId ruleNumber egress => (n.deleteEntry aclId ruleNumber egress).done
  | .replaceEntry aclId e => (n.replaceEntry aclId e).done
  | .replaceAssociation associationId aclId stem => (n.replaceAssociation associationId aclId stem).done
  | .associateDefault subnetId vpcId stem => (n.associateDefault subnetId vpcId stem).done
  | .allocateAddress domain stem draws => (n.allocateAddress domain stem draws).done
  | .releaseAddress allocationId => n.releaseAddress allocationId
  | .createGateway subnetId allocationId tags draw =>
    (n.createGateway subnetId allocationId tags draw).done
  | .deleteGateway gatewayId => (n.deleteGateway gatewayId).done
  | .createTags ids tags => n.createTags ids tags
  | .deleteTags ids removals => n.deleteTags ids removals

/-- The network after an operation, whether it succeeds or fails. -/
def step (n : Network) (op : Op) : Network :=
  (n.perform op).state

/-- The network after a run. -/
def run (n : Network) (ops : List Op) : Network :=
  ops.foldl step n

/-- The identifiers made in a run, in order. -/
def drawnIds (ops : List Op) : List String :=
  ops.flatMap Op.ids

/-- A network in which nothing has been made. -/
def blank (scope : Scope) : Network :=
  Backend.new scope

/-- The place that is taken where it does not matter. -/
def home : Scope :=
  { account := "123456789012", region := "us-east-1" }

theorem run_append (n : Network) (ops ops' : List Op) : n.run (ops ++ ops') = (n.run ops).run ops' :=
  List.foldl_append

theorem run_concat (n : Network) (ops : List Op) (op : Op) :
    n.run (ops ++ [op]) = (n.run ops).step op := by
  rw [run_append]; rfl

@[simp] theorem drawnIds_append (ops ops' : List Op) :
    drawnIds (ops ++ ops') = drawnIds ops ++ drawnIds ops' :=
  List.flatMap_append

/-! ### The rules -/

/-- The network with an association taken out of a list. -/
def takeAssociation (n : Network) (aclId associationId : String) : Network :=
  { n with acls := n.acls.modify aclId fun acl =>
      { acl with associations := acl.associations.erase associationId } }

/-- The network with the associations of a subnet taken out of all lists. -/
def clearAssociations (n : Network) (subnetId : String) : Network :=
  { n with acls := n.acls.modifyAll fun a =>
      { a with associations := a.associations.filter fun _ x => x.subnetId != subnetId } }

/-- The rules by which an operation on `n` comes to its outcome. -/
inductive Effect (n : Network) : Op → Outcome Network NetworkError Unit → Prop
  | refused {op : Op} (e : NetworkError) : Effect n op (.fail e n)
  | vpcCreated {block : String} {tags : List Tag} {vpcStem aclStem : String} {vpc : Vpc} {acl : Acl}
      (free : n.vpcs.get? (Ident.resource "vpc" vpcStem) = none)
      (made : Vpc.make (Ident.resource "vpc" vpcStem) ⟨block, tags⟩ n.vpcs.context = .ok vpc)
      (aclFree : n.acls.get? (Ident.resource "acl" aclStem) = none)
      (aclMade : Acl.make (Ident.resource "acl" aclStem) ⟨Ident.resource "vpc" vpcStem, true, []⟩
        n.acls.context = .ok acl) :
      Effect n (.createVpc block tags vpcStem aclStem)
        (.ok () { n with vpcs := n.vpcs.put (Ident.resource "vpc" vpcStem) vpc,
                         acls := n.acls.put (Ident.resource "acl" aclStem) acl })
  | vpcLeft {block : String} {tags : List Tag} {vpcStem aclStem : String} {vpc : Vpc} (e : NetworkError)
      (free : n.vpcs.get? (Ident.resource "vpc" vpcStem) = none)
      (made : Vpc.make (Ident.resource "vpc" vpcStem) ⟨block, tags⟩ n.vpcs.context = .ok vpc)
      (aclTaken : n.acls.get? (Ident.resource "acl" aclStem) ≠ none) :
      Effect n (.createVpc block tags vpcStem aclStem)
        (.fail e { n with vpcs := n.vpcs.put (Ident.resource "vpc" vpcStem) vpc })
  | vpcDeleted {vpcId : String} {vpc : Vpc} (there : n.vpcs.get? vpcId = some vpc)
      (unused : ∀ k s, n.subnets.get? k = some s → s.vpcId ≠ vpcId) :
      Effect n (.deleteVpc vpcId)
        (.ok () { n with acls := n.acls.retain (·.vpcId != vpcId), vpcs := n.vpcs.drop vpcId })
  | subnetCreated {block : String} {p : NewSubnet} {subnetStem associationStem : String} {vpc : Vpc}
      {cidr : Cidr} {subnet : Subnet} {acl : Acl}
      (there : n.vpcs.get? p.vpcId = some vpc) (parsed : Cidr.parse? block = some cidr)
      (inside : vpc.block.contains cidr = true)
      (apart : ∀ k s, n.subnets.get? k = some s → s.vpcId = p.vpcId →
        s.block.contains cidr = false ∧ cidr.contains s.block = false)
      (free : n.subnets.get? (Ident.resource "subnet" subnetStem) = none)
      (made : Subnet.make (Ident.resource "subnet" subnetStem) cidr p n.subnets.context = .ok subnet)
      (default : n.defaultAcl p.vpcId = .ok acl) :
      Effect n (.createSubnet block p subnetStem associationStem)
        (.ok () ({ n with subnets := n.subnets.put (Ident.resource "subnet" subnetStem) subnet
          }.putAssociation ⟨Ident.resource "aclassoc" associationStem, acl.id,
            Ident.resource "subnet" subnetStem⟩))
  | subnetLeft {block : String} {p : NewSubnet} {subnetStem associationStem : String} {vpc : Vpc}
      {cidr : Cidr} {subnet : Subnet} (e : NetworkError)
      (there : n.vpcs.get? p.vpcId = some vpc) (parsed : Cidr.parse? block = some cidr)
      (inside : vpc.block.contains cidr = true)
      (apart : ∀ k s, n.subnets.get? k = some s → s.vpcId = p.vpcId →
        s.block.contains cidr = false ∧ cidr.contains s.block = false)
      (free : n.subnets.get? (Ident.resource "subnet" subnetStem) = none)
      (made : Subnet.make (Ident.resource "subnet" subnetStem) cidr p n.subnets.context = .ok subnet)
      (noDefault : ∀ acl, n.defaultAcl p.vpcId ≠ .ok acl) :
      Effect n (.createSubnet block p subnetStem associationStem)
        (.fail e { n with subnets := n.subnets.put (Ident.resource "subnet" subnetStem) subnet })
  | subnetDeleted {subnetId : String} {subnet : Subnet} (there : n.subnets.get? subnetId = some subnet)
      (unused : ∀ k g, n.gateways.get? k = some g → g.subnetId ≠ subnetId) :
      Effect n (.deleteSubnet subnetId)
        (.ok () { n.clearAssociations subnetId with subnets := n.subnets.drop subnetId })
  | aclCreated {vpcId : String} {tags : List Tag} {stem : String} {vpc : Vpc} {acl : Acl}
      (there : n.vpcs.get? vpcId = some vpc)
      (free : n.acls.get? (Ident.resource "acl" stem) = none)
      (made : Acl.make (Ident.resource "acl" stem) ⟨vpcId, false, tags⟩ n.acls.context = .ok acl) :
      Effect n (.createAcl vpcId tags stem)
        (.ok () { n with acls := n.acls.put (Ident.resource "acl" stem) acl })
  | aclDeleted {aclId : String} {acl : Acl} (there : n.acls.get? aclId = some acl)
      (mayGo : acl.mayGo = .ok ()) :
      Effect n (.deleteAcl aclId) (.ok () { n with acls := n.acls.drop aclId })
  | entryCreated {aclId : String} {e : AclEntry} {acl : Acl} (valid : e.validate = .ok ())
      (there : n.acls.get? aclId = some acl) (free : acl.entryAt? e.ruleNumber e.egress = none) :
      Effect n (.createEntry aclId e) (.ok () (n.setEntries aclId (acl.entries ++ [e])))
  | entryDeleted {aclId : String} {ruleNumber : Nat} {egress : Bool} {acl : Acl} {i : Nat}
      (there : n.acls.get? aclId = some acl) (found : acl.entryAt? ruleNumber egress = some i) :
      Effect n (.deleteEntry aclId ruleNumber egress)
        (.ok () (n.setEntries aclId (acl.entries.eraseIdx i)))
  | entryReplaced {aclId : String} {e : AclEntry} {acl : Acl} {i : Nat} (valid : e.validate = .ok ())
      (there : n.acls.get? aclId = some acl) (found : acl.entryAt? e.ruleNumber e.egress = some i) :
      Effect n (.replaceEntry aclId e) (.ok () (n.setEntries aclId (acl.entries.set i e)))
  | associationReplaced {associationId aclId stem : String} {target source : Acl}
      {previous : AclAssociation} (there : n.acls.get? aclId = some target)
      (holder : n.acls.values.find? (fun a => a.associations.contains associationId) = some source)
      (held : source.associations.get? associationId = some previous) :
      Effect n (.replaceAssociation associationId aclId stem)
        (.ok () ((n.takeAssociation source.id associationId).putAssociation
          ⟨Ident.resource "aclassoc" stem, aclId, previous.subnetId⟩))
  | defaultAssociated {subnetId vpcId stem : String} {acl : Acl} (default : n.defaultAcl vpcId = .ok acl) :
      Effect n (.associateDefault subnetId vpcId stem)
        (.ok () (n.putAssociation ⟨Ident.resource "aclassoc" stem, acl.id, subnetId⟩))
  | addressAllocated {domain : Option String} {stem : String} {draws : Draws} {address : PublicAddress}
      (free : n.addresses.get? (Ident.resource "eipalloc" stem) = none)
      (made : PublicAddress.make (Ident.resource "eipalloc" stem) (domain.getD "vpc") draws = .ok address) :
      Effect n (.allocateAddress domain stem draws)
        (.ok () { n with addresses := n.addresses.put (Ident.resource "eipalloc" stem) address })
  | addressReleased {allocationId : String} {address : PublicAddress}
      (there : n.addresses.get? allocationId = some address) (mayGo : address.mayGo = .ok ()) :
      Effect n (.releaseAddress allocationId)
        (.ok () { n with addresses := n.addresses.drop allocationId })
  | gatewayCreated {subnetId allocationId : String} {tags : List Tag} {draw : GatewayDraw}
      {subnet : Subnet} {address : PublicAddress} {gateway : Gateway}
      (there : n.subnets.get? subnetId = some subnet)
      (allocated : n.addresses.get? allocationId = some address) (idle : address.interfaceId = none)
      (free : n.gateways.get? (Ident.resource "nat" draw.stem) = none)
      (made : Gateway.make (Ident.resource "nat" draw.stem)
        ⟨subnetId, subnet.vpcId, ⟨allocationId, Ident.resource "eni" draw.interfaceStem,
          addressText (subnet.block.drawHost draw.host), address.publicIp⟩, tags, draw.time⟩ = .ok gateway) :
      Effect n (.createGateway subnetId allocationId tags draw)
        (.ok () { n with
          gateways := n.gateways.put (Ident.resource "nat" draw.stem) gateway,
          addresses := n.addresses.modify allocationId fun a =>
            { a with interfaceId := some (Ident.resource "eni" draw.interfaceStem) } })
  | gatewayDeleted {gatewayId : String} {gateway : Gateway}
      (there : n.gateways.get? gatewayId = some gateway) :
      Effect n (.deleteGateway gatewayId)
        (.ok () ({ n with gateways := n.gateways.drop gatewayId }.freeAddresses gateway.addresses))
  | tagged {ids : List String} {tags : List Tag} {merged : List (String × TagMap)}
      (allowed : n.mergedTags (.ofTags tags) ids = .ok merged) :
      Effect n (.createTags ids tags)
        (.ok () (merged.foldl (fun n x => n.changeTags x.1 fun _ => x.2) n))
  | untagged {ids : List String} {removals : List TagRemoval}
      (known : (ids.forM fun id => (n.requireTags id).map fun _ => ()) = .ok ()) :
      Effect n (.deleteTags ids removals)
        (.ok () (ids.foldl
          (fun n id => n.changeTags id fun tags => removals.foldl TagRemoval.apply tags) n))

/-! ### Every operation obeys a rule -/

section

variable (n : Network)

theorem getVpc_cases (vpcId : String) :
    (∃ e, n.getVpc vpcId = .error e) ∨ ∃ vpc, n.vpcs.get? vpcId = some vpc ∧ n.getVpc vpcId = .ok vpc := by
  rcases Store.require_cases n.vpcs vpcId with ⟨-, h⟩ | h
  · exact .inl ⟨_, h⟩
  · exact .inr h

theorem getAcl_cases (aclId : String) :
    (∃ e, n.getAcl aclId = .error e) ∨ ∃ acl, n.acls.get? aclId = some acl ∧ n.getAcl aclId = .ok acl := by
  rcases Store.require_cases n.acls aclId with ⟨-, h⟩ | h
  · exact .inl ⟨_, h⟩
  · exact .inr h

theorem getSubnet_cases (subnetId : String) :
    (∃ e, n.getSubnet subnetId = .error e) ∨
      ∃ subnet, n.subnets.get? subnetId = some subnet ∧ n.getSubnet subnetId = .ok subnet := by
  rcases Store.require_cases n.subnets subnetId with ⟨-, h⟩ | h
  · exact .inl ⟨_, h⟩
  · exact .inr h

/-- A list without tags of its own is always made. -/
theorem acl_make_untagged (id vpcId : String) (isDefault : Bool) (scope : Scope) :
    Acl.make id ⟨vpcId, isDefault, []⟩ scope =
      .ok ⟨id, vpcId, scope.account, isDefault, if isDefault then defaultEntries else [], .empty, .empty⟩ :=
  rfl

theorem createVpc_effect (block : String) (tags : List Tag) (vpcStem aclStem : String) :
    Effect n (.createVpc block tags vpcStem aclStem) (n.createVpc block tags vpcStem aclStem).done := by
  unfold createVpc addAcl
  rcases Store.create_cases n.vpcs (Ident.resource "vpc" vpcStem) ⟨block, tags⟩ with
    ⟨e, -, h⟩ | ⟨vpc, free, made, h⟩
  · rw [h]; exact .refused e
  · have there : getVpc { n with vpcs := n.vpcs.put (Ident.resource "vpc" vpcStem) vpc }
        (Ident.resource "vpc" vpcStem) = .ok vpc :=
      Store.require_eq_ok_iff.2 (by rw [Store.get?_put, if_pos rfl])
    simp only [h, Outcome.within_ok, Outcome.bind_ok, there, Outcome.guard_ok]
    rcases Store.create_cases n.acls (Ident.resource "acl" aclStem)
        ⟨Ident.resource "vpc" vpcStem, true, []⟩ with ⟨e, why, h'⟩ | ⟨acl, aclFree, aclMade, h'⟩
    · rw [h']
      refine .vpcLeft e free made (why.resolve_right fun why => ?_)
      exact absurd ((acl_make_untagged ..).symm.trans why) (by simp)
    · rw [h']; exact .vpcCreated free made aclFree aclMade

theorem deleteVpc_effect (vpcId : String) : Effect n (.deleteVpc vpcId) (n.deleteVpc vpcId) := by
  unfold deleteVpc
  rcases n.getVpc_cases vpcId with ⟨e, h⟩ | ⟨vpc, there, h⟩
  · rw [h]; exact .refused e
  · rw [h, Outcome.guard_ok]
    split
    · exact .refused _
    · next unused =>
      have unused : ∀ k s, n.subnets.get? k = some s → s.vpcId ≠ vpcId := by
        intro k s hs he
        exact unused (List.any_eq_true.2 ⟨s, Store.mem_values_iff.2 ⟨k, hs⟩, by simp [he]⟩)
      rcases Store.delete_cases n.vpcs vpcId with ⟨e, h'⟩ | ⟨a, -, -, h'⟩
      · -- a VPC that is there may always go
        have : n.vpcs.delete vpcId = .ok vpc (n.vpcs.drop vpcId) := by
          unfold Store.delete
          rw [Store.require_eq_ok_iff.2 there]; rfl
        rw [this] at h'; cases h'
      · simp only [h', Outcome.within_ok, Outcome.done_ok]
        exact .vpcDeleted there unused

theorem createSubnet_effect (block : String) (p : NewSubnet) (subnetStem associationStem : String) :
    Effect n (.createSubnet block p subnetStem associationStem)
      (n.createSubnet block p subnetStem associationStem).done := by
  unfold createSubnet
  rcases n.getVpc_cases p.vpcId with ⟨e, h⟩ | ⟨vpc, there, h⟩
  · rw [h]; exact .refused e
  rw [h, Outcome.guard_ok]
  cases parsed : Cidr.parse? block with
  | none => exact .refused _
  | some cidr =>
    simp only
    split
    · exact .refused _
    next inside =>
    split
    · exact .refused _
    next apart =>
    have inside : vpc.block.contains cidr = true := by simpa using inside
    have apart : ∀ k s, n.subnets.get? k = some s → s.vpcId = p.vpcId →
        s.block.contains cidr = false ∧ cidr.contains s.block = false := by
      intro k s hs he
      have := List.any_eq_false.1 (Bool.not_eq_true _ ▸ apart) s (Store.mem_values_iff.2 ⟨k, hs⟩)
      simpa [he] using this
    rcases Store.create_cases n.subnets (Ident.resource "subnet" subnetStem) (cidr, p) with
      ⟨e, -, h'⟩ | ⟨subnet, free, made, h'⟩
    · rw [h']; exact .refused e
    · simp only [h', Outcome.within_ok, Outcome.bind_ok, associateDefault]
      cases default : n.defaultAcl p.vpcId with
      | error e =>
        rw [show defaultAcl { n with subnets := n.subnets.put _ subnet } p.vpcId = .error e from default]
        exact .subnetLeft e there parsed inside apart free made (by simp [default])
      | ok acl =>
        rw [show defaultAcl { n with subnets := n.subnets.put _ subnet } p.vpcId = .ok acl from default]
        exact .subnetCreated there parsed inside apart free made default

theorem deleteSubnet_effect (subnetId : String) :
    Effect n (.deleteSubnet subnetId) (n.deleteSubnet subnetId) := by
  unfold deleteSubnet
  rcases n.getSubnet_cases subnetId with ⟨e, h⟩ | ⟨subnet, there, h⟩
  · rw [h]; exact .refused e
  · rw [h, Outcome.guard_ok]
    split
    · exact .refused _
    · next unused =>
      have unused : ∀ k g, n.gateways.get? k = some g → g.subnetId ≠ subnetId := by
        intro k g hg he
        exact unused (List.any_eq_true.2 ⟨g, Store.mem_values_iff.2 ⟨k, hg⟩, by simp [he]⟩)
      have gone : n.subnets.delete subnetId = .ok subnet (n.subnets.drop subnetId) := by
        unfold Store.delete
        rw [Store.require_eq_ok_iff.2 there]; rfl
      simp only [gone, Outcome.within_ok, Outcome.done_ok]
      exact .subnetDeleted there unused

theorem createAcl_effect (vpcId : String) (tags : List Tag) (stem : String) :
    Effect n (.createAcl vpcId tags stem) (n.createAcl vpcId tags stem).done := by
  unfold createAcl addAcl
  rcases n.getVpc_cases vpcId with ⟨e, h⟩ | ⟨vpc, there, h⟩
  · rw [h]; exact .refused e
  · rw [h, Outcome.guard_ok]
    rcases Store.create_cases n.acls (Ident.resource "acl" stem) ⟨vpcId, false, tags⟩ with
      ⟨e, -, h'⟩ | ⟨acl, free, made, h'⟩
    · rw [h']; exact .refused e
    · rw [h']; exact .aclCreated there free made

theorem deleteAcl_effect (aclId : String) : Effect n (.deleteAcl aclId) (n.deleteAcl aclId).done := by
  unfold deleteAcl
  rcases Store.delete_cases n.acls aclId with ⟨e, h⟩ | ⟨acl, there, mayGo, h⟩
  · rw [h]; exact .refused e
  · rw [h]; exact .aclDeleted there mayGo

/-! #### Rules of the access lists -/

theorem createEntry_effect (aclId : String) (e : AclEntry) :
    Effect n (.createEntry aclId e) (n.createEntry aclId e).done := by
  unfold createEntry
  rcases Outcome.guard_cases e.validate n _ with ⟨e', -, h⟩ | ⟨⟨⟩, valid, h⟩
  · rw [h]; exact .refused e'
  · rw [h]
    rcases n.getAcl_cases aclId with ⟨e', h⟩ | ⟨acl, there, h⟩
    · rw [h]; exact .refused e'
    · rw [h, Outcome.guard_ok]
      split
      · exact .refused _
      · next free => exact .entryCreated valid there (by simpa using free)

theorem deleteEntry_effect (aclId : String) (ruleNumber : Nat) (egress : Bool) :
    Effect n (.deleteEntry aclId ruleNumber egress) (n.deleteEntry aclId ruleNumber egress).done := by
  unfold deleteEntry
  rcases n.getAcl_cases aclId with ⟨e', h⟩ | ⟨acl, there, h⟩
  · rw [h]; exact .refused e'
  · rw [h, Outcome.guard_ok]
    split
    · next found _ => exact .entryDeleted there found
    · exact .refused _

theorem replaceEntry_effect (aclId : String) (e : AclEntry) :
    Effect n (.replaceEntry aclId e) (n.replaceEntry aclId e).done := by
  unfold replaceEntry
  rcases Outcome.guard_cases e.validate n _ with ⟨e', -, h⟩ | ⟨⟨⟩, valid, h⟩
  · rw [h]; exact .refused e'
  · rw [h]
    rcases n.getAcl_cases aclId with ⟨e', h⟩ | ⟨acl, there, h⟩
    · rw [h]; exact .refused e'
    · rw [h, Outcome.guard_ok]
      split
      · next found => exact .entryReplaced valid there found
      · exact .refused _

/-! #### Associations -/

theorem replaceAssociation_effect (associationId aclId stem : String) :
    Effect n (.replaceAssociation associationId aclId stem)
      (n.replaceAssociation associationId aclId stem).done := by
  unfold replaceAssociation
  rcases n.getAcl_cases aclId with ⟨e', h⟩ | ⟨target, there, h⟩
  · rw [h]; exact .refused e'
  · rw [h, Outcome.guard_ok]
    split
    · exact .refused _
    · next source holder =>
      split
      · exact .refused _
      · next previous held => exact .associationReplaced there holder held

theorem associateDefault_effect (subnetId vpcId stem : String) :
    Effect n (.associateDefault subnetId vpcId stem) (n.associateDefault subnetId vpcId stem).done := by
  unfold associateDefault
  rcases Outcome.guard_cases (n.defaultAcl vpcId) n _ with ⟨e, -, h⟩ | ⟨acl, default, h⟩
  · rw [h]; exact .refused e
  · rw [h]; exact .defaultAssociated default

/-! #### Addresses and gateways -/

theorem allocateAddress_effect (domain : Option String) (stem : String) (draws : Draws) :
    Effect n (.allocateAddress domain stem draws) (n.allocateAddress domain stem draws).done := by
  unfold allocateAddress
  rcases Store.create_cases n.addresses (Ident.resource "eipalloc" stem) (domain.getD "vpc", draws) with
    ⟨e, -, h⟩ | ⟨address, free, made, h⟩
  · rw [h]; exact .refused e
  · rw [h]; exact .addressAllocated free made

theorem releaseAddress_effect (allocationId : String) :
    Effect n (.releaseAddress allocationId) (n.releaseAddress allocationId) := by
  unfold releaseAddress
  rcases Store.delete_cases n.addresses allocationId with ⟨e, h⟩ | ⟨address, there, mayGo, h⟩
  · rw [h]; exact .refused e
  · rw [h]; exact .addressReleased there mayGo

theorem createGateway_effect (subnetId allocationId : String) (tags : List Tag) (draw : GatewayDraw) :
    Effect n (.createGateway subnetId allocationId tags draw)
      (n.createGateway subnetId allocationId tags draw).done := by
  unfold createGateway
  rcases n.getSubnet_cases subnetId with ⟨e, h⟩ | ⟨subnet, there, h⟩
  · rw [h]; exact .refused e
  rw [h, Outcome.guard_ok]
  rcases Store.require_cases n.addresses allocationId with ⟨-, h⟩ | ⟨address, allocated, h⟩
  · rw [h]; exact .refused _
  rw [h, Outcome.guard_ok]
  split
  · exact .refused _
  next idle =>
  rcases Store.create_cases n.gateways (Ident.resource "nat" draw.stem) ⟨subnetId, subnet.vpcId,
      ⟨allocationId, Ident.resource "eni" draw.interfaceStem,
        addressText (subnet.block.drawHost draw.host), address.publicIp⟩, tags, draw.time⟩ with
    ⟨e, -, h⟩ | ⟨gateway, free, made, h⟩
  · simp only [h]; exact .refused e
  · simp only [h]
    exact .gatewayCreated there allocated (by simpa using idle) free made

theorem deleteGateway_effect (gatewayId : String) :
    Effect n (.deleteGateway gatewayId) (n.deleteGateway gatewayId).done := by
  unfold deleteGateway
  rcases Store.delete_cases n.gateways gatewayId with ⟨e, h⟩ | ⟨gateway, there, -, h⟩
  · rw [h]; exact .refused e
  · rw [h]; exact .gatewayDeleted there

/-! #### Tags -/

theorem createTags_effect (ids : List String) (tags : List Tag) :
    Effect n (.createTags ids tags) (n.createTags ids tags) := by
  unfold createTags
  rcases Outcome.guard_cases (n.mergedTags (.ofTags tags) ids) n _ with ⟨e, -, h⟩ | ⟨merged, allowed, h⟩
  · rw [h]; exact .refused e
  · rw [h]; exact .tagged allowed

theorem deleteTags_effect (ids : List String) (removals : List TagRemoval) :
    Effect n (.deleteTags ids removals) (n.deleteTags ids removals) := by
  unfold deleteTags
  rcases Outcome.guard_cases (ids.forM fun id => (n.requireTags id).map fun _ => ()) n _ with
    ⟨e, -, h⟩ | ⟨⟨⟩, known, h⟩
  · rw [h]; exact .refused e
  · rw [h]; exact .untagged known

/-- **Every operation obeys a rule.** -/
theorem perform_effect (op : Op) : Effect n op (n.perform op) := by
  cases op with
  | createVpc block tags vpcStem aclStem => exact n.createVpc_effect block tags vpcStem aclStem
  | deleteVpc vpcId => exact n.deleteVpc_effect vpcId
  | createSubnet block p subnetStem associationStem =>
    exact n.createSubnet_effect block p subnetStem associationStem
  | deleteSubnet subnetId => exact n.deleteSubnet_effect subnetId
  | createAcl vpcId tags stem => exact n.createAcl_effect vpcId tags stem
  | deleteAcl aclId => exact n.deleteAcl_effect aclId
  | createEntry aclId e => exact n.createEntry_effect aclId e
  | deleteEntry aclId ruleNumber egress => exact n.deleteEntry_effect aclId ruleNumber egress
  | replaceEntry aclId e => exact n.replaceEntry_effect aclId e
  | replaceAssociation associationId aclId stem =>
    exact n.replaceAssociation_effect associationId aclId stem
  | associateDefault subnetId vpcId stem => exact n.associateDefault_effect subnetId vpcId stem
  | allocateAddress domain stem draws => exact n.allocateAddress_effect domain stem draws
  | releaseAddress allocationId => exact n.releaseAddress_effect allocationId
  | createGateway subnetId allocationId tags draw =>
    exact n.createGateway_effect subnetId allocationId tags draw
  | deleteGateway gatewayId => exact n.deleteGateway_effect gatewayId
  | createTags ids tags => exact n.createTags_effect ids tags
  | deleteTags ids removals => exact n.deleteTags_effect ids removals

end

end MockCloud.Network
