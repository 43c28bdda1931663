import MockCloud.Proofs.Network.Foundation
import MockCloud.Proofs.Network.Tags

/-! # Where resources of a network stand

Every resource stands under its own id, and the text in front of the first dash of an id tells the store
that it is in. The identifiers of a run need not be new for this: an id that is taken is refused or put
over.

* `Kind.ofId?_resource`: the kind is read off an id as it was written into it.
* `Filed.run`: resources stand under their ids, in the store of their kind. -/

namespace MockCloud.Network

/-- The text in front of the first dash of the ids of a kind. -/
def Kind.front : Kind → String
  | vpc => "vpc"
  | subnet => "subnet"
  | acl => "acl"
  | gateway => "nat"
  | address => "eipalloc"

theorem Kind.ofId?_resource (kind : Kind) (stem : String) :
    Kind.ofId? (Ident.resource kind.front stem) = some kind := by
  have cut : Text.cutFirst (· = '-') (Ident.resource kind.front stem).toList =
      some (kind.front.toList, stem.toList) := by
    have dash : (Ident.resource kind.front stem).toList = kind.front.toList ++ '-' :: stem.toList := by
      simp [Ident.resource]
    have plain : (kind.front.toList.any fun c => c = '-') = false := by
      cases kind <;> rfl
    rw [dash]
    exact Text.cutFirst_append (fun c hc => Bool.eq_false_iff.2 (List.any_eq_false.1 plain c hc)) rfl
  unfold Kind.ofId?
  rw [cut]
  cases kind <;> rfl

/-- A kind is read off the ids of that kind only. -/
theorem Kind.exists_stem_of_ofId? {kind : Kind} {id : String} (h : Kind.ofId? id = some kind) :
    ∃ stem, id = Ident.resource kind.front stem := by
  unfold Kind.ofId? at h
  cases cut : Text.cutFirst (· = '-') id.toList with
  | none => rw [cut] at h; cases h
  | some parts =>
    obtain ⟨front, stem⟩ := parts
    obtain ⟨c, hc, whole, -⟩ := Text.eq_append_of_cutFirst cut
    rw [cut, Option.map_some] at h
    have told : String.ofList front = kind.front := by
      split at h
      all_goals cases h
      all_goals next e => exact Option.some.inj e
    refine ⟨String.ofList stem, String.toList_inj.1 ?_⟩
    rw [whole, of_decide_eq_true hc, Ident.resource, ← told]
    simp

/-- The resource stands under its own id, which is one of its kind. -/
def Titled (kind : Kind) (id own : String) : Prop :=
  own = id ∧ Kind.ofId? id = some kind

theorem titled_resource (kind : Kind) (stem : String) :
    Titled kind (Ident.resource kind.front stem) (Ident.resource kind.front stem) :=
  ⟨rfl, kind.ofId?_resource stem⟩

/-- The network belongs to a place, and its resources stand under their ids. -/
structure Filed (scope : Scope) (n : Network) : Prop where
  home : n.scope = scope
  vpcs : n.vpcs.Each fun id r => Titled .vpc id r.id
  subnets : n.subnets.Each fun id r => Titled .subnet id r.id
  acls : n.acls.Each fun id r => Titled .acl id r.id
  gateways : n.gateways.Each fun id r => Titled .gateway id r.id
  addresses : n.addresses.Each fun id r => Titled .address id r.id

section

variable {scope : Scope} {n : Network}

theorem filed_blank (scope : Scope) : Filed scope (blank scope) :=
  ⟨rfl, Store.each_new _ _, Store.each_new _ _, Store.each_new _ _, Store.each_new _ _, Store.each_new _ _⟩

theorem Filed.setEntries (h : Filed scope n) (aclId : String) (entries : List AclEntry) :
    Filed scope (n.setEntries aclId entries) :=
  { h with acls := h.acls.modify _ fun _ _ ha => ha }

theorem Filed.putAssociation (h : Filed scope n) (x : AclAssociation) : Filed scope (n.putAssociation x) :=
  { h with acls := h.acls.modify _ fun _ _ ha => ha }

theorem Filed.takeAssociation (h : Filed scope n) (aclId associationId : String) :
    Filed scope (n.takeAssociation aclId associationId) :=
  { h with acls := h.acls.modify _ fun _ _ ha => ha }

theorem Filed.clearAssociations (h : Filed scope n) (subnetId : String) :
    Filed scope (n.clearAssociations subnetId) :=
  { h with acls := h.acls.modifyAll fun _ _ ha => ha }

theorem Filed.freeAddresses (h : Filed scope n) (addresses : List GatewayAddress) :
    Filed scope (n.freeAddresses addresses) := by
  refine List.foldlRecOn addresses _ h fun n hn a _ => ?_
  exact { hn with addresses := hn.addresses.modify _ fun _ _ ha => ha }

theorem Filed.changeTags (h : Filed scope n) (id : String) (f : TagMap → TagMap) :
    Filed scope (n.changeTags id f) := by
  unfold Network.changeTags
  split
  · exact { h with vpcs := h.vpcs.modify _ fun _ _ hr => hr }
  · exact { h with subnets := h.subnets.modify _ fun _ _ hr => hr }
  · exact { h with acls := h.acls.modify _ fun _ _ hr => hr }
  · exact { h with gateways := h.gateways.modify _ fun _ _ hr => hr }
  · exact { h with addresses := h.addresses.modify _ fun _ _ hr => hr }
  · exact h

theorem Filed.foldl_changeTags {γ : Type} (h : Filed scope n) (id : γ → String) (f : γ → TagMap → TagMap)
    (xs : List γ) : Filed scope (xs.foldl (fun n x => n.changeTags (id x) (f x)) n) :=
  List.foldlRecOn xs _ h fun _ hn x _ => hn.changeTags (id x) (f x)

theorem Filed.putAcl (h : Filed scope n) {stem : String} {p : NewAcl} {place : Scope} {acl : Acl}
    (made : Acl.make (Ident.resource "acl" stem) p place = .ok acl) :
    Filed scope { n with acls := n.acls.put (Ident.resource "acl" stem) acl } := by
  obtain ⟨_, -, rfl⟩ := Acl.make_eq_ok made
  exact { h with acls := h.acls.put (titled_resource .acl stem) }

theorem Filed.putVpc (h : Filed scope n) {stem : String} {p : NewVpc} {place : Scope} {vpc : Vpc}
    (made : Vpc.make (Ident.resource "vpc" stem) p place = .ok vpc) :
    Filed scope { n with vpcs := n.vpcs.put (Ident.resource "vpc" stem) vpc } := by
  obtain ⟨_, _, -, -, rfl⟩ := Vpc.make_eq_ok made
  exact { h with vpcs := h.vpcs.put (titled_resource .vpc stem) }

theorem Filed.putSubnet (h : Filed scope n) {stem : String} {block : Cidr} {p : NewSubnet} {place : Scope}
    {s : Subnet} (made : Subnet.make (Ident.resource "subnet" stem) block p place = .ok s) :
    Filed scope { n with subnets := n.subnets.put (Ident.resource "subnet" stem) s } := by
  obtain ⟨_, -, rfl⟩ := Subnet.make_eq_ok_iff.1 made
  exact { h with subnets := h.subnets.put (titled_resource .subnet stem) }

theorem Effect.filed {op : Op} {o : Outcome Network NetworkError Unit} (effect : Effect n op o)
    (h : Filed scope n) : Filed scope o.state := by
  cases effect with
  | refused e => exact h
  | vpcCreated _ made _ aclMade => exact (h.putVpc made).putAcl aclMade
  | vpcLeft e _ made _ => exact h.putVpc made
  | vpcDeleted _ _ => exact { h with vpcs := h.vpcs.drop _, acls := h.acls.retain _ }
  | subnetCreated _ _ _ _ _ made _ => exact (h.putSubnet made).putAssociation _
  | subnetLeft e _ _ _ _ _ made _ => exact h.putSubnet made
  | @subnetDeleted subnetId =>
    have cleared := h.clearAssociations subnetId
    exact { cleared with subnets := h.subnets.drop _ }
  | aclCreated _ _ made => exact h.putAcl made
  | aclDeleted _ _ => exact { h with acls := h.acls.drop _ }
  | entryCreated | entryDeleted | entryReplaced => exact h.setEntries _ _
  | associationReplaced _ _ _ => exact (h.takeAssociation _ _).putAssociation _
  | defaultAssociated _ => exact h.putAssociation _
  | @addressAllocated domain stem draws address _ made =>
    rw [PublicAddress.make_eq_ok made]
    exact { h with addresses := h.addresses.put (titled_resource .address stem) }
  | addressReleased _ _ => exact { h with addresses := h.addresses.drop _ }
  | @gatewayCreated subnetId allocationId tags draw _ _ _ _ _ _ _ made =>
    obtain ⟨_, -, rfl⟩ := Gateway.make_eq_ok made
    exact { h with
      gateways := h.gateways.put (titled_resource .gateway draw.stem)
      addresses := h.addresses.modify _ fun _ _ ha => ha }
  | @gatewayDeleted gatewayId =>
    have dropped : Filed scope { n with gateways := n.gateways.drop gatewayId } :=
      { h with gateways := h.gateways.drop _ }
    exact dropped.freeAddresses _
  | tagged _ => exact h.foldl_changeTags Prod.fst (fun x _ => x.2) _
  | @untagged ids removals _ =>
    exact h.foldl_changeTags id (fun _ tags => removals.foldl TagRemoval.apply tags) ids

theorem Filed.run (h : Filed scope n) (ops : List Op) : Filed scope (n.run ops) :=
  run_keeps h (fun n op hn => (perform_effect n op).filed hn) ops

/-- What a store shows of a resource fits the id. -/
theorem Filed.titled (h : Filed scope n) {kind : Kind} {id own : String} {tags : TagMap}
    (there : n.held? kind id = some (own, tags)) : Titled kind id own := by
  cases kind
  all_goals
    obtain ⟨r, hr, same⟩ := Option.map_eq_some_iff.1 there
    cases same
  · exact h.vpcs id r hr
  · exact h.subnets id r hr
  · exact h.acls id r hr
  · exact h.gateways id r hr
  · exact h.addresses id r hr

end

end MockCloud.Network
