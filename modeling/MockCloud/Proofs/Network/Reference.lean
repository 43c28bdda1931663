import MockCloud.Proofs.Network.Filing
import MockCloud.Proofs.Network.Subnet

/-! # References between resources

Resources refer to each other by id. What is referred to is made first and goes last: a VPC takes its access
lists with it and stays as long as it has subnets, a subnet stays as long as it has gateways.

* `Owned`: each access list belongs to a VPC, and no VPC has two default lists.
* `Seated`: each gateway stands in a subnet, of the VPC that the gateway names.
* `deleteVpc_ok_iff`: when a VPC is deleted, in any network; `VpcGone` is what is left then.
* `references_whole`: no reference leads nowhere, after any run whose identifiers do not repeat. -/

namespace MockCloud.Network

section

variable {n m : Network} {op : Op} {o : Outcome Network NetworkError Unit}

/-! ### Access lists -/

/-- Every access list belongs to a VPC that is there, and no VPC has two default lists. -/
structure Owned (n : Network) : Prop where
  owner : ∀ k a, n.acls.get? k = some a → ∃ v, n.vpcs.get? a.vpcId = some v
  single : ∀ i a j b vpcId, n.acls.get? i = some a → n.acls.get? j = some b → a.IsDefaultOf vpcId →
    b.IsDefaultOf vpcId → i = j

theorem owned_blank (scope : Scope) : Owned (blank scope) := by
  refine ⟨?_, ?_⟩
  · intro k a ha; cases ha
  · intro i a j b vpcId ha; cases ha

/-- Lists may change in whatever does not show in their heads, and VPCs in whatever is not their id. -/
theorem Owned.of_agree {view : Vpc → Vpc} (h : Owned n) (vpcs : Agree view n.vpcs m.vpcs)
    (acls : Agree Acl.head n.acls m.acls) : Owned m where
  owner k a ha := by
    obtain ⟨b, hb, e⟩ := acls.before ha
    obtain ⟨v, hv⟩ := h.owner k b hb
    obtain ⟨w, hw, -⟩ := vpcs.symm.before hv
    exact ⟨w, (congrArg (·.2.1) e : b.vpcId = a.vpcId) ▸ hw⟩
  single i a j b vpcId ha hb hd hd' := by
    obtain ⟨a', ha', e⟩ := acls.before ha
    obtain ⟨b', hb', e'⟩ := acls.before hb
    exact h.single i a' j b' vpcId ha' hb' (hd.of_head e) (hd'.of_head e')

theorem Owned.vpcPut (h : Owned n) (id : String) (vpc : Vpc) :
    Owned { n with vpcs := n.vpcs.put id vpc } where
  owner k a ha := Store.exists_get?_put (h.owner k a ha) id vpc
  single := h.single

/-- A VPC goes, and takes its lists with it. -/
theorem Owned.vpcDeleted (h : Owned n) (vpcId : String) :
    Owned { n with acls := n.acls.retain (·.vpcId != vpcId), vpcs := n.vpcs.drop vpcId } where
  owner k a ha := by
    simp only [Store.get?_retain, Option.filter_eq_some_iff, bne_iff_ne] at ha
    obtain ⟨v, hv⟩ := h.owner k a ha.1
    refine ⟨v, ?_⟩
    rw [Store.get?_drop, if_neg ha.2]
    exact hv
  single i a j b vpcId ha hb := by
    simp only [Store.get?_retain, Option.filter_eq_some_iff] at ha hb
    exact h.single i a j b vpcId ha.1 hb.1

/-- A list may be put in if its VPC is there, and has no default list in case the new one is that. -/
theorem Owned.aclPut (h : Owned n) (id : String) {acl : Acl} (owner : ∃ v, n.vpcs.get? acl.vpcId = some v)
    (alone : acl.isDefault = true → ∀ k a, n.acls.get? k = some a → a.vpcId ≠ acl.vpcId) :
    Owned { n with acls := n.acls.put id acl } where
  owner k a ha := by
    simp only [Store.get?_put] at ha
    split_ifs at ha
    · cases ha; exact owner
    · exact h.owner k a ha
  single i a j b vpcId ha hb hd hd' := by
    simp only [Store.get?_put] at ha hb
    split_ifs at ha with hi <;> split_ifs at hb with hj
    · rw [hi, hj]
    · cases ha
      exact absurd (hd'.2.trans hd.2.symm) (alone hd.1 j b hb)
    · cases hb
      exact absurd (hd.2.trans hd'.2.symm) (alone hd'.1 i a ha)
    · exact h.single i a j b vpcId ha hb hd hd'

theorem Owned.aclDropped (h : Owned n) (id : String) : Owned { n with acls := n.acls.drop id } where
  owner k a ha := by
    simp only [Store.get?_drop] at ha
    split_ifs at ha
    exact h.owner k a ha
  single i a j b vpcId ha hb := by
    simp only [Store.get?_drop] at ha hb
    split_ifs at ha
    split_ifs at hb
    exact h.single i a j b vpcId ha hb

theorem Owned.setSubnets (h : Owned n) (subnets : Store Subnet Scope) : Owned { n with subnets } :=
  ⟨h.owner, h.single⟩

/-- The lists may change in whatever does not show in their heads. -/
theorem Owned.setAcls (h : Owned n) {acls : Store Acl Scope} (agree : Agree Acl.head n.acls acls) :
    Owned { n with acls } :=
  h.of_agree (.refl id _) agree

theorem Owned.putAssociation (h : Owned n) (x : AclAssociation) : Owned (n.putAssociation x) :=
  h.setAcls (agree_modify _ _ fun _ => rfl)

theorem Owned.takeAssociation (h : Owned n) (aclId associationId : String) :
    Owned (n.takeAssociation aclId associationId) :=
  h.setAcls (agree_modify _ _ fun _ => rfl)

theorem Owned.clearAssociations (h : Owned n) (subnetId : String) : Owned (n.clearAssociations subnetId) :=
  h.setAcls (agree_modifyAll _ fun _ => rfl)

theorem owned_effect (h : Owned n) (effect : Effect n op o) : Owned o.state := by
  have same := effect.sameLayout
  cases effect with
  | refused e => exact h
  | @vpcCreated _ _ vpcStem _ vpc _ free made aclFree aclMade =>
    obtain ⟨_, -, rfl⟩ := Acl.make_eq_ok aclMade
    refine (h.vpcPut (Ident.resource "vpc" vpcStem) vpc).aclPut _ ⟨vpc, ?_⟩ fun _ k a ha e => ?_
    · exact (Store.get?_put ..).trans (if_pos rfl)
    · -- the id of the VPC was free, so no list names it
      obtain ⟨v, hv⟩ := h.owner k a ha
      rw [e, free] at hv; cases hv
  | vpcLeft e free made aclTaken => exact h.vpcPut _ _
  | vpcDeleted there unused => exact h.vpcDeleted _
  | subnetCreated there parsed inside apart free made default =>
    exact (h.setSubnets _).putAssociation _
  | subnetLeft => exact h.setSubnets _
  | subnetDeleted there unused => exact (h.clearAssociations _).setSubnets _
  | aclCreated there free made =>
    obtain ⟨_, -, rfl⟩ := Acl.make_eq_ok made
    exact h.aclPut _ ⟨_, there⟩ nofun
  | aclDeleted there mayGo => exact h.aclDropped _
  | associationReplaced there holder held => exact (h.takeAssociation _ _).putAssociation _
  | defaultAssociated default => exact h.putAssociation _
  | _ =>
    have same := same rfl
    exact h.of_agree same.vpcs (same.acls.comp fun w => (w.1, w.2.1, w.2.2.1))

theorem owned_run (scope : Scope) (ops : List Op) : Owned ((blank scope).run ops) :=
  run_keeps (owned_blank scope) (fun n op h => owned_effect h (n.perform_effect op)) ops

/-! ### Gateways -/

/-- Every gateway stands in a subnet that is there, of the VPC that the gateway names. -/
def Seated (n : Network) : Prop :=
  n.gateways.Each fun _ g => ∃ s, n.subnets.get? g.subnetId = some s ∧ s.vpcId = g.vpcId

/-- Where a gateway stands. -/
def Gateway.seat (g : Gateway) : String × String :=
  (g.subnetId, g.vpcId)

theorem Seated.of_agree (h : Seated n) (subnets : Agree Subnet.bare n.subnets m.subnets)
    (gateways : Agree Gateway.seat n.gateways m.gateways) : Seated m := by
  intro k g hg
  obtain ⟨g', hg', e⟩ := gateways.before hg
  obtain ⟨s, hs, hv⟩ := h k g' hg'
  obtain ⟨t, ht, e'⟩ := subnets.symm.before hs
  have sameSubnet : g'.subnetId = g.subnetId := congrArg (·.1) e
  have sameVpc : g'.vpcId = g.vpcId := congrArg (·.2) e
  refine ⟨t, sameSubnet ▸ ht, ?_⟩
  rw [Subnet.vpcId_of_bare e', hv, sameVpc]

theorem Seated.subnetPut (h : Seated n) {id : String} (free : n.subnets.get? id = none) (subnet : Subnet) :
    Seated { n with subnets := n.subnets.put id subnet } := by
  intro k g hg
  obtain ⟨s, hs, hv⟩ := h k g hg
  refine ⟨s, ?_, hv⟩
  have other : g.subnetId ≠ id := fun e => by rw [e, free] at hs; cases hs
  rw [Store.get?_put, if_neg other]
  exact hs

theorem Seated.subnetDropped (h : Seated n) {id : String}
    (unused : ∀ k g, n.gateways.get? k = some g → g.subnetId ≠ id) :
    Seated { n with subnets := n.subnets.drop id } := by
  intro k g hg
  obtain ⟨s, hs, hv⟩ := h k g hg
  refine ⟨s, ?_, hv⟩
  rw [Store.get?_drop, if_neg (unused k g hg)]
  exact hs

theorem seated_effect (h : Seated n) (effect : Effect n op o) : Seated o.state := by
  cases effect with
  | refused e => exact h
  | subnetCreated there parsed inside apart free made default =>
    exact (h.subnetPut free _).of_agree (.refl _ _) (.refl _ _)
  | subnetLeft e there parsed inside apart free made noDefault => exact h.subnetPut free _
  | subnetDeleted there unused => exact (h.subnetDropped unused).of_agree (.refl _ _) (.refl _ _)
  | gatewayCreated there allocated idle free made =>
    obtain ⟨_, -, rfl⟩ := Gateway.make_eq_ok made
    exact Store.Each.put h ⟨_, there, rfl⟩
  | @gatewayDeleted gatewayId gateway there =>
    have dropped : Seated { n with gateways := n.gateways.drop gatewayId } := Store.Each.drop h gatewayId
    refine dropped.of_agree ?_ ?_
    · rw [Outcome.state_ok, freeAddresses_subnets]; exact .refl _ _
    · rw [Outcome.state_ok, freeAddresses_gateways]; exact .refl _ _
  | tagged =>
    exact h.of_agree (sameLayout_changeTags Prod.fst (fun x _ => x.2) _ n).subnets
      (foldl_changeTags_gateways Prod.fst (fun x _ => x.2) _ n fun _ _ => rfl)
  | @untagged ids removals =>
    exact h.of_agree
      (sameLayout_changeTags id (fun _ tags => removals.foldl TagRemoval.apply tags) ids n).subnets
      (foldl_changeTags_gateways id (fun _ tags => removals.foldl TagRemoval.apply tags) ids n fun _ _ => rfl)
  | _ => exact h.of_agree (.refl _ _) (.refl _ _)

theorem seated_run (scope : Scope) (ops : List Op) : Seated ((blank scope).run ops) :=
  run_keeps (fun _ _ hg => (by cases hg)) (fun n op h => seated_effect h (n.perform_effect op)) ops

/-! ### When a VPC goes -/

/-- **When a VPC is deleted**, in any network: it is there, and no subnet names it. -/
theorem deleteVpc_ok_iff {vpcId : String} : (n.deleteVpc vpcId).result = .ok () ↔
    (∃ v, n.vpcs.get? vpcId = some v) ∧ ∀ k s, n.subnets.get? k = some s → s.vpcId ≠ vpcId := by
  constructor
  · intro ok
    have effect := n.deleteVpc_effect vpcId
    generalize n.deleteVpc vpcId = o at effect ok
    cases effect with
    | refused e => cases ok
    | vpcDeleted there unused => exact ⟨⟨_, there⟩, unused⟩
  · rintro ⟨⟨v, there⟩, unused⟩
    have noSubnet : n.subnets.values.any (·.vpcId == vpcId) = false := by
      refine List.any_eq_false.2 fun s hs => ?_
      obtain ⟨k, hk⟩ := Store.mem_values_iff.1 hs
      simpa using unused k s hk
    unfold deleteVpc Store.delete
    rw [getVpc, Store.require_eq_ok_iff.2 there, Outcome.guard_ok, noSubnet]
    simp only [Bool.false_eq_true, if_false]
    rw [Store.require_eq_ok_iff.2 there]
    rfl

/-- **What is left when a VPC is deleted**: the VPC is gone and so are its access lists, and the rest is as it
was. -/
structure VpcGone (n m : Network) (vpcId : String) : Prop where
  vpcs : ∀ k, m.vpcs.get? k = if k = vpcId then none else n.vpcs.get? k
  acls : ∀ k, m.acls.get? k = (n.acls.get? k).filter (·.vpcId != vpcId)
  rest : ∃ vpcs acls, m = { n with vpcs := { n.vpcs with items := vpcs }, acls := { n.acls with items := acls } }

theorem vpcGone_of_ok {vpcId : String} (ok : n.deleteVpc vpcId = .ok () m) : VpcGone n m vpcId := by
  have effect := n.deleteVpc_effect vpcId
  rw [ok] at effect
  generalize ho : Outcome.ok () m = o at effect
  cases effect with
  | refused e => cases ho
  | vpcDeleted there unused =>
    cases ho
    exact ⟨fun k => Store.get?_drop .., fun k => Store.get?_retain .., _, _, rfl⟩

end

/-! ### All references -/

/-- No reference of the network leads nowhere, every VPC has its default list, and every resource stands in
the store of its kind under an id that begins with the text of the kind and a dash. -/
structure Whole (n : Network) : Prop where
  subnets : ∀ k s, n.subnets.get? k = some s → ∃ v, n.vpcs.get? s.vpcId = some v
  acls : ∀ k a, n.acls.get? k = some a → ∃ v, n.vpcs.get? a.vpcId = some v
  default : ∀ k v, n.vpcs.get? k = some v → ∃! i, ∃ a, n.acls.get? i = some a ∧ a.IsDefaultOf k
  gateways : ∀ k g, n.gateways.get? k = some g →
    ∃ s, n.subnets.get? g.subnetId = some s ∧ s.vpcId = g.vpcId
  ids : ∀ kind id own tags, n.held? kind id = some (own, tags) →
    own = id ∧ ∃ stem, id = Ident.resource kind.front stem

/-- **No reference leads nowhere**, after any run whose identifiers do not repeat; and a VPC can be deleted
exactly when it is there and no subnet names it, and then it goes with its access lists. -/
theorem references_whole (scope : Scope) (ops : List Op) (fresh : (drawnIds ops).Nodup) :
    Whole ((blank scope).run ops) ∧
      ∀ vpcId, ((((blank scope).run ops).deleteVpc vpcId).result = .ok () ↔
        (∃ v, ((blank scope).run ops).vpcs.get? vpcId = some v) ∧
          ∀ k s, ((blank scope).run ops).subnets.get? k = some s → s.vpcId ≠ vpcId) ∧
        ∀ m, ((blank scope).run ops).deleteVpc vpcId = .ok () m → VpcGone ((blank scope).run ops) m vpcId := by
  have owned := owned_run scope ops
  refine ⟨⟨fun k s hs => ?_, owned.owner, fun k v hv => ?_, seated_run scope ops,
    fun kind id own tags held => ?_⟩, fun vpcId => ⟨deleteVpc_ok_iff, fun m => vpcGone_of_ok⟩⟩
  · obtain ⟨v, hv, -⟩ := (nested_run scope ops).inside k s hs
    exact ⟨v, hv⟩
  · obtain ⟨i, a, ha, hd⟩ := (founded_run scope ops fresh).default k v hv
    refine ⟨i, ⟨a, ha, hd⟩, ?_⟩
    rintro j ⟨b, hb, hd'⟩
    exact owned.single j b i a k hb ha hd' hd
  · obtain ⟨same, told⟩ := ((filed_blank scope).run ops).titled held
    exact ⟨same, Kind.exists_stem_of_ofId? told⟩

/-- A VPC with a subnet and a second access list, and a gateway in the subnet. -/
def gatewayRun : List Op :=
  [.createVpc "10.0.0.0/16" [] "1" "1", .createSubnet "10.0.1.0/24" ⟨"vpc-1", none, []⟩ "1" "1",
   .createAcl "vpc-1" [] "2", .allocateAddress none "1" fun n => n,
   .createGateway "subnet-1" "eipalloc-1" [] ⟨"1", "1", 0, ⟨0, 0⟩⟩]

/-- The gateway is there, and so are the subnet and the VPC that it names; the VPC cannot be deleted. -/
theorem references_whole_gateway : (drawnIds gatewayRun).Nodup ∧
    (∃ g s v, ((blank home).run gatewayRun).gateways.get? "nat-1" = some g ∧
      ((blank home).run gatewayRun).subnets.get? g.subnetId = some s ∧
      ((blank home).run gatewayRun).vpcs.get? g.vpcId = some v) ∧
    (((blank home).run gatewayRun).deleteVpc "vpc-1").result ≠ .ok () := by
  have fresh : (drawnIds gatewayRun).Nodup := by decide
  obtain ⟨whole, deleted⟩ := references_whole home gatewayRun fresh
  have there : (((blank home).run gatewayRun).gateways.get? "nat-1").isSome := by decide +kernel
  have inVpc : (((blank home).run gatewayRun).subnets.get? "subnet-1").map (·.vpcId) = some "vpc-1" := by
    decide +kernel
  obtain ⟨g, hg⟩ := Option.isSome_iff_exists.1 there
  obtain ⟨s, hs, same⟩ := whole.gateways "nat-1" g hg
  obtain ⟨v, hv⟩ := whole.subnets _ s hs
  obtain ⟨t, ht, named⟩ := Option.map_eq_some_iff.1 inVpc
  exact ⟨fresh, ⟨g, s, v, hg, hs, same ▸ hv⟩, fun ok => ((deleted "vpc-1").1.1 ok).2 _ t ht named⟩

end MockCloud.Network
