import MockCloud.Proofs.Network.Block
import MockCloud.Proofs.Network.Foundation

/-! # Subnets share no addresses

The block of a subnet is compared with that of its VPC and with those of its neighbours when the subnet is
made, and blocks never change. As blocks are laminar, the comparison refuses exactly the blocks that leave
the VPC or share an address with a neighbour.

* `Nested`: the invariant, which needs nothing of the identifiers.
* `createSubnet_ok_iff`: when a subnet is made, in any network.
* `SubnetMade`: what is left then.
* `subnets_disjoint`: the subnets of a VPC share no addresses and lie inside it, after any run, and every
  block that fits between them can be made a subnet. -/

namespace MockCloud.Network

/-! ### The invariant -/

/-- Every subnet lies inside its VPC, which is there; no subnet of a VPC holds the block of another one;
and the lengths of the VPCs are in their range. -/
structure Nested (n : Network) : Prop where
  inside : ∀ k s, n.subnets.get? k = some s →
    ∃ v, n.vpcs.get? s.vpcId = some v ∧ v.block.contains s.block = true
  apart : ∀ k s k' s', n.subnets.get? k = some s → n.subnets.get? k' = some s' → k ≠ k' →
    s.vpcId = s'.vpcId → s.block.contains s'.block = false
  sized : ∀ k v, n.vpcs.get? k = some v → 16 ≤ v.block.len ∧ v.block.len ≤ 28

section

variable {n m : Network} {op : Op} {o : Outcome Network NetworkError Unit}

theorem nested_blank (scope : Scope) : Nested (blank scope) := by
  refine ⟨?_, ?_, ?_⟩
  · intro k s hs; cases hs
  · intro k s k' s' hs; cases hs
  · intro k v hv; cases hv

/-- The invariant does not see tags. -/
theorem Nested.of_agree (h : Nested n) (vpcs : Agree Vpc.bare n.vpcs m.vpcs)
    (subnets : Agree Subnet.bare n.subnets m.subnets) : Nested m where
  inside k s hs := by
    obtain ⟨t, ht, et⟩ := subnets.before hs
    obtain ⟨w, hw, inside⟩ := h.inside k t ht
    obtain ⟨v, hv, ev⟩ := vpcs.symm.before hw
    refine ⟨v, Subnet.vpcId_of_bare et ▸ hv, ?_⟩
    rw [← Subnet.block_of_bare et, Vpc.block_of_bare ev, inside]
  apart k s k' s' hs hs' hne he := by
    obtain ⟨t, ht, et⟩ := subnets.before hs
    obtain ⟨t', ht', et'⟩ := subnets.before hs'
    rw [← Subnet.vpcId_of_bare et, ← Subnet.vpcId_of_bare et'] at he
    rw [← Subnet.block_of_bare et, ← Subnet.block_of_bare et']
    exact h.apart k t k' t' ht ht' hne he
  sized k v hv := by
    obtain ⟨w, hw, ew⟩ := vpcs.before hv
    rw [← Vpc.block_of_bare ew]
    exact h.sized k w hw

theorem Nested.vpcPut (h : Nested n) {id : String} {p : NewVpc} {vpc : Vpc}
    (free : n.vpcs.get? id = none) (made : Vpc.make id p n.vpcs.context = .ok vpc) :
    Nested { n with vpcs := n.vpcs.put id vpc } where
  inside k s hs := by
    obtain ⟨v, hv, inside⟩ := h.inside k s hs
    refine ⟨v, ?_, inside⟩
    rw [Store.get?_put, if_neg]
    · exact hv
    · rintro he
      rw [he, free] at hv; cases hv
  apart := h.apart
  sized k v hv := by
    simp only [Store.get?_put] at hv
    split_ifs at hv
    · cases hv
      obtain ⟨block, tags, parsed, -, rfl⟩ := Vpc.make_eq_ok made
      exact (vpcBlock_eq_ok_iff.1 parsed).2
    · exact h.sized k v hv

theorem Nested.vpcDropped (h : Nested n) {vpcId : String}
    (unused : ∀ k s, n.subnets.get? k = some s → s.vpcId ≠ vpcId) :
    Nested { n with vpcs := n.vpcs.drop vpcId } where
  inside k s hs := by
    obtain ⟨v, hv, inside⟩ := h.inside k s hs
    exact ⟨v, by rw [Store.get?_drop, if_neg (unused k s hs), hv], inside⟩
  apart := h.apart
  sized k v hv := by
    simp only [Store.get?_drop] at hv
    split_ifs at hv
    exact h.sized k v hv

theorem Nested.subnetPut (h : Nested n) {id : String} {cidr : Cidr} {p : NewSubnet} {vpc : Vpc}
    {subnet : Subnet} (there : n.vpcs.get? p.vpcId = some vpc) (inside : vpc.block.contains cidr = true)
    (apart : ∀ k s, n.subnets.get? k = some s → s.vpcId = p.vpcId →
      s.block.contains cidr = false ∧ cidr.contains s.block = false)
    (made : Subnet.make id cidr p n.subnets.context = .ok subnet) :
    Nested { n with subnets := n.subnets.put id subnet } where
  inside k s hs := by
    obtain ⟨tags, -, rfl⟩ := Subnet.make_eq_ok_iff.1 made
    simp only [Store.get?_put] at hs
    split_ifs at hs
    · cases hs
      exact ⟨vpc, there, inside⟩
    · exact h.inside k s hs
  apart k s k' s' hs hs' hne he := by
    obtain ⟨tags, -, rfl⟩ := Subnet.make_eq_ok_iff.1 made
    simp only [Store.get?_put] at hs hs'
    split_ifs at hs hs' with hk hk' hk'
    · exact absurd (hk.trans hk'.symm) hne
    · cases hs
      exact (apart k' s' hs' he.symm).2
    · cases hs'
      exact (apart k s hs he).1
    · exact h.apart k s k' s' hs hs' hne he
  sized := h.sized

theorem Nested.subnetDropped (h : Nested n) (id : String) :
    Nested { n with subnets := n.subnets.drop id } where
  inside k s hs := by
    simp only [Store.get?_drop] at hs
    split_ifs at hs
    exact h.inside k s hs
  apart k s k' s' hs hs' hne he := by
    simp only [Store.get?_drop] at hs hs'
    split_ifs at hs hs'
    exact h.apart k s k' s' hs hs' hne he
  sized := h.sized

/-- **Every operation keeps the invariant.** -/
theorem nested_effect (h : Nested n) (effect : Effect n op o) : Nested o.state := by
  have same := effect.sameLayout
  cases effect with
  | refused e => exact h
  | vpcCreated free made => exact (h.vpcPut free made).of_agree (.refl _ _) (.refl _ _)
  | vpcLeft e free made => exact h.vpcPut free made
  | vpcDeleted there unused => exact (h.vpcDropped unused).of_agree (.refl _ _) (.refl _ _)
  | subnetCreated there parsed inside apart free made =>
    exact (h.subnetPut there inside apart made).of_agree (.refl _ _) (.refl _ _)
  | subnetLeft e there parsed inside apart free made => exact h.subnetPut there inside apart made
  | subnetDeleted => exact (h.subnetDropped _).of_agree (.refl _ _) (.refl _ _)
  | aclCreated | aclDeleted | associationReplaced | defaultAssociated =>
    exact h.of_agree (.refl _ _) (.refl _ _)
  | _ =>
    have same := same rfl
    exact h.of_agree same.vpcs same.subnets

end

theorem nested_run (scope : Scope) (ops : List Op) : Nested ((blank scope).run ops) :=
  run_keeps (nested_blank scope) (fun n op h => nested_effect h (n.perform_effect op)) ops

/-! ### When a subnet is made -/

theorem checkedTags_eq_ok_iff {tags : List Tag} {map : TagMap} : checkedTags tags = .ok map ↔
    TagPolicy.standard.checkReplacement (TagMap.ofTags tags) = .ok () ∧ map = TagMap.ofTags tags := by
  unfold checkedTags
  dsimp only
  cases TagPolicy.standard.checkReplacement (TagMap.ofTags tags) with
  | error e =>
    constructor
    · rintro ⟨⟩
    · rintro ⟨⟨⟩, -⟩
  | ok u =>
    constructor
    · rintro ⟨⟩
      exact ⟨rfl, rfl⟩
    · rintro ⟨-, rfl⟩
      rfl

theorem Subnet.make_of_allowed {p : NewSubnet}
    (allowed : TagPolicy.standard.checkReplacement (TagMap.ofTags p.tags) = .ok ()) (id : String) (block : Cidr)
    (scope : Scope) : Subnet.make id block p scope =
      .ok { id, vpcId := p.vpcId, block, zone := p.zone.getD (scope.region ++ "a"), ownerId := scope.account,
            tags := TagMap.ofTags p.tags } :=
  Subnet.make_eq_ok_iff.2 ⟨_, checkedTags_eq_ok_iff.2 ⟨allowed, rfl⟩, rfl⟩

section

variable {n : Network} {block : String} {p : NewSubnet} {subnetStem associationStem : String}

/-- If all checks pass, the subnet is made and associated with the default list. -/
theorem createSubnet_eq_ok {vpc : Vpc} {cidr : Cidr} {s : Subnet} {acl : Acl}
    (there : n.vpcs.get? p.vpcId = some vpc) (parsed : Cidr.parse? block = some cidr)
    (inside : cidr.addresses ⊆ vpc.block.addresses)
    (apart : ∀ k s, n.subnets.get? k = some s → s.vpcId = p.vpcId → Disjoint s.block.addresses cidr.addresses)
    (free : n.subnets.get? (Ident.resource "subnet" subnetStem) = none)
    (made : Subnet.make (Ident.resource "subnet" subnetStem) cidr p n.subnets.context = .ok s)
    (default : n.defaultAcl p.vpcId = .ok acl) :
    n.createSubnet block p subnetStem associationStem =
      .ok s ({ n with subnets := n.subnets.put (Ident.resource "subnet" subnetStem) s }.putAssociation
        ⟨Ident.resource "aclassoc" associationStem, acl.id, Ident.resource "subnet" subnetStem⟩) := by
  have inside : vpc.block.contains cidr = true := Cidr.contains_iff_subset.2 inside
  have apart : (n.subnets.values.any fun s =>
      s.vpcId == p.vpcId && (s.block.contains cidr || cidr.contains s.block)) = false := by
    refine List.any_eq_false.2 fun s hs => ?_
    obtain ⟨k, hk⟩ := Store.mem_values_iff.1 hs
    by_cases he : s.vpcId = p.vpcId
    · have := Cidr.disjoint_iff.1 (apart k s hk he)
      simp [this]
    · simp [he]
  have created := n.subnets.create_eq_ok (p := (cidr, p)) free made
  unfold createSubnet
  rw [getVpc, Store.require_eq_ok_iff.2 there, Outcome.guard_ok, parsed]
  simp only [inside, apart, created, Bool.not_true, Bool.false_eq_true, if_false, Outcome.within_ok,
    Outcome.bind_ok, associateDefault]
  rw [show defaultAcl { n with subnets := n.subnets.put _ _ } p.vpcId = .ok acl from default]
  rfl

/-- **When a subnet is made**, in any network: its VPC is there, the block can be read, lies inside the VPC
and shares no address with a subnet of it, the tags are accepted, the id is free, and the VPC has a default
access list. -/
theorem createSubnet_ok_iff : (∃ s, (n.createSubnet block p subnetStem associationStem).result = .ok s) ↔
    ∃ vpc cidr, n.vpcs.get? p.vpcId = some vpc ∧ Cidr.parse? block = some cidr ∧
      cidr.addresses ⊆ vpc.block.addresses ∧
      (∀ k s, n.subnets.get? k = some s → s.vpcId = p.vpcId →
        Disjoint s.block.addresses cidr.addresses) ∧
      TagPolicy.standard.checkReplacement (TagMap.ofTags p.tags) = .ok () ∧
      n.subnets.get? (Ident.resource "subnet" subnetStem) = none ∧
      ∃ acl, n.defaultAcl p.vpcId = .ok acl := by
  constructor
  · rintro ⟨s, hs⟩
    have effect := n.createSubnet_effect block p subnetStem associationStem
    have ok := Outcome.result_done_of_result hs
    generalize (n.createSubnet block p subnetStem associationStem).done = o at effect ok
    cases effect with
    | refused e => cases ok
    | subnetLeft e => cases ok
    | @subnetCreated _ _ _ _ vpc cidr _ acl there parsed inside apart free made default =>
      obtain ⟨tags, ht, -⟩ := Subnet.make_eq_ok_iff.1 made
      refine ⟨vpc, cidr, there, parsed, Cidr.contains_iff_subset.1 inside, fun k s hs he => ?_,
        (checkedTags_eq_ok_iff.1 ht).1, free, acl, default⟩
      exact Cidr.disjoint_iff.2 (apart k s hs he)
  · rintro ⟨vpc, cidr, there, parsed, inside, apart, allowed, free, acl, default⟩
    have made := Subnet.make_of_allowed allowed (Ident.resource "subnet" subnetStem) cidr n.subnets.context
    exact ⟨_, congrArg _ (createSubnet_eq_ok there parsed inside apart free made default)⟩

end

/-- **What is left when a subnet is made**: the subnet that was asked for stands under its new id, the default
list of its VPC has one association more, which is for the subnet, and the rest is as it was. -/
structure SubnetMade (n m : Network) (block : String) (p : NewSubnet) (subnetStem associationStem : String)
    (s : Subnet) : Prop where
  asked : ∃ cidr, Cidr.parse? block = some cidr ∧
    s = { id := Ident.resource "subnet" subnetStem, vpcId := p.vpcId, block := cidr,
          zone := p.zone.getD (n.subnets.context.region ++ "a"), ownerId := n.subnets.context.account,
          tags := TagMap.ofTags p.tags }
  subnets : ∀ k, m.subnets.get? k = if k = s.id then some s else n.subnets.get? k
  acls : ∃ acl, n.acls.get? acl.id = some acl ∧ acl.IsDefaultOf s.vpcId ∧
    let x : AclAssociation := ⟨Ident.resource "aclassoc" associationStem, acl.id, s.id⟩
    ∀ k, m.acls.get? k =
      if k = acl.id then some { acl with associations := acl.associations.insert x.id x } else n.acls.get? k
  rest : ∃ subnets acls,
    m = { n with subnets := { n.subnets with items := subnets }, acls := { n.acls with items := acls } }

/-- In a founded network, a subnet that is made is left as it was asked for. -/
theorem Founded.subnetMade {drawn : List String} {n m : Network} (h : Founded drawn n) {block : String}
    {p : NewSubnet} {subnetStem associationStem : String} {s : Subnet}
    (ok : n.createSubnet block p subnetStem associationStem = .ok s m) :
    SubnetMade n m block p subnetStem associationStem s := by
  obtain ⟨vpc, cidr, there, parsed, inside, apart, allowed, free, acl, default⟩ :=
    createSubnet_ok_iff.1 ⟨s, congrArg Outcome.result ok⟩
  have made := Subnet.make_of_allowed allowed (Ident.resource "subnet" subnetStem) cidr n.subnets.context
  cases ok.symm.trans (createSubnet_eq_ok there parsed inside apart free made default)
  obtain ⟨-, -, isDefault⟩ := defaultAcl_eq_ok default
  have list := h.get?_default default
  refine ⟨⟨cidr, parsed, rfl⟩, fun k => Store.get?_put .., ⟨acl, list, isDefault, fun k => ?_⟩, _, _, rfl⟩
  rw [Network.putAssociation, Store.get?_modify]
  split
  next hk => rw [hk, list]; rfl
  next => rfl

/-- **The subnets of a VPC share no addresses and lie inside it**, after any run of operations. The written
blocks of a subnet and of its VPC read back as the blocks. As long as no identifier is made twice, a new
subnet is made exactly when its VPC is there, its block can be read, lies inside the VPC and shares no
address with a subnet of it, and its tags are accepted; and then it is left as it was asked for. -/
theorem subnets_disjoint (scope : Scope) (ops : List Op) :
    (∀ k s k' s', ((blank scope).run ops).subnets.get? k = some s →
      ((blank scope).run ops).subnets.get? k' = some s' → k ≠ k' → s.vpcId = s'.vpcId →
      Disjoint s.block.addresses s'.block.addresses) ∧
    (∀ k s, ((blank scope).run ops).subnets.get? k = some s →
      ∃ v, ((blank scope).run ops).vpcs.get? s.vpcId = some v ∧
        s.block.addresses ⊆ v.block.addresses ∧
        Cidr.parse? s.block.render = some s.block ∧ vpcBlock v.block.render = .ok v.block) ∧
    ∀ block p subnetStem associationStem,
      (drawnIds (ops ++ [.createSubnet block p subnetStem associationStem])).Nodup →
      ((∃ s, (((blank scope).run ops).createSubnet block p subnetStem associationStem).result = .ok s) ↔
        ∃ vpc cidr, ((blank scope).run ops).vpcs.get? p.vpcId = some vpc ∧
          Cidr.parse? block = some cidr ∧ cidr.addresses ⊆ vpc.block.addresses ∧
          (∀ k s, ((blank scope).run ops).subnets.get? k = some s → s.vpcId = p.vpcId →
            Disjoint s.block.addresses cidr.addresses) ∧
          TagPolicy.standard.checkReplacement (TagMap.ofTags p.tags) = .ok ()) ∧
      ∀ s m, ((blank scope).run ops).createSubnet block p subnetStem associationStem = .ok s m →
        SubnetMade ((blank scope).run ops) m block p subnetStem associationStem s := by
  have nested := nested_run scope ops
  refine ⟨fun k s k' s' hs hs' hne he => ?_, fun k s hs => ?_,
    fun block p subnetStem associationStem fresh => ?_⟩
  · exact Cidr.disjoint_iff.2 ⟨nested.apart k s k' s' hs hs' hne he,
      nested.apart k' s' k s hs' hs hne.symm he.symm⟩
  · obtain ⟨v, hv, inside⟩ := nested.inside k s hs
    refine ⟨v, hv, Cidr.contains_iff_subset.1 inside, s.block.parse?_render, ?_⟩
    exact vpcBlock_eq_ok_iff.2 ⟨v.block.parse?_render, nested.sized _ v hv⟩
  · obtain ⟨fresh', new⟩ := fresh_of_nodup fresh
    have founded := founded_run scope ops fresh'
    refine ⟨?_, fun s m ok => founded.subnetMade ok⟩
    rw [createSubnet_ok_iff]
    constructor
    · rintro ⟨vpc, cidr, there, parsed, inside, apart, tags, -, -⟩
      exact ⟨vpc, cidr, there, parsed, inside, apart, tags⟩
    · rintro ⟨vpc, cidr, there, parsed, inside, apart, tags⟩
      -- the id is new and the VPC has kept its default list
      have free : ((blank scope).run ops).subnets.get? (Ident.resource "subnet" subnetStem) = none := by
        cases hs : ((blank scope).run ops).subnets.get? (Ident.resource "subnet" subnetStem) with
        | none => rfl
        | some s => exact absurd (founded.subnets _ s hs) (new _ (by simp [Op.ids]))
      obtain ⟨acl, default, -⟩ := founded.exists_defaultAcl there
      exact ⟨vpc, cidr, there, parsed, inside, apart, tags, free, acl, default⟩

/-- A VPC with a subnet in its first half. -/
def halvedRun : List Op :=
  [.createVpc "10.0.0.0/16" [] "1" "1", .createSubnet "10.0.0.0/17" ⟨"vpc-1", none, []⟩ "1" "1"]

/-- The second half can be made a subnet, so it shares no address with the first. -/
theorem subnets_disjoint_halves :
    (drawnIds (halvedRun ++ [.createSubnet "10.0.128.0/17" ⟨"vpc-1", none, []⟩ "2" "2"])).Nodup ∧
    ∃ vpc cidr, ((blank home).run halvedRun).vpcs.get? "vpc-1" = some vpc ∧
      Cidr.parse? "10.0.128.0/17" = some cidr ∧ cidr.addresses ⊆ vpc.block.addresses ∧
      (∀ k s, ((blank home).run halvedRun).subnets.get? k = some s → s.vpcId = "vpc-1" →
        Disjoint s.block.addresses cidr.addresses) ∧
      TagPolicy.standard.checkReplacement (TagMap.ofTags []) = .ok () := by
  have fresh : (drawnIds (halvedRun ++
      [.createSubnet "10.0.128.0/17" ⟨"vpc-1", none, []⟩ "2" "2"])).Nodup := by decide
  have made : (((blank home).run halvedRun).createSubnet "10.0.128.0/17" ⟨"vpc-1", none, []⟩
      "2" "2").result.toOption.isSome = true := by decide +kernel
  refine ⟨fresh, ((subnets_disjoint home halvedRun).2.2 _ _ _ _ fresh).1.1 ?_⟩
  generalize (((blank home).run halvedRun).createSubnet "10.0.128.0/17" ⟨"vpc-1", none, []⟩
    "2" "2").result = r at made
  cases r with
  | error e => cases made
  | ok s => exact ⟨s, rfl⟩

end MockCloud.Network
