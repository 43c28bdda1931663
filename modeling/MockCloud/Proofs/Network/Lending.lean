import MockCloud.Proofs.Network.Reference

/-! # Who has a public address

That a gateway has a public address is written down twice: the gateway keeps a record of the address, and the
address names the interface of the gateway. The two are written one after the other when a gateway is made,
and struck out one after the other when it is deleted.

* `Borrows`: the gateway under an id keeps this record.
* `Lent`: both sides agree, and no address is with two gateways.
* `releaseAddress_ok_iff` and `createGateway_ok_iff`: when an address can be released and when it can be used,
  in any network.
* `AddressGone`, `GatewayMade` and `GatewayGone`: what is left then, and when a gateway is deleted.
* `address_ownership`: what this means for the addresses and the gateways after any run. -/

namespace MockCloud.Network

/-! ### Records of addresses -/

/-- The gateway under `k` keeps the record `x`. -/
def Borrows (gateways : Store Gateway Scope) (k : String) (x : GatewayAddress) : Prop :=
  ∃ g, gateways.get? k = some g ∧ x ∈ g.addresses

section

variable {gateways gateways' : Store Gateway Scope} {k : String} {x : GatewayAddress}

theorem Agree.borrows_iff (h : Agree Gateway.addresses gateways gateways') :
    Borrows gateways' k x ↔ Borrows gateways k x := by
  constructor
  · rintro ⟨g, hg, hx⟩
    obtain ⟨g', hg', e⟩ := h.before hg
    exact ⟨g', hg', e ▸ hx⟩
  · rintro ⟨g, hg, hx⟩
    obtain ⟨g', hg', e⟩ := h.symm.before hg
    exact ⟨g', hg', e ▸ hx⟩

theorem borrows_put {id : String} {g : Gateway} (free : gateways.get? id = none) :
    Borrows (gateways.put id g) k x ↔ (k = id ∧ x ∈ g.addresses) ∨ Borrows gateways k x := by
  unfold Borrows
  rw [Store.get?_put]
  split_ifs with hk
  · subst hk; simp [free]
  · simp [hk]

theorem borrows_drop {id : String} :
    Borrows (gateways.drop id) k x ↔ Borrows gateways k x ∧ k ≠ id := by
  unfold Borrows
  rw [Store.get?_drop]
  split_ifs with hk
  · simp [hk]
  · simp [hk]

end

/-! ### The invariant -/

/-- A gateway keeps one record, about an address that is there and that names the interface of the record;
an address that names an interface is in the record of a gateway, and no two gateways have records about one
address. -/
structure Lent (n : Network) : Prop where
  one : ∀ k g, n.gateways.get? k = some g → ∃ x, g.addresses = [x]
  lent : ∀ k x, Borrows n.gateways k x → ∃ a, n.addresses.get? x.allocationId = some a ∧
    a.interfaceId = some x.interfaceId ∧ a.publicIp = x.publicIp
  used : ∀ id a e, n.addresses.get? id = some a → a.interfaceId = some e →
    ∃ k x, Borrows n.gateways k x ∧ x.allocationId = id
  apart : ∀ k x k' x', Borrows n.gateways k x → Borrows n.gateways k' x' →
    x.allocationId = x'.allocationId → k = k'

/-- What an address says about its gateway. -/
def PublicAddress.loan (a : PublicAddress) : Option String × String :=
  (a.interfaceId, a.publicIp)

section

variable {n m : Network} {op : Op} {o : Outcome Network NetworkError Unit}

theorem lent_blank (scope : Scope) : Lent (blank scope) := by
  refine ⟨?_, ?_, ?_, ?_⟩
  · intro k g hg; cases hg
  · rintro k x ⟨g, hg, -⟩; cases hg
  · intro id a e ha; cases ha
  · rintro k x k' x' ⟨g, hg, -⟩; cases hg

/-- The record of a gateway is the only one of that gateway. -/
theorem Lent.eq_of_borrows (h : Lent n) {k : String} {x x' : GatewayAddress} (hx : Borrows n.gateways k x)
    (hx' : Borrows n.gateways k x') : x = x' := by
  obtain ⟨g, hg, mem⟩ := hx
  obtain ⟨g', hg', mem'⟩ := hx'
  cases hg.symm.trans hg'
  obtain ⟨y, only⟩ := h.one k g hg
  rw [only, List.mem_singleton] at mem mem'
  rw [mem, mem']

theorem Lent.of_agree (h : Lent n) (gateways : Agree Gateway.addresses n.gateways m.gateways)
    (addresses : Agree PublicAddress.loan n.addresses m.addresses) : Lent m where
  one k g hg := by
    obtain ⟨g', hg', e⟩ := gateways.before hg
    rw [← e]
    exact h.one k g' hg'
  lent k x hx := by
    obtain ⟨a, ha, named, ip⟩ := h.lent k x (gateways.borrows_iff.1 hx)
    obtain ⟨b, hb, e⟩ := addresses.symm.before ha
    exact ⟨b, hb, (congrArg (·.1) e).trans named, (congrArg (·.2) e).trans ip⟩
  used id a e ha named := by
    obtain ⟨b, hb, same⟩ := addresses.before ha
    obtain ⟨k, x, hx, at_⟩ := h.used id b e hb ((congrArg (·.1) same).trans named)
    exact ⟨k, x, gateways.borrows_iff.2 hx, at_⟩
  apart k x k' x' hx hx' :=
    h.apart k x k' x' (gateways.borrows_iff.1 hx) (gateways.borrows_iff.1 hx')

/-- No gateway keeps a record about an address that names no interface. -/
theorem Lent.ne_of_idle (h : Lent n) {id : String} {a : PublicAddress} (there : n.addresses.get? id = some a)
    (idle : a.interfaceId = none) {k : String} {x : GatewayAddress} (hx : Borrows n.gateways k x) :
    x.allocationId ≠ id := by
  rintro rfl
  obtain ⟨b, hb, named, -⟩ := h.lent k x hx
  cases there.symm.trans hb
  cases idle.symm.trans named

theorem Lent.addressPut (h : Lent n) {id : String} {a : PublicAddress} (free : n.addresses.get? id = none)
    (idle : a.interfaceId = none) : Lent { n with addresses := n.addresses.put id a } where
  one := h.one
  lent k x hx := by
    obtain ⟨b, hb, linked⟩ := h.lent k x hx
    have other : x.allocationId ≠ id := fun e => by rw [e, free] at hb; cases hb
    refine ⟨b, ?_, linked⟩
    rw [Store.get?_put, if_neg other, hb]
  used id' b e hb named := by
    simp only [Store.get?_put] at hb
    split_ifs at hb
    · cases hb
      cases idle.symm.trans named
    · exact h.used id' b e hb named
  apart := h.apart

theorem Lent.addressDropped (h : Lent n) {id : String} {a : PublicAddress}
    (there : n.addresses.get? id = some a) (idle : a.interfaceId = none) :
    Lent { n with addresses := n.addresses.drop id } where
  one := h.one
  lent k x hx := by
    obtain ⟨b, hb, linked⟩ := h.lent k x hx
    refine ⟨b, ?_, linked⟩
    rw [Store.get?_drop, if_neg (h.ne_of_idle there idle hx), hb]
  used id' b e hb named := by
    simp only [Store.get?_drop] at hb
    split_ifs at hb
    exact h.used id' b e hb named
  apart := h.apart

/-- A gateway is made, and the address that it takes is told its interface. -/
theorem Lent.gatewayPut (h : Lent n) {id allocationId interface privateIp : String} {g : Gateway}
    {a : PublicAddress} (free : n.gateways.get? id = none) (there : n.addresses.get? allocationId = some a)
    (idle : a.interfaceId = none)
    (only : g.addresses = [⟨allocationId, interface, privateIp, a.publicIp⟩]) :
    Lent { n with
      gateways := n.gateways.put id g,
      addresses := n.addresses.modify allocationId fun a => { a with interfaceId := some interface } } where
  one k g' hg' := by
    simp only [Store.get?_put] at hg'
    split_ifs at hg'
    · cases hg'
      exact ⟨_, only⟩
    · exact h.one k g' hg'
  lent k y hy := by
    simp only [Store.get?_modify]
    rcases (borrows_put free).1 hy with ⟨-, mem⟩ | old
    · rw [only, List.mem_singleton] at mem
      subst mem
      rw [if_pos rfl, there]
      exact ⟨_, rfl, rfl, rfl⟩
    · rw [if_neg (h.ne_of_idle there idle old)]
      exact h.lent k y old
  used id' b e hb named := by
    simp only [Store.get?_modify] at hb
    split_ifs at hb with hid
    · exact ⟨id, _, (borrows_put free).2 (.inl ⟨rfl, only ▸ List.mem_singleton_self _⟩), hid.symm⟩
    · obtain ⟨k, y, hy, at_⟩ := h.used id' b e hb named
      exact ⟨k, y, (borrows_put free).2 (.inr hy), at_⟩
  apart k y k' y' hy hy' e := by
    -- the address was idle, so no earlier record is about it
    have earlier {i : String} {z : GatewayAddress} (old : Borrows n.gateways i z) :
        z.allocationId ≠ allocationId := h.ne_of_idle there idle old
    rw [borrows_put free, only, List.mem_singleton] at hy hy'
    rcases hy with ⟨rfl, rfl⟩ | old <;> rcases hy' with ⟨rfl, rfl⟩ | old'
    · rfl
    · exact absurd e.symm (earlier old')
    · exact absurd e (earlier old)
    · exact h.apart k y k' y' old old' e

/-- A gateway goes, and the address that it had is told so. -/
theorem Lent.gatewayDropped (h : Lent n) {id : String} {g : Gateway} (there : n.gateways.get? id = some g) :
    Lent ({ n with gateways := n.gateways.drop id }.freeAddresses g.addresses) := by
  obtain ⟨x, only⟩ := h.one id g there
  have had : Borrows n.gateways id x := ⟨g, there, by simp [only]⟩
  -- the records of the other gateways are about other addresses
  have others {k : String} {y : GatewayAddress} (hy : Borrows (n.gateways.drop id) k y) :
      Borrows n.gateways k y ∧ y.allocationId ≠ x.allocationId := by
    obtain ⟨old, ne⟩ := borrows_drop.1 hy
    exact ⟨old, fun e => ne (h.apart k y id x old had e)⟩
  rw [only, freeAddresses_singleton]
  refine ⟨fun k g' hg' => ?_, fun k y hy => ?_, fun id' b e hb named => ?_, fun k y k' y' hy hy' => ?_⟩
  · simp only [Store.get?_drop] at hg'
    split_ifs at hg'
    exact h.one k g' hg'
  · obtain ⟨old, ne⟩ := others hy
    simp only [Store.get?_modify, if_neg ne]
    exact h.lent k y old
  · simp only [Store.get?_modify] at hb
    split_ifs at hb with hid
    · obtain ⟨c, -, rfl⟩ := Option.map_eq_some_iff.1 hb
      cases named
    · obtain ⟨k, y, old, at_⟩ := h.used id' b e hb named
      refine ⟨k, y, borrows_drop.2 ⟨old, ?_⟩, at_⟩
      rintro rfl
      exact hid (at_.symm.trans (congrArg _ (h.eq_of_borrows old had)))
  · exact h.apart k y k' y' (others hy).1 (others hy').1

/-- **Every operation keeps the two sides in agreement.** -/
theorem lent_effect (h : Lent n) (effect : Effect n op o) : Lent o.state := by
  cases effect with
  | refused e => exact h
  | addressAllocated free made =>
    rw [PublicAddress.make_eq_ok made]
    exact h.addressPut free rfl
  | addressReleased there mayGo => exact h.addressDropped there (PublicAddress.mayGo_eq_ok_iff.1 mayGo)
  | gatewayCreated there allocated idle free made =>
    obtain ⟨_, -, rfl⟩ := Gateway.make_eq_ok made
    exact h.gatewayPut free allocated idle rfl
  | gatewayDeleted there => exact h.gatewayDropped there
  | tagged =>
    exact h.of_agree (foldl_changeTags_gateways Prod.fst (fun x _ => x.2) _ n fun _ _ => rfl)
      (foldl_changeTags_addresses Prod.fst (fun x _ => x.2) _ n fun _ _ => rfl)
  | @untagged ids removals =>
    exact h.of_agree
      (foldl_changeTags_gateways id (fun _ tags => removals.foldl TagRemoval.apply tags) ids n fun _ _ => rfl)
      (foldl_changeTags_addresses id (fun _ tags => removals.foldl TagRemoval.apply tags) ids n fun _ _ => rfl)
  | _ => exact h.of_agree (.refl _ _) (.refl _ _)

theorem lent_run (scope : Scope) (ops : List Op) : Lent ((blank scope).run ops) :=
  run_keeps (lent_blank scope) (fun n op h => lent_effect h (n.perform_effect op)) ops

/-! ### When an address is released or taken -/

/-- **When an address is released**, in any network: it is there and names no interface. -/
theorem releaseAddress_ok_iff {allocationId : String} : (n.releaseAddress allocationId).result = .ok () ↔
    ∃ a, n.addresses.get? allocationId = some a ∧ a.interfaceId = none := by
  constructor
  · intro ok
    have effect := n.releaseAddress_effect allocationId
    generalize n.releaseAddress allocationId = o at effect ok
    cases effect with
    | refused e => cases ok
    | addressReleased there mayGo => exact ⟨_, there, PublicAddress.mayGo_eq_ok_iff.1 mayGo⟩
  · rintro ⟨a, there, idle⟩
    have mayGo : Entity.mayGo String a n.addresses.context = .ok () := PublicAddress.mayGo_eq_ok_iff.2 idle
    unfold releaseAddress Store.delete
    rw [Store.require_eq_ok_iff.2 there, Outcome.guard_ok, mayGo]
    rfl

theorem Gateway.make_of_allowed {p : NewGateway}
    (allowed : TagPolicy.standard.checkReplacement (TagMap.ofTags p.tags) = .ok ()) (id : String) :
    Gateway.make id p = .ok { id, subnetId := p.subnetId, vpcId := p.vpcId, created := p.created,
                              addresses := [p.address], tags := TagMap.ofTags p.tags } := by
  unfold Gateway.make
  rw [checkedTags_eq_ok_iff.2 ⟨allowed, rfl⟩]
  rfl

section

variable {subnetId allocationId : String} {tags : List Tag} {draw : GatewayDraw}

/-- The gateway that is made in a subnet with an address. -/
def newGateway (subnetId : String) (s : Subnet) (allocationId : String) (a : PublicAddress) (tags : List Tag)
    (draw : GatewayDraw) : Gateway where
  id := Ident.resource "nat" draw.stem
  subnetId := subnetId
  vpcId := s.vpcId
  created := draw.time
  addresses := [⟨allocationId, Ident.resource "eni" draw.interfaceStem,
    addressText (s.block.drawHost draw.host), a.publicIp⟩]
  tags := TagMap.ofTags tags

/-- If all checks pass, the gateway is made, and its address is told its interface. -/
theorem createGateway_eq_ok {s : Subnet} {a : PublicAddress} (there : n.subnets.get? subnetId = some s)
    (allocated : n.addresses.get? allocationId = some a) (idle : a.interfaceId = none)
    (allowed : TagPolicy.standard.checkReplacement (TagMap.ofTags tags) = .ok ())
    (free : n.gateways.get? (Ident.resource "nat" draw.stem) = none) :
    n.createGateway subnetId allocationId tags draw =
      .ok (newGateway subnetId s allocationId a tags draw) { n with
        gateways := n.gateways.put (Ident.resource "nat" draw.stem)
          (newGateway subnetId s allocationId a tags draw),
        addresses := n.addresses.modify allocationId fun a =>
          { a with interfaceId := some (Ident.resource "eni" draw.interfaceStem) } } := by
  have created := n.gateways.create_eq_ok free (Gateway.make_of_allowed (p := ⟨subnetId, s.vpcId,
    ⟨allocationId, Ident.resource "eni" draw.interfaceStem, addressText (s.block.drawHost draw.host), a.publicIp⟩,
    tags, draw.time⟩) allowed _)
  unfold createGateway
  rw [getSubnet, Store.require_eq_ok_iff.2 there, Outcome.guard_ok, Store.require_eq_ok_iff.2 allocated,
    Outcome.guard_ok, idle]
  simp only [Option.isSome_none, Bool.false_eq_true, if_false]
  rw [created]
  rfl

/-- **When a gateway is made**, in any network: its subnet is there, its address is there and names no
interface, its tags are accepted, and its id is free. -/
theorem createGateway_ok_iff : (∃ g, (n.createGateway subnetId allocationId tags draw).result = .ok g) ↔
    (∃ s, n.subnets.get? subnetId = some s) ∧
      (∃ a, n.addresses.get? allocationId = some a ∧ a.interfaceId = none) ∧
      TagPolicy.standard.checkReplacement (TagMap.ofTags tags) = .ok () ∧
      n.gateways.get? (Ident.resource "nat" draw.stem) = none := by
  constructor
  · rintro ⟨g, hg⟩
    have effect := n.createGateway_effect subnetId allocationId tags draw
    have ok := Outcome.result_done_of_result hg
    generalize (n.createGateway subnetId allocationId tags draw).done = o at effect ok
    cases effect with
    | refused e => cases ok
    | gatewayCreated there allocated idle free made =>
      obtain ⟨map, checked, -⟩ := Gateway.make_eq_ok made
      exact ⟨⟨_, there⟩, ⟨_, allocated, idle⟩, (checkedTags_eq_ok_iff.1 checked).1, free⟩
  · rintro ⟨⟨s, there⟩, ⟨a, allocated, idle⟩, allowed, free⟩
    exact ⟨_, congrArg _ (createGateway_eq_ok there allocated idle allowed free)⟩

end

theorem deleteGateway_of_get? {gatewayId : String} {g : Gateway}
    (there : n.gateways.get? gatewayId = some g) : n.deleteGateway gatewayId =
      .ok g.id ({ n with gateways := n.gateways.drop gatewayId }.freeAddresses g.addresses) := by
  unfold deleteGateway Store.delete
  rw [Store.require_eq_ok_iff.2 there]
  rfl

/-! ### What is left then -/

/-- **What is left when an address is released**: the address is gone, and the rest is as it was. -/
structure AddressGone (n m : Network) (allocationId : String) : Prop where
  addresses : ∀ k, m.addresses.get? k = if k = allocationId then none else n.addresses.get? k
  rest : ∃ addresses, m = { n with addresses := { n.addresses with items := addresses } }

/-- **What is left when a gateway is made**: the gateway that was asked for stands under its new id, its address
names the interface of the gateway's record, and the rest is as it was. -/
structure GatewayMade (n m : Network) (subnetId allocationId : String) (tags : List Tag) (draw : GatewayDraw)
    (g : Gateway) : Prop where
  asked : ∃ s a, n.subnets.get? subnetId = some s ∧ n.addresses.get? allocationId = some a ∧
    g = newGateway subnetId s allocationId a tags draw
  gateways : ∀ k, m.gateways.get? k = if k = g.id then some g else n.gateways.get? k
  addresses : ∀ k, m.addresses.get? k =
    if k = allocationId then
      (n.addresses.get? k).map fun a => { a with interfaceId := some (Ident.resource "eni" draw.interfaceStem) }
    else n.addresses.get? k
  rest : ∃ gateways addresses, m = { n with
    gateways := { n.gateways with items := gateways }, addresses := { n.addresses with items := addresses } }

/-- **What is left when a gateway is deleted**: the gateway is gone, the addresses that it had name no interface,
and the rest is as it was. -/
structure GatewayGone (n m : Network) (gatewayId : String) (g : Gateway) : Prop where
  gateways : ∀ k, m.gateways.get? k = if k = gatewayId then none else n.gateways.get? k
  addresses : ∀ k, m.addresses.get? k =
    if ∃ x ∈ g.addresses, x.allocationId = k then
      (n.addresses.get? k).map fun a => { a with interfaceId := none }
    else n.addresses.get? k
  rest : ∃ gateways addresses, m = { n with
    gateways := { n.gateways with items := gateways }, addresses := { n.addresses with items := addresses } }

theorem addressGone_of_ok {allocationId : String} (ok : n.releaseAddress allocationId = .ok () m) :
    AddressGone n m allocationId := by
  have effect := n.releaseAddress_effect allocationId
  rw [ok] at effect
  generalize ho : Outcome.ok () m = o at effect
  cases effect with
  | refused e => cases ho
  | addressReleased there mayGo =>
    cases ho
    exact ⟨fun k => Store.get?_drop .., _, rfl⟩

theorem gatewayMade_of_ok {subnetId allocationId : String} {tags : List Tag} {draw : GatewayDraw} {g : Gateway}
    (ok : n.createGateway subnetId allocationId tags draw = .ok g m) :
    GatewayMade n m subnetId allocationId tags draw g := by
  obtain ⟨⟨s, there⟩, ⟨a, allocated, idle⟩, allowed, free⟩ :=
    createGateway_ok_iff.1 ⟨g, congrArg Outcome.result ok⟩
  cases ok.symm.trans (createGateway_eq_ok there allocated idle allowed free)
  exact ⟨⟨s, a, there, allocated, rfl⟩, fun k => Store.get?_put .., fun k => Store.get?_modify .., _, _, rfl⟩

/-- A gateway has one address, which is told that the gateway is gone. -/
theorem Lent.gatewayGone (h : Lent n) {gatewayId : String} {g : Gateway}
    (there : n.gateways.get? gatewayId = some g) :
    GatewayGone n ({ n with gateways := n.gateways.drop gatewayId }.freeAddresses g.addresses) gatewayId g := by
  obtain ⟨x, only⟩ := h.one gatewayId g there
  rw [only, freeAddresses_singleton]
  refine ⟨fun k => Store.get?_drop .., fun k => ?_, _, _, rfl⟩
  have had : (∃ y ∈ [x], y.allocationId = k) ↔ k = x.allocationId := by simp [eq_comm]
  simp only [Store.get?_modify, only, had]

/-- Once its gateway is gone, an address names no interface. -/
theorem GatewayGone.idle {gatewayId : String} {g : Gateway} (gone : GatewayGone n m gatewayId g) (h : Lent n)
    (there : n.gateways.get? gatewayId = some g) {x : GatewayAddress} (hx : x ∈ g.addresses) :
    ∃ a, m.addresses.get? x.allocationId = some a ∧ a.interfaceId = none := by
  obtain ⟨a, ha, -⟩ := h.lent gatewayId x ⟨g, there, hx⟩
  rw [gone.addresses, if_pos ⟨x, hx, rfl⟩, ha]
  exact ⟨_, rfl, rfl⟩

/-! ### Addresses and their gateways -/

/-- What both sides tell of the addresses, and when an address can be released or used, and what is left then. -/
structure Allotted (n : Network) : Prop where
  /-- An address names an interface exactly if one gateway alone keeps a record about it, and only one
  record, with that interface and the same public address. -/
  taken : ∀ id a e, n.addresses.get? id = some a → (a.interfaceId = some e ↔
    ∃ k x, (∀ k' x', Borrows n.gateways k' x' ∧ x'.allocationId = id ↔ k' = k ∧ x' = x) ∧
      x.interfaceId = e ∧ x.publicIp = a.publicIp)
  idle : ∀ id a, n.addresses.get? id = some a →
    (a.interfaceId = none ↔ ∀ k x, Borrows n.gateways k x → x.allocationId ≠ id)
  one : ∀ k g, n.gateways.get? k = some g →
    ∃ x a, g.addresses = [x] ∧ n.addresses.get? x.allocationId = some a
  apart : ∀ k x k' x', Borrows n.gateways k x → Borrows n.gateways k' x' →
    x.allocationId = x'.allocationId → k = k'
  release : ∀ id, (n.releaseAddress id).result = .ok () ↔
    (∃ a, n.addresses.get? id = some a) ∧ ∀ k x, Borrows n.gateways k x → x.allocationId ≠ id
  released : ∀ id m, n.releaseAddress id = .ok () m → AddressGone n m id
  /-- Once its gateway is gone, an address can be released, or taken by any gateway that can be made. -/
  back : ∀ k g, n.gateways.get? k = some g → ∃ next, n.deleteGateway k = .ok k next ∧ GatewayGone n next k g ∧
    ∀ x ∈ g.addresses,
      (∃ m, next.releaseAddress x.allocationId = .ok () m ∧ AddressGone next m x.allocationId) ∧
      ∀ subnetId tags draw,
        ((∃ g', (next.createGateway subnetId x.allocationId tags draw).result = .ok g') ↔
          (∃ s, n.subnets.get? subnetId = some s) ∧
            TagPolicy.standard.checkReplacement (TagMap.ofTags tags) = .ok () ∧
            next.gateways.get? (Ident.resource "nat" draw.stem) = none) ∧
        ∀ g' m, next.createGateway subnetId x.allocationId tags draw = .ok g' m →
          GatewayMade next m subnetId x.allocationId tags draw g'

/-- An address names the interface of the one record about it. -/
theorem Lent.taken_iff (h : Lent n) {id e : String} {a : PublicAddress}
    (there : n.addresses.get? id = some a) : a.interfaceId = some e ↔
      ∃ k x, (∀ k' x', Borrows n.gateways k' x' ∧ x'.allocationId = id ↔ k' = k ∧ x' = x) ∧
        x.interfaceId = e ∧ x.publicIp = a.publicIp := by
  constructor
  · intro named
    obtain ⟨k, x, hx, rfl⟩ := h.used id a e there named
    obtain ⟨b, hb, interface, ip⟩ := h.lent k x hx
    cases there.symm.trans hb
    refine ⟨k, x, fun k' x' => ⟨?_, ?_⟩, Option.some.inj (interface.symm.trans named), ip.symm⟩
    · rintro ⟨hx', same⟩
      obtain rfl := h.apart k' x' k x hx' hx same
      exact ⟨rfl, h.eq_of_borrows hx' hx⟩
    · rintro ⟨rfl, rfl⟩
      exact ⟨hx, rfl⟩
  · rintro ⟨k, x, only, rfl, -⟩
    obtain ⟨hx, rfl⟩ := (only k x).2 ⟨rfl, rfl⟩
    obtain ⟨b, hb, interface, -⟩ := h.lent k x hx
    cases there.symm.trans hb
    exact interface

theorem Lent.idle_iff (h : Lent n) {id : String} {a : PublicAddress} (there : n.addresses.get? id = some a) :
    a.interfaceId = none ↔ ∀ k x, Borrows n.gateways k x → x.allocationId ≠ id := by
  constructor
  · intro idle k x hx
    exact h.ne_of_idle there idle hx
  · intro free
    cases named : a.interfaceId with
    | none => rfl
    | some e =>
      obtain ⟨k, x, hx, same⟩ := h.used id a e there named
      exact absurd same (free k x hx)

end

/-- **Who has a public address**, after any run: an address names an interface exactly if one gateway has it,
every gateway has one address, and no two have the same. An address can be released exactly when it is there
and no gateway has it, and then it is gone; and once its gateway is deleted it can be released or used again. -/
theorem address_ownership (scope : Scope) (ops : List Op) : Allotted ((blank scope).run ops) := by
  have h := lent_run scope ops
  have filed := (filed_blank scope).run ops
  generalize (blank scope).run ops = n at h filed
  refine ⟨fun id a e there => h.taken_iff there, fun id a there => h.idle_iff there, fun k g hg => ?_, h.apart,
    fun id => ?_, fun id m => addressGone_of_ok, fun k g hg => ?_⟩
  · obtain ⟨x, only⟩ := h.one k g hg
    obtain ⟨a, ha, -⟩ := h.lent k x ⟨g, hg, by simp [only]⟩
    exact ⟨x, a, only, ha⟩
  · rw [releaseAddress_ok_iff]
    constructor
    · rintro ⟨a, there, idle⟩
      exact ⟨⟨a, there⟩, (h.idle_iff there).1 idle⟩
    · rintro ⟨⟨a, there⟩, free⟩
      exact ⟨a, there, (h.idle_iff there).2 free⟩
  · have deleted := deleteGateway_of_get? hg
    rw [(filed.gateways k g hg).1] at deleted
    have gone := h.gatewayGone hg
    refine ⟨_, deleted, gone, fun x hx => ?_⟩
    have idle := gone.idle h hg hx
    have released := Outcome.eq_ok_of_result (releaseAddress_ok_iff.2 idle)
    refine ⟨⟨_, released, addressGone_of_ok released⟩, fun subnetId tags draw =>
      ⟨?_, fun g' m => gatewayMade_of_ok⟩⟩
    rw [createGateway_ok_iff, freeAddresses_subnets]
    constructor
    · rintro ⟨subnet, -, allowed, free⟩
      exact ⟨subnet, allowed, free⟩
    · rintro ⟨subnet, allowed, free⟩
      exact ⟨subnet, idle, allowed, free⟩

/-- The address of a gateway cannot be released before the gateway is deleted, and can be afterwards. -/
theorem address_ownership_gateway :
    (((blank home).run gatewayRun).releaseAddress "eipalloc-1").result ≠ .ok () ∧
      (((blank home).run (gatewayRun ++ [.deleteGateway "nat-1"])).releaseAddress "eipalloc-1").result =
        .ok () := by
  have allotted := address_ownership home gatewayRun
  have kept : (((blank home).run gatewayRun).gateways.get? "nat-1").map
      (fun g => g.addresses.map (·.allocationId)) = some ["eipalloc-1"] := by
    decide +kernel
  obtain ⟨g, hg, about⟩ := Option.map_eq_some_iff.1 kept
  obtain ⟨x, a, only, ha⟩ := allotted.one "nat-1" g hg
  rw [only] at about
  obtain ⟨same, -⟩ := List.cons.inj about
  have has : Borrows ((blank home).run gatewayRun).gateways "nat-1" x := ⟨g, hg, by simp [only]⟩
  refine ⟨fun ok => ((allotted.release _).1 ok).2 "nat-1" x has same, ?_⟩
  obtain ⟨next, deleted, -, free⟩ := allotted.back "nat-1" g hg
  have after : (blank home).run (gatewayRun ++ [.deleteGateway "nat-1"]) = next := by
    rw [run_concat, step, perform, deleted]
    rfl
  obtain ⟨m, released, -⟩ := (free x (by simp [only])).1
  rw [after, ← same, released]
  rfl

end MockCloud.Network
