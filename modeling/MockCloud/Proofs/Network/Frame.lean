import MockCloud.Proofs.Network.Operation

/-! # What tags and gateways leave alone

Two stores agree on a view of their resources if they hold resources under the same ids and the view of
each is the same. An invariant that looks at a store only through a view carries over between stores that
agree on it.

* `agree_modify`: a change of one resource that the view does not see.
* `changeTags_vpcs` and the like: tags are changed behind every view that is blind to tags. -/

namespace MockCloud.Network

variable {α β γ κ : Type}

/-- The stores hold resources under the same ids, and `view` sees no difference between them. -/
def Agree (view : α → β) (s s' : Store α κ) : Prop :=
  ∀ k, (s'.get? k).map view = (s.get? k).map view

theorem Agree.refl (view : α → β) (s : Store α κ) : Agree view s s := fun _ => rfl

theorem Agree.symm {view : α → β} {s s' : Store α κ} (h : Agree view s s') : Agree view s' s :=
  fun k => (h k).symm

theorem Agree.trans {view : α → β} {s s' s'' : Store α κ} (h : Agree view s s')
    (h' : Agree view s' s'') : Agree view s s'' :=
  fun k => (h' k).trans (h k)

/-- What shows less does not show more differences. -/
theorem Agree.comp {view : α → β} {s s' : Store α κ} (h : Agree view s s') (f : β → γ) :
    Agree (f ∘ view) s s' := by
  intro k
  rw [← Option.map_map, ← Option.map_map, h k]

/-- What the second store holds, the first holds too, as far as the view goes. -/
theorem Agree.before {view : α → β} {s s' : Store α κ} (h : Agree view s s') {k : String} {a : α}
    (ha : s'.get? k = some a) : ∃ b, s.get? k = some b ∧ view b = view a := by
  have := h k
  rw [ha, Option.map_some] at this
  exact Option.map_eq_some_iff.1 this.symm

theorem agree_modify {view : α → β} (s : Store α κ) (id : String) {f : α → α}
    (blind : ∀ a, view (f a) = view a) : Agree view s (s.modify id f) := by
  intro k
  rw [Store.get?_modify]
  split
  · rw [Option.map_map]
    exact congrArg (fun g => (s.get? k).map g) (funext blind)
  · rfl

theorem agree_modifyAll {view : α → β} (s : Store α κ) {f : α → α}
    (blind : ∀ a, view (f a) = view a) : Agree view s (s.modifyAll f) := by
  intro k
  rw [Store.get?_modifyAll, Option.map_map]
  exact congrArg (fun g => (s.get? k).map g) (funext blind)

/-- Steps that the view of a store does not see, one after the other. -/
theorem agree_foldl {view : α → β} (store : Network → Store α κ) {f : Network → γ → Network}
    (h : ∀ n x, Agree view (store n) (store (f n x))) (xs : List γ) (n : Network) :
    Agree view (store n) (store (xs.foldl f n)) := by
  induction xs generalizing n with
  | nil => exact .refl _ _
  | cons x xs ih => exact (h n x).trans (ih (f n x))

/-! ### Tags -/

section

variable (n : Network) (id : String) (f : TagMap → TagMap)

theorem changeTags_vpcs {view : Vpc → β} (blind : ∀ v tags, view { v with tags } = view v) :
    Agree view n.vpcs (n.changeTags id f).vpcs := by
  unfold changeTags
  split
  · exact agree_modify _ _ fun v => blind v _
  all_goals exact .refl _ _

theorem changeTags_subnets {view : Subnet → β} (blind : ∀ s tags, view { s with tags } = view s) :
    Agree view n.subnets (n.changeTags id f).subnets := by
  unfold changeTags
  split
  · exact .refl _ _
  · exact agree_modify _ _ fun s => blind s _
  all_goals exact .refl _ _

theorem changeTags_acls {view : Acl → β} (blind : ∀ a tags, view { a with tags } = view a) :
    Agree view n.acls (n.changeTags id f).acls := by
  unfold changeTags
  split
  · exact .refl _ _
  · exact .refl _ _
  · exact agree_modify _ _ fun a => blind a _
  all_goals exact .refl _ _

theorem changeTags_gateways {view : Gateway → β} (blind : ∀ g tags, view { g with tags } = view g) :
    Agree view n.gateways (n.changeTags id f).gateways := by
  unfold changeTags
  split
  · exact .refl _ _
  · exact .refl _ _
  · exact .refl _ _
  · exact agree_modify _ _ fun g => blind g _
  all_goals exact .refl _ _

theorem changeTags_addresses {view : PublicAddress → β} (blind : ∀ a tags, view { a with tags } = view a) :
    Agree view n.addresses (n.changeTags id f).addresses := by
  unfold changeTags
  split
  · exact .refl _ _
  · exact .refl _ _
  · exact .refl _ _
  · exact .refl _ _
  · exact agree_modify _ _ fun a => blind a _
  · exact .refl _ _

end

section

variable {γ : Type} (id : γ → String) (f : γ → TagMap → TagMap) (xs : List γ) (n : Network)

theorem foldl_changeTags_acls {view : Acl → β} (blind : ∀ a tags, view { a with tags } = view a) :
    Agree view n.acls (xs.foldl (fun n x => n.changeTags (id x) (f x)) n).acls :=
  agree_foldl Network.acls (fun n x => n.changeTags_acls (id x) (f x) blind) xs n

theorem foldl_changeTags_gateways {view : Gateway → β} (blind : ∀ g tags, view { g with tags } = view g) :
    Agree view n.gateways (xs.foldl (fun n x => n.changeTags (id x) (f x)) n).gateways :=
  agree_foldl Network.gateways (fun n x => n.changeTags_gateways (id x) (f x) blind) xs n

theorem foldl_changeTags_addresses {view : PublicAddress → β}
    (blind : ∀ a tags, view { a with tags } = view a) :
    Agree view n.addresses (xs.foldl (fun n x => n.changeTags (id x) (f x)) n).addresses :=
  agree_foldl Network.addresses (fun n x => n.changeTags_addresses (id x) (f x) blind) xs n

end

/-! ### Addresses -/

section

variable (n : Network) (addresses : List GatewayAddress)

theorem freeAddresses_vpcs : (n.freeAddresses addresses).vpcs = n.vpcs := by
  unfold freeAddresses
  induction addresses generalizing n with
  | nil => rfl
  | cons a as ih => exact ih _

theorem freeAddresses_subnets : (n.freeAddresses addresses).subnets = n.subnets := by
  unfold freeAddresses
  induction addresses generalizing n with
  | nil => rfl
  | cons a as ih => exact ih _

theorem freeAddresses_acls : (n.freeAddresses addresses).acls = n.acls := by
  unfold freeAddresses
  induction addresses generalizing n with
  | nil => rfl
  | cons a as ih => exact ih _

theorem freeAddresses_gateways : (n.freeAddresses addresses).gateways = n.gateways := by
  unfold freeAddresses
  induction addresses generalizing n with
  | nil => rfl
  | cons a as ih => exact ih _

theorem freeAddresses_singleton (x : GatewayAddress) : n.freeAddresses [x] =
    { n with addresses := n.addresses.modify x.allocationId fun a => { a with interfaceId := none } } :=
  rfl

end

/-! ### Operations that keep the layout -/

/-- A VPC without its tags. -/
def Vpc.bare (v : Vpc) : Vpc := { v with tags := .empty }

/-- A subnet without its tags. -/
def Subnet.bare (s : Subnet) : Subnet := { s with tags := .empty }

theorem Vpc.block_of_bare {v w : Vpc} (h : v.bare = w.bare) : v.block = w.block := by
  have := congrArg Vpc.block h
  exact this

theorem Subnet.vpcId_of_bare {s t : Subnet} (h : s.bare = t.bare) : s.vpcId = t.vpcId := by
  have := congrArg Subnet.vpcId h
  exact this

theorem Subnet.block_of_bare {s t : Subnet} (h : s.bare = t.bare) : s.block = t.block := by
  have := congrArg Subnet.block h
  exact this

/-- What ties an access list to VPCs and subnets: all but its rules, its owner and its tags. -/
def Acl.wiring (a : Acl) : String × String × Bool × SortedMap AclAssociation :=
  (a.id, a.vpcId, a.isDefault, a.associations)

/-- The networks have the same VPCs, subnets and access lists, except for tags and rules. -/
structure SameLayout (n m : Network) : Prop where
  vpcs : Agree Vpc.bare n.vpcs m.vpcs
  subnets : Agree Subnet.bare n.subnets m.subnets
  acls : Agree Acl.wiring n.acls m.acls

theorem SameLayout.refl (n : Network) : SameLayout n n :=
  ⟨.refl _ _, .refl _ _, .refl _ _⟩

theorem SameLayout.trans {n m l : Network} (h : SameLayout n m) (h' : SameLayout m l) : SameLayout n l :=
  ⟨h.vpcs.trans h'.vpcs, h.subnets.trans h'.subnets, h.acls.trans h'.acls⟩

/-- The operations on rules, addresses, gateways and tags. -/
def Op.keepsLayout : Op → Bool
  | createEntry .. | deleteEntry .. | replaceEntry .. | allocateAddress .. | releaseAddress ..
  | createGateway .. | deleteGateway .. | createTags .. | deleteTags .. => true
  | _ => false

theorem sameLayout_setEntries (n : Network) (aclId : String) (entries : List AclEntry) :
    SameLayout n (n.setEntries aclId entries) :=
  ⟨.refl _ _, .refl _ _, agree_modify _ _ fun _ => rfl⟩

theorem sameLayout_freeAddresses (n : Network) (addresses : List GatewayAddress) :
    SameLayout n (n.freeAddresses addresses) where
  vpcs := by rw [freeAddresses_vpcs]; exact .refl _ _
  subnets := by rw [freeAddresses_subnets]; exact .refl _ _
  acls := by rw [freeAddresses_acls]; exact .refl _ _

theorem sameLayout_changeTags {γ : Type} (id : γ → String) (f : γ → TagMap → TagMap) (xs : List γ)
    (n : Network) : SameLayout n (xs.foldl (fun n x => n.changeTags (id x) (f x)) n) where
  vpcs := agree_foldl Network.vpcs (fun n x => n.changeTags_vpcs (id x) (f x) fun _ _ => rfl) xs n
  subnets := agree_foldl Network.subnets (fun n x => n.changeTags_subnets (id x) (f x) fun _ _ => rfl) xs n
  acls := foldl_changeTags_acls id f xs n fun _ _ => rfl

theorem Effect.sameLayout {n : Network} {op : Op} {o : Outcome Network NetworkError Unit}
    (h : Effect n op o) (keeps : op.keepsLayout = true) : SameLayout n o.state := by
  cases h with
  | refused e => exact .refl n
  | entryCreated | entryDeleted | entryReplaced => exact sameLayout_setEntries ..
  | addressAllocated | addressReleased | gatewayCreated => exact ⟨.refl _ _, .refl _ _, .refl _ _⟩
  | @gatewayDeleted gatewayId =>
    have drop : SameLayout n { n with gateways := n.gateways.drop gatewayId } :=
      ⟨.refl _ _, .refl _ _, .refl _ _⟩
    exact drop.trans (sameLayout_freeAddresses _ _)
  | tagged => exact sameLayout_changeTags Prod.fst (fun x _ => x.2) _ n
  | @untagged ids removals _ =>
    exact sameLayout_changeTags id (fun _ tags => removals.foldl TagRemoval.apply tags) ids n
  | _ => cases keeps

end MockCloud.Network
