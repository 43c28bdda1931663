import MockCloud.Proofs.Bucket.Operation
import MockCloud.Proofs.Mail.Recording
import MockCloud.Proofs.Network.Operation
import MockCloud.Proofs.Network.Tags
import MockCloud.Proofs.Pipeline.Operation
import MockCloud.Proofs.Role.Operation
import MockCloud.Proofs.Tag.Rules

/-! # The stored tags of a service

Tags are stored with roles, topics, pipelines, buckets, the five kinds of resources of a network, and
configuration sets. A service looks at the tags that an operation would leave before it stores them, the
network once for each resource that is named.

* `LegalTags`, of each service: all its stored tags keep the rules.
* `LegalTags.step`, of each service: they still do after any of its operations, by cases on the rules of the
  service. -/

namespace MockCloud

/-! ### Roles, topics, pipelines and buckets -/

/-- The tags of all roles keep the rules. -/
def Role.Directory.LegalTags (d : Directory) : Prop :=
  d.roles.Each fun _ r => r.tags.Legal

theorem Role.tags_legal_of_make {name : String} {p : New} {scope : Scope} {r : Role}
    (made : Role.make name p scope = .ok r) : r.tags.Legal := by
  obtain ⟨checked, rfl⟩ := make_eq_ok made
  exact TagMap.legal_of_checkReplacement checked.allowed

theorem Role.Directory.LegalTags.step {d : Directory} (h : d.LegalTags) (op : Op) : (d.step op).LegalTags := by
  have effect := d.perform_effect op
  unfold Directory.step
  generalize d.perform op = o at effect ⊢
  cases effect with
  | refused e => exact h
  | created _ made => exact h.put (tags_legal_of_make made)
  | changed there _ _ | changeLeft there _ _ _ | policyChanged there _ =>
    have legal := h _ _ there
    exact h.put legal
  | deleted _ => exact h.drop _
  | tagged _ there merged => exact h.put (TagMap.legal_of_merged (h _ _ there) merged)
  | untagged there => exact h.put ((h _ _ there).eraseKeys _)

/-- The tags of all topics keep the rules. -/
def Topic.Board.LegalTags (b : Board) : Prop :=
  b.topics.Each fun _ t => t.tags.Legal

theorem Topic.tags_legal_of_make {arn name : String} {p : New} {t : Topic}
    (made : Topic.make arn name p = .ok t) : t.tags.Legal := by
  obtain ⟨checked, rfl⟩ := Board.make_eq_ok_iff.1 made
  exact TagMap.legal_of_checkReplacement checked

theorem Topic.Board.LegalTags.step {b : Board} (h : b.LegalTags) (op : Op) : (b.step op).LegalTags := by
  have effect := b.perform_effect op
  unfold Board.step
  generalize b.perform op = o at effect ⊢
  cases effect with
  | refused e => exact h
  | found _ _ => exact h
  | created _ _ made => exact h.put (tags_legal_of_make made)
  | displayed there =>
    have legal := h _ _ there
    exact h.put legal
  | deleted => exact h.drop _
  | published _ => exact h
  | tagged there merged => exact h.put (TagMap.legal_of_merged (h _ _ there) merged)
  | untagged there => exact h.put ((h _ _ there).eraseKeys _)

/-- The tags of all pipelines keep the rules. -/
def Pipeline.Catalog.LegalTags (c : Catalog) : Prop :=
  c.pipelines.Each fun _ p => p.tags.Legal

theorem Pipeline.tags_legal_of_make {name : String} {p : New} {scope : Scope} {r : Pipeline}
    (made : Pipeline.make name p scope = .ok r) : r.tags.Legal := by
  unfold Pipeline.make at made
  dsimp only at made
  cases merged : mergedTags _ p.tags with
  | error e => rw [merged] at made; cases made
  | ok tags =>
    rw [merged] at made
    cases made
    exact TagMap.legal_of_merged TagMap.legal_empty (mergedTags_eq_ok_iff.1 merged).2

theorem Pipeline.Catalog.LegalTags.step {c : Catalog} (h : c.LegalTags) (op : Op) : (c.step op).LegalTags := by
  have effect := c.perform_effect op
  unfold Catalog.step
  generalize c.perform op = o at effect ⊢
  cases effect with
  | refused e => exact h
  | created _ _ _ made => exact h.put (tags_legal_of_make made)
  | updated there =>
    have legal := h _ _ there
    exact h.put legal
  | deleted => exact h.drop _
  | tagged there merged =>
    exact h.put (TagMap.legal_of_merged (h _ _ there) (mergedTags_eq_ok_iff.1 merged).2)
  | untagged there => exact h.put ((h _ _ there).eraseKeys _)

/-- The tags of all buckets that have some keep the rules. -/
def Bucket.Shelf.LegalTags (s : Shelf) : Prop :=
  s.buckets.Each fun _ b => ∀ tags, b.tags = some tags → tags.Legal

theorem Bucket.Shelf.Retags.legal {op : Op} {name : String} {old new : Option TagMap} (retags : Retags op name old new)
    (h : ∀ tags, old = some tags → tags.Legal) : ∀ tags, new = some tags → tags.Legal := by
  cases retags with
  | put _ allowed =>
    rintro _ ⟨⟩
    exact TagMap.legal_of_checkReplacement allowed
  | delete => rintro _ ⟨⟩
  | tag merged =>
    rintro _ ⟨⟩
    refine TagMap.legal_of_merged ?_ merged
    cases old with
    | none => exact TagMap.legal_empty
    | some tags => exact h tags rfl
  | untag =>
    intro tags new
    obtain ⟨before, there, rfl⟩ := Option.map_eq_some_iff.1 new
    exact (h before there).eraseKeys _

theorem Bucket.Shelf.LegalTags.step {s : Shelf} (h : s.LegalTags) (op : Op) : (s.step op).LegalTags := by
  have effect := s.perform_effect op
  unfold Shelf.step
  generalize s.perform op = o at effect ⊢
  cases effect with
  | refused e => exact h
  | created _ _ => exact h.put fun _ none => (by cases none)
  | deleted _ => exact h.drop _
  | retagged there retags => exact h.put (retags.legal (h _ _ there))
  | lifecyclePut there _ | lifecycleDeleted there =>
    have legal := h _ _ there
    exact h.put legal

/-! ### Networks -/

namespace Network

/-- The tags of all resources of a network keep the rules. -/
structure LegalTags (n : Network) : Prop where
  vpcs : n.vpcs.Each fun _ r => r.tags.Legal
  subnets : n.subnets.Each fun _ r => r.tags.Legal
  acls : n.acls.Each fun _ r => r.tags.Legal
  gateways : n.gateways.Each fun _ r => r.tags.Legal
  addresses : n.addresses.Each fun _ r => r.tags.Legal

theorem legal_of_checkedTags {tags : List Tag} {m : TagMap} (checked : checkedTags tags = .ok m) : m.Legal := by
  unfold checkedTags at checked
  dsimp only at checked
  cases allowed : TagPolicy.standard.checkReplacement (.ofTags tags) with
  | error v => rw [allowed] at checked; cases checked
  | ok _ => rw [allowed] at checked; cases checked; exact TagMap.legal_of_checkReplacement allowed

theorem legal_apply {m : TagMap} (h : m.Legal) (r : TagRemoval) : (TagRemoval.apply m r).Legal := by
  unfold TagRemoval.apply
  split
  · split
    · exact h.erase _
    · exact h
  · exact h.erase _
  · exact h

namespace LegalTags

variable {n : Network}

theorem putVpc (h : n.LegalTags) {id : String} {p : NewVpc} {scope : Scope} {vpc : Vpc}
    (made : Vpc.make id p scope = .ok vpc) : LegalTags { n with vpcs := n.vpcs.put id vpc } := by
  obtain ⟨_, tags, -, checked, rfl⟩ := Vpc.make_eq_ok made
  exact { h with vpcs := h.vpcs.put (legal_of_checkedTags checked) }

theorem putAcl (h : n.LegalTags) {id : String} {p : NewAcl} {scope : Scope} {acl : Acl}
    (made : Acl.make id p scope = .ok acl) : LegalTags { n with acls := n.acls.put id acl } := by
  obtain ⟨tags, checked, rfl⟩ := Acl.make_eq_ok made
  exact { h with acls := h.acls.put (legal_of_checkedTags checked) }

theorem putSubnet (h : n.LegalTags) {id : String} {block : Cidr} {p : NewSubnet} {scope : Scope} {s : Subnet}
    (made : Subnet.make id block p scope = .ok s) : LegalTags { n with subnets := n.subnets.put id s } := by
  obtain ⟨tags, checked, rfl⟩ := Subnet.make_eq_ok_iff.1 made
  exact { h with subnets := h.subnets.put (legal_of_checkedTags checked) }

theorem setEntries (h : n.LegalTags) (aclId : String) (entries : List AclEntry) :
    (n.setEntries aclId entries).LegalTags :=
  { h with acls := h.acls.modify _ fun _ _ ha => ha }

theorem putAssociation (h : n.LegalTags) (x : AclAssociation) : (n.putAssociation x).LegalTags :=
  { h with acls := h.acls.modify _ fun _ _ ha => ha }

theorem takeAssociation (h : n.LegalTags) (aclId associationId : String) :
    (n.takeAssociation aclId associationId).LegalTags :=
  { h with acls := h.acls.modify _ fun _ _ ha => ha }

theorem clearAssociations (h : n.LegalTags) (subnetId : String) : (n.clearAssociations subnetId).LegalTags :=
  { h with acls := h.acls.modifyAll fun _ _ ha => ha }

theorem freeAddresses (h : n.LegalTags) (addresses : List GatewayAddress) :
    (n.freeAddresses addresses).LegalTags := by
  refine List.foldlRecOn addresses _ h fun n hn a _ => ?_
  exact { hn with addresses := hn.addresses.modify _ fun _ _ ha => ha }

theorem changeTags (h : n.LegalTags) (id : String) {f : TagMap → TagMap} (keeps : ∀ m, m.Legal → (f m).Legal) :
    (n.changeTags id f).LegalTags := by
  unfold Network.changeTags
  split
  · exact { h with vpcs := h.vpcs.modify _ fun _ _ hr => keeps _ hr }
  · exact { h with subnets := h.subnets.modify _ fun _ _ hr => keeps _ hr }
  · exact { h with acls := h.acls.modify _ fun _ _ hr => keeps _ hr }
  · exact { h with gateways := h.gateways.modify _ fun _ _ hr => keeps _ hr }
  · exact { h with addresses := h.addresses.modify _ fun _ _ hr => keeps _ hr }
  · exact h

theorem tagsOf? (h : n.LegalTags) {id : String} {tags : TagMap} (there : n.tagsOf? id = some tags) :
    tags.Legal := by
  obtain ⟨kind, own, -, held⟩ := (n.tagsOf?_eq_some_iff id).1 there
  cases kind
  all_goals
    obtain ⟨r, hr, same⟩ := Option.map_eq_some_iff.1 held
    cases same
  · exact h.vpcs _ _ hr
  · exact h.subnets _ _ hr
  · exact h.acls _ _ hr
  · exact h.gateways _ _ hr
  · exact h.addresses _ _ hr

/-- Each of the merged maps of a call has been checked against the tags that its resource has. -/
theorem mergedTags (h : n.LegalTags) {incoming : TagMap} {ids : List String} {merged : List (String × TagMap)}
    (allowed : n.mergedTags incoming ids = .ok merged) : ∀ x ∈ merged, x.2.Legal := by
  induction ids generalizing merged with
  | nil => cases allowed; simp
  | cons id ids ih =>
    rw [Network.mergedTags, requireTags] at allowed
    cases there : n.tagsOf? id with
    | none => rw [there] at allowed; cases allowed
    | some old =>
      rw [there] at allowed
      dsimp only [bind, Except.bind] at allowed
      cases all : TagPolicy.standard.merged old incoming with
      | error v => rw [all] at allowed; cases allowed
      | ok new =>
        rw [all] at allowed
        cases others : n.mergedTags incoming ids with
        | error e => rw [others] at allowed; cases allowed
        | ok rest =>
          rw [others] at allowed
          cases allowed
          exact List.forall_mem_cons.2 ⟨TagMap.legal_of_merged (h.tagsOf? there) all, ih others⟩

theorem step (h : n.LegalTags) (op : Op) : (n.step op).LegalTags := by
  have effect := n.perform_effect op
  unfold Network.step
  generalize n.perform op = o at effect ⊢
  cases effect with
  | refused e => exact h
  | vpcCreated _ made _ aclMade => exact (h.putVpc made).putAcl aclMade
  | vpcLeft e _ made _ => exact h.putVpc made
  | vpcDeleted _ _ => exact { h with vpcs := h.vpcs.drop _, acls := h.acls.retain _ }
  | subnetCreated _ _ _ _ _ made _ => exact (h.putSubnet made).putAssociation _
  | subnetLeft e _ _ _ _ _ made _ => exact h.putSubnet made
  | subnetDeleted => exact { h.clearAssociations _ with subnets := h.subnets.drop _ }
  | aclCreated _ _ made => exact h.putAcl made
  | aclDeleted _ _ => exact { h with acls := h.acls.drop _ }
  | entryCreated | entryDeleted | entryReplaced => exact h.setEntries _ _
  | associationReplaced _ _ _ => exact (h.takeAssociation _ _).putAssociation _
  | defaultAssociated _ => exact h.putAssociation _
  | addressAllocated _ made =>
    rw [PublicAddress.make_eq_ok made]
    exact { h with addresses := h.addresses.put TagMap.legal_empty }
  | addressReleased _ _ => exact { h with addresses := h.addresses.drop _ }
  | gatewayCreated _ _ _ _ made =>
    obtain ⟨_, checked, rfl⟩ := Gateway.make_eq_ok made
    exact { h with
      gateways := h.gateways.put (legal_of_checkedTags checked)
      addresses := h.addresses.modify _ fun _ _ ha => ha }
  | @gatewayDeleted gatewayId =>
    have dropped : LegalTags { n with gateways := n.gateways.drop gatewayId } :=
      { h with gateways := h.gateways.drop _ }
    exact dropped.freeAddresses _
  | @tagged ids tags merged allowed =>
    have legal := h.mergedTags allowed
    exact List.foldlRecOn merged _ h fun _ hn x hx => hn.changeTags x.1 fun _ _ => legal x hx
  | @untagged ids removals _ =>
    refine List.foldlRecOn ids _ h fun _ hn id _ => hn.changeTags id fun m hm => ?_
    exact List.foldlRecOn removals _ hm fun _ hm r _ => legal_apply hm r

end LegalTags

end Network

/-! ### Configuration sets -/

namespace Mail

/-- The tags of all configuration sets keep the rules. -/
def ConfigurationSets.LegalTags (c : ConfigurationSets) : Prop :=
  c.sets.Each fun _ s => LegalKeys (s.options.tags.map Tag.key)

theorem ConfigurationSet.tags_legal_of_make {name : String} {options : SetOptions} {s : ConfigurationSet}
    (made : ConfigurationSet.make name options = .ok s) : LegalKeys (s.options.tags.map Tag.key) := by
  obtain ⟨unique, checked, rfl⟩ := ConfigurationSet.make_eq_ok made
  exact legalKeys_of_checked unique checked

theorem ConfigurationSets.LegalTags.perform {c : ConfigurationSets} (h : c.LegalTags) (op : Op) :
    (c.perform op).state.LegalTags := by
  have effect := c.perform_effect op
  generalize c.perform op = o at effect ⊢
  cases effect with
  | refused e => exact h
  | created _ made => exact h.put (ConfigurationSet.tags_legal_of_make made)
  | deleted _ => exact h.drop _
  | added there _ | measured there =>
    have legal := h _ _ there
    exact h.put legal

/-- The tags of the configuration sets of an office keep the rules. -/
def Office.LegalTags (o : Office) : Prop :=
  o.configurationSets.LegalTags

/-- The tags of the configuration sets and of the topics beside them keep the rules. -/
def Post.LegalTags (p : Post) : Prop :=
  p.1.LegalTags ∧ p.2.LegalTags

theorem Post.LegalTags.step {p : Post} (h : p.LegalTags) (op : Op) : (p.step op).LegalTags := by
  have effect := p.perform_effect op
  unfold Post.step
  generalize p.perform op = o at effect ⊢
  cases effect with
  | office op =>
    refine ⟨?_, h.2⟩
    show (p.1.perform op).state.configurationSets.LegalTags
    rcases p.1.configurationSets_perform op with same | ⟨op', -, same⟩
    · rw [same]; exact h.1
    · rw [same]; exact ConfigurationSets.LegalTags.perform h.1 op'
  | topic op => exact ⟨h.1, h.2.step op⟩
  -- sends write the log, the counts and what is published, none of which has tags
  | _ => exact h

end Mail

end MockCloud
