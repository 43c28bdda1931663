import MockCloud.Proofs.Network.Association

/-! # One access list for each subnet

A subnet is associated with the default list of its VPC when it is made, and may then be moved to any other
list, also to one of another VPC. A VPC is deleted with its lists as soon as it has no subnets of its own;
an association that one of its lists holds for a subnet of another VPC goes with them, and that subnet is
left without a list.

* `Stranded`: the run deletes a VPC while one of its lists applies to the subnet.
* `associated_step`: what one operation does to the association of one subnet.
* `exactly_one_association_iff`: a subnet has exactly one association unless it is stranded. -/

namespace MockCloud.Network

/-! ### Who loses an association -/

/-- Some list applies to the subnet. -/
def Associated (acls : Store Acl Scope) (subnetId : String) : Prop :=
  ∃ k i x, Holds acls k i x ∧ x.subnetId = subnetId

/-- A list of the VPC applies to the subnet. -/
def UsedBy (acls : Store Acl Scope) (vpcId subnetId : String) : Prop :=
  ∃ k a i x, acls.get? k = some a ∧ a.vpcId = vpcId ∧ a.associations.get? i = some x ∧
    x.subnetId = subnetId

/-- The operation deletes a VPC together with a list that applies to the subnet. -/
def Strands (n : Network) (op : Op) (subnetId : String) : Prop :=
  ∃ vpcId, op = .deleteVpc vpcId ∧ (n.perform op).result = .ok () ∧ UsedBy n.acls vpcId subnetId

/-- Whether the operation deletes a VPC. -/
def Op.deletesVpc : Op → Bool
  | deleteVpc _ => true
  | _ => false

/-- Some operation of the run deletes a VPC together with a list that applies to the subnet. -/
def Stranded (n : Network) (ops : List Op) (subnetId : String) : Prop :=
  ∃ before op after, ops = before ++ op :: after ∧ Strands (n.run before) op subnetId

section

variable {drawn : List String} {n : Network} {acls acls' : Store Acl Scope} {op : Op} {subnetId : String}

theorem not_strands (h : op.deletesVpc = false) : ¬Strands n op subnetId := by
  rintro ⟨v, rfl, -⟩
  cases h

theorem strands_deleteVpc_iff {vpcId : String} (ok : (n.perform (.deleteVpc vpcId)).result = .ok ()) :
    Strands n (.deleteVpc vpcId) subnetId ↔ UsedBy n.acls vpcId subnetId := by
  constructor
  · rintro ⟨_, ⟨⟩, -, h⟩
    exact h
  · exact fun h => ⟨vpcId, rfl, ok, h⟩

theorem Strands.associated (h : Strands n op subnetId) : Associated n.acls subnetId := by
  obtain ⟨_, -, -, k, a, i, x, ha, -, hx, he⟩ := h
  exact ⟨k, i, x, ⟨a, ha, hx⟩, he⟩

theorem stranded_concat {ops : List Op} :
    Stranded n (ops ++ [op]) subnetId ↔ Stranded n ops subnetId ∨ Strands (n.run ops) op subnetId := by
  constructor
  · rintro ⟨before, op', after, split, h⟩
    rcases concat_eq_append_cons_iff.1 split with ⟨rfl, rfl, rfl⟩ | ⟨after, rfl, rfl⟩
    · exact .inr h
    · exact .inl ⟨before, op', after, rfl, h⟩
  · rintro (⟨before, op', after, rfl, h⟩ | h)
    · exact ⟨before, op', after ++ [op], by simp, h⟩
    · exact ⟨ops, op, [], rfl, h⟩

theorem associated_congr (h : ∀ k i x, Holds acls' k i x ↔ Holds acls k i x) :
    Associated acls' subnetId ↔ Associated acls subnetId := by
  simp only [Associated, h]

theorem associated_clearAssociations {gone : String} (hne : subnetId ≠ gone) :
    Associated (n.clearAssociations gone).acls subnetId ↔ Associated n.acls subnetId := by
  constructor
  · rintro ⟨k, i, x, hx, he⟩
    exact ⟨k, i, x, (holds_clearAssociations.1 hx).1, he⟩
  · rintro ⟨k, i, x, hx, he⟩
    exact ⟨k, i, x, holds_clearAssociations.2 ⟨hx, fun e => hne (he.symm.trans e)⟩, he⟩

/-- A new association is found beside the old ones: its id is new, so it replaces none of them. -/
theorem Wired.associated_putAssociation (h : Wired drawn n) {y : AclAssociation} {acl : Acl}
    (there : n.acls.get? y.aclId = some acl) (new : y.id ∉ drawn) :
    Associated (n.putAssociation y).acls subnetId ↔
      y.subnetId = subnetId ∨ Associated n.acls subnetId := by
  constructor
  · rintro ⟨k, i, x, hx, he⟩
    rcases (holds_putAssociation there).1 hx with ⟨-, -, rfl⟩ | ⟨old, -⟩
    · exact .inl he
    · exact .inr ⟨k, i, x, old, he⟩
  · rintro (he | ⟨k, i, x, hx, he⟩)
    · exact ⟨y.aclId, y.id, y, (holds_putAssociation there).2 (.inl ⟨rfl, rfl, rfl⟩), he⟩
    · refine ⟨k, i, x, (holds_putAssociation there).2 (.inr ⟨hx, ?_⟩), he⟩
      rintro ⟨-, rfl⟩
      exact new (h.home _ _ _ hx).2.2

/-- Only the subnet of an association that is taken out loses it. -/
theorem Wired.associated_takeAssociation (h : Wired drawn n) {aclId associationId : String}
    {previous : AclAssociation} (held : Holds n.acls aclId associationId previous) :
    Associated (n.takeAssociation aclId associationId).acls subnetId ↔
      Associated n.acls subnetId ∧ previous.subnetId ≠ subnetId := by
  constructor
  · rintro ⟨k, i, x, hx, rfl⟩
    exact ⟨⟨k, i, x, (holds_takeAssociation.1 hx).1, rfl⟩, (h.alone_of_taken held hx).symm⟩
  · rintro ⟨⟨k, i, x, hx, rfl⟩, hne⟩
    refine ⟨k, i, x, holds_takeAssociation.2 ⟨hx, ?_⟩, rfl⟩
    rintro ⟨rfl, rfl⟩
    obtain ⟨a, ha, hx⟩ := hx
    obtain ⟨b, hb, hp⟩ := held
    rw [ha] at hb; cases hb
    rw [hx] at hp; cases hp
    exact hne rfl

/-- Moving a subnet from one list to another changes nothing for any subnet. -/
theorem Wired.associated_moved (h : Wired drawn n) {aclId associationId : String} {previous y : AclAssociation}
    {acl : Acl} (held : Holds n.acls aclId associationId previous) (there : n.acls.get? y.aclId = some acl)
    (new : y.id ∉ drawn) (moved : y.subnetId = previous.subnetId) :
    Associated ((n.takeAssociation aclId associationId).putAssociation y).acls subnetId ↔
      Associated n.acls subnetId := by
  obtain ⟨b, hb⟩ := takeAssociation_get? n aclId associationId there
  rw [(h.takeAssociation _ _).associated_putAssociation hb new, h.associated_takeAssociation held, moved]
  by_cases hid : previous.subnetId = subnetId
  · simp only [hid, true_or, true_iff]
    exact ⟨_, _, _, held, hid⟩
  · simp [hid]

/-- **What a deleted VPC does to subnets**: those that its lists applied to are associated no longer, as
each had no other association. -/
theorem Wired.associated_retain (h : Wired drawn n) {vpcId : String} :
    Associated (n.acls.retain (·.vpcId != vpcId)) subnetId ↔
      Associated n.acls subnetId ∧ ¬UsedBy n.acls vpcId subnetId := by
  constructor
  · rintro ⟨k, i, x, hx, he⟩
    obtain ⟨a, ha, keep, hx⟩ := holds_retain.1 hx
    refine ⟨⟨k, i, x, ⟨a, ha, hx⟩, he⟩, ?_⟩
    rintro ⟨k', a', i', x', ha', hv, hx', he'⟩
    have := h.single _ _ _ _ _ _ ⟨a, ha, hx⟩ ⟨a', ha', hx'⟩ (he.trans he'.symm)
    subst this
    have hk := (h.home _ _ _ ⟨a, ha, hx⟩).1.symm.trans (h.home _ _ _ ⟨a', ha', hx'⟩).1
    subst hk
    rw [ha] at ha'; cases ha'
    simp [hv] at keep
  · rintro ⟨⟨k, i, x, ⟨a, ha, hx⟩, he⟩, kept⟩
    refine ⟨k, i, x, holds_retain.2 ⟨a, ha, ?_, hx⟩, he⟩
    have : a.vpcId ≠ vpcId := fun hv => kept ⟨k, a, i, x, ha, hv, hx, he⟩
    simpa using this

/-- **One operation and one subnet**: a subnet that an operation leaves there is associated afterwards if
it is new, or if it was associated before and is not stranded. -/
theorem associated_step (founded : Founded drawn n) (wired : Wired drawn n)
    (inner : ∀ s v t, op ≠ .associateDefault s v t) (new : ∀ id ∈ op.ids, id ∉ drawn)
    (there : ∃ s, (n.step op).subnets.get? subnetId = some s) :
    Associated (n.step op).acls subnetId ↔
      n.subnets.get? subnetId = none ∨ Associated n.acls subnetId ∧ ¬Strands n op subnetId := by
  have effect := n.perform_effect op
  have layout := effect.sameLayout
  unfold step at there ⊢
  generalize ho : n.perform op = o at effect there layout ⊢
  obtain ⟨s, hs⟩ := there
  -- the usual case: the subnet was there, no VPC is deleted, and the lists apply to it as before
  have kept {t : Subnet} (old : n.subnets.get? subnetId = some t) (safe : ¬Strands n op subnetId)
      (same : Associated o.state.acls subnetId ↔ Associated n.acls subnetId) :
      Associated o.state.acls subnetId ↔
        n.subnets.get? subnetId = none ∨ Associated n.acls subnetId ∧ ¬Strands n op subnetId := by
    simp [old, safe, same]
  cases effect with
  | refused e =>
    refine kept hs ?_ Iff.rfl
    rintro ⟨v, rfl, hr, -⟩
    rw [ho] at hr; cases hr
  | vpcCreated free made aclFree aclMade =>
    obtain ⟨_, -, rfl⟩ := Acl.make_eq_ok aclMade
    exact kept hs (not_strands rfl) (associated_congr fun _ _ _ => holds_put aclFree rfl)
  | vpcLeft => exact kept hs (not_strands rfl) Iff.rfl
  | vpcDeleted vpcThere unused =>
    have old : n.subnets.get? subnetId = some s := hs
    rw [Outcome.state_ok, wired.associated_retain, strands_deleteVpc_iff (by rw [ho]; rfl)]
    simp [old]
  | @subnetCreated _ _ subnetStem associationStem _ _ subnet acl vpcThere parsed inside apart free made
      default =>
    let added : AclAssociation :=
      ⟨Ident.resource "aclassoc" associationStem, acl.id, Ident.resource "subnet" subnetStem⟩
    have put : Associated (n.putAssociation added).acls subnetId ↔
        added.subnetId = subnetId ∨ Associated n.acls subnetId :=
      wired.associated_putAssociation (founded.get?_default default) (new _ (by simp [Op.ids, added]))
    by_cases hid : Ident.resource "subnet" subnetStem = subnetId
    · subst hid
      exact iff_of_true (put.2 (.inl rfl)) (.inl free)
    · rw [Outcome.state_ok, putAssociation] at hs
      simp only [Store.get?_put, if_neg (Ne.symm hid)] at hs
      exact kept hs (not_strands rfl) (put.trans (or_iff_right hid))
  | subnetLeft e vpcThere parsed inside apart free made noDefault =>
    obtain ⟨a, ha, -⟩ := founded.exists_defaultAcl vpcThere
    exact absurd ha (noDefault a)
  | subnetDeleted =>
    simp only [Outcome.state_ok, Store.get?_drop] at hs
    split_ifs at hs with hid
    exact kept hs (not_strands rfl) (associated_clearAssociations hid)
  | aclCreated there free made =>
    obtain ⟨_, -, rfl⟩ := Acl.make_eq_ok made
    exact kept hs (not_strands rfl) (associated_congr fun _ _ _ => holds_put free rfl)
  | aclDeleted there mayGo =>
    have none := (Acl.mayGo_eq_ok_iff.1 mayGo).2
    exact kept hs (not_strands rfl) (associated_congr fun _ _ _ => holds_drop there none)
  | associationReplaced there holder held =>
    obtain ⟨-, held⟩ := founded.holder holder held
    exact kept hs (not_strands rfl) (wired.associated_moved held there (new _ (by simp [Op.ids])) rfl)
  | defaultAssociated => exact absurd rfl (inner _ _ _)
  | _ =>
    have layout := layout rfl
    obtain ⟨t, ht, -⟩ := layout.subnets.before hs
    exact kept ht (not_strands rfl) (associated_congr fun _ _ _ => layout.acls.holds_iff)

end

/-! ### After a run -/

theorem Wired.associationsOf_eq_singleton_iff {drawn : List String} {n : Network} {subnetId : String}
    (h : Wired drawn n) :
    (∃ x, n.associationsOf subnetId = [x]) ↔ Associated n.acls subnetId := by
  constructor
  · rintro ⟨x, hl⟩
    obtain ⟨⟨k, i, hx⟩, he⟩ := mem_associationsOf.1 (hl ▸ List.mem_singleton_self x)
    exact ⟨k, i, x, hx, he⟩
  · rintro ⟨k, i, x, hx, he⟩
    have mem : x ∈ n.associationsOf subnetId := mem_associationsOf.2 ⟨⟨k, i, hx⟩, he⟩
    have pos := List.length_pos_of_mem mem
    have le := h.length_associationsOf_le subnetId
    exact List.length_eq_one_iff.1 (by omega)

section

variable {scope : Scope} {ops : List Op} {subnetId : String}

/-- A subnet that is stranded was there, so its id was made in the run. -/
theorem Stranded.mem_drawnIds (fresh : (drawnIds ops).Nodup)
    (inner : ∀ s v t, Op.associateDefault s v t ∉ ops) (h : Stranded (blank scope) ops subnetId) :
    subnetId ∈ drawnIds ops := by
  obtain ⟨before, op, after, rfl, h⟩ := h
  rw [drawnIds_append] at fresh ⊢
  have fresh' : (drawnIds before).Nodup := (List.nodup_append.1 fresh).1
  have wired := wired_run scope fresh' fun s v t mem => inner s v t (List.mem_append_left _ mem)
  obtain ⟨k, i, x, hx, rfl⟩ := h.associated
  obtain ⟨s, hs⟩ := wired.subnet k i x hx
  exact List.mem_append_left _ ((founded_run scope before fresh').subnets _ s hs)

/-- After a run a subnet that is there is associated unless it is stranded. -/
theorem associated_iff_not_stranded (fresh : (drawnIds ops).Nodup)
    (inner : ∀ s v t, Op.associateDefault s v t ∉ ops)
    (there : ∃ s, ((blank scope).run ops).subnets.get? subnetId = some s) :
    Associated ((blank scope).run ops).acls subnetId ↔ ¬Stranded (blank scope) ops subnetId := by
  induction ops using List.reverseRecOn with
  | nil => obtain ⟨s, hs⟩ := there; cases hs
  | append_singleton ops op ih =>
    obtain ⟨fresh', new⟩ := fresh_of_nodup fresh
    have inner' : ∀ s v t, Op.associateDefault s v t ∉ ops :=
      fun s v t mem => inner s v t (List.mem_append_left _ mem)
    have founded := founded_run scope ops fresh'
    have wired := wired_run scope fresh' inner'
    rw [run_concat] at there ⊢
    rw [associated_step founded wired (fun s v t e => inner s v t (by simp [e])) new there, stranded_concat,
      not_or]
    cases hs : ((blank scope).run ops).subnets.get? subnetId with
    | some s => simp [ih fresh' inner' ⟨s, hs⟩]
    | none =>
      -- the subnet is new, so nothing earlier concerns it
      have earlier : ¬Stranded (blank scope) ops subnetId := fun h => by
        obtain ⟨s, hs'⟩ := there
        have effect := ((blank scope).run ops).perform_effect op
        exact new _ (effect.mem_ids_of_subnet hs hs') (h.mem_drawnIds fresh' inner')
      have now : ¬Strands ((blank scope).run ops) op subnetId := fun h => by
        obtain ⟨k, i, x, hx, rfl⟩ := h.associated
        obtain ⟨s, hs'⟩ := wired.subnet k i x hx
        rw [hs] at hs'; cases hs'
      simp [earlier, now]

/-- **One access list for each subnet.** After a run whose identifiers do not repeat, every association
stands under its own id in the list that it names, for a subnet that is there. A subnet has at most one
association, and it has exactly one unless the run deletes a VPC one of whose lists applies to it. -/
theorem exactly_one_association_iff (scope : Scope) (ops : List Op) (fresh : (drawnIds ops).Nodup)
    (inner : ∀ s v t, Op.associateDefault s v t ∉ ops) :
    (∀ k a i x, ((blank scope).run ops).acls.get? k = some a → a.associations.get? i = some x →
      x.aclId = k ∧ x.id = i ∧ ∃ s, ((blank scope).run ops).subnets.get? x.subnetId = some s) ∧
    ∀ id s, ((blank scope).run ops).subnets.get? id = some s →
      (((blank scope).run ops).associationsOf id).length ≤ 1 ∧
      ((∃ x, ((blank scope).run ops).associationsOf id = [x]) ↔ ¬Stranded (blank scope) ops id) := by
  have wired := wired_run scope fresh inner
  constructor
  · intro k a i x ha hx
    obtain ⟨hk, hi, -⟩ := wired.home k i x ⟨a, ha, hx⟩
    exact ⟨hk, hi, wired.subnet k i x ⟨a, ha, hx⟩⟩
  · intro id s hs
    refine ⟨wired.length_associationsOf_le id, ?_⟩
    rw [wired.associationsOf_eq_singleton_iff, associated_iff_not_stranded fresh inner ⟨s, hs⟩]

end

/-! ### A subnet without a list -/

/-- The association of a subnet is taken to the list of another VPC, and that VPC is deleted. -/
def crossingRun : List Op :=
  [.createVpc "10.0.0.0/16" [] "1" "1", .createVpc "10.1.0.0/16" [] "2" "2",
   .createSubnet "10.0.1.0/24" ⟨"vpc-1", none, []⟩ "1" "1",
   .replaceAssociation "aclassoc-1" "acl-2" "2", .deleteVpc "vpc-2"]

/-- Before the other VPC is deleted, the subnet has its one association. -/
theorem crossingRun_moves : (drawnIds (crossingRun.take 4)).Nodup ∧
    (∀ s v t, Op.associateDefault s v t ∉ crossingRun.take 4) ∧
    ∃ x, ((blank home).run (crossingRun.take 4)).associationsOf "subnet-1" = [x] := by
  have fresh : (drawnIds (crossingRun.take 4)).Nodup := by decide
  have inner : ∀ s v t, Op.associateDefault s v t ∉ crossingRun.take 4 := by simp [crossingRun]
  have there : (((blank home).run (crossingRun.take 4)).subnets.get? "subnet-1").isSome := by
    decide +kernel
  obtain ⟨s, hs⟩ := Option.isSome_iff_exists.1 there
  refine ⟨fresh, inner, ((exactly_one_association_iff home _ fresh inner).2 _ s hs).2.2 ?_⟩
  rintro ⟨before, op, after, he, v, rfl, -⟩
  have mem : Op.deleteVpc v ∈ crossingRun.take 4 := by rw [he]; simp
  simp [crossingRun] at mem

/-- Afterwards the subnet is still there, and has none. -/
theorem crossingRun_strands : (drawnIds crossingRun).Nodup ∧
    (∀ s v t, Op.associateDefault s v t ∉ crossingRun) ∧
    (((blank home).run crossingRun).subnets.get? "subnet-1").isSome = true ∧
    ((blank home).run crossingRun).associationsOf "subnet-1" = [] :=
  ⟨by decide, by simp [crossingRun], by decide +kernel, by decide +kernel⟩

/-- So it is not true that every subnet has exactly one association. -/
theorem not_always_associated : ¬∀ (scope : Scope) (ops : List Op), (drawnIds ops).Nodup →
    (∀ s v t, Op.associateDefault s v t ∉ ops) →
    ∀ id s, ((blank scope).run ops).subnets.get? id = some s →
      ∃ x, ((blank scope).run ops).associationsOf id = [x] := by
  intro always
  obtain ⟨fresh, inner, there, none⟩ := crossingRun_strands
  obtain ⟨s, hs⟩ := Option.isSome_iff_exists.1 there
  obtain ⟨x, one⟩ := always home crossingRun fresh inner "subnet-1" s hs
  rw [none] at one
  cases one

end MockCloud.Network
