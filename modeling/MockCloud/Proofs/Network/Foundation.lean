import Mathlib.Data.List.Induction
import MockCloud.Proofs.Network.Frame

/-! # Ids and default lists

As long as no identifier is made twice, every resource of a network stands under an identifier that was
made before, and every VPC has a default access list: it is made with the VPC under an id that is free,
cannot be deleted by itself, and goes with the VPC.

* `run_invariant`: what every operation keeps holds after a run whose identifiers do not repeat.
* `founded_run`: the above, as an invariant of runs.
* `exists_defaultAcl`: so a default list is found for each VPC. -/

namespace MockCloud.Network

/-! ### Induction over runs -/

/-- Holds after a run what every operation keeps. -/
theorem run_keeps {P : Network → Prop} {n : Network} (start : P n)
    (keeps : ∀ n op, P n → P (n.step op)) (ops : List Op) : P (n.run ops) := by
  induction ops generalizing n with
  | nil => exact start
  | cons op ops ih => exact ih (keeps n op start)

/-- What stands in a list with one more item is that item, or stood there before. -/
theorem concat_eq_append_cons_iff {α : Type} {l before after : List α} {a x : α} :
    l ++ [a] = before ++ x :: after ↔
      (before = l ∧ x = a ∧ after = []) ∨ ∃ rest, after = rest ++ [a] ∧ l = before ++ x :: rest := by
  constructor
  · intro split
    rcases List.eq_nil_or_concat after with rfl | ⟨rest, last, rfl⟩
    · obtain ⟨rfl, same⟩ := List.append_inj' split rfl
      cases same
      exact .inl ⟨rfl, rfl, rfl⟩
    · rw [List.concat_eq_append] at split ⊢
      rw [← List.cons_append, ← List.append_assoc] at split
      obtain ⟨rfl, same⟩ := List.append_inj' split rfl
      cases same
      exact .inr ⟨rest, rfl, rfl⟩
  · rintro (⟨rfl, rfl, rfl⟩ | ⟨rest, rfl, rfl⟩)
    · rfl
    · rw [List.append_assoc, List.cons_append]

theorem fresh_of_nodup {ops : List Op} {op : Op} (h : (drawnIds (ops ++ [op])).Nodup) :
    (drawnIds ops).Nodup ∧ ∀ id ∈ op.ids, id ∉ drawnIds ops := by
  rw [drawnIds_append, List.nodup_append] at h
  refine ⟨h.1, fun id hid hmem => h.2.2 id hmem id ?_ rfl⟩
  simpa [drawnIds] using hid

/-- Holds after a run without repeated identifiers what its operations keep when their identifiers are
new. -/
theorem run_invariant {P : List String → Network → Prop} {n : Network} {ops : List Op} (start : P [] n)
    (keeps : ∀ drawn n, ∀ op ∈ ops, P drawn n → (∀ id ∈ op.ids, id ∉ drawn) →
      P (drawn ++ op.ids) (n.step op))
    (fresh : (drawnIds ops).Nodup) : P (drawnIds ops) (n.run ops) := by
  induction ops using List.reverseRecOn with
  | nil => exact start
  | append_singleton ops op ih =>
    obtain ⟨fresh', new⟩ := fresh_of_nodup fresh
    rw [run_concat, drawnIds_append, show drawnIds [op] = op.ids from List.flatMap_singleton ..]
    have before := ih (fun drawn n o ho => keeps drawn n o (List.mem_append_left _ ho)) fresh'
    exact keeps _ _ op (by simp) before new

/-- A subnet that was not there before an operation carries an id that the operation makes. -/
theorem Effect.mem_ids_of_subnet {n : Network} {op : Op} {o : Outcome Network NetworkError Unit}
    {subnetId : String} {s : Subnet} (effect : Effect n op o) (free : n.subnets.get? subnetId = none)
    (there : o.state.subnets.get? subnetId = some s) : subnetId ∈ op.ids := by
  have same := effect.sameLayout
  have absent {t : Subnet} : n.subnets.get? subnetId ≠ some t := by
    rw [free]
    exact (Option.some_ne_none t).symm
  -- a subnet store with one subnet put into it
  have put {id : String} {t : Subnet} (h : (n.subnets.put id t).get? subnetId = some s) : subnetId = id := by
    rw [Store.get?_put] at h
    split_ifs at h with hid
    · exact hid
    · exact absurd h absent
  cases effect with
  | subnetCreated => simp [Op.ids, put there]
  | subnetLeft => simp [Op.ids, put there]
  | subnetDeleted =>
    simp only [Outcome.state_ok, Store.get?_drop] at there
    split_ifs at there
    exact absurd there absent
  | refused | vpcCreated | vpcLeft | vpcDeleted | aclCreated | aclDeleted | associationReplaced
  | defaultAssociated => exact absurd there absent
  | _ =>
    obtain ⟨t, ht, -⟩ := (same rfl).subnets.before there
    exact absurd ht absent

/-! ### Default lists -/

/-- The access list is the default one of the VPC. -/
def Acl.IsDefaultOf (a : Acl) (vpcId : String) : Prop :=
  a.isDefault = true ∧ a.vpcId = vpcId

theorem defaultAcl_eq_ok {n : Network} {vpcId : String} {a : Acl} (h : n.defaultAcl vpcId = .ok a) :
    ∃ k, n.acls.get? k = some a ∧ a.IsDefaultOf vpcId := by
  unfold defaultAcl at h
  split at h
  · next b hb =>
    cases h
    obtain ⟨k, hk⟩ := Store.mem_values_iff.1 (List.mem_of_find?_eq_some hb)
    exact ⟨k, hk, by simpa [Acl.IsDefaultOf] using List.find?_some hb⟩
  · cases h

theorem exists_defaultAcl_of_get? {n : Network} {vpcId k : String} {a : Acl}
    (ha : n.acls.get? k = some a) (hd : a.IsDefaultOf vpcId) : ∃ b, n.defaultAcl vpcId = .ok b := by
  unfold defaultAcl
  cases hf : n.acls.values.find? fun a => a.isDefault && a.vpcId == vpcId with
  | some b => exact ⟨b, rfl⟩
  | none =>
    have := List.find?_eq_none.1 hf a (Store.mem_values_iff.2 ⟨k, ha⟩)
    exact absurd hd (by simpa [Acl.IsDefaultOf] using this)

/-! ### The invariant -/

/-- Every resource stands under an identifier made before, an access list under its own id, and every
VPC has a default list. -/
structure Founded (drawn : List String) (n : Network) : Prop where
  vpcs : ∀ k v, n.vpcs.get? k = some v → k ∈ drawn
  subnets : ∀ k s, n.subnets.get? k = some s → k ∈ drawn
  acls : ∀ k a, n.acls.get? k = some a → k ∈ drawn ∧ a.id = k
  default : ∀ k v, n.vpcs.get? k = some v → ∃ i a, n.acls.get? i = some a ∧ a.IsDefaultOf k

/-- What the invariant looks at in an access list. -/
def Acl.head (a : Acl) : String × String × Bool :=
  (a.id, a.vpcId, a.isDefault)

theorem Acl.IsDefaultOf.of_head {a b : Acl} {vpcId : String} (h : a.IsDefaultOf vpcId)
    (e : b.head = a.head) : b.IsDefaultOf vpcId :=
  ⟨(congrArg (·.2.2) e).trans h.1, (congrArg (·.2.1) e).trans h.2⟩

section

variable {drawn : List String} {n m : Network} {op : Op} {o : Outcome Network NetworkError Unit}

theorem founded_blank (scope : Scope) : Founded [] (blank scope) := by
  refine ⟨?_, ?_, ?_, ?_⟩ <;> intro k a h <;> cases h

theorem Founded.more (h : Founded drawn n) (ids : List String) : Founded (drawn ++ ids) n where
  vpcs k v hv := List.mem_append_left _ (h.vpcs k v hv)
  subnets k s hs := List.mem_append_left _ (h.subnets k s hs)
  acls k a ha := ⟨List.mem_append_left _ (h.acls k a ha).1, (h.acls k a ha).2⟩
  default := h.default

/-- The invariant does not see more of the network than ids and the heads of the lists. -/
theorem Founded.of_agree {vview : Vpc → Vpc} {sview : Subnet → Subnet} (h : Founded drawn n)
    (vpcs : Agree vview n.vpcs m.vpcs) (subnets : Agree sview n.subnets m.subnets)
    (acls : Agree Acl.head n.acls m.acls) : Founded drawn m where
  vpcs k v hv := by
    obtain ⟨w, hw, -⟩ := vpcs.before hv
    exact h.vpcs k w hw
  subnets k s hs := by
    obtain ⟨t, ht, -⟩ := subnets.before hs
    exact h.subnets k t ht
  acls k a ha := by
    obtain ⟨b, hb, e⟩ := acls.before ha
    exact ⟨(h.acls k b hb).1, (congrArg (·.1) e).symm.trans (h.acls k b hb).2⟩
  default k v hv := by
    obtain ⟨w, hw, -⟩ := vpcs.before hv
    obtain ⟨i, a, ha, hd⟩ := h.default k w hw
    obtain ⟨b, hb, e⟩ := acls.symm.before ha
    exact ⟨i, b, hb, hd.of_head e⟩

theorem Founded.vpcCreated (h : Founded drawn n) {id aclId : String} {vpc : Vpc} {acl : Acl}
    (aclFree : n.acls.get? aclId = none) (aclIs : acl.id = aclId) (hd : acl.IsDefaultOf id) :
    Founded (drawn ++ [id, aclId])
      { n with vpcs := n.vpcs.put id vpc, acls := n.acls.put aclId acl } where
  vpcs k v hv := by
    simp only [Store.get?_put] at hv
    split_ifs at hv with hk
    · simp [hk]
    · exact List.mem_append_left _ (h.vpcs k v hv)
  subnets := (h.more _).subnets
  acls k a ha := by
    simp only [Store.get?_put] at ha
    split_ifs at ha with hk
    · cases ha; simp [hk, aclIs]
    · exact (h.more _).acls k a ha
  default k v hv := by
    simp only [Store.get?_put] at hv ⊢
    split_ifs at hv with hk
    · exact ⟨aclId, acl, by simp, hk ▸ hd⟩
    · obtain ⟨i, a, ha, hd'⟩ := h.default k v hv
      have : i ≠ aclId := fun e => by rw [e, aclFree] at ha; cases ha
      exact ⟨i, a, by rw [if_neg this, ha], hd'⟩

theorem Founded.aclPut (h : Founded drawn n) {aclId : String} {acl : Acl}
    (free : n.acls.get? aclId = none) (aclIs : acl.id = aclId) :
    Founded (drawn ++ [aclId]) { n with acls := n.acls.put aclId acl } where
  vpcs := (h.more _).vpcs
  subnets := (h.more _).subnets
  acls k a ha := by
    simp only [Store.get?_put] at ha
    split_ifs at ha with hk
    · cases ha; simp [hk, aclIs]
    · exact (h.more _).acls k a ha
  default k v hv := by
    obtain ⟨i, a, ha, hd⟩ := h.default k v hv
    have : i ≠ aclId := fun e => by rw [e, free] at ha; cases ha
    exact ⟨i, a, by rw [Store.get?_put, if_neg this, ha], hd⟩

theorem Founded.aclDeleted (h : Founded drawn n) {aclId : String} {acl : Acl}
    (there : n.acls.get? aclId = some acl) (mayGo : acl.mayGo = .ok ()) :
    Founded drawn { n with acls := n.acls.drop aclId } where
  vpcs := h.vpcs
  subnets := h.subnets
  acls k a ha := by
    simp only [Store.get?_drop] at ha
    split_ifs at ha
    exact h.acls k a ha
  default k v hv := by
    obtain ⟨i, a, ha, hd⟩ := h.default k v hv
    have : i ≠ aclId := fun e => by
      rw [e, there] at ha; cases ha
      rw [Acl.mayGo_eq_ok_iff, hd.1] at mayGo; cases mayGo.1
    exact ⟨i, a, by rw [Store.get?_drop, if_neg this, ha], hd⟩

theorem Founded.vpcDeleted (h : Founded drawn n) (vpcId : String) :
    Founded drawn { n with acls := n.acls.retain (·.vpcId != vpcId), vpcs := n.vpcs.drop vpcId } where
  vpcs k v hv := by
    simp only [Store.get?_drop] at hv
    split_ifs at hv
    exact h.vpcs k v hv
  subnets := h.subnets
  acls k a ha := by
    simp only [Store.get?_retain, Option.filter_eq_some_iff] at ha
    exact h.acls k a ha.1
  default k v hv := by
    simp only [Store.get?_drop] at hv
    split_ifs at hv with hk
    obtain ⟨i, a, ha, hd⟩ := h.default k v hv
    refine ⟨i, a, ?_, hd⟩
    rw [Store.get?_retain, Option.filter_eq_some_iff]
    exact ⟨ha, by simpa [hd.2] using hk⟩

theorem Founded.subnetPut (h : Founded drawn n) {id : String} {subnet : Subnet} (new : List String)
    (hid : id ∈ new) : Founded (drawn ++ new) { n with subnets := n.subnets.put id subnet } where
  vpcs := (h.more _).vpcs
  subnets k s hs := by
    simp only [Store.get?_put] at hs
    split_ifs at hs with hk
    · exact List.mem_append_right _ (hk ▸ hid)
    · exact List.mem_append_left _ (h.subnets k s hs)
  acls := (h.more _).acls
  default := h.default

theorem Founded.subnetDropped (h : Founded drawn n) (id : String) :
    Founded drawn { n with subnets := n.subnets.drop id } where
  vpcs := h.vpcs
  subnets k s hs := by
    simp only [Store.get?_drop] at hs
    split_ifs at hs
    exact h.subnets k s hs
  acls := h.acls
  default := h.default

/-- The lists may change in whatever does not show in their heads. -/
theorem Founded.setAcls (h : Founded drawn n) {acls : Store Acl Scope}
    (agree : Agree Acl.head n.acls acls) : Founded drawn { n with acls } :=
  h.of_agree (.refl id _) (.refl id _) agree

theorem Founded.putAssociation (h : Founded drawn n) (x : AclAssociation) :
    Founded drawn (n.putAssociation x) :=
  h.setAcls (agree_modify _ _ fun _ => rfl)

theorem Founded.takeAssociation (h : Founded drawn n) (aclId associationId : String) :
    Founded drawn (n.takeAssociation aclId associationId) :=
  h.setAcls (agree_modify _ _ fun _ => rfl)

theorem Founded.clearAssociations (h : Founded drawn n) (subnetId : String) :
    Founded drawn (n.clearAssociations subnetId) :=
  h.setAcls (agree_modifyAll _ fun _ => rfl)

/-- **An operation whose identifiers are new keeps the invariant.** -/
theorem founded_effect (h : Founded drawn n) (effect : Effect n op o)
    (new : ∀ id ∈ op.ids, id ∉ drawn) : Founded (drawn ++ op.ids) o.state := by
  have same := effect.sameLayout
  cases effect with
  | refused e => exact h.more _
  | vpcCreated free made aclFree aclMade =>
    obtain ⟨_, -, rfl⟩ := Acl.make_eq_ok aclMade
    exact h.vpcCreated aclFree rfl ⟨rfl, rfl⟩
  | vpcLeft e free made aclTaken =>
    -- the id of the list is new, so it is not taken
    obtain ⟨a, ha⟩ := Option.ne_none_iff_exists'.1 aclTaken
    exact absurd (h.acls _ a ha).1 (new _ (by simp [Op.ids]))
  | vpcDeleted there unused => exact (h.vpcDeleted _).more _
  | subnetCreated there parsed inside apart free made default =>
    exact (h.subnetPut _ (by simp [Op.ids])).putAssociation _
  | subnetLeft => exact h.subnetPut _ (by simp [Op.ids])
  | subnetDeleted there unused =>
    exact ((h.clearAssociations _).subnetDropped _).more _
  | aclCreated there free made =>
    obtain ⟨_, -, rfl⟩ := Acl.make_eq_ok made
    exact h.aclPut free rfl
  | aclDeleted there mayGo => exact (h.aclDeleted there mayGo).more _
  | associationReplaced there holder held =>
    exact ((h.takeAssociation _ _).putAssociation _).more _
  | defaultAssociated default => exact (h.putAssociation _).more _
  | _ =>
    have same := same rfl
    exact (h.of_agree same.vpcs same.subnets (same.acls.comp fun w => (w.1, w.2.1, w.2.2.1))).more _

end

theorem founded_run (scope : Scope) (ops : List Op) (fresh : (drawnIds ops).Nodup) :
    Founded (drawnIds ops) ((blank scope).run ops) :=
  run_invariant (founded_blank scope)
    (fun _ n op _ h new => founded_effect h (n.perform_effect op) new) fresh

/-- A default list that is found stands under its own id. -/
theorem Founded.get?_default {drawn : List String} {n : Network} (h : Founded drawn n) {vpcId : String} {a : Acl}
    (default : n.defaultAcl vpcId = .ok a) : n.acls.get? a.id = some a := by
  obtain ⟨k, ha, -⟩ := defaultAcl_eq_ok default
  rw [(h.acls k a ha).2, ha]

/-- In a founded network the default list of each VPC is found, under its own id. -/
theorem Founded.exists_defaultAcl {drawn : List String} {n : Network} (h : Founded drawn n)
    {vpcId : String} {vpc : Vpc} (there : n.vpcs.get? vpcId = some vpc) :
    ∃ a, n.defaultAcl vpcId = .ok a ∧ n.acls.get? a.id = some a := by
  obtain ⟨k, a, ha, hd⟩ := h.default vpcId vpc there
  obtain ⟨b, hb⟩ := exists_defaultAcl_of_get? ha hd
  exact ⟨b, hb, h.get?_default hb⟩

end MockCloud.Network
