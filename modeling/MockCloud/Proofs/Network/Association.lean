import Mathlib.Data.List.Nodup
import MockCloud.Proofs.Network.Foundation

/-! # Associations

Access lists hold the associations of the subnets that they apply to. An association is made with a subnet,
replaced by one in another list, and goes with its subnet or with its list.

* `holds_put` and the like: what an operation on the lists does to the associations that they hold.
* `Wired`: every association stands in the list that it names, under its own id, for a subnet that is there,
  and a subnet has no more than one.
* `wired_run`: this holds after every run that associates subnets with default lists only when it makes
  them. -/

namespace MockCloud.Network

/-! ### What the lists hold -/

/-- The list under `k` holds the association `x` under `i`. -/
def Holds (acls : Store Acl Scope) (k i : String) (x : AclAssociation) : Prop :=
  ∃ a, acls.get? k = some a ∧ a.associations.get? i = some x

section

variable {acls : Store Acl Scope} {n : Network} {k i : String} {x : AclAssociation}

theorem Agree.holds_iff {acls' : Store Acl Scope} (h : Agree Acl.wiring acls acls') :
    Holds acls' k i x ↔ Holds acls k i x := by
  constructor
  · rintro ⟨a, ha, hx⟩
    obtain ⟨b, hb, e⟩ := h.before ha
    exact ⟨b, hb, by rw [show b.associations = a.associations from congrArg (·.2.2.2) e, hx]⟩
  · rintro ⟨a, ha, hx⟩
    obtain ⟨b, hb, e⟩ := h.symm.before ha
    exact ⟨b, hb, by rw [show b.associations = a.associations from congrArg (·.2.2.2) e, hx]⟩

theorem holds_put {id : String} {acl : Acl} (free : acls.get? id = none)
    (none : acl.associations = .empty) : Holds (acls.put id acl) k i x ↔ Holds acls k i x := by
  unfold Holds
  rw [Store.get?_put]
  split_ifs with hk
  · subst hk; simp [free, none]
  · rfl

theorem holds_drop {id : String} {acl : Acl} (there : acls.get? id = some acl)
    (none : acl.associations.isEmpty = true) : Holds (acls.drop id) k i x ↔ Holds acls k i x := by
  unfold Holds
  rw [Store.get?_drop]
  split_ifs with hk
  · subst hk; simp [there, SortedMap.isEmpty_iff.1 none i]
  · rfl

theorem holds_retain {keep : Acl → Bool} : Holds (acls.retain keep) k i x ↔
    ∃ a, acls.get? k = some a ∧ keep a = true ∧ a.associations.get? i = some x := by
  simp only [Holds, Store.get?_retain, Option.filter_eq_some_iff, and_assoc]

theorem holds_clearAssociations {subnetId : String} :
    Holds (n.clearAssociations subnetId).acls k i x ↔ Holds n.acls k i x ∧ x.subnetId ≠ subnetId := by
  simp only [Holds, clearAssociations, Store.get?_modifyAll, Option.map_eq_some_iff]
  constructor
  · rintro ⟨_, ⟨a, ha, rfl⟩, hx⟩
    rw [SortedMap.get?_filter, Option.filter_eq_some_iff] at hx
    exact ⟨⟨a, ha, hx.1⟩, by simpa using hx.2⟩
  · rintro ⟨⟨a, ha, hx⟩, hne⟩
    refine ⟨_, ⟨a, ha, rfl⟩, ?_⟩
    rw [SortedMap.get?_filter, Option.filter_eq_some_iff]
    exact ⟨hx, by simpa using hne⟩

theorem holds_takeAssociation {aclId associationId : String} :
    Holds (n.takeAssociation aclId associationId).acls k i x ↔
      Holds n.acls k i x ∧ ¬(k = aclId ∧ i = associationId) := by
  simp only [Holds, takeAssociation, Store.get?_modify]
  by_cases hk : k = aclId
  · simp only [hk, if_true, true_and, Option.map_eq_some_iff]
    constructor
    · rintro ⟨_, ⟨a, ha, rfl⟩, hx⟩
      rw [SortedMap.get?_erase] at hx
      split_ifs at hx with hi
      exact ⟨⟨a, ha, hx⟩, hi⟩
    · rintro ⟨⟨a, ha, hx⟩, hi⟩
      exact ⟨_, ⟨a, ha, rfl⟩, by rw [SortedMap.get?_erase, if_neg hi, hx]⟩
  · simp [hk]

theorem holds_putAssociation {y : AclAssociation} {acl : Acl} (there : n.acls.get? y.aclId = some acl) :
    Holds (n.putAssociation y).acls k i x ↔
      (k = y.aclId ∧ i = y.id ∧ x = y) ∨ (Holds n.acls k i x ∧ ¬(k = y.aclId ∧ i = y.id)) := by
  simp only [Holds, putAssociation, Store.get?_modify]
  by_cases hk : k = y.aclId
  · subst hk
    simp only [if_true, there, Option.map_some, Option.some.injEq, exists_eq_left', true_and,
      SortedMap.get?_insert]
    by_cases hi : i = y.id
    · simp [hi, eq_comm]
    · simp [hi]
  · simp [hk]

end

/-! ### The invariant -/

/-- Every association stands in the list that it names, under its own id, which was made before; its subnet
is there; and no two associations have the same subnet. -/
structure Wired (drawn : List String) (n : Network) : Prop where
  home : ∀ k i x, Holds n.acls k i x → x.aclId = k ∧ x.id = i ∧ i ∈ drawn
  subnet : ∀ k i x, Holds n.acls k i x → ∃ s, n.subnets.get? x.subnetId = some s
  single : ∀ k i x k' i' x', Holds n.acls k i x → Holds n.acls k' i' x' → x.subnetId = x'.subnetId →
    x = x'

section

variable {drawn : List String} {n m : Network} {op : Op} {o : Outcome Network NetworkError Unit}

theorem wired_blank (scope : Scope) : Wired [] (blank scope) := by
  refine ⟨?_, ?_, ?_⟩
  · rintro k i x ⟨a, ha, -⟩; cases ha
  · rintro k i x ⟨a, ha, -⟩; cases ha
  · rintro k i x k' i' x' ⟨a, ha, -⟩; cases ha

theorem Wired.more (h : Wired drawn n) (ids : List String) : Wired (drawn ++ ids) n where
  home k i x hx := by
    obtain ⟨hk, hi, hd⟩ := h.home k i x hx
    exact ⟨hk, hi, List.mem_append_left _ hd⟩
  subnet := h.subnet
  single := h.single

/-- Associations may go, and so may subnets without one. -/
theorem Wired.of_holds (h : Wired drawn n)
    (holds : ∀ k i x, Holds m.acls k i x → Holds n.acls k i x)
    (subnets : ∀ k i x s, Holds m.acls k i x → n.subnets.get? x.subnetId = some s →
      ∃ t, m.subnets.get? x.subnetId = some t) : Wired drawn m where
  home k i x hx := h.home k i x (holds k i x hx)
  subnet k i x hx := by
    obtain ⟨s, hs⟩ := h.subnet k i x (holds k i x hx)
    exact subnets k i x s hx hs
  single k i x k' i' x' hx hx' := h.single k i x k' i' x' (holds k i x hx) (holds k' i' x' hx')

theorem Wired.subnetPut (h : Wired drawn n) (id : String) (subnet : Subnet) :
    Wired drawn { n with subnets := n.subnets.put id subnet } := by
  refine h.of_holds (fun _ _ _ hx => hx) fun k i x s hx hs => ?_
  simp only [Store.get?_put]
  split_ifs
  · exact ⟨_, rfl⟩
  · exact ⟨s, hs⟩

theorem Wired.subnetDeleted (h : Wired drawn n) (id : String) :
    Wired drawn { n.clearAssociations id with subnets := n.subnets.drop id } := by
  refine h.of_holds (fun k i x hx => (holds_clearAssociations.1 hx).1) fun k i x s hx hs => ⟨s, ?_⟩
  simp only [Store.get?_drop, if_neg (holds_clearAssociations.1 hx).2, hs]

theorem Wired.takeAssociation (h : Wired drawn n) (aclId associationId : String) :
    Wired drawn (n.takeAssociation aclId associationId) :=
  h.of_holds (fun _ _ _ hx => (holds_takeAssociation.1 hx).1) fun _ _ _ s _ hs => ⟨s, hs⟩

/-- A new association may be put into a list for a subnet that has none. -/
theorem Wired.putAssociation (h : Wired drawn n) {y : AclAssociation} {acl : Acl} {s : Subnet}
    {ids : List String} (there : n.acls.get? y.aclId = some acl)
    (subnet : n.subnets.get? y.subnetId = some s)
    (alone : ∀ k i x, Holds n.acls k i x → x.subnetId ≠ y.subnetId) (made : y.id ∈ ids) :
    Wired (drawn ++ ids) (n.putAssociation y) where
  home k i x hx := by
    rcases (holds_putAssociation there).1 hx with ⟨rfl, rfl, rfl⟩ | ⟨hx, -⟩
    · exact ⟨rfl, rfl, List.mem_append_right _ made⟩
    · obtain ⟨hk, hi, hd⟩ := h.home k i x hx
      exact ⟨hk, hi, List.mem_append_left _ hd⟩
  subnet k i x hx := by
    rcases (holds_putAssociation there).1 hx with ⟨-, -, rfl⟩ | ⟨hx, -⟩
    · exact ⟨s, subnet⟩
    · exact h.subnet k i x hx
  single k i x k' i' x' hx hx' he := by
    rcases (holds_putAssociation there).1 hx with ⟨-, -, e⟩ | ⟨old, -⟩ <;>
      rcases (holds_putAssociation there).1 hx' with ⟨-, -, e'⟩ | ⟨old', -⟩
    · rw [e, e']
    · exact absurd (he.symm.trans (congrArg _ e)) (alone k' i' x' old')
    · exact absurd (he.trans (congrArg _ e')) (alone k i x old)
    · exact h.single k i x k' i' x' old old' he

/-- The list that is found for an association holds it under that list's own id. -/
theorem Founded.holder (h : Founded drawn n) {associationId : String} {source : Acl}
    {previous : AclAssociation}
    (holder : n.acls.values.find? (fun a => a.associations.contains associationId) = some source)
    (held : source.associations.get? associationId = some previous) :
    n.acls.get? source.id = some source ∧ Holds n.acls source.id associationId previous := by
  obtain ⟨k, hk⟩ := Store.mem_values_iff.1 (List.mem_of_find?_eq_some holder)
  rw [(h.acls k source hk).2]
  exact ⟨hk, source, hk, held⟩

/-- Once the association of a subnet is taken out, no list holds one for the subnet. -/
theorem Wired.alone_of_taken (h : Wired drawn n) {aclId associationId : String} {previous : AclAssociation}
    (held : Holds n.acls aclId associationId previous) {k i : String} {x : AclAssociation}
    (hx : Holds (n.takeAssociation aclId associationId).acls k i x) : x.subnetId ≠ previous.subnetId := by
  intro he
  obtain ⟨old, hne⟩ := holds_takeAssociation.1 hx
  have := h.single _ _ _ _ _ _ old held he
  subst this
  obtain ⟨hk, hi, -⟩ := h.home _ _ _ old
  obtain ⟨hk', hi', -⟩ := h.home _ _ _ held
  exact hne ⟨hk.symm.trans hk', hi.symm.trans hi'⟩

theorem takeAssociation_get? (n : Network) (aclId associationId : String) {k : String} {a : Acl}
    (ha : n.acls.get? k = some a) : ∃ b, (n.takeAssociation aclId associationId).acls.get? k = some b := by
  simp only [takeAssociation, Store.get?_modify, ha]
  split_ifs
  · exact ⟨_, rfl⟩
  · exact ⟨a, rfl⟩

/-- **Every operation keeps the invariant**, unless it associates by itself a subnet with a default list. -/
theorem wired_effect (founded : Founded drawn n) (h : Wired drawn n) (effect : Effect n op o)
    (inner : ∀ s v t, op ≠ .associateDefault s v t) : Wired (drawn ++ op.ids) o.state := by
  have same := effect.sameLayout
  cases effect with
  | refused e => exact h.more _
  | vpcCreated free made aclFree aclMade =>
    obtain ⟨_, -, rfl⟩ := Acl.make_eq_ok aclMade
    refine .more ?_ _
    exact h.of_holds (fun _ _ _ hx => (holds_put aclFree rfl).1 hx) fun _ _ _ s _ hs => ⟨s, hs⟩
  | vpcLeft =>
    refine .more ?_ _
    exact h.of_holds (fun _ _ _ hx => hx) fun _ _ _ s _ hs => ⟨s, hs⟩
  | vpcDeleted there unused =>
    refine .more ?_ _
    refine h.of_holds (fun k i x hx => ?_) fun _ _ _ s _ hs => ⟨s, hs⟩
    obtain ⟨a, ha, -, hx⟩ := holds_retain.1 hx
    exact ⟨a, ha, hx⟩
  | subnetCreated there parsed inside apart free made default =>
    refine (h.subnetPut _ _).putAssociation (founded.get?_default default) (by rw [Store.get?_put, if_pos rfl])
      (fun k i x hx he => ?_) (by simp [Op.ids])
    -- no association names the new subnet, whose id was free
    obtain ⟨s, hs⟩ := h.subnet k i x hx
    rw [he, free] at hs; cases hs
  | subnetLeft => exact (h.subnetPut _ _).more _
  | subnetDeleted there unused => exact (h.subnetDeleted _).more _
  | aclCreated there free made =>
    obtain ⟨_, -, rfl⟩ := Acl.make_eq_ok made
    refine .more ?_ _
    exact h.of_holds (fun _ _ _ hx => (holds_put free rfl).1 hx) fun _ _ _ s _ hs => ⟨s, hs⟩
  | aclDeleted there mayGo =>
    have none := (Acl.mayGo_eq_ok_iff.1 mayGo).2
    refine .more ?_ _
    exact h.of_holds (fun _ _ _ hx => (holds_drop there none).1 hx) fun _ _ _ s _ hs => ⟨s, hs⟩
  | associationReplaced there holder held =>
    obtain ⟨-, held⟩ := founded.holder holder held
    obtain ⟨b, hb⟩ := takeAssociation_get? n _ _ there
    obtain ⟨s, hs⟩ := h.subnet _ _ _ held
    exact (h.takeAssociation _ _).putAssociation hb hs (fun k i x hx => h.alone_of_taken held hx)
      (by simp [Op.ids])
  | defaultAssociated => exact absurd rfl (inner _ _ _)
  | _ =>
    have same := same rfl
    refine .more ?_ _
    refine h.of_holds (fun _ _ _ hx => same.acls.holds_iff.1 hx) fun k i x s _ hs => ?_
    obtain ⟨t, ht, -⟩ := same.subnets.symm.before hs
    exact ⟨t, ht⟩

end

theorem wired_run (scope : Scope) {ops : List Op} (fresh : (drawnIds ops).Nodup)
    (inner : ∀ s v t, Op.associateDefault s v t ∉ ops) : Wired (drawnIds ops) ((blank scope).run ops) := by
  have both : Founded (drawnIds ops) ((blank scope).run ops) ∧ Wired (drawnIds ops) ((blank scope).run ops) :=
    run_invariant (P := fun drawn n => Founded drawn n ∧ Wired drawn n)
      ⟨founded_blank scope, wired_blank scope⟩
      (fun _ n op mem h new => ⟨founded_effect h.1 (n.perform_effect op) new,
        wired_effect h.1 h.2 (n.perform_effect op) fun s v t e => inner s v t (e ▸ mem)⟩) fresh
  exact both.2

/-! ### The associations of a subnet -/

/-- All associations of a subnet, over all lists. -/
def associationsOf (n : Network) (subnetId : String) : List AclAssociation :=
  (n.acls.values.flatMap fun a => a.associations.values).filter (·.subnetId == subnetId)

section

variable {drawn : List String} {n : Network} {subnetId : String}

theorem mem_associationsOf {x : AclAssociation} :
    x ∈ n.associationsOf subnetId ↔ (∃ k i, Holds n.acls k i x) ∧ x.subnetId = subnetId := by
  simp only [associationsOf, List.mem_filter, List.mem_flatMap, Store.mem_values_iff,
    SortedMap.mem_values_iff, beq_iff_eq, Holds]
  constructor
  · rintro ⟨⟨a, ⟨k, ha⟩, i, hx⟩, he⟩
    exact ⟨⟨k, i, a, ha, hx⟩, he⟩
  · rintro ⟨⟨k, i, a, ha, hx⟩, he⟩
    exact ⟨⟨a, ⟨k, ha⟩, i, hx⟩, he⟩

/-- No association is listed twice: its list is the one that it names, and it stands there once. -/
theorem Wired.nodup_associationsOf (h : Wired drawn n) (subnetId : String) :
    (n.associationsOf subnetId).Nodup := by
  refine List.Nodup.filter _ (List.nodup_flatMap.2 ⟨fun a ha => ?_, ?_⟩)
  · obtain ⟨k, ha⟩ := Store.mem_values_iff.1 ha
    refine SortedMap.pairwise_values fun i x i' x' hx hx' hlt => ?_
    rintro rfl
    have hi := (h.home k i x ⟨a, ha, hx⟩).2.1
    have hi' := (h.home k i' x ⟨a, ha, hx'⟩).2.1
    exact String.ne_of_lt hlt (hi.symm.trans hi')
  · refine SortedMap.pairwise_values fun k a k' a' ha ha' hlt x hx hx' => ?_
    obtain ⟨i, hx⟩ := SortedMap.mem_values_iff.1 hx
    obtain ⟨i', hx'⟩ := SortedMap.mem_values_iff.1 hx'
    have hk := (h.home k i x ⟨a, ha, hx⟩).1
    have hk' := (h.home k' i' x ⟨a', ha', hx'⟩).1
    exact String.ne_of_lt hlt (hk.symm.trans hk')

theorem Wired.length_associationsOf_le (h : Wired drawn n) (subnetId : String) :
    (n.associationsOf subnetId).length ≤ 1 := by
  have nodup := h.nodup_associationsOf subnetId
  have same : ∀ x ∈ n.associationsOf subnetId, ∀ y ∈ n.associationsOf subnetId, x = y := by
    intro x hx y hy
    obtain ⟨⟨k, i, hx⟩, he⟩ := mem_associationsOf.1 hx
    obtain ⟨⟨k', i', hy⟩, he'⟩ := mem_associationsOf.1 hy
    exact h.single _ _ _ _ _ _ hx hy (he.trans he'.symm)
  match hl : n.associationsOf subnetId with
  | [] | [_] => simp
  | x :: y :: _ =>
    rw [hl] at nodup same
    have := same x (by simp) y (by simp)
    simp [this] at nodup

end

end MockCloud.Network
