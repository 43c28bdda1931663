import MockCloud.Proofs.Network.Filing
import MockCloud.Proofs.Network.Stranded

/-! # A subnet and the default list of a VPC

A subnet may be associated with the default list of a VPC by its id alone. Nothing is asked about the subnet: it need
not be in the VPC, it need not be there, and a list that applies to it already is not left.

* `Placed`: what such a call should leave behind.
* `Filed.associateDefault`: what it leaves behind in any case. The new association stands beside the old ones.
* `places_iff`: the call does what it should for a subnet of the VPC that no list applies to, and for no other. -/

namespace MockCloud.Network

/-- The list is a default one of the VPC, and stands under the id. -/
def DefaultAt (n : Network) (id vpcId : String) : Prop :=
  ∃ a, n.acls.get? id = some a ∧ a.IsDefaultOf vpcId

/-- In `m` the subnet, which is one of the VPC, has one association, `x` in a default list of the VPC, and for all other
subnets the lists hold what they hold in `n`. -/
structure Placed (n m : Network) (subnetId vpcId : String) (x : AclAssociation) : Prop where
  subnet : ∃ s, n.subnets.get? subnetId = some s ∧ s.vpcId = vpcId
  list : m.DefaultAt x.aclId vpcId
  only : ∀ k i y, Holds m.acls k i y ∧ y.subnetId = subnetId ↔ k = x.aclId ∧ i = x.id ∧ y = x
  others : ∀ k i y, y.subnetId ≠ subnetId → (Holds m.acls k i y ↔ Holds n.acls k i y)

/-- The call fails and changes nothing, or it places the subnet. -/
def Places (n : Network) (subnetId vpcId : String) (o : Outcome Network NetworkError AclAssociation) : Prop :=
  (∃ e, o = .fail e n) ∨ ∃ x m, o = .ok x m ∧ Placed n m subnetId vpcId x

/-- The association `x` has been put beside those that there were. -/
structure Beside (n m : Network) (subnetId vpcId : String) (x : AclAssociation) : Prop where
  subnet : x.subnetId = subnetId
  list : m.DefaultAt x.aclId vpcId
  holds : ∀ k i y, Holds m.acls k i y ↔ Holds n.acls k i y ∨ k = x.aclId ∧ i = x.id ∧ y = x
  free : ∀ k y, ¬Holds n.acls k x.id y

section

variable {n m : Network} {subnetId vpcId stem : String} {x : AclAssociation}

theorem exists_defaultAcl_iff : (∃ a, n.defaultAcl vpcId = .ok a) ↔ ∃ id, n.DefaultAt id vpcId := by
  constructor
  · rintro ⟨a, found⟩
    obtain ⟨k, there, default⟩ := defaultAcl_eq_ok found
    exact ⟨k, a, there, default⟩
  · rintro ⟨k, a, there, default⟩
    exact exists_defaultAcl_of_get? there default

/-- A default list is one afterwards, whatever association is put into a list. -/
theorem DefaultAt.putAssociation {id : String} (h : n.DefaultAt id vpcId) (y : AclAssociation) :
    (n.putAssociation y).DefaultAt id vpcId := by
  obtain ⟨a, there, default⟩ := h
  have agree : Agree Acl.head n.acls (n.putAssociation y).acls := agree_modify _ _ fun _ => rfl
  obtain ⟨b, there', same⟩ := agree.symm.before there
  exact ⟨b, there', default.of_head same⟩

/-- Without a default list the call fails, and else the new association is put into that list beside the old ones. -/
theorem Filed.associateDefault {scope : Scope} (h : Filed scope n) (subnetId vpcId : String)
    (new : ∀ k y, ¬Holds n.acls k (Ident.resource "aclassoc" stem) y) :
    (¬(∃ id, n.DefaultAt id vpcId) ∧ ∃ e, n.associateDefault subnetId vpcId stem = .fail e n) ∨
      (∃ id, n.DefaultAt id vpcId) ∧
        ∃ x m, n.associateDefault subnetId vpcId stem = .ok x m ∧ Beside n m subnetId vpcId x := by
  rw [← exists_defaultAcl_iff, Network.associateDefault]
  cases found : n.defaultAcl vpcId with
  | error e => exact .inl ⟨by rintro ⟨a, ⟨⟩⟩, e, rfl⟩
  | ok acl =>
    obtain ⟨k, there, default⟩ := defaultAcl_eq_ok found
    obtain rfl : acl.id = k := (h.acls k acl there).1
    refine .inr ⟨⟨acl, rfl⟩, ⟨Ident.resource "aclassoc" stem, acl.id, subnetId⟩, _, rfl, rfl, ?_, ?_, new⟩
    · exact DefaultAt.putAssociation ⟨acl, there, default⟩ _
    · intro k i y
      rw [holds_putAssociation there, or_comm]
      refine or_congr_left (and_iff_left_of_imp fun held => ?_)
      -- the new association takes the place of none
      rintro ⟨-, rfl⟩
      exact new k y held

/-- An association beside the others is as it should be if there is no other for its subnet. -/
theorem Beside.placed_iff (h : Beside n m subnetId vpcId x) : Placed n m subnetId vpcId x ↔
    (∃ s, n.subnets.get? subnetId = some s ∧ s.vpcId = vpcId) ∧ ¬Associated n.acls subnetId := by
  constructor
  · rintro ⟨subnet, -, only, -⟩
    refine ⟨subnet, ?_⟩
    rintro ⟨k, i, y, held, same⟩
    -- it would be the new one, whose id was not in use
    obtain ⟨-, rfl, -⟩ := (only k i y).1 ⟨(h.holds k i y).2 (.inl held), same⟩
    exact h.free k y held
  · rintro ⟨subnet, alone⟩
    refine ⟨subnet, h.list, fun k i y => ?_, fun k i y other => ?_⟩
    · rw [h.holds, or_and_right]
      constructor
      · rintro (⟨held, same⟩ | ⟨is, -⟩)
        · exact absurd ⟨k, i, y, held, same⟩ alone
        · exact is
      · rintro ⟨rfl, rfl, rfl⟩
        exact .inr ⟨⟨rfl, rfl, rfl⟩, h.subnet⟩
    · rw [h.holds, or_iff_left]
      rintro ⟨-, -, rfl⟩
      exact other h.subnet

end

/-- **A subnet gets the default list of a VPC** as its only one exactly if it is a subnet of the VPC that no list
applies to. After any run, and with an id for the association that is not in use, the call fails without change if the
VPC has no default list. Otherwise it puts an association with that list beside all others, whatever there is of the
subnet. -/
theorem places_iff (scope : Scope) (ops : List Op) (subnetId vpcId stem : String)
    (new : ∀ k y, ¬Holds ((blank scope).run ops).acls k (Ident.resource "aclassoc" stem) y) :
    let n := (blank scope).run ops
    let o := n.associateDefault subnetId vpcId stem
    ((∃ e, o = .fail e n) ∨ ∃ x m, o = .ok x m ∧ Beside n m subnetId vpcId x) ∧
      (Places n subnetId vpcId o ↔
        ¬(∃ id, n.DefaultAt id vpcId) ∨
          (∃ s, n.subnets.get? subnetId = some s ∧ s.vpcId = vpcId) ∧ ¬Associated n.acls subnetId) := by
  intro n o
  have filed : n.Filed scope := (filed_blank scope).run ops
  rcases filed.associateDefault subnetId vpcId new with ⟨none, e, fails⟩ | ⟨some, x, m, ok, beside⟩
  · exact ⟨.inl ⟨e, fails⟩, iff_of_true (.inl ⟨e, fails⟩) (.inl none)⟩
  · refine ⟨.inr ⟨x, m, ok, beside⟩, ?_⟩
    rw [or_iff_right (not_not_intro some), ← beside.placed_iff]
    constructor
    · rintro (⟨e, fails⟩ | ⟨x', m', ok', placed⟩)
      · cases fails.symm.trans ok
      · cases ok'.symm.trans ok
        exact placed
    · exact fun placed => .inr ⟨x, m, ok, placed⟩

/-! ### A subnet without a list, and one with a list -/

/-- An id that a run does not make is not in use after it. -/
theorem not_holds_of_not_mem {scope : Scope} {ops : List Op} {stem : String} (fresh : (drawnIds ops).Nodup)
    (inner : ∀ s v t, Op.associateDefault s v t ∉ ops) (new : Ident.resource "aclassoc" stem ∉ drawnIds ops) :
    ∀ k y, ¬Holds ((blank scope).run ops).acls k (Ident.resource "aclassoc" stem) y :=
  fun _ _ held => new ((wired_run scope fresh inner).home _ _ _ held).2.2

/-- The subnet that has lost its list with the other VPC gets that of its own. -/
theorem crossingRun_placed :
    (∀ k y, ¬Holds ((blank home).run crossingRun).acls k (Ident.resource "aclassoc" "3") y) ∧
      ∃ x m, ((blank home).run crossingRun).associateDefault "subnet-1" "vpc-1" "3" = .ok x m ∧
        Placed ((blank home).run crossingRun) m "subnet-1" "vpc-1" x := by
  have fresh : (drawnIds crossingRun).Nodup := by decide
  have inner : ∀ s v t, Op.associateDefault s v t ∉ crossingRun := by simp [crossingRun]
  have wired := wired_run home fresh inner
  have new : ∀ k y, ¬Holds ((blank home).run crossingRun).acls k (Ident.resource "aclassoc" "3") y :=
    not_holds_of_not_mem fresh inner (by decide)
  have there : (((blank home).run crossingRun).subnets.get? "subnet-1").map (·.vpcId) = some "vpc-1" := by
    decide +kernel
  have none : ((blank home).run crossingRun).associationsOf "subnet-1" = [] := by decide +kernel
  have ok : (((blank home).run crossingRun).associateDefault "subnet-1" "vpc-1" "3").result.toBool = true := by
    decide +kernel
  have alone : ¬Associated ((blank home).run crossingRun).acls "subnet-1" := by
    rw [← wired.associationsOf_eq_singleton_iff, none]
    rintro ⟨x, ⟨⟩⟩
  have places := (places_iff home crossingRun "subnet-1" "vpc-1" "3" new).2.2
    (.inr ⟨Option.map_eq_some_iff.1 there, alone⟩)
  refine ⟨new, places.resolve_left ?_⟩
  rintro ⟨e, fails⟩
  rw [fails] at ok
  cases ok

/-- A subnet that has the list of its VPC has it twice after the call. -/
theorem crossingRun_not_placed :
    let n := (blank home).run (crossingRun.take 3)
    (∀ id, (n.associationsOf id).length ≤ 1) ∧ (∀ k y, ¬Holds n.acls k (Ident.resource "aclassoc" "2") y) ∧
      ¬Places n "subnet-1" "vpc-1" (n.associateDefault "subnet-1" "vpc-1" "2") := by
  have fresh : (drawnIds (crossingRun.take 3)).Nodup := by decide
  have inner : ∀ s v t, Op.associateDefault s v t ∉ crossingRun.take 3 := by simp [crossingRun]
  refine ⟨(wired_run home fresh inner).length_associationsOf_le, not_holds_of_not_mem fresh inner (by decide), ?_⟩
  have both : (((blank home).run (crossingRun.take 3)).associateDefault "subnet-1" "vpc-1" "2").state.associationsOf
      "subnet-1" = [⟨"aclassoc-1", "acl-1", "subnet-1"⟩, ⟨"aclassoc-2", "acl-1", "subnet-1"⟩] := by decide +kernel
  have ok : (((blank home).run (crossingRun.take 3)).associateDefault "subnet-1" "vpc-1" "2").result.toBool = true := by
    decide +kernel
  rintro (⟨e, fails⟩ | ⟨x, m, done, placed⟩)
  · rw [fails] at ok
    cases ok
  · rw [done, Outcome.state_ok] at both
    -- each of the two would be the only one
    have is {y : AclAssociation} (there : y ∈ m.associationsOf "subnet-1") : y = x := by
      obtain ⟨⟨k, i, held⟩, same⟩ := mem_associationsOf.1 there
      exact ((placed.only k i y).1 ⟨held, same⟩).2.2
    have same : (⟨"aclassoc-1", "acl-1", "subnet-1"⟩ : AclAssociation) = ⟨"aclassoc-2", "acl-1", "subnet-1"⟩ :=
      (is (by rw [both]; simp)).trans (is (by rw [both]; simp)).symm
    exact absurd same (by decide)

/-- So it is not true that the call fails without change or places the subnet, even as long as no subnet has two
associations. -/
theorem not_always_places : ¬∀ (scope : Scope) (ops : List Op) (subnetId vpcId stem : String),
    (∀ id, (((blank scope).run ops).associationsOf id).length ≤ 1) →
    (∀ k y, ¬Holds ((blank scope).run ops).acls k (Ident.resource "aclassoc" stem) y) →
    Places ((blank scope).run ops) subnetId vpcId
      (((blank scope).run ops).associateDefault subnetId vpcId stem) := by
  intro always
  obtain ⟨single, new, twice⟩ := crossingRun_not_placed
  exact twice (always home (crossingRun.take 3) "subnet-1" "vpc-1" "2" single new)

end MockCloud.Network
