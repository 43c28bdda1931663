import MockCloud.Proofs.Network.Operation
import MockCloud.Proofs.Network.Query

/-! # Filters with unknown names

The name of a filter is looked at when some resource gets to the filter, past all filters in front of it. So a call
with an unknown name is refused only if there is such a resource; whether it is refused depends on what is stored, and
on the order of the filters.

* `Screens`: what a call answers to a list of filters, one of which is unknown.
* `refuses_unknown_iff`: every call with filters answers so, in every network. -/

namespace MockCloud.Network

section

variable {α β : Type} [Filterable α] [Catalogued α]

/-- A call on these items, in answer to filters the first unknown one of which is `f`: it refuses this name if and
only if some item fits all filters in front of it, and says `nothing` otherwise. -/
structure Screens (items : List α) (answer nothing : List Filter → Except NetworkError β) : Prop where
  refused_iff : ∀ before f after, (∀ g ∈ before, g.Known α) → ¬f.Known α →
    (answer (before ++ f :: after) = .error (.invalidValue (.filter f.name)) ↔
      ∃ a ∈ items, ∀ g ∈ before, Fits a g)
  accepted : ∀ before f after, (∀ g ∈ before, g.Known α) → ¬f.Known α → (¬∃ a ∈ items, ∀ g ∈ before, Fits a g) →
    answer (before ++ f :: after) = nothing (before ++ f :: after)

variable {items : List α} {answer : List Filter → Except NetworkError β}

/-- A call that goes on with what a selection keeps screens the filters in its way, unless it refuses filters itself
when nothing is kept. -/
theorem screens_of_select (shown : List Filter → List α → Except NetworkError β)
    (calls : ∀ filters, answer filters = (select items filters).bind (shown filters))
    (other : ∀ filters name, shown filters [] ≠ .error (.invalidValue (.filter name))) :
    Screens items answer fun filters => shown filters [] where
  refused_iff before f after known unknown := by
    rw [calls]
    by_cases reached : ∃ a ∈ items, ∀ g ∈ before, Fits a g
    · rw [(select_of_unknown known unknown items).1 reached]
      exact iff_of_true rfl reached
    · rw [(select_of_unknown known unknown items).2 reached]
      exact iff_of_false (other _ _) reached
  accepted before f after known unknown reached := by
    rw [calls, (select_of_unknown known unknown items).2 reached]
    rfl

/-- A call that shows what a selection keeps. -/
theorem screens_select : Screens items (select items) fun _ => .ok [] :=
  screens_of_select (fun _ => .ok) (fun filters => by cases select items filters <;> rfl) nofun

end

/-- The calls with filters, and without ids, on a network. -/
structure ScreensFilters (n : Network) : Prop where
  vpcs : Screens n.vpcs.values (n.describeVpcs []) fun _ => .ok []
  subnets : Screens n.subnets.values (n.describeSubnets []) fun _ => .ok []
  acls : Screens n.acls.values (n.describeAcls []) fun _ => .ok []
  gateways : ∀ request, Screens n.gateways.values (fun filters => n.describeGateways [] filters request)
    fun filters => (blank n.scope).describeGateways [] filters request
  tags : Screens n.allTags n.describeTags fun _ => .ok []

/-- **When an unknown filter is refused**, in any network: if and only if some stored resource fits all filters in
front of it. Otherwise the call is accepted, with the answer of a network that holds nothing. -/
theorem refuses_unknown_iff (n : Network) : ScreensFilters n where
  vpcs := screens_select
  subnets := screens_select
  acls := screens_select
  gateways request := by
    refine screens_of_select (fun filters gateways =>
      (paginate gateways request gatewayPageLimits (gatewayParams [] filters) Gateway.id).mapError .invalidPageToken)
      (fun filters => ?_) fun filters name => ?_
    · have described : describe Gateway.id .gatewayNotFound n.gateways.values [] filters =
          select n.gateways.values filters := rfl
      rw [describeGateways, described]
      cases select n.gateways.values filters <;> rfl
    · cases paginate [] request gatewayPageLimits (gatewayParams [] filters) Gateway.id <;> nofun
  tags := screens_select

/-- A network without VPCs accepts a filter for their colour. -/
theorem not_always_refused : ¬∀ (n : Network) (filters : List Filter), (∃ f ∈ filters, ¬f.Known Vpc) →
    ∃ f ∈ filters, ¬f.Known Vpc ∧ n.describeVpcs [] filters = .error (.invalidValue (.filter f.name)) := by
  intro always
  obtain ⟨f, -, -, refused⟩ :=
    always (blank home) [⟨"colour", ["red"]⟩] ⟨_, List.mem_singleton_self _, by decide +kernel⟩
  have accepted : (blank home).describeVpcs [] [⟨"colour", ["red"]⟩] = .ok [] := rfl
  rw [accepted] at refused
  cases refused

end MockCloud.Network
