import MockCloud.Proofs.Network.Filing
import MockCloud.Proofs.Network.Query
import MockCloud.Proofs.Page.Following

/-! # The listings of a network

A listing is asked for ids and filters. It hands out the stored resources with these ids, all if there are no ids,
that every filter asks for: each once, and in the order of ids. If some of the ids are not there it is refused with
the first of them.

* `pick_of_present`, `pick_of_absent`: the choice of ids.
* `describe_of_present`: ids and filters together.
* `Lists`: what a listing answers, and `lists_of_describe`: how the calls of a network come to it.
* `listings_exact`: VPCs, subnets, access lists and gateways, after any run. -/

namespace MockCloud.Network

/-! ### Ids and filters together -/

section

variable {α : Type} {id : α → String} {missing : String → NetworkError} {items : List α}
  {ids before after : List String}

/-- Some of the items that are picked for an id of the request carries it, if any item does. -/
theorem any_picked_iff {i : String} (requested : i ∈ ids) :
    ((items.filter fun a => ids.contains (id a)).any fun a => id a == i) = true ↔ ∃ a ∈ items, id a = i := by
  simp only [List.any_eq_true, List.mem_filter, List.contains_iff_mem, beq_iff_eq]
  constructor
  · rintro ⟨a, ⟨ha, -⟩, named⟩
    exact ⟨a, ha, named⟩
  · rintro ⟨a, ha, rfl⟩
    exact ⟨a, ⟨ha, requested⟩, rfl⟩

/-- **A choice of ids all of which are there** picks the items with these ids. -/
theorem pick_of_present (present : ∀ i ∈ ids, ∃ a ∈ items, id a = i) :
    pick id missing items ids = .ok (items.filter fun a => ids = [] ∨ id a ∈ ids) := by
  unfold pick
  cases ids with
  | nil => simp
  | cons i ids =>
    have found : ((i :: ids).find? fun j =>
        !(items.filter fun a => (i :: ids).contains (id a)).any fun a => id a == j) = none := by
      rw [List.find?_eq_none]
      intro j hj
      rw [(any_picked_iff hj).2 (present j hj)]
      simp
    rw [if_neg (by simp)]
    dsimp only
    rw [found]
    simp

/-- A choice of ids some of which are not there is refused with the first of these. -/
theorem pick_of_absent {i : String} (present : ∀ j ∈ before, ∃ a ∈ items, id a = j)
    (absent : ∀ a ∈ items, id a ≠ i) : pick id missing items (before ++ i :: after) = .error (missing i) := by
  unfold pick
  have found : ((before ++ i :: after).find? fun j =>
      !(items.filter fun a => (before ++ i :: after).contains (id a)).any fun a => id a == j) = some i := by
    refine List.find?_eq_some_iff_append.2 ⟨?_, before, after, rfl, fun j hj => ?_⟩
    · rw [Bool.not_eq_true', ← Bool.not_eq_true, any_picked_iff (by simp)]
      rintro ⟨a, ha, named⟩
      exact absent a ha named
    · rw [(any_picked_iff (List.mem_append_left _ hj)).2 (present j hj)]
      rfl
  rw [if_neg (by simp)]
  dsimp only
  rw [found]

variable [Filterable α] [Catalogued α] {filters : List Filter}

/-- **A call with ids that are there and known filters** succeeds. -/
theorem describe_of_present (known : ∀ f ∈ filters, f.Known α) (present : ∀ i ∈ ids, ∃ a ∈ items, id a = i) :
    ∃ l, describe id missing items ids filters = .ok l ∧ l.Sublist items ∧
      ∀ a, a ∈ l ↔ a ∈ items ∧ (ids = [] ∨ id a ∈ ids) ∧ ∀ f ∈ filters, Fits a f := by
  obtain ⟨l, selected, sublist, mem⟩ := select_of_known known (items.filter fun a => ids = [] ∨ id a ∈ ids)
  refine ⟨l, ?_, sublist.trans List.filter_sublist, fun a => ?_⟩
  · rw [describe, pick_of_present present]
    exact selected
  · rw [mem, List.mem_filter, decide_eq_true_eq, and_assoc]

end

/-! ### What a listing answers -/

/-- Either all ids are there, or one is the first that is not. -/
theorem present_or_absent {α : Type} (held : String → Option α) (ids : List String) :
    (∀ i ∈ ids, ∃ a, held i = some a) ∨
      ∃ before i after, ids = before ++ i :: after ∧ (∀ j ∈ before, ∃ a, held j = some a) ∧ held i = none := by
  induction ids with
  | nil => exact .inl nofun
  | cons i ids ih =>
    cases hi : held i with
    | none => exact .inr ⟨[], i, ids, rfl, nofun, hi⟩
    | some a =>
      rcases ih with present | ⟨before, j, after, rfl, present, absent⟩
      · exact .inl (List.forall_mem_cons.2 ⟨⟨a, hi⟩, present⟩)
      · exact .inr ⟨i :: before, j, after, rfl, List.forall_mem_cons.2 ⟨⟨a, hi⟩, present⟩, absent⟩

section

variable {α : Type} [Filterable α] [Catalogued α]

/-- What a listing of resources, which are held under their ids, answers to ids and known filters. -/
structure Answered (id : α → String) (missing : String → NetworkError) (held : String → Option α)
    (Answers : List String → List Filter → Except NetworkError (List α) → Prop) : Prop where
  home : ∀ k a, held k = some a → id a = k
  /-- If all ids are there, the listing consists of what is asked for, in the order of ids. -/
  found : ∀ ids filters, (∀ f ∈ filters, f.Known α) → (∀ i ∈ ids, ∃ a, held i = some a) →
    ∃ l, Answers ids filters (.ok l) ∧ Increasing id l ∧
      ∀ a, a ∈ l ↔ (∃ k, held k = some a ∧ (ids = [] ∨ k ∈ ids)) ∧ ∀ f ∈ filters, Fits a f
  /-- Otherwise the first id that is not there is the error. -/
  absent : ∀ before i after filters, (∀ f ∈ filters, f.Known α) → (∀ j ∈ before, ∃ a, held j = some a) →
    held i = none → Answers (before ++ i :: after) filters (.error (missing i))
  single : ∀ ids filters r r', Answers ids filters r → Answers ids filters r' → r = r'

/-- The answers of a listing, for which neither the order nor repetitions of ids and filters matter. -/
structure Lists (id : α → String) (missing : String → NetworkError) (held : String → Option α)
    (Answers : List String → List Filter → Except NetworkError (List α) → Prop) : Prop
    extends Answered id missing held Answers where
  regardless : ∀ ids ids' filters filters' l, (∀ f ∈ filters, f.Known α) → (∀ i, i ∈ ids ↔ i ∈ ids') →
    (∀ f, f ∈ filters ↔ f ∈ filters') → Answers ids filters (.ok l) → Answers ids' filters' (.ok l)

variable {id : α → String} {missing : String → NetworkError} {held : String → Option α}
  {Answers : List String → List Filter → Except NetworkError (List α) → Prop}

/-- The answers say what is listed, so that requests for the same are answered in the same way. -/
theorem Answered.lists (h : Answered id missing held Answers) : Lists id missing held Answers where
  toAnswered := h
  regardless ids ids' filters filters' l known sameIds sameFilters answered := by
    have known' : ∀ f ∈ filters', f.Known α := fun f hf => known f ((sameFilters f).2 hf)
    have none_iff : ids = [] ↔ ids' = [] := by
      simp only [List.eq_nil_iff_forall_not_mem, sameIds]
    rcases present_or_absent held ids with present | ⟨before, i, after, rfl, present, absent⟩
    · -- both requests are listed; a listing in the order of ids is determined by what is in it
      obtain ⟨l₁, answered₁, increasing₁, mem₁⟩ := h.found ids filters known present
      obtain ⟨l₂, answered₂, increasing₂, mem₂⟩ :=
        h.found ids' filters' known' fun i hi => present i ((sameIds i).2 hi)
      have same : l₁ = l₂ := SortedMap.eq_of_increasing increasing₁ increasing₂ fun a => by
        rw [mem₁, mem₂]
        simp only [none_iff, sameIds, sameFilters]
      cases h.single ids filters _ _ answered answered₁
      exact same ▸ answered₂
    · -- the first request is refused, so it is not answered with a listing
      cases h.single _ filters _ _ answered (h.absent before i after filters known present absent)

/-- **How calls come to a listing**: the resources of a store stand under their ids, and the calls hand out what is
described of them, or its error. -/
theorem lists_of_describe {κ : Type} {store : Store α κ} (home : ∀ k a, store.get? k = some a → id a = k)
    (single : ∀ ids filters r r', Answers ids filters r → Answers ids filters r' → r = r')
    (listed : ∀ ids filters l, describe id missing store.values ids filters = .ok l → Increasing id l →
      Answers ids filters (.ok l))
    (refused : ∀ ids filters e, describe id missing store.values ids filters = .error e →
      Answers ids filters (.error e)) :
    Lists id missing store.get? Answers := by
  have stored (i : String) : (∃ a ∈ store.values, id a = i) ↔ ∃ a, store.get? i = some a := by
    simp only [Store.mem_values_iff]
    constructor
    · rintro ⟨a, ⟨k, hk⟩, rfl⟩
      exact ⟨a, home k a hk ▸ hk⟩
    · rintro ⟨a, ha⟩
      exact ⟨a, ⟨i, ha⟩, home i a ha⟩
  have sorted : Increasing id store.values := SortedMap.pairwise_values fun k a k' a' ha ha' lt =>
    (home k a ha).symm ▸ (home k' a' ha').symm ▸ lt
  refine Answered.lists ⟨home, fun ids filters known present => ?_,
    fun before i after filters _ present absent => ?_, single⟩
  · obtain ⟨l, described, sublist, mem⟩ :=
      describe_of_present known fun i hi => (stored i).2 (present i hi)
    have increasing : Increasing id l := List.Pairwise.sublist sublist sorted
    refine ⟨l, listed ids filters l described increasing, increasing, fun a => ?_⟩
    rw [mem, ← and_assoc, Store.mem_values_iff, ← exists_and_right]
    refine and_congr_left fun _ => exists_congr fun k => and_congr_right fun there => ?_
    rw [home k a there]
  · refine refused _ filters _ ?_
    rw [describe, pick_of_absent (fun j hj => (stored j).2 (present j hj)) fun a ha named => ?_]
    obtain ⟨b, hb⟩ := (stored i).1 ⟨a, ha, named⟩
    cases absent.symm.trans hb

/-- A call that answers with the resources themselves. -/
theorem lists_describe {κ : Type} {store : Store α κ} (home : ∀ k a, store.get? k = some a → id a = k) :
    Lists id missing store.get? fun ids filters r => describe id missing store.values ids filters = r :=
  lists_of_describe home (fun _ _ _ _ answered answered' => answered.symm.trans answered')
    (fun _ _ _ described _ => described) fun _ _ _ described => described

end

/-! ### The listings of gateways -/

/-- The pages of gateways hold what is described of them. -/
theorem ends_describeGateways {n : Network} {ids : List String} {filters : List Filter} {l : List Gateway}
    (described : describe Gateway.id .gatewayNotFound n.gateways.values ids filters = .ok l)
    (increasing : Increasing Gateway.id l) (maxResults : Option Nat) :
    Ends (n.describeGateways ids filters) maxResults (.ok l) := by
  have pages : n.describeGateways ids filters = fun request =>
      (paginate l request gatewayPageLimits (gatewayParams ids filters) Gateway.id).mapError .invalidPageToken := by
    funext request
    rw [describeGateways, described]
  obtain ⟨all, follows, perm, increasing'⟩ :=
    exists_follows l maxResults gatewayPageLimits (gatewayParams ids filters) increasing.nodup_keys
      NetworkError.invalidPageToken
  have same : allItems all = l := SortedMap.eq_of_increasing increasing' increasing fun _ => perm.mem_iff
  have ends := follows.ends
  rw [same] at ends
  rw [pages]
  exact ends

theorem ends_describeGateways_error {n : Network} {ids : List String} {filters : List Filter} {e : NetworkError}
    (described : describe Gateway.id .gatewayNotFound n.gateways.values ids filters = .error e)
    (maxResults : Option Nat) : Ends (n.describeGateways ids filters) maxResults (.error e) :=
  ends_of_error (by rw [describeGateways, described])

/-- The listings of the network; those of gateways at the end of their pages, of whatever size. -/
structure ListsExactly (n : Network) : Prop where
  vpcs : Lists Vpc.id .vpcNotFound n.vpcs.get? fun ids filters r => n.describeVpcs ids filters = r
  subnets : Lists Subnet.id .subnetNotFound n.subnets.get? fun ids filters r => n.describeSubnets ids filters = r
  acls : Lists Acl.id .aclNotFound n.acls.get? fun ids filters r => n.describeAcls ids filters = r
  gateways : ∀ maxResults, Lists Gateway.id .gatewayNotFound n.gateways.get? fun ids filters r =>
    Ends (n.describeGateways ids filters) maxResults r

/-- **Listings are exact**, after any run. VPCs, subnets, access lists and the pages of gateways put together are the
stored resources whose ids are requested, all if none is, and that every filter asks for: each once, in the order of
ids. They are refused exactly if a requested id is not there, with the first such id. Neither the order nor
repetitions of ids and filters matter to them. -/
theorem listings_exact (scope : Scope) (ops : List Op) : ListsExactly ((blank scope).run ops) :=
  have filed : Filed scope ((blank scope).run ops) := (filed_blank scope).run ops
  { vpcs := lists_describe fun k a there => (filed.vpcs k a there).1
    subnets := lists_describe fun k a there => (filed.subnets k a there).1
    acls := lists_describe fun k a there => (filed.acls k a there).1
    gateways := fun maxResults =>
      lists_of_describe (fun k a there => (filed.gateways k a there).1) (fun _ _ _ _ => Ends.eq)
        (fun _ _ _ described increasing => ends_describeGateways described increasing maxResults)
        fun _ _ _ described => ends_describeGateways_error described maxResults }

end MockCloud.Network
