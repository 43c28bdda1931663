import MockCloud.Proofs.Cloud.Run

/-! # Partitions of a cloud

What a call answers depends on the backends of its site only, and what it leaves is written there. So the
calls of one account tell nothing about the calls of another, and the calls of the services that keep one
backend for each region tell nothing about other regions. Services that keep one backend for an account give
the same answers whatever region they are asked in.

Two runs are compared through what is looked at of their clouds.

* `Sight`: what is looked at; `Sight.account` is all of one account, `Sight.place` the regional backends of
  one place and what the roles of its account say.
* `Agree.step`: a step made in two clouds that look the same leaves two that look the same.
* `answers_filter`: steps that are not seen may be left out of a run.
* `partition_isolation`: accounts and regions are told apart, the latter except for roles and buckets. -/

namespace MockCloud.Cloud

/-! ### What is looked at -/

/-- What is looked at of a cloud: some backends are known, and of some it is known besides whether they have
been made. What a call of several services leaves is known where all that it reads is. -/
structure Sight where
  known : CloudService → Site → Prop
  made : CloudService → Site → Prop
  known_of_made {k : CloudService} {s : Site} : made k s → known k s
  known_of_shares {k : CloudService} {s s' : Site} : Site.Shares k s s' → known k s → known k s'
  roles_known {s : Site} : known .pipelines s → known .roles s
  mail_known {s : Site} : known .mail s ↔ known .topics s

/-- All backends of an account. -/
def Sight.account (account : String) : Sight where
  known _ s := s.account = account
  made _ s := s.account = account
  known_of_made h := h
  known_of_shares shared h := shared.1.symm.trans h
  roles_known h := h
  mail_known := Iff.rfl

/-- The regional backends of a place, and the roles of its account. Roles are made when a call of some region
asks for them, so whether they have been made is not looked at. -/
def Sight.place (place : Site) : Sight where
  known k s := k = .roles ∧ s.account = place.account ∨ k.isGlobal = false ∧ s = place
  made k s := k.isGlobal = false ∧ s = place
  known_of_made := .inr
  known_of_shares {k s s'} shared h := by
    rcases h with ⟨roles, account⟩ | ⟨regional, rfl⟩
    · exact .inl ⟨roles, shared.1.symm.trans account⟩
    · exact .inr ⟨regional, ((Site.shares_iff_eq regional).1 shared).symm⟩
  roles_known h := by
    rcases h with ⟨roles, -⟩ | ⟨-, rfl⟩
    · cases roles
    · exact .inl ⟨rfl, rfl⟩
  mail_known {s} := by
    constructor
    all_goals
      rintro (⟨roles, -⟩ | ⟨-, here⟩)
      · cases roles
      · exact .inr ⟨rfl, here⟩

/-- Two clouds look the same. -/
structure Agree (v : Sight) (c c' : Cloud) : Prop where
  held {k : CloudService} {s : Site} : v.made k s → c.held k s = c'.held k s
  get {k : CloudService} {s : Site} : v.known k s → c.get k s = c'.get k s

/-! ### What is written -/

section

variable {α : Type} {v : Sight} {c c' : Cloud} {k : CloudService} {s : Site}

theorem Agree.refl (v : Sight) (c : Cloud) : Agree v c c :=
  ⟨fun _ => rfl, fun _ => rfl⟩

theorem held_keep_cases (k : CloudService) (s : Site) (k' : CloudService) (s' : Site) :
    (k' = k ∧ Site.Shares k s' s) ∨ ∀ (c : Cloud) (b : k.State), (c.keep k s b).held k' s' = c.held k' s' := by
  by_cases ne : k' = k
  · subst ne
    by_cases shared : Site.Shares k' s' s
    · exact .inl ⟨rfl, shared⟩
    · exact .inr fun c b => by rw [held_keep, if_neg shared]
  · exact .inr fun c b => held_keep_of_ne ne c b

/-- The same is written on both sides, or what is written is not known. -/
theorem Agree.keep (h : Agree v c c') {b b' : k.State} (same : v.known k s → b = b') :
    Agree v (c.keep k s b) (c'.keep k s b') := by
  constructor
  · intro k' s' made
    rcases held_keep_cases k s k' s' with ⟨rfl, shared⟩ | other
    · rw [held_keep, held_keep, if_pos shared, if_pos shared,
        same (v.known_of_shares shared (v.known_of_made made))]
    · rw [other, other, h.held made]
  · intro k' s' known
    rcases held_keep_cases k s k' s' with ⟨rfl, shared⟩ | other
    · rw [get_eq, get_eq, held_keep, held_keep, if_pos shared, if_pos shared,
        same (v.known_of_shares shared known)]
    · rw [get_eq, get_eq, other, other, ← get_eq, ← get_eq, h.get known]

/-- What is written on one side is not known. -/
theorem Agree.keep_left (h : Agree v c c') (unknown : ¬v.known k s) (b : k.State) : Agree v (c.keep k s b) c' := by
  constructor
  · intro k' s' made
    rcases held_keep_cases k s k' s' with ⟨rfl, shared⟩ | other
    · exact absurd (v.known_of_shares shared (v.known_of_made made)) unknown
    · rw [other, h.held made]
  · intro k' s' known
    rcases held_keep_cases k s k' s' with ⟨rfl, shared⟩ | other
    · exact absurd (v.known_of_shares shared known) unknown
    · rw [get_eq, other, ← get_eq, h.get known]

/-- That a backend is made shows only where it is looked whether it has been. -/
theorem Agree.keep_get_left (h : Agree v c c') (unmade : ∀ s', Site.Shares k s' s → ¬v.made k s') :
    Agree v (c.keep k s (c.get k s)) c' := by
  constructor
  · intro k' s' made
    rcases held_keep_cases k s k' s' with ⟨rfl, shared⟩ | other
    · exact absurd made (unmade s' shared)
    · rw [other, h.held made]
  · intro k' s' known
    rcases held_keep_cases k s k' s' with ⟨rfl, shared⟩ | other
    · rw [get_eq, held_keep, if_pos shared, Option.getD_some, ← h.get known, c.get_of_shares shared]
    · rw [get_eq, other, ← get_eq, h.get known]

theorem Agree.reset (v : Sight) (c c' : Cloud) : Agree v c.reset c'.reset := by
  constructor
  · intro k s _
    rw [held_reset, held_reset]
  · intro k s _
    rw [get_eq, get_eq, held_reset, held_reset]

theorem Agree.resetService (h : Agree v c c') (k : CloudService) :
    Agree v (c.resetService k) (c'.resetService k) := by
  constructor
  · intro k' s made
    by_cases same : k' = k
    · subst same
      rw [held_resetService, held_resetService]
    · rw [held_resetService_of_ne same, held_resetService_of_ne same, h.held made]
  · intro k' s known
    by_cases same : k' = k
    · subst same
      rw [get_eq, get_eq, held_resetService, held_resetService]
    · rw [get_eq, get_eq, held_resetService_of_ne same, held_resetService_of_ne same, ← get_eq, ← get_eq,
        h.get known]

/-! ### Calls in two clouds -/

/-- After a request for tags the backends of a service are what they were made of by those of that service. -/
theorem answer_congr {p q : Tagging.Place} (r : Tagging.Request) :
    (p.pipelines = q.pipelines → (p.answer r).2.pipelines = (q.answer r).2.pipelines) ∧
    (p.network = q.network → (p.answer r).2.network = (q.answer r).2.network) ∧
    (p.topics = q.topics → (p.answer r).2.topics = (q.answer r).2.topics) ∧
    (p.buckets = q.buckets → (p.answer r).2.buckets = (q.answer r).2.buckets) := by
  refine ⟨fun h => ?_, fun h => ?_, fun h => ?_, fun h => ?_⟩
  · exact Tagging.Place.answer_relates (R := fun p q => p.pipelines = q.pipelines)
      (fun c s p q h => by rw [Tagging.Place.state_handle, Tagging.Place.state_handle, h]) h r
  · exact Tagging.Place.answer_relates (R := fun p q => p.network = q.network)
      (fun c s p q h => by rw [Tagging.Place.state_handle, Tagging.Place.state_handle, h]) h r
  · exact Tagging.Place.answer_relates (R := fun p q => p.topics = q.topics)
      (fun c s p q h => by rw [Tagging.Place.state_handle, Tagging.Place.state_handle, h]) h r
  · exact Tagging.Place.answer_relates (R := fun p q => p.buckets = q.buckets)
      (fun c s p q h => by rw [Tagging.Place.state_handle, Tagging.Place.state_handle, h]) h r

/-- The same call leaves clouds that look the same. -/
theorem Agree.call (h : Agree v c c') (s : Site) (x : Call α) : Agree v (c.call s x).2 (c'.call s x).2 := by
  cases x with
  | visit k f =>
    rw [call_visit, call_visit]
    exact h.keep fun known => by rw [h.get known]
  | look k f => exact h
  | pipelines f =>
    rw [call_pipelines, call_pipelines]
    refine (h.keep fun known => h.get known).keep fun known => ?_
    rw [h.get known, h.get (v.roles_known known)]
  | post f =>
    rw [call_post, call_post]
    refine (h.keep fun known => ?_).keep fun known => ?_
    · rw [h.get known, h.get (v.mail_known.1 known)]
    · rw [h.get known, h.get (v.mail_known.2 known)]
  | tagging r f =>
    rw [call_tagging, call_tagging]
    obtain ⟨pipelines, network, topics, buckets⟩ := answer_congr (p := c.place s) (q := c'.place s) r
    refine (((h.keep fun known => ?_).keep fun known => ?_).keep fun known => ?_).keep fun known => ?_
    · exact pipelines (h.get known)
    · exact network (h.get known)
    · exact topics (h.get known)
    · exact buckets (h.get known)

theorem Agree.step (h : Agree v c c') (x : Step (Call α)) : Agree v (c.step x) (c'.step x) := by
  cases x with
  | call s x => exact h.call s x
  | reset => exact .reset v c c'
  | resetService k => exact h.resetService k

/-- A call that writes nothing that is known may be left out. -/
theorem Agree.call_left (h : Agree v c c') {x : Call α} (unknown : ∀ k ∈ x.writes, ¬v.known k s)
    (unmade : ∀ s', Site.Shares .roles s' s → ¬v.made .roles s') : Agree v (c.call s x).2 c' := by
  cases x with
  | visit k f =>
    rw [call_visit]
    exact h.keep_left (unknown k (by simp [Call.writes])) _
  | look k f => exact h
  | pipelines f =>
    rw [call_pipelines]
    exact (h.keep_get_left unmade).keep_left (unknown .pipelines (by simp [Call.writes])) _
  | post f =>
    rw [call_post]
    exact (h.keep_left (unknown .mail (by simp [Call.writes])) _).keep_left
      (unknown .topics (by simp [Call.writes])) _
  | tagging r f =>
    rw [call_tagging]
    have apart {k : CloudService} (among : k ∈ [CloudService.pipelines, .network, .topics, .buckets]) :
        ¬v.known k s := unknown k among
    exact (((h.keep_left (apart (by simp)) _).keep_left (apart (by simp)) _).keep_left (apart (by simp)) _).keep_left
      (apart (by simp)) _

/-- Everything that a call reads is looked at. -/
def Sight.Shows (v : Sight) (s : Site) : Call α → Prop
  | .visit k _ => v.known k s
  | .look k _ => v.made k s
  | .pipelines _ => v.known .pipelines s
  | .post _ => v.known .mail s
  | .tagging _ _ => ∀ k, v.known k s

/-- A call that only reads what is looked at is answered alike. -/
theorem Agree.answer (h : Agree v c c') {x : Call α} (shows : v.Shows s x) : (c.call s x).1 = (c'.call s x).1 := by
  cases x with
  | visit k f => rw [call_visit, call_visit, h.get shows]
  | look k f => exact congrArg f (h.held shows)
  | pipelines f => rw [call_pipelines, call_pipelines, h.get shows, h.get (v.roles_known shows)]
  | post f => rw [call_post, call_post, h.get shows, h.get (v.mail_known.1 shows)]
  | tagging r f =>
    have same : c.place s = c'.place s := by
      unfold place
      rw [h.get (shows .pipelines), h.get (shows .network), h.get (shows .topics), h.get (shows .buckets)]
    rw [call_tagging, call_tagging, same]

/-! ### Runs in two clouds -/

/-- **Steps that are not seen.** If the calls that are seen read only what is looked at, and the calls that are
left out write nothing of it and are not seen, then leaving them out changes no answer that is seen. -/
theorem answers_filter (dropped seen : Site → Call α → Bool) (shows : ∀ s x, seen s x = true → v.Shows s x)
    (unknown : ∀ s x, dropped s x = true → ∀ k ∈ x.writes, ¬v.known k s)
    (unmade : ∀ s x, dropped s x = true → ∀ s', Site.Shares .roles s' s → ¬v.made .roles s')
    (unseen : ∀ s x, dropped s x = true → seen s x = false) (h : Agree v c c') (steps : List (Step (Call α))) :
    (c'.answers (steps.filter fun x => !x.isCall dropped)).filter (fun t => seen t.site t.call) =
      (c.answers steps).filter fun t => seen t.site t.call := by
  induction steps generalizing c c' with
  | nil => rfl
  | cons x steps ih =>
    rw [answers, List.filter_append]
    cases left : x.isCall dropped with
    | false =>
      rw [List.filter_cons_of_pos (by simp [left]), answers, List.filter_append, ih (h.step x)]
      congr 1
      cases x with
      | call s x =>
        cases visible : seen s x with
        | true => simp [told, visible, h.answer (shows s x visible)]
        | false => simp [told, visible]
      | _ => rfl
    | true =>
      rw [List.filter_cons_of_neg (by simp [left])]
      cases x with
      | call s x =>
        have hidden : (c.told (.call s x)).filter (fun t => seen t.site t.call) = [] := by
          simp [told, unseen s x left]
        rw [hidden, List.nil_append]
        exact ih (h.call_left (unknown s x left) (unmade s x left))
      | _ => cases left

end

/-! ### Calls for which the region does not matter -/

theorem call_of_isGlobal {α : Type} (c : Cloud) {s s' : Site} {x : Call α} (global : x.isGlobal = true)
    (same : s.account = s'.account) : c.call s x = c.call s' x := by
  cases x with
  | visit k f =>
    have shared : Site.Shares k s s' := Site.shares_of_isGlobal global same
    rw [call_visit, call_visit, c.get_of_shares shared, c.keep_of_shares shared]
  | look k f =>
    have shared : Site.Shares k s s' := Site.shares_of_isGlobal global same
    exact congrArg (fun b => (f b, c)) (c.held_of_shares shared)
  | _ => cases global

theorem step_moved {α : Type} (c : Cloud) (region : String) (x : Step (Call α)) :
    c.step (x.moved region) = c.step x ∧
      (c.told (x.moved region)).map (·.answer) = (c.told x).map (·.answer) := by
  cases x with
  | call s x =>
    have same : c.call (if x.isGlobal then { s with region } else s) x = c.call s x := by
      split
      · next global => exact c.call_of_isGlobal global rfl
      · rfl
    refine ⟨congrArg Prod.snd same, ?_⟩
    show [(c.call _ x).1] = [(c.call s x).1]
    rw [same]
  | _ => exact ⟨rfl, rfl⟩

theorem run_moved {α : Type} (c : Cloud) (regions : Nat → String) (steps : List (Step (Call α))) :
    c.run (steps.mapIdx fun i x => x.moved (regions i)) = c.run steps ∧
      (c.answers (steps.mapIdx fun i x => x.moved (regions i))).map (·.answer) =
        (c.answers steps).map (·.answer) := by
  induction steps generalizing c regions with
  | nil => exact ⟨rfl, rfl⟩
  | cons x steps ih =>
    obtain ⟨left, told⟩ := c.step_moved (regions 0) x
    obtain ⟨ran, answered⟩ := ih (c.step x) fun i => regions (i + 1)
    rw [List.mapIdx_cons, answers, answers, List.map_append, List.map_append, left, told, answered]
    refine ⟨?_, rfl⟩
    show (c.step (x.moved (regions 0))).run _ = (c.step x).run steps
    rw [left, ran]

theorem answers_without_accounts {α : Type} (c : Cloud) (steps : List (Step (Call α))) (account : String) :
    (c.answers (steps.filter fun x => !x.isCall fun s _ => s.account != account)).filter
        (fun t => t.site.account == account) =
      (c.answers steps).filter fun t => t.site.account == account := by
  refine answers_filter (fun s _ => s.account != account) (fun s _ => s.account == account) ?_ ?_ ?_ ?_
    (.refl (.account account) c) steps
  · intro s x seen
    have here : s.account = account := by simpa using seen
    cases x with
    | tagging r f => exact fun _ => here
    | _ => exact here
  · intro s x dropped k _ here
    have other : s.account ≠ account := by simpa using dropped
    exact other here
  · intro s x dropped s' shared here
    have other : s.account ≠ account := by simpa using dropped
    exact other (shared.1.symm.trans here)
  · intro s x dropped
    simpa using dropped

theorem answers_without_regions {α : Type} (c : Cloud) (steps : List (Step (Call α))) (account region : String) :
    (c.answers (steps.filter fun x => !x.isCall fun s x =>
        s.account == account && s.region != region && !x.isGlobal)).filter
        (fun t => t.site == ⟨account, region⟩ && t.call.isRegional) =
      (c.answers steps).filter fun t => t.site == ⟨account, region⟩ && t.call.isRegional := by
  have away {s : Site} {x : Call α}
      (dropped : (s.account == account && s.region != region && !x.isGlobal) = true) :
      s ≠ ⟨account, region⟩ ∧ x.isGlobal = false := by
    simp only [Bool.and_eq_true, bne_iff_ne, Bool.not_eq_true'] at dropped
    exact ⟨fun here => dropped.1.2 (congrArg Site.region here), dropped.2⟩
  refine answers_filter (fun s x => s.account == account && s.region != region && !x.isGlobal)
    (fun s x => s == ⟨account, region⟩ && x.isRegional) ?_ ?_ ?_ ?_ (.refl (.place ⟨account, region⟩) c) steps
  · intro s x seen
    obtain ⟨here, regional⟩ : s = ⟨account, region⟩ ∧ x.isRegional = true := by simpa using seen
    cases x with
    | visit k f => exact .inr ⟨by simpa [Call.isRegional] using regional, here⟩
    | look k f => exact ⟨by simpa [Call.isRegional] using regional, here⟩
    | pipelines f => exact .inr ⟨rfl, here⟩
    | post f => exact .inr ⟨rfl, here⟩
    | tagging r f => cases regional
  · intro s x dropped k writes known
    obtain ⟨elsewhere, regional⟩ := away dropped
    rcases known with ⟨rfl, -⟩ | ⟨-, here⟩
    · -- no call that is left out writes roles
      cases x with
      | visit k f =>
        rw [Call.writes, List.mem_singleton] at writes
        subst writes
        cases regional
      | look k f => cases writes
      | _ => simp [Call.writes] at writes
    · exact elsewhere here
  · rintro s x - s' - ⟨regional, -⟩
    cases regional
  · intro s x dropped
    simp [(away dropped).1]

/-- **Partitions.** Roles and buckets are global, and nothing else is. Take any run of calls and resets. Leaving
out the calls of all other accounts changes no answer to a call of an account. Leaving out the calls that the
account makes in other regions, those on roles and buckets excepted, changes no answer to a call on topics,
pipelines, the network or mail in a region. And the calls on roles and buckets may be made in whatever regions:
all answers, and the cloud that is left, stay the same. -/
theorem partition_isolation {α : Type} (c : Cloud) (steps : List (Step (Call α))) (account : String) :
    (∀ k : CloudService, k.isGlobal = true ↔ k = .roles ∨ k = .buckets) ∧
    ((c.answers (steps.filter fun x => !x.isCall fun s _ => s.account != account)).filter
        (fun t => t.site.account == account) =
      (c.answers steps).filter fun t => t.site.account == account) ∧
    (∀ region : String,
      (c.answers (steps.filter fun x => !x.isCall fun s x =>
          s.account == account && s.region != region && !x.isGlobal)).filter
          (fun t => t.site == ⟨account, region⟩ && t.call.isRegional) =
        (c.answers steps).filter fun t => t.site == ⟨account, region⟩ && t.call.isRegional) ∧
    ∀ regions : Nat → String,
      c.run (steps.mapIdx fun i x => x.moved (regions i)) = c.run steps ∧
        (c.answers (steps.mapIdx fun i x => x.moved (regions i))).map (·.answer) =
          (c.answers steps).map (·.answer) := by
  exact ⟨fun k => CloudService.isGlobal_iff, c.answers_without_accounts steps account,
    c.answers_without_regions steps account, fun regions => c.run_moved regions steps⟩

end MockCloud.Cloud
