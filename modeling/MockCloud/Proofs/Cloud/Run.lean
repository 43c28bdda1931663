import MockCloud.Cloud
import MockCloud.Proofs.Tagging.Handling

/-! # Runs of a cloud

What can be done with a cloud, as data. A call is for a site, and what it does with the backends that it is
given there is a function of theirs: all that it draws, and the moment at which it is made, are part of that
function. A tagging call is one of the requests that the tagging interface has.

* `Cloud.Call`, `Cloud.call`: the calls at a site, and what they answer and leave.
* `Cloud.run`, `Cloud.answers`: runs of calls and resets, and what the calls of a run answer.
* `Cloud.held`, `Cloud.get`, `Cloud.keep`: the backend of a service at a site, as it is read and written.
  What is written at a site is seen at the sites that share its backend, and for that service only. -/

namespace MockCloud

/-! ### Requests for tags -/

namespace Tagging

/-- A request for the tags of a place, with all its arguments. -/
inductive Request where
  | resources (q : Query) (page : PageRequest)
  | keys (page : PageRequest)
  | values (key : String) (page : PageRequest)
  | change (c : Call) (names : List String)

/-- What is answered to a request. -/
inductive Reply where
  | resources (r : Except TaggingError (Page TaggedResource))
  | texts (r : Except TaggingError (Page String))
  | failures (r : Except TaggingError (SortedMap FailedResource))

namespace Place

/-- The answer to a request, and the place that it leaves. -/
def answer (p : Place) : Request → Reply × Place
  | .resources q page => (.resources (Tagging.resources p.tagged q page), p)
  | .keys page => (.texts (tagKeys p.tagged page), p)
  | .values key page => (.texts (tagValues p.tagged key page), p)
  | .change c names => (.failures (p.call names c).result, (p.call names c).state)

theorem handleAll_snd (op : Operation) (p : Place) (failed : SortedMap FailedResource) (names : List String) :
    (p.handleAll op failed names).2 = names.foldl (fun p s => (p.handle op s).state) p := by
  induction names generalizing p failed with
  | nil => rfl
  | cons s names ih =>
    rw [handleAll, List.foldl_cons]
    split <;> exact ih _ _

/-- A change by name is made in the backend of the name's service, and in no other. -/
theorem state_handle (op : Operation) (p : Place) (s : String) :
    (p.handle op s).state =
      { pipelines := if serviceName s = "codepipeline" then (op p.pipelines s).state else p.pipelines
        network := if serviceName s = "ec2" then (op p.network s).state else p.network
        topics := if serviceName s = "sns" then (op p.topics s).state else p.topics
        buckets := if serviceName s = "s3" then (op p.buckets s).state else p.buckets } := by
  unfold handle
  dsimp only [TagKeeper.service]
  split
  · next h => simp [h]
  split
  · next h => simp [h]
  split
  · next h => simp [h]
  split <;> simp

/-- Two places stay related if the changes by name relate them again, one name after the other. -/
theorem answer_relates {R : Place → Place → Prop}
    (step : ∀ (c : Call) (s : String) p q, R p q → R (p.handle c.operation s).state (q.handle c.operation s).state)
    {p q : Place} (h : R p q) (r : Request) : R (p.answer r).2 (q.answer r).2 := by
  cases r with
  | change c names =>
    show R (p.call names c).state (q.call names c).state
    rw [call_eq, call_eq, forEach, forEach]
    split
    · exact h
    · show R (p.handleAll c.operation .empty names).2 (q.handleAll c.operation .empty names).2
      rw [handleAll_snd, handleAll_snd]
      clear * - h step
      induction names generalizing p q with
      | nil => exact h
      | cons s names ih => exact ih (step c s p q h)
  | _ => exact h

end Place

end Tagging

/-! ### Services and their backends -/

/-- The backends of a service. -/
def CloudService.State : CloudService → Type
  | .roles => Role.Directory
  | .topics => Topic.Board
  | .pipelines => Pipeline.Catalog
  | .network => Network
  | .mail => Mail.Office
  | .buckets => Bucket.Shelf

instance (k : CloudService) : Hosted k.State :=
  match k with
  | .roles => inferInstanceAs (Hosted Role.Directory)
  | .topics => inferInstanceAs (Hosted Topic.Board)
  | .pipelines => inferInstanceAs (Hosted Pipeline.Catalog)
  | .network => inferInstanceAs (Hosted Network)
  | .mail => inferInstanceAs (Hosted Mail.Office)
  | .buckets => inferInstanceAs (Hosted Bucket.Shelf)

/-- Whether a service has one backend for all regions of an account. -/
def CloudService.isGlobal (k : CloudService) : Bool :=
  Backend.isGlobal k.State

theorem CloudService.isGlobal_iff {k : CloudService} : k.isGlobal = true ↔ k = .roles ∨ k = .buckets := by
  cases k with
  | roles => exact iff_of_true rfl (.inl rfl)
  | buckets => exact iff_of_true rfl (.inr rfl)
  | topics | pipelines | network | mail => exact iff_of_false Bool.false_ne_true (by simp)

/-- The service has one backend for both sites. -/
def Site.Shares (k : CloudService) (s s' : Site) : Prop :=
  s.account = s'.account ∧ Registry.regionKey k.State s.region = Registry.regionKey k.State s'.region

instance (k : CloudService) (s s' : Site) : Decidable (Site.Shares k s s') :=
  inferInstanceAs (Decidable (_ ∧ _))

theorem Site.shares_of_isGlobal {k : CloudService} (global : k.isGlobal = true) {s s' : Site}
    (same : s.account = s'.account) : Site.Shares k s s' :=
  ⟨same, by simp [Registry.regionKey, show Backend.isGlobal k.State = true from global]⟩

theorem Site.shares_iff_eq {k : CloudService} (regional : k.isGlobal = false) {s s' : Site} :
    Site.Shares k s s' ↔ s = s' := by
  have key (region : String) : Registry.regionKey k.State region = region := by
    simp [Registry.regionKey, show Backend.isGlobal k.State = false from regional]
  unfold Site.Shares
  rw [key, key]
  cases s
  cases s'
  simp

namespace Cloud

variable {k k' : CloudService} {s s' : Site}

/-- The backend of a service at a site, if it has been made. -/
def held (c : Cloud) (k : CloudService) (s : Site) : Option k.State :=
  (Hosted.registry c).get? s.account s.region

/-- The backend of a service at a site, which is a new one if there is none yet. -/
def get (c : Cloud) (k : CloudService) (s : Site) : k.State :=
  c.backend s

/-- The cloud with a backend of a service at a site. -/
def keep (c : Cloud) (k : CloudService) (s : Site) (b : k.State) : Cloud :=
  c.put s b

/-- The backend that a service makes for a site. -/
def fresh (k : CloudService) (s : Site) : k.State :=
  Backend.new { account := s.account, region := Registry.regionKey k.State s.region }

theorem get_eq (c : Cloud) (k : CloudService) (s : Site) : c.get k s = (c.held k s).getD (fresh k s) := rfl

theorem registry_setRegistry (c : Cloud) (r : Registry k.State) :
    Hosted.registry (Hosted.setRegistry c r) = r := by
  cases k <;> rfl

theorem registry_setRegistry_of_ne (ne : k ≠ k') (c : Cloud) (r : Registry k'.State) :
    (Hosted.registry (Hosted.setRegistry c r) : Registry k.State) = Hosted.registry c := by
  cases k <;> cases k' <;> first | rfl | exact absurd rfl ne

theorem held_of_shares (c : Cloud) (shared : Site.Shares k s s') : c.held k s = c.held k s' := by
  unfold held Registry.get?
  rw [shared.1, shared.2]

theorem get_of_shares (c : Cloud) (shared : Site.Shares k s s') : c.get k s = c.get k s' := by
  rw [get_eq, get_eq, c.held_of_shares shared, fresh, fresh, shared.1, shared.2]

theorem keep_of_shares (c : Cloud) (shared : Site.Shares k s s') (b : k.State) : c.keep k s b = c.keep k s' b := by
  unfold keep put Registry.set
  rw [shared.1, shared.2]

theorem held_keep (c : Cloud) (b : k.State) :
    (c.keep k s b).held k s' = if Site.Shares k s' s then some b else c.held k s' := by
  unfold held keep put
  rw [registry_setRegistry, Registry.get?_set]
  rfl

theorem held_keep_of_ne (ne : k' ≠ k) (c : Cloud) (b : k.State) : (c.keep k s b).held k' s' = c.held k' s' := by
  unfold held keep put
  rw [registry_setRegistry_of_ne ne]

theorem held_reset (c : Cloud) : c.reset.held k s = none := by
  cases k <;> rfl

theorem resetService_eq (c : Cloud) (k : CloudService) :
    c.resetService k = Hosted.setRegistry c (.empty : Registry k.State) := by
  cases k <;> rfl

theorem held_resetService (c : Cloud) : (c.resetService k).held k s = none := by
  rw [resetService_eq, held, registry_setRegistry]
  rfl

theorem held_resetService_of_ne (ne : k ≠ k') (c : Cloud) : (c.resetService k').held k s = c.held k s := by
  rw [resetService_eq, held, registry_setRegistry_of_ne ne]
  rfl

/-! ### Calls -/

/-- A call at a site that answers in `α`. -/
inductive Call (α : Type) where
  /-- A call of one service. -/
  | visit (k : CloudService) (f : k.State → α × k.State)
  /-- A look at the backend of a service, which is not made for it. -/
  | look (k : CloudService) (f : Option k.State → α)
  /-- A call on pipelines, which may read the roles of the account. -/
  | pipelines (f : Role.Directory → Pipeline.Catalog → α × Pipeline.Catalog)
  /-- A call on mail and topics. -/
  | post (f : Mail.Post → α × Mail.Post)
  /-- A request for tags. -/
  | tagging (r : Tagging.Request) (f : Tagging.Reply → α)

namespace Call

variable {α : Type}

/-- Whether a call is one of a service that has one backend for all regions of an account. -/
def isGlobal : Call α → Bool
  | visit k _ | look k _ => k.isGlobal
  | _ => false

/-- Whether a call is one of the services that have a backend for each region. Requests for tags are not: they
reach buckets too. -/
def isRegional : Call α → Bool
  | visit k _ | look k _ => !k.isGlobal
  | pipelines _ | post _ => true
  | tagging _ _ => false

/-- The services whose backends a call writes. A call on pipelines leaves the roles as they are. -/
def writes : Call α → List CloudService
  | visit k _ => [k]
  | look _ _ => []
  | pipelines _ => [.pipelines]
  | post _ => [.mail, .topics]
  | tagging _ _ => [.pipelines, .network, .topics, .buckets]

end Call

variable {α : Type}

/-- The answer to a call, and the cloud that it leaves. -/
def call (c : Cloud) (s : Site) : Call α → α × Cloud
  | .visit _ f => c.visit s f
  | .look k f => (f (c.held k s), c)
  | .pipelines f => c.visitPipelines s f
  | .post f => c.visitPost s f
  | .tagging r f => c.visitTagging s fun p => (f (p.answer r).1, (p.answer r).2)

/-- The tagged backends of a site. -/
def place (c : Cloud) (s : Site) : Tagging.Place :=
  ⟨c.get .pipelines s, c.get .network s, c.get .topics s, c.get .buckets s⟩

section

variable (c : Cloud) (s : Site)

theorem call_visit (k : CloudService) (f : k.State → α × k.State) :
    c.call s (.visit k f) = ((f (c.get k s)).1, c.keep k s (f (c.get k s)).2) := rfl

theorem call_pipelines (f : Role.Directory → Pipeline.Catalog → α × Pipeline.Catalog) :
    c.call s (.pipelines f) =
      ((f (c.get .roles s) (c.get .pipelines s)).1,
        (c.keep .roles s (c.get .roles s)).keep .pipelines s (f (c.get .roles s) (c.get .pipelines s)).2) := rfl

theorem call_post (f : Mail.Post → α × Mail.Post) :
    c.call s (.post f) =
      ((f (c.get .mail s, c.get .topics s)).1,
        (c.keep .mail s (f (c.get .mail s, c.get .topics s)).2.1).keep .topics s
          (f (c.get .mail s, c.get .topics s)).2.2) := rfl

theorem call_tagging (r : Tagging.Request) (f : Tagging.Reply → α) :
    c.call s (.tagging r f) =
      (f ((c.place s).answer r).1,
        (((c.keep .pipelines s ((c.place s).answer r).2.pipelines).keep .network s
          ((c.place s).answer r).2.network).keep .topics s ((c.place s).answer r).2.topics).keep .buckets s
            ((c.place s).answer r).2.buckets) := rfl

end

/-! ### Runs -/

/-- A step of a run: a call at a site, or a reset. -/
inductive Step (κ : Type) where
  | call (s : Site) (x : κ)
  | reset
  | resetService (k : CloudService)

/-- The step with its call seen as another one. -/
def Step.map {κ κ' : Type} (f : κ → κ') : Step κ → Step κ'
  | call s x => .call s (f x)
  | reset => .reset
  | resetService k => .resetService k

/-- Whether a step is a call of some kind. -/
def Step.isCall {κ : Type} (p : Site → κ → Bool) : Step κ → Bool
  | call s x => p s x
  | _ => false

/-- The step in another region, if it is a call for which the region does not matter. -/
def Step.moved (region : String) : Step (Call α) → Step (Call α)
  | call s x => .call (if x.isGlobal then { s with region } else s) x
  | x => x

/-- The cloud after a step. -/
def step (c : Cloud) : Step (Call α) → Cloud
  | .call s x => (c.call s x).2
  | .reset => c.reset
  | .resetService k => c.resetService k

/-- The cloud after a run. -/
def run (c : Cloud) (steps : List (Step (Call α))) : Cloud :=
  steps.foldl step c

/-- A call with the answer to it. -/
structure Answered (α : Type) where
  site : Site
  call : Call α
  answer : α

/-- What is answered in a step. -/
def told (c : Cloud) : Step (Call α) → List (Answered α)
  | .call s x => [⟨s, x, (c.call s x).1⟩]
  | _ => []

/-- The calls of a run with their answers, in order. -/
def answers (c : Cloud) : List (Step (Call α)) → List (Answered α)
  | [] => []
  | step :: rest => c.told step ++ (c.step step).answers rest

end Cloud

end MockCloud
