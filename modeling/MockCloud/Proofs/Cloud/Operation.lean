import MockCloud.Proofs.Cloud.Run
import MockCloud.Proofs.Mail.Operation
import MockCloud.Proofs.Network.Operation
import MockCloud.Proofs.Role.Operation

/-! # Operations on a cloud

The operations of all services, as calls of a cloud. An operation of one service writes the backend of that service
at one site, mail writes topics too, and a tagging call is handed to the services. So what each service sees to in
its own operations holds of all backends, wherever they are and whatever has been done with the cloud.

* `Cloud.Op`, `Op.call`: the operations, as calls.
* `Rule.Kept`: every service keeps to a rule for its backends and their places.
* `Obeys.run`: then all backends do, after every run. -/

namespace MockCloud

/-! ### Changes by name as operations -/

namespace Tagging.Call

variable (c : Call) (s : String)

theorem exists_op_pipelines (x : Pipeline.Catalog) : ∃ op, (c.operation x s).state = x.step op := by
  cases c with
  | tag tags => exact ⟨.tag s tags, rfl⟩
  | untag keys => exact ⟨.untag s keys, rfl⟩

theorem exists_op_network (x : Network) : ∃ op, (c.operation x s).state = x.step op := by
  cases c with
  | tag tags => exact ⟨.createTags [networkId s] tags, rfl⟩
  | untag keys => exact ⟨.deleteTags [networkId s] (keys.map fun key => ⟨key, none⟩), rfl⟩

theorem exists_op_topics (x : Topic.Board) : ∃ op, (c.operation x s).state = x.step op := by
  cases c with
  | tag tags => exact ⟨.tag s tags, rfl⟩
  | untag keys => exact ⟨.untag s keys, rfl⟩

/-- A name that is no bucket's changes nothing. -/
theorem exists_op_buckets (x : Bucket.Shelf) :
    (c.operation x s).state = x ∨ ∃ op, (c.operation x s).state = x.step op := by
  rw [operation_buckets, Tagging.onBucket]
  split
  · next name _ =>
    cases c with
    | tag tags => exact .inr ⟨.tag name tags, rfl⟩
    | untag keys => exact .inr ⟨.untag name keys, rfl⟩
  · exact .inl rfl

end Tagging.Call

namespace Cloud

/-! ### Operations as calls -/

/-- An operation of a service, with all its arguments. Those of mail and of topics are made together. -/
inductive Op where
  | roles (op : Role.Directory.Op)
  | topics (op : Topic.Board.Op)
  /-- An operation on pipelines, which may depend on the roles of the account. -/
  | pipelines (op : Role.Directory → Pipeline.Catalog.Op)
  | network (op : Network.Op)
  | mail (op : Mail.Post.Op)
  | buckets (op : Bucket.Shelf.Op)
  | tagging (r : Tagging.Request)
  /-- A call that only reads; the backend of the service is made for it. -/
  | read (k : CloudService)

/-- The operation as a call of a cloud, its answer left out. -/
def Op.call : Op → Call Unit
  | roles op => .visit .roles fun (d : Role.Directory) => ((), d.step op)
  | topics op => .visit .topics fun (b : Topic.Board) => ((), b.step op)
  | pipelines op => .pipelines fun roles c => ((), c.step (op roles))
  | network op => .visit .network fun (n : Network) => ((), n.step op)
  | mail op => .post fun p => ((), p.step op)
  | buckets op => .visit .buckets fun (s : Bucket.Shelf) => ((), s.step op)
  | tagging r => .tagging r fun _ => ()
  | read k => .visit k fun b => ((), b)

/-- The cloud after a run of operations at any sites and of resets, which begins without backends. -/
def after (config : Config) (steps : List (Step Op)) : Cloud :=
  run { config } (steps.map (Step.map Op.call))

/-! ### What all backends keep to -/

/-- What may hold of a backend and the place under which it is kept. -/
abbrev Rule := ∀ k : CloudService, Scope → k.State → Prop

/-- New backends are in order, and every service keeps them so. -/
structure Rule.Kept (P : Rule) : Prop where
  new : ∀ k scope, P k scope (Backend.new scope)
  roles : ∀ scope (d : Role.Directory) op, P .roles scope d → P .roles scope (d.step op)
  topics : ∀ scope (b : Topic.Board) op, P .topics scope b → P .topics scope (b.step op)
  pipelines : ∀ scope (c : Pipeline.Catalog) op, P .pipelines scope c → P .pipelines scope (c.step op)
  network : ∀ scope (n : Network) op, P .network scope n → P .network scope (n.step op)
  post : ∀ scope (p : Mail.Post) op, P .mail scope p.1 → P .topics scope p.2 →
    P .mail scope (p.step op).1 ∧ P .topics scope (p.step op).2
  buckets : ∀ scope (s : Bucket.Shelf) op, P .buckets scope s → P .buckets scope (s.step op)

/-- The place under which a service keeps the backend of a site. -/
def home (k : CloudService) (s : Site) : Scope where
  account := s.account
  region := Registry.regionKey k.State s.region

/-- All backends of a cloud are in order. -/
def Obeys (c : Cloud) (P : Rule) : Prop :=
  ∀ k : CloudService, (Hosted.registry c : Registry k.State).Each (P k)

/-- The tagged backends of a site are in order. -/
structure PlaceObeys (P : Rule) (s : Site) (p : Tagging.Place) : Prop where
  pipelines : P .pipelines (home .pipelines s) p.pipelines
  network : P .network (home .network s) p.network
  topics : P .topics (home .topics s) p.topics
  buckets : P .buckets (home .buckets s) p.buckets

section

variable {P : Rule} {c : Cloud} {s : Site}

theorem PlaceObeys.answer (kept : P.Kept) {p : Tagging.Place} (h : PlaceObeys P s p) (r : Tagging.Request) :
    PlaceObeys P s (p.answer r).2 := by
  refine Tagging.Place.answer_relates (R := fun p _ => PlaceObeys P s p) (fun c name p _ h => ?_) (q := p) h r
  rw [Tagging.Place.state_handle]
  refine ⟨?_, ?_, ?_, ?_⟩
  all_goals
    dsimp only
    split
  · obtain ⟨op, is⟩ := c.exists_op_pipelines name p.pipelines
    rw [is]; exact kept.pipelines _ _ op h.pipelines
  · exact h.pipelines
  · obtain ⟨op, is⟩ := c.exists_op_network name p.network
    rw [is]; exact kept.network _ _ op h.network
  · exact h.network
  · obtain ⟨op, is⟩ := c.exists_op_topics name p.topics
    rw [is]; exact kept.topics _ _ op h.topics
  · exact h.topics
  · rcases c.exists_op_buckets name p.buckets with is | ⟨op, is⟩
    · rw [is]; exact h.buckets
    · rw [is]; exact kept.buckets _ _ op h.buckets
  · exact h.buckets

theorem obeys_empty (P : Rule) (config : Config) : Obeys { config } P := by
  intro k
  cases k <;> exact Registry.each_empty _

theorem Obeys.get (h : c.Obeys P) (kept : P.Kept) (k : CloudService) (s : Site) : P k (home k s) (c.get k s) :=
  (h k).backend (kept.new k) s.account s.region

theorem Obeys.place (h : c.Obeys P) (kept : P.Kept) (s : Site) : PlaceObeys P s (c.place s) :=
  ⟨h.get kept .pipelines s, h.get kept .network s, h.get kept .topics s, h.get kept .buckets s⟩

theorem Obeys.keep (h : c.Obeys P) {k : CloudService} {b : k.State} (hb : P k (home k s) b) :
    (c.keep k s b).Obeys P := by
  intro k'
  unfold Cloud.keep put
  by_cases same : k' = k
  · subst same
    rw [registry_setRegistry]
    exact (h k').set hb
  · rw [registry_setRegistry_of_ne same]
    exact h k'

theorem Obeys.call (h : c.Obeys P) (kept : P.Kept) (s : Site) (op : Op) : (c.call s op.call).2.Obeys P := by
  cases op with
  | roles op => exact h.keep (k := .roles) (kept.roles _ _ op (h.get kept .roles s))
  | topics op => exact h.keep (k := .topics) (kept.topics _ _ op (h.get kept .topics s))
  | pipelines op =>
    rw [Op.call, call_pipelines]
    refine (h.keep (h.get kept .roles s)).keep (k := .pipelines) ?_
    exact kept.pipelines _ _ _ (h.get kept .pipelines s)
  | network op => exact h.keep (k := .network) (kept.network _ _ op (h.get kept .network s))
  | mail op =>
    -- mail and topics both have a backend for each region, so that they are kept under one place
    obtain ⟨mail, topics⟩ := kept.post (home .mail s) (c.get .mail s, c.get .topics s) op
      (h.get kept .mail s) (h.get kept .topics s)
    rw [Op.call, call_post]
    exact (h.keep (k := .mail) mail).keep (k := .topics) topics
  | buckets op => exact h.keep (k := .buckets) (kept.buckets _ _ op (h.get kept .buckets s))
  | tagging r =>
    have answered := (h.place kept s).answer kept r
    rw [Op.call, call_tagging]
    exact (((h.keep (k := .pipelines) answered.pipelines).keep (k := .network) answered.network).keep
      (k := .topics) answered.topics).keep (k := .buckets) answered.buckets
  | read k => exact h.keep (h.get kept k s)

theorem Obeys.step (h : c.Obeys P) (kept : P.Kept) (x : Step Op) : (c.step (x.map Op.call)).Obeys P := by
  cases x with
  | call s op => exact h.call kept s op
  | reset => exact obeys_empty P c.config
  | resetService k =>
    intro k'
    show (Hosted.registry (c.resetService k) : Registry k'.State).Each _
    rw [resetService_eq]
    by_cases same : k' = k
    · subst same
      rw [registry_setRegistry]
      exact Registry.each_empty _
    · rw [registry_setRegistry_of_ne same]
      exact h k'

/-- **A run keeps all backends in order**: operations of all services at any sites, tagging calls and resets. -/
theorem Obeys.run (h : c.Obeys P) (kept : P.Kept) (steps : List (Step Op)) :
    (c.run (steps.map (Step.map Op.call))).Obeys P := by
  induction steps generalizing c with
  | nil => exact h
  | cons x steps ih => exact ih (h.step kept x)

end

end Cloud

end MockCloud
