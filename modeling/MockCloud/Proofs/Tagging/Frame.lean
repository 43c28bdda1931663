import MockCloud.Proofs.Network.Retagging
import MockCloud.Proofs.Pipeline.History
import MockCloud.Proofs.Tagging.Run

/-! # What a change of tags leaves alone

A change of tags by name changes tags and nothing else. Whether it fails, and how, depends on the one resource that the
name stands for. The backends of a place are what they are without tags, and the tags: so two places that differ in
tags only are told apart by the labels of their resources.

* `Place.bare`: a place without the tags of its resources.
* `bare_handle`: a change by name is not seen there.
* `result_handle`: it fails alike where the name stands for the same.
* `Place.eq_of_bare`: a place is its labels and what is left without them. -/

namespace MockCloud

namespace Pipeline.Catalog

/-- The catalog without the tags of its pipelines. -/
def bare (c : Catalog) : Catalog :=
  { c with pipelines := c.pipelines.without Pipeline.bare }

theorem bare_put {c : Catalog} {name : String} {p q : Pipeline} (there : c.pipelines.get? name = some p)
    (same : q.bare = p.bare) : (c.put name q).bare = c.bare :=
  congrArg (Catalog.mk c.scope) (Store.without_put Pipeline.bare there same)

theorem bare_tag (c : Catalog) (arn : String) (tags : List Tag) : (c.tag arn tags).state.bare = c.bare := by
  rcases tag_cases c arn tags with ⟨e, fails, -⟩ | ⟨p, all, there, -, ok⟩
  · rw [fails, Outcome.state_fail]
  · rw [ok]
    exact bare_put there rfl

theorem bare_untag (c : Catalog) (arn : String) (keys : List String) : (c.untag arn keys).state.bare = c.bare := by
  rcases untag_cases c arn keys with ⟨e, fails, -⟩ | ⟨p, there, ok⟩
  · rw [fails, Outcome.state_fail]
  · rw [ok]
    exact bare_put there rfl

section

variable {c c' : Catalog} (same : c.bare = c'.bare)
include same

theorem get?_eq_of_bare {name : String}
    (tags : (c.pipelines.get? name).map (·.tags) = (c'.pipelines.get? name).map (·.tags)) :
    c.pipelines.get? name = c'.pipelines.get? name :=
  Store.get?_eq_of_without Pipeline.bare Pipeline.tags (congrArg Catalog.pipelines same)
    (fun p q bares parts => by cases p; cases q; simp_all [Pipeline.bare]) tags

theorem getByArn_congr {arn : String} (held : c.pipelines.get? (nameOfArn arn) = c'.pipelines.get? (nameOfArn arn)) :
    c.getByArn arn = c'.getByArn arn :=
  Store.require_congr (Store.context_eq_of_without Pipeline.bare (congrArg Catalog.pipelines same)) held

theorem eq_of_bare (held : ∀ name, c.pipelines.get? name = c'.pipelines.get? name) : c = c' := by
  have scope : c.bare.scope = c'.bare.scope := congrArg Catalog.scope same
  have pipelines : c.pipelines = c'.pipelines :=
    Store.ext_get? (Store.context_eq_of_without Pipeline.bare (congrArg Catalog.pipelines same)) held
  exact congrArg₂ Catalog.mk scope pipelines

end

end Pipeline.Catalog

namespace Topic

/-- A topic without its tags. -/
def bare (t : Topic) : Topic := { t with tags := .empty }

namespace Board

/-- The board without the tags of its topics. -/
def bare (b : Board) : Board :=
  { b with topics := b.topics.without Topic.bare }

theorem bare_put {b : Board} {arn : String} {t t' : Topic} (there : b.topics.get? arn = some t)
    (same : t'.bare = t.bare) : (b.put arn t').bare = b.bare :=
  congrArg (Board.mk b.scope · b.published) (Store.without_put Topic.bare there same)

theorem bare_tag (b : Board) (arn : String) (tags : List Tag) : (b.tag arn tags).state.bare = b.bare := by
  rcases tag_cases b arn tags with ⟨e, fails, -⟩ | ⟨t, all, there, -, ok⟩
  · rw [fails, Outcome.state_fail]
  · rw [ok]
    exact bare_put there rfl

theorem bare_untag (b : Board) (arn : String) (keys : List String) : (b.untag arn keys).state.bare = b.bare := by
  rcases untag_cases b arn keys with ⟨e, fails, -⟩ | ⟨t, there, ok⟩
  · rw [fails, Outcome.state_fail]
  · rw [ok]
    exact bare_put there rfl

section

variable {b b' : Board} (same : b.bare = b'.bare)
include same

theorem get?_eq_of_bare {arn : String}
    (tags : (b.topics.get? arn).map (·.tags) = (b'.topics.get? arn).map (·.tags)) :
    b.topics.get? arn = b'.topics.get? arn :=
  Store.get?_eq_of_without Topic.bare Topic.tags (congrArg Board.topics same)
    (fun p q bares parts => by cases p; cases q; simp_all [Topic.bare]) tags

theorem eq_of_bare (held : ∀ arn, b.topics.get? arn = b'.topics.get? arn) : b = b' := by
  have scope : b.bare.scope = b'.bare.scope := congrArg Board.scope same
  have published : b.bare.published = b'.bare.published := congrArg Board.published same
  have topics : b.topics = b'.topics :=
    Store.ext_get? (Store.context_eq_of_without Topic.bare (congrArg Board.topics same)) held
  cases b
  cases b'
  cases topics
  cases scope
  cases published
  rfl

end

end Board

end Topic

namespace Bucket

/-- A bucket without its tags. -/
def bare (b : Bucket) : Bucket := { b with tags := none }

namespace Shelf

/-- The shelf without the tags of its buckets. -/
def bare (s : Shelf) : Shelf :=
  { s with buckets := s.buckets.without Bucket.bare }

theorem bare_changeTags (s : Shelf) (name : String) (f : Option TagMap → Except BucketError (Option TagMap)) :
    (s.changeTags name f).state.bare = s.bare := by
  rcases changeTags_cases s name f with ⟨e, fails, -⟩ | ⟨b, tags, there, -, ok⟩
  · rw [fails, Outcome.state_fail]
  · rw [ok]
    exact congrArg (Shelf.mk s.scope) (Store.without_put Bucket.bare there rfl)

section

variable {s s' : Shelf} (same : s.bare = s'.bare)
include same

theorem get?_eq_of_bare {name : String}
    (tags : (s.buckets.get? name).map (·.tags) = (s'.buckets.get? name).map (·.tags)) :
    s.buckets.get? name = s'.buckets.get? name :=
  Store.get?_eq_of_without Bucket.bare Bucket.tags (congrArg Shelf.buckets same)
    (fun p q bares parts => by cases p; cases q; simp_all [Bucket.bare]) tags

theorem get_congr {name : String} (held : s.buckets.get? name = s'.buckets.get? name) : s.get name = s'.get name :=
  Store.require_congr (Store.context_eq_of_without Bucket.bare (congrArg Shelf.buckets same)) held

theorem eq_of_bare (held : ∀ name, s.buckets.get? name = s'.buckets.get? name) : s = s' := by
  have scope : s.bare.scope = s'.bare.scope := congrArg Shelf.scope same
  have buckets : s.buckets = s'.buckets :=
    Store.ext_get? (Store.context_eq_of_without Bucket.bare (congrArg Shelf.buckets same)) held
  exact congrArg₂ Shelf.mk scope buckets

end

end Shelf

end Bucket

namespace Network

theorem bare_createTags_one (n : Network) (id : String) (tags : List Tag) :
    (n.createTags [id] tags).state.bare = n.bare := by
  rcases n.createTags_one_cases id tags with ⟨e, fails, -⟩ | ⟨old, all, -, -, ok⟩
  · rw [fails, Outcome.state_fail]
  · rw [ok, Outcome.state_ok, bare_changeTags]

theorem bare_deleteTags_one (n : Network) (id : String) (removals : List TagRemoval) :
    (n.deleteTags [id] removals).state.bare = n.bare := by
  rcases n.deleteTags_one_cases id removals with ⟨e, fails, -⟩ | ⟨old, -, ok⟩
  · rw [fails, Outcome.state_fail]
  · rw [ok, Outcome.state_ok, bare_changeTags]

theorem held?_bare (n : Network) (kind : Kind) (id : String) :
    n.bare.held? kind id = (n.held? kind id).map fun x => (x.1, .empty) := by
  cases kind <;> simp only [held?, bare, Store.get?_without, Option.map_map] <;> rfl

/-- What a store shows under an id is an own id, which shows without the tags as well, and tags. -/
theorem held?_eq_of_bare {n m : Network} (same : m.bare = n.bare) {kind : Kind} {id : String}
    (tags : (m.held? kind id).map (·.2) = (n.held? kind id).map (·.2)) : m.held? kind id = n.held? kind id := by
  have own : (m.bare.held? kind id).map (·.1) = (n.bare.held? kind id).map (·.1) := by rw [same]
  rw [held?_bare, held?_bare, Option.map_map, Option.map_map] at own
  cases hm : m.held? kind id <;> cases hn : n.held? kind id <;> simp_all [Prod.ext_iff]

theorem result_createTags_one {n m : Network} {id : String} (same : m.tagsOf? id = n.tagsOf? id) (tags : List Tag) :
    (m.createTags [id] tags).result = (n.createTags [id] tags).result := by
  simp only [createTags, mergedTags, requireTags, same, Outcome.result_guard, Outcome.result_ok]

theorem result_deleteTags_one {n m : Network} {id : String} (same : m.tagsOf? id = n.tagsOf? id)
    (removals : List TagRemoval) : (m.deleteTags [id] removals).result = (n.deleteTags [id] removals).result := by
  simp only [deleteTags, List.forM, requireTags, same, Outcome.result_guard, Outcome.result_ok]

end Network

namespace Tagging

/-- The place without the tags of its resources. -/
def Place.bare (p : Place) : Place :=
  ⟨p.pipelines.bare, p.network.bare, p.topics.bare, p.buckets.bare⟩

/-! ### A change by name -/

section

variable (c : Call) (s : String)

theorem bare_pipelines (k : Pipeline.Catalog) : (c.operation k s).state.bare = k.bare := by
  cases c with
  | tag tags => exact k.bare_tag s tags
  | untag keys => exact k.bare_untag s keys

theorem bare_network (n : Network) : (c.operation n s).state.bare = n.bare := by
  cases c with
  | tag tags => exact n.bare_createTags_one _ tags
  | untag keys => exact n.bare_deleteTags_one _ _

theorem bare_topics (b : Topic.Board) : (c.operation b s).state.bare = b.bare := by
  cases c with
  | tag tags => exact b.bare_tag s tags
  | untag keys => exact b.bare_untag s keys

theorem bare_buckets (b : Bucket.Shelf) : (c.operation b s).state.bare = b.bare := by
  rw [Call.operation_buckets, onBucket]
  cases named : Bucket.nameOfArn? s with
  | none => rfl
  | some name =>
    cases c with
    | tag tags => exact b.bare_changeTags name _
    | untag keys => exact b.bare_changeTags name _

/-- A change of tags by name is not seen without the tags. -/
theorem bare_handle (p : Place) : (p.handle c.operation s).state.bare = p.bare := by
  unfold Place.handle
  dsimp only
  split_ifs
  · simp only [Outcome.state_within, Outcome.state_mapError, Place.bare, bare_pipelines]
  · simp only [Outcome.state_within, Outcome.state_mapError, Place.bare, bare_network]
  · simp only [Outcome.state_within, Outcome.state_mapError, Place.bare, bare_topics]
  · simp only [Outcome.state_within, Outcome.state_mapError, Place.bare, bare_buckets]
  · rfl

end

/-! ### What the failure depends on -/

section

variable (c : Call) {s : String}

theorem result_pipelines {k k' : Pipeline.Catalog} (found : k.getByArn s = k'.getByArn s) :
    (c.operation k s).result = (c.operation k' s).result := by
  cases c with
  | tag tags =>
    simp only [Call.operation, TagKeeper.tag, shared, Outcome.result_mapError, Pipeline.Catalog.tag,
      Outcome.result_guard, found, Outcome.result_ok]
  | untag keys =>
    simp only [Call.operation, TagKeeper.untag, shared, Outcome.result_mapError, Pipeline.Catalog.untag,
      Outcome.result_guard, found, Outcome.result_ok]

theorem result_network {n m : Network} (same : m.tagsOf? (networkId s) = n.tagsOf? (networkId s)) :
    (c.operation m s).result = (c.operation n s).result := by
  cases c with
  | tag tags => exact congrArg (Except.mapError _) (Network.result_createTags_one same tags)
  | untag keys => exact congrArg (Except.mapError _) (Network.result_deleteTags_one same _)

theorem result_topics {b b' : Topic.Board} (found : b.tagged s = b'.tagged s) :
    (c.operation b s).result = (c.operation b' s).result := by
  cases c with
  | tag tags =>
    simp only [Call.operation, TagKeeper.tag, shared, Outcome.result_mapError, Topic.Board.tag, Outcome.result_guard,
      found, Outcome.result_ok]
  | untag keys =>
    simp only [Call.operation, TagKeeper.untag, shared, Outcome.result_mapError, Topic.Board.untag,
      Outcome.result_guard, found, Outcome.result_ok]

theorem result_buckets {b b' : Bucket.Shelf}
    (found : ∀ name, Bucket.nameOfArn? s = some name → b.get name = b'.get name) :
    (c.operation b s).result = (c.operation b' s).result := by
  rw [Call.operation_buckets, Call.operation_buckets, onBucket, onBucket]
  cases named : Bucket.nameOfArn? s with
  | none => rfl
  | some name =>
    cases c with
    | tag tags =>
      simp only [Call.onBucket, shared, Outcome.result_mapError, Bucket.Shelf.tag, Bucket.Shelf.changeTags,
        Outcome.result_guard, found name named, Outcome.result_ok]
    | untag keys =>
      simp only [Call.onBucket, shared, Outcome.result_mapError, Bucket.Shelf.untag, Bucket.Shelf.changeTags,
        Outcome.result_guard, found name named, Outcome.result_ok]

end

/-! ### Places that differ in tags only -/

/-- Resources that are seen with equal labels have equal tags. -/
theorem map_tags_eq {α : Type} {a b : Option α} {arn arn' : α → String} {tags : α → TagMap}
    (label : (a.map fun r => Label.mk (arn r) (some (tags r))) = b.map fun r => ⟨arn' r, some (tags r)⟩) :
    a.map tags = b.map tags := by
  simpa [Option.map_eq_bind, Option.bind_assoc, Function.comp_def] using congrArg (fun x => x.bind Label.tags) label

section

variable {p q : Place} (same : q.bare = p.bare)
include same

theorem pipeline_eq_of_label {name : String} (label : q.label? (.pipeline name) = p.label? (.pipeline name)) :
    q.pipelines.pipelines.get? name = p.pipelines.pipelines.get? name :=
  Pipeline.Catalog.get?_eq_of_bare (congrArg Place.pipelines same) (map_tags_eq label)

theorem held?_eq_of_label {kind : Network.Kind} {id : String}
    (label : q.label? (.network kind id) = p.label? (.network kind id)) :
    q.network.held? kind id = p.network.held? kind id :=
  Network.held?_eq_of_bare (congrArg Place.network same) (map_tags_eq label)

theorem topic_eq_of_label {arn : String} (label : q.label? (.topic arn) = p.label? (.topic arn)) :
    q.topics.topics.get? arn = p.topics.topics.get? arn :=
  Topic.Board.get?_eq_of_bare (congrArg Place.topics same) (map_tags_eq label)

/-- A bucket to which no tags have been put is not one that has lost them all, and the labels tell. -/
theorem bucket_eq_of_label {name : String} (label : q.label? (.bucket name) = p.label? (.bucket name)) :
    q.buckets.buckets.get? name = p.buckets.buckets.get? name := by
  refine Bucket.Shelf.get?_eq_of_bare (congrArg Place.buckets same) ?_
  simpa [Place.label?, Function.comp_def] using congrArg (Option.map Label.tags) label

/-- A change by name fails alike, or succeeds, where the name stands for the same. -/
theorem result_handle (c : Call) {s : String} (label : ∀ r, target? s = some r → q.label? r = p.label? r) :
    (q.handle c.operation s).result = (p.handle c.operation s).result := by
  unfold Place.handle
  dsimp only
  split_ifs with pipelines network topics buckets
  · have held := pipeline_eq_of_label same (label _ (target?_pipeline pipelines))
    have found := Pipeline.Catalog.getByArn_congr (congrArg Place.pipelines same) held
    exact congrArg (Except.mapError _) (result_pipelines c found)
  · refine congrArg (Except.mapError _) (result_network c ?_)
    cases told : Network.Kind.ofId? (networkId s) with
    | none => rw [Network.tagsOf?, Network.tagsOf?, told]
    | some kind =>
      have aims : target? s = some (.network kind (networkId s)) := by rw [target?_network network, told]; rfl
      rw [Network.tagsOf?_of_kind _ _ told, Network.tagsOf?_of_kind _ _ told, held?_eq_of_label same (label _ aims)]
  · have held := topic_eq_of_label same (label _ (target?_topic topics))
    refine congrArg (Except.mapError _) (result_topics c ?_)
    rw [Topic.Board.tagged, Topic.Board.tagged, held]
  · refine congrArg (Except.mapError _) (result_buckets c fun name named => ?_)
    have aims : target? s = some (.bucket name) := by rw [target?_bucket buckets, named]; rfl
    exact Bucket.Shelf.get_congr (congrArg Place.buckets same) (bucket_eq_of_label same (label _ aims))
  · rfl

/-- A place is told by what is left of it without the tags, and by the labels of its resources. -/
theorem Place.eq_of_bare (labels : ∀ r, q.label? r = p.label? r) : q = p := by
  have pipelines : q.pipelines = p.pipelines :=
    Pipeline.Catalog.eq_of_bare (congrArg Place.pipelines same) fun _ => pipeline_eq_of_label same (labels _)
  have network : q.network = p.network :=
    Network.eq_of_bare (congrArg Place.network same) fun _ _ => held?_eq_of_label same (labels _)
  have topics : q.topics = p.topics :=
    Topic.Board.eq_of_bare (congrArg Place.topics same) fun _ => topic_eq_of_label same (labels _)
  have buckets : q.buckets = p.buckets :=
    Bucket.Shelf.eq_of_bare (congrArg Place.buckets same) fun _ => bucket_eq_of_label same (labels _)
  cases p
  cases q
  cases pipelines
  cases network
  cases topics
  cases buckets
  rfl

end

end Tagging

end MockCloud
