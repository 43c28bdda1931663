import MockCloud.Proofs.Tagging.Place

/-! # One change of tags by name

A change of tags that is asked for by name ends in one of two ways. Either nothing has changed, and then the
name stands for no resource of the place or the resource may not have the tags; or the tags of the one
resource that the name stands for have changed, and no other label of the place.

* `Handled p c s o`: the two ways.
* `handle_handled`: every name ends in one of them, by cases on the four services. -/

namespace MockCloud.Tagging

/-- A change of tags. -/
inductive Call where
  | tag (tags : List Tag)
  | untag (keys : List String)

namespace Call

/-- The change as an operation of a service. -/
def operation (c : Call) : Operation := fun s arn =>
  match c with
  | tag tags => TagKeeper.tag s arn tags
  | untag keys => TagKeeper.untag s arn keys

/-- The change as an operation on the bucket of a name. -/
def onBucket (c : Call) (b : Bucket.Shelf) (name : String) : Outcome Bucket.Shelf Bucket.BucketError Unit :=
  match c with
  | tag tags => b.tag name tags
  | untag keys => b.untag name keys

/-- Buckets find the one that the change is for in the resource name. -/
theorem operation_buckets (c : Call) (b : Bucket.Shelf) (arn : String) :
    c.operation b arn = Tagging.onBucket b arn (c.onBucket b) := by
  cases c <;> rfl

/-- The tags after the change. -/
def apply : Call → Option TagMap → Option TagMap
  | tag tags, old => some ((old.getD .empty).insertAll (TagMap.ofTags tags).entries)
  | untag keys, old => old.map fun tags => tags.eraseKeys keys

/-- The resource may have the tags that the change would leave. Pipelines do not let a key be named twice. -/
def Allowed : Call → Resource → Option TagMap → Prop
  | tag tags, r, old =>
    (∃ all, TagPolicy.standard.merged (old.getD .empty) (.ofTags tags) = .ok all) ∧
      ∀ name, r = .pipeline name → TagPolicy.checkUnique tags = .ok ()
  | untag _, _, _ => True

theorem apply_tag {tags : List Tag} (old : Option TagMap) {all : TagMap}
    (merged : TagPolicy.standard.merged (old.getD .empty) (.ofTags tags) = .ok all) :
    (tag tags).apply old = some all :=
  congrArg some (TagPolicy.merged_eq_ok_iff.1 merged).2.2.symm

end Call

/-- The call for a list of names. -/
def Place.call (p : Place) (names : List String) : Call → Outcome Place TaggingError (SortedMap FailedResource)
  | .tag tags => p.tagResources names tags
  | .untag keys => p.untagResources names keys

theorem Place.call_eq (p : Place) (names : List String) (c : Call) : p.call names c = p.forEach c.operation names := by
  cases c <;> rfl

/-- How the change of the tags behind one name ends. -/
inductive Handled (p : Place) (c : Call) (s : String) : Outcome Place FailedResource Unit → Prop
  | refused {f : FailedResource}
      (why : ∀ r x, target? s = some r → p.label? r = some x → ¬c.Allowed r x.tags) : Handled p c s (.fail f p)
  | done {r : Resource} {x : Label} {q : Place} (aims : target? s = some r) (there : p.label? r = some x)
      (allowed : c.Allowed r x.tags)
      (relabelled : ∀ r', q.label? r' = if r' = r then some ⟨x.arn, c.apply x.tags⟩ else p.label? r') :
      Handled p c s (.ok () q)

section

variable {σ ε : Type} [Fault ε] {p : Place} {c : Call} {s : String}

/-- What a service does not change counts as refused, whatever its error. -/
theorem Handled.of_fail {put : σ → Place} {b : σ} {o : Outcome σ ε Unit} {e : ε} (h : o = .fail e b)
    (same : put b = p) (why : ∀ r x, target? s = some r → p.label? r = some x → ¬c.Allowed r x.tags) :
    Handled p c s (((shared o).mapError .rejected).within put) := by
  rw [h, shared, Outcome.mapError_fail, Outcome.mapError_fail, Outcome.within_fail, same]
  exact .refused why

theorem Handled.of_ok {put : σ → Place} {b : σ} {o : Outcome σ ε Unit} (h : o = .ok () b) {r : Resource}
    {x : Label} (aims : target? s = some r) (there : p.label? r = some x) (allowed : c.Allowed r x.tags)
    (relabelled : ∀ r', (put b).label? r' = if r' = r then some ⟨x.arn, c.apply x.tags⟩ else p.label? r') :
    Handled p c s (((shared o).mapError .rejected).within put) := by
  rw [h, shared, Outcome.mapError_ok, Outcome.mapError_ok, Outcome.within_ok]
  exact .done aims there allowed relabelled

end

/-! ### Labels after a change of one service -/

section

variable (p : Place)

theorem label?_putPipeline (name : String) (q : Pipeline) (r : Resource) :
    Place.label? { p with pipelines := p.pipelines.put name q } r =
      if r = .pipeline name then some ⟨q.arn, some q.tags⟩ else p.label? r := by
  cases r with
  | pipeline name' =>
    simp only [Place.label?, Pipeline.Catalog.put, Store.get?_put, Resource.pipeline.injEq]
    split <;> rfl
  | _ => rfl

theorem label?_putTopic (arn : String) (t : Topic) (r : Resource) :
    Place.label? { p with topics := p.topics.put arn t } r =
      if r = .topic arn then some ⟨t.arn, some t.tags⟩ else p.label? r := by
  cases r with
  | topic arn' =>
    simp only [Place.label?, Topic.Board.put, Store.get?_put, Resource.topic.injEq]
    split <;> rfl
  | _ => rfl

theorem label?_putBucket (name : String) (b : Bucket) (r : Resource) :
    Place.label? { p with buckets := p.buckets.put name b } r =
      if r = .bucket name then some ⟨b.arn p.buckets.scope.partition, b.tags⟩ else p.label? r := by
  cases r with
  | bucket name' =>
    simp only [Place.label?, Bucket.Shelf.put, Store.get?_put, Resource.bucket.injEq]
    split <;> rfl
  | _ => rfl

/-- Tags that the network knows for an id are those of a resource. -/
theorem exists_label_of_tagsOf? {id : String} {tags : TagMap} (tagged : p.network.tagsOf? id = some tags) :
    ∃ kind arn, Network.Kind.ofId? id = some kind ∧ p.label? (.network kind id) = some ⟨arn, some tags⟩ := by
  obtain ⟨kind, own, told, held⟩ := (p.network.tagsOf?_eq_some_iff _).1 tagged
  refine ⟨kind, p.network.arn kind.name own, told, ?_⟩
  rw [Place.label?, held]
  rfl

theorem label?_changeTags {kind : Network.Kind} {id arn : String} {tags : TagMap}
    (told : Network.Kind.ofId? id = some kind) (there : p.label? (.network kind id) = some ⟨arn, some tags⟩)
    (f : TagMap → TagMap) (r : Resource) :
    Place.label? { p with network := p.network.changeTags id f } r =
      if r = .network kind id then some ⟨arn, some (f tags)⟩ else p.label? r := by
  cases r with
  | network kind' id' =>
    rw [Place.label?] at there
    simp only [Place.label?, Network.arn, Network.scope_changeTags, Network.held?_changeTags, told,
      Option.some.injEq, Resource.network.injEq]
    by_cases same : kind' = kind ∧ id' = id
    · obtain ⟨rfl, rfl⟩ := same
      obtain ⟨x, held, is⟩ := Option.map_eq_some_iff.1 there
      cases is
      simp [held]
      rfl
    · rw [if_neg same, if_neg fun h => same ⟨h.1.symm, h.2⟩]
  | _ => rfl

end

/-! ### The four services -/

section

variable (p : Place) (c : Call) {s : String}

theorem handle_pipelines (h : serviceName s = "codepipeline") : Handled p c s (p.handle c.operation s) := by
  have by_service : p.handle c.operation s =
      ((c.operation p.pipelines s).mapError .rejected).within ({ p with pipelines := · }) := by
    simp [Place.handle, h, TagKeeper.service]
  rw [by_service]
  have aims := target?_pipeline h
  cases c with
  | tag tags =>
    rcases Pipeline.Catalog.tag_cases p.pipelines s tags with ⟨e, fails, why⟩ | ⟨q, all, there, merged, ok⟩
    · refine .of_fail fails rfl ?_
      rintro r x aims' there ⟨⟨all, merged⟩, unique⟩
      cases aims.symm.trans aims'
      obtain ⟨q, hq, rfl⟩ := Option.map_eq_some_iff.1 there
      exact why q all hq (Pipeline.mergedTags_eq_ok_iff.2 ⟨unique _ rfl, merged⟩)
    · obtain ⟨unique, merged⟩ := Pipeline.mergedTags_eq_ok_iff.1 merged
      refine .of_ok ok aims (congrArg (Option.map _) there) ⟨⟨all, merged⟩, fun _ _ => unique⟩ fun r' => ?_
      rw [label?_putPipeline, Call.apply_tag (some q.tags) merged]
  | untag keys =>
    rcases Pipeline.Catalog.untag_cases p.pipelines s keys with ⟨e, fails, missing⟩ | ⟨q, there, ok⟩
    · refine .of_fail fails rfl fun r x aims' there => ?_
      cases aims.symm.trans aims'
      rw [Place.label?, missing] at there
      cases there
    · refine .of_ok ok aims (congrArg (Option.map _) there) trivial fun r' => ?_
      rw [label?_putPipeline]
      rfl

theorem handle_topics (h : serviceName s = "sns") : Handled p c s (p.handle c.operation s) := by
  have by_service : p.handle c.operation s =
      ((c.operation p.topics s).mapError .rejected).within ({ p with topics := · }) := by
    simp [Place.handle, h, TagKeeper.service]
  rw [by_service]
  have aims := target?_topic h
  cases c with
  | tag tags =>
    rcases Topic.Board.tag_cases p.topics s tags with ⟨e, fails, why⟩ | ⟨t, all, there, merged, ok⟩
    · refine .of_fail fails rfl ?_
      rintro r x aims' there ⟨⟨all, merged⟩, -⟩
      cases aims.symm.trans aims'
      obtain ⟨t, ht, rfl⟩ := Option.map_eq_some_iff.1 there
      exact why t all ht merged
    · refine .of_ok ok aims (congrArg (Option.map _) there) ⟨⟨all, merged⟩, nofun⟩ fun r' => ?_
      rw [label?_putTopic, Call.apply_tag (some t.tags) merged]
  | untag keys =>
    rcases Topic.Board.untag_cases p.topics s keys with ⟨e, fails, missing⟩ | ⟨t, there, ok⟩
    · refine .of_fail fails rfl fun r x aims' there => ?_
      cases aims.symm.trans aims'
      rw [Place.label?, missing] at there
      cases there
    · refine .of_ok ok aims (congrArg (Option.map _) there) trivial fun r' => ?_
      rw [label?_putTopic]
      rfl

theorem handle_network (h : serviceName s = "ec2") : Handled p c s (p.handle c.operation s) := by
  have by_service : p.handle c.operation s =
      ((c.operation p.network s).mapError .rejected).within ({ p with network := · }) := by
    simp [Place.handle, h, TagKeeper.service]
  rw [by_service]
  have aims := target?_network h
  have why {r : Resource} {x : Label} (aims' : target? s = some r) (there : p.label? r = some x) :
      ∃ tags, x.tags = some tags ∧ p.network.tagsOf? (networkId s) = some tags := by
    obtain ⟨kind, told, rfl⟩ := Option.map_eq_some_iff.1 (aims.symm.trans aims')
    obtain ⟨⟨own, tags⟩, held, rfl⟩ := Option.map_eq_some_iff.1 there
    exact ⟨tags, rfl, (p.network.tagsOf?_eq_some_iff _).2 ⟨kind, own, told, held⟩⟩
  cases c with
  | tag tags =>
    rcases p.network.createTags_one_cases (networkId s) tags with ⟨e, fails, no⟩ | ⟨old, all, tagged, merged, ok⟩
    · refine .of_fail fails rfl ?_
      rintro r x aims' there ⟨⟨all, merged⟩, -⟩
      obtain ⟨old, tags, tagged⟩ := why aims' there
      rw [tags] at merged
      exact no old all tagged merged
    · obtain ⟨kind, arn, told, there⟩ := exists_label_of_tagsOf? p tagged
      refine .of_ok ok (by rw [aims, told]; rfl) there ⟨⟨all, merged⟩, nofun⟩ fun r' => ?_
      rw [label?_changeTags p told there, Call.apply_tag (some old) merged]
  | untag keys =>
    rcases p.network.deleteTags_one_cases (networkId s) (keys.map fun key => ⟨key, none⟩) with
      ⟨e, fails, missing⟩ | ⟨old, tagged, ok⟩
    · refine .of_fail fails rfl fun r x aims' there => ?_
      obtain ⟨old, -, tagged⟩ := why aims' there
      cases missing.symm.trans tagged
    · obtain ⟨kind, arn, told, there⟩ := exists_label_of_tagsOf? p tagged
      refine .of_ok ok (by rw [aims, told]; rfl) there trivial fun r' => ?_
      rw [label?_changeTags p told there, Network.foldl_removals]
      rfl

theorem handle_eq_onBucket (h : serviceName s = "s3") :
    p.handle c.operation s =
      ((onBucket p.buckets s (c.onBucket p.buckets)).mapError .rejected).within ({ p with buckets := · }) := by
  simp [Place.handle, h, TagKeeper.service, Call.operation_buckets]

theorem handle_buckets (h : serviceName s = "s3") : Handled p c s (p.handle c.operation s) := by
  rw [handle_eq_onBucket p c h, onBucket]
  have aims := target?_bucket h
  cases named : Bucket.nameOfArn? s with
  | none =>
    refine .refused fun r x aims' => ?_
    rw [aims, named] at aims'
    cases aims'
  | some name =>
    rw [named, Option.map_some] at aims
    cases c with
    | tag tags =>
      dsimp only [Call.onBucket]
      rcases p.buckets.changeTags_cases name _ with ⟨e, fails, why⟩ | ⟨b, new, there, is, ok⟩
      · refine .of_fail fails rfl ?_
        rintro r x aims' there ⟨⟨all, merged⟩, -⟩
        cases aims.symm.trans aims'
        obtain ⟨b, hb, rfl⟩ := Option.map_eq_some_iff.1 there
        exact why b (some all) hb (by rw [merged]; rfl)
      · cases merged : TagPolicy.standard.merged (b.tags.getD .empty) (.ofTags tags) with
        | error v => rw [merged] at is; cases is
        | ok all =>
          rw [merged] at is
          cases is
          refine .of_ok ok aims (congrArg (Option.map _) there) ⟨⟨all, merged⟩, nofun⟩ fun r' => ?_
          rw [label?_putBucket, Call.apply_tag b.tags merged]
          rfl
    | untag keys =>
      dsimp only [Call.onBucket]
      rcases p.buckets.changeTags_cases name _ with ⟨e, fails, why⟩ | ⟨b, new, there, is, ok⟩
      · refine .of_fail fails rfl fun r x aims' there => ?_
        cases aims.symm.trans aims'
        obtain ⟨b, hb, rfl⟩ := Option.map_eq_some_iff.1 there
        exact absurd rfl (why b _ hb)
      · cases is
        refine .of_ok ok aims (congrArg (Option.map _) there) trivial fun r' => ?_
        rw [label?_putBucket]
        rfl

/-- **One change by name.** -/
theorem handle_handled (s : String) : Handled p c s (p.handle c.operation s) := by
  by_cases pipelines : serviceName s = "codepipeline"
  · exact handle_pipelines p c pipelines
  by_cases network : serviceName s = "ec2"
  · exact handle_network p c network
  by_cases topics : serviceName s = "sns"
  · exact handle_topics p c topics
  by_cases buckets : serviceName s = "s3"
  · exact handle_buckets p c buckets
  -- no service stands for the name
  have unsupported : p.handle c.operation s = .fail (.unsupported (serviceName s)) p := by
    simp [Place.handle, pipelines, network, topics, buckets, TagKeeper.service]
  rw [unsupported]
  refine .refused fun r x aims => ?_
  simp [target?, pipelines, network, topics, buckets] at aims

end

end MockCloud.Tagging
