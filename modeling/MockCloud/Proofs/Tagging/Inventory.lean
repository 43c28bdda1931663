import Mathlib.Data.List.Nodup
import MockCloud.Proofs.Tag.Rules
import MockCloud.Proofs.Tagging.Place

/-! # What the services say about their tags

A listing is made of what four services say about their tags: each goes through its stores and names the resources
that have some. No two resources have one resource name, whatever they are called: the service is a part of the
name, and within a service the rest of it tells them apart. So what the services say names each resource with tags
once.

* `arn_eq_own`: the own name of a resource is told by the resource.
* `own_inj`: resources are told apart by their own names.
* `tagged_eq`: the services go through the resources of the place.
* `mem_tagged_iff`, `nodup_tagged`: they name those with tags, and no name comes twice. -/

namespace MockCloud

/-! ### Own names -/

theorem Network.Kind.eq_of_name {kind kind' : Kind} (same : kind.name = kind'.name) : kind = kind' := by
  cases kind <;> cases kind' <;> first | rfl | exact absurd same (by decide)

namespace Tagging

/-- A kind and an id can be read off the resource that they name. -/
theorem name_append_inj {kind kind' : Network.Kind} {id id' : String}
    (same : kind.name ++ "/" ++ id = kind'.name ++ "/" ++ id') : kind = kind' ∧ id = id' := by
  have cut := cutFirst_network kind id
  rw [same, cutFirst_network, Option.some.injEq, Prod.mk.injEq, String.toList_inj, String.toList_inj] at cut
  exact ⟨(Network.Kind.eq_of_name cut.1).symm, cut.2.symm⟩

/-- The service of a resource. -/
def Resource.service : Resource → String
  | .pipeline _ => "codepipeline"
  | .network .. => "ec2"
  | .topic _ => "sns"
  | .bucket _ => "s3"

/-- The name that a resource goes by in all services. A topic is kept under it, and the others have an id for it. -/
def Resource.own (c : Config) : Resource → String
  | .pipeline name => c.scope.arn "codepipeline" name
  | .network kind id => c.scope.arn "ec2" (kind.name ++ "/" ++ id)
  | .topic arn => arn
  | .bucket name => "arn:aws:s3:::" ++ name

namespace Place

section

variable {c : Config} {p : Place} {r r' : Resource} {x x' : Label}

/-- The own name of a resource is told by the resource. -/
theorem Filed.arn_eq_own (h : p.Filed c) (there : p.label? r = some x) : x.arn = r.own c := by
  cases r with
  | pipeline name =>
    obtain ⟨q, hq, rfl⟩ := Option.map_eq_some_iff.1 there
    exact (h.pipelines.each name q hq).2
  | network kind id =>
    obtain ⟨⟨own, tags⟩, hy, rfl⟩ := Option.map_eq_some_iff.1 there
    obtain ⟨rfl, -⟩ := h.network.titled hy
    show p.network.scope.arn "ec2" _ = _
    rw [h.network.home]
    rfl
  | topic arn =>
    obtain ⟨t, ht, rfl⟩ := Option.map_eq_some_iff.1 there
    exact (h.topics.each arn t ht).1
  | bucket name =>
    obtain ⟨b, hb, rfl⟩ := Option.map_eq_some_iff.1 there
    obtain ⟨rfl, -⟩ := h.buckets.each name b hb
    show b.arn p.buckets.scope.partition = _
    rw [h.buckets.home]
    rfl

/-- The own name of a resource is one of its service. -/
theorem Filed.exists_render (h : p.Filed c) (there : p.label? r = some x) :
    ∃ a : Arn, a.render = x.arn ∧ a.partition = "aws" ∧ a.service = r.service := by
  cases r with
  | pipeline name => exact ⟨_, (h.arn_eq_own there).symm, rfl, rfl⟩
  | network kind id => exact ⟨_, (h.arn_eq_own there).symm, rfl, rfl⟩
  | topic arn =>
    obtain ⟨t, ht, rfl⟩ := Option.map_eq_some_iff.1 there
    obtain ⟨own, is, -⟩ := h.topics.each arn t ht
    exact ⟨_, (own.trans is).symm, rfl, rfl⟩
  | bucket name =>
    obtain ⟨b, -, rfl⟩ := Option.map_eq_some_iff.1 there
    exact ⟨_, (Bucket.arn_eq_render b _).symm, by rw [h.buckets.home]; rfl, rfl⟩

/-- **Resources are told apart by their own names.** -/
theorem Filed.own_inj (h : p.Filed c) (there : p.label? r = some x) (there' : p.label? r' = some x')
    (same : x.arn = x'.arn) : r = r' := by
  obtain ⟨a, ha, part, service⟩ := h.exists_render there
  obtain ⟨a', ha', part', service'⟩ := h.exists_render there'
  have plain (r : Resource) : ':' ∉ r.service.toList := by
    cases r <;> simp [Resource.service]
  have one := Arn.service_of_render_eq (ha.trans (same.trans ha'.symm)) (part.trans part'.symm)
    (service ▸ plain r) (service' ▸ plain r')
  rw [service, service'] at one
  rw [h.arn_eq_own there, h.arn_eq_own there'] at same
  -- resources of two services are told apart by the services alone
  cases r <;> cases r' <;> try simp [Resource.service] at one
  case pipeline.pipeline => exact congrArg Resource.pipeline (Scope.arn_inj.1 same)
  case network.network =>
    obtain ⟨rfl, rfl⟩ := name_append_inj (Scope.arn_inj.1 same)
    rfl
  case topic.topic => exact congrArg Resource.topic same
  case bucket.bucket => exact congrArg Resource.bucket ((String.append_right_inj _).1 same)

end

/-! ### The resources of a place -/

/-- All resources, in the order in which the services go through them. -/
def inventory (p : Place) : List Resource :=
  p.pipelines.pipelines.ids.map .pipeline ++
    (Network.Kind.all.flatMap fun kind => (p.network.ids kind).map (.network kind)) ++
    p.topics.topics.ids.map .topic ++ p.buckets.buckets.ids.map .bucket

/-- Resources of different sorts or under different ids are different. -/
theorem nodup_inventory (p : Place) : p.inventory.Nodup := by
  have ids {α κ : Type} (s : Store α κ) {named : String → Resource} (inj : ∀ id id', named id = named id' → id = id') :
      (s.ids.map named).Nodup :=
    List.Nodup.map (fun id id' => inj id id') (SortedMap.nodup_keys s.items)
  have kinds : (Network.Kind.all.flatMap fun kind => (p.network.ids kind).map (Resource.network kind)).Nodup := by
    refine List.nodup_flatMap.2 ⟨fun kind _ => ?_, ?_⟩
    · exact (Network.nodup_ids p.network kind).map fun _ _ => by simp
    · refine List.Pairwise.imp (fun {kind kind'} ne r there there' => ?_) (by decide : Network.Kind.all.Nodup)
      obtain ⟨_, -, rfl⟩ := List.mem_map.1 there
      obtain ⟨_, -, same⟩ := List.mem_map.1 there'
      cases same
      exact ne rfl
  unfold inventory
  refine ((ids _ (by simp)).append kinds ?_).append (ids _ (by simp)) ?_ |>.append (ids _ (by simp)) ?_
  all_goals
    intro r there there'
    simp only [List.mem_append, List.mem_map, List.mem_flatMap] at there there'
    cases r <;> simp at there there'

theorem mem_inventory {p : Place} {r : Resource} {x : Label} (there : p.label? r = some x) : r ∈ p.inventory := by
  have ids {α κ : Type} {s : Store α κ} {id : String} {f : α → Label} (there : (s.get? id).map f = some x) :
      id ∈ s.ids := by
    obtain ⟨a, ha, -⟩ := Option.map_eq_some_iff.1 there
    exact SortedMap.mem_keys_iff.2 ⟨a, ha⟩
  simp only [inventory, List.mem_append, List.mem_map, List.mem_flatMap]
  cases r with
  | pipeline name => exact .inl (.inl (.inl ⟨name, ids there, rfl⟩))
  | network kind id =>
    obtain ⟨y, held, -⟩ := Option.map_eq_some_iff.1 there
    exact .inl (.inl (.inr ⟨kind, kind.mem_all, id, Network.mem_ids_iff.2 ⟨y, held⟩, rfl⟩))
  | topic arn => exact .inl (.inr ⟨arn, ids there, rfl⟩)
  | bucket name => exact .inr ⟨name, ids there, rfl⟩

end Place

/-- What a service says of a resource with this label: nothing, if it has no tags. -/
def Label.said? (x : Label) : Option Tagged :=
  (x.tags.filter fun tags => !tags.isEmpty).map fun tags => (x.arn, tags)

theorem Label.said?_some (arn : String) (tags : TagMap) :
    Label.said? ⟨arn, some tags⟩ = if !tags.isEmpty then some (arn, tags) else none := by
  cases h : tags.isEmpty <;> simp [said?, Option.filter, h]

namespace Place

/-- What is said of a resource of the place. -/
def said? (p : Place) (r : Resource) : Option Tagged :=
  (p.label? r).bind Label.said?

section

variable (p : Place)

/-- A service goes through what it stores, or through the ids under which it is stored. -/
theorem filterMap_store {α κ : Type} (s : Store α κ) (named : String → Resource) {seen : α → Label}
    (labelled : ∀ id, p.label? (named id) = (s.get? id).map seen) :
    s.values.filterMap (fun a => (seen a).said?) = (s.ids.map named).filterMap p.said? := by
  rw [Store.filterMap_values, List.filterMap_map]
  refine List.filterMap_congr fun id _ => ?_
  rw [Function.comp_apply, said?, labelled, Option.bind_map]
  rfl

theorem tagged_pipelines :
    TagKeeper.tagged p.pipelines = (p.pipelines.pipelines.ids.map .pipeline).filterMap p.said? := by
  rw [← p.filterMap_store p.pipelines.pipelines .pipeline fun _ => rfl]
  simp only [Label.said?_some]
  show (p.pipelines.pipelines.values.filter _).map _ = _
  rw [← List.filterMap_eq_map, List.filterMap_filter]
  rfl

theorem tagged_network :
    TagKeeper.tagged p.network =
      (Network.Kind.all.flatMap fun kind => (p.network.ids kind).map (.network kind)).filterMap p.said? := by
  show (p.network.labelled.filter _).map _ = _
  rw [← List.filterMap_eq_map, List.filterMap_filter, p.network.labelled_eq, List.filterMap_flatMap,
    List.filterMap_flatMap]
  refine List.flatMap_congr fun kind _ => ?_
  rw [List.filterMap_filterMap, List.filterMap_map]
  refine List.filterMap_congr fun id _ => ?_
  rw [Function.comp_apply, said?, label?]
  cases p.network.held? kind id with
  | none => rfl
  | some x => exact (Label.said?_some _ _).symm

theorem tagged_topics : TagKeeper.tagged p.topics = (p.topics.topics.ids.map .topic).filterMap p.said? := by
  rw [← p.filterMap_store p.topics.topics .topic fun _ => rfl]
  simp only [Label.said?_some]
  show (p.topics.topics.values.filter _).map _ = _
  rw [← List.filterMap_eq_map, List.filterMap_filter]
  rfl

theorem tagged_buckets : TagKeeper.tagged p.buckets = (p.buckets.buckets.ids.map .bucket).filterMap p.said? := by
  rw [← p.filterMap_store p.buckets.buckets .bucket fun _ => rfl]
  refine List.filterMap_congr fun b _ => ?_
  cases b.tags with
  | none => rfl
  | some tags => cases h : tags.isEmpty <;> simp [h, Label.said?_some]

/-- **The services go through the resources of the place.** -/
theorem tagged_eq : p.tagged = p.inventory.filterMap p.said? := by
  rw [tagged, tagged_pipelines, tagged_network, tagged_topics, tagged_buckets, inventory, List.filterMap_append,
    List.filterMap_append, List.filterMap_append]

end

/-- The resource has this own name and these tags, of which there is at least one. -/
def Carries (p : Place) (r : Resource) (arn : String) (tags : TagMap) : Prop :=
  p.label? r = some ⟨arn, some tags⟩ ∧ ∃ key value, tags.get? key = some value

theorem said?_eq_some_iff {p : Place} {r : Resource} {arn : String} {tags : TagMap} :
    p.said? r = some (arn, tags) ↔ p.Carries r arn tags := by
  rw [said?, Carries, ← SortedMap.not_isEmpty_iff]
  rcases p.label? r with _ | ⟨own, _ | all⟩
  · simp
  · simp [Label.said?]
  · simp only [Option.bind_some, Label.said?_some, Option.ite_none_right_eq_some, Option.some.injEq, Prod.mk.injEq,
      Label.mk.injEq]
    constructor
    · rintro ⟨nonempty, rfl, rfl⟩
      exact ⟨⟨rfl, rfl⟩, nonempty⟩
    · rintro ⟨⟨rfl, rfl⟩, nonempty⟩
      exact ⟨nonempty, rfl, rfl⟩

/-- **The services name the resources with tags**, those and no others. -/
theorem mem_tagged_iff {p : Place} {arn : String} {tags : TagMap} :
    (arn, tags) ∈ p.tagged ↔ ∃ r, p.Carries r arn tags := by
  simp only [tagged_eq, List.mem_filterMap, said?_eq_some_iff]
  exact ⟨fun ⟨r, _, carries⟩ => ⟨r, carries⟩, fun ⟨r, carries⟩ => ⟨r, mem_inventory carries.1, carries⟩⟩

/-- **No name comes twice.** -/
theorem Filed.nodup_tagged {c : Config} {p : Place} (h : p.Filed c) : (p.tagged.map Prod.fst).Nodup := by
  rw [tagged_eq]
  refine List.pairwise_map.2 (List.pairwise_filterMap.2 (p.nodup_inventory.imp fun ne said hs said' hs' same => ?_))
  exact ne (h.own_inj (said?_eq_some_iff.1 hs).1 (said?_eq_some_iff.1 hs').1 same)

end Place

end Tagging

end MockCloud
