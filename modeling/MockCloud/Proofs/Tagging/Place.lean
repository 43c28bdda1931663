import MockCloud.Config
import MockCloud.Proofs.Bucket.Naming
import MockCloud.Proofs.Bucket.Operation
import MockCloud.Proofs.Network.Filing
import MockCloud.Proofs.Pipeline.Addressing
import MockCloud.Proofs.Topic.Operation
import MockCloud.Tagging

/-! # The resources of a place

Seen from the tags, a place is a collection of resources of four services. Each has a resource name of its
own and a map of tags (`label?`), and each text stands for at most one of them (`target?`), whether that is
the resource's own name or not.

* `Reachable`: the backends of a place after any runs of their operations.
* `target?_own`: the own name of a resource stands for it, unless it is a pipeline with a colon in its
  name. -/

namespace MockCloud

/-- The place that a configuration means. -/
def Config.scope (c : Config) : Scope :=
  { account := c.account, region := c.region }

/-- The place of the buckets, which all regions of an account share. -/
def Config.globalScope (c : Config) : Scope :=
  { account := c.account, region := globalRegion }

/-- The place has parts that a resource name may hold. -/
def Scope.Plain (s : Scope) : Prop :=
  ':' ∉ s.partition.toList ∧ ':' ∉ s.region.toList ∧ ':' ∉ s.account.toList

theorem Config.plain_scope {c : Config} (h : c.validate = .ok ()) : c.scope.Plain := by
  obtain ⟨account, region⟩ := colon_not_mem_of_validate h
  exact ⟨(by decide : ':' ∉ "aws".toList), region, account⟩

theorem Scope.Plain.parse?_arn {s : Scope} (h : s.Plain) {service : String} (hs : ':' ∉ service.toList)
    (resource : String) :
    Arn.parse? (s.arn service resource) = some ⟨s.partition, service, s.region, s.account, resource⟩ :=
  Arn.parse?_render ⟨h.1, hs, h.2.1, h.2.2⟩

namespace Tagging

/-- A resource that carries tags, by the key that its service keeps it under. -/
inductive Resource where
  | pipeline (name : String)
  | network (kind : Network.Kind) (id : String)
  | topic (arn : String)
  | bucket (name : String)
  deriving DecidableEq

/-- The own name of a resource and its tags. A bucket may have no tags in a way of its own. -/
structure Label where
  arn : String
  tags : Option TagMap

/-- The resource that a text stands for. -/
def target? (s : String) : Option Resource :=
  if serviceName s = "codepipeline" then some (.pipeline (Pipeline.nameOfArn s))
  else if serviceName s = "ec2" then
    (Network.Kind.ofId? (networkId s)).map fun kind => .network kind (networkId s)
  else if serviceName s = "sns" then some (.topic s)
  else if serviceName s = "s3" then (Bucket.nameOfArn? s).map .bucket
  else none

section

variable {s : String}

theorem target?_pipeline (h : serviceName s = "codepipeline") :
    target? s = some (.pipeline (Pipeline.nameOfArn s)) := by
  simp [target?, h]

theorem target?_network (h : serviceName s = "ec2") :
    target? s = (Network.Kind.ofId? (networkId s)).map fun kind => .network kind (networkId s) := by
  simp [target?, h]

theorem target?_topic (h : serviceName s = "sns") : target? s = some (.topic s) := by
  simp [target?, h]

theorem target?_bucket (h : serviceName s = "s3") : target? s = (Bucket.nameOfArn? s).map .bucket := by
  simp [target?, h]

end

namespace Place

/-- The own name and the tags of a resource, if the place has it. -/
def label? (p : Place) : Resource → Option Label
  | .pipeline name => (p.pipelines.pipelines.get? name).map fun r => ⟨r.arn, some r.tags⟩
  | .network kind id => (p.network.held? kind id).map fun x => ⟨p.network.arn kind.name x.1, some x.2⟩
  | .topic arn => (p.topics.topics.get? arn).map fun t => ⟨t.arn, some t.tags⟩
  | .bucket name => (p.buckets.buckets.get? name).map fun b => ⟨b.arn p.buckets.scope.partition, b.tags⟩

/-- The backends of the place have come about by runs of their operations. -/
structure Reachable (c : Config) (p : Place) : Prop where
  pipelines : ∃ ops, p.pipelines = (Pipeline.Catalog.blank c.scope).run ops
  network : ∃ ops, p.network = (Network.blank c.scope).run ops
  topics : ∃ ops, p.topics = (Topic.Board.blank c.scope).run ops
  buckets : ∃ ops, p.buckets = (Bucket.Shelf.blank c.globalScope).run ops

/-- Every resource stands where its name or id says. -/
structure Filed (c : Config) (p : Place) : Prop where
  pipelines : p.pipelines.Filed c.scope
  network : p.network.Filed c.scope
  topics : p.topics.Filed c.scope
  buckets : p.buckets.Filed c.globalScope

theorem Reachable.filed {c : Config} {p : Place} (h : p.Reachable c) : p.Filed c := by
  obtain ⟨⟨a, ha⟩, ⟨n, hn⟩, ⟨t, ht⟩, ⟨b, hb⟩⟩ := h
  refine ⟨?_, ?_, ?_, ?_⟩
  · rw [ha]; exact (Pipeline.Catalog.filed_blank _).run a
  · rw [hn]; exact (Network.filed_blank _).run n
  · rw [ht]; exact (Topic.Board.filed_blank _).run t
  · rw [hb]; exact (Bucket.Shelf.filed_blank _).run b

end Place

/-! ### Own names -/

theorem serviceName_of_parse? {x : String} {a : Arn} (read : Arn.parse? x = some a) : serviceName x = a.service := by
  rw [serviceName, read]

theorem serviceName_arn {s : Scope} (h : s.Plain) {service : String} (hs : ':' ∉ service.toList)
    (resource : String) : serviceName (s.arn service resource) = service :=
  serviceName_of_parse? (h.parse?_arn hs resource)

/-- The kind stands in front of the first slash of the resource. -/
theorem cutFirst_network (kind : Network.Kind) (id : String) :
    Text.cutFirst (fun c => c = '/' || c = ':') (kind.name ++ "/" ++ id).toList =
      some (kind.name.toList, id.toList) := by
  have layout : (kind.name ++ "/" ++ id).toList = kind.name.toList ++ '/' :: id.toList := by simp
  have plain : (kind.name.toList.any fun c => c = '/' || c = ':') = false := by
    cases kind <;> rfl
  rw [layout]
  exact Text.cutFirst_append (fun c hc => Bool.eq_false_iff.2 (List.any_eq_false.1 plain c hc)) rfl

theorem networkId_arn {s : Scope} (h : s.Plain) (kind : Network.Kind) (id : String) :
    networkId (s.arn "ec2" (kind.name ++ "/" ++ id)) = id := by
  have parsed := h.parse?_arn (by decide : ':' ∉ "ec2".toList) (kind.name ++ "/" ++ id)
  simp only [networkId, parsed, Arn.resourceName, Arn.cut?, cutFirst_network, Option.map_some, Option.getD_some,
    String.ofList_toList]

theorem serviceName_bucket (b : Bucket) {part : String} (h : ':' ∉ part.toList) :
    serviceName (b.arn part) = "s3" :=
  serviceName_of_parse? (b.parse?_arn h)

/-- The own name of a resource stands for it. -/
theorem Place.Filed.target?_own {c : Config} {p : Place} (h : p.Filed c) (valid : c.validate = .ok ())
    {r : Resource} {x : Label} (there : p.label? r = some x)
    (plain : ∀ name, r = .pipeline name → ':' ∉ name.toList) : target? x.arn = some r := by
  have place := Config.plain_scope valid
  cases r with
  | pipeline name =>
    obtain ⟨q, hq, rfl⟩ := Option.map_eq_some_iff.1 there
    obtain ⟨-, arn⟩ := h.pipelines.each name q hq
    dsimp only
    rw [arn, target?_pipeline (serviceName_arn place (by decide) name), Pipeline.nameOfArn_arn,
      Pipeline.nameOfArn_eq_self_iff.2 (plain name rfl)]
  | network kind id =>
    obtain ⟨⟨own, tags⟩, hr, rfl⟩ := Option.map_eq_some_iff.1 there
    obtain ⟨rfl, told⟩ := h.network.titled hr
    dsimp only [Network.arn]
    rw [h.network.home, target?_network (serviceName_arn place (by decide) _), networkId_arn place, told]
    rfl
  | topic arn =>
    obtain ⟨t, ht, rfl⟩ := Option.map_eq_some_iff.1 there
    obtain ⟨own, arn, -⟩ := h.topics.each arn t ht
    dsimp only
    rw [own, arn, target?_topic (serviceName_arn place (by decide) t.name)]
  | bucket name =>
    obtain ⟨b, hb, rfl⟩ := Option.map_eq_some_iff.1 there
    obtain ⟨rfl, legal⟩ := h.buckets.each name b hb
    have part : ':' ∉ p.buckets.scope.partition.toList := by
      rw [h.buckets.home]
      exact (by decide : ':' ∉ "aws".toList)
    dsimp only
    rw [target?_bucket (serviceName_bucket b part), Bucket.nameOfArn?_arn legal part]
    rfl

end Tagging

end MockCloud
