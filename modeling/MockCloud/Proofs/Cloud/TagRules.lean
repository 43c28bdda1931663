import MockCloud.Proofs.Cloud.Operation
import MockCloud.Proofs.Tag.Services

/-! # The tags of a cloud

Whatever is done with a cloud, in whatever order and at whatever sites, every collection of tags that it
stores keeps the rules, because each service sees to it for its own operations.

* `Cloud.tags`: all collections of tags that a cloud stores.
* `tags_legal`: they keep the rules after every run. -/

namespace MockCloud

namespace CloudService

/-- The tags that a backend stores keep the rules. -/
def LegalTags : (k : CloudService) → k.State → Prop
  | .roles => Role.Directory.LegalTags
  | .topics => Topic.Board.LegalTags
  | .pipelines => Pipeline.Catalog.LegalTags
  | .network => Network.LegalTags
  | .mail => Mail.Office.LegalTags
  | .buckets => Bucket.Shelf.LegalTags

/-- The collections of tags that a backend stores. -/
def tags : (k : CloudService) → k.State → List (List Tag)
  | .roles => fun (d : Role.Directory) => d.roles.values.map fun r => r.tags.toTags
  | .topics => fun (b : Topic.Board) => b.topics.values.map fun t => t.tags.toTags
  | .pipelines => fun (c : Pipeline.Catalog) => c.pipelines.values.map fun p => p.tags.toTags
  | .network => fun (n : Network) => n.labelled.map fun (_, _, tags) => tags.toTags
  | .mail => fun (o : Mail.Office) => o.configurationSets.sets.values.map fun s => s.options.tags
  | .buckets => fun (s : Bucket.Shelf) => s.buckets.values.filterMap fun b => b.tags.map TagMap.toTags

theorem legalTags_new (k : CloudService) (scope : Scope) : k.LegalTags (Backend.new scope) := by
  cases k with
  | network => constructor <;> exact Store.each_new _ _
  | _ => exact Store.each_new _ _

theorem legalKeys_toTags {m : TagMap} (h : m.Legal) : LegalKeys (m.toTags.map Tag.key) :=
  m.map_key_toTags ▸ h

theorem legal_of_mem_labelled {n : Network} (h : n.LegalTags) {id : String} {kind : Network.Kind}
    {tags : TagMap} (there : (id, kind, tags) ∈ n.labelled) : tags.Legal := by
  simp only [Network.labelled, List.mem_append, List.mem_map, Store.mem_values_iff] at there
  rcases there with (((⟨r, ⟨key, hr⟩, ⟨⟩⟩ | ⟨r, ⟨key, hr⟩, ⟨⟩⟩) | ⟨r, ⟨key, hr⟩, ⟨⟩⟩) | ⟨r, ⟨key, hr⟩, ⟨⟩⟩) |
    ⟨r, ⟨key, hr⟩, ⟨⟩⟩
  · exact h.vpcs key r hr
  · exact h.subnets key r hr
  · exact h.acls key r hr
  · exact h.gateways key r hr
  · exact h.addresses key r hr

theorem legalKeys_of_mem_tags {k : CloudService} {b : k.State} (h : k.LegalTags b) {tags : List Tag}
    (mem : tags ∈ k.tags b) : LegalKeys (tags.map Tag.key) := by
  cases k with
  | network =>
    obtain ⟨⟨id, kind, m⟩, there, rfl⟩ := List.mem_map.1 mem
    exact legalKeys_toTags (legal_of_mem_labelled h there)
  | mail =>
    obtain ⟨set, among, rfl⟩ := List.mem_map.1 mem
    obtain ⟨name, there⟩ := Store.mem_values_iff.1 among
    exact h name set there
  | buckets =>
    obtain ⟨bucket, among, some⟩ := List.mem_filterMap.1 mem
    obtain ⟨m, tagged, rfl⟩ := Option.map_eq_some_iff.1 some
    obtain ⟨name, there⟩ := Store.mem_values_iff.1 among
    exact legalKeys_toTags (h name bucket there m tagged)
  | _ =>
    obtain ⟨r, among, rfl⟩ := List.mem_map.1 mem
    obtain ⟨id, there⟩ := Store.mem_values_iff.1 among
    exact legalKeys_toTags (h id r there)

end CloudService

namespace Cloud

/-- All collections of tags that the cloud stores. The tags in the filters of lifecycle rules are not among
them: they say which objects a rule is for. -/
def tags (c : Cloud) : List (List Tag) :=
  [CloudService.roles, .topics, .pipelines, .network, .mail, .buckets].flatMap fun k =>
    (Hosted.registry c : Registry k.State).toList.flatMap fun (_, _, b) => k.tags b

/-- The tags that the backends of a cloud store keep the rules. -/
def LegalTags (c : Cloud) : Prop :=
  ∀ k : CloudService, (Hosted.registry c : Registry k.State).Every k.LegalTags

theorem kept_legalTags : Rule.Kept fun k _ => k.LegalTags where
  new := CloudService.legalTags_new
  roles _ _ op h := Role.Directory.LegalTags.step h op
  topics _ _ op h := Topic.Board.LegalTags.step h op
  pipelines _ _ op h := Pipeline.Catalog.LegalTags.step h op
  network _ _ op h := Network.LegalTags.step h op
  post _ _ op mail topics := Mail.Post.LegalTags.step ⟨mail, topics⟩ op
  buckets _ _ op h := Bucket.Shelf.LegalTags.step h op

theorem legalTags_run (config : Config) (steps : List (Step Op)) :
    (run { config } (steps.map (Step.map Op.call))).LegalTags :=
  (obeys_empty _ config).run kept_legalTags steps

theorem LegalTags.legalKeys {c : Cloud} (h : c.LegalTags) {tags : List Tag} (there : tags ∈ c.tags) :
    LegalKeys (tags.map Tag.key) := by
  obtain ⟨k, -, there⟩ := List.mem_flatMap.1 there
  obtain ⟨⟨account, region, b⟩, found, there⟩ := List.mem_flatMap.1 there
  exact CloudService.legalKeys_of_mem_tags ((h k).of_mem_toList found) there

/-- **All tags keep the rules.** After any run of operations of all services at any sites, tagging calls and
resets, each collection of tags that is stored has at most fifty keys, each once, and none of them is empty
or begins with `aws:`. -/
theorem tags_legal (config : Config) (steps : List (Step Op)) :
    ∀ tags ∈ (run { config } (steps.map (Step.map Op.call))).tags, LegalKeys (tags.map Tag.key) :=
  fun _ there => (legalTags_run config steps).legalKeys there

/-- A topic and a bucket get their tags by one tagging call, a configuration set is made with its own, and the
topic may not have a reserved key. -/
def taggedRun : List (Step Op) :=
  let s : Site := ⟨"123456789012", "us-east-1"⟩
  let team : List Tag := [⟨"team", "core"⟩]
  let alerts := "arn:aws:sns:us-east-1:123456789012:alerts"
  [.call s (.topics (.create "alerts" {})), .call s (.buckets (.create "logs" "us-east-1" ⟨0, 0⟩)),
    .call s (.tagging (.change (.tag team) [alerts, "arn:aws:s3:::logs"])),
    .call s (.mail (.office (.configuration (.create "set" { tags := team })))),
    .call s (.topics (.tag alerts [⟨"aws:team", "core"⟩]))]

theorem tags_legal_team :
    (run {} (taggedRun.map (Step.map Op.call))).tags =
        [[⟨"team", "core"⟩], [⟨"team", "core"⟩], [⟨"team", "core"⟩]] ∧
      LegalKeys (List.map Tag.key [⟨"team", "core"⟩]) := by
  have all : (run {} (taggedRun.map (Step.map Op.call))).tags =
      [[⟨"team", "core"⟩], [⟨"team", "core"⟩], [⟨"team", "core"⟩]] := by
    rfl
  refine ⟨all, tags_legal {} taggedRun _ ?_⟩
  rw [all]
  exact List.mem_cons_self

end Cloud

end MockCloud
