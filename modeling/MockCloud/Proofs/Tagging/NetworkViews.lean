import MockCloud.Proofs.Network.TagListing
import MockCloud.Proofs.Tagging.Inventory

/-! # The views of the tags of a network

The tags of a network are seen in three ways. A listing has an entry for each tag. A list of the resources with tags
names them by resource names, into which a kind and an id are put. And a change of tags by such a name takes the id out
again and finds the resource by the kind that the id tells. All three speak of the same resources.

* `Network.Filed.mem_tagged_iff`, `Network.Filed.nodup_tagged`: the resources with tags, each under a name of its own.
* `Reaches n arn kind id old`: what is done to the tags behind the name is done to those of the resource.
* `reaches_own`: so it is for the own name of a resource.
* `network_views_agree`: the three views after every run. -/

namespace MockCloud

namespace Network.Filed

variable {scope : Scope} {n : Network} (h : Filed scope n)
include h

/-- The list of tagged resources names those that have a tag, and no others. -/
theorem mem_tagged_iff {arn : String} {tags : TagMap} : (arn, tags) ∈ n.tagged ↔
    ∃ kind id, n.held? kind id = some (id, tags) ∧ arn = n.arn kind.name id ∧
      ∃ key value, tags.get? key = some value := by
  unfold tagged
  rw [List.mem_map]
  constructor
  · rintro ⟨⟨id, kind, tags⟩, listed, same⟩
    cases same
    obtain ⟨listed, some⟩ := List.mem_filter.1 listed
    exact ⟨kind, id, h.mem_labelled_iff.1 listed, rfl, SortedMap.not_isEmpty_iff.1 some⟩
  · rintro ⟨kind, id, held, rfl, some⟩
    exact ⟨(id, kind, tags), List.mem_filter.2 ⟨h.mem_labelled_iff.2 held, SortedMap.not_isEmpty_iff.2 some⟩, rfl⟩

/-- No two of them have one resource name. -/
theorem nodup_tagged : (n.tagged.map Prod.fst).Nodup := by
  unfold tagged
  rw [List.map_map]
  refine List.pairwise_map.2 ((h.pairwise_labelled.filter _).imp fun ne same => ne ?_)
  exact (Tagging.name_append_inj (Scope.arn_inj.1 same)).2

end Network.Filed

namespace Tagging

open Network (Kind)

/-- A change of the tags behind the name is handed to the network, which makes it on this resource, whose tags are `old`,
and on no other. -/
structure Reaches (n : Network) (arn : String) (kind : Kind) (id : String) (old : TagMap) : Prop where
  handed : ∀ (op : Operation) (p : Place), p.network = n →
    p.handle op arn = ((op n arn).mapError .rejected).within ({ p with network := · })
  tag : ∀ tags all, TagPolicy.standard.merged old (.ofTags tags) = .ok all →
    TagKeeper.tag n arn tags = .ok () (n.changeTags id fun _ => all)
  refused : ∀ tags v, TagPolicy.standard.merged old (.ofTags tags) = .error v → ∃ e, TagKeeper.tag n arn tags = .fail e n
  untag : ∀ keys, TagKeeper.untag n arn keys = .ok () (n.changeTags id fun tags => tags.eraseKeys keys)
  changed : ∀ f kind' id', (n.changeTags id f).held? kind' id' =
    if kind' = kind ∧ id' = id then some (id, f old) else n.held? kind' id'

section

variable {scope : Scope} {n : Network} {kind : Kind} {id : String} {old : TagMap}

/-- The own name of a resource reaches it. -/
theorem reaches_own (plain : scope.Plain) (h : n.Filed scope) (held : n.held? kind id = some (id, old)) :
    Reaches n (n.arn kind.name id) kind id old := by
  have told : Kind.ofId? id = some kind := (h.titled held).2
  have there : n.tagsOf? id = some old := (n.tagsOf?_eq_some_iff id).2 ⟨kind, id, told, held⟩
  have taken : networkId (n.arn kind.name id) = id := by
    rw [Network.arn, h.home, networkId_arn plain]
  have served : serviceName (n.arn kind.name id) = "ec2" := by
    rw [Network.arn, h.home, serviceName_arn plain (by decide)]
  refine ⟨fun op p own => ?_, fun tags all merged => ?_, fun tags v refused => ?_, fun keys => ?_,
    fun f kind' id' => ?_⟩
  · subst own
    simp [Place.handle, served, TagKeeper.service]
  · show shared (n.createTags [networkId _] tags) = _
    rw [taken]
    rcases n.createTags_one_cases id tags with ⟨e, -, no⟩ | ⟨old', all', there', merged', ok⟩
    · exact absurd merged (no old all there)
    · cases there.symm.trans there'
      cases merged.symm.trans merged'
      rw [ok]
      rfl
  · show ∃ e, shared (n.createTags [networkId _] tags) = _
    rw [taken]
    rcases n.createTags_one_cases id tags with ⟨e, fails, -⟩ | ⟨old', all', there', merged', -⟩
    · exact ⟨_, by rw [fails]; rfl⟩
    · cases there.symm.trans there'
      cases refused.symm.trans merged'
  · show shared (n.deleteTags [networkId _] _) = _
    rw [taken]
    rcases n.deleteTags_one_cases id (keys.map fun key => ⟨key, none⟩) with ⟨e, -, missing⟩ | ⟨old', -, ok⟩
    · cases there.symm.trans missing
    · simp only [ok, Network.foldl_removals]
      rfl
  · rw [Network.held?_changeTags, told]
    by_cases same : kind' = kind ∧ id' = id
    · obtain ⟨rfl, rfl⟩ := same
      rw [if_pos ⟨rfl, rfl⟩, if_pos ⟨rfl, rfl⟩, held, Option.map_some]
    · rw [if_neg same, if_neg]
      rintro ⟨kinds, ids⟩
      exact same ⟨(Option.some.inj kinds).symm, ids⟩

end

/-- **The views of the tags of a network agree** after every run. Resources stand under their ids, which tell their kinds.
The listing has one entry for each tag of each of them, in the order of ids and keys and with the kind that the id tells.
The tagged resources are those with a tag, each under a name of its own. And a change of the tags behind such a name is
made on that resource alone. -/
theorem network_views_agree {account region : String} (ha : ':' ∉ account.toList) (hr : ':' ∉ region.toList)
    (ops : List Network.Op) :
    let n := (Network.blank { account, region }).run ops
    (∀ kind k id tags, n.held? kind k = some (id, tags) → id = k ∧ Kind.ofId? id = some kind) ∧
    (∃ l, n.describeTags [] = .ok l ∧ l.Pairwise Network.TagDescription.Precedes ∧
      (∀ e ∈ l, Kind.ofId? e.resourceId = some e.kind) ∧
      ∀ e, e ∈ l ↔ ∃ tags, n.held? e.kind e.resourceId = some (e.resourceId, tags) ∧
        tags.get? e.key = some e.value) ∧
    (n.tagged.map Prod.fst).Nodup ∧
    (∀ arn tags, (arn, tags) ∈ n.tagged ↔ ∃ kind id, n.held? kind id = some (id, tags) ∧ arn = n.arn kind.name id ∧
      ∃ key value, tags.get? key = some value) ∧
    ∀ kind id tags, n.held? kind id = some (id, tags) → Reaches n (n.arn kind.name id) kind id tags := by
  intro n
  have filed : n.Filed { account, region } := (Network.filed_blank _).run ops
  have plain : Scope.Plain { account, region } := ⟨(by decide : ':' ∉ "aws".toList), hr, ha⟩
  refine ⟨fun kind k id tags held => ?_, ⟨n.allTags, Network.select_nil _, filed.pairwise_allTags,
    fun _ => filed.ofId?_of_mem_allTags, fun _ => filed.mem_allTags_iff⟩, filed.nodup_tagged,
    fun _ _ => filed.mem_tagged_iff, fun _ _ _ held => reaches_own plain filed held⟩
  obtain ⟨rfl, told⟩ := filed.titled held
  exact ⟨rfl, told⟩

/-- A VPC with a tag, whose default list gets another one. -/
def taggedRun : List Network.Op :=
  [.createVpc "10.0.0.0/16" [⟨"team", "core"⟩] "1" "2", .createTags ["acl-2"] [⟨"team", "edge"⟩]]

/-- The VPC is listed with its tag, and reached by its name. -/
theorem network_views_taggedRun :
    let n := (Network.blank { account := "123456789012", region := "us-east-1" }).run taggedRun
    let tags := TagMap.ofTags [⟨"team", "core"⟩]
    (∃ l, n.describeTags [] = .ok l ∧ ⟨"vpc-1", .vpc, "team", "core"⟩ ∈ l) ∧
      ("arn:aws:ec2:us-east-1:123456789012:vpc/vpc-1", tags) ∈ n.tagged ∧
      Reaches n "arn:aws:ec2:us-east-1:123456789012:vpc/vpc-1" .vpc "vpc-1" tags := by
  intro n tags
  obtain ⟨-, ⟨l, listed, -, -, mem⟩, -, tagged, reaches⟩ := network_views_agree
    (by decide : ':' ∉ "123456789012".toList) (by decide : ':' ∉ "us-east-1".toList) taggedRun
  have held : n.held? .vpc "vpc-1" = some ("vpc-1", tags) := by decide +kernel
  have named : n.arn Kind.vpc.name "vpc-1" = "arn:aws:ec2:us-east-1:123456789012:vpc/vpc-1" := by decide +kernel
  have core : tags.get? "team" = some "core" := by decide
  rw [← named]
  exact ⟨⟨l, listed, (mem _).2 ⟨tags, held, core⟩⟩, (tagged _ _).2 ⟨_, _, held, rfl, _, _, core⟩, reaches _ _ _ held⟩

end Tagging

end MockCloud
