import Mathlib.Data.List.Forall2
import MockCloud.Proofs.Page.Following
import MockCloud.Proofs.Tagging.Inventory
import MockCloud.Proofs.Tagging.Query

/-! # Listings of tagged resources

A listing holds each resource that has a tag and that the query asks for, under its own name and with its tags. As
names tell resources apart, the listing can be followed to its end, and each of these resources is met once.

* `typed_network_iff`: the types that fit a part of a network.
* `Wanted p q r`: the resource has tags and the query asks for it.
* `Shows p r x`: an item of a listing shows a resource.
* `exists_listing`: the pages of a listing, and what they show. -/

namespace MockCloud.Tagging

/-- A part of a network is of the type of its service, and of the type that its kind names. -/
theorem typed_network_iff {c : Config} (valid : c.validate = .ok ()) {kind : Network.Kind} {id type : String} :
    Typed ((Resource.network kind id).own c) type ↔ type = "ec2" ∨ type = "ec2:" ++ kind.name := by
  have parsed := (Config.plain_scope valid).parse?_arn (by decide : ':' ∉ "ec2".toList) (kind.name ++ "/" ++ id)
  simp only [Typed, ← and_assoc, ← Arn.parse?_eq_some_iff, ← Arn.resourceType?_eq_some_iff, Resource.own, parsed,
    Option.some.injEq, exists_eq_left', Arn.resourceType?, Arn.cut?, cutFirst_network, Option.map_some,
    String.ofList_toList]
  rfl

/-- The items of a list come from those of another one if each comes from something. -/
theorem exists_forall₂ {α β : Type} {P : α → Prop} {R : α → β → Prop} {ys : List β}
    (h : ∀ y ∈ ys, ∃ x, P x ∧ R x y) : ∃ xs, (∀ x ∈ xs, P x) ∧ List.Forall₂ R xs ys := by
  induction ys with
  | nil => exact ⟨[], nofun, .nil⟩
  | cons y ys ih =>
    obtain ⟨⟨x, hx, hxy⟩, rest⟩ := List.forall_mem_cons.1 h
    obtain ⟨xs, hxs, all⟩ := ih rest
    exact ⟨x :: xs, List.forall_mem_cons.2 ⟨hx, hxs⟩, .cons hxy all⟩

namespace Place

/-- The resource has tags, and the query asks for it. -/
def Wanted (p : Place) (q : Query) (r : Resource) : Prop :=
  ∃ arn tags, p.Carries r arn tags ∧ q.Asks arn tags

/-- The item shows the resource: its own name and all its tags, in the order of their keys. -/
def Shows (p : Place) (r : Resource) (x : TaggedResource) : Prop :=
  ∃ tags, p.Carries r x.arn tags ∧ x.tags.Pairwise (·.key < ·.key) ∧
    ∀ t, t ∈ x.tags ↔ tags.get? t.key = some t.value

section

variable {c : Config} {p : Place} {r : Resource} {x : TaggedResource}

theorem shows_iff : p.Shows r x ↔ ∃ tags, p.Carries r x.arn tags ∧ x.tags = tags.toTags := by
  simp only [Shows, TagMap.eq_toTags_iff]

/-- A resource and the item that shows it determine each other. -/
theorem Filed.biUnique_shows (h : p.Filed c) : Relator.BiUnique p.Shows := by
  refine ⟨fun r x r' shown shown' => ?_, fun r x x' shown shown' => ?_⟩
  · obtain ⟨_, carries, -⟩ := shown
    obtain ⟨_, carries', -⟩ := shown'
    exact h.own_inj carries.1 carries'.1 rfl
  · obtain ⟨tags, carries, is⟩ := shows_iff.1 shown
    obtain ⟨tags', carries', is'⟩ := shows_iff.1 shown'
    cases x
    cases x'
    cases carries.1.symm.trans carries'.1
    cases is.trans is'.symm
    rfl

/-- What a listing is made of shows what is asked for. -/
theorem mem_found_iff {q : Query} :
    x ∈ (p.tagged.filter fun (arn, tags) => q.fitsType arn && q.fitsTags tags).map (fun (arn, tags) =>
        TaggedResource.mk arn tags.toTags) ↔ ∃ r, p.Wanted q r ∧ p.Shows r x := by
  simp only [List.mem_map, List.mem_filter, Prod.exists, mem_tagged_iff, Query.fits_iff_asks, shows_iff]
  constructor
  · rintro ⟨arn, tags, ⟨⟨r, carries⟩, asks⟩, rfl⟩
    exact ⟨r, ⟨arn, tags, carries, asks⟩, tags, carries, rfl⟩
  · rintro ⟨r, ⟨arn, tags, carries, asks⟩, tags', carries', is⟩
    cases carries.1.symm.trans carries'.1
    exact ⟨x.arn, tags, ⟨⟨r, carries⟩, asks⟩, by rw [← is]⟩

/-- **The listing of a place**, for any query and pages of any size: it can be followed to its end, and it shows
each resource that is wanted once, in the order of the resource names. -/
theorem Filed.exists_listing (h : p.Filed c) (q : Query) (maxResults : Option Nat) :
    ∃ pages rs, Follows (resources p.tagged q) maxResults pages ∧ rs.Nodup ∧ (∀ r, r ∈ rs ↔ p.Wanted q r) ∧
      List.Forall₂ p.Shows rs (allItems pages) ∧ Increasing TaggedResource.arn (allItems pages) := by
  have distinct : (((p.tagged.filter fun (arn, tags) => q.fitsType arn && q.fitsTags tags).map fun (arn, tags) =>
      TaggedResource.mk arn tags.toTags).map TaggedResource.arn).Nodup := by
    rw [List.map_map]
    exact h.nodup_tagged.sublist (List.filter_sublist.map _)
  obtain ⟨pages, follows, perm, increasing⟩ := exists_follows _ maxResults ⟨50, 100⟩ q.params distinct
    TaggingError.page
  have shown (x : TaggedResource) : x ∈ allItems pages ↔ ∃ r, p.Wanted q r ∧ p.Shows r x :=
    perm.mem_iff.trans mem_found_iff
  obtain ⟨rs, wanted, shows⟩ := exists_forall₂ fun x hx => (shown x).1 hx
  have unique := h.biUnique_shows
  refine ⟨pages, rs, follows, (List.rel_nodup unique shows).2 increasing.nodup_keys.of_map,
    fun r => ⟨wanted r, ?_⟩, shows, increasing⟩
  rintro ⟨arn, tags, carries, asks⟩
  have shows' : p.Shows r ⟨arn, tags.toTags⟩ := shows_iff.2 ⟨tags, carries, rfl⟩
  exact (List.rel_mem unique shows' shows).2 ((shown _).2 ⟨r, ⟨arn, tags, carries, asks⟩, shows'⟩)

end

end Place

end MockCloud.Tagging
