import MockCloud.Proofs.Tagging.Listing

/-! # The keys and the values in use

Two more listings are made of the tags of a place: the keys that are in use, and the values that a key has. They are
put together and cut into pages on their own. What they hold is what a listing of resources finds when it is asked
for a key, or for a key with a value.

* `exists_keys`, `exists_values`: the pages of the two listings, and what they hold.
* `exists_filtered`: when a listing of resources with one filter of tags finds something.
* `keys_agree`, `values_agree`: the listings agree. -/

namespace MockCloud.Tagging

theorem nodup_distinct (xs : List String) : (distinct xs).Nodup :=
  SortedMap.nodup_keys _

theorem mem_distinct_iff {xs : List String} {x : String} : x ∈ distinct xs ↔ x ∈ xs := by
  unfold distinct SortedMap.ofList
  rw [SortedMap.mem_keys_insertAll_iff, List.map_map]
  simp [SortedMap.mem_keys_iff, Function.comp_def]

/-- Texts that are listed once each, in pages of any size. -/
theorem exists_texts (xs : List String) (limits : PageLimits) (params : Json.Tree) (maxResults : Option Nat) :
    ∃ pages, Follows (fun r => (paginate (distinct xs) r limits params id).mapError TaggingError.page) maxResults
        pages ∧ Increasing id (allItems pages) ∧ ∀ x, x ∈ allItems pages ↔ x ∈ xs := by
  have apart : ((distinct xs).map id).Nodup := by
    rw [List.map_id]
    exact nodup_distinct xs
  obtain ⟨pages, follows, perm, increasing⟩ := exists_follows _ maxResults limits params apart TaggingError.page
  exact ⟨pages, follows, increasing, fun x => perm.mem_iff.trans mem_distinct_iff⟩

namespace Place

section

variable (p : Place) (maxResults : Option Nat)

theorem exists_keys :
    ∃ pages, Follows (tagKeys p.tagged) maxResults pages ∧ Increasing id (allItems pages) ∧
      ∀ key, key ∈ allItems pages ↔ ∃ r arn tags value, p.Carries r arn tags ∧ tags.get? key = some value := by
  obtain ⟨pages, follows, increasing, mem⟩ :=
    exists_texts (p.tagged.flatMap fun x => x.2.keys) ⟨50, 50⟩ .null maxResults
  refine ⟨pages, follows, increasing, fun key => (mem key).trans ?_⟩
  simp only [List.mem_flatMap, Prod.exists, mem_tagged_iff, SortedMap.mem_keys_iff]
  constructor
  · rintro ⟨arn, tags, ⟨r, carries⟩, value, there⟩
    exact ⟨r, arn, tags, value, carries, there⟩
  · rintro ⟨r, arn, tags, value, carries, there⟩
    exact ⟨arn, tags, ⟨r, carries⟩, value, there⟩

theorem exists_values (key : String) :
    ∃ pages, Follows (tagValues p.tagged key) maxResults pages ∧ Increasing id (allItems pages) ∧
      ∀ value, value ∈ allItems pages ↔ ∃ r arn tags, p.Carries r arn tags ∧ tags.get? key = some value := by
  obtain ⟨pages, follows, increasing, mem⟩ :=
    exists_texts (p.tagged.filterMap fun x => x.2.get? key) ⟨50, 50⟩ (.str key) maxResults
  refine ⟨pages, follows, increasing, fun value => (mem value).trans ?_⟩
  simp only [List.mem_filterMap, Prod.exists, mem_tagged_iff]
  constructor
  · rintro ⟨arn, tags, ⟨r, carries⟩, there⟩
    exact ⟨r, arn, tags, carries, there⟩
  · rintro ⟨r, arn, tags, carries, there⟩
    exact ⟨arn, tags, ⟨r, carries⟩, there⟩

end

section

variable {c : Config} {p : Place}

/-- A listing with one filter of tags finds something if a resource has the key, with one of the values if any are
given. -/
theorem Filed.exists_filtered (h : p.Filed c) (f : TagFilter) (size : Option Nat) :
    ∃ found, Follows (resources p.tagged ⟨[], [f]⟩) size found ∧
      (allItems found ≠ [] ↔ ∃ r arn tags value, p.Carries r arn tags ∧ tags.get? f.key = some value ∧
        (f.values = [] ∨ value ∈ f.values)) := by
  obtain ⟨found, rs, follows, -, wanted, shows, -⟩ := h.exists_listing ⟨[], [f]⟩ size
  refine ⟨found, follows, ?_⟩
  rw [← List.length_pos_iff, ← shows.length_eq, List.length_pos_iff_exists_mem]
  simp only [wanted]
  constructor
  · rintro ⟨r, arn, tags, carries, asks⟩
    obtain ⟨value, there, fits⟩ := asks.tags f List.mem_cons_self
    exact ⟨r, arn, tags, value, carries, there, fits⟩
  · rintro ⟨r, arn, tags, value, carries, there, fits⟩
    refine ⟨r, arn, tags, carries, .inl rfl, fun g hg => ?_⟩
    rw [List.mem_singleton.1 hg]
    exact ⟨value, there, fits⟩

/-- The keys in use are those that a listing of resources finds something for. -/
theorem Filed.keys_agree (h : p.Filed c) (maxResults : Option Nat) :
    ∃ pages, Follows (tagKeys p.tagged) maxResults pages ∧ Increasing id (allItems pages) ∧
      ∀ key size, ∃ found, Follows (resources p.tagged ⟨[], [⟨key, []⟩]⟩) size found ∧
        (key ∈ allItems pages ↔ allItems found ≠ []) := by
  obtain ⟨pages, follows, increasing, mem⟩ := p.exists_keys maxResults
  refine ⟨pages, follows, increasing, fun key size => ?_⟩
  obtain ⟨found, leads, finds⟩ := h.exists_filtered ⟨key, []⟩ size
  refine ⟨found, leads, ?_⟩
  rw [mem, finds]
  simp

/-- The values of a key are those with which a listing of resources finds something for the key. -/
theorem Filed.values_agree (h : p.Filed c) (key : String) (maxResults : Option Nat) :
    ∃ pages, Follows (tagValues p.tagged key) maxResults pages ∧ Increasing id (allItems pages) ∧
      ∀ value size, ∃ found, Follows (resources p.tagged ⟨[], [⟨key, [value]⟩]⟩) size found ∧
        (value ∈ allItems pages ↔ allItems found ≠ []) := by
  obtain ⟨pages, follows, increasing, mem⟩ := p.exists_values maxResults key
  refine ⟨pages, follows, increasing, fun value size => ?_⟩
  obtain ⟨found, leads, finds⟩ := h.exists_filtered ⟨key, [value]⟩ size
  refine ⟨found, leads, ?_⟩
  rw [mem, finds]
  simp

end

end Place

end MockCloud.Tagging
