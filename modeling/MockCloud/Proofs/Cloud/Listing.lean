import MockCloud.Proofs.Cloud.Filing
import MockCloud.Proofs.Tagging.Summary

/-! # Listings of the tags of a site

Three listings are made of the tags of a site: the resources that a query asks for, the keys in use, and the values
of a key. After any run they can be followed to their ends in pages of any size. None of the calls changes what the
next one sees, so that the pages are those of one state.

* `place_call_reading`: a call for a page leaves every site as it is.
* `resources_listed`: the listing of resources has those that have tags and are asked for, each once.
* `listings_agree`: the three listings tell the same. -/

namespace MockCloud.Cloud

/-! ### Calls for a page -/

/-- Keeping what a site has anyway changes nothing that is seen. -/
theorem get_keep_of_same {c c' : Cloud} (same : ∀ k s, c'.get k s = c.get k s) (k : CloudService) (s : Site) :
    ∀ k' s', (c'.keep k s (c.get k s)).get k' s' = c.get k' s' := by
  intro k' s'
  by_cases one : k' = k
  · subst one
    rw [get_eq (c'.keep _ _ _), held_keep]
    split
    · next shared => exact (c.get_of_shares shared).symm
    · exact same k' s'
  · rw [get_eq (c'.keep _ _ _), held_keep_of_ne one]
    exact same k' s'

/-- **A call for a page leaves every site as it is.** -/
theorem place_call_reading {α : Type} (c : Cloud) (s s' : Site) {r : Tagging.Request}
    (reading : ∀ change names, r ≠ .change change names) (f : Tagging.Reply → α) :
    (c.call s (.tagging r f)).2.place s' = c.place s' := by
  have same : ((c.place s).answer r).2 = c.place s := by
    cases r with
    | change change names => exact absurd rfl (reading change names)
    | _ => rfl
  rw [call_tagging, same]
  -- the call keeps the four backends that it was given
  have given : ∀ k s, c.get k s = c.get k s := fun _ _ => rfl
  have seen := get_keep_of_same (get_keep_of_same (get_keep_of_same (get_keep_of_same given
    .pipelines s) .network s) .topics s) .buckets s
  show Tagging.Place.mk _ _ _ _ = Tagging.Place.mk _ _ _ _
  congr 1 <;> exact seen _ s'

/-! ### The listings -/

section

variable (config : Config) (steps : List (Step Op)) (s : Site) (maxResults : Option Nat)

/-- **The resources of a site that are asked for.** After any run, at any site, for any query and in pages of any
size, the tokens of the listing lead to its end. The items show the resources that have tags and that the query asks
for, each of them once, and stand in the order of the resource names. -/
theorem resources_listed (q : Tagging.Query) :
    ∃ pages rs, Follows (Tagging.resources ((after config steps).place s).tagged q) maxResults pages ∧ rs.Nodup ∧
      (∀ r, r ∈ rs ↔ ((after config steps).place s).Wanted q r) ∧
      List.Forall₂ ((after config steps).place s).Shows rs (allItems pages) ∧
      Increasing Tagging.TaggedResource.arn (allItems pages) :=
  (filed_place config steps s).exists_listing q maxResults

/-- **The listings agree.** After any run, at any site and in pages of any size, the tokens of the listing of keys
lead to its end. It has the keys, each once and in order, for which the listing of the resources with that key has
something. The listing of the values of a key has the values, each once and in order, for which the listing of the
resources with that key and that value has something. -/
theorem listings_agree :
    (∃ pages, Follows (Tagging.tagKeys ((after config steps).place s).tagged) maxResults pages ∧
      Increasing id (allItems pages) ∧
      ∀ key size, ∃ found,
        Follows (Tagging.resources ((after config steps).place s).tagged ⟨[], [⟨key, []⟩]⟩) size found ∧
          (key ∈ allItems pages ↔ allItems found ≠ [])) ∧
    ∀ key, ∃ pages, Follows (Tagging.tagValues ((after config steps).place s).tagged key) maxResults pages ∧
      Increasing id (allItems pages) ∧
      ∀ value size, ∃ found,
        Follows (Tagging.resources ((after config steps).place s).tagged ⟨[], [⟨key, [value]⟩]⟩) size found ∧
          (value ∈ allItems pages ↔ allItems found ≠ []) := by
  have filed := filed_place config steps s
  exact ⟨filed.keys_agree maxResults, fun key => filed.values_agree key maxResults⟩

end

end MockCloud.Cloud
