import MockCloud.Tagging

/-! # What a query asks for

A query lists types and filters of tags. A type is a service, or a service with a type of resource behind a colon,
as they are told by the resource's name. A resource must be of one of the listed types, if any are listed, and
every filter must find its key among the tags, with one of the filter's values if it has any.

* `Typed arn type`: the text of a type fits a resource name.
* `Query.Asks q arn tags`: the query asks for a resource with this name and these tags.
* `fits_iff_asks`: a listing holds what the query asks for and nothing else. -/

namespace MockCloud.Tagging

/-- The type is the service in the resource name, or the service and the type of the resource with a colon between
them. -/
def Typed (arn type : String) : Prop :=
  ∃ a : Arn, a.Plain ∧ a.render = arn ∧ (type = a.service ∨ ∃ kind, a.TypeIs kind ∧ type = a.service ++ ":" ++ kind)

/-- The query asks for a resource with this name and these tags. -/
structure Query.Asks (q : Query) (arn : String) (tags : TagMap) : Prop where
  type : q.types = [] ∨ ∃ type ∈ q.types, Typed arn type
  tags : ∀ f ∈ q.tags, ∃ value, tags.get? f.key = some value ∧ (f.values = [] ∨ value ∈ f.values)

namespace Query

variable {q : Query} {arn : String} {tags : TagMap}

theorem fitsType_iff : q.fitsType arn = true ↔ q.types = [] ∨ ∃ type ∈ q.types, Typed arn type := by
  unfold fitsType Typed
  rw [Bool.or_eq_true, List.isEmpty_iff]
  simp only [← Arn.resourceType?_eq_some_iff, ← and_assoc, ← Arn.parse?_eq_some_iff]
  refine or_congr_right ?_
  cases Arn.parse? arn with
  | none => simp
  | some a => simp [Option.any_eq_true]

theorem fitsTags_iff :
    q.fitsTags tags = true ↔
      ∀ f ∈ q.tags, ∃ value, tags.get? f.key = some value ∧ (f.values = [] ∨ value ∈ f.values) := by
  rw [fitsTags, List.all_eq_true]
  exact forall₂_congr fun _ _ => TagMap.fits_iff

/-- **The checks of a listing** accept what the query asks for. -/
theorem fits_iff_asks : (q.fitsType arn && q.fitsTags tags) = true ↔ q.Asks arn tags := by
  rw [Bool.and_eq_true, fitsType_iff, fitsTags_iff]
  exact ⟨fun ⟨type, tags⟩ => ⟨type, tags⟩, fun ⟨type, tags⟩ => ⟨type, tags⟩⟩

end Query

end MockCloud.Tagging
