import MockCloud.Proofs.Network.Filing

/-! # The listing of tags

The tags of a network are listed one by one, each with the resource that it is on. They are taken from the stores, one
kind after the other, and put in the order of resources and keys. The kind of an entry is that of the store that it is
taken from; where resources stand under their ids, it is also the one that the id tells.

* `Filed.pairwise_labelled`: no two resources have one id, of whatever kinds they are.
* `Filed.mem_allTags_iff`: there is an entry for every tag of every resource, and no other.
* `Filed.pairwise_allTags`: the entries stand in order, and none comes twice. -/

namespace MockCloud.Network

/-! ### The resources with their kinds -/

section

variable {n : Network} {kind : Kind}

theorem mem_labelled_iff {own : String} {tags : TagMap} :
    (own, kind, tags) ∈ n.labelled ↔ ∃ id, n.held? kind id = some (own, tags) := by
  simp only [labelled_eq, List.mem_flatMap, List.mem_filterMap, Option.map_eq_some_iff]
  constructor
  · rintro ⟨kind', -, id, -, x, held, same⟩
    cases same
    exact ⟨id, held⟩
  · rintro ⟨id, held⟩
    exact ⟨kind, kind.mem_all, id, mem_ids_iff.2 ⟨_, held⟩, _, held, rfl⟩

end

namespace Filed

variable {scope : Scope} {n : Network} (h : Filed scope n)
include h

theorem mem_labelled_iff {id : String} {kind : Kind} {tags : TagMap} :
    (id, kind, tags) ∈ n.labelled ↔ n.held? kind id = some (id, tags) := by
  rw [Network.mem_labelled_iff]
  constructor
  · rintro ⟨k, held⟩
    obtain ⟨rfl, -⟩ := h.titled held
    exact held
  · exact fun held => ⟨id, held⟩

/-- Ids tell the resources apart, within a kind and across the kinds. -/
theorem pairwise_labelled : n.labelled.Pairwise fun x y => x.1 ≠ y.1 := by
  rw [labelled_eq, List.pairwise_flatMap]
  constructor
  · intro kind _
    refine List.pairwise_filterMap.2 ((nodup_ids n kind).imp fun {id id'} ne x hx y hy same => ?_)
    obtain ⟨⟨own, tags⟩, held, rfl⟩ := Option.map_eq_some_iff.1 hx
    obtain ⟨⟨own', tags'⟩, held', rfl⟩ := Option.map_eq_some_iff.1 hy
    obtain ⟨rfl, -⟩ := h.titled held
    obtain ⟨rfl, -⟩ := h.titled held'
    exact ne same
  · refine List.Pairwise.imp (fun {kind kind'} ne x hx y hy same => ?_) (by decide : Kind.all.Nodup)
    obtain ⟨id, -, hx⟩ := List.mem_filterMap.1 hx
    obtain ⟨id', -, hy⟩ := List.mem_filterMap.1 hy
    obtain ⟨⟨own, tags⟩, held, rfl⟩ := Option.map_eq_some_iff.1 hx
    obtain ⟨⟨own', tags'⟩, held', rfl⟩ := Option.map_eq_some_iff.1 hy
    obtain ⟨rfl, told⟩ := h.titled held
    obtain ⟨rfl, told'⟩ := h.titled held'
    -- the id tells the kind, so it cannot be one of two kinds
    dsimp only at same
    rw [same] at told
    exact ne (Option.some.inj (told.symm.trans told'))

end Filed

/-! ### The tags in order -/

/-- The one tag stands in front of the other: on a resource before it, or on the same one under a key before it. -/
def TagDescription.Precedes (a b : TagDescription) : Prop :=
  a.resourceId < b.resourceId ∨ (a.resourceId = b.resourceId ∧ a.key < b.key)

namespace TagDescription

variable {a b c : TagDescription}

theorem before_iff : a.before b = true ↔ a.resourceId < b.resourceId ∨ (a.resourceId = b.resourceId ∧ a.key ≤ b.key) := by
  simp [before]

theorem before_trans (h : a.before b = true) (h' : b.before c = true) : a.before c = true := by
  rw [before_iff] at *
  rcases h with less | ⟨same, le⟩ <;> rcases h' with less' | ⟨same', le'⟩
  · exact .inl (String.lt_trans less less')
  · exact .inl (same' ▸ less)
  · exact .inl (same ▸ less')
  · exact .inr ⟨same.trans same', String.le_trans le le'⟩

theorem before_total (a b : TagDescription) : (a.before b || b.before a) = true := by
  rw [Bool.or_eq_true_iff, before_iff, before_iff]
  by_cases less : a.resourceId < b.resourceId
  · exact .inl (.inl less)
  · by_cases more : b.resourceId < a.resourceId
    · exact .inr (.inl more)
    · have same := KeyOrder.eq_of_not_lt less more
      exact (String.le_total a.key b.key).imp (fun le => .inr ⟨same, le⟩) fun le => .inr ⟨same.symm, le⟩

/-- In order, and not on one resource under one key. -/
theorem precedes_of_before (h : a.before b = true) (ne : a.resourceId ≠ b.resourceId ∨ a.key ≠ b.key) :
    a.Precedes b := by
  rcases before_iff.1 h with less | ⟨same, le⟩
  · exact .inl less
  · have other : a.key ≠ b.key := ne.resolve_left fun other => other same
    exact .inr ⟨same, String.not_le.1 fun ge => other (String.le_antisymm le ge)⟩

/-- Sorted entries of which no two are on one resource under one key stand in order, and none comes twice. -/
theorem pairwise_mergeSort {l : List TagDescription}
    (apart : l.Pairwise fun a b => a.resourceId ≠ b.resourceId ∨ a.key ≠ b.key) :
    (l.mergeSort before).Pairwise Precedes := by
  have sorted : (l.mergeSort before).Pairwise fun a b => a.before b = true :=
    @List.pairwise_mergeSort _ before (fun _ _ _ => before_trans) before_total l
  have still : (l.mergeSort before).Pairwise fun a b => a.resourceId ≠ b.resourceId ∨ a.key ≠ b.key :=
    (List.mergeSort_perm l before).symm.pairwise apart fun ne => ne.imp Ne.symm Ne.symm
  generalize l.mergeSort before = l' at sorted still
  exact (sorted.and still).imp fun ⟨ordered, ne⟩ => precedes_of_before ordered ne

end TagDescription

theorem select_nil {α : Type} [Filterable α] (items : List α) : select items [] = .ok items := by
  induction items with
  | nil => rfl
  | cons a items ih =>
    rw [select, fitsAll]
    dsimp only
    rw [ih]
    rfl

namespace Filed

variable {scope : Scope} {n : Network} (h : Filed scope n)
include h

/-- There is an entry for every tag of every resource, and no other. -/
theorem mem_allTags_iff {e : TagDescription} :
    e ∈ n.allTags ↔ ∃ tags, n.held? e.kind e.resourceId = some (e.resourceId, tags) ∧
      tags.get? e.key = some e.value := by
  rw [allTags, (List.mergeSort_perm ..).mem_iff, List.mem_flatMap]
  constructor
  · rintro ⟨⟨id, kind, tags⟩, listed, entry⟩
    obtain ⟨⟨key, value⟩, there, rfl⟩ := List.mem_map.1 entry
    exact ⟨tags, h.mem_labelled_iff.1 listed, SortedMap.get?_of_mem there⟩
  · rintro ⟨tags, held, there⟩
    exact ⟨_, h.mem_labelled_iff.2 held, List.mem_map.2 ⟨_, SortedMap.mem_of_get? there, rfl⟩⟩

/-- The entries stand in order, and none comes twice. -/
theorem pairwise_allTags : n.allTags.Pairwise TagDescription.Precedes := by
  refine TagDescription.pairwise_mergeSort (List.pairwise_flatMap.2 ⟨?_, h.pairwise_labelled.imp fun ne a ha b hb => ?_⟩)
  · rintro ⟨id, kind, tags⟩ -
    exact List.pairwise_map.2 (tags.sorted.imp fun less => .inr (String.ne_of_lt less))
  · obtain ⟨e, -, rfl⟩ := List.mem_map.1 ha
    obtain ⟨e', -, rfl⟩ := List.mem_map.1 hb
    exact .inl ne

/-- The kind of an entry is the one that its id tells. -/
theorem ofId?_of_mem_allTags {e : TagDescription} (there : e ∈ n.allTags) :
    Kind.ofId? e.resourceId = some e.kind := by
  obtain ⟨tags, held, -⟩ := h.mem_allTags_iff.1 there
  exact (h.titled held).2

end Filed

end MockCloud.Network
