import Mathlib.Data.List.Perm.Subperm
import MockCloud.Tag

/-! # Tags that keep the rules

A collection of tags keeps the rules if it has at most fifty keys, each once, none of them empty and none
that begins with `aws:`. The checks of a change look at different things: a merge looks at the incoming keys
and counts what results, a list of tags is looked through for keys named twice. Together they are enough for
the rules to hold of whatever is stored, provided that they held before.

* `LegalKeys`, `TagMap.Legal`: the rules, for the keys of a collection and for a map of tags.
* `legal_of_merged`, `Legal.eraseKeys`: what a resource has after its tags have been changed keeps the rules.
* `legalKeys_of_checked`: so does a list that is stored as it is, once it is checked for repeated keys. -/

namespace MockCloud

/-- The key may be given to a resource. -/
def FreeKey (key : String) : Prop :=
  key ≠ "" ∧ ¬"aws:".toList <+: key.toList

/-- The rules for the keys of a collection of tags. -/
structure LegalKeys (keys : List String) : Prop where
  few : keys.length ≤ 50
  distinct : keys.Nodup
  free : ∀ key ∈ keys, FreeKey key

theorem LegalKeys.of_subset {keys keys' : List String} (h : LegalKeys keys') (distinct : keys.Nodup)
    (among : keys ⊆ keys') : LegalKeys keys :=
  ⟨Nat.le_trans (List.subperm_of_subset distinct among).length_le h.few, distinct,
    fun key there => h.free key (among there)⟩

namespace SortedMap

variable {α : Type} {m : SortedMap α} {key : String}

/-- The keys after entries have been put in are those of the entries and those that were there. -/
theorem mem_keys_insertAll_iff {es : List (String × α)} :
    key ∈ (m.insertAll es).keys ↔ key ∈ es.map (·.1) ∨ key ∈ m.keys := by
  rw [mem_keys_iff, mem_keys_iff, get?_insertAll]
  cases found : es.reverse.find? (·.1 == key) with
  | some entry =>
    have same : entry.1 = key := by simpa using List.find?_some found
    have among : entry ∈ es := List.mem_reverse.1 (List.mem_of_find?_eq_some found)
    exact ⟨fun _ => .inl (List.mem_map.2 ⟨entry, among, same⟩), fun _ => ⟨entry.2, rfl⟩⟩
  | none =>
    have absent : key ∉ es.map (·.1) := by
      intro there
      obtain ⟨entry, among, same⟩ := List.mem_map.1 there
      exact List.find?_eq_none.1 found entry (List.mem_reverse.2 among) (by simp [same])
    simp [absent]

end SortedMap

namespace TagPolicy

/-- The standard policy refuses every key that is not free. -/
theorem freeKey_of_checkKey {key : String} (checked : standard.checkKey key = .ok ()) : FreeKey key := by
  unfold checkKey at checked
  split at checked
  · cases checked
  · next named =>
    dsimp only [standard] at checked
    split at checked
    · cases checked
    · next unreserved =>
      refine ⟨fun empty => named (by rw [empty]; rfl), fun reserved => unreserved ?_⟩
      exact List.isPrefixOf_iff_prefix.2 reserved

theorem freeKey_of_checkKeys {keys : List String} (checked : standard.checkKeys keys = .ok ()) :
    ∀ key ∈ keys, FreeKey key := by
  induction keys with
  | nil => simp
  | cons key keys ih =>
    rw [checkKeys] at checked
    cases first : standard.checkKey key with
    | error e => rw [first] at checked; cases checked
    | ok _ =>
      rw [first] at checked
      exact List.forall_mem_cons.2 ⟨freeKey_of_checkKey first, ih checked⟩

theorem nodup_of_checkUnseen {seen : List String} {tags : List Tag} (checked : checkUnseen seen tags = .ok ()) :
    (∀ t ∈ tags, t.key ∉ seen) ∧ (tags.map Tag.key).Nodup := by
  induction tags generalizing seen with
  | nil => simp
  | cons t tags ih =>
    rw [checkUnseen] at checked
    split at checked
    · cases checked
    · next unseen =>
      obtain ⟨apart, distinct⟩ := ih checked
      refine ⟨List.forall_mem_cons.2 ⟨by simpa using unseen, fun u hu there => ?_⟩, ?_⟩
      · exact apart u hu (List.mem_cons_of_mem _ there)
      · rw [List.map_cons, List.nodup_cons]
        refine ⟨fun again => ?_, distinct⟩
        obtain ⟨u, hu, same⟩ := List.mem_map.1 again
        exact apart u hu (same ▸ List.mem_cons_self)

theorem nodup_of_checkUnique {tags : List Tag} (checked : checkUnique tags = .ok ()) :
    (tags.map Tag.key).Nodup :=
  (nodup_of_checkUnseen checked).2

end TagPolicy

namespace TagMap

/-- The list of a map holds its tags and no others, and their keys increase. No other list does. -/
theorem eq_toTags_iff {m : TagMap} {tags : List Tag} :
    tags = m.toTags ↔ tags.Pairwise (·.key < ·.key) ∧ ∀ t, t ∈ tags ↔ m.get? t.key = some t.value := by
  constructor
  · rintro rfl
    exact ⟨m.pairwise_toTags, fun _ => mem_toTags_iff⟩
  · rintro ⟨sorted, mem⟩
    exact SortedMap.eq_of_increasing sorted m.pairwise_toTags fun t => (mem t).trans mem_toTags_iff.symm

/-- A map without its keys is empty. -/
theorem eraseKeys_keys (m : TagMap) : m.eraseKeys m.keys = .empty := by
  refine SortedMap.ext_get? fun k => ?_
  rw [get?_eraseKeys, SortedMap.get?_empty]
  split
  · rfl
  · next absent =>
    exact Option.eq_none_iff_forall_ne_some.2 fun v there => absent (SortedMap.mem_keys_iff.2 ⟨v, there⟩)

/-- The tags of a resource keep the rules. -/
def Legal (m : TagMap) : Prop :=
  LegalKeys m.keys

theorem legal_empty : Legal .empty :=
  ⟨Nat.zero_le _, .nil, fun _ there => (by cases there)⟩

/-- **A merge that is allowed keeps the rules.** Only the incoming keys are looked at; the others were free
before. -/
theorem legal_of_merged {old incoming all : TagMap} (h : old.Legal)
    (merged : TagPolicy.standard.merged old incoming = .ok all) : all.Legal := by
  obtain ⟨checked, few, rfl⟩ := TagPolicy.merged_eq_ok_iff.1 merged
  refine ⟨?_, SortedMap.nodup_keys _, fun key there => ?_⟩
  · rw [SortedMap.keys, List.length_map]
    exact few
  · rcases SortedMap.mem_keys_insertAll_iff.1 there with new | before
    · exact TagPolicy.freeKey_of_checkKeys checked key new
    · exact h.free key before

/-- A map that may stand by itself keeps the rules. -/
theorem legal_of_checkReplacement {m : TagMap} (checked : TagPolicy.standard.checkReplacement m = .ok ()) :
    m.Legal := by
  unfold TagPolicy.checkReplacement at checked
  cases merged : TagPolicy.standard.merged .empty m with
  | error e => rw [merged] at checked; cases checked
  | ok all =>
    have whole := (TagPolicy.merged_eq_ok_iff.1 merged).2.2
    refine (legal_of_merged legal_empty merged).of_subset m.nodup_keys fun key there => ?_
    rw [whole]
    exact SortedMap.mem_keys_insertAll_iff.2 (.inl there)

theorem Legal.erase {m : TagMap} (h : m.Legal) (key : String) : Legal (m.erase key) := by
  refine h.of_subset (SortedMap.nodup_keys _) fun key' there => ?_
  obtain ⟨value, there⟩ := SortedMap.mem_keys_iff.1 there
  rw [SortedMap.get?_erase] at there
  split at there
  · cases there
  · exact SortedMap.mem_keys_iff.2 ⟨value, there⟩

theorem Legal.eraseKeys {m : TagMap} (h : m.Legal) (keys : List String) : (m.eraseKeys keys).Legal :=
  List.foldlRecOn keys _ h fun _ hm key _ => hm.erase key

end TagMap

/-- **A list of tags that is stored as it is.** The check of the whole looks at the map of the list, in which
a repeated key counts once; that no key is named twice is checked beside it. -/
theorem legalKeys_of_checked {tags : List Tag} (unique : TagPolicy.checkUnique tags = .ok ())
    (checked : TagPolicy.standard.checkReplacement (.ofTags tags) = .ok ()) : LegalKeys (tags.map Tag.key) := by
  refine (TagMap.legal_of_checkReplacement checked).of_subset (TagPolicy.nodup_of_checkUnique unique) ?_
  intro key there
  refine SortedMap.mem_keys_insertAll_iff.2 (.inl ?_)
  rw [List.map_map]
  exact there

end MockCloud
