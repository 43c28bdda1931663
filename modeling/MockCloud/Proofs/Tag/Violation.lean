import Mathlib.Data.List.Nodup
import MockCloud.Proofs.Tag.Rules

/-! # The first rule that tags break

The tags of a new resource come as a list. The list is looked through for a key that is named twice, then its keys
are looked through in their order for one that may not be given, and what is left is counted. What is reported is
what is found first.

* `Breaks tags v`: the first rule that a list of tags breaks, and how.
* `TagPolicy.checkUnique_eq_error_iff`, `TagPolicy.checkKeys_eq_error_iff`: where the single checks stop.
* `TagPolicy.checked_eq_ok_iff`, `TagPolicy.checked_eq_error_iff`: a list passes all of them exactly if its keys keep
  the rules, and otherwise the first rule that it breaks is reported. -/

namespace MockCloud

/-- The first rule that a list of tags breaks. A key is named again, or else one of them is empty, or else the first
one that may not be given is reserved, or else there are too many. -/
inductive Breaks (tags : List Tag) : TagViolation → Prop
  | repeated {front : List Tag} {t : Tag} {back : List Tag} (split : tags = front ++ t :: back)
      (distinct : (front.map Tag.key).Nodup) (again : t.key ∈ front.map Tag.key) : Breaks tags (.duplicateKey t.key)
  | empty (distinct : (tags.map Tag.key).Nodup) (there : "" ∈ tags.map Tag.key) : Breaks tags .emptyKey
  | reserved {key : String} (distinct : (tags.map Tag.key).Nodup) (there : key ∈ tags.map Tag.key)
      (starts : "aws:".toList <+: key.toList) (least : ∀ k ∈ tags.map Tag.key, k < key → FreeKey k) :
      Breaks tags (.reservedKey key)
  | many (distinct : (tags.map Tag.key).Nodup) (free : ∀ key ∈ tags.map Tag.key, FreeKey key)
      (exceeds : 50 < tags.length) : Breaks tags (.tooManyTags 50 tags.length)

namespace TagPolicy

/-! ### Keys that are named again -/

theorem checkUnseen_eq_ok_iff {seen : List String} {tags : List Tag} :
    checkUnseen seen tags = .ok () ↔ (∀ t ∈ tags, t.key ∉ seen) ∧ (tags.map Tag.key).Nodup := by
  refine ⟨nodup_of_checkUnseen, ?_⟩
  induction tags generalizing seen with
  | nil => exact fun _ => rfl
  | cons t tags ih =>
    rintro ⟨apart, distinct⟩
    rw [List.map_cons, List.nodup_cons] at distinct
    have unseen : ¬seen.contains t.key := by
      simpa using apart t List.mem_cons_self
    rw [checkUnseen, if_neg unseen]
    refine ih ⟨fun u hu there => ?_, distinct.2⟩
    rcases List.mem_cons.1 there with same | before
    · exact distinct.1 (List.mem_map.2 ⟨u, hu, same⟩)
    · exact apart u (List.mem_cons_of_mem _ hu) before

theorem checkUnseen_eq_error_iff {seen : List String} {tags : List Tag} {v : TagViolation} :
    checkUnseen seen tags = .error v ↔ ∃ front t back, tags = front ++ t :: back ∧
      checkUnseen seen front = .ok () ∧ (t.key ∈ seen ∨ t.key ∈ front.map Tag.key) ∧ v = .duplicateKey t.key := by
  induction tags generalizing seen with
  | nil => simp [checkUnseen]
  | cons u tags ih =>
    rw [checkUnseen]
    by_cases named : seen.contains u.key = true
    · rw [if_pos named, Except.error.injEq]
      constructor
      · rintro rfl
        exact ⟨[], u, tags, rfl, rfl, .inl (by simpa using named), rfl⟩
      · rintro ⟨_ | ⟨u', front⟩, t, back, split, passed, again, rfl⟩
        · cases split
          rfl
        · cases split
          rw [checkUnseen, if_pos named] at passed
          cases passed
    · rw [if_neg named, ih]
      constructor
      · rintro ⟨front, t, back, rfl, passed, again, rfl⟩
        refine ⟨u :: front, t, back, rfl, by rw [checkUnseen, if_neg named, passed], ?_, rfl⟩
        rw [List.map_cons, List.mem_cons]
        rw [List.mem_cons] at again
        tauto
      · rintro ⟨_ | ⟨u', front⟩, t, back, split, passed, again, rfl⟩
        · cases split
          exact absurd (by simpa using again) named
        · cases split
          rw [checkUnseen, if_neg named] at passed
          refine ⟨front, t, back, rfl, passed, ?_, rfl⟩
          rw [List.map_cons, List.mem_cons] at again
          rw [List.mem_cons]
          tauto

theorem checkUnique_eq_ok_iff {tags : List Tag} : checkUnique tags = .ok () ↔ (tags.map Tag.key).Nodup := by
  rw [checkUnique, checkUnseen_eq_ok_iff]
  simp

/-- The check for repeated keys stops at the first tag whose key was named before. -/
theorem checkUnique_eq_error_iff {tags : List Tag} {v : TagViolation} :
    checkUnique tags = .error v ↔ ∃ front t back, tags = front ++ t :: back ∧ (front.map Tag.key).Nodup ∧
      t.key ∈ front.map Tag.key ∧ v = .duplicateKey t.key := by
  rw [checkUnique, checkUnseen_eq_error_iff]
  simp only [List.not_mem_nil, false_or]
  exact exists₃_congr fun front t back => and_congr_right fun _ => and_congr_left fun _ => checkUnique_eq_ok_iff

/-! ### Keys that may not be given -/

theorem checkKey_eq_error_iff {key : String} {v : TagViolation} :
    standard.checkKey key = .error v ↔
      (key = "" ∧ v = .emptyKey) ∨ ("aws:".toList <+: key.toList ∧ v = .reservedKey key) := by
  by_cases none : key = ""
  · subst none
    have free : ¬"aws:".toList <+: "".toList := by decide
    show Except.error TagViolation.emptyKey = .error v ↔ _
    rw [Except.error.injEq, eq_self, true_and, or_iff_left fun h => free h.1, eq_comm]
  · have named : ¬key.isEmpty = true := by simpa using none
    rw [checkKey, if_neg named, or_iff_right fun h => none h.1]
    show (if "aws:".toList.isPrefixOf key.toList then _ else _) = _ ↔ _
    rw [← List.isPrefixOf_iff_prefix]
    split
    · next starts => rw [Except.error.injEq, and_iff_right starts, eq_comm]
    · next starts => exact iff_of_false nofun fun h => starts h.1

theorem checkKey_eq_ok_iff {key : String} : standard.checkKey key = .ok () ↔ FreeKey key := by
  refine ⟨freeKey_of_checkKey, fun free => ?_⟩
  cases checked : standard.checkKey key with
  | ok => rfl
  | error v =>
    rcases checkKey_eq_error_iff.1 checked with ⟨none, -⟩ | ⟨starts, -⟩
    · exact absurd none free.1
    · exact absurd starts free.2

theorem checkKeys_eq_ok_iff {p : TagPolicy} {keys : List String} :
    p.checkKeys keys = .ok () ↔ ∀ key ∈ keys, p.checkKey key = .ok () := by
  induction keys with
  | nil => simp [checkKeys]
  | cons key keys ih =>
    rw [checkKeys, List.forall_mem_cons, ← ih]
    cases p.checkKey key <;> simp

/-- The check of keys stops at the first one that is refused. -/
theorem checkKeys_eq_error_iff {p : TagPolicy} {keys : List String} {v : TagViolation} :
    p.checkKeys keys = .error v ↔ ∃ front key back, keys = front ++ key :: back ∧
      (∀ k ∈ front, p.checkKey k = .ok ()) ∧ p.checkKey key = .error v := by
  induction keys with
  | nil => simp [checkKeys]
  | cons key keys ih =>
    rw [checkKeys]
    cases first : p.checkKey key with
    | error e =>
      rw [Except.error.injEq]
      constructor
      · rintro rfl
        exact ⟨[], key, keys, rfl, by simp, first⟩
      · rintro ⟨_ | ⟨key', front⟩, k, back, split, passed, refused⟩
        · cases split
          exact Except.error.inj (first.symm.trans refused)
        · cases split
          cases first.symm.trans (passed key List.mem_cons_self)
    | ok =>
      rw [ih]
      constructor
      · rintro ⟨front, k, back, rfl, passed, refused⟩
        exact ⟨key :: front, k, back, rfl, List.forall_mem_cons.2 ⟨first, passed⟩, refused⟩
      · rintro ⟨_ | ⟨key', front⟩, k, back, split, passed, refused⟩
        · cases split
          cases first.symm.trans refused
        · cases split
          exact ⟨front, k, back, rfl, (List.forall_mem_cons.1 passed).2, refused⟩

/-- No key comes before the empty one, so of increasing keys it is looked at first. -/
theorem checkKeys_eq_error_iff_of_increasing {keys : List String} (sorted : keys.Pairwise (· < ·))
    {v : TagViolation} : standard.checkKeys keys = .error v ↔
      ("" ∈ keys ∧ v = .emptyKey) ∨ ∃ key ∈ keys, "aws:".toList <+: key.toList ∧
        (∀ k ∈ keys, k < key → FreeKey k) ∧ v = .reservedKey key := by
  have before {front back : List String} {key : String} (split : keys = front ++ key :: back) (k : String) :
      k ∈ front ↔ k ∈ keys ∧ k < key := by
    rw [split, List.pairwise_append, List.pairwise_cons] at sorted
    obtain ⟨-, ⟨behind, -⟩, across⟩ := sorted
    rw [split, List.mem_append, List.mem_cons]
    constructor
    · exact fun hk => ⟨.inl hk, across k hk key List.mem_cons_self⟩
    · rintro ⟨hk | rfl | hk, less⟩
      · exact hk
      · exact absurd less (String.lt_irrefl _)
      · exact absurd (String.lt_trans less (behind k hk)) (String.lt_irrefl _)
  rw [checkKeys_eq_error_iff]
  constructor
  · rintro ⟨front, key, back, split, passed, refused⟩
    have there : key ∈ keys := by simp [split]
    rcases checkKey_eq_error_iff.1 refused with ⟨rfl, rfl⟩ | ⟨starts, rfl⟩
    · exact .inl ⟨there, rfl⟩
    · refine .inr ⟨key, there, starts, fun k hk less => ?_, rfl⟩
      exact checkKey_eq_ok_iff.1 (passed k ((before split k).2 ⟨hk, less⟩))
  · rintro (⟨there, rfl⟩ | ⟨key, there, starts, least, rfl⟩)
    · obtain ⟨front, back, split⟩ := List.append_of_mem there
      refine ⟨front, "", back, split, fun k hk => ?_, rfl⟩
      have less := String.lt_iff.1 ((before split k).1 hk).2
      exact absurd less (List.not_lt_nil _)
    · obtain ⟨front, back, split⟩ := List.append_of_mem there
      refine ⟨front, key, back, split, fun k hk => ?_, checkKey_eq_error_iff.2 (.inr ⟨starts, rfl⟩)⟩
      obtain ⟨hk, less⟩ := (before split k).1 hk
      exact checkKey_eq_ok_iff.2 (least k hk less)

theorem merged_eq_error_iff {p : TagPolicy} {tags incoming : TagMap} {v : TagViolation} :
    p.merged tags incoming = .error v ↔ p.checkKeys incoming.keys = .error v ∨
      (p.checkKeys incoming.keys = .ok () ∧ p.maxTags < (tags.insertAll incoming.entries).size ∧
        v = .tooManyTags p.maxTags (tags.insertAll incoming.entries).size) := by
  unfold merged
  cases p.checkKeys incoming.keys with
  | error e => simp
  | ok _ =>
    by_cases many : p.maxTags < (tags.insertAll incoming.entries).size
    · simp [many, eq_comm]
    · simp [many]

end TagPolicy

/-! ### The tags of a new resource -/

theorem TagMap.mem_keys_ofTags_iff {tags : List Tag} {key : String} :
    key ∈ (TagMap.ofTags tags).keys ↔ key ∈ tags.map Tag.key := by
  refine SortedMap.mem_keys_insertAll_iff.trans ?_
  rw [List.map_map, or_iff_left (by simp [SortedMap.keys, SortedMap.empty])]
  rfl

theorem TagMap.mem_toTags_ofTags_iff {tags : List Tag} (distinct : (tags.map Tag.key).Nodup) {t : Tag} :
    t ∈ (TagMap.ofTags tags).toTags ↔ t ∈ tags := by
  rw [mem_toTags_iff, ofTags, SortedMap.get?_ofList]
  constructor
  · intro found
    obtain ⟨e, is, value⟩ := Option.map_eq_some_iff.1 found
    obtain ⟨u, there, rfl⟩ := List.mem_map.1 (List.mem_reverse.1 (List.mem_of_find?_eq_some is))
    have key : u.key = t.key := by simpa using List.find?_some is
    have same : u = t := by
      cases u; cases t
      simp_all
    exact same ▸ there
  · intro there
    have listed : (t.key, t.value) ∈ (tags.map fun t => (t.key, t.value)).reverse :=
      List.mem_reverse.2 (List.mem_map.2 ⟨t, there, rfl⟩)
    obtain ⟨e, is⟩ := Option.isSome_iff_exists.1 ((List.find?_isSome (p := (·.1 == t.key))).2 ⟨_, listed, by simp⟩)
    obtain ⟨u, there', rfl⟩ := List.mem_map.1 (List.mem_reverse.1 (List.mem_of_find?_eq_some is))
    have key : u.key = t.key := by simpa using List.find?_some is
    rw [is, List.inj_on_of_nodup_map distinct there' there key, Option.map_some]

/-- The tags of a list that names no key twice are the tags of its map. -/
theorem TagMap.toTags_ofTags_perm {tags : List Tag} (distinct : (tags.map Tag.key).Nodup) :
    (TagMap.ofTags tags).toTags.Perm tags := by
  have keys : ((TagMap.ofTags tags).toTags.map Tag.key).Nodup := by
    rw [map_key_toTags]
    exact SortedMap.nodup_keys _
  exact (List.perm_ext_iff_of_nodup (List.Nodup.of_map _ keys) (List.Nodup.of_map _ distinct)).2 fun _ =>
    mem_toTags_ofTags_iff distinct

theorem TagMap.size_ofTags {tags : List Tag} (distinct : (tags.map Tag.key).Nodup) :
    (TagMap.ofTags tags).size = tags.length := by
  have long := (toTags_ofTags_perm distinct).length_eq
  rwa [toTags, List.length_map] at long

namespace TagPolicy

/-- The tags of a resource that is made with a list of them, which may name a key only once. -/
def checked (tags : List Tag) : Except TagViolation TagMap := do
  checkUnique tags
  standard.merged .empty (.ofTags tags)

variable {tags : List Tag}

theorem checkKeys_ofTags_eq_ok_iff : standard.checkKeys (TagMap.ofTags tags).keys = .ok () ↔
    ∀ key ∈ tags.map Tag.key, FreeKey key := by
  simp only [checkKeys_eq_ok_iff, TagMap.mem_keys_ofTags_iff, checkKey_eq_ok_iff]

theorem checkKeys_ofTags_eq_error_iff {v : TagViolation} :
    standard.checkKeys (TagMap.ofTags tags).keys = .error v ↔
      ("" ∈ tags.map Tag.key ∧ v = .emptyKey) ∨ ∃ key ∈ tags.map Tag.key, "aws:".toList <+: key.toList ∧
        (∀ k ∈ tags.map Tag.key, k < key → FreeKey k) ∧ v = .reservedKey key := by
  have sorted : (TagMap.ofTags tags).keys.Pairwise (· < ·) := List.pairwise_map.2 (TagMap.ofTags tags).sorted
  simp only [checkKeys_eq_error_iff_of_increasing sorted, TagMap.mem_keys_ofTags_iff]

theorem insertAll_entries_empty (m : TagMap) : SortedMap.empty.insertAll m.entries = m :=
  SortedMap.ofList_entries m

/-- A map may stand by itself exactly if it keeps the rules. -/
theorem checkReplacement_eq_ok_iff {m : TagMap} : standard.checkReplacement m = .ok () ↔ m.Legal := by
  refine ⟨TagMap.legal_of_checkReplacement, fun legal => ?_⟩
  have few : m.size ≤ standard.maxTags := by
    have few := legal.few
    rwa [SortedMap.keys, List.length_map] at few
  have merged : standard.merged .empty m = .ok m := by
    refine merged_eq_ok_iff.2 ⟨checkKeys_eq_ok_iff.2 fun key there => ?_, ?_, (insertAll_entries_empty m).symm⟩
    · exact checkKey_eq_ok_iff.2 (legal.free key there)
    · rwa [insertAll_entries_empty]
  rw [checkReplacement, merged]
  rfl

/-- The checks allow a list of tags exactly if its keys keep the rules. -/
theorem checked_eq_ok_iff {m : TagMap} :
    checked tags = .ok m ↔ LegalKeys (tags.map Tag.key) ∧ m = .ofTags tags := by
  have both : checked tags = .ok m ↔
      checkUnique tags = .ok () ∧ standard.merged .empty (.ofTags tags) = .ok m := by
    unfold checked
    cases checkUnique tags <;> simp [bind, Except.bind]
  rw [both, checkUnique_eq_ok_iff, merged_eq_ok_iff, checkKeys_ofTags_eq_ok_iff, insertAll_entries_empty]
  constructor
  · rintro ⟨distinct, free, few, rfl⟩
    rw [TagMap.size_ofTags distinct] at few
    exact ⟨⟨by rw [List.length_map]; exact few, distinct, free⟩, rfl⟩
  · rintro ⟨⟨few, distinct, free⟩, rfl⟩
    rw [List.length_map] at few
    exact ⟨distinct, free, by rw [TagMap.size_ofTags distinct]; exact few, rfl⟩

/-- **What is reported of tags.** The checks refuse a list of tags with the first rule that it breaks. -/
theorem checked_eq_error_iff {v : TagViolation} : checked tags = .error v ↔ Breaks tags v := by
  have either : checked tags = .error v ↔ checkUnique tags = .error v ∨
      (checkUnique tags = .ok () ∧ standard.merged .empty (.ofTags tags) = .error v) := by
    unfold checked
    cases checkUnique tags <;> simp [bind, Except.bind]
  rw [either, checkUnique_eq_error_iff, checkUnique_eq_ok_iff, merged_eq_error_iff,
    checkKeys_ofTags_eq_error_iff, checkKeys_ofTags_eq_ok_iff, insertAll_entries_empty]
  constructor
  · rintro (⟨front, t, back, split, distinct, again, rfl⟩ |
      ⟨distinct, (⟨there, rfl⟩ | ⟨key, there, starts, least, rfl⟩) | ⟨free, exceeds, rfl⟩⟩)
    · exact .repeated split distinct again
    · exact .empty distinct there
    · exact .reserved distinct there starts least
    · rw [TagMap.size_ofTags distinct] at exceeds ⊢
      exact .many distinct free exceeds
  · intro breaks
    cases breaks with
    | repeated split distinct again => exact .inl ⟨_, _, _, split, distinct, again, rfl⟩
    | empty distinct there => exact .inr ⟨distinct, .inl (.inl ⟨there, rfl⟩)⟩
    | reserved distinct there starts least => exact .inr ⟨distinct, .inl (.inr ⟨_, there, starts, least, rfl⟩)⟩
    | many distinct free exceeds =>
      have size := TagMap.size_ofTags distinct
      exact .inr ⟨distinct, .inr ⟨free, by rw [size]; exact exceeds, by rw [size]; rfl⟩⟩

end TagPolicy

end MockCloud
