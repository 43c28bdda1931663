import MockCloud.Proofs.Tagging.Handling

/-! # Changes of tags for a list of names

A call goes through its names one after the other. Because a change made twice is the change made once, what
a call leaves does not depend on where in the list a name stands: a resource has the tags after the change
if a name of the list stands for it and it may have them, and its old label otherwise.

* `Takes p c s`: the change behind the name `s` is made, at the place before the call.
* `handleAll_label_left`, `handleAll_label_taken` and `handleAll_failed`: the labels after a run through a
  list, and the names that it reports. -/

namespace MockCloud.Tagging

/-! ### A change made twice -/

theorem Call.apply_apply (c : Call) (old : Option TagMap) : c.apply (c.apply old) = c.apply old := by
  cases c with
  | tag tags => exact congrArg some (SortedMap.insertAll_insertAll _ _)
  | untag keys =>
    cases old with
    | none => rfl
    | some tags => exact congrArg some (tags.eraseKeys_eraseKeys keys)

/-- A change that is allowed is allowed once more. -/
theorem Call.Allowed.again {c : Call} {r : Resource} {old : Option TagMap} (h : c.Allowed r old) :
    c.Allowed r (c.apply old) := by
  cases c with
  | tag tags =>
    obtain ⟨⟨all, merged⟩, unique⟩ := h
    refine ⟨⟨all, ?_⟩, unique⟩
    obtain ⟨keys, few, rfl⟩ := TagPolicy.merged_eq_ok_iff.1 merged
    have twice := SortedMap.insertAll_insertAll (old.getD .empty) (TagMap.ofTags tags).entries
    rw [TagPolicy.merged_eq_ok_iff, Call.apply, Option.getD_some, twice]
    exact ⟨keys, few, rfl⟩
  | untag keys => trivial

/-! ### Runs through a list -/

/-- A name stands for a resource of the place that may have the change. -/
def Place.Takes (p : Place) (c : Call) (s : String) : Prop :=
  ∃ r x, target? s = some r ∧ p.label? r = some x ∧ c.Allowed r x.tags

section

variable {p q : Place} {c : Call} {s : String}

/-- The change behind a name takes no other change away, and gives none. -/
theorem Handled.takes_iff (h : Handled p c s (.ok () q)) (s' : String) : q.Takes c s' ↔ p.Takes c s' := by
  cases h with
  | @done r x q aims there allowed relabelled =>
    unfold Place.Takes
    constructor
    · rintro ⟨r', y, aims', there', allowed'⟩
      rw [relabelled] at there'
      split at there'
      · next same => subst same; exact ⟨r', x, aims', there, allowed⟩
      · exact ⟨r', y, aims', there', allowed'⟩
    · rintro ⟨r', y, aims', there', allowed'⟩
      by_cases same : r' = r
      · subst same
        exact ⟨r', _, aims', by rw [relabelled, if_pos rfl], allowed.again⟩
      · exact ⟨r', y, aims', by rw [relabelled, if_neg same, there'], allowed'⟩

end

/-- The first name of a list is reported, or the change behind it is made, and the run goes on. -/
theorem handleAll_cons_cases (p : Place) (c : Call) (failed : SortedMap FailedResource) (s : String)
    (names : List String) :
    (∃ f, ¬p.Takes c s ∧
        p.handleAll c.operation failed (s :: names) = p.handleAll c.operation (failed.insert s f) names) ∨
      ∃ r x, ∃ q : Place, target? s = some r ∧ p.label? r = some x ∧ c.Allowed r x.tags ∧
        (∀ r', q.label? r' = if r' = r then some ⟨x.arn, c.apply x.tags⟩ else p.label? r') ∧
        (∀ s', q.Takes c s' ↔ p.Takes c s') ∧
        p.handleAll c.operation failed (s :: names) = q.handleAll c.operation failed names := by
  have handled := handle_handled p c s
  rw [Place.handleAll]
  generalize p.handle c.operation s = o at handled ⊢
  cases handled with
  | @refused f why =>
    refine .inl ⟨f, ?_, rfl⟩
    rintro ⟨r, x, aims, there, allowed⟩
    exact why r x aims there allowed
  | @done r x q aims there allowed relabelled =>
    exact .inr ⟨r, x, q, aims, there, allowed, relabelled,
      (Handled.done aims there allowed relabelled).takes_iff, rfl⟩

section

variable {c : Call} {r : Resource} {x : Label}

/-- Tags that the change has been made to stay as they are. -/
theorem handleAll_label_settled (names : List String) {p : Place} (failed : SortedMap FailedResource)
    (there : p.label? r = some ⟨x.arn, c.apply x.tags⟩) :
    (p.handleAll c.operation failed names).2.label? r = some ⟨x.arn, c.apply x.tags⟩ := by
  induction names generalizing p failed with
  | nil => exact there
  | cons s names ih =>
    rcases handleAll_cons_cases p c failed s names with
      ⟨f, -, next⟩ | ⟨r', y, q, -, there', -, relabelled, -, next⟩
    · rw [next]
      exact ih _ there
    · rw [next]
      refine ih _ ?_
      rw [relabelled]
      split
      · next same =>
        subst same
        cases there.symm.trans there'
        rw [c.apply_apply]
      · exact there

/-- A resource that no name may change keeps its label, and what is missing stays missing. -/
theorem handleAll_label_left (names : List String) {p : Place} (failed : SortedMap FailedResource)
    (left : ∀ s ∈ names, target? s = some r → ¬p.Takes c s) :
    (p.handleAll c.operation failed names).2.label? r = p.label? r := by
  induction names generalizing p failed with
  | nil => rfl
  | cons s names ih =>
    obtain ⟨first, rest⟩ := List.forall_mem_cons.1 left
    rcases handleAll_cons_cases p c failed s names with
      ⟨f, -, next⟩ | ⟨r', y, q, aims, there, allowed, relabelled, takes, next⟩
    · rw [next]
      exact ih _ rest
    · have other : r ≠ r' := fun same => first (same ▸ aims) ⟨r', y, aims, there, allowed⟩
      rw [next, ih _ fun s' hs' aims' => (takes s').not.2 (rest s' hs' aims'), relabelled, if_neg other]

/-- A resource that a name of the list stands for has the change made, once. -/
theorem handleAll_label_taken (names : List String) {p : Place} (failed : SortedMap FailedResource)
    {s : String} (listed : s ∈ names) (aims : target? s = some r) (there : p.label? r = some x)
    (allowed : c.Allowed r x.tags) :
    (p.handleAll c.operation failed names).2.label? r = some ⟨x.arn, c.apply x.tags⟩ := by
  induction names generalizing p failed with
  | nil => cases listed
  | cons s' names ih =>
    rcases handleAll_cons_cases p c failed s' names with
      ⟨f, refused, next⟩ | ⟨r', y, q, aims', there', -, relabelled, -, next⟩
    · rw [next]
      rcases List.mem_cons.1 listed with rfl | listed
      · exact absurd ⟨r, x, aims, there, allowed⟩ refused
      · exact ih _ listed there
    · rw [next]
      by_cases same : r = r'
      · subst same
        cases there.symm.trans there'
        refine handleAll_label_settled names _ ?_
        rw [relabelled, if_pos rfl]
      · rcases List.mem_cons.1 listed with rfl | listed
        · exact absurd (Option.some.inj (aims.symm.trans aims')) same
        · refine ih _ listed ?_
          rw [relabelled, if_neg same, there]

end

/-- The names that are reported: those that were before, and those of the list with no change behind them. -/
theorem handleAll_failed (c : Call) (names : List String) (p : Place) (failed : SortedMap FailedResource)
    (s : String) :
    (p.handleAll c.operation failed names).1.contains s = true ↔
      failed.contains s = true ∨ s ∈ names ∧ ¬p.Takes c s := by
  induction names generalizing p failed with
  | nil => simp [Place.handleAll]
  | cons s' names ih =>
    rw [List.mem_cons]
    rcases handleAll_cons_cases p c failed s' names with
      ⟨f, refused, next⟩ | ⟨r, x, q, aims, there, allowed, -, takes, next⟩
    · have reported : (failed.insert s' f).contains s = true ↔ s = s' ∨ failed.contains s = true := by
        simp only [SortedMap.contains, SortedMap.get?_insert]
        split <;> simp [*]
      rw [next, ih, reported]
      constructor
      · rintro ((rfl | before) | ⟨listed, no⟩)
        · exact .inr ⟨.inl rfl, refused⟩
        · exact .inl before
        · exact .inr ⟨.inr listed, no⟩
      · rintro (before | ⟨rfl | listed, no⟩)
        · exact .inl (.inr before)
        · exact .inl (.inl rfl)
        · exact .inr ⟨listed, no⟩
    · have taken : p.Takes c s' := ⟨r, x, aims, there, allowed⟩
      rw [next, ih, takes]
      constructor
      · rintro (before | ⟨listed, no⟩)
        · exact .inl before
        · exact .inr ⟨.inr listed, no⟩
      · rintro (before | ⟨rfl | listed, no⟩)
        · exact .inl before
        · exact absurd taken no
        · exact .inr ⟨listed, no⟩

end MockCloud.Tagging
