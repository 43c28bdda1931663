import MockCloud.Proofs.Tagging.Addressing
import MockCloud.Proofs.Tagging.Frame

/-! # The order of the names of a call

A call goes through its names in order and changes one backend after the other. Several names may stand for one
resource, and whether a resource may have the tags depends on those that it has. Still the order does not matter, nor
how often a name comes: a change that has been made is allowed once more and leaves what is there, and a resource that
may not have the change is as it was when the next of its names comes.

* `Underway p c q`: the change has been made to some resources of `p`, which is `q` by now.
* `Underway.failure?_eq`: each name fails as it does by itself, whatever came before it.
* `Settles p names c failed q`: what the call reports and leaves, said without an order.
* `order_free`: two calls with the same names end alike. -/

namespace MockCloud.Tagging

/-! ### What becomes of tags -/

/-- The new tags are the old ones with those of the call over them, or without its keys. -/
def Call.Turns : Call → (old new : Option TagMap) → Prop
  | tag tags, old, new => ∃ all, new = some all ∧ Overlaid tags (old.getD .empty) all
  | untag keys, old, new =>
    Option.Rel (fun tags rest => ∀ key, rest.get? key = if key ∈ keys then none else tags.get? key) old new

theorem Call.turns_iff {c : Call} {old new : Option TagMap} : c.Turns old new ↔ new = c.apply old := by
  cases c with
  | tag tags => simp only [Turns, overlaid_iff, apply, exists_eq_right]
  | untag keys =>
    have erased {tags rest : TagMap} : (∀ key, rest.get? key = if key ∈ keys then none else tags.get? key) ↔
        rest = tags.eraseKeys keys := by
      simp only [← TagMap.get?_eraseKeys]
      exact ⟨SortedMap.ext_get?, fun same _ => by rw [same]⟩
    cases old <;> cases new <;> simp [Turns, apply, erased]

namespace Place

/-- How the change behind one name fails, if it does. -/
def failure? (p : Place) (c : Call) (s : String) : Option FailedResource :=
  match (p.handle c.operation s).result with
  | .ok () => none
  | .error f => some f

section

variable {p : Place} {c : Call} {s : String}

/-- A change that fails changes nothing. -/
theorem failure?_eq_some_iff {f : FailedResource} : p.failure? c s = some f ↔ p.handle c.operation s = .fail f p := by
  have handled := handle_handled p c s
  unfold failure?
  generalize p.handle c.operation s = o at handled ⊢
  cases handled with
  | refused => simp [Outcome.fail]
  | done => simp [Outcome.fail, Outcome.ok]

theorem failure?_eq_none_iff : p.failure? c s = none ↔ p.Takes c s := by
  have handled := handle_handled p c s
  unfold failure?
  generalize p.handle c.operation s = o at handled ⊢
  cases handled with
  | refused why =>
    refine iff_of_false (by simp) ?_
    rintro ⟨r, x, aims, there, allowed⟩
    exact why r x aims there allowed
  | done aims there allowed => exact iff_of_true (by simp) ⟨_, _, aims, there, allowed⟩

end

/-! ### While a call goes on -/

/-- In `q` the change has been made to some resources of `p`, and nothing else is different. -/
structure Underway (p : Place) (c : Call) (q : Place) : Prop where
  rest : q.bare = p.bare
  labels : ∀ r, q.label? r = p.label? r ∨
    ∃ x, p.label? r = some x ∧ c.Allowed r x.tags ∧ q.label? r = some ⟨x.arn, c.apply x.tags⟩

namespace Underway

variable {p q : Place} {c : Call}

theorem refl (p : Place) (c : Call) : Underway p c p :=
  ⟨rfl, fun _ => .inl rfl⟩

theorem handle (h : Underway p c q) (s : String) : Underway p c (q.handle c.operation s).state := by
  refine ⟨(bare_handle c s q).trans h.rest, fun r => ?_⟩
  have handled := handle_handled q c s
  generalize q.handle c.operation s = o at handled
  cases handled with
  | refused => exact h.labels r
  | @done r' x _ aims there allowed relabelled =>
    rw [Outcome.state_ok, relabelled]
    split
    · next same =>
      subst same
      rcases h.labels r with left | ⟨y, was, may, is⟩
      · exact .inr ⟨x, left.symm.trans there, allowed, rfl⟩
      · -- the change had been made before
        cases is.symm.trans there
        exact .inr ⟨y, was, may, by rw [c.apply_apply]⟩
    · exact h.labels r

theorem handleAll (h : Underway p c q) (names : List String) (failed : SortedMap FailedResource) :
    Underway p c (q.handleAll c.operation failed names).2 := by
  induction names generalizing q failed with
  | nil => exact h
  | cons s names ih =>
    rw [Place.handleAll]
    split <;> exact ih (h.handle s) _

theorem takes_iff (h : Underway p c q) (s : String) : q.Takes c s ↔ p.Takes c s := by
  constructor
  · rintro ⟨r, x, aims, there, allowed⟩
    rcases h.labels r with left | ⟨y, was, may, -⟩
    · exact ⟨r, x, aims, left.symm.trans there, allowed⟩
    · exact ⟨r, y, aims, was, may⟩
  · rintro ⟨r, x, aims, there, allowed⟩
    rcases h.labels r with left | ⟨y, was, may, is⟩
    · exact ⟨r, x, aims, left.trans there, allowed⟩
    · exact ⟨r, _, aims, is, may.again⟩

/-- **A name fails as it does by itself**, whatever came before it: if it fails, nothing has been changed behind it. -/
theorem failure?_eq (h : Underway p c q) (s : String) : q.failure? c s = p.failure? c s := by
  by_cases takes : p.Takes c s
  · rw [failure?_eq_none_iff.2 takes, failure?_eq_none_iff.2 ((h.takes_iff s).2 takes)]
  · have label : ∀ r, target? s = some r → q.label? r = p.label? r := fun r aims =>
      (h.labels r).resolve_right fun ⟨x, was, may, _⟩ => takes ⟨r, x, aims, was, may⟩
    rw [failure?, failure?, result_handle h.rest c label]

/-- What is reported of a name, after the reports of names before the list. -/
theorem get?_handleAll (h : Underway p c q) (names : List String) (failed : SortedMap FailedResource) (s : String) :
    (q.handleAll c.operation failed names).1.get? s =
      (if s ∈ names then p.failure? c s else none).or (failed.get? s) := by
  induction names generalizing q failed with
  | nil => rfl
  | cons s' names ih =>
    rw [Place.handleAll]
    cases first : (q.handle c.operation s').result with
    | ok done =>
      have fine : p.failure? c s' = none := by rw [← h.failure?_eq, failure?, first]
      rw [ih (h.handle s')]
      by_cases same : s = s' <;> simp [same, fine]
    | error f =>
      have fails : p.failure? c s' = some f := by rw [← h.failure?_eq, failure?, first]
      rw [ih (h.handle s'), SortedMap.get?_insert]
      by_cases same : s = s'
      · subst same
        by_cases again : s ∈ names <;> simp [again, fails]
      · simp [same]

end Underway

/-! ### After a call -/

/-- What a call for these names reports and leaves: a name is reported if its change fails, and as it fails by itself.
Each other name stands for a resource, which has the change made to its old tags. Nothing else is different. -/
structure Settles (p : Place) (names : List String) (c : Call) (failed : SortedMap FailedResource) (q : Place) :
    Prop where
  reported : ∀ s f, failed.get? s = some f ↔ s ∈ names ∧ p.handle c.operation s = .fail f p
  rest : q.bare = p.bare
  changed : ∀ s ∈ names, failed.get? s = none → ∃ r x new, target? s = some r ∧ p.label? r = some x ∧
    q.label? r = some ⟨x.arn, new⟩ ∧ c.Turns x.tags new
  others : ∀ r, (∀ s ∈ names, failed.get? s = none → target? s ≠ some r) → q.label? r = p.label? r

section

variable {p : Place} {c : Call} {names names' : List String}

theorem settles_handleAll (p : Place) (c : Call) (names : List String) :
    Settles p names c (p.handleAll c.operation .empty names).1 (p.handleAll c.operation .empty names).2 := by
  have get? (s : String) : (p.handleAll c.operation .empty names).1.get? s =
      if s ∈ names then p.failure? c s else none := by
    rw [(Underway.refl p c).get?_handleAll, SortedMap.get?_empty, Option.or_none]
  have taken {s : String} (listed : s ∈ names) :
      (p.handleAll c.operation .empty names).1.get? s = none ↔ p.Takes c s := by
    rw [get?, if_pos listed, failure?_eq_none_iff]
  refine ⟨fun s f => ?_, ((Underway.refl p c).handleAll names _).rest, fun s listed fine => ?_, fun r apart => ?_⟩
  · rw [get?, Option.ite_none_right_eq_some, failure?_eq_some_iff]
  · obtain ⟨r, x, aims, there, allowed⟩ := (taken listed).1 fine
    exact ⟨r, x, _, aims, there, handleAll_label_taken names _ listed aims there allowed, Call.turns_iff.2 rfl⟩
  · exact handleAll_label_left names _ fun s listed aims takes => apart s listed ((taken listed).2 takes) aims

/-- Reports and the place afterwards are told by the names that are listed. -/
theorem Settles.unique {failed failed' : SortedMap FailedResource} {q q' : Place} (h : Settles p names c failed q)
    (h' : Settles p names' c failed' q') (same : ∀ s, s ∈ names ↔ s ∈ names') : failed = failed' ∧ q = q' := by
  have reports : failed = failed' :=
    SortedMap.ext_get? fun s => Option.ext fun f => by rw [h.reported, h'.reported, same]
  subst reports
  refine ⟨rfl, eq_of_bare (h.rest.trans h'.rest.symm) fun r => ?_⟩
  by_cases named : ∃ s ∈ names, failed.get? s = none ∧ target? s = some r
  · obtain ⟨s, listed, fine, aims⟩ := named
    obtain ⟨r₁, x₁, new₁, aims₁, was₁, is₁, turned₁⟩ := h.changed s listed fine
    obtain ⟨r₂, x₂, new₂, aims₂, was₂, is₂, turned₂⟩ := h'.changed s ((same s).1 listed) fine
    cases aims.symm.trans aims₁
    cases aims.symm.trans aims₂
    cases was₁.symm.trans was₂
    rw [is₁, is₂, Call.turns_iff.1 turned₁, Call.turns_iff.1 turned₂]
  · have apart : ∀ s ∈ names, failed.get? s = none → target? s ≠ some r := fun s listed fine aims =>
      named ⟨s, listed, fine, aims⟩
    rw [h.others r apart, h'.others r fun s listed => apart s ((same s).2 listed)]

/-- The names that are reported could be left out. -/
theorem Settles.without_reported {failed : SortedMap FailedResource} {q : Place} (h : Settles p names c failed q)
    (fine : ∀ s, s ∈ names' ↔ s ∈ names ∧ failed.get? s = none) : Settles p names' c .empty q where
  reported s f := by
    refine iff_of_false (by simp) ?_
    rintro ⟨listed, fails⟩
    obtain ⟨listed, none⟩ := (fine s).1 listed
    cases none.symm.trans ((h.reported s f).2 ⟨listed, fails⟩)
  rest := h.rest
  changed s listed _ := h.changed s ((fine s).1 listed).1 ((fine s).1 listed).2
  others r apart := h.others r fun s listed none => apart s ((fine s).2 ⟨listed, none⟩) rfl

/-- What is said of a call tells how it ends. -/
theorem Settles.call_eq {failed : SortedMap FailedResource} {q : Place} (h : Settles p names c failed q)
    (same : ∀ s, s ∈ names ↔ s ∈ names') (listed : names' ≠ []) (few : names'.length ≤ nameLimit) :
    p.call names' c = .ok failed q := by
  obtain ⟨reports, place⟩ := h.unique (settles_handleAll p c names') same
  rw [call_of_length listed few, reports, place]

/-- **The order of the names does not matter**, nor does it matter how often they come. For any state of the four
backends, two calls for up to twenty names that list the same names report the same failures and leave the same place.
A name is reported if its change fails, and by itself the change then leaves the place as it is; the names that are not
reported leave the same place without it. Each of them stands for a resource, whose old tags have those of the call over
them afterwards, or have lost the call's keys. Nothing else is different. -/
theorem order_free (p : Place) (c : Call) (same : ∀ s, s ∈ names ↔ s ∈ names') (listed : names ≠ [])
    (few : names.length ≤ nameLimit) (few' : names'.length ≤ nameLimit) :
    ∃ failed q, p.call names c = .ok failed q ∧ p.call names' c = .ok failed q ∧ Settles p names c failed q ∧
      ∀ fine, (∀ s, s ∈ fine ↔ s ∈ names ∧ failed.get? s = none) → fine ≠ [] → fine.length ≤ nameLimit →
        p.call fine c = .ok .empty q := by
  have settles := settles_handleAll p c names
  have listed' : names' ≠ [] := by
    obtain ⟨s, there⟩ := List.exists_mem_of_ne_nil names listed
    exact List.ne_nil_of_mem ((same s).1 there)
  exact ⟨_, _, settles.call_eq (fun _ => Iff.rfl) listed few, settles.call_eq same listed' few', settles,
    fun fine is => (settles.without_reported is).call_eq fun _ => Iff.rfl⟩

end

/-- Two names of one pipeline, one of them twice, and the name of a bucket that is not there. -/
theorem order_free_sparse :
    (∀ s, s ∈ [foreign, "arn:aws:s3:::logs", pipe.arn, foreign] ↔ s ∈ ["arn:aws:s3:::logs", pipe.arn, foreign]) ∧
      ∃ failed q, sparse.call [foreign, "arn:aws:s3:::logs", pipe.arn, foreign] teamTag = .ok failed q ∧
        sparse.call ["arn:aws:s3:::logs", pipe.arn, foreign] teamTag = .ok failed q ∧
        failed.get? "arn:aws:s3:::logs" ≠ none := by
  have same : ∀ s, s ∈ [foreign, "arn:aws:s3:::logs", pipe.arn, foreign] ↔
      s ∈ ["arn:aws:s3:::logs", pipe.arn, foreign] := by
    intro s
    simp only [List.mem_cons, List.not_mem_nil, or_false]
    grind
  obtain ⟨failed, q, one, other, settles, -⟩ := order_free sparse teamTag same (by simp) (by decide) (by decide)
  refine ⟨same, failed, q, one, other, fun none => ?_⟩
  obtain ⟨r, x, new, aims, there, -⟩ := settles.changed "arn:aws:s3:::logs" (by simp) none
  have logs : target? "arn:aws:s3:::logs" = some (.bucket "logs") := by decide +kernel
  cases logs.symm.trans aims
  cases there

end Place

end MockCloud.Tagging
