import MockCloud.Proofs.Bucket.Operation

/-! # Lifecycle rules that fit

A lifecycle configuration is put on a bucket as a whole or not at all: its rules are checked one after the other, and
nothing is written before the last one has passed.

* `LifecycleRule.Fits r`: the parts of a rule fit together.
* `LifecycleRule.validate_cases`, `validateRules_cases`: the checks pass exactly on rules that fit, and there is one
  error for all others.
* `Shelf.LifecyclesFit.run`: the rules of every bucket fit, after every run.
* `Shelf.lifecycle_configured`: what comes of a configuration, where a run has led. -/

namespace MockCloud.Bucket

/-! ### What fits -/

/-- One of the two is given, but not both. -/
def OneGiven {α β : Type} (a : Option α) (b : Option β) : Prop :=
  (a.isSome ∧ b = none) ∨ (a = none ∧ b.isSome)

/-- No two members are given. -/
structure LifecycleFilter.Fits (f : LifecycleFilter) : Prop where
  keyStart_tag : f.keyStart = none ∨ f.tag = none
  keyStart_and : f.keyStart = none ∨ f.and = none
  tag_and : f.tag = none ∨ f.and = none

/-- The parts of a rule fit together. -/
structure LifecycleRule.Fits (r : LifecycleRule) : Prop where
  status : r.status = "Enabled" ∨ r.status = "Disabled"
  covers : OneGiven r.keyStart r.filter
  filter : ∀ f, r.filter = some f → f.Fits
  expiration : ∀ e, r.expiration = some e → e.expiredObjectDeleteMarker.isSome → e.days = none ∧ e.date = none
  transitions : ∀ t ∈ r.transitions, t.storageClass.isSome ∧ OneGiven t.days t.date
  noncurrentTransitions : ∀ t ∈ r.noncurrentTransitions, t.noncurrentDays.isSome ∧ t.storageClass.isSome

/-! ### What the checks accept -/

theorem oneGiven_iff {α β : Type} {a : Option α} {b : Option β} : OneGiven a b ↔ (a.isSome != b.isSome) = true := by
  cases a <;> cases b <;> simp [OneGiven]

theorem LifecycleFilter.isValid_iff {f : LifecycleFilter} : f.isValid = true ↔ f.Fits := by
  -- the members that are given are counted
  have few (a b c : Bool) : a.toNat + b.toNat + c.toNat ≤ 1 ↔
      (a = false ∨ b = false) ∧ (a = false ∨ c = false) ∧ (b = false ∨ c = false) := by
    decide +revert
  rw [isValid, decide_eq_true_iff, few]
  simp only [Option.isSome_eq_false_iff, Option.isNone_iff_eq_none]
  constructor
  · rintro ⟨keyStart_tag, keyStart_and, tag_and⟩
    exact ⟨keyStart_tag, keyStart_and, tag_and⟩
  · exact fun fits => ⟨fits.keyStart_tag, fits.keyStart_and, fits.tag_and⟩

theorem Expiration.isValid_iff {e : Expiration} :
    e.isValid = true ↔ (e.expiredObjectDeleteMarker.isSome → e.days = none ∧ e.date = none) := by
  simp [isValid, Decidable.imp_iff_not_or]

theorem Transition.isValid_iff {t : Transition} : t.isValid = true ↔ t.storageClass.isSome ∧ OneGiven t.days t.date := by
  rw [isValid, Bool.and_eq_true, oneGiven_iff]

theorem NoncurrentTransition.isValid_iff {t : NoncurrentTransition} :
    t.isValid = true ↔ t.noncurrentDays.isSome ∧ t.storageClass.isSome :=
  Bool.and_eq_true_iff

namespace LifecycleRule

theorem coverIsValid_iff {r : LifecycleRule} :
    r.coverIsValid = true ↔ OneGiven r.keyStart r.filter ∧ ∀ f, r.filter = some f → f.Fits := by
  unfold coverIsValid
  cases r.keyStart <;> cases r.filter <;> simp [OneGiven, LifecycleFilter.isValid_iff]

theorem validate_eq_ok_iff {r : LifecycleRule} : r.validate = .ok () ↔ r.Fits := by
  have parts : r.validate = .ok () ↔ (r.status = "Enabled" ∨ r.status = "Disabled") ∧ r.coverIsValid = true ∧
      r.expiration.all Expiration.isValid = true ∧ r.transitions.all Transition.isValid = true ∧
        r.noncurrentTransitions.all NoncurrentTransition.isValid = true := by
    simp [validate, and_assoc]
  simp only [parts, coverIsValid_iff, Option.all_eq_true, List.all_eq_true, Expiration.isValid_iff,
    Transition.isValid_iff, NoncurrentTransition.isValid_iff]
  constructor
  · rintro ⟨status, ⟨covers, filter⟩, expiration, transitions, noncurrent⟩
    exact ⟨status, covers, filter, expiration, transitions, noncurrent⟩
  · intro fits
    exact ⟨fits.status, ⟨fits.covers, fits.filter⟩, fits.expiration, fits.transitions, fits.noncurrentTransitions⟩

theorem validate_cases (r : LifecycleRule) :
    (r.Fits ∧ r.validate = .ok ()) ∨ (¬r.Fits ∧ r.validate = .error .malformedRules) := by
  rw [← validate_eq_ok_iff]
  unfold validate
  split
  · exact .inl ⟨rfl, rfl⟩
  · exact .inr ⟨by simp, rfl⟩

end LifecycleRule

/-- A list of rules is refused at the first rule that does not fit. -/
theorem validateRules_cases (rules : List LifecycleRule) :
    ((∀ r ∈ rules, r.Fits) ∧ validateRules rules = .ok ()) ∨
      (¬(∀ r ∈ rules, r.Fits) ∧ validateRules rules = .error .malformedRules) := by
  induction rules with
  | nil => exact .inl ⟨by simp, rfl⟩
  | cons r rules ih =>
    have first : validateRules (r :: rules) = r.validate.bind fun _ => validateRules rules :=
      rfl
    rw [first, List.forall_mem_cons]
    rcases r.validate_cases with ⟨fits, passed⟩ | ⟨off, refused⟩
    · rw [passed]
      rcases ih with ⟨all, passed⟩ | ⟨off, refused⟩
      · exact .inl ⟨⟨fits, all⟩, passed⟩
      · exact .inr ⟨fun all => off all.2, refused⟩
    · rw [refused]
      exact .inr ⟨fun all => off all.1, rfl⟩

namespace Shelf

/-! ### What is stored fits -/

/-- The rules of every bucket that has a lifecycle configuration fit. -/
def LifecyclesFit (s : Shelf) : Prop :=
  s.buckets.Each fun _ b => ∀ rules, b.lifecycle = some rules → ∀ r ∈ rules, r.Fits

theorem lifecyclesFit_blank (scope : Scope) : (blank scope).LifecyclesFit :=
  Store.each_new _ _

theorem LifecyclesFit.step {s : Shelf} (h : s.LifecyclesFit) (op : Op) : (s.step op).LifecyclesFit := by
  have effect := s.perform_effect op
  unfold Shelf.step
  generalize s.perform op = o at effect ⊢
  cases effect with
  | refused e => exact h
  | created _ _ => exact h.put (fun _ none => by cases none)
  | deleted _ => exact h.drop _
  | retagged there _ =>
    have fit := h _ _ there
    exact h.put fit
  -- the only way for rules to get on a bucket, and they have been checked
  | @lifecyclePut _ rules _ _ valid =>
    refine h.put fun rules' stored => ?_
    cases stored
    rcases validateRules_cases rules with ⟨fit, -⟩ | ⟨-, refused⟩
    · exact fit
    · cases valid.symm.trans refused
  | lifecycleDeleted _ => exact h.put (fun _ none => by cases none)

theorem LifecyclesFit.run {s : Shelf} (h : s.LifecyclesFit) (ops : List Op) : (s.run ops).LifecyclesFit :=
  List.foldlRecOn ops Shelf.step h fun _ hs op _ => hs.step op

/-! ### Putting a configuration -/

/-- A configuration that is put on a bucket changes the bucket and leaves the others alone. -/
theorem putLifecycle_of_get? {s : Shelf} {name : String} {b : Bucket} (there : s.buckets.get? name = some b)
    (rules : List LifecycleRule) :
    s.putLifecycle name rules = (b.setLifecycle (some rules)).within fun b => s.put name b := by
  unfold putLifecycle
  rcases Store.update_cases s.buckets name (some rules) with
    ⟨missing, -⟩ | ⟨a, b', stored, ⟨changed, h⟩ | ⟨e, changed, h⟩⟩
  · cases missing.symm.trans there
  all_goals
    cases stored.symm.trans there
    change b.setLifecycle (some rules) = _ at changed
    rw [h, changed]
    rfl

/-- A configuration is stored as it is given, or refused with nothing changed. -/
theorem putLifecycle_cases {s : Shelf} {name : String} {b : Bucket} (there : s.buckets.get? name = some b)
    (rules : List LifecycleRule) :
    ((∀ r ∈ rules, r.Fits) ∧
        s.putLifecycle name rules = .ok () (s.put name { b with lifecycle := some rules })) ∨
      (¬(∀ r ∈ rules, r.Fits) ∧ s.putLifecycle name rules = .fail .malformedRules s) := by
  rw [putLifecycle_of_get? there, setLifecycle, Option.getD_some]
  rcases validateRules_cases rules with ⟨fit, passed⟩ | ⟨off, refused⟩
  · rw [passed]
    exact .inl ⟨fit, rfl⟩
  · have same : s.put name b = s := by
      rw [put, Store.put_of_get? there]
    rw [refused, Outcome.guard_error, Outcome.within_fail, same]
    exact .inr ⟨off, rfl⟩

theorem lifecycleOf_eq_ok_iff {s : Shelf} {name : String} {rules : List LifecycleRule} :
    s.lifecycleOf name = .ok rules ↔ ∃ b, s.buckets.get? name = some b ∧ b.lifecycle = some rules := by
  unfold lifecycleOf get
  rcases Store.require_cases s.buckets name with ⟨missing, h⟩ | ⟨b, there, h⟩
  · rw [h, missing]
    simp
  · rw [h, there]
    cases stored : b.lifecycle <;> simp [stored]

/-- **Lifecycle configurations.** In every state that a run reaches, a configuration can be put on a bucket that is
there exactly if all of its rules fit. Then its rules are listed as they were given; otherwise there is one error, and
everything is as it was. So the rules that are listed in such a state always fit. -/
theorem lifecycle_configured (scope : Scope) (ops : List Op) :
    let s := (blank scope).run ops
    (∀ (name : String) (b : Bucket) (rules : List LifecycleRule), s.buckets.get? name = some b →
      let o := s.putLifecycle name rules
      (o.result = .ok () ↔ ∀ r ∈ rules, r.Fits) ∧
        (o.result = .ok () → o.state.lifecycleOf name = .ok rules) ∧
        ∀ e, o.result = .error e → e = .malformedRules ∧ o.state = s) ∧
    ∀ (name : String) (rules : List LifecycleRule), s.lifecycleOf name = .ok rules → ∀ r ∈ rules, r.Fits := by
  intro s
  refine ⟨fun name b rules there => ?_, fun name rules listed => ?_⟩
  · rcases putLifecycle_cases there rules with ⟨fit, h⟩ | ⟨off, h⟩
    · have listed : (s.put name { b with lifecycle := some rules }).lifecycleOf name = .ok rules :=
        lifecycleOf_eq_ok_iff.2 ⟨_, (Store.get?_put ..).trans (if_pos rfl), rfl⟩
      rw [h]
      exact ⟨iff_of_true rfl fit, fun _ => listed, fun e failed => by cases failed⟩
    · rw [h]
      refine ⟨iff_of_false (fun done => by cases done) off, (fun done => by cases done), fun e failed => ?_⟩
      cases failed
      exact ⟨rfl, rfl⟩
  · obtain ⟨b, there, stored⟩ := lifecycleOf_eq_ok_iff.1 listed
    exact (lifecyclesFit_blank scope).run ops name b there rules stored

/-! ### A configuration that is replaced -/

/-- Objects of the whole bucket go after a week. -/
def weekly : LifecycleRule where
  id := some "wholebucket"
  status := "Enabled"
  keyStart := none
  filter := some ⟨some "", none, none⟩
  expiration := some ⟨some 7, none, none⟩
  transitions := []
  noncurrentTransitions := []
  noncurrentExpirationDays := none
  abortIncompleteUploadDays := none

/-- A rule that says in two ways what it covers. -/
def doubled : LifecycleRule :=
  { weekly with keyStart := some "" }

/-- A bucket is made whose objects go after a week. -/
def logs : List Op :=
  [.create "logs" "us-east-1" ⟨0, 0⟩, .putLifecycle "logs" [weekly]]

/-- The fault of the last rule keeps the one before it out. -/
theorem lifecycle_configured_logs :
    let s := (blank { account := "123456789012", region := globalRegion }).run logs
    let o := s.putLifecycle "logs" [{ weekly with status := "Disabled" }, doubled]
    ¬(∀ r ∈ [{ weekly with status := "Disabled" }, doubled], r.Fits) ∧ o.result = .error .malformedRules ∧
      o.state.lifecycleOf "logs" = .ok [weekly] := by
  intro s o
  have failed : o.result = .error .malformedRules := rfl
  have listed : s.lifecycleOf "logs" = .ok [weekly] := rfl
  obtain ⟨b, there, -⟩ := lifecycleOf_eq_ok_iff.1 listed
  obtain ⟨succeeds, -, kept⟩ :=
    (lifecycle_configured { account := "123456789012", region := globalRegion } logs).1 "logs" b _ there
  refine ⟨fun fit => ?_, failed, ?_⟩
  · cases failed.symm.trans (succeeds.2 fit)
  · exact (congrArg (lifecycleOf · "logs") (kept _ failed).2).trans listed

end Shelf

end MockCloud.Bucket
