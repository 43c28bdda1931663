import MockCloud.Proofs.Pipeline.Operation
import MockCloud.Proofs.Role.Naming
import MockCloud.Proofs.Role.Trust
import MockCloud.Proofs.Tag.Violation

/-! # Making pipelines

Four things are checked when a pipeline is made: its name, its role, its stages and its tags. The first check that
fails is the one that is reported, whatever else is wrong, and nothing is stored then.

* `Creatable c roles d tags`: nothing is wrong.
* `Refusal c roles d tags e`: the first check that fails, and its error.
* `Filed.create_of_creatable`, `Filed.create_of_refusal`: what comes of either.
* `creation`: so it is in every state of a catalog and of a directory of roles. -/

namespace MockCloud.Pipeline.Catalog

/-- The first role, in the order of names, of those that have the resource name lets pipelines assume it. -/
def Trusted (roles : Role.Directory) (arn : String) : Prop :=
  ∃ name r, roles.roles.get? name = some r ∧ r.arn = arn ∧
    (∀ name' r', roles.roles.get? name' = some r' → r'.arn = arn → ¬name' < name) ∧ r.LetsAssume principal

theorem isTrusted_iff {roles : Role.Directory} {arn : String} : isTrusted roles arn = true ↔ Trusted roles arn := by
  have found (r : Role) : roles.getByArn arn = .ok r ↔ _ := Role.Directory.getByArn_eq_ok_iff
  unfold isTrusted
  constructor
  · intro trusted
    cases is : roles.getByArn arn with
    | error e => rw [is] at trusted; cases trusted
    | ok r =>
      rw [is] at trusted
      obtain ⟨name, there, own, least⟩ := (found r).1 is
      exact ⟨name, r, there, own, least, Role.trusts_iff.1 trusted⟩
  · rintro ⟨name, r, there, own, least, trusts⟩
    rw [(found r).2 ⟨name, there, own, least⟩]
    exact Role.trusts_iff.2 trusts

section

variable (c : Catalog) (roles : Role.Directory) (d : Declaration) (tags : List Tag)

/-- The name is free, the role is trusted, there are two stages or more, and the tags keep the rules. -/
structure Creatable : Prop where
  free : c.pipelines.get? d.name = none
  trusted : Trusted roles d.roleArn
  staged : 2 ≤ d.stages.length
  legal : LegalKeys (tags.map Tag.key)

/-- The first check that fails, and its error. -/
inductive Refusal : PipelineError → Prop
  | taken {p : Pipeline} (there : c.pipelines.get? d.name = some p) :
      Refusal (.nameInUse d.name c.scope.account)
  | untrusted (free : c.pipelines.get? d.name = none) (not : ¬Trusted roles d.roleArn) :
      Refusal (.roleNotTrusting d.roleArn)
  | few (free : c.pipelines.get? d.name = none) (trusted : Trusted roles d.roleArn) (few : d.stages.length < 2) :
      Refusal (.tooFewStages d.stages.length)
  | tags {v : TagViolation} (free : c.pipelines.get? d.name = none) (trusted : Trusted roles d.roleArn)
      (staged : 2 ≤ d.stages.length) (breaks : Breaks tags v) :
      Refusal (.ofTags (c.scope.arn "codepipeline" d.name) v)

/-- Unless nothing is wrong, something is wrong first. -/
theorem creatable_or_refusal : Creatable c roles d tags ∨ ∃ e, Refusal c roles d tags e := by
  cases free : c.pipelines.get? d.name with
  | some p => exact .inr ⟨_, .taken free⟩
  | none =>
    by_cases trusted : Trusted roles d.roleArn
    · rcases Nat.lt_or_ge d.stages.length 2 with few | staged
      · exact .inr ⟨_, .few free trusted few⟩
      · cases checked : TagPolicy.checked tags with
        | ok all => exact .inl ⟨free, trusted, staged, (TagPolicy.checked_eq_ok_iff.1 checked).1⟩
        | error v => exact .inr ⟨_, .tags free trusted staged (TagPolicy.checked_eq_error_iff.1 checked)⟩
    · exact .inr ⟨_, .untrusted free trusted⟩

end

/-! ### What is stored -/

/-- The pipeline that is made of a declaration and tags. -/
def first (scope : Scope) (d : Declaration) (tags : List Tag) (time : Instant) : Pipeline where
  declaration := stored d
  version := 1
  arn := scope.arn "codepipeline" d.name
  created := time
  updated := time
  tags := .ofTags tags

theorem make_eq (scope : Scope) (d : Declaration) (tags : List Tag) (time : Instant) :
    make d.name ⟨d, tags, time⟩ scope =
      ((TagPolicy.checked tags).mapError (PipelineError.ofTags (scope.arn "codepipeline" d.name))).map fun all =>
        { first scope d tags time with tags := all } := by
  unfold make mergedTags TagPolicy.checked
  dsimp only
  cases TagPolicy.checkUnique tags with
  | error v => rfl
  | ok _ => rfl

section

variable {scope : Scope} {c : Catalog} {roles : Role.Directory} {d : Declaration} {tags : List Tag} {time : Instant}

theorem ensureAbsent_of_free (free : c.pipelines.get? d.name = none) :
    (c.pipelines.ensureAbsent d.name : Except PipelineError Unit) = .ok () := by
  rcases Store.ensureAbsent_cases c.pipelines d.name with ⟨p, there, -⟩ | ⟨-, absent⟩
  · cases free.symm.trans there
  · exact absent

theorem Filed.create_of_creatable (h : Filed scope c) (able : Creatable c roles d tags) :
    c.create roles d tags time =
      .ok ((first scope d tags time).view, (TagMap.ofTags tags).toTags) (c.put d.name (first scope d tags time)) := by
  obtain ⟨free, trusted, staged, legal⟩ := able
  have made : make d.name ⟨d, tags, time⟩ c.pipelines.context = .ok (first scope d tags time) := by
    rw [h.context, make_eq, TagPolicy.checked_eq_ok_iff.2 ⟨legal, rfl⟩]
    rfl
  rw [create, ensureAbsent_of_free free, Outcome.guard_ok, isTrusted_iff.2 trusted, if_neg (by simp),
    if_neg (show ¬d.stages.length < minStages from Nat.not_lt.2 staged), Store.create_eq_ok free made]
  rfl

/-- A refusal is reported, and nothing is stored. -/
theorem Filed.create_of_refusal (h : Filed scope c) {e : PipelineError} (refusal : Refusal c roles d tags e) :
    c.create roles d tags time = .fail e c := by
  cases refusal with
  | taken there =>
    rcases Store.ensureAbsent_cases c.pipelines d.name with ⟨p, -, absent⟩ | ⟨free, -⟩
    · rw [create, absent, Outcome.guard_error, h.context, h.home]
      rfl
    · cases free.symm.trans there
  | untrusted free not =>
    have distrust : isTrusted roles d.roleArn = false := Bool.eq_false_iff.2 (mt isTrusted_iff.1 not)
    rw [create, ensureAbsent_of_free free, Outcome.guard_ok, distrust, if_pos (by simp)]
  | few free trusted few =>
    rw [create, ensureAbsent_of_free free, Outcome.guard_ok, isTrusted_iff.2 trusted, if_neg (by simp),
      if_pos (show d.stages.length < minStages from few)]
  | @tags v free trusted staged breaks =>
    have refused : make d.name ⟨d, tags, time⟩ c.pipelines.context =
        .error (.ofTags (c.scope.arn "codepipeline" d.name) v) := by
      rw [h.context, h.home, make_eq, TagPolicy.checked_eq_error_iff.2 breaks]
      rfl
    rw [create, ensureAbsent_of_free free, Outcome.guard_ok, isTrusted_iff.2 trusted, if_neg (by simp),
      if_neg (show ¬d.stages.length < minStages from Nat.not_lt.2 staged), Store.create_eq_fail free refused]
    rfl

end

/-- **Making a pipeline.** In every state of a catalog and of a directory of roles, a pipeline is made exactly if its
name is free, the first role of the resource name trusts pipelines, there are two stages or more, and the tags keep
the rules. Then this pipeline is stored under its name, which had none, and its tags come back in the order of their
keys. Otherwise the first check that fails is reported, and the catalog stays as it is. -/
theorem creation (scope account : Scope) (ops : List Op) (roleOps : List Role.Directory.Op) (d : Declaration)
    (tags : List Tag) (time : Instant) :
    let c := (blank scope).run ops
    let roles := (Role.Directory.blank account).run roleOps
    let o := c.create roles d tags time
    ((∃ a, o.result = .ok a) ↔ Creatable c roles d tags) ∧
      (∀ e, o.result = .error e ↔ Refusal c roles d tags e) ∧
      (∀ e, o.result = .error e → o.state = c) ∧
      ∀ view sorted, o.result = .ok (view, sorted) → view = (first scope d tags time).view ∧
        sorted.Pairwise (·.key < ·.key) ∧ sorted.Perm tags ∧ o.state = c.put d.name (first scope d tags time) := by
  intro c roles o
  have filed : Filed scope c := (filed_blank scope).run ops
  rcases creatable_or_refusal c roles d tags with able | ⟨e, refusal⟩
  · have made : o = _ := filed.create_of_creatable able
    have result : o.result = .ok _ := congrArg Outcome.result made
    refine ⟨iff_of_true ⟨_, result⟩ able, fun e => ⟨fun failed => ?_, fun refusal => ?_⟩, fun e failed => ?_,
      fun view sorted is => ?_⟩
    · cases result.symm.trans failed
    · have refused : o = .fail e c := filed.create_of_refusal refusal
      cases result.symm.trans (congrArg Outcome.result refused)
    · cases result.symm.trans failed
    · cases result.symm.trans is
      exact ⟨rfl, TagMap.pairwise_toTags _, TagMap.toTags_ofTags_perm able.legal.distinct, congrArg Outcome.state made⟩
  · have refused : o = .fail e c := filed.create_of_refusal refusal
    have result : o.result = .error e := congrArg Outcome.result refused
    refine ⟨iff_of_false (fun ⟨a, is⟩ => ?_) fun able => ?_, fun e' => ⟨fun failed => ?_, fun refusal' => ?_⟩,
      fun _ _ => congrArg Outcome.state refused, fun view sorted is => ?_⟩
    · cases result.symm.trans is
    · have made : o = _ := filed.create_of_creatable able
      cases result.symm.trans (congrArg Outcome.result made)
    · cases result.symm.trans failed
      exact refusal
    · exact congrArg Outcome.result (filed.create_of_refusal refusal')
    · cases result.symm.trans is

/-- A declaration under the role that trusts pipelines. -/
def release (stages : Nat) : Declaration :=
  { staged "release" stages with roleArn := "arn:aws:iam::123456789012:role/team/build" }

/-- Two stages are enough. With one stage and a reserved key, only the stages are reported. -/
theorem creation_release :
    let roles := (Role.Directory.blank Role.Directory.account).run Role.Directory.apart
    let tags : List Tag := [⟨"team", "core"⟩]
    (blank site).Creatable roles (release 2) tags ∧
      ((blank site).create roles (release 2) tags ⟨0, 0⟩).state =
        (blank site).put "release" (first site (release 2) tags ⟨0, 0⟩) ∧
      (blank site).Refusal roles (release 1) [⟨"aws:owner", "build"⟩] (.tooFewStages 1) := by
  intro roles tags
  obtain ⟨able, -, -, stored⟩ :=
    creation site Role.Directory.account [] Role.Directory.apart (release 2) tags ⟨0, 0⟩
  obtain ⟨-, refused, -, -⟩ :=
    creation site Role.Directory.account [] Role.Directory.apart (release 1) [⟨"aws:owner", "build"⟩] ⟨0, 0⟩
  have made : ((blank site).create roles (release 2) tags ⟨0, 0⟩).result =
      .ok ((first site (release 2) tags ⟨0, 0⟩).view, tags) := by
    decide +kernel
  exact ⟨able.1 ⟨_, made⟩, (stored _ _ made).2.2.2, (refused _).1 (by decide +kernel)⟩

end MockCloud.Pipeline.Catalog
