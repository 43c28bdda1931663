import MockCloud.Proofs.Role.Operation
import MockCloud.Proofs.Tagging.Run

/-! # What a call for tags reaches

A call that changes tags by name should keep to its names: the tags of a resource change only if its own name
is listed, and a name that is no resource's own is reported. The services do not compare names, though. A
pipeline is found by what follows the last colon, a resource of the network by its id and a bucket by its
name, so that a name of another account, region or type can stand for a resource here.

* `label?_call_ne_iff` and `exists_result_call`: which tags a call changes and which names it reports.
* `Exact p names c`: the call keeps to its names.
* `Strays p names c s`: the name `s` of the list stands for a resource that it does not name.
* `exact_iff_no_strays`: a call keeps to its names exactly if none of them strays. The own names of resources
  do not, those of pipelines with a colon in their name apart, nor do names of topics. -/

namespace MockCloud.Tagging.Place

/-- The text is the own name of a resource of the place. -/
def Names (p : Place) (s : String) : Prop :=
  ∃ r x, p.label? r = some x ∧ x.arn = s

/-- The call keeps to its names. -/
structure Exact (p : Place) (names : List String) (c : Call) : Prop where
  confined : ∀ r, (p.call names c).state.label? r ≠ p.label? r → ∃ x, p.label? r = some x ∧ x.arn ∈ names
  reported : ∃ failed, (p.call names c).result = .ok failed ∧
    ∀ s ∈ names, ¬p.Names s → failed.contains s = true

/-- A name of the list stands for a resource that may have the change, and either nothing has that name or
the resource is not listed by its own name and would get other tags. -/
def Strays (p : Place) (names : List String) (c : Call) (s : String) : Prop :=
  ∃ r x, target? s = some r ∧ p.label? r = some x ∧ c.Allowed r x.tags ∧
    (¬p.Names s ∨ x.arn ∉ names ∧ c.apply x.tags ≠ x.tags)

section

variable {p : Place} {names : List String}

theorem call_of_length (listed : names ≠ []) (few : names.length ≤ nameLimit) (c : Call) :
    p.call names c = .ok (p.handleAll c.operation .empty names).1 (p.handleAll c.operation .empty names).2 := by
  have counted : ¬(names.isEmpty = true ∨ nameLimit < names.length) := by
    rw [List.isEmpty_iff]
    exact not_or.2 ⟨listed, Nat.not_lt.2 few⟩
  rw [call_eq, forEach, if_neg counted]

/-- A call changes the label of a resource exactly if a listed name stands for the resource, it may have the
change and the change leaves other tags. -/
theorem label?_call_ne_iff (listed : names ≠ []) (few : names.length ≤ nameLimit) (c : Call) (r : Resource) :
    (p.call names c).state.label? r ≠ p.label? r ↔
      ∃ s ∈ names, ∃ x, target? s = some r ∧ p.label? r = some x ∧ c.Allowed r x.tags ∧
        c.apply x.tags ≠ x.tags := by
  rw [call_of_length listed few, Outcome.state_ok]
  constructor
  · intro changed
    have taken : ∃ s ∈ names, target? s = some r ∧ p.Takes c s := by
      by_contra none
      refine changed (handleAll_label_left names .empty fun s hs aims takes => ?_)
      exact none ⟨s, hs, aims, takes⟩
    obtain ⟨s, hs, aims, r', x, aims', there, allowed⟩ := taken
    cases aims.symm.trans aims'
    refine ⟨s, hs, x, aims, there, allowed, fun same => changed ?_⟩
    rw [handleAll_label_taken names .empty hs aims there allowed, same, there]
  · rintro ⟨s, hs, x, aims, there, allowed, other⟩ unchanged
    rw [handleAll_label_taken names .empty hs aims there allowed, there] at unchanged
    exact other (congrArg Label.tags (Option.some.inj unchanged))

/-- A call reports exactly the listed names with no change behind them. -/
theorem exists_result_call (listed : names ≠ []) (few : names.length ≤ nameLimit) (c : Call) :
    ∃ failed, (p.call names c).result = .ok failed ∧
      ∀ s, failed.contains s = true ↔ s ∈ names ∧ ¬p.Takes c s := by
  rw [call_of_length listed few]
  refine ⟨_, rfl, fun s => (handleAll_failed c names p .empty s).trans ?_⟩
  exact or_iff_right Bool.false_ne_true

theorem exact_iff (listed : names ≠ []) (few : names.length ≤ nameLimit) (c : Call) :
    p.Exact names c ↔ ∀ s ∈ names, ¬p.Strays names c s := by
  have changed_iff (r : Resource) := p.label?_call_ne_iff listed few c r
  obtain ⟨failed, is, failed_iff⟩ := p.exists_result_call listed few c
  constructor
  · rintro ⟨confined, failed', is', reported⟩ s hs ⟨r, x, aims, there, allowed, unnamed | ⟨unlisted, other⟩⟩
    · cases is.symm.trans is'
      obtain ⟨-, untaken⟩ := (failed_iff s).1 (reported s hs unnamed)
      exact untaken ⟨r, x, aims, there, allowed⟩
    · obtain ⟨x', there', named⟩ := confined r ((changed_iff r).2 ⟨s, hs, x, aims, there, allowed, other⟩)
      cases there.symm.trans there'
      exact unlisted named
  · intro straight
    refine ⟨fun r changed => ?_, failed, is, fun s hs unnamed => ?_⟩
    · obtain ⟨s, hs, x, aims, there, allowed, other⟩ := (changed_iff r).1 changed
      by_contra unlisted
      have unnamed : x.arn ∉ names := fun named => unlisted ⟨x, there, named⟩
      exact straight s hs ⟨r, x, aims, there, allowed, .inr ⟨unnamed, other⟩⟩
    · refine (failed_iff s).2 ⟨hs, ?_⟩
      rintro ⟨r, x, aims, there, allowed⟩
      exact straight s hs ⟨r, x, aims, there, allowed, .inl unnamed⟩

/-- A text that cannot stray: the own name of a resource that is not a pipeline with a colon in its name, a
name of the topic service, or a text that stands for nothing in the place. -/
def Straight (p : Place) (s : String) : Prop :=
  (∃ r x, p.label? r = some x ∧ x.arn = s ∧ ∀ name, r = .pipeline name → ':' ∉ name.toList) ∨
    serviceName s = "sns" ∨ ∀ r, target? s = some r → p.label? r = none

theorem Straight.not_strays {config : Config} (valid : config.validate = .ok ()) (filed : p.Filed config)
    (c : Call) {s : String} (hs : s ∈ names) (straight : p.Straight s) : ¬p.Strays names c s := by
  rintro ⟨r, x, aims, there, -, astray⟩
  -- what a straight text stands for has the text as its own name
  have own : x.arn = s := by
    rcases straight with ⟨r', x', there', named, plain⟩ | topic | nothing
    · have aims' := filed.target?_own valid there' plain
      rw [named] at aims'
      cases aims.symm.trans aims'
      cases there.symm.trans there'
      exact named
    · cases aims.symm.trans (target?_topic topic)
      obtain ⟨t, ht, rfl⟩ := Option.map_eq_some_iff.1 there
      exact (filed.topics.each s t ht).1
    · cases (nothing r aims).symm.trans there
  rcases astray with unnamed | ⟨unlisted, -⟩
  · exact unnamed ⟨r, x, there, own⟩
  · exact unlisted (own ▸ hs)

/-- **What a call reaches.** At a place that has come about by any runs, a call with up to twenty names
changes tags only behind own names that are listed and reports every name of nothing exactly if none of its
names strays. -/
theorem exact_iff_no_strays {config : Config} (valid : config.validate = .ok ())
    (reachable : p.Reachable config) (listed : names ≠ []) (few : names.length ≤ nameLimit) (c : Call) :
    (p.Exact names c ↔ ∀ s ∈ names, ¬p.Strays names c s) ∧
      ((∀ s ∈ names, p.Straight s) → p.Exact names c) := by
  have exact_iff := p.exact_iff listed few c
  refine ⟨exact_iff, fun straight => exact_iff.2 fun s hs => ?_⟩
  exact (straight s hs).not_strays valid reachable.filed c hs

end

/-! ### A place with a pipeline and a topic -/

/-- A directory with a role that lets pipelines assume it. -/
def builders : Role.Directory :=
  let policy := "\x7b\"Statement\":[\x7b\"Principal\":\x7b\"Service\":\"codepipeline.amazonaws.com\"\x7d\x7d]\x7d"
  (Role.Directory.blank (Config.globalScope {})).run
    [.create "builder" { policy, idStem := "BUILDER", created := ⟨0, 0⟩ }]

/-- A pipeline with two stages of one action. -/
def twoStages : Pipeline.Declaration :=
  { name := "pipe"
    roleArn := "arn:aws:iam::123456789012:role/builder"
    artifactStore := none
    stages := [⟨"Source", [.new "Source" "Source" "S3"]⟩, ⟨"Deploy", [.new "Deploy" "Deploy" "S3"]⟩]
    version := none }

/-- A catalog with the pipeline. -/
def onePipeline : Pipeline.Catalog :=
  (Pipeline.Catalog.blank (Config.scope {})).run [.create builders twoStages [] ⟨0, 0⟩]

/-- A board with a topic. -/
def oneTopic : Topic.Board :=
  (Topic.Board.blank (Config.scope {})).run [.create "alerts" {}]

/-- The place with the pipeline, the topic and nothing else. -/
def sparse : Place :=
  { pipelines := onePipeline
    network := Network.blank (Config.scope {})
    topics := oneTopic
    buckets := Bucket.Shelf.blank (Config.globalScope {}) }

theorem reachable_sparse : sparse.Reachable {} where
  pipelines := ⟨[.create builders twoStages [] ⟨0, 0⟩], by rw [sparse, onePipeline]⟩
  network := ⟨[], rfl⟩
  topics := ⟨[.create "alerts" {}], by rw [sparse, oneTopic]⟩
  buckets := ⟨[], rfl⟩

/-- The pipeline as its tags are seen. -/
def pipe : Label :=
  { arn := "arn:aws:codepipeline:us-east-1:123456789012:pipe", tags := some .empty }

theorem label?_sparse_pipeline : sparse.label? (.pipeline "pipe") = some pipe := by
  have there : (onePipeline.pipelines.get? "pipe").map (fun q => (q.arn, q.tags)) =
      some ("arn:aws:codepipeline:us-east-1:123456789012:pipe", .empty) := by
    decide +kernel
  obtain ⟨q, hq, is⟩ := Option.map_eq_some_iff.1 there
  obtain ⟨arn, tags⟩ := Prod.mk.inj is
  rw [label?, sparse, hq, Option.map_some, arn, tags]
  rfl

/-- The change that the place is tried with. -/
def teamTag : Call :=
  .tag [⟨"team", "core"⟩]

theorem own_names_exact :
    Config.validate {} = .ok () ∧ sparse.Reachable {} ∧
      sparse.Exact ["arn:aws:codepipeline:us-east-1:123456789012:pipe",
        "arn:aws:sns:us-east-1:123456789012:alerts", "arn:aws:s3:::logs"] teamTag := by
  have valid : Config.validate {} = .ok () := by decide
  refine ⟨valid, reachable_sparse, ?_⟩
  refine (exact_iff_no_strays valid reachable_sparse (by simp) (by decide) teamTag).2 fun s hs => ?_
  simp only [List.mem_cons, List.not_mem_nil, or_false] at hs
  rcases hs with rfl | rfl | rfl
  · refine .inl ⟨_, _, label?_sparse_pipeline, rfl, fun name h => ?_⟩
    cases h
    decide
  · exact .inr (.inl (by decide +kernel))
  · refine .inr (.inr fun r aims => ?_)
    have logs : target? "arn:aws:s3:::logs" = some (.bucket "logs") := by decide +kernel
    cases logs.symm.trans aims
    rfl

/-- The name that the pipeline would have in another region of another account. -/
def foreign : String :=
  "arn:aws:codepipeline:eu-west-1:999999999999:pipe"

/-- The name reaches the pipeline of this place. -/
theorem foreign_name_not_exact :
    ¬∀ (config : Config) (p : Place), config.validate = .ok () → p.Reachable config →
      ∀ (names : List String) (c : Call), names ≠ [] → names.length ≤ nameLimit → p.Exact names c := by
  intro every
  have kept := every {} sparse (by decide) reachable_sparse [foreign] teamTag (by simp) (by decide)
  have aims : target? foreign = some (.pipeline "pipe") := by decide +kernel
  have allowed : teamTag.Allowed (.pipeline "pipe") pipe.tags := ⟨⟨_, rfl⟩, fun _ _ => rfl⟩
  have other : teamTag.apply pipe.tags ≠ pipe.tags := by decide +kernel
  have changed := (label?_call_ne_iff (by simp) (by decide) teamTag (.pipeline "pipe")).2
    ⟨foreign, List.mem_singleton_self _, pipe, aims, label?_sparse_pipeline, allowed, other⟩
  obtain ⟨x, there, named⟩ := kept.confined (.pipeline "pipe") changed
  cases label?_sparse_pipeline.symm.trans there
  exact absurd named (by decide)

end MockCloud.Tagging.Place
