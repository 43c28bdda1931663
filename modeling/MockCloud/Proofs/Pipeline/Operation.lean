import MockCloud.Pipeline.Basic

/-! # Runs of a catalog of pipelines

The operations that change the pipelines of a place, as data, and what each of them can do. The roles that
a pipeline's role is looked up among and the moment of a change are among the arguments.

* `Effect c op o`: the rules by which an operation comes to its outcome. A refused operation leaves the
  catalog alone.
* `Filed.run`: every pipeline stands under its own name and has the resource name made of it. -/

namespace MockCloud.Pipeline

theorem mergedTags_eq_ok_iff {p : Pipeline} {tags : List Tag} {all : TagMap} :
    p.mergedTags tags = .ok all ↔
      TagPolicy.checkUnique tags = .ok () ∧ TagPolicy.standard.merged p.tags (.ofTags tags) = .ok all := by
  unfold mergedTags
  cases TagPolicy.checkUnique tags with
  | error v => exact ⟨fun h => (by cases h), fun h => (by cases h.1)⟩
  | ok _ =>
    cases TagPolicy.standard.merged p.tags (.ofTags tags) with
    | error v => exact ⟨fun h => (by cases h), fun h => (by cases h.2)⟩
    | ok merged =>
      refine ⟨fun h => ⟨rfl, ?_⟩, fun h => ?_⟩
      · cases h; rfl
      · cases h.2; rfl

namespace Catalog

/-- An operation that changes the catalog, with all its arguments. -/
inductive Op where
  | create (roles : Role.Directory) (d : Declaration) (tags : List Tag) (time : Instant)
  | update (d : Declaration) (time : Instant)
  | delete (name : String)
  | tag (arn : String) (tags : List Tag)
  | untag (arn : String) (keys : List String)

/-- The outcome of an operation, its answer left out. -/
def perform (c : Catalog) : Op → Outcome Catalog PipelineError Unit
  | .create roles d tags time => (c.create roles d tags time).done
  | .update d time => (c.update d time).done
  | .delete name => .ok () (c.delete name)
  | .tag arn tags => c.tag arn tags
  | .untag arn keys => c.untag arn keys

/-- The catalog after an operation, whether it succeeds or fails. -/
def step (c : Catalog) (op : Op) : Catalog :=
  (c.perform op).state

/-- The catalog after a run. -/
def run (c : Catalog) (ops : List Op) : Catalog :=
  ops.foldl step c

/-- A catalog without pipelines. -/
def blank (scope : Scope) : Catalog :=
  Backend.new scope

/-- The catalog with a pipeline under a name. -/
def put (c : Catalog) (name : String) (p : Pipeline) : Catalog :=
  { c with pipelines := c.pipelines.put name p }

/-- The catalog without the pipeline of a name. -/
def drop (c : Catalog) (name : String) : Catalog :=
  { c with pipelines := c.pipelines.drop name }

theorem get?_put (c : Catalog) (k name : String) (p : Pipeline) :
    (c.put k p).pipelines.get? name = if name = k then some p else c.pipelines.get? name :=
  Store.get?_put ..

theorem get?_drop (c : Catalog) (k name : String) :
    (c.drop k).pipelines.get? name = if name = k then none else c.pipelines.get? name :=
  Store.get?_drop ..

/-! ### The rules -/

/-- The rules by which an operation on `c` comes to its outcome. -/
inductive Effect (c : Catalog) : Op → Outcome Catalog PipelineError Unit → Prop
  | refused {op : Op} (e : PipelineError) : Effect c op (.fail e c)
  | created {roles : Role.Directory} {d : Declaration} {tags : List Tag} {time : Instant} {p : Pipeline}
      (free : c.pipelines.get? d.name = none) (trusted : isTrusted roles d.roleArn = true)
      (staged : minStages ≤ d.stages.length)
      (made : Pipeline.make d.name ⟨d, tags, time⟩ c.pipelines.context = .ok p) :
      Effect c (.create roles d tags time) (.ok () (c.put d.name p))
  | updated {d : Declaration} {time : Instant} {p : Pipeline} (there : c.pipelines.get? d.name = some p) :
      Effect c (.update d time) (.ok () (c.put d.name (p.change d time)))
  | deleted {name : String} : Effect c (.delete name) (.ok () (c.drop name))
  | tagged {arn : String} {tags : List Tag} {p : Pipeline} {all : TagMap}
      (there : c.pipelines.get? (nameOfArn arn) = some p) (merged : p.mergedTags tags = .ok all) :
      Effect c (.tag arn tags) (.ok () (c.put (nameOfArn arn) { p with tags := all }))
  | untagged {arn : String} {keys : List String} {p : Pipeline}
      (there : c.pipelines.get? (nameOfArn arn) = some p) :
      Effect c (.untag arn keys)
        (.ok () (c.put (nameOfArn arn) { p with tags := p.tags.eraseKeys keys }))

theorem create_effect (c : Catalog) (roles : Role.Directory) (d : Declaration) (tags : List Tag)
    (time : Instant) : Effect c (.create roles d tags time) (c.create roles d tags time).done := by
  unfold create
  rcases Outcome.guard_cases (c.pipelines.ensureAbsent d.name : Except PipelineError Unit) c _ with
    ⟨e, -, h⟩ | ⟨⟨⟩, -, h⟩
  · rw [h]; exact .refused e
  rw [h]
  cases trusted : isTrusted roles d.roleArn with
  | false => exact .refused _
  | true =>
    simp only [Bool.not_true, Bool.false_eq_true, if_false]
    by_cases few : d.stages.length < minStages
    · rw [if_pos few]; exact .refused _
    · rw [if_neg few]
      rcases Store.create_cases c.pipelines d.name ⟨d, tags, time⟩ with ⟨e, -, h⟩ | ⟨p, free, made, h⟩
      · rw [h]; exact .refused e
      · rw [h]; exact .created free trusted (Nat.not_lt.1 few) made

theorem update_effect (c : Catalog) (d : Declaration) (time : Instant) :
    Effect c (.update d time) (c.update d time).done := by
  unfold update
  rcases Store.update_cases c.pipelines d.name (d, time) with ⟨-, h⟩ | ⟨p, p', there, ⟨hp, h⟩ | ⟨e, hp, h⟩⟩
  · rw [h]; exact .refused _
  · rw [h]
    cases hp
    exact .updated there
  · cases hp

/-- Tags are refused because the pipeline is missing or may not have them, and nothing has changed then. -/
theorem tag_cases (c : Catalog) (arn : String) (tags : List Tag) :
    (∃ e, c.tag arn tags = .fail e c ∧
        ∀ p all, c.pipelines.get? (nameOfArn arn) = some p → p.mergedTags tags ≠ .ok all) ∨
      ∃ p all, c.pipelines.get? (nameOfArn arn) = some p ∧ p.mergedTags tags = .ok all ∧
        c.tag arn tags = .ok () (c.put (nameOfArn arn) { p with tags := all }) := by
  unfold tag getByArn
  rcases Store.require_cases c.pipelines (nameOfArn arn) with ⟨missing, h⟩ | ⟨p, there, h⟩
  · refine .inl ⟨_, by rw [h]; rfl, fun p all there => ?_⟩
    cases missing.symm.trans there
  · rw [h, Outcome.guard_ok]
    rcases Outcome.guard_cases (p.mergedTags tags) c _ with ⟨e, he, h⟩ | ⟨all, merged, h⟩
    · refine .inl ⟨e, h, fun p' all there' merged => ?_⟩
      cases there.symm.trans there'
      cases he.symm.trans merged
    · refine .inr ⟨p, all, there, merged, ?_⟩
      rw [h, Store.modify_of_get? there]
      rfl

theorem untag_cases (c : Catalog) (arn : String) (keys : List String) :
    (∃ e, c.untag arn keys = .fail e c ∧ c.pipelines.get? (nameOfArn arn) = none) ∨
      ∃ p, c.pipelines.get? (nameOfArn arn) = some p ∧
        c.untag arn keys = .ok () (c.put (nameOfArn arn) { p with tags := p.tags.eraseKeys keys }) := by
  unfold untag getByArn
  rcases Store.require_cases c.pipelines (nameOfArn arn) with ⟨missing, h⟩ | ⟨p, there, h⟩
  · exact .inl ⟨_, by rw [h]; rfl, missing⟩
  · refine .inr ⟨p, there, ?_⟩
    rw [h, Outcome.guard_ok, Store.modify_of_get? there]
    rfl

/-- Every operation obeys a rule. -/
theorem perform_effect (c : Catalog) (op : Op) : Effect c op (c.perform op) := by
  cases op with
  | create roles d tags time => exact create_effect c roles d tags time
  | update d time => exact update_effect c d time
  | delete name => exact .deleted
  | tag arn tags =>
    rw [perform]
    rcases tag_cases c arn tags with ⟨e, h, -⟩ | ⟨p, all, there, merged, h⟩
    · rw [h]; exact .refused e
    · rw [h]; exact .tagged there merged
  | untag arn keys =>
    rw [perform]
    rcases untag_cases c arn keys with ⟨e, h, -⟩ | ⟨p, there, h⟩
    · rw [h]; exact .refused e
    · rw [h]; exact .untagged there

/-! ### Where pipelines stand -/

/-- The catalog belongs to a place, and its pipelines stand under their names and have resource names made
of them. -/
structure Filed (scope : Scope) (c : Catalog) : Prop where
  home : c.scope = scope
  context : c.pipelines.context = scope
  each : c.pipelines.Each fun name p => p.declaration.name = name ∧ p.arn = scope.arn "codepipeline" name

theorem filed_blank (scope : Scope) : Filed scope (blank scope) :=
  ⟨rfl, rfl, Store.each_new _ _⟩

theorem make_eq_ok {name : String} {new : New} {scope : Scope} {p : Pipeline}
    (made : Pipeline.make name new scope = .ok p) :
    p.declaration.name = name ∧ p.arn = scope.arn "codepipeline" name := by
  unfold Pipeline.make at made
  dsimp only at made
  generalize mergedTags _ _ = merged at made
  cases merged with
  | error e => cases made
  | ok tags => cases made; exact ⟨rfl, rfl⟩

theorem Effect.filed {scope : Scope} {c : Catalog} {op : Op} {o : Outcome Catalog PipelineError Unit}
    (effect : Effect c op o) (h : Filed scope c) : Filed scope o.state := by
  cases effect with
  | refused e => exact h
  | created _ _ _ made =>
    rw [h.context] at made
    exact ⟨h.home, h.context, h.each.put (make_eq_ok made)⟩
  | updated there =>
    obtain ⟨-, arn⟩ := h.each _ _ there
    exact ⟨h.home, h.context, h.each.put ⟨rfl, arn⟩⟩
  | deleted => exact ⟨h.home, h.context, h.each.drop _⟩
  | tagged there _ | untagged there =>
    have filed := h.each _ _ there
    exact ⟨h.home, h.context, h.each.put filed⟩

theorem Filed.step {scope : Scope} {c : Catalog} (h : Filed scope c) (op : Op) : Filed scope (c.step op) :=
  (c.perform_effect op).filed h

theorem Filed.run {scope : Scope} {c : Catalog} (h : Filed scope c) (ops : List Op) :
    Filed scope (c.run ops) :=
  List.foldlRecOn ops Catalog.step h fun _ hc op _ => hc.step op

/-! ### What a small run needs -/

/-- A place. -/
def site : Scope :=
  { account := "123456789012", region := "us-east-1" }

/-- A directory with a role that pipelines may assume. -/
def trusting : Role.Directory :=
  let policy := "\x7b\"Statement\":[\x7b\"Principal\":\x7b\"Service\":\"codepipeline.amazonaws.com\"\x7d\x7d]\x7d"
  (Role.Directory.create (Backend.new site) "builder"
    { policy, idStem := "BUILDER", created := ⟨0, 0⟩ }).state

/-- A declaration with this many stages of one action. -/
def staged (name : String) (stages : Nat) : Declaration :=
  { name
    roleArn := "arn:aws:iam::123456789012:role/builder"
    artifactStore := none
    stages := List.replicate stages ⟨"Stage", [.new "Action" "Source" "S3"]⟩
    version := some 7 }

end Catalog

end MockCloud.Pipeline
