import MockCloud.Proofs.Pipeline.Addressing
import MockCloud.Proofs.Role.Operation
import MockCloud.Proofs.Tag.Violation
import MockCloud.Proofs.Tag.Writes
import MockCloud.Proofs.Topic.Operation

/-! # The last writer of tags wins

Topics, roles and pipelines get tags when they are made, and by calls afterwards. Whether a call is refused depends on
all the tags that the resource has by then, but a call that is not refused does what it writes, so the last one of
those that name a key decides.

* `tags?_step`, of each service: an operation does to the tags of one resource what it writes to them, if it does not
  delete the resource. A refused one, and one about another resource, writes nothing.
* `tags?_created`, of each service: the tags of a resource that has just been made.
* `LastWriterWins`: the tags that are listed after a run are those that the writes leave.
* `last_writer_wins`: so it is, whatever the run does, from the moment that a resource is made. -/

namespace MockCloud

/-! ### The tags of what is stored -/

namespace Store

variable {α κ : Type}

/-- The tags of what is stored under an id. -/
def tags? (s : Store α κ) (tags : α → TagMap) (id : String) : Option TagMap :=
  (s.get? id).map tags

variable {s : Store α κ} {tags : α → TagMap} {id k : String} {a a' : α} {m : TagMap}

theorem tags?_put (s : Store α κ) (tags : α → TagMap) (id k : String) (a : α) :
    (s.put k a).tags? tags id = if id = k then some (tags a) else s.tags? tags id := by
  unfold tags?
  rw [get?_put]
  split <;> rfl

theorem tags?_drop (other : id ≠ k) : (s.drop k).tags? tags id = s.tags? tags id := by
  unfold tags?
  rw [get?_drop, if_neg other]

theorem tags?_of_get? (there : s.get? id = some a) : s.tags? tags id = some (tags a) := by
  rw [tags?, there, Option.map_some]

/-- What is made under a free id is not what has tags already. -/
theorem tags?_put_of_free (free : s.get? k = none) (there : s.tags? tags id = some m) :
    (s.put k a).tags? tags id = some m := by
  have other : id ≠ k := by
    rintro rfl
    rw [tags?, free] at there
    cases there
  rw [tags?_put, if_neg other, there]

theorem tags?_put_of_same (stored : s.get? k = some a) (same : tags a' = tags a) (there : s.tags? tags id = some m) :
    (s.put k a').tags? tags id = some m := by
  rw [tags?_put, same, ← there]
  split
  · next here => exact here ▸ (tags?_of_get? stored).symm
  · rfl

/-- A write to the tags under one id, seen from another id or the same. -/
theorem tags?_put_of_written {w : TagWrite} (stored : s.get? k = some a) (written : tags a' = w.apply (tags a))
    (there : s.tags? tags id = some m) :
    (s.put k a').tags? tags id = some ((if k = id then some w else none).toList.foldl TagWrite.apply m) := by
  rw [tags?_put]
  by_cases same : k = id
  · subst same
    cases (tags?_of_get? stored).symm.trans there
    rw [if_pos rfl, if_pos rfl, written]
    rfl
  · rw [if_neg (Ne.symm same), if_neg same, there]
    rfl

end Store

/-- The merged tags are what a write of the incoming ones makes of the tags. -/
theorem TagPolicy.eq_apply_of_merged {p : TagPolicy} {m all : TagMap} {tags : List Tag}
    (merged : p.merged m (.ofTags tags) = .ok all) : all = TagWrite.apply m (.put tags) :=
  (merged_eq_ok_iff.1 merged).2.2

theorem TagWrite.apply_empty (tags : List Tag) : apply .empty (.put tags) = .ofTags tags :=
  TagPolicy.insertAll_entries_empty _

/-! ### Topics -/

namespace Topic.Board

/-- What an operation writes to the tags of the topic of a resource name. -/
def Op.write? (arn : String) : Op → Option TagWrite
  | .tag own tags => if own = arn then some (.put tags) else none
  | .untag own keys => if own = arn then some (.takeOff keys) else none
  | _ => none

/-- An operation does to the tags of a topic what it writes to them, if it does not delete the topic. -/
theorem tags?_step (arn : String) (b : Board) (op : Op) (m : TagMap) (spares : op ≠ .delete arn)
    (there : b.topics.tags? Topic.tags arn = some m) :
    (b.perform op).state.topics.tags? Topic.tags arn =
      some ((writtenBy perform (Op.write? arn) b op).foldl TagWrite.apply m) := by
  have effect := b.perform_effect op
  unfold writtenBy
  generalize b.perform op = o at effect ⊢
  cases effect with
  | refused e => exact there
  | found _ _ => exact there
  | published _ => exact there
  | created _ free _ => exact Store.tags?_put_of_free free there
  | displayed stored => exact Store.tags?_put_of_same stored rfl there
  | deleted =>
    have other := fun same => spares (congrArg Op.delete same).symm
    exact (Store.tags?_drop other).trans there
  | tagged stored merged =>
    exact Store.tags?_put_of_written stored (TagPolicy.eq_apply_of_merged merged) there
  | untagged stored => exact Store.tags?_put_of_written stored rfl there

/-- A call for the tags of a topic that fails changes nothing. -/
theorem state_of_write?_fails {b : Board} {arn : String} {op : Op} {w : TagWrite} {e : TopicError}
    (writes : op.write? arn = some w) (fails : (b.perform op).result = .error e) : (b.perform op).state = b := by
  have effect := b.perform_effect op
  generalize b.perform op = o at effect fails ⊢
  cases effect with
  | refused e => rfl
  | _ => cases fails

theorem tags?_created {b : Board} {name : String} {p : New} (free : b.topics.get? (b.topicArn name) = none)
    (done : (b.perform (.create name p)).result = .ok ()) :
    (b.perform (.create name p)).state.topics.tags? Topic.tags (b.topicArn name) =
      some (TagWrite.apply .empty (.put p.tags)) := by
  have effect := b.perform_effect (.create name p)
  generalize b.perform (.create name p) = o at effect done ⊢
  cases effect with
  | refused e => cases done
  | found there _ => cases free.symm.trans there
  | created _ _ made =>
    obtain ⟨-, rfl⟩ := make_eq_ok_iff.1 made
    rw [TagWrite.apply_empty]
    exact (Store.tags?_put ..).trans (if_pos rfl)

theorem tagsOf_of_tags? {b : Board} {arn : String} {m : TagMap} (there : b.topics.tags? Topic.tags arn = some m) :
    b.tagsOf arn = .ok m.toTags := by
  obtain ⟨t, stored, rfl⟩ := Option.map_eq_some_iff.1 there
  rw [tagsOf, tagged, stored]
  rfl

end Topic.Board

/-! ### Roles -/

namespace Role.Directory

/-- What an operation writes to the tags of the role of a name. -/
def Op.write? (name : String) : Op → Option TagWrite
  | .tag own tags => if own = name then some (.put tags) else none
  | .untag own keys => if own = name then some (.takeOff keys) else none
  | _ => none

/-- An operation does to the tags of a role what it writes to them, if it does not delete the role. -/
theorem tags?_step (name : String) (d : Directory) (op : Op) (m : TagMap) (spares : op ≠ .delete name)
    (there : d.roles.tags? Role.tags name = some m) :
    (d.perform op).state.roles.tags? Role.tags name =
      some ((writtenBy perform (Op.write? name) d op).foldl TagWrite.apply m) := by
  have effect := d.perform_effect op
  unfold writtenBy
  generalize d.perform op = o at effect ⊢
  cases effect with
  | refused e => exact there
  | created free _ => exact Store.tags?_put_of_free free there
  | changed stored _ _ => exact Store.tags?_put_of_same stored rfl there
  | changeLeft stored _ _ _ => exact Store.tags?_put_of_same stored rfl there
  | policyChanged stored _ => exact Store.tags?_put_of_same stored rfl there
  | deleted _ =>
    have other := fun same => spares (congrArg Op.delete same).symm
    exact (Store.tags?_drop other).trans there
  | tagged _ stored merged =>
    exact Store.tags?_put_of_written stored (TagPolicy.eq_apply_of_merged merged) there
  | untagged stored => exact Store.tags?_put_of_written stored rfl there

/-- A call for the tags of a role that fails changes nothing. Only a change of its texts fails half-way. -/
theorem state_of_write?_fails {d : Directory} {name : String} {op : Op} {w : TagWrite} {e : RoleError}
    (writes : op.write? name = some w) (fails : (d.perform op).result = .error e) : (d.perform op).state = d := by
  have effect := d.perform_effect op
  generalize d.perform op = o at effect fails ⊢
  cases effect with
  | refused e => rfl
  -- this one leaves something behind, but it is no call for tags
  | changeLeft => cases writes
  | _ => cases fails

theorem tags?_created {d : Directory} {name : String} {p : New} (done : (d.perform (.create name p)).result = .ok ()) :
    (d.perform (.create name p)).state.roles.tags? Role.tags name = some (TagWrite.apply .empty (.put p.tags)) := by
  have effect := d.perform_effect (.create name p)
  generalize d.perform (.create name p) = o at effect done ⊢
  cases effect with
  | refused e => cases done
  | created _ made =>
    obtain ⟨-, rfl⟩ := make_eq_ok made
    rw [TagWrite.apply_empty]
    exact (Store.tags?_put ..).trans (if_pos rfl)

theorem tagsOf_of_tags? {d : Directory} {name : String} {m : TagMap} (there : d.roles.tags? Role.tags name = some m) :
    d.tagsOf name = .ok m.toTags := by
  obtain ⟨r, stored, rfl⟩ := Option.map_eq_some_iff.1 there
  rw [tagsOf, Directory.get, Store.require_eq_ok_iff.2 stored]
  rfl

end Role.Directory

/-! ### Pipelines -/

namespace Pipeline.Catalog

/-- What an operation writes to the tags of the pipeline of a name: the calls are those with a resource name that is
taken for it. -/
def Op.write? (name : String) : Op → Option TagWrite
  | .tag arn tags => if nameOfArn arn = name then some (.put tags) else none
  | .untag arn keys => if nameOfArn arn = name then some (.takeOff keys) else none
  | _ => none

/-- An operation does to the tags of a pipeline what it writes to them, if it does not delete the pipeline. -/
theorem tags?_step (name : String) (c : Catalog) (op : Op) (m : TagMap) (spares : op ≠ .delete name)
    (there : c.pipelines.tags? Pipeline.tags name = some m) :
    (c.perform op).state.pipelines.tags? Pipeline.tags name =
      some ((writtenBy perform (Op.write? name) c op).foldl TagWrite.apply m) := by
  have effect := c.perform_effect op
  unfold writtenBy
  generalize c.perform op = o at effect ⊢
  cases effect with
  | refused e => exact there
  | created free _ _ _ => exact Store.tags?_put_of_free free there
  | updated stored => exact Store.tags?_put_of_same stored rfl there
  | deleted =>
    have other := fun same => spares (congrArg Op.delete same).symm
    exact (Store.tags?_drop other).trans there
  | tagged stored merged =>
    have written := TagPolicy.eq_apply_of_merged (mergedTags_eq_ok_iff.1 merged).2
    exact Store.tags?_put_of_written stored written there
  | untagged stored => exact Store.tags?_put_of_written stored rfl there

/-- A call for the tags of a pipeline that fails changes nothing. -/
theorem state_of_write?_fails {c : Catalog} {name : String} {op : Op} {w : TagWrite} {e : PipelineError}
    (writes : op.write? name = some w) (fails : (c.perform op).result = .error e) : (c.perform op).state = c := by
  have effect := c.perform_effect op
  generalize c.perform op = o at effect fails ⊢
  cases effect with
  | refused e => rfl
  | _ => cases fails

theorem tags_of_make {name : String} {p : New} {scope : Scope} {r : Pipeline}
    (made : Pipeline.make name p scope = .ok r) : r.tags = TagWrite.apply .empty (.put p.tags) := by
  unfold Pipeline.make at made
  dsimp only at made
  cases merged : mergedTags _ p.tags with
  | error e => rw [merged] at made; cases made
  | ok tags =>
    rw [merged] at made
    cases made
    exact TagPolicy.eq_apply_of_merged (mergedTags_eq_ok_iff.1 merged).2

theorem tags?_created {c : Catalog} {roles : Role.Directory} {d : Declaration} {tags : List Tag} {time : Instant}
    (done : (c.perform (.create roles d tags time)).result = .ok ()) :
    (c.perform (.create roles d tags time)).state.pipelines.tags? Pipeline.tags d.name =
      some (TagWrite.apply .empty (.put tags)) := by
  have effect := c.perform_effect (.create roles d tags time)
  generalize c.perform (.create roles d tags time) = o at effect done ⊢
  cases effect with
  | refused e => cases done
  | created _ _ _ made =>
    rw [← tags_of_make made]
    exact (Store.tags?_put ..).trans (if_pos rfl)

theorem tagsOf_of_tags? {c : Catalog} {arn : String} {m : TagMap}
    (there : c.pipelines.tags? Pipeline.tags (nameOfArn arn) = some m) : c.tagsOf arn = .ok m.toTags := by
  obtain ⟨p, stored, rfl⟩ := Option.map_eq_some_iff.1 there
  rw [tagsOf, getByArn, Store.require_eq_ok_iff.2 stored]
  rfl

end Pipeline.Catalog

/-! ### What is listed after a run -/

/-- The tags that are listed after a run from `s`, where a resource has just been made with the `first` tags, are those
that its creation and the successful calls of the run leave. A call that fails leaves everything as it was. -/
structure LastWriterWins {σ ω ε : Type} (perform : σ → ω → Outcome σ ε Unit) (write? : ω → Option TagWrite)
    (tagsOf : σ → Except ε (List Tag)) (first : List Tag) (s : σ) (ops : List ω) : Prop where
  listed : ∃ tags, tagsOf (ops.foldl (fun s op => (perform s op).state) s) = .ok tags ∧
    LeftBy (.put first :: written perform write? s ops) tags
  refused : ∀ s op w e, write? op = some w → (perform s op).result = .error e → (perform s op).state = s

theorem lastWriterWins {σ ω ε : Type} {perform : σ → ω → Outcome σ ε Unit} {write? : ω → Option TagWrite}
    {tagsOf : σ → Except ε (List Tag)} {tags? : σ → Option TagMap} {spares : ω → Prop} {first : List Tag} {s : σ}
    {ops : List ω}
    (step : ∀ s op m, spares op → tags? s = some m →
      tags? (perform s op).state = some ((writtenBy perform write? s op).foldl TagWrite.apply m))
    (listing : ∀ s m, tags? s = some m → tagsOf s = .ok m.toTags)
    (refused : ∀ s op w e, write? op = some w → (perform s op).result = .error e → (perform s op).state = s)
    (made : tags? s = some (TagWrite.apply .empty (.put first))) (all : ∀ op ∈ ops, spares op) :
    LastWriterWins perform write? tagsOf first s ops where
  -- the creation is the first write, on a resource without tags
  listed := ⟨_, listing _ _ (tags_foldl step all made), leftBy_toTags (.put first :: written perform write? s ops)⟩
  refused := refused

/-- **The last writer wins.** A topic, a role, or a pipeline whose name has no colon is made in a state that a run has
reached. After any further operations, as long as none deletes it, it has the tags that its creation and the successful
calls for its tags leave. -/
theorem last_writer_wins (scope : Scope) :
    (∀ (before ops : List Topic.Board.Op) (name : String) (p : Topic.New),
      let b := (Topic.Board.blank scope).run before
      let arn := scope.arn "sns" name
      let made := b.perform (.create name p)
      b.topics.get? arn = none → made.result = .ok () → (∀ op ∈ ops, op ≠ .delete arn) →
        LastWriterWins Topic.Board.perform (Topic.Board.Op.write? arn) (·.tagsOf arn) p.tags made.state ops) ∧
    (∀ (before ops : List Role.Directory.Op) (name : String) (p : Role.New),
      let made := ((Role.Directory.blank scope).run before).perform (.create name p)
      made.result = .ok () → (∀ op ∈ ops, op ≠ .delete name) →
        LastWriterWins Role.Directory.perform (Role.Directory.Op.write? name) (·.tagsOf name) p.tags made.state ops) ∧
    ∀ (before ops : List Pipeline.Catalog.Op) (roles : Role.Directory) (d : Pipeline.Declaration) (tags : List Tag)
        (time : Instant),
      let made := ((Pipeline.Catalog.blank scope).run before).perform (.create roles d tags time)
      ':' ∉ d.name.toList → made.result = .ok () → (∀ op ∈ ops, op ≠ .delete d.name) →
        LastWriterWins Pipeline.Catalog.perform (Pipeline.Catalog.Op.write? d.name)
          (·.tagsOf (scope.arn "codepipeline" d.name)) tags made.state ops := by
  refine ⟨?_, ?_, ?_⟩
  · intro before ops name p b arn made free done spares
    have home : b.topicArn name = arn := by
      rw [Topic.Board.topicArn, ((Topic.Board.filed_blank scope).run before).home]
    have tagged := Topic.Board.tags?_created (home ▸ free) done
    rw [home] at tagged
    exact lastWriterWins (Topic.Board.tags?_step arn) (fun _ _ => Topic.Board.tagsOf_of_tags?)
      (fun _ _ _ _ => Topic.Board.state_of_write?_fails) tagged spares
  · intro before ops name p made done spares
    exact lastWriterWins (Role.Directory.tags?_step name) (fun _ _ => Role.Directory.tagsOf_of_tags?)
      (fun _ _ _ _ => Role.Directory.state_of_write?_fails) (Role.Directory.tags?_created done) spares
  · intro before ops roles d tags time made plain done spares
    -- calls give the resource name, which is taken for the name only if there is no colon in it
    have taken : Pipeline.nameOfArn (scope.arn "codepipeline" d.name) = d.name := by
      rw [Pipeline.nameOfArn_arn, Pipeline.nameOfArn_eq_self_iff.2 plain]
    refine lastWriterWins (Pipeline.Catalog.tags?_step d.name) (fun c m there => ?_)
      (fun _ _ _ _ => Pipeline.Catalog.state_of_write?_fails) (Pipeline.Catalog.tags?_created done) spares
    exact Pipeline.Catalog.tagsOf_of_tags? (taken.symm ▸ there)

/-! ### A resource that is tagged three times -/

/-- What a resource is made with. -/
def firstTags : List Tag :=
  [⟨"env", "dev"⟩, ⟨"team", "core"⟩]

def firstRole : Role.New :=
  { policy := "\x7b\x7d", tags := firstTags, idStem := "BUILDER", created := ⟨0, 0⟩ }

/-- Calls for the tags of a resource. The first names a key twice, the second a key that is refused. -/
def retags {ω : Type} (tag : List Tag → ω) (untag : List String → ω) : List ω :=
  [tag [⟨"env", "test"⟩, ⟨"env", "live"⟩], tag [⟨"aws:env", "none"⟩], untag ["team"]]

theorem last_writer_wins_retags :
    let site := Pipeline.Catalog.site
    let topic := site.arn "sns" "alerts"
    let pipeline := site.arn "codepipeline" "build"
    LastWriterWins Topic.Board.perform (Topic.Board.Op.write? topic) (·.tagsOf topic) firstTags
      ((Topic.Board.blank site).perform (.create "alerts" { tags := firstTags })).state
      (retags (.tag topic) (.untag topic)) ∧
    LastWriterWins Role.Directory.perform (Role.Directory.Op.write? "builder") (·.tagsOf "builder") firstTags
      ((Role.Directory.blank site).perform (.create "builder" firstRole)).state
      (retags (.tag "builder") (.untag "builder")) ∧
    LastWriterWins Pipeline.Catalog.perform (Pipeline.Catalog.Op.write? "build") (·.tagsOf pipeline) firstTags
      ((Pipeline.Catalog.blank site).perform
        (.create Pipeline.Catalog.trusting (Pipeline.Catalog.staged "build" 2) firstTags ⟨0, 0⟩)).state
      (retags (.tag pipeline) (.untag pipeline)) := by
  obtain ⟨topics, roles, pipelines⟩ := last_writer_wins Pipeline.Catalog.site
  refine ⟨topics [] _ "alerts" { tags := firstTags } rfl (by decide +kernel) (by simp [retags]), ?_, ?_⟩
  · exact roles [] _ "builder" firstRole (by decide +kernel) (by simp [retags])
  · exact pipelines [] _ Pipeline.Catalog.trusting (Pipeline.Catalog.staged "build" 2) firstTags ⟨0, 0⟩ (by decide)
      (by decide +kernel) (by simp [retags, Pipeline.Catalog.staged])

/-- A topic takes the call that names a key twice, a role refuses it. -/
example :
    let site := Pipeline.Catalog.site
    let topic := site.arn "sns" "alerts"
    ((Topic.Board.blank site).run
      (.create "alerts" { tags := firstTags } :: retags (.tag topic) (.untag topic))).tagsOf topic =
        .ok [⟨"env", "live"⟩] ∧
    ((Role.Directory.blank site).run
      (.create "builder" firstRole :: retags (.tag "builder") (.untag "builder"))).tagsOf "builder" =
        .ok [⟨"env", "dev"⟩] := by
  decide +kernel

end MockCloud
