import MockCloud.Proofs.Pipeline.Defaults
import MockCloud.Proofs.Pipeline.Operation

/-! # What has been done under a name

A run makes, updates and deletes pipelines, and some of its calls fail. What stands under a name depends on the
calls of that name that have succeeded, and only on those since the pipeline was last made.

* `history c name ops`: what the run `ops` has done under a name, in order.
* `Stands h new us`: by the history `h` the pipeline made from `new` stands, with the updates `us` since.
* `grown scope new us`: what that pipeline is, apart from its tags.
* `Tracks.run`: in every run the pipeline under a name is the one that stands by its history.
* `pipeline_history`: what a reader gets under a name, and that updates leave tags alone. -/

namespace MockCloud.Pipeline

/-- A declaration that replaces the one of a pipeline, and when. -/
abbrev Update := Declaration × Instant

/-- What can be done under a name. -/
inductive Event where
  | made (new : New)
  | updated (u : Update)
  | deleted
  deriving DecidableEq

/-- The update that has been done, if it was one. -/
def Event.update? : Event → Option Update
  | updated u => some u
  | _ => none

/-! ### Histories -/

/-- By a history the pipeline stands that was made from `new`: that is the last time that it was made, it has not
been deleted since, and it has had these updates since. -/
def Stands (h : List Event) (new : New) (us : List Update) : Prop :=
  ∃ front back, h = front ++ .made new :: back ∧ (∀ n, .made n ∉ back) ∧ .deleted ∉ back ∧
    back.filterMap Event.update? = us

theorem map_updated_filterMap {back : List Event} (unmade : ∀ n, .made n ∉ back) (undeleted : .deleted ∉ back) :
    (back.filterMap Event.update?).map .updated = back := by
  induction back with
  | nil => rfl
  | cons e back ih =>
    simp only [List.mem_cons, not_or] at unmade undeleted
    have rest := ih (fun n => (unmade n).2) undeleted.2
    cases e with
    | made n => exact absurd rfl (unmade n).1
    | deleted => exact absurd rfl undeleted.1
    | updated u => exact congrArg (.updated u :: ·) rest

/-- Since it was made, a pipeline that stands has had updates only. -/
theorem stands_iff {h : List Event} {new : New} {us : List Update} :
    Stands h new us ↔ ∃ front, h = front ++ .made new :: us.map .updated := by
  constructor
  · rintro ⟨front, back, rfl, unmade, undeleted, rfl⟩
    exact ⟨front, by rw [map_updated_filterMap unmade undeleted]⟩
  · rintro ⟨front, rfl⟩
    refine ⟨front, us.map .updated, rfl, by simp, by simp, ?_⟩
    rw [List.filterMap_map]
    exact List.filterMap_some

section

variable {h : List Event} {new : New} {us : List Update}

theorem not_stands_nil : ¬Stands [] new us := by
  simp [stands_iff]

/-- What stands after one more event has just been made, or stood before and has been updated. -/
theorem stands_concat_iff {e : Event} :
    Stands (h ++ [e]) new us ↔
      (e = .made new ∧ us = []) ∨ ∃ before u, us = before ++ [u] ∧ e = .updated u ∧ Stands h new before := by
  rw [stands_iff]
  constructor
  · rintro ⟨front, split⟩
    rcases us.eq_nil_or_concat' with rfl | ⟨before, u, rfl⟩
    · obtain ⟨-, last⟩ := List.append_inj' split rfl
      exact .inl ⟨List.singleton_inj.1 last, rfl⟩
    · rw [List.map_append, ← List.cons_append, ← List.append_assoc] at split
      obtain ⟨rfl, last⟩ := List.append_inj' split rfl
      exact .inr ⟨before, u, rfl, List.singleton_inj.1 last, stands_iff.2 ⟨front, rfl⟩⟩
  · rintro (⟨rfl, rfl⟩ | ⟨before, u, rfl, rfl, stands⟩)
    · exact ⟨h, rfl⟩
    · obtain ⟨front, rfl⟩ := stands_iff.1 stands
      exact ⟨front, by simp⟩

end

/-! ### The pipeline that stands -/

/-- The declaration that a pipeline has been given last, and when. -/
def latest (new : New) (us : List Update) : Update :=
  us.getLastD (new.declaration, new.time)

/-- The pipeline made from `new` after these updates, apart from its tags. -/
def grown (scope : Scope) (new : New) (us : List Update) : Pipeline where
  declaration := stored (latest new us).1
  version := .ofNat (1 + us.length)
  arn := scope.arn "codepipeline" new.declaration.name
  created := new.time
  updated := (latest new us).2
  tags := .empty

/-- A pipeline apart from its tags. -/
def bare (p : Pipeline) : Pipeline :=
  { p with tags := .empty }

theorem grown_concat (scope : Scope) (new : New) (us : List Update) (u : Update) :
    grown scope new (us ++ [u]) = (grown scope new us).change u.1 u.2 := by
  have counted : UInt32.ofNat (1 + (us ++ [u]).length) = UInt32.ofNat (1 + us.length) + 1 := by
    rw [List.length_append, ← Nat.add_assoc, UInt32.ofNat_add]
    rfl
  have last : latest new (us ++ [u]) = u := List.getLastD_concat
  rw [grown, counted, last]
  rfl

theorem bare_make {name : String} {new : New} {scope : Scope} {p : Pipeline}
    (made : Pipeline.make name new scope = .ok p) (named : new.declaration.name = name) :
    p.bare = grown scope new [] := by
  subst named
  unfold Pipeline.make at made
  dsimp only at made
  generalize mergedTags _ _ = merged at made
  cases merged with
  | error e => cases made
  | ok tags => cases made; rfl

namespace Catalog

/-- What an operation with a result has done under a name: nothing, if it has failed. -/
def Op.event? (op : Op) (name : String) (result : Except PipelineError Unit) : Option Event :=
  match result with
  | .error _ => none
  | .ok () =>
    match op with
    | .create _ d tags time => if d.name = name then some (.made ⟨d, tags, time⟩) else none
    | .update d time => if d.name = name then some (.updated (d, time)) else none
    | .delete gone => if gone = name then some .deleted else none
    | .tag .. | .untag .. => none

/-- What a run has done under a name, in order. -/
def history (c : Catalog) (name : String) : List Op → List Event
  | [] => []
  | op :: ops => (op.event? name (c.perform op).result).toList ++ (c.step op).history name ops

/-- What stands under the name is what stands by the history, apart from tags. -/
def Tracks (scope : Scope) (name : String) (h : List Event) (c : Catalog) : Prop :=
  ∀ q, (c.pipelines.get? name).map bare = some q ↔ ∃ new us, Stands h new us ∧ grown scope new us = q

section

variable {scope : Scope} {name : String} {h : List Event} {c c' : Catalog}

theorem tracks_blank (scope : Scope) (name : String) : Tracks scope name [] (blank scope) := by
  intro q
  simp only [not_stands_nil, false_and, exists_false, iff_false]
  intro there
  cases there

theorem Tracks.of_same (tracks : Tracks scope name h c)
    (same : (c'.pipelines.get? name).map bare = (c.pipelines.get? name).map bare) : Tracks scope name h c' := by
  intro q
  rw [same]
  exact tracks q

theorem tracks_made {new : New} {p : Pipeline} (there : c'.pipelines.get? name = some p)
    (made : p.bare = grown scope new []) : Tracks scope name (h ++ [.made new]) c' := by
  intro q
  rw [there, Option.map_some, made, Option.some.injEq]
  constructor
  · intro same
    exact ⟨new, [], stands_concat_iff.2 (.inl ⟨rfl, rfl⟩), same⟩
  · rintro ⟨new', us, stands, same⟩
    rcases stands_concat_iff.1 stands with ⟨last, rfl⟩ | ⟨_, _, -, last, -⟩
    · cases last
      exact same
    · cases last

theorem Tracks.updated (tracks : Tracks scope name h c) {u : Update} {p : Pipeline}
    (there : c.pipelines.get? name = some p) (changed : c'.pipelines.get? name = some (p.change u.1 u.2)) :
    Tracks scope name (h ++ [.updated u]) c' := by
  intro q
  have before (new : New) (us : List Update) : p.bare = grown scope new us →
      (p.change u.1 u.2).bare = grown scope new (us ++ [u]) := by
    intro same
    rw [grown_concat, ← same]
    rfl
  rw [changed, Option.map_some, Option.some.injEq]
  constructor
  · rintro rfl
    obtain ⟨new, us, stands, same⟩ := (tracks p.bare).1 (by rw [there, Option.map_some])
    exact ⟨new, us ++ [u], stands_concat_iff.2 (.inr ⟨us, u, rfl, rfl, stands⟩), (before new us same.symm).symm⟩
  · rintro ⟨new, us, stands, rfl⟩
    rcases stands_concat_iff.1 stands with ⟨last, -⟩ | ⟨us, u', rfl, last, stood⟩
    · cases last
    · cases last
      have same := (tracks _).2 ⟨new, us, stood, rfl⟩
      rw [there, Option.map_some, Option.some.injEq] at same
      exact before new us same

theorem tracks_deleted (gone : c'.pipelines.get? name = none) : Tracks scope name (h ++ [.deleted]) c' := by
  intro q
  rw [gone, Option.map_none]
  refine ⟨nofun, ?_⟩
  rintro ⟨new, us, stands, -⟩
  rcases stands_concat_iff.1 stands with ⟨last, -⟩ | ⟨_, _, -, last, -⟩ <;> cases last

theorem Tracks.put_of_ne (tracks : Tracks scope name h c) {k : String} (ne : k ≠ name) (p : Pipeline) :
    Tracks scope name h (c.put k p) :=
  tracks.of_same (by rw [get?_put, if_neg (Ne.symm ne)])

/-- Tags are not part of what is tracked. -/
theorem Tracks.retagged (tracks : Tracks scope name h c) {k : String} {p : Pipeline}
    (there : c.pipelines.get? k = some p) (tags : TagMap) : Tracks scope name h (c.put k { p with tags }) := by
  by_cases same : k = name
  · subst same
    refine tracks.of_same ?_
    rw [get?_put, if_pos rfl, there]
    rfl
  · exact tracks.put_of_ne same _

/-- One operation, by cases on its rules. -/
theorem Tracks.step (tracks : Tracks scope name h c) (filed : Filed scope c) (op : Op) :
    Tracks scope name (h ++ (op.event? name (c.perform op).result).toList) (c.step op) := by
  have effect := c.perform_effect op
  unfold Catalog.step
  generalize c.perform op = o at effect ⊢
  cases effect with
  | refused e => simpa [Op.event?] using tracks
  | @created roles d tags time p free _ _ made =>
    rw [filed.context] at made
    by_cases named : d.name = name
    · simp only [Outcome.result_ok, Outcome.state_ok, Op.event?, if_pos named, Option.toList_some]
      exact tracks_made (by rw [get?_put, if_pos named.symm]) (bare_make made rfl)
    · simpa [Op.event?, named] using tracks.put_of_ne named p
  | @updated d time p there =>
    by_cases named : d.name = name
    · simp only [Outcome.result_ok, Outcome.state_ok, Op.event?, if_pos named, Option.toList_some]
      rw [named] at there ⊢
      exact tracks.updated there (by rw [get?_put, if_pos rfl])
    · simpa [Op.event?, named] using tracks.put_of_ne named (p.change d time)
  | @deleted gone =>
    have left := get?_drop c gone name
    by_cases named : gone = name
    · simp only [Outcome.result_ok, Outcome.state_ok, Op.event?, if_pos named, Option.toList_some]
      exact tracks_deleted (left.trans (if_pos named.symm))
    · simpa [Op.event?, named] using tracks.of_same (congrArg _ (left.trans (if_neg (Ne.symm named))))
  | @tagged arn tags p all there _ => simpa [Op.event?] using tracks.retagged there all
  | @untagged arn keys p there => simpa [Op.event?] using tracks.retagged there (p.tags.eraseKeys keys)

/-- **A run keeps track**: what stands under a name is what stands by its history. -/
theorem Tracks.run (tracks : Tracks scope name h c) (filed : Filed scope c) (ops : List Op) :
    Tracks scope name (h ++ c.history name ops) (c.run ops) := by
  induction ops generalizing h c with
  | nil => simpa [history, Catalog.run] using tracks
  | cons op ops ih =>
    rw [history, ← List.append_assoc]
    exact ih (tracks.step filed op) (filed.step op)

theorem tracks_run (scope : Scope) (name : String) (ops : List Op) :
    Tracks scope name ((blank scope).history name ops) ((blank scope).run ops) := by
  simpa using (tracks_blank scope name).run (filed_blank scope) ops

/-! ### What a reader gets -/

theorem get_eq_ok_iff {x : Declaration × Metadata} :
    c.get name = .ok x ↔ ∃ p, c.pipelines.get? name = some p ∧ x = (p.view, p.metadata) := by
  unfold Catalog.get
  cases c.pipelines.get? name <;> simp [eq_comm]

/-- An update leaves the tags of all pipelines alone. -/
theorem tags_update (c : Catalog) (d : Declaration) (time : Instant) (name : String) :
    ((c.step (.update d time)).pipelines.get? name).map Pipeline.tags = (c.pipelines.get? name).map Pipeline.tags := by
  have effect := c.perform_effect (.update d time)
  unfold Catalog.step
  generalize c.perform (.update d time) = o at effect ⊢
  cases effect with
  | refused e => rfl
  | @updated d time p there =>
    rw [Outcome.state_ok, get?_put]
    split
    · next named => rw [named, there]; rfl
    · rfl

/-- **What a name stands for.** After a run, a reader gets a pipeline under a name exactly if the last successful
making of the name has not been followed by its deletion. What the reader gets is the declaration of that making
or of the last update since, filled in, with the number of the updates since and one as its version, and with the
resource name of the name and the times of the making and of the last change. An update leaves all tags alone.
Filling in a declaration gives its actions the defaults where they lack something, leaves the rest as it was, and
changes nothing a second time. -/
theorem pipeline_history (scope : Scope) (ops : List Op) (name : String) :
    ((∃ x, ((blank scope).run ops).get name = .ok x) ↔
        ∃ new us, Stands ((blank scope).history name ops) new us) ∧
      (∀ new us, Stands ((blank scope).history name ops) new us → 1 + us.length < UInt32.size →
        ∃ version : UInt32, version.toNat = 1 + us.length ∧
          ((blank scope).run ops).get name = .ok
            ({ (latest new us).1.withDefaults with version := some version },
              ⟨scope.arn "codepipeline" name, new.time, (latest new us).2⟩)) ∧
      (∀ d time, ((((blank scope).run ops).step (.update d time)).pipelines.get? name).map Pipeline.tags =
        (((blank scope).run ops).pipelines.get? name).map Pipeline.tags) ∧
      ∀ d : Declaration, d.Fills d.withDefaults ∧ d.withDefaults.withDefaults = d.withDefaults := by
  have tracks := tracks_run scope name ops
  refine ⟨⟨?_, ?_⟩, fun new us stands small => ?_, fun d time => tags_update _ d time name,
    fun d => ⟨Declaration.fills_iff.2 rfl, d.withDefaults_withDefaults⟩⟩
  · rintro ⟨x, hx⟩
    obtain ⟨p, there, -⟩ := get_eq_ok_iff.1 hx
    obtain ⟨new, us, stands, -⟩ := (tracks p.bare).1 (by rw [there]; rfl)
    exact ⟨new, us, stands⟩
  · rintro ⟨new, us, stands⟩
    obtain ⟨p, there, -⟩ := Option.map_eq_some_iff.1 ((tracks _).2 ⟨new, us, stands, rfl⟩)
    exact ⟨_, get_eq_ok_iff.2 ⟨p, there, rfl⟩⟩
  · obtain ⟨p, there, same⟩ := Option.map_eq_some_iff.1 ((tracks _).2 ⟨new, us, stands, rfl⟩)
    obtain ⟨-, arn⟩ := ((filed_blank scope).run ops).each name p there
    have view : p.view = { (latest new us).1.withDefaults with version := some (.ofNat (1 + us.length)) } :=
      congrArg Pipeline.view same
    have created : p.created = new.time := congrArg Pipeline.created same
    have updated : p.updated = (latest new us).2 := congrArg Pipeline.updated same
    refine ⟨.ofNat (1 + us.length), UInt32.toNat_ofNat_of_lt' small, get_eq_ok_iff.2 ⟨p, there, ?_⟩⟩
    rw [view, metadata, arn, created, updated]

end

/-! ### A pipeline that is made twice -/

/-- A pipeline is made, updated, deleted and made again; one call of each kind fails. -/
def remaking : List Op :=
  [.create trusting (staged "pipe" 1) [] ⟨0, 0⟩, .create trusting (staged "pipe" 2) [] ⟨1, 0⟩,
    .update (staged "pipe" 3) ⟨2, 0⟩, .delete "pipe", .update (staged "pipe" 3) ⟨3, 0⟩,
    .create trusting (staged "pipe" 2) [] ⟨4, 0⟩, .create trusting (staged "pipe" 4) [] ⟨5, 0⟩,
    .update (staged "pipe" 3) ⟨6, 0⟩]

theorem history_remaking : (blank site).history "pipe" remaking =
    [.made ⟨staged "pipe" 2, [], ⟨1, 0⟩⟩, .updated (staged "pipe" 3, ⟨2, 0⟩), .deleted,
      .made ⟨staged "pipe" 2, [], ⟨4, 0⟩⟩, .updated (staged "pipe" 3, ⟨6, 0⟩)] := by
  decide +kernel

/-- The version that the declaration was sent with does not count, nor does what was there before the deletion. -/
theorem pipeline_history_remade :
    Stands ((blank site).history "pipe" remaking) ⟨staged "pipe" 2, [], ⟨4, 0⟩⟩ [(staged "pipe" 3, ⟨6, 0⟩)] ∧
      ∃ version : UInt32, version.toNat = 2 ∧ ((blank site).run remaking).get "pipe" = .ok
        ({ (staged "pipe" 3).withDefaults with version := some version },
          ⟨site.arn "codepipeline" "pipe", ⟨4, 0⟩, ⟨6, 0⟩⟩) := by
  have stands : Stands ((blank site).history "pipe" remaking) ⟨staged "pipe" 2, [], ⟨4, 0⟩⟩
      [(staged "pipe" 3, ⟨6, 0⟩)] := by
    rw [history_remaking]
    exact ⟨[.made ⟨staged "pipe" 2, [], ⟨1, 0⟩⟩, .updated (staged "pipe" 3, ⟨2, 0⟩), .deleted],
      [.updated (staged "pipe" 3, ⟨6, 0⟩)], rfl, by simp, by simp, rfl⟩
  exact ⟨stands, (pipeline_history site remaking "pipe").2.1 _ _ stands (by decide)⟩

end Catalog

end MockCloud.Pipeline
