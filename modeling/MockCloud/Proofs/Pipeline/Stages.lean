import MockCloud.Proofs.Pipeline.History

/-! # How many stages a pipeline has

A pipeline is made with two stages or more. An update replaces all of them and is not held to that number, so what
a pipeline has is up to the last update of its name.

* `staged_of_made`: what a history makes has enough stages.
* `Shortened h`: the last that has been done is an update to too few.
* `stages_iff`: a stored pipeline has its own name and resource name, and it has enough stages exactly if it has
  not been shortened. -/

namespace MockCloud.Pipeline

/-- The last that has been done is an update with too few stages. -/
def Shortened (h : List Event) : Prop :=
  ∃ u : Update, h.getLast? = some (.updated u) ∧ u.1.stages.length < minStages

theorem length_stages_stored (d : Declaration) : (stored d).stages.length = d.stages.length :=
  List.length_map ..

/-- The pipeline that stands has the stages of the last update, or else those that it was made with. -/
theorem stages_iff_not_shortened {h : List Event} {new : New} {us : List Update} (stands : Stands h new us)
    (made : minStages ≤ new.declaration.stages.length) :
    minStages ≤ (latest new us).1.stages.length ↔ ¬Shortened h := by
  obtain ⟨front, rfl⟩ := stands_iff.1 stands
  rcases us.eq_nil_or_concat' with rfl | ⟨before, u, rfl⟩
  · refine iff_of_true made ?_
    rintro ⟨u, last, -⟩
    rw [List.map_nil, List.getLast?_concat] at last
    cases last
  · have last : (front ++ Event.made new :: (before ++ [u]).map Event.updated).getLast? = some (.updated u) := by
      rw [List.map_append, ← List.cons_append, ← List.append_assoc]
      exact List.getLast?_concat
    rw [latest, List.getLastD_concat, ← Nat.not_lt, not_iff_not]
    constructor
    · intro few
      exact ⟨u, last, few⟩
    · rintro ⟨u', last', few⟩
      cases last.symm.trans last'
      exact few

namespace Catalog

/-- Making a pipeline is refused with too few stages. -/
theorem staged_of_event? {c : Catalog} {op : Op} {name : String} {new : New}
    (made : op.event? name (c.perform op).result = some (.made new)) :
    minStages ≤ new.declaration.stages.length := by
  have effect := c.perform_effect op
  generalize c.perform op = o at effect made
  cases effect with
  | created _ _ enough _ =>
    obtain ⟨-, is⟩ := Option.ite_none_right_eq_some.1 made
    cases is
    exact enough
  | updated _ | deleted =>
    obtain ⟨-, is⟩ := Option.ite_none_right_eq_some.1 made
    cases is
  | refused e => cases made
  | tagged _ _ | untagged _ => cases made

/-- What a run makes has enough stages. -/
theorem staged_of_made {c : Catalog} {name : String} {new : New} {ops : List Op}
    (made : .made new ∈ c.history name ops) : minStages ≤ new.declaration.stages.length := by
  induction ops generalizing c with
  | nil => cases made
  | cons op ops ih =>
    rcases List.mem_append.1 made with now | later
    · exact staged_of_event? (Option.mem_toList.1 now)
    · exact ih later

/-- **How many stages a pipeline has.** After a run, a pipeline that stands under a name has this name and the
resource name made of it, and it has at least two stages exactly if the last that has been done under the name is
not an update with fewer. -/
theorem stages_iff (scope : Scope) (ops : List Op) (name : String) (p : Pipeline)
    (there : ((blank scope).run ops).pipelines.get? name = some p) :
    p.declaration.name = name ∧ p.arn = scope.arn "codepipeline" name ∧
      (minStages ≤ p.declaration.stages.length ↔ ¬Shortened ((blank scope).history name ops)) := by
  obtain ⟨own, arn⟩ := ((filed_blank scope).run ops).each name p there
  refine ⟨own, arn, ?_⟩
  obtain ⟨new, us, stands, same⟩ := (tracks_run scope name ops p.bare).1 (by rw [there, Option.map_some])
  have made : .made new ∈ (blank scope).history name ops := by
    obtain ⟨front, split⟩ := stands_iff.1 stands
    simp [split]
  have last : stored (latest new us).1 = p.declaration := congrArg Pipeline.declaration same
  rw [← last, length_stages_stored]
  exact stages_iff_not_shortened stands (staged_of_made made)

/-! ### An update to more stages and one to fewer -/

/-- The pipeline gets a third stage. -/
def lengthening : List Op :=
  [.create trusting (staged "pipe" 2) [] ⟨0, 0⟩, .update (staged "pipe" 3) ⟨1, 0⟩]

/-- The pipeline is left with one stage. -/
def shortening : List Op :=
  [.create trusting (staged "pipe" 2) [] ⟨0, 0⟩, .update (staged "pipe" 1) ⟨1, 0⟩]

theorem stages_lengthening :
    ∃ p, ((blank site).run lengthening).pipelines.get? "pipe" = some p ∧ p.declaration.name = "pipe" ∧
      minStages ≤ p.declaration.stages.length := by
  have done : (blank site).history "pipe" lengthening =
      [.made ⟨staged "pipe" 2, [], ⟨0, 0⟩⟩, .updated (staged "pipe" 3, ⟨1, 0⟩)] := by
    decide +kernel
  have found : (((blank site).run lengthening).pipelines.get? "pipe").isSome = true := by
    decide +kernel
  obtain ⟨p, there⟩ := Option.isSome_iff_exists.1 found
  obtain ⟨own, -, enough⟩ := stages_iff site lengthening "pipe" p there
  refine ⟨p, there, own, enough.2 ?_⟩
  rw [done]
  rintro ⟨u, last, few⟩
  cases last
  exact absurd few (by decide)

theorem not_always_staged :
    ¬∀ (scope : Scope) (ops : List Op) (name : String) (p : Pipeline),
      ((blank scope).run ops).pipelines.get? name = some p → minStages ≤ p.declaration.stages.length := by
  intro always
  have seen : (((blank site).run shortening).pipelines.get? "pipe").map (·.declaration.stages.length) = some 1 := by
    decide +kernel
  obtain ⟨p, there, one⟩ := Option.map_eq_some_iff.1 seen
  have enough := always site shortening "pipe" p there
  rw [one] at enough
  exact absurd enough (by decide)

end Catalog

end MockCloud.Pipeline
