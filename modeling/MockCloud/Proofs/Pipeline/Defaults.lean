import Mathlib.Data.List.Forall2
import MockCloud.Pipeline.Declaration

/-! # What a declaration lacks

An action may leave out its run order, its configuration and its artifacts. What it leaves out is filled in when
its pipeline is stored, and everything else stays as it was sent.

* `Filled`: a field keeps the value that it has, and gets the default if it has none.
* `Declaration.Fills d e`: `e` is `d` with all that its actions lack filled in, action by action.
* `fills_iff`: so `withDefaults` fills, and nothing else does.
* `withDefaults_withDefaults`: what has been filled in lacks nothing. -/

namespace MockCloud.Pipeline

/-- A field that may be missing is filled in: it keeps its value, or gets the default. -/
def Filled {α : Type} (old : Option α) (default : α) (new : Option α) : Prop :=
  (∀ x, old = some x → new = some x) ∧ (old = none → new = some default)

theorem filled_iff {α : Type} {old new : Option α} {default : α} :
    Filled old default new ↔ new = some (old.getD default) := by
  cases old <;> simp [Filled]

/-- The second action is the first one with what it lacks filled in. -/
structure Action.Fills (a b : Action) : Prop where
  runOrder : Filled a.runOrder 1 b.runOrder
  configuration : Filled a.configuration .empty b.configuration
  outputArtifacts : Filled a.outputArtifacts [] b.outputArtifacts
  inputArtifacts : Filled a.inputArtifacts [] b.inputArtifacts
  name : b.name = a.name
  type : b.type = a.type
  roleArn : b.roleArn = a.roleArn
  region : b.region = a.region
  actionNamespace : b.actionNamespace = a.actionNamespace

/-- The second stage is the first one with what its actions lack filled in. -/
structure Stage.Fills (s t : Stage) : Prop where
  name : t.name = s.name
  actions : List.Forall₂ Action.Fills s.actions t.actions

/-- The second declaration is the first one with what its actions lack filled in. -/
structure Declaration.Fills (d e : Declaration) : Prop where
  name : e.name = d.name
  roleArn : e.roleArn = d.roleArn
  artifactStore : e.artifactStore = d.artifactStore
  stages : List.Forall₂ Stage.Fills d.stages e.stages
  version : e.version = d.version

theorem Action.fills_iff {a b : Action} : a.Fills b ↔ b = a.withDefaults := by
  constructor
  · rintro ⟨runOrder, configuration, outputs, inputs, name, type, roleArn, region, actionNamespace⟩
    rw [filled_iff] at runOrder configuration outputs inputs
    obtain ⟨⟩ := b
    simp_all [withDefaults]
  · rintro rfl
    exact ⟨filled_iff.2 rfl, filled_iff.2 rfl, filled_iff.2 rfl, filled_iff.2 rfl, rfl, rfl, rfl, rfl, rfl⟩

/-- Lists are filled element by element. -/
theorem forall₂_eq_map_iff {α : Type} {fills : α → α → Prop} {f : α → α} (h : ∀ a b, fills a b ↔ b = f a)
    {as bs : List α} : List.Forall₂ fills as bs ↔ bs = as.map f := by
  induction as generalizing bs with
  | nil => simp
  | cons a as ih =>
    cases bs with
    | nil => simp
    | cons b bs => rw [List.forall₂_cons, h, ih, List.map_cons, List.cons.injEq]

theorem Stage.fills_iff {s t : Stage} : s.Fills t ↔ t = s.withDefaults := by
  constructor
  · rintro ⟨name, actions⟩
    rw [forall₂_eq_map_iff @Action.fills_iff] at actions
    obtain ⟨⟩ := t
    simp_all [withDefaults]
  · rintro rfl
    exact ⟨rfl, (forall₂_eq_map_iff @Action.fills_iff).2 rfl⟩

/-- **What is filled in.** Of all declarations, the one with the defaults is the one that has what the given one
has, and the defaults where that one has nothing. -/
theorem Declaration.fills_iff {d e : Declaration} : d.Fills e ↔ e = d.withDefaults := by
  constructor
  · rintro ⟨name, roleArn, store, stages, version⟩
    rw [forall₂_eq_map_iff @Stage.fills_iff] at stages
    obtain ⟨⟩ := e
    simp_all [withDefaults]
  · rintro rfl
    exact ⟨rfl, rfl, rfl, (forall₂_eq_map_iff @Stage.fills_iff).2 rfl, rfl⟩

theorem Stage.withDefaults_withDefaults (s : Stage) : s.withDefaults.withDefaults = s.withDefaults := by
  simp only [withDefaults, List.map_map]
  rfl

/-- What has been filled in is left alone. -/
theorem Declaration.withDefaults_withDefaults (d : Declaration) :
    d.withDefaults.withDefaults = d.withDefaults := by
  simp only [withDefaults, List.map_map, Function.comp_def, Stage.withDefaults_withDefaults]

end MockCloud.Pipeline
