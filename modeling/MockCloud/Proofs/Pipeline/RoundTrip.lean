import MockCloud.Pipeline.Declaration
import MockCloud.Proofs.Json.Record

/-! # Written declarations read back

A declaration is written part by part, and each part is read under the name that it was written under. A field
that a part does not have is not written at all, so that a reader sees the difference between a field that is
missing and one that is empty.

* `Declaration.ShownBy d t`: the objects of the tree `t` have the fields that the parts of `d` have, and no
  others.
* `Declaration.faithful`: the tree of a declaration is read as the declaration, from the parts upwards.
* `Declaration.reads_back`: so is its text, whatever it has and lacks, with defaults or without. -/

namespace MockCloud.Pipeline

open Json (Tree Faithful present)

/-! ### The fields that are there -/

/-- The names of the fields that are there, out of all fields. -/
def given (fields : List (String × Bool)) : List String :=
  (fields.filter (·.2)).map (·.1)

/-- The fields of an action in order, and whether it has them. -/
def Action.fields (a : Action) : List (String × Bool) :=
  [("name", true), ("actionTypeId", true), ("runOrder", a.runOrder.isSome),
    ("configuration", a.configuration.isSome), ("outputArtifacts", a.outputArtifacts.isSome),
    ("inputArtifacts", a.inputArtifacts.isSome), ("roleArn", a.roleArn.isSome), ("region", a.region.isSome),
    ("namespace", a.actionNamespace.isSome)]

/-- The fields of a declaration in order, and whether it has them. -/
def Declaration.fields (d : Declaration) : List (String × Bool) :=
  [("name", true), ("roleArn", true), ("artifactStore", d.artifactStore.isSome), ("stages", true),
    ("version", d.version.isSome)]

/-- The tree is an object with the fields that the action has, and no others. -/
def Action.ShownBy (a : Action) (t : Tree) : Prop :=
  ∃ pairs, t = .record pairs ∧ pairs.map (·.1) = given a.fields

/-- The tree is an object with the name of the stage and a list of its actions. -/
def Stage.ShownBy (s : Stage) (t : Tree) : Prop :=
  ∃ actions, t = .record [("name", .str s.name), ("actions", .list actions)] ∧
    List.Forall₂ Action.ShownBy s.actions actions

/-- The tree is an object with the fields that the declaration has, and no others; so are the objects of its
stages and actions. -/
def Declaration.ShownBy (d : Declaration) (t : Tree) : Prop :=
  ∃ pairs stages, t = .record pairs ∧ pairs.map (·.1) = given d.fields ∧ ("stages", .list stages) ∈ pairs ∧
    List.Forall₂ Stage.ShownBy d.stages stages

/-! ### Reading the parts -/

open Json (faithful_text faithful_nat32 present_append)

theorem faithful_nat32Tree : Faithful Tree.nat32? nat32Tree :=
  faithful_nat32

theorem faithful_artifact : Faithful Artifact.ofTree? fun a => .record [("name", .str a.name)] :=
  .record (fun a => [("name", some (.str a.name))]) (fun _ => rfl) (fun _ => rfl) (by decide) (fun _ => rfl)
    (fun a => by simp [faithful_text.clean]) fun a => rfl

theorem faithful_artifacts : Faithful (Tree.list? Artifact.ofTree?) artifactsTree :=
  faithful_artifact.list

theorem faithful_configuration : Faithful configuration? configurationTree :=
  faithful_text.map

theorem ArtifactStore.faithful : Faithful ofTree? tree :=
  .record (fun s => [("type", some (.str s.kind)), ("location", some (.str s.location))])
    (fun _ => rfl) (fun _ => rfl) (by decide) (fun _ => rfl) (fun s => by simp [faithful_text.clean]) fun s => rfl

theorem ActionType.faithful : Faithful ofTree? tree :=
  .record (fun t => [("category", some (.str t.category)), ("owner", some (.str t.owner)),
      ("provider", some (.str t.provider)), ("version", some (.str t.version))])
    (fun _ => rfl) (fun _ => rfl) (by decide) (fun _ => rfl) (fun s => by simp [faithful_text.clean]) fun s => rfl

/-- A field that may be missing is one of the fields that are there. -/
theorem field?_eq {α : Type} (name : String) (f : α → Tree) (a : Option α) :
    field? name f a = present [(name, a.map f)] := by
  cases a <;> rfl

/-- The trees of an action under the names of its fields. -/
def Action.slots (a : Action) : List (String × Option Tree) :=
  [("name", some (.str a.name)), ("actionTypeId", some a.type.tree), ("runOrder", a.runOrder.map nat32Tree),
    ("configuration", a.configuration.map configurationTree),
    ("outputArtifacts", a.outputArtifacts.map artifactsTree),
    ("inputArtifacts", a.inputArtifacts.map artifactsTree), ("roleArn", a.roleArn.map .str),
    ("region", a.region.map .str), ("namespace", a.actionNamespace.map .str)]

theorem Action.tree_eq (a : Action) : a.tree = .record (present a.slots) := by
  -- Each field is turned into its slot on its own: splitting on which of the seven are there would give 128 cases.
  simp only [tree, field?_eq]
  rw [show [("name", Tree.str a.name), ("actionTypeId", a.type.tree)] =
    present [("name", some (.str a.name)), ("actionTypeId", some a.type.tree)] from rfl]
  simp only [← present_append]
  rfl

theorem Action.faithful : Faithful ofTree? tree := by
  refine .record slots (fun _ => rfl) tree_eq (by decide) (fun _ => rfl) (fun a => ?_) fun a => ?_
  · simp only [slots, List.forall_mem_cons, List.not_mem_nil, false_imp_iff, implies_true, and_true]
    exact ⟨faithful_text.clean_map (some _), ActionType.faithful.clean_map (some _), faithful_nat32Tree.clean_map _,
      faithful_configuration.clean_map _, faithful_artifacts.clean_map _, faithful_artifacts.clean_map _,
      faithful_text.clean_map _, faithful_text.clean_map _, faithful_text.clean_map _⟩
  · simp [slots, faithful_text.required, faithful_text.optional, ActionType.faithful.required,
      faithful_nat32Tree.optional, faithful_configuration.optional, faithful_artifacts.optional]

theorem Stage.faithful : Faithful ofTree? tree := by
  refine .record
    (fun s => [("name", some (.str s.name)), ("actions", some (.list (s.actions.map Action.tree)))])
    (fun _ => rfl) (fun _ => rfl) (by decide) (fun _ => rfl) (fun s => ?_) fun s => ?_
  · simp only [List.forall_mem_cons, List.not_mem_nil, false_imp_iff, implies_true, and_true]
    exact ⟨faithful_text.clean_map (some _), Action.faithful.list.clean_map (some _)⟩
  · simp [faithful_text.required, Action.faithful.list.required]

/-- The trees of a declaration under the names of its fields. -/
def Declaration.slots (d : Declaration) : List (String × Option Tree) :=
  [("name", some (.str d.name)), ("roleArn", some (.str d.roleArn)),
    ("artifactStore", d.artifactStore.map ArtifactStore.tree), ("stages", some (.list (d.stages.map Stage.tree))),
    ("version", d.version.map nat32Tree)]

theorem Declaration.tree_eq (d : Declaration) : d.tree = .record (present d.slots) := by
  simp only [tree, field?_eq]
  rw [show [("name", Tree.str d.name), ("roleArn", .str d.roleArn)] =
    present [("name", some (.str d.name)), ("roleArn", some (.str d.roleArn))] from rfl,
    show [("stages", Tree.list (d.stages.map Stage.tree))] =
      present [("stages", some (.list (d.stages.map Stage.tree)))] from rfl]
  simp only [← present_append]
  rfl

/-- **A declaration is read from the tree that it is written as.** -/
theorem Declaration.faithful : Faithful ofTree? tree := by
  refine .record slots (fun _ => rfl) tree_eq (by decide) (fun _ => rfl) (fun d => ?_) fun d => ?_
  · simp only [slots, List.forall_mem_cons, List.not_mem_nil, false_imp_iff, implies_true, and_true]
    exact ⟨faithful_text.clean_map (some _), faithful_text.clean_map (some _),
      ArtifactStore.faithful.clean_map _, Stage.faithful.list.clean_map (some _), faithful_nat32Tree.clean_map _⟩
  · simp [slots, faithful_text.required, ArtifactStore.faithful.optional, Stage.faithful.list.required,
      faithful_nat32Tree.optional]

/-! ### The fields that are written -/

/-- The fields of an object are those with a tree. -/
theorem names_present (slots : List (String × Option Tree)) :
    (present slots).map (·.1) = given (slots.map fun s => (s.1, s.2.isSome)) := by
  rw [Json.map_fst_present, given, List.filter_map, List.map_map]
  rfl

theorem Action.shownBy_tree (a : Action) : a.ShownBy a.tree := by
  refine ⟨present a.slots, a.tree_eq, ?_⟩
  rw [names_present]
  simp [slots, fields]

theorem Stage.shownBy_tree (s : Stage) : s.ShownBy s.tree :=
  ⟨s.actions.map Action.tree, rfl, List.forall₂_map_right_iff.2 (List.forall₂_same.2 fun a _ => a.shownBy_tree)⟩

theorem Declaration.shownBy_tree (d : Declaration) : d.ShownBy d.tree := by
  refine ⟨present d.slots, d.stages.map Stage.tree, d.tree_eq, ?_, ?_,
    List.forall₂_map_right_iff.2 (List.forall₂_same.2 fun s _ => s.shownBy_tree)⟩
  · rw [names_present]
    simp [slots, fields]
  · simp [slots, present]

/-! ### The text -/

/-- A declaration is read back from its text, and the objects of the text have the fields that its parts have. -/
structure Declaration.ReadsBack (d : Declaration) : Prop where
  same : parse? d.render = some d
  shown : ∃ t, Tree.parse? d.render = some t ∧ d.ShownBy t

theorem Declaration.readsBack (d : Declaration) : d.ReadsBack where
  same := by
    rw [parse?, render, Tree.parse?_render (faithful.clean d), Option.bind_some, faithful.read_write]
  shown := ⟨d.tree, Tree.parse?_render (faithful.clean d), d.shownBy_tree⟩

/-- **The round trip.** Whatever fields a declaration has and lacks, its text gives it back and shows these
fields alone, as it was sent and with its defaults. -/
theorem Declaration.reads_back (d : Declaration) : d.ReadsBack ∧ d.withDefaults.ReadsBack :=
  ⟨d.readsBack, d.withDefaults.readsBack⟩

end MockCloud.Pipeline
