import MockCloud.Json.Record
import MockCloud.SortedMap

/-! # Pipeline declarations

A pipeline is declared as a JSON text. A field that may be missing stays missing until the declaration is
stored, so that a declaration that is read back shows what its writer sent.

* `Declaration.ofTree?` and `Declaration.tree` read and write a declaration.
* `Declaration.withDefaults` fills in what actions lack. -/

namespace MockCloud.Pipeline

open Json (Tree required optional)

/-- Where a pipeline keeps its artifacts. -/
structure ArtifactStore where
  kind : String
  location : String
  deriving DecidableEq, Repr

/-- What an action does and who provides it. -/
structure ActionType where
  category : String
  owner : String
  provider : String
  version : String
  deriving DecidableEq, Repr

/-- An artifact that an action reads or writes. -/
structure Artifact where
  name : String
  deriving DecidableEq, Repr

/-- An action of a stage. -/
structure Action where
  name : String
  type : ActionType
  runOrder : Option UInt32
  configuration : Option (SortedMap String)
  outputArtifacts : Option (List Artifact)
  inputArtifacts : Option (List Artifact)
  roleArn : Option String
  region : Option String
  actionNamespace : Option String
  deriving DecidableEq

/-- A stage of a pipeline. -/
structure Stage where
  name : String
  actions : List Action
  deriving DecidableEq

/-- A pipeline as it is declared. -/
structure Declaration where
  name : String
  roleArn : String
  artifactStore : Option ArtifactStore
  stages : List Stage
  version : Option UInt32
  deriving DecidableEq

/-! ### Making declarations -/

/-- An action with nothing but what it needs. -/
def Action.new (name category provider : String) : Action :=
  ⟨name, ⟨category, "AWS", provider, "1"⟩, none, none, none, none, none, none, none⟩

/-- The action with a run order, a configuration and artifacts, where it has none. -/
def Action.withDefaults (a : Action) : Action :=
  { a with
    runOrder := some (a.runOrder.getD 1)
    configuration := some (a.configuration.getD .empty)
    outputArtifacts := some (a.outputArtifacts.getD [])
    inputArtifacts := some (a.inputArtifacts.getD []) }

/-- The stage with its actions filled in. -/
def Stage.withDefaults (s : Stage) : Stage :=
  { s with actions := s.actions.map Action.withDefaults }

/-- The declaration with its actions filled in. -/
def Declaration.withDefaults (d : Declaration) : Declaration :=
  { d with stages := d.stages.map Stage.withDefaults }

/-! ### Reading -/

/-- Reads an artifact store. -/
def ArtifactStore.ofTree? (t : Tree) : Option ArtifactStore := do
  match ← t.record? ["type", "location"] with
  | [kind, location] => return ⟨← required Tree.text? kind, ← required Tree.text? location⟩
  | _ => none

/-- Reads the type of an action. -/
def ActionType.ofTree? (t : Tree) : Option ActionType := do
  match ← t.record? ["category", "owner", "provider", "version"] with
  | [category, owner, provider, version] =>
    return ⟨← required Tree.text? category, ← required Tree.text? owner,
      ← required Tree.text? provider, ← required Tree.text? version⟩
  | _ => none

/-- Reads an artifact. -/
def Artifact.ofTree? (t : Tree) : Option Artifact := do
  match ← t.record? ["name"] with
  | [name] => return ⟨← required Tree.text? name⟩
  | _ => none

/-- Reads a configuration; the last value of a key counts. -/
def configuration? (t : Tree) : Option (SortedMap String) :=
  (t.pairs? Tree.text?).map SortedMap.ofList

/-- Reads an action. -/
def Action.ofTree? (t : Tree) : Option Action := do
  let names := ["name", "actionTypeId", "runOrder", "configuration", "outputArtifacts", "inputArtifacts",
    "roleArn", "region", "namespace"]
  match ← t.record? names with
  | [name, type, runOrder, configuration, outputs, inputs, roleArn, region, actionNamespace] =>
    return {
      name := ← required Tree.text? name
      type := ← required ActionType.ofTree? type
      runOrder := ← optional Tree.nat32? runOrder
      configuration := ← optional configuration? configuration
      outputArtifacts := ← optional (Tree.list? Artifact.ofTree?) outputs
      inputArtifacts := ← optional (Tree.list? Artifact.ofTree?) inputs
      roleArn := ← optional Tree.text? roleArn
      region := ← optional Tree.text? region
      actionNamespace := ← optional Tree.text? actionNamespace }
  | _ => none

/-- Reads a stage. -/
def Stage.ofTree? (t : Tree) : Option Stage := do
  match ← t.record? ["name", "actions"] with
  | [name, actions] =>
    return ⟨← required Tree.text? name, ← required (Tree.list? Action.ofTree?) actions⟩
  | _ => none

/-- Reads a declaration. -/
def Declaration.ofTree? (t : Tree) : Option Declaration := do
  match ← t.record? ["name", "roleArn", "artifactStore", "stages", "version"] with
  | [name, roleArn, store, stages, version] =>
    return {
      name := ← required Tree.text? name
      roleArn := ← required Tree.text? roleArn
      artifactStore := ← optional ArtifactStore.ofTree? store
      stages := ← required (Tree.list? Stage.ofTree?) stages
      version := ← optional Tree.nat32? version }
  | _ => none

/-- Reads a declaration from a JSON text. -/
def Declaration.parse? (text : String) : Option Declaration :=
  (Tree.parse? text).bind ofTree?

/-! ### Writing -/

/-- A field that is left out when it is missing. -/
def field? {α : Type} (name : String) (f : α → Tree) (a : Option α) : List (String × Tree) :=
  match a with
  | none => []
  | some a => [(name, f a)]

/-- The number as a tree. -/
def nat32Tree (n : UInt32) : Tree :=
  .nat n.toNat

/-- Writes artifacts. -/
def artifactsTree (artifacts : List Artifact) : Tree :=
  .list (artifacts.map fun a => .record [("name", .str a.name)])

/-- Writes a configuration. -/
def configurationTree (c : SortedMap String) : Tree :=
  .record (c.entries.map fun (k, v) => (k, .str v))

/-- Writes an artifact store. -/
def ArtifactStore.tree (s : ArtifactStore) : Tree :=
  .record [("type", .str s.kind), ("location", .str s.location)]

/-- Writes the type of an action. -/
def ActionType.tree (t : ActionType) : Tree :=
  .record [("category", .str t.category), ("owner", .str t.owner), ("provider", .str t.provider),
    ("version", .str t.version)]

/-- Writes an action. -/
def Action.tree (a : Action) : Tree :=
  .record ([("name", .str a.name), ("actionTypeId", a.type.tree)] ++
    field? "runOrder" nat32Tree a.runOrder ++ field? "configuration" configurationTree a.configuration ++
    field? "outputArtifacts" artifactsTree a.outputArtifacts ++
    field? "inputArtifacts" artifactsTree a.inputArtifacts ++ field? "roleArn" .str a.roleArn ++
    field? "region" .str a.region ++ field? "namespace" .str a.actionNamespace)

/-- Writes a stage. -/
def Stage.tree (s : Stage) : Tree :=
  .record [("name", .str s.name), ("actions", .list (s.actions.map Action.tree))]

/-- Writes a declaration; what is missing is left out. -/
def Declaration.tree (d : Declaration) : Tree :=
  .record ([("name", .str d.name), ("roleArn", .str d.roleArn)] ++
    field? "artifactStore" ArtifactStore.tree d.artifactStore ++
    [("stages", .list (d.stages.map Stage.tree))] ++ field? "version" nat32Tree d.version)

/-- The JSON text of a declaration. -/
def Declaration.render (d : Declaration) : String :=
  d.tree.render

end MockCloud.Pipeline
