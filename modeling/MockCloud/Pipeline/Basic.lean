import MockCloud.Json.ToTree
import MockCloud.Pipeline.Declaration
import MockCloud.Role.Directory

/-! # Pipelines

A stored pipeline is a declaration with everything filled in, a version that counts its updates, and tags.
Its name is its id. A pipeline runs under a role, which has to let the pipeline service assume it.

* `Catalog` holds the pipelines of one place.
* `Catalog.create` checks the name, the role, the stages and the tags, in this order. -/

namespace MockCloud.Pipeline

open Json (ToTree Tree toTree)

/-- The fewest stages of a pipeline. -/
def minStages : Nat := 2

/-- How a call on pipelines fails. -/
inductive PipelineError where
  | roleNotTrusting (roleArn : String)
  | tooFewStages (count : Nat)
  | nameInUse (name account : String)
  | pipelineNotFound (name account : String)
  | resourceNotFound (name account : String)
  | reservedTag
  | invalidTags (violation : TagViolation)
  | tooManyTags (arn : String)
  | invalidPageToken (e : PageError)
  deriving DecidableEq, Repr

/-- A violation of the tag policy as an error about the pipeline with a resource name. -/
def PipelineError.ofTags (arn : String) : TagViolation → PipelineError
  | .tooManyTags .. => .tooManyTags arn
  | .reservedKey _ => .reservedTag
  | v => .invalidTags v

/-- The text of the error. -/
def PipelineError.message : PipelineError → String
  | roleNotTrusting roleArn =>
    "CodePipeline is not authorized to perform AssumeRole on role " ++ roleArn
  | tooFewStages count =>
    "Pipeline has only " ++ Text.decimal count ++ " stage(s). There should be a minimum of " ++
      Text.decimal minStages ++ " stages in a pipeline"
  | nameInUse name account =>
    "A pipeline with the name '" ++ name ++ "' already exists in account '" ++ account ++ "'"
  | pipelineNotFound name account =>
    "Account '" ++ account ++ "' does not have a pipeline with name '" ++ name ++ "'"
  | resourceNotFound name account =>
    "The account with id '" ++ account ++ "' does not include a pipeline with the name '" ++ name ++ "'"
  | reservedTag =>
    "Not allowed to modify system tags. System tags start with 'aws:'. msg=[Caller is an end user and " ++
      "not allowed to mutate system tags]"
  | invalidTags v => v.message
  | tooManyTags arn => "Tag limit exceeded for resource [" ++ arn ++ "]."
  | invalidPageToken e => "The next token was invalid: " ++ e.message

instance : Fault PipelineError where
  kind
    | .roleNotTrusting _ | .tooFewStages _ => .structureInvalid
    | .nameInUse .. => .alreadyExists
    | .pipelineNotFound .. | .resourceNotFound .. => .notFound
    | .reservedTag | .invalidTags _ | .invalidPageToken _ => .validationError
    | .tooManyTags _ => .limitExceeded
  code
    | .roleNotTrusting _ | .tooFewStages _ | .nameInUse .. => "InvalidStructureException"
    | .pipelineNotFound .. => "PipelineNotFoundException"
    | .resourceNotFound .. => "ResourceNotFoundException"
    | .reservedTag | .invalidTags _ => "InvalidTagsException"
    | .tooManyTags _ => "TooManyTagsException"
    | .invalidPageToken _ => "InvalidNextTokenException"
  message := PipelineError.message
  status _ := 400

end MockCloud.Pipeline

namespace MockCloud

/-- A stored pipeline. -/
structure Pipeline where
  declaration : Pipeline.Declaration
  version : UInt32
  arn : String
  created : Instant
  updated : Instant
  tags : TagMap
  deriving DecidableEq

namespace Pipeline

open Json (ToTree Tree toTree)

/-- The declaration with the version of the pipeline. -/
def view (p : Pipeline) : Declaration :=
  { p.declaration with version := some p.version }

/-- The tags with the incoming ones over them; the incoming list may name a key only once. -/
def mergedTags (p : Pipeline) (incoming : List Tag) : Except PipelineError TagMap := do
  (TagPolicy.checkUnique incoming).mapError (PipelineError.ofTags p.arn)
  (TagPolicy.standard.merged p.tags (.ofTags incoming)).mapError (PipelineError.ofTags p.arn)

/-- What a pipeline is made from. -/
structure New where
  declaration : Declaration
  tags : List Tag
  time : Instant
  deriving DecidableEq

/-- What is stored of a declaration: everything filled in, and no version. -/
def stored (d : Declaration) : Declaration :=
  { d.withDefaults with version := none }

/-- Makes a pipeline with its first version. -/
def make (name : String) (p : New) (scope : Scope) : Except PipelineError Pipeline :=
  let bare : Pipeline :=
    { declaration := { stored p.declaration with name }
      version := 1
      arn := scope.arn "codepipeline" name
      created := p.time
      updated := p.time
      tags := .empty }
  (bare.mergedTags p.tags).map fun tags => { bare with tags }

/-- Replaces the declaration, which gives a new version. -/
def change (p : Pipeline) (d : Declaration) (time : Instant) : Pipeline :=
  { p with declaration := stored d, version := p.version + 1, updated := time }

instance : Entity Pipeline New (Declaration × Instant) Scope PipelineError where
  id p := p.declaration.name
  make := make
  change p c _ := .ok () (p.change c.1 c.2)
  missing name scope := .resourceNotFound name scope.account
  taken name scope := .nameInUse name scope.account

/-- The resource name of a pipeline and when it was made and last changed. -/
structure Metadata where
  pipelineArn : String
  created : Instant
  updated : Instant
  deriving DecidableEq, Repr

/-- The metadata of a pipeline. -/
def metadata (p : Pipeline) : Metadata :=
  ⟨p.arn, p.created, p.updated⟩

/-- An entry of a listing of pipelines. -/
structure Summary where
  name : String
  version : UInt32
  created : Instant
  updated : Instant
  deriving DecidableEq, Repr

/-- The entry of a pipeline. -/
def summary (p : Pipeline) : Summary :=
  ⟨p.declaration.name, p.version, p.created, p.updated⟩

instance : ToTree Declaration := ⟨Declaration.tree⟩

instance [ToTree Instant] : ToTree Metadata where
  toTree m := .record [("pipelineArn", .str m.pipelineArn), ("created", toTree m.created),
    ("updated", toTree m.updated)]

instance [ToTree Instant] : ToTree Summary where
  toTree s := .record [("name", .str s.name), ("version", toTree s.version), ("created", toTree s.created),
    ("updated", toTree s.updated)]

/-! ### The catalog -/

/-- The pipelines of one place. -/
structure Catalog where
  scope : Scope
  pipelines : Store Pipeline Scope

instance : Backend Catalog where
  service := "codepipeline"
  isGlobal := false
  new scope := ⟨scope, .new scope⟩
  scope := Catalog.scope

/-- The service that has to be trusted by the role of a pipeline. -/
def principal : String := "codepipeline.amazonaws.com"

/-- The name of the pipeline that a resource name stands for: what follows its last colon. -/
def nameOfArn (arn : String) : String :=
  match Text.cutLast (· = ':') arn.toList with
  | some (_, name) => String.ofList name
  | none => arn

namespace Catalog

/-- Sizes of the pages of pipelines. -/
def pageLimits : PageLimits := ⟨100, 1000⟩

/-- Whether the role of this resource name lets pipelines assume it. -/
def isTrusted (roles : Role.Directory) (roleArn : String) : Bool :=
  match roles.getByArn roleArn with
  | .ok role => role.trusts principal
  | .error _ => false

/-- Makes a pipeline and gives back its declaration and its tags. -/
def create (c : Catalog) (roles : Role.Directory) (d : Declaration) (tags : List Tag) (time : Instant) :
    Outcome Catalog PipelineError (Declaration × List Tag) :=
  .guard (c.pipelines.ensureAbsent d.name) c fun _ =>
    if !isTrusted roles d.roleArn then .fail (.roleNotTrusting d.roleArn) c
    else if d.stages.length < minStages then .fail (.tooFewStages d.stages.length) c
    else
      ((c.pipelines.create d.name ⟨d, tags, time⟩).within ({ c with pipelines := · })).map fun p =>
        (p.view, p.tags.toTags)

/-- The declaration and the metadata of a pipeline. -/
def get (c : Catalog) (name : String) : Except PipelineError (Declaration × Metadata) :=
  match c.pipelines.get? name with
  | some p => .ok (p.view, p.metadata)
  | none => .error (.pipelineNotFound name c.scope.account)

/-- Replaces the declaration of the pipeline of its name. -/
def update (c : Catalog) (d : Declaration) (time : Instant) :
    Outcome Catalog PipelineError Declaration :=
  ((c.pipelines.update d.name (d, time)).within ({ c with pipelines := · })).map view

/-- Removes a pipeline if it is there. -/
def delete (c : Catalog) (name : String) : Catalog :=
  { c with pipelines := (c.pipelines.discard name).2 }

/-- A page of the pipelines in the order of their names. -/
def list (c : Catalog) (request : PageRequest) : Except PipelineError (Page Summary) :=
  (paginate (c.pipelines.values.map summary) request pageLimits .null Summary.name).mapError
    .invalidPageToken

/-- The pipeline that a resource name stands for. -/
def getByArn (c : Catalog) (arn : String) : Except PipelineError Pipeline :=
  c.pipelines.require (nameOfArn arn)

/-- Puts tags on a pipeline. -/
def tag (c : Catalog) (arn : String) (tags : List Tag) : Outcome Catalog PipelineError Unit :=
  .guard (c.getByArn arn) c fun p =>
    .guard (p.mergedTags tags) c fun tags =>
      .ok () { c with pipelines := c.pipelines.modify (nameOfArn arn) fun p => { p with tags } }

/-- Takes tags off a pipeline. -/
def untag (c : Catalog) (arn : String) (keys : List String) : Outcome Catalog PipelineError Unit :=
  .guard (c.getByArn arn) c fun _ =>
    .ok () { c with pipelines := c.pipelines.modify (nameOfArn arn) fun p =>
      { p with tags := p.tags.eraseKeys keys } }

/-- The tags of a pipeline in the order of their keys. -/
def tagsOf (c : Catalog) (arn : String) : Except PipelineError (List Tag) :=
  (c.getByArn arn).map fun p => p.tags.toTags

end Catalog

end Pipeline

end MockCloud
