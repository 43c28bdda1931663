import MockCloud.Ident
import MockCloud.Instant
import MockCloud.Json.ToTree
import MockCloud.Scope
import MockCloud.Store

/-! # Roles

A role has a path, tags and a trust policy, a JSON document that names who may assume the role. Only the
first statement of the document counts.

* `Role.trusts` asks whether a service may assume a role.
* A role is an `Entity`: `Role.make` and `Role.change` say what one is made from and how it changes. -/

namespace MockCloud.Role

/-- How a call on roles fails. -/
inductive RoleError where
  | notFound (name : String)
  | arnNotFound (arn : String)
  | alreadyExists (name : String)
  | malformedPolicy
  | tooManyTags (limit : Nat)
  | invalidTags (violation : TagViolation)
  | invalidPath (path : String)
  | invalidDuration (seconds : Nat)
  | invalidPageToken (e : PageError)
  deriving DecidableEq, Repr

/-- A violation of the tag policy as an error about roles. -/
def RoleError.ofTags : TagViolation → RoleError
  | .tooManyTags limit _ => .tooManyTags limit
  | v => .invalidTags v

/-- The text of the error. -/
def RoleError.message : RoleError → String
  | notFound name => "The role with name " ++ name ++ " cannot be found."
  | arnNotFound arn => "Role " ++ arn ++ " not found"
  | alreadyExists name => "Role with name " ++ name ++ " already exists."
  | malformedPolicy => "Syntax errors in policy."
  | tooManyTags limit =>
    "1 validation error detected: Value at 'tags' failed to satisfy constraint: Member must have " ++
      "length less than or equal to " ++ Text.decimal limit
  | invalidTags v => v.message
  | invalidPath path =>
    "The specified value for path is invalid. It must begin and end with / and contain only " ++
      "alphanumeric characters and/or / characters. Path: " ++ path
  | invalidDuration seconds =>
    "1 validation error detected: Value '" ++ Text.decimal seconds ++ "' at 'maxSessionDuration' " ++
      "failed to satisfy constraint: Member must have value less than or equal to 43200"
  | invalidPageToken e => e.message

instance : Fault RoleError where
  kind
    | .notFound _ | .arnNotFound _ => .notFound
    | .alreadyExists _ => .alreadyExists
    | .malformedPolicy => .structureInvalid
    | .tooManyTags _ => .limitExceeded
    | .invalidTags _ | .invalidPath _ | .invalidDuration _ | .invalidPageToken _ => .validationError
  code
    | .notFound _ | .arnNotFound _ => "NoSuchEntity"
    | .alreadyExists _ => "EntityAlreadyExists"
    | .malformedPolicy => "MalformedPolicyDocument"
    | .tooManyTags _ => "LimitExceeded"
    | .invalidTags _ | .invalidPath _ | .invalidDuration _ | .invalidPageToken _ => "InvalidInput"
  message := RoleError.message

end MockCloud.Role

namespace MockCloud

/-- A role. -/
structure Role where
  name : String
  id : String
  arn : String
  path : String
  policy : String
  description : Option String
  maxSessionDuration : Nat
  created : Instant
  tags : TagMap
  deriving DecidableEq

namespace Role

/-- What a role is made from. `idStem` and `created` are what the maker draws and when. -/
structure New where
  policy : String
  path : Option String := none
  description : Option String := none
  maxSessionDuration : Option Nat := none
  tags : List Tag := []
  idStem : String
  created : Instant

/-- What a change of a role sets. -/
structure Change where
  policy : Option String := none
  description : Option String := none
  maxSessionDuration : Option Nat := none

/-- Session duration of a role that is made without one. -/
def usualSessionDuration : Nat := 3600

/-! ### Trust -/

/-- Reads a policy document. -/
def readPolicy (document : String) : Except RoleError Json.Value :=
  match Json.Value.parse? document with
  | some v => .ok v
  | none => .error .malformedPolicy

/-- The statement that counts: the first one of a list, or a single one that stands by itself. -/
def firstStatement? (policy : Json.Value) : Option Json.Value :=
  match policy.field? "Statement" with
  | some (.list statements) => statements.head?
  | some (.object fields) => some (.object fields)
  | _ => none

/-- Whether the services that a statement names include this one: a single text names every service whose
name occurs in it, a list names its texts. -/
def namesService (statement : Json.Value) (service : String) : Bool :=
  match (statement.field? "Principal").bind fun p => p.field? "Service" with
  | some (.text s) => Text.contains s service
  | some (.list items) =>
    items.any fun
      | .text s => s == service
      | _ => false
  | _ => false

/-- Whether a policy lets a service assume its role. -/
def policyTrusts (policy : Json.Value) (service : String) : Bool :=
  (firstStatement? policy).any fun s => namesService s service

/-- Whether a service may assume the role. -/
def trusts (r : Role) (service : String) : Bool :=
  match readPolicy r.policy with
  | .ok policy => policyTrusts policy service
  | .error _ => false

/-! ### The kind of resource -/

/-- Makes a role: its policy must be JSON, its tags must keep the policy for tags, and its path must begin
and end with a slash. -/
def make (name : String) (p : New) (scope : Scope) : Except RoleError Role := do
  let _ ← readPolicy p.policy
  (TagPolicy.checkUnique p.tags).mapError RoleError.ofTags
  let tags := TagMap.ofTags p.tags
  (TagPolicy.standard.checkReplacement tags).mapError RoleError.ofTags
  let path := p.path.getD "/"
  if !Text.beginsWith path "/" || !Text.endsWith path "/" then throw (.invalidPath path)
  return {
    name
    id := "AROA" ++ p.idStem
    arn := scope.globalArn "iam" ("role" ++ path ++ name)
    path
    policy := p.policy
    description := p.description
    maxSessionDuration := p.maxSessionDuration.getD usualSessionDuration
    created := p.created
    tags }

/-- Sets the policy, if there is a new one. -/
def setPolicy (r : Role) : Option String → Outcome Role RoleError Unit
  | none => .ok () r
  | some document => .guard (readPolicy document) r fun _ => .ok () { r with policy := document }

/-- Sets the session duration, if there is a new one. -/
def setDuration (r : Role) : Option Nat → Outcome Role RoleError Unit
  | none => .ok () r
  | some seconds =>
    if 3600 ≤ seconds ∧ seconds ≤ 43200 then .ok () { r with maxSessionDuration := seconds }
    else .fail (.invalidDuration seconds) r

/-- Changes a role: first the policy, then the description, then the session duration. -/
def change (r : Role) (c : Change) : Outcome Role RoleError Unit :=
  (r.setPolicy c.policy).bind fun _ r =>
    setDuration { r with description := c.description <|> r.description } c.maxSessionDuration

instance : Entity Role New Change Scope RoleError where
  id := Role.name
  make := make
  change r c _ := r.change c
  missing name _ := .notFound name
  taken name _ := .alreadyExists name

instance [Json.ToTree Instant] : Json.ToTree Role where
  toTree r := .record [("RoleName", .str r.name), ("RoleId", .str r.id), ("Arn", .str r.arn),
    ("Path", .str r.path), ("AssumeRolePolicyDocument", .str r.policy),
    ("Description", .option .str r.description), ("MaxSessionDuration", .nat r.maxSessionDuration),
    ("CreateDate", Json.toTree r.created), ("tags", Json.toTree r.tags)]

end Role

end MockCloud
