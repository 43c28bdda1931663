/-! # Faults

Every service has its own errors. What they share is a coarse kind that callers branch on, the code and
the message that the service reports, and a status. -/

namespace MockCloud

/-- The coarse classes of errors. -/
inductive FaultKind where
  /-- The resource named is not there. -/
  | notFound
  /-- The name of a new resource is taken. -/
  | alreadyExists
  /-- The request breaks a structural rule. -/
  | structureInvalid
  /-- A field breaks a rule. -/
  | validationError
  /-- There is too much of something. -/
  | limitExceeded
  /-- A rule of the service refuses the request. -/
  | rejected
  deriving DecidableEq, Repr

/-- The name of a class. -/
def FaultKind.name : FaultKind → String
  | notFound => "NotFound"
  | alreadyExists => "AlreadyExists"
  | structureInvalid => "StructureInvalid"
  | validationError => "ValidationError"
  | limitExceeded => "LimitExceeded"
  | rejected => "Rejected"

/-- An error as its service reports it. -/
class Fault (ε : Type) where
  kind : ε → FaultKind
  code : ε → String
  message : ε → String
  status : ε → Nat := fun e => if kind e = .notFound then 404 else 400

/-- An error as plain data. -/
structure FaultDetails where
  kind : FaultKind
  code : String
  message : String
  status : Nat
  deriving DecidableEq, Repr

/-- The plain data of an error. -/
def Fault.details {ε : Type} [Fault ε] (e : ε) : FaultDetails :=
  ⟨kind e, code e, message e, status e⟩

end MockCloud
