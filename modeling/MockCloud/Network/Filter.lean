import MockCloud.Network.Error
import MockCloud.Text.Wildcard

/-! # Filters

A filter names an attribute and lists values. A resource fits it when one of its values for the attribute
fits one of the listed ones, in which `*` and `?` are wildcards; it has to fit every filter of a list. The
attributes `tag:` with a key, `tag-key` and `tag-value` are known to every resource; any other name that a
resource does not know is refused.

* `select` keeps the resources that fit every filter. -/

namespace MockCloud.Network

/-- An attribute and the values it may have. -/
structure Filter where
  name : String
  values : List String
  deriving DecidableEq, Repr

/-- A resource that filters look at. -/
class Filterable (α : Type) where
  /-- The values of an attribute, or `none` for a name that is unknown. -/
  attribute? : α → String → Option (List String)
  tags : α → TagMap

/-- The text of a truth value. -/
def flag (b : Bool) : List String :=
  [if b then "true" else "false"]

/-- Whether some pattern fits some candidate. -/
def anyFits (patterns candidates : List String) : Bool :=
  patterns.any fun p => candidates.any fun c => Text.Wildcard.fits p.toList c.toList

variable {α : Type} [Filterable α]

/-- The values that a filter looks at. -/
def Filter.candidates (f : Filter) (a : α) : Except NetworkError (List String) :=
  let tags := Filterable.tags a
  match Text.after? "tag:".toList f.name.toList with
  | some key => .ok (tags.get? (String.ofList key)).toList
  | none =>
    if f.name = "tag-key" then .ok tags.keys
    else if f.name = "tag-value" then .ok tags.values
    else
      match Filterable.attribute? a f.name with
      | some values => .ok values
      | none => .error (.invalidValue (.filter f.name))

/-- Whether a resource fits every filter; filters behind one that it does not fit are not looked at. -/
def fitsAll (a : α) : List Filter → Except NetworkError Bool
  | [] => .ok true
  | f :: rest =>
    match f.candidates a with
    | .error e => .error e
    | .ok candidates => if anyFits f.values candidates then fitsAll a rest else .ok false

/-- The resources that fit every filter. -/
def select : List α → List Filter → Except NetworkError (List α)
  | [], _ => .ok []
  | a :: rest, filters =>
    match fitsAll a filters with
    | .error e => .error e
    | .ok keep =>
      match select rest filters with
      | .error e => .error e
      | .ok kept => .ok (if keep then a :: kept else kept)

end MockCloud.Network
