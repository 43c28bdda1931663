import MockCloud.Json.ToTree
import MockCloud.Mail.Error

/-! # Configuration sets

A configuration set bundles options for sending and the destinations of events. The name of a destination is
unique among all sets of a place.

* `ConfigurationSets` keeps the sets together with the names of their destinations. -/

namespace MockCloud.Mail

open Json (ToTree Tree toTree)

/-- How deliveries are made. -/
structure DeliveryOptions where
  tlsPolicy : Option String
  sendingPool : Option String
  deriving DecidableEq, Repr

/-- How clicks are followed. -/
structure TrackingOptions where
  redirectDomain : Option String
  deriving DecidableEq, Repr

/-- The options of a set. -/
structure SetOptions where
  tracking : Option TrackingOptions := none
  delivery : Option DeliveryOptions := none
  reputationMetrics : Bool := false
  sendingEnabled : Bool := true
  tags : List Tag := []
  suppressedReasons : List String := []
  deriving DecidableEq, Repr

/-- Where events are sent. -/
structure EventDestination where
  name : String
  enabled : Bool
  eventTypes : List String
  topicArn : Option String
  deriving DecidableEq, Repr

/-- A configuration set. -/
structure ConfigurationSet where
  name : String
  options : SetOptions
  destinations : List EventDestination
  deriving DecidableEq, Repr

/-- The reasons for which addresses can be suppressed. -/
def suppressionReasons : List String := ["BOUNCE", "COMPLAINT"]

/-- Makes a set: its tags have to keep the policy for tags, each key once, and its reasons have to be known. -/
def ConfigurationSet.make (name : String) (options : SetOptions) : Except MailError ConfigurationSet := do
  (TagPolicy.checkUnique options.tags).mapError MailError.tags
  (TagPolicy.standard.checkReplacement (.ofTags options.tags)).mapError MailError.tags
  match options.suppressedReasons.find? fun r => !suppressionReasons.contains r with
  | some reason => throw (.suppressedReason reason)
  | none => return ⟨name, options, []⟩

/-- The only change of a set is whether reputation is measured. -/
instance : Entity ConfigurationSet SetOptions Bool Scope MailError where
  id := ConfigurationSet.name
  make name options _ := ConfigurationSet.make name options
  change s enabled _ := .ok () { s with options := { s.options with reputationMetrics := enabled } }
  missing name _ := .configurationSetMissing name
  taken name _ := .configurationSetTaken name

instance : ToTree SetOptions where
  toTree o := .record [
    ("tracking_options",
      .option (fun t => .record [("custom_redirect_domain", toTree t.redirectDomain)]) o.tracking),
    ("delivery_options",
      .option (fun d => .record [("tls_policy", toTree d.tlsPolicy),
        ("sending_pool_name", toTree d.sendingPool)]) o.delivery),
    ("reputation_options", .record [("reputation_metrics_enabled", .bool o.reputationMetrics)]),
    ("sending_enabled", .bool o.sendingEnabled), ("tags", toTree o.tags),
    ("suppressed_reasons", .strs o.suppressedReasons)]

instance : ToTree EventDestination where
  toTree d := .record [("name", .str d.name), ("enabled", .bool d.enabled),
    ("matching_event_types", .strs d.eventTypes), ("sns_topic_arn", toTree d.topicArn)]

instance : ToTree ConfigurationSet where
  toTree s := .record [("name", .str s.name), ("options", toTree s.options),
    ("event_destinations", toTree s.destinations)]

/-! ### The sets of a place -/

/-- The sets of one place. -/
structure ConfigurationSets where
  sets : Store ConfigurationSet Scope
  /-- The names of all destinations. -/
  destinationNames : List String

namespace ConfigurationSets

/-- Sizes of the pages of sets. -/
def pageLimits : PageLimits := ⟨100, 1000⟩

/-- No sets. -/
def new (scope : Scope) : ConfigurationSets :=
  ⟨.new scope, []⟩

/-- Makes a set. -/
def create (c : ConfigurationSets) (name : String) (options : SetOptions) :
    Outcome ConfigurationSets MailError Unit :=
  ((c.sets.create name options).within ({ c with sets := · })).done

/-- The set of a name. -/
def get (c : ConfigurationSets) (name : String) : Except MailError ConfigurationSet :=
  c.sets.require name

/-- Removes a set; the names of its destinations are free again. -/
def delete (c : ConfigurationSets) (name : String) : Outcome ConfigurationSets MailError Unit :=
  ((c.sets.delete name).within ({ c with sets := · })).bind fun set c =>
    let names := set.destinations.map (·.name)
    .ok () { c with destinationNames := c.destinationNames.filter fun n => !names.contains n }

/-- A page of the sets in the order of their names. -/
def list (c : ConfigurationSets) (request : PageRequest) : Except MailError (Page ConfigurationSet) :=
  (paginate c.sets.values request pageLimits .null ConfigurationSet.name).mapError .page

/-- Puts a destination into a set. -/
def addDestination (c : ConfigurationSets) (name : String) (d : EventDestination) :
    Outcome ConfigurationSets MailError Unit :=
  if !c.sets.contains name then .fail .configurationSetInvalid c
  else if c.destinationNames.contains d.name then .fail .eventDestinationTaken c
  else
    .ok () {
      sets := c.sets.modify name fun s => { s with destinations := s.destinations ++ [d] }
      destinationNames := d.name :: c.destinationNames }

/-- Sets whether the reputation of a set is measured. -/
def setReputationMetrics (c : ConfigurationSets) (name : String) (enabled : Bool) :
    Outcome ConfigurationSets MailError Unit :=
  ((c.sets.update name enabled).within ({ c with sets := · })).done

end ConfigurationSets

end MockCloud.Mail
