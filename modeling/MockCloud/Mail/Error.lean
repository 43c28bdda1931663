import MockCloud.Mail.Address
import MockCloud.Topic.Basic

/-! # Errors of mail -/

namespace MockCloud.Mail

/-- How a call on mail fails. -/
inductive MailError where
  | tooManyRecipients
  /-- A bulk send counts destinations, not addresses. -/
  | tooManyDestinations
  | notVerified (source : String)
  | noAuthority (sender : String)
  | sourceNotSpecified
  /-- A send names a template that is not there. -/
  | templateMissing (name : String)
  /-- A call on templates names one that is not there. -/
  | templateNotFound
  | templateTaken
  | templateUnnamed
  | subjectMissing
  | renderingData
  | attributeMissing (path : String)
  | address (problem : AddressProblem)
  | identityMissing (identity : String)
  | mailFromOutside (mailFrom domain : String)
  | mxBehavior (text : String)
  | identityType (text : String)
  | notificationType (text : String)
  | tags (violation : TagViolation)
  | suppressedReason (reason : String)
  | configurationSetTaken (name : String)
  | configurationSetMissing (name : String)
  /-- A new event destination names a set that is not there. -/
  | configurationSetInvalid
  | eventDestinationTaken
  | ruleSetTaken (name : String)
  | ruleTaken (name : String)
  | ruleSetMissing (name : String)
  | ruleMissing (name : String)
  | page (e : PageError)
  /-- A notice about a message could not be published. -/
  | topic (e : Topic.TopicError)
  deriving DecidableEq, Repr

/-- The text about a value outside of a set of values. -/
def outsideOf (value field values : String) : String :=
  "Value '" ++ value ++ "' at '" ++ field ++ "' failed to satisfy constraint: Member must satisfy " ++
    "enum value set: [" ++ values ++ "]"

/-- The text of the error. -/
def MailError.message : MailError → String
  | tooManyRecipients => "Too many recipients."
  | tooManyDestinations => "Too many destinations."
  | notVerified source => "Email address not verified " ++ source
  | noAuthority sender => "Did not have authority to send from email " ++ sender
  | sourceNotSpecified => "Source not specified"
  | templateMissing name => "Template (" ++ name ++ ") does not exist"
  | templateNotFound => "Invalid Template Name."
  | templateTaken => "Duplicate Template Name."
  | templateUnnamed =>
    "1 validation error detected: Value null at 'template.templateName' failed to satisfy " ++
      "constraint: Member must not be null"
  | subjectMissing => "The subject must be specified."
  | renderingData => "Template rendering data is invalid"
  | attributeMissing path => "Attribute '" ++ path ++ "' is not present in the rendering data."
  | address problem => problem.message
  | identityMissing identity => "Identity '" ++ identity ++ "' does not exist."
  | mailFromOutside mailFrom domain =>
    "Provided MAIL-FROM domain '" ++ mailFrom ++ "' is not subdomain of the domain of the identity '" ++
      domain ++ "'."
  | mxBehavior text =>
    "1 validation error detected: " ++
      outsideOf text "behaviorOnMXFailure" "RejectMessage, UseDefaultValue"
  | identityType text => outsideOf text "identityType" "Domain, EmailAddress"
  | notificationType text => outsideOf text "notificationType" "Bounce, Complaint, Delivery"
  | tags violation => violation.message
  | suppressedReason reason =>
    outsideOf reason "suppressionOptions.suppressedReasons" "BOUNCE, COMPLAINT"
  | configurationSetTaken name => "Configuration set <" ++ name ++ "> already exists"
  | configurationSetMissing name => "Configuration set <" ++ name ++ "> does not exist"
  | configurationSetInvalid => "Invalid Configuration Set Name."
  | eventDestinationTaken => "Duplicate Event destination Name."
  | ruleSetTaken name => "Rule set already exists: " ++ name
  | ruleTaken name => "Rule already exists: " ++ name
  | ruleSetMissing name => "Rule set does not exist: " ++ name
  | ruleMissing name => "Rule does not exist: " ++ name
  | page e => e.message
  | topic e => e.message

instance : Fault MailError where
  kind
    | .tooManyRecipients | .tooManyDestinations => .limitExceeded
    | .notVerified _ | .noAuthority _ | .sourceNotSpecified | .templateMissing _ => .rejected
    | .templateNotFound | .configurationSetMissing _ | .configurationSetInvalid | .ruleSetMissing _
    | .ruleMissing _ => .notFound
    | .templateTaken | .configurationSetTaken _ | .eventDestinationTaken | .ruleSetTaken _
    | .ruleTaken _ => .alreadyExists
    | .page e => Fault.kind e
    | .topic e => Fault.kind e
    | _ => .validationError
  code
    | .tooManyRecipients | .tooManyDestinations | .notVerified _ | .noAuthority _
    | .sourceNotSpecified => "MessageRejected"
    | .templateMissing _ | .templateNotFound => "TemplateDoesNotExist"
    | .templateTaken | .ruleSetTaken _ | .ruleTaken _ => "AlreadyExists"
    | .renderingData | .attributeMissing _ => "InvalidRenderingParameterException"
    | .subjectMissing | .address _ | .identityMissing _ | .mailFromOutside .. =>
      "InvalidParameterValue"
    | .templateUnnamed | .mxBehavior _ | .identityType _ | .notificationType _ | .tags _
    | .suppressedReason _ => "ValidationError"
    | .configurationSetTaken _ => "ConfigurationSetAlreadyExists"
    | .configurationSetMissing _ | .configurationSetInvalid => "ConfigurationSetDoesNotExist"
    | .eventDestinationTaken => "EventDestinationAlreadyExists"
    | .ruleSetMissing _ => "RuleSetDoesNotExist"
    | .ruleMissing _ => "RuleDoesNotExist"
    | .page e => Fault.code e
    | .topic e => Fault.code e
  message := MailError.message
  status
    | .topic e => Fault.status e
    | _ => 400

end MockCloud.Mail
