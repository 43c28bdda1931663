import MockCloud.Page
import MockCloud.Tag

/-! # Errors of the network -/

namespace MockCloud.Network

/-- A value that is refused. -/
inductive InvalidValue where
  | taken (kind id : String)
  | overlap (block : String)
  | ruleAction (text : String)
  | ruleNumber (n : Nat)
  | portRange (first last : Nat)
  | defaultAcl (id : String)
  | addressDomain (domain : String)
  | addressInUse (allocation interface : String)
  | addressAssociated (allocation : String)
  | filter (name : String)
  | reservedTag
  | tags (violation : TagViolation)
  deriving DecidableEq, Repr

/-- Highest rule number that callers may use. -/
def maxRuleNumber : Nat := 32766

/-- The text about a refused value. -/
def InvalidValue.message : InvalidValue → String
  | taken kind id => kind ++ " " ++ id ++ " already exists"
  | overlap block => "The CIDR '" ++ block ++ "' conflicts with another subnet"
  | ruleAction text =>
    "Invalid value '" ++ text ++ "' for ruleAction. It must be one of: allow, deny"
  | ruleNumber n =>
    "Invalid value '" ++ Text.decimal n ++ "' for ruleNumber. It must be between 1 and " ++
      Text.decimal maxRuleNumber
  | portRange first last =>
    "Invalid port range " ++ Text.decimal first ++ "-" ++ Text.decimal last
  | defaultAcl id => "cannot delete default network ACL " ++ id
  | addressDomain domain => "Invalid value '" ++ domain ++ "' for domain."
  | addressInUse allocation interface => "Address " ++ allocation ++ " is in use by " ++ interface
  | addressAssociated allocation =>
    "Elastic IP address [" ++ allocation ++ "] is already associated"
  | filter name => "The filter '" ++ name ++ "' is invalid"
  | reservedTag => "Tag keys starting with 'aws:' are reserved for internal use"
  | tags violation => violation.message

/-- How a call on the network fails. -/
inductive NetworkError where
  | vpcNotFound (id : String)
  | subnetNotFound (id : String)
  | aclNotFound (id : String)
  | associationNotFound (id : String)
  | entryAlreadyExists (ruleNumber : Nat)
  | entryNotFound (ruleNumber : Nat) (egress : Bool)
  | gatewayNotFound (id : String)
  | allocationNotFound (id : String)
  /-- Tags for an id that names no resource. -/
  | invalidId (id : String)
  /-- A resource that others depend on. -/
  | inUse (kind id : String)
  | invalidValue (v : InvalidValue)
  | invalidBlock (block : String)
  | outsideVpc (block : String)
  | tagLimit
  | invalidPageToken (e : PageError)
  deriving DecidableEq, Repr

/-- A violation of the tag policy as an error of the network. -/
def NetworkError.ofTags : TagViolation → NetworkError
  | .tooManyTags .. => .tagLimit
  | .reservedKey _ => .invalidValue .reservedTag
  | v => .invalidValue (.tags v)

/-- The text of the error. -/
def NetworkError.message : NetworkError → String
  | vpcNotFound id => "The vpc ID '" ++ id ++ "' does not exist"
  | subnetNotFound id => "The subnet ID '" ++ id ++ "' does not exist"
  | aclNotFound id => "The network acl ID '" ++ id ++ "' does not exist"
  | associationNotFound id => "The association ID '" ++ id ++ "' does not exist"
  | entryAlreadyExists n =>
    "The network acl entry identified by " ++ Text.decimal n ++ " already exists."
  | entryNotFound n egress =>
    "The specified network ACL entry " ++ Text.decimal n ++ " (egress: " ++
      (if egress then "true" else "false") ++ ") does not exist"
  | gatewayNotFound id => "NatGateway " ++ id ++ " not found"
  | allocationNotFound id => "The allocation ID '" ++ id ++ "' does not exist"
  | invalidId id => "The ID '" ++ id ++ "' is not valid"
  | inUse kind id => "The " ++ kind ++ " '" ++ id ++ "' has dependencies and cannot be deleted."
  | invalidValue v => v.message
  | invalidBlock block =>
    "Value (" ++ block ++ ") for parameter cidrBlock is invalid. This is not a valid CIDR block."
  | outsideVpc block => "The CIDR '" ++ block ++ "' is invalid."
  | tagLimit => "The maximum number of Tags for a resource has been reached."
  | invalidPageToken e => "Invalid pagination token: " ++ e.message

instance : Fault NetworkError where
  kind
    | .vpcNotFound _ | .subnetNotFound _ | .aclNotFound _ | .associationNotFound _
    | .entryNotFound .. | .gatewayNotFound _ | .allocationNotFound _ | .invalidId _ => .notFound
    | .entryAlreadyExists _ => .alreadyExists
    | .inUse .. => .rejected
    | .invalidValue _ | .invalidBlock _ | .outsideVpc _ | .invalidPageToken _ => .validationError
    | .tagLimit => .limitExceeded
  code
    | .vpcNotFound _ => "InvalidVpcID.NotFound"
    | .subnetNotFound _ => "InvalidSubnetID.NotFound"
    | .aclNotFound _ => "InvalidNetworkAclID.NotFound"
    | .associationNotFound _ => "InvalidAssociationID.NotFound"
    | .entryAlreadyExists _ => "NetworkAclEntryAlreadyExists"
    | .entryNotFound .. => "InvalidNetworkAclEntry.NotFound"
    | .gatewayNotFound _ => "NatGatewayNotFound"
    | .allocationNotFound _ => "InvalidAllocationID.NotFound"
    | .invalidId _ => "InvalidID"
    | .inUse .. => "DependencyViolation"
    | .invalidValue _ | .invalidBlock _ => "InvalidParameterValue"
    | .outsideVpc _ => "InvalidSubnet.Range"
    | .tagLimit => "TagLimitExceeded"
    | .invalidPageToken _ => "InvalidPaginationToken"
  message := NetworkError.message
  status _ := 400

end MockCloud.Network
