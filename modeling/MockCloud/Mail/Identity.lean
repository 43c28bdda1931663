import MockCloud.Ident
import MockCloud.Json.ToTree
import MockCloud.Mail.Error

/-! # Identities

An identity is an address or a domain from which mail may be sent once it is verified. For an identity one can
set the topics that hear about its mail and the domain that its mail comes from.

* `Identities.isVerified` says who may send: a verified address, or any address of a verified domain.
* `Identities.topicFor?` finds the topic of a source: that of its address, else that of its domain. -/

namespace MockCloud.Mail

open Json (ToTree Tree toTree)

/-- What can happen to a message. -/
inductive NotificationType where
  | bounce
  | complaint
  | delivery
  deriving DecidableEq, Repr

/-- The name of an event. -/
def NotificationType.name : NotificationType → String
  | bounce => "Bounce"
  | complaint => "Complaint"
  | delivery => "Delivery"

/-- Reads the name of an event. -/
def NotificationType.ofText (text : String) : Except MailError NotificationType :=
  match text with
  | "Bounce" => .ok .bounce
  | "Complaint" => .ok .complaint
  | "Delivery" => .ok .delivery
  | _ => .error (.notificationType text)

/-- Who hears about the mail of an identity. -/
structure NotificationSettings where
  bounce : Option String := none
  complaint : Option String := none
  delivery : Option String := none
  forwarding : Bool := true
  deriving DecidableEq, Repr

namespace NotificationSettings

/-- The topic for an event. -/
def topic? (s : NotificationSettings) : NotificationType → Option String
  | .bounce => s.bounce
  | .complaint => s.complaint
  | .delivery => s.delivery

/-- The settings with another topic for an event. -/
def setTopic (s : NotificationSettings) (topic : Option String) : NotificationType → NotificationSettings
  | .bounce => { s with bounce := topic }
  | .complaint => { s with complaint := topic }
  | .delivery => { s with delivery := topic }

end NotificationSettings

instance : ToTree NotificationSettings where
  toTree s := .record [("bounce_topic", toTree s.bounce), ("complaint_topic", toTree s.complaint),
    ("delivery_topic", toTree s.delivery), ("forwarding_enabled", .bool s.forwarding),
    ("headers_in_bounce_notifications_enabled", .bool false),
    ("headers_in_complaint_notifications_enabled", .bool false),
    ("headers_in_delivery_notifications_enabled", .bool false)]

/-- The domain that the mail of an identity comes from. -/
structure MailFrom where
  domain : String
  behavior : Option String
  deriving DecidableEq, Repr

/-- The domain that mail comes from, as it is asked for; without one the usual behaviour holds. -/
structure MailFromAttributes where
  mailFrom : Option MailFrom
  deriving DecidableEq, Repr

instance : ToTree MailFromAttributes where
  toTree a := .record [("mail_from_domain", toTree (a.mailFrom.map (·.domain))),
    ("mail_from_domain_status", toTree (a.mailFrom.map fun _ => "Success")),
    ("behavior_on_mx_failure", .str ((a.mailFrom.bind (·.behavior)).getD "UseDefaultValue"))]

/-- That an identity is verified. -/
structure VerificationAttributes where
  status : String := "Success"
  token : String := "ILQMESfEW0p6i6gIJcEWvO65TP5hg6B99hGFZ2lxrIs="
  deriving DecidableEq, Repr

instance : ToTree VerificationAttributes where
  toTree a := .record [("verification_status", .str a.status), ("verification_token", .str a.token)]

/-- Whether an identity is verified, and the tokens of a domain that is. -/
structure DkimAttributes where
  verified : Bool
  tokens : Option (List String)
  deriving DecidableEq, Repr

instance : ToTree DkimAttributes where
  toTree a := .record [("dkim_enabled", .bool true),
    ("dkim_verification_status", .str (if a.verified then "Success" else "NotStarted")),
    ("dkim_tokens", toTree a.tokens)]

/-- The three tokens of a domain. -/
def drawTokens (d : Draws) : List String :=
  [0, 32, 64].map fun start => Ident.lower 32 (d.from start)

/-- The identities of one place and their settings. -/
structure Identities where
  /-- Verified addresses in the order of their verification. -/
  addresses : List String := []
  /-- Addresses that were verified in the older way. -/
  legacyAddresses : List String := []
  /-- Verified domains in lower case. -/
  domains : List String := []
  notifications : SortedMap NotificationSettings := .empty
  mailFrom : SortedMap MailFrom := .empty
  dkimTokens : SortedMap (List String) := .empty

namespace Identities

/-- The list with `x` behind it, unless it is in it. -/
def add (xs : List String) (x : String) : List String :=
  if xs.contains x then xs else xs ++ [x]

/-- Verifies the address of a mailbox. -/
def verifyAddress (i : Identities) (mailbox : String) : Identities :=
  { i with addresses := add i.addresses (bareAddress mailbox) }

/-- Verifies the address of a mailbox in the older way. -/
def verifyLegacyAddress (i : Identities) (mailbox : String) : Identities :=
  { i with legacyAddresses := add i.legacyAddresses (bareAddress mailbox) }

/-- Verifies a domain. -/
def verifyDomain (i : Identities) (domain : String) : Identities :=
  { i with domains := add i.domains (Text.lower domain) }

/-- The identities of a type, or all with the domains first. -/
def list (i : Identities) (type : Option String) : Except MailError (List String) :=
  match type with
  | none => .ok (i.domains ++ i.addresses)
  | some "Domain" => .ok i.domains
  | some "EmailAddress" => .ok i.addresses
  | some text => .error (.identityType text)

/-- Whether a text has an `@` in it, as addresses do. -/
def isAddress (identity : String) : Bool :=
  identity.toList.contains '@'

/-- Removes an identity, if it is there, and its settings. -/
def delete (i : Identities) (identity : String) : Identities :=
  let i :=
    if isAddress identity then
      { i with
        addresses := i.addresses.filter (· != identity)
        legacyAddresses := i.legacyAddresses.filter (· != identity) }
    else { i with domains := i.domains.filter (· != Text.lower identity) }
  { i with notifications := i.notifications.erase identity, mailFrom := i.mailFrom.erase identity }

/-- Whether a text is a verified domain or address. -/
def isIdentity (i : Identities) (identity : String) : Bool :=
  (i.domains ++ i.addresses).contains identity

/-- What stands behind the last `@`, or the whole text. -/
def hostOf (identity : String) : String :=
  match Text.cutLast (· = '@') identity.toList with
  | some (_, host) => String.ofList host
  | none => identity

/-- Whether mail may be sent from a mailbox: its address is verified, or its domain is. -/
def isVerified (i : Identities) (mailbox : String) : Bool :=
  let address := bareAddress mailbox
  (i.addresses ++ i.legacyAddresses).contains address ||
    i.domains.contains (Text.lower (hostOf address))

/-! ### Notifications -/

/-- The settings of an identity, the usual ones if none were made. -/
def settings (i : Identities) (identity : String) : NotificationSettings :=
  (i.notifications.get? identity).getD {}

/-- Sets or clears the topic of an identity for an event. -/
def setTopic (i : Identities) (identity : String) (type : NotificationType) (topic : Option String) :
    Identities :=
  { i with notifications := i.notifications.insert identity ((i.settings identity).setTopic topic type) }

/-- Sets whether events are forwarded to the identity. -/
def setForwarding (i : Identities) (identity : String) (forwarding : Bool) : Identities :=
  { i with notifications := i.notifications.insert identity { i.settings identity with forwarding } }

/-- The settings of each of these identities. -/
def notificationAttributes (i : Identities) (identities : List String) : SortedMap NotificationSettings :=
  .ofList (identities.map fun x => (x, i.settings x))

/-- The topic of an identity for an event. -/
def topic? (i : Identities) (identity : String) (type : NotificationType) : Option String :=
  (i.notifications.get? identity).bind fun s => s.topic? type

/-- The topic that hears about an event of mail from a source: the topic of its address, else the topic of
its domain. -/
def topicFor? (i : Identities) (source : String) (type : NotificationType) : Option String :=
  let address := bareAddress source
  match i.topic? address type with
  | some topic => some topic
  | none => (domain? address).bind fun domain => i.topic? domain type

/-! ### The domain that mail comes from -/

/-- Sets or clears the domain that the mail of a verified identity comes from. The domain has to end as that of
the identity does. -/
def setMailFrom (i : Identities) (identity : String) (domain behavior : Option String) :
    Outcome Identities MailError Unit :=
  if !i.isVerified identity then .fail (.identityMissing identity) i
  else
    match domain with
    | none => .ok () { i with mailFrom := i.mailFrom.erase identity }
    | some domain =>
      if !Text.endsWith domain (hostOf identity) then .fail (.mailFromOutside domain (hostOf identity)) i
      else
        let put : Outcome Identities MailError Unit :=
          .ok () { i with mailFrom := i.mailFrom.insert identity ⟨domain, behavior⟩ }
        match behavior with
        | none => put
        | some text =>
          if text = "RejectMessage" ∨ text = "UseDefaultValue" then put else .fail (.mxBehavior text) i

/-- The domain that mail comes from, for each of these texts that is an identity. -/
def mailFromAttributes (i : Identities) (identities : List String) : SortedMap MailFromAttributes :=
  .ofList ((identities.filter i.isIdentity).map fun x => (x, ⟨i.mailFrom.get? x⟩))

/-- That it is verified, for each of these texts that is an identity. -/
def verificationAttributes (i : Identities) (identities : List String) :
    SortedMap VerificationAttributes :=
  .ofList ((identities.filter i.isIdentity).map fun x => (x, {}))

/-! ### Tokens -/

/-- One more identity for which tokens are asked; a verified domain without tokens draws some. -/
def addDkim (fresh : String → Draws) (s : SortedMap DkimAttributes × Identities) (identity : String) :
    SortedMap DkimAttributes × Identities :=
  let (done, i) := s
  let verified := i.isIdentity identity
  if verified && !isAddress identity then
    let tokens := (i.dkimTokens.get? identity).getD (drawTokens (fresh identity))
    (done.insert identity ⟨true, some tokens⟩,
      { i with dkimTokens := i.dkimTokens.insert identity tokens })
  else (done.insert identity ⟨verified, none⟩, i)

/-- The tokens of these identities; a domain keeps its tokens once it has them. -/
def dkimAttributes (i : Identities) (fresh : String → Draws) (identities : List String) :
    SortedMap DkimAttributes × Identities :=
  identities.foldl (addDkim fresh) (.empty, i)

end Identities

end MockCloud.Mail
