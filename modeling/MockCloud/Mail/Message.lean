import MockCloud.Ident
import MockCloud.Instant
import MockCloud.Json.ToTree
import MockCloud.Mail.Address
import MockCloud.Mail.Identity

/-! # Messages

A message goes from a source to the recipients of a destination. Mail to some recipients is answered by a
notice: an address with `success`, `complaint` or `bounce` in it stands for a recipient to whom just that
happens.

* `Destination.event?` is the event that the recipients of a message decide.
* `notice` is the text that tells a topic about the event. -/

namespace MockCloud.Mail

open Json (ToTree Tree Value toTree)

/-- Who a message is for. -/
structure Destination where
  /-- To whom it is addressed. -/
  direct : List String := []
  cc : List String := []
  bcc : List String := []
  deriving DecidableEq, Repr

/-- All recipients in order. -/
def Destination.addresses (d : Destination) : List String :=
  d.direct ++ d.cc ++ d.bcc

/-- What a message says. -/
inductive Content where
  | simple (subject : String) (text html : Option String)
  | templated (template data : String)
  | raw (data : String)
  deriving DecidableEq, Repr

/-- A message that was sent. -/
structure SentMessage where
  id : String
  source : String
  destination : Destination
  content : Content
  sent : Instant
  deriving DecidableEq, Repr

/-- What a sender draws for a message, and when. -/
structure Stamp where
  messageId : String
  /-- The id of the notice about the message, if there is one. -/
  noticeId : String
  time : Instant
  deriving DecidableEq, Repr

/-! ### Notices -/

/-- The event that a recipient decides. -/
def eventOf? (address : String) : Option NotificationType :=
  if Text.contains address "success" then some .delivery
  else if Text.contains address "complaint" then some .complaint
  else if Text.contains address "bounce" then some .bounce
  else none

/-- The event that the first recipient decides of those that decide one. -/
def Destination.event? (d : Destination) : Option NotificationType :=
  d.addresses.findSome? eventOf?

/-- The name of an event in lower case, under which a notice tells the details. -/
def NotificationType.detailName : NotificationType → String
  | bounce => "bounce"
  | complaint => "complaint"
  | delivery => "delivery"

/-- The details of an event. -/
def eventDetail (type : NotificationType) (recipients : List String) (time : String) : Value :=
  let each := Value.list (recipients.map fun r => .ofFields [("emailAddress", .text r)])
  match type with
  | .bounce => .ofFields [("bounceType", .text "Permanent"), ("bounceSubType", .text "General"),
      ("bouncedRecipients", each), ("timestamp", .text time)]
  | .complaint => .ofFields [("complainedRecipients", each), ("complaintFeedbackType", .text "abuse"),
      ("timestamp", .text time)]
  | .delivery => .ofFields [("recipients", .texts recipients), ("processingTimeMillis", .number (.int 0)),
      ("smtpResponse", .text "250 2.6.0 Message received"), ("timestamp", .text time)]

/-- The notice about an event of a message. -/
def noticeValue (scope : Scope) (type : NotificationType) (source : String) (d : Destination)
    (stamp : Stamp) : Value :=
  let time := stamp.time.iso8601
  .ofFields [
    ("notificationType", .text type.name),
    ("mail", .ofFields [
      ("timestamp", .text time),
      ("source", .text source),
      ("sourceArn", .text (scope.arn "ses" ("identity/" ++ bareAddress source))),
      ("sendingAccountId", .text scope.account),
      ("messageId", .text stamp.messageId),
      ("destination", .texts d.addresses)]),
    (type.detailName, eventDetail type d.addresses time)]

/-- The text of the notice about an event of a message. -/
def notice (scope : Scope) (type : NotificationType) (source : String) (d : Destination)
    (stamp : Stamp) : String :=
  (noticeValue scope type source d stamp).render

/-! ### How messages are shown -/

instance : ToTree Destination where
  toTree d := .record [("to_addresses", .strs d.direct), ("cc_addresses", .strs d.cc),
    ("bcc_addresses", .strs d.bcc)]

instance : ToTree Content where
  toTree
    | .simple subject text html => .record [("Simple", .record [("subject", .str subject),
        ("body", .record [("text", toTree text), ("html", toTree html)])])]
    | .templated template data => .record [("Templated", .record [("template", .str template),
        ("template_data", .str data)])]
    | .raw data => .record [("Raw", .record [("data", .str data)])]

instance [ToTree Instant] : ToTree SentMessage where
  toTree m := .record [("message_id", .str m.id), ("source", .str m.source),
    ("destination", toTree m.destination), ("content", toTree m.content), ("sent_at", toTree m.sent)]

end MockCloud.Mail
