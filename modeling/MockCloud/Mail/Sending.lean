import MockCloud.Mail.Header
import MockCloud.Mail.Office

/-! # Sending

A send goes through an office and the topics of the same place. Its checks run in a fixed order: the number
of recipients, the source, the addresses, the template. A message that passes is accepted: the notice about
it is published, if its recipients decide an event and the source has a topic for it, and then the message
is recorded. What cannot be told is not sent.

* `sendEmail`, `sendTemplated` and `sendRaw` send one message.
* `sendBulk` sends one message for each destination; one that fails ends the call and leaves those before
  it sent. -/

namespace MockCloud.Mail

/-- The most recipients of one call. -/
def recipientLimit : Nat := 50

/-- Refuses the first address that cannot be used. -/
def checkAddresses : List String → Except MailError Unit
  | [] => .ok ()
  | address :: rest =>
    match problem? address with
    | some problem => .error (.address problem)
    | none => checkAddresses rest

/-- Refuses more recipients than one call may have. -/
def checkCount (addresses : List String) : Except MailError Unit :=
  if recipientLimit < addresses.length then .error .tooManyRecipients else .ok ()

/-- An office and the topics that hear about its mail. -/
abbrev Post := Office × Topic.Board

namespace Office

/-- The office after a send from a source that is not verified. -/
def countRejected (o : Office) : Office :=
  { o with rejectedCount := o.rejectedCount + 1 }

/-- The topic that hears about a message, and the event. -/
def noticeTopic? (o : Office) (source : String) (d : Destination) : Option (NotificationType × String) :=
  d.event?.bind fun type => (o.identities.topicFor? source type).map fun topic => (type, topic)

/-- Publishes the notice about a message, if there is one. -/
def publishNotice (o : Office) (board : Topic.Board) (source : String) (d : Destination) (stamp : Stamp) :
    Outcome Topic.Board MailError Unit :=
  match o.noticeTopic? source d with
  | none => .ok () board
  | some (type, topic) =>
    ((board.publish topic none (notice o.scope type source d stamp) stamp.noticeId stamp.time).mapError
      MailError.topic).done

/-- The office with a message recorded. -/
def record (o : Office) (m : SentMessage) : Office :=
  { o with sent := o.sent ++ [m], sentCount := o.sentCount + m.destination.addresses.length }

end Office

namespace Post

/-- Publishes the notice about a message and records the message. -/
def accept (p : Post) (source : String) (d : Destination) (content : Content) (stamp : Stamp) :
    Outcome Post MailError String :=
  ((p.1.publishNotice p.2 source d stamp).within fun board => (p.1, board)).bind fun _ p =>
    .ok stamp.messageId (p.1.record ⟨stamp.messageId, source, d, content, stamp.time⟩, p.2)

/-- Goes on only from a verified source; any other is counted. -/
def fromVerified {α : Type} (p : Post) (source : String) (next : Outcome Post MailError α) :
    Outcome Post MailError α :=
  if p.1.identities.isVerified source then next else .fail (.notVerified source) (p.1.countRejected, p.2)

/-- Sends a message. -/
def sendEmail (p : Post) (source : String) (d : Destination) (subject : String) (text html : Option String)
    (stamp : Stamp) : Outcome Post MailError String :=
  .guard (checkCount d.addresses) p fun _ =>
    p.fromVerified source <| .guard (checkAddresses (source :: d.addresses)) p fun _ =>
      p.accept source d (.simple subject text html) stamp

/-- Sends a message of a template. -/
def sendTemplated (p : Post) (source : String) (d : Destination) (template data : String) (stamp : Stamp) :
    Outcome Post MailError String :=
  .guard (checkCount d.addresses) p fun _ =>
    p.fromVerified source <| .guard (checkAddresses (source :: d.addresses)) p fun _ =>
      .guard (p.1.requireTemplate template) p fun _ => p.accept source d (.templated template data) stamp

/-- A destination of a bulk send, perhaps with data of its own. -/
structure BulkDestination where
  destination : Destination
  data : Option String
  deriving DecidableEq, Repr

/-- Accepts one message for each destination, with the stamps from the `n`-th on. -/
def acceptAll (p : Post) (source template data : String) (stamps : Nat → Stamp) (n : Nat) :
    List BulkDestination → Outcome Post MailError (List String)
  | [] => .ok [] p
  | b :: rest =>
    (p.accept source b.destination (.templated template (b.data.getD data)) (stamps n)).bind fun id p =>
      (p.acceptAll source template data stamps (n + 1) rest).map (id :: ·)

/-- Refuses more destinations than one call may have, or more recipients in all of them. -/
def checkBulk (destinations : List BulkDestination) : Except MailError Unit :=
  if recipientLimit < destinations.length ∨
      recipientLimit < (destinations.flatMap fun b => b.destination.addresses).length then
    .error .tooManyDestinations
  else .ok ()

/-- Sends one message of a template for each destination. The addresses are not checked. -/
def sendBulk (p : Post) (source template data : String) (destinations : List BulkDestination)
    (stamps : Nat → Stamp) : Outcome Post MailError (List String) :=
  .guard (checkBulk destinations) p fun _ =>
    p.fromVerified source <| .guard (p.1.requireTemplate template) p fun _ =>
      p.acceptAll source template data stamps 0 destinations

/-- The sender of a raw message: the source, which has to be verified, or else the sender that the headers
name, if that one is. -/
def rawSender (o : Office) (source sender : Option String) : Except MailError String :=
  match source with
  | some source =>
    if o.identities.isVerified (bareAddress source) then .ok source
    else .error (.noAuthority (bareAddress source))
  | none =>
    match sender with
    | none => .error .sourceNotSpecified
    | some sender => if o.identities.isVerified sender then .ok sender else .error (.noAuthority sender)

/-- Sends a raw message to the recipients given and to those that its headers name. -/
def sendRaw (p : Post) (source : Option String) (recipients : List String) (raw : String) (stamp : Stamp) :
    Outcome Post MailError String :=
  let headers := parseHeaders raw
  .guard (rawSender p.1 source headers.sender) p fun source =>
    let recipients := recipients ++ headers.recipients
    .guard (checkCount recipients) p fun _ =>
      .guard (checkAddresses (source :: recipients)) p fun _ =>
        p.accept source { direct := recipients } (.raw raw) stamp

end Post

end MockCloud.Mail
