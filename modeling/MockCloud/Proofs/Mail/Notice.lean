import MockCloud.Proofs.Json.Value
import MockCloud.Proofs.Mail.Authority

/-! # Notices about messages

A message that is sent on its own is told about at most once: if its recipients decide an event and somebody
hears about that event of mail from its source, one message is published to the topic that hears about it.
What is published is a JSON text, and a reader of the text finds the event, the message and who it went to.

* `Decides`, `Identities.Hears`: the event of a message, and the topic that hears about an event.
* `Says`: what a reader finds in the text of a notice.
* `Single`, `Post.send`: a send of one message. It is refused, or it accepts the message (`send_cases`).
* `notice_of_send`: what a send publishes, whatever stands in the office and among the topics. -/

namespace MockCloud.Mail

open Json (Value)

/-! ### Events and topics -/

/-- The first recipient that names an event names this one. -/
def Decides (recipients : List String) (type : NotificationType) : Prop :=
  ∃ front address back, recipients = front ++ address :: back ∧ (∀ a ∈ front, eventOf? a = none) ∧
    eventOf? address = some type

theorem Destination.event?_eq_some_iff {d : Destination} {type : NotificationType} :
    d.event? = some type ↔ Decides d.addresses type := by
  unfold Destination.event? Decides
  rw [List.findSome?_eq_some_iff]
  simp only [and_comm, and_left_comm]

/-- The domain of a mailbox is what stands behind the last `@` of its address, in lower case. -/
theorem domain?_eq_some_iff {mailbox domain : String} :
    domain? mailbox = some domain ↔
      ∃ front host, (bareAddress mailbox).toList = front ++ '@' :: host ∧ '@' ∉ host ∧
        Text.lower (String.ofList host) = domain := by
  unfold domain? bareAddress Text.lower
  simp only [String.toList_ofList, Option.map_eq_some_iff, Prod.exists]
  constructor
  · rintro ⟨front, host, cut, rfl⟩
    obtain ⟨c, at', split, behind⟩ := Text.eq_append_of_cutLast cut
    obtain rfl := of_decide_eq_true at'
    exact ⟨front, host, split, fun inside => absurd rfl (of_decide_eq_false (behind '@' inside)), rfl⟩
  · rintro ⟨front, host, split, outside, rfl⟩
    have cut := Text.cutLast_append (p := (· = '@')) (a := front) (b := host) (c := '@')
      (Text.forall_ne_of_not_mem outside) (decide_eq_true rfl)
    exact ⟨front, host, split ▸ cut, rfl⟩

/-- The topic hears about an event of mail from a source: it is the topic of the source's address or, if that
has none, the topic of its domain, which is what stands behind the last `@` in lower case. -/
def Identities.Hears (i : Identities) (source : String) (type : NotificationType) (topic : String) : Prop :=
  i.topic? (bareAddress source) type = some topic ∨
    i.topic? (bareAddress source) type = none ∧
      ∃ front host, (bareAddress source).toList = front ++ '@' :: host ∧ '@' ∉ host ∧
        i.topic? (Text.lower (String.ofList host)) type = some topic

theorem Identities.topicFor?_eq_some_iff {i : Identities} {source : String} {type : NotificationType}
    {topic : String} : i.topicFor? source type = some topic ↔ i.Hears source type topic := by
  unfold topicFor? Hears
  dsimp only
  cases own : i.topic? (bareAddress source) type with
  | some topic' => simp
  | none =>
    simp only [Option.bind_eq_some_iff, domain?_eq_some_iff, bareAddress_bareAddress, reduceCtorEq, true_and,
      false_or]
    constructor
    · rintro ⟨domain, ⟨front, host, split, outside, rfl⟩, heard⟩
      exact ⟨front, host, split, outside, heard⟩
    · rintro ⟨front, host, split, outside, heard⟩
      exact ⟨_, ⟨front, host, split, outside, rfl⟩, heard⟩

/-- A message is told about to the topic that hears about its event. -/
theorem Office.noticeTopic?_eq_some_iff {o : Office} {source : String} {d : Destination}
    {type : NotificationType} {topic : String} :
    o.noticeTopic? source d = some (type, topic) ↔
      Decides d.addresses type ∧ o.identities.Hears source type topic := by
  rw [← Destination.event?_eq_some_iff, ← Identities.topicFor?_eq_some_iff, noticeTopic?]
  simp only [Option.bind_eq_some_iff, Option.map_eq_some_iff, Prod.mk.injEq]
  constructor
  · rintro ⟨type', event, topic', heard, rfl, rfl⟩
    exact ⟨event, heard⟩
  · rintro ⟨event, heard⟩
    exact ⟨type, event, topic, heard, rfl, rfl⟩

/-! ### The text of a notice -/

theorem plain_zero : (Json.Number.int 0).Plain where
  clean := Json.Numeral.clean_ofNat 0
  read := rfl

theorem plain_eventDetail (type : NotificationType) (recipients : List String) (time : String) (depth : Nat) :
    (eventDetail type recipients time).Plain (depth + 3) := by
  have each : Value.Plain (depth + 2) (.list (recipients.map fun r => .ofFields [("emailAddress", .text r)])) := by
    refine .list fun v hv => ?_
    obtain ⟨r, -, rfl⟩ := List.mem_map.1 hv
    exact .ofFields (List.forall_mem_singleton.2 (.text r))
  cases type with
  | bounce =>
    refine .ofFields ?_
    simp only [List.forall_mem_cons]
    exact ⟨.text _, .text _, each, .text _, by simp⟩
  | complaint =>
    refine .ofFields ?_
    simp only [List.forall_mem_cons]
    exact ⟨each, .text _, .text _, by simp⟩
  | delivery =>
    refine .ofFields ?_
    simp only [List.forall_mem_cons]
    exact ⟨.texts _, .number plain_zero, .text _, .text _, by simp⟩

theorem plain_noticeValue (scope : Scope) (type : NotificationType) (source : String) (d : Destination)
    (stamp : Stamp) : (noticeValue scope type source d stamp).Plain Json.depthLimit := by
  refine .ofFields ?_
  simp only [List.forall_mem_cons]
  refine ⟨.text _, .ofFields ?_, plain_eventDetail type d.addresses stamp.time.iso8601 _, by simp⟩
  simp only [List.forall_mem_cons]
  exact ⟨.text _, .text _, .text _, .text _, .text _, .texts _, by simp⟩

/-- The text of a notice reads back. -/
theorem parse?_notice (scope : Scope) (type : NotificationType) (source : String) (d : Destination)
    (stamp : Stamp) : Value.parse? (notice scope type source d stamp) = some (noticeValue scope type source d stamp) :=
  Value.parse?_render (plain_noticeValue scope type source d stamp)

/-- What the text of a notice says: it is JSON, and a reader finds in it the event, the id and the source of the
message, and all recipients in order. -/
def Says (text : String) (type : NotificationType) (id source : String) (recipients : List String) : Prop :=
  ∃ v mail, Value.parse? text = some v ∧ v.field? "notificationType" = some (.text type.name) ∧
    v.field? "mail" = some mail ∧ mail.field? "messageId" = some (.text id) ∧
    mail.field? "source" = some (.text source) ∧
    mail.field? "destination" = some (.list (recipients.map .text))

theorem says_notice (scope : Scope) (type : NotificationType) (source : String) (d : Destination)
    (stamp : Stamp) :
    Says (notice scope type source d stamp) type stamp.messageId source d.addresses := by
  refine ⟨_, .ofFields [
      ("timestamp", .text stamp.time.iso8601),
      ("source", .text source),
      ("sourceArn", .text (scope.arn "ses" ("identity/" ++ bareAddress source))),
      ("sendingAccountId", .text scope.account),
      ("messageId", .text stamp.messageId),
      ("destination", .texts d.addresses)], parse?_notice scope type source d stamp, ?_, ?_, ?_, ?_, ?_⟩
  · rw [noticeValue, Value.field?_ofFields]
    cases type <;> rfl
  · rw [noticeValue, Value.field?_ofFields]
    cases type <;> rfl
  · rw [Value.field?_ofFields]; rfl
  · rw [Value.field?_ofFields]; rfl
  · rw [Value.field?_ofFields]; rfl

/-! ### Sends of one message -/

/-- A call that sends one message, with all its arguments. -/
inductive Single where
  | email (source : String) (d : Destination) (subject : String) (text html : Option String)
  | templated (source : String) (d : Destination) (template data : String)
  | raw (source : Option String) (recipients : List String) (text : String)
  deriving DecidableEq, Repr

namespace Single

/-- The source of the message: the one given or, for a raw message without one, the one that the headers
name. -/
def source? : Single → Option String
  | email source .. | templated source .. => some source
  | raw source _ text => source.or (parseHeaders text).sender

/-- Who the message is for: a raw message goes to the recipients given and then to those that the headers
name. -/
def destination : Single → Destination
  | email _ d .. | templated _ d .. => d
  | raw _ recipients text => { direct := recipients ++ (parseHeaders text).recipients }

/-- What the message says. -/
def content : Single → Content
  | email _ _ subject text html => .simple subject text html
  | templated _ _ template data => .templated template data
  | raw _ _ text => .raw text

end Single

namespace Post

/-- Sends one message. -/
def send (p : Post) (stamp : Stamp) : Single → Outcome Post MailError String
  | .email source d subject text html => p.sendEmail source d subject text html stamp
  | .templated source d template data => p.sendTemplated source d template data stamp
  | .raw source recipients text => p.sendRaw source recipients text stamp

/-- The sender of a raw message is the source, or the sender that the headers name. -/
theorem or_eq_of_rawSender {o : Office} {source sender : Option String} {s : String}
    (allowed : rawSender o source sender = .ok s) : source.or sender = some s := by
  unfold rawSender at allowed
  cases source with
  | some source =>
    dsimp only at allowed
    split at allowed <;> cases allowed
    rfl
  | none =>
    cases sender with
    | none => cases allowed
    | some sender =>
      dsimp only at allowed
      split at allowed <;> cases allowed
      rfl

/-- **A send is refused, or it accepts its message.** -/
theorem send_cases (p : Post) (stamp : Stamp) (m : Single) :
    p.Refuses (p.send stamp m) ∨
      ∃ source, m.source? = some source ∧ p.send stamp m = p.accept source m.destination m.content stamp := by
  cases m with
  | email source d subject text html =>
    rcases p.sendEmail_cases source d subject text html stamp with refuses | ⟨-, h⟩
    · exact .inl refuses
    · exact .inr ⟨source, rfl, h⟩
  | templated source d template data =>
    rcases p.sendTemplated_cases source d template data stamp with refuses | ⟨-, -, h⟩
    · exact .inl refuses
    · exact .inr ⟨source, rfl, h⟩
  | raw source recipients text =>
    rcases p.sendRaw_cases source recipients text stamp with refuses | ⟨sender, d, rfl, allowed, -, h⟩
    · exact .inl refuses
    · exact .inr ⟨sender, or_eq_of_rawSender allowed, h⟩

/-- A send that is refused fails, and nothing has happened to the topics. -/
theorem Refuses.exists_fail {p : Post} {o : Outcome Post MailError String} (refuses : p.Refuses o) :
    ∃ e q, o = .fail e q ∧ q.2 = p.2 := by
  cases refuses with
  | early e _ => exact ⟨e, p, rfl, rfl⟩
  | unverified _ => exact ⟨_, _, rfl, rfl⟩

/-! ### What a send publishes -/

/-- What has been published about a message when it has been recorded: one message to the topic that hears
about its event, which says what the event is and whose it is, or nothing if no topic hears about it. -/
structure Told (p q : Post) (m : SentMessage) : Prop where
  heard : ∀ type topic, Decides m.destination.addresses type → p.1.identities.Hears m.source type topic →
    ∃ published, q.2 = { p.2 with published := p.2.published ++ [published] } ∧ published.topicArn = topic ∧
      Says published.text type m.id m.source m.destination.addresses
  unheard : (¬∃ type topic, Decides m.destination.addresses type ∧ p.1.identities.Hears m.source type topic) →
    q.2 = p.2

theorem told_sentOne (p : Post) (source : String) (d : Destination) (content : Content) (stamp : Stamp) :
    Told p (p.sentOne source d content stamp) ⟨stamp.messageId, source, d, content, stamp.time⟩ where
  heard type topic decided heard := by
    have noticed := Office.noticeTopic?_eq_some_iff.2 ⟨decided, heard⟩
    refine ⟨⟨stamp.noticeId, topic, none, notice p.1.scope type source d stamp, stamp.time⟩, ?_, rfl,
      says_notice ..⟩
    rw [sentOne, accepted, notices, noticed]
  unheard none := by
    have unnoticed : p.1.noticeTopic? source d = Option.none := by
      rw [Option.eq_none_iff_forall_ne_some]
      rintro ⟨type, topic⟩ noticed
      exact none ⟨type, topic, Office.noticeTopic?_eq_some_iff.1 noticed⟩
    rw [sentOne, accepted, notices, unnoticed, List.append_nil]

/-- **What a send publishes.** A send that gives an id back has recorded one message with that id, and if the
first recipient that names an event names one about which a topic hears, then one message has been published
to that topic, with the event, the id, the source and all recipients in its text; otherwise nothing has been
published. Nothing has been published by a send that fails. -/
theorem notice_of_send (p : Post) (m : Single) (stamp : Stamp) :
    (∀ id, (p.send stamp m).result = .ok id →
      ∃ recorded, (p.send stamp m).state.1 = p.1.record recorded ∧ recorded.id = id ∧
        m.source? = some recorded.source ∧ recorded.destination = m.destination ∧
        Told p (p.send stamp m).state recorded) ∧
      ∀ e, (p.send stamp m).result = .error e → (p.send stamp m).state.2 = p.2 := by
  rcases p.send_cases stamp m with refuses | ⟨source, given, h⟩
  · obtain ⟨e, q, h, same⟩ := refuses.exists_fail
    rw [h]
    exact ⟨fun id done => (nomatch done), fun _ _ => same⟩
  rw [h]
  rcases accept_cases p source m.destination m.content stamp with ⟨-, h'⟩ | ⟨-, h'⟩
  · rw [h']
    exact ⟨fun id done => (nomatch done), fun _ _ => rfl⟩
  · rw [h']
    refine ⟨fun id done => ?_, fun e failed => (nomatch failed)⟩
    cases done
    exact ⟨_, record_eq_accepted .., rfl, given, rfl, told_sentOne p source m.destination m.content stamp⟩

/-- The post in which a domain has been verified and its bounces go to a topic. -/
def postWithTopic : Post :=
  (blank { account := "123456789012", region := "us-east-1" }).run
    [.office (.identity (.verifyDomain "example.com")), .topic (.create "bounces" {}),
     .office (.identity (.setTopic "example.com" .bounce "arn:aws:sns:us-east-1:123456789012:bounces"))]

/-- A message from that domain to two recipients, of which the second one bounces. -/
def bounced : Single :=
  .email "Me <me@Example.com>" { direct := ["you@example.org"], bcc := ["bounce@example.org"] } "Hello" none none

theorem notice_of_send_bounced :
    (postWithTopic.send (plainStamps 0) bounced).result = .ok "message-0" ∧
      ∃ published, (postWithTopic.send (plainStamps 0) bounced).state.2 =
          { postWithTopic.2 with published := [published] } ∧
        published.topicArn = "arn:aws:sns:us-east-1:123456789012:bounces" ∧
        Says published.text .bounce "message-0" "Me <me@Example.com>" ["you@example.org", "bounce@example.org"] := by
  have done : (postWithTopic.send (plainStamps 0) bounced).result = .ok "message-0" := by rfl
  obtain ⟨⟨_, _, _, content, sent⟩, -, rfl, ⟨⟩, rfl, told⟩ :=
    (notice_of_send postWithTopic bounced (plainStamps 0)).1 "message-0" done
  have decided : Decides bounced.destination.addresses .bounce :=
    ⟨["you@example.org"], "bounce@example.org", [], rfl, by decide +kernel, by decide +kernel⟩
  have heard : postWithTopic.1.identities.Hears "Me <me@Example.com>" .bounce
      "arn:aws:sns:us-east-1:123456789012:bounces" :=
    .inr ⟨by decide +kernel, "me".toList, "Example.com".toList, by decide +kernel, by decide +kernel,
      by decide +kernel⟩
  exact ⟨done, told.heard _ _ decided heard⟩

end Post

end MockCloud.Mail
