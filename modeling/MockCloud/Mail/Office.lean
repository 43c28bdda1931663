import MockCloud.Mail.ConfigurationSet
import MockCloud.Mail.Message
import MockCloud.Mail.Receipt
import MockCloud.Mail.Template
import MockCloud.Topic.Basic

/-! # The mail office of a place

An office keeps the identities, templates, configuration sets and receipt rules of one place, the messages
that were sent, and counts of what was sent and refused.

* `Office.quota` and `Office.statistics` report the counts.
* `createTemplate` and its companions keep the templates. -/

namespace MockCloud.Mail

open Json (ToTree Tree toTree)

/-- The mail of one place. -/
structure Office where
  scope : Scope
  identities : Identities
  /-- All messages, the oldest first. -/
  sent : List SentMessage
  /-- The number of recipients of all messages. -/
  sentCount : Nat
  /-- The number of sends refused because their source was not verified. -/
  rejectedCount : Nat
  configurationSets : ConfigurationSets
  templates : Store Template Scope
  ruleSets : RuleSets

instance : Backend Office where
  service := "ses"
  isGlobal := false
  new scope := ⟨scope, {}, [], 0, 0, .new scope, .new scope, {}⟩
  scope := Office.scope

/-- What may be sent, and what was. -/
structure SendQuota where
  perDay : Nat
  perSecond : Nat
  sentToday : Nat
  deriving DecidableEq, Repr

/-- Counts of sends at a moment. -/
structure SendStatistics where
  attempts : Nat
  rejects : Nat
  time : Instant
  deriving DecidableEq, Repr

namespace Office

/-- What may be sent, and what was. -/
def quota (o : Office) : SendQuota :=
  ⟨200, 1, o.sentCount⟩

/-- The counts of sends. -/
def statistics (o : Office) (time : Instant) : SendStatistics :=
  ⟨o.sentCount, o.rejectedCount, time⟩

/-! ### Templates -/

/-- Makes a template, which needs a name. -/
def createTemplate (o : Office) (p : TemplateParts) (time : Instant) : Outcome Office MailError Unit :=
  .guard p.checkName o fun _ =>
    ((o.templates.create p.name (p, time)).within ({ o with templates := · })).done

/-- Replaces the parts of the template of their name. -/
def updateTemplate (o : Office) (p : TemplateParts) : Outcome Office MailError Unit :=
  .guard p.checkName o fun _ =>
    ((o.templates.update p.name p).within ({ o with templates := · })).done

/-- The template of a name. -/
def getTemplate (o : Office) (name : String) : Except MailError Template :=
  o.templates.require name

/-- The templates in the order of their names. -/
def listTemplates (o : Office) : List Template :=
  o.templates.values

/-- Removes a template. -/
def deleteTemplate (o : Office) (name : String) : Outcome Office MailError Unit :=
  ((o.templates.delete name).within ({ o with templates := · })).done

/-- The message that a template gives for some data. -/
def renderTemplate (o : Office) (name data stem : String) (time : Instant) : Except MailError String :=
  match o.getTemplate name with
  | .error e => .error e
  | .ok t => t.render data stem time

/-- Refuses the name of a template that is not there. -/
def requireTemplate (o : Office) (name : String) : Except MailError Unit :=
  if o.templates.contains name then .ok () else .error (.templateMissing name)

end Office

instance : ToTree SendQuota where
  toTree q := .record [("max_24_hour_send", .nat q.perDay), ("max_send_rate", .nat q.perSecond),
    ("sent_last_24_hours", .nat q.sentToday)]

/-- Neither complaints nor bounces are counted. -/
instance [ToTree Instant] : ToTree SendStatistics where
  toTree s := .record [("delivery_attempts", .nat s.attempts), ("rejects", .nat s.rejects),
    ("complaints", .nat 0), ("bounces", .nat 0), ("timestamp", toTree s.time)]

end MockCloud.Mail
