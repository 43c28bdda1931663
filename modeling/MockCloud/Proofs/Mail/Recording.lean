import MockCloud.Proofs.Mail.Bulk
import MockCloud.Proofs.Mail.Mailbox

/-! # What the calls record

A message comes into the log of an office through a send. A single send records its message after all its
checks, or nothing; a bulk send records one message after the other. All other operations leave the log alone.

* `Refuses p o`, `checked_cases`: the checks of a send refuse it, or it goes on to its message.
* `Effect p op o`: the rules by which an operation comes to its outcome, one rule for each way to end.
* `perform_effect`: every operation obeys a rule. What a send may record is proved by cases on the rules.
* `added p op`: the messages that an operation puts behind those already sent.
* `mem_sent_run_iff`: the log of a run holds what its operations have added. -/

namespace MockCloud.Mail

/-! ### The checks of a send -/

theorem checkCount_cases (addresses : List String) :
    (recipientLimit < addresses.length ∧ checkCount addresses = .error .tooManyRecipients) ∨
      addresses.length ≤ recipientLimit ∧ checkCount addresses = .ok () := by
  unfold checkCount
  split
  · next many => exact .inl ⟨many, rfl⟩
  · next few => exact .inr ⟨Nat.le_of_not_lt few, rfl⟩

theorem checkAddresses_cases (addresses : List String) :
    (∃ a ∈ addresses, ∃ problem, problem? a = some problem ∧
        checkAddresses addresses = .error (.address problem)) ∨
      (∀ a ∈ addresses, problem? a = none) ∧ checkAddresses addresses = .ok () := by
  induction addresses with
  | nil => exact .inr ⟨by simp, rfl⟩
  | cons a rest ih =>
    rw [checkAddresses]
    cases h : problem? a with
    | some problem => exact .inl ⟨a, by simp, problem, h, rfl⟩
    | none =>
      rcases ih with ⟨b, hb, problem, hp, h'⟩ | ⟨clean, h'⟩
      · exact .inl ⟨b, List.mem_cons_of_mem _ hb, problem, hp, h'⟩
      · exact .inr ⟨List.forall_mem_cons.2 ⟨h, clean⟩, h'⟩

namespace Post

theorem checkBulk_cases (destinations : List BulkDestination) :
    checkBulk destinations = .error .tooManyDestinations ∨
      (destinations.flatMap fun b => b.destination.addresses).length ≤ recipientLimit ∧
        checkBulk destinations = .ok () := by
  unfold checkBulk
  split
  · exact .inl rfl
  · next few =>
    rw [not_or, Nat.not_lt, Nat.not_lt] at few
    exact .inr ⟨few.2, rfl⟩

/-- The sender of a raw message is verified. For a source it is the bare address that is looked at, and the
source itself that is recorded. -/
theorem rawSender_cases (o : Office) (source sender : Option String) :
    (∃ e, (∀ x, e ≠ .notVerified x) ∧ rawSender o source sender = .error e) ∨
      ∃ s, o.identities.isVerified s = true ∧ rawSender o source sender = .ok s := by
  unfold rawSender
  cases source with
  | some source =>
    dsimp only
    rw [isVerified_bareAddress]
    split
    · next verified => exact .inr ⟨source, verified, rfl⟩
    · exact .inl ⟨_, by simp, rfl⟩
  | none =>
    cases sender with
    | none => exact .inl ⟨_, by simp, rfl⟩
    | some sender =>
      dsimp only
      split
      · next verified => exact .inr ⟨sender, verified, rfl⟩
      · exact .inl ⟨_, by simp, rfl⟩

/-! ### The rules -/

/-- A message passes the checks of a single send, and its notice is not stuck. -/
structure Cleared (p : Post) (source : String) (d : Destination) : Prop where
  few : d.addresses.length ≤ recipientLimit
  verified : p.1.identities.isVerified source = true
  wellFormed : ∀ a ∈ source :: d.addresses, problem? a = none
  free : ¬p.Stuck source d

/-- A send is refused before anything has happened, or because its source is not verified, which is counted. -/
inductive Refuses (p : Post) {α : Type} : Outcome Post MailError α → Prop
  | early (e : MailError) (other : ∀ source, e ≠ .notVerified source) : Refuses p (.fail e p)
  | unverified {source : String} (no : p.1.identities.isVerified source = false) :
      Refuses p (.fail (.notVerified source) (p.1.countRejected, p.2))

theorem Refuses.map {p : Post} {α β : Type} {o : Outcome Post MailError α} (refuses : p.Refuses o) (f : α → β) :
    p.Refuses (o.map f) := by
  cases refuses with
  | early e other => exact .early e other
  | unverified no => exact .unverified no

/-- The post after one message. -/
def sentOne (p : Post) (source : String) (d : Destination) (content : Content) (stamp : Stamp) : Post :=
  p.accepted [⟨stamp.messageId, source, d, content, stamp.time⟩] (notices p.1 source d stamp)

/-- The rules by which an operation on `p` comes to its outcome. -/
inductive Effect (p : Post) : Op → Outcome Post MailError Unit → Prop
  | office (op : Office.Op) : Effect p (.office op) ((p.1.perform op).within fun office => (office, p.2))
  | topic (op : Topic.Board.Op) :
      Effect p (.topic op) (((p.2.perform op).mapError MailError.topic).within fun board => (p.1, board))
  | refused {op : Op} (e : MailError) (other : ∀ source, e ≠ .notVerified source) : Effect p op (.fail e p)
  | unverified {op : Op} {source : String} (no : p.1.identities.isVerified source = false) :
      Effect p op (.fail (.notVerified source) (p.1.countRejected, p.2))
  | emailSent {source : String} {d : Destination} {subject : String} {text html : Option String}
      {stamp : Stamp} (cleared : p.Cleared source d) :
      Effect p (.sendEmail source d subject text html stamp)
        (.ok () (p.sentOne source d (.simple subject text html) stamp))
  | templatedSent {source : String} {d : Destination} {template data : String} {stamp : Stamp}
      (cleared : p.Cleared source d) (known : p.1.templates.contains template = true) :
      Effect p (.sendTemplated source d template data stamp)
        (.ok () (p.sentOne source d (.templated template data) stamp))
  | rawSent {source : Option String} {recipients : List String} {raw : String} {stamp : Stamp}
      {sender : String} (allowed : rawSender p.1 source (parseHeaders raw).sender = .ok sender)
      (cleared : p.Cleared sender { direct := recipients ++ (parseHeaders raw).recipients }) :
      Effect p (.sendRaw source recipients raw stamp)
        (.ok () (p.sentOne sender { direct := recipients ++ (parseHeaders raw).recipients } (.raw raw) stamp))
  | bulkSent {source template data : String} {destinations : List BulkDestination} {stamps : Nat → Stamp}
      (passes : p.Passes source template destinations)
      (free : ∀ x ∈ destinations, ¬p.Stuck source x.destination) :
      Effect p (.sendBulk source template data destinations stamps)
        (.ok () (p.sentTo source template data stamps 0 destinations))
  | bulkStopped {source template data : String} {destinations front : List BulkDestination}
      {stamps : Nat → Stamp} {b : BulkDestination} (passes : p.Passes source template destinations)
      (stops : p.StopsAt source destinations front b) :
      Effect p (.sendBulk source template data destinations stamps)
        (.fail (.topic .notFound) (p.sentTo source template data stamps 0 front))

/-! ### Every operation obeys a rule -/

section

variable (p : Post)

/-- The end of every single send: the message is accepted, or its notice is stuck. -/
theorem accept_done_cases (source : String) (d : Destination) (content : Content) (stamp : Stamp) :
    (p.accept source d content stamp).done = .fail (.topic .notFound) p ∨
      ¬p.Stuck source d ∧
        (p.accept source d content stamp).done = .ok () (p.sentOne source d content stamp) := by
  rcases accept_cases p source d content stamp with ⟨-, h⟩ | ⟨free, h⟩
  · exact .inl (by rw [h]; rfl)
  · exact .inr ⟨free, by rw [h]; rfl⟩

theorem Refuses.effect {α : Type} {op : Op} {o : Outcome Post MailError α} (refuses : p.Refuses o) :
    Effect p op o.done := by
  cases refuses with
  | early e other => exact .refused e other
  | unverified no => exact .unverified no

/-- The checks that begin a send of one message with a given source, whatever comes next. -/
theorem checked_cases {α : Type} (source : String) (d : Destination) (next : Outcome Post MailError α) :
    p.Refuses (.guard (checkCount d.addresses) p fun _ =>
        p.fromVerified source <| .guard (checkAddresses (source :: d.addresses)) p fun _ => next) ∨
      (¬p.Stuck source d → p.Cleared source d) ∧
        (.guard (checkCount d.addresses) p fun _ =>
          p.fromVerified source <| .guard (checkAddresses (source :: d.addresses)) p fun _ => next) = next := by
  unfold fromVerified
  rcases checkCount_cases d.addresses with ⟨-, h⟩ | ⟨few, h⟩
  · rw [h]; exact .inl (.early _ (by simp))
  rw [h, Outcome.guard_ok]
  cases verified : p.1.identities.isVerified source with
  | false => exact .inl (.unverified verified)
  | true =>
    rw [if_pos rfl]
    rcases checkAddresses_cases (source :: d.addresses) with ⟨a, -, problem, -, h⟩ | ⟨clean, h⟩
    · rw [h]; exact .inl (.early _ (by simp))
    · rw [h]; exact .inr ⟨fun free => ⟨few, verified, clean, free⟩, rfl⟩

theorem sendEmail_cases (source : String) (d : Destination) (subject : String) (text html : Option String)
    (stamp : Stamp) :
    p.Refuses (p.sendEmail source d subject text html stamp) ∨
      (¬p.Stuck source d → p.Cleared source d) ∧
        p.sendEmail source d subject text html stamp = p.accept source d (.simple subject text html) stamp :=
  p.checked_cases source d _

theorem sendTemplated_cases (source : String) (d : Destination) (template data : String) (stamp : Stamp) :
    p.Refuses (p.sendTemplated source d template data stamp) ∨
      p.1.templates.contains template = true ∧ (¬p.Stuck source d → p.Cleared source d) ∧
        p.sendTemplated source d template data stamp = p.accept source d (.templated template data) stamp := by
  unfold sendTemplated Office.requireTemplate
  cases known : p.1.templates.contains template with
  | false =>
    rcases p.checked_cases source d (.fail (.templateMissing template) p) with refuses | ⟨-, h⟩
    · exact .inl refuses
    · exact .inl (h ▸ .early _ (by simp))
  | true =>
    rcases p.checked_cases source d (p.accept source d (.templated template data) stamp) with refuses | ⟨cleared, h⟩
    · exact .inl refuses
    · exact .inr ⟨rfl, cleared, h⟩

theorem sendRaw_cases (source : Option String) (recipients : List String) (raw : String) (stamp : Stamp) :
    p.Refuses (p.sendRaw source recipients raw stamp) ∨
      ∃ sender d, d = { direct := recipients ++ (parseHeaders raw).recipients } ∧
        rawSender p.1 source (parseHeaders raw).sender = .ok sender ∧
        (¬p.Stuck sender d → p.Cleared sender d) ∧
        p.sendRaw source recipients raw stamp = p.accept sender d (.raw raw) stamp := by
  unfold sendRaw
  dsimp only
  rcases rawSender_cases p.1 source (parseHeaders raw).sender with ⟨e, other, h⟩ | ⟨sender, verified, allowed⟩
  · rw [h]; exact .inl (.early e other)
  rw [allowed, Outcome.guard_ok]
  rcases checkCount_cases (recipients ++ (parseHeaders raw).recipients) with ⟨-, h⟩ | ⟨few, h⟩
  · rw [h]; exact .inl (.early _ (by simp))
  rw [h, Outcome.guard_ok]
  rcases checkAddresses_cases (sender :: (recipients ++ (parseHeaders raw).recipients)) with
    ⟨a, -, problem, -, h⟩ | ⟨clean, h⟩
  · rw [h]; exact .inl (.early _ (by simp))
  rw [h, Outcome.guard_ok]
  have all : Destination.addresses { direct := recipients ++ (parseHeaders raw).recipients } =
      recipients ++ (parseHeaders raw).recipients := by
    simp [Destination.addresses]
  refine .inr ⟨sender, _, rfl, rfl, fun free => ⟨?_, verified, ?_, free⟩, rfl⟩
  · rw [all]; exact few
  · rw [all]; exact clean

/-- The checks of a bulk send refuse it, or it goes on to its messages. -/
theorem sendBulk_checked_cases (source template data : String) (destinations : List BulkDestination)
    (stamps : Nat → Stamp) :
    p.Refuses (p.sendBulk source template data destinations stamps) ∨
      p.Passes source template destinations ∧
        p.sendBulk source template data destinations stamps =
          p.acceptAll source template data stamps 0 destinations := by
  unfold sendBulk fromVerified
  rcases checkBulk_cases destinations with h | ⟨-, counted⟩
  · rw [h]; exact .inl (.early _ (by simp))
  rw [counted, Outcome.guard_ok]
  cases verified : p.1.identities.isVerified source with
  | false => exact .inl (.unverified verified)
  | true =>
    rw [if_pos rfl]
    unfold Office.requireTemplate
    cases known : p.1.templates.contains template with
    | false => exact .inl (.early _ (by simp))
    | true => exact .inr ⟨⟨counted, verified, known⟩, rfl⟩

theorem sendEmail_effect (source : String) (d : Destination) (subject : String) (text html : Option String)
    (stamp : Stamp) : Effect p (.sendEmail source d subject text html stamp)
      (p.sendEmail source d subject text html stamp).done := by
  rcases p.sendEmail_cases source d subject text html stamp with refuses | ⟨cleared, h⟩
  · exact refuses.effect
  rw [h]
  rcases accept_done_cases p source d (.simple subject text html) stamp with h | ⟨free, h⟩
  · rw [h]; exact .refused _ (by simp)
  · rw [h]; exact .emailSent (cleared free)

theorem sendTemplated_effect (source : String) (d : Destination) (template data : String) (stamp : Stamp) :
    Effect p (.sendTemplated source d template data stamp)
      (p.sendTemplated source d template data stamp).done := by
  rcases p.sendTemplated_cases source d template data stamp with refuses | ⟨known, cleared, h⟩
  · exact refuses.effect
  rw [h]
  rcases accept_done_cases p source d (.templated template data) stamp with h | ⟨free, h⟩
  · rw [h]; exact .refused _ (by simp)
  · rw [h]; exact .templatedSent (cleared free) known

theorem sendRaw_effect (source : Option String) (recipients : List String) (raw : String) (stamp : Stamp) :
    Effect p (.sendRaw source recipients raw stamp) (p.sendRaw source recipients raw stamp).done := by
  rcases p.sendRaw_cases source recipients raw stamp with refuses | ⟨sender, d, rfl, allowed, cleared, h⟩
  · exact refuses.effect
  rw [h]
  rcases accept_done_cases p sender { direct := recipients ++ (parseHeaders raw).recipients } (.raw raw)
    stamp with h | ⟨free, h⟩
  · rw [h]; exact .refused _ (by simp)
  · rw [h]; exact .rawSent allowed (cleared free)

theorem sendBulk_effect (source template data : String) (destinations : List BulkDestination)
    (stamps : Nat → Stamp) : Effect p (.sendBulk source template data destinations stamps)
      (p.sendBulk source template data destinations stamps).done := by
  rcases p.sendBulk_checked_cases source template data destinations stamps with refuses | ⟨passes, h⟩
  · exact refuses.effect
  rw [h]
  rcases acceptAll_cases source template data stamps p 0 destinations with ⟨free, h⟩ | ⟨front, b, stops, h⟩
  · rw [h]; exact .bulkSent passes free
  · rw [h]; exact .bulkStopped passes stops

/-- **Every operation obeys a rule.** -/
theorem perform_effect (op : Op) : Effect p op (p.perform op) := by
  cases op with
  | office op => exact .office op
  | topic op => exact .topic op
  | sendEmail source d subject text html stamp => exact p.sendEmail_effect source d subject text html stamp
  | sendTemplated source d template data stamp => exact p.sendTemplated_effect source d template data stamp
  | sendBulk source template data destinations stamps =>
    exact p.sendBulk_effect source template data destinations stamps
  | sendRaw source recipients raw stamp => exact p.sendRaw_effect source recipients raw stamp

end

/-! ### The log of a run -/

/-- What is done to identities, configuration sets, rules and templates leaves the log alone. -/
theorem sent_perform (o : Office) (op : Office.Op) : (o.perform op).state.sent = o.sent := by
  obtain ⟨_, _, _, _, h⟩ := o.exists_state_perform op
  rw [h]

/-- The log only grows, and at its end. -/
theorem Effect.exists_sent_eq {p : Post} {op : Op} {o : Outcome Post MailError Unit} (effect : Effect p op o) :
    ∃ ms, o.state.1.sent = p.1.sent ++ ms := by
  cases effect with
  | office op => exact ⟨[], (sent_perform p.1 op).trans (List.append_nil _).symm⟩
  | topic op => exact ⟨[], (List.append_nil _).symm⟩
  | refused => exact ⟨[], (List.append_nil _).symm⟩
  | unverified => exact ⟨[], (List.append_nil _).symm⟩
  | emailSent | templatedSent | rawSent | bulkSent | bulkStopped => exact ⟨_, rfl⟩

/-- The messages that an operation puts behind those already sent. -/
def added (p : Post) (op : Op) : List SentMessage :=
  (p.step op).1.sent.drop p.1.sent.length

theorem added_eq {p : Post} {op : Op} {ms : List SentMessage} (h : (p.step op).1.sent = p.1.sent ++ ms) :
    p.added op = ms := by
  rw [added, h, List.drop_left]

theorem sent_step (p : Post) (op : Op) : (p.step op).1.sent = p.1.sent ++ p.added op := by
  obtain ⟨ms, h⟩ := (p.perform_effect op).exists_sent_eq
  rw [added_eq h]
  exact h

/-- **The log of a run** holds what was sent before, and what the operations of the run have added. -/
theorem mem_sent_run_iff {p : Post} {ops : List Op} {m : SentMessage} :
    m ∈ (p.run ops).1.sent ↔ m ∈ p.1.sent ∨
      ∃ before op after, ops = before ++ op :: after ∧ m ∈ (p.run before).added op := by
  induction ops generalizing p with
  | nil => simp [run]
  | cons op ops ih =>
    rw [show p.run (op :: ops) = (p.step op).run ops from rfl, ih, sent_step, List.mem_append, or_assoc]
    constructor
    · rintro (old | now | ⟨before, op', after, rfl, later⟩)
      · exact .inl old
      · exact .inr ⟨[], op, ops, rfl, now⟩
      · exact .inr ⟨op :: before, op', after, rfl, later⟩
    · rintro (old | ⟨before, op', after, split, here⟩)
      · exact .inl old
      · cases before with
        | nil =>
          cases split
          exact .inr (.inl here)
        | cons first before =>
          cases split
          exact .inr (.inr ⟨before, op', after, rfl, here⟩)

/-- An office in which nothing has been made, beside any topics. -/
def opened (scope : Scope) (board : Topic.Board) : Post :=
  (Backend.new scope, board)

theorem mem_sent_opened_iff {scope : Scope} {board : Topic.Board} {ops : List Op} {m : SentMessage} :
    m ∈ ((opened scope board).run ops).1.sent ↔
      ∃ before op after, ops = before ++ op :: after ∧ m ∈ ((opened scope board).run before).added op := by
  rw [mem_sent_run_iff]
  exact or_iff_right List.not_mem_nil

end Post

end MockCloud.Mail
