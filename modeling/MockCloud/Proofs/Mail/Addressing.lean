import MockCloud.Proofs.Mail.Recording

/-! # Addresses that cannot be used

A single send refuses a message whose source or one of whose recipients cannot be used as an address. A bulk
send asks only whether its source is verified, and any text can be verified as an address; so it records
messages that the other sends refuse.

* `LetsIn p op m`: the operation is a bulk send that gets as far as such a message.
* `letsIn_iff`: no other operation adds a message with an address that cannot be used.
* `sent_wellFormed_iff`: all messages of the log have usable addresses unless a bulk send lets one in. -/

namespace MockCloud.Mail

/-- The source and all recipients can be used as addresses. -/
def SentMessage.WellFormed (m : SentMessage) : Prop :=
  ∀ a ∈ m.source :: m.destination.addresses, problem? a = none

instance : DecidablePred SentMessage.WellFormed := fun m =>
  inferInstanceAs (Decidable (∀ a ∈ m.source :: m.destination.addresses, problem? a = none))

namespace Post

/-- The operation is a bulk send that passes its checks and gets as far as this message, in which some address
cannot be used. -/
def LetsIn (p : Post) (op : Op) (m : SentMessage) : Prop :=
  ∃ source template data destinations stamps front,
    op = .sendBulk source template data destinations stamps ∧ p.Passes source template destinations ∧
      front <+: destinations ∧ (∀ x ∈ front, ¬p.Stuck source x.destination) ∧
      m ∈ bulkMessages source template data stamps 0 front ∧ ¬m.WellFormed

section

variable {source template data : String} {stamps : Nat → Stamp} {p : Post} {op : Op} {m : SentMessage}

theorem bulkMessages_front {front destinations : List BulkDestination} (h : front <+: destinations) (n : Nat) :
    bulkMessages source template data stamps n front <+:
      bulkMessages source template data stamps n destinations := by
  obtain ⟨back, rfl⟩ := h
  unfold bulkMessages
  rw [List.zipIdx_append, List.map_append]
  exact List.prefix_append _ _

/-- Destinations that are not stuck stand before the first stuck one. -/
theorem StopsAt.prefix_of_free {destinations front front' : List BulkDestination} {b : BulkDestination}
    (stops : p.StopsAt source destinations front b) (h : front' <+: destinations)
    (free : ∀ x ∈ front', ¬p.Stuck source x.destination) : front' <+: front := by
  obtain ⟨⟨back, rfl⟩, -, stuck⟩ := stops
  have before : front ++ [b] <+: front ++ b :: back := ⟨back, by simp⟩
  rcases Nat.lt_or_ge front.length front'.length with longer | shorter
  · -- the front that is longer has the stuck one in it
    have holds : front ++ [b] <+: front' := by
      refine List.prefix_of_prefix_length_le before h ?_
      rw [List.length_append, List.length_singleton]
      exact longer
    exact absurd stuck (free b (holds.subset (by simp)))
  · exact List.prefix_of_prefix_length_le h (List.prefix_append front (b :: back)) shorter

/-- What a bulk send that passes its checks adds: the messages to destinations that are not stuck, from the
first one on. -/
theorem exists_added_sendBulk (data : String) (stamps : Nat → Stamp) {destinations : List BulkDestination}
    (passes : p.Passes source template destinations) :
    ∃ reached, p.added (.sendBulk source template data destinations stamps) =
        bulkMessages source template data stamps 0 reached ∧
      ∀ front, front <+: destinations → (∀ x ∈ front, ¬p.Stuck source x.destination) → front <+: reached := by
  rcases sendBulk_cases source template data stamps p destinations with ⟨refused, -⟩ | ⟨-, h⟩
  · exact absurd passes refused
  rcases acceptAll_cases source template data stamps p 0 destinations with ⟨free, h'⟩ | ⟨front, b, stops, h'⟩
  · have sent : p.step (.sendBulk source template data destinations stamps) =
        p.sentTo source template data stamps 0 destinations := by
      rw [step, perform, h, h']
      rfl
    exact ⟨destinations, added_eq (by rw [sent]; rfl), fun front h _ => h⟩
  · have sent : p.step (.sendBulk source template data destinations stamps) =
        p.sentTo source template data stamps 0 front := by
      rw [step, perform, h, h']
      rfl
    exact ⟨front, added_eq (by rw [sent]; rfl), fun front' h free => stops.prefix_of_free h free⟩

theorem LetsIn.mem_added (h : p.LetsIn op m) : m ∈ p.added op := by
  obtain ⟨source, template, data, destinations, stamps, front, rfl, passes, start, free, here, -⟩ := h
  obtain ⟨reached, added, most⟩ := exists_added_sendBulk data stamps passes
  rw [added]
  exact (bulkMessages_front (most front start free) 0).subset here

theorem Cleared.wellFormed_message {d : Destination} (cleared : p.Cleared source d) (content : Content)
    (stamp : Stamp) : SentMessage.WellFormed ⟨stamp.messageId, source, d, content, stamp.time⟩ :=
  cleared.wellFormed

/-- The rules tell which operations add messages that are not well formed. -/
theorem Effect.letsIn {o : Outcome Post MailError Unit} {ms : List SentMessage} (effect : Effect p op o)
    (sent : o.state.1.sent = p.1.sent ++ ms) (hm : m ∈ ms) (bad : ¬m.WellFormed) : p.LetsIn op m := by
  -- an operation that adds nothing
  have silent (same : o.state.1.sent = p.1.sent) : p.LetsIn op m := by
    have none : ms = [] := List.append_right_eq_self.1 (sent.symm.trans same)
    rw [none] at hm
    exact absurd hm List.not_mem_nil
  -- an operation that adds one message, which has been checked
  have one {source : String} {d : Destination} {content : Content} {stamp : Stamp}
      (cleared : p.Cleared source d) (same : o.state = p.sentOne source d content stamp) : p.LetsIn op m := by
    rw [same] at sent
    have only := List.append_cancel_left sent
    rw [← only, List.mem_singleton] at hm
    exact absurd (hm ▸ cleared.wellFormed_message content stamp) bad
  cases effect with
  | office op => exact silent (sent_perform p.1 op)
  | topic | refused | unverified => exact silent rfl
  | emailSent cleared => exact one cleared rfl
  | templatedSent cleared => exact one cleared rfl
  | rawSent _ cleared => exact one cleared rfl
  | @bulkSent source template data destinations stamps passes free =>
    have only := List.append_cancel_left sent
    exact ⟨source, template, data, destinations, stamps, destinations, rfl, passes, List.prefix_rfl, free,
      only ▸ hm, bad⟩
  | @bulkStopped source template data destinations front stamps b passes stops =>
    have only := List.append_cancel_left sent
    obtain ⟨⟨back, split⟩, free, -⟩ := stops
    exact ⟨source, template, data, destinations, stamps, front, rfl, passes, ⟨b :: back, split.symm⟩, free,
      only ▸ hm, bad⟩

/-- Exactly the bulk sends add messages that are not well formed. -/
theorem letsIn_iff : p.LetsIn op m ↔ m ∈ p.added op ∧ ¬m.WellFormed := by
  constructor
  · intro h
    obtain ⟨_, _, _, _, _, _, -, -, -, -, -, bad⟩ := id h
    exact ⟨h.mem_added, bad⟩
  · rintro ⟨hm, bad⟩
    exact (p.perform_effect op).letsIn (sent_step p op) hm bad

end

theorem mem_sent_and_not_wellFormed_iff {scope : Scope} {board : Topic.Board} {ops : List Op}
    {m : SentMessage} : m ∈ ((opened scope board).run ops).1.sent ∧ ¬m.WellFormed ↔
      ∃ before op after, ops = before ++ op :: after ∧ ((opened scope board).run before).LetsIn op m := by
  rw [mem_sent_opened_iff]
  constructor
  · rintro ⟨⟨before, op, after, split, hm⟩, bad⟩
    exact ⟨before, op, after, split, letsIn_iff.2 ⟨hm, bad⟩⟩
  · rintro ⟨before, op, after, split, h⟩
    obtain ⟨hm, bad⟩ := letsIn_iff.1 h
    exact ⟨⟨before, op, after, split, hm⟩, bad⟩

/-- **Usable addresses.** After a run that starts with an empty office beside any topics, the source and the
recipients of every message of the log can be used as addresses exactly if no bulk send of the run lets in a
message of which this is not so. The messages that are let in are the only ones. -/
theorem sent_wellFormed_iff (scope : Scope) (board : Topic.Board) (ops : List Op) :
    ((∀ m ∈ ((opened scope board).run ops).1.sent, m.WellFormed) ↔
        ∀ before op after m, ops = before ++ op :: after → ¬((opened scope board).run before).LetsIn op m) ∧
      ∀ m, m ∈ ((opened scope board).run ops).1.sent ∧ ¬m.WellFormed ↔
        ∃ before op after, ops = before ++ op :: after ∧ ((opened scope board).run before).LetsIn op m := by
  refine ⟨⟨?_, ?_⟩, fun m => mem_sent_and_not_wellFormed_iff⟩
  · intro all before op after m split h
    obtain ⟨hm, bad⟩ := mem_sent_and_not_wellFormed_iff.2 ⟨before, op, after, split, h⟩
    exact bad (all m hm)
  · intro none m hm
    by_contra bad
    obtain ⟨before, op, after, split, h⟩ := mem_sent_and_not_wellFormed_iff.1 ⟨hm, bad⟩
    exact none before op after m split h

/-- A verified domain and a template. -/
def withTemplate : List Op :=
  [.office (.identity (.verifyDomain "example.com")),
   .office (.createTemplate { name := "hello", subject := "Hello" } ⟨0, 0⟩)]

/-- A bulk send of the template from a mailbox of the domain. -/
def bulkTo (destinations : List BulkDestination) : Op :=
  .sendBulk "me@example.com" "hello" "\x7b\x7d" destinations plainStamps

/-- A bulk send to a proper address lets nothing in. -/
theorem sent_wellFormed_quiet :
    (∀ m ∈ ((blank { account := "123456789012", region := "us-east-1" }).run
        (withTemplate ++ [bulkTo [quiet]])).1.sent, m.WellFormed) ∧
      ∀ m, ¬((blank { account := "123456789012", region := "us-east-1" }).run withTemplate).LetsIn
        (bulkTo [quiet]) m := by
  have proper : ∀ m ∈ ((blank { account := "123456789012", region := "us-east-1" }).run
      (withTemplate ++ [bulkTo [quiet]])).1.sent, m.WellFormed := by
    decide
  exact ⟨proper, fun m => (sent_wellFormed_iff _ _ _).1.1 proper _ _ [] m rfl⟩

/-- The text `nobody` is no address, yet the message to it is sent. -/
theorem sent_wellFormed_nobody :
    ¬∀ (scope : Scope) (board : Topic.Board) (ops : List Op),
      ∀ m ∈ ((opened scope board).run ops).1.sent, m.WellFormed := by
  intro all
  have bad : ¬∀ m ∈ ((blank { account := "123456789012", region := "us-east-1" }).run
      (withTemplate ++ [bulkTo [⟨{ direct := ["nobody"] }, none⟩]])).1.sent, m.WellFormed := by
    decide
  exact bad (all _ (Backend.new { account := "123456789012", region := "us-east-1" }) _)

end Post

end MockCloud.Mail
