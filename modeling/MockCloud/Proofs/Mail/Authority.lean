import MockCloud.Proofs.Mail.Recording

/-! # Who may send

Whether a source is verified is asked at the beginning of a send, and identities may be verified and removed
between sends. A send does not change identities, so its messages are recorded while the source is still
verified: also a bulk send, which passes through one state for each of its messages.

* `Records p ms q`: messages recorded one after the other, each in a state in which its source is verified.
* `records_added`: what any operation adds is recorded so, and a single send that fails adds nothing.
* `sender_authority`: the same for every operation of a run, and for every message of its log. -/

namespace MockCloud.Mail.Post

/-- The message may be recorded: its source is verified, and it does not have too many recipients. -/
def Authorized (p : Post) (m : SentMessage) : Prop :=
  p.1.identities.isVerified m.source = true ∧ m.destination.addresses.length ≤ recipientLimit

/-- From one post to another by recording messages one after the other, each one authorized in the state in
which it is recorded; what happens besides does not touch the log. -/
inductive Records : Post → List SentMessage → Post → Prop
  | nothing {p q : Post} (same : q.1.sent = p.1.sent) : Records p [] q
  | message {p q r : Post} {m : SentMessage} {ms : List SentMessage} (authorized : p.Authorized m)
      (recorded : q.1 = p.1.record m) (others : Records q ms r) : Records p (m :: ms) r

/-- The operations that send one message. -/
def Op.single : Op → Bool
  | sendEmail .. | sendTemplated .. | sendRaw .. => true
  | _ => false

theorem Records.sent_eq {p q : Post} {ms : List SentMessage} (h : Records p ms q) :
    q.1.sent = p.1.sent ++ ms := by
  induction h with
  | nothing same => rw [same, List.append_nil]
  | @message p q r m ms authorized recorded others ih =>
    calc r.1.sent = q.1.sent ++ ms := ih
      _ = (p.1.sent ++ [m]) ++ ms := by rw [recorded]; rfl
      _ = p.1.sent ++ (m :: ms) := by rw [List.append_assoc, List.singleton_append]

theorem record_eq_accepted (p : Post) (m : SentMessage) (published : List Topic.Message) :
    (p.accepted [m] published).1 = p.1.record m := by
  simp [accepted, Office.record]

theorem Cleared.records {p : Post} {source : String} {d : Destination} (cleared : p.Cleared source d)
    (content : Content) (stamp : Stamp) :
    Records p [⟨stamp.messageId, source, d, content, stamp.time⟩] (p.sentOne source d content stamp) :=
  .message ⟨cleared.verified, cleared.few⟩ (record_eq_accepted ..) (.nothing rfl)

section

variable {source template data : String} {stamps : Nat → Stamp} {p : Post}

/-- Each destination of a bulk send that passes its checks has few recipients, as all of them together do. -/
theorem Passes.few {destinations : List BulkDestination} (passes : p.Passes source template destinations) :
    ∀ b ∈ destinations, b.destination.addresses.length ≤ recipientLimit := by
  intro b hb
  rcases checkBulk_cases destinations with many | ⟨few, -⟩
  · cases many.symm.trans passes.1
  · obtain ⟨front, back, rfl⟩ := List.append_of_mem hb
    simp only [List.flatMap_append, List.flatMap_cons, List.length_append] at few
    omega

/-- The messages of a bulk send, by induction on the destinations; the identities stay as they are. -/
theorem records_sentTo {front : List BulkDestination} (verified : p.1.identities.isVerified source = true)
    (few : ∀ b ∈ front, b.destination.addresses.length ≤ recipientLimit) (n : Nat) :
    Records p (bulkMessages source template data stamps n front)
      (p.sentTo source template data stamps n front) := by
  induction front generalizing p n with
  | nil => exact .nothing (List.append_nil _)
  | cons b rest ih =>
    obtain ⟨first, others⟩ := List.forall_mem_cons.1 few
    rw [← sentTo_cons]
    exact .message ⟨verified, first⟩ (record_eq_accepted ..) (ih (p := p.accepted _ _) verified others (n + 1))

end

theorem Effect.records {p : Post} {op : Op} {o : Outcome Post MailError Unit} (effect : Effect p op o) :
    ∃ ms, Records p ms o.state ∧ (op.single = true → ∀ e, o.result = .error e → ms = []) := by
  cases effect with
  | office op => exact ⟨[], .nothing (sent_perform p.1 op), fun _ _ _ => rfl⟩
  | topic | refused | unverified => exact ⟨[], .nothing rfl, fun _ _ _ => rfl⟩
  | emailSent cleared => exact ⟨_, cleared.records _ _, fun _ _ failed => nomatch failed⟩
  | templatedSent cleared => exact ⟨_, cleared.records _ _, fun _ _ failed => nomatch failed⟩
  | rawSent _ cleared => exact ⟨_, cleared.records _ _, fun _ _ failed => nomatch failed⟩
  | bulkSent passes => exact ⟨_, records_sentTo passes.2.1 passes.few 0, nofun⟩
  | @bulkStopped source template data destinations front stamps b passes stops =>
    obtain ⟨⟨back, split⟩, -, -⟩ := stops
    have few : ∀ x ∈ front, x.destination.addresses.length ≤ recipientLimit :=
      fun x hx => passes.few x (by rw [split]; exact List.mem_append_left _ hx)
    exact ⟨_, records_sentTo passes.2.1 few 0, nofun⟩

/-- What an operation adds to the log is authorized, message by message. -/
theorem records_added (p : Post) (op : Op) :
    Records p (p.added op) (p.step op) ∧
      (op.single = true → ∀ e, (p.perform op).result = .error e → p.added op = []) := by
  obtain ⟨ms, records, failed⟩ := (p.perform_effect op).records
  rw [added_eq records.sent_eq]
  exact ⟨records, failed⟩

/-- **Who may send.** In a run that starts with an empty office beside any topics, every operation puts the
messages that it adds behind the log; each of them is recorded in a state in which its source is verified, and
has at most fifty recipients; and a single send that fails adds none. Every message of the log was added by an
operation of the run. -/
theorem sender_authority (scope : Scope) (board : Topic.Board) (ops : List Op) :
    (∀ before op after, ops = before ++ op :: after →
      Records ((opened scope board).run before) (((opened scope board).run before).added op)
          (((opened scope board).run before).step op) ∧
        (((opened scope board).run before).step op).1.sent =
          ((opened scope board).run before).1.sent ++ ((opened scope board).run before).added op ∧
        (op.single = true → ∀ e, (((opened scope board).run before).perform op).result = .error e →
          ((opened scope board).run before).added op = [])) ∧
      ∀ m ∈ ((opened scope board).run ops).1.sent, ∃ before op after, ops = before ++ op :: after ∧
        m ∈ ((opened scope board).run before).added op := by
  refine ⟨fun before op after _ => ?_, fun m hm => mem_sent_opened_iff.1 hm⟩
  obtain ⟨records, failed⟩ := records_added ((opened scope board).run before) op
  exact ⟨records, sent_step _ _, failed⟩

/-- The post in which a domain has just been verified. -/
def verifiedPost : Post :=
  (blank { account := "123456789012", region := "us-east-1" }).run
    [.office (.identity (.verifyDomain "Example.com"))]

/-- A message from a mailbox of that domain. -/
def greeting : Op :=
  .sendRaw (some "Me <me@EXAMPLE.com>") [] "To: you@example.org\r\n\r\nHello" (plainStamps 0)

/-- The source is recorded as it was given, and is verified as its bare address is. -/
theorem sender_authority_greeting :
    verifiedPost.added greeting = [⟨"message-0", "Me <me@EXAMPLE.com>", { direct := ["you@example.org"] },
        .raw "To: you@example.org\r\n\r\nHello", ⟨0, 0⟩⟩] ∧
      ∀ m ∈ verifiedPost.added greeting, verifiedPost.Authorized m := by
  have one : verifiedPost.added greeting = [⟨"message-0", "Me <me@EXAMPLE.com>",
      { direct := ["you@example.org"] }, .raw "To: you@example.org\r\n\r\nHello", ⟨0, 0⟩⟩] := by rfl
  obtain ⟨records, -⟩ := (sender_authority { account := "123456789012", region := "us-east-1" }
    (Backend.new { account := "123456789012", region := "us-east-1" })
    [.office (.identity (.verifyDomain "Example.com")), greeting]).1 [_] _ [] rfl
  refine ⟨one, ?_⟩
  change Records verifiedPost (verifiedPost.added greeting) (verifiedPost.step greeting) at records
  rw [one] at records ⊢
  cases records with
  | message authorized => exact List.forall_mem_singleton.2 authorized

end MockCloud.Mail.Post
