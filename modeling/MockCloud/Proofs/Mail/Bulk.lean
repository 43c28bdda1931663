import MockCloud.Proofs.Mail.Operation

/-! # Bulk sends

A bulk send accepts one message after the other, and a message whose notice goes to a topic that is gone
ends it there. The messages before that one stay sent.

* `acceptAll_cases`: either no message is stuck and all are accepted, or all before the first stuck one.
* `sendBulk_cases`: the ways in which a bulk send ends.
* `failed_bulk_iff`: what fails leaves all but the count of rejections as it was, unless the first stuck
  message has others before it. -/

namespace MockCloud.Mail.Post

/-- The messages of a bulk send, with the stamps from the `n`-th on. -/
def bulkMessages (source template data : String) (stamps : Nat → Stamp) (n : Nat)
    (destinations : List BulkDestination) : List SentMessage :=
  (destinations.zipIdx n).map fun (b, i) =>
    ⟨(stamps i).messageId, source, b.destination, .templated template (b.data.getD data), (stamps i).time⟩

/-- The notices about the messages of a bulk send, with the stamps from the `n`-th on. -/
def bulkNotices (o : Office) (source : String) (stamps : Nat → Stamp) (n : Nat)
    (destinations : List BulkDestination) : List Topic.Message :=
  (destinations.zipIdx n).flatMap fun (b, i) => notices o source b.destination (stamps i)

section

variable (source template data : String) (stamps : Nat → Stamp)

/-- The post after the messages to these destinations. -/
def sentTo (p : Post) (n : Nat) (destinations : List BulkDestination) : Post :=
  p.accepted (bulkMessages source template data stamps n destinations)
    (bulkNotices p.1 source stamps n destinations)

/-- The first stuck destination and those before it. -/
def StopsAt (p : Post) (destinations front : List BulkDestination) (b : BulkDestination) : Prop :=
  (∃ back, destinations = front ++ b :: back) ∧ (∀ x ∈ front, ¬p.Stuck source x.destination) ∧
    p.Stuck source b.destination

theorem length_bulkMessages (n : Nat) (destinations : List BulkDestination) :
    (bulkMessages source template data stamps n destinations).length = destinations.length := by
  rw [bulkMessages, List.length_map, List.length_zipIdx]

theorem sentTo_cons (p : Post) (n : Nat) (b : BulkDestination) (rest : List BulkDestination) :
    (p.accepted [⟨(stamps n).messageId, source, b.destination, .templated template (b.data.getD data),
        (stamps n).time⟩] (notices p.1 source b.destination (stamps n))).sentTo source template data stamps
          (n + 1) rest =
      p.sentTo source template data stamps n (b :: rest) :=
  accepted_accepted ..

theorem acceptAll_cases (p : Post) (n : Nat) (destinations : List BulkDestination) :
    ((∀ x ∈ destinations, ¬p.Stuck source x.destination) ∧
        p.acceptAll source template data stamps n destinations =
          .ok ((bulkMessages source template data stamps n destinations).map (·.id))
            (p.sentTo source template data stamps n destinations)) ∨
      ∃ front b, p.StopsAt source destinations front b ∧
        p.acceptAll source template data stamps n destinations =
          .fail (.topic .notFound) (p.sentTo source template data stamps n front) := by
  induction destinations generalizing p n with
  | nil => exact .inl ⟨by simp, by simp [acceptAll, sentTo, bulkMessages, bulkNotices]⟩
  | cons b rest ih =>
    rw [acceptAll]
    rcases accept_cases p source b.destination (.templated template (b.data.getD data)) (stamps n) with
      ⟨stuck, h⟩ | ⟨free, h⟩
    · refine .inr ⟨[], b, ⟨⟨rest, rfl⟩, by simp, stuck⟩, ?_⟩
      rw [h]
      simp [sentTo, bulkMessages, bulkNotices]
    · rw [h, Outcome.bind_ok]
      -- which of the other messages are stuck is the same in the state reached
      have others := ih (p.accepted [⟨(stamps n).messageId, source, b.destination,
        .templated template (b.data.getD data), (stamps n).time⟩] (notices p.1 source b.destination (stamps n)))
        (n + 1)
      simp only [StopsAt, stuck_accepted] at others
      rcases others with ⟨frees, h'⟩ | ⟨front, c, ⟨⟨back, hb⟩, frees, stuck⟩, h'⟩
      · refine .inl ⟨List.forall_mem_cons.2 ⟨free, frees⟩, ?_⟩
        rw [h', Outcome.map_ok, sentTo_cons]
        rfl
      · refine .inr ⟨b :: front, c, ⟨⟨back, by rw [hb]; rfl⟩, List.forall_mem_cons.2 ⟨free, frees⟩, stuck⟩, ?_⟩
        rw [h', Outcome.map_fail, sentTo_cons]

/-- A bulk send passes the checks before its first message. -/
def Passes (p : Post) (destinations : List BulkDestination) : Prop :=
  checkBulk destinations = .ok () ∧ p.1.identities.isVerified source = true ∧
    p.1.templates.contains template = true

/-- The post with another count of rejections, at most. -/
def OnlyRejections (p q : Post) : Prop :=
  q = ({ p.1 with rejectedCount := q.1.rejectedCount }, p.2)

theorem sendBulk_cases (p : Post) (destinations : List BulkDestination) :
    (¬p.Passes source template destinations ∧ ∃ e q, OnlyRejections p q ∧
        p.sendBulk source template data destinations stamps = .fail e q) ∨
      p.Passes source template destinations ∧
        p.sendBulk source template data destinations stamps =
          p.acceptAll source template data stamps 0 destinations := by
  unfold sendBulk fromVerified Passes
  rcases Outcome.guard_cases (checkBulk destinations) p _ with ⟨e, he, h⟩ | ⟨⟨⟩, counted, h⟩
  · exact .inl ⟨fun h => (by cases he.symm.trans h.1), e, p, rfl, h⟩
  · rw [h]
    cases verified : p.1.identities.isVerified source with
    | false => exact .inl ⟨by simp, _, (p.1.countRejected, p.2), rfl, rfl⟩
    | true =>
      rw [if_pos rfl]
      unfold Office.requireTemplate
      cases known : p.1.templates.contains template with
      | false => exact .inl ⟨by simp, _, p, rfl, rfl⟩
      | true => exact .inr ⟨⟨counted, rfl, rfl⟩, rfl⟩

/-- A bulk send that passes its checks stops behind messages that it has sent already. -/
def StopsHalfway (p : Post) (destinations front : List BulkDestination) : Prop :=
  p.Passes source template destinations ∧ front ≠ [] ∧ ∃ b, p.StopsAt source destinations front b

variable {source}

/-- There is only one first stuck message. -/
theorem StopsAt.unique {p : Post} {destinations front front' : List BulkDestination} {b b' : BulkDestination}
    (h : p.StopsAt source destinations front b) (h' : p.StopsAt source destinations front' b') :
    front = front' := by
  obtain ⟨⟨back, rfl⟩, frees, stuck⟩ := h
  obtain ⟨⟨back', same⟩, frees', stuck'⟩ := h'
  induction front generalizing front' with
  | nil =>
    cases front' with
    | nil => rfl
    | cons x front' =>
      cases same
      exact absurd stuck (frees' _ (by simp))
  | cons x front ih =>
    cases front' with
    | nil =>
      cases same
      exact absurd stuck' (frees _ (by simp))
    | cons x' front' =>
      obtain ⟨rfl, behind⟩ := List.cons.inj same
      rw [ih (fun y hy => frees y (List.mem_cons_of_mem _ hy)) behind
        fun y hy => frees' y (List.mem_cons_of_mem _ hy)]

variable {template data stamps}

theorem not_onlyRejections_sentTo {p : Post} {front : List BulkDestination} (some : front ≠ []) (n : Nat) :
    ¬OnlyRejections p (p.sentTo source template data stamps n front) := by
  intro only
  have same : p.1.sent ++ bulkMessages source template data stamps n front = p.1.sent :=
    congrArg (fun q : Post => q.1.sent) only
  have none : (bulkMessages source template data stamps n front).length = 0 := by
    rw [List.append_right_eq_self.1 same, List.length_nil]
  rw [length_bulkMessages, List.length_eq_zero_iff] at none
  exact some none

/-- **What a failed bulk send leaves.** It changes nothing but the count of rejections exactly if it does not
stop halfway. One that stops halfway leaves the messages before the stuck one sent and told about. -/
theorem failed_bulk_iff (p : Post) (destinations : List BulkDestination) (e : MailError)
    (failed : (p.sendBulk source template data destinations stamps).result = .error e) :
    (OnlyRejections p (p.sendBulk source template data destinations stamps).state ↔
        ¬∃ front, p.StopsHalfway source template destinations front) ∧
      ∀ front, p.StopsHalfway source template destinations front →
        p.sendBulk source template data destinations stamps =
          .fail (.topic .notFound) (p.sentTo source template data stamps 0 front) := by
  rcases sendBulk_cases source template data stamps p destinations with ⟨refused, e', q, only, h⟩ | ⟨passes, h⟩
  · rw [h]
    refine ⟨⟨fun _ => ?_, fun _ => only⟩, fun front halfway => absurd halfway.1 refused⟩
    rintro ⟨front, passes, -⟩
    exact refused passes
  · rcases acceptAll_cases source template data stamps p 0 destinations with ⟨-, h'⟩ | ⟨front, b, stops, h'⟩
    · rw [h, h'] at failed
      cases failed
    · rw [h, h']
      have first : ∀ front', p.StopsHalfway source template destinations front' → front' = front := by
        rintro front' ⟨-, -, b', stops'⟩
        exact stops'.unique stops
      constructor
      · by_cases empty : front = []
        · subst empty
          have same : p.sentTo source template data stamps 0 [] = p := accepted_nil p
          rw [Outcome.state_fail, same]
          refine ⟨fun _ => ?_, fun _ => rfl⟩
          rintro ⟨front', halfway⟩
          exact halfway.2.1 (first front' halfway)
        · have halfway : ∃ front, p.StopsHalfway source template destinations front :=
            ⟨front, passes, empty, b, stops⟩
          exact ⟨fun only => absurd only (not_onlyRejections_sentTo empty 0), fun none => absurd halfway none⟩
      · rintro front' halfway
        rw [first front' halfway]

end

/-! ### A bulk send that stops halfway -/

/-- A verified domain whose bounces go to a topic that has been removed, and a template. -/
def withoutTopic : List Op :=
  [.office (.identity (.verifyDomain "example.com")), .topic (.create "bounces" {}),
   .office (.identity (.setTopic "example.com" .bounce "arn:aws:sns:us-east-1:123456789012:bounces")),
   .topic (.delete "arn:aws:sns:us-east-1:123456789012:bounces"),
   .office (.createTemplate { name := "hello", subject := "Hello" } ⟨0, 0⟩)]

/-- The post after that run. -/
def postWithoutTopic : Post :=
  (blank { account := "123456789012", region := "us-east-1" }).run withoutTopic

/-- A recipient whose mail bounces. -/
def bouncing : BulkDestination :=
  ⟨{ direct := ["bounce@example.org"] }, none⟩

/-- A recipient about whom there is no notice. -/
def quiet : BulkDestination :=
  ⟨{ direct := ["you@example.org"] }, none⟩

/-- The stamps that are taken where they do not matter. -/
def plainStamps (n : Nat) : Stamp :=
  ⟨"message-" ++ Text.decimal n, "notice-" ++ Text.decimal n, ⟨0, 0⟩⟩

theorem failed_bulk_first_stuck :
    (postWithoutTopic.sendBulk "me@example.com" "hello" "{}" [bouncing, quiet] plainStamps).result =
        .error (.topic .notFound) ∧
      OnlyRejections postWithoutTopic
        (postWithoutTopic.sendBulk "me@example.com" "hello" "{}" [bouncing, quiet] plainStamps).state := by
  have failed : (postWithoutTopic.sendBulk "me@example.com" "hello" "{}" [bouncing, quiet]
      plainStamps).result = .error (.topic .notFound) := by
    rfl
  have stuck : postWithoutTopic.Stuck "me@example.com" bouncing.destination :=
    ⟨.bounce, "arn:aws:sns:us-east-1:123456789012:bounces", rfl, rfl⟩
  have atOnce : postWithoutTopic.StopsAt "me@example.com" [bouncing, quiet] [] bouncing :=
    ⟨⟨[quiet], rfl⟩, by simp, stuck⟩
  refine ⟨failed, (failed_bulk_iff _ _ _ failed).1.2 ?_⟩
  rintro ⟨front, -, some, b, stops⟩
  exact some (stops.unique atOnce)

/-- The message to the quiet recipient stays sent although the call fails. -/
theorem failed_bulk_second_stuck :
    ¬∀ (scope : Scope) (ops : List Op) (source template data : String) (destinations : List BulkDestination)
      (stamps : Nat → Stamp) (e : MailError),
      (((blank scope).run ops).sendBulk source template data destinations stamps).result = .error e →
        OnlyRejections ((blank scope).run ops)
          (((blank scope).run ops).sendBulk source template data destinations stamps).state := by
  intro unchanged
  have only := unchanged { account := "123456789012", region := "us-east-1" } withoutTopic "me@example.com"
    "hello" "\x7b\x7d" [quiet, bouncing] plainStamps (.topic .notFound) rfl
  have before : (postWithoutTopic.1.sent.map (·.id)) = [] := by rfl
  have after : ((postWithoutTopic.sendBulk "me@example.com" "hello" "\x7b\x7d" [quiet, bouncing]
      plainStamps).state.1.sent.map (·.id)) = ["message-0"] := by rfl
  have same := congrArg (fun q : Post => q.1.sent.map (·.id)) only
  cases before.symm.trans (same.symm.trans after)

end MockCloud.Mail.Post
