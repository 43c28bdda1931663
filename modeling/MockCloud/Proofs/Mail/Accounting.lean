import MockCloud.Proofs.Mail.Recording

/-! # The counts of a run

An office counts the recipients of what it has sent and the calls that it has refused because their source was
not verified. The counts are kept beside the log, at other places than the log, and a bulk send may stop
between two messages; they agree with the log all the same.

* `call p op`: an operation with the ids that it gives back. `answers p ops`: what the calls of a run answer.
* `Booked p o ms`: a call has put the messages `ms` behind the log and has counted them, and itself if it was
  refused for its source.
* `call_booked`: every call is booked.
* `accounted_run`: so in every run the counts are those of the log and of the answers, the log grows at its end
  only, and a call that succeeds gives back the ids of the messages that it has added. -/

namespace MockCloud.Mail

/-- The number of recipients of some messages. -/
def recipients (ms : List SentMessage) : Nat :=
  (ms.flatMap fun m => m.destination.addresses).length

theorem recipients_append (ms ms' : List SentMessage) :
    recipients (ms ++ ms') = recipients ms + recipients ms' := by
  rw [recipients, List.flatMap_append, List.length_append]
  rfl

/-! ### Refusals for a source that is not verified -/

/-- The source of a send is not verified. -/
def MailError.isNotVerified : MailError → Bool
  | notVerified _ => true
  | _ => false

theorem MailError.isNotVerified_eq_false {e : MailError} (other : ∀ source, e ≠ notVerified source) :
    e.isNotVerified = false := by
  cases e
  case notVerified source => exact absurd rfl (other source)
  all_goals rfl

/-- A call is refused because its source is not verified. -/
def isRejection {α : Type} : Except MailError α → Bool
  | .error e => e.isNotVerified
  | .ok _ => false

/-- The outcome is no such refusal. -/
def Unrejected {σ α : Type} (o : Outcome σ MailError α) : Prop :=
  isRejection o.result = false

section

variable {σ α β : Type} {s : σ}

theorem isRejection_map (r : Except MailError β) (f : β → α) : isRejection (r.map f) = isRejection r := by
  cases r <;> rfl

theorem isRejection_mapError_topic (r : Except Topic.TopicError β) : isRejection (r.mapError .topic) = false := by
  cases r <;> rfl

theorem Unrejected.done {o : Outcome σ MailError β} (h : Unrejected o) : Unrejected o.done :=
  (isRejection_map o.result _).trans h

theorem Unrejected.guard {check : Except MailError β} {next : β → Outcome σ MailError α}
    (checked : isRejection check = false) (goesOn : ∀ b, Unrejected (next b)) :
    Unrejected (.guard check s next) := by
  cases check with
  | error e => exact checked
  | ok b => exact goesOn b

theorem Unrejected.bind {o : Outcome σ MailError β} {next : β → σ → Outcome σ MailError α} (h : Unrejected o)
    (goesOn : ∀ b s, Unrejected (next b s)) : Unrejected (o.bind next) := by
  obtain ⟨e | b, s⟩ := o
  · exact h
  · exact goesOn b s

end

section

variable {α ν χ κ : Type} [Entity α ν χ κ MailError] {s : Store α κ} {id : String}

theorem Unrejected.create {p : ν} (taken : (Entity.taken α id s.context : MailError).isNotVerified = false)
    (made : isRejection (Entity.make id p s.context : Except MailError α) = false) :
    Unrejected (s.create id p) := by
  refine .guard ?_ fun _ => .guard made fun _ => rfl
  unfold Store.ensureAbsent
  split
  · exact taken
  · rfl

theorem isRejection_require (missing : (Entity.missing α id s.context : MailError).isNotVerified = false) :
    isRejection (s.require id : Except MailError α) = false := by
  unfold Store.require
  split
  · rfl
  · exact missing

theorem Unrejected.update {c : χ} (missing : (Entity.missing α id s.context : MailError).isNotVerified = false)
    (changed : ∀ a : α, Unrejected (Entity.change String a c s.context : Outcome α MailError Unit)) :
    Unrejected (s.update id c) :=
  .guard (isRejection_require missing) fun a => (isRejection_map _ _).trans (changed a)

theorem Unrejected.delete (missing : (Entity.missing α id s.context : MailError).isNotVerified = false)
    (goes : ∀ a : α, isRejection (Entity.mayGo String a s.context : Except MailError Unit) = false) :
    Unrejected (s.delete id) :=
  .guard (isRejection_require missing) fun a => .guard (goes a) fun _ => rfl

end

theorem Identities.unrejected_perform (i : Identities) (op : Op) : Unrejected (i.perform op) := by
  cases op with
  | setMailFrom identity domain behavior =>
    simp only [perform, setMailFrom]
    repeat' split
    all_goals rfl
  | _ => rfl

theorem ConfigurationSet.isRejection_make (name : String) (options : SetOptions) :
    isRejection (make name options) = false := by
  unfold make
  cases TagPolicy.checkUnique options.tags with
  | error v => rfl
  | ok _ =>
    cases TagPolicy.standard.checkReplacement (.ofTags options.tags) with
    | error v => rfl
    | ok _ =>
      dsimp only [bind, Except.bind, Except.mapError]
      split <;> rfl

theorem ConfigurationSets.unrejected_perform (c : ConfigurationSets) (op : Op) : Unrejected (c.perform op) := by
  cases op with
  | create name options =>
    have made := ConfigurationSet.isRejection_make name options
    exact Unrejected.done (o := (c.sets.create name options).within _) (.create (s := c.sets) rfl made)
  | delete name =>
    refine .bind (o := (c.sets.delete name).within _) ?_ fun _ _ => rfl
    exact .delete (s := c.sets) rfl fun _ => rfl
  | addDestination name d =>
    simp only [perform, addDestination]
    repeat' split
    all_goals rfl
  | setReputationMetrics name enabled =>
    exact Unrejected.done (o := (c.sets.update name enabled).within _) (.update (s := c.sets) rfl fun _ => rfl)

theorem RuleSets.unrejected_perform (s : RuleSets) (op : Op) : Unrejected (s.perform op) := by
  have described (set : String) : isRejection (s.describeSet set) = false := by
    unfold describeSet
    split <;> rfl
  cases op with
  | createSet set =>
    simp only [perform, createSet]
    split <;> rfl
  | createRule set rule after =>
    refine .guard (described set) fun rules => ?_
    split
    · rfl
    · refine .guard ?_ fun _ => rfl
      unfold place
      repeat' split
      all_goals rfl
  | updateRule set rule =>
    refine .guard (described set) fun rules => ?_
    split <;> rfl

/-- Only sends are refused because their source is not verified. -/
theorem Office.unrejected_perform (o : Office) (op : Op) : Unrejected (o.perform op) := by
  have named (p : TemplateParts) : isRejection p.checkName = false := by
    unfold TemplateParts.checkName
    split <;> rfl
  have about (p : TemplateParts) : isRejection p.checkSubject = false := by
    unfold TemplateParts.checkSubject
    split <;> rfl
  cases op with
  | identity op => exact o.identities.unrejected_perform op
  | configuration op => exact o.configurationSets.unrejected_perform op
  | rule op => exact o.ruleSets.unrejected_perform op
  | createTemplate parts time =>
    refine .guard (named parts) fun _ => ?_
    refine Unrejected.done (o := (o.templates.create parts.name (parts, time)).within _) ?_
    exact .create (s := o.templates) rfl ((isRejection_map _ _).trans (about parts))
  | updateTemplate parts =>
    refine .guard (named parts) fun _ => ?_
    refine Unrejected.done (o := (o.templates.update parts.name parts).within _) ?_
    exact .update (s := o.templates) rfl fun t => .guard (about parts) fun _ => rfl
  | deleteTemplate name =>
    refine Unrejected.done (o := (o.templates.delete name).within _) ?_
    exact .delete (s := o.templates) rfl fun _ => rfl

namespace Post

/-! ### What calls answer -/

/-- The outcome of an operation with the ids of messages that it gives back; only sends give any back. -/
def call (p : Post) : Op → Outcome Post MailError (List String)
  | .office op => (p.perform (.office op)).map fun _ => []
  | .topic op => (p.perform (.topic op)).map fun _ => []
  | .sendEmail source d subject text html stamp => (p.sendEmail source d subject text html stamp).map ([·])
  | .sendTemplated source d template data stamp => (p.sendTemplated source d template data stamp).map ([·])
  | .sendBulk source template data destinations stamps => p.sendBulk source template data destinations stamps
  | .sendRaw source recipients raw stamp => (p.sendRaw source recipients raw stamp).map ([·])

/-- What the calls of a run answer, in order. -/
def answers (p : Post) : List Op → List (Except MailError (List String))
  | [] => []
  | op :: ops => (p.call op).result :: answers (p.step op) ops

/-- A call is its operation, with an answer. -/
theorem done_call (p : Post) (op : Op) : (p.call op).done = p.perform op := by
  cases op with
  | office | topic => exact (Outcome.done_map _ _).trans (Outcome.done_eq _)
  | sendEmail | sendTemplated | sendRaw => exact Outcome.done_map _ _
  | sendBulk => rfl

theorem state_call (p : Post) (op : Op) : (p.call op).state = p.step op := by
  rw [step, ← done_call]
  rfl

/-! ### One call -/

/-- What a call does to the books: it puts these messages behind the log and counts their recipients, and it
counts itself if it is refused because its source is not verified. The ids that it gives back are those of the
messages. -/
structure Booked (p : Post) (o : Outcome Post MailError (List String)) (ms : List SentMessage) : Prop where
  sent : o.state.1.sent = p.1.sent ++ ms
  counted : o.state.1.sentCount = p.1.sentCount + recipients ms
  rejected : o.state.1.rejectedCount = p.1.rejectedCount + (if isRejection o.result then 1 else 0)
  ids : ∀ ids, o.result = .ok ids → ids = ms.map (·.id)

section

variable {p : Post}

theorem Refuses.booked {o : Outcome Post MailError (List String)} (refuses : p.Refuses o) : Booked p o [] := by
  cases refuses with
  | early e other =>
    have unrejected := MailError.isNotVerified_eq_false other
    exact ⟨(List.append_nil _).symm, rfl, by simp [isRejection, unrejected], nofun⟩
  | unverified no => exact ⟨(List.append_nil _).symm, rfl, rfl, nofun⟩

/-- Messages that have been accepted are booked, whether or not more of them were to follow. -/
theorem booked_accepted (ms : List SentMessage) (published : List Topic.Message)
    {result : Except MailError (List String)} (unrejected : isRejection result = false)
    (ids : ∀ ids, result = .ok ids → ids = ms.map (·.id)) :
    Booked p ⟨result, p.accepted ms published⟩ ms where
  sent := rfl
  counted := rfl
  rejected := by simp [unrejected, accepted]
  ids := ids

/-- What leaves the books alone and is not refused for its source is booked with no messages. -/
theorem booked_unsent {o : Outcome Post MailError Unit} (unrejected : Unrejected o)
    (sent : o.state.1.sent = p.1.sent) (counted : o.state.1.sentCount = p.1.sentCount)
    (rejected : o.state.1.rejectedCount = p.1.rejectedCount) : Booked p (o.map fun _ => []) [] where
  sent := sent.trans (List.append_nil _).symm
  counted := counted
  rejected := by
    have unrejected := (isRejection_map o.result fun _ => ([] : List String)).trans unrejected
    rw [Outcome.map, unrejected]
    exact rejected
  ids ids done := by
    obtain ⟨_ | _, _⟩ := o <;> cases done
    rfl

theorem exists_booked_accept (source : String) (d : Destination) (content : Content) (stamp : Stamp) :
    ∃ ms, Booked p ((p.accept source d content stamp).map ([·])) ms := by
  rcases accept_cases p source d content stamp with ⟨-, h⟩ | ⟨-, h⟩
  · rw [h]
    exact ⟨[], (Refuses.early (.topic .notFound) nofun).booked⟩
  · rw [h]
    exact ⟨_, booked_accepted _ _ rfl fun ids done => by cases done; rfl⟩

end

/-- **Every call is booked.** -/
theorem call_booked (p : Post) (op : Op) : ∃ ms, Booked p (p.call op) ms := by
  cases op with
  | office op =>
    obtain ⟨_, _, _, _, h⟩ := p.1.exists_state_perform op
    have same : (p.perform (.office op)).state.1 = (p.1.perform op).state := rfl
    rw [h] at same
    refine ⟨[], booked_unsent (p.1.unrejected_perform op) ?_ ?_ ?_⟩ <;> rw [same]
  | topic op =>
    have unrejected : Unrejected (p.perform (.topic op)) := isRejection_mapError_topic (p.2.perform op).result
    exact ⟨[], booked_unsent unrejected rfl rfl rfl⟩
  | sendEmail source d subject text html stamp =>
    rcases p.sendEmail_cases source d subject text html stamp with refuses | ⟨-, h⟩
    · exact ⟨[], (refuses.map _).booked⟩
    · rw [call, h]
      exact exists_booked_accept ..
  | sendTemplated source d template data stamp =>
    rcases p.sendTemplated_cases source d template data stamp with refuses | ⟨-, -, h⟩
    · exact ⟨[], (refuses.map _).booked⟩
    · rw [call, h]
      exact exists_booked_accept ..
  | sendRaw source recipients raw stamp =>
    rcases p.sendRaw_cases source recipients raw stamp with refuses | ⟨_, _, -, -, -, h⟩
    · exact ⟨[], (refuses.map _).booked⟩
    · rw [call, h]
      exact exists_booked_accept ..
  | sendBulk source template data destinations stamps =>
    rcases p.sendBulk_checked_cases source template data destinations stamps with refuses | ⟨-, h⟩
    · exact ⟨[], refuses.booked⟩
    rw [call, h]
    -- all destinations or those before the first stuck one, booked in the same way
    rcases acceptAll_cases source template data stamps p 0 destinations with ⟨-, h⟩ | ⟨front, b, -, h⟩
    · rw [h]
      exact ⟨_, booked_accepted _ _ rfl fun ids done => by cases done; rfl⟩
    · rw [h]
      exact ⟨_, booked_accepted _ _ rfl nofun⟩

/-! ### A run -/

theorem run_append (p : Post) (before after : List Op) : p.run (before ++ after) = (p.run before).run after :=
  List.foldl_append

/-- What an office has counted as sent are the recipients of its log. -/
theorem sentCount_run {p : Post} (h : p.1.sentCount = recipients p.1.sent) (ops : List Op) :
    (p.run ops).1.sentCount = recipients (p.run ops).1.sent := by
  refine List.foldlRecOn ops step (motive := fun q => q.1.sentCount = recipients q.1.sent) h fun q hq op _ => ?_
  obtain ⟨ms, booked⟩ := q.call_booked op
  rw [← state_call, booked.counted, booked.sent, hq, recipients_append]

/-- What an office has counted as rejected are the calls that were refused for their source. -/
theorem rejectedCount_run (p : Post) (ops : List Op) :
    (p.run ops).1.rejectedCount = p.1.rejectedCount + (p.answers ops).countP isRejection := by
  induction ops generalizing p with
  | nil => rfl
  | cons op ops ih =>
    obtain ⟨ms, booked⟩ := p.call_booked op
    rw [show p.run (op :: ops) = (p.step op).run ops from rfl, ih, ← state_call, booked.rejected, answers,
      List.countP_cons, state_call]
    omega

/-- The books of a run that begins at `p` agree with its log and with its answers. -/
structure Accounted (p : Post) (ops : List Op) : Prop where
  quota : (p.run ops).1.quota.sentToday = recipients (p.run ops).1.sent
  attempts : ∀ time, ((p.run ops).1.statistics time).attempts = recipients (p.run ops).1.sent
  /-- The calls that were refused because their source was not verified have been counted. -/
  rejects : ∀ time, ((p.run ops).1.statistics time).rejects = (p.answers ops).countP isRejection
  /-- Each call puts messages behind the log, and those are the ones whose ids it gives back. -/
  grows : ∀ before op after, ops = before ++ op :: after →
    ∃ ms, (p.run (before ++ [op])).1.sent = (p.run before).1.sent ++ ms ∧
      ∀ ids, ((p.run before).call op).result = .ok ids → ids = ms.map (·.id)

/-- **The counts of a run.** In a run that begins with an empty office beside any topics, the quota and the
statistics give the number of recipients of all messages of the log, the rejects are the calls that were
answered that their source is not verified, the log grows at its end only, and a call that succeeds gives back
the ids of the messages that it has added, in order: also behind bulk sends that have stopped halfway. -/
theorem accounted_run (scope : Scope) (board : Topic.Board) (ops : List Op) :
    Accounted (opened scope board) ops := by
  have counted := sentCount_run (p := opened scope board) rfl ops
  have rejected := rejectedCount_run (opened scope board) ops
  refine ⟨counted, fun _ => counted, fun _ => rejected.trans (Nat.zero_add _), fun before op after _ => ?_⟩
  obtain ⟨ms, booked⟩ := ((opened scope board).run before).call_booked op
  refine ⟨ms, ?_, booked.ids⟩
  rw [run_append, ← booked.sent, state_call]
  rfl

/-- A bulk send that stops behind its first message, and then a message from a source that is not verified. -/
def stoppedRun : List Op :=
  withoutTopic ++ [.sendBulk "me@example.com" "hello" "\x7b\x7d" [quiet, bouncing] plainStamps,
    .sendEmail "me@example.net" { direct := ["you@example.org"] } "Hello" none none (plainStamps 2)]

theorem accounted_run_stopped :
    ((blank { account := "123456789012", region := "us-east-1" }).run stoppedRun).1.quota.sentToday = 1 ∧
      (((blank { account := "123456789012", region := "us-east-1" }).run stoppedRun).1.statistics ⟨0, 0⟩).rejects =
        1 := by
  have books := accounted_run { account := "123456789012", region := "us-east-1" }
    (Backend.new { account := "123456789012", region := "us-east-1" }) stoppedRun
  exact ⟨books.quota.trans (by rfl), (books.rejects ⟨0, 0⟩).trans (by rfl)⟩

end Post
end MockCloud.Mail
