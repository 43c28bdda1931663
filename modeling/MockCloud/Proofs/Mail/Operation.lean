import MockCloud.Mail.Sending
import MockCloud.Proofs.Topic.Operation

/-! # Runs of a post

The operations that change an office or the topics beside it, as data, and what a send can do. What a send
draws is among its arguments.

* `ConfigurationSets.Effect c op o`: the rules by which an operation on configuration sets comes to its outcome.
* `Stuck p source d`: the notice about a message would go to a topic that is gone.
* `accept_cases`: a message is refused if it is stuck, and nothing has changed then. Any other is recorded
  and its notice published (`accepted`). -/

namespace MockCloud.Mail

/-! ### Operations of the parts -/

/-- An operation that changes the identities, with all its arguments. -/
inductive Identities.Op where
  | verifyAddress (mailbox : String)
  | verifyLegacyAddress (mailbox : String)
  | verifyDomain (domain : String)
  | delete (identity : String)
  | setTopic (identity : String) (type : NotificationType) (topic : Option String)
  | setForwarding (identity : String) (forwarding : Bool)
  | setMailFrom (identity : String) (domain behavior : Option String)
  | drawTokens (fresh : String → Draws) (identities : List String)

/-- The outcome of an operation on identities, its answer left out. -/
def Identities.perform (i : Identities) : Op → Outcome Identities MailError Unit
  | .verifyAddress mailbox => .ok () (i.verifyAddress mailbox)
  | .verifyLegacyAddress mailbox => .ok () (i.verifyLegacyAddress mailbox)
  | .verifyDomain domain => .ok () (i.verifyDomain domain)
  | .delete identity => .ok () (i.delete identity)
  | .setTopic identity type topic => .ok () (i.setTopic identity type topic)
  | .setForwarding identity forwarding => .ok () (i.setForwarding identity forwarding)
  | .setMailFrom identity domain behavior => i.setMailFrom identity domain behavior
  | .drawTokens fresh identities => .ok () (i.dkimAttributes fresh identities).2

/-- The identities after an operation, whether it succeeds or fails. -/
def Identities.step (i : Identities) (op : Op) : Identities :=
  (i.perform op).state

/-- The identities after a run. -/
def Identities.run (i : Identities) (ops : List Op) : Identities :=
  ops.foldl step i

/-- A setting of the mail domain is refused and changes nothing, or it clears the domain, or it sets one that ends as
that of the identity does. -/
theorem Identities.setMailFrom_cases (i : Identities) (identity : String) (domain behavior : Option String) :
    (∃ e, i.setMailFrom identity domain behavior = .fail e i) ∨
      (domain = none ∧
        i.setMailFrom identity domain behavior = .ok () { i with mailFrom := i.mailFrom.erase identity }) ∨
      ∃ text, domain = some text ∧ Text.endsWith text (hostOf identity) = true ∧
        i.setMailFrom identity domain behavior =
          .ok () { i with mailFrom := i.mailFrom.insert identity ⟨text, behavior⟩ } := by
  unfold setMailFrom
  split
  · exact .inl ⟨_, rfl⟩
  cases domain with
  | none => exact .inr (.inl ⟨rfl, rfl⟩)
  | some text =>
    dsimp only
    split
    · exact .inl ⟨_, rfl⟩
    · next ends =>
      have ends : Text.endsWith text (hostOf identity) = true := by simpa using ends
      cases behavior with
      | none => exact .inr (.inr ⟨text, rfl, ends, rfl⟩)
      | some mode =>
        dsimp only
        split
        · exact .inr (.inr ⟨text, rfl, ends, rfl⟩)
        · exact .inl ⟨_, rfl⟩

/-- Asking for tokens changes tokens only. By induction on the identities that are asked for. -/
theorem Identities.exists_dkimTokens (i : Identities) (fresh : String → Draws) (identities : List String) :
    ∃ dkimTokens, (i.dkimAttributes fresh identities).2 = { i with dkimTokens } := by
  suffices all : ∀ s : SortedMap DkimAttributes × Identities,
      ∃ dkimTokens, (identities.foldl (addDkim fresh) s).2 = { s.2 with dkimTokens } from all (.empty, i)
  intro s
  induction identities generalizing s with
  | nil => exact ⟨s.2.dkimTokens, rfl⟩
  | cons x xs ih =>
    obtain ⟨dkimTokens, h⟩ := ih (addDkim fresh s x)
    refine ⟨dkimTokens, h.trans ?_⟩
    unfold addDkim
    dsimp only
    split <;> rfl

/-- An operation that changes the configuration sets, with all its arguments. -/
inductive ConfigurationSets.Op where
  | create (name : String) (options : SetOptions)
  | delete (name : String)
  | addDestination (name : String) (d : EventDestination)
  | setReputationMetrics (name : String) (enabled : Bool)

/-- The outcome of an operation on configuration sets. -/
def ConfigurationSets.perform (c : ConfigurationSets) : Op → Outcome ConfigurationSets MailError Unit
  | .create name options => c.create name options
  | .delete name => c.delete name
  | .addDestination name d => c.addDestination name d
  | .setReputationMetrics name enabled => c.setReputationMetrics name enabled

/-- A set that is made has its options as they are, its tags have been checked, and it has no destinations. -/
theorem ConfigurationSet.make_eq_ok {name : String} {options : SetOptions} {s : ConfigurationSet}
    (made : make name options = .ok s) : TagPolicy.checkUnique options.tags = .ok () ∧
      TagPolicy.standard.checkReplacement (.ofTags options.tags) = .ok () ∧ s = ⟨name, options, []⟩ := by
  unfold make at made
  cases unique : TagPolicy.checkUnique options.tags with
  | error v => rw [unique] at made; cases made
  | ok _ =>
    cases checked : TagPolicy.standard.checkReplacement (.ofTags options.tags) with
    | error v => rw [unique, checked] at made; cases made
    | ok _ =>
      rw [unique, checked] at made
      dsimp only [bind, Except.bind, Except.mapError] at made
      split at made
      · cases made
      · cases made; exact ⟨rfl, rfl, rfl⟩

/-- The rules by which an operation on configuration sets comes to its outcome. -/
inductive ConfigurationSets.Effect (c : ConfigurationSets) : Op → Outcome ConfigurationSets MailError Unit → Prop
  | refused {op : Op} (e : MailError) : Effect c op (.fail e c)
  | created {name : String} {options : SetOptions} {s : ConfigurationSet} (free : c.sets.get? name = none)
      (made : ConfigurationSet.make name options = .ok s) :
      Effect c (.create name options) (.ok () { c with sets := c.sets.put name s })
  | deleted {name : String} {s : ConfigurationSet} (there : c.sets.get? name = some s) :
      Effect c (.delete name) (.ok ()
        { sets := c.sets.drop name
          destinationNames := c.destinationNames.filter fun n => !(s.destinations.map (·.name)).contains n })
  | added {name : String} {d : EventDestination} {s : ConfigurationSet} (there : c.sets.get? name = some s)
      (free : d.name ∉ c.destinationNames) :
      Effect c (.addDestination name d) (.ok ()
        { sets := c.sets.put name { s with destinations := s.destinations ++ [d] }
          destinationNames := d.name :: c.destinationNames })
  | measured {name : String} {enabled : Bool} {s : ConfigurationSet} (there : c.sets.get? name = some s) :
      Effect c (.setReputationMetrics name enabled) (.ok ()
        { c with sets := c.sets.put name { s with options := { s.options with reputationMetrics := enabled } } })

/-- A set that is there may always go, and the names of its destinations go with it. -/
theorem ConfigurationSets.delete_cases (c : ConfigurationSets) (name : String) :
    (c.sets.get? name = none ∧ c.delete name = .fail (.configurationSetMissing name) c) ∨
      ∃ s, c.sets.get? name = some s ∧ c.delete name = .ok ()
        { sets := c.sets.drop name
          destinationNames := c.destinationNames.filter fun n => !(s.destinations.map (·.name)).contains n } := by
  unfold delete Store.delete
  rcases Store.require_cases c.sets name with ⟨missing, h⟩ | ⟨s, there, h⟩
  · exact .inl ⟨missing, by rw [h]; rfl⟩
  · exact .inr ⟨s, there, by rw [h]; rfl⟩

/-- A destination is refused if its set is missing or its name is taken. -/
theorem ConfigurationSets.addDestination_cases (c : ConfigurationSets) (name : String) (d : EventDestination) :
    (c.sets.get? name = none ∧ c.addDestination name d = .fail .configurationSetInvalid c) ∨
      ∃ s, c.sets.get? name = some s ∧
        ((d.name ∈ c.destinationNames ∧ c.addDestination name d = .fail .eventDestinationTaken c) ∨
          d.name ∉ c.destinationNames ∧ c.addDestination name d = .ok ()
            { sets := c.sets.put name { s with destinations := s.destinations ++ [d] }
              destinationNames := d.name :: c.destinationNames }) := by
  unfold addDestination
  cases there : c.sets.get? name with
  | none =>
    rw [Store.contains_eq_false_iff.2 there]
    exact .inl ⟨rfl, rfl⟩
  | some s =>
    rw [Store.contains_eq_true_iff.2 ⟨s, there⟩, Store.modify_of_get? there]
    refine .inr ⟨s, rfl, ?_⟩
    by_cases taken : d.name ∈ c.destinationNames
    · exact .inl ⟨taken, by simp [taken]⟩
    · exact .inr ⟨taken, by simp [taken]⟩

/-- Every operation obeys a rule. -/
theorem ConfigurationSets.perform_effect (c : ConfigurationSets) (op : Op) : Effect c op (c.perform op) := by
  cases op with
  | create name options =>
    rw [perform, create]
    rcases Store.create_cases c.sets name options with ⟨e, -, h⟩ | ⟨s, free, made, h⟩
    · rw [h]; exact .refused e
    · rw [h]; exact .created free made
  | delete name =>
    rw [perform]
    rcases c.delete_cases name with ⟨-, h⟩ | ⟨s, there, h⟩
    · rw [h]; exact .refused _
    · rw [h]; exact .deleted there
  | addDestination name d =>
    rw [perform]
    rcases c.addDestination_cases name d with ⟨-, h⟩ | ⟨s, there, ⟨-, h⟩ | ⟨free, h⟩⟩
    · rw [h]; exact .refused _
    · rw [h]; exact .refused _
    · rw [h]; exact .added there free
  | setReputationMetrics name enabled =>
    rw [perform, setReputationMetrics]
    rcases Store.update_cases c.sets name enabled with ⟨-, h⟩ | ⟨s, s', there, ⟨hs, h⟩ | ⟨e, hs, -⟩⟩
    · rw [h]; exact .refused _
    · cases hs
      rw [h]
      exact .measured there
    · cases hs

/-- An operation that changes the sets of receipt rules, with all its arguments. -/
inductive RuleSets.Op where
  | createSet (set : String)
  | createRule (set : String) (rule : ReceiptRule) (after : Option String)
  | updateRule (set : String) (rule : ReceiptRule)

/-- The outcome of an operation on sets of receipt rules. -/
def RuleSets.perform (s : RuleSets) : Op → Outcome RuleSets MailError Unit
  | .createSet set => s.createSet set
  | .createRule set rule after => s.createRule set rule after
  | .updateRule set rule => s.updateRule set rule

/-- An operation that changes the office without a send, with all its arguments. -/
inductive Office.Op where
  | identity (op : Identities.Op)
  | configuration (op : ConfigurationSets.Op)
  | rule (op : RuleSets.Op)
  | createTemplate (parts : TemplateParts) (time : Instant)
  | updateTemplate (parts : TemplateParts)
  | deleteTemplate (name : String)

/-- The outcome of an operation on an office. -/
def Office.perform (o : Office) : Op → Outcome Office MailError Unit
  | .identity op => (o.identities.perform op).within ({ o with identities := · })
  | .configuration op => (o.configurationSets.perform op).within ({ o with configurationSets := · })
  | .rule op => (o.ruleSets.perform op).within ({ o with ruleSets := · })
  | .createTemplate parts time => o.createTemplate parts time
  | .updateTemplate parts => o.updateTemplate parts
  | .deleteTemplate name => o.deleteTemplate name

/-- Whether a template is made or refused, only the templates may be others. -/
theorem Office.exists_templates_createTemplate (o : Office) (parts : TemplateParts) (time : Instant) :
    ∃ templates, (o.createTemplate parts time).state = { o with templates } := by
  unfold createTemplate
  rcases Outcome.guard_cases parts.checkName o _ with ⟨e, -, h⟩ | ⟨⟨⟩, -, h⟩ <;> rw [h] <;> exact ⟨_, rfl⟩

theorem Office.exists_templates_updateTemplate (o : Office) (parts : TemplateParts) :
    ∃ templates, (o.updateTemplate parts).state = { o with templates } := by
  unfold updateTemplate
  rcases Outcome.guard_cases parts.checkName o _ with ⟨e, -, h⟩ | ⟨⟨⟩, -, h⟩ <;> rw [h] <;> exact ⟨_, rfl⟩

/-- What is done without a send touches neither the log nor the counts. -/
theorem Office.exists_state_perform (o : Office) (op : Op) :
    ∃ identities configurationSets templates ruleSets,
      (o.perform op).state = { o with identities, configurationSets, templates, ruleSets } := by
  cases op with
  | createTemplate parts time =>
    obtain ⟨templates, h⟩ := o.exists_templates_createTemplate parts time
    exact ⟨_, _, _, _, h⟩
  | updateTemplate parts =>
    obtain ⟨templates, h⟩ := o.exists_templates_updateTemplate parts
    exact ⟨_, _, _, _, h⟩
  | _ => exact ⟨_, _, _, _, rfl⟩

/-- What is done to identities, rules and templates leaves the configuration sets alone. -/
theorem Office.configurationSets_perform (o : Office) (op : Office.Op) :
    (o.perform op).state.configurationSets = o.configurationSets ∨
      ∃ op', op = .configuration op' ∧
        (o.perform op).state.configurationSets = (o.configurationSets.perform op').state := by
  cases op with
  | configuration op => exact .inr ⟨op, rfl, rfl⟩
  | createTemplate parts time =>
    obtain ⟨templates, h⟩ := o.exists_templates_createTemplate parts time
    exact .inl (by rw [Office.perform, h])
  | updateTemplate parts =>
    obtain ⟨templates, h⟩ := o.exists_templates_updateTemplate parts
    exact .inl (by rw [Office.perform, h])
  | _ => exact .inl rfl

namespace Post

/-! ### Operations -/

/-- An operation that changes the office or the topics, with all its arguments. -/
inductive Op where
  | office (op : Office.Op)
  | topic (op : Topic.Board.Op)
  | sendEmail (source : String) (d : Destination) (subject : String) (text html : Option String)
      (stamp : Stamp)
  | sendTemplated (source : String) (d : Destination) (template data : String) (stamp : Stamp)
  | sendBulk (source template data : String) (destinations : List BulkDestination) (stamps : Nat → Stamp)
  | sendRaw (source : Option String) (recipients : List String) (raw : String) (stamp : Stamp)

/-- The outcome of an operation, its answer left out. -/
def perform (p : Post) : Op → Outcome Post MailError Unit
  | .office op => (p.1.perform op).within fun office => (office, p.2)
  | .topic op => ((p.2.perform op).mapError MailError.topic).within fun board => (p.1, board)
  | .sendEmail source d subject text html stamp => (p.sendEmail source d subject text html stamp).done
  | .sendTemplated source d template data stamp => (p.sendTemplated source d template data stamp).done
  | .sendBulk source template data destinations stamps =>
    (p.sendBulk source template data destinations stamps).done
  | .sendRaw source recipients raw stamp => (p.sendRaw source recipients raw stamp).done

/-- The post after an operation, whether it succeeds or fails. -/
def step (p : Post) (op : Op) : Post :=
  (p.perform op).state

/-- The post after a run. -/
def run (p : Post) (ops : List Op) : Post :=
  ops.foldl step p

/-- An office and a board in which nothing has been made. -/
def blank (scope : Scope) : Post :=
  (Backend.new scope, Backend.new scope)

/-! ### One message -/

/-- The notice about a message goes to a topic that is not there. -/
def Stuck (p : Post) (source : String) (d : Destination) : Prop :=
  ∃ type topic, p.1.noticeTopic? source d = some (type, topic) ∧ p.2.topics.get? topic = none

/-- The notices about a message that a board gets: one or none. -/
def notices (o : Office) (source : String) (d : Destination) (stamp : Stamp) : List Topic.Message :=
  match o.noticeTopic? source d with
  | none => []
  | some (type, topic) => [⟨stamp.noticeId, topic, none, notice o.scope type source d stamp, stamp.time⟩]

/-- The post with messages recorded and notices published. -/
def accepted (p : Post) (messages : List SentMessage) (published : List Topic.Message) : Post :=
  ({ p.1 with
      sent := p.1.sent ++ messages
      sentCount := p.1.sentCount + (messages.flatMap fun m => m.destination.addresses).length },
    { p.2 with published := p.2.published ++ published })

@[simp] theorem accepted_nil (p : Post) : p.accepted [] [] = p := by
  simp [accepted]

theorem accepted_accepted (p : Post) (ms ms' : List SentMessage) (ns ns' : List Topic.Message) :
    (p.accepted ms ns).accepted ms' ns' = p.accepted (ms ++ ms') (ns ++ ns') := by
  simp [accepted, List.append_assoc, Nat.add_assoc]

theorem stuck_accepted (p : Post) (ms : List SentMessage) (ns : List Topic.Message) (source : String)
    (d : Destination) : (p.accepted ms ns).Stuck source d ↔ p.Stuck source d :=
  Iff.rfl

theorem publishNotice_cases (p : Post) (source : String) (d : Destination) (stamp : Stamp) :
    (p.Stuck source d ∧ p.1.publishNotice p.2 source d stamp = .fail (.topic .notFound) p.2) ∨
      ¬p.Stuck source d ∧ p.1.publishNotice p.2 source d stamp =
        .ok () { p.2 with published := p.2.published ++ notices p.1 source d stamp } := by
  unfold Office.publishNotice notices
  cases h : p.1.noticeTopic? source d with
  | none =>
    refine .inr ⟨?_, by simp⟩
    rintro ⟨type, topic, some, -⟩
    cases h.symm.trans some
  | some x =>
    obtain ⟨type, topic⟩ := x
    dsimp only
    rcases Topic.Board.publish_cases p.2 topic none (notice p.1.scope type source d stamp) stamp.noticeId
      stamp.time with ⟨gone, h'⟩ | ⟨t, there, h'⟩
    · exact .inl ⟨⟨type, topic, h, gone⟩, by rw [h']; rfl⟩
    · refine .inr ⟨?_, by rw [h']; rfl⟩
      rintro ⟨type', topic', some, gone⟩
      cases h.symm.trans some
      cases there.symm.trans gone

/-- A message is refused because it is stuck, or it is recorded and told about. -/
theorem accept_cases (p : Post) (source : String) (d : Destination) (content : Content) (stamp : Stamp) :
    (p.Stuck source d ∧ p.accept source d content stamp = .fail (.topic .notFound) p) ∨
      ¬p.Stuck source d ∧ p.accept source d content stamp =
        .ok stamp.messageId
          (p.accepted [⟨stamp.messageId, source, d, content, stamp.time⟩] (notices p.1 source d stamp)) := by
  unfold accept
  rcases publishNotice_cases p source d stamp with ⟨stuck, h⟩ | ⟨free, h⟩
  · exact .inl ⟨stuck, by rw [h]; rfl⟩
  · refine .inr ⟨free, ?_⟩
    rw [h, Outcome.within_ok, Outcome.bind_ok]
    simp [accepted, Office.record]

end Post

end MockCloud.Mail
