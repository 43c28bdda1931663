import MockCloud.Topic.Basic

/-! # Runs of a board of topics

The operations that change the topics of a place or what is published to them, as data, and what each of
them can do.

* `Effect b op o`: the rules by which an operation comes to its outcome. A refused operation leaves the
  board alone.
* `create_cases`: all that the making of a topic can come to.
* `perform_effect`: every operation obeys a rule.
* `Filed.run`: every topic stands under the resource name made of its name. -/

namespace MockCloud.Topic.Board

/-- An operation that changes the board, with all its arguments. -/
inductive Op where
  | create (name : String) (p : New)
  | setDisplayName (arn : String) (displayName : Option String)
  | delete (arn : String)
  | publish (arn : String) (subject : Option String) (text id : String) (time : Instant)
  | tag (arn : String) (tags : List Tag)
  | untag (arn : String) (keys : List String)

/-- The outcome of an operation, its answer left out. -/
def perform (b : Board) : Op → Outcome Board TopicError Unit
  | .create name p => (b.create name p).done
  | .setDisplayName arn displayName => b.setDisplayName arn displayName
  | .delete arn => .ok () (b.delete arn)
  | .publish arn subject text id time => (b.publish arn subject text id time).done
  | .tag arn tags => b.tag arn tags
  | .untag arn keys => b.untag arn keys

/-- The board after an operation, whether it succeeds or fails. -/
def step (b : Board) (op : Op) : Board :=
  (b.perform op).state

/-- The board after a run. -/
def run (b : Board) (ops : List Op) : Board :=
  ops.foldl step b

/-- A board without topics. -/
def blank (scope : Scope) : Board :=
  Backend.new scope

/-- The board with a topic under a resource name. -/
def put (b : Board) (arn : String) (t : Topic) : Board :=
  { b with topics := b.topics.put arn t }

/-- The board without the topic of a resource name. -/
def drop (b : Board) (arn : String) : Board :=
  { b with topics := b.topics.drop arn }

/-! ### The rules -/

/-- The rules by which an operation on `b` comes to its outcome. -/
inductive Effect (b : Board) : Op → Outcome Board TopicError Unit → Prop
  | refused {op : Op} (e : TopicError) : Effect b op (.fail e b)
  | found {name : String} {p : New} {t : Topic} (there : b.topics.get? (b.topicArn name) = some t)
      (same : p.tags = [] ∨ t.tags = .ofTags p.tags) : Effect b (.create name p) (.ok () b)
  | created {name : String} {p : New} {t : Topic} (named : isName name = true)
      (free : b.topics.get? (b.topicArn name) = none) (made : Topic.make (b.topicArn name) name p = .ok t) :
      Effect b (.create name p) (.ok () (b.put (b.topicArn name) t))
  | displayed {arn : String} {displayName : Option String} {t : Topic} (there : b.topics.get? arn = some t) :
      Effect b (.setDisplayName arn displayName) (.ok () (b.put arn { t with displayName }))
  | deleted {arn : String} : Effect b (.delete arn) (.ok () (b.drop arn))
  | published {arn : String} {subject : Option String} {text id : String} {time : Instant} {t : Topic}
      (there : b.topics.get? arn = some t) :
      Effect b (.publish arn subject text id time)
        (.ok () { b with published := b.published ++ [⟨id, arn, subject, text, time⟩] })
  | tagged {arn : String} {tags : List Tag} {t : Topic} {all : TagMap} (there : b.topics.get? arn = some t)
      (merged : TagPolicy.standard.merged t.tags (.ofTags tags) = .ok all) :
      Effect b (.tag arn tags) (.ok () (b.put arn { t with tags := all }))
  | untagged {arn : String} {keys : List String} {t : Topic} (there : b.topics.get? arn = some t) :
      Effect b (.untag arn keys) (.ok () (b.put arn { t with tags := t.tags.eraseKeys keys }))

theorem publish_cases (b : Board) (arn : String) (subject : Option String) (text id : String)
    (time : Instant) :
    (b.topics.get? arn = none ∧ b.publish arn subject text id time = .fail .notFound b) ∨
      ∃ t, b.topics.get? arn = some t ∧ b.publish arn subject text id time =
        .ok id { b with published := b.published ++ [⟨id, arn, subject, text, time⟩] } := by
  unfold publish get
  rcases Store.require_cases b.topics arn with ⟨missing, h⟩ | ⟨t, there, h⟩
  · exact .inl ⟨missing, by rw [h]; rfl⟩
  · exact .inr ⟨t, there, by rw [h]; rfl⟩

theorem tagged_cases (b : Board) (arn : String) :
    (b.topics.get? arn = none ∧ b.tagged arn = .error .resourceNotFound) ∨
      ∃ t, b.topics.get? arn = some t ∧ b.tagged arn = .ok t := by
  unfold tagged
  cases h : b.topics.get? arn with
  | none => exact .inl ⟨rfl, rfl⟩
  | some t => exact .inr ⟨t, rfl, rfl⟩

/-- A topic that can be made has tags that keep the policy, and it has them as a map. -/
theorem make_eq_ok_iff {arn name : String} {p : New} {t : Topic} :
    Topic.make arn name p = .ok t ↔
      TagPolicy.standard.checkReplacement (.ofTags p.tags) = .ok () ∧ t = ⟨arn, name, p.displayName, .ofTags p.tags⟩ := by
  unfold Topic.make
  dsimp only
  cases TagPolicy.standard.checkReplacement (.ofTags p.tags) with
  | error v => exact iff_of_false nofun nofun
  | ok _ =>
    constructor
    · rintro ⟨⟩
      exact ⟨rfl, rfl⟩
    · rintro ⟨-, rfl⟩
      rfl

/-- The making of a topic is refused for its name or its tags. A topic that is there is given back, unless tags are
given and differ from its own; any other is made. -/
theorem create_cases (b : Board) (name : String) (p : New) :
    (isName name = false ∧ b.create name p = .fail .invalidName b) ∨
      isName name = true ∧
        ((∃ t, b.topics.get? (b.topicArn name) = some t ∧
          ((¬(p.tags = [] ∨ t.tags = .ofTags p.tags) ∧ b.create name p = .fail .differentTags b) ∨
            (p.tags = [] ∨ t.tags = .ofTags p.tags) ∧ b.create name p = .ok t b)) ∨
        b.topics.get? (b.topicArn name) = none ∧
          ((∃ e, Topic.make (b.topicArn name) name p = .error e ∧ b.create name p = .fail e b) ∨
            ∃ t, Topic.make (b.topicArn name) name p = .ok t ∧
              b.create name p = .ok t (b.put (b.topicArn name) t))) := by
  unfold create
  cases named : isName name with
  | false => exact .inl ⟨rfl, rfl⟩
  | true =>
    refine .inr ⟨rfl, ?_⟩
    simp only [Bool.not_true, Bool.false_eq_true, if_false]
    cases there : b.topics.get? (b.topicArn name) with
    | some t =>
      have differ : (!p.tags.isEmpty && decide (t.tags ≠ .ofTags p.tags)) = true ↔
          ¬(p.tags = [] ∨ t.tags = .ofTags p.tags) := by
        simp
      dsimp only
      refine .inl ⟨t, rfl, ?_⟩
      split
      · next h => exact .inl ⟨differ.1 h, rfl⟩
      · next h => exact .inr ⟨Decidable.not_not.1 (mt differ.2 h), rfl⟩
    | none =>
      refine .inr ⟨rfl, ?_⟩
      rcases Store.create_cases b.topics (b.topicArn name) (name, p) with ⟨e, taken | refused, h⟩ | ⟨t, -, made, h⟩
      · exact absurd there taken
      · exact .inl ⟨e, refused, by rw [h]; rfl⟩
      · exact .inr ⟨t, made, by rw [h]; rfl⟩

theorem create_effect (b : Board) (name : String) (p : New) :
    Effect b (.create name p) (b.create name p).done := by
  rcases b.create_cases name p with
    ⟨-, h⟩ | ⟨named, ⟨t, there, ⟨-, h⟩ | ⟨same, h⟩⟩ | ⟨free, ⟨e, -, h⟩ | ⟨t, made, h⟩⟩⟩ <;> rw [h]
  · exact .refused _
  · exact .refused _
  · exact .found there same
  · exact .refused e
  · exact .created named free made

theorem setDisplayName_effect (b : Board) (arn : String) (displayName : Option String) :
    Effect b (.setDisplayName arn displayName) (b.setDisplayName arn displayName) := by
  unfold setDisplayName
  rcases Store.update_cases b.topics arn displayName with ⟨-, h⟩ | ⟨t, t', there, ⟨ht, h⟩ | ⟨e, ht, h⟩⟩
  · rw [h]; exact .refused _
  · rw [h]
    cases ht
    exact .displayed there
  · cases ht

theorem publish_effect (b : Board) (arn : String) (subject : Option String) (text id : String)
    (time : Instant) : Effect b (.publish arn subject text id time) (b.publish arn subject text id time).done := by
  rcases publish_cases b arn subject text id time with ⟨-, h⟩ | ⟨t, there, h⟩
  · rw [h]; exact .refused _
  · rw [h]; exact .published there

/-- Tags are refused because the topic is missing or may not have them, and nothing has changed then. -/
theorem tag_cases (b : Board) (arn : String) (tags : List Tag) :
    (∃ e, b.tag arn tags = .fail e b ∧ ∀ t all, b.topics.get? arn = some t →
        TagPolicy.standard.merged t.tags (.ofTags tags) ≠ .ok all) ∨
      ∃ t all, b.topics.get? arn = some t ∧ TagPolicy.standard.merged t.tags (.ofTags tags) = .ok all ∧
        b.tag arn tags = .ok () (b.put arn { t with tags := all }) := by
  unfold tag
  rcases tagged_cases b arn with ⟨missing, h⟩ | ⟨t, there, h⟩
  · refine .inl ⟨_, by rw [h]; rfl, fun t all there => ?_⟩
    cases missing.symm.trans there
  · rw [h, Outcome.guard_ok]
    rcases Outcome.guard_mapError_cases (TagPolicy.standard.merged t.tags (.ofTags tags))
      TopicError.ofTags b _ with ⟨v, hv, h⟩ | ⟨all, merged, h⟩
    · refine .inl ⟨_, h, fun t' all there' merged => ?_⟩
      cases there.symm.trans there'
      cases hv.symm.trans merged
    · refine .inr ⟨t, all, there, merged, ?_⟩
      rw [h, Store.modify_of_get? there]
      rfl

theorem untag_cases (b : Board) (arn : String) (keys : List String) :
    (∃ e, b.untag arn keys = .fail e b ∧ b.topics.get? arn = none) ∨
      ∃ t, b.topics.get? arn = some t ∧
        b.untag arn keys = .ok () (b.put arn { t with tags := t.tags.eraseKeys keys }) := by
  unfold untag
  rcases tagged_cases b arn with ⟨missing, h⟩ | ⟨t, there, h⟩
  · exact .inl ⟨_, by rw [h]; rfl, missing⟩
  · refine .inr ⟨t, there, ?_⟩
    rw [h, Outcome.guard_ok, Store.modify_of_get? there]
    rfl

/-- Every operation obeys a rule. -/
theorem perform_effect (b : Board) (op : Op) : Effect b op (b.perform op) := by
  cases op with
  | create name p => exact create_effect b name p
  | setDisplayName arn displayName => exact setDisplayName_effect b arn displayName
  | delete arn => exact .deleted
  | publish arn subject text id time => exact publish_effect b arn subject text id time
  | tag arn tags =>
    rw [perform]
    rcases tag_cases b arn tags with ⟨e, h, -⟩ | ⟨t, all, there, merged, h⟩
    · rw [h]; exact .refused e
    · rw [h]; exact .tagged there merged
  | untag arn keys =>
    rw [perform]
    rcases untag_cases b arn keys with ⟨e, h, -⟩ | ⟨t, there, h⟩
    · rw [h]; exact .refused e
    · rw [h]; exact .untagged there

/-! ### Where topics stand -/

/-- The board belongs to a place, and its topics stand under the resource names made of their names, which
are legal. -/
structure Filed (scope : Scope) (b : Board) : Prop where
  home : b.scope = scope
  each : b.topics.Each fun arn t => t.arn = arn ∧ arn = scope.arn "sns" t.name ∧ isName t.name = true

theorem filed_blank (scope : Scope) : Filed scope (blank scope) :=
  ⟨rfl, Store.each_new _ _⟩

theorem Effect.filed {scope : Scope} {b : Board} {op : Op} {o : Outcome Board TopicError Unit}
    (effect : Effect b op o) (h : Filed scope b) : Filed scope o.state := by
  cases effect with
  | refused e => exact h
  | found _ _ => exact h
  | created named _ made =>
    obtain ⟨-, rfl⟩ := make_eq_ok_iff.1 made
    refine ⟨h.home, h.each.put ⟨rfl, ?_, named⟩⟩
    rw [topicArn, h.home]
  | deleted => exact ⟨h.home, h.each.drop _⟩
  | published _ => exact ⟨h.home, h.each⟩
  | displayed there | tagged there _ | untagged there =>
    have filed := h.each _ _ there
    exact ⟨h.home, h.each.put filed⟩

theorem Filed.run {scope : Scope} {b : Board} (h : Filed scope b) (ops : List Op) :
    Filed scope (b.run ops) := by
  refine List.foldlRecOn ops step h fun b hb op _ => ?_
  exact (perform_effect b op).filed hb

end MockCloud.Topic.Board
