import MockCloud.Proofs.Tag.Violation
import MockCloud.Proofs.Topic.Operation

/-! # Making a topic twice

A topic that is asked for again is given back, as long as it is not asked for with other tags. The tags of a topic are
a map and those of a call are a list, which may name a key several times; the topic has been made with the map of the
list, so the same list is never taken for other tags.

* `LegalName`, `isName_iff`: the names that topics may have.
* `create_result_iff`: when a topic is given.
* `create_again`: a topic that has been given is given again, and nothing changes then.
* `creation_idempotent`: so it is where a run has led, and topics stand under their names there. -/

namespace MockCloud

namespace Topic

/-! ### Names -/

/-- A letter, a digit, a dash or an underscore, all of them ASCII characters. -/
def NameChar (c : Char) : Prop :=
  c.isAlpha ∨ c.isDigit ∨ c = '-' ∨ c = '_'

/-- One or more characters of names, perhaps with `.fifo` behind them; 256 characters at most. -/
structure LegalName (name : String) : Prop where
  short : name.toList.length ≤ 256
  chars : ∃ base : String, base ≠ "" ∧ (∀ c ∈ base.toList, NameChar c) ∧ (name = base ∨ name = base ++ ".fifo")

theorem all_nameChar_iff {cs : List Char} :
    (cs.all fun c => c.isAlphanum || c = '-' || c = '_') = true ↔ ∀ c ∈ cs, NameChar c := by
  simp [NameChar, Char.isAlphanum, or_assoc]

theorem isName_of_not_endsWith {name : String} (plain : Text.endsWith name ".fifo" = false) :
    isName name = true ↔ name.toList ≠ [] ∧ name.toList.length ≤ 256 ∧ ∀ c ∈ name.toList, NameChar c := by
  unfold isName
  rw [plain, ← all_nameChar_iff]
  simp [and_assoc]

theorem isName_append_fifo {base : String} :
    isName (base ++ ".fifo") = true ↔
      base.toList ≠ [] ∧ (base ++ ".fifo").toList.length ≤ 256 ∧ ∀ c ∈ base.toList, NameChar c := by
  have ends : Text.endsWith (base ++ ".fifo") ".fifo" = true := Text.endsWith_iff.2 ⟨base, rfl⟩
  unfold isName
  rw [ends, ← all_nameChar_iff]
  simp [and_assoc]

/-- The dot of `.fifo` is no character of names. -/
theorem not_endsWith_fifo {base : String} (chars : ∀ c ∈ base.toList, NameChar c) :
    Text.endsWith base ".fifo" = false := by
  refine Bool.eq_false_iff.2 fun ends => ?_
  obtain ⟨front, rfl⟩ := Text.endsWith_iff.1 ends
  exact absurd (chars '.' (by simp)) (by simp [NameChar])

/-- **The names of topics.** -/
theorem isName_iff {name : String} : isName name = true ↔ LegalName name := by
  constructor
  · intro named
    cases ends : Text.endsWith name ".fifo" with
    | true =>
      obtain ⟨base, rfl⟩ := Text.endsWith_iff.1 ends
      obtain ⟨some, short, chars⟩ := isName_append_fifo.1 named
      exact ⟨short, base, by simpa using some, chars, .inr rfl⟩
    | false =>
      obtain ⟨some, short, chars⟩ := (isName_of_not_endsWith ends).1 named
      exact ⟨short, name, by simpa using some, chars, .inl rfl⟩
  · rintro ⟨short, base, some, chars, rfl | rfl⟩
    · exact (isName_of_not_endsWith (not_endsWith_fifo chars)).2 ⟨by simpa using some, short, chars⟩
    · exact isName_append_fifo.2 ⟨by simpa using some, short, chars⟩

namespace Board

/-! ### One call -/

variable {b : Board} {name : String} {p : New} {t : Topic}

/-- A topic is given exactly if its name is legal and it is there, with the tags that are given if any are, or it is
not there and the tags that are given keep the rules. -/
theorem create_result_iff :
    (∃ t, (b.create name p).result = .ok t) ↔
      LegalName name ∧
        ((∃ t, b.topics.get? (b.topicArn name) = some t ∧ (p.tags = [] ∨ t.tags = .ofTags p.tags)) ∨
          b.topics.get? (b.topicArn name) = none ∧ (TagMap.ofTags p.tags).Legal) := by
  rw [← isName_iff, ← TagPolicy.checkReplacement_eq_ok_iff]
  rcases b.create_cases name p with
    ⟨named, h⟩ | ⟨named, ⟨t, there, ⟨differ, h⟩ | ⟨same, h⟩⟩ | ⟨free, ⟨e, refused, h⟩ | ⟨t, made, h⟩⟩⟩
  · simp [h, named]
  · simp [h, there, differ]
  · simp [h, named, there, same]
  · have unchecked : TagPolicy.standard.checkReplacement (.ofTags p.tags) ≠ .ok () := by
      intro checked
      cases refused.symm.trans (make_eq_ok_iff.2 ⟨checked, rfl⟩)
    simp [h, free, unchecked]
  · simp [h, named, free, (make_eq_ok_iff.1 made).1]

/-- A topic that is there is given back, and nothing changes. -/
theorem create_of_get? (named : isName name = true) (there : b.topics.get? (b.topicArn name) = some t)
    (same : p.tags = [] ∨ t.tags = .ofTags p.tags) : b.create name p = .ok t b := by
  rcases b.create_cases name p with ⟨unnamed, -⟩ | ⟨-, ⟨t', there', ⟨differ, -⟩ | ⟨-, h⟩⟩ | ⟨free, -⟩⟩
  · cases named.symm.trans unnamed
  · cases there.symm.trans there'
    exact absurd same differ
  · cases there.symm.trans there'
    exact h
  · cases there.symm.trans free

/-- **A topic that has been given is given again**, and nothing changes then. -/
theorem create_again (given : (b.create name p).result = .ok t) :
    (b.create name p).state.create name p = .ok t (b.create name p).state := by
  rcases b.create_cases name p with
    ⟨-, h⟩ | ⟨named, ⟨t', there, ⟨-, h⟩ | ⟨same, h⟩⟩ | ⟨-, ⟨e, -, h⟩ | ⟨t', made, h⟩⟩⟩ <;> rw [h] at given ⊢ <;> cases given
  · exact h
  -- the tags that it has been made with are the map of the list that is given again
  · obtain ⟨-, rfl⟩ := make_eq_ok_iff.1 made
    exact create_of_get? named ((Store.get?_put ..).trans (if_pos rfl)) (.inr rfl)

/-- A topic that is given has the name that it is asked for by. -/
theorem name_of_create {scope : Scope} (h : Filed scope b) (given : (b.create name p).result = .ok t) :
    t.name = name := by
  rcases b.create_cases name p with
    ⟨-, h'⟩ | ⟨-, ⟨t', there, ⟨-, h'⟩ | ⟨-, h'⟩⟩ | ⟨-, ⟨e, -, h'⟩ | ⟨t', made, h'⟩⟩⟩ <;> rw [h'] at given <;> cases given
  · obtain ⟨-, own, -⟩ := h.each _ _ there
    rw [topicArn, h.home] at own
    exact (Scope.arn_inj.1 own).symm
  · rw [(make_eq_ok_iff.1 made).2]

/-- A topic of another name is there after the call exactly if it has been there before, with all that it has. -/
theorem get?_create_iff {arn : String} (other : t.name ≠ name) :
    (b.create name p).state.topics.get? arn = some t ↔ b.topics.get? arn = some t := by
  rcases b.create_cases name p with
    ⟨-, h⟩ | ⟨-, ⟨_, -, ⟨-, h⟩ | ⟨-, h⟩⟩ | ⟨free, ⟨e, -, h⟩ | ⟨t', made, h⟩⟩⟩ <;> rw [h]
  · rfl
  · rfl
  · rfl
  · rfl
  · rw [Outcome.state_ok, put, Store.get?_put]
    split
    · next own =>
      obtain ⟨-, rfl⟩ := make_eq_ok_iff.1 made
      refine iff_of_false ?_ ?_
      · rintro ⟨⟩
        exact other rfl
      · rw [own, free]
        exact (Option.some_ne_none t).symm
    · rfl

/-! ### After a run -/

/-- **Making a topic is idempotent.** In every state that a run reaches, a topic is given exactly if its name is legal
and it is there, with the tags that are given if any are, or it is not there and the tags may be given to it. Then the
same call gives the same topic again and changes nothing. Every topic stands under the resource name of its own name,
which is legal, and the making of one leaves those of other names as they are. -/
theorem creation_idempotent (scope : Scope) (ops : List Op) :
    let b := (blank scope).run ops
    (∀ name p,
      ((∃ t, (b.create name p).result = .ok t) ↔ LegalName name ∧
        ((∃ t, b.topics.get? (b.topicArn name) = some t ∧ (p.tags = [] ∨ t.tags = .ofTags p.tags)) ∨
          b.topics.get? (b.topicArn name) = none ∧ (TagMap.ofTags p.tags).Legal)) ∧
      ∀ t, (b.create name p).result = .ok t →
        t.name = name ∧ (b.create name p).state.create name p = .ok t (b.create name p).state) ∧
    (∀ arn t, b.topics.get? arn = some t → t.arn = arn ∧ arn = b.topicArn t.name ∧ LegalName t.name) ∧
    ∀ name p arn t, t.name ≠ name →
      ((b.create name p).state.topics.get? arn = some t ↔ b.topics.get? arn = some t) := by
  intro b
  have filed : Filed scope b := (filed_blank scope).run ops
  refine ⟨fun name p => ⟨create_result_iff, fun t given => ⟨name_of_create filed given, create_again given⟩⟩,
    fun arn t there => ?_, fun name p arn t => get?_create_iff⟩
  obtain ⟨own, under, named⟩ := filed.each arn t there
  refine ⟨own, ?_, isName_iff.1 named⟩
  rw [topicArn, filed.home]
  exact under

/-- A topic is made with a list of tags that names a key twice, and its tags are changed and changed back. -/
def alerts (arn : String) (tags : List Tag) : List Op :=
  [.create "alerts.fifo" { tags }, .tag arn [⟨"team", "c"⟩], .setDisplayName arn (some "Alerts"), .tag arn tags]

/-- The list that the topic has been made with is no list of other tags by then. -/
theorem creation_idempotent_alerts :
    let site : Scope := { account := "123456789012", region := "us-east-1" }
    let arn := "arn:aws:sns:us-east-1:123456789012:alerts.fifo"
    let tags : List Tag := [⟨"team", "a"⟩, ⟨"team", "b"⟩]
    let b := (blank site).run (alerts arn tags)
    let t : Topic := ⟨arn, "alerts.fifo", some "Alerts", .ofTags tags⟩
    (b.create "alerts.fifo" { tags }).result = .ok t ∧ b.topics.get? arn = some t ∧ t.name ≠ "billing" ∧
      (b.create "alerts.fifo" { tags }).state.create "alerts.fifo" { tags } =
        .ok t (b.create "alerts.fifo" { tags }).state ∧
      LegalName "alerts.fifo" ∧ (b.create "billing" {}).state.topics.get? arn = some t := by
  intro site arn tags b t
  have start : (blank site).run (alerts arn tags) = b := rfl
  have given : (b.create "alerts.fifo" { tags }).result = .ok t := by decide +kernel
  have there : b.topics.get? arn = some t := by decide +kernel
  have other : t.name ≠ "billing" := by decide
  obtain ⟨again, named, others⟩ := creation_idempotent site (alerts arn tags)
  rw [start] at again named others
  exact ⟨given, there, other, ((again _ _).2 t given).2, (named arn t there).2.2, (others _ _ arn t other).2 there⟩

end Board

end Topic

end MockCloud
