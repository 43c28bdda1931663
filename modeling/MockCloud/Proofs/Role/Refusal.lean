import MockCloud.Proofs.Role.Operation

/-! # Refused operations on roles

An operation on roles that ends in an error leaves every role as it was, with one exception: a change that
brings a new policy or description together with a session duration out of bounds. The policy and the
description are written before the duration is looked at.

* `Tears d op`: `op` is such a change of a role of `d`.
* `failed_step_eq_iff`: a refused operation changes nothing exactly if it does not tear, and one that tears
  writes the policy and the description of its role and nothing else. -/

namespace MockCloud.Role

/-- The change brings a policy or a description that the role does not have. -/
def Change.Renews (c : Change) (r : Role) : Prop :=
  (∃ document, c.policy = some document ∧ document ≠ r.policy) ∨
    ∃ text, c.description = some text ∧ r.description ≠ some text

theorem retexted_eq_self_iff (r : Role) (c : Change) : r.retexted c = r ↔ ¬c.Renews r := by
  have policy : c.policy.getD r.policy = r.policy ↔ ∀ p, c.policy = some p → p = r.policy := by
    cases c.policy <;> simp
  have description : (c.description <|> r.description) = r.description ↔
      ∀ t, c.description = some t → r.description = some t := by
    cases c.description <;> simp [eq_comm]
  have fields : r.retexted c = r ↔ c.policy.getD r.policy = r.policy ∧
      (c.description <|> r.description) = r.description := by
    constructor
    · intro h
      exact ⟨congrArg Role.policy h, congrArg Role.description h⟩
    · rintro ⟨hp, hd⟩
      unfold retexted
      rw [hp, hd]
  rw [fields, policy, description]
  simp only [Change.Renews, not_or, not_exists, not_and, ne_eq, Decidable.not_not]

namespace Directory

/-- The operation changes a role of the directory and stops at the session duration, after it has written
another policy or description. -/
def Tears (d : Directory) (op : Op) : Prop :=
  ∃ name c r, op = .update name c ∧ d.roles.get? name = some r ∧ c.readable = true ∧
    c.lasting = false ∧ c.Renews r

theorem put_eq_self_iff {d : Directory} {name : String} {r r' : Role} (there : d.roles.get? name = some r) :
    d.put name r' = d ↔ r' = r := by
  constructor
  · intro same
    have now : (d.put name r').roles.get? name = some r' := by rw [get?_put, if_pos rfl]
    rw [same, there] at now
    exact (Option.some.inj now).symm
  · rintro rfl
    exact put_of_get? there

theorem update_of_not_lasting {d : Directory} {name : String} {c : Change} {r : Role}
    (there : d.roles.get? name = some r) (readable : c.readable = true) (off : c.lasting = false) :
    ∃ seconds, d.perform (.update name c) = .fail (.invalidDuration seconds) (d.put name (r.retexted c)) := by
  obtain ⟨seconds, stops⟩ : ∃ seconds, r.change c = .fail (.invalidDuration seconds) (r.retexted c) := by
    rcases change_cases r c with ⟨unread, -⟩ | ⟨-, seconds, -, -, h⟩ | ⟨-, lasting, -⟩
    · cases readable.symm.trans unread
    · exact ⟨seconds, h⟩
    · cases lasting.symm.trans off
  refine ⟨seconds, ?_⟩
  rw [perform, update]
  rcases Store.update_cases d.roles name c with ⟨missing, -⟩ | ⟨r', b, there', ⟨hc, -⟩ | ⟨e, hc, h⟩⟩
  · cases missing.symm.trans there
  all_goals
    cases there.symm.trans there'
    cases stops.symm.trans hc
  rw [h]
  rfl

/-- **What a refused operation leaves.** It leaves the directory as it was exactly if it does not tear.
A tearing operation is refused for its session duration and leaves the new texts in its role, and in no
other. -/
theorem failed_step_eq_iff (d : Directory) (op : Op) (e : RoleError)
    (failed : (d.perform op).result = .error e) :
    (d.step op = d ↔ ¬d.Tears op) ∧
      (d.Tears op → ∃ name c r seconds, op = .update name c ∧ d.roles.get? name = some r ∧
        e = .invalidDuration seconds ∧ d.step op = d.put name (r.retexted c)) := by
  by_cases tears : d.Tears op
  · have ⟨name, c, r, is, there, readable, off, renews⟩ := tears
    subst is
    obtain ⟨seconds, h⟩ := update_of_not_lasting there readable off
    have left : d.step (.update name c) = d.put name (r.retexted c) := by rw [step, h]; rfl
    rw [h] at failed
    refine ⟨?_, fun _ => ⟨name, c, r, seconds, rfl, there, (Except.error.inj failed).symm, left⟩⟩
    rw [left, put_eq_self_iff there, retexted_eq_self_iff]
    exact ⟨fun same => absurd renews same, fun untorn => absurd tears untorn⟩
  · refine ⟨⟨fun _ => tears, fun _ => ?_⟩, fun h => absurd h tears⟩
    have effect := d.perform_effect op
    unfold step
    generalize d.perform op = o at effect failed ⊢
    cases effect with
    | refused e' => rfl
    | @changeLeft name c r seconds there readable brought off =>
      have same : r.retexted c = r :=
        (retexted_eq_self_iff r c).2 fun renews => tears ⟨name, c, r, rfl, there, readable, off, renews⟩
      rw [Outcome.state_fail, same, put_of_get? there]
    | _ => cases failed

/-! ### A torn change -/

/-- A directory with one role, which has no description. -/
def withBuilder : Directory :=
  (blank { account := "123456789012", region := globalRegion }).run
    [.create "builder" { policy := "{}", idStem := "BUILDER", created := ⟨0, 0⟩ }]

/-- A change to a session duration of a minute, with a description or without. -/
def toOneMinute (description : Option String) : Op :=
  .update "builder" { description, maxSessionDuration := some 60 }

theorem toOneMinute_without_text :
    (withBuilder.perform (toOneMinute none)).result = .error (.invalidDuration 60) ∧
      withBuilder.step (toOneMinute none) = withBuilder := by
  have failed : (withBuilder.perform (toOneMinute none)).result = .error (.invalidDuration 60) := by
    rfl
  refine ⟨failed, (failed_step_eq_iff _ _ _ failed).1.2 ?_⟩
  rintro ⟨name, c, r, is, -, -, -, ⟨p, hp, -⟩ | ⟨t, ht, -⟩⟩
  all_goals cases is
  · cases hp
  · cases ht

/-- The description stays although the change is refused. -/
theorem toOneMinute_tears :
    ¬∀ (scope : Scope) (ops : List Op) (op : Op) (e : RoleError),
      (((blank scope).run ops).perform op).result = .error e →
        ((blank scope).run ops).step op = (blank scope).run ops := by
  intro unchanged
  have same : withBuilder.step (toOneMinute (some "builds")) = withBuilder :=
    unchanged _ _ _ (.invalidDuration 60) rfl
  have before : (withBuilder.roles.get? "builder").bind (·.description) = none := by rfl
  have after : ((withBuilder.step (toOneMinute (some "builds"))).roles.get? "builder").bind
      (·.description) = some "builds" := by rfl
  rw [same, before] at after
  cases after

end Directory

end MockCloud.Role
