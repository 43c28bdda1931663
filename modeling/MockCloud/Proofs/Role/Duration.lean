import MockCloud.Proofs.Role.Filing

/-! # How long sessions of a role may last

A change of a role is refused if the session duration that it brings is too short or too long. A role is made with
any duration. So a role has a good one unless it has been made with a bad one and been given no other since.

* `Lasts seconds`: the durations that a change may bring.
* `settings d name ops`: the durations that the run `ops` has set under a name, in order.
* `Tracked.run`: in every run a role has the last one, and the changes have brought good ones.
* `duration_iff`: a stored role is in order, and which of them have a good duration. -/

namespace MockCloud.Role

/-- A session duration within the bounds. -/
def Lasts (seconds : Nat) : Prop :=
  3600 ≤ seconds ∧ seconds ≤ 43200

instance (seconds : Nat) : Decidable (Lasts seconds) :=
  inferInstanceAs (Decidable (_ ∧ _))

/-- How a session duration can be set. -/
inductive Setting where
  | made (seconds : Nat)
  | changed (seconds : Nat)
  deriving DecidableEq

/-- The duration that has been set. -/
def Setting.seconds : Setting → Nat
  | made seconds => seconds
  | changed seconds => seconds

theorem lasts_of_lasting {c : Change} {seconds : Nat} (lasting : c.lasting = true)
    (brought : c.maxSessionDuration = some seconds) : Lasts seconds := by
  unfold Change.lasting at lasting
  rw [brought] at lasting
  exact of_decide_eq_true lasting

namespace Directory

/-- What an operation with a result has set under a name: nothing, if it has failed. -/
def Op.setting? (op : Op) (name : String) (result : Except RoleError Unit) : Option Setting :=
  match result with
  | .error _ => none
  | .ok () =>
    match op with
    | .create own p => if own = name then some (.made (p.maxSessionDuration.getD usualSessionDuration)) else none
    | .update own c => if own = name then c.maxSessionDuration.map .changed else none
    | .updatePolicy .. | .delete _ | .tag .. | .untag .. => none

/-- The session durations that a run has set under a name, in order. -/
def settings (d : Directory) (name : String) : List Op → List Setting
  | [] => []
  | op :: ops => (op.setting? name (d.perform op).result).toList ++ (d.step op).settings name ops

/-- The role under the name has the duration that was set last. If a change has set it, it is within the bounds. -/
def Tracked (name : String) (set : List Setting) (d : Directory) : Prop :=
  ∀ r, d.roles.get? name = some r → ∃ last, set.getLast? = some last ∧ last.seconds = r.maxSessionDuration ∧
    ∀ seconds, last = .changed seconds → Lasts seconds

section

variable {name : String} {set : List Setting} {d : Directory}

theorem tracked_blank (scope : Scope) (name : String) : Tracked name [] (blank scope) :=
  nofun

/-- An operation that sets nothing. -/
theorem Tracked.unset (tracked : Tracked name set d) : Tracked name (set ++ []) d := by
  rwa [List.append_nil]

theorem Tracked.put_of_ne (tracked : Tracked name set d) {own : String} (ne : own ≠ name) (r : Role) :
    Tracked name set (d.put own r) := by
  intro r' there
  rw [get?_put, if_neg (Ne.symm ne)] at there
  exact tracked r' there

/-- A role that is put in place of another keeps track if it has its session duration. -/
theorem Tracked.put_of_same (tracked : Tracked name set d) {own : String} {r r' : Role}
    (there : d.roles.get? own = some r) (same : r'.maxSessionDuration = r.maxSessionDuration) :
    Tracked name set (d.put own r') := by
  by_cases named : own = name
  · intro found put
    rw [get?_put, if_pos named.symm, Option.some.injEq] at put
    rw [← put, same]
    exact tracked r (named ▸ there)
  · exact tracked.put_of_ne named r'

theorem Tracked.drop (tracked : Tracked name set d) (own : String) : Tracked name set (d.drop own) := by
  intro r there
  change (d.roles.drop own).get? name = some r at there
  rw [Store.get?_drop] at there
  exact tracked r (Option.ite_none_left_eq_some.1 there).2

/-- A role that is put after a setting keeps track if it has the duration that is set. -/
theorem tracked_set {s : Setting} {r : Role} (own : s.seconds = r.maxSessionDuration)
    (lasts : ∀ seconds, s = .changed seconds → Lasts seconds) : Tracked name (set ++ [s]) (d.put name r) := by
  intro found put
  rw [get?_put, if_pos rfl, Option.some.injEq] at put
  exact ⟨s, List.getLast?_concat, put ▸ own, lasts⟩

/-- One operation, by cases on its rules. -/
theorem Tracked.step (tracked : Tracked name set d) (op : Op) :
    Tracked name (set ++ (op.setting? name (d.perform op).result).toList) (d.step op) := by
  have effect := d.perform_effect op
  unfold Directory.step
  generalize d.perform op = o at effect ⊢
  cases effect with
  | refused e => exact tracked.unset
  | @created own p r free made =>
    obtain ⟨-, rfl⟩ := make_eq_ok made
    by_cases named : own = name
    · subst named
      simp only [Outcome.result_ok, Outcome.state_ok, Op.setting?, if_true, Option.toList_some]
      exact tracked_set rfl nofun
    · simpa [Op.setting?, named] using tracked.put_of_ne named _
  | @changed own c r there readable lasting =>
    by_cases named : own = name
    · subst named
      simp only [Outcome.result_ok, Outcome.state_ok, Op.setting?, if_true]
      cases brought : c.maxSessionDuration with
      | none => exact .unset (tracked.put_of_same there (by rw [Role.changed, brought]; rfl))
      | some seconds =>
        refine tracked_set (by rw [Role.changed, brought]; rfl) ?_
        rintro _ ⟨⟩
        exact lasts_of_lasting lasting brought
    · simpa [Op.setting?, named] using tracked.put_of_ne named _
  | changeLeft there _ _ _ => exact .unset (tracked.put_of_same there rfl)
  | policyChanged there _ => exact .unset (tracked.put_of_same there rfl)
  | deleted _ => exact .unset (tracked.drop _)
  | tagged _ there _ | untagged there => exact .unset (tracked.put_of_same there rfl)

/-- **A run keeps track** of the session duration under a name. -/
theorem Tracked.run (tracked : Tracked name set d) (ops : List Op) :
    Tracked name (set ++ d.settings name ops) (d.run ops) := by
  induction ops generalizing set d with
  | nil => simpa [settings, Directory.run] using tracked
  | cons op ops ih =>
    rw [settings, ← List.append_assoc]
    exact ih (tracked.step op)

/-- **What holds of stored roles.** After a run, a role that stands under a name has this name, a policy that can be
read, a path between slashes and the resource name made of path and name. Its session duration is the last that has
been set under the name, and it is within the bounds unless the role was made with one that is not and no change has
set another. -/
theorem duration_iff (scope : Scope) (ops : List Op) (name : String) (r : Role)
    (there : ((blank scope).run ops).roles.get? name = some r) :
    Recorded scope name r ∧
      ∃ last, ((blank scope).settings name ops).getLast? = some last ∧ last.seconds = r.maxSessionDuration ∧
        (Lasts r.maxSessionDuration ↔ ∀ seconds, last = .made seconds → Lasts seconds) := by
  obtain ⟨last, is, own, lasts⟩ := (tracked_blank scope name).run ops r there
  refine ⟨((filed_blank scope).run ops).each name r there, last, is, own, ?_⟩
  rw [← own]
  cases last with
  | made seconds => exact ⟨fun h _ same => by cases same; exact h, fun h => h seconds rfl⟩
  | changed seconds => exact iff_of_true (lasts seconds rfl) nofun

end

/-! ### A role made for a minute -/

/-- A role made for a minute is given an hour. -/
def lengthened : List Op :=
  [.create "build" { policy := "{}", maxSessionDuration := some 60, idStem := "A", created := ⟨0, 0⟩ },
    .update "build" { maxSessionDuration := some 3600 }]

theorem duration_lengthened :
    ∃ r, ((blank account).run lengthened).roles.get? "build" = some r ∧ Recorded account "build" r ∧
      Lasts r.maxSessionDuration := by
  have set : (blank account).settings "build" lengthened = [.made 60, .changed 3600] := by
    decide +kernel
  have found : (((blank account).run lengthened).roles.get? "build").isSome = true := by
    decide +kernel
  obtain ⟨r, there⟩ := Option.isSome_iff_exists.1 found
  obtain ⟨recorded, last, is, -, lasts⟩ := duration_iff account lengthened "build" r there
  rw [set] at is
  cases is
  exact ⟨r, there, recorded, lasts.2 nofun⟩

/-- A role is made for a minute. -/
def short : List Op :=
  [.create "build" { policy := "{}", maxSessionDuration := some 60, idStem := "A", created := ⟨0, 0⟩ }]

theorem not_always_lasts :
    ¬∀ (scope : Scope) (ops : List Op) (name : String) (r : Role),
      ((blank scope).run ops).roles.get? name = some r → Recorded scope name r ∧ Lasts r.maxSessionDuration := by
  intro always
  have seen : (((blank account).run short).roles.get? "build").map maxSessionDuration = some 60 := by
    decide +kernel
  obtain ⟨r, there, minute⟩ := Option.map_eq_some_iff.1 seen
  obtain ⟨-, enough, -⟩ := always account short "build" r there
  rw [minute] at enough
  exact absurd enough (by decide)

end Directory

end MockCloud.Role
