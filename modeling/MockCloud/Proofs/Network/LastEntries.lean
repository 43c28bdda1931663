import MockCloud.Proofs.Network.Entries

/-! # The last entries of default lists

A default access list starts with an entry for each direction that denies what no other entry allows. Its number is
above the numbers that callers may use, so it can be neither created again nor replaced. It can be deleted: the
number of an entry is not checked when it goes.

* `Struck`: the run deletes the last entry of a list for a direction.
* `TableStep.keepsLast`: what one operation does to the last entry of one list.
* `mem_lastEntry_iff`: a default list has its last entries unless they are struck. -/

namespace MockCloud.Network

/-- The entry of a default list that comes after all others of its direction. -/
def lastEntry (egress : Bool) : AclEntry :=
  .catchAll defaultRuleNumber .deny egress

/-! ### Who loses a last entry -/

/-- The operation deletes the last entry of the list for the direction. -/
def Strikes (n : Network) (op : Op) (k : String) (egress : Bool) : Prop :=
  op = .deleteEntry k defaultRuleNumber egress ∧ (n.perform op).result = .ok ()

/-- Some operation of the run deletes the last entry of the list for the direction, and the list is there ever
since. -/
def Struck (n : Network) (ops : List Op) (k : String) (egress : Bool) : Prop :=
  ∃ before op after, ops = before ++ op :: after ∧ Strikes (n.run before) op k egress ∧
    ∀ since, since <+: after → ∃ a, (n.run (before ++ op :: since)).acls.get? k = some a

section

variable {n : Network} {ops : List Op} {op : Op} {k : String} {egress : Bool}

theorem Struck.there (h : Struck n ops k egress) : ∃ a, (n.run ops).acls.get? k = some a := by
  obtain ⟨before, op, after, rfl, -, there⟩ := h
  exact there after (List.prefix_refl _)

theorem struck_concat : Struck n (ops ++ [op]) k egress ↔
    (∃ a, (n.run (ops ++ [op])).acls.get? k = some a) ∧ (Struck n ops k egress ∨ Strikes (n.run ops) op k egress) := by
  constructor
  · intro struck
    refine ⟨struck.there, ?_⟩
    obtain ⟨before, op', after, split, strikes, there⟩ := struck
    rcases concat_eq_append_cons_iff.1 split with ⟨rfl, rfl, rfl⟩ | ⟨after, rfl, rfl⟩
    · exact .inr strikes
    · exact .inl ⟨before, op', after, rfl, strikes,
        fun since early => there since (early.trans (List.prefix_append _ _))⟩
  · rintro ⟨now, ⟨before, op', after, rfl, strikes, there⟩ | strikes⟩
    · rw [List.append_assoc, List.cons_append] at now
      refine ⟨before, op', after ++ [op], by simp, strikes, fun since early => ?_⟩
      rcases List.prefix_concat_iff.1 early with rfl | early
      · exact now
      · exact there since early
    · refine ⟨ops, op, [], rfl, strikes, fun since early => ?_⟩
      rw [List.prefix_nil.1 early]
      exact now

end

/-! ### Along a run -/

/-- The entries of a default list have the last one for the direction unless it is struck, and no other under its
number. -/
structure KeepsLast (egress : Bool) (entries : List AclEntry) (struck : Prop) : Prop where
  mem_iff : lastEntry egress ∈ entries ↔ ¬struck
  only : ∀ e ∈ entries, e.key = (defaultRuleNumber, egress) → e = lastEntry egress

section

variable {k : String} {op : Op} {egress : Bool}

theorem keepsLast_defaultEntries {struck : Prop} (never : ¬struck) : KeepsLast egress defaultEntries struck where
  mem_iff := iff_of_true (by revert egress; decide) never
  only := by revert egress; decide

/-- A number for callers is not that of a last entry. -/
theorem AclEntry.Sound.not_last {e : AclEntry} (sound : e.Sound maxRuleNumber) :
    e.key ≠ (defaultRuleNumber, egress) := by
  intro last
  have under : maxRuleNumber < defaultRuleNumber := by decide
  have le := sound.le_last
  rw [show e.ruleNumber = defaultRuleNumber from congrArg Prod.fst last] at le
  omega

/-- An entry with another key makes no difference. -/
theorem keepsLast_middle_iff {before after : List AclEntry} {x : AclEntry} {struck : Prop}
    (other : x.key ≠ (defaultRuleNumber, egress)) :
    KeepsLast egress (before ++ x :: after) struck ↔ KeepsLast egress (before ++ after) struck := by
  have mem_iff {e : AclEntry} (last : e.key = (defaultRuleNumber, egress)) :
      e ∈ before ++ x :: after ↔ e ∈ before ++ after := by
    have : e ≠ x := fun same => other (same ▸ last)
    simp [this]
  constructor
  · rintro ⟨mem, only⟩
    exact ⟨(mem_iff rfl).symm.trans mem, fun e he last => only e ((mem_iff last).2 he) last⟩
  · rintro ⟨mem, only⟩
    exact ⟨(mem_iff rfl).trans mem, fun e he last => only e ((mem_iff last).1 he) last⟩

/-- **One operation and one last entry**: a default list has it afterwards if the list is new, or if it had it before
and the operation does not delete it. -/
theorem TableStep.keepsLast {r : Except NetworkError Unit} {t t' : Option (Bool × List AclEntry)} {struck : Prop}
    (step : TableStep k op r t t') (tabular : ∀ d entries, t = some (d, entries) → Tabular entries)
    (absent : t = none → ¬struck) (h : ∀ entries, t = some (true, entries) → KeepsLast egress entries struck) :
    ∀ entries, t' = some (true, entries) →
      KeepsLast egress entries (struck ∨ op = .deleteEntry k defaultRuleNumber egress ∧ r = .ok ()) := by
  rintro entries is
  cases step with
  | kept other =>
    rw [or_iff_left fun ⟨deletes, ok⟩ => other ok _ _ deletes]
    exact h entries is
  | made isDefault other =>
    cases is
    exact keepsLast_defaultEntries fun
      | .inl before => absent rfl before
      | .inr ⟨deletes, _⟩ => other _ _ deletes
  | gone => cases is
  | @created _ old e sound =>
    cases is
    have same : KeepsLast egress (old ++ [e]) struck ↔ KeepsLast egress (old ++ []) struck :=
      keepsLast_middle_iff sound.not_last
    rw [List.append_nil] at same
    rw [or_iff_left nofun]
    exact same.2 (h _ rfl)
  | @deleted _ before after x ruleNumber egress' named =>
    cases is
    have table := tabular _ _ rfl
    have old := h _ rfl
    by_cases last : (ruleNumber, egress') = (defaultRuleNumber, egress)
    · -- the number of an entry that goes is not checked, so this happens
      cases last
      have gone : ∀ e ∈ before ++ after, e.key ≠ (defaultRuleNumber, egress) := named ▸ table.apart
      exact ⟨iff_of_false (fun mem => gone _ mem rfl) fun kept => kept (.inr ⟨rfl, rfl⟩),
        fun e he key => absurd key (gone e he)⟩
    · rw [or_iff_left]
      · exact (keepsLast_middle_iff (named ▸ last)).1 old
      · rintro ⟨deletes, -⟩
        cases deletes
        exact last rfl
  | replaced sound same =>
    cases is
    rw [or_iff_left nofun]
    exact (keepsLast_middle_iff sound.not_last).2 ((keepsLast_middle_iff (same ▸ sound.not_last)).1 (h _ rfl))

end

/-- After a run a default list has a last entry unless it is struck. -/
theorem keepsLast_run (scope : Scope) (ops : List Op) (k : String) (egress : Bool) :
    ∀ entries, ((blank scope).run ops).table? k = some (true, entries) →
      KeepsLast egress entries (Struck (blank scope) ops k egress) := by
  induction ops using List.reverseRecOn with
  | nil => exact fun _ h => nomatch h
  | append_singleton ops op ih =>
    intro entries there
    have now : ∃ a, ((blank scope).run (ops ++ [op])).acls.get? k = some a := by
      obtain ⟨a, ha, -⟩ := Option.map_eq_some_iff.1 there
      exact ⟨a, ha⟩
    rw [struck_concat, and_iff_right now]
    have absent : ((blank scope).run ops).table? k = none → ¬Struck (blank scope) ops k egress := fun free struck => by
      obtain ⟨a, ha⟩ := struck.there
      cases (table?_of_split ha rfl).symm.trans free
    rw [run_concat] at there
    exact ((perform_effect _ op).tableStep k).keepsLast (tabular_run scope ops k) absent ih entries there

/-- **The last entries of a default list.** After any run a default list that is there has, for each direction, the
entry that denies everything, as it was made, if and only if no operation has deleted it since. No other entry is ever
found under its number. -/
theorem mem_lastEntry_iff (scope : Scope) (ops : List Op) (k : String) (a : Acl)
    (there : ((blank scope).run ops).acls.get? k = some a) (default : a.isDefault = true) (egress : Bool) :
    (lastEntry egress ∈ a.entries ↔ ¬Struck (blank scope) ops k egress) ∧
      ∀ e ∈ a.entries, e.key = (defaultRuleNumber, egress) → e = lastEntry egress := by
  have table : ((blank scope).run ops).table? k = some (true, a.entries) := default ▸ table?_of_split there rfl
  exact ⟨(keepsLast_run scope ops k egress _ table).mem_iff, (keepsLast_run scope ops k egress _ table).only⟩

/-- Callers make an entry, replace it and delete it, and try to replace and to make a last one. -/
def editingRun : List Op :=
  [.createVpc "10.0.0.0/16" [] "1" "1", .createEntry "acl-1" (.catchAll 200 .allow true),
   .replaceEntry "acl-1" (.catchAll 200 .deny true), .deleteEntry "acl-1" 200 true,
   .createEntry "acl-1" (.catchAll defaultRuleNumber .allow true),
   .replaceEntry "acl-1" (.catchAll defaultRuleNumber .allow true)]

/-- The last entries are still there. -/
theorem editingRun_keeps_last : ∃ a, ((blank home).run editingRun).acls.get? "acl-1" = some a ∧
    a.isDefault = true ∧ ∀ egress, lastEntry egress ∈ a.entries := by
  have there : (((blank home).run editingRun).acls.get? "acl-1").any Acl.isDefault = true := by decide +kernel
  obtain ⟨a, ha, default⟩ := Option.any_eq_true .. |>.1 there
  refine ⟨a, ha, default, fun egress => (mem_lastEntry_iff home editingRun "acl-1" a ha default egress).1.2 ?_⟩
  rintro ⟨before, op, after, split, ⟨rfl, -⟩, -⟩
  have mem : Op.deleteEntry "acl-1" defaultRuleNumber egress ∈ editingRun := by rw [split]; simp
  simp [editingRun, defaultRuleNumber] at mem

/-- A default list whose last entry for egress is deleted has it no longer. -/
theorem not_always_lastEntry : ¬∀ scope ops k a, ((blank scope).run ops).acls.get? k = some a → a.isDefault = true →
    ∀ egress, lastEntry egress ∈ a.entries := by
  intro always
  have gone : (((blank home).run [.createVpc "10.0.0.0/16" [] "1" "1",
      .deleteEntry "acl-1" defaultRuleNumber true]).acls.get? "acl-1").any
        (fun a => a.isDefault && !a.entries.contains (lastEntry true)) = true := by decide +kernel
  obtain ⟨a, ha, h⟩ := Option.any_eq_true .. |>.1 gone
  rw [Bool.and_eq_true] at h
  simp [always _ _ _ a ha h.1 true] at h

end MockCloud.Network
