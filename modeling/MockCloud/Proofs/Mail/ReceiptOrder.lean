import MockCloud.Proofs.Mail.Operation

/-! # The order of receipt rules

The rules of a set are tried in the order in which they stand, so a call that puts a rule among others must not move
these. The calls find the place of a rule by its name; that is a place of its own because no name is given twice.

* `Placed rule after rules rules'`: what a new rule makes of the rules of its set.
* `Replaced rule rules rules'`: what a changed rule makes of them.
* `createRule_cases`, `updateRule_cases`: all that a call can come to.
* `Distinct.run`: the names of the rules of a set differ, after every run.
* `rules_in_order`: what the calls do, where a run has led. -/

namespace MockCloud.Mail.RuleSets

/-- The sets after an operation, whether it succeeds or fails. -/
def step (s : RuleSets) (op : Op) : RuleSets :=
  (s.perform op).state

/-- The sets after a run. -/
def run (s : RuleSets) (ops : List Op) : RuleSets :=
  ops.foldl step s

/-- The names of rules in the order of the rules. -/
def names (rules : List ReceiptRule) : List String :=
  rules.map (·.name)

/-- A new rule goes behind all others, or immediately behind the one of a name. The others stay as they are. -/
inductive Placed (rule : ReceiptRule) : Option String → List ReceiptRule → List ReceiptRule → Prop
  | last (rules : List ReceiptRule) : Placed rule none rules (rules ++ [rule])
  | behind (front : List ReceiptRule) (r : ReceiptRule) (back : List ReceiptRule) :
      Placed rule (some r.name) (front ++ r :: back) (front ++ r :: rule :: back)

/-- A rule stands where the one of its name has stood. The others stay as they are. -/
inductive Replaced (rule : ReceiptRule) : List ReceiptRule → List ReceiptRule → Prop
  | here (front : List ReceiptRule) (r : ReceiptRule) (back : List ReceiptRule) (own : r.name = rule.name) :
      Replaced rule (front ++ r :: back) (front ++ rule :: back)

/-- The rules of one set are these, and those of all other sets are as they were. -/
structure Rewrites (s : RuleSets) (set : String) (rules : List ReceiptRule) (s' : RuleSets) : Prop where
  own : s'.describeSet set = .ok rules
  other : ∀ other, other ≠ set → s'.describeSet other = s.describeSet other

/-! ### The place of a rule -/

/-- The rule of a name is found where it stands first. -/
theorem position?_cases (rules : List ReceiptRule) (name : String) :
    (name ∉ names rules ∧ position? rules name = none) ∨
      ∃ front r back, rules = front ++ r :: back ∧ r.name = name ∧ position? rules name = some front.length := by
  induction rules with
  | nil => exact .inl ⟨by simp [names], rfl⟩
  | cons r rules ih =>
    have found : position? (r :: rules) name =
        if r.name = name then some 0 else (position? rules name).map (· + 1) := by
      simp only [position?, List.findIdx?_cons, beq_iff_eq]
    rw [found]
    split
    · next own => exact .inr ⟨[], r, rules, rfl, own, rfl⟩
    · next other =>
      rcases ih with ⟨missing, h⟩ | ⟨front, r', back, rfl, own, h⟩
      · refine .inl ⟨?_, by rw [h, Option.map_none]⟩
        simp only [names, List.map_cons, List.mem_cons, not_or]
        exact ⟨Ne.symm other, missing⟩
      · exact .inr ⟨r :: front, r', back, rfl, own, by rw [h, Option.map_some, List.length_cons]⟩

theorem mem_names {rule : ReceiptRule} {front back : List ReceiptRule} : rule.name ∈ names (front ++ rule :: back) := by
  simp [names]

theorem insertIdx_length_append (front back : List ReceiptRule) (rule : ReceiptRule) :
    (front ++ back).insertIdx front.length rule = front ++ rule :: back := by
  induction front with
  | nil => rfl
  | cons r front ih => rw [List.cons_append, List.length_cons, List.insertIdx_succ_cons, ih, List.cons_append]

theorem set_length_append (front back : List ReceiptRule) (r rule : ReceiptRule) :
    (front ++ r :: back).set front.length rule = front ++ rule :: back := by
  rw [List.set_append_right _ _ (Nat.le_refl _), Nat.sub_self, List.set_cons_zero]

/-- A place is found for every rule but one that is to go behind a missing one, and it is the right one. -/
theorem place_cases (rules : List ReceiptRule) (rule : ReceiptRule) (after : Option String) :
    (∃ a, after = some a ∧ a ∉ names rules ∧ place rules after = .error (.ruleMissing a)) ∨
      (∀ a, after = some a → a ∈ names rules) ∧
        ∃ i, place rules after = .ok i ∧ Placed rule after rules (rules.insertIdx i rule) := by
  cases after with
  | none =>
    refine .inr ⟨nofun, rules.length, rfl, ?_⟩
    rw [List.insertIdx_length_self]
    exact .last rules
  | some a =>
    rcases position?_cases rules a with ⟨missing, h⟩ | ⟨front, r, back, rfl, rfl, h⟩
    · exact .inl ⟨a, rfl, missing, by rw [place, h]⟩
    · refine .inr ⟨?_, front.length + 1, by rw [place, h], ?_⟩
      · rintro a ⟨⟩
        exact mem_names
      · have behind : (front ++ r :: back).insertIdx (front.length + 1) rule = front ++ r :: rule :: back := by
          simpa using insertIdx_length_append (front ++ [r]) back rule
        rw [behind]
        exact .behind front r back

/-! ### One operation -/

theorem describeSet_eq_ok_iff {s : RuleSets} {set : String} {rules : List ReceiptRule} :
    s.describeSet set = .ok rules ↔ s.sets.get? set = some rules := by
  unfold describeSet
  cases s.sets.get? set <;> simp

theorem rewrites_insert (s : RuleSets) (set : String) (rules : List ReceiptRule) :
    s.Rewrites set rules ⟨s.sets.insert set rules⟩ where
  own := describeSet_eq_ok_iff.2 (SortedMap.get?_insert_self ..)
  other other ne := by rw [describeSet, describeSet, SortedMap.get?_insert, if_neg ne]

theorem describeSet_cases (s : RuleSets) (set : String) :
    (s.sets.get? set = none ∧ s.describeSet set = .error (.ruleSetMissing set)) ∨
      ∃ rules, s.sets.get? set = some rules ∧ s.describeSet set = .ok rules := by
  unfold describeSet
  cases s.sets.get? set with
  | none => exact .inl ⟨rfl, rfl⟩
  | some rules => exact .inr ⟨rules, rfl, rfl⟩

/-- A new set has no rules. -/
theorem createSet_cases (s : RuleSets) (set : String) :
    ((∃ rules, s.sets.get? set = some rules) ∧ s.createSet set = .fail (.ruleSetTaken set) s) ∨
      s.sets.get? set = none ∧ s.createSet set = .ok () ⟨s.sets.insert set []⟩ := by
  unfold createSet
  cases taken : s.sets.contains set with
  | true => exact .inl ⟨SortedMap.contains_eq_true_iff.1 taken, rfl⟩
  | false => exact .inr ⟨SortedMap.contains_eq_false_iff.1 taken, rfl⟩

/-- A rule is refused if its set is missing, its name is taken or the rule in front of it is missing. -/
theorem createRule_cases (s : RuleSets) (set : String) (rule : ReceiptRule) (after : Option String) :
    (s.sets.get? set = none ∧ s.createRule set rule after = .fail (.ruleSetMissing set) s) ∨
      ∃ rules, s.sets.get? set = some rules ∧
        ((rule.name ∈ names rules ∧ s.createRule set rule after = .fail (.ruleTaken rule.name) s) ∨
          rule.name ∉ names rules ∧
            ((∃ a, after = some a ∧ a ∉ names rules ∧ s.createRule set rule after = .fail (.ruleMissing a) s) ∨
              (∀ a, after = some a → a ∈ names rules) ∧ ∃ rules', Placed rule after rules rules' ∧
                s.createRule set rule after = .ok () ⟨s.sets.insert set rules'⟩)) := by
  unfold createRule
  rcases s.describeSet_cases set with ⟨missing, h⟩ | ⟨rules, there, h⟩
  · exact .inl ⟨missing, by rw [h]; rfl⟩
  · refine .inr ⟨rules, there, ?_⟩
    have taken : (rules.any (·.name == rule.name)) = true ↔ rule.name ∈ names rules := by
      simp [names]
    rw [h, Outcome.guard_ok]
    by_cases own : rule.name ∈ names rules
    · exact .inl ⟨own, if_pos (taken.2 own)⟩
    · rw [if_neg (mt taken.1 own)]
      refine .inr ⟨own, ?_⟩
      rcases place_cases rules rule after with ⟨a, rfl, missing, h⟩ | ⟨known, i, h, placed⟩
      · exact .inl ⟨a, rfl, missing, by rw [h]; rfl⟩
      · exact .inr ⟨known, _, placed, by rw [h]; rfl⟩

/-- A changed rule is refused if its set is missing or has no rule of its name. -/
theorem updateRule_cases (s : RuleSets) (set : String) (rule : ReceiptRule) :
    (s.sets.get? set = none ∧ s.updateRule set rule = .fail (.ruleSetMissing set) s) ∨
      ∃ rules, s.sets.get? set = some rules ∧
        ((rule.name ∉ names rules ∧ s.updateRule set rule = .fail (.ruleMissing rule.name) s) ∨
          rule.name ∈ names rules ∧ ∃ rules', Replaced rule rules rules' ∧
            s.updateRule set rule = .ok () ⟨s.sets.insert set rules'⟩) := by
  unfold updateRule
  rcases s.describeSet_cases set with ⟨missing, h⟩ | ⟨rules, there, h⟩
  · exact .inl ⟨missing, by rw [h]; rfl⟩
  · refine .inr ⟨rules, there, ?_⟩
    rw [h, Outcome.guard_ok]
    rcases position?_cases rules rule.name with ⟨missing, h⟩ | ⟨front, r, back, rfl, own, h⟩
    · exact .inl ⟨missing, by rw [h]⟩
    · refine .inr ⟨own ▸ mem_names, front ++ rule :: back, .here front r back own, ?_⟩
      rw [h, ← set_length_append front back r rule]

/-- The rules by which an operation on receipt rules comes to its outcome. -/
inductive Effect (s : RuleSets) : Op → Outcome RuleSets MailError Unit → Prop
  | refused {op : Op} (e : MailError) : Effect s op (.fail e s)
  | setCreated {set : String} (free : s.sets.get? set = none) :
      Effect s (.createSet set) (.ok () ⟨s.sets.insert set []⟩)
  | ruleCreated {set : String} {rule : ReceiptRule} {after : Option String} {rules rules' : List ReceiptRule}
      (there : s.sets.get? set = some rules) (new : rule.name ∉ names rules) (placed : Placed rule after rules rules') :
      Effect s (.createRule set rule after) (.ok () ⟨s.sets.insert set rules'⟩)
  | ruleUpdated {set : String} {rule : ReceiptRule} {rules rules' : List ReceiptRule}
      (there : s.sets.get? set = some rules) (replaced : Replaced rule rules rules') :
      Effect s (.updateRule set rule) (.ok () ⟨s.sets.insert set rules'⟩)

/-- Every operation obeys a rule. -/
theorem perform_effect (s : RuleSets) (op : Op) : Effect s op (s.perform op) := by
  cases op with
  | createSet set =>
    rw [perform]
    rcases s.createSet_cases set with ⟨-, h⟩ | ⟨free, h⟩
    · rw [h]; exact .refused _
    · rw [h]; exact .setCreated free
  | createRule set rule after =>
    rw [perform]
    rcases s.createRule_cases set rule after with
      ⟨-, h⟩ | ⟨rules, there, ⟨-, h⟩ | ⟨new, ⟨a, -, -, h⟩ | ⟨-, rules', placed, h⟩⟩⟩
    · rw [h]; exact .refused _
    · rw [h]; exact .refused _
    · rw [h]; exact .refused _
    · rw [h]; exact .ruleCreated there new placed
  | updateRule set rule =>
    rw [perform]
    rcases s.updateRule_cases set rule with ⟨-, h⟩ | ⟨rules, there, ⟨-, h⟩ | ⟨-, rules', replaced, h⟩⟩
    · rw [h]; exact .refused _
    · rw [h]; exact .refused _
    · rw [h]; exact .ruleUpdated there replaced

/-- An operation that fails changes nothing. -/
theorem state_of_fails {s : RuleSets} {op : Op} {e : MailError} (fails : (s.perform op).result = .error e) :
    (s.perform op).state = s := by
  have effect := s.perform_effect op
  generalize s.perform op = o at effect fails ⊢
  cases effect with
  | refused e => rfl
  | _ => cases fails

/-! ### Names -/

/-- The rules are then the new one and the others. -/
theorem Placed.perm {rule : ReceiptRule} {after : Option String} {rules rules' : List ReceiptRule}
    (placed : Placed rule after rules rules') : rules'.Perm (rule :: rules) := by
  cases placed with
  | last => exact List.perm_append_singleton rule rules
  | behind front r back =>
    have moved : (front ++ [r] ++ rule :: back).Perm (rule :: (front ++ [r] ++ back)) := List.perm_middle
    simpa using moved

/-- A changed rule has the name of the one that has stood there. -/
theorem Replaced.names_eq {rule : ReceiptRule} {rules rules' : List ReceiptRule}
    (replaced : Replaced rule rules rules') : names rules' = names rules := by
  cases replaced with
  | here front r back own => simp [names, own]

/-- The names of the rules of each set differ from each other. -/
def Distinct (s : RuleSets) : Prop :=
  ∀ set rules, s.describeSet set = .ok rules → (names rules).Nodup

theorem distinct_new : Distinct {} :=
  nofun

theorem Distinct.insert {s : RuleSets} (h : s.Distinct) {set : String} {rules : List ReceiptRule}
    (once : (names rules).Nodup) : Distinct ⟨s.sets.insert set rules⟩ := by
  intro set' rules' listed
  by_cases own : set' = set
  · rw [own, (rewrites_insert s set rules).own] at listed
    cases listed
    exact once
  · rw [(rewrites_insert s set rules).other set' own] at listed
    exact h set' rules' listed

theorem Distinct.step {s : RuleSets} (h : s.Distinct) (op : Op) : (s.step op).Distinct := by
  have effect := s.perform_effect op
  unfold RuleSets.step
  generalize s.perform op = o at effect ⊢
  cases effect with
  | refused e => exact h
  | setCreated _ => exact h.insert .nil
  | ruleCreated there new placed =>
    have once := h _ _ (describeSet_eq_ok_iff.2 there)
    exact h.insert ((placed.perm.map _).nodup_iff.2 (List.nodup_cons.2 ⟨new, once⟩))
  | ruleUpdated there replaced =>
    have once := h _ _ (describeSet_eq_ok_iff.2 there)
    exact h.insert (replaced.names_eq.symm ▸ once)

theorem Distinct.run {s : RuleSets} (h : s.Distinct) (ops : List Op) : (s.run ops).Distinct :=
  List.foldlRecOn ops RuleSets.step h fun _ hs op _ => hs.step op

/-! ### What a call does -/

/-- A rule is made exactly if its set is there, its name is new and the rule in front of it is there. -/
theorem createRule_result_iff {s : RuleSets} {set : String} {rule : ReceiptRule} {after : Option String} :
    (s.createRule set rule after).result = .ok () ↔
      ∃ rules, s.describeSet set = .ok rules ∧ rule.name ∉ names rules ∧ ∀ a, after = some a → a ∈ names rules := by
  simp only [describeSet_eq_ok_iff]
  rcases s.createRule_cases set rule after with
    ⟨missing, h⟩ | ⟨rules, there, ⟨taken, h⟩ | ⟨new, ⟨a, rfl, missing, h⟩ | ⟨known, rules', -, h⟩⟩⟩
  · simp [h, missing]
  · simp [h, there, taken]
  · simp [h, there, missing]
  · simp only [h, there, Outcome.result_ok, Option.some.injEq, exists_eq_left', true_iff]
    exact ⟨new, known⟩

/-- A rule is changed exactly if its set is there and has a rule of its name. -/
theorem updateRule_result_iff {s : RuleSets} {set : String} {rule : ReceiptRule} :
    (s.updateRule set rule).result = .ok () ↔
      ∃ rules, s.describeSet set = .ok rules ∧ rule.name ∈ names rules := by
  simp only [describeSet_eq_ok_iff]
  rcases s.updateRule_cases set rule with ⟨missing, h⟩ | ⟨rules, there, ⟨missing, h⟩ | ⟨own, rules', -, h⟩⟩
  · simp [h, missing]
  · simp [h, there, missing]
  · simp [h, there, own]

/-- A rule that is made is put into its place, and nothing else moves. -/
theorem rewrites_of_createRule {s : RuleSets} {set : String} {rule : ReceiptRule} {after : Option String}
    {rules : List ReceiptRule} (listed : s.describeSet set = .ok rules)
    (done : (s.createRule set rule after).result = .ok ()) :
    ∃ rules', Placed rule after rules rules' ∧ s.Rewrites set rules' (s.createRule set rule after).state := by
  have effect := s.perform_effect (.createRule set rule after)
  rw [perform] at effect
  generalize s.createRule set rule after = o at effect done ⊢
  cases effect with
  | refused e => cases done
  | ruleCreated there new placed =>
    cases listed.symm.trans (describeSet_eq_ok_iff.2 there)
    exact ⟨_, placed, s.rewrites_insert set _⟩

/-- A rule that is changed stays in its place, and nothing else is changed. -/
theorem rewrites_of_updateRule {s : RuleSets} {set : String} {rule : ReceiptRule} {rules : List ReceiptRule}
    (listed : s.describeSet set = .ok rules) (done : (s.updateRule set rule).result = .ok ()) :
    ∃ rules', Replaced rule rules rules' ∧ s.Rewrites set rules' (s.updateRule set rule).state := by
  have effect := s.perform_effect (.updateRule set rule)
  rw [perform] at effect
  generalize s.updateRule set rule = o at effect done ⊢
  cases effect with
  | refused e => cases done
  | ruleUpdated there replaced =>
    cases listed.symm.trans (describeSet_eq_ok_iff.2 there)
    exact ⟨_, replaced, s.rewrites_insert set _⟩

/-- **The order of receipt rules.** After every run the names of the rules of each set differ. A rule is made exactly
if its set is there, its name is new and the rule that it is to follow is there; it goes behind all others, or
immediately behind that one. A rule is changed exactly if there is one of its name, and in the place of that one. All
other rules and sets stay as they are, and a call that fails changes nothing. -/
theorem rules_in_order (ops : List Op) :
    let s := run {} ops
    (∀ set rules, s.describeSet set = .ok rules → (names rules).Nodup) ∧
    (∀ set rule after,
      let o := s.createRule set rule after
      (o.result = .ok () ↔ ∃ rules, s.describeSet set = .ok rules ∧ rule.name ∉ names rules ∧
        ∀ a, after = some a → a ∈ names rules) ∧
      ∀ rules, s.describeSet set = .ok rules → o.result = .ok () →
        ∃ rules', Placed rule after rules rules' ∧ s.Rewrites set rules' o.state) ∧
    (∀ set rule,
      let o := s.updateRule set rule
      (o.result = .ok () ↔ ∃ rules, s.describeSet set = .ok rules ∧ rule.name ∈ names rules) ∧
      ∀ rules, s.describeSet set = .ok rules → o.result = .ok () →
        ∃ rules', Replaced rule rules rules' ∧ s.Rewrites set rules' o.state) ∧
    ∀ op e, (s.perform op).result = .error e → (s.perform op).state = s := by
  intro s
  refine ⟨distinct_new.run ops, fun set rule after => ⟨createRule_result_iff, fun rules listed done => ?_⟩,
    fun set rule => ⟨updateRule_result_iff, fun rules listed done => ?_⟩, fun op e => state_of_fails⟩
  · exact rewrites_of_createRule listed done
  · exact rewrites_of_updateRule listed done

/-- A set whose first rule is followed by a third one. -/
def inbound : List Op :=
  [.createSet "inbound", .createRule "inbound" { name := "a" } none, .createRule "inbound" { name := "c" } none]

/-- The second rule goes between the two, and is not made twice. -/
theorem rules_in_order_inbound :
    let s := run {} inbound
    let o := s.createRule "inbound" { name := "b" } (some "a")
    o.result = .ok () ∧ o.state.describeSet "inbound" = .ok [{ name := "a" }, { name := "b" }, { name := "c" }] ∧
      (∃ rules', Placed { name := "b" } (some "a") [{ name := "a" }, { name := "c" }] rules' ∧
        s.Rewrites "inbound" rules' o.state) ∧
      (s.perform (.createRule "inbound" { name := "c" } (some "a"))).state = s := by
  intro s o
  have listed : s.describeSet "inbound" = .ok [{ name := "a" }, { name := "c" }] := rfl
  obtain ⟨-, created, -, failed⟩ := rules_in_order inbound
  exact ⟨rfl, rfl, (created "inbound" { name := "b" } (some "a")).2 _ listed rfl, failed _ (.ruleTaken "c") rfl⟩

end MockCloud.Mail.RuleSets
