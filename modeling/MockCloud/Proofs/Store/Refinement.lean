import Mathlib.Logic.Function.Basic
import MockCloud.Bucket.Basic

/-! # Stores as finite maps

A store stands for a map from ids to resources. What a call does to the map is said by rules that know nothing of how
a store keeps its resources; they ask the kind of the resources what one is made of, what becomes of one and whether
one may go.

* `MapEffect context m call answer m'`: the rules by which a call on the map `m` comes to its answer and leaves `m'`.
* `perform_effect`: a store answers and changes by the rules.
* `ActsAsMap s`: what every store does that keeps its resources under their own ids.
* `refines_map`: both, after every sequence of calls. -/

namespace MockCloud

/-- The resources of a kind carry the id that they are made under, and carry it still when a change of theirs has
ended, also one that has failed. -/
structure KeepsIds (α ι : Type) {ν χ κ ε : Type} [Entity α ν χ κ ε ι] : Prop where
  made : ∀ (id : ι) (params : ν) (context : κ) (a : α),
    (Entity.make id params context : Except ε α) = .ok a → Entity.id a = id
  changed : ∀ (a : α) (change : χ) (context : κ),
    (Entity.id (Entity.change ι a change context : Outcome α ε Unit).state : ι) = Entity.id a

namespace Store

/-- A call that changes a store, with all its arguments. -/
inductive Call (α ν χ ι : Type) where
  | create (id : ι) (params : ν)
  | update (id : ι) (change : χ)
  | delete (id : ι)
  | discard (id : ι)
  | retain (keep : α → Bool)
  | clear

/-- The id that a call is about, if it is about one. -/
def Call.target? {α ν χ ι : Type} : Call α ν χ ι → Option ι
  | .create id _ | .update id _ | .delete id | .discard id => some id
  | .retain _ | .clear => none

/-! ### The rules -/

section

variable {α ν χ κ ε ι : Type} [DecidableEq ι] [Entity α ν χ κ ε ι]

/-- The rules by which a call on the map `m` comes to its answer, and the map that it leaves. Where a resource is kept,
changed or removed, it is the answer. -/
inductive MapEffect (context : κ) (m : ι → Option α) :
    Call α ν χ ι → Except ε (Option α) → (ι → Option α) → Prop
  | taken {id : ι} {params : ν} {a : α} (there : m id = some a) :
      MapEffect context m (.create id params) (.error (Entity.taken α id context)) m
  | unmade {id : ι} {params : ν} {e : ε} (free : m id = none)
      (refused : (Entity.make id params context : Except ε α) = .error e) :
      MapEffect context m (.create id params) (.error e) m
  | created {id : ι} {params : ν} {a : α} (free : m id = none)
      (made : (Entity.make id params context : Except ε α) = .ok a) :
      MapEffect context m (.create id params) (.ok (some a)) (Function.update m id (some a))
  | unchanged {id : ι} {change : χ} (missing : m id = none) :
      MapEffect context m (.update id change) (.error (Entity.missing α id context)) m
  | changed {id : ι} {change : χ} {a b : α} (there : m id = some a)
      (changed : (Entity.change ι a change context : Outcome α ε Unit) = .ok () b) :
      MapEffect context m (.update id change) (.ok (some b)) (Function.update m id (some b))
  | changeLeft {id : ι} {change : χ} {a b : α} {e : ε} (there : m id = some a)
      (stopped : (Entity.change ι a change context : Outcome α ε Unit) = .fail e b) :
      MapEffect context m (.update id change) (.error e) (Function.update m id (some b))
  | undeleted {id : ι} (missing : m id = none) :
      MapEffect context m (.delete id) (.error (Entity.missing α id context)) m
  | vetoed {id : ι} {a : α} {e : ε} (there : m id = some a)
      (veto : (Entity.mayGo ι a context : Except ε Unit) = .error e) :
      MapEffect context m (.delete id) (.error e) m
  | deleted {id : ι} {a : α} (there : m id = some a)
      (goes : (Entity.mayGo ι a context : Except ε Unit) = .ok ()) :
      MapEffect context m (.delete id) (.ok (some a)) (Function.update m id none)
  | discarded {id : ι} : MapEffect context m (.discard id) (.ok (m id)) (Function.update m id none)
  | retained {keep : α → Bool} :
      MapEffect context m (.retain keep) (.ok none) fun id => (m id).filter keep
  | cleared : MapEffect context m .clear (.ok none) fun _ => none

/-- The rules along a sequence of calls, with the answers to all of them. -/
inductive MapRun (context : κ) :
    (ι → Option α) → List (Call α ν χ ι) → List (Except ε (Option α)) → (ι → Option α) → Prop
  | done {m : ι → Option α} : MapRun context m [] [] m
  | call {m m' m'' : ι → Option α} {call : Call α ν χ ι} {calls : List (Call α ν χ ι)}
      {answer : Except ε (Option α)} {answers : List (Except ε (Option α))}
      (effect : MapEffect context m call answer m') (rest : MapRun context m' calls answers m'') :
      MapRun context m (call :: calls) (answer :: answers) m''

/-- Every resource stands under the id that it carries. -/
def Own (m : ι → Option α) : Prop :=
  ∀ id a, m id = some a → Entity.id a = id

variable {context : κ} {m m' : ι → Option α} {call : Call α ν χ ι} {answer : Except ε (Option α)}

theorem Own.update (own : Own m) {id : ι} {x : Option α} (carried : ∀ a, x = some a → Entity.id a = id) :
    Own (Function.update m id x) := by
  intro k a there
  rw [Function.update_apply] at there
  split at there
  · next same => rw [same]; exact carried a there
  · exact own k a there

/-- What a call leaves under an id was there before, or has been made under this id, or is what a change has left of
what was there. -/
theorem MapEffect.own (keeps : KeepsIds α ι) (effect : MapEffect context m call answer m') (own : Own m) :
    Own m' := by
  cases effect with
  | taken | unmade | unchanged | undeleted | vetoed => exact own
  | created _ made => exact own.update fun a is => by cases is; exact keeps.made _ _ _ _ made
  -- a change that stops half-way is stored too, so it may not touch the id either
  | @changed _ change a _ there changed | @changeLeft _ change a _ _ there changed =>
    refine own.update fun b is => ?_
    cases is
    have kept := keeps.changed a change context
    rw [changed] at kept
    exact kept.trans (own _ a there)
  | deleted | discarded => exact own.update fun a is => by cases is
  | retained => exact fun id a there => own id a (Option.filter_eq_some_iff.1 there).1
  | cleared => exact fun _ _ there => by cases there

theorem MapRun.own (keeps : KeepsIds α ι) {calls : List (Call α ν χ ι)} {answers : List (Except ε (Option α))}
    (run : MapRun context m calls answers m') (own : Own m) : Own m' := by
  induction run with
  | done => exact own
  | call effect _ ih => exact ih (effect.own keeps own)

/-- A call about one id does not reach the others. -/
theorem MapEffect.others (effect : MapEffect context m call answer m') {id k : ι} (about : call.target? = some id)
    (other : k ≠ id) : m' k = m k := by
  cases effect with
  | taken | unmade | unchanged | undeleted | vetoed => rfl
  | created | changed | changeLeft | deleted | discarded =>
    cases about
    exact Function.update_of_ne other _ _
  | retained | cleared => cases about

end

/-! ### Stores go by the rules -/

variable {α ν χ κ ε ι : Type} [LT ι] [DecidableLT ι] [DecidableEq ι] [KeyOrder ι] [Entity α ν χ κ ε ι]

/-- The outcome of a call. -/
def perform (s : Store α κ ι) : Call α ν χ ι → Outcome (Store α κ ι) ε (Option α)
  | .create id params => (s.create id params).map some
  | .update id change => (s.update id change).map some
  | .delete id => (s.delete id).map some
  | .discard id => .ok (s.discard id).1 (s.discard id).2
  | .retain keep => .ok none (s.retain keep)
  | .clear => .ok none s.clear

/-- The store after a call, whether it succeeds or fails. -/
def step (s : Store α κ ι) (call : Call α ν χ ι) : Store α κ ι :=
  (s.perform call).state

/-- The store after a sequence of calls. -/
def run (s : Store α κ ι) (calls : List (Call α ν χ ι)) : Store α κ ι :=
  calls.foldl step s

/-- The answers to a sequence of calls. -/
def answers (s : Store α κ ι) : List (Call α ν χ ι) → List (Except ε (Option α))
  | [] => []
  | call :: calls => (s.perform call).result :: (s.step call).answers calls

variable {s : Store α κ ι} {id : ι}

section

omit [Entity α ν χ κ ε ι]

theorem get?_put_eq (a : α) : (s.put id a).get? = Function.update s.get? id (some a) := by
  funext k
  rw [get?_put, Function.update_apply]

theorem get?_drop_eq : (s.drop id).get? = Function.update s.get? id none := by
  funext k
  rw [get?_drop, Function.update_apply]

end

theorem create_of_get? {a : α} (there : s.get? id = some a) (params : ν) :
    s.create id params = .fail (Entity.taken α id s.context) s := by
  unfold create ensureAbsent
  rw [contains_eq_true_iff.2 ⟨a, there⟩]
  rfl

omit [DecidableLT ι] [KeyOrder ι] in
theorem delete_of_get?_eq_none (missing : s.get? id = none) :
    s.delete id = .fail (Entity.missing α id s.context) s := by
  unfold delete require
  rw [missing]
  rfl

omit [DecidableLT ι] [KeyOrder ι] in
theorem delete_of_get? {a : α} (there : s.get? id = some a) :
    s.delete id = .guard (Entity.mayGo ι a s.context) s fun _ => .ok a (s.drop id) := by
  unfold delete require
  rw [there]
  rfl

/-- A store answers and changes by the rules. -/
theorem perform_effect (s : Store α κ ι) (call : Call α ν χ ι) :
    MapEffect s.context s.get? call (s.perform call).result (s.perform call).state.get? := by
  cases call with
  | create id params =>
    rw [perform]
    cases held : s.get? id with
    | some a => rw [create_of_get? held]; exact .taken held
    | none =>
      cases made : (Entity.make id params s.context : Except ε α) with
      | error e => rw [create_eq_fail held made]; exact .unmade held made
      | ok a => rw [create_eq_ok held made, Outcome.map_ok, Outcome.state_ok, get?_put_eq]; exact .created held made
  | update id change =>
    rw [perform]
    rcases s.update_cases id change with ⟨missing, h⟩ | ⟨a, b, there, ⟨changed, h⟩ | ⟨e, stopped, h⟩⟩
    · rw [h]; exact .unchanged missing
    · rw [h, Outcome.map_ok, Outcome.state_ok, get?_put_eq]; exact .changed there changed
    · rw [h, Outcome.map_fail, Outcome.state_fail, get?_put_eq]; exact .changeLeft there stopped
  | delete id =>
    rw [perform]
    cases held : s.get? id with
    | none => rw [delete_of_get?_eq_none held]; exact .undeleted held
    | some a =>
      rw [delete_of_get? held]
      cases goes : (Entity.mayGo ι a s.context : Except ε Unit) with
      | error e => exact .vetoed held goes
      | ok => rw [Outcome.guard_ok, Outcome.map_ok, Outcome.state_ok, get?_drop_eq]; exact .deleted held goes
  | discard id =>
    have left : (s.discard id).2.get? = Function.update s.get? id none := get?_drop_eq
    rw [perform, Outcome.state_ok, left]
    exact .discarded
  | retain keep =>
    have left : (s.retain keep).get? = fun k => (s.get? k).filter keep := funext (s.get?_retain keep)
    rw [perform, Outcome.state_ok, left]
    exact .retained
  | clear => exact .cleared

theorem context_step (s : Store α κ ι) (call : Call α ν χ ι) : (s.step call).context = s.context := by
  unfold step
  cases call with
  | create id params => rcases s.create_cases id params with ⟨e, -, h⟩ | ⟨a, -, -, h⟩ <;> rw [perform, h] <;> rfl
  | update id change =>
    rcases s.update_cases id change with ⟨-, h⟩ | ⟨a, b, -, ⟨-, h⟩ | ⟨e, -, h⟩⟩ <;> rw [perform, h] <;> rfl
  | delete id => rcases s.delete_cases id with ⟨e, h⟩ | ⟨a, -, -, h⟩ <;> rw [perform, h] <;> rfl
  | discard | retain | clear => rfl

theorem context_run (s : Store α κ ι) (calls : List (Call α ν χ ι)) : (s.run calls).context = s.context := by
  induction calls generalizing s with
  | nil => rfl
  | cons call calls ih => exact (ih (s.step call)).trans (s.context_step call)

/-- A sequence of calls goes by the rules, all the way. -/
theorem mapRun (s : Store α κ ι) (calls : List (Call α ν χ ι)) :
    MapRun s.context s.get? calls (s.answers calls) (s.run calls).get? := by
  induction calls generalizing s with
  | nil => exact .done
  | cons call calls ih =>
    -- a call keeps the context, so the rest goes by the same rules
    have rest := ih (s.step call)
    rw [context_step] at rest
    exact .call (s.perform_effect call) rest

/-! ### What every store does -/

/-- A store keeps its resources under their own ids and lists them in the order of the ids. It refuses to make a
resource exactly if the id is taken or none can be made, and to delete one exactly if there is none or it may not go,
and is the same after a refusal. No call about one id reaches another, and an update leaves what the change leaves. -/
structure ActsAsMap (s : Store α κ ι) : Prop where
  own : ∀ id a, s.get? id = some a → Entity.id a = id
  ids_increase : s.ids.Pairwise (· < ·)
  mem_ids : ∀ id, id ∈ s.ids ↔ ∃ a, s.get? id = some a
  values_increase : s.values.Pairwise fun a b => (Entity.id a : ι) < Entity.id b
  mem_values : ∀ a, a ∈ s.values ↔ s.get? (Entity.id a) = some a
  create_fails : ∀ id (params : ν), (∃ e, (s.create id params).result = .error e) ↔
    (∃ a, s.get? id = some a) ∨ ∃ e, (Entity.make id params s.context : Except ε α) = .error e
  create_refused : ∀ id (params : ν) e, (s.create id params).result = .error e → (s.create id params).state = s
  delete_fails : ∀ id, (∃ e, (s.delete id).result = .error e) ↔
    s.get? id = none ∨ ∃ a, s.get? id = some a ∧ ∃ e, (Entity.mayGo ι a s.context : Except ε Unit) = .error e
  delete_refused : ∀ id e, (s.delete id).result = .error e → (s.delete id).state = s
  others : ∀ (call : Call α ν χ ι) id, call.target? = some id → ∀ k, k ≠ id → (s.step call).get? k = s.get? k
  update_changes : ∀ id (change : χ) a, s.get? id = some a →
    (s.update id change).state = s.put id (Entity.change ι a change s.context : Outcome α ε Unit).state
  update_missing : ∀ id (change : χ), s.get? id = none → (s.update id change).state = s

theorem create_eq_error_iff (s : Store α κ ι) (id : ι) (params : ν) :
    (∃ e, (s.create id params).result = .error e) ↔
      (∃ a, s.get? id = some a) ∨ ∃ e, (Entity.make id params s.context : Except ε α) = .error e := by
  cases held : s.get? id with
  | some a => rw [create_of_get? held]; exact iff_of_true ⟨_, rfl⟩ (.inl ⟨a, rfl⟩)
  | none =>
    cases made : (Entity.make id params s.context : Except ε α) with
    | error e => rw [create_eq_fail held made]; exact iff_of_true ⟨e, rfl⟩ (.inr ⟨e, rfl⟩)
    | ok a => rw [create_eq_ok held made]; simp

omit [DecidableLT ι] [KeyOrder ι] in
theorem delete_eq_error_iff (s : Store α κ ι) (id : ι) :
    (∃ e, (s.delete id).result = .error e) ↔
      s.get? id = none ∨ ∃ a, s.get? id = some a ∧ ∃ e, (Entity.mayGo ι a s.context : Except ε Unit) = .error e := by
  cases held : s.get? id with
  | none => rw [delete_of_get?_eq_none held]; exact iff_of_true ⟨_, rfl⟩ (.inl rfl)
  | some a =>
    rw [delete_of_get? held]
    cases goes : (Entity.mayGo ι a s.context : Except ε Unit) <;> simp [goes]

theorem state_update {a : α} (there : s.get? id = some a) (change : χ) :
    (s.update id change).state = s.put id (Entity.change ι a change s.context : Outcome α ε Unit).state := by
  unfold update require
  rw [there]
  rfl

theorem update_of_get?_eq_none (missing : s.get? id = none) (change : χ) :
    s.update id change = .fail (Entity.missing α id s.context) s := by
  unfold update require
  rw [missing]
  rfl

/-- A store whose resources stand under their own ids acts as a map. -/
theorem Own.actsAsMap (own : Own s.get?) : s.ActsAsMap where
  own := own
  ids_increase := s.items.pairwise_keys
  mem_ids _ := SortedMap.mem_keys_iff
  values_increase := SortedMap.pairwise_values fun k a k' b ha hb less => by
    rw [own k a ha, own k' b hb]
    exact less
  mem_values a := by
    rw [mem_values_iff]
    constructor
    · rintro ⟨id, there⟩
      rw [own id a there]
      exact there
    · exact fun there => ⟨_, there⟩
  create_fails := s.create_eq_error_iff
  create_refused id params e refused := by
    rcases s.create_cases id params with ⟨e, -, h⟩ | ⟨a, -, -, h⟩
    · rw [h, Outcome.state_fail]
    · rw [h] at refused; cases refused
  delete_fails := s.delete_eq_error_iff
  delete_refused id e refused := by
    rcases s.delete_cases id with ⟨e, h⟩ | ⟨a, -, -, h⟩
    · rw [h, Outcome.state_fail]
    · rw [h] at refused; cases refused
  others call _ about _ other := (s.perform_effect call).others about other
  update_changes _ change _ there := state_update there change
  update_missing id change missing := by rw [update_of_get?_eq_none missing, Outcome.state_fail]

/-- **Stores are finite maps.** Let the resources of a kind carry the id that they are made under and keep it when they
change. Then after every sequence of calls on an empty store, all answers and what stands under every id are those of
a map that is changed by the rules, in the same context, and the store acts as a map. -/
theorem refines_map (keeps : KeepsIds α ι) (context : κ) (calls : List (Call α ν χ ι)) :
    MapRun context (fun _ => none) calls ((new context : Store α κ ι).answers calls)
        ((new context : Store α κ ι).run calls).get? ∧
      ((new context : Store α κ ι).run calls).context = context ∧
      ((new context : Store α κ ι).run calls).ActsAsMap := by
  have run := (new context : Store α κ ι).mapRun calls
  have blank : Own (new context : Store α κ ι).get? := fun _ _ there => by cases there
  exact ⟨run, context_run _ calls, (run.own keeps blank).actsAsMap⟩

end Store

/-! ### A store of buckets -/

/-- A bucket has the name it is made under for its id, and its lifecycle is all that a change sets. -/
theorem Bucket.keepsIds : KeepsIds Bucket String where
  made name new _ b made := by
    change make name new.1 new.2 = .ok b at made
    unfold make at made
    split at made
    · cases made; rfl
    · cases made
  changed b rules _ := by
    change (b.setLifecycle rules).state.name = b.name
    unfold setLifecycle
    rcases Outcome.guard_cases (validateRules (rules.getD [])) b _ with ⟨e, -, h⟩ | ⟨⟨⟩, -, h⟩ <;> rw [h] <;> rfl

/-- A bucket is made twice, one is made under an illegal name, a missing one is changed, and the first is deleted. -/
def Bucket.errands : List (Store.Call Bucket (String × Instant) (Option (List Bucket.LifecycleRule)) String) :=
  [.create "logs" ("r", ⟨0, 0⟩), .create "logs" ("r", ⟨1, 0⟩), .create "No" ("r", ⟨2, 0⟩), .update "data" none,
    .create "data" ("r", ⟨3, 0⟩), .delete "logs"]

/-- The store after these calls. -/
def Bucket.keptAfter : Store Bucket Scope :=
  (Store.new ⟨"1", "global", "aws"⟩).run Bucket.errands

theorem Store.refines_map_errands :
    KeepsIds Bucket String ∧
      MapRun (⟨"1", "global", "aws"⟩ : Scope) (fun _ => none) Bucket.errands
        ((Store.new ⟨"1", "global", "aws"⟩ : Store Bucket Scope).answers Bucket.errands) Bucket.keptAfter.get? ∧
      Bucket.keptAfter.context = ⟨"1", "global", "aws"⟩ ∧ Bucket.keptAfter.ActsAsMap :=
  ⟨Bucket.keepsIds, Store.refines_map Bucket.keepsIds ⟨"1", "global", "aws"⟩ Bucket.errands⟩

/-- Three calls fail, and one bucket is left. -/
example : ((Store.new ⟨"1", "global", "aws"⟩ : Store Bucket Scope).answers Bucket.errands).map Except.isOk =
    [true, false, false, false, true, true] ∧ Bucket.keptAfter.ids = ["data"] := by
  decide +kernel

end MockCloud
