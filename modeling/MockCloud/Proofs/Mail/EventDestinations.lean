import Mathlib.Data.List.Nodup
import MockCloud.Proofs.Mail.Recording

/-! # Names of event destinations

The name of an event destination is taken by one configuration set of a place. Beside the sets, which hold the
destinations, there is a list of the names that are taken. A name is put there with its destination, and it goes with
the set that holds it.

* `InUse c name`: a set that is there has a destination of the name.
* `Registered c`: no name is held twice, within a set or by two of them, and the list has the names that are in use.
* `Registered.perform`: every operation keeps it so.
* `Post.eventDestinations_run`: so it is after every run. A name is refused exactly while a set holds it, and the names
  of a set are free again once it is removed. -/

namespace MockCloud.Mail

/-- The names of the destinations of a set. -/
def ConfigurationSet.names (s : ConfigurationSet) : List String :=
  s.destinations.map (·.name)

namespace ConfigurationSets

/-- A set that is there has a destination of the name. -/
def InUse (c : ConfigurationSets) (name : String) : Prop :=
  ∃ id s, c.sets.get? id = some s ∧ ∃ d ∈ s.destinations, d.name = name

/-- The names of the destinations of all sets. -/
def allNames (c : ConfigurationSets) : List String :=
  c.sets.values.flatMap ConfigurationSet.names

/-- The names that stand under an id: those of its set, none if there is no set. -/
def namesAt (c : ConfigurationSets) (id : String) : List String :=
  ((c.sets.get? id).map ConfigurationSet.names).getD []

/-- No name is held twice, within a set or by two of them, and the list has the names that are in use, each once. -/
structure Registered (c : ConfigurationSets) : Prop where
  once : ∀ id, (c.namesAt id).Nodup
  apart : ∀ id id' name, name ∈ c.namesAt id → name ∈ c.namesAt id' → id = id'
  listed : ∀ name, name ∈ c.destinationNames ↔ ∃ id, name ∈ c.namesAt id
  distinct : c.destinationNames.Nodup

section

variable {c : ConfigurationSets} {id : String} {s : ConfigurationSet}

theorem namesAt_of_get? (there : c.sets.get? id = some s) : c.namesAt id = s.names := by
  rw [namesAt, there, Option.map_some, Option.getD_some]

theorem mem_namesAt_iff {name : String} : name ∈ c.namesAt id ↔ ∃ s, c.sets.get? id = some s ∧ name ∈ s.names := by
  unfold namesAt
  cases c.sets.get? id <;> simp

theorem inUse_iff {name : String} : c.InUse name ↔ ∃ id, name ∈ c.namesAt id := by
  simp only [InUse, mem_namesAt_iff, ConfigurationSet.names, List.mem_map]

theorem namesAt_put (c : ConfigurationSets) (id : String) (s : ConfigurationSet) (taken : List String) (k : String) :
    namesAt ⟨c.sets.put id s, taken⟩ k = if k = id then s.names else c.namesAt k := by
  unfold namesAt
  rw [Store.get?_put]
  split <;> rfl

theorem namesAt_drop (c : ConfigurationSets) (id : String) (taken : List String) (k : String) :
    namesAt ⟨c.sets.drop id, taken⟩ k = if k = id then [] else c.namesAt k := by
  unfold namesAt
  rw [Store.get?_drop]
  split <;> rfl

/-! ### One operation -/

theorem registered_new (scope : Scope) : Registered (new scope) where
  once _ := .nil
  apart _ _ _ there := nomatch there
  listed _ := ⟨nofun, fun ⟨_, there⟩ => nomatch there⟩
  distinct := .nil

namespace Registered

variable (h : c.Registered)
include h

/-- What matters of the sets is the names that they hold. -/
theorem of_namesAt {c' : ConfigurationSets} (same : ∀ k, c'.namesAt k = c.namesAt k)
    (taken : c'.destinationNames = c.destinationNames) : c'.Registered where
  once k := same k ▸ h.once k
  apart k k' name there there' := h.apart k k' name (same k ▸ there) (same k' ▸ there')
  listed name := by simp only [taken, same, h.listed]
  distinct := taken ▸ h.distinct

theorem added (there : c.sets.get? id = some s) {d : EventDestination} (free : d.name ∉ c.destinationNames) :
    Registered ⟨c.sets.put id { s with destinations := s.destinations ++ [d] }, d.name :: c.destinationNames⟩ := by
  have unused (k : String) : d.name ∉ c.namesAt k := fun held => free ((h.listed d.name).2 ⟨k, held⟩)
  have held {taken : List String} (k name : String) :
      name ∈ namesAt ⟨c.sets.put id { s with destinations := s.destinations ++ [d] }, taken⟩ k ↔
        name ∈ c.namesAt k ∨ (k = id ∧ name = d.name) := by
    rw [namesAt_put]
    split
    · next own =>
      rw [own, namesAt_of_get? there]
      simp [ConfigurationSet.names, eq_comm]
    · next other => simp [other]
  refine ⟨fun k => ?_, fun k k' name hk hk' => ?_, fun name => ?_, List.nodup_cons.2 ⟨free, h.distinct⟩⟩
  · rw [namesAt_put]
    split
    · have once := h.once id
      rw [namesAt_of_get? there] at once
      rw [ConfigurationSet.names, List.map_append, List.map_singleton]
      refine List.nodup_append.2 ⟨once, List.nodup_singleton _, fun name held x new same => ?_⟩
      rw [List.mem_singleton.1 new] at same
      exact unused id (by rw [namesAt_of_get? there, ← same]; exact held)
    · exact h.once k
  · rcases (held k name).1 hk with before | ⟨own, new⟩ <;> rcases (held k' name).1 hk' with before' | ⟨own', new'⟩
    · exact h.apart k k' name before before'
    · exact absurd (new' ▸ before) (unused k)
    · exact absurd (new ▸ before') (unused k')
    · rw [own, own']
  · simp only [held, List.mem_cons, h.listed]
    constructor
    · rintro (new | ⟨k, before⟩)
      · exact ⟨id, .inr ⟨rfl, new⟩⟩
      · exact ⟨k, .inl before⟩
    · rintro ⟨k, before | ⟨-, new⟩⟩
      · exact .inr ⟨k, before⟩
      · exact .inl new

theorem deleted (there : c.sets.get? id = some s) : Registered ⟨c.sets.drop id,
    c.destinationNames.filter fun n => !(s.destinations.map (·.name)).contains n⟩ := by
  have held {taken : List String} (k name : String) :
      name ∈ namesAt ⟨c.sets.drop id, taken⟩ k ↔ k ≠ id ∧ name ∈ c.namesAt k := by
    rw [namesAt_drop]
    split
    · next own => simp [own]
    · next other => simp [other]
  refine ⟨fun k => ?_, fun k k' name hk hk' => ?_, fun name => ?_, h.distinct.filter _⟩
  · rw [namesAt_drop]
    split
    · exact .nil
    · exact h.once k
  · exact h.apart k k' name ((held k name).1 hk).2 ((held k' name).1 hk').2
  · have own : name ∈ s.destinations.map (·.name) ↔ name ∈ c.namesAt id := by
      rw [namesAt_of_get? there, ConfigurationSet.names]
    simp only [held]
    simp only [List.mem_filter, h.listed, Bool.not_eq_true', List.contains_eq_mem, decide_eq_false_iff_not, own]
    constructor
    · rintro ⟨⟨k, before⟩, gone⟩
      exact ⟨k, fun same => gone (same ▸ before), before⟩
    · rintro ⟨k, other, before⟩
      exact ⟨⟨k, before⟩, fun same => other (h.apart k id name before same)⟩

theorem perform (op : Op) : (c.perform op).state.Registered := by
  have effect := c.perform_effect op
  generalize c.perform op = o at effect ⊢
  cases effect with
  | refused e => exact h
  | created free made =>
    refine h.of_namesAt (fun k => ?_) rfl
    obtain ⟨-, -, rfl⟩ := ConfigurationSet.make_eq_ok made
    rw [Outcome.state_ok, namesAt_put]
    split
    · next own => rw [own, namesAt, free]; rfl
    · rfl
  | deleted there => exact h.deleted there
  | added there free => exact h.added there free
  | measured there =>
    refine h.of_namesAt (fun k => ?_) rfl
    rw [Outcome.state_ok, namesAt_put]
    split
    · next own => rw [own, namesAt_of_get? there]; rfl
    · rfl

/-! ### What a name can be used for -/

theorem nodup_allNames : c.allNames.Nodup := by
  refine List.nodup_flatMap.2 ⟨fun s there => ?_, SortedMap.pairwise_values fun id s id' s' there there' less => ?_⟩
  · obtain ⟨id, there⟩ := Store.mem_values_iff.1 there
    exact namesAt_of_get? there ▸ h.once id
  · intro name held held'
    have same := h.apart id id' name (mem_namesAt_iff.2 ⟨s, there, held⟩) (mem_namesAt_iff.2 ⟨s', there', held'⟩)
    exact String.lt_irrefl _ (same ▸ less)

theorem mem_destinationNames_iff {name : String} : name ∈ c.destinationNames ↔ c.InUse name :=
  (h.listed name).trans inUse_iff.symm

/-- A name is refused for a set that is there exactly if it is in use, and taken for it otherwise. -/
theorem addDestination_iff (d : EventDestination) :
    ((c.addDestination id d).result = .error .eventDestinationTaken ↔ c.sets.get? id ≠ none ∧ c.InUse d.name) ∧
      ((c.addDestination id d).result = .ok () ↔ c.sets.get? id ≠ none ∧ ¬c.InUse d.name) := by
  rw [← h.mem_destinationNames_iff]
  rcases c.addDestination_cases id d with ⟨missing, h'⟩ | ⟨s, there, ⟨taken, h'⟩ | ⟨free, h'⟩⟩
  · simp [h', missing]
  · simp [h', there, taken]
  · simp [h', there, free]

/-- Once a set is gone, the names in use are those of the other sets. -/
theorem inUse_delete_iff (there : c.sets.get? id = some s) {name : String} :
    (c.delete id).state.InUse name ↔ c.InUse name ∧ name ∉ s.names := by
  rcases c.delete_cases id with ⟨missing, -⟩ | ⟨s', there', h'⟩
  · cases missing.symm.trans there
  · cases there.symm.trans there'
    have after := h.deleted there
    rw [h', Outcome.state_ok, ← after.mem_destinationNames_iff, ← h.mem_destinationNames_iff]
    simp [ConfigurationSet.names]

end Registered

end

end ConfigurationSets

/-! ### Runs -/

/-- An operation on a post does nothing to the configuration sets, or what one of their own operations does. -/
theorem Post.configurationSets_step (p : Post) (op : Op) :
    (p.step op).1.configurationSets = p.1.configurationSets ∨
      ∃ op', (p.step op).1.configurationSets = (p.1.configurationSets.perform op').state := by
  have effect := p.perform_effect op
  unfold Post.step
  generalize p.perform op = o at effect ⊢
  cases effect with
  | office op =>
    rcases p.1.configurationSets_perform op with same | ⟨op', -, same⟩
    · exact .inl same
    · exact .inr ⟨op', same⟩
  -- sends write the log, the counts and what is published
  | _ => exact .inl rfl

theorem Post.registered_run (scope : Scope) (ops : List Op) :
    ((blank scope).run ops).1.configurationSets.Registered := by
  have start : (blank scope).1.configurationSets.Registered := ConfigurationSets.registered_new scope
  refine List.foldlRecOn (motive := fun p => p.1.configurationSets.Registered) ops Post.step start fun p h op _ => ?_
  rcases p.configurationSets_step op with same | ⟨op', same⟩
  · rw [same]
    exact h
  · rw [same]
    exact h.perform op'

/-- **Names of event destinations.** After every run, no name is held twice by all sets together, and the list of names
has those in use. A name is refused exactly while a set holds it. When a set is removed its names are no longer in use,
so each of them may be given again. -/
theorem Post.eventDestinations_run (scope : Scope) (ops : List Op) :
    let c := ((blank scope).run ops).1.configurationSets
    c.allNames.Nodup ∧ c.destinationNames.Nodup ∧ (∀ name, name ∈ c.destinationNames ↔ c.InUse name) ∧
      (∀ id d,
        ((c.addDestination id d).result = .error .eventDestinationTaken ↔ c.sets.get? id ≠ none ∧ c.InUse d.name) ∧
        ((c.addDestination id d).result = .ok () ↔ c.sets.get? id ≠ none ∧ ¬c.InUse d.name)) ∧
      ∀ id s, c.sets.get? id = some s → (c.delete id).result = .ok () ∧
        (∀ name, (c.delete id).state.InUse name ↔ c.InUse name ∧ name ∉ s.names) ∧
        ∀ id' d, d.name ∈ s.names → (c.delete id).state.sets.get? id' ≠ none →
          ((c.delete id).state.addDestination id' d).result = .ok () := by
  intro c
  have h : c.Registered := registered_run scope ops
  refine ⟨h.nodup_allNames, h.distinct, fun _ => h.mem_destinationNames_iff, fun _ d => h.addDestination_iff d,
    fun id s there => ⟨?_, fun _ => h.inUse_delete_iff there, fun id' d own other => ?_⟩⟩
  · rcases c.delete_cases id with ⟨missing, -⟩ | ⟨s', -, h'⟩
    · cases missing.symm.trans there
    · rw [h']; rfl
  · have after : (c.delete id).state.Registered := h.perform (.delete id)
    exact (after.addDestination_iff d).2.2 ⟨other, fun used => ((h.inUse_delete_iff there).1 used).2 own⟩

/-- A destination for bounces. -/
def bounces : EventDestination :=
  ⟨"bounces", true, ["bounce"], none⟩

/-- Two sets, of which the first one has the destination. -/
def twoSets : List Post.Op :=
  [.office (.configuration (.create "first" {})), .office (.configuration (.create "second" {})),
    .office (.configuration (.addDestination "first" bounces))]

/-- The name is refused for the second set, and taken once the first set is gone. -/
theorem Post.eventDestinations_twoSets :
    let c := ((blank { account := "123456789012", region := "us-east-1" }).run twoSets).1.configurationSets
    c.sets.get? "first" = some ⟨"first", {}, [bounces]⟩ ∧
      (c.addDestination "second" bounces).result = .error .eventDestinationTaken ∧
      ((c.delete "first").state.addDestination "second" bounces).result = .ok () := by
  intro c
  have there : c.sets.get? "first" = some ⟨"first", {}, [bounces]⟩ := by decide +kernel
  obtain ⟨-, -, listed, added, deleted⟩ := eventDestinations_run _ twoSets
  have used : c.InUse "bounces" := (listed "bounces").1 (by decide +kernel)
  exact ⟨there, (added "second" bounces).1.2 ⟨by decide +kernel, used⟩,
    (deleted "first" _ there).2.2 "second" bounces (by decide) (by decide +kernel)⟩

end MockCloud.Mail
