import MockCloud.Outcome
import MockCloud.SortedMap

/-! # Stores

A store owns the resources of one kind, each under its id, and the context in which they live. What a
resource is made from, how it changes and whether it may go is said by its kind, an instance of `Entity`.
Ids are of any type with a linear order; they are texts unless another type is named.

* `create` refuses an id that is taken, `update` and `delete` one that is missing.
* `delete` asks the resource first; `discard` and `retain` do not. -/

namespace MockCloud

/-- A kind of resource: `New` is what one is made from, `Change` what changes it, `Context` where it lives,
`Error` how its service fails and `Id` what tells its resources apart. -/
class Entity (α : Type) (New Change Context Error : outParam Type) (Id : Type := String) where
  /-- The id that the resource carries. -/
  id : α → Id
  /-- A new resource. -/
  make : Id → New → Context → Except Error α
  /-- The resource after a change; a change that fails half-way leaves what it has done. -/
  change : α → Change → Context → Outcome α Error Unit
  /-- Whether the resource may be removed. -/
  mayGo : α → Context → Except Error Unit := fun _ _ => .ok ()
  /-- The error for an id that is missing. -/
  missing : Id → Context → Error
  /-- The error for an id that is taken. -/
  taken : Id → Context → Error

/-- The resources of one kind. -/
structure Store (α κ : Type) (ι : Type := String) [LT ι] where
  context : κ
  items : SortedMap α ι

namespace Store

set_option linter.unusedSectionVars false

variable {α ν χ κ ε ι : Type} [LT ι] [DecidableLT ι] [DecidableEq ι] [KeyOrder ι] [Entity α ν χ κ ε ι]

/-- A store without resources. -/
def new (context : κ) : Store α κ ι :=
  ⟨context, .empty⟩

/-- The resource with this id. -/
def get? (s : Store α κ ι) (id : ι) : Option α :=
  s.items.get? id

/-- Whether there is a resource with this id. -/
def contains (s : Store α κ ι) (id : ι) : Bool :=
  s.items.contains id

/-- The resources in the order of their ids. -/
def values (s : Store α κ ι) : List α :=
  s.items.values

/-- The ids in order. -/
def ids (s : Store α κ ι) : List ι :=
  s.items.keys

/-- The number of resources. -/
def size (s : Store α κ ι) : Nat :=
  s.items.size

/-- Whether there are no resources. -/
def isEmpty (s : Store α κ ι) : Bool :=
  s.items.isEmpty

/-- The resource with this id, which must be there. -/
def require (s : Store α κ ι) (id : ι) : Except ε α :=
  match s.get? id with
  | some a => .ok a
  | none => .error (Entity.missing α id s.context)

/-- Refuses an id that is taken. -/
def ensureAbsent (s : Store α κ ι) (id : ι) : Except ε Unit :=
  if s.contains id then .error (Entity.taken α id s.context) else .ok ()

/-- The store with `f` applied to one resource. -/
def modify (s : Store α κ ι) (id : ι) (f : α → α) : Store α κ ι :=
  { s with items := s.items.modify id f }

/-- The store with `f` applied to every resource. -/
def modifyAll (s : Store α κ ι) (f : α → α) : Store α κ ι :=
  { s with items := s.items.mapValues fun _ a => f a }

/-- Makes a resource and keeps it under the id. -/
def create (s : Store α κ ι) (id : ι) (params : ν) : Outcome (Store α κ ι) ε α :=
  .guard (s.ensureAbsent id) s fun _ =>
    .guard (Entity.make id params s.context) s fun a =>
      .ok a { s with items := s.items.insert id a }

/-- Changes a resource in place. -/
def update (s : Store α κ ι) (id : ι) (change : χ) : Outcome (Store α κ ι) ε α :=
  .guard (s.require id) s fun a =>
    let o := Entity.change ι a change s.context
    ⟨o.result.map fun _ => o.state, { s with items := s.items.insert id o.state }⟩

/-- Removes a resource that is there and may go. -/
def delete (s : Store α κ ι) (id : ι) : Outcome (Store α κ ι) ε α :=
  .guard (s.require id) s fun a =>
    .guard (Entity.mayGo ι a s.context) s fun _ =>
      .ok a { s with items := s.items.erase id }

/-- Removes a resource if it is there. -/
def discard (s : Store α κ ι) (id : ι) : Option α × Store α κ ι :=
  (s.get? id, { s with items := s.items.erase id })

/-- Keeps only some of the resources. -/
def retain (s : Store α κ ι) (keep : α → Bool) : Store α κ ι :=
  { s with items := s.items.filter fun _ a => keep a }

/-- Removes every resource. -/
def clear (s : Store α κ ι) : Store α κ ι :=
  { s with items := .empty }

/-! ### What the operations do at an id -/

section

omit [Entity α ν χ κ ε ι]

theorem contains_eq_true_iff {s : Store α κ ι} {id : ι} :
    s.contains id = true ↔ ∃ a, s.get? id = some a :=
  SortedMap.contains_eq_true_iff

theorem contains_eq_false_iff {s : Store α κ ι} {id : ι} :
    s.contains id = false ↔ s.get? id = none :=
  SortedMap.contains_eq_false_iff

theorem mem_values_iff {s : Store α κ ι} {a : α} : a ∈ s.values ↔ ∃ id, s.get? id = some a :=
  SortedMap.mem_values_iff

theorem filterMap_values {β : Type} (s : Store α κ ι) (f : α → Option β) :
    s.values.filterMap f = s.ids.filterMap fun id => (s.get? id).bind f :=
  s.items.filterMap_values f

/-- The store with a resource under an id. -/
def put (s : Store α κ ι) (id : ι) (a : α) : Store α κ ι :=
  { s with items := s.items.insert id a }

/-- The store without an id. -/
def drop (s : Store α κ ι) (id : ι) : Store α κ ι :=
  { s with items := s.items.erase id }

theorem get?_put (s : Store α κ ι) (id k : ι) (a : α) :
    (s.put id a).get? k = if k = id then some a else s.get? k :=
  SortedMap.get?_insert ..

/-- What is in a store is not lost when something is put into it. -/
theorem exists_get?_put {s : Store α κ ι} {k : ι} (h : ∃ b, s.get? k = some b) (id : ι) (a : α) :
    ∃ b, (s.put id a).get? k = some b := by
  rw [get?_put]
  split
  · exact ⟨a, rfl⟩
  · exact h

theorem get?_drop (s : Store α κ ι) (id k : ι) :
    (s.drop id).get? k = if k = id then none else s.get? k :=
  SortedMap.get?_erase ..

/-- Something holds of every resource and the id that it stands under. -/
def Each (s : Store α κ ι) (P : ι → α → Prop) : Prop :=
  ∀ id a, s.get? id = some a → P id a

theorem each_new (context : κ) (P : ι → α → Prop) : (new context : Store α κ ι).Each P :=
  fun _ _ h => (by cases h)

theorem Each.put {s : Store α κ ι} {P : ι → α → Prop} (h : s.Each P) {id : ι} {a : α} (ha : P id a) :
    (s.put id a).Each P := by
  intro k b hb
  rw [get?_put] at hb
  split at hb
  · next hk => cases hb; rw [hk]; exact ha
  · exact h k b hb

theorem Each.drop {s : Store α κ ι} {P : ι → α → Prop} (h : s.Each P) (id : ι) : (s.drop id).Each P := by
  intro k b hb
  rw [get?_drop] at hb
  split at hb
  · cases hb
  · exact h k b hb

theorem get?_modify (s : Store α κ ι) (id k : ι) (f : α → α) :
    (s.modify id f).get? k = if k = id then (s.get? k).map f else s.get? k :=
  SortedMap.get?_modify ..

theorem put_of_get? {s : Store α κ ι} {id : ι} {a : α} (h : s.get? id = some a) : s.put id a = s :=
  congrArg (Store.mk s.context) (SortedMap.insert_of_get? h)

theorem modify_of_get? {s : Store α κ ι} {id : ι} {a : α} (h : s.get? id = some a) (f : α → α) :
    s.modify id f = s.put id (f a) :=
  congrArg (Store.mk s.context) (SortedMap.modify_of_get? h f)

theorem get?_modifyAll (s : Store α κ ι) (f : α → α) (k : ι) :
    (s.modifyAll f).get? k = (s.get? k).map f :=
  SortedMap.get?_mapValues ..

theorem get?_retain (s : Store α κ ι) (keep : α → Bool) (k : ι) :
    (s.retain keep).get? k = (s.get? k).filter keep :=
  SortedMap.get?_filter ..

theorem Each.modify {s : Store α κ ι} {P : ι → α → Prop} (h : s.Each P) (id : ι) {f : α → α}
    (keeps : ∀ k a, P k a → P k (f a)) : (s.modify id f).Each P := by
  intro k b hb
  rw [get?_modify] at hb
  split at hb
  · obtain ⟨a, ha, rfl⟩ := Option.map_eq_some_iff.1 hb
    exact keeps k a (h k a ha)
  · exact h k b hb

theorem Each.modifyAll {s : Store α κ ι} {P : ι → α → Prop} (h : s.Each P) {f : α → α}
    (keeps : ∀ k a, P k a → P k (f a)) : (s.modifyAll f).Each P := by
  intro k b hb
  rw [get?_modifyAll] at hb
  obtain ⟨a, ha, rfl⟩ := Option.map_eq_some_iff.1 hb
  exact keeps k a (h k a ha)

theorem Each.retain {s : Store α κ ι} {P : ι → α → Prop} (h : s.Each P) (keep : α → Bool) :
    (s.retain keep).Each P := by
  intro k b hb
  rw [get?_retain] at hb
  exact h k b (Option.filter_eq_some_iff.1 hb).1

/-! ### Stores without a part of their resources -/

/-- A store is its context and what it holds. -/
theorem ext_get? {s s' : Store α κ ι} (context : s.context = s'.context) (held : ∀ k, s.get? k = s'.get? k) : s = s' := by
  cases s
  cases s'
  cases context
  exact congrArg _ (SortedMap.ext_get? held)

section

variable {β γ : Type} (bare : α → β) (part : α → γ)

/-- The resources of a store as they look without a part of them. -/
def without (s : Store α κ ι) : Store β κ ι :=
  ⟨s.context, s.items.mapValues fun _ a => bare a⟩

theorem get?_without (s : Store α κ ι) (k : ι) : (s.without bare).get? k = (s.get? k).map bare :=
  SortedMap.get?_mapValues ..

/-- A change of the part that is left out is not seen. -/
theorem without_modify (s : Store α κ ι) (id : ι) {f : α → α} (blind : ∀ a, bare (f a) = bare a) :
    (s.modify id f).without bare = s.without bare := by
  refine ext_get? rfl fun k => ?_
  rw [get?_without, get?_without, get?_modify]
  split
  · rw [Option.map_map]
    exact congrArg (fun g => (s.get? k).map g) (funext blind)
  · rfl

theorem without_put {s : Store α κ ι} {id : ι} {a b : α} (there : s.get? id = some a) (blind : bare b = bare a) :
    (s.put id b).without bare = s.without bare := by
  refine ext_get? rfl fun k => ?_
  rw [get?_without, get?_without, get?_put]
  split
  · next hk => rw [hk, there, Option.map_some, Option.map_some, blind]
  · rfl

variable {s s' : Store α κ ι} (same : s.without bare = s'.without bare)
include same

theorem context_eq_of_without : s.context = s'.context :=
  congrArg (fun t : Store β κ ι => t.context) same

/-- A resource is what is left of it, and what is left out. -/
theorem get?_eq_of_without (whole : ∀ a b, bare a = bare b → part a = part b → a = b) {k : ι}
    (parts : (s.get? k).map part = (s'.get? k).map part) : s.get? k = s'.get? k := by
  have rest : (s.get? k).map bare = (s'.get? k).map bare := by
    rw [← get?_without, same, get?_without]
  cases hs : s.get? k with
  | none =>
    rw [hs, Option.map_none] at parts
    exact (Option.map_eq_none_iff.1 parts.symm).symm
  | some a =>
    rw [hs, Option.map_some] at rest parts
    obtain ⟨b, hb, bares⟩ := Option.map_eq_some_iff.1 rest.symm
    rw [hb, Option.map_some] at parts
    rw [hb, whole a b bares.symm (Option.some.inj parts)]

theorem eq_of_without (whole : ∀ a b, bare a = bare b → part a = part b → a = b)
    (parts : ∀ k, (s.get? k).map part = (s'.get? k).map part) : s = s' :=
  ext_get? (context_eq_of_without bare same) fun k => get?_eq_of_without bare part same whole (parts k)

end

end

theorem require_eq_ok_iff {s : Store α κ ι} {id : ι} {a : α} :
    s.require id = .ok a ↔ s.get? id = some a := by
  unfold require
  cases s.get? id <;> simp

theorem require_congr {s s' : Store α κ ι} {id : ι} (context : s.context = s'.context)
    (held : s.get? id = s'.get? id) : s.require id = s'.require id := by
  rw [require, require, context, held]

theorem require_cases (s : Store α κ ι) (id : ι) :
    (s.get? id = none ∧ s.require id = .error (Entity.missing α id s.context)) ∨
      ∃ a, s.get? id = some a ∧ s.require id = .ok a := by
  unfold require
  cases s.get? id with
  | none => exact .inl ⟨rfl, rfl⟩
  | some a => exact .inr ⟨a, rfl, rfl⟩

theorem ensureAbsent_cases (s : Store α κ ι) (id : ι) :
    (∃ a, s.get? id = some a ∧ s.ensureAbsent id = .error (Entity.taken α id s.context)) ∨
      (s.get? id = none ∧ s.ensureAbsent id = .ok ()) := by
  unfold ensureAbsent
  cases hc : s.contains id with
  | true =>
    obtain ⟨a, ha⟩ := contains_eq_true_iff.1 hc
    exact .inl ⟨a, ha, rfl⟩
  | false => exact .inr ⟨contains_eq_false_iff.1 hc, rfl⟩

theorem create_cases (s : Store α κ ι) (id : ι) (p : ν) :
    (∃ e, (s.get? id ≠ none ∨ (Entity.make id p s.context : Except ε α) = .error e) ∧
        s.create id p = .fail e s) ∨
      ∃ a, s.get? id = none ∧ Entity.make id p s.context = .ok a ∧
        s.create id p = .ok a (s.put id a) := by
  unfold create ensureAbsent
  cases hc : s.contains id with
  | true =>
    obtain ⟨a, ha⟩ := contains_eq_true_iff.1 hc
    exact .inl ⟨_, .inl (by simp [ha]), rfl⟩
  | false =>
    rcases Outcome.guard_cases (Entity.make id p s.context : Except ε α) s _ with ⟨e, he, h⟩ | ⟨a, ha, h⟩
    · exact .inl ⟨e, .inr he, h⟩
    · exact .inr ⟨a, contains_eq_false_iff.1 hc, ha, h⟩

theorem create_eq_ok {s : Store α κ ι} {id : ι} {p : ν} {a : α} (free : s.get? id = none)
    (made : (Entity.make id p s.context : Except ε α) = .ok a) : s.create id p = .ok a (s.put id a) := by
  unfold create ensureAbsent
  rw [contains_eq_false_iff.2 free, made]
  rfl

theorem create_eq_fail {s : Store α κ ι} {id : ι} {p : ν} {e : ε} (free : s.get? id = none)
    (refused : (Entity.make id p s.context : Except ε α) = .error e) : s.create id p = .fail e s := by
  unfold create ensureAbsent
  rw [contains_eq_false_iff.2 free, refused]
  rfl

theorem delete_cases (s : Store α κ ι) (id : ι) :
    (∃ e, s.delete id = .fail e s) ∨
      ∃ a, s.get? id = some a ∧ Entity.mayGo ι a s.context = .ok () ∧ s.delete id = .ok a (s.drop id) := by
  unfold delete
  rcases require_cases s id with ⟨-, h⟩ | ⟨a, ha, h⟩
  · exact .inl ⟨_, by rw [h]; rfl⟩
  · rw [h]
    rcases Outcome.guard_cases (Entity.mayGo ι a s.context) s _ with ⟨e, -, h⟩ | ⟨⟨⟩, hgo, h⟩
    · exact .inl ⟨e, h⟩
    · exact .inr ⟨a, ha, hgo, h⟩

theorem update_cases (s : Store α κ ι) (id : ι) (c : χ) :
    (s.get? id = none ∧ s.update id c = .fail (Entity.missing α id s.context) s) ∨
      ∃ a b, s.get? id = some a ∧
        ((Entity.change ι a c s.context = .ok () b ∧ s.update id c = .ok b (s.put id b)) ∨
          ∃ e, Entity.change ι a c s.context = .fail e b ∧ s.update id c = .fail e (s.put id b)) := by
  unfold update
  rcases require_cases s id with ⟨hn, h⟩ | ⟨a, ha, h⟩
  · rw [h]
    exact .inl ⟨hn, rfl⟩
  · rw [h]
    -- a change that fails half-way is stored as far as it has come
    rcases hc : (Entity.change ι a c s.context : Outcome α ε Unit) with ⟨_ | _, b⟩
    · exact .inr ⟨a, b, ha, .inr ⟨_, hc, by simp only [Outcome.guard_ok, hc]; rfl⟩⟩
    · exact .inr ⟨a, b, ha, .inl ⟨hc, by simp only [Outcome.guard_ok, hc]; rfl⟩⟩

end Store

end MockCloud
