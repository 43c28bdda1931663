import MockCloud.Network.Labels
import MockCloud.Proofs.Tag.Rules

/-! # Tags at one id

The operations on tags find a resource by the kind that its id tells, in the store of that kind. Seen from
a store and an id, a change of tags either meets the resource there or leaves it alone.

* `held?_changeTags`: what a change of tags does at every kind and id.
* `createTags_one_cases` and `deleteTags_one_cases`: the operations on a single id. -/

namespace MockCloud.Network

/-- The own id and the tags of what stands in a store under an id. -/
def held? (n : Network) : Kind → String → Option (String × TagMap)
  | .vpc, id => (n.vpcs.get? id).map fun r => (r.id, r.tags)
  | .subnet, id => (n.subnets.get? id).map fun r => (r.id, r.tags)
  | .acl, id => (n.acls.get? id).map fun r => (r.id, r.tags)
  | .gateway, id => (n.gateways.get? id).map fun r => (r.id, r.tags)
  | .address, id => (n.addresses.get? id).map fun r => (r.id, r.tags)

/-- The ids of the resources of a kind. -/
def ids (n : Network) : Kind → List String
  | .vpc => n.vpcs.ids
  | .subnet => n.subnets.ids
  | .acl => n.acls.ids
  | .gateway => n.gateways.ids
  | .address => n.addresses.ids

/-- All kinds, in the order in which resources are listed. -/
def Kind.all : List Kind :=
  [.vpc, .subnet, .acl, .gateway, .address]

theorem Kind.mem_all (kind : Kind) : kind ∈ all := by
  cases kind <;> decide

theorem mem_ids_iff {n : Network} {kind : Kind} {id : String} : id ∈ n.ids kind ↔ ∃ x, n.held? kind id = some x := by
  have store {α : Type} (s : Store α Scope) (f : α → String × TagMap) :
      id ∈ s.ids ↔ ∃ x, (s.get? id).map f = some x := by
    rw [Store.ids, SortedMap.mem_keys_iff]
    simp only [Option.map_eq_some_iff]
    constructor
    · rintro ⟨a, there⟩
      exact ⟨_, a, there, rfl⟩
    · rintro ⟨_, a, there, -⟩
      exact ⟨a, there⟩
  cases kind <;> exact store _ _

theorem nodup_ids (n : Network) (kind : Kind) : (n.ids kind).Nodup := by
  cases kind <;> exact SortedMap.nodup_keys _

section

variable (n : Network) (id : String)

/-- What is listed of each kind is what stands in its store. -/
theorem labelled_eq :
    n.labelled = Kind.all.flatMap fun kind => (n.ids kind).filterMap fun id =>
      (n.held? kind id).map fun x => (x.1, kind, x.2) := by
  have store {α : Type} (s : Store α Scope) (f : α → String × Kind × TagMap) :
      s.values.map f = s.ids.filterMap fun id => (s.get? id).map f := by
    rw [← List.filterMap_eq_map, Store.filterMap_values]
    simp only [Option.map_eq_bind]
  simp only [labelled, store, Kind.all, List.flatMap_cons, List.flatMap_nil, List.append_nil, List.append_assoc, ids,
    held?, Option.map_map]
  rfl

theorem tagsOf?_of_kind {kind : Kind} (h : Kind.ofId? id = some kind) :
    n.tagsOf? id = (n.held? kind id).map (·.2) := by
  unfold tagsOf?
  rw [h]
  cases kind <;> simp only [held?, Option.map_map] <;> rfl

theorem tagsOf?_eq_some_iff {tags : TagMap} :
    n.tagsOf? id = some tags ↔ ∃ kind own, Kind.ofId? id = some kind ∧ n.held? kind id = some (own, tags) := by
  cases h : Kind.ofId? id with
  | none =>
    have none : n.tagsOf? id = none := by unfold tagsOf?; rw [h]
    simp [none]
  | some kind => simp [n.tagsOf?_of_kind id h]

theorem map_get?_modify {α β κ : Type} (s : Store α κ) (k : String) {g : α → β} {f : α → α} {h : β → β}
    (seen : ∀ a, g (f a) = h (g a)) :
    ((s.modify id f).get? k).map g = if k = id then ((s.get? k).map g).map h else (s.get? k).map g := by
  rw [Store.get?_modify]
  split
  · rw [Option.map_map, Option.map_map]
    exact congrArg (fun u => (s.get? k).map u) (funext seen)
  · rfl

theorem held?_changeTags (f : TagMap → TagMap) (kind : Kind) (k : String) :
    (n.changeTags id f).held? kind k =
      if Kind.ofId? id = some kind ∧ k = id then (n.held? kind k).map fun x => (x.1, f x.2)
      else n.held? kind k := by
  unfold changeTags
  cases told : Kind.ofId? id with
  | none => simp
  | some kind' =>
    by_cases same : kind' = kind
    · subst same
      simp only [true_and]
      cases kind' <;> exact map_get?_modify id _ k fun _ => rfl
    · rw [if_neg fun h => same (Option.some.inj h.1)]
      -- the stores of the other kinds are the same
      cases kind' <;> cases kind <;> first | rfl | exact absurd rfl same

theorem scope_changeTags (f : TagMap → TagMap) : (n.changeTags id f).scope = n.scope := by
  unfold changeTags
  split <;> rfl

theorem mergedTags_one {old : TagMap} (there : n.tagsOf? id = some old) (tags : TagMap) :
    n.mergedTags tags [id] =
      ((TagPolicy.standard.merged old tags).mapError NetworkError.ofTags).map fun all => [(id, all)] := by
  have known : n.requireTags id = .ok old := by rw [requireTags, there]
  rw [mergedTags, known]
  dsimp only [bind, Except.bind]
  cases TagPolicy.standard.merged old tags <;> rfl

theorem createTags_one_cases (tags : List Tag) :
    (∃ e, n.createTags [id] tags = .fail e n ∧ ∀ old all, n.tagsOf? id = some old →
        TagPolicy.standard.merged old (.ofTags tags) ≠ .ok all) ∨
      ∃ old all, n.tagsOf? id = some old ∧ TagPolicy.standard.merged old (.ofTags tags) = .ok all ∧
        n.createTags [id] tags = .ok () (n.changeTags id fun _ => all) := by
  unfold createTags
  cases there : n.tagsOf? id with
  | none =>
    have unknown : n.mergedTags (.ofTags tags) [id] = .error (.invalidId id) := by
      rw [mergedTags, requireTags, there]
      rfl
    exact .inl ⟨_, by rw [unknown]; rfl, fun _ _ h => (by cases h)⟩
  | some old =>
    rw [mergedTags_one n id there]
    cases merged : TagPolicy.standard.merged old (.ofTags tags) with
    | error v =>
      refine .inl ⟨.ofTags v, rfl, fun old' all h h' => ?_⟩
      cases h
      cases merged.symm.trans h'
    | ok all => exact .inr ⟨old, all, rfl, merged, rfl⟩

theorem deleteTags_one_cases (removals : List TagRemoval) :
    (∃ e, n.deleteTags [id] removals = .fail e n ∧ n.tagsOf? id = none) ∨
      ∃ old, n.tagsOf? id = some old ∧ n.deleteTags [id] removals =
        .ok () (n.changeTags id fun tags => removals.foldl TagRemoval.apply tags) := by
  unfold deleteTags requireTags
  cases there : n.tagsOf? id with
  | none => exact .inl ⟨.invalidId id, by simp [there]; rfl, rfl⟩
  | some old => exact .inr ⟨old, rfl, by simp [there]; rfl⟩

end

/-- A removal of a key takes the key off, whether it is there or not. -/
theorem foldl_removals (tags : TagMap) (keys : List String) :
    (keys.map fun key => TagRemoval.mk key none).foldl TagRemoval.apply tags = tags.eraseKeys keys := by
  have one (tags : TagMap) (key : String) : TagRemoval.apply tags ⟨key, none⟩ = tags.erase key := by
    unfold TagRemoval.apply
    cases h : tags.get? key with
    | some v => rfl
    | none =>
      refine SortedMap.ext_get? fun k => ?_
      rw [SortedMap.get?_erase]
      by_cases hk : k = key
      · rw [if_pos hk, hk, h]
      · rw [if_neg hk]
  unfold TagMap.eraseKeys
  induction keys generalizing tags with
  | nil => rfl
  | cons key keys ih => rw [List.map_cons, List.foldl_cons, List.foldl_cons, one, ih]

end MockCloud.Network
