import Mathlib.Data.List.Nodup
import MockCloud.Proofs.Network.Foundation

/-! # The entries of access lists

An access list keeps its entries in a row, and the operations on entries look for one by its number and
direction. No two entries of a list ever share both, so that the row is a table: an entry is put behind the
others if its place in the table is free, and taken out or exchanged where it stands.

* `AclEntry.Sound last e`: the entry may be stored, with a number up to `last`.
* `createEntry_ok_iff`, `replaceEntry_ok_iff` and `deleteEntry_ok_iff`: when an operation on entries succeeds,
  and what it leaves.
* `TableStep`: what any operation may do to the entries of one list, by cases.
* `entries_tabular`: the entries of every list are a table, after any run. -/

namespace MockCloud.Network

/-! ### Entries that may be stored -/

/-- The entry has a number from 1 to `last`, a block that can be read, and ports in their order. -/
structure AclEntry.Sound (last : Nat) (e : AclEntry) : Prop where
  positive : 1 ≤ e.ruleNumber
  le_last : e.ruleNumber ≤ last
  block : ∃ c, Cidr.parse? e.block = some c
  ports : ∀ r, e.ports = some r → r.first ≤ r.last

theorem AclEntry.Sound.mono {last last' : Nat} {e : AclEntry} (h : e.Sound last) (le : last ≤ last') :
    e.Sound last' :=
  { h with le_last := Nat.le_trans h.le_last le }

/-- **The check of an entry** lets pass what may be stored under a number for callers. -/
theorem AclEntry.validate_eq_ok_iff {e : AclEntry} : e.validate = .ok () ↔ e.Sound maxRuleNumber := by
  unfold validate
  by_cases number : e.ruleNumber < 1 ∨ maxRuleNumber < e.ruleNumber
  · rw [if_pos number]
    refine iff_of_false nofun fun h => ?_
    have := h.positive
    have := h.le_last
    omega
  rw [if_neg number]
  rw [not_or, Nat.not_lt, Nat.not_lt] at number
  cases block : Cidr.parse? e.block with
  | none =>
    refine iff_of_false nofun fun h => ?_
    obtain ⟨c, hc⟩ := h.block
    cases block.symm.trans hc
  | some c =>
    rw [Option.isNone_some, if_neg Bool.false_ne_true]
    cases ports : e.ports with
    | none => exact iff_of_true rfl ⟨number.1, number.2, ⟨c, block⟩, fun r h => nomatch ports.symm.trans h⟩
    | some r =>
      dsimp only
      split
      next order =>
        refine iff_of_false nofun fun h => ?_
        have := h.ports r ports
        omega
      next order =>
        refine iff_of_true rfl ⟨number.1, number.2, ⟨c, block⟩, fun r' h => ?_⟩
        cases ports.symm.trans h
        exact Nat.not_lt.1 order

theorem sound_catchAll {number : Nat} (positive : 1 ≤ number) (le : number ≤ defaultRuleNumber)
    (action : RuleAction) (egress : Bool) : (AclEntry.catchAll number action egress).Sound defaultRuleNumber where
  positive := positive
  le_last := le
  block := Option.isSome_iff_exists.1 (by decide +kernel : (Cidr.parse? "0.0.0.0/0").isSome = true)
  ports := nofun

/-! ### Tables of entries -/

/-- The entries are a table: one for each number and direction, and all of them may be stored. -/
structure Tabular (entries : List AclEntry) : Prop where
  single : (entries.map AclEntry.key).Nodup
  sound : ∀ e ∈ entries, e.Sound defaultRuleNumber

theorem tabular_nil : Tabular [] :=
  ⟨.nil, nofun⟩

theorem tabular_defaultEntries : Tabular defaultEntries where
  single := by decide
  sound e he := by
    simp only [defaultEntries, List.mem_cons, List.not_mem_nil, or_false] at he
    rcases he with rfl | rfl | rfl | rfl
    all_goals exact sound_catchAll (by decide) (by decide) _ _

section

variable {before after entries : List AclEntry} {x e : AclEntry}

theorem Tabular.append (h : Tabular entries) (free : ∀ y ∈ entries, y.key ≠ e.key)
    (sound : e.Sound defaultRuleNumber) : Tabular (entries ++ [e]) where
  single := by
    rw [List.map_append, List.map_singleton, List.nodup_append]
    refine ⟨h.single, List.nodup_singleton _, fun k hk k' hk' => ?_⟩
    obtain ⟨y, hy, rfl⟩ := List.mem_map.1 hk
    rw [List.mem_singleton.1 hk']
    exact free y hy
  sound y hy := by
    rcases List.mem_append.1 hy with hy | hy
    · exact h.sound y hy
    · rw [List.mem_singleton.1 hy]
      exact sound

/-- No other entry of a table has the key of one. -/
theorem Tabular.apart (h : Tabular (before ++ x :: after)) : ∀ y ∈ before ++ after, y.key ≠ x.key := by
  have single := h.single
  rw [List.map_append, List.map_cons, List.nodup_middle, List.nodup_cons, ← List.map_append] at single
  intro y hy same
  exact single.1 (List.mem_map.2 ⟨y, hy, same⟩)

theorem Tabular.remove (h : Tabular (before ++ x :: after)) : Tabular (before ++ after) :=
  have fewer : (before ++ after).Sublist (before ++ x :: after) := (List.sublist_cons_self x after).append_left before
  ⟨h.single.sublist (fewer.map _), fun y hy => h.sound y (fewer.subset hy)⟩

theorem Tabular.replace (h : Tabular (before ++ x :: after)) (same : x.key = e.key)
    (sound : e.Sound defaultRuleNumber) : Tabular (before ++ e :: after) where
  single := by
    have keys : (before ++ e :: after).map AclEntry.key = (before ++ x :: after).map AclEntry.key := by
      rw [List.map_append, List.map_cons, List.map_append, List.map_cons, same]
    rw [keys]
    exact h.single
  sound y hy := by
    rcases List.mem_append.1 hy with hy | hy
    · exact h.sound y (List.mem_append_left _ hy)
    · rcases List.mem_cons.1 hy with rfl | hy
      · exact sound
      · exact h.sound y (List.mem_append_right _ (List.mem_cons_of_mem _ hy))

end

/-! ### Finding an entry -/

section

variable {a : Acl} {ruleNumber : Nat} {egress : Bool}

/-- The search for an entry compares keys. -/
theorem seeks_iff {e : AclEntry} :
    (e.ruleNumber == ruleNumber && e.egress == egress) = true ↔ e.key = (ruleNumber, egress) := by
  simp [AclEntry.key]

theorem Acl.entryAt?_eq_none_iff :
    a.entryAt? ruleNumber egress = none ↔ ∀ e ∈ a.entries, e.key ≠ (ruleNumber, egress) := by
  rw [entryAt?, List.findIdx?_eq_none_iff]
  exact forall₂_congr fun e _ => by rw [← Bool.not_eq_true, seeks_iff]

/-- The place that is found is that of the first entry with the key. -/
theorem Acl.exists_split_of_entryAt? {i : Nat} (found : a.entryAt? ruleNumber egress = some i) :
    ∃ before e after, a.entries = before ++ e :: after ∧ before.length = i ∧ e.key = (ruleNumber, egress) ∧
      ∀ y ∈ before, y.key ≠ (ruleNumber, egress) := by
  obtain ⟨lt, sought, first⟩ := List.findIdx?_eq_some_iff_getElem.1 found
  have split : a.entries = a.entries.take i ++ a.entries[i] :: a.entries.drop (i + 1) := by
    rw [List.getElem_cons_drop, List.take_append_drop]
  refine ⟨_, _, _, split, List.length_take_of_le (Nat.le_of_lt lt), seeks_iff.1 sought, fun y hy named => ?_⟩
  obtain ⟨j, hj, rfl⟩ := List.mem_take_iff_getElem.1 hy
  exact first j (Nat.lt_of_lt_of_le hj (Nat.min_le_left ..)) (seeks_iff.2 named)

theorem Acl.entryAt?_of_split {before after : List AclEntry} {e : AclEntry} (split : a.entries = before ++ e :: after)
    (named : e.key = (ruleNumber, egress)) (first : ∀ y ∈ before, y.key ≠ (ruleNumber, egress)) :
    a.entryAt? ruleNumber egress = some before.length ∧ a.entry? ruleNumber egress = some e := by
  have passed : ∀ y ∈ before, (y.ruleNumber == ruleNumber && y.egress == egress) = false := fun y hy =>
    Bool.eq_false_iff.2 fun sought => first y hy (seeks_iff.1 sought)
  constructor
  · rw [entryAt?, split, List.findIdx?_append, List.findIdx?_eq_none_iff.2 passed, List.findIdx?_cons,
      if_pos (seeks_iff.2 named)]
    simp
  · refine List.find?_eq_some_iff_append.2 ⟨seeks_iff.2 named, before, after, split, fun y hy => ?_⟩
    rw [passed y hy]
    rfl

end

/-! ### What an operation on entries leaves -/

/-- The network `m` is `n` with other entries in the list under `k`, and with nothing else changed. -/
structure Rewritten (n : Network) (k : String) (entries : List AclEntry) (m : Network) : Prop where
  here : m.acls.get? k = (n.acls.get? k).map fun a => { a with entries }
  others : ∀ j, j ≠ k → m.acls.get? j = n.acls.get? j
  rest : ∃ items, m = { n with acls := { n.acls with items } }

section

variable {n m : Network} {k : String} {e x : AclEntry}

theorem rewritten_iff {entries : List AclEntry} : Rewritten n k entries m ↔ m = n.setEntries k entries := by
  have at_key (j : String) : (n.setEntries k entries).acls.get? j =
      if j = k then (n.acls.get? j).map fun a => { a with entries } else n.acls.get? j :=
    Store.get?_modify ..
  constructor
  · rintro ⟨here, others, items, rfl⟩
    have same : items = (n.setEntries k entries).acls.items := by
      refine SortedMap.ext_get? fun j => ?_
      have there := at_key j
      by_cases hj : j = k
      · subst hj
        rw [if_pos rfl] at there
        exact here.trans there.symm
      · rw [if_neg hj] at there
        exact (others j hj).trans there.symm
    rw [same]
    rfl
  · rintro rfl
    exact ⟨(at_key k).trans (if_pos rfl), fun j hj => (at_key j).trans (if_neg hj), _, rfl⟩

theorem getAcl_eq_ok_iff {a : Acl} : n.getAcl k = .ok a ↔ n.acls.get? k = some a :=
  Store.require_eq_ok_iff

/-- **When an entry is created**: it may be stored, and its place in the table is free. It is put behind all
others. -/
theorem createEntry_ok_iff : n.createEntry k e = .ok x m ↔ x = e ∧ e.Sound maxRuleNumber ∧
    ∃ a, n.acls.get? k = some a ∧ (∀ y ∈ a.entries, y.key ≠ e.key) ∧ Rewritten n k (a.entries ++ [e]) m := by
  simp only [rewritten_iff, ← AclEntry.validate_eq_ok_iff, ← getAcl_eq_ok_iff]
  unfold createEntry
  constructor
  · intro h
    rcases Outcome.guard_cases e.validate n _ with ⟨_, -, refused⟩ | ⟨⟨⟩, valid, passed⟩
    · rw [refused] at h; cases h
    rw [passed] at h
    rcases Outcome.guard_cases (n.getAcl k) n _ with ⟨_, -, refused⟩ | ⟨a, there, passed⟩
    · rw [refused] at h; cases h
    rw [passed] at h
    split at h
    · cases h
    next free =>
      cases h
      exact ⟨rfl, valid, a, there, Acl.entryAt?_eq_none_iff.1 (by simpa using free), rfl⟩
  · rintro ⟨rfl, valid, a, there, free, rfl⟩
    rw [valid, there, Outcome.guard_ok, Outcome.guard_ok, Acl.entryAt?_eq_none_iff.2 free]
    rfl

theorem eraseIdx_length_append {α : Type} (before after : List α) (a : α) :
    (before ++ a :: after).eraseIdx before.length = before ++ after := by
  rw [List.eraseIdx_append_of_length_le (Nat.le_refl _), Nat.sub_self, List.eraseIdx_cons_zero]

/-- **When an entry is deleted**: the list has one with this number and direction. The first of them goes. -/
theorem deleteEntry_ok_iff {ruleNumber : Nat} {egress : Bool} : n.deleteEntry k ruleNumber egress = .ok x m ↔
    ∃ a before after, n.acls.get? k = some a ∧ a.entries = before ++ x :: after ∧ x.key = (ruleNumber, egress) ∧
      (∀ y ∈ before, y.key ≠ (ruleNumber, egress)) ∧ Rewritten n k (before ++ after) m := by
  simp only [rewritten_iff, ← getAcl_eq_ok_iff]
  unfold deleteEntry
  constructor
  · intro h
    rcases Outcome.guard_cases (n.getAcl k) n _ with ⟨_, -, refused⟩ | ⟨a, there, passed⟩
    · rw [refused] at h; cases h
    rw [passed] at h
    cases found : a.entryAt? ruleNumber egress with
    | none => rw [found] at h; cases h
    | some i =>
      obtain ⟨before, e, after, split, rfl, named, first⟩ := Acl.exists_split_of_entryAt? found
      rw [found, (Acl.entryAt?_of_split split named first).2] at h
      cases h
      exact ⟨a, before, after, there, split, named, first, by rw [split, eraseIdx_length_append]⟩
  · rintro ⟨a, before, after, there, split, named, first, rfl⟩
    obtain ⟨place, entry⟩ := Acl.entryAt?_of_split split named first
    rw [there, Outcome.guard_ok, place, entry, split]
    dsimp only
    rw [eraseIdx_length_append]

/-- **When an entry is replaced**: it may be stored, and the list has one with this number and direction. The first
of them is exchanged. -/
theorem replaceEntry_ok_iff : n.replaceEntry k e = .ok x m ↔ x = e ∧ e.Sound maxRuleNumber ∧
    ∃ a before old after, n.acls.get? k = some a ∧ a.entries = before ++ old :: after ∧ old.key = e.key ∧
      (∀ y ∈ before, y.key ≠ e.key) ∧ Rewritten n k (before ++ e :: after) m := by
  simp only [rewritten_iff, ← AclEntry.validate_eq_ok_iff, ← getAcl_eq_ok_iff]
  unfold replaceEntry
  constructor
  · intro h
    rcases Outcome.guard_cases e.validate n _ with ⟨_, -, refused⟩ | ⟨⟨⟩, valid, passed⟩
    · rw [refused] at h; cases h
    rw [passed] at h
    rcases Outcome.guard_cases (n.getAcl k) n _ with ⟨_, -, refused⟩ | ⟨a, there, passed⟩
    · rw [refused] at h; cases h
    rw [passed] at h
    cases found : a.entryAt? e.ruleNumber e.egress with
    | none => rw [found] at h; cases h
    | some i =>
      obtain ⟨before, old, after, split, rfl, named, first⟩ := Acl.exists_split_of_entryAt? found
      rw [found] at h
      cases h
      exact ⟨rfl, valid, a, before, old, after, there, split, named, first, by rw [split]; simp⟩
  · rintro ⟨rfl, valid, a, before, old, after, there, split, named, first, rfl⟩
    rw [valid, there, Outcome.guard_ok, Outcome.guard_ok, (Acl.entryAt?_of_split split named first).1, split]
    simp

end

/-! ### The entries of one list along a run -/

/-- Whether a list is a default one, and its entries. -/
def Acl.table (a : Acl) : Bool × List AclEntry :=
  (a.isDefault, a.entries)

/-- The table of the list under `k`. -/
def table? (n : Network) (k : String) : Option (Bool × List AclEntry) :=
  (n.acls.get? k).map Acl.table

/-- What an operation with this result may do to the table under `k`. A table is made with the list and goes with
it; in between, only the operations on entries of this list change it. -/
inductive TableStep (k : String) :
    Op → Except NetworkError Unit → Option (Bool × List AclEntry) → Option (Bool × List AclEntry) → Prop
  | kept {op : Op} {r : Except NetworkError Unit} {t : Option (Bool × List AclEntry)}
      (other : r = .ok () → ∀ ruleNumber egress, op ≠ .deleteEntry k ruleNumber egress) : TableStep k op r t t
  | made {op : Op} {r : Except NetworkError Unit} (isDefault : Bool)
      (other : ∀ ruleNumber egress, op ≠ .deleteEntry k ruleNumber egress) :
      TableStep k op r none (some (isDefault, if isDefault then defaultEntries else []))
  | gone {op : Op} {r : Except NetworkError Unit} {t : Option (Bool × List AclEntry)} : TableStep k op r t none
  | created {isDefault : Bool} {entries : List AclEntry} {e : AclEntry} (sound : e.Sound maxRuleNumber)
      (free : ∀ y ∈ entries, y.key ≠ e.key) :
      TableStep k (.createEntry k e) (.ok ()) (some (isDefault, entries)) (some (isDefault, entries ++ [e]))
  | deleted {isDefault : Bool} {before after : List AclEntry} {x : AclEntry} {ruleNumber : Nat} {egress : Bool}
      (named : x.key = (ruleNumber, egress)) :
      TableStep k (.deleteEntry k ruleNumber egress) (.ok ()) (some (isDefault, before ++ x :: after))
        (some (isDefault, before ++ after))
  | replaced {isDefault : Bool} {before after : List AclEntry} {x e : AclEntry} (sound : e.Sound maxRuleNumber)
      (same : x.key = e.key) :
      TableStep k (.replaceEntry k e) (.ok ()) (some (isDefault, before ++ x :: after))
        (some (isDefault, before ++ e :: after))

section

variable {n m : Network} {k : String} {op : Op} {o : Outcome Network NetworkError Unit}

/-- Lists that differ in nothing but associations, owners and tags have the same tables. -/
theorem TableStep.of_agree {r : Except NetworkError Unit} (same : Agree Acl.table n.acls m.acls)
    (other : r = .ok () → ∀ ruleNumber egress, op ≠ .deleteEntry k ruleNumber egress) :
    TableStep k op r (n.table? k) (m.table? k) := by
  have : m.table? k = n.table? k := same k
  rw [this]
  exact .kept other

/-- A list is put in under a free id. -/
theorem TableStep.of_put {id : String} {acl : Acl} {isDefault : Bool} (free : n.acls.get? id = none)
    (new : acl.table = (isDefault, if isDefault then defaultEntries else []))
    (acls : m.acls = n.acls.put id acl) (other : ∀ ruleNumber egress, op ≠ .deleteEntry k ruleNumber egress) :
    TableStep k op (.ok ()) (n.table? k) (m.table? k) := by
  rw [table?, table?, acls, Store.get?_put]
  split
  next hk =>
    rw [hk] at other ⊢
    rw [free, Option.map_some, new]
    exact .made isDefault other
  next => exact .kept fun _ => other

/-- Some lists go, and those that stay are the same. -/
theorem TableStep.of_filter {keep : Acl → Bool} (acls : m.acls.get? k = (n.acls.get? k).filter keep)
    (other : ∀ ruleNumber egress, op ≠ .deleteEntry k ruleNumber egress) :
    TableStep k op (.ok ()) (n.table? k) (m.table? k) := by
  rw [table?, table?, acls]
  cases n.acls.get? k with
  | none => exact .gone
  | some a =>
    rw [Option.filter_some]
    split
    · exact .kept fun _ => other
    · exact .gone

theorem table?_setEntries {aclId : String} {acl : Acl} (there : n.acls.get? aclId = some acl)
    (entries : List AclEntry) (k : String) :
    (n.setEntries aclId entries).table? k = if k = aclId then some (acl.isDefault, entries) else n.table? k := by
  rw [table?, setEntries, Store.get?_modify]
  split
  next hk => rw [hk, there]; rfl
  next => rfl

theorem table?_of_split {a : Acl} {entries : List AclEntry} (there : n.acls.get? k = some a)
    (is : a.entries = entries) : n.table? k = some (a.isDefault, entries) := by
  rw [table?, there, ← is]
  rfl

/-- **What any operation may do to the table of one list.** -/
theorem Effect.tableStep (effect : Effect n op o) (k : String) :
    TableStep k op o.result (n.table? k) (o.state.table? k) := by
  cases effect with
  | refused | vpcLeft | subnetLeft => exact .kept nofun
  | vpcCreated _ _ free made =>
    obtain ⟨_, -, rfl⟩ := Acl.make_eq_ok made
    exact .of_put free rfl rfl nofun
  | aclCreated _ free made =>
    obtain ⟨_, -, rfl⟩ := Acl.make_eq_ok made
    exact .of_put free rfl rfl nofun
  | vpcDeleted => exact .of_filter (Store.get?_retain ..) nofun
  | @aclDeleted aclId =>
    have dropped : (n.acls.drop aclId).get? k = (n.acls.get? k).filter fun _ => k ≠ aclId := by
      rw [Store.get?_drop]
      cases n.acls.get? k <;> by_cases hk : k = aclId <;> simp [hk, Option.filter]
    exact .of_filter dropped nofun
  | @entryCreated aclId e acl valid there free =>
    rw [Outcome.state_ok, table?_setEntries there]
    split
    next hk =>
      subst hk
      rw [table?_of_split there rfl]
      exact .created (AclEntry.validate_eq_ok_iff.1 valid) (Acl.entryAt?_eq_none_iff.1 free)
    next => exact .kept nofun
  | @entryDeleted aclId ruleNumber egress acl i there found =>
    obtain ⟨before, x, after, split, rfl, named, -⟩ := Acl.exists_split_of_entryAt? found
    rw [Outcome.state_ok, table?_setEntries there]
    split
    next hk =>
      subst hk
      rw [table?_of_split there split, split, eraseIdx_length_append]
      exact .deleted named
    next hk => exact .kept fun _ _ _ same => by cases same; exact hk rfl
  | @entryReplaced aclId e acl i valid there found =>
    obtain ⟨before, x, after, split, rfl, named, -⟩ := Acl.exists_split_of_entryAt? found
    rw [Outcome.state_ok, table?_setEntries there]
    split
    next hk =>
      subst hk
      rw [table?_of_split there split, split, List.set_append_right _ _ (Nat.le_refl _), Nat.sub_self,
        List.set_cons_zero]
      exact .replaced (AclEntry.validate_eq_ok_iff.1 valid) named
    next => exact .kept nofun
  | subnetCreated => exact .of_agree (agree_modify _ _ fun _ => rfl) nofun
  | subnetDeleted => exact .of_agree (agree_modifyAll _ fun _ => rfl) nofun
  | @associationReplaced associationId _ _ _ source =>
    have taken : Agree Acl.table n.acls (n.takeAssociation source.id associationId).acls :=
      agree_modify _ _ fun _ => rfl
    exact .of_agree (taken.trans (agree_modify _ _ fun _ => rfl)) nofun
  | defaultAssociated => exact .of_agree (agree_modify _ _ fun _ => rfl) nofun
  | addressAllocated | addressReleased | gatewayCreated => exact .kept nofun
  | gatewayDeleted =>
    refine .of_agree ?_ nofun
    rw [Outcome.state_ok, freeAddresses_acls]
    exact .refl _ _
  | tagged => exact .of_agree (foldl_changeTags_acls Prod.fst (fun x _ => x.2) _ n fun _ _ => rfl) nofun
  | @untagged ids removals =>
    exact .of_agree
      (foldl_changeTags_acls id (fun _ tags => removals.foldl TagRemoval.apply tags) ids n fun _ _ => rfl) nofun

/-- A step takes tables to tables. -/
theorem TableStep.tabular {r : Except NetworkError Unit} {t t' : Option (Bool × List AclEntry)}
    (step : TableStep k op r t t') (h : ∀ d entries, t = some (d, entries) → Tabular entries) :
    ∀ d entries, t' = some (d, entries) → Tabular entries := by
  have few : maxRuleNumber ≤ defaultRuleNumber := by decide
  rintro d entries is
  cases step with
  | kept => exact h d entries is
  | made =>
    cases is
    split
    · exact tabular_defaultEntries
    · exact tabular_nil
  | gone => cases is
  | created sound free => cases is; exact (h _ _ rfl).append free (sound.mono few)
  | deleted => cases is; exact (h _ _ rfl).remove
  | replaced sound same => cases is; exact (h _ _ rfl).replace same (sound.mono few)

end

theorem tabular_run (scope : Scope) (ops : List Op) (k : String) :
    ∀ d entries, ((blank scope).run ops).table? k = some (d, entries) → Tabular entries :=
  run_keeps (P := fun n => ∀ d entries, n.table? k = some (d, entries) → Tabular entries)
    (fun _ _ h => (by cases h)) (fun n op h => ((n.perform_effect op).tableStep k).tabular h) ops

theorem tabular_of_get? {scope : Scope} {ops : List Op} {k : String} {a : Acl}
    (there : ((blank scope).run ops).acls.get? k = some a) : Tabular a.entries :=
  tabular_run scope ops k a.isDefault a.entries (table?_of_split there rfl)

/-! ### The operations on entries -/

/-- The operations on the entries of a list. -/
def Op.editsEntries : Op → Bool
  | createEntry .. | deleteEntry .. | replaceEntry .. => true
  | _ => false

/-- An operation on entries that fails changes nothing. -/
theorem Effect.unchanged_of_editsEntries {n : Network} {op : Op} {o : Outcome Network NetworkError Unit}
    (effect : Effect n op o) (edits : op.editsEntries = true) {err : NetworkError} (failed : o.result = .error err) :
    o.state = n := by
  cases effect with
  | refused => rfl
  | vpcLeft | subnetLeft => cases edits
  | _ => cases failed

/-- The entries of every list of the network are a table, and the operations on entries treat them so: each of them
touches one place of one table. -/
structure KeepsTables (n : Network) : Prop where
  tables : ∀ k a, n.acls.get? k = some a → Tabular a.entries
  create : ∀ k e x m, n.createEntry k e = .ok x m ↔ x = e ∧ e.Sound maxRuleNumber ∧
    ∃ a, n.acls.get? k = some a ∧ (∀ y ∈ a.entries, y.key ≠ e.key) ∧ Rewritten n k (a.entries ++ [e]) m
  replace : ∀ k e x m, n.replaceEntry k e = .ok x m ↔ x = e ∧ e.Sound maxRuleNumber ∧
    ∃ a before old after, n.acls.get? k = some a ∧ a.entries = before ++ old :: after ∧ old.key = e.key ∧
      (∀ y ∈ before ++ after, y.key ≠ e.key) ∧ Rewritten n k (before ++ e :: after) m
  delete : ∀ k ruleNumber egress x m, n.deleteEntry k ruleNumber egress = .ok x m ↔
    ∃ a before after, n.acls.get? k = some a ∧ a.entries = before ++ x :: after ∧ x.key = (ruleNumber, egress) ∧
      (∀ y ∈ before ++ after, y.key ≠ (ruleNumber, egress)) ∧ Rewritten n k (before ++ after) m
  refused : ∀ op err, op.editsEntries = true → (n.perform op).result = .error err → n.step op = n

/-- **The entries of a list are a table**, after any run. No two of them share number and direction, each has a
number up to the last one, a block that can be read and ports in their order. An entry is created exactly if it may be
stored and its place is free, and then stands behind all others; it is replaced where it stands, and when it is
deleted the others keep their order. Other lists, and everything else, stay as they are. -/
theorem entries_tabular (scope : Scope) (ops : List Op) : KeepsTables ((blank scope).run ops) where
  tables k a there := tabular_of_get? there
  create k e x m := createEntry_ok_iff
  replace k e x m := by
    rw [replaceEntry_ok_iff]
    refine and_congr_right fun _ => and_congr_right fun _ => ?_
    constructor
    · rintro ⟨a, before, old, after, there, split, same, -, rewritten⟩
      have apart := (split ▸ tabular_of_get? there : Tabular (before ++ old :: after)).apart
      exact ⟨a, before, old, after, there, split, same, same ▸ apart, rewritten⟩
    · rintro ⟨a, before, old, after, there, split, same, apart, rewritten⟩
      exact ⟨a, before, old, after, there, split, same, fun y hy => apart y (List.mem_append_left _ hy), rewritten⟩
  delete k ruleNumber egress x m := by
    rw [deleteEntry_ok_iff]
    constructor
    · rintro ⟨a, before, after, there, split, named, -, rewritten⟩
      have apart := (split ▸ tabular_of_get? there : Tabular (before ++ x :: after)).apart
      exact ⟨a, before, after, there, split, named, named ▸ apart, rewritten⟩
    · rintro ⟨a, before, after, there, split, named, apart, rewritten⟩
      exact ⟨a, before, after, there, split, named, fun y hy => apart y (List.mem_append_left _ hy), rewritten⟩
  refused op err edits failed := (perform_effect _ op).unchanged_of_editsEntries edits failed

end MockCloud.Network
