/-! # Maps in the order of their keys

A map is the list of its entries with strictly increasing keys. Keys are of any type with a linear order;
they are texts unless another type is named, and texts are ordered by the code points of their characters.
As the order is part of the type, two maps with the same entries are equal, and every listing of a map is
sorted and names each key once.

* `get?_insert`, `get?_erase` and `get?_filter` say what an operation does at every key.
* `eq_of_increasing`, `ext_get?`: a list whose keys increase is determined by what is in it, and so is a map. -/

namespace MockCloud

universe u v

/-- A strict linear order of keys. -/
class KeyOrder (ι : Type) [LT ι] : Prop where
  irrefl (a : ι) : ¬a < a
  trans {a b c : ι} : a < b → b < c → a < c
  eq_of_not_lt {a b : ι} : ¬a < b → ¬b < a → a = b

instance : KeyOrder String where
  irrefl := String.lt_irrefl
  trans := String.lt_trans
  eq_of_not_lt h h' := String.le_antisymm (String.not_lt.1 h') (String.not_lt.1 h)

theorem KeyOrder.asymm {ι : Type} [LT ι] [KeyOrder ι] {a b : ι} (h : a < b) : ¬b < a :=
  fun h' => KeyOrder.irrefl a (KeyOrder.trans h h')

/-- A map from keys to `α`. -/
structure SortedMap (α : Type u) (ι : Type := String) [LT ι] where
  entries : List (ι × α)
  sorted : entries.Pairwise fun a b => a.1 < b.1

namespace SortedMap

set_option linter.unusedSectionVars false

variable {α : Type u} {β : Type v} {ι : Type} [LT ι] [DecidableLT ι] [DecidableEq ι] [KeyOrder ι]

/-! ### Entries -/

/-- The entries with `k` standing for `a`: replaced if it is there, else at its place in the order. -/
def put (k : ι) (a : α) : List (ι × α) → List (ι × α)
  | [] => [(k, a)]
  | e :: es =>
    if k < e.1 then (k, a) :: e :: es
    else if e.1 < k then e :: put k a es
    else (k, a) :: es

theorem mem_put {k : ι} {a : α} {es : List (ι × α)} {x : ι × α}
    (h : x ∈ put k a es) : x = (k, a) ∨ x ∈ es := by
  induction es with
  | nil => simpa [put] using h
  | cons e es ih =>
    unfold put at h
    split at h
    · simpa using h
    · split at h
      · rcases List.mem_cons.1 h with h | h
        · exact .inr (by simp [h])
        · rcases ih h with h | h
          · exact .inl h
          · exact .inr (by simp [h])
      · rcases List.mem_cons.1 h with h | h
        · exact .inl h
        · exact .inr (by simp [h])

theorem pairwise_put {k : ι} {a : α} {es : List (ι × α)}
    (h : es.Pairwise fun a b => a.1 < b.1) : (put k a es).Pairwise fun a b => a.1 < b.1 := by
  induction es with
  | nil => simp [put]
  | cons e es ih =>
    have hd := (List.pairwise_cons.1 h).1
    unfold put
    split
    · next hk =>
      refine List.pairwise_cons.2 ⟨fun x hx => ?_, h⟩
      rcases List.mem_cons.1 hx with rfl | hx
      · exact hk
      · exact KeyOrder.trans hk (hd _ hx)
    · next hk =>
      split
      · next hk' =>
        refine List.pairwise_cons.2 ⟨fun x hx => ?_, ih h.of_cons⟩
        rcases mem_put hx with rfl | hx
        · exact hk'
        · exact hd _ hx
      · next hk' =>
        have he : e.1 = k := KeyOrder.eq_of_not_lt hk' hk
        exact List.pairwise_cons.2 ⟨fun x hx => he ▸ hd x hx, h.of_cons⟩

/-! ### Operations -/

/-- The map without entries. -/
def empty : SortedMap α ι :=
  ⟨[], .nil⟩

instance : EmptyCollection (SortedMap α ι) := ⟨empty⟩

instance : Inhabited (SortedMap α ι) := ⟨empty⟩

instance [DecidableEq α] : DecidableEq (SortedMap α ι) := fun a b =>
  if h : a.entries = b.entries then isTrue (by cases a; cases b; simp_all)
  else isFalse fun e => h (e ▸ rfl)

/-- What the map holds at a key. -/
def get? (m : SortedMap α ι) (k : ι) : Option α :=
  (m.entries.find? (·.1 == k)).map (·.2)

/-- Whether the map holds something at a key. -/
def contains (m : SortedMap α ι) (k : ι) : Bool :=
  (m.get? k).isSome

/-- The map with `a` at `k`. -/
def insert (m : SortedMap α ι) (k : ι) (a : α) : SortedMap α ι :=
  ⟨put k a m.entries, pairwise_put m.sorted⟩

/-- The map with only the entries that `keep` accepts. -/
def filter (m : SortedMap α ι) (keep : ι → α → Bool) : SortedMap α ι :=
  ⟨m.entries.filter fun e => keep e.1 e.2, m.sorted.filter _⟩

/-- The map without a key. -/
def erase (m : SortedMap α ι) (k : ι) : SortedMap α ι :=
  m.filter fun k' _ => k' != k

/-- The map with `f` applied to everything it holds. -/
def mapValues (m : SortedMap α ι) (f : ι → α → β) : SortedMap β ι :=
  ⟨m.entries.map fun e => (e.1, f e.1 e.2),
    List.pairwise_map.2 (m.sorted.imp fun h => h)⟩

/-- The map with `f` applied to what it holds at a key, if anything. -/
def modify (m : SortedMap α ι) (k : ι) (f : α → α) : SortedMap α ι :=
  m.mapValues fun k' a => if k' = k then f a else a

/-- The keys in order. -/
def keys (m : SortedMap α ι) : List ι :=
  m.entries.map (·.1)

/-- What the map holds, in the order of the keys. -/
def values (m : SortedMap α ι) : List α :=
  m.entries.map (·.2)

/-- The number of entries. -/
def size (m : SortedMap α ι) : Nat :=
  m.entries.length

/-- Whether the map has no entries. -/
def isEmpty (m : SortedMap α ι) : Bool :=
  m.entries.isEmpty

/-- The map with the entries of a list put into it one by one, so that later ones win. -/
def insertAll (m : SortedMap α ι) (es : List (ι × α)) : SortedMap α ι :=
  es.foldl (fun m e => m.insert e.1 e.2) m

/-- The map of a list of entries; the last one for a key wins. -/
def ofList (es : List (ι × α)) : SortedMap α ι :=
  empty.insertAll es

/-! ### What the operations do at a key -/

theorem find?_put {k k' : ι} {a : α} {es : List (ι × α)}
    (h : es.Pairwise fun a b => a.1 < b.1) :
    ((put k a es).find? (·.1 == k')).map (·.2) =
      if k' = k then some a else (es.find? (·.1 == k')).map (·.2) := by
  induction es with
  | nil =>
    by_cases hk : k' = k
    · simp [put, hk]
    · have : ¬k = k' := fun h => hk h.symm
      simp [put, hk, this]
  | cons e es ih =>
    have hd := (List.pairwise_cons.1 h).1
    unfold put
    split
    · next hlt =>
      by_cases hk : k' = k
      · simp [hk]
      · have : ¬k = k' := fun h => hk h.symm
        simp [hk, this, List.find?_cons]
    · next hlt =>
      split
      · next hlt' =>
        by_cases he : e.1 = k'
        · have : ¬k' = k := by rintro rfl; exact KeyOrder.irrefl _ (he ▸ hlt')
          simp [he, this]
        · simp [he, ih h.of_cons]
      · next hlt' =>
        have he : e.1 = k := KeyOrder.eq_of_not_lt hlt' hlt
        by_cases hk : k' = k
        · simp [hk]
        · have : ¬k = k' := fun h => hk h.symm
          simp [hk, this, he]

@[simp] theorem get?_empty (k : ι) : (empty : SortedMap α ι).get? k = none := rfl

theorem get?_insert (m : SortedMap α ι) (k k' : ι) (a : α) :
    (m.insert k a).get? k' = if k' = k then some a else m.get? k' :=
  find?_put m.sorted

@[simp] theorem get?_insert_self (m : SortedMap α ι) (k : ι) (a : α) :
    (m.insert k a).get? k = some a := by
  simp [get?_insert]

theorem mem_of_get? {m : SortedMap α ι} {k : ι} {a : α} (h : m.get? k = some a) :
    (k, a) ∈ m.entries := by
  obtain ⟨e, he, rfl⟩ := Option.map_eq_some_iff.1 h
  have := List.find?_some he
  simp only [beq_iff_eq] at this
  exact this ▸ List.mem_of_find?_eq_some he

theorem get?_of_mem {m : SortedMap α ι} {k : ι} {a : α} (h : (k, a) ∈ m.entries) :
    m.get? k = some a := by
  obtain ⟨es, sorted⟩ := m
  induction es with
  | nil => cases h
  | cons e es ih =>
    have hd := (List.pairwise_cons.1 sorted).1
    rcases List.mem_cons.1 h with rfl | h'
    · simp [get?]
    · have hlt : e.1 < k := hd _ h'
      have : ¬e.1 = k := fun he => KeyOrder.irrefl _ (he ▸ hlt)
      have := ih sorted.of_cons h'
      simp_all [get?]

theorem get?_eq_some_iff {m : SortedMap α ι} {k : ι} {a : α} :
    m.get? k = some a ↔ (k, a) ∈ m.entries :=
  ⟨mem_of_get?, get?_of_mem⟩

theorem get?_filter (m : SortedMap α ι) (keep : ι → α → Bool) (k : ι) :
    (m.filter keep).get? k = (m.get? k).filter (keep k) := by
  apply Option.ext
  intro a
  simp only [Option.filter_eq_some_iff, get?_eq_some_iff, filter, List.mem_filter]

theorem get?_erase (m : SortedMap α ι) (k k' : ι) :
    (m.erase k).get? k' = if k' = k then none else m.get? k' := by
  rw [erase, get?_filter]
  by_cases h : k' = k <;> cases m.get? k' <;> simp [h, Option.filter]

theorem get?_mapValues (m : SortedMap α ι) (f : ι → α → β) (k : ι) :
    (m.mapValues f).get? k = (m.get? k).map (f k) := by
  apply Option.ext
  intro b
  simp only [Option.map_eq_some_iff, get?_eq_some_iff, mapValues, List.mem_map, Prod.mk.injEq]
  constructor
  · rintro ⟨⟨k', a⟩, h, rfl, rfl⟩
    exact ⟨a, h, rfl⟩
  · rintro ⟨a, h, rfl⟩
    exact ⟨(k, a), h, rfl, rfl⟩

theorem get?_modify (m : SortedMap α ι) (k k' : ι) (f : α → α) :
    (m.modify k f).get? k' = if k' = k then (m.get? k').map f else m.get? k' := by
  rw [modify, get?_mapValues]
  by_cases h : k' = k <;> simp [h]

theorem contains_eq_true_iff {m : SortedMap α ι} {k : ι} :
    m.contains k = true ↔ ∃ a, m.get? k = some a :=
  Option.isSome_iff_exists

theorem contains_eq_false_iff {m : SortedMap α ι} {k : ι} :
    m.contains k = false ↔ m.get? k = none := by
  simp [contains]

theorem pairwise_keys (m : SortedMap α ι) : m.keys.Pairwise (· < ·) :=
  List.pairwise_map.2 m.sorted

theorem nodup_keys (m : SortedMap α ι) : m.keys.Nodup := by
  refine m.pairwise_keys.imp fun {a b} less same => ?_
  rw [same] at less
  exact KeyOrder.irrefl _ less

theorem mem_keys_iff {m : SortedMap α ι} {k : ι} : k ∈ m.keys ↔ ∃ a, m.get? k = some a := by
  simp [keys, get?_eq_some_iff]

theorem mem_values_iff {m : SortedMap α ι} {a : α} : a ∈ m.values ↔ ∃ k, m.get? k = some a := by
  simp [values, get?_eq_some_iff]

theorem pairwise_values {m : SortedMap α ι} {R : α → α → Prop}
    (h : ∀ k a k' a', m.get? k = some a → m.get? k' = some a' → k < k' → R a a') :
    m.values.Pairwise R := by
  rw [values, List.pairwise_map]
  refine m.sorted.imp_of_mem fun ha hb hlt => ?_
  exact h _ _ _ _ (get?_of_mem ha) (get?_of_mem hb) hlt

/-- The value that is found is the one of the first key whose value is accepted. -/
theorem find?_values_eq_some_iff {m : SortedMap α ι} {p : α → Bool} {a : α} :
    m.values.find? p = some a ↔
      ∃ k, m.get? k = some a ∧ p a = true ∧ ∀ k' b, m.get? k' = some b → p b = true → ¬k' < k := by
  simp only [values, get?_eq_some_iff]
  obtain ⟨es, sorted⟩ := m
  induction es with
  | nil => simp
  | cons e es ih =>
    obtain ⟨first, rest⟩ := List.pairwise_cons.1 sorted
    rw [List.map_cons, List.find?_cons]
    cases he : p e.2 with
    | true =>
      constructor
      · rintro ⟨⟩
        refine ⟨e.1, List.mem_cons_self, he, fun k' b hb _ lt => ?_⟩
        rcases List.mem_cons.1 hb with rfl | hb
        · exact KeyOrder.irrefl _ lt
        · exact KeyOrder.asymm (first _ hb) lt
      · rintro ⟨k, hk, -, least⟩
        rcases List.mem_cons.1 hk with rfl | hk
        · rfl
        · exact absurd (first _ hk) (least e.1 e.2 List.mem_cons_self he)
    | false =>
      rw [ih rest]
      constructor
      · rintro ⟨k, hk, ha, least⟩
        refine ⟨k, List.mem_cons_of_mem _ hk, ha, fun k' b hb accepted => ?_⟩
        rcases List.mem_cons.1 hb with rfl | hb
        · cases he.symm.trans accepted
        · exact least k' b hb accepted
      · rintro ⟨k, hk, ha, least⟩
        rcases List.mem_cons.1 hk with rfl | hk
        · cases he.symm.trans ha
        · exact ⟨k, hk, ha, fun k' b hb => least k' b (List.mem_cons_of_mem _ hb)⟩

theorem filterMap_values (m : SortedMap α ι) (f : α → Option β) :
    m.values.filterMap f = m.keys.filterMap fun k => (m.get? k).bind f := by
  have same : ∀ e ∈ m.entries, (m.get? e.1).bind f = f e.2 := fun e he => by
    rw [get?_of_mem he, Option.bind_some]
  rw [values, keys, List.filterMap_map, List.filterMap_map]
  generalize m.entries = es at same
  induction es with
  | nil => rfl
  | cons e es ih =>
    obtain ⟨first, rest⟩ := List.forall_mem_cons.1 same
    rw [List.filterMap_cons, List.filterMap_cons, Function.comp_apply, Function.comp_apply, first, ih rest]

theorem isEmpty_iff {m : SortedMap α ι} : m.isEmpty = true ↔ ∀ k, m.get? k = none := by
  rw [isEmpty, List.isEmpty_iff]
  constructor
  · intro h k
    simp [get?, h]
  · intro h
    refine List.eq_nil_iff_forall_not_mem.2 fun e he => ?_
    have := get?_of_mem (m := m) (k := e.1) (a := e.2) he
    simp [h] at this

theorem not_isEmpty_iff {m : SortedMap α ι} : (!m.isEmpty) = true ↔ ∃ k a, m.get? k = some a := by
  rw [Bool.not_eq_true', Bool.eq_false_iff, Ne, isEmpty_iff]
  simp [Option.eq_none_iff_forall_ne_some]

/-- A list whose keys increase is determined by what is in it. -/
theorem eq_of_increasing {γ : Type u} {key : γ → ι} {l l' : List γ} (hl : l.Pairwise fun a b => key a < key b)
    (hl' : l'.Pairwise fun a b => key a < key b) (mem : ∀ a, a ∈ l ↔ a ∈ l') : l = l' := by
  induction l generalizing l' with
  | nil =>
    cases l' with
    | nil => rfl
    | cons a' l' => exact absurd ((mem a').2 (by simp)) (by simp)
  | cons a l ih =>
    cases l' with
    | nil => exact absurd ((mem a).1 (by simp)) (by simp)
    | cons a' l' =>
      have hd := (List.pairwise_cons.1 hl).1
      have hd' := (List.pairwise_cons.1 hl').1
      have ha : a = a' := by
        rcases List.mem_cons.1 ((mem a).1 (by simp)) with h | h
        · exact h
        · rcases List.mem_cons.1 ((mem a').2 (by simp)) with h' | h'
          · exact h'.symm
          · exact absurd (hd _ h') (KeyOrder.asymm (hd' _ h))
      subst ha
      rw [ih hl.of_cons hl'.of_cons fun x => ?_]
      have hx := mem x
      simp only [List.mem_cons] at hx
      constructor
      · intro h
        refine (hx.1 (.inr h)).resolve_left ?_
        rintro rfl
        exact KeyOrder.irrefl _ (hd _ h)
      · intro h
        refine (hx.2 (.inr h)).resolve_left ?_
        rintro rfl
        exact KeyOrder.irrefl _ (hd' _ h)

/-- **A map is what it holds**: two maps that agree at every key are equal. -/
theorem ext_get? {m m' : SortedMap α ι} (h : ∀ k, m.get? k = m'.get? k) : m = m' := by
  have same : m.entries = m'.entries := eq_of_increasing m.sorted m'.sorted fun (k, a) => by
    rw [← get?_eq_some_iff, ← get?_eq_some_iff, h]
  cases m
  cases m'
  congr

theorem get?_insertAll (m : SortedMap α ι) (es : List (ι × α)) (k : ι) :
    (m.insertAll es).get? k = ((es.reverse.find? (·.1 == k)).map (·.2)).or (m.get? k) := by
  unfold insertAll
  induction es generalizing m with
  | nil => rfl
  | cons e es ih =>
    rw [List.foldl_cons, ih, List.reverse_cons, List.find?_append, get?_insert]
    cases es.reverse.find? (·.1 == k) with
    | some e' => rfl
    | none =>
      by_cases hk : k = e.1
      · simp [hk]
      · have : ¬e.1 = k := fun h => hk h.symm
        simp [hk, this]

/-- Of several entries with one key the last one counts. -/
theorem get?_ofList (es : List (ι × α)) (k : ι) :
    (ofList es).get? k = (es.reverse.find? (·.1 == k)).map (·.2) := by
  rw [ofList, get?_insertAll, get?_empty, Option.or_none]

/-- The map of the entries of a map is the map. -/
theorem ofList_entries (m : SortedMap α ι) : ofList m.entries = m := by
  refine ext_get? fun k => ?_
  rw [get?_ofList]
  cases found : m.entries.reverse.find? (·.1 == k) with
  | some e =>
    have same : e.1 = k := by simpa using List.find?_some found
    have there : (k, e.2) ∈ m.entries := same ▸ List.mem_reverse.1 (List.mem_of_find?_eq_some found)
    rw [get?_of_mem there, Option.map_some]
  | none =>
    refine (Option.eq_none_iff_forall_ne_some.2 fun a there => ?_).symm
    exact List.find?_eq_none.1 found (k, a) (List.mem_reverse.2 (mem_of_get? there)) (beq_self_eq_true k)

/-- Putting entries in once more changes nothing. -/
theorem insertAll_insertAll (m : SortedMap α ι) (es : List (ι × α)) :
    (m.insertAll es).insertAll es = m.insertAll es := by
  refine ext_get? fun k => ?_
  rw [get?_insertAll, get?_insertAll]
  cases (es.reverse.find? (·.1 == k)).map (·.2) <;> rfl

/-- Putting what is there changes nothing. -/
theorem insert_of_get? {m : SortedMap α ι} {k : ι} {a : α} (h : m.get? k = some a) :
    m.insert k a = m := by
  refine ext_get? fun k' => ?_
  rw [get?_insert]
  by_cases hk : k' = k
  · rw [if_pos hk, hk, h]
  · rw [if_neg hk]

/-- Applying a function at a key that holds something is putting the value there. -/
theorem modify_of_get? {m : SortedMap α ι} {k : ι} {a : α} (h : m.get? k = some a) (f : α → α) :
    m.modify k f = m.insert k (f a) := by
  refine ext_get? fun k' => ?_
  rw [get?_modify, get?_insert]
  by_cases hk : k' = k
  · rw [if_pos hk, if_pos hk, hk, h, Option.map_some]
  · rw [if_neg hk, if_neg hk]

end SortedMap

end MockCloud
