import Mathlib.Data.List.Perm.Subperm
import MockCloud.Proofs.Page.Following

/-! # Listings in which keys repeat

A token holds a key and not a place. When several items have one key, the page behind a token begins at the first of
them, although the page before may have held some of them already. So the same items can be handed out again; and once
the items of one key fill more than a page, a page that begins with them leads to itself.

* `exists_nextStart_of_many`: no page leads past a key of which there are too many items.
* `length_itemsFrom_lt`: where no key has too many, each page leaves fewer items than there were before it.
* `sublist_take_append`: what a page leaves and what it holds are together all that there was.
* `collectAll_ends_iff`: the tokens come to an end just if no key has more items than a page, and then every item has
  been handed out. -/

namespace MockCloud

variable {α : Type} {key : α → String} {items rest : List α} {start : Option String} {size : Nat} {s : String}

/-! ### The items from a key on -/

theorem pairwise_itemsFrom (key : α → String) (items : List α) (start : Option String) :
    (itemsFrom key (sortByKey key items) start).Pairwise fun a b => key a ≤ key b :=
  (pairwise_sortByKey key items).sublist (itemsFrom_sublist key _ start)

theorem count_sortByKey (key : α → String) (items : List α) (k : String) :
    ((sortByKey key items).map key).count k = (items.map key).count k :=
  ((sortByKey_perm key items).map key).count_eq k

/-- Going on from one key and then from a later one is going on from the later one. -/
theorem itemsFrom_itemsFrom (ordered : items.Pairwise fun a b => key a ≤ key b) (later : NotBefore start s) :
    itemsFrom key (itemsFrom key items start) (some s) = itemsFrom key items (some s) := by
  cases start with
  | none => rfl
  | some first =>
    have le : first ≤ s := notBefore_some.1 later
    rw [itemsFrom_eq_filter ordered first, itemsFrom_eq_filter (ordered.filter _) s, itemsFrom_eq_filter ordered s,
      List.filter_filter]
    refine List.filter_congr fun a _ => ?_
    by_cases early : key a < s
    · simp only [early, decide_true, Bool.not_true, Bool.false_and]
    · have kept : ¬key a < first := String.not_lt.2 (String.le_trans le (String.not_lt.1 early))
      simp only [early, kept, decide_false, Bool.not_false, Bool.and_self]

/-- All items of a key are still there when the page does not begin behind it. -/
theorem count_itemsFrom (ordered : items.Pairwise fun a b => key a ≤ key b) {k : String} (ahead : NotBefore start k) :
    ((itemsFrom key items start).map key).count k = (items.map key).count k := by
  cases start with
  | none => rfl
  | some first =>
    have le : first ≤ k := notBefore_some.1 ahead
    rw [itemsFrom_eq_filter ordered, List.count_eq_countP, List.count_eq_countP, List.countP_map, List.countP_map,
      List.countP_filter]
    refine List.countP_congr fun a _ => ?_
    have stays : key a = k → ¬key a < first := fun same => String.not_lt.2 (same ▸ le)
    simpa only [Function.comp_apply, Bool.and_eq_true, beq_iff_eq, Bool.not_eq_true', decide_eq_false_iff_not,
      and_iff_left_iff_imp] using stays

/-- Behind a page stand the items from the key on at which the next one begins. -/
theorem le_of_mem_drop (ordered : rest.Pairwise fun a b => key a ≤ key b) (next : nextStart key size rest = some s)
    {b : α} (hb : b ∈ rest.drop size) : s ≤ key b := by
  obtain ⟨d, ds, hd, rfl⟩ := exists_drop_of_nextStart next
  have behind := ordered.sublist (List.drop_sublist size rest)
  rw [hd] at behind hb
  rcases List.mem_cons.1 hb with rfl | hb
  · exact String.le_refl _
  · exact (List.pairwise_cons.1 behind).1 b hb

/-! ### Too many items of a key -/

/-- **No page leads past a key of which there are too many items**: there is a next page, and it begins at this key or
before it. -/
theorem exists_nextStart_of_many (ordered : rest.Pairwise fun a b => key a ≤ key b) {k : String}
    (many : size < (rest.map key).count k) : ∃ s, nextStart key size rest = some s ∧ s ≤ k := by
  cases next : nextStart key size rest with
  | none =>
    have all : (rest.map key).count k ≤ rest.length := by
      simpa using List.count_le_length (a := k) (l := rest.map key)
    have := nextStart_eq_none_iff.1 next
    omega
  | some s =>
    refine ⟨s, rfl, String.not_lt.1 fun lt => ?_⟩
    -- all items of the key would stand on the page
    have none_left : ((rest.drop size).map key).count k = 0 := by
      refine List.count_eq_zero.2 fun among => ?_
      obtain ⟨b, hb, rfl⟩ := List.mem_map.1 among
      exact String.not_lt.2 (le_of_mem_drop ordered next hb) lt
    have few : ((rest.take size).map key).count k ≤ size := by
      have := List.count_le_length (a := k) (l := (rest.take size).map key)
      rw [List.length_map, List.length_take] at this
      omega
    rw [← List.take_append_drop size rest, List.map_append, List.count_append, none_left] at many
    omega

/-! ### Not too many -/

/-- When no key has too many items, a page holds an item before the key at which the next one begins. -/
theorem exists_lt_nextStart (ordered : rest.Pairwise fun a b => key a ≤ key b)
    (few : ∀ k, (rest.map key).count k ≤ size) (next : nextStart key size rest = some s) : ∃ a ∈ rest, key a < s := by
  by_contra hnone
  have from_s : ∀ a ∈ rest, s ≤ key a := fun a ha => String.not_lt.1 fun lt => hnone ⟨a, ha, lt⟩
  obtain ⟨d, ds, hd, rfl⟩ := exists_drop_of_nextStart next
  have cut : rest.take size ++ d :: ds = rest := by rw [← hd, List.take_append_drop]
  have full : (rest.take size).length = size := by
    have := congrArg List.length hd
    rw [List.length_drop, List.length_cons] at this
    rw [List.length_take]
    omega
  -- otherwise the page and the item behind it have one key
  have same : ∀ k ∈ (rest.take size).map key, k = key d := by
    intro k hk
    obtain ⟨a, ha, rfl⟩ := List.mem_map.1 hk
    rw [← cut] at ordered
    have upto : key a ≤ key d := (List.pairwise_append.1 ordered).2.2 a ha d List.mem_cons_self
    exact String.le_antisymm upto (from_s a (List.mem_of_mem_take ha))
  have filled : ((rest.take size).map key).count (key d) = size := by
    rw [List.count_eq_length.2 fun k hk => (same k hk).symm, List.length_map, full]
  have := few (key d)
  rw [← cut, List.map_append, List.count_append, filled, List.map_cons, List.count_cons_self] at this
  omega

/-- **Each page leaves fewer items than there were before it**, when no key has too many. -/
theorem length_itemsFrom_lt (ordered : rest.Pairwise fun a b => key a ≤ key b)
    (few : ∀ k, (rest.map key).count k ≤ size) (next : nextStart key size rest = some s) :
    (itemsFrom key rest (some s)).length < rest.length := by
  obtain ⟨a, ha, lt⟩ := exists_lt_nextStart ordered few next
  rw [itemsFrom_eq_filter ordered]
  exact List.length_filter_lt_length_iff_exists.2 ⟨a, ha, by rw [decide_eq_true lt]; decide⟩

/-! ### What a page leaves -/

/-- **Nothing gets lost between two pages.** -/
theorem sublist_take_append (ordered : rest.Pairwise fun a b => key a ≤ key b)
    (next : nextStart key size rest = some s) :
    rest.Sublist (rest.take size ++ itemsFrom key rest (some s)) := by
  have stay : (rest.drop size).filter (fun a => !decide (key a < s)) = rest.drop size := by
    refine List.filter_eq_self.2 fun a ha => ?_
    rw [decide_eq_false (String.not_lt.2 (le_of_mem_drop ordered next ha))]
    rfl
  have left : (rest.drop size).Sublist (itemsFrom key rest (some s)) := by
    have cut := List.filter_append (p := fun a => !decide (key a < s)) (rest.take size) (rest.drop size)
    rw [List.take_append_drop, stay] at cut
    rw [itemsFrom_eq_filter ordered, cut]
    exact List.sublist_append_right ..
  have whole := left.append_left (rest.take size)
  rwa [List.take_append_drop] at whole

/-! ### Following the tokens -/

section

variable (maxResults : Option Nat) (limits : PageLimits) (params : Json.Tree)

/-- What a page leaves is what the listing has from the key of its token on. -/
theorem itemsFrom_next (from_start : itemsFrom key (sortByKey key items) start = rest)
    (next : nextStart key size rest = some s) :
    itemsFrom key (sortByKey key items) (some s) = itemsFrom key rest (some s) := by
  have ordered := pairwise_sortByKey key items
  obtain ⟨d, ds, hd, rfl⟩ := exists_drop_of_nextStart next
  have among : d ∈ rest := List.mem_of_mem_drop (hd ▸ List.mem_cons_self)
  rw [← from_start] at among ⊢
  rw [itemsFrom_itemsFrom ordered ((mem_itemsFrom ordered).1 among).2]

/-- Whichever number of calls it takes, the tokens lead to no error, and to no end without all items. Nothing but items
of the listing is handed out. -/
theorem of_follow_eq_some {fuel : Nat} {r : Except PageError (List (Page α))}
    (from_start : itemsFrom key (sortByKey key items) start = rest)
    (ended : follow (fun r => paginate items r limits params key) fuel
      ⟨maxResults, tokenAt (parameterChecksum params) start⟩ = some r) :
    ∃ pages, r = .ok pages ∧ Ended pages ∧ rest.Sublist (allItems pages) ∧ ∀ a ∈ allItems pages, a ∈ items := by
  have among : ∀ {start : Option String}, ∀ a ∈ itemsFrom key (sortByKey key items) start, a ∈ items := fun a ha =>
    mem_sortByKey.1 ((itemsFrom_sublist key _ _).subset ha)
  induction fuel generalizing start rest r with
  | zero => cases ended
  | succ fuel ih =>
    rw [follow_succ _ _ _ from_start] at ended
    cases next : nextStart key (limits.size maxResults) rest with
    | none =>
      rw [next] at ended
      cases ended
      refine ⟨_, rfl, ⟨_, rfl, nextToken_eq_none next⟩, ?_⟩
      rw [allItems_last _ next]
      exact ⟨.refl rest, from_start ▸ among⟩
    | some s =>
      rw [next] at ended
      obtain ⟨later, hlater, rfl⟩ := Option.map_eq_some_iff.1 ended
      obtain ⟨pages, rfl, last, all, only⟩ := ih (itemsFrom_next from_start next) hlater
      have ordered : rest.Pairwise fun a b => key a ≤ key b := from_start ▸ pairwise_itemsFrom key items start
      refine ⟨_, rfl, ended_cons last, ?_⟩
      rw [allItems_cons]
      refine ⟨(sublist_take_append ordered next).trans (all.append_left _), fun a ha => ?_⟩
      rcases List.mem_append.1 ha with ha | ha
      · exact (from_start ▸ among) a (List.mem_of_mem_take ha)
      · exact only a ha

/-- **A key with too many items is never left behind**: the tokens do not come to an end. -/
theorem follow_eq_none_of_many {k : String} (many : limits.size maxResults < (items.map key).count k)
    (ahead : NotBefore start k) (fuel : Nat) :
    follow (fun r => paginate items r limits params key) fuel
      ⟨maxResults, tokenAt (parameterChecksum params) start⟩ = none := by
  induction fuel generalizing start with
  | zero => rfl
  | succ fuel ih =>
    have many_left := many
    rw [← count_sortByKey, ← count_itemsFrom (pairwise_sortByKey key items) ahead] at many_left
    obtain ⟨s, next, le⟩ := exists_nextStart_of_many (pairwise_itemsFrom key items start) many_left
    rw [follow_succ _ _ _ rfl, next]
    dsimp only
    rw [ih (notBefore_some.2 le), Option.map_none]

/-- **Without such a key the tokens come to an end**, after no more calls than there are items left and one. -/
theorem exists_follow_of_few (few : ∀ k, (items.map key).count k ≤ limits.size maxResults)
    (from_start : itemsFrom key (sortByKey key items) start = rest) :
    ∃ pages, follow (fun r => paginate items r limits params key) (rest.length + 1)
      ⟨maxResults, tokenAt (parameterChecksum params) start⟩ = some (.ok pages) := by
  induction hn : rest.length using Nat.strongRecOn generalizing rest start with
  | ind n ih =>
    rw [follow_succ _ _ _ from_start]
    cases next : nextStart key (limits.size maxResults) rest with
    | none => exact ⟨_, rfl⟩
    | some s =>
      have inside : rest.Sublist (sortByKey key items) := from_start ▸ itemsFrom_sublist key _ start
      have few_left (k : String) : (rest.map key).count k ≤ limits.size maxResults := by
        have := (inside.map key).count_le k
        rw [count_sortByKey] at this
        have := few k
        omega
      have ordered : rest.Pairwise fun a b => key a ≤ key b := from_start ▸ pairwise_itemsFrom key items start
      have shorter := length_itemsFrom_lt ordered few_left next
      obtain ⟨pages, hpages⟩ := ih _ (hn ▸ shorter) (itemsFrom_next from_start next) rfl
      obtain ⟨more, enough⟩ := Nat.exists_eq_add_of_le (show (itemsFrom key rest (some s)).length + 1 ≤ n by omega)
      dsimp only
      rw [enough, follow_add hpages more]
      exact ⟨_, rfl⟩

/-- Calls that come to an end have met no key with too many items. -/
theorem few_of_ended {fuel : Nat} {r : Except PageError (List (Page α))}
    (ended : follow (fun r => paginate items r limits params key) fuel ⟨maxResults, none⟩ = some r) (k : String) :
    (items.map key).count k ≤ limits.size maxResults := by
  refine Nat.not_lt.1 fun many => ?_
  have never := follow_eq_none_of_many maxResults limits params many (notBefore_none k) fuel
  rw [tokenAt, Option.map_none, ended] at never
  cases never

/-- The calls that are made come to an end just if no key has too many items. -/
theorem follow_ends_iff (items : List α) (key : α → String) :
    (∃ r, follow (fun r => paginate items r limits params key) (items.length + 1) ⟨maxResults, none⟩ = some r) ↔
      ∀ k, (items.map key).count k ≤ limits.size maxResults := by
  constructor
  · rintro ⟨r, ended⟩
    exact few_of_ended maxResults limits params ended
  · intro few
    obtain ⟨pages, hpages⟩ := exists_follow_of_few maxResults limits params few
      (rfl : itemsFrom key (sortByKey key items) none = _)
    exact ⟨.ok pages, length_sortByKey key items ▸ hpages⟩

/-- As many calls as there are items and one suffice for every end. -/
theorem follow_of_ended {fuel : Nat} {r : Except PageError (List (Page α))}
    (ended : follow (fun r => paginate items r limits params key) fuel ⟨maxResults, none⟩ = some r) :
    follow (fun r => paginate items r limits params key) (items.length + 1) ⟨maxResults, none⟩ = some r := by
  have few := few_of_ended maxResults limits params ended
  obtain ⟨r', hr'⟩ := (follow_ends_iff maxResults limits params items key).2 few
  rw [hr', follow_unique hr' ended]

end

/-- **When the tokens come to an end.** Whatever keys the items have, the calls reach a page without a token just if no
key stands on more items than a page holds; otherwise they go on for ever. The calls that are made suffice for every
end that there is. An end is no error; its pages hold all items, each at least as often as the listing, and no others;
and these are what is collected. -/
theorem collectAll_ends_iff (items : List α) (size : Nat) (params : Json.Tree) (key : α → String) :
    ((∃ fuel pages, follow (fun r => paginate items r ⟨size, size⟩ params key) fuel ⟨some size, none⟩ =
        some (.ok pages) ∧ Ended pages) ↔ ∀ k, (items.map key).count k ≤ max size 1) ∧
      (collectAll items size params key = none ↔ ∃ k, max size 1 < (items.map key).count k) ∧
      ∀ fuel r, follow (fun r => paginate items r ⟨size, size⟩ params key) fuel ⟨some size, none⟩ = some r →
        ∃ pages, r = .ok pages ∧ Ended pages ∧ collectAll items size params key = some (.ok (allItems pages)) ∧
          items.Subperm (allItems pages) ∧ ∀ a ∈ allItems pages, a ∈ items := by
  have ends := follow_ends_iff (some size) ⟨size, size⟩ params items key
  rw [size_usual] at ends
  refine ⟨⟨?_, fun few => ?_⟩, ?_, fun fuel r ended => ?_⟩
  · rintro ⟨fuel, pages, ended, -⟩
    exact ends.1 ⟨_, follow_of_ended (some size) ⟨size, size⟩ params ended⟩
  · obtain ⟨r, ended⟩ := ends.2 few
    obtain ⟨pages, rfl, last, -, -⟩ := of_follow_eq_some (some size) ⟨size, size⟩ params
      (rfl : itemsFrom key (sortByKey key items) none = _) ended
    exact ⟨_, pages, ended, last⟩
  · have missed : (∃ k, max size 1 < (items.map key).count k) ↔ ¬∀ k, (items.map key).count k ≤ max size 1 := by
      simp only [not_forall, Nat.not_le]
    rw [missed, ← ends, collectAll, Option.map_eq_none_iff, ← Option.not_isSome_iff_eq_none, Option.isSome_iff_exists]
  · have enough := follow_of_ended (some size) ⟨size, size⟩ params ended
    obtain ⟨pages, rfl, last, all, only⟩ := of_follow_eq_some (some size) ⟨size, size⟩ params
      (rfl : itemsFrom key (sortByKey key items) none = _) ended
    refine ⟨pages, rfl, last, ?_, (sortByKey_perm key items).symm.subperm.trans all.subperm, only⟩
    rw [collectAll, enough]
    rfl

end MockCloud
