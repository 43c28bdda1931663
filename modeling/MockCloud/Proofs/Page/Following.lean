import MockCloud.Proofs.Page.Listing

/-! # Following the tokens to the end

When a listing stays as it is and no two of its items have the same key, each token leads to exactly the
items that are left, and every page takes some of them away. So the tokens come to an end, after as many
pages as the listing fills.

* `pageCount`: how many pages a listing fills.
* `follow_suffix`: following a token, by induction on the items that are left.
* `collectAll_eq_some`: all items are collected, each once and in order, and all pages but the last are
  full.
* `exists_follows`: the same for a listing that a service hands out in pages of any size.
* `Ends`: where the tokens of a service lead, an error or all items; there is one such end. -/

namespace MockCloud

variable {α : Type} {key : α → String}

/-- The number of pages of `size` items that a listing of `total` items fills: one for each full page, one
for what is left over, and one page for no items. -/
def pageCount (total size : Nat) : Nat :=
  max 1 ((total + (size - 1)) / size)

theorem pageCount_of_le {total size : Nat} (h : total ≤ size) (pos : 0 < size) : pageCount total size = 1 := by
  have : (total + (size - 1)) / size < 2 := Nat.div_lt_of_lt_mul (by omega)
  unfold pageCount
  omega

theorem pageCount_of_lt {total size : Nat} (h : size < total) (pos : 0 < size) :
    pageCount total size = pageCount (total - size) size + 1 := by
  have whole : total + (size - 1) = total - size + (size - 1) + size := by omega
  have more : 0 < (total - size + (size - 1)) / size := Nat.div_pos (by omega) pos
  unfold pageCount
  rw [whole, Nat.add_div_right _ pos]
  omega

theorem pageCount_le {total size : Nat} (pos : 0 < size) : pageCount total size ≤ total + 1 := by
  have : (total + (size - 1)) / size < total + 1 := by
    refine Nat.div_lt_of_lt_mul ?_
    have : total ≤ size * total := Nat.le_mul_of_pos_left total pos
    rw [Nat.mul_succ]
    omega
  unfold pageCount
  omega

/-- Going on from the key of an item passes over all items before it. -/
theorem itemsFrom_append {before rest : List α} {a : α} (h : Increasing key (before ++ a :: rest)) :
    itemsFrom key (before ++ a :: rest) (some (key a)) = a :: rest := by
  obtain ⟨-, -, across⟩ := List.pairwise_append.1 h
  show List.dropWhile (fun b => decide (key b < key a)) _ = _
  have passed : ∀ b ∈ before, decide (key b < key a) = true := fun b hb =>
    decide_eq_true (across b hb a List.mem_cons_self)
  rw [List.dropWhile_append_of_pos passed, List.dropWhile_cons,
    if_neg fun h => String.lt_irrefl (key a) (of_decide_eq_true h)]

section

variable {items rest : List α} {start : Option String} {size : Nat} (maxResults : Option Nat)
  (limits : PageLimits) (params : Json.Tree) (checksum : String)

/-- One page of the tokens' way. -/
theorem follow_succ (from_start : itemsFrom key (sortByKey key items) start = rest) (fuel : Nat) :
    follow (fun r => paginate items r limits params key) (fuel + 1)
      ⟨maxResults, tokenAt (parameterChecksum params) start⟩ =
    match nextStart key (limits.size maxResults) rest with
    | none => some (.ok [firstPage key (parameterChecksum params) (limits.size maxResults) rest])
    | some s => (follow (fun r => paginate items r limits params key) fuel
        ⟨maxResults, tokenAt (parameterChecksum params) (some s)⟩).map fun pages =>
          pages.map (firstPage key (parameterChecksum params) (limits.size maxResults) rest :: ·) := by
  rw [follow, paginate_tokenAt, from_start]
  simp only [PageRequest.next, firstPage_nextToken]
  cases nextStart key (limits.size maxResults) rest with
  | none => rfl
  | some s => rfl

/-- The pages are what the tokens lead to: they hold all of `rest`, all but the last are full and have a
token, and their number is what `rest` fills. -/
structure Exhausts (size : Nat) (rest : List α) (pages : List (Page α)) : Prop where
  items : allItems pages = rest
  full : ∀ p ∈ pages.dropLast, p.items.length = size ∧ p.nextToken.isSome = true
  ended : Ended pages
  count : pages.length = pageCount rest.length size

theorem exhausts_last (pos : 0 < size)
    (next : nextStart key size rest = none) : Exhausts size rest [firstPage key checksum size rest] where
  items := allItems_last checksum next
  full := nofun
  ended := ⟨firstPage key checksum size rest, rfl, nextToken_eq_none next⟩
  count := (pageCount_of_le (nextStart_eq_none_iff.1 next) pos).symm

theorem exhausts_cons (pos : 0 < size) {s : String}
    (next : nextStart key size rest = some s) {pages : List (Page α)}
    (h : Exhausts size (rest.drop size) pages) :
    Exhausts size rest (firstPage key checksum size rest :: pages) := by
  have more : size < rest.length := by
    have : nextStart key size rest ≠ none := by
      rw [next]
      exact Option.some_ne_none s
    rw [Ne, nextStart_eq_none_iff] at this
    omega
  constructor
  · rw [allItems_cons, h.items]
    exact List.take_append_drop size rest
  · obtain ⟨last, hlast, -⟩ := h.ended
    have ne : pages ≠ [] := by rintro rfl; cases hlast
    rw [List.dropLast_cons_of_ne_nil ne]
    intro p hp
    rcases List.mem_cons.1 hp with rfl | hp
    · refine ⟨?_, by rw [nextToken_eq_some next]; rfl⟩
      rw [firstPage, List.length_take]
      omega
    · exact h.full p hp
  · exact ended_cons h.ended
  · rw [List.length_cons, h.count, List.length_drop, pageCount_of_lt more pos]

/-- **The tokens come to an end**: from the key of any item the pages exhaust the items that are left. -/
theorem follow_suffix (distinct : (items.map key).Nodup) (suffix : rest <:+ sortByKey key items)
    (from_start : itemsFrom key (sortByKey key items) start = rest) :
    ∃ pages, Exhausts (limits.size maxResults) rest pages ∧
      ∀ fuel, follow (fun r => paginate items r limits params key) fuel
          ⟨maxResults, tokenAt (parameterChecksum params) start⟩ =
        if pages.length ≤ fuel then some (.ok pages) else none := by
  have pos : 0 < limits.size maxResults := limits.size_pos maxResults
  induction hn : rest.length using Nat.strongRecOn generalizing rest start with
  | ind n ih =>
    cases next : nextStart key (limits.size maxResults) rest with
    | none =>
      refine ⟨_, exhausts_last (parameterChecksum params) pos next, fun fuel => ?_⟩
      cases fuel with
      | zero => rfl
      | succ fuel => rw [follow_succ _ _ _ from_start, next]; simp
    | some s =>
      obtain ⟨d, ds, hd, rfl⟩ := exists_drop_of_nextStart next
      -- what is left behind the page is shorter, and its first item carries the token's key
      have shorter : (rest.drop (limits.size maxResults)).length < n := by
        have := congrArg List.length hd
        rw [List.length_drop, List.length_cons] at this
        rw [List.length_drop]
        omega
      have suffix' := (List.drop_suffix (limits.size maxResults) rest).trans suffix
      have from_next : itemsFrom key (sortByKey key items) (some (key d)) =
          rest.drop (limits.size maxResults) := by
        obtain ⟨before, hb⟩ := suffix'
        rw [hd] at hb ⊢
        rw [← hb]
        exact itemsFrom_append (hb ▸ increasing_sortByKey distinct)
      obtain ⟨pages, exhausts, followed⟩ := ih _ shorter suffix' from_next rfl
      refine ⟨_, exhausts_cons (parameterChecksum params) pos next exhausts, fun fuel => ?_⟩
      cases fuel with
      | zero => rfl
      | succ fuel =>
        rw [follow_succ _ _ _ from_start, next]
        simp only [followed, List.length_cons, Nat.add_le_add_iff_right]
        split_ifs <;> rfl

end

theorem size_usual (size : Nat) : PageLimits.size ⟨size, size⟩ (some size) = max size 1 := by
  simp only [PageLimits.size, Option.getD_some]
  omega

/-- **All items are collected.** When no two items have the same key, following the tokens from the first
page on comes to an end, with as many pages as the items fill; all pages but the last are full and have a
token; and the items of all pages are the items of the listing in the order of their keys. -/
theorem collectAll_eq_some (items : List α) (size : Nat) (params : Json.Tree) (key : α → String)
    (distinct : (items.map key).Nodup) :
    ∃ pages all,
      (∀ fuel, follow (fun r => paginate items r ⟨size, size⟩ params key) fuel ⟨some size, none⟩ =
        if pages.length ≤ fuel then some (.ok pages) else none) ∧
      collectAll items size params key = some (.ok all) ∧ all = allItems pages ∧
      all.Perm items ∧ Increasing key all ∧
      (∀ p ∈ pages.dropLast, p.items.length = max size 1 ∧ p.nextToken.isSome = true) ∧ Ended pages ∧
      pages.length = max 1 ((items.length + (max size 1 - 1)) / max size 1) := by
  obtain ⟨pages, exhausts, followed⟩ := follow_suffix (some size) ⟨size, size⟩ params distinct
    List.suffix_rfl (rfl : itemsFrom key (sortByKey key items) none = _)
  rw [size_usual] at exhausts
  have count := exhausts.count
  rw [length_sortByKey] at count
  have enough : pages.length ≤ items.length + 1 := by
    rw [count]
    exact pageCount_le (by omega)
  have collected : collectAll items size params key = some (.ok (allItems pages)) := by
    have := followed (items.length + 1)
    rw [if_pos enough] at this
    show (follow _ _ ⟨some size, tokenAt (parameterChecksum params) none⟩).map _ = _
    rw [this]
    rfl
  refine ⟨pages, allItems pages, followed, collected, rfl, ?_, ?_, exhausts.full, exhausts.ended, count⟩
  · rw [exhausts.items]
    exact sortByKey_perm key items
  · rw [exhausts.items]
    exact increasing_sortByKey distinct

/-- Pages of size zero hold one item each. -/
theorem collectAll_size_zero : (["b", "c", "a"].map id).Nodup ∧
    collectAll ["b", "c", "a"] 0 .null id = some (.ok ["a", "b", "c"]) := by
  have distinct : (["b", "c", "a"].map id).Nodup := by decide
  obtain ⟨pages, all, -, collected, -, perm, increasing, -⟩ :=
    collectAll_eq_some ["b", "c", "a"] 0 .null id distinct
  have sorted : Increasing id ["a", "b", "c"] := by unfold Increasing; decide
  have : all = ["a", "b", "c"] := by
    refine (perm.trans (by decide)).eq_of_pairwise (fun a b _ _ lt gt => ?_) increasing sorted
    exact absurd gt (String.lt_asymm lt)
  rw [← this]
  exact ⟨distinct, collected⟩

/-! ### The listings of a service -/

section

variable {ε ε' : Type}

/-- From the first page on, the tokens lead to these pages, and the last of them has none. -/
def Follows (fetch : PageRequest → Except ε (Page α)) (maxResults : Option Nat) (pages : List (Page α)) : Prop :=
  ∀ fuel, follow fetch fuel ⟨maxResults, none⟩ = if pages.length ≤ fuel then some (.ok pages) else none

/-- A service that sees an error in its own way follows the same tokens. -/
theorem follow_mapError (fetch : PageRequest → Except ε (Page α)) (seen : ε → ε') (fuel : Nat)
    (request : PageRequest) :
    follow (fun r => (fetch r).mapError seen) fuel request =
      (follow fetch fuel request).map fun pages => pages.mapError seen := by
  induction fuel generalizing request with
  | zero => rfl
  | succ fuel ih =>
    rw [follow, follow]
    cases fetch request with
    | error e => rfl
    | ok page =>
      cases more : request.next page with
      | none => simp only [Except.mapError, more, Option.map_some]
      | some next =>
        have later := ih next
        simp only [Except.mapError, more] at later ⊢
        rw [later, Option.map_map, Option.map_map]
        refine congrArg (Option.map · _) (funext fun rest => ?_)
        cases rest <;> rfl

/-- **A listing can be followed to its end**, whatever the size of the pages, if no two items have the same key. It
gives all items, in the order of their keys. -/
theorem exists_follows (items : List α) (maxResults : Option Nat) (limits : PageLimits) (params : Json.Tree)
    (distinct : (items.map key).Nodup) (seen : PageError → ε) :
    ∃ pages, Follows (fun r => (paginate items r limits params key).mapError seen) maxResults pages ∧
      (allItems pages).Perm items ∧ Increasing key (allItems pages) := by
  obtain ⟨pages, exhausts, followed⟩ := follow_suffix maxResults limits params distinct
    List.suffix_rfl (rfl : itemsFrom key (sortByKey key items) none = _)
  refine ⟨pages, fun fuel => ?_, ?_, ?_⟩
  · have reached := followed fuel
    rw [tokenAt, Option.map_none] at reached
    rw [follow_mapError, reached]
    split <;> rfl
  · rw [exhausts.items]
    exact sortByKey_perm key items
  · rw [exhausts.items]
    exact increasing_sortByKey distinct

/-! ### The end of the tokens -/

/-- From the first page on, the tokens lead to an end: to an error, or to pages that hold these items. -/
def Ends (fetch : PageRequest → Except ε (Page α)) (maxResults : Option Nat) (r : Except ε (List α)) : Prop :=
  ∃ fuel, (follow fetch fuel ⟨maxResults, none⟩).map (·.map allItems) = some r

section

variable {fetch : PageRequest → Except ε (Page α)} {maxResults : Option Nat}

/-- Whoever comes to the end does not need more steps. -/
theorem follow_add {fuel : Nat} {request : PageRequest} {pages : Except ε (List (Page α))}
    (ended : follow fetch fuel request = some pages) (more : Nat) :
    follow fetch (fuel + more) request = some pages := by
  induction fuel generalizing request pages with
  | zero => cases ended
  | succ fuel ih =>
    rw [Nat.succ_add, follow]
    rw [follow] at ended
    split at ended
    · exact ended
    · split at ended
      · exact ended
      · obtain ⟨rest, hr, rfl⟩ := Option.map_eq_some_iff.1 ended
        rw [ih hr, Option.map_some]

/-- Whoever comes to the end comes to the same one. -/
theorem follow_unique {fuel fuel' : Nat} {request : PageRequest} {pages pages' : Except ε (List (Page α))}
    (h : follow fetch fuel request = some pages) (h' : follow fetch fuel' request = some pages') : pages = pages' :=
  Option.some.inj ((follow_add h fuel').symm.trans (Nat.add_comm fuel fuel' ▸ follow_add h' fuel))

/-- There is one end. -/
theorem Ends.eq {r r' : Except ε (List α)} (h : Ends fetch maxResults r) (h' : Ends fetch maxResults r') :
    r = r' := by
  obtain ⟨fuel, h⟩ := h
  obtain ⟨fuel', h'⟩ := h'
  obtain ⟨pages, hp, rfl⟩ := Option.map_eq_some_iff.1 h
  obtain ⟨pages', hp', rfl⟩ := Option.map_eq_some_iff.1 h'
  rw [follow_unique hp hp']

theorem Follows.ends {pages : List (Page α)} (h : Follows fetch maxResults pages) :
    Ends fetch maxResults (.ok (allItems pages)) :=
  ⟨pages.length, by rw [h pages.length, if_pos (Nat.le_refl _)]; rfl⟩

theorem ends_of_error {e : ε} (h : fetch ⟨maxResults, none⟩ = .error e) : Ends fetch maxResults (.error e) :=
  ⟨1, by rw [follow, h]; rfl⟩

end

end

end MockCloud
