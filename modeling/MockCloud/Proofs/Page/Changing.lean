import MockCloud.Proofs.Page.Listing

/-! # Pages of a listing that changes

Between two calls items may come and go, and each call may ask for another size. Each page begins at a key,
and whatever the listing holds by then, it holds the items from that key on and up to the key at which the
next page begins. So the pages are stretches of keys that lie one behind the other without a gap.

* `pagesAlong`: the pages of a row of calls, each with the token of the page before it.
* `Covers`: what is returned from a key on.
* `each_key_once`: the calls succeed, nothing is returned twice, and what is there all the time is returned
  once. -/

namespace MockCloud

variable {α : Type}

/-- One call for a page: the listing at that time, and what is asked for, the token apart. -/
structure PageCall (α : Type) where
  items : List α
  maxResults : Option Nat
  limits : PageLimits

/-- The pages of a row of calls: each call has the token of the page before it, and the row stops at a page
without a token. -/
def pagesAlong (params : Json.Tree) (key : α → String) :
    Option String → List (PageCall α) → Except PageError (List (Page α))
  | _, [] => .ok []
  | token, c :: cs =>
    match paginate c.items ⟨c.maxResults, token⟩ c.limits params key with
    | .error e => .error e
    | .ok page =>
      match page.nextToken with
      | none => .ok [page]
      | some next => (pagesAlong params key (some next) cs).map (page :: ·)

section

variable {params : Json.Tree} {key : α → String} {token : Option String} {c : PageCall α}
  {cs : List (PageCall α)} {page : Page α}

theorem pagesAlong_last (h : paginate c.items ⟨c.maxResults, token⟩ c.limits params key = .ok page)
    (last : page.nextToken = none) : pagesAlong params key token (c :: cs) = .ok [page] := by
  unfold pagesAlong
  simp only [h, last]

theorem pagesAlong_cons (h : paginate c.items ⟨c.maxResults, token⟩ c.limits params key = .ok page)
    {next : String} (more : page.nextToken = some next) {pages : List (Page α)}
    (rest : pagesAlong params key (some next) cs = .ok pages) :
    pagesAlong params key token (c :: cs) = .ok (page :: pages) := by
  unfold pagesAlong
  simp only [h, more, rest]
  rfl

end

/-- What the pages of the calls return when the first of them begins at `start`: items from `start` on in
increasing order, and once the pages have ended, every key from `start` on that was there at each call. -/
structure Covers (key : α → String) (start : Option String) (calls : List (PageCall α))
    (pages : List (Page α)) : Prop where
  increasing : Increasing key (allItems pages)
  behind : ∀ a ∈ allItems pages, NotBefore start (key a)
  complete : Ended pages → ∀ k, NotBefore start k →
    (∀ c ∈ calls.take pages.length, k ∈ c.items.map key) → k ∈ (allItems pages).map key

section

variable {key : α → String} {start : Option String} {c : PageCall α} {calls : List (PageCall α)}
  {rest : List α} {checksum : String} {size : Nat}

theorem covers_nil (key : α → String) (start : Option String) (calls : List (PageCall α)) :
    Covers key start calls [] where
  increasing := .nil
  behind := nofun
  complete := by rintro ⟨last, h, -⟩; cases h

/-- The last page holds all that is left. -/
theorem covers_last (increasing : Increasing key rest)
    (mem : ∀ a, a ∈ rest ↔ a ∈ c.items ∧ NotBefore start (key a))
    (next : nextStart key size rest = none) :
    Covers key start (c :: calls) [firstPage key checksum size rest] := by
  have all := allItems_last checksum next
  refine ⟨by rwa [all], fun a ha => ?_, fun _ k hk there => ?_⟩
  · rw [all] at ha
    exact ((mem a).1 ha).2
  · obtain ⟨a, ha, rfl⟩ := List.mem_map.1 (there c (by simp))
    rw [all]
    exact List.mem_map_of_mem ((mem a).2 ⟨ha, hk⟩)

/-- A page with a token is followed by what is returned from its token on. -/
theorem covers_cons (increasing : Increasing key rest)
    (mem : ∀ a, a ∈ rest ↔ a ∈ c.items ∧ NotBefore start (key a)) {s : String}
    (next : nextStart key size rest = some s) {pages : List (Page α)}
    (h : Covers key (some s) calls pages) :
    Covers key start (c :: calls) (firstPage key checksum size rest :: pages) := by
  have all : allItems (firstPage key checksum size rest :: pages) = rest.take size ++ allItems pages :=
    allItems_cons ..
  have token : (firstPage key checksum size rest).nextToken ≠ none := by
    rw [nextToken_eq_some next]
    exact Option.some_ne_none _
  have start_le : NotBefore start s := by
    obtain ⟨d, ds, hd, rfl⟩ := exists_drop_of_nextStart next
    exact ((mem d).1 (List.mem_of_mem_drop (hd ▸ List.mem_cons_self))).2
  constructor
  · rw [Increasing, all, List.pairwise_append]
    refine ⟨increasing.sublist (List.take_sublist ..), h.increasing, fun a ha b hb => ?_⟩
    have lt : key a < s := ((increasing.mem_take_iff next).1 ha).2
    have le : s ≤ key b := notBefore_some.1 (h.behind b hb)
    exact String.not_le.1 fun ge => String.not_lt.2 (String.le_trans le ge) lt
  · intro a ha
    rw [all, List.mem_append] at ha
    rcases ha with ha | ha
    · exact ((mem a).1 (List.mem_of_mem_take ha)).2
    · intro t ht
      exact String.le_trans (start_le t ht) (notBefore_some.1 (h.behind a ha))
  · intro ended k hk there
    rw [all, List.map_append, List.mem_append]
    by_cases hs : s ≤ k
    · right
      exact h.complete (ended.tail token) k (notBefore_some.2 hs) fun c hc => there c (by simp [hc])
    · left
      obtain ⟨a, ha, rfl⟩ := List.mem_map.1 (there c (by simp))
      have : a ∈ rest.take size :=
        (increasing.mem_take_iff next).2 ⟨(mem a).2 ⟨ha, hk⟩, String.not_le.1 hs⟩
      exact List.mem_map_of_mem this

end

/-- **Whatever key a row of calls begins at**, the calls succeed and cover the keys from there on. -/
theorem exists_covers (params : Json.Tree) (key : α → String) (start : Option String)
    {calls : List (PageCall α)} (distinct : ∀ c ∈ calls, (c.items.map key).Nodup) :
    ∃ pages, pagesAlong params key (tokenAt (parameterChecksum params) start) calls = .ok pages ∧
      Covers key start calls pages := by
  induction calls generalizing start with
  | nil => exact ⟨[], rfl, covers_nil key start []⟩
  | cons c cs ih =>
    have sorted := increasing_sortByKey (distinct c (by simp))
    have increasing := sorted.itemsFrom start
    have mem (a : α) : a ∈ itemsFrom key (sortByKey key c.items) start ↔
        a ∈ c.items ∧ NotBefore start (key a) := by
      rw [mem_itemsFrom sorted.pairwise_le, mem_sortByKey]
    have page := paginate_tokenAt c.items c.maxResults c.limits params key start
    cases next : nextStart key (c.limits.size c.maxResults) (itemsFrom key (sortByKey key c.items) start) with
    | none => exact ⟨_, pagesAlong_last page (nextToken_eq_none next), covers_last increasing mem next⟩
    | some s =>
      obtain ⟨pages, hpages, covers⟩ := ih (some s) fun d hd => distinct d (by simp [hd])
      exact ⟨_, pagesAlong_cons page (nextToken_eq_some next) hpages,
        covers_cons increasing mem next covers⟩

/-- **Each key once.** However the listing changes between the calls and whatever sizes they ask for, the
calls succeed and return nothing twice; and when the last page has no token, every key that was there at
each call is returned exactly once. -/
theorem each_key_once (params : Json.Tree) (key : α → String) (calls : List (PageCall α))
    (distinct : ∀ c ∈ calls, (c.items.map key).Nodup) :
    ∃ pages, pagesAlong params key none calls = .ok pages ∧
      Increasing key (allItems pages) ∧
      (Ended pages → ∀ k, (∀ c ∈ calls.take pages.length, k ∈ c.items.map key) →
        ((allItems pages).map key).count k = 1) := by
  obtain ⟨pages, hpages, covers⟩ := exists_covers params key none distinct
  refine ⟨pages, hpages, covers.increasing, fun ended k there => ?_⟩
  have mem := covers.complete ended k (notBefore_none k) there
  exact List.count_eq_one_of_mem covers.increasing.nodup_keys mem

/-- Between two calls for different sizes one item goes, at which the second page was to begin, and one
comes. -/
def changingCalls : List (PageCall String) :=
  [⟨["a", "b", "c"], some 1, {}⟩, ⟨["a", "c", "d"], some 2, {}⟩]

/-- The pages end, and the item that stays behind the first page is returned once. -/
theorem each_key_once_changing : (∀ c ∈ changingCalls, (c.items.map id).Nodup) ∧
    ∃ pages, pagesAlong .null id none changingCalls = .ok pages ∧ Ended pages ∧
      ((allItems pages).map id).count "c" = 1 := by
  have distinct : ∀ c ∈ changingCalls, (c.items.map id).Nodup := by decide
  have sorted : sortByKey id ["a", "b", "c"] = ["a", "b", "c"] := List.mergeSort_of_pairwise (by decide)
  have sorted' : sortByKey id ["a", "c", "d"] = ["a", "c", "d"] := List.mergeSort_of_pairwise (by decide)
  have first : paginate ["a", "b", "c"] ⟨some 1, none⟩ {} .null id =
      .ok ⟨["a"], tokenAt (parameterChecksum .null) (some "b")⟩ := by
    have page := paginate_tokenAt ["a", "b", "c"] (some 1) {} .null id none
    rw [sorted] at page
    exact page
  have second : paginate ["a", "c", "d"] ⟨some 2, tokenAt (parameterChecksum .null) (some "b")⟩ {} .null id =
      .ok ⟨["c", "d"], none⟩ := by
    have page := paginate_tokenAt ["a", "c", "d"] (some 2) {} .null id (some "b")
    rw [sorted', show itemsFrom id ["a", "c", "d"] (some "b") = ["c", "d"] by decide] at page
    exact page
  have pages : pagesAlong .null id none changingCalls =
      .ok [⟨["a"], tokenAt (parameterChecksum .null) (some "b")⟩, ⟨["c", "d"], none⟩] := by
    exact pagesAlong_cons first rfl (pagesAlong_last second rfl)
  obtain ⟨ps, hps, -, once⟩ := each_key_once .null id changingCalls distinct
  rw [pages] at hps
  cases hps
  exact ⟨distinct, _, pages, ⟨_, rfl, rfl⟩, once ⟨_, rfl, rfl⟩ "c" (by decide)⟩

end MockCloud
