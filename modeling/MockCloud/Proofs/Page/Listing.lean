import Mathlib.Data.List.Nodup
import MockCloud.Proofs.Page.Token

/-! # One page of a listing

The items of a listing in the order of their keys, the part of them from a key on, and the page that is cut
off there. The token of a page is the key at which the next page begins.

* `itemsFrom_eq_filter`: going on from a key passes over exactly the items before it.
* `paginate_tokenAt`: a call with the token of a key is never refused, and gives the first page of the items
  from that key on. -/

namespace MockCloud

variable {α : Type} {key : α → String} {items : List α}

/-! ### The order of the keys -/

theorem sortByKey_perm (key : α → String) (items : List α) : (sortByKey key items).Perm items :=
  List.mergeSort_perm ..

theorem mem_sortByKey {a : α} : a ∈ sortByKey key items ↔ a ∈ items :=
  (sortByKey_perm key items).mem_iff

theorem length_sortByKey (key : α → String) (items : List α) :
    (sortByKey key items).length = items.length :=
  (sortByKey_perm key items).length_eq

theorem pairwise_sortByKey (key : α → String) (items : List α) :
    (sortByKey key items).Pairwise fun a b => key a ≤ key b := by
  have trans (a b c : α) (h : decide (key a ≤ key b) = true) (h' : decide (key b ≤ key c) = true) :
      decide (key a ≤ key c) = true := by
    rw [decide_eq_true_eq] at *
    exact String.le_trans h h'
  have total (a b : α) : (decide (key a ≤ key b) || decide (key b ≤ key a)) = true := by
    simpa using String.le_total (key a) (key b)
  exact (List.pairwise_mergeSort trans total items).imp fun h => by simpa using h

/-- The items stand in the order of their keys, and no two have the same key. -/
def Increasing (key : α → String) (items : List α) : Prop :=
  items.Pairwise fun a b => key a < key b

theorem increasing_sortByKey (distinct : (items.map key).Nodup) : Increasing key (sortByKey key items) := by
  have sorted := pairwise_sortByKey key items
  have ne : (sortByKey key items).Pairwise fun a b => key a ≠ key b :=
    List.pairwise_map.1 (((sortByKey_perm key items).map key).nodup_iff.2 distinct)
  exact (sorted.and ne).imp fun ⟨le, ne⟩ =>
    String.not_le.1 fun ge => ne (String.le_antisymm le ge)

theorem Increasing.nodup_keys (h : Increasing key items) : (items.map key).Nodup :=
  List.pairwise_map.2 (h.imp fun lt => String.ne_of_lt lt)

theorem Increasing.pairwise_le (h : Increasing key items) : items.Pairwise fun a b => key a ≤ key b :=
  h.imp fun lt => String.not_lt.1 (String.lt_asymm lt)

/-- The key is not before the start, if there is one. -/
def NotBefore (start : Option String) (k : String) : Prop :=
  ∀ s, start = some s → s ≤ k

theorem notBefore_none (k : String) : NotBefore none k := nofun

theorem notBefore_some {s k : String} : NotBefore (some s) k ↔ s ≤ k :=
  ⟨fun h => h s rfl, fun h _ e => by cases e; exact h⟩

/-- **Going on from a key** passes over the items before it and no others. -/
theorem itemsFrom_eq_filter (h : items.Pairwise fun a b => key a ≤ key b) (start : String) :
    itemsFrom key items (some start) = items.filter fun a => !decide (key a < start) := by
  show items.dropWhile (fun a => decide (key a < start)) = _
  induction items with
  | nil => rfl
  | cons a as ih =>
    obtain ⟨first, rest⟩ := List.pairwise_cons.1 h
    by_cases ha : key a < start
    · rw [List.dropWhile_cons, List.filter_cons]
      simp only [ha, decide_true, Bool.not_true, Bool.false_eq_true, if_true, if_false]
      exact ih rest
    · -- nothing behind the first item that stays is passed over
      have stay : as.filter (fun b => !decide (key b < start)) = as := by
        refine List.filter_eq_self.2 fun b hb => ?_
        have : ¬key b < start := String.not_lt.2 (String.le_trans (String.not_lt.1 ha) (first b hb))
        rw [decide_eq_false this]
        rfl
      rw [List.dropWhile_cons, List.filter_cons, stay]
      simp only [ha, decide_false, Bool.not_false, Bool.false_eq_true, if_true, if_false]

theorem itemsFrom_sublist (key : α → String) (items : List α) (start : Option String) :
    (itemsFrom key items start).Sublist items := by
  cases start with
  | none => exact .refl items
  | some s => exact List.dropWhile_sublist _

theorem mem_itemsFrom (h : items.Pairwise fun a b => key a ≤ key b) {start : Option String} {a : α} :
    a ∈ itemsFrom key items start ↔ a ∈ items ∧ NotBefore start (key a) := by
  cases start with
  | none => simp [itemsFrom, notBefore_none]
  | some s =>
    rw [itemsFrom_eq_filter h, List.mem_filter, notBefore_some, Bool.not_eq_true', decide_eq_false_iff_not,
      String.not_lt]

theorem Increasing.itemsFrom (h : Increasing key items) (start : Option String) :
    Increasing key (itemsFrom key items start) :=
  List.Pairwise.sublist (itemsFrom_sublist key items start) h

/-! ### The page -/

/-- The key at which the next page begins. -/
def nextStart (key : α → String) (size : Nat) (items : List α) : Option String :=
  (items.drop size).head?.map key

theorem firstPage_nextToken (key : α → String) (checksum : String) (size : Nat) (items : List α) :
    (firstPage key checksum size items).nextToken = tokenAt checksum (nextStart key size items) := by
  rw [firstPage, tokenAt, nextStart, Option.map_map]
  rfl

theorem nextToken_eq_none {checksum : String} {size : Nat} (next : nextStart key size items = none) :
    (firstPage key checksum size items).nextToken = none := by
  rw [firstPage_nextToken, next]
  rfl

theorem nextToken_eq_some {checksum : String} {size : Nat} {s : String}
    (next : nextStart key size items = some s) :
    (firstPage key checksum size items).nextToken = some (PageToken.encode ⟨checksum, s⟩) := by
  rw [firstPage_nextToken, next]
  rfl

theorem nextStart_eq_none_iff {size : Nat} : nextStart key size items = none ↔ items.length ≤ size := by
  rw [nextStart, Option.map_eq_none_iff, List.head?_eq_none_iff, List.drop_eq_nil_iff]

theorem exists_drop_of_nextStart {size : Nat} {s : String} (h : nextStart key size items = some s) :
    ∃ d ds, items.drop size = d :: ds ∧ key d = s := by
  obtain ⟨d, hd, rfl⟩ := Option.map_eq_some_iff.1 h
  obtain ⟨ds, hds⟩ := List.head?_eq_some_iff.1 hd
  exact ⟨d, ds, hds, rfl⟩

/-- The page holds the items before the key at which the next one begins. -/
theorem Increasing.mem_take_iff (h : Increasing key items) {size : Nat} {s : String}
    (next : nextStart key size items = some s) {a : α} :
    a ∈ items.take size ↔ a ∈ items ∧ key a < s := by
  obtain ⟨d, ds, hd, rfl⟩ := exists_drop_of_nextStart next
  have cut : items.take size ++ d :: ds = items := by rw [← hd, List.take_append_drop]
  rw [Increasing, ← cut, List.pairwise_append] at h
  obtain ⟨-, behind, across⟩ := h
  constructor
  · intro ha
    exact ⟨List.mem_of_mem_take ha, across a ha d (by simp)⟩
  · rintro ⟨ha, lt⟩
    rw [← cut, List.mem_append] at ha
    rcases ha with ha | ha
    · exact ha
    · rcases List.mem_cons.1 ha with rfl | ha
      · exact absurd lt (String.lt_irrefl _)
      · exact absurd lt (String.lt_asymm ((List.pairwise_cons.1 behind).1 a ha))

/-- **A call with the token of a key is never refused.** -/
theorem paginate_tokenAt (items : List α) (maxResults : Option Nat) (limits : PageLimits)
    (params : Json.Tree) (key : α → String) (start : Option String) :
    paginate items ⟨maxResults, tokenAt (parameterChecksum params) start⟩ limits params key =
      .ok (firstPage key (parameterChecksum params) (limits.size maxResults)
        (itemsFrom key (sortByKey key items) start)) := by
  unfold paginate
  dsimp only
  rw [PageRequest.start_tokenAt]
  rfl

/-! ### Rows of pages -/

/-- The items of all pages, one behind the other. -/
def allItems (pages : List (Page α)) : List α :=
  pages.flatMap Page.items

/-- The last page has no token. -/
def Ended (pages : List (Page α)) : Prop :=
  ∃ last, pages.getLast? = some last ∧ last.nextToken = none

theorem allItems_cons (p : Page α) (pages : List (Page α)) :
    allItems (p :: pages) = p.items ++ allItems pages :=
  List.flatMap_cons ..

/-- A page without a token holds all that is left. -/
theorem allItems_last (checksum : String) {size : Nat} (next : nextStart key size items = none) :
    allItems [firstPage key checksum size items] = items := by
  rw [allItems, List.flatMap_singleton, firstPage, List.take_of_length_le (nextStart_eq_none_iff.1 next)]

theorem ended_cons {p : Page α} {pages : List (Page α)} (h : Ended pages) : Ended (p :: pages) := by
  obtain ⟨last, hlast, ended⟩ := h
  cases pages with
  | nil => cases hlast
  | cons q pages => exact ⟨last, by simpa using hlast, ended⟩

theorem Ended.tail {p : Page α} {pages : List (Page α)} (h : Ended (p :: pages))
    (token : p.nextToken ≠ none) : Ended pages := by
  obtain ⟨last, hlast, ended⟩ := h
  cases pages with
  | nil => cases hlast; exact absurd ended token
  | cons q pages => exact ⟨last, by simpa using hlast, ended⟩

theorem PageLimits.size_pos (l : PageLimits) (requested : Option Nat) : 0 < l.size requested := by
  unfold size
  omega

end MockCloud
