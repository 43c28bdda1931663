import MockCloud.Proofs.Page.Listing

/-! # Which tokens a listing accepts

A token is bound to the parameters of the call that gave it out. A text is one of three things to a call: no
token at all, a token for other parameters, or a token for these; what the call answers depends on nothing
else.

* `PageToken.WrittenAs` says which texts are tokens: the hexadecimal form, in either case, of a JSON text
  that shows the two fields. `PageToken.decode?_eq_some_iff`: exactly these are read.
* `paginate_of_writtenAs` and `paginate_eq_invalidToken_iff`: what a call answers to a text.
* `token_bound_to_parameters`: the round trip, and the fate of a token that was given out. -/

namespace MockCloud

namespace PageToken

/-- A tree shows a token: an object all of whose names are texts, in which each of the two fields stands once
and is a text, or the list of the two texts. -/
inductive ShownBy (t : PageToken) : Json.Tree → Prop
  | fields {pairs : List (Option String × Json.Tree)} (named : ∀ p ∈ pairs, p.1.isSome = true)
      (checksum : pairs.filter (·.1 == some "parameterChecksum") =
        [(some "parameterChecksum", .str t.parameterChecksum)])
      (unique : pairs.filter (·.1 == some "uniqueAttribute") =
        [(some "uniqueAttribute", .str t.uniqueAttribute)]) :
      ShownBy t (.fields pairs)
  | list : ShownBy t (.list [.str t.parameterChecksum, .str t.uniqueAttribute])

/-- A text is the hexadecimal form, in either case, of a JSON text that shows the token. -/
def WrittenAs (t : PageToken) (text : String) : Prop :=
  ∃ bytes tree, text.toList.map Char.toLower = Text.Hex.encode bytes ∧
    Json.Tree.parseBytes? (ByteArray.mk bytes.toArray) = some tree ∧ t.ShownBy tree

/-! ### The two fields -/

theorem filter_eq_singleton_iff {α : Type} {p : α → Bool} {l : List α} {x : α} :
    l.filter p = [x] ↔ l.countP p ≤ 1 ∧ l.find? p = some x := by
  rw [List.countP_eq_length_filter, ← List.head?_filter]
  cases l.filter p with
  | nil => simp
  | cons y ys => cases ys <;> simp

theorem field_eq_some_iff {pairs : List (Option String × Json.Tree)} {name s : String} :
    pairs.countP (·.1 == some name) ≤ 1 ∧
        (pairs.find? (·.1 == some name)).map (·.2) = some (Json.Tree.str s) ↔
      pairs.filter (·.1 == some name) = [(some name, .str s)] := by
  rw [filter_eq_singleton_iff]
  refine and_congr_right fun _ => ?_
  rw [Option.map_eq_some_iff]
  constructor
  · rintro ⟨⟨k, tree⟩, found, rfl⟩
    have named := List.find?_some found
    rw [found, show k = some name from beq_iff_eq.1 named]
  · intro found
    exact ⟨_, found, rfl⟩

theorem shownBy_iff_record? {t : PageToken} {tree : Json.Tree} :
    t.ShownBy tree ↔ tree.record? ["parameterChecksum", "uniqueAttribute"] =
      some [some (.str t.parameterChecksum), some (.str t.uniqueAttribute)] := by
  constructor
  · intro h
    cases h with
    | list => rfl
    | fields named checksum unique =>
      obtain ⟨once, found⟩ := field_eq_some_iff.2 checksum
      obtain ⟨once', found'⟩ := field_eq_some_iff.2 unique
      simp only [Json.Tree.record?, List.all_cons, List.all_nil, List.map_cons, List.map_nil, found, found',
        once, once', List.all_eq_true.2 named, decide_true, Bool.and_self, if_true]
  · intro h
    cases tree with
    | fields pairs =>
      simp only [Json.Tree.record?, List.all_cons, List.all_nil, Bool.and_true, Bool.and_eq_true,
        decide_eq_true_eq, List.all_eq_true, List.map_cons, List.map_nil] at h
      split at h
      next ok =>
        obtain ⟨named, once, once'⟩ := ok
        obtain ⟨found, h⟩ := List.cons.inj (Option.some.inj h)
        obtain ⟨found', -⟩ := List.cons.inj h
        exact .fields named (field_eq_some_iff.1 ⟨once, found⟩) (field_eq_some_iff.1 ⟨once', found'⟩)
      next => cases h
    | list items =>
      -- a list that is too short has no second field
      match items, h with
      | [], h | [_], h | _ :: _ :: _ :: _, h => simp [Json.Tree.record?] at h
      | [checksum, unique], h =>
        simp [Json.Tree.record?] at h
        obtain ⟨rfl, rfl⟩ := h
        exact .list
    | null | bool b | number n | text s => cases h

theorem required_text?_eq_some_iff {field : Option Json.Tree} {s : String} :
    Json.required Json.Tree.text? field = some s ↔ field = some (.str s) := by
  rcases field with _ | tree
  · exact ⟨nofun, nofun⟩
  · cases tree <;> simp [Json.required, Json.Tree.text?, Json.Tree.str]

/-- **Exactly the written forms of a token are read as the token.** -/
theorem decode?_eq_some_iff {text : String} {t : PageToken} : decode? text = some t ↔ t.WrittenAs text := by
  unfold decode? WrittenAs
  simp only [Option.bind_eq_bind, Option.bind_eq_some_iff, Text.Hex.decode?_eq_some_iff]
  constructor
  · rintro ⟨bytes, hex, tree, parsed, fields, record, h⟩
    refine ⟨bytes, tree, hex, parsed, shownBy_iff_record?.2 ?_⟩
    split at h
    next checksum unique =>
      simp only [Option.pure_def, Option.bind_eq_some_iff, required_text?_eq_some_iff, Option.some.injEq] at h
      obtain ⟨c, rfl, u, rfl, rfl⟩ := h
      exact record
    next => cases h
  · rintro ⟨bytes, tree, hex, parsed, shown⟩
    exact ⟨bytes, hex, tree, parsed, _, shownBy_iff_record?.1 shown, rfl⟩

theorem encode_injective {t u : PageToken} (h : t.encode = u.encode) : t = u := by
  have read := decode?_encode t
  rw [h, decode?_encode u] at read
  exact (Option.some.inj read).symm

end PageToken

/-! ### What a call answers to a text -/

section

variable {α β : Type} (items : List α) (maxResults : Option Nat) (limits : PageLimits) (params : Json.Tree)
  (key : α → String)

theorem paginate_of_writtenAs {t : PageToken} {text : String} (h : t.WrittenAs text) :
    paginate items ⟨maxResults, some text⟩ limits params key =
      if t.parameterChecksum = parameterChecksum params then
        .ok (firstPage key (parameterChecksum params) (limits.size maxResults)
          (itemsFrom key (sortByKey key items) (some t.uniqueAttribute)))
      else .error (.inconsistentParameters "filter parameters changed") := by
  have read : PageToken.decode? text = some t := PageToken.decode?_eq_some_iff.2 h
  unfold paginate PageRequest.start
  simp only [read]
  split <;> rfl

theorem paginate_eq_invalidToken_iff {text : String} :
    paginate items ⟨maxResults, some text⟩ limits params key = .error .invalidToken ↔
      ∀ t : PageToken, ¬t.WrittenAs text := by
  constructor
  · intro h t written
    rw [paginate_of_writtenAs items maxResults limits params key written] at h
    split at h <;> cases h
  · intro h
    have unread : PageToken.decode? text = none := by
      cases read : PageToken.decode? text with
      | none => rfl
      | some t => exact absurd (PageToken.decode?_eq_some_iff.1 read) (h t)
    unfold paginate PageRequest.start
    simp only [unread]
    rfl

/-- The token of a page is written with the checksum of the parameters of its call. -/
theorem writtenAs_of_paginate {request : PageRequest} {page : Page α} {token : String}
    (h : paginate items request limits params key = .ok page) (next : page.nextToken = some token) :
    ∃ unique, PageToken.WrittenAs ⟨parameterChecksum params, unique⟩ token := by
  unfold paginate at h
  dsimp only at h
  cases start : request.start (parameterChecksum params) with
  | error e => rw [start] at h; cases h
  | ok start' =>
    rw [start] at h
    obtain rfl := Except.ok.inj h
    obtain ⟨a, -, rfl⟩ := Option.map_eq_some_iff.1 next
    exact ⟨key a, PageToken.decode?_eq_some_iff.1 (PageToken.decode?_encode _)⟩

end

/-- **Tokens are bound to their parameters.** A token reads back as the checksum and the key that it was
written with, so different ones are written differently. A token that a listing gave out is accepted by every
call whose parameters have the same checksum, whatever it lists, and refused as inconsistent by every other
call. A text that is no written form of a token, and no other text, is refused as invalid. -/
theorem token_bound_to_parameters {α β : Type} :
    (∀ t : PageToken, PageToken.decode? t.encode = some t) ∧
      (∀ t u : PageToken, t.encode = u.encode → t = u) ∧
      (∀ (items : List α) (request : PageRequest) (limits : PageLimits) (params : Json.Tree)
        (key : α → String) (page : Page α) (token : String),
        paginate items request limits params key = .ok page → page.nextToken = some token →
        ∀ (items' : List β) (maxResults : Option Nat) (limits' : PageLimits) (params' : Json.Tree)
          (key' : β → String),
          (parameterChecksum params = parameterChecksum params' →
            ∃ page', paginate items' ⟨maxResults, some token⟩ limits' params' key' = .ok page') ∧
          (parameterChecksum params ≠ parameterChecksum params' →
            paginate items' ⟨maxResults, some token⟩ limits' params' key' =
              .error (.inconsistentParameters "filter parameters changed"))) ∧
      ∀ (items : List α) (maxResults : Option Nat) (limits : PageLimits) (params : Json.Tree)
        (key : α → String) (text : String),
        paginate items ⟨maxResults, some text⟩ limits params key = .error .invalidToken ↔
          ∀ t : PageToken, ¬t.WrittenAs text := by
  refine ⟨PageToken.decode?_encode, fun t u => PageToken.encode_injective, ?_, ?_⟩
  · intro items request limits params key page token issued next items' maxResults limits' params' key'
    obtain ⟨unique, written⟩ := writtenAs_of_paginate items limits params key issued next
    have answer := paginate_of_writtenAs items' maxResults limits' params' key' written
    constructor
    · intro same
      rw [if_pos same] at answer
      exact ⟨_, answer⟩
    · intro different
      rwa [if_neg different] at answer
  · intro items maxResults limits params key text
    exact paginate_eq_invalidToken_iff items maxResults limits params key

/-- The token of the second of two items, shown to calls with the same and with other parameters. -/
theorem token_bound_two_items : ∃ page token,
    paginate ["a", "b"] ⟨some 1, none⟩ {} .null id = .ok page ∧ page.nextToken = some token ∧
      (∃ page', paginate ["b", "c"] ⟨none, some token⟩ {} .null id = .ok page') ∧
      paginate ["b", "c"] ⟨none, some token⟩ {} (.bool true) id =
        .error (.inconsistentParameters "filter parameters changed") := by
  have issued := paginate_tokenAt ["a", "b"] (some 1) {} .null id none
  have next := firstPage_nextToken id (parameterChecksum .null) 1 ["a", "b"]
  have sorted : sortByKey id ["a", "b"] = ["a", "b"] := List.mergeSort_of_pairwise (by decide)
  have different : parameterChecksum .null ≠ parameterChecksum (.bool true) := by decide +kernel
  rw [show itemsFrom id (sortByKey id ["a", "b"]) none = sortByKey id ["a", "b"] from rfl, sorted] at issued
  obtain ⟨-, -, bound, -⟩ := token_bound_to_parameters (α := String) (β := String)
  have answers := bound _ _ _ _ _ _ _ issued next ["b", "c"] none {}
  exact ⟨_, _, issued, next, (answers .null id).1 rfl, (answers (.bool true) id).2 different⟩

end MockCloud
