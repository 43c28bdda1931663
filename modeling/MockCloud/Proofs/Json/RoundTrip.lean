import Mathlib.Data.List.TakeWhile
import MockCloud.Json.Parse

/-! # Written trees read back

The scanner reads the characters of a tree as the tokens of the tree, and the tokens are put together to
the tree again. A word or a numeral ends only at the character behind it, so what is said about the scanner
after a value is how it goes on from there.

* `Tree.Clean`: the trees that can be written as they are: every text is there, and every numeral has the
  characters of a numeral.
* `Scanner.reads_chars` and `Assembly.builds_tokens`: the two halves.
* `Tree.parse?_render`: a clean tree that is written reads back as itself. -/

namespace MockCloud.Json

/-! ### Clean trees -/

/-- A numeral that is written as it is read. -/
structure Numeral.Clean (n : Numeral) : Prop where
  read : Numeral.ofChars? n.chars = some n
  chars : ∀ c ∈ n.chars, isNumeralChar c = true
  start : ∃ c cs, n.chars = c :: cs ∧ (c = '-' ∨ c.isDigit = true)

/-- A tree without broken texts and misshapen numerals. -/
inductive Tree.Clean : Tree → Prop
  | null : Clean .null
  | bool (b : Bool) : Clean (.bool b)
  | number {n : Numeral} (h : n.Clean) : Clean (.number n)
  | str (s : String) : Clean (.text (some s))
  | list {items : List Tree} (h : ∀ t ∈ items, Clean t) : Clean (.list items)
  | fields {pairs : List (Option String × Tree)} (keys : ∀ p ∈ pairs, ∃ k, p.1 = some k)
      (h : ∀ p ∈ pairs, Clean p.2) : Clean (.fields pairs)

theorem digits?_of_all {cs : List Char} (ne : cs ≠ []) (h : ∀ c ∈ cs, c.isDigit = true) :
    digits? cs = some (cs, []) := by
  have taken : cs.takeWhile Char.isDigit = cs := List.takeWhile_eq_self_iff.2 h
  have left : cs.dropWhile Char.isDigit = [] := List.dropWhile_eq_nil_iff.2 h
  unfold digits?
  rw [taken, left]
  cases cs with
  | nil => exact absurd rfl ne
  | cons c cs => rfl

theorem ofChars?_of_digits {cs : List Char} (ne : cs ≠ []) (h : ∀ c ∈ cs, c.isDigit = true)
    (zero : ¬(cs.head? = some '0' ∧ cs.length ≠ 1)) :
    Numeral.ofChars? cs = some ⟨false, cs, none, none⟩ := by
  unfold Numeral.ofChars?
  split
  next negative ds hd =>
  split at hd
  · exact absurd (h '-' (by simp)) (by decide)
  · cases hd
    simp only [digits?_of_all ne h, Option.bind_eq_bind, Option.bind_some, if_neg zero]
    rfl

/-- A natural number is written as it is read. -/
theorem Numeral.clean_ofNat (n : Nat) : (Numeral.ofNat n).Clean := by
  have digits := Text.isDigit_toDigits n
  have chars : (Numeral.ofNat n).chars = Nat.toDigits 10 n := by simp [chars, ofNat]
  refine ⟨?_, ?_, ?_⟩ <;> rw [chars]
  · exact ofChars?_of_digits Nat.toDigits_ne_nil digits (Text.toDigits_no_zero n)
  · intro c hc
    simp [isNumeralChar, digits c hc]
  · cases hd : Nat.toDigits 10 n with
    | nil => exact absurd hd Nat.toDigits_ne_nil
    | cons d ds => exact ⟨d, ds, rfl, .inr (digits d (by simp [hd]))⟩

theorem Tree.Clean.record {pairs : List (String × Tree)} (h : ∀ p ∈ pairs, p.2.Clean) :
    (Tree.record pairs).Clean := by
  refine .fields (fun p hp => ?_) fun p hp => ?_ <;> obtain ⟨q, hq, rfl⟩ := List.mem_map.1 hp
  · exact ⟨q.1, rfl⟩
  · exact h q hq

mutual

/-- The tokens of a tree. -/
def Tree.tokens : Tree → List Token
  | .text s => [.text s]
  | .list items => .bracketOpen :: itemTokens items ++ [.bracketClose]
  | .fields pairs => .braceOpen :: fieldTokens pairs ++ [.braceClose]
  | t => [.atom t]

/-- The tokens of the items of a list, with commas between them. -/
def itemTokens : List Tree → List Token
  | [] => []
  | [t] => t.tokens
  | t :: rest => t.tokens ++ .comma :: itemTokens rest

/-- The tokens of the fields of an object, with commas between them. -/
def fieldTokens : List (Option String × Tree) → List Token
  | [] => []
  | [(k, t)] => .text k :: .colon :: t.tokens
  | (k, t) :: rest => .text k :: .colon :: t.tokens ++ .comma :: fieldTokens rest

end

theorem itemTokens_cons_cons (t u : Tree) (rest : List Tree) :
    itemTokens (t :: u :: rest) = t.tokens ++ .comma :: itemTokens (u :: rest) := rfl

theorem fieldTokens_cons_cons (k : Option String) (t : Tree) (q : Option String × Tree)
    (rest : List (Option String × Tree)) :
    fieldTokens ((k, t) :: q :: rest) = .text k :: .colon :: t.tokens ++ .comma :: fieldTokens (q :: rest) :=
  rfl

/-! ### Scanning -/

/-- The scanner after some characters. -/
def Scanner.scan (s : Scanner) (cs : List Char) : Option Scanner :=
  cs.foldlM Scanner.step s

/-- A value is complete: the scanner has read these tokens if the text ends here, and goes on behind them
if the value is followed by a comma or a closing bracket or brace. -/
structure Scanner.Ready (s : Scanner) (read : List Token) : Prop where
  close : s.close = some read
  step : ∀ c, c = ',' ∨ c = ']' ∨ c = '\x7d' → s.step c = begin read c

namespace Scanner

variable {s : Scanner} {b : Body} {read : List Token} {c : Char}

@[simp] theorem scan_nil : s.scan [] = some s := rfl

@[simp] theorem scan_cons {cs : List Char} : s.scan (c :: cs) = (s.step c).bind (scan · cs) := rfl

theorem scan_append {cs ds : List Char} : s.scan (cs ++ ds) = (s.scan cs).bind (scan · ds) :=
  List.foldlM_append

theorem ready_between (read : List Token) : Ready ⟨.between, read⟩ read :=
  ⟨rfl, fun _ _ => rfl⟩

theorem step_unit {missing value d : Nat} (h : Text.Hex.value? c = some d) (more : 1 < missing) :
    step ⟨.unit b missing value, read⟩ c = some ⟨.unit b (missing - 1) (16 * value + d), read⟩ := by
  simp [step, h]
  omega

theorem step_last_unit {value d : Nat} (h : Text.Hex.value? c = some d) :
    step ⟨.unit b 1 value, read⟩ c = some ⟨.text (b.pushUnit (16 * value + d)), read⟩ := by
  simp [step, h]

/-- The escape of a control character, digit by digit. -/
theorem scan_control (h : c.toNat < 0x20) : scan ⟨.text b, read⟩
    ['\\', 'u', '0', '0', Nat.digitChar (c.toNat / 16), Nat.digitChar (c.toNat % 16)] =
      some ⟨.text (b.push c), read⟩ := by
  have zero : Text.Hex.value? '0' = some 0 := by decide
  have high : Text.Hex.value? (Nat.digitChar (c.toNat / 16)) = some (c.toNat / 16) :=
    Text.Hex.value?_digitChar (by omega)
  have low : Text.Hex.value? (Nat.digitChar (c.toNat % 16)) = some (c.toNat % 16) :=
    Text.Hex.value?_digitChar (by omega)
  have value : 16 * (16 * (16 * (16 * 0 + 0) + 0) + c.toNat / 16) + c.toNat % 16 = c.toNat := by omega
  have unit : b.pushUnit c.toNat = b.push c := by
    unfold Body.pushUnit
    rw [if_neg (by omega), if_neg (by omega), Char.ofNat_toNat]
  have backslash : step ⟨.text b, read⟩ '\\' = some ⟨.escape b, read⟩ := rfl
  have letter : step ⟨.escape b, read⟩ 'u' = some ⟨.unit b 4 0, read⟩ := rfl
  simp only [scan_cons, scan_nil, backslash, letter, Option.bind_some, step_unit zero (by omega : 1 < 4),
    step_unit zero (by omega : 1 < 4 - 1), step_unit high (by omega : 1 < 4 - 1 - 1),
    show 4 - 1 - 1 - 1 = 1 from rfl, step_last_unit low, value, unit]

/-- A character between quotes is read as itself, escaped or not. -/
theorem scan_escaped (b : Body) (read : List Token) (c : Char) :
    scan ⟨.text b, read⟩ (escaped c) = some ⟨.text (b.push c), read⟩ := by
  unfold escaped
  split_ifs with h1 h2 h3 h4 h5 h6 h7 h8
  · subst h1; rfl
  · subst h2; rfl
  · subst h3; rfl
  · subst h4; rfl
  · subst h5; rfl
  · subst h6; rfl
  · subst h7; rfl
  · exact scan_control h8
  · simp [step, h1, h2, h8]

theorem scan_flatMap_escaped (b : Body) (read : List Token) (cs : List Char) :
    scan ⟨.text b, read⟩ (cs.flatMap escaped) = some ⟨.text (cs.foldl Body.push b), read⟩ := by
  induction cs generalizing b with
  | nil => rfl
  | cons c cs ih =>
    rw [List.flatMap_cons, scan_append, scan_escaped, Option.bind_some, ih, List.foldl_cons]

end Scanner

theorem Body.foldl_push (cs ds : List Char) :
    cs.foldl push ⟨ds, none, false⟩ = ⟨cs.reverse ++ ds, none, false⟩ := by
  induction cs generalizing ds with
  | nil => rfl
  | cons c cs ih =>
    rw [List.foldl_cons, List.reverse_cons, List.append_assoc]
    exact ih (c :: ds)

theorem Body.text_foldl_push (s : String) : (s.toList.foldl push empty).text = some s := by
  rw [empty, foldl_push, text]
  simp

namespace Scanner

variable {s : Scanner} {read : List Token}

theorem scan_quoted (read : List Token) (s : String) :
    scan ⟨.between, read⟩ (quoted s) = some ⟨.between, .text (some s) :: read⟩ := by
  have start : step ⟨.between, read⟩ '"' = some ⟨.text .empty, read⟩ := rfl
  have stop (b : Body) : step ⟨.text b, read⟩ '"' = some ⟨.between, .text b.text :: read⟩ := rfl
  rw [quoted, List.cons_append, scan_cons, start, Option.bind_some, scan_append, scan_flatMap_escaped,
    Option.bind_some, scan_cons, stop, Body.text_foldl_push, Option.bind_some, scan_nil]

/-- A word has been read up to its last letter. -/
theorem ready_word {letters : List Char} {t : Tree} (h : word? letters.reverse = some t) :
    Ready ⟨.word letters, read⟩ (.atom t :: read) where
  close := by simp [close, h]
  step c hc := by rcases hc with rfl | rfl | rfl <;> simp [step, close, h]

/-- A numeral has been read up to its last character. -/
theorem ready_numeral {cs : List Char} {n : Numeral} (h : Numeral.ofChars? cs.reverse = some n) :
    Ready ⟨.numeral cs, read⟩ (.atom (.number n) :: read) where
  close := by simp [close, h]
  step c hc := by rcases hc with rfl | rfl | rfl <;> simp [step, close, h, isNumeralChar]

theorem scan_numeralChars {cs : List Char} (h : ∀ c ∈ cs, isNumeralChar c = true) (ds : List Char) :
    scan ⟨.numeral ds, read⟩ cs = some ⟨.numeral (cs.reverse ++ ds), read⟩ := by
  induction cs generalizing ds with
  | nil => rfl
  | cons c cs ih =>
    have hc : step ⟨.numeral ds, read⟩ c = some ⟨.numeral (c :: ds), read⟩ := by simp [step, h c (by simp)]
    rw [scan_cons, hc, Option.bind_some, ih fun d hd => h d (by simp [hd])]
    simp

theorem begin_numeral {c : Char} (h : c = '-' ∨ c.isDigit = true) :
    begin read c = some ⟨.numeral [c], read⟩ := by
  rcases h with rfl | h
  · rfl
  · have ne (d : Char) (hd : d.isDigit = false) : c ≠ d := by
      rintro rfl
      rw [h] at hd; cases hd
    simp [begin, h, ne ' ' rfl, ne '\t' rfl, ne '\n' rfl, ne '\r' rfl, ne '[' rfl, ne ']' rfl,
      ne '\x7b' rfl, ne '\x7d' rfl, ne ':' rfl, ne ',' rfl, ne '"' rfl]

theorem scan_numeral {n : Numeral} (h : n.Clean) :
    ∃ s, scan ⟨.between, read⟩ n.chars = some s ∧ s.Ready (.atom (.number n) :: read) := by
  obtain ⟨c, cs, hn, hc⟩ := h.start
  have hread := h.read
  have hchars := h.chars
  rw [hn] at hread hchars ⊢
  refine ⟨⟨.numeral (cs.reverse ++ [c]), read⟩, ?_, ready_numeral (by simpa using hread)⟩
  rw [scan_cons, show step ⟨.between, read⟩ c = begin read c from rfl, begin_numeral hc, Option.bind_some,
    scan_numeralChars fun d hd => hchars d (by simp [hd])]

/-! ### Trees -/

/-- The scanner comes from between two tokens through some characters, and has then read more tokens. -/
def Reads (cs : List Char) (tokens : List Token) : Prop :=
  ∀ read, ∃ s, scan ⟨.between, read⟩ cs = some s ∧ s.Ready (tokens.reverse ++ read)

theorem reads_nil : Reads [] [] := fun read => ⟨_, rfl, ready_between read⟩

theorem reads_quoted (s : String) : Reads (quoted s) [.text (some s)] := fun read =>
  ⟨_, scan_quoted read s, ready_between _⟩

/-- What is read is followed by a comma or a closing bracket or brace. -/
theorem Reads.snoc {cs : List Char} {tokens : List Token} (h : Reads cs tokens) {c : Char} {t : Token}
    (hc : c = ',' ∨ c = ']' ∨ c = '\x7d') (ht : ∀ read, begin read c = some ⟨.between, t :: read⟩)
    {ds : List Char} {more : List Token} (h' : Reads ds more) :
    Reads (cs ++ c :: ds) (tokens ++ t :: more) := by
  intro read
  obtain ⟨s, hs, ready⟩ := h read
  obtain ⟨s', hs', ready'⟩ := h' (t :: (tokens.reverse ++ read))
  refine ⟨s', ?_, by simpa using ready'⟩
  rw [scan_append, hs, Option.bind_some, scan_cons, ready.step c hc, ht, Option.bind_some, hs']

/-- What is read is preceded by a token of one character. -/
theorem Reads.cons {cs : List Char} {tokens : List Token} (h : Reads cs tokens) {c : Char} {t : Token}
    (ht : ∀ read, begin read c = some ⟨.between, t :: read⟩) : Reads (c :: cs) (t :: tokens) := by
  intro read
  obtain ⟨s, hs, ready⟩ := h (t :: read)
  refine ⟨s, ?_, by simpa using ready⟩
  rw [scan_cons, show step ⟨.between, read⟩ c = begin read c from rfl, ht, Option.bind_some, hs]

/-- A name and a colon before what is read. -/
theorem Reads.named {cs : List Char} {tokens : List Token} (h : Reads cs tokens) (k : String) :
    Reads (quoted k ++ ':' :: cs) (.text (some k) :: .colon :: tokens) := by
  intro read
  have colon : Reads (':' :: cs) (.colon :: tokens) := h.cons fun _ => rfl
  obtain ⟨s, hs, ready⟩ := colon (.text (some k) :: read)
  refine ⟨s, ?_, by simpa using ready⟩
  rw [scan_append, scan_quoted, Option.bind_some, hs]

theorem reads_itemChars {items : List Tree} (h : ∀ t ∈ items, Reads t.chars t.tokens) :
    Reads (itemChars items) (itemTokens items) := by
  induction items with
  | nil => exact reads_nil
  | cons t rest ih =>
    have first := h t (by simp)
    cases rest with
    | nil => exact first
    | cons u rest => exact first.snoc (.inl rfl) (fun _ => rfl) (ih fun t ht => h t (by simp [ht]))

theorem reads_fieldChars {pairs : List (Option String × Tree)} (keys : ∀ p ∈ pairs, ∃ k, p.1 = some k)
    (h : ∀ p ∈ pairs, Reads p.2.chars p.2.tokens) : Reads (fieldChars pairs) (fieldTokens pairs) := by
  induction pairs with
  | nil => exact reads_nil
  | cons p rest ih =>
    obtain ⟨k, t⟩ := p
    obtain ⟨k, rfl⟩ : ∃ s, k = some s := keys (k, t) (by simp)
    have first : Reads (quoted k ++ ':' :: t.chars) (.text (some k) :: .colon :: t.tokens) :=
      (h (some k, t) (by simp)).named k
    cases rest with
    | nil => exact first
    | cons q rest =>
      exact first.snoc (.inl rfl) (fun _ => rfl)
        (ih (fun p hp => keys p (by simp [hp])) fun p hp => h p (by simp [hp]))

/-- **The characters of a clean tree are read as its tokens.** -/
theorem reads_chars {t : Tree} (h : t.Clean) : Reads t.chars t.tokens := by
  induction h with
  | null => exact fun read => ⟨_, rfl, ready_word rfl⟩
  | bool b => cases b <;> exact fun read => ⟨_, rfl, ready_word rfl⟩
  | number h => exact fun read => scan_numeral h
  | str s => exact reads_quoted s
  | list h ih =>
    exact ((reads_itemChars ih).snoc (.inr (.inl rfl)) (fun _ => rfl) reads_nil).cons fun _ => rfl
  | fields keys h ih =>
    exact ((reads_fieldChars keys ih).snoc (.inr (.inr rfl)) (fun _ => rfl) reads_nil).cons fun _ => rfl

end Scanner

/-! ### Assembly -/

/-- The state of the assembly after some tokens. -/
def Assembly.feed (a : Assembly) (tokens : List Token) : Option Assembly :=
  tokens.foldlM step a

namespace Assembly

@[simp] theorem feed_nil {a : Assembly} : a.feed [] = some a := rfl

@[simp] theorem feed_cons {a : Assembly} {t : Token} {ts : List Token} :
    a.feed (t :: ts) = (a.step t).bind (feed · ts) := rfl

theorem feed_append {a : Assembly} {ts us : List Token} :
    a.feed (ts ++ us) = (a.feed ts).bind (feed · us) :=
  List.foldlM_append

/-- The tokens are put together to this tree, wherever a value may stand. -/
def Builds (tokens : List Token) (t : Tree) : Prop :=
  ∀ within, feed (.value within) tokens = some (settle t within)

/-- No value begins with a closing bracket. -/
theorem Builds.feed_itemOrEnd {tokens : List Token} {t : Tree} (h : Builds tokens t)
    (within : List Frame) :
    feed (.itemOrEnd within) tokens = some (.afterItem within [t]) := by
  have value := h (.item [] :: within)
  cases tokens with
  | nil => cases value
  | cons first rest =>
    cases first with
    | bracketClose => cases value
    | _ => exact value

theorem feed_items {t : Tree} {rest : List Tree} (h : ∀ u ∈ rest, Builds u.tokens u) (within : List Frame)
    (done : List Tree) {a : Assembly} (first : a.feed t.tokens = some (.afterItem within (t :: done))) :
    a.feed (itemTokens (t :: rest)) = some (.afterItem within ((t :: rest).reverse ++ done)) := by
  induction rest generalizing t done a with
  | nil => exact first
  | cons u rest ih =>
    have next := ih (fun v hv => h v (by simp [hv])) (t :: done) (h u (by simp) (.item (t :: done) :: within))
    rw [itemTokens_cons_cons, feed_append, first, Option.bind_some, feed_cons]
    show feed (.value (.item (t :: done) :: within)) _ = _
    rw [next]
    simp

theorem builds_list {items : List Tree} (h : ∀ t ∈ items, Builds t.tokens t) :
    Builds (Tree.list items).tokens (.list items) := by
  intro within
  cases items with
  | nil => rfl
  | cons t rest =>
    have all := feed_items (fun u hu => h u (List.mem_cons_of_mem t hu)) within [] ((h t (by simp)).feed_itemOrEnd within)
    rw [Tree.tokens, List.cons_append, feed_cons]
    show feed (.itemOrEnd within) _ = _
    rw [feed_append, all, Option.bind_some]
    simp [step]

theorem feed_field {p : Option String × Tree} (h : Builds p.2.tokens p.2) (within : List Frame)
    (done : List (Option String × Tree)) :
    feed (.key within done) (.text p.1 :: .colon :: p.2.tokens) = some (.afterField within (p :: done)) :=
  h (.field done p.1 :: within)

theorem feed_fields {p : Option String × Tree} {rest : List (Option String × Tree)}
    (h : ∀ q ∈ p :: rest, Builds q.2.tokens q.2) (within : List Frame) (done : List (Option String × Tree)) :
    feed (.key within done) (fieldTokens (p :: rest)) =
      some (.afterField within ((p :: rest).reverse ++ done)) := by
  induction rest generalizing p done with
  | nil => exact feed_field (h p (by simp)) within done
  | cons q rest ih =>
    obtain ⟨k, t⟩ := p
    have first := feed_field (h (k, t) (by simp)) within done
    have next := ih (fun r hr => h r (List.mem_cons_of_mem _ hr)) ((k, t) :: done)
    rw [fieldTokens_cons_cons, feed_append, first, Option.bind_some, feed_cons]
    show feed (.key within ((k, t) :: done)) _ = _
    rw [next]
    simp

theorem builds_fields {pairs : List (Option String × Tree)} (h : ∀ p ∈ pairs, Builds p.2.tokens p.2) :
    Builds (Tree.fields pairs).tokens (.fields pairs) := by
  intro within
  cases pairs with
  | nil => rfl
  | cons p rest =>
    -- the first name may stand where the object could end, as elsewhere
    have start : feed (.keyOrEnd within) (fieldTokens (p :: rest)) =
        feed (.key within []) (fieldTokens (p :: rest)) := by
      cases rest <;> rfl
    rw [Tree.tokens, List.cons_append, feed_cons]
    show feed (.keyOrEnd within) _ = _
    rw [feed_append, start, feed_fields h, Option.bind_some]
    simp [step]

/-- **The tokens of a clean tree are put together to the tree.** -/
theorem builds_tokens {t : Tree} (h : t.Clean) : Builds t.tokens t := by
  induction h with
  | null | bool b | number h | str s => exact fun _ => rfl
  | list h ih => exact builds_list ih
  | fields keys h ih => exact builds_fields ih

end Assembly

/-! ### The round trip -/

theorem tokens?_chars {t : Tree} (h : t.Clean) : tokens? (t.chars.map some) = some t.tokens := by
  obtain ⟨s, hs, ready⟩ := Scanner.reads_chars h []
  have pieces : (t.chars.map some).foldlM Scanner.piece Scanner.start = some s := by
    rw [List.foldlM_map]
    exact hs
  unfold tokens?
  simp [pieces, ready.close]

/-- **A clean tree that is written reads back as itself.** -/
theorem Tree.parse?_render {t : Tree} (h : t.Clean) : parse? t.render = some t := by
  have built : t.tokens.foldlM Assembly.step (.value []) = some (.finished t) :=
    Assembly.builds_tokens h []
  unfold parse? ofPieces? render
  rw [String.toList_ofList]
  simp [tokens?_chars h, built]

end MockCloud.Json
