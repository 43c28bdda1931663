/-! # Cutting text at a character

Every format that the library reads is cut at single characters: `:` in resource names, `/` in address
blocks, `@` in mailboxes. Text is a list of characters; the functions on `String` are the same rules on
`String.toList`.

* `cutFirst` and `cutLast` cut once, at the first or the last accepted character, and drop it.
* `occurs` asks whether one text stands somewhere inside another. -/

namespace MockCloud.Text

/-- A text is not cut at a character that does not stand in it. -/
theorem forall_ne_of_not_mem {c : Char} {cs : List Char} (outside : c ∉ cs) : ∀ x ∈ cs, decide (x = c) = false :=
  fun _ hx => decide_eq_false fun e => outside (e ▸ hx)

/-- What stands before and after the first character that `p` accepts. -/
def cutFirst (p : Char → Bool) : List Char → Option (List Char × List Char)
  | [] => none
  | c :: cs => if p c then some ([], cs) else (cutFirst p cs).map fun (a, b) => (c :: a, b)

theorem cutFirst_append {p : Char → Bool} {a b : List Char} {c : Char} (ha : ∀ x ∈ a, p x = false)
    (hc : p c = true) : cutFirst p (a ++ c :: b) = some (a, b) := by
  induction a with
  | nil => simp [cutFirst, hc]
  | cons x a ih =>
    have hx := ha x (by simp)
    have := ih fun y hy => ha y (by simp [hy])
    simp [cutFirst, hx, this]

/-- A cut text is put together again from its parts, and `p` accepts nothing in front of the cut. -/
theorem eq_append_of_cutFirst {p : Char → Bool} {cs a b : List Char} (h : cutFirst p cs = some (a, b)) :
    ∃ c, p c = true ∧ cs = a ++ c :: b ∧ ∀ x ∈ a, p x = false := by
  induction cs generalizing a with
  | nil => cases h
  | cons c cs ih =>
    rw [cutFirst] at h
    split at h
    · next hc =>
      cases h
      exact ⟨c, hc, rfl, by simp⟩
    · next hc =>
      obtain ⟨⟨front, back⟩, h', e⟩ := Option.map_eq_some_iff.1 h
      cases e
      obtain ⟨d, hd, rfl, before⟩ := ih h'
      exact ⟨d, hd, rfl, List.forall_mem_cons.2 ⟨Bool.eq_false_iff.2 hc, before⟩⟩

theorem eq_false_of_cutFirst_eq_none {p : Char → Bool} {cs : List Char} (h : cutFirst p cs = none) :
    ∀ x ∈ cs, p x = false := by
  induction cs with
  | nil => simp
  | cons c cs ih =>
    rw [cutFirst] at h
    split at h
    · cases h
    · next hc => exact List.forall_mem_cons.2 ⟨Bool.eq_false_iff.2 hc, ih (Option.map_eq_none_iff.1 h)⟩

/-- One text has one part in front of the first character that `p` accepts. -/
theorem eq_of_append_cons {p : Char → Bool} {a a' b b' : List Char} {c c' : Char} (ha : ∀ x ∈ a, p x = false)
    (ha' : ∀ x ∈ a', p x = false) (hc : p c = true) (hc' : p c' = true) (same : a ++ c :: b = a' ++ c' :: b') :
    a = a' := by
  have cut := cutFirst_append (b := b) ha hc
  rw [same, cutFirst_append ha' hc'] at cut
  cases cut
  rfl

/-- What stands before and after the last character that `p` accepts. -/
def cutLast (p : Char → Bool) : List Char → Option (List Char × List Char)
  | [] => none
  | c :: cs =>
    match cutLast p cs with
    | some (a, b) => some (c :: a, b)
    | none => if p c then some ([], cs) else none

theorem cutLast_eq_none {p : Char → Bool} {b : List Char} (hb : ∀ x ∈ b, p x = false) :
    cutLast p b = none := by
  induction b with
  | nil => rfl
  | cons x b ih =>
    have hx := hb x (by simp)
    have := ih fun y hy => hb y (by simp [hy])
    simp [cutLast, hx, this]

theorem eq_false_of_cutLast_eq_none {p : Char → Bool} {cs : List Char} (h : cutLast p cs = none) :
    ∀ x ∈ cs, p x = false := by
  induction cs with
  | nil => simp
  | cons c cs ih =>
    rw [cutLast] at h
    split at h
    · cases h
    · next behind =>
      split at h
      · cases h
      · next hc => exact List.forall_mem_cons.2 ⟨Bool.eq_false_iff.2 hc, ih behind⟩

/-- A cut text is put together again from its parts, and `p` accepts nothing behind the cut. -/
theorem eq_append_of_cutLast {p : Char → Bool} {cs a b : List Char} (h : cutLast p cs = some (a, b)) :
    ∃ c, p c = true ∧ cs = a ++ c :: b ∧ ∀ x ∈ b, p x = false := by
  induction cs generalizing a with
  | nil => cases h
  | cons c cs ih =>
    rw [cutLast] at h
    split at h
    · next later =>
      cases h
      obtain ⟨d, hd, rfl, behind⟩ := ih later
      exact ⟨d, hd, rfl, behind⟩
    · next none =>
      split at h
      · next hc =>
        cases h
        exact ⟨c, hc, rfl, eq_false_of_cutLast_eq_none none⟩
      · cases h

theorem cutLast_append {p : Char → Bool} {a b : List Char} {c : Char} (hb : ∀ x ∈ b, p x = false)
    (hc : p c = true) : cutLast p (a ++ c :: b) = some (a, b) := by
  induction a with
  | nil => simp [cutLast, cutLast_eq_none hb, hc]
  | cons x a ih => simp [cutLast, ih]

/-- What `p` does not accept behind a text does not change where the text is cut. -/
theorem cutLast_append_of_forall {p : Char → Bool} {b : List Char} (hb : ∀ x ∈ b, p x = false) (a : List Char) :
    cutLast p (a ++ b) = (cutLast p a).map fun (front, back) => (front, back ++ b) := by
  induction a with
  | nil => simp [cutLast, cutLast_eq_none hb]
  | cons x a ih =>
    rw [List.cons_append, cutLast, ih, cutLast]
    cases cutLast p a with
    | none => by_cases hx : p x = true <;> simp [hx]
    | some parts => rfl

/-- Whether `needle` is a run of neighbouring characters of the text. -/
def occurs (needle : List Char) : List Char → Bool
  | [] => needle.isEmpty
  | c :: cs => needle.isPrefixOf (c :: cs) || occurs needle cs

theorem occurs_iff {needle text : List Char} : occurs needle text = true ↔ needle <:+: text := by
  induction text with
  | nil => simp [occurs]
  | cons c cs ih => rw [occurs, Bool.or_eq_true_iff, List.isPrefixOf_iff_prefix, ih, List.infix_cons_iff]

/-- What follows `start` when the text begins with it. -/
def after? (start text : List Char) : Option (List Char) :=
  if start.isPrefixOf text then some (text.drop start.length) else none

theorem after?_eq_some_iff {start text rest : List Char} :
    after? start text = some rest ↔ text = start ++ rest := by
  unfold after?
  constructor
  · intro h
    split at h
    · next begins =>
      obtain ⟨tail, rfl⟩ := List.isPrefixOf_iff_prefix.1 begins
      rw [List.drop_left] at h
      rw [Option.some.inj h]
    · cases h
  · rintro rfl
    rw [if_pos (List.isPrefixOf_iff_prefix.2 (List.prefix_append ..)), List.drop_left]

/-! ### The same on strings -/

/-- Whether the string begins with `start`. -/
def beginsWith (s start : String) : Bool :=
  start.toList.isPrefixOf s.toList

/-- Whether the string ends with `tail`. -/
def endsWith (s tail : String) : Bool :=
  tail.toList.isSuffixOf s.toList

theorem beginsWith_iff {s start : String} : beginsWith s start = true ↔ ∃ rest, s = start ++ rest := by
  rw [beginsWith, List.isPrefixOf_iff_prefix]
  constructor
  · rintro ⟨rest, whole⟩
    exact ⟨.ofList rest, String.toList_inj.1 (by simp [whole])⟩
  · rintro ⟨rest, rfl⟩
    exact ⟨rest.toList, String.toList_append.symm⟩

theorem endsWith_iff {s tail : String} : endsWith s tail = true ↔ ∃ front, s = front ++ tail := by
  rw [endsWith, List.isSuffixOf_iff_suffix]
  constructor
  · rintro ⟨front, whole⟩
    exact ⟨.ofList front, String.toList_inj.1 (by simp [whole])⟩
  · rintro ⟨front, rfl⟩
    exact ⟨front.toList, String.toList_append.symm⟩

/-- Whether `needle` occurs in the string. -/
def contains (s needle : String) : Bool :=
  occurs needle.toList s.toList

theorem contains_iff {s needle : String} :
    contains s needle = true ↔ ∃ front back, s = front ++ needle ++ back := by
  rw [contains, occurs_iff]
  constructor
  · rintro ⟨front, back, whole⟩
    exact ⟨.ofList front, .ofList back, String.toList_inj.1 (by simp [← whole])⟩
  · rintro ⟨front, back, rfl⟩
    exact ⟨front.toList, back.toList, by simp⟩

/-- The string with the letters `A` to `Z` in lower case. -/
def lower (s : String) : String :=
  String.ofList (s.toList.map Char.toLower)

/-- A character that is not its own lower case is a capital letter and becomes a small one. -/
theorem toLower_cases (c : Char) : c.toLower = c ∨ c.isUpper = true ∧ c.toLower.isLower = true := by
  unfold Char.toLower
  split
  · next capital =>
    have moved : (c.val + ('a'.val - 'A'.val)).toNat = c.val.toNat + 32 := by
      have le : c.val.toNat ≤ 90 := capital.2
      rw [UInt32.toNat_add, show ('a'.val - 'A'.val).toNat = 32 from rfl]
      exact Nat.mod_eq_of_lt (by omega)
    have low : 'a'.val.toNat ≤ (c.val + ('a'.val - 'A'.val)).toNat := moved ▸ Nat.add_le_add_right capital.1 32
    have high : (c.val + ('a'.val - 'A'.val)).toNat ≤ 'z'.val.toNat := moved ▸ Nat.add_le_add_right capital.2 32
    exact .inr ⟨decide_eq_true capital, Bool.and_eq_true_iff.2 ⟨decide_eq_true low, decide_eq_true high⟩⟩
  · exact .inl rfl

theorem isUpper_eq_false_of_isLower {c : Char} (small : c.isLower = true) : c.isUpper = false := by
  refine Bool.eq_false_iff.2 fun capital => ?_
  have low : 'a'.val.toNat ≤ c.val.toNat := of_decide_eq_true (Bool.and_eq_true_iff.1 small).1
  have high : c.val.toNat ≤ 'Z'.val.toNat := (of_decide_eq_true capital).2
  exact absurd (Nat.le_trans low high) (by decide)

theorem toLower_toLower (c : Char) : c.toLower.toLower = c.toLower := by
  rcases toLower_cases c with same | ⟨-, small⟩
  · rw [same, same]
  · rcases toLower_cases c.toLower with same | ⟨capital, -⟩
    · exact same
    · rw [isUpper_eq_false_of_isLower small] at capital
      cases capital

/-- A character that is no letter is the lower case of itself alone. -/
theorem toLower_eq_iff {c d : Char} (hd : d.isAlpha = false) : c.toLower = d ↔ c = d := by
  have hd := Bool.or_eq_false_iff.1 hd
  rcases toLower_cases c with same | ⟨capital, small⟩
  · rw [same]
  · exact iff_of_false (fun e => by simp [e, hd.2] at small) fun e => by simp [e, hd.1] at capital

theorem lower_lower (s : String) : lower (lower s) = lower s := by
  unfold lower
  rw [String.toList_ofList, List.map_map]
  exact congrArg String.ofList (List.map_congr_left fun c _ => toLower_toLower c)

theorem mem_lower_iff {s : String} {c : Char} (hc : c.isAlpha = false) :
    c ∈ (lower s).toList ↔ c ∈ s.toList := by
  simp [lower, toLower_eq_iff hc]

/-- A non-negative number in decimal digits. -/
def decimal (n : Nat) : String :=
  String.ofList (Nat.toDigits 10 n)

theorem head?_toDigits_ne {n : Nat} (h : 0 < n) : (Nat.toDigits 10 n).head? ≠ some '0' := by
  induction n using Nat.strongRecOn with
  | ind n ih =>
    rw [Nat.toDigits_eq_if (by omega)]
    split
    · simp only [List.head?_cons, ne_eq, Option.some.injEq, Nat.digitChar_eq_zero]
      omega
    · have := ih (n / 10) (by omega) (by omega)
      cases hd : Nat.toDigits 10 (n / 10) with
      | nil => exact absurd hd Nat.toDigits_ne_nil
      | cons d ds => rwa [hd] at this

/-- No number is written with a needless zero in front. -/
theorem toDigits_no_zero (n : Nat) :
    ¬((Nat.toDigits 10 n).head? = some '0' ∧ (Nat.toDigits 10 n).length ≠ 1) := by
  rintro ⟨head, more⟩
  rcases Nat.eq_zero_or_pos n with rfl | h
  · exact more rfl
  · exact head?_toDigits_ne h head

/-- A number is written in digits. -/
theorem isDigit_toDigits (n : Nat) : ∀ c ∈ Nat.toDigits 10 n, c.isDigit = true :=
  fun _ hc => Nat.isDigit_of_mem_toDigits (by omega) (by omega) hc

/-- A number in at least `width` digits, filled up with zeros. -/
def padded (width n : Nat) : String :=
  String.ofList (List.replicate (width - (Nat.toDigits 10 n).length) '0' ++ Nat.toDigits 10 n)

end MockCloud.Text
