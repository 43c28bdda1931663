import MockCloud.Text.Cut

/-! # Rows of digits

A row of decimal digits is some zeros and the number that it stands for, written without a needless zero in front.

* `toDigits_append`: a number with more digits behind it.
* `ofDigitChars_eq_iff`: all rows of digits that stand for a number. -/

namespace MockCloud.Text

theorem toNat_sub_lt {c : Char} (digit : c.isDigit = true) : c.toNat - '0'.toNat < 10 := by
  have range := Char.isDigit_iff_toNat.1 digit
  have zero : '0'.toNat = 48 := rfl
  have nine : '9'.toNat = 57 := rfl
  omega

theorem toDigits_toNat {c : Char} (digit : c.isDigit = true) : Nat.toDigits 10 (c.toNat - '0'.toNat) = [c] := by
  have range := Char.isDigit_iff_toNat.1 digit
  have zero : '0'.toNat = 48 := rfl
  rw [Nat.toDigits_of_lt_base (toNat_sub_lt digit), List.singleton_inj]
  apply Char.toNat_inj.1
  rw [Nat.toNat_digitChar_of_lt_ten (toNat_sub_lt digit)]
  omega

/-- The digits of a number and more digits behind them are the digits of the number that is read. -/
theorem toDigits_append {n : Nat} {cs : List Char} (pos : 0 < n) (digits : ∀ c ∈ cs, c.isDigit = true) :
    Nat.toDigits 10 n ++ cs = Nat.toDigits 10 (Nat.ofDigitChars 10 cs n) := by
  induction cs generalizing n with
  | nil => rw [List.append_nil, Nat.ofDigitChars_nil]
  | cons c cs ih =>
    obtain ⟨digit, others⟩ := List.forall_mem_cons.1 digits
    have longer := Nat.toDigits_append_toDigits (by omega : 1 < 10) pos (toNat_sub_lt digit)
    rw [toDigits_toNat digit] at longer
    rw [Nat.ofDigitChars_cons, ← ih (by omega) others, ← longer, List.append_assoc, List.singleton_append]

/-- **Every row of digits** is some zeros and the digits of its number. -/
theorem exists_zeros {cs : List Char} (ne : cs ≠ []) (digits : ∀ c ∈ cs, c.isDigit = true) :
    ∃ zeros, cs = List.replicate zeros '0' ++ Nat.toDigits 10 (Nat.ofDigitChars 10 cs 0) := by
  induction cs with
  | nil => exact absurd rfl ne
  | cons c cs ih =>
    obtain ⟨digit, others⟩ := List.forall_mem_cons.1 digits
    by_cases zero : c = '0'
    · subst zero
      have same : Nat.ofDigitChars 10 ('0' :: cs) 0 = Nat.ofDigitChars 10 cs 0 := Nat.ofDigitChars_cons
      by_cases last : cs = []
      · subst last
        exact ⟨0, rfl⟩
      · obtain ⟨zeros, hzeros⟩ := ih last others
        refine ⟨zeros + 1, ?_⟩
        rw [same, List.replicate_succ, List.cons_append, ← hzeros]
    · have pos : 0 < c.toNat - '0'.toNat := by
        have range := Char.isDigit_iff_toNat.1 digit
        have ne : c.toNat ≠ '0'.toNat := fun same => zero (Char.toNat_inj.1 same)
        omega
      have first := toDigits_append pos others
      rw [toDigits_toNat digit, List.singleton_append] at first
      refine ⟨0, ?_⟩
      rw [Nat.ofDigitChars_cons, Nat.mul_zero, Nat.zero_add, ← first]
      rfl

/-- **All rows of digits that stand for a number**: its digits with zeros in front. -/
theorem ofDigitChars_eq_iff {cs : List Char} {n : Nat} :
    cs ≠ [] ∧ (∀ c ∈ cs, c.isDigit = true) ∧ Nat.ofDigitChars 10 cs 0 = n ↔
      ∃ zeros, cs = List.replicate zeros '0' ++ Nat.toDigits 10 n := by
  constructor
  · rintro ⟨ne, digits, rfl⟩
    exact exists_zeros ne digits
  · rintro ⟨zeros, rfl⟩
    refine ⟨by simp, fun c hc => ?_, ?_⟩
    · rcases List.mem_append.1 hc with zero | digit
      · rw [List.eq_of_mem_replicate zero]
        rfl
      · exact isDigit_toDigits n c digit
    · rw [Nat.ofDigitChars_append, Nat.ofDigitChars_replicate_zero, Nat.mul_zero, Nat.ofDigitChars_ten_toDigits]

end MockCloud.Text
