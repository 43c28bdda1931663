import Mathlib
import MockCloud.Network.Cidr

/-! # The algebra of address blocks

The addresses of a block are those that share its leading bits. As numbers they are an interval that starts
at a multiple of its length, and the length is a power of two: so two blocks are either apart, or one lies
inside the other.

* `Cidr.mem_addresses_iff`: the addresses as an interval.
* `Cidr.contains_iff_subset`: the test for containment decides containment of the addresses.
* `Cidr.disjoint_iff`: blocks share an address only if one contains the other.
* `Cidr.parse?_render`: a block that is written reads back as itself. -/

namespace MockCloud.Network

/-! ### Masks -/

theorem testBit_mask {len : Nat} (h : len ≤ 32) (i : Nat) :
    (mask len).toNat.testBit i = decide (32 - len ≤ i ∧ i < 32) := by
  unfold mask
  split_ifs with h0
  · rw [decide_eq_false (by omega), UInt32.toNat_zero, Nat.zero_testBit]
  · have hk : (UInt32.ofNat (32 - len)).toNat % 32 = 32 - len := by
      rw [UInt32.toNat_ofNat']
      omega
    rw [UInt32.toNat_shiftLeft, hk, Nat.testBit_mod_two_pow, Nat.testBit_shiftLeft,
      show (0xFFFFFFFF : UInt32).toNat = 2 ^ 32 - 1 from rfl, Nat.testBit_two_pow_sub_one]
    by_cases hi : 32 - len ≤ i <;> by_cases hi' : i < 32 <;> simp [hi, hi']
    omega

theorem toNat_and_mask (a : UInt32) {len : Nat} (h : len ≤ 32) :
    (a &&& mask len).toNat = a.toNat / 2 ^ (32 - len) * 2 ^ (32 - len) := by
  apply Nat.eq_of_testBit_eq
  intro i
  have high : 32 ≤ i → a.toNat.testBit i = false := fun hi =>
    Nat.testBit_lt_two_pow (Nat.lt_of_lt_of_le a.toNat_lt (Nat.pow_le_pow_right (by omega) hi))
  rw [UInt32.toNat_and, Nat.testBit_and, testBit_mask h, Nat.testBit_mul_two_pow, Nat.testBit_div_two_pow]
  by_cases hi : 32 - len ≤ i
  · rw [Nat.sub_add_cancel hi]
    by_cases hi' : i < 32
    · simp [hi, hi']
    · simp [hi, hi', high (by omega)]
  · simp [hi]

/-- The shorter of two masks is left when both are applied. -/
theorem mask_and_mask {m n : Nat} (h : m ≤ n) (hn : n ≤ 32) : mask n &&& mask m = mask m := by
  apply UInt32.toNat.inj
  apply Nat.eq_of_testBit_eq
  intro i
  rw [UInt32.toNat_and, Nat.testBit_and, testBit_mask hn, testBit_mask (h.trans hn)]
  by_cases hi : 32 - m ≤ i
  · have : 32 - n ≤ i := by omega
    simp [hi, this]
  · simp [hi]

namespace Cidr

variable {c d : Cidr} {a : UInt32}

/-! ### Addresses -/

/-- The addresses of a block. -/
def addresses (c : Cidr) : Set UInt32 :=
  {a | a &&& mask c.len = c.network}

theorem mem_addresses : a ∈ c.addresses ↔ a &&& mask c.len = c.network :=
  Iff.rfl

theorem network_mem_addresses (c : Cidr) : c.network ∈ c.addresses :=
  c.aligned

theorem network_dvd (c : Cidr) : 2 ^ (32 - c.len) ∣ c.network.toNat := by
  have := congrArg UInt32.toNat c.aligned
  rw [toNat_and_mask _ c.len_le] at this
  exact ⟨_, this.symm.trans (Nat.mul_comm ..)⟩

/-- The last address of a block is an address: the block does not run over the highest one. -/
theorem network_add_le (c : Cidr) : c.network.toNat + 2 ^ (32 - c.len) ≤ 2 ^ 32 := by
  have lt : c.network.toNat < 2 ^ 32 := c.network.toNat_lt
  have dvd : 2 ^ (32 - c.len) ∣ 2 ^ 32 := Nat.pow_dvd_pow 2 (by omega)
  obtain ⟨q, hq⟩ := c.network_dvd
  obtain ⟨r, hr⟩ := dvd
  rw [hq, hr] at lt ⊢
  have : q < r := Nat.lt_of_mul_lt_mul_left lt
  calc 2 ^ (32 - c.len) * q + 2 ^ (32 - c.len) = 2 ^ (32 - c.len) * (q + 1) := by rw [Nat.mul_succ]
    _ ≤ 2 ^ (32 - c.len) * r := Nat.mul_le_mul_left _ this

/-- **The addresses of a block are an interval.** -/
theorem mem_addresses_iff : a ∈ c.addresses ↔
    c.network.toNat ≤ a.toNat ∧ a.toNat < c.network.toNat + 2 ^ (32 - c.len) := by
  have pos : 0 < 2 ^ (32 - c.len) := Nat.two_pow_pos _
  obtain ⟨q, hq⟩ := c.network_dvd
  rw [mem_addresses, ← UInt32.toNat_inj, toNat_and_mask _ c.len_le, hq, Nat.mul_comm _ q,
    Nat.mul_left_inj (by omega), Nat.div_eq_iff pos]
  omega

/-- A block inside a longer one: what the containment test says. -/
theorem contains_iff : c.contains d = true ↔ c.len ≤ d.len ∧ d.network &&& mask c.len = c.network := by
  simp [contains]

/-- The bits that a longer block fixes decide those that a shorter one fixes. -/
theorem and_mask_of_mem (h : c.len ≤ d.len) (ha : a ∈ d.addresses) :
    a &&& mask c.len = d.network &&& mask c.len := by
  rw [← mem_addresses.1 ha, UInt32.and_assoc, mask_and_mask h d.len_le]

theorem exists_mem_addresses (c : Cidr) {i : Nat} (h : i < 2 ^ (32 - c.len)) :
    ∃ a ∈ c.addresses, a.toNat = c.network.toNat + i := by
  have le := c.network_add_le
  have ha : (UInt32.ofNat (c.network.toNat + i)).toNat = c.network.toNat + i :=
    UInt32.toNat_ofNat_of_lt' (by show _ < 2 ^ 32; omega)
  exact ⟨_, mem_addresses_iff.2 (by omega), ha⟩

/-- A block inside another is no longer, as its first and its last address are in the other. -/
theorem len_le_of_subset (h : d.addresses ⊆ c.addresses) : c.len ≤ d.len := by
  have pos : 0 < 2 ^ (32 - d.len) := Nat.two_pow_pos _
  have first := mem_addresses_iff.1 (h d.network_mem_addresses)
  obtain ⟨a, ha, hlast⟩ := d.exists_mem_addresses (Nat.sub_one_lt_of_lt pos)
  have last := mem_addresses_iff.1 (h ha)
  have le : 2 ^ (32 - d.len) ≤ 2 ^ (32 - c.len) := by omega
  have := (Nat.pow_le_pow_iff_right (by omega : 1 < 2)).1 le
  have := c.len_le
  omega

/-- **The containment test is exact.** -/
theorem contains_iff_subset : c.contains d = true ↔ d.addresses ⊆ c.addresses := by
  rw [contains_iff]
  constructor
  · rintro ⟨hl, hn⟩ a ha
    rw [mem_addresses, and_mask_of_mem hl ha, hn]
  · intro h
    exact ⟨len_le_of_subset h, mem_addresses.1 (h d.network_mem_addresses)⟩

/-- A block that shares an address with a shorter or equal prefix lies inside it. -/
theorem contains_of_shared (hl : c.len ≤ d.len) (hc : a ∈ c.addresses) (hd : a ∈ d.addresses) :
    c.contains d = true := by
  rw [contains_iff, ← and_mask_of_mem hl hd]
  exact ⟨hl, mem_addresses.1 hc⟩

/-- **Blocks are laminar**: two of them have no address in common unless one contains the other. -/
theorem disjoint_iff :
    Disjoint c.addresses d.addresses ↔ c.contains d = false ∧ d.contains c = false := by
  constructor
  · intro h
    refine ⟨Bool.eq_false_iff.2 fun hc => ?_, Bool.eq_false_iff.2 fun hc => ?_⟩
    · exact Set.disjoint_left.1 h (contains_iff_subset.1 hc d.network_mem_addresses) d.network_mem_addresses
    · exact Set.disjoint_left.1 h c.network_mem_addresses (contains_iff_subset.1 hc c.network_mem_addresses)
  · rintro ⟨hc, hd⟩
    refine Set.disjoint_left.2 fun a ha hb => ?_
    rcases Nat.le_total c.len d.len with hl | hl
    · rw [contains_of_shared hl ha hb] at hc; cases hc
    · rw [contains_of_shared hl hb ha] at hd; cases hd

end Cidr

/-! ### Written blocks -/

/-- A number up to 255 reads back as a part of an address. -/
theorem octet?_toDigits {n : Nat} (h : n < 256) : octet? (Nat.toDigits 10 n) = some n := by
  have length : (Nat.toDigits 10 n).length ≤ 3 :=
    (Nat.length_toDigits_le_iff (by omega) (by omega)).2 (by omega)
  have digits : (Nat.toDigits 10 n).all Char.isDigit = true :=
    List.all_eq_true.2 (Text.isDigit_toDigits n)
  have zero := Text.toDigits_no_zero n
  have refused : ¬((Nat.toDigits 10 n).isEmpty || 3 < (Nat.toDigits 10 n).length ||
      !(Nat.toDigits 10 n).all Char.isDigit ||
      ((Nat.toDigits 10 n).head? = some '0' && (Nat.toDigits 10 n).length ≠ 1)) = true := by
    rw [digits]
    simp only [Bool.or_eq_true, List.isEmpty_iff, Nat.toDigits_ne_nil, decide_eq_true_eq, Bool.and_eq_true,
      zero, Bool.not_true, Bool.false_eq_true, false_or, or_false]
    omega
  unfold octet?
  rw [if_neg refused, Nat.ofDigitChars_ten_toDigits, if_pos (by omega)]

theorem dot_not_mem_toDigits {n : Nat} : '.' ∉ Nat.toDigits 10 n := fun h =>
  absurd (Text.isDigit_toDigits n _ h) (by decide)

/-- The four parts of an address, put together. -/
theorem parts_toNat (a : UInt32) : ((a.toNat / 16777216 * 256 + a.toNat / 65536 % 256) * 256 +
    a.toNat / 256 % 256) * 256 + a.toNat % 256 = a.toNat := by
  omega

/-- An address that is written reads back as itself. -/
theorem address?_addressText (a : UInt32) : address? (addressText a).toList = some a := by
  have lt : a.toNat < 4294967296 := a.toNat_lt
  have split : (addressText a).toList.splitOn '.' =
      [Nat.toDigits 10 (a.toNat / 16777216), Nat.toDigits 10 (a.toNat / 65536 % 256),
        Nat.toDigits 10 (a.toNat / 256 % 256), Nat.toDigits 10 (a.toNat % 256)] := by
    simp only [addressText, Text.decimal, String.toList_append, String.toList_ofList, List.append_assoc,
      String.reduceToList, List.cons_append, List.nil_append]
    rw [List.splitOn_append_cons_self_of_not_mem dot_not_mem_toDigits,
      List.splitOn_append_cons_self_of_not_mem dot_not_mem_toDigits,
      List.splitOn_append_cons_self_of_not_mem dot_not_mem_toDigits,
      List.splitOn_eq_singleton dot_not_mem_toDigits]
  unfold address?
  rw [split]
  simp only [octet?_toDigits (show a.toNat / 16777216 < 256 by omega),
    octet?_toDigits (show a.toNat / 65536 % 256 < 256 by omega),
    octet?_toDigits (show a.toNat / 256 % 256 < 256 by omega),
    octet?_toDigits (show a.toNat % 256 < 256 by omega), Option.bind_eq_bind, Option.bind_some]
  rw [parts_toNat, UInt32.ofNat_toNat]
  rfl

/-- No character of a written address ends it. -/
theorem slash_not_mem_addressText (a : UInt32) : ∀ c ∈ (addressText a).toList, decide (c = '/') = false := by
  have digits {n : Nat} {c : Char} (h : c ∈ Nat.toDigits 10 n) : c ≠ '/' := by
    rintro rfl
    exact absurd (Text.isDigit_toDigits n _ h) (by decide)
  intro c hc
  simp only [addressText, Text.decimal, String.toList_append, String.toList_ofList, List.mem_append,
    String.reduceToList, List.mem_singleton] at hc
  rw [decide_eq_false_iff_not]
  rcases hc with (((((h | rfl) | h) | rfl) | h) | rfl) | h
  · exact digits h
  · decide
  · exact digits h
  · decide
  · exact digits h
  · decide
  · exact digits h

namespace Cidr

theorem len?_of_unsigned {cs : List Char} (h : ∀ ds, cs ≠ '+' :: ds) :
    len? cs = if cs.isEmpty || !cs.all Char.isDigit then none else some (Nat.ofDigitChars 10 cs 0) := by
  unfold len?
  dsimp only
  split
  · next ds => exact absurd rfl (h ds)
  · rfl

theorem len?_toDigits (n : Nat) : len? (Nat.toDigits 10 n) = some n := by
  have digits := Text.isDigit_toDigits n
  have unsigned : ∀ ds, Nat.toDigits 10 n ≠ '+' :: ds := fun ds h =>
    absurd (digits '+' (by simp [h])) (by decide)
  rw [len?_of_unsigned unsigned, Nat.ofDigitChars_ten_toDigits, List.all_eq_true.2 digits]
  simp [Nat.toDigits_ne_nil]

/-- **A block that is written reads back as itself.** -/
theorem parse?_render (c : Cidr) : parse? c.render = some c := by
  have cut : Text.cutFirst (· = '/') c.render.toList =
      some ((addressText c.network).toList, Nat.toDigits 10 c.len) := by
    simp only [render, Text.decimal, String.toList_append, String.toList_ofList, List.append_assoc,
      String.reduceToList, List.cons_append, List.nil_append]
    exact Text.cutFirst_append (slash_not_mem_addressText c.network) (by decide)
  unfold parse?
  rw [cut]
  simp only [Option.bind_eq_bind, Option.bind_some, address?_addressText, len?_toDigits, dif_pos c.len_le]
  simp [of, c.aligned]

end Cidr

end MockCloud.Network
