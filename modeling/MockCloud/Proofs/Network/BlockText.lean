import MockCloud.Proofs.Network.Block
import MockCloud.Proofs.Text.Decimal

/-! # Blocks as they are written

A block is written as an address, a slash and the number of leading bits. The address is four numbers, each in its own
digits; the number of bits may have a plus sign and zeros in front of it. The address may lie anywhere in the block.

* `octet?_eq_some_iff`, `address?_eq_some_iff`, `Cidr.len?_eq_some_iff`: how the parts are written.
* `Cidr.parse?_eq_some_iff`: a text is read as the block of the given length in which the written address lies.
* `SameLead`: two addresses with the same leading bits. `Cidr.mem_addresses_iff_sameLead`: the addresses of a block.
* `Cidr.parsed_blocks`: what containment says about two written blocks, when they share addresses, and that a block is
  written in a way that is read as the same block. -/

namespace MockCloud.Network

/-! ### The parts -/

theorem octet?_eq_some_iff {cs : List Char} {n : Nat} : octet? cs = some n ↔ n < 256 ∧ cs = Nat.toDigits 10 n := by
  constructor
  · intro read
    unfold octet? at read
    split at read
    · cases read
    · next accepted =>
      simp only [Bool.or_eq_true, List.isEmpty_iff, decide_eq_true_eq, Bool.not_eq_true', Bool.and_eq_true, not_or,
        Bool.not_eq_false, List.all_eq_true, not_and, not_not] at accepted
      obtain ⟨⟨⟨ne, -⟩, digits⟩, zero⟩ := accepted
      dsimp only at read
      split at read
      · next small =>
        have value := Option.some.inj read
        obtain ⟨zeros, hzeros⟩ := Text.ofDigitChars_eq_iff.1 ⟨ne, digits, value⟩
        refine ⟨by omega, ?_⟩
        -- a zero in front would not stand alone
        cases zeros with
        | zero => exact hzeros
        | succ zeros =>
          have alone := zero (by rw [hzeros]; rfl)
          have := Nat.length_toDigits_pos (b := 10) (n := n)
          rw [hzeros, List.length_append, List.length_replicate] at alone
          omega
      · cases read
  · rintro ⟨small, rfl⟩
    exact octet?_toDigits small

/-- An address put together from four numbers is written as these, with dots between them. -/
theorem toList_addressText_ofNat {w x y z : Nat} (hw : w < 256) (hx : x < 256) (hy : y < 256) (hz : z < 256) :
    (addressText (UInt32.ofNat (((w * 256 + x) * 256 + y) * 256 + z))).toList =
      ['.'].intercalate [Nat.toDigits 10 w, Nat.toDigits 10 x, Nat.toDigits 10 y, Nat.toDigits 10 z] := by
  have value : (UInt32.ofNat (((w * 256 + x) * 256 + y) * 256 + z)).toNat = ((w * 256 + x) * 256 + y) * 256 + z :=
    UInt32.toNat_ofNat_of_lt' (by show _ < 2 ^ 32; omega)
  have first : (((w * 256 + x) * 256 + y) * 256 + z) / 16777216 = w := by omega
  have second : (((w * 256 + x) * 256 + y) * 256 + z) / 65536 % 256 = x := by omega
  have third : (((w * 256 + x) * 256 + y) * 256 + z) / 256 % 256 = y := by omega
  have fourth : (((w * 256 + x) * 256 + y) * 256 + z) % 256 = z := by omega
  unfold addressText
  dsimp only
  rw [value, first, second, third, fourth]
  simp [Text.decimal, List.intercalate]

/-- **An address is written in one way.** -/
theorem address?_eq_some_iff {cs : List Char} {a : UInt32} : address? cs = some a ↔ cs = (addressText a).toList := by
  constructor
  · intro read
    unfold address? at read
    split at read
    · next p q r s parts =>
      simp only [Option.bind_eq_bind, Option.bind_eq_some_iff, octet?_eq_some_iff, Option.pure_def,
        Option.some.injEq] at read
      obtain ⟨w, ⟨hw, rfl⟩, x, ⟨hx, rfl⟩, y, ⟨hy, rfl⟩, z, ⟨hz, rfl⟩, rfl⟩ := read
      have whole : ['.'].intercalate (cs.splitOn '.') = cs := List.intercalate_splitOn '.'
      rw [← whole, parts, toList_addressText_ofNat hw hx hy hz]
    · cases read
  · rintro rfl
    exact address?_addressText a

/-! ### Leading bits -/

/-- The two addresses have the same `len` leading bits. -/
def SameLead (len : Nat) (x y : UInt32) : Prop :=
  ∀ i, 32 - len ≤ i → i < 32 → x.toNat.testBit i = y.toNat.testBit i

theorem sameLead_iff {len : Nat} (h : len ≤ 32) {x y : UInt32} :
    SameLead len x y ↔ x &&& mask len = y &&& mask len := by
  rw [← UInt32.toNat_inj, UInt32.toNat_and, UInt32.toNat_and]
  constructor
  · intro same
    apply Nat.eq_of_testBit_eq
    intro i
    rw [Nat.testBit_and, Nat.testBit_and, testBit_mask h]
    by_cases lead : 32 - len ≤ i ∧ i < 32
    · rw [same i lead.1 lead.2]
    · rw [decide_eq_false lead, Bool.and_false, Bool.and_false]
  · intro same i from_i below
    have bit := congrArg (Nat.testBit · i) same
    simpa [Nat.testBit_and, testBit_mask h, from_i, below] using bit

namespace Cidr

variable {a b c : Cidr} {block : String} {x : UInt32}

/-- **The addresses of a block** share its leading bits with any one of them. -/
theorem mem_addresses_iff_sameLead (inside : x ∈ c.addresses) {y : UInt32} :
    y ∈ c.addresses ↔ SameLead c.len y x := by
  rw [sameLead_iff c.len_le, mem_addresses.1 inside, mem_addresses]

/-! ### The whole block -/

/-- The block of an address, when the address is known to lie in it. -/
theorem of_eq_self (inside : x ∈ c.addresses) : of x c.len c.len_le = c := by
  obtain ⟨network, len, len_le, aligned⟩ := c
  have same : x &&& mask len = network := inside
  unfold of
  congr

theorem digits_eq_some_iff {cs : List Char} {n : Nat} :
    (if cs.isEmpty || !cs.all Char.isDigit then none else some (Nat.ofDigitChars 10 cs 0)) = some n ↔
      ∃ zeros, cs = List.replicate zeros '0' ++ Nat.toDigits 10 n := by
  rw [← Text.ofDigitChars_eq_iff]
  split
  · next refused =>
    refine iff_of_false nofun ?_
    rintro ⟨ne, digits, -⟩
    rw [List.all_eq_true.2 digits] at refused
    simp [ne] at refused
  · next accepted =>
    simp only [Bool.or_eq_true, List.isEmpty_iff, Bool.not_eq_true', not_or, Bool.not_eq_false, List.all_eq_true]
      at accepted
    rw [Option.some.injEq]
    exact ⟨fun value => ⟨accepted.1, accepted.2, value⟩, fun h => h.2.2⟩

/-- A number in digits, with a plus sign and zeros in front of it if the writer likes. -/
def WritesLen (cs : List Char) (n : Nat) : Prop :=
  ∃ sign zeros, (sign = [] ∨ sign = ['+']) ∧ cs = sign ++ (List.replicate zeros '0' ++ Nat.toDigits 10 n)

theorem len?_eq_some_iff {cs : List Char} {n : Nat} : len? cs = some n ↔ WritesLen cs n := by
  unfold WritesLen
  by_cases signed : ∃ ds, cs = '+' :: ds
  · obtain ⟨ds, rfl⟩ := signed
    have without : len? ('+' :: ds) =
        if ds.isEmpty || !ds.all Char.isDigit then none else some (Nat.ofDigitChars 10 ds 0) := rfl
    rw [without, digits_eq_some_iff]
    constructor
    · rintro ⟨zeros, rfl⟩
      exact ⟨['+'], zeros, .inr rfl, rfl⟩
    · rintro ⟨sign, zeros, rfl | rfl, spelt⟩
      · -- a plus sign is no digit
        obtain ⟨-, digits, -⟩ := Text.ofDigitChars_eq_iff.2 ⟨zeros, spelt⟩
        exact absurd (digits '+' List.mem_cons_self) (by decide)
      · exact ⟨zeros, (List.cons.inj spelt).2⟩
  · rw [len?_of_unsigned fun ds same => signed ⟨ds, same⟩, digits_eq_some_iff]
    constructor
    · rintro ⟨zeros, spelt⟩
      exact ⟨[], zeros, .inl rfl, spelt⟩
    · rintro ⟨sign, zeros, rfl | rfl, spelt⟩
      · exact ⟨zeros, spelt⟩
      · exact absurd ⟨_, spelt⟩ signed

/-- The text writes a block by one of its addresses and the number of leading bits. -/
def WrittenBy (block : String) (address : UInt32) (len : Nat) : Prop :=
  ∃ cs, WritesLen cs len ∧ block.toList = (addressText address).toList ++ '/' :: cs

/-- **Which texts are blocks**: a text is read as the block of the written length in which the written address lies. -/
theorem parse?_eq_some_iff : parse? block = some c ↔ ∃ x ∈ c.addresses, WrittenBy block x c.len := by
  unfold parse?
  simp only [Option.bind_eq_bind, Option.bind_eq_some_iff, Prod.exists]
  constructor
  · rintro ⟨front, behind, cut, x, hx, len, hlen, read⟩
    split at read
    · next le =>
      cases read
      obtain ⟨slash, is_slash, spelt, -⟩ := Text.eq_append_of_cutFirst cut
      rw [address?_eq_some_iff.1 hx, of_decide_eq_true is_slash] at spelt
      exact ⟨x, rfl, behind, len?_eq_some_iff.1 hlen, spelt⟩
    · cases read
  · rintro ⟨x, inside, cs, hcs, spelt⟩
    have cut : Text.cutFirst (· = '/') block.toList = some ((addressText x).toList, cs) := by
      rw [spelt]
      exact Text.cutFirst_append (slash_not_mem_addressText x) (decide_eq_true rfl)
    refine ⟨_, _, cut, x, address?_addressText x, c.len, len?_eq_some_iff.2 hcs, ?_⟩
    rw [dif_pos c.len_le, of_eq_self inside]

/-- **Written blocks.** A block is read from one of its addresses and the number of leading bits that all of them share.
One block contains another just if all addresses of the other are addresses of this one; two blocks have an address in
common just if one of them contains the other; and each is written in a way that is read as the same block. -/
theorem parsed_blocks {s t : String} (ha : parse? s = some a) (hb : parse? t = some b) :
    ∃ x y, WrittenBy s x a.len ∧ WrittenBy t y b.len ∧
      (a.contains b = true ↔ ∀ z, SameLead b.len z y → SameLead a.len z x) ∧
      ((∃ z, SameLead a.len z x ∧ SameLead b.len z y) ↔ a.contains b = true ∨ b.contains a = true) ∧
      parse? a.render = some a := by
  obtain ⟨x, hx, written⟩ := parse?_eq_some_iff.1 ha
  obtain ⟨y, hy, written'⟩ := parse?_eq_some_iff.1 hb
  have shared : (∃ z, z ∈ a.addresses ∧ z ∈ b.addresses) ↔ a.contains b = true ∨ b.contains a = true := by
    have apart := (@disjoint_iff a b).not
    rw [Set.not_disjoint_iff] at apart
    rw [apart]
    cases a.contains b <;> cases b.contains a <;> simp
  simp only [mem_addresses_iff_sameLead hx, mem_addresses_iff_sameLead hy] at shared
  refine ⟨x, y, written, written', ?_, shared, parse?_render a⟩
  rw [contains_iff_subset]
  simp only [Set.subset_def, mem_addresses_iff_sameLead hx, mem_addresses_iff_sameLead hy]

/-- Two blocks, each written by an address in its middle. -/
theorem parsed_blocks_nested :
    parse? "10.20.30.40/+014" = some (of 0x0A140000 14 (by decide)) ∧
      parse? "10.21.99.1/16" = some (of 0x0A150000 16 (by decide)) ∧
      (of 0x0A140000 14 (by decide)).contains (of 0x0A150000 16 (by decide)) = true ∧
      ∃ x y, WrittenBy "10.20.30.40/+014" x 14 ∧ WrittenBy "10.21.99.1/16" y 16 ∧
        ∀ z, SameLead 16 z y → SameLead 14 z x := by
  have wide : parse? "10.20.30.40/+014" = some (of 0x0A140000 14 (by decide)) := by decide +kernel
  have narrow : parse? "10.21.99.1/16" = some (of 0x0A150000 16 (by decide)) := by decide +kernel
  have inside : (of 0x0A140000 14 (by decide)).contains (of 0x0A150000 16 (by decide)) = true := by decide
  obtain ⟨x, y, hx, hy, contains, -, -⟩ := parsed_blocks wide narrow
  exact ⟨wide, narrow, inside, x, y, hx, hy, contains.1 inside⟩

end Cidr

end MockCloud.Network
