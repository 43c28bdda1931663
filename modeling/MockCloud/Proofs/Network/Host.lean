import MockCloud.Proofs.Network.Block

/-! # Hosts drawn from a block

A host is drawn by its offset from the network. Offsets are 64-bit numbers, as a block of all addresses has `2 ^ 32` of
them; the sum is cut to 32 bits. A block of eight addresses or more gives neither one of its first four nor its last; a
smaller one gives the network itself.

* `Cidr.toNat_size`: the size is exact.
* `Cidr.toNat_host`: neither the sum nor the cut loses a bit, for any offset within the block.
* `Cidr.Offered`: the offsets that may be drawn, `Cidr.exists_drawHost_iff`: that each of them can be, and no other.
* `Cidr.drawHost_usable`: where the drawn hosts lie. -/

namespace MockCloud.Network

/-- The remainders of all words reach each word of a range and no other. -/
theorem exists_draw_iff {first last x : UInt64} (lt : first < last) :
    (∃ draw, first + draw % (last - first) = x) ↔ first ≤ x ∧ x < last := by
  rw [UInt64.lt_iff_toNat_lt] at lt
  have high := last.toNat_lt
  have span : (last - first).toNat = last.toNat - first.toNat :=
    UInt64.toNat_sub_of_le _ _ (UInt64.le_iff_toNat_le.2 (by omega))
  rw [UInt64.le_iff_toNat_le, UInt64.lt_iff_toNat_lt]
  constructor
  · rintro ⟨draw, rfl⟩
    have rest : draw.toNat % (last.toNat - first.toNat) < last.toNat - first.toNat := Nat.mod_lt _ (by omega)
    have sum : (first + draw % (last - first)).toNat = first.toNat + draw.toNat % (last.toNat - first.toNat) := by
      rw [UInt64.toNat_add, UInt64.toNat_mod, span]
      exact Nat.mod_eq_of_lt (by omega)
    omega
  · rintro ⟨le, below⟩
    have behind : (x - first).toNat = x.toNat - first.toNat :=
      UInt64.toNat_sub_of_le _ _ (UInt64.le_iff_toNat_le.2 le)
    have within : (x.toNat - first.toNat) % (last.toNat - first.toNat) = x.toNat - first.toNat :=
      Nat.mod_eq_of_lt (by omega)
    refine ⟨x - first, ?_⟩
    rw [← UInt64.toNat_inj, UInt64.toNat_add, UInt64.toNat_mod, span, behind, within]
    omega

namespace Cidr

variable {c : Cidr} {offset : UInt64}

/-! ### The size -/

theorem toNat_size (c : Cidr) : c.size.toNat = 2 ^ (32 - c.len) := by
  have shift : (UInt64.ofNat (32 - c.len)).toNat % 64 = 32 - c.len := by
    rw [UInt64.toNat_ofNat']
    omega
  have small : 2 ^ (32 - c.len) < 2 ^ 64 := Nat.pow_lt_pow_right (by omega) (by omega)
  rw [size, UInt64.toNat_shiftLeft, shift, UInt64.toNat_one, Nat.one_shiftLeft, Nat.mod_eq_of_lt small]

/-- Blocks of eight addresses or more are those with at most 29 leading bits. -/
theorem five_lt_size_iff : 5 < c.size ↔ c.len ≤ 29 := by
  rw [UInt64.lt_iff_toNat_lt, toNat_size]
  constructor
  · intro large
    by_contra long
    have : 2 ^ (32 - c.len) ≤ 2 ^ 2 := Nat.pow_le_pow_right (by omega) (by omega)
    have five : (5 : UInt64).toNat = 5 := rfl
    omega
  · intro short
    have : 2 ^ 3 ≤ 2 ^ (32 - c.len) := Nat.pow_le_pow_right (by omega) (by omega)
    have five : (5 : UInt64).toNat = 5 := rfl
    omega

/-! ### The offsets -/

/-- The offset may be drawn. -/
def Offered (c : Cidr) (offset : UInt64) : Prop :=
  c.hostOffsets.1 ≤ offset ∧ offset < c.hostOffsets.2

/-- In a block of eight addresses or more the first four offsets and the last are left out. -/
theorem offered_iff_of_le (short : c.len ≤ 29) :
    c.Offered offset ↔ 4 ≤ offset.toNat ∧ offset.toNat + 1 < 2 ^ (32 - c.len) := by
  have large := five_lt_size_iff.2 short
  have last : (c.size - 1).toNat = 2 ^ (32 - c.len) - 1 := by
    rw [UInt64.toNat_sub_of_le, toNat_size, UInt64.toNat_one]
    rw [UInt64.le_iff_toNat_le, toNat_size, UInt64.toNat_one]
    exact Nat.one_le_two_pow
  have four : (4 : UInt64).toNat = 4 := rfl
  unfold Offered hostOffsets
  rw [if_pos large]
  dsimp only
  rw [UInt64.le_iff_toNat_le, UInt64.lt_iff_toNat_lt, last, four]
  omega

/-- A smaller block has one offset. -/
theorem offered_iff_of_lt (long : 29 < c.len) : c.Offered offset ↔ offset = 0 := by
  have small : ¬5 < c.size := fun large => by
    have := five_lt_size_iff.1 large
    omega
  unfold Offered hostOffsets
  rw [if_neg small, ← UInt64.toNat_inj]
  dsimp only
  rw [UInt64.le_iff_toNat_le, UInt64.lt_iff_toNat_lt, UInt64.toNat_zero, UInt64.toNat_one]
  omega

/-- **There is always an offset to draw.** -/
theorem exists_offered (c : Cidr) : ∃ offset, c.Offered offset := by
  rcases Nat.lt_or_ge 29 c.len with long | short
  · exact ⟨0, (offered_iff_of_lt long).2 rfl⟩
  · have eight : 2 ^ 3 ≤ 2 ^ (32 - c.len) := Nat.pow_le_pow_right (by omega) (by omega)
    have four : (4 : UInt64).toNat = 4 := rfl
    exact ⟨4, (offered_iff_of_le short).2 ⟨by omega, by omega⟩⟩

theorem first_lt_last (c : Cidr) : c.hostOffsets.1 < c.hostOffsets.2 := by
  obtain ⟨offset, le, lt⟩ := c.exists_offered
  rw [UInt64.le_iff_toNat_le] at le
  rw [UInt64.lt_iff_toNat_lt] at lt ⊢
  omega

theorem Offered.lt (offered : c.Offered offset) : offset.toNat < 2 ^ (32 - c.len) := by
  rcases Nat.lt_or_ge 29 c.len with long | short
  · rw [(offered_iff_of_lt long).1 offered]
    exact Nat.two_pow_pos _
  · have := (offered_iff_of_le short).1 offered
    omega

/-! ### The hosts -/

/-- **Nothing is lost**: neither the sum with an offset of the block nor its cut to 32 bits loses a bit. -/
theorem toNat_host (within : offset.toNat < 2 ^ (32 - c.len)) :
    (c.network.toUInt64 + offset).toNat = c.network.toNat + offset.toNat ∧
      (c.host offset).toNat = c.network.toNat + offset.toNat := by
  have le := c.network_add_le
  have sum : (c.network.toUInt64 + offset).toNat = c.network.toNat + offset.toNat := by
    rw [UInt64.toNat_add, UInt32.toNat_toUInt64]
    exact Nat.mod_eq_of_lt (by omega)
  refine ⟨sum, ?_⟩
  rw [host, UInt64.toNat_toUInt32, sum]
  exact Nat.mod_eq_of_lt (by omega)

/-- **Each offset that is offered can be drawn**, and no other. -/
theorem exists_drawHost_iff {x : UInt32} :
    (∃ draw, c.drawHost draw = x) ↔ ∃ offset, c.Offered offset ∧ c.host offset = x := by
  have host_of (draw : UInt64) : c.drawHost draw =
      c.host (c.hostOffsets.1 + draw % (c.hostOffsets.2 - c.hostOffsets.1)) := rfl
  constructor
  · rintro ⟨draw, rfl⟩
    exact ⟨_, (exists_draw_iff c.first_lt_last).1 ⟨draw, rfl⟩, (host_of draw).symm⟩
  · rintro ⟨offset, offered, rfl⟩
    obtain ⟨draw, same⟩ := (exists_draw_iff c.first_lt_last).2 offered
    exact ⟨draw, (host_of draw).trans (congrArg c.host same)⟩

/-- **Drawn hosts.** The range of the offsets is never empty. Whichever offset of it is drawn, the sum with the network
and its cut to 32 bits are exact, and the host lies inside the block. In a block with at most 29 leading bits it is
neither among the first four addresses nor the last one; in a smaller block it is the network. -/
theorem drawHost_usable (c : Cidr) :
    c.hostOffsets.1 < c.hostOffsets.2 ∧
      (∀ x, (∃ draw, c.drawHost draw = x) ↔ ∃ offset, c.Offered offset ∧ c.host offset = x) ∧
      ∀ offset, c.Offered offset →
        (c.network.toUInt64 + offset).toNat = c.network.toNat + offset.toNat ∧
        (c.host offset).toNat = c.network.toNat + offset.toNat ∧
        c.host offset ∈ c.addresses ∧
        (c.len ≤ 29 → c.network.toNat + 4 ≤ (c.host offset).toNat ∧
          (c.host offset).toNat + 1 < c.network.toNat + 2 ^ (32 - c.len)) ∧
        (29 < c.len → c.host offset = c.network) := by
  refine ⟨c.first_lt_last, fun x => exists_drawHost_iff, fun offset offered => ?_⟩
  obtain ⟨sum, host⟩ := toNat_host offered.lt
  refine ⟨sum, host, mem_addresses_iff.2 ?_, fun short => ?_, fun long => ?_⟩
  · have := offered.lt
    omega
  · have := (offered_iff_of_le short).1 offered
    omega
  · rw [← UInt32.toNat_inj, host, (offered_iff_of_lt long).1 offered]
    rfl

end Cidr

end MockCloud.Network
