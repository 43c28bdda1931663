/-! # Hexadecimal text

Bytes are written as two lower-case digits each, the high half first. Reading takes digits of either
case and refuses an odd number of them.

* `decode?_encode`: what is written reads back.
* `decode?_eq_some_iff`: nothing else is read, the case of the letters apart. -/

namespace MockCloud.Text.Hex

/-- The two digits of a byte. -/
def pair (b : UInt8) : List Char :=
  [Nat.digitChar (b.toNat / 16), Nat.digitChar (b.toNat % 16)]

/-- The digits of all bytes in order. -/
def encode (bytes : List UInt8) : List Char :=
  bytes.flatMap pair

/-- The value of a digit of either case. -/
def value? (c : Char) : Option Nat :=
  if '0' ≤ c ∧ c ≤ '9' then some (c.toNat - 48)
  else if 'a' ≤ c ∧ c ≤ 'f' then some (c.toNat - 87)
  else if 'A' ≤ c ∧ c ≤ 'F' then some (c.toNat - 55)
  else none

/-- The bytes that the digits stand for. -/
def decode? : List Char → Option (List UInt8)
  | [] => some []
  | [_] => none
  | high :: low :: rest => do
    let h ← value? high
    let l ← value? low
    let bytes ← decode? rest
    return UInt8.ofNat (16 * h + l) :: bytes

theorem value?_digitChar {n : Nat} (h : n < 16) : value? (Nat.digitChar n) = some n := by
  have : ∀ m : Fin 16, value? (Nat.digitChar m) = some m.val := by decide
  exact this ⟨n, h⟩

theorem decode?_encode (bytes : List UInt8) : decode? (encode bytes) = some bytes := by
  induction bytes with
  | nil => rfl
  | cons b bytes ih =>
    have hb : b.toNat < 256 := b.toNat_lt
    have high := value?_digitChar (n := b.toNat / 16) (by omega)
    have low := value?_digitChar (n := b.toNat % 16) (by omega)
    have halves : 16 * (b.toNat / 16) + b.toNat % 16 = b.toNat := by omega
    simp only [encode, List.flatMap_cons, pair, List.cons_append, List.nil_append, decode?, high, low]
    rw [show decode? (bytes.flatMap pair) = some bytes from ih]
    show some (UInt8.ofNat (16 * (b.toNat / 16) + b.toNat % 16) :: bytes) = some (b :: bytes)
    rw [halves, UInt8.ofNat_toNat]

/-! ### What is read -/

section

variable {c : Char} {n : Nat}

theorem le_and_le_iff (a b : Char) : a ≤ c ∧ c ≤ b ↔ a.toNat ≤ c.toNat ∧ c.toNat ≤ b.toNat := Iff.rfl

theorem value?_lt (h : value? c = some n) : n < 16 := by
  unfold value? at h
  simp only [le_and_le_iff, Char.reduceToNat] at h
  split at h
  · cases h; omega
  · split at h
    · cases h; omega
    · split at h
      · cases h; omega
      · cases h

theorem value?_eq_none (h : 128 ≤ c.toNat) : value? c = none := by
  unfold value?
  simp only [le_and_le_iff, Char.reduceToNat]
  rw [if_neg (by omega), if_neg (by omega), if_neg (by omega)]

/-- A digit is read by its lower-case form. -/
theorem value?_eq_some_iff : value? c = some n ↔ n < 16 ∧ c.toLower = Nat.digitChar n := by
  by_cases hc : c.toNat < 128
  · have table : ∀ m : Fin 128, ∀ n : Fin 16,
        value? (Char.ofNat m) = some n.val ↔ (Char.ofNat m).toLower = Nat.digitChar n := by decide +kernel
    have entry (hn : n < 16) := table ⟨c.toNat, hc⟩ ⟨n, hn⟩
    simp only [Char.ofNat_toNat] at entry
    exact ⟨fun h => ⟨value?_lt h, (entry (value?_lt h)).1 h⟩, fun h => (entry h.1).2 h.2⟩
  · -- outside of ASCII there is neither a digit nor an upper-case letter
    have digits : ∀ n : Fin 16, (Nat.digitChar n).toNat < 128 := by decide
    have same : c.toLower = c := by
      unfold Char.toLower
      rw [dif_neg]
      rintro ⟨-, h⟩
      have : c.toNat ≤ 90 := h
      omega
    rw [value?_eq_none (by omega), same]
    constructor
    · intro h; cases h
    · rintro ⟨hn, rfl⟩
      exact absurd (digits ⟨n, hn⟩) hc

end

theorem pair_ofNat {m n : Nat} (hm : m < 16) (hn : n < 16) :
    pair (UInt8.ofNat (16 * m + n)) = [Nat.digitChar m, Nat.digitChar n] := by
  have small : 16 * m + n < 256 := by omega
  have value : (UInt8.ofNat (16 * m + n)).toNat = 16 * m + n := UInt8.toNat_ofNat_of_lt small
  have high : (16 * m + n) / 16 = m := by omega
  have low : (16 * m + n) % 16 = n := by omega
  rw [pair, value, high, low]

/-- **Text is read as bytes** exactly when it is what is written for them, in either case. -/
theorem decode?_eq_some_iff {cs : List Char} {bytes : List UInt8} :
    decode? cs = some bytes ↔ cs.map Char.toLower = encode bytes := by
  induction cs using decode?.induct generalizing bytes with
  | case1 =>
    cases bytes with
    | nil => exact ⟨fun _ => rfl, fun _ => rfl⟩
    | cons b bytes => exact ⟨nofun, nofun⟩
  | case2 c =>
    refine ⟨nofun, fun h => ?_⟩
    cases bytes <;> simp [encode, pair] at h
  | case3 high low rest ih =>
    simp only [decode?, Option.bind_eq_bind, Option.bind_eq_some_iff, value?_eq_some_iff, ih]
    constructor
    · rintro ⟨m, ⟨hm, hhigh⟩, n, ⟨hn, hlow⟩, read, hrest, h⟩
      obtain rfl := Option.some.inj h
      rw [List.map_cons, List.map_cons, hhigh, hlow, hrest, encode, encode, List.flatMap_cons,
        pair_ofNat hm hn]
      rfl
    · intro h
      cases bytes with
      | nil => cases h
      | cons b bytes =>
        have hb : b.toNat < 256 := b.toNat_lt
        have halves : 16 * (b.toNat / 16) + b.toNat % 16 = b.toNat := by omega
        obtain ⟨hhigh, h⟩ := List.cons.inj h
        obtain ⟨hlow, hrest⟩ := List.cons.inj h
        refine ⟨b.toNat / 16, ⟨by omega, hhigh⟩, b.toNat % 16, ⟨by omega, hlow⟩, bytes, hrest, ?_⟩
        rw [halves, UInt8.ofNat_toNat]
        rfl

end MockCloud.Text.Hex
