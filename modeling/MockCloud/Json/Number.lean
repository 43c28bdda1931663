import MockCloud.Decimal.Shortest
import MockCloud.Json.Tree

/-! # The value of a numeral

A numeral without fraction and exponent is an integer as long as it fits into sixty-four bits; every other
one is a double. A double is not the nearest one to the numeral: the digits are gathered into an integer
of sixty-four bits, as many as fit, and that integer is multiplied or divided once by a power of ten, each
step rounding by itself. A numeral too large for a double has no value.

* `Number.ofNumeral?` gives the value, `Number.numeral` the way it is written: a double is written with the
  fewest digits that read back, plainly while its leading digit stands between `10 ^ -5` and `10 ^ 15`. -/

namespace MockCloud.Json

/-- The value of a numeral. -/
inductive Number where
  | int (n : Int)
  | float (x : Float)

/-- The least number that does not fit into sixty-four bits. -/
def wordBound : Nat := 0x10000000000000000

/-! ### Reading -/

/-- Digits gathered into an integer: the integer, the digits that no longer fit, and how many did. -/
structure Gathered where
  value : Nat
  rest : List Char
  taken : Nat

/-- Gathers digits behind an integer until the next one would not fit. -/
def gather (value taken : Nat) : List Char → Gathered
  | [] => ⟨value, [], taken⟩
  | d :: ds =>
    let next := 10 * value + (d.toNat - 48)
    if next < wordBound then gather next (taken + 1) ds else ⟨value, d :: ds, taken⟩

/-- The power of ten as a double. -/
def tenTo (k : Nat) : Float :=
  Float.ofScientific 1 false k

/-- A double divided by `10 ^ k`, in steps of at most `10 ^ 308`. -/
def divideByTen (x : Float) (k : Nat) : Float :=
  if k ≤ 308 then x / tenTo k
  else if x == 0 then x
  else divideByTen (x / tenTo 308) (k - 308)
termination_by k

/-- The integer times a power of ten as a double, unless it is too large for one. -/
def scaled? (n : Nat) (exponent : Int) : Option Float :=
  let x := (UInt64.ofNat n).toFloat
  match exponent with
  | .negSucc k => some (divideByTen x (k + 1))
  | .ofNat k =>
    if k ≤ 308 then
      let y := x * tenTo k
      if y.isInf then none else some y
    else if x == 0 then some x
    else none

/-- An exponent of this size or more leaves nothing but zero or nothing at all. -/
def exponentBound : Nat := 0x80000000

/-- The double of gathered digits behind which a power of ten and a written exponent stand. -/
def double? (n : Nat) (shift : Int) (exponent : Option (Bool × List Char)) : Option Float :=
  match exponent with
  | none => scaled? n shift
  | some (negative, ds) =>
    let e := Nat.ofDigitChars 10 ds 0
    if e < exponentBound then scaled? n (if negative then shift - e else shift + e)
    else if n = 0 ∨ negative then some 0
    else none

/-- The value of a numeral, unless it is too large for a double. -/
def Number.ofNumeral? (n : Numeral) : Option Number :=
  let whole := gather 0 0 n.whole
  let signed (x : Float) : Number := .float (if n.negative then -x else x)
  match n.fraction, n.exponent, whole.rest with
  | none, none, [] =>
    if n.negative then
      if whole.value = 0 ∨ 0x8000000000000000 < whole.value then some (signed (UInt64.ofNat whole.value).toFloat)
      else some (.int (-(whole.value : Int)))
    else some (.int whole.value)
  | none, exponent, rest => (double? whole.value rest.length exponent).map signed
  | some fraction, exponent, rest =>
    let all := gather whole.value 0 fraction
    (double? all.value ((rest.length : Int) - (all.taken : Int)) exponent).map signed

/-! ### Writing -/

/-- A finite double as a numeral. -/
def Numeral.ofFloat (x : Float) : Numeral :=
  let negative := x.toBits >>> 63 == 1
  if x == 0 then ⟨negative, ['0'], some ['0'], none⟩
  else
    let (d, k) := (Decimal.Interval.ofBits (x.toBits &&& 0x7FFFFFFFFFFFFFFF)).shortest
    let ds := Nat.toDigits 10 d
    let point := (ds.length : Int) + k
    if 0 < point ∧ point ≤ 16 then
      let filled := ds ++ List.replicate (point.toNat - ds.length) '0'
      let fraction := filled.drop point.toNat
      ⟨negative, filled.take point.toNat, some (if fraction.isEmpty then ['0'] else fraction), none⟩
    else if -5 < point ∧ point ≤ 0 then
      ⟨negative, ['0'], some (List.replicate (-point).toNat '0' ++ ds), none⟩
    else
      let e := point - 1
      ⟨negative, ds.take 1, if ds.length = 1 then none else some (ds.drop 1),
        some (e < 0, Nat.toDigits 10 e.natAbs)⟩

/-- A value as a numeral. -/
def Number.numeral : Number → Numeral
  | .int n => .ofInt n
  | .float x => .ofFloat x

end MockCloud.Json
