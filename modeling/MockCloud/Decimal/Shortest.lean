/-! # The shortest decimal that reads back

A positive finite double is `m * 2 ^ q`. The decimals that round to it lie between the midpoints to its
two neighbours, and the midpoints themselves belong to it exactly when `m` is even. Of all decimals
`d * 10 ^ k` in that interval, `shortest` takes one with the fewest digits, of those the one nearest to the
value, and of two that are equally near the one whose last digit is even. All arithmetic is exact.

* `Interval.ofBits` decodes the bits of a double.
* `Interval.shortest` is the search: seventeen digits always suffice. -/

namespace MockCloud.Decimal

/-- A ratio of two natural numbers, the second one positive. -/
structure Ratio where
  num : Nat
  den : Nat

/-- `n * b ^ k`. -/
def Ratio.scaled (n b : Nat) : Int → Ratio
  | .ofNat k => ⟨n * b.pow k, 1⟩
  | .negSucc k => ⟨n, b.pow (k + 1)⟩

/-- Whether a ratio is at most another. -/
def Ratio.le (x y : Ratio) : Bool :=
  x.num * y.den ≤ y.num * x.den

/-- Whether a ratio is less than another. -/
def Ratio.lt (x y : Ratio) : Bool :=
  x.num * y.den < y.num * x.den

/-- A double, the midpoints to its neighbours, and whether the midpoints round to it. -/
structure Interval where
  value : Ratio
  low : Ratio
  high : Ratio
  closed : Bool

/-- The interval of a positive finite double with these bits. -/
def Interval.ofBits (bits : UInt64) : Interval :=
  let fraction := (bits &&& 0xFFFFFFFFFFFFF).toNat
  let field := ((bits >>> 52) &&& 0x7FF).toNat
  let m := if field = 0 then fraction else fraction + 0x10000000000000
  let q : Int := if field = 0 then -1074 else (field : Int) - 1075
  -- the gap below a power of two is half as wide as the gap above it
  let below := if fraction = 0 ∧ 1 < field then 1 else 2
  { value := .scaled (4 * m) 2 (q - 2)
    low := .scaled (4 * m - below) 2 (q - 2)
    high := .scaled (4 * m + 2) 2 (q - 2)
    closed := m % 2 = 0 }

/-- Whether a decimal rounds to the double. -/
def Interval.holds (i : Interval) (x : Ratio) : Bool :=
  if i.closed then i.low.le x && x.le i.high else i.low.lt x && x.lt i.high

/-- The exponent of the leading decimal digit of a positive ratio. -/
def leadingExponent (x : Ratio) : Int :=
  if x.den ≤ x.num then ((Nat.toDigits 10 (x.num / x.den)).length : Int) - 1
  else -((Nat.toDigits 10 ((x.den + x.num - 1) / x.num - 1)).length : Int)

/-- The largest multiple of `10 ^ k` that is at most `x`, divided by `10 ^ k`. -/
def floorAt (x : Ratio) : Int → Nat
  | .ofNat k => x.num / (x.den * Nat.pow 10 k)
  | .negSucc k => x.num * Nat.pow 10 (k + 1) / x.den

/-- Whether `x` is nearer to `d * 10 ^ k` than to `(d + 1) * 10 ^ k`, or equally near and `d` is even. -/
def nearerBelow (x : Ratio) (d : Nat) (k : Int) : Bool :=
  let middle := .scaled (10 * d + 5) 10 (k - 1)
  x.lt middle || (x.le middle && d % 2 = 0)

/-- A decimal with digits down to `10 ^ k` that rounds to the double, if there is one. -/
def Interval.onGrid (i : Interval) (k : Int) : Option (Nat × Int) :=
  let d := floorAt i.value k
  let below := i.holds (.scaled d 10 k)
  let above := i.holds (.scaled (d + 1) 10 k)
  match below, above with
  | true, true => some (if nearerBelow i.value d k then (d, k) else (d + 1, k))
  | true, false => some (d, k)
  | false, true => some (d + 1, k)
  | false, false => none

/-- A number without the zeros at its end, and the power of ten that they stood for. -/
def dropZeros : Nat → Nat × Int → Nat × Int
  | 0, x => x
  | fuel + 1, (d, k) => if d % 10 = 0 ∧ d ≠ 0 then dropZeros fuel (d / 10, k + 1) else (d, k)

/-- The shortest decimal that rounds to the double, as digits and a power of ten. -/
def Interval.shortest (i : Interval) : Nat × Int :=
  let top := leadingExponent i.value
  let found := (List.range 17).findSome? fun n => i.onGrid (top - Int.ofNat n)
  dropZeros 18 (found.getD (0, 0))

end MockCloud.Decimal
