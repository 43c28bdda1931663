import MockCloud.Json.ToTree

/-! # Address blocks

A block is a network and the number of leading bits that its addresses share with the network; all other
bits of the network are zero. It is written `a.b.c.d/len`. A written block may have other bits set; they
are cleared when it is read.

* `Cidr.parse?` and `Cidr.render` read and write a block.
* `Cidr.contains` asks whether one block lies inside another. -/

namespace MockCloud.Network

/-- The word whose `len` highest bits are set. -/
def mask (len : Nat) : UInt32 :=
  if len = 0 then 0 else 0xFFFFFFFF <<< UInt32.ofNat (32 - len)

/-- A block of addresses. -/
structure Cidr where
  network : UInt32
  len : Nat
  len_le : len ≤ 32
  aligned : network &&& mask len = network
  deriving DecidableEq

/-! ### Addresses -/

/-- A part of an address: a number up to 255 in one to three digits, without a needless zero in front. -/
def octet? (cs : List Char) : Option Nat :=
  if cs.isEmpty || 3 < cs.length || !cs.all Char.isDigit || (cs.head? = some '0' && cs.length ≠ 1) then none
  else
    let n := Nat.ofDigitChars 10 cs 0
    if n ≤ 255 then some n else none

/-- An address of four parts. -/
def address? (cs : List Char) : Option UInt32 :=
  match cs.splitOn '.' with
  | [a, b, c, d] => do
    let a ← octet? a
    let b ← octet? b
    let c ← octet? c
    let d ← octet? d
    return UInt32.ofNat (((a * 256 + b) * 256 + c) * 256 + d)
  | _ => none

/-- An address as four parts with dots between them. -/
def addressText (a : UInt32) : String :=
  let n := a.toNat
  Text.decimal (n / 16777216) ++ "." ++ Text.decimal (n / 65536 % 256) ++ "." ++
    Text.decimal (n / 256 % 256) ++ "." ++ Text.decimal (n % 256)

/-! ### Blocks -/

namespace Cidr

/-- The block of an address. -/
def of (address : UInt32) (len : Nat) (h : len ≤ 32) : Cidr :=
  ⟨address &&& mask len, len, h, by rw [UInt32.and_assoc, UInt32.and_self]⟩

/-- The length of a block: a number up to 32, with a sign `+` in front if the writer likes. -/
def len? (cs : List Char) : Option Nat :=
  let digits := match cs with
    | '+' :: cs => cs
    | cs => cs
  if digits.isEmpty || !digits.all Char.isDigit then none
  else some (Nat.ofDigitChars 10 digits 0)

/-- Reads a block. -/
def parse? (block : String) : Option Cidr := do
  let (address, len) ← Text.cutFirst (· = '/') block.toList
  let address ← address? address
  let len ← len? len
  if h : len ≤ 32 then some (of address len h) else none

/-- Writes a block. -/
def render (c : Cidr) : String :=
  addressText c.network ++ "/" ++ Text.decimal c.len

/-- Whether the other block lies inside this one. -/
def contains (c other : Cidr) : Bool :=
  c.len ≤ other.len && other.network &&& mask c.len == c.network

/-- The number of addresses in the block. -/
def size (c : Cidr) : UInt64 :=
  1 <<< UInt64.ofNat (32 - c.len)

/-- The offsets among which a host is drawn: the first one, and the one behind the last. The first four
addresses and the last one of a block are not for hosts; a block with no others gives its first. -/
def hostOffsets (c : Cidr) : UInt64 × UInt64 :=
  if 5 < c.size then (4, c.size - 1) else (0, 1)

/-- The address at an offset. -/
def host (c : Cidr) (offset : UInt64) : UInt32 :=
  (c.network.toUInt64 + offset).toUInt32

/-- The host that a drawn number picks. -/
def drawHost (c : Cidr) (draw : UInt64) : UInt32 :=
  let (first, last) := c.hostOffsets
  c.host (first + draw % (last - first))

end Cidr

instance : Json.ToTree Cidr where
  toTree c := .record [("network", .str (addressText c.network)), ("prefix", .nat c.len)]

end MockCloud.Network
