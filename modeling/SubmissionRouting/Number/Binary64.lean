/-! # Double precision numbers

The binary floating-point numbers of 64 bits, without their bits. The numbers that are not negative
are *ranked* in increasing order: zero has rank `0`, the least positive number rank `1`, and so on up
to infinity. A number is a sign and a rank; besides there is `nan`, which is not a number. It carries a
mark by which two of them can be told apart, though it has no value that could be compared.

All magnitudes are whole multiples of one *unit*, the least positive number `2 ^ -1074`, so every
question about values is one about natural numbers. In products a constant stands first, because
multiplication recurses on the second factor.

* `units`: the magnitude of a rank, counted in units.
* `key?`: the signed rank. Numbers are ordered by it, and both zeros have the key `0`.
* `same`, `alike`: equality of values, and equality that also knows a mark again.
* `nearest`: the rank next to a ratio; of two equally near ones the even rank.
* `ofInt?`: the number next to an integer, unless that is infinite.
* `toInt?`: the integer that a number is, if it is one. -/

namespace SubmissionRouting

/-- The rank of infinity. -/
def infinityRank : Nat := 2047 * Nat.pow 2 52

/-- What tells apart two results that are not numbers: the source in which each was written, and its
place there. -/
structure Mark where
  source : Nat := 0
  place : Nat := 0
deriving DecidableEq

/-- A double precision number: not a number, or a sign and a rank. -/
inductive Binary64 where
  | nan (mark : Mark)
  | ranked (negative : Bool) (rank : Fin (infinityRank + 1))
deriving DecidableEq

namespace Binary64

/-! ### Magnitudes -/

/-- The number of units in one. -/
def unit : Nat := Nat.pow 2 1074

/-- The leading bits of a rank's magnitude: fewer than 53 for the least ranks, else 53. -/
def significand (rank : Nat) : Nat :=
  if rank < Nat.pow 2 52 then rank else Nat.pow 2 52 + rank % Nat.pow 2 52

/-- The number of bits below the significand. -/
def scale (rank : Nat) : Nat := if rank < Nat.pow 2 52 then 0 else rank / Nat.pow 2 52 - 1

/-- The magnitude of a rank in units. Infinity counts as the power of two that it stands at. -/
def units (rank : Nat) : Nat := significand rank * Nat.pow 2 (scale rank)

/-- The number of binary digits. -/
def bitLength (n : Nat) : Nat := if n = 0 then 0 else n.log2 + 1

/-- The greatest rank whose magnitude is at most `n` units. -/
def floorRank (n : Nat) : Nat :=
  let dropped := bitLength n - 53
  Nat.pow 2 52 * dropped + n / Nat.pow 2 dropped

/-- The rank next to the magnitude `num / den`; of two equally near ones the even rank. -/
def nearest (num den : Nat) : Fin (infinityRank + 1) :=
  let scaled := unit * num
  let low := floorRank (scaled / den)
  let above := 2 * (scaled - units low * den)
  let gap := (units (low + 1) - units low) * den
  let rank := if above < gap ∨ (above = gap ∧ low % 2 = 0) then low else low + 1
  ⟨min rank infinityRank, Nat.lt_succ_of_le (Nat.min_le_right _ _)⟩

/-! ### Particular numbers -/

/-- Zero with a sign. -/
def zero (negative : Bool) : Binary64 := .ranked negative ⟨0, Nat.succ_pos _⟩

/-- Infinity with a sign. -/
def infinity (negative : Bool) : Binary64 := .ranked negative ⟨infinityRank, Nat.lt_succ_self _⟩

/-- What is not a number and was not written in any source. -/
def undefined : Binary64 := .nan {}

/-- What is not a number. -/
def isNaN : Binary64 → Bool
  | nan _ => true
  | ranked _ _ => false

/-- The number with another mark, if it is not one. -/
def withMark (mark : Mark) : Binary64 → Binary64
  | nan _ => nan mark
  | ranked negative rank => ranked negative rank

/-- The number next to a ratio with a sign. -/
def ofRatio (negative : Bool) (num den : Nat) : Binary64 := .ranked negative (nearest num den)

/-- The number next to an integer, unless it is infinite. -/
def ofInt? (n : Int) : Option Binary64 :=
  let rank := nearest n.natAbs 1
  if rank.val = infinityRank then none else some (.ranked (decide (n < 0)) rank)

/-! ### Order -/

/-- The signed rank of a number. -/
def key? : Binary64 → Option Int
  | nan _ => none
  | ranked negative rank => some (if negative then -(rank.val : Int) else rank.val)

/-- A relation of the keys of two numbers; it never holds of `nan`. -/
def related (r : Int → Int → Bool) (x y : Binary64) : Bool :=
  match x.key?, y.key? with
  | some a, some b => r a b
  | _, _ => false

/-- Equality of values: both zeros are equal, and `nan` is equal to nothing. -/
def same (x y : Binary64) : Bool := related (· == ·) x y

/-- The same value, or twice what is not a number with the same mark. -/
def alike (x y : Binary64) : Bool :=
  match x, y with
  | nan m, nan n => m == n
  | x, y => same x y

/-- The strict order of values. -/
def less (x y : Binary64) : Bool := related (· < ·) x y

/-- The order of values. -/
def atMost (x y : Binary64) : Bool := related (· ≤ ·) x y

/-! ### Integers -/

/-- A signed count of units. -/
def signedUnits (negative : Bool) (rank : Nat) : Int :=
  if negative then -(units rank : Int) else units rank

/-- A number that is zero, with either sign. -/
def isZero : Binary64 → Bool
  | nan _ => false
  | ranked _ rank => rank.val = 0

/-- The integer that a number is, if it is one. -/
def toInt? : Binary64 → Option Int
  | nan _ => none
  | ranked negative rank =>
    if rank.val < infinityRank ∧ units rank % unit = 0 then
      some (signedUnits negative rank / unit)
    else none

/-- Equality with an integer, without rounding. -/
def sameInt (x : Binary64) (n : Int) : Bool := x.toInt? == some n

/-! ### Arithmetic -/

/-- The number with the other sign. -/
def negate : Binary64 → Binary64
  | nan m => nan m
  | ranked negative rank => ranked (!negative) rank

/-- The number next to a signed ratio. -/
def ofSignedRatio (num : Int) (den : Nat) : Binary64 := ofRatio (decide (num < 0)) num.natAbs den

/-- The sum of two numbers, rounded to the nearest. -/
def add : Binary64 → Binary64 → Binary64
  | nan m, _ => nan m
  | _, nan m => nan m
  | ranked s a, ranked t b =>
    if a.val = infinityRank then
      if b.val = infinityRank ∧ s ≠ t then undefined else ranked s a
    else if b.val = infinityRank then ranked t b
    else if a.val = 0 ∧ b.val = 0 then zero (s && t)
    else ofSignedRatio (signedUnits s a + signedUnits t b) unit

/-- The product of two numbers, rounded to the nearest. -/
def mul : Binary64 → Binary64 → Binary64
  | nan m, _ => nan m
  | _, nan m => nan m
  | ranked s a, ranked t b =>
    if a.val = infinityRank ∨ b.val = infinityRank then
      if a.val = 0 ∨ b.val = 0 then undefined else infinity (s != t)
    else ofRatio (s != t) (units a * units b) (unit * unit)

end Binary64

end SubmissionRouting
