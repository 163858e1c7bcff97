import SubmissionRouting.Number.Binary64

/-! # Shortest decimals

The decimal text of a double precision number has as few digits as possible, so that the number is
still the one next to it; among the decimals with that few digits it is the nearest.

A number is the nearest one to everything between the midpoints to its two neighbours; the midpoints
themselves belong to it if its rank is even. For each count of digits only two decimals need a test,
the grid points just below and just above the number.

* `shortest`: the digits and the place of the point.
* `Layout`: how the digits are set; `Binary64.text` sets them. -/

namespace SubmissionRouting

namespace Binary64

/-- The decimal digits of a natural number. -/
def decimalDigits (n : Nat) : List Char := Nat.toDigits 10 n

/-- A power of ten with more places than any number has leading zeros. -/
def fineness : Nat := 340

/-- The decimal with `count` digits that rounds to `rank` and is nearest to it, if there is one:
its digits, given the number of digits `places` that the magnitude has on the fine grid. -/
def decimal? (rank places count : Nat) : Option Nat :=
  let scaled := units rank * Nat.pow 10 fineness
  let step := Nat.pow 10 (places - count) * unit
  let low := scaled / step
  let lower := (units (rank - 1) + units rank) * Nat.pow 10 fineness
  let upper := (units rank + units (rank + 1)) * Nat.pow 10 fineness
  let even := rank % 2 = 0
  let lowFits := lower < 2 * (low * step) ∨ (lower = 2 * (low * step) ∧ even)
  let highFits := 2 * ((low + 1) * step) < upper ∨ (2 * ((low + 1) * step) = upper ∧ even)
  let rest := 2 * (scaled - low * step)
  if lowFits ∧ highFits then
    some (if rest < step ∨ (rest = step ∧ low % 2 = 0) then low else low + 1)
  else if lowFits then some low
  else if highFits then some (low + 1)
  else none

/-- The digits of the shortest decimal of a positive finite rank, without zeros at the end, and the
place of the point: the value is `0.d₁d₂… · 10 ^ point`. -/
def shortest (rank : Nat) : List Char × Int :=
  let places := (decimalDigits (units rank * Nat.pow 10 fineness / unit)).length
  let counts := (List.range 17).map (· + 1)
  let found := counts.findSome? fun count => (decimal? rank places count).map (count, ·)
  let (count, digits) := found.getD (1, 0)
  let text := decimalDigits digits
  let point : Int := (places : Int) - fineness + ((text.length : Int) - count)
  ((text.reverse.dropWhile (· = '0')).reverse, point)

end Binary64

/-- How the decimal of a number is set. -/
structure Layout where
  /-- The text of what is not a number. -/
  nan : String
  /-- The text of infinity, without its sign. -/
  infinity : String
  /-- Whether a single digit before an exponent is followed by a point and a zero. -/
  pointBeforeExponent : Bool

namespace Binary64

/-- Signs and at least two digits of an exponent. -/
def exponentText (e : Int) : List Char :=
  let digits := decimalDigits e.natAbs
  let padded := if digits.length < 2 then '0' :: digits else digits
  (if e < 0 then '-' else '+') :: padded

/-- Digits with a point: written out for magnitudes from `0.0001` to below `10 ^ 16`, with an
exponent for all others. A whole number that is written out ends in `.0`. -/
def setDigits (layout : Layout) (digits : List Char) (point : Int) : List Char :=
  if -4 < point ∧ point ≤ 16 then
    if point ≤ 0 then '0' :: '.' :: List.replicate (-point).toNat '0' ++ digits
    else
      let whole := point.toNat
      if digits.length ≤ whole then
        digits ++ List.replicate (whole - digits.length) '0' ++ ['.', '0']
      else digits.take whole ++ '.' :: digits.drop whole
  else
    let mantissa :=
      match digits with
      | [d] => if layout.pointBeforeExponent then [d, '.', '0'] else [d]
      | d :: ds => d :: '.' :: ds
      | [] => ['0']
    mantissa ++ 'e' :: exponentText (point - 1)

/-- The text of a number. -/
def text (layout : Layout) : Binary64 → String
  | nan _ => layout.nan
  | ranked negative rank =>
    let sign := if negative then "-" else ""
    if rank.val = infinityRank then sign ++ layout.infinity
    else if rank.val = 0 then sign ++ "0.0"
    else
      let (digits, point) := shortest rank
      sign ++ String.ofList (setDigits layout digits point)

end Binary64

end SubmissionRouting
