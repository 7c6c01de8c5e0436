import ApiTools.Double.Basic

/-!
# The shortest decimal of a binary number

A binary number is written with the fewest decimal digits that read back to it. The reals that
round to `m * 2 ^ e` form an interval, its ends included exactly when `m` is even; the search
goes through ever finer decimal grids and takes the first with a point in the interval, the one
closer to the number if there are two.

## Main definitions

* `Decimal.readsBack` — a decimal lies in the interval of a binary number.
* `Decimal.shortest` — the first grid point that does.
* `Double.toText` — positional between `10 ^ -4` and `10 ^ 16`, otherwise with an exponent.
-/

namespace ApiTools

/-- The decimal `digits * 10 ^ exponent`. -/
structure Decimal where
  /-- The digits, as one natural. -/
  digits : Nat
  /-- The power of ten they are scaled by. -/
  exponent : Int
  deriving DecidableEq

namespace Decimal

open Double (twoTo tenTo)

/-- Compares `a * 10 ^ i` with `n * 2 ^ j`. -/
def compareScaled (a : Nat) (i : Int) (n : Nat) (j : Int) : Ordering :=
  compare (a * tenTo i.toNat * twoTo (-j).toNat) (n * twoTo j.toNat * tenTo (-i).toNat)

/-- The decimal is among the reals that round to `m * 2 ^ e`. Below a power of two the gap is half
as wide as above it. -/
def readsBack (m : Nat) (e : Int) (d : Decimal) : Bool :=
  let narrow := m == twoTo 52 && Double.leastExponent < e
  let low := compareScaled d.digits d.exponent (if narrow then 4 * m - 1 else 4 * m - 2) (e - 2)
  let high := compareScaled d.digits d.exponent (4 * m + 2) (e - 2)
  (low == .gt || (low == .eq && m % 2 == 0)) && (high == .lt || (high == .eq && m % 2 == 0))

/-- The least `k` with `m * 2 ^ e < 10 ^ k`, for a positive `m`. -/
def scale (m : Nat) (e : Int) : Int :=
  let guess := ((m.log2 + e) * 30103).fdiv 100000 - 1
  let above := (List.range 4).find? fun i : Nat => compareScaled 1 (guess + i) m e == .gt
  guess + (above.getD 4 : Nat)

/-- Of the two points of the grid `10 ^ g` beside `m * 2 ^ e`, the one to write. -/
def gridPoint? (m : Nat) (e g : Int) : Option Decimal :=
  let num := m * twoTo e.toNat * tenTo (-g).toNat
  let den := twoTo (-e).toNat * tenTo g.toNat
  let below : Decimal := ⟨num / den, g⟩
  let above : Decimal := ⟨num / den + 1, g⟩
  match readsBack m e below, readsBack m e above with
  | true, false => some below
  | false, true => some above
  | false, false => none
  | true, true => some ⟨Double.roundDiv num den, g⟩

/-- The decimal with its trailing zeros moved into the exponent. -/
def strip : Nat → Decimal → Decimal
  | 0, d => d
  | fuel + 1, d =>
    if d.digits % 10 = 0 ∧ d.digits ≠ 0 then strip fuel ⟨d.digits / 10, d.exponent + 1⟩ else d

/-- The decimal of fewest digits that reads back to `m * 2 ^ e`, for a positive `m`; the exact value
if no decimal of seventeen digits does. -/
def shortest (m : Nat) (e : Int) : Decimal :=
  let k := scale m e
  let found := (List.range 17).findSome? fun n : Nat => gridPoint? m e (k - 1 - n)
  let exact : Decimal := ⟨m * twoTo e.toNat * Nat.pow 5 (-e).toNat, min e 0⟩
  strip 800 (found.getD exact)

end Decimal

namespace Double

/-- A run of zeros. -/
def zeros (n : Nat) : String := String.ofList (List.replicate n '0')

/-- The text of digits whose decimal point stands after the first `point` of them. -/
def layout (digits : List Char) (point : Int) : String :=
  let size : Int := digits.length
  if 16 < point ∨ point < -3 then
    let exponent := point - 1
    let fraction := digits.drop 1
    let mark := if exponent < 0 then "e-" else "e+"
    let width := toString exponent.natAbs
    String.ofList (digits.take 1)
      ++ (if fraction.isEmpty then "" else "." ++ String.ofList fraction)
      ++ mark ++ (if width.length < 2 then "0" ++ width else width)
  else if point ≤ 0 then
    "0." ++ zeros (-point).toNat ++ String.ofList digits
  else if size ≤ point then
    String.ofList digits ++ zeros (point - size).toNat ++ ".0"
  else
    String.ofList (digits.take point.toNat) ++ "." ++ String.ofList (digits.drop point.toNat)

/-- The text of a finite number without its sign. -/
def magnitudeText (mantissa : Nat) (exponent : Int) : String :=
  if mantissa = 0 then "0.0"
  else
    let d := Decimal.shortest mantissa exponent
    let digits := (toString d.digits).toList
    layout digits (digits.length + d.exponent)

/-- The text of a number: `1.0`, `-0.0`, `1e+16`, `1e-05`, `inf`, `nan`. -/
def toText : Double → String
  | .nan => "nan"
  | .infinite false => "inf"
  | .infinite true => "-inf"
  | .finite negative m e => (if negative then "-" else "") ++ magnitudeText m e

end Double

end ApiTools
