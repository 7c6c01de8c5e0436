/-!
# Binary floating-point numbers

A number written with a point or an exponent is kept as the binary64 number nearest to it.
The datum is a sign, a mantissa and a power of two, so that two numbers are compared, read and
written in exact integer arithmetic.

A finite number is *normal* when its mantissa has 53 bits, or fewer and the least exponent.
Everything that builds a finite number here builds a normal one, so each number but zero has one
form.

## Main definitions

* `Double` — the binary64 numbers, with their infinities and the one that is not a number.
* `Double.ofRatio` — the number nearest to a quotient of naturals.
* `Double.ofDecimal` — the number nearest to a decimal.
* `Double.equals` — equality of values, where the zeros are equal and a non-number equals nothing.
-/

namespace ApiTools

/-- A binary64 number; a finite one is the mantissa times two to the exponent. -/
inductive Double where
  /-- The result that is not a number. -/
  | nan
  /-- An infinity. -/
  | infinite (negative : Bool)
  /-- A finite number, its sign kept for a zero as well. -/
  | finite (negative : Bool) (mantissa : Nat) (exponent : Int)
  deriving DecidableEq, Inhabited

namespace Double

/-- A power of two. -/
def twoTo (n : Nat) : Nat := Nat.pow 2 n

/-- A power of ten. -/
def tenTo (n : Nat) : Nat := Nat.pow 10 n

/-- The exponent of the numbers closest to zero. -/
def leastExponent : Int := -1074

/-- The exponent of the largest numbers. -/
def greatestExponent : Int := 971

/-- The quotient rounded to the nearest natural, a half to the even one. -/
def roundDiv (num den : Nat) : Nat :=
  let quotient := num / den
  match compare (2 * (num % den)) den with
  | .lt => quotient
  | .gt => quotient + 1
  | .eq => if quotient % 2 = 0 then quotient else quotient + 1

/-- The exponent of the greatest power of two that is at most `num / den`. -/
def floorLog (num den : Nat) : Int :=
  let guess : Int := num.log2 - den.log2
  if den * twoTo guess.toNat ≤ num * twoTo (-guess).toNat then guess else guess - 1

/-- The number nearest to `num / den`, a tie going to the even mantissa. -/
def ofRatio (negative : Bool) (num den : Nat) : Double :=
  if num = 0 then
    .finite negative 0 leastExponent
  else
    let exponent := max (floorLog num den - 52) leastExponent
    let mantissa := roundDiv (num * twoTo (-exponent).toNat) (den * twoTo exponent.toNat)
    -- Rounding up may carry into a 54th bit.
    let carried := mantissa = twoTo 53
    let exponent := if carried then exponent + 1 else exponent
    if greatestExponent < exponent then .infinite negative
    else .finite negative (if carried then twoTo 52 else mantissa) exponent

/-- The number nearest to `digits * 10 ^ exponent`. The first two tests keep the powers of ten
small: they decide every decimal that is far above or below all finite numbers. -/
def ofDecimal (negative : Bool) (digits : Nat) (exponent : Int) : Double :=
  if digits = 0 ∨ exponent + (digits.log2 * 31 / 100 + 2 : Nat) < -330 then
    .finite negative 0 leastExponent
  else if 310 < exponent + (digits.log2 * 3 / 10 : Nat) then
    .infinite negative
  else
    ofRatio negative (digits * tenTo exponent.toNat) (tenTo (-exponent).toNat)

/-- Whether a number is zero, of either sign. -/
def isZero : Double → Bool
  | .finite _ mantissa _ => mantissa == 0
  | _ => false

/-- The size of a finite number as a quotient of naturals. -/
def ratio (mantissa : Nat) (exponent : Int) : Nat × Nat :=
  (mantissa * twoTo exponent.toNat, twoTo (-exponent).toNat)

/-- Whether two numbers have one value. -/
def equals : Double → Double → Bool
  | .infinite s, .infinite t => s == t
  | .finite s m e, .finite t n f =>
    let (a, b) := ratio m e
    let (c, d) := ratio n f
    a * d == c * b && (s == t || m == 0)
  | _, _ => false

/-- Whether a number has the value of an integer. -/
def equalsInt : Double → Int → Bool
  | .finite s m e, n =>
    let (a, b) := ratio m e
    (a : Int) == (if s then -n else n) * b
  | _, _ => false

/-- An integer of a sign and a size. -/
def signed (negative : Bool) (size : Nat) : Int := if negative then -(size : Int) else size

/-- The sum of two numbers, rounded once. It is a negative zero only if both are. -/
def add : Double → Double → Double
  | .finite s m e, .finite t n f =>
    let (a, b) := ratio m e
    let (c, d) := ratio n f
    let sum := signed s (a * d) + signed t (c * b)
    ofRatio (decide (sum < 0) || (s && t)) sum.natAbs (b * d)
  | .infinite s, .infinite t => if s == t then .infinite s else .nan
  | .infinite s, .finite _ _ _ => .infinite s
  | .finite _ _ _, .infinite t => .infinite t
  | _, _ => .nan

/-- The product of two numbers, rounded once. -/
def mul : Double → Double → Double
  | .finite s m e, .finite t n f =>
    let (a, b) := ratio m e
    let (c, d) := ratio n f
    ofRatio (s != t) (a * c) (b * d)
  | .infinite s, .infinite t => .infinite (s != t)
  | .infinite s, .finite t n _ => if n = 0 then .nan else .infinite (s != t)
  | .finite s m _, .infinite t => if m = 0 then .nan else .infinite (s != t)
  | _, _ => .nan

/-- The number nearest to a natural; none if that is too large. -/
def ofNat? (n : Nat) : Option Double :=
  match ofRatio false n 1 with
  | .infinite _ => none
  | d => some d

/-- The number with its sign turned. -/
def neg : Double → Double
  | .nan => .nan
  | .infinite s => .infinite (!s)
  | .finite s m e => .finite (!s) m e

end Double

end ApiTools
