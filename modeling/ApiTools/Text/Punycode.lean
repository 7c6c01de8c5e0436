import ApiTools.Text.Unicode

/-!
# Punycode

A text is written in ASCII by its plain characters and, after a hyphen, by the steps from one of the
other characters to the next, in the order of their codes. A step counts places of the text so far,
and goes on to the next code after each round. It is written by digits whose weights depend on the
steps before it.

Reading goes back the same way. A step may lead past the last code there is; a question mark stands
there then, and reading goes on from its code. Where the digits of a step are cut off or are no
digits, reading ends.

## Main definitions

* `Punycode.encode` — the written form of a text.
* `Punycode.decode` — the codes that digits add to plain characters.
-/

namespace ApiTools

namespace Punycode

/-! ### Digits -/

/-- The digit of a number below 36. -/
def digit (n : Nat) : Char := if n < 26 then Char.ofNat (97 + n) else Char.ofNat (22 + n)

/-- The number of a digit, a letter of either case. -/
def digitValue? (c : Char) : Option Nat :=
  if c.isLower then some (c.toNat - 97)
  else if c.isUpper then some (c.toNat - 65)
  else if c.isDigit then some (c.toNat - 22)
  else none

/-- The least number that is not the last digit of a step, at a place. -/
def threshold (place bias : Nat) : Nat :=
  if place ≤ bias then 1 else if bias + 26 ≤ place then 26 else place - bias

theorem threshold_pos (place bias : Nat) : 0 < threshold place bias := by
  unfold threshold
  split
  · exact Nat.one_pos
  · split <;> omega

/-- A number made smaller until it is below 456, and 36 for each time. -/
def reduced (n count : Nat) : Nat × Nat :=
  if n ≤ 455 then (n, count) else reduced (n / 35) (count + 36)
  termination_by n
  decreasing_by omega

/-- What the digits of the next step are measured by. -/
def nextBias (step points : Nat) (isFirst : Bool) : Nat :=
  let step := if isFirst then step / 700 else step / 2
  let (n, count) := reduced (step + step / points) 0
  count + 36 * n / (n + 38)

/-- What the digits of the first step are measured by. -/
def firstBias : Nat := 72

/-- The first code that is not written plainly. -/
def firstCode : Nat := 128

/-! ### Writing -/

/-- The digits of a step. -/
def stepDigits (bias place step : Nat) : List Char :=
  let least := threshold place bias
  if step < least then [digit step]
  else
    digit (least + (step - least) % (36 - least))
      :: stepDigits bias (place + 36) ((step - least) / (36 - least))
  termination_by step
  decreasing_by
    have positive := threshold_pos place bias
    exact Nat.lt_of_le_of_lt (Nat.div_le_self _ _) (by omega)

/-- Where the writing of steps is. -/
structure Steps where
  /-- The digits so far. -/
  digits : List Char
  /-- The step that is being counted. -/
  step : Nat
  /-- What its digits are measured by. -/
  bias : Nat
  /-- How many characters are written. -/
  written : Nat

/-- The steps past one character of the text, where characters of a code are written. -/
def Steps.pass (plain code : Nat) (s : Steps) (c : Char) : Steps :=
  if c.toNat < code then { s with step := s.step + 1 }
  else if c.toNat = code then
    { digits := s.digits ++ stepDigits s.bias 36 s.step
      step := 0
      bias := nextBias s.step (s.written + 1) (s.written == plain)
      written := s.written + 1 }
  else s

/-- The steps to the characters of all codes from one on, which ascend. -/
def Steps.all (text : List Char) (plain : Nat) : Nat → List Nat → Steps → Steps
  | _, [], s => s
  | first, code :: codes, s =>
    let s := { s with step := s.step + (code - first) * (s.written + 1) }
    let s := text.foldl (Steps.pass plain code) s
    Steps.all text plain (code + 1) codes { s with step := s.step + 1 }

/-- The codes beyond ASCII of a text, ascending. -/
def codes (text : List Char) : List Nat :=
  (((text.map Char.toNat).filter (firstCode ≤ ·)).mergeSort (· ≤ ·)).eraseDups

/-- The plain characters of a text, and the steps to the others. -/
def encode (text : List Char) : List Char :=
  let plain := text.filter (·.toNat < firstCode)
  let steps := Steps.all text plain.length firstCode (codes text) ⟨[], 0, firstBias, plain.length⟩
  (if plain.isEmpty then [] else plain ++ ['-']) ++ steps.digits

/-! ### Reading -/

/-- The step that digits in front begin with, and the digits after it. Earlier digits of it make
`step`, and the next one counts `weight` times. -/
def readStep (bias place weight step : Nat) : List Char → Option (Nat × List Char)
  | [] => none
  | c :: rest =>
    match digitValue? c with
    | none => none
    | some value =>
      let step := step + value * weight
      let least := threshold place bias
      if value < least then some (step, rest)
      else readStep bias (place + 36) (weight * (36 - least)) step rest

/-- A step takes at least one digit. -/
theorem length_lt_of_readStep {bias place weight step found : Nat} {digits rest : List Char}
    (h : readStep bias place weight step digits = some (found, rest)) :
    rest.length < digits.length := by
  induction digits generalizing place weight step with
  | nil => simp [readStep] at h
  | cons c digits ih =>
    simp only [readStep] at h
    split at h
    · simp at h
    · split at h
      · simp only [Option.some.injEq, Prod.mk.injEq] at h
        simp [h.2]
      · exact Nat.lt_succ_of_lt (ih h)

/-- What is read. -/
structure Reading where
  /-- The codes. -/
  codes : List Nat
  /-- Whether all digits were read, and led to codes that there are. -/
  isWhole : Bool

/-- Digits add codes to others. The last code, the place behind it and what the next step is
measured by are given, and whether that step is the first one. -/
def readFrom (r : Reading) (code place bias : Nat) (isFirst : Bool) (digits : List Char) :
    Reading :=
  if digits.isEmpty then r
  else
    match h : readStep bias 36 1 0 digits with
    | none => { r with isWhole := false }
    | some (step, rest) =>
      let points := r.codes.length + 1
      let last := code + (place + step) / points
      let place := (place + step) % points
      let isCode := last < 0x110000
      let next := if isCode then last else '?'.toNat
      readFrom ⟨r.codes.take place ++ next :: r.codes.drop place, r.isWhole && isCode⟩ next
        (place + 1) (nextBias step points isFirst) false rest
  termination_by digits.length
  decreasing_by exact length_lt_of_readStep h

/-- The codes that digits add to plain characters. -/
def decode (plain : List Nat) (digits : List Char) : Reading :=
  readFrom ⟨plain, true⟩ firstCode 0 firstBias true digits

/-- The plain characters and the digits of what is written: digits follow the last hyphen. -/
def parts {α : Type} [BEq α] (hyphen : α) (written : List α) : List α × List α :=
  let digits := (written.reverse.takeWhile (! · == hyphen)).reverse
  (written.take (written.length - digits.length - 1), digits)

end Punycode

end ApiTools
