import ApiTools.Url.Label.Mark

/-!
# Directions of writing in labels

Letters are written to the right or to the left; digits, marks and signs take their direction from
what is around them. A label with letters that are written to the left begins with one, has none
that are written to the right, ends in one or in a digit, and has only one kind of digits.

## Main definitions

* `Direction` — how a character is written.
* `Label.directionsFit` — whether the characters of a label go together.
-/

namespace ApiTools

/-- How a character is written. -/
inductive Direction where
  /-- From the left to the right. -/
  | rightward
  /-- From the right to the left. -/
  | leftward
  /-- A digit among letters that are written to the left. -/
  | arabicDigit
  /-- Any other digit. -/
  | digit
  /-- Like the character in front of it. -/
  | mark
  /-- Like what is around it. -/
  | neutral
  deriving DecidableEq

namespace Label

/-- The letters of labels that are written to the left. -/
def leftwardRanges : Text.Ranges :=
  [(0x5D0, 0x5F4), (0x620, 0x64A), (0x66E, 0x66F), (0x671, 0x6D5), (0x6E5, 0x6E6), (0x6EE, 0x6EF),
   (0x6FA, 0x710), (0x712, 0x72F), (0x74D, 0x7A5), (0x7B1, 0x7EA), (0x7F4, 0x7F5), (0x800, 0x815),
   (0x81A, 0x81A), (0x824, 0x824), (0x828, 0x828), (0x840, 0x858), (0x860, 0x88E), (0x8A0, 0x8C9),
   (0xFE73, 0xFE73), (0x10800, 0x10A00), (0x10A10, 0x10A35), (0x10A60, 0x10AE4), (0x10B00, 0x10D23),
   (0x10E80, 0x10EA9), (0x10EB0, 0x10F45), (0x10F70, 0x10F81), (0x10FB0, 0x10FF6),
   (0x1E800, 0x1E8C4), (0x1E922, 0x1E943), (0x1E94B, 0x1E959)]

/-- The digits of labels among letters that are written to the left. -/
def arabicDigitRanges : Text.Ranges := [(0x660, 0x669), (0x10D30, 0x10D39)]

/-- The other digits. -/
def digitRanges : Text.Ranges := [(0x30, 0x39), (0x6F0, 0x6F9)]

/-- The signs of labels that have no direction. -/
def neutralRanges : Text.Ranges :=
  [(0x2D, 0x2D), (0xB7, 0xB7), (0x2B9, 0x2BA), (0x2C6, 0x2CF), (0x2EC, 0x2EC), (0x375, 0x375),
   (0x200C, 0x200D), (0x2E2F, 0x2E2F), (0x30FB, 0x30FB), (0xA67F, 0xA67F), (0xA717, 0xA71F),
   (0xA788, 0xA788)]

/-- The marks without room of their own that are written to the right like letters. -/
def rightwardMarks : List Nat := [0xCBF, 0xCC6, 0x11A07, 0x11A08, 0x11C3F]

/-- How a character of a label is written. -/
def direction (c : Char) : Direction :=
  if Text.inRanges leftwardRanges c.toNat then .leftward
  else if Text.inRanges arabicDigitRanges c.toNat then .arabicDigit
  else if Text.inRanges digitRanges c.toNat then .digit
  else if Text.inRanges neutralRanges c.toNat then .neutral
  else if isNonSpacing c && !rightwardMarks.contains c.toNat then .mark
  else .rightward

/-- Whether the characters of a label go together. -/
def directionsFit (label : List Char) : Bool :=
  let directions := label.map direction
  let last := (directions.filter (· != .mark)).getLast?
  if !directions.contains .leftward && !directions.contains .arabicDigit then true
  else
    directions.head? == some .leftward && !directions.contains .rightward
      && last.any [.leftward, .arabicDigit, .digit].contains
      && !(directions.contains .arabicDigit && directions.contains .digit)

end Label

end ApiTools
