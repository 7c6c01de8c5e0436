import ApiTools.Text.CodePoint
import ApiTools.Text.Printable

/-!
# Quoted text

A text is quoted between single quotes, or between double quotes if it holds a single quote and no
double one. Inside, the backslash and the quote in use are escaped, line feed, carriage return
and tab have letters, and every other code point that is not printable is written by its code, a
half of a pair among them.

## Main definitions

* `Text.hex` — a number in hexadecimal digits of a given width.
* `Text.quoted` — the quoted form.
-/

namespace ApiTools

namespace Text

/-- A number in lower-case hexadecimal digits, with zeros in front up to a width. -/
def hex (width n : Nat) : List Char :=
  let digits := Nat.toDigits 16 n
  List.replicate (width - digits.length) '0' ++ digits

/-- The quote for a text. -/
def quoteFor (s : List Char) : Char :=
  if s.contains '\'' && !s.contains '"' then '"' else '\''

/-- One character between quotes. -/
def escaped (quote c : Char) : List Char :=
  if c = quote ∨ c = '\\' then ['\\', c]
  else if c = '\n' then ['\\', 'n']
  else if c = '\r' then ['\\', 'r']
  else if c = '\t' then ['\\', 't']
  else if isPrintable c then [c]
  else if c.toNat < 0x100 then '\\' :: 'x' :: hex 2 c.toNat
  else if c.toNat < 0x10000 then '\\' :: 'u' :: hex 4 c.toNat
  else '\\' :: 'U' :: hex 8 c.toNat

/-- One code point between quotes. -/
def escapedPoint (quote : Char) : CodePoint → List Char
  | .char c => escaped quote c
  | .half n => '\\' :: 'u' :: hex 4 (CodePoint.half n).code
  | .stray => [CodePoint.sign]

/-- A text between quotes. -/
def quoted (s : List Char) : List Char :=
  let quote := quoteFor s
  quote :: ((codePoints s).flatMap (escapedPoint quote) ++ [quote])

end Text

end ApiTools
