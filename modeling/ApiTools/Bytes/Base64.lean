/-!
# Base 64

Three bytes are four characters of an alphabet of 64. What is left over at the end is filled up with
equals signs. Reading passes over characters that are not in the alphabet, and ends at the signs
that fill up a group.

## Main definitions

* `Base64.encode` — the text of bytes.
* `Base64.decode?` — the bytes of a text.
-/

namespace ApiTools

namespace Base64

/-- The character of a number below 64. -/
def digit (n : Nat) : Char :=
  if n < 26 then Char.ofNat (65 + n)
  else if n < 52 then Char.ofNat (97 + (n - 26))
  else if n < 62 then Char.ofNat (48 + (n - 52))
  else if n = 62 then '+'
  else '/'

/-- The number of a character of the alphabet. -/
def digitValue? (c : Char) : Option Nat :=
  if 'A' ≤ c ∧ c ≤ 'Z' then some (c.toNat - 65)
  else if 'a' ≤ c ∧ c ≤ 'z' then some (c.toNat - 97 + 26)
  else if '0' ≤ c ∧ c ≤ '9' then some (c.toNat - 48 + 52)
  else if c = '+' then some 62
  else if c = '/' then some 63
  else none

/-- The text of bytes. -/
def encode : List UInt8 → List Char
  | [] => []
  | [a] => [digit (a.toNat / 4), digit (a.toNat % 4 * 16), '=', '=']
  | [a, b] =>
    [digit (a.toNat / 4), digit (a.toNat % 4 * 16 + b.toNat / 16), digit (b.toNat % 16 * 4), '=']
  | a :: b :: c :: rest =>
    digit (a.toNat / 4) :: digit (a.toNat % 4 * 16 + b.toNat / 16)
      :: digit (b.toNat % 16 * 4 + c.toNat / 64) :: digit (c.toNat % 64) :: encode rest

/-- The bytes of a text after some characters of a group: `seen` of them, whose last bits are
`left`, and after that `signs` equals signs. A group must not be left open at the end. -/
def decodeFrom (seen left signs : Nat) : List Char → Option (List UInt8)
  | [] => if seen = 0 then some [] else none
  | c :: s =>
    if c = '=' then
      if 2 ≤ seen then
        if 4 ≤ seen + signs + 1 then some [] else decodeFrom seen left (signs + 1) s
      else decodeFrom seen left signs s
    else
      match digitValue? c with
      | none => decodeFrom seen left signs s
      | some n =>
        match seen with
        | 0 => decodeFrom 1 n 0 s
        | 1 => (decodeFrom 2 (n % 16) 0 s).map ((left * 4 + n / 16).toUInt8 :: ·)
        | 2 => (decodeFrom 3 (n % 4) 0 s).map ((left * 16 + n / 4).toUInt8 :: ·)
        | _ => (decodeFrom 0 0 0 s).map ((left * 64 + n).toUInt8 :: ·)

/-- The bytes of a text. -/
def decode? (text : List Char) : Option (List UInt8) := decodeFrom 0 0 0 text

end Base64

end ApiTools
