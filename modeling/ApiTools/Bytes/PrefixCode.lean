/-!
# Prefix codes

A prefix code gives symbols words of bits, none of which begins another one. It is known by the
lengths of its words alone: shorter words come first, and words of one length are in the order of
their symbols.

## Main definitions

* `PrefixCode.ofLengths?` — the code with words of given lengths.
* `PrefixCode.read` — the symbol at the front of bits.
-/

namespace ApiTools

/-- Bits in the order in which they are read. -/
abbrev Bits := List Bool

namespace Bits

/-- Why reading comes to an end. -/
inductive Stop where
  /-- There are too few bits. -/
  | short
  /-- The bits are not as they have to be. -/
  | corrupt
  deriving DecidableEq

/-- The bits of bytes, of each byte the lowest one first. -/
def ofBytes (bytes : List UInt8) : Bits := bytes.flatMap fun b => (List.range 8).map b.toNat.testBit

/-- A number of a given count of bits, the lowest one first, and the bits after it. -/
def number : Nat → Bits → Except Stop (Nat × Bits)
  | 0, bits => .ok (0, bits)
  | _ + 1, [] => .error .short
  | n + 1, b :: bits => (number n bits).map fun r => (2 * r.1 + b.toNat, r.2)

/-- The bits from the next whole byte on. -/
def aligned (bits : Bits) : Bits := bits.drop (bits.length % 8)

end Bits

/-- A code known by the lengths of its words. -/
structure PrefixCode where
  /-- How many words there are of each length, from one on. -/
  counts : List Nat
  /-- The symbols in the order of their words. -/
  symbols : Array Nat

namespace PrefixCode

/-- The words that are left unused at the greatest length: each length has twice the words that are
left at the one before it. There is no such number if too many words are used. -/
def unused (left : Nat) : List Nat → Option Nat
  | [] => some left
  | count :: counts => if 2 * left < count then none else unused (2 * left - count) counts

/-- The code with words of given lengths, one for each symbol; a symbol of length zero has none. All
words have to be used, but a code of at most one word, of one bit, may be `sparse`. -/
def ofLengths? (lengths : List Nat) (sparse : Bool) : Option PrefixCode :=
  let longest := lengths.foldl max 0
  let counts := (List.range longest).map fun i => lengths.count (i + 1)
  let symbols := (List.range longest).flatMap fun i =>
    (lengths.zipIdx.filter (·.1 == i + 1)).map (·.2)
  match unused 1 counts with
  | none => none
  | some left =>
    if longest = 0 then some (if sparse then ⟨[0], #[]⟩ else ⟨[2], #[0, 0]⟩)
    else if left = 0 ∨ (sparse ∧ longest = 1) then some ⟨counts, symbols.toArray⟩
    else none

/-- The place of the word at the front of bits among all words. Before it there are `index` words
that are shorter than the bits read so far, which make the number `word`; the first word of their
length has the number `first`. -/
def placeFrom (word first index : Nat) : List Nat → Bits → Except Bits.Stop (Nat × Bits)
  | [], _ => .error .corrupt
  | _ :: _, [] => .error .short
  | count :: counts, b :: bits =>
    let word := 2 * word + b.toNat
    if word < first + count then .ok (index + (word - first), bits)
    else placeFrom word (2 * (first + count)) (index + count) counts bits

/-- The symbol at the front of bits, and the bits after it. -/
def read (code : PrefixCode) (bits : Bits) : Except Bits.Stop (Nat × Bits) := do
  let (place, bits) ← placeFrom 0 0 0 code.counts bits
  match code.symbols[place]? with
  | some symbol => return (symbol, bits)
  | none => throw .corrupt

end PrefixCode

end ApiTools
