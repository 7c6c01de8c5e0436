import ApiTools.Bytes.PrefixCode

/-!
# Compressed bytes

Compressed bytes are blocks of bits. A block holds bytes as they are, or symbols of two prefix
codes: a byte, the end of the block, or a length that goes with a distance, for bytes that stood
that far back. The codes are fixed ones or stand at the front of the block. Bits may end before the
last block does; what was read up to there counts.

## Main definitions

* `Inflated` — the bytes read, and how reading ended.
* `Inflated.ofBits` — the bytes of blocks.
-/

namespace ApiTools

/-- What reading comes to. -/
structure Inflated where
  /-- The bytes. -/
  output : Array UInt8
  /-- The bits after the last block, or why reading came to an end before it. -/
  ending : Except Bits.Stop Bits

namespace Inflated

/-! ### Symbols -/

/-- The least length of each symbol of a length, and how many bits add to it. -/
def lengths : List (Nat × Nat) :=
  [(3, 0), (4, 0), (5, 0), (6, 0), (7, 0), (8, 0), (9, 0), (10, 0), (11, 1), (13, 1), (15, 1),
   (17, 1), (19, 2), (23, 2), (27, 2), (31, 2), (35, 3), (43, 3), (51, 3), (59, 3), (67, 4),
   (83, 4), (99, 4), (115, 4), (131, 5), (163, 5), (195, 5), (227, 5), (258, 0)]

/-- The least distance of each symbol of a distance, and how many bits add to it. -/
def distances : List (Nat × Nat) :=
  [(1, 0), (2, 0), (3, 0), (4, 0), (5, 1), (7, 1), (9, 2), (13, 2), (17, 3), (25, 3), (33, 4),
   (49, 4), (65, 5), (97, 5), (129, 6), (193, 6), (257, 7), (385, 7), (513, 8), (769, 8), (1025, 9),
   (1537, 9), (2049, 10), (3073, 10), (4097, 11), (6145, 11), (8193, 12), (12289, 12), (16385, 13),
   (24577, 13)]

/-- A number of a table: the least one of a symbol and the bits that add to it. -/
def measured (table : List (Nat × Nat)) (symbol : Nat) (bits : Bits) :
    Except Bits.Stop (Nat × Bits) := do
  match table[symbol]? with
  | some (least, extra) =>
    let (more, bits) ← bits.number extra
    return (least + more, bits)
  | none => throw .corrupt

/-- The two codes of a block. -/
structure Codes where
  /-- The code of bytes, of the end and of lengths. -/
  main : PrefixCode
  /-- The code of distances. -/
  distance : PrefixCode

/-- The bytes followed by as many that stand a distance back. -/
def repeated (output : Array UInt8) (distance : Nat) : Nat → Array UInt8
  | 0 => output
  | n + 1 => repeated (output.push (output[output.size - distance]?.getD 0)) distance n

/-- The length that a symbol stands for, and the distance after it. -/
def copied (codes : Codes) (symbol : Nat) (bits : Bits) :
    Except Bits.Stop (Nat × Nat × Bits) := do
  let (length, bits) ← measured lengths (symbol - 257) bits
  let (symbol, bits) ← codes.distance.read bits
  let (distance, bits) ← measured distances symbol bits
  return (length, distance, bits)

/-- The bytes with those of a block, up to its end. Each symbol takes a bit at least. -/
def symbols (codes : Codes) : Nat → Array UInt8 → Bits → Inflated
  | 0, output, _ => ⟨output, .error .short⟩
  | fuel + 1, output, bits =>
    match codes.main.read bits with
    | .error stop => ⟨output, .error stop⟩
    | .ok (symbol, bits) =>
      if symbol < 256 then symbols codes fuel (output.push symbol.toUInt8) bits
      else if symbol = 256 then ⟨output, .ok bits⟩
      else
        match copied codes symbol bits with
        | .error stop => ⟨output, .error stop⟩
        | .ok (length, distance, bits) =>
          if output.size < distance then ⟨output, .error .corrupt⟩
          else symbols codes fuel (repeated output distance length) bits

/-! ### Codes -/

/-- The lengths of the words of the fixed code. -/
def fixedLengths : List Nat :=
  List.replicate 144 8 ++ List.replicate 112 9 ++ List.replicate 24 7 ++ List.replicate 8 8

/-- The fixed codes. -/
def fixedCodes : Except Bits.Stop Codes :=
  match PrefixCode.ofLengths? fixedLengths false,
    PrefixCode.ofLengths? (List.replicate 32 5) false with
  | some main, some distance => .ok ⟨main, distance⟩
  | _, _ => .error .corrupt

/-- The symbols of the code of lengths, in the order in which their own lengths stand. -/
def lengthOrder : List Nat := [16, 17, 18, 0, 8, 7, 9, 6, 10, 5, 11, 4, 12, 3, 13, 2, 14, 1, 15]

/-- As many numbers of three bits as asked for. -/
def triples : Nat → Bits → Except Bits.Stop (List Nat × Bits)
  | 0, bits => .ok ([], bits)
  | n + 1, bits => do
    let (first, bits) ← bits.number 3
    let (others, bits) ← triples n bits
    return (first :: others, bits)

/-- The length that a symbol repeats, how often at least, and how many bits add to that. -/
def repetition (before : List Nat) (symbol : Nat) : Option Nat × Nat × Nat :=
  if symbol < 16 then (some symbol, 1, 0)
  else if symbol = 16 then (before.head?, 3, 2)
  else if symbol = 17 then (some 0, 3, 3)
  else (some 0, 11, 7)

/-- The lengths of words, in reverse, until there are `total` of them. Each symbol adds one at
least. -/
def wordLengths (code : PrefixCode) (total : Nat) :
    Nat → List Nat → Bits → Except Bits.Stop (List Nat × Bits)
  | 0, done, bits => if done.length = total then .ok (done, bits) else .error .corrupt
  | fuel + 1, done, bits =>
    if total ≤ done.length then .ok (done, bits)
    else do
      let (symbol, bits) ← code.read bits
      let (length, least, extra) := repetition done symbol
      let (more, bits) ← bits.number extra
      match length with
      | none => throw .corrupt
      | some length =>
        let count := least + more
        if total < done.length + count then throw .corrupt
        else wordLengths code total fuel (List.replicate count length ++ done) bits

/-- The codes at the front of a block, written by the lengths of their words, which are themselves
symbols of a code. -/
def ownCodes (bits : Bits) : Except Bits.Stop (Codes × Bits) := do
  let (mainCount, bits) ← bits.number 5
  let (distanceCount, bits) ← bits.number 5
  let (lengthCount, bits) ← bits.number 4
  if 29 < mainCount ∨ 29 < distanceCount then throw .corrupt
  let (given, bits) ← triples (lengthCount + 4) bits
  let lengthOf := fun symbol => ((lengthOrder.zip given).lookup symbol).getD 0
  match PrefixCode.ofLengths? ((List.range 19).map lengthOf) false with
  | none => throw .corrupt
  | some code =>
    let total := mainCount + 257 + (distanceCount + 1)
    let (reversed, bits) ← wordLengths code total total [] bits
    let all := reversed.reverse
    let main := all.take (mainCount + 257)
    if main[256]?.getD 0 = 0 then throw .corrupt
    match PrefixCode.ofLengths? main true,
      PrefixCode.ofLengths? (all.drop (mainCount + 257)) true with
    | some main, some distance => return (⟨main, distance⟩, bits)
    | _, _ => throw .corrupt

/-! ### Blocks -/

/-- A byte of eight bits. -/
def byteOf (bits : Bits) : UInt8 :=
  (bits.foldr (fun (b : Bool) (n : Nat) => 2 * n + b.toNat) 0).toUInt8

/-- The bytes with as many plain ones as asked for. -/
def plain : Nat → Array UInt8 → Bits → Inflated
  | 0, output, bits => ⟨output, .ok bits⟩
  | n + 1, output, bits =>
    if bits.isEmpty then ⟨output, .error .short⟩
    else plain n (output.push (byteOf (bits.take 8))) (bits.drop 8)

/-- The bytes with those of a block that holds them as they are: their number, the same number once
more with all bits turned over, and the bytes. -/
def plainBlock (output : Array UInt8) (bits : Bits) : Inflated :=
  let counts := do
    let (count, bits) ← bits.aligned.number 16
    let (turned, bits) ← bits.number 16
    return (count, turned, bits)
  match counts with
  | .error stop => ⟨output, .error stop⟩
  | .ok (count, turned, bits) =>
    if count + turned = 0xFFFF then plain count output bits else ⟨output, .error .corrupt⟩

/-- The bytes with those of a block of symbols. -/
def symbolBlock (output : Array UInt8) (codes : Except Bits.Stop (Codes × Bits)) : Inflated :=
  match codes with
  | .error stop => ⟨output, .error stop⟩
  | .ok (codes, bits) => symbols codes (bits.length + 1) output bits

/-- The bytes with those of a block of a kind. -/
def block (kind : Nat) (output : Array UInt8) (bits : Bits) : Inflated :=
  match kind with
  | 0 => plainBlock output bits
  | 1 => symbolBlock output (fixedCodes.map (·, bits))
  | 2 => symbolBlock output (ownCodes bits)
  | _ => ⟨output, .error .corrupt⟩

/-- The bytes with those of blocks, up to one that calls itself the last one. Each block takes three
bits at least. -/
def blocks : Nat → Array UInt8 → Bits → Inflated
  | 0, output, _ => ⟨output, .error .short⟩
  | fuel + 1, output, bits =>
    match bits.number 3 with
    | .error stop => ⟨output, .error stop⟩
    | .ok (head, bits) =>
      let one := block (head / 2) output bits
      match one.ending with
      | .error _ => one
      | .ok bits => if head % 2 = 1 then one else blocks fuel one.output bits

/-- The bytes of blocks. -/
def ofBits (bits : Bits) : Inflated := blocks (bits.length + 1) #[] bits

end Inflated

end ApiTools
