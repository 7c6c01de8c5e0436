import ApiTools.Bytes.Inflate

/-!
# Wrappers of compressed bytes

Compressed bytes come bare or in a wrapper: a short one whose sum of the bytes is in two parts, and
a long one with names, a checksum and the length. What is missing at the end is let pass, but what
is there has to agree.

## Main definitions

* `Wrapper.short`, `Wrapper.long` — the bytes in each of the wrappers.
* `Wrapper.bytes?` — the bytes of what was read, unless it was corrupt.
-/

namespace ApiTools

namespace Wrapper

/-! ### Checksums -/

/-- The sum of bytes in two parts: of the bytes, and of all such sums on the way. -/
def twofoldSum (bytes : List UInt8) : Nat :=
  let (sum, sums) := bytes.foldl
    (fun (s : Nat × Nat) b =>
      let sum := (s.1 + b.toNat) % 65521
      (sum, (s.2 + sum) % 65521)) (1, 0)
  sums * 65536 + sum

/-- One step of a division of polynomials over bits. -/
def divided (n : Nat) : Nat := if n % 2 = 1 then (n / 2) ^^^ 0xEDB88320 else n / 2

/-- The remainder that bytes leave in a division of polynomials over bits. -/
def remainder (bytes : List UInt8) : Nat :=
  bytes.foldl (fun n b => (List.range 8).foldl (fun n _ => divided n) (n ^^^ b.toNat)) 0xFFFFFFFF
    ^^^ 0xFFFFFFFF

/-! ### Wrappers -/

/-- A number of bytes, the one that counts least first, and the bytes after it. -/
def number (count : Nat) (bytes : List UInt8) : Except Bits.Stop (Nat × List UInt8) :=
  if bytes.length < count then .error .short
  else .ok ((bytes.take count).foldr (fun b n => n * 256 + b.toNat) 0, bytes.drop count)

/-- Nothing but the reason why reading came to an end. -/
def stopped (stop : Bits.Stop) : Inflated := ⟨#[], .error stop⟩

/-- The bytes of blocks with a test of what comes after them. -/
def tested (bytes : List UInt8)
    (test : List UInt8 → List UInt8 → Except Bits.Stop Unit) : Inflated :=
  let inflated := Inflated.ofBits (Bits.ofBytes bytes)
  match inflated.ending with
  | .error _ => inflated
  | .ok rest =>
    match test inflated.output.toList (bytes.drop (bytes.length - rest.aligned.length / 8)) with
    | .ok _ => inflated
    | .error stop => ⟨inflated.output, .error stop⟩

/-- The bytes in the short wrapper: two bytes that make a multiple of 31 and name the method, the
blocks, and the twofold sum. Bytes that build on others known before are not read. -/
def short : List UInt8 → Inflated
  | a :: b :: bytes =>
    let (method, flags) := (a.toNat, b.toNat)
    if (method * 256 + flags) % 31 ≠ 0 ∨ method % 16 ≠ 8 ∨ 7 < method / 16 then stopped .corrupt
    else if flags.testBit 5 then stopped (if bytes.length < 4 then .short else .corrupt)
    else
      tested bytes fun output rest => do
        let (sum, _) ← number 4 (rest.take 4).reverse
        if sum ≠ twofoldSum output then throw .corrupt
  | _ => stopped .short

/-- The bytes after a text that ends in zero. -/
def afterText (bytes : List UInt8) : Except Bits.Stop (List UInt8) :=
  match bytes.dropWhile (· != 0) with
  | _ :: rest => .ok rest
  | [] => .error .short

/-- The bytes after the front of the long wrapper. -/
def afterFront (all : List UInt8) : Except Bits.Stop (List UInt8) := do
  let (mark, bytes) ← number 2 all
  if mark ≠ 0x8B1F then throw .corrupt
  let (methodAndFlags, bytes) ← number 2 bytes
  let flags := methodAndFlags / 256
  if methodAndFlags % 256 ≠ 8 ∨ 0x20 ≤ flags then throw .corrupt
  let (_, bytes) ← number 4 bytes
  let (_, bytes) ← number 2 bytes
  let bytes ← if flags.testBit 2 then do
      let (size, bytes) ← number 2 bytes
      let (_, bytes) ← number size bytes
      pure bytes
    else pure bytes
  let bytes ← if flags.testBit 3 then afterText bytes else pure bytes
  let bytes ← if flags.testBit 4 then afterText bytes else pure bytes
  if flags.testBit 1 then
    let (sum, rest) ← number 2 bytes
    if sum ≠ remainder (all.take (all.length - bytes.length)) % 65536 then throw .corrupt
    return rest
  else return bytes

/-- The bytes in the long wrapper: the front, the blocks, the remainder of the bytes and their
number. -/
def long (all : List UInt8) : Inflated :=
  match afterFront all with
  | .error stop => stopped stop
  | .ok bytes =>
    tested bytes fun output rest => do
      let (sum, rest) ← number 4 rest
      if sum ≠ remainder output then throw .corrupt
      let (size, _) ← number 4 rest
      if size ≠ output.length % 0x100000000 then throw .corrupt

/-- The bytes of what was read, unless it was corrupt. -/
def bytes? (inflated : Inflated) : Option (List UInt8) :=
  match inflated.ending with
  | .error .corrupt => none
  | _ => some inflated.output.toList

end Wrapper

end ApiTools
