import ApiTools.Text.Blank
import ApiTools.Text.Digit
import ApiTools.Text.Quoted
import ApiTools.Text.Split
import ApiTools.Url.Label

/-!
# Hosts and ports

A host is a name, or an address in numbers: four of them with dots between, or up to eight
hexadecimal ones with colons between, in square brackets. What looks like an address in numbers has
to be one.

## Main definitions

* `Host.normal?` — the normal form of a host as it is written.
* `Host.port?` — the port that a text denotes.
-/

namespace ApiTools

namespace Host

/-! ### Characters -/

/-- Letters, digits and four signs stand for themselves everywhere. -/
def isPlain (c : Char) : Bool := c.isAlphanum || ['-', '.', '_', '~'].contains c

/-- The signs that stand for themselves in a name. -/
def nameSigns : List Char := "!$&'()*+,;=\"\x60\x7b\x7d%|\\".toList

/-- A byte as two upper-case hexadecimal digits after a percent sign. -/
def percentByte (b : UInt8) : List Char :=
  '%' :: (Text.hex 2 b.toNat).map Char.toUpper

/-- A text in which only some characters stand for themselves; all others are written by their
bytes. -/
def quoted (keep : Char → Bool) (s : List Char) : List Char :=
  s.flatMap fun c => if keep c then [c] else (String.utf8EncodeChar c).flatMap percentByte

/-! ### Addresses in numbers -/

/-- The places of a character after one in four runs of digits with any character between two runs.
A place is an odd number inside of a run, and an even one in front of it. -/
def stepPlaces (places : List Nat) (c : Char) : List Nat :=
  let next := fun (place : Nat) =>
    let digit := if c.isDigit then [if place % 2 = 0 then place + 1 else place] else []
    if place % 2 = 1 && place < 7 then (place + 1) :: digit else digit
  (places.flatMap next).eraseDups

/-- Whether a host looks like an address of four numbers. -/
def looksDotted (host : List Char) : Bool := (host.foldl stepPlaces [0]).contains 7

/-- Whether a text is one of the four numbers of an address. -/
def isOctet (s : List Char) : Bool :=
  !s.isEmpty && s.all Char.isDigit && s.length ≤ 3 && (s == ['0'] || s.head? != some '0')
    && (Text.naturalOf? s).any (· ≤ 255)

/-- Whether a text is an address of four numbers. -/
def isDotted (s : List Char) : Bool :=
  let parts := Text.split '.' s
  parts.length == 4 && parts.all isOctet

/-- Whether a text is one of the eight numbers of an address. -/
def isGroup (s : List Char) : Bool :=
  !s.isEmpty && s.all (Text.hexDigit? · |>.isSome) && s.length ≤ 4

/-- The parts of an address of eight numbers, where an address of four numbers at the end counts as
two. -/
def groups (s : List Char) : Option (List (List Char)) :=
  let parts := Text.split ':' s
  match parts.getLast? with
  | some last =>
    if parts.length < 3 then none
    else if last.contains '.' then
      if isDotted last then some (parts.dropLast ++ [['0'], ['0']]) else none
    else some parts
  | none => none

/-- Whether parts are eight numbers, or fewer with two colons in a row once, for the zeros that are
left out. -/
def areGroups (parts : List (List Char)) : Bool :=
  let inner := (parts.drop 1).dropLast
  let atFront := parts.head? == some []
  let atEnd := parts.getLast? == some []
  if parts.length > 9 || 1 < (inner.filter List.isEmpty).length then false
  else if inner.any List.isEmpty then
    let front := parts.takeWhile (! List.isEmpty ·)
    let gap := (parts.dropWhile (! List.isEmpty ·)).drop 1
    let gap := if atFront then gap.drop 1 else gap
    let back := if atEnd then gap.dropLast else gap
    let startsRight := !atFront || parts[1]? == some []
    let endsRight := !atEnd || parts[parts.length - 2]? == some []
    startsRight && endsRight && front.all isGroup && back.all isGroup
      && front.length + back.length < 8
  else parts.length == 8 && parts.all isGroup

/-- Whether a text is an address of eight numbers. A zone may follow it after a percent sign. -/
def isColoned (s : List Char) : Bool :=
  let (address, zone) := s.span (· != '%')
  let zoneFits := zone.isEmpty || (1 < zone.length && !(zone.drop 1).contains '%')
  zoneFits && !s.contains '/' && (groups address).any areGroups

/-! ### Normal forms -/

/-- The normal form of a host as it is written. -/
def normal? (host : List Char) : Option (List Char) :=
  if host.isEmpty then some []
  else if looksDotted host then if isDotted host then some host else none
  else if host.head? == some '[' && host.getLast? == some ']' then
    let address := (host.drop 1).dropLast
    if isColoned address then some address else none
  else if host.all (·.toNat < 128) then
    some (quoted (fun c => isPlain c || nameSigns.contains c) (host.map Char.toLower))
  else Label.hostName? (Text.lowered host)

/-- The port that a text denotes: digits with single underscores between them, and a sign and blanks
around. -/
def port? (text : List Char) : Option Int :=
  let (negative, body) := Text.splitSign (Text.trim text)
  let runs := Text.split '_' body
  let digits := runs.flatten
  if runs.any List.isEmpty || Text.maxDigits < digits.length then none
  else (Text.naturalOf? digits).map fun n => if negative then -(n : Int) else n

end Host

end ApiTools
