import ApiTools.Bytes.Base64
import ApiTools.Fault
import ApiTools.Text.CharsetTable
import ApiTools.Text.Escape
import ApiTools.Text.Iso2022
import ApiTools.Text.Multibyte
import ApiTools.Text.Punycode

/-!
# Sets of characters

A set of characters tells what text bytes are. Sets go by names, written in any case and with any
signs between their parts. Some names are known but are not those of sets: nothing is read with
them.

## Main definitions

* `Charset` — how bytes are read.
* `Charset.named?` — the set of a name.
* `Charset.read` — the text of bytes, with a sign for each piece that is no code point.
-/

namespace ApiTools

/-- How bytes are read as a text. -/
inductive Charset where
  /-- Each byte is a letter. -/
  | letters (table : String)
  /-- Characters of one or more bytes. -/
  | multibyte (set : Multibyte)
  /-- Several sets, with escape sequences between them. -/
  | iso2022
  /-- Latin-1, with escapes for all other characters, in the full form or in the plain one. -/
  | escaped (full : Bool)
  /-- Plain characters, with steps to all others after the last hyphen. -/
  | punycode
  /-- Characters of one to four bytes, with or without a mark in front that is left out. -/
  | utf8 (marked : Bool)
  /-- Printable characters, with runs in base 64 for all others. -/
  | utf7
  /-- Units of sixteen bits; without an order a mark in front gives it. -/
  | utf16 (order : Option Unicode.ByteOrder)
  /-- Units of thirty-two bits; without an order a mark in front gives it. -/
  | utf32 (order : Option Unicode.ByteOrder)
  /-- A name that is no set of characters, and what comes of reading with it. -/
  | unreadable (fault : Fault)

namespace Charset

/-! ### Names -/

/-- The parts of a name, written small, of letters, digits and dots. -/
def nameParts (name : List Char) : List (List Char) :=
  let isPart := fun (c : Char) => c.isAlphanum || c == '.'
  (name.splitBy fun c d => isPart c == isPart d).filter (·.all isPart) |>.map (·.map Char.toLower)

/-- A name with its parts joined by underscores. -/
def plainName (name : String) : String :=
  "_".intercalate ((nameParts name.toList).map String.ofList)

/-- The letters of ASCII. -/
def asciiLetters : String := String.ofList ((List.range 128).map Char.ofNat)

/-- A set that agrees with ASCII on the bytes below 128. -/
def withAscii (upper : String) : Charset := .letters (asciiLetters ++ upper)

/-- The letters of Latin-1: each byte is a code. -/
def latinLetters : String := String.ofList ((List.range 256).map Char.ofNat)

/-- The sets of Unicode and the oldest ones, with the name of each and its further names. -/
def generalSets : List (String × List String × Charset) :=
  [("utf_8", ["u8", "utf", "utf8", "utf8_ucs2", "utf8_ucs4", "cp65001"], .utf8 false),
   ("utf_8_sig", [], .utf8 true),
   ("utf_7", ["u7", "utf7", "unicode_1_1_utf_7"], .utf7),
   ("utf_16", ["u16", "utf16"], .utf16 none),
   ("utf_16_be", ["utf_16be", "unicodebigunmarked"], .utf16 (some .big)),
   ("utf_16_le", ["utf_16le", "unicodelittleunmarked"], .utf16 (some .little)),
   ("utf_32", ["u32", "utf32"], .utf32 none),
   ("utf_32_be", ["utf_32be"], .utf32 (some .big)),
   ("utf_32_le", ["utf_32le"], .utf32 (some .little)),
   ("ascii", ["646", "ansi_x3.4_1968", "ansi_x3_4_1968", "ansi_x3.4_1986", "cp367", "csascii",
      "ibm367", "iso646_us", "iso_646.irv_1991", "iso_ir_6", "us", "us_ascii"], withAscii ""),
   ("latin_1", ["8859", "cp819", "csisolatin1", "ibm819", "iso8859", "iso8859_1", "iso_8859_1",
      "iso_8859_1_1987", "iso_ir_100", "l1", "latin", "latin1"], .letters latinLetters),
   ("iso2022_jp", ["csiso2022jp", "iso2022jp", "iso_2022_jp"], .iso2022),
   ("iso8859_1", [], .letters latinLetters), ("charmap", [], .letters latinLetters),
   ("raw_unicode_escape", [], .escaped false), ("unicode_escape", [], .escaped true),
   ("punycode", [], .punycode)]

/-- The sets of East Asia. -/
def asianSets : List (String × List String × Multibyte) :=
  [("big5", ["big5_tw", "csbig5", "x_mac_trad_chinese"], .big5),
   ("cp932", ["932", "ms932", "ms_kanji", "mskanji"], .cp932),
   ("cp949", ["949", "ms949", "uhc"], .cp949),
   ("cp950", ["950", "ms950"], .cp950),
   ("euc_jp", ["eucjp", "u_jis", "ujis"], .eucJp),
   ("euc_kr", ["euckr", "korean", "ks_c_5601", "ks_c_5601_1987", "ks_x_1001", "ksc5601",
      "ksx1001", "x_mac_korean"], .eucKr),
   ("gb18030", ["gb18030_2000"], .gb18030),
   ("gb2312", ["chinese", "csiso58gb231280", "euc_cn", "euccn", "eucgb2312_cn", "gb2312_1980",
      "gb2312_80", "iso_ir_58", "x_mac_simp_chinese"], .gb2312),
   ("gbk", ["936", "cp936", "ms936"], .gbk),
   ("shift_jis", ["csshiftjis", "s_jis", "shiftjis", "sjis", "x_mac_japanese"], .shiftJis)]

/-- The names of other codings than sets of characters. -/
def otherCodings : List (String × List String × Charset) :=
  [("base64_codec", ["base64", "base_64"], .unreadable .notAText),
   ("bz2_codec", ["bz2"], .unreadable .notAText),
   ("hex_codec", ["hex"], .unreadable .notAText),
   ("quopri_codec", ["quopri", "quoted_printable", "quotedprintable"], .unreadable .notAText),
   ("uu_codec", ["uu"], .unreadable .notAText),
   ("zlib_codec", ["zip", "zlib"], .unreadable .notAText),
   ("rot_13", ["rot13"], .unreadable .illTyped),
   ("idna", [], .unreadable .noByteOrder), ("undefined", [], .unreadable .noByteOrder)]

/-- All names. -/
def all : List (String × List String × Charset) :=
  generalSets ++ otherCodings ++ asianSets.map (fun s => (s.1, s.2.1, .multibyte s.2.2))
    ++ upperHalves.map (fun s => (s.1, s.2.1, withAscii (String.join s.2.2)))
    ++ wholeSets.map (fun s => (s.1, s.2.1, .letters (String.join s.2.2)))

/-- A name without dots. -/
def undotted (name : String) : String :=
  String.ofList (name.toList.map fun c => if c == '.' then '_' else c)

/-- The set of a name. Dots between parts are let pass in a further name only. -/
def named? (name : String) : Option Charset :=
  let plain := plainName name
  let isIt := fun (s : String × List String × Charset) =>
    s.1 == plain || s.2.1.contains plain || s.2.1.contains (undotted plain)
  (all.find? isIt).map (·.2.2)

/-! ### Reading -/

/-- The letters of single bytes. -/
def lettersOf (table : String) (bytes : List UInt8) : Unicode.Pieces :=
  let letters := table.toList.toArray
  bytes.map fun b => letters[b.toNat]?.map .char

/-- A run in base 64 that is being read: bits of it that make no unit yet, as a number, and the
first half of a pair that waits for the second one. -/
structure Run where
  /-- How many bits are left over. -/
  bits : Nat
  /-- The number that they make. -/
  rest : Nat
  /-- The first half of a pair. -/
  high : Option Nat

/-- The half that waits, where no second one comes. -/
def Run.before (run : Run) : Unicode.Pieces :=
  (run.high.map fun unit => some (.ofCode unit)).toList

/-- A run goes on with a digit of six bits. -/
def Run.push (run : Run) (digit : Nat) : Unicode.Pieces × Run :=
  let bits := run.bits + 6
  let rest := run.rest * 64 + digit
  if bits < 16 then ([], { run with bits, rest })
  else
    let size := Nat.pow 2 (bits - 16)
    let unit := rest / size
    let next : Option Nat → Run := fun high => ⟨bits - 16, rest % size, high⟩
    match run.high, isLowHalf unit with
    | some first, true => ([some (pairChar first unit)], next none)
    | _, _ =>
      if isHighHalf unit then (run.before, next (some unit))
      else (run.before ++ [some (.ofCode unit)], next none)

/-- Whether a run may not end where it is: a digit or bits of one are left over. -/
def Run.isCut (run : Run) : Bool := 6 ≤ run.bits || run.rest != 0

/-- Where a reader is: outside of runs, after a plus sign, or in a run. -/
inductive Shift where
  /-- Outside of runs. -/
  | outside
  /-- After the plus sign that opens a run. -/
  | opened
  /-- In a run. -/
  | inside (run : Run)

/-- A byte outside of runs. -/
def outsideStep (b : UInt8) : Unicode.Pieces × Shift :=
  if b = 43 then ([], .opened)
  else if b < 128 then ([some (Char.ofNat b.toNat)], .outside)
  else ([none], .outside)

/-- A byte that ends a run: a hyphen is left out, and every other one stands for itself. -/
def endStep (run : Run) (b : UInt8) : Unicode.Pieces × Shift :=
  if run.isCut then ([none], .outside)
  else
    let before := if b < 128 then run.before else []
    if b = 45 then (before, .outside) else (before ++ (outsideStep b).1, .outside)

/-- A byte in any place. A hyphen right after a plus sign makes that sign stand for itself. -/
def shiftStep (shift : Shift) (b : UInt8) : Unicode.Pieces × Shift :=
  match shift, Base64.digitValue? (Char.ofNat b.toNat) with
  | .outside, _ => outsideStep b
  | .opened, some digit =>
    let (pieces, run) := Run.push ⟨0, 0, none⟩ digit
    (pieces, .inside run)
  | .opened, none => (if b = 45 then [some '+'] else [none], .outside)
  | .inside run, some digit =>
    let (pieces, run) := run.push digit
    (pieces, .inside run)
  | .inside run, none => endStep run b

/-- What is missing at the end. -/
def Shift.atEnd : Shift → Unicode.Pieces
  | .inside run => if run.isCut || run.high.isSome then [none] else []
  | _ => []

/-- The code points of bytes, printable ones and runs, from a place on. -/
def utf7From (shift : Shift) : List UInt8 → Unicode.Pieces
  | [] => shift.atEnd
  | b :: bytes =>
    let (pieces, next) := shiftStep shift b
    pieces ++ utf7From next bytes

/-- The mark in front of bytes in UTF-8. -/
def mark8 : List UInt8 := [0xEF, 0xBB, 0xBF]

/-- The rest after bytes in front. -/
def after? (front bytes : List UInt8) : Option (List UInt8) :=
  if front.isPrefixOf bytes then some (bytes.drop front.length) else none

/-- The code points of units that have an order or a mark in front. Without both there is nothing to
read them by, but bytes that are less than a unit are a gap all the same. -/
def readUnits (size : Nat) (read : Unicode.ByteOrder → List UInt8 → Unicode.Pieces)
    (order : Option Unicode.ByteOrder) (bytes : List UInt8) : Except Fault Unicode.Pieces :=
  let littleMark := 0xFF :: 0xFE :: List.replicate (size - 2) 0
  match order, after? littleMark bytes, after? littleMark.reverse bytes with
  | some order, _, _ => .ok (read order bytes)
  | none, some rest, _ => .ok (read .little rest)
  | none, none, some rest => .ok (read .big rest)
  | none, none, none =>
    if bytes.length < size then .ok (read .little bytes) else .error .noByteOrder

/-- The code points of bytes in Punycode. Bytes that are no steps are gaps, but the steps have to be
ASCII. -/
def punycodePieces (bytes : List UInt8) : Except Fault Unicode.Pieces :=
  let (plain, digits) := Punycode.parts 0x2D (bytes.map UInt8.toNat)
  if digits.any (128 ≤ ·) then .error .notDecodable
  else
    let plain := plain.map fun b => if b < 128 then b else Unicode.gapSign.toNat
    .ok ((Punycode.decode plain (digits.map Char.ofNat)).codes.map
      fun code => some (.ofCode code))

/-- The code points of bytes, with the gaps. -/
def pieces : Charset → List UInt8 → Except Fault Unicode.Pieces
  | .letters table, bytes => .ok (lettersOf table bytes)
  | .multibyte set, bytes => .ok (set.pieces bytes)
  | .iso2022, bytes => .ok (Iso2022.pieces bytes)
  | .escaped true, bytes => .ok (Escape.pieces bytes)
  | .escaped false, bytes => .ok (Escape.plainPieces bytes)
  | .punycode, bytes => punycodePieces bytes
  | .utf8 false, bytes => .ok (Unicode.utf8 false bytes)
  | .utf8 true, bytes =>
    if bytes.isPrefixOf mark8 then .ok [] else .ok (Unicode.utf8 false ((after? mark8 bytes).getD bytes))
  | .utf7, bytes => .ok (utf7From .outside bytes)
  | .utf16 order, bytes => Unicode.gapped <$> readUnits 2 Unicode.utf16 order bytes
  | .utf32 order, bytes => Unicode.gapped <$> readUnits 4 Unicode.utf32 order bytes
  | .unreadable fault, _ => .error fault

/-- The text of bytes, with a sign for each gap. -/
def read (charset : Charset) (bytes : List UInt8) : Except Fault String :=
  (charset.pieces bytes).map Unicode.filled

end Charset

end ApiTools
