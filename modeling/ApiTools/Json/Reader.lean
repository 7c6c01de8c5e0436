import ApiTools.Fault
import ApiTools.Text.CodePoint
import ApiTools.Text.Digit

/-!
# Reading JSON

The reader keeps integers apart from numbers with a point or an exponent, keeps members in order,
and gives a repeated member its first place and its last value. Besides the standard forms it
takes the names `NaN`, `Infinity` and `-Infinity`. Two escapes next to each other for the halves of a
pair are one character, and every other escape for a half is that half.

The texts that are read are spelled, but the document may be or not: the reader is told what stands
in a text for a character of the document.

Each call of the reader consumes a character before it goes deeper or on, so the length of the
text bounds the recursion.

## Main definitions

* `Json.readNumber`, `Json.readText`, `Json.readValue` — readers of one form and the rest.
* `Json.parse` — a whole document as it is in its file; `Json.parseSpelled` — one that is spelled.
-/

namespace ApiTools

namespace Json

/-- White space between tokens. -/
def isSpace (c : Char) : Bool := c == ' ' || c == '\t' || c == '\n' || c == '\r'

/-- The rest from the next token on. -/
def skip (s : List Char) : List Char := s.dropWhile isSpace

/-! ### Numbers -/

/-- The value of ASCII digits, read after what stands in front of them. -/
def digitsValue (start : Nat) (digits : List Char) : Nat :=
  digits.foldl (fun n c => n * 10 + (c.toNat - 48)) start

/-- The digits at the front and the rest. -/
def spanDigits (s : List Char) : List Char × List Char := s.span Char.isDigit

/-- The digits of a fraction with its point, if there is one. -/
def readFraction : List Char → Option (List Char) × List Char
  | '.' :: s =>
    match spanDigits s with
    | ([], _) => (none, '.' :: s)
    | (digits, rest) => (some digits, rest)
  | s => (none, s)

/-- The digits of an exponent after its mark and sign. -/
def readExponentDigits (negative : Bool) (s : List Char) : Option (Int × List Char) :=
  match spanDigits s with
  | ([], _) => none
  | (digits, rest) =>
    let n : Int := digitsValue 0 digits
    some (if negative then -n else n, rest)

/-- An exponent with its mark, if there is one. -/
def readExponent (s : List Char) : Option Int × List Char :=
  let found := match s with
    | 'e' :: '-' :: t | 'E' :: '-' :: t => readExponentDigits true t
    | 'e' :: '+' :: t | 'E' :: '+' :: t => readExponentDigits false t
    | 'e' :: t | 'E' :: t => readExponentDigits false t
    | _ => none
  match found with
  | some (n, rest) => (some n, rest)
  | none => (none, s)

/-- The whole part of a number: a zero, or digits that start with another one. -/
def readWhole : List Char → Option (List Char × List Char)
  | '0' :: s => some (['0'], s)
  | s =>
    match spanDigits s with
    | ([], _) => none
    | found => some found

/-- A number after its sign. An integer must not have too many digits. -/
def readNumber (negative : Bool) (s : List Char) : Except Fault (Value × List Char) :=
  match readWhole s with
  | none => .error .malformedJson
  | some (whole, rest) =>
    let (fraction, rest) := readFraction rest
    let (exponent, rest) := readExponent rest
    match fraction, exponent with
    | none, none =>
      if Text.maxDigits < whole.length then .error (.tooManyDigits whole.length)
      else
        let n := digitsValue 0 whole
        .ok (.int (if negative then -(n : Int) else n), rest)
    | _, _ =>
      let places := fraction.getD []
      let scale := exponent.getD 0 - places.length
      .ok (.double (.ofDecimal negative (digitsValue 0 (whole ++ places)) scale), rest)

/-! ### Texts -/

/-- The value of four hexadecimal digits. -/
def hexUnit? (a b c d : Char) : Option Nat := do
  let digits ← [a, b, c, d].mapM Text.hexDigit?
  return digits.foldl (fun n digit => n * 16 + digit) 0

/-- The character that an escape letter stands for. -/
def escapeLetter? : Char → Option Char
  | '"' => some '"'
  | '\\' => some '\\'
  | '/' => some '/'
  | 'b' => some '\x08'
  | 'f' => some '\x0c'
  | 'n' => some '\n'
  | 'r' => some '\r'
  | 't' => some '\t'
  | _ => none

/-- What was read, in reverse, with one more code point. -/
def put (point : CodePoint) (done : List Char) : List Char := point.spelled.reverse ++ done

/-- What was read, in reverse, with the unit that waits if there is one. -/
def putHigh (high : Option Nat) (done : List Char) : List Char :=
  high.elim done fun unit => put (.ofCode unit) done

/-- The text up to the closing quote, in reverse, and the rest. A unit that could be the first half
of a pair waits in `high` for the one after it. -/
def readTextFrom (keep : Char → List Char) (done : List Char) (high : Option Nat) :
    List Char → Option (List Char × List Char)
  | '\\' :: 'u' :: a :: b :: c :: d :: s =>
    match hexUnit? a b c d, high with
    | none, _ => none
    | some unit, some first =>
      if isLowHalf unit then readTextFrom keep (put (.char (pairChar first unit)) done) none s
      else if isHighHalf unit then readTextFrom keep (put (.ofCode first) done) (some unit) s
      else readTextFrom keep (put (.ofCode unit) (put (.ofCode first) done)) none s
    | some unit, none =>
      if isHighHalf unit then readTextFrom keep done (some unit) s
      else readTextFrom keep (put (.ofCode unit) done) none s
  | c :: s =>
    let done := putHigh high done
    if c = '"' then some (done, s)
    else if c = '\\' then
      match s with
      | l :: s =>
        match escapeLetter? l with
        | some e => readTextFrom keep (e :: done) none s
        | none => none
      | [] => none
    else if c.toNat < 0x20 then none
    else readTextFrom keep ((keep c).reverse ++ done) none s
  | [] => none

/-- The text after an opening quote, and the rest. -/
def readText (keep : Char → List Char) (s : List Char) : Option (String × List Char) :=
  match readTextFrom keep [] none s with
  | some (done, rest) => some (String.ofList done.reverse, rest)
  | none => none

/-! ### Values -/

/-- The rest after a word at the front. -/
def afterWord? (word : String) (s : List Char) : Option (List Char) :=
  if word.toList.isPrefixOf s then some (s.drop word.length) else none

/-- A value that is spelled by a name. -/
def readName (s : List Char) : Option (Value × List Char) :=
  [("null", Value.null), ("true", .bool true), ("false", .bool false), ("NaN", .double .nan),
    ("Infinity", .double (.infinite false)), ("-Infinity", .double (.infinite true))].findSome?
    fun (word, v) => (afterWord? word s).map fun rest => (v, rest)

section

variable (keep : Char → List Char)

mutual

/-- A value at the front, and the rest. -/
def readValue : Nat → List Char → Except Fault (Value × List Char)
  | 0, _ => .error .malformedJson
  | fuel + 1, s =>
    match s with
    | '"' :: s =>
      match readText keep s with
      | some (t, rest) => .ok (.text t, rest)
      | none => .error .malformedJson
    | '{' :: s =>
      match skip s with
      | '}' :: rest => .ok (.map [], rest)
      | rest => readMembers fuel [] rest
    | '[' :: s =>
      match skip s with
      | ']' :: rest => .ok (.list [], rest)
      | rest => readItems fuel [] rest
    | s =>
      match readName s with
      | some found => .ok found
      | none =>
        match s with
        | '-' :: s => readNumber true s
        | s => readNumber false s

/-- The items of an array from the next one on; those before it are given in reverse. -/
def readItems : Nat → List Value → List Char → Except Fault (Value × List Char)
  | 0, _, _ => .error .malformedJson
  | fuel + 1, done, s => do
    let (v, rest) ← readValue fuel s
    match skip rest with
    | ',' :: rest => readItems fuel (v :: done) (skip rest)
    | ']' :: rest => return (.list (v :: done).reverse, rest)
    | _ => throw .malformedJson

/-- The members of an object from the next one on, with those before it. -/
def readMembers : Nat → Entries → List Char → Except Fault (Value × List Char)
  | 0, _, _ => .error .malformedJson
  | fuel + 1, done, s =>
    match s with
    | '"' :: s =>
      match readText keep s with
      | none => .error .malformedJson
      | some (name, rest) =>
        match skip rest with
        | ':' :: rest => do
          let (v, rest) ← readValue fuel (skip rest)
          let done := Entries.insert done (.text name) v
          match skip rest with
          | ',' :: rest => readMembers fuel done (skip rest)
          | '}' :: rest => return (.map done, rest)
          | _ => throw .malformedJson
        | _ => .error .malformedJson
    | _ => .error .malformedJson

end

/-- The value of a whole document, where characters stand for what is said. -/
def parseKeeping (text : String) : Except Fault Value := do
  let s := text.toList
  let (v, rest) ← readValue keep (s.length + 1) (skip s)
  if (skip rest).isEmpty then return v else throw .malformedJson

end

/-- The value of a whole document as it is in its file. -/
def parse (text : String) : Except Fault Value :=
  parseKeeping (fun c => (CodePoint.char c).spelled) text

/-- The value of a whole document that is spelled. -/
def parseSpelled (text : String) : Except Fault Value := parseKeeping (fun c => [c]) text

end Json

end ApiTools
