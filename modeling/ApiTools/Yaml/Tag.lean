import ApiTools.Text.Blank
import ApiTools.Yaml.Text

/-!
# The types of plain scalars

A plain scalar has the type that its text looks like: null, a truth value, an integer in one of
several notations, a number with a point, a day or a moment; else it is a text. A line end behind
the text does not count.

## Main definitions

* `Tag` — the types of nodes.
* `Tag.ofText` — the type that a text looks like.
-/

namespace ApiTools

namespace Yaml

/-- The type of a node. -/
inductive Tag where
  /-- The absent value. -/
  | null
  /-- A truth value. -/
  | bool
  /-- An integer. -/
  | int
  /-- A number with a point. -/
  | float
  /-- A day or a moment. -/
  | stamp
  /-- A text. -/
  | text
  /-- Bytes. -/
  | bytes
  /-- A sequence. -/
  | sequence
  /-- A mapping. -/
  | mapping
  /-- A set, written as a mapping. -/
  | set
  /-- A sequence of pairs, each written as a mapping. -/
  | pairs
  /-- The key of entries to take over. -/
  | merge
  /-- The key of the default value. -/
  | default
  /-- A type that is not known. -/
  | other
  deriving DecidableEq

namespace Tag

/-- The type of a full tag. -/
def ofName (name : String) : Tag :=
  let known : List (String × Tag) :=
    [("null", null), ("bool", bool), ("int", int), ("float", float), ("timestamp", stamp),
     ("str", text), ("binary", bytes), ("seq", sequence), ("map", mapping), ("set", set),
     ("omap", pairs), ("pairs", pairs), ("merge", merge), ("value", default)]
  (known.find? fun e => "tag:yaml.org,2002:" ++ e.1 == name).elim other (·.2)

/-! ### What numbers look like -/

/-- Whether a character is a digit or an underscore. -/
def isDigitOrGap (c : Char) : Bool := c.isDigit || c == '_'

/-- A text without a sign in front. -/
def dropSign : List Char → List Char
  | '+' :: s => s
  | '-' :: s => s
  | s => s

/-- What follows a digit and the digits and underscores after it, if a text starts with a digit. -/
def afterDigits? : List Char → Option (List Char)
  | c :: s => if c.isDigit then some (s.dropWhile isDigitOrGap) else none
  | [] => none

/-- What follows a series of numbers below sixty, each after a colon. -/
def afterSixties : List Char → List Char
  | ':' :: a :: s =>
    match s with
    | b :: t =>
      if '0' ≤ a ∧ a ≤ '5' ∧ b.isDigit then afterSixties t
      else if a.isDigit then afterSixties (b :: t)
      else ':' :: a :: b :: t
    | [] => if a.isDigit then [] else [':', a]
  | s => s

/-- Whether a text is an exponent with its sign, or empty. -/
def isExponentOrEmpty : List Char → Bool
  | [] => true
  | e :: sign :: s =>
    (e == 'e' || e == 'E') && (sign == '-' || sign == '+') && !s.isEmpty && s.all Char.isDigit
  | _ => false

/-- Whether a text without its sign looks like an integer. -/
def isInteger (s : List Char) : Bool :=
  match s with
  | ['0'] => true
  | '0' :: 'b' :: t => !t.isEmpty && t.all fun c => c == '0' || c == '1' || c == '_'
  | '0' :: 'x' :: t => !t.isEmpty && t.all fun c => (Text.hexDigit? c).isSome || c == '_'
  | '0' :: t => t.all fun c => ('0' ≤ c && c ≤ '7') || c == '_'
  | c :: t =>
    c.isDigit &&
      (let rest := t.dropWhile isDigitOrGap
       rest.isEmpty || (afterSixties rest).isEmpty)
  | [] => false

/-- Whether a text without its sign looks like a decimal number with digits before the point. -/
def isDecimal (s : List Char) : Bool :=
  match afterDigits? s with
  | some ('.' :: t) => isExponentOrEmpty (t.dropWhile isDigitOrGap)
  | some (':' :: t) =>
    match afterSixties (':' :: t) with
    | '.' :: u => u.all isDigitOrGap
    | _ => false
  | _ => false

/-- Whether a text looks like a decimal number that starts with the point. -/
def isFraction : List Char → Bool
  | '.' :: s =>
    match afterDigits? s with
    | some t => isExponentOrEmpty t
    | none => false
  | _ => false

/-- Whether a text looks like a number with a point. -/
def isFloat (s : List Char) : Bool :=
  isDecimal (dropSign s) || isFraction s
    || [".inf", ".Inf", ".INF"].any (fun w => dropSign s == w.toList)
    || [".nan", ".NaN", ".NAN"].any (fun w => s == w.toList)

/-! ### What stamps look like -/

/-- The number that a digit or two denote, and the rest. -/
def readOneOrTwo : List Char → Option (Nat × List Char)
  | a :: b :: s =>
    if a.isDigit && b.isDigit then some (Json.digitsValue 0 [a, b], s)
    else if a.isDigit then some (Json.digitsValue 0 [a], b :: s)
    else none
  | [a] => if a.isDigit then some (Json.digitsValue 0 [a], []) else none
  | [] => none

/-- The number that exactly two digits denote, and the rest. -/
def readTwo : List Char → Option (Nat × List Char)
  | a :: b :: s => if a.isDigit && b.isDigit then some (Json.digitsValue 0 [a, b], s) else none
  | _ => none

/-- The rest after a given character. -/
def expect (c : Char) : List Char → Option (List Char)
  | d :: s => if c = d then some s else none
  | [] => none

/-- The parts of a stamp. -/
structure StampParts where
  /-- The year. -/
  year : Nat
  /-- The month. -/
  month : Nat
  /-- The day. -/
  day : Nat
  /-- The hour, minute, second and the digits of a fraction, if it has a time of day. -/
  time : Option (Nat × Nat × Nat × List Char)
  /-- The minutes ahead of universal time, if it says so. -/
  ahead : Option Int

/-- How far a clock is ahead of universal time: `Z`, or hours and minutes with a sign. -/
def readAhead (s : List Char) : Option (Option Int) :=
  let hoursAndMinutes := fun (sign : Int) (s : List Char) => do
    let (hours, s) ← readOneOrTwo s
    match s with
    | [] => some (some (sign * (hours * 60 : Nat)))
    | _ => do
      let (minutes, s) ← readTwo (← expect ':' s)
      if s.isEmpty then some (some (sign * (hours * 60 + minutes : Nat))) else none
  match s.dropWhile (fun c => c == ' ' || c == '\t') with
  | [] => if s.isEmpty then some none else none
  | ['Z'] => some (some 0)
  | '+' :: s => hoursAndMinutes 1 s
  | '-' :: s => hoursAndMinutes (-1) s
  | _ => none

/-- The blanks or the letter between a day and a time of day. -/
def afterDaySeparator : List Char → Option (List Char)
  | 'T' :: s => some s
  | 't' :: s => some s
  | s =>
    let rest := s.dropWhile fun c => c == ' ' || c == '\t'
    if rest.length < s.length then some rest else none

/-- A text without a line end behind it. -/
def dropFinalBreak : List Char → List Char
  | [c, '\n'] => [c]
  | c :: s => c :: dropFinalBreak s
  | [] => []

/-- The parts of a text that looks like a stamp. -/
def stampParts? (s : List Char) : Option StampParts := do
  let (a, s) ← readTwo s
  let (b, s) ← readTwo s
  let year := a * 100 + b
  let afterYear ← expect '-' s
  let (month, s) ← readOneOrTwo afterYear
  let (day, s) ← readOneOrTwo (← expect '-' s)
  match s with
  | [] => return ⟨year, month, day, none, none⟩
  | s => do
    let (hour, s) ← readOneOrTwo (← afterDaySeparator s)
    let (minute, s) ← readTwo (← expect ':' s)
    let (second, s) ← readTwo (← expect ':' s)
    let (fraction, s) := match s with
      | '.' :: s => s.span Char.isDigit
      | s => ([], s)
    return ⟨year, month, day, some (hour, minute, second, fraction), ← readAhead s⟩

/-- Whether a text looks like a stamp. Month and day of a whole day have two digits. -/
def isStamp (s : List Char) : Bool :=
  match stampParts? s with
  | some parts => parts.time.isSome || s.length == 10
  | none => false

/-! ### The type of a text -/

/-- The words for null. -/
def nullWords : List String := ["", "~", "null", "Null", "NULL"]

/-- The words for truth values. -/
def boolWords : List String :=
  ["yes", "Yes", "YES", "no", "No", "NO", "true", "True", "TRUE", "false", "False", "FALSE",
   "on", "On", "ON", "off", "Off", "OFF"]

/-- The signs that no scalar has for its text. -/
def reservedSigns : List String := ["!", "&", "*"]

/-- The type that a text looks like. -/
def ofText (s : String) : Tag :=
  let chars := dropFinalBreak s.toList
  let word := String.ofList chars
  if word ∈ boolWords then bool
  else if isFloat chars then float
  else if isInteger (dropSign chars) then int
  else if word = "<<" then merge
  else if word ∈ nullWords then null
  else if isStamp chars then stamp
  else if word = "=" then default
  else if word ∈ reservedSigns then other
  else text

end Tag

end Yaml

end ApiTools
