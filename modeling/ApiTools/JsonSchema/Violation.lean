import ApiTools.JsonSchema.Basic
import ApiTools.JsonSchema.Place

/-!
# Violations of a schema

A value violates a schema once for every check that it fails. Each violation has the place of the
offending part below the value that the check was reached from, and the violation of a choice
carries those of its alternatives.

One violation is reported. Among those of one value the shallowest comes first, and of these the
one at the greatest place; other than for a choice, whose alternatives may tell more. A choice is
followed into its deepest violation, unless two of them are equally deep and alike.

## Main definitions

* `Violation` — a failed check.
* `JsonSchema.violations` — all failed checks of a value.
* `JsonSchema.isValid` — whether there is none.
* `Finding.renderPlace`, `Finding.message` — the place and the message to report.
-/

namespace ApiTools

/-- Which check failed. -/
inductive Cause where
  /-- The value is not of the type. -/
  | wrongType (expected : TypeName)
  /-- The value is none of the list. -/
  | notMember (members : List Value)
  /-- The value satisfies none of the alternatives. -/
  | noAlternative
  /-- A key is missing; the first one that is. -/
  | missing (name : Value)
  /-- A key is not declared; the first one that is not. -/
  | unknown (name : Scalar)

/-- A failed check. -/
inductive Violation where
  /-- The check that failed at a place for a value, whether the value is of the type that the schema
  of the check asks for, and the violations of the alternatives of a choice. -/
  | mk (cause : Cause) (place : Place) (value : Value) (ofType : Bool) (context : List Violation)

namespace Violation

/-- The violation as seen from one step further up. -/
def under (step : Step) : Violation → Violation
  | mk cause place value ofType context => mk cause (step :: place) value ofType context

end Violation

namespace JsonSchema

/-- Whether a value is of the type that a schema asks for, if it asks for one. -/
def ofType (asked : Option TypeName) (x : Value) : Bool := asked.any (·.admits x)

/-- The keys of a map that a schema has no property for. -/
def undeclared (declared : List Scalar) (es : Entries) : Entries :=
  es.filter fun e => !declared.any (·.alike e.1)

/-- The names that a map lacks. -/
def missing (names : List Value) (es : Entries) : List Value :=
  names.filter fun name => !(name.scalar?.any (Entries.hasKey es))

/-- The entries of a value that is a map. -/
def entriesOf : Value → Entries
  | .map es => es
  | _ => []

/-- The items of a value that is a list. -/
def itemsOf : Value → List Value
  | .list items => items
  | _ => []

mutual

/-- The failed checks of a value. -/
def violations : JsonSchema → Value → List Violation
  | .mk keywords, x => keywordViolations (typeOf keywords) (declaredKeys keywords) keywords x

/-- The failed checks of keywords, in a schema with the given type and declared keys. -/
def keywordViolations (asked : Option TypeName) (declared : List Scalar) :
    List Keyword → Value → List Violation
  | [], _ => []
  | keyword :: keywords, x =>
    (match keyword with
      | .type name =>
        if name.admits x then [] else [.mk (.wrongType name) [] x (ofType asked x) []]
      | .enum members =>
        if members.any (·.equals x) then [] else [.mk (.notMember members) [] x (ofType asked x) []]
      | .properties schemas => propertyViolations schemas (entriesOf x)
      | .items schema =>
        (itemsOf x).zipIdx.flatMap fun (item, i) =>
          (violations schema item).map (·.under (.index i))
      | .anyOf alternatives =>
        match alternativeViolations alternatives x with
        | none => []
        | some context => [.mk .noAlternative [] x (ofType asked x) context]
      | .required names =>
        match x with
        | .map es =>
          match missing names es with
          | [] => []
          | first :: others =>
            (first :: others).map fun _ => .mk (.missing first) [] x (ofType asked x) []
        | _ => []
      | .closed =>
        match undeclared declared (entriesOf x) with
        | [] => []
        | (key, _) :: _ => [.mk (.unknown key) [] x (ofType asked x) []]
      | .additional schema =>
        (undeclared declared (entriesOf x)).flatMap fun (key, value) =>
          (violations schema value).map (·.under (.key key.display))
      | .description _ => [])
    ++ keywordViolations asked declared keywords x

/-- The failed checks of the values at the keys of properties. -/
def propertyViolations : List (Scalar × JsonSchema) → Entries → List Violation
  | [], _ => []
  | (key, schema) :: schemas, es =>
    (match Entries.find? es key with
      | some value => (violations schema value).map (·.under (.key key.display))
      | none => [])
    ++ propertyViolations schemas es

/-- The failed checks of all alternatives, unless the value satisfies one of them. -/
def alternativeViolations : List JsonSchema → Value → Option (List Violation)
  | [], _ => some []
  | schema :: schemas, x =>
    match violations schema x with
    | [] => none
    | failed => (alternativeViolations schemas x).map (failed ++ ·)

end

/-- Whether a value satisfies a schema. -/
def isValid (schema : JsonSchema) (x : Value) : Bool := (violations schema x).isEmpty

end JsonSchema

/-! ### The violation to report -/

/-- What decides between violations. -/
structure Rank where
  /-- The place of the violation. -/
  place : Place
  /-- Whether it is the violation of a choice. -/
  isChoice : Bool
  /-- Whether the value is of the type asked for. -/
  ofType : Bool

namespace Rank

/-- The order of ranks: a shallow place above a deep one, then a greater place above a lesser one,
then any other violation above one of a choice, and a value of the wrong type above one of the
right type. -/
def compareTo (a b : Rank) : Ordering :=
  (compare b.place.length a.place.length).then
    ((a.place.compareTo b.place).then
      ((compare b.isChoice a.isChoice).then (compare b.ofType a.ofType)))

end Rank

/-- A violation without those that it carries. -/
structure Finding where
  /-- The check that failed. -/
  cause : Cause
  /-- The place of the offending part. -/
  place : Place
  /-- The offending part. -/
  value : Value

namespace Violation

/-- The rank of a violation. -/
def rank : Violation → Rank
  | mk cause place _ ofType _ =>
    ⟨place, match cause with | .noAlternative => true | _ => false, ofType⟩

/-- The first of the items that no other one exceeds in an order. -/
def firstBest {α : Type} (exceeds : α → α → Bool) : List α → Option α
  | [] => none
  | x :: xs => some (xs.foldl (fun best y => if exceeds y best then y else best) x)

/-- The least of ranked findings, if no other one has its rank. -/
def soleLeast (ranked : List (Rank × Finding)) : Option Finding :=
  match firstBest (fun a b => a.1.compareTo b.1 == .lt) ranked with
  | none => none
  | some (rank, finding) =>
    if 1 < ranked.countP (fun a => a.1.compareTo rank == .eq) then none else some finding

mutual

/-- The finding that a violation comes down to: that of the deepest of the violations it carries, or
its own. -/
def focus : Violation → Finding
  | mk cause place value _ context =>
    match soleLeast (focusAll context) with
    | none => ⟨cause, place, value⟩
    | some finding => { finding with place := place ++ finding.place }

/-- The findings of violations, each with its rank. -/
def focusAll : List Violation → List (Rank × Finding)
  | [] => []
  | v :: vs => (v.rank, focus v) :: focusAll vs

end

/-- The finding to report, if there is a violation. -/
def best? (violations : List Violation) : Option Finding :=
  (firstBest (fun v w => v.rank.compareTo w.rank == .gt) violations).map focus

end Violation

namespace Finding

/-- The place to report: that of the missing or unknown key itself, where there is one. -/
def renderPlace (f : Finding) : String :=
  match f.cause with
  | .missing name => f.place.render ++ "." ++ name.display
  | .unknown key => f.place.render ++ "." ++ key.display
  | _ => f.place.render

/-- The message to report. -/
def message (f : Finding) : String :=
  match f.cause with
  | .wrongType expected => f.value.toLiteral ++ " is not of type " ++ quoteText expected.word
  | .notMember members => f.value.toLiteral ++ " is not one of " ++ (Value.list members).toLiteral
  | .noAlternative => f.value.toLiteral ++ " is not valid under any of the given schemas"
  | .missing _ => "required property is missing"
  | .unknown _ => "unknown property"

end Finding

end ApiTools
