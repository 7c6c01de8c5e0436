import ApiTools.Text.Pattern
import ApiTools.Value.Access

/-!
# Safety annotations

A tool carries four flags that tell a client how safe a call is. They are derived from the
identifier of the operation by a table of rules: a rule matches when one of its tokens occurs in the
identifier, without regard to case, and then raises its flags. No rule lowers a flag.

## Main definitions

* `Annotations` — the flags.
* `AnnotationRule` — tokens and the flags they raise.
* `Annotations.derive` — the flags of an identifier.
* `Annotations.toRecord`, `Annotations.ofRecord`, `Annotations.hints` — the flags as documents.
-/

namespace ApiTools

/-- The safety flags of a tool. -/
structure Annotations where
  /-- The call changes nothing. -/
  readOnly : Bool
  /-- The call may destroy something. -/
  destructive : Bool
  /-- A second call changes nothing more. -/
  idempotent : Bool
  /-- The call reaches a system outside. -/
  openWorld : Bool
  deriving DecidableEq, Inhabited

/-- Tokens, and the names of the flags that they raise. -/
structure AnnotationRule where
  /-- The name of the rule. -/
  name : String
  /-- The rule matches where one of these occurs; its pattern has them as alternatives. -/
  tokens : List String
  /-- The names of the flags to raise. -/
  effects : List String

namespace AnnotationRule

/-- Whether a rule matches an identifier: the pattern of its tokens is found there. -/
def isMatch (rule : AnnotationRule) (identifier : String) : Bool :=
  match Pattern.read (Pattern.ofTokens rule.tokens) with
  | some alternatives => Pattern.search alternatives identifier.toList
  | none => false

/-- The table of rules. -/
def table : List AnnotationRule :=
  [{ name := "read"
     tokens := ["list", "info", "search", "config", "redirect", "export", "history", "diff", "view",
       "views", "count", "counts", "stats", "ping", "check"]
     effects := ["read_only", "idempotent"] },
   { name := "destructive"
     tokens := ["delete", "remove", "destroy"]
     effects := ["destructive"] }]

end AnnotationRule

namespace Annotations

/-- The flags of a tool that nothing is known of: it reaches a system outside. -/
def unmarked : Annotations := ⟨false, false, false, true⟩

/-- The flags with the named one raised; there is no flag of another name. -/
def raise? (a : Annotations) (flag : String) : Option Annotations :=
  if flag = "read_only" then some { a with readOnly := true }
  else if flag = "destructive" then some { a with destructive := true }
  else if flag = "idempotent" then some { a with idempotent := true }
  else if flag = "open_world" then some { a with openWorld := true }
  else none

/-- The rules of a table that match an identifier, in order. -/
def matching (rules : List AnnotationRule) (identifier : String) : List AnnotationRule :=
  rules.filter (·.isMatch identifier)

/-- The flags raised by every rule that matches. -/
def derive (rules : List AnnotationRule) (identifier : String) : Except Fault Annotations :=
  match ((matching rules identifier).flatMap (·.effects)).foldlM raise? unmarked with
  | some a => .ok a
  | none => .error .illTyped

/-- The flags by name. -/
def toRecord (a : Annotations) : Value :=
  .record [("read_only", .bool a.readOnly), ("destructive", .bool a.destructive),
    ("idempotent", .bool a.idempotent), ("open_world", .bool a.openWorld)]

/-- The flags under the names that clients know. -/
def hints (a : Annotations) : Value :=
  .record [("readOnlyHint", .bool a.readOnly), ("destructiveHint", .bool a.destructive),
    ("idempotentHint", .bool a.idempotent), ("openWorldHint", .bool a.openWorld)]

/-- The flag of a name in a record, or the given one if the record does not mention it. -/
def readFlag (record : Value) (name : String) (default : Bool) : Except Fault Bool := do
  if ← record.contains name then return (← record.entry name).isTruthy else return default

/-- The flags of a record. -/
def ofRecord (record : Value) : Except Fault Annotations := do
  let readOnly ← readFlag record "read_only" unmarked.readOnly
  let destructive ← readFlag record "destructive" unmarked.destructive
  let idempotent ← readFlag record "idempotent" unmarked.idempotent
  let openWorld ← readFlag record "open_world" unmarked.openWorld
  return ⟨readOnly, destructive, idempotent, openWorld⟩

end Annotations

end ApiTools
