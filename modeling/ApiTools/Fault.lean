import ApiTools.Value.Literal

/-!
# Faults

Everything that can go wrong is a cause in one type, with its message in one function. Two causes
concern documents of a wrong shape: `illTyped`, when a value is iterated, indexed, hashed or
matched against its kind, and `noAccessor`, when a look-up or a text operation is asked of a value
that has none.

## Main definitions

* `Fault` — the causes.
* `Fault.message` — the message of a cause that has one.
* `Fault.abortsGeneration` — the faults of a document that end a generation run in good order.
-/

namespace ApiTools

/-- What can go wrong. -/
inductive Fault where
  /-- A value was used against its kind. -/
  | illTyped
  /-- A look-up or a text operation was asked of a value that has none. -/
  | noAccessor
  /-- A key that has to be there is missing. -/
  | missingKey (key : Scalar)
  /-- A text is not an integer in a base. -/
  | notANumeral (base : Nat) (text : String)
  /-- A text is not a number. -/
  | notADecimal (text : String)
  /-- A numeral has nothing after its sign. -/
  | emptyNumeral
  /-- An integer has more decimal digits than are read or written; how many, if counted. -/
  | tooManyDigits (count : Option Nat)
  /-- An integer is too large for a number with a point. -/
  | tooLarge
  /-- There is no character of a code. -/
  | noCharacter
  /-- A pair of key and value was needed. -/
  | notAPair (index length : Nat)
  /-- Numbers make no day or moment. -/
  | badStamp (reason : StampFault)
  /-- A value to be written contains itself. -/
  | circular
  /-- A search through nested values does not end. -/
  | endless
  /-- A reference does not point into the document. -/
  | unsupportedReference (ref : String)
  /-- A reference points at nothing. -/
  | unresolvableReference (ref : String)
  /-- There is no such compile mode. -/
  | unknownMode (mode : Value)
  /-- There is no such kind of validator. -/
  | unknownKind (kind : Value)
  /-- There is no such policy for undeclared keys. -/
  | unknownPolicy (policy : Value)
  /-- Undeclared keys are to be checked, and there is nothing to check them with. -/
  | untypedExtras
  /-- Several tools have one name. -/
  | duplicateNames (names : List String)
  /-- The base URL is blank. -/
  | emptyBaseUrl
  /-- There is no API key. -/
  | noApiKey
  /-- A number cannot be sent. -/
  | notFinite
  /-- A header is not ASCII. -/
  | notAscii
  /-- An address is not well-formed. -/
  | invalidUrl
  /-- An address names no host. -/
  | noHost (url : String)
  /-- An answer redirects to an address that is not well-formed. -/
  | invalidLocation
  /-- The body of an answer is not compressed as its header says. -/
  | corruptBody
  /-- A text with a half of a pair in it cannot be written in bytes. -/
  | notEncodable
  /-- Bytes are not in the encoding that they seem to be in. -/
  | notDecodable
  /-- Units of several bytes come without their order, or a name asks for no reading at all. -/
  | noByteOrder
  /-- A coding does not lead to a text. -/
  | notAText
  /-- A name has a null character in it. -/
  | nullInName
  /-- A value breaks its validator at a place. -/
  | violation (place message : String)
  /-- The arguments of a call break the input validator. -/
  | argumentsRejected (tool : Value) (place message : String)
  /-- The answer to a call breaks the output validator. -/
  | responseRejected (tool : Value) (place message : String)
  /-- The service answered with a status other than success. -/
  | serviceFailure (status : Int) (message : String)
  /-- A text is not well-formed JSON. -/
  | malformedJson
  /-- A text is not well-formed YAML. -/
  | malformedYaml
  /-- There is no file of a name. -/
  | noSuchFile
  /-- A name is that of a directory. -/
  | isDirectory
  /-- A name that a directory needs is taken by a file. -/
  | fileExists
  /-- A file stands where a path needs a directory. -/
  | notDirectory
  /-- A path ends in two dots, which no file can take the place of. -/
  | busy
  /-- A name in a path has too many bytes. -/
  | nameTooLong
  /-- A path has a null character in it. -/
  | nullInPath

namespace Fault

/-- The message of a fault that has one. -/
def message : Fault → String
  | .missingKey key => key.toLiteral
  | .notANumeral base text =>
    "invalid literal for int() with base " ++ toString base ++ ": "
      ++ String.ofList ((quoteText text).toList.take 200)
  | .notADecimal text => "could not convert string to float: " ++ quoteText text
  | .tooManyDigits count =>
    "Exceeds the limit (4300 digits) for integer string conversion"
      ++ ((count.map fun n => ": value has " ++ toString n ++ " digits").getD "")
      ++ "; use sys.set_int_max_str_digits() to increase the limit"
  | .noCharacter => "chr() arg not in range(0x110000)"
  | .notAPair index length =>
    "dictionary update sequence element #" ++ toString index ++ " has length " ++ toString length
      ++ "; 2 is required"
  | .badStamp reason => reason.message
  | .circular => "Circular reference detected"
  | .unsupportedReference ref => "Unsupported $ref: " ++ ref
  | .unresolvableReference ref => "Unresolvable $ref: " ++ ref
  | .unknownMode mode => "Unknown compile mode: " ++ mode.toLiteral
  | .unknownKind kind => "Unknown validator kind: " ++ kind.toLiteral
  | .unknownPolicy policy => "Unknown additional properties policy: " ++ policy.toLiteral
  | .untypedExtras => "typed additional properties need a validator"
  | .duplicateNames names => "Duplicate tool names: " ++ ", ".intercalate names
  | .emptyBaseUrl => "Outline base URL is empty"
  | .noApiKey => "OUTLINE_API_KEY is required"
  | .notFinite => "Out of range float values are not JSON compliant"
  | .nullInName => "embedded null character"
  | .nullInPath => "embedded null byte"
  | .noHost url => "unknown url type: " ++ quoteText url
  | .violation _ text => text
  | .argumentsRejected tool place text =>
    "Invalid arguments for " ++ tool.display ++ ": " ++ place ++ ": " ++ text
  | .responseRejected tool place text =>
    "Unexpected response shape from " ++ tool.display ++ ": " ++ place ++ ": " ++ text
  | .serviceFailure _ text => text
  | .illTyped | .noAccessor | .emptyNumeral | .tooLarge | .endless | .notAscii | .invalidUrl
  | .invalidLocation | .corruptBody | .notEncodable | .notDecodable | .noByteOrder | .notAText
  | .malformedJson | .malformedYaml | .noSuchFile | .isDirectory | .fileExists | .notDirectory
  | .busy | .nameTooLong => ""

/-- The faults of a reference end a generation run in good order; every other one breaks it off. -/
def abortsGeneration : Fault → Bool
  | .unsupportedReference _ | .unresolvableReference _ => true
  | _ => false

end Fault

end ApiTools
