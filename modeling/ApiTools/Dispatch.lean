import ApiTools.Endpoint
import ApiTools.Http.Response
import ApiTools.Json.Writer
import ApiTools.Log
import ApiTools.Tool

/-!
# Calls of the service

A tool call checks the arguments, posts them to the method of the tool and reads the answer. An
answer is returned as it came and, if the tool documents its answer, once more as a map that was
checked. What goes out, what is logged and what comes of a call is one value, a function of what
the service answers.

## Main definitions

* `Request` — what goes out.
* `Response.outcome` — what comes of an answer.
* `Exchange` — the outcome of a call, with the requests sent and the lines logged.
* `Dispatch.call` — a call of a method.
* `Dispatch.dispatch` — a call of a tool.
-/

namespace ApiTools

/-- What is sent to the service. -/
structure Request where
  /-- The method of the transfer. -/
  verb : String
  /-- Where it is sent. -/
  url : String
  /-- The kind of answer that is asked for. -/
  accept : String
  /-- The proof of identity. -/
  authorization : String
  /-- The kind of the body, if there is one. -/
  contentType : Option String
  /-- The body. -/
  body : String
  deriving DecidableEq

namespace Response

/-- What a caller may do about a failure. -/
def guidance (r : Response) : String :=
  if r.status = 401 ∨ r.status = 403 then
    " Check OUTLINE_API_KEY and make sure it has the required scopes."
  else if r.status = 429 then
    match r.header? "retry-after" with
    | none | some "" => " Slow down requests and retry later."
    | some delay => " Retry after " ++ delay ++ " seconds."
  else if r.status = 400 then " Validate your request payload against the tool schema."
  else ""

/-- The reason that a failed answer gives, or that its status is. -/
def reason (r : Response) (content : Value) : String :=
  let given := match content with
    | .map es => (Entries.get? es "error").getD .null
    | _ => .null
  if given.isTruthy then given.display else "Request failed with status " ++ toString r.status

/-- What an answer with a body of unpacked bytes comes to: where a redirection points, the body of a
success, or a failure. -/
def outcomeOf (r : Response) (bytes : List UInt8) : Except Fault Value :=
  if r.status = 302 then
    .ok (.record [("ok", .bool true), ("status", .int r.status),
      ("location", ((r.header? "location").map Value.text).getD .null)])
  else do
    let content ← r.content bytes
    if r.isSuccess then return content
    throw (.serviceFailure r.status
      ("Outline API error: " ++ r.reason content ++ "." ++ r.guidance))

/-- The bytes of the body of an answer that came in good order from an address. The address has to
name a host for what the answer leaves behind. -/
def received (r : Response) (url : Url) : Except Fault (List UInt8) := do
  let bytes ← r.unpacked
  if !url.isAbsolute then throw (.noHost url.target)
  r.checkLocation
  return bytes

/-- What an answer from an address comes to. -/
def outcome (r : Response) (url : Url) : Except Fault Value := r.received url >>= r.outcomeOf

end Response

/-- The outcome of a call, with what was sent and logged on the way. -/
structure Exchange (α : Type) where
  /-- What came of it. -/
  result : Except Fault α
  /-- The requests sent. -/
  requests : List Request
  /-- The lines logged. -/
  log : List LogLine

/-- What a tool call returns. -/
structure ToolResult where
  /-- The answer as it came. -/
  raw : Value
  /-- The answer as a map that was checked, if the tool documents it. -/
  structured : Option Value

namespace ToolResult

/-- The result as clients read it: the answer as a text, and the map that was checked. -/
def toRecord (result : ToolResult) : Except Fault Value := do
  let text ← Json.write Json.indented result.raw
  let content := Value.list [.record [("type", .text "text"), ("text", .text text)]]
  return .record (("content", content)
    :: (result.structured.map fun v => ("structuredContent", v)).toList)

end ToolResult

namespace Dispatch

/-- A log line of this part of the program. -/
def line (level : LogLevel) (text : String) : LogLine := ⟨level, "toolgen.dispatcher", text⟩

/-- The body for a payload and its kind; there is none for null. No half of a pair may be in it. -/
def requestBody (payload : Value) : Except Fault (Option String × String) := do
  if payload = .null then return (none, "")
  if !Json.isFinite payload then throw .notFinite
  let body ← Json.write Json.compact payload
  if !Text.isWhole body then throw .notEncodable
  return (some "application/json", body)

/-- The proof of identity: the name and the password in an address, or else the key. The key has to
be ASCII in either case. -/
def authorization (apiKey : String) (url : Url) : Except Fault String :=
  if !Response.isAscii apiKey then .error .notAscii
  else
    match url.credentials? with
    | some text => .ok ("Basic " ++ String.ofList (Base64.encode (Unicode.utf8Bytes text)))
    | none => .ok ("Bearer " ++ apiKey)

/-- The request that posts a payload to a method, and the address it goes to. No half of a pair may
be in an address that is well-formed otherwise. -/
def request (settings : Settings) (method payload : Value) : Except Fault (Request × Url) := do
  let text := Endpoint.url settings.baseUrl (← method.textOrFail)
  match Url.ofRequest? (Text.softened text) with
  | none => throw .invalidUrl
  | some url =>
    if !Text.isWhole text then throw .notEncodable
    let authorization ← authorization settings.apiKey url
    let (contentType, body) ← requestBody payload
    return ({ verb := "POST", url := text, accept := "application/json", authorization, contentType,
              body }, url)

/-- The lines logged for an outcome. -/
def outcomeLines : Except Fault Value → List LogLine
  | .error (.serviceFailure _ message) => [line .error message]
  | _ => []

/-- A call of a method with a payload, to which the service answers. -/
def call (settings : Settings) (method payload : Value) (response : Response) : Exchange Value :=
  let announced := line .info ("Outline API request: " ++ method.display)
  match request settings method payload with
  | .error fault => ⟨.error fault, [], [announced]⟩
  | .ok (request, url) =>
    let outcome := response.outcome url
    ⟨outcome, [request], announced :: outcomeLines outcome⟩

/-- The arguments of a tool call, checked; none are an empty map. -/
def checkArguments (tool : Tool) (arguments : Value) : Except Fault Value :=
  let arguments := if arguments = .null then .map [] else arguments
  match tool.input.check arguments with
  | .ok _ => .ok arguments
  | .error (.violation place message) => .error (.argumentsRejected tool.name place message)
  | .error fault => .error fault

/-- An answer as a map: itself, or the only entry of one. -/
def view : Value → Value
  | .map es => .map es
  | v => .record [("value", v)]

/-- The result of a tool call from the answer of the service. -/
def shape (tool : Tool) (answer : Value) : Except Fault ToolResult :=
  match tool.output with
  | none => .ok ⟨answer, none⟩
  | some output =>
    match output.check (view answer) with
    | .ok _ => .ok ⟨answer, some (view answer)⟩
    | .error (.violation place message) => .error (.responseRejected tool.name place message)
    | .error fault => .error fault

/-- A call of a tool, to which the service answers. Nothing is sent if the arguments are refused. -/
def dispatch (settings : Settings) (tool : Tool) (arguments : Value) (response : Response) :
    Exchange ToolResult :=
  match checkArguments tool arguments with
  | .error fault => ⟨.error fault, [], []⟩
  | .ok payload =>
    let announced :=
      line .info
        ("Outline tool request: " ++ tool.name.display ++ " -> " ++ tool.methodName.display)
    let exchange := call settings tool.methodName payload response
    ⟨exchange.result >>= shape tool, exchange.requests, announced :: exchange.log⟩

/-- The tool of a name. -/
def find (tools : List Tool) (name : Value) : Except Fault Tool :=
  match name.key, tools.find? (·.name.alike name) with
  | .error fault, _ => .error fault
  | .ok _, some tool => .ok tool
  | .ok key, none => .error (.missingKey key)

end Dispatch

end ApiTools
