import ApiTools.Bytes.Wrapper
import ApiTools.Http.MediaType
import ApiTools.Json.Bytes
import ApiTools.Value.Access

/-!
# Answers of the service

An answer has a status, headers and a body of bytes. The headers say how the bytes are packed,
whether they are JSON, and otherwise which set of characters the text is in.

## Main definitions

* `Response` — what comes back.
* `Response.unpacked` — the bytes of the body as they were before they were packed.
* `Response.content` — the body as a value.
* `Response.checkLocation` — where an answer redirects to has to be well-formed.
-/

namespace ApiTools

/-- What the service answers. -/
structure Response where
  /-- The status. -/
  status : Int
  /-- The headers, in order. -/
  headers : List (String × String)
  /-- The body. -/
  body : List UInt8

namespace Response

/-! ### Headers -/

/-- The values of a header; its name is written in any case. -/
def headerValues (r : Response) (name : String) : List String :=
  (r.headers.filter fun h => h.1.toLower == name).map (·.2)

/-- A header, its values joined by commas if it is repeated. -/
def header? (r : Response) (name : String) : Option String :=
  match r.headerValues name with
  | [] => none
  | values => some (", ".intercalate values)

/-- Whether a text is ASCII. -/
def isAscii (text : String) : Bool := text.toList.all (·.toNat < 128)

/-- Whether the status is that of a success. -/
def isSuccess (r : Response) : Bool := 200 ≤ r.status && r.status ≤ 299

/-- Whether the status is that of a redirection. -/
def isRedirection (r : Response) : Bool := [301, 302, 303, 307, 308].contains r.status

/-- Whether the headers call the body JSON. -/
def isJson (r : Response) : Bool :=
  Value.hasPart "application/json".toList ((r.header? "content-type").getD "").toList

/-! ### Bodies -/

/-- The ways in which the body was packed, one after the other. -/
def packings (r : Response) : List String :=
  (r.headerValues "content-encoding").flatMap fun value =>
    (Text.split ',' value.toList).map fun s => String.ofList ((Text.trim s).map Char.toLower)

/-- Bytes before they were packed in a way. A way that is not known changes nothing. Compressed
bytes may be without a wrapper where the short one is expected. -/
def unpackedOnce (packing : String) (bytes : List UInt8) : Except Fault (List UInt8) :=
  let found := match packing with
    | "gzip" => Wrapper.bytes? (Wrapper.long bytes)
    | "deflate" =>
      (Wrapper.bytes? (Wrapper.short bytes)).orElse fun _ =>
        Wrapper.bytes? (Inflated.ofBits (Bits.ofBytes bytes))
    | _ => some bytes
  match found with
  | some bytes => .ok bytes
  | none => .error .corruptBody

/-- The bytes of the body as they were before they were packed. -/
def unpacked (r : Response) : Except Fault (List UInt8) :=
  r.packings.reverse.foldlM (fun bytes packing => unpackedOnce packing bytes) r.body

/-- The set of characters that a text body is in: the one that the headers name, if it is known. -/
def charset (r : Response) : Except Fault Charset := do
  match r.header? "content-type" with
  | none => return .utf8 false
  | some text =>
    match ← MediaType.charset text with
    | none => return .utf8 false
    | some name =>
      if name.toList.contains '\x00' then throw .nullInName
      return (Charset.named? name).getD (.utf8 false)

/-- The text of bytes. -/
def text (r : Response) (bytes : List UInt8) : Except Fault String :=
  if bytes.isEmpty then .ok ""
  else do
    let charset ← r.charset
    charset.read bytes

/-- The body as a value: read if it is called JSON, and a text otherwise. -/
def content (r : Response) (bytes : List UInt8) : Except Fault Value :=
  if r.isJson then Json.ofBytes bytes else Value.text <$> r.text bytes

/-! ### Redirections -/

/-- Where an answer redirects to has to be well-formed. With a scheme and no host it is meant to be
at the host of the request, so that its path has to begin with a slash. -/
def checkLocation (r : Response) : Except Fault Unit :=
  match r.header? "location" with
  | none => .ok ()
  | some location =>
    if !r.isRedirection then .ok ()
    else
      match Url.ofText? (Text.softened location) with
      | none => .error .invalidLocation
      | some url =>
        if url.scheme != "" && url.host == "" && !(url.path == "" || url.path.startsWith "/") then
          .error .invalidUrl
        else .ok ()

end Response

end ApiTools
