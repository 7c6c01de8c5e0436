import ApiTools.Text.Unicode
import ApiTools.Url.Host

/-!
# Addresses

An address has a scheme, a host with what goes before and after it, a path, a query and a fragment.
All but the path may be missing. Reading it brings each part into its normal form: the scheme and
the host in small letters, no dot segments in a path below a scheme or a host, no port that the
scheme implies, and characters that a part cannot hold written by their bytes.

## Main definitions

* `Url` — an address in its normal form.
* `Url.ofText?` — the address that a text denotes, if it is well-formed.
* `Url.ofRequest?` — the address that a request goes to.
* `Url.credentials?` — the name and the password in an address.
-/

namespace ApiTools

/-- An address in its normal form. -/
structure Url where
  /-- The scheme, or nothing. -/
  scheme : String
  /-- What stands before the host, or nothing. -/
  user : String
  /-- The host, or nothing. -/
  host : String
  /-- The port, unless the scheme implies it. -/
  port : Option Int
  /-- The path. -/
  path : String
  /-- The query. -/
  query : Option String

namespace Url

/-! ### Characters -/

/-- What stands for itself in a query. -/
def isQueryChar (c : Char) : Bool := '!' ≤ c && c ≤ '~' && !(['"', '#', '<', '>'].contains c)

/-- What stands for itself in a path. -/
def isPathChar (c : Char) : Bool := isQueryChar c && !(['?', '\x60', '\x7b', '\x7d'].contains c)

/-- What stands for itself before a host. -/
def isUserChar (c : Char) : Bool :=
  isPathChar c && !(['/', ';', '=', '@', '[', '\\', ']', '^', '|'].contains c)

/-- Whether a character cannot be part of any address. -/
def isControl (c : Char) : Bool := c.toNat < 32 || c.toNat == 127

/-! ### Parts -/

/-- What may follow the first letter of a scheme. -/
def isSchemeChar (c : Char) : Bool := c.isAlphanum || ['+', '.', '-'].contains c

/-- The scheme before a colon, and the rest. The scheme may be empty. -/
def splitScheme (s : List Char) : List Char × List Char :=
  let (scheme, rest) := s.span isSchemeChar
  match rest with
  | ':' :: after => if scheme.head?.all Char.isAlpha then (scheme, after) else ([], s)
  | _ => ([], s)

/-- What stands between two slashes and the path, and the rest. -/
def splitAuthority : List Char → List Char × List Char
  | '/' :: '/' :: s => s.span fun c => !(['/', '?', '#'].contains c)
  | s => ([], s)

/-- The query after a question mark, up to a fragment. -/
def queryOf : List Char → Option (List Char)
  | '?' :: s => some (s.takeWhile (· != '#'))
  | _ => none

/-- What stands before the last at sign, and what comes after it. -/
def splitUser (authority : List Char) : List Char × List Char :=
  let (reversed, rest) := authority.reverse.span (· != '@')
  ((rest.drop 1).reverse, reversed.reverse)

/-- The host, and the port after a colon. A host in square brackets ends at the last one. -/
def splitPort (s : List Char) : List Char × List Char :=
  let (host, rest) :=
    if s.head? == some '[' && s.contains ']' then
      let port := (s.reverse.takeWhile (· != ']')).reverse
      (s.take (s.length - port.length), port)
    else s.span (· != ':')
  (host, if rest.head? == some ':' then rest.drop 1 else rest)

/-- The ports that schemes imply. -/
def impliedPorts : List (String × Int) :=
  [("ftp", 21), ("http", 80), ("https", 443), ("ws", 80), ("wss", 443)]

/-- The port that is written after a host, unless the scheme implies it. -/
def portOf? (scheme port : List Char) : Option (Option Int) :=
  if port.isEmpty then some none
  else
    (Host.port? port).map fun n =>
      if impliedPorts.lookup (String.ofList scheme) == some n then none else some n

/-- The segments of a path without those of one dot, and without each one before two dots. -/
def undotted (done : List (List Char)) : List (List Char) → List (List Char)
  | [] => done.reverse
  | segment :: rest =>
    if segment == ['.'] then undotted done rest
    else if segment == ['.', '.'] then
      undotted (if done == [[]] then done else done.drop 1) rest
    else undotted (segment :: done) rest

/-- A path without dot segments. -/
def normalPath (path : List Char) : List Char :=
  ['/'].intercalate (undotted [] (Text.split '/' path))

/-- Whether a path may stand where it is: after a host it begins with a slash, and alone it does not
begin with two slashes or a colon. -/
def pathFits (hasScheme hasAuthority : Bool) (path : List Char) : Bool :=
  let startsWith := fun (s : String) => s.toList.isPrefixOf path
  (!hasAuthority || path.isEmpty || startsWith "/")
    && (hasScheme || hasAuthority || !(startsWith "//" || startsWith ":"))

/-- How long an address may be. -/
def maxLength : Nat := 65536

/-- The address that a text denotes, if it is well-formed. -/
def ofText? (text : String) : Option Url := do
  let s := text.toList
  if maxLength < s.length || s.any isControl then none
  let (scheme, rest) := splitScheme s
  let (authority, rest) := splitAuthority rest
  let (path, rest) := rest.span fun c => !(['?', '#'].contains c)
  let (user, place) := splitUser authority
  let (hostText, portText) := splitPort place
  let user := Host.quoted isUserChar user
  let host ← Host.normal? hostText
  let port ← portOf? scheme portText
  let hasScheme := !scheme.isEmpty
  let hasAuthority := !user.isEmpty || !host.isEmpty || port.isSome
  if !pathFits hasScheme hasAuthority path then none
  let path := if hasScheme || hasAuthority then normalPath path else path
  return { scheme := String.ofList (scheme.map Char.toLower)
           user := String.ofList user
           host := String.ofList host
           port
           path := String.ofList (Host.quoted isPathChar path)
           query := (queryOf rest).map fun q => String.ofList (Host.quoted isQueryChar q) }

/-- Whether an address tells how to get to it: it has a scheme and a host. -/
def isAbsolute (url : Url) : Bool := url.scheme != "" && url.host != ""

/-- What is asked for at a host: the path and the query. -/
def target (url : Url) : String :=
  (if url.path = "" then "/" else url.path) ++ ((url.query.map ("?" ++ ·)).getD "")

/-- An address that does not tell how to get to it, taken as a path and a query from the root on. -/
def fromRoot (url : Url) : String :=
  String.ofList ('/' :: url.target.toList.dropWhile (· == '/'))

/-- The address that a request goes to. -/
def ofRequest? (text : String) : Option Url := do
  let url ← ofText? text
  if url.isAbsolute then return url else ofText? url.fromRoot

/-! ### Credentials -/

/-- The bytes of a text in which bytes may be written after percent signs. -/
def unquotedBytes : List Char → List UInt8
  | '%' :: a :: b :: s =>
    match Text.hexDigit? a, Text.hexDigit? b with
    | some high, some low => (high * 16 + low).toUInt8 :: unquotedBytes s
    | _, _ => '%'.toUInt8 :: unquotedBytes (a :: b :: s)
  | c :: s => String.utf8EncodeChar c ++ unquotedBytes s
  | [] => []

/-- The text in which bytes may be written after percent signs. -/
def unquoted (s : List Char) : String :=
  String.ofList (Unicode.softened (Unicode.utf8 false (unquotedBytes s)))

/-- The name and the password in an address, with a colon between them, if there is one of them. -/
def credentials? (url : Url) : Option String :=
  let (name, rest) := url.user.toList.span (· != ':')
  let name := unquoted name
  let password := unquoted (rest.drop 1)
  if name = "" ∧ password = "" then none else some (name ++ ":" ++ password)

end Url

end ApiTools
