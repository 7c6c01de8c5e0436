import ApiTools.Text.Blank
import ApiTools.Value.Access

/-!
# Where the service is

The service is reached below a base URL that ends in `/api`, with a key. Both are read from
settings given by name.

## Main definitions

* `Endpoint.normalize` — a base URL in its normal form.
* `Endpoint.url` — the URL of a method.
* `Settings.ofEnvironment` — the settings.
-/

namespace ApiTools

namespace Endpoint

/-- Whether a character is a slash. -/
def isSlash (c : Char) : Bool := c == '/'

/-- What every base URL ends in. -/
def ending : List Char := ['/', 'a', 'p', 'i']

/-- A base URL in its normal form: without white space around it or slashes at its end, and ending
in `/api`. -/
def normalize (url : String) : Except Fault String :=
  match Text.trim url.toList with
  | [] => .error .emptyBaseUrl
  | trimmed =>
    let bare := Text.trimEnd isSlash trimmed
    .ok (String.ofList (if ending.isSuffixOf bare then bare else bare ++ ending))

/-- The URL of a method below a base URL, with one slash between them. -/
def url (base method : String) : String :=
  String.ofList (Text.trimEnd isSlash base.toList ++ '/' :: method.toList.dropWhile isSlash)

end Endpoint

/-- How the service is reached. -/
structure Settings where
  /-- The key sent with every request. -/
  apiKey : String
  /-- The base URL. -/
  baseUrl : String
  /-- The seconds to wait for an answer. -/
  timeout : Double

namespace Settings

/-- The base URL if none is given. -/
def defaultBaseUrl : String := "https://app.getoutline.com/api"

/-- Half a minute. -/
def defaultTimeout : Double := .ofDecimal false 30 0

/-- The settings given by name. -/
def ofEnvironment (environment : Value) : Except Fault Settings := do
  let key ← ((← environment.field? "OUTLINE_API_KEY").getD (.text "")).textOrFail
  match Text.trim key.toList with
  | [] => throw .noApiKey
  | apiKey =>
    let given := (← environment.field "OUTLINE_BASE_URL").orElse (.text defaultBaseUrl)
    let baseUrl ← Endpoint.normalize (← given.textOrFail)
    return { apiKey := String.ofList apiKey, baseUrl, timeout := defaultTimeout }

end Settings

end ApiTools
