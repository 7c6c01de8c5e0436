import ApiTools.Proofs.Http.Response
import ApiTools.Proofs.Json.Halves

/-!
# Calls that follow each other

A tool call is decided by two validators.  The one of the arguments says whether a request is sent at
all; the one of the answer, if there is one, says whether the answer is returned.  So the requests of
a sequence of calls are those of the calls whose arguments are taken, in order and one for each, and
what a call comes to is settled by its arguments and its answer.

A request has to be written before it is sent.  That takes a key in ASCII, integers that are not too
long and texts without halves, and nothing is sent where one of them is missing.

## Main definitions

* `Validator.takes`, `Validator.Refuses` — a check succeeds, or reports a violation.
* `Dispatch.Call` — a call of a tool, with what the service answers if it is asked.
* `Dispatch.Call.WellFormed` — a call with an address and arguments in JSON.
* `Dispatch.Call.isWritable`, `Dispatch.Call.Posts` — whether there is a request for a call, and the
  request.
* `Dispatch.Call.Goes` — the ways in which a call goes.
* `Dispatch.Call.IsSettled` — what a call comes to.
* `Dispatch.requestsOf` — the requests of a sequence of calls.

## Main results

* `Dispatch.exists_request_iff` — **there is a request exactly for the calls that can be written.**
* `Dispatch.Call.goes` — these are all the ways.
* `Dispatch.Call.argumentsRejected_iff`, `Dispatch.Call.responseRejected_iff` — when a refusal is
  reported.
* `Dispatch.Call.isSettled` — **every call is settled by its arguments and its answer.**
* `Dispatch.forall₂_posts` — **one request is sent for each call whose arguments are taken and can be
  written.**
* `Dispatch.posts_of_taken` — both, for sequences of calls.
* `Dispatch.not_forall₂_posts` — a call that cannot be written is not sent, even if it is taken.
-/

namespace ApiTools

namespace Validator

variable {v : Validator} {x : Value}

/-- Whether a check succeeds. -/
def takes (v : Validator) (x : Value) : Bool := (v.check x).toBool

/-- A check reports a violation. -/
def Refuses (v : Validator) (x : Value) : Prop :=
  ∃ place message, v.check x = .error (.violation place message)

theorem takes_iff : v.takes x = true ↔ v.check x = .ok () := by
  unfold takes
  cases v.check x with
  | ok u => simp [Except.toBool]
  | error fault => simp [Except.toBool]

/-- A check succeeds, reports a violation, or finds a name that is no key. -/
theorem check_cases (v : Validator) (x : Value) :
    v.check x = .ok () ∨ v.Refuses x ∨ v.check x = .error .illTyped := by
  cases hschema : v.schema? with
  | error fault =>
    have hfault : fault = .illTyped := by
      unfold schema? at hschema
      split at hschema
      · cases hschema
      · exact (Except.error.inj hschema).symm
    refine Or.inr (Or.inr ?_)
    rw [check, hschema, hfault]
    rfl
  | ok schema =>
    unfold Refuses check
    rw [hschema]
    cases v.finding? x with
    | none => exact Or.inl rfl
    | some f => exact Or.inr (Or.inl ⟨_, _, rfl⟩)

/-- What is taken is not refused. -/
theorem not_refuses_of_takes (h : v.takes x = true) : ¬v.Refuses x := by
  rintro ⟨place, message, hrefuses⟩
  rw [takes_iff.mp h] at hrefuses
  cases hrefuses

end Validator

namespace Dispatch

/-- A call of a tool, with what the service answers if it is asked. -/
structure Call where
  /-- The tool. -/
  tool : Tool
  /-- The arguments, null if there are none. -/
  arguments : Value
  /-- The answer. -/
  response : Response

namespace Call

/-- The arguments that are checked and sent; none are an empty map. -/
def payload (c : Call) : Value := if c.arguments = .null then .map [] else c.arguments

/-- Whether the arguments are taken. -/
def isTaken (c : Call) : Bool := c.tool.input.takes c.payload

variable (settings : Settings)

/-- What comes of the call, and what is sent for it. -/
def exchange (c : Call) : Exchange ToolResult := dispatch settings c.tool c.arguments c.response

/-- What the service answers to the request for the call. -/
def answer (c : Call) : Except Fault Value :=
  (call settings c.tool.methodName c.payload c.response).result

/-- A call of a method that has an address, with arguments in JSON. -/
structure WellFormed (c : Call) : Prop where
  /-- Its method has a well-formed address, in which there is no half. -/
  address : ∃ name url, c.tool.methodName = .text name ∧
    Text.isWhole (Endpoint.url settings.baseUrl name) = true ∧
    Url.ofRequest? (Text.softened (Endpoint.url settings.baseUrl name)) = some url
  /-- Its arguments are in JSON, with finite numbers. -/
  json : c.payload.IsFiniteJson

/-- Whether the request for the call can be written: the key has to be ASCII, the integers of the
arguments must not have too many digits, and no half must be in their texts and keys. -/
def isWritable (c : Call) : Bool :=
  Response.isAscii settings.apiKey && c.payload.fits && c.payload.allTexts Text.isWhole

/-- A request posts the arguments of a call to the address of its method. -/
structure Posts (c : Call) (request : Request) : Prop where
  /-- It is a post. -/
  verb : request.verb = "POST"
  /-- It goes to the address of the method. -/
  url : ∃ name, c.tool.methodName = .text name ∧ request.url = Endpoint.url settings.baseUrl name
  /-- Its body is in JSON. -/
  contentType : request.contentType = some "application/json"
  /-- The body is what the arguments are. -/
  body : Json.write Json.compact c.payload = .ok request.body

end Call

variable {settings : Settings} {c : Call}

/-! ### The request for a call -/

theorem payload_ne_null (c : Call) : c.payload ≠ .null := by
  unfold Call.payload
  split
  · simp
  · assumption

/-- What is written of the arguments is their body, unless there is a half in them. -/
theorem requestBody_payload (hjson : c.payload.IsFiniteJson) {text : String}
    (htext : Json.write Json.compact c.payload = .ok text) :
    requestBody c.payload = if c.payload.allTexts Text.isWhole then
      .ok (some "application/json", text) else .error .notEncodable := by
  have hwhole := Json.isWhole_write_iff hjson.1 htext
  unfold requestBody
  rw [if_neg (payload_ne_null c), if_neg (by simp [hjson.2]), htext]
  change (if (!Text.isWhole text) = true then Except.error Fault.notEncodable else
    Except.ok (some "application/json", text)) = _
  by_cases hall : c.payload.allTexts Text.isWhole = true
  · rw [if_neg (by simp [hwhole.mpr hall]), if_pos hall]
  · rw [if_pos (by simpa using mt hwhole.mp hall), if_neg hall]

/-- The request for a method with an address needs a proof of identity and a body. -/
theorem request_of_address {name : String} {url : Url} (hmethod : c.tool.methodName = .text name)
    (hwhole : Text.isWhole (Endpoint.url settings.baseUrl name) = true)
    (hurl : Url.ofRequest? (Text.softened (Endpoint.url settings.baseUrl name)) = some url) :
    request settings c.tool.methodName c.payload =
      authorization settings.apiKey url >>= fun identity =>
        requestBody c.payload >>= fun body =>
          .ok ({ verb := "POST", url := Endpoint.url settings.baseUrl name,
                 accept := "application/json", authorization := identity, contentType := body.1,
                 body := body.2 }, url) := by
  have hname : (Value.text name).textOrFail = .ok name := rfl
  unfold request
  rw [hmethod, hname]
  dsimp only [bind, Except.bind]
  rw [hurl]
  dsimp only
  rw [if_neg (by simp [hwhole])]
  rfl

/-- There is a proof of identity exactly for a key in ASCII. -/
theorem exists_authorization_iff {key : String} (url : Url) :
    (∃ identity, authorization key url = .ok identity) ↔ Response.isAscii key = true := by
  unfold authorization
  cases hkey : Response.isAscii key with
  | false => simp
  | true =>
    refine iff_of_true ?_ rfl
    rw [if_neg (by simp)]
    -- Credentials in the address stand in for the key.
    split
    · exact ⟨_, rfl⟩
    · exact ⟨_, rfl⟩

/-- A request posts the arguments, and both the key and the arguments can be written. -/
theorem posts_of_request (h : c.WellFormed settings) {sent : Request} {url : Url}
    (hrequest : request settings c.tool.methodName c.payload = .ok (sent, url)) :
    c.isWritable settings = true ∧ c.Posts settings sent := by
  obtain ⟨name, address, hmethod, hwhole, haddress⟩ := h.address
  rw [request_of_address hmethod hwhole haddress] at hrequest
  obtain ⟨identity, hidentity, hrequest⟩ := Except.bind_eq_ok_iff.mp hrequest
  obtain ⟨body, hbody, hrequest⟩ := Except.bind_eq_ok_iff.mp hrequest
  obtain ⟨rfl, -⟩ := Prod.mk.inj (Except.ok.inj hrequest)
  have hkey := (exists_authorization_iff address).mp ⟨identity, hidentity⟩
  -- There is a body, so the arguments were written.
  obtain ⟨text, htext⟩ : ∃ text, Json.write Json.compact c.payload = .ok text := by
    unfold requestBody at hbody
    rw [if_neg (payload_ne_null c), if_neg (by simp [h.json.2])] at hbody
    obtain ⟨text, htext, -⟩ := Except.bind_eq_ok_iff.mp hbody
    exact ⟨text, htext⟩
  have hfits := (Json.exists_write_iff h.json.1 Json.compact).mp ⟨text, htext⟩
  rw [requestBody_payload h.json htext] at hbody
  split at hbody
  · next hall =>
    obtain rfl := Except.ok.inj hbody
    exact ⟨by simp [Call.isWritable, hkey, hfits, hall], rfl, ⟨name, hmethod, rfl⟩, rfl, htext⟩
  · cases hbody

/-- **There is a request exactly for the calls that can be written.** -/
theorem exists_request_iff (h : c.WellFormed settings) :
    (∃ found, request settings c.tool.methodName c.payload = .ok found) ↔
      c.isWritable settings = true := by
  refine ⟨fun ⟨_, hrequest⟩ => (posts_of_request h hrequest).1, fun hwritable => ?_⟩
  obtain ⟨hwritable, hall⟩ := Bool.and_eq_true_iff.mp hwritable
  obtain ⟨hkey, hfits⟩ := Bool.and_eq_true_iff.mp hwritable
  obtain ⟨name, url, hmethod, hwhole, hurl⟩ := h.address
  obtain ⟨text, htext⟩ := (Json.exists_write_iff h.json.1 Json.compact).mpr hfits
  obtain ⟨identity, hidentity⟩ := (exists_authorization_iff url).mpr hkey
  rw [request_of_address hmethod hwhole hurl, hidentity, requestBody_payload h.json htext,
    if_pos hall]
  exact ⟨_, rfl⟩

/-- Where the integers are not too long, a request fails for the key or for a half. -/
theorem request_eq_error (h : c.WellFormed settings) (hfits : c.payload.fits = true) {fault : Fault}
    (hrequest : request settings c.tool.methodName c.payload = .error fault) :
    fault = .notAscii ∨ fault = .notEncodable := by
  obtain ⟨name, url, hmethod, hwhole, hurl⟩ := h.address
  obtain ⟨text, htext⟩ := (Json.exists_write_iff h.json.1 Json.compact).mpr hfits
  rw [request_of_address hmethod hwhole hurl, requestBody_payload h.json htext] at hrequest
  cases hidentity : authorization settings.apiKey url with
  | error found =>
    rw [hidentity] at hrequest
    obtain rfl : found = fault := Except.error.inj hrequest
    unfold authorization at hidentity
    split at hidentity
    · exact .inl (Except.error.inj hidentity).symm
    · split at hidentity <;> cases hidentity
  | ok identity =>
    rw [hidentity] at hrequest
    split at hrequest
    · cases hrequest
    · exact .inr (Except.error.inj hrequest).symm

/-- For a call that can be written one request is sent. -/
theorem exists_sent (h : c.WellFormed settings) (hwritable : c.isWritable settings = true) :
    ∃ sent, c.Posts settings sent ∧
      (call settings c.tool.methodName c.payload c.response).requests = [sent] := by
  obtain ⟨⟨sent, url⟩, hrequest⟩ := (exists_request_iff h).mpr hwritable
  refine ⟨sent, (posts_of_request h hrequest).2, ?_⟩
  unfold call
  rw [hrequest]

/-- For a call that cannot be written nothing is sent. -/
theorem requests_of_not_writable (h : c.WellFormed settings)
    (hwritable : c.isWritable settings = false) :
    (call settings c.tool.methodName c.payload c.response).requests = [] := by
  unfold call
  cases hrequest : request settings c.tool.methodName c.payload with
  | error fault => rfl
  | ok found =>
    obtain ⟨sent, url⟩ := found
    rw [(posts_of_request h hrequest).1] at hwritable
    cases hwritable

/-- What goes wrong with the service or the request is no refusal. -/
theorem isRefusal_of_answer (h : c.WellFormed settings) (hfits : c.payload.fits = true)
    {fault : Fault} (hanswer : c.answer settings = .error fault) : fault.isRefusal = false := by
  unfold Call.answer call at hanswer
  cases hrequest : request settings c.tool.methodName c.payload with
  | ok found =>
    obtain ⟨sent, url⟩ := found
    rw [hrequest] at hanswer
    exact Response.failsOnly_outcome c.response url fault hanswer
  | error found =>
    rw [hrequest] at hanswer
    obtain rfl : found = fault := Except.error.inj hanswer
    rcases request_eq_error h hfits hrequest with rfl | rfl <;> rfl

/-! ### What comes of one call -/

/-- A call whose arguments are taken goes to the service, and its answer to the tool. -/
theorem exchange_of_taken (settings : Settings) (h : c.isTaken = true) :
    (c.exchange settings).requests =
        (call settings c.tool.methodName c.payload c.response).requests ∧
      (c.exchange settings).result = c.answer settings >>= shape c.tool := by
  have hpayload : (if c.arguments = .null then Value.map [] else c.arguments) = c.payload := rfl
  have hcheck : c.tool.input.check c.payload = .ok () := Validator.takes_iff.mp h
  unfold Call.exchange dispatch checkArguments
  dsimp only
  rw [hpayload, hcheck]
  exact ⟨rfl, rfl⟩

/-- Nothing is sent for a call whose arguments are not taken. They are refused, or the validator has
a name that is no key. -/
theorem exchange_of_not_taken (settings : Settings) (h : c.isTaken = false) :
    (c.exchange settings).requests = [] ∧
      ((∃ place message, c.tool.input.check c.payload = .error (.violation place message) ∧
        (c.exchange settings).result = .error (.argumentsRejected c.tool.name place message)) ∨
      (c.tool.input.check c.payload = .error .illTyped ∧
        (c.exchange settings).result = .error .illTyped)) := by
  have hpayload : (if c.arguments = .null then Value.map [] else c.arguments) = c.payload := rfl
  unfold Call.exchange dispatch checkArguments
  dsimp only
  rw [hpayload]
  rcases Validator.check_cases c.tool.input c.payload with hok | ⟨place, message, hrefuses⟩ | hfault
  · rw [Call.isTaken, Validator.takes_iff.mpr hok] at h
    cases h
  · rw [hrefuses]
    exact ⟨rfl, Or.inl ⟨place, message, rfl, rfl⟩⟩
  · rw [hfault]
    exact ⟨rfl, Or.inr ⟨rfl, rfl⟩⟩

namespace Call

/-- The ways in which a call goes. -/
inductive Goes (settings : Settings) (c : Call) : Except Fault ToolResult → Prop where
  /-- The arguments are refused. -/
  | refused (place message : String)
    (hcheck : c.tool.input.check c.payload = .error (.violation place message)) :
    Goes settings c (.error (.argumentsRejected c.tool.name place message))
  /-- The arguments cannot be checked. -/
  | unchecked (hcheck : c.tool.input.check c.payload = .error .illTyped) :
    Goes settings c (.error .illTyped)
  /-- The service gives no answer. -/
  | unanswered (htaken : c.isTaken = true) (fault : Fault)
    (hanswer : c.answer settings = .error fault) : Goes settings c (.error fault)
  /-- The answer is returned as it came. -/
  | plain (htaken : c.isTaken = true) (answer : Value) (hanswer : c.answer settings = .ok answer)
    (houtput : c.tool.output = none) : Goes settings c (.ok ⟨answer, none⟩)
  /-- The answer is returned with its view. -/
  | viewed (htaken : c.isTaken = true) (answer : Value) (hanswer : c.answer settings = .ok answer)
    (output : Validator) (houtput : c.tool.output = some output)
    (hcheck : output.check (view answer) = .ok ()) :
    Goes settings c (.ok ⟨answer, some (view answer)⟩)
  /-- The answer is refused. -/
  | refusedAnswer (htaken : c.isTaken = true) (answer : Value)
    (hanswer : c.answer settings = .ok answer) (output : Validator)
    (houtput : c.tool.output = some output) (place message : String)
    (hcheck : output.check (view answer) = .error (.violation place message)) :
    Goes settings c (.error (.responseRejected c.tool.name place message))
  /-- The answer cannot be checked. -/
  | uncheckedAnswer (htaken : c.isTaken = true) (answer : Value)
    (hanswer : c.answer settings = .ok answer) (output : Validator)
    (houtput : c.tool.output = some output) (hcheck : output.check (view answer) = .error .illTyped) :
    Goes settings c (.error .illTyped)

/-- **These are all the ways.** -/
theorem goes (settings : Settings) (c : Call) : c.Goes settings (c.exchange settings).result := by
  cases htaken : c.isTaken with
  | false =>
    rcases (exchange_of_not_taken settings htaken).2 with
      ⟨place, message, hcheck, hresult⟩ | ⟨hcheck, hresult⟩
    · rw [hresult]
      exact .refused place message hcheck
    · rw [hresult]
      exact .unchecked hcheck
  | true =>
    rw [(exchange_of_taken settings htaken).2]
    cases hanswer : c.answer settings with
    | error fault => exact .unanswered htaken fault hanswer
    | ok answer =>
      change c.Goes settings (shape c.tool answer)
      unfold shape
      cases houtput : c.tool.output with
      | none => exact .plain htaken answer hanswer houtput
      | some output =>
        dsimp only
        rcases Validator.check_cases output (view answer) with hok | ⟨place, message, hno⟩ | hno
        · rw [hok]
          exact .viewed htaken answer hanswer output houtput hok
        · rw [hno]
          exact .refusedAnswer htaken answer hanswer output houtput place message hno
        · rw [hno]
          exact .uncheckedAnswer htaken answer hanswer output houtput hno

/-- What a call comes to. -/
structure IsSettled (settings : Settings) (c : Call) : Prop where
  /-- Arguments are reported as refused exactly when they are. -/
  refusedArguments : (∃ place message, (c.exchange settings).result =
    .error (.argumentsRejected c.tool.name place message)) ↔ c.tool.input.Refuses c.payload
  /-- Nothing is sent for them. -/
  unsent : c.tool.input.Refuses c.payload → (c.exchange settings).requests = []
  /-- A result has the answer as it came. It has the view of the answer exactly when the tool has a
  validator for it, which then takes the view. -/
  returned : ∀ result, (c.exchange settings).result = .ok result →
    c.answer settings = .ok result.raw ∧ (result.structured = none ↔ c.tool.output = none) ∧
      ∀ output, c.tool.output = some output →
        result.structured = some (view result.raw) ∧ output.takes (view result.raw) = true
  /-- An answer to arguments that are taken is returned unless the tool has a validator that does not
  take its view. -/
  returns : c.isTaken = true → ∀ answer, c.answer settings = .ok answer →
    (∀ output, c.tool.output = some output → output.takes (view answer) = true) →
      ∃ result, (c.exchange settings).result = .ok result
  /-- An answer is reported as refused exactly when the tool has a validator that refuses its view. -/
  refusedAnswer : (∃ place message, (c.exchange settings).result =
    .error (.responseRejected c.tool.name place message)) ↔
      c.isTaken = true ∧ ∃ answer output, c.answer settings = .ok answer ∧
        c.tool.output = some output ∧ output.Refuses (view answer)

/-- Refused arguments are not taken. -/
theorem isTaken_of_refuses (h : c.tool.input.Refuses c.payload) : c.isTaken = false := by
  rw [← Bool.not_eq_true]
  exact fun htaken => Validator.not_refuses_of_takes htaken h

/-- An answer to arguments that are taken is given to the tool. -/
theorem result_of_answer (htaken : c.isTaken = true) {answer : Value}
    (hanswer : c.answer settings = .ok answer) :
    (c.exchange settings).result = shape c.tool answer := by
  rw [(exchange_of_taken settings htaken).2, hanswer]
  rfl

/-- Arguments are reported as refused exactly when they are. -/
theorem argumentsRejected_iff (h : c.WellFormed settings) (hfits : c.payload.fits = true) :
    (∃ place message, (c.exchange settings).result =
      .error (.argumentsRejected c.tool.name place message)) ↔ c.tool.input.Refuses c.payload := by
  constructor
  · rintro ⟨place, message, hresult⟩
    have hgoes := c.goes settings
    rw [hresult] at hgoes
    cases hgoes with
    | refused _ _ hcheck => exact ⟨place, message, hcheck⟩
    | unanswered _ _ hanswer => exact nomatch isRefusal_of_answer h hfits hanswer
  · rintro ⟨place, message, hcheck⟩
    have hnot := isTaken_of_refuses ⟨place, message, hcheck⟩
    rcases (exchange_of_not_taken settings hnot).2 with ⟨place, message, -, hresult⟩ | ⟨hno, -⟩
    · exact ⟨place, message, hresult⟩
    · rw [hcheck] at hno
      cases hno

/-- A result has the answer as it came, and its view if the tool has a validator for it. -/
theorem answer_of_result {result : ToolResult} (hresult : (c.exchange settings).result = .ok result) :
    c.answer settings = .ok result.raw ∧ (result.structured = none ↔ c.tool.output = none) ∧
      ∀ output, c.tool.output = some output →
        result.structured = some (view result.raw) ∧ output.takes (view result.raw) = true := by
  have hgoes := c.goes settings
  rw [hresult] at hgoes
  cases hgoes with
  | plain _ answer hanswer houtput =>
    refine ⟨hanswer, iff_of_true rfl houtput, fun output hsome => ?_⟩
    rw [houtput] at hsome
    cases hsome
  | viewed _ answer hanswer output houtput hcheck =>
    refine ⟨hanswer, iff_of_false (by simp) (by simp [houtput]), fun other hsome => ?_⟩
    obtain rfl := Option.some.inj (houtput.symm.trans hsome)
    exact ⟨rfl, Validator.takes_iff.mpr hcheck⟩

/-- An answer whose view is taken is returned. -/
theorem exists_result (htaken : c.isTaken = true) {answer : Value}
    (hanswer : c.answer settings = .ok answer)
    (htakes : ∀ output, c.tool.output = some output → output.takes (view answer) = true) :
    ∃ result, (c.exchange settings).result = .ok result := by
  rw [result_of_answer htaken hanswer]
  unfold shape
  cases houtput : c.tool.output with
  | none => exact ⟨_, rfl⟩
  | some output =>
    dsimp only
    rw [Validator.takes_iff.mp (htakes output houtput)]
    exact ⟨_, rfl⟩

/-- An answer is reported as refused exactly when its view is. -/
theorem responseRejected_iff (h : c.WellFormed settings) (hfits : c.payload.fits = true) :
    (∃ place message, (c.exchange settings).result =
      .error (.responseRejected c.tool.name place message)) ↔
        c.isTaken = true ∧ ∃ answer output, c.answer settings = .ok answer ∧
          c.tool.output = some output ∧ output.Refuses (view answer) := by
  constructor
  · rintro ⟨place, message, hresult⟩
    have hgoes := c.goes settings
    rw [hresult] at hgoes
    cases hgoes with
    | unanswered _ _ hanswer => exact nomatch isRefusal_of_answer h hfits hanswer
    | refusedAnswer htaken answer hanswer output houtput _ _ hcheck =>
      exact ⟨htaken, answer, output, hanswer, houtput, place, message, hcheck⟩
  · rintro ⟨htaken, answer, output, hanswer, houtput, place, message, hcheck⟩
    refine ⟨place, message, ?_⟩
    rw [result_of_answer htaken hanswer]
    unfold shape
    rw [houtput]
    dsimp only
    rw [hcheck]

/-- **Every call is settled by its arguments and its answer.** -/
theorem isSettled (h : c.WellFormed settings) (hfits : c.payload.fits = true) :
    c.IsSettled settings where
  refusedArguments := argumentsRejected_iff h hfits
  unsent hrefuses := (exchange_of_not_taken settings (isTaken_of_refuses hrefuses)).1
  returned _ hresult := answer_of_result hresult
  returns htaken _ hanswer htakes := exists_result htaken hanswer htakes
  refusedAnswer := responseRejected_iff h hfits

end Call

/-! ### Sequences of calls -/

/-- The requests sent for a sequence of calls. -/
def requestsOf (settings : Settings) (calls : List Call) : List Request :=
  calls.flatMap fun c => (c.exchange settings).requests

/-- **One request is sent for each call whose arguments are taken and can be written**, in order. -/
theorem forall₂_posts {calls : List Call} (hcalls : ∀ c ∈ calls, c.WellFormed settings) :
    List.Forall₂ (Call.Posts settings)
      (calls.filter fun c => c.isTaken && c.isWritable settings) (requestsOf settings calls) := by
  induction calls with
  | nil => exact .nil
  | cons c calls ih =>
    obtain ⟨hfirst, hrest⟩ := List.forall_mem_cons.mp hcalls
    have hcons : requestsOf settings (c :: calls) =
        (c.exchange settings).requests ++ requestsOf settings calls := List.flatMap_cons
    rw [hcons]
    -- The first call adds one request or none, and the filter keeps it or drops it.
    cases htaken : c.isTaken with
    | false =>
      rw [List.filter_cons_of_neg (by simp [htaken]), (exchange_of_not_taken settings htaken).1]
      exact ih hrest
    | true =>
      rw [(exchange_of_taken settings htaken).1]
      cases hwritable : c.isWritable settings with
      | false =>
        rw [List.filter_cons_of_neg (by simp [hwritable]),
          requests_of_not_writable hfirst hwritable]
        exact ih hrest
      | true =>
        obtain ⟨sent, hposts, hsent⟩ := exists_sent hfirst hwritable
        rw [List.filter_cons_of_pos (by simp [htaken, hwritable]), hsent]
        exact .cons hposts (ih hrest)

/-- **Calls send only arguments that are taken, and return only views that are taken.**  One request
is sent for each call whose arguments are taken and can be written, in order; it posts the arguments
as they are to the address of the method.  Nothing is sent for the others.  What each call comes to
is settled by its arguments and its answer.  This is said of integers that are not too long, since a
refusal shows what it is about. -/
theorem posts_of_taken {calls : List Call} (hcalls : ∀ c ∈ calls, c.WellFormed settings) :
    List.Forall₂ (Call.Posts settings)
        (calls.filter fun c => c.isTaken && c.isWritable settings) (requestsOf settings calls) ∧
      ∀ c ∈ calls, c.payload.fits = true → c.IsSettled settings :=
  ⟨forall₂_posts hcalls, fun c hc hfits => Call.isSettled (hcalls c hc) hfits⟩

/-! ### Calls of one tool -/

/-- A service that is reached with a key. -/
def serviceWith (key : String) : Settings :=
  { apiKey := key, baseUrl := "https://outline.test/api", timeout := Settings.defaultTimeout }

/-- A tool that takes and returns maps. -/
def infoTool : Tool :=
  { name := .text "documents_info", title := .text "Documents info", description := .text "",
    methodName := .text "documents.info", input := .object .null [] (.allow none),
    output := some (.object .null [] (.allow none)),
    annotations :=
      { readOnly := true, destructive := false, idempotent := true, openWorld := true } }

/-- A call of the tool that is answered by a map. -/
def infoCall (arguments : Value) : Call :=
  { tool := infoTool
    arguments
    response :=
      { status := 200, headers := [("content-type", "application/json")],
        body := "\x7b\"ok\":true\x7d".toUTF8.data.toList } }

/-- Arguments with a text. -/
def textArguments : Value := .record [("id", .text "a")]

/-- Arguments with an integer of too many digits. -/
def longArguments : Value := .record [("id", .int (Double.tenTo Text.maxDigits))]

/-- Arguments with a half in a text. -/
def halfArguments : Value := .record [("id", .text (Text.ofPoints [.half 0]))]

/-- The method of the tool has an address, whatever the key is. -/
theorem wellFormed_infoCall (key : String) (arguments : Value)
    (hjson : (infoCall arguments).payload.IsFiniteJson) :
    (infoCall arguments).WellFormed (serviceWith key) := by
  have hwhole :
      Text.isWhole (Endpoint.url "https://outline.test/api" "documents.info") = true := by
    decide +kernel
  have haddress : (Url.ofRequest? (Text.softened
      (Endpoint.url "https://outline.test/api" "documents.info"))).isSome = true := by
    decide +kernel
  obtain ⟨url, hurl⟩ := Option.isSome_iff_exists.mp haddress
  exact ⟨⟨"documents.info", url, rfl, hwhole, hurl⟩, hjson⟩

/-- Of three calls the first is sent, the second is not taken and the third cannot be written. -/
theorem posts_of_taken_infoCalls :
    let calls := [infoCall textArguments, infoCall (.list []), infoCall longArguments]
    calls.map Call.isTaken = [true, false, true] ∧
      calls.map (Call.isWritable (serviceWith "key")) = [true, true, false] ∧
      List.Forall₂ (Call.Posts (serviceWith "key")) [infoCall textArguments]
        (requestsOf (serviceWith "key") calls) ∧
      (infoCall textArguments).IsSettled (serviceWith "key") ∧
      (infoCall (.list [])).IsSettled (serviceWith "key") := by
  have hcalls : ∀ c ∈ [infoCall textArguments, infoCall (.list []), infoCall longArguments],
      c.WellFormed (serviceWith "key") := by
    simp only [List.forall_mem_cons]
    refine ⟨wellFormed_infoCall _ _ ?_, wellFormed_infoCall _ _ ?_, wellFormed_infoCall _ _ ?_,
      by simp⟩
    · decide +kernel
    · decide +kernel
    · decide +kernel
  obtain ⟨hposts, hsettled⟩ := posts_of_taken hcalls
  have htaken : [infoCall textArguments, infoCall (.list []), infoCall longArguments].map
      Call.isTaken = [true, false, true] := by decide +kernel
  have hwritable : [infoCall textArguments, infoCall (.list []), infoCall longArguments].map
      (Call.isWritable (serviceWith "key")) = [true, true, false] := by decide +kernel
  refine ⟨htaken, hwritable, ?_, hsettled _ (by simp) (by decide +kernel),
    hsettled _ (by simp) (by decide +kernel)⟩
  simp only [List.map_cons, List.map_nil, List.cons.injEq, and_true] at htaken hwritable
  obtain ⟨htext, hlist, hlong⟩ := htaken
  obtain ⟨htext', -, hlong'⟩ := hwritable
  rw [List.filter_cons_of_pos (by simp [htext, htext']), List.filter_cons_of_neg (by simp [hlist]),
    List.filter_cons_of_neg (by simp [hlong'])] at hposts
  exact hposts

/-! ### Calls that are not sent -/

/-- A call that is taken and cannot be written is not sent. -/
theorem not_forall₂_posts {c : Call} (h : c.WellFormed settings) (htaken : c.isTaken = true)
    (hwritable : c.isWritable settings = false) :
    ¬List.Forall₂ (Call.Posts settings) ([c].filter Call.isTaken) (requestsOf settings [c]) := by
  have hnone : requestsOf settings [c] = [] := by
    rw [requestsOf, List.flatMap_singleton, (exchange_of_taken settings htaken).1,
      requests_of_not_writable h hwritable]
  rw [hnone, List.filter_cons_of_pos htaken]
  exact fun hposts => nomatch hposts

/-- **Not every call whose arguments are taken is sent.**  Nothing is sent with a key that is not
ASCII, and no integer of too many digits and no half. -/
theorem not_forall₂_posts_infoCall :
    ((infoCall textArguments).WellFormed (serviceWith "clé") ∧
      ¬List.Forall₂ (Call.Posts (serviceWith "clé"))
        ([infoCall textArguments].filter Call.isTaken)
        (requestsOf (serviceWith "clé") [infoCall textArguments])) ∧
    ((infoCall longArguments).WellFormed (serviceWith "key") ∧
      ¬List.Forall₂ (Call.Posts (serviceWith "key"))
        ([infoCall longArguments].filter Call.isTaken)
        (requestsOf (serviceWith "key") [infoCall longArguments])) ∧
    ((infoCall halfArguments).WellFormed (serviceWith "key") ∧
      ¬List.Forall₂ (Call.Posts (serviceWith "key"))
        ([infoCall halfArguments].filter Call.isTaken)
        (requestsOf (serviceWith "key") [infoCall halfArguments])) := by
  have htext := wellFormed_infoCall "clé" textArguments (by decide +kernel)
  have hlong := wellFormed_infoCall "key" longArguments (by decide +kernel)
  have hhalf := wellFormed_infoCall "key" halfArguments (by decide +kernel)
  refine ⟨⟨htext, not_forall₂_posts htext ?_ ?_⟩, ⟨hlong, not_forall₂_posts hlong ?_ ?_⟩, hhalf,
    not_forall₂_posts hhalf ?_ ?_⟩
  all_goals decide +kernel

end Dispatch

end ApiTools
