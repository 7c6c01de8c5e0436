import ApiTools.Proofs.Dispatch.Calls

/-!
# Answers that say that the service failed

An answer with a status that is neither that of a success nor 302 says that the service failed.  Its
body is read before its status is looked at, since it may give the reason.  So the failure is reported
exactly for answers that can be read, and an answer that cannot be read fails with what is wrong with
the reading, whatever its status is.

## Main definitions

* `Response.IsPlaced` — what an answer redirects to, if anything, can be followed.
* `Response.IsReadable` — an answer from an address can be read.

## Main results

* `Response.checkLocation_eq_ok_iff`, `Response.received_eq_ok_iff` — what each step of reading asks.
* `Response.outcome_of_failed` — an answer that says that the service failed is read, and then is a
  failure.
* `Dispatch.serviceFailure_iff_isReadable` — **a failure of the service is reported exactly for answers
  that can be read.**
* `Dispatch.serviceFailure_badGateway` — the failure of a gateway that answers in HTML is not reported
  if the answer is called JSON.
-/

namespace ApiTools

open Except

namespace Response

variable {r : Response} {url : Url} {bytes : List UInt8}

/-! ### Reading an answer -/

/-- What an answer redirects to, if it is a redirection, can be followed: it is an address, and with a
scheme and no host its path begins with a slash if there is one. -/
def IsPlaced (r : Response) : Prop :=
  ∀ location, r.header? "location" = some location → r.isRedirection = true →
    ∃ target, Url.ofText? (Text.softened location) = some target ∧
      (target.scheme = "" ∨ target.host ≠ "" ∨ target.path = "" ∨
        target.path.startsWith "/" = true)

/-- An answer from an address can be read: the address names a host, what it redirects to can be
followed, and its body can be unpacked and is JSON if it is called JSON, or else a text in the set of
characters that it is said to be in. -/
structure IsReadable (r : Response) (url : Url) : Prop where
  /-- It comes from a host. -/
  address : url.isAbsolute = true
  /-- What it redirects to can be followed. -/
  placed : r.IsPlaced
  /-- Its body can be unpacked and decoded. -/
  body : ∃ bytes content, r.unpacked = .ok bytes ∧ r.content bytes = .ok content

theorem checkLocation_eq_ok_iff : r.checkLocation = .ok () ↔ r.IsPlaced := by
  unfold checkLocation IsPlaced
  cases hlocation : r.header? "location" with
  | none => simp
  | some location =>
    cases hredirection : r.isRedirection with
    | false => simp
    | true =>
      cases htarget : Url.ofText? (Text.softened location) with
      | none => simp [htarget]
      | some target =>
        by_cases hscheme : target.scheme = ""
        · simp [htarget, hscheme]
        · by_cases hhost : target.host = ""
          · by_cases hpath : target.path = ""
            · simp [htarget, hpath]
            · simp [htarget, hscheme, hhost, hpath]
          · simp [htarget, hhost]

/-- A body that is not packed is as it came. -/
theorem unpacked_of_packings (h : r.packings = []) : r.unpacked = .ok r.body := by
  unfold unpacked
  rw [h]
  rfl

/-- The bytes of an answer are received when nothing but its decoding can be wrong. -/
theorem received_eq_ok_iff :
    r.received url = .ok bytes ↔ url.isAbsolute = true ∧ r.IsPlaced ∧ r.unpacked = .ok bytes := by
  unfold received
  cases haddress : url.isAbsolute with
  | false =>
    refine iff_of_false (fun h => ?_) (by simp)
    obtain ⟨bytes, -, h⟩ := bind_eq_ok_iff.mp h
    exact nomatch h
  | true =>
    rw [← checkLocation_eq_ok_iff]
    constructor
    · intro h
      obtain ⟨bytes, hunpacked, h⟩ := bind_eq_ok_iff.mp h
      obtain ⟨⟨⟩, hplaced, h⟩ := bind_eq_ok_iff.mp h
      obtain rfl := Except.ok.inj h
      exact ⟨rfl, hplaced, hunpacked⟩
    · rintro ⟨-, hplaced, hunpacked⟩
      exact bind_eq_ok_iff.mpr ⟨bytes, hunpacked, bind_eq_ok_iff.mpr ⟨(), hplaced, rfl⟩⟩

/-- The bytes and the content of an answer are found exactly if it can be read. -/
theorem isReadable_iff :
    r.IsReadable url ↔ ∃ content, (r.received url >>= r.content) = .ok content := by
  constructor
  · rintro ⟨haddress, hplaced, bytes, content, hunpacked, hcontent⟩
    exact ⟨content, bind_eq_ok_iff.mpr
      ⟨bytes, received_eq_ok_iff.mpr ⟨haddress, hplaced, hunpacked⟩, hcontent⟩⟩
  · rintro ⟨content, h⟩
    obtain ⟨bytes, hreceived, hcontent⟩ := bind_eq_ok_iff.mp h
    obtain ⟨haddress, hplaced, hunpacked⟩ := received_eq_ok_iff.mp hreceived
    exact ⟨haddress, hplaced, bytes, content, hunpacked, hcontent⟩

/-- What is wrong with an answer that cannot be read is not that the service failed. -/
theorem failsOnly_reading (r : Response) (url : Url) :
    FailsOnly Fault.IsOfReading (r.received url >>= r.content) :=
  .bind (failsOnly_received r url) fun bytes => failsOnly_content r bytes

/-! ### Failures -/

/-- The message about a failed answer. -/
def failureMessage (r : Response) (content : Value) : String :=
  "Outline API error: " ++ r.reason content ++ "." ++ r.guidance

/-- An answer that says that the service failed is read, and then is a failure. -/
theorem outcome_of_failed (hstatus : r.status ≠ 302) (hfailed : r.isSuccess = false) (url : Url) :
    r.outcome url = (r.received url >>= r.content) >>= fun content =>
      .error (.serviceFailure r.status (r.failureMessage content)) := by
  have hbytes : r.outcomeOf = fun bytes => r.content bytes >>= fun content =>
      .error (.serviceFailure r.status (r.failureMessage content)) := by
    funext bytes
    unfold outcomeOf
    rw [if_neg hstatus, hfailed]
    rfl
  unfold outcome
  rw [hbytes, bind_assoc]

/-- The failure of the service is what comes of a failed answer exactly if it can be read. -/
theorem outcome_eq_serviceFailure_iff (hstatus : r.status ≠ 302) (hfailed : r.isSuccess = false) :
    (∃ message, r.outcome url = .error (.serviceFailure r.status message)) ↔ r.IsReadable url := by
  rw [outcome_of_failed hstatus hfailed, isReadable_iff]
  cases hcontent : r.received url >>= r.content with
  | ok content => exact iff_of_true ⟨_, rfl⟩ ⟨content, rfl⟩
  | error fault =>
    have hfault := (failsOnly_reading r url fault hcontent).not_isServiceFailure
    refine iff_of_false ?_ (by simp)
    rintro ⟨message, h⟩
    obtain rfl := Except.error.inj h
    cases hfault

end Response

namespace Dispatch

/-- What a call comes to that is sent to an address. -/
theorem result_call_of_request {settings : Settings} {method payload : Value} {sent : Request}
    {url : Url} (hsent : request settings method payload = .ok (sent, url)) (r : Response) :
    (call settings method payload r).result = r.outcome url := by
  unfold call
  rw [hsent]

/-- **A failure of the service is reported exactly for answers that can be read.**  The status of the
failure is that of the answer.  An answer with the status of a failure that cannot be read is reported
as an answer that cannot be read, since its body is decoded before its status is looked at. -/
theorem serviceFailure_iff_isReadable {settings : Settings} {method payload : Value} {sent : Request}
    {url : Url} (hsent : request settings method payload = .ok (sent, url)) {r : Response}
    (hstatus : r.status ≠ 302) (hfailed : r.isSuccess = false) :
    ((∃ message, (call settings method payload r).result =
        .error (.serviceFailure r.status message)) ↔ r.IsReadable url) ∧
      (¬r.IsReadable url → ∃ fault, (call settings method payload r).result = .error fault ∧
        fault.IsOfReading) := by
  rw [result_call_of_request hsent]
  refine ⟨Response.outcome_eq_serviceFailure_iff hstatus hfailed, fun hunreadable => ?_⟩
  rw [Response.isReadable_iff] at hunreadable
  rw [Response.outcome_of_failed hstatus hfailed]
  cases hcontent : r.received url >>= r.content with
  | ok content => exact absurd ⟨content, hcontent⟩ hunreadable
  | error fault => exact ⟨fault, rfl, Response.failsOnly_reading r url fault hcontent⟩

/-! ### Answers to a call -/

/-- The answer of a service that does not find what it is asked for. -/
def notFound : Response :=
  { status := 404, headers := [("content-type", "application/json")],
    body := "\x7b\"error\":\"not_found\"\x7d".toUTF8.data.toList }

/-- The answer of a gateway that does not reach the service. It is called JSON and is in HTML. -/
def badGateway : Response :=
  { status := 502, headers := [("content-type", "application/json")],
    body := "<html>Bad Gateway</html>".toUTF8.data.toList }

/-- A request with an argument is sent to a host. -/
theorem exists_request_textArguments :
    ∃ sent url, request (serviceWith "key") (.text "documents.info") textArguments = .ok (sent, url) ∧
      url.isAbsolute = true := by
  have hhost : ((request (serviceWith "key") (.text "documents.info") textArguments).toOption.any
      fun found => found.2.isAbsolute) = true := by decide +kernel
  obtain ⟨found, hfound, habsolute⟩ := Except.exists_eq_ok_of_any hhost
  exact ⟨found.1, found.2, hfound, habsolute⟩

/-- The answer that says what is not found can be read, and the one of the gateway cannot. -/
theorem serviceFailure_notFound :
    (∃ message, (call (serviceWith "key") (.text "documents.info") textArguments notFound).result =
        .error (.serviceFailure 404 message)) ∧
      ∃ fault, (call (serviceWith "key") (.text "documents.info") textArguments badGateway).result =
        .error fault ∧ fault.IsOfReading := by
  obtain ⟨sent, url, hsent, haddress⟩ := exists_request_textArguments
  have hread : (notFound.content notFound.body).toOption.isSome = true := by decide +kernel
  have hunread : (badGateway.content badGateway.body).toOption.isSome = false := by decide +kernel
  refine ⟨(serviceFailure_iff_isReadable hsent (by decide) (by decide)).1.mpr
      ⟨haddress, (fun _ _ h => nomatch h), notFound.body, ?_⟩,
    (serviceFailure_iff_isReadable hsent (by decide) (by decide)).2 ?_⟩
  · cases hcontent : notFound.content notFound.body with
    | error fault =>
      rw [hcontent] at hread
      cases hread
    | ok content => exact ⟨content, Response.unpacked_of_packings (by decide +kernel), rfl⟩
  · rintro ⟨-, -, bytes, content, hunpacked, hcontent⟩
    rw [Response.unpacked_of_packings (by decide +kernel)] at hunpacked
    obtain rfl := Except.ok.inj hunpacked
    rw [hcontent] at hunread
    cases hunread

/-- **Not every failure of the service is reported.**  The answer of the gateway is called JSON and is
not, so that it is reported as an answer that cannot be read. -/
theorem serviceFailure_badGateway :
    badGateway.status ≠ 302 ∧ badGateway.isSuccess = false ∧
      (∃ found, request (serviceWith "key") (.text "documents.info") textArguments = .ok found) ∧
      ¬∃ message, (call (serviceWith "key") (.text "documents.info") textArguments
        badGateway).result = .error (.serviceFailure badGateway.status message) := by
  obtain ⟨sent, url, hsent, -⟩ := exists_request_textArguments
  have hfault : (call (serviceWith "key") (.text "documents.info") textArguments
      badGateway).result.fails Fault.isServiceFailure = false := by decide +kernel
  refine ⟨by decide, by decide, ⟨_, hsent⟩, ?_⟩
  rintro ⟨message, hresult⟩
  rw [hresult] at hfault
  cases hfault

end Dispatch

end ApiTools
