import ApiTools.Dispatch
import ApiTools.Proofs.Outcome

/-!
# What can go wrong with an answer

An answer is unpacked, decoded and read, and each of these steps has faults of its own.  None of them
says that a tool refuses something: that is said by the validators of a tool alone.  None of them says
that the service failed either: that is said of an answer that has been read.

## Main definitions

* `Fault.isRefusal` — a fault says that a tool refuses arguments or an answer.
* `Fault.isServiceFailure` — a fault says that the service failed.
* `Fault.IsOfReading` — a fault says neither.

## Main results

* `Json.failsOnly_ofBytes`, `Charset.failsOnly_read` — the faults of a body.
* `Response.failsOnly_received`, `Response.failsOnly_content` — **an answer that cannot be read says
  neither that a tool refuses something nor that the service failed.**
* `Response.failsOnly_outcome` — **no answer is refused before a tool has seen it.**
-/

namespace ApiTools

namespace Fault

/-- Whether a fault says that a tool refuses arguments or an answer. -/
def isRefusal : Fault → Bool
  | .argumentsRejected _ _ _ | .responseRejected _ _ _ => true
  | _ => false

/-- A fault of something else than a tool. -/
def IsOther (fault : Fault) : Prop := fault.isRefusal = false

/-- Whether a fault says that the service failed. -/
def isServiceFailure : Fault → Bool
  | .serviceFailure _ _ => true
  | _ => false

/-- A fault of the way in which an answer is written: it is neither a tool that refuses something nor
the service that failed. -/
def IsOfReading (fault : Fault) : Prop := (fault.isRefusal || fault.isServiceFailure) = false

theorem IsOfReading.isOther {fault : Fault} (h : fault.IsOfReading) : fault.IsOther :=
  (Bool.or_eq_false_iff.mp h).1

theorem IsOfReading.not_isServiceFailure {fault : Fault} (h : fault.IsOfReading) :
    fault.isServiceFailure = false := (Bool.or_eq_false_iff.mp h).2

end Fault

open Except

/-! ### Bodies in JSON -/

namespace Json

theorem failsOnly_readNumber (negative : Bool) (s : List Char) :
    FailsOnly Fault.IsOfReading (readNumber negative s) := by
  unfold readNumber
  split
  · exact .error rfl
  · dsimp only
    split
    · split
      · exact .error rfl
      · exact .ok _
    · exact .ok _

section

variable {keep : Char → List Char} {fuel : Nat}
variable (hvalue : ∀ s, FailsOnly Fault.IsOfReading (readValue keep fuel s))
variable (hitems : ∀ done s, FailsOnly Fault.IsOfReading (readItems keep fuel done s))
variable (hmembers : ∀ done s, FailsOnly Fault.IsOfReading (readMembers keep fuel done s))

include hitems hmembers in
theorem failsOnly_readValue_succ (s : List Char) :
    FailsOnly Fault.IsOfReading (readValue keep (fuel + 1) s) := by
  unfold readValue
  split
  · split
    · exact .ok _
    · exact .error rfl
  · split
    · exact .ok _
    · exact hmembers _ _
  · split
    · exact .ok _
    · exact hitems _ _
  · split
    · exact .ok _
    · split <;> exact failsOnly_readNumber _ _

include hvalue hitems in
theorem failsOnly_readItems_succ (done : List Value) (s : List Char) :
    FailsOnly Fault.IsOfReading (readItems keep (fuel + 1) done s) := by
  unfold readItems
  refine .bind (hvalue s) fun found => ?_
  dsimp only
  split
  · exact hitems _ _
  · exact .ok _
  · exact .error rfl

include hvalue hmembers in
theorem failsOnly_readMembers_succ (done : Entries) (s : List Char) :
    FailsOnly Fault.IsOfReading (readMembers keep (fuel + 1) done s) := by
  unfold readMembers
  split
  · split
    · exact .error rfl
    · split
      · refine .bind (hvalue _) fun found => ?_
        dsimp only
        split
        · exact hmembers _ _
        · exact .ok _
        · exact .error rfl
      · exact .error rfl
  · exact .error rfl

end

/-- The reader of values, of items and of members has faults of its own only. -/
theorem failsOnly_read (keep : Char → List Char) (fuel : Nat) :
    (∀ s, FailsOnly Fault.IsOfReading (readValue keep fuel s)) ∧
    (∀ done s, FailsOnly Fault.IsOfReading (readItems keep fuel done s)) ∧
    ∀ done s, FailsOnly Fault.IsOfReading (readMembers keep fuel done s) := by
  induction fuel with
  | zero =>
    refine ⟨fun s => ?_, fun done s => ?_, fun done s => ?_⟩
    · rw [readValue]
      exact .error rfl
    · rw [readItems]
      exact .error rfl
    · rw [readMembers]
      exact .error rfl
  | succ fuel ih =>
    obtain ⟨hvalue, hitems, hmembers⟩ := ih
    exact ⟨failsOnly_readValue_succ hitems hmembers, failsOnly_readItems_succ hvalue hitems,
      failsOnly_readMembers_succ hvalue hmembers⟩

theorem failsOnly_textOf (encoding : Encoding) (bytes : List UInt8) :
    FailsOnly Fault.IsOfReading (textOf encoding bytes) := by
  unfold textOf
  dsimp only
  split
  · exact .ok _
  · exact .error rfl

/-- The reader of a document in bytes has faults of its own only. -/
theorem failsOnly_ofBytes (bytes : List UInt8) : FailsOnly Fault.IsOfReading (ofBytes bytes) := by
  unfold ofBytes
  refine .bind (failsOnly_textOf _ _) fun text => ?_
  unfold parseSpelled parseKeeping
  refine .bind ((failsOnly_read _ _).1 _) fun found => ?_
  dsimp only
  split
  · exact .ok _
  · exact .error rfl

end Json

/-! ### Bodies in text -/

namespace Charset

/-- Whether the fault of a coding that cannot be read is one of reading. -/
def hasReadingFault : Charset → Bool
  | .unreadable fault => !(fault.isRefusal || fault.isServiceFailure)
  | _ => true

theorem hasReadingFault_named? {name : String} {charset : Charset}
    (h : named? name = some charset) : charset.hasReadingFault = true := by
  obtain ⟨entry, hentry, rfl⟩ := Option.map_eq_some_iff.mp h
  have hmem := List.mem_of_find?_eq_some hentry
  -- All sets but the other codings are readable.
  have hgeneral : ∀ e ∈ generalSets, e.2.2.hasReadingFault = true := by
    rw [← List.all_eq_true]
    rfl
  have hother : ∀ e ∈ otherCodings, e.2.2.hasReadingFault = true := by
    rw [← List.all_eq_true]
    rfl
  unfold all at hmem
  simp only [List.mem_append, List.mem_map] at hmem
  rcases hmem with (((hmem | hmem) | ⟨e, -, rfl⟩) | ⟨e, -, rfl⟩) | ⟨e, -, rfl⟩
  · exact hgeneral entry hmem
  · exact hother entry hmem
  · rfl
  · rfl
  · rfl

theorem failsOnly_readUnits (size : Nat)
    (read : Unicode.ByteOrder → List UInt8 → Unicode.Pieces) (order : Option Unicode.ByteOrder)
    (bytes : List UInt8) : FailsOnly Fault.IsOfReading (readUnits size read order bytes) := by
  unfold readUnits
  dsimp only
  split
  · exact .ok _
  · exact .ok _
  · exact .ok _
  · split
    · exact .ok _
    · exact .error rfl

/-- A set of characters has faults of its own only. -/
theorem failsOnly_read {charset : Charset} (h : charset.hasReadingFault = true)
    (bytes : List UInt8) : FailsOnly Fault.IsOfReading (charset.read bytes) := by
  refine .map ?_ _
  cases charset with
  | unreadable fault => exact .error (by simpa [hasReadingFault, Fault.IsOfReading] using h)
  | utf16 order => exact .map (failsOnly_readUnits 2 Unicode.utf16 order bytes) _
  | utf32 order => exact .map (failsOnly_readUnits 4 Unicode.utf32 order bytes) _
  | punycode =>
    unfold pieces punycodePieces
    dsimp only
    split
    · exact .error rfl
    · exact .ok _
  | utf8 marked =>
    cases marked with
    | false => exact .ok _
    | true =>
      change FailsOnly Fault.IsOfReading (if bytes.isPrefixOf mark8 then .ok []
        else .ok (Unicode.utf8 false ((after? mark8 bytes).getD bytes)))
      split
      · exact .ok _
      · exact .ok _
  | escaped isFull => cases isFull <;> exact .ok _
  | letters | multibyte | iso2022 | utf7 => exact .ok _

end Charset

namespace MediaType

theorem failsOnly_charset (text : String) : FailsOnly Fault.IsOfReading (charset text) := by
  unfold charset
  refine .bind ?_ fun found => ?_
  · unfold parameters
    split
    · exact .ok _
    · refine .bind (.mapM fun name _ => ?_) fun _ => .ok _
      refine .bind ?_ fun _ => .ok _
      unfold joined
      dsimp only
      split
      · exact .error rfl
      · exact .ok _
  · split <;> exact .ok _

end MediaType

/-! ### Answers -/

namespace Response

/-- The set of characters of an answer has faults of its own only. -/
theorem hasReadingFault_charset {r : Response} {charset : Charset} (h : r.charset = .ok charset) :
    charset.hasReadingFault = true := by
  unfold Response.charset at h
  split at h
  · obtain rfl := Except.ok.inj h
    rfl
  · obtain ⟨name, -, h⟩ := Except.bind_eq_ok_iff.mp h
    split at h
    · obtain rfl := Except.ok.inj h
      rfl
    · next name =>
      by_cases hnull : name.toList.contains '\x00' = true
      · rw [if_pos hnull] at h
        cases h
      · rw [if_neg hnull] at h
        obtain rfl := Except.ok.inj h
        cases hnamed : Charset.named? name with
        | none => rfl
        | some found => exact Charset.hasReadingFault_named? hnamed

theorem failsOnly_charset (r : Response) : FailsOnly Fault.IsOfReading r.charset := by
  unfold charset
  split
  · exact .ok _
  · next text _ =>
    refine .bind (MediaType.failsOnly_charset text) fun found => ?_
    split
    · exact .ok _
    · next name =>
      by_cases hnull : name.toList.contains '\x00' = true
      · rw [if_pos hnull]
        exact .error (e := Fault.nullInName) rfl
      · rw [if_neg hnull]
        exact .ok _

theorem failsOnly_text (r : Response) (bytes : List UInt8) :
    FailsOnly Fault.IsOfReading (r.text bytes) := by
  unfold text
  split
  · exact .ok _
  · cases hcharset : r.charset with
    | ok charset => exact Charset.failsOnly_read (hasReadingFault_charset hcharset) bytes
    | error fault => exact .error (failsOnly_charset r fault hcharset)

theorem failsOnly_unpacked (r : Response) : FailsOnly Fault.IsOfReading r.unpacked := by
  refine .foldlM (fun bytes packing _ => ?_) _
  unfold unpackedOnce
  dsimp only
  split
  · exact .ok _
  · exact .error rfl

theorem failsOnly_checkLocation (r : Response) : FailsOnly Fault.IsOfReading r.checkLocation := by
  unfold checkLocation
  split
  · exact .ok _
  · split
    · exact .ok _
    · split
      · exact .error rfl
      · split
        · exact .error rfl
        · exact .ok _

theorem failsOnly_received (r : Response) (url : Url) :
    FailsOnly Fault.IsOfReading (r.received url) := by
  unfold received
  refine .bind (failsOnly_unpacked r) fun bytes => ?_
  by_cases hurl : (!url.isAbsolute) = true
  · rw [if_pos hurl]
    exact .error (e := Fault.noHost url.target) rfl
  · rw [if_neg hurl]
    exact .bind (failsOnly_checkLocation r) fun _ => .ok _

theorem failsOnly_content (r : Response) (bytes : List UInt8) :
    FailsOnly Fault.IsOfReading (r.content bytes) := by
  unfold content
  split
  · exact Json.failsOnly_ofBytes bytes
  · exact .map (failsOnly_text r bytes) _

theorem failsOnly_outcomeOf (r : Response) (bytes : List UInt8) :
    FailsOnly Fault.IsOther (r.outcomeOf bytes) := by
  unfold outcomeOf
  split
  · exact .ok _
  · refine .bind (fun fault h => (failsOnly_content r bytes fault h).isOther) fun content => ?_
    split
    · exact .ok _
    · exact .error rfl

/-- **No answer is refused before a tool has seen it.** -/
theorem failsOnly_outcome (r : Response) (url : Url) : FailsOnly Fault.IsOther (r.outcome url) :=
  .bind (fun fault h => (failsOnly_received r url fault h).isOther) fun bytes =>
    failsOnly_outcomeOf r bytes

end Response

end ApiTools
