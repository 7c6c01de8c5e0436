import ApiTools.Endpoint
import ApiTools.Proofs.Outcome
import ApiTools.Proofs.Text.Trimmed

/-!
# Base URLs in normal form

A base URL loses the white space around it, then the slashes at its end, and is completed to one that
ends in `/api`.  What comes in front of these slashes is not looked at again: a blank stays, and so
does an `/api` that another one follows.  Still there is nothing left to take away from the result, for
it ends in a letter and begins like the trimmed text, or with the slash of `/api` if that has slashes
only.

So the result depends on a trimmed text inside the given one, with slashes directly behind it and white
space around both.  Two texts that have such a text in common have one normal form, and beside these
only those have it that lack the ending.

## Main definitions

* `Endpoint.IsAround` — a text has another one inside, slashes behind it and white space around both.
* `Endpoint.SameInside` — two base URLs differ in such slashes and white space only.
* `Endpoint.IsNormal` — a base URL ends in `/api` and is trimmed.
* `Endpoint.LacksEnding` — a base URL has no slash at its end and has to be completed.

## Main results

* `Endpoint.exists_normalize_iff` — all but white space has a normal form.
* `Endpoint.SameInside.normalize_eq` — **what is around a base URL makes no difference.**
* `Endpoint.normalize_eq_self_iff` — **the base URLs in normal form are those that stay as they are.**
* `Endpoint.normalize_eq_iff` — which base URLs have a given normal form.
* `Endpoint.exists_rest` — the URL of a method has one slash behind the base URL.
* `Settings.isNormal_baseUrl` — the settings hold a base URL in normal form.
* `Endpoint.exists_normalForm` — **every base URL but white space has one normal form, below which the
  methods are.**
-/

namespace ApiTools

namespace Endpoint

/-- A text is `core` with slashes directly behind it and white space around both. -/
def IsAround (core s : List Char) : Prop :=
  ∃ before slashes after, s = before ++ (core ++ slashes) ++ after ∧
    (∀ c ∈ before, Text.isBlank c = true) ∧ (∀ c ∈ slashes, isSlash c = true) ∧
      ∀ c ∈ after, Text.isBlank c = true

/-- Two base URLs differ only in the white space around them and in the slashes directly behind a
trimmed text that they share. -/
def SameInside (u v : String) : Prop :=
  ∃ core, core ≠ [] ∧ Text.IsTrimmed core ∧ IsAround core u.toList ∧ IsAround core v.toList

/-- A base URL in normal form. -/
structure IsNormal (base : String) : Prop where
  /-- It ends in `/api`. -/
  ends : ∃ site, base = site ++ "/api"
  /-- It has no white space at its ends. -/
  trimmed : Text.IsTrimmed base.toList

/-- A base URL without slashes at its end that has to be completed. -/
structure LacksEnding (site : String) : Prop where
  /-- It does not end in a slash. -/
  bare : ¬∃ s, site = s ++ "/"
  /-- It does not end in `/api`. -/
  incomplete : ¬∃ s, site = s ++ "/api"

variable {s core bare : List Char} {u v base site : String}

/-! ### Completed texts -/

/-- A text without slashes at its end, completed to one that ends in `/api`. -/
def complete (bare : List Char) : List Char :=
  if ending.isSuffixOf bare then bare else bare ++ ending

theorem complete_of_suffix (h : ending <:+ bare) : complete bare = bare :=
  if_pos (List.isSuffixOf_iff_suffix.mpr h)

theorem complete_of_not_suffix (h : ¬ending <:+ bare) : complete bare = bare ++ ending :=
  if_neg (mt List.isSuffixOf_iff_suffix.mp h)

theorem ending_suffix_complete (bare : List Char) : ending <:+ complete bare := by
  by_cases h : ending <:+ bare
  · rwa [complete_of_suffix h]
  · rw [complete_of_not_suffix h]
    exact List.suffix_append bare ending

theorem isTrimmed_ending : Text.IsTrimmed ending := by decide

/-- A text that a trimmed one begins with is trimmed when completed, for `/api` ends in a letter. -/
theorem isTrimmed_complete (h : Text.IsTrimmed (bare ++ s)) : Text.IsTrimmed (complete bare) := by
  by_cases hend : ending <:+ bare
  · rw [complete_of_suffix hend]
    obtain ⟨t, rfl⟩ := hend
    rw [List.append_assoc] at h
    exact h.replaceEnd isTrimmed_ending (by decide)
  · rw [complete_of_not_suffix hend]
    exact h.replaceEnd isTrimmed_ending (by decide)

/-- A text that ends in `/api` ends in a letter, so no slash is taken away. -/
theorem trimEnd_of_suffix (h : ending <:+ s) : Text.trimEnd isSlash s = s := by
  obtain ⟨t, rfl⟩ := h
  have hlast : (t ++ ending).getLast? = some 'i' := List.getLast?_append_of_ne_nil t (by decide)
  refine Text.trimEnd_of_getLast? fun c hc => ?_
  obtain rfl : 'i' = c := Option.some.inj (hlast.symm.trans hc)
  rfl

/-- A base URL ends in a text when its characters end in those of the text. -/
theorem exists_eq_append_iff (tail : String) :
    (∃ s, u = s ++ tail) ↔ tail.toList <:+ u.toList := by
  constructor
  · rintro ⟨s, rfl⟩
    exact ⟨s.toList, String.toList_append.symm⟩
  · rintro ⟨t, ht⟩
    refine ⟨String.ofList t, String.toList_inj.mp ?_⟩
    rw [String.toList_append, String.toList_ofList, ht]

/-! ### The normal form, by the trimmed text -/

theorem normalize_of_blank (h : ∀ c ∈ u.toList, Text.isBlank c = true) :
    normalize u = .error .emptyBaseUrl := by
  rw [normalize, Text.trim_eq_nil_iff.mpr h]

theorem normalize_of_trim (h : Text.trim u.toList ≠ []) :
    normalize u =
      .ok (String.ofList (complete (Text.trimEnd isSlash (Text.trim u.toList)))) := by
  rw [normalize]
  split
  · next hnil => exact absurd hnil h
  · rfl

theorem normalize_eq_ok_iff :
    normalize u = .ok base ↔
      Text.trim u.toList ≠ [] ∧
        complete (Text.trimEnd isSlash (Text.trim u.toList)) = base.toList := by
  by_cases h : Text.trim u.toList = []
  · rw [normalize_of_blank (Text.trim_eq_nil_iff.mp h)]
    simp [h]
  · rw [normalize_of_trim h, Except.ok.injEq, ← String.toList_inj, String.toList_ofList]
    exact (and_iff_right h).symm

/-- Of slashes only, the ending is all that is left. -/
example : normalize " // " = .ok "/api" := rfl

/-- All but white space has a normal form. -/
theorem exists_normalize_iff :
    (∃ base, normalize u = .ok base) ↔ ∃ c ∈ u.toList, Text.isBlank c = false := by
  constructor
  · rintro ⟨base, h⟩
    by_contra hnone
    rw [normalize_of_blank (by simpa using hnone)] at h
    cases h
  · rintro ⟨c, hc, hblank⟩
    exact ⟨_, normalize_of_trim fun hnil => by
      simp [Text.trim_eq_nil_iff.mp hnil c hc] at hblank⟩

/-! ### What is around a base URL -/

theorem isBlank_of_isSlash {c : Char} (h : isSlash c = true) : Text.isBlank c = false := by
  rw [eq_of_beq h]
  decide

theorem isAround_self (s : List Char) : IsAround s s := ⟨[], [], [], by simp⟩

/-- A text is around what is left of it when it is trimmed and loses slashes at its end. -/
theorem isAround_of_trim {slashes : List Char} (hslashes : ∀ c ∈ slashes, isSlash c = true)
    (htrim : Text.trim s = core ++ slashes) : IsAround core s := by
  obtain ⟨-, before, after, hs, hbefore, hafter⟩ := Text.trim_eq_iff.mp htrim
  exact ⟨before, slashes, after, hs, hbefore, hslashes, hafter⟩

/-- Slashes are no white space, so those behind a trimmed text stay when it is trimmed. -/
theorem exists_trim_of_isAround (htrimmed : Text.IsTrimmed core) (h : IsAround core s) :
    ∃ slashes, (∀ c ∈ slashes, isSlash c = true) ∧ Text.trim s = core ++ slashes := by
  obtain ⟨before, slashes, after, hs, hbefore, hslashes, hafter⟩ := h
  refine ⟨slashes, hslashes, Text.trim_eq_iff.mpr ⟨?_, before, after, hs, hbefore, hafter⟩⟩
  rw [← List.append_nil core] at htrimmed
  rcases eq_or_ne slashes [] with rfl | hsome
  · exact htrimmed
  · exact htrimmed.replaceEnd
      ⟨fun c hc => isBlank_of_isSlash (hslashes c (List.mem_of_mem_head? hc)),
        fun c hc => isBlank_of_isSlash (hslashes c (List.mem_of_mem_getLast? hc))⟩ hsome

/-- The normal form depends on the text inside alone. -/
theorem normalize_of_isAround (hne : core ≠ []) (htrimmed : Text.IsTrimmed core)
    (h : IsAround core u.toList) :
    normalize u = .ok (String.ofList (complete (Text.trimEnd isSlash core))) := by
  obtain ⟨slashes, hslashes, htrim⟩ := exists_trim_of_isAround htrimmed h
  rw [normalize_of_trim (by simp [htrim, hne]), htrim, Text.trimEnd_append_of_forall hslashes]

/-- **What is around a base URL makes no difference.** -/
theorem SameInside.normalize_eq (h : SameInside u v) : normalize u = normalize v := by
  obtain ⟨core, hne, htrimmed, hu, hv⟩ := h
  rw [normalize_of_isAround hne htrimmed hu, normalize_of_isAround hne htrimmed hv]

/-! ### Normal forms -/

theorem isNormal_of_normalize (h : normalize u = .ok base) : IsNormal base := by
  obtain ⟨-, hbase⟩ := normalize_eq_ok_iff.mp h
  obtain ⟨slashes, hcut, -, -⟩ :=
    Text.trimEnd_eq_iff.mp (rfl : Text.trimEnd isSlash (Text.trim u.toList) = _)
  have htrimmed := Text.isTrimmed_trim u.toList
  rw [hcut] at htrimmed
  exact ⟨(exists_eq_append_iff "/api").mpr (hbase ▸ ending_suffix_complete _),
    hbase ▸ isTrimmed_complete htrimmed⟩

/-- **The base URLs in normal form are those that stay as they are.** -/
theorem normalize_eq_self_iff : normalize base = .ok base ↔ IsNormal base := by
  refine ⟨isNormal_of_normalize, fun h => ?_⟩
  have hends : ending <:+ base.toList := (exists_eq_append_iff "/api").mp h.ends
  have hne : base.toList ≠ [] := fun hnil => by
    rw [hnil, List.suffix_nil] at hends
    cases hends
  rw [normalize_eq_ok_iff, Text.trim_of_isTrimmed h.trimmed, trimEnd_of_suffix hends,
    complete_of_suffix hends]
  exact ⟨hne, rfl⟩

theorem lacksEnding_iff :
    LacksEnding site ↔
      (∀ c ∈ site.toList.getLast?, isSlash c = false) ∧ ¬ending <:+ site.toList := by
  have hslash : (∃ s, site = s ++ "/") ↔ site.toList.getLast? = some '/' := by
    rw [exists_eq_append_iff, List.getLast?_eq_some_iff]
    exact exists_congr fun t => eq_comm
  have hends : (∃ s, site = s ++ "/api") ↔ ending <:+ site.toList := exists_eq_append_iff "/api"
  constructor
  · rintro ⟨hbare, hincomplete⟩
    refine ⟨fun c hc => ?_, mt hends.mpr hincomplete⟩
    by_contra hc'
    rw [Bool.not_eq_false, isSlash, beq_iff_eq] at hc'
    exact hbare (hslash.mpr (hc' ▸ hc))
  · rintro ⟨hlast, hincomplete⟩
    refine ⟨fun h => ?_, mt hends.mp hincomplete⟩
    have := hlast '/' (hslash.mp h)
    cases this

/-- A base URL that lacks the ending gets it behind one slash. -/
theorem normalize_append_slash (hlacks : LacksEnding site) (h : IsNormal (site ++ "/api")) :
    normalize (site ++ "/") = .ok (site ++ "/api") := by
  obtain ⟨hlast, hincomplete⟩ := lacksEnding_iff.mp hlacks
  have hsite : (site ++ "/").toList = site.toList ++ ['/'] := String.toList_append
  have htrimmed : Text.IsTrimmed (site.toList ++ ['/']) :=
    (String.toList_append ▸ h.trimmed).replaceEnd (by decide) (by simp)
  have hcut : Text.trimEnd isSlash (site.toList ++ ['/']) = site.toList := by
    rw [Text.trimEnd_append_of_forall (List.forall_mem_singleton.mpr rfl),
      Text.trimEnd_of_getLast? hlast]
  rw [normalize_of_isAround (by simp) htrimmed (hsite ▸ isAround_self _), hcut,
    complete_of_not_suffix hincomplete, Except.ok.injEq, ← String.toList_inj, String.toList_ofList,
    String.toList_append]
  rfl

/-- A base URL is the same inside with one slash in place of those at its end, however many. -/
theorem sameInside_of_trim {slashes : List Char} (hslashes : ∀ c ∈ slashes, isSlash c = true)
    (hne : Text.trim v.toList ≠ []) (htrim : Text.trim v.toList = bare ++ slashes) :
    SameInside (String.ofList bare ++ "/") v := by
  have hbare : (String.ofList bare ++ "/").toList = bare ++ ['/'] := by simp
  have htrimmed : Text.IsTrimmed (bare ++ slashes) := htrim ▸ Text.isTrimmed_trim v.toList
  rw [htrim] at hne
  cases slashes with
  | nil =>
    rw [List.append_nil] at hne htrimmed
    refine ⟨bare, hne, htrimmed, ?_, isAround_of_trim hslashes htrim⟩
    exact hbare ▸ ⟨[], ['/'], [], by simp, by simp, List.forall_mem_singleton.mpr rfl, by simp⟩
  | cons c slashes =>
    -- What is in front of the slashes may end with a blank, so one slash belongs to the text inside.
    obtain ⟨hc, hrest⟩ := List.forall_mem_cons.mp hslashes
    obtain rfl : c = '/' := eq_of_beq hc
    refine ⟨bare ++ ['/'], by simp, ?_, hbare ▸ isAround_self _,
      isAround_of_trim hrest (by rw [htrim, List.append_assoc, List.singleton_append])⟩
    exact htrimmed.replaceEnd (by decide) (by simp)

/-- Which base URLs have a given normal form: beside those around it, those around a text that lacks
the ending, with a slash behind it. -/
theorem normalize_eq_iff (h : IsNormal base) :
    normalize v = .ok base ↔ SameInside base v ∨
      ∃ site, base = site ++ "/api" ∧ LacksEnding site ∧ SameInside (site ++ "/") v := by
  constructor
  · intro hv
    obtain ⟨hne, hbase⟩ := normalize_eq_ok_iff.mp hv
    obtain ⟨slashes, hcut, hslashes, hlast⟩ :=
      Text.trimEnd_eq_iff.mp (rfl : Text.trimEnd isSlash (Text.trim v.toList) = _)
    generalize Text.trimEnd isSlash (Text.trim v.toList) = bare at hbase hcut hlast
    by_cases hends : ending <:+ bare
    · left
      rw [complete_of_suffix hends] at hbase
      refine ⟨bare, ?_, hbase ▸ h.trimmed, hbase ▸ isAround_self _, isAround_of_trim hslashes hcut⟩
      rintro rfl
      simp [ending] at hends
    · right
      rw [complete_of_not_suffix hends] at hbase
      refine ⟨String.ofList bare, ?_, ?_, sameInside_of_trim hslashes hne hcut⟩
      · rw [← String.toList_inj, String.toList_append, String.toList_ofList, ← hbase]
        rfl
      · exact lacksEnding_iff.mpr (by simpa using ⟨hlast, hends⟩)
  · rintro (hsame | ⟨site, rfl, hlacks, hsame⟩)
    · rw [← hsame.normalize_eq, normalize_eq_self_iff.mpr h]
    · rw [← hsame.normalize_eq, normalize_append_slash hlacks h]

/-! ### Methods -/

/-- The URL of a method is the base URL, one slash, and the method without its leading slashes.  The base
URL ends in a letter, so there is no other slash beside this one. -/
theorem exists_rest (h : IsNormal base) (method : String) :
    ∃ slashes rest, method = slashes ++ rest ∧ (∀ c ∈ slashes.toList, c = '/') ∧
      rest.toList.head? ≠ some '/' ∧ url base method = base ++ "/" ++ rest := by
  have hends : ending <:+ base.toList := (exists_eq_append_iff "/api").mp h.ends
  obtain ⟨slashes, hmethod, hslashes, hhead⟩ :=
    Text.dropWhile_eq_iff.mp (rfl : method.toList.dropWhile isSlash = _)
  generalize hrest : method.toList.dropWhile isSlash = rest at hmethod hhead
  refine ⟨String.ofList slashes, String.ofList rest, ?_, ?_, ?_, ?_⟩
  · rw [← String.ofList_append, ← hmethod, String.ofList_toList]
  · simpa using fun c hc => eq_of_beq (hslashes c hc)
  · rw [String.toList_ofList]
    exact fun hsome => absurd (hhead '/' hsome) (by decide)
  · rw [url, trimEnd_of_suffix hends, hrest, ← String.toList_inj]
    simp

/-! ### Every base URL -/

/-- **Every base URL that is not all white space has one normal form**: it ends in `/api`, has no white
space at its ends, stays as it is, and is that of every base URL that differs only in the white space
around it and in slashes directly behind the trimmed text.  Beside those around the normal form itself,
only base URLs around what it has in front of `api` share it.  **The URL of a method is the normal form,
one slash, and the method without its leading slashes.** -/
theorem exists_normalForm (u : String) (h : ∃ c ∈ u.toList, Text.isBlank c = false) :
    ∃ base, normalize u = .ok base ∧ IsNormal base ∧ normalize base = .ok base ∧
      (∀ v, SameInside u v → normalize v = .ok base) ∧
      (∀ v, normalize v = .ok base ↔ SameInside base v ∨
        ∃ site, base = site ++ "/api" ∧ LacksEnding site ∧ SameInside (site ++ "/") v) ∧
      ∀ method, ∃ slashes rest, method = slashes ++ rest ∧ (∀ c ∈ slashes.toList, c = '/') ∧
        rest.toList.head? ≠ some '/' ∧ url base method = base ++ "/" ++ rest := by
  obtain ⟨base, hbase⟩ := exists_normalize_iff.mpr h
  have hnormal := isNormal_of_normalize hbase
  exact ⟨base, hbase, hnormal, normalize_eq_self_iff.mpr hnormal,
    fun v hsame => hsame.normalize_eq ▸ hbase, fun v => normalize_eq_iff hnormal,
    exists_rest hnormal⟩

/-- A base URL with a blank between its `/api` and its last slashes. -/
def gappedUrl : String := "\u3000wiki/api //\x1f"

/-- The blank in front of the slashes stays, so the ending comes a second time. -/
theorem exists_normalForm_gappedUrl :
    (∃ c ∈ gappedUrl.toList, Text.isBlank c = false) ∧
      normalize gappedUrl = .ok "wiki/api /api" ∧ IsNormal "wiki/api /api" ∧
      normalize "wiki/api /api" = .ok "wiki/api /api" ∧
      normalize "wiki/api /////\u2028" = .ok "wiki/api /api" ∧
      normalize "\twiki/api /api/" = .ok "wiki/api /api" ∧
      ∃ slashes rest, "//documents.info" = slashes ++ rest ∧ (∀ c ∈ slashes.toList, c = '/') ∧
        rest.toList.head? ≠ some '/' ∧
        url "wiki/api /api" "//documents.info" = "wiki/api /api/" ++ rest := by
  have hsome : ∃ c ∈ gappedUrl.toList, Text.isBlank c = false := ⟨'w', by decide, by decide⟩
  obtain ⟨base, hbase, hnormal, hagain, hsame, hiff, hurl⟩ := exists_normalForm gappedUrl hsome
  obtain rfl : base = "wiki/api /api" := Except.ok.inj (hbase.symm.trans rfl)
  refine ⟨hsome, hbase, hnormal, hagain, hsame _ ?_, (hiff _).mpr (.inl ?_), hurl _⟩
  · exact ⟨"wiki/api //".toList, by decide, by decide,
      ⟨['\u3000'], [], ['\x1f'], rfl, List.forall_mem_singleton.mpr rfl, by simp,
        List.forall_mem_singleton.mpr rfl⟩,
      ⟨[], ['/', '/', '/'], ['\u2028'], rfl, by simp, by simp [isSlash],
        List.forall_mem_singleton.mpr rfl⟩⟩
  · exact ⟨"wiki/api /api".toList, by decide, by decide, isAround_self _,
      ⟨['\t'], ['/'], [], rfl, List.forall_mem_singleton.mpr rfl,
        List.forall_mem_singleton.mpr rfl, by simp⟩⟩

end Endpoint

namespace Settings

/-- The base URL if none is given is in normal form. -/
theorem isNormal_defaultBaseUrl : Endpoint.IsNormal defaultBaseUrl :=
  Endpoint.normalize_eq_self_iff.mp rfl

/-- Settings that are read hold a base URL in normal form, whatever they are read from. -/
theorem isNormal_baseUrl {environment : Value} {settings : Settings}
    (h : ofEnvironment environment = .ok settings) : Endpoint.IsNormal settings.baseUrl := by
  rw [ofEnvironment] at h
  obtain ⟨found, -, h⟩ := Except.bind_eq_ok_iff.mp h
  obtain ⟨key, -, h⟩ := Except.bind_eq_ok_iff.mp h
  split at h
  · cases h
  · obtain ⟨given, -, h⟩ := Except.bind_eq_ok_iff.mp h
    obtain ⟨text, -, h⟩ := Except.bind_eq_ok_iff.mp h
    obtain ⟨baseUrl, hbase, rfl⟩ := Except.bind_pure_eq_ok_iff.mp h
    exact Endpoint.isNormal_of_normalize hbase

end Settings

end ApiTools
