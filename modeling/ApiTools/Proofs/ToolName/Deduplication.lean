import ApiTools.Proofs.Outcome
import ApiTools.ToolName
import Mathlib.Data.List.Nodup
import Mathlib.Data.List.Perm.Subperm
import Mathlib.Tactic.ByContra

/-!
# Names made different

A name that was met before gets a number, the first one that is free.  As many numbers are tried as
names were met; one of these has no number, so they cannot take all of the tried ones.

## Main results

* `ToolName.fresh_cases`, `ToolName.fresh_notMem` — a fresh name has the first free number, so **it
  is none of those seen.**
* `ToolName.nodup_deduplicate` — **no two tools keep one name.**
* `ToolName.length_deduplicate` — every tool keeps a name.
* `ToolName.isPrefix_deduplicateKind`, `ToolName.renamedRecords_append` — **the names of the first
  tools do not depend on further ones.**
-/

namespace ApiTools

namespace ToolName

/-! ### Fresh names -/

theorem isSeen_textKind_iff {seen : List String} {name : String} :
    isSeen textKind seen name = true ↔ name ∈ seen := by
  simp [isSeen, textKind]

/-- The name with a number, from two on. -/
def numbered (name : String) (k : Nat) : String := textKind.extend name (toString (k + 2))

theorem numbered_injective (name : String) : Function.Injective (numbered name) := by
  intro k l h
  have h : (k + 2).repr = (l + 2).repr := (String.append_right_inj _).mp h
  have hdigits : Nat.toDigits 10 (k + 2) = Nat.toDigits 10 (l + 2) := by
    rw [← Nat.toList_repr, ← Nat.toList_repr, h]
  have hnumber := congrArg (Nat.ofDigitChars 10 · 0) hdigits
  simp only [Nat.ofDigitChars_ten_toDigits] at hnumber
  omega

/-- No name is one of its own with a number. -/
theorem numbered_ne (name : String) (k : Nat) : numbered name k ≠ name := by
  intro h
  have hlength : name.length + "_".length + (k + 2).repr.length = name.length := by
    simpa [numbered, textKind] using congrArg String.length h
  have hbar : "_".length = 1 := rfl
  omega

/-- Of as many numbers as there are names seen, one is free for a name that was seen. -/
theorem exists_numbered_notMem {seen : List String} {name : String} (hseen : name ∈ seen) :
    ∃ k ∈ List.range seen.length, numbered name k ∉ seen := by
  by_contra! hall
  -- With the name itself, more names would be taken than were seen.
  have hnodup : (name :: (List.range seen.length).map (numbered name)).Nodup := by
    refine List.nodup_cons.mpr ⟨?_, List.nodup_range.map (numbered_injective name)⟩
    intro hmem
    obtain ⟨k, -, hk⟩ := List.mem_map.mp hmem
    exact numbered_ne name k hk
  have hsubset : name :: (List.range seen.length).map (numbered name) ⊆ seen := by
    refine List.cons_subset.mpr ⟨hseen, fun candidate hmem => ?_⟩
    obtain ⟨k, hk, rfl⟩ := List.mem_map.mp hmem
    exact hall k hk
  have hlength := (List.subperm_of_subset hnodup hsubset).length_le
  rw [List.length_cons, List.length_map, List.length_range] at hlength
  omega

/-- **A name keeps itself if it is new, and gets the first free number if it is not.** -/
theorem fresh_cases (seen : List String) (name : String) :
    (name ∉ seen ∧ fresh textKind seen name = name) ∨
      (name ∈ seen ∧ ∃ k < seen.length, fresh textKind seen name = numbered name k ∧
        numbered name k ∉ seen ∧ ∀ l < k, numbered name l ∈ seen) := by
  by_cases hname : name ∈ seen
  · refine Or.inr ⟨hname, ?_⟩
    have hfresh : fresh textKind seen name =
        (((List.range seen.length).map (numbered name)).find?
          fun candidate => !isSeen textKind seen candidate).getD name := by
      unfold fresh
      rw [if_pos (isSeen_textKind_iff.mpr hname)]
      rfl
    rw [List.find?_map] at hfresh
    cases hfound : (List.range seen.length).find?
        ((fun candidate => !isSeen textKind seen candidate) ∘ numbered name) with
    | none =>
      obtain ⟨k, hk, hfree⟩ := exists_numbered_notMem hname
      have htaken := List.find?_eq_none.mp hfound k hk
      exact absurd (isSeen_textKind_iff.mp (by simpa using htaken)) hfree
    | some k =>
      obtain ⟨hfree, hk, hbefore⟩ := List.find?_range_eq_some.mp hfound
      rw [hfound] at hfresh
      refine ⟨k, List.mem_range.mp hk, hfresh, fun hmem => ?_, fun l hl => ?_⟩
      · have hseen := isSeen_textKind_iff.mpr hmem
        simp [hseen] at hfree
      · have htaken := hbefore l hl
        exact isSeen_textKind_iff.mp (by simpa using htaken)
  · refine Or.inl ⟨hname, ?_⟩
    unfold fresh
    rw [if_neg fun hseen => hname (isSeen_textKind_iff.mp hseen)]

/-- **A fresh name is none of those seen.** -/
theorem fresh_notMem (seen : List String) (name : String) : fresh textKind seen name ∉ seen := by
  rcases fresh_cases seen name with ⟨hname, hfresh⟩ | ⟨-, k, -, hfresh, hfree, -⟩
  · rw [hfresh]
    exact hname
  · rw [hfresh]
    exact hfree

/-! ### Lists of names -/

/-- Each name after the second pass differs from those before it and from those seen. -/
theorem nodup_withNumbers (names seen : List String) :
    (withNumbers textKind seen names).Nodup ∧
      ∀ name ∈ withNumbers textKind seen names, name ∉ seen := by
  induction names generalizing seen with
  | nil => exact ⟨List.nodup_nil, fun _ h => nomatch h⟩
  | cons name names ih =>
    obtain ⟨hnodup, hnew⟩ := ih (fresh textKind seen name :: seen)
    rw [withNumbers, List.nodup_cons, List.forall_mem_cons]
    refine ⟨⟨fun hmem => ?_, hnodup⟩, fresh_notMem seen name, fun other hother hmem => ?_⟩
    · exact hnew _ hmem List.mem_cons_self
    · exact hnew other hother (List.mem_cons_of_mem _ hmem)

/-- **No two tools keep one name.** -/
theorem nodup_deduplicate (tools : List (String × String)) : (deduplicate tools).Nodup :=
  (nodup_withNumbers _ []).1

section

variable {α : Type} (kind : NameKind α)

theorem length_withMethods (tools : List (α × String)) (seen : List α) :
    (withMethods kind seen tools).length = tools.length := by
  induction tools generalizing seen with
  | nil => rfl
  | cons tool tools ih => rw [withMethods, List.length_cons, List.length_cons, ih]

theorem length_withNumbers (names seen : List α) :
    (withNumbers kind seen names).length = names.length := by
  induction names generalizing seen with
  | nil => rfl
  | cons name names ih => rw [withNumbers, List.length_cons, List.length_cons, ih]

/-- Every tool keeps a name. -/
theorem length_deduplicateKind (tools : List (α × String)) :
    (deduplicateKind kind tools).length = tools.length := by
  rw [deduplicateKind, length_withNumbers, length_withMethods]

/-! ### Names of the first tools -/

/-- What the first pass does to a tool does not depend on those after it. -/
theorem isPrefix_withMethods {tools more : List (α × String)} (h : tools <+: more) (seen : List α) :
    withMethods kind seen tools <+: withMethods kind seen more := by
  induction tools generalizing more seen with
  | nil => exact List.nil_prefix
  | cons tool tools ih =>
    obtain ⟨rest, rfl, hrest⟩ := List.cons_prefix_iff.mp h
    exact List.cons_prefix_cons.mpr ⟨rfl, ih hrest (tool.1 :: seen)⟩

/-- Neither does what the second pass does. -/
theorem isPrefix_withNumbers {names more : List α} (h : names <+: more) (seen : List α) :
    withNumbers kind seen names <+: withNumbers kind seen more := by
  induction names generalizing more seen with
  | nil => exact List.nil_prefix
  | cons name names ih =>
    obtain ⟨rest, rfl, hrest⟩ := List.cons_prefix_iff.mp h
    exact List.cons_prefix_cons.mpr ⟨rfl, ih hrest (fresh kind seen name :: seen)⟩

/-- **The names of the first tools do not depend on further ones.** -/
theorem isPrefix_deduplicateKind {tools more : List (α × String)} (h : tools <+: more) :
    deduplicateKind kind tools <+: deduplicateKind kind more :=
  isPrefix_withNumbers kind (isPrefix_withMethods kind h []) []

end

theorem length_deduplicate (tools : List (String × String)) :
    (deduplicate tools).length = tools.length := length_deduplicateKind textKind tools

/-! ### Records of tools -/

/-- Every record has a name and a method. -/
theorem length_namesAndMethods {tools : List Value} {seen : List Scalar}
    {found : List (Scalar × String)} (h : namesAndMethods seen tools = .ok found) :
    found.length = tools.length := by
  induction tools generalizing seen found with
  | nil => rw [← Except.ok.inj h, List.length_nil, List.length_nil]
  | cons tool tools ih =>
    obtain ⟨⟨name, method⟩, -, h⟩ := Except.bind_eq_ok_iff.mp h
    obtain ⟨rest, hrest, h⟩ := Except.bind_eq_ok_iff.mp h
    rw [← Except.ok.inj h, List.length_cons, List.length_cons, ih hrest]

/-- The names and methods of the first records do not depend on further ones. -/
theorem namesAndMethods_append {tools more : List Value} {seen : List Scalar}
    {found : List (Scalar × String)} (h : namesAndMethods seen (tools ++ more) = .ok found) :
    ∃ own, namesAndMethods seen tools = .ok own ∧ own <+: found := by
  induction tools generalizing seen found with
  | nil => exact ⟨[], rfl, List.nil_prefix⟩
  | cons tool tools ih =>
    obtain ⟨⟨name, method⟩, hfirst, h⟩ := Except.bind_eq_ok_iff.mp h
    obtain ⟨rest, hrest, h⟩ := Except.bind_eq_ok_iff.mp h
    obtain ⟨own, hown, hprefix⟩ := ih hrest
    refine ⟨(name, method) :: own, ?_, ?_⟩
    · refine Except.bind_eq_ok_iff.mpr ⟨(name, method), hfirst, ?_⟩
      exact Except.bind_eq_ok_iff.mpr ⟨own, hown, rfl⟩
    · rw [← Except.ok.inj h]
      exact List.cons_prefix_cons.mpr ⟨rfl, hprefix⟩

/-- Records are renamed by the names and methods that they have. -/
theorem renamedRecords_eq_ok_iff {tools renamed : List Value} :
    renamedRecords tools = .ok renamed ↔ ∃ found, namesAndMethods [] tools = .ok found ∧
      renamed = tools.zipWith rename (deduplicateKind scalarKind found) := by
  constructor
  · intro h
    obtain ⟨names, hnames, h⟩ := Except.bind_eq_ok_iff.mp h
    obtain ⟨found, hfound, hnames⟩ := Except.bind_eq_ok_iff.mp hnames
    rw [← Except.ok.inj hnames] at h
    exact ⟨found, hfound, (Except.ok.inj h).symm⟩
  · rintro ⟨found, hfound, rfl⟩
    refine Except.bind_eq_ok_iff.mpr ⟨_, ?_, rfl⟩
    exact Except.bind_eq_ok_iff.mpr ⟨found, hfound, rfl⟩

/-- **The first records are renamed as they are without further ones.** -/
theorem renamedRecords_append {tools more renamed : List Value}
    (h : renamedRecords (tools ++ more) = .ok renamed) :
    ∃ own, renamedRecords tools = .ok own ∧ own <+: renamed := by
  obtain ⟨found, hfound, rfl⟩ := renamedRecords_eq_ok_iff.mp h
  obtain ⟨own, hown, hprefix⟩ := namesAndMethods_append hfound
  refine ⟨_, renamedRecords_eq_ok_iff.mpr ⟨own, hown, rfl⟩, ?_⟩
  obtain ⟨rest, hrest⟩ := isPrefix_deduplicateKind scalarKind hprefix
  have hlength : tools.length = (deduplicateKind scalarKind own).length := by
    rw [length_deduplicateKind, length_namesAndMethods hown]
  rw [← hrest, List.zipWith_append hlength]
  exact List.prefix_append _ _

end ToolName

end ApiTools
