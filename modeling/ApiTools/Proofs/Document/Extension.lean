import ApiTools.Document
import ApiTools.Pointer
import ApiTools.Proofs.Outcome
import ApiTools.Proofs.Value.Entries

/-!
# Documents with further paths

Further paths put after those of a document leave everything else where it is.  The operations of
the first document come first in the second, and a reference that leads somewhere in the first leads
to the same node in the second, unless it names the paths as a whole.

## Main definitions

* `Document.Extends` — a document with further paths after those of another one.

## Main results

* `Document.Extends.operations` — **the operations of the first come first.**
* `Document.Extends.resolveValue` — **references lead to the same nodes**, but for the one to all
  paths.
-/

namespace ApiTools

/-! ### Segments of a reference -/

namespace Pointer

/-- Where no mark was replaced, nothing was. -/
theorem eq_of_unescapeMark {mark result : Char} {s t : List Char}
    (h : unescapeMark mark result s = t) (hresult : result ∉ t) : s = t := by
  subst h
  fun_induction unescapeMark mark result s with
  | case1 s ih => exact absurd List.mem_cons_self hresult
  | case2 c s hc ih =>
    rw [List.mem_cons, not_or] at hresult
    rw [← ih hresult.2]
  | case3 c s _ ih =>
    rw [List.mem_cons, not_or] at hresult
    rw [← ih hresult.2]
  | case4 => rfl

/-- A segment without slashes and tildes was written as it is. -/
theorem eq_of_unescape {segment t : List Char} (h : unescape segment = t) (hslash : '/' ∉ t)
    (htilde : '~' ∉ t) : segment = t :=
  eq_of_unescapeMark (eq_of_unescapeMark h htilde) hslash

/-- Only one reference has a single segment, if that has no slashes and tildes. -/
theorem eq_of_segments?_singleton {ref t : List Char} (h : segments? ref = some [t])
    (hslash : '/' ∉ t) (htilde : '~' ∉ t) : ref = '#' :: '/' :: t := by
  unfold segments? at h
  split at h
  · next s =>
    obtain ⟨part, hsplit, hpart⟩ := List.map_eq_singleton_iff.mp (Option.some.inj h)
    have hs := Text.intercalate_split '/' s
    rw [hsplit, List.intercalate_singleton] at hs
    rw [← hs, eq_of_unescape hpart hslash htilde]
  · cases h

theorem segments?_ne_nil {ref : List Char} {segments : List (List Char)}
    (h : segments? ref = some segments) : segments ≠ [] := by
  unfold segments? at h
  split at h
  · next s =>
    rw [← Option.some.inj h, Ne, List.map_eq_nil_iff]
    exact Text.split_ne_nil '/' s
  · cases h

/-- A reference leads somewhere when its segments do, one after the other. -/
theorem resolve_eq_ok_iff {document target : Value} {ref : String} :
    resolve document ref = .ok target ↔ ∃ segments, segments? ref.toList = some segments ∧
      segments.foldlM (step ref) document = .ok target := by
  unfold resolve
  cases segments? ref.toList with
  | none => simp
  | some segments => simp

/-- A step into a map is a look-up. -/
theorem step_map_eq_ok_iff {ref : String} {es : Entries} {segment : List Char} {target : Value} :
    step ref (.map es) segment = .ok target ↔ es.get? (String.ofList segment) = some target := by
  unfold step
  dsimp only [Value.bare]
  cases es.get? (String.ofList segment) with
  | none => simp
  | some v => simp

end Pointer

namespace Document

/-! ### Documents with further paths -/

/-- A document with further paths after those of another one. -/
inductive Extends : Value → Value → Prop where
  /-- The paths stand where they stood, or at the end if there were none. -/
  | intro (es listed more : Entries) (hpaths : paths (.map es) = .ok (.map listed)) :
    Extends (.map es) (.map (es.insert (.text "paths") (.map (listed ++ more))))

/-- The operations of a document, path by path. -/
theorem operations_of_paths {document : Value} {listed : Entries}
    (h : paths document = .ok (.map listed)) :
    operations document = .ok (listed.flatMap fun e => operationsOfPath e.1 e.2) := by
  unfold operations
  rw [h]
  rfl

theorem paths_map (es : Entries) :
    paths (.map es) = .ok (((es.get? "paths").getD .null).orElse (.map [])) := rfl

/-- Paths that count as given are the ones listed. -/
theorem eq_map_of_paths {es listed : Entries} (h : paths (.map es) = .ok (.map listed)) {v : Value}
    (hv : es.get? "paths" = some v) (htruthy : v.isTruthy = true) : v = .map listed := by
  rw [paths_map, hv, Option.getD_some, Value.orElse, if_pos htruthy] at h
  exact Except.ok.inj h

variable {document extended : Value}

/-- **The operations of a document come first.** -/
theorem Extends.operations (h : Extends document extended) :
    ∃ found more, Document.operations document = .ok found ∧
      Document.operations extended = .ok (found ++ more) := by
  cases h with
  | intro es listed more hpaths =>
    have hextended : paths (.map (es.insert (.text "paths") (.map (listed ++ more)))) =
        .ok (.map (listed ++ more)) := by
      rw [paths_map, Entries.get?_insert, if_pos rfl, Option.getD_some]
      -- No paths at all count as missing, and are then read as no paths.
      cases listed ++ more <;> rfl
    refine ⟨_, more.flatMap fun e => operationsOfPath e.1 e.2, operations_of_paths hpaths, ?_⟩
    rw [operations_of_paths hextended, List.flatMap_append]

/-! ### References -/

/-- Nothing lies in a node that does not count as given. -/
theorem isTruthy_of_step {ref : String} {node target : Value} {segment : List Char}
    (h : Pointer.step ref node segment = .ok target) : node.isTruthy = true := by
  have hbare : node.bare.isTruthy = true := by
    unfold Pointer.step at h
    split at h
    · next es hes =>
      rw [hes]
      cases es with
      | nil => cases h
      | cons => rfl
    · next items hitems =>
      rw [hitems]
      cases items with
      | nil =>
        split at h
        · cases h
        · obtain ⟨i, -, h⟩ := Except.bind_eq_ok_iff.mp h
          cases h
      | cons => rfl
    · cases h
  cases node <;> exact hbare

/-- A step into paths leads to the same node when further ones follow. -/
theorem step_append {ref : String} {segment : List Char} {listed : Entries} {target : Value}
    (h : Pointer.step ref (.map listed) segment = .ok target) (more : Entries) :
    Pointer.step ref (.map (listed ++ more)) segment = .ok target := by
  have hget := Pointer.step_map_eq_ok_iff.mp h
  refine Pointer.step_map_eq_ok_iff.mpr ?_
  unfold Entries.get? Entries.find? at hget ⊢
  obtain ⟨e, he, rfl⟩ := Option.map_eq_some_iff.mp hget
  rw [List.find?_append, he]
  rfl

/-- **References lead to the same nodes**, but for the one to all paths. -/
theorem Extends.resolveValue (h : Extends document extended) {name : String}
    (hname : name ≠ "#/paths") {target : Value}
    (htarget : Pointer.resolveValue document (.text name) = .ok target) :
    Pointer.resolveValue extended (.text name) = .ok target := by
  cases h with
  | intro es listed more hpaths =>
    obtain ⟨segments, hsegments, htarget⟩ := Pointer.resolve_eq_ok_iff.mp htarget
    refine Pointer.resolve_eq_ok_iff.mpr ⟨segments, hsegments, ?_⟩
    obtain ⟨first, rest, rfl⟩ := List.exists_cons_of_ne_nil (Pointer.segments?_ne_nil hsegments)
    rw [List.foldlM_cons] at htarget ⊢
    obtain ⟨node, hnode, hrest⟩ := Except.bind_eq_ok_iff.mp htarget
    have hget := Pointer.step_map_eq_ok_iff.mp hnode
    by_cases hfirst : String.ofList first = "paths"
    · -- The paths as a whole differ, so there has to be a step into them.
      cases rest with
      | nil =>
        have hlist : first = ['p', 'a', 't', 'h', 's'] := by
          rw [← String.toList_ofList (l := first), hfirst]
          rfl
        rw [hlist] at hsegments
        have hwritten := Pointer.eq_of_segments?_singleton hsegments (by decide) (by decide)
        exact absurd (String.toList_injective hwritten) hname
      | cons second rest =>
        rw [List.foldlM_cons] at hrest
        obtain ⟨inside, hinside, hafter⟩ := Except.bind_eq_ok_iff.mp hrest
        rw [hfirst] at hget
        obtain rfl := eq_map_of_paths hpaths hget (isTruthy_of_step hinside)
        refine Except.bind_eq_ok_iff.mpr ⟨.map (listed ++ more), ?_, ?_⟩
        · rw [Pointer.step_map_eq_ok_iff, Entries.get?_insert, if_pos hfirst]
        · rw [List.foldlM_cons]
          exact Except.bind_eq_ok_iff.mpr ⟨inside, step_append hinside more, hafter⟩
    · refine Except.bind_eq_ok_iff.mpr ⟨node, ?_, hrest⟩
      rw [Pointer.step_map_eq_ok_iff, Entries.get?_insert, if_neg hfirst]
      exact hget

end Document

end ApiTools
