import ApiTools.Proofs.ToolName.Deduplication
import ApiTools.Proofs.Value.Entries

/-!
# Records of tools with names made different

The second pass counts on from a name until it meets one that is not taken, with no bound on the
number.  It ends, because the names taken before are finitely many and the numbered ones all differ,
and it ends with the name that `ToolName.fresh` gives.  So the number is at most one more than there
are tools before.

Records of tools are renamed by what the two passes make of their names, and keep everything else.

## Main definitions

* `ToolName.CountsTo`, `ToolName.NumbersTo` — the search for one name, and for those of a list.
* `ToolName.IsMadeFrom` — the names that a tool can get, by the number of tools before it.
* `ToolName.IsRecordOf` — a record of a tool with its name and its method.
* `ToolName.RenamedTo` — a record with another name in its place.

## Main results

* `ToolName.countsTo_fresh`, `ToolName.numbersTo_withNumbers` — **the search ends.**
* `ToolName.CountsTo.unique` — it has one end only.
* `ToolName.isMadeFrom_deduplicate` — what the new names look like.
* `ToolName.deduplicate_of_nodup` — names that are distinct are kept.
* `ToolName.renamedRecords_eq` — records are renamed by their names and methods.
* `ToolName.renamedRecords_of_records` — **records get distinct names, and keep the rest.**
-/

namespace ApiTools

namespace ToolName

/-! ### The search for a name -/

/-- The search for a name that was not seen. It is at a candidate, which has the given number, and
counts on as long as the candidate was seen. -/
inductive CountsTo (seen : List String) (name : String) : Nat → String → String → Prop where
  /-- A candidate that was not seen ends the search. -/
  | free (number : Nat) (candidate : String) (hfree : candidate ∉ seen) :
    CountsTo seen name number candidate candidate
  /-- After a candidate that was seen comes the one with the next number. -/
  | taken (number : Nat) (candidate found : String) (htaken : candidate ∈ seen)
    (hnext : CountsTo seen name (number + 1) (name ++ "_" ++ toString (number + 1)) found) :
    CountsTo seen name number candidate found

/-- The search for the names of a list, each one from its own name on and with number one. -/
inductive NumbersTo : List String → List String → List String → Prop where
  /-- Without names there is nothing to search for. -/
  | nil (seen : List String) : NumbersTo seen [] []
  /-- What is found for a name is seen by those after it. -/
  | cons (seen : List String) (name found : String) (names chosen : List String)
    (hfound : CountsTo seen name 1 name found) (hrest : NumbersTo (found :: seen) names chosen) :
    NumbersTo seen (name :: names) (found :: chosen)

/-- From a numbered name on, the search ends with the first numbered name that is free. -/
theorem countsTo_numbered {seen : List String} {name : String} {k : Nat}
    (hfree : numbered name k ∉ seen) (hbefore : ∀ l < k, numbered name l ∈ seen) {l : Nat}
    (hl : l ≤ k) : CountsTo seen name (l + 2) (numbered name l) (numbered name k) := by
  -- Down from the free name to the one where the search is.
  induction hl using Nat.decreasingInduction with
  | self => exact .free _ _ hfree
  | of_succ l hl ih => exact .taken _ _ _ (hbefore l hl) ih

/-- **The search for a name ends**, with the fresh name. -/
theorem countsTo_fresh (seen : List String) (name : String) :
    CountsTo seen name 1 name (fresh textKind seen name) := by
  rcases fresh_cases seen name with ⟨hname, hfresh⟩ | ⟨hname, k, -, hfresh, hfree, hbefore⟩
  · rw [hfresh]
    exact .free _ _ hname
  · rw [hfresh]
    exact .taken _ _ _ hname (countsTo_numbered hfree hbefore (Nat.zero_le k))

/-- **The search for the names of a list ends**, with those of the second pass. -/
theorem numbersTo_withNumbers (names seen : List String) :
    NumbersTo seen names (withNumbers textKind seen names) := by
  induction names generalizing seen with
  | nil => exact .nil seen
  | cons name names ih => exact .cons _ _ _ _ _ (countsTo_fresh seen name) (ih _)

/-- The search has one end. -/
theorem CountsTo.unique {seen : List String} {name candidate found other : String} {number : Nat}
    (h : CountsTo seen name number candidate found)
    (hother : CountsTo seen name number candidate other) : found = other := by
  induction h with
  | free number candidate hfree =>
    cases hother with
    | free => rfl
    | taken _ _ _ htaken => exact absurd htaken hfree
  | taken number candidate found htaken _ ih =>
    cases hother with
    | free _ _ hfree => exact absurd htaken hfree
    | taken _ _ _ _ hnext => exact ih hnext

/-! ### The names that tools get -/

/-- The name that a tool can get after others, of which there are `i`: its own one or that with its
method, either of them with a number from two to one more than there are tools before. -/
def IsMadeFrom (i : Nat) (given : String × String) (name : String) : Prop :=
  ∃ base, (base = given.1 ∨ base = given.1 ++ "_" ++ given.2) ∧
    (name = base ∨ ∃ k, 2 ≤ k ∧ k ≤ i + 1 ∧ name = base ++ "_" ++ toString k)

/-- The first pass adds the method or nothing. -/
theorem getElem?_withMethods {tools : List (String × String)} {seen : List String} {i : Nat}
    {given : String × String} {base : String} (hgiven : tools[i]? = some given)
    (hbase : (withMethods textKind seen tools)[i]? = some base) :
    base = given.1 ∨ base = given.1 ++ "_" ++ given.2 := by
  induction tools generalizing seen i with
  | nil => cases hgiven
  | cons tool tools ih =>
    cases i with
    | zero =>
      rw [withMethods, List.getElem?_cons_zero, Option.some_inj] at hbase
      rw [List.getElem?_cons_zero, Option.some_inj] at hgiven
      subst hgiven hbase
      split
      · exact Or.inr rfl
      · exact Or.inl rfl
    | succ i =>
      rw [withMethods, List.getElem?_cons_succ] at hbase
      exact ih hgiven hbase

/-- The second pass adds a number or nothing, and the number grows with the names seen. -/
theorem getElem?_withNumbers {names seen : List String} {i : Nat} {base name : String}
    (hbase : names[i]? = some base) (hname : (withNumbers textKind seen names)[i]? = some name) :
    name = base ∨ ∃ k, 2 ≤ k ∧ k ≤ seen.length + i + 1 ∧ name = base ++ "_" ++ toString k := by
  induction names generalizing seen i with
  | nil => cases hbase
  | cons first names ih =>
    cases i with
    | zero =>
      rw [withNumbers, List.getElem?_cons_zero, Option.some_inj] at hname
      rw [List.getElem?_cons_zero, Option.some_inj] at hbase
      subst hbase hname
      rcases fresh_cases seen first with ⟨-, hfresh⟩ | ⟨-, k, hk, hfresh, -, -⟩
      · exact Or.inl hfresh
      · exact Or.inr ⟨k + 2, by omega, by omega, hfresh⟩
    | succ i =>
      rw [withNumbers, List.getElem?_cons_succ] at hname
      rcases ih hbase hname with heq | ⟨k, hk, hle, heq⟩
      · exact Or.inl heq
      · rw [List.length_cons] at hle
        exact Or.inr ⟨k, hk, by omega, heq⟩

/-- **Every new name is made from the name and the method of its tool.** -/
theorem isMadeFrom_deduplicate {tools : List (String × String)} {i : Nat}
    {given : String × String} {name : String} (hgiven : tools[i]? = some given)
    (hname : (deduplicate tools)[i]? = some name) : IsMadeFrom i given name := by
  have hi : i < (withMethods textKind [] tools).length := by
    rw [length_withMethods]
    exact (List.getElem?_eq_some_iff.mp hgiven).1
  have hbase := List.getElem?_eq_getElem hi
  refine ⟨_, getElem?_withMethods hgiven hbase, ?_⟩
  have hnumber := getElem?_withNumbers hbase hname
  rw [List.length_nil, Nat.zero_add] at hnumber
  exact hnumber

/-! ### Names that are distinct -/

theorem withMethods_of_nodup {tools : List (String × String)} {seen : List String}
    (hnodup : (tools.map Prod.fst).Nodup) (hnew : ∀ tool ∈ tools, tool.1 ∉ seen) :
    withMethods textKind seen tools = tools.map Prod.fst := by
  induction tools generalizing seen with
  | nil => rfl
  | cons tool tools ih =>
    obtain ⟨hfirst, hnodup⟩ := List.nodup_cons.mp hnodup
    obtain ⟨hnot, hnew⟩ := List.forall_mem_cons.mp hnew
    have hrest : ∀ other ∈ tools, other.1 ∉ tool.1 :: seen := by
      intro other hmem hseen
      rcases List.mem_cons.mp hseen with heq | hseen
      · exact hfirst (heq ▸ List.mem_map_of_mem hmem)
      · exact hnew other hmem hseen
    rw [withMethods, if_neg fun hseen => hnot (isSeen_textKind_iff.mp hseen), ih hnodup hrest]
    rfl

theorem withNumbers_of_nodup {names seen : List String} (hnodup : names.Nodup)
    (hnew : ∀ name ∈ names, name ∉ seen) : withNumbers textKind seen names = names := by
  induction names generalizing seen with
  | nil => rfl
  | cons name names ih =>
    obtain ⟨hfirst, hnodup⟩ := List.nodup_cons.mp hnodup
    obtain ⟨hnot, hnew⟩ := List.forall_mem_cons.mp hnew
    have hfresh : fresh textKind seen name = name := by
      rcases fresh_cases seen name with ⟨-, hfresh⟩ | ⟨hseen, -⟩
      · exact hfresh
      · exact absurd hseen hnot
    have hrest : ∀ other ∈ names, other ∉ name :: seen := by
      intro other hmem hseen
      rcases List.mem_cons.mp hseen with heq | hseen
      · exact hfirst (heq ▸ hmem)
      · exact hnew other hmem hseen
    rw [withNumbers, hfresh, ih hnodup hrest]

/-- **Names that are distinct are kept.** -/
theorem deduplicate_of_nodup {tools : List (String × String)}
    (h : (tools.map Prod.fst).Nodup) : deduplicate tools = tools.map Prod.fst := by
  rw [deduplicate, deduplicateKind, withMethods_of_nodup h fun _ _ => List.not_mem_nil]
  exact withNumbers_of_nodup h fun _ _ => List.not_mem_nil

/-! ### Names in records -/

/-- A record of a tool with its name and its method, which are texts. -/
def IsRecordOf (tool : Value) (given : String × String) : Prop :=
  ∃ es : Entries, tool = .map es ∧ Scalar.DistinctKeys es ∧
    es.get? "name" = some (.text given.1) ∧ es.get? "http_method" = some (.text given.2)

/-- A record with another name in the place of its own. -/
def RenamedTo (tool : Value) (name : String) (renamed : Value) : Prop :=
  ∃ before after old, tool = .map (before ++ (.text "name", old) :: after) ∧
    renamed = .map (before ++ (.text "name", .text name) :: after)

/-- Texts among scalars are seen as they are among texts. -/
theorem isSeen_scalarKind (seen : List String) (name : String) :
    isSeen scalarKind (seen.map Scalar.text) (.text name) = isSeen textKind seen name := by
  unfold isSeen
  rw [List.any_map]
  rfl

theorem fresh_scalarKind (seen : List String) (name : String) :
    fresh scalarKind (seen.map Scalar.text) (.text name) = .text (fresh textKind seen name) := by
  unfold fresh
  rw [isSeen_scalarKind, List.length_map]
  split
  · have hnumbered : ∀ k, scalarKind.extend (.text name) (toString (k + 2)) =
        .text (numbered name k) := fun _ => rfl
    have hfree : (fun candidate => !isSeen scalarKind (seen.map Scalar.text) candidate) ∘
        (fun k => scalarKind.extend (.text name) (toString (k + 2))) =
        (fun candidate => !isSeen textKind seen candidate) ∘ numbered name := by
      funext k
      exact congrArg _ (isSeen_scalarKind seen (numbered name k))
    dsimp only
    rw [List.find?_map, hfree]
    change _ = Scalar.text ((((List.range seen.length).map (numbered name)).find?
      fun candidate => !isSeen textKind seen candidate).getD name)
    rw [List.find?_map]
    cases (List.range seen.length).find?
        ((fun candidate => !isSeen textKind seen candidate) ∘ numbered name) with
    | none => rfl
    | some k => rfl
  · rfl

theorem withNumbers_scalarKind (names seen : List String) :
    withNumbers scalarKind (seen.map Scalar.text) (names.map Scalar.text) =
      (withNumbers textKind seen names).map Scalar.text := by
  induction names generalizing seen with
  | nil => rfl
  | cons name names ih =>
    rw [List.map_cons, withNumbers, withNumbers, fresh_scalarKind, List.map_cons]
    exact congrArg _ (ih (fresh textKind seen name :: seen))

variable {tool : Value} {tools : List Value} {given : String × String}
variable {all : List (String × String)}

/-- The name of a record is read, and the method where the name was seen. -/
theorem nameAndMethod_of_record (h : IsRecordOf tool given) (seen : List String) :
    ∃ method, nameAndMethod (seen.map Scalar.text) tool = .ok (.text given.1, method) ∧
      (given.1 ∈ seen → method = given.2) := by
  obtain ⟨es, rfl, -, hname, hmethod⟩ := h
  have hentry : ∀ {key : String} {v : Value}, es.get? key = some v →
      (Value.map es).entry key = .ok v := by
    intro key v hv
    unfold Value.entry
    dsimp only [Value.bare]
    rw [hv]
  unfold nameAndMethod
  rw [hentry hname, hentry hmethod]
  by_cases hseen : given.1 ∈ seen
  · refine ⟨given.2, ?_, fun _ => rfl⟩
    have hseen := isSeen_textKind_iff.mpr hseen
    rw [← isSeen_scalarKind] at hseen
    exact if_pos hseen
  · refine ⟨"", ?_, fun h => absurd h hseen⟩
    rw [← isSeen_textKind_iff, ← isSeen_scalarKind] at hseen
    exact if_neg hseen

theorem withMethods_of_records (h : List.Forall₂ IsRecordOf tools all) (seen : List String) :
    ∃ found, namesAndMethods (seen.map Scalar.text) tools = .ok found ∧
      withMethods scalarKind (seen.map Scalar.text) found =
        (withMethods textKind seen all).map Scalar.text := by
  induction h generalizing seen with
  | nil => exact ⟨[], rfl, rfl⟩
  | @cons tool given tools all hrecord _ ih =>
    obtain ⟨method, hfirst, hmethod⟩ := nameAndMethod_of_record hrecord seen
    obtain ⟨found, hfound, hrest⟩ := ih (given.1 :: seen)
    refine ⟨(.text given.1, method) :: found, ?_, ?_⟩
    · refine Except.bind_eq_ok_iff.mpr ⟨_, hfirst, ?_⟩
      exact Except.bind_eq_ok_iff.mpr ⟨found, hfound, rfl⟩
    · rw [withMethods, withMethods, List.map_cons, isSeen_scalarKind]
      refine congrArg₂ _ ?_ hrest
      by_cases hseen : given.1 ∈ seen
      · rw [if_pos (isSeen_textKind_iff.mpr hseen), if_pos (isSeen_textKind_iff.mpr hseen),
          hmethod hseen]
        rfl
      · rw [if_neg fun h => hseen (isSeen_textKind_iff.mp h),
          if_neg fun h => hseen (isSeen_textKind_iff.mp h)]

/-- **Records are renamed by what becomes of their names.** -/
theorem renamedRecords_eq (h : List.Forall₂ IsRecordOf tools all) :
    renamedRecords tools =
      .ok (tools.zipWith (fun tool name => rename tool (.text name)) (deduplicate all)) := by
  obtain ⟨found, hfound, hmethods⟩ := withMethods_of_records h []
  refine renamedRecords_eq_ok_iff.mpr ⟨found, hfound, ?_⟩
  have hnames : deduplicateKind scalarKind found = (deduplicate all).map Scalar.text := by
    rw [deduplicateKind, show withMethods scalarKind [] found = _ from hmethods]
    exact withNumbers_scalarKind _ []
  rw [hnames, List.zipWith_map_right]

/-! ### Renamed records -/

theorem renamedTo_rename (h : IsRecordOf tool given) (name : String) :
    RenamedTo tool name (rename tool (.text name)) := by
  obtain ⟨es, rfl, hes, hname, -⟩ := h
  obtain ⟨before, after, hsplit, hinsert⟩ := Entries.exists_insert_eq hes hname
  exact ⟨before, after, _, congrArg _ hsplit, congrArg _ (hinsert (.text name))⟩

/-- A record that gets its own name stays as it is. -/
theorem rename_self (h : IsRecordOf tool given) : rename tool (.text given.1) = tool := by
  obtain ⟨es, rfl, hes, hname, -⟩ := h
  obtain ⟨before, after, hsplit, hinsert⟩ := Entries.exists_insert_eq hes hname
  exact congrArg _ ((hinsert (.text given.1)).trans hsplit.symm)

theorem isRecordOf_rename (h : IsRecordOf tool given) (name : String) :
    IsRecordOf (rename tool (.text name)) (name, given.2) := by
  obtain ⟨es, rfl, hes, hname, hmethod⟩ := h
  refine ⟨_, rfl, Entries.distinctKeys_insert hes _ _, ?_, ?_⟩
  · rw [Entries.get?_insert, if_pos rfl]
  · rw [Entries.get?_insert, if_neg (by decide)]
    exact hmethod

theorem forall₂_isRecordOf_rename (h : List.Forall₂ IsRecordOf tools all) {names : List String}
    (hlength : names.length = all.length) :
    List.Forall₂ IsRecordOf (tools.zipWith (fun tool name => rename tool (.text name)) names)
      (names.zip (all.map Prod.snd)) := by
  induction h generalizing names with
  | nil =>
    rw [List.length_eq_zero_iff.mp hlength]
    exact .nil
  | cons hrecord _ ih =>
    cases names with
    | nil => cases hlength
    | cons name names =>
      exact .cons (isRecordOf_rename hrecord name) (ih (Nat.succ.inj hlength))

/-- Records with distinct names stay as they are. -/
theorem renamedRecords_of_nodup (h : List.Forall₂ IsRecordOf tools all)
    (hnodup : (all.map Prod.fst).Nodup) : renamedRecords tools = .ok tools := by
  rw [renamedRecords_eq h, deduplicate_of_nodup hnodup, List.zipWith_map_right]
  refine congrArg _ ?_
  clear hnodup
  induction h with
  | nil => rfl
  | cons hrecord _ ih => rw [List.zipWith_cons_cons, rename_self hrecord, ih]

/-- **Records of tools get distinct names and keep the rest**, however their names collide.  The
search for the names ends; there is one new record for each one, at its place, with nothing changed
but the name; each new name is made from the name and the method of its tool; and records whose names
are distinct, those with new names among them, stay as they are. -/
theorem renamedRecords_of_records (h : List.Forall₂ IsRecordOf tools all) :
    ∃ (renamed : List Value) (names : List String), renamedRecords tools = .ok renamed ∧
      NumbersTo [] (withMethods textKind [] all) names ∧ names.Nodup ∧
      renamed.length = tools.length ∧
      (∀ (i : Nat) (tool new : Value), tools[i]? = some tool → renamed[i]? = some new →
        ∃ name, names[i]? = some name ∧ RenamedTo tool name new) ∧
      (∀ (i : Nat) given name, all[i]? = some given → names[i]? = some name →
        IsMadeFrom i given name) ∧
      ((all.map Prod.fst).Nodup → renamed = tools) ∧ renamedRecords renamed = .ok renamed := by
  have hlength := length_deduplicate all
  have hrenamed := renamedRecords_eq h
  refine ⟨_, deduplicate all, hrenamed, numbersTo_withNumbers _ [], nodup_deduplicate all,
    ?_, ?_, fun i given name => isMadeFrom_deduplicate, fun hnodup => ?_, ?_⟩
  · rw [List.length_zipWith, hlength, h.length_eq, Nat.min_self]
  · intro i tool new htool hnew
    obtain ⟨tool', name, htool', hname, rfl⟩ := List.getElem?_zipWith_eq_some.mp hnew
    obtain rfl := Option.some.inj (htool.symm.trans htool')
    obtain ⟨given, -, hrecord⟩ := List.exists_of_mem_forall₂ h (List.mem_of_getElem? htool)
    exact ⟨name, hname, renamedTo_rename hrecord name⟩
  · exact Except.ok.inj (hrenamed.symm.trans (renamedRecords_of_nodup h hnodup))
  · refine renamedRecords_of_nodup (forall₂_isRecordOf_rename h hlength) ?_
    rw [List.map_fst_zip (by rw [hlength, List.length_map])]
    exact nodup_deduplicate all

/-- The record of a tool with a path as well, which stands after its name. -/
def pathRecord (given : String × String) : Value :=
  .record [("name", .text given.1), ("path", .text "/x"), ("http_method", .text given.2)]

theorem isRecordOf_pathRecord (given : String × String) : IsRecordOf (pathRecord given) given := by
  refine ⟨_, rfl, ?_, rfl, rfl⟩
  refine .cons ?_ (.cons ?_ (.cons (List.forall_mem_nil _) .nil)) <;> simp

/-- Four tools, of which three have names that the others could get. -/
def collidingNames : List (String × String) :=
  [("x", "post"), ("x", "get"), ("x_get", "get"), ("x", "get")]

/-- All of them get names of their own. -/
theorem renamedRecords_collidingNames :
    List.Forall₂ IsRecordOf (collidingNames.map pathRecord) collidingNames ∧
      renamedRecords (collidingNames.map pathRecord) =
        .ok ([("x", "post"), ("x_get", "get"), ("x_get_2", "get"), ("x_get_3", "get")].map
          pathRecord) ∧
      ∃ renamed names, renamedRecords (collidingNames.map pathRecord) = .ok renamed ∧
        NumbersTo [] (withMethods textKind [] collidingNames) names ∧ names.Nodup ∧
        renamedRecords renamed = .ok renamed := by
  have hrecords : List.Forall₂ IsRecordOf (collidingNames.map pathRecord) collidingNames := by
    refine List.forall₂_map_left_iff.mpr (List.forall₂_same.mpr fun given _ => ?_)
    exact isRecordOf_pathRecord given
  obtain ⟨renamed, names, hrenamed, hnumbers, hnodup, -, -, -, -, hagain⟩ :=
    renamedRecords_of_records hrecords
  exact ⟨hrecords, rfl, renamed, names, hrenamed, hnumbers, hnodup, hagain⟩

end ToolName

end ApiTools
