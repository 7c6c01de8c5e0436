import ApiTools.Proofs.ToolName.Renaming

/-!
# Who keeps a name

Names are given out in the order of the tools.  The first tool of a name has a claim to it, but so
has every tool before it that comes by the same name through its method or a number, and the earlier
one gets it.  No later tool ever does.  So a tool keeps its own name exactly when it is the first of
that name and no tool before it was given the name, and whoever was given it has an own name that
this one only begins with.

## Main definitions

* `ToolName.HasName` — a record of a tool with a text as its name.

## Main results

* `ToolName.getElem?_deduplicate` — a tool gets a name that is fresh after those before it.
* `ToolName.deduplicate_eq_own_iff` — when a tool keeps its own name.
* `ToolName.taken_before` — **a name of its own is taken by earlier tools only**, and only by
  those whose own name it begins with.
* `ToolName.renamedRecords_keeps_iff` — the same **for records of tools.**
-/

namespace ApiTools

namespace ToolName

/-! ### The name that a tool gets -/

theorem mem_take_iff {α : Type} {l : List α} {n : Nat} {a : α} :
    a ∈ l.take n ↔ ∃ k < n, l[k]? = some a := by
  simp [List.mem_iff_getElem?, List.getElem?_take]

variable {tools : List (String × String)} {given : String × String} {i j : Nat}

theorem length_lt_extend (name ending : String) :
    name.length < (name ++ "_" ++ ending).length := by
  have hbar : "_".length = 1 := rfl
  rw [String.length_append, String.length_append]
  omega

/-- The first pass adds the method exactly where the name was met before. -/
theorem getElem?_withMethods_eq (seen : List String) (h : tools[i]? = some given) :
    (withMethods textKind seen tools)[i]? =
      some (if given.1 ∈ seen ∨ given.1 ∈ (tools.take i).map Prod.fst
        then given.1 ++ "_" ++ given.2 else given.1) := by
  induction tools generalizing seen i with
  | nil => cases h
  | cons tool tools ih =>
    cases i with
    | zero =>
      obtain rfl := Option.some.inj h
      rw [withMethods, List.getElem?_cons_zero]
      simp only [isSeen_textKind_iff, List.take_zero, List.map_nil, List.not_mem_nil, or_false]
      rfl
    | succ i =>
      rw [withMethods, List.getElem?_cons_succ, ih _ h]
      simp only [List.mem_cons, List.take_succ_cons, List.map_cons, or_assoc, or_left_comm]

/-- The second pass gives a name that is fresh after those given before. -/
theorem getElem?_withNumbers_eq {names : List String} (seen : List String) {base : String}
    (h : names[i]? = some base) :
    (withNumbers textKind seen names)[i]? =
      some (fresh textKind (((withNumbers textKind seen names).take i).reverse ++ seen) base) := by
  induction names generalizing seen i with
  | nil => cases h
  | cons name names ih =>
    cases i with
    | zero =>
      obtain rfl := Option.some.inj h
      rfl
    | succ i =>
      rw [withNumbers, List.getElem?_cons_succ, ih _ h, List.take_succ_cons, List.reverse_cons,
        List.append_assoc]
      rfl

/-- **A tool gets a name that is fresh after those given before**, made from its own name, or from
that with its method if its name was met before. -/
theorem getElem?_deduplicate (h : tools[i]? = some given) :
    (deduplicate tools)[i]? =
      some (fresh textKind ((deduplicate tools).take i).reverse
        (if given.1 ∈ (tools.take i).map Prod.fst then given.1 ++ "_" ++ given.2
          else given.1)) := by
  have hbase := getElem?_withMethods_eq [] h
  simp only [List.not_mem_nil, false_or] at hbase
  have hname := getElem?_withNumbers_eq [] hbase
  rwa [List.append_nil] at hname

/-! ### Tools that keep their own names -/

/-- **A tool keeps its own name exactly when it is the first of that name and no tool before it was
given the name.** -/
theorem deduplicate_eq_own_iff (h : tools[i]? = some given) :
    (deduplicate tools)[i]? = some given.1 ↔
      given.1 ∉ (tools.take i).map Prod.fst ∧ given.1 ∉ (deduplicate tools).take i := by
  rw [getElem?_deduplicate h, Option.some_inj]
  by_cases hmet : given.1 ∈ (tools.take i).map Prod.fst
  · -- With its method the name is longer, and a number makes it longer still.
    rw [if_pos hmet]
    refine iff_of_false (fun hsame => ?_) fun hboth => hboth.1 hmet
    have hmethod := length_lt_extend given.1 given.2
    rcases fresh_cases ((deduplicate tools).take i).reverse (given.1 ++ "_" ++ given.2) with
      ⟨-, hfresh⟩ | ⟨-, k, -, hfresh, -, -⟩
    · rw [← hfresh, hsame] at hmethod
      omega
    · have hnumber := length_lt_extend (given.1 ++ "_" ++ given.2) (toString (k + 2))
      rw [show given.1 ++ "_" ++ given.2 ++ "_" ++ toString (k + 2) = given.1 from
        hfresh.symm.trans hsame] at hnumber
      omega
  · rw [if_neg hmet, and_iff_right hmet, ← List.mem_reverse]
    rcases fresh_cases ((deduplicate tools).take i).reverse given.1 with
      ⟨hnew, hfresh⟩ | ⟨htaken, k, -, hfresh, -, -⟩
    · exact iff_of_true hfresh hnew
    · refine iff_of_false (fun hsame => ?_) fun hnew => hnew htaken
      exact numbered_ne given.1 k (hfresh.symm.trans hsame)

/-- A name other than the own one begins with that. -/
theorem IsMadeFrom.exists_ending {name : String} (h : IsMadeFrom i given name)
    (hname : name ≠ given.1) : ∃ ending, name = given.1 ++ "_" ++ ending := by
  obtain ⟨base, hbase, hnumber⟩ := h
  rcases hbase with rfl | rfl <;> rcases hnumber with rfl | ⟨k, -, -, rfl⟩
  · exact absurd rfl hname
  · exact ⟨_, rfl⟩
  · exact ⟨_, rfl⟩
  · refine ⟨given.2 ++ "_" ++ toString k, ?_⟩
    simp only [String.append_assoc]

/-- **The own name of the first tool of that name is taken by an earlier tool only**, and only by
one whose own name it begins with. -/
theorem taken_before (h : tools[i]? = some given)
    (hfirst : given.1 ∉ (tools.take i).map Prod.fst)
    (hj : (deduplicate tools)[j]? = some given.1) (hne : j ≠ i) :
    j < i ∧ ∃ other ending, tools[j]? = some other ∧ given.1 = other.1 ++ "_" ++ ending := by
  -- No two tools get one name, so the tool itself did not keep it, and the one that has it is the
  -- one that took it.
  have honce : ∀ {k l : Nat}, (deduplicate tools)[k]? = some given.1 →
      (deduplicate tools)[l]? = some given.1 → k = l := fun hk hl =>
    (List.getElem?_inj (List.getElem?_eq_some_iff.mp hk).1 (nodup_deduplicate tools)).mp
      (hk.trans hl.symm)
  have htaken : given.1 ∈ (deduplicate tools).take i := by
    by_contra hnew
    exact hne (honce hj ((deduplicate_eq_own_iff h).mpr ⟨hfirst, hnew⟩))
  obtain ⟨k, hk, htaker⟩ := mem_take_iff.mp htaken
  obtain rfl := honce hj htaker
  have hlength := length_deduplicate tools ▸ (List.getElem?_eq_some_iff.mp hj).1
  have hother := List.getElem?_eq_getElem hlength
  have hnot : given.1 ≠ tools[j].1 := fun hsame =>
    hfirst (List.mem_map.mpr ⟨tools[j], mem_take_iff.mpr ⟨j, hk, hother⟩, hsame.symm⟩)
  obtain ⟨ending, hending⟩ := (isMadeFrom_deduplicate hother hj).exists_ending hnot
  exact ⟨hk, tools[j], ending, hother, hending⟩

/-! ### Records of tools -/

/-- A record of a tool with a text as its name. -/
def HasName (tool : Value) (name : String) : Prop :=
  ∃ es : Entries, tool = .map es ∧ es.get? "name" = some (.text name)

variable {records renamed : List Value} {names : List String}

theorem entry_of_hasName {tool : Value} {name : String} (h : HasName tool name) :
    tool.entry "name" = .ok (.text name) := by
  obtain ⟨es, rfl, hname⟩ := h
  unfold Value.entry
  dsimp only [Value.bare]
  rw [hname]

theorem eq_of_forall₂_hasName {chosen : List String} (h : List.Forall₂ HasName records names)
    (hchosen : List.Forall₂ HasName records chosen) : names = chosen := by
  refine List.right_unique_forall₂' (fun tool name other hname hother => ?_) h hchosen
  obtain ⟨es, rfl, hname⟩ := hname
  obtain ⟨_, heq, hother⟩ := hother
  rw [← Value.map.inj heq, hname] at hother
  simpa using hother

theorem hasName_rename {tool : Value} {name : String} (h : HasName tool name) (new : String) :
    HasName (rename tool (.text new)) new := by
  obtain ⟨es, rfl, -⟩ := h
  refine ⟨_, rfl, ?_⟩
  rw [Entries.get?_insert, if_pos rfl]

theorem forall₂_hasName_rename (h : List.Forall₂ HasName records names) {chosen : List String}
    (hlength : chosen.length = names.length) :
    List.Forall₂ HasName (records.zipWith (fun tool name => rename tool (.text name)) chosen)
      chosen := by
  induction h generalizing chosen with
  | nil =>
    rw [List.length_eq_zero_iff.mp hlength]
    exact .nil
  | cons hname _ ih =>
    cases chosen with
    | nil => cases hlength
    | cons new chosen => exact .cons (hasName_rename hname new) (ih (Nat.succ.inj hlength))

/-- The names of such records are read as they are. -/
theorem exists_of_namesAndMethods (h : List.Forall₂ HasName records names) {seen : List Scalar}
    {found : List (Scalar × String)} (hfound : namesAndMethods seen records = .ok found) :
    ∃ all : List (String × String), all.map Prod.fst = names ∧
      found = all.map fun given => (.text given.1, given.2) := by
  induction h generalizing seen found with
  | nil => exact ⟨[], rfl, (Except.ok.inj hfound).symm⟩
  | @cons tool name records names hname _ ih =>
    obtain ⟨⟨key, method⟩, hfirst, hfound⟩ := Except.bind_eq_ok_iff.mp hfound
    obtain ⟨rest, hrest, hfound⟩ := Except.bind_eq_ok_iff.mp hfound
    have hkey : key = .text name := by
      unfold nameAndMethod at hfirst
      rw [entry_of_hasName hname] at hfirst
      change (if isSeen scalarKind seen (.text name) then _ else _) = _ at hfirst
      split at hfirst
      · obtain ⟨_, -, hfirst⟩ := Except.bind_eq_ok_iff.mp hfirst
        exact (Prod.mk.inj (Except.ok.inj hfirst)).1.symm
      · exact (Prod.mk.inj (Except.ok.inj hfirst)).1.symm
    obtain ⟨all, hall, hrest⟩ := ih hrest
    refine ⟨(name, method) :: all, congrArg _ hall, ?_⟩
    rw [← Except.ok.inj hfound, hkey, hrest]
    rfl

/-- The names are read if each record has a method. -/
theorem exists_namesAndMethods (h : List.Forall₂ HasName records names)
    (hmethods : ∀ tool ∈ records, ∃ v, tool.entry "http_method" = .ok v) (seen : List Scalar) :
    ∃ found, namesAndMethods seen records = .ok found := by
  induction h generalizing seen with
  | nil => exact ⟨[], rfl⟩
  | @cons tool name records names hname _ ih =>
    obtain ⟨⟨method, hmethod⟩, hmethods⟩ := List.forall_mem_cons.mp hmethods
    obtain ⟨given, hgiven⟩ : ∃ given, nameAndMethod seen tool = .ok given := by
      unfold nameAndMethod
      rw [entry_of_hasName hname, hmethod]
      change ∃ given, (if isSeen scalarKind seen (.text name) then _ else _) = _
      split <;> exact ⟨_, rfl⟩
    obtain ⟨found, hfound⟩ := ih hmethods (given.1 :: seen)
    refine ⟨given :: found, ?_⟩
    refine Except.bind_eq_ok_iff.mpr ⟨given, hgiven, ?_⟩
    exact Except.bind_eq_ok_iff.mpr ⟨found, hfound, rfl⟩

theorem withMethods_scalarKind (tools : List (String × String)) (seen : List String) :
    withMethods scalarKind (seen.map Scalar.text)
        (tools.map fun given => (.text given.1, given.2)) =
      (withMethods textKind seen tools).map Scalar.text := by
  induction tools generalizing seen with
  | nil => rfl
  | cons tool tools ih =>
    rw [List.map_cons, withMethods, withMethods, isSeen_scalarKind, List.map_cons]
    refine congrArg₂ _ ?_ (ih (tool.1 :: seen))
    split <;> rfl

/-- **Records with texts as names are renamed by what becomes of these.** -/
theorem exists_of_renamedRecords (h : List.Forall₂ HasName records names)
    (hrenamed : renamedRecords records = .ok renamed) :
    ∃ all : List (String × String), all.map Prod.fst = names ∧
      List.Forall₂ HasName renamed (deduplicate all) := by
  obtain ⟨found, hfound, rfl⟩ := renamedRecords_eq_ok_iff.mp hrenamed
  obtain ⟨all, hall, rfl⟩ := exists_of_namesAndMethods h hfound
  refine ⟨all, hall, ?_⟩
  have hnames : deduplicateKind scalarKind (all.map fun given => (.text given.1, given.2)) =
      (deduplicate all).map Scalar.text := by
    rw [deduplicateKind, show withMethods scalarKind [] _ = _ from withMethods_scalarKind all []]
    exact withNumbers_scalarKind _ []
  rw [hnames, List.zipWith_map_right]
  refine forall₂_hasName_rename h ?_
  rw [length_deduplicate, ← hall, List.length_map]

/-- **Records of tools keep their own names unless an earlier one was given it**: with texts as
names and with methods they are renamed, and whenever they are, a record keeps its name exactly when
it is the first of that name and no record before it was given the name.  If it is the first of the
name, only a record before it may be given the name, and only one whose own name it begins with. -/
theorem renamedRecords_keeps_iff (h : List.Forall₂ HasName records names) :
    ((∀ tool ∈ records, ∃ v, tool.entry "http_method" = .ok v) →
      ∃ renamed, renamedRecords records = .ok renamed) ∧
    ∀ renamed, renamedRecords records = .ok renamed →
      ∃ chosen, List.Forall₂ HasName renamed chosen ∧
        ∀ i name, names[i]? = some name →
          (chosen[i]? = some name ↔ name ∉ names.take i ∧ name ∉ chosen.take i) ∧
          (name ∉ names.take i → ∀ j, j ≠ i → chosen[j]? = some name →
            j < i ∧ ∃ other ending, names[j]? = some other ∧ name = other ++ "_" ++ ending) := by
  refine ⟨fun hmethods => ?_, fun renamed hrenamed => ?_⟩
  · obtain ⟨found, hfound⟩ := exists_namesAndMethods h hmethods []
    exact ⟨_, renamedRecords_eq_ok_iff.mpr ⟨found, hfound, rfl⟩⟩
  · obtain ⟨all, rfl, hchosen⟩ := exists_of_renamedRecords h hrenamed
    refine ⟨deduplicate all, hchosen, fun i name hname => ?_⟩
    rw [List.getElem?_map] at hname
    obtain ⟨given, hgiven, rfl⟩ := Option.map_eq_some_iff.mp hname
    rw [← List.map_take]
    refine ⟨deduplicate_eq_own_iff hgiven, fun hfirst j hne hj => ?_⟩
    obtain ⟨hlt, other, ending, hother, hending⟩ := taken_before hgiven hfirst hj hne
    refine ⟨hlt, other.1, ending, ?_, hending⟩
    rw [List.getElem?_map, hother]
    rfl

/-- Four tools: the second one is given the name of the third, as its own is that of the first. -/
def overtakenNames : List (String × String) :=
  [("x", "post"), ("x", "get"), ("x_get", "get"), ("x_list", "get")]

/-- The names that they are given. -/
def givenNames : List String := ["x", "x_get", "x_get_2", "x_list"]

/-- The records of tools have the names that they are made with. -/
theorem forall₂_hasName_pathRecord (all : List (String × String)) :
    List.Forall₂ HasName (all.map pathRecord) (all.map Prod.fst) :=
  List.forall₂_map_left_iff.mpr (List.forall₂_map_right_iff.mpr
    (List.forall₂_same.mpr fun _ _ => ⟨_, rfl, rfl⟩))

/-- The third tool does not keep its name, and the fourth one does. -/
theorem renamedRecords_keeps_overtakenNames :
    List.Forall₂ HasName (overtakenNames.map pathRecord) (overtakenNames.map Prod.fst) ∧
      ∃ renamed chosen, renamedRecords (overtakenNames.map pathRecord) = .ok renamed ∧
        List.Forall₂ HasName renamed chosen ∧ chosen.take 3 = givenNames.take 3 ∧
        chosen[2]? ≠ some "x_get" ∧ chosen[3]? = some "x_list" := by
  have hnames := forall₂_hasName_pathRecord overtakenNames
  obtain ⟨hrenamed, hkeeps⟩ := renamedRecords_keeps_iff hnames
  obtain ⟨renamed, hrenamed⟩ :=
    hrenamed (List.forall_mem_map.mpr fun given _ => ⟨.text given.2, rfl⟩)
  obtain ⟨chosen, hchosen, hown⟩ := hkeeps renamed hrenamed
  have hgiven : List.Forall₂ HasName renamed givenNames := by
    have hrecords : renamed = (givenNames.zip (overtakenNames.map Prod.snd)).map pathRecord :=
      Except.ok.inj (hrenamed.symm.trans rfl)
    rw [hrecords]
    exact forall₂_hasName_pathRecord _
  obtain rfl := eq_of_forall₂_hasName hchosen hgiven
  refine ⟨hnames, renamed, _, hrenamed, hchosen, rfl, ?_, ?_⟩
  · exact fun hkept => ((hown 2 "x_get" rfl).1.mp hkept).2 (by decide)
  · exact (hown 3 "x_list" rfl).1.mpr (by decide)

/-- **A name that collides with no other may be taken all the same.** -/
theorem own_name_overtaken :
    (overtakenNames.map Prod.fst).count "x_get" = 1 ∧
      overtakenNames[2]? = some ("x_get", "get") ∧
      renamedRecords (overtakenNames.map pathRecord) =
        .ok ((givenNames.zip (overtakenNames.map Prod.snd)).map pathRecord) ∧
      givenNames[1]? = some "x_get" ∧ givenNames[2]? = some "x_get_2" :=
  ⟨by decide, rfl, rfl, rfl, rfl⟩

end ToolName

end ApiTools
