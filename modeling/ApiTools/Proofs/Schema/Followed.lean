import ApiTools.Proofs.Schema.Alike

/-!
# References that were followed

A run is given the references that were followed before it, and looks up only whether a reference is
among them.  So they count as a set: neither their order nor their repetitions make a difference.  Nor
do names that the run does not meet, and nor does room that it does not use up.

## Main definitions

* `Schema.AgreeBut` — two lists of followed references agree on all names but some.
* `Schema.Merge.SameBut` — two merges that add up to the same, after such lists.

## Main results

* `Schema.resolveWithin_agree`, `Schema.compileWithin_agree` — **names that are not met make no
  difference.**
* `Schema.compileWithin_of_mem_iff` — **what was followed counts as a set.**
-/

namespace ApiTools

namespace Schema

variable {document schema : Value} {mode : Mode} {room : Nat} {names : String → Prop}
variable {visited fewer : List String}

/-! ### Lists that agree -/

/-- Two lists have the same names, but that the second one has none of the given ones. -/
structure AgreeBut (names : String → Prop) (visited fewer : List String) : Prop where
  /-- The given names are not in the second list. -/
  absent : ∀ name, names name → name ∉ fewer
  /-- Every other name is in both lists or in neither. -/
  mem_iff : ∀ name, ¬names name → (name ∈ visited ↔ name ∈ fewer)

namespace AgreeBut

theorem of_mem_iff (h : ∀ name, name ∈ visited ↔ name ∈ fewer) :
    AgreeBut (fun _ => False) visited fewer := ⟨fun _ => False.elim, fun name _ => h name⟩

/-- A name that is in neither list unless it is none of the given ones is in both or in neither. -/
theorem mem_iff_of_fresh (h : AgreeBut names visited fewer) {name : String}
    (hfresh : name ∉ fewer → ¬names name) : name ∈ visited ↔ name ∈ fewer :=
  h.mem_iff name fun hname => hfresh (h.absent name hname) hname

theorem visit (h : AgreeBut names visited fewer) {ref : String} (hne : ¬names ref) :
    AgreeBut names (Schema.visit visited ref) (Schema.visit fewer ref) := by
  refine ⟨fun name hname hmem => ?_, fun name hname => ?_⟩
  · rcases mem_visit.mp hmem with hmem | rfl
    · exact h.absent name hname hmem
    · exact hne hname
  · rw [mem_visit, mem_visit, h.mem_iff name hname]

theorem visitAll {others fewerOthers : List String} (h : AgreeBut names visited fewer)
    (hothers : AgreeBut names others fewerOthers) :
    AgreeBut names (Schema.visitAll visited others) (Schema.visitAll fewer fewerOthers) := by
  refine ⟨fun name hname hmem => ?_, fun name hname => ?_⟩
  · exact (mem_visitAll.mp hmem).elim (h.absent name hname) (hothers.absent name hname)
  · rw [mem_visitAll, mem_visitAll, h.mem_iff name hname, hothers.mem_iff name hname]

end AgreeBut

/-- Two merges that add up to the same, one of them after further references. -/
structure Merge.SameBut (names : String → Prop) (merge other : Merge) : Prop where
  /-- They have the same properties. -/
  properties : merge.properties = other.properties
  /-- They have the same required names. -/
  required : merge.required = other.required
  /-- They have followed the same references but some. -/
  visited : AgreeBut names merge.visited other.visited

/-- A branch that resolves to the same node keeps two merges the same. -/
theorem Merge.SameBut.add {merge other : Merge} (h : merge.SameBut names other) {r s : Resolution}
    (hnode : r.node = s.node) (hvisited : AgreeBut names r.visited s.visited) :
    Except.Relates (Merge.SameBut names) (merge.add r) (other.add s) := by
  unfold Merge.add
  rw [hnode]
  refine (Except.Relates.refl (R := Eq) _ fun _ _ => rfl).bind fun properties _ _ _ heq => ?_
  subst heq
  refine (Except.Relates.refl (R := Eq) _ fun _ _ => rfl).bind fun required _ _ _ heq => ?_
  subst heq
  refine .ok ⟨?_, ?_, h.visited.visitAll hvisited⟩
  · exact congrArg (·.merge properties) h.properties
  · exact congrArg (· ++ required) h.required

/-! ### Runs that do not meet the names -/

/-- **Names that were followed make no difference** to the resolution of a schema in which they are
not met, and neither does room that is not used up. -/
theorem resolveWithin_agree {less : Nat} (hroom : less ≤ room)
    (hvisited : AgreeBut names visited fewer)
    (hbounds : less < room → .overflows ∉ resolutionTrace document less schema visited)
    (hnames : ∀ name, names name → .follows name ∉ resolutionTrace document room schema fewer) :
    Except.Relates (fun r s => r.node = s.node ∧ AgreeBut names r.visited s.visited)
      (resolveWithin document less schema visited) (resolveWithin document room schema fewer) := by
  induction less generalizing room schema visited fewer with
  | zero =>
    obtain rfl | hpos := Nat.eq_zero_or_pos room
    · exact .ok ⟨rfl, hvisited⟩
    · exact absurd (List.mem_singleton_self _) (hbounds hpos)
  | succ less ih =>
    obtain ⟨room, rfl⟩ : ∃ n, room = n + 1 := ⟨room - 1, by omega⟩
    have hroom : less ≤ room := Nat.le_of_succ_le_succ hroom
    cases form schema with
    | noNode hbare =>
      rw [resolveWithin_noNode hbare, resolveWithin_noNode hbare]
      exact .ok ⟨rfl, hvisited⟩
    | itself node hbare href hallOf =>
      rw [resolveWithin_itself hbare href hallOf, resolveWithin_itself hbare href hallOf]
      exact .ok ⟨rfl, hvisited⟩
    | unreadable node hbare hnull htext =>
      obtain ⟨e, he⟩ := resolveWithin_unreadable hnull htext
      rw [he document schema node hbare rfl, he document schema node hbare rfl]
      exact .error e
    | composed node hbare href branches hallOf =>
      rw [resolveWithin_composed hbare href hallOf, resolveWithin_composed hbare href hallOf]
      cases hitems : (branches.orElse (.list [])).elements with
      | error e => exact .error e
      | ok items =>
        rw [resolutionTrace_composed hbare href hallOf hitems] at hbounds hnames
        have hmerge : Except.Relates (Merge.SameBut names)
            (mergeAll (fun branch => resolveWithin document less branch visited) visited items)
            (mergeAll (fun branch => resolveWithin document room branch fewer) fewer items) := by
          -- What is met in a branch that is reached is met in the whole composition.
          refine Except.Relates.foldlM (T := Eq)
            (P := fun branch =>
              less < room → .overflows ∉ resolutionTrace document less branch visited)
            (Q := fun branch => ∀ name, names name →
              .follows name ∉ resolutionTrace document room branch fewer)
            (List.forall₂_same.mpr fun _ _ => rfl) ?_ ?_ ?_ ⟨rfl, rfl, hvisited⟩
          · rintro merge other branch _ hbounds hnames rfl hsame
            exact (ih hroom hvisited hbounds hnames).bind fun r s _ _ hrs =>
              hsame.add hrs.1 hrs.2
          · exact fun branch hbranch hless hmem =>
              hbounds (by omega) (List.mem_flatMap.mpr ⟨branch, hbranch, hmem⟩)
          · exact fun branch hbranch name hname hmem =>
              hnames name hname (List.mem_flatMap.mpr ⟨branch, hbranch, hmem⟩)
        refine hmerge.bind fun merge other _ _ hsame => .ok ⟨?_, hsame.visited⟩
        dsimp only
        unfold Merge.node
        rw [hsame.properties, hsame.required]
    | reference node hbare ref href =>
      rw [resolveWithin_reference hbare href, resolveWithin_reference hbare href]
      -- A reference is met when it is new, so it is none of the names then.
      have hmet : ref ∉ fewer → ¬names ref := fun hfresh hname =>
        hnames ref hname (follows_mem_resolutionTrace hbare href hfresh)
      have hiff : ref ∈ visited ↔ ref ∈ fewer := hvisited.mem_iff_of_fresh hmet
      by_cases hseen : ref ∈ fewer
      · rw [if_pos hseen, if_pos (hiff.mpr hseen)]
        exact .ok ⟨rfl, hvisited⟩
      · have hmem : ref ∉ visited := mt hiff.mp hseen
        rw [if_neg hseen, if_neg hmem]
        cases htarget : Pointer.resolveValue document (.text ref) with
        | error e => exact .error e
        | ok target =>
          rw [resolutionTrace_followed hbare href hmem htarget] at hbounds
          rw [resolutionTrace_followed hbare href hseen htarget] at hnames
          exact ih hroom (hvisited.visit (hmet hseen))
            (fun hless h => hbounds (by omega) (List.mem_cons_of_mem _ h))
            (fun name hname h => hnames name hname (List.mem_cons_of_mem _ h))

/-- Schemas that resolve to one node have one validator when the schemas in the node have, whether
the names were followed or not. -/
theorem compileWithin_of_agree {other : Value}
    (hresolve : Except.Relates (fun r s => r.node = s.node ∧ AgreeBut names r.visited s.visited)
      (resolveWithin document (room + 1) schema visited)
      (resolveWithin document (room + 1) other fewer))
    (hnames : ∀ name, names name →
      .follows name ∉ compilationTrace document mode (room + 1) other fewer)
    (hchild : ∀ c visited fewer, AgreeBut names visited fewer →
      (∀ name, names name → .follows name ∉ compilationTrace document mode room c fewer) →
        compileWithin document mode room c visited = compileWithin document mode room c fewer) :
    compileWithin document mode (room + 1) schema visited =
      compileWithin document mode (room + 1) other fewer := by
  refine compileWithin_of_relates KeepsShape.eq ?_ ?_
  · exact hresolve.mono fun r s _ _ hrs => hrs.1 ▸ NodePair.refl (fun _ => rfl) r.node
  · rintro r s hr hs c hc d hd rfl
    rw [hr, hs] at hresolve
    cases hresolve with
    | ok hrs =>
      exact hchild c _ _ hrs.2 fun name hname h =>
        hnames name hname (mem_compilationTrace_of_inner hs hd h)

/-- **Names that were followed make no difference** to the validator of a schema in which they are not
met. -/
theorem compileWithin_agree (hvisited : AgreeBut names visited fewer)
    (hnames : ∀ name, names name →
      .follows name ∉ compilationTrace document mode room schema fewer) :
    compileWithin document mode room schema visited =
      compileWithin document mode room schema fewer := by
  induction room generalizing schema visited fewer with
  | zero => rfl
  | succ room ih =>
    refine compileWithin_of_agree ?_ hnames fun c _ _ => ih
    exact resolveWithin_agree (Nat.le_refl _) hvisited (fun h => absurd h (Nat.lt_irrefl _))
      fun name hname h => hnames name hname (mem_compilationTrace_of_resolution h)

/-- **What was followed counts as a set.** -/
theorem compileWithin_of_mem_iff (h : ∀ name, name ∈ visited ↔ name ∈ fewer) :
    compileWithin document mode room schema visited =
      compileWithin document mode room schema fewer :=
  compileWithin_agree (.of_mem_iff h) fun _ => False.elim

end Schema

end ApiTools
