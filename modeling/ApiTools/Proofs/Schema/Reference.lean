import ApiTools.Proofs.Schema.Compile

/-!
# The references that are followed

Resolution and compilation read a document only through the references that they follow.  These are
listed here along the recursion of either, and a second document in which they lead to the same
nodes gives the same result.

## Main definitions

* `Schema.resolutionRefs`, `Schema.compilationRefs` — the references followed from a node.
* `Schema.Keeps` — another document in which references lead where they lead in the first.

## Main results

* `Schema.resolveWithin_of_keeps`, `Schema.compileWithin_of_keeps` — **a node is resolved and
  compiled alike in two documents that agree on the references followed.**
-/

namespace ApiTools

namespace Schema

/-! ### The references followed from a node -/

/-- The branches of a composition, none if they cannot be read. -/
def branchesOf (branches : Value) : List Value :=
  (branches.orElse (.list [])).elements.toOption.getD []

/-- The references that the resolution of a node follows with the given room. -/
def resolutionRefs (document : Value) : Nat → Value → List String → List String
  | 0, _, _ => []
  | room + 1, schema, visited =>
    match schema.bare with
    | .map node =>
      match refOf node with
      | .null =>
        ((Entries.get? node "allOf").elim [] branchesOf).flatMap fun branch =>
          resolutionRefs document room branch visited
      | .text name =>
        if name ∈ visited then []
        else
          name :: match Pointer.resolveValue document (.text name) with
            | .ok target => resolutionRefs document room target (visit visited name)
            | .error _ => []
      | _ => []
    | _ => []

/-- The schemas in a node that its validator is made from, in order. -/
def innerSchemas (mode : Mode) (node : Entries) : List Value :=
  match kind node with
  | .object =>
    (declaredProperties node).map Prod.snd ++
      match mode, (extraSchema node).bare with
      | .input, .map _ => [extraSchema node]
      | _, _ => []
  | .array => if (itemSchema node).isTruthy then [itemSchema node] else []
  | _ => []

/-- The references that the compilation of a node follows with the given room. -/
def compilationRefs (document : Value) (mode : Mode) : Nat → Value → List String → List String
  | 0, _, _ => []
  | room + 1, schema, visited =>
    resolutionRefs document (room + 1) schema visited ++
      match resolveWithin document (room + 1) schema visited with
      | .ok r =>
        (innerSchemas mode r.node).flatMap fun inner =>
          compilationRefs document mode room inner r.visited
      | .error _ => []

/-- The list has the schemas in a node, and no others. -/
theorem mem_innerSchemas_iff {mode : Mode} {node : Entries} {c : Value} :
    c ∈ innerSchemas mode node ↔ Inner mode node c := by
  unfold innerSchemas
  constructor
  · intro hc
    split at hc
    · next hkind =>
      rcases List.mem_append.mp hc with hc | hc
      · obtain ⟨p, hp, rfl⟩ := List.mem_map.mp hc
        exact .property hkind p hp
      · split at hc
        · next es hbare hc =>
          rw [List.mem_singleton.mp hc]
          exact .extra hkind rfl es hbare
        · cases hc
    · next hkind =>
      split at hc
      · next htruthy =>
        rw [List.mem_singleton.mp hc]
        exact .item hkind htruthy
      · cases hc
    · cases hc
  · intro hc
    cases hc with
    | property hkind p hp =>
      rw [hkind]
      exact List.mem_append_left _ (List.mem_map_of_mem hp)
    | extra hkind hmode es hbare =>
      rw [hkind, hmode]
      refine List.mem_append_right _ ?_
      rw [hbare]
      exact List.mem_singleton_self _
    | item hkind htruthy =>
      rw [hkind]
      dsimp only
      rw [if_pos htruthy]
      exact List.mem_singleton_self _

/-- What a compilation follows has what its resolution follows. -/
theorem resolutionRefs_subset (document : Value) (mode : Mode) (room : Nat) (schema : Value)
    (visited : List String) :
    resolutionRefs document room schema visited ⊆
      compilationRefs document mode room schema visited := by
  cases room with
  | zero => exact List.nil_subset _
  | succ room => exact List.subset_append_left _ _

/-! ### Documents that agree on references -/

/-- References lead in another document to the nodes that they lead to in the first. -/
def Keeps (document other : Value) (refs : List String) : Prop :=
  ∀ name ∈ refs, ∀ target, Pointer.resolveValue document (.text name) = .ok target →
    Pointer.resolveValue other (.text name) = .ok target

variable {document other schema : Value} {mode : Mode} {room : Nat} {visited : List String}

theorem Keeps.mono {refs fewer : List String} (h : Keeps document other refs)
    (hsub : fewer ⊆ refs) : Keeps document other fewer :=
  fun name hname => h name (hsub hname)

/-- **A node is resolved alike where the references followed lead to the same nodes.** -/
theorem resolveWithin_of_keeps
    (hkeeps : Keeps document other (resolutionRefs document room schema visited))
    {r : Resolution} (h : resolveWithin document room schema visited = .ok r) :
    resolveWithin other room schema visited = .ok r := by
  -- The room goes down by one for each node on the way, branches and targets alike.
  induction room generalizing schema visited r with
  | zero => exact h
  | succ room ih =>
    refine resolveWithin_of_step ?_
    cases resolveWithin_succ h with
    | noNode hbare hr => exact .noNode hbare hr
    | itself node hbare href hallOf hr => exact .itself node hbare href hallOf hr
    | composed node hbare href branches hallOf items hitems merge hmerge hr =>
      refine .composed node hbare href branches hallOf items hitems merge ?_ hr
      have hbranch : ∀ branch ∈ items, ∀ r, resolveWithin document room branch visited = .ok r →
          resolveWithin other room branch visited = .ok r := by
        intro branch hmem r hr
        refine ih (hkeeps.mono fun name hname => ?_) hr
        rw [resolutionRefs, hbare]
        dsimp only
        rw [href, hallOf, Option.elim_some, branchesOf, hitems]
        exact List.mem_flatMap.mpr ⟨branch, hmem, hname⟩
      refine Except.foldlM_congr_ok (fun merge branch hmem merge' hadd => ?_) hmerge
      obtain ⟨r, hr, hadd⟩ := Except.bind_eq_ok_iff.mp hadd
      exact Except.bind_eq_ok_iff.mpr ⟨r, hbranch branch hmem r hr, hadd⟩
    | cut node hbare name href hvisited hr => exact .cut node hbare name href hvisited hr
    | followed node hbare name href hvisited target htarget hr =>
      have hrefs : resolutionRefs document (room + 1) schema visited =
          name :: resolutionRefs document room target (visit visited name) := by
        rw [resolutionRefs, hbare]
        dsimp only
        rw [href]
        dsimp only
        rw [if_neg hvisited, htarget]
      rw [hrefs] at hkeeps
      have htarget := hkeeps name List.mem_cons_self target htarget
      have hr := ih (hkeeps.mono (List.subset_cons_self _ _)) hr
      exact .followed node hbare name href hvisited target htarget hr

/-- **A node is compiled alike where the references followed lead to the same nodes.** -/
theorem compileWithin_of_keeps
    (hkeeps : Keeps document other (compilationRefs document mode room schema visited))
    {v : Validator} (h : compileWithin document mode room schema visited = .ok v) :
    compileWithin other mode room schema visited = .ok v := by
  induction room generalizing schema visited v with
  | zero => exact h
  | succ room ih =>
    rw [compilationRefs] at hkeeps
    have hresolve : ∀ r, resolveWithin document (room + 1) schema visited = .ok r →
        resolveWithin other (room + 1) schema visited = .ok r :=
      fun r => resolveWithin_of_keeps (hkeeps.mono (List.subset_append_left _ _))
    refine compileWithin_succ_iff.mpr ?_
    cases compileWithin_succ_iff.mp h with
    | cut r hr hnil hv => exact .cut r (hresolve r hr) hnil hv
    | built r hr hne bare described hbare hdescribed hv =>
      refine .built r (hresolve r hr) hne bare described ?_ hdescribed hv
      refine bareValidator_congr (fun inner hinner w hw => ?_) hbare
      refine ih (hkeeps.mono fun name hname => List.mem_append_right _ ?_) hw
      rw [hr]
      exact List.mem_flatMap.mpr ⟨inner, mem_innerSchemas_iff.mpr hinner, hname⟩

end Schema

end ApiTools
