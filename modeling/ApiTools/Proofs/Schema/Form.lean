import ApiTools.Proofs.Schema.Compile

/-!
# The forms of a schema

What a run of resolution does with a schema is a matter of its form.  Each form has one equation,
which holds whether the run succeeds or fails, and whatever room there is and whatever was followed
before.  So two runs on one schema, or on two of one form, are compared equation by equation.

## Main definitions

* `Schema.Form` — the forms of a schema.

## Main results

* `Schema.form` — every schema has one of the forms.
* `Schema.resolveWithin_noNode`, `Schema.resolveWithin_itself`, `Schema.resolveWithin_composed`,
  `Schema.resolveWithin_reference`, `Schema.resolveWithin_unreadable` — the equation of each form.
-/

namespace ApiTools

namespace Schema

variable {document schema : Value} {mode : Mode} {room : Nat} {visited : List String}

/-! ### The forms of a schema -/

/-- What a schema is to resolution. -/
inductive Form (schema : Value) : Prop where
  /-- No node. -/
  | noNode (hbare : ∀ node, schema.bare ≠ .map node)
  /-- A node that neither names nor composes others. -/
  | itself (node : Entries) (hbare : schema.bare = .map node) (href : refOf node = .null)
      (hallOf : node.get? "allOf" = none)
  /-- A composition. -/
  | composed (node : Entries) (hbare : schema.bare = .map node) (href : refOf node = .null)
      (branches : Value) (hallOf : node.get? "allOf" = some branches)
  /-- A reference. -/
  | reference (node : Entries) (hbare : schema.bare = .map node) (name : String)
      (href : refOf node = .text name)
  /-- A reference that is no text. -/
  | unreadable (node : Entries) (hbare : schema.bare = .map node) (hnull : refOf node ≠ .null)
      (htext : ∀ name, refOf node ≠ .text name)

/-- Every schema has one of the forms. -/
theorem form (schema : Value) : Form schema := by
  by_cases hnode : ∃ node, schema.bare = .map node
  · obtain ⟨node, hbare⟩ := hnode
    by_cases hnull : refOf node = .null
    · cases hallOf : Entries.get? node "allOf" with
      | none => exact .itself node hbare hnull hallOf
      | some branches => exact .composed node hbare hnull branches hallOf
    · by_cases htext : ∃ name, refOf node = .text name
      · obtain ⟨name, href⟩ := htext
        exact .reference node hbare name href
      · exact .unreadable node hbare hnull fun name href => htext ⟨name, href⟩
  · exact .noNode fun node hbare => hnode ⟨node, hbare⟩

/-- A node that does not count as given is empty. -/
theorem eq_nil_of_falsy {node : Entries} (h : schema.isTruthy = false)
    (hbare : schema.bare = .map node) : node = [] := by
  have hnil := Value.bare_orElse_map hbare
  rw [Value.orElse, if_neg (by simp [h])] at hnil
  cases hnil
  rfl

section

variable {node : Entries} {branches : Value} {name : String}

theorem resolveWithin_noNode (hbare : ∀ node, schema.bare ≠ .map node) :
    resolveWithin document (room + 1) schema visited = .ok ⟨[], visited⟩ :=
  resolveWithin_of_step (.noNode hbare rfl)

theorem resolveWithin_itself (hbare : schema.bare = .map node) (href : refOf node = .null)
    (hallOf : node.get? "allOf" = none) :
    resolveWithin document (room + 1) schema visited = .ok ⟨node, visited⟩ :=
  resolveWithin_of_step (.itself node hbare href hallOf rfl)

/-- A schema that does not count as given is resolved to nothing. -/
theorem resolveWithin_of_falsy (h : schema.isTruthy = false) (room : Nat) (visited : List String) :
    resolveWithin document (room + 1) schema visited = .ok ⟨[], visited⟩ := by
  by_cases hnode : ∃ node, schema.bare = .map node
  · obtain ⟨node, hbare⟩ := hnode
    obtain rfl := eq_nil_of_falsy h hbare
    exact resolveWithin_itself hbare rfl rfl
  · exact resolveWithin_noNode fun node hbare => hnode ⟨node, hbare⟩

/-- Such a schema is compiled. -/
theorem compileWithin_of_falsy (h : schema.isTruthy = false) (mode : Mode) (room : Nat)
    (visited : List String) : compileWithin document mode room schema visited = .ok (.any .null) := by
  cases room with
  | zero => rfl
  | succ room =>
    rw [compileWithin, resolveWithin_of_falsy h]
    rfl

/-- A schema that cannot be resolved cannot be compiled. -/
theorem compileWithin_of_error {e : Fault}
    (h : resolveWithin document (room + 1) schema visited = .error e) :
    compileWithin document mode (room + 1) schema visited = .error e := by
  rw [compileWithin, h]
  rfl

theorem resolveWithin_composed (hbare : schema.bare = .map node) (href : refOf node = .null)
    (hallOf : node.get? "allOf" = some branches) :
    resolveWithin document (room + 1) schema visited = (do
      let items ← (branches.orElse (.list [])).elements
      let merge ← mergeAll (fun branch => resolveWithin document room branch visited) visited items
      return ⟨merge.node, merge.visited⟩) := by
  unfold refOf at href
  rw [resolveWithin]
  simp only [hbare, href, hallOf]

theorem resolveWithin_reference (hbare : schema.bare = .map node) (href : refOf node = .text name) :
    resolveWithin document (room + 1) schema visited =
      if name ∈ visited then .ok ⟨[], visited⟩
      else Pointer.resolveValue document (.text name) >>= fun target =>
        resolveWithin document room target (visit visited name) := by
  split
  · next hvisited => exact resolveWithin_of_step (.cut node hbare name href hvisited rfl)
  · next hvisited =>
    have hseen : isVisited visited (.text name) = .ok false :=
      congrArg Except.ok (by simpa using hvisited)
    unfold refOf at href
    rw [resolveWithin]
    simp only [hbare, href, hseen]
    rfl

/-- Whether a reference that is no text was followed does not depend on the references followed. -/
theorem isVisited_of_no_text {ref : Value} (htext : ∀ name, ref ≠ .text name)
    (visited : List String) : isVisited visited ref = isVisited [] ref := by
  cases ref with
  | scalar s =>
    cases s with
    | text name => exact absurd rfl (htext name)
    | null | bool | int | double | stamp | bytes => rfl
  | list | map | knot => rfl
  | group form items =>
    cases form with
    | set => rfl
    | pair =>
      unfold isVisited
      dsimp only
      unfold Value.members
      -- A pair has no scalar among its members.
      split <;> rfl

/-- A reference that is no text fails in one way everywhere. -/
theorem resolveWithin_unreadable {ref : Value} (hnull : ref ≠ .null)
    (htext : ∀ name, ref ≠ .text name) :
    ∃ e, ∀ document schema node, schema.bare = .map node → refOf node = ref →
      ∀ room visited, resolveWithin document (room + 1) schema visited = .error e := by
  have hfails : ∃ e, ref.textOrFail = .error e := by
    unfold Value.textOrFail
    split
    · next name => exact absurd rfl (htext name)
    · exact ⟨_, rfl⟩
    · exact ⟨_, rfl⟩
  obtain ⟨e, he⟩ := hfails
  have hstep : ∀ document schema node, schema.bare = .map node → refOf node = ref →
      ∀ room visited, resolveWithin document (room + 1) schema visited = (do
        if ← isVisited [] ref then return ⟨[], visited⟩
        throw e) := by
    rintro document schema node hbare rfl room visited
    have htarget : Pointer.resolveValue document (refOf node) = .error e := by
      unfold Pointer.resolveValue
      rw [he]
      rfl
    rw [resolveWithin]
    simp only [hbare]
    split
    · next hnull' => exact absurd hnull' hnull
    · rw [show (Entries.get? node "$ref").getD .null = refOf node from rfl, htarget,
        isVisited_of_no_text htext]
      rfl
  cases hseen : isVisited [] ref with
  | error f =>
    refine ⟨f, fun document schema node hbare href room visited => ?_⟩
    rw [hstep document schema node hbare href, hseen]
    rfl
  | ok seen =>
    cases seen with
    | true =>
      obtain ⟨name, -, rfl⟩ := isVisited_eq_true_iff.mp hseen
      exact absurd rfl (htext name)
    | false =>
      refine ⟨e, fun document schema node hbare href room visited => ?_⟩
      rw [hstep document schema node hbare href, hseen]
      rfl

end

end Schema

end ApiTools
