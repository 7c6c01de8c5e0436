import ApiTools.Proofs.Schema.Reading

/-!
# Strict and loose reading

A schema is read strictly for what a caller sends and loosely for what a service answers.  The two
readings part at lists of values, at optional properties and at undeclared keys, and each time the
loose one asks for less.  So, at every depth, what satisfies a schema strictly satisfies it loosely,
and a schema that can be compiled strictly can be compiled loosely.

## Main results

* `Schema.satisfies_output_of_input` — a strict reading is a loose one.
* `Schema.exists_compileWithin_output` — strict compilation succeeds only where loose one does.
* `Schema.output_accepts_of_input` — **an answer is never checked more strictly than a request.**
-/

namespace ApiTools

namespace Schema

variable {document schema x : Value} {room : Nat} {visited : List String} {node : Entries}

/-! ### What satisfies a schema -/

/-- **What satisfies a schema strictly satisfies it loosely.** -/
theorem satisfies_output_of_input (h : Satisfies document .input room schema visited x) :
    Satisfies document .output room schema visited x := by
  induction room generalizing schema visited x with
  | zero => trivial
  | succ room ih =>
    obtain ⟨r, hr, h⟩ := h
    refine ⟨r, hr, h.imp_right (Or.imp_right ?_)⟩
    exact kindSatisfies_mono (Or.inr rfl) fun c _ y _ => ih

/-! ### What can be compiled -/

/-- **Where strict compilation succeeds, loose compilation does.** -/
theorem exists_compileWithin_output {v : Validator}
    (h : compileWithin document .input room schema visited = .ok v) :
    ∃ w, compileWithin document .output room schema visited = .ok w := by
  induction room generalizing schema visited v with
  | zero => exact ⟨_, rfl⟩
  | succ room ih =>
    cases compileWithin_succ_iff.mp h with
    | cut r hr hnil _ => exact ⟨_, compileWithin_succ_iff.mpr (.cut r hr hnil rfl)⟩
    | built r hr hne bare described hbare hdescribed _ =>
      -- An answer needs no schema compiled that a request does not need, and the same text.
      obtain ⟨hrequired, hinner⟩ := exists_bareValidator_iff.mp ⟨bare, hbare⟩
      obtain ⟨looseBare, hloose⟩ := exists_bareValidator_iff.mpr ⟨hrequired, fun c hc => by
        obtain ⟨v, hv⟩ := hinner c hc.input
        exact ih hv⟩
      obtain ⟨text?, htext, -⟩ := described_eq_ok_iff.mp hdescribed
      exact ⟨_, compileWithin_succ_iff.mpr
        (.built r hr hne looseBare _ hloose (described_eq_ok_iff.mpr ⟨text?, htext, rfl⟩) rfl)⟩

/-- **An answer is never checked more strictly than a request**: if a schema can be compiled for
what a caller sends, then it can be compiled for what a service answers, and the second validator
accepts all that the first one does. -/
theorem output_accepts_of_input (hdocument : document.isPlain = true)
    (hschema : schema.isPlain = true) {depth : Int} {v : Validator}
    (h : compile document schema .input depth visited = .ok v) :
    ∃ w, compile document schema .output depth visited = .ok w ∧
      ∀ x, v.isValid x = true → w.isValid x = true := by
  obtain ⟨w, hw⟩ := exists_compileWithin_output h
  refine ⟨w, hw, fun x hx => ?_⟩
  rw [isValid_compileWithin_iff hdocument hschema hw]
  exact satisfies_output_of_input ((isValid_compileWithin_iff hdocument hschema h x).mp hx)

/-- The loose validator of the composition accepts what the strict one does. -/
theorem output_accepts_of_input_extendedSchema :
    baseDocument.isPlain = true ∧ extendedSchema.isPlain = true ∧
      compile baseDocument extendedSchema .input 0 [] = .ok extendedValidator ∧
      ∃ w, compile baseDocument extendedSchema .output 0 [] = .ok w ∧
        ∀ x, extendedValidator.isValid x = true → w.isValid x = true := by
  have hcompile : compile baseDocument extendedSchema .input 0 [] = .ok extendedValidator := rfl
  exact ⟨by decide, by decide, hcompile, output_accepts_of_input (by decide) (by decide) hcompile⟩

end Schema

end ApiTools
