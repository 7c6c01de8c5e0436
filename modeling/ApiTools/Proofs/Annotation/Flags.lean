import ApiTools.Proofs.Annotation.Matching

/-!
# The flags of an identifier

Flags are raised one after the other, by the rules that match in their order, but a flag that is
raised stays raised.  So the flags of an identifier are a set: the union of what the rules that
match raise.  A union does not depend on the order, and it grows with every rule and with every
character that lets more rules match.

## Main definitions

* `Annotations.flags`, `Annotations.Raises` — the flags by name, and those that are raised.
* `AnnotationRule.IsKnown` — a rule that raises no flag that does not exist.

## Main results

* `Annotations.raises_raise?` — one step raises one flag and lowers none.
* `Annotations.exists_derive_of_isKnown` — **the flags of an identifier are the union.**
* `Annotations.derive_table_of_isSmall` — an identifier in small letters is unmarked if no token
  stands in it.
* `Annotations.derive_union` — **they do not depend on the order or the repetition of rules, and
  neither more rules nor a longer identifier lowers one.**
-/

namespace ApiTools

namespace Annotations

variable {a b : Annotations} {flag other : String}

/-! ### Flags by name -/

/-- The flags by name. -/
def flags (a : Annotations) : List (String × Bool) :=
  [("read_only", a.readOnly), ("destructive", a.destructive), ("idempotent", a.idempotent),
   ("open_world", a.openWorld)]

/-- The names of the flags. -/
def flagNames : List String := ["read_only", "destructive", "idempotent", "open_world"]

/-- The flag of a name is raised. -/
def Raises (a : Annotations) (flag : String) : Prop := (flag, true) ∈ a.flags

instance : Decidable (a.Raises flag) := inferInstanceAs (Decidable (_ ∈ _))

theorem raises_iff : a.Raises flag ↔
    (flag = "read_only" ∧ a.readOnly = true) ∨ (flag = "destructive" ∧ a.destructive = true) ∨
      (flag = "idempotent" ∧ a.idempotent = true) ∨ (flag = "open_world" ∧ a.openWorld = true) := by
  simp [Raises, flags]

/-- The flags are determined by the names of those that are raised. -/
theorem eq_of_raises (h : ∀ flag, a.Raises flag ↔ b.Raises flag) : a = b := by
  have hreadOnly : a.readOnly = b.readOnly := by
    simpa [raises_iff] using h "read_only"
  have hdestructive : a.destructive = b.destructive := by
    simpa [raises_iff] using h "destructive"
  have hidempotent : a.idempotent = b.idempotent := by
    simpa [raises_iff] using h "idempotent"
  have hopenWorld : a.openWorld = b.openWorld := by
    simpa [raises_iff] using h "open_world"
  obtain ⟨_, _, _, _⟩ := a
  obtain ⟨_, _, _, _⟩ := b
  exact mk.injEq .. ▸ ⟨hreadOnly, hdestructive, hidempotent, hopenWorld⟩

theorem raises_unmarked : unmarked.Raises flag ↔ flag = "open_world" := by
  simp [raises_iff, unmarked]

/-! ### Raising flags -/

/-- A flag with one of the four names is raised. -/
theorem exists_raise? (h : flag ∈ flagNames) (a : Annotations) : ∃ b, a.raise? flag = some b := by
  simp only [flagNames, List.mem_cons, List.not_mem_nil, or_false] at h
  rcases h with rfl | rfl | rfl | rfl <;> exact ⟨_, rfl⟩

/-- There is no flag of another name. -/
theorem mem_flagNames_of_raise? (h : a.raise? flag = some b) : flag ∈ flagNames := by
  unfold raise? at h
  grind [flagNames]

/-- One step raises one flag and lowers none. -/
theorem raises_raise? (h : a.raise? flag = some b) :
    b.Raises other ↔ a.Raises other ∨ other = flag := by
  have hflag := mem_flagNames_of_raise? h
  simp only [flagNames, List.mem_cons, List.not_mem_nil, or_false] at hflag
  rcases hflag with rfl | rfl | rfl | rfl
  all_goals
    cases h
    simp only [raises_iff]
    grind

/-- A run raises the flags that it is given and lowers none. -/
theorem exists_foldlM_raise? {names : List String} (h : ∀ flag ∈ names, flag ∈ flagNames)
    (a : Annotations) : ∃ b, names.foldlM raise? a = some b ∧
      ∀ flag, b.Raises flag ↔ a.Raises flag ∨ flag ∈ names := by
  induction names generalizing a with
  | nil => exact ⟨a, rfl, fun flag => (or_iff_left List.not_mem_nil).symm⟩
  | cons name names ih =>
    obtain ⟨hname, hnames⟩ := List.forall_mem_cons.mp h
    obtain ⟨b, hb⟩ := exists_raise? hname a
    obtain ⟨c, hc, hraises⟩ := ih hnames b
    refine ⟨c, ?_, fun flag => ?_⟩
    · rw [List.foldlM_cons, hb]
      exact hc
    · rw [hraises, raises_raise? hb, List.mem_cons, or_assoc]

end Annotations

/-! ### The union -/

/-- A rule raises no flag that does not exist. -/
def AnnotationRule.IsKnown (rule : AnnotationRule) : Prop :=
  ∀ effect ∈ rule.effects, effect ∈ Annotations.flagNames

instance (rule : AnnotationRule) : Decidable rule.IsKnown :=
  inferInstanceAs (Decidable (∀ _ ∈ _, _))

theorem AnnotationRule.isKnown_of_mem_table : ∀ rule ∈ AnnotationRule.table, rule.IsKnown := by
  decide

namespace Annotations

/-- **The flags of an identifier are the union** of what the rules raise of which a token occurs
there, and the one that is always raised. -/
theorem exists_derive_of_isKnown {rules : List AnnotationRule} (h : ∀ rule ∈ rules, rule.IsKnown)
    (identifier : String) : ∃ a, derive rules identifier = .ok a ∧
      ∀ flag, a.Raises flag ↔ flag = "open_world" ∨
        ∃ rule ∈ rules, rule.Matches identifier ∧ flag ∈ rule.effects := by
  have hmem : ∀ flag, flag ∈ (matching rules identifier).flatMap (·.effects) ↔
      ∃ rule ∈ rules, rule.Matches identifier ∧ flag ∈ rule.effects := by
    intro flag
    rw [List.mem_flatMap]
    refine exists_congr fun rule => ?_
    rw [matching, List.mem_filter, AnnotationRule.isMatch_iff, and_assoc]
  have hnames : ∀ flag ∈ (matching rules identifier).flatMap (·.effects), flag ∈ flagNames := by
    intro flag hflag
    obtain ⟨rule, hrule, -, heffect⟩ := (hmem flag).mp hflag
    exact h rule hrule flag heffect
  obtain ⟨a, ha, hraises⟩ := exists_foldlM_raise? hnames unmarked
  refine ⟨a, ?_, fun flag => ?_⟩
  · unfold derive
    rw [ha]
  · rw [hraises, raises_unmarked, hmem]

/-- Nothing is known of an identifier that no rule matches. -/
theorem derive_of_not_matches {rules : List AnnotationRule} {identifier : String}
    (h : ∀ rule ∈ rules, ¬rule.Matches identifier) : derive rules identifier = .ok unmarked := by
  have hnone : matching rules identifier = [] :=
    List.filter_eq_nil_iff.mpr fun rule hrule hmatch =>
      h rule hrule (AnnotationRule.isMatch_iff.mp hmatch)
  unfold derive
  rw [hnone]
  rfl

/-- **An identifier in small letters is unmarked if no token of the table stands in it.** -/
theorem derive_table_of_isSmall {identifier : String}
    (hsmall : identifier.toList.all Text.isSmall = true)
    (hnone : ∀ rule ∈ AnnotationRule.table, ∀ token ∈ rule.tokens,
      ¬token.toList <:+: identifier.toList) :
    derive AnnotationRule.table identifier = .ok unmarked := by
  have htable : ∀ rule ∈ AnnotationRule.table, rule.tokens ≠ [] ∧
      ∀ token ∈ rule.tokens, token.toList.all Text.isSmall = true := by decide +kernel
  refine derive_of_not_matches fun rule hrule hmatches => ?_
  obtain ⟨hne, htokens⟩ := htable rule hrule
  rcases hmatches with hnil | ⟨token, htoken, hoccurs⟩
  · exact hne hnil
  · exact hnone rule hrule token htoken
      ((Text.occurs_iff_of_isSmall (htokens token htoken) hsmall).mp hoccurs)

/-- **The flags are the union of the effects that match.**  For rules that raise no flag that does
not exist, they are the one that is always raised, and those of every rule that has no tokens, or of
which a token occurs in the identifier, letter by letter.  They do not depend on the order or the
repetition of the rules, and no flag is lowered by more rules or by a longer identifier. -/
theorem derive_union {rules : List AnnotationRule} (h : ∀ rule ∈ rules, rule.IsKnown)
    (identifier : String) : ∃ a, derive rules identifier = .ok a ∧
      (∀ flag, a.Raises flag ↔ flag = "open_world" ∨
        ∃ rule ∈ rules, rule.Matches identifier ∧ flag ∈ rule.effects) ∧
      (∀ others : List AnnotationRule, (∀ rule, rule ∈ others ↔ rule ∈ rules) →
        derive others identifier = .ok a) ∧
      ∀ (more : List AnnotationRule) (before after : String), rules ⊆ more →
        (∀ rule ∈ more, rule.IsKnown) →
          ∃ b, derive more (before ++ identifier ++ after) = .ok b ∧
            ∀ flag, a.Raises flag → b.Raises flag := by
  obtain ⟨a, ha, hraises⟩ := exists_derive_of_isKnown h identifier
  refine ⟨a, ha, hraises, ?_, ?_⟩
  · intro others hsame
    obtain ⟨b, hb, hothers⟩ :=
      exists_derive_of_isKnown (fun rule hrule => h rule ((hsame rule).mp hrule)) identifier
    have heq : b = a := eq_of_raises fun flag => by simp only [hothers, hraises, hsame]
    rw [hb, heq]
  · intro more before after hsubset hmore
    obtain ⟨b, hb, hlonger⟩ := exists_derive_of_isKnown hmore (before ++ identifier ++ after)
    refine ⟨b, hb, fun flag hflag => (hlonger flag).mpr (((hraises flag).mp hflag).imp_right ?_)⟩
    rintro ⟨rule, hrule, hmatches, heffect⟩
    exact ⟨rule, hsubset hrule, hmatches.around before after, heffect⟩

/-- Rules with a token that has a dot in it, with tokens in capitals, and without tokens. -/
def sampleRules : List AnnotationRule :=
  [{ name := "bulk", tokens := ["v2.drop", "wipe|all"], effects := ["destructive"] },
   { name := "read", tokens := ["LIST", "Peek"], effects := ["read_only", "idempotent"] },
   { name := "all", tokens := [], effects := ["open_world"] }]

/-- The dot and the bar are characters like others, and capitals make no difference. -/
theorem derive_union_sampleRules :
    (∀ rule ∈ sampleRules, rule.IsKnown) ∧
      (∃ a, derive sampleRules "users.List.v2xdrop.wipe" = .ok a ∧ a.Raises "read_only" ∧
        ¬a.Raises "destructive") ∧
      ∃ a, derive sampleRules "users.List.v2.drop" = .ok a ∧ a.Raises "destructive" := by
  have hknown : ∀ rule ∈ sampleRules, rule.IsKnown := by decide
  obtain ⟨a, ha, hraises, -⟩ := derive_union hknown "users.List.v2xdrop.wipe"
  obtain ⟨b, hb, hdotted, -⟩ := derive_union hknown "users.List.v2.drop"
  refine ⟨hknown, ⟨a, ha, ?_, ?_⟩, b, hb, ?_⟩
  · exact (hraises "read_only").mpr (by decide +kernel)
  · exact fun h => absurd ((hraises "destructive").mp h) (by decide +kernel)
  · exact (hdotted "destructive").mpr (by decide +kernel)

end Annotations

end ApiTools
