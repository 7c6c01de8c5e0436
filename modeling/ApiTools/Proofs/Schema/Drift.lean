import ApiTools.Proofs.Schema.Built

/-!
# Answers that drift from their description

A service changes faster than its description.  An answer that is accepted stays accepted when
texts and numbers in it change, when keys come up that no rule declares, and when optional
properties go away or become null, anywhere in it.  What the rules for a map are is read off the
validator, so that an edit is a relation of two values under a validator, and the validators of the
parts take its place further down.

## Main definitions

* `Entries.SameBut` — two maps have the same at every other key.
* `Validator.Drift` — one edit that is tolerated.

## Main results

* `Validator.Built.isValid_of_drift` — one edit.
* `Schema.accepts_of_drift` — **a validator of answers accepts what comes of an accepted answer by
  any number of edits.**
-/

namespace ApiTools

/-! ### Edits of maps -/

namespace Entries

/-- Two maps have the same at every key but one. -/
def SameBut (key : Scalar) (es fs : Entries) : Prop :=
  ∀ k, key.alike k = false → fs.find? k = es.find? k

/-- The entries without those at a key. -/
def without (es : Entries) (key : Scalar) : Entries := es.filter fun e => !e.1.alike key

theorem sameBut_insert (es : Entries) (key : Scalar) (v : Value) :
    SameBut key es (es.insert key v) := fun k hk => by
  rw [find?_insert, if_neg (by simp [hk])]

theorem find?_without (es : Entries) (k l : Scalar) :
    (es.without k).find? l = if k.alike l then none else es.find? l := by
  unfold without find?
  rw [List.find?_filter]
  split
  · next hkl =>
    rw [List.find?_eq_none.mpr (by simp [Scalar.alike_congr hkl]), Option.map_none]
  · next hkl =>
    congr 1
    congr 1
    funext e
    cases hl : e.1.alike l with
    | false => simp
    | true =>
      have hk : ¬e.1.alike k = true := fun hk =>
        hkl (Scalar.alike_trans (Scalar.alike_symm hk) hl)
      simp [hk]

theorem get?_without (es : Entries) (name other : String) :
    (es.without (.text name)).get? other = if other = name then none else es.get? other := by
  unfold get?
  rw [find?_without, Scalar.alike_text]
  by_cases hother : other = name
  · rw [if_pos hother, hother, if_pos (beq_self_eq_true _)]
  · rw [if_neg hother, if_neg (by simpa using Ne.symm hother)]

theorem sameBut_without (es : Entries) (key : Scalar) : SameBut key es (es.without key) :=
  fun k hk => by rw [find?_without, if_neg (by simp [hk])]

end Entries

/-! ### Edits under a validator -/

namespace Validator

/-- One edit of a value that is checked by a validator. -/
inductive Drift : Validator → Value → Value → Prop where
  /-- A text becomes another one. -/
  | text {v : Validator} {s t : String} : Drift v (.text s) (.text t)
  /-- A number becomes another one. -/
  | number {v : Validator} {x y : Value} (hx : TypeName.number.admits x = true)
    (hy : TypeName.number.admits y = true) : Drift v x y
  /-- A key that no rule declares comes up, changes its value or goes away. -/
  | undeclared {v : Validator} {es fs : Entries} {key : Scalar}
    (hkey : ∀ rule ∈ v.rulesAt, rule.declares key = false) (hsame : es.SameBut key fs) :
    Drift v (.map es) (.map fs)
  /-- A declared property that need not be there goes away, or its value becomes null. -/
  | optional {v : Validator} {es fs : Entries} {key : Scalar} {rule : Rule}
    (hrule : rule ∈ v.rulesAt) (hkey : rule.declares key = true) (hreq : rule.isRequired = false)
    (hsame : es.SameBut key fs) (hgone : fs.find? key = none ∨ fs.find? key = some .null) :
    Drift v (.map es) (.map fs)
  /-- The value at a key is edited. -/
  | entry {v : Validator} {es fs : Entries} {key : Scalar} {y z : Value}
    (hsame : es.SameBut key fs) (hy : es.find? key = some y) (hz : fs.find? key = some z)
    (h : Drift (v.entryAt key) y z) : Drift v (.map es) (.map fs)
  /-- An item of a list is edited. -/
  | item {v : Validator} {items : List Value} {i : Nat} {y z : Value} (hy : items[i]? = some y)
    (h : Drift v.itemsAt y z) : Drift v (.list items) (.list (items.set i z))

variable {v : Validator} {x y : Value}

/-- Null is not edited. -/
theorem Drift.ne_null (h : v.Drift x y) : x ≠ .null ∧ y ≠ .null := by
  cases h with
  | text | undeclared | optional | entry | item => exact ⟨nofun, nofun⟩
  | number hx hy =>
    constructor
    · rintro rfl
      cases hx
    · rintro rfl
      cases hy

namespace Built

variable {K : Scalar → Prop} {P : Value → Prop} {mode : Mode}

theorem entryAt (h : v.Built K P mode) (key : Scalar) : (v.entryAt key).Built K P mode := by
  have hcore := h.core
  have hany : (Validator.any .null).Built K P mode := .any (Or.inl rfl)
  unfold Validator.entryAt
  split
  · next d rules extras heq =>
    rw [heq] at hcore
    cases hcore with
    | object _ _ _ hrules _ hextras =>
      split
      · next rule hrule => exact hrules rule (List.mem_of_find?_eq_some hrule)
      · split
        · exact hextras _ rfl
        · exact hany
        · exact hany
  · exact hany

theorem itemsAt (h : v.Built K P mode) : v.itemsAt.Built K P mode := by
  have hcore := h.core
  unfold Validator.itemsAt
  split
  · next d items heq =>
    rw [heq] at hcore
    cases hcore with
    | array _ hitems => exact hitems
  · exact .any (Or.inl rfl)

end Built

/-! ### Validators of answers -/

/-- The core of a validator of answers: no list of values and no policy refuses anything. -/
inductive AnswerCore (K : Scalar → Prop) : Validator → Prop where
  /-- Everything is accepted. -/
  | any {d : Value} : AnswerCore K (.any d)
  /-- Texts are. -/
  | string {d : Value} : AnswerCore K (.string d none)
  /-- Numbers are. -/
  | number {d : Value} : AnswerCore K (.number d)
  /-- Truth values are. -/
  | boolean {d : Value} : AnswerCore K (.boolean d)
  /-- Lists are, if their items are. -/
  | array {d : Value} {items : Validator} : AnswerCore K (.array d items)
  /-- Maps are, by their rules. -/
  | object {d : Value} {rules : List Rule} (hdistinct : Rule.Distinct rules)
    (hmade : ∀ rule ∈ rules, rule.Made K .output) : AnswerCore K (.object d rules (.allow none))

variable {K : Scalar → Prop} {P : Value → Prop}

theorem Built.answerCore (h : v.Built K P .output) : AnswerCore K v.core := by
  have hcore := h.core
  have hne := core_ne_nullable v
  generalize v.core = c at *
  cases hcore with
  | any => exact .any
  | string => exact .string
  | chosen _ hmode | literal _ hmode => cases hmode
  | number => exact .number
  | boolean => exact .boolean
  | array => exact .array
  | nullable => exact absurd rfl (hne _ _)
  | object _ hdistinct hmade _ hpolicy =>
    cases hpolicy with
    | allow => exact .object hdistinct hmade
    | reject hmode | typed hmode => cases hmode

/-- The validator of an entry is that of the rule for its key. -/
theorem entryAt_of_declares {d : Value} {rules : List Rule} {extras : Extras}
    (hcore : v.core = .object d rules extras) (hdistinct : Rule.Distinct rules) {rule : Rule}
    (hrule : rule ∈ rules) {key : Scalar} (hkey : rule.declares key = true) :
    v.entryAt key = rule.validator := by
  unfold entryAt
  rw [hcore]
  dsimp only
  split
  · next rule' hfound =>
    have hkey' : rule'.declares key = true := by simpa using List.find?_some hfound
    rw [Rule.eq_of_declares hdistinct (List.mem_of_find?_eq_some hfound) hrule hkey' hkey]
  · next hnone => exact absurd hkey (List.find?_eq_none.mp hnone rule hrule)

/-! ### One edit -/

/-- A map that keeps the rules as well as an accepted answer does is accepted, too. -/
theorem Built.isValid_map (h : v.Built K P .output) {es fs : Entries}
    (hes : v.isValid (.map es) = true)
    (hrules : ∀ d rules extras, v.core = .object d rules extras → Rule.Distinct rules →
      ∀ rule ∈ rules, rule.Made K .output → rule.Accepts es → rule.Accepts fs) :
    v.isValid (.map fs) = true := by
  rw [← isValid_core v (by simp)] at hes ⊢
  have hcore := h.answerCore
  generalize v.core = c at *
  cases hcore with
  | any => exact isValid_any
  | string => cases isValid_string.mp hes
  | number => cases isValid_number.mp hes
  | boolean => cases isValid_boolean.mp hes
  | array =>
    obtain ⟨items, hitems, -⟩ := isValid_array.mp hes
    cases hitems
  | @object d rules hdistinct hmade =>
    obtain ⟨es, heq, haccepts, -⟩ := (isValid_object hdistinct).mp hes
    cases heq
    refine (isValid_object hdistinct).mpr ⟨fs, rfl, fun rule hrule => ?_, trivial⟩
    exact hrules d rules _ rfl hdistinct rule hrule (hmade rule hrule) (haccepts rule hrule)

theorem AnswerCore.isValid_text {c : Validator} (h : AnswerCore K c) {s : String}
    (hs : c.isValid (.text s) = true) (t : String) : c.isValid (.text t) = true := by
  cases h with
  | any => exact isValid_any
  | string => exact isValid_string.mpr rfl
  | number => cases isValid_number.mp hs
  | boolean => cases isValid_boolean.mp hs
  | array =>
    obtain ⟨items, hitems, -⟩ := isValid_array.mp hs
    cases hitems
  | object =>
    obtain ⟨es, hes⟩ := exists_map_of_isValid_object hs
    cases hes

theorem AnswerCore.isValid_number {c : Validator} (h : AnswerCore K c)
    (hx : TypeName.number.admits x = true) (hy : TypeName.number.admits y = true)
    (hvalid : c.isValid x = true) : c.isValid y = true := by
  cases h with
  | any => exact isValid_any
  | number => exact Validator.isValid_number.mpr hy
  | string =>
    obtain ⟨s, rfl⟩ := admits_string_iff.mp (isValid_string.mp hvalid)
    cases hx
  | boolean =>
    obtain ⟨b, rfl⟩ := admits_boolean_iff.mp (isValid_boolean.mp hvalid)
    cases hx
  | array =>
    obtain ⟨items, rfl, -⟩ := isValid_array.mp hvalid
    cases hx
  | object =>
    obtain ⟨es, rfl⟩ := exists_map_of_isValid_object hvalid
    cases hx

theorem AnswerCore.isValid_list {c : Validator} (h : AnswerCore K c) {items : List Value} {i : Nat}
    {z : Value} (hitems : c.isValid (.list items) = true)
    (hz : ∀ d inner, c = .array d inner → inner.isValid z = true) :
    c.isValid (.list (items.set i z)) = true := by
  cases h with
  | any => exact isValid_any
  | string => cases isValid_string.mp hitems
  | number => cases Validator.isValid_number.mp hitems
  | boolean => cases isValid_boolean.mp hitems
  | @array d inner =>
    obtain ⟨ys, heq, hys⟩ := isValid_array.mp hitems
    cases heq
    refine isValid_array.mpr ⟨_, rfl, fun y hy => ?_⟩
    rcases List.mem_or_eq_of_mem_set hy with hy | rfl
    · exact hys y hy
    · exact hz d inner rfl
  | object =>
    obtain ⟨es, hes⟩ := exists_map_of_isValid_object hitems
    cases hes

end Validator

namespace Rule

variable {rule : Rule} {es fs : Entries} {key : Scalar} {K : Scalar → Prop}

/-- A rule for other keys does not see an edit. -/
theorem accepts_of_sameBut (hsame : es.SameBut key fs) (hkey : rule.declares key = false)
    (h : rule.Accepts es) : rule.Accepts fs := by
  refine (accepts_congr fun k hk => hsame k ?_).mpr h
  rw [← Bool.not_eq_true]
  intro halike
  rw [declares_iff.mpr ⟨k, hk, Scalar.alike_symm halike⟩] at hkey
  cases hkey

/-- An optional property of an answer may go away or become null. -/
theorem accepts_of_gone (hmade : rule.Made K .output) (hreq : rule.isRequired = false)
    (hkey : rule.declares key = true)
    (hgone : fs.find? key = none ∨ fs.find? key = some .null) : rule.Accepts fs := by
  refine ⟨fun hreq' => absurd hreq' (by simp [hreq]), fun k hk y hy => ?_⟩
  obtain ⟨k', hk', halike⟩ := declares_iff.mp hkey
  obtain rfl : k' = k := Option.some.inj (hk'.symm.trans hk)
  rw [Entries.find?_congr halike] at hy
  rcases hgone with hnone | hnull
  · cases hnone.symm.trans hy
  · obtain rfl := Option.some.inj (hnull.symm.trans hy)
    obtain ⟨name, required, -, heq⟩ := hmade
    rw [heq] at hreq ⊢
    cases required with
    | false => exact Or.inr ⟨rfl, rfl⟩
    | true => cases hreq

/-- A property whose value stays acceptable stays so. -/
theorem accepts_of_entry (hkey : rule.declares key = true) {y z : Value}
    (hy : es.find? key = some y) (hz : fs.find? key = some z) (hne : y ≠ .null)
    (hvalid : rule.validator.isValid y = true → rule.validator.isValid z = true)
    (h : rule.Accepts es) : rule.Accepts fs := by
  obtain ⟨k, hk, halike⟩ := declares_iff.mp hkey
  rw [← Entries.find?_congr halike] at hy hz
  refine ⟨fun _ => (Option.any_eq_true _ _).mpr ⟨k, hk, ?_⟩, fun k' hk' y' hy' => ?_⟩
  · rw [Entries.hasKey_eq_isSome_find?, hz]
    rfl
  · obtain rfl : k = k' := Option.some.inj (hk.symm.trans hk')
    obtain rfl := Option.some.inj (hz.symm.trans hy')
    exact Or.inl (hvalid ((h.2 k hk y hy).resolve_right fun hnull => hne hnull.2))

end Rule

/-- **A validator of answers accepts what comes of an accepted answer by one edit.** -/
theorem Validator.Built.isValid_of_drift {K : Scalar → Prop} {P : Value → Prop} {v : Validator}
    {x y : Value} (hv : v.Built K P .output) (h : v.Drift x y) (hx : v.isValid x = true) :
    v.isValid y = true := by
  induction h with
  | text =>
    rw [← isValid_core _ (by simp)] at hx ⊢
    exact hv.answerCore.isValid_text hx _
  | @number v x y hnumber hnumber' =>
    have hne := (Drift.number (v := v) hnumber hnumber').ne_null
    rw [← isValid_core _ hne.1] at hx
    rw [← isValid_core _ hne.2]
    exact hv.answerCore.isValid_number hnumber hnumber' hx
  -- No rule looks at the key, and the policy of answers refuses none.
  | undeclared hkey hsame =>
    refine hv.isValid_map hx fun d rules extras hcore _ rule hrule _ => ?_
    exact Rule.accepts_of_sameBut hsame (hkey rule (by rw [rulesAt, hcore]; exact hrule))
  | @optional v es fs key rule hrule hkey hreq hsame hgone =>
    refine hv.isValid_map hx fun d rules extras hcore hdistinct rule' hrule' hmade haccepts => ?_
    rw [rulesAt, hcore] at hrule
    by_cases hkey' : rule'.declares key = true
    · obtain rfl := Rule.eq_of_declares hdistinct hrule hrule' hkey hkey'
      exact Rule.accepts_of_gone hmade hreq hkey hgone
    · exact Rule.accepts_of_sameBut hsame (by simpa using hkey') haccepts
  -- The rule for the key, if there is one, has the validator of the part; no other sees the edit.
  | @entry v es fs key y z hsame hy hz hdrift ih =>
    refine hv.isValid_map hx fun d rules extras hcore hdistinct rule hrule hmade haccepts => ?_
    by_cases hkey : rule.declares key = true
    · have hstep := ih (hv.entryAt key)
      rw [entryAt_of_declares hcore hdistinct hrule hkey] at hstep
      exact Rule.accepts_of_entry hkey hy hz hdrift.ne_null.1 hstep haccepts
    · exact Rule.accepts_of_sameBut hsame (by simpa using hkey) haccepts
  | @item v items i y z hy hdrift ih =>
    have hstep := ih hv.itemsAt
    rw [← isValid_core _ (by simp)] at hx ⊢
    refine hv.answerCore.isValid_list hx fun d inner hcore => ?_
    rw [Validator.itemsAt, hcore] at hstep
    rw [hcore] at hx
    obtain ⟨ys, heq, hys⟩ := isValid_array.mp hx
    cases heq
    exact hstep (hys y (List.mem_of_getElem? hy))

namespace Schema

variable {document schema x y : Value} {depth : Int} {visited : List String} {w : Validator}

/-- **A validator of answers accepts what comes of an accepted answer by any number of edits.** -/
theorem accepts_of_drift (hdocument : document.isPlain = true) (hschema : schema.isPlain = true)
    (h : compile document schema .output depth visited = .ok w) (hx : w.isValid x = true)
    (hdrift : Relation.ReflTransGen w.Drift x y) : w.isValid y = true := by
  have hP := inherits_of_hereditary Value.hereditary_isPlain
  -- How the validator is built does not depend on the value, and is the same for every edit.
  have hbuilt := built_compileWithin hP (fun _ _ _ _ => rfl) hdocument hschema h
  induction hdrift with
  | refl => exact hx
  | tail _ hstep ih => exact hbuilt.isValid_of_drift hstep ih

/-! ### An answer with an owner and tags -/

/-- A schema of answers with an identifier from a list, perhaps an owner, and tags. -/
def answerSchema : Value :=
  .record [("type", .text "object"), ("required", .list [.text "id"]),
    ("properties", .record [
      ("id", .record [("type", .text "string"), ("enum", .list [.text "a", .text "b"])]),
      ("owner", .record [("type", .text "object"), ("nullable", .bool true),
        ("properties", .record [("age", .record [("type", .text "integer")])])]),
      ("tags", .record [("type", .text "array"),
        ("items", .record [("type", .text "string")])])])]

/-- The rule for the age of an owner. -/
def ageRule : Rule := .mk (.text "age") (.number .null) (.bool false) (.bool true)

/-- The rule for tags. -/
def tagsRule : Rule :=
  .mk (.text "tags") (.array .null (.string .null none)) (.bool false) (.bool true)

/-- The validator of these answers. -/
def answerValidator : Validator :=
  .object .null
    [.mk (.text "id") (.string .null none) (.bool true) (.bool false),
      .mk (.text "owner") (.nullable .null (.object .null [ageRule] (.allow none))) (.bool false)
        (.bool true),
      tagsRule]
    (.allow none)

/-- An answer with the given identifier, entries of its owner, and tags. -/
def answer (id : String) (owner : Entries) (tags : Value) : Value :=
  .map [(.text "id", .text id), (.text "owner", .map owner), (.text "tags", tags)]

/-- The entries of an owner. -/
def owner : Entries := [(.text "age", .int 3)]

/-- The entries of an owner without an age, with a key that no rule declares. -/
def laterOwner : Entries := [(.text "more", .bool true)]

/-- The identifier changes, a tag does, the tags become null, the age of the owner goes away, and
the owner gets another key: the answer stays accepted. -/
theorem accepts_laterAnswer :
    (Value.map []).isPlain = true ∧ answerSchema.isPlain = true ∧
      compile (.map []) answerSchema .output 0 [] = .ok answerValidator ∧
      answerValidator.isValid (answer "a" owner (.list [.text "t"])) = true ∧
      Relation.ReflTransGen answerValidator.Drift (answer "a" owner (.list [.text "t"]))
        (answer "z" laterOwner .null) ∧
      answerValidator.isValid (answer "z" laterOwner .null) = true := by
  have hcompile : compile (.map []) answerSchema .output 0 [] = .ok answerValidator := rfl
  have hx : answerValidator.isValid (answer "a" owner (.list [.text "t"])) = true := by decide
  have hid : answerValidator.Drift (answer "a" owner (.list [.text "t"]))
      (answer "z" owner (.list [.text "t"])) :=
    .entry (Entries.sameBut_insert _ (.text "id") (.text "z")) rfl rfl .text
  have htag : answerValidator.Drift (answer "z" owner (.list [.text "t"]))
      (answer "z" owner (.list [.text "u"])) :=
    .entry (Entries.sameBut_insert _ (.text "tags") (.list [.text "u"])) rfl rfl
      (.item (i := 0) rfl .text)
  have htags : answerValidator.Drift (answer "z" owner (.list [.text "u"]))
      (answer "z" owner .null) := by
    have hrule : tagsRule ∈ answerValidator.rulesAt := List.mem_of_getElem? (i := 2) rfl
    exact .optional hrule rfl rfl (Entries.sameBut_insert _ (.text "tags") .null) (Or.inr rfl)
  have hage : answerValidator.Drift (answer "z" owner .null) (answer "z" [] .null) :=
    .entry (Entries.sameBut_insert _ (.text "owner") (.map [])) rfl rfl
      (.optional (List.mem_singleton_self ageRule) rfl rfl
        (Entries.sameBut_without owner (.text "age")) (Or.inl rfl))
  have hmore : answerValidator.Drift (answer "z" [] .null) (answer "z" laterOwner .null) :=
    .entry (Entries.sameBut_insert _ (.text "owner") (.map laterOwner)) rfl rfl
      (.undeclared (by decide) (Entries.sameBut_insert [] (.text "more") (.bool true)))
  have hdrift := ((((Relation.ReflTransGen.single hid).tail htag).tail htags).tail hage).tail hmore
  exact ⟨by decide, by decide, hcompile, hx, hdrift,
    accepts_of_drift (by decide) (by decide) hcompile hx hdrift⟩

end Schema

end ApiTools
