import ApiTools.Proofs.Json.Writer
import ApiTools.Proofs.Schema.Origin
import ApiTools.Proofs.Schema.Redocumentation
import ApiTools.Proofs.Validator.Redescription

/-!
# What documentation decides on

The documentation of schemas goes into the descriptions of validators, and nowhere else.  Where it
can be written, a compilation does not fail because of it; and a schema that is documented only is
compiled to a validator that differs from that of the empty schema in its description.

So two documents that differ in what documents their schemas give the same validators but for the
descriptions, and these accept the same values.

## Main definitions

* `Validator.undescribed` — a validator without its descriptions.

## Main results

* `Schema.exists_documentation` — the documentation of a JSON document can be written.
* `Schema.map_undescribed_compileWithin` — a compilation up to descriptions does not look at
  documentation.
* `Schema.compileWithin_redocumented` — the two runs.
* `Schema.compile_redocumented` — **documentation never changes what is accepted.**
-/

namespace ApiTools

/-! ### Validators without descriptions -/

/-- A validator with null for each description. -/
def Validator.undescribed (v : Validator) : Validator := v.redescribe fun _ => .null

theorem Validator.isValid_undescribed (v : Validator) (x : Value) :
    v.undescribed.isValid x = v.isValid x := isValid_redescribe v x

theorem Validator.undescribed_withDescription (v : Validator) (d : Value) :
    (v.withDescription d).undescribed = v.undescribed := redescribe_withDescription rfl

namespace Schema

variable {document other schema schema' : Value} {mode : Mode} {room : Nat} {visited : List String}
variable {node : Entries} {compileChild : Value → Except Fault Validator}

/-- The rules lose the descriptions that the validators lose. -/
theorem rulesOf_undescribed (required : List Scalar) (properties : Entries) :
    rulesOf (fun c => (compileChild c).map Validator.undescribed) mode required properties =
      (rulesOf compileChild mode required properties).map
        (List.map (Rule.redescribe fun _ => .null)) := by
  unfold rulesOf
  induction properties with
  | nil => rfl
  | cons p properties ih =>
    rw [List.mapM_cons, List.mapM_cons, ih]
    dsimp only
    cases compileChild p.2 with
    | error e => rfl
    | ok v =>
      generalize (properties.mapM _ : Except Fault (List Rule)) = rules
      cases rules <;> rfl

/-- So does the policy. -/
theorem extrasOf_undescribed :
    extrasOf (fun c => (compileChild c).map Validator.undescribed) mode node =
      (extrasOf compileChild mode node).map (Extras.redescribe fun _ => .null) := by
  unfold extrasOf
  cases mode with
  | output => rfl
  | input =>
    dsimp only
    cases (extraSchema node).bare with
    | map es => cases compileChild (extraSchema node) <;> rfl
    | scalar s =>
      cases s with
      | bool b => cases b <;> rfl
      | null | int | double | text | stamp | bytes => rfl
    | list | group | knot => rfl

theorem objectValidator_undescribed :
    objectValidator (fun c => (compileChild c).map Validator.undescribed) mode node =
      (objectValidator compileChild mode node).map Validator.undescribed := by
  rw [objectValidator_eq_bind, objectValidator_eq_bind]
  cases requiredKeys node with
  | error e => rfl
  | ok required =>
    simp only [bind, Except.bind, rulesOf_undescribed, extrasOf_undescribed]
    cases rulesOf compileChild mode required (declaredProperties node) with
    | error e => rfl
    | ok rules =>
      cases extrasOf compileChild mode node with
      | error e => rfl
      | ok extras =>
        exact congrArg Except.ok
          (Validator.redescribe_object (f := fun _ => .null) .null rules extras).symm

theorem listOf_undescribed :
    listOf (fun c => (compileChild c).map Validator.undescribed) node =
      (listOf compileChild node).map Validator.undescribed := by
  unfold listOf
  split
  · dsimp only
    cases compileChild (itemSchema node) <;> rfl
  · rfl

theorem undescribed_stringValidator (values : List Value) :
    (stringValidator mode values).undescribed = stringValidator mode values := by
  unfold stringValidator
  split
  · rfl
  · split <;> rfl

/-- **The validator of a node loses the descriptions that those of the schemas in it lose.** -/
theorem bareValidator_undescribed :
    bareValidator (fun c => (compileChild c).map Validator.undescribed) mode node =
      (bareValidator compileChild mode node).map Validator.undescribed := by
  unfold bareValidator
  cases kind node with
  | object => exact objectValidator_undescribed
  | array => exact listOf_undescribed
  | string => exact congrArg Except.ok (undescribed_stringValidator _).symm
  | enumeration => cases mode <;> rfl
  | number | boolean | reference | composite | union | unresolved => rfl

/-! ### Documentation that can be written -/

/-- A part that may be absent is written when it can be. -/
theorem exists_mapM_option {f : Value → Except Fault String} {v? : Option Value}
    (h : ∀ v, v? = some v → ∃ text, f v = .ok text) : ∃ text?, v?.mapM f = .ok text? := by
  cases v? with
  | none => exact ⟨none, rfl⟩
  | some v =>
    obtain ⟨text, htext⟩ := h v rfl
    exact ⟨some text, by rw [Option.mapM_some, htext]; rfl⟩

/-- **The documentation of what comes from values that can be written can be written.** -/
theorem exists_documentation {K : Scalar → Prop} (h : Origin K Value.IsWritable node) :
    ∃ text?, documentation node = .ok text? := by
  cases h with
  | given h =>
    have hpart : ∀ {name v}, node.get? name = some v → v.IsWritable := fun hv =>
      Value.hereditary_isWritable.part h (Value.part_find? hv)
    obtain ⟨description?, hdescription⟩ : ∃ text?,
        ((node.get? "description").filter Value.isTruthy).mapM Value.shown = .ok text? :=
      exists_mapM_option fun v hv =>
        Value.exists_shown_iff.mpr (hpart (Option.filter_eq_some_iff.mp hv).1).2
    obtain ⟨example?, hexample⟩ : ∃ text?,
        (node.get? "example").mapM (Json.write Json.compact) = .ok text? :=
      exists_mapM_option fun v hv => (Json.exists_write_iff (hpart hv).1 _).mpr (hpart hv).2
    unfold documentation
    rw [hdescription, hexample]
    exact ⟨_, rfl⟩
  | merged merge _ hnode => exact ⟨none, hnode ▸ merge.documentation_node⟩

/-- A validator loses the description that a node gives it. -/
theorem exists_described (h : ∃ text?, documentation node = .ok text?) (v : Validator) :
    ∃ w, described node v = .ok w ∧ w.undescribed = v.undescribed := by
  obtain ⟨text?, htext⟩ := h
  refine ⟨_, described_eq_ok_iff.mpr ⟨text?, htext, rfl⟩, ?_⟩
  cases text? with
  | none => rfl
  | some text => exact v.undescribed_withDescription _

theorem undescribed_withNull (v : Validator) :
    (withNull node v).undescribed = withNull node v.undescribed := by
  unfold withNull
  split <;> rfl

/-! ### Two runs side by side -/

/-- **A compilation without descriptions does not look at documentation** that can be written, and
makes no difference between the empty node and others that say nothing. -/
theorem map_undescribed_compileWithin {r : Resolution}
    (hr : resolveWithin document (room + 1) schema visited = .ok r)
    (hdocumentation : ∃ text?, documentation r.node = .ok text?) :
    (compileWithin document mode (room + 1) schema visited).map Validator.undescribed =
      (bareValidator
        (fun c => (compileWithin document mode room c r.visited).map Validator.undescribed) mode
        r.node).map (withNull r.node) := by
  obtain ⟨node, visited'⟩ := r
  rw [compileWithin, hr, bareValidator_undescribed]
  cases node with
  | nil =>
    -- The empty node is of no kind, so its own case makes no difference.
    rfl
  | cons e es =>
    dsimp only [bind, Except.bind]
    cases bareValidator (fun c => compileWithin document mode room c visited') mode (e :: es) with
    | error e => rfl
    | ok bare =>
      obtain ⟨w, hw, hsame⟩ := exists_described hdocumentation bare
      simp only [hw]
      exact congrArg Except.ok ((undescribed_withNull w).trans (congrArg _ hsame))

/-- The same schemas are reached. -/
theorem innerReached_undescribed :
    innerReached (fun c => (compileChild c).map Validator.undescribed) mode node =
      innerReached compileChild mode node := by
  have hreached : ∀ l, Except.reachedBy (fun c => (compileChild c).map Validator.undescribed) l =
      Except.reachedBy compileChild l := by
    intro l
    have hfails : ∀ c e, (compileChild c).map Validator.undescribed = .error e ↔
        compileChild c = .error e := by
      intro c e
      cases compileChild c <;> simp [Except.map]
    simpa using Except.map_reachedBy (k := id) hfails l
  unfold innerReached
  rw [hreached]

/-- The validator of a list is made from that of its items, whether they count as given or not. -/
theorem listOf_eq_map (h : ∀ c : Value, c.isTruthy = false → compileChild c = .ok (.any .null)) :
    listOf compileChild node = (compileChild (itemSchema node)).map (.array .null) := by
  unfold listOf
  split
  · cases compileChild (itemSchema node) <;> rfl
  · next hfalsy =>
    rw [h _ (by simpa using hfalsy)]
    rfl

/-- The schema of items has what the node has. -/
theorem Origin.itemSchema {K : Scalar → Prop} {P : Value → Prop} (hP : Value.Hereditary P)
    (h : Origin K P node) (hkind : kind node = .array) : P (itemSchema node) := by
  cases h with
  | given h => exact hP.getD h "items"
  | merged merge _ hnode =>
    subst hnode
    exact absurd (merge.kind_node.symm.trans hkind) (by decide)

theorem map_undescribed_compileWithin_of_falsy (h : schema.isTruthy = false) :
    (compileWithin document mode room schema visited).map Validator.undescribed =
      .ok (.any .null) := by
  rw [compileWithin_of_falsy h]
  rfl

/-- A compilation follows the references of the schema of items; there are none when that does not
count as given. -/
theorem follows_of_itemSchema {r : Resolution} {name : String}
    (hr : resolveWithin document (room + 1) schema visited = .ok r) (hkind : kind r.node = .array)
    (h : .follows name ∈ compilationTrace document mode room (itemSchema r.node) r.visited) :
    .follows name ∈ compilationTrace document mode (room + 1) schema visited := by
  cases htruthy : (itemSchema r.node).isTruthy with
  | true => exact mem_compilationTrace_of_inner hr (itemSchema_mem_innerReached hkind htruthy) h
  | false => exact absurd h (not_follows_of_falsy htruthy name)

/-- **Two schemas that differ in documentation are compiled alike up to descriptions**, or fail with
one fault, where the references that are followed lead to such schemas. -/
theorem compileWithin_redocumented (hdocument : document.IsWritable) (hother : other.IsWritable)
    (hschema : schema.IsWritable) (hschema' : schema'.IsWritable)
    (h : RedocumentedSchema schema schema')
    (hrefs : ∀ name, .follows name ∈ compilationTrace document mode room schema visited →
      Except.Relates RedocumentedSchema (Pointer.resolveValue document (.text name))
        (Pointer.resolveValue other (.text name))) :
    (compileWithin document mode room schema visited).map Validator.undescribed =
      (compileWithin other mode room schema' visited).map Validator.undescribed := by
  have hP := inherits_of_hereditary Value.hereditary_isWritable
  induction room generalizing schema schema' visited with
  | zero => rfl
  | succ room ih =>
    have hresolve := resolveWithin_of_companion companion_redocumented h fun name hname =>
      hrefs name (mem_compilationTrace_of_resolution hname)
    generalize hr : resolveWithin document (room + 1) schema visited = resolved,
      hs : resolveWithin other (room + 1) schema' visited = resolved' at hresolve
    cases hresolve with
    | error e =>
      rw [compileWithin_of_error hr, compileWithin_of_error hs]
    | @ok r s hrs =>
      obtain ⟨hnode, hvisited⟩ := hrs
      have hr' := origin_resolveWithin hP hdocument hschema hr
      have hs' := origin_resolveWithin hP hother hschema' hs
      have hnull : withNull r.node = withNull s.node := by
        funext v
        unfold withNull
        rw [hnode.isNullable]
      have hinner : ∀ c d, RedocumentedSchema c d → c.IsWritable → d.IsWritable →
          (∀ name, .follows name ∈ compilationTrace document mode room c r.visited →
            .follows name ∈ compilationTrace document mode (room + 1) schema visited) →
          (compileWithin document mode room c r.visited).map Validator.undescribed =
            (compileWithin other mode room d s.visited).map Validator.undescribed :=
        fun c d hcd hc hd hnames => hvisited ▸ ih hc hd hcd fun name hname =>
          hrefs name (hnames name hname)
      rw [map_undescribed_compileWithin hr (exists_documentation hr'),
        map_undescribed_compileWithin hs (exists_documentation hs'), hnull]
      refine congrArg _ (bareValidator_of_nodeReading companion_redocumented.keepsMaps
        (hnode.nodeReading RedocumentedSchema.refl) ?_ ?_)
      · -- What is reached does not depend on the descriptions, so the trace has its references.
        intro c hc d hd hcd
        rw [innerReached_undescribed] at hc hd
        exact hinner c d hcd (hr'.inner hP (inner_of_mem_innerReached hc))
          (hs'.inner hP (inner_of_mem_innerReached hd))
          fun name => mem_compilationTrace_of_inner hr hc
      · -- One schema of items may be empty where the other one is documented only.
        intro hkind
        rw [listOf_eq_map fun _ => map_undescribed_compileWithin_of_falsy,
          listOf_eq_map fun _ => map_undescribed_compileWithin_of_falsy]
        exact congrArg _ (hinner _ _ (hnode.nodeReading RedocumentedSchema.refl).items
          (hr'.itemSchema hP.toHereditary hkind)
          (hs'.itemSchema hP.toHereditary (hnode.kind ▸ hkind))
          fun name => follows_of_itemSchema hr hkind)

/-- **Documentation never changes what is accepted**: a document and a schema of JSON with other
documentation, and other keys that are not read, give the same validator but for its descriptions,
and it accepts the same values; or they fail as they failed before.  The references that are followed
must address schemas. -/
theorem compile_redocumented {document document' schema schema' : Value} {mode : Mode} {depth : Int}
    {visited : List String} {places schemaPlaces : Place → Prop} (hdocument : document.IsWritable)
    (hdocument' : document'.IsWritable) (hschema : schema.IsWritable)
    (hschema' : schema'.IsWritable) (hplaces : SchemasAt places)
    (hschemaPlaces : ∀ place, schemaPlaces place → Within place)
    (hsame : Redocumented places document document')
    (hsame' : Redocumented schemaPlaces schema schema')
    (hrefs : ∀ name,
      .follows name ∈ compilationTrace document mode (Schema.room depth) schema visited →
      ∃ place, Pointer.place? document name = some place ∧ places place) :
    Except.Relates (fun v w => v.undescribed = w.undescribed ∧ ∀ x, v.isValid x = w.isValid x)
      (compile document schema mode depth visited)
      (compile document' schema' mode depth visited) := by
  have hruns : (compile document schema mode depth visited).map Validator.undescribed =
      (compile document' schema' mode depth visited).map Validator.undescribed := by
    refine compileWithin_redocumented hdocument hdocument' hschema hschema'
      ⟨schemaPlaces, hschemaPlaces, hsame'⟩ fun name hname => ?_
    obtain ⟨place, hplace, haddressed⟩ := hrefs name hname
    exact guides_redocumented.resolve hplaces hplace haddressed hsame
  refine (Except.Relates.of_map_eq hruns).mono fun v w _ _ hvw => ⟨hvw, fun x => ?_⟩
  rw [← v.isValid_undescribed, hvw, w.isValid_undescribed]

/-! ### A document with and without documentation -/

/-- Notes with titles of which nothing is said. -/
def plainDocument : Value := titledDocument [("type", .text "object")] []

/-- The same notes, documented. -/
def documentedDocument : Value :=
  titledDocument [("description", .text "A note."), ("type", .text "object")]
    [("example", .text "Groceries"), ("format", .text "plain")]

/-- The two documents differ in the documentation of notes and titles. -/
theorem redocumented_plainDocument :
    Redocumented (fun place => place = notePlace ∨ place = titlePlace) plainDocument
      documentedDocument := by
  refine .record _ (.record _ (.record _ (.of_rel_get? (.inl rfl) fun name hname => ?_)))
  by_cases hproperties : name = "properties"
  · subst hproperties
    refine .some (.record "title" (.of_get?_eq (.inr rfl) fun name hname => ?_))
    rcases hname with hname | ⟨place, hplace⟩
    · revert name
      decide
    · simp [placesUnder, notePlace, titlePlace] at hplace
  · refine Redocumented.rel_of_eq ?_
    rcases hname with hname | ⟨place, hplace⟩
    · revert hproperties
      revert name
      decide
    · simp [placesUnder, notePlace, titlePlace, hproperties] at hplace

/-- Lists of notes differ in a title that is not read. -/
theorem redocumented_notesSchema :
    Redocumented (fun place => place = []) (notesSchema [("type", .text "array")])
      (notesSchema [("type", .text "array"), ("title", .text "Notes")]) := by
  refine .of_get?_eq rfl fun name hname => ?_
  rcases hname with hname | ⟨place, hplace⟩
  · revert name
    decide
  · cases hplace

/-- The two documents give validators of lists that differ in descriptions only. -/
theorem compile_redocumented_plainDocument :
    plainDocument.IsWritable ∧ documentedDocument.IsWritable ∧
      SchemasAt (fun place => place = notePlace ∨ place = titlePlace) ∧
      Redocumented (fun place => place = notePlace ∨ place = titlePlace) plainDocument
        documentedDocument ∧
      Redocumented (fun place => place = []) (notesSchema [("type", .text "array")])
        (notesSchema [("type", .text "array"), ("title", .text "Notes")]) ∧
      Except.Relates (fun v w => v.undescribed = w.undescribed ∧ ∀ x, v.isValid x = w.isValid x)
        (compile plainDocument (notesSchema [("type", .text "array")]) .input 0 [])
        (compile documentedDocument
          (notesSchema [("type", .text "array"), ("title", .text "Notes")]) .input 0 []) := by
  have hplain : plainDocument.IsWritable := by decide +kernel
  have hdocumented : documentedDocument.IsWritable := by decide +kernel
  refine ⟨hplain, hdocumented, schemasAt_notes, redocumented_plainDocument,
    redocumented_notesSchema, ?_⟩
  refine compile_redocumented hplain hdocumented (by decide +kernel) (by decide +kernel)
    schemasAt_notes ?_ redocumented_plainDocument redocumented_notesSchema fun name hname => ?_
  · rintro place rfl
    exact .itself
  · have htrace : compilationTrace plainDocument .input (Schema.room 0)
        (notesSchema [("type", .text "array")]) [] =
          [.follows "#/components/schemas/Note"] := rfl
    rw [htrace, List.mem_singleton] at hname
    cases hname
    exact ⟨notePlace, rfl, .inl rfl⟩

end Schema

end ApiTools
