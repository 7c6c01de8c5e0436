import ApiTools.DocumentFormat
import ApiTools.Proofs.ToolModule.Finite
import ApiTools.Proofs.Validator.Plained

/-!
# Tools that are rebuilt from a module

A module holds the records of its tools as they are read back from JSON, and rebuilds the tools from
them.  A description in YAML may have days, bytes and keys of any kind in it; they are in the
validators of its tools, and what is rebuilt has texts in their place.  So the rebuilt tools are the
tools with their names and listed values as they are read back, and they are always loaded.

Whether a rebuilt tool takes the same arguments is a matter of its validator alone, and so of what
there is in reach of a value of JSON.

## Main definitions

* `Tool.plained` — the tool as it is rebuilt.

## Main results

* `Validator.toRecord_plained` — **the record of a validator is read back as that of the validator
  with its names and listed values as they are read back.**
* `ToolModule.loadAll_context_plained` — **the tools of a context are always loaded, and are
  these.**
* `ToolModule.rebuilt_accepts_iff` — **a rebuilt tool takes the same arguments exactly when what is
  in reach of them is kept**, which all is when the description is in JSON.
-/

namespace ApiTools

namespace Validator

variable {mode : Mode} {v : Validator}

/-! ### Records that are read back -/

/-- What documents a validator is a text that is not empty, also when it is read back. -/
theorem isTruthy_plained_of_documents {d : Value} (h : d.Documents fun _ => True) :
    (d = .null ∧ Json.plained d = .null) ∨
      d.isTruthy = true ∧ (Json.plained d).isTruthy = true := by
  rcases h with rfl | ⟨s, hs, -, rfl⟩
  · exact .inl ⟨rfl, rfl⟩
  · refine .inr ⟨by simpa [Value.isTruthy] using hs, ?_⟩
    have hjoined : Json.plained (.text s) = .text (Text.joined s) := rfl
    rw [hjoined]
    simpa [Value.isTruthy] using mt Text.joined_eq_empty_iff.mp hs

/-- The head of a record is read back with the description, and the other fields one by one. -/
theorem plain_toRecord_eq_ok (hd : v.description.Documents fun _ => True) {record : Value}
    (h : Json.plain v.toRecord = .ok record)
    (htail : (∀ f ∈ tailFields v, Json.plain f.2 = .ok (Json.plained f.2)) →
      (tailFields v).map (fun f => (f.1, Json.plained f.2)) = tailFields v.plained) :
    record = v.plained.toRecord := by
  have hfields : ∀ w : Validator, w.toRecord = .record (headFields w ++ tailFields w) := by
    intro w
    rw [toRecord_eq_map]
    rfl
  have hhead : (headFields v).map (fun f => (f.1, Json.plained f.2)) = headFields v.plained := by
    unfold headFields
    rw [kindName_plained, description_plained]
    have hkind : Json.plained (.text v.kindName) = .text v.kindName :=
      Json.plained_of_isJson (isJoined_kindName v)
    rcases isTruthy_plained_of_documents hd with ⟨hd, hplained⟩ | ⟨hd, hplained⟩
    · rw [hd] at hplained ⊢
      simp [hplained, hkind, Value.isTruthy]
    · simp [hd, hplained, hkind]
  rw [hfields] at h
  obtain ⟨hplain, rfl⟩ := Json.plain_record_eq_ok (areNames_fields v) h
  rw [List.forall_mem_append] at hplain
  rw [List.map_append, hhead, htail hplain.2, ← hfields]

/-- The record of a rule is read back as that of the rule as it comes back, if that of its validator
is. -/
theorem toRecord_rule_plained {rule : Rule} (hmade : rule.Made (fun _ => True) mode)
    (hvalidator : ∀ record, Json.plain rule.validator.toRecord = .ok record →
      record = rule.validator.plained.toRecord) {record : Value}
    (h : Json.plain rule.toRecord = .ok record) : record = rule.plained.toRecord := by
  obtain ⟨hfields, rfl⟩ := Json.plain_record_eq_ok (by exact areNames_ruleFields) h
  have hown := hvalidator _ (hfields ("validator", rule.validator.toRecord) (by simp))
  -- The flags are truth values, which are read back as they are.
  obtain ⟨name, required, -, heq⟩ := hmade
  have hrequired : Json.plained rule.required = rule.required := by
    rw [heq]
    rfl
  have hnullable : Json.plained rule.nullable = rule.nullable := by
    rw [heq]
    rfl
  simp only [List.map_cons, List.map_nil, hown, hrequired, hnullable]
  rfl

/-- So are the records of rules, if those of their validators are. -/
theorem ruleRecords_plained {rules : List Rule}
    (hmade : ∀ rule ∈ rules, rule.Made (fun _ => True) mode)
    (hvalidators : ∀ rule ∈ rules, ∀ record, Json.plain rule.validator.toRecord = .ok record →
      record = rule.validator.plained.toRecord)
    (h : Json.plain (.list (ruleRecords rules)) = .ok (Json.plained (.list (ruleRecords rules)))) :
    Json.plained (.list (ruleRecords rules)) = .list (ruleRecords (rules.map Rule.plained)) := by
  obtain ⟨hrecords, hlist⟩ := Json.plain_list_eq_ok h
  rw [hlist]
  rw [ruleRecords_eq_map] at hrecords
  rw [ruleRecords_eq_map, ruleRecords_eq_map, List.map_map, List.map_map]
  refine congrArg Value.list (List.map_congr_left fun rule hrule => ?_)
  exact toRecord_rule_plained (hmade rule hrule) (hvalidators rule hrule)
    (hrecords _ (List.mem_map_of_mem hrule))

/-- So are the fields of a policy, if the record of its validator is. -/
theorem extrasFields_plained {extras : Extras}
    (h : ∀ v, extras.validator? = some v → Json.plained v.toRecord = v.plained.toRecord) :
    (extrasFields extras).map (fun f => (f.1, Json.plained f.2)) = extrasFields extras.plained := by
  rw [extrasFields_eq, extrasFields_eq, Extras.validator?_plained]
  cases hv : extras.validator? with
  | none => rfl
  | some v => simp [h v hv]

theorem policy_plained (extras : Extras) : extras.plained.policy = extras.policy := by
  rcases extras with (_ | v) | (_ | v) | v <;> rfl

/-- **The record of a drawn validator is read back as that of the validator with its names and
listed values as they are read back.** -/
theorem toRecord_plained (hdrawn : ∀ w, v.Part w → w.Drawn mode) {record : Value}
    (h : Json.plain v.toRecord = .ok record) : record = v.plained.toRecord := by
  induction v using inductionOn generalizing record with
  | any d | number d | boolean d =>
    have hself := (forall_part_iff.mp hdrawn).1
    refine plain_toRecord_eq_ok hself.documents h fun _ => ?_
    rw [plained]
    rfl
  | string d allowed =>
    have hself := (forall_part_iff.mp hdrawn).1
    refine plain_toRecord_eq_ok hself.documents h fun htail => ?_
    rw [plained]
    cases allowed with
    | none => rfl
    | some allowed =>
      have hallowed := htail ("allowed", .list allowed) (List.mem_singleton_self _)
      simp [tailFields, (Json.plain_list_eq_ok hallowed).2]
  | literal d values =>
    have hself := (forall_part_iff.mp hdrawn).1
    refine plain_toRecord_eq_ok hself.documents h fun htail => ?_
    have hvalues := htail ("values", .list values) (List.mem_singleton_self _)
    rw [plained, tailFields, tailFields, List.map_singleton, (Json.plain_list_eq_ok hvalues).2]
  | array d inner ih | nullable d inner ih =>
    obtain ⟨hself, hbelow⟩ := forall_part_iff.mp hdrawn
    refine plain_toRecord_eq_ok hself.documents h fun htail => ?_
    have hinner := htail _ (List.mem_singleton_self _)
    rw [plained, tailFields, tailFields, List.map_singleton,
      ih (hbelow inner (by simp [children])) hinner]
  | object d rules extras ihRules ihExtras =>
    obtain ⟨hself, hbelow⟩ := forall_part_iff.mp hdrawn
    refine plain_toRecord_eq_ok hself.documents h fun htail => ?_
    have hrules : Json.plained (.list (ruleRecords rules)) =
        .list (ruleRecords (rules.map Rule.plained)) := by
      refine ruleRecords_plained (hself.made d rules extras rfl)
        (fun rule hrule record => ihRules rule hrule ?_)
        (htail ("properties", .list (ruleRecords rules)) (by simp [tailFields]))
      exact hbelow _ (mem_children_object.mpr (.inl ⟨rule, hrule, rfl⟩))
    have hextras : (extrasFields extras).map (fun f => (f.1, Json.plained f.2)) =
        extrasFields extras.plained :=
      extrasFields_plained fun w hw =>
        ihExtras w hw (hbelow w (mem_children_object.mpr (.inr hw)))
          (htail ("additional_validator", w.toRecord) (by simp [tailFields, extrasFields_eq, hw]))
    have hpolicy : Json.plained (.text extras.policy) = .text extras.policy :=
      Json.plained_of_isJson (isJoined_policy extras)
    rw [plained_object, tailFields, tailFields, List.map_cons, List.map_cons, hrules, hextras,
      policy_plained, hpolicy]

/-- **A drawn validator comes back from its record in JSON with its names, listed values and
descriptions as they are read back.** -/
theorem ofRecord_plained (hdrawn : ∀ w, v.Part w → w.Drawn mode) {record : Value}
    (h : Json.plain v.toRecord = .ok record) : ofRecord record = .ok v.plained := by
  have htidy : v.plained.tidy = v.plained := tidy_eq_self_iff.mpr fun w hw => by
    obtain ⟨u, hu, rfl⟩ := exists_part_of_plained hw
    rw [description_plained]
    exact (isTruthy_plained_of_documents (hdrawn u hu).documents).imp And.right And.right
  rw [toRecord_plained hdrawn h, ofRecord_toRecord, htidy]

/-! ### Keys and values of JSON -/

/-- The names of a drawn validator can be keys. -/
theorem hasKeys_of_drawn (hdrawn : ∀ w, v.Part w → w.Drawn mode) : v.hasKeys = true := by
  induction v using inductionOn with
  | any | string | literal | number | boolean => rw [hasKeys]
  | array d inner ih | nullable d inner ih =>
    rw [hasKeys]
    exact ih ((forall_part_iff.mp hdrawn).2 inner (by simp [children]))
  | object d rules extras ihRules ihExtras =>
    obtain ⟨hself, hbelow⟩ := forall_part_iff.mp hdrawn
    rw [hasKeys, Bool.and_eq_true, rulesHaveKeys_iff]
    refine ⟨fun rule hrule => ⟨?_, ihRules rule hrule ?_⟩, ?_⟩
    · obtain ⟨name, required, -, heq⟩ := hself.made d rules extras rfl rule hrule
      rw [heq]
      rfl
    · exact hbelow _ (mem_children_object.mpr (.inl ⟨rule, hrule, rfl⟩))
    · cases extras with
      | reject | allow => rfl
      | typed w => exact ihExtras w rfl (hbelow w (mem_children_object.mpr (.inr rfl)))

/-- A validator that is described by, and mentions, values of JSON only comes back as it is. -/
theorem plained_eq_self
    (h : ∀ w, v.Part w → w.description.isJson = true ∧ ∀ x ∈ w.mentions, x.isJson = true) :
    v.plained = v := by
  have hsame : ∀ values : List Value, (∀ m ∈ values, m.isJson = true) →
      values.map Json.plained = values := fun values hvalues => by
    rw [List.map_congr_left fun m hm => Json.plained_of_isJson (hvalues m hm), List.map_id']
  induction v using inductionOn with
  | any d | number d | boolean d =>
    have hd : Json.plained d = d := Json.plained_of_isJson (forall_part_iff.mp h).1.1
    rw [plained, hd]
  | string d allowed =>
    obtain ⟨hdescription, hallowed⟩ := (forall_part_iff.mp h).1
    have hd : Json.plained d = d := Json.plained_of_isJson hdescription
    rw [plained, hd]
    cases allowed with
    | none => rfl
    | some allowed => rw [Option.map_some, hsame allowed hallowed]
  | literal d values =>
    obtain ⟨hdescription, hvalues⟩ := (forall_part_iff.mp h).1
    have hd : Json.plained d = d := Json.plained_of_isJson hdescription
    rw [plained, hd, hsame values hvalues]
  | array d inner ih | nullable d inner ih =>
    obtain ⟨⟨hdescription, -⟩, hbelow⟩ := forall_part_iff.mp h
    have hd : Json.plained d = d := Json.plained_of_isJson hdescription
    rw [plained, hd, ih (hbelow inner (by simp [children]))]
  | object d rules extras ihRules ihExtras =>
    obtain ⟨⟨hdescription, hnames⟩, hbelow⟩ := forall_part_iff.mp h
    have hd : Json.plained d = d := Json.plained_of_isJson hdescription
    have hrules : rules.map Rule.plained = rules := by
      refine (List.map_congr_left fun rule hrule => ?_).trans (List.map_id rules)
      have hvalidator := ihRules rule hrule
        (hbelow _ (mem_children_object.mpr (.inl ⟨rule, hrule, rfl⟩)))
      have hname := Json.plained_of_isJson (hnames rule.name (List.mem_map_of_mem hrule))
      obtain ⟨name, w, req, nul⟩ := rule
      exact congrArg₂ (Rule.mk · · req nul) hname hvalidator
    have hextras : extras.plained = extras := by
      have hw : ∀ w, extras.validator? = some w → w.plained = w := fun w hw =>
        ihExtras w hw (hbelow w (mem_children_object.mpr (.inr hw)))
      rcases extras with (_ | w) | (_ | w) | w
      · rfl
      · exact congrArg (fun w => Extras.reject (some w)) (hw w rfl)
      · rfl
      · exact congrArg (fun w => Extras.allow (some w)) (hw w rfl)
      · exact congrArg Extras.typed (hw w rfl)
    rw [plained_object, hd, hrules, hextras]

end Validator

/-! ### Tools -/

namespace Tool

/-- The tool as it is rebuilt from its record in JSON. -/
def plained (tool : Tool) : Tool where
  name := tool.name
  title := (Json.plained tool.title).orElse tool.name
  description := Json.plained tool.description
  methodName := Json.plained tool.methodName
  input := tool.input.plained
  output := tool.output.map Validator.plained
  annotations := tool.annotations

/-- A tool is read from the seven fields of its record. -/
theorem ofRecord_eq (name title description methodName input output annotations : Value) :
    ofRecord (.record [("name", name), ("title", title), ("description", description),
        ("method_name", methodName), ("input_validator", input), ("output_validator", output),
        ("annotations", annotations)]) = (do
      let input ← Validator.ofRecord input
      let output ← if output.isTruthy then some <$> Validator.ofRecord output else pure none
      let annotations ← Annotations.ofRecord (annotations.orElse (.map []))
      return { name, title := title.orElse name, description, methodName, input, output,
               annotations }) := rfl

/-- **A drawn tool comes back from its record in JSON** with its names and listed values as they are
read back. -/
theorem ofRecord_plained {tool : Tool} (hdrawn : tool.IsDrawn) {record : Value}
    (h : Json.plain tool.toRecord = .ok record) : ofRecord record = .ok tool.plained := by
  obtain ⟨hfields, rfl⟩ := Json.plain_record_eq_ok (by exact areNames_fields) h
  obtain ⟨name, hname, hspelled⟩ := hdrawn.name
  have hinput := Validator.ofRecord_plained hdrawn.input
    (hfields ("input_validator", tool.input.toRecord) (by simp))
  have hannotations : Json.plained tool.annotations.toRecord = tool.annotations.toRecord :=
    Json.plained_of_isJson (Value.recordable_isJson.record Annotations.areNames_fields
      (by simp [Value.isJson, Scalar.isJson]))
  have hnames : Json.plained tool.name = tool.name := by
    rw [hname]
    exact Json.plained_of_isJson (Text.isJoined_of_isWhole hspelled.isWhole)
  refine (ofRecord_eq _ _ _ _ _ _ _).trans (Except.bind_eq_ok_iff.mpr ⟨_, hinput, ?_⟩)
  dsimp only
  rw [hannotations, hnames, plained]
  have hflags : Annotations.ofRecord (tool.annotations.toRecord.orElse (.map [])) =
      .ok tool.annotations := Annotations.ofRecord_toRecord tool.annotations
  cases houtput : tool.output with
  | none =>
    exact Except.bind_eq_ok_iff.mpr ⟨none, rfl, Except.bind_eq_ok_iff.mpr ⟨_, hflags, rfl⟩⟩
  | some v =>
    have hfield := hfields ("output_validator", v.toRecord) (by simp [houtput])
    have hv := Validator.ofRecord_plained (hdrawn.output v houtput) hfield
    have hrecord := Validator.toRecord_plained (hdrawn.output v houtput) hfield
    rw [hrecord] at hv
    rw [Option.map_some, Option.getD_some, hrecord, if_pos (isTruthy_toRecord _), hv]
    exact Except.bind_eq_ok_iff.mpr
      ⟨some v.plained, rfl, Except.bind_eq_ok_iff.mpr ⟨_, hflags, rfl⟩⟩

end Tool

namespace ToolModule

variable {document : Value} {tools : List Tool} {ctx : Entries}

/-- **The tools of a context are always loaded**, with their names and listed values as they are
read back from JSON. -/
theorem loadAll_context_plained (htools : Synthesis.tools document = .ok tools)
    (hctx : context tools document = .ok ctx) :
    Tool.loadAll ((ctx.get? "tools").getD .null) = .ok (tools.map Tool.plained) := by
  have hdrawn := Synthesis.isDrawn_of_mem_tools htools
  obtain ⟨names, hnames, hnodup⟩ := Synthesis.exists_names_tools htools
  obtain ⟨records, hrecords, hfield, -⟩ := context_eq_ok hctx
  have hread : records.mapM Tool.ofRecord = .ok (tools.map Tool.plained) := by
    have hall := (List.forall₂_and_left _ _).mpr ⟨hdrawn, Except.mapM_eq_ok_iff.mp hrecords⟩
    refine Except.mapM_eq_ok_iff.mpr (List.forall₂_map_right_iff.mpr (List.Forall₂.flip ?_))
    exact hall.imp fun tool record h => Tool.ofRecord_plained h.1 h.2
  have hkept : (tools.map Tool.plained).map Tool.name = names.map .text := by
    rw [List.map_map, ← hnames]
    rfl
  rw [hfield, Option.getD_some]
  refine Except.bind_eq_ok_iff.mpr ⟨records, rfl, ?_⟩
  refine Except.bind_eq_ok_iff.mpr ⟨tools.map Tool.plained, hread, ?_⟩
  rw [hkept, Tool.repeatedNames_texts hnodup]
  rfl

/-- **A rebuilt tool takes the same arguments exactly when what is in reach of them is kept.**  The
tools of a context are always loaded.  Each of them takes the same values of JSON as the one that it
was made for just when the validator of its arguments is kept.  It has the same validator when all
that the validator mentions is in JSON, as it is when the description is. -/
theorem rebuilt_accepts_iff (htools : Synthesis.tools document = .ok tools)
    (hctx : context tools document = .ok ctx) :
    ∃ rebuilt, Tool.loadAll ((ctx.get? "tools").getD .null) = .ok rebuilt ∧
      List.Forall₂ (fun tool back =>
        ((∀ x : Value, x.IsFiniteJson →
            (back.input.check x = .ok () ↔ tool.input.check x = .ok ())) ↔ tool.input.Kept) ∧
        ((∀ w, tool.input.Part w →
            w.description.isJson = true ∧ ∀ x ∈ w.mentions, x.isJson = true) →
          back.input = tool.input) ∧
        ((∃ source, Json.parse source = .ok document) → back.input = tool.input))
        tools rebuilt := by
  have hdrawn := Synthesis.isDrawn_of_mem_tools htools
  refine ⟨_, loadAll_context_plained htools hctx, ?_⟩
  rw [List.forall₂_map_right_iff, List.forall₂_same]
  intro tool htool
  have hkeys := Validator.hasKeys_of_drawn (hdrawn tool htool).input
  have hsame : (∀ w, tool.input.Part w →
      w.description.isJson = true ∧ ∀ x ∈ w.mentions, x.isJson = true) →
      tool.plained.input = tool.input := Validator.plained_eq_self
  refine ⟨?_, hsame, ?_⟩
  · rw [← Validator.jsonEquiv_plained_iff]
    refine forall₂_congr fun x _ => ?_
    change (tool.input.plained.check x = .ok () ↔ _) ↔ _
    rw [Validator.check_eq_ok_iff hkeys,
      Validator.check_eq_ok_iff (Validator.hasKeys_plained hkeys)]
  · rintro ⟨source, hparse⟩
    have hread := Synthesis.of_toRecord Value.hereditary_isRead Value.recordable_isRead
      (Json.isRead_of_parse hparse) htools tool htool
    obtain ⟨htexts, hmentions⟩ := (Tool.of_toRecord_iff Value.hereditary_isRead
      Value.recordable_isRead (hdrawn tool htool)).mp hread
    exact hsame fun w hw => ⟨(htexts _ (.input hw)).1, fun x hx => (hmentions x (.input hw hx)).1⟩

/-- A day. -/
def firstDay : Stamp := .day ⟨2024, 1, 1⟩

/-- A day is a value to choose from. -/
def datedSource : String := sourceOf "\x7b\"enum\":[2024-01-01]\x7d"

/-- So is the text that is read back for it. -/
def spelledSource : String := sourceOf "\x7b\"enum\":[2024-01-01,\"2024-01-01\"]\x7d"

/-- What the two descriptions in YAML say: each has one tool. -/
theorem exists_context_days :
    (∃ document ctx, DocumentFormat.yaml.parse datedSource = .ok document ∧
      Json.isFinite document = true ∧
      Synthesis.tools document = .ok [choiceTool [.stamp firstDay]] ∧
      context [choiceTool [.stamp firstDay]] document = .ok ctx) ∧
    ∃ document ctx, DocumentFormat.yaml.parse spelledSource = .ok document ∧
      Json.isFinite document = true ∧
      Synthesis.tools document = .ok [choiceTool [.stamp firstDay, .text "2024-01-01"]] ∧
      context [choiceTool [.stamp firstDay, .text "2024-01-01"]] document = .ok ctx := by
  -- The texts are evaluated as the lists of their characters.
  have hdated : DocumentFormat.yaml.parse datedSource =
      .ok (choiceDocument (.record [("enum", .list [.stamp firstDay])])) := by
    unfold datedSource sourceOf
    iterate 3 rw [← String.ofList_append]
    rw [DocumentFormat.parse, String.toList_ofList, DocumentFormat.parseText, Yaml.parse,
      String.toList_ofList]
    exact Except.eq_ok_of_toOption (by decide +kernel)
  have hspelled : DocumentFormat.yaml.parse spelledSource =
      .ok (choiceDocument
        (.record [("enum", .list [.stamp firstDay, .text "2024-01-01"])])) := by
    unfold spelledSource sourceOf
    iterate 3 rw [← String.ofList_append]
    rw [DocumentFormat.parse, String.toList_ofList, DocumentFormat.parseText, Yaml.parse,
      String.toList_ofList]
    exact Except.eq_ok_of_toOption (by decide +kernel)
  exact ⟨exists_context hdated (by decide +kernel) rfl rfl ⟨_, rfl⟩,
    exists_context hspelled (by decide +kernel) rfl rfl ⟨_, rfl⟩⟩

/-- No value of JSON is equal to a day, so a day is kept beside the text that is read back. -/
theorem kept_choiceTool :
    (choiceTool [.stamp firstDay, .text "2024-01-01"]).input.Kept := by
  have hday : ∀ x : Value, x.IsFiniteJson → (Value.stamp firstDay).equals x = false := by
    rintro x ⟨hjson, -⟩
    cases x with
    | scalar s => cases s <;> simp_all [Value.isJson, Scalar.isJson, Value.equals, Value.sequenced,
        Value.equalBy, Scalar.equals]
    | list | map => simp [Value.equals, Value.sequenced, Value.equalBy]
    | group | knot => simp [Value.isJson] at hjson
  refine .object ?_ ?_ ?_
  · intro rule hrule _
    obtain rfl := List.mem_singleton.mp hrule
    exact ⟨_, rfl, by decide +kernel⟩
  · intro name u _ _ hu
    rcases Validator.checkerAt?_cases hu with ⟨rule, hrule, rfl⟩ | hpolicy
    · obtain rfl := List.mem_singleton.mp hrule
      refine .literal fun x hx => ?_
      have hread : Json.plained (.stamp firstDay) = .text "2024-01-01" := by decide +kernel
      have htext : Json.plained (.text "2024-01-01") = .text "2024-01-01" := by decide +kernel
      simp [hread, htext, hday x hx]
    · cases hpolicy
  · rintro name x - ⟨rule, hrule, hne, hname⟩
    obtain rfl := List.mem_singleton.mp hrule
    exact absurd hname hne

/-- A day is kept where the text that is read back for it may be chosen, too: the rebuilt validator
is another one, and accepts the same. -/
theorem rebuilt_accepts_spelledSource :
    ∃ document tool back ctx, DocumentFormat.yaml.parse spelledSource = .ok document ∧
      Synthesis.tools document = .ok [tool] ∧ context [tool] document = .ok ctx ∧
      Tool.loadAll ((ctx.get? "tools").getD .null) = .ok [back] ∧ back.input ≠ tool.input ∧
      ∀ x : Value, x.IsFiniteJson →
        (back.input.check x = .ok () ↔ tool.input.check x = .ok ()) := by
  obtain ⟨-, document, ctx, hparse, -, htools, hctx⟩ := exists_context_days
  obtain ⟨rebuilt, hloaded, hrebuilt⟩ := rebuilt_accepts_iff htools hctx
  obtain rfl := Except.ok.inj (hloaded.symm.trans (loadAll_context_plained htools hctx))
  obtain ⟨hkept, -, -⟩ := (List.forall₂_cons.mp hrebuilt).1
  exact ⟨document, _, _, ctx, hparse, htools, hctx, hloaded, by decide +kernel,
    hkept.mpr kept_choiceTool⟩

/-- **A text is accepted in place of a day.** The validator of this tool accepts no value of JSON,
since none is equal to a day, but the rebuilt one accepts the text that is read back for it. -/
theorem rebuilt_accepts_datedSource :
    ∃ document tool back ctx, DocumentFormat.yaml.parse datedSource = .ok document ∧
      Synthesis.tools document = .ok [tool] ∧ context [tool] document = .ok ctx ∧
      Tool.loadAll ((ctx.get? "tools").getD .null) = .ok [back] ∧
      ∃ x : Value, x.IsFiniteJson ∧ back.input.check x = .ok () ∧
        tool.input.check x ≠ .ok () := by
  obtain ⟨⟨document, ctx, hparse, -, htools, hctx⟩, -⟩ := exists_context_days
  have hloaded := loadAll_context_plained htools hctx
  refine ⟨document, _, _, ctx, hparse, htools, hctx, hloaded,
    .record [("payload", .text "2024-01-01")], by decide, ?_, ?_⟩
  · exact (Validator.check_eq_ok_iff (by decide +kernel)).mpr (by decide +kernel)
  · rw [ne_eq, Validator.check_eq_ok_iff (by decide +kernel)]
    decide +kernel

end ToolModule

end ApiTools
