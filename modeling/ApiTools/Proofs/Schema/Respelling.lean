import ApiTools.Proofs.Schema.Cut
import ApiTools.Proofs.Schema.Spelling

/-!
# Respelled documents

A document may spell nullability in either way, schema by schema, and another document in another
way.  What is compiled from them is the same: a run over the one document is followed step by step
by a run over the other, through references, compositions and the schemas in a node.

The references that are followed must address schemas.  Where the schemas of a document are is not
said by the document, so it is a parameter: a set of places, of which none is at data of another.

## Main definitions

* `Pointer.place?` — the place that a reference addresses.
* `Schema.Guides` — a relation of values through which a reference to a schema is followed.

## Main results

* `Schema.Guides.resolve`, `Schema.guides_respell` — a reference to a schema leads to related schemas,
  and so to the respelled schema.
* `Schema.companion_respelled`, `Schema.compileWithin_respelled` — the two runs.
* `Schema.compile_respell` — **both spellings of nullability are compiled alike.**
-/

namespace ApiTools

/-! ### The place that a reference addresses -/

namespace Pointer

/-- The place that segments lead to. What a map or a list does not have is taken for an empty map, so
that there are places beyond the value. -/
def placeFrom (v : Value) : List (List Char) → Option Place
  | [] => some []
  | segment :: segments =>
    match v.bare with
    | .map es =>
      let name := String.ofList segment
      (placeFrom ((Entries.get? es name).getD (.map [])) segments).map (.key name :: ·)
    | .list items =>
      match index segment with
      | .ok i => (placeFrom (items[i]?.getD (.map [])) segments).map (.index i :: ·)
      | .error _ => none
    | _ => none

/-- The place that a reference addresses. -/
def place? (document : Value) (ref : String) : Option Place :=
  (segments? ref.toList).bind (placeFrom document)

end Pointer

namespace Schema

variable {marks : Marks} {places : Place → Prop}

/-- The places below a step. -/
def placesUnder (places : Place → Prop) (step : Step) : Place → Prop :=
  fun place => places (step :: place)

/-- Schemas can be at the given places: where one of them is below another one, it is on a way into
the schema there. -/
def SchemasAt (places : Place → Prop) : Prop :=
  ∀ place way, places place → places (place ++ way) → Within way

theorem SchemasAt.under (h : SchemasAt places) (step : Step) : SchemasAt (placesUnder places step) :=
  fun place way hplace => h (step :: place) way hplace

/-! ### References to schemas -/

/-- A relation of values, given where their schemas are, that keeps a reference to a schema on one way
in both of them, and the schemas that it leads to related. -/
structure Guides (S : (Place → Prop) → Value → Value → Prop) (T : Value → Value → Prop) : Prop where
  /-- Each schema is related to itself. -/
  refl : ∀ v, T v v
  /-- Where a schema is, the schemas are related. -/
  schema : ∀ {places v w}, SchemasAt places → places [] → S places v w → T v w
  /-- What has no keys and no items is the same. -/
  other : ∀ {places v w}, S places v w → (∀ es, v ≠ .map es) → (∀ items, v ≠ .list items) → v = w
  /-- On the way to a schema, maps have related values. -/
  map : ∀ {places es w name way}, SchemasAt places → places (.key name :: way) →
    S places (.map es) w → ∃ fs, w = .map fs ∧
      Option.Rel (S (placesUnder places (.key name))) (Entries.get? es name) (Entries.get? fs name)
  /-- Lists have related items. -/
  list : ∀ {places items w}, S places (.list items) w → ∃ others : List Value, w = .list others ∧
    ∀ i : ℕ, Option.Rel (S (placesUnder places (.index i))) items[i]? others[i]?

namespace Guides

variable {S : (Place → Prop) → Value → Value → Prop} {T : Value → Value → Prop} {v w : Value}
variable {place : Place}

/-- Segments that lead to a schema lead to related schemas. -/
theorem foldlM_step (hS : Guides S T) {ref : String} {segments : List (List Char)}
    (hplaces : SchemasAt places) (hplace : Pointer.placeFrom v segments = some place)
    (hschema : places place) (h : S places v w) :
    Except.Relates T (segments.foldlM (Pointer.step ref) v)
      (segments.foldlM (Pointer.step ref) w) := by
  -- Related maps have the same keys, and related lists the same indices, so that a segment leads to
  -- related parts, or nowhere in both.
  induction segments generalizing v w places place with
  | nil =>
    cases hplace
    exact .ok (hS.schema hplaces hschema h)
  | cons segment segments ih =>
    cases v with
    | scalar | group | knot =>
      obtain rfl := hS.other h nofun nofun
      exact .refl _ fun _ _ => hS.refl _
    | map es =>
      obtain ⟨way, hway, rfl⟩ := Option.map_eq_some_iff.mp hplace
      obtain ⟨fs, rfl, hvalues⟩ := hS.map hplaces hschema h
      rw [List.foldlM_cons, List.foldlM_cons]
      unfold Pointer.step
      dsimp only [Value.bare]
      generalize Entries.get? es (String.ofList segment) = v?,
        Entries.get? fs (String.ofList segment) = w? at hway hvalues ⊢
      cases hvalues with
      | none => exact .error _
      | some hvalue => exact ih (hplaces.under _) hway hschema hvalue
    | list items =>
      obtain ⟨others, rfl, hitems⟩ := hS.list h
      rw [List.foldlM_cons, List.foldlM_cons]
      unfold Pointer.placeFrom at hplace
      unfold Pointer.step
      dsimp only [Value.bare] at hplace ⊢
      split
      · exact .error _
      · cases hindex : Pointer.index segment with
        | error e => exact .error e
        | ok i =>
          rw [hindex] at hplace
          obtain ⟨way, hway, rfl⟩ := Option.map_eq_some_iff.mp hplace
          have hitem := hitems i
          simp only [bind, Except.bind]
          generalize items[i]? = v?, others[i]? = w? at hway hitem ⊢
          cases hitem with
          | none => exact .error _
          | some hitem => exact ih (hplaces.under _) hway hschema hitem

/-- **A reference to a schema leads to related schemas**, or nowhere in either document. -/
theorem resolve (hS : Guides S T) {name : String} (hplaces : SchemasAt places)
    (hplace : Pointer.place? v name = some place) (hschema : places place) (h : S places v w) :
    Except.Relates T (Pointer.resolveValue v (.text name)) (Pointer.resolveValue w (.text name)) := by
  change Except.Relates T (Pointer.resolve v name) (Pointer.resolve w name)
  unfold Pointer.resolve
  unfold Pointer.place? at hplace
  cases hsegments : Pointer.segments? name.toList with
  | none => exact .error _
  | some segments =>
    rw [hsegments] at hplace
    exact hS.foldlM_step hplaces hplace hschema h

end Guides

/-! ### Respelled values -/

theorem getElem?_respellItems (marks : Marks) (items : List Value) (first i : Nat) :
    (respellItems marks first items)[i]? =
      items[i]?.map (respell (marks.under (.index (first + i)))) := by
  induction items generalizing first i with
  | nil => simp [respellItems]
  | cons x xs ih =>
    cases i with
    | zero => simp [respellItems]
    | succ i =>
      rw [respellItems, List.getElem?_cons_succ, List.getElem?_cons_succ, ih,
        Nat.add_right_comm, Nat.add_assoc]

/-- A map has the respelled values at its keys, other than those at which null is spelled. -/
theorem exists_respell_map {name : String} (hname : (marks []).isSome = true → name ∉ typeKeys)
    (es : Entries) :
    ∃ fs, respell marks (.map es) = .map fs ∧
      Entries.get? fs name = (es.get? name).map (respell (marks.under (.key name))) := by
  refine ⟨_, rfl, ?_⟩
  cases hmark : marks [] with
  | none => exact get?_respellEntries es name
  | some spelling =>
    rw [Option.elim_some, get?_respellNode (hname (hmark ▸ rfl)), get?_respellEntries]

/-- **References are followed alike in two spellings**, if only schemas are respelled. -/
theorem guides_respell :
    Guides (fun places v w => ∃ marks : Marks, (∀ place, (marks place).isSome = true → places place) ∧
      w = respell marks v) Respelled where
  refl := .refl
  schema := by
    rintro places v w hplaces hplace ⟨marks, hmarks, rfl⟩
    exact ⟨marks, fun way hway => hplaces [] way hplace (hmarks way hway), rfl⟩
  other := by
    rintro places v w ⟨marks, -, rfl⟩ hmap hlist
    cases v with
    | scalar | group | knot => rfl
    | map es => exact absurd rfl (hmap es)
    | list items => exact absurd rfl (hlist items)
  map := by
    rintro places es w name way hplaces hplace ⟨marks, hmarks, rfl⟩
    -- On the way to a schema from a marked one, the types are not looked at.
    have hname : (marks []).isSome = true → name ∉ typeKeys := by
      intro hmark hmem
      exact not_within_of_mem (List.mem_append_left _ hmem) _
        (hplaces [] _ (hmarks [] hmark) hplace)
    obtain ⟨fs, hfs, hget⟩ := exists_respell_map hname es
    exact ⟨fs, hfs, hget ▸ rel_map (fun v => ⟨_, fun _ hmark => hmarks _ hmark, rfl⟩) _⟩
  list := by
    rintro places items w ⟨marks, hmarks, rfl⟩
    refine ⟨_, rfl, fun i => ?_⟩
    rw [getElem?_respellItems, Nat.zero_add]
    exact rel_map (fun v => ⟨_, fun _ hmark => hmarks _ hmark, rfl⟩) _

/-! ### Two runs side by side -/

/-- The nodes of merges that agree differ in spelling only. -/
theorem MergePair.nodeSpellings {T : Value → Value → Prop} {merge other : Merge}
    (h : MergePair T merge other) : NodeSpellings T merge.node other.node where
  isEmpty := by
    rw [List.isEmpty_eq_false_iff.mpr merge.node_ne_nil,
      List.isEmpty_eq_false_iff.mpr other.node_ne_nil]
  hasKey := by
    intro name _
    rw [hasKey_text, hasKey_text, merge.get?_node, other.get?_node, h.required]
    split_ifs <;> rfl
  get? := fun name hname => h.get?_node fun heq => absurd (heq ▸ hname) (by decide)
  types := .same (h.get?_node (by decide)) (h.get?_node (by decide))
  properties := h.agreement.properties
  items := h.agreement.items
  extra := h.agreement.extra
  branches := h.agreement.branches

/-- Respelled schemas come down to nodes that differ in spelling only. -/
theorem companion_respelled : Companion Respelled (NodeSpellings Respelled) where
  refl := .refl
  other := keepsShape_respelled.other
  node := fun h hbare => h.exists_bare hbare
  agreement := NodeSpellings.agreement
  empty := .refl Respelled.refl []
  merge := MergePair.nodeSpellings

section

variable {document other schema schema' : Value} {mode : Mode} {room : Nat} {visited : List String}

/-- **A schema is compiled alike in two spellings** where the references that are followed lead to
schemas in two spellings. -/
theorem compileWithin_respelled (h : Respelled schema schema')
    (hrefs : ∀ name, .follows name ∈ compilationTrace document mode room schema visited →
      Except.Relates Respelled (Pointer.resolveValue document (.text name))
        (Pointer.resolveValue other (.text name))) :
    compileWithin document mode room schema visited =
      compileWithin other mode room schema' visited := by
  induction room generalizing schema schema' visited with
  | zero => rfl
  | succ room ih =>
    have hresolve := resolveWithin_of_companion companion_respelled h fun name hname =>
      hrefs name (mem_compilationTrace_of_resolution hname)
    refine compileWithin_of_relates keepsShape_respelled ?_ ?_
    · exact hresolve.mono fun r s _ _ hrs => hrs.1.nodePair Respelled.refl
    · intro r s hr hs c hc d _ hcd
      rw [hr, hs] at hresolve
      cases hresolve with
      | ok hrs =>
        rw [← hrs.2]
        exact ih hcd fun name hname => hrefs name (mem_compilationTrace_of_inner hr hc hname)

end

/-- **Both spellings of nullability are compiled alike**: a schema and a document with any of the
schemas in them respelled give the validator that they gave before, or fail as they failed before,
when the references that are followed address schemas. -/
theorem compile_respell {document schema : Value} {mode : Mode} {depth : Int}
    {visited : List String} {schemaMarks : Marks} (hplaces : SchemasAt places)
    (hmarks : ∀ place, (marks place).isSome = true → places place)
    (hschema : ∀ place, (schemaMarks place).isSome = true → Within place)
    (hrefs : ∀ name, .follows name ∈ compilationTrace document mode (room depth) schema visited →
      ∃ place, Pointer.place? document name = some place ∧ places place) :
    compile (respell marks document) (respell schemaMarks schema) mode depth visited =
      compile document schema mode depth visited := by
  refine (compileWithin_respelled ⟨schemaMarks, hschema, rfl⟩ fun name hname => ?_).symm
  obtain ⟨place, hplace, haddressed⟩ := hrefs name hname
  exact guides_respell.resolve hplaces hplace haddressed ⟨marks, hmarks, rfl⟩

/-! ### A document in two spellings -/

/-- The place of the schema of notes. -/
def notePlace : Place := [.key "components", .key "schemas", .key "Note"]

/-- The place of the schema of titles. -/
def titlePlace : Place := notePlace ++ [.key "properties", .key "title"]

theorem schemasAt_notes : SchemasAt (fun place => place = notePlace ∨ place = titlePlace) := by
  rintro place way (rfl | rfl) (hway | hway)
  · obtain rfl : way = [] := by simpa using hway
    exact .itself
  · rw [List.append_cancel_left hway]
    exact .property "title" .itself
  · cases congrArg List.length hway
  · obtain rfl : way = [] := by simpa using hway
    exact .itself

/-- A document that names a schema of notes, given the two schemas without what they have inside. -/
def titledDocument (note title : List (String × Value)) : Value :=
  .record [("components", .record [("schemas", .record [("Note",
    .record (note ++ [("properties", .record [("title", .record title)])]))])])]

/-- Notes and titles that may be null. -/
def nullableDocument : Value :=
  titledDocument [("type", .text "object"), ("nullable", .bool true)]
    [("type", .text "string"), ("nullable", .bool true)]

/-- The same document in the other spelling. -/
def listedDocument : Value :=
  titledDocument [("type", .list [.text "object", .text "null"])]
    [("type", .list [.text "null", .text "string"])]

/-- Lists of notes, given what is said of the list. -/
def notesSchema (list : List (String × Value)) : Value :=
  .record (list ++ [("items", .record [("$ref", .text "#/components/schemas/Note")])])

/-- How the document is respelled. -/
def noteMarks (place : Place) : Option Spelling :=
  if place = notePlace then some .nullLast
  else if place = titlePlace then some .nullFirst
  else none

/-- How the schema is respelled. -/
def rootMark (place : Place) : Option Spelling := if place = [] then some .nullLast else none

/-- The document and the schema of lists are compiled alike in both spellings. -/
theorem compile_respell_nullableDocument :
    respell noteMarks nullableDocument = listedDocument ∧
      respell rootMark (notesSchema [("type", .text "array"), ("nullable", .bool true)]) =
        notesSchema [("type", .list [.text "array", .text "null"])] ∧
      SchemasAt (fun place => place = notePlace ∨ place = titlePlace) ∧
      compile listedDocument (notesSchema [("type", .list [.text "array", .text "null"])])
          .input 0 [] =
        compile nullableDocument (notesSchema [("type", .text "array"), ("nullable", .bool true)])
          .input 0 [] := by
  have hdocument : respell noteMarks nullableDocument = listedDocument := by decide +kernel
  have hschema : respell rootMark
      (notesSchema [("type", .text "array"), ("nullable", .bool true)]) =
        notesSchema [("type", .list [.text "array", .text "null"])] := by decide +kernel
  refine ⟨hdocument, hschema, schemasAt_notes, ?_⟩
  rw [← hdocument, ← hschema]
  refine compile_respell schemasAt_notes (fun place hsome => ?_) (fun place hsome => ?_)
    fun name hname => ?_
  · unfold noteMarks at hsome
    split_ifs at hsome with hnote htitle
    · exact .inl hnote
    · exact .inr htitle
    · cases hsome
  · unfold rootMark at hsome
    split_ifs at hsome with hroot
    · exact hroot ▸ .itself
    · cases hsome
  · have htrace : compilationTrace nullableDocument .input (room 0)
        (notesSchema [("type", .text "array"), ("nullable", .bool true)]) [] =
          [.follows "#/components/schemas/Note"] := rfl
    rw [htrace, List.mem_singleton] at hname
    cases hname
    exact ⟨notePlace, rfl, .inl rfl⟩

end Schema

end ApiTools
