import ApiTools.JsonSchema.Place
import ApiTools.Proofs.Schema.Agreement
import ApiTools.Proofs.Schema.Drift

/-!
# Two spellings of nullability

A node admits null because it says so under a key of its own, or because null is one of its types.
Both spellings are read alike: the kind of the node, what it lists and what it composes do not
depend on which one was chosen, neither for the node nor for the schemas in it.

## Main definitions

* `Schema.Spelling` — the orders in which a type and null can be listed.
* `Schema.Within` — the ways from a schema to the schemas in it.
* `Schema.respell` — a value with the marked schemas in it spelled by lists of types.
* `Schema.Respelled` — a schema, and the same schema with some schemas in it respelled.
* `Schema.NodeSpellings` — two nodes that differ in spelling only.

## Main results

* `Schema.nodeSpellings_respell` — a node and its respelled form differ in spelling only.
* `Schema.NodeSpellings.agreement`, `Schema.NodeSpellings.nodePair` — **nodes that differ in spelling
  only agree, and are read alike.**
-/

namespace ApiTools

namespace Schema

/-! ### Respelling -/

/-- The orders in which a type and null can be listed. -/
inductive Spelling where
  /-- The type, then null. -/
  | nullLast
  /-- Null, then the type. -/
  | nullFirst

/-- A type and null as a list of types. -/
def Spelling.types (spelling : Spelling) (type : String) : Value :=
  match spelling with
  | nullLast => .list [.text type, .text "null"]
  | nullFirst => .list [.text "null", .text type]

/-- A node with the null that it admits listed among its types. A node of another form than one type
and a mark for null stays as it is. -/
def respellNode (spelling : Spelling) (node : Entries) : Entries :=
  match node.get? "type", node.get? "nullable" with
  | some (.text type), some (.bool true) =>
    (node.without (.text "nullable")).insert (.text "type") (spelling.types type)
  | _, _ => node

/-- How the schemas at places are to be spelled, where they are to be respelled. -/
abbrev Marks := Place → Option Spelling

/-- The marks below a step. -/
def Marks.under (marks : Marks) (step : Step) : Marks := fun place => marks (step :: place)

/-- The marks below a key; there are none below a key that is no text. -/
def Marks.underKey (marks : Marks) : Scalar → Marks
  | .text name => marks.under (.key name)
  | _ => fun _ => none

mutual

/-- A value with the nodes at the marked places respelled. -/
def respell (marks : Marks) : Value → Value
  | .list items => .list (respellItems marks 0 items)
  | .map node =>
    let inside := respellEntries marks node
    .map ((marks []).elim inside fun spelling => respellNode spelling inside)
  | .scalar s => .scalar s
  | .group form items => .group form items
  | .knot label inside => .knot label inside

/-- The items of a list from an index on, respelled. -/
def respellItems (marks : Marks) (i : Nat) : List Value → List Value
  | [] => []
  | x :: xs => respell (marks.under (.index i)) x :: respellItems marks (i + 1) xs

/-- The entries of a map, respelled. -/
def respellEntries (marks : Marks) : List (Scalar × Value) → List (Scalar × Value)
  | [] => []
  | (key, x) :: es => (key, respell (marks.underKey key) x) :: respellEntries marks es

end

/-! ### Where schemas are -/

/-- The keys at which the null that a node admits is spelled. -/
def typeKeys : List String := ["type", "nullable"]

/-- The keys at which a node has the schemas that it is compiled from. -/
def schemaKeys : List String := ["properties", "items", "additionalProperties", "allOf"]

/-- The keys at which a node has other values that are read. -/
def dataKeys : List String := ["$ref", "enum", "required", "description", "example"]

/-- The ways from a schema to places where schemas can be: the schemas that it is compiled from, and
whatever stands under keys that are not read. -/
inductive Within : Place → Prop where
  /-- To the schema itself. -/
  | itself : Within []
  /-- Into the schema of a property. -/
  | property {place : Place} (name : String) (h : Within place) :
    Within (.key "properties" :: .key name :: place)
  /-- Into the schema of the items. -/
  | items {place : Place} (h : Within place) : Within (.key "items" :: place)
  /-- Into the schema of undeclared keys. -/
  | extra {place : Place} (h : Within place) : Within (.key "additionalProperties" :: place)
  /-- Into a branch of a composition. -/
  | branch {place : Place} (i : Nat) (h : Within place) : Within (.key "allOf" :: .index i :: place)
  /-- Under a key that is not read. -/
  | unread {place : Place} (name : String) (hname : name ∉ typeKeys ++ schemaKeys ++ dataKeys) :
    Within (.key name :: place)

/-- What a way into a schema goes through first. -/
theorem within_key_iff {name : String} {place : Place} :
    Within (.key name :: place) ↔
      (name = "properties" ∧ ∃ key rest, place = .key key :: rest ∧ Within rest) ∨
      (name = "items" ∧ Within place) ∨ (name = "additionalProperties" ∧ Within place) ∨
      (name = "allOf" ∧ ∃ i rest, place = .index i :: rest ∧ Within rest) ∨
      name ∉ typeKeys ++ schemaKeys ++ dataKeys := by
  constructor
  · generalize hway : Step.key name :: place = way
    rintro (_ | ⟨key, h⟩ | h | h | ⟨i, h⟩ | ⟨_, hname⟩) <;> cases hway
    · exact .inl ⟨rfl, key, _, rfl, h⟩
    · exact .inr (.inl ⟨rfl, h⟩)
    · exact .inr (.inr (.inl ⟨rfl, h⟩))
    · exact .inr (.inr (.inr (.inl ⟨rfl, i, _, rfl, h⟩)))
    · exact .inr (.inr (.inr (.inr hname)))
  · rintro (⟨rfl, key, rest, rfl, h⟩ | ⟨rfl, h⟩ | ⟨rfl, h⟩ | ⟨rfl, i, rest, rfl, h⟩ | hname)
    · exact .property key h
    · exact .items h
    · exact .extra h
    · exact .branch i h
    · exact .unread name hname

/-- No way into a schema goes through a value that is read as such. -/
theorem not_within_of_mem {name : String} (hname : name ∈ typeKeys ++ dataKeys) (place : Place) :
    ¬Within (.key name :: place) := by
  rw [within_key_iff]
  revert name
  simp only [typeKeys, schemaKeys, dataKeys]
  simp

theorem within_properties_iff {place : Place} :
    Within (.key "properties" :: place) ↔ ∃ key rest, place = .key key :: rest ∧ Within rest := by
  simp [within_key_iff, typeKeys, schemaKeys]

theorem within_items_iff {place : Place} : Within (.key "items" :: place) ↔ Within place := by
  simp [within_key_iff, typeKeys, schemaKeys]

theorem within_extra_iff {place : Place} :
    Within (.key "additionalProperties" :: place) ↔ Within place := by
  simp [within_key_iff, typeKeys, schemaKeys]

theorem within_branch_iff {place : Place} :
    Within (.key "allOf" :: place) ↔ ∃ i rest, place = .index i :: rest ∧ Within rest := by
  simp [within_key_iff, typeKeys, schemaKeys]

theorem not_within_index {i : Nat} {place : Place} : ¬Within (.index i :: place) := nofun

namespace Marks

/-- Nothing is marked. -/
def Blank (marks : Marks) : Prop := ∀ place, marks place = none

/-- Only the schemas in a schema are marked. -/
def OnSchemas (marks : Marks) : Prop := ∀ place, (marks place).isSome = true → Within place

variable {marks : Marks}

theorem Blank.under (h : marks.Blank) (step : Step) : (marks.under step).Blank :=
  fun place => h (step :: place)

theorem Blank.underKey (h : marks.Blank) (key : Scalar) : (marks.underKey key).Blank := by
  cases key with
  | text name => exact h.under (.key name)
  | null | bool | int | double | stamp | bytes => exact fun _ => rfl

end Marks

variable {marks : Marks}

/-! ### What respelling does to a value -/

/-- Where nothing is marked, nothing changes. -/
theorem respell_of_blank (h : marks.Blank) (v : Value) : respell marks v = v := by
  induction v using Value.inductionOn generalizing marks with
  | scalar | group | knot => rfl
  | list items ih =>
    have hitems : ∀ i, respellItems marks i items = items := by
      induction items with
      | nil => exact fun _ => rfl
      | cons x xs ihxs =>
        intro i
        rw [respellItems, ih x List.mem_cons_self (h.under _),
          ihxs fun y hy => ih y (List.mem_cons_of_mem _ hy)]
    rw [respell, hitems]
  | map es ih =>
    have hentries : respellEntries marks es = es := by
      induction es with
      | nil => rfl
      | cons e es ihes =>
        rw [respellEntries, ih e List.mem_cons_self (h.underKey _),
          ihes fun f hf => ih f (List.mem_cons_of_mem _ hf)]
    rw [respell, hentries, h]
    rfl

/-- The items of a list are respelled one by one. -/
theorem forall₂_respellItems {T : Value → Value → Prop}
    (h : ∀ i x, T x (respell (marks.under (.index i)) x)) (items : List Value) (i : Nat) :
    List.Forall₂ T items (respellItems marks i items) := by
  induction items generalizing i with
  | nil => exact .nil
  | cons x xs ih => exact .cons (h i x) (ih (i + 1))

/-- The entries of a map are respelled one by one, and keep their keys. -/
theorem entriesPair_respellEntries {T : Value → Value → Prop}
    (h : ∀ key x, T x (respell (marks.underKey key) x)) (es : Entries) :
    EntriesPair T es (respellEntries marks es) := by
  induction es with
  | nil => exact .nil
  | cons e es ih => exact .cons ⟨rfl, h e.1 e.2⟩ ih

theorem get?_respellEntries (es : Entries) (name : String) :
    Entries.get? (respellEntries marks es) name =
      (es.get? name).map (respell (marks.under (.key name))) := by
  induction es with
  | nil => rfl
  | cons e es ih =>
    unfold Entries.get? Entries.find? at ih ⊢
    rw [respellEntries, List.find?_cons, List.find?_cons]
    cases halike : e.1.alike (.text name) with
    | false => exact ih
    | true =>
      rw [Scalar.alike_text_iff.mp halike]
      rfl

/-- A list stays as it is where no item is marked. -/
theorem respell_list_of_blank (h : ∀ i, (marks.under (.index i)).Blank) (items : List Value) :
    respell marks (.list items) = .list items := by
  have hitems := forall₂_respellItems (T := Eq) (fun i x => (respell_of_blank (h i) x).symm) items 0
  rw [List.forall₂_eq_eq_eq] at hitems
  rw [respell, ← hitems]

/-- A map keeps its keys where it is not marked itself. -/
theorem respell_map_of_none (h : marks [] = none) (es : Entries) :
    respell marks (.map es) = .map (respellEntries marks es) := by
  rw [respell, h]
  rfl

/-- A map stays as it is where it is not marked itself, and neither is any value in it. -/
theorem respell_map_of_blank (h : marks [] = none) (hkeys : ∀ key, (marks.underKey key).Blank)
    (es : Entries) : respell marks (.map es) = .map es := by
  have hentries := entriesPair_respellEntries (T := Eq)
    (fun key x => (respell_of_blank (hkeys key) x).symm) es
  rw [respell_map_of_none h]
  have hsame := hentries.imp fun e f hef => Prod.ext hef.1 hef.2
  rw [List.forall₂_eq_eq_eq] at hsame
  rw [← hsame]

/-! ### Nodes in two spellings -/

/-- A schema, and the same schema with some of the schemas in it respelled. -/
def Respelled (c d : Value) : Prop := ∃ marks : Marks, marks.OnSchemas ∧ d = respell marks c

theorem Respelled.refl (c : Value) : Respelled c c :=
  ⟨fun _ => none, nofun, (respell_of_blank (fun _ => rfl) c).symm⟩

/-- Two nodes have the same types, in one spelling or in two. -/
inductive SameTypes (node other : Entries) : Prop where
  /-- In one spelling. -/
  | same (htype : other.get? "type" = node.get? "type")
    (hnull : other.get? "nullable" = node.get? "nullable")
  /-- In two spellings. -/
  | listed (spelling : Spelling) (type : String) (htype : node.get? "type" = some (.text type))
    (hnull : node.get? "nullable" = some (.bool true))
    (htypes : other.get? "type" = some (spelling.types type))
    (hnone : other.get? "nullable" = none)

/-- Two nodes that differ in spelling only, up to the schemas in them. -/
structure NodeSpellings (T : Value → Value → Prop) (node other : Entries) : Prop where
  /-- Both are empty, or neither is. -/
  isEmpty : node.isEmpty = other.isEmpty
  /-- They have the same keys. -/
  hasKey : ∀ name ∉ typeKeys, node.hasKey (.text name) = other.hasKey (.text name)
  /-- They have the same values that are read as such. -/
  get? : ∀ name ∈ dataKeys, other.get? name = node.get? name
  /-- They have the same types. -/
  types : SameTypes node other
  /-- They declare the same properties. -/
  properties : Option.Rel (MapPair T) (node.get? "properties") (other.get? "properties")
  /-- The schemas of items are related. -/
  items : Option.Rel T (node.get? "items") (other.get? "items")
  /-- What they say of undeclared keys is related. -/
  extra : Option.Rel T (node.get? "additionalProperties") (other.get? "additionalProperties")
  /-- They compose related branches. -/
  branches : Option.Rel (ListPair T) (node.get? "allOf") (other.get? "allOf")

section

variable {node : Entries} {spelling : Spelling} {name : String}

theorem isEmpty_of_get? {v : Value} (h : Entries.get? node name = some v) :
    node.isEmpty = false := by
  cases node with
  | nil => cases h
  | cons => rfl

theorem get?_respellNode (hname : name ∉ typeKeys) :
    (respellNode spelling node).get? name = node.get? name := by
  obtain ⟨htype, hnull⟩ : name ≠ "type" ∧ name ≠ "nullable" := by simpa [typeKeys] using hname
  unfold respellNode
  split
  · rw [Entries.get?_insert, if_neg htype, Entries.get?_without, if_neg hnull]
  · rfl

/-- A respelled node has the same types. -/
theorem sameTypes_respellNode (spelling : Spelling) (node : Entries) :
    SameTypes node (respellNode spelling node) := by
  unfold respellNode
  split
  · next type htype hnull =>
    refine .listed spelling type htype hnull ?_ ?_
    · rw [Entries.get?_insert, if_pos rfl]
    · rw [Entries.get?_insert, if_neg (by decide), Entries.get?_without, if_pos rfl]
  · exact .same rfl rfl

theorem isEmpty_respellNode : (respellNode spelling node).isEmpty = node.isEmpty := by
  unfold respellNode
  split
  · next type htype hnull =>
    have hget : Entries.get? ((node.without (.text "nullable")).insert (.text "type")
        (spelling.types type)) "type" = some (spelling.types type) := by
      rw [Entries.get?_insert, if_pos rfl]
    rw [isEmpty_of_get? htype, isEmpty_of_get? hget]
  · rfl

end

/-! ### Where schemas are in a node -/

namespace Marks

theorem eq_none_of_not_within (h : marks.OnSchemas) {place : Place} (hplace : ¬Within place) :
    marks place = none := by
  rw [← Option.not_isSome_iff_eq_none]
  exact fun hsome => hplace (h place hsome)

namespace OnSchemas

variable (h : marks.OnSchemas)

include h

theorem blank_under_of_mem {name : String} (hname : name ∈ typeKeys ++ dataKeys) :
    (marks.under (.key name)).Blank :=
  fun place => eq_none_of_not_within h (not_within_of_mem hname place)

theorem items : (marks.under (.key "items")).OnSchemas :=
  fun _ hsome => within_items_iff.mp (h _ hsome)

theorem extra : (marks.under (.key "additionalProperties")).OnSchemas :=
  fun _ hsome => within_extra_iff.mp (h _ hsome)

/-- The values of a map of properties are schemas. -/
theorem mapPair (v : Value) :
    MapPair Respelled v (respell (marks.under (.key "properties")) v) := by
  have hroot : marks.under (.key "properties") [] = none :=
    eq_none_of_not_within h (by simp [within_properties_iff])
  cases v with
  | scalar | group | knot => exact .refl _
  | list items =>
    have hblank : ∀ i, ((marks.under (.key "properties")).under (.index i)).Blank :=
      fun i place => eq_none_of_not_within h (by simp [within_properties_iff])
    rw [respell_list_of_blank hblank]
    exact .refl _
  | map es =>
    rw [respell_map_of_none hroot]
    refine .map (entriesPair_respellEntries (fun key x => ⟨_, ?_, rfl⟩) es)
    intro place hsome
    cases key with
    | text name => simpa [within_properties_iff] using h _ hsome
    | null | bool | int | double | stamp | bytes => cases hsome

/-- The items of a list of branches are schemas. -/
theorem listPair (v : Value) : ListPair Respelled v (respell (marks.under (.key "allOf")) v) := by
  have hroot : marks.under (.key "allOf") [] = none :=
    eq_none_of_not_within h (by simp [within_branch_iff])
  cases v with
  | scalar | group | knot => exact .refl _
  | list items =>
    refine .list (forall₂_respellItems (fun i x => ⟨_, ?_, rfl⟩) items 0)
    intro place hsome
    simpa [within_branch_iff] using h _ hsome
  | map es =>
    have hblank : ∀ key, ((marks.under (.key "allOf")).underKey key).Blank := by
      intro key place
      cases key with
      | text name => exact eq_none_of_not_within h (by simp [within_branch_iff])
      | null | bool | int | double | stamp | bytes => rfl
    rw [respell_map_of_blank hroot hblank]
    exact .refl _

/-- No list is a schema. -/
theorem respell_list (items : List Value) : respell marks (.list items) = .list items :=
  respell_list_of_blank (fun _ _ => eq_none_of_not_within h not_within_index) items

end OnSchemas

end Marks

theorem rel_map {T : Value → Value → Prop} {f : Value → Value} (h : ∀ v, T v (f v))
    (o : Option Value) : Option.Rel T o (o.map f) := by
  cases o with
  | none => exact .none
  | some v => exact .some (h v)

/-- A node keeps what is no schema in it. -/
theorem get?_respellEntries_of_mem (h : marks.OnSchemas) (name : String)
    (hname : name ∈ typeKeys ++ dataKeys) (node : Entries) :
    Entries.get? (respellEntries marks node) name = node.get? name := by
  rw [get?_respellEntries, funext (respell_of_blank (h.blank_under_of_mem hname))]
  exact Option.map_id'

/-- A node whose values are respelled differs from it in spelling only. -/
theorem nodeSpellings_respellEntries (h : marks.OnSchemas) (node : Entries) :
    NodeSpellings Respelled node (respellEntries marks node) := by
  have hget := fun name (hname : name ∈ typeKeys ++ dataKeys) =>
    get?_respellEntries_of_mem h name hname node
  refine ⟨?_, fun name _ => ?_, fun name hname => hget name (List.mem_append_right _ hname),
    .same (hget _ (by decide)) (hget _ (by decide)), ?_, ?_, ?_, ?_⟩
  · cases node <;> rfl
  · rw [hasKey_text, hasKey_text, get?_respellEntries, Option.isSome_map]
  · exact get?_respellEntries node _ ▸ rel_map h.mapPair _
  · exact get?_respellEntries node _ ▸ rel_map (fun v => ⟨_, h.items, rfl⟩) _
  · exact get?_respellEntries node _ ▸ rel_map (fun v => ⟨_, h.extra, rfl⟩) _
  · exact get?_respellEntries node _ ▸ rel_map h.listPair _

/-- **A node and its respelled form differ in spelling only.** -/
theorem nodeSpellings_respell (h : marks.OnSchemas) (node : Entries) :
    NodeSpellings Respelled node ((marks []).elim (respellEntries marks node)
      fun spelling => respellNode spelling (respellEntries marks node)) := by
  have hinside := nodeSpellings_respellEntries h node
  cases marks [] with
  | none => exact hinside
  | some spelling =>
    rw [Option.elim_some]
    have hget : ∀ name ∈ schemaKeys ++ dataKeys,
        (respellNode spelling (respellEntries marks node)).get? name =
          Entries.get? (respellEntries marks node) name := by
      intro name hname
      exact get?_respellNode (by revert name; decide)
    refine ⟨?_, fun name hname => ?_, fun name hname => ?_, ?_, ?_, ?_, ?_, ?_⟩
    · rw [isEmpty_respellNode]
      exact hinside.isEmpty
    · rw [hasKey_text (respellNode _ _), get?_respellNode hname, ← hasKey_text]
      exact hinside.hasKey name hname
    · rw [hget name (List.mem_append_right _ hname), hinside.get? name hname]
    · have htype := get?_respellEntries_of_mem h "type" (by decide) node
      have hnull := get?_respellEntries_of_mem h "nullable" (by decide) node
      cases sameTypes_respellNode spelling (respellEntries marks node) with
      | same htype' hnull' => exact .same (htype'.trans htype) (hnull'.trans hnull)
      | listed spelling type htype' hnull' htypes hnone =>
        exact .listed spelling type (htype ▸ htype') (hnull ▸ hnull') htypes hnone
    · exact hget "properties" (by decide) ▸ hinside.properties
    · exact hget "items" (by decide) ▸ hinside.items
    · exact hget "additionalProperties" (by decide) ▸ hinside.extra
    · exact hget "allOf" (by decide) ▸ hinside.branches

theorem NodeSpellings.refl {T : Value → Value → Prop} (hrefl : ∀ c, T c c) (node : Entries) :
    NodeSpellings T node node :=
  ⟨rfl, fun _ _ => rfl, fun _ _ => rfl, .same rfl rfl, rel_refl .refl _, rel_refl hrefl _,
    rel_refl hrefl _, rel_refl .refl _⟩

/-- Only maps change. -/
theorem Respelled.eq_or_map {c d : Value} (h : Respelled c d) :
    c = d ∨ ∃ es fs, c = .map es ∧ d = .map fs ∧ NodeSpellings Respelled es fs := by
  obtain ⟨marks, hmarks, rfl⟩ := h
  cases c with
  | scalar | group | knot => exact .inl rfl
  | list items => exact .inl (hmarks.respell_list items).symm
  | map es => exact .inr ⟨es, _, rfl, rfl, nodeSpellings_respell hmarks es⟩

/-- Respelled schemas are read alike as parts of a node. -/
theorem keepsShape_respelled : KeepsShape Respelled where
  truthy := by
    intro c d h
    rcases h.eq_or_map with rfl | ⟨es, fs, rfl, rfl, hspellings⟩
    · rfl
    · exact congrArg not hspellings.isEmpty
  map := by
    intro c d es h hbare
    rcases h.eq_or_map with rfl | ⟨es, fs, rfl, rfl, -⟩
    · exact ⟨es, hbare⟩
    · exact ⟨fs, rfl⟩
  other := by
    intro c d h hbare
    rcases h.eq_or_map with rfl | ⟨es, fs, rfl, rfl, -⟩
    · rfl
    · exact absurd rfl (hbare es)

/-- So are the nodes that they are. -/
theorem Respelled.exists_bare {c d : Value} (h : Respelled c d) {es : Entries}
    (hbare : c.bare = .map es) : ∃ fs, d.bare = .map fs ∧ NodeSpellings Respelled es fs := by
  rcases h.eq_or_map with rfl | ⟨es, fs, rfl, rfl, hspellings⟩
  · exact ⟨es, hbare, .refl Respelled.refl es⟩
  · cases hbare
    exact ⟨fs, rfl, hspellings⟩

/-! ### What nodes in two spellings say -/

namespace SameTypes

variable {node other : Entries} (h : SameTypes node other)

include h

/-- The types are the same, but that null alone is no type in a list. -/
theorem declaredTypes :
    (Schema.declaredTypes node).1 = (Schema.declaredTypes other).1 ∨
      ((Schema.declaredTypes node).1 = ["null"] ∧ (Schema.declaredTypes other).1 = []) := by
  cases h with
  | same htype hnull =>
    unfold Schema.declaredTypes
    rw [htype]
    exact .inl rfl
  | listed spelling type htype hnull htypes hnone =>
    unfold Schema.declaredTypes
    rw [htype, htypes]
    by_cases hname : type = "null"
    · subst hname
      cases spelling <;> exact .inr ⟨rfl, rfl⟩
    · have hkept : Option.filter (· != "null") (some type) = some type := by
        simp [Option.filter, hname]
      refine .inl ?_
      cases spelling <;>
        simp [Spelling.types, Value.bare, Value.text?, hkept]

theorem isNullable : Schema.isNullable node = Schema.isNullable other := by
  unfold Schema.isNullable
  cases h with
  | same htype hnull =>
    unfold Schema.declaredTypes
    rw [htype, hnull]
  | listed spelling type htype hnull htypes hnone =>
    have hlisted : (Schema.declaredTypes other).2 = true := by
      unfold Schema.declaredTypes
      rw [htypes]
      cases spelling <;> simp [Spelling.types, Value.bare, Value.alike, Value.equalBy]
    rw [hnull, hlisted, Bool.or_true]
    rfl

end SameTypes

namespace NodeSpellings

variable {T : Value → Value → Prop} {node other : Entries}

/-- Nodes that differ in spelling only agree. -/
theorem agreement (h : NodeSpellings T node other) : NodeAgreement T node other where
  get? := fun name hname => h.get? name (by revert name; decide)
  choice := fun name hname => h.hasKey name (by revert name; decide)
  types := h.types.declaredTypes
  isNullable := h.types.isNullable
  properties := h.properties
  items := h.items
  extra := h.extra
  branches := h.branches

/-- **Nodes that differ in spelling only are read alike.** -/
theorem nodePair (hrefl : ∀ c, T c c) (h : NodeSpellings T node other) : NodePair T node other where
  toNodeReading := h.agreement.nodeReading hrefl
  isEmpty := h.isEmpty
  documentation := by
    unfold documentation
    rw [h.get? "description" (by decide), h.get? "example" (by decide)]

end NodeSpellings

end Schema

end ApiTools
