import ApiTools.Json.Writer
import ApiTools.Proofs.Text.CodePoint
import ApiTools.Proofs.Value.Plain

/-!
# Values of JSON

A value is one of JSON when it is built by lists and maps from null, truth values, numbers and
joined texts, and each map has distinct joined texts as its keys.  Such a value reads back from its
written form as it is, as the halves in its texts are not those of pairs; its numbers need not be
finite, but those of what is sent are.

## Main definitions

* `Value.isJson` — whether a value is one of JSON.
* `Value.IsFiniteJson`, `Value.IsWritable` — a value of JSON with finite numbers only, and one whose
  integers are not too long.

## Main results

* `Value.hereditary_isJson`, `Value.hereditary_isFiniteJson`, `Value.hereditary_isWritable` — what
  is read from such a value is one, too.
* `Value.exists_shown_iff` — a value is put into running text when its integers are not too long.
* `Json.eq_of_plain` — **a value of JSON reads back as it is.**
-/

namespace ApiTools

/-- Whether JSON has a scalar: it has neither moments nor bytes, and it joins the halves of pairs. -/
def Scalar.isJson : Scalar → Bool
  | .stamp _ | .bytes _ => false
  | .text s => Text.isJoined s
  | .null | .bool _ | .int _ | .double _ => true

namespace Value

mutual

/-- Whether a value is built from scalars of JSON by lists and maps with distinct joined texts as
keys. -/
def isJson : Value → Bool
  | .scalar s => s.isJson
  | .list items => allJson items
  | .map entries => entriesJson entries
  | .group _ _ | .knot _ _ => false

/-- Whether all items of a list are values of JSON. -/
def allJson : List Value → Bool
  | [] => true
  | x :: xs => isJson x && allJson xs

/-- Whether entries have distinct joined texts as keys, and values of JSON. -/
def entriesJson : List (Scalar × Value) → Bool
  | [] => true
  | (key, x) :: es =>
    (Value.scalar key).text?.any Text.isJoined && !(es.any fun e => key.alike e.1) && isJson x
      && entriesJson es

end

theorem isJson_list {items : List Value} :
    (Value.list items).isJson = true ↔ ∀ x ∈ items, x.isJson = true := by
  rw [isJson]
  induction items with
  | nil => simp [allJson]
  | cons x xs ih => simp [allJson, ih]

theorem scalar?_eq_some_iff {v : Value} {key : Scalar} : v.scalar? = some key ↔ v = .scalar key := by
  cases v <;> simp [scalar?]

theorem text?_eq_some_iff {v : Value} {s : String} : v.text? = some s ↔ v = .text s := by
  cases v with
  | scalar key => cases key <;> simp [text?]
  | list | map | group | knot => simp [text?]

/-- A key of a map of JSON: a text in which no halves of a pair are left to be joined. -/
def IsName (key : Scalar) : Prop := ∃ name, key = .text name ∧ Text.isJoined name = true

theorem any_text?_scalar_iff {key : Scalar} :
    (Value.scalar key).text?.any Text.isJoined = true ↔ IsName key := by
  rw [Option.any_eq_true, IsName]
  simp only [text?_eq_some_iff, Value.scalar.injEq]

theorem isJson_map {es : Entries} :
    (Value.map es).isJson = true ↔ Scalar.DistinctKeys es ∧ (∀ e ∈ es, IsName e.1) ∧
      ∀ e ∈ es, e.2.isJson = true := by
  rw [isJson]
  induction es with
  | nil => simp [entriesJson]
  | cons e es ih =>
    obtain ⟨key, x⟩ := e
    simp only [entriesJson, Bool.and_eq_true, ih, Scalar.distinctKeys_cons, List.forall_mem_cons,
      Bool.not_eq_true', List.any_eq_false, Bool.not_eq_true, any_text?_scalar_iff]
    tauto

/-- A value of JSON is plain. -/
theorem isPlain_of_isJson {v : Value} (h : v.isJson = true) : v.isPlain = true := by
  induction v using inductionOn with
  | scalar s => exact isPlain_scalar s
  | list items ih => exact isPlain_list.mpr fun x hx => ih x hx (isJson_list.mp h x hx)
  | map es ih =>
    obtain ⟨hdistinct, -, hvalues⟩ := isJson_map.mp h
    exact isPlain_map.mpr ⟨hdistinct, fun e he => ih e he (hvalues e he)⟩
  | group | knot => simp [isJson] at h

/-! ### Values in running text -/

theorem fits_list {items : List Value} :
    (Value.list items).fits = true ↔ ∀ x ∈ items, x.fits = true := by
  rw [fits]
  induction items with
  | nil => simp [allFit]
  | cons x xs ih => simp [allFit, ih]

theorem fits_map {es : Entries} :
    (Value.map es).fits = true ↔ ∀ e ∈ es, scalarFits e.1 = true ∧ e.2.fits = true := by
  rw [fits]
  induction es with
  | nil => simp [entriesFit]
  | cons e es ih => simp [entriesFit, ih, and_assoc]

/-- A value is put into running text when its integers are not too long. -/
theorem exists_shown_iff {v : Value} : (∃ text, v.shown = .ok text) ↔ v.fits = true := by
  unfold shown
  split
  · next hfits => exact iff_of_true ⟨_, rfl⟩ hfits
  · next hlong => exact iff_of_false (fun ⟨_, h⟩ => nomatch h) hlong

theorem failsOnly_shown (v : Value) : v.shown.FailsOnly (·.abortsGeneration = false) := by
  unfold shown
  split
  · exact .ok _
  · exact .error rfl

/-! ### What is read from values of JSON -/

theorem isJson_part {x y : Value} (h : x.isJson = true) (hy : x.Part y) : y.isJson = true := by
  cases hy with
  | entry he => exact (isJson_map.mp h).2.2 _ he
  | item hy => exact isJson_list.mp h _ hy
  | inside => simp [isJson] at h

theorem isJson_elements {v : Value} (h : v.isJson = true) {items : List Value}
    (hitems : v.elements = .ok items) : ∀ x ∈ items, x.isJson = true := by
  unfold elements at hitems
  rw [bare_of_isPlain (isPlain_of_isJson h)] at hitems
  split at hitems <;> cases hitems
  · exact isJson_list.mp h
  · simp [isJson] at h
  · intro x hx
    obtain ⟨e, he, rfl⟩ := List.mem_map.mp hx
    obtain ⟨name, hname, hjoined⟩ := (isJson_map.mp h).2.1 e he
    rw [hname]
    exact hjoined
  · intro x hx
    obtain ⟨point, -, rfl⟩ := List.mem_map.mp hx
    exact Text.isJoined_ofPoints_singleton point
  · intro x hx
    obtain ⟨byte, -, rfl⟩ := List.mem_map.mp hx
    rfl

/-- **Being a value of JSON is hereditary.** -/
theorem hereditary_isJson : Hereditary fun v => v.isJson = true :=
  ⟨isPlain_of_isJson, isJson_part, fun h hitems => isJson_elements h hitems, rfl, rfl, rfl⟩

/-- **So is being one of which something is said** that holds of a list or a map exactly when it
holds of the values in it. -/
theorem hereditary_isJson_and {Q : Value → Prop} (hnull : Q .null)
    (htext : ∀ s, Text.isJoined s = true → Q (.text s))
    (hlist : ∀ {items : List Value}, Q (.list items) ↔ ∀ x ∈ items, Q x)
    (hmap : ∀ {es : Entries}, (∀ e ∈ es, IsName e.1) → (Q (.map es) ↔ ∀ e ∈ es, Q e.2)) :
    Hereditary fun v => v.isJson = true ∧ Q v where
  isPlain h := isPlain_of_isJson h.1
  part h hy := by
    refine ⟨isJson_part h.1 hy, ?_⟩
    cases hy with
    | entry he => exact (hmap (isJson_map.mp h.1).2.1).mp h.2 _ he
    | item hy => exact hlist.mp h.2 _ hy
    | inside => simp [isJson] at h
  elements {v items} h hitems x hx := by
    refine ⟨isJson_elements h.1 hitems x hx, ?_⟩
    unfold elements at hitems
    rw [bare_of_isPlain (isPlain_of_isJson h.1)] at hitems
    split at hitems <;> cases hitems
    · exact hlist.mp h.2 x hx
    · simp [isJson] at h
    · obtain ⟨e, he, rfl⟩ := List.mem_map.mp hx
      obtain ⟨name, hname, hjoined⟩ := (isJson_map.mp h.1).2.1 e he
      exact hname ▸ htext name hjoined
    · obtain ⟨point, -, rfl⟩ := List.mem_map.mp hx
      exact htext _ (Text.isJoined_ofPoints_singleton point)
    · simp [isJson, Scalar.isJson] at h
  null := ⟨rfl, hnull⟩
  noItems := ⟨rfl, hlist.mpr nofun⟩
  noEntries := ⟨rfl, (hmap (List.forall_mem_nil _)).mpr (List.forall_mem_nil _)⟩

/-- A property of truth values, joined texts and nothing, and of lists and maps of values that have
it; and of values of JSON only. -/
structure Recordable (P : Value → Prop) : Prop where
  /-- Only values of JSON have it. -/
  isJson : ∀ {v}, P v → v.isJson = true
  /-- Nothing has it. -/
  null : P .null
  /-- A truth value has it. -/
  bool : ∀ b, P (.bool b)
  /-- A joined text has it. -/
  text : ∀ {s}, Text.isJoined s = true → P (.text s)
  /-- A list of values that have it has it. -/
  list : ∀ {items : List Value}, (∀ x ∈ items, P x) → P (.list items)
  /-- So has a map whose keys are distinct joined texts. -/
  map : ∀ {es : Entries}, Scalar.DistinctKeys es → (∀ e ∈ es, IsName e.1) → (∀ e ∈ es, P e.2) →
    P (.map es)

/-- Distinct joined texts, as the names of a record are. -/
def AreNames (names : List String) : Prop := names.Nodup ∧ ∀ name ∈ names, Text.isJoined name = true

instance (names : List String) : Decidable (AreNames names) := inferInstanceAs (Decidable (_ ∧ _))

/-- A record with distinct joined names has it when its fields have it. -/
theorem Recordable.record {P : Value → Prop} (hP : Recordable P) {fields : List (String × Value)}
    (hnames : AreNames (fields.map (·.1))) (hfields : ∀ f ∈ fields, P f.2) :
    P (.record fields) :=
  hP.map (Scalar.distinctKeys_texts hnames.1)
    (List.forall_mem_map.mpr fun f hf => ⟨f.1, rfl, hnames.2 _ (List.mem_map_of_mem hf)⟩)
    (List.forall_mem_map.mpr hfields)

theorem recordable_isJson : Recordable fun v => v.isJson = true where
  isJson := id
  null := rfl
  bool _ := rfl
  text := id
  list := isJson_list.mpr
  map hdistinct htexts hvalues := isJson_map.mpr ⟨hdistinct, htexts, hvalues⟩

/-- A value of JSON with finite numbers only. -/
def IsFiniteJson (v : Value) : Prop := v.isJson = true ∧ Json.isFinite v = true

instance (v : Value) : Decidable v.IsFiniteJson := inferInstanceAs (Decidable (_ ∧ _))

theorem isFinite_list {items : List Value} :
    Json.isFinite (.list items) = true ↔ ∀ x ∈ items, Json.isFinite x = true := by
  rw [Json.isFinite]
  induction items with
  | nil => simp [Json.allFinite]
  | cons x xs ih => simp [Json.allFinite, ih]

theorem isFinite_map {es : Entries} :
    Json.isFinite (.map es) = true ↔
      ∀ e ∈ es, Json.isFiniteScalar e.1 = true ∧ Json.isFinite e.2 = true := by
  rw [Json.isFinite]
  induction es with
  | nil => simp [Json.allFiniteEntries]
  | cons e es ih => simp [Json.allFiniteEntries, ih, and_assoc]

theorem isFiniteJson_list {items : List Value} :
    (Value.list items).IsFiniteJson ↔ ∀ x ∈ items, x.IsFiniteJson := by
  rw [IsFiniteJson, isJson_list, isFinite_list]
  exact forall₂_and.symm

/-- A map is one of JSON with finite numbers when its keys are distinct texts and its values are
such values. -/
theorem isFiniteJson_map {es : Entries} :
    (Value.map es).IsFiniteJson ↔ Scalar.DistinctKeys es ∧ (∀ e ∈ es, IsName e.1) ∧
      ∀ e ∈ es, e.2.IsFiniteJson := by
  rw [IsFiniteJson, isJson_map, isFinite_map]
  constructor
  · rintro ⟨⟨hdistinct, htexts, hvalues⟩, hfinite⟩
    exact ⟨hdistinct, htexts, fun e he => ⟨hvalues e he, (hfinite e he).2⟩⟩
  · rintro ⟨hdistinct, htexts, hvalues⟩
    refine ⟨⟨hdistinct, htexts, fun e he => (hvalues e he).1⟩, fun e he => ⟨?_, (hvalues e he).2⟩⟩
    obtain ⟨name, hname, -⟩ := htexts e he
    rw [hname]
    rfl

theorem recordable_isFiniteJson : Recordable IsFiniteJson where
  isJson h := h.1
  null := ⟨rfl, rfl⟩
  bool _ := ⟨rfl, rfl⟩
  text h := ⟨h, rfl⟩
  list := isFiniteJson_list.mpr
  map hdistinct htexts hvalues := isFiniteJson_map.mpr ⟨hdistinct, htexts, hvalues⟩

/-- **So is being one with finite numbers.** -/
theorem hereditary_isFiniteJson : Hereditary IsFiniteJson :=
  hereditary_isJson_and rfl (fun _ _ => rfl) isFinite_list fun htexts =>
    isFinite_map.trans <| forall₂_congr fun e he => by
      obtain ⟨name, hname, -⟩ := htexts e he
      rw [hname]
      exact and_iff_right rfl

/-- A value of JSON whose integers are not too long to be written. -/
def IsWritable (v : Value) : Prop := v.isJson = true ∧ v.fits = true

instance (v : Value) : Decidable v.IsWritable := inferInstanceAs (Decidable (_ ∧ _))

theorem fits_map_of_texts {es : Entries} (h : ∀ e ∈ es, IsName e.1) :
    (Value.map es).fits = true ↔ ∀ e ∈ es, e.2.fits = true :=
  fits_map.trans <| forall₂_congr fun e he => by
    obtain ⟨name, hname, -⟩ := h e he
    rw [hname]
    exact and_iff_right rfl

/-- **So is being one that can be written.** -/
theorem hereditary_isWritable : Hereditary IsWritable :=
  hereditary_isJson_and rfl (fun _ _ => rfl) fits_list fits_map_of_texts

end Value

/-! ### Reading back -/

namespace Json

theorem eq_of_plainScalar {s t : Scalar} (hs : s.isJson = true) (h : plainScalar s = .ok t) :
    t = s := by
  cases s with
  | stamp | bytes => simp [Scalar.isJson] at hs
  | int n =>
    obtain ⟨text, -, h⟩ := Except.bind_pure_eq_ok_iff.mp h
    exact h
  | text s =>
    obtain rfl := Except.ok.inj h
    rw [Text.joined_of_isJoined hs]
  | null | bool | double => exact (Except.ok.inj h).symm

/-- What is read back of a value after writing; the value itself if it cannot be written. -/
def plained (v : Value) : Value :=
  match plain v with
  | .ok w => w
  | .error _ => v

theorem plained_eq {v w : Value} (h : plain v = .ok w) : plained v = w := by
  rw [plained, h]

/-- The items of a list are read back one by one. -/
theorem plainItems_eq_ok {items read : List Value} (h : plainItems items = .ok read) :
    (∀ x ∈ items, plain x = .ok (plained x)) ∧ read = items.map plained := by
  induction items generalizing read with
  | nil => exact ⟨List.forall_mem_nil _, (Except.ok.inj h).symm⟩
  | cons x xs ih =>
    obtain ⟨first, hfirst, h⟩ := Except.bind_eq_ok_iff.mp h
    obtain ⟨rest, hrest, h⟩ := Except.bind_eq_ok_iff.mp h
    obtain ⟨hxs, rfl⟩ := ih hrest
    obtain rfl := plained_eq hfirst
    exact ⟨List.forall_mem_cons.mpr ⟨hfirst, hxs⟩, (Except.ok.inj h).symm⟩

/-- Entries with distinct texts as keys go one by one to the end of the map, their values as they
are read back. -/
theorem plainEntries_eq_ok {done es read : Entries} (hdistinct : Scalar.DistinctKeys (done ++ es))
    (htexts : ∀ e ∈ es, Value.IsName e.1) (h : plainEntries done es = .ok read) :
    (∀ e ∈ es, plain e.2 = .ok (plained e.2)) ∧
      read = done ++ es.map fun e => (e.1, plained e.2) := by
  induction es generalizing done with
  | nil => exact ⟨List.forall_mem_nil _, by rw [List.map_nil, List.append_nil, Except.ok.inj h]⟩
  | cons e es ih =>
    obtain ⟨key, x⟩ := e
    rw [List.forall_mem_cons] at htexts
    obtain ⟨⟨name, rfl, hjoined⟩, htexts⟩ := htexts
    obtain ⟨text, htext, h⟩ := Except.bind_eq_ok_iff.mp h
    obtain ⟨value, hvalue, h⟩ := Except.bind_eq_ok_iff.mp h
    obtain rfl := Except.ok.inj htext
    rw [Text.joined_of_isJoined hjoined] at h
    obtain rfl := plained_eq hvalue
    -- The keys are the same with the value that is read back.
    have hread : Scalar.DistinctKeys (done ++ (.text name, plained x) :: es) := by
      rw [Scalar.DistinctKeys, List.pairwise_append] at hdistinct ⊢
      simpa only [List.pairwise_cons, List.forall_mem_cons] using hdistinct
    rw [Entries.insert_append hread] at h
    rw [List.append_cons] at hread
    obtain ⟨hes, rfl⟩ := ih hread htexts h
    exact ⟨List.forall_mem_cons.mpr ⟨hvalue, hes⟩, List.append_assoc _ _ _⟩

/-- **A value of JSON reads back as it is.** -/
theorem eq_of_plain {v w : Value} (hv : v.isJson = true) (h : plain v = .ok w) : w = v := by
  induction v using Value.inductionOn generalizing w with
  | scalar s =>
    obtain ⟨t, ht, h⟩ := Except.bind_eq_ok_iff.mp h
    rw [← Except.ok.inj h, eq_of_plainScalar hv ht]
  | list items ih =>
    obtain ⟨read, hread, h⟩ := Except.bind_eq_ok_iff.mp h
    have hitems := Value.isJson_list.mp hv
    obtain ⟨hplain, rfl⟩ := plainItems_eq_ok hread
    obtain rfl := Except.ok.inj h
    have hsame : ∀ x ∈ items, plained x = x := fun x hx => ih x hx (hitems x hx) (hplain x hx)
    rw [List.map_congr_left hsame, List.map_id']
  | map es ih =>
    obtain ⟨read, hread, h⟩ := Except.bind_eq_ok_iff.mp h
    obtain ⟨hdistinct, htexts, hvalues⟩ := Value.isJson_map.mp hv
    have hnone : Scalar.DistinctKeys ([] ++ es) := hdistinct
    obtain ⟨hplain, rfl⟩ := plainEntries_eq_ok hnone htexts hread
    obtain rfl := Except.ok.inj h
    have hsame : ∀ e ∈ es, (e.1, plained e.2) = e := fun e he => by
      rw [ih e he (hvalues e he) (hplain e he)]
    rw [List.nil_append, List.map_congr_left hsame, List.map_id']
  | group | knot => simp [Value.isJson] at hv

theorem plained_of_isJson {v : Value} (hv : v.isJson = true) : plained v = v := by
  unfold plained
  split
  · next h => exact eq_of_plain hv h
  · rfl

/-- The items of a list that is read back are those of the list as they are read back. -/
theorem plain_list_eq_ok {items : List Value} {w : Value} (h : plain (.list items) = .ok w) :
    (∀ x ∈ items, plain x = .ok (plained x)) ∧ w = .list (items.map plained) := by
  obtain ⟨read, hread, h⟩ := Except.bind_eq_ok_iff.mp h
  obtain ⟨hitems, rfl⟩ := plainItems_eq_ok hread
  exact ⟨hitems, (Except.ok.inj h).symm⟩

/-- A record that is read back has the same fields, with what is read back of their values. -/
theorem plain_record_eq_ok {fields : List (String × Value)} {w : Value}
    (hnames : Value.AreNames (fields.map (·.1))) (h : plain (.record fields) = .ok w) :
    (∀ f ∈ fields, plain f.2 = .ok (plained f.2)) ∧
      w = .record (fields.map fun f => (f.1, plained f.2)) := by
  obtain ⟨read, hread, h⟩ := Except.bind_eq_ok_iff.mp h
  have htexts : ∀ e ∈ fields.map fun f => (Scalar.text f.1, f.2), Value.IsName e.1 :=
    List.forall_mem_map.mpr fun f hf => ⟨f.1, rfl, hnames.2 _ (List.mem_map_of_mem hf)⟩
  have hdistinct : Scalar.DistinctKeys ([] ++ fields.map fun f => (Scalar.text f.1, f.2)) :=
    Scalar.distinctKeys_texts hnames.1
  obtain ⟨hvalues, rfl⟩ := plainEntries_eq_ok hdistinct htexts hread
  rw [List.forall_mem_map] at hvalues
  refine ⟨hvalues, (Except.ok.inj h).symm.trans ?_⟩
  rw [List.nil_append, Value.record, List.map_map, List.map_map]
  rfl

/-- Only null is read back as null. -/
theorem plained_eq_null_iff {v : Value} : plained v = .null ↔ v = .null := by
  constructor
  · unfold plained
    split
    · next w h =>
      rintro rfl
      -- A list comes from a list or a pair, a map from a map, and a text from all else.
      cases v with
      | scalar s =>
        obtain ⟨t, ht, h⟩ := Except.bind_eq_ok_iff.mp h
        obtain rfl : t = .null := Value.scalar.inj (Except.ok.inj h)
        cases s with
        | null => rfl
        | int n =>
          obtain ⟨text, -, ht⟩ := Except.bind_eq_ok_iff.mp ht
          cases ht
        | bool | double | text | stamp | bytes => cases ht
      | list items | map es =>
        obtain ⟨read, -, hread⟩ := Except.bind_pure_eq_ok_iff.mp h
        cases hread
      | group form items =>
        cases form with
        | pair =>
          obtain ⟨read, -, hread⟩ := Except.bind_pure_eq_ok_iff.mp h
          cases hread
        | set => cases h
      | knot label inside =>
        obtain ⟨read, -, h⟩ := Except.bind_eq_ok_iff.mp h
        cases h
    · exact id
  · rintro rfl
    rfl

/-- A scalar is read back as a scalar. -/
theorem exists_plained_scalar (s : Scalar) : ∃ t, plained (.scalar s) = .scalar t := by
  unfold plained
  split
  · next h =>
    obtain ⟨t, -, h⟩ := Except.bind_pure_eq_ok_iff.mp h
    exact ⟨t, h⟩
  · exact ⟨s, rfl⟩

end Json

end ApiTools
