import ApiTools.Proofs.Value.Key

/-!
# Maps with distinct keys

A list of entries is a map when no two of its keys are alike.  Putting an entry in keeps it so, and
what was put in is what is read at the key afterwards.

## Main definitions

* `Scalar.DistinctKeys` — no two keys of a list of pairs are alike.
* `Entries.overwrite` — a value put wherever a key is.

## Main results

* `Entries.find?_eq_some` — every entry of a map is what the map has at its key.
* `Entries.exists_insert_eq` — a value that is there is replaced in its place.
* `Entries.distinctKeys_merge` — merging into a map gives a map.
* `Entries.hasKey_merge` — the keys of a merge are those of either map.
* `Entries.merge_merge` — **merging maps is associative.**
* `Entries.find?_merge_of_hasKey` — a key of the second map has the value that it has there.
* `Entries.exists_perm_of_find?` — **maps that have the same at every key have the same entries.**
-/

namespace ApiTools

namespace Scalar

/-- No two keys of a list of pairs are alike. -/
def DistinctKeys {α : Type} (pairs : List (Scalar × α)) : Prop :=
  pairs.Pairwise fun e f => e.1.alike f.1 = false

@[simp] theorem distinctKeys_nil {α : Type} : DistinctKeys ([] : List (Scalar × α)) :=
  List.Pairwise.nil

theorem distinctKeys_cons {α : Type} {e : Scalar × α} {pairs : List (Scalar × α)} :
    DistinctKeys (e :: pairs) ↔ (∀ f ∈ pairs, e.1.alike f.1 = false) ∧ DistinctKeys pairs :=
  List.pairwise_cons

/-- Distinct keys stay so when only what stands at them changes. -/
theorem distinctKeys_map {α β : Type} {pairs : List (Scalar × α)} (f : Scalar × α → Scalar × β)
    (hf : ∀ e, (f e).1 = e.1) (h : DistinctKeys pairs) : DistinctKeys (pairs.map f) :=
  List.pairwise_map.mpr (h.imp fun hef => by rw [hf, hf]; exact hef)

/-- Distinct keys stay so in any order. -/
theorem DistinctKeys.perm {α : Type} {pairs others : List (Scalar × α)} (h : DistinctKeys pairs)
    (hperm : pairs.Perm others) : DistinctKeys others :=
  List.Pairwise.perm h hperm fun hef => by rwa [alike_comm]

/-- Distinct texts are distinct keys. -/
theorem distinctKeys_texts {α : Type} {fields : List (String × α)}
    (h : (fields.map (·.1)).Nodup) : DistinctKeys (fields.map fun f => (Scalar.text f.1, f.2)) := by
  rw [DistinctKeys, List.pairwise_map]
  exact (List.pairwise_map.mp h).imp fun hne => by simpa using hne

/-- Putting a value at a key keeps keys distinct. -/
theorem distinctKeys_putIn {α : Type} {pairs : List (Scalar × α)} (key : Scalar) (value : α)
    (h : DistinctKeys pairs) : DistinctKeys (key.putIn value pairs) := by
  unfold putIn
  split
  · refine distinctKeys_map _ (fun e => ?_) h
    split <;> rfl
  · next hnone =>
    refine List.pairwise_append.mpr ⟨h, List.pairwise_singleton _ _, ?_⟩
    intro e he f hf
    rw [List.mem_singleton.mp hf]
    simp only [List.any_eq_true, not_exists, not_and, Bool.not_eq_true] at hnone
    exact hnone e he

end Scalar

namespace Entries

open Scalar

/-! ### Look-up -/

theorem hasKey_iff {es : Entries} {key : Scalar} :
    es.hasKey key = true ↔ ∃ e ∈ es, e.1.alike key = true := List.any_eq_true

/-- What is found at a key is the value of an entry. -/
theorem exists_mem_of_find? {es : Entries} {key : Scalar} {v : Value} (h : es.find? key = some v) :
    ∃ e ∈ es, e.1.alike key = true ∧ e.2 = v := by
  obtain ⟨e, he, rfl⟩ := Option.map_eq_some_iff.mp h
  exact ⟨e, List.mem_of_find?_eq_some he, by simpa using List.find?_some he, rfl⟩

@[simp] theorem get?_nil (name : String) : get? [] name = none := rfl

theorem get?_cons_text (k : String) (v : Value) (es : Entries) (name : String) :
    get? ((.text k, v) :: es) name = if name = k then some v else get? es name := by
  unfold get? find?
  rw [List.find?_cons, Scalar.alike_text]
  by_cases h : name = k
  · rw [if_pos h, h, beq_self_eq_true]
    rfl
  · rw [if_neg h, beq_false_of_ne (Ne.symm h)]

/-- A key is there when a value is found at it. -/
theorem hasKey_eq_isSome_find? (es : Entries) (key : Scalar) :
    es.hasKey key = (es.find? key).isSome := by
  rw [find?, Option.isSome_map, hasKey, List.isSome_find?]

/-- A map has one value for all spellings of a key. -/
theorem find?_congr {k l : Scalar} (h : k.alike l = true) (es : Entries) :
    es.find? k = es.find? l := by
  simp only [find?, alike_congr h]

theorem hasKey_congr {k l : Scalar} (h : k.alike l = true) (es : Entries) :
    es.hasKey k = es.hasKey l := by
  simp only [hasKey, alike_congr h]

/-- **Every entry of a map is what the map has at its key.** -/
theorem find?_eq_some {es : Entries} (hes : DistinctKeys es) {e : Scalar × Value} (he : e ∈ es) :
    es.find? e.1 = some e.2 := by
  induction es with
  | nil => cases he
  | cons f es ih =>
    obtain ⟨hf, hes⟩ := distinctKeys_cons.mp hes
    rcases List.mem_cons.mp he with rfl | he
    · simp [find?, alike_refl]
    · have := ih hes he
      simp only [find?, List.find?_cons, hf e he] at this ⊢
      exact this

/-! ### Insertion and merging -/

theorem distinctKeys_insert {es : Entries} (h : DistinctKeys es) (key : Scalar) (v : Value) :
    DistinctKeys (es.insert key v) := distinctKeys_putIn key v h

theorem hasKey_insert (es : Entries) (k l : Scalar) (v : Value) :
    (es.insert k v).hasKey l = (es.hasKey l || k.alike l) := by
  unfold insert putIn
  split
  · next hk =>
    have hkeys : ∀ fs : Entries,
        hasKey (fs.map fun e => if e.1.alike k then (e.1, v) else e) l = hasKey fs l := by
      intro fs
      simp only [hasKey, List.any_map]
      congr 1
      funext e
      simp only [Function.comp]
      split <;> rfl
    rw [hkeys]
    cases hl : hasKey es l with
    | true => rfl
    | false =>
      rw [Bool.false_or, eq_comm, ← Bool.not_eq_true]
      intro hkl
      rw [← hasKey_congr hkl, hasKey, hk] at hl
      exact Bool.noConfusion hl
  · simp [hasKey]

/-- What is put at a key is there, in the place of what stood there or at the end. -/
theorem find?_insert_of_alike (es : Entries) {k l : Scalar} (v : Value) (h : k.alike l = true) :
    (es.insert k v).find? l = some v := by
  have hiff : ∀ e : Scalar × Value, e.1.alike l = e.1.alike k :=
    fun e => (alike_congr h e.1).symm
  unfold insert putIn find?
  split
  · next hany =>
    induction es with
    | nil => cases hany
    | cons e es ih =>
      cases he : e.1.alike k with
      | true => simp [he, hiff]
      | false =>
        rw [List.any_cons, he, Bool.false_or] at hany
        simpa [he, hiff] using ih hany
  · next hnone =>
    have hnone : ∀ e ∈ es, ¬e.1.alike l = true := by
      simpa [hiff] using hnone
    rw [List.find?_append, List.find?_eq_none.mpr hnone]
    simp [h]

/-- The other keys have what they had. -/
theorem find?_insert_of_not_alike (es : Entries) {k l : Scalar} (v : Value)
    (h : ¬k.alike l = true) : (es.insert k v).find? l = es.find? l := by
  have hother : ∀ e : Scalar × Value, e.1.alike k = true → e.1.alike l = false := by
    intro e he
    by_contra hl
    rw [Bool.not_eq_false] at hl
    exact h (alike_trans (alike_symm he) hl)
  unfold insert putIn find?
  split
  · clear * - hother
    induction es with
    | nil => rfl
    | cons e es ih =>
      cases he : e.1.alike k with
      | true => simpa [he, hother e he] using ih
      | false =>
        cases hl : e.1.alike l with
        | true => simp [he, hl]
        | false => simpa [he, hl] using ih
  · rw [List.find?_append]
    simp [h]

/-- **What is put at a key is there, and the other keys have what they had.** -/
theorem find?_insert (es : Entries) (k l : Scalar) (v : Value) :
    (es.insert k v).find? l = if k.alike l then some v else es.find? l := by
  by_cases h : k.alike l = true
  · rw [if_pos h, find?_insert_of_alike es v h]
  · rw [if_neg h, find?_insert_of_not_alike es v h]

/-- The same for keys that are texts. -/
theorem get?_insert (es : Entries) (name other : String) (v : Value) :
    (es.insert (.text name) v).get? other = if other = name then some v else es.get? other := by
  unfold get?
  rw [find?_insert, alike_text]
  by_cases hother : other = name
  · rw [if_pos hother, hother, if_pos (beq_self_eq_true _)]
  · rw [if_neg hother, if_neg (by simpa using Ne.symm hother)]

/-- An entry with a new key goes to the end. -/
theorem insert_append {es fs : Entries} {e : Scalar × Value} (h : DistinctKeys (es ++ e :: fs)) :
    es.insert e.1 e.2 = es ++ [e] := by
  unfold insert putIn
  refine if_neg fun hany => ?_
  obtain ⟨f, hf, halike⟩ := List.any_eq_true.mp hany
  rw [(List.pairwise_append.mp h).2.2 f hf e List.mem_cons_self] at halike
  exact Bool.noConfusion halike

/-- A value that is there is replaced in its place. -/
theorem exists_insert_eq {es : Entries} (hes : DistinctKeys es) {name : String} {v : Value}
    (hv : es.get? name = some v) : ∃ before after, es = before ++ (.text name, v) :: after ∧
      ∀ w, es.insert (.text name) w = before ++ (.text name, w) :: after := by
  obtain ⟨⟨key, _⟩, hfound, rfl⟩ := Option.map_eq_some_iff.mp hv
  obtain ⟨hkey, before, after, rfl, hbefore⟩ := List.find?_eq_some_iff_append.mp hfound
  obtain rfl := alike_text_iff.mp hkey
  refine ⟨before, after, rfl, fun w => ?_⟩
  -- No other entry has the key, so the others stay as they are.
  obtain ⟨-, htail, -⟩ := List.pairwise_append.mp hes
  have hafter : ∀ e ∈ after, e.1.alike (.text name) = false := by
    intro e he
    have hne := (distinctKeys_cons.mp htail).1 e he
    by_contra halike
    rw [Bool.not_eq_false] at halike
    rw [alike_symm halike] at hne
    cases hne
  have hother : ∀ fs : Entries, (∀ e ∈ fs, e.1.alike (.text name) = false) →
      (fs.map fun e => if e.1.alike (.text name) then (e.1, w) else e) = fs := by
    intro fs hfs
    refine (List.map_congr_left fun e he => ?_).trans (List.map_id fs)
    rw [if_neg (by simp [hfs e he])]
    rfl
  have hany : (before ++ (text name, _) :: after).any (fun e => e.1.alike (.text name)) = true :=
    List.any_eq_true.mpr ⟨_, List.mem_append_right _ List.mem_cons_self, hkey⟩
  unfold insert putIn
  rw [if_pos hany, List.map_append, List.map_cons, if_pos hkey, hother after hafter,
    hother before fun e he => by simpa using hbefore e he]

/-- Each key and each value of a map with a new entry is one that the map had, or is that of the
entry. -/
theorem mem_insert {es : Entries} {key : Scalar} {v : Value} {e : Scalar × Value}
    (h : e ∈ es.insert key v) :
    (∃ f ∈ es ++ [(key, v)], f.1 = e.1) ∧ ∃ f ∈ es ++ [(key, v)], f.2 = e.2 := by
  unfold insert putIn at h
  split at h
  · obtain ⟨f, hf, rfl⟩ := List.mem_map.mp h
    have hold : f ∈ es ++ [(key, v)] := List.mem_append_left _ hf
    split
    · exact ⟨⟨f, hold, rfl⟩, (key, v), by simp, rfl⟩
    · exact ⟨⟨f, hold, rfl⟩, f, hold, rfl⟩
  · exact ⟨⟨e, h, rfl⟩, e, h, rfl⟩

/-- **Merging into a map gives a map.** -/
theorem distinctKeys_merge {es : Entries} (h : DistinctKeys es) (fs : Entries) :
    DistinctKeys (es.merge fs) := by
  induction fs generalizing es with
  | nil => exact h
  | cons f fs ih => exact ih (distinctKeys_insert h f.1 f.2)

/-- **The keys of a merge are those of either map.** -/
theorem hasKey_merge (es fs : Entries) (key : Scalar) :
    (es.merge fs).hasKey key = (es.hasKey key || fs.hasKey key) := by
  induction fs generalizing es with
  | nil => simp [merge, hasKey]
  | cons f fs ih =>
    have := ih (es.insert f.1 f.2)
    rw [hasKey_insert, Bool.or_assoc] at this
    exact this

/-- Each key and each value of a merge is one of either map. -/
theorem mem_merge {es fs : Entries} {e : Scalar × Value} (h : e ∈ es.merge fs) :
    (∃ f ∈ es ++ fs, f.1 = e.1) ∧ ∃ f ∈ es ++ fs, f.2 = e.2 := by
  induction fs generalizing es with
  | nil => exact ⟨⟨e, List.mem_append_left _ h, rfl⟩, e, List.mem_append_left _ h, rfl⟩
  | cons f fs ih =>
    obtain ⟨⟨g, hg, hkey⟩, k, hk, hvalue⟩ := ih h
    rw [← hkey, ← hvalue, List.append_cons]
    constructor
    · rcases List.mem_append.mp hg with hg | hg
      · obtain ⟨g', hg', heq⟩ := (mem_insert hg).1
        exact ⟨g', List.mem_append_left _ hg', heq⟩
      · exact ⟨g, List.mem_append_right _ hg, rfl⟩
    · rcases List.mem_append.mp hk with hk | hk
      · obtain ⟨k', hk', heq⟩ := (mem_insert hk).2
        exact ⟨k', List.mem_append_left _ hk', heq⟩
      · exact ⟨k, List.mem_append_right _ hk, rfl⟩

/-! ### Merging one map after another -/

/-- The entries with a value put wherever a key is, and nowhere else. -/
def overwrite (es : Entries) (key : Scalar) (v : Value) : Entries :=
  es.map fun e => if e.1.alike key then (e.1, v) else e

theorem insert_of_hasKey {es : Entries} {key : Scalar} (h : es.hasKey key = true) (v : Value) :
    es.insert key v = es.overwrite key v := if_pos h

theorem insert_of_not_hasKey {es : Entries} {key : Scalar} (h : es.hasKey key = false)
    (v : Value) : es.insert key v = es ++ [(key, v)] := if_neg (ne_true_of_eq_false h)

theorem overwrite_of_not_hasKey {es : Entries} {key : Scalar} (h : es.hasKey key = false)
    (v : Value) : es.overwrite key v = es := by
  refine (List.map_congr_left fun e he => ?_).trans (List.map_id es)
  rw [if_neg (List.any_eq_false.mp h e he)]
  rfl

theorem hasKey_overwrite (es : Entries) (k l : Scalar) (v : Value) :
    (es.overwrite k v).hasKey l = es.hasKey l := by
  simp only [overwrite, hasKey, List.any_map]
  congr 1
  funext e
  simp only [Function.comp]
  split <;> rfl

/-- What is put at a key and overwritten is what it is overwritten with. -/
theorem overwrite_insert_of_alike {k l : Scalar} (h : l.alike k = true) (es : Entries)
    (v w : Value) : (es.insert l w).overwrite k v = es.insert l v := by
  cases hkey : es.hasKey l with
  | true =>
    rw [insert_of_hasKey hkey, insert_of_hasKey hkey]
    simp only [overwrite, List.map_map]
    refine List.map_congr_left fun e _ => ?_
    simp only [Function.comp, ← alike_congr h]
    split <;> simp [*]
  | false =>
    rw [insert_of_not_hasKey hkey, insert_of_not_hasKey hkey, overwrite, List.map_append,
      ← overwrite, overwrite_of_not_hasKey ((hasKey_congr (alike_symm h) es).trans hkey)]
    simp [h]

/-- Overwriting at one key and putting in at another can be done in either order. -/
theorem overwrite_insert_of_not_alike {k l : Scalar} (h : ¬l.alike k = true) (es : Entries)
    (v w : Value) : (es.insert l w).overwrite k v = (es.overwrite k v).insert l w := by
  cases hkey : es.hasKey l with
  | true =>
    rw [insert_of_hasKey hkey, insert_of_hasKey ((hasKey_overwrite es k l v).trans hkey)]
    simp only [overwrite, List.map_map]
    refine List.map_congr_left fun e _ => ?_
    simp only [Function.comp]
    by_cases hl : e.1.alike l = true
    · have hk : ¬e.1.alike k = true := fun hk => h (alike_trans (alike_symm hl) hk)
      simp [hl, hk]
    · by_cases hk : e.1.alike k = true <;> simp [hl, hk]
  | false =>
    rw [insert_of_not_hasKey hkey,
      insert_of_not_hasKey ((hasKey_overwrite es k l v).trans hkey)]
    simp [overwrite, h]

/-- What is overwritten with a value has that value put in already. -/
theorem insert_overwrite_of_alike {k l : Scalar} (h : l.alike k = true) (es : Entries)
    (v : Value) : (es.overwrite k v).insert l v = es.insert l v := by
  cases hkey : es.hasKey l with
  | true =>
    rw [insert_of_hasKey hkey, insert_of_hasKey ((hasKey_overwrite es k l v).trans hkey)]
    simp only [overwrite, List.map_map]
    refine List.map_congr_left fun e _ => ?_
    simp only [Function.comp, alike_congr h]
    split <;> simp [*]
  | false => rw [overwrite_of_not_hasKey ((hasKey_congr (alike_symm h) es).trans hkey)]

theorem overwrite_cons (f : Scalar × Value) (fs : Entries) (key : Scalar) (v : Value) :
    overwrite (f :: fs) key v = (if f.1.alike key then (f.1, v) else f) :: fs.overwrite key v := rfl

/-- Overwriting a merge is merging what is overwritten. -/
theorem overwrite_merge (es fs : Entries) (key : Scalar) (v : Value) :
    (es.merge fs).overwrite key v = (es.overwrite key v).merge (overwrite fs key v) := by
  induction fs generalizing es with
  | nil => rfl
  | cons f fs ih =>
    refine (ih (es.insert f.1 f.2)).trans ?_
    by_cases h : f.1.alike key = true
    · rw [overwrite_cons, if_pos h, overwrite_insert_of_alike h, ← insert_overwrite_of_alike h]
      rfl
    · rw [overwrite_cons, if_neg h, overwrite_insert_of_not_alike h]
      rfl

/-- A value put into the second map of a merge is put into the merge. -/
theorem merge_insert (es fs : Entries) (key : Scalar) (v : Value) :
    es.merge (fs.insert key v) = (es.merge fs).insert key v := by
  cases hkey : fs.hasKey key with
  | true =>
    have hmerge : (es.merge fs).hasKey key = true := by rw [hasKey_merge, hkey, Bool.or_true]
    rw [insert_of_hasKey hkey, insert_of_hasKey hmerge]
    clear hmerge
    induction fs generalizing es with
    | nil => cases hkey
    | cons f fs ih =>
      by_cases h : f.1.alike key = true
      · -- The first entry that has the key is where the value stands in either map.
        calc es.merge (overwrite (f :: fs) key v)
            = (es.insert f.1 v).merge (overwrite fs key v) := by
              rw [overwrite_cons, if_pos h]
              rfl
          _ = ((es.insert f.1 f.2).overwrite key v).merge (overwrite fs key v) := by
              rw [overwrite_insert_of_alike h]
          _ = ((es.insert f.1 f.2).merge fs).overwrite key v := (overwrite_merge ..).symm
      · have hrest : hasKey fs key = true := by
          rw [hasKey, List.any_cons, Bool.or_eq_true] at hkey
          exact hkey.resolve_left h
        rw [overwrite_cons, if_neg h]
        exact ih (es.insert f.1 f.2) hrest
  | false =>
    rw [insert_of_not_hasKey hkey]
    exact List.foldl_append ..

/-- **Merging maps is associative.** -/
theorem merge_merge (es fs gs : Entries) : es.merge (fs.merge gs) = (es.merge fs).merge gs := by
  induction gs generalizing fs with
  | nil => rfl
  | cons g gs ih =>
    refine (ih (fs.insert g.1 g.2)).trans ?_
    rw [merge_insert]
    rfl

/-- A key that is not in the second map keeps its value. -/
theorem find?_merge_of_not_hasKey {fs : Entries} {key : Scalar} (h : fs.hasKey key = false)
    (es : Entries) : (es.merge fs).find? key = es.find? key := by
  induction fs generalizing es with
  | nil => rfl
  | cons f fs ih =>
    rw [hasKey, List.any_cons, Bool.or_eq_false_iff] at h
    refine (ih h.2 (es.insert f.1 f.2)).trans ?_
    rw [find?_insert, h.1, if_neg Bool.false_ne_true]

/-- **A key of the second map has the value that it has there.** -/
theorem find?_merge_of_hasKey {fs : Entries} {key : Scalar} (h : fs.hasKey key = true)
    (es : Entries) : (es.merge fs).find? key = (merge [] fs).find? key := by
  have hsame : ∀ ds es : Entries, (ds.merge fs).find? key = (es.merge fs).find? key := by
    induction fs with
    | nil => cases h
    | cons f fs ih =>
      intro ds es
      cases hrest : hasKey fs key with
      | true => exact ih hrest (ds.insert f.1 f.2) (es.insert f.1 f.2)
      | false =>
        rw [hasKey, List.any_cons, ← hasKey, hrest, Bool.or_false] at h
        have hput : ∀ es : Entries, (es.merge (f :: fs)).find? key = some f.2 := fun es => by
          refine (find?_merge_of_not_hasKey hrest (es.insert f.1 f.2)).trans ?_
          rw [find?_insert, if_pos h]
        rw [hput, hput]
  exact hsame es []

/-! ### Maps in another order -/

/-- What is found at a key of a map is the value of its one entry with this key. -/
theorem find?_eq_some_iff {es : Entries} (hes : DistinctKeys es) {key : Scalar} {v : Value} :
    es.find? key = some v ↔ ∃ e ∈ es, e.1.alike key = true ∧ e.2 = v := by
  refine ⟨exists_mem_of_find?, ?_⟩
  rintro ⟨e, he, halike, rfl⟩
  rw [← find?_congr halike, find?_eq_some hes he]

/-- The order of the entries of a map does not matter. -/
theorem find?_of_perm {es fs : Entries} (h : es.Perm fs) (hes : DistinctKeys es) (key : Scalar) :
    es.find? key = fs.find? key := by
  ext v
  rw [find?_eq_some_iff hes, find?_eq_some_iff (hes.perm h)]
  simp only [h.mem_iff]

theorem find?_cons (e : Scalar × Value) (es : Entries) (key : Scalar) :
    find? (e :: es) key = if e.1.alike key = true then some e.2 else es.find? key := by
  rw [find?, List.find?_cons]
  cases e.1.alike key <;> rfl

/-- A map without an entry has nothing at its key. -/
theorem find?_tail {e : Scalar × Value} {es : Entries} (h : DistinctKeys (e :: es)) {key : Scalar}
    (halike : e.1.alike key = true) : es.find? key = none := by
  rw [← find?_congr halike, ← Option.not_isSome_iff_eq_none, ← hasKey_eq_isSome_find?, hasKey_iff]
  rintro ⟨f, hf, hfe⟩
  rw [alike_comm, (distinctKeys_cons.mp h).1 f hf] at hfe
  cases hfe

/-- **Maps that have the same at every key have the same entries**, in some order and with their keys
in some spelling. -/
theorem exists_perm_of_find? {es fs : Entries} (hes : DistinctKeys es) (hfs : DistinctKeys fs)
    (h : ∀ key, es.find? key = fs.find? key) :
    ∃ gs : Entries, gs.Perm fs ∧
      List.Forall₂ (fun e g => e.1.alike g.1 = true ∧ e.2 = g.2) es gs := by
  induction es generalizing fs with
  | nil =>
    obtain rfl : fs = [] := by
      refine List.eq_nil_iff_forall_not_mem.mpr fun f hf => ?_
      cases (h f.1).trans (find?_eq_some hfs hf)
    exact ⟨[], .nil, .nil⟩
  | cons e es ih =>
    -- The second map has the first entry somewhere, and the rest of either map is alike.
    obtain ⟨g, hg, hge, hvalue⟩ := exists_mem_of_find?
      ((h e.1).symm.trans (find?_eq_some hes List.mem_cons_self))
    obtain ⟨before, after, rfl⟩ := List.append_of_mem hg
    have hperm : (before ++ g :: after).Perm (g :: (before ++ after)) := List.perm_middle
    have hrest : DistinctKeys (g :: (before ++ after)) := hfs.perm hperm
    obtain ⟨gs, hgs, hmatch⟩ := ih (distinctKeys_cons.mp hes).2 (distinctKeys_cons.mp hrest).2
      fun key => by
        have hkey := h key
        rw [find?_of_perm hperm hfs, find?_cons, find?_cons] at hkey
        by_cases halike : e.1.alike key = true
        · rw [find?_tail hes halike, find?_tail hrest (alike_trans hge halike)]
        · rw [if_neg halike, if_neg fun hgk => halike (alike_trans (alike_symm hge) hgk)] at hkey
          exact hkey
    exact ⟨g :: gs, (hgs.cons g).trans hperm.symm, .cons ⟨alike_symm hge, hvalue.symm⟩ hmatch⟩

end Entries

end ApiTools
