import ApiTools.Json.Reader
import ApiTools.Proofs.Value.Json

/-!
# Documents read from JSON

The reader builds scalars, lists, and maps into which members are put one by one, a repeated one in
the place of the first.  So what holds of scalars, and of lists and maps of values that it holds of,
holds of every document.  In particular a document is a value of JSON, whatever the text: a first
half of a pair waits for the escape after it, so no two halves of a pair are left in what is read.

## Main definitions

* `Json.Gathers` — the code points that the reader of a text has behind it.
* `Json.Readable` — a property of which this can be said.
* `Json.ReadsOnly` — what the reader gives with some fuel has it.

## Main results

* `Json.isJoined_readText` — a text that is read from a document is joined.
* `Json.of_parse` — **it holds of every document.**
* `Json.isJson_parse` — **a document read from JSON is a value of JSON.**
* `Json.isPlain_parse` — so it is plain.
-/

namespace ApiTools

namespace Json

/-- What a name spells. -/
theorem mem_of_readName {s rest : List Char} {v : Value} (h : readName s = some (v, rest)) :
    v ∈ [Value.null, .bool true, .bool false, .double .nan, .double (.infinite false),
      .double (.infinite true)] := by
  obtain ⟨⟨word, w⟩, hmem, h⟩ := List.exists_of_findSome?_eq_some h
  obtain ⟨_, -, h⟩ := Option.map_eq_some_iff.mp h
  obtain ⟨rfl, -⟩ := Prod.mk.inj h
  exact List.mem_map_of_mem (f := Prod.snd) hmem

theorem isJson_readName {s rest : List Char} {v : Value} (h : readName s = some (v, rest)) :
    v.isJson = true := by
  have hmem := mem_of_readName h
  simp only [List.mem_cons, List.not_mem_nil, or_false] at hmem
  rcases hmem with rfl | rfl | rfl | rfl | rfl | rfl <;> rfl

theorem isJson_readNumber {negative : Bool} {s rest : List Char} {v : Value}
    (h : readNumber negative s = .ok (v, rest)) : v.isJson = true := by
  unfold readNumber at h
  split at h
  · cases h
  · dsimp only at h
    split at h
    · split at h <;> cases h
      rfl
    · cases h
      rfl

/-! ### Texts -/

/-- The code points that have been read, with what they are spelled by in reverse. -/
structure Gathers (points : List CodePoint) (done : List Char) : Prop where
  /-- They are spelled by what has been read. -/
  spelled : done = (points.flatMap CodePoint.spelled).reverse
  /-- Every sign among them spells something. -/
  proper : .stray ∉ points
  /-- They are apart. -/
  apart : CodePoint.AreApart points

/-- Only a first half waits, and where none does, the last code point is no first half. -/
structure Waits (points : List CodePoint) (high : Option Nat) : Prop where
  /-- What waits is a first half. -/
  isHigh : ∀ unit ∈ high, isHighHalf unit = true
  /-- Where nothing waits, no half can follow that would have had to be joined. -/
  settled : high = none → ∀ g ∈ points.getLast?, ∀ h, g.isPair h = false

section

variable {points : List CodePoint} {done s rest : List Char} {high : Option Nat} {g : CodePoint}
variable {unit : Nat}

theorem ofCode_ne_stray (unit : Nat) : CodePoint.ofCode unit ≠ .stray := by
  unfold CodePoint.ofCode
  split <;> simp

/-- Only a first half is the first one of a pair. -/
theorem isPair_ofCode_left (hunit : isHighHalf unit = false) (h : CodePoint) :
    (CodePoint.ofCode unit).isPair h = false := by
  unfold CodePoint.ofCode
  split
  · next hhalf =>
    have hcode : 0xD800 + (unit - 0xD800) = unit := by omega
    cases h with
    | half => simp only [CodePoint.isPair, CodePoint.code, hcode, hunit, Bool.false_and]
    | char | stray => rfl
  · rfl

/-- Only a second half is the second one. -/
theorem isPair_ofCode_right (hunit : isLowHalf unit = false) (g : CodePoint) :
    g.isPair (.ofCode unit) = false := by
  unfold CodePoint.ofCode
  split
  · next hhalf =>
    have hcode : 0xD800 + (unit - 0xD800) = unit := by omega
    cases g with
    | half => simp only [CodePoint.isPair, CodePoint.code, hcode, hunit, Bool.and_false]
    | char | stray => rfl
  · exact CodePoint.isPair_char_right

theorem isLowHalf_of_isHighHalf (h : isHighHalf unit = true) : isLowHalf unit = false := by
  simp only [isHighHalf, isLowHalf, Bool.and_eq_true, decide_eq_true_eq, Bool.and_eq_false_iff,
    decide_eq_false_iff_not] at h ⊢
  omega

theorem Gathers.nil : Gathers [] [] := ⟨rfl, List.not_mem_nil, List.isChain_nil⟩

/-- One more code point is read, which is not the other half of the last one. -/
theorem Gathers.put (h : Gathers points done) (hg : g ≠ .stray)
    (hlast : ∀ f ∈ points.getLast?, f.isPair g = false) :
    Gathers (points ++ [g]) (Json.put g done) := by
  refine ⟨?_, ?_, ?_⟩
  · rw [Json.put, h.spelled, List.flatMap_append, List.flatMap_singleton, List.reverse_append]
  · rw [List.mem_append, List.mem_singleton, not_or]
    exact ⟨h.proper, Ne.symm hg⟩
  · refine List.isChain_append.mpr ⟨h.apart, List.isChain_singleton g, fun f hf e he => ?_⟩
    obtain rfl : g = e := Option.some.inj he
    exact hlast f hf

/-- A character is no half. -/
theorem Gathers.putChar (h : Gathers points done) (c : Char) :
    Gathers (points ++ [.char c]) (Json.put (.char c) done) :=
  h.put (by simp) fun _ _ => CodePoint.isPair_char_right

/-- A first half is no second one. -/
theorem Gathers.putUnit (h : Gathers points done) (hunit : isHighHalf unit = true) :
    Gathers (points ++ [.ofCode unit]) (Json.put (.ofCode unit) done) :=
  h.put (ofCode_ne_stray unit) fun f _ => isPair_ofCode_right (isLowHalf_of_isHighHalf hunit) f

/-- A first half that waits is read when nothing else comes for it. -/
theorem Gathers.putHigh (h : Gathers points done) (hwaits : Waits points high) :
    ∃ more, Gathers more (Json.putHigh high done) := by
  cases high with
  | none => exact ⟨points, h⟩
  | some unit => exact ⟨_, h.putUnit (hwaits.isHigh unit rfl)⟩

theorem Waits.some (hunit : isHighHalf unit = true) : Waits points (.some unit) :=
  ⟨fun _ h => Option.some.inj h ▸ hunit, nofun⟩

/-- After what is no first half, nothing waits. -/
theorem Waits.concat (hg : ∀ h, g.isPair h = false) : Waits (points ++ [g]) none := by
  refine ⟨nofun, fun _ f hf => ?_⟩
  rw [List.getLast?_concat] at hf
  obtain rfl : g = f := Option.some.inj hf
  exact hg

theorem spelled_escapeLetter {l e : Char} (h : escapeLetter? l = some e) :
    (CodePoint.char e).spelled = [e] := by
  unfold escapeLetter? at h
  split at h <;> cases h <;> rfl

/-- What the reader of a text has behind it in the end is still of this form. -/
theorem Gathers.readTextFrom (h : Gathers points done) (hwaits : Waits points high)
    {found : List Char}
    (hread : Json.readTextFrom (fun c => (CodePoint.char c).spelled) done high s =
      some (found, rest)) :
    ∃ points, Gathers points found := by
  fun_induction Json.readTextFrom (fun c => (CodePoint.char c).spelled) done high s
    generalizing points with
  | case1 | case9 | case10 | case11 | case13 => cases hread
  | case2 done a b c d s unit first _ _ ih =>
    exact ih (h.putChar _) (.concat fun _ => rfl) hread
  | case3 done a b c d s unit first _ _ hhigh ih =>
    exact ih (h.putUnit (hwaits.isHigh first rfl)) (.some hhigh) hread
  | case4 done a b c d s unit first _ hlow hhigh ih =>
    rw [Bool.not_eq_true] at hlow hhigh
    have hfirst := h.putUnit (hwaits.isHigh first rfl)
    exact ih (hfirst.put (ofCode_ne_stray unit) fun f _ => isPair_ofCode_right hlow f)
      (.concat (isPair_ofCode_left hhigh)) hread
  | case5 done a b c d s unit _ hhigh ih => exact ih h (.some hhigh) hread
  | case6 done a b c d s unit _ hhigh ih =>
    rw [Bool.not_eq_true] at hhigh
    exact ih (h.put (ofCode_ne_stray unit) fun f hf => hwaits.settled rfl f hf _)
      (.concat (isPair_ofCode_left hhigh)) hread
  | case7 =>
    obtain ⟨more, hmore⟩ := h.putHigh hwaits
    obtain ⟨rfl, -⟩ := Prod.mk.inj (Option.some.inj hread)
    exact ⟨more, hmore⟩
  | case8 done high later l s e hletter =>
    rename_i ih
    obtain ⟨more, hmore⟩ := h.putHigh hwaits
    have hput : e :: later = Json.put (.char e) later := by
      rw [Json.put, spelled_escapeLetter hletter]
      rfl
    rw [hput] at ih hread
    exact ih (hmore.putChar e) (.concat fun _ => rfl) hread
  | case12 done high c s _ later =>
    rename_i ih
    obtain ⟨more, hmore⟩ := h.putHigh hwaits
    exact ih (hmore.putChar c) (.concat fun _ => rfl) hread

end

/-- What stands for characters leaves only joined texts to be read. -/
def ReadsJoined (keep : Char → List Char) : Prop :=
  ∀ {s t rest}, readText keep s = some (t, rest) → Text.isJoined t = true

/-- **A text that is read from a document is joined.** -/
theorem isJoined_readText : ReadsJoined fun c => (CodePoint.char c).spelled := by
  intro s t rest h
  unfold readText at h
  split at h
  · next done rest' hread =>
    cases h
    have hnone : Waits [] none := ⟨nofun, fun _ _ hg => nomatch hg⟩
    obtain ⟨points, hspelled, hproper, hapart⟩ := Gathers.nil.readTextFrom hnone hread
    rw [hspelled, List.reverse_reverse]
    exact Text.isJoined_ofPoints hproper hapart
  · cases h

/-! ### Values -/

/-- A property of what is spelled by names, of numbers and of texts, and of lists and maps of values
with it. -/
structure Readable (P : Value → Prop) : Prop where
  /-- What is spelled by a name has it. -/
  name : ∀ {s v rest}, readName s = some (v, rest) → P v
  /-- A number has it. -/
  number : ∀ {negative s v rest}, readNumber negative s = .ok (v, rest) → P v
  /-- A joined text has it. -/
  text : ∀ {t}, Text.isJoined t = true → P (.text t)
  /-- A list of values with it has it. -/
  list : ∀ {items}, (∀ x ∈ items, P x) → P (.list items)
  /-- A map with distinct joined texts as keys and values with it has it. -/
  map : ∀ {es : Entries}, Scalar.DistinctKeys es → (∀ e ∈ es, Value.IsName e.1) →
    (∀ e ∈ es, P e.2) → P (.map es)

/-- The members that are read have distinct joined texts as keys, and values with the property. -/
structure Members (P : Value → Prop) (es : Entries) : Prop where
  /-- The keys are distinct. -/
  distinct : Scalar.DistinctKeys es
  /-- They are joined texts. -/
  texts : ∀ e ∈ es, Value.IsName e.1
  /-- The values have the property. -/
  values : ∀ e ∈ es, P e.2

theorem Members.insert {P : Value → Prop} {es : Entries} (h : Members P es) {name : String}
    (hname : Text.isJoined name = true) {v : Value} (hv : P v) :
    Members P (es.insert (.text name) v) := by
  refine ⟨Entries.distinctKeys_insert h.distinct _ v, fun e he => ?_, fun e he => ?_⟩
  · obtain ⟨f, hf, heq⟩ := (Entries.mem_insert he).1
    rw [← heq]
    rcases List.mem_append.mp hf with hf | hf
    · exact h.texts f hf
    · exact ⟨name, congrArg Prod.fst (List.mem_singleton.mp hf), hname⟩
  · obtain ⟨f, hf, heq⟩ := (Entries.mem_insert he).2
    rw [← heq]
    rcases List.mem_append.mp hf with hf | hf
    · exact h.values f hf
    · rw [List.mem_singleton.mp hf]
      exact hv

theorem Readable.members {P : Value → Prop} (hP : Readable P) {es : Entries} (h : Members P es) :
    P (.map es) :=
  hP.map h.distinct h.texts h.values

/-- What the reader gives with some fuel has the property, where what was read before has it. -/
structure ReadsOnly (P : Value → Prop) (keep : Char → List Char) (fuel : Nat) : Prop where
  /-- A value. -/
  value : ∀ s v rest, readValue keep fuel s = .ok (v, rest) → P v
  /-- A list, after some items. -/
  items : ∀ done s v rest, (∀ x ∈ done, P x) → readItems keep fuel done s = .ok (v, rest) → P v
  /-- A map, after some members. -/
  members : ∀ done s v rest, Members P done → readMembers keep fuel done s = .ok (v, rest) → P v

section

variable {P : Value → Prop} {keep : Char → List Char} (hkeep : ReadsJoined keep)
variable {fuel : Nat} {s rest : List Char} {v : Value}

include hkeep in
theorem of_readValue_succ (hP : Readable P) (ih : ReadsOnly P keep fuel)
    (h : readValue keep (fuel + 1) s = .ok (v, rest)) : P v := by
  have hnone : Members P [] := ⟨List.Pairwise.nil, nofun, nofun⟩
  unfold readValue at h
  split at h
  · split at h
    · next hread =>
      cases h
      exact hP.text (hkeep hread)
    · cases h
  · split at h
    · cases h
      exact hP.members hnone
    · exact ih.members [] _ v rest hnone h
  · split at h
    · cases h
      exact hP.list nofun
    · exact ih.items [] _ v rest nofun h
  · split at h
    · next hname =>
      cases h
      exact hP.name hname
    · split at h <;> exact hP.number h

theorem of_readItems_succ (hP : Readable P) (ih : ReadsOnly P keep fuel) {done : List Value}
    (hdone : ∀ x ∈ done, P x) (h : readItems keep (fuel + 1) done s = .ok (v, rest)) : P v := by
  unfold readItems at h
  obtain ⟨⟨x, rest'⟩, hx, h⟩ := Except.bind_eq_ok_iff.mp h
  have hitems : ∀ y ∈ x :: done, P y := List.forall_mem_cons.mpr ⟨ih.value _ _ _ hx, hdone⟩
  dsimp only at h
  split at h
  · exact ih.items _ _ v rest hitems h
  · cases h
    exact hP.list fun y hy => hitems y (List.mem_reverse.mp hy)
  · cases h

include hkeep in
theorem of_readMembers_succ (hP : Readable P) (ih : ReadsOnly P keep fuel) {done : Entries}
    (hdone : Members P done) (h : readMembers keep (fuel + 1) done s = .ok (v, rest)) : P v := by
  unfold readMembers at h
  split at h
  · split at h
    · cases h
    · next name rest' hread =>
      split at h
      · obtain ⟨⟨x, rest''⟩, hx, h⟩ := Except.bind_eq_ok_iff.mp h
        have hmembers := hdone.insert (hkeep hread) (ih.value _ _ _ hx)
        dsimp only at h
        split at h
        · exact ih.members _ _ v rest hmembers h
        · cases h
          exact hP.members hmembers
        · cases h
      · cases h
  · cases h

end

/-- The values, the items and the members that the reader gives have the property. -/
theorem readsOnly {P : Value → Prop} {keep : Char → List Char} (hkeep : ReadsJoined keep)
    (hP : Readable P) (fuel : Nat) : ReadsOnly P keep fuel := by
  induction fuel with
  | zero => constructor <;> simp [readValue, readItems, readMembers]
  | succ fuel ih =>
    exact ⟨fun _ _ _ h => of_readValue_succ hkeep hP ih h,
      fun _ _ _ _ hdone h => of_readItems_succ hP ih hdone h,
      fun _ _ _ _ hdone h => of_readMembers_succ hkeep hP ih hdone h⟩

/-- **What a document read from JSON is built of decides on the document.** -/
theorem of_parse {P : Value → Prop} (hP : Readable P) {text : String} {v : Value}
    (h : parse text = .ok v) : P v := by
  obtain ⟨⟨w, rest⟩, hread, h⟩ := Except.bind_eq_ok_iff.mp h
  dsimp only at h
  split at h
  · cases h
    exact (readsOnly isJoined_readText hP _).value _ _ _ hread
  · cases h

/-- **A document read from JSON is a value of JSON.** -/
theorem isJson_parse {text : String} {v : Value} (h : parse text = .ok v) : v.isJson = true :=
  of_parse
    { name := isJson_readName
      number := isJson_readNumber
      text := id
      list := Value.isJson_list.mpr
      map := fun hdistinct htexts hvalues => Value.isJson_map.mpr ⟨hdistinct, htexts, hvalues⟩ } h

/-- A document read from JSON is plain. -/
theorem isPlain_parse {text : String} {v : Value} (h : parse text = .ok v) : v.isPlain = true :=
  Value.isPlain_of_isJson (isJson_parse h)

end Json

end ApiTools
