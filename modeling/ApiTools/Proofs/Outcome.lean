import Mathlib.Data.List.Forall2

/-!
# Outcomes of steps that can fail

What a computation in `Except` gives is followed one step at a time: a sequence succeeds when each
step does, a traversal when it succeeds item by item, and a fold keeps whatever each step keeps.

## Main definitions

* `Except.FailsOnly` — a computation fails with faults of a kind only.
* `Except.fails` — whether it fails with one of them.
* `Except.fault?` — the fault that it fails with.
* `Except.reached` — the items that a fold gets to before a step fails.
* `Except.Relates` — two computations fail alike, or give results that are related.

## Main results

* `Except.bind_eq_ok_iff`, `Except.bind_eq_error_iff` — a sequence of two steps.
* `Except.mapM_eq_ok_iff`, `Except.exists_of_mem_mapM` — a traversal, item by item.
* `Except.foldlM_keeps`, `Except.foldlM_congr`, `Except.foldlM_congr_ok`,
  `Except.foldlM_relates` — an invariant of one fold, folds with steps that give the same or succeed
  alike, and an invariant of two folds over the same items.
* `Except.fault?_bind`, `Except.fault?_mapM`, `Except.fault?_foldlM` — a computation fails with the
  first fault of its steps.
* `Except.FailsOnly.bind`, `Except.FailsOnly.mapM`, `Except.FailsOnly.foldlM` — the faults of a
  computation are those of its steps.
* `Except.Relates.bind`, `Except.Relates.foldlM`, `Except.Relates.mapM` — computations with related
  steps are related, and only the steps that are reached have to be.
-/

namespace List

/-- Each item of a list that is matched has its match. -/
theorem exists_of_mem_forall₂ {α β : Type} {R : α → β → Prop} {l : List α} {r : List β}
    (h : Forall₂ R l r) {a : α} (ha : a ∈ l) : ∃ b ∈ r, R a b := by
  induction h with
  | nil => cases ha
  | cons hab _ ih =>
    rcases mem_cons.mp ha with rfl | ha
    · exact ⟨_, mem_cons_self, hab⟩
    · obtain ⟨b, hb, hab⟩ := ih ha
      exact ⟨b, mem_cons_of_mem _ hb, hab⟩

/-- What matches item by item holds of all items of one list when its match holds of all items of
the other. -/
theorem forall_mem_iff_of_forall₂ {α β : Type} {R : α → β → Prop} {P : α → Prop} {Q : β → Prop}
    {l : List α} {r : List β} (h : Forall₂ R l r) (hPQ : ∀ a ∈ l, ∀ b, R a b → (P a ↔ Q b)) :
    (∀ a ∈ l, P a) ↔ ∀ b ∈ r, Q b := by
  induction h with
  | nil => simp
  | cons hab _ ih =>
    rw [forall_mem_cons, forall_mem_cons, hPQ _ mem_cons_self _ hab,
      ih fun a ha => hPQ a (mem_cons_of_mem _ ha)]

/-- A list is matched when each of its items has a match. -/
theorem exists_forall₂ {α β : Type} {R : α → β → Prop} {l : List α} (h : ∀ a ∈ l, ∃ b, R a b) :
    ∃ r, Forall₂ R l r := by
  induction l with
  | nil => exact ⟨[], .nil⟩
  | cons a l ih =>
    obtain ⟨b, hb⟩ := h a mem_cons_self
    obtain ⟨r, hr⟩ := ih fun a ha => h a (mem_cons_of_mem _ ha)
    exact ⟨b :: r, .cons hb hr⟩

/-- Lists that match item by item give lists that match, when each of them is matched. -/
theorem forall₂_of_forall₂ {α β γ δ : Type} {R : α → β → Prop} {S : α → γ → Prop} {T : β → δ → Prop}
    {Q : γ → δ → Prop} {l : List α} {r : List β} {m : List γ} {n : List δ} (h : Forall₂ R l r)
    (hm : Forall₂ S l m) (hn : Forall₂ T r n)
    (hQ : ∀ a b c d, R a b → S a c → T b d → Q c d) : Forall₂ Q m n := by
  induction h generalizing m n with
  | nil =>
    cases hm
    cases hn
    exact .nil
  | cons hab _ ih =>
    cases hm with
    | cons hac hm =>
      cases hn with
      | cons hbd hn => exact .cons (hQ _ _ _ _ hab hac hbd) (ih hm hn)

theorem findSome?_cons_eq_or {α β : Type} (g : α → Option β) (a : α) (l : List α) :
    (a :: l).findSome? g = (g a).or (l.findSome? g) := by
  rw [findSome?_cons]
  cases g a <;> rfl

theorem findSome?_congr {α β : Type} {g k : α → Option β} {l : List α}
    (h : ∀ a ∈ l, g a = k a) : l.findSome? g = l.findSome? k := by
  induction l with
  | nil => rfl
  | cons a l ih =>
    rw [findSome?_cons_eq_or, findSome?_cons_eq_or, h a mem_cons_self,
      ih fun a ha => h a (mem_cons_of_mem _ ha)]

theorem findSome?_flatMap {α β γ : Type} (g : β → Option γ) (k : α → List β) (l : List α) :
    (l.flatMap k).findSome? g = l.findSome? fun a => (k a).findSome? g := by
  induction l with
  | nil => rfl
  | cons a l ih => rw [flatMap_cons, findSome?_append, ih, findSome?_cons_eq_or]

end List

namespace Except

variable {α β γ δ ε : Type}

theorem eq_ok_of_toOption {x : Except ε α} {a : α} (h : x.toOption = some a) : x = .ok a := by
  cases x with
  | error => cases h
  | ok b => exact congrArg Except.ok (Option.some.inj h)

theorem exists_eq_ok_of_any {x : Except ε α} {p : α → Bool} (h : x.toOption.any p = true) :
    ∃ a, x = .ok a ∧ p a = true := by
  cases x with
  | error => cases h
  | ok a => exact ⟨a, rfl, h⟩

theorem bind_eq_ok_iff {x : Except ε α} {f : α → Except ε β} {b : β} :
    x >>= f = .ok b ↔ ∃ a, x = .ok a ∧ f a = .ok b := by
  cases x with
  | error e => simp [bind, Except.bind]
  | ok a => simp [bind, Except.bind]

theorem bind_eq_error_iff {x : Except ε α} {f : α → Except ε β} {e : ε} :
    x >>= f = .error e ↔ x = .error e ∨ ∃ a, x = .ok a ∧ f a = .error e := by
  cases x with
  | error d => simp [bind, Except.bind]
  | ok a => simp [bind, Except.bind]

/-- A step that is followed by one that cannot fail succeeds when it does. -/
theorem bind_pure_eq_ok_iff {x : Except ε α} {f : α → β} {b : β} :
    (x >>= fun a => pure (f a)) = .ok b ↔ ∃ a, x = .ok a ∧ b = f a := by
  rw [bind_eq_ok_iff]
  exact exists_congr fun a => and_congr_right fun _ =>
    ⟨fun h => (Except.ok.inj h).symm, fun h => h ▸ rfl⟩

theorem exists_bind_pure_iff {x : Except ε α} {f : α → β} :
    (∃ b, (x >>= fun a => pure (f a)) = .ok b) ↔ ∃ a, x = .ok a := by
  simp only [bind_pure_eq_ok_iff]
  exact ⟨fun ⟨_, a, ha, _⟩ => ⟨a, ha⟩, fun ⟨a, ha⟩ => ⟨f a, a, ha, rfl⟩⟩

theorem mapM_eq_ok_iff {f : α → Except ε β} {l : List α} {r : List β} :
    l.mapM f = .ok r ↔ List.Forall₂ (fun a b => f a = .ok b) l r := by
  induction l generalizing r with
  | nil =>
    rw [List.mapM_nil, List.forall₂_nil_left_iff]
    exact ⟨fun h => (Except.ok.inj h).symm, fun h => h ▸ rfl⟩
  | cons a l ih =>
    rw [List.mapM_cons, bind_eq_ok_iff, List.forall₂_cons_left_iff]
    constructor
    · rintro ⟨b, hb, h⟩
      obtain ⟨bs, hbs, h⟩ := bind_pure_eq_ok_iff.mp h
      exact ⟨b, bs, hb, ih.mp hbs, h⟩
    · rintro ⟨b, bs, hb, hbs, rfl⟩
      exact ⟨b, hb, bind_eq_ok_iff.mpr ⟨bs, ih.mpr hbs, rfl⟩⟩

/-- Each result of a traversal comes from an item. -/
theorem exists_of_mem_mapM {f : α → Except ε β} {l : List α} {r : List β} (h : l.mapM f = .ok r)
    {b : β} (hb : b ∈ r) : ∃ a ∈ l, f a = .ok b :=
  List.exists_of_mem_forall₂ (mapM_eq_ok_iff.mp h).flip hb

/-- A fold keeps what each of its steps keeps. -/
theorem foldlM_keeps {f : β → α → Except ε β} {P : β → Prop} {l : List α}
    (hstep : ∀ b, ∀ a ∈ l, ∀ b', P b → f b a = .ok b' → P b') {b b' : β} (hb : P b)
    (h : l.foldlM f b = .ok b') : P b' := by
  induction l generalizing b with
  | nil =>
    obtain rfl := Except.ok.inj h
    exact hb
  | cons a l ih =>
    rw [List.foldlM_cons] at h
    obtain ⟨b₁, hb₁, h⟩ := bind_eq_ok_iff.mp h
    exact ih (fun b a ha => hstep b a (List.mem_cons_of_mem _ ha))
      (hstep b a List.mem_cons_self b₁ hb hb₁) h

/-- A fold succeeds alike when each of its steps does. -/
theorem foldlM_congr_ok {f g : β → α → Except ε β} {l : List α}
    (hstep : ∀ b, ∀ a ∈ l, ∀ b', f b a = .ok b' → g b a = .ok b') {b b' : β}
    (h : l.foldlM f b = .ok b') : l.foldlM g b = .ok b' := by
  induction l generalizing b with
  | nil => exact h
  | cons a l ih =>
    rw [List.foldlM_cons] at h ⊢
    obtain ⟨b₁, hb₁, h⟩ := bind_eq_ok_iff.mp h
    exact bind_eq_ok_iff.mpr ⟨b₁, hstep b a List.mem_cons_self b₁ hb₁,
      ih (fun b a ha => hstep b a (List.mem_cons_of_mem _ ha)) h⟩

/-- Folds with the same steps give the same. -/
theorem foldlM_congr {f g : β → α → Except ε β} {l : List α}
    (hstep : ∀ b, ∀ a ∈ l, f b a = g b a) (b : β) : l.foldlM f b = l.foldlM g b := by
  induction l generalizing b with
  | nil => rfl
  | cons a l ih =>
    rw [List.foldlM_cons, List.foldlM_cons, hstep b a List.mem_cons_self]
    exact bind_congr fun b => ih (fun b a ha => hstep b a (List.mem_cons_of_mem _ ha)) b

/-- Two folds over the same items keep the relation that each pair of their steps keeps. -/
theorem foldlM_relates {f : β → α → Except ε β} {g : γ → α → Except ε γ} {R : β → γ → Prop}
    {l : List α}
    (hstep : ∀ b c, ∀ a ∈ l, ∀ b' c', R b c → f b a = .ok b' → g c a = .ok c' → R b' c')
    {b b' : β} {c c' : γ} (hbc : R b c) (hf : l.foldlM f b = .ok b') (hg : l.foldlM g c = .ok c') :
    R b' c' := by
  induction l generalizing b c with
  | nil =>
    obtain rfl := Except.ok.inj hf
    obtain rfl := Except.ok.inj hg
    exact hbc
  | cons a l ih =>
    rw [List.foldlM_cons] at hf hg
    obtain ⟨b₁, hb₁, hf⟩ := bind_eq_ok_iff.mp hf
    obtain ⟨c₁, hc₁, hg⟩ := bind_eq_ok_iff.mp hg
    exact ih (fun b c a ha => hstep b c a (List.mem_cons_of_mem _ ha))
      (hstep b c a List.mem_cons_self b₁ c₁ hbc hb₁ hc₁) hf hg

/-! ### Faults -/

/-- A computation fails with faults of a kind only. -/
def FailsOnly (P : ε → Prop) (x : Except ε α) : Prop := ∀ e, x = .error e → P e

/-- Whether a computation fails with a fault of a kind. -/
def fails (p : ε → Bool) : Except ε α → Bool
  | .error e => p e
  | .ok _ => false

theorem fails_iff {p : ε → Bool} {x : Except ε α} :
    x.fails p = true ↔ ∃ e, x = .error e ∧ p e = true := by
  cases x <;> simp [fails]

namespace FailsOnly

variable {P : ε → Prop}

theorem ok (a : α) : FailsOnly P (.ok a : Except ε α) := fun _ h => nomatch h

theorem error {e : ε} (h : P e) : FailsOnly P (.error e : Except ε α) :=
  fun _ heq => Except.error.inj heq ▸ h

/-- A sequence fails with faults of a kind only when its first step does, and its second step after
what the first one gives. -/
theorem bind_iff {x : Except ε α} {f : α → Except ε β} :
    FailsOnly P (x >>= f) ↔ FailsOnly P x ∧ ∀ a, x = .ok a → FailsOnly P (f a) := by
  constructor
  · intro h
    exact ⟨fun e he => h e (bind_eq_error_iff.mpr (.inl he)),
      fun a ha e he => h e (bind_eq_error_iff.mpr (.inr ⟨a, ha, he⟩))⟩
  · rintro ⟨hx, hf⟩ e h
    rcases bind_eq_error_iff.mp h with h | ⟨a, ha, h⟩
    · exact hx e h
    · exact hf a ha e h

theorem bind {x : Except ε α} {f : α → Except ε β} (hx : FailsOnly P x)
    (hf : ∀ a, FailsOnly P (f a)) : FailsOnly P (x >>= f) := bind_iff.mpr ⟨hx, fun a _ => hf a⟩

/-- Faults of a kind only are no faults of another kind. -/
theorem iff_not_exists {p : ε → Bool} {x : Except ε α} :
    FailsOnly (p · = true) x ↔ ¬∃ e, x = .error e ∧ p e = false := by
  simp only [FailsOnly, not_exists, not_and, Bool.not_eq_false]

theorem map {x : Except ε α} (hx : FailsOnly P x) (f : α → β) : FailsOnly P (x.map f) := by
  cases x with
  | ok a => exact ok _
  | error e => exact error (hx e rfl)

theorem mapM {f : α → Except ε β} {l : List α} (h : ∀ a ∈ l, FailsOnly P (f a)) :
    FailsOnly P (l.mapM f) := by
  induction l with
  | nil => exact ok _
  | cons a l ih =>
    obtain ⟨hfirst, hrest⟩ := List.forall_mem_cons.mp h
    rw [List.mapM_cons]
    exact bind hfirst fun _ => bind (ih hrest) fun _ => ok _

theorem foldlM {f : β → α → Except ε β} {l : List α} (h : ∀ b, ∀ a ∈ l, FailsOnly P (f b a))
    (b : β) : FailsOnly P (l.foldlM f b) := by
  induction l generalizing b with
  | nil => exact ok _
  | cons a l ih =>
    rw [List.foldlM_cons]
    exact bind (h b a List.mem_cons_self)
      fun b => ih (fun b a ha => h b a (List.mem_cons_of_mem _ ha)) b

end FailsOnly

/-! ### The first fault -/

/-- The fault of a computation, if it fails. -/
def fault? : Except ε α → Option ε
  | .error e => some e
  | .ok _ => none

theorem fault?_eq_some_iff {x : Except ε α} {e : ε} : x.fault? = some e ↔ x = .error e := by
  cases x <;> simp [fault?]

/-- Computations that fail alike fail with faults of the same kinds. -/
theorem FailsOnly.of_fault? {P : ε → Prop} {x : Except ε α} {y : Except ε β} (hy : FailsOnly P y)
    (h : x.fault? = y.fault?) : FailsOnly P x :=
  fun e he => hy e (fault?_eq_some_iff.mp (h ▸ fault?_eq_some_iff.mpr he))

/-- A sequence fails with the fault of the first of its two steps that fails. -/
theorem fault?_bind {x : Except ε α} {f : α → Except ε β} {second : Option ε}
    (h : ∀ a, x = .ok a → (f a).fault? = second) : (x >>= f).fault? = x.fault?.or second := by
  cases x with
  | error e => rfl
  | ok a => exact h a rfl

/-- What comes after a step that succeeds decides. -/
theorem fault?_bind_ok {x : Except ε α} {a : α} (h : x = .ok a) (f : α → Except ε β) :
    (x >>= f).fault? = (f a).fault? := by
  rw [h]
  rfl

/-- A step after which nothing can fail decides. -/
theorem fault?_bind_pure (x : Except ε α) (f : α → β) :
    (x >>= fun a => pure (f a)).fault? = x.fault? := by
  cases x <;> rfl

/-- A traversal fails with the fault of the first item that fails. -/
theorem fault?_mapM (f : α → Except ε β) (l : List α) :
    (l.mapM f).fault? = l.findSome? fun a => (f a).fault? := by
  induction l with
  | nil => rfl
  | cons a l ih =>
    rw [List.mapM_cons, List.findSome?_cons_eq_or, ← ih]
    exact fault?_bind fun _ _ => fault?_bind_pure _ _

/-- A fold fails with the fault of the first item that fails, if it does not matter for that what
came before. -/
theorem fault?_foldlM {f : β → α → Except ε β} {g : α → Option ε} {l : List α}
    (h : ∀ b, ∀ a ∈ l, (f b a).fault? = g a) (b : β) :
    (l.foldlM f b).fault? = l.findSome? g := by
  induction l generalizing b with
  | nil => rfl
  | cons a l ih =>
    rw [List.foldlM_cons, List.findSome?_cons_eq_or, ← h b a List.mem_cons_self]
    exact fault?_bind fun b _ => ih (fun b a ha => h b a (List.mem_cons_of_mem _ ha)) b

/-- A fold that fails gets to an item whose step fails. -/
theorem foldlM_eq_error_iff {f : β → α → Except ε β} {l : List α} {b : β} {e : ε} :
    l.foldlM f b = .error e ↔ ∃ before a after b', l = before ++ a :: after ∧
      before.foldlM f b = .ok b' ∧ f b' a = .error e := by
  constructor
  · intro h
    induction l generalizing b with
    | nil => cases h
    | cons a l ih =>
      rw [List.foldlM_cons] at h
      rcases bind_eq_error_iff.mp h with h | ⟨b₁, hb₁, h⟩
      · exact ⟨[], a, l, b, rfl, rfl, h⟩
      · obtain ⟨before, c, after, b', rfl, hbefore, hc⟩ := ih h
        refine ⟨a :: before, c, after, b', rfl, ?_, hc⟩
        rw [List.foldlM_cons]
        exact bind_eq_ok_iff.mpr ⟨b₁, hb₁, hbefore⟩
  · rintro ⟨before, a, after, b', rfl, hbefore, h⟩
    rw [List.foldlM_append, hbefore]
    refine bind_eq_error_iff.mpr (.inr ⟨b', rfl, ?_⟩)
    rw [List.foldlM_cons]
    exact bind_eq_error_iff.mpr (.inl h)

/-! ### Computations side by side -/

/-- The items that a fold gets to: those up to the first one whose step fails. -/
def reached (f : β → α → Except ε β) (b : β) : List α → List α
  | [] => []
  | a :: l =>
    a :: match f b a with
      | .ok b' => reached f b' l
      | .error _ => []

/-- The items that a traversal gets to. -/
def reachedBy (f : α → Except ε β) (l : List α) : List α :=
  reached (fun _ a => (f a).map fun _ => ()) () l

/-- A fold gets to its own items only. -/
theorem reached_subset (f : β → α → Except ε β) (b : β) (l : List α) : reached f b l ⊆ l := by
  induction l generalizing b with
  | nil => exact List.nil_subset _
  | cons a l ih =>
    rw [reached]
    refine List.cons_subset_cons a ?_
    split
    · exact ih _
    · exact List.nil_subset _

theorem reachedBy_cons_ok {f : α → Except ε β} {a : α} {b : β} (h : f a = .ok b) (l : List α) :
    reachedBy f (a :: l) = a :: reachedBy f l := by
  unfold reachedBy
  rw [reached, h]
  rfl

theorem mem_reachedBy_self (f : α → Except ε β) (a : α) (l : List α) :
    a ∈ reachedBy f (a :: l) := by
  unfold reachedBy
  rw [reached]
  exact List.mem_cons_self

/-- A traversal of more items gets to those that it got to before. -/
theorem reachedBy_subset_append (f : α → Except ε β) (l r : List α) :
    reachedBy f l ⊆ reachedBy f (l ++ r) := by
  induction l with
  | nil => exact List.nil_subset _
  | cons a l ih =>
    cases h : f a with
    | ok b =>
      rw [List.cons_append, reachedBy_cons_ok h, reachedBy_cons_ok h]
      exact List.cons_subset_cons a ih
    | error e =>
      have : reachedBy f (a :: l) = [a] := by simp [reachedBy, reached, h, Except.map]
      rw [this, List.cons_append, List.cons_subset]
      exact ⟨mem_reachedBy_self f a _, List.nil_subset _⟩

/-- A traversal that succeeds goes on to the items after its own. -/
theorem reachedBy_append {f : α → Except ε β} {l : List α} {bs : List β} (h : l.mapM f = .ok bs)
    (r : List α) : reachedBy f (l ++ r) = l ++ reachedBy f r := by
  induction l generalizing bs with
  | nil => rfl
  | cons a l ih =>
    rw [List.mapM_cons] at h
    obtain ⟨b, hb, h⟩ := bind_eq_ok_iff.mp h
    obtain ⟨bs, hbs, -⟩ := bind_eq_ok_iff.mp h
    rw [List.cons_append, reachedBy_cons_ok hb, ih hbs, List.cons_append]

/-- A traversal of images gets to the images of what it gets to. -/
theorem map_reachedBy {f : α → Except ε β} {g : γ → Except ε δ} {k : α → γ}
    (h : ∀ a e, f a = .error e ↔ g (k a) = .error e) (l : List α) :
    (reachedBy f l).map k = reachedBy g (l.map k) := by
  induction l with
  | nil => rfl
  | cons a l ih =>
    cases hf : f a with
    | ok b =>
      have hg : ∃ d, g (k a) = .ok d := by
        cases hg : g (k a) with
        | ok d => exact ⟨d, rfl⟩
        | error e => cases ((h a e).mpr hg).symm.trans hf
      obtain ⟨d, hg⟩ := hg
      rw [reachedBy_cons_ok hf, List.map_cons, List.map_cons, reachedBy_cons_ok hg, ih]
    | error e =>
      have hg := (h a e).mp hf
      simp [reachedBy, reached, hf, hg, Except.map]

/-- Two computations that fail alike, or give results that are related. -/
inductive Relates (R : α → β → Prop) : Except ε α → Except ε β → Prop where
  /-- Both fail with one fault. -/
  | error (e : ε) : Relates R (.error e) (.error e)
  /-- Both succeed. -/
  | ok {a : α} {b : β} (h : R a b) : Relates R (.ok a) (.ok b)

namespace Relates

variable {R : α → β → Prop} {x : Except ε α} {y : Except ε β}

theorem mono {Q : α → β → Prop} (h : Relates R x y)
    (hQ : ∀ a b, x = .ok a → y = .ok b → R a b → Q a b) : Relates Q x y := by
  cases h with
  | error e => exact .error e
  | ok h => exact .ok (hQ _ _ rfl rfl h)

theorem refl {R : α → α → Prop} (x : Except ε α) (h : ∀ a, x = .ok a → R a a) : Relates R x x := by
  cases x with
  | error e => exact .error e
  | ok a => exact .ok (h a rfl)

/-- Computations with equal results are equal. -/
theorem eq {x y : Except ε α} (h : Relates Eq x y) : x = y := by
  cases h with
  | error => rfl
  | ok h => rw [h]

/-- Two results are related by what is made of them, if the same is made of both computations. -/
theorem of_map_eq {f : α → γ} {g : β → γ} (h : x.map f = y.map g) :
    Relates (fun a b => f a = g b) x y := by
  cases x with
  | error e =>
    cases y with
    | error e' =>
      cases h
      exact .error e
    | ok b => cases h
  | ok a =>
    cases y with
    | error e => cases h
    | ok b => exact .ok (Except.ok.inj h)

/-- Sequences with related steps are related. -/
theorem bind {Q : γ → δ → Prop} {f : α → Except ε γ} {g : β → Except ε δ} (h : Relates R x y)
    (hf : ∀ a b, x = .ok a → y = .ok b → R a b → Relates Q (f a) (g b)) :
    Relates Q (x >>= f) (y >>= g) := by
  cases h with
  | error e => exact .error e
  | ok h => exact hf _ _ rfl rfl h

/-- Folds over items that match are related when the steps that they get to are. -/
theorem foldlM {f : β → α → Except ε β} {g : γ → δ → Except ε γ} {R : β → γ → Prop}
    {T : α → δ → Prop} {P : α → Prop} {Q : δ → Prop} {l : List α} {r : List δ}
    (hlr : List.Forall₂ T l r)
    (hstep : ∀ b c a d, P a → Q d → T a d → R b c → Relates R (f b a) (g c d)) {b : β} {c : γ}
    (hP : ∀ a ∈ reached f b l, P a) (hQ : ∀ d ∈ reached g c r, Q d) (hbc : R b c) :
    Relates R (l.foldlM f b) (r.foldlM g c) := by
  induction hlr generalizing b c with
  | nil => exact .ok hbc
  | @cons a d l r had _ ih =>
    rw [reached, List.forall_mem_cons] at hP hQ
    rw [List.foldlM_cons, List.foldlM_cons]
    refine (hstep b c a d hP.1 hQ.1 had hbc).bind fun b' c' hb' hc' hbc' => ih ?_ ?_ hbc'
    · rw [hb'] at hP
      exact hP.2
    · rw [hc'] at hQ
      exact hQ.2

/-- Traversals over items that match are related when the steps that they get to are. -/
theorem mapM {f : α → Except ε β} {g : δ → Except ε γ} {Q : β → γ → Prop} {T : α → δ → Prop}
    {l : List α} {r : List δ} (hlr : List.Forall₂ T l r)
    (hstep : ∀ a ∈ reachedBy f l, ∀ d ∈ reachedBy g r, T a d → Relates Q (f a) (g d)) :
    Relates (List.Forall₂ Q) (l.mapM f) (r.mapM g) := by
  induction hlr with
  | nil => exact .ok .nil
  | @cons a d l r had _ ih =>
    rw [List.mapM_cons, List.mapM_cons]
    refine (hstep a (mem_reachedBy_self f a l) d (mem_reachedBy_self g d r) had).bind
      fun b c hb hc hbc => ?_
    rw [reachedBy_cons_ok hb, reachedBy_cons_ok hc] at hstep
    refine (ih fun a' ha' d' hd' => hstep a' (List.mem_cons_of_mem _ ha') d'
      (List.mem_cons_of_mem _ hd')).bind fun bs cs _ _ hbcs => .ok (.cons hbc hbcs)

end Relates

end Except
