import ApiTools.Value.Basic
import Mathlib.Algebra.Order.Field.Rat
import Mathlib.Tactic.FieldSimp
import Mathlib.Tactic.Positivity
import Mathlib.Tactic.Ring

/-!
# Keys of maps

A map takes two scalars for one key when they are alike: numbers by value, truth values as the
numbers they count for, moments by the instant they name.  Each of these is an equality of *key
forms*, so being alike is an equivalence, and a map can be read through any spelling of a key.

## Main definitions

* `Double.value` — the rational number that a finite number is.
* `KeyForm`, `Scalar.keyForm` — what a map tells keys apart by.

## Main results

* `Scalar.alike_iff` — **scalars are alike exactly when they have one key form.**
-/

namespace ApiTools

/-! ### Numbers by value -/

namespace Double

/-- The value of a finite number with the given sign, mantissa and exponent. -/
def value (negative : Bool) (mantissa : Nat) (exponent : Int) : ℚ :=
  signed negative (ratio mantissa exponent).1 / (ratio mantissa exponent).2

theorem ratio_snd_pos (mantissa : Nat) (exponent : Int) : 0 < (ratio mantissa exponent).2 :=
  Nat.pow_pos (by decide)

/-- The numerator is zero only for the mantissa zero. -/
theorem ratio_fst_eq_zero_iff {mantissa : Nat} {exponent : Int} :
    (ratio mantissa exponent).1 = 0 ↔ mantissa = 0 := by
  have hpow : 0 < twoTo exponent.toNat := Nat.pow_pos (by decide)
  simp only [ratio, Nat.mul_eq_zero]
  constructor
  · rintro (h | h)
    · exact h
    · omega
  · exact Or.inl

/-- Two signed sizes are equal when their sizes are and, unless these are zero, their signs. -/
theorem signed_eq_signed_iff {s t : Bool} {a b : Nat} :
    signed s a = signed t b ↔ a = b ∧ (s = t ∨ a = 0) := by
  cases s <;> cases t <;> simp only [signed, Bool.false_eq_true, if_true, if_false] <;>
    constructor <;> intro h <;> grind

theorem signed_mul (s : Bool) (a b : Nat) : signed s (a * b) = signed s a * b := by
  cases s <;> simp [signed]

/-- Finite numbers are equal when their values are. -/
theorem equals_finite_iff {s t : Bool} {m n : Nat} {e f : Int} :
    equals (.finite s m e) (.finite t n f) = true ↔ value s m e = value t n f := by
  have hb : ((ratio m e).2 : ℚ) ≠ 0 := by exact_mod_cast (ratio_snd_pos m e).ne'
  have hd : ((ratio n f).2 : ℚ) ≠ 0 := by exact_mod_cast (ratio_snd_pos n f).ne'
  have hcross : value s m e = value t n f ↔
      signed s ((ratio m e).1 * (ratio n f).2) = signed t ((ratio n f).1 * (ratio m e).2) := by
    rw [value, value, div_eq_div_iff hb hd, signed_mul, signed_mul]
    norm_cast
  have hzero : (ratio m e).1 * (ratio n f).2 = 0 ↔ m = 0 := by
    rw [Nat.mul_eq_zero, ratio_fst_eq_zero_iff]
    exact or_iff_left (ratio_snd_pos n f).ne'
  rw [hcross, signed_eq_signed_iff, hzero]
  simp [equals]

/-- A finite number has the value of an integer when the integer is its value. -/
theorem equalsInt_finite_iff {s : Bool} {m : Nat} {e k : Int} :
    equalsInt (.finite s m e) k = true ↔ value s m e = k := by
  have hb : ((ratio m e).2 : ℚ) ≠ 0 := by exact_mod_cast (ratio_snd_pos m e).ne'
  rw [value, div_eq_iff hb]
  have hcast : ((signed s (ratio m e).1 : ℚ) = k * (ratio m e).2) ↔
      signed s (ratio m e).1 = k * (ratio m e).2 := by norm_cast
  rw [hcast]
  cases s
  · simp [equalsInt, signed]
  · simp only [equalsInt, signed, if_true, beq_iff_eq, Int.neg_mul]
    omega

end Double

/-! ### Key forms -/

/-- What a map tells keys apart by. -/
inductive KeyForm where
  /-- A number, or a truth value, by value. -/
  | number (value : ℚ)
  /-- A moment by its instant: minutes in universal time, seconds and their fraction. -/
  | instant (at_ : Int × Nat × Nat)
  /-- Any other scalar by itself. -/
  | itself (s : Scalar)

namespace Scalar

/-- The key form of a scalar. -/
def keyForm : Scalar → KeyForm
  | .bool b => .number (if b then 1 else 0)
  | .int n => .number n
  | .double (.finite s m e) => .number (Double.value s m e)
  | .stamp (.moment d c (some ahead)) => .instant (Stamp.instant d c ahead)
  | s => .itself s

@[simp] theorem keyForm_null : keyForm .null = .itself .null := rfl

@[simp] theorem keyForm_bool (b : Bool) : keyForm (.bool b) = .number (if b then 1 else 0) := rfl

@[simp] theorem keyForm_int (n : Int) : keyForm (.int n) = .number n := rfl

@[simp] theorem keyForm_text (t : String) : keyForm (.text t) = .itself (.text t) := rfl

@[simp] theorem keyForm_bytes (b : List UInt8) : keyForm (.bytes b) = .itself (.bytes b) := rfl

theorem equals_double_iff {d e : Double} :
    equals (.double d) (.double e) = true ↔ keyForm (.double d) = keyForm (.double e) := by
  rw [equals, Bool.or_eq_true, beq_iff_eq]
  constructor
  · rintro (rfl | h)
    · rfl
    · cases d <;> cases e <;> simp_all [keyForm, Double.equals_finite_iff, Double.equals.eq_1,
        Double.equals.eq_3]
  · intro h
    cases d <;> cases e <;> simp_all [keyForm, Double.equals_finite_iff]

theorem equals_int_double_iff {n : Int} {d : Double} :
    equals (.int n) (.double d) = true ↔ keyForm (.int n) = keyForm (.double d) := by
  cases d with
  | nan => simp [equals, keyForm, Double.equalsInt]
  | infinite s => simp [equals, keyForm, Double.equalsInt]
  | finite s m e =>
    rw [equals, Double.equalsInt_finite_iff]
    simp [keyForm, eq_comm]

theorem equals_double_int_iff {n : Int} {d : Double} :
    equals (.double d) (.int n) = true ↔ keyForm (.double d) = keyForm (.int n) := by
  rw [equals, eq_comm (a := keyForm _), ← equals_int_double_iff, equals]

theorem equals_stamp_iff {s t : Stamp} :
    equals (.stamp s) (.stamp t) = true ↔ keyForm (.stamp s) = keyForm (.stamp t) := by
  rcases s with d | ⟨d, c, _ | a⟩ <;> rcases t with e | ⟨e, k, _ | b⟩ <;>
    simp [equals, keyForm, Stamp.same]

/-- A truth value has the key form of the number it counts for. -/
theorem keyForm_counted (a : Scalar) : a.counted.keyForm = a.keyForm := by
  rcases a with _ | (_ | _) | _ | _ | _ | _ | _ <;> simp [counted, keyForm]

/-- The key form of a number with a point is that of no scalar but a number. -/
theorem keyForm_double (d : Double) :
    (∃ q, keyForm (.double d) = .number q) ∨ keyForm (.double d) = .itself (.double d) := by
  cases d with
  | nan => exact Or.inr rfl
  | infinite s => exact Or.inr rfl
  | finite s m e => exact Or.inl ⟨_, rfl⟩

/-- The key form of a stamp is that of no scalar but a stamp. -/
theorem keyForm_stamp (t : Stamp) :
    (∃ i, keyForm (.stamp t) = .instant i) ∨ keyForm (.stamp t) = .itself (.stamp t) := by
  rcases t with d | ⟨d, c, _ | a⟩
  · exact Or.inr rfl
  · exact Or.inr rfl
  · exact Or.inl ⟨_, rfl⟩

theorem counted_ne_bool (a : Scalar) (c : Bool) : a.counted ≠ .bool c := by
  cases a <;> simp [counted]

/-- Equality of data is equality of key forms, truth values apart. -/
theorem equals_iff {a b : Scalar} (ha : ∀ c, a ≠ .bool c) (hb : ∀ c, b ≠ .bool c) :
    a.equals b = true ↔ a.keyForm = b.keyForm := by
  -- Scalars of two sorts are neither equal nor of one form, integers and doubles apart.
  cases a with
  | bool c => exact absurd rfl (ha c)
  | double d =>
    cases b with
    | bool c => exact absurd rfl (hb c)
    | double e => exact equals_double_iff
    | int n => exact equals_double_int_iff
    | stamp t =>
      rcases keyForm_double d with ⟨q, h⟩ | h <;> rcases keyForm_stamp t with ⟨i, h'⟩ | h' <;>
        simp [equals, h, h']
    | null | text | bytes => rcases keyForm_double d with ⟨q, h⟩ | h <;> simp [equals, h]
  | stamp s =>
    cases b with
    | bool c => exact absurd rfl (hb c)
    | stamp t => exact equals_stamp_iff
    | double e =>
      rcases keyForm_stamp s with ⟨i, h⟩ | h <;> rcases keyForm_double e with ⟨q, h'⟩ | h' <;>
        simp [equals, h, h']
    | null | int | text | bytes => rcases keyForm_stamp s with ⟨i, h⟩ | h <;> simp [equals, h]
  | int n =>
    cases b with
    | bool c => exact absurd rfl (hb c)
    | double e => exact equals_int_double_iff
    | stamp t => rcases keyForm_stamp t with ⟨i, h⟩ | h <;> simp [equals, h]
    | null | int | text | bytes => simp [equals]
  | null | text | bytes =>
    cases b with
    | bool c => exact absurd rfl (hb c)
    | double e => rcases keyForm_double e with ⟨q, h⟩ | h <;> simp [equals, h]
    | stamp t => rcases keyForm_stamp t with ⟨i, h⟩ | h <;> simp [equals, h]
    | null | int | text | bytes => simp [equals]

theorem equals_refl (a : Scalar) : a.equals a = true := by
  cases a with
  | bool c => simp [equals]
  | null | int | double | text | stamp | bytes => exact (equals_iff (by simp) (by simp)).mpr rfl

/-- **Scalars are alike exactly when they have one key form.** -/
theorem alike_iff {a b : Scalar} : a.alike b = true ↔ a.keyForm = b.keyForm := by
  rw [alike, equals_iff (counted_ne_bool a) (counted_ne_bool b), keyForm_counted, keyForm_counted]

theorem alike_refl (a : Scalar) : a.alike a = true := alike_iff.mpr rfl

theorem alike_symm {a b : Scalar} (h : a.alike b = true) : b.alike a = true :=
  alike_iff.mpr (alike_iff.mp h).symm

theorem alike_comm (a b : Scalar) : a.alike b = b.alike a :=
  Bool.eq_iff_iff.mpr ⟨alike_symm, alike_symm⟩

theorem alike_trans {a b c : Scalar} (h : a.alike b = true) (h' : b.alike c = true) :
    a.alike c = true :=
  alike_iff.mpr ((alike_iff.mp h).trans (alike_iff.mp h'))

/-- Only a text is taken for a text. -/
theorem alike_text_iff {key : Scalar} {name : String} :
    key.alike (.text name) = true ↔ key = .text name := by
  rw [alike_iff, keyForm_text]
  cases key with
  | double d =>
    rcases keyForm_double d with ⟨q, h⟩ | h <;> simp [h]
  | stamp t =>
    rcases keyForm_stamp t with ⟨i, h⟩ | h <;> simp [h]
  | null | bool | int | text | bytes => simp

/-- And the other way round. -/
theorem text_alike_iff {key : Scalar} {name : String} :
    (Scalar.text name).alike key = true ↔ key = .text name :=
  ⟨fun h => alike_text_iff.mp (alike_symm h), fun h => alike_symm (alike_text_iff.mpr h)⟩

/-- Alike keys are alike to the same keys. -/
theorem alike_congr {a b : Scalar} (h : a.alike b = true) (c : Scalar) : c.alike a = c.alike b :=
  Bool.eq_iff_iff.mpr ⟨fun hca => alike_trans hca h, fun hcb => alike_trans hcb (alike_symm h)⟩

end Scalar

end ApiTools
