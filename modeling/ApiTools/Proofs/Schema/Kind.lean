import Mathlib.Tactic.SplitIfs
import ApiTools.Schema.Kind

/-!
# Kinds of nodes

The kind of a node is read off its keys in a fixed order: keys that name or compose other nodes and
keys that leave a choice come first, then the type, then a list of values.  Whether a node describes
a map is asked without regard to that order.

## Main definitions

* `Schema.overridingKeys` — the keys by which a node is read before its type is looked at.

## Main results

* `Schema.kind_eq_object_iff` — **a node that describes a map is read as one unless it has an
  overriding key.**
* `Schema.members_ne_nil_of_enumeration` — an enumeration lists a value.
-/

namespace ApiTools

namespace Schema

variable {node : Entries}

/-! ### Nodes that describe maps -/

/-- The keys by which a node is read before its type is looked at. -/
def overridingKeys : List String := ["$ref", "allOf", "oneOf", "anyOf"]

theorem ne_nil_of_isObject (h : isObject node = true) : node ≠ [] := by
  rintro rfl
  cases h

/-- A node that describes a map has at most one type. -/
theorem length_declaredTypes_of_isObject (h : isObject node = true) :
    (declaredTypes node).1.length ≤ 1 := by
  unfold isObject at h
  split at h
  · next heq => simp [heq]
  · next heq => simp [heq]
  · cases h

/-- A node that describes a map is read as one, or by an overriding key. -/
theorem kind_of_isObject (h : isObject node = true) :
    kind node =
      if node.hasKey (.text "$ref") then .reference
      else if node.hasKey (.text "allOf") then .composite
      else if node.hasKey (.text "oneOf") || node.hasKey (.text "anyOf") then .union
      else .object := by
  have hempty : node.isEmpty = false := by simpa using ne_nil_of_isObject h
  have hlength : ¬ 1 < (declaredTypes node).1.length := by
    have := length_declaredTypes_of_isObject h
    omega
  unfold kind
  dsimp only
  rw [if_neg (by simp [hempty]), if_neg hlength, if_pos h]

/-- **A node that describes a map is read as one unless it has an overriding key.** -/
theorem kind_eq_object_iff (h : isObject node = true) :
    kind node = .object ↔ ∀ name ∈ overridingKeys, node.hasKey (.text name) = false := by
  rw [kind_of_isObject h]
  simp only [overridingKeys, List.forall_mem_cons, List.not_mem_nil, false_implies, implies_true,
    and_true]
  cases node.hasKey (.text "$ref") <;> cases node.hasKey (.text "allOf") <;>
    cases node.hasKey (.text "oneOf") <;> cases node.hasKey (.text "anyOf") <;> simp

/-! ### Lists of values -/

/-- No type is read as a list of values. -/
theorem primitiveKind?_ne_enumeration (name : String) :
    primitiveKind? name ≠ some .enumeration := by
  unfold primitiveKind?
  split_ifs <;> simp

theorem members_ne_nil_of_enumeration (h : kind node = .enumeration) : members node ≠ [] := by
  intro hnil
  unfold kind at h
  rw [hnil] at h
  dsimp only at h
  split_ifs at h with _ _ _ _ _ _ hempty
  · split at h
    · next htype =>
      obtain ⟨name, -, hname⟩ := Option.bind_eq_some_iff.mp htype
      exact primitiveKind?_ne_enumeration name (h ▸ hname)
    · cases h
  · exact hempty rfl

end Schema

end ApiTools
