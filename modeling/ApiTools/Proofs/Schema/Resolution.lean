import ApiTools.Proofs.Schema.Kind
import ApiTools.Proofs.Value.Plain
import ApiTools.Schema.Resolution

/-!
# One step of resolution

Resolution looks at one node and does one of five things: it stops at what is no node, it stops at a
node that neither names nor composes others, it merges the branches of a composition, it cuts a
reference that was followed before, or it follows one.  Whatever holds of resolved nodes is derived
from this list by induction on the room that is left.

## Main definitions

* `Schema.ResolveStep` — what a resolution with room left can do.
* `Schema.broughtProperties`, `Schema.broughtRequired` — what a branch brings into a merge.

## Main results

* `Schema.resolveWithin_succ`, `Schema.resolveWithin_of_step` — **these are all the things it can
  do**, and it does each of them.
* `Schema.isPlain_resolveWithin` — the resolution of a plain node in a plain document is plain.
* `Schema.get?_allOf_resolveWithin` — a resolved node composes no others.
-/

namespace ApiTools

namespace Schema

/-! ### References followed -/

theorem mem_visit {visited : List String} {ref name : String} :
    name ∈ visit visited ref ↔ name ∈ visited ∨ name = ref := by
  unfold visit
  split
  · next h => exact ⟨Or.inl, fun hname => hname.elim id fun heq => heq ▸ h⟩
  · rw [List.mem_append, List.mem_singleton]

theorem mem_visitAll {visited others : List String} {ref : String} :
    ref ∈ visitAll visited others ↔ ref ∈ visited ∨ ref ∈ others := by
  unfold visitAll
  induction others generalizing visited with
  | nil => simp
  | cons other others ih => rw [List.foldl_cons, ih, mem_visit, List.mem_cons, or_assoc]

/-- A reference was followed exactly when it is a text that is listed. -/
theorem isVisited_eq_true_iff {visited : List String} {ref : Value} :
    isVisited visited ref = .ok true ↔ ∃ name ∈ visited, ref = .text name := by
  cases ref with
  | scalar s =>
    cases s with
    | text name =>
      have : isVisited visited (.text name) = .ok (visited.contains name) := rfl
      simp [this]
    | null | bool | int | double | stamp | bytes =>
      refine iff_of_false (fun h => ?_) (by simp)
      exact Bool.false_ne_true (Except.ok.inj h)
  | list | map | knot => exact iff_of_false (fun h => nomatch h) (by simp)
  | group form items =>
    refine iff_of_false (fun h => ?_) (by simp)
    cases form with
    | set => exact Bool.false_ne_true (Except.ok.inj h)
    | pair =>
      obtain ⟨members, hmembers, h⟩ := Except.bind_eq_ok_iff.mp h
      -- A pair has no scalar among its members.
      unfold Value.members at hmembers
      split at hmembers
      · cases hmembers
        exact Bool.false_ne_true (Except.ok.inj h)
      · cases hmembers

/-! ### The five things that a resolution can do -/

/-- The reference of a node, null if it has none. -/
def refOf (node : Entries) : Value := (node.get? "$ref").getD .null

/-- What a resolution with room left can do. -/
inductive ResolveStep (document : Value) (room : Nat) (schema : Value) (visited : List String)
    (r : Resolution) : Prop where
  /-- It stops at what is no node. -/
  | noNode (hbare : ∀ node, schema.bare ≠ .map node) (hr : r = ⟨[], visited⟩)
  /-- It stops at a node that neither names nor composes others. -/
  | itself (node : Entries) (hbare : schema.bare = .map node) (href : refOf node = .null)
      (hallOf : node.get? "allOf" = none) (hr : r = ⟨node, visited⟩)
  /-- It merges the branches of a composition, each resolved on its own. -/
  | composed (node : Entries) (hbare : schema.bare = .map node) (href : refOf node = .null)
      (branches : Value) (hallOf : node.get? "allOf" = some branches) (items : List Value)
      (hitems : (branches.orElse (.list [])).elements = .ok items) (merge : Merge)
      (hmerge : mergeAll (fun branch => resolveWithin document room branch visited) visited items
        = .ok merge)
      (hr : r = ⟨merge.node, merge.visited⟩)
  /-- It cuts a reference that was followed before. -/
  | cut (node : Entries) (hbare : schema.bare = .map node) (name : String)
      (href : refOf node = .text name) (hvisited : name ∈ visited) (hr : r = ⟨[], visited⟩)
  /-- It follows a reference. -/
  | followed (node : Entries) (hbare : schema.bare = .map node) (name : String)
      (href : refOf node = .text name) (hvisited : name ∉ visited) (target : Value)
      (htarget : Pointer.resolveValue document (.text name) = .ok target)
      (hr : resolveWithin document room target (visit visited name) = .ok r)

/-- Only a text is taken as one. -/
theorem eq_text_of_textOrFail {v : Value} {s : String} (h : v.textOrFail = .ok s) : v = .text s := by
  unfold Value.textOrFail at h
  split at h
  · exact congrArg Value.text (Except.ok.inj h)
  · cases h
  · cases h

/-- Only a text can be followed. -/
theorem exists_text_of_resolveValue {document ref target : Value}
    (h : Pointer.resolveValue document ref = .ok target) : ∃ name, ref = .text name := by
  obtain ⟨name, hname, -⟩ := Except.bind_eq_ok_iff.mp h
  exact ⟨name, eq_text_of_textOrFail hname⟩

variable {document schema : Value} {room : Nat} {visited : List String} {r : Resolution}

/-- **A resolution with room left does one of the five things.** -/
theorem resolveWithin_succ (h : resolveWithin document (room + 1) schema visited = .ok r) :
    ResolveStep document room schema visited r := by
  unfold resolveWithin at h
  split at h
  · next node hbare =>
    split at h
    · next href =>
      split at h
      · next branches hallOf =>
        obtain ⟨items, hitems, h⟩ := Except.bind_eq_ok_iff.mp h
        obtain ⟨merge, hmerge, h⟩ := Except.bind_eq_ok_iff.mp h
        exact .composed node hbare href branches hallOf items hitems merge hmerge
          (Except.ok.inj h).symm
      · next hallOf => exact .itself node hbare href hallOf (Except.ok.inj h).symm
    · obtain ⟨seen, hseen, h⟩ := Except.bind_eq_ok_iff.mp h
      split at h
      · next htrue =>
        subst htrue
        obtain ⟨name, hname, href⟩ := isVisited_eq_true_iff.mp hseen
        exact .cut node hbare name href hname (Except.ok.inj h).symm
      · next hfalse =>
        obtain ⟨target, htarget, h⟩ := Except.bind_eq_ok_iff.mp h
        obtain ⟨name, href⟩ := exists_text_of_resolveValue htarget
        rw [href] at htarget hseen h
        have hnot : name ∉ visited := fun hname =>
          hfalse (Except.ok.inj (hseen.symm.trans (isVisited_eq_true_iff.mpr ⟨name, hname, rfl⟩)))
        exact .followed node hbare name href hnot target htarget h
  · next hbare => exact .noNode hbare (Except.ok.inj h).symm

/-- **Each of the five things is what the resolution does.** -/
theorem resolveWithin_of_step (h : ResolveStep document room schema visited r) :
    resolveWithin document (room + 1) schema visited = .ok r := by
  unfold resolveWithin
  cases h with
  | noNode hbare hr =>
    split
    · next node hnode => exact absurd hnode (hbare node)
    · exact hr ▸ rfl
  | itself node hbare href hallOf hr =>
    unfold refOf at href
    simp only [hbare, href, hallOf, hr]
    rfl
  | composed node hbare href branches hallOf items hitems merge hmerge hr =>
    unfold refOf at href
    simp only [hbare, href, hallOf]
    refine Except.bind_eq_ok_iff.mpr ⟨items, hitems, ?_⟩
    exact Except.bind_eq_ok_iff.mpr ⟨merge, hmerge, hr ▸ rfl⟩
  | cut node hbare name href hvisited hr =>
    unfold refOf at href
    have hseen := isVisited_eq_true_iff.mpr ⟨name, hvisited, rfl⟩
    simp only [hbare, href]
    exact Except.bind_eq_ok_iff.mpr ⟨true, hseen, hr ▸ rfl⟩
  | followed node hbare name href hvisited target htarget hr =>
    unfold refOf at href
    have hseen : isVisited visited (.text name) = .ok false :=
      congrArg Except.ok (by simpa using hvisited)
    simp only [hbare, href]
    refine Except.bind_eq_ok_iff.mpr ⟨false, hseen, ?_⟩
    exact Except.bind_eq_ok_iff.mpr ⟨target, htarget, hr⟩

/-! ### Plain nodes -/

/-- The keys and the schemas of properties inherit what their list or map has. -/
theorem of_mem_propertyEntries {P : Value → Prop} (hP : Value.Hereditary P) {v : Value} (h : P v)
    {es : Entries} (hes : propertyEntries v = .ok es) : ∀ e ∈ es, P (.scalar e.1) ∧ P e.2 := by
  unfold propertyEntries at hes
  rw [Value.bare_of_isPlain (hP.isPlain h)] at hes
  intro e he
  split at hes
  · cases hes
    exact ⟨hP.key h he, hP.part h (.entry he)⟩
  · obtain ⟨items, hitems, hes⟩ := Except.bind_eq_ok_iff.mp hes
    obtain ⟨⟨item, index⟩, hitem, hpair⟩ := Except.exists_of_mem_mapM hes he
    have hitem := hP.elements h hitems item (List.fst_mem_of_mem_zipIdx hitem)
    obtain ⟨parts, hparts, hpair⟩ := Except.bind_eq_ok_iff.mp hpair
    split at hpair
    · next key value =>
      obtain ⟨k, hkey, hpair⟩ := Except.bind_eq_ok_iff.mp hpair
      have hkey : key = .scalar k := by
        unfold Value.key at hkey
        split at hkey <;> cases hkey
        rfl
      cases hpair
      subst hkey
      exact ⟨hP.elements hitem hparts _ (by simp), hP.elements hitem hparts _ (by simp)⟩
    · cases hpair

/-- The properties that a branch brings into a merge. -/
def broughtProperties (node : Entries) : Except Fault Entries :=
  propertyEntries (((node.get? "properties").getD .null).orElse (.map []))

/-- The required names that a branch brings into a merge. -/
def broughtRequired (node : Entries) : Except Fault (List Value) :=
  (((node.get? "required").getD .null).orElse (.list [])).elements

section

variable {P : Value → Prop} (hP : Value.Hereditary P) {node : Entries} (h : P (.map node))

include hP h

theorem of_mem_broughtProperties {es : Entries} (hes : broughtProperties node = .ok es) :
    ∀ e ∈ es, P (.scalar e.1) ∧ P e.2 :=
  of_mem_propertyEntries hP (Value.orElse_cases (hP.getD h "properties") hP.noEntries) hes

theorem of_mem_broughtRequired {names : List Value} (hnames : broughtRequired node = .ok names) :
    ∀ name ∈ names, P name :=
  hP.elements (Value.orElse_cases (hP.getD h "required") hP.noItems) hnames

/-- The values that a node lists inherit its properties. -/
theorem of_mem_members : ∀ v ∈ members node, P v := by
  intro v hv
  unfold members at hv
  split at hv
  · next items hitems =>
    obtain ⟨w, hw, hbare⟩ := Option.map_eq_some_iff.mp hitems
    have hlist : P w := hP.part h (Value.part_find? hw)
    rw [Value.bare_of_isPlain (hP.isPlain hlist)] at hbare
    subst hbare
    exact hP.part hlist (.item hv)
  · cases hv

end

/-- A merge with one more branch has the properties and the names that the branch brings. -/
theorem Merge.add_eq_ok_iff {merge merge' : Merge} {branch : Resolution} :
    merge.add branch = .ok merge' ↔
      ∃ properties required, broughtProperties branch.node = .ok properties ∧
        broughtRequired branch.node = .ok required ∧
        merge' = ⟨merge.properties.merge properties, merge.required ++ required,
          visitAll merge.visited branch.visited⟩ := by
  unfold Merge.add
  rw [Except.bind_eq_ok_iff]
  constructor
  · rintro ⟨properties, hproperties, h⟩
    obtain ⟨required, hrequired, h⟩ := Except.bind_pure_eq_ok_iff.mp h
    exact ⟨properties, required, hproperties, hrequired, h⟩
  · rintro ⟨properties, required, hproperties, hrequired, rfl⟩
    exact ⟨properties, hproperties, Except.bind_eq_ok_iff.mpr ⟨required, hrequired, rfl⟩⟩

/-- The properties of a merge are a plain map, and its required names are plain. -/
structure Merge.IsPlain (merge : Merge) : Prop where
  /-- No property is there twice, and the schemas are plain. -/
  properties : (Value.map merge.properties).isPlain = true
  /-- The names are plain. -/
  required : ∀ v ∈ merge.required, v.isPlain = true

theorem Merge.isPlain_add {merge merge' : Merge} {branch : Resolution} (h : merge.IsPlain)
    (hbranch : (Value.map branch.node).isPlain = true) (hadd : merge.add branch = .ok merge') :
    merge'.IsPlain := by
  obtain ⟨properties, required, hproperties, hrequired, rfl⟩ := Merge.add_eq_ok_iff.mp hadd
  have hP := Value.hereditary_isPlain
  have hgiven := of_mem_broughtProperties hP hbranch hproperties
  refine ⟨Value.isPlain_merge h.properties fun e he => (hgiven e he).2, ?_⟩
  exact List.forall_mem_append.mpr ⟨h.required, of_mem_broughtRequired hP hbranch hrequired⟩

theorem Merge.isPlain_node {merge : Merge} (h : merge.IsPlain) :
    (Value.map merge.node).isPlain = true := by
  unfold Merge.node
  split
  · exact Value.isPlain_map.mpr ⟨by simp [Scalar.DistinctKeys], by simp [h.properties]⟩
  · exact Value.isPlain_map.mpr ⟨by simp [Scalar.DistinctKeys],
      by simp [h.properties, Value.isPlain_list.mpr h.required]⟩

/-- **The resolution of a plain node in a plain document is plain.** -/
theorem isPlain_resolveWithin (hdocument : document.isPlain = true)
    (hschema : schema.isPlain = true) (h : resolveWithin document room schema visited = .ok r) :
    (Value.map r.node).isPlain = true := by
  induction room generalizing schema visited r with
  | zero =>
    cases h
    rfl
  | succ room ih =>
    cases resolveWithin_succ h with
    | noNode _ hr =>
      rw [hr]
      rfl
    | itself node hbare _ _ hr =>
      rw [hr, ← hbare, Value.bare_of_isPlain hschema]
      exact hschema
    | composed node hbare href branches hallOf items hitems merge hmerge hr =>
      rw [Value.bare_of_isPlain hschema] at hbare
      subst hbare
      have hbranches : (branches.orElse (.list [])).isPlain = true :=
        Value.orElse_cases (P := fun v => v.isPlain = true) (Value.isPlain_find? hschema hallOf) rfl
      have hkeeps : merge.IsPlain := by
        refine Except.foldlM_keeps (P := Merge.IsPlain) ?_ ⟨rfl, by simp⟩ hmerge
        intro merge item hitem merge' hplain hstep
        obtain ⟨branch, hbranch, hadd⟩ := Except.bind_eq_ok_iff.mp hstep
        exact Merge.isPlain_add hplain
          (ih (Value.isPlain_elements hbranches hitems item hitem) hbranch) hadd
      rw [hr]
      exact Merge.isPlain_node hkeeps
    | cut _ _ _ _ _ hr =>
      rw [hr]
      rfl
    | followed node hbare name href hvisited target htarget hr =>
      exact ih (Pointer.isPlain_resolveValue hdocument htarget) hr

/-! ### Resolved nodes -/

/-- What the node of a merge has at a name. -/
theorem Merge.get?_node (merge : Merge) (name : String) :
    merge.node.get? name =
      if name = "type" then some (.text "object")
      else if name = "properties" then some (.map merge.properties)
      else if name = "required" ∧ merge.required ≠ [] then some (.list merge.required)
      else none := by
  unfold Merge.node
  split
  · next h =>
    have hrequired : merge.required = [] := List.isEmpty_iff.mp h
    simp [Entries.get?_cons_text, hrequired]
  · next h =>
    have hrequired : merge.required ≠ [] := fun hnil => h (List.isEmpty_iff.mpr hnil)
    simp [Entries.get?_cons_text, hrequired]

/-- **A resolved node composes no others.** -/
theorem get?_allOf_resolveWithin (h : resolveWithin document room schema visited = .ok r) :
    r.node.get? "allOf" = none := by
  induction room generalizing schema visited r with
  | zero =>
    cases h
    rfl
  | succ room ih =>
    cases resolveWithin_succ h with
    | noNode _ hr | cut _ _ _ _ _ hr =>
      rw [hr]
      rfl
    | itself node _ _ hallOf hr =>
      rw [hr]
      exact hallOf
    | composed _ _ _ _ _ _ _ merge _ hr =>
      rw [hr, merge.get?_node]
      simp
    | followed _ _ _ _ _ _ _ hr => exact ih hr

end Schema

end ApiTools
