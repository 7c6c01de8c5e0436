import ApiTools.Proofs.Schema.Inlining
import ApiTools.Proofs.Schema.Leaves

/-!
# Compositions as unions

A composition is resolved to the union of its leaves: a later leaf overrules the properties of an
earlier one, and required names are kept one after the other, with repetitions.  It makes no
difference in what groups the branches are composed, as long as no group is so deep that a leaf is
cut.

A composition without branches is a leaf of its own.  It brings no property and no required name,
but the references that lead to it are among those followed.

## Main definitions

* `Schema.EndsIn` — the references from a node on lead to a composition.
* `Schema.Flattens` — branches, and what they are when the compositions among them are opened.
* `Schema.WellShaped` — a node with a map of properties and a list of required names, if any.
* `Schema.unionNode` — the node that leaves add up to.

## Main results

* `Schema.leaves_of_le` — leaves of which none is cut are the same with more room.
* `Schema.Flattens.addsUp` — **opening a composition among branches changes no sum.**
* `Schema.resolve_composition` — **a composition is resolved to the union of its leaves, in whatever
  groups its branches are composed.**
* `Schema.branchless_leaf_counts` — a composition without branches counts as a leaf.
-/

namespace ApiTools

namespace Schema

variable {document schema : Value} {room : Nat} {visited : List String} {node : Entries}

/-! ### Compositions that references lead to -/

/-- The references from a node on lead, none of them cut, to a composition: the room that is left
for its branches, the branches, and the references followed on the way. -/
inductive EndsIn (document : Value) :
    Nat → Value → List String → Nat → List Value → List String → Prop where
  /-- The node is the composition. -/
  | composed {room : Nat} {schema : Value} {visited : List String} (node : Entries)
    (hbare : schema.bare = .map node) (href : refOf node = .null) (branches : Value)
    (hallOf : node.get? "allOf" = some branches) {items : List Value}
    (hitems : (branches.orElse (.list [])).elements = .ok items) :
    EndsIn document (room + 1) schema visited room items visited
  /-- The node names another one that leads there. -/
  | followed {room left : Nat} {schema : Value} {visited reached : List String}
    {items : List Value} (node : Entries) (hbare : schema.bare = .map node) (name : String)
    (href : refOf node = .text name) (hvisited : name ∉ visited) (target : Value)
    (htarget : Pointer.resolveValue document (.text name) = .ok target)
    (h : EndsIn document room target (visit visited name) left items reached) :
    EndsIn document (room + 1) schema visited left items reached

variable {left : Nat} {items : List Value} {reached : List String} {ls : List Leaf}
variable {ps : List Merge}

/-- Where the references lead to a composition, its branches are merged. -/
theorem resolveWithin_of_endsIn (h : EndsIn document room schema visited left items reached) :
    resolveWithin document room schema visited =
      mergeAll (fun branch => resolveWithin document left branch reached) reached items >>=
        fun merge => .ok ⟨merge.node, merge.visited⟩ := by
  induction h with
  | composed node hbare href branches hallOf hitems =>
    rw [resolveWithin_composed hbare href hallOf, hitems]
    rfl
  | followed node hbare name href hvisited target htarget _ ih =>
    rw [resolveWithin_reference hbare href, if_neg hvisited, htarget]
    exact ih

/-- **A composition is resolved to what the leaves of its branches add up to.** -/
theorem resolveWithin_of_branchLeaves
    (h : EndsIn document room schema visited left items reached)
    (hls : branchLeaves document left items reached = .ok ls) (hps : Bring ls ps) :
    resolveWithin document room schema visited =
      .ok ⟨(ps.foldl Merge.plus ⟨[], [], reached⟩).node,
        (ps.foldl Merge.plus ⟨[], [], reached⟩).visited⟩ := by
  obtain ⟨parts, pss, hparts, hadds, rfl⟩ := exists_parts_of_branchLeaves hls hps
    fun branch _ ls ps => exists_resolve_of_leaves
  rw [← AddsUp.foldl hadds]
  rw [resolveWithin_of_endsIn h, mergeAll_eq_ok_iff.mpr ⟨parts, hparts, rfl⟩]
  rfl

/-! ### Compositions in compositions -/

/-- Whether no leaf stands for a node that is cut. -/
def Uncut (ls : List Leaf) : Prop := ∀ leaf ∈ ls, leaf.origin ≠ .cut

theorem uncut_append {more : List Leaf} : Uncut (ls ++ more) ↔ Uncut ls ∧ Uncut more :=
  List.forall_mem_append

theorem branchLeaves_of_le {room' : Nat} (hleaves : ∀ branch ls,
      leaves document room branch visited = .ok ls → Uncut ls →
      leaves document room' branch visited = .ok ls)
    (h : branchLeaves document room items visited = .ok ls) (huncut : Uncut ls) :
    branchLeaves document room' items visited = .ok ls := by
  induction items generalizing ls with
  | nil => exact h
  | cons item items ih =>
    obtain ⟨first, rest, hfirst, hrest, rfl⟩ := branchLeaves_cons_eq_ok_iff.mp h
    obtain ⟨hcut, hcuts⟩ := uncut_append.mp huncut
    exact branchLeaves_cons_eq_ok_iff.mpr
      ⟨first, rest, hleaves item first hfirst hcut, ih hrest hcuts, rfl⟩

/-- Leaves of which none is cut are the same with more room. -/
theorem leaves_of_le {room' : Nat} (hroom : room ≤ room')
    (h : leaves document room schema visited = .ok ls) (huncut : Uncut ls) :
    leaves document room' schema visited = .ok ls := by
  induction room generalizing room' schema visited ls with
  | zero =>
    cases h
    exact absurd rfl (huncut _ List.mem_cons_self)
  | succ room ih =>
    obtain ⟨room', rfl⟩ := Nat.exists_eq_add_one.mpr (Nat.lt_of_lt_of_le room.succ_pos hroom)
    have hroom := Nat.le_of_succ_le_succ hroom
    refine leaves_succ_iff.mpr ?_
    cases leaves_succ_iff.mp h with
    | noNode hbare hls => exact .noNode hbare hls
    | itself node hbare href hallOf hls => exact .itself node hbare href hallOf hls
    | branchless node hbare href branches hallOf hitems hls =>
      exact .branchless node hbare href branches hallOf hitems hls
    | composed node hbare href branches hallOf items hitems hne hls =>
      refine .composed node hbare href branches hallOf items hitems hne ?_
      exact branchLeaves_of_le (fun branch ls => ih hroom) hls huncut
    | cut node hbare name href hvisited hls => exact .cut node hbare name href hvisited hls
    | followed node hbare name href hvisited target htarget hls =>
      exact .followed node hbare name href hvisited target htarget (ih hroom hls huncut)

/-- Branches with compositions among them, and the branches with those of these compositions in
their place. -/
inductive Flattens : List Value → List Value → Prop where
  /-- There is no branch left. -/
  | nil : Flattens [] []
  /-- A branch stays. -/
  | keep (item : Value) {items flat : List Value} (h : Flattens items flat) :
    Flattens (item :: items) (item :: flat)
  /-- A composition is replaced by its branches. -/
  | opened (item : Value) (node : Entries) (hbare : item.bare = .map node)
    (href : refOf node = .null) (branches : Value) (hallOf : node.get? "allOf" = some branches)
    {inner innerFlat items flat : List Value}
    (hinner : (branches.orElse (.list [])).elements = .ok inner)
    (hnested : Flattens inner innerFlat) (h : Flattens items flat) :
    Flattens (item :: items) (innerFlat ++ flat)

theorem branchLeaves_append {more : List Value} {moreLeaves : List Leaf}
    (h : branchLeaves document room items visited = .ok ls)
    (hmore : branchLeaves document room more visited = .ok moreLeaves) :
    branchLeaves document room (items ++ more) visited = .ok (ls ++ moreLeaves) := by
  obtain ⟨lss, hlss, rfl⟩ := branchLeaves_eq_ok_iff.mp h
  obtain ⟨mss, hmss, rfl⟩ := branchLeaves_eq_ok_iff.mp hmore
  exact branchLeaves_eq_ok_iff.mpr ⟨lss ++ mss, List.rel_append hlss hmss, List.flatten_append.symm⟩

/-- The leaves of a composition that is not cut are those of its branches. -/
theorem leaves_branches {branches : Value} (hbare : schema.bare = .map node)
    (href : refOf node = .null) (hallOf : node.get? "allOf" = some branches)
    (hitems : (branches.orElse (.list [])).elements = .ok items)
    (h : leaves document (room + 1) schema visited = .ok ls) :
    items = [] ∧ ls = [⟨⟨[], visited⟩, .branchless⟩] ∨
      branchLeaves document room items visited = .ok ls := by
  cases leaves_succ_iff.mp h with
  | noNode hnone => exact absurd hbare (hnone node)
  | itself other hother _ hnone =>
    cases hother.symm.trans hbare
    cases hallOf.symm.trans hnone
  | branchless other hother _ others hothers hnil hls =>
    cases hother.symm.trans hbare
    cases hallOf.symm.trans hothers
    exact Or.inl ⟨Except.ok.inj (hitems.symm.trans hnil), hls⟩
  | composed other hother _ others hothers others' hitems' _ hls =>
    cases hother.symm.trans hbare
    cases hallOf.symm.trans hothers
    cases hitems.symm.trans hitems'
    exact Or.inr hls
  | cut other hother _ hname | followed other hother _ hname =>
    cases hother.symm.trans hbare
    cases href.symm.trans hname

/-- **Opening a composition among the branches does not change what the leaves add up to**, if no
leaf is cut. -/
theorem Flattens.addsUp {flat : List Value} (h : Flattens items flat) {room' : Nat}
    (hroom : room ≤ room') (hls : branchLeaves document room items visited = .ok ls)
    (huncut : Uncut ls) (hps : Bring ls ps) :
    ∃ ls' ps', branchLeaves document room' flat visited = .ok ls' ∧ Bring ls' ps' ∧
      ∀ base : Merge, visited ⊆ base.visited →
        ps.foldl Merge.plus base = ps'.foldl Merge.plus base := by
  induction h generalizing room ls ps with
  | nil =>
    cases hls
    cases hps
    exact ⟨[], [], rfl, .nil, fun _ _ => rfl⟩
  | keep item h ih =>
    obtain ⟨first, rest, hfirst, hrest, rfl⟩ := branchLeaves_cons_eq_ok_iff.mp hls
    obtain ⟨hcut, hcuts⟩ := uncut_append.mp huncut
    obtain ⟨qs, qss, hqs, hqss, rfl⟩ := Bring.append_iff.mp hps
    obtain ⟨ls', ps', hls', hps', hsum⟩ := ih hroom hrest hcuts hqss
    refine ⟨first ++ ls', qs ++ ps', ?_, Bring.append_iff.mpr ⟨qs, ps', hqs, hps', rfl⟩, ?_⟩
    · exact branchLeaves_cons_eq_ok_iff.mpr ⟨first, ls', leaves_of_le hroom hfirst hcut, hls', rfl⟩
    · intro base hbase
      rw [List.foldl_append, List.foldl_append, hsum]
      exact fun name hname => Merge.mem_visited_foldl.mpr (Or.inl (hbase hname))
  | @opened item node hbare href branches hallOf inner innerFlat items flat hinner hnested h
      ihInner ih =>
    obtain ⟨first, rest, hfirst, hrest, rfl⟩ := branchLeaves_cons_eq_ok_iff.mp hls
    obtain ⟨hcut, hcuts⟩ := uncut_append.mp huncut
    obtain ⟨qs, qss, hqs, hqss, rfl⟩ := Bring.append_iff.mp hps
    obtain ⟨ls', ps', hls', hps', hsum⟩ := ih hroom hrest hcuts hqss
    -- The composition is within the bound, as it would be a leaf that is cut otherwise.
    cases room with
    | zero =>
      cases hfirst
      exact absurd rfl (hcut _ List.mem_cons_self)
    | succ room =>
      have hopen : ∃ ms ns, branchLeaves document room' innerFlat visited = .ok ms ∧ Bring ms ns ∧
          ∀ base : Merge, visited ⊆ base.visited →
            qs.foldl Merge.plus base = ns.foldl Merge.plus base := by
        have hroom := Nat.le_of_succ_le hroom
        rcases leaves_branches hbare href hallOf hinner hfirst with ⟨rfl, rfl⟩ | hbranches
        · cases hnested
          rcases hqs with _ | ⟨hq, ⟨⟩⟩
          cases hq
          exact ⟨[], [], rfl, .nil, fun base hbase => Merge.plus_visited hbase⟩
        · exact ihInner hroom hbranches hcut hqs
      obtain ⟨ms, ns, hms, hns, hsumInner⟩ := hopen
      refine ⟨ms ++ ls', ns ++ ps', branchLeaves_append hms hls',
        Bring.append_iff.mpr ⟨ns, ps', hns, hps', rfl⟩, fun base hbase => ?_⟩
      rw [List.foldl_append, List.foldl_append, hsumInner base hbase, hsum]
      exact fun name hname => Merge.mem_visited_foldl.mpr (Or.inl (hbase hname))

/-! ### The union of leaves -/

/-- The required names that a node lists. -/
def listedNames (node : Entries) : List Value :=
  match (node.get? "required").map Value.bare with
  | some (.list names) => names
  | _ => []

/-- The properties of a node are a map and its required names a list, if it has them. -/
structure WellShaped (node : Entries) : Prop where
  /-- The properties are a map. -/
  properties : ∀ v, node.get? "properties" = some v → v = .null ∨ ∃ es, v.bare = .map es
  /-- The required names are a list. -/
  required : ∀ v, node.get? "required" = some v → v = .null ∨ ∃ names, v.bare = .list names

/-- What a leaf with a map of properties and a list of required names brings. -/
def Leaf.part (leaf : Leaf) : Merge :=
  ⟨declaredProperties leaf.node, listedNames leaf.node, leaf.visited⟩

theorem WellShaped.broughtProperties (h : WellShaped node) :
    broughtProperties node = .ok (declaredProperties node) := by
  unfold Schema.broughtProperties declaredProperties propertyEntries
  cases hv : node.get? "properties" with
  | none => rfl
  | some v =>
    rcases h.properties v hv with rfl | ⟨es, hbare⟩
    · rfl
    · rw [Option.getD_some, Value.bare_orElse_map hbare, Option.map_some, hbare]

theorem WellShaped.broughtRequired (h : WellShaped node) :
    broughtRequired node = .ok (listedNames node) := by
  unfold Schema.broughtRequired listedNames Value.elements
  cases hv : node.get? "required" with
  | none => rfl
  | some v =>
    rcases h.required v hv with rfl | ⟨names, hbare⟩
    · rfl
    · rw [Option.getD_some, Value.bare_orElse_list hbare, Option.map_some, hbare]

theorem WellShaped.bring (h : ∀ leaf ∈ ls, WellShaped leaf.node) :
    Bring ls (ls.map Leaf.part) := by
  refine List.forall₂_map_right_iff.mpr (List.forall₂_same.mpr fun leaf hleaf => ?_)
  exact brings_eq_ok_iff.mpr
    ⟨(h leaf hleaf).broughtProperties, (h leaf hleaf).broughtRequired, rfl⟩

/-- The properties of leaves, put into one map in order. -/
def unionProperties (ls : List Leaf) : Entries :=
  ls.foldl (fun es leaf => es.merge (declaredProperties leaf.node)) []

/-- The required names of leaves, one after the other. -/
def unionNames (ls : List Leaf) : List Value := ls.flatMap fun leaf => listedNames leaf.node

/-- The node that leaves add up to. -/
def unionNode (ls : List Leaf) : Entries :=
  [(.text "type", .text "object"), (.text "properties", .map (unionProperties ls))]
    ++ if unionNames ls = [] then [] else [(.text "required", .list (unionNames ls))]

theorem foldl_part (base : Merge) :
    (ls.map Leaf.part).foldl Merge.plus base =
      ⟨ls.foldl (fun es leaf => es.merge (declaredProperties leaf.node)) base.properties,
        base.required ++ unionNames ls, ls.foldl (fun seen leaf => visitAll seen leaf.visited)
          base.visited⟩ := by
  induction ls generalizing base with
  | nil => simp [unionNames]
  | cons leaf ls ih =>
    rw [List.map_cons, List.foldl_cons, ih]
    simp [Merge.plus, Leaf.part, unionNames]

theorem node_foldl_part (visited : List String) :
    ((ls.map Leaf.part).foldl Merge.plus ⟨[], [], visited⟩).node = unionNode ls := by
  rw [foldl_part]
  simp [Merge.node, unionNode, unionProperties]

/-- **A composition is the union of its leaves.**  Where the references lead, none of them cut, to a
composition, and the leaves of its branches have maps of properties and lists of required names, the
composition is resolved to the union of these, and the references followed are those on the way to
it and those on the way to its leaves.  Compositions among the branches may be opened: two
compositions that are reached by the same references, and have the same branches when all nested ones
are opened, are resolved alike, as long as no leaf is cut. -/
theorem resolve_composition {depth : Int}
    (hends : EndsIn document (Schema.room depth) schema visited left items reached)
    (hls : branchLeaves document left items reached = .ok ls)
    (hshaped : ∀ leaf ∈ ls, WellShaped leaf.node) :
    (∃ seen, resolve document schema visited depth = .ok ⟨unionNode ls, seen⟩ ∧
      ∀ name, name ∈ seen ↔ name ∈ reached ∨ ∃ leaf ∈ ls, name ∈ leaf.visited) ∧
    ∀ {schema' visited' left' items' ls' depth'} (flat : List Value),
      EndsIn document (Schema.room depth') schema' visited' left' items' reached →
      branchLeaves document left' items' reached = .ok ls' →
      (∀ leaf ∈ ls', WellShaped leaf.node) → Uncut ls → Uncut ls' →
      Flattens items flat → Flattens items' flat →
      resolve document schema' visited' depth' = resolve document schema visited depth := by
  have hresolve := resolveWithin_of_branchLeaves hends hls (WellShaped.bring hshaped)
  constructor
  · refine ⟨_, hresolve.trans (by rw [node_foldl_part]), fun name => ?_⟩
    simp only [Merge.mem_visited_foldl, List.mem_map, exists_exists_and_eq_and]
    rfl
  · intro schema' visited' left' items' ls' depth' flat hends' hls' hshaped' hcut hcut' hflat hflat'
    have hresolve' := resolveWithin_of_branchLeaves hends' hls' (WellShaped.bring hshaped')
    -- Both are compared with the branches when all are opened, where there is room for either.
    obtain ⟨ms, qs, hms, hqs, hsum⟩ := hflat.addsUp (Nat.le_max_left left left') hls hcut
      (WellShaped.bring hshaped)
    obtain ⟨ms', qs', hms', hqs', hsum'⟩ := hflat'.addsUp (Nat.le_max_right left left') hls' hcut'
      (WellShaped.bring hshaped')
    cases hms.symm.trans hms'
    have hsame : qs = qs' := hqs.unique hqs'
    have hbase : reached ⊆ (⟨[], [], reached⟩ : Merge).visited := List.Subset.refl _
    unfold resolve
    rw [hresolve, hresolve', hsum _ hbase, hsum' _ hbase, hsame]

/-- The node of maps that have one property, a text. -/
def textHolder (name : String) : Entries :=
  [(.text "properties", .record [(name, .record [("type", .text "string")])]),
    (.text "required", .list [.text name])]

theorem wellShaped_textHolder (name : String) : WellShaped (textHolder name) := by
  constructor
  · intro v hv
    obtain rfl : _ = v := Option.some.inj hv
    exact Or.inr ⟨_, rfl⟩
  · intro v hv
    obtain rfl : _ = v := Option.some.inj hv
    exact Or.inr ⟨_, rfl⟩

theorem wellShaped_nil : WellShaped [] := ⟨nofun, nofun⟩

/-- The composition of schemas. -/
def composition (items : List Value) : Value := .record [("allOf", .list items)]

/-- A document that names a composition of two. -/
def holderDocument : Value :=
  .record [("Named", composition [.map (textHolder "id"), .map (textHolder "name")])]

/-- Branches with the named composition, and two more of which one is in a composition with it. -/
def grouped : List Value :=
  [composition [reference "#/Named", .map (textHolder "id")], .map (textHolder "text")]

/-- The same branches in other groups. -/
def regrouped : List Value :=
  [reference "#/Named",
    composition [.map (textHolder "id"), composition [.map (textHolder "text")], composition []]]

/-- The leaves of the branches, in groups or not. -/
def holderLeaves : List Leaf :=
  [⟨⟨textHolder "id", ["#/Named"]⟩, .given⟩, ⟨⟨textHolder "name", ["#/Named"]⟩, .given⟩,
    ⟨⟨textHolder "id", []⟩, .given⟩, ⟨⟨textHolder "text", []⟩, .given⟩]

theorem endsIn_composition (document : Value) (room : Nat) (items visited) :
    EndsIn document (room + 1) (composition items) visited room items visited := by
  refine .composed _ rfl rfl _ rfl ?_
  cases items <;> rfl

theorem Flattens.composition {inner innerFlat items flat : List Value}
    (hnested : Flattens inner innerFlat) (h : Flattens items flat) :
    Flattens (composition inner :: items) (innerFlat ++ flat) := by
  refine .opened _ _ rfl rfl _ rfl ?_ hnested h
  cases inner <;> rfl

/-- The two groupings are resolved alike, to the union of four leaves. -/
theorem resolve_grouped :
    (∃ seen, resolve holderDocument (composition grouped) [] 0 =
        .ok ⟨unionNode holderLeaves, seen⟩ ∧
      ∀ name, name ∈ seen ↔ name ∈ ([] : List String) ∨ ∃ leaf ∈ holderLeaves, name ∈ leaf.visited) ∧
    resolve holderDocument (composition regrouped) [] 0 =
      resolve holderDocument (composition grouped) [] 0 := by
  have hends : EndsIn holderDocument (Schema.room 0) (composition grouped) [] 8 grouped [] :=
    endsIn_composition holderDocument 8 grouped []
  have hends' : EndsIn holderDocument (Schema.room 0) (composition regrouped) [] 8 regrouped [] :=
    endsIn_composition holderDocument 8 regrouped []
  have hshaped : ∀ leaf ∈ holderLeaves, WellShaped leaf.node := by
    simp [holderLeaves, wellShaped_textHolder]
  have hls : branchLeaves holderDocument 8 grouped [] = .ok holderLeaves := rfl
  have hls' : branchLeaves holderDocument 8 regrouped [] =
      .ok (holderLeaves ++ [⟨⟨[], []⟩, .branchless⟩]) := rfl
  have hflat : Flattens grouped
      [reference "#/Named", .map (textHolder "id"), .map (textHolder "text")] :=
    .composition (.keep _ (.keep _ .nil)) (.keep _ .nil)
  have hflat' : Flattens regrouped
      [reference "#/Named", .map (textHolder "id"), .map (textHolder "text")] :=
    .keep _ (.composition (.keep _ (.composition (.keep _ .nil) (.composition .nil .nil))) .nil)
  obtain ⟨hresolve, hregroup⟩ := resolve_composition hends hls hshaped
  refine ⟨hresolve, hregroup _ hends' hls' ?_ ?_ ?_ hflat hflat'⟩
  · simp [holderLeaves, wellShaped_textHolder, wellShaped_nil]
  · simp [Uncut, holderLeaves]
  · simp [Uncut, holderLeaves]

/-- A document that names a composition without branches. -/
def branchlessDocument : Value := .record [("x", composition [])]

/-- **A composition without branches counts as a leaf**: the reference to it is among those
followed, though no node stands at the end of it. -/
theorem branchless_leaf_counts :
    ∃ ls, branchLeaves branchlessDocument 8 [reference "#/x"] [] = .ok ls ∧
      EndsIn branchlessDocument (Schema.room 0) (composition [reference "#/x"]) [] 8
        [reference "#/x"] [] ∧
      (∀ leaf ∈ ls, WellShaped leaf.node) ∧
      ls.filter (fun leaf => leaf.origin ≠ .branchless) = [] ∧
      ¬ ∃ seen, resolve branchlessDocument (composition [reference "#/x"]) [] 0 =
          .ok ⟨unionNode [], seen⟩ ∧
        ∀ name, name ∈ seen ↔
          name ∈ ([] : List String) ∨ ∃ leaf ∈ ([] : List Leaf), name ∈ leaf.visited := by
  have hresolve : resolve branchlessDocument (composition [reference "#/x"]) [] 0 =
      .ok ⟨unionNode [], ["#/x"]⟩ := rfl
  refine ⟨[⟨⟨[], ["#/x"]⟩, .branchless⟩], rfl, endsIn_composition _ 8 _ [], ?_, rfl, ?_⟩
  · simp [wellShaped_nil]
  · rintro ⟨seen, hseen, hmem⟩
    obtain rfl := (Resolution.mk.inj (Except.ok.inj (hresolve.symm.trans hseen))).2
    simpa using (hmem "#/x").mp List.mem_cons_self

end Schema

end ApiTools
