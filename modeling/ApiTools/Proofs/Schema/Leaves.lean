import ApiTools.Proofs.Schema.Cut

/-!
# The leaves of a composition

A composition may have compositions among its branches, and references to others.  What it is put
together from in the end are its leaves: nodes that neither name nor compose others, each with the
references followed on the way to it.  Resolution merges the branches of each composition on its own,
from the inside out.  As merging maps, appending lists and adding references are associative, this
comes to merging all leaves one after the other.

## Main definitions

* `Schema.Merge.plus` — what two merges add up to.
* `Schema.Leaf`, `Schema.leaves`, `Schema.branchLeaves` — the leaves of a node and of branches.
* `Schema.LeavesStep` — what the search for leaves with room left can do.
* `Schema.AddsUp` — what is brought in parts and as a whole is the same.

## Main results

* `Schema.Merge.plus_plus` — **adding up is associative.**
* `Schema.mergeAll_eq_ok_iff` — a merge of branches is what they add up to.
* `Schema.leaves_succ_iff` — **these are all the things that the search can do.**
* `Schema.exists_leaves_of_resolve`, `Schema.exists_resolve_of_leaves` — **a node brings into a merge
  what its leaves bring**, and it is resolved when these bring something.
-/

namespace ApiTools

namespace Schema

/-! ### Merging what adds up -/

/-- What two merges add up to. -/
def Merge.plus (merge more : Merge) : Merge :=
  ⟨merge.properties.merge more.properties, merge.required ++ more.required,
    visitAll merge.visited more.visited⟩

/-- What a branch brings into a merge. -/
def Resolution.brings (r : Resolution) : Except Fault Merge := do
  let properties ← broughtProperties r.node
  let required ← broughtRequired r.node
  return ⟨properties, required, r.visited⟩

theorem brings_eq_ok_iff {r : Resolution} {part : Merge} :
    r.brings = .ok part ↔ broughtProperties r.node = .ok part.properties ∧
      broughtRequired r.node = .ok part.required ∧ part.visited = r.visited := by
  unfold Resolution.brings
  constructor
  · intro h
    obtain ⟨properties, hproperties, h⟩ := Except.bind_eq_ok_iff.mp h
    obtain ⟨required, hrequired, rfl⟩ := Except.bind_pure_eq_ok_iff.mp h
    exact ⟨hproperties, hrequired, rfl⟩
  · rintro ⟨hproperties, hrequired, hvisited⟩
    rw [hproperties, hrequired, ← hvisited]
    rfl

theorem visitAll_of_subset {visited others : List String} (h : others ⊆ visited) :
    visitAll visited others = visited := by
  unfold visitAll
  induction others with
  | nil => rfl
  | cons ref others ih =>
    obtain ⟨hfirst, hrest⟩ := List.cons_subset.mp h
    rw [List.foldl_cons, visit, if_pos hfirst, ih hrest]

/-- Adding references is associative. -/
theorem visitAll_visitAll (visited others more : List String) :
    visitAll visited (visitAll others more) = visitAll (visitAll visited others) more := by
  induction more generalizing others with
  | nil => rfl
  | cons ref more ih =>
    refine (ih (visit others ref)).trans (congrArg (visitAll · more) ?_)
    by_cases h : ref ∈ others
    · rw [visit, if_pos h, visit, if_pos (mem_visitAll.mpr (Or.inr h))]
    · rw [visit, if_neg h]
      exact List.foldl_append ..

namespace Merge

/-- **Adding up is associative.** -/
theorem plus_plus (a b c : Merge) : a.plus (b.plus c) = (a.plus b).plus c := by
  simp only [plus, Entries.merge_merge, List.append_assoc, visitAll_visitAll]

theorem plus_foldl (base merge : Merge) (parts : List Merge) :
    base.plus (parts.foldl plus merge) = parts.foldl plus (base.plus merge) := by
  induction parts generalizing merge with
  | nil => rfl
  | cons part parts ih => rw [List.foldl_cons, ih, plus_plus, List.foldl_cons]

/-- A part that is empty but for references followed before adds nothing. -/
theorem plus_visited {base : Merge} {visited : List String} (h : visited ⊆ base.visited) :
    base.plus ⟨[], [], visited⟩ = base := by
  simp [plus, visitAll_of_subset h, Entries.merge]

theorem mem_visited_foldl {parts : List Merge} {base : Merge} {name : String} :
    name ∈ (parts.foldl plus base).visited ↔
      name ∈ base.visited ∨ ∃ part ∈ parts, name ∈ part.visited := by
  induction parts generalizing base with
  | nil => simp
  | cons part parts ih =>
    rw [List.foldl_cons, ih, List.exists_mem_cons_iff, ← or_assoc]
    exact or_congr_left mem_visitAll

theorem hasKey_foldl {parts : List Merge} {base : Merge} {name : Scalar} :
    (parts.foldl plus base).properties.hasKey name = true ↔
    base.properties.hasKey name = true ∨ ∃ part ∈ parts, part.properties.hasKey name = true := by
  induction parts generalizing base with
  | nil => simp
  | cons part parts ih =>
    rw [List.foldl_cons, ih, List.exists_mem_cons_iff, ← or_assoc]
    refine or_congr_left ?_
    rw [plus, Entries.hasKey_merge, Bool.or_eq_true]

theorem mem_required_foldl {parts : List Merge} {base : Merge} {v : Value} :
    v ∈ (parts.foldl plus base).required ↔
    v ∈ base.required ∨ ∃ part ∈ parts, v ∈ part.required := by
  induction parts generalizing base with
  | nil => simp
  | cons part parts ih =>
    rw [List.foldl_cons, ih, List.exists_mem_cons_iff, ← or_assoc]
    exact or_congr_left List.mem_append

theorem add_eq_ok_iff_brings {merge merge' : Merge} {r : Resolution} :
    merge.add r = .ok merge' ↔ ∃ part, r.brings = .ok part ∧ merge' = merge.plus part := by
  simp only [Merge.add_eq_ok_iff, brings_eq_ok_iff]
  constructor
  · rintro ⟨properties, required, hproperties, hrequired, rfl⟩
    exact ⟨⟨properties, required, r.visited⟩, ⟨hproperties, hrequired, rfl⟩, rfl⟩
  · rintro ⟨part, ⟨hproperties, hrequired, hvisited⟩, rfl⟩
    exact ⟨part.properties, part.required, hproperties, hrequired, by rw [plus, hvisited]⟩

theorem brings_node (merge : Merge) :
    Resolution.brings ⟨merge.node, merge.visited⟩ = .ok merge :=
  brings_eq_ok_iff.mpr ⟨merge.broughtProperties_node, merge.broughtRequired_node, rfl⟩

end Merge

/-- **Branches are merged when each of them brings something, and the merge is what that adds up
to.** -/
theorem mergeAll_eq_ok_iff {resolveBranch : Value → Except Fault Resolution}
    {visited : List String} {branches : List Value} {merge : Merge} :
    mergeAll resolveBranch visited branches = .ok merge ↔
      ∃ parts, List.Forall₂ (fun branch part => ∃ r, resolveBranch branch = .ok r ∧
        r.brings = .ok part) branches parts ∧ merge = parts.foldl Merge.plus ⟨[], [], visited⟩ := by
  unfold mergeAll
  generalize (⟨[], [], visited⟩ : Merge) = base
  induction branches generalizing base with
  | nil =>
    constructor
    · intro h
      exact ⟨[], .nil, (Except.ok.inj h).symm⟩
    · rintro ⟨parts, hparts, rfl⟩
      cases hparts
      rfl
  | cons branch branches ih =>
    rw [List.foldlM_cons, Except.bind_eq_ok_iff]
    constructor
    · rintro ⟨next, hnext, h⟩
      obtain ⟨r, hr, hnext⟩ := Except.bind_eq_ok_iff.mp hnext
      obtain ⟨part, hpart, rfl⟩ := Merge.add_eq_ok_iff_brings.mp hnext
      obtain ⟨parts, hparts, rfl⟩ := (ih _).mp h
      exact ⟨part :: parts, .cons ⟨r, hr, hpart⟩ hparts, rfl⟩
    · rintro ⟨parts, hparts, rfl⟩
      cases hparts with
      | @cons _ part _ parts hfirst hparts =>
        obtain ⟨r, hr, hpart⟩ := hfirst
        refine ⟨base.plus part, ?_, (ih _).mpr ⟨parts, hparts, rfl⟩⟩
        exact Except.bind_eq_ok_iff.mpr
          ⟨r, hr, Merge.add_eq_ok_iff_brings.mpr ⟨part, hpart, rfl⟩⟩

/-! ### The leaves of a composition -/

/-- What a leaf is there for. -/
inductive Leaf.Origin where
  /-- It is what stands there. -/
  | given
  /-- It stands for a node that is cut. -/
  | cut
  /-- It stands for a composition that has no branches. -/
  | branchless
  deriving DecidableEq

/-- A node that a composition is put together from, with the references followed on the way to
it. -/
structure Leaf extends Resolution where
  /-- What it is there for. -/
  origin : Leaf.Origin

/-- The leaves of a node with the given room: the node itself, or those of what it names, or those
of its branches one after the other. -/
def leaves (document : Value) : Nat → Value → List String → Except Fault (List Leaf)
  | 0, _, visited => .ok [⟨⟨[], visited⟩, .cut⟩]
  | room + 1, schema, visited =>
    match schema.bare with
    | .map node =>
      match refOf node with
      | .null =>
        match Entries.get? node "allOf" with
        | none => .ok [⟨⟨node, visited⟩, .given⟩]
        | some branches => do
          let items ← (branches.orElse (.list [])).elements
          if items.isEmpty then return [⟨⟨[], visited⟩, .branchless⟩]
          return (← items.mapM fun branch => leaves document room branch visited).flatten
      | ref => do
        if ← isVisited visited ref then return [⟨⟨[], visited⟩, .cut⟩]
        let target ← Pointer.resolveValue document ref
        leaves document room target (visit visited (ref.text?.getD ""))
    | _ => .ok [⟨⟨[], visited⟩, .given⟩]

/-- The leaves of the branches of a composition. -/
def branchLeaves (document : Value) (room : Nat) (items : List Value) (visited : List String) :
    Except Fault (List Leaf) := do
  return (← items.mapM fun branch => leaves document room branch visited).flatten

variable {document schema : Value} {room : Nat} {visited : List String} {node : Entries}

/-- What the search for leaves with room left can do. -/
inductive LeavesStep (document : Value) (room : Nat) (schema : Value) (visited : List String)
    (ls : List Leaf) : Prop where
  /-- What is no node is an empty leaf. -/
  | noNode (hbare : ∀ node, schema.bare ≠ .map node) (hls : ls = [⟨⟨[], visited⟩, .given⟩])
  /-- A node that neither names nor composes others is a leaf. -/
  | itself (node : Entries) (hbare : schema.bare = .map node) (href : refOf node = .null)
      (hallOf : node.get? "allOf" = none) (hls : ls = [⟨⟨node, visited⟩, .given⟩])
  /-- A composition without branches is an empty leaf. -/
  | branchless (node : Entries) (hbare : schema.bare = .map node) (href : refOf node = .null)
      (branches : Value) (hallOf : node.get? "allOf" = some branches)
      (hitems : (branches.orElse (.list [])).elements = .ok [])
      (hls : ls = [⟨⟨[], visited⟩, .branchless⟩])
  /-- Any other composition has the leaves of its branches. -/
  | composed (node : Entries) (hbare : schema.bare = .map node) (href : refOf node = .null)
      (branches : Value) (hallOf : node.get? "allOf" = some branches) (items : List Value)
      (hitems : (branches.orElse (.list [])).elements = .ok items) (hne : items ≠ [])
      (hls : branchLeaves document room items visited = .ok ls)
  /-- A reference that was followed before is an empty leaf. -/
  | cut (node : Entries) (hbare : schema.bare = .map node) (name : String)
      (href : refOf node = .text name) (hvisited : name ∈ visited)
      (hls : ls = [⟨⟨[], visited⟩, .cut⟩])
  /-- Any other reference has the leaves of its target. -/
  | followed (node : Entries) (hbare : schema.bare = .map node) (name : String)
      (href : refOf node = .text name) (hvisited : name ∉ visited) (target : Value)
      (htarget : Pointer.resolveValue document (.text name) = .ok target)
      (hls : leaves document room target (visit visited name) = .ok ls)

/-- **The search for leaves with room left does one of these things.** -/
theorem leaves_succ_iff {ls : List Leaf} :
    leaves document (room + 1) schema visited = .ok ls ↔
      LeavesStep document room schema visited ls := by
  constructor
  · intro h
    unfold leaves at h
    split at h
    · next node hbare =>
      split at h
      · next href =>
        split at h
        · next hallOf => exact .itself node hbare href hallOf (Except.ok.inj h).symm
        · next branches hallOf =>
          obtain ⟨items, hitems, h⟩ := Except.bind_eq_ok_iff.mp h
          split at h
          · next hnil =>
            rw [List.isEmpty_iff.mp hnil] at hitems
            exact .branchless node hbare href branches hallOf hitems (Except.ok.inj h).symm
          · next hne =>
            exact .composed node hbare href branches hallOf items hitems
              (fun hnil => hne (List.isEmpty_iff.mpr hnil)) h
      · obtain ⟨seen, hseen, h⟩ := Except.bind_eq_ok_iff.mp h
        split at h
        · next htrue =>
          obtain ⟨name, hname, href⟩ := isVisited_eq_true_iff.mp (htrue ▸ hseen)
          exact .cut node hbare name href hname (Except.ok.inj h).symm
        · next hfalse =>
          obtain ⟨target, htarget, h⟩ := Except.bind_eq_ok_iff.mp h
          -- Only a text leads anywhere.
          obtain ⟨name, href⟩ := exists_text_of_resolveValue htarget
          rw [href] at htarget hseen h
          refine .followed node hbare name href (fun hname => hfalse ?_) target htarget h
          exact Except.ok.inj (hseen.symm.trans (isVisited_eq_true_iff.mpr ⟨name, hname, rfl⟩))
    · next hbare => exact .noNode hbare (Except.ok.inj h).symm
  · intro h
    unfold leaves
    cases h with
    | noNode hbare hls =>
      split
      · next node hnode => exact absurd hnode (hbare node)
      · exact hls ▸ rfl
    | itself node hbare href hallOf hls => simp only [hbare, href, hallOf, hls]
    | branchless node hbare href branches hallOf hitems hls =>
      simp only [hbare, href, hallOf, hitems, hls]
      rfl
    | composed node hbare href branches hallOf items hitems hne hls =>
      simp only [hbare, href, hallOf]
      refine Except.bind_eq_ok_iff.mpr ⟨items, hitems, ?_⟩
      rw [if_neg fun hnil => hne (List.isEmpty_iff.mp hnil)]
      exact hls
    | cut node hbare name href hvisited hls =>
      have hseen := isVisited_eq_true_iff.mpr ⟨name, hvisited, rfl⟩
      simp only [hbare, href]
      exact Except.bind_eq_ok_iff.mpr ⟨true, hseen, hls ▸ rfl⟩
    | followed node hbare name href hvisited target htarget hls =>
      have hseen : isVisited visited (.text name) = .ok false :=
        congrArg Except.ok (by simpa using hvisited)
      simp only [hbare, href]
      refine Except.bind_eq_ok_iff.mpr ⟨false, hseen, ?_⟩
      exact Except.bind_eq_ok_iff.mpr ⟨target, htarget, hls⟩

/-- The leaves of branches are those of each branch in order. -/
theorem branchLeaves_eq_ok_iff {items : List Value} {ls : List Leaf} :
    branchLeaves document room items visited = .ok ls ↔
      ∃ lss, List.Forall₂ (fun branch ls => leaves document room branch visited = .ok ls) items lss ∧
        ls = lss.flatten := by
  unfold branchLeaves
  rw [Except.bind_pure_eq_ok_iff]
  exact exists_congr fun lss => and_congr_left fun _ => Except.mapM_eq_ok_iff

theorem branchLeaves_cons_eq_ok_iff {item : Value} {items : List Value} {ls : List Leaf} :
    branchLeaves document room (item :: items) visited = .ok ls ↔
      ∃ first rest, leaves document room item visited = .ok first ∧
        branchLeaves document room items visited = .ok rest ∧ ls = first ++ rest := by
  simp only [branchLeaves_eq_ok_iff]
  constructor
  · rintro ⟨lss, hlss, rfl⟩
    cases hlss with
    | @cons _ first _ lss hfirst hlss => exact ⟨first, lss.flatten, hfirst, ⟨lss, hlss, rfl⟩, rfl⟩
  · rintro ⟨first, rest, hfirst, ⟨lss, hlss, rfl⟩, rfl⟩
    exact ⟨first :: lss, .cons hfirst hlss, rfl⟩

/-- A node has a leaf, and each leaf is reached by the references followed before and perhaps
more. -/
theorem leaves_reached {ls : List Leaf} (h : leaves document room schema visited = .ok ls) :
    ls ≠ [] ∧ ∀ leaf ∈ ls, visited <+: leaf.visited := by
  have hone : ∀ (node : Entries) (visited : List String) (origin : Leaf.Origin),
      [(⟨⟨node, visited⟩, origin⟩ : Leaf)] ≠ [] ∧
        ∀ leaf ∈ [(⟨⟨node, visited⟩, origin⟩ : Leaf)], visited <+: leaf.visited := by
    intro node visited origin
    refine ⟨List.cons_ne_nil _ _, fun leaf hleaf => ?_⟩
    rw [List.mem_singleton.mp hleaf]
  induction room generalizing schema visited ls with
  | zero =>
    cases h
    exact hone _ _ _
  | succ room ih =>
    cases leaves_succ_iff.mp h with
    | noNode _ hls | itself _ _ _ _ hls | branchless _ _ _ _ _ _ hls | cut _ _ _ _ _ hls =>
      rw [hls]
      exact hone _ _ _
    | composed node hbare href branches hallOf items hitems hne hls =>
      obtain ⟨lss, hlss, rfl⟩ := branchLeaves_eq_ok_iff.mp hls
      have heach : ∀ ls ∈ lss, ls ≠ [] ∧ ∀ leaf ∈ ls, visited <+: leaf.visited := by
        intro ls hls
        obtain ⟨branch, -, hbranch⟩ := List.exists_of_mem_forall₂ hlss.flip hls
        exact ih hbranch
      constructor
      · cases hlss with
        | nil => exact absurd rfl hne
        | cons _ _ => simp [(heach _ List.mem_cons_self).1]
      · intro leaf hleaf
        obtain ⟨ls, hls, hleaf⟩ := List.mem_flatten.mp hleaf
        exact (heach ls hls).2 leaf hleaf
    | followed node hbare name href hvisited target htarget hls =>
      obtain ⟨hne, hleaf⟩ := ih hls
      refine ⟨hne, fun leaf hmem => List.IsPrefix.trans ?_ (hleaf leaf hmem)⟩
      rw [visit, if_neg hvisited]
      exact List.prefix_append ..

/-! ### What the leaves add up to -/

/-- What a node brings into a merge is what its leaves bring one after the other. -/
def AddsUp (part : Merge) (parts : List Merge) : Prop :=
  ∀ base : Merge, base.plus part = parts.foldl Merge.plus base

theorem addsUp_singleton (part : Merge) : AddsUp part [part] := fun _ => rfl

/-- Of nodes that add up, the merge is what all their leaves bring. -/
theorem AddsUp.foldl {parts : List Merge} {pss : List (List Merge)}
    (h : List.Forall₂ AddsUp parts pss) (base : Merge) :
    parts.foldl Merge.plus base = pss.flatten.foldl Merge.plus base := by
  induction h generalizing base with
  | nil => rfl
  | cons hpart _ ih => rw [List.foldl_cons, ih, hpart, List.flatten_cons, List.foldl_append]

/-- A composition adds up to what its branches do, as the references followed before are followed
in each. -/
theorem addsUp_flatten {parts : List Merge} {pss : List (List Merge)}
    (h : List.Forall₂ AddsUp parts pss) (hne : pss.flatten ≠ [])
    (hreached : ∀ part ∈ pss.flatten, visited <+: part.visited) :
    AddsUp (parts.foldl Merge.plus ⟨[], [], visited⟩) pss.flatten := by
  intro base
  rw [Merge.plus_foldl, AddsUp.foldl h]
  obtain ⟨first, rest, hcons⟩ := List.exists_cons_of_ne_nil hne
  obtain ⟨more, hmore⟩ := hreached first (hcons ▸ List.mem_cons_self)
  -- The first leaf has followed those references again.
  have hfirst : (base.plus ⟨[], [], visited⟩).plus first = base.plus first := by
    have hagain : visitAll (visitAll base.visited visited) first.visited =
        visitAll base.visited first.visited := by
      rw [← hmore]
      simp only [visitAll, List.foldl_append]
      congr 1
      exact visitAll_of_subset fun name hname => mem_visitAll.mpr (Or.inr hname)
    simp only [Merge.plus, hagain, List.append_nil]
    rfl
  rw [hcons, List.foldl_cons, hfirst, List.foldl_cons]

/-- The parts that leaves bring. -/
def Bring (ls : List Leaf) (parts : List Merge) : Prop :=
  List.Forall₂ (fun leaf part => leaf.brings = .ok part) ls parts

theorem Bring.append_iff {ls more : List Leaf} {parts : List Merge} :
    Bring (ls ++ more) parts ↔
      ∃ first rest, Bring ls first ∧ Bring more rest ∧ parts = first ++ rest := by
  constructor
  · intro h
    induction ls generalizing parts with
    | nil => exact ⟨[], parts, .nil, h, rfl⟩
    | cons leaf ls ih =>
      cases h with
      | @cons _ part _ parts hpart h =>
        obtain ⟨first, rest, hfirst, hrest, rfl⟩ := ih h
        exact ⟨part :: first, rest, .cons hpart hfirst, hrest, rfl⟩
  · rintro ⟨first, rest, hfirst, hrest, rfl⟩
    exact List.rel_append hfirst hrest

/-- Leaves bring one list of parts only. -/
theorem Bring.unique {ls : List Leaf} {parts parts' : List Merge} (h : Bring ls parts)
    (h' : Bring ls parts') : parts = parts' :=
  List.right_unique_forall₂' (fun _ _ _ hb hc => Except.ok.inj (hb.symm.trans hc)) h h'

/-- What leaves bring has followed what the leaves have. -/
theorem Bring.reached {ls : List Leaf} {parts : List Merge} (h : Bring ls parts)
    (hls : ls ≠ [] ∧ ∀ leaf ∈ ls, visited <+: leaf.visited) :
    parts ≠ [] ∧ ∀ part ∈ parts, visited <+: part.visited := by
  constructor
  · rintro rfl
    cases h
    exact hls.1 rfl
  · intro part hpart
    obtain ⟨leaf, hleaf, hbrings⟩ := List.exists_of_mem_forall₂ h.flip hpart
    rw [(brings_eq_ok_iff.mp hbrings).2.2]
    exact hls.2 leaf hleaf

/-! ### Resolution and leaves -/

/-- Branches that resolve have leaves, and these bring what the branches bring. -/
theorem exists_branchLeaves {items : List Value} {parts : List Merge}
    (h : List.Forall₂ (fun branch part => ∃ ls ps, leaves document room branch visited = .ok ls ∧
      Bring ls ps ∧ AddsUp part ps) items parts) :
    ∃ ls pss, branchLeaves document room items visited = .ok ls ∧ Bring ls pss.flatten ∧
      List.Forall₂ AddsUp parts pss := by
  induction h with
  | nil => exact ⟨[], [], rfl, .nil, .nil⟩
  | cons hfirst _ ih =>
    obtain ⟨first, ps, hls, hps, hadds⟩ := hfirst
    obtain ⟨rest, pss, hrest, hpss, haddss⟩ := ih
    exact ⟨first ++ rest, ps :: pss, branchLeaves_cons_eq_ok_iff.mpr ⟨first, rest, hls, hrest, rfl⟩,
      Bring.append_iff.mpr ⟨ps, pss.flatten, hps, hpss, rfl⟩, .cons hadds haddss⟩

/-- A node that is its own leaf brings what the leaf brings. -/
theorem exists_leaves_of_leaf {r : Resolution} {part : Merge} (origin : Leaf.Origin)
    (hpart : r.brings = .ok part) (hls : leaves document room schema visited = .ok [⟨r, origin⟩]) :
    ∃ ls ps, leaves document room schema visited = .ok ls ∧ Bring ls ps ∧ AddsUp part ps :=
  ⟨_, [part], hls, .cons hpart .nil, addsUp_singleton part⟩

/-- **A node that resolves has leaves, and these bring what it brings.** -/
theorem exists_leaves_of_resolve {r : Resolution} {part : Merge}
    (hr : resolveWithin document room schema visited = .ok r) (hpart : r.brings = .ok part) :
    ∃ ls ps, leaves document room schema visited = .ok ls ∧ Bring ls ps ∧ AddsUp part ps := by
  induction room generalizing schema visited r part with
  | zero =>
    cases hr
    exact exists_leaves_of_leaf .cut hpart rfl
  | succ room ih =>
    cases resolveWithin_succ hr with
    | noNode hbare hr =>
      subst hr
      exact exists_leaves_of_leaf .given hpart (leaves_succ_iff.mpr (.noNode hbare rfl))
    | itself node hbare href hallOf hr =>
      subst hr
      exact exists_leaves_of_leaf .given hpart (leaves_succ_iff.mpr (.itself node hbare href hallOf rfl))
    | composed node hbare href branches hallOf items hitems merge hmerge hr =>
      subst hr
      obtain rfl := Except.ok.inj (hpart.symm.trans merge.brings_node)
      obtain ⟨parts, hparts, rfl⟩ := mergeAll_eq_ok_iff.mp hmerge
      obtain ⟨ls, pss, hls, hpss, hadds⟩ :=
        exists_branchLeaves (hparts.imp fun branch part ⟨r, hr, hpart⟩ => ih hr hpart)
      by_cases hne : items = []
      · subst hne
        cases hparts
        refine ⟨[⟨⟨[], visited⟩, .branchless⟩], [⟨[], [], visited⟩], leaves_succ_iff.mpr ?_,
          .cons rfl .nil, addsUp_singleton _⟩
        exact .branchless node hbare href branches hallOf hitems rfl
      · have hstep : leaves document (room + 1) schema visited = .ok ls := leaves_succ_iff.mpr
          (.composed node hbare href branches hallOf items hitems hne hls)
        obtain ⟨hnil, hreached⟩ := hpss.reached (leaves_reached hstep)
        exact ⟨ls, pss.flatten, hstep, hpss, addsUp_flatten hadds hnil hreached⟩
    | cut node hbare name href hvisited hr =>
      subst hr
      exact exists_leaves_of_leaf .cut hpart
        (leaves_succ_iff.mpr (.cut node hbare name href hvisited rfl))
    | followed node hbare name href hvisited target htarget hr =>
      obtain ⟨ls, ps, hls, hps, hadds⟩ := ih hr hpart
      exact ⟨ls, ps, leaves_succ_iff.mpr (.followed node hbare name href hvisited target htarget hls),
        hps, hadds⟩

/-- Branches whose leaves bring something resolve, and they bring what the leaves bring. -/
theorem exists_parts_of_branchLeaves {items : List Value} {ls : List Leaf} {ps : List Merge}
    (hls : branchLeaves document room items visited = .ok ls) (hps : Bring ls ps)
    (hbranch : ∀ branch ∈ items, ∀ ls ps, leaves document room branch visited = .ok ls →
      Bring ls ps → ∃ r part, resolveWithin document room branch visited = .ok r ∧
        r.brings = .ok part ∧ AddsUp part ps) :
    ∃ parts pss, List.Forall₂ (fun branch part => ∃ r,
        resolveWithin document room branch visited = .ok r ∧ r.brings = .ok part) items parts ∧
      List.Forall₂ AddsUp parts pss ∧ ps = pss.flatten := by
  induction items generalizing ls ps with
  | nil =>
    cases hls
    cases hps
    exact ⟨[], [], .nil, .nil, rfl⟩
  | cons item items ih =>
    obtain ⟨first, rest, hfirst, hrest, rfl⟩ := branchLeaves_cons_eq_ok_iff.mp hls
    obtain ⟨qs, qss, hqs, hqss, rfl⟩ := Bring.append_iff.mp hps
    obtain ⟨r, part, hr, hpart, hadds⟩ := hbranch item List.mem_cons_self first qs hfirst hqs
    obtain ⟨parts, pss, hparts, haddss, rfl⟩ :=
      ih hrest hqss fun branch hmem => hbranch branch (List.mem_cons_of_mem _ hmem)
    exact ⟨part :: parts, qs :: pss, .cons ⟨r, hr, hpart⟩ hparts, .cons hadds haddss, rfl⟩

/-- The leaf of a node that is its own leaf brings what the node brings. -/
theorem exists_resolve_of_leaf {r : Resolution} {origin : Leaf.Origin} {ps : List Merge}
    (hps : Bring [⟨r, origin⟩] ps) (hr : resolveWithin document room schema visited = .ok r) :
    ∃ r part, resolveWithin document room schema visited = .ok r ∧ r.brings = .ok part ∧
      AddsUp part ps := by
  obtain _ | ⟨hpart, ⟨⟩⟩ := hps
  exact ⟨r, _, hr, hpart, addsUp_singleton _⟩

/-- **A node whose leaves bring something resolves, and it brings what the leaves bring.** -/
theorem exists_resolve_of_leaves {ls : List Leaf} {ps : List Merge}
    (hls : leaves document room schema visited = .ok ls) (hps : Bring ls ps) :
    ∃ r part, resolveWithin document room schema visited = .ok r ∧ r.brings = .ok part ∧
      AddsUp part ps := by
  induction room generalizing schema visited ls ps with
  | zero =>
    cases hls
    exact exists_resolve_of_leaf hps rfl
  | succ room ih =>
    cases leaves_succ_iff.mp hls with
    | noNode hbare hls =>
      subst hls
      exact exists_resolve_of_leaf hps (resolveWithin_of_step (.noNode hbare rfl))
    | itself node hbare href hallOf hls =>
      subst hls
      exact exists_resolve_of_leaf hps
        (resolveWithin_of_step (.itself node hbare href hallOf rfl))
    | branchless node hbare href branches hallOf hitems hls =>
      subst hls
      obtain rfl : ps = [⟨[], [], visited⟩] := by
        rcases hps with _ | ⟨hpart, ⟨⟩⟩
        exact congrArg (fun part => [part]) (Except.ok.inj hpart).symm
      refine ⟨_, ⟨[], [], visited⟩, resolveWithin_of_step ?_, Merge.brings_node _,
        addsUp_singleton _⟩
      exact .composed node hbare href branches hallOf [] hitems ⟨[], [], visited⟩ rfl rfl
    | composed node hbare href branches hallOf items hitems hne hbranches =>
      obtain ⟨hnil, hreached⟩ := hps.reached (leaves_reached hls)
      obtain ⟨parts, pss, hparts, hadds, rfl⟩ :=
        exists_parts_of_branchLeaves hbranches hps fun branch _ ls ps => ih
      refine ⟨_, _, resolveWithin_of_step ?_, Merge.brings_node _,
        addsUp_flatten hadds hnil hreached⟩
      exact .composed node hbare href branches hallOf items hitems _
        (mergeAll_eq_ok_iff.mpr ⟨parts, hparts, rfl⟩) rfl
    | cut node hbare name href hvisited hls =>
      subst hls
      exact exists_resolve_of_leaf hps
        (resolveWithin_of_step (.cut node hbare name href hvisited rfl))
    | followed node hbare name href hvisited target htarget htail =>
      obtain ⟨r, part, hr, hpart, hadds⟩ := ih htail hps
      exact ⟨r, part,
        resolveWithin_of_step (.followed node hbare name href hvisited target htarget hr),
        hpart, hadds⟩

end Schema

end ApiTools
