import ApiTools.Proofs.Schema.Composition

/-!
# Siblings and cycles

A reference is cut when it was followed before, as it would run in a circle.  Resolution hands the
references followed to each branch of a composition on its own, so that no branch cuts what another
one has followed.  But the merge of the branches carries the references of all, and hands them on to
the schemas in it.  A schema that one branch declares is then cut for what another one has followed,
though there is no circle.

## Main definitions

* `Schema.MadeOf` — what a resolved node is made of.
* `Schema.Contributes` — the leaf that a schema in a resolved node comes from.
* `Schema.Reached` — the schemas that a compilation comes to, with the references followed on their
  own way and on that of the other branches.

## Main results

* `Schema.mem_visited_iff` — the references that a resolution has followed are those of its leaves.
* `Schema.exists_contributes`, `Schema.Reached.exists_inner` — **each schema in a node comes from a
  leaf**, so that all that a compilation comes to is reached.
* `Schema.Reached.mem_visited` — **what was followed was followed on the own way or on that of
  another branch.**
* `Schema.compile_reference_of_reached` — **a reference is cut exactly in these two cases.**
* `Schema.sibling_is_taken_for_cycle` — the second case is no circle.
-/

namespace ApiTools

namespace Schema

variable {document schema root : Value} {mode : Mode} {room : Nat} {visited : List String}
variable {r : Resolution} {ls : List Leaf}

/-! ### What a resolved node is made of -/

/-- What a resolved node is made of: of one leaf, which it is, or of leaves that add up to it. -/
inductive MadeOf (document : Value) (room : Nat) (schema : Value) (visited : List String)
    (r : Resolution) : Prop where
  /-- It is a leaf. -/
  | alone (origin : Leaf.Origin)
      (hls : leaves document room schema visited = .ok [⟨r, origin⟩])
  /-- It is a composition, reached by references. -/
  | composed (reached : List String) (ls : List Leaf) (ps : List Merge)
      (hls : leaves document room schema visited = .ok ls) (hps : Bring ls ps)
      (hreached : ls ≠ [] ∧ ∀ leaf ∈ ls, reached <+: leaf.visited)
      (hnode : r.node = (ps.foldl Merge.plus ⟨[], [], reached⟩).node)
      (hvisited : r.visited = (ps.foldl Merge.plus ⟨[], [], reached⟩).visited)

theorem madeOf_resolveWithin (h : resolveWithin document room schema visited = .ok r) :
    MadeOf document room schema visited r := by
  induction room generalizing schema visited r with
  | zero =>
    cases h
    exact .alone .cut rfl
  | succ room ih =>
    cases resolveWithin_succ h with
    | noNode hbare hr =>
      subst hr
      exact .alone .given (leaves_succ_iff.mpr (.noNode hbare rfl))
    | itself node hbare href hallOf hr =>
      subst hr
      exact .alone .given (leaves_succ_iff.mpr (.itself node hbare href hallOf rfl))
    | composed node hbare href branches hallOf items hitems merge hmerge hr =>
      subst hr
      obtain ⟨parts, hparts, rfl⟩ := mergeAll_eq_ok_iff.mp hmerge
      by_cases hne : items = []
      · -- A composition without branches counts as one leaf, which brings nothing.
        subst hne
        cases hparts
        have hls : leaves document (room + 1) schema visited =
            .ok [⟨⟨[], visited⟩, .branchless⟩] :=
          leaves_succ_iff.mpr (.branchless node hbare href branches hallOf hitems rfl)
        refine .composed visited _ [⟨[], [], visited⟩] hls (.cons rfl .nil) (leaves_reached hls) ?_ ?_
        all_goals
          rw [List.foldl_cons, Merge.plus_visited (List.Subset.refl _)]
      · obtain ⟨ls, pss, hls, hpss, hadds⟩ := exists_branchLeaves
          (hparts.imp fun branch part ⟨r, hr, hpart⟩ => exists_leaves_of_resolve hr hpart)
        have hstep : leaves document (room + 1) schema visited = .ok ls := leaves_succ_iff.mpr
          (.composed node hbare href branches hallOf items hitems hne hls)
        refine .composed visited ls pss.flatten hstep hpss (leaves_reached hstep) ?_ ?_
        all_goals rw [AddsUp.foldl hadds]
    | cut node hbare name href hvisited hr =>
      subst hr
      exact .alone .cut (leaves_succ_iff.mpr (.cut node hbare name href hvisited rfl))
    | followed node hbare name href hvisited target htarget hr =>
      have hstep : ∀ ls, leaves document room target (visit visited name) = .ok ls →
          leaves document (room + 1) schema visited = .ok ls := fun ls hls =>
        leaves_succ_iff.mpr (.followed node hbare name href hvisited target htarget hls)
      cases ih hr with
      | alone origin hls => exact .alone origin (hstep _ hls)
      | composed reached ls ps hls hps hreached hnode hvisited =>
        exact .composed reached ls ps (hstep _ hls) hps hreached hnode hvisited

/-- **The references that a resolution has followed are those of its leaves.** -/
theorem mem_visited_iff (hr : resolveWithin document room schema visited = .ok r)
    (hls : leaves document room schema visited = .ok ls) {name : String} :
    name ∈ r.visited ↔ ∃ leaf ∈ ls, name ∈ leaf.visited := by
  cases madeOf_resolveWithin hr with
  | alone origin hone =>
    cases hone.symm.trans hls
    simp
  | composed reached ls' ps hls' hps hreached hnode hvisited =>
    cases hls'.symm.trans hls
    rw [hvisited, Merge.mem_visited_foldl]
    have hparts : (∃ part ∈ ps, name ∈ part.visited) ↔ ∃ leaf ∈ ls, name ∈ leaf.visited := by
      constructor
      · rintro ⟨part, hpart, hname⟩
        obtain ⟨leaf, hleaf, hbrings⟩ := List.exists_of_mem_forall₂ hps.flip hpart
        exact ⟨leaf, hleaf, (brings_eq_ok_iff.mp hbrings).2.2 ▸ hname⟩
      · rintro ⟨leaf, hleaf, hname⟩
        obtain ⟨part, hpart, hbrings⟩ := List.exists_of_mem_forall₂ hps hleaf
        exact ⟨part, hpart, (brings_eq_ok_iff.mp hbrings).2.2 ▸ hname⟩
    rw [hparts]
    refine or_iff_right_of_imp fun hname => ?_
    obtain ⟨first, rest, rfl⟩ := List.exists_cons_of_ne_nil hreached.1
    exact ⟨first, List.mem_cons_self, (hreached.2 first List.mem_cons_self).subset hname⟩

/-! ### Where the schemas in a node come from -/

/-- The references followed on the way to a leaf, after those followed before. -/
def Leaf.followed (visited : List String) (leaf : Leaf) : List String :=
  leaf.visited.drop visited.length

theorem Leaf.mem_visited_iff {leaf : Leaf} (h : visited <+: leaf.visited) {name : String} :
    name ∈ leaf.visited ↔ name ∈ visited ∨ name ∈ leaf.followed visited := by
  obtain ⟨more, hmore⟩ := h
  unfold Leaf.followed
  rw [← hmore, List.drop_left, List.mem_append]

/-- A schema in a resolved node comes from one of the leaves, given those before and after it. -/
inductive Contributes (mode : Mode) (r : Resolution) (before : List Leaf) (leaf : Leaf)
    (after : List Leaf) (child : Value) : Prop where
  /-- The node is the leaf. -/
  | alone (hbefore : before = []) (hafter : after = []) (hnode : leaf.node = r.node)
      (hchild : Inner mode r.node child)
  /-- The schema is that of a property, which the leaf is the last one to have. -/
  | property (key : Scalar) (hkind : kind r.node = .object)
      (hchild : (key, child) ∈ declaredProperties r.node) (properties : Entries)
      (hproperties : broughtProperties leaf.node = .ok properties)
      (hvalue : (Entries.merge [] properties).find? key = some child)
      (hafter : ∀ other ∈ after, ∀ overruling, broughtProperties other.node = .ok overruling →
        overruling.hasKey key = false)

/-- A schema that a leaf contributes is one of those in the node. -/
theorem Contributes.inner {before after : List Leaf} {leaf : Leaf} {child : Value}
    (h : Contributes mode r before leaf after child) : Inner mode r.node child := by
  cases h with
  | alone _ _ _ hchild => exact hchild
  | property key hkind hchild => exact .property hkind _ hchild

theorem Merge.find?_foldl_of_not_hasKey {parts : List Merge} {key : Scalar}
    (h : ∀ part ∈ parts, part.properties.hasKey key = false) (base : Merge) :
    (parts.foldl Merge.plus base).properties.find? key = base.properties.find? key := by
  induction parts generalizing base with
  | nil => rfl
  | cons part parts ih =>
    obtain ⟨hpart, hparts⟩ := List.forall_mem_cons.mp h
    rw [List.foldl_cons, ih hparts]
    exact Entries.find?_merge_of_not_hasKey hpart _

theorem Merge.distinctKeys_foldl {parts : List Merge} {base : Merge}
    (h : Scalar.DistinctKeys base.properties) :
    Scalar.DistinctKeys (parts.foldl Merge.plus base).properties := by
  induction parts generalizing base with
  | nil => exact h
  | cons part parts ih => exact ih (Entries.distinctKeys_merge h part.properties)

/-- The last item of a list that has a property. -/
theorem exists_last {α : Type} {P : α → Prop} {l : List α} (h : ∃ a ∈ l, P a) :
    ∃ before a after, l = before ++ a :: after ∧ P a ∧ ∀ b ∈ after, ¬P b := by
  induction l with
  | nil =>
    obtain ⟨a, ha, -⟩ := h
    cases ha
  | cons a l ih =>
    by_cases hl : ∃ b ∈ l, P b
    · obtain ⟨before, b, after, rfl, hb, hafter⟩ := ih hl
      exact ⟨a :: before, b, after, rfl, hb, hafter⟩
    · rw [List.exists_mem_cons_iff] at h
      exact ⟨[], a, l, rfl, h.resolve_right hl, fun b hb hP => hl ⟨b, hb, hP⟩⟩

/-- **Every schema in a resolved node comes from one of its leaves.** -/
theorem exists_contributes (hr : resolveWithin document room schema visited = .ok r) {child : Value}
    (hchild : Inner mode r.node child) :
    ∃ before leaf after, leaves document room schema visited = .ok (before ++ leaf :: after) ∧
      Contributes mode r before leaf after child := by
  cases madeOf_resolveWithin hr with
  | alone origin hls => exact ⟨[], ⟨r, origin⟩, [], hls, .alone rfl rfl rfl hchild⟩
  | composed reached ls ps hls hps _ hnode =>
    -- The node of a merge has no schema but those of its properties.
    obtain ⟨key, hkey⟩ : ∃ key, (key, child) ∈ declaredProperties r.node := by
      rw [hnode] at hchild ⊢
      cases hchild with
      | property _ p hp => exact ⟨p.1, hp⟩
      | extra _ _ es hbare =>
        rw [Merge.extraSchema_node] at hbare
        cases hbare
      | item hkind => exact absurd (hkind.symm.trans (Merge.kind_node _)) (by simp)
    have hkind : kind r.node = .object := by rw [hnode, Merge.kind_node]
    have hmem : (key, child) ∈ (ps.foldl Merge.plus ⟨[], [], reached⟩).properties := by
      rw [hnode, Merge.declaredProperties_node] at hkey
      exact hkey
    have hfound := Entries.find?_eq_some (Merge.distinctKeys_foldl Scalar.distinctKeys_nil) hmem
    have hsome : ∃ part ∈ ps, part.properties.hasKey key = true := by
      refine (Merge.hasKey_foldl.mp (Entries.hasKey_iff.mpr ⟨_, hmem, Scalar.alike_refl _⟩)).resolve_left
        ?_
      simp [Entries.hasKey]
    -- The schema comes from the last part that has the property.
    obtain ⟨before, part, after, rfl, hpart, hafter⟩ := exists_last hsome
    obtain ⟨lsBefore, leaf, lsAfter, rfl, hbrings, hbringAfter⟩ : ∃ lsBefore leaf lsAfter,
        ls = lsBefore ++ leaf :: lsAfter ∧ leaf.brings = .ok part ∧ Bring lsAfter after := by
      have hrest := List.forall₂_drop_append ls before (part :: after) hps
      obtain ⟨leaf, lsAfter, hleaf, hbringAfter, hdrop⟩ := List.forall₂_cons_right_iff.mp hrest
      exact ⟨ls.take before.length, leaf, lsAfter,
        by rw [← hdrop, List.take_append_drop], hleaf, hbringAfter⟩
    refine ⟨lsBefore, leaf, lsAfter, hls, ?_⟩
    refine .property key hkind hkey part.properties (brings_eq_ok_iff.mp hbrings).1 ?_ ?_
    · rw [List.foldl_append, List.foldl_cons, Merge.find?_foldl_of_not_hasKey] at hfound
      · rw [← Entries.find?_merge_of_hasKey hpart]
        exact hfound
      · exact fun other hother => by simpa using hafter other hother
    · intro other hother overruling hoverruling
      obtain ⟨otherPart, hmemPart, hbringsOther⟩ := List.exists_of_mem_forall₂ hbringAfter hother
      cases (brings_eq_ok_iff.mp hbringsOther).1.symm.trans hoverruling
      simpa using hafter otherPart hmemPart

/-! ### The schemas that a compilation comes to -/

/-- A schema that the compilation of a root comes to at a depth, with the references followed, those
of them on its own way, and those of the other branches of the compositions on this way. -/
inductive Reached (document : Value) (mode : Mode) (root : Value) :
    Int → Value → List String → List String → List String → Prop where
  /-- The compilation starts at the root. -/
  | root : Reached document mode root 0 root [] [] []
  /-- From a schema it comes to those in the node that the schema is resolved to.  Each is on the
  way of the leaf that it comes from. -/
  | inner {depth : Int} {schema child : Value} {visited own others : List String} {r : Resolution}
    {before after : List Leaf} {leaf : Leaf}
    (h : Reached document mode root depth schema visited own others)
    (hr : resolve document schema visited depth = .ok r)
    (hls : leaves document (Schema.room depth) schema visited = .ok (before ++ leaf :: after))
    (hchild : Contributes mode r before leaf after child) :
    Reached document mode root (depth + 1) child r.visited (own ++ leaf.followed visited)
      (others ++ (before ++ after).flatMap (·.followed visited))

variable {depth : Int} {own others : List String}

/-- **Every schema in the node of a schema that is reached is reached.** -/
theorem Reached.exists_inner (h : Reached document mode root depth schema visited own others)
    (hr : resolve document schema visited depth = .ok r) {child : Value}
    (hchild : Inner mode r.node child) :
    ∃ own' others', Reached document mode root (depth + 1) child r.visited own' others' := by
  obtain ⟨before, leaf, after, hls, hcontributes⟩ := exists_contributes hr hchild
  exact ⟨_, _, h.inner hr hls hcontributes⟩

/-- **What was followed was followed on the own way or on that of another branch.** -/
theorem Reached.mem_visited (h : Reached document mode root depth schema visited own others)
    {name : String} : name ∈ visited ↔ name ∈ own ∨ name ∈ others := by
  induction h with
  | root => simp
  | @inner depth schema child visited own others r before after leaf h hr hls _ ih =>
    have hreached := (leaves_reached hls).2
    have hleaf : ∀ other ∈ before ++ leaf :: after, name ∈ other.visited ↔
        name ∈ visited ∨ name ∈ other.followed visited :=
      fun other hother => Leaf.mem_visited_iff (hreached other hother)
    have hself : leaf ∈ before ++ leaf :: after := List.mem_append_right _ List.mem_cons_self
    have hothers : name ∈ (before ++ after).flatMap (·.followed visited) ↔
        ∃ other, (other ∈ before ∨ other ∈ after) ∧ name ∈ other.followed visited := by
      simp only [List.mem_flatMap, List.mem_append]
    rw [mem_visited_iff hr hls, List.mem_append, List.mem_append, hothers]
    constructor
    · rintro ⟨other, hother, hname⟩
      rcases (hleaf other hother).mp hname with hname | hname
      · exact (ih.mp hname).imp Or.inl Or.inl
      · rcases List.mem_append.mp hother with hbefore | hafter
        · exact Or.inr (Or.inr ⟨other, Or.inl hbefore, hname⟩)
        · rcases List.mem_cons.mp hafter with rfl | hafter
          · exact Or.inl (Or.inr hname)
          · exact Or.inr (Or.inr ⟨other, Or.inr hafter, hname⟩)
    · have hbefore : name ∈ visited → ∃ other ∈ before ++ leaf :: after, name ∈ other.visited :=
        fun hname => ⟨leaf, hself, (hleaf leaf hself).mpr (Or.inl hname)⟩
      rintro ((hname | hname) | (hname | ⟨other, hother, hname⟩))
      · exact hbefore (ih.mpr (Or.inl hname))
      · exact ⟨leaf, hself, (hleaf leaf hself).mpr (Or.inr hname)⟩
      · exact hbefore (ih.mpr (Or.inr hname))
      · have hother : other ∈ before ++ leaf :: after :=
          List.mem_append.mpr (hother.imp_right (List.mem_cons_of_mem _))
        exact ⟨other, hother, (hleaf other hother).mpr (Or.inr hname)⟩

/-! ### References that are taken for cycles -/

/-- A new reference to a node that neither names nor composes others is compiled like the node. -/
theorem compileWithin_of_new {name : String} {target : Value} {node entries : Entries}
    (hbare : schema.bare = .map node) (href : refOf node = .text name)
    (htarget : Pointer.resolveValue document (.text name) = .ok target)
    (hentries : target.bare = .map entries) (hplain : refOf entries = .null)
    (hallOf : entries.get? "allOf" = none) (hnew : name ∉ visited) :
    compileWithin document mode (room + 2) schema visited =
      compileWithin document mode (room + 2) target (visit visited name) := by
  have hschema : resolveWithin document (room + 2) schema visited =
      .ok ⟨entries, visit visited name⟩ :=
    resolveWithin_of_step (.followed node hbare name href hnew target htarget
      (resolveWithin_of_step (.itself entries hentries hplain hallOf rfl)))
  have hitself : resolveWithin document (room + 2) target (visit visited name) =
      .ok ⟨entries, visit visited name⟩ :=
    resolveWithin_of_step (.itself entries hentries hplain hallOf rfl)
  rw [compileWithin, compileWithin, hschema, hitself]

/-- **A reference is taken for a cycle exactly when it was followed on the own way to it or on that
of a sibling.**  Where the compilation of a root comes to a schema that names another one, which
neither names nor composes others, it compiles that one in its place if the reference
was followed neither on the way to the schema nor by another branch of a composition on this way;
otherwise it leaves the value free. -/
theorem compile_reference_of_reached
    (h : Reached document mode root depth schema visited own others) (hdepth : depth ≤ 7)
    {node entries : Entries} {name : String} {target : Value} (hbare : schema.bare = .map node)
    (href : refOf node = .text name)
    (htarget : Pointer.resolveValue document (.text name) = .ok target)
    (hentries : target.bare = .map entries)
    (hplain : entries.get? "$ref" = none) (hallOf : entries.get? "allOf" = none) :
    (name ∉ own → name ∉ others → compile document schema mode depth visited =
      compile document target mode depth (visit visited name)) ∧
    (name ∈ own ∨ name ∈ others → compile document schema mode depth visited = .ok (.any .null)) := by
  obtain ⟨room, hroom⟩ : ∃ room, Schema.room depth = room + 2 :=
    ⟨Schema.room depth - 2, by unfold Schema.room maxDepth; omega⟩
  unfold compile
  rw [hroom, ← h.mem_visited]
  constructor
  · intro hown hothers
    have hnew : name ∉ visited := fun hname => (h.mem_visited.mp hname).elim hown hothers
    exact compileWithin_of_new hbare href htarget hentries (by rw [refOf, hplain]; rfl) hallOf
      hnew
  · intro hname
    refine compileWithin_succ_iff.mpr (.cut ⟨[], visited⟩ ?_ rfl rfl)
    exact resolveWithin_of_step (.cut node hbare name href hname rfl)

/-- The node of maps that may have a text. -/
def pointNode : Entries :=
  [(.text "type", .text "object"),
    (.text "properties", .record [("y", .record [("type", .text "string")])])]

/-- A document that names two schemas, the first of which names the second one. -/
def pairDocument : Value :=
  .record [("A", .record [("properties", .record [("x", reference "#/B")])]),
    ("B", .map pointNode)]

/-- The first schema as a leaf. -/
def firstLeaf : Leaf :=
  ⟨⟨[(.text "properties", .record [("x", reference "#/B")])], ["#/A"]⟩, .given⟩

/-- The second schema as a leaf. -/
def secondLeaf : Leaf := ⟨⟨pointNode, ["#/B"]⟩, .given⟩

/-- In the composition of the first schema with itself, its property is compiled as what it names. -/
theorem compile_reference_repeated :
    Reached pairDocument .input (composition [reference "#/A", reference "#/A"]) 1 (reference "#/B")
        ["#/A"] ["#/A"] ["#/A"] ∧
      compile pairDocument (reference "#/B") .input 1 ["#/A"] =
        compile pairDocument (.map pointNode) .input 1 ["#/A", "#/B"] := by
  have hr : resolve pairDocument (composition [reference "#/A", reference "#/A"]) [] 0 =
      .ok ⟨[(.text "type", .text "object"), (.text "properties", .record [("x", reference "#/B")])],
        ["#/A"]⟩ := rfl
  have hls : leaves pairDocument (Schema.room 0) (composition [reference "#/A", reference "#/A"]) [] =
      .ok ([firstLeaf] ++ firstLeaf :: []) := rfl
  have hreached : Reached pairDocument .input (composition [reference "#/A", reference "#/A"]) 1
      (reference "#/B") ["#/A"] ["#/A"] ["#/A"] :=
    .inner .root hr hls
      (.property (.text "x") rfl List.mem_cons_self [(.text "x", reference "#/B")] rfl rfl nofun)
  exact ⟨hreached, (compile_reference_of_reached hreached (by decide) bare_reference refOf_reference
    rfl rfl rfl rfl).1 (by decide) (by decide)⟩

/-- The rule of a property that need not be there. -/
def optionalRule (name : String) (v : Validator) : Rule :=
  .mk (.text name) v (.bool false) (.bool false)

/-- **A sibling is taken for a cycle**: in the composition of the two schemas, the property of the
first one is left free, as the second one is named beside it. -/
theorem sibling_is_taken_for_cycle :
    Reached pairDocument .input (composition [reference "#/A", reference "#/B"]) 1 (reference "#/B")
        ["#/A", "#/B"] ["#/A"] ["#/B"] ∧
      "#/B" ∉ ["#/A"] ∧
      compile pairDocument (reference "#/B") .input 1 ["#/A", "#/B"] = .ok (.any .null) ∧
      compile pairDocument (.map pointNode) .input 1 ["#/A", "#/B"] =
        .ok (.object .null [optionalRule "y" (.string .null none)] (.reject none)) ∧
      compile pairDocument (composition [reference "#/A", reference "#/B"]) .input 0 [] =
        .ok (.object .null [optionalRule "x" (.any .null), optionalRule "y" (.string .null none)]
          (.reject none)) := by
  have hr : resolve pairDocument (composition [reference "#/A", reference "#/B"]) [] 0 =
      .ok ⟨[(.text "type", .text "object"), (.text "properties", .record [("x", reference "#/B"),
        ("y", .record [("type", .text "string")])])], ["#/A", "#/B"]⟩ := rfl
  have hls : leaves pairDocument (Schema.room 0) (composition [reference "#/A", reference "#/B"]) [] =
      .ok ([] ++ firstLeaf :: [secondLeaf]) := rfl
  refine ⟨.inner .root hr hls ?_, by decide, rfl, rfl, rfl⟩
  refine .property (.text "x") rfl List.mem_cons_self [(.text "x", reference "#/B")] rfl rfl ?_
  intro other hother overruling hoverruling
  cases List.mem_singleton.mp hother
  cases hoverruling
  rfl

end Schema

end ApiTools
