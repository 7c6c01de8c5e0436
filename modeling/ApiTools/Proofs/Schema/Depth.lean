import ApiTools.Proofs.Schema.Alike
import ApiTools.Proofs.Schema.Parts
import Mathlib.Order.WellFounded

/-!
# Compilation ends within the bound on depth

Resolution, the merge of branches, compilation and the validator of a map call each other, and a
reference leads anywhere in the document, so nothing that is passed along gets smaller.  The depth
gets greater, though not with each call: a composition is merged at its own depth, and a schema is
resolved at the depth at which it is compiled, wherever its resolution ended.  Counted down from the
bound, with the kind of the call, every call is below the one that makes it.

The four functions are written here as they call each other, with a depth that counts up and no
measure in them, and calls are followed whatever the functions called are.  There is one way only to
give the functions results, and it is that of `Schema.resolve` and `Schema.compile`.

## Main definitions

* `Schema.Functions`, `Schema.Functions.body` — the four functions, and what they do given what the
  calls that they make give.
* `Schema.Call`, `Schema.Functions.Makes` — a call, and the calls that it makes.
* `Schema.Call.rank` — how many calls can be made one inside the other below a call.

## Main results

* `Schema.Functions.rank_lt` — **a call is below the one that makes it.**
* `Schema.Functions.body_eq_self_iff` — **there is one solution of the recursion.**
* `Schema.compilation_ends` — **compilation ends, and no path down its validator has more lists and
  maps than the bound leaves.**
-/

namespace ApiTools

namespace Schema

/-! ### The functions and what they do -/

/-- The functions that call each other, each at a depth and with the references followed so far. -/
@[ext]
structure Functions where
  /-- The resolution of a schema. -/
  resolve : Value → List String → Int → Except Fault Resolution
  /-- The resolution of a composition of branches. -/
  merge : List Value → List String → Int → Except Fault Resolution
  /-- The validator of a schema. -/
  compile : Value → List String → Int → Except Fault Validator
  /-- The validator of a resolved node that describes a map. -/
  object : Entries → List String → Int → Except Fault Validator

namespace Functions

variable (document : Value) (mode : Mode) (f : Functions)

/-- The validator of a resolved node before its description and its nullability: a map is left to the
function for maps. -/
def bare (node : Entries) (visited : List String) (depth : Int) : Except Fault Validator :=
  match kind node with
  | .object => f.object node visited depth
  | _ => bareValidator (fun child => f.compile child visited (depth + 1)) mode node

/-- What each function does, given what the functions that it calls give. -/
def body : Functions where
  resolve schema visited depth :=
    if maxDepth < depth then .ok ⟨[], visited⟩
    else
      match schema.bare with
      | .map node =>
        match (Entries.get? node "$ref").getD .null with
        | .null =>
          match Entries.get? node "allOf" with
          | some branches => do f.merge (← (branches.orElse (.list [])).elements) visited depth
          | none => .ok ⟨node, visited⟩
        | ref => do
          if ← isVisited visited ref then return ⟨[], visited⟩
          let target ← Pointer.resolveValue document ref
          f.resolve target (visit visited (ref.text?.getD "")) (depth + 1)
      | _ => .ok ⟨[], visited⟩
  merge branches visited depth := do
    let merge ← mergeAll (fun branch => f.resolve branch visited (depth + 1)) visited branches
    return ⟨merge.node, merge.visited⟩
  compile schema visited depth :=
    if maxDepth < depth then .ok (.any .null)
    else do
      let ⟨node, visited⟩ ← f.resolve schema visited depth
      if node.isEmpty then return .any .null
      let bare ← f.bare mode node visited depth
      return withNull node (← described node bare)
  object node visited depth :=
    objectValidator (fun child => f.compile child visited (depth + 1)) mode node

/-- The functions by which schemas are resolved and compiled. -/
def ofSchemas : Functions where
  resolve schema visited depth := Schema.resolve document schema visited depth
  merge branches visited depth := do
    let merge ←
      mergeAll (fun branch => Schema.resolve document branch visited (depth + 1)) visited branches
    return ⟨merge.node, merge.visited⟩
  compile schema visited depth := Schema.compile document schema mode depth visited
  object node visited depth :=
    objectValidator (fun child => Schema.compile document child mode (depth + 1) visited) mode node

end Functions

/-! ### Calls -/

/-- A call of one of the functions. -/
inductive Call where
  /-- A schema is resolved. -/
  | resolve (schema : Value) (visited : List String) (depth : Int)
  /-- The branches of a composition are merged. -/
  | merge (branches : List Value) (visited : List String) (depth : Int)
  /-- A schema is compiled. -/
  | compile (schema : Value) (visited : List String) (depth : Int)
  /-- A node that describes a map is compiled. -/
  | object (node : Entries) (visited : List String) (depth : Int)

/-- How many calls can be made one inside the other below a call: two for each level that is left,
and those that stay on the level of the call. -/
def Call.rank : Call → Nat
  | .resolve _ _ depth => 2 * room depth
  | .merge _ _ depth => 2 * room (depth + 1) + 1
  | .compile _ _ depth => 2 * room depth + 1
  | .object _ _ depth => 2 * room (depth + 1) + 2

namespace Functions

variable {document : Value} {mode : Mode} {f g : Functions}

/-- A call makes another one, when the functions give what they give. -/
inductive Makes (document : Value) (mode : Mode) (f : Functions) : Call → Call → Prop where
  /-- The target of a reference that was not followed yet is resolved. -/
  | target {schema ref target : Value} {node : Entries} {visited : List String} {depth : Int}
    (hdepth : depth ≤ maxDepth) (hschema : schema.bare = .map node)
    (href : (node.get? "$ref").getD .null = ref) (hne : ref ≠ .null)
    (hnew : isVisited visited ref = .ok false)
    (htarget : Pointer.resolveValue document ref = .ok target) :
    Makes document mode f (.resolve schema visited depth)
      (.resolve target (visit visited (ref.text?.getD "")) (depth + 1))
  /-- The branches of a composition are merged. -/
  | composition {schema value : Value} {node : Entries} {visited : List String} {depth : Int}
    {branches : List Value} (hdepth : depth ≤ maxDepth) (hschema : schema.bare = .map node)
    (href : (node.get? "$ref").getD .null = .null) (hvalue : node.get? "allOf" = some value)
    (hbranches : (value.orElse (.list [])).elements = .ok branches) :
    Makes document mode f (.resolve schema visited depth) (.merge branches visited depth)
  /-- Each branch is resolved. -/
  | branch {branch : Value} {branches : List Value} {visited : List String} {depth : Int}
    (hbranch : branch ∈ branches) :
    Makes document mode f (.merge branches visited depth) (.resolve branch visited (depth + 1))
  /-- A schema is resolved to be compiled. -/
  | resolution {schema : Value} {visited : List String} {depth : Int} (hdepth : depth ≤ maxDepth) :
    Makes document mode f (.compile schema visited depth) (.resolve schema visited depth)
  /-- What it resolves to is compiled as a map. -/
  | object {schema : Value} {visited : List String} {depth : Int} {r : Resolution}
    (hdepth : depth ≤ maxDepth) (hr : f.resolve schema visited depth = .ok r)
    (hkind : kind r.node = .object) :
    Makes document mode f (.compile schema visited depth) (.object r.node r.visited depth)
  /-- The schema of the items of what it resolves to is compiled. -/
  | items {schema : Value} {visited : List String} {depth : Int} {r : Resolution}
    (hdepth : depth ≤ maxDepth) (hr : f.resolve schema visited depth = .ok r)
    (hkind : kind r.node = .array) (htruthy : (itemSchema r.node).isTruthy = true) :
    Makes document mode f (.compile schema visited depth)
      (.compile (itemSchema r.node) r.visited (depth + 1))
  /-- The schema of each property is compiled. -/
  | property {node : Entries} {visited : List String} {depth : Int} {p : Scalar × Value}
    (hp : p ∈ declaredProperties node) :
    Makes document mode f (.object node visited depth) (.compile p.2 visited (depth + 1))
  /-- The schema of undeclared keys is compiled for a request. -/
  | undeclared {node : Entries} {visited : List String} {depth : Int} {es : Entries}
    (hmode : mode = .input) (hbare : (extraSchema node).bare = .map es) :
    Makes document mode f (.object node visited depth)
      (.compile (extraSchema node) visited (depth + 1))

end Functions

/-- One level is left more at a depth than at the next one. -/
theorem room_of_le {depth : Int} (h : depth ≤ maxDepth) : room depth = room (depth + 1) + 1 := by
  unfold room maxDepth at *
  omega

/-- Beyond the bound no level is left. -/
theorem room_of_lt {depth : Int} (h : maxDepth < depth) : room depth = 0 := by
  unfold room maxDepth at *
  omega

namespace Functions

variable {document : Value} {mode : Mode} {f g : Functions} {c d : Call}

/-- **A call is below the one that makes it**, whatever the functions give. -/
theorem rank_lt (h : f.Makes document mode c d) : d.rank < c.rank := by
  cases h with
  | target hdepth | composition hdepth | items hdepth =>
    have hroom := room_of_le hdepth
    simp only [Call.rank]
    omega
  | resolution => exact Nat.lt_succ_self _
  | object hdepth =>
    have hroom := room_of_le hdepth
    simp only [Call.rank]
    omega
  | branch | property | undeclared =>
    simp only [Call.rank]
    omega

/-- So calls are not made one inside the other for ever. -/
theorem wellFounded_makes (document : Value) (mode : Mode) (f : Functions) :
    WellFounded fun d c => f.Makes document mode c d :=
  Subrelation.wf rank_lt (measure Call.rank).wf

/-- There are no more calls inside a call than its rank says. -/
theorem length_le_rank {calls : List Call} (h : (c :: calls).IsChain (f.Makes document mode)) :
    calls.length ≤ c.rank := by
  induction calls generalizing c with
  | nil => exact Nat.zero_le _
  | cons d calls ih =>
    obtain ⟨hmakes, hrest⟩ := List.isChain_cons_cons.mp h
    have hlt := rank_lt hmakes
    have hle := ih hrest
    rw [List.length_cons]
    omega

/-! ### One solution -/

/-- Two families of functions give the same to a call. -/
def AgreeOn (f g : Functions) : Call → Prop
  | .resolve schema visited depth => f.resolve schema visited depth = g.resolve schema visited depth
  | .merge branches visited depth => f.merge branches visited depth = g.merge branches visited depth
  | .compile schema visited depth => f.compile schema visited depth = g.compile schema visited depth
  | .object node visited depth => f.object node visited depth = g.object node visited depth

/-- What a resolution does depends on the calls that it makes only. -/
theorem resolve_body_congr {schema : Value} {visited : List String} {depth : Int}
    (h : ∀ d, f.Makes document mode (.resolve schema visited depth) d → f.AgreeOn g d) :
    (f.body document mode).resolve schema visited depth =
      (g.body document mode).resolve schema visited depth := by
  simp only [body]
  split
  · rfl
  · next hdepth =>
    have hdepth : depth ≤ maxDepth := Int.not_lt.mp hdepth
    split
    · next node hschema =>
      split
      · next href =>
        split
        · next value hvalue =>
          cases hbranches : (value.orElse (.list [])).elements with
          | error e => rfl
          | ok branches => exact h _ (.composition hdepth hschema href hvalue hbranches)
        · rfl
      · next ref hne =>
        cases hnew : isVisited visited ((Entries.get? node "$ref").getD .null) with
        | error e => rfl
        | ok seen =>
          cases seen with
          | true => rfl
          | false =>
            cases htarget : Pointer.resolveValue document
                ((Entries.get? node "$ref").getD .null) with
            | error e => rfl
            | ok target => exact h _ (.target hdepth hschema rfl hne hnew htarget)
    · rfl

/-- What a merge does depends on the resolutions of the branches only. -/
theorem merge_body_congr {branches : List Value} {visited : List String} {depth : Int}
    (h : ∀ d, f.Makes document mode (.merge branches visited depth) d → f.AgreeOn g d) :
    (f.body document mode).merge branches visited depth =
      (g.body document mode).merge branches visited depth := by
  simp only [body]
  have hmerge : mergeAll (fun branch => f.resolve branch visited (depth + 1)) visited branches =
      mergeAll (fun branch => g.resolve branch visited (depth + 1)) visited branches := by
    refine Except.foldlM_congr (fun merge branch hbranch => ?_) _
    have hsame : f.resolve branch visited (depth + 1) = g.resolve branch visited (depth + 1) :=
      h _ (.branch hbranch)
    dsimp only
    rw [hsame]
  rw [hmerge]

/-- What is made of a node depends on the schemas in it only. -/
theorem object_body_congr {node : Entries} {visited : List String} {depth : Int}
    (h : ∀ d, f.Makes document mode (.object node visited depth) d → f.AgreeOn g d) :
    (f.body document mode).object node visited depth =
      (g.body document mode).object node visited depth := by
  simp only [body, objectValidator_eq_bind]
  have hrules : ∀ required,
      rulesOf (fun child => f.compile child visited (depth + 1)) mode required
        (declaredProperties node) =
      rulesOf (fun child => g.compile child visited (depth + 1)) mode required
        (declaredProperties node) := by
    intro required
    refine rulesOf_of_entriesPair (EntriesPair.refl (fun _ => rfl) _) ?_
    rintro c hc _ - rfl
    obtain ⟨p, hp, rfl⟩ := List.mem_map.mp (Except.reached_subset _ _ _ hc)
    exact h _ (.property hp)
  have hextras : extrasOf (fun child => f.compile child visited (depth + 1)) mode node =
      extrasOf (fun child => g.compile child visited (depth + 1)) mode node :=
    extrasOf_of_keepsMaps KeepsShape.eq.toKeepsMaps rfl fun hmode es hbare =>
      h _ (.undeclared hmode hbare)
  simp only [hrules, hextras]

/-- What a compilation does depends on the resolution, and on the schemas in the node that it
gives. -/
theorem compile_body_congr {schema : Value} {visited : List String} {depth : Int}
    (h : ∀ d, f.Makes document mode (.compile schema visited depth) d → f.AgreeOn g d) :
    (f.body document mode).compile schema visited depth =
      (g.body document mode).compile schema visited depth := by
  simp only [body]
  split
  · rfl
  · next hdepth =>
    have hdepth : depth ≤ maxDepth := Int.not_lt.mp hdepth
    have hsame : f.resolve schema visited depth = g.resolve schema visited depth :=
      h _ (.resolution hdepth)
    rw [← hsame]
    cases hr : f.resolve schema visited depth with
    | error e => rfl
    | ok r =>
      have hbare : f.bare mode r.node r.visited depth = g.bare mode r.node r.visited depth := by
        unfold bare
        split
        · next hkind => exact h _ (.object hdepth hr hkind)
        · next hkind =>
          -- What is no map has the schema of items at most.
          refine bareValidator_of_nodePair .eq (.refl (fun _ => rfl) _) ?_
          rintro c hc _ - rfl
          cases inner_of_mem_innerReached hc with
          | property hobject | extra hobject => exact absurd hobject hkind
          | item harray htruthy => exact h _ (.items hdepth hr harray htruthy)
      simp only [bind, Except.bind]
      rw [hbare]

/-- **What a function does depends on the calls that it makes only.** -/
theorem agreeOn_body (h : ∀ d, f.Makes document mode c d → f.AgreeOn g d) :
    (f.body document mode).AgreeOn (g.body document mode) c := by
  cases c with
  | resolve => exact resolve_body_congr h
  | merge => exact merge_body_congr h
  | compile => exact compile_body_congr h
  | object => exact object_body_congr h

/-- The functions by which schemas are resolved and compiled do what they have to do. -/
theorem body_ofSchemas (document : Value) (mode : Mode) :
    (ofSchemas document mode).body document mode = ofSchemas document mode := by
  apply Functions.ext
  · funext schema visited depth
    simp only [body, ofSchemas, Schema.resolve]
    split
    · next hdepth =>
      rw [room_of_lt hdepth]
      rfl
    · next hdepth =>
      rw [room_of_le (Int.not_lt.mp hdepth), resolveWithin]
      rfl
  · rfl
  · funext schema visited depth
    simp only [body, ofSchemas, Schema.compile]
    split
    · next hdepth =>
      rw [room_of_lt hdepth]
      rfl
    · next hdepth =>
      have hbare : ∀ node visited, (ofSchemas document mode).bare mode node visited depth =
          bareValidator (fun child => compileWithin document mode (room (depth + 1)) child visited)
            mode node := by
        intro node visited
        unfold bare bareValidator
        cases kind node <;> rfl
      rw [Schema.resolve, room_of_le (Int.not_lt.mp hdepth), compileWithin]
      refine bind_congr fun r => ?_
      dsimp only
      split
      · rfl
      · exact congrArg (· >>= fun bare => do return withNull r.node (← described r.node bare))
          (hbare r.node r.visited)
  · rfl

/-- **There is one solution of the recursion**: the functions by which schemas are resolved and
compiled. -/
theorem body_eq_self_iff : f.body document mode = f ↔ f = ofSchemas document mode := by
  constructor
  · intro hf
    have hagree : ∀ c, f.AgreeOn (ofSchemas document mode) c := by
      intro c
      induction c using (wellFounded_makes document mode f).induction with
      | h c ih =>
        have hbody := agreeOn_body ih
        rwa [hf, body_ofSchemas] at hbody
    apply Functions.ext
    · funext schema visited depth
      exact hagree (.resolve schema visited depth)
    · funext branches visited depth
      exact hagree (.merge branches visited depth)
    · funext schema visited depth
      exact hagree (.compile schema visited depth)
    · funext node visited depth
      exact hagree (.object node visited depth)
  · rintro rfl
    exact body_ofSchemas document mode

end Functions

/-! ### The bound -/

open Validator

/-- The node of lists of what a schema describes. -/
def listNode (items : Value) : Entries :=
  [(.text "type", .text "array"), (.text "items", items)]

/-- The room can be used up: for each room there is a schema with a path through as many lists. -/
theorem exists_path_of_room (document : Value) (mode : Mode) (room : Nat) (visited : List String) :
    ∃ schema v path, schema.isTruthy = true ∧
      compileWithin document mode room schema visited = .ok v ∧ v.Path path ∧
        path.countP isLayer = room := by
  induction room with
  | zero =>
    exact ⟨.record [("type", .text "string")], .any .null, [.any .null], rfl, rfl, .leaf rfl, rfl⟩
  | succ room ih =>
    obtain ⟨schema, v, path, htruthy, hv, hpath, hcount⟩ := ih
    have hitems : itemSchema (listNode schema) = schema := rfl
    have hbare : bareValidator
        (fun child => compileWithin document mode room child visited) mode (listNode schema) =
          .ok (.array .null v) :=
      bareValidator_eq_ok_iff.mpr (.items rfl (hitems ▸ htruthy) v (hitems ▸ hv) rfl)
    refine ⟨.map (listNode schema), .array .null v, .array .null v :: path, rfl, ?_, ?_, ?_⟩
    · exact compileWithin_succ_iff.mpr
        (.built ⟨listNode schema, visited⟩ (resolveWithin_itself rfl rfl rfl) (List.cons_ne_nil _ _)
          (.array .null v) (.array .null v) hbare rfl rfl)
    · exact .down List.mem_cons_self hpath
    · rw [List.countP_cons_of_pos rfl, hcount]

/-- **Compilation ends**, whatever references the document has: one way only to give the functions
results does what they have to do, the calls that they make are nowhere endless, and no more of them
are open at once than a bound that depends on the depth alone.  **No path down a compiled validator
goes through more lists and maps than there are depths from its own to the greatest.** -/
theorem compilation_ends (document : Value) (mode : Mode) :
    (∀ f : Functions, f.body document mode = f ↔ f = .ofSchemas document mode) ∧
      (∀ f : Functions, WellFounded fun d c => f.Makes document mode c d) ∧
      (∀ (f : Functions) (c : Call) (calls : List Call),
        (c :: calls).IsChain (f.Makes document mode) → calls.length ≤ c.rank) ∧
      ∀ schema depth visited v path, compile document schema mode depth visited = .ok v →
        v.Path path →
          (8 < depth → path.countP isLayer = 0) ∧
            (depth ≤ 8 → (path.countP isLayer : Int) ≤ 9 - depth) := by
  refine ⟨fun f => Functions.body_eq_self_iff, Functions.wellFounded_makes document mode,
    fun f c calls => Functions.length_le_rank, ?_⟩
  intro schema depth visited v path h hpath
  have hle : path.countP isLayer ≤ (9 - depth).toNat := countP_isLayer_le h hpath
  constructor
  · intro hdepth
    omega
  · intro hdepth
    omega

/-- A schema of lists inside each other, the given number of them around a reference. -/
def nested : Nat → Value
  | 0 => .record [("$ref", .text "#/Deep")]
  | n + 1 => .map (listNode (nested n))

/-- A document with a schema of twelve lists that refers to itself inside. -/
def deepDocument : Value := .record [("Deep", nested 12)]

/-- The validator of lists inside each other, the given number of them. -/
def lists : Nat → Validator
  | 0 => .any .null
  | n + 1 => .array .null (lists n)

/-- The path down this validator. -/
def descent : Nat → List Validator
  | 0 => [lists 0]
  | n + 1 => lists (n + 1) :: descent n

theorem path_descent (n : Nat) : (lists n).Path (descent n) := by
  induction n with
  | zero => exact .leaf rfl
  | succ n ih => exact .down List.mem_cons_self ih

/-- Nine lists are compiled at the least depth, as many as may be, and none beyond the greatest. -/
theorem compilation_ends_deepDocument :
    compile deepDocument (nested 0) .input 0 [] = .ok (lists 9) ∧
      (descent 9).countP isLayer = 9 ∧ ((descent 9).countP isLayer : Int) ≤ 9 - 0 ∧
      compile deepDocument (nested 0) .input 9 [] = .ok (lists 0) ∧
      (descent 0).countP isLayer = 0 ∧
      ∀ (f : Functions) (calls : List Call),
        (.compile (nested 0) [] 0 :: calls).IsChain (f.Makes deepDocument .input) →
          calls.length ≤ 19 := by
  obtain ⟨-, -, hcalls, hpaths⟩ := compilation_ends deepDocument .input
  have hcompile : compile deepDocument (nested 0) .input 0 [] = .ok (lists 9) := rfl
  have hbeyond : compile deepDocument (nested 0) .input 9 [] = .ok (lists 0) := rfl
  refine ⟨hcompile, rfl, ?_, hbeyond, ?_, fun f calls h => hcalls f _ calls h⟩
  · exact (hpaths _ _ _ _ _ hcompile (path_descent 9)).2 (by decide)
  · exact (hpaths _ _ _ _ _ hbeyond (path_descent 0)).1 (by decide)

end Schema

end ApiTools
