import ApiTools.Proofs.Schema.Followed

/-!
# Names and what they stand for

A schema that is named by a reference is compiled like the schema itself, put in place of the
reference.  The two runs differ in the room that is left for the resolution of the node, and in one
reference that only the first has followed.  The room makes no difference where the run keeps in
bounds, and the reference makes none where it is not met again.

## Main definitions

* `Schema.reference` — the node that names a schema.

## Main results

* `Schema.compile_reference` — **a reference is compiled like its target.**
-/

namespace ApiTools

namespace Schema

variable {document : Value} {mode : Mode} {name : String} {visited : List String}

/-! ### References and their targets -/

/-- The references followed agree with those before it but on the reference itself. -/
theorem agreeBut_visit (h : name ∉ visited) : AgreeBut (· = name) (visit visited name) visited :=
  ⟨fun _ heq => heq ▸ h, fun _ hne => mem_visit.trans (or_iff_left hne)⟩

/-- The node that names a schema. -/
def reference (name : String) : Value := .record [("$ref", .text name)]

theorem bare_reference : (reference name).bare = .map [(.text "$ref", .text name)] := rfl

theorem refOf_reference : refOf [(.text "$ref", .text name)] = .text name := rfl

/-- **A reference is compiled like its target**, whether either succeeds or not, when the reference
was not followed before, is not met again on the way through the target, and its compilation keeps
in bounds. -/
theorem compile_reference {target : Value} {depth : Int}
    (htarget : Pointer.resolveValue document (.text name) = .ok target) (hfresh : name ∉ visited)
    (hname : .follows name ∉ compilationTrace document mode (Schema.room depth) target visited)
    (hbounds : .overflows ∉
      compilationTrace document mode (Schema.room depth) (reference name) visited) :
    compile document (reference name) mode depth visited =
      compile document target mode depth visited := by
  unfold compile
  cases hroom : Schema.room depth with
  | zero =>
    rw [hroom] at hbounds
    exact absurd (List.mem_singleton_self _) hbounds
  | succ room =>
    rw [hroom] at hname hbounds
    have hresolution : .overflows ∉ resolutionTrace document (room + 1) (reference name) visited :=
      fun h => hbounds (mem_compilationTrace_of_resolution h)
    rw [resolutionTrace_followed bare_reference refOf_reference hfresh htarget] at hresolution
    have hresolve := resolveWithin_agree (Nat.le_succ room) (agreeBut_visit hfresh)
      (fun _ h => hresolution (List.mem_cons_of_mem _ h))
      (fun _ heq h => hname (mem_compilationTrace_of_resolution (heq ▸ h)))
    have hreference : resolveWithin document (room + 1) (reference name) visited =
        resolveWithin document room target (visit visited name) := by
      rw [resolveWithin_reference bare_reference refOf_reference, if_neg hfresh, htarget]
      rfl
    rw [← hreference] at hresolve
    exact compileWithin_of_agree hresolve (fun _ heq => heq ▸ hname) fun c _ _ =>
      compileWithin_agree

/-- The reference to the schema of folders. -/
def folderReference : String := "#/components/schemas/Folder"

/-- The schema of notes: a note lies in a folder. -/
def noteSchema : Value :=
  .record [("type", .text "object"), ("properties", .record [("title", .record [("type",
    .text "string")]), ("folder", reference folderReference)])]

/-- A document that names both; a folder lies in another one, so that its schema is cut. -/
def folderDocument : Value :=
  .record [("components", .record [("schemas", .record [("Note", noteSchema),
    ("Folder", .record [("type", .text "object"),
      ("properties", .record [("parent", reference folderReference)])])])])]

/-- Notes are compiled alike by their name and in its place. -/
theorem compile_reference_noteSchema :
    Pointer.resolveValue folderDocument (.text "#/components/schemas/Note") = .ok noteSchema ∧
      "#/components/schemas/Note" ∉ ([] : List String) ∧
      .follows "#/components/schemas/Note" ∉
        compilationTrace folderDocument .input (Schema.room 0) noteSchema [] ∧
      .overflows ∉ compilationTrace folderDocument .input (Schema.room 0)
        (reference "#/components/schemas/Note") [] ∧
      compile folderDocument (reference "#/components/schemas/Note") .input 0 [] =
        compile folderDocument noteSchema .input 0 [] := by
  have htarget : Pointer.resolveValue folderDocument (.text "#/components/schemas/Note") =
      .ok noteSchema := rfl
  have hfresh : "#/components/schemas/Note" ∉ ([] : List String) := List.not_mem_nil
  have htrace : compilationTrace folderDocument .input (Schema.room 0) noteSchema [] =
      [.follows folderReference] := rfl
  have hwhole : compilationTrace folderDocument .input (Schema.room 0)
      (reference "#/components/schemas/Note") [] =
        [.follows "#/components/schemas/Note", .follows folderReference] := rfl
  have hname : .follows "#/components/schemas/Note" ∉
      compilationTrace folderDocument .input (Schema.room 0) noteSchema [] := by
    rw [htrace]
    decide
  have hbounds : .overflows ∉ compilationTrace folderDocument .input (Schema.room 0)
      (reference "#/components/schemas/Note") [] := by
    rw [hwhole]
    decide
  exact ⟨htarget, hfresh, hname, hbounds, compile_reference htarget hfresh hname hbounds⟩

end Schema

end ApiTools
