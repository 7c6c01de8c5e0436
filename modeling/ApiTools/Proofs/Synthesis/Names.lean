import ApiTools.Proofs.Synthesis.Records
import ApiTools.Proofs.ToolName.SnakeCase

/-!
# Names of tools in snake case

The name of a tool is its fixed start and an identifier in snake case, with a method or a number added
when the name was met before.  One pass over the identifier gives the snake case, whatever characters
the identifier has, so every name matches `outline_[a-z0-9_]*`.

## Main results

* `Synthesis.snakeCase_and_names` — **snake case is one pass over the identifier, and no name of a tool
  leaves its alphabet.**
-/

namespace ApiTools

namespace Synthesis

open ToolName

/-- **Snake case is what one pass makes of an identifier without its leading slash**: small letters,
digits and underscores of which no two follow each other, and a text that is in snake case stays as it
is.  **Every tool has such characters only behind the fixed start of its name**, also after the names
have been made different. -/
theorem snakeCase_and_names :
    (∀ identifier : String,
      snakeCase identifier = String.ofList (onePass none (dropSlash identifier.toList)) ∧
        Spelled (snakeCase identifier) ∧ ¬['_', '_'] <:+: (snakeCase identifier).toList ∧
        snakeCase (snakeCase identifier) = snakeCase identifier) ∧
      ∀ document found, tools document = .ok found → ∀ tool ∈ found,
        ∃ rest, tool.name = .text ("outline_" ++ rest) ∧ Spelled rest := by
  refine ⟨fun identifier => ⟨?_, spelled_snakeCase identifier, ?_, snakeCase_snakeCase identifier⟩,
    fun document found h => exists_name_rest h⟩
  · rw [snakeCase, snakeChars_eq_onePass]
  · rw [snakeCase, String.toList_ofList]
    exact not_infix_of_isChain (isChain_snakeChars _)

/-- A description of operations that all come by one name: one of them under an identifier of its own,
the others at one path. -/
def fileDocument : Value :=
  .record [("paths", .record [
    ("/fileOps.list--ALL", .record [("get", .record []), ("post", .record [])]),
    ("/files", .record [("post", .record [("operationId", .text "file.opsList…ALL")])])])]

/-- A path of letters, dots and hyphens in snake case, and the names of three tools. -/
theorem snakeCase_and_names_fileDocument :
    snakeCase "/fileOps.list--ALL" = "file_ops_list_all" ∧
      snakeCase "file_ops_list_all" = "file_ops_list_all" ∧
      ∃ found, tools fileDocument = .ok found ∧
        found.map Tool.name = [.text "outline_file_ops_list_all",
          .text "outline_file_ops_list_all_get", .text "outline_file_ops_list_all_post"] ∧
        ∀ tool ∈ found, ∃ rest, tool.name = .text ("outline_" ++ rest) ∧ Spelled rest := by
  obtain ⟨hsnake, hnames⟩ := snakeCase_and_names
  obtain ⟨hpass, -, -, hagain⟩ := hsnake "/fileOps.list--ALL"
  have hcase : snakeCase "/fileOps.list--ALL" = "file_ops_list_all" := by
    rw [hpass]
    rfl
  have htools : ((tools fileDocument).toOption.any fun found =>
      found.map Tool.name == [.text "outline_file_ops_list_all",
        .text "outline_file_ops_list_all_get", .text "outline_file_ops_list_all_post"]) = true := by
    decide +kernel
  obtain ⟨found, hfound, hlist⟩ := Except.exists_eq_ok_of_any htools
  rw [hcase] at hagain
  exact ⟨hcase, hagain, found, hfound, beq_iff_eq.mp hlist, hnames _ _ hfound⟩

end Synthesis

end ApiTools
