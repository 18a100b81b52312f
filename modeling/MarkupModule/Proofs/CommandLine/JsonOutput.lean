import MarkupModule.CommandLine.Batch
import MarkupModule.Proofs.Json.Reader
import Mathlib.Data.List.Forall2

/-! The output of a run as JSON. Whatever characters the paths and the sources hold, a reader of JSON finds
one object for each result, in order, that tells the result and no more. -/

namespace MarkupModule.CommandLine

open Json (Tree Value)

/-- The members of an object that tells a result: its path, its source, its source map and the number of
its lines. -/
structure Describes (members : List (String × Tree)) (result : String × ModuleText) : Prop where
  names : members.map Prod.fst = ["path", "source", "sourceMap", "lineCount"]
  path : members.lookup "path" = some (.string result.1)
  source : members.lookup "source" = some (.string result.2.source)
  sourceMap : members.lookup "sourceMap" = some (.string result.2.sourceMap)
  lineCount : members.lookup "lineCount" = some (.number result.2.lineCount)
  importCount : members.lookup "importCount" = none

/-- The object for a result as it is read. -/
def toldMembers (result : String × ModuleText) : List (String × Tree) :=
  [("path", .string result.1), ("source", .string result.2.source),
    ("sourceMap", .string result.2.sourceMap), ("lineCount", .number result.2.lineCount)]

theorem describes_toldMembers (result : String × ModuleText) : Describes (toldMembers result) result where
  names := rfl
  path := rfl
  source := rfl
  sourceMap := rfl
  lineCount := rfl
  importCount := rfl

theorem trees_moduleValue (results : List (String × ModuleText)) :
    Value.trees (results.map moduleValue) = (results.map toldMembers).map .object := by
  rw [Value.trees_eq, List.map_map, List.map_map]
  rfl

theorem exists_output_eq (results : List (String × ModuleText)) :
    ∃ value : Value, output true results = value.pretty ∧
      value.tree =
        match results.map toldMembers with
        | [members] => .object members
        | _ => .array ((results.map toldMembers).map .object) := by
  match results with
  | [] => exact ⟨.array [], rfl, rfl⟩
  | [result] => exact ⟨moduleValue result, rfl, rfl⟩
  | first :: second :: rest =>
      refine ⟨.array ((first :: second :: rest).map moduleValue), rfl, ?_⟩
      rw [Value.tree, trees_moduleValue]
      rfl

/-- The output as JSON is a text of JSON, and it reads back as the results: one object for each, in order,
which is the whole text when there is one result and an item of a list otherwise. -/
theorem output_readBack (results : List (String × ModuleText)) :
    Json.IsValue (output true results).toList ∧
    ∃ objects : List (List (String × Tree)), List.Forall₂ Describes objects results ∧
      Tree.ofJson (output true results) =
        .ok (match objects with
          | [members] => .object members
          | _ => .array (objects.map .object)) := by
  obtain ⟨value, houtput, htree⟩ := exists_output_eq results
  rw [houtput, Tree.ofJson_pretty, htree]
  refine ⟨?_, results.map toldMembers, ?_, rfl⟩
  · rw [Value.pretty, String.toList_ofList]
    exact value.isValue_write 0
  · rw [List.forall₂_map_left_iff, List.forall₂_same]
    exact fun result _ => describes_toldMembers result

/-- Two results, one of them with a quote, a line feed and a brace in its source. -/
example : (Tree.ofJson (output true [("a", ⟨"\",\n\x7b", "", 2, 1⟩), ("é", ⟨"", "", 0, 0⟩)])).toOption =
    some (.array [
      .object [("path", .string "a"), ("source", .string "\",\n\x7b"), ("sourceMap", .string ""),
        ("lineCount", .number 2)],
      .object [("path", .string "é"), ("source", .string ""), ("sourceMap", .string ""),
        ("lineCount", .number 0)]]) := by
  cbv

end MarkupModule.CommandLine
