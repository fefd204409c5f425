import ScopePaint.Document.Report
import ScopePaint.Proofs.Data.Layouts
import ScopePaint.Proofs.Text.Lines

/-!
# Reports are read back

The report on a line is written as a record on one line, from which all of it is read: the number of
the line, and for each token its place, its text and the names of its scopes
(`LineReport.readJson_compact`). So the lines of some written reports are as many as the reports, and
each is read as the report it was written for (`LineReport.read_written`).
-/

set_option autoImplicit false

namespace ScopePaint

open Data (Json Value readJson)

/-- A natural number as it is read: exactly if it has at most 64 bits. -/
def Data.Value.natural (n : Nat) : Value :=
  if n < Nat.pow 2 64 then .integer n else Json.numberTree (toString n)

/-- A natural number is read so. -/
theorem Data.Json.tree_nat_eq (n : Nat) : (Json.nat n).tree = .natural n := by
  unfold Value.natural
  split
  · rename_i hexact
    exact Json.tree_nat hexact
  · rfl

namespace TokenReport

/-- What is read from the report on a token. -/
def tree (r : TokenReport) : Value :=
  .record [("start", .natural r.range.start), ("end", .natural r.range.stop),
    ("text", .text (String.ofList r.text)), ("scopes", .list (r.scopes.map fun s => .text s.text))]

/-- It is the tree of what is written. -/
theorem tree_toJson (r : TokenReport) : r.toJson.tree = r.tree := by
  have hscopes : ((r.scopes.map fun s => Json.text s.text).map Json.tree) =
      r.scopes.map fun s => Value.text s.text := by
    rw [List.map_map]
    exact List.map_congr_left fun s _ => by rw [Function.comp_apply, Json.tree]
  simp only [toJson, tree, Json.tree, Json.treeOfFields, Json.tree_nat_eq,
    Json.treeOfItems_eq_map, hscopes]

/-- What is written of a token can be read inside of two lists or records. -/
theorem readable_toJson (r : TokenReport) : r.toJson.Readable 2 := by
  have hscopes : Json.ReadableItems 4 (r.scopes.map fun s => Json.text s.text) := by
    refine Json.readableItems_iff.2 fun v hv => ?_
    obtain ⟨s, -, rfl⟩ := List.mem_map.1 hv
    exact trivial
  exact ⟨by decide, Json.readable_nat _ _, Json.readable_nat _ _, trivial, ⟨by decide, hscopes⟩,
    trivial⟩

end TokenReport

namespace LineReport

/-- What is read from the report on a line. -/
def tree (r : LineReport) : Value :=
  .record [("line", .natural r.line), ("tokens", .list (r.tokens.map TokenReport.tree))]

/-- It is the tree of what is written. -/
theorem tree_toJson (r : LineReport) : r.toJson.tree = r.tree := by
  have htokens : (r.tokens.map TokenReport.toJson).map Json.tree = r.tokens.map TokenReport.tree := by
    rw [List.map_map]
    exact List.map_congr_left fun token _ => token.tree_toJson
  simp only [toJson, tree, Json.tree, Json.treeOfFields, Json.tree_nat_eq,
    Json.treeOfItems_eq_map, htokens]

/-- What is written of a line can be read. -/
theorem readable_toJson (r : LineReport) : r.toJson.Readable 0 := by
  have htokens : Json.ReadableItems 2 (r.tokens.map TokenReport.toJson) := by
    refine Json.readableItems_iff.2 fun v hv => ?_
    obtain ⟨token, -, rfl⟩ := List.mem_map.1 hv
    exact token.readable_toJson
  exact ⟨by decide, Json.readable_nat _ _, ⟨by decide, htokens⟩, trivial⟩

/-- **The report on a line is read back.** -/
theorem readJson_compact (r : LineReport) : readJson r.toJson.compact = some r.tree := by
  rw [Json.readJson_compact r.readable_toJson, tree_toJson]

/-- **Each line of some written reports is read as the report it was written for.** -/
theorem read_written (reports : List LineReport) :
    ∃ written, Text.splitAt '\n'
        (String.join (reports.map fun r => r.toJson.compact ++ "\n")).toList = written ++ [[]] ∧
      written.map (fun line => readJson (String.ofList line)) =
        reports.map fun r => some r.tree := by
  have htext : (String.join (reports.map fun r => r.toJson.compact ++ "\n")).toList =
      (reports.map fun r => r.toJson.compact.toList).flatMap fun line => line ++ ['\n'] := by
    rw [String.toList_join, List.flatMap_map, List.flatMap_map]
    exact List.flatMap_congr fun r _ => String.toList_append
  refine ⟨reports.map fun r => r.toJson.compact.toList, ?_, ?_⟩
  · rw [htext]
    refine Text.splitAt_terminated fun line hline => ?_
    obtain ⟨r, -, rfl⟩ := List.mem_map.1 hline
    exact Json.newline_notMem_compact r.readable_toJson
  · rw [List.map_map]
    refine List.map_congr_left fun r _ => ?_
    rw [Function.comp_apply, String.ofList_toList]
    exact r.readJson_compact

end LineReport

end ScopePaint
