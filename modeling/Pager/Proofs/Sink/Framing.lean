import Pager.Proofs.Json.Writer
import Pager.Proofs.Sink.JsonLines
import Pager.Proofs.Text.Bytes

namespace Pager

/-- The byte of a line break. -/
def Text.lineBreak : UInt8 := 10

theorem Json.lineBreak_not_mem (v : Json) : Text.lineBreak ∉ Text.toBytes v.toText := by
  intro member
  obtain ⟨c, there, code⟩ := Text.exists_char_of_mem_toBytes (by decide) member
  rw [toText, String.toList_ofList] at there
  have dark := controlFree_compact v c there
  rw [code] at dark
  exact absurd dark (by decide)

/-- Lines that hold no line break are found again by splitting there; behind the last nothing is left. -/
theorem Text.splitOn_lines {α : Type} (text : α → Bytes) (free : ∀ v, lineBreak ∉ text v)
    (documents : List α) :
    (documents.flatMap fun v => text v ++ [lineBreak]).splitOn lineBreak =
      documents.map text ++ [[]] := by
  induction documents with
  | nil => exact List.splitOn_nil _
  | cons v rest ih =>
    rw [List.flatMap_cons, List.append_assoc, List.singleton_append,
      List.splitOn_append_cons_self_of_not_mem (free v), ih]
    rfl

namespace JsonLines

/-- The lines of values, taken apart at the line breaks. -/
theorem splitOn_written (enumerate : Bool) (values : List Json) :
    (values.flatMap (lines ⟨false, enumerate⟩)).splitOn Text.lineBreak =
      (values.flatMap (parts ⟨false, enumerate⟩)).map (fun v => Text.toBytes v.toText) ++ [[]] := by
  rw [flatMap_lines, line_compact]
  exact Text.splitOn_lines _ Json.lineBreak_not_mem _

/-- Compact JSON lines hold one document a line. A writer that never fails takes every value of any
sequence; no document has a line break in it, and taken apart at the line breaks what was written is
the compact texts of the documents in their order, and nothing behind the last. When lists are
enumerated the documents are the items of each list that was emitted, one level deep, and each other
value, and else each value. -/
theorem output_framed (values : List Json) :
    (∀ v : Json, Text.lineBreak ∉ Text.toBytes v.toText) ∧
    (∀ enumerate, (replies (sink ⟨false, enumerate⟩).emit .unlimited values).2 =
      values.map fun _ => none) ∧
    (replies (sink ⟨false, true⟩).emit .unlimited values).1.written.splitOn Text.lineBreak =
      (values.flatMap Json.elements).map (fun v => Text.toBytes v.toText) ++ [[]] ∧
    (replies (sink ⟨false, false⟩).emit .unlimited values).1.written.splitOn Text.lineBreak =
      values.map (fun v => Text.toBytes v.toText) ++ [[]] := by
  have written (enumerate : Bool) :
      (replies (sink ⟨false, enumerate⟩).emit .unlimited values).1.written =
        values.flatMap (lines ⟨false, enumerate⟩) := by
    rw [replies_open Writer.unlimited_open]
    rfl
  refine ⟨Json.lineBreak_not_mem, fun enumerate => ?_, ?_, ?_⟩
  · rw [replies_open Writer.unlimited_open]
  · rw [written, splitOn_written]
    rfl
  · have whole : parts ⟨false, false⟩ = fun v => [v] := rfl
    rw [written, splitOn_written, whole, List.flatMap_singleton']

end JsonLines

end Pager
