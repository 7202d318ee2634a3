import Pager.Proofs.Walk.Chain
import Pager.Sink.JsonLines

namespace Pager

/-- A writer that takes everything. -/
structure Writer.Open (w : Writer) : Prop where
  unlimited : w.limit = none
  flushes : w.flushFails = false

/-- The writer with more bytes written. -/
def Writer.extended (w : Writer) (bytes : Text.Bytes) : Writer :=
  { w with written := w.written ++ bytes }

namespace Writer

variable {w : Writer}

theorem unlimited_open : unlimited.Open :=
  ⟨rfl, rfl⟩

theorem Open.extended (free : w.Open) (bytes : Text.Bytes) : (w.extended bytes).Open :=
  ⟨free.unlimited, free.flushes⟩

@[simp] theorem extended_nil (w : Writer) : w.extended [] = w := by
  simp [Writer.extended]

@[simp] theorem extended_extended (w : Writer) (earlier later : Text.Bytes) :
    (w.extended earlier).extended later = w.extended (earlier ++ later) := by
  simp [Writer.extended]

theorem Open.write (free : w.Open) (bytes : Text.Bytes) : w.write bytes = (w.extended bytes, true) := by
  simp [Writer.write, Writer.extended, free.unlimited]

end Writer

/-- The items of a list, and any other value by itself. -/
def Json.elements : Json → List Json
  | .list items => items
  | v => [v]

namespace JsonLines

/-- What has a line of its own in an emitted value: its elements if lists are enumerated, and else the
value as a whole. -/
def parts (layout : Layout) (v : Json) : List Json :=
  if layout.enumerate then v.elements else [v]

theorem documents_eq (layout : Layout) : documents layout = parts layout := by
  obtain ⟨pretty, _ | _⟩ := layout <;> funext v <;> cases v <;> rfl

/-- A document and its line break. -/
def line (layout : Layout) (v : Json) : Text.Bytes :=
  Text.toBytes (documentText layout v) ++ Text.toBytes "\n"

/-- The lines that a value stands for. -/
def lines (layout : Layout) (v : Json) : Text.Bytes :=
  (parts layout v).flatMap (line layout)

/-- The compact text of a value and a line break. -/
def compactLine (v : Json) : Text.Bytes :=
  Text.toBytes v.toText ++ [10]

/-- The lines of values are those of all their parts. -/
theorem flatMap_lines (layout : Layout) (values : List Json) :
    values.flatMap (lines layout) = (values.flatMap (parts layout)).flatMap (line layout) := by
  rw [List.flatMap_assoc]
  rfl

theorem toBytes_break : Text.toBytes "\n" = [10] := by decide +kernel

theorem line_compact (enumerate : Bool) : line ⟨false, enumerate⟩ = compactLine := by
  funext v
  rw [line, toBytes_break]
  rfl

variable {layout : Layout} {w : Writer}

theorem writeDocument_open (free : w.Open) (v : Json) :
    writeDocument layout w v = (w.extended (line layout v), none) := by
  simp only [writeDocument, free.write, (free.extended _).write, if_true, Writer.extended_extended]
  rfl

theorem writeDocuments_open (free : w.Open) (documents : List Json) :
    writeDocuments layout w documents = (w.extended (documents.flatMap (line layout)), none) := by
  induction documents generalizing w with
  | nil => simp [writeDocuments, free.flushes]
  | cons v rest ih =>
    simp only [writeDocuments, writeDocument_open free, ih (free.extended _), List.flatMap_cons,
      Writer.extended_extended]

theorem emit_open (free : w.Open) (v : Json) :
    (sink layout).emit w v = (w.extended (lines layout v), none) := by
  rw [lines, ← documents_eq]
  exact writeDocuments_open free _

/-- Everything offered to the sink of such a writer is taken and written. -/
theorem replies_open (free : w.Open) (values : List Json) :
    replies (sink layout).emit w values =
      (w.extended (values.flatMap (lines layout)), values.map fun _ => none) := by
  induction values generalizing w with
  | nil => simp
  | cons v rest ih =>
    simp only [replies_cons, emit_open free, ih (free.extended _), List.flatMap_cons, List.map_cons,
      Writer.extended_extended]

theorem accepts_open (free : w.Open) : (sink layout).Accepts w := by
  intro values
  rw [replies_open free]

end JsonLines

end Pager
