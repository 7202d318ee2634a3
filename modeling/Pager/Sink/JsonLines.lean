import Pager.Json.Writer
import Pager.Sink
import Pager.Text.Bytes

namespace Pager

/-- A writer that takes `limit` bytes, or any number of them, and then fails. -/
structure Writer where
  limit : Option Nat
  flushFails : Bool
  written : Text.Bytes
  deriving DecidableEq, Repr

namespace Writer

def unlimited : Writer := ⟨none, false, []⟩

def fullText : String := "disk full"

def flushText : String := "flush failed"

/-- Takes as many of the bytes as fit, and tells whether all did. -/
def write (w : Writer) (bytes : Text.Bytes) : Writer × Bool :=
  match w.limit with
  | none => ({ w with written := w.written ++ bytes }, true)
  | some limit =>
    let room := limit - w.written.length
    ({ w with written := w.written ++ bytes.take room }, bytes.length ≤ room)

end Writer

namespace JsonLines

structure Layout where
  pretty : Bool
  enumerate : Bool
  deriving DecidableEq, Repr

/-- The documents an emitted value stands for: if lists are enumerated, the items of a list, each by
itself. -/
def documents (layout : Layout) : Json → List Json
  | .list items => if layout.enumerate then items else [.list items]
  | v => [v]

def documentText (layout : Layout) (v : Json) : String :=
  if layout.pretty then v.toIndentedText else v.toText

/-- Writes a document and its line break. -/
def writeDocument (layout : Layout) (w : Writer) (v : Json) : Writer × Option Fault :=
  let (w, whole) := w.write (Text.toBytes (documentText layout v))
  if whole then
    let (w, ended) := w.write (Text.toBytes "\n")
    (w, if ended then none else some (.io Writer.fullText))
  else (w, some (.malformedJson (some Writer.fullText)))

def writeDocuments (layout : Layout) (w : Writer) : List Json → Writer × Option Fault
  | [] => (w, if w.flushFails then some (.io Writer.flushText) else none)
  | v :: vs =>
    match writeDocument layout w v with
    | (w, none) => writeDocuments layout w vs
    | (w, some fault) => (w, some fault)

/-- Writes JSON documents, one after another, each with a line break at its end. -/
def sink (layout : Layout) : Sink Writer Json where
  emit w v := writeDocuments layout w (documents layout v)

end JsonLines

end Pager
