import Liveness.Json.Printer
import Liveness.Json.Shape
import Liveness.Subscription
import Liveness.Validator

/-!
# Columns of documents

A history, the targets of a subscription and a description are kept as documents, each in a column
of text.
-/

namespace Liveness.Column

/-- The value in a column of text. -/
def read {α : Type} (reader : Json.Reader α) (column : String) : Option α :=
  (Json.Document.parse? column).bind reader

/-! ## Histories -/

/-- An observation as a value. -/
def ofAttendance (e : Attendance) : Json :=
  .object [("height", .ofNat e.height), ("found", .bool e.found)]

/-- An observation. -/
def attendance : Json.Reader Attendance := fun d => do
  let fs ← Json.fields ["height", "found"] d
  return ⟨← fs.required "height" (Json.Reader.natural Bound.word64),
    ← fs.required "found" Json.Reader.bool⟩

/-- The column of a history. -/
def ofHistory (h : History) : String := (Json.array (h.entries.map ofAttendance)).print

/-- The history of a column. -/
def history? (column : String) : Option History :=
  (read (Json.Reader.list attendance) column).map History.mk

/-! ## Targets -/

/-- A target as a value. -/
def ofTarget (target : String) : Json := .object [("target", .text target)]

/-- A target. -/
def target : Json.Reader String := fun d => do
  let fs ← Json.fields ["target"] d
  fs.required "target" Json.Reader.text

/-- The column of the targets. -/
def ofTargets (targets : List String) : String := (Json.array (targets.map ofTarget)).print

/-- The targets of a column. -/
def targets? (column : String) : Option (List String) := read (Json.Reader.list target) column

/-! ## Descriptions -/

/-- The column of a description. -/
def ofDescription (d : Description) : String :=
  (Json.object [("moniker", .text d.moniker), ("identity", .text d.identity),
    ("website", .text d.website), ("details", .text d.details)]).print

/-- The description of a column. -/
def description? (column : String) : Option Description := read Description.read column

end Liveness.Column
