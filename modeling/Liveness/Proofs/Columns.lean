import Liveness.Proofs.JsonText
import Liveness.Store.Columns

/-!
# Columns that are read back

What was written to a column of text is read back, as long as the heights of a history fit 64 bits.
-/

namespace Liveness

namespace Json

theorem itemsToDocuments_eq (items : List Json) :
    itemsToDocuments items = items.map toDocument := by
  induction items with
  | nil => rfl
  | cons v rest ih => rw [itemsToDocuments, ih, List.map_cons]

theorem plainItems_iff {items : List Json} : PlainItems items ↔ ∀ v ∈ items, Plain v := by
  induction items with
  | nil => simp [PlainItems]
  | cons v rest ih => rw [PlainItems, ih, List.forall_mem_cons]

theorem plainItems_map {α : Type} {write : α → Json} {as : List α}
    (h : ∀ a ∈ as, Plain (write a)) : PlainItems (as.map write) :=
  plainItems_iff.mpr (List.forall_mem_map.mpr h)

theorem regularItems_iff {room : Nat} {items : List Json} :
    RegularItems room items ↔ ∀ v ∈ items, Regular room v := by
  induction items with
  | nil => simp [RegularItems]
  | cons v rest ih => rw [RegularItems, ih, List.forall_mem_cons]

/-- A list is read item by item. -/
theorem list_toDocument {α : Type} {write : α → Json} {read : Reader α} {as : List α}
    (h : ∀ a ∈ as, read (write a).toDocument = some a) :
    Reader.list read (Json.array (as.map write)).toDocument = some as := by
  rw [toDocument, itemsToDocuments_eq, Reader.list]
  induction as with
  | nil => rfl
  | cons a as ih =>
    obtain ⟨ha, has⟩ := List.forall_mem_cons.mp h
    rw [List.map_cons, List.map_cons, List.mapM_cons, ha, ih has]
    rfl

end Json

namespace Column

open Json

/-- A printed value is read as the reader reads its document. -/
theorem read_print {α : Type} {reader : Reader α} {v : Json} (h : Plain v) :
    read reader v.print = reader v.toDocument := by
  rw [read, parse?_print h, Option.bind_some]

theorem attendance_ofAttendance {e : Attendance} (h : e.height < Bound.word64) :
    attendance (ofAttendance e).toDocument = some e := by
  show ((if e.height < Bound.word64 then some e.height else none).bind fun height =>
    some ⟨height, e.found⟩) = some e
  rw [if_pos h]
  rfl

theorem target_ofTarget (s : String) : target (ofTarget s).toDocument = some s := by
  rfl

theorem history?_ofHistory {h : History} (hh : ∀ e ∈ h.entries, e.height < Bound.word64) :
    history? (ofHistory h) = some h := by
  have hplain : Plain (.array (h.entries.map ofAttendance)) := by
    refine plainItems_map fun e he => ?_
    simpa [ofAttendance, Plain, PlainMembers, Json.ofNat] using hh e he
  rw [history?, ofHistory, read_print hplain,
    list_toDocument fun e he => attendance_ofAttendance (hh e he)]
  rfl

theorem targets?_ofTargets (targets : List String) :
    targets? (ofTargets targets) = some targets := by
  have hplain : Plain (.array (targets.map ofTarget)) := by
    refine plainItems_map fun s _ => ?_
    simp [ofTarget, Plain, PlainMembers]
  rw [targets?, ofTargets, read_print hplain, list_toDocument fun s _ => target_ofTarget s]

theorem description?_ofDescription (d : Description) :
    description? (ofDescription d) = some d := by
  rw [description?, ofDescription, read_print (by simp [Plain, PlainMembers])]
  rfl

end Column

end Liveness
