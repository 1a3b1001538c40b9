import Storefront.Proofs.Clients
import Storefront.Proofs.Record.Writer

/-! Records sent back as they were answered. The first time the unset columns of the row become
texts; from then on neither the record nor the rows change. -/
namespace Storefront

variable {s : Schema}

namespace Row

def filled (r : Row s) : Row s := ⟨r.cells.map fun v => some (v.getD "null")⟩

theorem getFilled (r : Row s) {name : String} (declared : name ∈ s.columns) :
    r.filled.get? name = some ((r.get? name).getD "null") := by
  obtain ⟨i, place⟩ := Schema.positionMember declared
  simp [get?, filled, place]

theorem filledAgain (r : Row s) : r.filled.filled = r.filled := by
  refine extColumns fun name declared => ?_
  rw [getFilled _ declared, getFilled r declared, Option.getD_some]

theorem keyFilled {r : Row s} {key : String} (has : r.key? = some key) : r.filled.key? = some key := by
  have read : r.get? s.key = some key := has
  rw [key?, getFilled r s.keyed, read, Option.getD_some]

theorem toRecordToRow (r : Row s) : r.toRecord.toRow s = r.filled := by
  refine extColumns fun name declared => ?_
  rw [Record.getToRow _ declared, Record.text?, getToRecord r declared, getFilled r declared]
  rfl

theorem filledEntries (r : Row s) :
    r.filled.toRecord.entries = r.toRecord.entries.map fun e => (e.1, some (e.2.getD "null")) := by
  rw [toRecordEntries, toRecordEntries, List.map_map]
  exact List.map_congr_left fun name declared => by rw [getFilled r declared, Function.comp_apply]

theorem keyInRecord {r : Row s} {key : String} (has : r.key? = some key) :
    r.toRecord.get? s.key = some (some key) := by
  rw [getToRecord r s.keyed]
  exact congrArg some has

end Row

namespace Table

def rowKeys (t : Table s) : List (Option String) := t.rows.map Row.key?

theorem rowKeysRead (t : Table s) : t.rowKeys = t.keys.map fun key => (t.get? key).bind Row.key? := by
  have read := congrArg (List.map fun v => v.bind Row.key?) t.valuesRead
  rw [List.map_map, List.map_map] at read
  exact read

theorem rowKeysInsert (t : Table s) {key : String} {r last : Row s} (same : last.key? = r.key?) :
    rowKeys (t.insert key last) = rowKeys (t.insert key r) := by
  rw [rowKeysRead, rowKeysRead, Ordered.keysInsert, Ordered.keysInsert]
  refine List.map_congr_left fun k _ => ?_
  rw [Ordered.getInsert, Ordered.getInsert]
  split
  · exact same
  · rfl

end Table

def createText (source : Bytes) (fresh : String) (t : Table s) :
    Except Json.Refusal (Except Failure Record × Table s) :=
  (Record.parse source).map fun record => (Submission.mk fresh record).create (Store.memory s) t

theorem textCreated {source : Bytes} {record : Record} (read : Record.parse source = .ok record) (fresh : String)
    (t : Table s) : ∃ key row, row.key? = some key ∧
      createText source fresh t = .ok (.ok row.toRecord, t.insert key row) := by
  refine ⟨_, _, (Submission.mk fresh record).keyRow s, ?_⟩
  rw [createText, read]
  exact congrArg Except.ok (Clients.created (Submission.mk fresh record) t)

theorem textResent {r : Row s} {key : String} (has : r.key? = some key) (fresh : String) (t : Table s) :
    createText (bytesOf r.toRecord.json) fresh t = .ok (.ok r.filled.toRecord, t.insert key r.filled) := by
  have named : (Submission.mk fresh r.toRecord).key s = key := by
    rw [Submission.key, Row.textToRecord r has, Option.getD_some]
  have kept : (Submission.mk fresh r.toRecord).row s = r.filled := by
    rw [Submission.row, Row.toRecordToRow, Row.keyedSome (Row.keyFilled has)]
  have created := Clients.created (Submission.mk fresh r.toRecord) t
  rw [named, kept] at created
  rw [createText, Record.parseJson]
  exact congrArg Except.ok created

/-- Three answers, each to the record of the one before, and the rows after each of them. -/
structure Settles (s : Schema) (r₁ r₂ r₃ : Record) (t₁ t₂ t₃ : Table s) : Prop where
  key : ∃ key, r₁.get? s.key = some (some key) ∧ r₂.get? s.key = some (some key) ∧ r₃.get? s.key = some (some key) ∧
    ∀ other, other ≠ key → t₂.get? other = t₁.get? other
  texts : r₂.entries = r₁.entries.map fun e => (e.1, some (e.2.getD "null"))
  again : r₃ = r₂
  order : t₂.keys = t₁.keys ∧ t₃.keys = t₁.keys
  rows : t₂.rowKeys = t₁.rowKeys ∧ t₃.rowKeys = t₁.rowKeys
  kept : t₃ = t₂

theorem rowSettles (start : Table s) {r : Row s} {key : String} (has : r.key? = some key) :
    Settles s r.toRecord r.filled.toRecord r.filled.toRecord (start.insert key r) (start.insert key r.filled)
      (start.insert key r.filled) := by
  have order : (start.insert key r.filled).keys = (start.insert key r).keys := by
    rw [Ordered.keysInsert, Ordered.keysInsert]
  have rows : Table.rowKeys (start.insert key r.filled) = Table.rowKeys (start.insert key r) :=
    Table.rowKeysInsert start ((Row.keyFilled has).trans has.symm)
  have settled := Row.keyInRecord (Row.keyFilled has)
  refine ⟨⟨key, Row.keyInRecord has, settled, settled, fun other apart => ?_⟩, r.filledEntries, rfl, ⟨order, order⟩,
    ⟨rows, rows⟩, rfl⟩
  rw [Ordered.getInsert, Ordered.getInsert, if_neg apart, if_neg apart]

/-- A record that a create has answered can be sent back, and back again: its nulls become texts
the first time, and the second time changes nothing. -/
theorem resubmissionSettles {source : Bytes} {record : Record} (read : Record.parse source = .ok record)
    (start : Table s) (f₁ f₂ f₃ : String) :
    ∃ r₁ r₂ r₃ t₁ t₂ t₃, createText source f₁ start = .ok (.ok r₁, t₁) ∧
      createText (bytesOf r₁.json) f₂ t₁ = .ok (.ok r₂, t₂) ∧
      createText (bytesOf r₂.json) f₃ t₂ = .ok (.ok r₃, t₃) ∧ Settles s r₁ r₂ r₃ t₁ t₂ t₃ := by
  obtain ⟨key, row, has, first⟩ := textCreated read f₁ start
  have second := textResent has f₂ (start.insert key row)
  have third := textResent (Row.keyFilled has) f₃ (start.insert key row.filled)
  rw [Ordered.insertAgain] at second third
  rw [Row.filledAgain] at third
  exact ⟨_, _, _, _, _, _, first, second, third, rowSettles start has⟩

def deletedText : Bytes := bytesOf "\x7b\"operation\":null,\"user_id\":7\x7d"

def deletedRecord : Record := Ordered.ofList [("operation", none), ("user_id", some "7")]

theorem resubmissionSettlesDeleted :
    Record.parse deletedText = .ok deletedRecord ∧
    ∃ r₁ r₂ r₃ t₁ t₂ t₃, createText deletedText "k1" (Ordered.empty : Table Service.customer.schema) = .ok (.ok r₁, t₁) ∧
      createText (bytesOf r₁.json) "k2" t₁ = .ok (.ok r₂, t₂) ∧
      createText (bytesOf r₂.json) "k3" t₂ = .ok (.ok r₃, t₃) ∧
      Settles Service.customer.schema r₁ r₂ r₃ t₁ t₂ t₃ := by
  have read : Record.parse deletedText = .ok deletedRecord := by decide +kernel
  exact ⟨read, resubmissionSettles read Ordered.empty "k1" "k2" "k3"⟩

end Storefront
