import Storefront.Mapping
import Storefront.Proofs.Ordered
import Storefront.Proofs.Row

/-! The record of a row: the declared columns, in their order, with what the row has in each. The
row of a record: in each declared column the text that the record has there, if any. -/
namespace Storefront

variable {s : Schema}

namespace Row

theorem toRecordOfList (r : Row s) : r.toRecord = Ordered.ofList (s.columns.map fun c => (c, r.get? c)) := by
  rw [toRecord, Ordered.ofList, List.foldl_map]

theorem toRecordEntries (r : Row s) : r.toRecord.entries = s.columns.map fun c => (c, r.get? c) := by
  have names : (s.columns.map fun c => (c, r.get? c)).map Prod.fst = s.columns := by
    rw [List.map_map]
    exact List.map_id _
  rw [toRecordOfList]
  exact Ordered.insertAllDistinct Ordered.empty _ (by rw [names]; exact s.distinct)

theorem toRecordKeys (r : Row s) : r.toRecord.keys = s.columns := by
  rw [Ordered.keys, toRecordEntries, List.map_map]
  exact List.map_id _

theorem getToRecord (r : Row s) {name : String} (declared : name ∈ s.columns) :
    r.toRecord.get? name = some (r.get? name) := by
  rw [Ordered.getMember, toRecordEntries]
  exact List.mem_map.mpr ⟨name, declared, rfl⟩

theorem textToRecord (r : Row s) {key : String} (has : r.key? = some key) :
    r.toRecord.text? s.key = some key := by
  have read : r.get? s.key = some key := has
  rw [Record.text?, getToRecord r s.keyed, read]
  rfl

end Row

namespace Record

theorem getCopied (record : Record) {names : List String} (declared : ∀ name ∈ names, name ∈ s.columns) (r : Row s)
    (name : String) :
    (names.foldl (fun r c => match record.text? c with
      | some text => r.set c (some text)
      | none => r) r).get? name =
      if name ∈ names then (record.text? name).or (r.get? name) else r.get? name := by
  induction names generalizing r with
  | nil => simp
  | cons c rest ih =>
    have here := declared c List.mem_cons_self
    rw [List.foldl_cons, ih fun n member => declared n (List.mem_cons_of_mem c member)]
    cases text : record.text? c with
    | none =>
      by_cases same : name = c
      · subst same
        simp [text]
      · simp [same]
    | some t =>
      rw [Row.getSet r here]
      by_cases same : name = c
      · subst same
        simp [text]
      · simp [same]

theorem getToRow (record : Record) {name : String} (declared : name ∈ s.columns) :
    (record.toRow s).get? name = record.text? name := by
  have copied := getCopied record (fun _ (member : _ ∈ s.columns) => member) (Row.empty s) name
  rw [if_pos declared, Row.getEmpty, Option.or_none] at copied
  exact copied

theorem keyToRow (record : Record) : (record.toRow s).key? = record.text? s.key := getToRow record s.keyed

end Record

end Storefront
