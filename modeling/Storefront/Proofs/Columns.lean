import Mathlib.Data.List.Perm.Subperm
import Storefront.Proofs.Resubmission

/-! What goes over between rows and records. A row takes from a record the texts of its columns and
nothing else, and a record takes all columns of a row, so that only an unset column comes back
changed: it then holds the text `null`. -/
namespace Storefront

variable {s : Schema} {σ : Type}

namespace Row

def returned (r : Row s) : Row s := rowOf s (some (recordOf (some r)))

theorem returnedFilled (r : Row s) : r.returned = r.filled := toRecordToRow r

theorem filledSet (r : Row s) : r.filled = r ↔ ∀ name ∈ s.columns, (r.get? name).isSome := by
  constructor
  · intro same name declared
    have read := getFilled r declared
    rw [same] at read
    rw [read]
    rfl
  · intro set
    refine extColumns fun name declared => ?_
    obtain ⟨text, found⟩ := Option.isSome_iff_exists.mp (set name declared)
    rw [getFilled r declared, found, Option.getD_some]

theorem returnedTwice (r : Row s) : r.returned.returned = r.returned := by
  rw [returnedFilled, returnedFilled, filledAgain]

end Row

namespace Record

def returned (s : Schema) (record : Record) : Record := recordOf (some (rowOf s (some record)))

theorem returnedEntries (record : Record) :
    (record.returned s).entries = s.columns.map fun name => (name, record.text? name) := by
  change (record.toRow s).toRecord.entries = _
  rw [Row.toRecordEntries]
  exact List.map_congr_left fun name declared => by rw [getToRow record declared]

theorem getReturned (record : Record) {name : String} (declared : name ∈ s.columns) :
    (record.returned s).get? name = some (record.text? name) := by
  rw [Ordered.getMember, returnedEntries]
  exact List.mem_map.mpr ⟨name, declared, rfl⟩

def AgreeOn (s : Schema) (a b : Record) : Prop := ∀ name ∈ s.columns, a.text? name = b.text? name

theorem toRowAgree {a b : Record} : a.toRow s = b.toRow s ↔ AgreeOn s a b := by
  constructor
  · intro same name declared
    rw [← getToRow a declared, ← getToRow b declared, same]
  · intro agree
    refine Row.extColumns fun name declared => ?_
    rw [getToRow a declared, getToRow b declared, agree name declared]

theorem sameMember {a b : Record} :
    a.same b = true ↔ a.size = b.size ∧ ∀ key value, a.get? key = some value → b.get? key = some value := by
  simp only [same, Bool.and_eq_true, beq_iff_eq, List.all_eq_true, Ordered.getMember, Prod.forall]

theorem sameGet {a b : Record} : a.same b = true ↔ ∀ key, a.get? key = b.get? key := by
  rw [sameMember]
  constructor
  · intro ⟨size, within⟩ key
    cases found : a.get? key with
    | some value => exact (within key value found).symm
    | none =>
      -- The keys of one are among those of the other, which are no more.
      have among : a.keys ⊆ b.keys := by
        intro k member
        obtain ⟨value, read⟩ := Option.isSome_iff_exists.mp ((Ordered.getKeys a k).mpr member)
        exact (Ordered.getKeys b k).mp (by rw [within k value read]; rfl)
      have count : b.keys.length ≤ a.keys.length := by
        rw [Ordered.keys, Ordered.keys, List.length_map, List.length_map]
        exact Nat.le_of_eq size.symm
      have equal := (List.subperm_of_subset a.distinct among).perm_of_length_le count
      refine ((Ordered.getAbsent b key).mpr fun member => ?_).symm
      exact (Ordered.getAbsent a key).mp found (equal.mem_iff.mpr member)
  · intro alike
    refine ⟨?_, fun key value found => (alike key).symm.trans found⟩
    have keys : a.keys.Perm b.keys := by
      refine (List.perm_ext_iff_of_nodup a.distinct b.distinct).mpr fun key => ?_
      have there := Ordered.getKeys a key
      rw [alike key] at there
      exact there.symm.trans (Ordered.getKeys b key)
    simpa [Ordered.size, Ordered.keys] using keys.length_eq

theorem sameAgree {a b : Record} (equal : a.same b = true) (s : Schema) : AgreeOn s a b := by
  intro name _
  rw [text?, text?, sameGet.mp equal name]

end Record

/-- To a record and back, a row has each unset column filled with the text `null` and nothing else
changed, and a second time changes nothing. To a row and back, a record has exactly the columns for
its keys, in their order, each with the text that it had there, or null. -/
theorem roundTrips (s : Schema) :
    (∀ r : Row s, (∀ name ∈ s.columns, r.returned.get? name = some ((r.get? name).getD "null")) ∧
      (r.returned = r ↔ ∀ name ∈ s.columns, (r.get? name).isSome) ∧ r.returned.returned = r.returned) ∧
    ∀ record : Record, (record.returned s).keys = s.columns ∧ ∀ name ∈ s.columns,
      (record.get? name = none → (record.returned s).get? name = some none) ∧
      ∀ value, record.get? name = some value → (record.returned s).get? name = some (some (value.getD "null")) := by
  refine ⟨fun r => ⟨fun name declared => ?_, ?_, r.returnedTwice⟩, fun record => ⟨?_, fun name declared => ⟨?_, ?_⟩⟩⟩
  · rw [r.returnedFilled, r.getFilled declared]
  · rw [r.returnedFilled, r.filledSet]
  · exact Row.toRecordKeys _
  · intro absent
    rw [record.getReturned declared, Record.text?, absent, Option.map_none]
  · intro value found
    rw [record.getReturned declared, Record.text?, found, Option.map_some]

namespace Submission

theorem createAgree {a b : Record} (agree : Record.AgreeOn s a b) (fresh : String) (store : Store s σ) (state : σ) :
    (Submission.mk fresh a).create store state = (Submission.mk fresh b).create store state := by
  rw [create, create, Operation.createTask, Operation.createTask, Record.toRowAgree.mpr agree]

end Submission

/-- Records make the same row if and only if they have the same texts in its columns, as records do
that differ in their order only. And texts whose records have the same texts in the columns are
answered alike and leave the same rows, whatever else they say. -/
theorem columnsDecide :
    (∀ (s : Schema) (a b : Record), rowOf s (some a) = rowOf s (some b) ↔ Record.AgreeOn s a b) ∧
    (∀ (s : Schema) (a b : Record), a.same b = true → rowOf s (some a) = rowOf s (some b)) ∧
    ∀ (s : Schema) (source source' : Bytes) (a b : Record), Record.parse source = .ok a →
      Record.parse source' = .ok b → Record.AgreeOn s a b → ∀ (fresh : String) (t : Table s),
        ∃ r t', createText source fresh t = .ok (.ok r, t') ∧ createText source' fresh t = .ok (.ok r, t') ∧
          r.keys = s.columns := by
  refine ⟨fun s a b => Record.toRowAgree, fun s a b equal => ?_, ?_⟩
  · exact Record.toRowAgree.mpr (Record.sameAgree equal s)
  · intro s source source' a b first second agree fresh t
    obtain ⟨key, row, _, created⟩ := textCreated first fresh t
    refine ⟨row.toRecord, _, created, ?_, row.toRecordKeys⟩
    rw [createText, first] at created
    rw [createText, second]
    have alike := Submission.createAgree agree fresh (Store.memory s) t
    simpa only [Except.map, alike] using created

def plainText : Bytes := bytesOf "\x7b\"operation\":\"[1]\",\"record_id\":\"7\",\"user_id\":\"null\"\x7d"

def mixedText : Bytes :=
  bytesOf "\x7b\"user_id\":null,\"operation\":true,\"note\":\x7b\x7d,\"record_id\":7,\"operation\":[ 1 ]\x7d"

def plainRecord : Record :=
  Ordered.ofList [("operation", some "[1]"), ("record_id", some "7"), ("user_id", some "null")]

def mixedRecord : Record :=
  Ordered.ofList [("user_id", none), ("operation", some "[1]"), ("note", some "\x7b\x7d"), ("record_id", some "7")]

theorem columnsDecideMixed :
    Record.parse plainText = .ok plainRecord ∧ Record.parse mixedText = .ok mixedRecord ∧
    Record.AgreeOn Service.customer.schema plainRecord mixedRecord ∧
    ∃ r t', createText plainText "k" (Ordered.empty : Table Service.customer.schema) = .ok (.ok r, t') ∧
      createText mixedText "k" (Ordered.empty : Table Service.customer.schema) = .ok (.ok r, t') ∧
      r.keys = Service.customer.schema.columns := by
  have first : Record.parse plainText = .ok plainRecord := by decide +kernel
  have second : Record.parse mixedText = .ok mixedRecord := by decide +kernel
  have agree : Record.AgreeOn Service.customer.schema plainRecord mixedRecord := by
    unfold Record.AgreeOn
    decide
  exact ⟨first, second, agree, columnsDecide.2.2 _ _ _ _ _ first second agree "k" Ordered.empty⟩

end Storefront
