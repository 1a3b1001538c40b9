import Storefront.Proofs.Http.AuditTrail

/-! Creates whose record has no value for the identifier. Where the member is missing the row
is a new one; where it is an explicit null the row is the one of the identifier `null`. -/
namespace Storefront.Http

structure Entry (record : Record) (key : String) (row : Row Service.customer.schema) : Prop where
  key : row.key? = some key
  texts : ∀ name ∈ Service.customer.schema.columns, name ≠ "record_id" → row.get? name = record.text? name

structure UnnamedLaw (record : Record) (fresh : String) (t t' : Table Service.customer.schema) : Prop where
  missing : record.get? "record_id" = none →
    ∃ row, Entry record fresh row ∧ t'.entries = t.entries ++ [(fresh, row)]
  added : record.get? "record_id" = some none → "null" ∉ t.keys →
    ∃ row, Entry record "null" row ∧ t'.entries = t.entries ++ [("null", row)]
  replaced : record.get? "record_id" = some none → "null" ∈ t.keys →
    ∃ row, Entry record "null" row ∧ t'.entries = t.entries.map fun e => if e.1 = "null" then ("null", row) else e

theorem entryKeyed (record : Record) (fresh : String) :
    Entry record ((record.text? "record_id").getD fresh) ((record.toRow Service.customer.schema).keyed fresh) where
  key := by
    rw [Row.keyKeyed, Record.keyToRow]
    rfl
  texts name declared other := by rw [Row.getKeyed _ _ other, Record.getToRow record declared]

theorem takenServed {a : Arrival} {record : Record} (takes : Takes a.request record) (shared : Bool)
    (t : Table Service.customer.schema) :
    (a.serve .customer shared (Store.memory _) t).1.status = 201 ∧
    (a.serve .customer shared (Store.memory _) t).2 = t.insert ((record.text? "record_id").getD a.fresh)
      ((record.toRow Service.customer.schema).keyed a.fresh) := by
  have key : Table.keyFor (record.toRow Service.customer.schema) a.fresh = (record.text? "record_id").getD a.fresh := by
    rw [Table.keyFor, Record.keyToRow]
    rfl
  rw [createServed takes.creates, takes.body, ← key]
  exact ⟨dressedStatus shared _, rfl⟩

theorem unnamedTaken (record : Record) (fresh : String) {t : Table Service.customer.schema} (unused : fresh ∉ t.keys) :
    UnnamedLaw record fresh t (t.insert ((record.text? "record_id").getD fresh)
      ((record.toRow Service.customer.schema).keyed fresh)) := by
  have entry := entryKeyed record fresh
  have text : ∀ v, record.get? "record_id" = some v → (record.text? "record_id").getD fresh = v.getD "null" := by
    intro v found
    rw [Record.text?, found]
    rfl
  exact {
    missing := fun absent => by
      have key : (record.text? "record_id").getD fresh = fresh := by
        rw [Record.text?, absent]
        rfl
      rw [key] at entry ⊢
      exact ⟨_, entry, Ordered.insertAbsent t fresh _ unused⟩
    added := fun null absent => by
      rw [text none null] at entry ⊢
      exact ⟨_, entry, Ordered.insertAbsent t "null" _ absent⟩
    replaced := fun null present => by
      rw [text none null] at entry ⊢
      exact ⟨_, entry, Ordered.insertPresent t "null" _ present⟩ }

theorem customerRunSnoc (shared : Bool) (before : List Arrival) (a : Arrival) (start : Table Service.customer.schema) :
    (customerRun shared (before ++ [a]) start).2 =
      (a.serve .customer shared (Store.memory _) (customerRun shared before start).2).2 := by
  unfold customerRun
  rw [serveAllAppend]
  rfl

/-- At every point of a run, a record without the member takes a row of its own, and one with an
explicit null the row of the identifier `null`; each other row stays as it is. -/
theorem unnamedCreates (shared : Bool) (start : Table Service.customer.schema) (before : List Arrival) {a : Arrival}
    {record : Record} (takes : Takes a.request record) (unused : a.fresh ∉ (customerRun shared before start).2.keys) :
    (a.serve .customer shared (Store.memory _) (customerRun shared before start).2).1.status = 201 ∧
    UnnamedLaw record a.fresh (customerRun shared before start).2 (customerRun shared (before ++ [a]) start).2 := by
  obtain ⟨status, next⟩ := takenServed takes shared (customerRun shared before start).2
  rw [customerRunSnoc, next]
  exact ⟨status, unnamedTaken record a.fresh unused⟩

def nullCreate (operation fresh : String) : Arrival :=
  auditCreate ("\x7b\"record_id\":null,\"operation\":\"" ++ operation ++ "\"\x7d") fresh

def nullRecord (operation : String) : Record := Ordered.ofList [("record_id", none), ("operation", some operation)]

def nullRow (operation : String) : Row Service.customer.schema :=
  Row.ofFields _ [("record_id", some "null"), ("operation", some operation)]

theorem unnamedCreatesAfterNull :
    Takes (auditCreate "\x7b\x7d" "k2").request Ordered.empty ∧
    "k2" ∉ (customerRun true [nullCreate "INSERT" "k1"] Ordered.empty).2.keys ∧
    ∃ row, (customerRun true ([nullCreate "INSERT" "k1"] ++ [auditCreate "\x7b\x7d" "k2"]) Ordered.empty).2.entries =
      (customerRun true [nullCreate "INSERT" "k1"] Ordered.empty).2.entries ++ [("k2", row)] := by
  have takes : Takes (auditCreate "\x7b\x7d" "k2").request Ordered.empty := ⟨⟨rfl, by decide⟩, by decide +kernel⟩
  have unused : "k2" ∉ (customerRun true [nullCreate "INSERT" "k1"] Ordered.empty).2.keys := by decide +kernel
  obtain ⟨row, _, appended⟩ := (unnamedCreates true Ordered.empty _ takes unused).2.missing rfl
  exact ⟨takes, unused, row, appended⟩

/-- Two creates with an explicit null and different fresh keys leave one row, that of the second. -/
theorem explicitNullOverwrites :
    Takes (nullCreate "DELETE" "k2").request (nullRecord "DELETE") ∧
    (nullRecord "DELETE").get? "record_id" = some none ∧
    "k2" ∉ (customerRun true [nullCreate "INSERT" "k1"] Ordered.empty).2.keys ∧
    nullRow "INSERT" ∈ (customerRun true [nullCreate "INSERT" "k1"] Ordered.empty).2.rows ∧
    nullRow "INSERT" ∉ (customerRun true [nullCreate "INSERT" "k1", nullCreate "DELETE" "k2"] Ordered.empty).2.rows ∧
    ¬ ∃ row, (customerRun true [nullCreate "INSERT" "k1", nullCreate "DELETE" "k2"] Ordered.empty).2.rows =
      (customerRun true [nullCreate "INSERT" "k1"] Ordered.empty).2.rows ++ [row] := by
  have takes : Takes (nullCreate "DELETE" "k2").request (nullRecord "DELETE") := ⟨⟨rfl, by decide⟩, by decide +kernel⟩
  have unused : "k2" ∉ (customerRun true [nullCreate "INSERT" "k1"] Ordered.empty).2.keys := by decide +kernel
  have one : (customerRun true [nullCreate "INSERT" "k1"] Ordered.empty).2.rows = [nullRow "INSERT"] := by
    decide +kernel
  have other : (customerRun true [nullCreate "INSERT" "k1", nullCreate "DELETE" "k2"] Ordered.empty).2.rows =
      [nullRow "DELETE"] := by
    decide +kernel
  rw [one, other]
  refine ⟨takes, rfl, unused, List.mem_singleton_self _, by decide, ?_⟩
  rintro ⟨row, same⟩
  simpa using congrArg List.length same

end Storefront.Http
