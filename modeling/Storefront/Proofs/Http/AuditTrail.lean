import Storefront.Proofs.Http.Customer
import Storefront.Proofs.Mapping
import Storefront.Proofs.Record.Writer
import Storefront.Proofs.Store.Memory

/-! The audit rows of the customer service after any run of requests. -/
namespace Storefront.Http

def Created (a : Arrival) (answer : Response) : Prop := Creates a.request ∧ answer.status = 201

instance (a : Arrival) (answer : Response) : Decidable (Created a answer) := inferInstanceAs (Decidable (_ ∧ _))

def upsert? (a : Arrival) (answer : Response) : Option (String × Row Service.customer.schema) :=
  if Created a answer then
    (Record.parseStart a.request.body).toOption.bind fun record =>
      let row := (record.toRow Service.customer.schema).keyed a.fresh
      row.key?.map fun key => (key, row)
  else none

def upserts (arrivals : List Arrival) (answers : List Response) : List (String × Row Service.customer.schema) :=
  (arrivals.zip answers).filterMap fun e => upsert? e.1 e.2

structure AuditStep (a : Arrival) (answer : Response) (t t' : Table Service.customer.schema) : Prop where
  unchanged : ¬ Created a answer → t' = t
  created : answer.status = 201 → ∃ key row, Creates a.request ∧ upsert? a answer = some (key, row) ∧
    t' = t.insert key row
  answered : answer.status = 201 → ∃ key row, Record.parse (bytesOf answer.body) = .ok row.toRecord ∧
    row.toRecord.text? "record_id" = some key ∧ t'.get? key = some row

theorem auditStep (a : Arrival) (shared : Bool) (t : Table Service.customer.schema) :
    AuditStep a (a.serve .customer shared (Store.memory _) t).1 t (a.serve .customer shared (Store.memory _) t).2 := by
  by_cases creates : Creates a.request
  · rw [createServed creates]
    cases body : bodyRecord a.request with
    | error f =>
      have refused : (dressed shared (Response.failed a.now f)).status ≠ 201 := by
        rw [dressedStatus]
        exact show 500 ≠ 201 by decide
      exact ⟨fun _ => rfl, fun status => absurd status refused, fun status => absurd status refused⟩
    | ok record =>
      have start := (bodyRecordOk.mp body).2.2
      have key := Row.keyKeyed (record.toRow Service.customer.schema) a.fresh
      have status : (dressed shared (createAnswer a.now
          (.ok ((record.toRow Service.customer.schema).keyed a.fresh)))).status = 201 := by
        rw [dressedStatus]
        rfl
      refine ⟨fun other => absurd ⟨creates, status⟩ other, fun _ => ⟨_, _, creates, ?_, rfl⟩, fun _ => ⟨_, _, ?_,
        Row.textToRecord _ key, ?_⟩⟩
      · rw [upsert?, if_pos ⟨creates, status⟩, start]
        dsimp only [Except.toOption, Option.bind_some]
        rw [key]
        rfl
      · dsimp only [Store.memory]
        rw [dressedBody]
        exact Record.parseJson _
      · dsimp only [Store.memory]
        rw [Table.savedTable, Ordered.getInsert]
        exact if_pos rfl
  · obtain ⟨status, same⟩ := otherServed creates shared (Store.memory Service.customer.schema) t
    exact ⟨fun _ => same, fun created => absurd created status, fun created => absurd created status⟩

theorem AuditStep.upserted {a : Arrival} {answer : Response} {t t' : Table Service.customer.schema}
    (law : AuditStep a answer t t') : t' = t.insertAll (upsert? a answer).toList := by
  by_cases created : Created a answer
  · obtain ⟨key, row, _, asked, after⟩ := law.created created.2
    rw [asked, after]
    rfl
  · rw [law.unchanged created, upsert?, if_neg created]
    rfl

theorem upsertsCons (a : Arrival) (rest : List Arrival) (answer : Response) (answers : List Response) :
    upserts (a :: rest) (answer :: answers) = (upsert? a answer).toList ++ upserts rest answers := by
  unfold upserts
  rw [List.zip_cons_cons, List.filterMap_cons]
  cases upsert? a answer with
  | none => rfl
  | some e => rfl

def customerRun (shared : Bool) (arrivals : List Arrival) (t : Table Service.customer.schema) :
    List Response × Table Service.customer.schema :=
  serveAll .customer shared (Store.memory _) arrivals t

theorem upsertedRun (shared : Bool) (arrivals : List Arrival) (start : Table Service.customer.schema) :
    (customerRun shared arrivals start).2 =
      start.insertAll (upserts arrivals (customerRun shared arrivals start).1) := by
  induction arrivals generalizing start with
  | nil => rfl
  | cons a rest ih =>
    have step := (auditStep a shared start).upserted
    have later := ih (a.serve .customer shared (Store.memory _) start).2
    unfold customerRun at later ⊢
    simp only [serveAll]
    rw [later, upsertsCons, Ordered.insertAllAppend, ← step]

/-- After a run the table is the one before it with the rows of the created answers written in
order, and each request of the run did no more than its part of that. -/
theorem auditTrail (shared : Bool) (arrivals : List Arrival) (start : Table Service.customer.schema) :
    (customerRun shared arrivals start).2 =
      start.insertAll (upserts arrivals (customerRun shared arrivals start).1) ∧
    ∀ before a after, arrivals = before ++ a :: after →
      ∃ answer, (customerRun shared arrivals start).1[before.length]? = some answer ∧
        AuditStep a answer (customerRun shared before start).2 (customerRun shared (before ++ [a]) start).2 := by
  refine ⟨upsertedRun shared arrivals start, ?_⟩
  intro before a after split
  have step := auditStep a shared (customerRun shared before start).2
  refine ⟨(a.serve .customer shared (Store.memory _) (customerRun shared before start).2).1, ?_, ?_⟩
  · have position := serveAllLength .customer shared (Store.memory _) before start
    unfold customerRun
    rw [split, serveAllAppend, List.getElem?_append_right (Nat.le_of_eq position), position, Nat.sub_self]
    rfl
  · have next : (customerRun shared (before ++ [a]) start).2 =
        (a.serve .customer shared (Store.memory _) (customerRun shared before start).2).2 := by
      unfold customerRun
      rw [serveAllAppend]
      rfl
    rw [next]
    exact step

end Storefront.Http
