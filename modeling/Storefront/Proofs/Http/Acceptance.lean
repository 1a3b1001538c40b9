import Storefront.Proofs.Http.Customer
import Storefront.Proofs.Record.Reader
import Storefront.Store.Memory

/-! Which creates are accepted. The record that a body begins with is taken, and what follows
it is not looked at. -/
namespace Storefront

variable {s : Schema} {σ : Type}

def Store.Works (store : Store s σ) : Prop := ∀ fresh r state, ∃ saved, (store.save fresh r state).1 = .ok saved

theorem Store.memoryWorks (s : Schema) : (Store.memory s).Works := fun fresh r t => ⟨(t.save fresh r).1, rfl⟩

namespace Http

def Announced (r : Request) : Prop :=
  MediaType.announcesJson (r.header? "content-type") = true ∧ r.body.length ≤ bodyLimit

def WholeRecord (r : Request) : Prop := ∃ record, Record.parse r.body = .ok record

def BeginsWithRecord (r : Request) : Prop :=
  ∃ front tail record, r.body = front ++ tail ∧ Record.parse front = .ok record

theorem bodyRecordTaken {r : Request} :
    (∃ record, bodyRecord r = .ok record) ↔ Announced r ∧ BeginsWithRecord r := by
  have short : r.tooLong = false ↔ r.body.length ≤ bodyLimit := by
    rw [Request.tooLong, decide_eq_false_iff_not, Nat.not_lt]
  constructor
  · rintro ⟨record, ok⟩
    obtain ⟨announced, length, start⟩ := bodyRecordOk.mp ok
    obtain ⟨front, tail, split, whole⟩ := Record.startPrefix.mp start
    exact ⟨⟨announced, short.mp length⟩, front, tail, record, split, whole⟩
  · rintro ⟨⟨announced, length⟩, front, tail, record, split, whole⟩
    exact ⟨record, bodyRecordOk.mpr
      ⟨announced, short.mpr length, Record.startPrefix.mpr ⟨front, tail, split, whole⟩⟩⟩

/-- A create is answered with 201 exactly when its body begins with a record, and otherwise
with 500, a message and the time, and nothing is stored. So it is accepted although its body is no
record exactly when text that does not belong there follows one. -/
theorem createAccepted {store : Store Service.customer.schema σ} (works : store.Works) (state : σ)
    (shared : Bool) {a : Arrival} (creates : Creates a.request) :
    ((a.serve .customer shared store state).1.status = 201 ↔ Announced a.request ∧ BeginsWithRecord a.request) ∧
    ((a.serve .customer shared store state).1.status ≠ 201 →
      (a.serve .customer shared store state).1.status = 500 ∧
      (∃ message, (a.serve .customer shared store state).1.body =
        (Json.object [("message", .text message), ("timestamp", .text (a.now.text "+00:00"))]).compact) ∧
      (a.serve .customer shared store state).2 = state) ∧
    (((a.serve .customer shared store state).1.status = 201 ↔ Announced a.request ∧ WholeRecord a.request) ↔
      ¬ (Announced a.request ∧ BeginsWithRecord a.request ∧ ¬ WholeRecord a.request)) := by
  have whole : WholeRecord a.request → BeginsWithRecord a.request := fun ⟨record, ok⟩ =>
    ⟨a.request.body, [], record, (List.append_nil _).symm, ok⟩
  have accepted := bodyRecordTaken (r := a.request)
  rw [createServed creates]
  cases body : bodyRecord a.request with
  | error f =>
    have refused : ¬ (Announced a.request ∧ BeginsWithRecord a.request) := by
      rw [← accepted, body]
      rintro ⟨record, never⟩
      contradiction
    have status : (dressed shared (Response.failed a.now f)).status = 500 := by
      rw [dressedStatus]
      rfl
    have text : (dressed shared (Response.failed a.now f)).body =
        (Json.object [("message", .text f.message), ("timestamp", .text (a.now.text "+00:00"))]).compact := by
      rw [dressedBody]
      rfl
    dsimp only
    rw [status]
    refine ⟨⟨fun never => absurd never (by decide), fun taken => absurd taken refused⟩,
      fun _ => ⟨rfl, ⟨_, text⟩, rfl⟩, ?_⟩
    tauto
  | ok record =>
    have taken : Announced a.request ∧ BeginsWithRecord a.request := accepted.mp ⟨record, body⟩
    obtain ⟨saved, ok⟩ := works a.fresh (record.toRow Service.customer.schema) state
    have status : (dressed shared (createAnswer a.now
        (store.save a.fresh (record.toRow Service.customer.schema) state).1)).status = 201 := by
      rw [dressedStatus, ok]
      rfl
    dsimp only
    rw [status]
    refine ⟨⟨fun _ => taken, fun _ => rfl⟩, fun never => absurd rfl never, ?_⟩
    tauto

def overlookedCreate : Arrival where
  now := ⟨0, 0, 0⟩
  fresh := "k"
  request := ⟨"POST", "/audit-logs", [("content-type", bytesOf "application/json")], bytesOf "\x7b\x7d x"⟩

theorem createAcceptedOverlooked : (Store.memory Service.customer.schema).Works ∧ Creates overlookedCreate.request ∧
    ¬ WholeRecord overlookedCreate.request ∧
    (overlookedCreate.serve .customer true (Store.memory Service.customer.schema) Ordered.empty).1.status = 201 := by
  have works := Store.memoryWorks Service.customer.schema
  have creates : Creates overlookedCreate.request := ⟨rfl, by decide⟩
  have announced : Announced overlookedCreate.request := by
    constructor <;> decide
  have begins : BeginsWithRecord overlookedCreate.request :=
    ⟨bytesOf "\x7b\x7d", bytesOf " x", Ordered.empty, by decide, by rfl⟩
  refine ⟨works, creates, ?_, (createAccepted works _ true creates).1.mpr ⟨announced, begins⟩⟩
  rintro ⟨record, ok⟩
  have refused : (Record.parse overlookedCreate.request.body).toOption = none := by rfl
  rw [ok] at refused
  contradiction

end Http

end Storefront
