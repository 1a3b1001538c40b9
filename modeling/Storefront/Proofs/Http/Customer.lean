import Storefront.Proofs.Http.Router

/-! Requests to the customer service. Only a create reaches the store, and only with a record. -/
namespace Storefront.Http

variable {s : Schema} {σ : Type}

def Creates (r : Request) : Prop := r.method = "POST" ∧ r.path = "/audit-logs".toList

instance (r : Request) : Decidable (Creates r) := inferInstanceAs (Decidable (_ ∧ _))

theorem mapErrorOk {ε ε' α : Type} {f : ε → ε'} {x : Except ε α} {v : α} : x.mapError f = .ok v ↔ x = .ok v := by
  cases x with
  | error e => exact ⟨fun same => (nomatch same), fun same => (nomatch same)⟩
  | ok w => exact ⟨fun same => by cases same; rfl, fun same => by cases same; rfl⟩

theorem bodyRecordOk {r : Request} {record : Record} :
    bodyRecord r = .ok record ↔
      MediaType.announcesJson (r.header? "content-type") = true ∧ r.tooLong = false ∧
        Record.parseStart r.body = .ok record := by
  unfold bodyRecord
  cases announced : MediaType.announcesJson (r.header? "content-type") with
  | false => simp
  | true =>
    cases long : r.tooLong with
    | true => simp
    | false => simp [mapErrorOk]

structure Takes (r : Request) (record : Record) : Prop where
  creates : Creates r
  body : bodyRecord r = .ok record

theorem serveCreate {r : Request} (creates : Creates r) (now : Moment) :
    (serve .customer now r : Task s Response) = handle now .create [] r := by
  obtain ⟨post, path⟩ := creates
  have route : route? .customer r.path = some (⟨.post, .exact "/audit-logs".toList, .create⟩, []) := by
    rw [path]
    decide
  exact serveFound route (by rw [post]; decide) (by rw [post]; decide) now

theorem customerRoute {path segment : List Char} {route : Route}
    (found : route? .customer path = some (route, segment)) :
    (route.verb = .post ∧ path = "/audit-logs".toList) ∨ route.operation = .health ∨
      route.operation = .listNothing ∨ route.operation = .update := by
  obtain ⟨member, matched⟩ := routeFound found
  simp only [routes, List.mem_cons, List.not_mem_nil, or_false] at member
  rcases member with rfl | rfl | rfl | rfl
  · exact Or.inr (Or.inl rfl)
  · exact Or.inl ⟨rfl, (exactMatched matched).1⟩
  · exact Or.inr (Or.inr (Or.inl rfl))
  · exact Or.inr (Or.inr (Or.inr rfl))

theorem idleHandled {operation : Operation}
    (idle : operation = .health ∨ operation = .listNothing ∨ operation = .update) (now : Moment)
    (segment : List Char) (r : Request) :
    ∃ answer, (handle now operation segment r : Task s Response) = .done answer ∧ answer.status ≠ 201 := by
  rcases idle with rfl | rfl | rfl
  · exact ⟨_, rfl, show 200 ≠ 201 by decide⟩
  · exact ⟨_, rfl, show 200 ≠ 201 by decide⟩
  · unfold handle
    dsimp only
    split
    · exact ⟨_, rfl, by decide⟩
    · split
      · exact ⟨_, rfl, by decide⟩
      · exact ⟨_, rfl, show 200 ≠ 201 by decide⟩

theorem serveOther {r : Request} (other : ¬ Creates r) (now : Moment) :
    ∃ answer, (serve .customer now r : Task s Response) = .done answer ∧ answer.status ≠ 201 := by
  unfold serve
  split
  · exact ⟨_, rfl, by decide⟩
  · rename_i route segment found
    split
    · rename_i method
      have idle : route.operation = .health ∨ route.operation = .listNothing ∨ route.operation = .update := by
        rcases customerRoute found with ⟨verb, path⟩ | idle
        · rw [verb] at method
          have post : r.method = "POST" := by simpa [Verb.methods] using method
          exact absurd ⟨post, path⟩ other
        · exact idle
      obtain ⟨answer, done, status⟩ := idleHandled (s := s) idle now segment r
      rw [done]
      dsimp only
      split
      · exact ⟨_, rfl, status⟩
      · exact ⟨_, rfl, status⟩
    · exact ⟨_, rfl, show 405 ≠ 201 by decide⟩

theorem otherServed {a : Arrival} (other : ¬ Creates a.request) (shared : Bool) (store : Store s σ) (state : σ) :
    (a.serve .customer shared store state).1.status ≠ 201 ∧ (a.serve .customer shared store state).2 = state := by
  unfold Arrival.serve
  by_cases preflight : a.request.method = "OPTIONS"
  · cases shared with
    | true =>
      rw [Arrival.task, if_pos rfl, serveShared, if_pos preflight]
      exact ⟨show 200 ≠ 201 by decide, rfl⟩
    | false =>
      obtain ⟨answer, done, status⟩ := serveOther (s := s) other a.now
      rw [Arrival.task, if_neg (by decide), done]
      exact ⟨status, rfl⟩
  · obtain ⟨answer, done, status⟩ := serveOther (s := s) other a.now
    rw [taskDressed a .customer shared preflight, done]
    exact ⟨by rw [Task.map, Task.run, dressedStatus]; exact status, rfl⟩

def createAnswer (now : Moment) : Except Failure (Row s) → Response
  | .ok saved => outcomeResponse 201 (.record saved.toRecord)
  | .error f => .failed now f

theorem createServed {a : Arrival} (creates : Creates a.request) (shared : Bool) (store : Store s σ) (state : σ) :
    a.serve .customer shared store state =
      match bodyRecord a.request with
      | .error f => (dressed shared (.failed a.now f), state)
      | .ok record =>
        (dressed shared (createAnswer a.now (store.save a.fresh (record.toRow s) state).1),
          (store.save a.fresh (record.toRow s) state).2) := by
  have plain : a.request.method ≠ "OPTIONS" := by
    rw [creates.1]
    decide
  rw [Arrival.serve, taskDressed a .customer shared plain, serveCreate creates, handle]
  cases bodyRecord a.request with
  | error f => rfl
  | ok record =>
    dsimp only
    rw [perform, Operation.task, Operation.createTask]
    simp only [Task.map, Task.run]
    cases (store.save a.fresh (record.toRow s) state).1 with
    | ok saved => rfl
    | error f => rfl

def auditCreate (body fresh : String) : Arrival where
  now := ⟨0, 0, 0⟩
  fresh := fresh
  request := ⟨"POST", "/audit-logs", [("content-type", bytesOf "application/json")], bytesOf body⟩

end Storefront.Http
