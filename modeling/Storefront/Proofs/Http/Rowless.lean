import Storefront.Proofs.Http.Customer
import Storefront.Proofs.Http.Listing
import Storefront.Proofs.Json.Object
import Storefront.Store.Memory
import Storefront.Store.Postgres

/-! Requests that have nothing to do with rows. Whatever store is behind a service, they get the
same answers, and no call of the store is made for them. -/
namespace Storefront

variable {s : Schema} {σ τ : Type}

namespace Store

inductive Call (s : Schema) where
  | save (fresh : String) (row : Row s)
  | list

def logged (store : Store s σ) : Store s (σ × List (Call s)) where
  save := fun fresh r (state, log) =>
    ((store.save fresh r state).1, (store.save fresh r state).2, log ++ [.save fresh r])
  list := fun (state, log) => ((store.list state).1, (store.list state).2, log ++ [.list])

end Store

namespace Http

variable {k : Service}

def NeedsRows (k : Service) (r : Request) : Prop :=
  (k = .customer ∧ Creates r) ∨
    ((r.method = "GET" ∨ r.method = "HEAD") ∧ ∃ path, listing? k = some path ∧ r.path = path.toList)

theorem creatingRoute (k : Service) : ∀ route ∈ routes k, route.operation = .create →
    k = .customer ∧ route = ⟨.post, .exact "/audit-logs".toList, .create⟩ := by
  cases k <;> decide

theorem listingRoute (k : Service) : ∀ route ∈ routes k, route.operation = .listRows →
    (listing? k).map (fun path => getRoute path .listRows) = some route := by
  cases k <;> decide

theorem rowsNeeded {r : Request} {route : Route} {segment : List Char} (found : route? k r.path = some (route, segment))
    (answered : route.verb.methods.contains r.method = true)
    (rows : route.operation = .create ∨ route.operation = .listRows) : NeedsRows k r := by
  obtain ⟨member, matched⟩ := routeFound found
  rcases rows with create | list
  · obtain ⟨rfl, rfl⟩ := creatingRoute k route member create
    have post : r.method = "POST" := by simpa [Verb.methods] using answered
    exact Or.inl ⟨rfl, post, (exactMatched matched).1⟩
  · obtain ⟨path, listed, rfl⟩ := Option.map_eq_some_iff.mp (listingRoute k route member list)
    have get : r.method = "GET" ∨ r.method = "HEAD" := by simpa [getRoute, Verb.methods] using answered
    exact Or.inr ⟨get, path, listed, (exactMatched matched).1⟩

structure AlikeButTime (answer other : Response) : Prop where
  status : answer.status = other.status
  headers : answer.headers = other.headers
  body : answer.body = other.body ∨ ∃ now later, answer.body = (Health.up now).json ∧ other.body = (Health.up later).json

theorem AlikeButTime.refl (answer : Response) : AlikeButTime answer answer := ⟨rfl, rfl, Or.inl rfl⟩

theorem AlikeButTime.withHeaders {answer other : Response} (alike : AlikeButTime answer other)
    (headers : List (String × String)) : AlikeButTime (answer.withHeaders headers) (other.withHeaders headers) :=
  ⟨alike.status, congrArg (· ++ headers) alike.headers, alike.body⟩

theorem AlikeButTime.withoutBody {answer other : Response} (alike : AlikeButTime answer other) :
    AlikeButTime answer.withoutBody other.withoutBody := ⟨alike.status, alike.headers, Or.inl rfl⟩

theorem healthTold (h : Health) :
    outcomeResponse 200 (.health h) = ⟨200, [("content-type", "application/json")], h.json⟩ := rfl

theorem healthAlike (now later : Moment) :
    AlikeButTime (outcomeResponse 200 (.health (Health.up now))) (outcomeResponse 200 (.health (Health.up later))) := by
  rw [healthTold, healthTold]
  exact ⟨rfl, rfl, Or.inr ⟨now, later, rfl, rfl⟩⟩

def Settled (task : Moment → Task s Response) : Prop :=
  ∃ answer : Moment → Response, (∀ now, task now = .done (answer now)) ∧
    ∀ now later, AlikeButTime (answer now) (answer later)

theorem settledConstant (answer : Response) : Settled fun _ => (.done answer : Task s Response) :=
  ⟨fun _ => answer, fun _ => rfl, fun _ _ => .refl answer⟩

theorem Settled.map {task : Moment → Task s Response} (settled : Settled task) {f : Response → Response}
    (keeps : ∀ answer other, AlikeButTime answer other → AlikeButTime (f answer) (f other)) :
    Settled fun now => (task now).map f := by
  obtain ⟨answer, done, alike⟩ := settled
  refine ⟨fun now => f (answer now), fun now => ?_, fun now later => keeps _ _ (alike now later)⟩
  dsimp only
  rw [done now]
  rfl

theorem handleSettled {operation : Operation} (other : ¬ (operation = .create ∨ operation = .listRows))
    (segment : List Char) (r : Request) : Settled fun now => (handle now operation segment r : Task s Response) := by
  cases operation with
  | create => exact absurd (Or.inl rfl) other
  | listRows => exact absurd (Or.inr rfl) other
  | health => exact ⟨fun now => outcomeResponse 200 (.health (Health.up now)), fun _ => rfl, healthAlike⟩
  | listNothing => exact settledConstant _
  | update =>
    unfold handle
    dsimp only
    cases parameter? segment with
    | none => exact settledConstant _
    | some address => cases r.tooLong <;> exact settledConstant _

theorem serveSettled {r : Request} (rowless : ¬ NeedsRows k r) :
    Settled fun now => (serve k now r : Task s Response) := by
  unfold serve
  cases found : route? k r.path with
  | none => exact settledConstant _
  | some pair =>
    obtain ⟨route, segment⟩ := pair
    dsimp only
    by_cases answered : route.verb.methods.contains r.method = true
    · have handled := handleSettled (s := s) (mt (rowsNeeded found answered) rowless) segment r
      simp only [if_pos answered]
      by_cases head : r.method = "HEAD"
      · simp only [if_pos head]
        exact handled.map fun _ _ => .withoutBody
      · simp only [if_neg head]
        exact handled
    · simp only [if_neg answered]
      exact settledConstant _

theorem sharedSettled {r : Request} (rowless : ¬ NeedsRows k r) :
    Settled fun now => (serveShared k now r : Task s Response) := by
  unfold serveShared
  by_cases preflight : r.method = "OPTIONS"
  · simp only [if_pos preflight]
    exact settledConstant _
  · simp only [if_neg preflight]
    exact (serveSettled rowless).map fun _ _ alike => alike.withHeaders _

def unstored (k : Service) (shared : Bool) (a : Arrival) : Response :=
  (a.serve k shared (Store.failing k.schema (.storageUnavailable "")) ()).1

theorem rowlessSettled {r : Request} (rowless : ¬ NeedsRows k r) (shared : Bool) :
    ∃ answer : Moment → Response, (∀ now later, AlikeButTime (answer now) (answer later)) ∧
      ∀ a : Arrival, a.request = r → (a.task k shared : Task k.schema Response) = .done (answer a.now) := by
  cases shared with
  | true =>
    obtain ⟨answer, done, alike⟩ := sharedSettled (s := k.schema) rowless
    refine ⟨answer, alike, fun a same => ?_⟩
    rw [Arrival.task, if_pos rfl, same]
    exact done a.now
  | false =>
    obtain ⟨answer, done, alike⟩ := serveSettled (s := k.schema) rowless
    refine ⟨answer, alike, fun a same => ?_⟩
    rw [Arrival.task, if_neg (by decide), same]
    exact done a.now

theorem rowlessServed {a : Arrival} (rowless : ¬ NeedsRows k a.request) (shared : Bool) (store : Store k.schema σ)
    (state : σ) : a.serve k shared store state = (unstored k shared a, state) := by
  obtain ⟨answer, _, done⟩ := rowlessSettled rowless shared
  rw [unstored, Arrival.serve, Arrival.serve, done a rfl]
  rfl

theorem unstoredAlike {a b : Arrival} (rowless : ¬ NeedsRows k a.request) (shared : Bool)
    (same : a.request = b.request) : AlikeButTime (unstored k shared a) (unstored k shared b) := by
  obtain ⟨answer, alike, done⟩ := rowlessSettled rowless shared
  rw [unstored, unstored, Arrival.serve, Arrival.serve, done a rfl, done b same.symm]
  exact alike a.now b.now

theorem rowlessRun (shared : Bool) (store : Store k.schema σ) (state : σ) {run : List Arrival}
    (rowless : ∀ a ∈ run, ¬ NeedsRows k a.request) :
    serveAll k shared store run state = (run.map (unstored k shared), state) := by
  induction run with
  | nil => rfl
  | cons a rest ih =>
    have first := rowlessServed (rowless a List.mem_cons_self) shared store state
    have later := ih fun b member => rowless b (List.mem_cons_of_mem a member)
    simp only [serveAll, first, later, List.map_cons]

theorem rowlessAlike (shared : Bool) {run run' : List Arrival} (rowless : ∀ a ∈ run, ¬ NeedsRows k a.request)
    (same : run.map Arrival.request = run'.map Arrival.request) :
    List.Forall₂ AlikeButTime (run.map (unstored k shared)) (run'.map (unstored k shared)) := by
  induction run generalizing run' with
  | nil =>
    rw [List.map_nil, eq_comm, List.map_eq_nil_iff] at same
    subst same
    exact .nil
  | cons a rest ih =>
    cases run' with
    | nil => cases same
    | cons b rest' =>
      obtain ⟨request, others⟩ := List.cons.inj same
      have later := ih (fun c member => rowless c (List.mem_cons_of_mem a member)) others
      exact .cons (unstoredAlike (rowless a List.mem_cons_self) shared request) later

structure AsksHealth (r : Request) : Prop where
  method : r.method = "GET"
  path : r.path = "/health".toList

structure TellsUp (now : Moment) (answer : Response) : Prop where
  status : answer.status = 200
  sent : ("content-type", "application/json") ∈ answer.headers
  read : Json.parse (bytesOf answer.body) =
    .ok (.object [("status", .text "UP"), ("timestamp", .text (now.text "Z"))])

theorem healthRead (h : Health) : Json.parse (bytesOf h.json) =
    .ok (.object [("status", .text h.status), ("timestamp", .text (h.timestamp.text "Z"))]) := by
  have ordered : "status" < "timestamp" := by decide
  refine Json.parseTexts [("status", h.status), ("timestamp", h.timestamp.text "Z")] (List.pairwise_pair.mpr ordered) ?_
  rintro e ⟨⟩
  exact show "status" ≠ Json.embeddedName by decide

theorem healthServed {a : Arrival} (asks : AsksHealth a.request) (shared : Bool) (store : Store s σ) (state : σ) :
    TellsUp a.now (a.serve k shared store state).1 := by
  have found : route? k a.request.path = some (getRoute "/health" .health, []) := by
    rw [asks.path]
    cases k <;> decide
  have plain : a.request.method ≠ "OPTIONS" := by
    rw [asks.method]
    decide
  have served : (serve k a.now a.request : Task s Response) = .done (outcomeResponse 200 (.health (Health.up a.now))) :=
    serveFound found (by rw [asks.method]; rfl) (by rw [asks.method]; decide) a.now
  rw [Arrival.serve, taskDressed a k shared plain, served, healthTold]
  exact {
    status := dressedStatus shared _
    sent := dressedHeader shared List.mem_cons_self
    read := by
      rw [Task.map, Task.run, dressedBody]
      exact healthRead _ }

def Rowless (k : Service) : Prop := k = .order ∨ k = .payment ∨ k = .user

theorem rowlessService (none : Rowless k) (r : Request) : ¬ NeedsRows k r := by
  rintro (⟨customer, _⟩ | ⟨_, path, listed, _⟩)
  · rcases none with rfl | rfl | rfl <;> cases customer
  · rcases none with rfl | rfl | rfl <;> cases listed

/-- Two runs of the same requests over any two stores, none of them for rows unless the service
keeps none, are answered alike and, at the same times, with the same answers; the stores stay as
they are and are not called. And over any store a service tells that it is up. -/
theorem storeUnneeded (first : Store k.schema σ) (second : Store k.schema τ) (state : σ) (state' : τ) (shared : Bool)
    {run run' : List Arrival} (same : run.map Arrival.request = run'.map Arrival.request)
    (rowless : ¬ Rowless k → ∀ a ∈ run, ¬ NeedsRows k a.request) :
    List.Forall₂ AlikeButTime (serveAll k shared first run state).1 (serveAll k shared second run' state').1 ∧
    (run = run' → (serveAll k shared first run state).1 = (serveAll k shared second run' state').1) ∧
    serveAll k shared first.logged run (state, []) = ((serveAll k shared first run state).1, state, []) ∧
    serveAll k shared second.logged run' (state', []) = ((serveAll k shared second run' state').1, state', []) ∧
    ∀ a : Arrival, AsksHealth a.request → TellsUp a.now (a.serve k shared first state).1 := by
  have idle : ∀ a ∈ run, ¬ NeedsRows k a.request := fun a member => by
    by_cases none : Rowless k
    · exact rowlessService none a.request
    · exact rowless none a member
  have idle' : ∀ a ∈ run', ¬ NeedsRows k a.request := fun a member => by
    have sent : a.request ∈ run.map Arrival.request := same ▸ List.mem_map_of_mem member
    obtain ⟨b, among, request⟩ := List.mem_map.mp sent
    exact request ▸ idle b among
  have alike := rowlessAlike shared idle same
  rw [rowlessRun shared first state idle, rowlessRun shared second state' idle',
    rowlessRun shared first.logged _ idle, rowlessRun shared second.logged _ idle']
  exact ⟨alike, fun runs => by rw [runs], rfl, rfl, fun a asks => healthServed asks shared first state⟩

def auditRow : Table Service.customer.schema := Ordered.ofList [("a", Row.ofFields _ [("record_id", some "a")])]

def rowlessRequests : List Request :=
  [⟨"GET", "/health", [], []⟩, ⟨"PUT", "/customers/7", [], bytesOf "x"⟩, ⟨"GET", "/audit-logs", [], []⟩,
    ⟨"HEAD", "/customers?page=2", [], []⟩]

def rowlessArrivals (now : Moment) (fresh : String) : List Arrival := rowlessRequests.map fun r => ⟨now, fresh, r⟩

theorem storeUnneededClosed :
    (rowlessArrivals ⟨1, 2, 3⟩ "k").map Arrival.request = (rowlessArrivals ⟨4, 5, 6⟩ "l").map Arrival.request ∧
    (∀ a ∈ rowlessArrivals ⟨1, 2, 3⟩ "k", ¬ NeedsRows .customer a.request) ∧
    List.Forall₂ AlikeButTime
      (serveAll .customer true (Store.memory _) (rowlessArrivals ⟨1, 2, 3⟩ "k") auditRow).1
      (serveAll .customer true (Store.postgres Service.customer.schema Sql.closed) (rowlessArrivals ⟨4, 5, 6⟩ "l")
        ()).1 := by
  have same : (rowlessArrivals ⟨1, 2, 3⟩ "k").map Arrival.request =
      (rowlessArrivals ⟨4, 5, 6⟩ "l").map Arrival.request := rfl
  have rowless : ∀ a ∈ rowlessArrivals ⟨1, 2, 3⟩ "k", ¬ NeedsRows .customer a.request := by
    intro a member
    obtain ⟨r, among, rfl⟩ := List.mem_map.mp member
    rintro (⟨_, creates⟩ | ⟨_, path, listed, _⟩)
    · have none : ∀ r ∈ rowlessRequests, ¬ Creates r := by decide
      exact none r among creates
    · cases listed
  exact ⟨same, rowless, (storeUnneeded (Store.memory _) (Store.postgres _ Sql.closed) auditRow () true same fun _ =>
    rowless).1⟩

end Http

end Storefront
