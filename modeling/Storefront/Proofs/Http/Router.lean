import Storefront.Http.Router

/-! Runs of requests. Each is answered in turn, by a service's own routes or by these as a
running service shares them with other origins. -/
namespace Storefront

variable {s : Schema} {σ : Type}

namespace Task
variable {α β : Type}

theorem runMap (task : Task s α) (f : α → β) (store : Store s σ) (fresh : String) (state : σ) :
    (task.map f).run store fresh state = (f (task.run store fresh state).1, (task.run store fresh state).2) := by
  cases task <;> rfl

inductive Reads : Task s α → Prop where
  | done (answer : α) : Reads (.done answer)
  | list (answer : Except Failure (List (Row s)) → α) : Reads (.list answer)

theorem Reads.map {task : Task s α} (reads : task.Reads) (f : α → β) : (task.map f).Reads := by
  cases reads with
  | done answer => exact .done (f answer)
  | list answer => exact .list fun result => f (answer result)

theorem Reads.keeps {task : Task s α} (reads : task.Reads) {store : Store s σ}
    (lists : ∀ state, (store.list state).2 = state) (fresh : String) (state : σ) :
    (task.run store fresh state).2 = state := by
  cases reads with
  | done answer => rfl
  | list answer => exact lists state

end Task

namespace Http

theorem routeFound {k : Service} {path segment : List Char} {route : Route}
    (found : route? k path = some (route, segment)) :
    route ∈ routes k ∧ route.pattern.match? path = some segment := by
  obtain ⟨declared, member, matched⟩ := List.exists_of_findSome?_eq_some found
  obtain ⟨given, same, pair⟩ := Option.map_eq_some_iff.mp matched
  cases pair
  exact ⟨member, same⟩

theorem exactMatched {path q segment : List Char} (matched : (Pattern.exact q).match? path = some segment) :
    path = q ∧ segment = [] := by
  simp only [Pattern.match?] at matched
  split at matched
  · rename_i same
    exact ⟨same, (Option.some.inj matched).symm⟩
  · contradiction

theorem serveFound {k : Service} {r : Request} {route : Route} {segment : List Char}
    (found : route? k r.path = some (route, segment)) (answered : route.verb.methods.contains r.method = true)
    (whole : r.method ≠ "HEAD") (now : Moment) :
    (serve k now r : Task s Response) = handle now route.operation segment r := by
  rw [serve, found]
  dsimp only
  rw [if_pos answered, if_neg whole]

structure Arrival where
  now : Moment
  fresh : String
  request : Request

def Arrival.task (a : Arrival) (k : Service) (shared : Bool) : Task s Response :=
  if shared then serveShared k a.now a.request else Http.serve k a.now a.request

def Arrival.serve (a : Arrival) (k : Service) (shared : Bool) (store : Store s σ) (state : σ) : Response × σ :=
  (a.task k shared).run store a.fresh state

def serveAll (k : Service) (shared : Bool) (store : Store s σ) : List Arrival → σ → List Response × σ
  | [], state => ([], state)
  | a :: rest, state =>
    let (answer, state) := a.serve k shared store state
    let (answers, state) := serveAll k shared store rest state
    (answer :: answers, state)

theorem serveAllAppend (k : Service) (shared : Bool) (store : Store s σ) (first second : List Arrival) (state : σ) :
    serveAll k shared store (first ++ second) state =
      ((serveAll k shared store first state).1 ++
        (serveAll k shared store second (serveAll k shared store first state).2).1,
      (serveAll k shared store second (serveAll k shared store first state).2).2) := by
  induction first generalizing state with
  | nil => rfl
  | cons a rest ih => simp only [List.cons_append, serveAll, ih]

theorem serveAllLength (k : Service) (shared : Bool) (store : Store s σ) (arrivals : List Arrival) (state : σ) :
    (serveAll k shared store arrivals state).1.length = arrivals.length := by
  induction arrivals generalizing state with
  | nil => rfl
  | cons a rest ih => simp only [serveAll, List.length_cons, ih]

def dressed (shared : Bool) (r : Response) : Response :=
  if shared then r.withHeaders (exposedHeaders ++ sharedHeaders) else r

@[simp] theorem dressedStatus (shared : Bool) (r : Response) : (dressed shared r).status = r.status := by
  cases shared <;> rfl

@[simp] theorem dressedBody (shared : Bool) (r : Response) : (dressed shared r).body = r.body := by
  cases shared <;> rfl

theorem dressedHeader (shared : Bool) {r : Response} {header : String × String} (sent : header ∈ r.headers) :
    header ∈ (dressed shared r).headers := by
  cases shared with
  | true => exact List.mem_append_left _ sent
  | false => exact sent

theorem taskDressed (a : Arrival) (k : Service) (shared : Bool) (plain : a.request.method ≠ "OPTIONS") :
    (a.task k shared : Task s Response) = (Http.serve k a.now a.request).map (dressed shared) := by
  cases shared with
  | true =>
    rw [Arrival.task, if_pos rfl, serveShared, if_neg plain]
    rfl
  | false =>
    have same : dressed false = id := rfl
    rw [Arrival.task, if_neg (by decide), same]
    cases Http.serve (s := s) k a.now a.request with
    | done a => rfl
    | save r answer => rfl
    | list answer => rfl

theorem handleReads {operation : Operation} (other : operation ≠ .create) (now : Moment) (segment : List Char)
    (r : Request) : (handle now operation segment r : Task s Response).Reads := by
  cases operation with
  | create => contradiction
  | update =>
    unfold handle
    dsimp only
    split
    · exact .done _
    · split <;> exact .done _
  | health => exact .done _
  | listRows => exact .list _
  | listNothing => exact .done _

theorem serveReads {k : Service} (idle : ∀ route ∈ routes k, route.operation ≠ .create) (now : Moment)
    (r : Request) : (Http.serve k now r : Task s Response).Reads := by
  unfold Http.serve
  split
  · exact .done _
  · rename_i route segment found
    have reads := handleReads (s := s) (idle route (routeFound found).1) now segment r
    split
    · dsimp only
      split
      · exact reads.map _
      · exact reads
    · exact .done _

theorem taskReads {k : Service} (idle : ∀ route ∈ routes k, route.operation ≠ .create) (a : Arrival) (shared : Bool) :
    (a.task k shared : Task s Response).Reads := by
  have reads := serveReads (s := s) idle a.now a.request
  cases shared with
  | true =>
    rw [Arrival.task, if_pos rfl, serveShared]
    split
    · exact .done _
    · exact reads.map _
  | false =>
    rw [Arrival.task, if_neg (by decide)]
    exact reads

theorem runKeeps {k : Service} (idle : ∀ route ∈ routes k, route.operation ≠ .create) {store : Store s σ}
    (lists : ∀ state, (store.list state).2 = state) (shared : Bool) (arrivals : List Arrival) (state : σ) :
    (serveAll k shared store arrivals state).2 = state := by
  induction arrivals generalizing state with
  | nil => rfl
  | cons a rest ih =>
    have first : (a.serve k shared store state).2 = state := (taskReads idle a shared).keeps lists a.fresh state
    simp only [serveAll, first, ih]

theorem answeredAt (k : Service) (shared : Bool) (store : Store s σ) (before : List Arrival) (a : Arrival)
    (after : List Arrival) (state : σ) :
    (serveAll k shared store (before ++ a :: after) state).1[before.length]? =
      some (a.serve k shared store (serveAll k shared store before state).2).1 := by
  have position := serveAllLength k shared store before state
  rw [serveAllAppend, List.getElem?_append_right (Nat.le_of_eq position), position, Nat.sub_self]
  rfl

end Http

end Storefront
