import Storefront.Proofs.Http.Router

/-! Requests for the rows of a service. Four of the services list theirs, each on one path. -/
namespace Storefront.Http

variable {s : Schema} {σ : Type} {k : Service}

def listing? : Service → Option String
  | .orderManagement => some "/order-items"
  | .paymentProcessing => some "/payments"
  | .productCatalog => some "/inventory"
  | .supplierManagement => some "/suppliers"
  | .customer | .order | .payment | .user => none

structure Lists (k : Service) (r : Request) : Prop where
  method : r.method = "GET"
  path : ∃ path, listing? k = some path ∧ r.path = path.toList

theorem listingFound {path : String} (listed : listing? k = some path) :
    route? k path.toList = some (getRoute path .listRows, []) := by
  cases k <;> cases listed <;> decide

theorem serveListing {r : Request} (lists : Lists k r) (now : Moment) :
    (serve k now r : Task s Response) = perform now 200 .listRows Ordered.empty := by
  obtain ⟨get, path, listed, same⟩ := lists
  have found : route? k r.path = some (getRoute path .listRows, []) := by rw [same, listingFound listed]
  exact serveFound found (by rw [get]; rfl) (by rw [get]; decide) now

def listAnswer (now : Moment) : Except Failure (List (Row s)) → Response
  | .ok rows => outcomeResponse 200 (.records (rows.map Row.toRecord))
  | .error f => .failed now f

theorem listingServed {a : Arrival} (lists : Lists k a.request) (shared : Bool) (store : Store s σ) (state : σ) :
    a.serve k shared store state =
      (dressed shared (listAnswer a.now (store.list state).1), (store.list state).2) := by
  have plain : a.request.method ≠ "OPTIONS" := by
    rw [lists.method]
    decide
  rw [Arrival.serve, taskDressed a k shared plain, serveListing lists, perform, Operation.task, Operation.listTask]
  simp only [Task.map, Task.run]
  cases (store.list state).1 with
  | ok rows => rfl
  | error f => rfl

end Storefront.Http
