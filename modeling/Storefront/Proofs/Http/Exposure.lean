import Storefront.Proofs.Http.Rowless
import Storefront.Proofs.Http.Update

/-! What the services answer on which paths. A request comes to a handler when its method and path
are in the table of its service, and is refused without a body otherwise. -/
namespace Storefront.Http

variable {s : Schema} {σ : Type} {k : Service}

/-- The table: the operation on a path, by a method, and the segment that it gets. `HEAD` is
answered wherever `GET` is. -/
inductive Offers : Service → String → List Char → Operation → List Char → Prop where
  | health {k : Service} : Offers k "GET" "/health".toList .health []
  | createAuditLog : Offers .customer "POST" "/audit-logs".toList .create []
  | listCustomers : Offers .customer "GET" "/customers".toList .listNothing []
  | updateCustomer {address : List Char} (filled : address ≠ []) (single : '/' ∉ address) :
      Offers .customer "PUT" ("/customers/".toList ++ address) .update address
  | listOrders : Offers .order "GET" "/orders".toList .listNothing []
  | listDeliveries : Offers .order "GET" "/delivery".toList .listNothing []
  | listOrderItems : Offers .orderManagement "GET" "/order-items".toList .listRows []
  | listManagedOrders : Offers .orderManagement "GET" "/orders".toList .listNothing []
  | listPayments : Offers .payment "GET" "/payments".toList .listNothing []
  | listPaymentMethods : Offers .payment "GET" "/payment-methods".toList .listNothing []
  | listTransactions : Offers .paymentProcessing "GET" "/payments".toList .listRows []
  | listInventory : Offers .productCatalog "GET" "/inventory".toList .listRows []
  | listProducts : Offers .productCatalog "GET" "/products".toList .listNothing []
  | listSuppliers : Offers .supplierManagement "GET" "/suppliers".toList .listRows []
  | listUsers : Offers .user "GET" "/customers".toList .listNothing []
  | head {k : Service} {path segment : List Char} {operation : Operation}
      (get : Offers k "GET" path operation segment) : Offers k "HEAD" path operation segment

def Offered (k : Service) (method : String) (path : List Char) : Prop :=
  ∃ operation segment, Offers k method path operation segment

theorem segmentMatched {path q segment : List Char} (matched : (Pattern.segmentAfter q).match? path = some segment) :
    path = q ++ segment ∧ segment ≠ [] ∧ '/' ∉ segment := by
  simp only [Pattern.match?] at matched
  split at matched
  · rename_i fits
    simp only [Bool.and_eq_true, Bool.not_eq_true', List.isPrefixOf_iff_prefix] at fits
    obtain ⟨⟨⟨rest, rfl⟩, filled⟩, single⟩ := fits
    rw [List.drop_left] at matched filled single
    obtain rfl := Option.some.inj matched
    exact ⟨rfl, by simpa using filled, by simpa using single⟩
  · contradiction

def Verb.name : Verb → String
  | .get => "GET"
  | .post => "POST"
  | .put => "PUT"

theorem routeOffers {path segment : List Char} {route : Route} (found : route? k path = some (route, segment)) :
    Offers k route.verb.name path route.operation segment := by
  obtain ⟨member, matched⟩ := routeFound found
  cases k <;> simp only [routes, List.mem_cons, List.not_mem_nil, or_false] at member
  case customer =>
    rcases member with rfl | rfl | rfl | rfl
    · obtain ⟨rfl, rfl⟩ := exactMatched matched
      exact .health
    · obtain ⟨rfl, rfl⟩ := exactMatched matched
      exact .createAuditLog
    · obtain ⟨rfl, rfl⟩ := exactMatched matched
      exact .listCustomers
    · obtain ⟨rfl, filled, single⟩ := segmentMatched matched
      exact .updateCustomer filled single
  case order =>
    rcases member with rfl | rfl | rfl <;> obtain ⟨rfl, rfl⟩ := exactMatched matched
    · exact .health
    · exact .listOrders
    · exact .listDeliveries
  case orderManagement =>
    rcases member with rfl | rfl | rfl <;> obtain ⟨rfl, rfl⟩ := exactMatched matched
    · exact .health
    · exact .listOrderItems
    · exact .listManagedOrders
  case payment =>
    rcases member with rfl | rfl | rfl <;> obtain ⟨rfl, rfl⟩ := exactMatched matched
    · exact .health
    · exact .listPayments
    · exact .listPaymentMethods
  case paymentProcessing =>
    rcases member with rfl | rfl <;> obtain ⟨rfl, rfl⟩ := exactMatched matched
    · exact .health
    · exact .listTransactions
  case productCatalog =>
    rcases member with rfl | rfl | rfl <;> obtain ⟨rfl, rfl⟩ := exactMatched matched
    · exact .health
    · exact .listInventory
    · exact .listProducts
  case supplierManagement =>
    rcases member with rfl | rfl <;> obtain ⟨rfl, rfl⟩ := exactMatched matched
    · exact .health
    · exact .listSuppliers
  case user =>
    rcases member with rfl | rfl <;> obtain ⟨rfl, rfl⟩ := exactMatched matched
    · exact .health
    · exact .listUsers

theorem offersRoute {method : String} {path segment : List Char} {operation : Operation}
    (offers : Offers k method path operation segment) :
    ∃ verb pattern, route? k path = some (⟨verb, pattern, operation⟩, segment) ∧ method ∈ verb.methods := by
  induction offers with
  | health => exact ⟨.get, .exact "/health".toList, by rename_i k; cases k <;> decide, by decide⟩
  | updateCustomer filled single => exact ⟨.put, _, updateFound filled single, by decide⟩
  | head get ih =>
    obtain ⟨verb, pattern, found, answered⟩ := ih
    cases verb with
    | get => exact ⟨.get, pattern, found, by decide⟩
    | post => exact absurd answered (by decide)
    | put => exact absurd answered (by decide)
  | createAuditLog => exact ⟨.post, .exact "/audit-logs".toList, by decide, by decide⟩
  | listCustomers => exact ⟨.get, .exact "/customers".toList, by decide, by decide⟩
  | listOrders => exact ⟨.get, .exact "/orders".toList, by decide, by decide⟩
  | listDeliveries => exact ⟨.get, .exact "/delivery".toList, by decide, by decide⟩
  | listOrderItems => exact ⟨.get, .exact "/order-items".toList, by decide, by decide⟩
  | listManagedOrders => exact ⟨.get, .exact "/orders".toList, by decide, by decide⟩
  | listPayments => exact ⟨.get, .exact "/payments".toList, by decide, by decide⟩
  | listPaymentMethods => exact ⟨.get, .exact "/payment-methods".toList, by decide, by decide⟩
  | listTransactions => exact ⟨.get, .exact "/payments".toList, by decide, by decide⟩
  | listInventory => exact ⟨.get, .exact "/inventory".toList, by decide, by decide⟩
  | listProducts => exact ⟨.get, .exact "/products".toList, by decide, by decide⟩
  | listSuppliers => exact ⟨.get, .exact "/suppliers".toList, by decide, by decide⟩
  | listUsers => exact ⟨.get, .exact "/customers".toList, by decide, by decide⟩

theorem offeredMethods {path segment : List Char} {route : Route} (found : route? k path = some (route, segment))
    (method : String) : method ∈ route.verb.methods ↔ Offered k method path := by
  constructor
  · intro answered
    have offers := routeOffers found
    obtain ⟨verb, pattern, operation⟩ := route
    cases verb with
    | get =>
      simp only [Verb.methods, List.mem_cons, List.not_mem_nil, or_false] at answered
      rcases answered with rfl | rfl
      · exact ⟨_, _, offers⟩
      · exact ⟨_, _, .head offers⟩
    | post =>
      obtain rfl := List.mem_singleton.mp answered
      exact ⟨_, _, offers⟩
    | put =>
      obtain rfl := List.mem_singleton.mp answered
      exact ⟨_, _, offers⟩
  · rintro ⟨operation, given, offers⟩
    obtain ⟨verb, pattern, same, answered⟩ := offersRoute offers
    rw [found, Option.some.injEq, Prod.mk.injEq] at same
    obtain ⟨rfl, _⟩ := same
    exact answered

/-! Handlers may be put in the place of a service's own: a request comes to the handler of an
operation when its answer is made of what that handler gives, whatever the handlers are. -/

abbrev Handlers (s : Schema) := Operation → List Char → Task s Response

def routed (handlers : Handlers s) (k : Service) (r : Request) : Task s Response :=
  match route? k r.path with
  | none => .done (.empty 404)
  | some (route, segment) =>
    if route.verb.methods.contains r.method then
      let answer := handlers route.operation segment
      if r.method = "HEAD" then answer.map Response.withoutBody else answer
    else .done ((Response.empty 405).withHeaders [("allow", route.verb.allow)])

def routedShared (handlers : Handlers s) (k : Service) (shared : Bool) (r : Request) : Task s Response :=
  if shared then
    if r.method = "OPTIONS" then
      .done ((Response.empty 200).withHeaders (preflightHeaders ++ allowHeaders k r.path ++ sharedHeaders))
    else (routed handlers k r).map (dressed true)
  else routed handlers k r

def ownHandlers (now : Moment) (r : Request) : Handlers s := fun operation segment => handle now operation segment r

theorem taskRouted (a : Arrival) (k : Service) (shared : Bool) :
    (a.task k shared : Task s Response) = routedShared (ownHandlers a.now a.request) k shared a.request := rfl

def Reaches (k : Service) (shared : Bool) (r : Request) (operation : Operation) (segment : List Char) : Prop :=
  ∃ finish : Response → Response, ∀ (s : Schema) (handlers : Handlers s),
    routedShared handlers k shared r = (handlers operation segment).map finish

theorem mapDressed (task : Task s Response) (shared : Bool) :
    (if shared then task.map (dressed true) else task) = task.map (dressed shared) := by
  cases shared with
  | true => rfl
  | false => cases task <;> rfl

theorem plainRouted (handlers : Handlers s) {r : Request} (plain : r.method ≠ "OPTIONS") (shared : Bool) :
    routedShared handlers k shared r = (routed handlers k r).map (dressed shared) := by
  rw [← mapDressed, routedShared, if_neg plain]

theorem routedOffered {r : Request} {operation : Operation} {segment : List Char}
    (offers : Offers k r.method r.path operation segment) (handlers : Handlers s) :
    routed handlers k r = (handlers operation segment).map (if r.method = "HEAD" then Response.withoutBody else id) := by
  obtain ⟨verb, pattern, found, answered⟩ := offersRoute offers
  rw [routed, found]
  dsimp only
  rw [if_pos (List.contains_iff_mem.mpr answered)]
  split
  · rfl
  · cases handlers operation segment <;> rfl

def refusal (k : Service) (path : List Char) : Response :=
  match route? k path with
  | none => .empty 404
  | some (route, _) => (Response.empty 405).withHeaders [("allow", route.verb.allow)]

theorem routedRefused {r : Request} (none : ¬ Offered k r.method r.path) (handlers : Handlers s) :
    routed handlers k r = .done (refusal k r.path) := by
  rw [routed, refusal]
  cases found : route? k r.path with
  | none => rfl
  | some pair =>
    obtain ⟨route, segment⟩ := pair
    dsimp only
    rw [if_neg fun answered => none ((offeredMethods found r.method).mp (List.contains_iff_mem.mp answered))]

theorem reachesOffered {r : Request} (plain : r.method ≠ "OPTIONS") (shared : Bool) (operation : Operation)
    (segment : List Char) :
    Reaches k shared r operation segment ↔ Offers k r.method r.path operation segment := by
  constructor
  · rintro ⟨finish, reached⟩
    -- Handlers that tell this operation and segment from all others.
    let telling : Handlers k.schema := fun op seg =>
      if op = operation ∧ seg = segment then .list fun _ => .empty 0 else .done (.empty 0)
    have told := reached k.schema telling
    have here : telling operation segment = .list fun _ => .empty 0 := if_pos ⟨rfl, rfl⟩
    rw [plainRouted telling plain, here] at told
    by_cases offered : Offered k r.method r.path
    · obtain ⟨op, seg, offers⟩ := offered
      rw [routedOffered offers] at told
      by_cases same : op = operation ∧ seg = segment
      · obtain ⟨rfl, rfl⟩ := same
        exact offers
      · have other : telling op seg = .done (.empty 0) := if_neg same
        rw [other] at told
        cases told
    · rw [routedRefused offered] at told
      cases told
  · intro offers
    refine ⟨fun answer => dressed shared ((if r.method = "HEAD" then Response.withoutBody else id) answer), ?_⟩
    intro s handlers
    rw [plainRouted handlers plain, routedOffered offers]
    cases handlers operation segment <;> rfl

structure RoutingLaw (k : Service) (r : Request) (answer : Response) : Prop where
  served : Offered k r.method r.path ↔ answer.status ≠ 404 ∧ answer.status ≠ 405
  unknown : (¬ ∃ method, Offered k method r.path) →
    answer.status = 404 ∧ answer.body = "" ∧ answer.headers.lookup "allow" = none
  wrongMethod : ¬ Offered k r.method r.path → (∃ method, Offered k method r.path) →
    answer.status = 405 ∧ answer.body = "" ∧
      ∃ methods, answer.headers.lookup "allow" = some (",".intercalate methods) ∧
        ∀ method, method ∈ methods ↔ Offered k method r.path

def HandledStatus (status : Nat) : Prop := status ∈ [200, 201, 400, 413, 500]

instance (status : Nat) : Decidable (HandledStatus status) := inferInstanceAs (Decidable (_ ∈ _))

theorem HandledStatus.apart {status : Nat} (handled : HandledStatus status) : status ≠ 404 ∧ status ≠ 405 := by
  simp only [HandledStatus, List.mem_cons, List.not_mem_nil, or_false] at handled
  omega

theorem performStatus (now : Moment) {status : Nat} (handled : HandledStatus status) (operation : Operation)
    (body : Record) (store : Store s σ) (fresh : String) (state : σ) :
    HandledStatus ((perform now status operation body : Task s Response).run store fresh state).1.status := by
  rw [perform, Task.runMap]
  cases ((operation.task now body : Task s _).run store fresh state).1 with
  | error f => exact show HandledStatus 500 by decide
  | ok outcome => cases outcome <;> exact handled

theorem handleStatus (now : Moment) (operation : Operation) (segment : List Char) (r : Request) (store : Store s σ)
    (fresh : String) (state : σ) :
    HandledStatus ((handle now operation segment r : Task s Response).run store fresh state).1.status := by
  cases operation with
  | health | listRows | listNothing => exact performStatus now (by decide) _ _ store fresh state
  | create =>
    unfold handle
    dsimp only
    split
    · exact performStatus now (by decide) _ _ store fresh state
    · exact show HandledStatus 500 by decide
  | update =>
    unfold handle
    dsimp only
    split
    · exact show HandledStatus 400 by decide
    · split
      · exact show HandledStatus 413 by decide
      · exact performStatus now (by decide) _ _ store fresh state

theorem offeredStatus {a : Arrival} (plain : a.request.method ≠ "OPTIONS")
    (offered : Offered k a.request.method a.request.path) (shared : Bool) (store : Store s σ) (state : σ) :
    HandledStatus (a.serve k shared store state).1.status := by
  obtain ⟨operation, segment, offers⟩ := offered
  have handled := handleStatus (s := s) a.now operation segment a.request store a.fresh state
  rw [Arrival.serve, taskRouted, plainRouted _ plain, routedOffered offers, Task.runMap, Task.runMap, dressedStatus]
  split <;> exact handled

theorem refusedServed {a : Arrival} (plain : a.request.method ≠ "OPTIONS")
    (refused : ¬ Offered k a.request.method a.request.path) (shared : Bool) (store : Store s σ) (state : σ) :
    a.serve k shared store state = (dressed shared (refusal k a.request.path), state) := by
  rw [Arrival.serve, taskRouted, plainRouted _ plain, routedRefused refused]
  rfl

theorem refusalUnknown {path : List Char} (unknown : ¬ ∃ method, Offered k method path) : refusal k path = .empty 404 := by
  unfold refusal
  cases found : route? k path with
  | none => rfl
  | some pair =>
    obtain ⟨route, segment⟩ := pair
    exact absurd ⟨route.verb.name, _, _, routeOffers found⟩ unknown

theorem refusalKnown {method : String} {path : List Char} (known : Offered k method path) :
    ∃ methods, refusal k path = ⟨405, [("allow", ",".intercalate methods)], ""⟩ ∧
      ∀ method, method ∈ methods ↔ Offered k method path := by
  obtain ⟨operation, segment, offers⟩ := known
  obtain ⟨verb, pattern, found, _⟩ := offersRoute offers
  refine ⟨verb.methods, ?_, offeredMethods found⟩
  rw [refusal, found]
  rfl

theorem allowDressed (shared : Bool) (r : Response) :
    (dressed shared r).headers.lookup "allow" = r.headers.lookup "allow" := by
  cases shared with
  | false => rfl
  | true =>
    have none : (exposedHeaders ++ sharedHeaders).lookup "allow" = none := by decide
    show (r.headers ++ (exposedHeaders ++ sharedHeaders)).lookup "allow" = _
    rw [List.lookup_append, none, Option.or_none]

theorem answeredByTable {a : Arrival} (plain : a.request.method ≠ "OPTIONS") (shared : Bool) (store : Store s σ)
    (state : σ) : RoutingLaw k a.request (a.serve k shared store state).1 where
  served := by
    constructor
    · exact fun offered => (offeredStatus plain offered shared store state).apart
    · intro apart
      by_contra refused
      rw [refusedServed plain refused, dressedStatus] at apart
      by_cases known : ∃ method, Offered k method a.request.path
      · obtain ⟨method, offered⟩ := known
        obtain ⟨methods, answer, _⟩ := refusalKnown offered
        rw [answer] at apart
        exact apart.2 rfl
      · rw [refusalUnknown known] at apart
        exact apart.1 rfl
  unknown unknown := by
    have refused : ¬ Offered k a.request.method a.request.path := fun offered => unknown ⟨_, offered⟩
    rw [refusedServed plain refused, dressedStatus, dressedBody, allowDressed, refusalUnknown unknown]
    exact ⟨rfl, rfl, rfl⟩
  wrongMethod refused known := by
    obtain ⟨method, offered⟩ := known
    obtain ⟨methods, answer, exactly⟩ := refusalKnown offered
    rw [refusedServed plain refused, dressedStatus, dressedBody, allowDressed, answer]
    exact ⟨rfl, rfl, methods, rfl, exactly⟩

/-- A request comes to the handler of an operation exactly when the table has its method and path;
another is refused, by the table and over any store, and changes nothing. -/
theorem exposesTable (a : Arrival) (plain : a.request.method ≠ "OPTIONS") (shared : Bool) (store : Store s σ) (state : σ) :
    (∀ operation segment,
      Reaches k shared a.request operation segment ↔ Offers k a.request.method a.request.path operation segment) ∧
    (a.task k shared : Task s Response) = routedShared (ownHandlers a.now a.request) k shared a.request ∧
    RoutingLaw k a.request (a.serve k shared store state).1 ∧
    (¬ Offered k a.request.method a.request.path → (a.serve k shared store state).2 = state) := by
  refine ⟨reachesOffered plain shared, taskRouted a k shared, answeredByTable plain shared store state, fun refused => ?_⟩
  rw [refusedServed plain refused]

def tableArrival (method target : String) : Arrival := ⟨⟨1, 2, 3⟩, "k", ⟨method, target, [], []⟩⟩

theorem exposesTableUpdates :
    (tableArrival "PUT" "/customers/7").request.method ≠ "OPTIONS" ∧
    Reaches .customer true (tableArrival "PUT" "/customers/7").request .update ['7'] ∧
    (tableArrival "POST" "/customers/7").request.method ≠ "OPTIONS" ∧
    ((tableArrival "POST" "/customers/7").serve .customer true (Store.memory _) auditRow).1.status = 405 ∧
    ((tableArrival "POST" "/customers/7").serve .customer true (Store.memory _) auditRow).2 = auditRow := by
  have put : (tableArrival "PUT" "/customers/7").request.method ≠ "OPTIONS" := by decide
  have post : (tableArrival "POST" "/customers/7").request.method ≠ "OPTIONS" := by decide
  have offers : Offers .customer "PUT" (tableArrival "PUT" "/customers/7").request.path .update ['7'] :=
    .updateCustomer (by decide) (by decide)
  have found : route? .customer (tableArrival "POST" "/customers/7").request.path = some (updateRoute, ['7']) := by
    decide
  have refused : ¬ Offered .customer "POST" (tableArrival "POST" "/customers/7").request.path :=
    mt (offeredMethods found "POST").mpr (by decide)
  obtain ⟨reaches, _⟩ := exposesTable (k := .customer) _ put true (Store.memory _) auditRow
  obtain ⟨_, _, law, kept⟩ := exposesTable (k := .customer) _ post true (Store.memory _) auditRow
  exact ⟨put, (reaches _ _).mpr offers, post, (law.wrongMethod refused ⟨"PUT", _, _, offers⟩).1, kept refused⟩

end Storefront.Http
