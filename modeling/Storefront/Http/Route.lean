import Storefront.Service.Operation

/-! The routes of the services. A path matches exactly and undecoded; a parameter stands for
one segment that is not empty. -/
namespace Storefront.Http

inductive Verb where
  | get
  | post
  | put
  deriving DecidableEq, Repr

inductive Pattern where
  | exact (path : List Char)
  | segmentAfter (path : List Char)
  deriving DecidableEq, Repr

structure Route where
  verb : Verb
  pattern : Pattern
  operation : Operation
  deriving DecidableEq, Repr

/-- The segment that a path gives to a pattern's parameter, empty if it has none. -/
def Pattern.match? (p : Pattern) (path : List Char) : Option (List Char) :=
  match p with
  | .exact q => if path = q then some [] else none
  | .segmentAfter q =>
    let segment := path.drop q.length
    if q.isPrefixOf path && !segment.isEmpty && !segment.contains '/' then some segment else none

def Verb.methods : Verb → List String
  | .get => ["GET", "HEAD"]
  | .post => ["POST"]
  | .put => ["PUT"]

def Verb.allow (v : Verb) : String := ",".intercalate v.methods

def getRoute (path : String) (operation : Operation) : Route :=
  ⟨.get, .exact path.toList, operation⟩

/-- No two routes of a service match the same path. -/
def routes : Service → List Route
  | .customer =>
    [getRoute "/health" .health, ⟨.post, .exact "/audit-logs".toList, .create⟩,
      getRoute "/customers" .listNothing, ⟨.put, .segmentAfter "/customers/".toList, .update⟩]
  | .order =>
    [getRoute "/health" .health, getRoute "/orders" .listNothing,
      getRoute "/delivery" .listNothing]
  | .orderManagement =>
    [getRoute "/health" .health, getRoute "/order-items" .listRows,
      getRoute "/orders" .listNothing]
  | .payment =>
    [getRoute "/health" .health, getRoute "/payments" .listNothing,
      getRoute "/payment-methods" .listNothing]
  | .paymentProcessing => [getRoute "/health" .health, getRoute "/payments" .listRows]
  | .productCatalog =>
    [getRoute "/health" .health, getRoute "/inventory" .listRows,
      getRoute "/products" .listNothing]
  | .supplierManagement => [getRoute "/health" .health, getRoute "/suppliers" .listRows]
  | .user => [getRoute "/health" .health, getRoute "/customers" .listNothing]

def route? (k : Service) (path : List Char) : Option (Route × List Char) :=
  (routes k).findSome? fun r => (r.pattern.match? path).map fun segment => (r, segment)

end Storefront.Http
