import Storefront.Proofs.Http.Router
import Storefront.Proofs.Text.Percent
import Storefront.Store.Memory

/-! Updates of customers have no rows to work on. They are answered alike by every store, by
what the address and the length of the body are. -/
namespace Storefront.Http

variable {s : Schema} {σ : Type}

structure Updates (r : Request) (segment : List Char) : Prop where
  method : r.method = "PUT"
  path : r.path = "/customers/".toList ++ segment
  filled : segment ≠ []
  single : '/' ∉ segment

def Addresses (segment : List Char) : Prop :=
  ∃ address, Text.percentDecode (Text.Utf8.encode segment) = bytesOf address

theorem parameterAddress {segment : List Char} : Addresses segment ↔ ∃ address, parameter? segment = some address := by
  unfold Addresses parameter?
  simp only [Text.Utf8.textRead]

theorem addressesPlain {segment : List Char} (plain : '%' ∉ segment) : Addresses segment :=
  ⟨String.ofList segment, by rw [Text.percentDecodeText plain, bytesOf, String.toList_ofList]⟩

def updateRoute : Route := ⟨.put, .segmentAfter "/customers/".toList, .update⟩

theorem updateFound {segment : List Char} (filled : segment ≠ []) (single : '/' ∉ segment) :
    route? .customer ("/customers/".toList ++ segment) = some (updateRoute, segment) := by
  have text : "/customers/".toList = ['/', 'c', 'u', 's', 't', 'o', 'm', 'e', 'r', 's', '/'] := by decide
  have here : (Pattern.segmentAfter "/customers/".toList).match? ("/customers/".toList ++ segment) = some segment := by
    simp [Pattern.match?, text, filled, single]
  have health : (getRoute "/health" .health).pattern.match? ("/customers/".toList ++ segment) = none := by
    simp [getRoute, Pattern.match?, text]
  have create : (Pattern.exact "/audit-logs".toList).match? ("/customers/".toList ++ segment) = none := by
    simp [Pattern.match?, text]
  have list : (getRoute "/customers" .listNothing).pattern.match? ("/customers/".toList ++ segment) = none := by
    simp [getRoute, Pattern.match?, text]
  simp only [route?, routes, List.findSome?_cons, health, create, list, here, Option.map_none, Option.map_some]
  rfl

theorem serveUpdate {r : Request} {segment : List Char} (updates : Updates r segment) (now : Moment) :
    (serve .customer now r : Task s Response) = handle now .update segment r := by
  have found : route? .customer r.path = some (updateRoute, segment) := by
    rw [updates.path, updateFound updates.filled updates.single]
  exact serveFound found (by rw [updates.method]; decide) (by rw [updates.method]; decide) now

theorem updateServed (store : Store s σ) (state : σ) (shared : Bool) {a : Arrival} {segment : List Char}
    (updates : Updates a.request segment) :
    a.serve .customer shared store state =
      ((handle a.now .update segment a.request : Task s Response).map (dressed shared)).run store a.fresh state := by
  have plain : a.request.method ≠ "OPTIONS" := by
    rw [updates.method]
    decide
  rw [Arrival.serve, taskDressed a .customer shared plain, serveUpdate updates]

/-- What an update is answered. A segment without escapes always has an address. -/
structure UpdateLaw (segment : List Char) (r : Request) (answer : Response) : Prop where
  accepted : answer.status = 200 ↔ Addresses segment ∧ r.body.length ≤ bodyLimit
  plain : '%' ∉ segment → r.body.length ≤ bodyLimit → answer.status = 200
  emptied : answer.status = 200 →
    answer.body = "\x7b\x7d" ∧ ("content-type", "application/json") ∈ answer.headers
  unreadable : ¬ Addresses segment →
    answer.status = 400 ∧ answer.body = "Invalid URL: Invalid UTF-8 in `address`"
  overlong : Addresses segment → bodyLimit < r.body.length →
    answer.status = 413 ∧ answer.body = tooLongMessage

theorem updateAnswered (store : Store Service.customer.schema σ) (state : σ) (shared : Bool) {a : Arrival}
    {segment : List Char} (updates : Updates a.request segment) :
    UpdateLaw segment a.request (a.serve .customer shared store state).1 ∧
      (a.serve .customer shared store state).2 = state := by
  rw [updateServed store state shared updates, handle]
  cases read : parameter? segment with
  | none =>
    have unread : ¬ Addresses segment := by
      rw [parameterAddress, read]
      rintro ⟨address, never⟩
      contradiction
    have status : (dressed shared (.plain 400 "Invalid URL: Invalid UTF-8 in `address`")).status = 400 :=
      dressedStatus shared _
    refine ⟨?_, rfl⟩
    exact {
      accepted := ⟨fun ok => absurd (status.symm.trans ok) (by decide), fun taken => absurd taken.1 unread⟩
      plain := fun plain => absurd (addressesPlain plain) unread
      emptied := fun ok => absurd (status.symm.trans ok) (by decide)
      unreadable := fun _ => ⟨status, dressedBody shared _⟩
      overlong := fun addressed => absurd addressed unread }
  | some address =>
    have addressed : Addresses segment := parameterAddress.mpr ⟨address, read⟩
    cases long : a.request.tooLong with
    | true =>
      have exceeds : bodyLimit < a.request.body.length := of_decide_eq_true long
      have status : (dressed shared (.plain 413 tooLongMessage)).status = 413 := dressedStatus shared _
      refine ⟨?_, rfl⟩
      exact {
        accepted := ⟨fun ok => absurd (status.symm.trans ok) (by decide),
          fun taken => absurd exceeds (Nat.not_lt.mpr taken.2)⟩
        plain := fun _ short => absurd exceeds (Nat.not_lt.mpr short)
        emptied := fun ok => absurd (status.symm.trans ok) (by decide)
        unreadable := fun unread => absurd addressed unread
        overlong := fun _ _ => ⟨status, dressedBody shared _⟩ }
    | false =>
      have short : ¬ bodyLimit < a.request.body.length := of_decide_eq_false long
      have status : (dressed shared (outcomeResponse 200 (.record Ordered.empty))).status = 200 :=
        dressedStatus shared _
      refine ⟨?_, rfl⟩
      exact {
        accepted := ⟨fun _ => ⟨addressed, Nat.not_lt.mp short⟩, fun _ => status⟩
        plain := fun _ _ => status
        emptied := fun _ => ⟨dressedBody shared _, dressedHeader shared List.mem_cons_self⟩
        unreadable := fun unread => absurd addressed unread
        overlong := fun _ exceeds => absurd exceeds short }

def customerUpdate (target : String) : Arrival where
  now := ⟨0, 0, 0⟩
  fresh := "k"
  request := ⟨"PUT", target, [], bytesOf "x"⟩

def outOfService : Store Service.customer.schema Unit := Store.failing _ (.storageUnavailable "x")

def answeredUnstored (target : String) : Response := ((customerUpdate target).serve .customer false outOfService ()).1

theorem updateAnsweredEscapes :
    Updates (customerUpdate "/customers/%e2%82%ac").request "%e2%82%ac".toList ∧
    (answeredUnstored "/customers/%e2%82%ac").status = 200 ∧
    Updates (customerUpdate "/customers/%FF").request "%FF".toList ∧ ¬ Addresses "%FF".toList ∧
    (answeredUnstored "/customers/%FF").status = 400 := by
  have euro : Updates (customerUpdate "/customers/%e2%82%ac").request "%e2%82%ac".toList := by
    constructor <;> decide
  have lone : Updates (customerUpdate "/customers/%FF").request "%FF".toList := by
    constructor <;> decide
  have addressed : Addresses "%e2%82%ac".toList := ⟨"\u20ac", by decide⟩
  have unread : ¬ Addresses "%FF".toList := by
    have none : parameter? "%FF".toList = none := by rfl
    rw [parameterAddress, none]
    rintro ⟨address, never⟩
    contradiction
  have taken := (updateAnswered outOfService () false euro).1.accepted.mpr ⟨addressed, by decide⟩
  have refused := (updateAnswered outOfService () false lone).1.unreadable unread
  exact ⟨euro, taken, lone, unread, refused.1⟩

end Storefront.Http
