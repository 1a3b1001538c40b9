import Storefront.Proofs.Http.Customer
import Storefront.Proofs.Http.Listing
import Storefront.Proofs.Json.Object
import Storefront.Proofs.Text.Blank

/-! Failures as clients see them. Whatever fails, the store or the reading of a body, the answer
is one object that tells the failure's text, and never a part of a listing. -/
namespace Storefront

namespace Failure
open Text (Visible visibleRead)

theorem messageKept {f : Failure} (visible : Visible f.text) : f.message = f.text := by
  rw [message, visibleRead.mp visible]
  rfl

theorem messageReplaced {f : Failure} (blank : ¬ Visible f.text) : f.message = fallback := by
  rw [visibleRead, Bool.not_eq_false] at blank
  rw [message, if_pos blank]

theorem messageVisible (f : Failure) : Visible f.message := by
  cases blank : Text.allBlank f.text with
  | true =>
    rw [message, if_pos blank]
    decide
  | false =>
    have visible := visibleRead.mpr blank
    rw [messageKept visible]
    exact visible

end Failure

namespace Http

variable {s : Schema} {σ : Type}

def failureMembers (now : Moment) (message : String) : List (String × Json) :=
  [("message", .text message), ("timestamp", .text (now.text "+00:00"))]

theorem failedRead (now : Moment) (f : Failure) :
    Json.parse (bytesOf (Response.failed now f).body) = .ok (.object (failureMembers now f.message)) := by
  have ordered : "message" < "timestamp" := by decide
  refine Json.parseTexts [("message", f.message), ("timestamp", now.text "+00:00")] (List.pairwise_pair.mpr ordered) ?_
  rintro e ⟨⟩
  exact show "message" ≠ Json.embeddedName by decide

/-- The failures that a request meets, with their texts: the rows are not listed, the record of a
create is not saved, or there is no record. -/
inductive Fails (store : Store s σ) (state : σ) (a : Arrival) (text : String) : Service → Prop where
  | list {k} (lists : Lists k a.request) (error : (store.list state).1 = .error (.storageUnavailable text)) :
      Fails store state a text k
  | save {record} (takes : Takes a.request record)
      (error : (store.save a.fresh (record.toRow s) state).1 = .error (.storageUnavailable text)) :
      Fails store state a text .customer
  | body (creates : Creates a.request) (refused : bodyRecord a.request = .error (.malformedBody text)) :
      Fails store state a text .customer

/-- A failure's answer. Its message is the text, character for character, unless that is blank. -/
structure Told (now : Moment) (text message : String) (answer : Response) : Prop where
  status : answer.status = 500
  sent : ("content-type", "application/json") ∈ answer.headers
  read : Json.parse (bytesOf answer.body) = .ok (.object (failureMembers now message))
  kept : Text.Visible text → message = text
  replaced : ¬ Text.Visible text → message = "Unexpected error"
  visible : Text.Visible message

theorem failedTold (now : Moment) (f : Failure) (shared : Bool) :
    Told now f.text f.message (dressed shared (.failed now f)) where
  status := dressedStatus shared _
  sent := dressedHeader shared List.mem_cons_self
  read := by rw [dressedBody, failedRead]
  kept := Failure.messageKept
  replaced := Failure.messageReplaced
  visible := Failure.messageVisible f

theorem failureTold {store : Store s σ} {state : σ} {a : Arrival} {text : String} {k : Service}
    (fails : Fails store state a text k) (shared : Bool) :
    ∃ message, Told a.now text message (a.serve k shared store state).1 := by
  cases fails with
  | list lists error =>
    rw [listingServed lists, error]
    exact ⟨_, failedTold a.now (.storageUnavailable text) shared⟩
  | save takes error =>
    rw [createServed takes.creates, takes.body]
    dsimp only
    rw [error]
    exact ⟨_, failedTold a.now (.storageUnavailable text) shared⟩
  | body creates refused =>
    rw [createServed creates, refused]
    exact ⟨_, failedTold a.now (.malformedBody text) shared⟩

def brokenStore (k : Service) (text : String) : Store k.schema Unit := Store.failing _ (.storageUnavailable text)

def brokenAnswer (k : Service) (text : String) (a : Arrival) : Response := (a.serve k true (brokenStore k text) ()).1

def supplierListing : Arrival := ⟨⟨0, 0, 0⟩, "k", ⟨"GET", "/suppliers", [], []⟩⟩

def downText : String := " \"down\"\n\u0001\u20ac"

def refusedText : String := "Failed to parse the request body as JSON: EOF while parsing a value at line 1 column 0"

theorem failureToldTexts :
    Fails (brokenStore .supplierManagement downText) () supplierListing downText .supplierManagement ∧
    Told ⟨0, 0, 0⟩ downText downText (brokenAnswer .supplierManagement downText supplierListing) ∧
    Fails (brokenStore .customer "\u2003\t") () (auditCreate "\x7b\x7d" "k") "\u2003\t" .customer ∧
    Told ⟨0, 0, 0⟩ "\u2003\t" "Unexpected error" (brokenAnswer .customer "\u2003\t" (auditCreate "\x7b\x7d" "k")) ∧
    Fails (brokenStore .customer "x") () (auditCreate "" "k") refusedText .customer ∧
    Told ⟨0, 0, 0⟩ refusedText refusedText (brokenAnswer .customer "x" (auditCreate "" "k")) := by
  have listing : Fails (brokenStore .supplierManagement downText) () supplierListing downText .supplierManagement :=
    .list ⟨rfl, "/suppliers", rfl, by decide⟩ rfl
  have created : Takes (auditCreate "\x7b\x7d" "k").request Ordered.empty := ⟨⟨rfl, by decide⟩, by decide +kernel⟩
  have create : Fails (brokenStore .customer "\u2003\t") () (auditCreate "\x7b\x7d" "k") "\u2003\t" .customer :=
    .save created rfl
  have bodiless : Fails (brokenStore .customer "x") () (auditCreate "" "k") refusedText .customer :=
    .body ⟨rfl, by decide⟩ (by decide +kernel)
  obtain ⟨down, listed⟩ := failureTold listing true
  obtain ⟨stand, unsaved⟩ := failureTold create true
  obtain ⟨refusal, refused⟩ := failureTold bodiless true
  have kept : down = downText := listed.kept (by decide)
  have replaced : stand = "Unexpected error" := unsaved.replaced (by decide)
  have judged : refusal = refusedText := refused.kept (by decide)
  subst kept replaced judged
  exact ⟨listing, listed, create, unsaved, bodiless, refused⟩

end Http

end Storefront
