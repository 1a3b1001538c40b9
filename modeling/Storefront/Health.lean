import Storefront.Json.Fields
import Storefront.Mapping
import Storefront.Moment.Reader

/-! Health answers: a status and the moment it was taken. -/
namespace Storefront

structure Health where
  status : String
  timestamp : Moment
  deriving DecidableEq, Repr

namespace Health

def up (now : Moment) : Health := ⟨statusUp, now⟩

def unknown (now : Moment) : Health := ⟨statusUnknown, now⟩

def isUp (h : Health) : Bool := h.status = statusUp

def toJson (h : Health) : Json :=
  .object [("status", .text h.status), ("timestamp", .text (h.timestamp.text "Z"))]

def json (h : Health) : String := h.toJson.compact

inductive Field where
  | status (value : String)
  | timestamp (value : Moment)

def wantedMoment : String := "an RFC 3339 formatted date and time string"

def readMoment (bound : Nat) (bs : Bytes) : Except Json.Stop (Moment × Bytes) := do
  let (s, rest) ← Json.readTextValue bound wantedMoment bs
  match Moment.parse s with
  | .ok m => .ok (m, rest)
  | .error fault => .error (Json.stopHere (.refused fault.message) rest)

def fields : Json.Fields Field where
  name := "HealthStatus"
  columns := ["status", "timestamp"]
  read := fun bound name bs =>
    if name = "status" then
      (Json.readTextValue bound "a string" bs).map fun (s, r) => (.status s, r)
    else (readMoment bound bs).map fun (m, r) => (.timestamp m, r)
  ofJson := fun name v =>
    match v with
    | .text s =>
      if name = "status" then .ok (.status s)
      else match Moment.parse s with
        | .ok m => .ok (.timestamp m)
        | .error fault => .error (.refused fault.message)
    | v => .error (.wrongShape v.shape (if name = "status" then "a string" else wantedMoment))

/-- Both fields are needed, and the status is missed first. -/
def ofFields (values : List (String × Field)) : Except Json.Fault Health :=
  match values.lookup "status", values.lookup "timestamp" with
  | some (.status s), some (.timestamp m) => .ok ⟨s, m⟩
  | some (.status _), _ => .error (.missingField "timestamp")
  | _, _ => .error (.missingField "status")

def read (bound : Nat) (bs : Bytes) : Except Json.Stop (Health × Bytes) := do
  let (values, rest) ← fields.readAll bound bs
  match ofFields values with
  | .ok h => .ok (h, rest)
  | .error fault => .error (Json.stopHere fault rest)

def parse (source : Bytes) : Except Json.Refusal Health :=
  Json.located source (Json.finish (read (source.length + 1) source))

end Health

end Storefront
