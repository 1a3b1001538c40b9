import Storefront.Failure
import Storefront.Health
import Storefront.Net.Url

/-! Requests and responses. -/
namespace Storefront.Http

structure Request where
  method : String
  /-- Path, query and fragment as sent, or a whole URL with them. -/
  target : String
  headers : List (String × Bytes)
  body : Bytes

structure Response where
  status : Nat
  headers : List (String × String)
  body : String
  deriving DecidableEq, Repr

/-- The first value of a header; names are compared without regard to case. -/
def Request.header? (r : Request) (name : String) : Option Bytes :=
  (r.headers.find? fun h => h.1.toList.map Char.toLower = name.toList).map Prod.snd

def endsPath (c : Char) : Bool := c = '?' || c = '#'

def afterHost? (target : List Char) : Option (List Char) :=
  match target.dropWhile Net.Url.isSchemeChar with
  | ':' :: '/' :: '/' :: rest => some (rest.dropWhile fun c => c ≠ '/' && !endsPath c)
  | _ => none

/-- The target up to its query or fragment. In a URL without a path it is a single slash. -/
def Request.path (r : Request) : List Char :=
  match afterHost? r.target.toList with
  | none => r.target.toList.takeWhile fun c => !endsPath c
  | some rest =>
    let path := rest.takeWhile fun c => !endsPath c
    if path.isEmpty then ['/'] else path

def bodyLimit : Nat := 2097152

def Request.tooLong (r : Request) : Bool := bodyLimit < r.body.length

def tooLongMessage : String := "Failed to buffer the request body: length limit exceeded"

namespace Response

def empty (status : Nat) : Response := ⟨status, [], ""⟩

def json (status : Nat) (v : Json) : Response :=
  ⟨status, [("content-type", "application/json")], v.compact⟩

def plain (status : Nat) (text : String) : Response :=
  ⟨status, [("content-type", "text/plain; charset=utf-8")], text⟩

def failed (now : Moment) (f : Failure) : Response :=
  json f.status (.object [("message", .text f.message), ("timestamp", .text (now.text "+00:00"))])

def withHeaders (r : Response) (headers : List (String × String)) : Response :=
  { r with headers := r.headers ++ headers }

def withoutBody (r : Response) : Response := { r with body := "" }

end Response

end Storefront.Http
