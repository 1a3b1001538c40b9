import Storefront.Http.MediaType
import Storefront.Http.Message
import Storefront.Http.Route
import Storefront.Record.Reader
import Storefront.Text.Percent

/-! Serving requests. A request is answered at once or after one call of the store. -/
namespace Storefront.Http

variable {s : Schema}

def malformedMessage (r : Json.Refusal) : String :=
  match r.fault.kind with
  | .unsuitable =>
    "Failed to deserialize the JSON body into the target type: " ++ r.locatedMessage
  | _ => "Failed to parse the request body as JSON: " ++ r.locatedMessage

/-- The record in the body of a create: the content type is judged first, then the length,
then the text. What follows the record is not looked at. -/
def bodyRecord (r : Request) : Except Failure Record :=
  if !MediaType.announcesJson (r.header? "content-type") then
    .error (.malformedBody "Expected request with `Content-Type: application/json`")
  else if r.tooLong then .error (.malformedBody tooLongMessage)
  else (Record.parseStart r.body).mapError fun f => .malformedBody (malformedMessage f)

/-- The record in the body of an update; anything else counts as a record without members. -/
def anyRecord (body : Bytes) : Record := (Record.parse body).toOption.getD Ordered.empty

def parameter? (segment : List Char) : Option String :=
  Text.Utf8.text? (Text.percentDecode (Text.Utf8.encode segment))

def recordsJson (rs : List Record) : Json := .array (rs.map Record.toJson)

def outcomeResponse (status : Nat) : Outcome → Response
  | .health h => .json status h.toJson
  | .record r => .json status r.toJson
  | .records rs => .json status (recordsJson rs)

def resultResponse (now : Moment) (status : Nat) : Except Failure Outcome → Response
  | .ok outcome => outcomeResponse status outcome
  | .error f => .failed now f

def perform (now : Moment) (status : Nat) (operation : Operation) (body : Record) :
    Task s Response :=
  (operation.task now body).map (resultResponse now status)

def handle (now : Moment) (operation : Operation) (segment : List Char) (r : Request) :
    Task s Response :=
  match operation with
  | .create =>
    match bodyRecord r with
    | .ok body => perform now 201 .create body
    | .error f => .done (.failed now f)
  | .update =>
    match parameter? segment with
    | none => .done (.plain 400 "Invalid URL: Invalid UTF-8 in `address`")
    | some _ =>
      if r.tooLong then .done (.plain 413 tooLongMessage)
      else perform now 200 .update (anyRecord r.body)
  | operation => perform now 200 operation Ordered.empty

def serve (k : Service) (now : Moment) (r : Request) : Task s Response :=
  match route? k r.path with
  | none => .done (.empty 404)
  | some (route, segment) =>
    if route.verb.methods.contains r.method then
      let answer := handle now route.operation segment r
      if r.method = "HEAD" then answer.map Response.withoutBody else answer
    else .done ((Response.empty 405).withHeaders [("allow", route.verb.allow)])

/-- What every response says to scripts of other origins. -/
def sharedHeaders : List (String × String) :=
  [("access-control-allow-origin", "*"),
    ("vary", "origin, access-control-request-method, access-control-request-headers")]

def preflightHeaders : List (String × String) :=
  [("access-control-allow-headers", "*"), ("access-control-allow-methods", "*")]

def exposedHeaders : List (String × String) := [("access-control-expose-headers", "*")]

def allowHeaders (k : Service) (path : List Char) : List (String × String) :=
  match route? k path with
  | some (route, _) => [("allow", route.verb.allow)]
  | none => []

/-- The answer of a running service, open to every origin. An `OPTIONS` request never gets
past this layer. -/
def serveShared (k : Service) (now : Moment) (r : Request) : Task s Response :=
  if r.method = "OPTIONS" then
    .done ((Response.empty 200).withHeaders
      (preflightHeaders ++ allowHeaders k r.path ++ sharedHeaders))
  else (serve k now r).map fun answer => answer.withHeaders (exposedHeaders ++ sharedHeaders)

end Storefront.Http
