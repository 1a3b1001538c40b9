import Storefront.Record

/-! Records from JSON. A text gives the keys in the order of their first occurrence; a value
that is already in memory gives them in ascending order. In memory, too, an object whose
first name is `Json.embeddedName` stands for the JSON text it holds. -/
namespace Storefront.Record

def wanted : String := "a map"

def take (embedded : Bytes → Except Json.Refusal Json) (bound : Nat) (r : Record)
    (name : String) (bs : Bytes) : Except Json.Stop (Record × Bytes) := do
  let (v, rest) ← Json.readMember (Json.readValue embedded bound (Json.deepest - 1)) name bs
  .ok (r.insert name (normalize v), rest)

def read (embedded : Bytes → Except Json.Refusal Json) (bound : Nat) (bs : Bytes) :
    Except Json.Stop (Record × Bytes) :=
  match Json.skipSpace bs with
  | [] => .error (Json.stopHere .endInValue [])
  | b :: rest =>
    if b = Json.byte '\x7b' then
      Json.readMembers bound (take embedded bound) bound true Ordered.empty rest
    else Json.refuseShape bound wanted b rest

def parse (source : Bytes) : Except Json.Refusal Record :=
  Json.located source (Json.finish (read (Json.embeddedIn source) (source.length + 1) source))

/-- The record at the start of a text, whatever follows it. -/
def parseStart (source : Bytes) : Except Json.Refusal Record :=
  Json.located source
    ((read (Json.embeddedIn source) (source.length + 1) source).map Prod.fst)

def refuse (fault : Json.Fault) : Except Json.Refusal α := .error ⟨fault, none, []⟩

mutual

/-- Puts the value of an embedded text in the place of each object that stands for one. -/
def resolve : Json → Except Json.Refusal Json
  | .array items => (resolveItems items).map .array
  | .object [] => .ok (.object [])
  | .object ((name, v) :: rest) =>
    if name = Json.embeddedName then
      match v with
      | .text s =>
        match Json.parse (bytesOf s) with
        | .error r => refuse r.embed
        | .ok value =>
          if rest.isEmpty then .ok value
          else refuse (.wrongLength (rest.length + 1) "fewer elements in map")
      | v => refuse (.wrongShape v.shape "raw value")
    else do
      let first ← resolve v
      let others ← resolveMembers rest
      .ok (.object ((name, first) :: others))
  | v => .ok v

def resolveItems : List Json → Except Json.Refusal (List Json)
  | [] => .ok []
  | v :: rest => do
    let first ← resolve v
    let others ← resolveItems rest
    .ok (first :: others)

def resolveMembers : List (String × Json) → Except Json.Refusal (List (String × Json))
  | [] => .ok []
  | (name, v) :: rest => do
    let first ← resolve v
    let others ← resolveMembers rest
    .ok ((name, first) :: others)

end

def ofJson : Json → Except Json.Refusal Record
  | .object members => do
    let members ← resolveMembers members
    .ok (Ordered.ofList (members.map fun e => (e.1, normalize e.2)))
  | v => refuse (.wrongShape v.shape wanted)

def parseValue (source : Bytes) : Except Json.Refusal Record := do
  ofJson (← Json.parse source)

end Storefront.Record
