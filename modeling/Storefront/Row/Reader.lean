import Storefront.Json.Fields
import Storefront.Row

/-! Rows from JSON: each column takes a text or null, and a column that is not there stays
unset. -/
namespace Storefront.Row

def readCell (bound : Nat) (bs : Bytes) : Except Json.Stop (Option String × Bytes) :=
  match Json.skipSpace bs with
  | [] => .error (Json.stopHere .endInValue [])
  | b :: rest =>
    if b = Json.byte 'n' then
      (Json.readWord ['u', 'l', 'l'] rest).map fun r => (none, r)
    else (Json.readTextValue bound "a string" (b :: rest)).map fun (s, r) => (some s, r)

def cellOf : Json → Except Json.Fault (Option String)
  | .null => .ok none
  | .text s => .ok (some s)
  | v => .error (.wrongShape v.shape "a string")

def fieldsOf (s : Schema) : Json.Fields (Option String) where
  name := s.name
  columns := s.columns
  read := fun bound _ bs => readCell bound bs
  ofJson := fun _ v => cellOf v

def parse (s : Schema) (source : Bytes) : Except Json.Refusal (Row s) :=
  (Json.located source
    (Json.finish ((fieldsOf s).readAll (source.length + 1) source))).map (ofFields s)

def parseValue (s : Schema) (source : Bytes) : Except Json.Refusal (Row s) := do
  let v ← Json.parse source
  match (fieldsOf s).ofValue v with
  | .ok values => .ok (ofFields s values)
  | .error fault => .error ⟨fault, none, []⟩

end Storefront.Row
