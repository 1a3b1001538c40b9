import Storefront.Ordered
import Storefront.Json.Reader

/-! Records: one row on the wire, an ordered map from field names to texts. A member may be
an explicit null. Numbers, booleans and nested values arrive as their compact text, so that
past this point there are only texts. -/
namespace Storefront

abbrev Record := Ordered (Option String)

namespace Record

def ofTexts (members : List (String × String)) : Record :=
  Ordered.ofList (members.map fun e => (e.1, some e.2))

/-- The text of a member that is present; an explicit null reads as `null`. -/
def text? (r : Record) (key : String) : Option String :=
  (r.get? key).map fun v => v.getD "null"

/-- Equality that ignores the order of the keys. -/
def same (a b : Record) : Bool :=
  a.size == b.size && a.entries.all fun e => b.get? e.1 == some e.2

def normalize : Json → Option String
  | .null => none
  | .text s => some s
  | v => some v.compact

def toJson (r : Record) : Json :=
  .object (r.entries.map fun e => (e.1, (e.2.map Json.text).getD .null))

def json (r : Record) : String := r.toJson.compact

end Record

end Storefront
