import Storefront.Schema
import Storefront.Record

/-! Rows of a table: one optional text for each column of its schema. A column is read and
written by name; a name that the schema does not declare reads as unset and cannot be
written. -/
namespace Storefront

structure Row (s : Schema) where
  cells : Vector (Option String) s.columns.length
  deriving DecidableEq

def Schema.position? (s : Schema) (name : String) : Option (Fin s.columns.length) :=
  s.columns.finIdxOf? name

def Schema.declares (s : Schema) (name : String) : Bool := (s.position? name).isSome

namespace Row

variable {s : Schema}

def empty (s : Schema) : Row s := ⟨Vector.replicate _ none⟩

instance : Inhabited (Row s) := ⟨empty s⟩

def get? (r : Row s) (name : String) : Option String :=
  (s.position? name).bind fun i => r.cells[i]

/-- Writes a declared column; an undeclared name leaves the row as it is. -/
def set (r : Row s) (name : String) (value : Option String) : Row s :=
  match s.position? name with
  | some i => ⟨r.cells.set i value⟩
  | none => r

def assign (r : Row s) (name : String) (value : Option String) : Bool × Row s :=
  (s.declares name, r.set name value)

def key? (r : Row s) : Option String := r.get? s.key

def setKey (r : Row s) (key : String) : Row s := r.set s.key (some key)

def keyed (r : Row s) (fresh : String) : Row s :=
  match r.key? with
  | some _ => r
  | none => r.setKey fresh

def fields (r : Row s) : List (String × Option String) := s.columns.zip r.cells.toList

def ofFields (s : Schema) (values : List (String × Option String)) : Row s :=
  values.foldl (fun r e => r.set e.1 e.2) (empty s)

def toJson (r : Row s) : Json :=
  .object (r.fields.map fun e => (e.1, (e.2.map Json.text).getD .null))

def json (r : Row s) : String := r.toJson.compact

end Row

end Storefront
