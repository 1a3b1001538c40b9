import Storefront.Number.Shortest

/-! JSON values. A number is an integer of 64 bits or a finite binary number; the members of
an object have distinct names in ascending order of their bytes, which is also the order of
their code points. -/
namespace Storefront

inductive Json.Number where
  | integer (value : Int)
  | float (negative : Bool) (magnitude : Binary64)
  deriving DecidableEq, Repr

inductive Json where
  | null
  | bool (value : Bool)
  | number (value : Json.Number)
  | text (value : String)
  | array (items : List Json)
  | object (members : List (String × Json))
  deriving Repr, Inhabited

namespace Json

def insertMember (name : String) (value : Json) :
    List (String × Json) → List (String × Json)
  | [] => [(name, value)]
  | (n, v) :: rest =>
    if n = name then (name, value) :: rest
    else if name < n then (name, value) :: (n, v) :: rest
    else (n, v) :: insertMember name value rest

end Json

end Storefront
