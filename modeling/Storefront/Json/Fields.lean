import Storefront.Json.Skim

/-! Values of fixed fields. As an object, the fields may come in any order among members of
other names, but none twice; as an array, they come by position, all of them and nothing
else. -/
namespace Storefront.Json

/-- Named fields whose values are read alike. `read` gets the name of the field. -/
structure Fields (α : Type) where
  name : String
  columns : List String
  read : Nat → String → Bytes → Except Stop (α × Bytes)
  ofJson : String → Json → Except Fault α

variable {α : Type}

def Fields.wanted (f : Fields α) : String := "struct " ++ f.name

def Fields.wantedItems (f : Fields α) : String :=
  let n := f.columns.length
  s!"{f.wanted} with {n} " ++ (if n = 1 then "element" else "elements")

/-- A repeated name is reported where the object could next be closed. -/
def afterRepeated (bs : Bytes) : Bytes :=
  match skipSpace bs with
  | [] => []
  | b :: rest => if b = byte '\x7d' then rest else b :: rest

def Fields.take (f : Fields α) (bound : Nat) (seen : List (String × α)) (name : String)
    (bs : Bytes) : Except Stop (List (String × α) × Bytes) :=
  if f.columns.contains name then
    if (seen.lookup name).isSome then
      .error (stopHere (.repeatedField name) (afterRepeated bs))
    else do
      let (v, rest) ← readMember (f.read bound name) name bs
      .ok ((name, v) :: seen, rest)
  else do
    let rest ← readColon bs
    let rest ← skimValue bound rest
    .ok (seen, rest)

def Fields.readItems (f : Fields α) (bound : Nat) :
    Nat → List String → Bytes → Except Stop (List (String × α) × Bytes)
  | _, [], bs => (closeArray bs).map fun rest => ([], rest)
  | index, c :: columns, bs => do
    let (more, rest) ← nextItem (index = 0) bs
    if more then
      let (v, rest) ← within (.item index) (f.read bound c rest)
      let (values, rest) ← f.readItems bound (index + 1) columns rest
      .ok ((c, v) :: values, rest)
    else .error (stopHere (.wrongLength index f.wantedItems) rest)

def Fields.readAll (f : Fields α) (bound : Nat) (bs : Bytes) :
    Except Stop (List (String × α) × Bytes) :=
  match skipSpace bs with
  | [] => .error (stopHere .endInValue [])
  | b :: rest =>
    if b = byte '[' then f.readItems bound 0 f.columns rest
    else if b = byte '\x7b' then readMembers bound (f.take bound) bound true [] rest
    else refuseShape bound f.wanted b rest

def Fields.ofItems (f : Fields α) (length : Nat) :
    Nat → List String → List Json → Except Fault (List (String × α))
  | _, [], [] => .ok []
  | _, [], _ :: _ => .error (.wrongLength length "fewer elements in array")
  | index, _ :: _, [] => .error (.wrongLength index f.wantedItems)
  | index, c :: columns, v :: items => do
    let v ← f.ofJson c v
    let values ← f.ofItems length (index + 1) columns items
    .ok ((c, v) :: values)

def Fields.ofMembers (f : Fields α) : List (String × Json) → Except Fault (List (String × α))
  | [] => .ok []
  | (name, v) :: rest =>
    if f.columns.contains name then do
      let v ← f.ofJson name v
      let values ← f.ofMembers rest
      .ok ((name, v) :: values)
    else f.ofMembers rest

def Fields.ofValue (f : Fields α) : Json → Except Fault (List (String × α))
  | .object members => f.ofMembers members
  | .array items => f.ofItems items.length 0 f.columns items
  | v => .error (.wrongShape v.shape f.wanted)

end Storefront.Json
