import Storefront.Row

/-! Rows and records. A row becomes a record of all its columns, unset ones as null. A record
becomes a row of the columns it has keys for, where an explicit null counts as the text
`null`; its other keys are dropped. -/
namespace Storefront

variable {s : Schema}

def Row.toRecord (r : Row s) : Record :=
  s.columns.foldl (fun record name => record.insert name (r.get? name)) Ordered.empty

def Record.toRow (s : Schema) (record : Record) : Row s :=
  s.columns.foldl
    (fun r name =>
      match record.text? name with
      | some text => r.set name (some text)
      | none => r)
    (Row.empty s)

def recordOf (row : Option (Row s)) : Record := (row.map Row.toRecord).getD Ordered.empty

def rowOf (s : Schema) (record : Option Record) : Row s :=
  (record.map (Record.toRow s)).getD (Row.empty s)

def statusUp : String := "UP"

def statusUnknown : String := "UNKNOWN"

def rowHealth (row : Option (Row s)) : String :=
  match row, s.rule with
  | none, _ => statusUnknown
  | some _, .presence => statusUp
  | some r, .ownStatus => (r.get? "status").getD statusUnknown

end Storefront
