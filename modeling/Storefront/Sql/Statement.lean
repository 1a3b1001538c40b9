import Storefront.Row

/-! The two statements that a table needs: one lists its rows, the other inserts a row or,
when its key is taken, overwrites the row there, and returns it. A command is what a statement
asks for; the server is sent its text. -/
namespace Storefront.Sql

inductive Command where
  | select (columns : List String) (table : String)
  /-- `values` has the number of a parameter for each column. When the row clashes with
  another in the column `key`, each assignment sets a column to what the row has in one. -/
  | upsert (table : String) (columns : List String) (values : List Nat) (key : String)
      (assignments : List (String × String)) (returning : List String)
  deriving DecidableEq, Repr

def quote (name : String) : String := "\"" ++ name ++ "\""

def commaList (items : List String) : String := ", ".intercalate items

def columnList (columns : List String) : String := commaList (columns.map quote)

def placeholder (n : Nat) : String := "$" ++ String.ofList (Nat.toDigits 10 n)

def assignmentText (a : String × String) : String := quote a.1 ++ " = EXCLUDED." ++ quote a.2

def Command.text : Command → String
  | .select columns table => "SELECT " ++ columnList columns ++ " FROM " ++ quote table
  | .upsert table columns values key assignments returning =>
    "INSERT INTO " ++ quote table ++ " (" ++ columnList columns ++ ") VALUES (" ++
      commaList (values.map placeholder) ++ ") ON CONFLICT (" ++ quote key ++
      ") DO UPDATE SET " ++ commaList (assignments.map assignmentText) ++
      " RETURNING " ++ columnList returning

def selectCommand (s : Schema) : Command := .select s.columns s.table

def upsertCommand (s : Schema) : Command :=
  .upsert s.table s.columns ((List.range s.columns.length).map (· + 1)) s.key
    (s.columns.map fun c => (c, c)) s.columns

/-- A text with the values of its parameters, of which the first has the number 1. -/
structure Statement where
  text : String
  parameters : List (Option String)
  deriving DecidableEq, Repr

def select (s : Schema) : Statement := ⟨(selectCommand s).text, []⟩

def upsert {s : Schema} (r : Row s) : Statement :=
  ⟨(upsertCommand s).text, s.columns.map r.get?⟩

end Storefront.Sql
