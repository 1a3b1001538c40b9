import Storefront.Row
import Storefront.Sql.Fault

/-! Rows as a server returns them: named columns with a type each, and cells of bytes. A row
is read by the names of the declared columns, in their order, and the first that cannot be
read is the fault of the whole reply. -/
namespace Storefront.Sql

structure ColumnType where
  name : String
  deriving DecidableEq, Repr

def typeNames : List (Nat × String) :=
  [(16, "BOOL"), (17, "BYTEA"), (18, "\"CHAR\""), (19, "NAME"), (20, "INT8"), (21, "INT2"),
    (23, "INT4"), (25, "TEXT"), (26, "OID"), (114, "JSON"), (199, "JSON[]"), (600, "POINT"),
    (601, "LSEG"), (602, "PATH"), (603, "BOX"), (604, "POLYGON"), (628, "LINE"), (629, "LINE[]"),
    (650, "CIDR"), (651, "CIDR[]"), (700, "FLOAT4"), (701, "FLOAT8"), (705, "UNKNOWN"),
    (718, "CIRCLE"), (719, "CIRCLE[]"), (774, "MACADDR8"), (775, "MACADDR8[]"), (790, "MONEY"),
    (791, "MONEY[]"), (829, "MACADDR"), (869, "INET"), (1000, "BOOL[]"), (1001, "BYTEA[]"),
    (1002, "\"CHAR\"[]"), (1003, "NAME[]"), (1005, "INT2[]"), (1007, "INT4[]"), (1009, "TEXT[]"),
    (1014, "CHAR[]"), (1015, "VARCHAR[]"), (1016, "INT8[]"), (1017, "POINT[]"), (1018, "LSEG[]"),
    (1019, "PATH[]"), (1020, "BOX[]"), (1021, "FLOAT4[]"), (1022, "FLOAT8[]"), (1027, "POLYGON[]"),
    (1028, "OID[]"), (1040, "MACADDR[]"), (1041, "INET[]"), (1042, "CHAR"), (1043, "VARCHAR"),
    (1082, "DATE"), (1083, "TIME"), (1114, "TIMESTAMP"), (1115, "TIMESTAMP[]"), (1182, "DATE[]"),
    (1183, "TIME[]"), (1184, "TIMESTAMPTZ"), (1185, "TIMESTAMPTZ[]"), (1186, "INTERVAL"),
    (1187, "INTERVAL[]"), (1231, "NUMERIC[]"), (1266, "TIMETZ"), (1270, "TIMETZ[]"), (1560, "BIT"),
    (1561, "BIT[]"), (1562, "VARBIT"), (1563, "VARBIT[]"), (1700, "NUMERIC"), (2249, "RECORD"),
    (2278, "VOID"), (2287, "RECORD[]"), (2950, "UUID"), (2951, "UUID[]"), (3802, "JSONB"),
    (3807, "JSONB[]"), (3904, "INT4RANGE"), (3905, "INT4RANGE[]"), (3906, "NUMRANGE"),
    (3907, "NUMRANGE[]"), (3908, "TSRANGE"), (3909, "TSRANGE[]"), (3910, "TSTZRANGE"),
    (3911, "TSTZRANGE[]"), (3912, "DATERANGE"), (3913, "DATERANGE[]"), (3926, "INT8RANGE"),
    (3927, "INT8RANGE[]"), (4072, "JSONPATH"), (4073, "JSONPATH[]")]

def ColumnType.ofId? (id : Nat) : Option ColumnType := (typeNames.lookup id).map ColumnType.mk

def ColumnType.isText (t : ColumnType) : Bool :=
  t.name ∈ ["TEXT", "VARCHAR", "CHAR", "NAME", "UNKNOWN"]

structure Column where
  name : String
  type : ColumnType
  deriving DecidableEq, Repr

structure Reply where
  columns : List Column
  rows : List (List (Option Bytes))
  deriving DecidableEq, Repr

def mismatch (t : ColumnType) : String :=
  "mismatched types; Rust type `core::option::Option<alloc::string::String>` (as SQL type " ++
    "`TEXT`) is not compatible with SQL type `" ++ t.name ++ "`"

/-- The last of the columns that have a name, with its place. -/
def Reply.column? (reply : Reply) (name : String) : Option (Nat × Column) :=
  (reply.columns.zipIdx.map Prod.swap).reverse.find? fun c => c.2.name = name

/-- The cell of a named column. A null is read whatever the type of the column. -/
def Reply.cell (reply : Reply) (cells : List (Option Bytes)) (name : String) :
    Except Fault (Option String) :=
  match reply.column? name with
  | none => .error (.columnNotFound name)
  | some (i, column) =>
    match cells[i]?.join with
    | none => .ok none
    | some bytes =>
      if column.type.isText then
        match Text.Utf8.decode bytes with
        | .ok cs => .ok (some (String.ofList cs))
        | .error fault => .error (.columnDecode (Text.quoted name) fault.message)
      else .error (.columnDecode (Text.quoted name) (mismatch column.type))

def Reply.rowFrom (reply : Reply) (s : Schema) (cells : List (Option Bytes)) :
    List String → Row s → Except Fault (Row s)
  | [], r => .ok r
  | name :: names, r => do
    let value ← reply.cell cells name
    reply.rowFrom s cells names (r.set name value)

def Reply.row (reply : Reply) (s : Schema) (cells : List (Option Bytes)) :
    Except Fault (Row s) :=
  reply.rowFrom s cells s.columns (Row.empty s)

def Reply.rowsFrom (reply : Reply) (s : Schema) :
    List (List (Option Bytes)) → Except Fault (List (Row s))
  | [] => .ok []
  | cells :: rest => do
    let r ← reply.row s cells
    let rs ← reply.rowsFrom s rest
    .ok (r :: rs)

def Reply.all (reply : Reply) (s : Schema) : Except Fault (List (Row s)) :=
  reply.rowsFrom s reply.rows

def Reply.one (reply : Reply) (s : Schema) : Except Fault (Row s) :=
  match reply.rows with
  | [] => .error .rowNotFound
  | cells :: _ => reply.row s cells

end Storefront.Sql
