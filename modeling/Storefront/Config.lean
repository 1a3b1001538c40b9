import Storefront.Service
import Storefront.Text.Numeral
import Storefront.Text.Pieces
import Storefront.Text.Quoted

/-! Configuration from environment variables. A variable is unset or any bytes; one that is
not UTF-8 counts as unset, but for the service name, where it is an error. The first error
in the order service name, connection limit, port is the one reported. -/
namespace Storefront

structure Environment where
  serviceName : Option Bytes := none
  databaseUrl : Option Bytes := none
  maxConnections : Option Bytes := none
  host : Option Bytes := none
  port : Option Bytes := none
  logFilter : Option Bytes := none
  deriving DecidableEq, Repr

structure Config where
  service : Service
  /-- Absent when rows are to live in memory only. -/
  databaseUrl : Option String
  maxConnections : Nat
  host : String
  port : Nat
  deriving DecidableEq, Repr

namespace Config

inductive Fault where
  | serviceUnset
  | serviceNotText (value : Bytes)
  | unknownService (name : String)
  | maxConnections (fault : Text.NumeralFault)
  | port (fault : Text.NumeralFault)
  deriving DecidableEq, Repr

def quotedByte (b : UInt8) : List Char :=
  ['\\', 'x', Text.upperHexDigit (b.toNat / 16), Text.upperHexDigit (b.toNat % 16)]

/-- Each byte of an unsound sequence is escaped by itself. -/
def quotedBytes (bs : Bytes) : String :=
  String.ofList
    (['"'] ++ (Text.Utf8.pieces bs).flatMap
      (Sum.elim (List.flatMap Text.quotedChar) (List.flatMap quotedByte)) ++ ['"'])

def acceptedNames : String := ", ".intercalate (Service.all.map Service.name)

def unknownMessage (name : String) : String :=
  "unknown service " ++ Text.quoted name ++ ", expected one of: " ++ acceptedNames

def Fault.chain : Fault → List String
  | .serviceUnset => ["SERVICE_NAME must be set", "environment variable not found"]
  | .serviceNotText value =>
    ["SERVICE_NAME must be set",
      "environment variable was not valid unicode: " ++ quotedBytes value]
  | .unknownService name => [unknownMessage name]
  | .maxConnections fault => ["DB_MAX_CONNECTIONS must be a valid number", fault.message]
  | .port fault => ["PORT must be a valid number", fault.message]

def textOf (value : Option Bytes) : Option String := value.bind Text.Utf8.text?

def readService (value : Option Bytes) : Except Fault Service :=
  match value with
  | none => .error .serviceUnset
  | some bs =>
    match Text.Utf8.text? bs with
    | none => .error (.serviceNotText bs)
    | some name =>
      match Service.ofName? name with
      | some s => .ok s
      | none => .error (.unknownService name)

def readNumber (value : Option Bytes) (absent limit : Nat) : Except Text.NumeralFault Nat :=
  match textOf value with
  | none => .ok absent
  | some s => Text.parseNumeral limit s.toList

def readUrl (value : Option Bytes) : Option String :=
  (textOf value).filter fun url => !Text.allBlank url

def ofEnvironment (env : Environment) : Except Fault Config := do
  let service ← readService env.serviceName
  let maxConnections ←
    (readNumber env.maxConnections 20 (Nat.pow 2 32 - 1)).mapError Fault.maxConnections
  let port ← (readNumber env.port 3000 (Nat.pow 2 16 - 1)).mapError Fault.port
  .ok
    { service
      databaseUrl := readUrl env.databaseUrl
      maxConnections
      host := (textOf env.host).getD "127.0.0.1"
      port }

end Config

end Storefront
