import Storefront.Net.Url
import Storefront.Sql.Fault
import Storefront.Text.Numeral
import Storefront.Text.Quoted

/-! Where a database is and how to connect to it, as a URL says it. Parameters of the query
overrule the other parts; those that are not known are passed over, and told to the caller. -/
namespace Storefront.Sql

inductive SslMode where
  | disable
  | allow
  | prefer
  | require
  | verifyCa
  | verifyFull
  deriving DecidableEq, Repr

def SslMode.name : SslMode → String
  | .disable => "disable"
  | .allow => "allow"
  | .prefer => "prefer"
  | .require => "require"
  | .verifyCa => "verify-ca"
  | .verifyFull => "verify-full"

def SslMode.all : List SslMode := [.disable, .allow, .prefer, .require, .verifyCa, .verifyFull]

def SslMode.ofName? (cs : List Char) : Option SslMode :=
  all.find? fun mode => mode.name.toList = cs.map Char.toLower

structure Address where
  /-- A host, or the directory of a socket; absent for this machine. -/
  host : Option String := none
  port : Nat := 5432
  user : Option String := none
  password : Option String := none
  database : Option String := none
  ssl : SslMode := .prefer
  statementCache : Nat := 100
  deriving DecidableEq, Repr

namespace Address

inductive Fault where
  | url (fault : Net.Url.Fault)
  | notText (fault : Text.Utf8.Fault)
  | sslMode (value : String)
  | number (fault : Text.NumeralFault)
  | hostAddress
  deriving DecidableEq, Repr

def Fault.text : Fault → String
  | .url f => f.message
  | .notText f => f.message
  | .sslMode value => "unknown value " ++ Text.quoted value ++ " for `ssl_mode`"
  | .number f => f.message
  | .hostAddress => "invalid IP address syntax"

/-- An unknown mode is a fault of the configuration in itself, and stands behind another. -/
def Fault.chain (f : Fault) : List String :=
  let own := Sql.Fault.configuration f.text
  match f with
  | .sslMode _ => (Sql.Fault.configuration own.message).message :: own.chain
  | _ => own.chain

def unescaped (cs : List Char) : Except Fault String :=
  match Text.Utf8.decode (Text.percentDecode (Text.Utf8.encode cs)) with
  | .ok cs => .ok (String.ofList cs)
  | .error f => .error (.notText f)

/-- Only the directory of a socket has its escapes resolved. -/
def hostOf (cs : List Char) : Except Fault String :=
  match Text.percentDecode (Text.Utf8.encode cs) with
  | 0x2F :: _ => unescaped cs
  | _ => .ok (String.ofList cs)

def numberOf (limit : Nat) (cs : List Char) : Except Fault Nat :=
  (Text.parseNumeral limit cs).mapError .number

def isNamed (name : List Char) (names : List String) : Bool :=
  names.contains (String.ofList name)

def setParameter (a : Address) (name value : List Char) : Except Fault Address :=
  let text := String.ofList value
  if isNamed name ["sslmode", "ssl-mode"] then
    match SslMode.ofName? value with
    | some mode => .ok { a with ssl := mode }
    | none => .error (.sslMode text)
  else if isNamed name ["statement-cache-capacity"] then do
    .ok { a with statementCache := (← numberOf (Nat.pow 2 64 - 1) value) }
  else if isNamed name ["host"] then .ok { a with host := some text }
  else if isNamed name ["hostaddr"] then
    if Net.isIp value then .ok { a with host := some text } else .error .hostAddress
  else if isNamed name ["port"] then do
    .ok { a with port := (← numberOf (Nat.pow 2 16 - 1) value) }
  else if isNamed name ["dbname"] then .ok { a with database := some text }
  else if isNamed name ["user"] then .ok { a with user := some text }
  else if isNamed name ["password"] then .ok { a with password := some text }
  else .ok a

/-- Parameters that have a meaning, whether or not it shows in an address. -/
def knownNames : List String :=
  ["sslmode", "ssl-mode", "sslrootcert", "ssl-root-cert", "ssl-ca", "sslcert", "ssl-cert",
    "sslkey", "ssl-key", "statement-cache-capacity", "host", "hostaddr", "port", "dbname",
    "user", "password", "application_name", "options"]

/-- An option of the server may be a parameter of its own, named in brackets. -/
def isKnown (name : List Char) : Bool :=
  isNamed name knownNames || "options[".toList.isPrefixOf name

abbrev Unknown := String × String

def setParameters (a : Address) :
    List (List Char × List Char) → List Unknown × Except Fault Address
  | [] => ([], .ok a)
  | (name, value) :: rest =>
    match a.setParameter name value with
    | .error f => ([], .error f)
    | .ok next =>
      let (unknown, result) := next.setParameters rest
      if isKnown name then (unknown, result)
      else ((String.ofList name, String.ofList value) :: unknown, result)

def ofLocation (u : Net.Url) : Except Fault Address := do
  let host ← u.host.mapM hostOf
  let user ← if u.user.isEmpty then .ok none else (unescaped u.user).map some
  let password ← u.password.mapM unescaped
  let path := u.path.dropWhile (· = '/')
  let database := if path.isEmpty then none else some (String.ofList path)
  .ok { host, port := u.port.getD 5432, user, password, database }

def ofUrl (u : Net.Url) : List Unknown × Except Fault Address :=
  match ofLocation u with
  | .ok a => a.setParameters u.parameters
  | .error f => ([], .error f)

/-- The address, with the parameters that were passed over before the reading ended. -/
def parse (text : String) : List Unknown × Except Fault Address :=
  match Net.Url.parse text with
  | .ok u => ofUrl u
  | .error f => ([], .error (.url f))

end Address

end Storefront.Sql
