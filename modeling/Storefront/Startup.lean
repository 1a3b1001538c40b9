import Storefront.Config
import Storefront.Log.Filter
import Storefront.Migration
import Storefront.Service.Operation
import Storefront.Sql.Address

/-! Starting a service: its configuration is read, the database is connected to and migrated if
the service has use for one and an address is given, and then requests can be served. Every
step is logged; the first that fails ends the start. -/
namespace Storefront

inductive Backend where
  | postgres
  | memory
  deriving DecidableEq, Repr

def Backend.name : Backend → String
  | .postgres => "postgres"
  | .memory => "memory"

structure Database where
  ledger : Ledger
  answerer : Migration.Answerer

/-- What comes of connecting to an address with a pool of so many connections. -/
abbrev Network := Sql.Address → Nat → Except Sql.Fault Database

namespace Startup

inductive Event where
  | starting (service : Service)
  | connecting (maxConnections : Nat)
  | parameterIgnored (name value : String)
  | connected
  | migrating (service : Service)
  | nothingToMigrate (service : Service)
  | migrated
  | rowsInMemory
  | ready (backend : Backend)
  | listening (host : String) (port : Nat)
  deriving DecidableEq, Repr

def commandSource : String := "commerce_service"

def storeSource : String := "commerce_services::db"

def addressSource : String := "sqlx_postgres::options::parse"

def Event.entry : Event → Log.Entry
  | .starting k =>
    ⟨.info, commandSource, "Starting commerce service", [("service", k.name)]⟩
  | .connecting n =>
    ⟨.info, storeSource, "Connecting to PostgreSQL...", [("max_connections", toString n)]⟩
  | .parameterIgnored name value =>
    ⟨.warn, addressSource, "ignoring unrecognized connect parameter",
      [("key", name), ("value", value)]⟩
  | .connected => ⟨.info, storeSource, "Database connection pool established.", []⟩
  | .migrating k => ⟨.info, storeSource, "Running migrations...", [("service", k.name)]⟩
  | .nothingToMigrate k =>
    ⟨.info, storeSource, "No tables owned, skipping migrations.", [("service", k.name)]⟩
  | .migrated => ⟨.info, storeSource, "Migrations complete.", []⟩
  | .rowsInMemory =>
    ⟨.warn, commandSource,
      "DATABASE_URL not set; rows are kept in memory and lost on exit.", []⟩
  | .ready backend =>
    ⟨.info, commandSource, "Store ready", [("backend", Text.quoted backend.name)]⟩
  | .listening host port =>
    ⟨.info, commandSource, s!"Listening on http://{host}:{port}", []⟩

inductive Fault where
  | config (fault : Config.Fault)
  | address (fault : Sql.Address.Fault)
  | connection (fault : Sql.Fault)
  | migration (fault : Migration.Fault)
  deriving DecidableEq, Repr

def Fault.chain : Fault → List String
  | .config f => f.chain
  | .address f => f.chain
  | .connection f => f.chain
  | .migration f => f.chain

structure Trace where
  events : List Event := []
  sent : List String := []
  deriving DecidableEq, Repr

def Trace.log (t : Trace) (events : List Event) : Trace :=
  { t with events := t.events ++ events }

def connectTo (network : Network) (maxConnections : Nat) :
    Except Sql.Address.Fault Sql.Address → Except Fault Database
  | .error f => .error (.address f)
  | .ok address => (network address maxConnections).mapError .connection

def connect (network : Network) (url : String) (maxConnections : Nat) (t : Trace) :
    Trace × Except Fault Database :=
  let (unknown, address) := Sql.Address.parse url
  let t := t.log (.connecting maxConnections :: unknown.map fun p => .parameterIgnored p.1 p.2)
  match connectTo network maxConnections address with
  | .ok database => (t.log [.connected], .ok database)
  | .error f => (t, .error f)

def migrationEvents (k : Service) : List Event :=
  if k.migrations.isEmpty then [.migrating k, .nothingToMigrate k]
  else [.migrating k, .migrated]

def migrate (k : Service) (database : Database) (t : Trace) : Trace × Except Fault Unit :=
  let (progress, result) := k.migrate database.answerer database.ledger
  let t := { t with sent := t.sent ++ progress.sent }
  match result with
  | .ok () => (t.log (migrationEvents k), .ok ())
  | .error f => (t.log [.migrating k], .error (.migration f))

/-- Prepares the place for the rows. The address is looked at by services that keep rows. -/
def prepare (c : Config) (network : Network) (t : Trace) : Trace × Except Fault Backend :=
  match c.databaseUrl, c.service.usesStore with
  | some url, true =>
    match connect network url c.maxConnections t with
    | (t, .error f) => (t, .error f)
    | (t, .ok database) =>
      match migrate c.service database t with
      | (t, .ok ()) => (t, .ok .postgres)
      | (t, .error f) => (t, .error f)
  | none, true => (t.log [.rowsInMemory], .ok .memory)
  | _, false => (t, .ok .memory)

/-- A start with a configuration. It ends with the place of the rows when the service listens. -/
def start (c : Config) (network : Network) : Trace × Except Fault Backend :=
  match prepare c network ⟨[.starting c.service], []⟩ with
  | (t, .ok backend) => (t.log [.ready backend, .listening c.host c.port], .ok backend)
  | (t, .error f) => (t, .error f)

def run (env : Environment) (network : Network) : Trace × Except Fault Backend :=
  match Config.ofEnvironment env with
  | .ok c => start c network
  | .error f => ({}, .error (.config f))

def standardFilter : Log.Filter :=
  [{ detail := Log.Level.info.detail },
    { source := "commerce_services".toList, detail := Log.Level.debug.detail }]

/-- A filter that cannot be read counts as not given. -/
def filterOf (env : Environment) : Log.Filter :=
  ((Config.textOf env.logFilter).bind fun s => Log.Filter.parse? s.toList).getD standardFilter

def keptEntries (env : Environment) (t : Trace) : List Log.Entry :=
  (t.events.map Event.entry).filter (filterOf env).admits

/-- A cause below the first line, its further lines indented like its first. -/
def indented (lead : String) (width : Nat) (cause : String) : String :=
  let margin := List.replicate width ' '
  lead ++ String.ofList (cause.toList.flatMap fun c => if c = '\n' then c :: margin else [c])

def numbered (n : Nat) : String :=
  let digits := Nat.toDigits 10 n
  String.ofList (List.replicate (5 - digits.length) ' ' ++ digits) ++ ": "

def causeLines : List String → List String
  | [cause] => [indented "    " 4 cause]
  | causes => causes.zipIdx.map fun (cause, i) => indented (numbered i) 7 cause

def report (chain : List String) : String :=
  match chain with
  | [] => ""
  | first :: causes =>
    let below := if causes.isEmpty then [] else ["", "Caused by:"] ++ causeLines causes
    "Error: " ++ String.join ((first :: below).map fun line => line ++ "\n")

end Startup

end Storefront
