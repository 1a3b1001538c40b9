import Storefront.Digest
import Storefront.Service
import Storefront.Sql.Fault

/-! Migrations create the tables of the services. A database keeps a ledger of those it has
seen, each with the digest of its text. A run first judges the ledger, and then applies what
is not in it, each migration in a transaction of its own; so a second run finds nothing left
to do. -/
namespace Storefront

structure Migration where
  version : Int
  description : String
  text : String
  deriving DecidableEq, Repr

namespace Migration

/-- Tells whether the text is still the one that was applied. -/
def checksum (m : Migration) : Bytes := Digest.sha384 (bytesOf m.text)

def textOfLines (lines : List String) : String := String.join (lines.map fun l => l ++ "\n")

def auditLogs : Migration where
  version := 20240101000001
  description := "create audit logs"
  text := textOfLines
    ["CREATE TABLE IF NOT EXISTS audit_logs (",
      "    record_id   TEXT PRIMARY KEY,",
      "    operation   TEXT,",
      "    table_name  TEXT,",
      "    \"timestamp\" TEXT,",
      "    user_id     TEXT",
      ");"]

def orderItems : Migration where
  version := 20240101000002
  description := "create order items"
  text := textOfLines
    ["CREATE TABLE IF NOT EXISTS order_items (",
      "    product_id TEXT PRIMARY KEY,",
      "    quantity   TEXT,",
      "    unit_price TEXT",
      ");"]

def payments : Migration where
  version := 20240101000003
  description := "create payments"
  text := textOfLines
    ["CREATE TABLE IF NOT EXISTS payments (",
      "    payment_id     TEXT PRIMARY KEY,",
      "    amount         TEXT,",
      "    order_id       TEXT,",
      "    payment_date   TEXT,",
      "    payment_method TEXT,",
      "    payment_status TEXT",
      ");"]

def inventory : Migration where
  version := 20240101000004
  description := "create inventory"
  text := textOfLines
    ["CREATE TABLE IF NOT EXISTS inventory (",
      "    stock_quantity TEXT PRIMARY KEY",
      ");"]

def suppliers : Migration where
  version := 20240101000005
  description := "create suppliers"
  text := textOfLines
    ["CREATE TABLE IF NOT EXISTS suppliers (",
      "    contact_email TEXT PRIMARY KEY,",
      "    supplier_name TEXT",
      ");"]

end Migration

def Service.migrations : Service → List Migration
  | .customer => [.auditLogs]
  | .orderManagement => [.orderItems]
  | .paymentProcessing => [.payments]
  | .productCatalog => [.inventory]
  | .supplierManagement => [.suppliers]
  | .order | .payment | .user => []

structure Ledger where
  /-- Versions with the digests of what was applied, in the order of their first entry. -/
  applied : List (Int × Bytes) := []
  /-- A version that was begun and not finished. -/
  dirty : Option Int := none
  deriving DecidableEq, Repr

namespace Ledger

def put (version : Int) (checksum : Bytes) : List (Int × Bytes) → List (Int × Bytes)
  | [] => [(version, checksum)]
  | e :: rest =>
    if e.1 = version then (version, checksum) :: rest else e :: put version checksum rest

def record (l : Ledger) (version : Int) (checksum : Bytes) : Ledger :=
  { l with applied := put version checksum l.applied }

def checksum? (l : Ledger) (version : Int) : Option Bytes := l.applied.lookup version

end Ledger

namespace Migration

inductive Fault where
  | dirty (version : Int)
  | missing (version : Int)
  | modified (version : Int)
  | refused (fault : Sql.Fault)
  deriving DecidableEq, Repr

def Fault.chain : Fault → List String
  | .dirty v =>
    [s!"migration {v} is partially applied; fix and remove row from `_sqlx_migrations` table"]
  | .missing v =>
    [s!"migration {v} was previously applied but is missing in the resolved migrations"]
  | .modified v => [s!"migration {v} was previously applied but has been modified"]
  | .refused f => ("while executing migrations: " ++ f.message) :: f.chain

abbrev Answerer := String → Except Sql.Fault Unit

structure Progress where
  sent : List String
  recorded : List Migration
  ledger : Ledger
  deriving DecidableEq, Repr

/-- A migration that the ledger knows must be the one that was applied. A migration that is
refused leaves no trace in the ledger. -/
def step (answerer : Answerer) (p : Progress) (m : Migration) :
    Progress × Except Fault Unit :=
  match p.ledger.checksum? m.version with
  | some checksum => (p, if checksum = m.checksum then .ok () else .error (.modified m.version))
  | none =>
    match answerer m.text with
    | .error f => ({ p with sent := p.sent ++ ["BEGIN", m.text] }, .error (.refused f))
    | .ok () =>
      ({ sent := p.sent ++ ["BEGIN", m.text, "COMMIT"]
         recorded := p.recorded ++ [m]
         ledger := p.ledger.record m.version m.checksum }, .ok ())

def steps (answerer : Answerer) (p : Progress) : List Migration → Progress × Except Fault Unit
  | [] => (p, .ok ())
  | m :: rest =>
    match step answerer p m with
    | (p, .ok ()) => steps answerer p rest
    | (p, .error f) => (p, .error f)

def unknown? (l : Ledger) (migrations : List Migration) : Option Int :=
  (l.applied.map Prod.fst).find? fun v => !(migrations.map version).contains v

def objection? (l : Ledger) (migrations : List Migration) : Option Fault :=
  match l.dirty with
  | some v => some (.dirty v)
  | none => (unknown? l migrations).map .missing

def run (answerer : Answerer) (l : Ledger) (migrations : List Migration) :
    Progress × Except Fault Unit :=
  match objection? l migrations with
  | some f => (⟨[], [], l⟩, .error f)
  | none => steps answerer ⟨[], [], l⟩ migrations

end Migration

/-- A service without migrations has no business with the ledger, whatever is in it. -/
def Service.migrate (k : Service) (answerer : Migration.Answerer) (l : Ledger) :
    Migration.Progress × Except Migration.Fault Unit :=
  if k.migrations.isEmpty then (⟨[], [], l⟩, .ok ())
  else Migration.run answerer l k.migrations

end Storefront
