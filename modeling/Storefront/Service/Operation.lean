import Storefront.Health
import Storefront.Service
import Storefront.Task

/-! What the services can do. Each keeps rows of one schema or none; an operation on the rows
makes one call of the store, and the operations whose rows live elsewhere answer with
nothing. -/
namespace Storefront

inductive Operation where
  | health
  | create
  | update
  | listRows
  | listNothing
  deriving DecidableEq, Repr

inductive Outcome where
  | health (value : Health)
  | record (value : Record)
  | records (values : List Record)

namespace Service

def entity : Service → Entity
  | .customer => .auditLog
  | .order => .order
  | .orderManagement => .orderItem
  | .payment => .payment
  | .paymentProcessing => .paymentTransaction
  | .productCatalog => .inventoryItem
  | .supplierManagement => .supplier
  | .user => .userAccount

def schema (k : Service) : Schema := k.entity.schema

def operations : Service → List (String × Operation)
  | .customer =>
    [("health", .health), ("create_audit_log", .create), ("list_customers", .listNothing),
      ("update_customer", .update)]
  | .order =>
    [("health", .health), ("list_orders", .listNothing), ("list_deliveries", .listNothing)]
  | .orderManagement =>
    [("health", .health), ("list_order_items", .listRows), ("list_orders", .listNothing)]
  | .payment =>
    [("health", .health), ("list_payments", .listNothing),
      ("list_payment_methods", .listNothing)]
  | .paymentProcessing => [("health", .health), ("list_payments", .listRows)]
  | .productCatalog =>
    [("health", .health), ("list_inventory", .listRows), ("list_products", .listNothing)]
  | .supplierManagement => [("health", .health), ("list_suppliers", .listRows)]
  | .user => [("health", .health), ("list_customers", .listNothing)]

def usesStore (k : Service) : Bool :=
  k.operations.any fun o => o.2 = .create || o.2 = .listRows

def operation? (k : Service) (name : String) : Option Operation := k.operations.lookup name

end Service

namespace Operation

variable {s : Schema}

def createTask (body : Record) : Task s (Except Failure Record) :=
  .save (body.toRow s) fun result => result.map Row.toRecord

def listTask : Task s (Except Failure (List Record)) :=
  .list fun result => result.map fun rows => rows.map Row.toRecord

def task (now : Moment) (body : Record) : Operation → Task s (Except Failure Outcome)
  | .health => .done (.ok (.health (Health.up now)))
  | .create => (createTask body).map fun result => result.map .record
  | .update => .done (.ok (.record Ordered.empty))
  | .listRows => listTask.map fun result => result.map .records
  | .listNothing => .done (.ok (.records []))

end Operation

end Storefront
