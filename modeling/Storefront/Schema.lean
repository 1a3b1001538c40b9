/-! Table declarations. Every column holds optional text; the columns are distinct, listed in
ascending order, and one of them is the key. -/
namespace Storefront

/-- How health follows from a row: from its being there, or from its own `status` column. -/
inductive HealthRule where
  | presence
  | ownStatus
  deriving DecidableEq, Repr

structure Schema where
  name : String
  table : String
  key : String
  columns : List String
  rule : HealthRule
  distinct : columns.Nodup := by decide
  keyed : key ∈ columns := by decide

inductive Entity where
  | auditLog
  | order
  | orderItem
  | payment
  | paymentTransaction
  | inventoryItem
  | supplier
  | userAccount
  deriving DecidableEq, Repr

namespace Entity

def all : List Entity :=
  [.auditLog, .order, .orderItem, .payment, .paymentTransaction, .inventoryItem, .supplier,
    .userAccount]

def schema : Entity → Schema
  | .auditLog =>
    { name := "AuditLog", table := "audit_logs", key := "record_id", rule := .presence
      columns := ["operation", "record_id", "table_name", "timestamp", "user_id"] }
  | .order =>
    { name := "Order", table := "orders", key := "order_id", rule := .ownStatus
      columns := ["order_id", "status"] }
  | .orderItem =>
    { name := "OrderItem", table := "order_items", key := "product_id", rule := .presence
      columns := ["product_id", "quantity", "unit_price"] }
  | .payment =>
    { name := "Payment", table := "payments", key := "payment_id", rule := .presence
      columns := ["payment_id", "status"] }
  | .paymentTransaction =>
    { name := "PaymentTransaction", table := "payments", key := "payment_id", rule := .presence
      columns := ["amount", "order_id", "payment_date", "payment_id", "payment_method",
        "payment_status"] }
  | .inventoryItem =>
    { name := "InventoryItem", table := "inventory", key := "stock_quantity", rule := .presence
      columns := ["stock_quantity"] }
  | .supplier =>
    { name := "Supplier", table := "suppliers", key := "contact_email", rule := .presence
      columns := ["contact_email", "supplier_name"] }
  | .userAccount =>
    { name := "UserAccount", table := "users", key := "user_id", rule := .ownStatus
      columns := ["status", "user_id"] }

end Entity

end Storefront
