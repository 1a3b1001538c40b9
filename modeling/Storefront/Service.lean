import Storefront.Text.Blank

/-! The eight services and their names. A name is recognised with white space around it, in
any case of its ASCII letters, and with underscores for hyphens. -/
namespace Storefront

inductive Service where
  | customer
  | order
  | orderManagement
  | payment
  | paymentProcessing
  | productCatalog
  | supplierManagement
  | user
  deriving DecidableEq, Repr

namespace Service

def all : List Service :=
  [.customer, .order, .orderManagement, .payment, .paymentProcessing, .productCatalog,
    .supplierManagement, .user]

def name : Service → String
  | .customer => "customer"
  | .order => "order"
  | .orderManagement => "order-management"
  | .payment => "payment"
  | .paymentProcessing => "payment-processing"
  | .productCatalog => "product-catalog"
  | .supplierManagement => "supplier-management"
  | .user => "user"

def foldChar (c : Char) : Char := if c = '_' then '-' else c.toLower

def fold (cs : List Char) : List Char := (Text.trim cs).map foldChar

def ofName? (s : String) : Option Service :=
  all.find? fun k => k.name.toList = fold s.toList

end Service

end Storefront
