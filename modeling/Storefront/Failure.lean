import Storefront.Text.Blank

/-! What goes wrong while a request is served: the store did not do what it was asked, or the
body is no JSON object. Both are told to the client as a server error with a message that is
never blank. -/
namespace Storefront

inductive Failure where
  | storageUnavailable (text : String)
  | malformedBody (text : String)
  deriving DecidableEq, Repr

namespace Failure

def text : Failure → String
  | .storageUnavailable t => t
  | .malformedBody t => t

def fallback : String := "Unexpected error"

def message (f : Failure) : String := if Text.allBlank f.text then fallback else f.text

def status (_ : Failure) : Nat := 500

end Failure

end Storefront
