import Storefront.Failure
import Storefront.Text.Quoted

/-! Faults of a database connection and of the rows it returns. Whatever they are, to the
services the store is unavailable, with the fault's message. -/
namespace Storefront.Sql

inductive Fault where
  | configuration (text : String)
  | io (text : String)
  | tls (text : String)
  | protocol (text : String)
  | rowNotFound
  | typeNotFound (name : String)
  | columnIndexOutOfBounds (index len : Nat)
  | columnNotFound (name : String)
  | columnDecode (column text : String)
  | decode (text : String)
  | anyDriver (text : String)
  | poolTimedOut
  | poolClosed
  | workerCrashed
  | database (text : String)
  deriving DecidableEq, Repr

def Fault.message : Fault → String
  | .configuration t => "error with configuration: " ++ t
  | .io t => "error communicating with database: " ++ t
  | .tls t => "error occurred while attempting to establish a TLS connection: " ++ t
  | .protocol t => "encountered unexpected or invalid data: " ++ t
  | .rowNotFound => "no rows returned by a query that expected to return at least one row"
  | .typeNotFound n => "type named " ++ n ++ " not found"
  | .columnIndexOutOfBounds index len =>
    s!"column index out of bounds: the len is {len}, but the index is {index}"
  | .columnNotFound n => "no column found for name: " ++ n
  | .columnDecode c t => "error occurred while decoding column " ++ c ++ ": " ++ t
  | .decode t => "error occurred while decoding: " ++ t
  | .anyDriver t => "error in Any driver mapping: " ++ t
  | .poolTimedOut => "pool timed out while waiting for an open connection"
  | .poolClosed => "attempted to acquire a connection on a closed pool"
  | .workerCrashed => "attempted to communicate with a crashed background worker"
  | .database t => "error returned from database: " ++ t

def Fault.cause? : Fault → Option String
  | .configuration t | .io t | .tls t | .columnDecode _ t | .decode t | .anyDriver t
  | .database t => some t
  | _ => none

/-- The fault and what lies behind it, the outermost first. -/
def Fault.chain (f : Fault) : List String := f.message :: f.cause?.toList

def Fault.failure (f : Fault) : Failure := .storageUnavailable f.message

end Storefront.Sql
