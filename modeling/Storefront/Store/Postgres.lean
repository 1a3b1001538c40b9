import Storefront.Sql.Reply
import Storefront.Sql.Statement
import Storefront.Store

/-! Rows in a database. A server executes statements in a state of its own; the store sends
it one statement for each call. -/
namespace Storefront

structure Sql.Server (σ : Type) where
  execute : Sql.Statement → σ → Except Sql.Fault Sql.Reply × σ

namespace Sql

def answer (read : Reply → Except Fault α) : Except Fault Reply → Except Failure α
  | .error fault => .error fault.failure
  | .ok reply => (read reply).mapError Fault.failure

def closed : Server σ where
  execute := fun _ state => (.error .poolClosed, state)

end Sql

def Store.postgres (s : Schema) (server : Sql.Server σ) : Store s σ where
  save := fun fresh r state =>
    let (reply, next) := server.execute (Sql.upsert (r.keyed fresh)) state
    (Sql.answer (fun reply => reply.one s) reply, next)
  list := fun state =>
    let (reply, next) := server.execute (Sql.select s) state
    (Sql.answer (fun reply => reply.all s) reply, next)

end Storefront
