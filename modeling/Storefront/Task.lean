import Storefront.Store

/-! What serving a request takes: an answer that needs no store, or one call of the store and
an answer made of its result. -/
namespace Storefront

inductive Task (s : Schema) (α : Type) where
  | done (answer : α)
  | save (row : Row s) (answer : Except Failure (Row s) → α)
  | list (answer : Except Failure (List (Row s)) → α)

namespace Task

variable {s : Schema}

def map (f : α → β) : Task s α → Task s β
  | .done a => .done (f a)
  | .save r answer => .save r fun result => f (answer result)
  | .list answer => .list fun result => f (answer result)

def calls : Task s α → Bool
  | .done _ => false
  | .save .. => true
  | .list _ => true

/-- Does the task on a store; `fresh` is the key for a row that has none. -/
def run (store : Store s σ) (fresh : String) : Task s α → σ → α × σ
  | .done a, state => (a, state)
  | .save r answer, state =>
    let (result, next) := store.save fresh r state
    (answer result, next)
  | .list answer, state =>
    let (result, next) := store.list state
    (answer result, next)

end Task

end Storefront
