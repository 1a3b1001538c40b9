import Storefront.Failure
import Storefront.Row

/-! Stores of rows. A store saves a row under its key and lists its rows; either may fail.
What it does may depend on a state and change it. A row without a key is saved under a fresh
one, which comes with the call. -/
namespace Storefront

structure Store (s : Schema) (σ : Type) where
  save : String → Row s → σ → Except Failure (Row s) × σ
  list : σ → Except Failure (List (Row s)) × σ

def Store.failing (s : Schema) (failure : Failure) : Store s σ where
  save := fun _ _ state => (.error failure, state)
  list := fun state => (.error failure, state)

end Storefront
