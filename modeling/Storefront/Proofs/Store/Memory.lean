import Storefront.Proofs.Ordered
import Storefront.Proofs.Row
import Storefront.Store.Memory

/-! Tables whose rows are stored under the keys that they carry, and what a save does to one. -/
namespace Storefront

namespace Table

variable {s : Schema}

def Keyed (t : Table s) : Prop := ∀ e ∈ t.entries, e.2.key? = some e.1

theorem keyedEmpty : Keyed (Ordered.empty : Table s) := by
  intro e member
  cases member

theorem savedRow (t : Table s) (fresh : String) (r : Row s) :
    (t.save fresh r).1 = r.keyed fresh := rfl

theorem savedTable (t : Table s) (fresh : String) (r : Row s) :
    (t.save fresh r).2 = t.insert (keyFor r fresh) (r.keyed fresh) := rfl

theorem keyedInsert {t : Table s} (keyed : Keyed t) {r : Row s} {key : String} (has : r.key? = some key) :
    Keyed (t.insert key r) := by
  intro e member
  rcases Ordered.memberInsert member with rfl | ⟨_, before⟩
  · exact has
  · exact keyed e before

/-- What a save answers: the row as it came when it has a key, and otherwise the row with
nothing but its key changed, which is then a new last row unless the fresh key was taken. -/
structure Saves (t : Table s) (fresh : String) (r saved : Row s) (next : Table s) : Prop where
  given : ∀ key, r.key? = some key → saved = r
  generated : r.key? = none → saved.key? = some fresh
  others : ∀ name, name ≠ s.key → saved.get? name = r.get? name
  appended : r.key? = none → fresh ∉ t.keys → next.rows = t.rows ++ [saved]

theorem saves (t : Table s) (fresh : String) (r : Row s) :
    Saves t fresh r (t.save fresh r).1 (t.save fresh r).2 where
  given key has := Row.keyedSome has fresh
  generated unset := by rw [savedRow, Row.keyKeyed, unset]; rfl
  others name other := Row.getKeyed r fresh other
  appended unset absent := by
    have key : keyFor r fresh = fresh := by simp [keyFor, unset]
    rw [savedTable, savedRow, key]
    simp [rows, Ordered.values, Ordered.insertAbsent t fresh _ absent]

end Table

end Storefront
