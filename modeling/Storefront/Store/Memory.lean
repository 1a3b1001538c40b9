import Storefront.Store

/-! Rows in memory, by key. A row that is saved again keeps its place. Handles name tables:
a cloned handle names the table of the handle it was cloned from. -/
namespace Storefront

abbrev Table (s : Schema) := Ordered (Row s)

namespace Table

variable {s : Schema}

def keyFor (r : Row s) (fresh : String) : String := r.key?.getD fresh

def save (t : Table s) (fresh : String) (r : Row s) : Row s × Table s :=
  (r.keyed fresh, t.insert (keyFor r fresh) (r.keyed fresh))

def rows (t : Table s) : List (Row s) := t.values

end Table

namespace Store

def memory (s : Schema) : Store s (Table s) where
  save := fun fresh r t => ((.ok (t.save fresh r).1), (t.save fresh r).2)
  list := fun t => (.ok t.rows, t)

end Store

/-- Open handles on tables in memory. `targets` gives the table of each handle. -/
structure Handles (s : Schema) where
  tables : List (Table s)
  targets : List Nat

namespace Handles

variable {s : Schema}

def none : Handles s := ⟨[], []⟩

def create (h : Handles s) : Handles s :=
  ⟨h.tables ++ [Ordered.empty], h.targets ++ [h.tables.length]⟩

def clone (h : Handles s) (handle : Nat) : Handles s :=
  ⟨h.tables, h.targets ++ [h.targets.getD handle h.tables.length]⟩

def table (h : Handles s) (handle : Nat) : Table s :=
  ((h.targets[handle]?).bind fun i => h.tables[i]?).getD Ordered.empty

def save (h : Handles s) (handle : Nat) (fresh : String) (r : Row s) : Row s × Handles s :=
  let (saved, t) := (h.table handle).save fresh r
  (saved, ⟨h.tables.set (h.targets.getD handle h.tables.length) t, h.targets⟩)

def rows (h : Handles s) (handle : Nat) : List (Row s) := (h.table handle).rows

end Handles

end Storefront
