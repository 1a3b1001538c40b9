import Storefront.Proofs.Mapping
import Storefront.Proofs.Store.Agreement

/-! Records that are saved as rows. In memory there is one row for each key, that of the last
record under it, and the keys stand in the order in which they first came. -/
namespace Storefront

variable {s : Schema}

structure Submission where
  fresh : String
  record : Record
  deriving DecidableEq

namespace Submission

def key (s : Schema) (e : Submission) : String := (e.record.text? s.key).getD e.fresh

def row (s : Schema) (e : Submission) : Row s := (e.record.toRow s).keyed e.fresh

def keyedRow (s : Schema) (e : Submission) : String × Row s := (e.key s, e.row s)

def last? (s : Schema) (key : String) (es : List Submission) : Option Submission :=
  es.reverse.find? fun e => e.key s = key

theorem keyForRow (s : Schema) (e : Submission) : Table.keyFor (e.record.toRow s) e.fresh = e.key s := by
  rw [Table.keyFor, Record.keyToRow]
  rfl

theorem keyRow (s : Schema) (e : Submission) : (e.row s).key? = some (e.key s) := by
  rw [row, Row.keyKeyed, Record.keyToRow]
  rfl

theorem getRow (e : Submission) {name : String} (declared : name ∈ s.columns) (other : name ≠ s.key) :
    (e.row s).get? name = e.record.text? name := by
  rw [row, Row.getKeyed _ _ other, Record.getToRow e.record declared]

theorem saved (s : Schema) (e : Submission) (t : Table s) :
    t.save e.fresh (e.record.toRow s) = (e.row s, t.insert (e.key s) (e.row s)) := by
  rw [← keyForRow]
  rfl

def offers (s : Schema) (es : List Submission) : List (String × Row s) :=
  es.map fun e => (e.fresh, e.record.toRow s)

theorem allSaved (es : List Submission) (t : Table s) :
    ((Store.memory s).saveAll (offers s es) t).2 = t.insertAll (es.map (keyedRow s)) := by
  induction es generalizing t with
  | nil => rfl
  | cons e rest ih =>
    have first : ((Store.memory s).save e.fresh (e.record.toRow s) t).2 = t.insert (e.key s) (e.row s) :=
      congrArg Prod.snd (saved s e t)
    have later := ih (t.insert (e.key s) (e.row s))
    simp only [offers, List.map_cons, Store.saveAll, first] at later ⊢
    exact later

theorem lookupKeyed (es : List Submission) (key : String) :
    (es.map (keyedRow s)).lookup key = (es.find? fun e => e.key s = key).map (row s) := by
  induction es with
  | nil => rfl
  | cons e rest ih =>
    by_cases same : e.key s = key
    · simp [keyedRow, same]
    · have other : (key == e.key s) = false := by simpa using Ne.symm same
      simp [keyedRow, List.lookup_cons, other, same, ← ih]

theorem lookupLast (es : List Submission) (key : String) :
    (es.map (keyedRow s)).reverse.lookup key = (last? s key es).map (row s) := by
  rw [← List.map_reverse, lookupKeyed]
  rfl

theorem lastFound {es : List Submission} {key : String} (present : key ∈ es.map (Submission.key s)) :
    ∃ e, last? s key es = some e := by
  obtain ⟨e, member, same⟩ := List.mem_map.mp present
  refine Option.isSome_iff_exists.mp (List.find?_isSome.mpr ⟨e, List.mem_reverse.mpr member, ?_⟩)
  simpa using same

theorem keysKeyed (es : List Submission) : (es.map (keyedRow s)).map Prod.fst = es.map (key s) := by
  rw [List.map_map]
  rfl

end Submission

end Storefront
