import Storefront.Proofs.Ordered
import Storefront.Proofs.Row

/-! Rows as their columns are read and written by name, one call after another. -/
namespace Storefront.Row

variable {s : Schema}

theorem getAfter (r : Row s) (name : String) (value : Option String) (other : String) :
    (r.set name value).get? other = if other = name ∧ name ∈ s.columns then value else r.get? other := by
  by_cases declared : name ∈ s.columns
  · simp [getSet r declared, declared]
  · simp [setUndeclared r declared, declared]

theorem setAgain (r : Row s) (name : String) (value last : Option String) :
    (r.set name value).set name last = r.set name last := by
  refine extColumns fun other _ => ?_
  simp only [getAfter]
  split <;> rfl

theorem setApart (r : Row s) {name other : String} (apart : name ≠ other) (value last : Option String) :
    (r.set name value).set other last = (r.set other last).set name value := by
  refine extColumns fun column _ => ?_
  simp only [getAfter]
  by_cases here : column = name
  · have elsewhere : column ≠ other := fun same => apart (here.symm.trans same)
    simp [elsewhere]
  · simp [here]

theorem assignAccepted (r : Row s) (name : String) (value : Option String) :
    (r.assign name value).1 = true ↔ name ∈ s.columns := s.declaresColumn name

theorem assignRefused {r : Row s} {name : String} {value : Option String} (refused : (r.assign name value).1 = false) :
    name ∉ s.columns := fun declared => by
  rw [(assignAccepted r name value).mpr declared] at refused
  contradiction

def assignAll (r : Row s) (writes : List (String × Option String)) : Row s :=
  writes.foldl (fun r e => (r.assign e.1 e.2).2) r

theorem getAssigned (r : Row s) (writes : List (String × Option String)) {name : String} (declared : name ∈ s.columns) :
    (r.assignAll writes).get? name = (writes.reverse.lookup name).getD (r.get? name) := by
  induction writes generalizing r with
  | nil => rfl
  | cons e rest ih =>
    have later := ih (r.set e.1 e.2)
    rw [getAfter] at later
    change ((r.set e.1 e.2).assignAll rest).get? name = _
    rw [later, Ordered.lookupReverseCons]
    by_cases same : name = e.1
    · subst same
      cases rest.reverse.lookup e.1 <;> simp [declared]
    · cases rest.reverse.lookup name <;> simp [same]

structure AccessLaws (s : Schema) : Prop where
  accepted : ∀ (r : Row s) name value, (r.assign name value).1 = true ↔ name ∈ s.columns
  written : ∀ (r : Row s) name value, (r.assign name value).1 = true → (r.assign name value).2.get? name = value ∧
    ∀ other, other ≠ name → (r.assign name value).2.get? other = r.get? other
  refused : ∀ (r : Row s) name value, (r.assign name value).1 = false →
    (r.assign name value).2 = r ∧ (r.assign name value).2.get? name = none
  apart : ∀ (r : Row s) name other value last, name ≠ other →
    ((r.assign name value).2.assign other last).2 = ((r.assign other last).2.assign name value).2
  again : ∀ (r : Row s) name value last, (r.assign name value).2.assign name last = r.assign name last
  run : ∀ (r : Row s) writes, ∀ name ∈ s.columns,
    (r.assignAll writes).get? name = (writes.reverse.lookup name).getD (r.get? name)
  determined : ∀ a b : Row s, (∀ name ∈ s.columns, a.get? name = b.get? name) → a = b
  key : ∀ (r : Row s) key, (r.setKey key).key? = some key ∧
    ∀ name ∈ s.columns, name ≠ s.key → (r.setKey key).get? name = r.get? name

/-- A name can be written if and only if it is a column. Writing one changes what it reads as and nothing
else, so that of several writes to a column the last counts, and a row is no more than its columns. -/
theorem accessLawful (s : Schema) : AccessLaws s where
  accepted := assignAccepted
  written r name value ok := by
    have declared := (assignAccepted r name value).mp ok
    refine ⟨?_, fun other apart => ?_⟩
    · exact (getSet r declared value name).trans (if_pos rfl)
    · exact (getSet r declared value other).trans (if_neg apart)
  refused r name value no := by
    have undeclared := assignRefused no
    have same : (r.assign name value).2 = r := setUndeclared r undeclared value
    exact ⟨same, by rw [same, getUndeclared r undeclared]⟩
  apart r name other value last apart := setApart r apart value last
  again r name value last := by rw [assign, assign, assign, setAgain]
  run r writes name declared := getAssigned r writes declared
  determined a b same := extColumns same
  key r key := ⟨keySetKey r key, fun name _ other => getSetKey r key other⟩

end Storefront.Row
