import Mathlib.Data.List.Nodup
import Storefront.Row

/-! Reading and writing columns by name. A declared column holds what was last written to it,
writing it leaves the others as they are, and a row is known by what its columns hold. -/
namespace Storefront

variable {s : Schema}

theorem Schema.positionSome (s : Schema) (name : String) (i : Fin s.columns.length) :
    s.position? name = some i ↔ s.columns.get i = name := by
  unfold Schema.position?
  rw [List.finIdxOf?_eq_some_iff]
  constructor
  · exact And.left
  · intro place
    refine ⟨place, fun j before same => ?_⟩
    have equal := (List.Nodup.getElem_inj_iff s.distinct).mp (same.trans place.symm)
    have bound : j.val < i.val := before
    omega

theorem Schema.positionNone (s : Schema) (name : String) :
    s.position? name = none ↔ name ∉ s.columns := List.finIdxOf?_eq_none_iff

theorem Schema.positionMember {s : Schema} {name : String} (declared : name ∈ s.columns) :
    ∃ i, s.position? name = some i := by
  cases found : s.position? name with
  | none => exact absurd declared ((s.positionNone name).mp found)
  | some i => exact ⟨i, rfl⟩

theorem Schema.declaresColumn (s : Schema) (name : String) :
    s.declares name = true ↔ name ∈ s.columns := by
  unfold Schema.declares
  cases found : s.position? name with
  | none => simpa using (s.positionNone name).mp found
  | some i =>
    have member : name ∈ s.columns := (s.positionSome name i).mp found ▸ List.getElem_mem _
    simpa using member

namespace Row

theorem getUndeclared (r : Row s) {name : String} (undeclared : name ∉ s.columns) :
    r.get? name = none := by
  simp [get?, (s.positionNone name).mpr undeclared]

@[simp] theorem getEmpty (s : Schema) (name : String) : (empty s).get? name = none := by
  unfold get? empty
  cases s.position? name <;> simp

theorem setUndeclared (r : Row s) {name : String} (undeclared : name ∉ s.columns)
    (value : Option String) : r.set name value = r := by
  simp [set, (s.positionNone name).mpr undeclared]

theorem getSet (r : Row s) {name : String} (declared : name ∈ s.columns) (value : Option String)
    (other : String) :
    (r.set name value).get? other = if other = name then value else r.get? other := by
  obtain ⟨i, place⟩ := Schema.positionMember declared
  by_cases same : other = name
  · subst same
    simp [set, get?, place]
  · rw [if_neg same]
    cases found : s.position? other with
    | none => simp [get?, found]
    | some j =>
      have different : i.val ≠ j.val := by
        intro equal
        have here := (s.positionSome name i).mp place
        have there := (s.positionSome other j).mp found
        rw [Fin.ext equal] at here
        exact same (there.symm.trans here)
      simp [set, get?, place, found, different]

theorem extColumns {a b : Row s} (same : ∀ name ∈ s.columns, a.get? name = b.get? name) : a = b := by
  obtain ⟨a⟩ := a
  obtain ⟨b⟩ := b
  congr 1
  apply Vector.ext
  intro i inside
  have place := (s.positionSome s.columns[i] ⟨i, inside⟩).mpr rfl
  have here := same s.columns[i] (List.getElem_mem inside)
  simpa [get?, place] using here

theorem keySetKey (r : Row s) (key : String) : (r.setKey key).key? = some key := by
  simp [key?, setKey, getSet r s.keyed]

theorem getSetKey (r : Row s) (key : String) {name : String} (other : name ≠ s.key) :
    (r.setKey key).get? name = r.get? name := by
  rw [setKey, getSet r s.keyed, if_neg other]

theorem keyedSome {r : Row s} {key : String} (has : r.key? = some key) (fresh : String) :
    r.keyed fresh = r := by
  simp [keyed, has]

theorem keyedNone {r : Row s} (unset : r.key? = none) (fresh : String) :
    r.keyed fresh = r.setKey fresh := by
  simp [keyed, unset]

theorem keyKeyed (r : Row s) (fresh : String) : (r.keyed fresh).key? = some (r.key?.getD fresh) := by
  cases has : r.key? with
  | none => rw [keyedNone has, keySetKey]; rfl
  | some key => rw [keyedSome has, has]; rfl

theorem getKeyed (r : Row s) (fresh : String) {name : String} (other : name ≠ s.key) :
    (r.keyed fresh).get? name = r.get? name := by
  cases has : r.key? with
  | none => rw [keyedNone has, getSetKey r fresh other]
  | some key => rw [keyedSome has]

theorem getWritten (r : Row s) (value : String → Option String) {names : List String}
    (declared : ∀ name ∈ names, name ∈ s.columns) (name : String) :
    (names.foldl (fun r c => r.set c (value c)) r).get? name =
      if name ∈ names then value name else r.get? name := by
  induction names generalizing r with
  | nil => simp
  | cons c rest ih =>
    rw [List.foldl_cons, ih _ fun n member => declared n (List.mem_cons_of_mem c member),
      getSet r (declared c List.mem_cons_self)]
    by_cases same : name = c
    · subst same
      simp
    · simp [same]

end Row

end Storefront
