import Mathlib.Logic.Relation
import Storefront.Proofs.Store.Memory

/-! Runs of calls on handles. Handles that are clones of one another, directly or through
others, form a family and share a table; the table of a family holds, for each key, the row
that was last saved through one of its handles, in the order in which the keys were first
saved. -/
namespace Storefront

namespace Handles

variable {s : Schema}

inductive Call (s : Schema) where
  | create
  | clone (handle : Nat)
  | save (handle : Nat) (fresh : String) (row : Row s)
  | list (handle : Nat)

inductive Answer (s : Schema) where
  | opened (handle : Nat)
  | saved (row : Row s)
  | listed (rows : List (Row s))

def step (h : Handles s) : Call s → Answer s × Handles s
  | .create => (.opened h.targets.length, h.create)
  | .clone handle => (.opened h.targets.length, h.clone handle)
  | .save handle fresh r => (.saved (h.save handle fresh r).1, (h.save handle fresh r).2)
  | .list handle => (.listed (h.rows handle), h)

def run (h : Handles s) : List (Call s) → List (Answer s) × Handles s
  | [] => ([], h)
  | c :: rest => ((h.step c).1 :: ((h.step c).2.run rest).1, ((h.step c).2.run rest).2)

/-- For each handle, in the order of opening, the handle that it was cloned from, if any. -/
def origins (calls : List (Call s)) : List (Option Nat) :=
  calls.filterMap fun
    | .create => some .none
    | .clone handle => some (some handle)
    | _ => .none

/-- Calls name only handles that are open, of which there are `count` before the first. -/
def Open : Nat → List (Call s) → Prop
  | _, [] => True
  | count, .create :: rest => Open (count + 1) rest
  | count, .clone handle :: rest => handle < count ∧ Open (count + 1) rest
  | count, .save handle _ _ :: rest => handle < count ∧ Open count rest
  | count, .list handle :: rest => handle < count ∧ Open count rest

/-- One family: the clones of a handle, their clones, and what they were cloned from. -/
def Kin (calls : List (Call s)) : Nat → Nat → Prop :=
  Relation.EqvGen fun a b => (origins calls)[a]? = some (some b)

open Classical in
/-- The rows that saves through the handles picked have answered with, by their keys. -/
noncomputable def savedThrough (pick : Nat → Prop) (calls : List (Call s))
    (answers : List (Answer s)) : List (String × Row s) :=
  (calls.zip answers).filterMap fun
    | (.save handle _ _, .saved r) => if pick handle then r.key?.map fun key => (key, r) else .none
    | _ => .none

theorem savedThroughAppend (pick : Nat → Prop) {calls : List (Call s)} {answers : List (Answer s)}
    (length : answers.length = calls.length) (c : Call s) (a : Answer s) :
    savedThrough pick (calls ++ [c]) (answers ++ [a]) =
      savedThrough pick calls answers ++ savedThrough pick [c] [a] := by
  simp only [savedThrough, List.zip_append length.symm, List.filterMap_append]

theorem savedThroughCongr {pick other : Nat → Prop} {calls : List (Call s)}
    (answers : List (Answer s))
    (same : ∀ handle fresh r, Call.save handle fresh r ∈ calls → (pick handle ↔ other handle)) :
    savedThrough pick calls answers = savedThrough other calls answers := by
  unfold savedThrough
  apply List.filterMap_congr
  rintro ⟨c, a⟩ member
  have called := (List.of_mem_zip member).1
  cases c with
  | save handle fresh r =>
    cases a with
    | saved row =>
      have agree := same handle fresh r called
      by_cases picked : pick handle
      · simp only [if_pos picked, if_pos (agree.mp picked)]
      · simp only [if_neg picked, if_neg (mt agree.mpr picked)]
    | _ => rfl
  | _ => rfl

theorem savedThroughNone {pick : Nat → Prop} {calls : List (Call s)} (answers : List (Answer s))
    (none : ∀ handle fresh r, Call.save handle fresh r ∈ calls → ¬ pick handle) :
    savedThrough pick calls answers = [] := by
  unfold savedThrough
  rw [List.filterMap_eq_nil_iff]
  rintro ⟨c, a⟩ member
  have called := (List.of_mem_zip member).1
  cases c with
  | save handle fresh r =>
    cases a with
    | saved row => exact if_neg (none handle fresh r called)
    | _ => rfl
  | _ => rfl

theorem originsAppend (calls : List (Call s)) (c : Call s) :
    origins (calls ++ [c]) = origins calls ++ origins [c] := List.filterMap_append

theorem kinAppend {calls : List (Call s)} (c : Call s) {a b : Nat} (kin : Kin calls a b) :
    Kin (calls ++ [c]) a b := by
  refine Relation.EqvGen.mono (fun a b edge => ?_) a b kin
  rw [originsAppend, List.getElem?_append_left (List.getElem?_eq_some_iff.mp edge).1]
  exact edge

structure Explains (calls : List (Call s)) (answers : List (Answer s)) (h : Handles s) : Prop where
  length : answers.length = calls.length
  counted : h.targets.length = (origins calls).length
  placed : ∀ (a t : Nat), h.targets[a]? = some t → t < h.tables.length
  within : ∀ handle fresh r, Call.save handle fresh r ∈ calls → handle < h.targets.length
  edges : ∀ a b : Nat, (origins calls)[a]? = some (some b) → h.targets[a]? = h.targets[b]?
  kin : ∀ (a b t : Nat), h.targets[a]? = some t → h.targets[b]? = some t → Kin calls a b
  tables : ∀ t : Nat, t < h.tables.length → h.tables[t]? =
    some (Ordered.ofList (savedThrough (fun a => h.targets[a]? = some t) calls answers))

theorem explainsNone : Explains ([] : List (Call s)) [] Handles.none where
  length := rfl
  counted := rfl
  placed a t found := by simp [none] at found
  within handle fresh r called := by simp at called
  edges a b edge := by simp [origins] at edge
  kin a b t found := by simp [none] at found
  tables t inside := by simp [none] at inside

theorem Explains.pickOpened {calls : List (Call s)} {answers : List (Answer s)} {h : Handles s}
    (known : Explains calls answers h) (target t : Nat) :
    savedThrough (fun a => (h.targets ++ [target])[a]? = some t) calls answers =
      savedThrough (fun a => h.targets[a]? = some t) calls answers := by
  apply savedThroughCongr
  intro handle fresh r called
  rw [List.getElem?_append_left (known.within handle fresh r called)]

theorem Explains.edgeOpened {calls : List (Call s)} {answers : List (Answer s)} {h : Handles s}
    (known : Explains calls answers h) (target : Nat) {a b : Nat}
    (edge : (origins calls)[a]? = some (some b)) :
    (h.targets ++ [target])[a]? = (h.targets ++ [target])[b]? := by
  have inside : a < h.targets.length := known.counted ▸ (List.getElem?_eq_some_iff.mp edge).1
  have same := known.edges a b edge
  have found : b < h.targets.length := by
    by_contra outside
    rw [List.getElem?_eq_none (Nat.le_of_not_lt outside), List.getElem?_eq_getElem inside] at same
    contradiction
  rw [List.getElem?_append_left inside, List.getElem?_append_left found, same]

theorem openedTarget {targets : List Nat} {target a t : Nat}
    (found : (targets ++ [target])[a]? = some t) :
    targets[a]? = some t ∨ (a = targets.length ∧ t = target) := by
  rcases Nat.lt_or_ge a targets.length with inside | outside
  · rw [List.getElem?_append_left inside] at found
    exact Or.inl found
  · rw [List.getElem?_append_right outside] at found
    obtain ⟨bound, same⟩ := List.getElem?_eq_some_iff.mp found
    have last : a = targets.length := by simp at bound; omega
    subst last
    exact Or.inr ⟨rfl, by simpa using same.symm⟩

theorem explainsCreate {calls : List (Call s)} {answers : List (Answer s)} {h : Handles s}
    (known : Explains calls answers h) :
    Explains (calls ++ [.create]) (answers ++ [(h.step .create).1]) (h.step .create).2 where
  length := by simp [known.length]
  counted := by
    rw [originsAppend, List.length_append, ← known.counted]
    exact List.length_append
  placed a t found := by
    change t < (h.tables ++ [Ordered.empty]).length
    rw [List.length_append]
    rcases openedTarget found with old | ⟨_, rfl⟩
    · exact Nat.lt_succ_of_lt (known.placed a t old)
    · exact Nat.lt_succ_self _
  within handle fresh r called := by
    have before : Call.save handle fresh r ∈ calls := by simpa using called
    have inside := known.within handle fresh r before
    simp [step, create]
    omega
  edges a b edge := by
    rw [originsAppend] at edge
    refine known.edgeOpened h.tables.length ?_
    rcases Nat.lt_or_ge a (origins calls).length with inside | outside
    · rwa [List.getElem?_append_left inside] at edge
    · rw [List.getElem?_append_right outside] at edge
      simp [origins, List.getElem?_singleton] at edge
  kin a b t left right := by
    rcases openedTarget left with old | ⟨rfl, fresh⟩
    · have bound := known.placed a t old
      rcases openedTarget right with old' | ⟨_, fresh⟩
      · exact kinAppend .create (known.kin a b t old old')
      · omega
    · rcases openedTarget right with old' | ⟨rfl, _⟩
      · have bound := known.placed b t old'
        omega
      · exact .refl _
  tables t inside := by
    change (h.tables ++ [Ordered.empty])[t]? = some (Ordered.ofList (savedThrough
      (fun a => (h.targets ++ [h.tables.length])[a]? = some t) (calls ++ [.create]) _))
    rw [savedThroughAppend _ known.length, known.pickOpened, savedThroughNone [_] (by simp),
      List.append_nil]
    rcases Nat.lt_or_ge t h.tables.length with old | new
    · rw [List.getElem?_append_left old, known.tables t old]
    · have last : t = h.tables.length := by simp [step, create] at inside; omega
      subst last
      rw [savedThroughNone answers fun handle fresh r called found =>
        Nat.lt_irrefl _ (known.placed handle _ found)]
      simp [Ordered.ofList]

theorem explainsClone {calls : List (Call s)} {answers : List (Answer s)} {h : Handles s}
    (known : Explains calls answers h) {handle : Nat} (opened : handle < h.targets.length) :
    Explains (calls ++ [.clone handle]) (answers ++ [(h.step (.clone handle)).1])
      (h.step (.clone handle)).2 := by
  have target : h.targets[handle]? = some h.targets[handle] := List.getElem?_eq_getElem opened
  have shared : h.clone handle = ⟨h.tables, h.targets ++ [h.targets[handle]]⟩ := by
    simp [clone, List.getD, target]
  have origin : origins (calls ++ [.clone handle]) = origins calls ++ [some handle] :=
    originsAppend calls (.clone handle)
  have cloned : Kin (calls ++ [.clone handle]) h.targets.length handle := by
    refine .rel _ _ ?_
    rw [origin, known.counted]
    simp
  change Explains _ _ (h.clone handle)
  rw [shared]
  exact {
    length := by simp [known.length]
    counted := by simp [origin, known.counted]
    placed := fun a t found => by
      rcases openedTarget found with old | ⟨_, rfl⟩
      · exact known.placed a t old
      · exact known.placed handle _ target
    within := fun other fresh r called => by
      have before : Call.save other fresh r ∈ calls := by simpa using called
      have inside := known.within other fresh r before
      simp
      omega
    edges := fun a b edge => by
      rw [origin] at edge
      rcases Nat.lt_or_ge a (origins calls).length with inside | outside
      · rw [List.getElem?_append_left inside] at edge
        exact known.edgeOpened _ edge
      · rw [List.getElem?_append_right outside] at edge
        obtain ⟨bound, same⟩ := List.getElem?_eq_some_iff.mp edge
        have last : a = h.targets.length := by simp at bound; rw [known.counted]; omega
        have source : handle = b := by simpa using same
        subst last source
        rw [List.getElem?_append_left opened, target]
        simp
    kin := fun a b t left right => by
      rcases openedTarget left with old | ⟨rfl, same⟩
      · rcases openedTarget right with old' | ⟨rfl, same⟩
        · exact kinAppend _ (known.kin a b t old old')
        · exact (kinAppend _ (known.kin a handle t old (same ▸ target))).trans _ _ _
            (cloned.symm _ _)
      · rcases openedTarget right with old' | ⟨rfl, _⟩
        · exact cloned.trans _ _ _ (kinAppend _ (known.kin handle b t (same ▸ target) old'))
        · exact .refl _
    tables := fun t inside => by
      rw [savedThroughAppend _ known.length, known.pickOpened, savedThroughNone [_] (by simp),
        List.append_nil]
      exact known.tables t inside }

theorem tableOpen {h : Handles s} {handle t : Nat} {table : Table s}
    (target : h.targets[handle]? = some t) (found : h.tables[t]? = some table) :
    h.table handle = table := by
  simp [Handles.table, target, found]

theorem saveOpen {h : Handles s} {handle t : Nat} (target : h.targets[handle]? = some t)
    (fresh : String) (r : Row s) :
    h.save handle fresh r = (((h.table handle).save fresh r).1,
      ⟨h.tables.set t ((h.table handle).save fresh r).2, h.targets⟩) := by
  simp [save, List.getD, target]

open Classical in
theorem savedThroughSave (pick : Nat → Prop) (handle : Nat) (fresh : String) (r : Row s)
    (t : Table s) :
    savedThrough pick [.save handle fresh r] [.saved (t.save fresh r).1] =
      if pick handle then [(Table.keyFor r fresh, (t.save fresh r).1)] else [] := by
  have key := Row.keyKeyed r fresh
  by_cases picked : pick handle <;> simp [savedThrough, picked, Table.savedRow, key, Table.keyFor]

theorem explainsSave {calls : List (Call s)} {answers : List (Answer s)} {h : Handles s}
    (known : Explains calls answers h) {handle : Nat} (opened : handle < h.targets.length)
    (fresh : String) (r : Row s) :
    Explains (calls ++ [.save handle fresh r]) (answers ++ [(h.step (.save handle fresh r)).1])
      (h.step (.save handle fresh r)).2 := by
  obtain ⟨t, target⟩ : ∃ t, h.targets[handle]? = some t := ⟨_, List.getElem?_eq_getElem opened⟩
  have inside := known.placed handle t target
  have table := tableOpen target (known.tables t inside)
  have origin : origins (calls ++ [.save handle fresh r]) = origins calls := by
    rw [originsAppend]
    simp [origins]
  simp only [step, saveOpen target]
  exact {
    length := by simp [known.length]
    counted := by rw [origin]; exact known.counted
    placed := fun a u found => by
      rw [List.length_set]
      exact known.placed a u found
    within := fun other fresh' r' called => by
      rcases List.mem_append.mp called with before | last
      · exact known.within other fresh' r' before
      · cases List.mem_singleton.mp last
        exact opened
    edges := fun a b edge => known.edges a b (origin ▸ edge)
    kin := fun a b u left right => kinAppend _ (known.kin a b u left right)
    tables := fun u bound => by
      rw [List.length_set] at bound
      rw [savedThroughAppend _ known.length, savedThroughSave, Table.savedTable]
      by_cases same : u = t
      · subst same
        rw [if_pos target, Ordered.ofListSnoc, List.getElem?_set_self inside, table]
        rfl
      · have apart : h.targets[handle]? ≠ some u := by
          rw [target]
          simpa using Ne.symm same
        rw [if_neg apart, List.append_nil, List.getElem?_set_ne (Ne.symm same)]
        exact known.tables u bound }

theorem explainsList {calls : List (Call s)} {answers : List (Answer s)} {h : Handles s}
    (known : Explains calls answers h) (handle : Nat) :
    Explains (calls ++ [.list handle]) (answers ++ [(h.step (.list handle)).1])
      (h.step (.list handle)).2 := by
  have origin : origins (calls ++ [.list handle]) = origins calls := by
    rw [originsAppend]
    simp [origins]
  exact {
    length := by simp [known.length]
    counted := by rw [origin]; exact known.counted
    placed := known.placed
    within := fun other fresh r called => known.within other fresh r (by simpa using called)
    edges := fun a b edge => known.edges a b (origin ▸ edge)
    kin := fun a b t left right => kinAppend _ (known.kin a b t left right)
    tables := fun t inside => by
      rw [savedThroughAppend _ known.length, savedThroughNone [_] (by simp), List.append_nil]
      exact known.tables t inside }

theorem explainsRun {before calls : List (Call s)} {answers : List (Answer s)} {h : Handles s}
    (known : Explains before answers h) (opened : Open h.targets.length calls) :
    Explains (before ++ calls) (answers ++ (h.run calls).1) (h.run calls).2 := by
  induction calls generalizing before answers h with
  | nil => simpa [run] using known
  | cons c rest ih =>
    rw [List.append_cons before, run, List.append_cons answers]
    cases c with
    | create =>
      refine ih (explainsCreate known) ?_
      simpa [Open, step, create] using opened
    | clone handle =>
      refine ih (explainsClone known opened.1) ?_
      simpa [step, clone] using opened.2
    | save handle fresh r =>
      refine ih (explainsSave known opened.1 fresh r) ?_
      simpa [step, save] using opened.2
    | list handle => exact ih (explainsList known handle) opened.2

theorem Explains.sameTable {calls : List (Call s)} {answers : List (Answer s)} {h : Handles s}
    (known : Explains calls answers h) {a b : Nat} (left : a < h.targets.length) :
    Kin calls a b ↔ h.targets[a]? = h.targets[b]? := by
  constructor
  · intro kin
    clear left
    induction kin with
    | rel a b edge => exact known.edges a b edge
    | refl a => rfl
    | symm a b _ ih => exact ih.symm
    | trans a b c _ _ first second => exact first.trans second
  · intro same
    have found := List.getElem?_eq_getElem left
    exact known.kin a b _ found (same ▸ found)

/-- The law of an open handle through whose family `saved` was saved. `table` says that keys are
distinct and in step with the rows, `lists` what is listed, and `saves` what a save does. -/
structure FamilyLaw (handle : Nat) (h : Handles s) (saved : List (String × Row s)) : Prop where
  table : (h.table handle).keys.Nodup ∧ (h.table handle).Keyed
  lists : ∃ rows, h.step (.list handle) = (.listed rows, h) ∧
    rows.map some = (saved.map Prod.fst).eraseDups.map fun key => saved.reverse.lookup key
  saves : ∀ fresh r, ∃ row next, h.step (.save handle fresh r) = (.saved row, next) ∧
    Table.Saves (h.table handle) fresh r row (next.table handle)

theorem keyedSavedThrough (pick : Nat → Prop) (calls : List (Call s)) (answers : List (Answer s)) :
    ∀ e ∈ savedThrough pick calls answers, e.2.key? = some e.1 := by
  intro e member
  obtain ⟨⟨c, a⟩, _, made⟩ := List.mem_filterMap.mp member
  split at made
  · split at made
    · obtain ⟨key, has, rfl⟩ := Option.map_eq_some_iff.mp made
      exact has
    · contradiction
  · contradiction

theorem Explains.law {calls : List (Call s)} {answers : List (Answer s)} {h : Handles s}
    (known : Explains calls answers h) {handle : Nat} (opened : handle < h.targets.length) :
    FamilyLaw handle h (savedThrough (fun other => Kin calls other handle) calls answers) := by
  obtain ⟨t, target⟩ : ∃ t, h.targets[handle]? = some t := ⟨_, List.getElem?_eq_getElem opened⟩
  have inside := known.placed handle t target
  have family : savedThrough (fun other => h.targets[other]? = some t) calls answers =
      savedThrough (fun other => Kin calls other handle) calls answers := by
    apply savedThroughCongr
    intro other fresh r called
    rw [known.sameTable (known.within other fresh r called), target]
  have table := tableOpen target (known.tables t inside)
  rw [family] at table
  refine ⟨⟨(h.table handle).distinct, fun e member => ?_⟩, ⟨_, rfl, ?_⟩, fun fresh r => ?_⟩
  · rw [table] at member
    exact keyedSavedThrough _ calls answers e (Ordered.memberOfList member)
  · rw [rows, table]
    exact Ordered.valuesOfList _
  · refine ⟨_, _, rfl, ?_⟩
    have next : (h.save handle fresh r).2.table handle = ((h.table handle).save fresh r).2 := by
      rw [saveOpen target]
      exact tableOpen target (List.getElem?_set_self inside)
    rw [next, saveOpen target]
    exact Table.saves (h.table handle) fresh r

/-- After any calls on handles of any of the eight kinds of row, each open handle obeys the
law of its family. -/
theorem familyRows (e : Entity) (calls : List (Call e.schema)) (opened : Open 0 calls)
    (handle : Nat) (inside : handle < (origins calls).length) :
    FamilyLaw handle (Handles.none.run calls).2 (savedThrough (fun other => Kin calls other handle)
      calls (Handles.none.run calls).1) := by
  have known := explainsRun explainsNone opened
  rw [List.nil_append, List.nil_append] at known
  exact known.law (known.counted ▸ inside)

def supplierCalls : List (Call Entity.supplier.schema) :=
  let named := fun (key : Option String) (name : String) =>
    Row.ofFields Entity.supplier.schema [("contact_email", key), ("supplier_name", some name)]
  [.create, .create, .clone 0, .save 0 "k1" (named (some "a@x") "A"), .save 1 "k2" (named .none "B"),
    .save 2 "k3" (named .none "C"), .save 2 "k4" (named (some "a@x") "D"), .list 0]

theorem familyRowsSuppliers : Open 0 supplierCalls ∧ 2 < (origins supplierCalls).length ∧
    FamilyLaw 2 (Handles.none.run supplierCalls).2 (savedThrough
      (fun other => Kin supplierCalls other 2) supplierCalls (Handles.none.run supplierCalls).1) :=
  have opened : Open 0 supplierCalls := by simp [Open, supplierCalls]
  have inside : 2 < (origins supplierCalls).length := by decide
  ⟨opened, inside, familyRows .supplier supplierCalls opened 2 inside⟩

end Handles

end Storefront
