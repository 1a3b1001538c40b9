/-! Maps from texts that remember the order in which their keys first came. Writing a key
again keeps its place and replaces its value, so the keys stay distinct. -/
namespace Storefront

namespace Ordered

def put (key : String) (value : α) : List (String × α) → List (String × α)
  | [] => [(key, value)]
  | (k, v) :: rest => if k = key then (k, value) :: rest else (k, v) :: put key value rest

theorem keysPut (key : String) (value : α) (entries : List (String × α)) :
    (put key value entries).map Prod.fst =
      if key ∈ entries.map Prod.fst then entries.map Prod.fst
      else entries.map Prod.fst ++ [key] := by
  induction entries with
  | nil => simp [put]
  | cons e rest ih =>
    obtain ⟨k, v⟩ := e
    by_cases h : k = key
    · simp [put, h]
    · have h' : ¬ key = k := fun e => h e.symm
      simp only [put, h, if_false, List.map_cons, ih, List.mem_cons, h', false_or]
      split <;> simp

theorem nodupPut {entries : List (String × α)} (distinct : (entries.map Prod.fst).Nodup)
    (key : String) (value : α) : ((put key value entries).map Prod.fst).Nodup := by
  rw [keysPut]
  split
  · exact distinct
  · rename_i absent
    rw [List.nodup_append]
    refine ⟨distinct, by simp, ?_⟩
    rintro a ha b hb rfl
    exact absent ((List.mem_singleton.1 hb) ▸ ha)

end Ordered

structure Ordered (α : Type) where
  entries : List (String × α)
  distinct : (entries.map Prod.fst).Nodup
  deriving DecidableEq

namespace Ordered

def empty : Ordered α := ⟨[], by simp⟩

instance : Inhabited (Ordered α) := ⟨empty⟩

def insert (m : Ordered α) (key : String) (value : α) : Ordered α :=
  ⟨put key value m.entries, nodupPut m.distinct key value⟩

def ofList (members : List (String × α)) : Ordered α :=
  members.foldl (fun m e => m.insert e.1 e.2) empty

def get? (m : Ordered α) (key : String) : Option α := m.entries.lookup key

def keys (m : Ordered α) : List String := m.entries.map Prod.fst

def values (m : Ordered α) : List α := m.entries.map Prod.snd

def size (m : Ordered α) : Nat := m.entries.length

def isEmpty (m : Ordered α) : Bool := m.entries.isEmpty

end Ordered

end Storefront
