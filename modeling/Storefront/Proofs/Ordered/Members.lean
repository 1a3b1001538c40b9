import Mathlib.Data.Finset.Card
import Storefront.Proofs.Ordered

/-! Maps that follow a list of members, in which names may be repeated: each name stands once, where it came
first, with the value that came last. There is one such map, and inserting the members one by one makes it. -/
namespace Storefront.Ordered

variable {α : Type} {members : List (String × α)} {m : Ordered α}

abbrev names (members : List (String × α)) : List String := members.map Prod.fst

structure Follows (members : List (String × α)) (m : Ordered α) : Prop where
  named : ∀ key, key ∈ m.keys ↔ key ∈ names members
  order : m.keys.Pairwise fun a b => (names members).idxOf a < (names members).idxOf b
  last : ∀ before key value after, members = before ++ (key, value) :: after → key ∉ names after →
    m.get? key = some value

theorem namesSnoc (members : List (String × α)) (e : String × α) : names (members ++ [e]) = names members ++ [e.1] :=
  List.map_append

theorem namedSnoc {members : List (String × α)} {e : String × α} {key : String} :
    key ∈ names (members ++ [e]) ↔ key ∈ names members ∨ key = e.1 := by
  rw [namesSnoc, List.mem_append, List.mem_singleton]

theorem followsNone : Follows [] (empty : Ordered α) where
  named key := Iff.rfl
  order := .nil
  last before key value after given _ := by simp at given

theorem followsInsert (follows : Follows members m) (key : String) (value : α) :
    Follows (members ++ [(key, value)]) (m.insert key value) where
  named other := by
    rw [namedSnoc, ← follows.named, keysInsert]
    by_cases present : key ∈ m.keys
    · rw [if_pos present]
      exact ⟨Or.inl, fun here => here.elim id fun same => same ▸ present⟩
    · rw [if_neg present, List.mem_append, List.mem_singleton]
  order := by
    -- A name that is there keeps its first place, whatever comes after it.
    have kept : m.keys.Pairwise fun a b => (names members ++ [key]).idxOf a < (names members ++ [key]).idxOf b := by
      refine follows.order.imp_of_mem fun {a b} first second before => ?_
      rwa [List.idxOf_append_of_mem ((follows.named a).mp first), List.idxOf_append_of_mem ((follows.named b).mp second)]
    rw [namesSnoc, keysInsert]
    split
    · exact kept
    · rename_i absent
      refine List.pairwise_append.mpr ⟨kept, List.pairwise_singleton _ _, fun a present b new => ?_⟩
      have earlier := (follows.named a).mp present
      rw [List.mem_singleton.mp new, List.idxOf_append_of_mem earlier,
        List.idxOf_append_of_notMem (mt (follows.named key).mpr absent)]
      exact Nat.lt_add_right _ (List.idxOf_lt_length_of_mem earlier)
  last before name found after given later := by
    rw [getInsert]
    rcases List.eq_nil_or_concat after with rfl | ⟨rest, e, rfl⟩
    · obtain ⟨_, same⟩ := List.append_inj' given rfl
      cases same
      exact if_pos rfl
    · rw [List.concat_eq_append] at given later
      rw [← List.cons_append, ← List.append_assoc] at given
      obtain ⟨earlier, same⟩ := List.append_inj' given rfl
      cases same
      obtain ⟨absent, other⟩ := not_or.mp (mt namedSnoc.mpr later)
      rw [if_neg other]
      exact follows.last before name found rest earlier absent

theorem insertedFollows (members : List (String × α)) : Follows members (empty.insertAll members) := by
  induction members using List.reverseRecOn with
  | nil => exact followsNone
  | append_singleton rest e ih =>
    rw [insertAllAppend]
    exact followsInsert ih e.1 e.2

theorem lastGiven {key : String} (given : key ∈ names members) :
    ∃ before value after, members = before ++ (key, value) :: after ∧ key ∉ names after := by
  induction members using List.reverseRecOn with
  | nil => contradiction
  | append_singleton rest e ih =>
    by_cases here : key = e.1
    · exact ⟨rest, e.2, [], by rw [here], by simp⟩
    · obtain ⟨before, value, after, rfl, absent⟩ := ih ((namedSnoc.mp given).resolve_right here)
      refine ⟨before, value, after ++ [e], by simp, ?_⟩
      exact mt namedSnoc.mp (not_or.mpr ⟨absent, here⟩)

theorem followsUnique {a b : Ordered α} (left : Follows members a) (right : Follows members b) : a = b := by
  have alike (key : String) : key ∈ a.keys ↔ key ∈ b.keys := (left.named key).trans (right.named key).symm
  have perm : a.keys.Perm b.keys := (List.perm_ext_iff_of_nodup a.distinct b.distinct).mpr alike
  have order : a.keys = b.keys := by
    refine perm.eq_of_pairwise (fun c d _ _ before after => ?_) left.order right.order
    exact absurd before (Nat.lt_asymm after)
  refine extRead order fun key present => ?_
  obtain ⟨before, value, after, given, later⟩ := lastGiven ((left.named key).mp present)
  rw [left.last before key value after given later, right.last before key value after given later]

theorem Follows.size (follows : Follows members m) : m.size = (names members).toFinset.card := by
  have distinct : m.keys.Nodup := m.distinct
  rw [← List.toFinset.ext follows.named, List.toFinset_card_of_nodup distinct]
  exact (List.length_map _).symm

theorem Follows.visits (follows : Follows members m) (key : String) :
    (m.entries.map Prod.fst).count key = if key ∈ names members then 1 else 0 := by
  rw [List.Nodup.count m.distinct]
  exact if_congr (follows.named key) rfl rfl

theorem Follows.absent (follows : Follows members m) {key : String} (unnamed : key ∉ names members) :
    m.get? key = none := (getAbsent m key).mpr (mt (follows.named key).mp unnamed)

/-- Another map of the same names, made from the entries with their values replaced. -/
def mapped {β : Type} (f : α → β) (m : Ordered α) : Ordered β := ofList (m.entries.map fun e => (e.1, f e.2))

theorem mappedEntries {β : Type} (f : α → β) (m : Ordered α) :
    (m.mapped f).entries = m.entries.map fun e => (e.1, f e.2) := by
  have same : (m.entries.map fun e => (e.1, f e.2)).map Prod.fst = m.keys := List.map_map
  refine insertAllDistinct empty _ ?_
  rw [same]
  exact m.distinct

theorem mappedKeys {β : Type} (f : α → β) (m : Ordered α) : (m.mapped f).keys = m.keys := by
  rw [keys, mappedEntries, List.map_map]
  rfl

theorem getMapped {β : Type} (f : α → β) {key : String} {value : α} (read : m.get? key = some value) :
    (m.mapped f).get? key = some (f value) := by
  rw [getMember, mappedEntries]
  exact List.mem_map.mpr ⟨(key, value), (getMember m key value).mp read, rfl⟩

theorem followsMapped {β : Type} (f : α → β) (follows : Follows members m) :
    Follows (members.map fun e => (e.1, f e.2)) (m.mapped f) := by
  have same : names (members.map fun e => (e.1, f e.2)) = names members := List.map_map
  refine ⟨?_, ?_, fun before key value after given later => ?_⟩
  · rw [same, mappedKeys]
    exact follows.named
  · rw [same, mappedKeys]
    exact follows.order
  · obtain ⟨front, back, rfl, rfl, split⟩ := List.map_eq_append_iff.mp given
    obtain ⟨⟨name, found⟩, rest, rfl, here, rfl⟩ := List.map_eq_cons_iff.mp split
    cases here
    refine getMapped f (follows.last front name found rest rfl ?_)
    rwa [names, List.map_map] at later

end Storefront.Ordered
