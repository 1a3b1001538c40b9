import Mathlib.Data.List.Induction
import Mathlib.Data.List.Nodup
import Storefront.Ordered

/-! What is in an ordered map after writing to it. The last value written under a key is the
one that is read, and the keys stand in the order in which they were first written. -/
namespace Storefront.Ordered

variable {α β : Type}

theorem lookupPut (key : String) (value : α) (entries : List (String × α)) (name : String) :
    (put key value entries).lookup name = if name = key then some value else entries.lookup name := by
  induction entries with
  | nil =>
    by_cases h : name = key
    · simp [put, h]
    · have other : (name == key) = false := by simpa using h
      simp [put, List.lookup_cons, h, other]
  | cons e rest ih =>
    obtain ⟨k, v⟩ := e
    by_cases same : k = key
    · subst same
      by_cases h : name = k
      · simp [put, h]
      · have other : (name == k) = false := by simpa using h
        simp [put, List.lookup_cons, h, other]
    · by_cases h : name = k
      · subst h
        simp [put, same]
      · have other : (name == k) = false := by simpa using h
        simp [put, same, List.lookup_cons, other, ih]

@[simp] theorem getInsert (m : Ordered α) (key : String) (value : α) (name : String) :
    (m.insert key value).get? name = if name = key then some value else m.get? name :=
  lookupPut key value m.entries name

@[simp] theorem getEmpty (name : String) : (empty : Ordered α).get? name = none := rfl

theorem keysInsert (m : Ordered α) (key : String) (value : α) :
    (m.insert key value).keys = if key ∈ m.keys then m.keys else m.keys ++ [key] :=
  keysPut key value m.entries

theorem lookupMember {entries : List (String × α)} (distinct : (entries.map Prod.fst).Nodup)
    (key : String) (value : α) : entries.lookup key = some value ↔ (key, value) ∈ entries := by
  induction entries with
  | nil => simp
  | cons e rest ih =>
    obtain ⟨k, v⟩ := e
    obtain ⟨fresh, distinct⟩ := List.nodup_cons.mp distinct
    by_cases h : key = k
    · subst h
      have absent : (key, value) ∉ rest := fun member => fresh (List.mem_map.mpr ⟨_, member, rfl⟩)
      simp [absent, eq_comm]
    · have other : (key == k) = false := by simpa using h
      simp [List.lookup_cons, other, ih distinct, h]

theorem lookupAbsent {entries : List (String × α)} {key : String} (absent : key ∉ entries.map Prod.fst) :
    entries.lookup key = none := by
  rw [List.lookup_eq_none_iff]
  intro e member
  simpa using fun same : key = e.1 => absent (same ▸ List.mem_map_of_mem member)

theorem getMember (m : Ordered α) (key : String) (value : α) :
    m.get? key = some value ↔ (key, value) ∈ m.entries := lookupMember m.distinct key value

theorem getKeys (m : Ordered α) (key : String) : (m.get? key).isSome ↔ key ∈ m.keys := by
  rw [Option.isSome_iff_exists]
  simp only [getMember, keys, List.mem_map, Prod.exists, exists_and_right, exists_eq_right]

theorem getAbsent (m : Ordered α) (key : String) : m.get? key = none ↔ key ∉ m.keys := by
  rw [← getKeys]
  simp

theorem extEntries {a b : Ordered α} (same : a.entries = b.entries) : a = b := by
  cases a; cases b; simp_all

theorem entriesRead (m : Ordered α) :
    m.entries.map (fun e => (e.1, some e.2)) = m.keys.map fun k => (k, m.get? k) := by
  simp only [keys, List.map_map]
  apply List.map_congr_left
  intro e member
  have read : m.get? e.1 = some e.2 := (getMember m e.1 e.2).mpr member
  simp [read]

theorem valuesRead (m : Ordered α) : m.values.map some = m.keys.map m.get? := by
  have h := congrArg (List.map Prod.snd) (entriesRead m)
  simpa [values, Function.comp_def] using h

theorem extRead {a b : Ordered α} (order : a.keys = b.keys) (read : ∀ k ∈ a.keys, a.get? k = b.get? k) :
    a = b := by
  apply extEntries
  have pairs : a.entries.map (fun e => (e.1, some e.2)) = b.entries.map fun e => (e.1, some e.2) := by
    rw [entriesRead, entriesRead, ← order]
    exact List.map_congr_left fun k member => by rw [read k member]
  refine List.map_injective_iff.mpr ?_ pairs
  rintro ⟨k, v⟩ ⟨k', v'⟩ same
  simpa using same

theorem insertAbsent (m : Ordered α) (key : String) (value : α) (absent : key ∉ m.keys) :
    (m.insert key value).entries = m.entries ++ [(key, value)] := by
  obtain ⟨entries, distinct⟩ := m
  simp only [keys] at absent
  change put key value entries = _
  induction entries with
  | nil => rfl
  | cons e rest ih =>
    simp only [List.map_cons, List.mem_cons, not_or] at absent
    have later := ih (List.nodup_cons.mp distinct).2 absent.2
    simp [put, Ne.symm absent.1, later]

theorem insertPresent (m : Ordered α) (key : String) (value : α) (present : key ∈ m.keys) :
    (m.insert key value).entries = m.entries.map fun e => if e.1 = key then (key, value) else e := by
  obtain ⟨entries, distinct⟩ := m
  simp only [keys] at present
  change put key value entries = _
  induction entries with
  | nil => contradiction
  | cons e rest ih =>
    obtain ⟨k, v⟩ := e
    obtain ⟨fresh, others⟩ := List.nodup_cons.mp distinct
    by_cases same : k = key
    · subst same
      have kept : rest.map (fun e => if e.1 = k then (k, value) else e) = rest := by
        have same : rest.map (fun e => if e.1 = k then (k, value) else e) = rest.map id := by
          refine List.map_congr_left fun e member => if_neg fun here => fresh ?_
          exact List.mem_map.mpr ⟨e, member, here⟩
        rw [same, List.map_id]
      simp [put, kept]
    · have later : key ∈ rest.map Prod.fst := by
        rcases List.mem_cons.mp present with here | later
        · exact absurd here.symm same
        · exact later
      simp [put, same, ih others later]

theorem memberInsert {m : Ordered α} {key : String} {value : α} {e : String × α}
    (member : e ∈ (m.insert key value).entries) :
    e = (key, value) ∨ (e.1 ≠ key ∧ e ∈ m.entries) := by
  have read := (getMember _ e.1 e.2).mpr member
  rw [getInsert] at read
  split at read
  · rename_i same
    cases Option.some.inj read
    exact Or.inl (Prod.ext same rfl)
  · rename_i other
    exact Or.inr ⟨other, (getMember _ _ _).mp read⟩

theorem insertAgain (m : Ordered α) (key : String) (value last : α) :
    (m.insert key value).insert key last = m.insert key last := by
  have present : key ∈ (m.insert key value).keys := (getKeys _ key).mp (by rw [getInsert, if_pos rfl]; rfl)
  refine extRead ?_ fun k _ => ?_
  · rw [keysInsert, if_pos present, keysInsert, keysInsert]
  · rw [getInsert, getInsert, getInsert]
    split <;> rfl

/-! Writing members one after the other. -/

def insertAll (m : Ordered α) (members : List (String × α)) : Ordered α :=
  members.foldl (fun m e => m.insert e.1 e.2) m

theorem insertAllAppend (m : Ordered α) (first second : List (String × α)) :
    m.insertAll (first ++ second) = (m.insertAll first).insertAll second :=
  List.foldl_append

theorem insertAllDistinct (m : Ordered α) (members : List (String × α))
    (distinct : (m.keys ++ members.map Prod.fst).Nodup) :
    (m.insertAll members).entries = m.entries ++ members := by
  induction members generalizing m with
  | nil => simp [insertAll]
  | cons e rest ih =>
    obtain ⟨apart, _, others⟩ := List.nodup_append.mp distinct
    have absent : e.1 ∉ m.keys := fun present => others _ present e.1 (by simp) rfl
    have keys : (m.insert e.1 e.2).keys = m.keys ++ [e.1] := by rw [keysInsert, if_neg absent]
    change ((m.insert e.1 e.2).insertAll rest).entries = _
    rw [ih _ (by rw [keys, List.append_assoc]; exact distinct), insertAbsent m e.1 e.2 absent, List.append_assoc]
    rfl

theorem ofListEntries (m : Ordered α) : ofList m.entries = m :=
  extEntries (insertAllDistinct empty m.entries m.distinct)

theorem ofListSnoc (members : List (String × α)) (e : String × α) :
    ofList (members ++ [e]) = (ofList members).insert e.1 e.2 :=
  insertAllAppend empty members [e]

theorem putApart {key : String} (value : α) {front : List (String × α)} (apart : key ∉ front.map Prod.fst)
    (back : List (String × α)) : put key value (front ++ back) = front ++ put key value back := by
  induction front with
  | nil => rfl
  | cons e rest ih =>
    simp only [List.map_cons, List.mem_cons, not_or] at apart
    obtain ⟨other, apart⟩ := apart
    rw [List.cons_append, put, if_neg (Ne.symm other), ih apart, List.cons_append]

theorem insertAllApart (m : Ordered α) {members : List (String × α)} (apart : ∀ e ∈ members, e.1 ∉ m.keys) :
    (m.insertAll members).entries = m.entries ++ (ofList members).entries := by
  induction members using List.reverseRecOn with
  | nil => exact (List.append_nil _).symm
  | append_singleton rest e ih =>
    have before := ih fun d member => apart d (List.mem_append_left _ member)
    have last : e.1 ∉ m.keys := apart e (List.mem_append_right _ (List.mem_singleton_self e))
    rw [insertAllAppend, ofListSnoc]
    change put e.1 e.2 (m.insertAll rest).entries = _
    rw [before, putApart e.2 last]
    rfl

theorem lookupReverseCons (e : String × α) (rest : List (String × α)) (name : String) :
    (e :: rest).reverse.lookup name = (rest.reverse.lookup name).or (if name = e.1 then some e.2 else none) := by
  obtain ⟨k, v⟩ := e
  rw [List.reverse_cons, List.lookup_append, List.lookup_cons]
  by_cases same : name = k
  · simp [same]
  · have other : (name == k) = false := by simpa using same
    simp [same, other]

theorem getInsertAll (m : Ordered α) (members : List (String × α)) (name : String) :
    (m.insertAll members).get? name = (members.reverse.lookup name).or (m.get? name) := by
  induction members generalizing m with
  | nil => rfl
  | cons e rest ih =>
    change ((m.insert e.1 e.2).insertAll rest).get? name = _
    rw [ih, getInsert, lookupReverseCons, Option.or_assoc]
    by_cases same : name = e.1 <;> simp [same]

theorem getOfList (members : List (String × α)) (name : String) :
    (ofList members).get? name = members.reverse.lookup name := by
  change (empty.insertAll members).get? name = _
  rw [getInsertAll]
  simp

theorem memberOfList {members : List (String × α)} {e : String × α}
    (member : e ∈ (ofList members).entries) : e ∈ members := by
  have read := (getMember _ e.1 e.2).mpr member
  rw [getOfList, List.lookup_eq_some_iff] at read
  obtain ⟨before, after, split, _⟩ := read
  have found : e ∈ members.reverse := by simp [split]
  exact List.mem_reverse.mp found

theorem eraseDupsSnoc (names : List String) (name : String) :
    (names ++ [name]).eraseDups =
      if name ∈ names then names.eraseDups else names.eraseDups ++ [name] := by
  rw [List.eraseDups_append]
  by_cases h : name ∈ names
  · simp [List.removeAll, h]
  · simp [List.removeAll, h, List.eraseDups_cons]

theorem keysOfList (members : List (String × α)) :
    (ofList members).keys = (members.map Prod.fst).eraseDups := by
  induction members using List.reverseRecOn with
  | nil => rfl
  | append_singleton rest e ih =>
    rw [ofListSnoc, keysInsert, ih, List.map_append, List.map_singleton, eraseDupsSnoc]
    simp only [List.mem_eraseDups]

theorem valuesOfList (members : List (String × α)) :
    (ofList members).values.map some =
      (members.map Prod.fst).eraseDups.map fun name => members.reverse.lookup name := by
  rw [valuesRead, keysOfList]
  exact List.map_congr_left fun name _ => getOfList members name


/-! The part of a map under some of the keys, in the order of the map. -/

def restrict (m : Ordered α) (p : String → Bool) : Ordered α :=
  ⟨m.entries.filter fun e => p e.1, m.distinct.sublist (List.filter_sublist.map _)⟩

theorem getRestrict (m : Ordered α) {p : String → Bool} {key : String} (picked : p key = true) :
    (m.restrict p).get? key = m.get? key := by
  apply Option.ext
  intro value
  rw [getMember, getMember]
  simp [restrict, picked]

theorem filterPut (p : String → Bool) (key : String) (value : α) (entries : List (String × α)) :
    (put key value entries).filter (fun e => p e.1) =
      if p key then put key value (entries.filter fun e => p e.1) else entries.filter fun e => p e.1 := by
  induction entries with
  | nil => cases picked : p key <;> simp [put, picked]
  | cons e rest ih =>
    obtain ⟨k, v⟩ := e
    by_cases same : k = key
    · subst same
      cases picked : p k <;> simp [put, picked]
    · rw [put, if_neg same, List.filter_cons, List.filter_cons, ih]
      cases here : p k <;> cases picked : p key <;> simp [put, same]

theorem restrictInsert (m : Ordered α) (p : String → Bool) (key : String) (value : α) :
    (m.insert key value).restrict p = if p key then (m.restrict p).insert key value else m.restrict p := by
  have entries := filterPut p key value m.entries
  split
  · rename_i picked
    rw [if_pos picked] at entries
    exact extEntries entries
  · rename_i other
    rw [if_neg other] at entries
    exact extEntries entries

theorem restrictInsertAll (m : Ordered α) (p : String → Bool) (members : List (String × α)) :
    (m.insertAll members).restrict p = (m.restrict p).insertAll (members.filter fun e => p e.1) := by
  induction members generalizing m with
  | nil => rfl
  | cons e rest ih =>
    change ((m.insert e.1 e.2).insertAll rest).restrict p = _
    rw [ih, restrictInsert, List.filter_cons]
    split
    · rfl
    · rfl

theorem restrictOfList (p : String → Bool) (members : List (String × α)) :
    (ofList members).restrict p = ofList (members.filter fun e => p e.1) := restrictInsertAll empty p members

end Storefront.Ordered
