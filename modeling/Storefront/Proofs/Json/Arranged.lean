import Mathlib.Data.List.Sort
import Storefront.Proofs.Json.Object
import Storefront.Proofs.Ordered

/-! The arranged form of a value: each object has its names once, with the last value of each, in
ascending order. Values are equal with their objects taken as maps when they have the same one. -/
namespace Storefront.Json

variable {p q : List (String × Json) → Prop}

inductive Throughout (p : List (String × Json) → Prop) : Json → Prop where
  | null : Throughout p .null
  | bool (b : Bool) : Throughout p (.bool b)
  | number (n : Number) : Throughout p (.number n)
  | text (s : String) : Throughout p (.text s)
  | array {items : List Json} (each : ∀ v ∈ items, Throughout p v) : Throughout p (.array items)
  | object {members : List (String × Json)} (here : p members) (each : ∀ e ∈ members, Throughout p e.2) :
      Throughout p (.object members)

theorem Throughout.mono (weaker : ∀ members, p members → q members) {v : Json} (all : Throughout p v) :
    Throughout q v := by
  induction all with
  | null => exact .null
  | bool b => exact .bool b
  | number n => exact .number n
  | text s => exact .text s
  | array _ ih => exact .array ih
  | object here _ ih => exact .object (weaker _ here) ih

theorem Throughout.both {v : Json} (first : Throughout p v) (second : Throughout q v) :
    Throughout (fun members => p members ∧ q members) v := by
  induction first with
  | null => exact .null
  | bool b => exact .bool b
  | number n => exact .number n
  | text s => exact .text s
  | array _ ih =>
    cases second with
    | array each => exact .array fun v member => ih v member (each v member)
  | object here _ ih =>
    cases second with
    | object there each => exact .object ⟨here, there⟩ fun e member => ih e member (each e member)

/-- Induction on a value, with what is known of all of its items or members. -/
theorem induct {motive : Json → Prop} (null : motive .null) (bool : ∀ b, motive (.bool b))
    (number : ∀ n, motive (.number n)) (text : ∀ s, motive (.text s))
    (array : ∀ items, (∀ v ∈ items, motive v) → motive (.array items))
    (object : ∀ members, (∀ e ∈ members, motive e.2) → motive (.object members)) (v : Json) : motive v := by
  refine @Json.rec motive (fun items => ∀ v ∈ items, motive v) (fun members => ∀ e ∈ members, motive e.2)
    (fun e => motive e.2) null bool number text array object ?_ ?_ ?_ ?_ ?_ v
  · simp
  · intro first rest here later
    exact List.forall_mem_cons.mpr ⟨here, later⟩
  · simp
  · intro first rest here later
    exact List.forall_mem_cons.mpr ⟨here, later⟩
  · exact fun _ _ here => here

section Lookup
variable {α β : Type}

theorem lookupCons (e : String × α) (rest : List (String × α)) (name : String) :
    (e :: rest).lookup name = if name = e.1 then some e.2 else rest.lookup name := by
  obtain ⟨n, v⟩ := e
  by_cases same : name = n
  · simp [same]
  · have other : (name == n) = false := by simpa using same
    rw [List.lookup_cons, other, if_neg same]

theorem lookupEach (f : α → β) (members : List (String × α)) (name : String) :
    (members.map fun e => (e.1, f e.2)).lookup name = (members.lookup name).map f := by
  induction members with
  | nil => rfl
  | cons e rest ih =>
    rw [List.map_cons, lookupCons, lookupCons, ih]
    split <;> rfl

theorem lastEach (f : α → β) (members : List (String × α)) (name : String) :
    (members.map fun e => (e.1, f e.2)).reverse.lookup name = (members.reverse.lookup name).map f := by
  rw [← List.map_reverse, lookupEach]

theorem lastMember {members : List (String × α)} {name : String} {v : α}
    (last : members.reverse.lookup name = some v) : (name, v) ∈ members := by
  obtain ⟨before, after, split, _⟩ := List.lookup_eq_some_iff.mp last
  exact List.mem_reverse.mp (by rw [split]; simp)

theorem lastIsSome {members : List (String × α)} {name : String} :
    (members.reverse.lookup name).isSome ↔ name ∈ members.map Prod.fst := by
  induction members with
  | nil => simp
  | cons e rest ih =>
    rw [Ordered.lookupReverseCons, Option.isSome_or, Bool.or_eq_true, ih, List.map_cons, List.mem_cons, or_comm]
    by_cases same : name = e.1 <;> simp [same]

theorem lastMap {γ : Type} {f : α → γ} {g : β → γ} {members : List (String × α)} {others : List (String × β)}
    (names : ∀ name, (members.reverse.lookup name).isSome = (others.reverse.lookup name).isSome)
    (each : ∀ name v w, members.reverse.lookup name = some v → others.reverse.lookup name = some w → f v = g w)
    (name : String) : (members.reverse.lookup name).map f = (others.reverse.lookup name).map g := by
  have both := names name
  cases first : members.reverse.lookup name with
  | none =>
    rw [first] at both
    have second : others.reverse.lookup name = none := by simpa using both.symm
    rw [second, Option.map_none, Option.map_none]
  | some v =>
    rw [first, Option.isSome_some] at both
    obtain ⟨w, second⟩ := Option.isSome_iff_exists.mp both.symm
    rw [second, Option.map_some, Option.map_some, each name v w first second]

theorem zipMap {γ : Type} {f : α → γ} {g : β → γ} {xs : List α} {ys : List β} (count : xs.length = ys.length)
    (each : ∀ e ∈ xs.zip ys, f e.1 = g e.2) : xs.map f = ys.map g := by
  have pairs : List.Forall₂ (fun x y => f x = g y) xs ys :=
    List.forall₂_iff_zip.mpr ⟨count, fun member => each _ member⟩
  rw [← List.forall₂_eq_eq_eq, List.forall₂_map_left_iff, List.forall₂_map_right_iff]
  exact pairs

theorem zipFirst {xs : List α} {ys : List β} {P : α → Prop} (count : xs.length = ys.length)
    (each : ∀ e ∈ xs.zip ys, P e.1) : ∀ x ∈ xs, P x := by
  rw [← List.map_fst_zip (Nat.le_of_eq count)]
  exact List.forall_mem_map.mpr each

end Lookup

/-! Inserting the members of an object, one after the other. -/

theorem lookupInserted (name : String) (v : Json) (members : List (String × Json)) (key : String) :
    (insertMember name v members).lookup key = if key = name then some v else members.lookup key := by
  induction members with
  | nil => rw [insertMember, lookupCons]
  | cons e rest ih =>
    obtain ⟨n, w⟩ := e
    rw [insertMember]
    by_cases same : n = name
    · rw [if_pos same, lookupCons, lookupCons, same]
      split <;> rfl
    · rw [if_neg same]
      split
      · rw [lookupCons]
      · rw [lookupCons, lookupCons, ih]
        by_cases here : key = n
        · rw [if_pos here, if_neg (here ▸ same), if_pos here]
        · rw [if_neg here, if_neg here]

theorem memberInserted {name : String} {v : Json} {members : List (String × Json)} {e : String × Json}
    (member : e ∈ insertMember name v members) : e = (name, v) ∨ e ∈ members := by
  induction members with
  | nil => exact Or.inl (List.mem_singleton.mp member)
  | cons d rest ih =>
    obtain ⟨n, w⟩ := d
    rw [insertMember] at member
    split at member
    · exact (List.mem_cons.mp member).imp_right (List.mem_cons_of_mem _)
    · split at member
      · exact List.mem_cons.mp member
      · rcases List.mem_cons.mp member with here | later
        · exact Or.inr (here ▸ List.mem_cons_self)
        · exact (ih later).imp_right (List.mem_cons_of_mem _)

theorem insertKeepsAscending {members : List (String × Json)} (ascending : Ascending members) (name : String)
    (v : Json) : Ascending (insertMember name v members) := by
  induction members with
  | nil => exact List.pairwise_singleton _ _
  | cons e rest ih =>
    obtain ⟨n, w⟩ := e
    obtain ⟨above, others⟩ := List.pairwise_cons.mp ascending
    rw [insertMember]
    by_cases same : n = name
    · rw [if_pos same]
      exact List.pairwise_cons.mpr ⟨fun d member => same ▸ above d member, others⟩
    · rw [if_neg same]
      by_cases less : name < n
      · rw [if_pos less]
        refine List.pairwise_cons.mpr ⟨fun d member => ?_, ascending⟩
        rcases List.mem_cons.mp member with rfl | later
        · exact less
        · exact String.lt_trans less (above d later)
      · rw [if_neg less]
        refine List.pairwise_cons.mpr ⟨fun d member => ?_, ih others⟩
        rcases memberInserted member with rfl | old
        · exact String.not_le.mp fun le => same (String.le_antisymm (String.not_lt.mp less) le)
        · exact above d old

/-- The members of an object in ascending order, each name with its last value. -/
def arranged (members : List (String × Json)) : List (String × Json) :=
  members.foldl (fun done e => insertMember e.1 e.2 done) []

theorem arrangedSnoc (members : List (String × Json)) (e : String × Json) :
    arranged (members ++ [e]) = insertMember e.1 e.2 (arranged members) := List.foldl_concat ..

theorem arrangedAscending (members : List (String × Json)) : Ascending (arranged members) := by
  induction members using List.reverseRecOn with
  | nil => exact List.Pairwise.nil
  | append_singleton rest e ih =>
    rw [arrangedSnoc]
    exact insertKeepsAscending ih e.1 e.2

theorem lookupArranged (members : List (String × Json)) (name : String) :
    (arranged members).lookup name = members.reverse.lookup name := by
  induction members using List.reverseRecOn with
  | nil => rfl
  | append_singleton rest e ih =>
    rw [arrangedSnoc, lookupInserted, ih, List.reverse_concat, lookupCons]

theorem Ascending.distinct {members : List (String × Json)} (ascending : Ascending members) :
    (members.map Prod.fst).Nodup :=
  List.pairwise_map.mpr (ascending.imp fun less => String.ne_of_lt less)

theorem Ascending.lookup {members : List (String × Json)} (ascending : Ascending members) (name : String) (v : Json) :
    members.lookup name = some v ↔ (name, v) ∈ members := Ordered.lookupMember ascending.distinct name v

theorem ascendingExt {a b : List (String × Json)} (first : Ascending a) (second : Ascending b)
    (same : ∀ name, a.lookup name = b.lookup name) : a = b := by
  have among : ∀ e, e ∈ a ↔ e ∈ b := fun e => by rw [← first.lookup, ← second.lookup, same]
  have perm := (List.perm_ext_iff_of_nodup first.distinct.of_map second.distinct.of_map).mpr among
  exact perm.eq_of_pairwise (fun d e _ _ less more => absurd more (String.lt_asymm less)) first second

theorem arrangedFixed {members : List (String × Json)} (ascending : Ascending members) :
    arranged members = members := by
  rw [← List.nil_append members] at ascending
  rw [arranged, insertAscending ascending, List.nil_append]

theorem memberArranged {members : List (String × Json)} {e : String × Json} :
    e ∈ arranged members ↔ members.reverse.lookup e.1 = some e.2 := by
  rw [← lookupArranged, (arrangedAscending members).lookup]

theorem arrangedExt {a b : List (String × Json)} (same : ∀ name, a.reverse.lookup name = b.reverse.lookup name) :
    arranged a = arranged b :=
  ascendingExt (arrangedAscending a) (arrangedAscending b) fun name => by rw [lookupArranged, lookupArranged, same]

theorem Ascending.mapped {members : List (String × Json)} (ascending : Ascending members) (f : Json → Json) :
    Ascending (members.map fun e => (e.1, f e.2)) := List.pairwise_map.mpr ascending

mutual

def arrange : Json → Json
  | .array items => .array (arrangeItems items)
  | .object members => .object (arranged (arrangeMembers members))
  | v => v

def arrangeItems : List Json → List Json
  | [] => []
  | v :: rest => arrange v :: arrangeItems rest

def arrangeMembers : List (String × Json) → List (String × Json)
  | [] => []
  | (name, v) :: rest => (name, arrange v) :: arrangeMembers rest

end

theorem arrangeArray (items : List Json) : arrange (.array items) = .array (items.map arrange) := by
  rw [arrange, Json.array.injEq]
  induction items with
  | nil => rw [arrangeItems, List.map_nil]
  | cons v rest ih => rw [arrangeItems, ih, List.map_cons]

theorem arrangeObject (members : List (String × Json)) :
    arrange (.object members) = .object (arranged (members.map fun e => (e.1, arrange e.2))) := by
  have each : arrangeMembers members = members.map fun e => (e.1, arrange e.2) := by
    induction members with
    | nil => rw [arrangeMembers, List.map_nil]
    | cons e rest ih =>
      obtain ⟨name, v⟩ := e
      rw [arrangeMembers, ih, List.map_cons]
  rw [arrange, each]

theorem arrangeAscending (v : Json) : Throughout Ascending (arrange v) := by
  induction v using induct with
  | null => exact .null
  | bool b => exact .bool b
  | number n => exact .number n
  | text s => exact .text s
  | array items ih =>
    rw [arrangeArray]
    refine .array fun w member => ?_
    obtain ⟨v, among, rfl⟩ := List.mem_map.mp member
    exact ih v among
  | object members ih =>
    rw [arrangeObject]
    refine .object (arrangedAscending _) fun e member => ?_
    obtain ⟨d, among, same⟩ := List.mem_map.mp (lastMember (memberArranged.mp member))
    exact (Prod.ext_iff.mp same).2 ▸ ih d among

theorem arrangeFixed {v : Json} (ascending : Throughout Ascending v) : arrange v = v := by
  induction ascending with
  | null => rfl
  | bool b => rfl
  | number n => rfl
  | text s => rfl
  | array _ ih => rw [arrangeArray, List.map_congr_left ih, List.map_id']
  | object here _ ih =>
    rw [arrangeObject, List.map_congr_left fun e member => by rw [ih e member], List.map_id', arrangedFixed here]

theorem arrangedItems {items : List Json} (all : Throughout p (arrange (.array items))) :
    ∀ v ∈ items, Throughout p (arrange v) := by
  rw [arrangeArray] at all
  cases all with
  | array each => exact fun v member => each _ (List.mem_map_of_mem member)

theorem arrangedMembers {members : List (String × Json)} (all : Throughout p (arrange (.object members))) :
    p (arranged (members.map fun e => (e.1, arrange e.2))) ∧
      ∀ name v, members.reverse.lookup name = some v → Throughout p (arrange v) := by
  rw [arrangeObject] at all
  cases all with
  | object here each =>
    refine ⟨here, fun name v last => each (name, arrange v) (memberArranged.mpr ?_)⟩
    rw [lastEach, last, Option.map_some]

/-- The two values are equal, with the members of their objects compared as maps: each name stands for
its last value. -/
inductive Means : Json → Json → Prop where
  | null : Means .null .null
  | bool (b : Bool) : Means (.bool b) (.bool b)
  | number (n : Number) : Means (.number n) (.number n)
  | text (s : String) : Means (.text s) (.text s)
  | array {items others : List Json} (count : items.length = others.length)
      (each : ∀ e ∈ items.zip others, Means e.1 e.2) : Means (.array items) (.array others)
  | object {members others : List (String × Json)}
      (names : ∀ name, (members.reverse.lookup name).isSome = (others.reverse.lookup name).isSome)
      (each : ∀ name v w, members.reverse.lookup name = some v → others.reverse.lookup name = some w →
        Means v w) : Means (.object members) (.object others)

theorem arrangeMeans (v : Json) : Means v (arrange v) := by
  induction v using induct with
  | null => exact .null
  | bool b => exact .bool b
  | number n => exact .number n
  | text s => exact .text s
  | array items ih =>
    rw [arrangeArray]
    have each : List.Forall₂ Means items (items.map arrange) :=
      List.forall₂_map_right_iff.mpr (List.forall₂_same.mpr ih)
    obtain ⟨count, each⟩ := List.forall₂_iff_zip.mp each
    exact .array count fun e member => each member
  | object members ih =>
    rw [arrangeObject]
    have last (name : String) : (arranged (members.map fun e => (e.1, arrange e.2))).reverse.lookup name =
        (members.reverse.lookup name).map arrange := by
      rw [← lookupArranged, arrangedFixed (arrangedAscending _), lookupArranged, lastEach]
    refine .object (fun name => by rw [last, Option.isSome_map]) fun name v w first second => ?_
    rw [last, first] at second
    cases second
    exact ih _ (lastMember first)

theorem meansArrange {v w : Json} (means : Means v w) : arrange v = arrange w := by
  induction means with
  | null => rfl
  | bool b => rfl
  | number n => rfl
  | text s => rfl
  | array count each ih =>
    rw [arrangeArray, arrangeArray, zipMap count ih]
  | @object members others names each ih =>
    have equal : arranged (members.map fun e => (e.1, arrange e.2)) =
        arranged (others.map fun e => (e.1, arrange e.2)) :=
      arrangedExt fun name => by rw [lastEach, lastEach, lastMap names ih]
    rw [arrangeObject, arrangeObject, equal]

end Storefront.Json
