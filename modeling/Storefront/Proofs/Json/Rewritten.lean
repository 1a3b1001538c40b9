import Storefront.Proofs.Json.Nested

/-! Values that are read and written again. What is written is a spelling of the arranged value,
without white space, as long as no object of the value has the reserved name alone, and it is read back
as long as none begins with that name. -/
namespace Storefront.Json
open Text.Utf8 (encode)

/-- How a value is read that is not refused, with so many levels admitted. Of the members of an object only
the last ones of their names are left. -/
inductive ReadAs : Nat → Json → Json → Prop where
  | null (depth : Nat) : ReadAs depth .null .null
  | bool (depth : Nat) (b : Bool) : ReadAs depth (.bool b) (.bool b)
  | number (depth : Nat) (n : Number) : ReadAs depth (.number n) (.number n)
  | text (depth : Nat) (s : String) : ReadAs depth (.text s) (.text s)
  | array {depth : Nat} {items found : List Json} (count : items.length = found.length)
      (each : ∀ e ∈ items.zip found, ReadAs depth e.1 e.2) : ReadAs (depth + 1) (.array items) (.array found)
  | object {depth : Nat} {members found : List (String × Json)} (unreserved : Unreserved members)
      (names : ∀ name, (members.reverse.lookup name).isSome = (found.reverse.lookup name).isSome)
      (each : ∀ name v w, members.reverse.lookup name = some v → found.reverse.lookup name = some w →
        ReadAs depth v w) :
      ReadAs (depth + 1) (.object members) (.object (arranged found))
  | embedded {depth : Nat} {s : String} {v : Json} (ok : parse (bytesOf s) = .ok v) :
      ReadAs (depth + 1) (.object [(embeddedName, .text s)]) v

theorem eachItem {f : Json → Option Json} {items found : List Json} (all : items.mapM f = some found) :
    List.Forall₂ (fun v w => f v = some w) items found := by
  induction items generalizing found with
  | nil =>
    cases Option.some.inj all
    exact .nil
  | cons v rest ih =>
    rw [List.mapM_cons] at all
    obtain ⟨w, here, all⟩ := Option.bind_eq_some_iff.mp all
    obtain ⟨others, later, all⟩ := Option.bind_eq_some_iff.mp all
    cases Option.some.inj all
    exact .cons here (ih later)

theorem eachMember {f : Json → Option Json} {members found : List (String × Json)}
    (all : (members.mapM fun e => (f e.2).map fun v => (e.1, v)) = some found) (name : String) :
    (members.reverse.lookup name).map f = (found.reverse.lookup name).map some := by
  induction members generalizing found with
  | nil =>
    cases Option.some.inj all
    rfl
  | cons e rest ih =>
    rw [List.mapM_cons] at all
    obtain ⟨d, here, all⟩ := Option.bind_eq_some_iff.mp all
    obtain ⟨others, later, all⟩ := Option.bind_eq_some_iff.mp all
    cases Option.some.inj all
    obtain ⟨v, valued, rfl⟩ := Option.map_eq_some_iff.mp here
    rw [Ordered.lookupReverseCons, Ordered.lookupReverseCons, Option.map_or, Option.map_or, ih later]
    by_cases same : name = e.1
    · rw [if_pos same, if_pos same, Option.map_some, Option.map_some, valued]
    · rw [if_neg same, if_neg same, Option.map_none, Option.map_none]

theorem standsIn {members : List (String × Json)} {w : Json} (found : standIn? members = some w)
    (reserved : ¬ Unreserved members) : ∃ s, members = [(embeddedName, .text s)] ∧ parse (bytesOf s) = .ok w := by
  unfold standIn? at found
  split at found
  · rename_i name s
    have same : name = embeddedName := by
      by_contra other
      exact reserved (by simpa [Unreserved] using other)
    exact ⟨s, by rw [same], toOptionOk.mp found⟩
  · contradiction

theorem readAsSound {depth : Nat} {v w : Json} (read : readAs? depth v = some w) : ReadAs depth v w := by
  -- Along the levels; a value that is no array or object is read as itself on each.
  induction depth generalizing v w with
  | zero =>
    cases v with
    | null => exact Option.some.inj read ▸ .null 0
    | bool b => exact Option.some.inj read ▸ .bool 0 b
    | number n => exact Option.some.inj read ▸ .number 0 n
    | text s => exact Option.some.inj read ▸ .text 0 s
    | array items => contradiction
    | object members => contradiction
  | succ depth ih =>
    cases v with
    | null => exact Option.some.inj read ▸ .null _
    | bool b => exact Option.some.inj read ▸ .bool _ b
    | number n => exact Option.some.inj read ▸ .number _ n
    | text s => exact Option.some.inj read ▸ .text _ s
    | array items =>
      obtain ⟨found, all, same⟩ := Option.map_eq_some_iff.mp read
      obtain ⟨count, each⟩ := List.forall₂_iff_zip.mp (eachItem all)
      exact same ▸ .array count fun e member => ih (each member)
    | object members =>
      rw [readAs?] at read
      split at read
      · rename_i unreserved
        obtain ⟨found, all, same⟩ := Option.map_eq_some_iff.mp read
        have last := eachMember all
        refine same ▸ .object unreserved (fun name => ?_) fun name v w first second => ih ?_
        · simpa using congrArg Option.isSome (last name)
        · have both := last name
          rw [first, second] at both
          exact Option.some.inj both
      · rename_i reserved
        obtain ⟨s, rfl, ok⟩ := standsIn read reserved
        exact .embedded ok

mutual

/-- What an arranged value is read as: an object of the reserved name alone gives way to the value of the
text it holds. -/
def expand : Json → Json
  | .array items => .array (expandItems items)
  | .object members =>
    match if Unreserved members then none else standIn? members with
    | some v => v
    | none => .object (expandMembers members)
  | v => v

def expandItems : List Json → List Json
  | [] => []
  | v :: rest => expand v :: expandItems rest

def expandMembers : List (String × Json) → List (String × Json)
  | [] => []
  | (name, v) :: rest => (name, expand v) :: expandMembers rest

end

theorem expandArray (items : List Json) : expand (.array items) = .array (items.map expand) := by
  rw [expand, Json.array.injEq]
  induction items with
  | nil => rw [expandItems, List.map_nil]
  | cons v rest ih => rw [expandItems, ih, List.map_cons]

theorem expandObject {members : List (String × Json)} (formed : Formed members) :
    expand (.object members) = .object (members.map fun e => (e.1, expand e.2)) := by
  have whole : (if Unreserved members then none else standIn? members) = none := by
    split
    · rfl
    · rename_i reserved
      cases found : standIn? members with
      | none => rfl
      | some w =>
        obtain ⟨s, alone, _⟩ := standsIn found reserved
        exact absurd alone (formed.2 _)
  have each : expandMembers members = members.map fun e => (e.1, expand e.2) := by
    clear formed whole
    induction members with
    | nil => rw [expandMembers, List.map_nil]
    | cons e rest ih =>
      obtain ⟨name, v⟩ := e
      rw [expandMembers, ih, List.map_cons]
  rw [expand, whole, each]

theorem expandFixed {v : Json} (formed : Throughout Formed v) : expand v = v := by
  induction formed with
  | null => rfl
  | bool b => rfl
  | number n => rfl
  | text s => rfl
  | array _ ih => rw [expandArray, List.map_congr_left ih, List.map_id']
  | object here _ ih =>
    rw [expandObject here, List.map_congr_left fun e member => by rw [ih e member], List.map_id']

theorem readAsExpanded {depth : Nat} {v w : Json} (read : ReadAs depth v w) : expand (arrange v) = w := by
  induction read with
  | null => rfl
  | bool => rfl
  | number => rfl
  | text => rfl
  | array count each ih =>
    have same := zipMap (f := fun v => expand (arrange v)) (g := id) count ih
    rw [arrangeArray, expandArray, List.map_map, Function.comp_def, same, List.map_id]
  | @object depth members found unreserved names each ih =>
    have first : Unreserved (members.map fun e => (e.1, arrange e.2)) := by
      unfold Unreserved at unreserved ⊢
      rwa [List.head?_map, Option.forall_mem_map]
    have formed := arrangedFormed first
    rw [arrangeObject, expandObject formed]
    have same : (arranged (members.map fun e => (e.1, arrange e.2))).map (fun e => (e.1, expand e.2)) =
        arranged found := by
      refine ascendingExt (formed.1.mapped expand) (arrangedAscending found) fun name => ?_
      rw [lookupEach, lookupArranged, lookupArranged, lastEach, Option.map_map]
      exact (lastMap (g := id) names ih name).trans (congrFun Option.map_id _)
    rw [same]
  | @embedded depth s v ok =>
    have stands : standIn? [(embeddedName, .text s)] = some v := toOptionOk.mpr ok
    have reserved : ¬ Unreserved [(embeddedName, Json.text s)] := by simp [Unreserved]
    change expand (.object [(embeddedName, .text s)]) = v
    rw [expand, if_neg reserved, stands]

theorem everyItem {α : Type} {f : α → Option α} {items : List α} (each : ∀ v ∈ items, f v = some v) :
    items.mapM f = some items := by
  induction items with
  | nil => rfl
  | cons v rest ih =>
    obtain ⟨here, later⟩ := List.forall_mem_cons.mp each
    rw [List.mapM_cons, here, ih later]
    rfl

theorem readAsAgain {depth : Nat} {v w : Json} (read : ReadAs depth v w) {limit : Nat} (enough : depth ≤ limit)
    (bare : Bare (arrange v)) : readAs? limit (arrange v) = some (arrange v) := by
  induction read generalizing limit with
  | null => cases limit <;> rfl
  | bool => cases limit <;> rfl
  | number => cases limit <;> rfl
  | text => cases limit <;> rfl
  | array count each ih =>
    obtain ⟨k, rfl⟩ := Nat.exists_eq_succ_of_ne_zero (Nat.ne_of_gt (Nat.zero_lt_of_lt enough))
    have inside := arrangedItems bare
    have again := zipFirst (P := fun v => Bare (arrange v) → readAs? k (arrange v) = some (arrange v)) count
      fun e member => ih e member (Nat.le_of_succ_le_succ enough)
    rw [arrangeArray, readAs?, everyItem (List.forall_mem_map.mpr fun v member => again v member (inside v member))]
    rfl
  | @object depth members found unreserved names each ih =>
    obtain ⟨k, rfl⟩ := Nat.exists_eq_succ_of_ne_zero (Nat.ne_of_gt (Nat.zero_lt_of_lt enough))
    obtain ⟨first, inside⟩ := arrangedMembers bare
    have again : ∀ e ∈ arranged (members.map fun e => (e.1, arrange e.2)),
        (readAs? k e.2).map (fun v => (e.1, v)) = some e := by
      intro e member
      have last := memberArranged.mp member
      rw [lastEach, Option.map_eq_some_iff] at last
      obtain ⟨v, last, same⟩ := last
      have there : (found.reverse.lookup e.1).isSome := by rw [← names, last]; rfl
      obtain ⟨w, second⟩ := Option.isSome_iff_exists.mp there
      rw [← same, ih e.1 v w last second (Nat.le_of_succ_le_succ enough) (inside e.1 v last), Option.map_some, same]
    rw [arrangeObject, readAs?, if_pos first, everyItem again, Option.map_some, arrangedFixed (arrangedAscending _)]
  | embedded ok =>
    obtain ⟨first, _⟩ := arrangedMembers bare
    exact absurd rfl (first _ rfl)

theorem readAsBare {depth : Nat} {v w : Json} (read : ReadAs depth v w) (formed : Throughout Formed v) : Bare v := by
  induction read with
  | null => exact .null
  | bool depth b => exact .bool b
  | number depth n => exact .number n
  | text depth s => exact .text s
  | array count each ih =>
    cases formed with
    | array inside =>
      have bare := zipFirst (P := fun v => Throughout Formed v → Bare v) count ih
      exact .array fun v member => bare v member (inside v member)
  | object unreserved names each ih =>
    cases formed with
    | object here inside =>
      refine .object unreserved fun e member => ?_
      have last := memberArranged.mp (show e ∈ arranged _ by rwa [arrangedFixed here.1])
      have there := names e.1
      rw [last] at there
      obtain ⟨w, second⟩ := Option.isSome_iff_exists.mp there.symm
      exact ih e.1 e.2 w last second (inside e member)
  | embedded ok =>
    cases formed with
    | object here inside => exact absurd rfl (here.2 _)

theorem bareFormed {v : Json} (bare : Bare v) (ascending : Throughout Ascending v) : Throughout Formed v := by
  refine (bare.both ascending).mono fun members ⟨unreserved, ascending⟩ => ⟨ascending, fun v alone => ?_⟩
  exact unreserved (embeddedName, v) (by rw [alone]; rfl) rfl

/-! Writing. -/

theorem parseSpelled {levels : Nat} {v : Json} {w : List Char} (spelled : ValueSpelled levels v w) :
    (parse (encode w)).toOption = readAs? deepest v := by
  have stops : Stops [] := trivial
  have judged := valueJudged levels deepest v [] w ((encode w).length + 1) [] Blank.none spelled
    (Nat.lt_succ_self _) stops
  rw [List.nil_append, List.append_nil] at judged
  apply Option.ext
  intro u
  rw [toOptionOk, parseOk]
  constructor
  · intro ⟨left, ok, _⟩
    have found := judged.symm.trans (toOptionOk.mpr ok)
    obtain ⟨v, read, same⟩ := Option.map_eq_some_iff.mp found
    cases same
    exact read
  · intro read
    rw [read] at judged
    exact ⟨[], toOptionOk.mp judged, by simp⟩

theorem rewrittenSpelled {levels : Nat} {v : Json} {w : List Char} (spelled : ValueSpelled levels v w) :
    ValueSpelled levels (arrange v) (arrange v).write := by
  have scalar {v : Json} {w : List Char} (spelled : ScalarSpelled v w) :
      ScalarSpelled (arrange v) (arrange v).write := by
    cases spelled with
    | null => exact .null
    | yes => exact .yes
    | no => exact .no
    | @integer n fits =>
      change ScalarSpelled _ (writeInteger n)
      rw [numeralWritten]
      exact .integer fits
    | @text s w spelled =>
      change ScalarSpelled _ (write (.text s))
      rw [write]
      exact .text (textWritten s)
  induction levels generalizing v w with
  | zero => exact scalar spelled
  | succ levels ih =>
    cases spelled with
    | scalar spelled => exact .scalar (scalar spelled)
    | array spelled =>
      rw [arrangeArray]
      refine .array (arrayWritten (List.forall_mem_map.mpr fun v member => ?_))
      obtain ⟨m, valued⟩ := spelled.each v member
      exact ih valued
    | @object members w spelled =>
      rw [arrangeObject]
      have each : ∀ e ∈ arranged (members.map fun e => (e.1, arrange e.2)),
          ValueSpelled levels e.2 (write (id e.2)) := by
        intro e member
        obtain ⟨d, among, same⟩ := List.mem_map.mp (lastMember (memberArranged.mp member))
        obtain ⟨m, valued⟩ := spelled.each d among
        exact (Prod.ext_iff.mp same).2 ▸ ih valued
      exact .object (by simpa using objectWritten each)

theorem standInWritten (s : String) :
    ValueSpelled 1 (.object [(embeddedName, .text s)]) (write (.object [(embeddedName, .text s)])) := by
  have text : ValueSpelled 0 (.text s) (write (.text s)) := by
    rw [write]
    exact .text (textWritten s)
  have each : ∀ e ∈ [(embeddedName, Json.text s)], ValueSpelled 0 e.2 (write (id e.2)) :=
    List.forall_mem_singleton.mpr text
  exact .object (by simpa using objectWritten each)

end Storefront.Json
