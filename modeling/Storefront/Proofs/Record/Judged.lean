import Storefront.Proofs.Record.Spelling

/-! Records of spelled objects with values that the reader may refuse. If it refuses none, the record
has under each name what the last value of the name is read as. -/
namespace Storefront.Record
open Json (Blank ObjectSpelled JudgesValue JudgesSpelled)
open Text.Utf8 (encode encodeAppend encodeInside)

def SpelledIn {α : Type} (value : α → List Char → Prop) (members : List (String × α)) (source : Bytes) : Prop :=
  ∃ a w z, Blank a ∧ ObjectSpelled value members w ∧ Blank z ∧ source = encode (a ++ w ++ z)

/-- A text that is read whole as the value, as that of a member. -/
def WholeRead (v : Json) (w : List Char) : Prop :=
  Json.readValue Json.parse ((encode w).length + 1) (Json.deepest - 1) (encode w) = .ok (v, [])

theorem WholeRead.before {v : Json} {w : List Char} (whole : WholeRead v w) {b : List Char} (blank : Blank b)
    {bound : Nat} (enough : (encode w).length < bound) {tail : Bytes} (stops : Json.Stops tail) :
    Json.readValue (Json.parseWithin (bound - 1)) bound (Json.deepest - 1) (encode (b ++ w) ++ tail) =
      .ok (v, tail) := by
  obtain ⟨used, eq, _, taken⟩ := Json.valueLocal (Json.deepest - 1) ⟨Json.parse, (encode w).length + 1⟩ _ _ _ whole
  rw [List.append_nil] at eq
  subst eq
  -- Texts embedded in the value are shorter than it, and so than the text around.
  have serves : Json.Setting.Serves ⟨Json.parse, (encode w).length + 1⟩ ⟨Json.parseWithin (bound - 1), bound⟩
      (encode w).length := by
    refine ⟨Nat.le_of_lt enough, fun t u small inner => Json.levelsEnough inner ?_⟩
    omega
  rw [encodeAppend, List.append_assoc, Json.blankValue blank]
  exact taken _ tail serves stops

section
variable {α : Type} {value : α → List Char → Prop} {result : α → Option Json}

def JudgesMember (value : α → List Char → Prop) (result : α → Option Json) : Prop :=
  JudgesValue value (fun bound => Json.readValue (Json.parseWithin (bound - 1)) bound (Json.deepest - 1)) result

theorem wholeJudged : JudgesMember WholeRead some := fun _ _ _ _ _ blank whole enough stops =>
  congrArg Except.toOption (whole.before blank enough stops)

def addRead (result : α → Option Json) (r : Record) (e : String × α) : Option Record :=
  (result e.2).map fun v => r.insert e.1 (normalize v)

theorem addJudged (law : JudgesMember value result) :
    JudgesSpelled value (fun bound => take (Json.parseWithin (bound - 1)) bound) (addRead result) := by
  intro bound r e w tail spelled enough stops
  have member := Json.colonJudged law spelled e.1 enough stops
  dsimp only at member ⊢
  rw [take, addRead]
  change (Except.bind _ _).toOption = _
  rw [Json.bindToOption, member]
  cases result e.2 <;> rfl

theorem readJudged (law : JudgesMember value result) {members : List (String × α)} {a w : List Char}
    (before : Blank a) (spelled : ObjectSpelled value members w) (length : Nat)
    (enough : (encode w).length ≤ length + 1) (tail : Bytes) :
    (read (Json.parseWithin length) (length + 1) (encode (a ++ w) ++ tail)).toOption =
      (members.foldlM (addRead result) Ordered.empty).map fun r => (r, tail) := by
  have steps := Nat.lt_of_lt_of_le spelled.count enough
  obtain ⟨inside, rfl, judged⟩ := Json.objectJudged (addJudged law) spelled enough steps Ordered.empty tail
  rw [read, before.skipped (by decide) (by decide)]
  dsimp only
  rw [if_pos rfl]
  exact judged

theorem parseJudged (law : JudgesMember value result) {members : List (String × α)} {source : Bytes}
    (text : SpelledIn value members source) :
    (parse source).toOption = members.foldlM (addRead result) Ordered.empty := by
  obtain ⟨a, w, z, before, spelled, after, rfl⟩ := text
  have enough := Nat.le_succ_of_le (encodeInside a w z)
  have judged := readJudged law before spelled (encode (a ++ w ++ z)).length enough (encode z)
  rw [← encodeAppend] at judged
  apply Option.ext
  intro r
  rw [Json.toOptionOk, parseOk]
  constructor
  · rintro ⟨rest, ok, _⟩
    have found := judged.symm.trans (Json.toOptionOk.mpr ok)
    obtain ⟨made, all, same⟩ := Option.map_eq_some_iff.mp found
    cases same
    exact all
  · intro all
    refine ⟨encode z, Json.toOptionOk.mp ?_, after.spaces⟩
    rw [all] at judged
    exact judged

theorem addedFirst {e : String × α} {rest : List (String × α)} {start r : Record}
    (all : (e :: rest).foldlM (addRead result) start = some r) :
    ∃ v, result e.2 = some v ∧ rest.foldlM (addRead result) (start.insert e.1 (normalize v)) = some r := by
  rw [List.foldlM_cons] at all
  obtain ⟨next, added, later⟩ := Option.bind_eq_some_iff.mp all
  obtain ⟨v, valued, rfl⟩ := Option.map_eq_some_iff.mp added
  exact ⟨v, valued, later⟩

theorem unnamedKept {members : List (String × α)} {start r : Record}
    (all : members.foldlM (addRead result) start = some r) {key : String}
    (unnamed : members.reverse.lookup key = none) : r.get? key = start.get? key := by
  induction members generalizing start with
  | nil =>
    cases Option.some.inj all
    rfl
  | cons e rest ih =>
    obtain ⟨v, valued, later⟩ := addedFirst all
    rw [Ordered.lookupReverseCons, Option.or_eq_none_iff] at unnamed
    have other : key ≠ e.1 := fun same => by simp [same] at unnamed
    rw [ih later unnamed.1, Ordered.getInsert, if_neg other]

theorem lastRead {members : List (String × α)} {start r : Record}
    (all : members.foldlM (addRead result) start = some r) {key : String} {given : α}
    (last : members.reverse.lookup key = some given) :
    ∃ v, result given = some v ∧ r.get? key = some (normalize v) := by
  induction members generalizing start with
  | nil => contradiction
  | cons e rest ih =>
    obtain ⟨v, valued, later⟩ := addedFirst all
    rw [Ordered.lookupReverseCons] at last
    cases named : rest.reverse.lookup key with
    | some found =>
      rw [named] at last
      exact ih later (named.trans last)
    | none =>
      have here : key = e.1 ∧ e.2 = given := by simpa [named] using last
      obtain ⟨rfl, rfl⟩ := here
      refine ⟨v, valued, ?_⟩
      rw [unnamedKept later named, Ordered.getInsert, if_pos rfl]

theorem allTaken {members : List (String × α)} (read : ∀ e ∈ members, ∃ v, result e.2 = some v) (start : Record) :
    ∃ r, members.foldlM (addRead result) start = some r := by
  induction members generalizing start with
  | nil => exact ⟨start, rfl⟩
  | cons e rest ih =>
    obtain ⟨v, valued⟩ := read e List.mem_cons_self
    obtain ⟨r, all⟩ := ih (fun d member => read d (List.mem_cons_of_mem e member)) (start.insert e.1 (normalize v))
    refine ⟨r, ?_⟩
    rw [List.foldlM_cons, addRead, valued]
    exact all

end

end Storefront.Record
