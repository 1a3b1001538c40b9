import Storefront.Proofs.Columns
import Storefront.Proofs.Json.Nested
import Storefront.Proofs.Ordered.Members
import Storefront.Proofs.Record.Judged
import Storefront.Proofs.Record.Paths

/-! Records of members that may repeat a name. Inserted one by one, collected, or listed in the text of an
object, the members make one record, and what it holds is said without the way it was made. -/
namespace Storefront.Record
open Json (Blank CellSpelled)
open Ordered (names Follows)
open Text.Utf8 (encode encodeAppend encodeInside)

structure Holds (members : List (String × Option String)) (r : Record) : Prop where
  follows : Follows members r
  text : ∀ before key value after, members = before ++ (key, value) :: after → key ∉ names after →
    r.text? key = some (value.getD "null")
  absent : ∀ key, key ∉ names members → r.get? key = none ∧ r.text? key = none
  size : r.size = (names members).toFinset.card
  visits : ∀ key, (r.entries.map Prod.fst).count key = if key ∈ names members then 1 else 0
  pairs : ∀ key value, (key, value) ∈ r.entries ↔ r.get? key = some value

theorem followsHolds {members : List (String × Option String)} {r : Record} (follows : Follows members r) :
    Holds members r where
  follows := follows
  text before key value after given later := by
    rw [text?, follows.last before key value after given later, Option.map_some]
  absent key unnamed := ⟨follows.absent unnamed, by rw [text?, follows.absent unnamed, Option.map_none]⟩
  size := follows.size
  visits := follows.visits
  pairs key value := (Ordered.getMember r key value).symm

def normalized (values : List (String × Json)) : List (String × Option String) :=
  values.map fun e => (e.1, normalize e.2)

theorem wholeListed {values : List (String × Json)} {source : Bytes} (text : SpelledIn WholeRead values source) :
    listed source = .ok values := by
  obtain ⟨a, w, z, before, spelled, after, rfl⟩ := text
  have enough := Nat.le_succ_of_le (encodeInside a w z)
  have steps := Nat.lt_of_lt_of_le spelled.count enough
  obtain ⟨inside, rfl, judged⟩ := Json.objectJudged (Json.listJudged wholeJudged) spelled enough steps [] (encode z)
  have opened : Opened (encode (a ++ '\x7b' :: inside ++ z)) (encode inside ++ encode z) := by
    rw [Opened, encodeAppend, before.skipped (by decide) (by decide)]
  have each : (values.mapM fun e => (some e.2).map fun v => (e.1, v)) = some values :=
    List.mapM_pure.trans (congrArg some (List.map_id values))
  rw [Json.listAll, each] at judged
  exact (listedLoop opened).mpr ⟨_, _, Json.toOptionOk.mp judged, after.spaces⟩

/-- The ways to a record: a new one and an insert for each member, a collection of texts, the text of an
object, whose values are texts and nulls or of any kind and then as each is read by itself, and a map of
such values that are normalized at the end. -/
structure Built (members : List (String × Option String)) (r : Record) : Prop where
  inserted : Ordered.empty.insertAll members = r
  collected : ∀ texts : List (String × String), texts.map (fun e => (e.1, some e.2)) = members → ofTexts texts = r
  spelled : ∀ source, SpelledIn CellSpelled members source → parse source = .ok r
  read : ∀ values source, SpelledIn WholeRead values source → normalized values = members → parse source = .ok r
  mapped : ∀ values, normalized values = members → (Ordered.empty.insertAll values).mapped normalize = r

theorem insertedBuilt (members : List (String × Option String)) :
    Built members (Ordered.empty.insertAll members) where
  inserted := rfl
  collected texts same := by
    subst same
    rfl
  spelled source text := by
    obtain ⟨a, w, z, before, spelled, after, rfl⟩ := text
    exact parseCells before spelled after
  read values source text same := by
    subst same
    exact parseListed.mpr ⟨values, wholeListed text, rfl⟩
  mapped values same := by
    subst same
    have follows := Ordered.followsMapped normalize (Ordered.insertedFollows values)
    exact Ordered.followsUnique follows (Ordered.insertedFollows (normalized values))

theorem membersSpelled (members : List (String × Option String)) : ∃ source, SpelledIn CellSpelled members source :=
  ⟨_, [], _, [], Blank.none, Json.objectWritten fun e _ => Json.cellWritten e.2, Blank.none, rfl⟩

/-- However members are made into a record, it is the one that has each of their names once, in the order
in which these first come, with the value given last. Every list of members has a text, and every text
that is a record lists some. Records are equal but for their order when each key reads alike. -/
theorem buildsAgree :
    (∀ members, ∃ r, Built members r ∧ ∀ other, Holds members other ↔ other = r) ∧
    (∀ members, ∃ source, SpelledIn CellSpelled members source) ∧
    (∀ source r, parse source = .ok r → ∃ values, listed source = .ok values ∧ Built (normalized values) r) ∧
    ∀ a b : Record, a.same b = true ↔ ∀ key, a.get? key = b.get? key := by
  refine ⟨fun members => ⟨_, insertedBuilt members, fun other => ⟨fun holds => ?_, ?_⟩⟩, membersSpelled,
    fun source r read => ?_, fun a b => sameGet⟩
  · exact Ordered.followsUnique holds.follows (Ordered.insertedFollows members)
  · rintro rfl
    exact followsHolds (Ordered.insertedFollows members)
  · obtain ⟨values, list, rfl⟩ := parseListed.mp read
    exact ⟨values, list, insertedBuilt (normalized values)⟩

def repeatedValues : List (String × Json) :=
  [("b", .number (.integer 1)), ("a", .null), ("b", .array [.bool true])]

def repeatedText : Bytes := bytesOf "\x7b\"b\":1,\"a\":null,\"b\":[true]\x7d"

def repeatedRecord : Record := Ordered.ofList [("b", some "[true]"), ("a", none)]

theorem repeatedSpelled : SpelledIn WholeRead repeatedValues repeatedText := by
  have number : WholeRead (.number (.integer 1)) (Json.write (.number (.integer 1))) := rfl
  have null : WholeRead .null (Json.write .null) := rfl
  have list : WholeRead (.array [.bool true]) (Json.write (.array [.bool true])) := rfl
  have whole : ∀ e ∈ repeatedValues, WholeRead e.2 (Json.write (id e.2)) := by
    simp [repeatedValues, number, null, list]
  exact ⟨[], _, [], Blank.none, Json.objectWritten whole, Blank.none, rfl⟩

theorem buildsAgreeRepeated :
    SpelledIn WholeRead repeatedValues repeatedText ∧ parse repeatedText = .ok repeatedRecord ∧
    Holds [("b", some "1"), ("a", none), ("b", some "[true]")] repeatedRecord := by
  obtain ⟨r, built, holds⟩ := buildsAgree.1 (normalized repeatedValues)
  have same : repeatedRecord = r := built.inserted
  subst same
  exact ⟨repeatedSpelled, built.read _ _ repeatedSpelled rfl, (holds _).mpr rfl⟩

end Storefront.Record
