import Storefront.Proofs.Clients
import Storefront.Proofs.Json.Integer
import Storefront.Proofs.Record.Judged

/-! Integers in the text of a record. Those of 64 bits keep their numerals, and as keys they keep
rows apart; other integers become floats, which several integers can share. -/
namespace Storefront.Record
open Json (Blank ObjectSpelled Fits numeral integerNumber?)

variable {s : Schema}

inductive Given where
  | integer (n : Int)
  | other (v : Json)

inductive GivenSpelled : Given → List Char → Prop where
  | integer (n : Int) : GivenSpelled (.integer n) (numeral n)
  | other {v : Json} {w : List Char} (whole : WholeRead v w) : GivenSpelled (.other v) w

def givenValue? : Given → Option Json
  | .integer n => (integerNumber? n).map .number
  | .other v => some v

theorem givenJudged : JudgesMember GivenSpelled givenValue? := by
  intro given b w bound tail blank spelled enough stops
  cases spelled with
  | integer n =>
    rw [givenValue?, Option.map_map]
    exact Json.numeralJudged n _ bound _ blank stops
  | other whole => exact wholeJudged _ b w bound tail blank whole enough stops

/-- The text is read as the record, and its last value of the name is the numeral of the integer. -/
structure Supplies (source : Bytes) (r : Record) (key : String) (n : Int) : Prop where
  read : parse source = .ok r
  given : ∃ members, SpelledIn GivenSpelled members source ∧ members.reverse.lookup key = some (.integer n)

theorem suppliedText {source : Bytes} {r : Record} {key : String} {n : Int} (supplies : Supplies source r key n) :
    ∃ x, integerNumber? n = some x ∧ r.text? key = some (Json.number x).compact := by
  obtain ⟨read, members, text, last⟩ := supplies
  have all := (parseJudged givenJudged text).symm.trans (Json.toOptionOk.mpr read)
  obtain ⟨v, valued, found⟩ := lastRead all last
  obtain ⟨x, number, rfl⟩ := Option.map_eq_some_iff.mp valued
  refine ⟨x, number, ?_⟩
  rw [text?, found]
  rfl

theorem suppliedFits {source : Bytes} {r : Record} {key : String} {n : Int} (supplies : Supplies source r key n)
    (fits : Fits n) : r.text? key = some (toString n) := by
  obtain ⟨x, number, text⟩ := suppliedText supplies
  rw [Json.integerFits fits] at number
  cases number
  rw [text, Json.compactInteger]

theorem suppliedBeyond {source : Bytes} {r : Record} {key : String} {n : Int} (supplies : Supplies source r key n)
    (beyond : ¬ Fits n) (m : Int) : r.text? key ≠ some (toString m) := by
  obtain ⟨x, number, text⟩ := suppliedText supplies
  obtain ⟨negative, y, rfl⟩ := Json.integerFloats beyond number
  intro same
  have written : Json.Number.write (.float negative y) = numeral m := by
    have chars := congrArg String.toList (Option.some.inj (text.symm.trans same))
    rwa [Json.compact, String.toList_ofList, Json.write] at chars
  exact Json.floatWritten negative y m written

theorem suppliedKey {source : Bytes} {e : Submission} {n : Int} (supplies : Supplies source e.record s.key n) :
    e.record.text? s.key = some (e.key s) := by
  obtain ⟨x, _, text⟩ := suppliedText supplies
  rw [Submission.key, text, Option.getD_some]

theorem suppliedApart {source source' : Bytes} {a b : Submission} {n m : Int}
    (first : Supplies source a.record s.key n) (second : Supplies source' b.record s.key m) (other : n ≠ m)
    (fits : Fits n ∨ Fits m) : a.key s ≠ b.key s := by
  intro same
  have texts : a.record.text? s.key = b.record.text? s.key := by rw [suppliedKey first, suppliedKey second, same]
  by_cases left : Fits n
  · rw [suppliedFits first left] at texts
    by_cases right : Fits m
    · rw [suppliedFits second right] at texts
      exact other (Json.numeralInjective (congrArg String.toList (Option.some.inj texts)))
    · exact suppliedBeyond second right n texts.symm
  · have right := fits.resolve_left left
    rw [suppliedFits second right] at texts
    exact suppliedBeyond first left m texts

def SideBySide (s : Schema) (a b : Submission) : Prop :=
  ∀ t : Table s, ∃ t₁ t₂, a.create (Store.memory s) t = (.ok (a.row s).toRecord, t₁) ∧
    b.create (Store.memory s) t₁ = (.ok (b.row s).toRecord, t₂) ∧
    t₂.get? (a.key s) = some (a.row s) ∧ t₂.get? (b.key s) = some (b.row s)

theorem apartSideBySide {a b : Submission} (apart : a.key s ≠ b.key s) : SideBySide s a b := by
  intro t
  refine ⟨_, _, Clients.created a t, Clients.created b _, ?_, ?_⟩
  · rw [Ordered.getInsert, if_neg apart, Ordered.getInsert, if_pos rfl]
  · rw [Ordered.getInsert, if_pos rfl]

/-- What becomes of a text's integers, of which one is the last value of a name. The text is read when
they are all within 64 bits. In the record that is read, the integer keeps its numeral if and only if
it is within 64 bits. And it is the key of a row of its own, beside that of any other integer that a
text gives as a key, if one of the two is within 64 bits. -/
theorem integersKept {members : List (String × Given)} {source : Bytes} (text : SpelledIn GivenSpelled members source)
    {key : String} {n : Int} (last : members.reverse.lookup key = some (.integer n)) :
    ((∀ e ∈ members, ∀ m, e.2 = .integer m → Fits m) → ∃ r, parse source = .ok r) ∧
    (∀ r, parse source = .ok r → (r.text? key = some (toString n) ↔ Fits n)) ∧
    ∀ (s : Schema) (a b : Submission) (source' : Bytes) (m : Int), s.key = key → parse source = .ok a.record →
      Supplies source' b.record key m → n ≠ m → Fits n ∨ Fits m → a.key s ≠ b.key s ∧ SideBySide s a b := by
  have supplied {r : Record} (read : parse source = .ok r) : Supplies source r key n := ⟨read, members, text, last⟩
  refine ⟨fun fits => ?_, fun r read => ⟨fun kept => ?_, suppliedFits (supplied read)⟩, ?_⟩
  · have taken : ∀ e ∈ members, ∃ v, givenValue? e.2 = some v := by
      rintro ⟨name, given⟩ member
      cases given with
      | integer m => exact ⟨_, by rw [givenValue?, Json.integerFits (fits _ member m rfl)]; rfl⟩
      | other v => exact ⟨v, rfl⟩
    obtain ⟨r, all⟩ := allTaken taken Ordered.empty
    exact ⟨r, Json.toOptionOk.mp ((parseJudged givenJudged text).trans all)⟩
  · by_contra beyond
    exact suppliedBeyond (supplied read) beyond n kept
  · rintro s a b source' m rfl read second other fits
    have apart := suppliedApart (supplied read) second other fits
    exact ⟨apart, apartSideBySide apart⟩

def idText (n : Int) : Bytes := bytesOf ("\x7b\"record_id\":" ++ toString n ++ "\x7d")

def idRecord (text : String) : Record := Ordered.ofList [("record_id", some text)]

theorem idSpelled (n : Int) : SpelledIn GivenSpelled [("record_id", .integer n)] (idText n) := by
  have spelled : ObjectSpelled GivenSpelled [("record_id", .integer n)] _ :=
    .filled .none (.named (Json.textWritten "record_id") (.colon .none .none (.integer n))) (.close .none)
  refine ⟨[], _, [], Blank.none, spelled, Blank.none, ?_⟩
  have name : Json.writeText "record_id" = "\"record_id\"".toList := by decide
  rw [name, idText, bytesOf]
  simp [numeral]

/-- The largest integer that keeps its numeral, and the next two, which share one text. -/
theorem integersKeptLargest :
    SpelledIn GivenSpelled [("record_id", .integer 18446744073709551615)] (idText 18446744073709551615) ∧
    parse (idText 18446744073709551615) = .ok (idRecord "18446744073709551615") ∧
    (idRecord "18446744073709551615").text? "record_id" = some (toString (18446744073709551615 : Int)) ∧
    Supplies (idText 18446744073709551616) (idRecord "1.8446744073709552e+19") "record_id" 18446744073709551616 ∧
    Supplies (idText 18446744073709551617) (idRecord "1.8446744073709552e+19") "record_id" 18446744073709551617 ∧
    (idRecord "1.8446744073709552e+19").text? "record_id" ≠ some (toString (18446744073709551616 : Int)) ∧
    SideBySide Service.customer.schema ⟨"k", idRecord "18446744073709551615"⟩
      ⟨"l", idRecord "1.8446744073709552e+19"⟩ := by
  have last (n : Int) : [("record_id", Given.integer n)].reverse.lookup "record_id" = some (.integer n) := rfl
  have read : parse (idText 18446744073709551615) = .ok (idRecord "18446744073709551615") := by decide +kernel
  have beyond : parse (idText 18446744073709551616) = .ok (idRecord "1.8446744073709552e+19") := by decide +kernel
  have collides : parse (idText 18446744073709551617) = .ok (idRecord "1.8446744073709552e+19") := by decide +kernel
  have next : Supplies (idText 18446744073709551616) (idRecord "1.8446744073709552e+19") "record_id"
      18446744073709551616 := ⟨beyond, _, idSpelled _, last _⟩
  obtain ⟨_, largest, apart⟩ := integersKept (idSpelled 18446744073709551615) (last _)
  obtain ⟨_, lost, _⟩ := integersKept (idSpelled 18446744073709551616) (last _)
  exact ⟨idSpelled _, read, (largest _ read).mpr (by decide), next, ⟨collides, _, idSpelled _, last _⟩,
    mt (lost _ beyond).mp (by decide),
    (apart Service.customer.schema ⟨"k", _⟩ ⟨"l", _⟩ _ _ rfl read next (by decide) (Or.inl (by decide))).2⟩

end Storefront.Record
