import Storefront.Proofs.Record.Spelling

/-! A record's JSON text is read as that record. -/
namespace Storefront.Record
open Json (ObjectSpelled CellSpelled Blank)

theorem jsonWritten (r : Record) : r.json.toList = r.toJson.write := by
  rw [json, Json.compact, String.toList_ofList]

theorem jsonSpelled (r : Record) : ObjectSpelled CellSpelled r.entries r.json.toList := by
  rw [jsonWritten]
  exact Json.objectWritten fun e _ => Json.cellWritten e.2

theorem ofMembersEntries (r : Record) : ofMembers Json.ofCell r.entries = r := by
  rw [ofMembersCells, Ordered.ofListEntries]

theorem readJson (r : Record) (embedded : Bytes → Except Json.Refusal Json) {bound : Nat} (tail : Bytes)
    (enough : (bytesOf r.json).length ≤ bound) :
    read embedded bound (bytesOf r.json ++ tail) = .ok (r, tail) := by
  have taken := objectTaken (Json.cellValue embedded _) Blank.none r.jsonSpelled enough tail
  rw [List.nil_append, ofMembersEntries] at taken
  rw [bytesOf, taken]

theorem parseJson (r : Record) : parse (bytesOf r.json) = .ok r := by
  have parsed := parseCells Blank.none r.jsonSpelled Blank.none
  rw [Ordered.ofListEntries, List.nil_append, List.append_nil] at parsed
  rw [bytesOf, parsed]

def rewrite (source : Bytes) : Except Json.Refusal String := (parse source).map json

/-- A record is read back from its text as it was, keys and values in their order, so that a text
that has been rewritten once is not changed by being rewritten again. -/
theorem rewriteSettles :
    (∀ r : Record, parse (bytesOf r.json) = .ok r) ∧
    ∀ source, ((rewrite source).bind fun text => rewrite (bytesOf text)) = rewrite source := by
  refine ⟨parseJson, fun source => ?_⟩
  unfold rewrite
  cases read : parse source with
  | error refusal => rfl
  | ok r =>
    simp only [Except.map, Except.bind, parseJson]

end Storefront.Record
