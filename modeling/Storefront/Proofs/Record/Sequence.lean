import Storefront.Http.Router
import Storefront.Proofs.Json.Array
import Storefront.Proofs.Record.Writer

/-! Arrays of records are read as those records, each with its keys in their order. -/
namespace Storefront.Record
open Json (ItemBack)

def readAll (embedded : Bytes → Except Json.Refusal Json) (bound : Nat) (bs : Bytes) :
    Except Json.Stop (List Record × Bytes) :=
  match Json.skipSpace bs with
  | [] => .error (Json.stopHere .endInValue [])
  | b :: rest =>
    if b = Json.byte '[' then Json.readItems (read embedded bound) bound [] rest
    else Json.refuseShape bound "a sequence" b rest

def parseAll (source : Bytes) : Except Json.Refusal (List Record) :=
  Json.located source (Json.finish (readAll (Json.embeddedIn source) (source.length + 1) source))

theorem recordBack (embedded : Bytes → Except Json.Refusal Json) {bound : Nat} {r : Record}
    (enough : (bytesOf r.json).length ≤ bound) : ItemBack (read embedded bound) (fun r => bytesOf (json r)) r where
  begins := by
    obtain ⟨inside, text⟩ := r.jsonSpelled.begins
    have bytes : bytesOf r.json = Json.byte '\x7b' :: Text.Utf8.encode inside := by
      rw [bytesOf, text, Json.encodeAscii (by decide)]
    exact ⟨_, _, bytes, by decide, by decide⟩
  back tail _ := readJson r embedded tail enough

theorem recordsBytes (rs : List Record) :
    bytesOf (Http.recordsJson rs).compact = Json.byte '[' :: Json.itemsBytes (fun r => bytesOf (json r)) [] rs := by
  have each : (fun v => Text.Utf8.encode (Json.write v)) ∘ toJson = fun r => bytesOf (json r) := by
    funext r
    rw [bytesOf, jsonWritten]
    rfl
  have text := Json.encodeArray (rs.map toJson) []
  rw [List.append_nil] at text
  rw [bytesOf, Json.compact, String.toList_ofList, Http.recordsJson, text, Json.itemsBytesMap, each]

theorem parseAllJson (rs : List Record) : parseAll (bytesOf (Http.recordsJson rs).compact) = .ok rs := by
  rw [parseAll, Json.locatedOk, Json.finishOk]
  refine ⟨[], ?_, by simp⟩
  have count := Json.itemsCount (fun r => bytesOf (json r)) [] rs
  rw [recordsBytes, readAll, Json.solidSkipped (by decide)]
  dsimp only
  rw [if_pos rfl]
  refine Json.itemsRead (fun r among => recordBack _ ?_) ?_ []
  · have inside := Json.itemLength (fun r => bytesOf (json r)) [] among
    rw [List.length_cons]
    omega
  · rw [List.length_cons]
    omega

end Storefront.Record
