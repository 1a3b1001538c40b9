import Storefront.Proofs.Json.Writer
import Storefront.Proofs.Ordered
import Storefront.Proofs.Record.Reader

/-! Spelled objects as records. The record has each name once, with what the last value of the
name stands for. -/
namespace Storefront
open Text.Utf8 (encode encodeAppend encodeInside)

namespace Json

inductive CellSpelled : Option String → List Char → Prop where
  | null : CellSpelled none ['n', 'u', 'l', 'l']
  | text {s : String} {w : List Char} (spelled : TextSpelled s w) : CellSpelled (some s) w

def ofCell (v : Option String) : Json := (v.map text).getD .null

theorem cellWritten (v : Option String) : CellSpelled v (write (ofCell v)) := by
  cases v with
  | none => exact .null
  | some s =>
    rw [ofCell, Option.map_some, Option.getD_some, write]
    exact .text (textWritten s)

theorem cellValue (embedded : Bytes → Except Refusal Json) (depth : Nat) :
    ReadsSpelled CellSpelled (fun bound => readValue embedded bound depth) ofCell := by
  intro v b w bound tail blank spelled enough stops
  dsimp only
  rw [encodeAppend, List.append_assoc, blankValue blank]
  cases spelled with
  | null => exact nullReadsBack depth embedded bound tail enough stops
  | text spelled => exact textValue spelled embedded depth tail enough

end Json

namespace Record
open Json (ReadsSpelled TakesSpelled ObjectSpelled CellSpelled Blank)

variable {α : Type} {value : α → List Char → Prop} {result : α → Json}

theorem normalizeCell (v : Option String) : normalize (Json.ofCell v) = v := by
  cases v with
  | none => rfl
  | some text => rfl

theorem takeSpelled {embedded : Bytes → Except Json.Refusal Json}
    (law : ReadsSpelled value (fun bound => Json.readValue embedded bound (Json.deepest - 1)) result) :
    TakesSpelled value (take embedded) (fun _ _ => True) fun r e => r.insert e.1 (normalize (result e.2)) := by
  intro bound r name v w tail _ spelled enough stops
  rw [take, Json.colonRead law spelled name enough stops]
  rfl

def ofMembers (result : α → Json) (members : List (String × α)) : Record :=
  Ordered.ofList (members.map fun e => (e.1, normalize (result e.2)))

theorem objectTaken {embedded : Bytes → Except Json.Refusal Json}
    (law : ReadsSpelled value (fun bound => Json.readValue embedded bound (Json.deepest - 1)) result)
    {members : List (String × α)} {b w : List Char} (blank : Blank b) (spelled : ObjectSpelled value members w)
    {bound : Nat} (enough : (encode w).length ≤ bound) (tail : Bytes) :
    read embedded bound (encode (b ++ w) ++ tail) = .ok (ofMembers result members, tail) := by
  have steps := Nat.lt_of_lt_of_le spelled.count enough
  obtain ⟨inside, rfl, ok⟩ := Json.objectRead (takeSpelled law) spelled enough steps
    (Json.allFit (fun _ _ => trivial) members Ordered.empty) tail
  rw [read, blank.skipped (by decide) (by decide)]
  dsimp only
  rw [if_pos rfl, ok, ofMembers, Ordered.ofList, List.foldl_map]

theorem parseObject (law : ∀ embedded,
      ReadsSpelled value (fun bound => Json.readValue embedded bound (Json.deepest - 1)) result)
    {members : List (String × α)} {a w z : List Char} (before : Blank a) (spelled : ObjectSpelled value members w)
    (after : Blank z) : parse (encode (a ++ w ++ z)) = .ok (ofMembers result members) := by
  refine parseOk.mpr ⟨encode z, ?_, after.spaces⟩
  have inside := Nat.le_succ_of_le (encodeInside a w z)
  have read := objectTaken (law (Json.embeddedIn (encode (a ++ w ++ z)))) before spelled inside (encode z)
  rwa [← encodeAppend] at read

theorem ofMembersCells (members : List (String × Option String)) :
    ofMembers Json.ofCell members = Ordered.ofList members := by
  have same : members.map (fun e => (e.1, normalize (Json.ofCell e.2))) = members := by
    simp only [normalizeCell]
    exact List.map_id members
  rw [ofMembers, same]

theorem parseCells {members : List (String × Option String)} {a w z : List Char} (before : Blank a)
    (spelled : ObjectSpelled CellSpelled members w) (after : Blank z) :
    parse (encode (a ++ w ++ z)) = .ok (Ordered.ofList members) := by
  rw [← ofMembersCells]
  exact parseObject (fun embedded => Json.cellValue embedded _) before spelled after

end Record

end Storefront
