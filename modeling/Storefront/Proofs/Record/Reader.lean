import Storefront.Proofs.Json.Local
import Storefront.Record.Reader

/-! The record at the start of a text is the record that some beginning of the text is. -/
namespace Storefront.Record
open Json (Setting Local)

theorem takeLocal (r : Record) (name : String) : Local fun a => take a.embedded a.bound r name := by
  intro a bs found rest ok
  dsimp only at ok
  rw [take, Json.okBind] at ok
  obtain ⟨⟨v, bs'⟩, member, ok⟩ := ok
  cases ok
  obtain ⟨used, rfl, nonempty, taken⟩ := Json.memberLocal (Json.valueLocal (Json.deepest - 1)) name _ _ _ _ member
  refine ⟨used, rfl, nonempty, fun b tail serves stops => ?_⟩
  dsimp only at taken ⊢
  rw [take, taken b tail serves stops]
  rfl

theorem recordTaken {a : Setting} {bs rest : Bytes} {r : Record}
    (ok : read a.embedded a.bound bs = .ok (r, rest)) :
    ∃ used, bs = used ++ rest ∧
      ∀ b tail, a.Serves b used.length → read b.embedded b.bound (used ++ tail) = .ok (r, tail) := by
  unfold read at ok
  split at ok
  · contradiction
  · rename_i b bs' found
    obtain ⟨blank, rfl, spaces, solid⟩ := Json.spaceTaken found
    split at ok
    · rename_i brace
      obtain ⟨used, rfl, _, _, again⟩ := Json.membersTaken takeLocal ok
      refine ⟨blank ++ b :: used, by simp, fun s tail serves => ?_⟩
      simp only [List.length_append, List.length_cons] at serves
      have inner := serves.shorter (show used.length ≤ _ by omega)
      rw [List.append_assoc, List.cons_append, read, Json.spaceSkipped spaces solid]
      simp only [if_pos brace]
      exact again s s.bound tail inner inner.bound
    · exact absurd ok Json.shapeRefused

theorem parseOk {source : Bytes} {r : Record} :
    parse source = .ok r ↔
      ∃ rest, read (Json.embeddedIn source) (source.length + 1) source = .ok (r, rest) ∧
        ∀ b ∈ rest, Json.isSpace b = true := by
  rw [parse, Json.locatedOk, Json.finishOk]

theorem startOk {source : Bytes} {r : Record} :
    parseStart source = .ok r ↔
      ∃ rest, read (Json.embeddedIn source) (source.length + 1) source = .ok (r, rest) := by
  rw [parseStart, Json.locatedOk, Json.okMap]
  constructor
  · rintro ⟨⟨r, rest⟩, ok, rfl⟩
    exact ⟨rest, ok⟩
  · rintro ⟨rest, ok⟩
    exact ⟨(r, rest), ok, rfl⟩

theorem pieceServes {source source' : Bytes} {length : Nat} (le : length ≤ source'.length) :
    Setting.Serves ⟨Json.embeddedIn source, source.length + 1⟩
      ⟨Json.embeddedIn source', source'.length + 1⟩ length :=
  ⟨Nat.le_succ_of_le le, fun _ _ small inner => Json.levelsEnough inner (by omega)⟩

theorem startPrefix {source : Bytes} {r : Record} :
    parseStart source = .ok r ↔ ∃ front tail, source = front ++ tail ∧ parse front = .ok r := by
  constructor
  · intro start
    obtain ⟨rest, ok⟩ := startOk.mp start
    obtain ⟨used, rfl, taken⟩ := recordTaken (a := ⟨_, _⟩) ok
    refine ⟨used, rest, rfl, parseOk.mpr ⟨[], ?_, by simp⟩⟩
    have again := taken _ [] (pieceServes (Nat.le_refl used.length))
    rw [List.append_nil] at again
    exact again
  · rintro ⟨front, tail, rfl, whole⟩
    obtain ⟨blank, ok, _⟩ := parseOk.mp whole
    obtain ⟨used, eq, taken⟩ := recordTaken (a := ⟨_, _⟩) ok
    refine startOk.mpr ⟨blank ++ tail, ?_⟩
    have le : used.length ≤ (front ++ tail).length := by
      rw [eq]
      simp
    have again := taken _ (blank ++ tail) (pieceServes le)
    rw [← List.append_assoc, ← eq] at again
    exact again

end Storefront.Record
