import Storefront.EnvFile
import Storefront.Proofs.Text.Utf8

/-! Variables and environment files. Setting a variable leaves those of other names as they are,
and a file leaves every variable as it is that is set to a text. -/
namespace Storefront

namespace Variables
open Text.Utf8 (asciiMember bytesInjective)

theorem stemPart {name : String} {e : Bytes} (begins : (stem name).isPrefixOf e = true) :
    ∃ value, e = bytesOf name ++ 0x3D :: value := by
  obtain ⟨value, rfl⟩ := List.isPrefixOf_iff_prefix.mp begins
  exact ⟨value, by rw [stem, List.append_assoc]; rfl⟩

theorem nameTaken {name : String} (plain : '=' ∉ name.toList) (value : Bytes) :
    (bytesOf name ++ 0x3D :: value).takeWhile (· ≠ 0x3D) = bytesOf name := by
  have apart : ∀ b ∈ bytesOf name, decide (b ≠ 0x3D) = true := by
    intro b member
    refine decide_eq_true fun same => plain (asciiMember (by decide) ?_)
    rw [same] at member
    exact member
  rw [List.takeWhile_append_of_pos apart]
  simp

theorem sameName {a b : String} (plainA : '=' ∉ a.toList) (plainB : '=' ∉ b.toList) {e : Bytes}
    (left : (stem a).isPrefixOf e = true) (right : (stem b).isPrefixOf e = true) : a = b := by
  obtain ⟨v, rfl⟩ := stemPart left
  obtain ⟨w, same⟩ := stemPart right
  apply bytesInjective
  rw [← nameTaken plainA v, same, nameTaken plainB w]

theorem stemBegins (name : String) (value : Bytes) : (stem name).isPrefixOf (stem name ++ value) = true :=
  List.isPrefixOf_iff_prefix.mpr (List.prefix_append _ _)

theorem getSetOther {name other : String} (plain : '=' ∉ name.toList) (plainOther : '=' ∉ other.toList)
    (apart : name ≠ other) (value : Bytes) (vars : Variables) : (vars.set other value).get? name = vars.get? name := by
  have foreign : ∀ e : Bytes, (stem other).isPrefixOf e = true → (stem name).isPrefixOf e = false := by
    intro e begins
    cases own : (stem name).isPrefixOf e with
    | false => rfl
    | true => exact absurd (sameName plain plainOther own begins) apart
  have written := foreign _ (stemBegins other value)
  unfold get?
  congr 1
  induction vars with
  | nil => simp [set, written]
  | cons e rest ih =>
    rw [set]
    cases begins : (stem other).isPrefixOf e with
    | true => simp [written, foreign e begins]
    | false => simp [List.find?_cons, ih]

end Variables

namespace EnvFile

theorem readNamePlain {cs name rest : List Char} (ok : readName cs = some (name, rest)) : '=' ∉ name := by
  cases cs with
  | nil => contradiction
  | cons c cs =>
    rw [readName] at ok
    split at ok
    · rename_i start
      cases ok
      intro member
      cases member with
      | head => exact absurd start (by decide)
      | tail _ later =>
        have kind := List.all_eq_true.mp List.all_takeWhile '=' later
        exact absurd kind (by decide)
    · contradiction

theorem readAssignmentPlain {cs name text : List Char} (ok : readAssignment cs = some (name, text)) : '=' ∉ name := by
  simp only [readAssignment, bind, Option.bind_eq_some_iff] at ok
  obtain ⟨⟨first, rest⟩, head, ok⟩ := ok
  dsimp only at ok
  split at ok
  · simp only [Option.bind_eq_some_iff] at ok
    obtain ⟨⟨second, rest⟩, next, text, _, last⟩ := ok
    cases last
    exact readNamePlain next
  · simp only [Option.bind_eq_some_iff] at ok
    obtain ⟨text, _, last⟩ := ok
    cases last
    exact readNamePlain head

variable {name s : String}

theorem assignKeeps (plain : '=' ∉ name.toList) {p : Progress} (set : text? p.current name = some s) {other : String}
    (plainOther : '=' ∉ other.toList) (value : String) : text? (p.assign other value).current name = some s := by
  unfold Progress.assign
  dsimp only
  split
  · exact set
  · rename_i unset
    have apart : name ≠ other := by
      rintro rfl
      rw [set] at unset
      exact unset rfl
    rw [text?, Variables.getSetOther plain plainOther apart]
    exact set

theorem readLineKeeps (plain : '=' ∉ name.toList) {p next : Progress} (set : text? p.current name = some s)
    {line : List Char} (ok : p.readLine line = some next) : text? next.current name = some s := by
  unfold Progress.readLine at ok
  split at ok
  · cases ok
    exact set
  · cases ok
    exact set
  · simp only [bind, Option.bind_eq_some_iff] at ok
    obtain ⟨⟨other, text⟩, assignment, ok⟩ := ok
    obtain ⟨value, last⟩ : ∃ value, p.assign (String.ofList other) value = next := by
      dsimp only at ok
      split at ok
      · obtain ⟨value, _, last⟩ := Option.bind_eq_some_iff.mp ok
        exact ⟨_, Option.some.inj last⟩
      · obtain ⟨value, _, last⟩ := Option.bind_eq_some_iff.mp ok
        exact ⟨_, Option.some.inj last⟩
    subst last
    have plainOther := readAssignmentPlain assignment
    rw [← String.toList_ofList (l := other)] at plainOther
    exact assignKeeps plain set plainOther _

theorem readLinesKeep (plain : '=' ∉ name.toList) {p : Progress} (set : text? p.current name = some s)
    (lines : List Bytes) : text? (p.readLines lines).current name = some s := by
  induction lines generalizing p with
  | nil => exact set
  | cons line rest ih =>
    unfold Progress.readLines
    split
    · rename_i next ok
      obtain ⟨cs, _, ok⟩ := Option.bind_eq_some_iff.mp ok
      exact ih (readLineKeeps plain set ok)
    · exact set

theorem loadKeeps (plain : '=' ∉ name.toList) {vars : Variables} (set : text? vars name = some s) (file : Bytes) :
    text? (load vars file) name = some s :=
  readLinesKeep plain set (Text.split 0x0A file)

end EnvFile

end Storefront
