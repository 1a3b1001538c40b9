import Mathlib.Data.List.Forall2
import Mathlib.Tactic.IntervalCases
import Storefront.Config
import Storefront.Proofs.Text.Blank
import Storefront.Proofs.Text.Utf8

/-! The texts that name a service: its name with any letters in upper case and any hyphens as
underscores, between blanks. Reading accepts these and tells which service they name; any other
text comes back as it was, as the name of no service. -/
namespace Storefront

namespace Service
open Text (Blanks Solid)

/-- How a character of a name may be written. Only the letters of ASCII have an upper case here. -/
def Variant (c d : Char) : Prop := d = c ∨ d = c.toUpper ∨ (c = '-' ∧ d = '_')

def NamedBy (k : Service) (s : String) : Prop :=
  ∃ before name after, Blanks before ∧ Blanks after ∧ List.Forall₂ Variant k.name.toList name ∧
    s.toList = before ++ name ++ after

theorem letterBetween {a b c : Char} (low : a ≤ c) (high : c ≤ b) :
    ∃ n ≤ b.toNat - a.toNat, c = Char.ofNat (a.toNat + n) := by
  simp only [Char.le_def, UInt32.le_iff_toNat_le] at low high
  refine ⟨c.toNat - a.toNat, Nat.sub_le_sub_right high _, ?_⟩
  have value : a.toNat + (c.toNat - a.toNat) = c.toNat := Nat.add_sub_cancel' low
  rw [value, Char.ofNat_toNat]

theorem upperOfLower {d : Char} (upper : d.isUpper = true) : d.toLower.toUpper = d := by
  obtain ⟨low, high⟩ := of_decide_eq_true upper
  obtain ⟨n, bound, rfl⟩ := letterBetween (a := 'A') (b := 'Z') low high
  have small : n ≤ 25 := bound
  interval_cases n <;> rfl

theorem foldVariant (d : Char) : Variant (foldChar d) d := by
  unfold foldChar
  split
  · rename_i underscore
    exact Or.inr (Or.inr ⟨rfl, underscore⟩)
  · cases upper : d.isUpper with
    | true => exact Or.inr (Or.inl (upperOfLower upper).symm)
    | false =>
      have same : d.toLower = d := dif_neg (of_decide_eq_false upper)
      exact Or.inl same.symm

def Plain (c : Char) : Prop := c = '-' ∨ ('a' ≤ c ∧ c ≤ 'z')

instance (c : Char) : Decidable (Plain c) := inferInstanceAs (Decidable (_ ∨ _))

theorem namePlain (k : Service) : ∀ c ∈ k.name.toList, Plain c := by
  have every : k.name.toList.all (fun c => Plain c) = true := by cases k <;> decide
  exact fun c member => of_decide_eq_true (List.all_eq_true.mp every c member)

theorem variantFolded {c d : Char} (plain : Plain c) (variant : Variant c d) :
    foldChar d = c ∧ Text.isBlank d = false ∧ d.toNat < 128 := by
  rcases plain with rfl | ⟨low, high⟩
  · rcases variant with rfl | rfl | ⟨_, rfl⟩ <;> decide
  · obtain ⟨n, bound, rfl⟩ := letterBetween low high
    have small : n ≤ 25 := bound
    rcases variant with rfl | rfl | ⟨hyphen, _⟩
    · interval_cases n <;> decide
    · interval_cases n <;> decide
    · interval_cases n <;> exact absurd hyphen (by decide)

theorem nameFolded {name spelled : List Char} (plain : ∀ c ∈ name, Plain c)
    (variants : List.Forall₂ Variant name spelled) :
    spelled.map foldChar = name ∧ Solid spelled ∧ ∀ d ∈ spelled, d.toNat < 128 := by
  induction variants with
  | nil => exact ⟨rfl, by simp [Solid]⟩
  | @cons c d name spelled variant rest ih =>
    obtain ⟨folded, solid, ascii⟩ := variantFolded (plain c List.mem_cons_self) variant
    obtain ⟨allFolded, allSolid, allAscii⟩ := ih fun e member => plain e (List.mem_cons_of_mem c member)
    exact ⟨by rw [List.map_cons, folded, allFolded], List.forall_mem_cons.mpr ⟨solid, allSolid⟩,
      List.forall_mem_cons.mpr ⟨ascii, allAscii⟩⟩

theorem foldNamed {k : Service} {s : String} : fold s.toList = k.name.toList ↔ k.NamedBy s := by
  constructor
  · intro folded
    obtain ⟨before, after, leading, trailing, whole⟩ := Text.trimSplit s.toList
    refine ⟨before, Text.trim s.toList, after, leading, trailing, ?_, whole⟩
    rw [← folded, fold, List.forall₂_map_left_iff, List.forall₂_same]
    exact fun d _ => foldVariant d
  · rintro ⟨before, spelled, after, leading, trailing, variants, whole⟩
    obtain ⟨folded, solid, _⟩ := nameFolded (namePlain k) variants
    rw [fold, whole, Text.trimPadded leading trailing solid, folded]

theorem nameInjective (j k : Service) : j.name = k.name → j = k := by
  cases j <;> cases k <;> decide

theorem ofNameNamed {s : String} {k : Service} : ofName? s = some k ↔ k.NamedBy s := by
  rw [← foldNamed]
  constructor
  · intro found
    have same := List.find?_some found
    exact (of_decide_eq_true same).symm
  · intro folded
    have listed : k ∈ all := by cases k <;> decide
    cases found : ofName? s with
    | none => exact absurd (decide_eq_true folded.symm) (List.find?_eq_none.mp found k listed)
    | some j =>
      have same := List.find?_some found
      have equal : j.name = k.name := String.toList_inj.mp ((of_decide_eq_true same).trans folded)
      rw [nameInjective j k equal]

theorem ofNameNone {s : String} : ofName? s = none ↔ ∀ k : Service, ¬ k.NamedBy s := by
  simp only [Option.eq_none_iff_forall_ne_some, ne_eq, ofNameNamed]

theorem readText (s : String) :
    Config.readService (some (bytesOf s)) = ((ofName? s).map .ok).getD (.error (.unknownService s)) := by
  rw [Config.readService, Text.Utf8.textRead.mpr rfl]
  dsimp only
  cases ofName? s <;> rfl

theorem NamedBy.count {k : Service} {s : String} (named : k.NamedBy s) :
    (s.toList.filter fun c => !Text.isBlank c).length = k.name.toList.length := by
  obtain ⟨before, name, after, leading, trailing, variants, whole⟩ := named
  obtain ⟨_, solid, _⟩ := nameFolded (namePlain k) variants
  rw [whole, Text.solidKept leading trailing solid, variants.length_eq]

structure NameLaw (s : String) : Prop where
  known : ∀ k, ofName? s = some k ↔ k.NamedBy s
  read : ∀ k : Service, k.NamedBy s → Config.readService (some (bytesOf s)) = .ok k
  unknown : (∀ k : Service, ¬ k.NamedBy s) →
    Config.readService (some (bytesOf s)) = .error (.unknownService s)
  single : ∀ j k : Service, j.NamedBy s → k.NamedBy s → j = k
  inside : ∀ before c after, s.toList = before ++ c :: after → Text.isBlank c = true → ¬ Blanks before →
    ¬ Blanks after → ofName? s = none
  foreign : ∀ c ∈ s.toList, Text.isBlank c = false → 128 ≤ c.toNat → ofName? s = none
  longer : ∀ (k : Service) (more : String), k.NamedBy s → ¬ Blanks more.toList → ¬ k.NamedBy (s ++ more)

theorem namesRead (s : String) : NameLaw s where
  known _ := ofNameNamed
  read k named := by
    rw [readText, ofNameNamed.mpr named]
    rfl
  unknown unnamed := by
    rw [readText, ofNameNone.mpr unnamed]
    rfl
  single j k first second :=
    Option.some.inj ((ofNameNamed.mpr first).symm.trans (ofNameNamed.mpr second))
  inside before c after parts blank open₁ open₂ := by
    refine ofNameNone.mpr fun k ⟨leading, name, trailing, first, last, variants, whole⟩ => ?_
    obtain ⟨_, solid, _⟩ := nameFolded (namePlain k) variants
    rw [List.append_assoc] at whole
    rcases Text.blankOutside first last solid blank (parts.symm.trans whole) with none | none
    · exact open₁ none
    · exact open₂ none
  foreign c member solid high := by
    refine ofNameNone.mpr fun k ⟨leading, name, trailing, first, last, variants, whole⟩ => ?_
    obtain ⟨_, _, ascii⟩ := nameFolded (namePlain k) variants
    have outside {cs : List Char} (blanks : Blanks cs) : c ∉ cs := fun inside => by
      rw [blanks c inside] at solid
      contradiction
    rw [whole, List.mem_append, List.mem_append] at member
    rcases member with (before | within) | after
    · exact outside first before
    · exact absurd (ascii c within) (Nat.not_lt.mpr high)
    · exact outside last after
  longer k more named filled := by
    intro again
    have count := again.count
    rw [String.toList_append, List.filter_append, List.length_append, named.count, Nat.add_eq_left,
      List.length_eq_zero_iff, List.filter_eq_nil_iff] at count
    exact filled fun c member => by simpa using count c member

end Service

end Storefront
