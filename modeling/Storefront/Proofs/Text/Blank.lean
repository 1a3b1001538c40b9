import Mathlib.Data.List.TakeWhile
import Storefront.Text.Blank

/-! Blank characters by their numbers, and texts in which a character is none of them. Trimming
takes the blanks off both ends of a text, and nothing else. -/
namespace Storefront.Text

/-- The numbers of the characters with the property `White_Space`. -/
def whiteSpace : List Nat :=
  [0x09, 0x0A, 0x0B, 0x0C, 0x0D, 0x20, 0x85, 0xA0, 0x1680, 0x2000, 0x2001, 0x2002, 0x2003, 0x2004, 0x2005, 0x2006,
    0x2007, 0x2008, 0x2009, 0x200A, 0x2028, 0x2029, 0x202F, 0x205F, 0x3000]

theorem blankNumber (c : Char) : isBlank c = true ↔ c.toNat ∈ whiteSpace := by
  unfold isBlank whiteSpace
  simp only [Bool.or_eq_true, Bool.and_eq_true, decide_eq_true_eq, beq_iff_eq, List.mem_cons, List.not_mem_nil,
    or_false]
  omega

def Visible (s : String) : Prop := ∃ c ∈ s.toList, c.toNat ∉ whiteSpace

theorem visibleRead {s : String} : Visible s ↔ allBlank s = false := by
  simp only [Visible, allBlank, List.all_eq_false, blankNumber]

instance (s : String) : Decidable (Visible s) := decidable_of_iff _ visibleRead.symm

def Blanks (cs : List Char) : Prop := ∀ c ∈ cs, isBlank c = true

def Solid (cs : List Char) : Prop := ∀ c ∈ cs, isBlank c = false

theorem Blanks.reverse {cs : List Char} (blanks : Blanks cs) : Blanks cs.reverse := fun c member =>
  blanks c (List.mem_reverse.mp member)

theorem Solid.reverse {cs : List Char} (solid : Solid cs) : Solid cs.reverse := fun c member =>
  solid c (List.mem_reverse.mp member)

theorem trimLeftSplit (cs : List Char) : ∃ before, Blanks before ∧ cs = before ++ trimLeft cs :=
  ⟨cs.takeWhile isBlank, fun _ member => List.mem_takeWhile_imp member, List.takeWhile_append_dropWhile.symm⟩

theorem trimSplit (cs : List Char) : ∃ before after, Blanks before ∧ Blanks after ∧ cs = before ++ trim cs ++ after := by
  obtain ⟨before, leading, whole⟩ := trimLeftSplit cs
  obtain ⟨after, trailing, rest⟩ := trimLeftSplit (trimLeft cs).reverse
  have left : trimLeft cs = trim cs ++ after.reverse := by
    rw [trim, ← List.reverse_append, ← rest, List.reverse_reverse]
  refine ⟨before, after.reverse, leading, trailing.reverse, ?_⟩
  rw [List.append_assoc, ← left]
  exact whole

theorem trimLeftBlanks {before : List Char} (blanks : Blanks before) (cs : List Char) :
    trimLeft (before ++ cs) = trimLeft cs := List.dropWhile_append_of_pos blanks

theorem trimLeftSolid {c : Char} {cs : List Char} (solid : Solid (c :: cs)) (after : List Char) :
    trimLeft (c :: cs ++ after) = c :: cs ++ after := by
  have first := solid c List.mem_cons_self
  rw [List.cons_append, trimLeft, List.dropWhile_cons, first]
  rfl

theorem trimPadded {before inner after : List Char} (leading : Blanks before) (trailing : Blanks after)
    (solid : Solid inner) : trim (before ++ inner ++ after) = inner := by
  cases inner with
  | nil =>
    have nothing : trimLeft after = [] := by
      rw [← List.append_nil after, trimLeftBlanks trailing]
      rfl
    rw [trim, List.append_nil, trimLeftBlanks leading, nothing]
    rfl
  | cons c rest =>
    have first : trimLeft (before ++ (c :: rest) ++ after) = c :: rest ++ after := by
      rw [List.append_assoc, trimLeftBlanks leading, trimLeftSolid solid]
    have last : trimLeft (c :: rest).reverse = (c :: rest).reverse := by
      cases whole : (c :: rest).reverse with
      | nil => rfl
      | cons d more =>
        have kept := trimLeftSolid (whole ▸ solid.reverse) []
        rwa [List.append_nil] at kept
    rw [trim, first, List.reverse_append, trimLeftBlanks trailing.reverse, last, List.reverse_reverse]

theorem blankOutside {leading inner trailing before after : List Char} (first : Blanks leading) (last : Blanks trailing)
    (solid : Solid inner) {c : Char} (blank : isBlank c = true)
    (parts : before ++ c :: after = leading ++ (inner ++ trailing)) : Blanks before ∨ Blanks after := by
  have behind (rest : List Char) (tail : trailing = rest ++ c :: after) : Blanks after := by
    subst tail
    exact fun d member => last d (List.mem_append_right rest (List.mem_cons_of_mem c member))
  rcases List.append_eq_append_iff.mp parts.symm with ⟨between, _, rest⟩ | ⟨more, front, _⟩
  · rcases List.append_eq_append_iff.mp rest with ⟨more, _, tail⟩ | ⟨more, middle, tail⟩
    · exact Or.inr (behind more tail)
    · cases more with
      | nil => exact Or.inr (behind [] tail.symm)
      | cons d more =>
        obtain ⟨rfl, _⟩ := List.cons.inj tail
        have both := solid c (middle ▸ List.mem_append_right between List.mem_cons_self)
        rw [blank] at both
        contradiction
  · subst front
    exact Or.inl fun d member => first d (List.mem_append_left more member)

theorem solidKept {leading inner trailing : List Char} (first : Blanks leading) (last : Blanks trailing)
    (solid : Solid inner) : (leading ++ inner ++ trailing).filter (fun c => !isBlank c) = inner := by
  have none {cs : List Char} (blanks : Blanks cs) : cs.filter (fun c => !isBlank c) = [] :=
    List.filter_eq_nil_iff.mpr fun c member => by rw [blanks c member]; decide
  have every : inner.filter (fun c => !isBlank c) = inner :=
    List.filter_eq_self.mpr fun c member => by rw [solid c member]; rfl
  rw [List.filter_append, List.filter_append, none first, none last, every, List.nil_append, List.append_nil]

end Storefront.Text
