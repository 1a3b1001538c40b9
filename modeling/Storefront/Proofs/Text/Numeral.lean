import Storefront.Text.Digits
import Storefront.Text.Numeral

/-! Reading a numeral gives its value when that is within the limit. Of a text that gives none, the
fault is told by the digits in front: too large as soon as some of them pass the limit, and
otherwise, unless the text is empty, a character that is no digit or the lack of one. -/
namespace Storefront.Text

def unsigned : List Char → List Char
  | '+' :: rest => rest
  | cs => cs

def Digits (cs : List Char) : Prop := ∀ c ∈ cs, isDigit c = true

def Numeral (cs : List Char) (n : Nat) : Prop :=
  ∃ digits, (cs = digits ∨ cs = '+' :: digits) ∧ digits ≠ [] ∧ Digits digits ∧ decimal digits = n

def Exceeds (limit : Nat) (cs : List Char) : Prop :=
  ∃ part, part <+: (unsigned cs).takeWhile isDigit ∧ limit < decimal part

inductive Parsed (limit : Nat) : List Char → Except NumeralFault Nat → Prop where
  | value {cs n} (numeral : Numeral cs n) (within : n ≤ limit) : Parsed limit cs (.ok n)
  | empty : Parsed limit [] (.error .empty)
  | tooLarge {cs} (large : Exceeds limit cs) : Parsed limit cs (.error .tooLarge)
  | invalidDigit {cs} (filled : cs ≠ []) (within : ¬ Exceeds limit cs) (none : ∀ n, ¬ Numeral cs n) :
      Parsed limit cs (.error .invalidDigit)

def valueFrom (n : Nat) (cs : List Char) : Nat := cs.foldl (fun n c => n * 10 + (c.toNat - 48)) n

theorem digitsOnly {m : Nat} {c : Char} (member : c ∈ Nat.toDigits 10 m) : c.isDigit = true :=
  Nat.isDigit_of_mem_toDigits (by decide) (Nat.le_refl 10) member

theorem digitsValue (n : Nat) : valueFrom 0 (Nat.toDigits 10 n) = n := by
  have zero : '0'.toNat = 48 := rfl
  have value : Nat.ofDigitChars 10 (Nat.toDigits 10 n) 0 = n := Nat.ofDigitChars_ten_toDigits
  rw [Nat.ofDigitChars_eq_foldl] at value
  simpa only [valueFrom, Nat.mul_comm, zero] using value

inductive Reading (limit n : Nat) (cs : List Char) : Except NumeralFault Nat → Prop where
  | tooLarge (part : List Char) (leading : part <+: cs.takeWhile isDigit) (large : limit < valueFrom n part) :
      Reading limit n cs (.error .tooLarge)
  | value (digits : Digits cs) (within : ∀ part, part <+: cs.takeWhile isDigit → valueFrom n part ≤ limit) :
      Reading limit n cs (.ok (valueFrom n cs))
  | invalidDigit (other : ¬ Digits cs)
      (within : ∀ part, part <+: cs.takeWhile isDigit → valueFrom n part ≤ limit) :
      Reading limit n cs (.error .invalidDigit)

theorem digitBetween {c : Char} : isDigit c = true ↔ ¬ (c < '0' ∨ '9' < c) := by
  simp [isDigit, not_or]

theorem Reading.digit {limit n : Nat} {c : Char} {cs : List Char} {outcome : Except NumeralFault Nat}
    (fits : n ≤ limit) (digit : isDigit c = true) (reading : Reading limit (n * 10 + (c.toNat - 48)) cs outcome) :
    Reading limit n (c :: cs) outcome := by
  have front : (c :: cs).takeWhile isDigit = c :: cs.takeWhile isDigit := List.takeWhile_cons_of_pos digit
  have extended (within : ∀ part, part <+: cs.takeWhile isDigit → valueFrom (n * 10 + (c.toNat - 48)) part ≤ limit) :
      ∀ part, part <+: (c :: cs).takeWhile isDigit → valueFrom n part ≤ limit := by
    intro part leading
    cases part with
    | nil => exact fits
    | cons d rest =>
      rw [front, List.cons_prefix_cons] at leading
      obtain ⟨rfl, later⟩ := leading
      exact within rest later
  cases reading with
  | tooLarge part leading large =>
    refine .tooLarge (c :: part) ?_ large
    rw [front]
    exact List.cons_prefix_cons.mpr ⟨rfl, leading⟩
  | value digits within => exact .value (List.forall_mem_cons.mpr ⟨digit, digits⟩) (extended within)
  | invalidDigit other within =>
    exact .invalidDigit (fun digits => other (List.forall_mem_cons.mp digits).2) (extended within)

theorem numeralReading {limit n : Nat} (fits : n ≤ limit) (cs : List Char) :
    Reading limit n cs (readNumeral limit n cs) := by
  induction cs generalizing n with
  | nil =>
    refine .value (by simp [Digits]) fun part leading => ?_
    rw [List.takeWhile_nil, List.prefix_nil] at leading
    exact leading ▸ fits
  | cons c cs ih =>
    rw [readNumeral]
    split
    · rename_i other
      have digit : ¬ isDigit c = true := fun digit => digitBetween.mp digit other
      refine .invalidDigit (fun digits => digit (digits c List.mem_cons_self)) fun part leading => ?_
      rw [List.takeWhile_cons_of_neg digit, List.prefix_nil] at leading
      exact leading ▸ fits
    · rename_i inside
      have digit := digitBetween.mpr inside
      dsimp only
      split
      · rename_i large
        refine .tooLarge [c] ?_ large
        rw [List.takeWhile_cons_of_pos digit]
        exact List.cons_prefix_cons.mpr ⟨rfl, List.nil_prefix⟩
      · rename_i small
        exact (ih (Nat.not_lt.mp small)).digit fits digit

theorem unsignedCases (cs : List Char) : cs = unsigned cs ∨ cs = '+' :: unsigned cs := by
  unfold unsigned
  split
  · exact Or.inr rfl
  · exact Or.inl rfl

theorem unsignedDigits {cs : List Char} (digits : Digits cs) : unsigned cs = cs := by
  unfold unsigned
  split
  · exact absurd (digits '+' List.mem_cons_self) (by decide)
  · rfl

theorem takeWhileDigits {cs : List Char} (digits : Digits cs) : cs.takeWhile isDigit = cs := by
  rw [← List.append_nil cs, List.takeWhile_append_of_pos digits, List.takeWhile_nil]

theorem numeralUnsigned {cs : List Char} {n : Nat} :
    Numeral cs n ↔ unsigned cs ≠ [] ∧ Digits (unsigned cs) ∧ decimal (unsigned cs) = n := by
  constructor
  · rintro ⟨digits, rfl | rfl, filled, all, value⟩
    · rw [unsignedDigits all]
      exact ⟨filled, all, value⟩
    · exact ⟨filled, all, value⟩
  · rintro ⟨filled, all, value⟩
    exact ⟨unsigned cs, unsignedCases cs, filled, all, value⟩

theorem parseUnsigned (limit : Nat) {cs : List Char} (filled : unsigned cs ≠ []) :
    parseNumeral limit cs = readNumeral limit 0 (unsigned cs) := by
  unfold parseNumeral
  split
  · exact absurd rfl filled
  · exact absurd rfl filled
  · rfl
  · rename_i none _ other
    unfold unsigned
    split
    · exact absurd rfl (other _)
    · rfl

theorem nothingWithin {limit : Nat} {cs : List Char} (nothing : unsigned cs = []) : ¬ Exceeds limit cs := by
  rintro ⟨part, leading, large⟩
  rw [nothing, List.takeWhile_nil, List.prefix_nil] at leading
  subst leading
  exact absurd large (Nat.not_lt_zero limit)

theorem numeralParsed (limit : Nat) (cs : List Char) : Parsed limit cs (parseNumeral limit cs) := by
  cases rest : unsigned cs with
  | nil =>
    rcases unsignedCases cs with same | same
    · rw [same, rest]
      exact .empty
    · rw [same, rest]
      exact .invalidDigit (List.cons_ne_nil _ _) (nothingWithin rfl) fun n numeral => (numeralUnsigned.mp numeral).1 rfl
  | cons c more =>
    have some : unsigned cs ≠ [] := fun none => List.cons_ne_nil c more (rest.symm.trans none)
    have filled : cs ≠ [] := fun none => by
      subst none
      exact some rfl
    have apart (within : ∀ part, part <+: (unsigned cs).takeWhile isDigit → valueFrom 0 part ≤ limit) :
        ¬ Exceeds limit cs := by
      rintro ⟨part, leading, large⟩
      exact absurd (within part leading) (Nat.not_le.mpr large)
    have reading := numeralReading (Nat.zero_le limit) (unsigned cs)
    rw [parseUnsigned limit some]
    generalize readNumeral limit 0 (unsigned cs) = outcome at reading
    cases reading with
    | tooLarge part leading large => exact .tooLarge ⟨part, leading, large⟩
    | value digits within =>
      have whole : unsigned cs <+: (unsigned cs).takeWhile isDigit :=
        (takeWhileDigits digits).symm ▸ List.prefix_rfl
      exact .value (numeralUnsigned.mpr ⟨some, digits, rfl⟩) (within _ whole)
    | invalidDigit other within =>
      exact .invalidDigit filled (apart within) fun n numeral => other (numeralUnsigned.mp numeral).2.1

theorem valueGrows (n : Nat) (cs : List Char) : n ≤ valueFrom n cs := by
  induction cs generalizing n with
  | nil => exact Nat.le_refl n
  | cons c cs ih =>
    have later : n * 10 + (c.toNat - 48) ≤ valueFrom n (c :: cs) := ih _
    omega

theorem numeralWithin {limit n : Nat} {cs : List Char} (numeral : Numeral cs n) (within : n ≤ limit) :
    ¬ Exceeds limit cs := by
  obtain ⟨_, digits, rfl⟩ := numeralUnsigned.mp numeral
  rintro ⟨part, leading, large⟩
  rw [takeWhileDigits digits] at leading
  obtain ⟨rest, whole⟩ := leading
  have grows : decimal part ≤ decimal (unsigned cs) := by
    rw [← whole, decimal, decimal, List.foldl_append]
    exact valueGrows _ rest
  omega

theorem parsedOnce {limit : Nat} {cs : List Char} {a b : Except NumeralFault Nat} (first : Parsed limit cs a)
    (second : Parsed limit cs b) : a = b := by
  cases first with
  | value numeral within =>
    cases second with
    | value other _ => rw [← (numeralUnsigned.mp numeral).2.2, (numeralUnsigned.mp other).2.2]
    | empty => exact absurd rfl (numeralUnsigned.mp numeral).1
    | tooLarge large => exact absurd large (numeralWithin numeral within)
    | invalidDigit _ _ none => exact absurd numeral (none _)
  | empty =>
    cases second with
    | value other _ => exact absurd rfl (numeralUnsigned.mp other).1
    | empty => rfl
    | tooLarge large => exact absurd large (nothingWithin rfl)
    | invalidDigit filled _ _ => exact absurd rfl filled
  | tooLarge large =>
    cases second with
    | value other within => exact absurd large (numeralWithin other within)
    | empty => exact absurd large (nothingWithin rfl)
    | tooLarge _ => rfl
    | invalidDigit _ within _ => exact absurd large within
  | invalidDigit filled within none =>
    cases second with
    | value other _ => exact absurd other (none _)
    | empty => exact absurd rfl filled
    | tooLarge large => exact absurd large within
    | invalidDigit _ _ _ => rfl

theorem parseNumeralIs {limit : Nat} {cs : List Char} {outcome : Except NumeralFault Nat} :
    parseNumeral limit cs = outcome ↔ Parsed limit cs outcome :=
  ⟨fun same => same ▸ numeralParsed limit cs, fun parsed => parsedOnce (numeralParsed limit cs) parsed⟩

end Storefront.Text
