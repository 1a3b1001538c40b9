import Storefront.Proofs.Json.Writer
import Storefront.Proofs.Text.Numeral

/-! Integers in their decimal numerals. Those of 64 bits are read as what they are; any other is
read as a float, or not at all, and a float is never written as a numeral. -/
namespace Storefront.Json
open Text (digitsOnly digitsValue)
open Text.Utf8 (encode encodeAppend)

def numeral (n : Int) : List Char := (toString n).toList

def Fits (n : Int) : Prop := -2 ^ 63 ≤ n ∧ n < 2 ^ 64

instance (n : Int) : Decidable (Fits n) := inferInstanceAs (Decidable (_ ∧ _))

theorem naturalText (m : Nat) : m.repr.toList = Nat.toDigits 10 m := by
  rw [Nat.repr_eq_ofList_toDigits, String.toList_ofList]

theorem numeralWritten (n : Int) : writeInteger n = numeral n := by
  rw [numeral, Int.toString_eq_repr, Int.repr_eq_if, writeInteger]
  by_cases negative : n < 0
  · have size : (-n).toNat = n.natAbs := by omega
    rw [if_pos negative, if_neg (by omega), String.toList_append, naturalText, size]
    rfl
  · have size : n.toNat = n.natAbs := by omega
    rw [if_neg negative, if_pos (by omega), naturalText, size]

theorem compactInteger (n : Int) : (Json.number (.integer n)).compact = toString n := by
  rw [compact, write, Number.write, numeralWritten, numeral, String.ofList_toList]

theorem numeralDigits {n : Int} {c : Char} (member : c ∈ numeral n) : c = '-' ∨ c.isDigit = true := by
  rw [← numeralWritten, writeInteger] at member
  split at member
  · rcases List.mem_cons.mp member with rfl | digit
    · exact Or.inl rfl
    · exact Or.inr (digitsOnly digit)
  · exact Or.inr (digitsOnly member)

/-! A float has a point or an exponent in its text. -/

def Marked (cs : List Char) : Prop := '.' ∈ cs ∨ 'e' ∈ cs

theorem layoutMarked (digits : List Char) (p : Int) : Marked (Binary64.layout digits p) := by
  have mark (top : Int) : 'e' ∈ (if 0 ≤ top then ['e', '+'] else ['e', '-']) := by split <;> decide
  unfold Binary64.layout
  dsimp only
  split
  · left
    split
    · simp
    · split <;> simp
  · exact Or.inr (List.mem_append_left _ (List.mem_append_right _ (mark _)))

theorem floatMarked (x : Binary64) : Marked x.text := by
  unfold Binary64.text
  split
  · exact Or.inl (by decide)
  · exact layoutMarked _ _

theorem floatWritten (negative : Bool) (x : Binary64) (n : Int) : Number.write (.float negative x) ≠ numeral n := by
  intro same
  have marked : Marked (numeral n) := by
    rw [← same]
    cases negative with
    | false => exact floatMarked x
    | true => exact (floatMarked x).imp (List.mem_cons_of_mem '-') (List.mem_cons_of_mem '-')
  rcases marked with point | letter
  · rcases numeralDigits point with sign | digit
    · exact absurd sign (by decide)
    · exact absurd digit (by decide)
  · rcases numeralDigits letter with sign | digit
    · exact absurd sign (by decide)
    · exact absurd digit (by decide)

/-! Reading the digits. They are taken one after the other while the number stays below the limit. -/

def decimal (n : Nat) (ds : List Nat) : Nat := ds.foldl (fun n d => n * 10 + d) n

theorem decimalGrows (n : Nat) (ds : List Nat) : n ≤ decimal n ds := by
  induction ds generalizing n with
  | nil => exact Nat.le_refl n
  | cons d ds ih =>
    have later : n * 10 + d ≤ decimal n (d :: ds) := ih (n * 10 + d)
    omega

theorem withinTaken {limit n : Nat} {ds : List Nat} (small : decimal n ds ≤ limit) :
    takeWithin limit n ds = (decimal n ds, []) := by
  induction ds generalizing n with
  | nil => rfl
  | cons d ds ih =>
    have later : n * 10 + d ≤ decimal n (d :: ds) := decimalGrows (n * 10 + d) ds
    rw [takeWithin, if_neg (by omega)]
    exact ih small

theorem beyondLeft {limit n : Nat} {ds : List Nat} (start : n ≤ limit) (large : limit < decimal n ds) :
    (takeWithin limit n ds).2 ≠ [] := by
  induction ds generalizing n with
  | nil => exact absurd start (Nat.not_le.mpr large)
  | cons d ds ih =>
    rw [takeWithin]
    split
    · exact List.cons_ne_nil d ds
    · exact ih (by omega) large

def digitValues (cs : List Char) : List Nat := cs.map fun c => c.toNat - 0x30

theorem decimalDigits (m : Nat) : decimal 0 (digitValues (Nat.toDigits 10 m)) = m := by
  rw [decimal, digitValues, List.foldl_map]
  exact digitsValue m

theorem numeralInjective {n m : Int} (same : numeral n = numeral m) : n = m := by
  have size {k l : Nat} (equal : Nat.toDigits 10 k = Nat.toDigits 10 l) : k = l := by
    rw [← decimalDigits k, equal, decimalDigits]
  have signed {k l : Nat} : '-' :: Nat.toDigits 10 k ≠ Nat.toDigits 10 l := fun equal =>
    absurd (digitsOnly (equal ▸ List.mem_cons_self : '-' ∈ Nat.toDigits 10 l)) (by decide)
  rw [← numeralWritten, ← numeralWritten, writeInteger, writeInteger] at same
  by_cases left : n < 0 <;> by_cases right : m < 0 <;> simp only [left, right, if_true, if_false] at same
  · have equal := size (List.cons.inj same).2
    omega
  · exact absurd same signed
  · exact absurd same.symm signed
  · have equal := size same
    omega

theorem digitByte {c : Char} (digit : c.isDigit = true) :
    c.toNat < 0x80 ∧ (byte c).toNat = c.toNat ∧ isDigit (byte c) = true := by
  obtain ⟨low, high⟩ := Char.isDigit_iff_toNat.mp digit
  change 48 ≤ c.toNat at low
  change c.toNat ≤ 57 at high
  have value : (byte c).toNat = c.toNat := by
    rw [byte, UInt8.toNat_ofNat']
    omega
  refine ⟨by omega, value, ?_⟩
  simp only [isDigit, Bool.and_eq_true, decide_eq_true_eq, UInt8.le_iff_toNat_le, value]
  exact ⟨low, high⟩

theorem digitsRead {cs : List Char} (digits : ∀ c ∈ cs, c.isDigit = true) {tail : Bytes}
    (stop : startsWithDigit tail = false) : readDigits (encode cs ++ tail) = (digitValues cs, tail) := by
  have bytes : encode cs = cs.map byte := by
    induction cs with
    | nil => rfl
    | cons c cs ih =>
      rw [encodeAscii (digitByte (digits c List.mem_cons_self)).1, ih fun d member =>
        digits d (List.mem_cons_of_mem c member), List.map_cons]
  have each : ∀ b ∈ encode cs, isDigit b = true := by
    rw [bytes]
    intro b member
    obtain ⟨c, among, rfl⟩ := List.mem_map.mp member
    exact (digitByte (digits c among)).2.2
  rw [digitsAppend each stop, bytes, List.map_map]
  have values : cs.map ((fun b => b.toNat - 0x30) ∘ byte) = digitValues cs :=
    List.map_congr_left fun c member => by rw [Function.comp_apply, (digitByte (digits c member)).2.1]
  rw [values]

theorem leadingZero {m : Nat} {cs : List Char} (led : Nat.toDigits 10 m = '0' :: cs) : cs = [] := by
  -- Along the digits from the last one on: only zero has the first digit zero.
  have zero : ∀ m, (Nat.toDigits 10 m).head? = some '0' → m = 0 := by
    intro m
    induction m using Nat.strong_induction_on with
    | _ m ih =>
      intro head
      by_cases single : m < 10
      · rw [Nat.toDigits_of_lt_base single] at head
        interval_cases m <;> first | rfl | exact absurd head (by decide)
      · obtain ⟨c, rest, digits⟩ := List.exists_cons_of_ne_nil (Nat.toDigits_ne_nil (n := m / 10) (b := 10))
        rw [Nat.toDigits_of_base_le (by decide) (by omega), digits] at head
        have tenth := ih (m / 10) (by omega) (by rw [digits]; exact head)
        omega
  have none := zero m (by rw [led]; rfl)
  subst none
  exact (List.cons.inj led).2.symm

theorem numeralRead (negative : Bool) (m : Nat) {tail : Bytes} (stops : Stops tail) :
    readNumber negative (encode (Nat.toDigits 10 m) ++ tail) =
      numberValue negative (digitValues (Nat.toDigits 10 m)) none none tail := by
  have read := digitsRead (fun c => digitsOnly (m := m)) stops.noDigit
  have point : tail.head? ≠ some (byte '.') := by
    cases tail with
    | nil => simp
    | cons b rest => simpa using stops.2.1
  obtain ⟨c, cs, written⟩ := List.exists_cons_of_ne_nil (Nat.toDigits_ne_nil (n := m) (b := 10))
  have first : c.isDigit = true := digitsOnly (m := m) (by rw [written]; exact List.mem_cons_self)
  obtain ⟨ascii, value, digit⟩ := digitByte first
  have led : (byte c = byte '0' && startsWithDigit (encode cs ++ tail)) = false := by
    by_cases zero : c = '0'
    · subst zero
      rw [leadingZero written]
      exact (Bool.and_eq_false_iff.mpr (Or.inr stops.noDigit))
    · have other : byte c ≠ byte '0' := fun same => zero (by
        have code := congrArg UInt8.toNat same
        rw [value] at code
        exact Char.toNat_inj.mp code)
      simp [other]
  rw [written, encodeAscii ascii, List.cons_append] at read ⊢
  rw [readNumber, digit, led, read]
  dsimp only
  rw [if_neg (by decide), if_neg (by decide), noFraction point]
  simp only [bind, Except.bind, noExponent stops]

theorem wholeValue (negative : Bool) (ds : List Nat) (tail : Bytes) :
    numberValue negative ds none none tail =
      if (takeWithin largestWord 0 ds).2 = [] then .ok (integerValue negative (takeWithin largestWord 0 ds).1, tail)
      else floatValue negative (takeWithin largestWord 0 ds).1 (takeWithin largestWord 0 ds).2.length tail := by
  unfold numberValue
  generalize takeWithin largestWord 0 ds = taken
  obtain ⟨n, dropped⟩ := taken
  cases dropped <;> rfl

def integerNumber? (n : Int) : Option Number :=
  (numberValue (n < 0) (digitValues (Nat.toDigits 10 n.natAbs)) none none []).toOption.map Prod.fst

theorem integerFits {n : Int} (fits : Fits n) : integerNumber? n = some (.integer n) := by
  obtain ⟨low, high⟩ := fits
  have small : decimal 0 (digitValues (Nat.toDigits 10 n.natAbs)) ≤ largestWord := by
    rw [decimalDigits]
    change n.natAbs ≤ 2 ^ 64 - 1
    omega
  have value : integerValue (n < 0) n.natAbs = .integer n := by
    unfold integerValue
    by_cases negative : n < 0
    · have within : ¬ (n.natAbs = 0 ∨ Nat.pow 2 63 < n.natAbs) := by
        change ¬ (n.natAbs = 0 ∨ 2 ^ 63 < n.natAbs)
        omega
      rw [decide_eq_true negative, if_neg (by decide), if_neg within]
      exact congrArg Number.integer (by omega)
    · rw [decide_eq_false negative, if_pos (by decide)]
      exact congrArg Number.integer (by omega)
  rw [integerNumber?, wholeValue, withinTaken small, decimalDigits, if_pos rfl, value]
  rfl

theorem floatOnly {negative : Bool} {significand : Nat} {exponent : Int} {tail : Bytes} {x : Number}
    (read : (floatValue negative significand exponent tail).toOption.map Prod.fst = some x) :
    ∃ y, x = .float negative y := by
  unfold floatValue at read
  cases scaled : Binary64.scaled? significand exponent with
  | none =>
    rw [scaled] at read
    contradiction
  | some y =>
    rw [scaled] at read
    exact ⟨y, (Option.some.inj read).symm⟩

theorem integerFloats {n : Int} (beyond : ¬ Fits n) {x : Number} (read : integerNumber? n = some x) :
    ∃ negative y, x = .float negative y := by
  rw [integerNumber?, wholeValue] at read
  by_cases small : decimal 0 (digitValues (Nat.toDigits 10 n.natAbs)) ≤ largestWord
  · rw [withinTaken small, decimalDigits, if_pos rfl] at read
    rw [decimalDigits] at small
    change n.natAbs ≤ 2 ^ 64 - 1 at small
    -- The digits are within 64 bits, so that the integer is too far below zero.
    unfold Fits at beyond
    have negative : n < 0 := by omega
    have large : n.natAbs = 0 ∨ Nat.pow 2 63 < n.natAbs := by
      change n.natAbs = 0 ∨ 2 ^ 63 < n.natAbs
      omega
    have value : x = integerValue (n < 0) n.natAbs := (Option.some.inj read).symm
    rw [integerValue, decide_eq_true negative, if_neg (by decide), if_pos large] at value
    exact ⟨true, _, value⟩
  · rw [if_neg (beyondLeft (Nat.zero_le _) (Nat.not_le.mp small))] at read
    obtain ⟨y, float⟩ := floatOnly read
    exact ⟨_, y, float⟩

theorem digitsJudged (negative : Bool) (m : Nat) {tail : Bytes} (stops : Stops tail) :
    (readNumber negative (encode (Nat.toDigits 10 m) ++ tail)).toOption =
      ((numberValue negative (digitValues (Nat.toDigits 10 m)) none none []).toOption.map Prod.fst).map
        fun x => (x, tail) := by
  rw [numeralRead negative m stops]
  rcases numberUniform negative (digitValues (Nat.toDigits 10 m)) none none with ⟨x, same⟩ | never
  · rw [same, same]
    rfl
  · obtain ⟨stop, failed⟩ := never tail
    obtain ⟨other, empty⟩ := never []
    rw [failed, empty]
    rfl

theorem digitValue {b : UInt8} (digit : isDigit b = true) (embedded : Bytes → Except Refusal Json) (bound depth : Nat)
    (rest : Bytes) :
    readValue embedded bound depth (b :: rest) = (readNumber false (b :: rest)).map fun (x, r) => (.number x, r) := by
  have other {c : UInt8} (none : isDigit c = false) : b ≠ c := by
    rintro rfl
    rw [digit] at none
    contradiction
  have solid : isSpace b = false := by
    simp only [isSpace, Bool.or_eq_false_iff, decide_eq_false_iff_not]
    exact ⟨⟨⟨other rfl, other rfl⟩, other rfl⟩, other rfl⟩
  have flat : ¬ (b = byte '[' ∨ b = byte '\x7b') := not_or.mpr ⟨other rfl, other rfl⟩
  rw [readValue, solidSkipped solid]
  dsimp only
  rw [if_neg flat, readScalar, if_neg (other rfl), if_neg (other rfl), if_neg (other rfl), if_neg (other rfl),
    if_neg (other rfl), if_pos digit]

theorem numeralJudged (n : Int) (embedded : Bytes → Except Refusal Json) (bound depth : Nat) {b : List Char}
    (blank : Blank b) {tail : Bytes} (stops : Stops tail) :
    (readValue embedded bound depth (encode (b ++ numeral n) ++ tail)).toOption =
      (integerNumber? n).map fun x => (.number x, tail) := by
  rw [encodeAppend, List.append_assoc, blankValue blank, ← numeralWritten, writeInteger, integerNumber?]
  by_cases negative : n < 0
  · have judged := digitsJudged true n.natAbs stops
    rw [if_pos negative, decide_eq_true negative, encodeAscii (by decide), List.cons_append, readValue,
      solidSkipped (by decide)]
    dsimp only
    rw [if_neg (by decide), readScalar, if_neg (by decide), if_neg (by decide), if_neg (by decide), if_neg (by decide),
      if_pos rfl, mapToOption, judged, Option.map_map]
    rfl
  · have judged := digitsJudged false n.natAbs stops
    obtain ⟨c, cs, written⟩ := List.exists_cons_of_ne_nil (Nat.toDigits_ne_nil (n := n.natAbs) (b := 10))
    have first : c.isDigit = true := digitsOnly (m := n.natAbs) (by rw [written]; exact List.mem_cons_self)
    obtain ⟨ascii, value, digit⟩ := digitByte first
    rw [if_neg negative, decide_eq_false negative]
    rw [written, encodeAscii ascii, List.cons_append] at judged ⊢
    rw [digitValue digit, mapToOption, judged, Option.map_map]
    rfl

end Storefront.Json
