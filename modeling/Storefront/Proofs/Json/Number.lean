import Mathlib.Data.List.TakeWhile
import Storefront.Proofs.Json.Token

/-! What the reader of numbers takes: the digits, a fraction and an exponent if they are there,
up to a byte that does not go on with them. -/
namespace Storefront.Json

def Stops : Bytes → Prop
  | [] => True
  | b :: _ => isDigit b = false ∧ b ≠ byte '.' ∧ ¬ (b = byte 'e' ∨ b = byte 'E')

theorem Stops.noDigit {tail : Bytes} (stops : Stops tail) : startsWithDigit tail = false := by
  cases tail with
  | nil => rfl
  | cons b rest => exact stops.1

theorem digitsAppend {used tail : Bytes} (digits : ∀ b ∈ used, isDigit b = true)
    (stop : startsWithDigit tail = false) :
    readDigits (used ++ tail) = (used.map fun b => b.toNat - 0x30, tail) := by
  have taken : (used ++ tail).takeWhile isDigit = used := by
    rw [List.takeWhile_append_of_pos digits]
    cases tail with
    | nil => simp
    | cons b rest => simp [show isDigit b = false from stop]
  have left : (used ++ tail).dropWhile isDigit = tail := by
    rw [List.dropWhile_append_of_pos digits]
    cases tail with
    | nil => rfl
    | cons b rest => simp [show isDigit b = false from stop]
  rw [readDigits, taken, left]

theorem digitsTaken {bs rest : Bytes} {ds : List Nat} (ok : readDigits bs = (ds, rest)) :
    ∃ used, bs = used ++ rest ∧ ds.length = used.length ∧ (∀ b ∈ used, isDigit b = true) ∧
      startsWithDigit rest = false ∧
      ∀ tail, startsWithDigit tail = false → readDigits (used ++ tail) = (ds, tail) := by
  simp only [readDigits, Prod.mk.injEq] at ok
  obtain ⟨rfl, rfl⟩ := ok
  have digits : ∀ b ∈ bs.takeWhile isDigit, isDigit b = true := fun b => List.mem_takeWhile_imp
  refine ⟨bs.takeWhile isDigit, List.takeWhile_append_dropWhile.symm, List.length_map _, digits, ?_,
    fun tail stop => digitsAppend digits stop⟩
  cases found : bs.dropWhile isDigit with
  | nil => rfl
  | cons b rest =>
    have head := List.head?_dropWhile_not isDigit bs
    simpa [found, startsWithDigit] using head

theorem noFraction {tail : Bytes} (point : tail.head? ≠ some (byte '.')) : readFraction tail = .ok (none, tail) := by
  cases tail with
  | nil => rfl
  | cons b more => simp [readFraction, show b ≠ byte '.' by simpa using point]

theorem noExponent {tail : Bytes} (stops : Stops tail) : readExponent tail = .ok (none, tail) := by
  cases tail with
  | nil => rfl
  | cons b more => exact if_neg stops.2.2

theorem fractionTaken {bs rest : Bytes} {fraction : Option (List Nat)}
    (ok : readFraction bs = .ok (fraction, rest)) :
    ∃ used, bs = used ++ rest ∧ (used ≠ [] → used.head? = some (byte '.')) ∧
      ∀ tail, startsWithDigit tail = false → tail.head? ≠ some (byte '.') →
        readFraction (used ++ tail) = .ok (fraction, tail) := by
  cases bs with
  | nil =>
    simp only [readFraction, Except.ok.injEq, Prod.mk.injEq] at ok
    obtain ⟨rfl, rfl⟩ := ok
    exact ⟨[], rfl, by simp, fun tail _ point => noFraction point⟩
  | cons b bs =>
    rw [readFraction] at ok
    split at ok
    · rename_i dot
      split at ok
      · contradiction
      · contradiction
      · rename_i ds r notEnd notNone found
        simp only [Except.ok.injEq, Prod.mk.injEq] at ok
        obtain ⟨rfl, rfl⟩ := ok
        obtain ⟨used, rfl, _, _, _, taken⟩ := digitsTaken found
        refine ⟨b :: used, rfl, fun _ => by simp [dot], fun tail stop _ => ?_⟩
        have some : ds ≠ [] := by
          rintro rfl
          exact notNone rfl
        rw [List.cons_append, readFraction, if_pos dot, taken tail stop]
        cases ds with
        | nil => contradiction
        | cons d more => rfl
    · simp only [Except.ok.injEq, Prod.mk.injEq] at ok
      obtain ⟨rfl, rfl⟩ := ok
      exact ⟨[], rfl, by simp, fun tail _ point => noFraction point⟩

def exponentDigits (negative : Bool) : Bytes → Except Stop (Option (Bool × List Nat) × Bytes)
  | [] => .error (stopHere .endInValue [])
  | d :: r =>
    if isDigit d then .ok (some (negative, (readDigits (d :: r)).1), (readDigits (d :: r)).2)
    else .error (stopHere .invalidNumber r)

theorem exponentSigned {b : UInt8} (mark : b = byte 'e' ∨ b = byte 'E') (s : UInt8) (r : Bytes) :
    readExponent (b :: s :: r) =
      if s = byte '+' then exponentDigits false r
      else if s = byte '-' then exponentDigits true r else exponentDigits false (s :: r) := by
  unfold readExponent
  dsimp only
  rw [if_pos mark]
  by_cases plus : s = byte '+'
  · simp only [if_pos plus]
    cases r <;> rfl
  · simp only [if_neg plus]
    by_cases minus : s = byte '-'
    · simp only [if_pos minus]
      cases r <;> rfl
    · simp only [if_neg minus]
      rfl

theorem exponentDigitsTaken {negative : Bool} {bs rest : Bytes} {exponent : Option (Bool × List Nat)}
    (ok : exponentDigits negative bs = .ok (exponent, rest)) :
    ∃ used, bs = used ++ rest ∧ (∃ d more, used = d :: more ∧ isDigit d = true) ∧
      ∀ tail, startsWithDigit tail = false → exponentDigits negative (used ++ tail) = .ok (exponent, tail) := by
  cases bs with
  | nil => contradiction
  | cons d r =>
    rw [exponentDigits] at ok
    split at ok
    · rename_i digit
      cases found : readDigits (d :: r) with
      | mk ds left =>
        simp only [found, Except.ok.injEq, Prod.mk.injEq] at ok
        obtain ⟨rfl, rfl⟩ := ok
        obtain ⟨used, whole, _, _, stop, taken⟩ := digitsTaken found
        cases used with
        | nil =>
          rw [List.nil_append] at whole
          simp [← whole, startsWithDigit, digit] at stop
        | cons c more =>
          obtain ⟨rfl, rfl⟩ := List.cons.inj whole
          refine ⟨d :: more, rfl, ⟨d, more, rfl, digit⟩, fun tail stop => ?_⟩
          have again := taken tail stop
          rw [List.cons_append] at again ⊢
          rw [exponentDigits, if_pos digit, again]
    · contradiction

theorem exponentTaken {bs rest : Bytes} {exponent : Option (Bool × List Nat)}
    (ok : readExponent bs = .ok (exponent, rest)) :
    ∃ used, bs = used ++ rest ∧
      (used ≠ [] → used.head? = some (byte 'e') ∨ used.head? = some (byte 'E')) ∧
      ∀ tail, Stops tail → readExponent (used ++ tail) = .ok (exponent, tail) := by
  cases bs with
  | nil =>
    simp only [readExponent, Except.ok.injEq, Prod.mk.injEq] at ok
    obtain ⟨rfl, rfl⟩ := ok
    exact ⟨[], rfl, by simp, fun tail => noExponent⟩
  | cons b bs =>
    by_cases mark : b = byte 'e' ∨ b = byte 'E'
    · have head : ∀ more, (b :: more).head? = some (byte 'e') ∨ (b :: more).head? = some (byte 'E') := by
        simpa using mark
      cases bs with
      | nil => simp [readExponent, mark] at ok
      | cons s r =>
        rw [exponentSigned mark] at ok
        split at ok
        · rename_i plus
          obtain ⟨used, rfl, _, taken⟩ := exponentDigitsTaken ok
          refine ⟨b :: s :: used, rfl, fun _ => head _, fun tail stops => ?_⟩
          rw [List.cons_append, List.cons_append, exponentSigned mark, if_pos plus]
          exact taken tail stops.noDigit
        · rename_i plus
          split at ok
          · rename_i minus
            obtain ⟨used, rfl, _, taken⟩ := exponentDigitsTaken ok
            refine ⟨b :: s :: used, rfl, fun _ => head _, fun tail stops => ?_⟩
            rw [List.cons_append, List.cons_append, exponentSigned mark, if_neg plus, if_pos minus]
            exact taken tail stops.noDigit
          · rename_i minus
            obtain ⟨used, whole, ⟨d, more, rfl, digit⟩, taken⟩ := exponentDigitsTaken ok
            rw [List.cons_append, List.cons.injEq] at whole
            obtain ⟨rfl, rfl⟩ := whole
            refine ⟨b :: s :: more, rfl, fun _ => head _, fun tail stops => ?_⟩
            rw [List.cons_append, List.cons_append, exponentSigned mark, if_neg plus, if_neg minus]
            exact taken tail stops.noDigit
    · have same : readExponent (b :: bs) = .ok (none, b :: bs) := if_neg mark
      rw [same, Except.ok.injEq, Prod.mk.injEq] at ok
      obtain ⟨rfl, rfl⟩ := ok
      exact ⟨[], rfl, by simp, fun tail => noExponent⟩

/-- A reading that looks at nothing: it answers the same before all bytes, or never. -/
def Uniform (read : Bytes → Except Stop (α × Bytes)) : Prop :=
  (∃ v, ∀ tail, read tail = .ok (v, tail)) ∨ ∀ tail, ∃ stop, read tail = .error stop

theorem Uniform.taken {read : Bytes → Except Stop (α × Bytes)} (uniform : Uniform read)
    {bs rest : Bytes} {v : α} (ok : read bs = .ok (v, rest)) :
    rest = bs ∧ ∀ tail, read tail = .ok (v, tail) := by
  rcases uniform with ⟨w, same⟩ | never
  · rw [same bs, Except.ok.injEq, Prod.mk.injEq] at ok
    obtain ⟨rfl, rfl⟩ := ok
    exact ⟨rfl, same⟩
  · obtain ⟨stop, failed⟩ := never bs
    rw [failed] at ok
    contradiction

theorem floatUniform (negative : Bool) (significand : Nat) (exponent : Int) :
    Uniform (floatValue negative significand exponent) := by
  cases scaled : Binary64.scaled? significand exponent with
  | none => exact Or.inr fun tail => ⟨_, by rw [floatValue, scaled]⟩
  | some x => exact Or.inl ⟨_, fun tail => by rw [floatValue, scaled]⟩

theorem numberUniform (negative : Bool) (whole : List Nat) (fraction : Option (List Nat))
    (exponent : Option (Bool × List Nat)) : Uniform (numberValue negative whole fraction exponent) := by
  unfold numberValue
  generalize takeWithin largestWord 0 whole = integral
  obtain ⟨n, dropped⟩ := integral
  dsimp only
  cases exponent with
  | none =>
    cases fraction with
    | none =>
      dsimp only
      split
      · exact Or.inl ⟨_, fun tail => rfl⟩
      · exact floatUniform _ _ _
    | some places => exact floatUniform _ _ _
  | some signed =>
    obtain ⟨down, ds⟩ := signed
    cases power : takeWithin largestExponent 0 ds with
    | mk e unread =>
      cases unread with
      | nil => cases fraction <;> simpa only [power] using floatUniform _ _ _
      | cons d unread =>
        have beyond (m : Nat) : Uniform fun rest : Bytes =>
            if m ≠ 0 ∧ (!down) = true then
              Except.error (⟨.numberOutOfRange, unread.length + rest.length, []⟩ : Stop)
            else Except.ok (Number.float negative .zero, rest) := by
          by_cases large : m ≠ 0 ∧ (!down) = true
          · exact Or.inr fun tail => ⟨_, if_pos large⟩
          · exact Or.inl ⟨_, fun tail => if_neg large⟩
        cases fraction <;> simpa only [power] using beyond _

theorem pieceHead {used tail : Bytes} {P : UInt8 → Prop} (piece : ∀ b, used.head? = some b → P b)
    (after : ∀ b, tail.head? = some b → P b) : ∀ b, (used ++ tail).head? = some b → P b := by
  cases used with
  | nil => exact after
  | cons c more => exact piece

theorem noDigitHead {bs : Bytes} : startsWithDigit bs = false ↔ ∀ b, bs.head? = some b → isDigit b = false := by
  cases bs with
  | nil => simp [startsWithDigit]
  | cons b rest => simp [startsWithDigit]

theorem piecesApart {f e tail : Bytes} (dotted : f ≠ [] → f.head? = some (byte '.'))
    (marked : e ≠ [] → e.head? = some (byte 'e') ∨ e.head? = some (byte 'E')) (stops : Stops tail) :
    startsWithDigit (e ++ tail) = false ∧ (e ++ tail).head? ≠ some (byte '.') ∧
      startsWithDigit (f ++ (e ++ tail)) = false := by
  have exponentHead : ∀ c, e.head? = some c → c = byte 'e' ∨ c = byte 'E' := by
    intro c head
    have some := marked (by rintro rfl; simp at head)
    simpa [head] using some
  have fractionHead : ∀ c, f.head? = some c → c = byte '.' := by
    intro c head
    have some := dotted (by rintro rfl; simp at head)
    simpa [head] using some
  have afterFraction : startsWithDigit (e ++ tail) = false := by
    rw [noDigitHead]
    refine pieceHead (fun c head => ?_) (noDigitHead.mp stops.noDigit)
    rcases exponentHead c head with rfl | rfl <;> decide
  refine ⟨afterFraction, fun head => ?_, ?_⟩
  · refine pieceHead (P := fun c => c ≠ byte '.') (fun c head => ?_) (fun c head => ?_) _ head rfl
    · rcases exponentHead c head with rfl | rfl <;> decide
    · cases tail with
      | nil => contradiction
      | cons d rest => cases Option.some.inj head; exact stops.2.1
  · rw [noDigitHead]
    refine pieceHead (fun c head => ?_) (noDigitHead.mp afterFraction)
    rw [fractionHead c head]
    decide

theorem numberTaken {negative : Bool} {bs rest : Bytes} {n : Number}
    (ok : readNumber negative bs = .ok (n, rest)) :
    ∃ used, bs = used ++ rest ∧ (∃ d more, used = d :: more ∧ isDigit d = true) ∧
      ∀ tail, Stops tail → readNumber negative (used ++ tail) = .ok (n, tail) := by
  cases bs with
  | nil => contradiction
  | cons b bs =>
    rw [readNumber] at ok
    split at ok
    · contradiction
    rename_i digit
    split at ok
    · contradiction
    rename_i zero
    cases found : readDigits (b :: bs) with
    | mk whole r =>
      simp only [found] at ok
      rw [okBind] at ok
      obtain ⟨⟨fraction, r₁⟩, point, ok⟩ := ok
      rw [okBind] at ok
      obtain ⟨⟨exponent, r₂⟩, letter, ok⟩ := ok
      obtain ⟨w, pieces, _, _, stop, taken⟩ := digitsTaken found
      obtain ⟨f, rfl, dotted, fractionAgain⟩ := fractionTaken point
      obtain ⟨e, rfl, marked, exponentAgain⟩ := exponentTaken letter
      obtain ⟨rfl, valueAgain⟩ := (numberUniform _ _ _ _).taken ok
      have digit' : isDigit b = true := by simpa using digit
      cases w with
      | nil =>
        rw [List.nil_append] at pieces
        simp [← pieces, startsWithDigit, digit'] at stop
      | cons c more =>
        obtain ⟨rfl, rfl⟩ := List.cons.inj pieces
        refine ⟨b :: (more ++ (f ++ e)), by simp, ⟨b, _, rfl, digit'⟩, fun tail stops => ?_⟩
        obtain ⟨afterFraction, noPoint, afterWhole⟩ := piecesApart dotted marked stops
        have again := taken (f ++ (e ++ tail)) afterWhole
        have zero' : ¬ ((decide (b = byte '0') && startsWithDigit (more ++ (f ++ (e ++ tail)))) = true) := by
          cases more with
          | nil => simp [afterWhole]
          | cons d more => exact zero
        rw [List.cons_append] at again
        rw [List.cons_append, List.append_assoc, List.append_assoc, readNumber, if_neg digit,
          if_neg zero', again]
        dsimp only
        rw [fractionAgain _ afterFraction noPoint]
        simp only [bind, Except.bind, exponentAgain tail stops]
        exact valueAgain tail

end Storefront.Json
