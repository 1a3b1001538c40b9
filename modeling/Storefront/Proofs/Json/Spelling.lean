import Storefront.Proofs.Json.Local

/-! The ways to write a text. A character stands for itself, unless it is a quote, a backslash or
a control, or it is escaped by a letter, by its code unit or by a pair of surrogates. Each
spelling is read as the text it spells, and what follows it is left. -/
namespace Storefront.Json
open Text.Utf8 (encode encodeAppend encodeCons encodeOne decodeEncode)

def HexDigit (c : Char) (n : Nat) : Prop := n < 16 ∧ (c = Text.hexDigit n ∨ c = Text.upperHexDigit n)

instance (c : Char) (n : Nat) : Decidable (HexDigit c n) := inferInstanceAs (Decidable (_ ∧ _))

inductive CodeUnit : List Char → Nat → Prop where
  | digits {a b c d : Char} {k l m n : Nat} (first : HexDigit a k) (second : HexDigit b l) (third : HexDigit c m)
      (last : HexDigit d n) : CodeUnit [a, b, c, d] (((k * 16 + l) * 16 + m) * 16 + n)

def escapeLetters : List (Char × Char) :=
  [('"', '"'), ('\\', '\\'), ('/', '/'), ('b', '\x08'), ('f', '\x0c'), ('n', '\n'), ('r', '\r'), ('t', '\t')]

/-- A surrogate stands for no character unless it is one of a pair. -/
inductive Spelling : Char → List Char → Prop where
  | plain {c : Char} (quote : c ≠ '"') (slash : c ≠ '\\') (printed : ¬ c.toNat < 0x20) : Spelling c [c]
  | letter {e c : Char} (listed : (e, c) ∈ escapeLetters) : Spelling c ['\\', e]
  | unit {c : Char} {w : List Char} (digits : CodeUnit w c.toNat) : Spelling c ('\\' :: 'u' :: w)
  | pair {c : Char} {high low : Nat} {v w : List Char} (first : CodeUnit v high) (second : CodeUnit w low)
      (isHigh : isHighSurrogate high = true) (isLow : isLowSurrogate low = true)
      (value : c.toNat = 0x10000 + (high - 0xD800) * 0x400 + (low - 0xDC00)) :
      Spelling c ('\\' :: 'u' :: (v ++ '\\' :: 'u' :: w))

inductive Spelled : List Char → List Char → Prop where
  | nil : Spelled [] []
  | cons {c : Char} {cs v w : List Char} (first : Spelling c v) (rest : Spelled cs w) : Spelled (c :: cs) (v ++ w)

inductive TextSpelled (s : String) : List Char → Prop where
  | quoted {w : List Char} (inside : Spelled s.toList w) : TextSpelled s ('"' :: (w ++ ['"']))

theorem encodeAscii {c : Char} (ascii : c.toNat < 0x80) (cs : List Char) :
    encode (c :: cs) = byte c :: encode cs := by
  rw [encodeCons, ← Char.ofNat_toNat c, encodeOne ascii]
  simp [byte]

theorem HexDigit.read {c : Char} {n : Nat} (digit : HexDigit c n) : Text.hexValue? (byte c) = some n := by
  obtain ⟨small, rfl | rfl⟩ := digit
  · interval_cases n <;> rfl
  · interval_cases n <;> rfl

theorem HexDigit.ascii {c : Char} {n : Nat} (digit : HexDigit c n) : c.toNat < 0x80 := by
  obtain ⟨small, rfl | rfl⟩ := digit
  · interval_cases n <;> decide
  · interval_cases n <;> decide

theorem HexDigit.lower {n : Nat} (small : n < 16) : HexDigit (Text.hexDigit n) n := ⟨small, Or.inl rfl⟩

theorem CodeUnit.read {w : List Char} {n : Nat} (digits : CodeUnit w n) (tail : Bytes) :
    readFourHex (encode w ++ tail) = .ok (n, tail) := by
  obtain ⟨first, second, third, last⟩ := digits
  rw [encodeAscii first.ascii, encodeAscii second.ascii, encodeAscii third.ascii, encodeAscii last.ascii]
  simp [encode, readFourHex, first.read, second.read, third.read, last.read]

theorem surrogateFree (c : Char) : isHighSurrogate c.toNat = false ∧ isLowSurrogate c.toNat = false := by
  have valid : c.toNat < 0xD800 ∨ 0xDFFF < c.toNat ∧ c.toNat < 0x110000 := c.valid
  simp only [isHighSurrogate, isLowSurrogate, Bool.and_eq_false_iff, decide_eq_false_iff_not]
  omega

theorem unitRead {c : Char} {w : List Char} (digits : CodeUnit w c.toNat) (tail : Bytes) :
    readCodePoint (encode w ++ tail) = .ok (c, tail) := by
  obtain ⟨noHigh, noLow⟩ := surrogateFree c
  rw [readCodePoint, digits.read]
  simp [bind, Except.bind, noLow, noHigh]

theorem pairRead {c : Char} {high low : Nat} {v w : List Char} (first : CodeUnit v high) (second : CodeUnit w low)
    (isHigh : isHighSurrogate high = true) (isLow : isLowSurrogate low = true)
    (value : c.toNat = 0x10000 + (high - 0xD800) * 0x400 + (low - 0xDC00)) (tail : Bytes) :
    readCodePoint (encode (v ++ '\\' :: 'u' :: w) ++ tail) = .ok (c, tail) := by
  have noLow : isLowSurrogate high = false := by
    simp only [isHighSurrogate, isLowSurrogate, Bool.and_eq_true, Bool.and_eq_false_iff, decide_eq_true_eq,
      decide_eq_false_iff_not] at isHigh ⊢
    omega
  have other : readLowSurrogate (byte '\\' :: byte 'u' :: (encode w ++ tail)) = .ok (low, tail) := by
    rw [readLowSurrogate, if_neg (by simp)]
    dsimp only
    rw [if_neg (by simp), second.read]
    simp [bind, Except.bind, isLow]
  rw [encodeAppend, encodeAscii (by decide), encodeAscii (by decide), List.append_assoc, readCodePoint, first.read]
  simp only [bind, Except.bind, noLow, isHigh, Bool.false_eq_true, if_false, if_true, List.cons_append, other, ← value,
    Char.ofNat_toNat]

def Plain (b : UInt8) : Prop := b ≠ byte '"' ∧ b ≠ byte '\\' ∧ ¬ b < 0x20

theorem plainOf {n : Nat} (high : 0x20 ≤ n) (low : n < 0x100) (quote : n ≠ 0x22) (slash : n ≠ 0x5C) :
    Plain (UInt8.ofNat n) := by
  have value : (UInt8.ofNat n).toNat = n := by simp; omega
  refine ⟨fun same => quote ?_, fun same => slash ?_, fun less => ?_⟩
  · rw [← value, same]
    rfl
  · rw [← value, same]
    rfl
  · have less := UInt8.lt_iff_toNat_lt.mp less
    rw [value] at less
    exact absurd high (Nat.not_le.mpr less)

theorem plainChar {c : Char} (quote : c ≠ '"') (slash : c ≠ '\\') (printed : ¬ c.toNat < 0x20) :
    ∀ b ∈ String.utf8EncodeChar c, Plain b := by
  have noQuote : c.toNat ≠ 0x22 := fun same => quote (by rw [← Char.ofNat_toNat c, same])
  have noSlash : c.toNat ≠ 0x5C := fun same => slash (by rw [← Char.ofNat_toNat c, same])
  intro b member
  change c.val.toNat ≠ _ at noQuote noSlash
  change ¬ c.val.toNat < _ at printed
  unfold String.utf8EncodeChar at member
  dsimp only at member
  split at member
  · rw [List.mem_singleton.mp member]
    exact plainOf (by omega) (by omega) noQuote noSlash
  · split at member
    · simp only [List.mem_cons, List.not_mem_nil, or_false] at member
      rcases member with rfl | rfl <;> exact plainOf (by omega) (by omega) (by omega) (by omega)
    · split at member
      · simp only [List.mem_cons, List.not_mem_nil, or_false] at member
        rcases member with rfl | rfl | rfl <;> exact plainOf (by omega) (by omega) (by omega) (by omega)
      · simp only [List.mem_cons, List.not_mem_nil, or_false] at member
        rcases member with rfl | rfl | rfl | rfl <;> exact plainOf (by omega) (by omega) (by omega) (by omega)

theorem plainStep {bs : Bytes} (plain : ∀ b ∈ bs, Plain b) {bound : Nat} {done rest : Bytes}
    {x : Bytes × Bytes} (ok : readTextBytes bound (bs.reverse ++ done) rest = .ok x) :
    readTextBytes (bs.length + bound) done (bs ++ rest) = .ok x := by
  induction bs generalizing done with
  | nil => simpa using ok
  | cons b bs ih =>
    obtain ⟨quote, slash, printed⟩ := plain b List.mem_cons_self
    rw [List.cons_append, List.length_cons, Nat.succ_add, readTextBytes, if_neg quote, if_neg slash, if_neg printed]
    refine ih (fun c member => plain c (List.mem_cons_of_mem b member)) ?_
    simpa using ok

def Escapes (c : Char) (w : List Char) : Prop :=
  ∀ tail, readEscape (encode w ++ tail) = .ok (String.utf8EncodeChar c, tail)

theorem letterEscapes {e c : Char} (listed : (e, c) ∈ escapeLetters) : Escapes c [e] := by
  intro tail
  simp only [escapeLetters, List.mem_cons, Prod.mk.injEq, List.not_mem_nil, or_false] at listed
  rcases listed with ⟨rfl, rfl⟩ | ⟨rfl, rfl⟩ | ⟨rfl, rfl⟩ | ⟨rfl, rfl⟩ | ⟨rfl, rfl⟩ | ⟨rfl, rfl⟩ | ⟨rfl, rfl⟩ |
    ⟨rfl, rfl⟩ <;> rfl

theorem pointEscapes {c : Char} {w : List Char} (point : ∀ tail, readCodePoint (encode w ++ tail) = .ok (c, tail)) :
    Escapes c ('u' :: w) := by
  intro tail
  rw [encodeAscii (by decide), List.cons_append, readEscape, if_pos rfl, point]
  rfl

theorem escapeStep {c : Char} {w : List Char} (escapes : Escapes c w) {bound : Nat} {done rest : Bytes}
    {x : Bytes × Bytes} (ok : readTextBytes bound ((String.utf8EncodeChar c).reverse ++ done) rest = .ok x) :
    ∃ bound', readTextBytes bound' done (encode ('\\' :: w) ++ rest) = .ok x := by
  refine ⟨bound + 1, ?_⟩
  rw [encodeAscii (by decide), List.cons_append, readTextBytes, if_neg (by decide), if_pos rfl, escapes]
  exact ok

theorem charStep {c : Char} {w : List Char} (spelling : Spelling c w) {bound : Nat} {done rest : Bytes}
    {x : Bytes × Bytes} (ok : readTextBytes bound ((String.utf8EncodeChar c).reverse ++ done) rest = .ok x) :
    ∃ bound', readTextBytes bound' done (encode w ++ rest) = .ok x := by
  cases spelling with
  | plain quote slash printed =>
    refine ⟨(String.utf8EncodeChar c).length + bound, ?_⟩
    rw [encodeCons, List.append_assoc]
    exact plainStep (plainChar quote slash printed) ok
  | letter listed => exact escapeStep (letterEscapes listed) ok
  | unit digits => exact escapeStep (pointEscapes (unitRead digits)) ok
  | pair first second isHigh isLow value =>
    exact escapeStep (pointEscapes (pairRead first second isHigh isLow value)) ok

theorem Spelled.bytesRead {cs w : List Char} (spelled : Spelled cs w) (done tail : Bytes) :
    ∃ bound, readTextBytes bound done (encode w ++ byte '"' :: tail) = .ok (done.reverse ++ encode cs, tail) := by
  induction spelled generalizing done with
  | nil => exact ⟨1, by simp [readTextBytes, encode]⟩
  | @cons c cs v w first rest ih =>
    obtain ⟨bound, ok⟩ := ih ((String.utf8EncodeChar c).reverse ++ done)
    rw [List.reverse_append, List.reverse_reverse, List.append_assoc, ← encodeCons] at ok
    rw [encodeAppend, List.append_assoc]
    exact charStep first ok

theorem Spelled.read {s : String} {w : List Char} (spelled : Spelled s.toList w) {bound : Nat} (tail : Bytes)
    (enough : (encode w).length < bound) : readText bound (encode w ++ byte '"' :: tail) = .ok (s, tail) := by
  -- Some bound is enough to read the text, and so is any that is not below the bytes then taken.
  obtain ⟨k, found⟩ := spelled.bytesRead [] tail
  obtain ⟨used, eq, _, taken⟩ := textBytesTaken found
  have whole : used ++ tail = encode w ++ [byte '"'] ++ tail := by
    rw [← eq, List.append_assoc]
    rfl
  have same := List.append_cancel_right whole
  have size : used.length ≤ bound := by rw [same, List.length_append]; exact enough
  have again := taken bound tail size
  rw [← eq] at again
  rw [readText, again]
  simp [bind, Except.bind, decodeEncode]

end Storefront.Json
