import Storefront.Json.Token
import Storefront.Proofs.Text.Utf8

/-! What the readers of words, texts and numbers take. Each takes a piece from the front of the
bytes, and takes the same piece with the same answer before any other bytes, except that what
follows a number must not go on with it. A bound no smaller than the piece does not matter. -/
namespace Storefront.Json

theorem okBind {ε α β : Type} {x : Except ε α} {f : α → Except ε β} {b : β} :
    (x >>= f) = .ok b ↔ ∃ a, x = .ok a ∧ f a = .ok b := by
  cases x with
  | error e => simp [bind, Except.bind]
  | ok a => simp [bind, Except.bind]

theorem okMap {ε α β : Type} {x : Except ε α} {f : α → β} {b : β} :
    x.map f = .ok b ↔ ∃ a, x = .ok a ∧ f a = b := by
  cases x with
  | error e => simp [Except.map]
  | ok a => simp [Except.map]

theorem bindToOption {ε α β : Type} (x : Except ε α) (f : α → Except ε β) :
    (x.bind f).toOption = x.toOption.bind fun a => (f a).toOption := by
  cases x <;> rfl

theorem mapToOption {ε α β : Type} (x : Except ε α) (f : α → β) : (x.map f).toOption = x.toOption.map f := by
  cases x <;> rfl

theorem toOptionOk {ε α : Type} {x : Except ε α} {a : α} : x.toOption = some a ↔ x = .ok a := by
  cases x with
  | error e => simp [Except.toOption]
  | ok b => simp [Except.toOption]

theorem wordTaken {cs : List Char} {bs rest : Bytes} :
    readWord cs bs = .ok rest ↔ bs = cs.map byte ++ rest := by
  induction cs generalizing bs with
  | nil => simp [readWord]
  | cons c cs ih =>
    cases bs with
    | nil => simp [readWord]
    | cons b bs =>
      by_cases same : b = byte c
      · simp [readWord, same, ih]
      · simp [readWord, same]

theorem fourHexTaken {bs rest : Bytes} {n : Nat} (ok : readFourHex bs = .ok (n, rest)) :
    ∃ used, bs = used ++ rest ∧ used.length = 4 ∧ ∀ tail, readFourHex (used ++ tail) = .ok (n, tail) := by
  unfold readFourHex at ok
  split at ok
  · rename_i a b c d bs
    split at ok
    · rename_i w x y z ha hb hc hd
      simp only [Except.ok.injEq, Prod.mk.injEq] at ok
      obtain ⟨rfl, rfl⟩ := ok
      exact ⟨[a, b, c, d], rfl, rfl, fun tail => by simp [readFourHex, ha, hb, hc, hd]⟩
    · contradiction
  · contradiction

theorem lowSurrogateTaken {bs rest : Bytes} {n : Nat} (ok : readLowSurrogate bs = .ok (n, rest)) :
    ∃ used, bs = used ++ rest ∧ ∀ tail, readLowSurrogate (used ++ tail) = .ok (n, tail) := by
  unfold readLowSurrogate at ok
  split at ok
  · contradiction
  · rename_i b bs
    split at ok
    · contradiction
    · rename_i slash
      split at ok
      · contradiction
      · rename_i u bs
        split at ok
        · contradiction
        · rename_i mark
          rw [okBind] at ok
          obtain ⟨⟨m, rest'⟩, four, ok⟩ := ok
          obtain ⟨used, rfl, _, taken⟩ := fourHexTaken four
          dsimp only at ok
          split at ok
          · rename_i low
            simp only [Except.ok.injEq, Prod.mk.injEq] at ok
            obtain ⟨rfl, rfl⟩ := ok
            refine ⟨b :: u :: used, rfl, fun tail => ?_⟩
            simp only [List.cons_append, readLowSurrogate, if_neg slash, if_neg mark, taken]
            exact if_pos low
          · contradiction

theorem codePointTaken {bs rest : Bytes} {c : Char} (ok : readCodePoint bs = .ok (c, rest)) :
    ∃ used, bs = used ++ rest ∧ 4 ≤ used.length ∧ ∀ tail, readCodePoint (used ++ tail) = .ok (c, tail) := by
  unfold readCodePoint at ok
  rw [okBind] at ok
  obtain ⟨⟨n, rest'⟩, four, ok⟩ := ok
  obtain ⟨used, rfl, length, taken⟩ := fourHexTaken four
  dsimp only at ok
  split at ok
  · contradiction
  · rename_i low
    split at ok
    · rename_i high
      rw [okBind] at ok
      obtain ⟨⟨m, rest''⟩, second, ok⟩ := ok
      obtain ⟨more, rfl, again⟩ := lowSurrogateTaken second
      simp only [Except.ok.injEq, Prod.mk.injEq] at ok
      obtain ⟨rfl, rfl⟩ := ok
      refine ⟨used ++ more, by simp, by simp; omega, fun tail => ?_⟩
      rw [List.append_assoc, readCodePoint, taken]
      simp only [bind, Except.bind, if_neg low, if_pos high, again]
    · rename_i high
      simp only [Except.ok.injEq, Prod.mk.injEq] at ok
      obtain ⟨rfl, rfl⟩ := ok
      refine ⟨used, rfl, by omega, fun tail => ?_⟩
      rw [readCodePoint, taken]
      simp only [bind, Except.bind, if_neg low, if_neg high]

theorem escapeTaken {bs rest bytes : Bytes} (ok : readEscape bs = .ok (bytes, rest)) :
    ∃ used, bs = used ++ rest ∧ bytes.length ≤ used.length ∧
      ∀ tail, readEscape (used ++ tail) = .ok (bytes, tail) := by
  unfold readEscape at ok
  split at ok
  · contradiction
  · rename_i e bs
    split at ok
    · rename_i mark
      rw [okBind] at ok
      obtain ⟨⟨c, rest'⟩, point, ok⟩ := ok
      obtain ⟨used, rfl, length, taken⟩ := codePointTaken point
      simp only [Except.ok.injEq, Prod.mk.injEq] at ok
      obtain ⟨rfl, rfl⟩ := ok
      refine ⟨e :: used, rfl, ?_, fun tail => ?_⟩
      · have size := c.utf8Size_le_four
        rw [String.length_utf8EncodeChar, List.length_cons]
        omega
      · rw [List.cons_append, readEscape, if_pos mark, taken]
        rfl
    · rename_i mark
      split at ok
      · rename_i b simple
        simp only [Except.ok.injEq, Prod.mk.injEq] at ok
        obtain ⟨rfl, rfl⟩ := ok
        exact ⟨[e], rfl, Nat.le_refl 1, fun tail => by simp [readEscape, mark, simple]⟩
      · contradiction

theorem textBytesTaken {bound : Nat} {done bs bytes rest : Bytes}
    (ok : readTextBytes bound done bs = .ok (bytes, rest)) :
    ∃ used, bs = used ++ rest ∧ bytes.length < done.length + used.length ∧
      ∀ bound' tail, used.length ≤ bound' → readTextBytes bound' done (used ++ tail) = .ok (bytes, tail) := by
  induction bound generalizing done bs with
  | zero => simp [readTextBytes] at ok
  | succ bound ih =>
    cases bs with
    | nil => simp [readTextBytes] at ok
    | cons b bs =>
      rw [readTextBytes] at ok
      split at ok
      · rename_i quote
        simp only [Except.ok.injEq, Prod.mk.injEq] at ok
        obtain ⟨rfl, rfl⟩ := ok
        refine ⟨[b], rfl, by simp, fun bound' tail enough => ?_⟩
        obtain ⟨k, rfl⟩ := Nat.exists_eq_succ_of_ne_zero (Nat.ne_of_gt enough)
        simp [readTextBytes, quote]
      · rename_i quote
        split at ok
        · rename_i slash
          rw [okBind] at ok
          obtain ⟨⟨found, rest'⟩, escape, ok⟩ := ok
          obtain ⟨used, rfl, small, taken⟩ := escapeTaken escape
          obtain ⟨more, rfl, size, later⟩ := ih ok
          refine ⟨b :: (used ++ more), by simp, ?_, fun bound' tail enough => ?_⟩
          · simp only [List.length_append, List.length_reverse, List.length_cons] at size ⊢
            omega
          · simp only [List.length_cons, List.length_append] at enough
            obtain ⟨k, rfl⟩ := Nat.exists_eq_succ_of_ne_zero (show bound' ≠ 0 by omega)
            rw [List.cons_append, List.append_assoc, readTextBytes, if_neg quote, if_pos slash, taken]
            exact later k tail (by omega)
        · rename_i slash
          split at ok
          · contradiction
          · rename_i control
            obtain ⟨more, rfl, size, later⟩ := ih ok
            refine ⟨b :: more, rfl, ?_, fun bound' tail enough => ?_⟩
            · simp only [List.length_cons] at size ⊢
              omega
            · simp only [List.length_cons] at enough
              obtain ⟨k, rfl⟩ := Nat.exists_eq_succ_of_ne_zero (show bound' ≠ 0 by omega)
              rw [List.cons_append, readTextBytes, if_neg quote, if_neg slash, if_neg control]
              exact later k tail (by omega)

theorem textTaken {bound : Nat} {bs rest : Bytes} {s : String} (ok : readText bound bs = .ok (s, rest)) :
    ∃ used, bs = used ++ rest ∧ (bytesOf s).length < used.length ∧
      ∀ bound' tail, used.length ≤ bound' → readText bound' (used ++ tail) = .ok (s, tail) := by
  rw [readText, okBind] at ok
  obtain ⟨⟨bytes, rest'⟩, found, ok⟩ := ok
  obtain ⟨used, rfl, size, taken⟩ := textBytesTaken found
  dsimp only at ok
  split at ok
  · rename_i cs decoded
    simp only [Except.ok.injEq, Prod.mk.injEq] at ok
    obtain ⟨rfl, rfl⟩ := ok
    refine ⟨used, rfl, ?_, fun bound' tail enough => ?_⟩
    · rw [bytesOf, String.toList_ofList, Text.Utf8.encodeDecode decoded]
      simpa using size
    · rw [readText, taken bound' tail enough]
      simp only [bind, Except.bind, decoded]
  · contradiction

end Storefront.Json
