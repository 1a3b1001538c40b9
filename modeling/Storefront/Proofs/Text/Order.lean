import Storefront.Proofs.Text.Utf8

/-! Texts stand in the same order as their bytes. -/
namespace Storefront.Text.Utf8

theorem byteBefore {m n : Nat} (small : n < 0x100) {x y : Bytes} (before : m < n ∨ m = n ∧ x < y) :
    UInt8.ofNat m :: x < UInt8.ofNat n :: y := by
  refine List.cons_lt_cons_iff.mpr (before.imp (fun less => ?_) fun ⟨same, later⟩ => ⟨congrArg _ same, later⟩)
  rw [UInt8.lt_iff_toNat_lt, UInt8.toNat_ofNat', UInt8.toNat_ofNat']
  omega

theorem charBefore {c d : Char} (less : c < d) (x y : Bytes) :
    String.utf8EncodeChar c ++ x < String.utf8EncodeChar d ++ y := by
  have order : c.val.toNat < d.val.toNat := less
  have valid : d.val.toNat < 0xD800 ∨ 0xDFFF < d.val.toNat ∧ d.val.toNat < 0x110000 := d.valid
  unfold String.utf8EncodeChar
  dsimp only
  generalize c.val.toNat = m at order ⊢
  generalize d.val.toNat = n at order valid ⊢
  -- A longer code begins with a larger byte; codes of one length are compared byte by byte.
  by_cases one : n ≤ 0x7F
  · rw [if_pos one, if_pos (by omega)]
    exact byteBefore (by omega) (Or.inl order)
  rw [if_neg one]
  by_cases two : n ≤ 0x7FF
  · rw [if_pos two]
    split
    · exact byteBefore (by omega) (Or.inl (by omega))
    rw [if_pos (by omega)]
    refine byteBefore (by omega) ?_
    rcases Nat.lt_or_ge (m / 64) (n / 64) with first | same
    · exact Or.inl (by omega)
    · exact Or.inr ⟨by omega, byteBefore (by omega) (Or.inl (by omega))⟩
  rw [if_neg two]
  by_cases three : n ≤ 0xFFFF
  · rw [if_pos three]
    split
    · exact byteBefore (by omega) (Or.inl (by omega))
    split
    · exact byteBefore (by omega) (Or.inl (by omega))
    rw [if_pos (by omega)]
    refine byteBefore (by omega) ?_
    rcases Nat.lt_or_ge (m / 4096) (n / 4096) with first | same
    · exact Or.inl (by omega)
    refine Or.inr ⟨by omega, byteBefore (by omega) ?_⟩
    rcases Nat.lt_or_ge (m / 64) (n / 64) with second | same
    · exact Or.inl (by omega)
    · exact Or.inr ⟨by omega, byteBefore (by omega) (Or.inl (by omega))⟩
  rw [if_neg three]
  split
  · exact byteBefore (by omega) (Or.inl (by omega))
  split
  · exact byteBefore (by omega) (Or.inl (by omega))
  split
  · exact byteBefore (by omega) (Or.inl (by omega))
  refine byteBefore (by omega) ?_
  rcases Nat.lt_or_ge (m / 262144) (n / 262144) with first | same
  · exact Or.inl (by omega)
  refine Or.inr ⟨by omega, byteBefore (by omega) ?_⟩
  rcases Nat.lt_or_ge (m / 4096) (n / 4096) with second | same
  · exact Or.inl (by omega)
  refine Or.inr ⟨by omega, byteBefore (by omega) ?_⟩
  rcases Nat.lt_or_ge (m / 64) (n / 64) with third | same
  · exact Or.inl (by omega)
  · exact Or.inr ⟨by omega, byteBefore (by omega) (Or.inl (by omega))⟩

theorem encodeBefore {a b : List Char} (less : a < b) : encode a < encode b := by
  induction less with
  | @nil c cs =>
    rw [encodeCons]
    have size := Char.utf8Size_pos c
    rw [← String.length_utf8EncodeChar] at size
    obtain ⟨b, more, code⟩ := List.exists_cons_of_ne_nil (List.ne_nil_of_length_pos size)
    rw [code]
    exact .nil
  | rel less =>
    rw [encodeCons, encodeCons]
    exact charBefore less _ _
  | cons _ ih =>
    rw [encodeCons, encodeCons]
    exact List.append_left_lt ih

theorem bytesBefore {a b : String} (less : a < b) : bytesOf a < bytesOf b := encodeBefore less

end Storefront.Text.Utf8
