import Mathlib.Tactic.IntervalCases
import Storefront.Text.Utf8

/-! Decoding reads back what encoding writes, and accepts nothing else. -/
namespace Storefront.Text.Utf8

theorem firstOne {n : Nat} (bound : n < 0x80) :
    first (UInt8.ofNat n) = some (.inl (Char.ofNat n)) := by
  have small : (UInt8.ofNat n).toNat = n := by simp; omega
  simp only [first, small]
  rw [if_pos bound]

theorem firstTwo {n : Nat} (low : 2 ≤ n) (bound : n < 32) :
    first (UInt8.ofNat (n + 0xC0)) = some (.inr ⟨n, 1, 1, 0x80, 0xBF⟩) := by
  interval_cases n <;> rfl

theorem firstThree {n : Nat} (bound : n < 16) :
    first (UInt8.ofNat (n + 0xE0)) = some (.inr ⟨n, 1, 2,
      UInt8.ofNat ((if n = 0 then 0x20 else 0) + 0x80),
      UInt8.ofNat ((if n = 13 then 0x1F else 0x3F) + 0x80)⟩) := by
  interval_cases n <;> rfl

theorem firstFour {n : Nat} (bound : n < 5) :
    first (UInt8.ofNat (n + 0xF0)) = some (.inr ⟨n, 1, 3,
      UInt8.ofNat ((if n = 0 then 0x10 else 0) + 0x80),
      UInt8.ofNat ((if n = 4 then 0x0F else 0x3F) + 0x80)⟩) := by
  interval_cases n <;> rfl

theorem encodeAppend (a b : List Char) : encode (a ++ b) = encode a ++ encode b := List.flatMap_append

theorem encodeInside (a w z : List Char) : (encode w).length ≤ (encode (a ++ w ++ z)).length := by
  simp only [encodeAppend, List.length_append]
  omega

theorem encodeCons (c : Char) (cs : List Char) : encode (c :: cs) = String.utf8EncodeChar c ++ encode cs :=
  List.flatMap_cons

theorem byteValue (b : UInt8) (base : Nat) (above : base ≤ b.toNat) : b = UInt8.ofNat (b.toNat - base + base) := by
  rw [Nat.sub_add_cancel above, UInt8.ofNat_toNat]

theorem firstCases {b : UInt8} {start : Char ⊕ Begun} (ok : first b = some start) :
    (∃ n, n < 0x80 ∧ b = UInt8.ofNat n ∧ start = .inl (Char.ofNat n)) ∨
    (∃ n, 2 ≤ n ∧ n < 32 ∧ b = UInt8.ofNat (n + 0xC0) ∧ start = .inr ⟨n, 1, 1, 0x80, 0xBF⟩) ∨
    (∃ n, n < 16 ∧ b = UInt8.ofNat (n + 0xE0) ∧ start = .inr ⟨n, 1, 2,
      UInt8.ofNat ((if n = 0 then 0x20 else 0) + 0x80),
      UInt8.ofNat ((if n = 13 then 0x1F else 0x3F) + 0x80)⟩) ∨
    ∃ n, n < 5 ∧ b = UInt8.ofNat (n + 0xF0) ∧ start = .inr ⟨n, 1, 3,
      UInt8.ofNat ((if n = 0 then 0x10 else 0) + 0x80),
      UInt8.ofNat ((if n = 4 then 0x0F else 0x3F) + 0x80)⟩ := by
  rcases Nat.lt_or_ge b.toNat 0x80 with one | more
  · left
    refine ⟨b.toNat, one, UInt8.ofNat_toNat.symm, ?_⟩
    rw [← UInt8.ofNat_toNat (x := b), firstOne one] at ok
    exact (Option.some.inj ok).symm
  · right
    rcases Nat.lt_or_ge b.toNat 0xC2 with none | begins
    · simp only [first] at ok
      rw [if_neg (by omega), if_pos none] at ok
      contradiction
    · rcases Nat.lt_or_ge b.toNat 0xE0 with two | more
      · have same := byteValue b 0xC0 (by omega)
        rw [same, firstTwo (by omega) (by omega)] at ok
        exact Or.inl ⟨_, by omega, by omega, same, (Option.some.inj ok).symm⟩
      · rcases Nat.lt_or_ge b.toNat 0xF0 with three | more
        · have same := byteValue b 0xE0 (by omega)
          rw [same, firstThree (by omega)] at ok
          exact Or.inr (Or.inl ⟨_, by omega, same, (Option.some.inj ok).symm⟩)
        · rcases Nat.lt_or_ge b.toNat 0xF5 with four | beyond
          · have same := byteValue b 0xF0 (by omega)
            rw [same, firstFour (by omega)] at ok
            exact Or.inr (Or.inr ⟨_, by omega, same, (Option.some.inj ok).symm⟩)
          · simp only [first] at ok
            repeat rw [if_neg (by omega)] at ok
            contradiction

theorem scanTail {done : List Char} {sound bits read owed low high : Nat} (order : low ≤ high)
    (small : high < 0x40) {bs : Bytes} {cs : List Char} :
    scan done sound (some ⟨bits, read, owed, UInt8.ofNat (low + 0x80), UInt8.ofNat (high + 0x80)⟩) bs =
      .ok cs ↔ ∃ n rest, bs = UInt8.ofNat (n + 0x80) :: rest ∧ low ≤ n ∧ n ≤ high ∧
        (if owed = 1 then scan (Char.ofNat (bits * 64 + n) :: done) (sound + read + 1) none rest
        else scan done sound (some ⟨bits * 64 + n, read + 1, owed - 1, 0x80, 0xBF⟩) rest) = .ok cs := by
  constructor
  · intro ok
    cases bs with
    | nil => simp [scan] at ok
    | cons b rest =>
      simp only [scan] at ok
      split at ok
      · contradiction
      · rename_i within
        simp only [not_or, UInt8.not_lt, UInt8.le_iff_toNat_le, UInt8.toNat_ofNat'] at within
        have same := byteValue b 0x80 (by omega)
        exact ⟨b.toNat - 0x80, rest, by rw [← same], by omega, by omega, ok⟩
  · rintro ⟨n, rest, rfl, below, above, ok⟩
    have value : (UInt8.ofNat (n + 0x80)).toNat = n + 0x80 := by simp; omega
    have within : ¬ (UInt8.ofNat (n + 0x80) < UInt8.ofNat (low + 0x80) ∨
        UInt8.ofNat (high + 0x80) < UInt8.ofNat (n + 0x80)) := by
      simp only [not_or, UInt8.not_lt, UInt8.le_iff_toNat_le, UInt8.toNat_ofNat']
      omega
    rw [scan, if_neg within, value, Nat.add_sub_cancel]
    exact ok

theorem scanNext {done : List Char} {sound bits read owed : Nat} {bs : Bytes} {cs : List Char} :
    scan done sound (some ⟨bits, read, owed, 0x80, 0xBF⟩) bs =
      .ok cs ↔ ∃ n rest, bs = UInt8.ofNat (n + 0x80) :: rest ∧ 0 ≤ n ∧ n ≤ 0x3F ∧
        (if owed = 1 then scan (Char.ofNat (bits * 64 + n) :: done) (sound + read + 1) none rest
        else scan done sound (some ⟨bits * 64 + n, read + 1, owed - 1, 0x80, 0xBF⟩) rest) = .ok cs :=
  scanTail (Nat.zero_le 0x3F) (by omega)

theorem charValue {n : Nat} (valid : n < 0xD800 ∨ 0xDFFF < n ∧ n < 0x110000) :
    (Char.ofNat n).val.toNat = n := by
  have h : n.isValidChar := valid
  rw [Char.ofNat, dif_pos h]
  rfl

theorem encodeOne {n : Nat} (bound : n < 0x80) :
    String.utf8EncodeChar (Char.ofNat n) = [UInt8.ofNat n] := by
  unfold String.utf8EncodeChar
  dsimp only
  rw [charValue (by omega), if_pos (by omega)]

theorem encodeTwo {a b : Nat} (low : 2 ≤ a) (ha : a < 32) (hb : b < 64) :
    String.utf8EncodeChar (Char.ofNat (a * 64 + b)) =
      [UInt8.ofNat (a + 0xC0), UInt8.ofNat (b + 0x80)] := by
  unfold String.utf8EncodeChar
  dsimp only
  have first : (a * 64 + b) / 64 % 0x20 = a := by omega
  have second : (a * 64 + b) % 0x40 = b := by omega
  rw [charValue (by omega), if_neg (by omega), if_pos (by omega), first, second]

theorem encodeThree {a b c : Nat} (ha : a < 16) (low : a = 0 → 32 ≤ b) (high : a = 13 → b < 32)
    (hb : b < 64) (hc : c < 64) :
    String.utf8EncodeChar (Char.ofNat ((a * 64 + b) * 64 + c)) =
      [UInt8.ofNat (a + 0xE0), UInt8.ofNat (b + 0x80), UInt8.ofNat (c + 0x80)] := by
  unfold String.utf8EncodeChar
  dsimp only
  have first : ((a * 64 + b) * 64 + c) / 4096 % 0x10 = a := by omega
  have second : ((a * 64 + b) * 64 + c) / 64 % 0x40 = b := by omega
  have third : ((a * 64 + b) * 64 + c) % 0x40 = c := by omega
  rw [charValue (by omega), if_neg (by omega), if_neg (by omega), if_pos (by omega), first, second,
    third]

theorem encodeFour {a b c d : Nat} (ha : a < 5) (low : a = 0 → 16 ≤ b) (high : a = 4 → b < 16)
    (hb : b < 64) (hc : c < 64) (hd : d < 64) :
    String.utf8EncodeChar (Char.ofNat (((a * 64 + b) * 64 + c) * 64 + d)) =
      [UInt8.ofNat (a + 0xF0), UInt8.ofNat (b + 0x80), UInt8.ofNat (c + 0x80),
        UInt8.ofNat (d + 0x80)] := by
  unfold String.utf8EncodeChar
  dsimp only
  have first : (((a * 64 + b) * 64 + c) * 64 + d) / 262144 % 0x08 = a := by omega
  have second : (((a * 64 + b) * 64 + c) * 64 + d) / 4096 % 0x40 = b := by omega
  have third : (((a * 64 + b) * 64 + c) * 64 + d) / 64 % 0x40 = c := by omega
  have fourth : (((a * 64 + b) * 64 + c) * 64 + d) % 0x40 = d := by omega
  rw [charValue (by omega), if_neg (by omega), if_neg (by omega), if_neg (by omega), first, second,
    third, fourth]

theorem scanChar {done : List Char} {sound : Nat} {b : UInt8} {bs : Bytes} {cs : List Char}
    (ok : scan done sound none (b :: bs) = .ok cs) :
    ∃ c rest sound', b :: bs = String.utf8EncodeChar c ++ rest ∧
      scan (c :: done) sound' none rest = .ok cs := by
  rw [scan] at ok
  cases start : first b with
  | none => simp [start] at ok
  | some begun =>
    rw [start] at ok
    obtain ⟨n, bound, rfl, rfl⟩ | ⟨n, low, bound, rfl, rfl⟩ | ⟨n, bound, rfl, rfl⟩ | ⟨n, bound, rfl, rfl⟩ :=
      firstCases start
    · exact ⟨Char.ofNat n, bs, _, by rw [encodeOne bound]; rfl, ok⟩
    · obtain ⟨m, rest, rfl, _, above, ok⟩ := scanNext.mp ok
      exact ⟨_, rest, _, by rw [encodeTwo low bound (by omega)]; rfl, ok⟩
    · obtain ⟨m, _, rfl, below, above, ok⟩ :=
        (scanTail (by split <;> split <;> omega) (by split <;> omega)).mp ok
      obtain ⟨k, rest, rfl, _, last, ok⟩ := scanNext.mp ok
      refine ⟨_, rest, _, ?_, ok⟩
      rw [encodeThree bound (by rintro rfl; simpa using below) (by rintro rfl; simp at above; omega)
        (by split at above <;> omega) (by omega)]
      rfl
    · obtain ⟨m, _, rfl, below, above, ok⟩ :=
        (scanTail (by split <;> split <;> omega) (by split <;> omega)).mp ok
      obtain ⟨k, _, rfl, _, last, ok⟩ := scanNext.mp ok
      obtain ⟨l, rest, rfl, _, final, ok⟩ := scanNext.mp ok
      refine ⟨_, rest, _, ?_, ok⟩
      rw [encodeFour bound (by rintro rfl; simpa using below) (by rintro rfl; simp at above; omega)
        (by split at above <;> omega) (by omega) (by omega)]
      rfl

theorem scanSound {done : List Char} {sound : Nat} {bs : Bytes} {cs : List Char}
    (ok : scan done sound none bs = .ok cs) : ∃ more, cs = done.reverse ++ more ∧ encode more = bs := by
  cases bs with
  | nil =>
    simp only [scan, Except.ok.injEq] at ok
    exact ⟨[], by simp [ok], rfl⟩
  | cons b rest =>
    obtain ⟨c, tail, sound', split, ok⟩ := scanChar ok
    have shorter : tail.length < (b :: rest).length := by
      have size := Char.utf8Size_pos c
      rw [split, List.length_append, String.length_utf8EncodeChar]
      omega
    obtain ⟨more, same, code⟩ := scanSound ok
    refine ⟨c :: more, by simpa using same, ?_⟩
    rw [split, ← code]
    rfl
termination_by bs.length

theorem encodeDecode {bs : Bytes} {cs : List Char} (ok : decode bs = .ok cs) : encode cs = bs := by
  obtain ⟨more, same, code⟩ := scanSound ok
  rw [same]
  exact code

theorem scanEncoded {done : List Char} {c : Char} {rest : Bytes} {cs : List Char}
    (ok : ∀ sound, scan (c :: done) sound none rest = .ok cs) (sound : Nat) :
    scan done sound none (String.utf8EncodeChar c ++ rest) = .ok cs := by
  have valid : c.val.toNat < 0xD800 ∨ 0xDFFF < c.val.toNat ∧ c.val.toNat < 0x110000 := c.valid
  obtain ⟨v, whole⟩ : ∃ v, c.val.toNat = v := ⟨_, rfl⟩
  have same : c = Char.ofNat v := whole ▸ (Char.ofNat_toNat c).symm
  rw [whole] at valid
  rcases Nat.lt_or_ge v 0x80 with one | more
  · rw [same] at ok ⊢
    rw [encodeOne one, List.singleton_append, scan, firstOne one]
    exact ok (sound + 1)
  rcases Nat.lt_or_ge v 0x800 with two | more
  · rw [same, show v = v / 64 * 64 + v % 64 by omega] at ok ⊢
    rw [encodeTwo (by omega) (by omega) (by omega), List.cons_append, scan,
      firstTwo (by omega) (by omega)]
    refine scanNext.mpr ?_
    exact ⟨v % 64, rest, rfl, by omega, by omega, ok _⟩
  rcases Nat.lt_or_ge v 0x10000 with three | more
  · rw [same, show v = (v / 4096 * 64 + v / 64 % 64) * 64 + v % 64 by omega] at ok ⊢
    rw [encodeThree (by omega) (by omega) (by omega) (by omega) (by omega), List.cons_append, scan,
      firstThree (by omega)]
    refine (scanTail (by split <;> split <;> omega) (by split <;> omega)).mpr ?_
    refine ⟨v / 64 % 64, _, rfl, by split <;> omega, by split <;> omega, ?_⟩
    refine scanNext.mpr ?_
    exact ⟨v % 64, rest, rfl, by omega, by omega, ok _⟩
  · rw [same, show v = ((v / 262144 * 64 + v / 4096 % 64) * 64 + v / 64 % 64) * 64 + v % 64 by omega]
      at ok ⊢
    rw [encodeFour (by omega) (by omega) (by omega) (by omega) (by omega) (by omega),
      List.cons_append, scan, firstFour (by omega)]
    refine (scanTail (by split <;> split <;> omega) (by split <;> omega)).mpr ?_
    refine ⟨v / 4096 % 64, _, rfl, by split <;> omega, by split <;> omega, ?_⟩
    refine scanNext.mpr ?_
    refine ⟨v / 64 % 64, _, rfl, by omega, by omega, ?_⟩
    refine scanNext.mpr ?_
    exact ⟨v % 64, rest, rfl, by omega, by omega, ok _⟩

theorem scanComplete (done : List Char) (cs : List Char) (sound : Nat) :
    scan done sound none (encode cs) = .ok (done.reverse ++ cs) := by
  induction cs generalizing done sound with
  | nil => simp [encode, scan]
  | cons c rest ih =>
    rw [encodeCons]
    refine scanEncoded (fun sound => ?_) sound
    rw [ih (c :: done) sound]
    simp

theorem decodeEncode (cs : List Char) : decode (encode cs) = .ok cs := scanComplete [] cs 0

theorem textRead {bs : Bytes} {s : String} : text? bs = some s ↔ bs = bytesOf s := by
  unfold text?
  constructor
  · intro found
    cases ok : decode bs with
    | error fault =>
      rw [ok] at found
      contradiction
    | ok cs =>
      rw [ok] at found
      cases found
      rw [bytesOf, String.toList_ofList, encodeDecode ok]
  · rintro rfl
    rw [bytesOf, decodeEncode]
    exact congrArg some String.ofList_toList

theorem bytesInjective {a b : String} (same : bytesOf a = bytesOf b) : a = b := by
  have read := textRead.mpr same
  rw [textRead.mpr rfl] at read
  exact Option.some.inj read

theorem asciiByte {c : Char} {b : UInt8} (member : b ∈ String.utf8EncodeChar c) (ascii : b.toNat < 0x80) :
    c.toNat = b.toNat := by
  change c.val.toNat = _
  unfold String.utf8EncodeChar at member
  dsimp only at member
  split at member
  · rw [List.mem_singleton.mp member, UInt8.toNat_ofNat']
    omega
  · split at member
    · simp only [List.mem_cons, List.not_mem_nil, or_false] at member
      rcases member with rfl | rfl <;> simp at ascii <;> omega
    · split at member
      · simp only [List.mem_cons, List.not_mem_nil, or_false] at member
        rcases member with rfl | rfl | rfl <;> simp at ascii <;> omega
      · simp only [List.mem_cons, List.not_mem_nil, or_false] at member
        rcases member with rfl | rfl | rfl | rfl <;> simp at ascii <;> omega

theorem asciiMember {c : Char} (ascii : c.toNat < 0x80) {cs : List Char}
    (member : UInt8.ofNat c.toNat ∈ encode cs) : c ∈ cs := by
  obtain ⟨d, found, code⟩ := List.mem_flatMap.mp member
  have value : (UInt8.ofNat c.toNat).toNat = c.toNat := by simp; omega
  have same := asciiByte code (by omega)
  rw [value] at same
  have equal : d = c := by rw [← Char.ofNat_toNat d, same, Char.ofNat_toNat]
  exact equal ▸ found

end Storefront.Text.Utf8
