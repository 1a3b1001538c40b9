import Storefront.Proofs.Json.Members

/-! Written values are spellings, without white space and with as few escapes as there can be, and
the readers give the values back and leave what follows them. -/
namespace Storefront.Json
open Text.Utf8 (encode)

theorem controlUnit {c : Char} (control : c.toNat < 0x20) :
    CodeUnit ['0', '0', Text.hexDigit (c.toNat / 16), Text.hexDigit (c.toNat % 16)] c.toNat := by
  have zero : HexDigit '0' 0 := ⟨by decide, Or.inl rfl⟩
  have high : c.toNat / 16 < 16 := by omega
  have low : c.toNat % 16 < 16 := by omega
  have unit := CodeUnit.digits zero zero (.lower high) (.lower low)
  rwa [show ((0 * 16 + 0) * 16 + c.toNat / 16) * 16 + c.toNat % 16 = c.toNat by omega] at unit

theorem escapedSpelling (c : Char) : Spelling c (escapedChar c) := by
  by_cases short : c ∈ ['"', '\\', '\x08', '\x0c', '\n', '\r', '\t']
  · simp only [List.mem_cons, List.not_mem_nil, or_false] at short
    rcases short with rfl | rfl | rfl | rfl | rfl | rfl | rfl <;> exact .letter (by decide)
  · simp only [List.mem_cons, List.not_mem_nil, or_false, not_or] at short
    obtain ⟨quote, slash, bell, feed, line, back, tab⟩ := short
    simp only [escapedChar, quote, slash, bell, feed, line, back, tab, if_false]
    by_cases control : c.toNat < 0x20
    · rw [if_pos control]
      exact .unit (controlUnit control)
    · rw [if_neg control]
      exact .plain quote slash control

theorem escapedSpelled (cs : List Char) : Spelled cs (cs.flatMap escapedChar) := by
  induction cs with
  | nil => exact .nil
  | cons c cs ih => exact .cons (escapedSpelling c) ih

theorem textWritten (s : String) : TextSpelled s (writeText s) := .quoted (escapedSpelled s.toList)

def ReadsBack (depth : Nat) (v : Json) : Prop :=
  ∀ embedded bound tail, (encode v.write).length ≤ bound → Stops tail →
    readValue embedded bound depth (encode v.write ++ tail) = .ok (v, tail)

theorem blankValue {b : List Char} (blank : Blank b) (embedded : Bytes → Except Refusal Json) (bound depth : Nat)
    (bs : Bytes) : readValue embedded bound depth (encode b ++ bs) = readValue embedded bound depth bs := by
  rw [readValue, readValue, blank.dropped]

theorem textValue {s : String} {w : List Char} (spelled : TextSpelled s w) (embedded : Bytes → Except Refusal Json)
    {bound : Nat} (depth : Nat) (tail : Bytes) (enough : (encode w).length ≤ bound) :
    readValue embedded bound depth (encode w ++ tail) = .ok (.text s, tail) := by
  obtain ⟨inside, rfl, read⟩ := spelled.begins
  rw [encodeAscii (by decide), List.cons_append, readValue, solidSkipped (by decide)]
  dsimp only
  rw [if_neg (by decide), readScalar, if_neg (by decide), if_neg (by decide), if_neg (by decide), if_pos rfl,
    read bound tail enough]
  rfl

theorem textReadsBack (depth : Nat) (s : String) : ReadsBack depth (.text s) := by
  intro embedded bound tail enough _
  rw [write] at enough ⊢
  exact textValue (textWritten s) embedded depth tail enough

theorem nullReadsBack (depth : Nat) : ReadsBack depth .null := by
  intro embedded bound tail _ _
  have text : encode (write .null) ++ tail = byte 'n' :: (['u', 'l', 'l'].map byte ++ tail) := rfl
  rw [text, readValue, solidSkipped (by decide)]
  dsimp only
  rw [if_neg (by decide), readScalar, if_pos rfl, wordTaken.mpr rfl]
  rfl

theorem separatedCons (x : List Char) (xs : List (List Char)) :
    separated (x :: xs) = x ++ xs.flatMap fun y => ',' :: y := by
  induction xs generalizing x with
  | nil => simp [separated]
  | cons y ys ih =>
    have next := ih y
    simp only [separated] at next
    simp [separated, List.intercalate_cons_cons, next]

theorem writeMembersMap (members : List (String × Json)) :
    writeMembers members = members.map fun e => writeText e.1 ++ ':' :: write e.2 := by
  induction members with
  | nil => rw [writeMembers, List.map_nil]
  | cons e rest ih =>
    obtain ⟨k, v⟩ := e
    rw [writeMembers, ih, List.map_cons]

section Members
variable {α : Type} {value : α → List Char → Prop} {cell : α → Json}

theorem memberWritten {e : String × α} (each : value e.2 (write (cell e.2))) :
    MemberSpelled value e (writeText e.1 ++ ':' :: write (cell e.2)) :=
  .named (textWritten e.1) (.colon .none .none each)

theorem restWritten {members : List (String × α)} (each : ∀ e ∈ members, value e.2 (write (cell e.2))) :
    RestSpelled value members
      (members.flatMap (fun e => ',' :: (writeText e.1 ++ ':' :: write (cell e.2))) ++ ['\x7d']) := by
  induction members with
  | nil => exact .close .none
  | cons e rest ih =>
    have others := ih fun f member => each f (List.mem_cons_of_mem e member)
    have whole := RestSpelled.next .none .none (memberWritten (each e List.mem_cons_self)) others
    simpa using whole

theorem objectWritten {members : List (String × α)} (each : ∀ e ∈ members, value e.2 (write (cell e.2))) :
    ObjectSpelled value members (write (.object (members.map fun e => (e.1, cell e.2)))) := by
  rw [write, writeMembersMap, List.map_map]
  cases members with
  | nil => exact .empty .none
  | cons e rest =>
    have others := restWritten fun f member => each f (List.mem_cons_of_mem e member)
    have whole := ObjectSpelled.filled .none (memberWritten (each e List.mem_cons_self)) others
    simpa [separatedCons, List.flatMap_map] using whole

end Members

end Storefront.Json
