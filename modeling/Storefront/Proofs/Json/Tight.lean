import Storefront.Proofs.Json.Rewritten

/-! White space in JSON texts. Outside the texts it quotes, a value is written without any. -/
namespace Storefront.Json

inductive Standing where
  | outside
  | quoted
  | escaped

def outside : Standing → List Char → List Char
  | _, [] => []
  | .outside, c :: rest => if c = '"' then outside .quoted rest else c :: outside .outside rest
  | .quoted, c :: rest =>
    if c = '"' then outside .outside rest
    else if c = '\\' then outside .escaped rest
    else outside .quoted rest
  | .escaped, _ :: rest => outside .quoted rest

def Tight (w : List Char) : Prop := ∀ c ∈ outside .outside w, c ∉ [' ', '\n', '\t', '\r']

def Solid (w : List Char) : Prop :=
  ∃ cs, (∀ c ∈ cs, c ∉ [' ', '\n', '\t', '\r']) ∧ ∀ rest, outside .outside (w ++ rest) = cs ++ outside .outside rest

theorem Solid.tight {w : List Char} (solid : Solid w) : Tight w := by
  obtain ⟨cs, clean, scan⟩ := solid
  have whole := scan []
  rw [List.append_nil, outside, List.append_nil] at whole
  rw [Tight, whole]
  exact clean

theorem Solid.none : Solid [] := ⟨[], by simp, fun _ => rfl⟩

theorem Solid.append {v w : List Char} (first : Solid v) (second : Solid w) : Solid (v ++ w) := by
  obtain ⟨cs, clean, scan⟩ := first
  obtain ⟨ds, clean', scan'⟩ := second
  refine ⟨cs ++ ds, fun c member => (List.mem_append.mp member).elim (clean c) (clean' c), fun rest => ?_⟩
  rw [List.append_assoc, scan, scan', List.append_assoc]

theorem Solid.char {c : Char} (quote : c ≠ '"') (clean : c ∉ [' ', '\n', '\t', '\r']) : Solid [c] :=
  ⟨[c], by simpa using clean, fun rest => by rw [List.singleton_append, outside, if_neg quote]; rfl⟩

theorem Solid.cons {c : Char} {w : List Char} (quote : c ≠ '"') (clean : c ∉ [' ', '\n', '\t', '\r'])
    (rest : Solid w) : Solid (c :: w) := (Solid.char quote clean).append rest

theorem Solid.flat {α : Type} {f : α → List Char} {items : List α} (each : ∀ v ∈ items, Solid (f v)) :
    Solid (items.flatMap f) := by
  induction items with
  | nil => exact .none
  | cons v rest ih =>
    obtain ⟨here, later⟩ := List.forall_mem_cons.mp each
    rw [List.flatMap_cons]
    exact here.append (ih later)

theorem Solid.all {w : List Char} (each : ∀ c ∈ w, c ∉ ['"', ' ', '\n', '\t', '\r']) : Solid w := by
  have pieces : w.flatMap (fun c => [c]) = w := List.flatMap_singleton' w
  rw [← pieces]
  refine .flat fun c member => ?_
  obtain ⟨quote, clean⟩ := not_or.mp (mt List.mem_cons.mpr (each c member))
  exact .char quote clean

theorem quotedHex {n : Nat} (small : n < 16) (rest : List Char) :
    outside .quoted (Text.hexDigit n :: rest) = outside .quoted rest := by
  interval_cases n <;> rfl

theorem quotedChar (c : Char) (rest : List Char) : outside .quoted (escapedChar c ++ rest) = outside .quoted rest := by
  by_cases short : c ∈ ['"', '\\', '\x08', '\x0c', '\n', '\r', '\t']
  · simp only [List.mem_cons, List.not_mem_nil, or_false] at short
    rcases short with rfl | rfl | rfl | rfl | rfl | rfl | rfl <;> rfl
  · simp only [List.mem_cons, List.not_mem_nil, or_false, not_or] at short
    obtain ⟨quote, slash, bell, feed, line, back, tab⟩ := short
    simp only [escapedChar, quote, slash, bell, feed, line, back, tab, if_false]
    by_cases control : c.toNat < 0x20
    · rw [if_pos control]
      exact (quotedHex (by omega) _).trans (quotedHex (by omega) rest)
    · rw [if_neg control, List.singleton_append, outside, if_neg quote, if_neg slash]

theorem textSolid (s : String) : Solid (writeText s) := by
  refine ⟨[], by simp, fun rest => ?_⟩
  have inside (cs : List Char) : outside .quoted (cs.flatMap escapedChar ++ '"' :: rest) = outside .outside rest := by
    induction cs with
    | nil => rfl
    | cons c cs ih => rw [List.flatMap_cons, List.append_assoc, quotedChar, ih]
  have split : writeText s ++ rest = '"' :: (s.toList.flatMap escapedChar ++ '"' :: rest) := by simp [writeText]
  rw [split, outside, if_pos rfl, inside]
  rfl

theorem numeralSolid (n : Int) : Solid (numeral n) := by
  refine .all fun c member among => ?_
  rcases numeralDigits member with rfl | digit
  · exact absurd among (by decide)
  · simp only [List.mem_cons, List.not_mem_nil, or_false] at among
    rcases among with rfl | rfl | rfl | rfl | rfl <;> exact absurd digit (by decide)

theorem separatedSolid {pieces : List (List Char)} (each : ∀ w ∈ pieces, Solid w) : Solid (separated pieces) := by
  cases pieces with
  | nil => exact .none
  | cons w rest =>
    obtain ⟨here, later⟩ := List.forall_mem_cons.mp each
    rw [separatedCons]
    exact here.append (.flat fun w member => .cons (by decide) (by decide) (later w member))

theorem writtenSolid {levels : Nat} {v : Json} {w : List Char} (spelled : ValueSpelled levels v w) : Solid v.write := by
  have scalar {v : Json} {w : List Char} (spelled : ScalarSpelled v w) : Solid v.write := by
    cases spelled with
    | null => exact .all (by simp [write])
    | yes => exact .all (by simp [write])
    | no => exact .all (by simp [write])
    | @integer n fits =>
      change Solid (writeInteger n)
      rw [numeralWritten]
      exact numeralSolid n
    | @text s w spelled =>
      rw [write]
      exact textSolid s
  induction levels generalizing v w with
  | zero => exact scalar spelled
  | succ levels ih =>
    cases spelled with
    | scalar spelled => exact scalar spelled
    | array spelled =>
      rw [write, writeItemsMap, List.cons_append]
      refine .cons (by decide) (by decide) (.append (separatedSolid ?_) (.char (by decide) (by decide)))
      refine List.forall_mem_map.mpr fun v member => ?_
      obtain ⟨m, valued⟩ := spelled.each v member
      exact ih valued
    | object spelled =>
      rw [write, writeMembersMap, List.cons_append]
      refine .cons (by decide) (by decide) (.append (separatedSolid ?_) (.char (by decide) (by decide)))
      refine List.forall_mem_map.mpr fun e member => ?_
      obtain ⟨m, valued⟩ := spelled.each e member
      exact (textSolid e.1).append (.cons (by decide) (by decide) (ih valued))

end Storefront.Json
