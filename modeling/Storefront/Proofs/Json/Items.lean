import Storefront.Proofs.Json.Array

/-! The ways to write an array, with white space around each of its items. The loop over items takes
them one after the other, as long as none is refused, and leaves what follows the closing bracket. -/
namespace Storefront.Json
open Text.Utf8 (encode encodeAppend)

section Grammar
variable {α : Type} (value : α → List Char → Prop)

inductive ItemsSpelled : List α → List Char → Prop where
  | close {b : List Char} (before : Blank b) : ItemsSpelled [] (b ++ [']'])
  | next {v : α} {items : List α} {b c m w : List Char} (before : Blank b) (after : Blank c) (valued : value v m)
      (rest : ItemsSpelled items w) : ItemsSpelled (v :: items) (b ++ ',' :: (c ++ (m ++ w)))

inductive ArraySpelled : List α → List Char → Prop where
  | empty {b : List Char} (before : Blank b) : ArraySpelled [] ('[' :: (b ++ [']']))
  | filled {v : α} {items : List α} {b m w : List Char} (before : Blank b) (valued : value v m)
      (rest : ItemsSpelled value items w) : ArraySpelled (v :: items) ('[' :: (b ++ (m ++ w)))

end Grammar

def Begun (w : List Char) : Prop :=
  ∃ c inside, w = c :: inside ∧ c.toNat < 0x80 ∧ isSpace (byte c) = false ∧ byte c ≠ byte ']'

theorem Begun.skipped {m : List Char} (begun : Begun m) {b : List Char} (blank : Blank b) (w : List Char)
    (tail : Bytes) :
    ∃ first rest, skipSpace (encode (b ++ (m ++ w)) ++ tail) = first :: rest ∧ encode (m ++ w) ++ tail = first :: rest ∧
      first ≠ byte ']' := by
  obtain ⟨c, inside, rfl, ascii, solid, other⟩ := begun
  refine ⟨byte c, encode (inside ++ w) ++ tail, blank.skipped ascii solid _ _, ?_, other⟩
  rw [List.cons_append, encodeAscii ascii, List.cons_append]

theorem noItem {b : List Char} (blank : Blank b) (first : Bool) (tail : Bytes) :
    nextItem first (encode (b ++ [']']) ++ tail) = .ok (false, tail) := by
  rw [nextItem, blank.skipped (by decide) (by decide)]
  rfl

theorem openItem {b m : List Char} (blank : Blank b) (begun : Begun m) (w : List Char) (tail : Bytes) :
    nextItem true (encode (b ++ (m ++ w)) ++ tail) = .ok (true, encode (m ++ w) ++ tail) := by
  obtain ⟨first, rest, skipped, text, other⟩ := begun.skipped blank w tail
  rw [nextItem, skipped, text]
  dsimp only
  rw [if_neg other, if_pos rfl]

theorem commaItem {b c m : List Char} (before : Blank b) (after : Blank c) (begun : Begun m) (w : List Char)
    (tail : Bytes) :
    nextItem false (encode (b ++ ',' :: (c ++ (m ++ w))) ++ tail) = .ok (true, encode (m ++ w) ++ tail) := by
  obtain ⟨first, rest, skipped, text, other⟩ := begun.skipped after w tail
  rw [nextItem, before.skipped (by decide) (by decide), text]
  dsimp only
  rw [if_neg (by decide), if_neg (by decide), if_pos rfl, skipped]
  dsimp only
  rw [if_neg other]

section Reading
variable {α β : Type} {value : α → List Char → Prop}

theorem ItemsSpelled.stops {items : List α} {w : List Char} (spelled : ItemsSpelled value items w) (tail : Bytes) :
    Stops (encode w ++ tail) := by
  cases spelled with
  | close before => exact before.stops (by decide) ⟨by decide, by decide, by decide⟩
  | next before => exact before.stops (by decide) ⟨by decide, by decide, by decide⟩

theorem ItemsSpelled.each {items : List α} {w : List Char} (spelled : ItemsSpelled value items w) :
    ∀ v ∈ items, ∃ m, value v m := by
  induction spelled with
  | close before => simp
  | next before after valued rest ih => exact List.forall_mem_cons.mpr ⟨⟨_, valued⟩, ih⟩

theorem ArraySpelled.each {items : List α} {w : List Char} (spelled : ArraySpelled value items w) :
    ∀ v ∈ items, ∃ m, value v m := by
  cases spelled with
  | empty before => simp
  | filled before valued rest => exact List.forall_mem_cons.mpr ⟨⟨_, valued⟩, rest.each⟩

theorem ItemsSpelled.count {items : List α} {w : List Char} (spelled : ItemsSpelled value items w) :
    items.length < (encode w).length := by
  induction spelled with
  | close before =>
    rw [encodeAppend, encodeAscii (by decide), List.length_append, List.length_cons, List.length_nil]
    omega
  | next before after valued rest ih =>
    rw [encodeAppend, encodeAscii (by decide), encodeAppend, encodeAppend]
    simp only [List.length_append, List.length_cons]
    omega

theorem ArraySpelled.count {items : List α} {w : List Char} (spelled : ArraySpelled value items w) :
    items.length < (encode w).length := by
  cases spelled with
  | empty before =>
    rw [encodeAscii (by decide), List.length_cons, List.length_nil]
    omega
  | @filled v items b m w before valued rest =>
    have others := rest.count
    rw [encodeAscii (by decide), encodeAppend, encodeAppend]
    simp only [List.length_append, List.length_cons]
    omega

variable {read : Nat → Bytes → Except Stop (β × Bytes)} {result : α → Option β}

theorem itemStep (law : JudgesValue value read result) {v : α} {m w : List Char} {items : List α} (valued : value v m)
    (rest : ItemsSpelled value items w) {bound n : Nat} (enough : (encode (m ++ w)).length ≤ bound) {done : List β}
    {bs tail : Bytes} (next : nextItem done.isEmpty bs = .ok (true, encode (m ++ w) ++ tail)) :
    (readItems (read bound) (n + 1) done bs).toOption = (result v).bind fun u =>
      (readItems (read bound) n (u :: done) (encode w ++ tail)).toOption := by
  have count := rest.count
  rw [encodeAppend, List.length_append] at enough
  have judged := law v [] m bound (encode w ++ tail) Blank.none valued (by omega) (rest.stops tail)
  rw [List.nil_append, ← List.append_assoc, ← encodeAppend] at judged
  have within : (within (.item done.length) (read bound (encode (m ++ w) ++ tail))).toOption =
      (result v).map fun u => (u, encode w ++ tail) := by
    rw [← judged]
    cases read bound (encode (m ++ w) ++ tail) <;> rfl
  have step : readItems (read bound) (n + 1) done bs =
      (Json.within (.item done.length) (read bound (encode (m ++ w) ++ tail))).bind fun found =>
        readItems (read bound) n (found.1 :: done) found.2 := by
    rw [readItems, next]
    rfl
  rw [step, bindToOption, within]
  cases result v <;> rfl

theorem itemsJudged (law : JudgesValue value read result) (begun : ∀ v w, value v w → Begun w) {items : List α}
    {w : List Char} (spelled : ItemsSpelled value items w) {bound n : Nat} (enough : (encode w).length ≤ bound)
    (steps : items.length < n) {done : List β} (started : done.isEmpty = false) (tail : Bytes) :
    (readItems (read bound) n done (encode w ++ tail)).toOption =
      (items.mapM result).map fun found => (done.reverse ++ found, tail) := by
  induction spelled generalizing n done with
  | close before =>
    obtain ⟨k, rfl⟩ := Nat.exists_eq_succ_of_ne_zero (Nat.ne_of_gt steps)
    rw [readItems, noItem before, List.mapM_nil]
    simp [bind, Except.bind, Except.toOption]
  | @next v items b c m w before after valued rest ih =>
    obtain ⟨k, rfl⟩ := Nat.exists_eq_succ_of_ne_zero (Nat.ne_of_gt (Nat.zero_lt_of_lt steps))
    have inside : (encode (m ++ w)).length ≤ bound := by
      rw [encodeAppend, encodeAscii (by decide), encodeAppend c] at enough
      simp only [List.length_append, List.length_cons] at enough
      omega
    have others : (encode w).length ≤ bound := by
      rw [encodeAppend, List.length_append] at inside
      omega
    have next := commaItem before after (begun v m valued) w tail
    rw [← started] at next
    rw [itemStep law valued rest inside next, List.mapM_cons]
    cases result v with
    | none => rfl
    | some u =>
      have later := ih others (Nat.lt_of_succ_lt_succ steps) (show (u :: done).isEmpty = false from rfl)
      rw [Option.bind_some, later]
      cases items.mapM result <;> simp

theorem arrayJudged (law : JudgesValue value read result) (begun : ∀ v w, value v w → Begun w) {items : List α}
    {w : List Char} (spelled : ArraySpelled value items w) {bound n : Nat} (enough : (encode w).length ≤ bound)
    (steps : items.length < n) (tail : Bytes) :
    ∃ inside, w = '[' :: inside ∧ (readItems (read bound) n [] (encode inside ++ tail)).toOption =
      (items.mapM result).map fun found => (found, tail) := by
  obtain ⟨k, rfl⟩ := Nat.exists_eq_succ_of_ne_zero (Nat.ne_of_gt (Nat.zero_lt_of_lt steps))
  cases spelled with
  | empty before =>
    refine ⟨_, rfl, ?_⟩
    rw [readItems, noItem before, List.mapM_nil]
    rfl
  | @filled v items b m w before valued rest =>
    have inside : (encode (m ++ w)).length ≤ bound := by
      rw [encodeAscii (by decide), encodeAppend, List.length_cons, List.length_append] at enough
      omega
    have others : (encode w).length ≤ bound := by
      rw [encodeAppend, List.length_append] at inside
      omega
    refine ⟨_, rfl, ?_⟩
    have next : nextItem ([] : List β).isEmpty (encode (b ++ (m ++ w)) ++ tail) = .ok (true, encode (m ++ w) ++ tail) :=
      openItem before (begun v m valued) w tail
    rw [itemStep law valued rest inside next, List.mapM_cons]
    cases result v with
    | none => rfl
    | some u =>
      have later := itemsJudged law begun rest others (Nat.lt_of_succ_lt_succ steps)
        (show [u].isEmpty = false from rfl) tail
      rw [Option.bind_some, later]
      cases items.mapM result <;> simp

end Reading

section Writing
variable {value : Json → List Char → Prop}

theorem itemsWritten {items : List Json} (each : ∀ v ∈ items, value v v.write) :
    ItemsSpelled value items (items.flatMap (fun v => ',' :: v.write) ++ [']']) := by
  induction items with
  | nil => exact .close .none
  | cons v rest ih =>
    obtain ⟨here, later⟩ := List.forall_mem_cons.mp each
    have whole := ItemsSpelled.next .none .none here (ih later)
    simpa using whole

theorem arrayWritten {items : List Json} (each : ∀ v ∈ items, value v v.write) :
    ArraySpelled value items (write (.array items)) := by
  rw [write, writeItemsMap]
  cases items with
  | nil => exact .empty .none
  | cons v rest =>
    obtain ⟨here, later⟩ := List.forall_mem_cons.mp each
    have whole := ArraySpelled.filled .none here (itemsWritten later)
    simpa [separatedCons, List.flatMap_map] using whole

end Writing

end Storefront.Json
