import Storefront.Proofs.Json.Writer

/-! Arrays are read back item by item, if each item is. -/
namespace Storefront.Json
open Text.Utf8 (encode encodeAppend)

section Items
variable {α : Type} {read : Bytes → Except Stop (α × Bytes)} {written : α → Bytes}

structure ItemBack (read : Bytes → Except Stop (α × Bytes)) (written : α → Bytes) (v : α) : Prop where
  begins : ∃ b inside, written v = b :: inside ∧ isSpace b = false ∧ b ≠ byte ']'
  back : ∀ tail, Stops tail → read (written v ++ tail) = .ok (v, tail)

def moreItems (written : α → Bytes) (items : List α) : Bytes := items.flatMap fun v => byte ',' :: written v

def itemsBytes (written : α → Bytes) (tail : Bytes) : List α → Bytes
  | [] => byte ']' :: tail
  | v :: rest => written v ++ (moreItems written rest ++ byte ']' :: tail)

theorem moreItemsCount (written : α → Bytes) (items : List α) : items.length ≤ (moreItems written items).length := by
  induction items with
  | nil => exact Nat.le_refl 0
  | cons v rest ih =>
    simp only [moreItems, List.flatMap_cons, List.length_append, List.length_cons] at ih ⊢
    omega

theorem itemsCount (written : α → Bytes) (tail : Bytes) (items : List α) :
    items.length ≤ (itemsBytes written tail items).length := by
  cases items with
  | nil => exact Nat.zero_le _
  | cons v rest =>
    have count := moreItemsCount written rest
    simp only [itemsBytes, List.length_append, List.length_cons]
    omega

theorem itemLength (written : α → Bytes) (tail : Bytes) {items : List α} {v : α} (member : v ∈ items) :
    (written v).length ≤ (itemsBytes written tail items).length := by
  cases items with
  | nil => contradiction
  | cons w rest =>
    rcases List.mem_cons.mp member with rfl | later
    · simp [itemsBytes]
    · have among := List.mem_map_of_mem (f := fun v => byte ',' :: written v) later
      have inside := (List.sublist_flatten_of_mem among).length_le
      rw [← List.flatMap_def] at inside
      simp only [itemsBytes, moreItems, List.length_append, List.length_cons] at inside ⊢
      omega

theorem itemsBytesMap {β : Type} (f : β → α) (written : α → Bytes) (tail : Bytes) (items : List β) :
    itemsBytes written tail (items.map f) = itemsBytes (written ∘ f) tail items := by
  cases items with
  | nil => rfl
  | cons v rest => simp [itemsBytes, moreItems, List.flatMap_map]

theorem moreItemsStop (written : α → Bytes) (items : List α) (tail : Bytes) :
    Stops (moreItems written items ++ byte ']' :: tail) := by
  cases items with
  | nil => exact ⟨by decide, by decide, by decide⟩
  | cons v rest => exact ⟨by decide, by decide, by decide⟩

theorem lastItem (first : Bool) (tail : Bytes) : nextItem first (byte ']' :: tail) = .ok (false, tail) := by
  rw [nextItem, solidSkipped (by decide)]
  rfl

theorem firstItem {v : α} (back : ItemBack read written v) (tail : Bytes) :
    nextItem true (written v ++ tail) = .ok (true, written v ++ tail) := by
  obtain ⟨b, inside, text, solid, inner⟩ := back.begins
  rw [text, List.cons_append, nextItem, solidSkipped solid]
  dsimp only
  rw [if_neg inner, if_pos rfl]

theorem laterItem {v : α} (back : ItemBack read written v) (tail : Bytes) :
    nextItem false (byte ',' :: (written v ++ tail)) = .ok (true, written v ++ tail) := by
  obtain ⟨b, inside, text, solid, inner⟩ := back.begins
  rw [nextItem, solidSkipped (by decide)]
  dsimp only
  rw [if_neg (by decide), if_neg (by decide), if_pos rfl, text, List.cons_append, solidSkipped solid]
  dsimp only
  rw [if_neg inner]

theorem moreItemsRead {items : List α} (back : ∀ v ∈ items, ItemBack read written v) {n : Nat}
    (steps : items.length < n) {done : List α} (started : done.isEmpty = false) (tail : Bytes) :
    readItems read n done (moreItems written items ++ byte ']' :: tail) = .ok (done.reverse ++ items, tail) := by
  induction items generalizing n done with
  | nil =>
    obtain ⟨k, rfl⟩ := Nat.exists_eq_succ_of_ne_zero (Nat.ne_of_gt steps)
    rw [readItems, moreItems, List.flatMap_nil, List.nil_append, lastItem, List.append_nil]
    rfl
  | cons v rest ih =>
    obtain ⟨k, rfl⟩ := Nat.exists_eq_succ_of_ne_zero (show n ≠ 0 by omega)
    have here := back v List.mem_cons_self
    have split : moreItems written (v :: rest) ++ byte ']' :: tail =
        byte ',' :: (written v ++ (moreItems written rest ++ byte ']' :: tail)) := by
      simp [moreItems]
    have value := here.back _ (moreItemsStop written rest tail)
    have others := ih (fun w member => back w (List.mem_cons_of_mem v member)) (Nat.lt_of_succ_lt_succ steps)
      (show (v :: done).isEmpty = false from rfl)
    rw [readItems, split, started, laterItem here]
    simp only [bind, Except.bind, if_true, withinOk.mpr value, others]
    rw [List.reverse_cons, List.append_assoc, List.singleton_append]

theorem itemsRead {items : List α} (back : ∀ v ∈ items, ItemBack read written v) {n : Nat}
    (steps : items.length < n) (tail : Bytes) :
    readItems read n [] (itemsBytes written tail items) = .ok (items, tail) := by
  obtain ⟨k, rfl⟩ := Nat.exists_eq_succ_of_ne_zero (show n ≠ 0 by omega)
  cases items with
  | nil =>
    rw [itemsBytes, readItems, lastItem]
    rfl
  | cons v rest =>
    have here := back v List.mem_cons_self
    have value := here.back _ (moreItemsStop written rest tail)
    have others := moreItemsRead (fun w member => back w (List.mem_cons_of_mem v member))
      (Nat.lt_of_succ_lt_succ steps) (show [v].isEmpty = false from rfl) tail
    rw [itemsBytes, readItems, List.isEmpty_nil, firstItem here]
    simp only [bind, Except.bind, if_true, withinOk.mpr value, others]
    rfl

end Items

theorem writeItemsMap (items : List Json) : writeItems items = items.map write := by
  induction items with
  | nil => rw [writeItems, List.map_nil]
  | cons v rest ih => rw [writeItems, ih, List.map_cons]

theorem encodeArray (items : List Json) (tail : Bytes) :
    encode (write (.array items)) ++ tail = byte '[' :: itemsBytes (fun v => encode v.write) tail items := by
  rw [write, writeItemsMap, List.cons_append, encodeAscii (by decide), encodeAppend]
  cases items with
  | nil => rfl
  | cons v rest =>
    have others : encode ((rest.map write).flatMap fun y => ',' :: y) = moreItems (fun v => encode v.write) rest := by
      induction rest with
      | nil => rfl
      | cons w rest ih =>
        rw [List.map_cons, List.flatMap_cons, encodeAppend, ih, encodeAscii (by decide)]
        rfl
    rw [List.map_cons, separatedCons, encodeAppend, others]
    simp [itemsBytes, encode]
    rfl

end Storefront.Json
