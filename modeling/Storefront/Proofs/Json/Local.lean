import Storefront.Json.Reader
import Storefront.Proofs.Json.Number

/-! What the readers of values take. A value is read from a piece at the front of the bytes,
and the same piece gives the same value wherever it stands: bytes after it, larger or smaller
bounds and other readers of embedded texts make no difference as long as they do for the
piece. -/
namespace Storefront.Json

theorem withinOk {step : Step} {x : Except Stop (α × Bytes)} {r : α × Bytes} :
    within step x = .ok r ↔ x = .ok r := by
  cases x with
  | error stop => simp [within]
  | ok v => simp [within]

theorem spaceSkipped {used tail : Bytes} {b : UInt8} (spaces : ∀ c ∈ used, isSpace c = true)
    (solid : isSpace b = false) : skipSpace (used ++ b :: tail) = b :: tail := by
  rw [skipSpace, List.dropWhile_append_of_pos spaces, List.dropWhile_cons_of_neg (by simp [solid])]

theorem spaceTaken {bs rest : Bytes} {b : UInt8} (ok : skipSpace bs = b :: rest) :
    ∃ used, bs = used ++ b :: rest ∧ (∀ c ∈ used, isSpace c = true) ∧ isSpace b = false := by
  refine ⟨bs.takeWhile isSpace, ?_, fun c => List.mem_takeWhile_imp, ?_⟩
  · rw [← ok]
    exact List.takeWhile_append_dropWhile.symm
  · have head := List.head?_dropWhile_not isSpace bs
    rw [show bs.dropWhile isSpace = b :: rest from ok] at head
    simpa using head

theorem stopsSpace {b : UInt8} (space : isSpace b = true) (rest : Bytes) : Stops (b :: rest) := by
  simp only [isSpace, Bool.or_eq_true, decide_eq_true_eq] at space
  rcases space with ((rfl | rfl) | rfl) | rfl <;> exact ⟨by decide, by decide, by decide⟩

theorem stopsAfterSpace {used tail : Bytes} (spaces : ∀ c ∈ used, isSpace c = true) (stops : Stops tail) :
    Stops (used ++ tail) := by
  cases used with
  | nil => exact stops
  | cons b more => exact stopsSpace (spaces b List.mem_cons_self) _

theorem nextItemTaken {first more : Bool} {bs rest : Bytes} (ok : nextItem first bs = .ok (more, rest)) :
    ∃ used, bs = used ++ rest ∧ (first = false ∨ more = false → used ≠ []) ∧
      (first = false → ∀ tail, Stops (used ++ tail)) ∧
      ∀ tail, (more = true → tail.head? = rest.head?) → nextItem first (used ++ tail) = .ok (more, tail) := by
  unfold nextItem at ok
  split at ok
  · contradiction
  · rename_i b bs' found
    obtain ⟨blank, rfl, spaces, solid⟩ := spaceTaken found
    split at ok
    · rename_i close
      simp only [Except.ok.injEq, Prod.mk.injEq] at ok
      obtain ⟨rfl, rfl⟩ := ok
      subst close
      refine ⟨blank ++ [byte ']'], by simp, by simp, fun _ tail => ?_, fun tail _ => ?_⟩
      · rw [List.append_assoc]
        exact stopsAfterSpace spaces ⟨by decide, by decide, by decide⟩
      · rw [List.append_assoc]
        simp [nextItem, spaceSkipped spaces solid]
    · rename_i close
      split at ok
      · rename_i start
        simp only [Except.ok.injEq, Prod.mk.injEq] at ok
        obtain ⟨rfl, rfl⟩ := ok
        refine ⟨blank, rfl, by simp [start], by simp [start], fun tail head => ?_⟩
        cases tail with
        | nil => simp at head
        | cons c tail =>
          obtain rfl : c = b := by simpa using head
          simp [nextItem, spaceSkipped spaces solid, close, start]
      · rename_i start
        split at ok
        · rename_i comma
          subst comma
          split at ok
          · contradiction
          · rename_i c bs'' found'
            obtain ⟨blank', rfl, spaces', solid'⟩ := spaceTaken found'
            split at ok
            · contradiction
            · rename_i close'
              simp only [Except.ok.injEq, Prod.mk.injEq] at ok
              obtain ⟨rfl, rfl⟩ := ok
              refine ⟨blank ++ byte ',' :: blank', by simp, by simp, fun _ tail => ?_, fun tail head => ?_⟩
              · rw [List.append_assoc]
                exact stopsAfterSpace spaces ⟨by decide, by decide, by decide⟩
              · cases tail with
                | nil => simp at head
                | cons d tail =>
                  obtain rfl : d = c := by simpa using head
                  rw [List.append_assoc, List.cons_append]
                  simp [nextItem, spaceSkipped spaces solid, spaceSkipped spaces' solid', close, start, close']
        · contradiction

theorem wordScalar {cs : List Char} {v w : Json} {bs rest : Bytes}
    (ok : ((readWord cs bs).map fun r => (v, r)) = .ok (w, rest)) :
    ∃ used, bs = used ++ rest ∧ ∀ tail, ((readWord cs (used ++ tail)).map fun r => (v, r)) = .ok (w, tail) := by
  rw [okMap] at ok
  obtain ⟨r, word, same⟩ := ok
  cases same
  refine ⟨_, wordTaken.mp word, fun tail => ?_⟩
  rw [wordTaken.mpr rfl]
  rfl

theorem numberScalar {negative : Bool} {bs rest : Bytes} {v : Json}
    (ok : ((readNumber negative bs).map fun (n, r) => (Json.number n, r)) = .ok (v, rest)) :
    ∃ d more, bs = d :: more ++ rest ∧ ∀ tail, Stops tail →
      ((readNumber negative (d :: more ++ tail)).map fun (n, r) => (Json.number n, r)) = .ok (v, tail) := by
  rw [okMap] at ok
  obtain ⟨⟨n, r⟩, number, same⟩ := ok
  cases same
  obtain ⟨used, rfl, ⟨d, more, rfl, _⟩, taken⟩ := numberTaken number
  refine ⟨d, more, rfl, fun tail stops => ?_⟩
  rw [taken _ stops]
  rfl

theorem scalarTaken {bound : Nat} {b : UInt8} {bs rest : Bytes} {v : Json}
    (ok : readScalar bound b bs = .ok (v, rest)) :
    ∃ used, bs = used ++ rest ∧
      ∀ bound' tail, used.length ≤ bound' → Stops tail → readScalar bound' b (used ++ tail) = .ok (v, tail) := by
  unfold readScalar at ok ⊢
  by_cases null : b = byte 'n'
  · simp only [if_pos null] at ok ⊢
    obtain ⟨used, rfl, taken⟩ := wordScalar ok
    exact ⟨used, rfl, fun _ tail _ _ => taken tail⟩
  simp only [if_neg null] at ok ⊢
  by_cases yes : b = byte 't'
  · simp only [if_pos yes] at ok ⊢
    obtain ⟨used, rfl, taken⟩ := wordScalar ok
    exact ⟨used, rfl, fun _ tail _ _ => taken tail⟩
  simp only [if_neg yes] at ok ⊢
  by_cases no : b = byte 'f'
  · simp only [if_pos no] at ok ⊢
    obtain ⟨used, rfl, taken⟩ := wordScalar ok
    exact ⟨used, rfl, fun _ tail _ _ => taken tail⟩
  simp only [if_neg no] at ok ⊢
  by_cases quote : b = byte '"'
  · simp only [if_pos quote] at ok ⊢
    rw [okMap] at ok
    obtain ⟨⟨s, r⟩, text, same⟩ := ok
    cases same
    obtain ⟨used, rfl, _, taken⟩ := textTaken text
    refine ⟨used, rfl, fun bound' tail enough _ => ?_⟩
    rw [taken _ _ enough]
    rfl
  simp only [if_neg quote] at ok ⊢
  by_cases minus : b = byte '-'
  · simp only [if_pos minus] at ok ⊢
    obtain ⟨d, more, rfl, taken⟩ := numberScalar ok
    exact ⟨d :: more, rfl, fun _ tail _ stops => taken tail stops⟩
  simp only [if_neg minus] at ok ⊢
  by_cases digit : isDigit b = true
  · simp only [if_pos digit] at ok ⊢
    obtain ⟨d, more, eq, taken⟩ := numberScalar ok
    obtain ⟨rfl, rfl⟩ := List.cons.inj eq
    exact ⟨more, rfl, fun _ tail _ stops => taken tail stops⟩
  · rw [if_neg digit] at ok
    contradiction

theorem nextNameTaken {bound : Nat} {first : Bool} {bs rest : Bytes} {name : Option String}
    (ok : nextName bound first bs = .ok (name, rest)) :
    ∃ used, bs = used ++ rest ∧ used ≠ [] ∧ (first = false → ∀ tail, Stops (used ++ tail)) ∧
      ∀ bound' tail, used.length ≤ bound' → nextName bound' first (used ++ tail) = .ok (name, tail) := by
  rw [nextName, withinOk] at ok
  split at ok
  · contradiction
  · rename_i b bs' found
    obtain ⟨blank, rfl, spaces, solid⟩ := spaceTaken found
    split at ok
    · rename_i close
      simp only [Except.ok.injEq, Prod.mk.injEq] at ok
      obtain ⟨rfl, rfl⟩ := ok
      subst close
      refine ⟨blank ++ [byte '\x7d'], by simp, by simp, fun _ tail => ?_, fun bound' tail _ => ?_⟩
      · rw [List.append_assoc]
        exact stopsAfterSpace spaces ⟨by decide, by decide, by decide⟩
      · rw [List.append_assoc, nextName, withinOk]
        simp [spaceSkipped spaces solid]
    · rename_i close
      split at ok
      · rename_i start
        split at ok
        · rename_i quote
          rw [okMap] at ok
          obtain ⟨⟨s, r⟩, text, same⟩ := ok
          cases same
          obtain ⟨used, rfl, _, taken⟩ := textTaken text
          refine ⟨blank ++ b :: used, by simp, by simp, by simp [start], fun bound' tail enough => ?_⟩
          have short : used.length ≤ bound' := by simp at enough; omega
          rw [List.append_assoc, nextName, withinOk, List.cons_append, spaceSkipped spaces solid]
          simp only [if_neg close, if_pos start, if_pos quote, taken _ _ short]
          rfl
        · contradiction
      · rename_i start
        split at ok
        · rename_i comma
          subst comma
          split at ok
          · contradiction
          · rename_i c bs'' found'
            obtain ⟨blank', rfl, spaces', solid'⟩ := spaceTaken found'
            split at ok
            · rename_i quote
              rw [okMap] at ok
              obtain ⟨⟨s, r⟩, text, same⟩ := ok
              cases same
              obtain ⟨used, rfl, _, taken⟩ := textTaken text
              refine ⟨blank ++ byte ',' :: (blank' ++ c :: used), by simp, by simp, fun _ tail => ?_,
                fun bound' tail enough => ?_⟩
              · rw [List.append_assoc]
                exact stopsAfterSpace spaces ⟨by decide, by decide, by decide⟩
              · have short : used.length ≤ bound' := by simp at enough; omega
                rw [List.append_assoc, nextName, withinOk, List.cons_append, spaceSkipped spaces solid]
                simp only [List.append_assoc, List.cons_append, if_neg close, if_neg start,
                  spaceSkipped spaces' solid', if_pos quote, taken _ _ short]
                rfl
            · split at ok <;> contradiction
        · contradiction

theorem colonTaken {bs rest : Bytes} (ok : readColon bs = .ok rest) :
    ∃ used, bs = used ++ rest ∧ used ≠ [] ∧ ∀ tail, readColon (used ++ tail) = .ok tail := by
  unfold readColon at ok
  split at ok
  · contradiction
  · rename_i b bs' found
    obtain ⟨blank, rfl, spaces, solid⟩ := spaceTaken found
    split at ok
    · rename_i colon
      cases ok
      subst colon
      refine ⟨blank ++ [byte ':'], by simp, by simp, fun tail => ?_⟩
      rw [List.append_assoc]
      simp [readColon, spaceSkipped spaces solid]
    · contradiction

theorem closeObjectTaken {bs rest : Bytes} (ok : closeObject bs = .ok rest) :
    ∃ used, bs = used ++ rest ∧ used ≠ [] ∧ ∀ tail, closeObject (used ++ tail) = .ok tail := by
  unfold closeObject at ok
  split at ok
  · contradiction
  · rename_i b bs' found
    obtain ⟨blank, rfl, spaces, solid⟩ := spaceTaken found
    split at ok
    · rename_i close
      cases ok
      subst close
      refine ⟨blank ++ [byte '\x7d'], by simp, by simp, fun tail => ?_⟩
      rw [List.append_assoc]
      simp [closeObject, spaceSkipped spaces solid]
    · split at ok <;> contradiction

theorem shapeRefused {bound : Nat} {wanted : String} {b : UInt8} {bs : Bytes} {r : α × Bytes} :
    refuseShape bound wanted b bs ≠ .ok r := by
  rw [refuseShape, ne_eq, okBind]
  rintro ⟨⟨found, rest⟩, _, never⟩
  contradiction

theorem textValueTaken {bound : Nat} {wanted : String} {bs rest : Bytes} {s : String}
    (ok : readTextValue bound wanted bs = .ok (s, rest)) :
    ∃ used, bs = used ++ rest ∧ (bytesOf s).length < used.length ∧
      ∀ bound' tail, used.length ≤ bound' → readTextValue bound' wanted (used ++ tail) = .ok (s, tail) := by
  unfold readTextValue at ok
  split at ok
  · contradiction
  · rename_i b bs' found
    obtain ⟨blank, rfl, spaces, solid⟩ := spaceTaken found
    split at ok
    · rename_i quote
      obtain ⟨used, rfl, size, taken⟩ := textTaken ok
      refine ⟨blank ++ b :: used, by simp, by simp; omega, fun bound' tail enough => ?_⟩
      have short : used.length ≤ bound' := by simp at enough; omega
      rw [List.append_assoc, readTextValue, List.cons_append, spaceSkipped spaces solid]
      simp only [if_pos quote, taken _ _ short]
    · exact absurd ok shapeRefused

structure Setting where
  embedded : Bytes → Except Refusal Json
  bound : Nat

/-- The second setting does for a piece of so many bytes what the first one does. -/
structure Setting.Serves (a b : Setting) (length : Nat) : Prop where
  bound : length ≤ b.bound
  embedded : ∀ t v, t.length < length → a.embedded t = .ok v → b.embedded t = .ok v

theorem Setting.Serves.shorter {a b : Setting} {m n : Nat} (serves : a.Serves b n) (le : m ≤ n) :
    a.Serves b m :=
  ⟨Nat.le_trans le serves.bound, fun t v small => serves.embedded t v (Nat.lt_of_lt_of_le small le)⟩

/-- A reader that takes a piece from the front of the bytes and gives the same answer on it
before whatever stops a number, in every setting that serves. -/
def Local (read : Setting → Bytes → Except Stop (α × Bytes)) : Prop :=
  ∀ a bs v rest, read a bs = .ok (v, rest) →
    ∃ used, bs = used ++ rest ∧ used ≠ [] ∧
      ∀ b tail, a.Serves b used.length → Stops tail → read b (used ++ tail) = .ok (v, tail)

theorem memberLocal {read : Setting → Bytes → Except Stop (α × Bytes)} (loc : Local read) (name : String) :
    Local fun a => readMember (read a) name := by
  intro a bs v rest ok
  dsimp only at ok
  rw [readMember, okBind] at ok
  obtain ⟨bs', colon, ok⟩ := ok
  rw [withinOk] at ok
  obtain ⟨before, rfl, _, colonAgain⟩ := colonTaken colon
  obtain ⟨used, rfl, _, taken⟩ := loc a bs' v rest ok
  refine ⟨before ++ used, by simp, by simp_all, fun b tail serves stops => ?_⟩
  have again := taken b tail (serves.shorter (by simp)) stops
  dsimp only
  rw [List.append_assoc, readMember, colonAgain]
  exact withinOk.mpr again

theorem itemsTaken {read : Setting → Bytes → Except Stop (α × Bytes)} (loc : Local read) {a : Setting}
    {n : Nat} {done vs : List α} {bs rest : Bytes} (ok : readItems (read a) n done bs = .ok (vs, rest)) :
    ∃ used, bs = used ++ rest ∧ used ≠ [] ∧ (done.isEmpty = false → ∀ tail, Stops (used ++ tail)) ∧
      ∀ b m tail, a.Serves b used.length → used.length ≤ m →
        readItems (read b) m done (used ++ tail) = .ok (vs, tail) := by
  induction n generalizing done bs with
  | zero => simp [readItems] at ok
  | succ n ih =>
    rw [readItems, okBind] at ok
    obtain ⟨⟨more, bs'⟩, next, ok⟩ := ok
    obtain ⟨before, rfl, solid, stops, nextAgain⟩ := nextItemTaken next
    dsimp only at ok
    split at ok
    · rename_i going
      rw [okBind] at ok
      obtain ⟨⟨v, bs''⟩, item, ok⟩ := ok
      rw [withinOk] at item
      obtain ⟨piece, rfl, nonempty, taken⟩ := loc _ _ _ _ item
      obtain ⟨after, rfl, _, later, again⟩ := ih ok
      refine ⟨before ++ (piece ++ after), by simp, by simp_all, ?_, fun b m tail serves enough => ?_⟩
      · intro started tail
        rw [List.append_assoc]
        exact stops started _
      · have size : 0 < piece.length := List.length_pos_iff.mpr nonempty
        simp only [List.length_append] at serves enough
        obtain ⟨k, rfl⟩ := Nat.exists_eq_succ_of_ne_zero (show m ≠ 0 by omega)
        have head : (piece ++ (after ++ tail)).head? = (piece ++ (after ++ rest)).head? := by
          obtain ⟨c, cs, rfl⟩ := List.exists_cons_of_ne_nil nonempty
          rfl
        have value := taken b (after ++ tail) (serves.shorter (by omega)) (later rfl tail)
        rw [List.append_assoc, List.append_assoc, readItems, nextAgain _ fun _ => head]
        simp only [bind, Except.bind, going, if_true, withinOk.mpr value]
        exact again b k tail (serves.shorter (by omega)) (by omega)
    · rename_i ended
      simp only [Except.ok.injEq, Prod.mk.injEq] at ok
      obtain ⟨rfl, rfl⟩ := ok
      simp only [Bool.not_eq_true] at ended
      have nonempty := solid (Or.inr ended)
      refine ⟨before, rfl, nonempty, stops, fun b m tail serves enough => ?_⟩
      have size : 0 < before.length := List.length_pos_iff.mpr nonempty
      obtain ⟨k, rfl⟩ := Nat.exists_eq_succ_of_ne_zero (show m ≠ 0 by omega)
      rw [readItems, nextAgain _ (by simp [ended])]
      simp [bind, Except.bind, ended]

theorem membersTaken {take : Setting → σ → String → Bytes → Except Stop (σ × Bytes)}
    (loc : ∀ state name, Local fun a => take a state name) {a : Setting} {n : Nat} {first : Bool}
    {state final : σ} {bs rest : Bytes}
    (ok : readMembers a.bound (take a) n first state bs = .ok (final, rest)) :
    ∃ used, bs = used ++ rest ∧ used ≠ [] ∧ (first = false → ∀ tail, Stops (used ++ tail)) ∧
      ∀ b m tail, a.Serves b used.length → used.length ≤ m →
        readMembers b.bound (take b) m first state (used ++ tail) = .ok (final, tail) := by
  induction n generalizing first state bs with
  | zero => simp [readMembers] at ok
  | succ n ih =>
    rw [readMembers, okBind] at ok
    obtain ⟨⟨name, bs'⟩, next, ok⟩ := ok
    obtain ⟨before, rfl, nonempty, stops, nextAgain⟩ := nextNameTaken next
    have size : 0 < before.length := List.length_pos_iff.mpr nonempty
    cases name with
    | none =>
      simp only [Except.ok.injEq, Prod.mk.injEq] at ok
      obtain ⟨rfl, rfl⟩ := ok
      refine ⟨before, rfl, nonempty, stops, fun b m tail serves enough => ?_⟩
      obtain ⟨k, rfl⟩ := Nat.exists_eq_succ_of_ne_zero (show m ≠ 0 by omega)
      rw [readMembers, nextAgain _ _ serves.bound]
      rfl
    | some name =>
      rw [okBind] at ok
      obtain ⟨⟨state', bs''⟩, member, ok⟩ := ok
      obtain ⟨piece, rfl, _, taken⟩ := loc _ _ _ _ _ _ member
      obtain ⟨after, rfl, _, later, again⟩ := ih ok
      refine ⟨before ++ (piece ++ after), by simp, by simp_all, ?_, fun b m tail serves enough => ?_⟩
      · intro started tail
        rw [List.append_assoc]
        exact stops started _
      · simp only [List.length_append] at serves enough
        obtain ⟨k, rfl⟩ := Nat.exists_eq_succ_of_ne_zero (show m ≠ 0 by omega)
        have value := taken b (after ++ tail) (serves.shorter (by omega)) (later rfl tail)
        rw [List.append_assoc, List.append_assoc, readMembers, nextAgain _ _ (serves.shorter (by omega)).bound]
        simp only [bind, Except.bind, value]
        exact again b k tail (serves.shorter (by omega)) (by omega)

theorem takeMemberLocal {read : Setting → Bytes → Except Stop (Json × Bytes)} (loc : Local read)
    (members : List (String × Json)) (name : String) : Local fun a => takeMember (read a) members name := by
  intro a bs found rest ok
  dsimp only at ok
  rw [takeMember, okBind] at ok
  obtain ⟨⟨v, r⟩, member, ok⟩ := ok
  cases ok
  obtain ⟨used, rfl, nonempty, taken⟩ := memberLocal loc name _ _ _ _ member
  refine ⟨used, rfl, nonempty, fun b tail serves stops => ?_⟩
  dsimp only at taken ⊢
  rw [takeMember, taken b tail serves stops]
  rfl

/-- An embedded text is shorter than the piece it stands in, so the other reader of embedded
texts is only asked for what the first one answered. -/
theorem embeddedTaken {a : Setting} {bs rest : Bytes} {v : Json}
    (ok : readEmbedded a.embedded a.bound bs = .ok (v, rest)) :
    ∃ used, bs = used ++ rest ∧ used ≠ [] ∧
      ∀ b tail, a.Serves b used.length → readEmbedded b.embedded b.bound (used ++ tail) = .ok (v, tail) := by
  rw [readEmbedded, okBind] at ok
  obtain ⟨⟨s, bs'⟩, member, ok⟩ := ok
  rw [readMember, okBind] at member
  obtain ⟨bs'', colon, member⟩ := member
  rw [withinOk] at member
  obtain ⟨before, rfl, nonempty, colonAgain⟩ := colonTaken colon
  obtain ⟨piece, rfl, size, taken⟩ := textValueTaken member
  dsimp only at ok
  split at ok
  · contradiction
  · rename_i w inner
    rw [okMap] at ok
    obtain ⟨r, close, same⟩ := ok
    cases same
    obtain ⟨after, rfl, _, closeAgain⟩ := closeObjectTaken close
    refine ⟨before ++ (piece ++ after), by simp, by simp_all, fun b tail serves => ?_⟩
    simp only [List.length_append] at serves
    have text : readTextValue b.bound "raw value" (piece ++ (after ++ tail)) = .ok (s, after ++ tail) :=
      taken _ _ (serves.shorter (by omega)).bound
    have value := serves.embedded _ _ (by omega) inner
    rw [List.append_assoc, List.append_assoc, readEmbedded, readMember, colonAgain]
    simp only [bind, Except.bind, withinOk.mpr text, value, closeAgain]
    rfl

theorem objectLocal {read : Setting → Bytes → Except Stop (Json × Bytes)} (loc : Local read) {a : Setting}
    {bs rest : Bytes} {v : Json} (ok : readObject a.embedded a.bound (read a) bs = .ok (v, rest)) :
    ∃ used, bs = used ++ rest ∧ used ≠ [] ∧
      ∀ b tail, a.Serves b used.length → readObject b.embedded b.bound (read b) (used ++ tail) = .ok (v, tail) := by
  rw [readObject, okBind] at ok
  obtain ⟨⟨name, bs'⟩, next, ok⟩ := ok
  obtain ⟨before, rfl, nonempty, _, nextAgain⟩ := nextNameTaken next
  cases name with
  | none =>
    cases ok
    refine ⟨before, rfl, nonempty, fun b tail serves => ?_⟩
    rw [readObject, nextAgain _ _ serves.bound]
    rfl
  | some name =>
    dsimp only at ok
    split at ok
    · rename_i reserved
      obtain ⟨piece, rfl, _, again⟩ := embeddedTaken ok
      refine ⟨before ++ piece, by simp, by simp_all, fun b tail serves => ?_⟩
      simp only [List.length_append] at serves
      rw [List.append_assoc, readObject, nextAgain _ _ (serves.shorter (by omega)).bound]
      simp only [bind, Except.bind, if_pos reserved, again b tail (serves.shorter (by omega))]
    · rename_i plain
      rw [okBind] at ok
      obtain ⟨⟨members, bs''⟩, member, ok⟩ := ok
      rw [okBind] at ok
      obtain ⟨⟨final, r⟩, others, ok⟩ := ok
      cases ok
      obtain ⟨piece, rfl, _, taken⟩ := takeMemberLocal loc _ _ _ _ _ _ member
      obtain ⟨after, rfl, _, later, again⟩ := membersTaken (takeMemberLocal loc) others
      refine ⟨before ++ (piece ++ after), by simp, by simp_all, fun b tail serves => ?_⟩
      simp only [List.length_append] at serves
      have first := taken b (after ++ tail) (serves.shorter (by omega)) (later rfl tail)
      have more := again b b.bound tail (serves.shorter (by omega)) (serves.shorter (by omega)).bound
      dsimp only at first
      rw [List.append_assoc, List.append_assoc, readObject, nextAgain _ _ (serves.shorter (by omega)).bound]
      simp only [bind, Except.bind, if_neg plain, first, more]

theorem scalarValueTaken {depth : Nat} {a : Setting} {blank bs rest : Bytes} {b : UInt8} {v : Json}
    (spaces : ∀ c ∈ blank, isSpace c = true) (solid : isSpace b = false)
    (flat : ¬ (b = byte '[' ∨ b = byte '\x7b')) (ok : readScalar a.bound b bs = .ok (v, rest)) :
    ∃ used, blank ++ b :: bs = used ++ rest ∧ used ≠ [] ∧ ∀ s tail, a.Serves s used.length → Stops tail →
      readValue s.embedded s.bound depth (used ++ tail) = .ok (v, tail) := by
  obtain ⟨used, rfl, taken⟩ := scalarTaken ok
  refine ⟨blank ++ b :: used, by simp, by simp, fun s tail serves stops => ?_⟩
  simp only [List.length_append, List.length_cons] at serves
  rw [List.append_assoc, List.cons_append, readValue, spaceSkipped spaces solid]
  simp only [if_neg flat, taken _ _ (serves.shorter (by omega)).bound stops]

theorem valueLocal (depth : Nat) : Local fun a => readValue a.embedded a.bound depth := by
  -- Induction on the depth left; what is inside an array or object is read with one less.
  induction depth with
  | zero =>
    intro a bs v rest ok
    dsimp only at ok ⊢
    unfold readValue at ok
    split at ok
    · contradiction
    · rename_i b bs' found
      obtain ⟨blank, rfl, spaces, solid⟩ := spaceTaken found
      split at ok
      · contradiction
      · rename_i flat
        exact scalarValueTaken spaces solid flat ok
  | succ depth ih =>
    intro a bs v rest ok
    dsimp only at ok ⊢
    unfold readValue at ok
    split at ok
    · contradiction
    · rename_i b bs' found
      obtain ⟨blank, rfl, spaces, solid⟩ := spaceTaken found
      split at ok
      · rename_i nested
        dsimp only at ok
        split at ok
        · rename_i list
          rw [okMap] at ok
          obtain ⟨⟨vs, r⟩, items, same⟩ := ok
          cases same
          obtain ⟨used, rfl, _, _, again⟩ := itemsTaken ih items
          refine ⟨blank ++ b :: used, by simp, by simp, fun s tail serves _ => ?_⟩
          simp only [List.length_append, List.length_cons] at serves
          have inner := serves.shorter (show used.length ≤ _ by omega)
          rw [List.append_assoc, List.cons_append, readValue, spaceSkipped spaces solid]
          simp only [if_pos nested, if_pos list, again s s.bound tail inner inner.bound]
          rfl
        · rename_i list
          obtain ⟨used, rfl, _, again⟩ := objectLocal ih ok
          refine ⟨blank ++ b :: used, by simp, by simp, fun s tail serves _ => ?_⟩
          simp only [List.length_append, List.length_cons] at serves
          have inner := serves.shorter (show used.length ≤ _ by omega)
          rw [List.append_assoc, List.cons_append, readValue, spaceSkipped spaces solid]
          simp only [if_pos nested, if_neg list, again s tail inner]
      · rename_i flat
        exact scalarValueTaken spaces solid flat ok

theorem locatedOk {source : Bytes} {x : Except Stop α} {v : α} : located source x = .ok v ↔ x = .ok v := by
  cases x with
  | error stop => simp [located]
  | ok w => simp [located]

theorem finishOk {x : Except Stop (α × Bytes)} {v : α} :
    finish x = .ok v ↔ ∃ rest, x = .ok (v, rest) ∧ ∀ b ∈ rest, isSpace b = true := by
  cases x with
  | error stop => simp [finish]
  | ok r =>
    obtain ⟨w, bs⟩ := r
    cases found : skipSpace bs with
    | nil =>
      have blank := List.dropWhile_eq_nil_iff.mp found
      constructor
      · intro ok
        simp only [finish, found, Except.ok.injEq] at ok
        exact ⟨bs, by rw [ok], blank⟩
      · rintro ⟨rest, same, _⟩
        cases same
        simp only [finish, found]
    | cons b more =>
      constructor
      · intro ok
        simp [finish, found] at ok
      · rintro ⟨rest, same, blank⟩
        cases same
        rw [skipSpace, List.dropWhile_eq_nil_iff.mpr blank] at found
        contradiction

theorem levelsEnough {m n : Nat} {t : Bytes} {v : Json} (ok : parseWithin m t = .ok v) (enough : t.length < n) :
    parseWithin n t = .ok v := by
  induction n generalizing m t v with
  | zero => omega
  | succ n ih =>
    cases m with
    | zero => simp [parseWithin] at ok
    | succ m =>
      rw [parseWithin, locatedOk, finishOk] at ok
      obtain ⟨rest, read, blank⟩ := ok
      obtain ⟨used, eq, _, taken⟩ := valueLocal deepest ⟨parseWithin m, t.length + 1⟩ _ _ _ read
      have size := congrArg List.length eq
      rw [List.length_append] at size
      have serves : Setting.Serves ⟨parseWithin m, t.length + 1⟩ ⟨parseWithin n, t.length + 1⟩ used.length :=
        ⟨by dsimp only; omega, fun u w small inner => ih inner (by omega)⟩
      have stops : Stops rest := by
        rw [← List.append_nil rest]
        exact stopsAfterSpace blank trivial
      rw [parseWithin, locatedOk, finishOk]
      refine ⟨rest, ?_, blank⟩
      have again := taken _ rest serves stops
      rw [← eq] at again
      exact again

end Storefront.Json
