import Storefront.Proofs.Json.Arranged

/-! The members of an object as its text lists them, with each name as often as it is given. The object
is the list arranged, and no object that is read has the reserved name alone. -/
namespace Storefront.Json

variable {σ τ : Type}

theorem membersMapped (f : σ → τ) {take : σ → String → Bytes → Except Stop (σ × Bytes)}
    {other : τ → String → Bytes → Except Stop (τ × Bytes)}
    (step : ∀ state name bs, other (f state) name bs = (take state name bs).map (Prod.map f id))
    (limit n : Nat) (first : Bool) (state : σ) (bs : Bytes) :
    readMembers limit other n first (f state) bs = (readMembers limit take n first state bs).map (Prod.map f id) := by
  induction n generalizing first state bs with
  | zero => rfl
  | succ n ih =>
    rw [readMembers, readMembers]
    cases nextName limit first bs with
    | error stop => rfl
    | ok found =>
      obtain ⟨name, rest⟩ := found
      cases name with
      | none => rfl
      | some name =>
        simp only [bind, Except.bind, step]
        cases take state name rest with
        | error stop => rfl
        | ok taken => exact ih false taken.1 taken.2

theorem membersKeep {P : σ → Prop} {take : σ → String → Bytes → Except Stop (σ × Bytes)}
    (step : ∀ state name bs next rest, P state → take state name bs = .ok (next, rest) → P next)
    {limit n : Nat} {first : Bool} {state final : σ} {bs rest : Bytes} (start : P state)
    (ok : readMembers limit take n first state bs = .ok (final, rest)) : P final := by
  induction n generalizing first state bs with
  | zero => contradiction
  | succ n ih =>
    rw [readMembers, okBind] at ok
    obtain ⟨⟨name, bs'⟩, _, ok⟩ := ok
    cases name with
    | none =>
      cases ok
      exact start
    | some name =>
      rw [okBind] at ok
      obtain ⟨⟨next, bs''⟩, member, ok⟩ := ok
      exact ih (step _ _ _ _ _ start member) ok

theorem membersSteps {take : Setting → σ → String → Bytes → Except Stop (σ × Bytes)}
    (loc : ∀ state name, Local fun a => take a state name) {a : Setting} {n m : Nat} {first : Bool} {state : σ}
    {bs : Bytes} {x : σ × Bytes} (fits : bs.length ≤ a.bound) (enough : bs.length ≤ m)
    (ok : readMembers a.bound (take a) n first state bs = .ok x) :
    readMembers a.bound (take a) m first state bs = .ok x := by
  obtain ⟨used, rfl, _, _, again⟩ := membersTaken loc ok
  rw [List.length_append] at fits enough
  exact again a m x.2 ⟨by omega, fun _ _ _ inner => inner⟩ (by omega)

def listMember (read : Bytes → Except Stop (Json × Bytes)) (members : List (String × Json)) (name : String)
    (bs : Bytes) : Except Stop (List (String × Json) × Bytes) := do
  let (v, rest) ← readMember read name bs
  .ok (members ++ [(name, v)], rest)

theorem listMemberLocal {read : Setting → Bytes → Except Stop (Json × Bytes)} (loc : Local read)
    (members : List (String × Json)) (name : String) : Local fun a => listMember (read a) members name := by
  intro a bs found rest ok
  dsimp only at ok
  rw [listMember, okBind] at ok
  obtain ⟨⟨v, r⟩, member, ok⟩ := ok
  cases ok
  obtain ⟨used, rfl, nonempty, taken⟩ := memberLocal loc name _ _ _ _ member
  refine ⟨used, rfl, nonempty, fun b tail serves stops => ?_⟩
  dsimp only at taken ⊢
  rw [listMember, taken b tail serves stops]
  rfl

theorem takeListed (read : Bytes → Except Stop (Json × Bytes)) (members : List (String × Json)) (name : String)
    (bs : Bytes) :
    takeMember read (arranged members) name bs = (listMember read members name bs).map (Prod.map arranged id) := by
  rw [takeMember, listMember]
  cases readMember read name bs with
  | error stop => rfl
  | ok found =>
    obtain ⟨v, rest⟩ := found
    have last := arrangedSnoc members (name, v)
    simp only [bind, Except.bind, Except.map, Prod.map, last, id]

theorem objectListed {embedded : Bytes → Except Refusal Json} {bound : Nat}
    {read : Bytes → Except Stop (Json × Bytes)} {bs rest : Bytes} {name : Option String}
    (next : nextName bound true bs = .ok (name, rest)) (unreserved : name ≠ some embeddedName) :
    readObject embedded bound read bs =
      (readMembers bound (listMember read) (bound + 1) true [] bs).map fun (members, r) =>
        (.object (arranged members), r) := by
  have mapped := membersMapped arranged (takeListed read) bound (bound + 1) true [] bs
  have loop : readObject embedded bound read bs =
      (readMembers bound (takeMember read) (bound + 1) true [] bs).map fun (members, r) => (.object members, r) := by
    rw [readObject, readMembers, next]
    cases name with
    | none => rfl
    | some name =>
      have other : name ≠ embeddedName := fun same => unreserved (congrArg some same)
      simp only [bind, Except.bind, if_neg other]
      cases takeMember read [] name rest with
      | error stop => rfl
      | ok taken =>
        obtain ⟨members, r⟩ := taken
        dsimp only
        cases readMembers bound (takeMember read) bound false members r <;> rfl
  change readMembers bound (takeMember read) (bound + 1) true [] bs = _ at mapped
  rw [loop, mapped]
  cases readMembers bound (listMember read) (bound + 1) true [] bs <;> rfl

def Unreserved {α : Type} (members : List (String × α)) : Prop := ∀ e ∈ members.head?, e.1 ≠ embeddedName

instance {α : Type} (members : List (String × α)) : Decidable (Unreserved members) :=
  decidable_of_iff (members.head?.map Prod.fst ≠ some embeddedName) (by cases members <;> simp [Unreserved])

abbrev Bare (v : Json) : Prop := Throughout Unreserved v

theorem unreservedHead {α : Type} {members : List (String × α)} :
    Unreserved members ↔ members.head?.map Prod.fst ≠ some embeddedName := by
  cases members <;> simp [Unreserved]

theorem listHead {read : Bytes → Except Stop (Json × Bytes)} {limit n : Nat} {members : List (String × Json)}
    {bs rest : Bytes} (ok : readMembers limit (listMember read) n true [] bs = .ok (members, rest)) :
    ∃ left, nextName limit true bs = .ok (members.head?.map Prod.fst, left) := by
  cases n with
  | zero => contradiction
  | succ n =>
    rw [readMembers, okBind] at ok
    obtain ⟨⟨name, left⟩, next, ok⟩ := ok
    refine ⟨left, ?_⟩
    cases name with
    | none =>
      cases ok
      exact next
    | some name =>
      rw [okBind] at ok
      obtain ⟨⟨found, bs'⟩, member, ok⟩ := ok
      rw [listMember, okBind] at member
      obtain ⟨⟨v, r⟩, _, member⟩ := member
      cases member
      have kept : members.head?.map Prod.fst = some name := by
        refine membersKeep (P := fun members => members.head?.map Prod.fst = some name) ?_ rfl ok
        intro state other bs next rest head member
        rw [listMember, okBind] at member
        obtain ⟨⟨v, r⟩, _, member⟩ := member
        cases member
        cases state with
        | nil => contradiction
        | cons e more => exact head
      rw [next, kept]

theorem textRead {bound : Nat} {wanted : String} {bs rest : Bytes} {s : String}
    (ok : readTextValue bound wanted bs = .ok (s, rest)) (embedded : Bytes → Except Refusal Json) (depth : Nat) :
    readValue embedded bound depth bs = .ok (.text s, rest) := by
  rw [readTextValue] at ok
  rw [readValue]
  cases found : skipSpace bs with
  | nil =>
    rw [found] at ok
    contradiction
  | cons b bs' =>
    rw [found] at ok
    dsimp only at ok ⊢
    by_cases quote : b = byte '"'
    · rw [if_pos quote] at ok
      subst quote
      rw [if_neg (by decide), readScalar, if_neg (by decide), if_neg (by decide), if_neg (by decide), if_pos rfl, ok]
      rfl
    · rw [if_neg quote] at ok
      exact absurd ok shapeRefused

theorem closedNext {bs rest : Bytes} (ok : closeObject bs = .ok rest) (bound : Nat) :
    nextName bound false bs = .ok (none, rest) := by
  rw [closeObject] at ok
  rw [nextName, withinOk]
  cases found : skipSpace bs with
  | nil =>
    rw [found] at ok
    contradiction
  | cons b bs' =>
    rw [found] at ok
    dsimp only at ok ⊢
    by_cases brace : b = byte '\x7d'
    · rw [if_pos brace] at ok ⊢
      rw [Except.ok.inj ok]
    · rw [if_neg brace] at ok
      split at ok <;> contradiction

theorem embeddedLists {embedded : Bytes → Except Refusal Json} {bound : Nat} {bs rest : Bytes} {v : Json}
    (ok : readEmbedded embedded bound bs = .ok (v, rest)) :
    ∃ s left, (∀ depth, readMember (readValue embedded bound depth) embeddedName bs = .ok (.text s, left)) ∧
      embedded (bytesOf s) = .ok v ∧ nextName bound false left = .ok (none, rest) := by
  rw [readEmbedded, okBind] at ok
  obtain ⟨⟨s, left⟩, member, ok⟩ := ok
  rw [readMember, okBind] at member
  obtain ⟨bs', colon, text⟩ := member
  rw [withinOk] at text
  dsimp only at ok
  cases inner : embedded (bytesOf s) with
  | error refusal =>
    rw [inner] at ok
    contradiction
  | ok w =>
    rw [inner, okMap] at ok
    obtain ⟨r, close, same⟩ := ok
    cases same
    refine ⟨s, left, fun depth => ?_, inner, closedNext close bound⟩
    rw [readMember, colon]
    exact withinOk.mpr (textRead text embedded depth)

theorem objectLists {embedded : Bytes → Except Refusal Json} {bound depth : Nat} {bs rest : Bytes} {v : Json}
    (ok : readObject embedded bound (readValue embedded bound depth) bs = .ok (v, rest)) :
    ∃ n members, readMembers bound (listMember (readValue embedded bound depth)) n true [] bs = .ok (members, rest) ∧
      ((Unreserved members ∧ v = .object (arranged members)) ∨
        ∃ s, members = [(embeddedName, .text s)] ∧ embedded (bytesOf s) = .ok v) := by
  have opened := ok
  rw [readObject, okBind] at opened
  obtain ⟨⟨name, left⟩, next, opened⟩ := opened
  by_cases reserved : name = some embeddedName
  · subst reserved
    dsimp only at opened
    rw [if_pos rfl] at opened
    obtain ⟨s, r, member, inner, close⟩ := embeddedLists opened
    refine ⟨2, [(embeddedName, .text s)], ?_, Or.inr ⟨s, rfl, inner⟩⟩
    simp only [readMembers, next, bind, Except.bind, listMember, member, close, List.nil_append]
  · rw [objectListed next reserved, okMap] at ok
    obtain ⟨⟨members, r⟩, list, same⟩ := ok
    cases same
    obtain ⟨_, head⟩ := listHead list
    rw [head] at next
    cases next
    exact ⟨_, members, list, Or.inl ⟨unreservedHead.mpr reserved, rfl⟩⟩

theorem listsObject {embedded : Bytes → Except Refusal Json} {bound depth n : Nat} {bs rest : Bytes}
    {members : List (String × Json)} (fits : bs.length ≤ bound)
    (ok : readMembers bound (listMember (readValue embedded bound depth)) n true [] bs = .ok (members, rest))
    (unreserved : Unreserved members) :
    readObject embedded bound (readValue embedded bound depth) bs = .ok (.object (arranged members), rest) := by
  obtain ⟨left, next⟩ := listHead ok
  have more := membersSteps (a := ⟨embedded, bound⟩) (m := bound + 1)
    (listMemberLocal (valueLocal depth)) fits (Nat.le_succ_of_le fits) ok
  rw [objectListed next (unreservedHead.mp unreserved)]
  dsimp only at more
  rw [more]
  rfl

/-! Values that are read. -/

def Formed (members : List (String × Json)) : Prop := Ascending members ∧ ∀ v, members ≠ [(embeddedName, v)]

theorem arrangedFormed {members : List (String × Json)} (unreserved : Unreserved members) :
    Formed (arranged members) := by
  refine ⟨arrangedAscending members, fun v alone => ?_⟩
  cases members with
  | nil => contradiction
  | cons e rest =>
    -- The first name is among the names of the arranged members.
    have named : ((e :: rest).reverse.lookup e.1).isSome := lastIsSome.mpr (by simp)
    rw [← lookupArranged, alone, lookupCons] at named
    split at named
    · rename_i same
      exact unreserved e rfl same
    · contradiction

theorem scalarThroughout {p : List (String × Json) → Prop} {bound : Nat} {b : UInt8} {bs rest : Bytes} {v : Json}
    (ok : readScalar bound b bs = .ok (v, rest)) : Throughout p v := by
  have word {cs : List Char} {w : Json} (ok : ((readWord cs bs).map fun r => (w, r)) = .ok (v, rest)) : v = w := by
    obtain ⟨_, _, same⟩ := okMap.mp ok
    cases same
    rfl
  have number {negative : Bool} {bs : Bytes}
      (ok : ((readNumber negative bs).map fun found => (Json.number found.1, found.2)) = .ok (v, rest)) :
      Throughout p v := by
    obtain ⟨⟨n, _⟩, _, same⟩ := okMap.mp ok
    cases same
    exact .number n
  unfold readScalar at ok
  split at ok
  · exact word ok ▸ .null
  split at ok
  · exact word ok ▸ .bool true
  split at ok
  · exact word ok ▸ .bool false
  split at ok
  · obtain ⟨⟨s, _⟩, _, same⟩ := okMap.mp ok
    cases same
    exact .text s
  split at ok
  · exact number ok
  split at ok
  · exact number ok
  · contradiction

theorem itemsKeep {α : Type} {P : α → Prop} {read : Bytes → Except Stop (α × Bytes)}
    (each : ∀ bs v rest, read bs = .ok (v, rest) → P v) {n : Nat} {done items : List α} {bs rest : Bytes}
    (start : ∀ v ∈ done, P v) (ok : readItems read n done bs = .ok (items, rest)) : ∀ v ∈ items, P v := by
  induction n generalizing done bs with
  | zero => contradiction
  | succ n ih =>
    rw [readItems, okBind] at ok
    obtain ⟨⟨more, bs'⟩, _, ok⟩ := ok
    cases more with
    | false =>
      cases ok
      exact fun v member => start v (List.mem_reverse.mp member)
    | true =>
      dsimp only at ok
      rw [if_pos rfl, okBind] at ok
      obtain ⟨⟨v, bs''⟩, item, ok⟩ := ok
      exact ih (List.forall_mem_cons.mpr ⟨each _ _ _ (withinOk.mp item), start⟩) ok

theorem listKeep {P : Json → Prop} {read : Bytes → Except Stop (Json × Bytes)}
    (each : ∀ bs v rest, read bs = .ok (v, rest) → P v) {limit n : Nat} {members : List (String × Json)}
    {bs rest : Bytes} (ok : readMembers limit (listMember read) n true [] bs = .ok (members, rest)) :
    ∀ e ∈ members, P e.2 := by
  refine membersKeep (P := fun members : List (String × Json) => ∀ e ∈ members, P e.2) ?_ (by simp) ok
  intro done name bs next rest before member
  rw [listMember, okBind] at member
  obtain ⟨⟨v, r⟩, value, member⟩ := member
  cases member
  rw [readMember, okBind] at value
  obtain ⟨bs', _, value⟩ := value
  intro e among
  rcases List.mem_append.mp among with old | new
  · exact before e old
  · rw [List.mem_singleton.mp new]
    exact each _ _ _ (withinOk.mp value)

theorem valueFormed {embedded : Bytes → Except Refusal Json}
    (inner : ∀ t v, embedded t = .ok v → Throughout Formed v) {bound depth : Nat} {bs rest : Bytes} {v : Json}
    (ok : readValue embedded bound depth bs = .ok (v, rest)) : Throughout Formed v := by
  induction depth generalizing bs rest v with
  | zero =>
    unfold readValue at ok
    split at ok
    · contradiction
    · split at ok
      · contradiction
      · exact scalarThroughout ok
  | succ depth ih =>
    unfold readValue at ok
    split at ok
    · contradiction
    · split at ok
      · dsimp only at ok
        split at ok
        · rw [okMap] at ok
          obtain ⟨⟨items, r⟩, list, same⟩ := ok
          cases same
          exact .array (itemsKeep (fun _ _ _ => ih) (by simp) list)
        · obtain ⟨n, members, list, made | ⟨s, _, found⟩⟩ := objectLists ok
          · obtain ⟨unreserved, rfl⟩ := made
            have each := listKeep (fun _ _ _ => ih) list
            refine .object (arrangedFormed unreserved) fun e member => ?_
            exact each e (lastMember (memberArranged.mp member))
          · exact inner _ _ found
      · exact scalarThroughout ok

theorem parseOk {source : Bytes} {v : Json} :
    parse source = .ok v ↔
      ∃ left, readValue (embeddedIn source) (source.length + 1) deepest source = .ok (v, left) ∧
        ∀ b ∈ left, isSpace b = true := by
  rw [parse, parseWithin, locatedOk, finishOk]
  rfl

theorem parseFormed {levels : Nat} {source : Bytes} {v : Json} (ok : parseWithin levels source = .ok v) :
    Throughout Formed v := by
  induction levels generalizing source v with
  | zero => contradiction
  | succ levels ih =>
    rw [parseWithin, locatedOk, finishOk] at ok
    obtain ⟨rest, read, _⟩ := ok
    exact valueFormed (fun _ _ => ih) read

end Storefront.Json
