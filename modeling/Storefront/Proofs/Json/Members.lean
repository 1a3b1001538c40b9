import Storefront.Proofs.Json.Spelling

/-! The ways to write an object, with white space around each of its parts. The loop over members
takes them one after the other and leaves what follows the closing brace. -/
namespace Storefront.Json
open Text.Utf8 (encode encodeAppend)

def Blank (w : List Char) : Prop := ∀ c ∈ w, c = ' ' ∨ c = '\n' ∨ c = '\t' ∨ c = '\r'

instance (w : List Char) : Decidable (Blank w) := List.decidableBAll _ w

section Grammar
variable {α : Type} (value : α → List Char → Prop)

inductive ColonSpelled (v : α) : List Char → Prop where
  | colon {b c w : List Char} (before : Blank b) (after : Blank c) (valued : value v w) :
      ColonSpelled v (b ++ ':' :: (c ++ w))

inductive MemberSpelled : String × α → List Char → Prop where
  | named {name : String} {v : α} {n w : List Char} (text : TextSpelled name n) (rest : ColonSpelled value v w) :
      MemberSpelled (name, v) (n ++ w)

inductive RestSpelled : List (String × α) → List Char → Prop where
  | close {b : List Char} (before : Blank b) : RestSpelled [] (b ++ ['\x7d'])
  | next {e : String × α} {members : List (String × α)} {b c m w : List Char} (before : Blank b) (after : Blank c)
      (member : MemberSpelled value e m) (rest : RestSpelled members w) :
      RestSpelled (e :: members) (b ++ ',' :: (c ++ (m ++ w)))

inductive ObjectSpelled : List (String × α) → List Char → Prop where
  | empty {b : List Char} (before : Blank b) : ObjectSpelled [] ('\x7b' :: (b ++ ['\x7d']))
  | filled {e : String × α} {members : List (String × α)} {b m w : List Char} (before : Blank b)
      (member : MemberSpelled value e m) (rest : RestSpelled value members w) :
      ObjectSpelled (e :: members) ('\x7b' :: (b ++ (m ++ w)))

end Grammar

theorem Blank.none : Blank [] := by simp [Blank]

theorem Blank.spaces {w : List Char} (blank : Blank w) : ∀ b ∈ encode w, isSpace b = true := by
  intro b member
  obtain ⟨c, inside, written⟩ := List.mem_flatMap.mp member
  rcases blank c inside with rfl | rfl | rfl | rfl <;> rw [List.mem_singleton.mp written] <;> rfl

theorem solidSkipped {b : UInt8} (solid : isSpace b = false) (bs : Bytes) : skipSpace (b :: bs) = b :: bs := by
  have blank : ∀ c ∈ ([] : Bytes), isSpace c = true := by simp
  exact spaceSkipped blank solid

theorem Blank.dropped {w : List Char} (blank : Blank w) (bs : Bytes) : skipSpace (encode w ++ bs) = skipSpace bs :=
  List.dropWhile_append_of_pos blank.spaces

theorem Blank.skipped {w : List Char} (blank : Blank w) {c : Char} (ascii : c.toNat < 0x80)
    (solid : isSpace (byte c) = false) (cs : List Char) (tail : Bytes) :
    skipSpace (encode (w ++ c :: cs) ++ tail) = byte c :: (encode cs ++ tail) := by
  rw [encodeAppend, encodeAscii ascii, List.append_assoc]
  exact spaceSkipped blank.spaces solid

theorem Blank.stops {w : List Char} (blank : Blank w) {c : Char} (ascii : c.toNat < 0x80)
    {cs : List Char} {tail : Bytes} (stops : Stops (byte c :: (encode cs ++ tail))) :
    Stops (encode (w ++ c :: cs) ++ tail) := by
  rw [encodeAppend, encodeAscii ascii, List.append_assoc]
  exact stopsAfterSpace blank.spaces stops

theorem TextSpelled.begins {s : String} {w : List Char} (spelled : TextSpelled s w) :
    ∃ inside, w = '"' :: inside ∧ ∀ bound tail, (encode w).length ≤ bound →
      readText bound (encode inside ++ tail) = .ok (s, tail) := by
  obtain ⟨inside⟩ := spelled
  refine ⟨_, rfl, fun bound tail enough => ?_⟩
  rw [encodeAscii (by decide), encodeAppend, List.length_cons, List.length_append] at enough
  rw [encodeAppend, List.append_assoc]
  exact inside.read tail (by omega)

theorem noName {b : List Char} (blank : Blank b) (bound : Nat) (first : Bool) (tail : Bytes) :
    nextName bound first (encode (b ++ ['\x7d']) ++ tail) = .ok (none, tail) := by
  rw [nextName, withinOk, blank.skipped (by decide) (by decide)]
  rfl

theorem firstName {name : String} {b n : List Char} (blank : Blank b) (text : TextSpelled name n) {bound : Nat}
    (tail : Bytes) (enough : (encode n).length ≤ bound) :
    nextName bound true (encode (b ++ n) ++ tail) = .ok (some name, tail) := by
  obtain ⟨inside, rfl, read⟩ := text.begins
  rw [nextName, withinOk, blank.skipped (by decide) (by decide)]
  dsimp only
  rw [if_neg (by decide), if_pos rfl, if_pos rfl, read bound tail enough]
  rfl

theorem laterName {name : String} {b c n : List Char} (before : Blank b) (after : Blank c)
    (text : TextSpelled name n) {bound : Nat} (tail : Bytes) (enough : (encode n).length ≤ bound) :
    nextName bound false (encode (b ++ ',' :: c ++ n) ++ tail) = .ok (some name, tail) := by
  obtain ⟨inside, rfl, read⟩ := text.begins
  rw [List.append_assoc, List.cons_append, nextName, withinOk, before.skipped (by decide) (by decide)]
  dsimp only
  rw [if_neg (by decide), if_neg (by decide), if_pos rfl, after.skipped (by decide) (by decide)]
  dsimp only
  rw [if_pos rfl, read bound tail enough]
  rfl

section Reading
variable {α β σ : Type} {value : α → List Char → Prop}

/-- A reader of values that takes each spelling of them, with white space before it. -/
def ReadsSpelled (value : α → List Char → Prop) (read : Nat → Bytes → Except Stop (β × Bytes)) (result : α → β) : Prop :=
  ∀ v b w bound tail, Blank b → value v w → (encode w).length ≤ bound → Stops tail →
    read bound (encode (b ++ w) ++ tail) = .ok (result v, tail)

theorem colonStep {v : α} {w : List Char} (spelled : ColonSpelled value v w) (read : Bytes → Except Stop (β × Bytes))
    (name : String) (tail : Bytes) :
    ∃ c u, Blank c ∧ value v u ∧ (encode u).length < (encode w).length ∧
      readMember read name (encode w ++ tail) = within (.member name) (read (encode (c ++ u) ++ tail)) := by
  obtain @⟨b, c, u, before, after, valued⟩ := spelled
  have colon : readColon (encode (b ++ ':' :: (c ++ u)) ++ tail) = .ok (encode (c ++ u) ++ tail) := by
    rw [readColon, before.skipped (by decide) (by decide)]
    rfl
  refine ⟨c, u, after, valued, ?_, ?_⟩
  · rw [encodeAppend, encodeAscii (by decide), encodeAppend]
    simp only [List.length_append, List.length_cons]
    omega
  · rw [readMember, colon]
    rfl

theorem colonRead {read : Nat → Bytes → Except Stop (β × Bytes)} {result : α → β}
    (law : ReadsSpelled value read result) {v : α} {w : List Char} (spelled : ColonSpelled value v w) (name : String)
    {bound : Nat} {tail : Bytes} (enough : (encode w).length ≤ bound) (stops : Stops tail) :
    readMember (read bound) name (encode w ++ tail) = .ok (result v, tail) := by
  obtain ⟨c, u, blank, valued, less, step⟩ := colonStep spelled (read bound) name tail
  rw [step]
  exact withinOk.mpr (law v c u bound tail blank valued (by omega) stops)

/-- What is to be known of the reader of a member: it takes each spelling of a value, if the
member fits what has been read so far. -/
def TakesSpelled (value : α → List Char → Prop)
    (take : Nat → σ → String → Bytes → Except Stop (σ × Bytes)) (fits : σ → String → Prop)
    (next : σ → String × α → σ) : Prop :=
  ∀ bound state name v w tail, fits state name → ColonSpelled value v w → (encode w).length ≤ bound → Stops tail →
    take bound state name (encode w ++ tail) = .ok (next state (name, v), tail)

variable {take : Nat → σ → String → Bytes → Except Stop (σ × Bytes)} {fits : σ → String → Prop}
  {next : σ → String × α → σ}

def AllFit (fits : σ → String → Prop) (next : σ → String × α → σ) : σ → List (String × α) → Prop
  | _, [] => True
  | state, e :: members => fits state e.1 ∧ AllFit fits next (next state e) members

theorem allFit (always : ∀ state name, fits state name) (members : List (String × α)) (state : σ) :
    AllFit fits next state members := by
  induction members generalizing state with
  | nil => trivial
  | cons e rest ih => exact ⟨always state e.1, ih _⟩

theorem RestSpelled.stops {members : List (String × α)} {w : List Char} (spelled : RestSpelled value members w)
    (tail : Bytes) : Stops (encode w ++ tail) := by
  cases spelled with
  | close before => exact before.stops (by decide) ⟨by decide, by decide, by decide⟩
  | next before => exact before.stops (by decide) ⟨by decide, by decide, by decide⟩

theorem MemberSpelled.begins {e : String × α} {m : List Char} (spelled : MemberSpelled value e m) :
    ∃ inside, m = '"' :: inside := by
  obtain ⟨⟨_⟩, _⟩ := spelled
  exact ⟨_, rfl⟩

theorem RestSpelled.count {members : List (String × α)} {w : List Char} (spelled : RestSpelled value members w) :
    members.length < (encode w).length := by
  induction spelled with
  | close before =>
    rw [encodeAppend, encodeAscii (by decide), List.length_append, List.length_cons, List.length_nil]
    omega
  | next before after member rest ih =>
    rw [encodeAppend, encodeAscii (by decide), encodeAppend, encodeAppend]
    simp only [List.length_append, List.length_cons]
    omega

theorem ObjectSpelled.begins {members : List (String × α)} {w : List Char} (spelled : ObjectSpelled value members w) :
    ∃ inside, w = '\x7b' :: inside := by
  cases spelled with
  | empty => exact ⟨_, rfl⟩
  | filled => exact ⟨_, rfl⟩

theorem ObjectSpelled.count {members : List (String × α)} {w : List Char} (spelled : ObjectSpelled value members w) :
    members.length < (encode w).length := by
  cases spelled with
  | empty before =>
    rw [encodeAscii (by decide), List.length_cons, List.length_nil]
    omega
  | filled before member rest =>
    obtain ⟨inside, rfl⟩ := member.begins
    have others := rest.count
    rw [encodeAscii (by decide), encodeAppend, List.cons_append, encodeAscii (by decide), encodeAppend]
    simp only [List.length_append, List.length_cons]
    omega

theorem MemberSpelled.valued {e : String × α} {m : List Char} (spelled : MemberSpelled value e m) :
    ∃ w, value e.2 w := by
  obtain ⟨_, ⟨_, _, valued⟩⟩ := spelled
  exact ⟨_, valued⟩

theorem RestSpelled.each {members : List (String × α)} {w : List Char} (spelled : RestSpelled value members w) :
    ∀ e ∈ members, ∃ m, value e.2 m := by
  induction spelled with
  | close before => simp
  | next before after member rest ih => exact List.forall_mem_cons.mpr ⟨member.valued, ih⟩

theorem ObjectSpelled.each {members : List (String × α)} {w : List Char} (spelled : ObjectSpelled value members w) :
    ∀ e ∈ members, ∃ m, value e.2 m := by
  cases spelled with
  | empty before => simp
  | filled before member rest => exact List.forall_mem_cons.mpr ⟨member.valued, rest.each⟩

theorem memberStep {e : String × α} {members : List (String × α)} {front m w : List Char} {first : Bool} {bound : Nat}
    (leads : ∀ n tail, TextSpelled e.1 n → (encode n).length ≤ bound →
      nextName bound first (encode (front ++ n) ++ tail) = .ok (some e.1, tail))
    (member : MemberSpelled value e m) (rest : RestSpelled value members w)
    (enough : (encode (front ++ (m ++ w))).length ≤ bound) (take : σ → String → Bytes → Except Stop (σ × Bytes)) (n : Nat)
    (state : σ) (tail : Bytes) :
    ∃ u, ColonSpelled value e.2 u ∧ (encode u).length < bound ∧ (encode w).length ≤ bound ∧
      Stops (encode w ++ tail) ∧
      readMembers bound take (n + 1) first state (encode (front ++ (m ++ w)) ++ tail) =
        (take state e.1 (encode u ++ (encode w ++ tail))).bind fun (state, left) =>
          readMembers bound take n false state left := by
  obtain @⟨name, v, text, u, named, valued⟩ := member
  have quoted : 0 < (encode text).length := by
    obtain ⟨inside, rfl, _⟩ := named.begins
    rw [encodeAscii (by decide)]
    exact Nat.succ_pos _
  simp only [encodeAppend, List.length_append] at enough
  have split : encode (front ++ (text ++ u ++ w)) ++ tail =
      encode (front ++ text) ++ (encode u ++ (encode w ++ tail)) := by
    simp [encode]
  refine ⟨u, valued, by omega, by omega, rest.stops tail, ?_⟩
  rw [readMembers, split, leads text _ named (by omega)]
  rfl

theorem commaFront (b c m w : List Char) : b ++ ',' :: (c ++ (m ++ w)) = b ++ ',' :: c ++ (m ++ w) := by simp

theorem restRead (law : TakesSpelled value take fits next) {members : List (String × α)} {w : List Char}
    (spelled : RestSpelled value members w) {bound n : Nat} (enough : (encode w).length ≤ bound)
    (steps : members.length < n) {state : σ} (fit : AllFit fits next state members) (tail : Bytes) :
    readMembers bound (take bound) n false state (encode w ++ tail) = .ok (members.foldl next state, tail) := by
  -- Along the members. A value ends where the rest after it begins, as no number goes on with that.
  induction spelled generalizing n state with
  | close before =>
    obtain ⟨k, rfl⟩ := Nat.exists_eq_succ_of_ne_zero (Nat.ne_of_gt steps)
    rw [readMembers, noName before]
    rfl
  | @next e members b c m w before after member rest ih =>
    obtain ⟨k, rfl⟩ := Nat.exists_eq_succ_of_ne_zero (Nat.ne_of_gt (Nat.zero_lt_of_lt steps))
    obtain ⟨here, later⟩ := fit
    rw [commaFront] at enough ⊢
    obtain ⟨u, valued, inside, others, stops, step⟩ :=
      memberStep (fun n tail text => laterName before after text tail) member rest enough (take bound) k state tail
    rw [step, law bound state e.1 e.2 u _ here valued (Nat.le_of_lt inside) stops]
    exact ih others (Nat.lt_of_succ_lt_succ steps) later

theorem objectRead (law : TakesSpelled value take fits next) {members : List (String × α)} {w : List Char}
    (spelled : ObjectSpelled value members w) {bound n : Nat} (enough : (encode w).length ≤ bound)
    (steps : members.length < n) {state : σ} (fit : AllFit fits next state members) (tail : Bytes) :
    ∃ inside, w = '\x7b' :: inside ∧
      readMembers bound (take bound) n true state (encode inside ++ tail) = .ok (members.foldl next state, tail) := by
  obtain ⟨k, rfl⟩ := Nat.exists_eq_succ_of_ne_zero (Nat.ne_of_gt (Nat.zero_lt_of_lt steps))
  cases spelled with
  | empty before =>
    refine ⟨_, rfl, ?_⟩
    rw [readMembers, noName before]
    rfl
  | @filled e members b m w before member rest =>
    refine ⟨_, rfl, ?_⟩
    obtain ⟨here, later⟩ := fit
    rw [encodeAscii (by decide), List.length_cons] at enough
    obtain ⟨u, valued, inside, others, stops, step⟩ :=
      memberStep (fun n tail text => firstName before text tail) member rest (Nat.le_of_succ_le enough) (take bound) k
        state tail
    rw [step, law bound state e.1 e.2 u _ here valued (Nat.le_of_lt inside) stops]
    exact restRead law rest others (Nat.lt_of_succ_lt_succ steps) later tail

/-! Values that a reader may refuse: what it makes of the members is known by what it makes of each. -/

/-- The reader of a member makes of a spelled value what `judge` says, or refuses it, and takes no
more than the spelling. -/
def JudgesSpelled (value : α → List Char → Prop) (take : Nat → σ → String → Bytes → Except Stop (σ × Bytes))
    (judge : σ → String × α → Option σ) : Prop :=
  ∀ bound state e w tail, ColonSpelled value e.2 w → (encode w).length < bound → Stops tail →
    (take bound state e.1 (encode w ++ tail)).toOption = (judge state e).map fun state => (state, tail)

def JudgesValue (value : α → List Char → Prop) (read : Nat → Bytes → Except Stop (β × Bytes)) (result : α → Option β) :
    Prop :=
  ∀ v b w bound tail, Blank b → value v w → (encode w).length < bound → Stops tail →
    (read bound (encode (b ++ w) ++ tail)).toOption = (result v).map fun r => (r, tail)

theorem colonJudged {read : Nat → Bytes → Except Stop (β × Bytes)} {result : α → Option β}
    (law : JudgesValue value read result) {v : α} {w : List Char} (spelled : ColonSpelled value v w) (name : String)
    {bound : Nat} {tail : Bytes} (enough : (encode w).length < bound) (stops : Stops tail) :
    (readMember (read bound) name (encode w ++ tail)).toOption = (result v).map fun r => (r, tail) := by
  obtain ⟨c, u, blank, valued, less, step⟩ := colonStep spelled (read bound) name tail
  rw [step, ← law v c u bound tail blank valued (by omega) stops]
  cases read bound (encode (c ++ u) ++ tail) <;> rfl

variable {judge : σ → String × α → Option σ}

theorem restJudged (law : JudgesSpelled value take judge) {members : List (String × α)} {w : List Char}
    (spelled : RestSpelled value members w) {bound n : Nat} (enough : (encode w).length ≤ bound)
    (steps : members.length < n) (state : σ) (tail : Bytes) :
    (readMembers bound (take bound) n false state (encode w ++ tail)).toOption =
      (members.foldlM judge state).map fun state => (state, tail) := by
  -- Along the members, as they are read.
  induction spelled generalizing n state with
  | close before =>
    obtain ⟨k, rfl⟩ := Nat.exists_eq_succ_of_ne_zero (Nat.ne_of_gt steps)
    rw [readMembers, noName before]
    rfl
  | @next e members b c m w before after member rest ih =>
    obtain ⟨k, rfl⟩ := Nat.exists_eq_succ_of_ne_zero (Nat.ne_of_gt (Nat.zero_lt_of_lt steps))
    rw [commaFront] at enough ⊢
    obtain ⟨u, valued, inside, others, stops, step⟩ :=
      memberStep (fun n tail text => laterName before after text tail) member rest enough (take bound) k state tail
    rw [step, bindToOption, law bound state e u _ valued inside stops, List.foldlM_cons]
    cases judge state e with
    | none => rfl
    | some found => exact ih others (Nat.lt_of_succ_lt_succ steps) found

theorem objectJudged (law : JudgesSpelled value take judge) {members : List (String × α)} {w : List Char}
    (spelled : ObjectSpelled value members w) {bound n : Nat} (enough : (encode w).length ≤ bound)
    (steps : members.length < n) (state : σ) (tail : Bytes) :
    ∃ inside, w = '\x7b' :: inside ∧ (readMembers bound (take bound) n true state (encode inside ++ tail)).toOption =
      (members.foldlM judge state).map fun state => (state, tail) := by
  obtain ⟨k, rfl⟩ := Nat.exists_eq_succ_of_ne_zero (Nat.ne_of_gt (Nat.zero_lt_of_lt steps))
  cases spelled with
  | empty before =>
    refine ⟨_, rfl, ?_⟩
    rw [readMembers, noName before]
    rfl
  | @filled e members b m w before member rest =>
    refine ⟨_, rfl, ?_⟩
    rw [encodeAscii (by decide), List.length_cons] at enough
    obtain ⟨u, valued, inside, others, stops, step⟩ :=
      memberStep (fun n tail text => firstName before text tail) member rest (Nat.le_of_succ_le enough) (take bound) k
        state tail
    rw [step, bindToOption, law bound state e u _ valued inside stops, List.foldlM_cons]
    cases judge state e with
    | none => rfl
    | some found => exact restJudged law rest others (Nat.lt_of_succ_lt_succ steps) found tail

end Reading

end Storefront.Json
