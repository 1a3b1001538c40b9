import Storefront.Proofs.Json.Integer
import Storefront.Proofs.Json.Items
import Storefront.Proofs.Json.Listed

/-! Values nested in one another, as they are written and as they are read. An object that begins with
the reserved name is read as the value of the text it holds, and refused if it holds anything else. -/
namespace Storefront.Json
open Text.Utf8 (encode encodeAppend)

/-- The ways to write a value that is no array or object; of the numbers only integers of 64 bits, in
their numerals. -/
inductive ScalarSpelled : Json → List Char → Prop where
  | null : ScalarSpelled .null ['n', 'u', 'l', 'l']
  | yes : ScalarSpelled (.bool true) ['t', 'r', 'u', 'e']
  | no : ScalarSpelled (.bool false) ['f', 'a', 'l', 's', 'e']
  | integer {n : Int} (fits : Fits n) : ScalarSpelled (.number (.integer n)) (numeral n)
  | text {s : String} {w : List Char} (spelled : TextSpelled s w) : ScalarSpelled (.text s) w

inductive LayerSpelled (inner : Json → List Char → Prop) : Json → List Char → Prop where
  | scalar {v : Json} {w : List Char} (spelled : ScalarSpelled v w) : LayerSpelled inner v w
  | array {items : List Json} {w : List Char} (spelled : ArraySpelled inner items w) :
      LayerSpelled inner (.array items) w
  | object {members : List (String × Json)} {w : List Char} (spelled : ObjectSpelled inner members w) :
      LayerSpelled inner (.object members) w

/-- The ways to write a value with at most so many levels of arrays and objects. The members of its objects
are those that are written, in their order and with each name as often as it is given. -/
def ValueSpelled : Nat → Json → List Char → Prop
  | 0 => ScalarSpelled
  | levels + 1 => LayerSpelled (ValueSpelled levels)

inductive Opening : Json → List Char → Prop where
  | text {s : String} {w : List Char} (spelled : TextSpelled s w) : Opening (.text s) w
  | other {v : Json} {c : Char} {inside : List Char} (kind : ∀ s, v ≠ .text s) (ascii : c.toNat < 0x80)
      (solid : isSpace (byte c) = false) (quote : byte c ≠ byte '"') (close : byte c ≠ byte ']') :
      Opening v (c :: inside)

theorem digitOpening {v : Json} (kind : ∀ s, v ≠ .text s) {c : Char} (digit : c.isDigit = true) (inside : List Char) :
    Opening v (c :: inside) := by
  obtain ⟨low, high⟩ := Char.isDigit_iff_toNat.mp digit
  change 48 ≤ c.toNat at low
  change c.toNat ≤ 57 at high
  rw [← Char.ofNat_toNat c]
  generalize c.toNat = n at low high
  interval_cases n <;> exact .other kind (by decide) (by decide) (by decide) (by decide)

theorem scalarOpening {v : Json} {w : List Char} (spelled : ScalarSpelled v w) : Opening v w := by
  cases spelled with
  | null => exact .other (by simp) (by decide) (by decide) (by decide) (by decide)
  | yes => exact .other (by simp) (by decide) (by decide) (by decide) (by decide)
  | no => exact .other (by simp) (by decide) (by decide) (by decide) (by decide)
  | @integer n fits =>
    obtain ⟨c, cs, written⟩ := List.exists_cons_of_ne_nil (Nat.toDigits_ne_nil (n := n.natAbs) (b := 10))
    rw [← numeralWritten, writeInteger, written]
    split
    · exact .other (by simp) (by decide) (by decide) (by decide) (by decide)
    · exact digitOpening (by simp) (Text.digitsOnly (m := n.natAbs) (by rw [written]; exact List.mem_cons_self)) cs
  | text spelled => exact .text spelled

theorem valueOpening {levels : Nat} {v : Json} {w : List Char} (spelled : ValueSpelled levels v w) : Opening v w := by
  cases levels with
  | zero => exact scalarOpening spelled
  | succ levels =>
    cases spelled with
    | scalar spelled => exact scalarOpening spelled
    | array spelled =>
      cases spelled <;> exact .other (by simp) (by decide) (by decide) (by decide) (by decide)
    | object spelled =>
      obtain ⟨inside, rfl⟩ := spelled.begins
      exact .other (by simp) (by decide) (by decide) (by decide) (by decide)

theorem Opening.begun {v : Json} {w : List Char} (opening : Opening v w) : Begun w := by
  cases opening with
  | text spelled =>
    obtain ⟨inside, rfl, _⟩ := spelled.begins
    exact ⟨_, _, rfl, by decide, by decide, by decide⟩
  | other kind ascii solid quote close => exact ⟨_, _, rfl, ascii, solid, close⟩

/-! Reading. -/

theorem scalarRead {v : Json} {w : List Char} (spelled : ScalarSpelled v w) (embedded : Bytes → Except Refusal Json)
    (depth : Nat) {b : List Char} (blank : Blank b) {bound : Nat} (enough : (encode w).length ≤ bound) {tail : Bytes}
    (stops : Stops tail) : readValue embedded bound depth (encode (b ++ w) ++ tail) = .ok (v, tail) := by
  rw [encodeAppend, List.append_assoc, blankValue blank]
  cases spelled with
  | null => exact nullReadsBack depth embedded bound tail enough stops
  | yes =>
    have text : encode ['t', 'r', 'u', 'e'] ++ tail = byte 't' :: (['r', 'u', 'e'].map byte ++ tail) := rfl
    rw [text, readValue, solidSkipped (by decide)]
    dsimp only
    rw [if_neg (by decide), readScalar, if_neg (by decide), if_pos rfl, wordTaken.mpr rfl]
    rfl
  | no =>
    have text : encode ['f', 'a', 'l', 's', 'e'] ++ tail = byte 'f' :: (['a', 'l', 's', 'e'].map byte ++ tail) := rfl
    rw [text, readValue, solidSkipped (by decide)]
    dsimp only
    rw [if_neg (by decide), readScalar, if_neg (by decide), if_neg (by decide), if_pos rfl, wordTaken.mpr rfl]
    rfl
  | @integer n fits =>
    have judged := numeralJudged n embedded bound depth Blank.none stops
    rw [integerFits fits] at judged
    exact toOptionOk.mp judged
  | text spelled => exact textValue spelled embedded depth tail enough

def standIn? : List (String × Json) → Option Json
  | [(_, .text s)] => (parse (bytesOf s)).toOption
  | _ => none

/-- What a value is read as when so many levels are admitted, unless it is refused. -/
def readAs? : Nat → Json → Option Json
  | 0, .array _ => none
  | 0, .object _ => none
  | depth + 1, .array items => (items.mapM (readAs? depth)).map .array
  | depth + 1, .object members =>
    if Unreserved members then
      (members.mapM fun e => (readAs? depth e.2).map fun v => (e.1, v)).map fun read => .object (arranged read)
    else standIn? members
  | _, v => some v

theorem scalarReadAs {v : Json} {w : List Char} (spelled : ScalarSpelled v w) (depth : Nat) :
    readAs? depth v = some v := by
  cases depth <;> cases spelled <;> rfl

section Object
variable {α : Type} {value : α → List Char → Prop} {read : Nat → Bytes → Except Stop (Json × Bytes)}
  {result : α → Option Json}

theorem listJudged (law : JudgesValue value read result) :
    JudgesSpelled value (fun bound => listMember (read bound))
      fun done e => (result e.2).map fun v => done ++ [(e.1, v)] := by
  intro bound done e w tail spelled enough stops
  have judged := colonJudged law spelled e.1 enough stops
  dsimp only
  rw [listMember]
  change (Except.bind _ _).toOption = _
  rw [bindToOption, judged]
  cases result e.2 <;> rfl

theorem listAll (members : List (String × α)) (done : List (String × Json)) :
    members.foldlM (fun done e => (result e.2).map fun v => done ++ [(e.1, v)]) done =
      (members.mapM fun e => (result e.2).map fun v => (e.1, v)).map fun found => done ++ found := by
  induction members generalizing done with
  | nil => simp
  | cons e rest ih =>
    rw [List.foldlM_cons, List.mapM_cons]
    cases result e.2 with
    | none => rfl
    | some v =>
      change rest.foldlM _ (done ++ [(e.1, v)]) = _
      rw [ih]
      cases rest.mapM fun e => (result e.2).map fun v => (e.1, v) <;> simp

end Object

theorem textSpelledRead {s : String} {b w : List Char} (blank : Blank b) (spelled : TextSpelled s w) (wanted : String)
    {bound : Nat} (enough : (encode w).length ≤ bound) (tail : Bytes) :
    readTextValue bound wanted (encode (b ++ w) ++ tail) = .ok (s, tail) := by
  obtain ⟨inside, rfl, read⟩ := spelled.begins
  rw [readTextValue, blank.skipped (by decide) (by decide)]
  dsimp only
  rw [if_pos rfl, read bound tail enough]

theorem TextSpelled.size {s : String} {w : List Char} (spelled : TextSpelled s w) :
    (bytesOf s).length < (encode w).length := by
  obtain ⟨used, same, shorter, _⟩ := textValueTaken (textSpelledRead Blank.none spelled "" (Nat.le_refl _) [])
  rw [List.append_nil, List.append_nil, List.nil_append] at same
  rw [same]
  exact shorter

theorem textRefused {v : Json} {b w : List Char} (blank : Blank b) (opening : Opening v w) (kind : ∀ s, v ≠ .text s)
    (bound : Nat) (wanted : String) (tail : Bytes) :
    (readTextValue bound wanted (encode (b ++ w) ++ tail)).toOption = none := by
  cases opening with
  | text spelled => exact absurd rfl (kind _)
  | other kind ascii solid quote close =>
    rw [readTextValue, blank.skipped ascii solid]
    dsimp only
    rw [if_neg quote]
    cases refused : refuseShape bound wanted _ _ with
    | error stop => rfl
    | ok found => exact absurd refused shapeRefused

theorem closeJudged {α : Type} {value : α → List Char → Prop} {rest : List (String × α)} {w : List Char}
    (spelled : RestSpelled value rest w) (tail : Bytes) :
    (closeObject (encode w ++ tail)).toOption = if rest = [] then some tail else none := by
  cases spelled with
  | close before =>
    rw [closeObject, before.skipped (by decide) (by decide)]
    rfl
  | next before after member others =>
    rw [closeObject, before.skipped (by decide) (by decide)]
    rfl

theorem levelsSame {m n : Nat} {t : Bytes} (first : t.length < m) (second : t.length < n) :
    (parseWithin m t).toOption = (parseWithin n t).toOption := by
  apply Option.ext
  intro v
  rw [toOptionOk, toOptionOk]
  exact ⟨fun ok => levelsEnough ok second, fun ok => levelsEnough ok first⟩

theorem embeddedJudged {levels : Nat} {name : String} {v : Json} {rest : List (String × Json)} {u w : List Char}
    (valued : ColonSpelled (ValueSpelled levels) v u) (others : RestSpelled (ValueSpelled levels) rest w) {bound : Nat}
    (enough : (encode u).length + 1 < bound) (tail : Bytes) :
    (readEmbedded (parseWithin (bound - 1)) bound (encode u ++ (encode w ++ tail))).toOption =
      (standIn? ((name, v) :: rest)).map fun found => (found, tail) := by
  obtain ⟨c, x, blank, spelled, less, step⟩ :=
    colonStep valued (readTextValue bound "raw value") embeddedName (encode w ++ tail)
  have closed := closeJudged others tail
  by_cases kind : ∃ s, v = .text s
  · obtain ⟨s, rfl⟩ := kind
    cases valueOpening spelled with
    | other kind => exact absurd rfl (kind s)
    | text spelled =>
      have read := textSpelledRead blank spelled "raw value" (show (encode x).length ≤ bound by omega)
        (encode w ++ tail)
      have size := spelled.size
      have levels : (parseWithin (bound - 1) (bytesOf s)).toOption = (parse (bytesOf s)).toOption :=
        levelsSame (by omega) (Nat.lt_succ_self _)
      have stand : standIn? ((name, .text s) :: rest) =
          if rest = [] then (parseWithin (bound - 1) (bytesOf s)).toOption else none := by
        rw [levels]
        cases rest <;> rfl
      rw [readEmbedded, step, read, stand]
      simp only [within, bind, Except.bind]
      cases parseWithin (bound - 1) (bytesOf s) with
      | error refusal => cases rest <;> rfl
      | ok value =>
        dsimp only
        rw [mapToOption, closed]
        split <;> rfl
  · have refused := textRefused blank (valueOpening spelled) (fun s same => kind ⟨s, same⟩) bound "raw value"
      (encode w ++ tail)
    have stand : standIn? ((name, v) :: rest) = none := by
      cases v with
      | text s => exact absurd ⟨s, rfl⟩ kind
      | null => rfl
      | bool b => rfl
      | number n => rfl
      | array items => rfl
      | object members => rfl
    rw [readEmbedded, step, stand]
    cases found : readTextValue bound "raw value" (encode (c ++ x) ++ (encode w ++ tail)) with
    | error stop => rfl
    | ok read =>
      rw [found] at refused
      contradiction

theorem objectValueJudged {levels depth : Nat}
    (law : JudgesValue (ValueSpelled levels) (fun bound => readValue (parseWithin (bound - 1)) bound depth)
      (readAs? depth))
    {members : List (String × Json)} {w : List Char} (spelled : ObjectSpelled (ValueSpelled levels) members w)
    {bound : Nat} (enough : (encode w).length < bound) (tail : Bytes) :
    (readValue (parseWithin (bound - 1)) bound (depth + 1) (encode w ++ tail)).toOption =
      (readAs? (depth + 1) (.object members)).map fun v => (v, tail) := by
  have steps := spelled.count
  obtain ⟨inside, same, judged⟩ := objectJudged (listJudged law) spelled (Nat.le_of_lt enough)
    (show members.length < bound + 1 by omega) [] tail
  have opened : readValue (parseWithin (bound - 1)) bound (depth + 1) (encode w ++ tail) =
      readObject (parseWithin (bound - 1)) bound (readValue (parseWithin (bound - 1)) bound depth)
        (encode inside ++ tail) := by
    rw [same, encodeAscii (by decide), List.cons_append, readValue, solidSkipped (by decide)]
    rfl
  rw [opened, readAs?]
  cases spelled with
  | empty before =>
    cases same
    rw [readObject, noName before]
    rfl
  | @filled e rest b m w before member others =>
    cases same
    obtain @⟨name, v, text, u, named, valued⟩ := member
    have split : encode (b ++ (text ++ u ++ w)) ++ tail = encode (b ++ text) ++ (encode u ++ (encode w ++ tail)) := by
      simp [encode]
    rw [encodeAscii (by decide), encodeAppend b, encodeAppend (text ++ u), encodeAppend text] at enough
    simp only [List.length_cons, List.length_append] at enough
    have next := firstName before named (encode u ++ (encode w ++ tail)) (show (encode text).length ≤ bound by omega)
    rw [← split] at next
    by_cases reserved : name = embeddedName
    · have first : ¬ Unreserved ((name, v) :: rest) := fun unreserved => unreserved _ rfl reserved
      rw [if_neg first, ← embeddedJudged valued others (show (encode u).length + 1 < bound by omega) tail,
        readObject, next]
      simp only [bind, Except.bind, if_pos reserved]
    · have first : Unreserved ((name, v) :: rest) := by simpa [Unreserved] using reserved
      rw [if_pos first, objectListed next (by simpa using reserved), mapToOption, judged, listAll]
      cases ((name, v) :: rest).mapM fun e => (readAs? depth e.2).map fun v => (e.1, v) <;> rfl

theorem deepRefused {c : Char} (nested : c = '[' ∨ c = '\x7b') (embedded : Bytes → Except Refusal Json) (bound : Nat)
    (inside : List Char) (tail : Bytes) :
    (readValue embedded bound 0 (encode (c :: inside) ++ tail)).toOption = none := by
  rcases nested with rfl | rfl
  · rw [encodeAscii (by decide), List.cons_append, readValue, solidSkipped (by decide)]
    rfl
  · rw [encodeAscii (by decide), List.cons_append, readValue, solidSkipped (by decide)]
    rfl

theorem valueJudged (levels depth : Nat) :
    JudgesValue (ValueSpelled levels) (fun bound => readValue (parseWithin (bound - 1)) bound depth)
      (readAs? depth) := by
  -- Along the levels of the value. Each is one of those that the reader admits, or it is refused.
  induction levels generalizing depth with
  | zero =>
    intro v b w bound tail blank spelled enough stops
    dsimp only
    rw [scalarRead spelled _ depth blank (Nat.le_of_lt enough) stops, scalarReadAs spelled]
    rfl
  | succ levels ih =>
    intro v b w bound tail blank spelled enough stops
    dsimp only
    cases spelled with
    | scalar spelled =>
      rw [scalarRead spelled _ depth blank (Nat.le_of_lt enough) stops, scalarReadAs spelled]
      rfl
    | @array items w spelled =>
      rw [encodeAppend, List.append_assoc, blankValue blank]
      cases depth with
      | zero => cases spelled <;> exact deepRefused (Or.inl rfl) _ _ _ _
      | succ depth =>
        have steps := spelled.count
        obtain ⟨inside, rfl, judged⟩ := arrayJudged (ih depth) (fun v w spelled => (valueOpening spelled).begun) spelled
          (Nat.le_of_lt enough) (show items.length < bound by omega) tail
        rw [encodeAscii (by decide), List.cons_append, readValue, solidSkipped (by decide)]
        dsimp only
        rw [if_pos (Or.inl rfl), if_pos rfl, mapToOption, judged, readAs?]
        cases items.mapM (readAs? depth) <;> rfl
    | @object members w spelled =>
      rw [encodeAppend, List.append_assoc, blankValue blank]
      cases depth with
      | zero =>
        obtain ⟨inside, rfl⟩ := spelled.begins
        exact deepRefused (Or.inr rfl) _ _ _ _
      | succ depth => exact objectValueJudged (ih depth) spelled enough tail

end Storefront.Json
