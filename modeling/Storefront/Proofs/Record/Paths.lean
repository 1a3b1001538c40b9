import Storefront.Proofs.Json.Rewritten
import Storefront.Proofs.Record.Spelling
import Storefront.Proofs.Text.Order

/-! The two ways from a text to a record. The record of the text itself and that of the value of the
text are made from the same members, and they are the same but for the order of their keys, as long as
no object stands for a text that is embedded in it. -/
namespace Storefront.Record
open Json (Throughout Unreserved Bare Formed arranged embeddedName)
open Text.Utf8 (encode)

def readListed (embedded : Bytes → Except Json.Refusal Json) (bound : Nat) (bs : Bytes) :
    Except Json.Stop (List (String × Json) × Bytes) :=
  match Json.skipSpace bs with
  | [] => .error (Json.stopHere .endInValue [])
  | b :: rest =>
    if b = Json.byte '\x7b' then
      Json.readMembers bound (Json.listMember (Json.readValue embedded bound (Json.deepest - 1))) bound true [] rest
    else Json.refuseShape bound wanted b rest

/-- The members of the object that a text is and nothing else, in their order and with each of their values. -/
def listed (source : Bytes) : Except Json.Refusal (List (String × Json)) :=
  Json.located source (Json.finish (readListed (Json.embeddedIn source) (source.length + 1) source))

theorem takeListed (embedded : Bytes → Except Json.Refusal Json) (bound : Nat) (members : List (String × Json))
    (name : String) (bs : Bytes) :
    take embedded bound (ofMembers id members) name bs =
      (Json.listMember (Json.readValue embedded bound (Json.deepest - 1)) members name bs).map
        (Prod.map (ofMembers id) id) := by
  rw [take, Json.listMember]
  cases Json.readMember (Json.readValue embedded bound (Json.deepest - 1)) name bs with
  | error stop => rfl
  | ok found =>
    obtain ⟨v, rest⟩ := found
    have last : ofMembers id (members ++ [(name, v)]) = (ofMembers id members).insert name (normalize v) := by
      rw [ofMembers, List.map_append, List.map_singleton, Ordered.ofListSnoc]
      rfl
    simp only [bind, Except.bind, Except.map, Prod.map, last, id]

theorem readFromList (embedded : Bytes → Except Json.Refusal Json) (bound : Nat) (bs : Bytes) :
    read embedded bound bs = (readListed embedded bound bs).map (Prod.map (ofMembers id) id) := by
  rw [read, readListed]
  cases Json.skipSpace bs with
  | nil => rfl
  | cons b rest =>
    dsimp only
    split
    · exact Json.membersMapped (ofMembers id) (takeListed embedded bound) bound bound true [] rest
    · rw [Json.refuseShape, Json.refuseShape]
      cases Json.readShape bound b rest <;> rfl

theorem listedOk {source : Bytes} {members : List (String × Json)} :
    listed source = .ok members ↔
      ∃ rest, readListed (Json.embeddedIn source) (source.length + 1) source = .ok (members, rest) ∧
        ∀ b ∈ rest, Json.isSpace b = true := by
  rw [listed, Json.locatedOk, Json.finishOk]

theorem parseListed {source : Bytes} {r : Record} :
    parse source = .ok r ↔ ∃ members, listed source = .ok members ∧ ofMembers id members = r := by
  simp only [parseOk, listedOk, readFromList, Json.okMap]
  constructor
  · intro ⟨rest, ⟨⟨members, left⟩, ok, same⟩, blank⟩
    cases same
    exact ⟨members, ⟨left, ok, blank⟩, rfl⟩
  · intro ⟨members, ⟨rest, ok, blank⟩, same⟩
    exact ⟨rest, ⟨(members, rest), ok, by rw [← same]; rfl⟩, blank⟩

/-! The value of a text that begins as an object. -/

def Opened (source rest : Bytes) : Prop := Json.skipSpace source = Json.byte '\x7b' :: rest

theorem openedShorter {source rest : Bytes} (opened : Opened source rest) : rest.length < source.length := by
  obtain ⟨blank, rfl, _⟩ := Json.spaceTaken opened
  rw [List.length_append, List.length_cons]
  omega

theorem valueOpened {source rest : Bytes} (opened : Opened source rest) (embedded : Bytes → Except Json.Refusal Json)
    (bound depth : Nat) :
    Json.readValue embedded bound (depth + 1) source =
      Json.readObject embedded bound (Json.readValue embedded bound depth) rest := by
  rw [Json.readValue, opened]
  rfl

theorem listedOpened {source : Bytes} {members : List (String × Json)} (ok : listed source = .ok members) :
    ∃ rest, Opened source rest := by
  obtain ⟨left, read, _⟩ := listedOk.mp ok
  unfold readListed at read
  split at read
  · contradiction
  · rename_i b rest found
    split at read
    · rename_i brace
      exact ⟨rest, by rw [Opened, found, brace]⟩
    · exact absurd read Json.shapeRefused

theorem objectOpened {embedded : Bytes → Except Json.Refusal Json} {bound depth : Nat} {source left : Bytes}
    {members : List (String × Json)} (ok : Json.readValue embedded bound depth source = .ok (.object members, left)) :
    ∃ rest, Opened source rest := by
  have flat {b : UInt8} {bs : Bytes} (ok : Json.readScalar bound b bs = .ok (.object members, left)) : False := by
    cases Json.scalarThroughout (p := fun _ => False) ok with
    | object here _ => exact here
  unfold Json.readValue at ok
  split at ok
  · contradiction
  · rename_i b rest found
    split at ok
    · rename_i nested
      split at ok
      · contradiction
      · split at ok
        · obtain ⟨⟨items, r⟩, _, same⟩ := Json.okMap.mp ok
          cases same
        · rename_i list
          exact ⟨rest, by rw [Opened, found, nested.resolve_left list]⟩
    · exact (flat ok).elim

theorem listedLoop {source rest : Bytes} (opened : Opened source rest) {members : List (String × Json)} :
    listed source = .ok members ↔
      ∃ n left, Json.readMembers (source.length + 1)
        (Json.listMember (Json.readValue (Json.embeddedIn source) (source.length + 1) (Json.deepest - 1))) n true []
          rest = .ok (members, left) ∧ ∀ b ∈ left, Json.isSpace b = true := by
  have loop : readListed (Json.embeddedIn source) (source.length + 1) source = Json.readMembers (source.length + 1)
      (Json.listMember (Json.readValue (Json.embeddedIn source) (source.length + 1) (Json.deepest - 1)))
        (source.length + 1) true [] rest := by
    rw [readListed, opened]
    rfl
  rw [listedOk, loop]
  constructor
  · intro ⟨left, ok, blank⟩
    exact ⟨_, left, ok, blank⟩
  · intro ⟨n, left, ok, blank⟩
    have shorter := openedShorter opened
    exact ⟨left, Json.membersSteps (a := ⟨_, _⟩) (Json.listMemberLocal (Json.valueLocal _)) (by dsimp only; omega)
      (by omega) ok, blank⟩

theorem listedValue {source : Bytes} {members : List (String × Json)} (ok : listed source = .ok members)
    (unreserved : Unreserved members) : Json.parse source = .ok (.object (arranged members)) := by
  obtain ⟨rest, opened⟩ := listedOpened ok
  obtain ⟨n, left, list, blank⟩ := (listedLoop opened).mp ok
  have shorter := openedShorter opened
  refine Json.parseOk.mpr ⟨left, ?_, blank⟩
  rw [Json.deepest, valueOpened opened]
  exact Json.listsObject (by omega) list unreserved

theorem valueListed {source rest : Bytes} (opened : Opened source rest) {v : Json} (ok : Json.parse source = .ok v) :
    ∃ members, listed source = .ok members ∧
      ((Unreserved members ∧ v = .object (arranged members)) ∨ ∃ s, members = [(embeddedName, .text s)]) := by
  obtain ⟨left, read, blank⟩ := Json.parseOk.mp ok
  rw [Json.deepest, valueOpened opened] at read
  obtain ⟨n, members, list, made⟩ := Json.objectLists read
  refine ⟨members, (listedLoop opened).mpr ⟨n, left, list, blank⟩, made.imp_right fun ⟨s, alone, _⟩ => ⟨s, alone⟩⟩

/-! Values in memory. -/

theorem bareItems {items : List Json} (kept : ∀ v ∈ items, resolve v = .ok v) : resolveItems items = .ok items := by
  induction items with
  | nil => rw [resolveItems]
  | cons v rest ih =>
    obtain ⟨here, later⟩ := List.forall_mem_cons.mp kept
    rw [resolveItems, here, ih later]
    rfl

theorem bareMembers {members : List (String × Json)} (kept : ∀ e ∈ members, resolve e.2 = .ok e.2) :
    resolveMembers members = .ok members := by
  induction members with
  | nil => rw [resolveMembers]
  | cons e rest ih =>
    obtain ⟨name, v⟩ := e
    obtain ⟨here, later⟩ := List.forall_mem_cons.mp kept
    rw [resolveMembers, here, ih later]
    rfl

theorem resolveNamed {name : String} (unreserved : name ≠ embeddedName) (v : Json) (rest : List (String × Json)) :
    resolve (.object ((name, v) :: rest)) =
      resolve v >>= fun first => (resolveMembers rest).map fun others => .object ((name, first) :: others) := by
  simp only [resolve, if_neg unreserved, bind, Except.bind]
  cases resolve v with
  | error refusal => rfl
  | ok first => cases resolveMembers rest <;> rfl

theorem resolveReserved {v w : Json} {rest : List (String × Json)}
    (ok : resolve (.object ((embeddedName, v) :: rest)) = .ok w) : rest = [] := by
  cases v with
  | text s =>
    simp only [resolve, if_true] at ok
    split at ok
    · contradiction
    · split at ok
      · rename_i alone
        exact List.isEmpty_iff.mp alone
      · contradiction
  | null => contradiction
  | bool b => contradiction
  | number n => contradiction
  | array items => contradiction
  | object members => contradiction

theorem resolveBare {v : Json} (bare : Bare v) : resolve v = .ok v := by
  induction bare with
  | null => rfl
  | bool b => rfl
  | number n => rfl
  | text s => rfl
  | array _ ih =>
    rw [resolve, bareItems ih]
    rfl
  | @object members unreserved _ ih =>
    cases members with
    | nil => rfl
    | cons e rest =>
      obtain ⟨name, v⟩ := e
      have other : name ≠ embeddedName := unreserved _ rfl
      obtain ⟨here, later⟩ := List.forall_mem_cons.mp ih
      rw [resolveNamed other, here, bareMembers later]
      rfl

theorem itemsResolved {items others : List Json} (ok : resolveItems items = .ok others) :
    ∀ v ∈ items, ∃ w, resolve v = .ok w := by
  induction items generalizing others with
  | nil => simp
  | cons v rest ih =>
    rw [resolveItems, Json.okBind] at ok
    obtain ⟨w, here, ok⟩ := ok
    rw [Json.okBind] at ok
    obtain ⟨more, later, _⟩ := ok
    exact List.forall_mem_cons.mpr ⟨⟨w, here⟩, ih later⟩

theorem membersResolved {members others : List (String × Json)} (ok : resolveMembers members = .ok others) :
    others.map Prod.fst = members.map Prod.fst ∧ ∀ e ∈ members, ∃ w, resolve e.2 = .ok w := by
  induction members generalizing others with
  | nil =>
    cases ok
    simp
  | cons e rest ih =>
    obtain ⟨name, v⟩ := e
    rw [resolveMembers, Json.okBind] at ok
    obtain ⟨w, here, ok⟩ := ok
    rw [Json.okBind] at ok
    obtain ⟨more, later, ok⟩ := ok
    cases ok
    obtain ⟨names, each⟩ := ih later
    exact ⟨by rw [List.map_cons, List.map_cons, names], List.forall_mem_cons.mpr ⟨⟨w, here⟩, each⟩⟩

theorem resolveFormed {v w : Json} (formed : Throughout Formed v) (ok : resolve v = .ok w) : Bare v := by
  induction formed generalizing w with
  | null => exact .null
  | bool b => exact .bool b
  | number n => exact .number n
  | text s => exact .text s
  | array _ ih =>
    rw [resolve, Json.okMap] at ok
    obtain ⟨others, ok, _⟩ := ok
    refine .array fun v member => ?_
    obtain ⟨u, here⟩ := itemsResolved ok v member
    exact ih v member here
  | @object members formed _ ih =>
    cases members with
    | nil => exact .object (by simp [Unreserved]) (by simp)
    | cons e rest =>
      obtain ⟨name, v⟩ := e
      by_cases reserved : name = embeddedName
      · subst reserved
        obtain rfl := resolveReserved ok
        exact absurd rfl (formed.2 v)
      · rw [resolveNamed reserved, Json.okBind] at ok
        obtain ⟨first, here, ok⟩ := ok
        rw [Json.okMap] at ok
        obtain ⟨others, later, _⟩ := ok
        refine .object (by simpa [Unreserved] using reserved) fun e member => ?_
        have each : ∀ e ∈ (name, v) :: rest, ∃ u, resolve e.2 = .ok u :=
          List.forall_mem_cons.mpr ⟨⟨first, here⟩, (membersResolved later).2⟩
        obtain ⟨u, found⟩ := each e member
        exact ih e member found

theorem ofJsonBare {members : List (String × Json)} (bare : ∀ e ∈ members, Bare e.2) :
    ofJson (.object members) = .ok (ofMembers id members) := by
  rw [ofJson, bareMembers fun e member => resolveBare (bare e member)]
  rfl

theorem getMembers (members : List (String × Json)) (key : String) :
    (ofMembers id members).get? key = (members.reverse.lookup key).map normalize := by
  rw [ofMembers, Ordered.getOfList]
  exact Json.lastEach normalize members key

theorem keysMembers (members : List (String × Json)) :
    (ofMembers id members).keys = (members.map Prod.fst).eraseDups := by
  rw [ofMembers, Ordered.keysOfList, List.map_map]
  rfl

theorem getArranged (members : List (String × Json)) (key : String) :
    (ofMembers id (arranged members)).get? key = (ofMembers id members).get? key := by
  rw [getMembers, getMembers, ← Json.lookupArranged (arranged members), Json.arrangedFixed (Json.arrangedAscending _),
    Json.lookupArranged]

theorem keysArranged (members : List (String × Json)) :
    (ofMembers id (arranged members)).keys.Pairwise fun a b => bytesOf a < bytesOf b := by
  have ascending := Json.arrangedAscending members
  have names : ((arranged members).map fun e => (e.1, normalize (id e.2))).map Prod.fst =
      (arranged members).map Prod.fst := by
    rw [List.map_map]
    rfl
  have whole := Ordered.ofListEntries ⟨_, names ▸ ascending.distinct⟩
  rw [ofMembers, whole, Ordered.keys, names, List.pairwise_map]
  exact ascending.imp fun less => Text.Utf8.bytesBefore less

theorem ofJsonNames {members : List (String × Json)} {r : Record} (ok : ofJson (.object members) = .ok r)
    (key : String) : (r.get? key).isSome ↔ key ∈ members.map Prod.fst := by
  rw [ofJson, Json.okBind] at ok
  obtain ⟨others, resolved, ok⟩ := ok
  cases ok
  rw [Ordered.getOfList, Json.lastEach, Option.isSome_map, Json.lastIsSome, (membersResolved resolved).1]

theorem ofJsonFormed {members : List (String × Json)} (formed : ∀ e ∈ members, Throughout Formed e.2) {r : Record}
    (ok : ofJson (.object members) = .ok r) : ∀ e ∈ members, Bare e.2 := by
  rw [ofJson, Json.okBind] at ok
  obtain ⟨others, resolved, _⟩ := ok
  intro e member
  obtain ⟨w, found⟩ := (membersResolved resolved).2 e member
  exact resolveFormed (formed e member) found

theorem namedOtherwise {members : List (String × Json)} (formed : Formed members)
    (names : ∀ name, name ∈ members.map Prod.fst ↔ name = embeddedName) : False := by
  obtain ⟨ascending, apart⟩ := formed
  match members with
  | [] => exact absurd ((names embeddedName).mpr rfl) (by simp)
  | [(name, v)] =>
    obtain rfl := (names name).mp (by simp)
    exact apart v rfl
  | d :: e :: rest =>
    have first := (names d.1).mp (by simp)
    have second := (names e.1).mp (by simp)
    have less : d.1 < e.1 := (List.pairwise_cons.mp ascending).1 e (by simp)
    rw [first, second] at less
    exact String.lt_irrefl _ less

/-- As a value the text is an object, of which the record is the same, with its keys in the ascending
order of their bytes. -/
def Agrees (source : Bytes) (r : Record) : Prop :=
  ∃ members r', Json.parse source = .ok (.object members) ∧ ofJson (.object members) = .ok r' ∧
    (∀ key, r'.get? key = r.get? key) ∧ r'.keys.Pairwise fun a b => bytesOf a < bytesOf b

/-- A text that is an object as a value is a record. The record of a text has the names of its members
for its keys, in the order of their first occurrence. It agrees with the record of the value if and
only if the first name of the text is not the reserved one and no object begins with that name in the
last value of any name. -/
theorem pathsAgree (source : Bytes) :
    (∀ members, Json.parse source = .ok (.object members) → ∃ r, parse source = .ok r) ∧
    ∀ r, parse source = .ok r → ∃ members, listed source = .ok members ∧
      r.keys = (members.map Prod.fst).eraseDups ∧
      (Agrees source r ↔
        Unreserved members ∧ ∀ key v, members.reverse.lookup key = some v → Bare v) := by
  refine ⟨fun members value => ?_, fun r read => ?_⟩
  · obtain ⟨left, ok, _⟩ := Json.parseOk.mp value
    obtain ⟨rest, opened⟩ := objectOpened ok
    obtain ⟨list, ok, _⟩ := valueListed opened value
    exact ⟨_, parseListed.mpr ⟨list, ok, rfl⟩⟩
  obtain ⟨members, list, rfl⟩ := parseListed.mp read
  refine ⟨members, list, keysMembers members, ?_, ?_⟩
  · intro ⟨found, r', value, other, same, _⟩
    obtain ⟨rest, opened⟩ := listedOpened list
    obtain ⟨again, listed, made⟩ := valueListed opened value
    cases list.symm.trans listed
    cases Json.parseFormed value with
    | object formed each =>
      rcases made with ⟨unreserved, equal⟩ | ⟨s, alone⟩
      · cases equal
        refine ⟨unreserved, fun key v last => ?_⟩
        exact ofJsonFormed each other (key, v) (Json.memberArranged.mpr last)
      · -- The record has the reserved name alone, and the object that is read cannot.
        refine (namedOtherwise formed fun name => ?_).elim
        rw [← ofJsonNames other, same, getMembers, Option.isSome_map, Json.lastIsSome, alone]
        simp
  · intro ⟨unreserved, bare⟩
    have each (e : String × Json) (member : e ∈ arranged members) : Bare e.2 :=
      bare e.1 e.2 (Json.memberArranged.mp member)
    exact ⟨arranged members, ofMembers id (arranged members), listedValue list unreserved, ofJsonBare each,
      getArranged members, keysArranged members⟩

def hollowText : Bytes := bytesOf "\x7b\"$serde_json::private::RawValue\":\"\x7b\x7d\"\x7d"

def hollowRecord : Record := Ordered.ofList [(embeddedName, some "\x7b\x7d")]

theorem hollowValue : Json.parse hollowText = .ok (.object []) := by
  have text : hollowText = encode (Json.write (.object [(embeddedName, .text "\x7b\x7d")])) := by rfl
  rw [text, ← Json.toOptionOk, Json.parseSpelled (Json.standInWritten _)]
  rfl

/-- As a value it is the empty object that it holds, and of that the record is empty. -/
theorem pathsPart :
    parse hollowText = .ok hollowRecord ∧ Json.parse hollowText = .ok (.object []) ∧
    ofJson (.object []) = .ok Ordered.empty ∧ ¬ Agrees hollowText hollowRecord := by
  have empty : ofJson (.object []) = .ok Ordered.empty := rfl
  refine ⟨by decide +kernel, hollowValue, empty, ?_⟩
  rintro ⟨members, r, read, made, same, _⟩
  rw [hollowValue] at read
  cases read
  rw [empty] at made
  cases made
  exact absurd (same embeddedName) (by decide)

end Storefront.Record
