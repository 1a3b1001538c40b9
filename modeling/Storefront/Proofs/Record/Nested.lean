import Storefront.Proofs.Json.Tight
import Storefront.Proofs.Record.Judged

/-! Arrays and objects in the text of a record. They are kept as texts, in one form for all spellings of
a value, unless an object stands for a text that is embedded in it. -/
namespace Storefront.Record
open Json (Blank Throughout Bare Formed Ascending Means ValueSpelled ReadAs arrange embeddedName)

inductive Piece where
  | nested (v : Json)
  | other (v : Json)

inductive PieceSpelled : Piece → List Char → Prop where
  | nested {levels : Nat} {v : Json} {w : List Char} (spelled : ValueSpelled levels v w) : PieceSpelled (.nested v) w
  | other {v : Json} {w : List Char} (whole : WholeRead v w) : PieceSpelled (.other v) w

def pieceValue? : Piece → Option Json
  | .nested v => Json.readAs? (Json.deepest - 1) v
  | .other v => some v

theorem pieceJudged : JudgesMember PieceSpelled pieceValue? := by
  intro piece b w bound tail blank spelled enough stops
  cases spelled with
  | nested spelled => exact Json.valueJudged _ _ _ b w bound tail blank spelled enough stops
  | other whole => exact wholeJudged _ b w bound tail blank whole enough stops

/-- The text is read as the record, and its last value of the name is spelled level by level. -/
structure Gives (source : Bytes) (r : Record) (key : String) (v : Json) : Prop where
  read : parse source = .ok r
  given : ∃ members, SpelledIn PieceSpelled members source ∧ members.reverse.lookup key = some (.nested v)

variable {source : Bytes} {r : Record} {key : String} {v : Json}

theorem spelledGives {members : List (String × Piece)} (text : SpelledIn PieceSpelled members source)
    (all : members.foldlM (addRead pieceValue?) Ordered.empty = some r)
    (last : members.reverse.lookup key = some (.nested v)) : Gives source r key v :=
  ⟨Json.toOptionOk.mp ((parseJudged pieceJudged text).trans all), members, text, last⟩

theorem givesRead (gives : Gives source r key v) :
    ∃ levels w u, ValueSpelled levels v w ∧ ReadAs (Json.deepest - 1) v u ∧ r.get? key = some (normalize u) := by
  obtain ⟨read, members, text, last⟩ := gives
  have all := (parseJudged pieceJudged text).symm.trans (Json.toOptionOk.mpr read)
  obtain ⟨u, valued, found⟩ := lastRead all last
  obtain ⟨_, _, _, _, spelled, _⟩ := text
  obtain ⟨w, piece⟩ := spelled.each _ (Json.lastMember last)
  cases piece with
  | nested spelled => exact ⟨_, w, u, spelled, Json.readAsSound valued, found⟩

/-- The text is a spelling, without white space, of a value equal to this one, whose objects have their
names in ascending order. -/
structure Canonical (v : Json) (text : String) : Prop where
  tight : Json.Tight text.toList
  spelled : ∃ levels u, ValueSpelled levels u text.toList ∧ Throughout Ascending u ∧ Means v u

theorem canonicalArranged {levels : Nat} {w : List Char} (spelled : ValueSpelled levels v w) :
    Canonical v (arrange v).compact := by
  have again := Json.rewrittenSpelled spelled
  have text : (arrange v).compact.toList = (arrange v).write := String.toList_ofList
  refine ⟨?_, levels, arrange v, ?_, Json.arrangeAscending v, Json.arrangeMeans v⟩
  · rw [text]
    exact (Json.writtenSolid again).tight
  · rw [text]
    exact again

def Survives (r : Record) (key : String) (v : Json) : Prop :=
  ∃ text, r.get? key = some (some text) ∧ Canonical v text ∧
    ∃ u, Json.parse (bytesOf text) = .ok u ∧ Means v u

theorem normalizeNested (nested : v.shape = .sequence ∨ v.shape = .map) :
    normalize (arrange v) = some (arrange v).compact := by
  cases v with
  | array items =>
    rw [Json.arrangeArray]
    rfl
  | object members =>
    rw [Json.arrangeObject]
    rfl
  | null => rcases nested with shape | shape <;> contradiction
  | bool b => rcases nested with shape | shape <;> contradiction
  | number n => rcases nested with shape | shape <;> cases n <;> contradiction
  | text s => rcases nested with shape | shape <;> contradiction

theorem parseRewritten {levels : Nat} {w : List Char} (spelled : ValueSpelled levels v w) :
    (Json.parse (bytesOf (arrange v).compact)).toOption = Json.readAs? Json.deepest (arrange v) := by
  rw [bytesOf, Json.compact, String.toList_ofList]
  exact Json.parseSpelled (Json.rewrittenSpelled spelled)

/-- What becomes of an array or object that is the last value of its name. Its text is kept without
white space, with the names of each object once and in ascending order, unless it has an object of the
reserved name alone. It is read from that text as it was if and only if none of its objects begins with
the reserved name when its names are in ascending order. And equal values are kept as the same text. -/
theorem nestedKept (gives : Gives source r key v) (nested : v.shape = .sequence ∨ v.shape = .map) :
    (Throughout Formed (arrange v) → ∃ text, r.get? key = some (some text) ∧ Canonical v text) ∧
    (Survives r key v ↔ Bare (arrange v)) ∧
    ∀ (source' : Bytes) (r' : Record) (key' : String) (v' : Json), Gives source' r' key' v' → Means v v' →
      r'.get? key' = r.get? key := by
  obtain ⟨levels, w, u, spelled, read, found⟩ := givesRead gives
  have kept (formed : Throughout Formed (arrange v)) : r.get? key = some (some (arrange v).compact) := by
    rw [found, ← Json.readAsExpanded read, Json.expandFixed formed, normalizeNested nested]
  have reread := parseRewritten spelled
  refine ⟨fun formed => ⟨_, kept formed, canonicalArranged spelled⟩, ⟨?_, ?_⟩, ?_⟩
  · intro ⟨text, stored, _, back, ok, means⟩
    have formed := Json.parseFormed ok
    have same : arrange v = back := by
      rw [Json.meansArrange means, Json.arrangeFixed (formed.mono fun _ => And.left)]
    rw [← same] at formed ok
    rw [kept formed] at stored
    cases stored
    rw [ok] at reread
    exact Json.readAsBare (Json.readAsSound reread.symm) formed
  · intro bare
    have formed := Json.bareFormed bare (Json.arrangeAscending v)
    have again : Json.readAs? Json.deepest (arrange v) = some (arrange v) := Json.readAsAgain read (by decide) bare
    rw [again] at reread
    exact ⟨_, kept formed, canonicalArranged spelled, _, Json.toOptionOk.mp reread, Json.arrangeMeans v⟩
  · intro source' r' key' v' gives' means
    obtain ⟨_, _, u', _, read', found'⟩ := givesRead gives'
    rw [found', found, ← Json.readAsExpanded read, ← Json.readAsExpanded read', Json.meansArrange means]

def looseText : Bytes :=
  bytesOf ("\x7b\"operation\":1.5,\"operation\" :\n" ++
    "\x7b\"b\":0,\"a\":[1 ,-2],\"b\":\x7b\"z\":true,\"y\":\"\\/\"\x7d\x7d\x7d")

def tightText : Bytes := bytesOf "\x7b\"table_name\":\x7b\"a\":[1,-2],\"b\":\x7b\"y\":\"/\",\"z\":true\x7d\x7d\x7d"

def looseValue : Json :=
  .object [("b", .number (.integer 0)), ("a", .array [.number (.integer 1), .number (.integer (-2))]),
    ("b", .object [("z", .bool true), ("y", .text "/")])]

def keptText : String := "\x7b\"a\":[1,-2],\"b\":\x7b\"y\":\"/\",\"z\":true\x7d\x7d"

def keptRecord (key : String) : Record := Ordered.ofList [(key, some keptText)]

theorem looseSpelled : ∃ w, ValueSpelled 2 looseValue w ∧
    w = "\x7b\"b\":0,\"a\":[1 ,-2],\"b\":\x7b\"z\":true,\"y\":\"\\/\"\x7d\x7d".toList := by
  have space : Blank [' '] := by decide
  have integer {n : Int} (fits : Json.Fits n) : ValueSpelled 1 (.number (.integer n)) (Json.numeral n) :=
    .scalar (.integer fits)
  have slash : Json.Spelling '/' ['\\', '/'] := .letter (by decide)
  have text : Json.TextSpelled "/" _ := .quoted (show Json.Spelled ['/'] _ from .cons slash .nil)
  have items : Json.ArraySpelled (ValueSpelled 0) [.number (.integer 1), .number (.integer (-2))] _ :=
    .filled Blank.none (.integer (by decide)) (.next space Blank.none (.integer (by decide)) (.close Blank.none))
  have first : Json.MemberSpelled (ValueSpelled 0) ("z", .bool true) _ :=
    .named (Json.textWritten "z") (.colon Blank.none Blank.none .yes)
  have second : Json.MemberSpelled (ValueSpelled 0) ("y", .text "/") _ :=
    .named (Json.textWritten "y") (.colon Blank.none Blank.none (.text text))
  have inner := Json.ObjectSpelled.filled Blank.none first (.next Blank.none Blank.none second (.close Blank.none))
  have zero := Json.MemberSpelled.named (Json.textWritten "b")
    (.colon Blank.none Blank.none (integer (n := 0) (by decide)))
  have list := Json.MemberSpelled.named (Json.textWritten "a")
    (.colon Blank.none Blank.none (show ValueSpelled 1 _ _ from .array items))
  have last := Json.MemberSpelled.named (Json.textWritten "b")
    (.colon Blank.none Blank.none (show ValueSpelled 1 _ _ from .object inner))
  have members := Json.RestSpelled.next Blank.none Blank.none list
    (.next Blank.none Blank.none last (.close Blank.none))
  exact ⟨_, show ValueSpelled 2 looseValue _ from .object (.filled Blank.none zero members), rfl⟩

theorem looseArranged : arrange looseValue =
    .object [("a", .array [.number (.integer 1), .number (.integer (-2))]),
      ("b", .object [("y", .text "/"), ("z", .bool true)])] := by
  rfl

theorem looseBare : Bare (arrange looseValue) := by
  rw [looseArranged]
  have inner : Bare (.object [("y", .text "/"), ("z", .bool true)]) :=
    .object (by decide) (List.forall_mem_cons.mpr ⟨.text "/", List.forall_mem_singleton.mpr (.bool true)⟩)
  have list : Bare (.array [.number (.integer 1), .number (.integer (-2))]) :=
    .array (List.forall_mem_cons.mpr ⟨.number _, List.forall_mem_singleton.mpr (.number _)⟩)
  exact .object (by decide) (List.forall_mem_cons.mpr ⟨list, List.forall_mem_singleton.mpr inner⟩)

theorem looseGives : Gives looseText (keptRecord "operation") "operation" looseValue := by
  obtain ⟨w, spelled, written⟩ := looseSpelled
  have line : Blank ['\n'] := by decide
  obtain ⟨v, half⟩ : ∃ v, WholeRead v ['1', '.', '5'] := by
    unfold WholeRead
    exact ⟨_, rfl⟩
  have first := Json.MemberSpelled.named (Json.textWritten "operation")
    (.colon Blank.none Blank.none (PieceSpelled.other half))
  have second := Json.MemberSpelled.named (Json.textWritten "operation")
    (.colon (show Blank [' '] by decide) line (PieceSpelled.nested spelled))
  refine spelledGives ⟨[], _, [], Blank.none, .filled Blank.none first
    (.next Blank.none Blank.none second (.close Blank.none)), Blank.none, ?_⟩ rfl rfl
  rw [written]
  rfl

theorem tightGives : Gives tightText (keptRecord "table_name") "table_name" (arrange looseValue) := by
  obtain ⟨w, spelled, _⟩ := looseSpelled
  have member := Json.MemberSpelled.named (Json.textWritten "table_name")
    (.colon Blank.none Blank.none (PieceSpelled.nested (Json.rewrittenSpelled spelled)))
  refine spelledGives ⟨[], _, [], Blank.none, .filled Blank.none member (.close Blank.none), Blank.none, ?_⟩ rfl rfl
  rw [looseArranged]
  rfl

theorem nestedKeptLoose :
    Gives looseText (keptRecord "operation") "operation" looseValue ∧ looseValue.shape = .map ∧
    Survives (keptRecord "operation") "operation" looseValue ∧
    Gives tightText (keptRecord "table_name") "table_name" (arrange looseValue) ∧
    Means looseValue (arrange looseValue) ∧
    (keptRecord "table_name").get? "table_name" = (keptRecord "operation").get? "operation" := by
  have shape : looseValue.shape = .map := rfl
  obtain ⟨_, survives, same⟩ := nestedKept looseGives (Or.inr shape)
  have means := Json.arrangeMeans looseValue
  exact ⟨looseGives, shape, survives.mpr looseBare, tightGives, means, same _ _ _ _ tightGives means⟩

def embeddedValue : Json := .object [(embeddedName, .text "12")]

def embeddedText : Bytes := bytesOf "\x7b\"operation\":\x7b\"$serde_json::private::RawValue\":\"12\"\x7d\x7d"

def embeddedRecord : Record := Ordered.ofList [("operation", some "12")]

theorem embeddedGives : Gives embeddedText embeddedRecord "operation" embeddedValue := by
  have member := Json.MemberSpelled.named (Json.textWritten "operation")
    (.colon Blank.none Blank.none (PieceSpelled.nested (Json.standInWritten "12")))
  refine spelledGives ⟨[], _, [], Blank.none, .filled Blank.none member (.close Blank.none), Blank.none, ?_⟩ rfl rfl
  rfl

/-- An object of the reserved name alone is kept as the text that it holds, which is read as another value. -/
theorem nestedReplaced :
    Gives embeddedText embeddedRecord "operation" embeddedValue ∧ embeddedValue.shape = .map ∧
    embeddedRecord.get? "operation" = some (some "12") ∧ ¬ Survives embeddedRecord "operation" embeddedValue := by
  refine ⟨embeddedGives, rfl, rfl, fun ⟨text, stored, _, v, ok, means⟩ => ?_⟩
  have kept : text = "12" := by cases stored; rfl
  have read : Json.parse (bytesOf "12") = .ok (.number (.integer 12)) := by rfl
  rw [kept, read] at ok
  cases ok
  cases means

end Storefront.Record
