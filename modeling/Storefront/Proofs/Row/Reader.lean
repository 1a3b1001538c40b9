import Storefront.Proofs.Mapping
import Storefront.Proofs.Record.Writer
import Storefront.Row.Reader

/-! Rows and records share their JSON texts. A row is written as its record is, and read back from
that text; a text of some of the columns is read as a row or as a record, and the two differ only
where it has a null. -/
namespace Storefront.Row
open Json (ReadsSpelled TakesSpelled ObjectSpelled CellSpelled Blank AllFit)
open Text.Utf8 (encode encodeAppend encodeInside)

variable {s : Schema}

theorem fieldsRead (r : Row s) : r.fields = s.columns.map fun c => (c, r.get? c) := by
  apply List.ext_getElem
  · simp [fields]
  · intro i inside within
    have bound : i < s.columns.length := by simpa using within
    have place := (s.positionSome s.columns[i] ⟨i, bound⟩).mpr rfl
    simp [fields, get?, place]

theorem toJsonRecord (r : Row s) : r.toJson = r.toRecord.toJson := by
  rw [toJson, Record.toJson, fieldsRead, toRecordEntries]

theorem jsonRecord (r : Row s) : r.json = r.toRecord.json := by
  rw [json, Record.json, toJsonRecord]

theorem getFields (values : List (String × Option String)) (declared : ∀ e ∈ values, e.1 ∈ s.columns) (r : Row s)
    (name : String) :
    (values.foldl (fun r e => r.set e.1 e.2) r).get? name = (values.reverse.lookup name).getD (r.get? name) := by
  induction values generalizing r with
  | nil => rfl
  | cons e rest ih =>
    rw [List.foldl_cons, ih fun f member => declared f (List.mem_cons_of_mem e member),
      getSet r (declared e List.mem_cons_self), Ordered.lookupReverseCons]
    cases rest.reverse.lookup name with
    | some v => rfl
    | none => by_cases same : name = e.1 <;> simp [same]

theorem getOfFields {values : List (String × Option String)} (declared : ∀ e ∈ values, e.1 ∈ s.columns) (name : String) :
    (ofFields s values).get? name = (values.reverse.lookup name).getD none := by
  rw [ofFields, getFields values declared, getEmpty]

theorem cellRead : ReadsSpelled CellSpelled readCell id := by
  intro v b w bound tail blank spelled enough stops
  rw [encodeAppend, List.append_assoc, readCell, blank.dropped]
  cases spelled with
  | null =>
    have word : encode ['n', 'u', 'l', 'l'] ++ tail = Json.byte 'n' :: (['u', 'l', 'l'].map Json.byte ++ tail) := rfl
    rw [word, Json.solidSkipped (by decide)]
    dsimp only
    rw [if_pos rfl, Json.wordTaken.mpr rfl]
    rfl
  | text spelled =>
    obtain ⟨inside, rfl, read⟩ := spelled.begins
    rw [Json.encodeAscii (by decide), List.cons_append, Json.solidSkipped (by decide)]
    dsimp only
    rw [if_neg (by decide), Json.readTextValue, Json.solidSkipped (by decide)]
    dsimp only
    rw [if_pos rfl, read bound tail enough]
    rfl

theorem takeSpelled (s : Schema) :
    TakesSpelled CellSpelled (fieldsOf s).take (fun seen name => name ∈ s.columns ∧ seen.lookup name = none)
      fun seen e => e :: seen := by
  rintro bound seen name v w tail ⟨declared, unseen⟩ spelled enough stops
  have column : (fieldsOf s).columns.contains name = true := List.contains_iff_mem.mpr declared
  have member : Json.readMember ((fieldsOf s).read bound name) name (encode w ++ tail) = .ok (v, tail) :=
    Json.colonRead cellRead spelled name enough stops
  rw [Json.Fields.take, if_pos column, if_neg (by simp [unseen]), member]
  rfl

theorem distinctFit {members seen : List (String × Option String)} (declared : ∀ e ∈ members, e.1 ∈ s.columns)
    (distinct : (members.map Prod.fst).Nodup) (apart : ∀ e ∈ members, seen.lookup e.1 = none) :
    AllFit (fun seen name => name ∈ s.columns ∧ seen.lookup name = none) (fun seen e => e :: seen) seen members := by
  induction members generalizing seen with
  | nil => trivial
  | cons e rest ih =>
    obtain ⟨fresh, distinct⟩ := List.nodup_cons.mp distinct
    refine ⟨⟨declared e List.mem_cons_self, apart e List.mem_cons_self⟩, ?_⟩
    refine ih (fun f member => declared f (List.mem_cons_of_mem e member)) distinct fun f member => ?_
    have other : (f.1 == e.1) = false := beq_eq_false_iff_ne.mpr fun same => fresh (same ▸ List.mem_map_of_mem member)
    rw [List.lookup_cons, other]
    exact apart f (List.mem_cons_of_mem e member)

/-- A text that is one object, with a text or null for some of the columns, each once. -/
structure Sheet (s : Schema) (members : List (String × Option String)) (source : Bytes) : Prop where
  spelled : ∃ before object after, Blank before ∧ ObjectSpelled CellSpelled members object ∧ Blank after ∧
    source = encode (before ++ object ++ after)
  declared : ∀ e ∈ members, e.1 ∈ s.columns
  distinct : (members.map Prod.fst).Nodup

variable {members : List (String × Option String)} {source : Bytes}

theorem sheetRow (sheet : Sheet s members source) : parse s source = .ok (ofFields s members.reverse) := by
  obtain ⟨⟨before, object, after, leads, spelled, ends, rfl⟩, declared, distinct⟩ := sheet
  have size := Nat.le_succ_of_le (encodeInside before object after)
  have steps := Nat.lt_of_lt_of_le spelled.count size
  have fit := distinctFit declared distinct (show ∀ e ∈ members, List.lookup e.1 [] = none from fun _ _ => rfl)
  obtain ⟨inside, rfl, ok⟩ := Json.objectRead (takeSpelled s) spelled size steps fit (encode after)
  have all : members.foldl (fun seen e => e :: seen) [] = members.reverse := by simp
  have read : (fieldsOf s).readAll ((encode (before ++ '\x7b' :: inside ++ after)).length + 1)
      (encode (before ++ '\x7b' :: inside ++ after)) = .ok (members.reverse, encode after) := by
    rw [encodeAppend (before ++ '\x7b' :: inside), Json.Fields.readAll, leads.skipped (by decide) (by decide)]
    dsimp only
    rw [if_neg (by decide), if_pos rfl, ← encodeAppend (before ++ '\x7b' :: inside), ok, all]
  rw [parse, Json.locatedOk.mpr (Json.finishOk.mpr ⟨_, read, ends.spaces⟩)]
  rfl

theorem sheetRecord (sheet : Sheet s members source) : Record.parse source = .ok (Ordered.ofList members) := by
  obtain ⟨before, object, after, leads, spelled, ends, rfl⟩ := sheet.spelled
  exact Record.parseCells leads spelled ends

theorem getSheetRow (sheet : Sheet s members source) (name : String) :
    (ofFields s members.reverse).get? name = (members.lookup name).getD none := by
  have declared : ∀ e ∈ members.reverse, e.1 ∈ s.columns := fun e member => sheet.declared e (List.mem_reverse.mp member)
  rw [getOfFields declared, List.reverse_reverse]

theorem getSheetRecord (sheet : Sheet s members source) {name : String} (declared : name ∈ s.columns) :
    (rowOf s (some (Ordered.ofList members))).get? name = (members.lookup name).map fun v => v.getD "null" := by
  have entries : (Ordered.ofList members).entries = members :=
    Ordered.insertAllDistinct Ordered.empty members sheet.distinct
  change (Record.toRow s (Ordered.ofList members)).get? name = _
  rw [Record.getToRow _ declared, Record.text?, Ordered.get?, entries]

structure Alike (members : List (String × Option String)) (direct mapped : Row s) : Prop where
  text : ∀ name text, (name, some text) ∈ members → direct.get? name = some text ∧ mapped.get? name = some text
  null : ∀ name, (name, none) ∈ members → direct.get? name = none ∧ mapped.get? name = some "null"
  absent : ∀ name ∈ s.columns, name ∉ members.map Prod.fst → direct.get? name = none ∧ mapped.get? name = none

theorem sheetAlike (sheet : Sheet s members source) :
    Alike members (ofFields s members.reverse) (rowOf s (some (Ordered.ofList members))) := by
  have found : ∀ name v, (name, v) ∈ members → members.lookup name = some v := fun name v =>
    (Ordered.lookupMember sheet.distinct name v).mpr
  exact {
    text := fun name text member => by
      rw [getSheetRow sheet, getSheetRecord sheet (sheet.declared _ member), found name _ member]
      exact ⟨rfl, rfl⟩
    null := fun name member => by
      rw [getSheetRow sheet, getSheetRecord sheet (sheet.declared _ member), found name _ member]
      exact ⟨rfl, rfl⟩
    absent := fun name declared missing => by
      have nowhere : members.lookup name = none := (Ordered.getAbsent ⟨members, sheet.distinct⟩ name).mpr missing
      rw [getSheetRow sheet, getSheetRecord sheet declared, nowhere]
      exact ⟨rfl, rfl⟩ }

theorem writtenSheet (r : Row s) : Sheet s r.toRecord.entries (bytesOf r.json) where
  spelled := by
    have spelled := r.toRecord.jsonSpelled
    rw [← jsonRecord] at spelled
    refine ⟨[], r.json.toList, [], Blank.none, spelled, Blank.none, ?_⟩
    rw [List.nil_append, List.append_nil]
    rfl
  declared := fun e member => by
    rw [← r.toRecordKeys]
    exact List.mem_map_of_mem member
  distinct := r.toRecord.distinct

theorem parseRowJson (r : Row s) : parse s (bytesOf r.json) = .ok r := by
  have sheet := r.writtenSheet
  rw [sheetRow sheet]
  refine congrArg Except.ok (extColumns fun name declared => ?_)
  have read : r.toRecord.entries.lookup name = some (r.get? name) := getToRecord r declared
  rw [getSheetRow sheet, read]
  rfl

/-- A row is written as its record is, and read back. Every text of columns is read as a row and
as a record, and the row of the record has the same texts and gaps, but the text `null` where the
row itself has none for a null. -/
theorem readersAgree (s : Schema) :
    (∀ r : Row s, r.json = (recordOf (some r)).json ∧ parse s (bytesOf r.json) = .ok r) ∧
    ∀ members source, Sheet s members source → ∃ direct record, parse s source = .ok direct ∧
      Record.parse source = .ok record ∧ Alike members direct (rowOf s (some record)) :=
  ⟨fun r => ⟨r.jsonRecord, r.parseRowJson⟩,
    fun _ _ sheet => ⟨_, _, sheetRow sheet, sheetRecord sheet, sheetAlike sheet⟩⟩

def supplierText : String := "\t\x7b\"supplier_name\" :\n\"\\u0041\\/\\uD83d\\ude00\\n\" , \"contact_email\":null\r\x7d "

def supplierMembers : List (String × Option String) := [("supplier_name", some "A/😀\n"), ("contact_email", none)]

theorem supplierNameSpelled : ∃ w, Json.TextSpelled "A/😀\n" w ∧ w = "\"\\u0041\\/\\uD83d\\ude00\\n\"".toList := by
  have zero : Json.HexDigit '0' 0 := by decide
  have three : Json.HexDigit '3' 3 := by decide
  have four : Json.HexDigit '4' 4 := by decide
  have eight : Json.HexDigit '8' 8 := by decide
  have upper : Json.HexDigit 'D' 0xD := by decide
  have lower : Json.HexDigit 'd' 0xD := by decide
  have last : Json.HexDigit 'e' 0xE := by decide
  have letter : Json.CodeUnit ['0', '0', '4', '1'] 0x41 := .digits zero zero four (show Json.HexDigit '1' 1 by decide)
  have high : Json.CodeUnit ['D', '8', '3', 'd'] 0xD83D := .digits upper eight three lower
  have low : Json.CodeUnit ['d', 'e', '0', '0'] 0xDE00 := .digits lower last zero zero
  have first : Json.Spelling 'A' _ := .unit letter
  have slash : Json.Spelling '/' ['\\', '/'] := .letter (by decide)
  have face : Json.Spelling '😀' _ := .pair high low (by decide) (by decide) (by decide)
  have line : Json.Spelling '\n' ['\\', 'n'] := .letter (by decide)
  have inside : Json.Spelled ['A', '/', '😀', '\n'] _ := .cons first (.cons slash (.cons face (.cons line .nil)))
  have chars : "A/😀\n".toList = ['A', '/', '😀', '\n'] := by decide
  rw [← chars] at inside
  exact ⟨_, .quoted inside, by decide⟩

theorem supplierSheet : Sheet Entity.supplier.schema supplierMembers (bytesOf supplierText) where
  spelled := by
    obtain ⟨w, value, written⟩ := supplierNameSpelled
    have space : Blank [' '] := by decide
    have line : Blank ['\n'] := by decide
    have back : Blank ['\r'] := by decide
    have name := Json.MemberSpelled.named (Json.textWritten "supplier_name") (.colon space line (CellSpelled.text value))
    have address := Json.MemberSpelled.named (Json.textWritten "contact_email")
      (.colon Blank.none Blank.none CellSpelled.null)
    have rest := Json.RestSpelled.next space space address (.close back)
    refine ⟨['\t'], _, [' '], by decide, .filled Blank.none name rest, space, ?_⟩
    rw [written]
    decide +kernel
  declared := by decide
  distinct := by decide

theorem readersAgreeSupplier :
    Sheet Entity.supplier.schema supplierMembers (bytesOf supplierText) ∧
    ∃ direct record, parse Entity.supplier.schema (bytesOf supplierText) = .ok direct ∧
      Record.parse (bytesOf supplierText) = .ok record ∧ Alike supplierMembers direct (rowOf _ (some record)) :=
  ⟨supplierSheet, (readersAgree _).2 _ _ supplierSheet⟩

end Storefront.Row
