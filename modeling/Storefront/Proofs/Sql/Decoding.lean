import Storefront.Proofs.Sql.Reply

/-! Replies of any shape. A cell is found by the name of its column, wherever that stands; a reply
is read as a whole or not at all, and then for the first cell that cannot be read, row by row
and in each row in the order of the declared columns. -/
namespace Storefront.Sql

variable {s : Schema}

abbrev Cells := List (Column × Option Bytes)

def Reply.cells (reply : Reply) : List Cells := reply.rows.map reply.columns.zip

structure Reply.Formed (reply : Reply) : Prop where
  distinct : (reply.columns.map Column.name).Nodup
  full : ∀ row ∈ reply.rows, row.length = reply.columns.length

inductive CellRead (cells : Cells) (name : String) : Except Fault (Option String) → Prop where
  | missing (absent : ∀ e ∈ cells, e.1.name ≠ name) : CellRead cells name (.error (.columnNotFound name))
  | null {column} (member : (column, none) ∈ cells) (named : column.name = name) : CellRead cells name (.ok none)
  | text {column t} (member : (column, some (bytesOf t)) ∈ cells) (named : column.name = name)
      (type : column.type.isText = true) : CellRead cells name (.ok (some t))
  | otherType {column bytes} (member : (column, some bytes) ∈ cells) (named : column.name = name)
      (type : column.type.isText = false) :
      CellRead cells name (.error (.columnDecode (Text.quoted name) (mismatch column.type)))
  | notText {column bytes fault} (member : (column, some bytes) ∈ cells) (named : column.name = name)
      (type : column.type.isText = true) (unread : Text.Utf8.decode bytes = .error fault) :
      CellRead cells name (.error (.columnDecode (Text.quoted name) fault.message))

inductive FirstFault {α β ε : Type} (reads : α → Except ε β → Prop) : List α → ε → Prop where
  | here {x rest fault} (bad : reads x (.error fault)) : FirstFault reads (x :: rest) fault
  | later {x v rest fault} (good : reads x (.ok v)) (more : FirstFault reads rest fault) :
      FirstFault reads (x :: rest) fault

inductive RowRead (s : Schema) (cells : Cells) : Except Fault (Row s) → Prop where
  | row {r} (each : ∀ name ∈ s.columns, CellRead cells name (.ok (r.get? name))) : RowRead s cells (.ok r)
  | fault {fault} (first : FirstFault (CellRead cells) s.columns fault) : RowRead s cells (.error fault)

inductive RowsRead (s : Schema) (rows : List Cells) : Except Fault (List (Row s)) → Prop where
  | rows {found} (each : List.Forall₂ (fun cells r => RowRead s cells (.ok r)) rows found) :
      RowsRead s rows (.ok found)
  | fault {fault} (first : FirstFault (RowRead s) rows fault) : RowsRead s rows (.error fault)

/-! Reading does what the relations say. -/

theorem cellRead {reply : Reply} {row : List (Option Bytes)} (full : row.length = reply.columns.length)
    (name : String) : CellRead (reply.columns.zip row) name (reply.cell row name) := by
  unfold Reply.cell
  cases found : reply.column? name with
  | none => exact .missing fun e member => columnMissing found e.1 (List.of_mem_zip member).1
  | some place =>
    obtain ⟨i, column⟩ := place
    obtain ⟨here, named⟩ := columnFound found
    obtain ⟨inside, rfl⟩ := List.getElem?_eq_some_iff.mp here
    have within : i < row.length := full ▸ inside
    have member : (reply.columns[i], row[i]) ∈ reply.columns.zip row :=
      List.mem_iff_getElem.mpr ⟨i, by simp [inside, within], List.getElem_zip⟩
    dsimp only
    rw [List.getElem?_eq_getElem within, Option.join_some]
    cases value : row[i] with
    | none => exact .null (value ▸ member) named
    | some bytes =>
      rw [value] at member
      dsimp only
      cases type : reply.columns[i].type.isText with
      | false => exact .otherType member named type
      | true =>
        rw [if_pos rfl]
        cases decoded : Text.Utf8.decode bytes with
        | error fault => exact .notText member named type decoded
        | ok cs =>
          have bytesAre : bytes = bytesOf (String.ofList cs) := by
            rw [bytesOf, String.toList_ofList, Text.Utf8.encodeDecode decoded]
          exact .text (bytesAre ▸ member) named type

theorem rowFromRead {reply : Reply} {row : List (Option Bytes)} (full : row.length = reply.columns.length)
    {names : List String} (declared : ∀ name ∈ names, name ∈ s.columns) (r : Row s) :
    (∃ found, reply.rowFrom s row names r = .ok found ∧
      (∀ name ∈ names, CellRead (reply.columns.zip row) name (.ok (found.get? name))) ∧
      ∀ name ∉ names, found.get? name = r.get? name) ∨
    ∃ fault, reply.rowFrom s row names r = .error fault ∧
      FirstFault (CellRead (reply.columns.zip row)) names fault := by
  induction names generalizing r with
  | nil => exact Or.inl ⟨r, rfl, by simp, fun _ _ => rfl⟩
  | cons name rest ih =>
    have read := cellRead full name
    rw [Reply.rowFrom]
    cases cell : reply.cell row name with
    | error fault =>
      rw [cell] at read
      exact Or.inr ⟨fault, rfl, .here read⟩
    | ok value =>
      rw [cell] at read
      have known : name ∈ s.columns := declared name List.mem_cons_self
      rcases ih (fun n member => declared n (List.mem_cons_of_mem name member)) (r.set name value) with
        ⟨found, ok, each, others⟩ | ⟨fault, error, first⟩
      · refine Or.inl ⟨found, ok, fun n member => ?_, fun n absent => ?_⟩
        · by_cases later : n ∈ rest
          · exact each n later
          · obtain rfl : n = name := (List.mem_cons.mp member).resolve_right later
            rw [others n later, Row.getSet r known, if_pos rfl]
            exact read
        · rw [others n (List.not_mem_of_not_mem_cons absent), Row.getSet r known,
            if_neg (List.ne_of_not_mem_cons absent)]
      · exact Or.inr ⟨fault, error, .later read first⟩

theorem rowRead {reply : Reply} {row : List (Option Bytes)} (full : row.length = reply.columns.length) :
    RowRead s (reply.columns.zip row) (reply.row s row) := by
  rw [Reply.row]
  rcases rowFromRead full (fun _ member => member) (Row.empty s) with ⟨found, ok, each, _⟩ | ⟨fault, error, first⟩
  · rw [ok]
    exact .row each
  · rw [error]
    exact .fault first

theorem rowsFromRead {reply : Reply} {rows : List (List (Option Bytes))}
    (full : ∀ row ∈ rows, row.length = reply.columns.length) :
    RowsRead s (rows.map reply.columns.zip) (reply.rowsFrom s rows) := by
  induction rows with
  | nil => exact .rows .nil
  | cons row rest ih =>
    have first := rowRead (s := s) (full row List.mem_cons_self)
    have later := ih fun other member => full other (List.mem_cons_of_mem row member)
    rw [Reply.rowsFrom]
    generalize reply.row s row = outcome at first
    generalize reply.rowsFrom s rest = others at later
    cases first with
    | fault bad => exact .fault (.here (.fault bad))
    | row each =>
      cases later with
      | rows all => exact .rows (.cons (.row each) all)
      | fault bad => exact .fault (.later (.row each) bad)

theorem FirstFault.found {α β ε : Type} {reads : α → Except ε β → Prop} {items : List α} {fault : ε}
    (first : FirstFault reads items fault) : ∃ x ∈ items, reads x (.error fault) := by
  induction first with
  | here bad => exact ⟨_, List.mem_cons_self, bad⟩
  | later _ _ ih =>
    obtain ⟨x, member, bad⟩ := ih
    exact ⟨x, List.mem_cons_of_mem _ member, bad⟩

section Single
variable {α β ε : Type} {reads : α → Except ε β → Prop} {items : List α}

def Single (reads : α → Except ε β → Prop) (items : List α) : Prop :=
  ∀ x ∈ items, ∀ o p, reads x o → reads x p → o = p

theorem Single.tail {x : α} (single : Single reads (x :: items)) : Single reads items := fun y member =>
  single y (List.mem_cons_of_mem x member)

theorem FirstFault.once {a b : ε} (first : FirstFault reads items a) (second : FirstFault reads items b)
    (single : Single reads items) : a = b := by
  induction first with
  | here bad =>
    have same := fun p => single _ List.mem_cons_self _ p bad
    cases second with
    | here other => exact Except.error.inj (same _ other)
    | later good _ => exact absurd (same _ good) (by simp)
  | later good _ ih =>
    have same := fun p => single _ List.mem_cons_self _ p good
    cases second with
    | here other => exact absurd (same _ other) (by simp)
    | later _ more => exact ih more single.tail

theorem FirstFault.apart {values : List β} {fault : ε} (first : FirstFault reads items fault)
    (each : List.Forall₂ (fun x v => reads x (.ok v)) items values)
    (single : Single reads items) : False := by
  induction first generalizing values with
  | here bad =>
    cases each with
    | cons good _ => exact absurd (single _ List.mem_cons_self _ _ bad good) (by simp)
  | later _ _ ih =>
    cases each with
    | cons _ rest => exact ih rest single.tail

theorem eachFound {values : List β} (each : List.Forall₂ (fun x v => reads x (.ok v)) items values) :
    ∀ x ∈ items, ∃ v, reads x (.ok v) := by
  induction each with
  | nil => simp
  | cons good _ ih => exact List.forall_mem_cons.mpr ⟨⟨_, good⟩, ih⟩

theorem eachOnce {values others : List β} (first : List.Forall₂ (fun x v => reads x (.ok v)) items values)
    (second : List.Forall₂ (fun x v => reads x (.ok v)) items others)
    (single : Single reads items) : values = others := by
  induction first generalizing others with
  | nil =>
    cases second
    rfl
  | cons good _ ih =>
    cases second with
    | cons other rest =>
      rw [ih rest single.tail, Except.ok.inj (single _ List.mem_cons_self _ _ good other)]

end Single

theorem FirstFault.mono {α γ β ε : Type} {reads : α → Except ε β → Prop} {others : γ → Except ε β → Prop}
    {items : List α} {moved : List γ} (alike : List.Forall₂ (fun x y => ∀ o, reads x o → others y o) items moved)
    {fault : ε} (first : FirstFault reads items fault) : FirstFault others moved fault := by
  induction first generalizing moved with
  | here bad =>
    cases alike with
    | cons same _ => exact .here (same _ bad)
  | later good _ ih =>
    cases alike with
    | cons same rest => exact .later (same _ good) (ih rest)

def Distinct (cells : Cells) : Prop := (cells.map fun e => e.1.name).Nodup

theorem Distinct.same {cells : Cells} (distinct : Distinct cells) {a b : Column × Option Bytes} (first : a ∈ cells)
    (second : b ∈ cells) (named : a.1.name = b.1.name) : a = b :=
  List.inj_on_of_nodup_map distinct first second named

def cellValue (name : String) : Column × Option Bytes → Except Fault (Option String)
  | (_, none) => .ok none
  | (column, some bytes) =>
    if column.type.isText then
      match Text.Utf8.decode bytes with
      | .ok cs => .ok (some (String.ofList cs))
      | .error fault => .error (.columnDecode (Text.quoted name) fault.message)
    else .error (.columnDecode (Text.quoted name) (mismatch column.type))

theorem CellRead.source {cells : Cells} {name : String} {outcome : Except Fault (Option String)}
    (read : CellRead cells name outcome) :
    ((∀ e ∈ cells, e.1.name ≠ name) ∧ outcome = .error (.columnNotFound name)) ∨
      ∃ e ∈ cells, e.1.name = name ∧ outcome = cellValue name e := by
  cases read with
  | missing absent => exact Or.inl ⟨absent, rfl⟩
  | null member named => exact Or.inr ⟨_, member, named, rfl⟩
  | @text column t member named type =>
    refine Or.inr ⟨_, member, named, ?_⟩
    simp only [cellValue, type, if_true, bytesOf, Text.Utf8.decodeEncode, String.ofList_toList]
  | otherType member named type =>
    refine Or.inr ⟨_, member, named, ?_⟩
    simp only [cellValue, type, Bool.false_eq_true, if_false]
  | notText member named type unread =>
    refine Or.inr ⟨_, member, named, ?_⟩
    simp only [cellValue, type, if_true, unread]

theorem cellReadOnce {cells : Cells} (distinct : Distinct cells) {name : String}
    {a b : Except Fault (Option String)} (first : CellRead cells name a) (second : CellRead cells name b) : a = b := by
  rcases first.source with ⟨absent, rfl⟩ | ⟨e, member, named, rfl⟩
  · rcases second.source with ⟨_, rfl⟩ | ⟨f, other, also, rfl⟩
    · rfl
    · exact absurd also (absent f other)
  · rcases second.source with ⟨absent, rfl⟩ | ⟨f, other, also, rfl⟩
    · exact absurd named (absent e member)
    · rw [distinct.same member other (named.trans also.symm)]

theorem readableApart {cells : Cells} (distinct : Distinct cells) {fault : Fault}
    (readable : ∀ name ∈ s.columns, ∃ value, CellRead cells name (.ok value))
    (bad : FirstFault (CellRead cells) s.columns fault) : False := by
  obtain ⟨name, declared, unread⟩ := bad.found
  obtain ⟨value, good⟩ := readable name declared
  exact absurd (cellReadOnce distinct good unread) (by simp)

theorem rowReadOnce {cells : Cells} (distinct : Distinct cells) {a b : Except Fault (Row s)}
    (first : RowRead s cells a) (second : RowRead s cells b) : a = b := by
  cases first with
  | row each =>
    cases second with
    | row others =>
      refine congrArg Except.ok (Row.extColumns fun name declared => ?_)
      exact Except.ok.inj (cellReadOnce distinct (each name declared) (others name declared))
    | fault bad => exact (readableApart distinct (fun name declared => ⟨_, each name declared⟩) bad).elim
  | fault bad =>
    cases second with
    | row each => exact (readableApart distinct (fun name declared => ⟨_, each name declared⟩) bad).elim
    | fault other => exact congrArg Except.error (bad.once other fun _ _ _ _ => cellReadOnce distinct)

theorem rowsSingle {rows : List Cells} (distinct : ∀ cells ∈ rows, Distinct cells) : Single (RowRead s) rows :=
  fun cells member _ _ => rowReadOnce (distinct cells member)

theorem rowsReadOnce {rows : List Cells} (distinct : ∀ cells ∈ rows, Distinct cells)
    {a b : Except Fault (List (Row s))} (first : RowsRead s rows a) (second : RowsRead s rows b) : a = b := by
  have single := rowsSingle (s := s) distinct
  cases first with
  | rows each =>
    cases second with
    | rows others => exact congrArg Except.ok (eachOnce each others single)
    | fault bad => exact (bad.apart each single).elim
  | fault bad =>
    cases second with
    | rows each => exact (bad.apart each single).elim
    | fault other => exact congrArg Except.error (bad.once other single)

def Rearranged (s : Schema) : List Cells → List Cells → Prop :=
  List.Forall₂ fun cells others => ∃ extra, others.Perm (cells ++ extra) ∧ ∀ e ∈ extra, e.1.name ∉ s.columns

theorem cellRearranged {cells others extra : Cells} (order : others.Perm (cells ++ extra))
    (undeclared : ∀ e ∈ extra, e.1.name ∉ s.columns) {name : String} (declared : name ∈ s.columns)
    {outcome : Except Fault (Option String)} (read : CellRead cells name outcome) : CellRead others name outcome := by
  have kept {e : Column × Option Bytes} (member : e ∈ cells) : e ∈ others :=
    order.mem_iff.mpr (List.mem_append_left extra member)
  cases read with
  | missing absent =>
    refine .missing fun e member same => ?_
    rcases List.mem_append.mp (order.mem_iff.mp member) with old | new
    · exact absent e old same
    · exact undeclared e new (same ▸ declared)
  | null member named => exact .null (kept member) named
  | text member named type => exact .text (kept member) named type
  | otherType member named type => exact .otherType (kept member) named type
  | notText member named type unread => exact .notText (kept member) named type unread

theorem rowRearranged {cells others extra : Cells} (order : others.Perm (cells ++ extra))
    (undeclared : ∀ e ∈ extra, e.1.name ∉ s.columns) {outcome : Except Fault (Row s)}
    (read : RowRead s cells outcome) : RowRead s others outcome := by
  have each : ∀ name ∈ s.columns, ∀ o, CellRead cells name o → CellRead others name o := fun name declared _ =>
    cellRearranged order undeclared declared
  cases read with
  | row all => exact .row fun name declared => each name declared _ (all name declared)
  | fault first => exact .fault (first.mono (List.forall₂_same.mpr each))

theorem rowsRearranged {rows others : List Cells} (moved : Rearranged s rows others)
    {outcome : Except Fault (List (Row s))} (read : RowsRead s rows outcome) : RowsRead s others outcome := by
  have alike : List.Forall₂ (fun cells other => ∀ o, RowRead s cells o → RowRead s other o) rows others :=
    moved.imp fun _ _ ⟨_, order, undeclared⟩ _ => rowRearranged order undeclared
  cases read with
  | fault first => exact .fault (first.mono alike)
  | rows each =>
    refine .rows ?_
    induction each generalizing others with
    | nil =>
      cases moved
      exact .nil
    | cons good _ ih =>
      cases alike with
      | cons same rest =>
        cases moved with
        | cons _ later => exact .cons (same _ good) (ih later rest)

def Lists (s : Schema) (reply : Reply) (answer : Except Failure (List (Row s))) : Prop :=
  ∃ (σ : Type) (server : Server σ) (state : σ), (server.execute (select s) state).1 = .ok reply ∧
    ((Store.postgres s server).list state).1 = answer

def Saves (s : Schema) (reply : Reply) (answer : Except Failure (Row s)) : Prop :=
  ∃ (σ : Type) (server : Server σ) (state : σ) (fresh : String) (r : Row s),
    (server.execute (upsert (r.keyed fresh)) state).1 = .ok reply ∧
      ((Store.postgres s server).save fresh r state).1 = answer

structure Decoded (s : Schema) (rows : List Cells) (answer : Except Failure (List (Row s))) : Prop where
  readable : (∃ found, answer = .ok found) ↔
    ∀ cells ∈ rows, ∀ name ∈ s.columns, ∃ value, CellRead cells name (.ok value)
  values : ∀ found, answer = .ok found →
    List.Forall₂ (fun cells r => ∀ name ∈ s.columns, CellRead cells name (.ok (r.get? name))) rows found
  refused : ∀ failure, answer = .error failure ↔
    ∃ fault, FirstFault (RowRead s) rows fault ∧ failure = .storageUnavailable fault.message

structure DecodingLaw (s : Schema) (reply : Reply) : Prop where
  listed : ∀ answer, Lists s reply answer → Decoded s reply.cells answer
  saved : ∀ cells rest answer, reply.cells = cells :: rest → Saves s reply answer →
    Decoded s [cells] (answer.map fun r => [r])
  rowless : ∀ answer, reply.cells = [] → Saves s reply answer →
    answer = .error (.storageUnavailable Fault.rowNotFound.message)
  rearranged : ∀ other : Reply, other.Formed → Rearranged s reply.cells other.cells →
    (∀ a b, Lists s reply a → Lists s other b → a = b) ∧ ∀ a b, Saves s reply a → Saves s other b → a = b

theorem listsAll {reply : Reply} {answer : Except Failure (List (Row s))} (lists : Lists s reply answer) :
    answer = (reply.all s).mapError Fault.failure := by
  obtain ⟨σ, server, state, replies, rfl⟩ := lists
  simp only [Store.postgres, replies, answer]

theorem savesOne {reply : Reply} {answer : Except Failure (Row s)} (saves : Saves s reply answer) :
    answer = (reply.one s).mapError Fault.failure := by
  obtain ⟨σ, server, state, fresh, r, replies, rfl⟩ := saves
  simp only [Store.postgres, replies, answer]

theorem Reply.Formed.cellsDistinct {reply : Reply} (formed : reply.Formed) : ∀ cells ∈ reply.cells, Distinct cells := by
  intro cells member
  obtain ⟨row, stored, rfl⟩ := List.mem_map.mp member
  have columns : (reply.columns.zip row).map Prod.fst = reply.columns :=
    List.map_fst_zip (Nat.le_of_eq (formed.full row stored).symm)
  have names := formed.distinct
  rw [← columns, List.map_map] at names
  exact names

theorem rowsDecoded {rows : List Cells} (distinct : ∀ cells ∈ rows, Distinct cells)
    {outcome : Except Fault (List (Row s))} (read : RowsRead s rows outcome) :
    Decoded s rows (outcome.mapError Fault.failure) := by
  have single := rowsSingle (s := s) distinct
  have every {cells : Cells} {r : Row s} (read : RowRead s cells (.ok r)) :
      ∀ name ∈ s.columns, CellRead cells name (.ok (r.get? name)) := by
    cases read with
    | row each => exact each
  cases read with
  | @rows found each => exact {
      readable := by
        refine ⟨fun _ cells member name declared => ?_, fun _ => ⟨found, rfl⟩⟩
        obtain ⟨r, good⟩ := eachFound each cells member
        exact ⟨_, every good name declared⟩
      values := fun rs same => by
        cases same
        exact each.imp fun _ _ => every
      refused := fun failure => by
        refine ⟨fun same => absurd same (by simp [Except.mapError]), fun ⟨fault, first, _⟩ => ?_⟩
        exact (first.apart each single).elim }
  | @fault fault first => exact {
      readable := by
        refine ⟨fun ⟨_, same⟩ => absurd same (by simp [Except.mapError]), fun readable => ?_⟩
        obtain ⟨cells, member, bad⟩ := first.found
        cases bad with
        | fault unread => exact (readableApart (distinct cells member) (readable cells member) unread).elim
      values := fun _ same => absurd same (by simp [Except.mapError])
      refused := fun failure => by
        constructor
        · intro same
          exact ⟨fault, first, (Except.error.inj same).symm⟩
        · rintro ⟨other, second, rfl⟩
          rw [first.once second single]
          rfl }

theorem allRead {reply : Reply} (formed : reply.Formed) : RowsRead s reply.cells (reply.all s) :=
  rowsFromRead formed.full

theorem oneMissing {reply : Reply} (none : reply.cells = []) : reply.one s = .error .rowNotFound := by
  rw [Reply.one, List.map_eq_nil_iff.mp none]

theorem oneRead {reply : Reply} (formed : reply.Formed) {cells : Cells} {rest : List Cells}
    (front : reply.cells = cells :: rest) : RowRead s cells (reply.one s) := by
  obtain ⟨row, more, rows, rfl, _⟩ := List.map_eq_cons_iff.mp front
  rw [Reply.one, rows]
  exact rowRead (formed.full row (rows ▸ List.mem_cons_self))

theorem RowRead.alone {cells : Cells} {outcome : Except Fault (Row s)} (read : RowRead s cells outcome) :
    RowsRead s [cells] (outcome.map fun r => [r]) := by
  cases outcome with
  | ok r => exact .rows (.cons read .nil)
  | error fault => exact .fault (.here read)

theorem oneRearranged {reply other : Reply} (formed : reply.Formed) (otherFormed : other.Formed)
    (moved : Rearranged s reply.cells other.cells) : reply.one s = other.one s := by
  generalize rows : reply.cells = cells at moved
  generalize others : other.cells = moreCells at moved
  cases moved with
  | nil => rw [oneMissing rows, oneMissing others]
  | @cons first second _ _ same _ =>
    obtain ⟨extra, order, undeclared⟩ := same
    have distinct := otherFormed.cellsDistinct second (others ▸ List.mem_cons_self)
    exact rowReadOnce distinct (rowRearranged order undeclared (oneRead formed rows)) (oneRead otherFormed others)

theorem allRearranged {reply other : Reply} (formed : reply.Formed) (otherFormed : other.Formed)
    (moved : Rearranged s reply.cells other.cells) : reply.all s = other.all s :=
  rowsReadOnce otherFormed.cellsDistinct (rowsRearranged moved (allRead formed)) (allRead otherFormed)

theorem repliesDecoded {reply : Reply} (formed : reply.Formed) : DecodingLaw s reply where
  listed answer lists := by
    rw [listsAll lists]
    exact rowsDecoded formed.cellsDistinct (allRead formed)
  saved cells rest answer front saves := by
    have distinct : ∀ other ∈ [cells], Distinct other := by
      rw [List.forall_mem_singleton]
      exact formed.cellsDistinct cells (front ▸ List.mem_cons_self)
    have read : RowRead s cells (reply.one s) := oneRead formed front
    have decoded := rowsDecoded distinct read.alone
    rw [savesOne saves]
    generalize reply.one s = outcome at decoded
    cases outcome <;> exact decoded
  rowless answer none saves := by
    rw [savesOne saves, oneMissing none]
    rfl
  rearranged other otherFormed moved := by
    refine ⟨fun a b first second => ?_, fun a b first second => ?_⟩
    · rw [listsAll first, listsAll second, allRearranged formed otherFormed moved]
    · rw [savesOne first, savesOne second, oneRearranged formed otherFormed moved]

def supplierReply : Reply where
  columns := [⟨"rank", ⟨"INT4"⟩⟩, ⟨"supplier_name", ⟨"TEXT"⟩⟩, ⟨"contact_email", ⟨"VARCHAR"⟩⟩]
  rows := [[some (bytesOf "7"), none, some (bytesOf "a@x")],
    [none, some [0x41, 0xFF], some (bytesOf "b@x")], [none, none, some [0xC3]]]

def replying (reply : Reply) : Server Unit where
  execute := fun _ state => (.ok reply, state)

theorem repliesDecodedSupplier :
    supplierReply.Formed ∧ ∃ answer, Lists Entity.supplier.schema supplierReply answer ∧
      Decoded Entity.supplier.schema supplierReply.cells answer ∧
      answer = .error (.storageUnavailable
        "error occurred while decoding column \"supplier_name\": invalid utf-8 sequence of 1 bytes from index 1") := by
  have formed : supplierReply.Formed := ⟨by decide, by decide⟩
  have lists : Lists Entity.supplier.schema supplierReply _ := ⟨Unit, replying supplierReply, (), rfl, rfl⟩
  exact ⟨formed, _, lists, (repliesDecoded formed).listed _ lists, by decide +kernel⟩

end Storefront.Sql
