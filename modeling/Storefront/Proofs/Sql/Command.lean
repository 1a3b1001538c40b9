import Storefront.Proofs.Sql.Statement
import Storefront.Proofs.Store.Memory

/-! What statements do to a table, whose server has nothing but their texts and parameters. The
table has the columns of a schema, each for text or null, and the schema's key as its primary
key; the order of its rows means nothing. -/
namespace Storefront.Sql

variable {s : Schema} {σ : Type}

abbrev Tuple := String → Option String

/-- The row that an upsert proposes: each listed column has the parameter whose number stands
in the same place. -/
def proposed (columns : List String) (values : List Nat) (parameters : List (Option String)) : Tuple :=
  fun c => ((columns.zip values).lookup c).bind fun n => parameters[n - 1]?.join

def assigned (assignments : List (String × String)) (new old : Tuple) : Tuple := fun c =>
  match assignments.lookup c with
  | some source => new source
  | none => old c

def Command.run (command : Command) (parameters : List (Option String)) (contents : List Tuple) :
    List Tuple × List Tuple :=
  match command with
  | .select _ _ => (contents, contents)
  | .upsert _ columns values key assignments _ =>
    let new := proposed columns values parameters
    match contents.find? fun old => old key = new key with
    | none => ([new], contents ++ [new])
    | some old =>
      ([assigned assignments new old],
        contents.map fun old => if old key = new key then assigned assignments new old else old)

def Command.returned : Command → List String
  | .select columns _ => columns
  | .upsert _ _ _ _ _ returning => returning

/-- Whether a command is one for the table: it names the table and columns of it, has a number for
each column and a parameter for each number, and looks for clashes in the primary key. -/
def Command.Fits (s : Schema) (command : Command) (parameters : List (Option String)) : Prop :=
  match command with
  | .select columns table => table = s.table ∧ (∀ c ∈ columns, c ∈ s.columns) ∧ parameters = []
  | .upsert table columns values key assignments returning =>
    table = s.table ∧ columns.Nodup ∧ (∀ c ∈ columns, c ∈ s.columns) ∧ values.length = columns.length ∧
      (∀ n ∈ values, 1 ≤ n ∧ n ≤ parameters.length) ∧ (∀ n < parameters.length, n + 1 ∈ values) ∧
      key = s.key ∧ (assignments.map Prod.fst).Nodup ∧
      (∀ a ∈ assignments, a.1 ∈ s.columns ∧ a.2 ∈ s.columns) ∧ ∀ c ∈ returning, c ∈ s.columns

instance (command : Command) (parameters : List (Option String)) : Decidable (command.Fits s parameters) :=
  match command with
  | .select _ _ => inferInstanceAs (Decidable (_ ∧ _ ∧ _))
  | .upsert .. => inferInstanceAs (Decidable (_ ∧ _ ∧ _ ∧ _ ∧ _ ∧ _ ∧ _ ∧ _ ∧ _ ∧ _))

structure Primary (s : Schema) (contents : List Tuple) : Prop where
  present : ∀ tuple ∈ contents, (tuple s.key).isSome
  distinct : (contents.map fun tuple => tuple s.key).Nodup

instance (contents : List Tuple) : Decidable (Primary s contents) :=
  decidable_of_iff ((∀ tuple ∈ contents, (tuple s.key).isSome) ∧ (contents.map fun tuple => tuple s.key).Nodup)
    ⟨fun both => ⟨both.1, both.2⟩, fun primary => ⟨primary.present, primary.distinct⟩⟩

/-- The statement, as it is read, asks for a command that the table can carry out. -/
structure Asks (s : Schema) (contents : List Tuple) (statement : Statement) (command : Command) : Prop where
  read : Command.read? statement.text = some command
  fits : command.Fits s statement.parameters
  keeps : Primary s (command.run statement.parameters contents).2

/-- A reply with these columns, in this order, and these rows in any order: the columns are
of text, and a text is its bytes. -/
structure Reply.Shows (reply : Reply) (columns : List String) (rows : List Tuple) : Prop where
  names : reply.columns.map Column.name = columns
  texts : ∀ column ∈ reply.columns, column.type.isText = true
  rows : ∃ listed : List Tuple, listed.Perm rows ∧
    reply.rows = listed.map fun tuple => columns.map fun c => (tuple c).map bytesOf

/-- A server that executes statements as they are written. `contents` gives the rows of the table
in a state of the server. -/
structure Executes (server : Server σ) (s : Schema) (contents : σ → List Tuple) : Prop where
  replies : ∀ statement command state, Asks s (contents state) statement command →
    ∃ reply, (server.execute statement state).1 = .ok reply ∧
      reply.Shows command.returned (command.run statement.parameters (contents state)).1
  stores : ∀ statement command state, Asks s (contents state) statement command →
    (contents (server.execute statement state).2).Perm (command.run statement.parameters (contents state)).2

structure PrimaryTable (s : Schema) where
  tuples : List Tuple
  primary : Primary s tuples

def PrimaryTable.empty (s : Schema) : PrimaryTable s := ⟨[], ⟨nofun, List.nodup_nil⟩⟩

def shown (columns : List String) (rows : List Tuple) : Reply :=
  ⟨columns.map fun c => ⟨c, ⟨"TEXT"⟩⟩, rows.map fun tuple => columns.map fun c => (tuple c).map bytesOf⟩

theorem shownShows (columns : List String) (rows : List Tuple) : (shown columns rows).Shows columns rows where
  names := by
    rw [shown, List.map_map]
    exact List.map_id columns
  texts := by
    intro column member
    obtain ⟨c, _, rfl⟩ := List.mem_map.mp member
    rfl
  rows := ⟨rows, List.Perm.refl _, rfl⟩

/-- A server with one table, which it keeps a primary key of: it refuses what it cannot read, what
does not fit the table and what would leave two rows with one key or a row without. -/
def tableServer (s : Schema) : Server (PrimaryTable s) where
  execute := fun statement table =>
    match Command.read? statement.text with
    | none => (.error (.database "syntax error"), table)
    | some command =>
      if command.Fits s statement.parameters then
        let (returned, contents) := command.run statement.parameters table.tuples
        if keeps : Primary s contents then (.ok (shown command.returned returned), ⟨contents, keeps⟩)
        else (.error (.database "constraint violated"), table)
      else (.error (.database "statement refused"), table)

theorem tableAnswers {statement : Statement} {command : Command} {table : PrimaryTable s}
    (asks : Asks s table.tuples statement command) :
    (tableServer s).execute statement table =
      (.ok (shown command.returned (command.run statement.parameters table.tuples).1),
        ⟨(command.run statement.parameters table.tuples).2, asks.keeps⟩) := by
  simp only [tableServer, asks.read, if_pos asks.fits, dif_pos asks.keeps]

theorem tableExecutes (s : Schema) : Executes (tableServer s) s PrimaryTable.tuples where
  replies statement command table asks := by
    rw [tableAnswers asks]
    exact ⟨_, rfl, shownShows _ _⟩
  stores statement command table asks := by
    rw [tableAnswers asks]

theorem numberedNames (s : Schema) :
    (s.columns.zip ((List.range s.columns.length).map (· + 1))).map Prod.fst = s.columns :=
  List.map_fst_zip (by simp)

theorem assignedNames (s : Schema) : (s.columns.map fun c => (c, c)).map Prod.fst = s.columns := by
  rw [List.map_map]
  exact List.map_id s.columns

theorem proposedUpsert (r : Row s) :
    proposed s.columns ((List.range s.columns.length).map (· + 1)) (s.columns.map r.get?) = r.get? := by
  have names := numberedNames s
  funext c
  unfold proposed
  by_cases declared : c ∈ s.columns
  · obtain ⟨i, inside, rfl⟩ := List.mem_iff_getElem.mp declared
    have number : (s.columns.zip ((List.range s.columns.length).map (· + 1))).lookup s.columns[i] = some (i + 1) := by
      rw [Ordered.lookupMember (names.symm ▸ s.distinct)]
      exact List.mem_iff_getElem.mpr ⟨i, by simp [inside], by simp⟩
    rw [number, Option.bind_some, Nat.add_sub_cancel, List.getElem?_map, List.getElem?_eq_getElem inside]
    rfl
  · rw [Ordered.lookupAbsent (names.symm ▸ declared), Row.getUndeclared r declared]
    rfl

/-- Every column is assigned, so nothing of the row before remains. -/
theorem assignedUpsert (r old : Row s) : assigned (s.columns.map fun c => (c, c)) r.get? old.get? = r.get? := by
  have names := assignedNames s
  funext c
  unfold assigned
  by_cases declared : c ∈ s.columns
  · have source : (s.columns.map fun c => (c, c)).lookup c = some c := by
      rw [Ordered.lookupMember (names.symm ▸ s.distinct)]
      exact List.mem_map.mpr ⟨c, declared, rfl⟩
    rw [source]
  · rw [Ordered.lookupAbsent (names.symm ▸ declared), Row.getUndeclared r declared, Row.getUndeclared old declared]

theorem upsertFits (r : Row s) : (upsertCommand s).Fits s (upsert r).parameters := by
  refine ⟨rfl, s.distinct, fun _ member => member, by simp, ?_, ?_, rfl, ?_, ?_, fun _ member => member⟩
  · intro n member
    obtain ⟨i, inside, rfl⟩ := List.mem_map.mp member
    have bound := List.mem_range.mp inside
    rw [upsert, List.length_map]
    omega
  · intro n inside
    rw [upsert, List.length_map] at inside
    exact List.mem_map.mpr ⟨n, List.mem_range.mpr inside, rfl⟩
  · rw [assignedNames]
    exact s.distinct
  · intro a member
    obtain ⟨c, declared, rfl⟩ := List.mem_map.mp member
    exact ⟨declared, declared⟩

theorem selectFits (s : Schema) : (selectCommand s).Fits s (select s).parameters :=
  ⟨rfl, fun _ member => member, rfl⟩

structure Aligned (contents : List Tuple) (t : Table s) : Prop where
  keyed : t.Keyed
  rows : contents.Perm (t.rows.map Row.get?)

theorem Aligned.member {contents : List Tuple} {t : Table s} (aligned : Aligned contents t) {old : Tuple}
    (found : old ∈ contents) : ∃ e ∈ t.entries, old = e.2.get? ∧ old s.key = some e.1 := by
  obtain ⟨r, stored, rfl⟩ := List.mem_map.mp (aligned.rows.mem_iff.mp found)
  obtain ⟨e, inside, rfl⟩ := List.mem_map.mp stored
  exact ⟨e, inside, rfl, aligned.keyed e inside⟩

theorem Aligned.primary {contents : List Tuple} {t : Table s} (aligned : Aligned contents t) :
    Primary s contents where
  present := by
    intro tuple stored
    obtain ⟨e, _, rfl, own⟩ := aligned.member stored
    rw [own]
    rfl
  distinct := by
    have keys : (t.rows.map Row.get?).map (fun tuple => tuple s.key) = t.keys.map some := by
      simp only [Table.rows, Ordered.values, Ordered.keys, List.map_map]
      exact List.map_congr_left aligned.keyed
    rw [(aligned.rows.map _).nodup_iff, keys]
    exact t.distinct.map fun _ _ => Option.some.inj

theorem runUpsert {contents : List Tuple} {t : Table s} (aligned : Aligned contents t) {r : Row s} {key : String}
    (has : r.key? = some key) :
    ((upsertCommand s).run (upsert r).parameters contents).1 = [r.get?] ∧
      Aligned ((upsertCommand s).run (upsert r).parameters contents).2 (t.insert key r) := by
  have keyed := Table.keyedInsert aligned.keyed has
  have own : r.get? s.key = some key := has
  simp only [Command.run, upsert, upsertCommand, proposedUpsert]
  cases clash : contents.find? fun old => old s.key = r.get? s.key with
  | none =>
    have absent : key ∉ t.keys := by
      intro present
      obtain ⟨e, inside, rfl⟩ := List.mem_map.mp present
      have stored : e.2.get? ∈ contents :=
        aligned.rows.mem_iff.mpr (List.mem_map_of_mem (List.mem_map_of_mem inside))
      have apart := List.find?_eq_none.mp clash _ stored
      have its : e.2.get? s.key = some e.1 := aligned.keyed e inside
      rw [own, its] at apart
      exact apart (decide_eq_true rfl)
    refine ⟨rfl, keyed, ?_⟩
    rw [Table.rows, Ordered.values, Ordered.insertAbsent t key r absent, List.map_append, List.map_append]
    exact aligned.rows.append_right _
  | some old =>
    obtain ⟨e, inside, rfl, its⟩ := aligned.member (List.mem_of_find?_eq_some clash)
    have here := List.find?_some clash
    rw [own, its] at here
    have present : key ∈ t.keys := by
      obtain rfl : e.1 = key := by simpa using here
      exact List.mem_map_of_mem inside
    dsimp only
    refine ⟨by rw [assignedUpsert], keyed, (aligned.rows.map _).trans (List.Perm.of_eq ?_)⟩
    rw [Table.rows, Table.rows, Ordered.values, Ordered.values, Ordered.insertPresent t key r present]
    simp only [List.map_map]
    refine List.map_congr_left fun f member => ?_
    have stored : f.2.get? s.key = some f.1 := aligned.keyed f member
    simp only [Function.comp_apply, own, stored, assignedUpsert, Option.some.injEq]
    split <;> rfl

theorem upsertAsks (plain : Plain s) {contents : List Tuple} {t : Table s} (aligned : Aligned contents t) {r : Row s}
    {key : String} (has : r.key? = some key) : Asks s contents (upsert r) (upsertCommand s) where
  read := commandRead (upsertReadable plain)
  fits := upsertFits r
  keeps := (runUpsert aligned has).2.primary

theorem selectAsks (plain : Plain s) {contents : List Tuple} {t : Table s} (aligned : Aligned contents t) :
    Asks s contents (select s) (selectCommand s) where
  read := commandRead (selectReadable plain)
  fits := selectFits s
  keeps := aligned.primary

end Storefront.Sql
