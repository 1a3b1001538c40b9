import Storefront.Proofs.Row
import Storefront.Proofs.Sql.Grammar
import Storefront.Store.Postgres

/-! What a store asks of its server. The text of a statement names the columns that it reads and
writes, in their order, and saving a row sends one statement, with the value of each column under
the number that the text has for it. -/
namespace Storefront.Sql

variable {s : Schema}

def Server.recorded {σ : Type} (server : Server σ) : Server (σ × List Statement) where
  execute := fun statement (state, log) =>
    let (reply, next) := server.execute statement state
    (reply, next, log ++ [statement])

def Plain (s : Schema) : Prop := ∀ name ∈ s.table :: s.columns, Unquoted name

instance (s : Schema) : Decidable (Plain s) :=
  inferInstanceAs (Decidable (∀ name ∈ s.table :: s.columns, '"' ∉ name.toList))

theorem entityPlain (e : Entity) : Plain e.schema := by
  cases e <;> decide

theorem columnsListed (s : Schema) : s.columns ≠ [] := List.ne_nil_of_mem s.keyed

theorem selectReadable (plain : Plain s) : (selectCommand s).Readable := ⟨columnsListed s, plain⟩

theorem upsertReadable (plain : Plain s) : (upsertCommand s).Readable := by
  have columns := columnsListed s
  have several : s.columns.length ≠ 0 := fun none => columns (List.length_eq_zero_iff.mp none)
  have names : ∀ c ∈ s.columns, Unquoted c := fun c member => plain c (List.mem_cons_of_mem s.table member)
  refine ⟨columns, by simpa using several, by simpa using columns, columns, ?_, ?_⟩
  · intro name member
    have kinds : name = s.table ∨ name = s.key ∨ name ∈ s.columns := by simpa using member
    obtain rfl | rfl | listed := kinds
    · exact plain s.table List.mem_cons_self
    · exact names s.key s.keyed
    · exact names name listed
  · intro a member
    obtain ⟨c, listed, rfl⟩ := List.mem_map.mp member
    exact ⟨names c listed, names c listed⟩

def savedValue (r : Row s) (fresh : String) (name : String) : Option String :=
  if name = s.key then some (r.key?.getD fresh) else r.get? name

theorem keyedValue (r : Row s) (fresh : String) (name : String) :
    (r.keyed fresh).get? name = savedValue r fresh name := by
  by_cases key : name = s.key
  · subst key
    rw [savedValue, if_pos rfl]
    exact r.keyKeyed fresh
  · rw [savedValue, if_neg key]
    exact r.getKeyed fresh key

structure Upserts (r : Row s) (fresh : String) (statement : Statement) : Prop where
  text : statement.text = (upsertCommand s).text
  parameters : statement.parameters.length = s.columns.length
  each : ∀ (i : Nat) (name : String), s.columns[i]? = some name → statement.parameters[i]? = some (savedValue r fresh name)

theorem upserts (r : Row s) (fresh : String) : Upserts r fresh (upsert (r.keyed fresh)) where
  text := rfl
  parameters := List.length_map _
  each := by
    intro i name place
    rw [upsert, List.getElem?_map, place, Option.map_some, keyedValue]

structure StatementLaw (s : Schema) : Prop where
  upsert : Plain s → Command.read? (upsertCommand s).text =
    some (.upsert s.table s.columns ((List.range s.columns.length).map (· + 1)) s.key
      (s.columns.map fun c => (c, c)) s.columns)
  select : Plain s → Command.read? (selectCommand s).text = some (.select s.columns s.table)
  save : ∀ {σ : Type} (server : Server σ) (fresh : String) (r : Row s) (state : σ) (log : List Statement),
    ∃ statement, Upserts r fresh statement ∧
      (Store.postgres s server.recorded).save fresh r (state, log) =
        let (answer, next) := (Store.postgres s server).save fresh r state
        (answer, next, log ++ [statement])

theorem statementsMean (s : Schema) : StatementLaw s where
  upsert plain := commandRead (upsertReadable plain)
  select plain := commandRead (selectReadable plain)
  save _ fresh r _ _ := ⟨_, upserts r fresh, rfl⟩

theorem statementsMeanAuditLog : Plain Entity.auditLog.schema ∧
    Command.read? (upsertCommand Entity.auditLog.schema).text =
      some (.upsert "audit_logs" ["operation", "record_id", "table_name", "timestamp", "user_id"]
        [1, 2, 3, 4, 5] "record_id"
        [("operation", "operation"), ("record_id", "record_id"), ("table_name", "table_name"),
          ("timestamp", "timestamp"), ("user_id", "user_id")]
        ["operation", "record_id", "table_name", "timestamp", "user_id"]) :=
  ⟨entityPlain .auditLog, (statementsMean Entity.auditLog.schema).upsert (entityPlain .auditLog)⟩

end Storefront.Sql
