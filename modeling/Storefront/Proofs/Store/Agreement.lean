import Storefront.Proofs.Sql.Reply

/-! The database store and the memory store answer alike, whatever is saved in them. -/
namespace Storefront

variable {s : Schema} {σ : Type}

def Store.saveAll (store : Store s σ) : List (String × Row s) → σ → List (Except Failure (Row s)) × σ
  | [], state => ([], state)
  | (fresh, r) :: rest, state =>
    let (saved, state) := store.save fresh r state
    let (others, state) := store.saveAll rest state
    (saved :: others, state)

namespace Sql

section
variable {server : Server σ} {contents : σ → List Tuple} (plain : Plain s) (executes : Executes server s contents)
include plain executes

theorem saveAgrees {state : σ} {t : Table s} (aligned : Aligned (contents state) t) (fresh : String) (r : Row s) :
    ((Store.postgres s server).save fresh r state).1 = ((Store.memory s).save fresh r t).1 ∧
      Aligned (contents ((Store.postgres s server).save fresh r state).2) ((Store.memory s).save fresh r t).2 := by
  have has : (r.keyed fresh).key? = some (Table.keyFor r fresh) := Row.keyKeyed r fresh
  have asks := upsertAsks plain aligned has
  obtain ⟨returned, next⟩ := runUpsert aligned has
  obtain ⟨reply, ok, shown⟩ := executes.replies _ _ state asks
  have stored := executes.stores _ _ state asks
  rw [returned] at shown
  refine ⟨?_, next.keyed, stored.trans next.rows⟩
  have one : reply.one s = .ok (r.keyed fresh) := by
    rw [oneShown shown, tupleRowGet]
  simp only [Store.postgres, ok, answer, one]
  rfl

theorem saveAllAgrees (saves : List (String × Row s)) {state : σ} {t : Table s} (aligned : Aligned (contents state) t) :
    ((Store.postgres s server).saveAll saves state).1 = ((Store.memory s).saveAll saves t).1 ∧
      Aligned (contents ((Store.postgres s server).saveAll saves state).2) ((Store.memory s).saveAll saves t).2 := by
  induction saves generalizing state t with
  | nil => exact ⟨rfl, aligned⟩
  | cons e rest ih =>
    obtain ⟨fresh, r⟩ := e
    obtain ⟨same, next⟩ := saveAgrees plain executes aligned fresh r
    obtain ⟨others, final⟩ := ih next
    exact ⟨by simp only [Store.saveAll, same, others], final⟩

theorem listAgrees {state : σ} {t : Table s} (aligned : Aligned (contents state) t) :
    ∃ rows, ((Store.postgres s server).list state).1 = .ok rows ∧ rows.Perm t.rows := by
  obtain ⟨reply, ok, shown⟩ := executes.replies _ _ state (selectAsks plain aligned)
  obtain ⟨rows, all, order⟩ := allShown (s := s) shown
  refine ⟨rows, ?_, order.trans ((aligned.rows.map _).trans (List.Perm.of_eq ?_))⟩
  · simp only [Store.postgres, ok, answer, all]
    rfl
  · rw [List.map_map]
    exact (List.map_congr_left fun r _ => tupleRowGet r).trans (List.map_id _)

end

/-- On a server with an empty table, every save answers what it would answer in memory, and the
rows listed after any saves are those in memory, up to their order. -/
theorem storesAgree {e : Entity} {server : Server σ} {contents : σ → List Tuple}
    (executes : Executes server e.schema contents) {state : σ} (unused : contents state = [])
    (saves : List (String × Row e.schema)) :
    ((Store.postgres _ server).saveAll saves state).1 = ((Store.memory _).saveAll saves Ordered.empty).1 ∧
    ∃ rows kept, ((Store.postgres _ server).list ((Store.postgres _ server).saveAll saves state).2).1 = .ok rows ∧
      ((Store.memory _).list ((Store.memory _).saveAll saves Ordered.empty).2).1 = .ok kept ∧ rows.Perm kept := by
  have start : Aligned (contents state) (Ordered.empty : Table e.schema) := ⟨Table.keyedEmpty, by rw [unused]; rfl⟩
  obtain ⟨same, final⟩ := saveAllAgrees (entityPlain e) executes saves start
  obtain ⟨rows, listed, order⟩ := listAgrees (entityPlain e) executes final
  exact ⟨same, rows, _, listed, rfl, order⟩

def supplierSaves : List (String × Row Entity.supplier.schema) :=
  let row := Row.ofFields Entity.supplier.schema
  [("k1", row [("contact_email", some "a@x"), ("supplier_name", some "A")]),
    ("k2", row [("supplier_name", some "B")]), ("k3", row [("contact_email", some "a@x")])]

theorem storesAgreeSuppliers :
    let server := tableServer Entity.supplier.schema
    let unused := PrimaryTable.empty Entity.supplier.schema
    Executes server Entity.supplier.schema PrimaryTable.tuples ∧ unused.tuples = [] ∧
    ((Store.postgres _ server).saveAll supplierSaves unused).1 =
      ((Store.memory _).saveAll supplierSaves Ordered.empty).1 ∧
    ∃ rows kept,
      ((Store.postgres _ server).list ((Store.postgres _ server).saveAll supplierSaves unused).2).1 = .ok rows ∧
      ((Store.memory _).list ((Store.memory _).saveAll supplierSaves Ordered.empty).2).1 = .ok kept ∧
      rows.Perm kept :=
  have executes := tableExecutes Entity.supplier.schema
  ⟨executes, rfl, storesAgree executes rfl supplierSaves⟩

end Sql

end Storefront
