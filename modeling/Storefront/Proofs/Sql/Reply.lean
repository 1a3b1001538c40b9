import Storefront.Proofs.Sql.Command
import Storefront.Proofs.Text.Utf8

/-! Reading a reply that shows rows of a table gives these rows. -/
namespace Storefront.Sql

variable {s : Schema}

theorem columnFound {reply : Reply} {name : String} {i : Nat} {column : Column}
    (found : reply.column? name = some (i, column)) : reply.columns[i]? = some column ∧ column.name = name := by
  have same := List.find?_some found
  obtain ⟨⟨c, j⟩, member, swapped⟩ := List.mem_map.mp (List.mem_reverse.mp (List.mem_of_find?_eq_some found))
  cases swapped
  exact ⟨List.mem_zipIdx_iff_getElem?.mp member, of_decide_eq_true same⟩

theorem columnMissing {reply : Reply} {name : String} (none : reply.column? name = none) :
    ∀ column ∈ reply.columns, column.name ≠ name := by
  intro column member same
  obtain ⟨i, inside, rfl⟩ := List.mem_iff_getElem.mp member
  have listed : (i, reply.columns[i]) ∈ (reply.columns.zipIdx.map Prod.swap).reverse := by
    rw [List.mem_reverse]
    have place : (reply.columns[i], i) ∈ reply.columns.zipIdx :=
      List.mem_zipIdx_iff_getElem?.mpr (List.getElem?_eq_getElem inside)
    exact List.mem_map.mpr ⟨_, place, rfl⟩
  exact List.find?_eq_none.mp none _ listed (decide_eq_true same)

theorem columnNamed {reply : Reply} (distinct : (reply.columns.map Column.name).Nodup) {i : Nat}
    (inside : i < reply.columns.length) :
    reply.column? reply.columns[i].name = some (i, reply.columns[i]) := by
  cases found : reply.column? reply.columns[i].name with
  | none => exact absurd rfl (columnMissing found _ (List.getElem_mem inside))
  | some place =>
    obtain ⟨j, column⟩ := place
    obtain ⟨here, named⟩ := columnFound found
    obtain ⟨within, rfl⟩ := List.getElem?_eq_some_iff.mp here
    have same := List.inj_on_of_nodup_map distinct (List.getElem_mem within) (List.getElem_mem inside) named
    obtain rfl : j = i := (List.Nodup.getElem_inj_iff (List.Nodup.of_map _ distinct)).mp same
    rfl

def tupleRow (s : Schema) (tuple : Tuple) : Row s := s.columns.foldl (fun r c => r.set c (tuple c)) (Row.empty s)

theorem tupleRowGet (r : Row s) : tupleRow s r.get? = r :=
  Row.extColumns fun name declared => by
    rw [tupleRow, Row.getWritten _ _ (fun _ member => member), if_pos declared]

section Shown
variable {reply : Reply} {columns : List String} (names : reply.columns.map Column.name = columns)
  (texts : ∀ column ∈ reply.columns, column.type.isText = true) (distinct : columns.Nodup)
include names texts distinct

theorem cellShown (tuple : Tuple) {name : String} (listed : name ∈ columns) :
    reply.cell (columns.map fun c => (tuple c).map bytesOf) name = .ok (tuple name) := by
  subst names
  obtain ⟨i, inside, rfl⟩ := List.mem_iff_getElem.mp listed
  have within : i < reply.columns.length := by simpa using inside
  have column := columnNamed distinct within
  rw [Reply.cell, List.getElem_map, column]
  dsimp only
  rw [List.getElem?_map, List.getElem?_eq_getElem inside, List.getElem_map]
  cases value : tuple reply.columns[i].name with
  | none => simp only [Option.map_some, value, Option.map_none, Option.join_some]
  | some text =>
    have type := texts _ (List.getElem_mem within)
    have decoded := Text.Utf8.decodeEncode text.toList
    simp only [Option.map_some, value, Option.join_some, type, if_true, bytesOf, decoded, String.ofList_toList]

theorem rowFromShown (tuple : Tuple) {wanted : List String} (listed : ∀ name ∈ wanted, name ∈ columns) (r : Row s) :
    reply.rowFrom s (columns.map fun c => (tuple c).map bytesOf) wanted r =
      .ok (wanted.foldl (fun r c => r.set c (tuple c)) r) := by
  induction wanted generalizing r with
  | nil => rfl
  | cons name rest ih =>
    rw [Reply.rowFrom, cellShown names texts distinct tuple (listed name List.mem_cons_self)]
    exact ih (fun c member => listed c (List.mem_cons_of_mem name member)) _

end Shown

theorem rowsShown {reply : Reply} (names : reply.columns.map Column.name = s.columns)
    (texts : ∀ column ∈ reply.columns, column.type.isText = true) (tuples : List Tuple) :
    reply.rowsFrom s (tuples.map fun tuple => s.columns.map fun c => (tuple c).map bytesOf) =
      .ok (tuples.map (tupleRow s)) := by
  induction tuples with
  | nil => rfl
  | cons tuple rest ih =>
    rw [List.map_cons, Reply.rowsFrom, Reply.row, rowFromShown names texts s.distinct tuple (fun _ member => member), ih]
    rfl

theorem allShown {reply : Reply} {tuples : List Tuple} (shows : reply.Shows s.columns tuples) :
    ∃ rows, reply.all s = .ok rows ∧ rows.Perm (tuples.map (tupleRow s)) := by
  obtain ⟨listed, order, rows⟩ := shows.rows
  refine ⟨listed.map (tupleRow s), ?_, order.map _⟩
  rw [Reply.all, rows, rowsShown shows.names shows.texts]

theorem oneShown {reply : Reply} {tuple : Tuple} (shows : reply.Shows s.columns [tuple]) :
    reply.one s = .ok (tupleRow s tuple) := by
  obtain ⟨listed, order, rows⟩ := shows.rows
  rw [List.perm_singleton.mp order] at rows
  rw [Reply.one, rows]
  exact rowFromShown shows.names shows.texts s.distinct tuple (fun _ member => member) (Row.empty s)

end Storefront.Sql
