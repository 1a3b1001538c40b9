import Mathlib.Logic.Function.Basic
import Mathlib.Logic.Relation
import Storefront.Proofs.Store.Submission
import Storefront.Service.Operation

/-! Clients that create rows at the same time. A create calls the store once, so that the calls of
all clients come one after the other, in any order that keeps each client's own. Clients that use
different keys get the answers and the rows that they would get alone. -/
namespace Storefront

variable {s : Schema} {σ ι : Type}

def Submission.create (e : Submission) (store : Store s σ) (state : σ) : Except Failure Record × σ :=
  (Operation.createTask e.record).run store e.fresh state

namespace Clients

def createAll (store : Store s σ) : List Submission → σ → List (Except Failure Record) × σ
  | [], state => ([], state)
  | e :: rest, state =>
    let (answer, state) := e.create store state
    let (answers, state) := createAll store rest state
    (answer :: answers, state)

structure Shop (s : Schema) (ι : Type) where
  waiting : ι → List Submission
  answers : ι → List (Except Failure Record)
  table : Table s

def opened (clients : ι → List Submission) (start : Table s) : Shop s ι := ⟨clients, fun _ => [], start⟩

inductive Turn [DecidableEq ι] : Shop s ι → Shop s ι → Prop where
  | create {w : Shop s ι} (client : ι) {e : Submission} {rest : List Submission}
      (next : w.waiting client = e :: rest) :
      Turn w {
        waiting := Function.update w.waiting client rest
        answers := Function.update w.answers client
          (w.answers client ++ [(e.create (Store.memory s) w.table).1])
        table := (e.create (Store.memory s) w.table).2 }

/-- No key of one client is a key of another or in the table at the start. -/
structure Apart (clients : ι → List Submission) (start : Table s) : Prop where
  disjoint : ∀ c d, c ≠ d → ∀ x ∈ clients c, ∀ y ∈ clients d, x.key s ≠ y.key s
  unused : ∀ c, ∀ x ∈ clients c, x.key s ∉ start.keys

def keys (s : Schema) (es : List Submission) : List String := es.map (Submission.key s)

/-- How things stand when each client has made the creates `made` of it: the answers are those
that it would have got alone, the rows at the start are followed by rows of clients, those of one
client are what it would have added alone, and each of its keys has the row of its last create. -/
structure Undisturbed (start : Table s) (made : ι → List Submission) (w : Shop s ι) : Prop where
  answers : ∀ c, w.answers c = (createAll (Store.memory s) (made c) start).1
  created : ∀ c, ∀ answer ∈ w.answers c, ∃ record, answer = .ok record
  rows : ∃ added, w.table.entries = start.entries ++ added ∧
    (∀ e ∈ added, ∃ c, e.1 ∈ keys s (made c)) ∧
    ∀ c, (createAll (Store.memory s) (made c) start).2.entries =
      start.entries ++ added.filter fun e => e.1 ∈ keys s (made c)
  own : ∀ c, w.table.restrict (fun key => key ∈ keys s (made c)) =
    (createAll (Store.memory s) (made c) start).2.restrict fun key => key ∈ keys s (made c)
  latest : ∀ c, ∀ key ∈ keys s (made c), ∃ e, Submission.last? s key (made c) = some e ∧
    w.table.get? key = some (e.row s)

theorem created (e : Submission) (t : Table s) :
    e.create (Store.memory s) t = (.ok (e.row s).toRecord, t.insert (e.key s) (e.row s)) := by
  have saved := e.saved s t
  simp only [Submission.create, Operation.createTask, Task.run, Store.memory, saved]
  rfl

theorem allCreated (es : List Submission) (t : Table s) :
    createAll (Store.memory s) es t =
      (es.map fun e => .ok (e.row s).toRecord, t.insertAll (es.map (Submission.keyedRow s))) := by
  induction es generalizing t with
  | nil => rfl
  | cons e rest ih =>
    simp only [createAll, created, ih]
    rfl

section Turns
variable [DecidableEq ι]

def ofClient (c : ι) (log : List (ι × Submission)) : List Submission :=
  (log.filter fun e => e.1 = c).map Prod.snd

theorem ofClientSnoc (c d : ι) (log : List (ι × Submission)) (e : Submission) :
    ofClient c (log ++ [(d, e)]) = if d = c then ofClient c log ++ [e] else ofClient c log := by
  by_cases same : d = c <;> simp [ofClient, same]

theorem ofClientMember {c : ι} {log : List (ι × Submission)} {e : Submission} :
    e ∈ ofClient c log ↔ (c, e) ∈ log := by
  simp [ofClient]

structure Explains (clients : ι → List Submission) (start : Table s) (log : List (ι × Submission))
    (w : Shop s ι) : Prop where
  split : ∀ c, clients c = ofClient c log ++ w.waiting c
  answers : ∀ c, w.answers c = (ofClient c log).map fun e => .ok (e.row s).toRecord
  table : w.table = start.insertAll (log.map fun e => e.2.keyedRow s)

theorem explainsOpened (clients : ι → List Submission) (start : Table s) :
    Explains clients start [] (opened clients start) where
  split _ := rfl
  answers _ := rfl
  table := rfl

theorem explainsTurn {clients : ι → List Submission} {start : Table s} {log : List (ι × Submission)}
    {w w' : Shop s ι} (known : Explains clients start log w) (turn : Turn w w') :
    ∃ log, Explains clients start log w' := by
  cases turn with
  | @create client e rest next =>
    refine ⟨log ++ [(client, e)], ?_, ?_, ?_⟩ <;> dsimp only
    · intro c
      rw [known.split c, ofClientSnoc]
      by_cases same : client = c
      · subst same
        rw [if_pos rfl, next, Function.update_self, List.append_assoc]
        rfl
      · rw [if_neg same, Function.update_of_ne (Ne.symm same)]
    · intro c
      rw [ofClientSnoc]
      by_cases same : client = c
      · subst same
        rw [if_pos rfl, Function.update_self, known.answers, created, List.map_append]
        rfl
      · rw [if_neg same, Function.update_of_ne (Ne.symm same), known.answers]
    · rw [created, known.table, List.map_append, Ordered.insertAllAppend]
      rfl

theorem explainsReached {clients : ι → List Submission} {start : Table s} {w : Shop s ι}
    (reached : Relation.ReflTransGen Turn (opened clients start) w) : ∃ log, Explains clients start log w := by
  induction reached with
  | refl => exact ⟨[], explainsOpened clients start⟩
  | tail _ turn ih =>
    obtain ⟨log, known⟩ := ih
    exact explainsTurn known turn

section Apart
variable {clients : ι → List Submission} {start : Table s} {log : List (ι × Submission)} {w : Shop s ι}

theorem Explains.made (known : Explains clients start log w) {c : ι} {e : Submission} (member : (c, e) ∈ log) :
    e ∈ clients c := by
  rw [known.split c]
  exact List.mem_append_left _ (ofClientMember.mpr member)

theorem Explains.ownRows (known : Explains clients start log w) (apart : Apart clients start) (c : ι) :
    (log.map fun e => e.2.keyedRow s).filter (fun e => e.1 ∈ keys s (ofClient c log)) =
      (ofClient c log).map (Submission.keyedRow s) := by
  have owner : ∀ e ∈ log, e.2.key s ∈ keys s (ofClient c log) ↔ e.1 = c := by
    rintro ⟨d, e⟩ member
    constructor
    · intro shared
      obtain ⟨x, mine, same⟩ := List.mem_map.mp shared
      by_contra other
      exact apart.disjoint c d (Ne.symm other) x (known.made (ofClientMember.mp mine)) e (known.made member) same
    · rintro rfl
      exact List.mem_map.mpr ⟨e, ofClientMember.mpr member, rfl⟩
  rw [List.filter_map, ofClient, List.map_map]
  refine congrArg _ (List.filter_congr fun e member => ?_)
  exact decide_eq_decide.mpr (owner e member)

theorem Explains.undisturbed (known : Explains clients start log w) (apart : Apart clients start) :
    Undisturbed start (fun c => ofClient c log) w := by
  have rows := known.ownRows apart
  have unused : ∀ e ∈ log.map fun e => e.2.keyedRow s, e.1 ∉ start.keys := by
    intro e member
    obtain ⟨⟨c, x⟩, logged, rfl⟩ := List.mem_map.mp member
    exact apart.unused c x (known.made logged)
  have alone : ∀ c, ∀ e ∈ (ofClient c log).map (Submission.keyedRow s), e.1 ∉ start.keys := by
    intro c e member
    rw [← rows c] at member
    exact unused e (List.mem_of_mem_filter member)
  have own : ∀ c, w.table.restrict (fun key => key ∈ keys s (ofClient c log)) =
      (createAll (Store.memory s) (ofClient c log) start).2.restrict fun key => key ∈ keys s (ofClient c log) := by
    intro c
    have mine : ((ofClient c log).map (Submission.keyedRow s)).filter (fun e => e.1 ∈ keys s (ofClient c log)) =
        (ofClient c log).map (Submission.keyedRow s) := by
      rw [← rows c, List.filter_filter]
      simp only [Bool.and_self]
    rw [known.table, allCreated, Ordered.restrictInsertAll, Ordered.restrictInsertAll, rows c, mine]
  refine ⟨fun c => ?_, fun c answer got => ?_, ?_, own, fun c key mine => ?_⟩
  · rw [known.answers, allCreated]
  · rw [known.answers] at got
    obtain ⟨e, _, rfl⟩ := List.mem_map.mp got
    exact ⟨_, rfl⟩
  · refine ⟨(Ordered.ofList (log.map fun e => e.2.keyedRow s)).entries, ?_, fun e member => ?_, fun c => ?_⟩
    · rw [known.table, Ordered.insertAllApart start unused]
    · obtain ⟨⟨c, x⟩, logged, rfl⟩ := List.mem_map.mp (Ordered.memberOfList member)
      exact ⟨c, List.mem_map.mpr ⟨x, ofClientMember.mpr logged, rfl⟩⟩
    · have part := congrArg Ordered.entries (Ordered.restrictOfList
        (fun key => key ∈ keys s (ofClient c log)) (log.map fun e => e.2.keyedRow s))
      rw [rows c] at part
      rw [allCreated, Ordered.insertAllApart start (alone c), ← part]
      rfl
  · obtain ⟨e, last⟩ := Submission.lastFound mine
    refine ⟨e, last, ?_⟩
    have picked : decide (key ∈ keys s (ofClient c log)) = true := decide_eq_true mine
    rw [← Ordered.getRestrict w.table (p := fun key => key ∈ keys s (ofClient c log)) picked, own,
      Ordered.getRestrict _ (p := fun key => key ∈ keys s (ofClient c log)) picked, allCreated,
      Ordered.getInsertAll, Submission.lookupLast, last]
    rfl

end Apart

end Turns

/-- However the creates of the clients are interleaved, at every point each client stands as if it
were alone. Where nothing is waiting any more, the creates made are all of them. -/
theorem clientsUndisturbed [DecidableEq ι] {clients : ι → List Submission} {start : Table Service.customer.schema}
    (apart : Apart clients start) {w : Shop Service.customer.schema ι}
    (reached : Relation.ReflTransGen Turn (opened clients start) w) :
    ∃ made, (∀ c, clients c = made c ++ w.waiting c) ∧ Undisturbed start made w := by
  obtain ⟨log, known⟩ := explainsReached reached
  exact ⟨fun c => ofClient c log, known.split, known.undisturbed apart⟩

def twoClients : Bool → List Submission
  | true => [⟨"k1", Record.ofTexts [("record_id", "a"), ("operation", "INSERT")]⟩,
      ⟨"k2", Record.ofTexts [("record_id", "a"), ("operation", "DELETE")]⟩]
  | false => [⟨"k3", Record.ofTexts [("operation", "UPDATE")]⟩]

def oneRow : Table Service.customer.schema := Ordered.ofList [("z", Row.ofFields _ [("record_id", some "z")])]

theorem clientsUndisturbedTwo : Apart twoClients oneRow ∧ ∃ w : Shop Service.customer.schema Bool,
    Relation.ReflTransGen Turn (opened twoClients oneRow) w ∧ (∀ c, w.waiting c = []) ∧
      Undisturbed oneRow twoClients w := by
  have apart : Apart twoClients oneRow := by
    constructor <;> decide +kernel
  obtain ⟨w, reached, ended⟩ : ∃ w : Shop Service.customer.schema Bool,
      Relation.ReflTransGen Turn (opened twoClients oneRow) w ∧ ∀ c, w.waiting c = [] :=
    ⟨_, .tail (.tail (.single (.create true rfl)) (.create false rfl)) (.create true rfl),
      fun c => by cases c <;> rfl⟩
  obtain ⟨made, split, law⟩ := clientsUndisturbed apart reached
  have all : twoClients = made := funext fun c => by rw [split c, ended c, List.append_nil]
  rw [← all] at law
  exact ⟨apart, w, reached, ended, law⟩

end Clients

end Storefront
