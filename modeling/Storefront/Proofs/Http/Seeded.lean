import Storefront.Proofs.Http.Listing
import Storefront.Proofs.Record.Sequence
import Storefront.Proofs.Store.Submission

/-! Listings of rows that were saved from records. Each key shows once, where it first came, with
the texts of the last record under it, and no request to a service that lists its rows changes
what is listed. -/
namespace Storefront.Http

variable {s : Schema} {k : Service}

def seeded (s : Schema) (seeds : List Submission) : Table s :=
  ((Store.memory s).saveAll (Submission.offers s seeds) Ordered.empty).2

/-- A seed as it is listed: exactly the declared columns in their order, each with the text of the
seed there, and null where the seed has no member, unless it is the key. -/
structure Shows (s : Schema) (seed : Submission) (shown : Record) : Prop where
  columns : shown.keys = s.columns
  text : ∀ name ∈ s.columns, ∀ text, seed.record.get? name = some (some text) → shown.get? name = some (some text)
  null : ∀ name ∈ s.columns, seed.record.get? name = some none → shown.get? name = some (some "null")
  fresh : seed.record.get? s.key = none → shown.get? s.key = some (some seed.fresh)
  unset : ∀ name ∈ s.columns, name ≠ s.key → seed.record.get? name = none → shown.get? name = some none

/-- One record for each key, in the order of first occurrence, that of the last seed under it. -/
structure ListsSeeds (s : Schema) (seeds : List Submission) (answer : Response) : Prop where
  status : answer.status = 200
  sent : ("content-type", "application/json") ∈ answer.headers
  read : ∃ listed, Record.parseAll (bytesOf answer.body) = .ok listed ∧
    List.Forall₂ (fun key shown => ∃ seed, Submission.last? s key seeds = some seed ∧ Shows s seed shown)
      (seeds.map (Submission.key s)).eraseDups listed

theorem seededTable (s : Schema) (seeds : List Submission) :
    seeded s seeds = Ordered.ofList (seeds.map (Submission.keyedRow s)) := Submission.allSaved seeds Ordered.empty

theorem shownSeed (s : Schema) (seed : Submission) : Shows s seed (seed.row s).toRecord := by
  have shown : ∀ name ∈ s.columns, name ≠ s.key →
      (seed.row s).toRecord.get? name = some (seed.record.text? name) := fun name declared other => by
    rw [Row.getToRecord _ declared, seed.getRow declared other]
  have key : (seed.row s).toRecord.get? s.key = some (some ((seed.record.text? s.key).getD seed.fresh)) := by
    rw [Row.getToRecord _ s.keyed]
    exact congrArg some (seed.keyRow s)
  have member : ∀ name ∈ s.columns, ∀ v, seed.record.get? name = some v →
      (seed.row s).toRecord.get? name = some (some (v.getD "null")) := by
    intro name declared v found
    have text : seed.record.text? name = some (v.getD "null") := by
      rw [Record.text?, found]
      rfl
    by_cases here : name = s.key
    · subst here
      rw [key, text]
      rfl
    · rw [shown name declared here, text]
  exact {
    columns := (seed.row s).toRecordKeys
    text := fun name declared text found => member name declared (some text) found
    null := fun name declared found => member name declared none found
    fresh := fun absent => by
      rw [key, Record.text?, absent]
      rfl
    unset := fun name declared other absent => by
      rw [shown name declared other, Record.text?, absent]
      rfl }

theorem rowsListed (s : Schema) (seeds : List Submission) :
    List.Forall₂ (fun key row => ∃ seed, Submission.last? s key seeds = some seed ∧ row = seed.row s)
      (seeds.map (Submission.key s)).eraseDups (seeded s seeds).rows := by
  have rows := Ordered.valuesOfList (seeds.map (Submission.keyedRow s))
  simp only [Submission.keysKeyed, Submission.lookupLast] at rows
  rw [seededTable, Table.rows]
  have related : List.Forall₂ (fun key row => row = (Submission.last? s key seeds).map (Submission.row s))
      (seeds.map (Submission.key s)).eraseDups
      ((Ordered.ofList (seeds.map (Submission.keyedRow s))).values.map some) := by
    rw [rows, List.forall₂_map_right_iff]
    exact List.forall₂_same.mpr fun key _ => rfl
  refine (List.forall₂_map_right_iff.mp related).imp fun key row same => ?_
  obtain ⟨seed, last, row⟩ := Option.map_eq_some_iff.mp same.symm
  exact ⟨seed, last, row.symm⟩

theorem seedsShown (s : Schema) (seeds : List Submission) :
    List.Forall₂ (fun key shown => ∃ seed, Submission.last? s key seeds = some seed ∧ Shows s seed shown)
      (seeds.map (Submission.key s)).eraseDups ((seeded s seeds).rows.map Row.toRecord) := by
  rw [List.forall₂_map_right_iff]
  refine (rowsListed s seeds).imp fun key row found => ?_
  obtain ⟨seed, last, rfl⟩ := found
  exact ⟨seed, last, shownSeed s seed⟩

theorem listingIdle {path : String} (listed : listing? k = some path) :
    ∀ route ∈ routes k, route.operation ≠ .create := by
  cases k <;> cases listed <;> decide

theorem seedsServed {a : Arrival} (lists : Lists k a.request) (seeds : List Submission) (shared : Bool) :
    ListsSeeds k.schema seeds (a.serve k shared (Store.memory _) (seeded k.schema seeds)).1 := by
  rw [listingServed lists]
  exact {
    status := dressedStatus shared _
    sent := dressedHeader shared List.mem_cons_self
    read := ⟨_, by rw [dressedBody]; exact Record.parseAllJson _, seedsShown k.schema seeds⟩ }

/-- Whatever requests come to a service that lists its rows, the rows stay those of the seeds, and
each request for them, at any point, is answered with the seeds. -/
theorem seedsListed {path : String} (listed : listing? k = some path) (seeds : List Submission) (shared : Bool)
    (run : List Arrival) :
    (serveAll k shared (Store.memory _) run (seeded k.schema seeds)).2 = seeded k.schema seeds ∧
    ∀ before a after, run = before ++ a :: after → a.request.method = "GET" → a.request.path = path.toList →
      ∃ answer, (serveAll k shared (Store.memory _) run (seeded k.schema seeds)).1[before.length]? = some answer ∧
        ListsSeeds k.schema seeds answer := by
  have kept : ∀ arrivals, (serveAll k shared (Store.memory _) arrivals (seeded k.schema seeds)).2 =
      seeded k.schema seeds := fun arrivals => runKeeps (listingIdle listed) (fun _ => rfl) shared arrivals _
  refine ⟨kept run, fun before a after split get same => ?_⟩
  have lists : Lists k a.request := ⟨get, path, listed, same⟩
  refine ⟨_, ?_, seedsServed lists seeds shared⟩
  rw [split, answeredAt, kept]

def supplierSeeds : List Submission :=
  [⟨"f1", Record.ofTexts [("note", "n"), ("supplier_name", "A"), ("contact_email", "a@b")]⟩,
    ⟨"f2", Ordered.ofList [("supplier_name", none)]⟩,
    ⟨"f3", Record.ofTexts [("contact_email", "a@b")]⟩]

def supplierRun : List Arrival :=
  [⟨⟨0, 0, 0⟩, "k", ⟨"POST", "/suppliers", [], bytesOf "\x7b\x7d"⟩⟩,
    ⟨⟨0, 0, 0⟩, "l", ⟨"GET", "/suppliers?page=2", [], []⟩⟩]

def suppliersServed : List Response :=
  (serveAll .supplierManagement true (Store.memory _) supplierRun
    (seeded Service.supplierManagement.schema supplierSeeds)).1

theorem seedsListedSuppliers :
    listing? .supplierManagement = some "/suppliers" ∧
    (supplierSeeds.map (Submission.key Service.supplierManagement.schema)).eraseDups = ["a@b", "f2"] ∧
    ∃ answer, suppliersServed[1]? = some answer ∧
      ListsSeeds Service.supplierManagement.schema supplierSeeds answer := by
  have suppliers : listing? .supplierManagement = some "/suppliers" := rfl
  have served := (seedsListed suppliers supplierSeeds true supplierRun).2
  exact ⟨suppliers, by decide, served [_] _ [] rfl rfl (by decide)⟩

end Storefront.Http
