import Storefront.Proofs.Config
import Storefront.Proofs.EnvFile
import Storefront.Startup

/-! What becomes of the address of a database. A service that keeps rows and is told a readable
address listens only once the database there is connected to and migrated. -/
namespace Storefront

def Readable (value : Bytes) : Prop := ∃ s, value = bytesOf s

def Blank (value : Bytes) : Prop := ∃ s, value = bytesOf s ∧ Text.allBlank s = true

namespace Config

theorem readUrlSome {value : Option Bytes} {s : String} :
    readUrl value = some s ↔ textOf value = some s ∧ Text.allBlank s = false := by
  unfold readUrl
  cases textOf value with
  | none => simp
  | some t => simp

theorem readUrlNone {value : Option Bytes} :
    readUrl value = none ↔ ∀ s, textOf value = some s → Text.allBlank s = true := by
  unfold readUrl
  cases textOf value with
  | none => simp
  | some s => simp

theorem environmentRead {env : Environment} {c : Config} (ok : ofEnvironment env = .ok c) :
    readService env.serviceName = .ok c.service ∧ c.databaseUrl = readUrl env.databaseUrl := by
  obtain ⟨service, _, _, url, _⟩ := environmentOk.mp ok
  exact ⟨service, url.symm⟩

end Config

namespace Startup

def Quiet (t : Trace) : Prop := ∀ host port, Event.listening host port ∉ t.events

def Listens (outcome : Trace × Except Fault Backend) (backend : Backend) : Prop :=
  outcome.2 = .ok backend ∧
    ∃ before host port, outcome.1.events = before ++ [.ready backend, .listening host port]

def Stops (outcome : Trace × Except Fault Backend) : Prop := (∃ fault, outcome.2 = .error fault) ∧ Quiet outcome.1

theorem Quiet.log {t : Trace} (quiet : Quiet t) {events : List Event}
    (others : ∀ host port, Event.listening host port ∉ events) : Quiet (t.log events) := by
  intro host port member
  rcases List.mem_append.mp member with before | now
  · exact quiet host port before
  · exact others host port now

theorem connectQuiet {t : Trace} (quiet : Quiet t) (network : Network) (url : String) (maxConnections : Nat) :
    Quiet (connect network url maxConnections t).1 := by
  unfold connect
  dsimp only
  have begun : Quiet (t.log (.connecting maxConnections ::
      (Sql.Address.parse url).1.map fun p => .parameterIgnored p.1 p.2)) := quiet.log (by simp)
  split
  · exact begun.log (by simp)
  · exact begun

theorem migrateQuiet {t : Trace} (quiet : Quiet t) (k : Service) (database : Database) :
    Quiet (migrate k database t).1 := by
  unfold migrate
  dsimp only
  split
  · refine Quiet.log quiet ?_
    unfold migrationEvents
    split
    · simp
    · simp
  · exact Quiet.log quiet (by simp)

theorem prepareQuiet {t : Trace} (quiet : Quiet t) (c : Config) (network : Network) :
    Quiet (prepare c network t).1 := by
  unfold prepare
  split
  · rename_i url _ _
    have opened := connectQuiet quiet network url c.maxConnections
    cases connected : connect network url c.maxConnections t with
    | mk t₁ result =>
      rw [connected] at opened
      cases result with
      | error f => exact opened
      | ok database =>
        have last := migrateQuiet opened c.service database
        dsimp only at last ⊢
        cases migrated : migrate c.service database t₁ with
        | mk t₂ result =>
          rw [migrated] at last
          cases result with
          | error f => exact last
          | ok done => exact last
  · exact quiet.log (by simp)
  · exact quiet

def Opens (network : Network) (c : Config) (url : String) : Prop :=
  ∃ address database, (Sql.Address.parse url).2 = .ok address ∧ network address c.maxConnections = .ok database ∧
    (c.service.migrate database.answerer database.ledger).2 = .ok ()

theorem connectReached {network : Network} {url : String} {maxConnections : Nat} {t : Trace} {database : Database}
    (ok : (connect network url maxConnections t).2 = .ok database) :
    ∃ address, (Sql.Address.parse url).2 = .ok address ∧ network address maxConnections = .ok database := by
  unfold connect at ok
  dsimp only at ok
  cases address : (Sql.Address.parse url).2 with
  | error f => simp [address, connectTo] at ok
  | ok a =>
    refine ⟨a, rfl, ?_⟩
    cases reached : network a maxConnections with
    | error f => simp [address, connectTo, reached, Except.mapError] at ok
    | ok d =>
      simp only [address, connectTo, reached, Except.mapError] at ok
      exact congrArg Except.ok (Except.ok.inj ok)

theorem migrateDone {k : Service} {database : Database} {t : Trace} (ok : (migrate k database t).2 = .ok ()) :
    (k.migrate database.answerer database.ledger).2 = .ok () := by
  unfold migrate at ok
  dsimp only at ok
  cases done : (k.migrate database.answerer database.ledger).2 with
  | error f => simp [done] at ok
  | ok u => rfl

theorem prepareAddressed {c : Config} {url : String} (address : c.databaseUrl = some url)
    (uses : c.service.usesStore = true) (network : Network) (t : Trace) :
    ((prepare c network t).2 = .ok .postgres ∧ Opens network c url) ∨ ∃ f, (prepare c network t).2 = .error f := by
  unfold prepare
  rw [address, uses]
  dsimp only
  cases connected : connect network url c.maxConnections t with
  | mk t₁ result =>
    cases result with
    | error f => exact Or.inr ⟨f, rfl⟩
    | ok database =>
      dsimp only
      cases migrated : migrate c.service database t₁ with
      | mk t₂ result =>
        cases result with
        | error f => exact Or.inr ⟨f, rfl⟩
        | ok done =>
          obtain ⟨a, parsed, reached⟩ := connectReached (congrArg Prod.snd connected)
          exact Or.inl ⟨rfl, a, database, parsed, reached, migrateDone (congrArg Prod.snd migrated)⟩

theorem prepareUnaddressed {c : Config} (none : c.databaseUrl = none) (network : Network) (t : Trace) :
    (prepare c network t).2 = .ok .memory := by
  unfold prepare
  rw [none]
  cases c.service.usesStore with
  | true => rfl
  | false => rfl

theorem startListens {c : Config} {network : Network} {backend : Backend}
    (ok : (prepare c network ⟨[.starting c.service], []⟩).2 = .ok backend) : Listens (start c network) backend := by
  unfold start
  cases prepared : prepare c network ⟨[.starting c.service], []⟩ with
  | mk t result =>
    rw [prepared] at ok
    cases ok
    exact ⟨rfl, t.events, c.host, c.port, rfl⟩

theorem startStops {c : Config} {network : Network} {f : Fault}
    (fails : (prepare c network ⟨[.starting c.service], []⟩).2 = .error f) : Stops (start c network) := by
  have begun : Quiet ⟨[.starting c.service], []⟩ := fun host port => by simp
  have quiet := prepareQuiet begun c network
  unfold start
  cases prepared : prepare c network ⟨[.starting c.service], []⟩ with
  | mk t result =>
    rw [prepared] at fails quiet
    cases fails
    exact ⟨⟨f, rfl⟩, quiet⟩

theorem stopsQuiet {outcome : Trace × Except Fault Backend} (stops : Stops outcome) (backend : Backend) :
    ¬ Listens outcome backend := by
  obtain ⟨⟨f, fault⟩, _⟩ := stops
  rintro ⟨ok, _⟩
  rw [fault] at ok
  contradiction

theorem runStops {env : Environment} {f : Config.Fault} (faulty : Config.ofEnvironment env = .error f)
    (network : Network) : Stops (run env network) := by
  rw [run, faulty]
  exact ⟨⟨.config f, rfl⟩, fun host port => by simp⟩

theorem runAddressed {env : Environment} {c : Config} (config : Config.ofEnvironment env = .ok c) {url : String}
    (address : c.databaseUrl = some url) (uses : c.service.usesStore = true) (network : Network) :
    (Listens (run env network) .postgres ∧ Opens network c url) ∨ Stops (run env network) := by
  rw [run, config]
  rcases prepareAddressed address uses network ⟨[.starting c.service], []⟩ with ⟨ok, opens⟩ | ⟨f, fails⟩
  · exact Or.inl ⟨startListens ok, opens⟩
  · exact Or.inr (startStops fails)

theorem runUnaddressed {env : Environment} {c : Config} (config : Config.ofEnvironment env = .ok c)
    (none : c.databaseUrl = none) (network : Network) : Listens (run env network) .memory := by
  rw [run, config]
  exact startListens (prepareUnaddressed none network _)

theorem listensOnce {outcome : Trace × Except Fault Backend} {a b : Backend} (first : Listens outcome a)
    (second : Listens outcome b) : a = b := by
  have same := first.1.symm.trans second.1
  cases same
  rfl

theorem serviceNamed {vars : Variables} {k : Service}
    (named : (EnvFile.text? vars "SERVICE_NAME").bind Service.ofName? = some k) :
    Config.readService (Environment.ofVariables vars).serviceName = .ok k := by
  unfold EnvFile.text? at named
  unfold Config.readService Environment.ofVariables
  dsimp only
  cases value : vars.get? "SERVICE_NAME" with
  | none => simp [value] at named
  | some bs =>
    dsimp only
    cases text : Text.Utf8.text? bs with
    | none => simp [value, text] at named
    | some name =>
      simp only [value, text, Option.bind_some] at named
      dsimp only
      rw [named]

def launch (vars : Variables) (file : Bytes) (network : Network) : Trace × Except Fault Backend :=
  run (Environment.ofVariables (EnvFile.load vars file)) network

/-- What becomes of the address `url` that the process has for a database. One that is no text
counts for nothing, and then rows are kept in memory unless the file gives another. -/
structure DatabaseLaw (vars : Variables) (file : Bytes) (network : Network) (url : Bytes) : Prop where
  kept : Readable url → (Listens (launch vars file network) .postgres ∨ Stops (launch vars file network)) ∧
    ¬ Listens (launch vars file network) .memory
  opened : Listens (launch vars file network) .postgres →
    ∃ c s, Config.ofEnvironment (Environment.ofVariables (EnvFile.load vars file)) = .ok c ∧
      EnvFile.text? (EnvFile.load vars file) "DATABASE_URL" = some s ∧ Opens network c s
  dropped : Listens (launch vars file network) .memory ↔
    (∃ c, Config.ofEnvironment (Environment.ofVariables (EnvFile.load vars file)) = .ok c) ∧
      ∀ s, EnvFile.text? (EnvFile.load vars file) "DATABASE_URL" = some s → Text.allBlank s = true

theorem addressKept {vars : Variables} {url : Bytes} (given : vars.get? "DATABASE_URL" = some url)
    (readable : Readable url) (filled : ¬ Blank url) (file : Bytes) :
    ∃ s, EnvFile.text? (EnvFile.load vars file) "DATABASE_URL" = some s ∧ Text.allBlank s = false := by
  obtain ⟨s, rfl⟩ := readable
  have text : EnvFile.text? vars "DATABASE_URL" = some s := by
    rw [EnvFile.text?, given]
    exact Text.Utf8.textRead.mpr rfl
  refine ⟨s, EnvFile.loadKeeps (by decide) text file, ?_⟩
  cases blank : Text.allBlank s with
  | false => rfl
  | true => exact absurd ⟨s, rfl, blank⟩ filled

theorem databaseKept {vars : Variables} {file : Bytes} (network : Network) {k : Service} {url : Bytes}
    (named : (EnvFile.text? (EnvFile.load vars file) "SERVICE_NAME").bind Service.ofName? = some k)
    (uses : k.usesStore = true) (given : vars.get? "DATABASE_URL" = some url) (filled : ¬ Blank url) :
    DatabaseLaw vars file network url := by
  have text : Config.textOf (Environment.ofVariables (EnvFile.load vars file)).databaseUrl =
      EnvFile.text? (EnvFile.load vars file) "DATABASE_URL" := rfl
  cases config : Config.ofEnvironment (Environment.ofVariables (EnvFile.load vars file)) with
  | error f =>
    have stops : Stops (launch vars file network) := runStops config network
    exact {
      kept := fun _ => ⟨Or.inr stops, stopsQuiet stops .memory⟩
      opened := fun listens => absurd listens (stopsQuiet stops .postgres)
      dropped := ⟨fun listens => absurd listens (stopsQuiet stops .memory), fun ⟨⟨c, ok⟩, _⟩ =>
        absurd (config.symm.trans ok) (by simp)⟩ }
  | ok c =>
    obtain ⟨read, address⟩ := Config.environmentRead config
    cases (serviceNamed named).symm.trans read
    cases url? : c.databaseUrl with
    | none =>
      have listens : Listens (launch vars file network) .memory := runUnaddressed config url? network
      rw [url?, eq_comm, Config.readUrlNone, text] at address
      exact {
        kept := fun readable => by
          obtain ⟨s, found, solid⟩ := addressKept given readable filled file
          rw [address s found] at solid
          contradiction
        opened := fun other => absurd (listensOnce listens other) (by decide)
        dropped := ⟨fun _ => ⟨⟨c, config⟩, address⟩, fun _ => listens⟩ }
    | some s =>
      have ends := runAddressed config url? uses network
      have never : ¬ Listens (launch vars file network) .memory := by
        intro listens
        rcases ends with ⟨other, _⟩ | stops
        · exact absurd (listensOnce listens other) (by decide)
        · exact stopsQuiet stops .memory listens
      have found : EnvFile.text? (EnvFile.load vars file) "DATABASE_URL" = some s ∧ Text.allBlank s = false := by
        rw [← text]
        exact Config.readUrlSome.mp (address.symm.trans url?)
      exact {
        kept := fun _ => ⟨ends.imp_left And.left, never⟩
        opened := fun listens => by
          rcases ends with ⟨_, opens⟩ | stops
          · exact ⟨c, s, config, found.1, opens⟩
          · exact absurd listens (stopsQuiet stops .postgres)
        dropped := ⟨fun listens => absurd listens never, fun ⟨_, blank⟩ => by
          have solid := found.2
          rw [blank s found.1] at solid
          contradiction⟩ }

def customerAt (url : Bytes) : Variables := [bytesOf "SERVICE_NAME=customer", bytesOf "DATABASE_URL=" ++ url]

def noRoute : Network := fun _ _ => .error (.io "no route")

theorem databaseKeptUnread :
    Readable (bytesOf "postgres://db") ∧ ¬ Blank (bytesOf "postgres://db") ∧
    ¬ Listens (launch (customerAt (bytesOf "postgres://db")) [] noRoute) .memory ∧
    (EnvFile.text? (EnvFile.load (customerAt [0xFF]) []) "SERVICE_NAME").bind Service.ofName? = some .customer ∧
    Service.customer.usesStore = true ∧ (customerAt [0xFF]).get? "DATABASE_URL" = some [0xFF] ∧ ¬ Blank [0xFF] ∧
    Listens (launch (customerAt [0xFF]) [] noRoute) .memory := by
  have uses : Service.customer.usesStore = true := by decide
  have named : ∀ url ∈ [bytesOf "postgres://db", [0xFF]],
      (EnvFile.text? (EnvFile.load (customerAt url) []) "SERVICE_NAME").bind Service.ofName? = some .customer := by
    decide +kernel
  have given : ∀ url ∈ [bytesOf "postgres://db", [0xFF]], (customerAt url).get? "DATABASE_URL" = some url := by
    decide +kernel
  have readable : Readable (bytesOf "postgres://db") := ⟨_, rfl⟩
  have filled : ¬ Blank (bytesOf "postgres://db") := by
    rintro ⟨s, same, blank⟩
    rw [← Text.Utf8.bytesInjective same] at blank
    exact absurd blank (by decide)
  have unread : ¬ Blank [0xFF] := by
    rintro ⟨s, same, _⟩
    have none : Text.Utf8.text? [0xFF] = none := by decide
    rw [Text.Utf8.textRead.mpr same] at none
    contradiction
  have config : Config.ofEnvironment (Environment.ofVariables (EnvFile.load (customerAt [0xFF]) [])) =
      .ok ⟨.customer, none, 20, "127.0.0.1", 3000⟩ := by
    decide +kernel
  have unset : EnvFile.text? (EnvFile.load (customerAt [0xFF]) []) "DATABASE_URL" = none := by decide +kernel
  have kept := databaseKept noRoute (named _ (by simp)) uses (given _ (by simp)) filled
  have dropped := (databaseKept noRoute (named _ (by simp)) uses (given _ (by simp)) unread).dropped.mpr
    ⟨⟨_, config⟩, fun s found => by rw [unset] at found; contradiction⟩
  exact ⟨readable, filled, (kept.kept readable).2, named _ (by simp), uses, given _ (by simp), unread, dropped⟩

end Startup

end Storefront
