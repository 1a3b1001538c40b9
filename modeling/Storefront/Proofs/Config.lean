import Storefront.Proofs.Service
import Storefront.Proofs.Text.Numeral

/-! The environments that make a configuration, and the fault of every other. A variable that
holds no text counts as unset, but for the service name. Of several faults the first in the
order service name, connection limit, port is reported. -/
namespace Storefront.Config
open Text (Blanks NumeralFault Parsed)

/-- The variable is unset, or its bytes are the code of no text. -/
def Unsaid (value : Option Bytes) : Prop := ∀ s, value ≠ some (bytesOf s)

inductive Naming : Option Bytes → Except Fault Service → Prop where
  | unset : Naming none (.error .serviceUnset)
  | notText {bs} (unsaid : Unsaid (some bs)) : Naming (some bs) (.error (.serviceNotText bs))
  | known {s k} (named : k.NamedBy s) : Naming (some (bytesOf s)) (.ok k)
  | unknown {s} (unnamed : ∀ k : Service, ¬ k.NamedBy s) :
      Naming (some (bytesOf s)) (.error (.unknownService s))

inductive Setting (absent limit : Nat) : Option Bytes → Except NumeralFault Nat → Prop where
  | absent {value} (unsaid : Unsaid value) : Setting absent limit value (.ok absent)
  | given {s outcome} (parsed : Parsed limit s.toList outcome) :
      Setting absent limit (some (bytesOf s)) outcome

inductive Addressing : Option Bytes → Option String → Prop where
  | absent {value} (unsaid : Unsaid value) : Addressing value none
  | blank {s} (blanks : Blanks s.toList) : Addressing (some (bytesOf s)) none
  | given {s} (filled : ¬ Blanks s.toList) : Addressing (some (bytesOf s)) (some s)

inductive Hosting : Option Bytes → String → Prop where
  | absent {value} (unsaid : Unsaid value) : Hosting value "127.0.0.1"
  | given {s} : Hosting (some (bytesOf s)) s

def ConnectionLimit (env : Environment) : Except NumeralFault Nat → Prop :=
  Setting 20 (Nat.pow 2 32 - 1) env.maxConnections

def ListeningPort (env : Environment) : Except NumeralFault Nat → Prop :=
  Setting 3000 (Nat.pow 2 16 - 1) env.port

structure Configures (env : Environment) (c : Config) : Prop where
  service : Naming env.serviceName (.ok c.service)
  maxConnections : ConnectionLimit env (.ok c.maxConnections)
  port : ListeningPort env (.ok c.port)
  databaseUrl : Addressing env.databaseUrl c.databaseUrl
  host : Hosting env.host c.host

inductive FirstFault (env : Environment) : Fault → Prop where
  | service {fault} (bad : Naming env.serviceName (.error fault)) : FirstFault env fault
  | maxConnections {k fault} (service : Naming env.serviceName (.ok k)) (bad : ConnectionLimit env (.error fault)) :
      FirstFault env (.maxConnections fault)
  | port {k n fault} (service : Naming env.serviceName (.ok k)) (connections : ConnectionLimit env (.ok n))
      (bad : ListeningPort env (.error fault)) : FirstFault env (.port fault)

theorem textOfSome {value : Option Bytes} {s : String} : textOf value = some s ↔ value = some (bytesOf s) := by
  cases value with
  | none => simp [textOf]
  | some bs => simp only [textOf, Option.bind_some, Text.Utf8.textRead, Option.some.injEq]

theorem textOfNone {value : Option Bytes} : textOf value = none ↔ Unsaid value := by
  simp only [Option.eq_none_iff_forall_ne_some, ne_eq, textOfSome, Unsaid]

theorem saidOrUnsaid (value : Option Bytes) : (∃ s, value = some (bytesOf s)) ∨ Unsaid value := by
  cases text : textOf value with
  | none => exact Or.inr (textOfNone.mp text)
  | some s => exact Or.inl ⟨s, textOfSome.mp text⟩

theorem readServiceIs {value : Option Bytes} {outcome : Except Fault Service} :
    readService value = outcome ↔ Naming value outcome := by
  have unread {bs : Bytes} (unsaid : Unsaid (some bs)) : readService (some bs) = .error (.serviceNotText bs) := by
    have none : Text.Utf8.text? bs = none := textOfNone.mpr unsaid
    simp only [readService, none]
  constructor
  · rintro rfl
    rcases saidOrUnsaid value with ⟨s, rfl⟩ | unsaid
    · rw [Service.readText]
      cases named : Service.ofName? s with
      | none => exact .unknown (Service.ofNameNone.mp named)
      | some k => exact .known (Service.ofNameNamed.mp named)
    · cases value with
      | none => exact .unset
      | some bs =>
        rw [unread unsaid]
        exact .notText unsaid
  · intro naming
    cases naming with
    | unset => rfl
    | notText unsaid => exact unread unsaid
    | known named =>
      rw [Service.readText, Service.ofNameNamed.mpr named]
      rfl
    | unknown unnamed =>
      rw [Service.readText, Service.ofNameNone.mpr unnamed]
      rfl

theorem readNumberIs {absent limit : Nat} {value : Option Bytes} {outcome : Except NumeralFault Nat} :
    readNumber value absent limit = outcome ↔ Setting absent limit value outcome := by
  constructor
  · rintro rfl
    unfold readNumber
    rcases saidOrUnsaid value with ⟨s, rfl⟩ | unsaid
    · rw [textOfSome.mpr rfl]
      exact .given (Text.numeralParsed limit s.toList)
    · rw [textOfNone.mpr unsaid]
      exact .absent unsaid
  · intro setting
    unfold readNumber
    cases setting with
    | absent unsaid => rw [textOfNone.mpr unsaid]
    | given parsed =>
      rw [textOfSome.mpr rfl]
      exact Text.parseNumeralIs.mpr parsed

theorem allBlankBlanks {s : String} : Text.allBlank s = true ↔ Blanks s.toList := List.all_eq_true

theorem readUrlIs {value : Option Bytes} {url : Option String} : readUrl value = url ↔ Addressing value url := by
  unfold readUrl
  constructor
  · rintro rfl
    rcases saidOrUnsaid value with ⟨s, rfl⟩ | unsaid
    · rw [textOfSome.mpr rfl]
      cases blank : Text.allBlank s with
      | true =>
        rw [Option.filter_some, blank]
        exact .blank (allBlankBlanks.mp blank)
      | false =>
        rw [Option.filter_some, blank]
        exact .given fun blanks => by simp [allBlankBlanks.mpr blanks] at blank
    · rw [textOfNone.mpr unsaid]
      exact .absent unsaid
  · intro addressing
    cases addressing with
    | absent unsaid =>
      rw [textOfNone.mpr unsaid]
      rfl
    | blank blanks => rw [textOfSome.mpr rfl, Option.filter_some, allBlankBlanks.mpr blanks]; rfl
    | given filled =>
      have solid := Bool.eq_false_iff.mpr fun blank => filled (allBlankBlanks.mp blank)
      rw [textOfSome.mpr rfl, Option.filter_some, solid]
      rfl

theorem hostIs {value : Option Bytes} {host : String} :
    (textOf value).getD "127.0.0.1" = host ↔ Hosting value host := by
  constructor
  · rintro rfl
    rcases saidOrUnsaid value with ⟨s, rfl⟩ | unsaid
    · rw [textOfSome.mpr rfl]
      exact .given
    · rw [textOfNone.mpr unsaid]
      exact .absent unsaid
  · intro hosting
    cases hosting with
    | absent unsaid => rw [textOfNone.mpr unsaid]; rfl
    | given => rw [textOfSome.mpr rfl]; rfl

theorem environmentOutcome (env : Environment) :
    ofEnvironment env =
      match readService env.serviceName, readNumber env.maxConnections 20 (Nat.pow 2 32 - 1),
        readNumber env.port 3000 (Nat.pow 2 16 - 1) with
      | .error fault, _, _ => .error fault
      | .ok _, .error fault, _ => .error (.maxConnections fault)
      | .ok _, .ok _, .error fault => .error (.port fault)
      | .ok service, .ok maxConnections, .ok port =>
        .ok ⟨service, readUrl env.databaseUrl, maxConnections, (textOf env.host).getD "127.0.0.1", port⟩ := by
  unfold ofEnvironment
  cases readService env.serviceName with
  | error fault => rfl
  | ok service =>
    cases readNumber env.maxConnections 20 (Nat.pow 2 32 - 1) with
    | error fault => rfl
    | ok n => cases readNumber env.port 3000 (Nat.pow 2 16 - 1) <;> rfl

theorem environmentOk {env : Environment} {c : Config} :
    ofEnvironment env = .ok c ↔ readService env.serviceName = .ok c.service ∧
      readNumber env.maxConnections 20 (Nat.pow 2 32 - 1) = .ok c.maxConnections ∧
      readNumber env.port 3000 (Nat.pow 2 16 - 1) = .ok c.port ∧
      readUrl env.databaseUrl = c.databaseUrl ∧ (textOf env.host).getD "127.0.0.1" = c.host := by
  rw [environmentOutcome]
  constructor
  · intro ok
    split at ok <;> try contradiction
    cases ok
    exact ⟨by assumption, by assumption, by assumption, rfl, rfl⟩
  · rintro ⟨service, connections, port, url, host⟩
    rw [service, connections, port, url, host]

theorem environmentError {env : Environment} {fault : Fault} :
    ofEnvironment env = .error fault ↔ readService env.serviceName = .error fault ∨
      (∃ k g, readService env.serviceName = .ok k ∧
        readNumber env.maxConnections 20 (Nat.pow 2 32 - 1) = .error g ∧ fault = .maxConnections g) ∨
      ∃ k n g, readService env.serviceName = .ok k ∧
        readNumber env.maxConnections 20 (Nat.pow 2 32 - 1) = .ok n ∧
        readNumber env.port 3000 (Nat.pow 2 16 - 1) = .error g ∧ fault = .port g := by
  rw [environmentOutcome]
  constructor
  · intro refused
    split at refused <;> try contradiction
    · rename_i service
      cases refused
      exact Or.inl service
    · rename_i service connections
      cases refused
      exact Or.inr (Or.inl ⟨_, _, service, connections, rfl⟩)
    · rename_i service connections port
      cases refused
      exact Or.inr (Or.inr ⟨_, _, _, service, connections, port, rfl⟩)
  · rintro (service | ⟨k, g, service, connections, rfl⟩ | ⟨k, n, g, service, connections, port, rfl⟩)
    · rw [service]
    · rw [service, connections]
    · rw [service, connections, port]

theorem configures {env : Environment} {c : Config} : ofEnvironment env = .ok c ↔ Configures env c := by
  rw [environmentOk, readServiceIs, readNumberIs, readNumberIs, readUrlIs, hostIs]
  exact ⟨fun ⟨service, connections, port, url, host⟩ => ⟨service, connections, port, url, host⟩,
    fun c => ⟨c.service, c.maxConnections, c.port, c.databaseUrl, c.host⟩⟩

theorem firstFault {env : Environment} {fault : Fault} :
    ofEnvironment env = .error fault ↔ FirstFault env fault := by
  simp only [environmentError, readServiceIs, readNumberIs]
  constructor
  · rintro (service | ⟨k, g, service, bad, rfl⟩ | ⟨k, n, g, service, connections, bad, rfl⟩)
    · exact .service service
    · exact .maxConnections service bad
    · exact .port service connections bad
  · intro first
    cases first with
    | service bad => exact Or.inl bad
    | maxConnections service bad => exact Or.inr (Or.inl ⟨_, _, service, bad, rfl⟩)
    | port service connections bad => exact Or.inr (Or.inr ⟨_, _, _, service, connections, bad, rfl⟩)

structure EnvironmentLaw (env : Environment) : Prop where
  accepted : (∃ c, ofEnvironment env = .ok c) ↔
    (∃ k, Naming env.serviceName (.ok k)) ∧ (∃ n, ConnectionLimit env (.ok n)) ∧ ∃ n, ListeningPort env (.ok n)
  configured : ∀ c, ofEnvironment env = .ok c ↔ Configures env c
  refused : ∀ fault, ofEnvironment env = .error fault ↔ FirstFault env fault

theorem environmentsRead (env : Environment) : EnvironmentLaw env where
  accepted := by
    constructor
    · rintro ⟨c, ok⟩
      have made := configures.mp ok
      exact ⟨⟨_, made.service⟩, ⟨_, made.maxConnections⟩, _, made.port⟩
    · rintro ⟨⟨k, service⟩, ⟨n, connections⟩, m, port⟩
      exact ⟨⟨k, readUrl env.databaseUrl, n, (textOf env.host).getD "127.0.0.1", m⟩,
        configures.mpr ⟨service, connections, port, readUrlIs.mp rfl, hostIs.mp rfl⟩⟩
  configured _ := configures
  refused _ := firstFault

end Storefront.Config
