import Storefront.Proofs.Text.Numeral
import Storefront.Sql.Statement

/-! The tokens of a text in SQL: words, whose case means nothing, quoted names, in which a quote
is written twice, numbered parameters and symbols. Other texts have no tokens. A text is read
from the left, one character at a time. -/
namespace Storefront.Sql

inductive Token where
  | word (letters : List Char)
  | name (text : List Char)
  | parameter (number : Nat)
  | symbol (c : Char)
  deriving DecidableEq, Repr

/-- The token that has been begun. After a quote in a name the name is at its end, unless another
quote follows. -/
inductive Begun where
  | nothing
  | word (letters : List Char)
  | parameter (number : Option Nat)
  | name (text : List Char)
  | quoted (text : List Char)

def isWordStart (c : Char) : Bool := c.isAlpha || c = '_'

def isWordChar (c : Char) : Bool := c.isAlphanum || c = '_' || c = '$'

def spaces : List Char := [' ', '\t', '\n', '\r', '\x0c']

def symbols : List Char := ['(', ')', ',', '.', '=']

def isSpace (c : Char) : Bool := spaces.contains c

def isSymbol (c : Char) : Bool := symbols.contains c

def Begun.ended : Begun → Option (List Token)
  | .nothing => some []
  | .word letters => some [.word letters]
  | .parameter number => number.map fun n => [.parameter n]
  | .name _ => none
  | .quoted text => some [.name text]

def start (c : Char) : Option (List Token × Begun) :=
  if isSpace c then some ([], .nothing)
  else if isSymbol c then some ([.symbol c], .nothing)
  else if c = '"' then some ([], .name [])
  else if c = '$' then some ([], .parameter none)
  else if isWordStart c then some ([], .word [c.toLower])
  else none

def Begun.startAnew (begun : Begun) (c : Char) : Option (List Token × Begun) :=
  begun.ended.bind fun before => (start c).map fun r => (before ++ r.1, r.2)

def Begun.step : Begun → Char → Option (List Token × Begun)
  | .nothing, c => start c
  | .word letters, c =>
    if isWordChar c then some ([], .word (letters ++ [c.toLower]))
    else Begun.startAnew (.word letters) c
  | .parameter number, c =>
    if c.isDigit then some ([], .parameter (some (number.getD 0 * 10 + (c.toNat - 48))))
    else if isWordChar c then none
    else Begun.startAnew (.parameter number) c
  | .name text, c => some ([], if c = '"' then .quoted text else .name (text ++ [c]))
  | .quoted text, c =>
    if c = '"' then some ([], .name (text ++ [c])) else Begun.startAnew (.quoted text) c

def Begun.run : Begun → List Char → Option (List Token × Begun)
  | begun, [] => some ([], begun)
  | begun, c :: rest => (begun.step c).bind fun r => (r.2.run rest).map fun t => (r.1 ++ t.1, t.2)

def tokens? (text : String) : Option (List Token) :=
  (Begun.nothing.run text.toList).bind fun r => r.2.ended.map (r.1 ++ ·)

theorem runAppend {begun middle last : Begun} {x y : List Char} {ts us : List Token}
    (first : begun.run x = some (ts, middle)) (second : middle.run y = some (us, last)) :
    begun.run (x ++ y) = some (ts ++ us, last) := by
  induction x generalizing begun ts with
  | nil =>
    cases first
    exact second
  | cons c rest ih =>
    obtain ⟨⟨head, next⟩, step, found⟩ := Option.bind_eq_some_iff.mp first
    obtain ⟨⟨tail, final⟩, later, whole⟩ := Option.map_eq_some_iff.mp found
    cases whole
    have both := ih later
    simp only [List.cons_append, Begun.run, step, Option.bind_some, both, Option.map_some, List.append_assoc]

/-- The text is made of these tokens, and a space or symbol may follow. -/
def Writes (x : List Char) (ts : List Token) : Prop :=
  ∃ emitted last pending, Begun.nothing.run x = some (emitted, last) ∧ last.ended = some pending ∧
    ts = emitted ++ pending

/-- The text is made of these tokens, and anything may follow. -/
def Ends (x : List Char) (ts : List Token) : Prop := Begun.nothing.run x = some (ts, .nothing)

def Apart (x : List Char) : Prop := ∃ c rest, x = c :: rest ∧ (isSpace c || isSymbol c) = true

theorem Writes.read {s : String} {ts : List Token} (writes : Writes s.toList ts) : tokens? s = some ts := by
  obtain ⟨emitted, last, pending, run, ended, rfl⟩ := writes
  simp only [tokens?, run, Option.bind_some, ended, Option.map_some]

theorem apartChar {c : Char} (apart : (isSpace c || isSymbol c) = true) :
    isWordChar c = false ∧ c.isDigit = false ∧ c ≠ '"' := by
  have every : ((spaces ++ symbols).all fun d => isWordChar d = false ∧ d.isDigit = false ∧ d ≠ '"') = true := by
    decide
  have listed : c ∈ spaces ++ symbols := by simpa [isSpace, isSymbol] using apart
  exact of_decide_eq_true (List.all_eq_true.mp every c listed)

theorem stepApart {begun : Begun} {pending : List Token} (ended : begun.ended = some pending) {c : Char}
    (apart : (isSpace c || isSymbol c) = true) :
    begun.step c = (start c).map fun r => (pending ++ r.1, r.2) := by
  obtain ⟨word, digit, quote⟩ := apartChar apart
  have anew : begun.startAnew c = (start c).map fun r => (pending ++ r.1, r.2) := by
    rw [Begun.startAnew, ended, Option.bind_some]
  cases begun with
  | nothing =>
    cases ended
    exact Option.map_id'.symm
  | word letters => rw [← anew, Begun.step, word]; rfl
  | parameter number => rw [← anew, Begun.step, digit, word]; rfl
  | name text => contradiction
  | quoted text => rw [← anew, Begun.step, if_neg quote]

theorem Ends.then {x y : List Char} {ts us : List Token} (first : Ends x ts) (second : Writes y us) :
    Writes (x ++ y) (ts ++ us) := by
  obtain ⟨emitted, last, pending, run, ended, rfl⟩ := second
  exact ⟨ts ++ emitted, last, pending, runAppend first run, ended, (List.append_assoc ..).symm⟩

theorem Writes.then {x y : List Char} {ts us : List Token} (first : Writes x ts) (second : Ends y us)
    (apart : Apart y) : Ends (x ++ y) (ts ++ us) := by
  obtain ⟨emitted, last, pending, run, ended, rfl⟩ := first
  obtain ⟨c, rest, rfl, separates⟩ := apart
  have later : last.run (c :: rest) = some (pending ++ us, .nothing) := by
    have whole : Begun.nothing.run (c :: rest) = some (us, .nothing) := second
    obtain ⟨⟨head, next⟩, step, found⟩ := Option.bind_eq_some_iff.mp whole
    obtain ⟨⟨tail, final⟩, later, equal⟩ := Option.map_eq_some_iff.mp found
    cases equal
    have begins : start c = some (head, next) := step
    have first : last.step c = some (pending ++ head, next) := by
      rw [stepApart ended separates, begins, Option.map_some]
    simp only [Begun.run, first, Option.bind_some, later, Option.map_some, List.append_assoc]
  rw [List.append_assoc]
  exact runAppend run later

theorem nameRun (text : List Char) {cs : List Char} (plain : '"' ∉ cs) :
    (Begun.name text).run cs = some ([], .name (text ++ cs)) := by
  induction cs generalizing text with
  | nil => rw [List.append_nil]; rfl
  | cons c rest ih =>
    have other : c ≠ '"' := (List.ne_of_not_mem_cons plain).symm
    have step : (Begun.name text).step c = some ([], .name (text ++ [c])) := by rw [Begun.step, if_neg other]
    simp only [Begun.run, step, Option.bind_some, ih (text ++ [c]) (List.not_mem_of_not_mem_cons plain),
      Option.map_some, List.append_assoc, List.cons_append, List.nil_append]

theorem nameWrites {name : String} (plain : '"' ∉ name.toList) : Writes (quote name).toList [.name name.toList] := by
  have opened : Begun.nothing.run ['"'] = some ([], .name []) := rfl
  have closed : (Begun.name name.toList).run ['"'] = some ([], .quoted name.toList) := rfl
  have text : (quote name).toList = ['"'] ++ (name.toList ++ ['"']) := by
    simp [quote]
  rw [text]
  exact ⟨[], .quoted name.toList, [.name name.toList], runAppend opened (runAppend (nameRun [] plain) closed), rfl, rfl⟩

theorem numberRun (n : Nat) {cs : List Char} (digits : ∀ c ∈ cs, c.isDigit = true) :
    (Begun.parameter (some n)).run cs = some ([], .parameter (some (Text.valueFrom n cs))) := by
  induction cs generalizing n with
  | nil => rfl
  | cons c rest ih =>
    have step : (Begun.parameter (some n)).step c = some ([], .parameter (some (n * 10 + (c.toNat - 48)))) := by
      rw [Begun.step, if_pos (digits c List.mem_cons_self)]
      rfl
    simp only [Begun.run, step, Option.bind_some, ih _ fun d member => digits d (List.mem_cons_of_mem c member),
      Option.map_some, List.append_nil]
    rfl

theorem parameterRun (n : Nat) : (Begun.parameter none).run (Nat.toDigits 10 n) = some ([], .parameter (some n)) := by
  have digits : ∀ c ∈ Nat.toDigits 10 n, c.isDigit = true := fun _ => Text.digitsOnly
  have value := Text.digitsValue n
  cases written : Nat.toDigits 10 n with
  | nil => exact absurd written Nat.toDigits_ne_nil
  | cons c rest =>
    rw [written] at digits value
    have step : (Begun.parameter none).step c = some ([], .parameter (some (0 * 10 + (c.toNat - 48)))) := by
      rw [Begun.step, if_pos (digits c List.mem_cons_self)]
      rfl
    have run := numberRun (0 * 10 + (c.toNat - 48)) fun d member => digits d (List.mem_cons_of_mem c member)
    have whole : Text.valueFrom (0 * 10 + (c.toNat - 48)) rest = n := value
    simp only [Begun.run, step, Option.bind_some, run, whole, Option.map_some, List.append_nil]

theorem parameterWrites (n : Nat) : Writes (placeholder n).toList [.parameter n] := by
  have opened : Begun.nothing.run ['$'] = some ([], .parameter none) := rfl
  have text : (placeholder n).toList = ['$'] ++ Nat.toDigits 10 n := by simp [placeholder]
  rw [text]
  exact ⟨[], .parameter (some n), [.parameter n], runAppend opened (parameterRun n), rfl, rfl⟩

theorem commaEnds : Ends ", ".toList [.symbol ','] := rfl

theorem commaWrites {α : Type} {items : List α} {text : α → String} {tokens : α → List Token}
    (each : ∀ x ∈ items, Writes (text x).toList (tokens x)) :
    Writes (commaList (items.map text)).toList ([Token.symbol ','].intercalate (items.map tokens)) := by
  induction items with
  | nil => exact ⟨[], .nothing, [], rfl, rfl, rfl⟩
  | cons x rest ih =>
    have first := each x List.mem_cons_self
    have later := ih fun y member => each y (List.mem_cons_of_mem x member)
    cases rest with
    | nil => simpa [commaList] using first
    | cons y more =>
      have both := (first.then commaEnds ⟨',', [' '], rfl, rfl⟩).then later
      simpa [commaList] using both

end Storefront.Sql
