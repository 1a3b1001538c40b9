import Storefront.Text.Split

/-! Punycode, which writes text in letters, digits and hyphens. What is in ASCII already comes
first, up to the last hyphen; the digits after it say which characters to put in, and where.
Each number of digits counts the steps from the last insertion, through the places of the text
and then through the code points. -/
namespace Storefront.Net.Punycode

def digit? (c : Char) : Option Nat :=
  if 'a' ≤ c ∧ c ≤ 'z' then some (c.toNat - 97)
  else if '0' ≤ c ∧ c ≤ '9' then some (c.toNat - 22)
  else none

/-- A digit below its threshold is the last of its number. -/
def threshold (k bias : Nat) : Nat := min 26 (max 1 (k - bias))

def scaleDown (delta k : Nat) : Nat × Nat :=
  if 455 < delta then scaleDown (delta / 35) (k + 36) else (delta, k)
termination_by delta
decreasing_by exact Nat.div_lt_self (by omega) (by omega)

def adapt (delta length : Nat) (first : Bool) : Nat :=
  let delta := if first then delta / 700 else delta / 2
  let (delta, k) := scaleDown (delta + delta / length) 0
  k + 36 * delta / (delta + 38)

structure State where
  text : List Char
  codePoint : Nat := 0x80
  /-- The place where the last insertion ended. -/
  start : Nat := 0
  place : Nat := 0
  bias : Nat := 72
  weight : Nat := 1
  k : Nat := 36
  deriving DecidableEq, Repr

def limit : Nat := Nat.pow 2 32

def charOf? (n : Nat) : Option Char := if n.isValidChar then some (Char.ofNat n) else none

def State.insert (s : State) (place : Nat) : Option State :=
  let length := s.text.length + 1
  let codePoint := s.codePoint + place / length
  let index := place % length
  (charOf? codePoint).map fun c =>
    { text := s.text.take index ++ c :: s.text.drop index
      codePoint
      start := index + 1
      place := index + 1
      bias := adapt (place - s.start) length (s.start = 0) }

def State.step (s : State) (d : Nat) : Option State :=
  let place := s.place + d * s.weight
  let t := threshold s.k s.bias
  if limit ≤ place then none
  else if d < t then s.insert place
  else if limit ≤ s.weight * (36 - t) then none
  else some { s with place, weight := s.weight * (36 - t), k := s.k + 36 }

def State.run (s : State) : List Char → Option (List Char)
  | [] => if s.k = 36 then some s.text else none
  | c :: rest => do (← s.step (← digit? c)).run rest

/-- What stands before the last hyphen, and the digits. A hyphen at the very front is none. -/
def parts (cs : List Char) : List Char × List Char :=
  match Text.cutLast? '-' cs with
  | some ([], _) | none => ([], cs)
  | some parts => parts

def decode? (cs : List Char) : Option (List Char) :=
  let (text, digits) := parts cs
  if text.all fun c => c.toNat < 0x80 then ({ text } : State).run digits else none

end Storefront.Net.Punycode
