/-! Finite non-negative binary floating-point numbers of 64 bits, held exactly as
`significand * 2 ^ exponent`. A quotient is rounded once, to the nearest such number and
half-way cases to the even significand; what rounds past the largest has no value. -/
namespace Storefront

structure Binary64 where
  significand : Nat
  exponent : Int
  deriving DecidableEq, Repr

namespace Binary64

def lowest : Int := -1074

def highest : Int := 971

def zero : Binary64 := ⟨0, lowest⟩

def isZero (x : Binary64) : Bool := x.significand == 0

def ratio (x : Binary64) : Nat × Nat :=
  if 0 ≤ x.exponent then (x.significand * Nat.pow 2 x.exponent.toNat, 1)
  else (x.significand, Nat.pow 2 (-x.exponent).toNat)

def roundHalfEven (num den : Nat) : Nat :=
  let q := num / den
  let r := num % den
  if 2 * r < den then q else if den < 2 * r then q + 1 else q + q % 2

def atLeastPower (num den : Nat) (e : Int) : Bool :=
  if 0 ≤ e then den * Nat.pow 2 e.toNat ≤ num else den ≤ num * Nat.pow 2 (-e).toNat

def topBit (num den : Nat) : Int :=
  let e : Int := (Nat.log2 num : Int) - (Nat.log2 den : Int)
  if atLeastPower num den e then e else e - 1

/-- The nearest number to a quotient, absent when it would pass the largest. -/
def ofRatio? (num den : Nat) : Option Binary64 :=
  if num = 0 then some zero
  else
    let e := max (topBit num den - 52) lowest
    let m :=
      if 0 ≤ e then roundHalfEven num (den * Nat.pow 2 e.toNat)
      else roundHalfEven (num * Nat.pow 2 (-e).toNat) den
    let rounded : Binary64 := if m = Nat.pow 2 53 then ⟨Nat.pow 2 52, e + 1⟩ else ⟨m, e⟩
    if highest < rounded.exponent then none else some rounded

def mul? (x y : Binary64) : Option Binary64 :=
  let (a, b) := x.ratio
  let (c, d) := y.ratio
  ofRatio? (a * c) (b * d)

def div? (x y : Binary64) : Option Binary64 :=
  let (a, b) := x.ratio
  let (c, d) := y.ratio
  ofRatio? (a * d) (b * c)

def powerOfTen (e : Nat) : Binary64 := (ofRatio? (Nat.pow 10 e) 1).getD zero

/-- Division by the largest power of ten until the exponent left is within the table.
Two divisions take any 64-bit significand to zero, so three rounds always suffice. -/
def sink : Nat → Binary64 → Nat → Binary64
  | 0, _, _ => zero
  | rounds + 1, x, e =>
    if x.isZero then zero
    else if e ≤ 308 then (x.div? (powerOfTen e)).getD zero
    else sink rounds ((x.div? (powerOfTen 308)).getD zero) (e - 308)

/-- A 64-bit significand scaled by a power of ten in one multiplication or division, each
rounded: not always the nearest number to the exact product. Absent when too large. -/
def scaled? (significand : Nat) (e : Int) : Option Binary64 := do
  let x ← ofRatio? significand 1
  if e < 0 then some (sink 3 x (-e).toNat)
  else if e ≤ 308 then x.mul? (powerOfTen e.toNat)
  else if x.isZero then some zero
  else none

end Binary64

end Storefront
