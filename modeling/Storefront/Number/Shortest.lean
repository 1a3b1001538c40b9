import Storefront.Number.Binary64

/-! Decimal text of a binary number: the fewest significant digits that read back to it,
and of those the nearest, in positional notation while the leading digit stands between
the fifth place after the point and the sixteenth before it. -/
namespace Storefront.Binary64

/-- `c * 10 ^ p` compared with `num / den`. -/
def decimalAtMost (c : Nat) (p : Int) (num den : Nat) : Bool :=
  if 0 ≤ p then c * Nat.pow 10 p.toNat * den ≤ num else c * den ≤ num * Nat.pow 10 (-p).toNat

def decimalAtLeast (c : Nat) (p : Int) (num den : Nat) : Bool :=
  if 0 ≤ p then num ≤ c * Nat.pow 10 p.toNat * den else num * Nat.pow 10 (-p).toNat ≤ c * den

/-- The place of the leading decimal digit of a positive quotient. The binary logarithm
bounds it from below within one. -/
def leadingPlace (num den : Nat) : Int :=
  let e := (topBit num den * 30103).fdiv 100000
  if decimalAtMost 1 (e + 1) num den then e + 1
  else if decimalAtMost 1 e num den then e
  else e - 1

/-- The numbers that round to `x` lie from `low` to `high`, all over `den`; the ends
belong to them when the significand is even. -/
structure Interval where
  low : Nat
  value : Nat
  high : Nat
  den : Nat
  closed : Bool

def interval (x : Binary64) : Interval :=
  let m := x.significand
  let below := if m = Nat.pow 2 52 ∧ lowest < x.exponent then 1 else 2
  let e := x.exponent - 2
  let up := Nat.pow 2 e.toNat
  ⟨(4 * m - below) * up, 4 * m * up, (4 * m + 2) * up, Nat.pow 2 (-e).toNat, m % 2 = 0⟩

def Interval.holds (i : Interval) (c : Nat) (p : Int) : Bool :=
  if i.closed then decimalAtLeast c p i.low i.den && decimalAtMost c p i.high i.den
  else !decimalAtMost c p i.low i.den && !decimalAtLeast c p i.high i.den

/-- Of the two grid points around the value, whether the upper one is nearer; a tie goes to
the even one. -/
def Interval.upperNearer (i : Interval) (c : Nat) (p : Int) : Bool :=
  if 0 ≤ p then
    let twice := (2 * c + 1) * Nat.pow 10 p.toNat * i.den
    twice < 2 * i.value || (twice == 2 * i.value && c % 2 == 1)
  else
    let twice := (2 * c + 1) * i.den
    let exact := 2 * i.value * Nat.pow 10 (-p).toNat
    twice < exact || (twice == exact && c % 2 == 1)

def Interval.onGrid? (i : Interval) (p : Int) : Option Nat :=
  let c := if 0 ≤ p then i.value / (i.den * Nat.pow 10 p.toNat)
    else i.value * Nat.pow 10 (-p).toNat / i.den
  match i.holds c p, i.holds (c + 1) p with
  | true, true => some (if i.upperNearer c p then c + 1 else c)
  | true, false => some c
  | false, true => some (c + 1)
  | false, false => none

/-- Digits and the power of ten of the last of them. Seventeen digits always suffice. -/
def shortest (x : Binary64) : Nat × Int :=
  let i := x.interval
  let top := leadingPlace i.value i.den
  let grids := (List.range 17).map fun (n : Nat) => top - (n : Int)
  (grids.findSome? fun p => (i.onGrid? p).map fun c => (c, p)).getD (0, 0)

def zeros (n : Nat) : List Char := List.replicate n '0'

def layout (digits : List Char) (p : Int) : List Char :=
  let top := (digits.length : Int) + p - 1
  if -5 ≤ top ∧ top ≤ 15 then
    if 0 ≤ p then digits ++ zeros p.toNat ++ ['.', '0']
    else if 0 ≤ top then
      digits.take (top.toNat + 1) ++ ['.'] ++ digits.drop (top.toNat + 1)
    else ['0', '.'] ++ zeros (-top - 1).toNat ++ digits
  else
    let mark := if 0 ≤ top then ['e', '+'] else ['e', '-']
    let tail := digits.drop 1
    digits.take 1 ++ (if tail.isEmpty then [] else '.' :: tail) ++ mark ++
      Nat.toDigits 10 top.natAbs

def dropTrailingZeros (digits : List Char) (p : Int) : List Char × Int :=
  let kept := (digits.reverse.dropWhile (· == '0')).reverse
  (kept, p + ((digits.length - kept.length : Nat) : Int))

def text (x : Binary64) : List Char :=
  if x.isZero then ['0', '.', '0']
  else
    let (c, p) := x.shortest
    let (digits, p) := dropTrailingZeros (Nat.toDigits 10 c) p
    layout digits p

end Storefront.Binary64
