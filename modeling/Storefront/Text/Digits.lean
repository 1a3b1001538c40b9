import Storefront.Text.Utf8

/-! Digits of ASCII. Decimal digits make numbers; hexadecimal digits stand for the halves of a
byte, and are read in either case. -/
namespace Storefront.Text

def isDigit (c : Char) : Bool := '0' ≤ c && c ≤ '9'

def decimal (cs : List Char) : Nat := cs.foldl (fun n c => n * 10 + (c.toNat - 48)) 0

def hexDigit (n : Nat) : Char :=
  Char.ofNat (if n < 10 then 0x30 + n else 0x57 + n)

def upperHexDigit (n : Nat) : Char :=
  Char.ofNat (if n < 10 then 0x30 + n else 0x37 + n)

def hexValue? (b : UInt8) : Option Nat :=
  let n := b.toNat
  if 0x30 ≤ n ∧ n ≤ 0x39 then some (n - 0x30)
  else if 0x41 ≤ n ∧ n ≤ 0x46 then some (n - 0x37)
  else if 0x61 ≤ n ∧ n ≤ 0x66 then some (n - 0x57)
  else none

def hexValueOf? (c : Char) : Option Nat :=
  if c.toNat < 128 then hexValue? (UInt8.ofNat c.toNat) else none

end Storefront.Text
