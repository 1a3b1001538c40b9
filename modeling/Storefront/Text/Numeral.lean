/-! Unsigned decimal numerals with an upper limit: an optional plus sign and one or more ASCII
digits, leading zeros allowed. Of two faults the one further left is reported, and a value
has passed the limit as soon as the digits so far do. -/
namespace Storefront.Text

inductive NumeralFault where
  | empty
  | invalidDigit
  | tooLarge
  deriving DecidableEq, Repr

def NumeralFault.message : NumeralFault → String
  | .empty => "cannot parse integer from empty string"
  | .invalidDigit => "invalid digit found in string"
  | .tooLarge => "number too large to fit in target type"

def readNumeral (limit : Nat) : Nat → List Char → Except NumeralFault Nat
  | n, [] => .ok n
  | n, c :: cs =>
    if c < '0' ∨ '9' < c then .error .invalidDigit
    else
      let next := n * 10 + (c.toNat - 48)
      if limit < next then .error .tooLarge else readNumeral limit next cs

/-- A lone sign is an invalid digit. -/
def parseNumeral (limit : Nat) (cs : List Char) : Except NumeralFault Nat :=
  match cs with
  | [] => .error .empty
  | ['+'] => .error .invalidDigit
  | '+' :: rest => readNumeral limit 0 rest
  | rest => readNumeral limit 0 rest

end Storefront.Text
