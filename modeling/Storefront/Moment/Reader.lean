import Storefront.Moment
import Storefront.Text.Blank
import Storefront.Text.Digits

/-! Reading moments in a lenient form of RFC 3339. Parts may have fewer digits than usual and
white space around them; a year with a sign may have any number of digits; the offset is `Z`,
`UTC`, or hours and minutes with or without a colon between them. -/
namespace Storefront.Moment

inductive Fault where
  | outOfRange
  | impossible
  | invalid
  | tooShort
  | tooLong
  deriving DecidableEq, Repr

def Fault.message : Fault → String
  | .outOfRange => "input is out of range"
  | .impossible => "no possible date and time matching input"
  | .invalid => "input contains invalid characters"
  | .tooShort => "premature end of input"
  | .tooLong => "trailing input"

abbrev Chars := List Char

/-- A number of at least one digit; digits past `width` are left, if there is one. -/
def readNatural (width : Option Nat) (cs : Chars) : Except Fault (Nat × Chars) :=
  match cs with
  | [] => .error .tooShort
  | c :: _ =>
    if !Text.isDigit c then .error .invalid
    else
      let run := cs.takeWhile Text.isDigit
      let digits := match width with
        | some w => run.take w
        | none => run
      .ok (Text.decimal digits, cs.drop digits.length)

def readLiteral (c : Char) : Chars → Except Fault Chars
  | [] => .error .tooShort
  | d :: rest => if d = c then .ok rest else .error .invalid

/-- A year, in which a sign lifts the limit of four digits. -/
def readYear (cs : Chars) : Except Fault (Int × Chars) := do
  let (year, rest) ← match Text.trimLeft cs with
    | '-' :: rest => (readNatural none rest).map fun (n, r) => (-(n : Int), r)
    | '+' :: rest => (readNatural none rest).map fun (n, r) => ((n : Int), r)
    | rest => (readNatural (some 4) rest).map fun (n, r) => ((n : Int), r)
  if -2147483648 ≤ year ∧ year ≤ 2147483647 then .ok (year, rest) else .error .outOfRange

def readPart (low high : Nat) (cs : Chars) : Except Fault (Nat × Chars) := do
  let (n, rest) ← readNatural (some 2) (Text.trimLeft cs)
  if low ≤ n ∧ n ≤ high then .ok (n, rest) else .error .outOfRange

def readSeparator (c : Char) (cs : Chars) : Except Fault Chars :=
  readLiteral c (Text.trimLeft cs)

/-- Nanoseconds after a point; digits past the ninth are dropped. -/
def readFraction : Chars → Except Fault (Nat × Chars)
  | '.' :: rest => do
    let (n, left) ← readNatural (some 9) rest
    let width := rest.length - left.length
    .ok (n * Nat.pow 10 (9 - width), left.dropWhile Text.isDigit)
  | rest => .ok (0, rest)

/-- Two digits. What is left counts in bytes, so a lone character past ASCII is not short. -/
def readTwo : Chars → Except Fault (Nat × Nat × Chars)
  | a :: b :: rest =>
    if Text.isDigit a && Text.isDigit b then .ok (a.toNat - 48, b.toNat - 48, rest)
    else .error .invalid
  | [a] => if a.toNat < 0x80 then .error .tooShort else .error .invalid
  | [] => .error .tooShort

/-- Seconds east of universal time. -/
def readOffset (cs : Chars) : Except Fault (Int × Chars) :=
  match cs with
  | [] => .error .tooShort
  | 'Z' :: rest => .ok (0, rest)
  | 'z' :: rest => .ok (0, rest)
  | sign :: rest =>
    if sign = '+' ∨ sign = '-' ∨ sign.toNat = 0x2212 then do
      let (a, b, rest) ← readTwo rest
      let rest := rest.dropWhile fun c => c = ':' || Text.isBlank c
      let (x, y, rest) ← readTwo rest
      if 6 ≤ x then .error .outOfRange
      else
        let seconds : Int := (((a * 10 + b) * 3600 + (x * 10 + y) * 60 : Nat) : Int)
        .ok (if sign = '+' then seconds else -seconds, rest)
    else .error .invalid

def readZone (cs : Chars) : Except Fault (Int × Chars) :=
  let rest := Text.trimLeft cs
  if (rest.take 3).map Char.toUpper = ['U', 'T', 'C'] then .ok (0, rest.drop 3)
  else readOffset rest

def shifted (date : Date) (hour minute second nano : Nat) (offset : Int) :
    Except Fault Moment :=
  if !date.isValid then .error .outOfRange
  else if offset ≤ -86400 ∨ 86400 ≤ offset then .error .outOfRange
  else
    let leap := second = 60
    let clock : Nat := hour * 3600 + minute * 60 + (if leap then 59 else second)
    let total := date.toDays * 86400 + (clock : Int) - offset
    let day := total / 86400
    let year := (Date.ofDays day).year
    if Date.earliestYear ≤ year ∧ year ≤ Date.latestYear then
      .ok ⟨day, (total % 86400).toNat, nano + (if leap then 1000000000 else 0)⟩
    else .error .impossible

def parse (s : String) : Except Fault Moment := do
  let (year, rest) ← readYear s.toList
  let rest ← readSeparator '-' rest
  let (month, rest) ← readPart 1 12 rest
  let rest ← readSeparator '-' rest
  let (day, rest) ← readPart 1 31 rest
  let rest ← match rest with
    | [] => .error .tooShort
    | c :: rest => if c = 'T' ∨ c = 't' ∨ c = ' ' then .ok rest else .error .invalid
  let (hour, rest) ← readPart 0 23 rest
  let rest ← readSeparator ':' rest
  let (minute, rest) ← readPart 0 59 rest
  let rest ← readSeparator ':' rest
  let (second, rest) ← readPart 0 60 rest
  let (nano, rest) ← readFraction rest
  let (offset, rest) ← readZone rest
  if (Text.trimLeft rest).isEmpty then shifted ⟨year, month, day⟩ hour minute second nano offset
  else .error .tooLong

end Storefront.Moment
