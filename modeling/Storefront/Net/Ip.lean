import Storefront.Text.Digits
import Storefront.Text.Split

/-! Texts that are IP addresses. Four decimal octets make an address of the fourth version;
eight groups of hexadecimal digits make one of the sixth, where a double colon stands for at
least one group of zeros and the last two groups may be written as four octets. -/
namespace Storefront.Net

def isOctet (cs : List Char) : Bool :=
  match cs with
  | [] => false
  | ['0'] => true
  | c :: _ => c ≠ '0' && cs.length ≤ 3 && cs.all Text.isDigit && Text.decimal cs ≤ 255

def isIpv4 (cs : List Char) : Bool :=
  let octets := Text.split '.' cs
  octets.length = 4 && octets.all isOctet

def isGroup (cs : List Char) : Bool :=
  !cs.isEmpty && cs.length ≤ 4 && cs.all fun c => (Text.hexValueOf? c).isSome

/-- How many groups the parts stand for; the last may be four octets if `mixed`. -/
def countParts (mixed : Bool) : List (List Char) → Option Nat
  | [] => some 0
  | [part] =>
    if isGroup part then some 1
    else if mixed && isIpv4 part then some 2
    else none
  | part :: parts => if isGroup part then (countParts mixed parts).map (· + 1) else none

def countGroups (mixed : Bool) (cs : List Char) : Option Nat :=
  if cs.isEmpty then some 0 else countParts mixed (Text.split ':' cs)

def cutGap? : List Char → Option (List Char × List Char)
  | [] => none
  | ':' :: ':' :: rest => some ([], rest)
  | c :: rest => (cutGap? rest).map fun (before, after) => (c :: before, after)

def isIpv6 (cs : List Char) : Bool :=
  match cutGap? cs with
  | none => countGroups true cs = some 8
  | some (before, after) =>
    match countGroups false before, countGroups true after with
    | some m, some n => m + n ≤ 7
    | _, _ => false

def isIp (cs : List Char) : Bool := isIpv4 cs || isIpv6 cs

def numeral? (base : Nat) (cs : List Char) : Option Nat :=
  cs.foldlM
    (fun n c => do
      let digit ← Text.hexValueOf? c
      if digit < base then some (n * base + digit) else none)
    0

def laxPart? (cs : List Char) : Option Nat :=
  match cs with
  | [] => none
  | '0' :: 'x' :: rest | '0' :: 'X' :: rest => numeral? 16 rest
  | '0' :: c :: rest => numeral? 8 (c :: rest)
  | cs => numeral? 10 cs

/-- The parts of a dotted text, without the empty part that a final dot leaves. -/
def dottedParts (cs : List Char) : List (List Char) :=
  let parts := Text.split '.' cs
  if parts.getLast? = some [] then parts.dropLast else parts

def endsInNumber (cs : List Char) : Bool :=
  match (dottedParts cs).getLast? with
  | none => false
  | some part => (!part.isEmpty && part.all Text.isDigit) || (laxPart? part).isSome

/-- One to four parts, of which the last fills the octets that the others leave. -/
def isLaxIpv4 (cs : List Char) : Bool :=
  match (dottedParts cs).mapM laxPart? with
  | none => false
  | some numbers =>
    match numbers.getLast? with
    | none => false
    | some last =>
      numbers.length ≤ 4 && numbers.dropLast.all (· ≤ 255) &&
        last < Nat.pow 256 (5 - numbers.length)

end Storefront.Net
