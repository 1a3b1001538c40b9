import Storefront.Text.Utf8

/-! Media types: a type and a subtype, which may end in a plus sign and a suffix, and
parameters after semicolons. Type and subtype are tokens; a parameter's value is a token or
quoted. No space may stand before a semicolon. -/
namespace Storefront.Http

structure MediaType where
  type : List Char
  subtype : List Char
  suffix : Option (List Char)
  deriving DecidableEq, Repr

namespace MediaType

def isToken (c : Char) : Bool :=
  c.isAlphanum || "!#$%&'*+-.^_`|~".toList.contains c

def isQuotable (c : Char) : Bool := 31 < c.toNat && c.toNat ≠ 127

/-- What follows the closing quote of a value. The first character belongs to the value
whatever it is, even if it is a quote. -/
def afterQuoted : List Char → Option (List Char)
  | [] => none
  | c :: rest =>
    let value := rest.takeWhile (· ≠ '"')
    match rest.dropWhile (· ≠ '"') with
    | [] => none
    | _ :: after => if isQuotable c && value.all isQuotable then some after else none

def startsWithToken : List Char → Bool
  | [] => false
  | c :: _ => isToken c

def parametersOk : Nat → List Char → Bool
  | 0, _ => false
  | _ + 1, [] => true
  | bound + 1, ' ' :: rest => parametersOk bound rest
  | bound + 1, cs =>
    match cs.takeWhile isToken, cs.dropWhile isToken with
    | _ :: _, '=' :: '"' :: rest =>
      match afterQuoted rest with
      | none => false
      | some after =>
        match after.dropWhile (· = ' ') with
        | [] => true
        | c :: rest => c = ';' && parametersOk bound rest
    | _ :: _, '=' :: rest =>
      match rest.dropWhile isToken with
      | [] => true
      | c :: after => c = ';' && startsWithToken rest && parametersOk bound after
    | _, _ => false

/-- A subtype is cut at its last plus sign, unless that is its first character. -/
def split (cs : List Char) : List Char × Option (List Char) :=
  let suffix := (cs.reverse.takeWhile (· ≠ '+')).reverse
  let before := cs.take (cs.length - suffix.length - 1)
  if cs.contains '+' && !before.isEmpty then (before, some suffix) else (cs, none)

def lower (cs : List Char) : List Char := cs.map Char.toLower

def parse? (cs : List Char) : Option MediaType :=
  let type := cs.takeWhile isToken
  match type, cs.dropWhile isToken with
  | _ :: _, '/' :: rest =>
    let whole := rest.takeWhile isToken
    let (subtype, suffix) := split whole
    let found : MediaType := ⟨lower type, lower subtype, suffix.map lower⟩
    match rest.dropWhile isToken with
    | [] => some found
    | c :: parameters =>
      if c = ';' && !whole.isEmpty && parametersOk (parameters.length + 1) parameters then
        some found
      else none
  | _, _ => none

def isJson (m : MediaType) : Bool :=
  m.type = "application".toList &&
    (m.subtype = "json".toList || m.suffix = some "json".toList)

def visible? (bs : Bytes) : Option (List Char) :=
  if bs.all fun b => (0x20 ≤ b && b < 0x7F) || b = 0x09 then
    some (bs.map fun b => Char.ofNat b.toNat)
  else none

def announcesJson (value : Option Bytes) : Bool :=
  match (value.bind visible?).bind parse? with
  | some m => m.isJson
  | none => false

end MediaType

end Storefront.Http
