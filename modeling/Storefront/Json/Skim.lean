import Storefront.Json.Reader

/-! Passing over a value that nobody wants. Only its form is checked: numbers have no range,
texts need not be UTF-8 and surrogates need not be paired, and nesting has no limit. -/
namespace Storefront.Json

def skimEscape : Bytes → Except Stop Bytes
  | [] => .error (stopHere .endInText [])
  | e :: rest =>
    if e = byte 'u' then (readFourHex rest).map Prod.snd
    else match simpleEscape? e with
      | some _ => .ok rest
      | none => .error (stopHere .invalidEscape rest)

/-- The rest of a text whose opening quote has been read. A control character is refused
before it is taken. -/
def skimText : Nat → Bytes → Except Stop Bytes
  | 0, rest => .error (stopHere .endInText rest)
  | _ + 1, [] => .error (stopHere .endInText [])
  | bound + 1, b :: rest =>
    if b = byte '"' then .ok rest
    else if b = byte '\\' then do
      let rest ← skimEscape rest
      skimText bound rest
    else if b < 0x20 then .error (stopHere .controlCharacter (b :: rest))
    else skimText bound rest

def dropDigits (bs : Bytes) : Bytes := bs.dropWhile isDigit

def skimFraction : Bytes → Except Stop Bytes
  | [] => .ok []
  | b :: rest =>
    if b = byte '.' then
      if startsWithDigit rest then .ok (dropDigits rest)
      else .error (stopAt .invalidNumber rest)
    else .ok (b :: rest)

def dropSign : Bytes → Bytes
  | [] => []
  | s :: rest => if s = byte '+' ∨ s = byte '-' then rest else s :: rest

def skimExponent : Bytes → Except Stop Bytes
  | [] => .ok []
  | b :: rest =>
    if b = byte 'e' ∨ b = byte 'E' then
      match dropSign rest with
      | [] => .error (stopHere .invalidNumber [])
      | d :: r =>
        if isDigit d then .ok (dropDigits r) else .error (stopHere .invalidNumber r)
    else .ok (b :: rest)

def skimNumber : Bytes → Except Stop Bytes
  | [] => .error (stopHere .invalidNumber [])
  | b :: rest =>
    if !isDigit b then .error (stopHere .invalidNumber rest)
    else if b = byte '0' && startsWithDigit rest then .error (stopAt .invalidNumber rest)
    else do
      let rest ← skimFraction (if b = byte '0' then rest else dropDigits rest)
      skimExponent rest

def skimScalar (bound : Nat) (b : UInt8) (rest : Bytes) : Except Stop Bytes :=
  if b = byte 'n' then readWord ['u', 'l', 'l'] rest
  else if b = byte 't' then readWord ['r', 'u', 'e'] rest
  else if b = byte 'f' then readWord ['a', 'l', 's', 'e'] rest
  else if b = byte '"' then skimText bound rest
  else if b = byte '-' then skimNumber rest
  else if isDigit b then skimNumber (b :: rest)
  else .error (stopAt .expectedValue (b :: rest))

inductive Frame where
  | array
  | object
  deriving DecidableEq, Repr

def Frame.close : Frame → UInt8
  | .array => byte ']'
  | .object => byte '\x7d'

def Frame.ended : Frame → Fault
  | .array => .endInList
  | .object => .endInObject

def Frame.expected : Frame → Fault
  | .array => .expectedCommaOrBracket
  | .object => .expectedCommaOrBrace

def skimName (bound : Nat) (frame : Frame) (bs : Bytes) : Except Stop Bytes :=
  match frame with
  | .array => .ok bs
  | .object =>
    match skipSpace bs with
    | [] => .error (stopHere .endInObject [])
    | b :: rest =>
      if b = byte '"' then do
        let rest ← skimText bound rest
        readColon rest
      else .error (stopAt .keyNotText (b :: rest))

/-- Passes over values until every frame is closed. `due` says whether a value is next or
one has just ended. -/
def skimFrom (limit : Nat) : Nat → List Frame → Bool → Bytes → Except Stop Bytes
  | 0, _, _, rest => .error (stopHere .endInValue rest)
  | bound + 1, frames, true, bs =>
    match skipSpace bs with
    | [] => .error (stopHere .endInValue [])
    | b :: rest =>
      if b = byte '[' ∨ b = byte '\x7b' then
        let frame := if b = byte '[' then Frame.array else Frame.object
        match skipSpace rest with
        | [] => .error (stopHere frame.ended [])
        | c :: r =>
          if c = frame.close then skimFrom limit bound frames false r
          else do
            let rest ← skimName limit frame (c :: r)
            skimFrom limit bound (frame :: frames) true rest
      else do
        let rest ← skimScalar limit b rest
        skimFrom limit bound frames false rest
  | _ + 1, [], false, bs => .ok bs
  | bound + 1, frame :: frames, false, bs =>
    match skipSpace bs with
    | [] => .error (stopHere frame.ended [])
    | b :: rest =>
      if b = byte ',' then do
        let rest ← skimName limit frame rest
        skimFrom limit bound (frame :: frames) true rest
      else if b = frame.close then skimFrom limit bound frames false rest
      else .error (stopAt frame.expected (b :: rest))

/-- Passes over one value. Each of its bytes takes at most two steps. -/
def skimValue (bound : Nat) (bs : Bytes) : Except Stop Bytes :=
  skimFrom bound (2 * bound) [] true bs

end Storefront.Json
