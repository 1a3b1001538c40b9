import Storefront.Json.Fault
import Storefront.Text.Digits

/-! The parts of a JSON text below values: white space, words, texts and numbers. Every
reader takes the bytes that are left and returns those it leaves; a refusal says how many
bytes were left where it is reported. `bound` limits the steps of a loop; a number above
the length of the text never stops one. -/
namespace Storefront.Json

structure Stop where
  fault : Fault
  left : Nat
  steps : List Step
  deriving DecidableEq, Repr

def stopHere (fault : Fault) (rest : Bytes) : Stop := ⟨fault, rest.length, []⟩

/-- A refusal of the next byte, which counts as read; at the end there is none. -/
def stopAt (fault : Fault) (rest : Bytes) : Stop := ⟨fault, rest.length - 1, []⟩

def byte (c : Char) : UInt8 := UInt8.ofNat c.toNat

def isSpace (b : UInt8) : Bool := b = 0x20 || b = 0x0A || b = 0x09 || b = 0x0D

def skipSpace (bs : Bytes) : Bytes := bs.dropWhile isSpace

def readWord : List Char → Bytes → Except Stop Bytes
  | [], bs => .ok bs
  | _ :: _, [] => .error (stopHere .endInValue [])
  | c :: cs, b :: bs =>
    if b = byte c then readWord cs bs else .error (stopHere .expectedIdent bs)

/-- Four hexadecimal digits; all four are taken before any is judged. -/
def readFourHex : Bytes → Except Stop (Nat × Bytes)
  | a :: b :: c :: d :: rest =>
    match Text.hexValue? a, Text.hexValue? b, Text.hexValue? c, Text.hexValue? d with
    | some w, some x, some y, some z => .ok (((w * 16 + x) * 16 + y) * 16 + z, rest)
    | _, _, _, _ => .error (stopHere .invalidEscape rest)
  | _ => .error (stopHere .endInText [])

def isLowSurrogate (n : Nat) : Bool := 0xDC00 ≤ n && n ≤ 0xDFFF

def isHighSurrogate (n : Nat) : Bool := 0xD800 ≤ n && n ≤ 0xDBFF

def readLowSurrogate : Bytes → Except Stop (Nat × Bytes)
  | [] => .error (stopHere .endInText [])
  | b :: rest =>
    if b ≠ byte '\\' then .error (stopHere .endOfEscape rest)
    else match rest with
      | [] => .error (stopHere .endInText [])
      | u :: rest =>
        if u ≠ byte 'u' then .error (stopHere .endOfEscape rest)
        else do
          let (n, rest) ← readFourHex rest
          if isLowSurrogate n then .ok (n, rest) else .error (stopHere .loneSurrogate rest)

def readCodePoint (bs : Bytes) : Except Stop (Char × Bytes) := do
  let (n, rest) ← readFourHex bs
  if isLowSurrogate n then .error (stopHere .loneSurrogate rest)
  else if isHighSurrogate n then do
    let (m, rest) ← readLowSurrogate rest
    .ok (Char.ofNat (0x10000 + (n - 0xD800) * 0x400 + (m - 0xDC00)), rest)
  else .ok (Char.ofNat n, rest)

def simpleEscape? (b : UInt8) : Option UInt8 :=
  if b = byte '"' ∨ b = byte '\\' ∨ b = byte '/' then some b
  else if b = byte 'b' then some 0x08
  else if b = byte 'f' then some 0x0C
  else if b = byte 'n' then some 0x0A
  else if b = byte 'r' then some 0x0D
  else if b = byte 't' then some 0x09
  else none

def readEscape : Bytes → Except Stop (Bytes × Bytes)
  | [] => .error (stopHere .endInText [])
  | e :: rest =>
    if e = byte 'u' then do
      let (c, rest) ← readCodePoint rest
      .ok (String.utf8EncodeChar c, rest)
    else match simpleEscape? e with
      | some b => .ok ([b], rest)
      | none => .error (stopHere .invalidEscape rest)

/-- The bytes of a text whose opening quote has been read. `done` holds those so far, last
first. -/
def readTextBytes : Nat → Bytes → Bytes → Except Stop (Bytes × Bytes)
  | 0, _, rest => .error (stopHere .endInText rest)
  | _ + 1, _, [] => .error (stopHere .endInText [])
  | bound + 1, done, b :: rest =>
    if b = byte '"' then .ok (done.reverse, rest)
    else if b = byte '\\' then do
      let (bytes, rest) ← readEscape rest
      readTextBytes bound (bytes.reverse ++ done) rest
    else if b < 0x20 then .error (stopHere .controlCharacter rest)
    else readTextBytes bound (b :: done) rest

/-- The rest of a text whose opening quote has been read. Its bytes are judged when the
closing quote has been found. The first that is not part of a character is then refused, as
many places before the end as bytes are left to judge: an escape counts as what it stands
for. -/
def readText (bound : Nat) (bs : Bytes) : Except Stop (String × Bytes) := do
  let (bytes, rest) ← readTextBytes bound [] bs
  match Text.Utf8.decode bytes with
  | .ok cs => .ok (String.ofList cs, rest)
  | .error fault =>
    .error ⟨.invalidCodePoint, rest.length + (bytes.length - fault.sound), []⟩

def isDigit (b : UInt8) : Bool := 0x30 ≤ b && b ≤ 0x39

def startsWithDigit : Bytes → Bool
  | [] => false
  | b :: _ => isDigit b

def readDigits (bs : Bytes) : List Nat × Bytes :=
  ((bs.takeWhile isDigit).map fun b => b.toNat - 0x30, bs.dropWhile isDigit)

/-- Appends digits to a number while it stays within the limit; the digits not taken are
returned. -/
def takeWithin (limit : Nat) : Nat → List Nat → Nat × List Nat
  | n, [] => (n, [])
  | n, d :: ds => if limit < n * 10 + d then (n, d :: ds) else takeWithin limit (n * 10 + d) ds

def largestWord : Nat := Nat.pow 2 64 - 1

def largestExponent : Nat := Nat.pow 2 31 - 1

def readFraction : Bytes → Except Stop (Option (List Nat) × Bytes)
  | [] => .ok (none, [])
  | b :: rest =>
    if b = byte '.' then
      match readDigits rest with
      | ([], []) => .error (stopHere .endInValue [])
      | ([], r) => .error (stopAt .invalidNumber r)
      | (ds, r) => .ok (some ds, r)
    else .ok (none, b :: rest)

def readExponent : Bytes → Except Stop (Option (Bool × List Nat) × Bytes)
  | [] => .ok (none, [])
  | b :: rest =>
    if b = byte 'e' ∨ b = byte 'E' then
      let (negative, rest) :=
        match rest with
        | s :: r =>
          if s = byte '+' then (false, r) else if s = byte '-' then (true, r) else (false, s :: r)
        | [] => (false, [])
      match rest with
      | [] => .error (stopHere .endInValue [])
      | d :: r =>
        if isDigit d then
          let (ds, r) := readDigits (d :: r)
          .ok (some (negative, ds), r)
        else .error (stopHere .invalidNumber r)
    else .ok (none, b :: rest)

/-- An integer that fits 64 bits stays one; with a sign it has to fit the signed range, and
zero with a sign becomes a float, which can hold it. -/
def integerValue (negative : Bool) (n : Nat) : Number :=
  if !negative then .integer n
  else if n = 0 ∨ Nat.pow 2 63 < n then .float true ((Binary64.ofRatio? n 1).getD .zero)
  else .integer (-n)

def floatValue (negative : Bool) (significand : Nat) (exponent : Int) (rest : Bytes) :
    Except Stop (Number × Bytes) :=
  match Binary64.scaled? significand exponent with
  | some x => .ok (.float negative x, rest)
  | none => .error (stopHere .numberOutOfRange rest)

/-- The value of a number's digits. The significand takes whole digits and then fraction
digits while it fits 64 bits, and the exponent makes up for whole digits left out. -/
def numberValue (negative : Bool) (whole : List Nat) (fraction : Option (List Nat))
    (exponent : Option (Bool × List Nat)) (rest : Bytes) : Except Stop (Number × Bytes) :=
  let (n, dropped) := takeWithin largestWord 0 whole
  match fraction, exponent with
  | none, none =>
    if dropped.isEmpty then .ok (integerValue negative n, rest)
    else floatValue negative n dropped.length rest
  | _, _ =>
    let places := fraction.getD []
    let (n, unused) := takeWithin largestWord n places
    let scale : Int := (dropped.length : Int) - ((places.length - unused.length : Nat) : Int)
    match exponent with
    | none => floatValue negative n scale rest
    | some (down, ds) =>
      match takeWithin largestExponent 0 ds with
      | (e, []) => floatValue negative n (if down then scale - e else scale + e) rest
      | (_, _ :: unread) =>
        if n ≠ 0 ∧ !down then .error ⟨.numberOutOfRange, unread.length + rest.length, []⟩
        else .ok (.float negative .zero, rest)

def readNumber (negative : Bool) : Bytes → Except Stop (Number × Bytes)
  | [] => .error (stopHere .endInValue [])
  | b :: rest =>
    if !isDigit b then .error (stopHere .invalidNumber rest)
    else if b = byte '0' && startsWithDigit rest then .error (stopAt .invalidNumber rest)
    else do
      let (whole, rest) := readDigits (b :: rest)
      let (fraction, rest) ← readFraction rest
      let (exponent, rest) ← readExponent rest
      numberValue negative whole fraction exponent rest

end Storefront.Json
