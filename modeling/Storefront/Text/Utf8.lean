/-! UTF-8 as a code between characters and bytes. Decoding reports the first fault:
how many bytes before it are sound, and how long the unsound sequence is, or that the
text ends inside a character. -/
namespace Storefront

abbrev Bytes := List UInt8

namespace Text.Utf8

def encode (cs : List Char) : Bytes := cs.flatMap String.utf8EncodeChar

/-- Where decoding stops. `length` is absent when the bytes end inside a character. -/
structure Fault where
  sound : Nat
  length : Option Nat
  deriving DecidableEq, Repr

def Fault.message (f : Fault) : String :=
  match f.length with
  | some n => s!"invalid utf-8 sequence of {n} bytes from index {f.sound}"
  | none => s!"incomplete utf-8 byte sequence from index {f.sound}"

/-- A character begun: the bits so far, the bytes read and still owed, and the bounds
on the next byte. -/
structure Begun where
  bits : Nat
  read : Nat
  owed : Nat
  low : UInt8
  high : UInt8

/-- The first byte fixes the length of the character and bounds the second byte, so that
overlong forms, surrogates and points past U+10FFFF are refused at the second byte. -/
def first (b : UInt8) : Option (Char ⊕ Begun) :=
  let n := b.toNat
  if n < 0x80 then some (.inl (Char.ofNat n))
  else if n < 0xC2 then none
  else if n < 0xE0 then some (.inr ⟨n - 0xC0, 1, 1, 0x80, 0xBF⟩)
  else if n = 0xE0 then some (.inr ⟨0, 1, 2, 0xA0, 0xBF⟩)
  else if n = 0xED then some (.inr ⟨0xD, 1, 2, 0x80, 0x9F⟩)
  else if n < 0xF0 then some (.inr ⟨n - 0xE0, 1, 2, 0x80, 0xBF⟩)
  else if n = 0xF0 then some (.inr ⟨0, 1, 3, 0x90, 0xBF⟩)
  else if n < 0xF4 then some (.inr ⟨n - 0xF0, 1, 3, 0x80, 0xBF⟩)
  else if n = 0xF4 then some (.inr ⟨4, 1, 3, 0x80, 0x8F⟩)
  else none

/-- `done` holds the characters read, last first, and `sound` counts their bytes. -/
def scan (done : List Char) (sound : Nat) : Option Begun → Bytes → Except Fault (List Char)
  | none, [] => .ok done.reverse
  | some _, [] => .error ⟨sound, none⟩
  | none, b :: rest =>
    match first b with
    | none => .error ⟨sound, some 1⟩
    | some (.inl c) => scan (c :: done) (sound + 1) none rest
    | some (.inr begun) => scan done sound (some begun) rest
  | some p, b :: rest =>
    if b < p.low ∨ p.high < b then .error ⟨sound, some p.read⟩
    else
      let bits := p.bits * 64 + (b.toNat - 0x80)
      if p.owed = 1 then scan (Char.ofNat bits :: done) (sound + p.read + 1) none rest
      else scan done sound (some ⟨bits, p.read + 1, p.owed - 1, 0x80, 0xBF⟩) rest

def decode (bs : Bytes) : Except Fault (List Char) := scan [] 0 none bs

def text? (bs : Bytes) : Option String := (decode bs).toOption.map String.ofList

end Text.Utf8

def bytesOf (s : String) : Bytes := Text.Utf8.encode s.toList

end Storefront
