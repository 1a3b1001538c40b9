import Storefront.Text.Digits

/-! Percent escapes: a percent sign and two hexadecimal digits stand for a byte. A percent
sign that is not followed by two digits stands for itself. -/
namespace Storefront.Text

/-- The byte that an escape stands for, from the two bytes after the percent sign. -/
def escaped? : Bytes → Option UInt8
  | a :: b :: _ => do
    let high ← hexValue? a
    let low ← hexValue? b
    some (UInt8.ofNat (high * 16 + low))
  | _ => none

/-- `skip` bytes belong to an escape already decoded. -/
def percentDecodeFrom : Nat → Bytes → Bytes
  | _, [] => []
  | skip + 1, _ :: rest => percentDecodeFrom skip rest
  | 0, b :: rest =>
    if b = 0x25 then
      match escaped? rest with
      | some byte => byte :: percentDecodeFrom 2 rest
      | none => b :: percentDecodeFrom 0 rest
    else b :: percentDecodeFrom 0 rest

def percentDecode (bs : Bytes) : Bytes := percentDecodeFrom 0 bs

end Storefront.Text
