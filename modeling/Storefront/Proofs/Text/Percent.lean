import Storefront.Proofs.Text.Utf8
import Storefront.Text.Percent

/-! Bytes without a percent sign have no escapes to resolve. -/
namespace Storefront.Text
open Utf8 (encode asciiMember)

theorem percentDecodePlain {bs : Bytes} (plain : 0x25 ∉ bs) : percentDecode bs = bs := by
  unfold percentDecode
  induction bs with
  | nil => rfl
  | cons b rest ih =>
    have other := List.ne_of_not_mem_cons plain
    have later := List.not_mem_of_not_mem_cons plain
    rw [percentDecodeFrom, if_neg (Ne.symm other), ih later]

theorem percentDecodeText {cs : List Char} (plain : '%' ∉ cs) : percentDecode (encode cs) = encode cs :=
  percentDecodePlain fun member => plain (asciiMember (by decide) member)

end Storefront.Text
