/-! White space in the sense of the Unicode property `White_Space`: 25 characters,
among them no zero-width ones. Trimming takes such characters off both ends and
nothing off the inside. -/
namespace Storefront.Text

def isBlank (c : Char) : Bool :=
  let n := c.toNat
  (0x09 ≤ n && n ≤ 0x0D) || n == 0x20 || n == 0x85 || n == 0xA0 || n == 0x1680 ||
  (0x2000 ≤ n && n ≤ 0x200A) || n == 0x2028 || n == 0x2029 || n == 0x202F || n == 0x205F ||
  n == 0x3000

def trimLeft (cs : List Char) : List Char := cs.dropWhile isBlank

def trim (cs : List Char) : List Char := (trimLeft (trimLeft cs).reverse).reverse

def allBlank (s : String) : Bool := s.toList.all isBlank

end Storefront.Text
