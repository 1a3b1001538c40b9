import Storefront.Net.Name.Composition
import Storefront.Net.Name.Direction
import Storefront.Net.Name.Joining
import Storefront.Net.Punycode

/-! Names of hosts on the web. A name is folded first, and so are its dots; then each of its
labels has to be sound. A label that begins with `xn--` stands for the text that it encodes. -/
namespace Storefront.Net.Name

def isForbidden (c : Char) : Bool :=
  c.toNat ≤ 0x20 || c.toNat = 0x7F || "%#/:<>?@[\\]^|".toList.contains c

def fold? : List Char → Option (List Char)
  | [] => some []
  | c :: rest =>
    match formOf c with
    | .refused => none
    | .ignored => fold? rest
    | .folded form => (fold? rest).map (form ++ ·)
    | .kept => (fold? rest).map (c :: ·)

def isAscii (c : Char) : Bool := c.toNat < 0x80

/-- An encoded label holds folded characters only, and one beyond ASCII. -/
def decoded? (digits : List Char) : Option (List Char) :=
  (Punycode.decode? digits).filter fun label =>
    !label.all isAscii && isComposed label && label.all fun c => formOf c = .kept

def labelText? (label : List Char) : Option (List Char) :=
  if "xn--".toList.isPrefixOf label then decoded? (label.drop 4) else some label

def isSound (label : List Char) : Bool :=
  !label.any isForbidden && !label.head?.any isMark && joinersFit label

/-- Where a character is written from right to left, every label keeps to one direction. -/
def keepDirections (labels : List (List Char)) : Bool :=
  !labels.any (List.any · runsLeft) || labels.all keepsDirection

def ofText? (cs : List Char) : Option (List Char) := do
  let name ← fold? cs
  let labels ← (Text.split '.' name).mapM labelText?
  if labels.all isSound && keepDirections labels then some name else none

end Storefront.Net.Name
