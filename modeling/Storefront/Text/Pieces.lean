import Storefront.Text.Utf8

/-! Bytes that may not be UTF-8, cut into texts and the unsound sequences between them. -/
namespace Storefront.Text.Utf8

/-- Reading goes on after each unsound sequence. -/
def piecesFrom : Nat → Bytes → List (List Char ⊕ Bytes)
  | 0, _ => []
  | bound + 1, bs =>
    match decode bs with
    | .ok cs => [.inl cs]
    | .error fault =>
      let sound := (decode (bs.take fault.sound)).toOption.getD []
      let rest := bs.drop fault.sound
      let length := fault.length.getD rest.length
      .inl sound :: .inr (rest.take length) :: piecesFrom bound (rest.drop length)

def pieces (bs : Bytes) : List (List Char ⊕ Bytes) := piecesFrom (bs.length + 1) bs

def lossy (bs : Bytes) : List Char := (pieces bs).flatMap (Sum.elim id fun _ => ['\ufffd'])

end Storefront.Text.Utf8
