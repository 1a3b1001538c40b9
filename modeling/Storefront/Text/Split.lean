/-! Cutting lists at separators. -/
namespace Storefront.Text

def splitFirst [DecidableEq α] (separator : α) : List α → List α × List (List α)
  | [] => ([], [])
  | x :: rest =>
    let (part, parts) := splitFirst separator rest
    if x = separator then ([], part :: parts) else (x :: part, parts)

def split [DecidableEq α] (separator : α) (items : List α) : List (List α) :=
  (splitFirst separator items).1 :: (splitFirst separator items).2

/-- What stands before and after the first separator; all stands before it if there is none. -/
def cut [DecidableEq α] (separator : α) (items : List α) : List α × Option (List α) :=
  match items.dropWhile (· ≠ separator) with
  | [] => (items, none)
  | _ :: rest => (items.takeWhile (· ≠ separator), some rest)

def cutLast? [DecidableEq α] (separator : α) (items : List α) : Option (List α × List α) :=
  match cut separator items.reverse with
  | (_, none) => none
  | (after, some before) => some (before.reverse, after.reverse)

end Storefront.Text
