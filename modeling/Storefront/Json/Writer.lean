import Storefront.Json.Basic
import Storefront.Text.Digits

/-! The compact text of a JSON value: no white space, members in their order, and in texts
only quotes, backslashes and controls below the space escaped. -/
namespace Storefront.Json

def escapedChar (c : Char) : List Char :=
  if c = '"' then ['\\', '"']
  else if c = '\\' then ['\\', '\\']
  else if c = '\x08' then ['\\', 'b']
  else if c = '\x0c' then ['\\', 'f']
  else if c = '\n' then ['\\', 'n']
  else if c = '\r' then ['\\', 'r']
  else if c = '\t' then ['\\', 't']
  else if c.toNat < 0x20 then
    ['\\', 'u', '0', '0', Text.hexDigit (c.toNat / 16), Text.hexDigit (c.toNat % 16)]
  else [c]

def writeText (s : String) : List Char :=
  '"' :: s.toList.flatMap escapedChar ++ ['"']

def writeInteger (n : Int) : List Char :=
  if n < 0 then '-' :: Nat.toDigits 10 n.natAbs else Nat.toDigits 10 n.natAbs

def Number.write : Number → List Char
  | .integer n => writeInteger n
  | .float true x => '-' :: x.text
  | .float false x => x.text

def separated (items : List (List Char)) : List Char :=
  List.intercalate [','] items

mutual

def write : Json → List Char
  | .null => ['n', 'u', 'l', 'l']
  | .bool true => ['t', 'r', 'u', 'e']
  | .bool false => ['f', 'a', 'l', 's', 'e']
  | .number n => n.write
  | .text s => writeText s
  | .array items => '[' :: separated (writeItems items) ++ [']']
  | .object members => '\x7b' :: separated (writeMembers members) ++ ['\x7d']

def writeItems : List Json → List (List Char)
  | [] => []
  | v :: rest => write v :: writeItems rest

def writeMembers : List (String × Json) → List (List Char)
  | [] => []
  | (k, v) :: rest => (writeText k ++ ':' :: write v) :: writeMembers rest

end

def compact (v : Json) : String := String.ofList v.write

end Storefront.Json
