import Storefront.Text.Digits
import Storefront.Text.Unprinted

/-! A text in double quotes as it stands in error messages. Quotes, backslashes, tabs, line
ends and NUL have short escapes; a character that would not show has its code point in
lower-case hexadecimal; all else, the apostrophe included, stands for itself. -/
namespace Storefront.Text

def hexDigits (n : Nat) : List Char := (Nat.toDigits 16 n)

def codePoint (c : Char) : List Char :=
  ['\\', 'u', '\x7b'] ++ hexDigits c.toNat ++ ['\x7d']

def quotedChar (c : Char) : List Char :=
  if c = '"' then ['\\', '"']
  else if c = '\\' then ['\\', '\\']
  else if c = '\n' then ['\\', 'n']
  else if c = '\r' then ['\\', 'r']
  else if c = '\t' then ['\\', 't']
  else if c.toNat = 0 then ['\\', '0']
  else if isUnprinted c then codePoint c
  else [c]

def quoted (s : String) : String :=
  String.ofList (['"'] ++ s.toList.flatMap quotedChar ++ ['"'])

end Storefront.Text
