import Storefront.Text.Quoted

/-! Log entries. An entry has a level, a source, a message and named fields; written out, the
message stands between the level and the fields, and the source is left out. -/
namespace Storefront.Log

inductive Level where
  | error
  | warn
  | info
  | debug
  | trace
  deriving DecidableEq, Repr

def Level.name : Level → String
  | .error => "ERROR"
  | .warn => "WARN"
  | .info => "INFO"
  | .debug => "DEBUG"
  | .trace => "TRACE"

/-- The least detail at which entries of a level are kept; at zero none are. -/
def Level.detail : Level → Nat
  | .error => 1
  | .warn => 2
  | .info => 3
  | .debug => 4
  | .trace => 5

def Level.all : List Level := [.error, .warn, .info, .debug, .trace]

structure Entry where
  level : Level
  source : String
  message : String
  fields : List (String × String) := []
  deriving DecidableEq, Repr

/-- The bell, backspace, form feed, escape and delete, which terminals take for commands. -/
def isCommand (c : Char) : Bool := [0x07, 0x08, 0x0C, 0x1B, 0x7F].contains c.toNat

/-- A character of a message. Terminal commands are escaped, those beyond ASCII included. -/
def shownChar (c : Char) : List Char :=
  if isCommand c then ['\\', 'x', Text.hexDigit (c.toNat / 16), Text.hexDigit (c.toNat % 16)]
  else if 0x80 ≤ c.toNat && c.toNat ≤ 0x9F then Text.codePoint c
  else [c]

def shown (s : String) : String := String.ofList (s.toList.flatMap shownChar)

def Entry.text (e : Entry) : String :=
  e.level.name ++ " " ++ shown e.message ++
    String.join (e.fields.map fun f => " " ++ f.1 ++ "=" ++ f.2)

end Storefront.Log
