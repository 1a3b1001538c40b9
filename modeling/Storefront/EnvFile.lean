import Storefront.Config
import Storefront.Ordered
import Storefront.Text.Alphanumeric
import Storefront.Text.Split

/-! Environment files: lines of the form `NAME=value` that set variables which are not set
already. Lines are read in order up to the first that cannot be read. A value may be quoted,
and mention variables that were set before it. -/
namespace Storefront

/-- The variables of a process: entries `NAME=value`, which may be any bytes. -/
abbrev Variables := List Bytes

namespace Variables

def stem (name : String) : Bytes := bytesOf name ++ [0x3D]

/-- The first entry that begins with the name and an equals sign counts; so the name may hold
equals signs itself. -/
def get? (vars : Variables) (name : String) : Option Bytes :=
  (vars.find? (stem name).isPrefixOf).map (List.drop (stem name).length)

def set (name : String) (value : Bytes) : Variables → Variables
  | [] => [stem name ++ value]
  | e :: rest =>
    if (stem name).isPrefixOf e then (stem name ++ value) :: rest else e :: set name value rest

/-- The variables of a process, from its entries with a NUL after each. -/
def ofBlock (block : Bytes) : Variables := (Text.split 0 block).filter (!·.isEmpty)

end Variables

def Environment.ofVariables (vars : Variables) : Environment where
  serviceName := vars.get? "SERVICE_NAME"
  databaseUrl := vars.get? "DATABASE_URL"
  maxConnections := vars.get? "DB_MAX_CONNECTIONS"
  host := vars.get? "HOST"
  port := vars.get? "PORT"
  logFilter := vars.get? "RUST_LOG"

namespace EnvFile

/-- Where the reading of a value has come to. `quoted` tells whether a double quote is open. -/
inductive State where
  | plain (quoted : Bool)
  | strong
  | escape (quoted : Bool)
  /-- In the name of a variable, after `$` or, if `braced`, after `$` and a brace. -/
  | mention (quoted braced : Bool) (name : List Char)
  | ending
  deriving DecidableEq, Repr

def readChar (quoted : Bool) (c : Char) : State × List Char :=
  if c = '$' then (.mention quoted false [], [])
  else if c = '\\' then (.escape quoted, [])
  else if c = '"' then (.plain (!quoted), [])
  else if quoted then (.plain true, [c])
  else if c = '\'' then (.strong, [])
  else if c = ' ' ∨ c = '\t' then (.ending, [])
  else (.plain false, [c])

def escaped? (c : Char) : Option Char :=
  if c = 'n' then some '\n'
  else if ['\\', '\'', '"', '$', ' '].contains c then some c
  else none

/-- A name without braces ends at the first character that is no letter or digit. That
character stands for itself, whatever it is, unless it begins another mention. -/
def readMention (value : List Char → List Char) (quoted braced : Bool) (name : List Char)
    (c : Char) : State × List Char :=
  if Text.isAlphanumeric c then (.mention quoted braced (name ++ [c]), [])
  else if braced then
    if c = '\x7d' then (.plain quoted, value name) else (.mention quoted true (name ++ [c]), [])
  else if c = '\x7b' && name.isEmpty then (.mention quoted true [], [])
  else if c = '$' then (.mention quoted false [], value name)
  else (.plain quoted, value name ++ [c])

def step (value : List Char → List Char) (state : State) (c : Char) :
    Option (State × List Char) :=
  match state with
  | .plain quoted => some (readChar quoted c)
  | .strong => some (if c = '\'' then (.plain false, []) else (.strong, [c]))
  | .escape quoted => (escaped? c).map fun d => (.plain quoted, [d])
  | .mention quoted braced name => some (readMention value quoted braced name c)
  | .ending => if c = ' ' ∨ c = '\t' then some (.ending, []) else none

def finish (value : List Char → List Char) : State → Option (List Char)
  | .plain quoted | .escape quoted => if quoted then none else some []
  | .strong => none
  | .mention quoted braced name => if quoted || braced then none else some (value name)
  | .ending => some []

/-- The value that is written from here on; `value` looks variables up. -/
def readValue (value : List Char → List Char) : State → List Char → Option (List Char)
  | state, [] => finish value state
  | .ending, '#' :: _ => some []
  | state, c :: rest => do
    let (next, given) ← step value state c
    let more ← readValue value next rest
    some (given ++ more)

def isNameStart (c : Char) : Bool := c.isAlpha || c = '_'

def isNameChar (c : Char) : Bool := c.isAlphanum || c = '_' || c = '.'

def readName : List Char → Option (List Char × List Char)
  | [] => none
  | c :: rest =>
    if isNameStart c then
      some (c :: rest.takeWhile isNameChar, Text.trimLeft (rest.dropWhile isNameChar))
    else none

def afterEquals : List Char → Option (List Char)
  | '=' :: rest => some (Text.trimLeft rest)
  | _ => none

/-- A name and the text of its value. The word `export` may come first, or be the name. -/
def readAssignment (cs : List Char) : Option (List Char × List Char) := do
  let (name, rest) ← readName cs
  if name = "export".toList && rest.head? ≠ some '=' then
    let (name, rest) ← readName rest
    some (name, ← afterEquals rest)
  else some (name, ← afterEquals rest)

structure Progress where
  current : Variables
  given : Ordered String

def text? (vars : Variables) (name : String) : Option String :=
  (vars.get? name).bind Text.Utf8.text?

/-- A variable that is set wins over a line of the file. -/
def Progress.value (p : Progress) (name : List Char) : List Char :=
  match text? p.current (String.ofList name) with
  | some s => s.toList
  | none => ((p.given.get? (String.ofList name)).getD "").toList

def Progress.assign (p : Progress) (name value : String) : Progress where
  current :=
    if (text? p.current name).isSome then p.current
    else p.current.set name (bytesOf value)
  given := p.given.insert name value

def Progress.readLine (p : Progress) (line : List Char) : Option Progress :=
  match Text.trim line with
  | [] | '#' :: _ => some p
  | cs => do
    let (name, text) ← readAssignment cs
    let value ←
      if text.head? = some '#' then some [] else readValue p.value (.plain false) text
    some (p.assign (String.ofList name) (String.ofList value))

def Progress.readLines (p : Progress) : List Bytes → Progress
  | [] => p
  | line :: rest =>
    match (Text.Utf8.decode line).toOption.bind p.readLine with
    | some next => next.readLines rest
    | none => p

def load (vars : Variables) (file : Bytes) : Variables :=
  (Progress.readLines ⟨vars, Ordered.empty⟩ (Text.split 0x0A file)).current

end EnvFile

end Storefront
