import Storefront.Json.Token

/-! Reading JSON values. Nesting deeper than 127 is refused. An object whose first member
has the reserved name `embeddedName` is not an object: its text is itself a JSON text, and
the value of that text stands in its place. -/
namespace Storefront.Json

def within (step : Step) : Except Stop (α × Bytes) → Except Stop (α × Bytes)
  | .ok r => .ok r
  | .error stop => .error { stop with steps := step :: stop.steps }

def readScalar (bound : Nat) (b : UInt8) (rest : Bytes) : Except Stop (Json × Bytes) :=
  if b = byte 'n' then (readWord ['u', 'l', 'l'] rest).map fun r => (.null, r)
  else if b = byte 't' then (readWord ['r', 'u', 'e'] rest).map fun r => (.bool true, r)
  else if b = byte 'f' then (readWord ['a', 'l', 's', 'e'] rest).map fun r => (.bool false, r)
  else if b = byte '"' then (readText bound rest).map fun (s, r) => (.text s, r)
  else if b = byte '-' then (readNumber true rest).map fun (n, r) => (.number n, r)
  else if isDigit b then (readNumber false (b :: rest)).map fun (n, r) => (.number n, r)
  else .error (stopAt .expectedValue (b :: rest))

/-- Whether another item follows; the closing bracket is taken when none does. -/
def nextItem (first : Bool) (bs : Bytes) : Except Stop (Bool × Bytes) :=
  match skipSpace bs with
  | [] => .error (stopHere .endInList [])
  | b :: rest =>
    if b = byte ']' then .ok (false, rest)
    else if first then .ok (true, b :: rest)
    else if b = byte ',' then
      match skipSpace rest with
      | [] => .error (stopHere .endInValue [])
      | c :: rest =>
        if c = byte ']' then .error (stopAt .trailingComma (c :: rest))
        else .ok (true, c :: rest)
    else .error (stopAt .expectedCommaOrBracket (b :: rest))

/-- The name of the next member; the closing brace is taken when there is none. -/
def nextName (bound : Nat) (first : Bool) (bs : Bytes) : Except Stop (Option String × Bytes) :=
  within .unnamed <|
  match skipSpace bs with
  | [] => .error (stopHere .endInObject [])
  | b :: rest =>
    if b = byte '\x7d' then .ok (none, rest)
    else if first then
      if b = byte '"' then (readText bound rest).map fun (s, r) => (some s, r)
      else .error (stopAt .keyNotText (b :: rest))
    else if b = byte ',' then
      match skipSpace rest with
      | [] => .error (stopHere .endInValue [])
      | c :: rest =>
        if c = byte '"' then (readText bound rest).map fun (s, r) => (some s, r)
        else if c = byte '\x7d' then .error (stopAt .trailingComma (c :: rest))
        else .error (stopAt .keyNotText (c :: rest))
    else .error (stopAt .expectedCommaOrBrace (b :: rest))

def readColon (bs : Bytes) : Except Stop Bytes :=
  match skipSpace bs with
  | [] => .error (stopHere .endInObject [])
  | b :: rest =>
    if b = byte ':' then .ok rest else .error (stopAt .expectedColon (b :: rest))

def closeArray (bs : Bytes) : Except Stop Bytes :=
  match skipSpace bs with
  | [] => .error (stopHere .endInList [])
  | b :: rest =>
    if b = byte ']' then .ok rest
    else if b = byte ',' then
      match skipSpace rest with
      | c :: rest =>
        if c = byte ']' then .error (stopAt .trailingComma (c :: rest))
        else .error (stopAt .trailingCharacters (c :: rest))
      | [] => .error (stopAt .trailingCharacters [])
    else .error (stopAt .trailingCharacters (b :: rest))

def closeObject (bs : Bytes) : Except Stop Bytes :=
  match skipSpace bs with
  | [] => .error (stopHere .endInObject [])
  | b :: rest =>
    if b = byte '\x7d' then .ok rest
    else if b = byte ',' then .error (stopAt .trailingComma (b :: rest))
    else .error (stopAt .trailingCharacters (b :: rest))

/-- Reads the items of an array with `read`. `done` holds those read, last first. -/
def readItems (read : Bytes → Except Stop (α × Bytes)) :
    Nat → List α → Bytes → Except Stop (List α × Bytes)
  | 0, _, rest => .error (stopHere .endInList rest)
  | bound + 1, done, bs => do
    let (more, rest) ← nextItem done.isEmpty bs
    if more then
      let (v, rest) ← within (.item done.length) (read rest)
      readItems read bound (v :: done) rest
    else .ok (done.reverse, rest)

/-- Reads members into `state` with `take`, which gets the name and the bytes after it. -/
def readMembers (limit : Nat) (take : σ → String → Bytes → Except Stop (σ × Bytes)) :
    Nat → Bool → σ → Bytes → Except Stop (σ × Bytes)
  | 0, _, _, rest => .error (stopHere .endInObject rest)
  | bound + 1, first, state, bs => do
    let (name, rest) ← nextName limit first bs
    match name with
    | none => .ok (state, rest)
    | some name =>
      let (state, rest) ← take state name rest
      readMembers limit take bound false state rest

def readMember (read : Bytes → Except Stop (α × Bytes)) (name : String) (bs : Bytes) :
    Except Stop (α × Bytes) := do
  let rest ← readColon bs
  within (.member name) (read rest)

/-- The shape of the next value. Nothing of an array or object is taken. -/
def readShape (bound : Nat) (b : UInt8) (rest : Bytes) : Except Stop (Shape × Bytes) :=
  if b = byte '[' then .ok (.sequence, b :: rest)
  else if b = byte '\x7b' then .ok (.map, b :: rest)
  else (readScalar bound b rest).map fun (v, r) => (v.shape, r)

/-- The refusal of a value that is not what is wanted; faults of its own come first. -/
def refuseShape (bound : Nat) (wanted : String) (b : UInt8) (rest : Bytes) :
    Except Stop (α × Bytes) := do
  let (found, rest) ← readShape bound b rest
  .error (stopHere (.wrongShape found wanted) rest)

def readTextValue (bound : Nat) (wanted : String) (bs : Bytes) : Except Stop (String × Bytes) :=
  match skipSpace bs with
  | [] => .error (stopHere .endInValue [])
  | b :: rest =>
    if b = byte '"' then readText bound rest else refuseShape bound wanted b rest

def embeddedName : String := "$serde_json::private::RawValue"

/-- The fault of an embedded text keeps its own place. -/
def Refusal.embed (r : Refusal) : Fault :=
  match r.place with
  | some place => .embedded r.fault place
  | none => r.fault

def readEmbedded (embedded : Bytes → Except Refusal Json) (bound : Nat) (bs : Bytes) :
    Except Stop (Json × Bytes) := do
  let (s, rest) ← readMember (readTextValue bound "raw value") embeddedName bs
  match embedded (bytesOf s) with
  | .error r => .error (stopHere r.embed rest)
  | .ok v => (closeObject rest).map fun r => (v, r)

def takeMember (read : Bytes → Except Stop (Json × Bytes)) (members : List (String × Json))
    (name : String) (bs : Bytes) : Except Stop (List (String × Json) × Bytes) := do
  let (v, rest) ← readMember read name bs
  .ok (insertMember name v members, rest)

/-- An object whose opening brace has been read. -/
def readObject (embedded : Bytes → Except Refusal Json) (bound : Nat)
    (read : Bytes → Except Stop (Json × Bytes)) (bs : Bytes) : Except Stop (Json × Bytes) := do
  let (name, rest) ← nextName bound true bs
  match name with
  | none => .ok (.object [], rest)
  | some name =>
    if name = embeddedName then readEmbedded embedded bound rest
    else
      let (members, rest) ← takeMember read [] name rest
      let (members, rest) ← readMembers bound (takeMember read) bound false members rest
      .ok (.object members, rest)

def readValue (embedded : Bytes → Except Refusal Json) (bound : Nat) :
    Nat → Bytes → Except Stop (Json × Bytes)
  | depth, bs =>
    match skipSpace bs with
    | [] => .error (stopHere .endInValue [])
    | b :: rest =>
      if b = byte '[' ∨ b = byte '\x7b' then
        match depth with
        | 0 => .error (stopAt .tooDeep (b :: rest))
        | depth + 1 =>
          if b = byte '[' then
            (readItems (readValue embedded bound depth) bound [] rest).map fun (vs, r) =>
              (.array vs, r)
          else readObject embedded bound (readValue embedded bound depth) rest
      else readScalar bound b rest

def deepest : Nat := 127

def Place.of (source : Bytes) (left : Nat) : Place :=
  let read := source.take (source.length - left)
  ⟨1 + (read.filter (· = 0x0A)).length, (read.reverse.takeWhile (· ≠ 0x0A)).length⟩

def Stop.refusal (source : Bytes) (stop : Stop) : Refusal :=
  match stop.fault with
  | .embedded .. => ⟨stop.fault, none, stop.steps⟩
  | _ => ⟨stop.fault, some (Place.of source stop.left), stop.steps⟩

def located (source : Bytes) : Except Stop α → Except Refusal α
  | .ok v => .ok v
  | .error stop => .error (stop.refusal source)

def finish : Except Stop (α × Bytes) → Except Stop α
  | .error stop => .error stop
  | .ok (v, rest) =>
    match skipSpace rest with
    | [] => .ok v
    | b :: rest => .error (stopAt .trailingCharacters (b :: rest))

/-- Reads a whole text whose embedded texts nest less than `levels` deep. -/
def parseWithin : Nat → Bytes → Except Refusal Json
  | 0, _ => .error ⟨.tooDeep, none, []⟩
  | levels + 1, source =>
    located source (finish (readValue (parseWithin levels) (source.length + 1) deepest source))

/-- Reads a whole text. An embedded text is shorter than the one around it, so its length
bounds how deep they nest. -/
def parse (source : Bytes) : Except Refusal Json := parseWithin (source.length + 1) source

def embeddedIn (source : Bytes) : Bytes → Except Refusal Json := parseWithin source.length

end Storefront.Json
