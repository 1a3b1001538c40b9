import Storefront.Net.Ip
import Storefront.Net.Name
import Storefront.Text.Percent
import Storefront.Text.Pieces

/-! Absolute URLs. Control characters and spaces around a URL, and tabs and line ends anywhere
in it, are passed over. Schemes of the web are special: a host follows them after any number
of slashes, it is a name or an address, and it is never empty. After other schemes a host
follows two slashes and may be almost any text. -/
namespace Storefront.Net

structure Url where
  scheme : List Char
  user : List Char := []
  password : Option (List Char) := none
  host : Option (List Char) := none
  port : Option Nat := none
  path : List Char
  query : Option (List Char)
  deriving DecidableEq, Repr

namespace Url

inductive Fault where
  | noScheme
  | emptyHost
  | invalidPort
  | invalidIpv4
  | invalidIpv6
  | invalidHostChar
  | invalidName
  deriving DecidableEq, Repr

def Fault.message : Fault → String
  | .noScheme => "relative URL without a base"
  | .emptyHost => "empty host"
  | .invalidPort => "invalid port number"
  | .invalidIpv4 => "invalid IPv4 address"
  | .invalidIpv6 => "invalid IPv6 address"
  | .invalidHostChar => "invalid domain character"
  | .invalidName => "invalid international domain name"

inductive Kind where
  | file
  | web
  | other
  deriving DecidableEq, Repr

/-- Whether a backslash counts as a slash. -/
def Kind.special : Kind → Bool
  | .file | .web => true
  | .other => false

def defaultPort? (scheme : List Char) : Option Nat :=
  [("http", 80), ("ws", 80), ("https", 443), ("wss", 443), ("ftp", 21)].lookup
    (String.ofList scheme)

def kindOf (scheme : List Char) : Kind :=
  if scheme = "file".toList then .file
  else if (defaultPort? scheme).isSome then .web
  else .other

def relevant (cs : List Char) : List Char :=
  let dropEdge := List.dropWhile fun c : Char => c.toNat ≤ 0x20
  (dropEdge (dropEdge cs).reverse).reverse.filter fun c => c ≠ '\t' && c ≠ '\n' && c ≠ '\r'

def isSchemeChar (c : Char) : Bool := c.isAlphanum || c = '+' || c = '-' || c = '.'

def readScheme (cs : List Char) : Except Fault (List Char × List Char) :=
  match cs, cs.dropWhile isSchemeChar with
  | first :: _, ':' :: rest =>
    if first.isAlpha then .ok ((cs.takeWhile isSchemeChar).map Char.toLower, rest)
    else .error .noScheme
  | _, _ => .error .noScheme

def isSlash (c : Char) : Bool := c = '/' || c = '\\'

def endsAuthority (kind : Kind) (c : Char) : Bool :=
  c = '/' || c = '?' || c = '#' || (kind.special && c = '\\')

/-- The user and the password before the last at sign, and what follows it. -/
def readUser (kind : Kind) (cs : List Char) :
    Except Fault (List Char × Option (List Char) × List Char) :=
  let authority := cs.takeWhile fun c => !endsAuthority kind c
  let rest := cs.dropWhile fun c => !endsAuthority kind c
  match Text.cutLast? '@' authority with
  | none => .ok ([], none, cs)
  | some (before, after) =>
    if before.isEmpty && after.isEmpty && !rest.isEmpty then .error .emptyHost
    else
      let (user, password) := Text.cut ':' before
      .ok (user, password.filter (!·.isEmpty), after ++ rest)

/-- The host, up to a colon that is not in brackets, and what follows it. -/
def readHost (kind : Kind) : Bool → List Char → List Char × List Char
  | _, [] => ([], [])
  | bracketed, c :: rest =>
    if (c = ':' && !bracketed) || endsAuthority kind c then ([], c :: rest)
    else
      let (host, after) := readHost kind (c = '[' || (bracketed && c ≠ ']')) rest
      (c :: host, after)

def checkBracketed (cs : List Char) : Except Fault Unit :=
  if cs.getLast? = some ']' && isIpv6 (cs.tail.dropLast) then .ok ()
  else .error .invalidIpv6

def opaqueForbidden : List Char := "\x00\t\n\r #/:<>?@[\\]^|".toList

def hostName (cs : List Char) : Except Fault (List Char) :=
  let bytes := Text.percentDecode (Text.Utf8.encode cs)
  match (Text.Utf8.decode bytes).toOption.bind Name.ofText? with
  | none => .error .invalidName
  | some name =>
    if name.isEmpty then .error .emptyHost
    else if endsInNumber name && !isLaxIpv4 name then .error .invalidIpv4
    else .ok name

def checkHost (kind : Kind) (cs : List Char) : Except Fault (List Char) :=
  if cs.head? = some '[' then (checkBracketed cs).map fun _ => cs
  else if kind.special then hostName cs
  else if cs.any opaqueForbidden.contains then .error .invalidHostChar
  else .ok cs

def portOf (scheme digits : List Char) : Option Nat :=
  if digits.isEmpty || some (Text.decimal digits) = defaultPort? scheme then none
  else some (Text.decimal digits)

def readPort (scheme cs : List Char) : Except Fault (Option Nat × List Char) :=
  match cs with
  | ':' :: rest =>
    let digits := rest.takeWhile Text.isDigit
    let after := rest.dropWhile Text.isDigit
    if 65535 < Text.decimal digits || after.head?.any fun c => !endsAuthority .web c then
      .error .invalidPort
    else .ok (portOf scheme digits, after)
  | rest => .ok (none, rest)

def readPath (cs : List Char) : List Char × Option (List Char) :=
  Text.cut '?' (cs.takeWhile (· ≠ '#'))

def bare (scheme cs : List Char) : Url :=
  { scheme, path := (readPath cs).1, query := (readPath cs).2 }

def readAuthority (kind : Kind) (scheme cs : List Char) : Except Fault Url := do
  let (user, password, rest) ← readUser kind cs
  let (text, rest) := readHost kind false rest
  if text.isEmpty && kind = .web then .error .emptyHost
  let host ← checkHost kind text
  if host.isEmpty && (rest.head? = some ':' || !user.isEmpty || password.isSome) then
    .error .emptyHost
  let (port, rest) ← readPort scheme rest
  .ok
    { bare scheme rest with
      user, password, port
      host := some host |>.filter (!·.isEmpty) }

def isDriveLetter (cs : List Char) : Bool :=
  match cs with
  | [letter, c] => letter.isAlpha && (c = ':' || c = '|')
  | _ => false

/-- After `file`, a host may stand between two slashes and a third. -/
def readFile (scheme cs : List Char) : Except Fault Url :=
  match cs with
  | a :: b :: rest =>
    let text := rest.takeWhile fun c => !endsAuthority .file c
    if !(isSlash a && isSlash b) || text.isEmpty ||
        isDriveLetter text then
      .ok (bare scheme cs)
    else do
      let host ← checkHost .file text
      .ok { bare scheme (rest.drop text.length) with host := some host }
  | cs => .ok (bare scheme cs)

def parse (text : String) : Except Fault Url := do
  let (scheme, rest) ← readScheme (relevant text.toList)
  match kindOf scheme with
  | .file => readFile scheme rest
  | .web => readAuthority .web scheme (rest.dropWhile isSlash)
  | .other =>
    match rest with
    | '/' :: '/' :: rest => readAuthority .other scheme rest
    | rest => .ok (bare scheme rest)

def formText (cs : List Char) : List Char :=
  Text.Utf8.lossy (Text.percentDecode (Text.Utf8.encode (cs.map fun c =>
    if c = '+' then ' ' else c)))

def parameters (u : Url) : List (List Char × List Char) :=
  ((Text.split '&' (u.query.getD [])).filter (!·.isEmpty)).map fun part =>
    let (name, value) := Text.cut '=' part
    (formText name, formText (value.getD []))

end Url

end Storefront.Net
