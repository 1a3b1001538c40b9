import Storefront.Json.Writer
import Storefront.Text.Quoted

/-! Why a JSON text or value is refused, and where. A fault belongs to one of three kinds:
the text ends too early, it is not well formed, or its value does not have the shape that
was asked for. -/
namespace Storefront.Json

inductive Shape where
  | null
  | bool (value : Bool)
  | number (value : Number)
  | text (value : String)
  | sequence
  | map
  deriving DecidableEq, Repr

def shape : Json → Shape
  | .null => .null
  | .bool b => .bool b
  | .number n => .number n
  | .text s => .text s
  | .array _ => .sequence
  | .object _ => .map

def Shape.message : Shape → String
  | .null => "null"
  | .bool b => s!"boolean `{b}`"
  | .number (.integer n) => s!"integer `{String.ofList (writeInteger n)}`"
  | .number (.float s x) => s!"floating point `{String.ofList (Number.write (.float s x))}`"
  | .text s => "string " ++ Text.quoted s
  | .sequence => "sequence"
  | .map => "map"

/-- A line and the bytes read of it. -/
structure Place where
  line : Nat
  column : Nat
  deriving DecidableEq, Repr

def Place.message (p : Place) : String := s!" at line {p.line} column {p.column}"

inductive Fault where
  | endInValue
  | endInList
  | endInObject
  | endInText
  | expectedColon
  | expectedCommaOrBracket
  | expectedCommaOrBrace
  | expectedValue
  | expectedIdent
  | keyNotText
  | trailingComma
  | trailingCharacters
  | tooDeep
  | invalidNumber
  | numberOutOfRange
  | invalidEscape
  | controlCharacter
  | loneSurrogate
  | endOfEscape
  | invalidCodePoint
  | wrongShape (found : Shape) (wanted : String)
  | wrongLength (found : Nat) (wanted : String)
  | repeatedField (name : String)
  | missingField (name : String)
  | refused (message : String)
  | embedded (fault : Fault) (place : Place)
  deriving DecidableEq, Repr

inductive Fault.Kind where
  | ended
  | malformed
  | unsuitable
  deriving DecidableEq, Repr

def Fault.kind : Fault → Kind
  | .endInValue | .endInList | .endInObject | .endInText => .ended
  | .wrongShape .. | .wrongLength .. | .repeatedField _ | .missingField _ | .refused _
  | .embedded .. => .unsuitable
  | _ => .malformed

def Fault.message : Fault → String
  | .endInValue => "EOF while parsing a value"
  | .endInList => "EOF while parsing a list"
  | .endInObject => "EOF while parsing an object"
  | .endInText => "EOF while parsing a string"
  | .expectedColon => "expected `:`"
  | .expectedCommaOrBracket => "expected `,` or `]`"
  | .expectedCommaOrBrace => "expected `,` or `\x7d`"
  | .expectedValue => "expected value"
  | .expectedIdent => "expected ident"
  | .keyNotText => "key must be a string"
  | .trailingComma => "trailing comma"
  | .trailingCharacters => "trailing characters"
  | .tooDeep => "recursion limit exceeded"
  | .invalidNumber => "invalid number"
  | .numberOutOfRange => "number out of range"
  | .invalidEscape => "invalid escape"
  | .controlCharacter => "control character (\\u0000-\\u001F) found while parsing a string"
  | .loneSurrogate => "lone leading surrogate in hex escape"
  | .endOfEscape => "unexpected end of hex escape"
  | .invalidCodePoint => "invalid unicode code point"
  | .wrongShape found wanted => "invalid type: " ++ found.message ++ ", expected " ++ wanted
  | .wrongLength found wanted => s!"invalid length {found}, expected {wanted}"
  | .repeatedField name => s!"duplicate field `{name}`"
  | .missingField name => s!"missing field `{name}`"
  | .refused message => message
  | .embedded fault place => fault.message ++ place.message

/-- A step from a value to one inside it. `unnamed` is a member whose name was not read. -/
inductive Step where
  | member (name : String)
  | item (index : Nat)
  | unnamed
  deriving DecidableEq, Repr

def pathFrom : Bool → List Step → String
  | _, [] => ""
  | _, .item i :: rest => s!"[{i}]" ++ pathFrom true rest
  | started, .member name :: rest =>
    (if started then "." else "") ++ name ++ pathFrom true rest
  | started, .unnamed :: rest => (if started then ".?" else "?") ++ pathFrom true rest

def path (steps : List Step) : String := pathFrom false steps

/-- A refusal as it is reported; a value that never was a text has no place. -/
structure Refusal where
  fault : Fault
  place : Option Place
  steps : List Step
  deriving DecidableEq, Repr

def Refusal.message (r : Refusal) : String :=
  r.fault.message ++ (r.place.map Place.message).getD ""

def Refusal.locatedMessage (r : Refusal) : String :=
  if r.steps.all (· = .unnamed) then r.message else path r.steps ++ ": " ++ r.message

end Storefront.Json
