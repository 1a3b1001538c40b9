import Storefront.Log
import Storefront.Text.Alphanumeric
import Storefront.Text.Blank
import Storefront.Text.Numeral
import Storefront.Text.Split

/-! Which log entries are kept. A filter is a list of directives with commas between them, such
as `info,pool=debug`: a level for all entries, or a source with a level after an equals sign.
After the source, brackets may restrict the directive to a span of work and, in braces, to
entries with a field. Of the directives that an entry falls under, the most specific decides. -/
namespace Storefront.Log

structure Directive where
  /-- What the source of an entry has to begin with. -/
  source : List Char := []
  span : Option (List Char) := none
  field : Option (List Char) := none
  value : Option (List Char) := none
  detail : Nat := Level.trace.detail
  deriving DecidableEq, Repr

abbrev Filter := List Directive

namespace Directive

def detail? (cs : List Char) : Option Nat :=
  match Text.parseNumeral Level.trace.detail cs with
  | .ok n => some n
  | .error _ =>
    let word := String.ofList (cs.map Char.toUpper)
    if word = "OFF" then some 0
    else (Level.all.find? fun l => l.name = word).map Level.detail

/-- The end of a directive, from its equals sign on. Without a level all is kept. -/
def readDetail (d : Directive) : List Char → Option Directive
  | [] | ['='] => some d
  | '=' :: level => (detail? level).map fun n => { d with detail := n }
  | _ => none

def readField (d : Directive) (cs : List Char) : Option Directive :=
  match Text.cut '\x7d' cs with
  | (text, some (']' :: rest)) =>
    let (name, value) := Text.cut '=' text
    if text.isEmpty then none else readDetail { d with field := some name, value } rest
  | _ => none

def readSpan (d : Directive) (cs : List Char) : Option Directive :=
  let ends := fun c => c = ']' || c = '\x7b'
  let name := cs.takeWhile fun c => !ends c
  match cs.dropWhile fun c => !ends c with
  | ']' :: rest => readDetail { d with span := some name } rest
  | _ :: rest => readField { d with span := if name.isEmpty then none else some name } rest
  | [] => none

def isStart (c : Char) : Bool :=
  c = '-' || c = ':' || c = '_' || c = '[' || Text.isAlphanumeric c

/-- A word alone is a level if it can be one, and a source if not. -/
def readWhole (cs : List Char) : Option Directive :=
  if !(cs.head?.any isStart) then none
  else
    let source := cs.takeWhile fun c => c ≠ '=' && c ≠ '['
    match cs.dropWhile fun c => c ≠ '=' && c ≠ '[' with
    | [] =>
      match detail? source with
      | some n => some { detail := n }
      | none => some { source }
    | '[' :: rest => readSpan { source } rest
    | rest => readDetail { source } rest

def parse? (cs : List Char) : Option Directive := readWhole (Text.trim cs)

def concerns (d : Directive) (e : Entry) : Bool :=
  d.span.isNone && d.value.isNone && d.source.isPrefixOf e.source.toList &&
    d.field.all fun name => ("message" :: e.fields.map Prod.fst).contains (String.ofList name)

/-- A longer source is more specific, and then a field. Of equals the later directive counts. -/
def yieldsTo (d e : Directive) : Bool :=
  d.source.length < e.source.length ||
    (d.source.length = e.source.length && (d.field.isNone || e.field.isSome))

end Directive

namespace Filter

def deciding? (f : Filter) (e : Entry) : Option Directive :=
  (f.filter fun d => d.concerns e).foldl
    (fun best d => if best.all fun b => b.yieldsTo d then some d else best) none

def admits (f : Filter) (e : Entry) : Bool :=
  (f.deciding? e).any fun d => e.level.detail ≤ d.detail

/-- Empty directives do not count. If there are no others, errors are kept. -/
def parse? (cs : List Char) : Option Filter := do
  let directives ← ((Text.split ',' cs).filter fun part => !part.isEmpty).mapM Directive.parse?
  some (if directives.isEmpty then [{ detail := Level.error.detail }] else directives)

end Filter

end Storefront.Log
