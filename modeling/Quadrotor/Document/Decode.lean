import Quadrotor.Document.Writer
import Quadrotor.Text.Printable
import Quadrotor.Text.GraphemeExtend
/-!
# Typed reading of documents

Parameter sets and options arrive as documents and are read into typed values field by field.
A `DecodeError` says what was met and what was expected, in the wording of the error texts that
answers carry (`invalid type: string "heavy", expected f64`).

* A double is read from any number. A format with no literal for the non-finite doubles may
  spell them as texts: `nan`, `NaN`, `inf`, `+inf`, `Infinity`, `-inf`, `-Infinity`. Whether
  such texts are read is the argument `spelled` of the readers; they are read only in fields
  given by name, never in a record type given as a list. Such a text stands for a number: given
  where a double is expected, directly or as an item of a pair, it is the double it spells;
  given where something else is expected, it is refused as a number would be, and described as
  the number `0.0` (`Decode.spelledNumber`).
* A count is read from a whole number that is not negative; a double is refused.
* A pair is read from a list of exactly two doubles; the items are read first, so a bad item is
  reported before a wrong length.
* A choice is read from one of its names, or from a record with a single key naming it and a
  null value.
* A record type is read from a record, whose keys are visited in ascending order with the first
  error winning and unknown keys skipped, or from a list that gives its fields in order. A field
  that is not given keeps its default.

## Main definitions

* `DecodeError` and `DecodeError.message`;
* `Decode.real`, `Decode.count`, `Decode.flag`, `Decode.pair`, `Decode.choice`, `Decode.fields`.
-/

namespace Quadrotor

namespace Document

/-- A character as a debugging view of a text shows it: the quote, the backslash, the line
feed, the carriage return, the tab and the null character by short escapes; a character that
extends a grapheme or is not printable by its code point in hexadecimal, as in `\u{200b}`;
every other character as itself. -/
def debugChar (c : Char) : List Char :=
  if c = '"' then ['\\', '"']
  else if c = '\\' then ['\\', '\\']
  else if c = '\n' then ['\\', 'n']
  else if c = '\r' then ['\\', 'r']
  else if c = '\t' then ['\\', 't']
  else if c = '\x00' then ['\\', '0']
  else if Text.isGraphemeExtend c || !Text.isPrintable c then
    ['\\', 'u', '\x7b'] ++ (Nat.toDigits 16 c.toNat) ++ ['\x7d']
  else [c]

/-- A text in quotes, as a debugging view shows it. -/
def debugQuote (s : String) : String :=
  String.ofList ('"' :: s.toList.flatMap debugChar ++ ['"'])

/-- How an error text names a document that it met. -/
def describe : Document → String
  | .null => "null"
  | .bool b => "boolean `" ++ (if b then "true" else "false") ++ "`"
  | .int i => "integer `" ++ toString i ++ "`"
  | .real x => "floating point `" ++ Notation.document.render x ++ "`"
  | .text s => "string " ++ debugQuote s
  | .list _ => "sequence"
  | .record _ => "map"

end Document

/-- Why a document cannot be read as a value of the expected type. -/
inductive DecodeError where
  /-- A document of the wrong kind. -/
  | invalidType (found : Document) (expected : String)
  /-- A document of the right kind with a value out of range. -/
  | invalidValue (found : Document) (expected : String)
  /-- A list of the wrong length. -/
  | invalidLength (length : Nat) (expected : String)
  /-- A name that is not one of the choices. -/
  | unknownVariant (name : String) (choices : List String)
  /-- A field that must be given and is not. -/
  | missingField (key : String)

namespace DecodeError

/-- The choices of an unknown name, each in backticks: one, two joined by `or`, or a list. -/
def oneOf : List String → String
  | [] => "nothing"
  | [a] => "`" ++ a ++ "`"
  | [a, b] => "`" ++ a ++ "` or `" ++ b ++ "`"
  | names => "one of " ++ ", ".intercalate (names.map fun n => "`" ++ n ++ "`")

/-- The text of a decoding error. -/
def message : DecodeError → String
  | .invalidType found expected => "invalid type: " ++ found.describe ++ ", expected " ++ expected
  | .invalidValue found expected => "invalid value: " ++ found.describe ++ ", expected " ++ expected
  | .invalidLength n expected => "invalid length " ++ toString n ++ ", expected " ++ expected
  | .unknownVariant name [] => "unknown variant `" ++ name ++ "`, there are no variants"
  | .unknownVariant name choices => "unknown variant `" ++ name ++ "`, expected " ++ oneOf choices
  | .missingField key => "missing field `" ++ key ++ "`"

end DecodeError

namespace Decode

/-- The non-finite double that a text spells, if it spells one. -/
def specialReal? (s : String) : Option Float :=
  if s = "nan" ∨ s = "NaN" then some (0.0 / 0.0)
  else if s = "inf" ∨ s = "+inf" ∨ s = "Infinity" then some (1.0 / 0.0)
  else if s = "-inf" ∨ s = "-Infinity" then some (-1.0 / 0.0)
  else none

/-- The document as a reader that expects no double sees it: if `spelled`, a text spelling a
non-finite double stands for a number, and is seen as the number `0.0`. -/
def spelledNumber (spelled : Bool) (d : Document) : Document :=
  match d with
  | .text s => if spelled && (specialReal? s).isSome then .real 0.0 else d
  | _ => d

/-- A double: any number, and, if `spelled`, a text spelling a non-finite double. -/
def real (spelled : Bool) : Document → Except DecodeError Float
  | .int i => .ok (Float.ofInt i)
  | .real x => .ok x
  | .text s =>
    match spelled, specialReal? s with
    | true, some x => .ok x
    | _, _ => .error (.invalidType (.text s) "f64")
  | d => .error (.invalidType d "f64")

/-- A count: a whole number that is not negative. -/
def count : Document → Except DecodeError Nat
  | .int i => if 0 ≤ i then .ok i.toNat else .error (.invalidValue (.int i) "usize")
  | d => .error (.invalidType d "usize")

/-- A boolean. -/
def flag : Document → Except DecodeError Bool
  | .bool b => .ok b
  | d => .error (.invalidType d "a boolean")

/-- Two doubles given as a list of two. -/
def pair (spelled : Bool) (d : Document) : Except DecodeError (Float × Float) :=
  match spelledNumber spelled d with
  | .list [] => .error (.invalidLength 0 "an array of length 2")
  | .list [a] => do
    let _ ← real spelled a
    .error (.invalidLength 1 "an array of length 2")
  | .list (a :: b :: rest) => do
    let x ← real spelled a
    let y ← real spelled b
    if rest.isEmpty then pure (x, y)
    else .error (.invalidLength (rest.length + 2) "fewer elements in array")
  | other => .error (.invalidType other "an array of length 2")

/-- One of several named values: its name, or a record of one key naming it with a null. -/
def choice {α : Type} (choices : List (String × α)) : Document → Except DecodeError α
  | .text s =>
    match (choices.find? (·.1 == s)) with
    | some (_, a) => .ok a
    | none => .error (.unknownVariant s (choices.map (·.1)))
  | .record fields =>
    match Document.entries fields with
    | [(key, value)] =>
      match choices.find? (·.1 == key) with
      | none => .error (.unknownVariant key (choices.map (·.1)))
      | some (_, a) =>
        match value with
        | .null => .ok a
        | d => .error (.invalidType d "unit")
    | _ => .error (.invalidValue (.record fields) "map with a single key")
  | d => .error (.invalidType d "string or map")

/-- A list of doubles. -/
def reals (spelled : Bool) : Document → Except DecodeError (List Float)
  | .list items => items.mapM (real spelled)
  | d => .error (.invalidType d "a sequence")

/-- A field of a record type: its key, and how a document given for it changes the value,
texts spelling non-finite doubles being read if the first argument says so. -/
structure Field (α : Type) where
  key : String
  update : Bool → Document → α → Except DecodeError α

/-- Gives the fields in order from the items of a list; fields beyond the list keep their
values, and items beyond the fields are refused. -/
def byPosition {α : Type} (total : Nat) :
    List (Field α) → List Document → α → Except DecodeError α
  | _, [], a => .ok a
  | [], _ :: _, _ => .error (.invalidLength total "fewer elements in array")
  | f :: fs, d :: ds, a => do
    let a' ← f.update false d a
    byPosition total fs ds a'

/-- A record type named `name` with the given fields, each starting from `default`: from a
record, keys ascending, unknown keys skipped, texts spelling non-finite doubles read if
`spelled`; from a list, fields in order, such texts never read. -/
def fields {α : Type} (name : String) (spec : List (Field α)) (default : α) (spelled : Bool) :
    Document → Except DecodeError α
  | .record given =>
    let visit := fun (a : α) (entry : String × Document) =>
      match spec.find? (·.key == entry.1) with
      | some f => f.update spelled entry.2 a
      | none => .ok a
    List.foldlM visit default (Document.entries given)
  | .list items => byPosition items.length spec items default
  | d => .error (.invalidType d ("struct " ++ name))

end Decode

end Quadrotor
