import Quadrotor.Document.Basic
import Quadrotor.Decimal.Notation
/-!
# Writing a document as text

`Document.render` writes a document on one line with no blanks. Texts are quoted with the
escapes of JSON: a quote and a backslash are escaped, the five named control characters by
their letters and the other controls below `0x20` as `\u00xx`; all else stands as itself.

Doubles are written by `Notation.document`: the shortest digits that read back, a tie to the
even digit, written out in full for decimal positions from `-4` to `16` and with an exponent
outside them, an integral value with `.0`. A NaN or an infinity has no JSON number, so it is
written as the text `"nan"`, `"inf"` or `"-inf"`.
-/

namespace Quadrotor

/-- Doubles in documents: shortest digits, ties to even, positional for decimal positions
`-5 < k ≤ 16`, an integral value ending in `.0`, a positive exponent with a plus sign. -/
def Notation.document : Notation where
  positional k := decide (-5 < k ∧ k ≤ 16)
  pointZero := true
  exponentPlus := true
  tie := .toEven
  nanText := "nan"
  infinityText := "inf"

namespace Document

/-- A hexadecimal digit, lower case. -/
def hexDigit (n : Nat) : Char :=
  if n < 10 then Char.ofNat ('0'.toNat + n) else Char.ofNat ('a'.toNat + n - 10)

/-- A character as it stands inside a quoted text. -/
def escapeChar (c : Char) : List Char :=
  if c = '"' then ['\\', '"']
  else if c = '\\' then ['\\', '\\']
  else if c = '\n' then ['\\', 'n']
  else if c = '\r' then ['\\', 'r']
  else if c = '\t' then ['\\', 't']
  else if c = '\x08' then ['\\', 'b']
  else if c = '\x0c' then ['\\', 'f']
  else if c.toNat < 0x20 then
    ['\\', 'u', '0', '0', hexDigit (c.toNat / 16), hexDigit (c.toNat % 16)]
  else [c]

/-- A text in quotes, escaped. -/
def quote (s : String) : String :=
  String.ofList ('"' :: s.toList.flatMap escapeChar ++ ['"'])

/-- The text of a document on one line. -/
def render : Document → String
  | .null => "null"
  | .bool b => if b then "true" else "false"
  | .int i => toString i
  | .real x =>
    if x.isFinite then Notation.document.render x else quote (Notation.document.render x)
  | .text s => quote s
  | .list items => "[" ++ ",".intercalate (items.map render) ++ "]"
  | .record fields =>
    "\x7b" ++ ",".intercalate (fields.map fun kv => quote kv.1 ++ ":" ++ render kv.2) ++ "\x7d"
decreasing_by
  all_goals simp_wf
  · exact sizeOf_lt_of_mem_list ‹_›
  · exact sizeOf_lt_of_mem_record ‹_›

/-- `n` blanks. -/
def blanks (n : Nat) : String := String.ofList (List.replicate n ' ')

/-- The text of a document spread over lines: each item and field on a line of its own,
indented two columns per level, an empty list or record as `[]` or `{}`. A NaN or an infinity
is written as `null`. -/
def renderPretty (indent : Nat) : Document → String
  | .list [] => "[]"
  | .record [] => "\x7b\x7d"
  | .list items =>
    "[\n" ++
      ",\n".intercalate (items.map fun d => blanks (indent + 2) ++ renderPretty (indent + 2) d) ++
      "\n" ++ blanks indent ++ "]"
  | .record fields =>
    "\x7b\n" ++ ",\n".intercalate (fields.map fun kv =>
      blanks (indent + 2) ++ quote kv.1 ++ ": " ++ renderPretty (indent + 2) kv.2) ++
      "\n" ++ blanks indent ++ "\x7d"
  | .real x => if x.isFinite then Notation.document.render x else "null"
  | d => render d
termination_by d => sizeOf d
decreasing_by
  all_goals simp_wf
  · exact sizeOf_lt_of_mem_list ‹_›
  · exact sizeOf_lt_of_mem_record ‹_›

end Document

end Quadrotor
