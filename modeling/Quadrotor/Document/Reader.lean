import Quadrotor.Document.Basic
import Quadrotor.Decimal.Reading
/-!
# Reading a document from text

`Document.read?` reads one JSON value from a text, with blanks (space, tab, line feed, carriage
return) around it and nothing else.

Numbers follow one rule. The digits before the point are gathered while their value stays below
`2 ^ 64`; the digits after that are dropped and each raises the exponent by one. The digits after
the point are gathered by the same test, each lowering the exponent, and are dropped once the
value would pass `2 ^ 64`. An exponent is gathered while it stays below `2 ^ 31`; a larger one
makes the number zero if it is negative or the digits are zero, and is refused otherwise. The
decimal is then read by `Decimal.toFloat?`. A number with neither point nor exponent is a whole
number if it fits: below `2 ^ 64`, or down to `-2 ^ 63`; `-0` and the negatives beyond that are
doubles. At most 127 lists and records may be open at once.

## Where a fault is reported

A text that is not a document is refused with a `ReadFault` and the line and column where the
reader stopped. Columns count bytes of the UTF-8 text. A fault found in a character the reader
has taken, such as a letter in an exponent, is reported at the column of the last byte taken; a
fault found by looking at the next character, such as a missing comma, is reported at the column
of that character, or of the last byte when the text has ended. The reader takes the four digits
of a `\u` escape, and the one character after a leading surrogate, a byte at a time, so a fault
there may stand inside a character.

Every step of the reader consumes at least one character, so the length of the text bounds the
depth of its recursion; that length is its fuel.
-/

namespace Quadrotor

/-- What is wrong with a text that is not a document. -/
inductive ReadFault where
  | endInValue
  | endInList
  | endInRecord
  | endInString
  | expectedColon
  | expectedListCommaOrEnd
  | expectedRecordCommaOrEnd
  | expectedWord
  | expectedValue
  | invalidEscape
  | invalidNumber
  | numberOutOfRange
  | controlCharacter
  | keyNotText
  | loneSurrogate
  | unfinishedSurrogate
  | trailingComma
  | trailingCharacters
  | tooDeep
  deriving DecidableEq, Repr

/-- The text of a reading fault. -/
def ReadFault.message : ReadFault → String
  | .endInValue => "EOF while parsing a value"
  | .endInList => "EOF while parsing a list"
  | .endInRecord => "EOF while parsing an object"
  | .endInString => "EOF while parsing a string"
  | .expectedColon => "expected `:`"
  | .expectedListCommaOrEnd => "expected `,` or `]`"
  | .expectedRecordCommaOrEnd => "expected `,` or `\x7d`"
  | .expectedWord => "expected ident"
  | .expectedValue => "expected value"
  | .invalidEscape => "invalid escape"
  | .invalidNumber => "invalid number"
  | .numberOutOfRange => "number out of range"
  | .controlCharacter => "control character (\\u0000-\\u001F) found while parsing a string"
  | .keyNotText => "key must be a string"
  | .loneSurrogate => "lone leading surrogate in hex escape"
  | .unfinishedSurrogate => "unexpected end of hex escape"
  | .trailingComma => "trailing comma"
  | .trailingCharacters => "trailing characters"
  | .tooDeep => "recursion limit exceeded"

/-- A fault met while reading, and where it is reported: `ahead` bytes past the text that
precedes the last `left` characters. -/
structure Snag where
  fault : ReadFault
  left : Nat
  ahead : Nat

namespace Snag

/-- A fault reported after the characters taken so far, `rest` being the text not taken. -/
def after (fault : ReadFault) (rest : List Char) : Snag := ⟨fault, rest.length, 0⟩

/-- A fault reported one byte into `rest`: at the next character when the reader looks at it,
or after the first byte of a character the reader took and refused, or at the end when `rest` is
empty. -/
def next (fault : ReadFault) (rest : List Char) : Snag := ⟨fault, rest.length, 1⟩

end Snag

/-- Why a text is not a document, and where: the line counted from `1`, and the column, the
number of bytes from the start of the line to the place of the report. -/
structure ReadError where
  fault : ReadFault
  line : Nat
  column : Nat

/-- The text of a reading error, with its place. -/
def ReadError.message (e : ReadError) : String :=
  e.fault.message ++ " at line " ++ toString e.line ++ " column " ++ toString e.column

namespace Document

/-- Space, tab, line feed and carriage return separate tokens. -/
def isBlank (c : Char) : Bool := c == ' ' || c == '\t' || c == '\n' || c == '\r'

/-- The text with its leading blanks removed. -/
def skipBlank (cs : List Char) : List Char := cs.dropWhile isBlank

/-- The value of a decimal digit character. -/
def digitValue (c : Char) : Nat := c.toNat - '0'.toNat

/-- Gathers decimal digits into `acc` while the value stays below `2 ^ 64`. Returns the value,
the number of digits gathered, the number of digits dropped after the first that did not fit,
and the rest of the text. -/
def gatherDigits (acc : Nat) : List Char → Nat × Nat × Nat × List Char
  | [] => (acc, 0, 0, [])
  | c :: rest =>
    if c.isDigit then
      let next := acc * 10 + digitValue c
      if next < Nat.pow 2 64 then
        let (v, taken, dropped, r) := gatherDigits next rest
        (v, taken + 1, dropped, r)
      else
        let skipped := rest.takeWhile Char.isDigit
        (acc, 0, skipped.length + 1, rest.drop skipped.length)
    else (acc, 0, 0, c :: rest)

/-- Gathers the digits of an exponent after its first into `acc` while the value stays below
`2 ^ 31`. Returns the value, whether a digit took it past (that digit is taken), and the rest of
the text. -/
def gatherExponent (acc : Nat) : List Char → Nat × Bool × List Char
  | [] => (acc, false, [])
  | c :: rest =>
    if c.isDigit then
      let next := acc * 10 + digitValue c
      if next < Nat.pow 2 31 then gatherExponent next rest else (acc, true, rest)
    else (acc, false, c :: rest)

/-- A double from a decimal's parts, negated for a minus sign; `rest` is the text after it. -/
def realOf (negative : Bool) (d : Decimal) (rest : List Char) : Except Snag Float :=
  match d.toFloat? with
  | some x => .ok (if negative then -x else x)
  | none => .error (.after .numberOutOfRange rest)

/-- Reads an exponent part after its `e`, and the double that the significand and the exponent
read as. -/
def readExponent (negative : Bool) (significand : Nat) (start : Int) (cs : List Char) :
    Except Snag (Float × List Char) :=
  let (down, cs) := match cs with
    | '+' :: r => (false, r)
    | '-' :: r => (true, r)
    | r => (false, r)
  match cs with
  | [] => .error (.after .endInValue [])
  | c :: r =>
    if !c.isDigit then .error (.next .invalidNumber (c :: r))
    else
      let (shift, overflowed, rest) := gatherExponent (digitValue c) r
      if overflowed then
        if significand ≠ 0 ∧ !down then .error (.after .numberOutOfRange rest)
        else .ok (if negative then -0.0 else 0.0, rest.dropWhile Char.isDigit)
      else
        let shift : Int := shift
        (realOf negative ⟨significand, if down then start - shift else start + shift⟩ rest).map
          fun x => (x, rest)

/-- Reads what may follow the digits gathered so far: an exponent, or nothing. -/
def readTail (negative : Bool) (significand : Nat) (start : Int) (cs : List Char) :
    Except Snag (Float × List Char) :=
  match cs with
  | 'e' :: r | 'E' :: r => readExponent negative significand start r
  | r => (realOf negative ⟨significand, start⟩ r).map fun x => (x, r)

/-- Reads a fraction after its point; it needs at least one digit. -/
def readFraction (negative : Bool) (significand : Nat) (start : Int) (cs : List Char) :
    Except Snag (Float × List Char) :=
  let (v, taken, dropped, rest) := gatherDigits significand cs
  if taken = 0 ∧ dropped = 0 then
    .error (if rest.isEmpty then .next .endInValue [] else .next .invalidNumber rest)
  else readTail negative v (start - taken) rest

/-- Reads what follows the digits before the point: a fraction, an exponent, or nothing, in which
case the number is whole unless digits were dropped or it does not fit. -/
def readAfterWhole (negative : Bool) (v dropped : Nat) (r : List Char) :
    Except Snag (Document × List Char) :=
  match r with
  | '.' :: r' => (readFraction negative v dropped r').map fun (x, rest) => (.real x, rest)
  | 'e' :: _ | 'E' :: _ => (readTail negative v dropped r).map fun (x, rest) => (.real x, rest)
  | _ =>
    if dropped ≠ 0 then (realOf negative ⟨v, dropped⟩ r).map fun x => (.real x, r)
    else if !negative then .ok (.int v, r)
    else if v = 0 ∨ Nat.pow 2 63 < v then .ok (.real (-(Float.ofNat v)), r)
    else .ok (.int (-(v : Int)), r)

/-- Reads a number after its optional minus sign. -/
def readNumber (negative : Bool) (cs : List Char) : Except Snag (Document × List Char) :=
  match cs with
  | [] => .error (.after .endInValue [])
  | '0' :: r =>
    match r with
    | c :: _ => if c.isDigit then .error (.next .invalidNumber r) else readAfterWhole negative 0 0 r
    | [] => readAfterWhole negative 0 0 r
  | c :: r =>
    if c.isDigit then
      let (v, _, dropped, rest) := gatherDigits 0 cs
      readAfterWhole negative v dropped rest
    else .error (.next .invalidNumber (c :: r))

/-- The value of a hexadecimal digit. -/
def hexValue (c : Char) : Option Nat :=
  if c.isDigit then some (digitValue c)
  else if 'a' ≤ c ∧ c ≤ 'f' then some (c.toNat - 'a'.toNat + 10)
  else if 'A' ≤ c ∧ c ≤ 'F' then some (c.toNat - 'A'.toNat + 10)
  else none

/-- Four hexadecimal digits after `\u` as a UTF-16 unit, with the text after them. Fewer than
four bytes left end the text; four bytes that are not all hexadecimal digits are refused after
the fourth byte. -/
def readUnit (cs : List Char) : Except Snag (Nat × List Char) :=
  if ((cs.take 4).map Char.utf8Size).foldr (· + ·) 0 < 4 then .error (.after .endInString [])
  else
    let bad : Snag := ⟨.invalidEscape, cs.length, 4⟩
    match cs with
    | a :: b :: c :: d :: rest =>
      match hexValue a, hexValue b, hexValue c, hexValue d with
      | some x, some y, some z, some w => .ok (((x * 16 + y) * 16 + z) * 16 + w, rest)
      | _, _, _, _ => .error bad
    | _ => .error bad

/-- Whether a UTF-16 unit is a leading surrogate. -/
def isLeading (u : Nat) : Bool := 0xD800 ≤ u && u ≤ 0xDBFF

/-- Whether a UTF-16 unit is a trailing surrogate. -/
def isTrailing (u : Nat) : Bool := 0xDC00 ≤ u && u ≤ 0xDFFF

/-- The character of a `\u` escape, after its `u`, and how many characters it takes: a unit
outside the surrogates, or a leading surrogate followed by an escaped trailing one. -/
def readUnicode (cs : List Char) : Except Snag (Char × Nat) := do
  let (u, rest) ← readUnit cs
  if isTrailing u then throw (.after .loneSurrogate rest)
  else if !isLeading u then pure (Char.ofNat u, 4)
  else
    match rest with
    | [] => throw (.after .endInString [])
    | '\\' :: rest' =>
      match rest' with
      | [] => throw (.after .endInString [])
      | 'u' :: rest'' =>
        let (l, after) ← readUnit rest''
        if isTrailing l then pure (Char.ofNat (0x10000 + (u - 0xD800) * 0x400 + (l - 0xDC00)), 10)
        else throw (.after .loneSurrogate after)
      | _ :: _ => throw (.next .unfinishedSurrogate rest')
    | _ :: _ => throw (.next .unfinishedSurrogate rest)

/-- Reads the rest of a string after its opening quote, with the characters read so far in
reverse order. -/
def readString (acc : List Char) : List Char → Except Snag (String × List Char)
  | [] => .error (.after .endInString [])
  | '"' :: rest => .ok (String.ofList acc.reverse, rest)
  | '\\' :: rest =>
    match rest with
    | [] => .error (.after .endInString [])
    | c :: rest' =>
      match c with
      | '"' => readString ('"' :: acc) rest'
      | '\\' => readString ('\\' :: acc) rest'
      | '/' => readString ('/' :: acc) rest'
      | 'b' => readString ('\x08' :: acc) rest'
      | 'f' => readString ('\x0c' :: acc) rest'
      | 'n' => readString ('\n' :: acc) rest'
      | 'r' => readString ('\r' :: acc) rest'
      | 't' => readString ('\t' :: acc) rest'
      | 'u' =>
        match readUnicode rest' with
        | .ok (ch, n) => readString (ch :: acc) (rest'.drop n)
        | .error err => .error err
      | _ => .error (.next .invalidEscape rest)
  | c :: rest =>
    if c.toNat < 0x20 then .error (.after .controlCharacter rest) else readString (c :: acc) rest
termination_by cs => cs.length
decreasing_by all_goals (simp only [List.length_cons, List.length_drop]; omega)

/-- Reads the rest of a literal word such as `true` after its first letter: each further letter
must follow, and the word stands for `d`. -/
def readWord (d : Document) : List Char → List Char → Except Snag (Document × List Char)
  | [], cs => .ok (d, cs)
  | _ :: _, [] => .error (.after .endInValue [])
  | w :: ws, c :: rest =>
    if c = w then readWord d ws rest else .error (.next .expectedWord (c :: rest))

/-- The most lists and records that may be open at once. -/
def maxDepth : Nat := 127

mutual

/-- Reads one value after leading blanks, inside `depth` open lists and records, with `fuel`
bounding the nesting. -/
def readValue : Nat → Nat → List Char → Except Snag (Document × List Char)
  | 0, _, _ => .error (.next .endInValue [])
  | fuel + 1, depth, cs =>
    match skipBlank cs with
    | [] => .error (.next .endInValue [])
    | 'n' :: rest => readWord .null "ull".toList rest
    | 't' :: rest => readWord (.bool true) "rue".toList rest
    | 'f' :: rest => readWord (.bool false) "alse".toList rest
    | '"' :: rest => (readString [] rest).map fun (s, r) => (.text s, r)
    | '-' :: rest => readNumber true rest
    | '[' :: rest =>
      if maxDepth ≤ depth then .error (.next .tooDeep ('[' :: rest))
      else readItems fuel (depth + 1) true rest []
    | '{' :: rest =>
      if maxDepth ≤ depth then .error (.next .tooDeep ('{' :: rest))
      else readFields fuel (depth + 1) true rest []
    | c :: rest =>
      if c.isDigit then readNumber false (c :: rest) else .error (.next .expectedValue (c :: rest))

/-- Reads the items of a list after `[` (`first`) or after an item, with the items read so far
in reverse. -/
def readItems : Nat → Nat → Bool → List Char → List Document →
    Except Snag (Document × List Char)
  | 0, _, _, _, _ => .error (.next .endInList [])
  | fuel + 1, depth, first, cs, acc =>
    let item := fun (start : List Char) =>
      match readValue fuel depth start with
      | .error err => .error err
      | .ok (d, rest) => readItems fuel depth false rest (d :: acc)
    match skipBlank cs with
    | [] => .error (.next .endInList [])
    | ']' :: rest => .ok (.list acc.reverse, rest)
    | c :: rest =>
      if first then item (c :: rest)
      else if c = ',' then
        match skipBlank rest with
        | [] => .error (.next .endInValue [])
        | ']' :: r => .error (.next .trailingComma (']' :: r))
        | r => item r
      else .error (.next .expectedListCommaOrEnd (c :: rest))

/-- Reads the fields of a record after `{` (`first`) or after a field, with the fields read so
far in reverse. -/
def readFields : Nat → Nat → Bool → List Char → List (String × Document) →
    Except Snag (Document × List Char)
  | 0, _, _, _, _ => .error (.next .endInRecord [])
  | fuel + 1, depth, first, cs, acc =>
    let field := fun (start : List Char) =>
      match start with
      | '"' :: r =>
        match readString [] r with
        | .error err => .error err
        | .ok (key, rest) =>
          match skipBlank rest with
          | ':' :: r' =>
            match readValue fuel depth r' with
            | .error err => .error err
            | .ok (d, rest') => readFields fuel depth false rest' ((key, d) :: acc)
          | [] => .error (.next .endInRecord [])
          | other => .error (.next .expectedColon other)
      | '}' :: r => .error (.next .trailingComma ('}' :: r))
      | other => .error (.next .keyNotText other)
    match skipBlank cs with
    | [] => .error (.next .endInRecord [])
    | '}' :: rest => .ok (.record acc.reverse, rest)
    | c :: rest =>
      if first then field (c :: rest)
      else if c = ',' then
        match skipBlank rest with
        | [] => .error (.next .endInValue [])
        | r => field r
      else .error (.next .expectedRecordCommaOrEnd (c :: rest))

end

/-- The line and column of byte `i` of a text given by its bytes: lines count from `1`, and the
column is the number of bytes from the start of the line to `i`. -/
def lineColumn (bytes : List UInt8) (i : Nat) : Nat × Nat :=
  let before := bytes.take i
  let sinceBreak := (before.reverse.takeWhile (· != 10)).length
  (1 + (before.filter (· == 10)).length, sinceBreak)

/-- Where a fault met in `text` (the characters `cs`) is reported. -/
def locate (text : String) (cs : List Char) (s : Snag) : ReadError :=
  let bytes := text.toUTF8.toList
  let taken := (String.ofList (cs.take (cs.length - s.left))).utf8ByteSize
  let (line, column) := lineColumn bytes (min bytes.length (taken + s.ahead))
  ⟨s.fault, line, column⟩

/-- Reads a whole text as one document, with blanks around it and nothing else. -/
def read? (text : String) : Except ReadError Document :=
  let cs := text.toList
  match readValue (cs.length + 1) 0 cs with
  | .error s => .error (locate text cs s)
  | .ok (d, rest) =>
    match skipBlank rest with
    | [] => .ok d
    | r => .error (locate text cs (.next .trailingCharacters r))

end Document

end Quadrotor
