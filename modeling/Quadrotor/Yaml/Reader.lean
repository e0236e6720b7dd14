import Quadrotor.Document.Basic
import Quadrotor.Decimal.Nearest
/-!
# Reading YAML parameter files

Parameter files and scenarios are written in the block style of YAML. `Yaml.read?` reads the
part of YAML they use into a `Document`:

* block mappings (`key: value`, one per line, nested by indentation) and block sequences
  (`- item`, at the indentation of their key or deeper), including items that start a mapping
  or a sequence on their own line;
* flow sequences `[a, b]` and flow mappings `{a: 1}` on one line;
* single- and double-quoted scalars, and plain scalars;
* comments from a `#` that starts a line or follows a blank, and the markers `---` and `...`.

A plain scalar is null (`~`, `null`, empty), a boolean (`true`, `false`, in three spellings),
a whole number, a finite floating-point number (also `.inf`, `-.inf`, `.nan`), or else text.
Multi-line scalars, anchors, tags and flow collections over several lines are not read.
-/

namespace Quadrotor

namespace Yaml

/-- A line of a YAML text: its indentation and its content without comment. -/
structure Line where
  indent : Nat
  text : List Char

/-- The text with its trailing blanks removed. -/
def trimEnd (cs : List Char) : List Char := (cs.reverse.dropWhile (· = ' ')).reverse

/-- The text with its leading blanks removed. -/
def trimStart (cs : List Char) : List Char := cs.dropWhile (· = ' ')

/-- Drops a comment: from a `#` that starts the text or follows a blank, outside quotes. -/
def stripComment (cs : List Char) : List Char :=
  let rec go (single double : Bool) (prev : Char) : List Char → List Char
    | [] => []
    | c :: rest =>
      if single then c :: go (c != '\'') false c rest
      else if double then
        if c = '\\' then
          match rest with
          | d :: rest' => c :: d :: go false true d rest'
          | [] => [c]
        else c :: go false (c != '"') c rest
      else if c = '#' ∧ (prev = ' ' ∨ prev = '\t') then []
      else c :: go (c = '\'') (c = '"') c rest
  go false false ' ' cs

/-- The lines of a text that carry content. -/
def lines (s : String) : List Line :=
  (s.splitOn "\n").filterMap fun l =>
    let cs := l.toList.filter (· != '\r')
    let indent := (cs.takeWhile (· = ' ')).length
    let text := trimEnd (stripComment (cs.drop indent))
    if text.isEmpty ∨ text = ['-', '-', '-'] ∨ text = ['.', '.', '.'] then none
    else some ⟨indent, text⟩

/-- A whole number: an optional sign and decimal digits, within the range of 64-bit words. -/
def wholeOf? (s : String) : Option Int :=
  let (negative, ds) := match s.toList with
    | '-' :: r => (true, r)
    | '+' :: r => (false, r)
    | r => (false, r)
  if ds.isEmpty ∨ !ds.all Char.isDigit then none
  else
    let v := Decimal.digitsValue ds
    if negative then (if v ≤ Nat.pow 2 63 then some (-(v : Int)) else none)
    else if v < Nat.pow 2 64 then some v else none

/-- A floating-point number as YAML spells it: `.inf`, `-.inf`, `.nan` in three spellings each,
or a number text whose value is finite. -/
def realOf? (s : String) : Option Float :=
  let unsigned := match s.toList with
    | '+' :: r => String.ofList r
    | _ => s
  if unsigned = ".inf" ∨ unsigned = ".Inf" ∨ unsigned = ".INF" then some (1.0 / 0.0)
  else if s = "-.inf" ∨ s = "-.Inf" ∨ s = "-.INF" then some (-1.0 / 0.0)
  else if s = ".nan" ∨ s = ".NaN" ∨ s = ".NAN" then some (0.0 / 0.0)
  else match Decimal.parseReal? s with
    | some x => if x.isFinite then some x else none
    | none => none

/-- The document that a plain scalar stands for. -/
def plain (s : String) : Document :=
  if s = "" ∨ s = "~" ∨ s = "null" ∨ s = "Null" ∨ s = "NULL" then .null
  else if s = "true" ∨ s = "True" ∨ s = "TRUE" then .bool true
  else if s = "false" ∨ s = "False" ∨ s = "FALSE" then .bool false
  else match wholeOf? s with
    | some i => .int i
    | none =>
      match realOf? s with
      | some x => .real x
      | none => .text s

/-- Reads a single-quoted scalar after its opening quote: a doubled quote stands for one. -/
def singleQuoted (acc : List Char) : List Char → Except String (String × List Char)
  | [] => .error "unterminated single-quoted scalar"
  | '\'' :: '\'' :: rest => singleQuoted ('\'' :: acc) rest
  | '\'' :: rest => .ok (String.ofList acc.reverse, rest)
  | c :: rest => singleQuoted (c :: acc) rest

/-- The character of a double-quoted escape. -/
def escaped (c : Char) : Option Char :=
  if c = 'n' then some '\n' else if c = 't' then some '\t' else if c = 'r' then some '\r'
  else if c = '0' then some '\x00' else if c = '"' then some '"' else if c = '\\' then some '\\'
  else if c = '/' then some '/' else if c = ' ' then some ' ' else none

/-- Reads a double-quoted scalar after its opening quote. -/
def doubleQuoted (acc : List Char) : List Char → Except String (String × List Char)
  | [] => .error "unterminated double-quoted scalar"
  | '"' :: rest => .ok (String.ofList acc.reverse, rest)
  | '\\' :: c :: rest =>
    match escaped c with
    | some e => doubleQuoted (e :: acc) rest
    | none => .error "unknown escape in double-quoted scalar"
  | c :: rest => doubleQuoted (c :: acc) rest

/-- A plain scalar inside a flow collection ends at a comma or a closing bracket. -/
def isFlowStop (c : Char) : Bool := c = ',' ∨ c = ']' ∨ c = '}'

mutual

/-- Reads one node of a flow collection, with `fuel` bounding the nesting. -/
def flowNode : Nat → List Char → Except String (Document × List Char)
  | 0, _ => .error "flow collection nested too deeply"
  | fuel + 1, cs =>
    match trimStart cs with
    | '[' :: rest => flowItems fuel rest []
    | '{' :: rest => flowEntries fuel rest []
    | '"' :: rest => (doubleQuoted [] rest).map fun (s, r) => (.text s, r)
    | '\'' :: rest => (singleQuoted [] rest).map fun (s, r) => (.text s, r)
    | cs' =>
      let text := cs'.takeWhile (fun c => !isFlowStop c)
      .ok (plain (String.ofList (trimEnd text)), cs'.drop text.length)

/-- Reads the items of a flow sequence after `[`, the items so far in reverse. -/
def flowItems : Nat → List Char → List Document → Except String (Document × List Char)
  | 0, _, _ => .error "flow collection nested too deeply"
  | fuel + 1, cs, acc =>
    match trimStart cs with
    | ']' :: rest => .ok (.list acc.reverse, rest)
    | _ => do
      let (d, rest) ← flowNode fuel cs
      match trimStart rest with
      | ',' :: r => flowItems fuel r (d :: acc)
      | ']' :: r => .ok (.list (d :: acc).reverse, r)
      | _ => .error "expected , or ] in a flow sequence"

/-- Reads the entries of a flow mapping after `{`, the entries so far in reverse. -/
def flowEntries : Nat → List Char → List (String × Document) →
    Except String (Document × List Char)
  | 0, _, _ => .error "flow collection nested too deeply"
  | fuel + 1, cs, acc =>
    match trimStart cs with
    | '}' :: rest => .ok (.record acc.reverse, rest)
    | cs' => do
      let key := cs'.takeWhile (fun c => c != ':' && !isFlowStop c)
      match cs'.drop key.length with
      | ':' :: r => do
        let (d, rest) ← flowNode fuel r
        let entry := (String.ofList (trimEnd key), d)
        match trimStart rest with
        | ',' :: r' => flowEntries fuel r' (entry :: acc)
        | '}' :: r' => .ok (.record (entry :: acc).reverse, r')
        | _ => .error "expected , or \x7d in a flow mapping"
      | _ => .error "expected : in a flow mapping"

end

/-- The node written on the rest of a line: a flow collection, a quoted scalar, or a plain
scalar running to the end of the line. -/
def inline (text : List Char) : Except String Document :=
  match text with
  | '[' :: _ | '{' :: _ | '"' :: _ | '\'' :: _ => do
    let (d, rest) ← flowNode (text.length + 1) text
    if (trimStart rest).isEmpty then pure d else .error "unexpected text after a value"
  | _ => .ok (plain (String.ofList text))

/-- Whether a line's content is an item of a block sequence. -/
def isItem (text : List Char) : Bool :=
  match text with
  | ['-'] => true
  | '-' :: ' ' :: _ => true
  | _ => false

/-- The key of a block mapping entry and what follows its colon. -/
def entryOf? (text : List Char) : Option (String × List Char) :=
  match text with
  | '"' :: rest =>
    match doubleQuoted [] rest with
    | .ok (key, ':' :: after) => some (key, after)
    | _ => none
  | '\'' :: rest =>
    match singleQuoted [] rest with
    | .ok (key, ':' :: after) => some (key, after)
    | _ => none
  | '[' :: _ | '{' :: _ => none
  | _ =>
    let rec split (acc : List Char) : List Char → Option (String × List Char)
      | [] => none
      | [':'] => some (String.ofList (trimEnd acc.reverse), [])
      | ':' :: ' ' :: rest => some (String.ofList (trimEnd acc.reverse), ' ' :: rest)
      | c :: rest => split (c :: acc) rest
    split [] text

mutual

/-- Reads the block node that starts at the first line, with `fuel` bounding the recursion. -/
def node : Nat → List Line → Except String (Document × List Line)
  | 0, _ => .error "document nested too deeply"
  | _, [] => .ok (.null, [])
  | fuel + 1, l :: rest =>
    if isItem l.text then items fuel l.indent (l :: rest) []
    else if (entryOf? l.text).isSome then entries fuel l.indent (l :: rest) []
    else (inline l.text).map fun d => (d, rest)

/-- Reads the items of a block sequence at indentation `n`, the items so far in reverse. -/
def items : Nat → Nat → List Line → List Document → Except String (Document × List Line)
  | 0, _, _, _ => .error "document nested too deeply"
  | fuel + 1, n, l :: rest, acc =>
    if l.indent = n ∧ isItem l.text then
      let after := l.text.drop 1
      let gap := (after.takeWhile (· = ' ')).length
      let content := after.drop gap
      if content.isEmpty then
        match rest with
        | next :: _ =>
          if n < next.indent then do
            let (d, rest') ← node fuel rest
            items fuel n rest' (d :: acc)
          else items fuel n rest (.null :: acc)
        | [] => items fuel n rest (.null :: acc)
      else do
        let (d, rest') ← node fuel (⟨n + 1 + gap, content⟩ :: rest)
        items fuel n rest' (d :: acc)
    else .ok (.list acc.reverse, l :: rest)
  | _, _, [], acc => .ok (.list acc.reverse, [])

/-- Reads the entries of a block mapping at indentation `n`, the entries so far in reverse. -/
def entries : Nat → Nat → List Line → List (String × Document) →
    Except String (Document × List Line)
  | 0, _, _, _ => .error "document nested too deeply"
  | fuel + 1, n, l :: rest, acc =>
    match entryOf? l.text with
    | some (key, after) =>
      if l.indent = n then
        let content := trimStart after
        if content.isEmpty then
          match rest with
          | next :: _ =>
            if n < next.indent then do
              let (d, rest') ← node fuel rest
              entries fuel n rest' ((key, d) :: acc)
            else if next.indent = n ∧ isItem next.text then do
              let (d, rest') ← items fuel n rest []
              entries fuel n rest' ((key, d) :: acc)
            else entries fuel n rest ((key, .null) :: acc)
          | [] => entries fuel n rest ((key, .null) :: acc)
        else do
          let d ← inline content
          entries fuel n rest ((key, d) :: acc)
      else .ok (.record acc.reverse, l :: rest)
    | none => .ok (.record acc.reverse, l :: rest)
  | _, _, [], acc => .ok (.record acc.reverse, [])

end

/-- Reads a YAML text as one document; an empty text is null. -/
def read? (s : String) : Except String Document := do
  let ls := lines s
  let fuel := ls.foldl (fun n l => n + l.text.length + 1) 1
  let (d, rest) ← node fuel ls
  match rest with
  | [] => pure d
  | l :: _ => .error ("unexpected content: " ++ String.ofList l.text)

end Yaml

end Quadrotor
