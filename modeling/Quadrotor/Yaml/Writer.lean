import Quadrotor.Document.Writer
/-!
# Writing documents as YAML

`Yaml.render` writes a document in the block style of YAML: a mapping as `key: value` lines, a
sequence as `- item` lines at the indentation of its key, nested mappings two columns deeper,
and an empty collection as `[]` or `{}`. Doubles are written with the shortest digits that read
back, as in documents, and the non-finite ones as `.nan`, `.inf` and `-.inf`. A text is written
plain when it is a simple word that reads back as text, and in single quotes otherwise.
-/

namespace Quadrotor

namespace Yaml

/-- The words that read as null or as a boolean. -/
def reservedWords : List String :=
  ["null", "Null", "NULL", "true", "True", "TRUE", "false", "False", "FALSE"]

/-- Whether a text can be written without quotes: a letter or underscore, then letters, digits
and underscores, and not a word that reads as null or a boolean. -/
def isPlainWord (s : String) : Bool :=
  match s.toList with
  | [] => false
  | c :: rest =>
    (c.isAlpha || c == '_') && rest.all (fun d => d.isAlphanum || d == '_') &&
      !reservedWords.contains s

/-- A text as a YAML scalar: plain, or single-quoted with each quote doubled. -/
def quoteText (s : String) : String :=
  if isPlainWord s then s
  else String.ofList ('\'' :: s.toList.flatMap (fun c => if c = '\'' then ['\'', '\''] else [c]) ++
    ['\''])

/-- Finite doubles in YAML: as in documents, but a positive exponent has no sign. -/
def numberFormat : Notation := { Notation.document with exponentPlus := false }

/-- A double as a YAML scalar. -/
def realText (x : Float) : String :=
  if x.isNaN then ".nan"
  else if x.isInf then (if x > 0 then ".inf" else "-.inf")
  else numberFormat.render x

/-- A document that is written on the line of its key or dash. -/
def scalarText : Document → String
  | .null => "null"
  | .bool b => if b then "true" else "false"
  | .int i => toString i
  | .real x => realText x
  | .text s => quoteText s
  | .list _ => "[]"
  | .record _ => "{}"

/-- Whether a document is written on lines of its own below its key or dash. -/
def isBlock : Document → Bool
  | .list (_ :: _) => true
  | .record (_ :: _) => true
  | _ => false

/-- The lines of a document written in block style at indentation zero. -/
def blockLines : Document → List String
  | .list items => items.flatMap fun d =>
    if isBlock d then
      match blockLines d with
      | first :: rest => ("- " ++ first) :: rest.map ("  " ++ ·)
      | [] => ["- " ++ scalarText d]
    else ["- " ++ scalarText d]
  | .record fields => fields.flatMap fun kv =>
    match kv.2 with
    | .list (_ :: _) => (quoteText kv.1 ++ ":") :: blockLines kv.2
    | .record (_ :: _) => (quoteText kv.1 ++ ":") :: (blockLines kv.2).map ("  " ++ ·)
    | d => [quoteText kv.1 ++ ": " ++ scalarText d]
  | d => [scalarText d]
decreasing_by
  all_goals simp_wf
  · exact Document.sizeOf_lt_of_mem_list ‹_›
  · exact Document.sizeOf_lt_of_mem_record ‹_›
  · exact Document.sizeOf_lt_of_mem_record ‹_›

/-- A document as YAML text, each line ended by a line feed. -/
def render (d : Document) : String := String.join ((blockLines d).map (· ++ "\n"))

end Yaml

end Quadrotor
