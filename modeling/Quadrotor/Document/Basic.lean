/-!
# Documents

A `Document` is a value of the JSON data model as requests and answers carry it. Whole numbers
and doubles are kept apart, because a count accepts the one and refuses the other, and a double
keeps the sign of a zero. A record keeps its fields in the order they were written; a key given
twice means its last value (`Document.get?`), and `Document.entries` lists the distinct keys in
ascending order, which is the order in which a record's fields are examined.

## Main definitions

* `Document` — null, booleans, whole numbers, doubles, texts, lists and records;
* `Document.get?` — the value of a record's field;
* `Document.entries` — a record's distinct keys, ascending, each with its last value.
-/

namespace Quadrotor

/-- A value of the JSON data model, with whole numbers kept apart from doubles. -/
inductive Document where
  | null
  | bool (b : Bool)
  /-- A whole number written without a point or an exponent. -/
  | int (i : Int)
  /-- A double: a number with a point or an exponent, or one outside the whole-number range. -/
  | real (x : Float)
  | text (s : String)
  | list (items : List Document)
  | record (fields : List (String × Document))
  deriving Inhabited

namespace Document

/-- The last value given for `key` in a list of fields. -/
def lookup (fields : List (String × Document)) (key : String) : Option Document :=
  (fields.reverse.find? (·.1 == key)).map (·.2)

/-- The value of a record's field; a key given twice means its last value. -/
def get? (d : Document) (key : String) : Option Document :=
  match d with
  | .record fields => lookup fields key
  | _ => none

/-- Puts a field into a list of distinct keys in ascending order, replacing the value of an
equal key. -/
def insertEntry (entry : String × Document) :
    List (String × Document) → List (String × Document)
  | [] => [entry]
  | e :: rest =>
    if entry.1 = e.1 then entry :: rest
    else if entry.1 < e.1 then entry :: e :: rest
    else e :: insertEntry entry rest

/-- An item of a list is smaller than the list's document; recursion into items ends. -/
theorem sizeOf_lt_of_mem_list {d : Document} {items : List Document} (h : d ∈ items) :
    sizeOf d < 1 + sizeOf items := by
  have := List.sizeOf_lt_of_mem h
  omega

/-- A field's value is smaller than the record's document; recursion into fields ends. -/
theorem sizeOf_lt_of_mem_record {kv : String × Document} {fields : List (String × Document)}
    (h : kv ∈ fields) : sizeOf kv.2 < 1 + sizeOf fields := by
  have := List.sizeOf_lt_of_mem h
  obtain ⟨k, v⟩ := kv
  simp only [Prod.mk.sizeOf_spec] at this ⊢
  omega

/-- The distinct keys of a list of fields in ascending order, each with its last value. -/
def entries (fields : List (String × Document)) : List (String × Document) :=
  fields.foldl (fun acc e => insertEntry e acc) []

end Document

end Quadrotor
