import SchemaAtlas.Text.Numeral

/-!
# Values of a TOML document

A document is a table of values.  While it is read, a table also knows how it
came about, because a table may be extended in some ways and not in others.
-/

namespace SchemaAtlas.Toml

/-- What is wrong with a document. -/
inductive Fault where
  /-- The text is not of the right form; the number counts the characters from
  there to its end. -/
  | malformed (remaining : Nat)
  | duplicateKey (key : String)
  | wrongType (key : String)
  | missingKey (key : String)
  deriving DecidableEq, Repr

def Fault.message : Fault → String
  | .malformed remaining =>
    "unexpected text, " ++ Text.decimal remaining ++
      " characters before the end"
  | .duplicateKey key => "duplicate key " ++ key
  | .wrongType key => "wrong type of value for " ++ key
  | .missingKey key => "missing key " ++ key

/-- How a table came about. -/
inductive Origin where
  /-- A header named it. -/
  | header
  /-- A header of a table inside it implied it. -/
  | implied
  /-- A key with dots implied it. -/
  | dotted
  deriving DecidableEq, Repr

inductive Value where
  | string (text : String)
  | integer (value : Int)
  | float (text : String)
  | boolean (value : Bool)
  | moment (text : String)
  | array (elements : List Value)
  /-- A table written in braces, which cannot be extended. -/
  | closedTable (entries : List (String × Value))
  /-- A table that headers or keys with dots may extend. -/
  | openTable (origin : Origin) (entries : List (String × Value))
  /-- A list of tables, of which a header extends the last; it is kept from the
  last to the first. -/
  | tableArray (last : List (String × Value))
      (earlier : List (List (String × Value)))

/-- The entries of a table, in the order in which they were defined. -/
abbrev Table := List (String × Value)

namespace Table

def find? (table : Table) (key : String) : Option Value :=
  table.lookup key

/-- Put a value in the place of that of a key, or at the end. -/
def set (table : Table) (key : String) (value : Value) : Table :=
  if (table.find? key).isSome then
    table.map fun (name, old) =>
      if name = key then (name, value) else (name, old)
  else table ++ [(key, value)]

/-- Define a key that must not be defined yet. -/
def define (table : Table) (key : String) (value : Value) :
    Except Fault Table :=
  if (table.find? key).isSome then .error (.duplicateKey key)
  else .ok (table ++ [(key, value)])

/-- Define a value under a key with dots.  The tables on the way must have been
implied, the last of them by such a key.  Of a list of tables the last may be on
the way, although a header named it, but it cannot take the value itself. -/
def defineAt (table : Table) (value : Value) :
    List String → Except Fault Table
  | [] => .ok table
  | [key] => table.define key value
  | key :: next :: path =>
    match table.find? key with
    | none => do
      let inner ← defineAt [] value (next :: path)
      return table ++ [(key, .openTable .dotted inner)]
    | some (.openTable origin entries) =>
      if origin = .header ∨ (path.isEmpty ∧ origin ≠ .dotted) then
        .error (.duplicateKey key)
      else do
        let inner ← defineAt entries value (next :: path)
        return table.set key (.openTable origin inner)
    | some (.tableArray last earlier) =>
      if path.isEmpty then .error (.duplicateKey key)
      else do
        let inner ← defineAt last value (next :: path)
        return table.set key (.tableArray inner earlier)
    | some _ => .error (.duplicateKey key)

/-- Change the table at a path of header keys.  Tables on the way are implied
where they are missing; the last of a list of tables is entered. -/
def changeAt (table : Table) (change : Table → Except Fault Table) :
    List String → Except Fault Table
  | [] => change table
  | key :: path =>
    match table.find? key with
    | none => do
      let inner ← changeAt [] change path
      return table ++ [(key, .openTable .implied inner)]
    | some (.openTable origin entries) => do
      let inner ← changeAt entries change path
      return table.set key (.openTable origin inner)
    | some (.tableArray last earlier) => do
      let inner ← changeAt last change path
      return table.set key (.tableArray inner earlier)
    | some _ => .error (.duplicateKey key)

/-- Begin the table that a header names; it may have been implied by a header
before. -/
def beginTable (key : String) (table : Table) : Except Fault Table :=
  match table.find? key with
  | none => .ok (table ++ [(key, .openTable .header [])])
  | some (.openTable .implied entries) =>
    .ok (table.set key (.openTable .header entries))
  | some _ => .error (.duplicateKey key)

/-- Begin the next table of a list of tables. -/
def beginElement (key : String) (table : Table) : Except Fault Table :=
  match table.find? key with
  | none => .ok (table ++ [(key, .tableArray [] [])])
  | some (.tableArray last earlier) =>
    .ok (table.set key (.tableArray [] (last :: earlier)))
  | some _ => .error (.duplicateKey key)

end Table

end SchemaAtlas.Toml
