import SchemaAtlas.Toml.Word

/-!
# TOML documents

A document is a sequence of lines that define keys or begin tables.  Arrays and
tables in braces may be nested, up to a limit.
-/

namespace SchemaAtlas.Toml

/-- The number of arrays and tables in braces that may be nested. -/
def nestingLimit : Nat := 80

mutual

/-- Read a value; the first number bounds the steps, the second the nesting. -/
def value : Nat → Nat → Reader Value
  | 0, _, text => malformed text
  | steps + 1, depth, text =>
    match stringValue? text with
    | some reading => reading
    | none =>
      match text, depth with
      | '[' :: rest, depth + 1 => do
        let (elements, rest) ← elements steps depth (skipSpace rest)
        return (.array elements, rest)
      | '\x7b' :: rest, depth + 1 => do
        let (entries, rest) ← entries steps depth [] (skipSpace rest)
        return (.closedTable entries, rest)
      | text, _ => wordValue text

/-- Read the elements of an array behind its opening bracket. -/
def elements : Nat → Nat → Reader (List Value)
  | 0, _, text => malformed text
  | _, _, ']' :: rest => .ok ([], rest)
  | steps + 1, depth, text => do
    let (first, rest) ← value steps depth text
    match skipSpace rest with
    | ',' :: rest => do
      let (others, rest) ← elements steps depth (skipSpace rest)
      return (first :: others, rest)
    | ']' :: rest => return ([first], rest)
    | rest => malformed rest

/-- Read the entries of a table behind its opening brace.  Lines may end
anywhere between the words, except within a key with dots. -/
def entries : Nat → Nat → Table → Reader Table
  | 0, _, _, text => malformed text
  | _, _, table, '\x7d' :: rest => .ok (table, rest)
  | steps + 1, depth, table, text => do
    let (path, rest) ← key text
    let '=' :: rest := skipSpace rest | malformed rest
    let (value, rest) ← value steps depth (skipSpace rest)
    let table ← table.defineAt value path
    match skipSpace rest with
    | ',' :: rest => entries steps depth table (skipSpace rest)
    | '\x7d' :: rest => return (table, rest)
    | rest => malformed rest

end

inductive Line where
  | blank
  | header (path : List String)
  | elementHeader (path : List String)
  | definition (path : List String) (value : Value)

/-- Read what a line consists of, without its comment and its end. -/
def lineContent : Reader Line := fun text =>
  match skipBlanks text with
  | '[' :: '[' :: rest => do
    let (path, rest) ← key rest
    match rest with
    | ']' :: ']' :: rest => return (.elementHeader path, rest)
    | rest => malformed rest
  | '[' :: rest => do
    let (path, rest) ← key rest
    match rest with
    | ']' :: rest => return (.header path, rest)
    | rest => malformed rest
  | [] => .ok (.blank, [])
  | '#' :: rest => .ok (.blank, '#' :: rest)
  | '\n' :: rest => .ok (.blank, '\n' :: rest)
  | '\r' :: rest => .ok (.blank, '\r' :: rest)
  | text => do
    let (path, rest) ← key text
    let '=' :: rest := rest | malformed rest
    let (value, rest) ←
      value (2 * rest.length + 2) nestingLimit (skipBlanks rest)
    return (.definition path value, rest)

/-- The state of reading: the document so far, and the path of the table that
lines belong to. -/
structure Progress where
  document : Table
  current : List String

/-- Add a line to what has been read. -/
def Progress.add (progress : Progress) : Line → Except Fault Progress
  | .blank => .ok progress
  | .header path =>
    match path.getLast? with
    | none => .ok progress
    | some key => do
      let document ← progress.document.changeAt (Table.beginTable key)
        path.dropLast
      return ⟨document, path⟩
  | .elementHeader path =>
    match path.getLast? with
    | none => .ok progress
    | some key => do
      let document ← progress.document.changeAt (Table.beginElement key)
        path.dropLast
      return ⟨document, path⟩
  | .definition path value => do
    let document ← progress.document.changeAt
      (fun table => table.defineAt value path) progress.current
    return { progress with document }

/-- Read the lines of a document; the number bounds their number. -/
def linesFrom (progress : Progress) : Nat → List Char → Except Fault Table
  | _, [] => .ok progress.document
  | 0, text => malformed text
  | lines + 1, text => do
    let (line, rest) ← lineContent text
    let progress ← progress.add line
    match skipComment (skipBlanks rest) with
    | [] => return progress.document
    | rest =>
      match lineEnd? rest with
      | some next => linesFrom progress lines next
      | none => malformed rest

/-- Read a document.  A byte order mark at its beginning does not count. -/
def parse (text : String) : Except Fault Table :=
  let text := match text.toList with
    | '\uFEFF' :: rest => rest
    | text => text
  linesFrom ⟨[], []⟩ (text.length + 1) text

end SchemaAtlas.Toml
