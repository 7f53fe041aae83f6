import SchemaAtlas.AdHoc.Template
import SchemaAtlas.AdHoc.View
import SchemaAtlas.Build.Load

/-!
# Typed queries

A free-form statement becomes a typed query: its text with placeholders, line by
line, its parameters, and the relation of its rows.  The fields of that relation
are listed by hand or read from the catalog.
-/

namespace SchemaAtlas

open Catalog Text

/-- What is asked of a typed query. -/
structure QuerySpec where
  statement : String
  /-- The name of the type of a row. -/
  typeName : String
  /-- The name of the function; without one it is derived. -/
  functionName : Option String
  /-- Whether there is at most one row. -/
  onlyOne : Bool
  /-- Whether a column that may be null gives a nullable field. -/
  allowNulls : Bool
  /-- A list of fields, with which the catalog is not asked. -/
  fields : Option String
  /-- Whether the lines of the statement are trimmed. -/
  trim : Bool
  /-- Whether annotations are moved from the statement into comments. -/
  strip : Bool
  /-- Whether parameters may be interpolated. -/
  interpolate : Bool
  typeComment : Option String
  functionComment : Option String

/-- A typed query.  The first comment belongs to no line, each other one to a
line of the statement. -/
structure TypedQuery where
  name : String
  statement : List String
  comments : List String
  parameters : List QueryParameter
  onlyOne : Bool
  interpolate : Bool
  rowType : Relation
  comment : Option String

namespace TypedQuery

def capitalized (name : String) : String :=
  match name.toList with
  | [] => ""
  | c :: rest => String.ofList (upperChar c ++ rest)

/-- The name of a query: what it gets, and by which parameters. -/
def functionName (typeName : String) (onlyOne : Bool)
    (parameters : List QueryParameter) : String :=
  let found := if onlyOne then typeName else Inflection.plural typeName
  if parameters.isEmpty then "Get" ++ found
  else
    found ++ "By" ++
      "".intercalate
        (parameters.map fun parameter => capitalized parameter.name)

/-- Trim the lines of a statement; each but the last keeps one blank at its
end. -/
def trimLines : List (List Char) → List (List Char)
  | [] => []
  | [last] => [Text.trim last]
  | line :: rest => (Text.trim line ++ [' ']) :: trimLines rest

def lines (trim : Bool) (statement : String) : List String :=
  let lines := splitOn '\n' statement.toList
  (if trim then trimLines lines else lines).map String.ofList

/-- The field for an entry of a field list: a name, and behind a blank a
type. -/
def listedField (names : Initialisms) (entry : List Char) : Field :=
  let (name, type) := match splitOnce? ' ' entry with
    | some (name, type) => (String.ofList name, String.ofList (Text.trim type))
    | none => (String.ofList entry, "String")
  { name
    type := ⟨type, "Default::default()", none, none⟩
    column :=
      { ordinal := 0
        name := names.snake name
        nativeType := type
        notNull := false
        defaultValue := none
        inPrimaryKey := false
        comment := none } }

def listedFields (names : Initialisms) (fields : String) : List Field :=
  (((splitOn ',' fields.toList).map Text.trim).filter fun entry =>
    !entry.isEmpty).map (listedField names)

def columnField (adapter : Adapter) (options : Options) (schema : String)
    (allowNulls : Bool) (column : ColumnRecord) : Field where
  name := options.initialisms.camel column.name
  type := adapter.resolve (options.typeContext schema) column.nativeType
    (allowNulls && column.nullable)
  column := column

def rowRelation (names : Initialisms) (spec : QuerySpec) (schema : String)
    (fields : List Field) : Relation :=
  let name := "[custom " ++ lowercase (names.snake spec.typeName) ++ "]"
  let table : TableRecord := { name, kind := "", comment := spec.typeComment }
  let empty := Relation.ofTable spec.typeName schema .table table
  { empty with manualPrimaryKey := true }.pushAll fields

@[simp] theorem fields_rowRelation (names : Initialisms) (spec : QuerySpec)
    (schema : String) (fields : List Field) :
    (rowRelation names spec schema fields).fields = fields := by
  rw [rowRelation, Relation.pushAll_eq]
  rfl

@[simp] theorem schema_rowRelation (names : Initialisms) (spec : QuerySpec)
    (schema : String) (fields : List Field) :
    (rowRelation names spec schema fields).schema = schema := by
  rw [rowRelation, Relation.pushAll_eq]
  rfl

/-- The lines of a query and the comments on them. -/
def annotatedLines (adapter : Adapter) (spec : QuerySpec)
    (statement : String) : List String × List String :=
  let lines := lines spec.trim statement
  let comments := List.replicate (lines.length + 1) ""
  if spec.strip then adapter.stripQuery lines comments else (lines, comments)

def fields (adapter : Adapter) (options : Options) (spec : QuerySpec)
    (schema inspected : String) : Session (List Field) :=
  match spec.fields with
  | some fields => return listedFields options.initialisms fields
  | none => do
    let columns ← adapter.queryColumns inspected
    return columns.map (columnField adapter options schema spec.allowNulls)

/-- Turn a statement into a typed query. -/
def introspect (adapter : Adapter) (options : Options) (spec : QuerySpec) :
    Session TypedQuery := do
  let template ←
    Recorded.ofExcept (Template.read spec.interpolate spec.statement)
  let executable := template.render true adapter.placeholder
  let inspected :=
    "\n".intercalate (lines spec.trim (template.render false fun _ => "NULL"))
  let (statement, comments) := annotatedLines adapter spec executable
  let schema ← Session.ask (Build.schemaToLoad adapter options)
  let fields ← fields adapter options spec schema inspected
  return {
    name := spec.functionName.getD
      (functionName spec.typeName spec.onlyOne template.parameters)
    statement
    comments
    parameters := template.parameters
    onlyOne := spec.onlyOne
    interpolate := spec.interpolate
    rowType := rowRelation options.initialisms spec schema fields
    comment := spec.functionComment }

end TypedQuery

end SchemaAtlas
