import SchemaAtlas.Catalog.Record
import SchemaAtlas.Exchange.Connection
import SchemaAtlas.Typing.Target

/-!
# Adapters

An adapter knows one engine: its words for kinds of relations, its placeholders
and quotes, its types, and how to ask its catalog.  Everything that does not
depend on the engine is written against this structure.
-/

namespace SchemaAtlas

open Catalog

/-- The optional parts of a build that an adapter takes part in. -/
structure Capabilities where
  /-- Enumeration types can be listed. -/
  enums : Bool
  /-- Routines can be listed. -/
  routines : Bool
  /-- Foreign key records need a correction before they are used. -/
  foreignKeyCorrection : Bool
  /-- An index of the primary key is added where the catalog lists none. -/
  primaryKeyIndexSynthesis : Bool
  deriving DecidableEq, Repr

namespace Adapter

/-- The error of an adapter that lacks a capability. -/
def unsupported (engine : Engine) (capability : String) : Inquiry α :=
  throw (.unsupported engine capability)

/-- A text with each quote in it written twice. -/
def doubleMarks (mark : Char) (text : List Char) : List Char :=
  text.flatMap fun c => if c = mark then [mark, mark] else [c]

theorem doubleMarks_mark (mark : Char) (rest : List Char) :
    doubleMarks mark (mark :: rest) =
      mark :: mark :: doubleMarks mark rest := by
  simp [doubleMarks]

theorem doubleMarks_other {mark c : Char} (other : c ≠ mark)
    (rest : List Char) :
    doubleMarks mark (c :: rest) = c :: doubleMarks mark rest := by
  simp [doubleMarks, other]

/-- An identifier between two quotes, those inside it doubled. -/
def quoteWith (mark : Char) (identifier : String) : String :=
  String.ofList (mark :: doubleMarks mark identifier.toList ++ [mark])

theorem toList_quoteWith (mark : Char) (identifier : String) :
    (quoteWith mark identifier).toList =
      mark :: doubleMarks mark identifier.toList ++ [mark] :=
  String.toList_ofList

/-- The placeholder that puts a mark before the number of a parameter. -/
def numbered (mark : String) (index : Nat) : String :=
  mark ++ Text.decimal (index + 1)

def createViewAs (quotedName statement : String) : String :=
  "CREATE VIEW " ++ quotedName ++ " AS (" ++ statement ++ ")"

def dropViewNamed (quotedName : String) : String :=
  "DROP VIEW " ++ quotedName

/-- The column ids of an index, which the catalog has to know. -/
def requireOrder (relation index : String) (order? : Option String) :
    Inquiry String :=
  match order? with
  | some order => return order
  | none => throw (.indexOrder relation index)

end Adapter

/-- What is known about an engine.  What most engines share, or lack, is given
as a default. -/
structure Adapter where
  engine : Engine
  capabilities : Capabilities
  /-- The engine's word for a kind of relation. -/
  relationWord : RelationKind → String
  /-- The placeholder of a parameter, counted from zero. -/
  placeholder : Nat → String := Adapter.numbered "$"
  /-- An identifier in quotes. -/
  quote : IdentifierKind → String → String := fun _ =>
    Adapter.quoteWith '\x22'
  /-- The target type of a native type. -/
  resolve : TypeContext → String → Bool → TargetType
  /-- The schema that is active when none is chosen. -/
  schemaName : Inquiry String
  /-- The enumeration types of a schema. -/
  enums : String → Inquiry (List EnumRecord) := fun _ =>
    Adapter.unsupported engine "enums"
  /-- The labels of an enumeration type. -/
  enumLabels : String → String → Inquiry (List LabelRecord) := fun _ _ =>
    Adapter.unsupported engine "enums"
  /-- The routines of a schema. -/
  routines : String → Inquiry (List RoutineRecord) := fun _ =>
    Adapter.unsupported engine "procedures"
  /-- The parameters of a routine. -/
  routineParameters : String → String → Inquiry (List ParameterRecord) :=
    fun _ _ => Adapter.unsupported engine "procedures"
  /-- The relations of a schema that are of a kind, for which the engine's word
  is given. -/
  tables : String → String → Inquiry (List TableRecord)
  /-- The tables whose key a sequence fills in, in no order. -/
  sequenceTables : String → Inquiry (List String) := fun _ => return []
  /-- The tables whose key the engine counts up, in no order. -/
  autoIncrementTables : String → Inquiry (List String) := fun _ => return []
  /-- The columns of a relation. -/
  columns : String → String → Inquiry (List ColumnRecord)
  /-- The foreign keys of a relation. -/
  foreignKeys : String → String → Inquiry (List ForeignKeyRecord)
  /-- The foreign key records without those that the catalog reports by
  mistake. -/
  correctForeignKeys : List ForeignKeyRecord → List ForeignKeyRecord :=
    fun records => records
  /-- The indexes of a relation. -/
  indexes : String → String → Inquiry (List IndexRecord)
  /-- The columns of an index of a relation, in no order. -/
  indexColumns : String → String → String → Inquiry (List IndexColumnRecord)
  /-- The column ids of an index of a relation, in index order. -/
  indexOrder : String → String → String → Inquiry String
  /-- The statement that creates a view of a statement. -/
  createView : String → String → String := fun name statement =>
    Adapter.createViewAs (quote .table name) statement
  /-- The statement that drops a view. -/
  dropView : String → String := fun name =>
    Adapter.dropViewNamed (quote .table name)
  /-- The schema that a new view belongs to. -/
  viewSchema : String → Inquiry String := fun _ => schemaName
  /-- A column of a query, with the type that it is to be resolved as. -/
  retypeQueryColumn : ColumnRecord → ColumnRecord := fun column => column
  /-- Take annotations out of a query: from its lines and the comments on them,
  of which the first belongs to no line. -/
  stripQuery : List String → List String → List String × List String :=
    fun lines comments => (lines, comments)

namespace Catalog

open Catalog.Row

def EnumRecord.ofRow (row : Row) : Except DriverError EnumRecord := do
  return ⟨← row.text 0⟩

def RoutineRecord.ofRow (row : Row) : Except DriverError RoutineRecord := do
  return ⟨← row.text 0, ← row.text 1⟩

/-- Read a row whose only column is the type of a parameter. -/
def ParameterRecord.ofRow (row : Row) :
    Except DriverError ParameterRecord := do
  return ⟨← row.text 0⟩

def TableRecord.ofRow (kind : String) (row : Row) :
    Except DriverError TableRecord := do
  return ⟨← row.text 0, kind, ← row.optionalText 1⟩

def ColumnRecord.ofRow (row : Row) : Except DriverError ColumnRecord := do
  return {
    ordinal := ← row.int 0
    name := ← row.text 1
    nativeType := ← row.text 2
    notNull := ← row.bool 3
    defaultValue := ← row.optionalText 4
    inPrimaryKey := ← row.bool 5
    comment := ← row.optionalText 6 }

def ForeignKeyRecord.ofRow (row : Row) :
    Except DriverError ForeignKeyRecord := do
  return {
    name := ← row.text 0
    column := ← row.text 1
    refTable := ← row.text 2
    refColumn := ← row.optionalText 3
    onUpdate := ← row.optionalText 4
    onDelete := ← row.optionalText 5 }

/-- Read a row of an index that may be that of the primary key. -/
def IndexRecord.ofRow (row : Row) : Except DriverError IndexRecord := do
  return ⟨← row.text 0, ← row.bool 1, ← row.bool 2, none⟩

def IndexColumnRecord.ofRow (row : Row) :
    Except DriverError IndexColumnRecord := do
  return ⟨← row.int 0, ← row.int 1, ← row.text 2⟩

/-- Read a row whose only column is a name. -/
def nameOfRow (row : Row) : Except DriverError String :=
  row.text 0

/-- A comment, missing where the catalog reports an empty one. -/
def dropEmpty (comment : Option String) : Option String :=
  comment.filter fun text => !text.isEmpty

end Catalog

end SchemaAtlas
