import SchemaAtlas.Typing.Target

/-!
# Options of a build

The settings of a build, and what they say about a name: whether a relation or a
column is left out, and what the target types of a schema depend on.
-/

namespace SchemaAtlas

/-- What a build leaves out, and how it presents the rest. -/
structure Options where
  /-- The schema to load; without one the adapter finds the active schema. -/
  schema : Option String
  presentation : Presentation
  initialisms : Initialisms
  ignoredTables : List String
  ignoredFields : List String
  accessorNaming : AccessorNaming
  useIndexNames : Bool
  int32 : String
  uint32 : String
  /-- Whether a column of JSON is resolved as a type named after the column. -/
  jsonColumnTypes : Bool

namespace Options

/-- The options of a build that is not configured. -/
def standard : Options where
  schema := none
  presentation := .standard
  initialisms := .common
  ignoredTables := []
  ignoredFields := []
  accessorNaming := .smart
  useIndexNames := false
  int32 := "i32"
  uint32 := "u32"
  jsonColumnTypes := false

/-- Whether a list mentions a name, in any case. -/
def mentions (names : List String) (name : String) : Bool :=
  names.any fun entry => Text.lowercase entry == Text.lowercase name

/-- Whether a relation is left out. -/
def ignoresTable (options : Options) (name : String) : Bool :=
  mentions options.ignoredTables name

/-- Whether a column is left out. -/
def ignoresField (options : Options) (name : String) : Bool :=
  mentions options.ignoredFields name

/-- What target types depend on, in a schema. -/
def typeContext (options : Options) (schema : String) : TypeContext where
  schema := schema
  presentation := options.presentation
  int32 := options.int32
  uint32 := options.uint32
  names := options.initialisms

end Options

end SchemaAtlas
