import SchemaAtlas.Initialisms
import SchemaAtlas.Mode
import SchemaAtlas.Typing.Descriptor

/-!
# Target types

A native type is presented as a target type: the expression that names it, and
the expression of its zero value.  How an engine's type maps into the families
of target types is a `NativeMapping`; the settings that matter for it are a
`TypeContext`.
-/

namespace SchemaAtlas

/-- The name of a target type and the expression of its zero value. -/
structure Spelling where
  name : String
  zero : String
  deriving DecidableEq, Repr

/-- A target type, with the size that its descriptor declared. -/
structure TargetType where
  name : String
  zero : String
  precision : Option Nat
  scale : Option Nat
  deriving DecidableEq, Repr

/-- A spelling as a target type of a declared size. -/
def Spelling.withExtent (spelling : Spelling) (extent : Extent) : TargetType :=
  ⟨spelling.name, spelling.zero, extent.precision, extent.scale⟩

/-- How a native type maps into the families: the plain spelling, what a driver
decodes into, and the wrapper of the driver, where there is one, that can hold a
missing value itself. -/
structure NativeMapping where
  standard : Spelling
  decoded : Spelling
  wrapper : Option String
  deriving DecidableEq, Repr

namespace NativeMapping

/-- The mapping with one spelling for all families. -/
def plain (name zero : String) : NativeMapping :=
  ⟨⟨name, zero⟩, ⟨name, zero⟩, none⟩

/-- The mapping with a wrapper. -/
def wrappedBy (mapping : NativeMapping) (wrapper : String) : NativeMapping :=
  { mapping with wrapper := some wrapper }

/-- The mapping that is decoded into something else. -/
def decodedAs (mapping : NativeMapping) (name zero : String) : NativeMapping :=
  { mapping with decoded := ⟨name, zero⟩ }

end NativeMapping

/-- What a target type depends on besides its descriptor: the schema whose own
types need no qualification, the family, the names of the two 32-bit integer
types, and the initialisms. -/
structure TypeContext where
  schema : String
  presentation : Presentation
  int32 : String
  uint32 : String
  names : Initialisms

/-- What an engine calls its types: the mapping of a lowercase type name of a
declared size. -/
abbrev Vocabulary := TypeContext → Extent → String → Option NativeMapping

/-- A list of native names with the mapping that they share. -/
abbrev TypeTable := List (List String × NativeMapping)

/-- The mapping of a name in a table. -/
def TypeTable.find? (table : TypeTable) (name : String) :
    Option NativeMapping :=
  (List.find? (fun (names, _) => names.contains name) table).map Prod.snd

/-- The spellings of values that may be missing and of collections. -/
def Spelling.optional (spelling : Spelling) : Spelling :=
  ⟨"Option<" ++ spelling.name ++ ">", "None"⟩

@[inherit_doc Spelling.optional]
def Spelling.boxedOptional (spelling : Spelling) : Spelling :=
  ⟨"Option<Box<" ++ spelling.name ++ ">>", "None"⟩

/-- The spelling of a type whose zero value is its default. -/
def Spelling.defaulted (name : String) : Spelling :=
  ⟨name, name ++ "::default()"⟩

/-- The spelling of a collection of the named elements. -/
def Spelling.collectionOf (element : String) : Spelling :=
  ⟨"Vec<" ++ element ++ ">", "Vec::new()"⟩

/-- The spelling of an array of the given elements; strings have a collection
type of their own. -/
def Spelling.arrayOf (element : Spelling) : Spelling :=
  if element.name = "String" then .defaulted "StringList"
  else .collectionOf element.name

/-- The spelling, made optional for a nullable value. -/
def Spelling.orMissing (spelling : Spelling) (nullable : Bool) : Spelling :=
  if nullable then spelling.optional else spelling

/-- The spelling in the family whose values are decoded by the driver. -/
def NativeMapping.decodedOrMissing (mapping : NativeMapping)
    (nullable : Bool) : Spelling :=
  if nullable then mapping.decoded.boxedOptional else mapping.decoded

/-- The spelling of a native type in a family.  Without a wrapper the full
family is the standard one, and the hybrid family the pointer one. -/
def NativeMapping.present (mapping : NativeMapping)
    (presentation : Presentation) (nullable : Bool) : Spelling :=
  match presentation, mapping.wrapper with
  | .standard, _ | .full, none => mapping.standard.orMissing nullable
  | .full, some wrapper => .defaulted wrapper
  | .hybrid, some wrapper =>
    if nullable then .defaulted wrapper else mapping.decodedOrMissing false
  | .hybrid, none | .pointer, _ => mapping.decodedOrMissing nullable

/-- The spelling of a type that the engine's vocabulary does not list: a type of
the schema, named after its descriptor. -/
def Spelling.userDefined (context : TypeContext) (descriptor : List Char)
    (nullable : Bool) : Spelling :=
  let localName := match Text.splitOnce? '.' descriptor with
    | some (schema, name) =>
      if schema = context.schema.toList then name else descriptor
    | none => descriptor
  Spelling.orMissing
    (.defaulted (String.ofList (context.names.camelChars localName))) nullable

/-- The target type of a scalar or array descriptor.  The elements of an array
are never nullable, and the array itself is empty rather than missing. -/
def Vocabulary.simpleType (vocabulary : Vocabulary) (context : TypeContext)
    (descriptor : List Char) (nullable : Bool) : TargetType :=
  let (scalar, isArray) := match Descriptor.elementType? descriptor with
    | some element => (element, true)
    | none => (descriptor, false)
  let (name, extent) := Descriptor.splitExtent scalar
  let nullable := nullable && !isArray
  let spelling :=
    match vocabulary context extent (String.ofList (Text.lower name)) with
    | some mapping => mapping.present context.presentation nullable
    | none => .userDefined context name nullable
  (if isArray then spelling.arrayOf else spelling).withExtent extent

/-- The target type of a descriptor.  A set of rows is a collection, whatever
the type of its rows. -/
def Vocabulary.resolveChars (vocabulary : Vocabulary) (context : TypeContext)
    (descriptor : List Char) (nullable : Bool) : TargetType :=
  match _announced : Descriptor.rowType? (Text.trim descriptor) with
  | some row =>
    (Spelling.collectionOf
      (vocabulary.resolveChars context row false).name).withExtent Extent.none
  | none => vocabulary.simpleType context (Text.trim descriptor) nullable
termination_by descriptor.length
decreasing_by
  exact Nat.lt_of_lt_of_le (Descriptor.length_rowType_lt _announced)
    (Descriptor.length_trim_le descriptor)

/-- The target type of a native type descriptor. -/
def Vocabulary.resolve (vocabulary : Vocabulary) (context : TypeContext)
    (native : String) (nullable : Bool) : TargetType :=
  vocabulary.resolveChars context native.toList nullable

end SchemaAtlas
