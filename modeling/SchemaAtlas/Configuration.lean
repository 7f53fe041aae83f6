import SchemaAtlas.Build.Options
import SchemaAtlas.Toml.Document

/-!
# Configuration files

A configuration is a TOML document that names the engine and may set everything
that a build depends on.  A configuration that has been loaded always converts
into options: the words in it are checked while it is loaded.
-/

namespace SchemaAtlas

/-- The values of a configuration file, as they are written there. -/
structure Configuration where
  engineName : String
  schema : Option String
  presentationWord : Option String
  ignoredTables : List String
  ignoredFields : List String
  initialisms : List String
  accessorNamingWord : Option String
  useIndexNames : Bool
  int32 : String
  uint32 : String
  jsonColumnTypes : Bool
  deriving DecidableEq, Repr

/-- What is found under the path of a file. -/
inductive FileContent where
  | missing
  | unreadable (cause : String)
  | bytes (content : List UInt8)

namespace Configuration

/-- The name of the file that is read unless another one is given. -/
def defaultFile : String := "schemagraph.toml"

/-- How messages call a configuration that was not read from a file. -/
def inlinePath : String := "<inline>"

/-! ## Reading a document -/

/-- The string under a key, which may be missing. -/
def string? (document : Toml.Table) (key : String) :
    Except Toml.Fault (Option String) :=
  match document.find? key with
  | none => .ok none
  | some (.string text) => .ok (some text)
  | some _ => .error (.wrongType key)

/-- The truth value under a key, false when it is missing. -/
def flag (document : Toml.Table) (key : String) : Except Toml.Fault Bool :=
  match document.find? key with
  | none => .ok false
  | some (.boolean value) => .ok value
  | some _ => .error (.wrongType key)

def element (key : String) : Toml.Value → Except Toml.Fault String
  | .string text => .ok text
  | _ => .error (.wrongType key)

/-- The list of strings under a key, empty when it is missing. -/
def strings (document : Toml.Table) (key : String) :
    Except Toml.Fault (List String) :=
  match document.find? key with
  | none => .ok []
  | some (.array elements) => elements.mapM (element key)
  | some _ => .error (.wrongType key)

/-- The configuration in a document.  Keys that mean nothing are passed over. -/
def ofDocument (document : Toml.Table) :
    Except Toml.Fault Configuration := do
  let some engineName ← string? document "engine"
    | throw (.missingKey "engine")
  return {
    engineName
    schema := ← string? document "schema"
    presentationWord := ← string? document "typeMode"
    ignoredTables := ← strings document "ignoreTables"
    ignoredFields := ← strings document "ignoreFields"
    initialisms := ← strings document "initialisms"
    accessorNamingWord := ← string? document "foreignKeyMode"
    useIndexNames := ← flag document "useIndexNames"
    int32 := (← string? document "int32Type").getD "i32"
    uint32 := (← string? document "uint32Type").getD "u32"
    jsonColumnTypes := ← flag document "jsonColumnTypes" }

/-- A reader of texts in some format: it finds the configuration that a text
stands for, or what is wrong with the text. -/
abbrev Reader := String → Except Toml.Fault Configuration

def ofToml : Reader := fun text =>
  (Toml.parse text).bind ofDocument

/-! ## Conversion -/

def engine (configuration : Configuration) : Except Error Engine :=
  match Engine.ofAlias? configuration.engineName with
  | some engine => .ok engine
  | none => .error (.unknownEngine configuration.engineName)

/-- A word for a setting, with the value of the setting without one. -/
def wordOr (standard : α) (read : String → Except UnknownWord α)
    (word : Option String) : Except Error α :=
  match word with
  | some word => (read word).mapError .unknownWord
  | none => .ok standard

def presentation (configuration : Configuration) :
    Except Error Presentation :=
  wordOr .standard Presentation.read configuration.presentationWord

def accessorNaming (configuration : Configuration) :
    Except Error AccessorNaming :=
  wordOr .smart AccessorNaming.read configuration.accessorNamingWord

/-- The common initialisms together with those of the configuration. -/
def initialismSet (configuration : Configuration) :
    Except Error Initialisms :=
  Initialisms.common.addAll configuration.initialisms

def options (configuration : Configuration) : Except Error Options := do
  return {
    schema := configuration.schema
    presentation := ← configuration.presentation
    initialisms := ← configuration.initialismSet
    ignoredTables := configuration.ignoredTables
    ignoredFields := configuration.ignoredFields
    accessorNaming := ← configuration.accessorNaming
    useIndexNames := configuration.useIndexNames
    int32 := configuration.int32
    uint32 := configuration.uint32
    jsonColumnTypes := configuration.jsonColumnTypes }

/-- Check every word of a configuration. -/
def validate (configuration : Configuration) : Except Error Unit := do
  let _ ← configuration.engine
  let _ ← configuration.presentation
  let _ ← configuration.accessorNaming
  let _ ← configuration.initialismSet

/-! ## Loading -/

/-- Read a configuration from the text of a file. -/
def parse (read : Reader) (path text : String) :
    Except Error Configuration := do
  let configuration ← (read text).mapError fun fault =>
    .configurationMalformed path fault.message
  configuration.validate
  return configuration

/-- Read a configuration from a text that is in no file. -/
def ofText (read : Reader) (text : String) : Except Error Configuration :=
  parse read inlinePath text

/-- Load a configuration from what is found under a path. -/
def load (read : Reader) (path : String) :
    FileContent → Except Error Configuration
  | .missing => .error (.configurationMissing path)
  | .unreadable cause => .error (.configurationUnreadable path cause)
  | .bytes content =>
    match String.fromUTF8? (ByteArray.mk content.toArray) with
    | some text => parse read path text
    | none =>
      .error (.configurationUnreadable path "the file is not valid text")

end Configuration

end SchemaAtlas
