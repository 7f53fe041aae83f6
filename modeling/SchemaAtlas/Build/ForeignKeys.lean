import SchemaAtlas.Build.Load

/-!
# Foreign keys of a graph

A foreign key record is resolved against the relations that were loaded: every
column that it mentions has to be a field.  Accessors are named once all foreign
keys are known.  Each foreign key also gets an entry in one map for the whole
schema, under its name and a random number that makes the key unused.
-/

namespace SchemaAtlas

open Catalog

namespace Build

/-- A foreign key record with a name; one without a name is named after its
table and column. -/
def nameForeignKey (relation : Relation) (record : ForeignKeyRecord) :
    ForeignKeyRecord :=
  if record.name.isEmpty then
    { record with
      name := relation.nativeName ++ "_" ++ record.column ++ "_fkey" }
  else record

/-- The field that a foreign key refers to: that of the referenced column, or
else the primary key. -/
def refPosition (record : ForeignKeyRecord) (referenced : Relation) :
    Except ForeignKeyMiss Nat :=
  match record.refColumn.filter fun column => !column.isEmpty with
  | some column =>
    match referenced.positionOf? column with
    | some position => .ok position
    | none => .error (.referencedColumn record.refTable column)
  | none =>
    match referenced.primaryKey? with
    | some position => .ok position
    | none => .error (.noPrimaryKey record.refTable)

/-- Resolve a named foreign key record of a relation. -/
def resolveNamed (relations : NameMap Relation) (relation : Relation)
    (record : ForeignKeyRecord) : Except ForeignKeyMiss ForeignKey :=
  match relation.positionOf? record.column with
  | none => .error (.owningColumn record.column)
  | some position =>
    match relations.find? record.refTable with
    | none => .error (.referencedRelation record.refTable)
    | some referenced => do
      let refPosition ← refPosition record referenced
      return {
        name := record.name
        accessor := ""
        field := ⟨relation.nativeName, position⟩
        refField := ⟨referenced.nativeName, refPosition⟩
        refType := referenced.name
        record }

/-- Resolve a foreign key record of a relation.  A miss is an error that names
the relation and the constraint. -/
def resolveForeignKey (schema : String) (relations : NameMap Relation)
    (relation : Relation) (record : ForeignKeyRecord) :
    Except Error ForeignKey :=
  let named := nameForeignKey relation record
  (resolveNamed relations relation named).mapError
    (.foreignKey (qualified schema relation.nativeName) named.name)

structure OwnedKeys where
  relation : Relation
  keys : List ForeignKey

def loadForeignKeys (adapter : Adapter) (schema : String)
    (relations : NameMap Relation) (relation : Relation) :
    Inquiry OwnedKeys := do
  let records ← adapter.foreignKeys schema relation.nativeName
  let records :=
    if adapter.capabilities.foreignKeyCorrection then
      adapter.correctForeignKeys records
    else records
  let keys ← Recorded.ofExcept
    (records.mapM (resolveForeignKey schema relations relation))
  return ⟨relation, keys⟩

/-- The owning type and the referenced type of every foreign key. -/
def typePairs (owned : List OwnedKeys) : List (String × String) :=
  owned.flatMap fun own =>
    own.keys.map fun key => (own.relation.name, key.refType)

/-- The rule for one foreign key: the smart rule uses the name of the field for
keys that lead from one type to another several times. -/
def effectiveNaming (naming : AccessorNaming) (pairs : List (String × String))
    (owner target : String) : AccessorNaming :=
  match naming with
  | .smart => if 1 < pairs.count (owner, target) then .field else .parent
  | other => other

def accessorUnder (names : Initialisms) (naming : AccessorNaming)
    (relation : Relation) (key : ForeignKey) : String :=
  match naming with
  | .smart | .parent => key.refType
  | .field =>
    let fieldName :=
      (relation.fields[key.field.position]?.map Field.name).getD ""
    key.refType ++ "By" ++ fieldName
  | .key => key.refType ++ "By" ++ names.camel key.name

def nameAccessors (options : Options) (owned : List OwnedKeys) :
    List OwnedKeys :=
  let pairs := typePairs owned
  owned.map fun own =>
    { own with
      keys := own.keys.map fun key =>
        let naming := effectiveNaming options.accessorNaming pairs
          own.relation.name key.refType
        { key with
          accessor :=
            accessorUnder options.initialisms naming own.relation key } }

/-- The places of all foreign keys, each with the name of its foreign key. -/
def namedPlaces (owned : List OwnedKeys) : List (String × Place) :=
  owned.flatMap fun own =>
    own.keys.zipIdx.map fun (key, position) =>
      (key.name, ⟨own.relation.nativeName, position⟩)

/-- Draw numbers until one makes a key of the name that the map does not
have. -/
def unusedKey (map : NameMap Place) (name : String) : Nat → Session String
  | 0 => throw (.drawsExhausted name)
  | patience + 1 => do
    let number ← Session.draw
    let key := name ++ "_" ++ Text.decimal number.toNat
    if map.contains key then unusedKey map name patience
    else return key

/-- Give every place an unused key of its name. -/
def registerPlaces (map : NameMap Place) :
    List (String × Place) → Session (NameMap Place)
  | [] => return map
  | (name, place) :: rest => do
    let key ← unusedKey map name (← Session.patience)
    registerPlaces (map.insert key place) rest

def attachForeignKeys (relations : NameMap Relation) (owned : List OwnedKeys) :
    NameMap Relation :=
  let keysOf := owned.map fun own => (own.relation.nativeName, own.keys)
  relations.map fun name relation =>
    { relation with
      foreignKeys := (keysOf.lookup name).getD relation.foreignKeys }

/-- Resolve the foreign keys of all relations, in the order of their names. -/
def resolveForeignKeys (adapter : Adapter) (options : Options)
    (schema : String) (relations : NameMap Relation) :
    Inquiry (List OwnedKeys) := do
  let owned ← relations.values.mapM
    (loadForeignKeys adapter schema relations)
  return nameAccessors options owned

end Build

end SchemaAtlas
