import SchemaAtlas.Typing.Target

/-!
# The type vocabulary of MySQL

A type name may carry the words `unsigned` and `zerofill`, and a display width
of one makes a truth value of the smallest integer types.
-/

namespace SchemaAtlas.Vocabulary

open NativeMapping

/-- The signed integer types by name. -/
def mysqlSigned (context : TypeContext) : TypeTable :=
  [ (["tinyint"], plain "i8" "0"),
    (["smallint", "year"], plain "i16" "0"),
    (["mediumint", "int", "integer"], plain context.int32 "0"),
    (["bigint"], plain "i64" "0") ]

/-- The unsigned integer types by name. -/
def mysqlUnsigned (context : TypeContext) : TypeTable :=
  [ (["tinyint"], plain "u8" "0"),
    (["smallint", "year"], plain "u16" "0"),
    (["mediumint", "int", "integer"], plain context.uint32 "0"),
    (["bigint"], plain "u64" "0") ]

/-- The types whose mapping does not depend on the sign. -/
def mysqlTable : TypeTable :=
  [ (["bool", "boolean"], plain "bool" "false"),
    (["bit"], plain "u64" "0"),
    (["float"], plain "f32" "0.0"),
    (["double", "real", "decimal", "dec", "numeric", "fixed"],
      plain "f64" "0.0"),
    (["char", "varchar", "tinytext", "text", "mediumtext", "longtext", "set",
      "enum"], plain "String" "String::new()"),
    (["binary", "varbinary", "tinyblob", "blob", "mediumblob", "longblob"],
      plain "Vec<u8>" "Vec::new()"),
    (["date"], plain "chrono::NaiveDate" "chrono::NaiveDate::default()"),
    (["datetime", "timestamp"],
      plain "chrono::NaiveDateTime" "chrono::NaiveDateTime::default()"),
    (["time"], plain "chrono::NaiveTime" "chrono::NaiveTime::default()"),
    (["json"], plain "serde_json::Value" "serde_json::Value::Null") ]

/-- The name of a type without its modifiers, and whether it is unsigned. -/
def mysqlBase (name : String) : String × Bool :=
  let name := Text.withoutEnds " zerofill".toList name.toList
  match Text.withoutEnd? " unsigned".toList name with
  | some base => (String.ofList base, true)
  | none => (String.ofList name, false)

def mysql : Vocabulary := fun context extent name =>
  let (base, unsigned) := mysqlBase name
  if (base = "bit" ∨ base = "tinyint") ∧ extent.precision = some 1 then
    some (plain "bool" "false")
  else
    (TypeTable.find?
      (if unsigned then mysqlUnsigned context else mysqlSigned context)
      base).or (TypeTable.find? mysqlTable base)

end SchemaAtlas.Vocabulary
