import SchemaAtlas.Typing.Target

/-!
# The type vocabulary of SQLite

Declared types are free text.  A few well-known names are taken exactly; for the
rest the affinity of the column decides, which is found by looking for keywords
in the declared type.
-/

namespace SchemaAtlas.Vocabulary

open NativeMapping

/-- The names that are taken exactly, before any keyword is looked for. -/
def sqliteTable : TypeTable :=
  [ (["bool", "boolean"], plain "bool" "false"),
    (["date"], plain "chrono::NaiveDate" "chrono::NaiveDate::default()"),
    (["datetime", "timestamp"],
      plain "chrono::NaiveDateTime" "chrono::NaiveDateTime::default()"),
    (["time"], plain "chrono::NaiveTime" "chrono::NaiveTime::default()"),
    (["uuid"],
      (plain "uuid::Uuid" "uuid::Uuid::nil()").decodedAs "[u8; 16]"
        "[0u8; 16]"),
    (["json", "jsonb"], plain "serde_json::Value" "serde_json::Value::Null"),
    ([""], plain "Vec<u8>" "Vec::new()") ]

/-- The keywords of each affinity, in the order in which they are looked for. -/
def sqliteAffinities : TypeTable :=
  [ (["int"], plain "i64" "0"),
    (["char", "clob", "text"], plain "String" "String::new()"),
    (["blob"], plain "Vec<u8>" "Vec::new()"),
    (["real", "floa", "doub"], plain "f64" "0.0") ]

/-- The names that are taken exactly when no keyword occurs. -/
def sqliteRemainder : TypeTable :=
  [ (["numeric", "decimal"], plain "f64" "0.0") ]

/-- The mapping of the first affinity with a keyword in the declared type. -/
def affinity? (name : String) : Option NativeMapping :=
  let mentions (keywords : List String) : Bool :=
    keywords.any fun keyword => Text.occursIn keyword.toList name.toList
  (List.find? (fun (keywords, _) => mentions keywords) sqliteAffinities).map
    Prod.snd

def sqlite : Vocabulary := fun _ _ name =>
  (TypeTable.find? sqliteTable name).or
    ((affinity? name).or (TypeTable.find? sqliteRemainder name))

end SchemaAtlas.Vocabulary
