import SchemaAtlas.Typing.Target

/-!
# The type vocabulary of PostgreSQL

CockroachDB shares it.  Every type has a wrapper of the driver.
-/

namespace SchemaAtlas.Vocabulary

open NativeMapping

/-- The types of PostgreSQL by name. -/
def postgresqlTable (context : TypeContext) : TypeTable :=
  [ (["boolean", "bool"], (plain "bool" "false").wrappedBy "pgtype::Bool"),
    (["character varying", "varchar"],
      (plain "String" "String::new()").wrappedBy "pgtype::Varchar"),
    (["character", "char", "bpchar", "text", "money", "name", "citext"],
      (plain "String" "String::new()").wrappedBy "pgtype::Text"),
    (["inet", "cidr"],
      ((plain "String" "String::new()").decodedAs "std::net::IpAddr"
        "std::net::IpAddr::from([0, 0, 0, 0])").wrappedBy "pgtype::Inet"),
    (["smallint", "int2"], (plain "i16" "0").wrappedBy "pgtype::Int2"),
    (["integer", "int", "int4"],
      (plain context.int32 "0").wrappedBy "pgtype::Int4"),
    (["bigint", "int8"], (plain "i64" "0").wrappedBy "pgtype::Int8"),
    (["smallserial"],
      ((plain "u16" "0").decodedAs "i16" "0").wrappedBy "pgtype::Int2"),
    (["serial"], (plain context.uint32 "0").wrappedBy "pgtype::Int4"),
    (["bigserial"],
      ((plain "u64" "0").decodedAs "i64" "0").wrappedBy "pgtype::Int8"),
    (["real", "float4"], (plain "f32" "0.0").wrappedBy "pgtype::Float4"),
    (["double precision", "float8"],
      (plain "f64" "0.0").wrappedBy "pgtype::Float8"),
    (["numeric", "decimal"], (plain "f64" "0.0").wrappedBy "pgtype::Numeric"),
    (["bytea"], (plain "Vec<u8>" "Vec::new()").wrappedBy "pgtype::Bytea"),
    (["bit varying", "varbit", "\"any\""],
      (plain "Vec<u8>" "Vec::new()").wrappedBy "pgtype::Varbit"),
    (["bit"], (plain "u8" "0").wrappedBy "pgtype::Bit"),
    (["\"char\""],
      ((plain "u8" "0").decodedAs "i8" "0").wrappedBy "pgtype::QChar"),
    (["date"],
      (plain "chrono::NaiveDate" "chrono::NaiveDate::default()").wrappedBy
        "pgtype::Date"),
    (["timestamp without time zone", "timestamp"],
      (plain "chrono::NaiveDateTime"
        "chrono::NaiveDateTime::default()").wrappedBy "pgtype::Timestamp"),
    (["timestamp with time zone", "timestamptz"],
      (plain "chrono::DateTime<chrono::Utc>"
        "chrono::DateTime::<chrono::Utc>::default()").wrappedBy
        "pgtype::Timestamptz"),
    (["time with time zone", "time without time zone", "time", "timetz"],
      ((plain "chrono::NaiveTime" "chrono::NaiveTime::default()").decodedAs
        "i64" "0").wrappedBy "pgtype::Time"),
    (["interval"],
      (plain "std::time::Duration" "std::time::Duration::ZERO").wrappedBy
        "pgtype::Interval"),
    (["uuid"],
      ((plain "uuid::Uuid" "uuid::Uuid::nil()").decodedAs "[u8; 16]"
        "[0u8; 16]").wrappedBy "pgtype::UUID"),
    (["json"],
      (plain "serde_json::Value" "serde_json::Value::Null").wrappedBy
        "pgtype::JSON"),
    (["jsonb"],
      (plain "serde_json::Value" "serde_json::Value::Null").wrappedBy
        "pgtype::JSONB"),
    (["hstore"],
      (plain "std::collections::HashMap<String, Option<String>>"
        "std::collections::HashMap::new()").wrappedBy "pgtype::Hstore") ]

/-- The vocabulary of PostgreSQL; a declared size does not matter. -/
def postgresql : Vocabulary := fun context _ name =>
  (postgresqlTable context).find? name

end SchemaAtlas.Vocabulary
