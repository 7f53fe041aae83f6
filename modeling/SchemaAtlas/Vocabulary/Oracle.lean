import SchemaAtlas.Typing.Target

/-!
# The type vocabulary of Oracle

The one type whose mapping depends on the declared size is `number`: without
decimals its precision chooses the width of the integer.
-/

namespace SchemaAtlas.Vocabulary

open NativeMapping

/-- The mapping of a number of a declared size. -/
def oracleNumber (context : TypeContext) (extent : Extent) : NativeMapping :=
  let floating := plain "f64" "0.0"
  if 0 < extent.scale.getD 0 then floating
  else
    match extent.precision with
    | some precision =>
      if precision ≤ 4 then plain "i16" "0"
      else if precision ≤ 9 then plain context.int32 "0"
      else if precision ≤ 18 then plain "i64" "0"
      else floating
    | none => floating

/-- The types of Oracle by name, with the size that a number declares. -/
def oracleTable (context : TypeContext) (extent : Extent) : TypeTable :=
  [ (["char", "nchar", "varchar", "varchar2", "nvarchar2", "long", "clob",
      "nclob", "rowid", "urowid"], plain "String" "String::new()"),
    (["number"], oracleNumber context extent),
    (["integer", "int", "smallint"], plain "i64" "0"),
    (["binary_float"], plain "f32" "0.0"),
    (["float", "binary_double"], plain "f64" "0.0"),
    (["date", "timestamp"],
      plain "chrono::NaiveDateTime" "chrono::NaiveDateTime::default()"),
    (["timestamp with time zone", "timestamp with local time zone"],
      plain "chrono::DateTime<chrono::Utc>"
        "chrono::DateTime::<chrono::Utc>::default()"),
    (["blob", "raw", "long raw", "bfile"], plain "Vec<u8>" "Vec::new()") ]

/-- The vocabulary of Oracle. -/
def oracle : Vocabulary := fun context extent name =>
  (oracleTable context extent).find? name

end SchemaAtlas.Vocabulary
