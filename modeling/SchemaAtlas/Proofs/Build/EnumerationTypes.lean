import SchemaAtlas.Proofs.Build.CrossReference
import SchemaAtlas.Proofs.Typing.UserDefined

/-!
# Columns of enumeration types

The type of an enumeration is named after the singular of its native name, and
the type of a column after what its descriptor says.  The two names meet if the
singular has the same camel case form as the native name itself; a column of an
enumeration with a plural name refers to a type that the graph does not have.
-/

namespace SchemaAtlas

open Text Catalog

/-- The type of a field is that of an enumeration, optional if the column is
nullable. -/
def Field.Presents (field : Field) (enumeration : Enumeration) : Prop :=
  field.type.name =
    if field.column.nullable then "Option<" ++ enumeration.name ++ ">"
    else enumeration.name

/-- A descriptor names an enumeration, with the schema in front of it or
not. -/
def Enumeration.IsDescribedBy (enumeration : Enumeration)
    (schema descriptor : String) : Prop :=
  descriptor = enumeration.nativeName ∨
    descriptor = schema ++ "." ++ enumeration.nativeName

theorem Initialisms.bracket_not_mem_singularCamel (set : Initialisms)
    (name : String) : '<' ∉ (set.singularCamel name).toList := by
  unfold singularCamel
  split
  · rw [camel, String.toList_ofList]
    exact not_mem_camelChars (by decide) (by decide)
  · rw [camel, String.toList_ofList]
    exact not_mem_camelChars (by decide) (by decide)

namespace Enumeration.IsDescribedBy

variable {enumeration : Enumeration} {schema descriptor : String}
  (described : enumeration.IsDescribedBy schema descriptor)
  (plain : Identifier.IsPlain enumeration.nativeName.toList)

include described plain

theorem elementType?_trim_eq_none :
    Descriptor.elementType? (trim descriptor.toList) = none := by
  obtain ⟨front, last, shape, solid, noBracket⟩ := plain.exists_concat
  rcases described with rfl | rfl
  · rw [shape]
    exact Descriptor.elementType?_trim solid noBracket
  · rw [String.toList_append, shape, ← List.append_assoc]
    exact Descriptor.elementType?_trim solid noBracket

/-- In a schema with a simple name the descriptor calls the enumeration by its
native name. -/
theorem userName?_eq_nativeName (undotted : '.' ∉ schema.toList)
    (simple : descriptor = enumeration.nativeName ∨
      ∀ c ∈ schema.toList, isBlank c = false ∧ c ≠ '(') :
    Descriptor.userName? schema.toList descriptor.toList =
      some enumeration.nativeName.toList := by
  have bare : Descriptor.userName? schema.toList
      enumeration.nativeName.toList = some enumeration.nativeName.toList := by
    rw [Descriptor.userName?_of_solid plain.solid
      (plain.not_mem (by decide) (by decide)), Descriptor.localName_of_not_mem
      (plain.not_mem (by decide) (by decide))]
  rcases simple with rfl | simple
  · exact bare
  rcases described with rfl | rfl
  · exact bare
  · have shape : (schema ++ "." ++ enumeration.nativeName).toList =
        schema.toList ++ '.' :: enumeration.nativeName.toList := by
      simp
    rw [shape, Descriptor.userName?_of_solid,
      Descriptor.localName_qualified undotted]
    · intro c membership
      rcases List.mem_append.mp membership with inSchema | behind
      · exact (simple c inSchema).1
      · rcases List.mem_cons.mp behind with rfl | inName
        · decide
        · exact plain.solid c inName
    · intro membership
      rcases List.mem_append.mp membership with inSchema | behind
      · exact (simple '(' inSchema).2 rfl
      · rcases List.mem_cons.mp behind with same | inName
        · cases same
        · exact plain.not_mem (by decide) (by decide) inName

end Enumeration.IsDescribedBy

namespace Build

open Recorded

variable {adapter : Adapter} {options : Options} {schema : String}

private theorem name_of_returns_loadEnumerations {connection : Connection}
    {enumerations : List Enumeration}
    (returns : (loadEnumerations adapter options schema).Returns connection
      enumerations) {enumeration : Enumeration}
    (listed : enumeration ∈ enumerations) :
    enumeration.name =
      options.initialisms.singularCamel enumeration.nativeName := by
  unfold loadEnumerations at returns
  split at returns
  · obtain ⟨records, _, returns⟩ := returns_of_bind returns
    obtain ⟨record, _, returns⟩ :=
      exists_mem_of_forall₂ (forall₂_of_returns_mapM returns) listed
    obtain ⟨labels, _, returns⟩ := returns_of_bind returns
    rw [eq_of_returns_pure returns]
    rfl
  · rw [eq_of_returns_pure returns] at listed
    cases listed

/-- A column of a type that the vocabulary does not know is resolved by its own
type: only known types are renamed. -/
theorem descriptorOf_eq_nativeType {engine : Engine} {context : TypeContext}
    {column : ColumnRecord}
    (lacks : (Vocabulary.builtin engine).Lacks context
      column.nativeType.toList) :
    descriptorOf (Adapter.builtin engine) options column =
      column.nativeType := by
  rw [descriptorOf, if_neg]
  intro renamed
  rw [renamesJson, Adapter.engine_builtin, Bool.and_eq_true, Bool.and_eq_true,
    Bool.or_eq_true, Bool.or_eq_true] at renamed
  obtain ⟨⟨_, isPostgres⟩, isJson⟩ := renamed
  rcases isJson with json | json <;> rw [eq_of_beq json] at lacks
  all_goals
    rcases isPostgres with same | same <;> cases eq_of_beq same <;> cases lacks

/-- A field is presented as an enumeration if the descriptor of its column calls
the enumeration by a name with the same camel case form. -/
theorem presents_fieldOf_iff {engine : Engine} {column : ColumnRecord}
    {enumeration : Enumeration}
    (named : enumeration.name =
      options.initialisms.singularCamel enumeration.nativeName)
    (scalar :
      Descriptor.elementType? (trim column.nativeType.toList) = none)
    (lacks : (Vocabulary.builtin engine).Lacks (options.typeContext schema)
      column.nativeType.toList) :
    (fieldOf (Adapter.builtin engine) options schema column).Presents
        enumeration ↔
      ∃ called,
        Descriptor.userName? schema.toList column.nativeType.toList =
            some called ∧
          String.ofList (options.initialisms.camelChars called) =
            options.initialisms.singularCamel enumeration.nativeName := by
  have type : (fieldOf (Adapter.builtin engine) options schema column).type =
      (Vocabulary.builtin engine).resolveChars (options.typeContext schema)
        column.nativeType.toList column.nullable := by
    rw [fieldOf, Vocabulary.resolve_builtin, descriptorOf_eq_nativeType lacks]
    rfl
  have presented :
      (if column.nullable then "Option<" ++ enumeration.name ++ ">"
        else enumeration.name) =
      (Spelling.orMissing (.defaulted enumeration.name)
        column.nullable).name := by
    cases column.nullable <;> rfl
  rw [Field.Presents, type]
  show _ = (if column.nullable then "Option<" ++ enumeration.name ++ ">"
    else enumeration.name) ↔ _
  rw [presented, named]
  exact Vocabulary.name_resolveChars_iff scalar lacks
    (options.initialisms.bracket_not_mem_singularCamel _)

end Build

namespace GraphBuilder

/-- A column that is described by the name of an enumeration is presented as its
type exactly if the descriptor calls it so.  In a schema with a simple name this
means that the singular of the native name has the same camel case form as the
native name itself. -/
theorem presents_iff_of_build {engine : Engine} {builder : GraphBuilder}
    {surroundings : Surroundings} {graph : Graph} {enumeration : Enumeration}
    {name : String} {relation : Relation} {field : Field}
    (known : builder.adapter = Adapter.builtin engine)
    (built : (builder.build surroundings).1.outcome = .ok graph)
    (listed : enumeration ∈ graph.enumerations)
    (held : graph.relation? name = some relation)
    (membership : field ∈ relation.fields)
    (plain : Identifier.IsPlain enumeration.nativeName.toList)
    (undotted : '.' ∉ graph.schema.toList)
    (described :
      enumeration.IsDescribedBy graph.schema field.column.nativeType)
    (lacks : (Vocabulary.builtin engine).Lacks
      (builder.options.typeContext graph.schema)
      field.column.nativeType.toList) :
    (field.Presents enumeration ↔
      ∃ called,
        Descriptor.userName? graph.schema.toList
            field.column.nativeType.toList = some called ∧
          String.ofList (builder.options.initialisms.camelChars called) =
            builder.options.initialisms.singularCamel
              enumeration.nativeName) ∧
      ((field.column.nativeType = enumeration.nativeName ∨
          ∀ c ∈ graph.schema.toList, isBlank c = false ∧ c ≠ '(') →
        (field.Presents enumeration ↔
          builder.options.initialisms.camel enumeration.nativeName =
            builder.options.initialisms.singularCamel
              enumeration.nativeName)) := by
  obtain ⟨course, rfl⟩ := Build.exists_course_of_build built
  have named := Build.name_of_returns_loadEnumerations
    course.enumerationsLoaded listed
  have isField := course.eq_fieldOf_of_mem_fields held membership
  have scalar := described.elementType?_trim_eq_none plain
  have general := Build.presents_fieldOf_iff named scalar lacks
  rw [← known, ← isField] at general
  refine ⟨general, ?_⟩
  intro simple
  rw [general, described.userName?_eq_nativeName plain undotted simple]
  simp [Initialisms.camel]

/-- The catalog of a bookshop with the enumerations `media` and `book_types`, of
which the books have a column each. -/
def bookshopReplies (query : CatalogQuery) (parameters : List String) :
    Except DriverError (List Row) :=
  match query.topic, parameters with
  | .schema, [] => .ok [⟨[.text "public"]⟩]
  | .enums, ["public"] => .ok [⟨[.text "media"]⟩, ⟨[.text "book_types"]⟩]
  | .tables, ["public", "r"] => .ok [⟨[.text "book", .null]⟩]
  | .columns, ["public", "book"] =>
    .ok [
      ⟨[.int 1, .text "medium", .text "media", .bool true, .null, .bool false,
        .null]⟩,
      ⟨[.int 2, .text "kind", .text "book_types", .bool true, .null,
        .bool false, .null]⟩]
  | _, _ => .ok []

def bookshop : Surroundings where
  connection := .scripted bookshopReplies fun _ => .ok ()
  random := ⟨fun _ => 0, 1⟩

theorem presents_media_bookshop :
    ∃ graph enumeration relation field,
      ((new (.builtin .postgresql) .standard).build bookshop).1.outcome =
        .ok graph ∧
      enumeration ∈ graph.enumerations ∧ enumeration.nativeName = "media" ∧
      graph.relation? "book" = some relation ∧ field ∈ relation.fields ∧
      field.column.nativeType = "media" ∧ field.Presents enumeration := by
  obtain ⟨graph, built, seen⟩ := exists_ok_of_view
    (show (((new (.builtin .postgresql) .standard).build
          bookshop).1.outcome.toOption.map fun graph =>
        (graph.schema, graph.enumerations.map Enumeration.nativeName,
          (graph.relation? "book").map fun relation =>
            relation.fields.map fun field => field.column.nativeType)) =
      some ("public", ["media", "book_types"],
        some ["media", "book_types"]) by decide)
  rw [Prod.mk.injEq, Prod.mk.injEq, Option.map_eq_some_iff] at seen
  obtain ⟨inPublic, enumerations, relation, held, columns⟩ := seen
  have isNative : "media" ∈ graph.enumerations.map Enumeration.nativeName :=
    enumerations ▸ List.mem_cons_self
  have isType : "media" ∈
      relation.fields.map fun field => field.column.nativeType :=
    columns ▸ List.mem_cons_self
  obtain ⟨enumeration, listed, native⟩ := List.mem_map.mp isNative
  obtain ⟨field, membership, type⟩ := List.mem_map.mp isType
  refine ⟨graph, enumeration, relation, field, built, listed, native, held,
    membership, type, ?_⟩
  have described : field.column.nativeType = enumeration.nativeName :=
    type.trans native.symm
  have known : (new (.builtin .postgresql) .standard).adapter =
      Adapter.builtin .postgresql := rfl
  apply ((presents_iff_of_build known built listed held membership ?_ ?_
    (.inl described) ?_).2 (.inl described)).mpr
  · rw [native]
    decide +kernel
  · rw [native]
    exact ⟨⟨'m', _, rfl, rfl⟩, by simp⟩
  · rw [inPublic]
    decide
  · rw [type, inPublic]
    rfl

/-- The books of the bookshop have a column of the enumeration `book_types`,
which is presented as a type that the graph does not have. -/
theorem misses_book_types_bookshop :
    ∃ graph enumeration relation field,
      ((new (.builtin .postgresql) .standard).build bookshop).1.outcome =
        .ok graph ∧
      enumeration ∈ graph.enumerations ∧
      enumeration.nativeName = "book_types" ∧
      graph.relation? "book" = some relation ∧ field ∈ relation.fields ∧
      field.column.nativeType = "book_types" ∧
      enumeration.name = "BookType" ∧ field.type.name = "BookTypes" ∧
      ¬ field.Presents enumeration := by
  obtain ⟨graph, built, seen⟩ := exists_ok_of_view
    (show (((new (.builtin .postgresql) .standard).build
          bookshop).1.outcome.toOption.map fun graph =>
        (graph.enumerations.map fun enumeration =>
            (enumeration.nativeName, enumeration.name),
          (graph.relation? "book").map fun relation =>
            relation.fields.map fun field =>
              (field.column.nativeType, field.column.nullable,
                field.type.name))) =
      some ([("media", "Media"), ("book_types", "BookType")],
        some [("media", false, "Media"), ("book_types", false, "BookTypes")]) by
        decide +kernel)
  rw [Prod.mk.injEq, Option.map_eq_some_iff] at seen
  obtain ⟨enumerations, relation, held, columns⟩ := seen
  have isNative : ("book_types", "BookType") ∈
      graph.enumerations.map fun enumeration =>
        (enumeration.nativeName, enumeration.name) := by
    simp [enumerations]
  have isType : ("book_types", false, "BookTypes") ∈
      relation.fields.map fun field =>
        (field.column.nativeType, field.column.nullable, field.type.name) := by
    simp [columns]
  obtain ⟨enumeration, listed, native⟩ := List.mem_map.mp isNative
  obtain ⟨field, membership, type⟩ := List.mem_map.mp isType
  rw [Prod.mk.injEq] at native
  rw [Prod.mk.injEq, Prod.mk.injEq] at type
  refine ⟨graph, enumeration, relation, field, built, listed, native.1, held,
    membership, type.1, native.2, type.2.2, ?_⟩
  rw [Field.Presents, type.2.1, type.2.2, native.2]
  decide

end GraphBuilder

end SchemaAtlas
