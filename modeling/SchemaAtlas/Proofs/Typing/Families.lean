import SchemaAtlas.Proofs.Typing.JsonColumns

/-!
# Families of target types

A scalar descriptor is presented in four families, for values that may be
missing and for values that may not.  Which of these types agree depends only on
whether the vocabulary knows the type and whether its mapping has a wrapper:
every mapping of PostgreSQL has one, and no mapping of the other vocabularies
has.  The declared size is the same in all of them.
-/

namespace SchemaAtlas

open Text

/-- A trimmed descriptor neither announces a set of rows nor ends in the
brackets of an array. -/
structure Descriptor.IsScalar (descriptor : List Char) : Prop where
  noRows :
    equalIgnoringAsciiCase ((trim descriptor).take setWord.length) setWord =
      false
  noArray : ¬ arrayMark <:+ trim descriptor

namespace Descriptor.IsScalar

variable {descriptor : List Char}

theorem rowType?_trim (scalar : IsScalar descriptor) :
    rowType? (trim descriptor) = none := by
  rw [rowType?, scalar.noRows]
  rfl

theorem elementType?_trim (scalar : IsScalar descriptor) :
    elementType? (trim descriptor) = none := by
  rw [elementType?, withoutEnd?, if_neg, Option.map_none]
  intro isSuffix
  exact scalar.noArray (List.isSuffixOf_iff_suffix.mp isSuffix)

end Descriptor.IsScalar

theorem TypeTable.exists_mem_of_find? {table : TypeTable} {name : String}
    {mapping : NativeMapping} (found : table.find? name = some mapping) :
    ∃ names, (names, mapping) ∈ table := by
  obtain ⟨⟨names, _⟩, isFirst, rfl⟩ := Option.map_eq_some_iff.mp found
  exact ⟨names, List.mem_of_find?_eq_some isFirst⟩

theorem TypeTable.find?_eq_none_iff {table : TypeTable} {name : String} :
    table.find? name = none ↔ ∀ entry ∈ table, name ∉ entry.1 := by
  rw [TypeTable.find?, Option.map_eq_none_iff, List.find?_eq_none]
  simp only [List.contains_iff_mem]

namespace NativeMapping

variable {mapping : NativeMapping} {wrapper : String}

theorem present_full (wraps : mapping.wrapper = some wrapper)
    (nullable : Bool) :
    mapping.present .full nullable = .defaulted wrapper := by
  simp [present, wraps]

private theorem present_hybrid_true (wraps : mapping.wrapper = some wrapper) :
    mapping.present .hybrid true = .defaulted wrapper := by
  simp [present, wraps]

private theorem present_hybrid_false (wraps : mapping.wrapper = some wrapper) :
    mapping.present .hybrid false = mapping.present .pointer false := by
  simp [present, wraps]

private theorem present_full_of_unwrapped (bare : mapping.wrapper = none)
    (nullable : Bool) :
    mapping.present .full nullable = mapping.present .standard nullable := by
  simp [present, bare]

private theorem present_hybrid_of_unwrapped (bare : mapping.wrapper = none)
    (nullable : Bool) :
    mapping.present .hybrid nullable = mapping.present .pointer nullable := by
  simp [present, bare]

end NativeMapping

namespace Vocabulary

variable {context : TypeContext} {extent : Extent} {name : String}
  {mapping : NativeMapping}

private theorem exists_wrapper_of_postgresql
    (known : postgresql context extent name = some mapping) :
    ∃ wrapper, mapping.wrapper = some wrapper := by
  have wrapped : ∀ entry ∈ postgresqlTable context,
      ∃ wrapper, entry.2.wrapper = some wrapper := by
    simp [postgresqlTable, NativeMapping.wrappedBy]
  obtain ⟨names, listed⟩ := TypeTable.exists_mem_of_find? known
  exact wrapped _ listed

private theorem wrapper_of_sqlite
    (known : sqlite context extent name = some mapping) :
    mapping.wrapper = none := by
  have bareExact : ∀ entry ∈ sqliteTable, entry.2.wrapper = none := by
    simp [sqliteTable, NativeMapping.plain, NativeMapping.decodedAs]
  have bareAffinities : ∀ entry ∈ sqliteAffinities, entry.2.wrapper = none := by
    simp [sqliteAffinities, NativeMapping.plain]
  have bareRemainder : ∀ entry ∈ sqliteRemainder, entry.2.wrapper = none := by
    simp [sqliteRemainder, NativeMapping.plain]
  -- The tables are tried one after the other.
  simp only [sqlite, Option.or_eq_some_iff] at known
  rcases known with byName | ⟨_, byKeyword | ⟨_, atLast⟩⟩
  · obtain ⟨names, listed⟩ := TypeTable.exists_mem_of_find? byName
    exact bareExact _ listed
  · obtain ⟨entry, isFirst, rfl⟩ := Option.map_eq_some_iff.mp byKeyword
    exact bareAffinities entry (List.mem_of_find?_eq_some isFirst)
  · obtain ⟨names, listed⟩ := TypeTable.exists_mem_of_find? atLast
    exact bareRemainder _ listed

private theorem wrapper_of_mysql
    (known : mysql context extent name = some mapping) :
    mapping.wrapper = none := by
  have bareSigned : ∀ entry ∈ mysqlSigned context,
      entry.2.wrapper = none := by
    simp [mysqlSigned, NativeMapping.plain]
  have bareUnsigned : ∀ entry ∈ mysqlUnsigned context,
      entry.2.wrapper = none := by
    simp [mysqlUnsigned, NativeMapping.plain]
  have bareTable : ∀ entry ∈ mysqlTable, entry.2.wrapper = none := by
    simp [mysqlTable, NativeMapping.plain]
  simp only [mysql] at known
  split at known
  · cases known
    rfl
  · rw [Option.or_eq_some_iff] at known
    rcases known with bySign | ⟨_, byName⟩
    · obtain ⟨names, listed⟩ := TypeTable.exists_mem_of_find? bySign
      split at listed
      · exact bareUnsigned _ listed
      · exact bareSigned _ listed
    · obtain ⟨names, listed⟩ := TypeTable.exists_mem_of_find? byName
      exact bareTable _ listed

private theorem wrapper_of_oracle
    (known : oracle context extent name = some mapping) :
    mapping.wrapper = none := by
  have bareNumber : (oracleNumber context extent).wrapper = none := by
    simp only [oracleNumber]
    repeat' split
    all_goals rfl
  have bareTable : ∀ entry ∈ oracleTable context extent,
      entry.2.wrapper = none := by
    simp [oracleTable, NativeMapping.plain, bareNumber]
  obtain ⟨names, listed⟩ := TypeTable.exists_mem_of_find? known
  exact bareTable _ listed

private theorem exists_wrapper_of_builtin {engine : Engine}
    (speaks : engine.SpeaksPostgres)
    (known : builtin engine context extent name = some mapping) :
    ∃ wrapper, mapping.wrapper = some wrapper := by
  have known' : postgresql context extent name = some mapping := by
    rcases speaks with rfl | rfl <;> exact known
  exact @exists_wrapper_of_postgresql context extent name mapping known'

private theorem wrapper_of_builtin {engine : Engine}
    (other : ¬ engine.SpeaksPostgres)
    (known : builtin engine context extent name = some mapping) :
    mapping.wrapper = none := by
  cases engine with
  | postgresql => exact (other (.inl rfl)).elim
  | cockroachdb => exact (other (.inr rfl)).elim
  | sqlite => exact @wrapper_of_sqlite context extent name mapping known
  | mysql => exact wrapper_of_mysql known
  | oracle => exact wrapper_of_oracle known

/-- The family that types are presented in does not matter to what a vocabulary
knows. -/
theorem builtin_presentation (engine : Engine) (context : TypeContext)
    (presentation : Presentation) :
    builtin engine { context with presentation } = builtin engine context := by
  cases engine <;> rfl

variable (vocabulary : Vocabulary) (context : TypeContext)
  {descriptor : List Char}

/-- A scalar type is presented by the mapping that the vocabulary has for it, or
else as a type of the user. -/
theorem resolveChars_of_isScalar (scalar : Descriptor.IsScalar descriptor)
    (nullable : Bool) :
    vocabulary.resolveChars context descriptor nullable =
      (match vocabulary context (Descriptor.splitExtent (trim descriptor)).2
          (String.ofList
            (lower (Descriptor.splitExtent (trim descriptor)).1)) with
        | some mapping => mapping.present context.presentation nullable
        | none => .userDefined context
          (Descriptor.splitExtent (trim descriptor)).1 nullable).withExtent
        (Descriptor.splitExtent (trim descriptor)).2 := by
  rw [resolveChars_of_noRows scalar.rowType?_trim, simpleType,
    scalar.elementType?_trim]
  dsimp only
  cases vocabulary context _ (String.ofList (lower _)) with
  | none => simp
  | some mapping => simp

theorem resolveChars_of_knows (scalar : Descriptor.IsScalar descriptor)
    (known : vocabulary context (Descriptor.splitExtent (trim descriptor)).2
      (String.ofList (lower (Descriptor.splitExtent (trim descriptor)).1)) =
        some mapping) (nullable : Bool) :
    vocabulary.resolveChars context descriptor nullable =
      (mapping.present context.presentation nullable).withExtent
        (Descriptor.splitExtent (trim descriptor)).2 := by
  rw [resolveChars_of_isScalar vocabulary context scalar, known]

theorem resolveChars_of_lacks (scalar : Descriptor.IsScalar descriptor)
    (lacks : vocabulary.Lacks context descriptor) (nullable : Bool) :
    vocabulary.resolveChars context descriptor nullable =
      (Spelling.userDefined context
        (Descriptor.splitExtent (trim descriptor)).1 nullable).withExtent
        (Descriptor.splitExtent (trim descriptor)).2 := by
  rw [resolveChars_of_isScalar vocabulary context scalar, lacks]

end Vocabulary

/-- How the types of one descriptor in the four families are related, by what
the vocabulary of the engine knows. -/
structure Presentation.Matrix (engine : Engine) (context : TypeContext)
    (descriptor : List Char) (typeIn : Presentation → Bool → TargetType) :
    Prop where
  /-- With a wrapper, the full family and nullable values of the hybrid one are
  that wrapper; other values of the hybrid family are as in the pointer one. -/
  wrapped : ¬ (Vocabulary.builtin engine).Lacks context descriptor →
    engine.SpeaksPostgres → ∃ mapping wrapper,
      Vocabulary.builtin engine context
        (Descriptor.splitExtent (trim descriptor)).2
          (String.ofList
            (lower (Descriptor.splitExtent (trim descriptor)).1)) =
        some mapping ∧
      mapping.wrapper = some wrapper ∧
      (typeIn .full false).name = wrapper ∧
      (typeIn .full false).zero = wrapper ++ "::default()" ∧
      typeIn .full true = typeIn .full false ∧
      typeIn .hybrid true = typeIn .full false ∧
      typeIn .hybrid false = typeIn .pointer false
  /-- Without one, there are two families only. -/
  unwrapped : ¬ (Vocabulary.builtin engine).Lacks context descriptor →
    ¬ engine.SpeaksPostgres → ∀ nullable,
      typeIn .full nullable = typeIn .standard nullable ∧
      typeIn .hybrid nullable = typeIn .pointer nullable
  optional : ¬ (Vocabulary.builtin engine).Lacks context descriptor →
    (typeIn .standard true).name =
        "Option<" ++ (typeIn .standard false).name ++ ">" ∧
      (typeIn .standard true).zero = "None"
  boxed : ¬ (Vocabulary.builtin engine).Lacks context descriptor →
    (typeIn .pointer true).name =
        "Option<Box<" ++ (typeIn .pointer false).name ++ ">>" ∧
      (typeIn .pointer true).zero = "None"
  unknown : (Vocabulary.builtin engine).Lacks context descriptor →
    ∀ family other nullable, typeIn family nullable = typeIn other nullable
  sameSize : ∀ family other nullable mayMiss,
    (typeIn family nullable).precision = (typeIn other mayMiss).precision ∧
      (typeIn family nullable).scale = (typeIn other mayMiss).scale

namespace Vocabulary

/-- The types that a scalar descriptor is presented as are related as its
mapping says. -/
theorem matrix_of_isScalar (engine : Engine) (context : TypeContext)
    {native : String} (scalar : Descriptor.IsScalar native.toList) :
    Presentation.Matrix engine context native.toList
      fun presentation nullable =>
        (Adapter.builtin engine).resolve { context with presentation } native
          nullable := by
  simp only [resolve_builtin, resolve]
  have sameVocabulary := builtin_presentation engine context
  cases known : builtin engine context
      (Descriptor.splitExtent (trim native.toList)).2
      (String.ofList
        (lower (Descriptor.splitExtent (trim native.toList)).1)) with
  | none =>
      have lacks : (builtin engine).Lacks context native.toList := known
      have resolved : ∀ presentation nullable, _ := fun presentation nullable =>
        resolveChars_of_lacks (builtin engine) { context with presentation }
          scalar (by rwa [Lacks, sameVocabulary]) nullable
      simp only [resolved]
      constructor
      case unknown =>
        intro _ family other nullable
        rfl
      case sameSize =>
        intro family other nullable mayMiss
        exact ⟨rfl, rfl⟩
      all_goals exact fun knows => (knows lacks).elim
  | some mapping =>
      have knows : ¬ (builtin engine).Lacks context native.toList := by
        rw [Lacks, known]
        exact Option.some_ne_none mapping
      have resolved : ∀ presentation nullable, _ := fun presentation nullable =>
        resolveChars_of_knows (builtin engine) { context with presentation }
          scalar (by rwa [sameVocabulary]) nullable
      simp only [resolved]
      constructor
      case wrapped =>
        intro _ speaks
        obtain ⟨wrapper, wraps⟩ := exists_wrapper_of_builtin speaks known
        refine ⟨mapping, wrapper, known, wraps, ?_, ?_, ?_, ?_, ?_⟩
        · rw [mapping.present_full wraps]
          rfl
        · rw [mapping.present_full wraps]
          rfl
        · rw [mapping.present_full wraps, mapping.present_full wraps]
        · rw [mapping.present_full wraps, mapping.present_hybrid_true wraps]
        · rw [mapping.present_hybrid_false wraps]
      case unwrapped =>
        intro _ other nullable
        have bare := wrapper_of_builtin other known
        constructor
        · rw [mapping.present_full_of_unwrapped bare]
        · rw [mapping.present_hybrid_of_unwrapped bare]
      case optional => exact fun _ => ⟨rfl, rfl⟩
      case boxed => exact fun _ => ⟨rfl, rfl⟩
      case unknown => exact fun lacks => (knows lacks).elim
      case sameSize =>
        intro family other nullable mayMiss
        exact ⟨rfl, rfl⟩

/-- What PostgreSQL calls times of day with a time zone, in one of the
families. -/
def timeIn (presentation : Presentation) (nullable : Bool) : TargetType :=
  (Adapter.builtin .postgresql).resolve
    { Options.standard.typeContext "public" with presentation }
    "time(3) with time zone" nullable

/-- Times of day are decoded as numbers, except where they have the wrapper. -/
theorem matrix_timeIn :
    Descriptor.IsScalar "time(3) with time zone".toList ∧
      (timeIn .full true).name = "pgtype::Time" ∧
      (timeIn .hybrid true).name = "pgtype::Time" ∧
      (timeIn .hybrid false).name = "i64" ∧
      (timeIn .pointer true).name = "Option<Box<i64>>" ∧
      (timeIn .pointer true).precision = some 3 := by
  have scalar : Descriptor.IsScalar "time(3) with time zone".toList :=
    ⟨by decide +kernel, by decide +kernel⟩
  have matrix := matrix_of_isScalar .postgresql
    (Options.standard.typeContext "public") scalar
  have knows : ¬ (builtin .postgresql).Lacks
      (Options.standard.typeContext "public")
      "time(3) with time zone".toList := by
    unfold Lacks
    decide +kernel
  obtain ⟨_, wrapper, _, _, _, _, full, hybrid, decoded⟩ :=
    matrix.wrapped knows (.inl rfl)
  have plainFull : (timeIn .full false).name = "pgtype::Time" := by
    decide +kernel
  have plainPointer : (timeIn .pointer false).name = "i64" := by
    decide +kernel
  refine ⟨scalar, ?_, ?_, ?_, ?_, ?_⟩
  · rw [timeIn, full]
    exact plainFull
  · rw [timeIn, hybrid]
    exact plainFull
  · rw [timeIn, decoded]
    exact plainPointer
  · rw [timeIn, (matrix.boxed knows).1]
    change "Option<Box<" ++ (timeIn .pointer false).name ++ ">>" = _
    rw [plainPointer]
    rfl
  · rw [timeIn, (matrix.sameSize .pointer .full true false).1]
    decide +kernel

end Vocabulary

end SchemaAtlas
