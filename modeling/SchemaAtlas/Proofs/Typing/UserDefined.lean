import SchemaAtlas.Proofs.Text.Cutting
import SchemaAtlas.Proofs.Naming.Symbols
import SchemaAtlas.Registry

/-!
# User-defined types

A scalar descriptor that the vocabulary of an engine does not know stands for a
type of the user.  The target type is named after the local part of the
descriptor: after all of it, unless it is qualified by the schema that is read.
A descriptor that announces a set of rows never presents a user-defined type
itself, whose name holds no angle bracket.
-/

namespace SchemaAtlas

open Text

/-- A name of ASCII letters, digits and underscores that begins with a
letter. -/
structure Identifier.IsPlain (name : List Char) : Prop where
  letter : ∃ first rest, name = first :: rest ∧ first.isAlpha = true
  parts : ∀ c ∈ name, c.isAlphanum = true ∨ c = '_'

namespace Identifier.IsPlain

variable {name : List Char} (plain : IsPlain name)

include plain

theorem ne_nil : name ≠ [] := by
  obtain ⟨first, rest, rfl, _⟩ := plain.letter
  exact List.cons_ne_nil _ _

theorem not_mem {c : Char} (alphanumeric : c.isAlphanum = false)
    (different : c ≠ '_') : c ∉ name := by
  intro membership
  rcases plain.parts c membership with isPart | same
  · rw [isPart] at alphanumeric
    cases alphanumeric
  · exact different same

theorem solid : ∀ c ∈ name, isBlank c = false := by
  intro c membership
  rcases plain.parts c membership with isPart | rfl
  · exact isBlank_of_isAlphanum isPart
  · decide

/-- The last character of the name is neither blank nor a bracket. -/
theorem exists_concat : ∃ front last, name = front ++ [last] ∧
    isBlank last = false ∧ last ≠ ']' := by
  have inName := List.getLast_mem plain.ne_nil
  refine ⟨_, _, (List.dropLast_concat_getLast plain.ne_nil).symm,
    plain.solid _ inName, ?_⟩
  intro isBracket
  rw [isBracket] at inName
  exact plain.not_mem (by decide) (by decide) inName

end Identifier.IsPlain

namespace Descriptor

/-- The local part of the name of a type: the name without the schema that is
read, if it is qualified by that. -/
def localName (schema name : List Char) : List Char :=
  match splitOnce? '.' name with
  | some (qualifier, rest) => if qualifier = schema then rest else name
  | none => name

/-- What a scalar descriptor calls a type of the user: the local part of its
name, unless it announces a set of rows. -/
def userName? (schema descriptor : List Char) : Option (List Char) :=
  match rowType? (trim descriptor) with
  | some _ => none
  | none => some (localName schema (splitExtent (trim descriptor)).1)

theorem localName_of_not_mem {schema name : List Char} (absent : '.' ∉ name) :
    localName schema name = name := by
  rw [localName, splitOnce?_of_not_mem absent]

theorem localName_qualified {schema name : List Char} (absent : '.' ∉ schema) :
    localName schema (schema ++ '.' :: name) = name := by
  rw [localName, splitOnce?_append absent]
  exact if_pos rfl

/-- Where a set of rows is announced, the blank behind the word is there. -/
theorem space_mem_of_announced {descriptor : List Char}
    (announced : equalIgnoringAsciiCase
      (descriptor.take setWord.length) setWord = true) :
    ' ' ∈ descriptor.take setWord.length := by
  have inWord : ' ' ∈ setWord.map Char.toLower := by decide
  rw [← eq_of_beq announced] at inWord
  obtain ⟨c, inStart, lowered⟩ := List.mem_map.mp inWord
  have isSpace : c = ' ' := eq_of_toLower_eq (by decide) lowered
  exact isSpace ▸ inStart

private theorem rowType?_of_solid {descriptor : List Char}
    (noSpace : ' ' ∉ descriptor) : rowType? descriptor = none := by
  rw [rowType?, if_neg]
  intro announced
  exact noSpace (List.mem_of_mem_take (space_mem_of_announced announced))

theorem splitExtent_of_not_mem {descriptor : List Char}
    (absent : '(' ∉ descriptor) :
    splitExtent descriptor = (descriptor, Extent.none) := by
  rw [splitExtent, firstGroup?, splitOnce?_of_not_mem absent]
  rfl

/-- A descriptor without white space and parentheses is all name. -/
theorem userName?_of_solid {schema descriptor : List Char}
    (solid : ∀ c ∈ descriptor, isBlank c = false)
    (noGroup : '(' ∉ descriptor) :
    userName? schema descriptor = some (localName schema descriptor) := by
  have noSpace : ' ' ∉ descriptor := fun membership =>
    absurd (solid ' ' membership) (by decide)
  rw [userName?, trim_of_solid solid, rowType?_of_solid noSpace,
    splitExtent_of_not_mem noGroup]

theorem elementType?_trim {front : List Char} {last : Char}
    (solid : isBlank last = false) (noBracket : last ≠ ']') :
    elementType? (trim (front ++ [last])) = none := by
  obtain ⟨kept, shape⟩ := exists_trim_concat front solid
  rw [shape, elementType?, withoutEnd?, if_neg, Option.map_none]
  intro isSuffix
  have suffix := List.isSuffixOf_iff_suffix.mp isSuffix
  have sameLast := suffix.getLast (by decide)
  rw [List.getLast_concat] at sameLast
  exact noBracket sameLast.symm

end Descriptor

theorem Adapter.engine_builtin (engine : Engine) :
    (builtin engine).engine = engine := by
  cases engine <;> rfl

namespace Vocabulary

open Descriptor

variable {vocabulary : Vocabulary} {context : TypeContext}
  {descriptor : List Char} {nullable : Bool}

/-- The vocabulary behind the adapter of an engine. -/
def builtin : Engine → Vocabulary
  | .sqlite => sqlite
  | .postgresql => postgresql
  | .cockroachdb => postgresql
  | .mysql => mysql
  | .oracle => oracle

theorem resolve_builtin (engine : Engine) :
    (Adapter.builtin engine).resolve = (builtin engine).resolve := by
  cases engine <;> rfl

theorem resolveChars_of_rows {row : List Char}
    (rows : rowType? (trim descriptor) = some row) :
    vocabulary.resolveChars context descriptor nullable =
      (Spelling.collectionOf
        (vocabulary.resolveChars context row false).name).withExtent
          Extent.none := by
  rw [resolveChars]
  split
  next other announced =>
    rw [announced] at rows
    cases rows
    rfl
  next absent => rw [absent] at rows; cases rows

theorem resolveChars_of_noRows (noRows : rowType? (trim descriptor) = none) :
    vocabulary.resolveChars context descriptor nullable =
      vocabulary.simpleType context (trim descriptor) nullable := by
  rw [resolveChars]
  split
  next row rows => rw [rows] at noRows; cases noRows
  next => rfl

/-- A vocabulary does not know the type of a scalar descriptor. -/
def Lacks (vocabulary : Vocabulary) (context : TypeContext)
    (descriptor : List Char) : Prop :=
  vocabulary context (splitExtent (trim descriptor)).2
    (String.ofList (lower (splitExtent (trim descriptor)).1)) = none

/-- A scalar type that the vocabulary does not know is named after what the
descriptor calls it. -/
theorem name_resolveChars_of_userName?
    (scalar : elementType? (trim descriptor) = none)
    (lacks : vocabulary.Lacks context descriptor) {name : List Char}
    (named : userName? context.schema.toList descriptor = some name) :
    (vocabulary.resolveChars context descriptor nullable).name =
      (Spelling.orMissing
        (.defaulted (String.ofList (context.names.camelChars name)))
        nullable).name := by
  unfold userName? at named
  split at named
  next => cases named
  next notRows =>
    cases named
    rw [resolveChars_of_noRows notRows]
    simp only [simpleType, scalar, Spelling.withExtent, Bool.not_false,
      Bool.and_true, Bool.false_eq_true, if_false]
    rw [lacks]
    rfl

/-- What has no user-defined name is a collection. -/
theorem name_resolveChars_of_rows (vocabulary : Vocabulary) (nullable : Bool)
    (unnamed : userName? context.schema.toList descriptor = none) :
    ∃ row, (vocabulary.resolveChars context descriptor nullable).name =
      "Vec<" ++ row ++ ">" := by
  unfold userName? at unnamed
  split at unnamed
  next row rows =>
    rw [resolveChars_of_rows rows]
    exact ⟨_, rfl⟩
  next => cases unnamed

/-- A plain name is resolved as the type that the vocabulary knows under it, in
whatever case, and else as a type of the user. -/
theorem resolveChars_of_plain {name : List Char}
    (plain : Identifier.IsPlain name) :
    vocabulary.resolveChars context name nullable =
      (match vocabulary context Extent.none (String.ofList (lower name)) with
        | some mapping => mapping.present context.presentation nullable
        | none => Spelling.orMissing
          (.defaulted (String.ofList (context.names.camelChars name)))
          nullable).withExtent Extent.none := by
  have noGroup : '(' ∉ name := plain.not_mem (by decide) (by decide)
  have noSpace : ' ' ∉ name := plain.not_mem (by decide) (by decide)
  have undotted : '.' ∉ name := plain.not_mem (by decide) (by decide)
  have trimmed := trim_of_solid plain.solid
  have scalar : elementType? name = none := by
    obtain ⟨front, last, shape, solid, noBracket⟩ := plain.exists_concat
    rw [← trimmed, shape]
    exact elementType?_trim solid noBracket
  have noRows : rowType? (trim name) = none := by
    rw [trimmed, rowType?_of_solid noSpace]
  rw [resolveChars_of_noRows noRows, trimmed, simpleType, scalar]
  dsimp only
  rw [splitExtent_of_not_mem noGroup]
  cases vocabulary context Extent.none (String.ofList (lower name)) with
  | none => simp [Spelling.userDefined, splitOnce?_of_not_mem undotted]
  | some mapping => simp

private theorem orMissing_defaulted_inj {left right : String}
    (same : (Spelling.orMissing (.defaulted left) nullable).name =
      (Spelling.orMissing (.defaulted right) nullable).name) :
    left = right := by
  cases nullable with
  | false => exact same
  | true =>
      have inner : "Option<" ++ left ++ ">" = "Option<" ++ right ++ ">" := same
      simpa using inner

private theorem collection_ne_orMissing {row name : String}
    (noBracket : '<' ∉ name.toList) :
    "Vec<" ++ row ++ ">" ≠
      (Spelling.orMissing (.defaulted name) nullable).name := by
  intro same
  cases nullable with
  | false =>
      have sameName : "Vec<" ++ row ++ ">" = name := same
      rw [← sameName] at noBracket
      simp at noBracket
  | true =>
      have inner : "Vec<" ++ row ++ ">" = "Option<" ++ name ++ ">" := same
      have sameStart := congrArg (fun text => text.toList.head?) inner
      simp at sameStart

/-- A scalar type that the vocabulary does not know is presented by a name, or
by the optional form of it, exactly if the descriptor calls it that. -/
theorem name_resolveChars_iff (scalar : elementType? (trim descriptor) = none)
    (lacks : vocabulary.Lacks context descriptor) {name : String}
    (noBracket : '<' ∉ name.toList) :
    (vocabulary.resolveChars context descriptor nullable).name =
        (Spelling.orMissing (.defaulted name) nullable).name ↔
      ∃ called, userName? context.schema.toList descriptor = some called ∧
        String.ofList (context.names.camelChars called) = name := by
  cases named : userName? context.schema.toList descriptor with
  | none =>
      obtain ⟨row, collection⟩ :=
        name_resolveChars_of_rows vocabulary nullable named
      rw [collection]
      simp [collection_ne_orMissing noBracket]
  | some called =>
      rw [name_resolveChars_of_userName? scalar lacks named]
      constructor
      · intro same
        exact ⟨called, rfl, orMissing_defaulted_inj same⟩
      · rintro ⟨other, same, rfl⟩
        cases same
        rfl

end Vocabulary

end SchemaAtlas
