import Mathlib.Logic.Function.Iterate
import SchemaAtlas.Proofs.Text.CaseFolding
import SchemaAtlas.Proofs.Typing.Families

/-!
# Collections

Sets of rows and arrays are presented as collections of what their element is
presented as.  The element of a collection is never optional, and the collection
itself neither: a missing value is an empty collection.
-/

namespace SchemaAtlas

open Text Descriptor

namespace TargetType

def rowsOf (row : TargetType) : TargetType :=
  ⟨"Vec<" ++ row.name ++ ">", "Vec::new()", none, none⟩

/-- The type of an array of a type: strings have a list of their own, and the
size of the element is kept. -/
def arrayOf (element : TargetType) : TargetType :=
  if element.name = "String" then
    { element with name := "StringList", zero := "StringList::default()" }
  else
    { element with name := "Vec<" ++ element.name ++ ">", zero := "Vec::new()" }

end TargetType

theorem Spelling.withExtent_arrayOf (element : Spelling) (extent : Extent) :
    element.arrayOf.withExtent extent =
      (element.withExtent extent).arrayOf := by
  by_cases isString : element.name = "String"
  · simp [Spelling.arrayOf, TargetType.arrayOf, withExtent, isString, defaulted]
  · simp [Spelling.arrayOf, TargetType.arrayOf, withExtent, isString,
      collectionOf]

namespace Descriptor

/-- The word that announces a set of rows, without the blank behind it. -/
def bareSetWord : List Char := "SETOF".toList

/-- A word is the one that announces a set of rows, in any case. -/
def IsSetWord (word : List Char) : Prop :=
  equalIgnoringAsciiCase word setWord = true

instance (word : List Char) : Decidable (IsSetWord word) :=
  inferInstanceAs (Decidable (_ = _))

variable {word text : List Char}

theorem IsSetWord.exists_cons (isSetWord : IsSetWord word) :
    ∃ first rest, word = first :: rest ∧ isBlank first = false := by
  have started : equalIgnoringAsciiCase (word.take 1) ['S'] = true :=
    equalIgnoringAsciiCase_take 1 isSetWord
  cases word with
  | nil => exact absurd started (by decide)
  | cons first rest =>
      have letter : first.isAlpha = true :=
        isAlpha_of_fold_eq (equalIgnoringAsciiCase_iff.mp started).symm
          (List.all_eq_true.mp (by decide)) first (by simp)
      exact ⟨first, rest, rfl,
        isBlank_of_isAlphanum (Bool.or_eq_true_iff.mpr (.inl letter))⟩

/-- A set of rows is announced in front of any type. -/
theorem IsSetWord.rowType?_trim (isSetWord : IsSetWord word)
    (filled : trim text ≠ []) :
    rowType? (trim (word ++ text)) = some (trimEnd text) := by
  obtain ⟨first, rest, rfl, solid⟩ := isSetWord.exists_cons
  have ended : trimEnd text ≠ [] := by
    intro isEmpty
    exact filled (trim_eq_nil_iff.mpr (trimEnd_eq_nil_iff.mp isEmpty))
  have sameLength := length_of_equalIgnoringAsciiCase isSetWord
  have shape : trim (first :: rest ++ text) =
      first :: rest ++ trimEnd text := by
    rw [trim, List.cons_append, trimStart_cons_of_solid solid,
      ← List.cons_append, trimEnd_append_of_filled ended]
  rw [shape, rowType?, if_pos, ← sameLength, List.drop_left]
  rw [← sameLength, List.take_left]
  exact isSetWord

theorem trim_arrayMark (text : List Char) :
    trim (text ++ arrayMark) = trimStart text ++ arrayMark := by
  have started : trimStart (text ++ arrayMark) =
      trimStart text ++ arrayMark := by
    rw [trimStart, List.dropWhile_append]
    split
    next isEmpty =>
      rw [trimStart, List.isEmpty_iff.mp isEmpty]
      decide
    next => rfl
  rw [trim, started]
  exact trimEnd_append (by decide) (by decide)

/-- What announces a set of rows begins with the word without its blank. -/
private theorem begins_of_announced
    (announced : equalIgnoringAsciiCase (text.take setWord.length) setWord =
      true) :
    equalIgnoringAsciiCase (text.take bareSetWord.length) bareSetWord =
      true := by
  have shortened := equalIgnoringAsciiCase_take bareSetWord.length announced
  rwa [List.take_take] at shortened

/-- No set of rows is announced by an array, unless its element begins with the
word. -/
theorem rowType?_arrayMark
    (unannounced : equalIgnoringAsciiCase
      ((trim text).take bareSetWord.length) bareSetWord = false) :
    rowType? (trimStart text ++ arrayMark) = none := by
  obtain ⟨gap, blank, shape⟩ := exists_trimEnd_append (trimStart text)
  rw [← trim] at shape
  rw [rowType?, if_neg]
  intro announced
  have begins := begins_of_announced announced
  have letters :=
    isAlpha_of_fold_eq (equalIgnoringAsciiCase_iff.mp begins).symm
      (List.all_eq_true.mp (by decide))
  rw [shape, List.append_assoc] at begins letters
  by_cases long : bareSetWord.length ≤ (trim text).length
  · rw [List.take_append_of_le_length long] at begins
    exact Bool.false_ne_true (unannounced.symm.trans begins)
  · -- Behind a shorter element stands what is no letter of the word.
    obtain ⟨c, rest, behind, notAlpha⟩ : ∃ c rest,
        gap ++ arrayMark = c :: rest ∧ c.isAlpha = false := by
      cases gap with
      | nil => exact ⟨'[', [']'], rfl, by decide⟩
      | cons c later =>
          refine ⟨c, later ++ arrayMark, rfl, Bool.eq_false_iff.mpr ?_⟩
          intro letter
          have solid := isBlank_of_isAlphanum
            (Bool.or_eq_true_iff.mpr (.inl letter))
          exact Bool.false_ne_true
            (solid.symm.trans (blank c List.mem_cons_self))
    have within :
        c ∈ (trim text ++ (gap ++ arrayMark)).take bareSetWord.length := by
      rw [behind]
      exact mem_take_append (by omega)
    exact Bool.false_ne_true (notAlpha.symm.trans (letters c within))

private theorem isScalar_of_unannounced
    (unannounced : equalIgnoringAsciiCase
      ((trim text).take bareSetWord.length) bareSetWord = false)
    (noArray : ¬ arrayMark <:+ trim text) : IsScalar text := by
  refine ⟨Bool.eq_false_iff.mpr ?_, noArray⟩
  intro announced
  exact Bool.false_ne_true
    (unannounced.symm.trans (begins_of_announced announced))

end Descriptor

namespace Vocabulary

variable {vocabulary : Vocabulary} {context : TypeContext}
  {word text : List Char}

theorem resolveChars_congr {left right : List Char}
    (same : trim left = trim right) (nullable : Bool) :
    vocabulary.resolveChars context left nullable =
      vocabulary.resolveChars context right nullable := by
  cases announced : rowType? (trim left) with
  | some row =>
      rw [resolveChars_of_rows announced]
      rw [same] at announced
      rw [resolveChars_of_rows announced]
  | none =>
      rw [resolveChars_of_noRows announced, same]
      rw [same] at announced
      rw [resolveChars_of_noRows announced]

/-- A set of rows is one of the type of its rows, where no value is missing. -/
theorem resolveChars_set (isSetWord : IsSetWord word) (filled : trim text ≠ [])
    (nullable : Bool) :
    vocabulary.resolveChars context (word ++ text) nullable =
      (vocabulary.resolveChars context text false).rowsOf := by
  rw [resolveChars_of_rows (isSetWord.rowType?_trim filled),
    resolveChars_congr (trim_trimEnd text)]
  rfl

theorem resolveChars_sets {rest : List (List Char)}
    (areSetWords : ∀ other ∈ word :: rest, IsSetWord other)
    (filled : trim text ≠ []) (nullable : Bool) :
    vocabulary.resolveChars context ((word :: rest).flatten ++ text) nullable =
      TargetType.rowsOf^[rest.length + 1]
        (vocabulary.resolveChars context text false) := by
  induction rest generalizing word nullable with
  | nil =>
      rw [List.flatten_singleton]
      exact resolveChars_set (areSetWords word List.mem_cons_self)
        filled nullable
  | cons next rest ih =>
      obtain ⟨isSetWord, later⟩ := List.forall_mem_cons.mp areSetWords
      have inner : trim ((next :: rest).flatten ++ text) ≠ [] := by
        intro isEmpty
        apply filled
        rw [trim_eq_nil_iff] at isEmpty ⊢
        exact fun c membership => isEmpty c (List.mem_append_right _ membership)
      rw [List.flatten_cons, List.append_assoc,
        resolveChars_set isSetWord inner,
        ih later, List.length_cons, Function.iterate_succ_apply' _ (_ + 1)]

/-- An array is one of the type of its elements, where no value is missing. -/
theorem resolveChars_array
    (unannounced : equalIgnoringAsciiCase
      ((trim text).take bareSetWord.length) bareSetWord = false)
    (noArray : ¬ arrayMark <:+ trim text) (nullable : Bool) :
    vocabulary.resolveChars context (text ++ arrayMark) nullable =
      (vocabulary.resolveChars context text false).arrayOf := by
  have noRows : rowType? (trim (text ++ arrayMark)) = none := by
    rw [trim_arrayMark, rowType?_arrayMark unannounced]
  have element : elementType? (trimStart text ++ arrayMark) =
      some (trim text) := by
    rw [elementType?, withoutEnd?_append, Option.map_some]
    rfl
  have scalar := isScalar_of_unannounced unannounced noArray
  rw [resolveChars_of_noRows noRows, trim_arrayMark, simpleType, element,
    resolveChars_of_isScalar vocabulary context scalar]
  dsimp only
  rw [Bool.not_true, Bool.and_false, if_pos rfl]
  exact Spelling.withExtent_arrayOf _ _

/-- Sets of rows and arrays of a type are presented as collections of what the
type is presented as, and so are sets of sets. -/
theorem resolve_collections (engine : Engine) (context : TypeContext)
    {descriptor : String} (filled : trim descriptor.toList ≠ [])
    (nullable : Bool) :
    (∀ (word : String) (rest : List String),
      (∀ other ∈ word :: rest, IsSetWord other.toList) →
      (Adapter.builtin engine).resolve context
          (String.join (word :: rest) ++ descriptor) nullable =
        TargetType.rowsOf^[rest.length + 1]
          ((Adapter.builtin engine).resolve context descriptor false)) ∧
    (equalIgnoringAsciiCase
        ((trim descriptor.toList).take bareSetWord.length) bareSetWord = false →
      ¬ arrayMark <:+ trim descriptor.toList →
      (Adapter.builtin engine).resolve context (descriptor ++ "[]") nullable =
        ((Adapter.builtin engine).resolve context descriptor
          false).arrayOf) := by
  rw [resolve_builtin]
  simp only [resolve, String.toList_append]
  constructor
  · intro word rest areSetWords
    have flat : (String.join (word :: rest)).toList =
        (word.toList :: rest.map String.toList).flatten := by
      simp [List.flatMap_def]
    have each : ∀ other ∈ word.toList :: rest.map String.toList,
        IsSetWord other := by
      rw [← List.map_cons]
      exact List.forall_mem_map.mpr areSetWords
    have sets := @resolveChars_sets (builtin engine) context _ _ _ each filled
      nullable
    rwa [List.length_map, ← flat] at sets
  · exact fun unannounced noArray =>
      resolveChars_array unannounced noArray nullable

/-- The types of PostgreSQL in the hybrid family, where text that may be missing
has a wrapper. -/
def hybridType (native : String) (nullable : Bool) : TargetType :=
  (Adapter.builtin .postgresql).resolve
    { Options.standard.typeContext "public" with presentation := .hybrid }
    native nullable

theorem resolve_collections_names :
    (hybridType "varchar(30)" true).name = "pgtype::Varchar" ∧
      hybridType "varchar(30)[]" true =
        ⟨"StringList", "StringList::default()", some 30, none⟩ ∧
      hybridType "SetOf SETOF varchar(30)[]" true =
        ⟨"Vec<Vec<StringList>>", "Vec::new()", none, none⟩ := by
  have names (nullable : Bool) : hybridType "varchar(30)[]" nullable =
      ⟨"StringList", "StringList::default()", some 30, none⟩ := by
    obtain ⟨_, ofArray⟩ := resolve_collections .postgresql
      { Options.standard.typeContext "public" with presentation := .hybrid }
      (show trim "varchar(30)".toList ≠ [] by decide) nullable
    have element : hybridType "varchar(30)" false =
        ⟨"String", "String::new()", some 30, none⟩ := by
      decide +kernel
    exact (ofArray (by decide) (by decide +kernel)).trans
      (congrArg TargetType.arrayOf element)
  obtain ⟨ofSets, _⟩ := resolve_collections .postgresql
    { Options.standard.typeContext "public" with presentation := .hybrid }
    (show trim "varchar(30)[]".toList ≠ [] by decide) true
  have sets : hybridType "SetOf SETOF varchar(30)[]" true =
      TargetType.rowsOf^[2] (hybridType "varchar(30)[]" false) :=
    ofSets "SetOf " ["SETOF "] (by decide)
  refine ⟨by decide +kernel, names true, ?_⟩
  rw [sets, names]
  decide

end Vocabulary

end SchemaAtlas
