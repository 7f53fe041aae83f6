import SchemaAtlas.Proofs.Text.CaseFolding
import SchemaAtlas.Proofs.Typing.Extents

/-!
# The case of letters in descriptors

Descriptors that differ only in the case of ASCII letters have the same target
type.  A listed type is looked up by its lowercase name, and every word of the
name of a user's type is spelled anew, as an initialism or with one capital.
The schema in front of a dot is the one part of a descriptor that is compared as
it stands.
-/

namespace SchemaAtlas

open Text

namespace Identifier

theorem isPart_toLower (c : Char) : isPart c.toLower = isPart c :=
  of_toLower (by decide) c

theorem isLeading_toLower (c : Char) : isLeading c.toLower = isLeading c :=
  of_toLower (by decide) c

theorem separator_toLower_iff (c : Char) :
    c.toLower = separator ↔ c = separator :=
  toLower_eq_iff (by decide)

theorem replaceOthers_fold (text : List Char) :
    replaceOthers (fold text) = fold (replaceOthers text) := by
  simp only [replaceOthers, fold, List.map_map]
  apply List.map_congr_left
  intro c _
  simp only [Function.comp_apply, isPart_toLower]
  split
  · rfl
  · decide

theorem collapse_fold (text : List Char) :
    collapse (fold text) = fold (collapse text) := by
  induction text with
  | nil => rfl
  | cons c rest ih =>
      have next : (fold rest).head? = some separator ↔
          rest.head? = some separator := by
        cases rest with
        | nil => rfl
        | cons d rest => simp [separator_toLower_iff]
      simp only [fold_cons, collapse, separator_toLower_iff, next, ih]
      split
      · rfl
      · rfl

theorem strip_fold (text : List Char) :
    strip (fold text) = fold (strip text) := by
  have marks (text : List Char) : (fold text).dropWhile (· == separator) =
      fold (text.dropWhile (· == separator)) :=
    dropWhile_fold (fun c => of_toLower (by decide) c) text
  simp only [strip, dropWhile_fold isLeading_toLower, reverse_fold, marks]

theorem cleanChars_fold (text : List Char) :
    cleanChars (fold text) = fold (cleanChars text) := by
  simp only [cleanChars, trim_fold, replaceOthers_fold, collapse_fold,
    strip_fold]

theorem parts_fold (text : List Char) :
    parts (fold text) = (parts text).map fold := by
  simp [parts, splitOn_fold (show separator.isAlpha = false by decide),
    List.filter_map, Function.comp_def]

end Identifier

namespace Initialisms

variable (set : Initialisms)

theorem titleCase_fold (word : List Char) :
    titleCase (fold word) = titleCase word := by
  cases word with
  | nil => rfl
  | cons c rest =>
      simp [titleCase, upperChar_toLower, fold, List.flatMap_map,
        lowerChar_toLower]

theorem camelWord_fold (word : List Char) :
    set.camelWord (fold word) = set.camelWord word := by
  rw [camelWord, camelWord, upper_fold, titleCase_fold]

theorem camelChars_fold (name : List Char) :
    set.camelChars (fold name) = set.camelChars name := by
  simp only [camelChars, Identifier.cleanChars_fold, Identifier.parts_fold,
    List.flatMap_map, camelWord_fold]

end Initialisms

theorem Extent.read?_fold (inner : List Char) :
    read? (fold inner) = read? inner := by
  have pieces : (splitOn ',' (fold inner)).map trim =
      ((splitOn ',' inner).map trim).map fold := by
    rw [splitOn_fold (by decide)]
    simp [trim_fold]
  simp only [read?, pieces]
  cases (splitOn ',' inner).map trim with
  | nil => rfl
  | cons precision others =>
      cases others with
      | nil => simp [unsigned32?_fold]
      | cons scale others =>
          cases others with
          | nil => simp [unsigned32?_fold]
          | cons _ _ => rfl

namespace Descriptor

theorem firstGroup?_fold (descriptor : List Char) :
    firstGroup? (fold descriptor) = (firstGroup? descriptor).map
      fun group => (fold group.1, fold group.2.1, fold group.2.2) := by
  rw [firstGroup?, firstGroup?, splitOnce?_fold (by decide)]
  cases splitOnce? '(' descriptor with
  | none => rfl
  | some cut =>
      simp [splitOnce?_fold (show Char.isAlpha ')' = false by decide),
        Function.comp_def]

theorem close_fold (head tail : List Char) :
    close (fold head) (fold tail) = fold (close head tail) := by
  simp only [close, trimEnd_fold, trimStart_fold, isEmpty_fold]
  split
  · rfl
  · simp

theorem splitExtent_fold (descriptor : List Char) :
    splitExtent (fold descriptor) =
      (fold (splitExtent descriptor).1, (splitExtent descriptor).2) := by
  rw [splitExtent, firstGroup?_fold, splitExtent]
  cases firstGroup? descriptor with
  | none => rfl
  | some group =>
      simp only [Option.map_some, Extent.read?_fold]
      cases Extent.read? group.2.1 with
      | none => rfl
      | some extent => simp [close_fold]

theorem rowType?_fold (descriptor : List Char) :
    rowType? (fold descriptor) = (rowType? descriptor).map fold := by
  have same : equalIgnoringAsciiCase ((fold descriptor).take setWord.length)
      setWord = equalIgnoringAsciiCase (descriptor.take setWord.length)
        setWord := by
    rw [Bool.eq_iff_iff, equalIgnoringAsciiCase_iff, equalIgnoringAsciiCase_iff]
    simp only [fold, ← List.map_take]
    rw [← fold, ← fold, fold_fold]
  rw [rowType?, same, rowType?]
  split
  · simp [fold]
  · rfl

theorem elementType?_fold (descriptor : List Char) :
    elementType? (fold descriptor) = (elementType? descriptor).map fold := by
  have noLetters : ∀ c ∈ arrayMark, c.isAlpha = false := by
    intro c membership
    rcases List.mem_pair.mp membership with rfl | rfl
    · decide
    · decide
  rw [elementType?, withoutEnd?_fold noLetters, elementType?]
  cases withoutEnd? arrayMark descriptor with
  | none => rfl
  | some element => simp [trimEnd_fold]

/-- Taking the size out of a descriptor adds at most a blank to what is left. -/
theorem mem_of_mem_splitExtent {descriptor : List Char} {c : Char}
    (solid : c ≠ ' ') (membership : c ∈ (splitExtent descriptor).1) :
    c ∈ descriptor := by
  have takesOut := takesOut_splitExtent descriptor
  generalize splitExtent descriptor = result at takesOut membership
  cases takesOut with
  | @size head inner tail =>
      rcases List.mem_append.mp membership with inHead | behind
      · have inPart := mem_of_mem_trimEnd inHead
        simp [inPart]
      · split at behind
        · cases behind
        · rcases List.mem_cons.mp behind with isSpace | inTail
          · exact absurd isSpace solid
          · have inPart := mem_of_mem_trimStart inTail
            simp [inPart]
  | noSize => exact membership
  | unclosed => exact membership
  | unopened => exact membership

private theorem mem_of_mem_elementType? {descriptor element : List Char}
    {c : Char}
    (array : elementType? descriptor = some element)
    (membership : c ∈ element) : c ∈ descriptor := by
  obtain ⟨shorter, cut, rfl⟩ := Option.map_eq_some_iff.mp array
  rw [eq_append_of_withoutEnd? cut]
  exact List.mem_append_left _ (mem_of_mem_trimEnd membership)

private theorem mem_of_mem_rowType? {descriptor row : List Char} {c : Char}
    (rows : rowType? descriptor = some row) (membership : c ∈ row) :
    c ∈ descriptor := by
  rw [rowType?] at rows
  split at rows
  · cases rows
    exact List.mem_of_mem_drop membership
  · cases rows

end Descriptor

open Descriptor

theorem Spelling.userDefined_fold (context : TypeContext)
    {descriptor : List Char} (undotted : '.' ∉ descriptor) (nullable : Bool) :
    userDefined context (fold descriptor) nullable =
      userDefined context descriptor nullable := by
  have foldUndotted : '.' ∉ fold descriptor := by
    rwa [mem_fold_iff (by decide)]
  simp only [userDefined, splitOnce?_of_not_mem undotted,
    splitOnce?_of_not_mem foldUndotted, Initialisms.camelChars_fold]

namespace Vocabulary

variable (vocabulary : Vocabulary) (context : TypeContext)

/-- A listed name is found in whatever case it is written, and another one is
spelled anew. -/
theorem simpleType_fold {descriptor : List Char} (undotted : '.' ∉ descriptor)
    (nullable : Bool) :
    vocabulary.simpleType context (fold descriptor) nullable =
      vocabulary.simpleType context descriptor nullable := by
  have named {scalar : List Char} (within : '.' ∉ scalar) (mayMiss : Bool) :
      Spelling.userDefined context (fold (splitExtent scalar).1) mayMiss =
        Spelling.userDefined context (splitExtent scalar).1 mayMiss := by
    apply Spelling.userDefined_fold
    exact fun membership =>
      within (mem_of_mem_splitExtent (by decide) membership)
  rw [simpleType, elementType?_fold, simpleType]
  cases array : elementType? descriptor with
  | none =>
      simp only [Option.map_none, splitExtent_fold, lower_fold, named undotted]
  | some element =>
      have within : '.' ∉ element :=
        fun membership => undotted (mem_of_mem_elementType? array membership)
      simp only [Option.map_some, splitExtent_fold, lower_fold, named within]

theorem resolveChars_fold {descriptor : List Char} (undotted : '.' ∉ descriptor)
    (nullable : Bool) :
    vocabulary.resolveChars context (fold descriptor) nullable =
      vocabulary.resolveChars context descriptor nullable := by
  have trimmed {text : List Char} (absent : '.' ∉ text) : '.' ∉ trim text :=
    fun membership =>
      absent (mem_of_mem_trimStart (mem_of_mem_trimEnd membership))
  -- Each set of rows leaves a shorter descriptor, which has no dot either.
  induction descriptor, nullable using resolveChars.induct with
  | case1 descriptor nullable row rows ih =>
      have folded : rowType? (trim (fold descriptor)) = some (fold row) := by
        rw [trim_fold, rowType?_fold, rows]
        rfl
      have rowUndotted : '.' ∉ row := fun membership =>
        trimmed undotted (mem_of_mem_rowType? rows membership)
      rw [resolveChars_of_rows rows, resolveChars_of_rows folded,
        ih rowUndotted]
  | case2 descriptor nullable noRows =>
      have folded : rowType? (trim (fold descriptor)) = none := by
        rw [trim_fold, rowType?_fold, noRows]
        rfl
      rw [resolveChars_of_noRows noRows, resolveChars_of_noRows folded,
        trim_fold, simpleType_fold vocabulary context (trimmed undotted)]

/-- Descriptors without a dot that differ only in the case of letters have the
same target type in every engine. -/
theorem resolve_eq_of_equalIgnoringAsciiCase (engine : Engine)
    (context : TypeContext) {left right : String}
    (same : equalIgnoringAsciiCase left.toList right.toList = true)
    (undotted : '.' ∉ left.toList) (nullable : Bool) :
    (Adapter.builtin engine).resolve context left nullable =
      (Adapter.builtin engine).resolve context right nullable := by
  have folded : fold left.toList = fold right.toList :=
    equalIgnoringAsciiCase_iff.mp same
  have rightUndotted : '.' ∉ right.toList := by
    rwa [← mem_fold_iff (by decide), ← folded, mem_fold_iff (by decide)]
  rw [resolve_builtin, resolve, resolve,
    ← resolveChars_fold _ context undotted, folded,
    resolveChars_fold _ context rightUndotted]

/-- A set of arrays of a type of the user, whose name has an initialism. -/
theorem resolve_eq_orderItems :
    (Adapter.builtin .mysql).resolve (Options.standard.typeContext "shop")
        "SetOf order_ITEM_iD(7)[]" true =
      ⟨"Vec<Vec<OrderItemID>>", "Vec::new()", none, none⟩ ∧
    (Adapter.builtin .mysql).resolve (Options.standard.typeContext "shop")
        "SETOF Order_Item_Id(7)[]" true =
      ⟨"Vec<Vec<OrderItemID>>", "Vec::new()", none, none⟩ := by
  have same := resolve_eq_of_equalIgnoringAsciiCase .mysql
    (Options.standard.typeContext "shop")
    (show equalIgnoringAsciiCase "SetOf order_ITEM_iD(7)[]".toList
      "SETOF Order_Item_Id(7)[]".toList = true by decide) (by decide) true
  have resolved : (Adapter.builtin .mysql).resolve
      (Options.standard.typeContext "shop") "SETOF Order_Item_Id(7)[]" true =
        ⟨"Vec<Vec<OrderItemID>>", "Vec::new()", none, none⟩ := by
    decide +kernel
  exact ⟨same.trans resolved, resolved⟩

end Vocabulary

end SchemaAtlas
