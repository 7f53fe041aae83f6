import SchemaAtlas.Proofs.Naming.FirstWord
import SchemaAtlas.Proofs.Text.Numerals
import SchemaAtlas.Proofs.Typing.Families

/-!
# Groups in parentheses

A descriptor may consist of a word and a group in parentheses.  A group that is
a size is taken out, and the word is looked up alone.  A group of another form
stays, and where the vocabulary knows no name with a parenthesis, the descriptor
stands for a type of the user then.  That type is named after the word and the
group together, which is never what a listed type is called.
-/

namespace SchemaAtlas

open Text Identifier

theorem Extent.read?_of_not_mem {text : List Char} (alone : ',' ∉ text) :
    Extent.read? text =
      (unsigned32? (trim text)).map fun precision =>
      ⟨some precision, .none⟩ := by
  rw [Extent.read?, splitOn_of_not_mem alone]
  rfl

theorem Extent.read?_pair {first second : List Char} (before : ',' ∉ first)
    (behind : ',' ∉ second) :
    Extent.read? (first ++ ',' :: second) =
      (unsigned32? (trim first)).bind fun precision =>
        (unsigned32? (trim second)).map fun scale =>
          ⟨some precision, some scale⟩ := by
  rw [Extent.read?, splitOn_append before, splitOn_of_not_mem behind]
  rfl

/-- A text that begins with what begins no numeral is no size. -/
theorem Extent.read?_of_odd {first : Char} {rest : List Char}
    (solid : isBlank first = false) (noDigit : first.isDigit = false)
    (noSign : first ≠ '+') (noComma : first ≠ ',') :
    Extent.read? (first :: rest) = .none := by
  obtain ⟨piece, pieces, shape⟩ : ∃ piece pieces,
      splitOn ',' (first :: rest) = (first :: piece) :: pieces := by
    rw [splitOn, if_neg noComma]
    cases splitOn ',' rest with
    | nil => exact ⟨[], [], rfl⟩
    | cons piece pieces => exact ⟨piece, pieces, rfl⟩
  have unread : unsigned32? (trim (first :: piece)) = .none := by
    rw [trim, trimStart_cons_of_solid solid, trimEnd_cons_of_solid solid]
    exact unsigned32?_of_odd noDigit noSign
  rcases pieces with _ | ⟨second, _ | ⟨third, more⟩⟩ <;>
    simp [Extent.read?, shape, unread]

theorem Identifier.IsWord.isPlain {word : List Char} (isWord : IsWord word) :
    IsPlain word := by
  constructor
  case letter =>
    obtain ⟨first, rest, shape, lower⟩ := isWord.exists_cons
    exact ⟨first, rest, shape, isAlpha_of_isLower lower⟩
  case parts =>
    intro c membership
    have alphanumeric : c.isAlphanum = true :=
      of_isSmall (fun c => c.isAlphanum = true) (by decide)
        (isWord.small c membership)
    exact .inl alphanumeric

namespace Descriptor

/-- A descriptor that consists of a word and a group in parentheses. -/
def grouped (word inner : List Char) : List Char :=
  word ++ '(' :: inner ++ [')']

variable {word inner : List Char}

theorem grouped_eq_append :
    grouped word inner = word ++ '(' :: (inner ++ [')']) := by
  simp [grouped]

/-- No set of rows is announced where another character comes before the first
blank. -/
theorem unannounced_append {front rest : List Char} {c : Char}
    (noSpace : ' ' ∉ front) (other : c.toLower ∉ setWord.map Char.toLower) :
    equalIgnoringAsciiCase ((front ++ c :: rest).take setWord.length) setWord =
      false := by
  rw [Bool.eq_false_iff]
  intro announced
  by_cases long : setWord.length ≤ front.length
  · have space := space_mem_of_announced announced
    rw [List.take_append_of_le_length long] at space
    exact noSpace (List.mem_of_mem_take space)
  · apply other
    rw [← eq_of_beq announced]
    exact List.mem_map_of_mem (mem_take_append (by omega))

variable (isWord : IsWord word)

include isWord

theorem trim_grouped : trim (grouped word inner) = grouped word inner := by
  obtain ⟨first, rest, rfl, _⟩ := isWord.exists_cons
  have visible := isWord.isPlain.solid first List.mem_cons_self
  exact trim_enclosed visible (by decide) (rest ++ '(' :: inner)

theorem isScalar_grouped : IsScalar (grouped word inner) := by
  constructor
  case noRows =>
    rw [trim_grouped isWord, grouped_eq_append]
    exact unannounced_append (isWord.not_mem (by decide)) (by decide)
  case noArray =>
    rw [trim_grouped isWord]
    rintro ⟨front, shape⟩
    have sameLast := congrArg List.getLast? shape
    rw [grouped, List.getLast?_concat] at sameLast
    simp [arrayMark] at sameLast

theorem firstGroup?_grouped {start tail : List Char}
    (closed : splitOnce? ')' (inner ++ [')']) = some (start, tail)) :
    firstGroup? (grouped word inner) = some (word, start, tail) := by
  have noGroup : '(' ∉ word := isWord.not_mem (by decide)
  simp [firstGroup?, grouped_eq_append, splitOnce?_append noGroup, closed]

theorem splitExtent_grouped
    (noSize : Extent.read? (inner.takeWhile (· != ')')) = none) :
    splitExtent (grouped word inner) = (grouped word inner, Extent.none) := by
  obtain ⟨tail, closed⟩ := exists_splitOnce?_append ')' inner []
  simp [splitExtent, firstGroup?_grouped isWord closed, noSize]

/-- A size is taken out, and the word is left. -/
theorem splitExtent_grouped_of_size {extent : Extent} (closed : ')' ∉ inner)
    (size : Extent.read? inner = some extent) :
    splitExtent (grouped word inner) = (word, extent) := by
  have kept := trimEnd_of_trim (trim_of_solid isWord.isPlain.solid)
  simp [splitExtent, firstGroup?_grouped isWord (splitOnce?_append closed),
    size, close, kept, trimStart]

/-- A descriptor with a group is no qualified name, unless the schema has a
parenthesis as well. -/
theorem localName_grouped {schema : List Char} (noGroup : '(' ∉ schema) :
    localName schema (grouped word inner) = grouped word inner := by
  have undotted : '.' ∉ word ++ ['('] := by
    simpa using isWord.not_mem (show isSmall '.' = false by decide)
  have shape : grouped word inner = word ++ ['('] ++ (inner ++ [')']) := by
    simp [grouped]
  rw [localName]
  split
  next qualifier name cut =>
    rw [shape, splitOnce?_append_of_not_mem undotted] at cut
    obtain ⟨behind, _, same⟩ := Option.map_eq_some_iff.mp cut
    rw [if_neg]
    rintro rfl
    rw [← (Prod.mk.inj same).1] at noGroup
    simp at noGroup
  next => rfl

end Descriptor

theorem TypeTable.find?_eq_none_of_mem {table : TypeTable} {name : String}
    {c : Char} (absent : ∀ entry ∈ table, ∀ listed ∈ entry.1, c ∉ listed.toList)
    (membership : c ∈ name.toList) : table.find? name = none := by
  rw [TypeTable.find?_eq_none_iff]
  intro entry inTable isListed
  exact absent entry inTable name isListed membership

theorem NativeMapping.name_present_plain (name zero : String)
    (presentation : Presentation) (nullable : Bool) :
    ((plain name zero).present presentation nullable).name = name ∨
      ((plain name zero).present presentation nullable).name =
        "Option<" ++ name ++ ">" ∨
      ((plain name zero).present presentation nullable).name =
        "Option<Box<" ++ name ++ ">>" := by
  cases presentation <;> cases nullable <;>
    simp [present, plain, decodedOrMissing, Spelling.orMissing,
      Spelling.optional, Spelling.boxedOptional]

/-- A name without brackets that differs from that of a plain type is in no
family what this type is called, whether or not values may be missing. -/
theorem NativeMapping.name_orMissing_ne_present {called name : String}
    (noAngle : '<' ∉ called.toList) (noBracket : '<' ∉ name.toList)
    (different : called ≠ name) (zero : String) (presentation : Presentation)
    (nullable mayMiss : Bool) :
    (Spelling.orMissing (.defaulted called) nullable).name ≠
      ((plain name zero).present presentation mayMiss).name := by
  have form : (Spelling.orMissing (.defaulted called) nullable).name = called ∨
      (Spelling.orMissing (.defaulted called) nullable).name =
        "Option<" ++ called ++ ">" := by
    cases nullable with
    | false => exact .inl rfl
    | true => exact .inr rfl
  intro same
  rcases name_present_plain name zero presentation mayMiss with
    isPlain | isOptional | isBoxed <;> rcases form with bare | optional
  · exact different (bare.symm.trans (same.trans isPlain))
  · rw [← isPlain, ← same, optional] at noBracket
    simp at noBracket
  · rw [← bare, same, isOptional] at noAngle
    simp at noAngle
  · rw [optional, isOptional] at same
    exact different (by simpa using same)
  · rw [← bare, same, isBoxed] at noAngle
    simp at noAngle
  · rw [optional, isBoxed] at same
    have shape : called.toList ++ ['>'] =
        "Box<".toList ++ name.toList ++ ['>', '>'] := by
      simpa using congrArg String.toList same
    have inside : '<' ∈ called.toList ++ ['>'] := by simp [shape]
    exact noAngle (by simpa using inside)

namespace Vocabulary

open Descriptor

/-- A vocabulary knows no name with a parenthesis. -/
def KnowsNoGroups (vocabulary : Vocabulary) : Prop :=
  ∀ context extent name, '(' ∈ name.toList →
    vocabulary context extent name = none

theorem knowsNoGroups_oracle : KnowsNoGroups oracle := by
  intro context extent name membership
  apply TypeTable.find?_eq_none_of_mem _ membership
  simp [oracleTable]

theorem knowsNoGroups_mysql : KnowsNoGroups mysql := by
  intro context extent name membership
  have inBase : '(' ∈ (mysqlBase name).1.toList := by
    have kept := @mem_withoutEnds " zerofill".toList _ _ (by decide) membership
    rw [mysqlBase]
    split
    next base cut =>
      rw [eq_append_of_withoutEnd? cut, List.mem_append] at kept
      simpa using kept.resolve_right (by decide)
    next => simpa using kept
  have notFlag : ¬ (((mysqlBase name).1 = "bit" ∨
      (mysqlBase name).1 = "tinyint") ∧ extent.precision = some 1) := by
    rintro ⟨isBit | isTiny, _⟩
    · rw [isBit] at inBase
      exact absurd inBase (by decide)
    · rw [isTiny] at inBase
      exact absurd inBase (by decide)
  have signed : (mysqlSigned context).find? (mysqlBase name).1 = none :=
    TypeTable.find?_eq_none_of_mem (by simp [mysqlSigned]) inBase
  have unsigned : (mysqlUnsigned context).find? (mysqlBase name).1 = none :=
    TypeTable.find?_eq_none_of_mem (by simp [mysqlUnsigned]) inBase
  have others : mysqlTable.find? (mysqlBase name).1 = none :=
    TypeTable.find?_eq_none_of_mem (by decide) inBase
  simp only [mysql]
  rw [if_neg notFlag, others, Option.or_none]
  split
  · exact unsigned
  · exact signed

variable {vocabulary : Vocabulary} {context : TypeContext}
  {word inner : List Char}

/-- With a group that is no size, a descriptor stands for a type of the user. -/
theorem resolveChars_grouped (ignorant : KnowsNoGroups vocabulary)
    (isWord : IsWord word)
    (noSize : Extent.read? (inner.takeWhile (· != ')')) = none)
    (nullable : Bool) :
    vocabulary.resolveChars context (grouped word inner) nullable =
      (Spelling.userDefined context (grouped word inner) nullable).withExtent
        Extent.none := by
  have whole := splitExtent_grouped isWord noSize
  have lacks : vocabulary.Lacks context (grouped word inner) := by
    rw [Lacks, trim_grouped isWord, whole]
    apply ignorant
    have inGroup : '(' ∈ grouped word inner := by simp [grouped]
    simpa using mem_lower_of_mem (by decide) inGroup
  rw [resolveChars_of_lacks vocabulary context (isScalar_grouped isWord) lacks,
    trim_grouped isWord, whole]

theorem resolveChars_grouped_of_size {extent : Extent} {mapping : NativeMapping}
    (isWord : IsWord word) (closed : ')' ∉ inner)
    (size : Extent.read? inner = some extent)
    (known : vocabulary context extent (String.ofList (lower word)) =
      some mapping) (nullable : Bool) :
    vocabulary.resolveChars context (grouped word inner) nullable =
      (mapping.present context.presentation nullable).withExtent extent := by
  have taken := splitExtent_grouped_of_size isWord closed size
  rw [resolveChars_of_knows vocabulary context (isScalar_grouped isWord)
    (by rw [trim_grouped isWord, taken]; exact known), trim_grouped isWord,
    taken]

/-- A type of the user that is named after a word and a group is called like no
listed type, or the optional form of one, that begins otherwise than the
word. -/
theorem name_userDefined_grouped_ne (isWord : IsWord word)
    (whole : localName context.schema.toList (grouped word inner) =
      grouped word inner) {name : String} (noBracket : '<' ∉ name.toList)
    (notUpper : ¬ upper word <+: name.toList)
    (notTitle : ¬ Initialisms.titleCase word <+: name.toList) (zero : String)
    (presentation : Presentation) (nullable mayMiss : Bool) :
    (Spelling.userDefined context (grouped word inner) nullable).name ≠
      ((NativeMapping.plain name zero).present presentation mayMiss).name := by
  have spelling : Spelling.userDefined context (grouped word inner) nullable =
      Spelling.orMissing (.defaulted (String.ofList (context.names.camelChars
        (localName context.schema.toList (grouped word inner))))) nullable :=
          rfl
  rw [spelling, whole]
  generalize called : context.names.camelChars (grouped word inner) = camel
  have noAngle : '<' ∉ camel := by
    rw [← called]
    exact Initialisms.not_mem_camelChars (by decide) (by decide)
  have different : String.ofList camel ≠ name := by
    rintro rfl
    rw [grouped_eq_append] at called
    rw [String.toList_ofList] at notUpper notTitle
    exact Initialisms.camelChars_append_ne isWord (by decide) (by decide)
      notUpper notTitle called
  exact NativeMapping.name_orMissing_ne_present
    (by rwa [String.toList_ofList]) noBracket different zero presentation
      nullable
    mayMiss

end Vocabulary

end SchemaAtlas
