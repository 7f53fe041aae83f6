import SchemaAtlas.Proofs.Catalog.LabelRoundTrip
import SchemaAtlas.Proofs.Typing.Groups

/-!
# Inline types

The vocabulary of MySQL lists the words of the types that print their labels in
parentheses, sets and enumerations, as strings.  Labels are in quotes, so their
group is no size and stays in the descriptor: whatever the labels are, the word
is never looked up alone, and the type is one of the user that is named after
the labels.
-/

namespace SchemaAtlas.Vocabulary

open Text Catalog Descriptor

def inlineWords : List String := ["set", "enum"]

/-- What the vocabulary of MySQL has for the words of the inline types. -/
def inlineMapping : NativeMapping := .plain "String" "String::new()"

private theorem mysql_of_mem_inlineWords (context : TypeContext) {word : String}
    (inline : word ∈ inlineWords) :
    mysql context Extent.none word = some inlineMapping := by
  have base : ∀ word ∈ inlineWords, mysqlBase word = (word, false) := by
    decide +kernel
  rw [mysql, base word inline]
  rcases List.mem_pair.mp inline with rfl | rfl <;> rfl

/-- The labels in a group begin with a quote, so they are no size. -/
theorem read?_listed (value : String) (rest : List String) :
    Extent.read? ((listed (value :: rest)).takeWhile (· != ')')) = none := by
  obtain ⟨more, shape⟩ : ∃ more, listed (value :: rest) =
      labelQuote :: more := by
    cases rest with
    | nil => exact ⟨_, listed_singleton value⟩
    | cons next rest => exact ⟨_, listed_cons_cons value next rest⟩
  rw [shape, List.takeWhile_cons_of_pos (by decide)]
  exact Extent.read?_of_odd (by decide) (by decide) (by decide) (by decide)

/-- An inline type is presented as a type of the user, although its word alone
is a string; unless the schema has a parenthesis in its name, the two are never
called the same. -/
theorem resolve_inlineType (context : TypeContext) {word : String}
    (inline : word ∈ inlineWords) (value : String) (rest : List String)
    (nullable : Bool) :
    (Adapter.builtin .mysql).resolve context (inlineType word (value :: rest))
        nullable =
      (Spelling.userDefined context (inlineType word (value :: rest)).toList
        nullable).withExtent Extent.none ∧
    (Adapter.builtin .mysql).resolve context word nullable =
      (inlineMapping.present context.presentation nullable).withExtent
        Extent.none ∧
    ('(' ∉ context.schema.toList →
      ((Adapter.builtin .mysql).resolve context
          (inlineType word (value :: rest)) nullable).name ≠
        ((Adapter.builtin .mysql).resolve context word nullable).name) := by
  have isWord : Identifier.IsWord word.toList := by
    have each : ∀ word ∈ inlineWords, Identifier.IsWord word.toList := by decide
    exact each word inline
  have shape : (inlineType word (value :: rest)).toList =
      grouped word.toList (listed (value :: rest)) := by
    rw [inlineType, String.toList_ofList, grouped]
  have userDefined := @resolveChars_grouped mysql context _ _
    knowsNoGroups_mysql isWord (read?_listed value rest) nullable
  have listedWord : mysql.resolveChars context word.toList nullable =
      (inlineMapping.present context.presentation nullable).withExtent
        Extent.none := by
    have lowered : ∀ word ∈ inlineWords,
        String.ofList (lower word.toList) = word := by
      decide
    rw [resolveChars_of_plain isWord.isPlain, lowered word inline,
      mysql_of_mem_inlineWords context inline]
  rw [resolve_builtin]
  simp only [resolve, builtin, shape]
  refine ⟨userDefined, listedWord, ?_⟩
  intro noGroup
  rw [userDefined, listedWord]
  have prefixes : ∀ word ∈ inlineWords,
      ¬ upper word.toList <+: "String".toList ∧
      ¬ Initialisms.titleCase word.toList <+: "String".toList := by
    decide
  exact name_userDefined_grouped_ne isWord (localName_grouped isWord noGroup)
    (by decide) (prefixes word inline).1 (prefixes word inline).2 _ _ _ _

/-- The types of MySQL in the schema of a shop. -/
def shopType (native : String) (nullable : Bool) : TargetType :=
  (Adapter.builtin .mysql).resolve (Options.standard.typeContext "shop") native
    nullable

/-- An enumeration with a parenthesis and a quote in its labels. -/
def sizes : String := inlineType "enum" ["small (s)", "men's"]

theorem resolve_inlineType_sizes :
    "enum" ∈ inlineWords ∧ '(' ∉ "shop".toList ∧
      sizes = "enum('small (s)','men''s')" ∧
      shopType sizes true = ⟨"Option<EnumSmallSMenS>", "None", none, none⟩ ∧
      shopType "enum" true = ⟨"Option<String>", "None", none, none⟩ ∧
      (shopType sizes true).name ≠ (shopType "enum" true).name := by
  have inline : "enum" ∈ inlineWords := by decide
  have noGroup : '(' ∉ "shop".toList := by decide
  obtain ⟨userDefined, listedWord, different⟩ := resolve_inlineType
    (Options.standard.typeContext "shop") inline "small (s)" ["men's"] true
  refine ⟨inline, noGroup, by decide +kernel, ?_, listedWord, different noGroup⟩
  rw [shopType, sizes, userDefined]
  decide +kernel

/-- The permissions of a file are a set, but their type is no string. -/
theorem misses_permissions :
    inlineType "set" ["read", "write"] = "set('read','write')" ∧
      shopType "set" false = ⟨"String", "String::new()", none, none⟩ ∧
      shopType (inlineType "set" ["read", "write"]) false =
        ⟨"SetReadWrite", "SetReadWrite::default()", none, none⟩ := by
  decide +kernel

end SchemaAtlas.Vocabulary
