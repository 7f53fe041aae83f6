import SchemaAtlas.Proofs.Text.Keywords
import SchemaAtlas.Proofs.Typing.CaseFolding
import SchemaAtlas.Proofs.Typing.Families

/-!
# Column affinities

The affinity of a column in SQLite is found by looking for keywords in the
declared type as it stands.  The vocabulary looks for them in what is left of it
after trimming, without its size and in lowercase.  A size has no letters and
leaves a gap behind, so both searches find the same keywords.
-/

namespace SchemaAtlas

open Text

namespace Extent

theorem isLower_of_mem_isPart {text : List Char} {value : Nat}
    (isPart : IsPart text value) : ∀ c ∈ text, c.isLower = false := by
  intro c membership
  rcases isPart.mem c membership with blank | digit | rfl
  · exact isLower_of_isBlank blank
  · exact isLower_of_isDigit digit
  · rfl

private theorem isLower_of_mem_isSize {text : List Char} {extent : Extent}
    (isSize : IsSize text extent) : ∀ c ∈ text, c.isLower = false := by
  cases isSize with
  | one isPrecision => exact isLower_of_mem_isPart isPrecision
  | two isPrecision isScale =>
      intro c membership
      rcases List.mem_append.mp membership with inFirst | behind
      · exact isLower_of_mem_isPart isPrecision c inFirst
      · rcases List.mem_cons.mp behind with rfl | inSecond
        · decide
        · exact isLower_of_mem_isPart isScale c inSecond

end Extent

/-- Taking the size out of a text neither removes a keyword nor makes one. -/
theorem Descriptor.infix_splitExtent_iff {word : List Char}
    (keyword : IsKeyword word)
    (text : List Char) : word <:+: (splitExtent text).1 ↔ word <:+: text := by
  have takesOut := takesOut_splitExtent text
  generalize splitExtent text = result at takesOut
  cases takesOut with
  | @size head inner tail extent first closed isSize =>
      -- The group is a gap between the head and the tail, as the blank is.
      have group : ∀ c ∈ inner ++ [')'], c ∉ word := by
        intro c membership
        apply keyword.not_mem
        rcases List.mem_append.mp membership with within | closing
        · exact Extent.isLower_of_mem_isSize isSize c within
        · rw [List.mem_singleton.mp closing]
          decide
      have before : word <:+: head ++ '(' :: inner ++ ')' :: tail ↔
          word <:+: head ∨ word <:+: tail := by
        have opening : '(' ∉ word := keyword.not_mem (by decide)
        have behind : word <:+: (inner ++ [')']) ++ tail ↔ word <:+: tail :=
          infix_gap_append_iff group
        rw [← behind, ← infix_append_cons_iff opening]
        simp
      rw [before]
      split
      case isTrue empty =>
        have noTail : word <:+: tail ↔ word = [] := by
          rw [← keyword.infix_trimStart_iff, empty, List.infix_nil]
        rw [List.append_nil, keyword.infix_trimEnd_iff, noTail]
        constructor
        · exact .inl
        · rintro (inHead | rfl)
          · exact inHead
          · exact List.nil_infix
      case isFalse =>
        have lacks : ' ' ∉ word := keyword.not_mem (by decide)
        rw [infix_append_cons_iff lacks, keyword.infix_trimEnd_iff,
          keyword.infix_trimStart_iff]
  | noSize => rfl
  | unclosed => rfl
  | unopened => rfl

namespace Vocabulary

/-- The name that a declared type is looked up by: trimmed, without its size and
in lowercase. -/
def lookupName (declared : List Char) : String :=
  String.ofList (lower (Descriptor.splitExtent (trim declared)).1)

theorem infix_lookupName_iff {declared word : List Char}
    (keyword : IsKeyword word) :
    word <:+: (lookupName declared).toList ↔ word <:+: fold declared := by
  have taken := congrArg Prod.fst (Descriptor.splitExtent_fold (trim declared))
  dsimp only at taken
  rw [lookupName, String.toList_ofList, keyword.infix_lower_iff, ← taken,
    Descriptor.infix_splitExtent_iff keyword, ← trim_fold,
    keyword.infix_trim_iff]

def MentionsAny (declared : List Char) (keywords : List String) : Prop :=
  ∃ keyword ∈ keywords, Mentions declared keyword.toList

instance decidableMentionsAny (declared : List Char) (keywords : List String) :
    Decidable (MentionsAny declared keywords) :=
  inferInstanceAs (Decidable (∃ keyword ∈ keywords, _))

/-- The search for lowercase keywords in the name is that for the keywords in
the declared type. -/
theorem any_occursIn_lookupName (declared : List Char)
    {keywords written : List String}
    (same : List.Forall₂ (fun keyword written => IsKeyword keyword.toList ∧
      fold written.toList = keyword.toList) keywords written) :
    (keywords.any fun keyword =>
        occursIn keyword.toList (lookupName declared).toList) =
      decide (MentionsAny declared written) := by
  induction same with
  | nil => rfl
  | @cons keyword spelled keywords written first others ih =>
      rw [Bool.eq_iff_iff, decide_eq_true_iff] at ih ⊢
      have here : occursIn keyword.toList (lookupName declared).toList = true ↔
          Mentions declared spelled.toList := by
        rw [occursIn_iff, infix_lookupName_iff first.1, mentions_iff, first.2]
      rw [List.any_cons, Bool.or_eq_true, here, ih]
      simp [MentionsAny]

/-- The target type that the affinity of a column demands, by the keywords that
its declared type mentions.  The first rule that applies decides. -/
def affinityType? (declared : List Char) : Option Spelling :=
  if MentionsAny declared ["INT"] then some ⟨"i64", "0"⟩
  else if MentionsAny declared ["CHAR", "CLOB", "TEXT"] then
    some ⟨"String", "String::new()"⟩
  else if MentionsAny declared ["BLOB"] then some ⟨"Vec<u8>", "Vec::new()"⟩
  else if MentionsAny declared ["REAL", "FLOA", "DOUB"] then some ⟨"f64", "0.0"⟩
  else none

theorem affinity?_lookupName (declared : List Char) :
    (affinity? (lookupName declared)).map (fun mapping => mapping.standard) =
      affinityType? declared := by
  have whole := any_occursIn_lookupName declared
    (show List.Forall₂ _ ["int"] ["INT"] by decide)
  have texts := any_occursIn_lookupName declared
    (show List.Forall₂ _ ["char", "clob", "text"] ["CHAR", "CLOB", "TEXT"] by
      decide)
  have bytes := any_occursIn_lookupName declared
    (show List.Forall₂ _ ["blob"] ["BLOB"] by decide)
  have reals := any_occursIn_lookupName declared
    (show List.Forall₂ _ ["real", "floa", "doub"] ["REAL", "FLOA", "DOUB"] by
      decide)
  simp only [affinity?, sqliteAffinities, List.find?_cons, whole, texts, bytes,
    reals, List.find?_nil, affinityType?]
  by_cases isWhole : MentionsAny declared ["INT"]
  · simp [isWhole, NativeMapping.plain]
  by_cases isText : MentionsAny declared ["CHAR", "CLOB", "TEXT"]
  · simp [isWhole, isText, NativeMapping.plain]
  by_cases isBytes : MentionsAny declared ["BLOB"]
  · simp [isWhole, isText, isBytes, NativeMapping.plain]
  by_cases isReal : MentionsAny declared ["REAL", "FLOA", "DOUB"]
  · simp [isWhole, isText, isBytes, isReal, NativeMapping.plain]
  · simp [isWhole, isText, isBytes, isReal]

/-- The name of a type is one of those that are looked up before its
affinity. -/
def IsListedName (name : String) : Prop :=
  ∃ entry ∈ sqliteTable, name ∈ entry.1

instance decidableIsListedName (name : String) :
    Decidable (IsListedName name) :=
  inferInstanceAs (Decidable (∃ entry ∈ sqliteTable, _))

/-- Unless its name is listed, a scalar type has the target type that the
affinity of its column demands. -/
theorem resolve_of_affinityType? (context : TypeContext) {declared : String}
    (scalar : Descriptor.IsScalar declared.toList)
    (unlisted : ¬ IsListedName (lookupName declared.toList))
    {spelling : Spelling}
    (affinity : affinityType? declared.toList = some spelling) :
    (Adapter.builtin .sqlite).resolve { context with presentation := .standard }
        declared false =
      spelling.withExtent
        (Descriptor.splitExtent (trim declared.toList)).2 := by
  rw [← affinity?_lookupName, Option.map_eq_some_iff] at affinity
  obtain ⟨mapping, isFirst, rfl⟩ := affinity
  have notExact : TypeTable.find? sqliteTable (lookupName declared.toList) =
      none := by
    rw [TypeTable.find?_eq_none_iff]
    intro entry inTable isListed
    exact unlisted ⟨entry, inTable, isListed⟩
  have known : sqlite { context with presentation := .standard }
      (Descriptor.splitExtent (trim declared.toList)).2
        (lookupName declared.toList) =
        some mapping := by
    rw [sqlite, notExact, isFirst]
    rfl
  rw [resolve_builtin, resolve,
    resolveChars_of_knows (builtin .sqlite) _ scalar known]
  rfl

/-- A size between two keywords, the second of which decides. -/
theorem resolve_characterPoint :
    (Adapter.builtin .sqlite).resolve (Options.standard.typeContext "main")
        " NATIVE Character(70, 2) pOINT " false =
      ⟨"i64", "0", some 70, some 2⟩ := by
  have scalar : Descriptor.IsScalar " NATIVE Character(70, 2) pOINT ".toList :=
    ⟨by decide, by decide⟩
  have unlisted :
      ¬ IsListedName (lookupName " NATIVE Character(70, 2) pOINT ".toList) := by
    decide +kernel
  have affinity : affinityType? " NATIVE Character(70, 2) pOINT ".toList =
      some ⟨"i64", "0"⟩ := by
    decide +kernel
  exact resolve_of_affinityType? (Options.standard.typeContext "main")
    scalar unlisted
    affinity

end Vocabulary

end SchemaAtlas
