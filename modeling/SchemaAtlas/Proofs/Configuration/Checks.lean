import SchemaAtlas.Configuration
import SchemaAtlas.Proofs.Naming.Registering

/-!
# Checks of a configuration

A configuration is checked while it is loaded and converted afterwards, and each
of the two reads its words on its own.  They accept the same configurations:
those in which every word is good.  Otherwise the first bad word, in the order
of the checks, is the error.
-/

namespace SchemaAtlas

open Text

/-! ## Words in tables -/

/-- Some engine goes by the name, in whatever ASCII case it is written. -/
def NamesEngine (name : String) : Prop :=
  ∃ engine : Engine, ∃ known ∈ engine.aliases,
    equalIgnoringAsciiCase known.toList name.toList = true

/-- Some line of a table of words lists the word, in whatever ASCII case it is
written. -/
def ListsWord {α : Type} (table : List (List String × α)) (word : String) :
    Prop :=
  ∃ line ∈ table, ∃ known ∈ line.1,
    equalIgnoringAsciiCase known.toList word.toList = true

instance decidableListsWord {α : Type} (table : List (List String × α))
    (word : String) : Decidable (ListsWord table word) :=
  inferInstanceAs (Decidable (∃ line ∈ table, ∃ known ∈ line.1, _ = _))

/-- A reading of the words for a setting looks them up in a table. -/
structure ReadsWords {α : Type} (setting : Setting)
    (table : List (List String × α))
    (read : String → Except UnknownWord α) : Prop where
  listed : ∀ word value, wordValue? table word = some value →
    read word = .ok value
  unlisted : ∀ word, wordValue? table word = none →
    read word = .error ⟨setting, word⟩

theorem Presentation.readsWords :
    ReadsWords .presentation Presentation.words Presentation.read where
  listed word value found := by rw [read, ofWord?, found]
  unlisted word missing := by rw [read, ofWord?, missing]

theorem AccessorNaming.readsWords :
    ReadsWords .accessorNaming AccessorNaming.words AccessorNaming.read where
  listed word value found := by rw [read, ofWord?, found]
  unlisted word missing := by rw [read, ofWord?, missing]

theorem isSome_ofAlias?_iff {name : String} :
    (Engine.ofAlias? name).isSome = true ↔ NamesEngine name := by
  rw [Engine.ofAlias?, List.find?_isSome]
  simp only [List.any_eq_true, Engine.mem_all, true_and, NamesEngine]

instance decidableNamesEngine (name : String) : Decidable (NamesEngine name) :=
  decidable_of_iff _ isSome_ofAlias?_iff

theorem isSome_wordValue?_iff {α : Type} {table : List (List String × α)}
    {word : String} :
    (wordValue? table word).isSome = true ↔ ListsWord table word := by
  rw [wordValue?, Option.isSome_map, List.find?_isSome]
  simp only [List.any_eq_true, ListsWord]

/-- A word for a setting is listed if there is one, or there is one that is
not. -/
theorem listed_or_exists_unlisted {α : Type} (table : List (List String × α))
    (word : Option String) : (∀ given ∈ word, ListsWord table given) ∨
      ∃ given, word = some given ∧ ¬ ListsWord table given := by
  cases word with
  | none => exact .inl nofun
  | some given =>
      by_cases listed : ListsWord table given
      · exact .inl fun _ same => Option.some.inj same ▸ listed
      · exact .inr ⟨given, rfl, listed⟩

namespace Initialisms

/-- Words are all long enough, or one of them is the first that is too short. -/
theorem isLong_or_exists_short (words : List String) :
    (∀ word ∈ words, isLong word = true) ∨
      ∃ front word behind, words = front ++ word :: behind ∧
        (∀ earlier ∈ front, isLong earlier = true) ∧ isLong word = false := by
  cases first : words.find? fun word => !isLong word with
  | none => exact .inl (by simpa using first)
  | some word =>
      obtain ⟨short, front, behind, given, long⟩ :=
        List.find?_eq_some_iff_append.mp first
      exact .inr ⟨front, word, behind,
        given, by simpa using long, by simpa using short⟩

private theorem addEach_append_of_short {set : Initialisms}
    {front behind : List String}
    {word : String} (long : ∀ earlier ∈ front, isLong earlier = true)
    (short : isLong word = false) :
    (set.addEach (front ++ word :: behind)).2 =
    .error (.invalidInitialism word) := by
  induction front generalizing set with
  | nil => rw [List.nil_append, addEach, add_of_not_isLong short]
  | cons earlier front ih =>
      obtain ⟨first, later⟩ := List.forall_mem_cons.mp long
      rw [List.cons_append, addEach, add_of_isLong first]
      exact ih later

end Initialisms

namespace Configuration

section Settings

variable {α : Type} {setting : Setting} {table : List (List String × α)}
  {read : String → Except UnknownWord α}

private theorem exists_wordOr_of_listed (reads : ReadsWords setting table read)
    (standard : α)
    {word : Option String} (listed : ∀ given ∈ word, ListsWord table given) :
    ∃ value, wordOr standard read word = .ok value := by
  cases word with
  | none => exact ⟨standard, rfl⟩
  | some given =>
      obtain ⟨value, found⟩ :=
        Option.isSome_iff_exists.mp
          (isSome_wordValue?_iff.mpr (listed given rfl))
      refine ⟨value, ?_⟩
      rw [wordOr, reads.listed given value found]
      rfl

theorem wordOr_of_unlisted (reads : ReadsWords setting table read)
    (standard : α) {given : String} (unlisted : ¬ ListsWord table given) :
    wordOr standard read (some given) =
      .error (.unknownWord ⟨setting, given⟩) := by
  rw [← isSome_wordValue?_iff, Option.not_isSome_iff_eq_none] at unlisted
  rw [wordOr, reads.unlisted given unlisted]
  rfl

end Settings

/-! ## Good and bad words -/

/-- Every word of a configuration is good. -/
structure IsGood (configuration : Configuration) : Prop where
  engine : NamesEngine configuration.engineName
  presentation : ∀ word ∈ configuration.presentationWord,
    ListsWord Presentation.words word
  accessorNaming : ∀ word ∈ configuration.accessorNamingWord,
    ListsWord AccessorNaming.words word
  initialisms : ∀ word ∈ configuration.initialisms,
    Initialisms.isLong word = true

/-- The error about the first bad word of a configuration: the name of the
engine, the word for the family of target types, the word for the rule that
names accessors, and the initialisms in their order are looked at one after the
other. -/
inductive FirstFault (configuration : Configuration) : Error → Prop where
  | engine (unnamed : ¬ NamesEngine configuration.engineName) :
      FirstFault configuration (.unknownEngine configuration.engineName)
  | presentation {word : String} (engine : NamesEngine configuration.engineName)
      (given : configuration.presentationWord = some word)
      (unlisted : ¬ ListsWord Presentation.words word) :
      FirstFault configuration (.unknownWord ⟨.presentation, word⟩)
  | accessorNaming {word : String}
    (engine : NamesEngine configuration.engineName)
      (presentation : ∀ word ∈ configuration.presentationWord,
        ListsWord Presentation.words word)
      (given : configuration.accessorNamingWord = some word)
      (unlisted : ¬ ListsWord AccessorNaming.words word) :
      FirstFault configuration (.unknownWord ⟨.accessorNaming, word⟩)
  | initialism {front behind : List String} {word : String}
      (engine : NamesEngine configuration.engineName)
      (presentation : ∀ word ∈ configuration.presentationWord,
        ListsWord Presentation.words word)
      (accessorNaming : ∀ word ∈ configuration.accessorNamingWord,
        ListsWord AccessorNaming.words word)
      (given : configuration.initialisms = front ++ word :: behind)
      (long : ∀ earlier ∈ front, Initialisms.isLong earlier = true)
      (short : Initialisms.isLong word = false) :
      FirstFault configuration (.invalidInitialism word)

variable {configuration : Configuration} {cause : Error}

theorem isGood_or_exists_firstFault (configuration : Configuration) :
    IsGood configuration ∨ ∃ cause, FirstFault configuration cause := by
  by_cases engine : NamesEngine configuration.engineName
  case neg => exact .inr ⟨_, .engine engine⟩
  rcases listed_or_exists_unlisted Presentation.words
    configuration.presentationWord with
    presentation | ⟨word, given, unlisted⟩
  case inr => exact .inr ⟨_, .presentation engine given unlisted⟩
  rcases listed_or_exists_unlisted AccessorNaming.words
    configuration.accessorNamingWord
    with accessorNaming | ⟨word, given, unlisted⟩
  case inr => exact .inr ⟨_, .accessorNaming engine presentation given unlisted⟩
  rcases Initialisms.isLong_or_exists_short configuration.initialisms with
    long | ⟨front, word, behind, given, long, short⟩
  · exact .inl ⟨engine, presentation, accessorNaming, long⟩
  · exact .inr
      ⟨_, .initialism engine presentation accessorNaming given long short⟩

/-! ## Readings -/

theorem exists_engine (named : NamesEngine configuration.engineName) :
    ∃ engine, configuration.engine = .ok engine := by
  obtain ⟨engine, found⟩ :=
    Option.isSome_iff_exists.mp (isSome_ofAlias?_iff.mpr named)
  exact ⟨engine, by rw [Configuration.engine, found]⟩

private theorem engine_of_not_namesEngine
    (unnamed : ¬ NamesEngine configuration.engineName) :
    configuration.engine =
      .error (.unknownEngine configuration.engineName) := by
  rw [← isSome_ofAlias?_iff, Option.not_isSome_iff_eq_none] at unnamed
  rw [Configuration.engine, unnamed]

theorem exists_presentation
    (listed : ∀ word ∈ configuration.presentationWord,
      ListsWord Presentation.words word) :
    ∃ value, configuration.presentation = .ok value :=
  exists_wordOr_of_listed Presentation.readsWords _ listed

theorem exists_accessorNaming
    (listed : ∀ word ∈ configuration.accessorNamingWord,
      ListsWord AccessorNaming.words word) :
    ∃ value, configuration.accessorNaming = .ok value :=
  exists_wordOr_of_listed AccessorNaming.readsWords _ listed

theorem initialismSet_of_isLong
    (long : ∀ word ∈ configuration.initialisms, Initialisms.isLong word =
      true) :
    configuration.initialismSet =
      .ok (Initialisms.common.addEach configuration.initialisms).1 := by
  rw [initialismSet, Initialisms.addAll, Initialisms.addEach_of_isLong long]

theorem initialismSet_of_short {front behind : List String} {word : String}
    (given : configuration.initialisms = front ++ word :: behind)
    (long : ∀ earlier ∈ front, Initialisms.isLong earlier = true)
    (short : Initialisms.isLong word = false) :
    configuration.initialismSet = .error (.invalidInitialism word) := by
  have failed : (Initialisms.common.addEach configuration.initialisms).2 =
      .error (.invalidInitialism word) := by
    rw [given]
    exact Initialisms.addEach_append_of_short long short
  rw [initialismSet, Initialisms.addAll]
  generalize Initialisms.common.addEach configuration.initialisms =
    added at failed
  obtain ⟨reached, outcome⟩ := added
  cases failed
  rfl

/-! ## Checks and conversion -/

theorem IsGood.validate (good : IsGood configuration) :
    configuration.validate = .ok () := by
  obtain ⟨engine, engineRead⟩ := exists_engine good.engine
  obtain ⟨presentation, presentationRead⟩ :=
    exists_presentation good.presentation
  obtain ⟨accessorNaming, accessorNamingRead⟩ :=
    exists_accessorNaming good.accessorNaming
  rw [Configuration.validate, engineRead, presentationRead, accessorNamingRead,
    initialismSet_of_isLong good.initialisms]
  rfl

theorem FirstFault.validate (fault : FirstFault configuration cause) :
    configuration.validate = .error cause := by
  rw [Configuration.validate]
  cases fault with
  | engine unnamed =>
      rw [engine_of_not_namesEngine unnamed]
      rfl
  | presentation named given unlisted =>
      obtain ⟨engine, engineRead⟩ := exists_engine named
      rw [engineRead, Configuration.presentation, given,
        wordOr_of_unlisted Presentation.readsWords _ unlisted]
      rfl
  | accessorNaming named presentable given unlisted =>
      obtain ⟨engine, engineRead⟩ := exists_engine named
      obtain ⟨presentation, presentationRead⟩ := exists_presentation presentable
      rw [engineRead, presentationRead, Configuration.accessorNaming, given,
        wordOr_of_unlisted AccessorNaming.readsWords _ unlisted]
      rfl
  | initialism named presentable nameable given long short =>
      obtain ⟨engine, engineRead⟩ := exists_engine named
      obtain ⟨presentation, presentationRead⟩ := exists_presentation presentable
      obtain ⟨accessorNaming, accessorNamingRead⟩ :=
        exists_accessorNaming nameable
      rw [engineRead, presentationRead, accessorNamingRead,
        initialismSet_of_short given long short]
      rfl

theorem validate_eq_error_iff :
    configuration.validate = .error cause ↔ FirstFault configuration cause := by
  refine ⟨fun failed => ?_, FirstFault.validate⟩
  rcases isGood_or_exists_firstFault configuration with good | ⟨other, fault⟩
  · rw [good.validate] at failed
    cases failed
  · rw [fault.validate] at failed
    cases failed
    exact fault

theorem validate_eq_ok_iff :
    configuration.validate = .ok () ↔ IsGood configuration := by
  refine ⟨fun passed => ?_, IsGood.validate⟩
  rcases isGood_or_exists_firstFault configuration with good | ⟨cause, fault⟩
  · exact good
  · rw [fault.validate] at passed
    cases passed

theorem exists_readings_of_options {options : Options}
    (converted : configuration.options = .ok options) :
    (∃ value, configuration.presentation = .ok value) ∧
      configuration.initialismSet = .ok options.initialisms ∧
      ∃ value, configuration.accessorNaming = .ok value := by
  rw [Configuration.options] at converted
  cases presentation : configuration.presentation with
  | error cause =>
      rw [presentation] at converted
      cases converted
  | ok family =>
      cases initialisms : configuration.initialismSet with
      | error cause =>
          rw [presentation, initialisms] at converted
          cases converted
      | ok set =>
          cases accessorNaming : configuration.accessorNaming with
          | error cause =>
              rw [presentation, initialisms, accessorNaming] at converted
              cases converted
          | ok rule =>
              rw [presentation, initialisms, accessorNaming] at converted
              cases converted
              exact ⟨⟨family, rfl⟩, rfl, rule, rfl⟩

/-- The values of a configuration can be converted. -/
def Converts (configuration : Configuration) : Prop :=
  (∃ engine, configuration.engine = .ok engine) ∧
    ∃ options, configuration.options = .ok options

theorem IsGood.converts (good : IsGood configuration) :
    Converts configuration := by
  obtain ⟨presentation, presentationRead⟩ :=
    exists_presentation good.presentation
  obtain ⟨accessorNaming, accessorNamingRead⟩ :=
    exists_accessorNaming good.accessorNaming
  refine ⟨exists_engine good.engine, ?_⟩
  rw [Configuration.options, presentationRead, accessorNamingRead,
    initialismSet_of_isLong good.initialisms]
  exact ⟨_, rfl⟩

private theorem FirstFault.not_converts
    (fault : FirstFault configuration cause) : ¬ Converts configuration := by
  rintro ⟨⟨engine, engineRead⟩, options, converted⟩
  obtain ⟨⟨family, presentation⟩, initialisms, rule, accessorNaming⟩ :=
    exists_readings_of_options converted
  cases fault with
  | engine unnamed =>
      rw [engine_of_not_namesEngine unnamed] at engineRead
      cases engineRead
  | presentation _ given unlisted =>
      rw [Configuration.presentation, given,
        wordOr_of_unlisted Presentation.readsWords _ unlisted] at presentation
      cases presentation
  | accessorNaming _ _ given unlisted =>
      rw [Configuration.accessorNaming, given,
        wordOr_of_unlisted AccessorNaming.readsWords _
          unlisted] at accessorNaming
      cases accessorNaming
  | initialism _ _ _ given long short =>
      rw [initialismSet_of_short given long short] at initialisms
      cases initialisms

theorem converts_iff : Converts configuration ↔ IsGood configuration := by
  refine ⟨fun converts => ?_, IsGood.converts⟩
  rcases isGood_or_exists_firstFault configuration with good | ⟨cause, fault⟩
  · exact good
  · exact (fault.not_converts converts).elim

end Configuration

end SchemaAtlas
