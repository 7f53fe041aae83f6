import SchemaAtlas.Proofs.Naming.Peeking
import SchemaAtlas.Proofs.Naming.SnakeNames

/-!
# From snake case to camel case and back

The camel case form of a name drops the marks between its words.  The scan for
the snake case form finds them again, word by word: behind each word it stands
at a border, where the next capital begins a new word and an initialism may be
read as one.
-/

namespace SchemaAtlas.Initialisms

open Text Identifier

variable {set : Initialisms} {word text : List Char}
  {words : List (List Char)} {preceding : Preceding}

def camelText (set : Initialisms) (words : List (List Char)) : List Char :=
  words.flatMap set.camelWord

/-- A word can be told from the words behind it in their camel case form: an
initialism has no digits, and no longer one begins where it does; another word
has a small character behind the capital unless it is the last. -/
structure LegibleAt (set : Initialisms) (word : List Char)
    (rest : List (List Char)) : Prop where
  isWord : IsWord word
  letters : set.holds word = true → ∀ c ∈ word, c.isAlpha = true
  long : set.holds word = false → rest ≠ [] → 2 ≤ word.length
  longest : set.holds word = true → ∀ entry ∈ set.entries,
    word.length < entry.length → ¬ entry <+: set.camelText (word :: rest)

/-- Words that can be told apart in their camel case form. -/
inductive Legible (set : Initialisms) : List (List Char) → Prop where
  | nil : Legible set []
  | cons {word : List Char} {rest : List (List Char)}
      (here : set.LegibleAt word rest) (later : Legible set rest) :
      Legible set (word :: rest)

instance (set : Initialisms) (word : List Char) (rest : List (List Char)) :
    Decidable (set.LegibleAt word rest) :=
  decidable_of_iff
    (IsWord word ∧ (set.holds word = true → word.all Char.isAlpha = true) ∧
      (set.holds word = false → rest ≠ [] → 2 ≤ word.length) ∧
      (set.holds word = true → ∀ entry ∈ set.entries,
        word.length < entry.length → ¬ entry <+: set.camelText (word :: rest)))
    ⟨fun ⟨isWord, letters, long, longest⟩ =>
        ⟨isWord, fun held => List.all_eq_true.mp (letters held), long, longest⟩,
      fun ⟨isWord, letters, long, longest⟩ =>
        ⟨isWord, fun held => List.all_eq_true.mpr (letters held), long,
          longest⟩⟩

instance decidableLegible (set : Initialisms) :
    (words : List (List Char)) → Decidable (set.Legible words)
  | [] => isTrue .nil
  | word :: rest =>
    have := decidableLegible set rest
    decidable_of_iff (set.LegibleAt word rest ∧ set.Legible rest)
      ⟨fun ⟨here, later⟩ => .cons here later,
        fun | .cons here later => ⟨here, later⟩⟩

theorem Legible.areWords (legible : set.Legible words) :
    ∀ word ∈ words, IsWord word := by
  induction legible with
  | nil => simp
  | cons here _ ih => exact List.forall_mem_cons.mpr ⟨here.isWord, ih⟩

/-! ## The camel case form of a name -/

theorem camelWord_of_holds (held : set.holds word = true) :
    set.camelWord word = upper word :=
  if_pos held

theorem camelWord_of_not_holds (missed : set.holds word = false) :
    set.camelWord word = titleCase word :=
  if_neg (ne_true_of_eq_false missed)

theorem upper_of_small (small : ∀ c ∈ text, isSmall c = true) :
    upper text = text.map Char.toUpper := by
  induction text with
  | nil => rfl
  | cons c rest ih =>
      obtain ⟨first, later⟩ := List.forall_mem_cons.mp small
      rw [upper_cons, upperChar_of_ascii (isAscii_of_isSmall first), ih later]
      rfl

/-- In title case only the first letter of a word changes. -/
theorem titleCase_of_small {first : Char} {rest : List Char}
    (small : ∀ c ∈ first :: rest, isSmall c = true) :
    titleCase (first :: rest) = first.toUpper :: rest := by
  obtain ⟨head, tail⟩ := List.forall_mem_cons.mp small
  have kept : rest.flatMap lowerChar = rest :=
    (List.flatMap_congr fun c membership =>
      of_isSmall (fun c => lowerChar c = [c]) (by decide)
        (tail c membership)).trans (List.flatMap_singleton' rest)
  rw [titleCase, upperChar_of_ascii (isAscii_of_isSmall head), kept]
  rfl

theorem map_toLower_camelWord (isWord : IsWord word) :
    (set.camelWord word).map Char.toLower = word := by
  have lowered {text : List Char} (small : ∀ c ∈ text, isSmall c = true) :
      text.map Char.toLower = text :=
    (List.map_congr_left fun c membership =>
      of_isSmall (fun c => c.toLower = c) (by decide)
        (small c membership)).trans (List.map_id _)
  have restored {c : Char} (small : isSmall c = true) :
      c.toUpper.toLower = c :=
    of_isSmall (fun c => c.toUpper.toLower = c) (by decide) small
  cases held : set.holds word with
  | true =>
      rw [camelWord_of_holds held, upper_of_small isWord.small, List.map_map]
      exact (List.map_congr_left fun c membership =>
        restored (isWord.small c membership)).trans (List.map_id _)
  | false =>
      obtain ⟨first, rest, rfl, _⟩ := isWord.exists_cons
      obtain ⟨head, tail⟩ := List.forall_mem_cons.mp isWord.small
      rw [camelWord_of_not_holds held, titleCase_of_small isWord.small,
        List.map_cons, restored head, lowered tail]

private theorem isAscii_of_mem_camelWord (isWord : IsWord word) {c : Char}
    (membership : c ∈ set.camelWord word) : isAscii c = true := by
  have kept {c : Char} (small : isSmall c = true) :
      isAscii c.toUpper = true :=
    of_isSmall (fun c => isAscii c.toUpper = true) (by decide) small
  cases held : set.holds word with
  | true =>
      rw [camelWord_of_holds held, upper_of_small isWord.small] at membership
      obtain ⟨source, inWord, rfl⟩ := List.mem_map.mp membership
      exact kept (isWord.small source inWord)
  | false =>
      obtain ⟨first, rest, rfl, _⟩ := isWord.exists_cons
      obtain ⟨head, tail⟩ := List.forall_mem_cons.mp isWord.small
      rw [camelWord_of_not_holds held, titleCase_of_small isWord.small]
        at membership
      rcases List.mem_cons.mp membership with rfl | later
      · exact kept head
      · exact isAscii_of_isSmall (tail c later)

theorem camelChars_joinWords (areWords : ∀ word ∈ words, IsWord word) :
    set.camelChars (joinWords words) = set.camelText words := by
  rw [camelChars, cleanChars_joinWords areWords, parts_joinWords areWords]
  rfl

/-! ## The scan of a camel case form -/

/-- A place behind which an initialism may begin, and behind which every capital
does or does not begin a new word. -/
structure Preceding.Borders (preceding : Preceding) (marks : Bool) : Prop where
  allows : preceding.allowsInitialism = true
  separates : ∀ c : Char, c.isUpper = true → preceding.separates c = marks

namespace Preceding

theorem separates_letter (c next : Char) : (letter c).separates next =
    ((letter c).isLowerOrNumber && isUppercase next) := rfl

theorem nothing_borders : nothing.Borders false where
  allows := rfl
  separates _ _ := rfl

theorem initialism_borders : initialism.Borders true where
  allows := rfl
  separates _ upper := isAlphabetic_of_isUpper upper

theorem letter_borders {c : Char} (small : isSmall c = true) :
    (letter c).Borders true where
  allows := of_isSmall (fun c => (letter c).allowsInitialism = true)
    (by decide) small
  separates d upper := by
    have ends : (letter c).isLowerOrNumber = true :=
      of_isSmall (fun c => (letter c).isLowerOrNumber = true) (by decide) small
    rw [separates_letter, ends, isUppercase_of_isUpper upper, Bool.and_self]

end Preceding

theorem separateFrom_small {small : List Char}
    (areSmall : ∀ c ∈ small, isSmall c = true) (before : Char) :
    set.separateFrom (.letter before) (small ++ text) =
      small ++ set.separateFrom (.letter (small.getLastD before)) text := by
  induction small generalizing before with
  | nil => rfl
  | cons c rest ih =>
      obtain ⟨first, later⟩ := List.forall_mem_cons.mp areSmall
      have joined : (Preceding.letter before).separates c = false := by
        rw [Preceding.separates_letter, isUppercase_of_isSmall first,
          Bool.and_false]
      rw [List.cons_append, separateFrom, joined,
        unitAfter?_of_not_isUppercase (isUppercase_of_isSmall first),
        List.getLastD_cons, ih later]
      rfl

/-- An initialism is read as one unit at a border. -/
theorem separateFrom_initialism {marks : Bool}
    (borders : preceding.Borders marks) (built : set.Built)
    (isWord : IsWord word) (held : set.holds word = true)
    (letters : ∀ c ∈ word, c.isAlpha = true)
    (longest : ∀ entry ∈ set.entries, word.length < entry.length →
      ¬ entry <+: upper word ++ text) :
    set.separateFrom preceding (upper word ++ text) =
      (if marks then [separator] else []) ++
        (upper word ++ set.separateFrom .initialism text) := by
  have registered := List.contains_iff_mem.mp held
  have shape := upper_of_small isWord.small
  have capitals : ∀ c ∈ upper word, c.isUpper = true := by
    intro c membership
    rw [shape] at membership
    obtain ⟨source, inWord, rfl⟩ := List.mem_map.mp membership
    exact of_isSmall (fun c => c.isAlpha = true → c.toUpper.isUpper = true)
      (by decide) (isWord.small source inWord) (letters source inWord)
  have found : set.unitAfter? preceding (upper word ++ text) =
      some (upper word) := by
    rw [unitAfter?, if_pos borders.allows]
    apply peek?_eq_some registered (built.two_le_length _ registered)
    · exact fun c membership => isUppercase_of_isUpper (capitals c membership)
    · exact List.prefix_append _ _
    · rwa [shape, List.length_map, ← shape]
  cases spelled : upper word with
  | nil =>
      rw [shape, List.map_eq_nil_iff] at spelled
      exact absurd spelled isWord.ne_nil
  | cons first rest =>
      rw [spelled] at capitals
      rw [spelled, List.cons_append] at found
      rw [List.cons_append, separateFrom,
        borders.separates first (capitals first List.mem_cons_self), found]
      simp only [List.length_cons, Nat.add_sub_cancel, List.drop_left]

theorem isSmall_getLastD {small : List Char}
    (areSmall : ∀ c ∈ small, isSmall c = true) (filled : small ≠ [])
    (before : Char) : isSmall (small.getLastD before) = true := by
  cases small with
  | nil => exact absurd rfl filled
  | cons c rest =>
      rw [List.getLastD_cons]
      exact areSmall _ List.getLastD_mem_cons

/-- Another word is copied at a border, where it has to begin with the only
capital of a run. -/
theorem separateFrom_title {marks : Bool} {first : Char} {rest : List Char}
    (borders : preceding.Borders marks) (lower : first.isLower = true)
    (small : ∀ c ∈ rest, isSmall c = true)
    (long : text ≠ [] → rest ≠ []) :
    set.separateFrom preceding (first.toUpper :: rest ++ text) =
      (if marks then [separator] else []) ++
        (first.toUpper :: rest ++
          set.separateFrom (.letter (rest.getLastD first.toUpper)) text) := by
  have capital : first.toUpper.isUpper = true :=
    of_isSmall (fun c => c.isLower = true → c.toUpper.isUpper = true)
      (by decide) (Bool.or_eq_true_iff.mpr (Or.inl lower)) lower
  have alone : set.unitAfter? preceding (first.toUpper :: (rest ++ text)) =
      none := by
    have found : set.peek? (first.toUpper :: (rest ++ text)) = none := by
      apply peek?_eq_none
      -- The run of capitals ends at the second character, if there is one.
      cases rest with
      | nil =>
          have isLast : text = [] := by
            by_contra filled
            exact long filled rfl
          simp [isLast, isUppercase_of_isUpper capital]
      | cons c rest =>
          have second := isUppercase_of_isSmall (small c List.mem_cons_self)
          simp [isUppercase_of_isUpper capital, second]
    rw [unitAfter?, found, ite_self]
  rw [List.cons_append, separateFrom, borders.separates _ capital, alone]
  simp only [separateFrom_small small, List.cons_append]

/-- A word is scanned as it stands, with a mark before it where the scan stands
at a border between words; it then stands at one again. -/
theorem separateFrom_word {marks : Bool} {rest : List (List Char)}
    (built : set.Built) (here : set.LegibleAt word rest)
    (borders : preceding.Borders marks) :
    ∃ next : Preceding, (rest ≠ [] → next.Borders true) ∧
      set.separateFrom preceding (set.camelText (word :: rest)) =
        (if marks then [separator] else []) ++
          (set.camelWord word ++ set.separateFrom
            next (set.camelText rest)) := by
  rw [camelText, List.flatMap_cons]
  cases held : set.holds word with
  | true =>
      refine ⟨.initialism, fun _ => Preceding.initialism_borders, ?_⟩
      have longest := here.longest held
      rw [camelText, List.flatMap_cons, camelWord_of_holds held] at longest
      rw [camelWord_of_holds held]
      exact separateFrom_initialism borders built here.isWord held
        (here.letters held) longest
  | false =>
      obtain ⟨first, tail, rfl, lower⟩ := here.isWord.exists_cons
      obtain ⟨_, small⟩ := List.forall_mem_cons.mp here.isWord.small
      have longer : rest ≠ [] → tail ≠ [] := by
        rintro filled rfl
        exact absurd (here.long held filled) (by simp)
      rw [camelWord_of_not_holds held, titleCase_of_small here.isWord.small]
      refine ⟨_, fun filled => ?_, separateFrom_title borders lower small ?_⟩
      · exact Preceding.letter_borders
          (isSmall_getLastD small (longer filled) _)
      · intro filled
        apply longer
        rintro rfl
        exact filled rfl

/-- Behind a border the scan marks each word. -/
theorem separateFrom_camelText (built : set.Built)
    (legible : set.Legible words) (borders : preceding.Borders true) :
    set.separateFrom preceding (set.camelText words) =
      words.flatMap fun word => separator :: set.camelWord word := by
  -- Each word leaves the scan at a border, so the place behind it may vary.
  induction legible generalizing preceding with
  | nil => rw [camelText, List.flatMap_nil, separateFrom, List.flatMap_nil]
  | @cons word rest here _ ih =>
      obtain ⟨next, atBorder, scanned⟩ := separateFrom_word built here borders
      rw [scanned, List.flatMap_cons]
      rcases eq_or_ne rest [] with rfl | filled
      · simp [camelText, separateFrom]
      · rw [ih (atBorder filled)]
        rfl

/-- From its beginning on the scan marks the words off from each other. -/
theorem separateFrom_nothing (built : set.Built)
    (legible : set.Legible words) :
    set.separateFrom .nothing (set.camelText words) =
      joinWords (words.map set.camelWord) := by
  cases legible with
  | nil => rw [camelText, List.flatMap_nil, separateFrom]; rfl
  | @cons word rest here later =>
      obtain ⟨next, atBorder, scanned⟩ :=
        separateFrom_word built here Preceding.nothing_borders
      rw [scanned, List.map_cons, joinWords_cons, List.flatMap_map]
      rcases eq_or_ne rest [] with rfl | filled
      · simp [camelText, separateFrom]
      · rw [separateFrom_camelText built later (atBorder filled)]
        rfl

theorem snakeChars_camelText (built : set.Built) (legible : set.Legible words) :
    set.snakeChars (set.camelText words) = joinWords words := by
  have ascii : ∀ c ∈ joinWords (words.map set.camelWord), isAscii c = true := by
    intro c membership
    rcases mem_joinWords membership with rfl | ⟨camel, isIn, inCamel⟩
    · decide
    · obtain ⟨word, inWords, rfl⟩ := List.mem_map.mp isIn
      exact isAscii_of_mem_camelWord (legible.areWords word inWords) inCamel
  have lowered : (words.map set.camelWord).map (·.map Char.toLower) =
      words := by
    rw [List.map_map]
    exact (List.map_congr_left fun word inWords =>
      map_toLower_camelWord (legible.areWords word inWords)).trans
      (List.map_id _)
  rw [snakeChars, separateFrom_nothing built legible, lower_of_ascii ascii,
    map_joinWords Char.toLower (by decide), lowered,
    collapse_joinWords legible.areWords]

/-- A name in snake case comes back from its camel case form if its words can be
told apart there, and that form is left as it is when it is put into camel case
once more. -/
theorem snake_camel (built : set.Built) (legible : set.Legible words)
    {name : String} (spelled : name.toList = joinWords words) :
    set.snake (set.camel name) = name ∧
      set.recamel (set.camel name) = set.camel name := by
  have restored : set.snake (set.camel name) = name := by
    rw [snake, camel, String.toList_ofList, spelled,
      camelChars_joinWords legible.areWords,
      snakeChars_camelText built legible, ← spelled, String.ofList_toList]
  exact ⟨restored, by rw [recamel, restored]⟩

/-- The common initialisms together with one more. -/
def withSku : Initialisms :=
  common.insert "sku".toList

/-- In `UserIDAPIURLSKUV2X` four initialisms stand side by side. -/
theorem snake_camel_withSku :
    withSku.camel "user_id_api_url_sku_v2_x" = "UserIDAPIURLSKUV2X" ∧
      withSku.snake "UserIDAPIURLSKUV2X" = "user_id_api_url_sku_v2_x" ∧
      withSku.recamel "UserIDAPIURLSKUV2X" = "UserIDAPIURLSKUV2X" := by
  have added : common.add "sku" = .ok withSku := rfl
  have legible : withSku.Legible
      (["user", "id", "api", "url", "sku", "v2", "x"].map String.toList) := by
    decide
  have spelled : "user_id_api_url_sku_v2_x".toList = joinWords
      (["user", "id", "api", "url", "sku", "v2", "x"].map String.toList) := by
    decide
  have camelCase : withSku.camel "user_id_api_url_sku_v2_x" =
      "UserIDAPIURLSKUV2X" := by
    decide
  obtain ⟨restored, kept⟩ := snake_camel (.add .common added) legible spelled
  rw [camelCase] at restored kept
  exact ⟨camelCase, restored, kept⟩

end SchemaAtlas.Initialisms
