import SchemaAtlas.Proofs.Text.CaseFolding
import SchemaAtlas.Proofs.Text.Lowercasing

/-!
# Keywords in texts

A text mentions a keyword if it has a piece that is the keyword up to the case
of ASCII letters.  Where a text is taken apart at characters that no keyword
has, the keyword is in one of the parts.  Lowercasing a whole text adds no
mention and loses none, although it turns other letters into letters of the
ASCII range.
-/

namespace SchemaAtlas.Text

variable {word front gap rest text : List Char} {c : Char}

theorem occursIn_iff {piece : List Char} :
    occursIn piece text = true ↔ piece <:+: text := by
  induction text with
  | nil => simp [occursIn]
  | cons c rest ih =>
      rw [occursIn, Bool.or_eq_true, List.isPrefixOf_iff_prefix, ih,
        List.infix_cons_iff]

/-! ## Characters that a word lacks -/

/-- A word lies on one side of a character that it lacks. -/
theorem infix_append_cons_iff (lacks : c ∉ word) :
    word <:+: front ++ c :: rest ↔ word <:+: front ∨ word <:+: rest := by
  have notHere {piece : List Char} (within : piece ⊆ word)
      (isPrefix : piece <+: c :: rest) : piece = [] := by
    rcases List.prefix_cons_iff.mp isPrefix with isNil | ⟨later, rfl, _⟩
    · exact isNil
    · exact absurd (within List.mem_cons_self) lacks
  constructor
  · intro isInfix
    rcases List.infix_append_iff.mp isInfix with
      before | behind | ⟨first, second, rfl, ends, starts⟩
    · exact .inl before
    · rcases List.infix_cons_iff.mp behind with here | later
      · rw [notHere (List.Subset.refl word) here]
        exact .inl List.nil_infix
      · exact .inr later
    · rw [notHere (List.subset_append_right first second) starts,
        List.append_nil]
      exact .inl ends.isInfix
  · rintro (before | behind)
    · exact before.trans (List.prefix_append front (c :: rest)).isInfix
    · exact behind.trans ⟨front ++ [c], [], by simp⟩

theorem infix_gap_append_iff (lacks : ∀ c ∈ gap, c ∉ word) :
    word <:+: gap ++ rest ↔ word <:+: rest := by
  induction gap with
  | nil => rfl
  | cons c gap ih =>
      obtain ⟨first, later⟩ := List.forall_mem_cons.mp lacks
      have split : word <:+: [] ++ c :: (gap ++ rest) ↔ _ :=
        infix_append_cons_iff first
      rw [List.nil_append] at split
      rw [List.cons_append, split, ih later]
      constructor
      · rintro (isEmpty | behind)
        · rw [List.infix_nil.mp isEmpty]
          exact List.nil_infix
        · exact behind
      · exact .inr

theorem infix_append_gap_iff (lacks : ∀ c ∈ gap, c ∉ word) :
    word <:+: front ++ gap ↔ word <:+: front := by
  cases gap with
  | nil => rw [List.append_nil]
  | cons c gap =>
      obtain ⟨first, later⟩ := List.forall_mem_cons.mp lacks
      have emptied : word <:+: gap ++ [] ↔ _ := infix_gap_append_iff later
      rw [List.append_nil] at emptied
      rw [infix_append_cons_iff first, emptied, List.infix_nil]
      constructor
      · rintro (before | rfl)
        · exact before
        · exact List.nil_infix
      · exact .inl

/-! ## Characters that are no small letters -/

theorem isLower_of_isBlank (blank : isBlank c = true) : c.isLower = false := by
  rw [← Bool.not_eq_true]
  intro letter
  have alphanumeric := isAlphanum_of_isAlpha (isAlpha_of_isLower letter)
  rw [isBlank_of_isAlphanum alphanumeric] at blank
  cases blank

theorem isLower_of_not_ascii (other : isAscii c = false) :
    c.isLower = false := by
  rw [← Bool.not_eq_true]
  intro letter
  rw [isAscii_of_isSmall (Bool.or_eq_true_iff.mpr (.inl letter))] at other
  cases other

theorem isLower_of_isDigit (digit : c.isDigit = true) : c.isLower = false :=
  of_isSmall (fun c => c.isDigit = true → c.isLower = false) (by decide)
    (Bool.or_eq_true_iff.mpr (.inr digit)) digit

/-! ## Mentions -/

/-- A piece of the text is the keyword, in whatever case it is written. -/
def Mentions (text keyword : List Char) : Prop :=
  ∃ piece, piece <:+: text ∧ equalIgnoringAsciiCase piece keyword = true

theorem mentions_iff {keyword : List Char} :
    Mentions text keyword ↔ fold keyword <:+: fold text := by
  constructor
  · rintro ⟨piece, inText, same⟩
    rw [← equalIgnoringAsciiCase_iff.mp same]
    exact inText.map Char.toLower
  · intro isInfix
    obtain ⟨piece, inText, same⟩ := List.infix_map_iff.mp isInfix
    exact ⟨piece, inText, equalIgnoringAsciiCase_iff.mpr same.symm⟩

instance decidableMentions (text keyword : List Char) :
    Decidable (Mentions text keyword) :=
  decidable_of_iff (occursIn (fold keyword) (fold text) = true)
    (occursIn_iff.trans mentions_iff.symm)

/-- A word of lowercase letters that no other character is lowercased to: the
kelvin sign becomes a k, and an i with a dot behind it comes from a capital. -/
structure IsKeyword (word : List Char) : Prop where
  letters : ∀ c ∈ word, c.isLower = true
  noKelvin : 'k' ∉ word
  noDotted : word.getLast? ≠ some 'i'

instance decidableIsKeyword (word : List Char) : Decidable (IsKeyword word) :=
  decidable_of_iff (word.all Char.isLower = true ∧ 'k' ∉ word ∧
      word.getLast? ≠ some 'i')
    ⟨fun ⟨letters, noKelvin, noDotted⟩ =>
        ⟨List.all_eq_true.mp letters, noKelvin, noDotted⟩,
      fun ⟨letters, noKelvin, noDotted⟩ =>
        ⟨List.all_eq_true.mpr letters, noKelvin, noDotted⟩⟩

namespace IsKeyword

variable (keyword : IsKeyword word)
include keyword

theorem not_mem (notLower : c.isLower = false) : c ∉ word := by
  intro membership
  rw [keyword.letters c membership] at notLower
  cases notLower

theorem infix_concat_dotted_iff :
    word <:+: front ++ ['i'] ↔ word <:+: front := by
  rw [List.infix_concat_iff, List.suffix_concat_iff]
  constructor
  · rintro ((rfl | ⟨shorter, rfl, _⟩) | before)
    · exact List.nil_infix
    · exact absurd List.getLast?_concat keyword.noDotted
    · exact before
  · exact .inr

/-- A character outside the ASCII range parts the text before and after it. -/
theorem infix_append_lowerChar_iff (other : isAscii c = false) :
    word <:+: front ++ (lowerChar c ++ rest) ↔
      word <:+: front ∨ word <:+: rest := by
  rcases lowerChar_of_not_ascii other with ⟨d, image, _, parts⟩ | dotted
  · have lacks : d ∉ word := by
      rcases parts with otherImage | rfl
      · exact keyword.not_mem (isLower_of_not_ascii otherImage)
      · exact keyword.noKelvin
    rw [image]
    exact infix_append_cons_iff lacks
  · have lacks : '\u0307' ∉ word := keyword.not_mem (by decide)
    have split : word <:+: (front ++ ['i']) ++ '\u0307' :: rest ↔ _ :=
      infix_append_cons_iff lacks
    rw [keyword.infix_concat_dotted_iff, List.append_assoc] at split
    rwa [dotted]

theorem infix_append_lowerSigma_iff (before after : List Char) :
    word <:+: front ++ lowerSigma before after :: rest ↔
      word <:+: front ∨ word <:+: rest := by
  apply infix_append_cons_iff
  rcases lowerSigma_cases before after with final | inner
  · rw [final]
    exact keyword.not_mem (by decide)
  · rw [inner]
    exact keyword.not_mem (by decide)

/-- The letters of the ASCII range that are read are kept in front, since a
keyword may go on behind them. -/
theorem infix_append_lowerAfter_iff (before : List Char) :
    word <:+: front ++ lowerAfter before text ↔
      word <:+: front ++ fold text := by
  induction text generalizing before front with
  | nil => rfl
  | cons c rest ih =>
      rw [lowerAfter, fold_cons]
      cases ascii : isAscii c with
      | true =>
          have notSigma : c ≠ capitalSigma := by
            rintro rfl
            exact absurd ascii (by decide)
          have further := @ih (front ++ [c.toLower]) (c :: before)
          simpa [notSigma, lowerChar_of_ascii ascii] using further
      | false =>
          have unfolded : c.toLower = c := by
            apply toLower_of_not_isUpper
            rw [← Bool.not_eq_true]
            intro upper
            rw [isAscii_of_isUpper upper] at ascii
            cases ascii
          have later := @ih [] (c :: before)
          rw [List.nil_append, List.nil_append] at later
          have lacks : c ∉ word := keyword.not_mem (isLower_of_not_ascii ascii)
          rw [unfolded, infix_append_cons_iff lacks, ← later]
          split
          · exact keyword.infix_append_lowerSigma_iff before rest
          · exact keyword.infix_append_lowerChar_iff ascii

/-- The lowercase form of a text has the keywords that the text mentions. -/
theorem infix_lower_iff : word <:+: lower text ↔ word <:+: fold text :=
  @infix_append_lowerAfter_iff word [] text keyword []

/-! ## Trimming -/

theorem infix_trimStart_iff : word <:+: trimStart text ↔ word <:+: text := by
  have shape := List.takeWhile_append_dropWhile (p := isBlank) (l := text)
  have lacks : ∀ c ∈ text.takeWhile isBlank, c ∉ word := fun c membership =>
    keyword.not_mem (isLower_of_isBlank (List.mem_takeWhile_imp membership))
  rw [← infix_gap_append_iff lacks, trimStart, shape]

theorem infix_trimEnd_iff : word <:+: trimEnd text ↔ word <:+: text := by
  obtain ⟨gap, blank, shape⟩ := exists_trimEnd_append text
  have lacks : ∀ c ∈ gap, c ∉ word := fun c membership =>
    keyword.not_mem (isLower_of_isBlank (blank c membership))
  rw [← infix_append_gap_iff lacks, ← shape]

theorem infix_trim_iff : word <:+: trim text ↔ word <:+: text := by
  rw [trim, keyword.infix_trimEnd_iff, keyword.infix_trimStart_iff]

end IsKeyword

end SchemaAtlas.Text
