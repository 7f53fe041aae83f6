import SchemaAtlas.Proofs.Text.Cutting
import SchemaAtlas.Proofs.Text.Numerals
import SchemaAtlas.Proofs.Text.Symbols

/-!
# Folding the case of ASCII letters

Two texts agree up to the case of ASCII letters if they are the same once these
are folded to lowercase.  Folding turns no character into white space, a digit,
a mark or a separator, or out of one, so a cut finds the folded pieces of the
text.  The case mappings of a folded text are those of the text itself.
-/

namespace SchemaAtlas.Text

/-- The text with its ASCII letters in lowercase. -/
def fold (text : List Char) : List Char :=
  text.map Char.toLower

theorem equalIgnoringAsciiCase_iff {left right : List Char} :
    equalIgnoringAsciiCase left right = true ↔ fold left = fold right :=
  beq_iff_eq

theorem length_of_equalIgnoringAsciiCase {left right : List Char}
    (same : equalIgnoringAsciiCase left right = true) :
    left.length = right.length := by
  simpa using congrArg List.length (eq_of_beq same)

theorem equalIgnoringAsciiCase_take {left right : List Char} (count : Nat)
    (same : equalIgnoringAsciiCase left right = true) :
    equalIgnoringAsciiCase (left.take count) (right.take count) = true := by
  rw [equalIgnoringAsciiCase, List.map_take, List.map_take, eq_of_beq same]
  exact beq_self_eq_true _

@[simp] theorem fold_nil : fold [] = [] := rfl

@[simp] theorem fold_cons (c : Char) (rest : List Char) :
    fold (c :: rest) = c.toLower :: fold rest := rfl

@[simp] theorem fold_append (front rest : List Char) :
    fold (front ++ rest) = fold front ++ fold rest :=
  List.map_append

@[simp] theorem isEmpty_fold (text : List Char) :
    (fold text).isEmpty = text.isEmpty :=
  List.isEmpty_map

/-! ## Characters -/

/-- Only capitals are folded, so it is enough to look at the ASCII range. -/
theorem of_toLower {β : Type} {f : Char → β}
    (each : ∀ code : Fin 128, f (Char.ofNat code).toLower = f (Char.ofNat code))
    (c : Char) : f c.toLower = f c := by
  cases upper : c.isUpper with
  | false => rw [toLower_of_not_isUpper upper]
  | true =>
      exact of_isAscii (fun c => f c.toLower = f c) each
        (isAscii_of_isUpper upper)

theorem toLower_toLower (c : Char) : c.toLower.toLower = c.toLower :=
  of_toLower (by decide) c

theorem isDigit_toLower (c : Char) : c.toLower.isDigit = c.isDigit :=
  of_toLower (by decide) c

theorem isBlank_toLower (c : Char) : isBlank c.toLower = isBlank c :=
  of_toLower (by decide) c

theorem isCased_toLower (c : Char) : isCased c.toLower = isCased c :=
  of_toLower (by decide) c

theorem isCaseIgnorable_toLower (c : Char) :
    isCaseIgnorable c.toLower = isCaseIgnorable c :=
  of_toLower (by decide) c

theorem lowerChar_toLower (c : Char) : lowerChar c.toLower = lowerChar c :=
  of_toLower (by decide) c

theorem upperChar_toLower (c : Char) : upperChar c.toLower = upperChar c :=
  of_toLower (by decide) c

/-- Folding makes no character that is not a letter. -/
theorem toLower_eq_iff {symbol c : Char} (notAlpha : symbol.isAlpha = false) :
    c.toLower = symbol ↔ c = symbol := by
  constructor
  · exact eq_of_toLower_eq notAlpha
  · rintro rfl
    exact toLower_of_not_isUpper (Bool.or_eq_false_iff.mp notAlpha).1

theorem mem_fold_iff {symbol : Char} (notAlpha : symbol.isAlpha = false)
    {text : List Char} : symbol ∈ fold text ↔ symbol ∈ text := by
  simp [fold, toLower_eq_iff notAlpha]

theorem fold_fold (text : List Char) : fold (fold text) = fold text := by
  rw [fold, fold, List.map_map]
  exact List.map_congr_left fun c _ => toLower_toLower c

/-- A text is all of letters if another one is that differs from it in their
case only. -/
theorem isAlpha_of_fold_eq {text other : List Char}
    (same : fold other = fold text)
    (letters : ∀ c ∈ other, c.isAlpha = true) :
    ∀ c ∈ text, c.isAlpha = true := by
  have unfolded (c : Char) : c.toLower.isAlpha = c.isAlpha :=
    of_toLower (by decide) c
  intro c membership
  have folded : c.toLower ∈ fold other := by
    rw [same]
    exact List.mem_map_of_mem membership
  obtain ⟨source, inOther, alike⟩ := List.mem_map.mp folded
  rw [← unfolded, ← alike, unfolded]
  exact letters source inOther

/-! ## Trimming and cutting -/

theorem dropWhile_fold {drops : Char → Bool}
    (folds : ∀ c : Char, drops c.toLower = drops c) (text : List Char) :
    (fold text).dropWhile drops = fold (text.dropWhile drops) := by
  have same : drops ∘ Char.toLower = drops := funext folds
  rw [fold, List.dropWhile_map, same]
  rfl

theorem reverse_fold (text : List Char) :
    (fold text).reverse = fold text.reverse :=
  List.map_reverse.symm

theorem trimStart_fold (text : List Char) :
    trimStart (fold text) = fold (trimStart text) :=
  dropWhile_fold isBlank_toLower text

theorem trimEnd_fold (text : List Char) :
    trimEnd (fold text) = fold (trimEnd text) := by
  simp only [trimEnd, reverse_fold, dropWhile_fold isBlank_toLower]

theorem trim_fold (text : List Char) : trim (fold text) = fold (trim text) := by
  rw [trim, trimStart_fold, trimEnd_fold]
  rfl

theorem splitOnce?_fold {separator : Char}
    (notAlpha : separator.isAlpha = false) (text : List Char) :
    splitOnce? separator (fold text) =
      (splitOnce? separator text).map fun cut => (fold cut.1, fold cut.2) := by
  induction text with
  | nil => rfl
  | cons c rest ih =>
      simp only [fold_cons, splitOnce?, toLower_eq_iff notAlpha, ih]
      split
      · rfl
      · simp [Option.map_map, Function.comp_def]

theorem splitOn_fold {separator : Char} (notAlpha : separator.isAlpha = false)
    (text : List Char) :
    splitOn separator (fold text) = (splitOn separator text).map fold := by
  induction text with
  | nil => rfl
  | cons c rest ih =>
      simp only [fold_cons, splitOn, toLower_eq_iff notAlpha, ih]
      split
      · rfl
      · cases splitOn separator rest with
        | nil => rfl
        | cons piece pieces => rfl

/-- Folding makes no text without letters either. -/
theorem fold_eq_iff {ending : List Char}
    (noLetters : ∀ c ∈ ending, c.isAlpha = false) {text : List Char} :
    fold text = ending ↔ text = ending := by
  induction text generalizing ending with
  | nil => rfl
  | cons c rest ih =>
      cases ending with
      | nil => simp
      | cons symbol later =>
          obtain ⟨first, others⟩ := List.forall_mem_cons.mp noLetters
          rw [fold_cons, List.cons.injEq, List.cons.injEq, toLower_eq_iff first,
            ih others]

theorem suffix_fold_iff {ending : List Char}
    (noLetters : ∀ c ∈ ending, c.isAlpha = false) {text : List Char} :
    ending <:+ fold text ↔ ending <:+ text := by
  constructor
  · intro isSuffix
    obtain ⟨piece, inText, folded⟩ := List.suffix_map_iff.mp isSuffix
    rwa [← (fold_eq_iff noLetters).mp folded.symm]
  · intro isSuffix
    have folded := isSuffix.map Char.toLower
    rwa [← fold, ← fold, (fold_eq_iff noLetters).mpr rfl] at folded

theorem withoutEnd?_fold {ending : List Char}
    (noLetters : ∀ c ∈ ending, c.isAlpha = false) (text : List Char) :
    withoutEnd? ending (fold text) = (withoutEnd? ending text).map fold := by
  simp only [withoutEnd?, List.isSuffixOf_iff_suffix, suffix_fold_iff noLetters]
  split
  · simp [fold, List.map_take]
  · rfl

/-! ## Case mappings -/

theorem startsCased_fold (text : List Char) :
    startsCased (fold text) = startsCased text := by
  rw [startsCased, dropWhile_fold isCaseIgnorable_toLower, startsCased]
  cases text.dropWhile isCaseIgnorable with
  | nil => rfl
  | cons c rest => exact isCased_toLower c

theorem lowerAfter_fold (before text : List Char) :
    lowerAfter (fold before) (fold text) = lowerAfter before text := by
  induction text generalizing before with
  | nil => rfl
  | cons c rest ih =>
      have sigma : c.toLower = capitalSigma ↔ c = capitalSigma :=
        toLower_eq_iff (by decide)
      have later := ih (c :: before)
      rw [fold_cons] at later
      simp only [fold_cons, lowerAfter, lowerSigma, startsCased_fold,
        lowerChar_toLower, sigma, later]

theorem lower_fold (text : List Char) : lower (fold text) = lower text :=
  lowerAfter_fold [] text

theorem upper_fold (text : List Char) : upper (fold text) = upper text := by
  rw [upper, fold, List.flatMap_map]
  exact List.flatMap_congr fun c _ => upperChar_toLower c

/-! ## Numerals -/

theorem natural?_fold (text : List Char) :
    natural? (fold text) = natural? text := by
  by_cases digits : ∀ c ∈ text, c.isDigit = true
  · have kept : fold text = text := by
      apply (List.map_congr_left fun c membership => ?_).trans (List.map_id _)
      exact of_isSmall (fun c => c.toLower = c) (by decide)
        (Bool.or_eq_true_iff.mpr (.inr (digits c membership)))
    rw [kept]
  · have odd : ¬ ∀ c ∈ fold text, c.isDigit = true := by
      simpa [fold, isDigit_toLower] using digits
    have unread {other : List Char} (odd : ¬ ∀ c ∈ other, c.isDigit = true) :
        natural? other = none := by
      rw [Option.eq_none_iff_forall_ne_some]
      intro value read
      exact odd (natural?_eq_some_iff.mp read).2.1
    rw [unread odd, unread digits]

theorem unsigned32?_fold (text : List Char) :
    unsigned32? (fold text) = unsigned32? text := by
  by_cases signed : text.head? = some '+'
  · obtain ⟨rest, rfl⟩ := List.head?_eq_some_iff.mp signed
    exact congrArg (Option.filter _) (natural?_fold rest)
  · have unsigned : (fold text).head? ≠ some '+' := by
      cases text with
      | nil => exact signed
      | cons c rest => simpa [toLower_eq_iff] using signed
    rw [unsigned32?_of_head signed, unsigned32?_of_head unsigned, natural?_fold]

end SchemaAtlas.Text
