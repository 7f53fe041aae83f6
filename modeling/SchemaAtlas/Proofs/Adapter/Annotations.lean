import SchemaAtlas.Adapter.PostgreSql
import SchemaAtlas.Proofs.Pattern.Leftmost
import SchemaAtlas.Proofs.Text.Keywords

/-!
# Annotations in the lines of a query

An annotation is a cast together with a new name: two colons and the name of a
type, the word `AS` and the new name, with white space around the word.
`IsCast` says so without a pattern.  The pattern matches exactly the
annotations, wherever they stand (`matches_annotation_iff`), and a search takes
the first of a line, as long as it can be (`isFirstCast_of_find?`).
-/

namespace SchemaAtlas

open Text

namespace Pattern

/-! ## Characters that differ in case only -/

/-- Apart from three characters only ASCII letters are folded. -/
theorem of_fold (holds : Char → Char → Prop)
    (ascii : ∀ code : Fin 128, holds (Char.ofNat code) (fold (Char.ofNat code)))
    (longS : holds 'ſ' 's') (kelvin : holds '\u212A' 'k')
    (acute : holds 'É' 'é')
    (others : ∀ c, isAscii c = false → c ≠ 'ſ' → c ≠ '\u212A' → holds c c)
    (c : Char) : holds c (fold c) := by
  cases isAscii : isAscii c with
  | true => exact of_isAscii (fun c => holds c (fold c)) ascii isAscii
  | false =>
      have notUpper : c.isUpper = false := by
        rw [← Bool.not_eq_true]
        intro upper
        rw [isAscii_of_isUpper upper] at isAscii
        cases isAscii
      rw [fold]
      split
      next isLongS => exact isLongS ▸ longS
      next notLongS =>
        split
        next isKelvin => exact isKelvin ▸ kelvin
        next notKelvin =>
          split
          next isAcute => exact isAcute ▸ acute
          next =>
            rw [toLower_of_not_isUpper notUpper]
            exact others c isAscii notLongS notKelvin

theorem fold_eq_symbol_iff (symbol c : Char)
    (isSymbol : symbol ∈ [':', '_', '.']) : fold c = symbol ↔ c = symbol := by
  refine of_fold (fun c folded => folded = symbol ↔ c = symbol)
    ?_ ?_ ?_ ?_ (fun _ _ _ _ => Iff.rfl) c
  all_goals
    simp only [List.mem_cons, List.not_mem_nil, or_false] at isSymbol
    rcases isSymbol with rfl | rfl | rfl <;> decide

end Pattern

namespace PostgreSql

/-- Whether a character is a letter of a name, in either case.  The long s and
the kelvin sign differ from such letters in case only. -/
def isNameLetter (c : Char) : Bool :=
  c.isAlpha || c == 'ſ' || c == '\u212A'

/-- A name: a letter, and behind it at least one letter, digit, underscore or
dot. -/
inductive IsName : List Char → Prop where
  | intro {first : Char} {rest : List Char} :
      isNameLetter first = true → rest ≠ [] →
      (∀ c ∈ rest, isNameLetter c = true ∨ c.isDigit = true ∨ c = '_' ∨
        c = '.') →
      IsName (first :: rest)

def IsGap (text : List Char) : Prop :=
  text ≠ [] ∧ ∀ c ∈ text, isBlank c = true

inductive IsAs : List Char → Prop where
  | intro {a s : Char} : a ∈ ['a', 'A'] → s ∈ ['s', 'S', 'ſ'] → IsAs [a, s]

/-- A cast together with a new name, as in `::type AS name`. -/
inductive IsCast : List Char → Prop where
  | intro {type gap word space name : List Char} :
      IsName type → IsGap gap → IsAs word → IsGap space → IsName name →
      IsCast
        ([':', ':'] ++ (type ++ (gap ++ (word ++ (space ++ name)))))

variable {c : Char} {before piece after text : List Char}

/-! ## The pattern matches the annotations -/

theorem isLower_fold (c : Char) :
    (Pattern.fold c).isLower = isNameLetter c := by
  refine Pattern.of_fold (fun c folded => folded.isLower = isNameLetter c)
    (by decide) (by decide) (by decide) (by decide) ?_ c
  intro c other longS kelvin
  have notLetter : c.isAlpha = false := by
    rw [← Bool.not_eq_true]
    intro letter
    rw [isAscii_of_isAlphanum (isAlphanum_of_isAlpha letter)] at other
    cases other
  simp [isNameLetter, isLower_of_not_ascii other, notLetter, longS, kelvin]

theorem isNamePart_iff :
    isNamePart c = true ↔
      isNameLetter c = true ∨ c.isDigit = true ∨ c = '_' ∨ c = '.' := by
  have digit : (Pattern.fold c).isDigit = c.isDigit :=
    Pattern.of_fold (fun c folded => folded.isDigit = c.isDigit)
      (by decide) (by decide) (by decide) (by decide) (fun _ _ _ _ => rfl) c
  simp only [isNamePart, isLower_fold, digit, Bool.or_eq_true, beq_iff_eq,
    or_assoc, Pattern.fold_eq_symbol_iff '_' c (by decide),
    Pattern.fold_eq_symbol_iff '.' c (by decide)]

theorem fold_eq_a_iff : Pattern.fold c = 'a' ↔ c ∈ ['a', 'A'] := by
  refine Pattern.of_fold (fun c folded => folded = 'a' ↔ c ∈ ['a', 'A'])
    (by decide) (by decide) (by decide) (by decide) ?_ c
  intro c other _ _
  constructor
  · rintro rfl
    exact List.mem_cons_self
  · intro letter
    simp only [List.mem_cons, List.not_mem_nil, or_false] at letter
    rcases letter with rfl | rfl <;> cases other

theorem fold_eq_s_iff : Pattern.fold c = 's' ↔ c ∈ ['s', 'S', 'ſ'] := by
  refine Pattern.of_fold (fun c folded => folded = 's' ↔ c ∈ ['s', 'S', 'ſ'])
    (by decide) (by decide) (by decide) (by decide) ?_ c
  intro c other longS _
  constructor
  · rintro rfl
    exact List.mem_cons_self
  · intro letter
    simp only [List.mem_cons, List.not_mem_nil, or_false] at letter
    rcases letter with rfl | rfl | rfl
    · rfl
    · cases other
    · exact absurd rfl longS

private theorem matches_namePattern_iff :
    namePattern.Matches before piece after ↔ IsName piece := by
  simp only [namePattern, Pattern.matches_append_iff, Pattern.matches_one_iff,
    Pattern.matches_many_iff, isLower_fold, isNamePart_iff]
  constructor
  · rintro ⟨_, rest, rfl, ⟨first, rfl, letter⟩, some, parts⟩
    exact .intro letter some parts
  · rintro ⟨letter, some, parts⟩
    exact ⟨[_], _, rfl, ⟨_, rfl, letter⟩, some, parts⟩

private theorem matches_blanks_iff :
    (Pattern.many isBlank).Matches before piece after ↔ IsGap piece :=
  Pattern.matches_many_iff

/-- A literal of two characters matches two that are the same up to case. -/
private theorem matches_pair_iff {text : String} {first second : Char}
    (isPair : text.toList = [first, second]) :
    (Pattern.ofString text).Matches before piece after ↔
      ∃ one two, piece = [one, two] ∧ Pattern.fold one = first ∧
        Pattern.fold two = second := by
  rw [Pattern.matches_ofString_iff, isPair]
  constructor
  · intro same
    obtain ⟨one, _, rfl, atFirst, same⟩ := List.map_eq_cons_iff.mp same
    obtain ⟨two, _, rfl, atSecond, same⟩ := List.map_eq_cons_iff.mp same
    obtain rfl := List.map_eq_nil_iff.mp same
    exact ⟨one, two, rfl, atFirst, atSecond⟩
  · rintro ⟨one, two, rfl, rfl, rfl⟩
    rfl

private theorem matches_colons_iff :
    (Pattern.ofString "::").Matches before piece after ↔
      piece = [':', ':'] := by
  have isColon := fun c => Pattern.fold_eq_symbol_iff ':' c List.mem_cons_self
  rw [matches_pair_iff rfl]
  constructor
  · rintro ⟨one, two, rfl, first, second⟩
    rw [(isColon one).mp first, (isColon two).mp second]
  · rintro rfl
    exact ⟨':', ':', rfl, (isColon _).mpr rfl, (isColon _).mpr rfl⟩

private theorem matches_as_iff :
    (Pattern.ofString "as").Matches before piece after ↔ IsAs piece := by
  rw [matches_pair_iff rfl]
  constructor
  · rintro ⟨one, two, rfl, first, second⟩
    exact .intro (fold_eq_a_iff.mp first) (fold_eq_s_iff.mp second)
  · rintro ⟨first, second⟩
    exact ⟨_, _, rfl, fold_eq_a_iff.mpr first, fold_eq_s_iff.mpr second⟩

/-- The pattern matches the annotations, whatever stands around them. -/
theorem matches_annotation_iff :
    annotation.Matches before piece after ↔ IsCast piece := by
  unfold annotation
  simp only [Pattern.matches_append_iff, matches_namePattern_iff,
    matches_blanks_iff, matches_colons_iff, matches_as_iff]
  constructor
  · rintro ⟨_, name, rfl, ⟨_, space, rfl, ⟨_, word, rfl, ⟨_, gap, rfl,
      ⟨_, type, rfl, rfl, isType⟩, isGap⟩, isAs⟩, isSpace⟩, isName⟩
    simpa using IsCast.intro isType isGap isAs isSpace isName
  · rintro ⟨isType, isGap, isAs, isSpace, isName⟩
    exact ⟨_, _, by simp only [← List.append_assoc], ⟨_, _, rfl, ⟨_, _, rfl,
      ⟨_, _, rfl, ⟨_, _, rfl, rfl, isType⟩, isGap⟩, isAs⟩, isSpace⟩, isName⟩

/-! ## The first annotation of a text -/

theorem isBlank_of_isNamePart (part : isNamePart c = true) :
    isBlank c = false := by
  rcases isNamePart_iff.mp part with letter | digit | rfl | rfl
  · simp only [isNameLetter, Bool.or_eq_true, beq_iff_eq] at letter
    rcases letter with (letter | rfl) | rfl
    · exact isBlank_of_isAlphanum (isAlphanum_of_isAlpha letter)
    · decide
    · decide
  · exact isBlank_of_isAlphanum (Bool.or_eq_true_iff.mpr (.inr digit))
  · decide
  · decide

private theorem refuses_as : (Pattern.ofString "as").Refuses isBlank := by
  refine Pattern.Refuses.inRow (Pattern.refuses_one fun c blank => ?_)
  rw [beq_eq_false_iff_ne]
  intro isA
  have part : isNamePart c = true := by
    rw [isNamePart, isA]
    decide
  rw [isBlank_of_isNamePart part] at blank
  cases blank

private theorem refuses_namePattern : namePattern.Refuses isBlank := by
  refine Pattern.Refuses.inRow (Pattern.refuses_one fun c blank => ?_)
  rw [← Bool.not_eq_true]
  intro letter
  have part : isNamePart c = true := by
    rw [isNamePart, letter]
    rfl
  rw [isBlank_of_isNamePart part] at blank
  cases blank

private theorem longestFirst_namePattern : namePattern.LongestFirst :=
  Pattern.determinate_one.longestFirst_inRow Pattern.longestFirst_many

/-- White space ends a name and begins no word, so there is no choice in an
annotation but where its last name ends. -/
theorem longestFirst_annotation : annotation.LongestFirst := by
  have lastGap : Pattern.LongestFirst (.many isBlank ++ namePattern) :=
    refuses_namePattern.longestFirst_many_inRow longestFirst_namePattern
  have word : Pattern.LongestFirst ("as" ++ (.many isBlank ++ namePattern)) :=
    (Pattern.determinate_ofString "as").longestFirst_inRow lastGap
  have firstGap : Pattern.LongestFirst
      (.many isBlank ++ ("as" ++ (.many isBlank ++ namePattern))) :=
    refuses_as.inRow.longestFirst_many_inRow word
  have type : Pattern.LongestFirst (namePattern ++
      (.many isBlank ++ ("as" ++ (.many isBlank ++ namePattern)))) :=
    Pattern.longestFirst_inRow_inRow (Pattern.determinate_one.longestFirst_inRow
      (Pattern.Refuses.longestFirst_many_inRow
        (Pattern.refuses_many fun _ => isBlank_of_isNamePart).inRow firstGap))
  have colons := (Pattern.determinate_ofString "::").longestFirst_inRow type
  exact Pattern.longestFirst_inRow_inRow (Pattern.longestFirst_inRow_inRow
    (Pattern.longestFirst_inRow_inRow
      (Pattern.longestFirst_inRow_inRow colons)))

/-- No piece of a text is an annotation. -/
def IsFree (text : List Char) : Prop :=
  ∀ piece, piece <:+: text → ¬IsCast piece

/-- The first annotation of a text, as long as it can be, with what stands
before and behind it. -/
structure IsFirstCast (text before cast after : List Char) :
    Prop where
  shape : text = before ++ cast ++ after
  isCast : IsCast cast
  leftmost : ∀ {front piece back}, text = front ++ piece ++ back →
    IsCast piece → before.length ≤ front.length
  longest : ∀ {piece back}, text = before ++ piece ++ back →
    IsCast piece → piece.length ≤ cast.length

theorem find?_annotation_eq_none_iff :
    annotation.find? text = none ↔ IsFree text := by
  rw [Pattern.find?, Pattern.findFrom?_eq_none_iff]
  constructor
  · rintro absent piece ⟨front, back, shape⟩ isCast
    exact absent shape.symm (matches_annotation_iff.mpr isCast)
  · intro free front piece back shape matched
    exact free piece ⟨front, back, shape.symm⟩
      (matches_annotation_iff.mp matched)

instance : Decidable (IsFree text) :=
  decidable_of_iff _ find?_annotation_eq_none_iff

theorem isFirstCast_of_find? {found : Pattern.Found}
    (searched : annotation.find? text = some found) :
    IsFirstCast text found.before found.matched found.after := by
  have first := Pattern.isLeftmost_of_find? longestFirst_annotation searched
  exact {
    shape := first.shape
    isCast := matches_annotation_iff.mp first.isMatch
    leftmost := fun shape isCast =>
      first.leftmost shape (matches_annotation_iff.mpr isCast)
    longest := fun shape isCast =>
      first.longest shape (matches_annotation_iff.mpr isCast) }

end PostgreSql
end SchemaAtlas
