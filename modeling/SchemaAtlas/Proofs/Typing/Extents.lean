import SchemaAtlas.Proofs.Typing.Groups

/-!
# Sizes in descriptors

A size is one numeral or two with a comma between them, each with white space
around it.  A descriptor loses the first group in parentheses if that is a size,
and what stands before and behind the group is joined.  Every other descriptor
stays as it is, whatever groups come later in it.
-/

namespace SchemaAtlas

open Text

namespace Extent

/-- A part of a size: a numeral with white space around it. -/
inductive IsPart : List Char → Nat → Prop where
  | padded {before numeral after : List Char} {value : Nat}
      (blankBefore : ∀ c ∈ before, isBlank c = true)
      (blankAfter : ∀ c ∈ after, isBlank c = true)
      (denotes : Denotes32 numeral value) :
      IsPart (before ++ numeral ++ after) value

/-- A text between parentheses is a size. -/
inductive IsSize : List Char → Extent → Prop where
  | one {text : List Char} {precision : Nat}
    (isPrecision : IsPart text precision) :
      IsSize text ⟨some precision, .none⟩
  | two {first second : List Char} {precision scale : Nat}
      (isPrecision : IsPart first precision) (isScale : IsPart second scale) :
      IsSize (first ++ ',' :: second) ⟨some precision, some scale⟩

/-- A part of a size consists of digits, plus signs and white space. -/
theorem IsPart.mem {text : List Char} {value : Nat}
    (isPart : IsPart text value) :
    ∀ c ∈ text, isBlank c = true ∨ c.isDigit = true ∨ c = '+' := by
  cases isPart with
  | padded blankBefore blankAfter denotes =>
      intro c membership
      simp only [List.mem_append] at membership
      rcases membership with (inBefore | inNumeral) | inAfter
      · exact .inl (blankBefore c inBefore)
      · exact .inr (denotes.isDigit_or_plus c inNumeral)
      · exact .inl (blankAfter c inAfter)

theorem IsPart.not_mem_comma {text : List Char} {value : Nat}
    (isPart : IsPart text value) : ',' ∉ text := by
  intro membership
  exact absurd (isPart.mem ',' membership) (by decide)

theorem IsPart.unsigned32?_trim {text : List Char} {value : Nat}
    (isPart : IsPart text value) : unsigned32? (trim text) = some value := by
  cases isPart with
  | padded blankBefore blankAfter denotes =>
      have solid : ∀ c ∈ _, isBlank c = false := fun c membership => by
        rcases denotes.isDigit_or_plus c membership with digit | rfl
        · exact isBlank_of_isAlphanum (Bool.or_eq_true_iff.mpr (.inr digit))
        · decide
      rw [trim_padded blankBefore blankAfter, trim_of_solid solid]
      exact unsigned32?_eq_some_iff.mpr denotes

theorem isPart_of_unsigned32?_trim {text : List Char} {value : Nat}
    (read : unsigned32? (trim text) = some value) : IsPart text value := by
  obtain ⟨before, after, blankBefore, blankAfter, shape⟩ :=
    exists_padded_trim text
  rw [shape]
  exact .padded blankBefore blankAfter (unsigned32?_eq_some_iff.mp read)

private theorem isSize_of_read? {text : List Char} {extent : Extent}
    (read : read? text = some extent) : IsSize text extent := by
  by_cases single : ',' ∉ text
  · rw [read?_of_not_mem single, Option.map_eq_some_iff] at read
    obtain ⟨precision, isPrecision, rfl⟩ := read
    exact .one (isPart_of_unsigned32?_trim isPrecision)
  · obtain ⟨first, later, rfl, before⟩ :=
      List.eq_append_cons_of_mem (not_not.mp single)
    by_cases pair : ',' ∉ later
    · rw [read?_pair before pair, Option.bind_eq_some_iff] at read
      obtain ⟨precision, isPrecision, read⟩ := read
      obtain ⟨scale, isScale, rfl⟩ := Option.map_eq_some_iff.mp read
      exact .two (isPart_of_unsigned32?_trim isPrecision)
        (isPart_of_unsigned32?_trim isScale)
    · -- With a second comma there are at least three parts.
      obtain ⟨second, third, rfl, between⟩ :=
        List.eq_append_cons_of_mem (not_not.mp pair)
      rw [read?, splitOn_append before, splitOn_append between] at read
      cases shape : splitOn ',' third with
      | nil => exact absurd shape (splitOn_ne_nil ',' third)
      | cons _ _ =>
          rw [shape] at read
          cases read

private theorem read?_of_isSize {text : List Char} {extent : Extent}
    (isSize : IsSize text extent) : read? text = some extent := by
  cases isSize with
  | one isPrecision =>
      rw [read?_of_not_mem isPrecision.not_mem_comma,
        isPrecision.unsigned32?_trim]
      rfl
  | two isPrecision isScale =>
      rw [read?_pair isPrecision.not_mem_comma isScale.not_mem_comma,
        isPrecision.unsigned32?_trim, isScale.unsigned32?_trim]
      rfl

theorem read?_eq_some_iff {text : List Char} {extent : Extent} :
    read? text = some extent ↔ IsSize text extent :=
  ⟨isSize_of_read?, read?_of_isSize⟩

end Extent

namespace Descriptor

/-- What is left of a descriptor when its size is taken out, and that size. -/
inductive TakesOut : List Char → List Char × Extent → Prop where
  | size {head inner tail : List Char} {extent : Extent} (first : '(' ∉ head)
      (closed : ')' ∉ inner) (isSize : Extent.IsSize inner extent) :
      TakesOut (head ++ '(' :: inner ++ ')' :: tail)
        (trimEnd head ++
          (if trimStart tail = [] then [] else ' ' :: trimStart tail), extent)
  | noSize {head inner tail : List Char} (first : '(' ∉ head)
      (closed : ')' ∉ inner) (noSize : ∀ extent, ¬ Extent.IsSize inner extent) :
      TakesOut (head ++ '(' :: inner ++ ')' :: tail)
        (head ++ '(' :: inner ++ ')' :: tail, Extent.none)
  | unclosed {head rest : List Char} (first : '(' ∉ head)
    (unclosed : ')' ∉ rest) :
      TakesOut (head ++ '(' :: rest) (head ++ '(' :: rest, Extent.none)
  | unopened {descriptor : List Char} (unopened : '(' ∉ descriptor) :
      TakesOut descriptor (descriptor, Extent.none)

theorem close_eq (head tail : List Char) :
    close head tail = trimEnd head ++
      (if trimStart tail = [] then [] else ' ' :: trimStart tail) := by
  simp only [close, List.isEmpty_iff]
  split
  · rw [List.append_nil]
  · rfl

theorem firstGroup?_append {head inner tail : List Char} (first : '(' ∉ head)
    (closed : ')' ∉ inner) :
    firstGroup? (head ++ '(' :: inner ++ ')' :: tail) =
      some (head, inner, tail) := by
  simp [firstGroup?, splitOnce?_append first, splitOnce?_append closed]

private theorem splitExtent_of_takesOut {descriptor : List Char}
    {result : List Char × Extent} (takesOut : TakesOut descriptor result) :
    splitExtent descriptor = result := by
  cases takesOut with
  | size first closed isSize =>
      rw [splitExtent, firstGroup?_append first closed]
      simp only [Extent.read?_eq_some_iff.mpr isSize, close_eq]
  | @noSize head inner tail first closed noSize =>
      have unread : Extent.read? inner = none := by
        rw [Option.eq_none_iff_forall_ne_some]
        intro extent read
        exact noSize extent (Extent.read?_eq_some_iff.mp read)
      rw [splitExtent, firstGroup?_append first closed]
      simp only [unread]
  | unclosed first unclosed =>
      simp only [splitExtent, firstGroup?, splitOnce?_append first,
        Option.bind_some, splitOnce?_of_not_mem unclosed, Option.map_none]
  | unopened unopened => exact splitExtent_of_not_mem unopened

theorem exists_takesOut (descriptor : List Char) :
    ∃ result, TakesOut descriptor result := by
  by_cases opened : '(' ∈ descriptor
  · obtain ⟨head, rest, rfl, first⟩ := List.eq_append_cons_of_mem opened
    by_cases closes : ')' ∈ rest
    · obtain ⟨inner, tail, rfl, closed⟩ := List.eq_append_cons_of_mem closes
      rw [← List.cons_append, ← List.append_assoc]
      by_cases sized : ∃ extent, Extent.IsSize inner extent
      · obtain ⟨extent, isSize⟩ := sized
        exact ⟨_, .size first closed isSize⟩
      · exact ⟨_, .noSize first closed (not_exists.mp sized)⟩
    · exact ⟨_, .unclosed first closes⟩
  · exact ⟨_, .unopened opened⟩

theorem takesOut_splitExtent (descriptor : List Char) :
    TakesOut descriptor (splitExtent descriptor) := by
  obtain ⟨result, takesOut⟩ := exists_takesOut descriptor
  rwa [splitExtent_of_takesOut takesOut]

/-- A size is taken out of exactly the descriptors whose first group is one, and
nothing else is changed. -/
theorem splitExtent_eq_iff {descriptor : List Char}
    {result : List Char × Extent} :
    splitExtent descriptor = result ↔ TakesOut descriptor result := by
  constructor
  · rintro rfl
    exact takesOut_splitExtent descriptor
  · exact splitExtent_of_takesOut

example : splitExtent "timestamp( +3 ) with time zone(6)".toList =
    ("timestamp with time zone(6)".toList, ⟨some 3, none⟩) := by
  decide

end Descriptor

end SchemaAtlas
