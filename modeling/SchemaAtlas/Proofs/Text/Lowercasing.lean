import Mathlib.Data.List.Basic
import SchemaAtlas.Proofs.Text.Symbols

/-!
# Lowercase characters

No character that the lowercase mapping leads to is mapped any further, so a
text that was lowercased once stays as it is.  Only two characters outside the
ASCII range lead into it: the kelvin sign becomes `k`, and the capital I with a
dot becomes `i` with a combining dot behind it.
-/

namespace SchemaAtlas.Text

/-! ## Tables of shifts -/

namespace Shifts

def sources (shifts : Shifts) : List Nat :=
  shifts.flatMap fun (first, last, step, _) =>
    (List.range ((last - first) / step + 1)).map fun index =>
      first + index * step

/-- The code points that they are moved to. -/
def targets (shifts : Shifts) : List Nat :=
  shifts.flatMap fun (first, last, step, offset) =>
    (List.range ((last - first) / step + 1)).map fun index =>
      ((first + index * step : Nat) + offset).toNat

variable {shifts : Shifts} {code : Nat} {image : Char}

theorem mem_of_image? (found : shifts.image? code = some image) :
    code ∈ shifts.sources ∧ ∃ target ∈ shifts.targets, image =
      Char.ofNat target := by
  obtain ⟨⟨first, last, step, offset⟩, held, rfl⟩ :=
    Option.map_eq_some_iff.mp found
  have inTable := List.mem_of_find?_eq_some held
  have within := List.find?_some held
  simp only [Bool.and_eq_true, decide_eq_true_eq, beq_iff_eq] at within
  obtain ⟨⟨atLeast, atMost⟩, onComb⟩ := within
  -- The code point is the one of this index on the comb.
  have index : (code - first) / step ∈ List.range
      ((last - first) / step + 1) := by
    rw [List.mem_range, Nat.lt_succ_iff]
    exact Nat.div_le_div_right (by omega)
  have same : first + (code - first) / step * step = code := by
    have divided := Nat.div_mul_cancel (Nat.dvd_of_mod_eq_zero onComb)
    omega
  constructor
  · refine List.mem_flatMap.mpr ⟨_, inTable, List.mem_map.mpr ⟨_, index, same⟩⟩
  · refine ⟨(code + offset).toNat, ?_, rfl⟩
    refine List.mem_flatMap.mpr ⟨_, inTable, List.mem_map.mpr ⟨_, index, ?_⟩⟩
    simp only [same]

theorem image?_eq_none (unmoved : code ∉ shifts.sources) :
    shifts.image? code = none := by
  rw [Option.eq_none_iff_forall_ne_some]
  intro image found
  exact unmoved (mem_of_image? found).1

end Shifts

/-- The number whose binary digits mark the members of a list. -/
def marks (codes : List Nat) : Nat :=
  codes.foldr (fun code marked => 1 <<< code ||| marked) 0

theorem testBit_marks {codes : List Nat} {code : Nat} :
    (marks codes).testBit code = true ↔ code ∈ codes := by
  induction codes with
  | nil => simp [marks]
  | cons first rest ih =>
      have here : (1 <<< first).testBit code = decide (first = code) := by
        simp [Nat.one_shiftLeft, Nat.testBit_two_pow]
      rw [marks, List.foldr_cons, Nat.testBit_or, ← marks, here,
        Bool.or_eq_true, ih, decide_eq_true_eq, List.mem_cons, eq_comm]

/-- Two lists without a common mark have no common member. -/
theorem disjoint_of_marks {left right : List Nat}
    (apart : marks left &&& marks right = 0) : List.Disjoint left right := by
  intro code inLeft inRight
  have both : (marks left &&& marks right).testBit code = true := by
    rw [Nat.testBit_and, testBit_marks.mpr inLeft, testBit_marks.mpr inRight]
    rfl
  rw [apart, Nat.zero_testBit] at both
  cases both

/-! ## The lowercase mapping -/

theorem disjoint_lowercaseShifts :
    List.Disjoint lowercaseShifts.targets lowercaseShifts.sources := by
  apply disjoint_of_marks
  decide +kernel

/-- What the shifts lead to is a character that is no capital I with a dot, and
it is outside the ASCII range unless it is the letter k. -/
def isLowercaseTarget (target : Nat) : Bool :=
  decide target.isValidChar && (decide (128 ≤ target) || target == 'k'.toNat) &&
    target != 0x130

theorem isLowercaseTarget_of_mem {target : Nat}
    (isTarget : target ∈ lowercaseShifts.targets) :
    isLowercaseTarget target = true := by
  have each : lowercaseShifts.targets.all isLowercaseTarget = true := by
    decide +kernel
  exact List.all_eq_true.mp each target isTarget

private theorem lowerChar_of_unmoved {c : Char} (other : isAscii c = false)
    (undotted : c.toNat ≠ 0x130)
    (unmoved : lowercaseShifts.image? c.toNat = none) : lowerChar c = [c] := by
  have unexpanded : lowercaseExpansions.lookup c.toNat = none := by
    simpa [lowercaseExpansions, List.lookup_eq_none_iff] using undotted
  simp [lowerChar, other, unexpanded, unmoved]

private theorem lowerChar_ofNat_of_mem {target : Nat}
    (isTarget : target ∈ lowercaseShifts.targets) :
    lowerChar (Char.ofNat target) = [Char.ofNat target] ∧
      (isAscii (Char.ofNat target) = false ∨ Char.ofNat target = 'k') := by
  have allowed := isLowercaseTarget_of_mem isTarget
  simp only [isLowercaseTarget, Bool.and_eq_true, Bool.or_eq_true,
    decide_eq_true_eq, bne_iff_ne, beq_iff_eq] at allowed
  obtain ⟨⟨valid, large | isK⟩, undotted⟩ := allowed
  · have same := toNat_ofNat_of_isValidChar valid
    have other : isAscii (Char.ofNat target) = false := by
      rw [isAscii, same]
      exact decide_eq_false (by omega)
    refine ⟨lowerChar_of_unmoved other (by rwa [same]) ?_, .inl other⟩
    rw [same]
    exact Shifts.image?_eq_none (disjoint_lowercaseShifts isTarget)
  · subst isK
    exact ⟨by decide, .inr rfl⟩

/-- A character outside the ASCII range is lowercased to one character, which
stays as it is and is outside the range as well or the letter k, or to an i with
a dot. -/
theorem lowerChar_of_not_ascii {c : Char} (other : isAscii c = false) :
    (∃ d, lowerChar c = [d] ∧ lowerChar d = [d] ∧
      (isAscii d = false ∨ d = 'k')) ∨ lowerChar c = ['i', '\u0307'] := by
  by_cases dotted : c.toNat = 0x130
  · right
    have isDotted : c = 'İ' := Char.toNat_inj.mp dotted
    rw [isDotted]
    decide
  · left
    cases found : lowercaseShifts.image? c.toNat with
    | none =>
        have kept := lowerChar_of_unmoved other dotted found
        exact ⟨c, kept, kept, .inl other⟩
    | some image =>
        obtain ⟨_, target, isTarget, rfl⟩ := Shifts.mem_of_image? found
        have unexpanded : lowercaseExpansions.lookup c.toNat = none := by
          simpa [lowercaseExpansions, List.lookup_eq_none_iff] using dotted
        refine ⟨Char.ofNat target, ?_, lowerChar_ofNat_of_mem isTarget⟩
        simp [lowerChar, other, unexpanded, found]

/-- What a character is lowercased to stays as it is. -/
theorem lowerChar_of_mem_lowerChar {c d : Char} (isImage : d ∈ lowerChar c) :
    lowerChar d = [d] := by
  cases ascii : isAscii c with
  | true =>
      rw [lowerChar_of_ascii ascii, List.mem_singleton] at isImage
      rw [isImage]
      exact of_isAscii (fun c => lowerChar c.toLower = [c.toLower]) (by decide)
        ascii
  | false =>
      rcases lowerChar_of_not_ascii ascii with
        ⟨image, lowered, kept, _⟩ | dotted
      · rw [lowered, List.mem_singleton] at isImage
        rwa [isImage]
      · rw [dotted] at isImage
        rcases List.mem_pair.mp isImage with rfl | rfl
        · decide
        · decide

theorem lowerSigma_cases (before after : List Char) :
    lowerSigma before after = 'ς' ∨ lowerSigma before after = 'σ' := by
  rw [lowerSigma]
  split
  · exact .inl rfl
  · exact .inr rfl

/-- A character of a lowercase text is a small sigma or what a letter of the
text is lowercased to. -/
theorem mem_lowerAfter_cases {before text : List Char} {image : Char}
    (membership : image ∈ lowerAfter before text) :
    image = 'ς' ∨ image = 'σ' ∨
      ∃ c ∈ text, c ≠ capitalSigma ∧ image ∈ lowerChar c := by
  induction text generalizing before with
  | nil => cases membership
  | cons first rest ih =>
      rw [lowerAfter, List.mem_append] at membership
      rcases membership with here | later
      · split at here
        · rw [List.mem_singleton.mp here]
          exact (lowerSigma_cases before rest).imp_right .inl
        · next notSigma =>
          exact .inr (.inr ⟨first, List.mem_cons_self, notSigma, here⟩)
      · rcases ih later with final | inner | ⟨c, inRest, notSigma, isImage⟩
        · exact .inl final
        · exact .inr (.inl inner)
        · exact .inr
            (.inr ⟨c, List.mem_cons_of_mem first inRest, notSigma, isImage⟩)

theorem lowerChar_of_mem_lowerAfter {before text : List Char} {c : Char}
    (membership : c ∈ lowerAfter before text) : lowerChar c = [c] := by
  rcases mem_lowerAfter_cases membership with rfl | rfl | ⟨_, _, _, isImage⟩
  · decide
  · decide
  · exact lowerChar_of_mem_lowerChar isImage

theorem flatMap_lowerChar_eq_self {text : List Char}
    (small : ∀ c ∈ text, lowerChar c = [c]) :
    text.flatMap lowerChar = text := by
  rw [List.flatMap_congr small, List.flatMap_singleton']

/-- Only a capital sigma looks at its surroundings. -/
theorem lowerAfter_of_not_mem {before text : List Char}
    (absent : capitalSigma ∉ text) :
    lowerAfter before text = text.flatMap lowerChar := by
  induction text generalizing before with
  | nil => rfl
  | cons c rest ih =>
      rw [List.mem_cons, not_or] at absent
      obtain ⟨notSigma, later⟩ := absent
      rw [lowerAfter, if_neg (Ne.symm notSigma), ih later, List.flatMap_cons]

/-- A text is lowercase already if lowercasing leaves each of its characters
alone. -/
theorem lowerAfter_eq_self {before text : List Char}
    (kept : ∀ c ∈ text, lowerChar c = [c]) : lowerAfter before text = text := by
  have noSigma : capitalSigma ∉ text := fun isSigma =>
    absurd (kept capitalSigma isSigma) (by decide)
  rw [lowerAfter_of_not_mem noSigma, flatMap_lowerChar_eq_self kept]

end SchemaAtlas.Text
