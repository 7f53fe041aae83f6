import Mathlib.Tactic.Common
import SchemaAtlas.Text.Blank
import SchemaAtlas.Text.LetterCase
import SchemaAtlas.Text.Numeric

/-!
# ASCII characters

What holds of each ASCII character is checked for all of them.  ASCII letters
and digits are letters and numbers, and none of these is white space.
-/

namespace SchemaAtlas.Text

/-- What holds of each of the first 128 code points holds of every ASCII
character. -/
theorem of_isAscii (holds : Char → Prop)
    (each : ∀ code : Fin 128, holds (Char.ofNat code)) {c : Char}
    (ascii : isAscii c = true) : holds c := by
  have atCode := each ⟨c.toNat, of_decide_eq_true ascii⟩
  rwa [Char.ofNat_toNat] at atCode

theorem bounds_of_isAlphanum {c : Char} (alphanumeric : c.isAlphanum = true) :
    48 ≤ c.toNat ∧ c.toNat ≤ 122 := by
  rcases Bool.or_eq_true_iff.mp alphanumeric with letter | digit
  · rcases Bool.or_eq_true_iff.mp letter with upper | lower
    · have within : c.val ≥ 'A'.val ∧ c.val ≤ 'Z'.val :=
        of_decide_eq_true upper
      simp only [ge_iff_le, UInt32.le_iff_toNat_le] at within
      change 65 ≤ c.toNat ∧ c.toNat ≤ 90 at within
      omega
    · obtain ⟨atLeast, atMost⟩ := Bool.and_eq_true_iff.mp lower
      have atLeastA := UInt32.le_iff_toNat_le.mp (of_decide_eq_true atLeast)
      have atMostZ := UInt32.le_iff_toNat_le.mp (of_decide_eq_true atMost)
      change 97 ≤ c.toNat at atLeastA
      change c.toNat ≤ 122 at atMostZ
      omega
  · have within := Char.isDigit_iff_toNat.mp digit
    change 48 ≤ c.toNat ∧ c.toNat ≤ 57 at within
    omega

theorem isBlank_of_isAlphanum {c : Char} (alphanumeric : c.isAlphanum = true) :
    isBlank c = false := by
  have visible := bounds_of_isAlphanum alphanumeric
  have notSpace : c ≠ ' ' := by
    rintro rfl
    exact absurd visible.1 (by decide)
  simp only [isBlank, Bool.or_eq_false_iff]
  simp [notSpace]
  omega

theorem toLower_of_not_isUpper {c : Char} (notUpper : c.isUpper = false) :
    c.toLower = c :=
  dif_neg (of_decide_eq_false notUpper)

def isSmall (c : Char) : Bool :=
  c.isLower || c.isDigit

theorem isAlphanum_of_isAlpha {c : Char} (letter : c.isAlpha = true) :
    c.isAlphanum = true :=
  Bool.or_eq_true_iff.mpr (Or.inl letter)

theorem isAlpha_of_isUpper {c : Char} (upper : c.isUpper = true) :
    c.isAlpha = true :=
  Bool.or_eq_true_iff.mpr (Or.inl upper)

theorem isAlpha_of_isLower {c : Char} (lower : c.isLower = true) :
    c.isAlpha = true :=
  Bool.or_eq_true_iff.mpr (Or.inr lower)

theorem isAscii_of_isAlphanum {c : Char} (alphanumeric : c.isAlphanum = true) :
    isAscii c = true := by
  have atMost := (bounds_of_isAlphanum alphanumeric).2
  exact decide_eq_true (Nat.lt_of_le_of_lt atMost (by decide))

theorem isAscii_of_isSmall {c : Char} (small : isSmall c = true) :
    isAscii c = true := by
  apply isAscii_of_isAlphanum
  rcases Bool.or_eq_true_iff.mp small with lower | digit
  · exact isAlphanum_of_isAlpha (isAlpha_of_isLower lower)
  · exact Bool.or_eq_true_iff.mpr (Or.inr digit)

theorem of_isSmall (holds : Char → Prop)
    (each : ∀ code : Fin 128, isSmall (Char.ofNat code) = true →
      holds (Char.ofNat code)) {c : Char} (small : isSmall c = true) :
    holds c :=
  of_isAscii (fun c => isSmall c = true → holds c) each
    (isAscii_of_isSmall small) small

theorem isUppercase_of_isSmall {c : Char} (small : isSmall c = true) :
    isUppercase c = false :=
  of_isSmall (fun c => isUppercase c = false) (by decide) small

theorem isAscii_of_isUpper {c : Char} (upper : c.isUpper = true) :
    isAscii c = true :=
  isAscii_of_isAlphanum (isAlphanum_of_isAlpha (isAlpha_of_isUpper upper))

theorem isUppercase_of_isUpper {c : Char} (upper : c.isUpper = true) :
    isUppercase c = true := by
  rw [isUppercase, if_pos (isAscii_of_isUpper upper), upper]

theorem isAlphabetic_of_isUpper {c : Char} (upper : c.isUpper = true) :
    isAlphabetic c = true := by
  rw [isAlphabetic, if_pos (isAscii_of_isUpper upper),
    isAlpha_of_isUpper upper]

theorem isAlphanumeric_of_isAlpha {c : Char} (letter : c.isAlpha = true) :
    isAlphanumeric c = true :=
  of_isAscii (fun c => c.isAlpha = true → isAlphanumeric c = true) (by decide)
    (isAscii_of_isAlphanum (isAlphanum_of_isAlpha letter)) letter

theorem isDigit_of_isAlpha {c : Char} (letter : c.isAlpha = true) :
    c.isDigit = false :=
  of_isAscii (fun c => c.isAlpha = true → c.isDigit = false) (by decide)
    (isAscii_of_isAlphanum (isAlphanum_of_isAlpha letter)) letter

/-! ## White space -/

def blankCodes : List Nat :=
  [0x20, 0x9, 0xA, 0xB, 0xC, 0xD, 0x85, 0xA0, 0x1680, 0x2028, 0x2029, 0x202F,
    0x205F, 0x3000, 0x2000, 0x2001, 0x2002, 0x2003, 0x2004, 0x2005, 0x2006,
    0x2007, 0x2008, 0x2009, 0x200A]

variable {c : Char}

private theorem mem_blankCodes (blank : isBlank c = true) :
    c.toNat ∈ blankCodes := by
  simp only [isBlank, Bool.or_eq_true, Bool.and_eq_true, decide_eq_true_eq,
    beq_iff_eq, List.contains_iff_mem] at blank
  rcases blank with ((rfl | control) | listed) | spaces
  · decide
  · simp only [blankCodes, List.mem_cons]
    omega
  · simp only [blankCodes, List.mem_cons, List.not_mem_nil,
      or_false] at listed ⊢
    omega
  · simp only [blankCodes, List.mem_cons]
    omega

theorem isAlphanumeric_of_isBlank (blank : isBlank c = true) :
    isAlphanumeric c = false := by
  have each : blankCodes.all (fun code => !isAlphanumeric (Char.ofNat code)) =
      true := by
    decide +kernel
  have absent := List.all_eq_true.mp each c.toNat (mem_blankCodes blank)
  rwa [Char.ofNat_toNat, Bool.not_eq_true'] at absent

end SchemaAtlas.Text
